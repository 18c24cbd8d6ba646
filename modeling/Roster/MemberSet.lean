/-!
# Sets of member ids

A member is known by an id, which may be any text. A set of ids is kept as its strictly ascending
list, in the order of code points, so that equal sets are equal values and the list is the order in
which the set is shown and stored.
-/

namespace Roster

/-- The id of a member. -/
abbrev MemberId := String

/-- A set of member ids, as its strictly ascending list. -/
structure MemberSet where
  ids : List MemberId
  ascending : ids.Pairwise (· < ·)
deriving DecidableEq

namespace MemberSet

instance : Membership MemberId MemberSet := ⟨fun set x => x ∈ set.ids⟩

instance (x : MemberId) (set : MemberSet) : Decidable (x ∈ set) :=
  inferInstanceAs (Decidable (x ∈ set.ids))

theorem mem_iff {x : MemberId} {set : MemberSet} : x ∈ set ↔ x ∈ set.ids := Iff.rfl

def empty : MemberSet := ⟨[], .nil⟩

instance : EmptyCollection MemberSet := ⟨empty⟩

def contains (set : MemberSet) (x : MemberId) : Bool := set.ids.contains x

/-- Puts an id before the first greater one, unless it is there already. -/
def place (x : MemberId) : List MemberId → List MemberId
  | [] => [x]
  | y :: rest => if x < y then x :: y :: rest else if x = y then y :: rest else y :: place x rest

theorem mem_place {x z : MemberId} {ids : List MemberId} :
    z ∈ place x ids ↔ z = x ∨ z ∈ ids := by
  induction ids with
  | nil => simp [place]
  | cons y rest ih =>
    simp only [place]
    split
    · simp
    · split
      · rename_i same
        subst same
        simp
      · simp only [List.mem_cons, ih]
        constructor
        · rintro (h | h | h) <;> simp [h]
        · rintro (h | h | h) <;> simp [h]

theorem pairwise_place {x : MemberId} {ids : List MemberId} (h : ids.Pairwise (· < ·)) :
    (place x ids).Pairwise (· < ·) := by
  induction ids with
  | nil => simp [place]
  | cons y rest ih =>
    have hy : ∀ z ∈ rest, y < z := fun _ hz => List.rel_of_pairwise_cons h hz
    simp only [place]
    split
    · rename_i before
      refine List.pairwise_cons.2 ⟨fun z hz => ?_, h⟩
      rcases List.mem_cons.1 hz with rfl | hz
      · exact before
      · exact String.lt_trans before (hy z hz)
    · split
      · exact h
      · rename_i notBefore notSame
        refine List.pairwise_cons.2 ⟨fun z hz => ?_, ih h.of_cons⟩
        rcases mem_place.1 hz with rfl | hz
        · exact String.not_le.1 fun le =>
            notSame (String.le_antisymm le (String.not_lt.1 notBefore))
        · exact hy z hz

def insert (set : MemberSet) (x : MemberId) : MemberSet :=
  ⟨place x set.ids, pairwise_place set.ascending⟩

def erase (set : MemberSet) (x : MemberId) : MemberSet :=
  ⟨set.ids.erase x, set.ascending.sublist List.erase_sublist⟩

/-- The set of the ids in a list, whatever their order and however often they stand there. -/
def ofList (ids : List MemberId) : MemberSet := ids.foldl insert empty

@[simp] theorem not_mem_empty {x : MemberId} : ¬ x ∈ (∅ : MemberSet) := List.not_mem_nil

@[simp] theorem contains_iff {set : MemberSet} {x : MemberId} :
    set.contains x = true ↔ x ∈ set := by
  simp [contains, mem_iff]

@[simp] theorem mem_insert {set : MemberSet} {x z : MemberId} :
    z ∈ set.insert x ↔ z = x ∨ z ∈ set :=
  mem_place

theorem nodup (set : MemberSet) : set.ids.Nodup :=
  set.ascending.imp fun lt => String.ne_of_lt lt

@[simp] theorem mem_erase {set : MemberSet} {x z : MemberId} :
    z ∈ set.erase x ↔ z ≠ x ∧ z ∈ set :=
  set.nodup.mem_erase_iff

theorem mem_ofList {ids : List MemberId} {x : MemberId} : x ∈ ofList ids ↔ x ∈ ids := by
  have general : ∀ (ids : List MemberId) (set : MemberSet),
      x ∈ ids.foldl insert set ↔ x ∈ set ∨ x ∈ ids := by
    intro ids
    induction ids with
    | nil => simp
    | cons y rest ih =>
      intro set
      rw [List.foldl_cons, ih, mem_insert, List.mem_cons]
      constructor
      · rintro ((h | h) | h) <;> simp [h]
      · rintro (h | h | h) <;> simp [h]
  rw [ofList, general]
  exact ⟨fun h => h.resolve_left not_mem_empty, .inr⟩

end MemberSet

end Roster
