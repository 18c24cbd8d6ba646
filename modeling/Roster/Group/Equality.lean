import Roster.Group.Basic

/-!
# Equality of groups

Two groups count as equal when they have the same id, name, avatar and kind, and the same members
and admins, whatever the order of the two lists. The ids kept as removed are private bookkeeping and
play no part.
-/

namespace Roster

/-- Whether two lists hold the same ids. -/
def sameIds (left right : List MemberId) : Bool :=
  left.all right.contains && right.all left.contains

theorem sameIds_iff {left right : List MemberId} :
    sameIds left right = true ↔ ∀ x, x ∈ left ↔ x ∈ right := by
  simp only [sameIds, Bool.and_eq_true, List.all_eq_true, List.contains_iff_mem]
  exact ⟨fun ⟨there, back⟩ x => ⟨there x, back x⟩,
    fun same => ⟨fun x => (same x).1, fun x => (same x).2⟩⟩

/-- A value of any kind, as a comparison may meet it. -/
inductive Candidate where
  | group (g : Group)
  | id (id : GroupId)
  | text (s : String)
  | number (n : Int)
  | nothing
  | wrapped (inner : Candidate)

namespace Group

/-- Whether two groups count as equal. -/
def sameAs (g h : Group) : Bool :=
  decide (g.id = h.id) && sameIds g.members h.members && sameIds g.admins h.admins &&
    decide (g.name = h.name) && decide (g.avatar = h.avatar) && decide (g.kind = h.kind)

/-- The comparison of the groups at two places of a memory. A group at the place of the other is the
same group, and its fields are not looked at. -/
def sameAsAt (memory : Nat → Group) (first second : Nat) : Bool :=
  if first = second then true else (memory first).sameAs (memory second)

instance : BEq Group := ⟨sameAs⟩

/-- Whether a value is a group that counts as equal; what is no group is not. -/
def equals (g : Group) : Candidate → Bool
  | .group h => g.sameAs h
  | _ => false

theorem beq_eq_sameAs (g h : Group) : (g == h) = g.sameAs h := rfl

theorem sameAs_iff {g h : Group} :
    g.sameAs h = true ↔
      g.id = h.id ∧ (∀ x, x ∈ g.members ↔ x ∈ h.members) ∧ (∀ x, x ∈ g.admins ↔ x ∈ h.admins) ∧
        g.name = h.name ∧ g.avatar = h.avatar ∧ g.kind = h.kind := by
  simp only [sameAs, Bool.and_eq_true, decide_eq_true_eq, sameIds_iff, and_assoc]

end Group

end Roster
