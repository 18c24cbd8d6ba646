import Roster.Group.Basic
import Roster.Journal

/-!
# Validity

A group is valid when no member is listed twice, every admin is a member, and nobody is both removed
and a member. The rules are checked in this order, and the first entry that breaks one is named: the
earliest repetition in the list of members, the first admin who is not a member, the least removed
id that is one. A failed validation is recorded; a passed one is not.
-/

namespace Roster

/-- The first entry of a list that stands in `seen` or earlier in the list. -/
def firstRepeat? (seen : List MemberId) : List MemberId → Option MemberId
  | [] => none
  | x :: rest => if seen.contains x then some x else firstRepeat? (x :: seen) rest

namespace Group

/-- The rules on the lists of a group. -/
structure Valid (g : Group) : Prop where
  members_nodup : g.members.Nodup
  admins_subset : ∀ x ∈ g.admins, x ∈ g.members
  removed_disjoint : ∀ x ∈ g.removed, x ∉ g.members

/-- The first broken rule, if one is broken. -/
def breach? (g : Group) : Option Breach :=
  match firstRepeat? [] g.members with
  | some x => some (.duplicateMember x)
  | none =>
    match g.admins.find? fun x => !g.isMember x with
    | some x => some (.adminNotMember x)
    | none =>
      match g.removed.ids.find? g.isMember with
      | some x => some (.removedStillActive x)
      | none => none

/-- The group itself if it is valid, with a record of the breach if it is not. -/
def accept (g : Group) : Logged (Except Breach Group) :=
  match g.breach? with
  | none => pure (.ok g)
  | some breach => do
    Logged.record (.validationFailed g.id breach)
    return .error breach

/-- Checks the rules and changes nothing. -/
def validate (g : Group) : Logged (Except Breach Unit) := (fun r => r.map fun _ => ()) <$> g.accept

/-- A group with admins from the start, if that makes a valid one. -/
def createWithAdmins (name : Option String) (members admins : List MemberId)
    (avatar : Option Avatar) (id : GroupId) (kind : GroupKind) : Logged (Except Breach Group) :=
  accept { create name members avatar id kind with admins }

end Group

theorem firstRepeat?_eq_none_iff {seen ids : List MemberId} :
    firstRepeat? seen ids = none ↔ ids.Nodup ∧ ∀ x ∈ ids, x ∉ seen := by
  induction ids generalizing seen with
  | nil => simp [firstRepeat?]
  | cons y rest ih =>
    simp only [firstRepeat?, List.contains_iff_mem]
    split
    · rename_i hy
      simp [hy]
    · rename_i hy
      rw [ih, List.nodup_cons]
      constructor
      · rintro ⟨nodup, apart⟩
        refine ⟨⟨fun h => apart y h List.mem_cons_self, nodup⟩, fun x hx => ?_⟩
        rcases List.mem_cons.1 hx with rfl | hx
        · exact hy
        · exact fun h => apart x hx (List.mem_cons_of_mem _ h)
      · rintro ⟨⟨absent, nodup⟩, apart⟩
        refine ⟨nodup, fun x hx h => ?_⟩
        rcases List.mem_cons.1 h with rfl | h
        · exact absent hx
        · exact apart x (List.mem_cons_of_mem _ hx) h

namespace Group

theorem breach?_eq_none_iff {g : Group} : g.breach? = none ↔ g.Valid := by
  constructor
  · intro h
    simp only [breach?] at h
    split at h
    · cases h
    · rename_i members
      split at h
      · cases h
      · rename_i admins
        split at h
        · cases h
        · rename_i removed
          refine ⟨(firstRepeat?_eq_none_iff.1 members).1, fun x hx => ?_, fun x hx => ?_⟩
          · simpa using List.find?_eq_none.1 admins x hx
          · simpa using List.find?_eq_none.1 removed x hx
  · intro valid
    have members : firstRepeat? [] g.members = none :=
      firstRepeat?_eq_none_iff.2 ⟨valid.members_nodup, fun _ _ => List.not_mem_nil⟩
    have admins : g.admins.find? (fun x => !g.isMember x) = none :=
      List.find?_eq_none.2 fun x hx => by simpa using valid.admins_subset x hx
    have removed : g.removed.ids.find? g.isMember = none :=
      List.find?_eq_none.2 fun x hx => by simpa using valid.removed_disjoint x hx
    simp [breach?, members, admins, removed]

instance (g : Group) : Decidable g.Valid :=
  decidable_of_iff (g.breach? = none) breach?_eq_none_iff

end Group

end Roster
