import Roster.Group.Membership
import Roster.Proofs.MemberSet

/-!
# What an edit does

Each edit has one law for every place where the member concerned can stand. Together they say all
that an edit can do, so that nothing else about edits needs their definitions.
-/

namespace Roster.Group

variable {g : Group} {x : MemberId}

theorem addMember_of_mem (hx : x ∈ g.members) :
    g.addMember x = ⟨g, .error (.alreadyMember x)⟩ :=
  if_pos (isMember_iff.2 hx)

theorem addMember_of_not_mem (hx : x ∉ g.members) :
    g.addMember x
      = ⟨{ g with members := g.members ++ [x], removed := g.removed.erase x }, .ok ()⟩ :=
  if_neg fun h => hx (isMember_iff.1 h)

theorem removeMember_of_mem (hx : x ∈ g.members) :
    g.removeMember x
      = ⟨{ g with members := g.members.erase x, admins := g.admins.filter (· ≠ x) }, .ok ()⟩ :=
  if_pos (isMember_iff.2 hx)

theorem removeMember_of_not_mem (hx : x ∉ g.members) :
    g.removeMember x = ⟨g, .error (.notMember x)⟩ :=
  if_neg fun h => hx (isMember_iff.1 h)

theorem markRemoved_of_mem (hx : x ∈ g.members) :
    g.markRemoved x
      = ⟨{ g with
            members := g.members.erase x
            admins := g.admins.filter (· ≠ x)
            removed := g.removed.insert x }, .ok ()⟩ := by
  rw [markRemoved, removeMember_of_mem hx]

theorem markRemoved_of_not_mem (hx : x ∉ g.members) :
    g.markRemoved x = ⟨g, .error (.notMember x)⟩ := by
  rw [markRemoved, removeMember_of_not_mem hx]

theorem clearRemoved_of_mem (hx : x ∈ g.removed) :
    g.clearRemoved x = ⟨{ g with removed := g.removed.erase x }, .ok true⟩ := by
  rw [clearRemoved, isRemoved_iff.2 hx]

theorem clearRemoved_of_not_mem (hx : x ∉ g.removed) : g.clearRemoved x = ⟨g, .ok false⟩ := by
  have hforgotten : g.isRemoved x = false := Bool.eq_false_iff.2 fun h => hx (isRemoved_iff.1 h)
  rw [clearRemoved, MemberSet.erase_of_not_mem hx, hforgotten]

theorem promote_of_not_mem (hx : x ∉ g.members) :
    g.promote x = ⟨g, .error (.notMember x)⟩ := by
  have hmember : g.isMember x = false := Bool.eq_false_iff.2 fun h => hx (isMember_iff.1 h)
  rw [promote, hmember]
  rfl

theorem promote_of_admin (hx : x ∈ g.members) (hadmin : x ∈ g.admins) :
    g.promote x = ⟨g, .ok false⟩ := by
  rw [promote, isMember_iff.2 hx, isAdmin_iff.2 hadmin]
  rfl

theorem promote_of_member (hx : x ∈ g.members) (hadmin : x ∉ g.admins) :
    g.promote x = ⟨{ g with admins := g.admins ++ [x] }, .ok true⟩ := by
  have hplain : g.isAdmin x = false := Bool.eq_false_iff.2 fun h => hadmin (isAdmin_iff.1 h)
  rw [promote, isMember_iff.2 hx, hplain]
  rfl

theorem demote_of_mem (hx : x ∈ g.admins) :
    g.demote x = ⟨{ g with admins := g.admins.erase x }, .ok ()⟩ :=
  if_pos (isAdmin_iff.2 hx)

theorem demote_of_not_mem (hx : x ∉ g.admins) :
    g.demote x = ⟨g, .error (.notAdmin x)⟩ :=
  if_neg fun h => hx (isAdmin_iff.1 h)

end Roster.Group
