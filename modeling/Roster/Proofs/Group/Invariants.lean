import Roster.Group.Command
import Roster.Group.Validity
import Roster.Proofs.Group.Edits

/-!
# Validity is kept

No command breaks a rule of a valid group, whether it is carried out or refused, so a group stays
valid along every run of commands. What makes this work is that members are listed once: taking out
the first entry of a member takes out the member, so a removed id may be kept as removed and an
admin may lose the role with the membership.
-/

namespace Roster.Group

variable {g : Group}

/-- Where ids are listed once, taking out the first entry of an id takes out the id. -/
theorem erase_eq_filter_ne {ids : List MemberId} {x : MemberId} (hids : ids.Nodup) :
    ids.erase x = ids.filter (· ≠ x) := by
  rw [hids.erase_eq_filter]
  apply List.filter_congr
  intro y _
  apply Bool.eq_iff_iff.2
  rw [bne_iff_ne, decide_eq_true_iff]

theorem Valid.addMember (hvalid : g.Valid) (x : MemberId) : (g.addMember x).group.Valid := by
  by_cases hx : x ∈ g.members
  · rwa [addMember_of_mem hx]
  rw [addMember_of_not_mem hx]
  refine ⟨?_, fun a ha => ?_, fun r hr => ?_⟩
  · have hapart : ∀ y ∈ g.members, y ≠ x := fun y hy heq => hx (heq ▸ hy)
    exact List.nodup_append.2
      ⟨hvalid.members_nodup, List.pairwise_singleton _ x,
        fun y hy z hz => List.mem_singleton.1 hz ▸ hapart y hy⟩
  · exact List.mem_append_left [x] (hvalid.admins_subset a ha)
  · have hkept : r ≠ x ∧ r ∈ g.removed := MemberSet.mem_erase.1 hr
    intro hmem
    rcases List.mem_append.1 hmem with hmem | hmem
    · exact hvalid.removed_disjoint r hkept.2 hmem
    · exact hkept.1 (List.mem_singleton.1 hmem)

/-- The lists that are left when a member goes, together with any part of the removed ids and the
member itself, still fit together. -/
private theorem Valid.without {x : MemberId} {removed : MemberSet} (hvalid : g.Valid)
    (hremoved : ∀ r ∈ removed, r = x ∨ r ∈ g.removed) :
    ({ g with
        members := g.members.erase x
        admins := g.admins.filter (· ≠ x)
        removed } : Group).Valid := by
  have hmem : ∀ y, y ∈ g.members.erase x ↔ y ≠ x ∧ y ∈ g.members :=
    fun y => hvalid.members_nodup.mem_erase_iff
  refine ⟨hvalid.members_nodup.erase x, fun a ha => ?_, fun r hr hr' => ?_⟩
  · obtain ⟨hadmin, hne⟩ := List.mem_filter.1 ha
    exact (hmem a).2 ⟨of_decide_eq_true hne, hvalid.admins_subset a hadmin⟩
  · obtain ⟨hne, hmember⟩ := (hmem r).1 hr'
    rcases hremoved r hr with heq | hkept
    · exact hne heq
    · exact hvalid.removed_disjoint r hkept hmember

theorem Valid.removeMember (hvalid : g.Valid) (x : MemberId) :
    (g.removeMember x).group.Valid := by
  by_cases hx : x ∈ g.members
  · rw [removeMember_of_mem hx]
    exact hvalid.without fun r hr => .inr hr
  · rwa [removeMember_of_not_mem hx]

theorem Valid.markRemoved (hvalid : g.Valid) (x : MemberId) : (g.markRemoved x).group.Valid := by
  by_cases hx : x ∈ g.members
  · rw [markRemoved_of_mem hx]
    exact hvalid.without fun r hr => MemberSet.mem_insert.1 hr
  · rwa [markRemoved_of_not_mem hx]

theorem Valid.clearRemoved (hvalid : g.Valid) (x : MemberId) : (g.clearRemoved x).group.Valid :=
  ⟨hvalid.members_nodup, hvalid.admins_subset,
    fun r hr => hvalid.removed_disjoint r (MemberSet.mem_erase.1 hr).2⟩

theorem Valid.promote (hvalid : g.Valid) (x : MemberId) : (g.promote x).group.Valid := by
  by_cases hx : x ∈ g.members
  · by_cases hadmin : x ∈ g.admins
    · rwa [promote_of_admin hx hadmin]
    · rw [promote_of_member hx hadmin]
      refine ⟨hvalid.members_nodup, fun a ha => ?_, hvalid.removed_disjoint⟩
      rcases List.mem_append.1 ha with ha | ha
      · exact hvalid.admins_subset a ha
      · exact List.mem_singleton.1 ha ▸ hx
  · rwa [promote_of_not_mem hx]

theorem Valid.demote (hvalid : g.Valid) (x : MemberId) : (g.demote x).group.Valid := by
  by_cases hx : x ∈ g.admins
  · rw [demote_of_mem hx]
    exact ⟨hvalid.members_nodup, fun a ha => hvalid.admins_subset a (List.mem_of_mem_erase ha),
      hvalid.removed_disjoint⟩
  · rwa [demote_of_not_mem hx]

/-- What one command preserves. -/
theorem Valid.run (hvalid : g.Valid) (command : Command) : (command.run g).group.Valid := by
  cases command with
  | setName name => exact ⟨hvalid.members_nodup, hvalid.admins_subset, hvalid.removed_disjoint⟩
  | setAvatar avatar => exact ⟨hvalid.members_nodup, hvalid.admins_subset, hvalid.removed_disjoint⟩
  | rotateId id => exact ⟨hvalid.members_nodup, hvalid.admins_subset, hvalid.removed_disjoint⟩
  | addMember x => exact hvalid.addMember x
  | removeMember x => exact hvalid.removeMember x
  | markRemoved x => exact hvalid.markRemoved x
  | clearRemoved x => exact hvalid.clearRemoved x
  | promote x => exact hvalid.promote x
  | demote x => exact hvalid.demote x

/-- What a run of commands preserves. -/
theorem Valid.after (hvalid : g.Valid) (commands : List Command) : (g.after commands).Valid := by
  induction commands generalizing g with
  | nil => exact hvalid
  | cons command rest ih => exact ih (hvalid.run command)

theorem valid_create {name : Option String} {members : List MemberId} {avatar : Option Avatar}
    {id : GroupId} {kind : GroupKind} (hmembers : members.Nodup) :
    (create name members avatar id kind).Valid :=
  ⟨hmembers, fun _ ha => absurd ha List.not_mem_nil, fun _ hr => absurd hr MemberSet.not_mem_empty⟩

end Roster.Group
