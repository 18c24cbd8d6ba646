import Mathlib.Data.List.Nodup
import Roster.Proofs.Group.Demotion
import Roster.Proofs.Session.Restore

/-!
# Removed ids stay apart from members

Removing takes out the first entry of a member and all entries of it as an admin. A group that is
created without a check may list a member more than once, and such a member stays one when it is
removed. An id that is listed at most once is gone after a removal and never both removed and a
member. No command lists an id twice that was not, so this is a matter of how a group began.
-/

namespace Roster

/-- Whether a command takes a member out. -/
def Command.Removes (x : MemberId) (command : Command) : Prop :=
  command = .removeMember x ∨ command = .markRemoved x

namespace Group

/-- The ways in which a group comes into being, with or without a check. -/
inductive Obtained : Group → Prop
  | created {name : Option String} {members : List MemberId} {avatar : Option Avatar} {id : GroupId}
      {kind : GroupKind} : Obtained (create name members avatar id kind)
  | admitted {g : Group} (hg : g.Admitted) : Obtained g

/-- Whether removing an id is final: it is not removed and a member at once, and a removal that is
carried out leaves it neither a member nor an admin. -/
structure KeepsApart (g : Group) (x : MemberId) : Prop where
  apart : g.isRemoved x = true → g.isMember x = false
  gone : ∀ command : Command, command.Removes x → (command.run g).reply = .ok .done →
    (command.run g).group.isMember x = false ∧ (command.run g).group.isAdmin x = false

/-- Whether an id is listed at most once, and not at all while it is removed. -/
structure Single (g : Group) (x : MemberId) : Prop where
  count_le : g.members.count x ≤ 1
  apart : x ∈ g.removed → x ∉ g.members

variable {g : Group} {x : MemberId} {command : Command}

/-! ### One removal -/

theorem run_of_removes (hremoves : command.Removes x) (hok : (command.run g).reply = .ok .done) :
    x ∈ g.members ∧ (command.run g).group.members = g.members.erase x ∧
      (command.run g).group.admins = g.admins.filter (· ≠ x) := by
  rcases hremoves with rfl | rfl
  · change (g.removeMember x).answer.map _ = _ at hok
    change _ ∧ (g.removeMember x).group.members = _ ∧ (g.removeMember x).group.admins = _
    by_cases hx : x ∈ g.members
    · rw [removeMember_of_mem hx]
      exact ⟨hx, rfl, rfl⟩
    · rw [removeMember_of_not_mem hx] at hok
      cases hok
  · change (g.markRemoved x).answer.map _ = _ at hok
    change _ ∧ (g.markRemoved x).group.members = _ ∧ (g.markRemoved x).group.admins = _
    by_cases hx : x ∈ g.members
    · rw [markRemoved_of_mem hx]
      exact ⟨hx, rfl, rfl⟩
    · rw [markRemoved_of_not_mem hx] at hok
      cases hok

/-! ### Ids that are listed at most once -/

private theorem Single.came {y : MemberId} (hx : g.Single x) (hy : y ∉ g.members) :
    ({ g with members := g.members ++ [y], removed := g.removed.erase y } : Group).Single x := by
  constructor
  · change (g.members ++ [y]).count x ≤ 1
    rw [List.count_append]
    by_cases heq : y = x
    · have habsent : g.members.count x = 0 := List.count_eq_zero.2 (heq ▸ hy)
      have hnew : [y].count x = 1 := heq ▸ List.count_singleton_self
      omega
    · have hother : [y].count x = 0 := List.count_eq_zero.2 fun hmem =>
        heq (List.mem_singleton.1 hmem).symm
      have honce : g.members.count x ≤ 1 := hx.count_le
      omega
  · intro hremoved hmem
    obtain ⟨hne, hkept⟩ := MemberSet.mem_erase.1 hremoved
    rcases List.mem_append.1 hmem with hmem | hmem
    · exact hx.apart hkept hmem
    · exact hne (List.mem_singleton.1 hmem)

/-- The case of a member that goes, with any part of the removed ids and the member itself. -/
private theorem Single.gone {y : MemberId} {admins : List MemberId} {removed : MemberSet}
    (hx : g.Single x) (hremoved : x ∈ removed → x = y ∨ x ∈ g.removed) :
    ({ g with members := g.members.erase y, admins, removed } : Group).Single x := by
  constructor
  · exact Nat.le_trans (List.erase_sublist.count_le x) hx.count_le
  · intro hkept hmem
    rcases hremoved hkept with rfl | hkept
    · have htwice : 2 ≤ g.members.count x := mem_erase_self_iff.1 hmem
      have honce : g.members.count x ≤ 1 := hx.count_le
      omega
    · exact hx.apart hkept (List.mem_of_mem_erase hmem)

/-- What one command preserves. -/
theorem Effect.single {h : Group} (heffect : g.Effect h) (hx : g.Single x) : h.Single x := by
  cases heffect with
  | kept hmembers _ hremoved =>
    exact ⟨hmembers ▸ hx.count_le, fun hr => hmembers ▸ hx.apart (hremoved ▸ hr)⟩
  | came hy => exact hx.came hy
  | left _ => exact hx.gone .inr
  | marked _ => exact hx.gone MemberSet.mem_insert.1
  | cleared _ => exact ⟨hx.count_le, fun hr => hx.apart (MemberSet.mem_erase.1 hr).2⟩
  | promoted _ _ => exact ⟨hx.count_le, hx.apart⟩
  | demoted _ => exact ⟨hx.count_le, hx.apart⟩

/-- What a run of commands preserves. -/
theorem Single.after (hx : g.Single x) (commands : List Command) : (g.after commands).Single x := by
  induction commands generalizing g with
  | nil => exact hx
  | cons command rest ih => exact ih ((g.effect_run command).single hx)

theorem isMember_run_of_removes (hremoves : command.Removes x)
    (hok : (command.run g).reply = .ok .done) :
    (command.run g).group.isMember x = true ↔ 2 ≤ g.members.count x := by
  obtain ⟨-, hmembers, -⟩ := run_of_removes hremoves hok
  rw [isMember_iff, hmembers, mem_erase_self_iff]

theorem isAdmin_run_of_removes (hremoves : command.Removes x)
    (hok : (command.run g).reply = .ok .done) : (command.run g).group.isAdmin x = false := by
  obtain ⟨-, -, hadmins⟩ := run_of_removes hremoves hok
  rw [← Bool.not_eq_true, isAdmin_iff, hadmins]
  intro hmem
  exact of_decide_eq_true (List.mem_filter.1 hmem).2 rfl

theorem Single.keepsApart (hx : g.Single x) : g.KeepsApart x := by
  constructor
  · intro hremoved
    rw [← Bool.not_eq_true, isMember_iff]
    exact hx.apart (isRemoved_iff.1 hremoved)
  · intro command hremoves hok
    refine ⟨?_, isAdmin_run_of_removes hremoves hok⟩
    have honce : g.members.count x ≤ 1 := hx.count_le
    rw [← Bool.not_eq_true, isMember_run_of_removes hremoves hok]
    omega

/-! ### Groups however they were obtained -/

theorem Obtained.apart (hg : g.Obtained) : x ∈ g.removed → x ∉ g.members := by
  cases hg with
  | created => exact fun hr => absurd hr MemberSet.not_mem_empty
  | admitted hg => exact hg.valid.removed_disjoint x

theorem Obtained.keepsApart_after_iff (hg : g.Obtained) :
    (∀ commands, (g.after commands).KeepsApart x) ↔ g.members.count x ≤ 1 := by
  constructor
  · -- removing the id at the start would leave its second entry
    intro hkeeps
    by_contra htwice
    have hx : x ∈ g.members := List.count_pos_iff.1 (by omega)
    have hok : ((Command.removeMember x).run g).reply = .ok .done := by
      rw [Command.run, removeMember_of_mem hx]
      rfl
    have hgone := ((hkeeps []).gone _ (.inl rfl) hok).1
    rw [after_nil, ← Bool.not_eq_true, isMember_run_of_removes (.inl rfl) hok] at hgone
    omega
  · intro honce commands
    have hsingle : g.Single x := ⟨honce, hg.apart⟩
    exact (hsingle.after commands).keepsApart

/-- A removal always takes the admin role away, and the membership if it was listed once. That
removing an id is final in every state of every run holds exactly for the ids that are listed at
most once at the start, so it holds for all of them unless a group is created with a repetition. -/
theorem Obtained.removal_final_iff (hg : g.Obtained) :
    (∀ commands x (command : Command), command.Removes x →
      (command.run (g.after commands)).reply = .ok .done →
        (command.run (g.after commands)).group.isAdmin x = false ∧
          ((command.run (g.after commands)).group.isMember x = true ↔
            2 ≤ (g.after commands).members.count x)) ∧
      ∀ x, (∀ commands, (g.after commands).KeepsApart x) ↔ g.members.count x ≤ 1 := by
  refine ⟨fun commands x command hremoves hok => ?_, fun x => hg.keepsApart_after_iff⟩
  exact ⟨isAdmin_run_of_removes hremoves hok, isMember_run_of_removes hremoves hok⟩

def crowded : Group := create none ["ann", "bob", "ann"] none .zero .signal

theorem removal_crowded :
    crowded.Obtained ∧ (crowded.removeMember "ann").group.isMember "ann" = true ∧
      (∀ commands, (crowded.after commands).KeepsApart "bob") ∧
      ¬ ∀ commands, (crowded.after commands).KeepsApart "ann" := by
  have hobtained : crowded.Obtained := .created
  obtain ⟨hremoval, hfinal⟩ := hobtained.removal_final_iff
  obtain ⟨-, hstays⟩ := hremoval [] "ann" (.removeMember "ann") (.inl rfl) rfl
  refine ⟨hobtained, hstays.2 (by decide), (hfinal "bob").2 (by decide), fun hkeeps => ?_⟩
  exact absurd ((hfinal "ann").1 hkeeps) (by decide)

/-- A group that was created with its only member listed twice. -/
def twofold : Group := create none ["ann", "ann"] none .zero .signal

/-- Who is listed twice is still a member after either removal, and both removed and a member after
the second kind. -/
theorem removal_twofold :
    twofold.Obtained ∧
      (twofold.removeMember "ann").answer = .ok () ∧
      (twofold.removeMember "ann").group.isMember "ann" = true ∧
      (twofold.markRemoved "ann").answer = .ok () ∧
      (twofold.markRemoved "ann").group.isMember "ann" = true ∧
      (twofold.markRemoved "ann").group.isRemoved "ann" = true := by
  refine ⟨.created, rfl, ?_, rfl, ?_, ?_⟩ <;> decide

end Group

end Roster
