import Mathlib.Data.List.Nodup
import Roster.Proofs.Group.Effects
import Roster.Proofs.Group.Verdict

/-!
# Taking an admin role away

Demoting takes out the first entry of an admin, so the role is gone just when that entry was the
only one. Validity does not ask for this: a valid group may list an admin twice. But a command gives
the role only to a member without it, so a run of commands never lists an admin again who is listed
already, and a group that lists each of its admins once can always take a role away.
-/

namespace Roster.Group

variable {g : Group} {x : MemberId} {ids : List MemberId}

/-! ### Lists without the first entry of an id -/

theorem mem_erase_self_iff : x ∈ ids.erase x ↔ 2 ≤ ids.count x := by
  rw [← List.count_pos_iff, List.count_erase_self]
  omega

theorem nodup_iff_forall_not_mem_erase : ids.Nodup ↔ ∀ x, x ∉ ids.erase x := by
  rw [List.nodup_iff_count_le_one]
  apply forall_congr'
  intro x
  rw [mem_erase_self_iff]
  omega

theorem not_mem_filter_ne (ids : List MemberId) : x ∉ ids.filter (· ≠ x) :=
  fun hx => of_decide_eq_true (List.mem_filter.1 hx).2 rfl

theorem filter_ne_erase : (ids.erase x).filter (· ≠ x) = ids.filter (· ≠ x) := by
  rw [← List.erase_filter, List.erase_of_not_mem (not_mem_filter_ne ids)]

/-! ### One demotion -/

theorem mem_admins_of_demote_ok (hok : (g.demote x).answer = .ok ()) : x ∈ g.admins := by
  by_contra hx
  rw [demote_of_not_mem hx] at hok
  cases hok

theorem isAdmin_demote_eq_false_iff (hok : (g.demote x).answer = .ok ()) :
    (g.demote x).group.isAdmin x = false ↔ g.admins.count x = 1 := by
  have hx : x ∈ g.admins := mem_admins_of_demote_ok hok
  have hlisted : 0 < g.admins.count x := List.count_pos_iff.2 hx
  rw [demote_of_mem hx, ← Bool.not_eq_true, isAdmin_iff, mem_erase_self_iff]
  omega

/-! ### The admins along a run -/

/-- What one command preserves: only who is no admin becomes one. -/
theorem Effect.nodup_admins {h : Group} (heffect : g.Effect h) (hadmins : g.admins.Nodup) :
    h.admins.Nodup := by
  cases heffect with
  | kept _ hkept _ => rwa [hkept]
  | came _ => exact hadmins
  | left _ => exact hadmins.sublist List.filter_sublist
  | marked _ => exact hadmins.sublist List.filter_sublist
  | cleared _ => exact hadmins
  | promoted _ hnew =>
    exact List.nodup_append.2 ⟨hadmins, List.nodup_singleton _, fun a ha b hb heq =>
      hnew (List.mem_singleton.1 hb ▸ heq ▸ ha)⟩
  | demoted _ => exact hadmins.sublist List.erase_sublist

theorem nodup_admins_after (hadmins : g.admins.Nodup) (commands : List Command) :
    (g.after commands).admins.Nodup := by
  induction commands generalizing g with
  | nil => exact hadmins
  | cons command rest ih => exact ih ((g.effect_run command).nodup_admins hadmins)

/-! ### Demotions along a run -/

/-- Who is demoted stays a member and the other admins stay in their order, but the role is gone
only if it was listed once. So a demotion takes the role away in every state of every run exactly if
the group lists each admin once at the start. -/
theorem demote_revokes_iff (g : Group) :
    (∀ x, (g.demote x).answer = .ok () →
      ((g.demote x).group.isAdmin x = false ↔ g.admins.count x = 1) ∧
        (∀ y, (g.demote x).group.isMember y = g.isMember y) ∧
        (g.demote x).group.admins.filter (· ≠ x) = g.admins.filter (· ≠ x)) ∧
      ((∀ commands x, ((g.after commands).demote x).answer = .ok () →
        ((g.after commands).demote x).group.isAdmin x = false) ↔ g.admins.Nodup) := by
  refine ⟨fun x hok => ⟨isAdmin_demote_eq_false_iff hok, ?_⟩, ?_, ?_⟩
  · rw [demote_of_mem (mem_admins_of_demote_ok hok)]
    exact ⟨fun _ => rfl, filter_ne_erase⟩
  · -- the empty run is enough: an admin listed twice outlasts a demotion at the start
    intro hrevoked
    apply nodup_iff_forall_not_mem_erase.2
    intro x hleft
    have hx : x ∈ g.admins := List.mem_of_mem_erase hleft
    have hgone := hrevoked [] x
    rw [after_nil, demote_of_mem hx, ← Bool.not_eq_true, isAdmin_iff] at hgone
    exact hgone rfl hleft
  · intro hadmins commands x hok
    have hnodup : (g.after commands).admins.Nodup := nodup_admins_after hadmins commands
    exact (isAdmin_demote_eq_false_iff hok).2
      (List.count_eq_one_of_mem hnodup (mem_admins_of_demote_ok hok))

def board : Group := { create none ["ann", "bob"] none .zero .signal with admins := ["ann", "bob"] }

theorem demote_board :
    (board.demote "ann").answer = .ok () ∧ (board.demote "ann").group.isAdmin "ann" = false ∧
      board.admins.Nodup ∧
      ((board.after [.demote "bob", .promote "bob"]).demote "bob").group.isAdmin "bob" = false := by
  have hnodup : board.admins.Nodup := by decide
  obtain ⟨hstep, hruns⟩ := demote_revokes_iff board
  exact ⟨rfl, (hstep "ann" rfl).1.2 (by decide), hnodup, hruns.2 hnodup _ "bob" rfl⟩

/-- A group that lists its only admin twice. -/
def doubled : Group := { create none ["ann"] none .zero .signal with admins := ["ann", "ann"] }

/-- A valid group may list an admin twice, who is then still an admin after a demotion. -/
theorem demote_doubled :
    (createWithAdmins none ["ann"] ["ann", "ann"] none .zero .signal).value = .ok doubled ∧
      doubled.validate.value = .ok () ∧ (doubled.demote "ann").answer = .ok () ∧
      (doubled.demote "ann").group.isAdmin "ann" = true := by
  refine ⟨?_, ?_, rfl, ?_⟩ <;> decide

end Roster.Group
