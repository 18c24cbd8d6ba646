import Roster.Proofs.Group.Congruence
import Roster.Proofs.Update.Changes

/-!
# Equality is kept by everything that is done to groups

Equal groups stay equal under the same commands, and the updates from one group to another are the
same for equal groups, up to the order of those about members. So nothing that is done to a group
depends on more than equality sees, apart from what forgetting a removed id says.
-/

namespace Roster.Describer

open Roster.Group

variable {d : Describer} {old old' new new' g h : Group} {members members' : List MemberId}

theorem missingFrom_perm (hgh : g.Alike h) (hperm : members.Perm members') :
    (missingFrom g members).Perm (missingFrom h members') := by
  have hsame : missingFrom h members' = missingFrom g members' := by
    apply List.filter_congr
    intro x _
    rw [hgh.isMember x]
  rw [hsame]
  exact hperm.filter _

/-- The updates on the title and the avatar. -/
def heading (old new : Group) : List Update := titleUpdate old new ++ avatarUpdate old new

/-- The updates about members. -/
def roster (d : Describer) (old new : Group) : List Update :=
  d.additions old new ++ d.removals old new

theorem changes_value_eq_heading_append :
    (d.changes old new).value = heading old new ++ d.roster old new := by
  rw [changes_value, heading, roster, List.append_assoc]

theorem heading_congr (hold : old.Alike old') (hnew : new.Alike new') :
    heading old new = heading old' new' := by
  simp only [heading, titleUpdate, avatarUpdate, hold.name, hold.avatar, hnew.name, hnew.avatar]

theorem about_of_mem_heading {update : Update} (hmem : update ∈ heading old new) :
    update.about = none := by
  rcases List.mem_append.1 hmem with hmem | hmem
  · rw [titleUpdate] at hmem
    split at hmem
    · cases hmem
    · rw [List.mem_singleton.1 hmem, Update.about]
  · rw [avatarUpdate] at hmem
    split at hmem
    · cases hmem
    · rw [List.mem_singleton.1 hmem, Update.about]

theorem about_of_mem_roster {update : Update} (hmem : update ∈ d.roster old new) :
    update.about ≠ none := by
  rcases List.mem_append.1 hmem with hmem | hmem
  · obtain ⟨x, -, rfl⟩ := List.mem_map.1 hmem
    exact Option.some_ne_none x
  · obtain ⟨x, -, rfl⟩ := List.mem_map.1 hmem
    exact Option.some_ne_none x

theorem roster_perm (hold : old.Alike old') (hnew : new.Alike new')
    (hmembers : old.members.Perm old'.members) (hmembers' : new.members.Perm new'.members) :
    (d.roster old new).Perm (d.roster old' new') := by
  apply List.Perm.append
  · exact (missingFrom_perm hold hmembers').map _
  · exact (missingFrom_perm hnew hmembers).map _

/-- Two equal groups stay equal under the same commands, which say and record the same for both,
apart from whether a removed id was kept. The updates between two groups are the same for equal
groups: first the same on title and avatar, then the same about members in some order. -/
theorem agree_after_and_perm_changes :
    (∀ g h : Group, g.Orderly → h.Orderly → (g == h) = true → ∀ commands,
      (g.after commands).Orderly ∧ (h.after commands).Orderly ∧
      (g.after commands == h.after commands) = true ∧
      ∀ command : Command,
        command.Agree (command.run (g.after commands)).reply
          (command.run (h.after commands)).reply ∧
        (command.run (g.after commands)).events = (command.run (h.after commands)).events ∧
        ((command.run (g.after commands)).group == (command.run (h.after commands)).group) = true) ∧
    ∀ (d : Describer) (old old' new new' : Group),
      old.validate.value = .ok () → old'.validate.value = .ok () → new.validate.value = .ok () →
      new'.validate.value = .ok () → (old == old') = true → (new == new') = true →
      (d.changes old new).value.Perm (d.changes old' new').value ∧
      ∃ front behind behind',
        (d.changes old new).value = front ++ behind ∧
        (d.changes old' new').value = front ++ behind' ∧ behind.Perm behind' ∧
        (∀ update ∈ front, update.about = none) ∧ ∀ update ∈ behind, update.about ≠ none := by
  constructor
  · intro g h hg hh hequal commands
    have hgo : (g.after commands).Orderly := hg.after commands
    have hho : (h.after commands).Orderly := hh.after commands
    have halike : (g.after commands).Alike (h.after commands) :=
      (beq_iff_alike.1 hequal).after hg hh commands
    refine ⟨hgo, hho, beq_iff_alike.2 halike, fun command => ⟨?_, ?_, ?_⟩⟩
    · exact halike.agree_reply hgo hho command
    · exact (halike.labels_run command).2.2.2.2
    · exact beq_iff_alike.2 (halike.run hgo hho command)
  · intro d old old' new new' hold hold' hnew hnew' hequal hequal'
    have hgo : old.Alike old' := beq_iff_alike.1 hequal
    have hgn : new.Alike new' := beq_iff_alike.1 hequal'
    have hmembers : old.members.Perm old'.members :=
      hgo.perm_members (validate_value_eq_ok_iff.1 hold) (validate_value_eq_ok_iff.1 hold')
    have hmembers' : new.members.Perm new'.members :=
      hgn.perm_members (validate_value_eq_ok_iff.1 hnew) (validate_value_eq_ok_iff.1 hnew')
    have hperm : (d.roster old new).Perm (d.roster old' new') :=
      roster_perm hgo hgn hmembers hmembers'
    rw [changes_value_eq_heading_append, changes_value_eq_heading_append, ← heading_congr hgo hgn]
    refine ⟨hperm.append_left _, _, _, _, rfl, rfl, hperm, ?_, ?_⟩
    · exact fun _ => about_of_mem_heading
    · exact fun _ => about_of_mem_roster

def duo : Group :=
  { create (some "Duo") ["ann", "bob"] none .zero .signal with
    admins := ["ann"]
    removed := .ofList ["cy"] }

/-- The group of `duo` in another order, which remembers nobody who was removed. -/
def duoTurned : Group :=
  { create (some "Duo") ["bob", "ann"] none .zero .signal with admins := ["ann"] }

/-- Two members who are not in `duo`. -/
def guests : Group := create none ["dee", "eve"] none .zero .signal

/-- The group of `guests` in another order. -/
def guestsTurned : Group := create none ["eve", "dee"] none .zero .signal

theorem agree_duo_and_guests :
    duo.Orderly ∧ duoTurned.Orderly ∧ (duo == duoTurned) = true ∧ (guests == guestsTurned) = true ∧
      (duo.after [.promote "bob", .clearRemoved "cy"]
        == duoTurned.after [.promote "bob", .clearRemoved "cy"]) = true ∧
      (changes ⟨.raw, none⟩ duo guests).value.Perm
        (changes ⟨.raw, none⟩ duoTurned guestsTurned).value := by
  obtain ⟨hruns, hchanges⟩ := agree_after_and_perm_changes
  have hduo : duo.Orderly := ⟨by decide, by decide⟩
  have hturned : duoTurned.Orderly := ⟨by decide, by decide⟩
  have hequal : (duo == duoTurned) = true := by decide
  have hguests : (guests == guestsTurned) = true := by decide
  obtain ⟨-, -, hafter, -⟩ :=
    hruns duo duoTurned hduo hturned hequal [.promote "bob", .clearRemoved "cy"]
  obtain ⟨hperm, -⟩ := hchanges ⟨.raw, none⟩ duo duoTurned guests guestsTurned hduo.passes
    hturned.passes (by decide) (by decide) hequal hguests
  exact ⟨hduo, hturned, hequal, hguests, hafter, hperm⟩

end Roster.Describer
