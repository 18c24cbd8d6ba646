import Roster.Group.Equality
import Roster.Proofs.Update.Changes

/-!
# Equality and updates

Two comparisons of states have to fit together: equality, which asks whether lists hold the same
ids, and the updates, which list the ids that one state has and the other has not. Updates do not
tell of the id, the kind and the admins. Apart from these three, two states are equal exactly when
no update leads from one to the other.
-/

namespace Roster.Describer

open Roster.Group

variable {d : Describer} {old new : Group} {members admins : List MemberId}

theorem beq_iff_changes_eq_nil :
    (old == new) = true ↔
      (d.changes old new).value = [] ∧ old.id = new.id ∧ old.kind = new.kind ∧
        ∀ x, x ∈ old.admins ↔ x ∈ new.admins := by
  rw [beq_eq_sameAs, sameAs_iff, changes_value_eq_nil_iff]
  constructor
  · rintro ⟨hid, hmembers, hadmins, hname, havatar, hkind⟩
    exact ⟨⟨hname, havatar, hmembers⟩, hid, hkind, hadmins⟩
  · rintro ⟨⟨hname, havatar, hmembers⟩, hid, hkind, hadmins⟩
    exact ⟨hid, hmembers, hadmins, hname, havatar, hkind⟩

/-- Equality apart from the id, the kind and the admins. -/
theorem beq_with_iff_changes_eq_nil :
    (({ old with id := new.id, kind := new.kind, admins := new.admins } : Group) == new) = true ↔
      (d.changes old new).value = [] := by
  rw [beq_eq_sameAs, sameAs_iff, changes_value_eq_nil_iff]
  constructor
  · rintro ⟨-, hmembers, -, hname, havatar, -⟩
    exact ⟨hname, havatar, hmembers⟩
  · rintro ⟨hname, havatar, hmembers⟩
    exact ⟨rfl, hmembers, fun _ => .rfl, hname, havatar, rfl⟩

theorem changes_reordered (hmembers : members.Perm old.members) (admins : List MemberId) :
    (d.changes old { old with members, admins }).value = [] :=
  changes_value_eq_nil_iff.2 ⟨rfl, rfl, fun _ => hmembers.mem_iff.symm⟩

/-- Two states are equal exactly when there are no updates between them and they have the same id,
kind and admins. So another order of the lists is no update, and a difference that equality sees in
anything but id, kind and admins is one. -/
theorem beq_iff_no_changes (d : Describer) (old new : Group) :
    ((old == new) = true ↔
      (d.changes old new).value = [] ∧ old.id = new.id ∧ old.kind = new.kind ∧
        ∀ x, x ∈ old.admins ↔ x ∈ new.admins) ∧
    (∀ members admins, members.Perm old.members → admins.Perm old.admins →
      (old == { old with members, admins }) = true ∧
        (d.changes old { old with members, admins }).value = []) ∧
    ((({ old with id := new.id, kind := new.kind, admins := new.admins } : Group) == new) = false ↔
      (d.changes old new).value ≠ []) := by
  refine ⟨beq_iff_changes_eq_nil, fun members admins hmembers hadmins => ?_, ?_⟩
  · have hnone : (d.changes old { old with members, admins }).value = [] :=
      changes_reordered hmembers admins
    exact ⟨beq_iff_changes_eq_nil.2 ⟨hnone, rfl, rfl, fun _ => hadmins.mem_iff.symm⟩, hnone⟩
  · rw [← Bool.not_eq_true, beq_with_iff_changes_eq_nil]

/-- A group whose members and admins may stand in any order. -/
def relay : Group :=
  { create none ["ann", "bob", "cy"] none .zero .publicChat with admins := ["ann", "cy"] }

/-- The group of `relay` in another order, under another id. -/
def relayMoved : Group :=
  { relay with
    members := ["cy", "ann", "bob"]
    admins := ["cy", "ann"]
    id := .uniform 1 }

theorem no_changes_relay :
    relayMoved.members.Perm relay.members ∧ relayMoved.admins.Perm relay.admins ∧
      (relay == { relayMoved with id := relay.id }) = true ∧ (relay == relayMoved) = false ∧
      (changes ⟨.raw, none⟩ relay relayMoved).value = [] := by
  have hmembers : relayMoved.members.Perm relay.members := by decide
  have hadmins : relayMoved.admins.Perm relay.admins := by decide
  obtain ⟨-, hreordered, -⟩ := beq_iff_no_changes ⟨.raw, none⟩ relay relayMoved
  obtain ⟨hequal, hnone⟩ := hreordered _ _ hmembers hadmins
  exact ⟨hmembers, hadmins, hequal, by decide, hnone⟩

end Roster.Describer
