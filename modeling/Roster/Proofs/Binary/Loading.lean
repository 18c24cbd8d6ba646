import Roster.Binary.Reader
import Roster.Proofs.Group.Verdict

/-!
# Loading is reading the fields and accepting them

What comes after the fields of a group have been read is the check that accepts the group, with the
same verdict and the same record. So a group that was loaded is valid.
-/

namespace Roster.Binary

variable {bytes rest : List UInt8} {g : Group}

theorem loadGroup_of_record (hrecord : record.run bytes = .ok (g, rest)) :
    loadGroup bytes = Except.mapError (.invalid g.id) <$> g.accept := by
  rcases g.valid_or_breach with hvalid | ⟨breach, hbreach⟩
  · have hdecode : decode group bytes = .ok g := by
      rw [decode, group, StateT.run_bind, hrecord]
      simp only [bind, Except.bind, Group.breach?_eq_none_iff.2 hvalid]
      rfl
    rw [loadGroup, hdecode, Group.accept_of_valid hvalid]
    rfl
  · have hdecode : decode group bytes = .error (.invalid g.id breach) := by
      rw [decode, group, StateT.run_bind, hrecord]
      simp only [bind, Except.bind, hbreach]
      rfl
    rw [loadGroup, hdecode, Group.accept_of_breach hbreach]
    rfl

theorem loadGroup_of_fault {fault : Fault} (hrecord : record.run bytes = .error fault) :
    loadGroup bytes = ⟨.error fault, fault.events⟩ := by
  have hdecode : decode group bytes = .error fault := by
    rw [decode, group, StateT.run_bind, hrecord]
    rfl
  rw [loadGroup, hdecode]

theorem valid_of_loadGroup (hload : (loadGroup bytes).value = .ok g) : g.Valid := by
  cases hrecord : record.run bytes with
  | error fault =>
    rw [loadGroup_of_fault hrecord] at hload
    cases hload
  | ok read =>
    rw [loadGroup_of_record hrecord] at hload
    rcases read.1.valid_or_breach with hvalid | ⟨breach, hbreach⟩
    · rw [Group.accept_of_valid hvalid] at hload
      cases hload
      exact hvalid
    · rw [Group.accept_of_breach hbreach] at hload
      cases hload

end Roster.Binary
