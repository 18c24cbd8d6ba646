import Mathlib.Data.List.TakeWhile
import Roster.Json.Group
import Roster.Proofs.Group.Verdict

/-!
# Loading is reading the fields and accepting them

The check comes right behind the fields of a group and before what follows them is looked at. So the
verdict on an invalid group is the same whatever follows, and a group that was loaded is valid.
-/

namespace Roster.Json

open Reader

variable {text : String} {rest : List Char} {g : Group}

theorem loadGroup_of_breach {breach : Breach} (hrecord : record.run text.toList = .ok (g, rest))
    (hbreach : g.breach? = some breach) :
    loadGroup text = ⟨.error (.unfit (.invalid g.id breach)), [.validationFailed g.id breach]⟩ := by
  have hgroup : group.run text.toList = .error (.unfit (.invalid g.id breach)) := by
    rw [group, run_bind, hrecord]
    simp only [hbreach]
    rfl
  rw [loadGroup, decode, whole, run_bind, hgroup]
  rfl

theorem loadGroup_of_valid (hrecord : record.run text.toList = .ok (g, rest)) (hvalid : g.Valid) :
    loadGroup text =
      match endOfText.run rest with
      | .ok _ => pure (.ok g)
      | .error fault => ⟨.error fault, fault.events⟩ := by
  have hgroup : group.run text.toList = .ok (g, rest) := by
    rw [group, run_bind, hrecord]
    simp only [Group.breach?_eq_none_iff.2 hvalid]
    rfl
  rw [loadGroup, decode, whole, run_bind, hgroup]
  simp only [run_bind]
  cases endOfText.run rest <;> rfl

theorem loadGroup_of_fault {fault : Fault} (hrecord : record.run text.toList = .error fault) :
    loadGroup text = ⟨.error fault, fault.events⟩ := by
  have hgroup : group.run text.toList = .error fault := by
    rw [group, run_bind, hrecord]
  rw [loadGroup, decode, whole, run_bind, hgroup]
  rfl

theorem run_endOfText_blank (hblank : ∀ c ∈ rest, isBlank c = true) :
    endOfText.run rest = .ok ((), []) := by
  have hnone : (rest ++ []).dropWhile isBlank = [] := List.dropWhile_append_of_pos hblank
  rw [List.append_nil] at hnone
  simp only [endOfText, run_bind, run_blanks, hnone, run_peek]
  rfl

theorem run_endOfText_trailing {c : Char} {tail : List Char}
    (htrailing : rest.dropWhile isBlank = c :: tail) :
    endOfText.run rest = .error (.malformed .trailingCharacters) := by
  simp only [endOfText, run_bind, run_blanks, htrailing, run_peek]
  rfl

/-- What was loaded is valid, and nothing but blanks stands behind its fields. -/
theorem record_of_loadGroup (hload : (loadGroup text).value = .ok g) :
    g.Valid ∧ ∃ rest, record.run text.toList = .ok (g, rest) ∧ ∀ c ∈ rest, isBlank c = true := by
  cases hrecord : record.run text.toList with
  | error fault =>
    rw [loadGroup_of_fault hrecord] at hload
    cases hload
  | ok read =>
    obtain ⟨h, rest⟩ := read
    rcases h.valid_or_breach with hvalid | ⟨breach, hbreach⟩
    · rw [loadGroup_of_valid hrecord hvalid] at hload
      cases hblank : rest.dropWhile isBlank with
      | cons c tail =>
        rw [run_endOfText_trailing hblank] at hload
        cases hload
      | nil =>
        rw [run_endOfText_blank (List.dropWhile_eq_nil_iff.1 hblank)] at hload
        cases hload
        exact ⟨hvalid, rest, rfl, List.dropWhile_eq_nil_iff.1 hblank⟩
    · rw [loadGroup_of_breach hrecord hbreach] at hload
      cases hload

theorem valid_of_loadGroup (hload : (loadGroup text).value = .ok g) : g.Valid :=
  (record_of_loadGroup hload).1

end Roster.Json
