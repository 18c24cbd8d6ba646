import Roster.Group.Validity

/-!
# The verdict on a group

Accepting and validating look at the same thing, the first broken rule. A valid group passes without
a record, any other is refused with the rule that it breaks and one record of it.
-/

namespace Roster.Group

variable {g : Group} {breach : Breach}

theorem accept_of_valid (hvalid : g.Valid) : g.accept = pure (.ok g) := by
  rw [accept, breach?_eq_none_iff.2 hvalid]

theorem accept_of_breach (hbreach : g.breach? = some breach) :
    g.accept = ⟨.error breach, [.validationFailed g.id breach]⟩ := by
  rw [accept, hbreach]
  rfl

theorem validate_of_valid (hvalid : g.Valid) : g.validate = pure (.ok ()) := by
  rw [validate, accept_of_valid hvalid]
  rfl

theorem validate_of_breach (hbreach : g.breach? = some breach) :
    g.validate = ⟨.error breach, [.validationFailed g.id breach]⟩ := by
  rw [validate, accept_of_breach hbreach]
  rfl

theorem valid_or_breach (g : Group) : g.Valid ∨ ∃ breach, g.breach? = some breach := by
  cases hbreach : g.breach? with
  | none => exact .inl (breach?_eq_none_iff.1 hbreach)
  | some breach => exact .inr ⟨breach, rfl⟩

theorem validate_value_eq_ok_iff : g.validate.value = .ok () ↔ g.Valid := by
  constructor
  · intro hok
    rcases g.valid_or_breach with hvalid | ⟨breach, hbreach⟩
    · exact hvalid
    · rw [validate_of_breach hbreach] at hok
      cases hok
  · intro hvalid
    rw [validate_of_valid hvalid]
    rfl

theorem validate_value_eq_error_iff :
    g.validate.value = .error breach ↔ g.breach? = some breach := by
  constructor
  · intro herror
    rcases g.valid_or_breach with hvalid | ⟨other, hother⟩
    · rw [validate_of_valid hvalid] at herror
      cases herror
    · rw [validate_of_breach hother] at herror
      cases herror
      exact hother
  · intro hbreach
    rw [validate_of_breach hbreach]

theorem valid_of_accept {h : Group} (haccept : g.accept.value = .ok h) : h = g ∧ g.Valid := by
  rcases g.valid_or_breach with hvalid | ⟨breach, hbreach⟩
  · rw [accept_of_valid hvalid] at haccept
    cases haccept
    exact ⟨rfl, hvalid⟩
  · rw [accept_of_breach hbreach] at haccept
    cases haccept

end Roster.Group
