import Mathlib.Data.List.Infix
import Roster.GroupKind
import Roster.Proofs.Text.Uppercase

/-!
# The texts that name a kind

A kind is named by its label and by the case variants of it: small letters, a long s, a dotless i,
and in the label of feeds a sharp s in place of the two S. No other text names a kind, and no text
names two.
-/

namespace Roster.GroupKind

open Text

variable {text : String} {kind : GroupKind}

theorem capitals_label (kind : GroupKind) : Capitals kind.label.toList := by
  have hplain : kind.label.toList.all fun c => decide (c.toNat < 128 ∧ c.toUpper = c) := by
    cases kind <;> decide
  have hchars : ∀ c ∈ kind.label.toList, c.toNat < 128 ∧ c.toUpper = c := fun c hc =>
    of_decide_eq_true (List.all_eq_true.1 hplain c hc)
  have hunligated : ∀ entry ∈ Uppercase.ligatures, ¬ entry.2 <:+: kind.label.toList := by
    cases kind <;> decide
  exact ⟨fun c hc => (hchars c hc).1, fun c hc => (hchars c hc).2, hunligated⟩

theorem ofLabel?_eq_some_iff_uppercase :
    ofLabel? text = some kind ↔ uppercase text.toList = kind.label.toList := by
  constructor
  · intro hread
    have hlabel := List.find?_some hread
    exact (of_decide_eq_true hlabel).symm
  · intro hcapitals
    rw [ofLabel?, hcapitals]
    cases kind <;> decide

theorem ofLabel?_eq_some_iff_caseVariant :
    ofLabel? text = some kind ↔ CaseVariant kind.label.toList text.toList := by
  rw [ofLabel?_eq_some_iff_uppercase, uppercase_eq_iff (capitals_label kind)]

/-- A text is read as the kind of whose label it is a case variant, and as none if there is no such
kind. It is a case variant of one label at most. -/
theorem ofLabel?_reads (text : String) :
    (∀ kind, ofLabel? text = some kind ↔ CaseVariant kind.label.toList text.toList) ∧
      (ofLabel? text = none ↔ ∀ kind : GroupKind, ¬ CaseVariant kind.label.toList text.toList) ∧
      ∀ kind other : GroupKind, CaseVariant kind.label.toList text.toList →
        CaseVariant other.label.toList text.toList → kind = other := by
  refine ⟨fun kind => ofLabel?_eq_some_iff_caseVariant, ?_, fun kind other hkind hother => ?_⟩
  · rw [Option.eq_none_iff_forall_ne_some]
    exact forall_congr' fun kind => not_congr ofLabel?_eq_some_iff_caseVariant
  · rw [← ofLabel?_eq_some_iff_caseVariant] at hkind hother
    exact Option.some.inj (hkind.symm.trans hother)

theorem ofLabel?_reads_sharp_feed :
    CaseVariant rssFeed.label.toList "rß_feED".toList ∧ ofLabel? "rß_feED" = some rssFeed ∧
      ¬ CaseVariant signal.label.toList "rß_feED".toList := by
  have hvariant : CaseVariant rssFeed.label.toList "rß_feED".toList :=
    .lower 'R' (.sharpS (.keep '_' (.lower 'F' (.lower 'E' (.keep 'E' (.keep 'D' .nil))))))
  obtain ⟨hread, -, hone⟩ := ofLabel?_reads "rß_feED"
  exact ⟨hvariant, (hread rssFeed).2 hvariant, fun hsignal =>
    absurd (hone signal rssFeed hsignal hvariant) (by decide)⟩

/-- A capital sharp s and letters of full width stand for no letters of a label. -/
example : ofLabel? "rẞ_feed" = none ∧ ofLabel? "ｓｉｇｎａｌ" = none := by decide +kernel

end Roster.GroupKind
