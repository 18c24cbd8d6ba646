import Roster.Json.Container
import Roster.Json.Writer
import Roster.Proofs.Json.Numeral
import Roster.Proofs.Json.Text

/-!
# Lists and objects are read back

The parts of a container are rows of tokens with commas between them. Before each part the reader
passes the comma and the blanks, and it must not meet the closing bracket where a part begins. Given
that, a container is read as its parts are read one by one, each changing the state, and the law for
the whole is an induction over the chain of these changes.
-/

namespace Roster.Json

open Reader

/-! ### Where a row begins -/

/-- Whether the row of tokens begins with the character. -/
def Begins (row : List Token) (c : Char) : Prop :=
  ∃ token tokens chars, row = token :: tokens ∧ token.chars = c :: chars

/-- A spelling of a row from its first character on is one, too. -/
theorem Spelling.lead {row : List Token} {c : Char} {text : List Char} (h : Spelling row text)
    (hbegins : Begins row c) :
    ∃ gap behind, text = gap ++ c :: behind ∧ (∀ d ∈ gap, isBlank d = true) ∧
      Spelling row (c :: behind) := by
  obtain ⟨token, tokens, chars, rfl, hchars⟩ := hbegins
  obtain ⟨gap, behind, rfl, hgap, hbehind⟩ := h.cons_split
  have htight := hbehind.tight token
  rw [hchars, List.cons_append] at htight
  refine ⟨gap, chars ++ behind, ?_, hgap, htight⟩
  rw [hchars, List.cons_append]

/-- Rows that each stand behind a comma do not begin with a numeral. -/
theorem detached_commas (rows : List (List Token)) : Detached (rows.flatMap (.comma :: ·)) := by
  intro n heq
  cases rows with
  | nil => cases heq
  | cons row rows => cases heq

namespace Container

/-- The token that closes a container. -/
def closer : Container → Token
  | list => .closeList
  | object => .closeObject

variable {container : Container} {first : Bool} {gap gap' input rest behind : List Char}
  {c : Char}

theorem chars_closer : container.closer.chars = [container.closing] := by
  cases container <;> rfl

theorem isBlank_closing : isBlank container.closing = false := by
  cases container <;> decide

/-! ### Whether another part follows -/

theorem run_another_closing (hgap : ∀ d ∈ gap, isBlank d = true) :
    (container.another first).run (gap ++ container.closing :: rest) = .ok (false, rest) := by
  simp only [another, run_bind, run_ahead_gap container.place hgap isBlank_closing, if_true,
    run_advance, List.tail_cons, run_pure]

theorem run_another_first (hgap : ∀ d ∈ gap, isBlank d = true) (hc : isBlank c = false)
    (hclosing : c ≠ container.closing) :
    (container.another true).run (gap ++ c :: rest) = .ok (true, c :: rest) := by
  simp only [another, run_bind, run_ahead_gap container.place hgap hc, hclosing, if_false, if_true,
    run_pure]

theorem run_another_comma (hgap : ∀ d ∈ gap, isBlank d = true)
    (hgap' : ∀ d ∈ gap', isBlank d = true) (hc : isBlank c = false)
    (hclosing : c ≠ container.closing) :
    (container.another false).run (gap ++ ',' :: (gap' ++ c :: rest)) = .ok (true, c :: rest) := by
  have hcomma : ',' ≠ container.closing := by cases container <;> decide
  simp only [another, run_bind, run_ahead_gap container.place hgap (c := ',') (by decide), hcomma,
    Bool.false_eq_true, if_false, if_true, run_advance, List.tail_cons,
    run_ahead_gap .value hgap' hc, hclosing, run_pure]

/-! ### Chains of parts -/

variable {σ : Type} {part : σ → Reader σ} {state next final : σ}

theorem partsFrom_stop (hstop : (container.another first).run input = .ok (false, rest)) :
    partsFrom container part state first input = .ok (state, rest) := by
  rw [partsFrom]
  split
  · rename_i hother
    cases hstop.symm.trans hother
  · rename_i hother
    cases hstop.symm.trans hother
    rfl
  · rename_i _ hother
    cases hstop.symm.trans hother

theorem partsFrom_step (hgo : (container.another first).run input = .ok (true, rest))
    (hpart : (part state).run rest = .ok (next, behind)) :
    partsFrom container part state first input = partsFrom container part next false behind := by
  rw [partsFrom]
  split
  · rename_i hother
    cases hgo.symm.trans hother
  · rename_i hother
    cases hgo.symm.trans hother
  · rename_i _ hother
    cases hgo.symm.trans hother
    split
    · rename_i hfault
      cases hpart.symm.trans hfault
    · rename_i htaken
      cases hpart.symm.trans htaken
      rfl

theorem partsFrom_fault {fault : Fault}
    (hgo : (container.another first).run input = .ok (true, rest))
    (hpart : (part state).run rest = .error fault) :
    partsFrom container part state first input = .error fault := by
  rw [partsFrom]
  split
  · rename_i hother
    cases hgo.symm.trans hother
  · rename_i hother
    cases hgo.symm.trans hother
  · rename_i _ hother
    cases hgo.symm.trans hother
    split
    · rename_i hfault
      cases hpart.symm.trans hfault
      rfl
    · rename_i htaken
      cases hpart.symm.trans htaken

theorem partsFrom_unannounced {fault : Fault}
    (hfault : (container.another first).run input = .error fault) :
    partsFrom container part state first input = .error fault := by
  rw [partsFrom]
  split
  · rename_i hother
    cases hfault.symm.trans hother
    rfl
  · rename_i hother
    cases hfault.symm.trans hother
  · rename_i _ hother
    cases hfault.symm.trans hother

/-- Rows that are the parts of a container one after the other, from a state to a state. -/
inductive Chain (container : Container) (part : σ → Reader σ) : σ → List (List Token) → σ → Prop
  | nil (state : σ) : Chain container part state [] state
  | cons {state next final : σ} {row : List Token} {rows : List (List Token)} {c : Char}
      (hbegins : Begins row c) (hc : isBlank c = false) (hclosing : c ≠ container.closing)
      (hreads : Reads (part state) row next) (hrest : Chain container part next rows final) :
      Chain container part state (row :: rows) final

theorem detached_closer : Detached [container.closer] := by
  intro n heq
  cases container <;> cases heq

/-- Rows behind a first one, each with its comma. -/
theorem partsFrom_later {rows : List (List Token)} {text : List Char}
    (hchain : Chain container part state rows final)
    (htext : Spelling (rows.flatMap (.comma :: ·)) text) (hrest : Apart rest) :
    partsFrom container part state false (text ++ rest)
      = partsFrom container part final false rest := by
  induction hchain generalizing text with
  | nil state =>
    cases htext
    rfl
  | @cons state next final row rows c hbegins hc hclosing hreads hchain ih =>
    rw [List.flatMap_cons, List.cons_append] at htext
    obtain ⟨gap, behind, rfl, hgap, hbehind⟩ := htext.cons_split
    obtain ⟨text₁, text₂, rfl, hrow, hrows⟩ := hbehind.append_split
    obtain ⟨gap', text₁, rfl, hgap', hrow⟩ := hrow.lead hbegins
    have hapart : Apart (text₂ ++ rest) := (detached_commas rows).apart hrows hrest
    have hgo : (container.another false).run
        (gap ++ (Token.comma.chars ++ (gap' ++ c :: text₁ ++ text₂)) ++ rest)
          = .ok (true, c :: text₁ ++ (text₂ ++ rest)) := by
      simp only [Token.chars, List.append_assoc, List.cons_append, List.nil_append]
      exact run_another_comma hgap hgap' hc hclosing
    rw [partsFrom_step hgo (hreads _ _ hrow hapart)]
    exact ih hrows

/-- Rows from the first on, of which there is one at least. -/
theorem partsFrom_rows {rows : List (List Token)} {text : List Char}
    (hchain : Chain container part state rows final) (hrows : rows ≠ [])
    (htext : Spelling (separated rows) text) (hrest : Apart rest) :
    partsFrom container part state true (text ++ rest)
      = partsFrom container part final false rest := by
  cases hchain with
  | nil state => exact absurd rfl hrows
  | @cons _ next _ row rows c hbegins hc hclosing hreads hchain =>
    obtain ⟨text₁, text₂, rfl, hrow, hlater⟩ := htext.append_split
    obtain ⟨gap, text₁, rfl, hgap, hrow⟩ := hrow.lead hbegins
    have hapart : Apart (text₂ ++ rest) := (detached_commas rows).apart hlater hrest
    have hgo : (container.another true).run (gap ++ c :: text₁ ++ text₂ ++ rest)
        = .ok (true, c :: text₁ ++ (text₂ ++ rest)) := by
      simp only [List.append_assoc, List.cons_append]
      exact run_another_first hgap hc hclosing
    rw [partsFrom_step hgo (hreads _ _ hrow hapart)]
    exact partsFrom_later hchain hlater hrest

/-- A container is read behind its opening bracket as its parts are read one by one. -/
theorem parts_reads {rows : List (List Token)} (hchain : Chain container part state rows final) :
    Reads (container.parts part state) (separated rows ++ [container.closer]) final := by
  intro text rest htext hrest
  change partsFrom container part state true (text ++ rest) = _
  obtain ⟨text₁, text₂, rfl, hrows, hcloser⟩ := htext.append_split
  have hapart : Apart (text₂ ++ rest) := detached_closer.apart hcloser hrest
  obtain ⟨gap, rfl, hgap⟩ := hcloser.singleton_split
  have hstop (first : Bool) : (container.another first).run
      (gap ++ container.closer.chars ++ rest) = .ok (false, rest) := by
    rw [chars_closer, List.append_assoc]
    exact run_another_closing hgap
  rw [List.append_assoc]
  by_cases hnil : rows = []
  · subst hnil
    cases hrows
    cases hchain
    exact partsFrom_stop (hstop true)
  · rw [partsFrom_rows hchain hnil hrows hapart]
    exact partsFrom_stop (hstop false)

/-- A part that is refused behind others stops the reading, whatever comes behind its first
character. -/
theorem run_parts_fault {rows : List (List Token)} {text : List Char} {fault : Fault}
    (hchain : Chain container part state rows final) (hrows : rows ≠ [])
    (htext : Spelling (separated rows) text) (hgap : ∀ d ∈ gap, isBlank d = true)
    (hgap' : ∀ d ∈ gap', isBlank d = true) (hc : isBlank c = false)
    (hclosing : c ≠ container.closing) (hpart : (part final).run (c :: rest) = .error fault) :
    (container.parts part state).run (text ++ (gap ++ ',' :: (gap' ++ c :: rest)))
      = .error fault := by
  have hapart : Apart (gap ++ ',' :: (gap' ++ c :: rest)) :=
    apart_gap hgap (apart_cons (by decide))
  change partsFrom container part state true _ = _
  rw [partsFrom_rows hchain hrows htext hapart]
  exact partsFrom_fault (run_another_comma hgap hgap' hc hclosing) hpart

end Container

/-! ### Keys -/

theorem run_key {gap : List Char} (hgap : ∀ c ∈ gap, isBlank c = true) (s : String)
    (rest : List Char) : key.run (gap ++ (Token.quoted s ++ rest)) = .ok (s, rest) := by
  simp only [Token.quoted, List.append_assoc, List.cons_append, List.nil_append, key, keyOpening,
    run_bind, run_ahead_gap .object hgap (c := '"') (by decide), if_true, run_advance,
    List.tail_cons, Text.run_content_escape]

theorem key_reads (s : String) : Reads key [.text s] s := by
  intro text rest htext _
  obtain ⟨gap, rfl, hgap⟩ := htext.singleton_split
  rw [List.append_assoc]
  exact run_key hgap s rest

theorem run_colon {gap : List Char} (hgap : ∀ c ∈ gap, isBlank c = true) (rest : List Char) :
    colon.run (gap ++ ':' :: rest) = .ok ((), rest) := by
  simp only [colon, run_bind, run_ahead_gap .object hgap (c := ':') (by decide), if_true,
    run_advance, List.tail_cons]

theorem colon_reads : Reads colon [.colon] () := by
  intro text rest htext _
  obtain ⟨gap, rfl, hgap⟩ := htext.singleton_split
  rw [List.append_assoc]
  exact run_colon hgap rest

end Roster.Json
