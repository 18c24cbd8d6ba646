import Roster.Json.Scalar
import Roster.Proofs.Json.Text

/-!
# Steady readers

A reader is steady when characters behind its input change neither what it took nor what it made of
it, as long as it left something unread. It has to leave something because a numeral may go on with
the characters behind it. A reader that comes to a bracket or to a quote of its own does not need
that and is firm. Steadiness goes through sequencing, so each reader is steady by its parts.
-/

namespace Roster.Json

open Decimal Reader

variable {α β : Type}

/-- More characters behind what is left change nothing, if anything is left. -/
def Steady (reader : Reader α) : Prop :=
  ∀ input a rest more, reader.run input = .ok (a, rest) → rest ≠ [] →
    reader.run (input ++ more) = .ok (a, rest ++ more)

/-- More characters behind what is left change nothing. -/
def Firm (reader : Reader α) : Prop :=
  ∀ input a rest more, reader.run input = .ok (a, rest) →
    reader.run (input ++ more) = .ok (a, rest ++ more)

/-- The reader is firm and does not do without any characters. -/
structure Closed (reader : Reader α) : Prop where
  firm : Firm reader
  needs : ∃ fault, reader.run [] = .error fault

/-! ### Readers in sequence -/

theorem Reader.run_bind_eq_ok {first : Reader α} {next : α → Reader β} {input rest : List Char}
    {b : β} (h : (first >>= next).run input = .ok (b, rest)) :
    ∃ a middle, first.run input = .ok (a, middle) ∧ (next a).run middle = .ok (b, rest) := by
  rw [run_bind] at h
  cases hfirst : first.run input with
  | ok taken =>
    rw [hfirst] at h
    exact ⟨taken.1, taken.2, rfl, h⟩
  | error fault =>
    rw [hfirst] at h
    cases h

theorem ne_nil_of_length_le {input rest : List Char} (hle : rest.length ≤ input.length)
    (hrest : rest ≠ []) : input ≠ [] := by
  rw [← List.length_pos_iff] at hrest ⊢
  omega

theorem Firm.pure (a : α) : Firm (Pure.pure a : Reader α) := by
  intro input b rest more h
  cases h
  rfl

theorem Firm.fail (fault : Fault) : Firm (Reader.fail fault : Reader α) := by
  intro input a rest more h
  cases h

theorem Firm.bind {first : Reader α} {next : α → Reader β} (hfirst : Firm first)
    (hnext : ∀ a, Firm (next a)) : Firm (first >>= next) := by
  intro input b rest more h
  obtain ⟨a, middle, hread, hthen⟩ := run_bind_eq_ok h
  rw [run_bind, hfirst input a middle more hread]
  exact hnext a middle b rest more hthen

theorem Firm.steady {reader : Reader α} (h : Firm reader) : Steady reader :=
  fun input a rest more hread _ => h input a rest more hread

namespace Steady

theorem pure (a : α) : Steady (Pure.pure a : Reader α) := (Firm.pure a).steady

theorem fail (fault : Fault) : Steady (Reader.fail fault : Reader α) := (Firm.fail fault).steady

theorem bind {first : Reader α} {next : α → Reader β} (hfirst : Steady first)
    (hnext : ∀ a, Steady (next a)) : Steady (first >>= next) := by
  intro input b rest more h hrest
  obtain ⟨a, middle, hread, hthen⟩ := run_bind_eq_ok h
  have hmiddle : middle ≠ [] := ne_nil_of_length_le ((next a).rest_le hthen) hrest
  rw [run_bind, hfirst input a middle more hread hmiddle]
  exact hnext a middle b rest more hthen hrest

theorem map {reader : Reader α} (f : α → β) (h : Steady reader) : Steady (f <$> reader) := by
  rw [map_eq_pure_bind]
  exact h.bind fun a => pure (f a)

theorem ite {p : Prop} [Decidable p] {yes no : Reader α} (hyes : Steady yes) (hno : Steady no) :
    Steady (if p then yes else no) := by
  split
  · exact hyes
  · exact hno

/-- What follows a reader that left nothing needs something, so the whole is closed. -/
theorem bind_closed {first : Reader α} {next : α → Reader β} (hfirst : Steady first)
    (hnext : ∀ a, Closed (next a)) : Closed (first >>= next) := by
  constructor
  · intro input b rest more h
    obtain ⟨a, middle, hread, hthen⟩ := run_bind_eq_ok h
    have hmiddle : middle ≠ [] := by
      rintro rfl
      obtain ⟨fault, hfault⟩ := (hnext a).needs
      cases hfault.symm.trans hthen
    rw [run_bind, hfirst input a middle more hread hmiddle]
    exact (hnext a).firm middle b rest more hthen
  · rw [run_bind]
    cases hread : first.run [] with
    | error fault => exact ⟨fault, rfl⟩
    | ok taken =>
      obtain ⟨a, rest⟩ := taken
      have hrest : rest = [] := List.length_eq_zero_iff.1 (Nat.le_zero.1 (first.rest_le hread))
      rw [hrest]
      exact (hnext a).needs

end Steady

theorem Closed.bind {first : Reader α} {next : α → Reader β} (hfirst : Closed first)
    (hnext : ∀ a, Firm (next a)) : Closed (first >>= next) := by
  refine ⟨hfirst.firm.bind hnext, ?_⟩
  obtain ⟨fault, hfault⟩ := hfirst.needs
  rw [run_bind, hfault]
  exact ⟨fault, rfl⟩

/-! ### Characters and blanks -/

theorem peek_steady : Steady peek := by
  intro input a rest more h hrest
  cases h
  cases input with
  | nil => exact absurd rfl hrest
  | cons c input => rfl

theorem advance_steady : Steady advance := by
  intro input a rest more h hrest
  cases h
  cases input with
  | nil => exact absurd rfl hrest
  | cons c input => rfl

theorem next_steady : Steady next :=
  peek_steady.bind fun c => advance_steady.bind fun _ => .pure c

theorem dropWhile_append_of_cons {input tail more : List Char} {c : Char}
    (h : input.dropWhile isBlank = c :: tail) :
    (input ++ more).dropWhile isBlank = c :: (tail ++ more) := by
  rw [List.dropWhile_append, h]
  rfl

theorem blanks_steady : Steady blanks := by
  intro input a rest more h hrest
  cases h
  obtain ⟨c, tail, hblanks⟩ := List.exists_cons_of_ne_nil hrest
  rw [run_blanks, hblanks, dropWhile_append_of_cons hblanks]
  rfl

theorem ahead_firm (place : Place) : Firm (ahead place) := by
  intro input c rest more h
  rw [run_ahead] at h ⊢
  split at h
  · cases h
  · rename_i hblanks
    cases h
    rw [dropWhile_append_of_cons hblanks]
    rfl

theorem ahead_steady (place : Place) : Steady (ahead place) := (ahead_firm place).steady

theorem opening_firm : Firm opening := by
  intro input c rest more h
  rw [run_opening] at h ⊢
  split at h
  · cases h
  · rename_i hblanks
    cases h
    rw [dropWhile_append_of_cons hblanks]

theorem opening_steady : Steady opening := opening_firm.steady

/-- What goes on by the character ahead still has that character before it. -/
theorem ahead_bind_firm {place : Place} {next : Char → Reader α}
    (hnext : ∀ c tail a rest more, (next c).run (c :: tail) = .ok (a, rest) →
      (next c).run (c :: (tail ++ more)) = .ok (a, rest ++ more)) :
    Firm (ahead place >>= next) := by
  intro input a rest more h
  obtain ⟨c, middle, hahead, hthen⟩ := run_bind_eq_ok h
  obtain ⟨tail, rfl, _⟩ := ahead_eq_ok hahead
  rw [run_bind, ahead_firm place input c _ more hahead]
  exact hnext c tail a rest more hthen

theorem word_steady (chars : List Char) : Steady (word chars) := by
  induction chars with
  | nil => exact .pure ()
  | cons c chars ih =>
    refine next_steady.bind fun next => ?_
    cases next with
    | none => exact .fail _
    | some d => exact .ite ih (.fail _)

/-! ### Numerals -/

theorem digits_steady : Steady Numeral.digits := by
  intro input ds rest more h hrest
  have hspan : Digit.span input = (ds, rest) := Except.ok.inj h
  suffices Digit.span (input ++ more) = (ds, rest ++ more) from congrArg Except.ok this
  clear h
  induction input generalizing ds with
  | nil =>
    cases hspan
    exact absurd rfl hrest
  | cons c input ih =>
    rw [List.cons_append, Digit.span]
    rw [Digit.span] at hspan
    cases hc : Digit.ofChar? c with
    | none =>
      rw [hc] at hspan
      cases hspan
      rfl
    | some d =>
      rw [hc] at hspan
      cases hspan
      simp only [ih (Digit.span input).1 rfl]

namespace Numeral

variable (atEnd : Fault)

theorem someDigits_steady : Steady (someDigits atEnd) := by
  refine digits_steady.bind fun all => .ite (peek_steady.bind fun c => ?_) (.pure all)
  cases c with
  | none => exact .fail _
  | some c => exact .fail _

theorem wholeDigits_steady (first : Char) : Steady (wholeDigits first) := by
  unfold wholeDigits
  split
  · exact .fail _
  · exact digits_steady.bind fun more => .ite (.fail _) (.pure _)

theorem fractionDigits_steady : Steady (fractionDigits atEnd) :=
  peek_steady.bind fun _ => .ite (advance_steady.bind fun _ => someDigits_steady atEnd) (.pure [])

theorem exponentSign_steady : Steady exponentSign := by
  refine peek_steady.bind fun c => ?_
  split
  · exact advance_steady.bind fun _ => .pure _
  · exact advance_steady.bind fun _ => .pure _
  · exact .pure _

theorem exponentPart_steady : Steady (exponentPart atEnd) :=
  peek_steady.bind fun _ => .ite
    (advance_steady.bind fun _ => exponentSign_steady.bind fun _ =>
      (someDigits_steady atEnd).bind fun _ => .pure _)
    (.pure none)

theorem unsigned_steady (negative : Bool) (first : Char) :
    Steady (unsigned atEnd negative first) :=
  (wholeDigits_steady first).bind fun _ =>
  (fractionDigits_steady atEnd).bind fun _ =>
  (exponentPart_steady atEnd).bind fun _ => .pure _

theorem behind_steady (first : Char) : Steady (behind atEnd first) := by
  refine .ite (next_steady.bind fun digit => ?_) (unsigned_steady atEnd false first)
  cases digit with
  | none => exact .fail _
  | some digit => exact unsigned_steady atEnd true digit

end Numeral

theorem number_steady (first : Char) : Steady (Number.behind first) := by
  refine (Numeral.behind_steady _ first).bind fun numeral => ?_
  cases numeral.number? with
  | none => exact .fail _
  | some number => exact .pure number

/-! ### Texts -/

namespace Text

theorem unit_steady : Steady unit := by
  intro input n rest more h hrest
  match input with
  | a :: b :: c :: d :: input =>
    simp only [unit, List.cons_append] at h ⊢
    cases hvalue : hexValue? [a, b, c, d] with
    | none =>
      rw [hvalue] at h
      cases h
    | some m =>
      rw [hvalue] at h
      cases h
      rfl
  | [] | [_] | [_, _] | [_, _, _] => cases h

theorem pairMark_steady (mark : Char) : Steady (pairMark mark) := by
  refine next_steady.bind fun c => ?_
  cases c with
  | none => exact .fail _
  | some c => exact .ite (.pure ()) (.fail _)

theorem coded_steady : Steady coded :=
  unit_steady.bind fun _ => .ite (.fail _) (.ite
    ((pairMark_steady _).bind fun _ => (pairMark_steady _).bind fun _ =>
      unit_steady.bind fun _ => .ite (.pure _) (.fail _))
    (.pure _))

variable {plain : Char → α} {code : Reader α}

theorem escape_steady (hcode : Steady code) : Steady (escape plain code) := by
  refine next_steady.bind fun letter => ?_
  cases letter with
  | none => exact .fail _
  | some letter =>
    dsimp only
    split
    · exact .pure _
    · exact .ite hcode (.fail _)

theorem bodyFrom_append (hcode : Steady code) {done all : List α} {input rest : List Char}
    (more : List Char) (h : bodyFrom plain code done input = .ok (all, rest)) :
    bodyFrom plain code done (input ++ more) = .ok (all, rest ++ more) := by
  fun_induction bodyFrom plain code done input with
  | case1 => cases h
  | case2 =>
    cases h
    rw [List.cons_append, bodyFrom_quote]
  | case3 _ _ _ behind read _ _ ih =>
    have hbehind : behind ≠ [] := by
      rintro rfl
      rw [bodyFrom] at h
      cases h
    rw [List.cons_append, bodyFrom_backslash (escape_steady hcode _ _ _ more read hbehind)]
    exact ih h
  | case4 => cases h
  | case5 => cases h
  | case6 _ _ _ hquote hbackslash hcontrol ih =>
    rw [List.cons_append, bodyFrom_plain hquote hbackslash hcontrol]
    exact ih h

theorem content_steady : Steady content := by
  apply Steady.map
  intro input all rest more h _
  exact bodyFrom_append coded_steady more h

theorem skipContent_steady : Steady skipContent := by
  apply Steady.map
  intro input all rest more h _
  exact bodyFrom_append (unit_steady.map _) more h

end Text

/-! ### Single values -/

theorem refuse_firm (wanted : Wanted) (first : Char) :
    Firm (refuse wanted first : Reader α) := by
  intro input a rest more h
  obtain ⟨_, _, _, hfail⟩ := run_bind_eq_ok h
  cases hfail

theorem refuse_steady (wanted : Wanted) (first : Char) :
    Steady (refuse wanted first : Reader α) := (refuse_firm wanted first).steady

theorem text_steady : Steady text :=
  opening_steady.bind fun first => .ite Text.content_steady (refuse_steady .text first)

theorem byte_steady : Steady byte := by
  refine opening_steady.bind fun first => .ite ?_ (refuse_steady .byte first)
  refine (number_steady first).bind fun number => ?_
  cases number with
  | integer value => exact .ite (.pure _) (.fail _)
  | float value => exact .fail _

theorem null_steady : Steady null :=
  opening_steady.bind fun first => .ite (word_steady _) (refuse_steady .null first)

theorem option_steady {value : Reader α} (hvalue : Steady value) : Steady (option value) :=
  blanks_steady.bind fun _ => peek_steady.bind fun _ => .ite
    (advance_steady.bind fun _ => (word_steady _).bind fun _ => .pure none)
    (hvalue.map some)

end Roster.Json
