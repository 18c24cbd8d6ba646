import Roster.Json.Reader
import Roster.Json.Token

/-!
# Spellings of tokens

Blanks may stand before any token, so a row of tokens has many spellings, and what is written
without blanks is one of them. A reader reads a row of tokens when it takes every spelling of it
from the front of a text and leaves the rest. Only a numeral does not show where it ends: what
stands behind a row must not go on with a digit, a point or an exponent, and this is the one
condition that is passed along when readers are put in sequence.
-/

namespace Roster.Json

open Decimal Reader

/-- The spellings of a row of tokens. -/
inductive Spelling : List Token → List Char → Prop
  | nil : Spelling [] []
  | cons {token : Token} {tokens : List Token} {gap text : List Char}
      (hgap : ∀ c ∈ gap, isBlank c = true) (htext : Spelling tokens text) :
      Spelling (token :: tokens) (gap ++ (token.chars ++ text))

namespace Spelling

/-- No blank needs to stand before a token. -/
theorem tight (token : Token) {tokens : List Token} {text : List Char} (h : Spelling tokens text) :
    Spelling (token :: tokens) (token.chars ++ text) :=
  @cons token tokens [] text (fun _ hc => absurd hc List.not_mem_nil) h

/-- The same blanks may stand before every token. -/
theorem spaced {gap : List Char} (hgap : ∀ c ∈ gap, isBlank c = true) (tokens : List Token) :
    Spelling tokens (tokens.flatMap fun token => gap ++ token.chars) := by
  induction tokens with
  | nil => exact .nil
  | cons token tokens ih =>
    rw [List.flatMap_cons, List.append_assoc]
    exact .cons hgap ih

theorem written (tokens : List Token) : Spelling tokens (tokens.flatMap Token.chars) :=
  spaced (List.forall_mem_nil _) tokens

theorem append_split {front back : List Token} {text : List Char}
    (h : Spelling (front ++ back) text) :
    ∃ text₁ text₂, text = text₁ ++ text₂ ∧ Spelling front text₁ ∧ Spelling back text₂ := by
  induction front generalizing text with
  | nil => exact ⟨[], text, rfl, .nil, h⟩
  | cons token front ih =>
    cases h with
    | cons hgap htext =>
      obtain ⟨text₁, text₂, rfl, hfront, hback⟩ := ih htext
      refine ⟨_, text₂, ?_, .cons hgap hfront, hback⟩
      simp only [List.append_assoc]

/-- The first token of a spelling, without the blanks before it. -/
theorem cons_split {token : Token} {tokens : List Token} {text : List Char}
    (h : Spelling (token :: tokens) text) :
    ∃ gap behind, text = gap ++ (token.chars ++ behind) ∧ (∀ c ∈ gap, isBlank c = true) ∧
      Spelling tokens behind := by
  cases h with
  | cons hgap htext => exact ⟨_, _, rfl, hgap, htext⟩

theorem singleton_split {token : Token} {text : List Char} (h : Spelling [token] text) :
    ∃ gap, text = gap ++ token.chars ∧ ∀ c ∈ gap, isBlank c = true := by
  obtain ⟨gap, behind, rfl, hgap, hbehind⟩ := h.cons_split
  cases hbehind
  exact ⟨gap, by rw [List.append_nil], hgap⟩

end Spelling

/-! ### What may stand behind a row -/

/-- Whether a numeral could go on with the character. -/
def continues (c : Char) : Bool := c = '.' || c = 'e' || c = 'E' || (Digit.ofChar? c).isSome

/-- Whether a text does not go on with a numeral. -/
def Apart (text : List Char) : Prop := ∀ c ∈ text.head?, continues c = false

/-- Whether a row of tokens does not begin with a numeral. -/
def Detached (tokens : List Token) : Prop := ∀ n, tokens.head? ≠ some (.number n)

theorem isBlank_iff {c : Char} : isBlank c = true ↔ c = ' ' ∨ c = '\n' ∨ c = '\t' ∨ c = '\r' := by
  simp only [isBlank, Bool.or_eq_true, decide_eq_true_eq, or_assoc]

theorem continues_of_isBlank {c : Char} (hc : isBlank c = true) : continues c = false := by
  rcases isBlank_iff.1 hc with rfl | rfl | rfl | rfl <;> decide

theorem apart_cons {c : Char} {text : List Char} (hc : continues c = false) :
    Apart (c :: text) := by
  intro d hd
  cases hd
  exact hc

theorem apart_chars {token : Token} (htoken : ∀ n, token ≠ .number n) (text : List Char) :
    Apart (token.chars ++ text) := by
  cases token with
  | number n => exact absurd rfl (htoken n)
  | flag value => cases value <;> exact apart_cons (by decide)
  | _ => exact apart_cons (by decide)

theorem apart_of_blank {text : List Char} (hblank : ∀ c ∈ text, isBlank c = true) : Apart text :=
  fun c hc => continues_of_isBlank (hblank c (List.mem_of_mem_head? hc))

theorem apart_gap {gap text : List Char} (hgap : ∀ c ∈ gap, isBlank c = true)
    (htext : Apart text) : Apart (gap ++ text) := by
  cases gap with
  | nil => exact htext
  | cons c gap => exact apart_cons (continues_of_isBlank (hgap c List.mem_cons_self))

theorem Detached.apart {tokens : List Token} {text rest : List Char} (hdetached : Detached tokens)
    (htext : Spelling tokens text) (hrest : Apart rest) : Apart (text ++ rest) := by
  cases tokens with
  | nil =>
    cases htext
    exact hrest
  | cons token tokens =>
    obtain ⟨gap, behind, rfl, hgap, _⟩ := htext.cons_split
    rw [List.append_assoc, List.append_assoc]
    exact apart_gap hgap (apart_chars (fun n heq => hdetached n (congrArg some heq)) _)

/-! ### Readers and rows -/

variable {α β : Type}

/-- The reader takes every spelling of the tokens from the front of a text, for this value. -/
def Reads (reader : Reader α) (tokens : List Token) (a : α) : Prop :=
  ∀ text rest, Spelling tokens text → Apart rest → reader.run (text ++ rest) = .ok (a, rest)

namespace Reads

variable {reader : Reader α} {next : α → Reader β} {front back tokens : List Token} {a : α} {b : β}

theorem pure (a : α) : Reads (Pure.pure a : Reader α) [] a := by
  intro text rest htext _
  cases htext
  rfl

theorem bind (hfirst : Reads reader front a) (hnext : Reads (next a) back b)
    (hdetached : Detached back) : Reads (reader >>= next) (front ++ back) b := by
  intro text rest htext hrest
  obtain ⟨text₁, text₂, rfl, hfront, hback⟩ := htext.append_split
  have hbehind : Apart (text₂ ++ rest) := hdetached.apart hback hrest
  rw [run_bind, List.append_assoc, hfirst text₁ _ hfront hbehind]
  exact hnext text₂ rest hback hrest

/-- The end of a sequence takes no more tokens. -/
theorem bind_nil (hfirst : Reads reader tokens a) (hnext : Reads (next a) [] b) :
    Reads (reader >>= next) tokens b := by
  have h := hfirst.bind hnext fun n heq => by cases heq
  rwa [List.append_nil] at h

theorem bind_pure (hreads : Reads reader tokens a) (f : α → β) :
    Reads (reader >>= fun a => Pure.pure (f a)) tokens (f a) :=
  hreads.bind_nil (pure (f a))

theorem map (hreads : Reads reader tokens a) (f : α → β) : Reads (f <$> reader) tokens (f a) := by
  intro text rest htext hrest
  rw [run_map, hreads text rest htext hrest]

end Reads

/-! ### The first character of a row -/

variable {gap rest : List Char} {c : Char}

theorem dropWhile_gap (hgap : ∀ c ∈ gap, isBlank c = true) (hc : isBlank c = false) :
    (gap ++ c :: rest).dropWhile isBlank = c :: rest := by
  rw [List.dropWhile_append_of_pos hgap, List.dropWhile_cons_of_neg (by rw [hc]; decide)]

theorem run_ahead_gap (place : Place) (hgap : ∀ c ∈ gap, isBlank c = true)
    (hc : isBlank c = false) : (ahead place).run (gap ++ c :: rest) = .ok (c, c :: rest) := by
  rw [run_ahead, dropWhile_gap hgap hc]

theorem run_opening_gap (hgap : ∀ c ∈ gap, isBlank c = true) (hc : isBlank c = false) :
    opening.run (gap ++ c :: rest) = .ok (c, rest) := by
  rw [run_opening, dropWhile_gap hgap hc]

/-- A reader that takes the first character of a value away and goes on by it. -/
theorem Reads.opening {next : Char → Reader α} {token : Token} {tokens : List Token} {a : α}
    {chars : List Char} (hchars : token.chars = c :: chars) (hc : isBlank c = false)
    (hnext : ∀ text rest, Spelling tokens text → Apart rest →
      (next c).run (chars ++ (text ++ rest)) = .ok (a, rest)) :
    Reads (Reader.opening >>= next) (token :: tokens) a := by
  intro text rest htext hrest
  obtain ⟨gap, behind, rfl, hgap, hbehind⟩ := htext.cons_split
  rw [hchars, List.append_assoc, List.append_assoc, List.cons_append, run_bind,
    run_opening_gap hgap hc]
  exact hnext behind rest hbehind hrest

/-- The same for a token of one character. -/
theorem Reads.opening_mark {next : Char → Reader α} {token : Token} {tokens : List Token} {a : α}
    (hchars : token.chars = [c]) (hc : isBlank c = false) (hnext : Reads (next c) tokens a) :
    Reads (Reader.opening >>= next) (token :: tokens) a :=
  Reads.opening hchars hc hnext

end Roster.Json
