import Roster.Json.Scalar
import Roster.Json.Writer
import Roster.Proofs.Json.Spelling

/-!
# Numerals are read back

A numeral that can be written stands for itself: its digits, its point and its exponent are read off
one after the other, and each part ends where the next character cannot belong to it. The numeral of
a number has no needless zero in front and reads as that number.
-/

namespace Roster.Json

open Decimal Reader

/-! ### Digits -/

/-- Whether a text does not go on with a digit. -/
def NoDigit (text : List Char) : Prop := ∀ c ∈ text.head?, Digit.ofChar? c = none

theorem noDigit_cons {c : Char} {text : List Char} (hc : Digit.ofChar? c = none) :
    NoDigit (c :: text) := by
  intro d hd
  cases hd
  exact hc

theorem continues_eq_false_iff {c : Char} :
    continues c = false ↔ c ≠ '.' ∧ c ≠ 'e' ∧ c ≠ 'E' ∧ Digit.ofChar? c = none := by
  simp only [continues, Bool.or_eq_false_iff, decide_eq_false_iff_not, Option.isSome_eq_false_iff,
    Option.isNone_iff_eq_none, and_assoc, ne_eq]

theorem Apart.noDigit {text : List Char} (h : Apart text) : NoDigit text := by
  intro c hc
  exact (continues_eq_false_iff.1 (h c hc)).2.2.2

theorem Apart.head_ne {text : List Char} (h : Apart text) {c : Char} (hc : continues c = true) :
    text.head? ≠ some c := by
  intro heq
  exact absurd hc (by rw [h c heq]; decide)

theorem span_digits {ds : List Digit} {rest : List Char} (hrest : NoDigit rest) :
    Digit.span (ds.map Digit.char ++ rest) = (ds, rest) := by
  induction ds with
  | nil =>
    cases rest with
    | nil => rfl
    | cons c rest =>
      have hc : Digit.ofChar? c = none := hrest c rfl
      simp only [List.map_nil, List.nil_append, Digit.span, hc]
  | cons d ds ih =>
    simp only [List.map_cons, List.cons_append, Digit.span, Digit.ofChar?_char, ih]

/-- The digits of a number begin with a zero only if the number is zero. -/
theorem ofNat_eq_cons (n : Nat) :
    ∃ d more, Digit.ofNat n = d :: more ∧ (d = 0 → n = 0) ∧ (n = 0 → more = []) := by
  fun_induction Digit.ofNat n with
  | case1 n h => exact ⟨⟨n, h⟩, [], rfl, fun hd => congrArg Fin.val hd, fun _ => rfl⟩
  | case2 n h ih =>
    obtain ⟨d, more, heq, hzero, _⟩ := ih
    rw [heq]
    refine ⟨d, more ++ [⟨n % 10, Nat.mod_lt n (by decide)⟩], rfl, fun hd => ?_, fun hn => ?_⟩
    · have := hzero hd
      omega
    · omega

namespace Numeral

variable (atEnd : Fault) {ds : List Digit} {rest : List Char}

theorem run_digits (hrest : NoDigit rest) :
    digits.run (ds.map Digit.char ++ rest) = .ok (ds, rest) :=
  congrArg Except.ok (span_digits hrest)

theorem run_someDigits (hds : ds ≠ []) (hrest : NoDigit rest) :
    (someDigits atEnd).run (ds.map Digit.char ++ rest) = .ok (ds, rest) := by
  have hfull : ds.isEmpty = false := List.isEmpty_eq_false_iff.2 hds
  simp only [someDigits, run_bind, run_digits hrest, hfull, Bool.false_eq_true, if_false, run_pure]

theorem run_wholeDigits {d : Digit} {more : List Digit} (hzero : d = 0 → more = [])
    (hrest : NoDigit rest) :
    (wholeDigits d.char).run (more.map Digit.char ++ rest) = .ok (d :: more, rest) := by
  have hneeded : ¬ (d = 0 ∧ more ≠ []) := fun h => h.2 (hzero h.1)
  simp only [wholeDigits, Digit.ofChar?_char, run_bind, run_digits hrest, hneeded, if_false,
    run_pure]

/-! ### The parts behind the whole digits -/

theorem run_fractionDigits (ds : List Digit) (hpoint : rest.head? ≠ some '.')
    (hrest : NoDigit rest) :
    (fractionDigits atEnd).run
        ((if ds.isEmpty then [] else '.' :: ds.map Digit.char) ++ rest) = .ok (ds, rest) := by
  cases ds with
  | nil =>
    simp only [fractionDigits, List.isEmpty_nil, if_true, List.nil_append, run_bind, run_peek,
      hpoint, if_false, run_pure]
  | cons d ds =>
    have hsome : (someDigits atEnd).run ((d :: ds).map Digit.char ++ rest) = .ok (d :: ds, rest) :=
      run_someDigits atEnd (List.cons_ne_nil d ds) hrest
    simp only [fractionDigits, List.isEmpty_cons, Bool.false_eq_true, if_false, List.cons_append,
      run_bind, run_peek, List.head?_cons, if_true, run_advance, List.tail_cons, hsome]

theorem char_ne_sign (d : Digit) : d.char ≠ '+' ∧ d.char ≠ '-' := by
  revert d
  decide

theorem run_exponentSign {sign : Sign} (hds : ds ≠ []) :
    exponentSign.run (sign.text ++ (ds.map Digit.char ++ rest))
      = .ok (sign, ds.map Digit.char ++ rest) := by
  cases sign with
  | plus => rfl
  | minus => rfl
  | absent =>
    cases ds with
    | nil => exact absurd rfl hds
    | cons d ds =>
      obtain ⟨hplus, hminus⟩ := char_ne_sign d
      simp only [exponentSign, Sign.text, List.nil_append, List.map_cons, List.cons_append,
        run_bind, run_peek, List.head?_cons]
      split
      · rename_i heq
        exact absurd (Option.some.inj heq) hplus
      · rename_i heq
        exact absurd (Option.some.inj heq) hminus
      · rfl

theorem run_exponentPart {exponent : Option Exponent} (hdigits : ∀ e ∈ exponent, e.digits ≠ [])
    (hrest : Apart rest) :
    (exponentPart atEnd).run ((exponent.map Exponent.text).getD [] ++ rest)
      = .ok (exponent, rest) := by
  cases exponent with
  | none =>
    have hsmall : rest.head? ≠ some 'e' := hrest.head_ne (by decide)
    have hcapital : rest.head? ≠ some 'E' := hrest.head_ne (by decide)
    simp only [exponentPart, Option.map_none, Option.getD_none, List.nil_append, run_bind, run_peek,
      hsmall, hcapital, or_self, if_false, run_pure]
  | some e =>
    obtain ⟨capital, sign, ds⟩ := e
    have hds : ds ≠ [] := hdigits _ rfl
    have hsign : exponentSign.run (sign.text ++ (ds.map Digit.char ++ rest))
        = .ok (sign, ds.map Digit.char ++ rest) := run_exponentSign hds
    have hsome := run_someDigits atEnd hds hrest.noDigit
    cases capital <;>
      simp only [exponentPart, Exponent.text, Option.map_some, Option.getD_some, Bool.false_eq_true,
        if_false, if_true, List.cons_append, List.append_assoc, run_bind, run_peek, List.head?_cons,
        Option.some.injEq, Char.reduceEq, or_true, or_false, decide_true, decide_false, run_advance,
        List.tail_cons, hsign, hsome, run_pure]

/-! ### Numerals -/

/-- Whether a numeral can be written: there are digits wherever digits are needed, and no needless
zero in front. -/
structure WellFormed (n : Numeral) : Prop where
  whole : ∃ d more, n.whole = d :: more ∧ (d = 0 → more = [])
  exponent : ∀ e ∈ n.exponent, e.digits ≠ []

theorem noDigit_exponent (exponent : Option Exponent) (hrest : Apart rest) :
    NoDigit ((exponent.map Exponent.text).getD [] ++ rest) := by
  cases exponent with
  | none => exact hrest.noDigit
  | some e =>
    obtain ⟨capital, sign, ds⟩ := e
    cases capital with
    | false => exact noDigit_cons (c := 'e') (by decide)
    | true => exact noDigit_cons (c := 'E') (by decide)

theorem noDigit_fraction (ds : List Digit) (hrest : NoDigit rest) :
    NoDigit ((if ds.isEmpty then [] else '.' :: ds.map Digit.char) ++ rest) := by
  cases ds with
  | nil => exact hrest
  | cons d ds => exact noDigit_cons (by decide)

theorem head_exponent_ne (exponent : Option Exponent) (hrest : Apart rest) :
    ((exponent.map Exponent.text).getD [] ++ rest).head? ≠ some '.' := by
  cases exponent with
  | none => exact hrest.head_ne (by decide)
  | some e =>
    obtain ⟨capital, sign, ds⟩ := e
    intro heq
    cases capital with
    | false => exact absurd (Option.some.inj heq) (show 'e' ≠ '.' by decide)
    | true => exact absurd (Option.some.inj heq) (show 'E' ≠ '.' by decide)

/-- The text of a numeral behind its sign and its first digit. -/
def tailText (n : Numeral) : List Char :=
  n.whole.tail.map Digit.char ++
    ((if n.fraction.isEmpty then [] else '.' :: n.fraction.map Digit.char) ++
      (n.exponent.map Exponent.text).getD [])

theorem run_unsigned {n : Numeral} {d : Digit} {more : List Digit} (hn : n.WellFormed)
    (hwhole : n.whole = d :: more) (hrest : Apart rest) :
    (unsigned atEnd n.negative d.char).run (n.tailText ++ rest) = .ok (n, rest) := by
  obtain ⟨d', more', hwhole', hzero⟩ := hn.whole
  have hsame : d' = d ∧ more' = more := by simpa [hwhole] using hwhole'.symm
  obtain ⟨rfl, rfl⟩ := hsame
  have hexponent := run_exponentPart atEnd hn.exponent hrest
  have hbehind := noDigit_exponent n.exponent hrest
  have hfraction :=
    run_fractionDigits atEnd n.fraction (head_exponent_ne n.exponent hrest) hbehind
  have hdigits := run_wholeDigits hzero (noDigit_fraction n.fraction hbehind)
  rw [tailText, hwhole, List.tail_cons, List.append_assoc, List.append_assoc]
  simp only [unsigned, run_bind, hdigits, hfraction, hexponent, run_pure, ← hwhole]

theorem text_eq {n : Numeral} {d : Digit} {more : List Digit} (hwhole : n.whole = d :: more) :
    n.text = (if n.negative then ['-'] else []) ++ d.char :: n.tailText := by
  rw [text, tailText, hwhole]
  rfl

/-- A numeral is read back behind its first character, which is a sign or a digit. -/
theorem run_behind {n : Numeral} (hn : n.WellFormed) :
    ∃ c chars, n.text = c :: chars ∧ isFirst c = true ∧
      ∀ rest, Apart rest → (behind atEnd c).run (chars ++ rest) = .ok (n, rest) := by
  obtain ⟨d, more, hwhole, hzero⟩ := hn.whole
  have htext := text_eq hwhole
  by_cases hnegative : n.negative = true
  · refine ⟨'-', d.char :: n.tailText, by rw [htext, hnegative]; rfl, rfl, fun rest hrest => ?_⟩
    have hunsigned := run_unsigned atEnd hn hwhole hrest
    rw [hnegative] at hunsigned
    simp only [behind, if_true, List.cons_append, run_bind, run_next, List.head?_cons,
      List.tail_cons, hunsigned]
  · rw [Bool.not_eq_true] at hnegative
    have hsign : ¬ d.char = '-' := (char_ne_sign d).2
    refine ⟨d.char, n.tailText, by rw [htext, hnegative]; rfl, ?_, fun rest hrest => ?_⟩
    · rw [isFirst, Digit.ofChar?_char, Option.isSome_some, Bool.or_true]
    · have hunsigned := run_unsigned atEnd hn hwhole hrest
      rw [hnegative] at hunsigned
      rw [behind, if_neg hsign, hunsigned]

theorem wellFormed_ofNat (n : Nat) : (ofNat n).WellFormed := by
  obtain ⟨d, more, heq, hzero, hmore⟩ := ofNat_eq_cons n
  exact ⟨⟨d, more, heq, fun hd => hmore (hzero hd)⟩, fun e he => by cases he⟩

theorem number?_ofNat {n : Nat} (hn : n < wordCount) :
    (ofNat n).number? = some (.integer n) := by
  have hinteger : (ofNat n).integer? = some (n : Int) := by
    simp only [integer?, ofNat, Digit.value_ofNat, ne_eq, not_true_eq_false, or_self, if_false,
      Bool.false_eq_true, hn, if_true]
  rw [number?, hinteger]

end Numeral

/-! ### Numbers that are bytes -/

theorem isBlank_of_isFirst {c : Char} (hc : Numeral.isFirst c = true) : isBlank c = false := by
  cases hblank : isBlank c with
  | false => rfl
  | true => rcases isBlank_iff.1 hblank with rfl | rfl | rfl | rfl <;> exact absurd hc (by decide)

theorem byte_reads (b : UInt8) : Reads byte (byteTokens b) b := by
  obtain ⟨c, chars, htext, hfirst, hbehind⟩ :=
    Numeral.run_behind (.ended .value) (Numeral.wellFormed_ofNat b.toNat)
  refine Reads.opening htext (isBlank_of_isFirst hfirst) ?_
  intro text rest htext hrest
  cases htext
  have hlt : b.toNat < 256 := b.toNat_lt
  have hnumber : (Numeral.ofNat b.toNat).number? = some (.integer b.toNat) :=
    Numeral.number?_ofNat (Nat.lt_trans hlt (by decide))
  have hrange : (0 : Int) ≤ (b.toNat : Int) ∧ (b.toNat : Int) < 256 := by omega
  have hvalue : UInt8.ofNat (b.toNat : Int).toNat = b := by
    rw [Int.toNat_natCast, UInt8.ofNat_toNat]
  simp only [List.nil_append, hfirst, if_true, run_bind, Number.behind, hbehind rest hrest, hnumber,
    run_pure, hrange, and_self, hvalue]

end Roster.Json
