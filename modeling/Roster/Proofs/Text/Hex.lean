import Mathlib
import Roster.Proofs.Text.Utf8
import Roster.Text.Hex

/-!
# Reading hexadecimal digits

A row of digits is read two at a time, from the left. Digits spell exactly one byte string, whose
own digits are the same in lower case, and the first byte that is no digit is the one that is named,
with its place. The bytes of a text are digits exactly if its characters are, since every byte of a
longer form lies beyond all digits; so a text spells bytes exactly if it is an even number of
digits.
-/

namespace Roster.Text

namespace Hex

/-- The digits, those above nine in either case. -/
def alphabet : List Char := "0123456789abcdefABCDEF".toList

/-- The character whose code is a byte. -/
def latin (byte : UInt8) : Char := Char.ofNat byte.toNat

variable {c : Char} {byte bad high low : UInt8} {bytes front back text : List UInt8}
  {position : Nat}

/-! ### Single digits -/

@[simp] theorem toNat_latin (byte : UInt8) : (latin byte).toNat = byte.toNat := by
  have hsmall := byte.toNat_lt
  have hvalid : byte.toNat.isValidChar := by
    left
    omega
  rw [latin, Char.toNat_ofNat, if_pos hvalid]

theorem toNat_lt_of_mem (hc : c ∈ alphabet) : c.toNat < 128 := by
  have all : alphabet.all fun c => decide (c.toNat < 128) := by decide
  exact of_decide_eq_true (List.all_eq_true.1 all c hc)

/-- A digit stands for the number that is written with the same digit in lower case. -/
theorem exists_value_of_mem (hc : c ∈ alphabet) :
    ∃ n < 16, value? c.toNat = some n ∧ digit n = c.toLower := by
  have all : alphabet.all fun c =>
      decide (∃ n : Nat, n < 16 ∧ value? c.toNat = some n ∧ digit n = c.toLower) := by decide
  exact of_decide_eq_true (List.all_eq_true.1 all c hc)

theorem value?_of_not_mem (hc : c ∉ alphabet) : value? c.toNat = none := by
  have all : ∀ code < 128, value? code ≠ none → Char.ofNat code ∈ alphabet := by decide +kernel
  by_contra hvalue
  by_cases hsmall : c.toNat < 128
  · exact hc (Char.ofNat_toNat c ▸ all c.toNat hsmall hvalue)
  · exact hvalue (by rw [value?, if_neg (by omega), if_neg (by omega), if_neg (by omega)])

theorem digit_mem_alphabet {n : Nat} (hn : n < 16) : digit n ∈ alphabet := by
  have all : ∀ n < 16, digit n ∈ alphabet := by decide
  exact all n hn

theorem toLower_digit {n : Nat} (hn : n < 16) : (digit n).toLower = digit n := by
  have all : ∀ n < 16, (digit n).toLower = digit n := by decide
  exact all n hn

theorem digit_inj {m n : Nat} (hm : m < 16) (hn : n < 16) (heq : digit m = digit n) : m = n := by
  have hvalue := value?_digit hm
  rw [heq, value?_digit hn] at hvalue
  exact (Option.some.inj hvalue).symm

theorem digits_cons :
    digits (byte :: bytes)
      = digit (byte.toNat / 16) :: digit (byte.toNat % 16) :: digits bytes := rfl

theorem div_lt (byte : UInt8) : byte.toNat / 16 < 16 := by
  have := byte.toNat_lt
  omega

theorem mod_lt (byte : UInt8) : byte.toNat % 16 < 16 := Nat.mod_lt _ (by decide)

theorem mem_alphabet_of_mem_digits (hc : c ∈ digits bytes) : c ∈ alphabet := by
  obtain ⟨byte, -, hc⟩ := List.mem_flatMap.1 hc
  simp only [List.mem_cons, List.not_mem_nil, or_false] at hc
  rcases hc with rfl | rfl
  · exact digit_mem_alphabet (div_lt byte)
  · exact digit_mem_alphabet (mod_lt byte)

theorem map_toLower_digits (bytes : List UInt8) :
    (digits bytes).map Char.toLower = digits bytes := by
  induction bytes with
  | nil => rfl
  | cons byte rest ih =>
    rw [digits_cons, List.map_cons, List.map_cons, ih, toLower_digit (div_lt byte),
      toLower_digit (mod_lt byte)]

theorem digits_injective : Function.Injective digits := by
  intro left right heq
  induction left generalizing right with
  | nil =>
    cases right with
    | nil => rfl
    | cons byte right => cases heq
  | cons byte left ih =>
    cases right with
    | nil => cases heq
    | cons other right =>
      rw [digits_cons, digits_cons, List.cons.injEq, List.cons.injEq] at heq
      obtain ⟨hhigh, hlow, hrest⟩ := heq
      have hdiv := digit_inj (div_lt byte) (div_lt other) hhigh
      have hmod := digit_inj (mod_lt byte) (mod_lt other) hlow
      have hbyte : byte = other := UInt8.toNat_inj.1 (by omega)
      rw [hbyte, ih hrest]

/-! ### Reading in pairs -/

theorem nibble_of_mem (hbyte : latin byte ∈ alphabet) (position : Nat) :
    ∃ n < 16, nibble position byte = .ok n ∧ digit n = (latin byte).toLower := by
  obtain ⟨n, hn, hvalue, hdigit⟩ := exists_value_of_mem hbyte
  rw [toNat_latin] at hvalue
  refine ⟨n, hn, ?_, hdigit⟩
  rw [nibble, hvalue]

theorem nibble_of_not_mem (hbad : latin bad ∉ alphabet) (position : Nat) :
    nibble position bad = .error (.badDigit bad position) := by
  have hvalue := value?_of_not_mem hbad
  rw [toNat_latin] at hvalue
  rw [nibble, hvalue]

/-- Two digits in front are read as one byte, before what is behind them. -/
theorem pairs_cons_cons (hhigh : latin high ∈ alphabet) (hlow : latin low ∈ alphabet)
    (position : Nat) :
    ∃ byte, digits [byte] = [(latin high).toLower, (latin low).toLower] ∧
      ∀ rest, pairs position (high :: low :: rest) = (byte :: ·) <$> pairs (position + 2) rest := by
  obtain ⟨m, hm, hnibble, hfirst⟩ := nibble_of_mem hhigh position
  obtain ⟨n, hn, hnibble', hsecond⟩ := nibble_of_mem hlow (position + 1)
  have hbyte : (UInt8.ofNat (16 * m + n)).toNat = 16 * m + n := by
    rw [UInt8.toNat_ofNat']
    omega
  have hdiv : (16 * m + n) / 16 = m := by omega
  have hmod : (16 * m + n) % 16 = n := by omega
  refine ⟨UInt8.ofNat (16 * m + n), ?_, fun rest => ?_⟩
  · rw [digits_cons, hbyte, hdiv, hmod, hfirst, hsecond]
    rfl
  · rw [pairs, hnibble, hnibble']
    rfl

theorem even_of_cons_cons (heven : (high :: low :: text).length % 2 = 0) :
    text.length % 2 = 0 := by
  rw [List.length_cons, List.length_cons] at heven
  omega

theorem pairs_of_digits (heven : text.length % 2 = 0)
    (hdigits : ∀ byte ∈ text, latin byte ∈ alphabet) (position : Nat) :
    ∃ bytes, pairs position text = .ok bytes ∧
      digits bytes = text.map fun byte => (latin byte).toLower := by
  induction text using List.twoStepInduction generalizing position with
  | nil => exact ⟨[], rfl, rfl⟩
  | singleton byte => cases heven
  | cons_cons high low rest ih =>
    obtain ⟨hhigh, hbehind⟩ := List.forall_mem_cons.1 hdigits
    obtain ⟨hlow, hrest⟩ := List.forall_mem_cons.1 hbehind
    obtain ⟨byte, hpair, hread⟩ := pairs_cons_cons hhigh hlow position
    obtain ⟨bytes, hbytes, hdigits'⟩ := ih (even_of_cons_cons heven) hrest (position + 2)
    refine ⟨byte :: bytes, ?_, ?_⟩
    · rw [hread, hbytes]
      rfl
    · rw [List.map_cons, List.map_cons, ← hdigits']
      exact congrArg (· ++ digits bytes) hpair

/-- The first byte that is no digit is named with its place. -/
theorem pairs_of_bad (heven : (front ++ bad :: back).length % 2 = 0)
    (hfront : ∀ byte ∈ front, latin byte ∈ alphabet) (hbad : latin bad ∉ alphabet)
    (position : Nat) :
    pairs position (front ++ bad :: back) = .error (.badDigit bad (position + front.length)) := by
  induction front using List.twoStepInduction generalizing position with
  | nil =>
    cases back with
    | nil => cases heven
    | cons low rest =>
      rw [List.nil_append, pairs, nibble_of_not_mem hbad]
      rfl
  | singleton byte =>
    obtain ⟨n, -, hnibble, -⟩ := nibble_of_mem (hfront byte List.mem_cons_self) position
    rw [List.singleton_append, pairs, hnibble, nibble_of_not_mem hbad]
    rfl
  | cons_cons high low front ih =>
    obtain ⟨hhigh, hbehind⟩ := List.forall_mem_cons.1 hfront
    obtain ⟨hlow, hrest⟩ := List.forall_mem_cons.1 hbehind
    obtain ⟨byte, -, hread⟩ := pairs_cons_cons hhigh hlow position
    have hplace : position + 2 + front.length = position + (front.length + 1 + 1) := by omega
    rw [List.cons_append, List.cons_append, hread, ih (even_of_cons_cons heven) hrest,
      List.length_cons, List.length_cons, hplace]
    rfl

theorem decode_of_odd (hodd : text.length % 2 = 1) : decode text = .error .oddLength := by
  rw [decode, if_pos hodd]

theorem decode_of_even (heven : text.length % 2 = 0) : decode text = pairs 0 text := by
  have hodd : ¬ text.length % 2 = 1 := by omega
  rw [decode, if_neg hodd]

theorem decode_of_bad (heven : (front ++ bad :: back).length % 2 = 0)
    (hfront : ∀ byte ∈ front, latin byte ∈ alphabet) (hbad : latin bad ∉ alphabet) :
    decode (front ++ bad :: back) = .error (.badDigit bad front.length) := by
  rw [decode_of_even heven, pairs_of_bad heven hfront hbad, Nat.zero_add]

/-- Bytes are all digits, or there is a first one that is none. -/
theorem digits_or_first_bad (text : List UInt8) :
    (∀ byte ∈ text, latin byte ∈ alphabet) ∨
      ∃ front bad back, text = front ++ bad :: back ∧
        (∀ byte ∈ front, latin byte ∈ alphabet) ∧ latin bad ∉ alphabet := by
  induction text with
  | nil => exact .inl nofun
  | cons byte rest ih =>
    by_cases hbyte : latin byte ∈ alphabet
    · rcases ih with hall | ⟨front, bad, back, rfl, hfront, hbad⟩
      · exact .inl (List.forall_mem_cons.2 ⟨hbyte, hall⟩)
      · exact .inr ⟨byte :: front, bad, back, rfl, List.forall_mem_cons.2 ⟨hbyte, hfront⟩, hbad⟩
    · exact .inr ⟨[], byte, rest, rfl, nofun, hbyte⟩

end Hex

/-! ### Digits in a text -/

namespace Utf8

open Hex

variable {c : Char} {text : String}

theorem encodeChar_of_lt (hsmall : c.toNat < 128) : encodeChar c = [UInt8.ofNat c.toNat] := by
  simp only [encodeChar, hsmall, if_true]

theorem latin_ofNat_of_lt (hsmall : c.toNat < 128) : latin (UInt8.ofNat c.toNat) = c := by
  rw [← Char.toNat_inj, toNat_latin, UInt8.toNat_ofNat']
  omega

/-- The bytes of a character are digits only if it is one. -/
theorem mem_alphabet_of_encodeChar (hbytes : ∀ byte ∈ encodeChar c, latin byte ∈ alphabet) :
    c ∈ alphabet := by
  by_cases hsmall : c.toNat < 128
  · rw [encodeChar_of_lt hsmall] at hbytes
    exact latin_ofNat_of_lt hsmall ▸ hbytes _ List.mem_cons_self
  · -- every longer form ends with a byte that follows others
    have hlast : follower c.toNat ∈ encodeChar c := by
      simp only [encodeChar, hsmall, if_false]
      split
      · simp
      · split <;> simp
    have hdigit := toNat_lt_of_mem (hbytes _ hlast)
    rw [toNat_latin, toNat_follower] at hdigit
    omega

theorem forall_mem_encode_iff :
    (∀ byte ∈ encode text, latin byte ∈ alphabet) ↔ ∀ c ∈ text.toList, c ∈ alphabet := by
  rw [encode]
  constructor
  · intro hbytes c hc
    exact mem_alphabet_of_encodeChar fun byte hbyte =>
      hbytes byte (List.mem_flatMap.2 ⟨c, hc, hbyte⟩)
  · intro hchars byte hbyte
    obtain ⟨c, hc, hbyte⟩ := List.mem_flatMap.1 hbyte
    have hsmall := toNat_lt_of_mem (hchars c hc)
    rw [encodeChar_of_lt hsmall, List.mem_singleton] at hbyte
    rw [hbyte, latin_ofNat_of_lt hsmall]
    exact hchars c hc

/-- A text of digits has one byte for each. -/
theorem map_latin_encode (hchars : ∀ c ∈ text.toList, c ∈ alphabet) :
    (encode text).map latin = text.toList := by
  rw [encode]
  generalize text.toList = cs at hchars ⊢
  induction cs with
  | nil => rfl
  | cons c cs ih =>
    obtain ⟨hc, hcs⟩ := List.forall_mem_cons.1 hchars
    have hsmall := toNat_lt_of_mem hc
    rw [List.flatMap_cons, encodeChar_of_lt hsmall, List.map_append, ih hcs, List.map_singleton,
      latin_ofNat_of_lt hsmall, List.singleton_append]

end Utf8

end Roster.Text
