import Mathlib
import Roster.Proofs.Text.Utf8

/-!
# Every text has one spelling in UTF-8

The reader accepts a sequence of bytes only if it is what the writer writes for the character it
stands for: the leading byte and the allowed second bytes leave out longer forms, surrogates and
what lies beyond the last code point. There is one law for each width, and bytes that spell a text
are the bytes of that text.
-/

namespace Roster.Text.Utf8

variable {index : Nat} {bytes : List UInt8} {first second third fourth : UInt8}

theorem isFollower_iff : isFollower first = true ↔ 0x80 ≤ first.toNat ∧ first.toNat ≤ 0xBF := by
  rw [isFollower, Bool.and_eq_true, decide_eq_true_eq, decide_eq_true_eq]

theorem isSecondOfThree_iff :
    isSecondOfThree first second = true ↔
      isFollower second = true ∧ (first.toNat = 0xE0 → 0xA0 ≤ second.toNat) ∧
        (first.toNat = 0xED → second.toNat ≤ 0x9F) := by
  rw [isSecondOfThree, isFollower_iff, Bool.and_eq_true, decide_eq_true_eq, decide_eq_true_eq]
  split <;> split <;> omega

theorem isSecondOfFour_iff :
    isSecondOfFour first second = true ↔
      isFollower second = true ∧ (first.toNat = 0xF0 → 0x90 ≤ second.toNat) ∧
        (first.toNat = 0xF4 → second.toNat ≤ 0x8F) := by
  rw [isSecondOfFour, isFollower_iff, Bool.and_eq_true, decide_eq_true_eq, decide_eq_true_eq]
  split <;> split <;> omega

/-- A byte that can follow is the follower of any number with its six bits. -/
theorem follower_eq {n : Nat} (hfirst : isFollower first = true) (hn : n % 64 = payload first) :
    follower n = first := by
  rw [isFollower_iff] at hfirst
  rw [payload] at hn
  rw [follower, UInt8.ofNat_eq_iff_mod_eq_toNat]
  omega

/-! ### One law for each width -/

theorem encodeChar_one (hfirst : first.toNat < 0x80) :
    encodeChar (Char.ofNat first.toNat) = [first] := by
  have hvalid : first.toNat.isValidChar := .inl (by omega)
  have hcode : (Char.ofNat first.toNat).toNat = first.toNat := by
    rw [Char.toNat_ofNat, if_pos hvalid]
  have hbyte : UInt8.ofNat first.toNat = first := UInt8.ofNat_toNat
  simp only [encodeChar, hcode, hfirst, if_true, hbyte]

theorem encodeChar_two (hfirst : 0xC2 ≤ first.toNat ∧ first.toNat ≤ 0xDF)
    (hsecond : isFollower second = true) :
    encodeChar (Char.ofNat (first.toNat % 32 * 64 + payload second)) = [first, second] := by
  have hpayload : payload second < 64 := Nat.mod_lt _ (by decide)
  generalize hn : first.toNat % 32 * 64 + payload second = n
  have hvalid : n.isValidChar := .inl (by omega)
  have hcode : (Char.ofNat n).toNat = n := by rw [Char.toNat_ofNat, if_pos hvalid]
  have hlead : UInt8.ofNat (0xC0 + n / 64) = first := by
    rw [UInt8.ofNat_eq_iff_mod_eq_toNat]
    omega
  have hlast : follower n = second := follower_eq hsecond (by omega)
  simp only [encodeChar, hcode, show ¬ n < 0x80 by omega, show n < 0x800 by omega, if_true,
    if_false, hlead, hlast]

theorem encodeChar_three (hfirst : 0xE0 ≤ first.toNat ∧ first.toNat ≤ 0xEF)
    (hsecond : isSecondOfThree first second = true) (hthird : isFollower third = true) :
    encodeChar (Char.ofNat (first.toNat % 16 * 4096 + payload second * 64 + payload third))
      = [first, second, third] := by
  obtain ⟨hfollower, hlow, hhigh⟩ := isSecondOfThree_iff.1 hsecond
  have hrange := isFollower_iff.1 hfollower
  have hbits : payload second = second.toNat - 0x80 := by
    rw [payload]
    omega
  have hpayload : payload third < 64 := Nat.mod_lt _ (by decide)
  generalize hn : first.toNat % 16 * 4096 + payload second * 64 + payload third = n
  have hvalid : n.isValidChar := by
    change n < 0xD800 ∨ 0xDFFF < n ∧ n < 0x110000
    omega
  have hcode : (Char.ofNat n).toNat = n := by rw [Char.toNat_ofNat, if_pos hvalid]
  have hlead : UInt8.ofNat (0xE0 + n / 4096) = first := by
    rw [UInt8.ofNat_eq_iff_mod_eq_toNat]
    omega
  have hmiddle : follower (n / 64) = second := follower_eq hfollower (by omega)
  have hlast : follower n = third := follower_eq hthird (by omega)
  simp only [encodeChar, hcode, show ¬ n < 0x80 by omega, show ¬ n < 0x800 by omega,
    show n < 0x10000 by omega, if_true, if_false, hlead, hmiddle, hlast]

theorem encodeChar_four (hfirst : 0xF0 ≤ first.toNat ∧ first.toNat ≤ 0xF4)
    (hsecond : isSecondOfFour first second = true) (hthird : isFollower third = true)
    (hfourth : isFollower fourth = true) :
    encodeChar (Char.ofNat (first.toNat % 8 * 262144 + payload second * 4096 + payload third * 64 +
        payload fourth)) = [first, second, third, fourth] := by
  obtain ⟨hfollower, hlow, hhigh⟩ := isSecondOfFour_iff.1 hsecond
  have hrange := isFollower_iff.1 hfollower
  have hbits : payload second = second.toNat - 0x80 := by
    rw [payload]
    omega
  have hpayload : payload third < 64 := Nat.mod_lt _ (by decide)
  have hpayload' : payload fourth < 64 := Nat.mod_lt _ (by decide)
  generalize hn : first.toNat % 8 * 262144 + payload second * 4096 + payload third * 64 +
    payload fourth = n
  have hvalid : n.isValidChar := by
    change n < 0xD800 ∨ 0xDFFF < n ∧ n < 0x110000
    omega
  have hcode : (Char.ofNat n).toNat = n := by rw [Char.toNat_ofNat, if_pos hvalid]
  have hlead : UInt8.ofNat (0xF0 + n / 262144) = first := by
    rw [UInt8.ofNat_eq_iff_mod_eq_toNat]
    omega
  have hupper : follower (n / 4096) = second := follower_eq hfollower (by omega)
  have hlower : follower (n / 64) = third := follower_eq hthird (by omega)
  have hlast : follower n = fourth := follower_eq hfourth (by omega)
  simp only [encodeChar, hcode, show ¬ n < 0x80 by omega, show ¬ n < 0x800 by omega,
    show ¬ n < 0x10000 by omega, if_false, hlead, hupper, hlower, hlast]

/-! ### Texts -/

theorem flatMap_encodeChar_of_map {c : Char} {front rest : List UInt8} {cs : List Char}
    {read : Except Fault (List Char)} (hc : encodeChar c = front)
    (hrest : ∀ tail, read = .ok tail → tail.flatMap encodeChar = rest)
    (hread : (c :: ·) <$> read = .ok cs) : cs.flatMap encodeChar = front ++ rest := by
  cases read with
  | error fault => cases hread
  | ok tail =>
    cases hread
    rw [List.flatMap_cons, hc, hrest tail rfl]

theorem flatMap_encodeChar_of_decodeFrom {cs : List Char}
    (hread : decodeFrom index bytes = .ok cs) : cs.flatMap encodeChar = bytes := by
  -- along the recursion of the reader: an accepted sequence of each width, or a fault
  fun_induction decodeFrom index bytes generalizing cs with
  | case1 =>
    cases hread
    rfl
  | case2 index first rest hone ih =>
    exact flatMap_encodeChar_of_map (encodeChar_one hone) (fun _ => ih) hread
  | case5 index first hone htwo second rest hsecond ih =>
    rw [Bool.not_eq_true', Bool.not_eq_false] at hsecond
    exact flatMap_encodeChar_of_map (encodeChar_two htwo hsecond) (fun _ => ih) hread
  | case10 index first hone htwo hthree second hsecond third rest hthird ih =>
    rw [Bool.not_eq_true', Bool.not_eq_false] at hsecond hthird
    exact flatMap_encodeChar_of_map (encodeChar_three hthree hsecond hthird) (fun _ => ih) hread
  | case17 index first hone htwo hthree hfour second hsecond third hthird fourth rest hfourth ih =>
    rw [Bool.not_eq_true', Bool.not_eq_false] at hsecond hthird hfourth
    exact flatMap_encodeChar_of_map (encodeChar_four hfour hsecond hthird hfourth) (fun _ => ih)
      hread
  | _ => cases hread

theorem encode_of_decode {s : String} (hread : decode bytes = .ok s) : encode s = bytes := by
  cases hchars : decodeFrom 0 bytes with
  | error fault =>
    rw [decode, hchars] at hread
    cases hread
  | ok cs =>
    rw [decode, hchars] at hread
    cases hread
    rw [encode, String.toList_ofList, flatMap_encodeChar_of_decodeFrom hchars]

/-- Bytes spell a text exactly if they are what is written for it. -/
theorem decode_eq_ok_iff {s : String} : decode bytes = .ok s ↔ encode s = bytes := by
  constructor
  · exact encode_of_decode
  · rintro rfl
    exact decode_encode s

end Roster.Text.Utf8
