import Roster.Text.Utf8

/-!
# UTF-8 that was written is read back

The reader decides on the leading byte how many bytes belong to a character. There is one law for
each width, and the leading byte that the writer chose falls into the class of its own width, so
reading a written character gives that character and goes on behind it.
-/

namespace Roster.Text.Utf8

theorem toNat_follower (n : Nat) : (follower n).toNat = 0x80 + n % 64 :=
  UInt8.toNat_ofNat_of_lt (by change _ < 256; omega)

theorem isFollower_follower (n : Nat) : isFollower (follower n) = true := by
  rw [isFollower, toNat_follower, Bool.and_eq_true, decide_eq_true_eq, decide_eq_true_eq]
  omega

theorem payload_follower (n : Nat) : payload (follower n) = n % 64 := by
  rw [payload, toNat_follower]
  omega

/-! ### One law for each width -/

variable {index : Nat} {first second third fourth : UInt8} {rest : List UInt8}

theorem decodeFrom_one (hfirst : first.toNat < 0x80) :
    decodeFrom index (first :: rest)
      = (Char.ofNat first.toNat :: ·) <$> decodeFrom (index + 1) rest := by
  rw [decodeFrom.eq_def]
  exact if_pos hfirst

theorem decodeFrom_two (hfirst : 0xC2 ≤ first.toNat ∧ first.toNat ≤ 0xDF)
    (hsecond : isFollower second = true) :
    decodeFrom index (first :: second :: rest)
      = (Char.ofNat (first.toNat % 32 * 64 + payload second) :: ·) <$>
          decodeFrom (index + 2) rest := by
  rw [decodeFrom.eq_def]
  simp only [show ¬ first.toNat < 0x80 by omega, hfirst, and_self, if_true, if_false, hsecond,
    Bool.not_true, Bool.false_eq_true, if_false]

theorem decodeFrom_three (hfirst : 0xE0 ≤ first.toNat ∧ first.toNat ≤ 0xEF)
    (hsecond : isSecondOfThree first second = true) (hthird : isFollower third = true) :
    decodeFrom index (first :: second :: third :: rest)
      = (Char.ofNat (first.toNat % 16 * 4096 + payload second * 64 + payload third) :: ·) <$>
          decodeFrom (index + 3) rest := by
  rw [decodeFrom.eq_def]
  simp only [show ¬ first.toNat < 0x80 by omega,
    show ¬ (0xC2 ≤ first.toNat ∧ first.toNat ≤ 0xDF) by omega, hfirst, and_self, if_true, if_false,
    hsecond, hthird, Bool.not_true, Bool.false_eq_true, if_false]

theorem decodeFrom_four (hfirst : 0xF0 ≤ first.toNat ∧ first.toNat ≤ 0xF4)
    (hsecond : isSecondOfFour first second = true) (hthird : isFollower third = true)
    (hfourth : isFollower fourth = true) :
    decodeFrom index (first :: second :: third :: fourth :: rest)
      = (Char.ofNat (first.toNat % 8 * 262144 + payload second * 4096 + payload third * 64 +
          payload fourth) :: ·) <$> decodeFrom (index + 4) rest := by
  rw [decodeFrom.eq_def]
  simp only [show ¬ first.toNat < 0x80 by omega,
    show ¬ (0xC2 ≤ first.toNat ∧ first.toNat ≤ 0xDF) by omega,
    show ¬ (0xE0 ≤ first.toNat ∧ first.toNat ≤ 0xEF) by omega, hfirst, and_self, if_true, if_false,
    hsecond, hthird, hfourth, Bool.not_true, Bool.false_eq_true, if_false]

/-! ### Characters and texts -/

variable {c : Char}

private theorem decodeFrom_encodeChar_one (hone : c.toNat < 0x80) :
    decodeFrom index (encodeChar c ++ rest)
      = (c :: ·) <$> decodeFrom (index + (encodeChar c).length) rest := by
  have hfirst : (UInt8.ofNat c.toNat).toNat = c.toNat := by
    rw [UInt8.toNat_ofNat']
    omega
  have hbytes : encodeChar c = [UInt8.ofNat c.toNat] := if_pos hone
  rw [hbytes, List.singleton_append, decodeFrom_one (by omega), hfirst, Char.ofNat_toNat]
  rfl

private theorem decodeFrom_encodeChar_two (hone : ¬ c.toNat < 0x80) (htwo : c.toNat < 0x800) :
    decodeFrom index (encodeChar c ++ rest)
      = (c :: ·) <$> decodeFrom (index + (encodeChar c).length) rest := by
  have hfirst : (UInt8.ofNat (0xC0 + c.toNat / 64)).toNat = 0xC0 + c.toNat / 64 := by
    rw [UInt8.toNat_ofNat']
    omega
  have hcode : (UInt8.ofNat (0xC0 + c.toNat / 64)).toNat % 32 * 64 + payload (follower c.toNat)
      = c.toNat := by
    rw [hfirst, payload_follower]
    omega
  have hbytes : encodeChar c = [UInt8.ofNat (0xC0 + c.toNat / 64), follower c.toNat] := by
    simp only [encodeChar, hone, htwo, if_true, if_false]
  rw [hbytes, List.cons_append, List.singleton_append,
    decodeFrom_two (by omega) (isFollower_follower _), hcode, Char.ofNat_toNat]
  rfl

private theorem decodeFrom_encodeChar_three (htwo : ¬ c.toNat < 0x800)
    (hthree : c.toNat < 0x10000) :
    decodeFrom index (encodeChar c ++ rest)
      = (c :: ·) <$> decodeFrom (index + (encodeChar c).length) rest := by
  have hvalid : c.toNat < 0xD800 ∨ 0xDFFF < c.toNat ∧ c.toNat < 0x110000 := c.valid
  have hfirst : (UInt8.ofNat (0xE0 + c.toNat / 4096)).toNat = 0xE0 + c.toNat / 4096 := by
    rw [UInt8.toNat_ofNat']
    omega
  -- the surrogates are just what the second byte must not spell after 0xED
  have hsecond : isSecondOfThree (UInt8.ofNat (0xE0 + c.toNat / 4096)) (follower (c.toNat / 64))
      = true := by
    rw [isSecondOfThree, hfirst, toNat_follower, Bool.and_eq_true, decide_eq_true_eq,
      decide_eq_true_eq]
    constructor <;> split <;> omega
  have hcode : (UInt8.ofNat (0xE0 + c.toNat / 4096)).toNat % 16 * 4096
      + payload (follower (c.toNat / 64)) * 64 + payload (follower c.toNat) = c.toNat := by
    rw [hfirst, payload_follower, payload_follower]
    omega
  have hbytes : encodeChar c
      = [UInt8.ofNat (0xE0 + c.toNat / 4096), follower (c.toNat / 64), follower c.toNat] := by
    simp only [encodeChar, show ¬ c.toNat < 0x80 by omega, htwo, hthree, if_true, if_false]
  rw [hbytes, List.cons_append, List.cons_append, List.singleton_append,
    decodeFrom_three (by omega) hsecond (isFollower_follower _), hcode, Char.ofNat_toNat]
  rfl

private theorem decodeFrom_encodeChar_four (hthree : ¬ c.toNat < 0x10000) :
    decodeFrom index (encodeChar c ++ rest)
      = (c :: ·) <$> decodeFrom (index + (encodeChar c).length) rest := by
  have hvalid : c.toNat < 0xD800 ∨ 0xDFFF < c.toNat ∧ c.toNat < 0x110000 := c.valid
  have hfirst : (UInt8.ofNat (0xF0 + c.toNat / 262144)).toNat = 0xF0 + c.toNat / 262144 := by
    rw [UInt8.toNat_ofNat']
    omega
  have hsecond : isSecondOfFour (UInt8.ofNat (0xF0 + c.toNat / 262144))
      (follower (c.toNat / 4096)) = true := by
    rw [isSecondOfFour, hfirst, toNat_follower, Bool.and_eq_true, decide_eq_true_eq,
      decide_eq_true_eq]
    constructor <;> split <;> omega
  have hcode : (UInt8.ofNat (0xF0 + c.toNat / 262144)).toNat % 8 * 262144
      + payload (follower (c.toNat / 4096)) * 4096 + payload (follower (c.toNat / 64)) * 64
      + payload (follower c.toNat) = c.toNat := by
    rw [hfirst, payload_follower, payload_follower, payload_follower]
    omega
  have hbytes : encodeChar c = [UInt8.ofNat (0xF0 + c.toNat / 262144), follower (c.toNat / 4096),
      follower (c.toNat / 64), follower c.toNat] := by
    simp only [encodeChar, show ¬ c.toNat < 0x80 by omega, show ¬ c.toNat < 0x800 by omega, hthree,
      if_false]
  rw [hbytes, List.cons_append, List.cons_append, List.cons_append, List.singleton_append,
    decodeFrom_four (by omega) hsecond (isFollower_follower _) (isFollower_follower _),
    hcode, Char.ofNat_toNat]
  rfl

theorem decodeFrom_encodeChar (c : Char) :
    decodeFrom index (encodeChar c ++ rest)
      = (c :: ·) <$> decodeFrom (index + (encodeChar c).length) rest := by
  by_cases hone : c.toNat < 0x80
  · exact decodeFrom_encodeChar_one hone
  by_cases htwo : c.toNat < 0x800
  · exact decodeFrom_encodeChar_two hone htwo
  by_cases hthree : c.toNat < 0x10000
  · exact decodeFrom_encodeChar_three htwo hthree
  · exact decodeFrom_encodeChar_four hthree

theorem decodeFrom_flatMap_encodeChar (cs : List Char) :
    decodeFrom index (cs.flatMap encodeChar) = .ok cs := by
  induction cs generalizing index with
  | nil => rw [List.flatMap_nil, decodeFrom]
  | cons c cs ih =>
    rw [List.flatMap_cons, decodeFrom_encodeChar, ih]
    rfl

@[simp] theorem decode_encode (s : String) : decode (encode s) = .ok s := by
  rw [decode, encode, decodeFrom_flatMap_encodeChar]
  exact congrArg Except.ok (String.ofList_toList)

end Roster.Text.Utf8
