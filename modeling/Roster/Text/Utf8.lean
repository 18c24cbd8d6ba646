/-!
# UTF-8

A character is written as one to four bytes: the leading byte tells how many, and each following
byte carries six bits. Reading accepts exactly the shortest form of each character and no
surrogates. Where a sequence is broken off by a byte that cannot stand there, the fault counts the
bytes before the sequence and the bytes of it that were still in order; where the text ends inside
a sequence, the fault counts the bytes before it.
-/

namespace Roster.Text.Utf8

/-- The byte that carries the low six bits of a number behind a leading byte. -/
def follower (n : Nat) : UInt8 := UInt8.ofNat (0x80 + n % 64)

/-- The bytes of one character. -/
def encodeChar (c : Char) : List UInt8 :=
  let n := c.toNat
  if n < 0x80 then [UInt8.ofNat n]
  else if n < 0x800 then [UInt8.ofNat (0xC0 + n / 64), follower n]
  else if n < 0x10000 then [UInt8.ofNat (0xE0 + n / 4096), follower (n / 64), follower n]
  else
    [UInt8.ofNat (0xF0 + n / 262144), follower (n / 4096), follower (n / 64), follower n]

def encode (text : String) : List UInt8 := text.toList.flatMap encodeChar

/-- Where bytes stop being text. -/
inductive Fault where
  | broken (index length : Nat)
  | cutShort (index : Nat)
deriving DecidableEq

namespace Fault

def message : Fault → String
  | broken index length =>
    "invalid utf-8 sequence of " ++ toString length ++ " bytes from index " ++ toString index
  | cutShort index => "incomplete utf-8 byte sequence from index " ++ toString index

end Fault

/-- Whether a byte can follow a leading byte. -/
def isFollower (byte : UInt8) : Bool := 0x80 ≤ byte.toNat && byte.toNat ≤ 0xBF

/-- Whether a byte can follow the leading byte of a three-byte form: after the lowest leading byte
shorter forms are excluded, after 0xED the surrogates. -/
def isSecondOfThree (first byte : UInt8) : Bool :=
  (if first.toNat = 0xE0 then 0xA0 else 0x80) ≤ byte.toNat &&
    byte.toNat ≤ (if first.toNat = 0xED then 0x9F else 0xBF)

/-- Whether a byte can follow the leading byte of a four-byte form: after the lowest leading byte
shorter forms are excluded, after the highest what lies beyond the last code point. -/
def isSecondOfFour (first byte : UInt8) : Bool :=
  (if first.toNat = 0xF0 then 0x90 else 0x80) ≤ byte.toNat &&
    byte.toNat ≤ (if first.toNat = 0xF4 then 0x8F else 0xBF)

/-- The six bits that a following byte carries. -/
def payload (byte : UInt8) : Nat := byte.toNat % 64

/-- The characters of a byte string whose first byte has the given index. -/
def decodeFrom (index : Nat) (bytes : List UInt8) : Except Fault (List Char) :=
  match bytes with
  | [] => .ok []
  | first :: rest =>
    if first.toNat < 0x80 then
      (Char.ofNat first.toNat :: ·) <$> decodeFrom (index + 1) rest
    else if 0xC2 ≤ first.toNat ∧ first.toNat ≤ 0xDF then
      match rest with
      | [] => .error (.cutShort index)
      | second :: rest =>
        if !isFollower second then .error (.broken index 1)
        else
          (Char.ofNat (first.toNat % 32 * 64 + payload second) :: ·) <$>
            decodeFrom (index + 2) rest
    else if 0xE0 ≤ first.toNat ∧ first.toNat ≤ 0xEF then
      match rest with
      | [] => .error (.cutShort index)
      | second :: rest =>
        if !isSecondOfThree first second then .error (.broken index 1)
        else
          match rest with
          | [] => .error (.cutShort index)
          | third :: rest =>
            if !isFollower third then .error (.broken index 2)
            else
              (Char.ofNat (first.toNat % 16 * 4096 + payload second * 64 + payload third) :: ·) <$>
                decodeFrom (index + 3) rest
    else if 0xF0 ≤ first.toNat ∧ first.toNat ≤ 0xF4 then
      match rest with
      | [] => .error (.cutShort index)
      | second :: rest =>
        if !isSecondOfFour first second then .error (.broken index 1)
        else
          match rest with
          | [] => .error (.cutShort index)
          | third :: rest =>
            if !isFollower third then .error (.broken index 2)
            else
              match rest with
              | [] => .error (.cutShort index)
              | fourth :: rest =>
                if !isFollower fourth then .error (.broken index 3)
                else
                  (Char.ofNat (first.toNat % 8 * 262144 + payload second * 4096 +
                    payload third * 64 + payload fourth) :: ·) <$> decodeFrom (index + 4) rest
    else .error (.broken index 1)

/-- The text that a byte string spells. -/
def decode (bytes : List UInt8) : Except Fault String := String.ofList <$> decodeFrom 0 bytes

theorem encodeChar_ne_nil (c : Char) : encodeChar c ≠ [] := by
  simp only [encodeChar]
  split <;> (try split) <;> (try split) <;> simp

end Roster.Text.Utf8
