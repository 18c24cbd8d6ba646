import Roster.Text.Quoted

/-!
# Hexadecimal digits

Bytes are written as two lower-case hexadecimal digits each, the high half first. Reading takes
digits of either case, two for each byte, and refuses an odd number of them before it looks at
any; otherwise the first byte that is no digit decides.
-/

namespace Roster.Text.Hex

/-- Why a text does not spell the bytes asked for. -/
inductive Fault where
  | oddLength
  | badDigit (byte : UInt8) (position : Nat)
  | wrongLength
deriving DecidableEq

namespace Fault

/-- The offending byte is shown as the character with its code. -/
def message : Fault → String
  | oddLength => "Odd number of digits"
  | badDigit byte position =>
    "Invalid character " ++ Quoted.char (Char.ofNat byte.toNat) ++ " at position " ++
      toString position
  | wrongLength => "Invalid string length"

end Fault

/-- The digit for a number below sixteen. -/
def digit (n : Nat) : Char := if n < 10 then Char.ofNat (48 + n) else Char.ofNat (87 + n)

/-- The value of the digit with the given code point, in either case. -/
def value? (code : Nat) : Option Nat :=
  if 48 ≤ code ∧ code ≤ 57 then some (code - 48)
  else if 97 ≤ code ∧ code ≤ 102 then some (code - 87)
  else if 65 ≤ code ∧ code ≤ 70 then some (code - 55)
  else none

/-- The digits of a byte string. -/
def digits (bytes : List UInt8) : List Char :=
  bytes.flatMap fun byte => [digit (byte.toNat / 16), digit (byte.toNat % 16)]

/-- A byte string as text. -/
def encode (bytes : List UInt8) : String := String.ofList (digits bytes)

/-- The value of the digit at a position. -/
def nibble (position : Nat) (byte : UInt8) : Except Fault Nat :=
  match value? byte.toNat with
  | some value => .ok value
  | none => .error (.badDigit byte position)

/-- The bytes spelt by pairs of digits, the first of which stands at `position`. -/
def pairs (position : Nat) : List UInt8 → Except Fault (List UInt8)
  | [] => .ok []
  | [_] => .error .oddLength
  | high :: low :: rest => do
    let high ← nibble position high
    let low ← nibble (position + 1) low
    let bytes ← pairs (position + 2) rest
    return UInt8.ofNat (16 * high + low) :: bytes

/-- The bytes spelt by digits given as bytes of text. -/
def decode (text : List UInt8) : Except Fault (List UInt8) :=
  if text.length % 2 = 1 then .error .oddLength else pairs 0 text

theorem value?_digit {n : Nat} (h : n < 16) : value? (digit n).toNat = some n := by
  have all : ∀ m : Fin 16, value? (digit m.val).toNat = some m.val := by decide
  exact all ⟨n, h⟩

@[simp] theorem length_digits (bytes : List UInt8) : (digits bytes).length = 2 * bytes.length := by
  induction bytes with
  | nil => rfl
  | cons byte rest ih =>
    simp only [digits, List.flatMap_cons, List.length_append, List.length_cons,
      List.length_nil] at *
    omega

end Roster.Text.Hex
