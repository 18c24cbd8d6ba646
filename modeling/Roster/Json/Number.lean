import Roster.Json.Numeral

/-!
# The number of a numeral

A numeral without point and exponent is an integer if it fits in 64 bits, signed when it is
negative. Every other numeral is a number of double precision. Its digits are gathered into a 64-bit
significand as long as they fit: each further digit before the point only raises the exponent, and
the digits from the first that does not fit behind the point are left out. The significand is then
multiplied or divided by a power of ten, so that the number is rounded more than once and need not
be the nearest to the numeral.
-/

namespace Roster.Json

open Decimal Reader

/-- The number of a numeral. -/
inductive Number where
  | integer (value : Int)
  | float (value : Float)

namespace Number

/-- One more digit behind those of a significand, if there is room for it. -/
def append? (significand : Nat) (d : Digit) : Option Nat :=
  let longer := 10 * significand + d.val
  if longer < wordCount then some longer else none

/-- The significand of the digits before the point, and the number of those left out. -/
def gatherWhole (significand : Nat) : List Digit → Nat × Nat
  | [] => (significand, 0)
  | d :: rest =>
    match append? significand d with
    | some longer => gatherWhole longer rest
    | none => (significand, rest.length + 1)

/-- The significand with digits behind the point, and the number of those gathered, given how many
there were before. -/
def gatherFraction (significand gathered : Nat) : List Digit → Nat × Nat
  | [] => (significand, gathered)
  | d :: rest =>
    match append? significand d with
    | some longer => gatherFraction longer (gathered + 1) rest
    | none => (significand, gathered)

/-- The greatest power of ten of double precision, as an exponent. -/
def maxPower : Nat := 308

/-- A power of ten up to the greatest. -/
def power (k : Nat) : Float := Float.ofScientific 1 false k

/-- A number multiplied by a power of ten, unless it grows too large. -/
def raise? (x : Float) (k : Nat) : Option Float :=
  if k ≤ maxPower then
    let y := x * power k
    if y.isInf then none else some y
  else if x == 0 then some x
  else none

/-- A number divided by a power of ten, in several steps if the power is too great for one. -/
def lower (x : Float) (k : Nat) : Float :=
  if k ≤ maxPower then x / power k
  else if x == 0 then x
  else lower (x / power maxPower) (k - maxPower)
termination_by k
decreasing_by
  simp only [maxPower] at *
  omega

/-- A significand times a power of ten. -/
def scale? (significand : Nat) (exponent : Int) : Option Float :=
  let x := significand.toUInt64.toFloat
  if 0 ≤ exponent then raise? x exponent.toNat else some (lower x (-exponent).toNat)

end Number

def Exponent.value (e : Exponent) : Int :=
  if e.sign = .minus then -(Digit.value e.digits : Int) else Digit.value e.digits

namespace Numeral

/-- The integer that a numeral without point and exponent stands for, if it fits. -/
def integer? (n : Numeral) : Option Int :=
  let value := Digit.value n.whole
  if n.fraction ≠ [] ∨ n.exponent ≠ none then none
  else if n.negative then if 1 ≤ value ∧ 2 * value ≤ wordCount then some (-value) else none
  else if value < wordCount then some value
  else none

/-- The number of double precision that a numeral stands for, if it is not too large. -/
def float? (n : Numeral) : Option Float :=
  let (whole, dropped) := Number.gatherWhole 0 n.whole
  let (significand, gathered) := Number.gatherFraction whole 0 n.fraction
  let exponent : Int := dropped - gathered + (n.exponent.map Exponent.value).getD 0
  (Number.scale? significand exponent).map fun x => if n.negative then -x else x

/-- The number that a numeral stands for. -/
def number? (n : Numeral) : Option Number :=
  match n.integer? with
  | some value => some (.integer value)
  | none => n.float?.map .float

end Numeral

namespace Number

/-- A number behind the first character of its numeral. -/
def behind (first : Char) : Reader Number := do
  let numeral ← Numeral.behind (.ended .value) first
  match numeral.number? with
  | some number => return number
  | none => fail (.malformed .numberOutOfRange)

end Number

end Roster.Json
