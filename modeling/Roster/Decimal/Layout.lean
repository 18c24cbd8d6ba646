import Roster.Decimal.Shortest

/-!
# Decimal layout

The digits of a number are laid out with a point inside or around them as long as the number is
neither too large nor too small, and else with an exponent behind the first digit. What counts as
too large or too small is part of the layout, as is the mark that shows an integer to be a
floating-point number.
-/

namespace Roster.Decimal

/-- How digits are laid out. -/
structure Layout where
  /-- The least decimal exponent that is written without an exponent. -/
  least : Int
  /-- The greatest decimal exponent that is written without an exponent. -/
  greatest : Int
  /-- Written behind an integer. -/
  integerMark : String
  /-- Written before an exponent that is not negative. -/
  plus : String

/-- Numbers from a hundred-thousandth up to below ten quadrillions are written without an exponent;
integers among them end in a point and a zero, and exponents carry their sign. -/
def Layout.standard : Layout := ⟨-5, 15, ".0", "+"⟩

namespace Layout

/-- A positive decimal without zeros at its end. -/
def magnitude (layout : Layout) (d : Shortest) : String :=
  let digits := Nat.toDigits 10 d.digits
  let count : Int := digits.length
  -- The exponent of the first digit.
  let leading := d.exponent + count - 1
  if layout.least ≤ leading ∧ leading ≤ layout.greatest then
    if 0 ≤ d.exponent then
      String.ofList (digits ++ List.replicate d.exponent.toNat '0') ++ layout.integerMark
    else if 0 ≤ leading then
      let whole := (leading + 1).toNat
      String.ofList (digits.take whole ++ '.' :: digits.drop whole)
    else
      String.ofList ('0' :: '.' :: List.replicate (-leading - 1).toNat '0' ++ digits)
  else
    let fraction := if digits.length ≤ 1 then [] else '.' :: digits.drop 1
    let sign := if leading < 0 then "-" else layout.plus
    String.ofList (digits.take 1 ++ fraction) ++ "e" ++ sign ++ toString leading.natAbs

/-- A finite number of double precision. -/
def float (layout : Layout) (x : Float) : String :=
  let sign := if x.toBits.toNat / signWeight = 1 then "-" else ""
  let value := Binary.ofFloat x
  sign ++
    (if value.mantissa = 0 then "0" ++ layout.integerMark
      else layout.magnitude (shortest value))

end Layout

end Roster.Decimal
