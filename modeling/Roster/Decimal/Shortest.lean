/-!
# The shortest decimal of a floating-point number

A positive number of double precision is an integer times a power of two, and every real number
nearer to it than to its neighbours reads back as it. Among the decimals that read back there are
some with the fewest digits, and of those the nearest to the number is its shortest decimal. The
search tries one digit, two digits and so on up to seventeen, and on each grid looks at the two
points around the number; an exact tie goes to the even point.
-/

namespace Roster.Decimal

/-- The number `mantissa * 2 ^ exponent`, as double precision stores it. -/
structure Binary where
  mantissa : Nat
  exponent : Int

/-- The weight of the bit of double precision that holds the sign. -/
def signWeight : Nat := 1 <<< 63

/-- The weight of the leading bit of a mantissa. -/
def leadingWeight : Nat := 1 <<< 52

/-- The magnitude of a finite number of double precision. -/
def Binary.ofFloat (x : Float) : Binary :=
  let bits := x.toBits.toNat % signWeight
  let field := bits / leadingWeight
  let fraction := bits % leadingWeight
  if field = 0 then ⟨fraction, -1074⟩ else ⟨leadingWeight + fraction, (field : Int) - 1075⟩

/-- The decimal `digits * 10 ^ exponent`. -/
structure Shortest where
  digits : Nat
  exponent : Int
deriving DecidableEq

structure Ratio where
  num : Nat
  den : Nat

namespace Ratio

/-- The fraction for an integer times a power of two and a power of ten. -/
def scaled (n : Nat) (twos tens : Int) : Ratio :=
  ⟨n <<< twos.toNat * Nat.pow 10 tens.toNat, Nat.pow 10 (-tens).toNat <<< (-twos).toNat⟩

end Ratio

/-- The ends of the reals that read back as a number, and the number between them, each as a number
of quarter units in the last place. Below a power of two the neighbours are closer. -/
structure Interval where
  low : Nat
  middle : Nat
  high : Nat
  closed : Bool
  exponent : Int

/-- What reads back as the number. The ends do if the mantissa is even. -/
def Interval.around (x : Binary) : Interval :=
  let m := x.mantissa
  let narrow := m = leadingWeight ∧ x.exponent ≠ -1074
  { low := if narrow then 4 * m - 1 else 4 * m - 2
    middle := 4 * m
    high := 4 * m + 2
    closed := m % 2 = 0
    exponent := x.exponent - 2 }

/-- Whether the grid point `n * 10 ^ tens` reads back as the number. -/
def Interval.holds (i : Interval) (tens : Int) (n : Nat) : Bool :=
  -- The point in quarter units is `n * 10 ^ tens * 2 ^ (-i.exponent)`.
  let point := Ratio.scaled n (-i.exponent) tens
  if i.closed then i.low * point.den ≤ point.num && point.num ≤ i.high * point.den
  else i.low * point.den < point.num && point.num < i.high * point.den

/-- The grid point next to the number that reads back, if there is one on this grid. -/
def Interval.nearest? (i : Interval) (tens : Int) : Option Nat :=
  let value := Ratio.scaled i.middle i.exponent (-tens)
  let below := value.num / value.den
  let twice := 2 * (value.num % value.den)
  let preferAbove := value.den < twice || (twice = value.den && below % 2 = 1)
  let first := if preferAbove then below + 1 else below
  let second := if preferAbove then below else below + 1
  if i.holds tens first then some first
  else if i.holds tens second then some second
  else none

/-- The least power of ten, as an exponent, above a positive number. -/
def ceilingExponent (x : Binary) : Int :=
  -- A number with so many bits lies between two powers of two whose decimal exponents differ by one
  -- at most, so the estimate from the logarithm is off by one at most.
  let bits : Int := Nat.log2 x.mantissa + x.exponent
  let estimate := bits * 30103 / 100000
  let reached (tens : Int) : Bool :=
    let value := Ratio.scaled x.mantissa x.exponent (-tens)
    value.den ≤ value.num
  if reached (estimate + 1) then estimate + 2
  else if reached estimate then estimate + 1
  else estimate

/-- The first hit among the grids with one more digit each. -/
def Interval.search (i : Interval) (ceiling : Int) : (digits left : Nat) → Option Shortest
  | _, 0 => none
  | digits, left + 1 =>
    match i.nearest? (ceiling - digits) with
    | some n => some ⟨n, ceiling - digits⟩
    | none => i.search ceiling (digits + 1) left

/-- The decimal without zeros at its end. -/
def Shortest.trim (d : Shortest) : Shortest :=
  if h : d.digits ≠ 0 ∧ d.digits % 10 = 0 then
    Shortest.trim ⟨d.digits / 10, d.exponent + 1⟩
  else d
termination_by d.digits
decreasing_by
  exact Nat.div_lt_self (Nat.pos_of_ne_zero h.1) (by decide)

/-- The shortest decimal of a positive number. Seventeen digits always suffice. -/
def shortest (x : Binary) : Shortest :=
  match (Interval.around x).search (ceilingExponent x) 1 17 with
  | some d => d.trim
  | none => ⟨x.mantissa, 0⟩

end Roster.Decimal
