import Roster.Decimal.Digit
import Roster.Json.Reader

/-!
# Numerals in JSON

A numeral is an integer without needless zeros in front, then perhaps a point with more digits, then
perhaps an exponent. It is kept digit by digit as it was written. What it means that a text ends
where a digit is needed depends on who reads.
-/

namespace Roster.Json

open Decimal Reader

/-- How an exponent is signed. -/
inductive Sign where
  | absent
  | plus
  | minus
deriving DecidableEq

/-- An exponent as it is written. -/
structure Exponent where
  capital : Bool
  sign : Sign
  digits : List Digit
deriving DecidableEq

/-- A number as it is written. -/
structure Numeral where
  negative : Bool
  whole : List Digit
  fraction : List Digit
  exponent : Option Exponent
deriving DecidableEq

def Sign.text : Sign → List Char
  | absent => []
  | plus => ['+']
  | minus => ['-']

def Exponent.text (e : Exponent) : List Char :=
  (if e.capital then 'E' else 'e') :: (e.sign.text ++ e.digits.map Digit.char)

namespace Numeral

def ofNat (n : Nat) : Numeral := ⟨false, Digit.ofNat n, [], none⟩

def text (n : Numeral) : List Char :=
  (if n.negative then ['-'] else []) ++
    (n.whole.map Digit.char ++
      ((if n.fraction.isEmpty then [] else '.' :: n.fraction.map Digit.char) ++
        (n.exponent.map Exponent.text).getD []))

/-- As many digits as there are. -/
def digits : Reader (List Digit) where
  run input := .ok (Digit.span input)
  rest_le {input _ rest} h := by
    have same : (Digit.span input).2 = rest := congrArg Prod.snd (Except.ok.inj h)
    exact same ▸ Digit.length_span_le input

/-- Digits, of which there has to be one at least. -/
def someDigits (atEnd : Fault) : Reader (List Digit) := do
  let all ← digits
  if all.isEmpty then
    match ← peek with
    | none => fail atEnd
    | some _ => fail (.malformed .invalidNumber)
  else return all

/-- The digits before the point, behind the first of them. -/
def wholeDigits (first : Char) : Reader (List Digit) :=
  match Digit.ofChar? first with
  | none => fail (.malformed .invalidNumber)
  | some d => do
    let more ← digits
    if d = 0 ∧ more ≠ [] then fail (.malformed .invalidNumber) else return d :: more

/-- The digits behind the point, none if there is no point. -/
def fractionDigits (atEnd : Fault) : Reader (List Digit) := do
  if (← peek) = some '.' then
    advance
    someDigits atEnd
  else return []

def exponentSign : Reader Sign := do
  match ← peek with
  | some '+' =>
    advance
    return .plus
  | some '-' =>
    advance
    return .minus
  | _ => return .absent

def exponentPart (atEnd : Fault) : Reader (Option Exponent) := do
  let mark ← peek
  if mark = some 'e' ∨ mark = some 'E' then
    advance
    let sign ← exponentSign
    let digits ← someDigits atEnd
    return some ⟨mark = some 'E', sign, digits⟩
  else return none

/-- A numeral behind its sign and its first digit. -/
def unsigned (atEnd : Fault) (negative : Bool) (first : Char) : Reader Numeral := do
  let whole ← wholeDigits first
  let fraction ← fractionDigits atEnd
  let exponent ← exponentPart atEnd
  return { negative, whole, fraction, exponent }

/-- A numeral behind its first character. -/
def behind (atEnd : Fault) (first : Char) : Reader Numeral := do
  if first = '-' then
    match ← next with
    | none => fail atEnd
    | some digit => unsigned atEnd true digit
  else unsigned atEnd false first

/-- Whether a numeral can begin with the character. -/
def isFirst (c : Char) : Bool := c = '-' || (Digit.ofChar? c).isSome

end Numeral

end Roster.Json
