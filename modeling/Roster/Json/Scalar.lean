import Roster.Json.Number
import Roster.Json.Text

/-!
# Single values in JSON

The first character of a value tells its type. A reader that wants another type than the text offers
reads what is there as far as its report needs it, so a malformed value is reported as malformed
rather than as unfit; of lists and objects it reads nothing.
-/

namespace Roster.Json

open Reader

variable {α : Type}

/-- What stands in the text, behind its first character. -/
def found (first : Char) : Reader Found :=
  match first with
  | 'n' => do
    word ['u', 'l', 'l']
    return .null
  | 't' => do
    word ['r', 'u', 'e']
    return .flag true
  | 'f' => do
    word ['a', 'l', 's', 'e']
    return .flag false
  | '"' => .text <$> Text.content
  | '[' => return .list
  | '{' => return .object
  | _ =>
    if Numeral.isFirst first then do
      match ← Number.behind first with
      | .integer value => return .integer value
      | .float value => return .float value
    else fail (.malformed .expectedValue)

/-- Reports a value of another type than the one wanted, behind its first character. -/
def refuse (wanted : Wanted) (first : Char) : Reader α := do
  fail (.unfit (.type (← found first) wanted))

def text : Reader String := do
  let first ← opening
  if first = '"' then Text.content else refuse .text first

/-- A number that is a byte. -/
def byte : Reader UInt8 := do
  let first ← opening
  if Numeral.isFirst first then
    match ← Number.behind first with
    | .integer value =>
      if 0 ≤ value ∧ value < 256 then return UInt8.ofNat value.toNat
      else fail (.unfit (.byteRange value))
    | .float value => fail (.unfit (.type (.float value) .byte))
  else refuse .byte first

/-- The word for a missing value. -/
def null : Reader Unit := do
  let first ← opening
  if first = 'n' then word ['u', 'l', 'l'] else refuse .null first

/-- A value that may be missing. -/
def option (value : Reader α) : Reader (Option α) := do
  blanks
  if (← peek) = some 'n' then
    advance
    word ['u', 'l', 'l']
    return none
  else some <$> value

end Roster.Json
