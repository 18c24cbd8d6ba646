import Roster.Decimal.Digit

/-!
# Positions at the end of a message

A message can end in a line and a column, the place of a fault. The place is no part of what is
wrong, so a message is told without it. Only the form of the ending counts: a text at the end of a
message that reads like a place is cut off as well, one place at most.
-/

namespace Roster.Json.Position

open Decimal

/-- What stands before a mark and a 64-bit number at the end of a text. The text and what is left of
it are read from the back. -/
def beforeNumber? (mark : String) (backwards : List Char) : Option (List Char) :=
  let (digits, rest) := Digit.span backwards
  if digits ≠ [] ∧ Digit.value digits.reverse < wordCount then
    mark.toList.reverse.isPrefixOf? rest
  else none

/-- A message without the line and the column at its end, if it ends in them. -/
def drop (message : String) : String :=
  match (beforeNumber? " column " message.toList.reverse).bind (beforeNumber? " at line ") with
  | some rest => String.ofList rest.reverse
  | none => message

end Roster.Json.Position
