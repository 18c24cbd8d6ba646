import Roster.Journal

/-!
# What can be wrong with a binary snapshot

Reading stops at the first fault: the bytes run out, a text is no text, a tag or an index names
nothing, or the group that was read breaks a rule. Only the last is recorded.
-/

namespace Roster.Binary

/-- Why bytes are not the binary form of a value. -/
inductive Fault where
  | endOfInput
  | textBeyondEnd
  | notText (fault : Text.Utf8.Fault)
  | unknownOptionTag (tag : UInt8)
  | unknownKind (index : Nat)
  | invalid (id : GroupId) (breach : Breach)
deriving DecidableEq

namespace Fault

def message : Fault → String
  | endOfInput => "io error: unexpected end of file"
  | textBeyondEnd => "io error: "
  | notText fault => "string is not valid utf8: " ++ fault.message
  | unknownOptionTag tag => "tag for enum is not valid, found " ++ toString tag.toNat
  | unknownKind index =>
    "invalid value: integer `" ++ toString index ++ "`, expected variant index 0 <= i < 3"
  | invalid _ breach => breach.message

/-- What a failed reading records. -/
def events : Fault → List Event
  | invalid id breach => [.validationFailed id breach]
  | _ => []

end Fault

end Roster.Binary
