import Roster.Decimal.Layout
import Roster.Group.Fault
import Roster.GroupKind
import Roster.Journal
import Roster.Json.Field
import Roster.Json.Position
import Roster.Text.Quoted

/-!
# What can be wrong with a JSON text

Reading is a single pass that stops at the first fault, and a fault is of one of three classes: the
text ends too early, it is malformed, or it is well formed so far but does not describe the value
asked for. A group that was read in full and breaks a rule belongs to the third class, and it alone
is recorded. Its message ends in the id of a member, so it is the only one that can end in what
reads like a position.
-/

namespace Roster.Json

/-- Where a text can end too early. -/
inductive Place where
  | value
  | text
  | list
  | object
deriving DecidableEq

/-- How a text can be malformed. -/
inductive Flaw where
  | expectedValue
  | misspeltWord
  | invalidNumber
  | numberOutOfRange
  | controlCharacter
  | invalidEscape
  | loneSurrogate
  | brokenSurrogatePair
  | expectedListSeparator
  | expectedObjectSeparator
  | expectedColon
  | keyNotText
  | trailingComma
  | trailingCharacters
deriving DecidableEq

/-- What stands where a value of another type is wanted. -/
inductive Found where
  | null
  | flag (value : Bool)
  | integer (value : Int)
  | float (value : Float)
  | text (value : String)
  | list
  | object

/-- What is wanted. -/
inductive Wanted where
  | text
  | list
  | idBytes
  | byte
  | group
  | groupFields
  | null
deriving DecidableEq

/-- How a well-formed text can miss the value asked for. -/
inductive Mismatch where
  | type (found : Found) (wanted : Wanted)
  | byteRange (value : Int)
  | length (count : Nat) (wanted : Wanted)
  | unknownKind (name : String)
  | repeatedField (field : Field)
  | missingField (field : Field)
  | invalid (id : GroupId) (breach : Breach)

/-- Why a text does not describe the value asked for. -/
inductive Fault where
  | ended (place : Place)
  | malformed (flaw : Flaw)
  | unfit (mismatch : Mismatch)

def Place.name : Place → String
  | value => "a value"
  | text => "a string"
  | list => "a list"
  | object => "an object"

def Flaw.message : Flaw → String
  | expectedValue => "expected value"
  | misspeltWord => "expected ident"
  | invalidNumber => "invalid number"
  | numberOutOfRange => "number out of range"
  | controlCharacter => "control character (\\u0000-\\u001F) found while parsing a string"
  | invalidEscape => "invalid escape"
  | loneSurrogate => "lone leading surrogate in hex escape"
  | brokenSurrogatePair => "unexpected end of hex escape"
  | expectedListSeparator => "expected `,` or `]`"
  | expectedObjectSeparator => "expected `,` or `\x7d`"
  | expectedColon => "expected `:`"
  | keyNotText => "key must be a string"
  | trailingComma => "trailing comma"
  | trailingCharacters => "trailing characters"

/-- A word or a number between the marks that set it off. -/
def marked (s : String) : String := "`" ++ s ++ "`"

def Found.name : Found → String
  | null => "null"
  | flag value => "boolean " ++ marked (if value then "true" else "false")
  | integer value => "integer " ++ marked (toString value)
  | float value => "floating point " ++ marked (Decimal.Layout.standard.float value)
  | text value => "string " ++ Text.Quoted.text value
  | list => "sequence"
  | object => "map"

def Wanted.name : Wanted → String
  | text => "a string"
  | list => "a sequence"
  | idBytes => "an array of length " ++ toString GroupId.length
  | byte => "u8"
  | group => "struct GroupModelRecord"
  | groupFields => "struct GroupModelRecord with 7 elements"
  | null => "unit"

def Mismatch.message : Mismatch → String
  | type found wanted => "invalid type: " ++ found.name ++ ", expected " ++ wanted.name
  | byteRange value =>
    "invalid value: " ++ (Found.integer value).name ++ ", expected " ++ Wanted.byte.name
  | length count wanted =>
    "invalid length " ++ toString count ++ ", expected " ++ wanted.name
  | unknownKind name =>
    "unknown variant " ++ marked name ++ ", expected one of " ++
      ", ".intercalate (GroupKind.all.map fun kind => marked kind.name)
  | repeatedField field => "duplicate field " ++ marked field.key
  | missingField field => "missing field " ++ marked field.key
  | invalid _ breach => Position.drop breach.message

namespace Fault

def message : Fault → String
  | ended place => "EOF while parsing " ++ place.name
  | malformed flaw => flaw.message
  | unfit mismatch => mismatch.message

/-- What a failed reading records. -/
def events : Fault → List Event
  | unfit (.invalid id breach) => [.validationFailed id breach]
  | _ => []

end Fault

end Roster.Json
