import Roster.Group.Basic
import Roster.Json.Field
import Roster.Json.Token

/-!
# Writing JSON

Ids and avatars are written as lists of the numbers of their bytes, kinds by their names, sets in
ascending order, and missing values as null. A group is an object with all of its fields.
-/

namespace Roster.Json

variable {α : Type}

/-- Rows of tokens with a comma between two. -/
def separated : List (List Token) → List Token
  | [] => []
  | first :: rest => first ++ rest.flatMap (.comma :: ·)

def listTokens (item : α → List Token) (list : List α) : List Token :=
  .openList :: (separated (list.map item) ++ [.closeList])

/-- A member of an object. -/
def memberTokens (key : String) (value : List Token) : List Token := .text key :: .colon :: value

def objectTokens (members : List (String × List Token)) : List Token :=
  .openObject ::
    (separated (members.map fun member => memberTokens member.1 member.2) ++ [.closeObject])

/-- A value that may be missing. -/
def optionTokens (value : α → List Token) : Option α → List Token
  | none => [.null]
  | some a => value a

def textTokens (s : String) : List Token := [.text s]

def byteTokens (byte : UInt8) : List Token := [.number (.ofNat byte.toNat)]

def idTokens (id : GroupId) : List Token := listTokens byteTokens id.bytes

def kindTokens (kind : GroupKind) : List Token := [.text kind.name]

def avatarTokens (avatar : Avatar) : List Token := listTokens byteTokens avatar.bytes

def memberSetTokens (set : MemberSet) : List Token := listTokens textTokens set.ids

def fieldTokens (g : Group) : Field → List Token
  | .id => idTokens g.id
  | .name => optionTokens textTokens g.name
  | .members => listTokens textTokens g.members
  | .admins => listTokens textTokens g.admins
  | .kind => kindTokens g.kind
  | .removed => memberSetTokens g.removed
  | .avatar => optionTokens avatarTokens g.avatar

def groupTokens (g : Group) : List Token :=
  objectTokens (Field.all.map fun field => (field.key, fieldTokens g field))

def groupText (g : Group) : String := write (groupTokens g)

end Roster.Json
