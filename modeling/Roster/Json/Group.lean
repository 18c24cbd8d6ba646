import Roster.Group.Validity
import Roster.Json.Skip

/-!
# Reading groups from JSON

A group is an object whose members come in any order, each at most once, with unknown members passed
over; name and avatar may be missing. It may also be a list of all seven fields in their order. A
group that breaks a rule is refused before what follows it is looked at, and nothing but blanks may
follow.
-/

namespace Roster.Json

open Reader

variable {α : Type}

/-- As many bytes of a list as are left from the given index on. -/
def idBytesFrom (index : Nat) : (left : Nat) → Reader { bytes : List UInt8 // bytes.length = left }
  | 0 => return ⟨[], rfl⟩
  | left + 1 => do
    let first ← element byte .idBytes index
    let rest ← idBytesFrom (index + 1) left
    return ⟨first :: rest.val, congrArg (· + 1) rest.property⟩

def groupId : Reader GroupId := do
  let first ← opening
  if first = '[' then
    let bytes ← idBytesFrom 0 GroupId.length
    endOfList
    return .ofExactly bytes
  else refuse .idBytes first

def avatar : Reader Avatar := Avatar.mk <$> list byte

/-- A set of member ids, which may stand in any order and more than once. -/
def memberSet : Reader MemberSet := MemberSet.ofList <$> list text

/-- The name of a kind behind its first quote. -/
def kindName : Reader GroupKind := do
  let name ← Text.content
  match GroupKind.ofName? name with
  | some kind => return kind
  | none => fail (.unfit (.unknownKind name))

/-- The end of an object with a single member. -/
def endOfSingleton : Reader Unit := do
  let c ← ahead .object
  if c = '}' then advance else fail (.malformed .expectedValue)

/-- A kind: its name, or an object with its name as the key of null. -/
def kind : Reader GroupKind := do
  let first ← opening
  if first = '"' then kindName
  else if first = '{' then
    if (← ahead .object) = '}' then fail (.malformed .expectedValue)
    keyOpening
    let kind ← kindName
    colon
    null
    endOfSingleton
    return kind
  else fail (.malformed .expectedValue)

/-- The fields of a group that have been read. -/
structure Draft where
  id : Option GroupId := none
  name : Option (Option String) := none
  members : Option (List MemberId) := none
  admins : Option (List MemberId) := none
  kind : Option GroupKind := none
  removed : Option MemberSet := none
  avatar : Option (Option Avatar) := none

namespace Draft

/-- Whether a field has been read. -/
def has (draft : Draft) : Field → Bool
  | .id => draft.id.isSome
  | .name => draft.name.isSome
  | .members => draft.members.isSome
  | .admins => draft.admins.isSome
  | .kind => draft.kind.isSome
  | .removed => draft.removed.isSome
  | .avatar => draft.avatar.isSome

/-- Reads the value of a field. -/
def read (draft : Draft) : Field → Reader Draft
  | .id => do return { draft with id := some (← groupId) }
  | .name => do return { draft with name := some (← option text) }
  | .members => do return { draft with members := some (← list text) }
  | .admins => do return { draft with admins := some (← list text) }
  | .kind => do return { draft with kind := some (← Json.kind) }
  | .removed => do return { draft with removed := some (← memberSet) }
  | .avatar => do return { draft with avatar := some (← option Json.avatar) }

/-- Reads a member of the object. -/
def member (draft : Draft) : Reader Draft := do
  let key ← key
  match Field.ofKey? key with
  | none =>
    colon
    Skip.value
    return draft
  | some field =>
    if draft.has field then fail (.unfit (.repeatedField field))
    else
      colon
      draft.read field

/-- The value of a field, which must have been read. -/
def need (field : Field) : Option α → Except Mismatch α
  | some a => .ok a
  | none => .error (.missingField field)

/-- The group, if no field is missing that has to be there. -/
def finish (draft : Draft) : Except Mismatch Group := do
  let id ← need .id draft.id
  let members ← need .members draft.members
  let admins ← need .admins draft.admins
  let kind ← need .kind draft.kind
  let removed ← need .removed draft.removed
  let name := draft.name.join
  let avatar := draft.avatar.join
  return { id, name, members, admins, kind, removed, avatar }

end Draft

/-- The fields of a group as an object, behind its opening bracket. -/
def groupObject : Reader Group := do
  let draft ← Container.object.parts Draft.member {}
  match draft.finish with
  | .ok g => return g
  | .error mismatch => fail (.unfit mismatch)

/-- The fields of a group as a list, behind its opening bracket. -/
def groupList : Reader Group := do
  let id ← element groupId .groupFields 0
  let name ← element (option text) .groupFields 1
  let members ← element (list text) .groupFields 2
  let admins ← element (list text) .groupFields 3
  let kind ← element kind .groupFields 4
  let removed ← element memberSet .groupFields 5
  let avatar ← element (option avatar) .groupFields 6
  endOfList
  return { id, name, members, admins, kind, removed, avatar }

/-- The fields of a group, whether or not they fit together. -/
def record : Reader Group := do
  let first ← opening
  if first = '{' then groupObject
  else if first = '[' then groupList
  else refuse .group first

/-- A valid group. -/
def group : Reader Group := do
  let g ← record
  match g.breach? with
  | none => return g
  | some breach => fail (.unfit (.invalid g.id breach))

def endOfText : Reader Unit := do
  blanks
  if (← peek).isSome then fail (.malformed .trailingCharacters)

/-- A value that is a whole text. -/
def whole (reader : Reader α) : Reader α := do
  let a ← reader
  endOfText
  return a

/-- The value that a text describes. -/
def decode (reader : Reader α) (text : String) : Except Fault α :=
  Prod.fst <$> (whole reader).run text.toList

/-- The group that a text describes, with a record if it is refused as invalid. -/
def loadGroup (text : String) : Logged (Except Fault Group) :=
  match decode group text with
  | .ok g => ⟨.ok g, []⟩
  | .error fault => ⟨.error fault, fault.events⟩

end Roster.Json
