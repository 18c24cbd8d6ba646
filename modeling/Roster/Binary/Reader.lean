import Roster.Binary.Fault
import Roster.Group.Validity
import Roster.Text.Utf8

/-!
# Reading binary snapshots

A reader takes bytes from the front of its input and leaves the rest, so bytes behind a value are
never looked at. The reader of a group reads its fields one after the other and accepts the group
only if it is valid. Removed ids may stand in any order and more than once.
-/

namespace Roster.Binary

/-- Takes a value from the front of some bytes. -/
abbrev Reader := StateT (List UInt8) (Except Fault)

variable {α : Type}

def byte : Reader UInt8 := do
  match ← get with
  | [] => throw .endOfInput
  | first :: rest =>
    set rest
    return first

/-- A number in the given number of bytes. -/
def word : (width : Nat) → Reader Nat
  | 0 => return 0
  | width + 1 => do
    let low ← byte
    let high ← word width
    return low.toNat + 256 * high

def length : Reader Nat := word 8

/-- As many bytes as asked for; the fault tells what it means that there are not enough. Only the
bytes taken are counted, so the cost does not grow with what lies behind them. -/
def bytes (count : Nat) (shortage : Fault) :
    Reader { taken : List UInt8 // taken.length = count } := do
  let input ← get
  let taken := input.take count
  if enough : taken.length = count then
    set (input.drop count)
    return ⟨taken, enough⟩
  else throw shortage

/-- As many items as asked for. -/
def times (item : Reader α) : (count : Nat) → Reader (List α)
  | 0 => return []
  | count + 1 => do
    let first ← item
    let rest ← times item count
    return first :: rest

/-- A text behind the number of its bytes. -/
def text : Reader String := do
  let encoded ← bytes (← length) .textBeyondEnd
  match Text.Utf8.decode encoded.val with
  | .ok s => return s
  | .error fault => throw (.notText fault)

/-- Items behind their number. -/
def list (item : Reader α) : Reader (List α) := do times item (← length)

/-- A value that may be missing. -/
def option (item : Reader α) : Reader (Option α) := do
  let tag ← byte
  if tag = 0 then return none
  else if tag = 1 then return some (← item)
  else throw (.unknownOptionTag tag)

def groupId : Reader GroupId := GroupId.ofExactly <$> bytes GroupId.length .endOfInput

def kind : Reader GroupKind := do
  let index ← word 4
  match GroupKind.ofTag? index with
  | some kind => return kind
  | none => throw (.unknownKind index)

def avatar : Reader Avatar := do return ⟨(← bytes (← length) .endOfInput).val⟩

def memberSet : Reader MemberSet := do return MemberSet.ofList (← list text)

/-- The fields of a group, whether or not they fit together. -/
def record : Reader Group := do
  let id ← groupId
  let name ← option text
  let members ← list text
  let admins ← list text
  let kind ← kind
  let removed ← memberSet
  let avatar ← option avatar
  return { id, name, members, admins, kind, removed, avatar }

/-- A valid group. -/
def group : Reader Group := do
  let g ← record
  match g.breach? with
  | none => return g
  | some breach => throw (.invalid g.id breach)

/-- The value at the front of some bytes. -/
def decode (reader : Reader α) (bytes : List UInt8) : Except Fault α :=
  Prod.fst <$> reader.run bytes

/-- The group at the front of some bytes, with a record if it is refused as invalid. -/
def loadGroup (bytes : List UInt8) : Logged (Except Fault Group) :=
  match decode group bytes with
  | .ok g => ⟨.ok g, []⟩
  | .error fault => ⟨.error fault, fault.events⟩

end Roster.Binary
