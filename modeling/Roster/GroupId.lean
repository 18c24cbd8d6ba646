import Roster.Text.Hex
import Roster.Text.Utf8

/-!
# Group ids

A group is addressed by an opaque id of sixteen bytes. Ids are shown and stored as text in
thirty-two lower-case hexadecimal digits, ordered byte by byte, and read back from digits of either
case.
-/

namespace Roster

open Text

/-- How many bytes an id has. -/
def GroupId.length : Nat := 16

/-- The address of a group. -/
structure GroupId where
  bytes : List UInt8
  length_bytes : bytes.length = GroupId.length
deriving DecidableEq

namespace GroupId

/-- The id in which all bytes are the same. -/
def uniform (byte : UInt8) : GroupId := ⟨List.replicate length byte, List.length_replicate⟩

def zero : GroupId := uniform 0

instance : Inhabited GroupId := ⟨zero⟩

/-- The id with the given bytes, if they are as many as an id has. -/
def ofBytes? (bytes : List UInt8) : Option GroupId :=
  if h : bytes.length = length then some ⟨bytes, h⟩ else none

/-- The id with the given bytes, which are as many as an id has. -/
def ofExactly (bytes : { bytes : List UInt8 // bytes.length = length }) : GroupId :=
  ⟨bytes.val, bytes.property⟩

/-- The digits of an id. -/
def hex (id : GroupId) : String := Hex.encode id.bytes

instance : ToString GroupId := ⟨hex⟩

/-- The id that a text spells. Its length is judged last. -/
def ofHex (text : String) : Except Hex.Fault GroupId := do
  let bytes ← Hex.decode (Utf8.encode text)
  match ofBytes? bytes with
  | some id => .ok id
  | none => .error .wrongLength

/-- The order of ids, by the first byte in which they differ. -/
instance : Ord GroupId := ⟨fun a b => compare a.bytes b.bytes⟩

def sort (ids : List GroupId) : List GroupId := ids.mergeSort fun a b => (compare a b).isLE

/-- A short form for diagnostics: the first twelve digits. -/
def inspect (id : GroupId) : String :=
  "GroupId(" ++ String.ofList ((Hex.digits id.bytes).take 12) ++ "..)"

/-- As many bytes as asked for, drawn from a generator. -/
def drawBytes : (count : Nat) → StdGen → { bytes : List UInt8 // bytes.length = count } × StdGen
  | 0, gen => (⟨[], rfl⟩, gen)
  | count + 1, gen =>
    let (byte, gen) := randNat gen 0 255
    let (rest, gen) := drawBytes count gen
    (⟨UInt8.ofNat byte :: rest.val, congrArg (· + 1) rest.property⟩, gen)

/-- A fresh id, drawn from a generator. -/
def random (gen : StdGen) : GroupId × StdGen :=
  let (bytes, gen) := drawBytes length gen
  (ofExactly bytes, gen)

@[simp] theorem ofBytes?_bytes (id : GroupId) : ofBytes? id.bytes = some id := by
  simp [ofBytes?, id.length_bytes]

theorem ofBytes?_eq_some_iff {bytes : List UInt8} {id : GroupId} :
    ofBytes? bytes = some id ↔ id.bytes = bytes := by
  constructor
  · intro h
    simp only [ofBytes?] at h
    split at h
    · cases h
      rfl
    · cases h
  · rintro rfl
    exact ofBytes?_bytes id

end GroupId

end Roster
