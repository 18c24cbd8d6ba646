import Roster.Digest.Blake3
import Roster.Text.Hex

/-!
# Avatars

The picture of a group is kept as bytes that nothing here looks into. Diagnostics show its size and
a fingerprint, the first eight bytes of its hash, in place of the bytes themselves.
-/

namespace Roster

/-- An opaque picture. -/
structure Avatar where
  bytes : List UInt8
deriving DecidableEq

namespace Avatar

def size (avatar : Avatar) : Nat := avatar.bytes.length

def isEmpty (avatar : Avatar) : Bool := avatar.bytes.isEmpty

/-- Sixteen digits that stand for the picture. -/
def fingerprint (avatar : Avatar) : String :=
  Text.Hex.encode ((Digest.Blake3.hash avatar.bytes).take 8)

/-- The picture in diagnostics. -/
def inspect (avatar : Avatar) : String :=
  "Avatar(" ++ toString avatar.size ++ " bytes, " ++ avatar.fingerprint ++ ")"

@[simp] theorem isEmpty_iff {avatar : Avatar} : avatar.isEmpty = true ↔ avatar.size = 0 := by
  simp [isEmpty, size, List.isEmpty_iff]

end Avatar

end Roster
