import Roster.Group.Basic
import Roster.Text.Utf8

/-!
# Writing binary snapshots

Numbers have a fixed width and the lowest byte first. Texts, lists and sets begin with their length
in eight bytes, an optional value with one byte that tells whether it is there, and a kind is its
number in four bytes. A group is the sequence of its fields; its removed ids are written in
ascending order.
-/

namespace Roster.Binary

variable {α : Type}

/-- A number in the given number of bytes. -/
def wordBytes : (width : Nat) → Nat → List UInt8
  | 0, _ => []
  | width + 1, n => UInt8.ofNat n :: wordBytes width (n / 256)

def lengthBytes (n : Nat) : List UInt8 := wordBytes 8 n

/-- A text behind the number of its bytes. -/
def textBytes (s : String) : List UInt8 :=
  let bytes := Text.Utf8.encode s
  lengthBytes bytes.length ++ bytes

/-- Items behind their number. -/
def listBytes (item : α → List UInt8) (items : List α) : List UInt8 :=
  lengthBytes items.length ++ items.flatMap item

/-- A value that may be missing. -/
def optionBytes (item : α → List UInt8) : Option α → List UInt8
  | none => [0]
  | some a => 1 :: item a

def idBytes (id : GroupId) : List UInt8 := id.bytes

def kindBytes (kind : GroupKind) : List UInt8 := wordBytes 4 kind.tag

def avatarBytes (avatar : Avatar) : List UInt8 := lengthBytes avatar.size ++ avatar.bytes

def memberSetBytes (set : MemberSet) : List UInt8 := listBytes textBytes set.ids

def groupBytes (g : Group) : List UInt8 :=
  idBytes g.id ++
    (optionBytes textBytes g.name ++
      (listBytes textBytes g.members ++
        (listBytes textBytes g.admins ++
          (kindBytes g.kind ++ (memberSetBytes g.removed ++ optionBytes avatarBytes g.avatar)))))

@[simp] theorem length_wordBytes (width n : Nat) : (wordBytes width n).length = width := by
  induction width generalizing n with
  | zero => rfl
  | succ width ih => simp [wordBytes, ih]

end Roster.Binary
