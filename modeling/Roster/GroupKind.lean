import Roster.Text.Uppercase

/-!
# Kinds of groups

A group is a private conversation, a public chat or a news feed. Each kind has a label, which is
read without regard to case, a number under which older stores keep it, and a name under which
snapshots keep it.
-/

namespace Roster

/-- How a group is governed and delivered. -/
inductive GroupKind where
  | signal
  | publicChat
  | rssFeed
deriving DecidableEq

namespace GroupKind

instance : Inhabited GroupKind := ⟨signal⟩

/-- All kinds, in the order of their numbers. -/
def all : List GroupKind := [signal, publicChat, rssFeed]

/-- The label, in capitals. -/
def label : GroupKind → String
  | signal => "SIGNAL"
  | publicChat => "PUBLIC_CHAT"
  | rssFeed => "RSS_FEED"

/-- The name in snapshots. -/
def name : GroupKind → String
  | signal => "Signal"
  | publicChat => "PublicChat"
  | rssFeed => "RssFeed"

/-- The number in older stores and in binary snapshots. -/
def tag : GroupKind → Nat
  | signal => 0
  | publicChat => 1
  | rssFeed => 2

/-- The kind whose label a text is, in any mixture of cases. -/
def ofLabel? (text : String) : Option GroupKind :=
  all.find? fun kind => kind.label.toList = Text.uppercase text.toList

def ofName? (text : String) : Option GroupKind := all.find? (·.name = text)

def ofTag? (tag : Nat) : Option GroupKind := all.find? (·.tag = tag)

/-- A number that no kind has. -/
structure UnknownTag where
  tag : Int
deriving DecidableEq

def UnknownTag.message (fault : UnknownTag) : String :=
  "Unknown group type tag: " ++ toString fault.tag

/-- The kind that an older store means by a number. -/
def ofStoredTag (tag : Int) : Except UnknownTag GroupKind :=
  match all.find? fun kind => (kind.tag : Int) = tag with
  | some kind => .ok kind
  | none => .error ⟨tag⟩

@[simp] theorem ofTag?_tag (kind : GroupKind) : ofTag? kind.tag = some kind := by
  cases kind <;> rfl

@[simp] theorem ofName?_name (kind : GroupKind) : ofName? kind.name = some kind := by
  cases kind <;> decide

@[simp] theorem ofStoredTag_tag (kind : GroupKind) : ofStoredTag kind.tag = .ok kind := by
  cases kind <;> rfl

end GroupKind

end Roster
