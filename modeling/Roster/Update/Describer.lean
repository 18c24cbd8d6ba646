import Roster.Group.Basic
import Roster.Journal
import Roster.Text.Blank
import Roster.Update.Basic

/-!
# Describing how a group changed

The updates from one state to another come in a fixed order: the title, the avatar, the members who
came in the order of the newer state, the members who left in the order of the older one. A member
is shown by the name that a resolver knows for it, and by its id when that name is missing or blank,
which is recorded. After the updates one more event records how many there were.
-/

namespace Roster

/-- Knows the display names of some members. -/
abbrev Resolver := MemberId → Option String

namespace Resolver

/-- Knows no names. -/
def raw : Resolver := fun _ => none

/-- Knows the names of a directory. -/
def ofDirectory (names : List (MemberId × String)) : Resolver := fun member => names.lookup member

end Resolver

/-- How updates are found and worded: with which names, and for whom. -/
structure Describer where
  resolver : Resolver
  reader : Option MemberId := none

/-- The texts of the updates between two states. -/
structure Description where
  updates : List Update
  lines : List String
  notice : String

namespace Describer

/-- The name to show for a member. -/
def resolve (d : Describer) (member : MemberId) : Logged String :=
  match d.resolver member with
  | some name =>
    if Text.isBlank name then do
      Logged.record (.nameUnresolved member)
      return member
    else return name
  | none => do
    Logged.record (.nameUnresolved member)
    return member

/-- The update on the title, if it differs. -/
def titleUpdate (old new : Group) : List Update :=
  if old.name = new.name then [] else [.titleChanged new.name]

/-- The update on the avatar, if it differs. -/
def avatarUpdate (old new : Group) : List Update :=
  if old.avatar = new.avatar then [] else [.avatarChanged]

/-- The entries of one list of members that the other group does not list. -/
def missingFrom (g : Group) (members : List MemberId) : List MemberId :=
  members.filter fun x => !g.isMember x

/-- The updates from an old state to a new one. -/
def changes (d : Describer) (old new : Group) : Logged (List Update) := do
  let added ← (missingFrom old new.members).mapM fun x => Update.memberAdded x <$> d.resolve x
  let removed ← (missingFrom new old.members).mapM fun x => Update.memberRemoved x <$> d.resolve x
  let updates := titleUpdate old new ++ avatarUpdate old new ++ added ++ removed
  Logged.record (.compared old.id new.id updates.length)
  return updates

/-- The text of one update, for the reader if there is one. -/
def render (d : Describer) (update : Update) : String :=
  match d.reader with
  | some reader => update.textFor reader
  | none => update.text

/-- The texts of the updates, in order. -/
def describe (d : Describer) (old new : Group) : Logged (List String) :=
  (·.map d.render) <$> d.changes old new

/-- The texts of the updates in one line. -/
def notice (d : Describer) (old new : Group) : Logged String := joinNotice <$> d.describe old new

/-- The updates together with their texts and their notice. -/
def description (d : Describer) (old new : Group) : Logged Description := do
  let updates ← d.changes old new
  let lines := updates.map d.render
  return ⟨updates, lines, joinNotice lines⟩

end Describer

/-- The texts of the updates from an old state to a new one, for everybody. -/
def describeUpdate (resolver : Resolver) (old new : Group) : Logged (List String) :=
  ({ resolver } : Describer).describe old new

end Roster
