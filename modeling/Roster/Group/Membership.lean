import Roster.Group.Basic
import Roster.Journal

/-!
# Edits of a group

An edit leaves a group behind and gives an answer or a refusal. Adding appends a member and makes a
removed id active again; removing takes a member out together with any admin role; marking removes a
member and keeps its id as removed. Roles are given to members only. The id of a group changes only
by rotation, which is recorded.
-/

namespace Roster

/-- The group that an edit leaves behind, and its answer. -/
structure Edited (α : Type) where
  group : Group
  answer : Except Refusal α

namespace Group

def setName (g : Group) (name : Option String) : Group := { g with name }

def setAvatar (g : Group) (avatar : Option Avatar) : Group := { g with avatar }

/-- Moves the group to another address. -/
def rotateId (g : Group) (id : GroupId) : Logged Group := do
  Logged.record (.idRotated g.id id)
  return { g with id }

/-- Appends a member, who is then no longer kept as removed. -/
def addMember (g : Group) (x : MemberId) : Edited Unit :=
  if g.isMember x then ⟨g, .error (.alreadyMember x)⟩
  else ⟨{ g with members := g.members ++ [x], removed := g.removed.erase x }, .ok ()⟩

/-- Takes out the first entry of a member and every entry of it as an admin. -/
def removeMember (g : Group) (x : MemberId) : Edited Unit :=
  if g.isMember x then
    ⟨{ g with members := g.members.erase x, admins := g.admins.filter (· ≠ x) }, .ok ()⟩
  else ⟨g, .error (.notMember x)⟩

/-- Removes a member and keeps its id as removed. -/
def markRemoved (g : Group) (x : MemberId) : Edited Unit :=
  let left := g.removeMember x
  match left.answer with
  | .ok () => ⟨{ left.group with removed := left.group.removed.insert x }, .ok ()⟩
  | .error refusal => ⟨left.group, .error refusal⟩

/-- Forgets a removed id, and tells whether it was kept. -/
def clearRemoved (g : Group) (x : MemberId) : Edited Bool :=
  ⟨{ g with removed := g.removed.erase x }, .ok (g.isRemoved x)⟩

/-- Makes a member an admin, and tells whether that is new. -/
def promote (g : Group) (x : MemberId) : Edited Bool :=
  if !g.isMember x then ⟨g, .error (.notMember x)⟩
  else if g.isAdmin x then ⟨g, .ok false⟩
  else ⟨{ g with admins := g.admins ++ [x] }, .ok true⟩

/-- Takes out the first entry of an admin. -/
def demote (g : Group) (x : MemberId) : Edited Unit :=
  if g.isAdmin x then ⟨{ g with admins := g.admins.erase x }, .ok ()⟩
  else ⟨g, .error (.notAdmin x)⟩

end Group

end Roster
