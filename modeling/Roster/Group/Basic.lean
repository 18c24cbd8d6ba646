import Roster.Avatar
import Roster.GroupId
import Roster.GroupKind
import Roster.MemberSet

/-!
# Groups

A group is a plain value: its id, its name, its members and admins in the order in which they came,
its kind, the ids that were removed from it, and its avatar. Nothing here checks that the three
lists fit together; `Roster.Group.Validity` says when they do.
-/

namespace Roster

/-- The state of a group. -/
structure Group where
  id : GroupId
  name : Option String
  members : List MemberId
  admins : List MemberId
  kind : GroupKind
  removed : MemberSet
  avatar : Option Avatar
deriving DecidableEq

namespace Group

/-- A group with the members as they are given, without admins and with nobody removed. -/
def create (name : Option String) (members : List MemberId) (avatar : Option Avatar) (id : GroupId)
    (kind : GroupKind) : Group :=
  { id, name, members, admins := [], kind, removed := ∅, avatar }

/-- Whether the id is listed as a member. -/
def isMember (g : Group) (x : MemberId) : Bool := g.members.contains x

/-- Whether the id is listed as an admin. -/
def isAdmin (g : Group) (x : MemberId) : Bool := g.admins.contains x

/-- Whether the id is kept as removed. -/
def isRemoved (g : Group) (x : MemberId) : Bool := g.removed.contains x

def memberCount (g : Group) : Nat := g.members.length

@[simp] theorem isMember_iff {g : Group} {x : MemberId} : g.isMember x = true ↔ x ∈ g.members := by
  simp [isMember]

@[simp] theorem isAdmin_iff {g : Group} {x : MemberId} : g.isAdmin x = true ↔ x ∈ g.admins := by
  simp [isAdmin]

@[simp] theorem isRemoved_iff {g : Group} {x : MemberId} :
    g.isRemoved x = true ↔ x ∈ g.removed := by
  simp [isRemoved]

end Group

end Roster
