import Roster.Group.Membership

/-!
# Commands

The edits of a group as data, so that a run of them is a list. Carrying out a command yields the
group it leaves behind, its reply or the refusal, and the events it recorded.
-/

namespace Roster

/-- An edit that has not been made yet. -/
inductive Command where
  | setName (name : Option String)
  | setAvatar (avatar : Option Avatar)
  | rotateId (id : GroupId)
  | addMember (member : MemberId)
  | removeMember (member : MemberId)
  | markRemoved (member : MemberId)
  | clearRemoved (member : MemberId)
  | promote (member : MemberId)
  | demote (member : MemberId)
deriving DecidableEq

/-- What a command that was carried out says. -/
inductive Reply where
  | done
  | changed (whether : Bool)
deriving DecidableEq

/-- The end of a command. -/
structure Outcome where
  group : Group
  reply : Except Refusal Reply
  events : List Event

namespace Edited

/-- The end of an edit that only says that it was made. -/
def outcome (edited : Edited Unit) : Outcome :=
  ⟨edited.group, edited.answer.map fun _ => .done, []⟩

/-- The end of an edit that tells whether it changed something. -/
def outcomeChanged (edited : Edited Bool) : Outcome :=
  ⟨edited.group, edited.answer.map .changed, []⟩

end Edited

namespace Command

def run (g : Group) : Command → Outcome
  | setName name => ⟨g.setName name, .ok .done, []⟩
  | setAvatar avatar => ⟨g.setAvatar avatar, .ok .done, []⟩
  | rotateId id =>
    let rotated := g.rotateId id
    ⟨rotated.value, .ok .done, rotated.events⟩
  | addMember member => (g.addMember member).outcome
  | removeMember member => (g.removeMember member).outcome
  | markRemoved member => (g.markRemoved member).outcome
  | clearRemoved member => (g.clearRemoved member).outcomeChanged
  | promote member => (g.promote member).outcomeChanged
  | demote member => (g.demote member).outcome

end Command

/-- The group after a run of commands. -/
def Group.after (g : Group) (commands : List Command) : Group :=
  commands.foldl (fun g command => (command.run g).group) g

@[simp] theorem Group.after_nil (g : Group) : g.after [] = g := rfl

@[simp] theorem Group.after_cons (g : Group) (command : Command) (rest : List Command) :
    g.after (command :: rest) = (command.run g).group.after rest := rfl

theorem Group.after_append (g : Group) (first second : List Command) :
    g.after (first ++ second) = (g.after first).after second := List.foldl_append

end Roster
