import Roster.Group.Command
import Roster.Proofs.Group.Edits

/-!
# What a command does

A command does one of sixteen things, and where the id it is about stands decides which. For the
lists of the group these come down to seven: they stay as they are, because the command is refused
or concerns something else, or they make one of six moves. What a command preserves of the lists has
one case for each of the seven, and what depends on the command or its reply one for each of the
sixteen.
-/

namespace Roster

/-- Whether a command was refused or says that there was nothing to change. -/
def Outcome.Idle (outcome : Outcome) : Prop :=
  (∃ refusal, outcome.reply = .error refusal) ∨ outcome.reply = .ok (.changed false)

namespace Group

/-- All that a command can do, each with its condition. -/
inductive Step (g : Group) : Command → Outcome → Prop
  | named (name : Option String) : Step g (.setName name) ⟨{ g with name }, .ok .done, []⟩
  | pictured (avatar : Option Avatar) :
      Step g (.setAvatar avatar) ⟨{ g with avatar }, .ok .done, []⟩
  | rotated (id : GroupId) :
      Step g (.rotateId id) ⟨{ g with id }, .ok .done, [.idRotated g.id id]⟩
  | known {x : MemberId} (hx : x ∈ g.members) :
      Step g (.addMember x) ⟨g, .error (.alreadyMember x), []⟩
  | came {x : MemberId} (hx : x ∉ g.members) :
      Step g (.addMember x)
        ⟨{ g with members := g.members ++ [x], removed := g.removed.erase x }, .ok .done, []⟩
  | notLeft {x : MemberId} (hx : x ∉ g.members) :
      Step g (.removeMember x) ⟨g, .error (.notMember x), []⟩
  | left {x : MemberId} (hx : x ∈ g.members) :
      Step g (.removeMember x)
        ⟨{ g with members := g.members.erase x, admins := g.admins.filter (· ≠ x) }, .ok .done, []⟩
  | notMarked {x : MemberId} (hx : x ∉ g.members) :
      Step g (.markRemoved x) ⟨g, .error (.notMember x), []⟩
  | marked {x : MemberId} (hx : x ∈ g.members) :
      Step g (.markRemoved x)
        ⟨{ g with
            members := g.members.erase x
            admins := g.admins.filter (· ≠ x)
            removed := g.removed.insert x }, .ok .done, []⟩
  | notCleared {x : MemberId} (hx : x ∉ g.removed) :
      Step g (.clearRemoved x) ⟨g, .ok (.changed false), []⟩
  | cleared {x : MemberId} (hx : x ∈ g.removed) :
      Step g (.clearRemoved x) ⟨{ g with removed := g.removed.erase x }, .ok (.changed true), []⟩
  | notPromoted {x : MemberId} (hx : x ∉ g.members) :
      Step g (.promote x) ⟨g, .error (.notMember x), []⟩
  | stillAdmin {x : MemberId} (hx : x ∈ g.members) (hadmin : x ∈ g.admins) :
      Step g (.promote x) ⟨g, .ok (.changed false), []⟩
  | promoted {x : MemberId} (hx : x ∈ g.members) (hadmin : x ∉ g.admins) :
      Step g (.promote x) ⟨{ g with admins := g.admins ++ [x] }, .ok (.changed true), []⟩
  | notDemoted {x : MemberId} (hx : x ∉ g.admins) :
      Step g (.demote x) ⟨g, .error (.notAdmin x), []⟩
  | demoted {x : MemberId} (hx : x ∈ g.admins) :
      Step g (.demote x) ⟨{ g with admins := g.admins.erase x }, .ok .done, []⟩

theorem step_run (g : Group) (command : Command) : g.Step command (command.run g) := by
  cases command with
  | setName name => exact .named name
  | setAvatar avatar => exact .pictured avatar
  | rotateId id => exact .rotated id
  | addMember x =>
    by_cases hx : x ∈ g.members
    · rw [Command.run, addMember_of_mem hx]
      exact .known hx
    · rw [Command.run, addMember_of_not_mem hx]
      exact .came hx
  | removeMember x =>
    by_cases hx : x ∈ g.members
    · rw [Command.run, removeMember_of_mem hx]
      exact .left hx
    · rw [Command.run, removeMember_of_not_mem hx]
      exact .notLeft hx
  | markRemoved x =>
    by_cases hx : x ∈ g.members
    · rw [Command.run, markRemoved_of_mem hx]
      exact .marked hx
    · rw [Command.run, markRemoved_of_not_mem hx]
      exact .notMarked hx
  | clearRemoved x =>
    by_cases hx : x ∈ g.removed
    · rw [Command.run, clearRemoved_of_mem hx]
      exact .cleared hx
    · rw [Command.run, clearRemoved_of_not_mem hx]
      exact .notCleared hx
  | promote x =>
    by_cases hx : x ∈ g.members
    · by_cases hadmin : x ∈ g.admins
      · rw [Command.run, promote_of_admin hx hadmin]
        exact .stillAdmin hx hadmin
      · rw [Command.run, promote_of_member hx hadmin]
        exact .promoted hx hadmin
    · rw [Command.run, promote_of_not_mem hx]
      exact .notPromoted hx
  | demote x =>
    by_cases hx : x ∈ g.admins
    · rw [Command.run, demote_of_mem hx]
      exact .demoted hx
    · rw [Command.run, demote_of_not_mem hx]
      exact .notDemoted hx

variable {g : Group} {command : Command} {outcome : Outcome}

theorem Step.group_eq_of_idle (hstep : g.Step command outcome) (hidle : outcome.Idle) :
    outcome.group = g := by
  cases hstep with
  | known _ | notLeft _ | notMarked _ | notCleared _ | notPromoted _ | stillAdmin _ _
  | notDemoted _ => rfl
  | _ => rcases hidle with ⟨_, hreply⟩ | hreply <;> cases hreply

/-- What a command can do to the lists of a group. -/
inductive Effect (g : Group) : Group → Prop
  | kept {h : Group} (hmembers : h.members = g.members) (hadmins : h.admins = g.admins)
      (hremoved : h.removed = g.removed) : Effect g h
  | came {x : MemberId} (hx : x ∉ g.members) :
      Effect g { g with members := g.members ++ [x], removed := g.removed.erase x }
  | left {x : MemberId} (hx : x ∈ g.members) :
      Effect g { g with members := g.members.erase x, admins := g.admins.filter (· ≠ x) }
  | marked {x : MemberId} (hx : x ∈ g.members) :
      Effect g { g with
        members := g.members.erase x
        admins := g.admins.filter (· ≠ x)
        removed := g.removed.insert x }
  | cleared (x : MemberId) : Effect g { g with removed := g.removed.erase x }
  | promoted {x : MemberId} (hx : x ∈ g.members) (hadmin : x ∉ g.admins) :
      Effect g { g with admins := g.admins ++ [x] }
  | demoted {x : MemberId} (hx : x ∈ g.admins) : Effect g { g with admins := g.admins.erase x }

theorem Step.effect (hstep : g.Step command outcome) : g.Effect outcome.group := by
  cases hstep with
  | came hx => exact .came hx
  | left hx => exact .left hx
  | marked hx => exact .marked hx
  | cleared _ => exact .cleared _
  | promoted hx hadmin => exact .promoted hx hadmin
  | demoted hx => exact .demoted hx
  | _ => exact .kept rfl rfl rfl

theorem effect_run (g : Group) (command : Command) : g.Effect (command.run g).group :=
  (g.step_run command).effect

end Group

end Roster
