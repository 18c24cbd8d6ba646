import Roster.Binary.Reader
import Roster.Binary.Writer
import Roster.Group.Command
import Roster.Group.Equality
import Roster.Group.Inspect
import Roster.Json.Group
import Roster.Json.Writer
import Roster.Update.Describer

/-!
# Sessions

Everything that can be asked of a group is a request: its edits, its checks and queries, comparisons
with other groups, and storing it with or without loading it again. A request leaves a group behind,
gives an answer or says why there is none, and records events. A session is a row of requests, each
of which goes to the group that the one before it left behind.
-/

namespace Roster

/-- A form in which groups are stored. -/
inductive Format where
  | binary
  | json
deriving DecidableEq

/-- What is asked of a group. -/
inductive Request where
  | edit (command : Command)
  | validate
  | isMember (member : MemberId)
  | isAdmin (member : MemberId)
  | isRemoved (member : MemberId)
  | memberCount
  | inspect
  | bytes
  | json
  | restore (format : Format)
  | equals (other : Candidate)
  | describe (describer : Describer) (newer : Group)

/-- What a request yields. -/
inductive Answer where
  | done
  | flag (value : Bool)
  | count (value : Nat)
  | text (value : String)
  | bytes (value : List UInt8)
  | description (value : Description)

/-- Why a request yields nothing. -/
inductive Failure where
  | refused (refusal : Refusal)
  | invalid (breach : Breach)
  | notBinary (fault : Binary.Fault)
  | notJson (fault : Json.Fault)

/-- The end of a request. -/
structure Response where
  group : Group
  answer : Except Failure Answer
  events : List Event

/-- A reply to a command as an answer. -/
def Reply.answer : Reply → Answer
  | done => .done
  | changed whether => .flag whether

namespace Format

/-- Stores a group and loads what was stored. -/
def reload (g : Group) : Format → Logged (Except Failure Group)
  | binary => (·.mapError .notBinary) <$> Binary.loadGroup (Binary.groupBytes g)
  | json => (·.mapError .notJson) <$> Json.loadGroup (Json.groupText g)

end Format

namespace Group

def respond (g : Group) : Request → Response
  | .edit command =>
    let outcome := command.run g
    ⟨outcome.group, (outcome.reply.map Reply.answer).mapError .refused, outcome.events⟩
  | .validate =>
    let checked := g.validate
    ⟨g, (checked.value.map fun _ => .done).mapError .invalid, checked.events⟩
  | .isMember member => ⟨g, .ok (.flag (g.isMember member)), []⟩
  | .isAdmin member => ⟨g, .ok (.flag (g.isAdmin member)), []⟩
  | .isRemoved member => ⟨g, .ok (.flag (g.isRemoved member)), []⟩
  | .memberCount => ⟨g, .ok (.count g.memberCount), []⟩
  | .inspect => ⟨g, .ok (.text g.inspect), []⟩
  | .bytes => ⟨g, .ok (.bytes (Binary.groupBytes g)), []⟩
  | .json => ⟨g, .ok (.text (Json.groupText g)), []⟩
  | .restore format =>
    let reloaded := format.reload g
    match reloaded.value with
    | .ok loaded => ⟨loaded, .ok .done, reloaded.events⟩
    | .error failure => ⟨g, .error failure, reloaded.events⟩
  | .equals other => ⟨g, .ok (.flag (g.equals other)), []⟩
  | .describe describer newer =>
    let described := describer.description g newer
    ⟨g, .ok (.description described.value), described.events⟩

/-- The group after a row of requests, and the events of all of them in order. -/
def serve (g : Group) : List Request → Logged Group
  | [] => return g
  | request :: rest =>
    let response := g.respond request
    let served := response.group.serve rest
    ⟨served.value, response.events ++ served.events⟩

end Group

end Roster
