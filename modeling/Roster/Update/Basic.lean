import Roster.Avatar
import Roster.MemberSet
import Roster.Text.Quoted

/-!
# Updates

One difference between two states of a group, with its text: for everybody, or for the member whose
device shows it, who is spoken to directly. A notice is the texts of a list of updates in one line,
and a fixed text when there are none.
-/

namespace Roster

/-- One difference between two states of a group. -/
inductive Update where
  | titleChanged (title : Option String)
  | avatarChanged
  | memberAdded (member : MemberId) (displayName : String)
  | memberRemoved (member : MemberId) (displayName : String)
deriving DecidableEq

/-- What stands between two texts of a notice. -/
def noticeSeparator : String := "; "

/-- The notice of no update. -/
def genericNotice : String := "group updated"

/-- The notice made of given lines. -/
def joinNotice (lines : List String) : String :=
  if lines.isEmpty then genericNotice else noticeSeparator.intercalate lines

namespace Update

/-- The member whom the update is about. -/
def about : Update → Option MemberId
  | titleChanged _ | avatarChanged => none
  | memberAdded member _ | memberRemoved member _ => some member

def text : Update → String
  | titleChanged (some title) => "title changed to " ++ title
  | titleChanged none => "title removed"
  | avatarChanged => "group avatar changed"
  | memberAdded _ displayName => displayName ++ " added"
  | memberRemoved _ displayName => displayName ++ " removed"

/-- The text on the device of the given member. -/
def textFor (reader : MemberId) (update : Update) : String :=
  match update with
  | memberAdded member _ => if member = reader then "you were added" else update.text
  | memberRemoved member _ => if member = reader then "you were removed" else update.text
  | _ => update.text

/-- The notice of a list of updates, for everybody. -/
def notice (updates : List Update) : String := joinNotice (updates.map text)

def inspect : Update → String
  | titleChanged title => "TitleChanged(" ++ Text.Quoted.optional title ++ ")"
  | avatarChanged => "AvatarChanged"
  | memberAdded member displayName => "MemberAdded" ++ fields member displayName
  | memberRemoved member displayName => "MemberRemoved" ++ fields member displayName
where
  /-- The two texts of an update about a member. -/
  fields (member : MemberId) (displayName : String) : String :=
    " \x7b member_id: " ++ Text.Quoted.text member ++ ", display_name: " ++
      Text.Quoted.text displayName ++ " \x7d"

end Update

end Roster
