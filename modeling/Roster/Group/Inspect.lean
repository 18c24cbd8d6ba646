import Roster.Group.Basic

/-!
# Groups in diagnostics

The one-line form of a group names every field. The id and the avatar are shortened, texts are
quoted, and the removed ids stand between braces in ascending order.
-/

namespace Roster.Group

open Text

/-- The group on one line. -/
def inspect (g : Group) : String :=
  "GroupModel \x7b id: " ++ g.id.inspect ++
    ", name: " ++ Quoted.optional g.name ++
    ", member_ids: " ++ Quoted.list g.members ++
    ", admin_ids: " ++ Quoted.list g.admins ++
    ", group_type: " ++ g.kind.name ++
    ", removed_members: \x7b" ++ ", ".intercalate (g.removed.ids.map Quoted.text) ++
    "\x7d, avatar: " ++
      (match g.avatar with
        | none => "None"
        | some avatar => "Some(" ++ avatar.inspect ++ ")") ++
    " \x7d"

end Roster.Group
