/-!
# The fields of a group in JSON

A group is an object with seven fields, written in the order in which they are declared.
-/

namespace Roster.Json

/-- A field of a group. -/
inductive Field where
  | id
  | name
  | members
  | admins
  | kind
  | removed
  | avatar
deriving DecidableEq

namespace Field

/-- The fields in their order. -/
def all : List Field := [id, name, members, admins, kind, removed, avatar]

def key : Field → String
  | id => "id"
  | name => "name"
  | members => "member_ids"
  | admins => "admin_ids"
  | kind => "group_type"
  | removed => "removed_members"
  | avatar => "avatar"

def ofKey? (text : String) : Option Field := all.find? (·.key = text)

@[simp] theorem ofKey?_key (field : Field) : ofKey? field.key = some field := by
  cases field <;> decide

theorem mem_all (field : Field) : field ∈ all := by
  cases field <;> decide

end Field

end Roster.Json
