import Roster.Proofs.Update.Congruence
import Roster.Proofs.Update.Difference

/-!
# The updates back

The updates from one state to another and those back are opposite. Who comes on one way leaves on
the other, in the same order, as often and under the same name. The avatar changes on both ways or
on neither, and so does the title, which each way tells as it is at the end of that way. Turning
every update back to front therefore leads from the updates of one way to those of the other, where
newcomers and leavers have changed places.
-/

namespace Roster

namespace Update

/-- The update on the way back, which ends at the given title. -/
def turned (title : Option String) : Update → Update
  | titleChanged _ => titleChanged title
  | avatarChanged => avatarChanged
  | memberAdded x name => memberRemoved x name
  | memberRemoved x name => memberAdded x name

def newTitle : Update → Option (Option String)
  | titleChanged title => some title
  | avatarChanged | memberAdded .. | memberRemoved .. => none

/-- Who came, with the name that is shown. -/
def namedNewcomer : Update → Option (MemberId × String)
  | memberAdded x name => some (x, name)
  | titleChanged _ | avatarChanged | memberRemoved .. => none

/-- Who left, with the name that is shown. -/
def namedLeaver : Update → Option (MemberId × String)
  | memberRemoved x name => some (x, name)
  | titleChanged _ | avatarChanged | memberAdded .. => none

end Update

namespace Describer

/-- Whether updates from an old state to a new one and others back mirror each other. -/
structure Opposite (old new : Group) (there back : List Update) : Prop where
  newcomers : there.filterMap Update.namedNewcomer = back.filterMap Update.namedLeaver
  leavers : there.filterMap Update.namedLeaver = back.filterMap Update.namedNewcomer
  avatar : .avatarChanged ∈ there ↔ .avatarChanged ∈ back
  titles : (there.filterMap Update.newTitle, back.filterMap Update.newTitle)
    = if old.name = new.name then ([], []) else ([new.name], [old.name])
  turned : there.Perm (back.map (Update.turned new.name))
  length : there.length = back.length

variable {d : Describer} {old new : Group} {title : Option String} {update : Update}

/-! ### What each way tells -/

theorem filterMap_namedNewcomer_changes :
    (d.changes old new).value.filterMap Update.namedNewcomer
      = (missingFrom old new.members).map fun x => (x, (d.resolve x).value) := by
  rw [filterMap_changes (fun _ => rfl) rfl]
  simp [Update.namedNewcomer]

theorem filterMap_namedLeaver_changes :
    (d.changes old new).value.filterMap Update.namedLeaver
      = (missingFrom new old.members).map fun x => (x, (d.resolve x).value) := by
  rw [filterMap_changes (fun _ => rfl) rfl]
  simp [Update.namedLeaver]

theorem newTitle_of_mem_roster (hmem : update ∈ d.roster old new) : update.newTitle = none := by
  rcases List.mem_append.1 hmem with hmem | hmem
  · obtain ⟨x, -, rfl⟩ := List.mem_map.1 hmem
    rfl
  · obtain ⟨x, -, rfl⟩ := List.mem_map.1 hmem
    rfl

theorem filterMap_newTitle_changes :
    (d.changes old new).value.filterMap Update.newTitle
      = if old.name = new.name then [] else [new.name] := by
  have hroster : (d.roster old new).filterMap Update.newTitle = [] :=
    List.filterMap_eq_nil_iff.2 fun _ => newTitle_of_mem_roster
  have havatar : (avatarUpdate old new).filterMap Update.newTitle = [] := by
    by_cases havatar : old.avatar = new.avatar <;> simp [avatarUpdate, havatar, Update.newTitle]
  rw [changes_value_eq_heading_append, heading, List.filterMap_append, List.filterMap_append,
    hroster, havatar, List.append_nil, List.append_nil]
  by_cases hname : old.name = new.name <;> simp [titleUpdate, hname, Update.newTitle]

/-! ### Turning updates round -/

theorem map_turned_heading : (heading new old).map (Update.turned new.name) = heading old new := by
  have htitle : (titleUpdate new old).map (Update.turned new.name) = titleUpdate old new := by
    by_cases hname : old.name = new.name
    · rw [titleUpdate, titleUpdate, if_pos hname, if_pos hname.symm, List.map_nil]
    · rw [titleUpdate, titleUpdate, if_neg hname, if_neg (Ne.symm hname)]
      rfl
  have havatar : (avatarUpdate new old).map (Update.turned new.name) = avatarUpdate old new := by
    by_cases havatar : old.avatar = new.avatar
    · rw [avatarUpdate, avatarUpdate, if_pos havatar, if_pos havatar.symm, List.map_nil]
    · rw [avatarUpdate, avatarUpdate, if_neg havatar, if_neg (Ne.symm havatar)]
      rfl
  rw [heading, heading, List.map_append, htitle, havatar]

theorem map_turned_additions :
    (d.additions new old).map (Update.turned title) = d.removals old new := by
  rw [additions, List.map_map]
  rfl

theorem map_turned_removals :
    (d.removals new old).map (Update.turned title) = d.additions old new := by
  rw [removals, List.map_map]
  rfl

theorem changes_perm_turned (d : Describer) (old new : Group) :
    (d.changes old new).value.Perm ((d.changes new old).value.map (Update.turned new.name)) := by
  rw [changes_value_eq_heading_append, changes_value_eq_heading_append, roster, roster,
    List.map_append, List.map_append, map_turned_heading, map_turned_additions,
    map_turned_removals]
  -- Newcomers are told before leavers on both ways, so turning the way back swaps the two blocks.
  exact List.perm_append_comm.append_left _

/-- The updates from one state to another and the updates back are opposite, for all states and all
names. -/
theorem opposite_changes (d : Describer) (old new : Group) :
    Opposite old new (d.changes old new).value (d.changes new old).value where
  newcomers := by rw [filterMap_namedNewcomer_changes, filterMap_namedLeaver_changes]
  leavers := by rw [filterMap_namedNewcomer_changes, filterMap_namedLeaver_changes]
  avatar := by
    rw [avatarChanged_mem_changes_iff, avatarChanged_mem_changes_iff]
    exact ne_comm
  titles := by
    rw [filterMap_newTitle_changes, filterMap_newTitle_changes]
    by_cases hname : old.name = new.name
    · rw [if_pos hname, if_pos hname, if_pos hname.symm]
    · rw [if_neg hname, if_neg hname, if_neg (Ne.symm hname)]
  turned := changes_perm_turned d old new
  length := by
    rw [(changes_perm_turned d old new).length_eq, List.length_map]

end Describer

end Roster
