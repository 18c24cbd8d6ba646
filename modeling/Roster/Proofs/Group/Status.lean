import Roster.Proofs.Group.Demotion
import Roster.Proofs.Group.Invariants

/-!
# The status of an id

In a valid group every id has one of four statuses: it is outside, kept as removed, a member, or an
admin. A table says where a command leaves the id it is about, and what the command says. Commands
follow the table wherever the group lists each admin once: an admin listed twice would still be one
after a demotion. No command touches an id it is not about.
-/

namespace Roster

/-- Where an id stands in a group. -/
inductive Status where
  | outside
  | removed
  | member
  | admin
deriving DecidableEq

/-- Where a command leaves the id it is about, and what it says. -/
structure Turn where
  status : Status
  reply : Except Refusal Reply

namespace Status

def isMember : Status → Bool
  | member | admin => true
  | outside | removed => false

def isAdmin : Status → Bool
  | admin => true
  | outside | removed | member => false

def isRemoved : Status → Bool
  | removed => true
  | outside | member | admin => false

/-- The table of the four statuses. -/
def turn : Command → Status → Turn
  | .addMember _, outside | .addMember _, removed => ⟨member, .ok .done⟩
  | .addMember x, status => ⟨status, .error (.alreadyMember x)⟩
  | .removeMember _, member | .removeMember _, admin => ⟨outside, .ok .done⟩
  | .removeMember x, status => ⟨status, .error (.notMember x)⟩
  | .markRemoved _, member | .markRemoved _, admin => ⟨removed, .ok .done⟩
  | .markRemoved x, status => ⟨status, .error (.notMember x)⟩
  | .clearRemoved _, removed => ⟨outside, .ok (.changed true)⟩
  | .clearRemoved _, status => ⟨status, .ok (.changed false)⟩
  | .promote _, member => ⟨admin, .ok (.changed true)⟩
  | .promote _, admin => ⟨admin, .ok (.changed false)⟩
  | .promote x, status => ⟨status, .error (.notMember x)⟩
  | .demote _, admin => ⟨member, .ok .done⟩
  | .demote x, status => ⟨status, .error (.notAdmin x)⟩
  | .setName _, status | .setAvatar _, status | .rotateId _, status => ⟨status, .ok .done⟩

variable (x : MemberId) (status : Status)

theorem turn_addMember :
    turn (.addMember x) status
      = if status.isMember then ⟨status, .error (.alreadyMember x)⟩ else ⟨member, .ok .done⟩ := by
  cases status <;> rfl

theorem turn_removeMember :
    turn (.removeMember x) status
      = if status.isMember then ⟨outside, .ok .done⟩ else ⟨status, .error (.notMember x)⟩ := by
  cases status <;> rfl

theorem turn_markRemoved :
    turn (.markRemoved x) status
      = if status.isMember then ⟨removed, .ok .done⟩ else ⟨status, .error (.notMember x)⟩ := by
  cases status <;> rfl

theorem turn_clearRemoved :
    turn (.clearRemoved x) status
      = if status.isRemoved then ⟨outside, .ok (.changed true)⟩
        else ⟨status, .ok (.changed false)⟩ := by
  cases status <;> rfl

theorem turn_promote :
    turn (.promote x) status
      = if status.isMember then
          if status.isAdmin then ⟨status, .ok (.changed false)⟩ else ⟨admin, .ok (.changed true)⟩
        else ⟨status, .error (.notMember x)⟩ := by
  cases status <;> rfl

theorem turn_demote :
    turn (.demote x) status
      = if status.isAdmin then ⟨member, .ok .done⟩ else ⟨status, .error (.notAdmin x)⟩ := by
  cases status <;> rfl

end Status

/-- The id that a command is about. -/
def Command.about : Command → Option MemberId
  | setName _ | setAvatar _ | rotateId _ => none
  | addMember x | removeMember x | markRemoved x | clearRemoved x | promote x | demote x => some x

namespace Group

/-- Whether the queries about an id answer as the status says. -/
structure Stands (g : Group) (x : MemberId) (status : Status) : Prop where
  member : g.isMember x = status.isMember
  admin : g.isAdmin x = status.isAdmin
  removed : g.isRemoved x = status.isRemoved

def status (g : Group) (x : MemberId) : Status :=
  if g.isAdmin x then .admin
  else if g.isMember x then .member
  else if g.isRemoved x then .removed
  else .outside

/-- The groups in which every id has a status and the commands follow the table. -/
structure Orderly (g : Group) : Prop where
  passes : g.validate.value = .ok ()
  admins_nodup : g.admins.Nodup

variable {g h : Group} {x y : MemberId} {status : Status} {command : Command} {outcome : Outcome}

theorem Orderly.valid (hg : g.Orderly) : g.Valid := validate_value_eq_ok_iff.1 hg.passes

theorem Valid.orderly (hvalid : g.Valid) (hadmins : g.admins.Nodup) : g.Orderly :=
  ⟨validate_value_eq_ok_iff.2 hvalid, hadmins⟩

theorem Valid.not_mem_admins (hvalid : g.Valid) (hx : x ∉ g.members) : x ∉ g.admins :=
  fun hadmin => hx (hvalid.admins_subset x hadmin)

theorem Valid.not_mem_removed (hvalid : g.Valid) (hx : x ∈ g.members) : x ∉ g.removed :=
  fun hremoved => hvalid.removed_disjoint x hremoved hx

theorem not_mem_erase_self (set : MemberSet) : x ∉ set.erase x :=
  fun hx => (MemberSet.mem_erase.1 hx).1 rfl

/-! ### One status for each id -/

theorem Stands.isMember_iff (hx : g.Stands x status) : status.isMember = true ↔ x ∈ g.members := by
  rw [← hx.member, Group.isMember_iff]

theorem Stands.isAdmin_iff (hx : g.Stands x status) : status.isAdmin = true ↔ x ∈ g.admins := by
  rw [← hx.admin, Group.isAdmin_iff]

theorem Stands.isRemoved_iff (hx : g.Stands x status) :
    status.isRemoved = true ↔ x ∈ g.removed := by
  rw [← hx.removed, Group.isRemoved_iff]

theorem stands_iff :
    g.Stands x status ↔
      (x ∈ g.members ↔ status.isMember = true) ∧ (x ∈ g.admins ↔ status.isAdmin = true) ∧
        (x ∈ g.removed ↔ status.isRemoved = true) := by
  constructor
  · intro hx
    exact ⟨hx.isMember_iff.symm, hx.isAdmin_iff.symm, hx.isRemoved_iff.symm⟩
  · rintro ⟨hmember, hadmin, hremoved⟩
    refine ⟨Bool.eq_iff_iff.2 ?_, Bool.eq_iff_iff.2 ?_, Bool.eq_iff_iff.2 ?_⟩
    · rwa [isMember_iff]
    · rwa [isAdmin_iff]
    · rwa [isRemoved_iff]

theorem stands_outside_iff :
    g.Stands x .outside ↔ x ∉ g.members ∧ x ∉ g.admins ∧ x ∉ g.removed := by
  simp [stands_iff, Status.isMember, Status.isAdmin, Status.isRemoved]

theorem stands_removed_iff :
    g.Stands x .removed ↔ x ∉ g.members ∧ x ∉ g.admins ∧ x ∈ g.removed := by
  simp [stands_iff, Status.isMember, Status.isAdmin, Status.isRemoved]

theorem stands_member_iff :
    g.Stands x .member ↔ x ∈ g.members ∧ x ∉ g.admins ∧ x ∉ g.removed := by
  simp [stands_iff, Status.isMember, Status.isAdmin, Status.isRemoved]

theorem stands_admin_iff : g.Stands x .admin ↔ x ∈ g.members ∧ x ∈ g.admins ∧ x ∉ g.removed := by
  simp [stands_iff, Status.isMember, Status.isAdmin, Status.isRemoved]

theorem Stands.status_eq (hx : g.Stands x status) : g.status x = status := by
  rw [Group.status, hx.admin, hx.member, hx.removed]
  cases status <;> rfl

/-- Validity rules out the four combinations of answers that no status gives. -/
theorem Valid.stands (hvalid : g.Valid) (x : MemberId) : g.Stands x (g.status x) := by
  have hexists : ∃ status, g.Stands x status := by
    by_cases hmember : x ∈ g.members
    · have hremoved : x ∉ g.removed := hvalid.not_mem_removed hmember
      by_cases hadmin : x ∈ g.admins
      · exact ⟨.admin, stands_admin_iff.2 ⟨hmember, hadmin, hremoved⟩⟩
      · exact ⟨.member, stands_member_iff.2 ⟨hmember, hadmin, hremoved⟩⟩
    · have hadmin : x ∉ g.admins := hvalid.not_mem_admins hmember
      by_cases hremoved : x ∈ g.removed
      · exact ⟨.removed, stands_removed_iff.2 ⟨hmember, hadmin, hremoved⟩⟩
      · exact ⟨.outside, stands_outside_iff.2 ⟨hmember, hadmin, hremoved⟩⟩
  obtain ⟨status, hx⟩ := hexists
  rwa [hx.status_eq]

/-! ### The id that a command is about -/

/-- Whether a command leaves an id where a turn says, with the reply of the turn. -/
structure Takes (outcome : Outcome) (x : MemberId) (turn : Turn) : Prop where
  stands : outcome.group.Stands x turn.status
  reply : outcome.reply = turn.reply

theorem Step.takes (hstep : g.Step command outcome) (hg : g.Orderly)
    (habout : command.about = some x) (hx : g.Stands x status) :
    Takes outcome x (Status.turn command status) := by
  have hgone : x ∉ g.members.erase x := hg.valid.members_nodup.not_mem_erase
  have hstripped : x ∉ g.admins.filter (· ≠ x) := not_mem_filter_ne g.admins
  have hforgotten : x ∉ g.removed.erase x := not_mem_erase_self g.removed
  cases hstep with
  | named | pictured | rotated => cases habout
  | known hmember =>
    cases habout
    rw [Status.turn_addMember, if_pos (hx.isMember_iff.2 hmember)]
    exact ⟨hx, rfl⟩
  | came hmember =>
    cases habout
    rw [Status.turn_addMember, if_neg (mt hx.isMember_iff.1 hmember)]
    exact ⟨stands_member_iff.2 ⟨List.mem_concat_self, hg.valid.not_mem_admins hmember,
      hforgotten⟩, rfl⟩
  | notLeft hmember =>
    cases habout
    rw [Status.turn_removeMember, if_neg (mt hx.isMember_iff.1 hmember)]
    exact ⟨hx, rfl⟩
  | left hmember =>
    cases habout
    rw [Status.turn_removeMember, if_pos (hx.isMember_iff.2 hmember)]
    exact ⟨stands_outside_iff.2 ⟨hgone, hstripped, hg.valid.not_mem_removed hmember⟩, rfl⟩
  | notMarked hmember =>
    cases habout
    rw [Status.turn_markRemoved, if_neg (mt hx.isMember_iff.1 hmember)]
    exact ⟨hx, rfl⟩
  | marked hmember =>
    cases habout
    rw [Status.turn_markRemoved, if_pos (hx.isMember_iff.2 hmember)]
    exact ⟨stands_removed_iff.2 ⟨hgone, hstripped, MemberSet.mem_insert.2 (.inl rfl)⟩, rfl⟩
  | notCleared hremoved =>
    cases habout
    rw [Status.turn_clearRemoved, if_neg (mt hx.isRemoved_iff.1 hremoved)]
    exact ⟨hx, rfl⟩
  | cleared hremoved =>
    cases habout
    have hmember : x ∉ g.members := hg.valid.removed_disjoint x hremoved
    rw [Status.turn_clearRemoved, if_pos (hx.isRemoved_iff.2 hremoved)]
    exact ⟨stands_outside_iff.2 ⟨hmember, hg.valid.not_mem_admins hmember, hforgotten⟩, rfl⟩
  | notPromoted hmember =>
    cases habout
    rw [Status.turn_promote, if_neg (mt hx.isMember_iff.1 hmember)]
    exact ⟨hx, rfl⟩
  | stillAdmin hmember hadmin =>
    cases habout
    rw [Status.turn_promote, if_pos (hx.isMember_iff.2 hmember), if_pos (hx.isAdmin_iff.2 hadmin)]
    exact ⟨hx, rfl⟩
  | promoted hmember hadmin =>
    cases habout
    rw [Status.turn_promote, if_pos (hx.isMember_iff.2 hmember),
      if_neg (mt hx.isAdmin_iff.1 hadmin)]
    exact ⟨stands_admin_iff.2 ⟨hmember, List.mem_concat_self,
      hg.valid.not_mem_removed hmember⟩, rfl⟩
  | notDemoted hadmin =>
    cases habout
    rw [Status.turn_demote, if_neg (mt hx.isAdmin_iff.1 hadmin)]
    exact ⟨hx, rfl⟩
  | demoted hadmin =>
    cases habout
    -- here alone the admins have to be listed once
    have hmember : x ∈ g.members := hg.valid.admins_subset x hadmin
    rw [Status.turn_demote, if_pos (hx.isAdmin_iff.2 hadmin)]
    exact ⟨stands_member_iff.2 ⟨hmember, hg.admins_nodup.not_mem_erase,
      hg.valid.not_mem_removed hmember⟩, rfl⟩

/-! ### All other ids -/

/-- Whether an id has the same place in two groups. -/
structure Alongside (g h : Group) (y : MemberId) : Prop where
  members : y ∈ h.members ↔ y ∈ g.members
  admins : y ∈ h.admins ↔ y ∈ g.admins
  removed : y ∈ h.removed ↔ y ∈ g.removed

theorem Step.alongside (hstep : g.Step command outcome) (habout : command.about ≠ some y) :
    g.Alongside outcome.group y := by
  have hne {x : MemberId} (h : command.about = some x) : y ≠ x := fun heq => habout (heq ▸ h)
  cases hstep with
  | came | left | marked | cleared | promoted | demoted =>
    constructor <;> simp [hne rfl]
  | _ => exact ⟨.rfl, .rfl, .rfl⟩

theorem Alongside.stands (halong : g.Alongside h y) (hy : g.Stands y status) :
    h.Stands y status := by
  rw [stands_iff] at hy ⊢
  rwa [halong.members, halong.admins, halong.removed]

end Group

end Roster
