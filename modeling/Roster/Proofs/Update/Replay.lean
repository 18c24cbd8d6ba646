import Roster.Group.Equality
import Roster.Proofs.Group.Invariants
import Roster.Proofs.Group.Verdict
import Roster.Proofs.Update.Changes

/-!
# Replaying the updates

Every update asks for one command, which may be refused. Replayed on the older state in their order,
the updates between two valid states are all carried out. The additions come first: they append to
the members one by one, and what is left to append stays apart from what is there. Then the
removals take out members one by one, each with any admin role. Nobody becomes an admin on the way,
so the result differs from the newer state at most in its id, its kind, its admins and the order of
its members.
-/

namespace Roster

/-- The group that a command leaves behind, unless it is refused. -/
def Command.attempt (g : Group) (command : Command) : Except Refusal Group :=
  let outcome := command.run g
  outcome.reply.map fun _ => outcome.group

/-- The command that an update towards a newer state asks for. -/
def Update.command (newer : Group) : Update → Command
  | titleChanged title => .setName title
  | avatarChanged => .setAvatar newer.avatar
  | memberAdded member _ => .addMember member
  | memberRemoved member _ => .removeMember member

namespace Group

open Describer

/-- Carries out what updates ask for, up to the first refusal. -/
def replay (g newer : Group) (updates : List Update) : Except Refusal Group :=
  updates.foldlM (fun g update => (update.command newer).attempt g) g

variable {g h newer old new : Group} {update : Update} {updates : List Update} {xs : List MemberId}
  {x : MemberId} {names : MemberId → String}

/-! ### Steps and runs -/

theorem replay_cons (hstep : (update.command newer).attempt g = .ok h) :
    g.replay newer (update :: updates) = h.replay newer updates := by
  rw [replay, List.foldlM_cons, hstep]
  rfl

theorem replay_append {more : List Update} (hfirst : g.replay newer updates = .ok h) :
    g.replay newer (updates ++ more) = h.replay newer more := by
  rw [replay] at hfirst
  rw [replay, List.foldlM_append, hfirst]
  rfl

theorem Valid.attempt {command : Command} (hvalid : g.Valid) (hstep : command.attempt g = .ok h) :
    h.Valid := by
  have hrun : (command.run g).group.Valid := hvalid.run command
  rw [Command.attempt] at hstep
  cases hreply : (command.run g).reply with
  | ok reply =>
    rw [hreply] at hstep
    cases hstep
    exact hrun
  | error refusal =>
    rw [hreply] at hstep
    cases hstep

theorem Valid.replay (hvalid : g.Valid) (hreplay : g.replay newer updates = .ok h) : h.Valid := by
  induction updates generalizing g with
  | nil =>
    cases hreplay
    exact hvalid
  | cons update updates ih =>
    cases hstep : (update.command newer).attempt g with
    | ok middle =>
      rw [replay_cons hstep] at hreplay
      exact ih (hvalid.attempt hstep) hreplay
    | error refusal =>
      rw [Group.replay, List.foldlM_cons, hstep] at hreplay
      cases hreplay

/-! ### The four groups of updates -/

theorem replay_titleUpdate :
    old.replay newer (titleUpdate old new) = .ok (old.setName new.name) := by
  by_cases hname : old.name = new.name
  · rw [titleUpdate, if_pos hname, ← hname]
    rfl
  · rw [titleUpdate, if_neg hname]
    rfl

theorem replay_avatarUpdate (hsame : g.avatar = old.avatar) :
    g.replay new (avatarUpdate old new) = .ok (g.setAvatar new.avatar) := by
  by_cases havatar : old.avatar = new.avatar
  · rw [avatarUpdate, if_pos havatar, ← havatar, ← hsame]
    rfl
  · rw [avatarUpdate, if_neg havatar]
    rfl

theorem attempt_addMember (hx : x ∉ g.members) :
    (Command.addMember x).attempt g
      = .ok { g with members := g.members ++ [x], removed := g.removed.erase x } := by
  rw [Command.attempt, Command.run, addMember_of_not_mem hx]
  rfl

theorem attempt_removeMember (hx : x ∈ g.members) :
    (Command.removeMember x).attempt g
      = .ok { g with members := g.members.erase x, admins := g.admins.filter (· ≠ x) } := by
  rw [Command.attempt, Command.run, removeMember_of_mem hx]
  rfl

/-- Ids that are listed once and are no members are appended, and no longer kept as removed. -/
theorem replay_added (hxs : xs.Nodup) (hapart : ∀ x ∈ xs, x ∉ g.members) :
    g.replay newer (xs.map fun x => .memberAdded x (names x))
      = .ok { g with
          members := g.members ++ xs
          removed := xs.foldl MemberSet.erase g.removed } := by
  induction xs generalizing g with
  | nil =>
    rw [List.append_nil]
    rfl
  | cons x xs ih =>
    obtain ⟨hx, hxs⟩ := List.nodup_cons.1 hxs
    have hrest : ∀ y ∈ xs, y ∉ g.members ++ [x] := by
      intro y hy hmem
      rcases List.mem_append.1 hmem with hmem | hmem
      · exact hapart y (List.mem_cons_of_mem x hy) hmem
      · exact hx (List.mem_singleton.1 hmem ▸ hy)
    rw [List.map_cons, replay_cons (attempt_addMember (hapart x List.mem_cons_self)),
      ih hxs hrest, List.append_assoc, List.singleton_append, List.foldl_cons]

theorem filter_ne_filter_not_mem (ys : List MemberId) :
    (ys.filter (· ≠ x)).filter (· ∉ xs) = ys.filter (· ∉ x :: xs) := by
  rw [List.filter_filter]
  apply List.filter_congr
  intro y _
  rw [← Bool.decide_and]
  apply decide_eq_decide.2
  rw [List.mem_cons, not_or, and_comm]

/-- Members that are listed once are taken out, with their admin roles. -/
theorem replay_removed (hmembers : g.members.Nodup) (hxs : xs.Nodup)
    (hlisted : ∀ x ∈ xs, x ∈ g.members) :
    g.replay newer (xs.map fun x => .memberRemoved x (names x))
      = .ok { g with
          members := g.members.filter (· ∉ xs)
          admins := g.admins.filter (· ∉ xs) } := by
  induction xs generalizing g with
  | nil =>
    simp only [List.not_mem_nil, not_false_eq_true, decide_true, List.filter_true]
    rfl
  | cons x xs ih =>
    obtain ⟨hx, hxs⟩ := List.nodup_cons.1 hxs
    have hrest : ∀ y ∈ xs, y ∈ g.members.erase x := by
      intro y hy
      have hne : y ≠ x := fun heq => hx (heq ▸ hy)
      exact (List.mem_erase_of_ne hne).2 (hlisted y (List.mem_cons_of_mem x hy))
    rw [List.map_cons, replay_cons (attempt_removeMember (hlisted x List.mem_cons_self)),
      ih (hmembers.erase x) hxs hrest]
    show Except.ok { g with
        members := (g.members.erase x).filter (· ∉ xs)
        admins := (g.admins.filter (· ≠ x)).filter (· ∉ xs) } = _
    rw [erase_eq_filter_ne hmembers, filter_ne_filter_not_mem, filter_ne_filter_not_mem]

/-! ### All updates -/

/-- Before the removals, everybody of the older state is still there. -/
theorem replay_additions (d : Describer) (hnew : new.members.Nodup) :
    old.replay new (titleUpdate old new ++ avatarUpdate old new ++ d.additions old new)
      = .ok { old with
          name := new.name
          avatar := new.avatar
          members := old.members ++ missingFrom old new.members
          removed := (missingFrom old new.members).foldl MemberSet.erase old.removed } := by
  have hnamed : old.replay new (titleUpdate old new ++ avatarUpdate old new)
      = .ok ((old.setName new.name).setAvatar new.avatar) := by
    rw [replay_append replay_titleUpdate]
    exact replay_avatarUpdate rfl
  rw [replay_append hnamed]
  exact replay_added (missingFrom_nodup hnew) fun x hx => not_mem_of_came hx

/-- All the updates are carried out, and this is where they lead. -/
theorem replay_changes (d : Describer) (hold : old.Valid) (hnew : new.Valid) :
    old.replay new (d.changes old new).value
      = .ok { old with
          name := new.name
          avatar := new.avatar
          members := old.members.filter new.isMember ++ missingFrom old new.members
          admins := old.admins.filter new.isMember
          removed := (missingFrom old new.members).foldl MemberSet.erase old.removed } := by
  have hmembers : (old.members ++ missingFrom old new.members).Nodup :=
    nodup_members_append_came hold.members_nodup hnew.members_nodup
  have hlisted : ∀ x ∈ missingFrom new old.members,
      x ∈ old.members ++ missingFrom old new.members := by
    intro x hx
    exact List.mem_append_left _ (mem_missingFrom.1 hx).1
  rw [changes_value, replay_append (replay_additions d hnew.members_nodup), removals,
    replay_removed hmembers (missingFrom_nodup hold.members_nodup) hlisted]
  show Except.ok { old with
      name := new.name
      avatar := new.avatar
      members := (old.members ++ missingFrom old new.members).filter
        (· ∉ missingFrom new old.members)
      admins := old.admins.filter (· ∉ missingFrom new old.members)
      removed := (missingFrom old new.members).foldl MemberSet.erase old.removed } = _
  rw [List.filter_append, filter_not_mem_missingFrom fun _ h => h, came_filter_not_left,
    filter_not_mem_missingFrom hold.admins_subset]

/-- The updates between two valid states rebuild the newer one from the older, but for its id, its
kind, its admins and the order of its members. -/
theorem exists_replay_changes (d : Describer) (hold : old.validate.value = .ok ())
    (hnew : new.validate.value = .ok ()) :
    ∃ r, old.replay new (d.changes old new).value = .ok r ∧ r.validate.value = .ok () ∧
      r.id = old.id ∧ r.kind = old.kind ∧ r.name = new.name ∧ r.avatar = new.avatar ∧
      r.members = old.members.filter new.isMember ++ new.members.filter (fun x => !old.isMember x) ∧
      r.admins = old.admins.filter new.isMember ∧
      (d.changes r new).value = [] ∧
      ((r == new) = true ↔
        old.id = new.id ∧ old.kind = new.kind ∧ ∀ x, x ∈ r.admins ↔ x ∈ new.admins) := by
  have hvalid : old.Valid := validate_value_eq_ok_iff.1 hold
  have hreplay := replay_changes d hvalid (validate_value_eq_ok_iff.1 hnew)
  have hsame : ∀ x, x ∈ old.members.filter new.isMember ++ missingFrom old new.members ↔
      x ∈ new.members := fun _ => mem_stayed_append_came
  refine ⟨_, hreplay, validate_value_eq_ok_iff.2 (hvalid.replay hreplay), rfl, rfl, rfl, rfl, rfl,
    rfl, changes_value_eq_nil_iff.2 ⟨rfl, rfl, hsame⟩, ?_⟩
  rw [beq_eq_sameAs, sameAs_iff]
  constructor
  · rintro ⟨hid, -, hadmins, -, -, hkind⟩
    exact ⟨hid, hkind, hadmins⟩
  · rintro ⟨hid, hkind, hadmins⟩
    exact ⟨hid, hsame, hadmins, rfl, rfl, hkind⟩

/-- A group before an admin leaves, a removed member comes back and the picture appears. -/
def deskBefore : Group :=
  { create (some "Desk") ["ann", "bob", "cy"] none .zero .publicChat with
    admins := ["ann", "bob"]
    removed := .ofList ["dee"] }

/-- The group of `deskBefore` afterwards, in another order. -/
def deskAfter : Group :=
  { create none ["dee", "cy", "ann"] (some ⟨[1]⟩) .zero .publicChat with admins := ["ann"] }

theorem replay_deskBefore :
    deskBefore.validate.value = .ok () ∧ deskAfter.validate.value = .ok () ∧
      ∃ r, deskBefore.replay deskAfter (Describer.changes ⟨.raw, none⟩ deskBefore deskAfter).value
          = .ok r ∧
        r.members = ["ann", "cy", "dee"] ∧ r.admins = ["ann"] ∧ (r == deskAfter) = true := by
  have hbefore : deskBefore.validate.value = .ok () := rfl
  have hafter : deskAfter.validate.value = .ok () := rfl
  obtain ⟨r, hreplay, -, -, -, -, -, hmembers, hadmins, -, hequal⟩ :=
    exists_replay_changes ⟨.raw, none⟩ hbefore hafter
  have hleft : r.admins = ["ann"] := hadmins.trans (by decide)
  refine ⟨hbefore, hafter, r, hreplay, hmembers.trans (by decide), hleft, hequal.2 ⟨rfl, rfl, ?_⟩⟩
  intro x
  rw [hleft]
  rfl

end Group

end Roster
