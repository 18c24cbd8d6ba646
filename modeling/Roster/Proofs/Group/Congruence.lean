import Roster.Proofs.Group.Observation
import Roster.Proofs.Group.Standing

/-!
# Equal groups go on alike

Equality sees who is a member and who is an admin, but not who is kept as removed. The table of
statuses needs no more than that: from two statuses that look the same a command leads to two that
look the same, and says the same unless it is asked to forget a removed id. So the same commands
keep two groups equal wherever the table describes what commands do. Elsewhere they need not: of an
id that one list names twice and the other once, a removal takes one entry out of either.
-/

namespace Roster

/-- Whether two replies to a command agree. Only whether a removed id was kept may differ. -/
inductive Command.Agree : Command → Except Refusal Reply → Except Refusal Reply → Prop
  | same (command : Command) (reply : Except Refusal Reply) : Agree command reply reply
  | cleared (x : MemberId) (kept kept' : Bool) :
      Agree (.clearRemoved x) (.ok (.changed kept)) (.ok (.changed kept'))

namespace Status

/-- Whether two statuses differ at most in whether the id is kept as removed. -/
structure LooksLike (s t : Status) : Prop where
  isMember : s.isMember = t.isMember
  isAdmin : s.isAdmin = t.isAdmin

variable {s t u : Status}

theorem LooksLike.refl (s : Status) : s.LooksLike s := ⟨rfl, rfl⟩

theorem LooksLike.symm (hst : s.LooksLike t) : t.LooksLike s :=
  ⟨hst.isMember.symm, hst.isAdmin.symm⟩

theorem LooksLike.trans (hst : s.LooksLike t) (htu : t.LooksLike u) : s.LooksLike u :=
  ⟨hst.isMember.trans htu.isMember, hst.isAdmin.trans htu.isAdmin⟩

/-- Forgetting a removed id is not seen. -/
theorem looksLike_clearRemoved (x : MemberId) (s : Status) :
    (turn (.clearRemoved x) s).status.LooksLike s := by
  cases s <;> exact ⟨rfl, rfl⟩

theorem reply_clearRemoved (x : MemberId) (s : Status) :
    (turn (.clearRemoved x) s).reply = .ok (.changed s.isRemoved) := by
  cases s <;> rfl

theorem LooksLike.turn (hst : s.LooksLike t) (command : Command) :
    (turn command s).status.LooksLike (turn command t).status ∧
      command.Agree (turn command s).reply (turn command t).reply := by
  cases command with
  | setName | setAvatar | rotateId => exact ⟨hst, .same _ _⟩
  | addMember x =>
    rw [turn_addMember, turn_addMember, hst.isMember]
    split
    · exact ⟨hst, .same _ _⟩
    · exact ⟨.refl _, .same _ _⟩
  | removeMember x =>
    rw [turn_removeMember, turn_removeMember, hst.isMember]
    split
    · exact ⟨.refl _, .same _ _⟩
    · exact ⟨hst, .same _ _⟩
  | markRemoved x =>
    rw [turn_markRemoved, turn_markRemoved, hst.isMember]
    split
    · exact ⟨.refl _, .same _ _⟩
    · exact ⟨hst, .same _ _⟩
  | clearRemoved x =>
    have hs : (Status.turn (.clearRemoved x) s).status.LooksLike s := looksLike_clearRemoved x s
    have ht : (Status.turn (.clearRemoved x) t).status.LooksLike t := looksLike_clearRemoved x t
    rw [reply_clearRemoved, reply_clearRemoved]
    exact ⟨hs.trans (hst.trans ht.symm), .cleared x _ _⟩
  | promote x =>
    rw [turn_promote, turn_promote, hst.isMember, hst.isAdmin]
    split
    · split
      · exact ⟨hst, .same _ _⟩
      · exact ⟨.refl _, .same _ _⟩
    · exact ⟨hst, .same _ _⟩
  | demote x =>
    rw [turn_demote, turn_demote, hst.isAdmin]
    split
    · exact ⟨.refl _, .same _ _⟩
    · exact ⟨hst, .same _ _⟩

end Status

namespace Standing

variable {standing other : Standing}

theorem looksLike_next (hlook : ∀ x, (standing x).LooksLike (other x)) (command : Command)
    (x : MemberId) : (standing.next command x).LooksLike (other.next command x) := by
  by_cases habout : command.about = some x
  · rw [next_of_about habout, next_of_about habout]
    exact ((hlook x).turn command).1
  · rw [next_of_about_ne habout, next_of_about_ne habout]
    exact hlook x

theorem agree_reply (hlook : ∀ x, (standing x).LooksLike (other x)) (command : Command) :
    command.Agree (standing.reply command) (other.reply command) := by
  cases habout : command.about with
  | none =>
    rw [reply, reply, habout]
    exact .same _ _
  | some x =>
    rw [reply_of_about habout, reply_of_about habout]
    exact ((hlook x).turn command).2

end Standing

namespace Group

variable {g h : Group} {x : MemberId} {command : Command} {outcome : Outcome}

theorem Alike.looksLike (hgh : g.Alike h) (hg : g.Valid) (hh : h.Valid) (x : MemberId) :
    (g.status x).LooksLike (h.status x) := by
  have hgx : g.Stands x (g.status x) := hg.stands x
  have hhx : h.Stands x (h.status x) := hh.stands x
  constructor
  · rw [← hgx.member, ← hhx.member]
    exact hgh.isMember x
  · rw [← hgx.admin, ← hhx.admin]
    exact hgh.isAdmin x

/-- A command about an id changes nothing but the lists, and records nothing. -/
theorem Step.labels (hstep : g.Step command outcome) (habout : command.about = some x) :
    outcome.group.id = g.id ∧ outcome.group.name = g.name ∧ outcome.group.kind = g.kind ∧
      outcome.group.avatar = g.avatar ∧ outcome.events = [] := by
  cases hstep with
  | named | pictured | rotated => cases habout
  | _ => exact ⟨rfl, rfl, rfl, rfl, rfl⟩

/-- What one command does to two groups that are alike, apart from the lists. -/
theorem Alike.labels_run (hgh : g.Alike h) (command : Command) :
    (command.run g).group.id = (command.run h).group.id ∧
      (command.run g).group.name = (command.run h).group.name ∧
      (command.run g).group.kind = (command.run h).group.kind ∧
      (command.run g).group.avatar = (command.run h).group.avatar ∧
      (command.run g).events = (command.run h).events := by
  cases habout : command.about with
  | none =>
    cases command with
    | setName name => exact ⟨hgh.id, rfl, hgh.kind, hgh.avatar, rfl⟩
    | setAvatar avatar => exact ⟨hgh.id, hgh.name, hgh.kind, rfl, rfl⟩
    | rotateId id =>
      refine ⟨rfl, hgh.name, hgh.kind, hgh.avatar, ?_⟩
      change [Event.idRotated g.id id] = [Event.idRotated h.id id]
      rw [hgh.id]
    | _ => cases habout
  | some x =>
    obtain ⟨hid, hname, hkind, havatar, hevents⟩ := (g.step_run command).labels habout
    obtain ⟨hid', hname', hkind', havatar', hevents'⟩ := (h.step_run command).labels habout
    rw [hid, hname, hkind, havatar, hevents, hid', hname', hkind', havatar', hevents']
    exact ⟨hgh.id, hgh.name, hgh.kind, hgh.avatar, rfl⟩

/-- What one command keeps. -/
theorem Alike.run (hgh : g.Alike h) (hg : g.Orderly) (hh : h.Orderly) (command : Command) :
    (command.run g).group.Alike (command.run h).group := by
  have hlook : ∀ x,
      ((command.run g).group.status x).LooksLike ((command.run h).group.status x) := by
    intro x
    rw [hg.status_run, hh.status_run]
    exact Standing.looksLike_next (hgh.looksLike hg.valid hh.valid) command x
  have hgx : ∀ x, (command.run g).group.Stands x _ := (hg.run command).valid.stands
  have hhx : ∀ x, (command.run h).group.Stands x _ := (hh.run command).valid.stands
  obtain ⟨hid, hname, hkind, havatar, -⟩ := hgh.labels_run command
  refine ⟨hid, hname, hkind, havatar, fun x => ?_, fun x => ?_⟩
  · rw [(hgx x).member, (hhx x).member]
    exact (hlook x).isMember
  · rw [(hgx x).admin, (hhx x).admin]
    exact (hlook x).isAdmin

theorem Alike.agree_reply (hgh : g.Alike h) (hg : g.Orderly) (hh : h.Orderly)
    (command : Command) : command.Agree (command.run g).reply (command.run h).reply := by
  rw [hg.reply_run, hh.reply_run]
  exact Standing.agree_reply (hgh.looksLike hg.valid hh.valid) command

/-- Who is listed twice in one of two equal groups is still there after a removal. -/
example :
    let twice := create none ["ann", "ann"] none .zero .signal
    let once := create none ["ann"] none .zero .signal
    (twice == once) = true ∧
      ((twice.removeMember "ann").group == (once.removeMember "ann").group) = false := by
  decide

/-- What a run of commands keeps. -/
theorem Alike.after (hgh : g.Alike h) (hg : g.Orderly) (hh : h.Orderly)
    (commands : List Command) : (g.after commands).Alike (h.after commands) := by
  induction commands generalizing g h with
  | nil => exact hgh
  | cons command rest ih => exact ih (hgh.run hg hh command) (hg.run command) (hh.run command)

end Group

end Roster
