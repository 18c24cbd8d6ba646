import Roster.Proofs.Group.History

/-!
# Refused commands

A command is refused exactly where its member does not stand as it asks: who is added must not be a
member, who is removed, marked or promoted must be one, and who is demoted must be an admin. This
holds whether or not the lists of the group fit together. A command that is refused, or that says
that it changed nothing, leaves every field as it was, so a run ends in the same group without the
commands of this kind in it.
-/

namespace Roster

/-- The command, if what it said shows that it was carried out and changed something. -/
def effect? : Command × Except Refusal Reply → Option Command
  | (command, .ok .done) => some command
  | (command, .ok (.changed true)) => some command
  | _ => none

namespace Group

/-- Which commands are refused, and why. -/
inductive Refuses (g : Group) : Command → Refusal → Prop
  | known {x : MemberId} (hx : g.isMember x = true) : Refuses g (.addMember x) (.alreadyMember x)
  | notLeft {x : MemberId} (hx : g.isMember x = false) : Refuses g (.removeMember x) (.notMember x)
  | notMarked {x : MemberId} (hx : g.isMember x = false) : Refuses g (.markRemoved x) (.notMember x)
  | notPromoted {x : MemberId} (hx : g.isMember x = false) : Refuses g (.promote x) (.notMember x)
  | notDemoted {x : MemberId} (hx : g.isAdmin x = false) : Refuses g (.demote x) (.notAdmin x)

/-- The commands of a run that changed something. -/
def effective (g : Group) (commands : List Command) : List Command :=
  (g.history commands).filterMap effect?

variable {g : Group} {x : MemberId} {command : Command} {outcome : Outcome} {refusal : Refusal}

theorem isMember_eq_false_iff : g.isMember x = false ↔ x ∉ g.members := by
  rw [← Bool.not_eq_true, isMember_iff]

theorem isAdmin_eq_false_iff : g.isAdmin x = false ↔ x ∉ g.admins := by
  rw [← Bool.not_eq_true, isAdmin_iff]

/-! ### One command -/

theorem Step.refuses (hstep : g.Step command outcome) (hreply : outcome.reply = .error refusal) :
    g.Refuses command refusal := by
  cases hstep with
  | known hx =>
    cases hreply
    exact .known (isMember_iff.2 hx)
  | notLeft hx =>
    cases hreply
    exact .notLeft (isMember_eq_false_iff.2 hx)
  | notMarked hx =>
    cases hreply
    exact .notMarked (isMember_eq_false_iff.2 hx)
  | notPromoted hx =>
    cases hreply
    exact .notPromoted (isMember_eq_false_iff.2 hx)
  | notDemoted hx =>
    cases hreply
    exact .notDemoted (isAdmin_eq_false_iff.2 hx)
  | _ => cases hreply

theorem Refuses.reply_eq (hrefuses : g.Refuses command refusal) :
    (command.run g).reply = .error refusal := by
  cases hrefuses with
  | known hx =>
    rw [Command.run, addMember_of_mem (isMember_iff.1 hx)]
    rfl
  | notLeft hx =>
    rw [Command.run, removeMember_of_not_mem (isMember_eq_false_iff.1 hx)]
    rfl
  | notMarked hx =>
    rw [Command.run, markRemoved_of_not_mem (isMember_eq_false_iff.1 hx)]
    rfl
  | notPromoted hx =>
    rw [Command.run, promote_of_not_mem (isMember_eq_false_iff.1 hx)]
    rfl
  | notDemoted hx =>
    rw [Command.run, demote_of_not_mem (isAdmin_eq_false_iff.1 hx)]
    rfl

theorem reply_eq_error_iff_refuses :
    (command.run g).reply = .error refusal ↔ g.Refuses command refusal :=
  ⟨(g.step_run command).refuses, Refuses.reply_eq⟩

/-- A command that changed something, or one that was idle. -/
theorem effect?_cases (command : Command) (outcome : Outcome) :
    effect? (command, outcome.reply) = some command ∨
      effect? (command, outcome.reply) = none ∧ outcome.Idle := by
  cases hreply : outcome.reply with
  | error refusal => exact .inr ⟨rfl, .inl ⟨refusal, hreply⟩⟩
  | ok reply =>
    cases reply with
    | done => exact .inl rfl
    | changed whether =>
      cases whether with
      | true => exact .inl rfl
      | false => exact .inr ⟨rfl, .inr hreply⟩

theorem run_eq_of_idle (hidle : (command.run g).Idle) :
    (command.run g).group = g ∧ (command.run g).events = [] := by
  have hstep := g.step_run command
  refine ⟨hstep.group_eq_of_idle hidle, ?_⟩
  generalize command.run g = outcome at hidle hstep
  cases hstep with
  | rotated => rcases hidle with ⟨_, hreply⟩ | hreply <;> cases hreply
  | _ => rfl

/-! ### Runs -/

theorem effective_cons_of_some (heffect : effect? (command, (command.run g).reply) = some command)
    (rest : List Command) :
    g.effective (command :: rest) = command :: (command.run g).group.effective rest := by
  rw [effective, history, List.filterMap_cons_some heffect]
  rfl

theorem effective_cons_of_idle (hnone : effect? (command, (command.run g).reply) = none)
    (hidle : (command.run g).Idle) (rest : List Command) :
    g.effective (command :: rest) = g.effective rest := by
  rw [effective, history, List.filterMap_cons_none hnone, (run_eq_of_idle hidle).1]
  rfl

theorem after_effective (g : Group) (commands : List Command) :
    g.after (g.effective commands) = g.after commands := by
  induction commands generalizing g with
  | nil => rfl
  | cons command rest ih =>
    rcases effect?_cases command (command.run g) with heffect | ⟨hnone, hidle⟩
    · rw [effective_cons_of_some heffect, after_cons, after_cons, ih]
    · rw [effective_cons_of_idle hnone hidle, after_cons, (run_eq_of_idle hidle).1, ih]

/-- What is left of a run says what it said before. -/
theorem history_effective (g : Group) (commands : List Command) :
    g.history (g.effective commands)
      = (g.history commands).filter fun entry => (effect? entry).isSome := by
  induction commands generalizing g with
  | nil => rfl
  | cons command rest ih =>
    rcases effect?_cases command (command.run g) with heffect | ⟨hnone, hidle⟩
    · rw [effective_cons_of_some heffect, history, history, ih,
        List.filter_cons_of_pos (by rw [heffect]; rfl)]
    · rw [effective_cons_of_idle hnone hidle, history, (run_eq_of_idle hidle).1, ih,
        List.filter_cons_of_neg (by rw [hnone]; decide)]

/-- A command is refused exactly where its member does not stand as it asks, for that reason. One
that is refused, or that says that it changed nothing, changes no field and records nothing. So a
run without these commands ends in the same group, and the others say in it what they said
before. -/
theorem refuses_iff_and_keeps (g : Group) :
    (∀ (command : Command) refusal,
      (command.run g).reply = .error refusal ↔ g.Refuses command refusal) ∧
    (∀ command : Command, (command.run g).Idle →
      (command.run g).group = g ∧ (command.run g).events = []) ∧
    ∀ commands,
      g.after (g.effective commands) = g.after commands ∧
      g.history (g.effective commands)
        = (g.history commands).filter fun entry => (effect? entry).isSome :=
  ⟨fun _ _ => reply_eq_error_iff_refuses, fun _ => run_eq_of_idle,
    fun commands => ⟨g.after_effective commands, g.history_effective commands⟩⟩

/-- A group that breaks every rule: a member and an admin are listed twice, and the admin is none of
the members, one of whom is kept as removed. -/
def ruin : Group :=
  { create none ["ann", "ann"] none .zero .signal with
    admins := ["bob", "bob"]
    removed := .ofList ["ann"] }

theorem keeps_ruin :
    ruin.Refuses (.addMember "ann") (.alreadyMember "ann") ∧
      (Command.run ruin (.addMember "ann")).group = ruin ∧
      ruin.Refuses (.markRemoved "bob") (.notMember "bob") ∧
      (Command.run ruin (.markRemoved "bob")).group = ruin ∧
      ruin.Refuses (.demote "ann") (.notAdmin "ann") ∧
      (Command.run ruin (.demote "ann")).group = ruin ∧
      (Command.run ruin (.clearRemoved "bob")).reply = .ok (.changed false) ∧
      (Command.run ruin (.clearRemoved "bob")).group = ruin ∧
      ruin.after [.markRemoved "bob", .removeMember "ann", .addMember "ann", .promote "ann"]
        = ruin.after [.removeMember "ann", .promote "ann"] := by
  obtain ⟨hrefuses, hkeeps, hruns⟩ := refuses_iff_and_keeps ruin
  have hknown : ruin.Refuses (.addMember "ann") (.alreadyMember "ann") := .known (by decide)
  have hmissing : ruin.Refuses (.markRemoved "bob") (.notMember "bob") := .notMarked (by decide)
  have hplain : ruin.Refuses (.demote "ann") (.notAdmin "ann") := .notDemoted (by decide)
  have hclear : (Command.run ruin (.clearRemoved "bob")).reply = .ok (.changed false) := rfl
  refine ⟨hknown, (hkeeps _ (.inl ⟨_, (hrefuses _ _).2 hknown⟩)).1, hmissing,
    (hkeeps _ (.inl ⟨_, (hrefuses _ _).2 hmissing⟩)).1, hplain,
    (hkeeps _ (.inl ⟨_, (hrefuses _ _).2 hplain⟩)).1, hclear, (hkeeps _ (.inr hclear)).1, ?_⟩
  rw [← (hruns _).1]
  rfl

end Group

end Roster
