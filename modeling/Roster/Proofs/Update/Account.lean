import Roster.Proofs.Group.Demotion
import Roster.Proofs.Group.History
import Roster.Proofs.Update.Difference

/-!
# Commands as updates

A command that is carried out is described as itself: who is added came, who is removed or marked
left, a new title or avatar is told if it is another one, and everything else a command can do is no
matter of updates, nor is a command that was refused. A removal takes out the first entry of a
member only, so it is seen if and only if the member was listed once, as everybody is in a valid
group.
-/

namespace Roster

/-! ### The passage of one member -/

section Passage

variable {x : MemberId} {before after : List MemberId} {arrival departure : Option MemberId}

theorem filter_not_contains_self (ids : List MemberId) :
    ids.filter (fun y => !ids.contains y) = [] := by
  apply List.filter_eq_nil_iff.2
  intro y hy
  simp [hy]

theorem filter_not_contains_erase (hx : before.count x = 1) :
    before.filter (fun y => !(before.erase x).contains y) = [x] := by
  -- `erase` takes out one entry, which is the only one of `x`, and every other id keeps its own.
  have honly : ∀ y ∈ before, (!(before.erase x).contains y) = decide (y = x) := by
    intro y hy
    by_cases heq : y = x
    · have hgone : x ∉ before.erase x := by
        rw [Group.mem_erase_self_iff, hx]
        decide
      simp [heq, hgone]
    · have hkept : y ∈ before.erase x := (List.mem_erase_of_ne heq).2 hy
      simp [heq, hkept]
  rw [List.filter_congr honly, List.filter_eq, hx]
  rfl

theorem Passage.of_departure (hpassage : Passage before arrival (some x) after) :
    x ∈ before ∧ after = before.erase x := by
  cases hpassage with
  | left hx => exact ⟨hx, rfl⟩

theorem Passage.filter_came (hpassage : Passage before arrival departure after) :
    after.filter (fun y => !before.contains y) = arrival.toList := by
  cases hpassage with
  | nobody => exact filter_not_contains_self before
  | came hx => rw [List.filter_append, filter_not_contains_self]; simp [hx]
  | left _ =>
    apply List.filter_eq_nil_iff.2
    intro y hy
    simp [List.mem_of_mem_erase hy]

theorem Passage.filter_left (hpassage : Passage before arrival departure after)
    (honce : ∀ x ∈ departure, before.count x = 1) :
    before.filter (fun y => !after.contains y) = departure.toList := by
  cases hpassage with
  | nobody => exact filter_not_contains_self before
  | came _ =>
    apply List.filter_eq_nil_iff.2
    intro y hy
    simp [hy]
  | left _ => exact filter_not_contains_erase (honce _ rfl)

end Passage

namespace Describer

/-- The updates that tell of a command, given what it said. -/
def account (d : Describer) (g : Group) : Command → Except Refusal Reply → List Update
  | _, .error _ => []
  | .setName name, .ok _ => if g.name = name then [] else [.titleChanged name]
  | .setAvatar avatar, .ok _ => if g.avatar = avatar then [] else [.avatarChanged]
  | .addMember x, .ok _ => [.memberAdded x (d.resolve x).value]
  | .removeMember x, .ok _ | .markRemoved x, .ok _ => [.memberRemoved x (d.resolve x).value]
  | .rotateId _, .ok _ | .clearRemoved _, .ok _ | .promote _, .ok _ | .demote _, .ok _ => []

variable {d : Describer} {g : Group} {x : MemberId} {command : Command} {outcome : Outcome}

/-- The account of a command by the four parts that updates have. -/
theorem account_eq_of_step (hstep : g.Step command outcome) :
    d.account g command outcome.reply
      = titleUpdate g outcome.group ++ avatarUpdate g outcome.group ++
          (arrival? (command, outcome.reply)).toList.map
            (fun x => .memberAdded x (d.resolve x).value) ++
          (departure? (command, outcome.reply)).toList.map
            fun x => .memberRemoved x (d.resolve x).value := by
  cases hstep <;> simp [account, titleUpdate, avatarUpdate, arrival?, departure?]

theorem changes_of_step (hstep : g.Step command outcome)
    (honce : ∀ x ∈ departure? (command, outcome.reply), g.members.count x = 1) :
    (d.changes g outcome.group).value = d.account g command outcome.reply := by
  have hcame : missingFrom g outcome.group.members
      = (arrival? (command, outcome.reply)).toList := hstep.passage.filter_came
  have hleft : missingFrom outcome.group g.members
      = (departure? (command, outcome.reply)).toList := hstep.passage.filter_left honce
  rw [account_eq_of_step hstep, changes_value, additions, removals, hcame, hleft]

theorem of_mem_departure (hstep : g.Step command outcome)
    (hx : x ∈ departure? (command, outcome.reply)) :
    x ∈ g.members ∧ outcome.group.members = g.members.erase x := by
  have hpassage := hstep.passage
  rw [hx] at hpassage
  exact hpassage.of_departure

/-- A removal that is seen leaves no entry of the member behind. -/
theorem count_eq_one_of_changes_of_step (hstep : g.Step command outcome)
    (hchanges : (d.changes g outcome.group).value = d.account g command outcome.reply)
    (hx : x ∈ departure? (command, outcome.reply)) : g.members.count x = 1 := by
  have hremoved : .memberRemoved x (d.resolve x).value ∈ (d.changes g outcome.group).value := by
    rw [hchanges, account_eq_of_step hstep, hx]
    exact List.mem_append_right _ List.mem_cons_self
  obtain ⟨⟨hmember, hgone⟩, -⟩ := memberRemoved_mem_changes_iff.1 hremoved
  have hlisted : 0 < g.members.count x := List.count_pos_iff.2 hmember
  rw [(of_mem_departure hstep hx).2, Group.mem_erase_self_iff] at hgone
  omega

theorem changes_run_iff (d : Describer) (g : Group) (command : Command) :
    (d.changes g (command.run g).group).value = d.account g command (command.run g).reply ↔
      ∀ x ∈ departure? (command, (command.run g).reply), g.members.count x = 1 :=
  ⟨fun hchanges _ => count_eq_one_of_changes_of_step (g.step_run command) hchanges,
    changes_of_step (g.step_run command)⟩

/-- In a valid group every command is described as itself. In any group this is so exactly when
whoever the command took out was listed once. -/
theorem changes_run_eq_account (d : Describer) (g : Group) :
    (g.validate.value = .ok () → ∀ command : Command,
      (d.changes g (command.run g).group).value = d.account g command (command.run g).reply) ∧
    ∀ command : Command,
      ((d.changes g (command.run g).group).value = d.account g command (command.run g).reply ↔
        ∀ x ∈ departure? (command, (command.run g).reply), g.members.count x = 1) := by
  refine ⟨fun hvalid command => (changes_run_iff d g command).2 fun x hx => ?_, ?_⟩
  · have hnodup : g.members.Nodup := (Group.validate_value_eq_ok_iff.1 hvalid).members_nodup
    exact List.count_eq_one_of_mem hnodup (of_mem_departure (g.step_run command) hx).1
  · exact changes_run_iff d g

/-- A group with an admin who can leave and a removed member who can come back. -/
def workshop : Group :=
  { Group.create (some "Workshop") ["ann", "bob"] none .zero .signal with
    admins := ["ann"]
    removed := .ofList ["cy"] }

/-- A group that was created with one of its members listed twice. -/
def workshopTwice : Group := .create none ["ann", "bob", "ann"] none .zero .signal

theorem changes_run_workshop :
    workshop.validate.value = .ok () ∧
      (changes ⟨.raw, none⟩ workshop ((Command.addMember "cy").run workshop).group).value
        = [.memberAdded "cy" "cy"] ∧
      (changes ⟨.raw, none⟩ workshop ((Command.markRemoved "ann").run workshop).group).value
        = [.memberRemoved "ann" "ann"] ∧
      (changes ⟨.raw, none⟩ workshop ((Command.promote "dee").run workshop).group).value = [] ∧
      (changes ⟨.raw, none⟩ workshopTwice
        ((Command.removeMember "ann").run workshopTwice).group).value
        ≠ account ⟨.raw, none⟩ workshopTwice (.removeMember "ann") (.ok .done) := by
  have hvalid : workshop.validate.value = .ok () := by decide
  obtain ⟨hcommands, -⟩ := changes_run_eq_account ⟨.raw, none⟩ workshop
  obtain ⟨-, hiff⟩ := changes_run_eq_account ⟨.raw, none⟩ workshopTwice
  refine ⟨hvalid, hcommands hvalid _, hcommands hvalid _, hcommands hvalid _, fun hchanges => ?_⟩
  have honce : workshopTwice.members.count "ann" = 1 :=
    (hiff (.removeMember "ann")).1 hchanges "ann" rfl
  exact absurd honce (by decide)

end Describer

end Roster
