import Mathlib.Logic.Function.Basic
import Roster.Proofs.Group.Status

/-!
# Runs as runs of statuses

One status for each id is all that the commands on the lists of a group depend on. Moving the status
of the id that a command is about, and no other, gives the statuses after the command and its reply,
so a run of commands on a group is a run on the statuses. This holds for the groups that commands
make of a group without repeated members, which are just the valid ones that list each admin once:
promotions build the admins, and whoever is added and marked is kept as removed.
-/

namespace Roster

/-- Where every id stands. -/
abbrev Standing := MemberId → Status

namespace Standing

/-- One command moves the id it is about, and no other. -/
def next (standing : Standing) (command : Command) : Standing :=
  match command.about with
  | some x => Function.update standing x (Status.turn command (standing x)).status
  | none => standing

def reply (standing : Standing) (command : Command) : Except Refusal Reply :=
  match command.about with
  | some x => (Status.turn command (standing x)).reply
  | none => .ok .done

def after (standing : Standing) (commands : List Command) : Standing := commands.foldl next standing

/-- What the commands of a run say, in order. -/
def replies (standing : Standing) : List Command → List (Except Refusal Reply)
  | [] => []
  | command :: rest => standing.reply command :: replies (standing.next command) rest

variable {standing : Standing} {command : Command} {x : MemberId}

theorem next_of_about (habout : command.about = some x) :
    standing.next command x = (Status.turn command (standing x)).status := by
  simp only [next, habout, Function.update_self]

theorem next_of_about_ne (habout : command.about ≠ some x) :
    standing.next command x = standing x := by
  cases hcase : command.about with
  | none => simp only [next, hcase]
  | some y =>
    have hne : x ≠ y := fun heq => habout (heq ▸ hcase)
    simp only [next, hcase, Function.update_of_ne hne]

theorem reply_of_about (habout : command.about = some x) :
    standing.reply command = (Status.turn command (standing x)).reply := by
  simp only [reply, habout]

end Standing

namespace Group

/-- What the commands of a run say, in order. -/
def replies (g : Group) : List Command → List (Except Refusal Reply)
  | [] => []
  | command :: rest => (command.run g).reply :: replies (command.run g).group rest

/-- The groups that commands make of a group without repeated members. -/
inductive Built : Group → Prop
  | created {name : Option String} {members : List MemberId} {avatar : Option Avatar} {id : GroupId}
      {kind : GroupKind} (hmembers : members.Nodup) : Built (create name members avatar id kind)
  | run {g : Group} (hg : Built g) (command : Command) : Built (command.run g).group

variable {g : Group} {xs : List MemberId}

/-! ### Steps and runs -/

theorem Orderly.run (hg : g.Orderly) (command : Command) : (command.run g).group.Orderly :=
  (hg.valid.run command).orderly ((g.effect_run command).nodup_admins hg.admins_nodup)

theorem Orderly.status_run (hg : g.Orderly) (command : Command) :
    (command.run g).group.status = Standing.next g.status command := by
  funext y
  have hy : g.Stands y (g.status y) := hg.valid.stands y
  by_cases habout : command.about = some y
  · rw [Standing.next_of_about habout]
    exact ((g.step_run command).takes hg habout hy).stands.status_eq
  · rw [Standing.next_of_about_ne habout]
    exact (((g.step_run command).alongside habout).stands hy).status_eq

theorem Orderly.reply_run (hg : g.Orderly) (command : Command) :
    (command.run g).reply = Standing.reply g.status command := by
  cases habout : command.about with
  | none => cases command <;> first | rfl | cases habout
  | some x =>
    rw [Standing.reply_of_about habout]
    exact ((g.step_run command).takes hg habout (hg.valid.stands x)).reply

theorem Orderly.after (hg : g.Orderly) (commands : List Command) : (g.after commands).Orderly := by
  induction commands generalizing g with
  | nil => exact hg
  | cons command rest ih => exact ih (hg.run command)

theorem Orderly.status_after (hg : g.Orderly) (commands : List Command) :
    (g.after commands).status = Standing.after g.status commands := by
  induction commands generalizing g with
  | nil => rfl
  | cons command rest ih =>
    rw [after_cons, ih (hg.run command), hg.status_run]
    rfl

theorem Orderly.replies_eq (hg : g.Orderly) (commands : List Command) :
    g.replies commands = Standing.replies g.status commands := by
  induction commands generalizing g with
  | nil => rfl
  | cons command rest ih =>
    rw [Group.replies, Standing.replies, ih (hg.run command), hg.status_run, hg.reply_run]

/-! ### Which groups these are -/

theorem Built.after (hg : g.Built) (commands : List Command) : (g.after commands).Built := by
  induction commands generalizing g with
  | nil => exact hg
  | cons command rest ih => exact ih (hg.run command)

theorem Built.orderly (hg : g.Built) : g.Orderly := by
  induction hg with
  | created hmembers => exact (valid_create hmembers).orderly List.nodup_nil
  | run _ command ih => exact ih.run command

theorem after_promotions (hxs : xs.Nodup) (hmembers : ∀ x ∈ xs, x ∈ g.members)
    (hplain : ∀ x ∈ xs, x ∉ g.admins) :
    g.after (xs.map .promote) = { g with admins := g.admins ++ xs } := by
  induction xs generalizing g with
  | nil =>
    rw [List.append_nil]
    rfl
  | cons x xs ih =>
    obtain ⟨hx, hxs⟩ := List.nodup_cons.1 hxs
    have hrest : ∀ y ∈ xs, y ∉ g.admins ++ [x] := by
      intro y hy hadmin
      rcases List.mem_append.1 hadmin with hadmin | hadmin
      · exact hplain y (List.mem_cons_of_mem x hy) hadmin
      · exact hx (List.mem_singleton.1 hadmin ▸ hy)
    have hpromoted : ({ g with admins := g.admins ++ [x] } : Group).after (xs.map .promote)
        = { g with admins := g.admins ++ [x] ++ xs } :=
      ih hxs (fun y hy => hmembers y (List.mem_cons_of_mem x hy)) hrest
    rw [List.append_assoc, List.singleton_append] at hpromoted
    rw [List.map_cons, after_cons, Command.run,
      promote_of_member (hmembers x List.mem_cons_self) (hplain x List.mem_cons_self)]
    exact hpromoted

/-- Who is added and marked at once leaves no trace but the removed id. -/
theorem after_addMember_markRemoved {x : MemberId} (hmember : x ∉ g.members)
    (hadmin : x ∉ g.admins) :
    g.after [.addMember x, .markRemoved x] = { g with removed := g.removed.insert x } := by
  have hlast : x ∈ g.members ++ [x] := List.mem_concat_self
  have hadmins : g.admins.filter (· ≠ x) = g.admins := by
    apply List.filter_eq_self.2
    intro a ha
    exact decide_eq_true fun heq => hadmin (heq ▸ ha)
  rw [after_cons, Command.run, addMember_of_not_mem hmember]
  change Group.after
    { g with members := g.members ++ [x], removed := g.removed.erase x } [.markRemoved x] = _
  rw [after_cons, Command.run, markRemoved_of_mem hlast]
  change ({ g with
    members := (g.members ++ [x]).erase x
    admins := g.admins.filter (· ≠ x)
    removed := (g.removed.erase x).insert x } : Group) = _
  rw [List.erase_append_right _ hmember, List.erase_cons_head, List.append_nil, hadmins,
    MemberSet.insert_erase]

theorem after_markings (hmembers : ∀ x ∈ xs, x ∉ g.members) (hadmins : ∀ x ∈ xs, x ∉ g.admins) :
    g.after (xs.flatMap fun x => [.addMember x, .markRemoved x])
      = { g with removed := xs.foldl MemberSet.insert g.removed } := by
  induction xs generalizing g with
  | nil => rfl
  | cons x xs ih =>
    rw [List.flatMap_cons, after_append,
      after_addMember_markRemoved (hmembers x List.mem_cons_self) (hadmins x List.mem_cons_self)]
    exact ih (fun y hy => hmembers y (List.mem_cons_of_mem x hy))
      fun y hy => hadmins y (List.mem_cons_of_mem x hy)

theorem Orderly.built (hg : g.Orderly) : g.Built := by
  -- the bare members first, then the admins in their order, then whoever was removed
  let start : Group := create g.name g.members g.avatar g.id g.kind
  have hstart : start.Built := .created hg.valid.members_nodup
  have hpromoted : start.after (g.admins.map .promote) = { start with admins := g.admins } :=
    after_promotions hg.admins_nodup hg.valid.admins_subset fun _ _ => List.not_mem_nil
  have hmembers : ∀ x ∈ g.removed.ids, x ∉ g.members := hg.valid.removed_disjoint
  have hadmins : ∀ x ∈ g.removed.ids, x ∉ g.admins :=
    fun x hx => hg.valid.not_mem_admins (hmembers x hx)
  have hmarked : Group.after { start with admins := g.admins }
      (g.removed.ids.flatMap fun x => [.addMember x, .markRemoved x])
        = { g with removed := .ofList g.removed.ids } :=
    after_markings hmembers hadmins
  rw [MemberSet.ofList_ids, ← hpromoted] at hmarked
  have hbuilt := (hstart.after (g.admins.map .promote)).after
    (g.removed.ids.flatMap fun x => [.addMember x, .markRemoved x])
  rwa [hmarked] at hbuilt

/-- The groups that commands make of a group without repeated members are the valid ones that list
each admin once. In such a group every id has exactly one status, a command changes the status of
the id it is about as the table says and no other, replies as the table says, and leaves such a
group behind, the same one if it says that it did nothing. So every run of commands goes as the run
of the statuses goes, with the same replies. -/
theorem orderly_refines_standing (g : Group) :
    (g.Orderly ↔ g.Built) ∧
      (g.Orderly →
        (∀ x, g.Stands x (g.status x) ∧ ∀ status, g.Stands x status → status = g.status x) ∧
        (∀ command,
          (command.run g).group.Orderly ∧
          (command.run g).group.status = Standing.next g.status command ∧
          (command.run g).reply = Standing.reply g.status command ∧
          ((command.run g).Idle → (command.run g).group = g)) ∧
        ∀ commands,
          (g.after commands).Orderly ∧
          (g.after commands).status = Standing.after g.status commands ∧
          g.replies commands = Standing.replies g.status commands) := by
  refine ⟨⟨Orderly.built, Built.orderly⟩, fun hg => ⟨fun x => ?_, fun command => ?_, ?_⟩⟩
  · exact ⟨hg.valid.stands x, fun status hx => hx.status_eq.symm⟩
  · exact ⟨hg.run command, hg.status_run command, hg.reply_run command,
      (g.step_run command).group_eq_of_idle⟩
  · intro commands
    exact ⟨hg.after commands, hg.status_after commands, hg.replies_eq commands⟩

def council : Group :=
  { create none ["ann", "bob"] none .zero .signal with
    admins := ["ann"]
    removed := .ofList ["cy"] }

/-- A turn of fate for everybody in the council, and a stranger who gets nothing. -/
def upheaval : List Command :=
  [.demote "ann", .addMember "cy", .promote "cy", .markRemoved "bob", .promote "bob",
    .clearRemoved "dee"]

theorem standing_council_upheaval :
    council.Orderly ∧ (council.after upheaval).Orderly ∧
      ["ann", "bob", "cy", "dee"].map (council.after upheaval).status
        = [.member, .removed, .admin, .outside] ∧
      council.replies upheaval
        = [.ok .done, .ok .done, .ok (.changed true), .ok .done, .error (.notMember "bob"),
          .ok (.changed false)] := by
  have hcouncil : council.Orderly := ⟨by decide, by decide⟩
  obtain ⟨-, hrefines⟩ := orderly_refines_standing council
  obtain ⟨-, -, hruns⟩ := hrefines hcouncil
  obtain ⟨horderly, hstatus, hreplies⟩ := hruns upheaval
  rw [hstatus, hreplies]
  exact ⟨hcouncil, horderly, by decide, by decide⟩

end Group

end Roster
