import Mathlib.Data.List.Dedup
import Mathlib.Data.List.Induction
import Roster.Proofs.Group.Effects
import Roster.Proofs.Group.Invariants

/-!
# The order of the members

The members of a group stand in the order in which they came. After a run of commands this is the
order of the start for those who never left, and behind them the order of arrival for the others who
are members, where the last arrival counts: who leaves and comes back goes to the end. Commands that
were refused are no arrivals and no departures.
-/

namespace Roster

/-- The member whom a command brought, given what it said. -/
def arrival? : Command × Except Refusal Reply → Option MemberId
  | (.addMember x, .ok _) => some x
  | _ => none

/-- The member whom a command took out, given what it said. -/
def departure? : Command × Except Refusal Reply → Option MemberId
  | (.removeMember x, .ok _) => some x
  | (.markRemoved x, .ok _) => some x
  | _ => none

/-- How one command changes a list of members: nobody comes or leaves, or one member does. -/
inductive Passage (before : List MemberId) :
    Option MemberId → Option MemberId → List MemberId → Prop
  | nobody : Passage before none none before
  | came {x : MemberId} (hx : x ∉ before) : Passage before (some x) none (before ++ [x])
  | left {x : MemberId} (hx : x ∈ before) : Passage before none (some x) (before.erase x)

/-- Whether members stand in their order, given who was there at the start and who came and left
since: first those of the start who never left, then those who came, the last time they did. -/
def InOrder (start arrived gone members : List MemberId) : Prop :=
  members = start.filter (· ∉ gone) ++ arrived.dedup.filter members.contains

variable {x : MemberId} {ids start arrived gone before after : List MemberId}
  {arrival departure : Option MemberId}

/-! ### One passage -/

theorem dedup_concat : (ids ++ [x]).dedup = ids.dedup.filter (· ≠ x) ++ [x] := by
  induction ids with
  | nil => rfl
  | cons y ids ih =>
    by_cases hy : y ∈ ids
    · have hmem : y ∈ ids ++ [x] := List.mem_append_left [x] hy
      rw [List.cons_append, List.dedup_cons_of_mem hmem, List.dedup_cons_of_mem hy, ih]
    · by_cases heq : y = x
      · have hmem : y ∈ ids ++ [x] := List.mem_append_right ids (List.mem_singleton.2 heq)
        have hdrop : (y :: ids.dedup).filter (· ≠ x) = ids.dedup.filter (· ≠ x) :=
          List.filter_cons_of_neg (by simp [heq])
        rw [List.cons_append, List.dedup_cons_of_mem hmem, List.dedup_cons_of_notMem hy, ih, hdrop]
      · have hmem : y ∉ ids ++ [x] := by simp [hy, heq]
        have hkeep : (y :: ids.dedup).filter (· ≠ x) = y :: ids.dedup.filter (· ≠ x) :=
          List.filter_cons_of_pos (by simp [heq])
        rw [List.cons_append, List.dedup_cons_of_notMem hmem, List.dedup_cons_of_notMem hy, ih,
          hkeep, List.cons_append]

theorem InOrder.came (horder : InOrder start arrived gone before) (hx : x ∉ before) :
    InOrder start (arrived ++ [x]) gone (before ++ [x]) := by
  have hlast : (arrived ++ [x]).dedup.filter (before ++ [x]).contains
      = arrived.dedup.filter before.contains ++ [x] := by
    rw [dedup_concat, List.filter_append, List.filter_filter]
    congr 1
    · -- an earlier arrival of `x` does not count, and `x` was no member before this one
      apply List.filter_congr
      intro y _
      by_cases heq : y = x
      · simp [heq, hx]
      · simp [heq]
    · simp
  rw [InOrder, hlast, ← List.append_assoc, ← horder]

theorem InOrder.left (horder : InOrder start arrived gone before) (hbefore : before.Nodup) :
    InOrder start arrived (gone ++ [x]) (before.erase x) := by
  have hstayed : start.filter (· ∉ gone ++ [x]) = (start.filter (· ∉ gone)).filter (· ≠ x) := by
    rw [List.filter_filter]
    apply List.filter_congr
    intro y _
    simp [and_comm]
  have hothers : arrived.dedup.filter (before.filter (· ≠ x)).contains
      = (arrived.dedup.filter before.contains).filter (· ≠ x) := by
    rw [List.filter_filter]
    apply List.filter_congr
    intro y _
    simp [and_comm]
  rw [InOrder, Group.erase_eq_filter_ne hbefore, hstayed, hothers, ← List.filter_append, ← horder]

theorem Passage.inOrder (hpassage : Passage before arrival departure after)
    (horder : InOrder start arrived gone before) (hbefore : before.Nodup) :
    InOrder start (arrived ++ arrival.toList) (gone ++ departure.toList) after := by
  cases hpassage with
  | nobody =>
    rw [Option.toList_none, List.append_nil, List.append_nil]
    exact horder
  | came hx =>
    rw [Option.toList_some, Option.toList_none, List.append_nil]
    exact horder.came hx
  | left _ =>
    rw [Option.toList_some, Option.toList_none, List.append_nil]
    exact horder.left hbefore

namespace Group

variable {g : Group} {command : Command} {outcome : Outcome} {commands : List Command}

/-- The commands of a run with what they said. -/
def history (g : Group) : List Command → List (Command × Except Refusal Reply)
  | [] => []
  | command :: rest => (command, (command.run g).reply) :: history (command.run g).group rest

/-- Who came in a run, once for each time. -/
def arrivals (g : Group) (commands : List Command) : List MemberId :=
  (g.history commands).filterMap arrival?

/-- Who left in a run, once for each time. -/
def departures (g : Group) (commands : List Command) : List MemberId :=
  (g.history commands).filterMap departure?

theorem history_concat (g : Group) (commands : List Command) (command : Command) :
    g.history (commands ++ [command])
      = g.history commands ++ [(command, (command.run (g.after commands)).reply)] := by
  induction commands generalizing g with
  | nil => rfl
  | cons first rest ih => rw [List.cons_append, history, history, ih, List.cons_append, after_cons]

theorem arrivals_concat (g : Group) (commands : List Command) (command : Command) :
    g.arrivals (commands ++ [command]) = g.arrivals commands ++
      (arrival? (command, (command.run (g.after commands)).reply)).toList := by
  rw [arrivals, history_concat, List.filterMap_append, List.filterMap_cons, List.filterMap_nil]
  cases arrival? (command, (command.run (g.after commands)).reply) <;> rfl

theorem departures_concat (g : Group) (commands : List Command) (command : Command) :
    g.departures (commands ++ [command]) = g.departures commands ++
      (departure? (command, (command.run (g.after commands)).reply)).toList := by
  rw [departures, history_concat, List.filterMap_append, List.filterMap_cons, List.filterMap_nil]
  cases departure? (command, (command.run (g.after commands)).reply) <;> rfl

/-! ### Runs -/

/-- What one command does to the members. -/
theorem Step.passage (hstep : g.Step command outcome) :
    Passage g.members (arrival? (command, outcome.reply)) (departure? (command, outcome.reply))
      outcome.group.members := by
  cases hstep with
  | came hx => exact .came hx
  | left hx => exact .left hx
  | marked hx => exact .left hx
  | _ => exact .nobody

/-- What a run of commands does to the members. -/
theorem Valid.inOrder_after (hvalid : g.Valid) (commands : List Command) :
    InOrder g.members (g.arrivals commands) (g.departures commands) (g.after commands).members := by
  -- from the back: what the last command adds to the history is known where it is carried out
  induction commands using List.reverseRecOn with
  | nil => simp [InOrder, arrivals, departures, history]
  | append_singleton commands command ih =>
    have hpassage := ((g.after commands).step_run command).passage
    rw [arrivals_concat, departures_concat, after_append, after_cons, after_nil]
    exact hpassage.inOrder ih (hvalid.after commands).members_nodup

end Group

end Roster
