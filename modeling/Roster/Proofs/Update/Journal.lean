import Roster.Proofs.Update.Difference

/-!
# What a comparison records

A comparison of two states records the members without a name, in the order of the updates, as often
as an update about them is found, and then how many updates there are. Whether a member has a name
is a matter of the resolver alone: a name that is spelt like the id is a name, and one of white
space is none. So the members that are recorded are those who are shown by their id for want of a
name. Texts and notices are made of the updates of one comparison and record nothing of their own.
-/

namespace Roster.Describer

variable {d : Describer} {old new : Group} {x : MemberId} {name : String} {updates : List Update}
  {events : List Event}

/-- The members without a name whom updates are about, one by one. -/
def nameless (d : Describer) (updates : List Update) : List MemberId :=
  (updates.filterMap Update.about).filter (d.Nameless ·)

/-- Whether events are the records of one comparison that finds the given updates. -/
structure Records (d : Describer) (old new : Group) (updates : List Update) (events : List Event) :
    Prop where
  recorded : events
    = (d.nameless updates).map .nameUnresolved ++ [.compared old.id new.id updates.length]
  lines : events.map (fun event => (event.level, event.text))
    = (d.nameless updates).map
        (fun x => (Level.debug, "No display name for " ++ x ++ ", using raw id")) ++
      [(Level.debug, "Group " ++ old.id.hex ++ " -> " ++ new.id.hex ++ ": " ++
        toString updates.length ++ " change(s)")]
  shown : ∀ x name, .memberAdded x name ∈ updates ∨ .memberRemoved x name ∈ updates →
    if d.Nameless x then .nameUnresolved x ∈ events ∧ name = x
    else .nameUnresolved x ∉ events ∧ d.resolver x = some name

/-! ### One member -/

theorem flatMap_resolve_events (d : Describer) (members : List MemberId) :
    members.flatMap (fun x => (d.resolve x).events)
      = (members.filter (d.Nameless ·)).map .nameUnresolved := by
  induction members with
  | nil => rfl
  | cons x members ih =>
    rw [List.flatMap_cons, ih]
    by_cases hnameless : d.Nameless x
    · rw [List.filter_cons, if_pos (decide_eq_true hnameless), resolve_of_nameless hnameless]
      rfl
    · obtain ⟨name, hanswer, hink⟩ := exists_answer_of_named hnameless
      rw [List.filter_cons, if_neg (mt of_decide_eq_true hnameless), resolve_of_answer hanswer hink]
      rfl

/-! ### All members -/

theorem events_mapM_resolve (make : MemberId → String → Update) (members : List MemberId) :
    (members.mapM fun x => make x <$> d.resolve x).events
      = (members.filter (d.Nameless ·)).map .nameUnresolved := by
  rw [Logged.events_mapM, ← flatMap_resolve_events]
  simp only [Logged.events_map]

theorem events_changes (d : Describer) (old new : Group) :
    (d.changes old new).events
      = (d.nameless (d.changes old new).value).map .nameUnresolved ++
        [.compared old.id new.id (d.changes old new).value.length] := by
  rw [nameless, filterMap_about_changes, List.filter_append, List.map_append,
    ← events_mapM_resolve .memberAdded, ← events_mapM_resolve .memberRemoved, List.append_assoc]
  rfl

theorem nameUnresolved_mem_iff :
    .nameUnresolved x ∈ (d.changes old new).events ↔
      d.Nameless x ∧ x ∈ (d.changes old new).value.filterMap Update.about := by
  rw [events_changes, nameless, List.mem_append, List.mem_map]
  simp [and_comm]

theorem eq_resolve_of_mem
    (hmem : .memberAdded x name ∈ (d.changes old new).value ∨
      .memberRemoved x name ∈ (d.changes old new).value) :
    name = (d.resolve x).value ∧ x ∈ (d.changes old new).value.filterMap Update.about := by
  rcases hmem with hmem | hmem
  · exact ⟨(memberAdded_mem_changes_iff.1 hmem).2, List.mem_filterMap.2 ⟨_, hmem, rfl⟩⟩
  · exact ⟨(memberRemoved_mem_changes_iff.1 hmem).2, List.mem_filterMap.2 ⟨_, hmem, rfl⟩⟩

theorem records_changes (d : Describer) (old new : Group) :
    d.Records old new (d.changes old new).value (d.changes old new).events where
  recorded := events_changes d old new
  lines := by
    rw [events_changes, List.map_append, List.map_map]
    rfl
  shown x name hmem := by
    obtain ⟨hname, habout⟩ := eq_resolve_of_mem hmem
    by_cases hnameless : d.Nameless x
    · rw [if_pos hnameless, hname, resolve_of_nameless hnameless]
      exact ⟨nameUnresolved_mem_iff.2 ⟨hnameless, habout⟩, rfl⟩
    · obtain ⟨answer, hanswer, hink⟩ := exists_answer_of_named hnameless
      rw [if_neg hnameless, hname, resolve_of_answer hanswer hink]
      exact ⟨fun hevent => hnameless (nameUnresolved_mem_iff.1 hevent).1, hanswer⟩

/-- Whichever way two states are compared, what is recorded are the records of one comparison. -/
theorem records_of_comparison (d : Describer) (old new : Group) :
    d.Records old new (d.changes old new).value (d.changes old new).events ∧
      d.Records old new (d.changes old new).value (d.describe old new).events ∧
      d.Records old new (d.changes old new).value (d.notice old new).events ∧
      d.Records old new (d.changes old new).value (describeUpdate d.resolver old new).events := by
  have hrecords := records_changes d old new
  have hdescribe : (d.describe old new).events = (d.changes old new).events :=
    Logged.events_map _ _
  have hnotice : (d.notice old new).events = (d.describe old new).events := Logged.events_map _ _
  have hupdate : (describeUpdate d.resolver old new).events = (d.changes old new).events :=
    Logged.events_map _ _
  rw [hnotice, hdescribe, hupdate]
  exact ⟨hrecords, hrecords, hrecords, hrecords⟩

/-- A name that is spelt like the id is not recorded, a blank one is. -/
example :
    (changes ⟨.ofDirectory [("ann", "ann"), ("bob", " ")], none⟩
      (.create none ["ann", "cy"] none .zero .signal)
      (.create none ["bob"] none .zero .signal)).events
      = [.nameUnresolved "bob", .nameUnresolved "cy", .compared .zero .zero 3] := by decide

end Roster.Describer
