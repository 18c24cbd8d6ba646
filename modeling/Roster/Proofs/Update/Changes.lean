import Roster.Update.Describer

/-!
# What the updates are

The updates between two states come in four groups: at most one on the title, at most one on the
avatar, one for each entry of the newer list of members that the older one lacks, and one for each
entry of the older list that the newer one lacks. The names that are looked up on the way are shown
and decide nothing else, so there is no update exactly when the two states agree on the title, on
the avatar and on who is a member.
-/

namespace Roster

theorem Logged.value_mapM {α β : Type} (f : α → Logged β) (xs : List α) :
    (xs.mapM f).value = xs.map fun x => (f x).value := by
  induction xs with
  | nil => rfl
  | cons x xs ih =>
    rw [List.mapM_cons, List.map_cons, ← ih]
    rfl

theorem Logged.events_mapM {α β : Type} (f : α → Logged β) (xs : List α) :
    (xs.mapM f).events = xs.flatMap fun x => (f x).events := by
  induction xs with
  | nil => rfl
  | cons x xs ih =>
    rw [List.mapM_cons, List.flatMap_cons, ← ih, events_bind, events_bind, events_pure,
      List.append_nil]

namespace Describer

variable {d : Describer} {old new g : Group} {members : List MemberId} {x : MemberId}

theorem mem_missingFrom : x ∈ missingFrom g members ↔ x ∈ members ∧ x ∉ g.members := by
  rw [missingFrom, List.mem_filter, Bool.not_eq_true', Bool.eq_false_iff, ne_eq, Group.isMember_iff]

theorem missingFrom_eq_nil_iff : missingFrom g members = [] ↔ ∀ x ∈ members, x ∈ g.members := by
  rw [List.eq_nil_iff_forall_not_mem]
  constructor
  · intro hnone x hx
    by_cases hmember : x ∈ g.members
    · exact hmember
    · exact absurd (mem_missingFrom.2 ⟨hx, hmember⟩) (hnone x)
  · intro hall x hx
    obtain ⟨hlisted, habsent⟩ := mem_missingFrom.1 hx
    exact habsent (hall x hlisted)

theorem missingFrom_nodup (hmembers : members.Nodup) : (missingFrom g members).Nodup :=
  hmembers.filter _

theorem filter_not_mem_missingFrom {ys : List MemberId} (hys : ∀ y ∈ ys, y ∈ members) :
    ys.filter (· ∉ missingFrom g members) = ys.filter g.isMember := by
  apply List.filter_congr
  intro y hy
  apply Bool.eq_iff_iff.2
  rw [decide_eq_true_iff, mem_missingFrom, Group.isMember_iff, not_and, Decidable.not_not]
  exact ⟨fun h => h (hys y hy), fun h _ => h⟩

theorem not_mem_of_came (hx : x ∈ missingFrom old new.members) : x ∉ old.members :=
  (mem_missingFrom.1 hx).2

/-- Nobody who came is among those who left. -/
theorem came_filter_not_left :
    (missingFrom old new.members).filter (· ∉ missingFrom new old.members)
      = missingFrom old new.members := by
  apply List.filter_eq_self.2
  intro x hx
  apply decide_eq_true
  intro hleft
  exact not_mem_of_came hx (mem_missingFrom.1 hleft).1

theorem nodup_members_append_came (hold : old.members.Nodup) (hnew : new.members.Nodup) :
    (old.members ++ missingFrom old new.members).Nodup := by
  apply List.nodup_append.2
  refine ⟨hold, missingFrom_nodup hnew, ?_⟩
  intro x hx y hy heq
  exact not_mem_of_came hy (heq ▸ hx)

/-- Who stayed and who came are together the members of the newer state. -/
theorem mem_stayed_append_came :
    x ∈ old.members.filter new.isMember ++ missingFrom old new.members ↔ x ∈ new.members := by
  rw [List.mem_append, List.mem_filter, Group.isMember_iff, mem_missingFrom]
  constructor
  · rintro (⟨-, hnew⟩ | ⟨hnew, -⟩) <;> exact hnew
  · intro hnew
    by_cases hold : x ∈ old.members
    · exact .inl ⟨hold, hnew⟩
    · exact .inr ⟨hnew, hold⟩

/-- The updates about members who came. -/
def additions (d : Describer) (old new : Group) : List Update :=
  (missingFrom old new.members).map fun x => .memberAdded x (d.resolve x).value

/-- The updates about members who left. -/
def removals (d : Describer) (old new : Group) : List Update :=
  (missingFrom new old.members).map fun x => .memberRemoved x (d.resolve x).value

theorem changes_value (d : Describer) (old new : Group) :
    (d.changes old new).value
      = titleUpdate old new ++ avatarUpdate old new ++ d.additions old new ++
          d.removals old new := by
  rw [changes, Logged.value_bind, Logged.value_mapM, Logged.value_bind, Logged.value_mapM]
  rfl

theorem titleUpdate_eq_nil_iff : titleUpdate old new = [] ↔ old.name = new.name := by
  by_cases hname : old.name = new.name
  · rw [titleUpdate, if_pos hname]
    exact ⟨fun _ => hname, fun _ => rfl⟩
  · rw [titleUpdate, if_neg hname]
    exact ⟨nofun, fun h => absurd h hname⟩

theorem avatarUpdate_eq_nil_iff : avatarUpdate old new = [] ↔ old.avatar = new.avatar := by
  by_cases havatar : old.avatar = new.avatar
  · rw [avatarUpdate, if_pos havatar]
    exact ⟨fun _ => havatar, fun _ => rfl⟩
  · rw [avatarUpdate, if_neg havatar]
    exact ⟨nofun, fun h => absurd h havatar⟩

theorem changes_value_eq_nil_iff :
    (d.changes old new).value = [] ↔
      old.name = new.name ∧ old.avatar = new.avatar ∧ ∀ x, x ∈ old.members ↔ x ∈ new.members := by
  rw [changes_value, List.append_eq_nil_iff, List.append_eq_nil_iff, List.append_eq_nil_iff,
    titleUpdate_eq_nil_iff, avatarUpdate_eq_nil_iff, additions, removals, List.map_eq_nil_iff,
    List.map_eq_nil_iff, missingFrom_eq_nil_iff, missingFrom_eq_nil_iff]
  constructor
  · rintro ⟨⟨⟨hname, havatar⟩, hcame⟩, hleft⟩
    exact ⟨hname, havatar, fun x => ⟨hleft x, hcame x⟩⟩
  · rintro ⟨hname, havatar, hsame⟩
    exact ⟨⟨⟨hname, havatar⟩, fun x => (hsame x).2⟩, fun x => (hsame x).1⟩

end Describer

end Roster
