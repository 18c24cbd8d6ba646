import Mathlib.Data.Finset.Card
import Mathlib.Data.Finset.SymmDiff
import Roster.Proofs.Group.Verdict
import Roster.Proofs.Update.Changes

/-!
# The updates are the difference

What the updates between two states should be is said entry by entry: their order, how often each of
them occurs, and which name each of them shows. Only one list of updates meets this, and it is the
one that is found. Between valid states nobody is the subject of two updates, so the updates about
members are as many as the ids that are members in one of the two states only.
-/

namespace Roster

namespace Update

/-- The place of an update in the order title, avatar, newcomers, leavers. -/
def rank : Update → Nat
  | titleChanged _ => 0
  | avatarChanged => 1
  | memberAdded .. => 2
  | memberRemoved .. => 3

theorem rank_le (update : Update) : update.rank ≤ 3 := by
  cases update <;> simp [rank]

def newcomer : Update → Option MemberId
  | memberAdded x _ => some x
  | titleChanged _ | avatarChanged | memberRemoved .. => none

def leaver : Update → Option MemberId
  | memberRemoved x _ => some x
  | titleChanged _ | avatarChanged | memberAdded .. => none

end Update

namespace Describer

/-- Whether a member has no name that can be shown: the resolver does not answer, or with nothing
but white space. -/
def Nameless (d : Describer) (x : MemberId) : Prop :=
  ∀ name, d.resolver x = some name → ∀ c ∈ name.toList, Text.isBlankChar c = true

/-- The name to show for a member: what the resolver answers, as it is, if some character of it is
not white space, and the id otherwise. -/
inductive ShownAs (d : Describer) (x : MemberId) : String → Prop
  | answer {name : String} (hanswer : d.resolver x = some name)
      (hink : ∃ c ∈ name.toList, Text.isBlankChar c = false) : ShownAs d x name
  | rawId (hnameless : d.Nameless x) : ShownAs d x x

/-- Whether updates are the difference between two states. -/
structure Exact (d : Describer) (old new : Group) (updates : List Update) : Prop where
  ordered : updates.Pairwise fun u v => u.rank ≤ v.rank
  title : ∀ title, updates.count (.titleChanged title)
    = if title = new.name ∧ old.name ≠ new.name then 1 else 0
  avatar : updates.count .avatarChanged = if old.avatar ≠ new.avatar then 1 else 0
  newcomers : (updates.filterMap Update.newcomer).Sublist new.members
  count_newcomers : ∀ x, (updates.filterMap Update.newcomer).count x
    = if x ∈ old.members then 0 else new.members.count x
  leavers : (updates.filterMap Update.leaver).Sublist old.members
  count_leavers : ∀ x, (updates.filterMap Update.leaver).count x
    = if x ∈ new.members then 0 else old.members.count x
  names_newcomers : ∀ x name, .memberAdded x name ∈ updates → d.ShownAs x name
  names_leavers : ∀ x name, .memberRemoved x name ∈ updates → d.ShownAs x name

variable {α : Type} {d : Describer} {old new g : Group} {members : List MemberId} {x : MemberId}
  {name : String} {update : Update} {updates : List Update}

/-! ### Names -/

theorem nameless_iff : d.Nameless x ↔ (d.resolver x).all Text.isBlank = true := by
  rw [Option.all_eq_true]
  exact forall_congr' fun name => imp_congr_right fun _ => Text.isBlank_iff.symm

instance (d : Describer) : DecidablePred d.Nameless := fun _ => decidable_of_iff _ nameless_iff.symm

theorem resolve_of_nameless (hnameless : d.Nameless x) :
    d.resolve x = ⟨x, [.nameUnresolved x]⟩ := by
  rw [resolve]
  cases hanswer : d.resolver x with
  | none => rfl
  | some name =>
    have hblank : Text.isBlank name = true := Text.isBlank_iff.2 (hnameless name hanswer)
    simp only [hblank, if_true]
    rfl

theorem resolve_of_answer (hanswer : d.resolver x = some name)
    (hink : ∃ c ∈ name.toList, Text.isBlankChar c = false) : d.resolve x = ⟨name, []⟩ := by
  have hname : Text.isBlank name = false := by
    rw [Text.isBlank, List.all_eq_false]
    simpa only [Bool.not_eq_true] using hink
  rw [resolve, hanswer]
  simp only [hname]
  rfl

theorem exists_answer_of_named (hnamed : ¬ d.Nameless x) :
    ∃ name, d.resolver x = some name ∧ ∃ c ∈ name.toList, Text.isBlankChar c = false := by
  rw [Nameless] at hnamed
  push Not at hnamed
  obtain ⟨name, hanswer, c, hc, hink⟩ := hnamed
  exact ⟨name, hanswer, c, hc, Bool.eq_false_iff.2 hink⟩

theorem shownAs_resolve (d : Describer) (x : MemberId) : d.ShownAs x (d.resolve x).value := by
  by_cases hnameless : d.Nameless x
  · rw [resolve_of_nameless hnameless]
    exact .rawId hnameless
  · obtain ⟨name, hanswer, hink⟩ := exists_answer_of_named hnameless
    rw [resolve_of_answer hanswer hink]
    exact .answer hanswer hink

theorem ShownAs.eq_resolve (hshown : d.ShownAs x name) : name = (d.resolve x).value := by
  cases hshown with
  | answer hanswer hink => rw [resolve_of_answer hanswer hink]
  | rawId hnameless => rw [resolve_of_nameless hnameless]

/-! ### Lists told apart by rank and by counts -/

theorem filter_lt_succ_of_pairwise {rank : α → Nat} {xs : List α}
    (hxs : xs.Pairwise fun a b => rank a ≤ rank b) (k : Nat) :
    xs.filter (rank · < k + 1) = xs.filter (rank · < k) ++ xs.filter (rank · = k) := by
  induction xs with
  | nil => rfl
  | cons a xs ih =>
    obtain ⟨hfirst, hrest⟩ := List.pairwise_cons.1 hxs
    have hih := ih hrest
    simp only [List.filter_cons, decide_eq_true_eq]
    rcases Nat.lt_trichotomy (rank a) k with hlt | heq | hgt
    · rw [if_pos (Nat.lt_succ_of_lt hlt), if_pos hlt, if_neg (Nat.ne_of_lt hlt), hih,
        List.cons_append]
    · -- nothing behind an entry of rank `k` has a lower rank
      have hnone : xs.filter (rank · < k) = [] := by
        apply List.filter_eq_nil_iff.2
        intro b hb
        have hle : rank a ≤ rank b := hfirst b hb
        simp only [decide_eq_true_eq]
        omega
      have hlt : rank a < k + 1 := by omega
      rw [if_pos hlt, if_neg (Nat.not_lt_of_ge heq.ge), if_pos heq, hih, hnone, List.nil_append,
        List.nil_append]
    · have hnot : ¬ rank a < k + 1 := by omega
      rw [if_neg hnot, if_neg (Nat.lt_asymm hgt), if_neg (Nat.ne_of_gt hgt), hih]

theorem eq_ranks_of_ordered (hordered : updates.Pairwise fun u v => u.rank ≤ v.rank) :
    updates = updates.filter (·.rank = 0) ++ updates.filter (·.rank = 1) ++
      updates.filter (·.rank = 2) ++ updates.filter (·.rank = 3) := by
  have hall : updates.filter (·.rank < 4) = updates := by
    apply List.filter_eq_self.2
    intro u _
    cases u <;> rfl
  have hnone : updates.filter (·.rank < 0) = [] := by
    apply List.filter_eq_nil_iff.2
    intro u _
    simp
  rw [filter_lt_succ_of_pairwise hordered 3, filter_lt_succ_of_pairwise hordered 2,
    filter_lt_succ_of_pairwise hordered 1, filter_lt_succ_of_pairwise hordered 0, hnone,
    List.nil_append] at hall
  exact hall.symm

theorem filter_eq_of_count [DecidableEq α] {p : α → Bool} {a : α} {xs : List α} {c : Prop}
    [Decidable c] (ha : p a = true)
    (hcount : ∀ b, p b = true → xs.count b = if b = a ∧ c then 1 else 0) :
    xs.filter p = if c then [a] else [] := by
  -- a list of one entry or none is alone in having the counts it has
  have hperm : (xs.filter p).Perm (if c then [a] else []) := by
    apply List.perm_iff_count.2
    intro b
    by_cases hb : p b = true
    · rw [List.count_filter hb, hcount b hb]
      by_cases hc : c
      · by_cases heq : b = a
        · simp [heq, hc]
        · simp [heq, hc, Ne.symm heq]
      · simp [hc]
    · have hne : b ≠ a := fun heq => hb (heq ▸ ha)
      rw [List.count_eq_zero.2 fun h => hb (List.mem_filter.1 h).2]
      by_cases hc : c
      · simp [hc, Ne.symm hne]
      · simp [hc]
  by_cases hc : c
  · rw [if_pos hc] at hperm ⊢
    exact List.perm_singleton.1 hperm
  · rw [if_neg hc] at hperm ⊢
    exact List.perm_nil.1 hperm

theorem count_missingFrom :
    (missingFrom g members).count x = if x ∈ g.members then 0 else members.count x := by
  by_cases hx : x ∈ g.members
  · rw [if_pos hx]
    exact List.count_eq_zero.2 fun h => (mem_missingFrom.1 h).2 hx
  · have hkept : (!g.isMember x) = true := by
      rw [Bool.not_eq_true', ← Bool.not_eq_true, Group.isMember_iff]
      exact hx
    rw [if_neg hx]
    exact List.count_filter (p := fun x => !g.isMember x) hkept

/-- What has all entries of those who are missing, and no others, in the order of the list. -/
theorem eq_missingFrom_of_sublist {ids : List MemberId} (hsub : ids.Sublist members)
    (hcount : ∀ x, ids.count x = if x ∈ g.members then 0 else members.count x) :
    ids = missingFrom g members := by
  have hkept : ids.filter (fun x => !g.isMember x) = ids := by
    apply List.filter_eq_self.2
    intro x hx
    have hlisted : 0 < ids.count x := List.count_pos_iff.2 hx
    rw [Bool.not_eq_true', ← Bool.not_eq_true, Group.isMember_iff]
    intro hmember
    rw [hcount, if_pos hmember] at hlisted
    exact Nat.lt_irrefl 0 hlisted
  have hpart : ids.Sublist (missingFrom g members) := hkept ▸ hsub.filter _
  have hperm : ids.Perm (missingFrom g members) :=
    List.perm_iff_count.2 fun x => (hcount x).trans count_missingFrom.symm
  exact hpart.eq_of_length hperm.length_eq

/-! ### The parts of the updates -/

theorem rank_of_mem_titleUpdate (hmem : update ∈ titleUpdate old new) : update.rank = 0 := by
  rw [titleUpdate] at hmem
  split at hmem
  · cases hmem
  · rw [List.mem_singleton.1 hmem]
    rfl

theorem rank_of_mem_avatarUpdate (hmem : update ∈ avatarUpdate old new) : update.rank = 1 := by
  rw [avatarUpdate] at hmem
  split at hmem
  · cases hmem
  · rw [List.mem_singleton.1 hmem]
    rfl

theorem rank_of_mem_additions (hmem : update ∈ d.additions old new) : update.rank = 2 := by
  obtain ⟨x, -, rfl⟩ := List.mem_map.1 hmem
  rfl

theorem rank_of_mem_removals (hmem : update ∈ d.removals old new) : update.rank = 3 := by
  obtain ⟨x, -, rfl⟩ := List.mem_map.1 hmem
  rfl

theorem mem_changes_iff :
    update ∈ (d.changes old new).value ↔
      update ∈ titleUpdate old new ∨ update ∈ avatarUpdate old new ∨
        update ∈ d.additions old new ∨ update ∈ d.removals old new := by
  rw [changes_value, List.mem_append, List.mem_append, List.mem_append, or_assoc, or_assoc]

theorem ordered_changes (d : Describer) (old new : Group) :
    (d.changes old new).value.Pairwise fun u v => u.rank ≤ v.rank := by
  have hequal {k : Nat} {us : List Update} (hus : ∀ u ∈ us, u.rank = k) :
      us.Pairwise fun u v => u.rank ≤ v.rank := by
    apply List.pairwise_of_forall_mem_list
    intro u hu v hv
    rw [hus u hu, hus v hv]
  rw [changes_value]
  refine List.pairwise_append.2 ⟨List.pairwise_append.2 ⟨List.pairwise_append.2
    ⟨hequal fun _ => rank_of_mem_titleUpdate, hequal fun _ => rank_of_mem_avatarUpdate, ?_⟩,
    hequal fun _ => rank_of_mem_additions, ?_⟩, hequal fun _ => rank_of_mem_removals, ?_⟩
  · intro u hu v _
    rw [rank_of_mem_titleUpdate hu]
    exact Nat.zero_le _
  · intro u hu v hv
    rw [rank_of_mem_additions hv]
    rcases List.mem_append.1 hu with hu | hu
    · rw [rank_of_mem_titleUpdate hu]
      decide
    · rw [rank_of_mem_avatarUpdate hu]
      decide
  · intro u _ v hv
    rw [rank_of_mem_removals hv]
    exact u.rank_le

/-- What is read off the updates about members only. -/
theorem filterMap_changes {f : Update → Option α} (htitle : ∀ title, f (.titleChanged title) = none)
    (havatar : f .avatarChanged = none) :
    (d.changes old new).value.filterMap f
      = (missingFrom old new.members).filterMap (fun x => f (.memberAdded x (d.resolve x).value)) ++
        (missingFrom new old.members).filterMap
          fun x => f (.memberRemoved x (d.resolve x).value) := by
  have htitles : (titleUpdate old new).filterMap f = [] := by
    apply List.filterMap_eq_nil_iff.2
    intro u hu
    cases u <;> first | exact htitle _ | cases rank_of_mem_titleUpdate hu
  have havatars : (avatarUpdate old new).filterMap f = [] := by
    apply List.filterMap_eq_nil_iff.2
    intro u hu
    cases u <;> first | exact havatar | cases rank_of_mem_avatarUpdate hu
  rw [changes_value, List.filterMap_append, List.filterMap_append, List.filterMap_append, htitles,
    havatars, List.nil_append, List.nil_append, additions, removals, List.filterMap_map,
    List.filterMap_map]
  rfl

theorem filterMap_newcomer_changes :
    (d.changes old new).value.filterMap Update.newcomer = missingFrom old new.members := by
  rw [filterMap_changes (fun _ => rfl) rfl]
  simp [Update.newcomer]

theorem filterMap_leaver_changes :
    (d.changes old new).value.filterMap Update.leaver = missingFrom new old.members := by
  rw [filterMap_changes (fun _ => rfl) rfl]
  simp [Update.leaver]

theorem filterMap_about_changes :
    (d.changes old new).value.filterMap Update.about
      = missingFrom old new.members ++ missingFrom new old.members := by
  rw [filterMap_changes (fun _ => rfl) rfl]
  simp [Update.about]

theorem count_eq_zero_of_rank {k : Nat} (hupdates : ∀ u ∈ updates, u.rank = k)
    (hne : update.rank ≠ k) : updates.count update = 0 :=
  List.count_eq_zero.2 fun hmem => hne (hupdates update hmem)

theorem count_titleChanged_changes (title : Option String) :
    (d.changes old new).value.count (.titleChanged title)
      = if title = new.name ∧ old.name ≠ new.name then 1 else 0 := by
  have hne {k : Nat} (hk : 0 ≠ k) : (Update.titleChanged title).rank ≠ k := hk
  rw [changes_value, List.count_append, List.count_append, List.count_append,
    count_eq_zero_of_rank (fun _ => rank_of_mem_avatarUpdate) (hne (by decide)),
    count_eq_zero_of_rank (fun _ => rank_of_mem_additions) (hne (by decide)),
    count_eq_zero_of_rank (fun _ => rank_of_mem_removals) (hne (by decide))]
  by_cases hname : old.name = new.name
  · simp [titleUpdate, hname]
  · by_cases htitle : title = new.name
    · simp [titleUpdate, hname, htitle]
    · simp [titleUpdate, hname, htitle, Ne.symm htitle]

theorem count_avatarChanged_changes :
    (d.changes old new).value.count .avatarChanged = if old.avatar ≠ new.avatar then 1 else 0 := by
  rw [changes_value, List.count_append, List.count_append, List.count_append,
    count_eq_zero_of_rank (fun _ => rank_of_mem_titleUpdate) (by decide),
    count_eq_zero_of_rank (fun _ => rank_of_mem_additions) (by decide),
    count_eq_zero_of_rank (fun _ => rank_of_mem_removals) (by decide)]
  by_cases havatar : old.avatar = new.avatar <;> simp [avatarUpdate, havatar]

/-! ### Single updates -/

theorem titleChanged_mem_changes_iff {title : Option String} :
    .titleChanged title ∈ (d.changes old new).value ↔ title = new.name ∧ old.name ≠ new.name := by
  rw [← List.count_pos_iff, count_titleChanged_changes]
  by_cases htitle : title = new.name ∧ old.name ≠ new.name
  · rw [if_pos htitle]
    exact ⟨fun _ => htitle, fun _ => Nat.one_pos⟩
  · rw [if_neg htitle]
    exact ⟨fun h => absurd h (Nat.lt_irrefl 0), fun h => absurd h htitle⟩

theorem avatarChanged_mem_changes_iff :
    .avatarChanged ∈ (d.changes old new).value ↔ old.avatar ≠ new.avatar := by
  rw [← List.count_pos_iff, count_avatarChanged_changes]
  by_cases havatar : old.avatar = new.avatar <;> simp [havatar]

theorem memberAdded_mem_changes_iff :
    .memberAdded x name ∈ (d.changes old new).value ↔
      (x ∈ new.members ∧ x ∉ old.members) ∧ name = (d.resolve x).value := by
  rw [mem_changes_iff]
  constructor
  · rintro (h | h | h | h)
    · cases rank_of_mem_titleUpdate h
    · cases rank_of_mem_avatarUpdate h
    · obtain ⟨y, hy, heq⟩ := List.mem_map.1 h
      cases heq
      exact ⟨mem_missingFrom.1 hy, rfl⟩
    · cases rank_of_mem_removals h
  · rintro ⟨hx, rfl⟩
    exact .inr (.inr (.inl (List.mem_map.2 ⟨x, mem_missingFrom.2 hx, rfl⟩)))

theorem memberRemoved_mem_changes_iff :
    .memberRemoved x name ∈ (d.changes old new).value ↔
      (x ∈ old.members ∧ x ∉ new.members) ∧ name = (d.resolve x).value := by
  rw [mem_changes_iff]
  constructor
  · rintro (h | h | h | h)
    · cases rank_of_mem_titleUpdate h
    · cases rank_of_mem_avatarUpdate h
    · cases rank_of_mem_additions h
    · obtain ⟨y, hy, heq⟩ := List.mem_map.1 h
      cases heq
      exact ⟨mem_missingFrom.1 hy, rfl⟩
  · rintro ⟨hx, rfl⟩
    exact .inr (.inr (.inr (List.mem_map.2 ⟨x, mem_missingFrom.2 hx, rfl⟩)))

/-! ### One list only -/

theorem exact_changes (d : Describer) (old new : Group) :
    d.Exact old new (d.changes old new).value where
  ordered := ordered_changes d old new
  title := count_titleChanged_changes
  avatar := count_avatarChanged_changes
  newcomers := filterMap_newcomer_changes ▸ List.filter_sublist
  count_newcomers _ := filterMap_newcomer_changes ▸ count_missingFrom
  leavers := filterMap_leaver_changes ▸ List.filter_sublist
  count_leavers _ := filterMap_leaver_changes ▸ count_missingFrom
  names_newcomers x name hmem := by
    obtain ⟨-, rfl⟩ := memberAdded_mem_changes_iff.1 hmem
    exact shownAs_resolve d x
  names_leavers x name hmem := by
    obtain ⟨-, rfl⟩ := memberRemoved_mem_changes_iff.1 hmem
    exact shownAs_resolve d x

theorem filter_eq_map_filterMap {p : Update → Bool} {f : Update → Option MemberId}
    {make : MemberId → Update}
    (hmade : ∀ u ∈ updates, p u = true → ∃ x, f u = some x ∧ make x = u)
    (hother : ∀ u ∈ updates, p u = false → f u = none) :
    updates.filter p = (updates.filterMap f).map make := by
  induction updates with
  | nil => rfl
  | cons u us ih =>
    have hrest := ih (fun v hv => hmade v (List.mem_cons_of_mem u hv))
      fun v hv => hother v (List.mem_cons_of_mem u hv)
    cases hp : p u with
    | true =>
      obtain ⟨x, hx, hmake⟩ := hmade u List.mem_cons_self hp
      rw [List.filter_cons_of_pos hp, List.filterMap_cons_some hx, List.map_cons, hmake, hrest]
    | false =>
      have hnone : f u = none := hother u List.mem_cons_self hp
      rw [List.filter_cons_of_neg (Bool.eq_false_iff.1 hp), List.filterMap_cons_none hnone, hrest]

theorem Exact.filter_title (hexact : d.Exact old new updates) :
    updates.filter (·.rank = 0) = titleUpdate old new := by
  have hcount : ∀ u : Update, decide (u.rank = 0) = true →
      updates.count u = if u = .titleChanged new.name ∧ old.name ≠ new.name then 1 else 0 := by
    intro u hu
    cases u with
    | titleChanged title =>
      rw [hexact.title]
      simp only [Update.titleChanged.injEq]
    | _ => cases of_decide_eq_true hu
  rw [filter_eq_of_count rfl hcount, ite_not]
  rfl

theorem Exact.filter_avatar (hexact : d.Exact old new updates) :
    updates.filter (·.rank = 1) = avatarUpdate old new := by
  have hcount : ∀ u : Update, decide (u.rank = 1) = true →
      updates.count u = if u = .avatarChanged ∧ old.avatar ≠ new.avatar then 1 else 0 := by
    intro u hu
    cases u with
    | avatarChanged =>
      rw [hexact.avatar]
      simp only [true_and]
    | _ => cases of_decide_eq_true hu
  rw [filter_eq_of_count rfl hcount, ite_not]
  rfl

theorem Exact.filter_newcomers (hexact : d.Exact old new updates) :
    updates.filter (·.rank = 2) = d.additions old new := by
  have hids : updates.filterMap Update.newcomer = missingFrom old new.members :=
    eq_missingFrom_of_sublist hexact.newcomers hexact.count_newcomers
  rw [additions, ← hids]
  apply filter_eq_map_filterMap
  · intro u hu hrank
    cases u with
    | memberAdded x name => exact ⟨x, rfl, (hexact.names_newcomers x name hu).eq_resolve ▸ rfl⟩
    | _ => cases of_decide_eq_true hrank
  · intro u _ hrank
    cases u <;> first | rfl | cases hrank

theorem Exact.filter_leavers (hexact : d.Exact old new updates) :
    updates.filter (·.rank = 3) = d.removals old new := by
  have hids : updates.filterMap Update.leaver = missingFrom new old.members :=
    eq_missingFrom_of_sublist hexact.leavers hexact.count_leavers
  rw [removals, ← hids]
  apply filter_eq_map_filterMap
  · intro u hu hrank
    cases u with
    | memberRemoved x name => exact ⟨x, rfl, (hexact.names_leavers x name hu).eq_resolve ▸ rfl⟩
    | _ => cases of_decide_eq_true hrank
  · intro u _ hrank
    cases u <;> first | rfl | cases hrank

theorem Exact.eq_changes (hexact : d.Exact old new updates) :
    updates = (d.changes old new).value := by
  rw [eq_ranks_of_ordered hexact.ordered, hexact.filter_title, hexact.filter_avatar,
    hexact.filter_newcomers, hexact.filter_leavers, changes_value]

/-! ### Valid states -/

/-- Nobody both came and left. -/
theorem nodup_missingFrom_append (hold : old.members.Nodup) (hnew : new.members.Nodup) :
    (missingFrom old new.members ++ missingFrom new old.members).Nodup := by
  refine List.nodup_append.2 ⟨missingFrom_nodup hnew, missingFrom_nodup hold, ?_⟩
  intro x hx y hy heq
  exact (mem_missingFrom.1 hx).2 (heq ▸ (mem_missingFrom.1 hy).1)

theorem toFinset_missingFrom_append :
    (missingFrom old new.members ++ missingFrom new old.members).toFinset
      = symmDiff old.members.toFinset new.members.toFinset := by
  ext x
  rw [List.mem_toFinset, List.mem_append, mem_missingFrom, mem_missingFrom, Finset.mem_symmDiff,
    List.mem_toFinset, List.mem_toFinset, or_comm]

/-- The updates found between two states are the only ones that are exact. Between valid states no
id is the subject of two of them, and as many are about members as ids are members in one of the
states only. -/
theorem exact_iff_eq_changes (d : Describer) (old new : Group) :
    (∀ updates, d.Exact old new updates ↔ updates = (d.changes old new).value) ∧
      (old.validate.value = .ok () → new.validate.value = .ok () →
        ((d.changes old new).value.filterMap Update.about).Nodup ∧
          ((d.changes old new).value.filterMap Update.about).length
            = (symmDiff old.members.toFinset new.members.toFinset).card) := by
  refine ⟨fun updates => ⟨Exact.eq_changes, ?_⟩, fun hold hnew => ?_⟩
  · rintro rfl
    exact exact_changes d old new
  · have hnodup : ((d.changes old new).value.filterMap Update.about).Nodup := by
      rw [filterMap_about_changes]
      exact nodup_missingFrom_append (Group.validate_value_eq_ok_iff.1 hold).members_nodup
        (Group.validate_value_eq_ok_iff.1 hnew).members_nodup
    refine ⟨hnodup, ?_⟩
    rw [← List.toFinset_card_of_nodup hnodup, filterMap_about_changes, toFinset_missingFrom_append]

def shiftBefore : Group := .create (some "Desk") ["ann", "bob"] none .zero .signal

/-- The group of `shiftBefore` without its title, with a picture and one member in the place of
another. -/
def shiftAfter : Group := .create none ["cy", "bob"] (some ⟨[1]⟩) .zero .signal

/-- Knows a name for one of the two, and only a blank for the other. -/
def shiftNames : Resolver := .ofDirectory [("cy", " Cy "), ("ann", " ")]

theorem exact_shift :
    shiftBefore.validate.value = .ok () ∧ shiftAfter.validate.value = .ok () ∧
      Exact ⟨shiftNames, none⟩ shiftBefore shiftAfter
        [.titleChanged none, .avatarChanged, .memberAdded "cy" " Cy ", .memberRemoved "ann" "ann"] ∧
      (symmDiff shiftBefore.members.toFinset shiftAfter.members.toFinset).card = 2 := by
  obtain ⟨hexact, hvalid⟩ := exact_iff_eq_changes ⟨shiftNames, none⟩ shiftBefore shiftAfter
  have hbefore : shiftBefore.validate.value = .ok () := by decide
  have hafter : shiftAfter.validate.value = .ok () := by decide
  obtain ⟨-, hlength⟩ := hvalid hbefore hafter
  exact ⟨hbefore, hafter, (hexact _).2 (by decide), hlength ▸ by decide⟩

end Describer

end Roster
