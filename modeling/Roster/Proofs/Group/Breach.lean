import Roster.Proofs.Binary.RoundTrip
import Roster.Proofs.Json.RoundTrip
import Roster.Proofs.Text.Utf8Order

/-!
# Which breach is reported

A group may break several rules in several places, and one breach is reported. A repeated member
goes before an admin who is no member, and this before a removed id that is one. Among the entries
that break a rule the first of the list is named, which among the removed ids is the least. The
verdict is the same wherever a group is checked: created with admins, or read from a snapshot.
-/

namespace Roster

/-- Whether the id is the first entry of a list that repeats an earlier one. -/
def FirstRepeat (ids : List MemberId) (x : MemberId) : Prop :=
  ∃ front back, ids = front ++ x :: back ∧ front.Nodup ∧ x ∈ front

namespace Group

/-- The breach that counts, with the entry that is to blame. -/
inductive Breaks (g : Group) : Breach → Prop
  | duplicate {x : MemberId} (hrepeat : FirstRepeat g.members x) : Breaks g (.duplicateMember x)
  | stranger {x : MemberId} {front back : List MemberId} (hmembers : g.members.Nodup)
      (hadmins : g.admins = front ++ x :: back) (hfront : ∀ y ∈ front, y ∈ g.members)
      (hx : x ∉ g.members) : Breaks g (.adminNotMember x)
  | active {x : MemberId} (hmembers : g.members.Nodup) (hadmins : ∀ y ∈ g.admins, y ∈ g.members)
      (hremoved : x ∈ g.removed) (hx : x ∈ g.members)
      (hleast : ∀ y ∈ g.removed, y ∈ g.members → Text.Utf8.encode x ≤ Text.Utf8.encode y) :
      Breaks g (.removedStillActive x)

end Group

variable {g : Group} {x : MemberId} {seen ids : List MemberId} {breach : Breach}

/-! ### First entries -/

theorem firstRepeat?_eq_some_iff :
    firstRepeat? seen ids = some x ↔
      ∃ front back, ids = front ++ x :: back ∧ firstRepeat? seen front = none ∧
        (x ∈ seen ∨ x ∈ front) := by
  induction ids generalizing seen with
  | nil => simp [firstRepeat?]
  | cons y rest ih =>
    by_cases hy : y ∈ seen
    · have hfirst (front : List MemberId) : firstRepeat? seen (y :: front) = some y := by
        rw [firstRepeat?, if_pos (List.contains_iff_mem.2 hy)]
      rw [hfirst]
      constructor
      · rintro ⟨⟩
        exact ⟨[], rest, rfl, rfl, .inl hy⟩
      · rintro ⟨front, back, heq, hnone, -⟩
        cases front with
        | nil =>
          obtain ⟨rfl, -⟩ := List.cons.inj heq
          rfl
        | cons z front =>
          obtain ⟨rfl, -⟩ := List.cons.inj heq
          cases (hfirst front).symm.trans hnone
    · have hstep (front : List MemberId) :
          firstRepeat? seen (y :: front) = firstRepeat? (y :: seen) front := by
        rw [firstRepeat?, if_neg (mt List.contains_iff_mem.1 hy)]
      have hmove (front : List MemberId) :
          x ∈ y :: seen ∨ x ∈ front ↔ x ∈ seen ∨ x ∈ y :: front := by
        rw [List.mem_cons, List.mem_cons, or_left_comm, or_assoc]
      rw [hstep, ih]
      constructor
      · rintro ⟨front, back, rfl, hnone, hx⟩
        exact ⟨y :: front, back, rfl, (hstep front).trans hnone, (hmove front).1 hx⟩
      · rintro ⟨front, back, heq, hnone, hx⟩
        cases front with
        | nil =>
          obtain ⟨rfl, -⟩ := List.cons.inj heq
          rcases hx with hx | hx
          · exact absurd hx hy
          · cases hx
        | cons z front =>
          obtain ⟨rfl, rfl⟩ := List.cons.inj heq
          exact ⟨front, back, rfl, (hstep front).symm.trans hnone, (hmove front).2 hx⟩

theorem firstRepeat?_nil_eq_some_iff : firstRepeat? [] ids = some x ↔ FirstRepeat ids x := by
  simp only [firstRepeat?_eq_some_iff, firstRepeat?_eq_none_iff, FirstRepeat, List.not_mem_nil,
    not_false_eq_true, implies_true, and_true, false_or]

theorem Text.Utf8.encode_le_encode_iff {s t : String} :
    Text.Utf8.encode s ≤ Text.Utf8.encode t ↔ s ≤ t := by
  rw [← List.not_lt, ← String.not_lt, Text.Utf8.encode_lt_encode_iff]

/-- Where a set is searched in its order, the least id is found first. -/
theorem MemberSet.find?_ids_eq_some_iff {set : MemberSet} {p : MemberId → Bool} :
    set.ids.find? p = some x ↔ x ∈ set ∧ p x = true ∧ ∀ y ∈ set, p y = true → x ≤ y := by
  rw [List.find?_eq_some_iff_append]
  constructor
  · rintro ⟨hx, front, back, hids, hfront⟩
    have hascending := set.ascending
    rw [hids, List.pairwise_append, List.pairwise_cons] at hascending
    obtain ⟨-, ⟨hback, -⟩, -⟩ := hascending
    refine ⟨mem_iff.2 (hids ▸ List.mem_append_cons_self), hx, fun y hy hp => ?_⟩
    rw [mem_iff, hids, List.mem_append, List.mem_cons] at hy
    rcases hy with hy | rfl | hy
    · have hnot := hfront y hy
      rw [hp] at hnot
      cases hnot
    · exact String.le_refl y
    · exact Std.le_of_lt (hback y hy)
  · rintro ⟨hmem, hx, hleast⟩
    obtain ⟨front, back, hids⟩ := List.append_of_mem (mem_iff.1 hmem)
    have hascending := set.ascending
    rw [hids, List.pairwise_append] at hascending
    obtain ⟨-, -, hbefore⟩ := hascending
    refine ⟨hx, front, back, hids, fun y hy => ?_⟩
    have hlt : y < x := hbefore y hy x List.mem_cons_self
    rw [Bool.not_eq_true']
    by_contra hp
    have hmemy : y ∈ set := mem_iff.2 (hids ▸ List.mem_append_left _ hy)
    exact String.not_lt.2 (hleast y hmemy (Bool.not_eq_false _ ▸ hp)) hlt

namespace Group

/-! ### Entries that break a rule -/

theorem find?_admins_eq_none_iff :
    (g.admins.find? fun y => !g.isMember y) = none ↔ ∀ y ∈ g.admins, y ∈ g.members := by
  simp only [List.find?_eq_none, Bool.not_eq_true', Bool.not_eq_false, isMember_iff]

theorem find?_admins_eq_some_iff :
    (g.admins.find? fun y => !g.isMember y) = some x ↔
      ∃ front back, g.admins = front ++ x :: back ∧ (∀ y ∈ front, y ∈ g.members) ∧
        x ∉ g.members := by
  simp only [List.find?_eq_some_iff_append, Bool.not_not, isMember_iff, Bool.not_eq_true',
    Bool.eq_false_iff, ne_eq]
  constructor
  · rintro ⟨hx, front, back, hadmins, hfront⟩
    exact ⟨front, back, hadmins, hfront, hx⟩
  · rintro ⟨front, back, hadmins, hfront, hx⟩
    exact ⟨hx, front, back, hadmins, hfront⟩

theorem find?_removed_eq_some_iff :
    g.removed.ids.find? g.isMember = some x ↔
      x ∈ g.removed ∧ x ∈ g.members ∧
        ∀ y ∈ g.removed, y ∈ g.members → Text.Utf8.encode x ≤ Text.Utf8.encode y := by
  simp only [MemberSet.find?_ids_eq_some_iff, isMember_iff, Text.Utf8.encode_le_encode_iff]

/-! ### The verdict -/

theorem breach?_eq_some_iff : g.breach? = some breach ↔ g.Breaks breach := by
  constructor
  · intro hbreach
    simp only [breach?] at hbreach
    split at hbreach
    · rename_i hrepeat
      cases hbreach
      exact .duplicate (firstRepeat?_nil_eq_some_iff.1 hrepeat)
    · rename_i hmembers
      have hnodup : g.members.Nodup := (firstRepeat?_eq_none_iff.1 hmembers).1
      split at hbreach
      · rename_i hadmins
        cases hbreach
        obtain ⟨front, back, hsplit, hfront, hx⟩ := find?_admins_eq_some_iff.1 hadmins
        exact .stranger hnodup hsplit hfront hx
      · rename_i hadmins
        split at hbreach
        · rename_i hremoved
          cases hbreach
          obtain ⟨hmem, hx, hleast⟩ := find?_removed_eq_some_iff.1 hremoved
          exact .active hnodup (find?_admins_eq_none_iff.1 hadmins) hmem hx hleast
        · cases hbreach
  · intro hbreaks
    have hunique : g.members.Nodup → firstRepeat? [] g.members = none := fun hnodup =>
      firstRepeat?_eq_none_iff.2 ⟨hnodup, fun _ _ => List.not_mem_nil⟩
    cases hbreaks with
    | duplicate hrepeat =>
      rw [breach?, firstRepeat?_nil_eq_some_iff.2 hrepeat]
    | stranger hmembers hadmins hfront hx =>
      have hfind := find?_admins_eq_some_iff.2 ⟨_, _, hadmins, hfront, hx⟩
      simp only [breach?, hunique hmembers, hfind]
    | active hmembers hadmins hremoved hx hleast =>
      have hfind := find?_removed_eq_some_iff.2 ⟨hremoved, hx, hleast⟩
      simp only [breach?, hunique hmembers, find?_admins_eq_none_iff.2 hadmins, hfind]

theorem validate_value_eq_error_iff_breaks :
    g.validate.value = .error breach ↔ g.Breaks breach := by
  rw [validate_value_eq_error_iff, breach?_eq_some_iff]

theorem accept_value (g : Group) : g.accept.value = g.validate.value.map fun _ => g := by
  rcases g.valid_or_breach with hvalid | ⟨breach, hbreach⟩
  · rw [accept_of_valid hvalid, validate_of_valid hvalid]
    rfl
  · rw [accept_of_breach hbreach, validate_of_breach hbreach]
    rfl

theorem createWithAdmins_of_group (hremoved : g.removed = ∅) :
    createWithAdmins g.name g.members g.admins g.avatar g.id g.kind = g.accept := by
  rw [createWithAdmins, create, ← hremoved]

end Group

theorem Binary.loadGroup_value_of_record {bytes rest : List UInt8}
    (hrecord : record.run bytes = .ok (g, rest)) :
    (loadGroup bytes).value = (g.validate.value.map fun _ => g).mapError (.invalid g.id) := by
  rw [loadGroup_of_record hrecord, Logged.value_map, Group.accept_value]

theorem Json.loadGroup_value_of_record {text : String} {rest : List Char}
    (hrecord : record.run text.toList = .ok (g, rest))
    (hblank : ∀ c ∈ rest, Reader.isBlank c = true) :
    (loadGroup text).value
      = (g.validate.value.map fun _ => g).mapError fun breach => .unfit (.invalid g.id breach) := by
  rcases g.valid_or_breach with hvalid | ⟨breach, hbreach⟩
  · rw [loadGroup_of_valid hrecord hvalid, run_endOfText_blank hblank,
      Group.validate_of_valid hvalid]
    rfl
  · rw [loadGroup_of_breach hrecord hbreach, Group.validate_of_breach hbreach]
    rfl

namespace Group

/-- A check passes exactly if nobody is listed twice, every admin is a member and nobody removed is
one, and otherwise it names the breach that counts and the entry that is to blame. Whatever is
created with admins or read from a snapshot is refused exactly if the check does not pass, for the
breach that it names. -/
theorem refused_iff_breaks (g : Group) :
    (g.validate.value = .ok () ↔
      g.members.Nodup ∧ (∀ x ∈ g.admins, x ∈ g.members) ∧ ∀ x ∈ g.removed, x ∉ g.members) ∧
    (∀ breach, g.validate.value = .error breach ↔ g.Breaks breach) ∧
    (g.removed = ∅ → (createWithAdmins g.name g.members g.admins g.avatar g.id g.kind).value
      = g.validate.value.map fun _ => g) ∧
    (∀ bytes rest, Binary.record.run bytes = .ok (g, rest) →
      (Binary.loadGroup bytes).value
        = (g.validate.value.map fun _ => g).mapError (.invalid g.id)) ∧
    ∀ text rest, Json.record.run text.toList = .ok (g, rest) →
      (∀ c ∈ rest, Json.Reader.isBlank c = true) →
        (Json.loadGroup text).value
          = (g.validate.value.map fun _ => g).mapError
              fun breach => .unfit (.invalid g.id breach) := by
  refine ⟨?_, fun breach => validate_value_eq_error_iff_breaks, ?_, ?_, ?_⟩
  · rw [validate_value_eq_ok_iff]
    constructor
    · intro hvalid
      exact ⟨hvalid.members_nodup, hvalid.admins_subset, hvalid.removed_disjoint⟩
    · rintro ⟨hmembers, hadmins, hremoved⟩
      exact ⟨hmembers, hadmins, hremoved⟩
  · intro hremoved
    rw [createWithAdmins_of_group hremoved, accept_value]
  · intro bytes rest hrecord
    exact Binary.loadGroup_value_of_record hrecord
  · intro text rest hrecord hblank
    exact Json.loadGroup_value_of_record hrecord hblank

/-- A group that breaks every rule more than once. -/
def quarrel : Group :=
  { create none ["ann", "bob", "cy", "bob", "ann"] none .zero .signal with
    admins := ["cy", "eve", "dee"]
    removed := .ofList ["cy", "ann"] }

/-- The same without repetitions and removed ids. -/
def quarrelSettled : Group := { quarrel with members := ["ann", "bob", "cy"], removed := ∅ }

theorem refused_quarrel :
    quarrel.validate.value = .error (.duplicateMember "bob") ∧
    (Binary.record.run (Binary.groupBytes quarrel) = .ok (quarrel, []) ∧
      (Binary.loadGroup (Binary.groupBytes quarrel)).value
        = .error (.invalid .zero (.duplicateMember "bob"))) ∧
    (Json.record.run (Json.groupText quarrel).toList = .ok (quarrel, []) ∧
      (Json.loadGroup (Json.groupText quarrel)).value
        = .error (.unfit (.invalid .zero (.duplicateMember "bob")))) ∧
    (quarrelSettled.removed = ∅ ∧
      (createWithAdmins none ["ann", "bob", "cy"] ["cy", "eve", "dee"] none .zero .signal).value
        = .error (.adminNotMember "eve")) ∧
    ({ quarrel with members := ["ann", "cy"], admins := [] } : Group).validate.value
      = .error (.removedStillActive "ann") := by
  obtain ⟨-, hbreaks, -, hbinary, hjson⟩ := refused_iff_breaks quarrel
  obtain ⟨-, hbreaks', hcreate, -, -⟩ := refused_iff_breaks quarrelSettled
  have hverdict : quarrel.validate.value = .error (.duplicateMember "bob") :=
    (hbreaks _).2 (.duplicate ⟨["ann", "bob", "cy"], ["ann"], rfl, by decide, by decide⟩)
  have hadmins : quarrelSettled.admins = ["cy"] ++ "eve" :: ["dee"] := rfl
  have hstranger : quarrelSettled.validate.value = .error (.adminNotMember "eve") :=
    (hbreaks' _).2 (.stranger (by decide) hadmins (by decide) (by decide))
  have hbytes : Binary.record.run (Binary.groupBytes quarrel) = .ok (quarrel, []) :=
    Binary.run_record_groupBytes (by decide)
  have htext : Json.record.run (Json.groupText quarrel).toList = .ok (quarrel, []) :=
    Json.run_record_groupText quarrel
  refine ⟨hverdict, ⟨hbytes, ?_⟩, ⟨htext, ?_⟩, ⟨rfl, ?_⟩, ?_⟩
  · rw [hbinary _ _ hbytes, hverdict]
    rfl
  · rw [hjson _ _ htext nofun, hverdict]
    rfl
  · have hrefused := hcreate rfl
    rwa [hstranger] at hrefused
  · refine ((refused_iff_breaks _).2.1 _).2 (.active ?_ ?_ ?_ ?_ ?_) <;> decide

end Group

end Roster
