import Mathlib.Data.List.Nodup
import Roster.Group.Equality
import Roster.Proofs.Group.Verdict

/-!
# Equal groups look the same

Equality is what the queries can tell. Two groups are equal when they have the same id, name, kind
and avatar and every question whether somebody is a member or an admin gets the same answer in both.
How the two lists are ordered, how often they name an id, and who is kept as removed cannot be told,
and a group is equal to itself, so a comparison may answer at once when it finds one group in both
places. The number of members can be told only where nobody is listed twice.
-/

namespace Roster.Group

/-- Whether two groups agree on all that counts, as far as it can be asked. -/
structure Alike (g h : Group) : Prop where
  id : g.id = h.id
  name : g.name = h.name
  kind : g.kind = h.kind
  avatar : g.avatar = h.avatar
  isMember : ∀ x, g.isMember x = h.isMember x
  isAdmin : ∀ x, g.isAdmin x = h.isAdmin x

variable {g h k : Group} {members admins : List MemberId}

/-! ### Equality by queries -/

theorem isMember_eq_iff {x : MemberId} :
    g.isMember x = h.isMember x ↔ (x ∈ g.members ↔ x ∈ h.members) := by
  rw [Bool.eq_iff_iff, isMember_iff, isMember_iff]

theorem isAdmin_eq_iff {x : MemberId} :
    g.isAdmin x = h.isAdmin x ↔ (x ∈ g.admins ↔ x ∈ h.admins) := by
  rw [Bool.eq_iff_iff, isAdmin_iff, isAdmin_iff]

theorem beq_iff_alike : (g == h) = true ↔ g.Alike h := by
  rw [beq_eq_sameAs, sameAs_iff]
  constructor
  · rintro ⟨hid, hmembers, hadmins, hname, havatar, hkind⟩
    exact ⟨hid, hname, hkind, havatar, fun x => isMember_eq_iff.2 (hmembers x),
      fun x => isAdmin_eq_iff.2 (hadmins x)⟩
  · rintro ⟨hid, hname, hkind, havatar, hmembers, hadmins⟩
    exact ⟨hid, fun x => isMember_eq_iff.1 (hmembers x), fun x => isAdmin_eq_iff.1 (hadmins x),
      hname, havatar, hkind⟩

theorem Alike.refl (g : Group) : g.Alike g := ⟨rfl, rfl, rfl, rfl, fun _ => rfl, fun _ => rfl⟩

theorem Alike.symm (hgh : g.Alike h) : h.Alike g :=
  ⟨hgh.id.symm, hgh.name.symm, hgh.kind.symm, hgh.avatar.symm, fun x => (hgh.isMember x).symm,
    fun x => (hgh.isAdmin x).symm⟩

theorem Alike.trans (hgh : g.Alike h) (hhk : h.Alike k) : g.Alike k :=
  ⟨hgh.id.trans hhk.id, hgh.name.trans hhk.name, hgh.kind.trans hhk.kind,
    hgh.avatar.trans hhk.avatar, fun x => (hgh.isMember x).trans (hhk.isMember x),
    fun x => (hgh.isAdmin x).trans (hhk.isAdmin x)⟩

theorem equivalence_beq : Equivalence fun g h : Group => (g == h) = true where
  refl g := beq_iff_alike.2 (.refl g)
  symm hgh := beq_iff_alike.2 (beq_iff_alike.1 hgh).symm
  trans hgh hhk := beq_iff_alike.2 ((beq_iff_alike.1 hgh).trans (beq_iff_alike.1 hhk))

/-! ### What equality does not see -/

/-- Lists with the same ids, and any removed ids, in place of those of a group. -/
theorem alike_with (hmembers : ∀ x, x ∈ members ↔ x ∈ g.members)
    (hadmins : ∀ x, x ∈ admins ↔ x ∈ g.admins) (removed : MemberSet) :
    ({ g with members, admins, removed } : Group).Alike g :=
  ⟨rfl, rfl, rfl, rfl, fun x => isMember_eq_iff.2 (hmembers x),
    fun x => isAdmin_eq_iff.2 (hadmins x)⟩

theorem Alike.beq_congr (hgh : g.Alike h) (k : Group) : (g == k) = (h == k) := by
  rw [Bool.eq_iff_iff, beq_iff_alike, beq_iff_alike]
  exact ⟨hgh.symm.trans, hgh.trans⟩

theorem sameAsAt_eq (memory : Nat → Group) (first second : Nat) :
    sameAsAt memory first second = (memory first == memory second) := by
  rw [sameAsAt]
  split
  · rename_i hplace
    rw [hplace]
    exact (equivalence_beq.refl _).symm
  · rfl

theorem equals_eq_true_iff {candidate : Candidate} :
    g.equals candidate = true ↔ ∃ h, candidate = .group h ∧ (g == h) = true := by
  cases candidate with
  | group h =>
    constructor
    · intro hequals
      exact ⟨h, rfl, hequals⟩
    · rintro ⟨_, heq, hequals⟩
      cases heq
      exact hequals
  | _ => simp [equals]

theorem Alike.perm_members (hgh : g.Alike h) (hg : g.Valid) (hh : h.Valid) :
    g.members.Perm h.members := by
  apply (List.perm_ext_iff_of_nodup hg.members_nodup hh.members_nodup).2
  intro x
  exact isMember_eq_iff.1 (hgh.isMember x)

theorem memberCount_eq_of_alike (hg : g.Valid) (hh : h.Valid) (hgh : g.Alike h) :
    g.memberCount = h.memberCount :=
  (hgh.perm_members hg hh).length_eq

/-- The three comparisons agree, also where places are compared first, and hold exactly for groups
that are alike. They are an equivalence, do not see the order of the two lists, repeated entries or
removed ids, and between valid groups imply the same number of members. -/
theorem comparisons_iff_alike :
    (∀ g h : Group, (g.sameAs h = true ↔ g.Alike h) ∧ ((g == h) = true ↔ g.Alike h) ∧
      (g.equals (.group h) = true ↔ g.Alike h)) ∧
    (∀ (g : Group) candidate, g.equals candidate = true →
      ∃ h, candidate = .group h ∧ (g == h) = true) ∧
    (∀ memory first second, sameAsAt memory first second = (memory first).sameAs (memory second)) ∧
    (Equivalence fun g h : Group => (g == h) = true) ∧
    (∀ (g h : Group) members admins removed, (∀ x, x ∈ members ↔ x ∈ g.members) →
      (∀ x, x ∈ admins ↔ x ∈ g.admins) → ({ g with members, admins, removed } == h) = (g == h)) ∧
    ∀ g h : Group, g.validate.value = .ok () → h.validate.value = .ok () → (g == h) = true →
      g.memberCount = h.memberCount := by
  refine ⟨fun g h => ⟨beq_iff_alike, beq_iff_alike, beq_iff_alike⟩,
    fun _ _ => equals_eq_true_iff.1, sameAsAt_eq, equivalence_beq, ?_, ?_⟩
  · intro g h members admins removed hmembers hadmins
    exact (alike_with hmembers hadmins removed).beq_congr h
  · intro g h hg hh hequal
    exact memberCount_eq_of_alike (validate_value_eq_ok_iff.1 hg) (validate_value_eq_ok_iff.1 hh)
      (beq_iff_alike.1 hequal)

def choir : Group :=
  { create (some "Choir") ["ann", "bob"] none .zero .rssFeed with
    admins := ["bob", "ann"]
    removed := .ofList ["cy"] }

/-- The group of `choir` in another order, which remembers nobody who was removed. -/
def choirAgain : Group :=
  { create (some "Choir") ["bob", "ann"] none .zero .rssFeed with admins := ["ann", "bob", "ann"] }

theorem comparisons_choir :
    choir.validate.value = .ok () ∧ choirAgain.validate.value = .ok () ∧
      (choir == choirAgain) = true ∧ choir.Alike choirAgain ∧
      choir.memberCount = choirAgain.memberCount := by
  obtain ⟨hiff, -, -, -, -, hcount⟩ := comparisons_iff_alike
  have hchoir : choir.validate.value = .ok () := by decide
  have hagain : choirAgain.validate.value = .ok () := by decide
  have hequal : (choir == choirAgain) = true := by decide
  exact ⟨hchoir, hagain, hequal, (hiff choir choirAgain).2.1.1 hequal,
    hcount choir choirAgain hchoir hagain hequal⟩

end Roster.Group
