import Roster.Proofs.Update.Difference

/-!
# Updates over two steps

What the updates say about an id is decided by whether it is a member before and whether it is one
afterwards. So whoever is in the updates of just one of two steps is in the same update over both,
and whoever is in both came with one step and left with the other, and is in none. The avatar and
the title change over both steps if they change in just one, and may be the old ones again if they
change in both.
-/

namespace Roster

namespace Update

/-- Whether an update is about an id. -/
def Mentions (updates : List Update) (x : MemberId) : Prop :=
  ∃ update ∈ updates, update.about = some x

/-- Whether updates say this about a member, and nothing else. -/
def SaysOnly (updates : List Update) (update : Update) : Prop :=
  ∀ other, other.about = update.about → (other ∈ updates ↔ other = update)

def Retitles (updates : List Update) : Prop := ∃ title, .titleChanged title ∈ updates

end Update

/-- What two steps tell about a change over both: there is none if neither step makes it, and there
is one if just one of them does. -/
structure Follows (first second whole : Prop) : Prop where
  absent : ¬ first → ¬ second → ¬ whole
  present : Xor first second → whole

namespace Describer

open Update

/-- Whether updates are those over two steps, given the updates of the first and of the second. -/
structure Composed (start goal : Group) (first second whole : List Update) : Prop where
  mentions : ∀ x, Mentions whole x ↔ Xor (Mentions first x) (Mentions second x)
  same : ∀ x, Mentions whole x → ∀ update, update.about = some x →
    (update ∈ whole ↔ update ∈ first ∨ update ∈ second)
  opposed : ∀ x, Mentions first x → Mentions second x → ∃ name,
    SaysOnly first (.memberAdded x name) ∧ SaysOnly second (.memberRemoved x name) ∨
      SaysOnly first (.memberRemoved x name) ∧ SaysOnly second (.memberAdded x name)
  avatar : Follows (.avatarChanged ∈ first) (.avatarChanged ∈ second) (.avatarChanged ∈ whole)
  retitles : Follows (Retitles first) (Retitles second) (Retitles whole)
  title : ∀ title, .titleChanged title ∈ whole → title = goal.name
  retitled_twice : Retitles first → Retitles second → (Retitles whole ↔ start.name ≠ goal.name)

/-- The update about a member, given whether it was one before and whether it is one afterwards. -/
def crossing (d : Describer) (x : MemberId) : Bool → Bool → Option Update
  | false, true => some (.memberAdded x (d.resolve x).value)
  | true, false => some (.memberRemoved x (d.resolve x).value)
  | false, false | true, true => none

variable {d : Describer} {old new : Group} {x : MemberId} {update : Update} {before after : Bool}

/-! ### One id in one step -/

theorem about_of_crossing (hcrossing : d.crossing x before after = some update) :
    update.about = some x := by
  cases before <;> cases after <;> cases hcrossing <;> rfl

theorem mem_changes_iff_crossing (habout : update.about = some x) :
    update ∈ (d.changes old new).value ↔
      d.crossing x (old.isMember x) (new.isMember x) = some update := by
  cases update with
  | titleChanged title => cases habout
  | avatarChanged => cases habout
  | memberAdded y name =>
    cases habout
    rw [memberAdded_mem_changes_iff, ← Group.isMember_iff, ← Group.isMember_iff]
    cases old.isMember x <;> cases new.isMember x <;> simp [crossing, eq_comm]
  | memberRemoved y name =>
    cases habout
    rw [memberRemoved_mem_changes_iff, ← Group.isMember_iff, ← Group.isMember_iff]
    cases old.isMember x <;> cases new.isMember x <;> simp [crossing, eq_comm]

theorem mentions_changes_iff :
    Mentions (d.changes old new).value x ↔ old.isMember x ≠ new.isMember x := by
  constructor
  · rintro ⟨update, hmem, habout⟩ hsame
    rw [mem_changes_iff_crossing habout, hsame] at hmem
    cases hmember : new.isMember x <;> rw [hmember] at hmem <;> cases hmem
  · intro hmoved
    obtain ⟨update, hcrossing⟩ :
        ∃ update, d.crossing x (old.isMember x) (new.isMember x) = some update := by
      cases hold : old.isMember x <;> cases hnew : new.isMember x
      · exact absurd (hold.trans hnew.symm) hmoved
      · exact ⟨_, rfl⟩
      · exact ⟨_, rfl⟩
      · exact absurd (hold.trans hnew.symm) hmoved
    have habout := about_of_crossing hcrossing
    exact ⟨update, (mem_changes_iff_crossing habout).2 hcrossing, habout⟩

theorem saysOnly_of_crossing
    (hcrossing : d.crossing x (old.isMember x) (new.isMember x) = some update) :
    SaysOnly (d.changes old new).value update := by
  intro other habout
  rw [mem_changes_iff_crossing (habout.trans (about_of_crossing hcrossing)), hcrossing,
    Option.some_inj, eq_comm]

theorem retitles_changes_iff : Retitles (d.changes old new).value ↔ old.name ≠ new.name := by
  constructor
  · rintro ⟨title, hmem⟩
    exact (titleChanged_mem_changes_iff.1 hmem).2
  · intro hname
    exact ⟨new.name, titleChanged_mem_changes_iff.2 ⟨rfl, hname⟩⟩

/-! ### Two steps -/

theorem follows_ne {α : Type} (a b c : α) : Follows (a ≠ b) (b ≠ c) (a ≠ c) where
  absent := by
    intro hfirst hsecond
    rw [not_not] at hfirst hsecond
    rw [hfirst, hsecond]
    exact not_not_intro rfl
  present := by
    rintro (⟨hfirst, hsecond⟩ | ⟨hsecond, hfirst⟩)
    · rw [not_not] at hsecond
      exact hsecond ▸ hfirst
    · rw [not_not] at hfirst
      exact hfirst ▸ hsecond

/-- Who is in the updates of both steps is where it was. -/
theorem ne_iff_xor_ne (p q r : Bool) : p ≠ r ↔ Xor (p ≠ q) (q ≠ r) := by
  cases p <;> cases q <;> cases r <;> decide

theorem crossing_eq_some_iff_of_ne {p q r : Bool} (hmoved : p ≠ r) :
    d.crossing x p r = some update ↔
      d.crossing x p q = some update ∨ d.crossing x q r = some update := by
  cases p <;> cases q <;> cases r <;> simp_all [crossing]

theorem saysOnly_changes_of_ne {a b c : Group} (hfirst : a.isMember x ≠ b.isMember x)
    (hsecond : b.isMember x ≠ c.isMember x) :
    ∃ name,
      SaysOnly (d.changes a b).value (.memberAdded x name) ∧
        SaysOnly (d.changes b c).value (.memberRemoved x name) ∨
      SaysOnly (d.changes a b).value (.memberRemoved x name) ∧
        SaysOnly (d.changes b c).value (.memberAdded x name) := by
  refine ⟨(d.resolve x).value, ?_⟩
  cases hb : b.isMember x with
  | true =>
    have ha : a.isMember x = false := Bool.eq_false_iff.2 (hb ▸ hfirst)
    have hc : c.isMember x = false := Bool.eq_false_iff.2 (Ne.symm (hb ▸ hsecond))
    exact .inl ⟨saysOnly_of_crossing (by rw [ha, hb]; rfl),
      saysOnly_of_crossing (by rw [hb, hc]; rfl)⟩
  | false =>
    have ha : a.isMember x = true := Bool.eq_true_of_not_eq_false (hb ▸ hfirst)
    have hc : c.isMember x = true := Bool.eq_true_of_not_eq_false (Ne.symm (hb ▸ hsecond))
    exact .inr ⟨saysOnly_of_crossing (by rw [ha, hb]; rfl),
      saysOnly_of_crossing (by rw [hb, hc]; rfl)⟩

/-- The updates from a first state to a third one are composed of those from the first to a second
state and those from the second to the third, for all states and all names. -/
theorem composed_changes (d : Describer) (a b c : Group) :
    Composed a c (d.changes a b).value (d.changes b c).value (d.changes a c).value where
  mentions x := by
    rw [mentions_changes_iff, mentions_changes_iff, mentions_changes_iff]
    exact ne_iff_xor_ne _ _ _
  same x hmentions update habout := by
    rw [mem_changes_iff_crossing habout, mem_changes_iff_crossing habout,
      mem_changes_iff_crossing habout]
    exact crossing_eq_some_iff_of_ne (mentions_changes_iff.1 hmentions)
  opposed x hfirst hsecond :=
    saysOnly_changes_of_ne (mentions_changes_iff.1 hfirst) (mentions_changes_iff.1 hsecond)
  avatar := by
    rw [avatarChanged_mem_changes_iff, avatarChanged_mem_changes_iff,
      avatarChanged_mem_changes_iff]
    exact follows_ne _ _ _
  retitles := by
    rw [retitles_changes_iff, retitles_changes_iff, retitles_changes_iff]
    exact follows_ne _ _ _
  title title hmem := (titleChanged_mem_changes_iff.1 hmem).1
  retitled_twice _ _ := retitles_changes_iff

end Describer

end Roster
