import Roster.Proofs.Update.Difference

/-!
# What descriptions give away

What is told of a change depends on the titles and the members of the two states, and on whether
they have the same avatar. Ids, kinds, admins and removed ids are never told, and neither is
anything else about an avatar. The one thing that is told about avatars cannot be hidden: two
changes with the same titles and members are told alike only if both change the avatar or neither.
-/

namespace Roster

/-- Whether two groups have the same title and list the same members. -/
structure Group.SameOutside (g h : Group) : Prop where
  name : g.name = h.name
  members : g.members = h.members

namespace Describer

variable {d : Describer} {old old' new new' g h : Group}

/-! ### The parts of the updates -/

theorem titleUpdate_congr (hold : old.SameOutside old') (hnew : new.SameOutside new') :
    titleUpdate old new = titleUpdate old' new' := by
  rw [titleUpdate, titleUpdate, hold.name, hnew.name]

theorem avatarUpdate_congr (havatar : old.avatar = new.avatar ↔ old'.avatar = new'.avatar) :
    avatarUpdate old new = avatarUpdate old' new' := by
  simp only [avatarUpdate, havatar]

theorem missingFrom_congr (hgh : g.SameOutside h) (members : List MemberId) :
    missingFrom g members = missingFrom h members := by
  simp only [missingFrom, Group.isMember, hgh.members]

theorem additions_congr (hold : old.SameOutside old') (hnew : new.SameOutside new') :
    d.additions old new = d.additions old' new' := by
  rw [additions, additions, missingFrom_congr hold, hnew.members]

theorem removals_congr (hold : old.SameOutside old') (hnew : new.SameOutside new') :
    d.removals old new = d.removals old' new' := by
  rw [removals, removals, missingFrom_congr hnew, hold.members]

/-! ### The updates and their texts -/

theorem changes_value_congr_iff (hold : old.SameOutside old') (hnew : new.SameOutside new') :
    (d.changes old new).value = (d.changes old' new').value ↔
      (old.avatar = new.avatar ↔ old'.avatar = new'.avatar) := by
  constructor
  · intro hchanges
    have htold : old.avatar ≠ new.avatar ↔ old'.avatar ≠ new'.avatar := by
      rw [← avatarChanged_mem_changes_iff (d := d), hchanges, avatarChanged_mem_changes_iff]
    exact not_iff_not.1 htold
  · intro havatar
    rw [changes_value, changes_value, titleUpdate_congr hold hnew, avatarUpdate_congr havatar,
      additions_congr hold hnew, removals_congr hold hnew]

/-- Where titles and members are the same, the updates are the same exactly if both changes touch
the avatar or neither does, and then all that is told of the one is told of the other, to everybody
and under all names. -/
theorem same_descriptions (d : Describer) (old old' new new' : Group)
    (hold : old.SameOutside old') (hnew : new.SameOutside new') :
    ((d.changes old new).value = (d.changes old' new').value ↔
      (old.avatar = new.avatar ↔ old'.avatar = new'.avatar)) ∧
      ((old.avatar = new.avatar ↔ old'.avatar = new'.avatar) →
        (d.describe old new).value = (d.describe old' new').value ∧
        (d.notice old new).value = (d.notice old' new').value ∧
        (describeUpdate d.resolver old new).value
          = (describeUpdate d.resolver old' new').value) := by
  refine ⟨changes_value_congr_iff hold hnew, fun havatar => ?_⟩
  have hdescribe (d : Describer) :
      (d.describe old new).value = (d.describe old' new').value :=
    congrArg (List.map d.render) ((changes_value_congr_iff hold hnew).2 havatar)
  exact ⟨hdescribe d, congrArg joinNotice (hdescribe d), hdescribe _⟩

/-- A group with an avatar. -/
def ball : Group :=
  { Group.create (some "Ball") ["ann", "bob"] (some ⟨[1, 2]⟩) .zero .signal with admins := ["ann"] }

/-- The group of `ball` without its avatar and with another member. -/
def ballLater : Group := Group.create (some "Ball") ["bob", "cy"] none .zero .signal

/-- A group of the same title and members as `ball`, and otherwise different in everything. -/
def masquerade : Group :=
  { Group.create (some "Ball") ["ann", "bob"] none (.uniform 7) .rssFeed with
    admins := ["bob", "eve"]
    removed := .ofList ["cy"] }

/-- A group of the same title and members as `ballLater`, and otherwise different in everything. -/
def masqueradeLater : Group :=
  { Group.create (some "Ball") ["bob", "cy"] (some ⟨[9]⟩) (.uniform 8) .publicChat with
    admins := ["cy"]
    removed := .ofList ["ann", "eve"] }

theorem same_descriptions_masquerade :
    ball.SameOutside masquerade ∧ ballLater.SameOutside masqueradeLater ∧
      ball.avatar ≠ ballLater.avatar ∧ masquerade.avatar ≠ masqueradeLater.avatar ∧
      (changes ⟨.raw, some "cy"⟩ masquerade masqueradeLater).value
        = [.avatarChanged, .memberAdded "cy" "cy", .memberRemoved "ann" "ann"] ∧
      (notice ⟨.raw, some "cy"⟩ ball ballLater).value
        = (notice ⟨.raw, some "cy"⟩ masquerade masqueradeLater).value ∧
      (changes ⟨.raw, some "cy"⟩ ball ballLater).value
        ≠ (changes ⟨.raw, some "cy"⟩ masquerade { masqueradeLater with avatar := none }).value := by
  have hold : ball.SameOutside masquerade := ⟨rfl, rfl⟩
  have hnew : ballLater.SameOutside masqueradeLater := ⟨rfl, rfl⟩
  have hbare : ballLater.SameOutside { masqueradeLater with avatar := none } := ⟨rfl, rfl⟩
  have hchanged : ball.avatar ≠ ballLater.avatar := by decide
  have hchanged' : masquerade.avatar ≠ masqueradeLater.avatar := by decide
  obtain ⟨-, htold⟩ := same_descriptions ⟨.raw, some "cy"⟩ _ _ _ _ hold hnew
  obtain ⟨hbit, -⟩ := same_descriptions ⟨.raw, some "cy"⟩ _ _ _ _ hold hbare
  exact ⟨hold, hnew, hchanged, hchanged', by decide,
    (htold (iff_of_false hchanged hchanged')).2.1, fun heq => hchanged ((hbit.1 heq).2 rfl)⟩

end Describer

end Roster
