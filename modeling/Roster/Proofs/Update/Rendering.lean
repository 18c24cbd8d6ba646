import Mathlib.Data.List.Forall2
import Roster.Proofs.Update.Composition

/-!
# The texts of updates

Every update has one line, in the order of the updates, and all ways to the texts agree. On the
device of a reader the lines are the same but for the updates about the reader, who is told of them
directly and under no name. Another line reads the same only where a member who came or left is
shown by the name `you were`. Between valid states at most one line speaks to the reader, and none
does if the reader is a member of both states or of neither.
-/

namespace Roster

namespace Update

/-- The line of an update on the device of a reader. -/
inductive ReadsAs (reader : MemberId) : Update → String → Prop
  | youWereAdded (name : String) : ReadsAs reader (.memberAdded reader name) "you were added"
  | youWereRemoved (name : String) : ReadsAs reader (.memberRemoved reader name) "you were removed"
  | forAll {update : Update} (hother : update.about ≠ some reader) :
      ReadsAs reader update update.text

/-- Whether lines are those on the device of a reader, next to the lines for everybody. -/
structure Addressed (reader : MemberId) (updates : List Update) (plain lines : List String) :
    Prop where
  length : lines.length = plain.length
  reads : List.Forall₂ (ReadsAs reader) updates lines
  others : ∀ (i : Nat) (update : Update), updates[i]? = some update →
    update.about ≠ some reader → lines[i]? = plain[i]?
  added : ∀ i : Nat, lines[i]? = some "you were added" ↔
    ∃ x name, updates[i]? = some (memberAdded x name) ∧ (x = reader ∨ name = "you were")
  removed : ∀ i : Nat, lines[i]? = some "you were removed" ↔
    ∃ x name, updates[i]? = some (memberRemoved x name) ∧ (x = reader ∨ name = "you were")

/-- Whether two lists of lines differ in one place at most. -/
def DifferOnceAtMost (plain lines : List String) : Prop :=
  ∀ i j : Nat, lines[i]? ≠ plain[i]? → lines[j]? ≠ plain[j]? → i = j

variable {reader x : MemberId} {update : Update} {updates : List Update} {line rest : String}
  {i j : Nat}

/-! ### One line -/

theorem readsAs_textFor (reader : MemberId) (update : Update) :
    ReadsAs reader update (update.textFor reader) := by
  cases update with
  | titleChanged title => exact .forAll nofun
  | avatarChanged => exact .forAll nofun
  | memberAdded x name =>
    by_cases heq : x = reader
    · rw [textFor, if_pos heq, heq]
      exact .youWereAdded name
    · rw [textFor, if_neg heq]
      exact .forAll fun habout => heq (Option.some.inj habout)
  | memberRemoved x name =>
    by_cases heq : x = reader
    · rw [textFor, if_pos heq, heq]
      exact .youWereRemoved name
    · rw [textFor, if_neg heq]
      exact .forAll fun habout => heq (Option.some.inj habout)

theorem ReadsAs.eq_text (hreads : ReadsAs reader update line)
    (hother : update.about ≠ some reader) : line = update.text := by
  cases hreads with
  | youWereAdded name => exact absurd rfl hother
  | youWereRemoved name => exact absurd rfl hother
  | forAll _ => rfl

/-- What is told of a title or an avatar begins with another letter. -/
theorem about_ne_none_of_text (heq : update.text = "you were" ++ rest) : update.about ≠ none := by
  have hfirst : update.text.toList.head? = some 'y' := by
    rw [heq, String.toList_append, List.head?_append]
    rfl
  cases update with
  | titleChanged title =>
    cases title with
    | none => exact absurd hfirst (by decide)
    | some title =>
      change ("title changed to " ++ title).toList.head? = some 'y' at hfirst
      rw [String.toList_append, List.head?_append] at hfirst
      cases hfirst
  | avatarChanged => exact absurd hfirst (by decide)
  | memberAdded x name => exact Option.some_ne_none x
  | memberRemoved x name => exact Option.some_ne_none x

/-- Who comes and who leaves have lines with different ends. -/
theorem append_added_ne_append_removed (name name' : String) :
    name ++ " added" ≠ name' ++ " removed" := by
  intro heq
  have hend := congrArg (fun line => line.toList.reverse.take 3) heq
  simp at hend

theorem text_eq_youWereAdded_iff :
    update.text = "you were added" ↔ ∃ x, update = .memberAdded x "you were" := by
  change update.text = "you were" ++ " added" ↔ _
  constructor
  · intro heq
    cases update with
    | memberAdded x name =>
      have hname : name = "you were" := (String.append_left_inj _).1 heq
      exact ⟨x, hname ▸ rfl⟩
    | memberRemoved x name => exact absurd heq.symm (append_added_ne_append_removed _ name)
    | _ => exact absurd rfl (about_ne_none_of_text heq)
  · rintro ⟨x, rfl⟩
    rfl

theorem text_eq_youWereRemoved_iff :
    update.text = "you were removed" ↔ ∃ x, update = .memberRemoved x "you were" := by
  change update.text = "you were" ++ " removed" ↔ _
  constructor
  · intro heq
    cases update with
    | memberAdded x name => exact absurd heq (append_added_ne_append_removed name _)
    | memberRemoved x name =>
      have hname : name = "you were" := (String.append_left_inj _).1 heq
      exact ⟨x, hname ▸ rfl⟩
    | _ => exact absurd rfl (about_ne_none_of_text heq)
  · rintro ⟨x, rfl⟩
    rfl

/-- A line for everybody that speaks to somebody shows this name. -/
theorem text_eq_iff_of_other {made : MemberId → String → Update}
    (habout : ∀ x name, (made x name).about = some x)
    (htext : update.text = line ↔ ∃ x, update = made x "you were")
    (hother : update.about ≠ some reader) :
    update.text = line ↔ ∃ x name, update = made x name ∧ (x = reader ∨ name = "you were") := by
  rw [htext]
  constructor
  · rintro ⟨x, hupdate⟩
    exact ⟨x, _, hupdate, .inr rfl⟩
  · rintro ⟨x, name, hupdate, hx | hname⟩
    · rw [hupdate, habout, hx] at hother
      exact absurd rfl hother
    · exact ⟨x, hname ▸ hupdate⟩

theorem ReadsAs.eq_youWereAdded_iff (hreads : ReadsAs reader update line) :
    line = "you were added" ↔
      ∃ x name, update = .memberAdded x name ∧ (x = reader ∨ name = "you were") := by
  cases hreads with
  | youWereAdded name => exact ⟨fun _ => ⟨reader, name, rfl, .inl rfl⟩, fun _ => rfl⟩
  | youWereRemoved name => exact ⟨fun heq => absurd heq (by decide), nofun⟩
  | forAll hother => exact text_eq_iff_of_other (fun _ _ => rfl) text_eq_youWereAdded_iff hother

theorem ReadsAs.eq_youWereRemoved_iff (hreads : ReadsAs reader update line) :
    line = "you were removed" ↔
      ∃ x name, update = .memberRemoved x name ∧ (x = reader ∨ name = "you were") := by
  cases hreads with
  | youWereAdded name => exact ⟨fun heq => absurd heq (by decide), nofun⟩
  | youWereRemoved name => exact ⟨fun _ => ⟨reader, name, rfl, .inl rfl⟩, fun _ => rfl⟩
  | forAll hother => exact text_eq_iff_of_other (fun _ _ => rfl) text_eq_youWereRemoved_iff hother

/-! ### All lines -/

theorem textFor_eq_text (hother : update.about ≠ some reader) :
    update.textFor reader = update.text :=
  (readsAs_textFor reader update).eq_text hother

/-- Only an update about the reader has another line there. -/
theorem exists_about_of_line_ne
    (hne : (updates.map (textFor reader))[i]? ≠ (updates.map text)[i]?) :
    ∃ update, updates[i]? = some update ∧ update.about = some reader := by
  rw [List.getElem?_map, List.getElem?_map] at hne
  cases hupdate : updates[i]? with
  | none =>
    rw [hupdate] at hne
    exact absurd rfl hne
  | some update =>
    refine ⟨update, rfl, ?_⟩
    by_contra hother
    rw [hupdate, Option.map_some, Option.map_some, textFor_eq_text hother] at hne
    exact hne rfl

theorem getElem?_lines_iff {made : MemberId → String → Update}
    (hline : ∀ update : Update, update.textFor reader = line ↔
      ∃ x name, update = made x name ∧ (x = reader ∨ name = "you were")) :
    (updates.map (textFor reader))[i]? = some line ↔
      ∃ x name, updates[i]? = some (made x name) ∧ (x = reader ∨ name = "you were") := by
  rw [List.getElem?_map, Option.map_eq_some_iff]
  constructor
  · rintro ⟨update, hupdate, htext⟩
    obtain ⟨x, name, rfl, hname⟩ := (hline update).1 htext
    exact ⟨x, name, hupdate, hname⟩
  · rintro ⟨x, name, hupdate, hname⟩
    exact ⟨_, hupdate, (hline _).2 ⟨x, name, rfl, hname⟩⟩

theorem addressed_map_textFor (reader : MemberId) (updates : List Update) :
    Addressed reader updates (updates.map text) (updates.map (textFor reader)) where
  length := by rw [List.length_map, List.length_map]
  reads := List.forall₂_map_right_iff.2
    (List.forall₂_same.2 fun update _ => readsAs_textFor reader update)
  others i update hupdate hother := by
    by_contra hne
    obtain ⟨other, hother', habout⟩ := exists_about_of_line_ne hne
    rw [hupdate] at hother'
    cases hother'
    exact hother habout
  added _ := getElem?_lines_iff fun update =>
    (readsAs_textFor reader update).eq_youWereAdded_iff
  removed _ := getElem?_lines_iff fun update =>
    (readsAs_textFor reader update).eq_youWereRemoved_iff

/-- Where nobody is the subject of two updates, at most one of them is about the reader. -/
theorem differOnceAtMost_of_nodup (hnodup : (updates.filterMap about).Nodup) :
    DifferOnceAtMost (updates.map text) (updates.map (textFor reader)) := by
  intro i j hi hj
  obtain ⟨first, hfirst, habout⟩ := exists_about_of_line_ne hi
  obtain ⟨second, hsecond, habout'⟩ := exists_about_of_line_ne hj
  obtain ⟨hlt, rfl⟩ := List.getElem?_eq_some_iff.1 hfirst
  obtain ⟨hlt', rfl⟩ := List.getElem?_eq_some_iff.1 hsecond
  -- `Nodup` of the subjects says that two updates at different places have different subjects.
  rw [List.Nodup, List.pairwise_filterMap, List.pairwise_iff_getElem] at hnodup
  rcases Nat.lt_trichotomy i j with hij | heq | hji
  · exact absurd rfl (hnodup i j hlt hlt' hij reader habout reader habout')
  · exact heq
  · exact absurd rfl (hnodup j i hlt' hlt hji reader habout' reader habout)

theorem map_textFor_of_not_mentions (hnone : ¬ Mentions updates reader) :
    updates.map (textFor reader) = updates.map text := by
  apply List.map_congr_left
  intro update hmem
  exact textFor_eq_text fun habout => hnone ⟨update, hmem, habout⟩

end Update

namespace Describer

open Update

variable {d : Describer} {old new : Group}

theorem nodup_about_changes (hold : old.validate.value = .ok ())
    (hnew : new.validate.value = .ok ()) :
    ((d.changes old new).value.filterMap about).Nodup := by
  rw [filterMap_about_changes]
  exact nodup_missingFrom_append (Group.validate_value_eq_ok_iff.1 hold).members_nodup
    (Group.validate_value_eq_ok_iff.1 hnew).members_nodup

/-- Without a reader all ways to the texts agree. With one the updates are the same, and so are the
lines but for updates about the reader, which speak to the reader. Between valid states this is at
most one, and there is none where the reader is a member of both states or of neither. -/
theorem describe_lines (resolver : Resolver) (old new : Group) :
    describe ⟨resolver, none⟩ old new = describeUpdate resolver old new ∧
      (describeUpdate resolver old new).value
        = (changes ⟨resolver, none⟩ old new).value.map text ∧
      (notice ⟨resolver, none⟩ old new).value
        = Update.notice (changes ⟨resolver, none⟩ old new).value ∧
      ∀ reader,
        changes ⟨resolver, some reader⟩ old new = changes ⟨resolver, none⟩ old new ∧
        Addressed reader (changes ⟨resolver, none⟩ old new).value
          (describeUpdate resolver old new).value
          (describe ⟨resolver, some reader⟩ old new).value ∧
        (old.validate.value = .ok () → new.validate.value = .ok () →
          DifferOnceAtMost (describeUpdate resolver old new).value
            (describe ⟨resolver, some reader⟩ old new).value) ∧
        (old.isMember reader = new.isMember reader →
          (describe ⟨resolver, some reader⟩ old new).value
            = (describeUpdate resolver old new).value) := by
  refine ⟨rfl, rfl, rfl, fun reader =>
    ⟨rfl, addressed_map_textFor reader _, ?_, ?_⟩⟩
  · intro hold hnew
    exact differOnceAtMost_of_nodup (nodup_about_changes hold hnew)
  · intro hsame
    exact map_textFor_of_not_mentions fun hmentions => mentions_changes_iff.1 hmentions hsame

def quartet : Group := .create none ["ann", "bob"] none .zero .signal

/-- The group of `quartet` after one of its members left and two others came. -/
def quartetLater : Group := .create none ["ann", "cy", "dee"] none .zero .signal

/-- Knows one of them by a name that makes a line look as if it spoke to the reader. -/
def quartetNames : Resolver := .ofDirectory [("dee", "you were")]

theorem describe_lines_quartet :
    quartet.validate.value = .ok () ∧ quartetLater.validate.value = .ok () ∧
      (describeUpdate quartetNames quartet quartetLater).value
        = ["cy added", "you were added", "bob removed"] ∧
      (describe ⟨quartetNames, some "cy"⟩ quartet quartetLater).value
        = ["you were added", "you were added", "bob removed"] ∧
      DifferOnceAtMost (describeUpdate quartetNames quartet quartetLater).value
        (describe ⟨quartetNames, some "cy"⟩ quartet quartetLater).value ∧
      (describe ⟨quartetNames, some "ann"⟩ quartet quartetLater).value
        = (describeUpdate quartetNames quartet quartetLater).value := by
  have hold : quartet.validate.value = .ok () := by decide
  have hnew : quartetLater.validate.value = .ok () := by decide
  obtain ⟨-, -, -, hreaders⟩ := describe_lines quartetNames quartet quartetLater
  obtain ⟨-, -, honce, -⟩ := hreaders "cy"
  obtain ⟨-, -, -, hsame⟩ := hreaders "ann"
  exact ⟨hold, hnew, by decide, by decide, honce hold hnew, hsame (by decide)⟩

end Describer

end Roster
