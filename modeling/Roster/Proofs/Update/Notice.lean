import Roster.Proofs.Text.Pieces
import Roster.Proofs.Update.Rendering

/-!
# Notices

A notice keeps its lines apart. The fixed text for no update is no line of an update, for anybody,
whatever titles and names are shown, and it has no separator, so a notice with lines never reads
like the notice of no update. And the lines are found again where the separator stands, exactly if
none of them holds it: also if a line ends as the separator begins, or begins as it ends.
-/

namespace Roster

variable {lines : List String} {updates : List Update}

/-! ### The fixed text -/

theorem joinNotice_of_ne_nil (hlines : lines ≠ []) :
    joinNotice lines = noticeSeparator.intercalate lines := by
  rw [joinNotice, if_neg (mt List.isEmpty_iff.1 hlines)]

theorem joinNotice_eq_generic_iff (hother : ∀ line ∈ lines, line ≠ genericNotice) :
    joinNotice lines = genericNotice ↔ lines = [] := by
  constructor
  · intro hnotice
    by_contra hlines
    rw [joinNotice_of_ne_nil hlines] at hnotice
    obtain ⟨first, others, rfl⟩ := List.exists_cons_of_ne_nil hlines
    cases others with
    | nil =>
      rw [String.intercalate_singleton] at hnotice
      exact hother first List.mem_cons_self hnotice
    | cons second others =>
      -- two lines have a separator between them, and the fixed text has none
      have hmark : ';' ∈ genericNotice.toList := by
        rw [← hnotice, String.intercalate_cons_cons, String.toList_append, String.toList_append]
        exact List.mem_append_left _ (List.mem_append_right _ (by decide))
      exact absurd hmark (by decide)
  · rintro rfl
    rfl

theorem joinNotice_map_eq_generic_iff {render : Update → String}
    (hrender : ∀ update, render update ≠ genericNotice) :
    joinNotice (updates.map render) = genericNotice ↔ updates = [] := by
  rw [joinNotice_eq_generic_iff (List.forall_mem_map.2 fun update _ => hrender update),
    List.map_eq_nil_iff]

/-- Whatever begins as the fixed text does not is another text. -/
theorem append_ne_generic_of_start {start : String}
    (hstart : ¬ start.toList <+: genericNotice.toList) (rest : String) :
    start ++ rest ≠ genericNotice := by
  intro heq
  apply hstart
  rw [← heq, String.toList_append]
  exact List.prefix_append _ _

/-- Whatever ends as the fixed text does not is another text. -/
theorem append_ne_generic_of_end {tail : String}
    (htail : ¬ tail.toList <:+ genericNotice.toList) (rest : String) :
    rest ++ tail ≠ genericNotice := by
  intro heq
  apply htail
  rw [← heq, String.toList_append]
  exact List.suffix_append _ _

namespace Update

theorem text_ne_generic (update : Update) : update.text ≠ genericNotice := by
  cases update with
  | titleChanged title =>
    cases title with
    | none => decide
    | some title =>
      change "title changed to " ++ title ≠ genericNotice
      exact append_ne_generic_of_start (by decide) title
  | avatarChanged => decide
  | memberAdded x name =>
    change name ++ " added" ≠ genericNotice
    exact append_ne_generic_of_end (by decide) name
  | memberRemoved x name =>
    change name ++ " removed" ≠ genericNotice
    exact append_ne_generic_of_end (by decide) name

theorem ReadsAs.ne_generic {reader : MemberId} {update : Update} {line : String}
    (hreads : ReadsAs reader update line) : line ≠ genericNotice := by
  cases hreads with
  | youWereAdded name => decide
  | youWereRemoved name => decide
  | forAll _ => exact update.text_ne_generic

end Update

namespace Describer

theorem render_ne_generic (d : Describer) (update : Update) : d.render update ≠ genericNotice := by
  rw [render]
  cases d.reader with
  | none => exact update.text_ne_generic
  | some reader => exact (Update.readsAs_textFor reader update).ne_generic

end Describer

/-! ### The lines -/

theorem cut_joinNotice_eq_iff (hlines : lines ≠ []) :
    Text.cut noticeSeparator (joinNotice lines) = lines ↔
      ∀ line ∈ lines, ¬ Text.Holds noticeSeparator line := by
  rw [joinNotice_of_ne_nil hlines]
  exact Text.cut_intercalate_eq_iff (by decide) (by decide) hlines

/-- A notice is the fixed text exactly if there are no updates, whoever it is for. Otherwise it is
cut into its lines where the separator stands, exactly if no line holds the separator. -/
theorem notice_generic_iff_and_cut_iff :
    (∀ updates : List Update,
      (Update.notice updates = "group updated" ↔ updates = []) ∧
      (updates ≠ [] →
        (Text.cut "; " (Update.notice updates) = updates.map Update.text ↔
          ∀ line ∈ updates.map Update.text, ¬ Text.Holds "; " line))) ∧
    (∀ (d : Describer) (old new : Group),
      ((d.notice old new).value = "group updated" ↔ (d.changes old new).value = []) ∧
      ((d.changes old new).value ≠ [] →
        (Text.cut "; " (d.notice old new).value = (d.describe old new).value ↔
          ∀ line ∈ (d.describe old new).value, ¬ Text.Holds "; " line))) ∧
    ∀ lines : List String, lines ≠ [] →
      (Text.cut "; " (joinNotice lines) = lines ↔ ∀ line ∈ lines, ¬ Text.Holds "; " line) := by
  refine ⟨fun updates => ⟨?_, fun hupdates => ?_⟩, fun d old new => ⟨?_, fun hchanges => ?_⟩,
    fun lines hlines => ?_⟩
  · exact joinNotice_map_eq_generic_iff Update.text_ne_generic
  · exact cut_joinNotice_eq_iff (mt List.map_eq_nil_iff.1 hupdates)
  · exact joinNotice_map_eq_generic_iff d.render_ne_generic
  · exact cut_joinNotice_eq_iff (mt List.map_eq_nil_iff.1 hchanges)
  · exact cut_joinNotice_eq_iff hlines

/-- Two updates of which one ends as the separator begins, and the next begins as it ends. -/
def lunch : List Update := [.titleChanged (some "Lunch;"), .memberAdded "bo" " bo"]

def breakfastTable : Group := .create none ["ann"] none .zero .signal

/-- The group of `breakfastTable` after it was renamed and a member came. -/
def lunchTable : Group := .create (some "Lunch;") ["ann", "bo"] none .zero .signal

theorem cut_notice_lunch :
    lunch ≠ [] ∧ (∀ line ∈ lunch.map Update.text, ¬ Text.Holds "; " line) ∧
      Update.notice lunch = "title changed to Lunch;;  bo added" ∧
      Text.cut "; " (Update.notice lunch) = ["title changed to Lunch;", " bo added"] ∧
      (Describer.notice ⟨.raw, some "bo"⟩ breakfastTable lunchTable).value
        = "title changed to Lunch;; you were added" ∧
      Text.cut "; " (Describer.notice ⟨.raw, some "bo"⟩ breakfastTable lunchTable).value
        = ["title changed to Lunch;", "you were added"] ∧
      Text.cut "; " (joinNotice ["a; b", "c"]) ≠ ["a; b", "c"] := by
  obtain ⟨hupdates, hgroups, hlines⟩ := notice_generic_iff_and_cut_iff
  have hlunch : ∀ line ∈ lunch.map Update.text, ¬ Text.Holds "; " line := by decide
  refine ⟨by decide, hlunch, by decide, ((hupdates lunch).2 (by decide)).2 hlunch, by decide,
    ((hgroups ⟨.raw, some "bo"⟩ breakfastTable lunchTable).2 (by decide)).2 (by decide), ?_⟩
  exact fun hcut => absurd ((hlines ["a; b", "c"] (by decide)).1 hcut) (by decide)

end Roster
