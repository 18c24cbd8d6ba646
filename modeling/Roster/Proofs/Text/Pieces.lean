import Mathlib.Data.List.Infix

/-!
# Pieces of a text

A text is cut at a separator from the left: an occurrence ends a piece, and what stands behind it is
cut on. Joining the pieces gives the text back, and no piece holds the separator. A separator is
unbordered when no end of it is also a beginning of it, so that two occurrences never overlap and
none reaches from a text into the separator behind it. At an unbordered separator, joined texts are
cut into the same texts again if none of them holds it, and only then.
-/

namespace Roster.Text

/-- The pieces of a row of characters between the occurrences of a separator. -/
def pieces (separator : List Char) : List Char → List (List Char)
  | [] => [[]]
  | c :: rest =>
    if separator <+: c :: rest then [] :: pieces separator (rest.drop (separator.length - 1))
    else (pieces separator rest).modifyHead (c :: ·)
termination_by row => row.length

/-- The pieces of a text between the occurrences of a separator. -/
def cut (separator text : String) : List String :=
  (pieces separator.toList text.toList).map String.ofList

/-- Whether a part stands somewhere in a text. -/
def Holds (part text : String) : Prop := part.toList <:+: text.toList

instance (part text : String) : Decidable (Holds part text) :=
  inferInstanceAs (Decidable (part.toList <:+: text.toList))

/-- Whether only all of a separator, or nothing, is both a beginning and an end of it. -/
def Unbordered (separator : List Char) : Prop :=
  ∀ border, border <+: separator → border <:+ separator → border = [] ∨ border = separator

instance (separator : List Char) : Decidable (Unbordered separator) :=
  decidable_of_iff (∀ border ∈ separator.inits,
    border <:+ separator → border = [] ∨ border = separator)
    (forall_congr' fun border => imp_congr_left (List.mem_inits border separator))

variable {separator row rest piece : List Char} {rows : List (List Char)} {c : Char}

/-! ### What the pieces are -/

theorem pieces_cons_of_occurs (hhere : separator <+: c :: rest) :
    pieces separator (c :: rest)
      = [] :: pieces separator (rest.drop (separator.length - 1)) := by
  rw [pieces, if_pos hhere]

theorem pieces_cons_of_not_occurs (hhere : ¬ separator <+: c :: rest) :
    pieces separator (c :: rest) = (pieces separator rest).modifyHead (c :: ·) := by
  rw [pieces, if_neg hhere]

theorem pieces_ne_nil (separator row : List Char) : pieces separator row ≠ [] := by
  induction row with
  | nil => rw [pieces]; exact List.cons_ne_nil _ _
  | cons c rest ih =>
    by_cases hhere : separator <+: c :: rest
    · rw [pieces_cons_of_occurs hhere]
      exact List.cons_ne_nil _ _
    · rw [pieces_cons_of_not_occurs hhere]
      exact mt List.modifyHead_eq_nil_iff.1 ih

/-- Where the separator begins, what is behind it is cut on. -/
theorem pieces_separator_append (hsep : separator ≠ []) :
    pieces separator (separator ++ rest) = [] :: pieces separator rest := by
  obtain ⟨c, tail, rfl⟩ := List.exists_cons_of_ne_nil hsep
  have hhere : c :: tail <+: c :: (tail ++ rest) := List.prefix_append (c :: tail) rest
  rw [List.cons_append, pieces_cons_of_occurs hhere, List.length_cons, Nat.add_sub_cancel,
    List.drop_left]

theorem append_drop_of_occurs (hsep : separator ≠ []) (hhere : separator <+: c :: rest) :
    separator ++ rest.drop (separator.length - 1) = c :: rest := by
  obtain ⟨d, tail, rfl⟩ := List.exists_cons_of_ne_nil hsep
  obtain ⟨rfl, htail⟩ := List.cons_prefix_cons.1 hhere
  rw [List.length_cons, Nat.add_sub_cancel, List.cons_append, List.prefix_iff_eq_append.1 htail]

theorem intercalate_modifyHead_cons (hrows : rows ≠ []) :
    separator.intercalate (rows.modifyHead (c :: ·)) = c :: separator.intercalate rows := by
  obtain ⟨first, others, rfl⟩ := List.exists_cons_of_ne_nil hrows
  cases others with
  | nil => rw [List.modifyHead_cons, List.intercalate_singleton, List.intercalate_singleton]
  | cons second others =>
    rw [List.modifyHead_cons, List.intercalate_cons_cons, List.intercalate_cons_cons]
    rfl

theorem intercalate_pieces (hsep : separator ≠ []) (row : List Char) :
    separator.intercalate (pieces separator row) = row := by
  induction row using pieces.induct separator with
  | case1 => rw [pieces, List.intercalate_singleton]
  | case2 c rest hhere ih =>
    rw [pieces_cons_of_occurs hhere, List.intercalate_cons_of_ne_nil (pieces_ne_nil _ _), ih,
      List.nil_append, append_drop_of_occurs hsep hhere]
  | case3 c rest hhere ih =>
    rw [pieces_cons_of_not_occurs hhere, intercalate_modifyHead_cons (pieces_ne_nil _ _), ih]

theorem head_prefix_intercalate (first : List Char) (others : List (List Char)) :
    first <+: separator.intercalate (first :: others) := by
  cases others with
  | nil => rw [List.intercalate_singleton]
  | cons second others =>
    rw [List.intercalate_cons_cons, List.append_assoc]
    exact List.prefix_append _ _

theorem not_infix_of_mem_pieces (hsep : separator ≠ []) (hpiece : piece ∈ pieces separator row) :
    ¬ separator <:+: piece := by
  induction row using pieces.induct separator generalizing piece with
  | case1 =>
    rw [pieces] at hpiece
    rw [List.mem_singleton.1 hpiece]
    exact fun hinfix => hsep (List.infix_nil.1 hinfix)
  | case2 c rest hhere ih =>
    rw [pieces_cons_of_occurs hhere] at hpiece
    rcases List.mem_cons.1 hpiece with rfl | hpiece
    · exact fun hinfix => hsep (List.infix_nil.1 hinfix)
    · exact ih hpiece
  | case3 c rest hhere ih =>
    have hjoined := intercalate_pieces hsep rest
    obtain ⟨first, others, hpieces⟩ := List.exists_cons_of_ne_nil (pieces_ne_nil separator rest)
    rw [hpieces] at hjoined ih
    rw [pieces_cons_of_not_occurs hhere, hpieces, List.modifyHead_cons] at hpiece
    rcases List.mem_cons.1 hpiece with rfl | hpiece
    · -- an occurrence at the front of the first piece would stand at the front of the row
      have hfirst : first <+: rest := hjoined ▸ head_prefix_intercalate first others
      intro hinfix
      rcases List.infix_cons_iff.1 hinfix with hfront | hlater
      · exact hhere (hfront.trans (List.prefix_cons_inj c |>.2 hfirst))
      · exact ih List.mem_cons_self hlater
    · exact ih (List.mem_cons_of_mem _ hpiece)

/-! ### Joined texts -/

theorem pieces_of_not_infix (hnone : ¬ separator <:+: row) : pieces separator row = [row] := by
  induction row with
  | nil => rw [pieces]
  | cons c rest ih =>
    rw [List.infix_cons_iff, not_or] at hnone
    rw [pieces_cons_of_not_occurs hnone.1, ih hnone.2, List.modifyHead_cons]

/-- No occurrence reaches from a text that holds none into the separator behind it. -/
theorem Unbordered.not_prefix_append (hborder : Unbordered separator) (hrow : row ≠ [])
    (hnone : ¬ separator <:+: row) : ¬ separator <+: row ++ (separator ++ rest) := by
  intro hhere
  rcases Nat.le_total separator.length row.length with hshort | hlong
  · exact hnone (List.prefix_of_prefix_length_le hhere (List.prefix_append _ _) hshort).isInfix
  · -- the part of the occurrence behind the text is an end and a beginning of the separator
    obtain ⟨border, rfl⟩ := List.prefix_of_prefix_length_le (List.prefix_append row _) hhere hlong
    have hbegins : border <+: row ++ border ++ rest := (List.prefix_append_right_inj row).1 hhere
    have hfits : border.length ≤ (row ++ border).length := by
      rw [List.length_append]
      exact Nat.le_add_left _ _
    rcases hborder border
      (List.prefix_of_prefix_length_le hbegins (List.prefix_append _ _) hfits)
      (List.suffix_append row border) with hnil | hall
    · rw [hnil, List.append_nil] at hnone
      exact hnone List.infix_rfl
    · exact hrow (List.self_eq_append_left.1 hall)

theorem Unbordered.pieces_append (hborder : Unbordered separator) (hnone : ¬ separator <:+: row) :
    pieces separator (row ++ (separator ++ rest)) = row :: pieces separator rest := by
  have hsep : separator ≠ [] := by
    rintro rfl
    exact hnone List.nil_infix
  induction row with
  | nil => exact pieces_separator_append hsep
  | cons c tail ih =>
    have hhere : ¬ separator <+: c :: (tail ++ (separator ++ rest)) :=
      hborder.not_prefix_append (List.cons_ne_nil c tail) hnone
    rw [List.infix_cons_iff, not_or] at hnone
    rw [List.cons_append, pieces_cons_of_not_occurs hhere, ih hnone.2, List.modifyHead_cons]

theorem Unbordered.pieces_intercalate (hborder : Unbordered separator) (hrows : rows ≠ [])
    (hnone : ∀ row ∈ rows, ¬ separator <:+: row) :
    pieces separator (separator.intercalate rows) = rows := by
  induction rows with
  | nil => exact absurd rfl hrows
  | cons first others ih =>
    have hfirst : ¬ separator <:+: first := hnone first List.mem_cons_self
    cases others with
    | nil => rw [List.intercalate_singleton, pieces_of_not_infix hfirst]
    | cons second others =>
      rw [List.intercalate_cons_cons, List.append_assoc, hborder.pieces_append hfirst,
        ih (List.cons_ne_nil _ _) fun row hrow => hnone row (List.mem_cons_of_mem _ hrow)]

theorem cut_intercalate_eq_iff {separator : String} {texts : List String}
    (hsep : separator ≠ "") (hborder : Unbordered separator.toList) (htexts : texts ≠ []) :
    cut separator (separator.intercalate texts) = texts ↔
      ∀ text ∈ texts, ¬ Holds separator text := by
  have hmap : (texts.map String.toList).map String.ofList = texts := by
    rw [List.map_map]
    exact List.map_id'' (fun _ => String.ofList_toList) texts
  rw [cut, String.toList_intercalate]
  constructor
  · intro hcut text htext
    rw [← hcut] at htext
    obtain ⟨piece, hpiece, rfl⟩ := List.mem_map.1 htext
    rw [Holds, String.toList_ofList]
    exact not_infix_of_mem_pieces (mt String.toList_eq_nil_iff.1 hsep) hpiece
  · intro hnone
    rw [hborder.pieces_intercalate (mt List.map_eq_nil_iff.1 htexts), hmap]
    intro row hrow
    obtain ⟨text, htext, rfl⟩ := List.mem_map.1 hrow
    exact hnone text htext

end Roster.Text
