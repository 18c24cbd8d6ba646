import Roster.Json.Text
import Roster.Json.Token

/-!
# Texts in JSON are read back

The reader of a text goes on one character or one escape at a time. The writer puts a character
there as it is, as a letter behind a backslash, or by its number, and each of the three is undone by
one step of the reader. The steps are stated for every reading of escapes, so that they also hold
where a text is only passed over.
-/

namespace Roster.Json.Text

open Reader

variable {α : Type} {plain : Char → α} {code : Reader α} {done : List α} {rest behind : List Char}

/-! ### Steps of the reader -/

theorem bodyFrom_quote : bodyFrom plain code done ('"' :: rest) = .ok (done.reverse, rest) := by
  rw [bodyFrom, if_pos rfl]

theorem bodyFrom_plain {c : Char} (hquote : c ≠ '"') (hbackslash : c ≠ '\\')
    (hcontrol : ¬ c.toNat < 0x20) :
    bodyFrom plain code done (c :: rest) = bodyFrom plain code (plain c :: done) rest := by
  rw [bodyFrom, if_neg hquote, if_neg hbackslash, if_neg hcontrol]

theorem bodyFrom_backslash {a : α} (hread : (escape plain code).run rest = .ok (a, behind)) :
    bodyFrom plain code done ('\\' :: rest) = bodyFrom plain code (a :: done) behind := by
  rw [bodyFrom, if_neg (by decide), if_pos rfl]
  split
  · rename_i other behind' hother
    have heq := hread.symm.trans hother
    cases heq
    rfl
  · rename_i fault hfault
    cases hread.symm.trans hfault

theorem run_escape_letter {letter c : Char} (hletter : escaped? letter = some c) :
    (escape plain code).run (letter :: rest) = .ok (plain c, rest) := by
  simp only [escape, run_bind, run_next, List.head?_cons, List.tail_cons, hletter, run_pure]

theorem run_escape_code : (escape plain code).run ('u' :: rest) = code.run rest := by
  have hletter : escaped? 'u' = none := by decide
  simp only [escape, run_bind, run_next, List.head?_cons, List.tail_cons, hletter, if_true]

/-! ### Characters by their number -/

/-- The four digits of a number below 256, as the writer puts them. -/
theorem hexValue?_digits {n : Nat} (hn : n < 256) :
    hexValue? ['0', '0', Text.Hex.digit (n / 16), Text.Hex.digit (n % 16)] = some n := by
  have hzero : Text.Hex.value? ('0' : Char).toNat = some 0 := by decide
  have hhigh := Text.Hex.value?_digit (n := n / 16) (by omega)
  have hlow := Text.Hex.value?_digit (n := n % 16) (by omega)
  have hsum : 16 * (16 * (16 * (16 * 0 + 0) + 0) + n / 16) + n % 16 = n := by omega
  simp only [hexValue?, List.foldlM_cons, List.foldlM_nil, hzero, hhigh, hlow, Option.map_eq_map,
    Option.map_some, Option.bind_eq_bind, Option.bind_some, hsum]
  rfl

theorem run_unit_digits {n : Nat} (hn : n < 256) :
    unit.run ('0' :: '0' :: Text.Hex.digit (n / 16) :: Text.Hex.digit (n % 16) :: rest)
      = .ok (n, rest) := by
  simp only [unit, hexValue?_digits hn]

theorem run_coded_digits {c : Char} (hc : c.toNat < 256) :
    coded.run ('0' :: '0' :: Text.Hex.digit (c.toNat / 16) :: Text.Hex.digit (c.toNat % 16) :: rest)
      = .ok (c, rest) := by
  have htrailing : isTrailing c.toNat = false := by
    rw [isTrailing, decide_eq_false (by omega)]
    rfl
  have hleading : isLeading c.toNat = false := by
    rw [isLeading, decide_eq_false (by omega)]
    rfl
  simp only [coded, run_bind, run_unit_digits hc, htrailing, hleading, Bool.false_eq_true, if_false,
    run_pure, Char.ofNat_toNat]

/-! ### What the writer puts -/

theorem bodyFrom_escape {c : Char}
    (hcode : c.toNat < 0x20 → ∀ rest, code.run ('0' :: '0' :: Text.Hex.digit (c.toNat / 16) ::
      Text.Hex.digit (c.toNat % 16) :: rest) = .ok (plain c, rest)) :
    bodyFrom plain code done (Token.escape c ++ rest)
      = bodyFrom plain code (plain c :: done) rest := by
  unfold Token.escape
  split
  iterate 7 exact bodyFrom_backslash (run_escape_letter rfl)
  rename_i hquote hbackslash _ _ _ _ _
  by_cases hcontrol : c.toNat < 0x20
  · rw [if_pos hcontrol]
    exact bodyFrom_backslash (run_escape_code.trans (hcode hcontrol rest))
  · rw [if_neg hcontrol]
    exact bodyFrom_plain hquote hbackslash hcontrol

theorem bodyFrom_flatMap_escape {cs : List Char}
    (hcode : ∀ c : Char, c.toNat < 0x20 → ∀ rest, code.run ('0' :: '0' ::
      Text.Hex.digit (c.toNat / 16) :: Text.Hex.digit (c.toNat % 16) :: rest)
        = .ok (plain c, rest)) :
    bodyFrom plain code done (cs.flatMap Token.escape ++ '"' :: rest)
      = .ok (done.reverse ++ cs.map plain, rest) := by
  induction cs generalizing done with
  | nil =>
    rw [List.flatMap_nil, List.nil_append, bodyFrom_quote, List.map_nil, List.append_nil]
  | cons c cs ih =>
    rw [List.flatMap_cons, List.append_assoc, bodyFrom_escape (hcode c), ih, List.reverse_cons,
      List.append_assoc, List.map_cons, List.singleton_append]

theorem run_content_escape (s : String) :
    content.run (s.toList.flatMap Token.escape ++ '"' :: rest) = .ok (s, rest) := by
  have hbody : (body id coded).run (s.toList.flatMap Token.escape ++ '"' :: rest)
      = .ok (s.toList, rest) := by
    have h : bodyFrom id coded [] (s.toList.flatMap Token.escape ++ '"' :: rest)
        = .ok ([].reverse ++ s.toList.map id, rest) :=
      bodyFrom_flatMap_escape fun c hc rest => run_coded_digits (by omega)
    rwa [List.map_id, List.reverse_nil, List.nil_append] at h
  rw [content, run_map, hbody]
  exact congrArg (fun s => Except.ok (s, rest)) String.ofList_toList

end Roster.Json.Text
