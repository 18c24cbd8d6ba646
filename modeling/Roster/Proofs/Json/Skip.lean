import Roster.Proofs.Json.Value

/-!
# Values of any depth are passed over

A value under an unknown key is passed over by a walk that keeps the containers around it on a
stack. The walk takes every spelling of a value exactly, whatever is on the stack: it comes out with
the same stack, right behind the value. This is an induction over how the value is built, where a
container goes on the stack before its parts and is off it behind them.
-/

namespace Roster.Json

open Reader

/-- The rows of tokens that are a value, of any depth. -/
inductive IsValue : List Token → Prop
  | null : IsValue [.null]
  | flag (value : Bool) : IsValue [.flag value]
  | number {n : Numeral} (hn : n.WellFormed) : IsValue [.number n]
  | text (s : String) : IsValue (textTokens s)
  | list {items : List (List Token)} (hitems : ∀ item ∈ items, IsValue item) :
      IsValue (listTokens id items)
  | object {members : List (String × List Token)} (hmembers : ∀ m ∈ members, IsValue m.2) :
      IsValue (objectTokens members)

namespace Container

/-- The token that opens a container. -/
def opener : Container → Token
  | list => .openList
  | object => .openObject

end Container

/-- No value begins with a blank or with a closing bracket. -/
theorem IsValue.begins {tokens : List Token} (h : IsValue tokens) :
    ∃ c, Begins tokens c ∧ isBlank c = false ∧ ∀ container : Container, c ≠ container.closing := by
  have hmark {c : Char} (hbegins : Begins tokens c) (hblank : isBlank c = false)
      (hlist : c ≠ ']') (hobject : c ≠ '}') :
      ∃ c, Begins tokens c ∧ isBlank c = false ∧ ∀ container : Container, c ≠ container.closing :=
    ⟨c, hbegins, hblank, fun container => by cases container <;> assumption⟩
  cases h with
  | null => exact hmark (c := 'n') ⟨_, _, _, rfl, rfl⟩ (by decide) (by decide) (by decide)
  | flag value =>
    cases value with
    | true => exact hmark (c := 't') ⟨_, _, _, rfl, rfl⟩ (by decide) (by decide) (by decide)
    | false => exact hmark (c := 'f') ⟨_, _, _, rfl, rfl⟩ (by decide) (by decide) (by decide)
  | number hn =>
    obtain ⟨c, chars, htext, hfirst, _⟩ := Numeral.run_behind (.ended .value) hn
    refine hmark (c := c) ⟨_, [], chars, rfl, htext⟩ (isBlank_of_isFirst hfirst) ?_ ?_ <;>
      rintro rfl <;> exact absurd hfirst (by decide)
  | text s => exact hmark (begins_text s []) (by decide) (by decide) (by decide)
  | list hitems => exact hmark (begins_list id _) (by decide) (by decide) (by decide)
  | object hmembers =>
    exact hmark (c := '{') ⟨_, _, _, rfl, rfl⟩ (by decide) (by decide) (by decide)

namespace Skip

variable {stack outer after : List Container} {container : Container} {first : Bool} {due : Due}
  {input text rest : List Char} {tokens row : List Token} {rows : List (List Token)}

/-! ### Steps of the walk -/

theorem walk_value (hbegun : (beginValue stack).run input = .ok ((due, after), rest)) :
    walk .value stack input = walk due after rest := by
  rw [walk]
  split
  · rename_i hfault
    cases hbegun.symm.trans hfault
  · rename_i hother
    cases hbegun.symm.trans hother
    rfl

theorem walk_part (hgone : (goOn first container outer).run input = .ok ((due, after), rest)) :
    walk (.part first) (container :: outer) input = walk due after rest := by
  rw [walk]
  split
  · rename_i hfault
    cases hgone.symm.trans hfault
  · rename_i hother
    cases hgone.symm.trans hother
    rfl

/-- The walk takes every spelling of the tokens as a value, whatever is on the stack. -/
def Passes (tokens : List Token) : Prop :=
  ∀ stack text rest, Spelling tokens text → Apart rest →
    walk .value stack (text ++ rest) = walk (.part false) stack rest

/-- The walk takes every spelling of the row as a part of the container: what leads up to a value,
and the value. -/
structure Leads (container : Container) (row : List Token) : Prop where
  begins : ∃ c, Begins row c ∧ isBlank c = false ∧ c ≠ container.closing
  walk : ∀ text rest, Spelling row text → Apart rest →
    ∃ behind, (lead container).run (text ++ rest) = .ok ((), behind) ∧
      ∀ stack, walk .value stack behind = walk (.part false) stack rest

theorem walk_closing {gap : List Char} (hgap : ∀ c ∈ gap, isBlank c = true) :
    walk (.part first) (container :: outer) (gap ++ container.closing :: rest)
      = walk (.part false) outer rest := by
  apply walk_part
  simp only [goOn, run_bind, run_ahead_gap container.place hgap Container.isBlank_closing, if_true,
    run_advance, List.tail_cons, run_pure]

theorem walk_first (hrow : Leads container row) (htext : Spelling row text)
    (hrest : Apart rest) :
    walk (.part true) (container :: outer) (text ++ rest)
      = walk (.part false) (container :: outer) rest := by
  obtain ⟨c, hbegins, hc, hclosing⟩ := hrow.begins
  obtain ⟨gap, text, rfl, hgap, htight⟩ := htext.lead hbegins
  obtain ⟨behind, hled, hwalk⟩ := hrow.walk _ rest htight hrest
  rw [List.cons_append] at hled
  rw [← hwalk (container :: outer), List.append_assoc, List.cons_append]
  apply walk_part
  simp only [goOn, run_bind, run_ahead_gap container.place hgap hc, hclosing, if_false, if_true,
    hled, run_pure]

theorem walk_comma (hrow : Leads container row) (htext : Spelling (.comma :: row) text)
    (hrest : Apart rest) :
    walk (.part false) (container :: outer) (text ++ rest)
      = walk (.part false) (container :: outer) rest := by
  obtain ⟨gap, text, rfl, hgap, htext⟩ := htext.cons_split
  obtain ⟨behind, hled, hwalk⟩ := hrow.walk text rest htext hrest
  have hcomma : ',' ≠ container.closing := by cases container <;> decide
  rw [← hwalk (container :: outer), List.append_assoc]
  apply walk_part
  simp only [Token.chars, List.cons_append, List.nil_append, goOn, run_bind,
    run_ahead_gap container.place hgap (c := ',') (by decide), hcomma, Bool.false_eq_true, if_false,
    if_true, run_advance, List.tail_cons, hled, run_pure]

/-! ### Containers -/

theorem walk_later (hrows : ∀ row ∈ rows, Leads container row)
    (htext : Spelling (rows.flatMap (.comma :: ·)) text) (hrest : Apart rest) :
    walk (.part false) (container :: outer) (text ++ rest)
      = walk (.part false) (container :: outer) rest := by
  induction rows generalizing text with
  | nil =>
    cases htext
    rfl
  | cons row rows ih =>
    rw [List.flatMap_cons] at htext
    obtain ⟨text₁, text₂, rfl, hrow, hlater⟩ := htext.append_split
    have hapart : Apart (text₂ ++ rest) := (detached_commas rows).apart hlater hrest
    rw [List.append_assoc, walk_comma (hrows row List.mem_cons_self) hrow hapart]
    exact ih (fun row h => hrows row (List.mem_cons_of_mem _ h)) hlater

theorem walk_rows (hrows : ∀ row ∈ rows, Leads container row)
    (htext : Spelling (separated rows ++ [container.closer]) text) (hrest : Apart rest) :
    walk (.part true) (container :: outer) (text ++ rest) = walk (.part false) outer rest := by
  obtain ⟨text₁, text₂, rfl, hsep, hcloser⟩ := htext.append_split
  have hapart : Apart (text₂ ++ rest) := Container.detached_closer.apart hcloser hrest
  obtain ⟨gap, rfl, hgap⟩ := hcloser.singleton_split
  have hclose (first : Bool) :
      walk (.part first) (container :: outer) (gap ++ container.closer.chars ++ rest)
        = walk (.part false) outer rest := by
    rw [Container.chars_closer, List.append_assoc]
    exact walk_closing hgap
  rw [List.append_assoc]
  cases rows with
  | nil =>
    cases hsep
    exact hclose true
  | cons row rows =>
    obtain ⟨text₁, text₂, rfl, hrow, hlater⟩ := hsep.append_split
    have hbehind : Apart (text₂ ++ (gap ++ container.closer.chars ++ rest)) :=
      (detached_commas rows).apart hlater hapart
    rw [List.append_assoc, walk_first (hrows row List.mem_cons_self) hrow hbehind,
      walk_later (fun row h => hrows row (List.mem_cons_of_mem _ h)) hlater hapart]
    exact hclose false

theorem passes_container (hrows : ∀ row ∈ rows, Leads container row) :
    Passes (container.opener :: (separated rows ++ [container.closer])) := by
  intro stack text rest htext hrest
  obtain ⟨gap, text, rfl, hgap, htext⟩ := htext.cons_split
  have hwalk : walk (.part true) (container :: stack) (text ++ rest)
      = walk (.part false) stack rest := walk_rows hrows htext hrest
  rw [← hwalk, List.append_assoc]
  apply walk_value
  cases container with
  | list =>
    simp only [Container.opener, Token.chars, List.cons_append, List.nil_append, beginValue,
      run_bind, run_opening_gap hgap (c := '[') (by decide)]
    rfl
  | object =>
    simp only [Container.opener, Token.chars, List.cons_append, List.nil_append, beginValue,
      run_bind, run_opening_gap hgap (c := '{') (by decide)]
    rfl

/-! ### Scalars -/

theorem run_discard {α : Type} {reader : Reader α} {a : α}
    (h : reader.run input = .ok (a, rest)) : (discard reader).run input = .ok ((), rest) := by
  simp only [Functor.discard, Functor.mapConst, Function.comp_apply, h]

theorem run_skipContent (s : String) (rest : List Char) :
    Text.skipContent.run (s.toList.flatMap Token.escape ++ '"' :: rest) = .ok ((), rest) := by
  apply run_discard
  apply Text.bodyFrom_flatMap_escape
  intro c hc rest
  exact run_discard (Text.run_unit_digits (by omega))

/-- A value of a single token is passed over behind its first character. -/
theorem passes_scalar {token : Token} {c : Char} {chars : List Char}
    (hchars : token.chars = c :: chars) (hc : isBlank c = false)
    (hscalar : Container.ofOpening? c = none)
    (hrun : ∀ rest, Apart rest → (scalar c).run (chars ++ rest) = .ok ((), rest)) :
    Passes [token] := by
  intro stack text rest htext hrest
  obtain ⟨gap, rfl, hgap⟩ := htext.singleton_split
  apply walk_value
  rw [hchars, List.append_assoc, List.cons_append]
  simp only [beginValue, run_bind, run_opening_gap hgap hc, hscalar, hrun rest hrest, run_pure]

theorem scalar_of_isFirst {c : Char} (hc : Numeral.isFirst c = true) :
    scalar c = discard (Numeral.behind (.malformed .invalidNumber) c) := by
  unfold scalar
  split
  iterate 4 exact absurd hc (by decide)
  rw [if_pos hc]

theorem ofOpening?_of_isFirst {c : Char} (hc : Numeral.isFirst c = true) :
    Container.ofOpening? c = none := by
  have hlist : c ≠ '[' := by
    rintro rfl
    exact absurd hc (by decide)
  have hobject : c ≠ '{' := by
    rintro rfl
    exact absurd hc (by decide)
  rw [Container.ofOpening?, if_neg hlist, if_neg hobject]

theorem passes_number {n : Numeral} (hn : n.WellFormed) : Passes [.number n] := by
  obtain ⟨c, chars, htext, hfirst, hbehind⟩ := Numeral.run_behind (.malformed .invalidNumber) hn
  refine passes_scalar htext (isBlank_of_isFirst hfirst) (ofOpening?_of_isFirst hfirst) ?_
  intro rest hrest
  rw [scalar_of_isFirst hfirst]
  exact run_discard (hbehind rest hrest)

theorem passes_text (s : String) : Passes (textTokens s) := by
  refine passes_scalar (c := '"') rfl (by decide) (by decide) ?_
  intro rest _
  rw [List.append_assoc]
  exact run_skipContent s rest

/-! ### Values of any depth -/

theorem leads_item (hvalue : IsValue tokens) (hpasses : Passes tokens) : Leads .list tokens := by
  obtain ⟨c, hbegins, hblank, hclosing⟩ := hvalue.begins
  refine ⟨⟨c, hbegins, hblank, hclosing .list⟩, fun text rest htext hrest => ?_⟩
  exact ⟨text ++ rest, rfl, fun stack => hpasses stack text rest htext hrest⟩

theorem leads_member (key : String) (hpasses : Passes tokens) :
    Leads .object (memberTokens key tokens) := by
  refine ⟨⟨'"', begins_text key _, by decide, by decide⟩, fun text rest htext hrest => ?_⟩
  obtain ⟨gap, text, rfl, hgap, htext⟩ := htext.cons_split
  obtain ⟨gap', text, rfl, hgap', htext⟩ := htext.cons_split
  refine ⟨text ++ rest, ?_, fun stack => hpasses stack text rest htext hrest⟩
  simp only [Token.chars, Token.quoted, List.append_assoc, List.cons_append, List.nil_append, lead,
    keyOpening, colon, run_bind, run_ahead_gap .object hgap (c := '"') (by decide), if_true,
    run_advance, List.tail_cons, run_skipContent,
    run_ahead_gap .object hgap' (c := ':') (by decide)]

theorem passes_of_isValue (h : IsValue tokens) : Passes tokens := by
  induction h with
  | null => exact passes_scalar (c := 'n') rfl (by decide) (by decide) fun _ _ => rfl
  | flag value =>
    cases value with
    | true => exact passes_scalar (c := 't') rfl (by decide) (by decide) fun _ _ => rfl
    | false => exact passes_scalar (c := 'f') rfl (by decide) (by decide) fun _ _ => rfl
  | number hn => exact passes_number hn
  | text s => exact passes_text s
  | @list items hitems ih =>
    change Passes (Container.list.opener :: (separated (items.map id) ++ [.closeList]))
    rw [List.map_id]
    exact passes_container fun item hitem => leads_item (hitems item hitem) (ih item hitem)
  | @object members hmembers ih =>
    change Passes (Container.object.opener ::
      (separated (members.map fun member => memberTokens member.1 member.2) ++ [.closeObject]))
    apply passes_container
    rw [List.forall_mem_map]
    exact fun member hmember => leads_member member.1 (ih member hmember)

/-- A value of any depth is passed over exactly. -/
theorem value_reads (h : IsValue tokens) : Reads value tokens () := by
  intro text rest htext hrest
  change walk .value [] (text ++ rest) = _
  rw [passes_of_isValue h [] text rest htext hrest, walk]

end Skip

end Roster.Json
