import Mathlib.Data.List.Induction
import Roster.Proofs.Json.Cut
import Roster.Proofs.Json.RoundTrip

/-!
# Groups whose text breaks off

What is written for a group can break off anywhere: in a key, in an escape, in a word, between two
tokens or in a numeral, whose first digits alone are a numeral as well. Since a numeral is never the
end of a group, what comes next finds the text ended, and since a field counts only when its value
has been read and the rules are checked behind the last bracket, nothing else is reported before.
-/

namespace Roster.Json

open Decimal Reader

variable {α : Type}

/-! ### Texts -/

namespace Text

variable {plain : Char → α} {code : Reader α} {done : List α} {cut : List Char}

theorem bodyFrom_backslash_fault {fault : Fault} {rest : List Char}
    (hread : (escape plain code).run rest = .error fault) :
    bodyFrom plain code done ('\\' :: rest) = .error fault := by
  rw [bodyFrom, if_neg (by decide), if_pos rfl]
  split
  · rename_i hother
    cases hread.symm.trans hother
  · rename_i hother
    cases hread.symm.trans hother
    rfl

theorem utf8Size_digit {n : Nat} (hn : n < 16) : (Text.Hex.digit n).utf8Size = 1 := by
  revert n
  decide

theorem size_eq_length (hsize : ∀ c ∈ cut, c.utf8Size = 1) : size cut = cut.length := by
  induction cut with
  | nil => rfl
  | cons c cut ih =>
    obtain ⟨hc, hcut⟩ := List.forall_mem_cons.1 hsize
    rw [size, List.foldr_cons, ← size, hc, ih hcut, List.length_cons, Nat.add_comm]

theorem run_unit_short (hlength : cut.length < 4) (hsize : ∀ c ∈ cut, c.utf8Size = 1) :
    unit.run cut = .error (.ended .text) := by
  have hshort : size cut < 4 := by
    rw [size_eq_length hsize]
    exact hlength
  match cut with
  | _ :: _ :: _ :: _ :: _ =>
    simp only [List.length_cons] at hlength
    omega
  | [] | [_] | [_, _] | [_, _, _] => simp only [unit, hshort, if_true]

/-- An escape that breaks off lacks something behind its backslash. -/
theorem run_escape_cut {c : Char} (hcut : Cut (Token.escape c) cut) :
    cut = [] ∨ ∃ behind, cut = '\\' :: behind ∧
      (escape id coded).run behind = .error (.ended .text) := by
  have hletter {letter : Char} (hcut : Cut ['\\', letter] cut) : cut = [] ∨ ∃ behind,
      cut = '\\' :: behind ∧ (escape id coded).run behind = .error (.ended .text) := by
    rcases hcut.cons_cases with hnil | ⟨behind, rfl, hbehind⟩
    · exact .inl hnil
    · rw [hbehind.singleton]
      exact .inr ⟨[], rfl, rfl⟩
  unfold Token.escape at hcut
  split at hcut
  -- seven characters are a backslash and a letter, the others have a code or stand for themselves
  iterate 7 exact hletter hcut
  split at hcut
  · rename_i hcontrol
    rcases hcut.cons_cases with hnil | ⟨behind, rfl, hbehind⟩
    · exact .inl hnil
    · refine .inr ⟨behind, rfl, ?_⟩
      rcases hbehind.cons_cases with rfl | ⟨digits, rfl, hdigits⟩
      · rfl
      · have hsize : ∀ d ∈ digits, d.utf8Size = 1 := by
          intro d hd
          have hmem := hdigits.mem hd
          simp only [List.mem_cons, List.not_mem_nil, or_false] at hmem
          rcases hmem with rfl | rfl | rfl | rfl
          · rfl
          · rfl
          · exact utf8Size_digit (by omega)
          · exact utf8Size_digit (by omega)
        rw [run_escape_code, coded, run_bind, run_unit_short hdigits.length_lt hsize]
  · exact .inl hcut.singleton

theorem bodyFrom_cut {cs done : List Char} (hcut : Cut (cs.flatMap Token.escape ++ ['"']) cut) :
    bodyFrom id coded done cut = .error (.ended .text) := by
  induction cs generalizing cut done with
  | nil =>
    rw [hcut.singleton, bodyFrom]
  | cons c cs ih =>
    rw [List.flatMap_cons, List.append_assoc] at hcut
    rcases hcut.append_cases with hcut | ⟨behind, rfl, hbehind⟩
    · rcases run_escape_cut hcut with rfl | ⟨behind, rfl, hescape⟩
      · rw [bodyFrom]
      · exact bodyFrom_backslash_fault hescape
    · rw [bodyFrom_escape fun hc rest => run_coded_digits (by omega)]
      exact ih hbehind

theorem run_content_cut {s : String} (hcut : Cut (s.toList.flatMap Token.escape ++ ['"']) cut) :
    content.run cut = .error (.ended .text) := by
  have hbody : (body id coded).run cut = .error (.ended .text) := bodyFrom_cut hcut
  rw [content, run_map, hbody]

end Text

/-- A reader that reads a text behind its quote lacks what the text lacks. -/
theorem quoted_starves {next : Char → Reader α} (s : String)
    (hnext : ∀ cut, Text.content.run cut = .error (.ended .text) →
      (next '"').run cut = .error (.ended .text)) :
    Starves (opening >>= next) [.text s] := by
  refine RunsOut.opening (c := '"') rfl (by decide) ?_
  intro text cut htext hcut
  cases htext
  rw [List.append_nil] at hcut
  rw [hnext cut (Text.run_content_cut hcut)]
  exact .lacking .text

theorem text_starves (s : String) : Starves text (textTokens s) := by
  refine quoted_starves s fun cut hcontent => ?_
  rw [if_pos rfl, hcontent]

theorem kind_starves (k : GroupKind) : Starves kind (kindTokens k) := by
  refine quoted_starves k.name fun cut hcontent => ?_
  rw [if_pos rfl, kindName, run_bind, hcontent]

theorem key_starves (s : String) : Starves key [.text s] := by
  intro text cut htext hcut
  obtain ⟨gap, rfl, hgap⟩ := htext.singleton_split
  rcases hcut.gap_cases (c := '"') hgap with hblank | ⟨behind, rfl, hbehind⟩
  · rw [key, keyOpening, run_bind, run_bind, run_ahead_blank .object hblank]
    exact .lacking .object
  · simp only [key, keyOpening, run_bind, run_ahead_gap .object hgap (c := '"') (by decide),
      if_true, run_advance, List.tail_cons, Text.run_content_cut hbehind]
    exact .lacking .text

theorem colon_starves : Starves colon [.colon] := RunsOut.mark rfl

/-! ### Numbers that are bytes -/

theorem value_le_value_append (front back : List Digit) :
    Digit.value front ≤ Digit.value (front ++ back) := by
  induction back using List.reverseRecOn with
  | nil => rw [List.append_nil]
  | append_singleton back d ih =>
    rw [← List.append_assoc, Digit.value_append]
    omega

theorem run_number_digits {d : Digit} {more : List Digit} (hzero : d = 0 → more = [])
    (hvalue : Digit.value (d :: more) < wordCount) :
    (Number.behind d.char).run (more.map Digit.char)
      = .ok (.integer (Digit.value (d :: more)), []) := by
  have hwell : (⟨false, d :: more, [], none⟩ : Numeral).WellFormed := ⟨⟨d, more, rfl, hzero⟩, nofun⟩
  have hunsigned := Numeral.run_unsigned (.ended .value) hwell rfl (show Apart [] from nofun)
  have htail : Numeral.tailText ⟨false, d :: more, [], none⟩ ++ [] = more.map Digit.char := by
    simp only [Numeral.tailText, List.tail_cons, List.isEmpty_nil, if_true, Option.map_none,
      Option.getD_none, List.append_nil]
  have hnumber : Numeral.number? ⟨false, d :: more, [], none⟩
      = some (.integer (Digit.value (d :: more))) := by
    simp only [Numeral.number?, Numeral.integer?, ne_eq, not_true_eq_false, or_self, if_false,
      Bool.false_eq_true, hvalue, if_true]
  rw [htail] at hunsigned
  simp only [Number.behind, Numeral.behind, run_bind, (Numeral.char_ne_sign d).2, if_false,
    hunsigned, hnumber, run_pure]

/-- A byte whose last digits are missing is read as one that is no larger. -/
theorem byte_runsOut (b : UInt8) : RunsOut byte (byteTokens b) fun _ => True := by
  obtain ⟨d, more, hdigits, hzero, hmore⟩ := ofNat_eq_cons b.toNat
  have hwhole : (Numeral.ofNat b.toNat).whole = d :: more := hdigits
  have hfirst : Numeral.isFirst d.char = true := by
    rw [Numeral.isFirst, Digit.ofChar?_char, Option.isSome_some, Bool.or_true]
  have hchars : (Token.number (.ofNat b.toNat)).chars = d.char :: more.map Digit.char := by
    simp only [Token.chars, Numeral.text, Numeral.ofNat, hdigits, List.map_cons, List.isEmpty_nil,
      Bool.false_eq_true, if_false, if_true, Option.map_none, Option.getD_none, List.append_nil,
      List.nil_append]
  refine RunsOut.opening hchars (isBlank_of_isFirst hfirst) ?_
  intro text cut htext hcut
  cases htext
  rw [List.append_nil] at hcut
  -- what is left of the digits is a front of them, and without a needless zero like them
  obtain ⟨missing, -, hsplit⟩ := hcut
  obtain ⟨front, back, rfl, rfl, -⟩ := List.map_eq_append_iff.1 hsplit
  have hle : Digit.value (d :: front) < 256 := by
    have hfront := value_le_value_append (d :: front) back
    rw [List.cons_append, ← hdigits, Digit.value_ofNat] at hfront
    exact Nat.lt_of_le_of_lt hfront b.toNat_lt
  have hneeded : d = 0 → front = [] := fun hd => (List.append_eq_nil_iff.1 (hmore (hzero hd))).1
  have hnumber := run_number_digits hneeded (Nat.lt_trans hle (by decide))
  have hrange : (0 : Int) ≤ Digit.value (d :: front) ∧ (Digit.value (d :: front) : Int) < 256 := by
    omega
  simp only [hfirst, if_true, run_bind, hnumber, hrange, and_self, run_pure]
  exact .early trivial

/-! ### Lists and objects -/

theorem Begins.append {row : List Token} {c : Char} (h : Begins row c) (more : List Token) :
    Begins (row ++ more) c := by
  obtain ⟨token, tokens, chars, rfl, hchars⟩ := h
  exact ⟨token, tokens ++ more, chars, rfl, hchars⟩

namespace Container

variable {container : Container} {first : Bool} {early : α → Prop} {tokens : List Token}
  {next : Bool → Reader α} {c : Char} {gap cut : List Char}

theorem run_another_blank (hblank : ∀ d ∈ cut, isBlank d = true) :
    (container.another first).run cut = .error (.ended container.place) := by
  rw [another, run_bind, run_ahead_blank container.place hblank]

theorem run_another_comma_blank (hgap : ∀ d ∈ gap, isBlank d = true)
    (hblank : ∀ d ∈ cut, isBlank d = true) :
    (container.another false).run (gap ++ ',' :: cut) = .error (.ended .value) := by
  have hcomma : ',' ≠ container.closing := by cases container <;> decide
  simp only [another, run_bind, run_ahead_gap container.place hgap (c := ',') (by decide), hcomma,
    Bool.false_eq_true, if_false, if_true, run_advance, List.tail_cons,
    run_ahead_blank .value hblank]

/-- A first part runs out as what it is read for does. -/
theorem another_first_runsOut (hbegins : Begins tokens c) (hc : isBlank c = false)
    (hclosing : c ≠ container.closing) (hnext : RunsOut (next true) tokens early) :
    RunsOut (container.another true >>= next) tokens early := by
  intro text cut htext hcut
  obtain ⟨gap, behind, rfl, hgap, hlead⟩ := htext.lead hbegins
  rcases hcut.gap_cases hgap with hblank | ⟨cut, rfl, hrest⟩
  · rw [run_bind, run_another_blank hblank]
    exact .lacking container.place
  · rw [run_bind, run_another_first hgap hc hclosing]
    exact hnext _ _ hlead hrest.cons

/-- A later part may also end around its comma. -/
theorem another_later_runsOut (hbegins : Begins tokens c) (hc : isBlank c = false)
    (hclosing : c ≠ container.closing) (hnext : RunsOut (next true) tokens early) :
    RunsOut (container.another false >>= next) (.comma :: tokens) early := by
  intro text cut htext hcut
  obtain ⟨gap, text, rfl, hgap, htokens⟩ := htext.cons_split
  obtain ⟨gap', behind, rfl, hgap', hlead⟩ := htokens.lead hbegins
  rcases hcut.gap_cases (c := ',') hgap with hblank | ⟨cut, rfl, hpart⟩
  · rw [run_bind, run_another_blank hblank]
    exact .lacking container.place
  · rcases hpart.gap_cases hgap' with hblank | ⟨cut, rfl, hrest⟩
    · rw [run_bind, run_another_comma_blank hgap hblank]
      exact .lacking .value
    · rw [run_bind, run_another_comma hgap hgap' hc hclosing]
      exact hnext _ _ hlead hrest.cons

variable {σ : Type} {part : σ → Reader σ} {state final : σ} {rows : List (List Token)}

/-- The parts of a container from the first one or from a later one on. -/
def partsAt (container : Container) (part : σ → Reader σ) (first : Bool) (state : σ) : Reader σ :=
  ⟨partsFrom container part state first, length_of_partsFrom⟩

theorem partsAt_eq : container.partsAt part first state = (do
    if ← container.another first then
      let next ← part state
      container.partsAt part false next
    else return state) := by
  ext1 input
  change partsFrom container part state first input = _
  rw [run_bind]
  cases hannounced : (container.another first).run input with
  | error fault => exact partsFrom_unannounced hannounced
  | ok announced =>
    obtain ⟨more, rest⟩ := announced
    cases more with
    | false => exact partsFrom_stop hannounced
    | true =>
      simp only [if_true, run_bind]
      cases hpart : (part state).run rest with
      | error fault => exact partsFrom_fault hannounced hpart
      | ok taken => exact partsFrom_step hannounced hpart

theorem run_partsAt_nil :
    (container.partsAt part first state).run [] = .error (.ended container.place) := by
  rw [partsAt_eq, run_bind, run_another_blank (List.forall_mem_nil _)]

theorem closer_starves : Starves (container.another first) [container.closer] :=
  RunsOut.mark chars_closer

/-- A part and the parts behind it. -/
theorem part_starves {early : σ → Prop} {row : List Token} {later : σ} {tokens : List Token}
    (hreads : Reads (part state) row later) (hpart : RunsOut (part state) row early)
    (hlater : Starves (container.partsAt part false later) tokens) (hdetached : Detached tokens) :
    Starves (part state >>= container.partsAt part false) (row ++ tokens) := by
  refine hpart.bind hreads (fun state _ => ?_) hlater hdetached
  rw [run_partsAt_nil]
  exact .lacking container.place

theorem detached_commas_closer (rows : List (List Token)) :
    Detached (rows.flatMap (.comma :: ·) ++ [container.closer]) := by
  cases rows with
  | nil => exact detached_closer
  | cons row rows => exact nofun

/-- Parts behind a first one. A part may be refused in some states, so it has to run out only in
those in which its row is read. -/
theorem later_starve {early : σ → Prop} (hchain : Chain container part state rows final)
    (hparts : ∀ row ∈ rows, ∀ state later, Reads (part state) row later →
      RunsOut (part state) row early) :
    Starves (container.partsAt part false state)
      (rows.flatMap (.comma :: ·) ++ [container.closer]) := by
  induction hchain with
  | nil state =>
    rw [partsAt_eq]
    exact closer_starves.bind_nil
  | @cons state later final row rows c hbegins hc hclosing hreads hrest ih =>
    have hlater := ih fun row hrow => hparts row (List.mem_cons_of_mem _ hrow)
    have hpart := hparts row List.mem_cons_self state later hreads
    rw [partsAt_eq, List.flatMap_cons, List.cons_append, List.cons_append, List.append_assoc]
    refine another_later_runsOut (hbegins.append _) hc hclosing ?_
    rw [if_pos rfl]
    exact part_starves hreads hpart hlater (detached_commas_closer rows)

theorem parts_starve {early : σ → Prop} (hchain : Chain container part state rows final)
    (hparts : ∀ row ∈ rows, ∀ state later, Reads (part state) row later →
      RunsOut (part state) row early) :
    Starves (container.parts part state) (separated rows ++ [container.closer]) := by
  change Starves (container.partsAt part true state) _
  rw [partsAt_eq]
  cases hchain with
  | nil => exact closer_starves.bind_nil
  | @cons _ later _ row rows c hbegins hc hclosing hreads hrest =>
    have hlater := later_starve hrest fun row hrow => hparts row (List.mem_cons_of_mem _ hrow)
    have hpart := hparts row List.mem_cons_self state later hreads
    rw [separated, List.append_assoc]
    refine another_first_runsOut (hbegins.append _) hc hclosing ?_
    rw [if_pos rfl]
    exact part_starves hreads hpart hlater (detached_commas_closer rows)

end Container

theorem list_starves {item : Reader α} {write : α → List Token} {items : List α} {early : α → Prop}
    (hreads : ∀ a ∈ items, Reads item (write a) a)
    (hbegins : ∀ a ∈ items, ∃ c, Begins (write a) c ∧ isBlank c = false ∧ c ≠ ']')
    (hitems : ∀ a ∈ items, RunsOut item (write a) early) :
    Starves (list item) (listTokens write items) := by
  have hchain := chain_items [] hreads hbegins
  have hparts : ∀ row ∈ items.map write, ∀ done later,
      Reads ((· :: done) <$> item) row later →
        RunsOut ((· :: done) <$> item) row fun _ => True := by
    intro row hrow done later _
    obtain ⟨a, ha, rfl⟩ := List.mem_map.1 hrow
    exact (hitems a ha).map fun _ _ => trivial
  refine RunsOut.opening_mark (c := '[') rfl (by decide) ?_
  rw [if_pos rfl]
  exact (Container.parts_starve hchain hparts).bind_nil

theorem texts_starve (texts : List String) :
    Starves (list text) (listTokens textTokens texts) :=
  list_starves (fun s _ => text_reads s) (fun s _ => ⟨'"', begins_text s [], by decide, by decide⟩)
    fun s _ => text_starves s

/-! ### Ids -/

theorem element_runsOut_first {item : Reader α} {wanted : Wanted} {row : List Token}
    {early : α → Prop} (hitem : RunsOut item row early) {c : Char} (hbegins : Begins row c)
    (hc : isBlank c = false) (hclosing : c ≠ ']') : RunsOut (element item wanted 0) row early :=
  Container.another_first_runsOut hbegins hc hclosing hitem

theorem element_runsOut_later {item : Reader α} {wanted : Wanted} {row : List Token}
    {early : α → Prop} {index : Nat} (hitem : RunsOut item row early) {c : Char}
    (hbegins : Begins row c) (hc : isBlank c = false) (hclosing : c ≠ ']') :
    RunsOut (element item wanted (index + 1)) (.comma :: row) early :=
  Container.another_later_runsOut hbegins hc hclosing hitem

/-- At the end of the text there are no more bytes, unless none are left to read. -/
theorem idBytesFrom_exhausted (index left : Nat) :
    Exhausted (fun _ => True) ((idBytesFrom index left).run []) := by
  cases left with
  | zero => exact .early trivial
  | succ left => exact .lacking .list

theorem idBytesFrom_runsOut (index : Nat) (bytes : List UInt8) :
    RunsOut (idBytesFrom (index + 1) bytes.length) (bytes.flatMap (.comma :: byteTokens ·))
      fun _ => True := by
  induction bytes generalizing index with
  | nil => exact RunsOut.nil
  | cons b bytes ih =>
    obtain ⟨c, hbegins, hblank, hclosing⟩ := begins_byte b
    have hfirst : RunsOut (element byte .idBytes (index + 1)) (.comma :: byteTokens b)
        fun _ => True := element_runsOut_later (byte_runsOut b) hbegins hblank hclosing
    rw [List.flatMap_cons]
    refine hfirst.bind (element_reads_later (byte_reads b) hbegins hblank hclosing) (fun _ _ => ?_)
      ((ih (index + 1)).bind_nil fun _ _ => .early trivial) (detached_bytes bytes)
    exact (idBytesFrom_exhausted (index + 2) bytes.length).bind fun _ _ => .early trivial

/-- All bytes of an id: the first stands behind no comma. -/
theorem idBytes_runsOut {bytes : List UInt8} {count : Nat} (hlength : bytes.length = count)
    (hcount : count ≠ 0) :
    RunsOut (idBytesFrom 0 count) (separated (bytes.map byteTokens)) fun _ => True := by
  subst hlength
  cases bytes with
  | nil => exact absurd rfl hcount
  | cons b bytes =>
    obtain ⟨c, hbegins, hblank, hclosing⟩ := begins_byte b
    have hfirst : RunsOut (element byte .idBytes 0) (byteTokens b) fun _ => True :=
      element_runsOut_first (byte_runsOut b) hbegins hblank hclosing
    rw [List.map_cons, separated, List.flatMap_map]
    refine hfirst.bind (element_reads_first (byte_reads b) hbegins hblank hclosing) (fun _ _ => ?_)
      ((idBytesFrom_runsOut 0 bytes).bind_nil fun _ _ => .early trivial) (detached_bytes bytes)
    exact (idBytesFrom_exhausted 1 bytes.length).bind fun _ _ => .early trivial

theorem endOfList_starves : Starves endOfList [.closeList] := RunsOut.mark rfl

theorem groupId_starves (id : GroupId) : Starves groupId (idTokens id) := by
  refine RunsOut.opening_mark (c := '[') rfl (by decide) ?_
  rw [if_pos rfl]
  have hbytes := idBytes_runsOut id.length_bytes (by decide)
  exact hbytes.bind (idBytes_read id.length_bytes (by decide)) (fun _ _ => .lacking .list)
    endOfList_starves.bind_nil nofun

/-! ### Avatars, sets and missing values -/

theorem avatar_starves (a : Avatar) : Starves avatar (avatarTokens a) :=
  (list_starves (fun b _ => byte_reads b) (fun b _ => begins_byte b)
    fun b _ => byte_runsOut b).map Avatar.mk

theorem memberSet_starves (set : MemberSet) : Starves memberSet (memberSetTokens set) :=
  (texts_starve set.ids).map MemberSet.ofList

theorem run_word_cut {chars cut : List Char} (hcut : Cut chars cut) :
    (word chars).run cut = .error (.ended .value) := by
  induction chars generalizing cut with
  | nil => exact absurd hcut Cut.not_nil
  | cons c chars ih =>
    rcases hcut.cons_cases with rfl | ⟨behind, rfl, hbehind⟩
    · rfl
    · simp only [word, run_bind, run_next, List.head?_cons, List.tail_cons, if_true, ih hbehind]

/-- A value that may be missing is looked for when the text ends before it begins. -/
theorem option_starves {value : Reader α} {write : α → List Token} {a? : Option α}
    (hvalue : ∀ a ∈ a?, Starves value (write a))
    (hbegins : ∀ a ∈ a?, ∃ c, Begins (write a) c ∧ isBlank c = false ∧ c ≠ 'n')
    (hempty : value.run [] = .error (.ended .value)) :
    Starves (option value) (optionTokens write a?) := by
  intro text cut htext hcut
  -- among the blanks it is not decided yet whether the value is missing
  have hblank (hblank : ∀ d ∈ cut, isBlank d = true) :
      Exhausted (fun _ => False) ((option value).run cut) := by
    have hnone : cut.dropWhile isBlank = [] := List.dropWhile_eq_nil_iff.2 hblank
    simp only [option, run_bind, run_blanks, hnone, run_peek, List.head?_nil, reduceCtorEq,
      if_false, run_map, hempty]
    exact .lacking .value
  cases a? with
  | none =>
    obtain ⟨gap, rfl, hgap⟩ := htext.singleton_split
    rcases hcut.gap_cases (c := 'n') hgap with hgone | ⟨behind, rfl, hrest⟩
    · exact hblank hgone
    · have hword := run_word_cut hrest
      simp only [option, run_bind, run_blanks, dropWhile_gap hgap (c := 'n') (by decide), run_peek,
        List.head?_cons, if_true, run_advance, List.tail_cons, hword]
      exact .lacking .value
  | some a =>
    obtain ⟨c, hc, hfirst, hnull⟩ := hbegins a rfl
    obtain ⟨gap, behind, rfl, hgap, hlead⟩ := htext.lead hc
    rcases hcut.gap_cases hgap with hgone | ⟨behind, rfl, hrest⟩
    · exact hblank hgone
    · have hother : ¬ some c = some 'n' := fun heq => hnull (Option.some.inj heq)
      have hread := (hvalue a rfl).map some _ _ hlead hrest.cons
      simp only [option, run_bind, run_blanks, dropWhile_gap hgap hfirst, run_peek, List.head?_cons,
        hother, if_false]
      exact hread

theorem optionText_starves (s? : Option String) :
    Starves (option text) (optionTokens textTokens s?) :=
  option_starves (fun s _ => text_starves s)
    (fun s _ => ⟨'"', begins_text s [], by decide, by decide⟩) rfl

theorem optionAvatar_starves (a? : Option Avatar) :
    Starves (option avatar) (optionTokens avatarTokens a?) :=
  option_starves (fun a _ => avatar_starves a)
    (fun a _ => ⟨'[', begins_list byteTokens a.bytes, by decide, by decide⟩) rfl

/-! ### Groups -/

namespace Draft

variable {draft next : Draft} {field : Field} {g : Group}

theorem read_starves (draft : Draft) (g : Group) (field : Field) :
    Starves (draft.read field) (fieldTokens g field) := by
  cases field with
  | id => exact (groupId_starves g.id).bind_nil
  | name => exact (optionText_starves g.name).bind_nil
  | members => exact (texts_starve g.members).bind_nil
  | admins => exact (texts_starve g.admins).bind_nil
  | kind => exact (kind_starves g.kind).bind_nil
  | removed => exact (memberSet_starves g.removed).bind_nil
  | avatar => exact (optionAvatar_starves g.avatar).bind_nil

theorem field_starves (g : Group) (habsent : draft.has field = false) :
    Starves draft.member (memberTokens field.key (fieldTokens g field)) := by
  have hvalue : Starves (do colon; draft.read field) (.colon :: fieldTokens g field) :=
    colon_starves.bind colon_reads (draft.read_starves g field) (detached_fieldTokens g field)
  unfold member
  refine (key_starves field.key).bind (key_reads field.key) ?_ nofun
  rw [Field.ofKey?_key]
  simp only [habsent, Bool.false_eq_true, if_false]
  exact hvalue

/-- A draft that has a field does not read it again. -/
theorem has_eq_false_of_reads {tokens : List Token}
    (hreads : Reads draft.member (memberTokens field.key tokens) next) :
    draft.has field = false := by
  -- otherwise the key alone would be refused
  by_contra hhas
  rw [Bool.not_eq_false] at hhas
  have hread := hreads _ [] (.written _) nofun
  rw [memberTokens, List.flatMap_cons, List.append_assoc, Token.chars, member, run_bind] at hread
  have hkey := run_key (List.forall_mem_nil _) field.key
    ((.colon :: tokens).flatMap Token.chars ++ [])
  rw [List.nil_append] at hkey
  simp only [hkey, Field.ofKey?_key, hhas, if_true, run_fail] at hread
  cases hread

theorem record_starves (g : Group) {fields : List Field} (hnodup : fields.Nodup) :
    Starves record (layout g (fields.map .field)) := by
  have hfields : fieldsOf (fields.map .field) = fields := by
    rw [fieldsOf, List.filterMap_map]
    exact List.filterMap_some
  have hchain := chain_entries g [] (fields.map .field) (by rwa [List.nil_append, hfields])
  have hmembers : ∀ row ∈ (fields.map .field).map (Entry.tokens g), ∀ draft next,
      Reads (member draft) row next → Starves (member draft) row := by
    intro row hrow draft next hreads
    obtain ⟨entry, hentry, rfl⟩ := List.mem_map.1 hrow
    obtain ⟨field, -, rfl⟩ := List.mem_map.1 hentry
    exact field_starves g (has_eq_false_of_reads hreads)
  refine RunsOut.opening_mark (c := '{') rfl (by decide) ?_
  rw [if_pos rfl]
  exact (Container.parts_starve hchain hmembers).bind_nil

end Draft

theorem loadGroup_of_cut {tokens : List Token} {text cut : List Char}
    (hstarves : Starves record tokens) (htext : Spelling tokens text) (hcut : Cut text cut) :
    ∃ place, loadGroup (String.ofList cut) = ⟨.error (.ended place), []⟩ := by
  have hread := hstarves text cut htext hcut
  generalize hresult : record.run cut = result at hread
  cases hread with
  | lacking place =>
    rw [← String.toList_ofList (l := cut)] at hresult
    exact ⟨place, loadGroup_of_fault hresult⟩
  | early hnever => exact hnever.elim

/-- A text that breaks off before the last character of what is written for a group, valid or not,
is refused for having ended, and nothing is recorded. So is one that breaks off before the end of
any object with some of the fields of the group in any order, however it is spaced. -/
theorem loadGroup_truncated (g : Group) :
    (∀ cut more : String, groupText g = cut ++ more → more ≠ "" →
      ∃ place, loadGroup cut = ⟨.error (.ended place), []⟩) ∧
    ∀ fields : List Field, fields.Nodup →
      ∀ text cut, Spelling (layout g (fields.map .field)) text → Cut text cut →
        ∃ place, loadGroup (String.ofList cut) = ⟨.error (.ended place), []⟩ := by
  refine ⟨fun cut more htext hmore => ?_, fun fields hnodup text cut =>
    loadGroup_of_cut (Draft.record_starves g hnodup)⟩
  have hcut : Cut (groupText g).toList cut.toList := by
    refine ⟨more.toList, fun hnil => hmore (String.toList_eq_nil_iff.1 hnil), ?_⟩
    rw [htext, String.toList_append]
  have hspelling : Spelling (layout g (Field.all.map .field)) (groupText g).toList := by
    rw [layout_all, groupText, write, String.toList_ofList]
    exact .written (groupTokens g)
  have hload := loadGroup_of_cut (Draft.record_starves g (by decide)) hspelling hcut
  rwa [String.ofList_toList] at hload

/-- A group that lists a member twice, with a name that is written by its code. -/
def murmur : Group := Group.create (some "\x01") ["ann", "ann"] (some ⟨[255]⟩) .zero .signal

/-- What is written for the group behind its first bracket. -/
def murmurTail : List Char := (groupTokens murmur).tail.flatMap Token.chars

/-- The text may break off behind its first bracket, in the code of a character, or in a byte, where
two of its digits are a byte as well. -/
theorem loadGroup_murmur :
    (groupText murmur = "\x7b" ++ String.ofList murmurTail ∧ String.ofList murmurTail ≠ "" ∧
      ∃ place, loadGroup "\x7b" = ⟨.error (.ended place), []⟩) ∧
    (Cut ((layout murmur [.field .name]).flatMap Token.chars) "\x7b\"name\":\"\\u00".toList ∧
      ∃ place, loadGroup "\x7b\"name\":\"\\u00" = ⟨.error (.ended place), []⟩) ∧
    (Cut ((layout murmur [.field .avatar]).flatMap Token.chars) "\x7b\"avatar\":[25".toList ∧
      ∃ place, loadGroup "\x7b\"avatar\":[25" = ⟨.error (.ended place), []⟩) := by
  obtain ⟨hwritten, hobject⟩ := loadGroup_truncated murmur
  have htext : groupText murmur = "\x7b" ++ String.ofList murmurTail := by
    exact String.ofList_cons
  have htail : String.ofList murmurTail ≠ "" := by
    rw [ne_eq, String.ofList_eq_empty_iff]
    exact nofun
  have hname : Cut ((layout murmur [.field .name]).flatMap Token.chars)
      "\x7b\"name\":\"\\u00".toList := ⟨"01\"\x7d".toList, by decide, by decide⟩
  have hbyte : byteTokens 255 = [.number ⟨false, [2, 5, 5], [], none⟩] := by
    have hdigits : Digit.ofNat 255 = [2, 5, 5] := by simp [Digit.ofNat]
    exact congrArg (fun digits => [Token.number ⟨false, digits, [], none⟩]) hdigits
  have havatar : Cut ((layout murmur [.field .avatar]).flatMap Token.chars)
      "\x7b\"avatar\":[25".toList := by
    have hlayout : layout murmur [.field .avatar] = .openObject :: (memberTokens "avatar"
        (.openList :: (byteTokens 255 ++ [.closeList])) ++ [.closeObject]) := rfl
    refine ⟨"5]\x7d".toList, by decide, ?_⟩
    rw [hlayout, hbyte]
    decide
  refine ⟨⟨htext, htail, hwritten _ _ htext htail⟩, ⟨hname, ?_⟩, ⟨havatar, ?_⟩⟩
  · have hload := hobject [.name] (by decide) _ _ (.written _) hname
    rwa [String.ofList_toList] at hload
  · have hload := hobject [.avatar] (by decide) _ _ (.written _) havatar
    rwa [String.ofList_toList] at hload

end Roster.Json
