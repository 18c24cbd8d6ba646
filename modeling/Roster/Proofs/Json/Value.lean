import Roster.Json.Group
import Roster.Proofs.Json.Container
import Roster.Proofs.MemberSet

/-!
# Values in JSON are read back

Every value that the writer puts into a group has its law, by its tokens: texts, lists, values that
may be missing, ids, kinds, avatars and sets. A list of a fixed length is not read as a container
but element by element, and has its own induction.
-/

namespace Roster.Json

open Reader

variable {α : Type}

/-! ### Values -/

theorem begins_text (s : String) (tokens : List Token) : Begins (.text s :: tokens) '"' :=
  ⟨.text s, tokens, _, rfl, rfl⟩

theorem begins_list (write : α → List Token) (items : List α) :
    Begins (listTokens write items) '[' :=
  ⟨.openList, _, [], rfl, rfl⟩

theorem begins_byte (b : UInt8) : ∃ c, Begins (byteTokens b) c ∧ isBlank c = false ∧ c ≠ ']' := by
  obtain ⟨c, chars, htext, hfirst, _⟩ :=
    Numeral.run_behind (.ended .value) (Numeral.wellFormed_ofNat b.toNat)
  refine ⟨c, ⟨_, [], chars, rfl, htext⟩, isBlank_of_isFirst hfirst, ?_⟩
  rintro rfl
  exact absurd hfirst (by decide)

theorem text_reads (s : String) : Reads text (textTokens s) s := by
  refine Reads.opening (c := '"') rfl (by decide) ?_
  intro text rest htext _
  cases htext
  simp only [if_true, List.append_assoc, List.singleton_append]
  exact Text.run_content_escape s

theorem chain_items {item : Reader α} {write : α → List Token} {items : List α} (done : List α)
    (hitems : ∀ a ∈ items, Reads item (write a) a)
    (hbegins : ∀ a ∈ items, ∃ c, Begins (write a) c ∧ isBlank c = false ∧ c ≠ ']') :
    Container.list.Chain (fun done => (· :: done) <$> item) done (items.map write)
      (items.reverse ++ done) := by
  induction items generalizing done with
  | nil => exact .nil done
  | cons a items ih =>
    obtain ⟨c, hc, hblank, hclosing⟩ := hbegins a List.mem_cons_self
    rw [List.reverse_cons, List.append_assoc]
    have hfirst : Reads ((· :: done) <$> item) (write a) (a :: done) :=
      (hitems a List.mem_cons_self).map (· :: done)
    have hrest := ih (a :: done) (fun b hb => hitems b (List.mem_cons_of_mem a hb))
      (fun b hb => hbegins b (List.mem_cons_of_mem a hb))
    exact .cons hc hblank hclosing hfirst hrest

theorem list_reads {item : Reader α} {write : α → List Token} {items : List α}
    (hitems : ∀ a ∈ items, Reads item (write a) a)
    (hbegins : ∀ a ∈ items, ∃ c, Begins (write a) c ∧ isBlank c = false ∧ c ≠ ']') :
    Reads (list item) (listTokens write items) items := by
  have hchain := chain_items [] hitems hbegins
  have hparts := (Container.parts_reads hchain).bind_pure List.reverse
  rw [List.append_nil, List.reverse_reverse] at hparts
  refine Reads.opening_mark (c := '[') rfl (by decide) ?_
  rw [if_pos rfl]
  exact hparts

theorem texts_read (texts : List String) : Reads (list text) (listTokens textTokens texts) texts :=
  list_reads (fun s _ => text_reads s)
    fun s _ => ⟨'"', begins_text s [], by decide, by decide⟩

theorem option_reads {value : Reader α} {write : α → List Token} {a? : Option α}
    (hvalue : ∀ a ∈ a?, Reads value (write a) a)
    (hbegins : ∀ a ∈ a?, ∃ c, Begins (write a) c ∧ isBlank c = false ∧ c ≠ 'n') :
    Reads (option value) (optionTokens write a?) a? := by
  intro text rest htext hrest
  cases a? with
  | none =>
    obtain ⟨gap, rfl, hgap⟩ := htext.singleton_split
    have hblanks : (gap ++ Token.null.chars ++ rest).dropWhile isBlank
        = 'n' :: 'u' :: 'l' :: 'l' :: rest := by
      rw [List.append_assoc]
      exact dropWhile_gap hgap (c := 'n') (by decide)
    simp only [option, run_bind, run_blanks, hblanks, run_peek, List.head?_cons, if_true,
      run_advance, List.tail_cons]
    rfl
  | some a =>
    obtain ⟨c, hc, hblank, hnull⟩ := hbegins a rfl
    obtain ⟨gap, behind, rfl, hgap, hbehind⟩ := htext.lead hc
    have hblanks : (gap ++ c :: behind ++ rest).dropWhile isBlank = c :: (behind ++ rest) := by
      rw [List.append_assoc]
      exact dropWhile_gap hgap hblank
    have hother : ¬ some c = some 'n' := fun heq => hnull (Option.some.inj heq)
    have hread := ((hvalue a rfl).map some) (c :: behind) rest hbehind hrest
    simp only [option, run_bind, run_blanks, hblanks, run_peek, List.head?_cons, hother, if_false]
    exact hread

/-! ### Ids and kinds -/

theorem element_reads_first {item : Reader α} {wanted : Wanted} {row : List Token} {a : α}
    (hitem : Reads item row a) {c : Char} (hbegins : Begins row c) (hc : isBlank c = false)
    (hclosing : c ≠ ']') : Reads (element item wanted 0) row a := by
  intro text rest htext hrest
  obtain ⟨gap, behind, rfl, hgap, hbehind⟩ := htext.lead hbegins
  have hgo : (Container.list.another true).run (gap ++ c :: (behind ++ rest))
      = .ok (true, c :: (behind ++ rest)) := Container.run_another_first hgap hc hclosing
  rw [List.append_assoc, List.cons_append, element, run_bind]
  simp only [decide_true, hgo, if_true]
  exact hitem (c :: behind) rest hbehind hrest

theorem element_reads_later {item : Reader α} {wanted : Wanted} {row : List Token} {a : α}
    {index : Nat} (hitem : Reads item row a) {c : Char} (hbegins : Begins row c)
    (hc : isBlank c = false) (hclosing : c ≠ ']') :
    Reads (element item wanted (index + 1)) (.comma :: row) a := by
  intro text rest htext hrest
  obtain ⟨gap, behind, rfl, hgap, hbehind⟩ := htext.cons_split
  obtain ⟨gap', behind, rfl, hgap', hbehind⟩ := hbehind.lead hbegins
  have hgo : (Container.list.another false).run (gap ++ ',' :: (gap' ++ c :: (behind ++ rest)))
      = .ok (true, c :: (behind ++ rest)) := Container.run_another_comma hgap hgap' hc hclosing
  have hlater : decide (index + 1 = 0) = false := decide_eq_false (Nat.succ_ne_zero index)
  simp only [Token.chars, List.append_assoc, List.cons_append, List.nil_append, element, run_bind,
    hlater, hgo, if_true]
  exact hitem (c :: behind) rest hbehind hrest

theorem detached_bytes (bytes : List UInt8) :
    Detached (bytes.flatMap (.comma :: byteTokens ·)) := by
  have h := detached_commas (bytes.map byteTokens)
  rwa [List.flatMap_map] at h

theorem idBytesFrom_reads (index : Nat) (bytes : List UInt8) :
    Reads (idBytesFrom (index + 1) bytes.length) (bytes.flatMap (.comma :: byteTokens ·))
      ⟨bytes, rfl⟩ := by
  induction bytes generalizing index with
  | nil => exact Reads.pure _
  | cons b bytes ih =>
    obtain ⟨c, hbegins, hblank, hclosing⟩ := begins_byte b
    have hrest := (ih (index + 1)).bind_pure fun rest =>
      (⟨b :: rest.val, congrArg (· + 1) rest.property⟩ :
        { taken : List UInt8 // taken.length = bytes.length + 1 })
    rw [List.flatMap_cons]
    exact (element_reads_later (byte_reads b) hbegins hblank hclosing).bind hrest
      (detached_bytes bytes)

/-- All bytes of an id: the first stands behind no comma. -/
theorem idBytes_read {bytes : List UInt8} {count : Nat} (hlength : bytes.length = count)
    (hcount : count ≠ 0) :
    Reads (idBytesFrom 0 count) (separated (bytes.map byteTokens)) ⟨bytes, hlength⟩ := by
  subst hlength
  cases bytes with
  | nil => exact absurd rfl hcount
  | cons b bytes =>
    obtain ⟨c, hbegins, hblank, hclosing⟩ := begins_byte b
    have hrest := (idBytesFrom_reads 0 bytes).bind_pure fun rest =>
      (⟨b :: rest.val, congrArg (· + 1) rest.property⟩ :
        { taken : List UInt8 // taken.length = bytes.length + 1 })
    rw [List.map_cons, separated, List.flatMap_map]
    exact (element_reads_first (byte_reads b) hbegins hblank hclosing).bind hrest
      (detached_bytes bytes)

theorem endOfList_reads : Reads endOfList [.closeList] () := by
  intro text rest htext _
  obtain ⟨gap, rfl, hgap⟩ := htext.singleton_split
  simp only [Token.chars, List.append_assoc, List.cons_append, List.nil_append, endOfList, run_bind,
    run_ahead_gap .list hgap (c := ']') (by decide), if_true, run_advance, List.tail_cons]

theorem groupId_reads (id : GroupId) : Reads groupId (idTokens id) id := by
  have hdetached : Detached [.closeList] := by
    intro n heq
    cases heq
  refine Reads.opening_mark (c := '[') rfl (by decide) ?_
  rw [if_pos rfl]
  exact (idBytes_read id.length_bytes (by decide)).bind (endOfList_reads.bind_nil (Reads.pure id))
    hdetached

theorem kind_reads (k : GroupKind) : Reads kind (kindTokens k) k := by
  refine Reads.opening (c := '"') rfl (by decide) ?_
  intro text rest htext _
  cases htext
  simp only [if_true, List.append_assoc, List.singleton_append, List.nil_append, kindName, run_bind,
    Text.run_content_escape, GroupKind.ofName?_name, run_pure]

/-! ### Avatars, sets and missing values -/

theorem avatar_reads (a : Avatar) : Reads avatar (avatarTokens a) a :=
  (list_reads (fun b _ => byte_reads b) fun b _ => begins_byte b).map Avatar.mk

theorem memberSet_reads (set : MemberSet) : Reads memberSet (memberSetTokens set) set := by
  have h := (texts_read set.ids).map MemberSet.ofList
  rwa [MemberSet.ofList_ids] at h

theorem optionText_reads (s? : Option String) :
    Reads (option text) (optionTokens textTokens s?) s? :=
  option_reads (fun s _ => text_reads s) fun s _ => ⟨'"', begins_text s [], by decide, by decide⟩

theorem optionAvatar_reads (a? : Option Avatar) :
    Reads (option avatar) (optionTokens avatarTokens a?) a? :=
  option_reads (fun a _ => avatar_reads a)
    fun a _ => ⟨'[', begins_list byteTokens a.bytes, by decide, by decide⟩

end Roster.Json
