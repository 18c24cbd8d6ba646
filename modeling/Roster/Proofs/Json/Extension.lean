import Roster.Proofs.Json.Loading
import Roster.Proofs.Json.Skip
import Roster.Proofs.Json.Steady

/-!
# Texts that go on

The end of a container is its closing bracket, so a group is read in the same way when the text goes
on behind it, whatever stood in its members. What is behind it is not part of the group then, and
unless it is blank it is refused.
-/

namespace Roster.Json

open Reader

variable {α : Type}

/-! ### Lists and objects -/

namespace Container

variable {σ : Type} {container : Container}

theorem another_firm (container : Container) (first : Bool) :
    Firm (container.another first) := by
  refine ahead_bind_firm fun c tail announced rest more h => ?_
  by_cases hclosing : c = container.closing
  · rw [if_pos hclosing] at h ⊢
    cases h
    rfl
  · rw [if_neg hclosing] at h ⊢
    cases first with
    | true =>
      cases h
      rfl
    | false =>
      by_cases hcomma : c = ','
      · rw [if_neg Bool.false_ne_true, if_pos hcomma] at h ⊢
        have hfollow : Firm (ahead .value >>= fun d =>
            if d = container.closing then (fail (.malformed .trailingComma) : Reader Bool)
            else return true) := by
          refine (ahead_firm .value).bind fun d => ?_
          split
          · exact .fail _
          · exact .pure true
        exact hfollow tail announced rest more h
      · rw [if_neg Bool.false_ne_true, if_neg hcomma] at h
        cases h

theorem partsFrom_ne_nil {part : σ → Reader σ} {state final : σ} {first : Bool}
    {input rest : List Char}
    (h : partsFrom container part state first input = .ok (final, rest)) : input ≠ [] := by
  rintro rfl
  rw [partsFrom] at h
  cases h

theorem partsFrom_append {part : σ → Reader σ} (hpart : ∀ state, Steady (part state))
    {state final : σ} {first : Bool} {input rest : List Char} (more : List Char)
    (h : partsFrom container part state first input = .ok (final, rest)) :
    partsFrom container part state first (input ++ more) = .ok (final, rest ++ more) := by
  fun_induction partsFrom container part state first input with
  | case1 => cases h
  | case2 _ first input _ announced =>
    cases h
    exact partsFrom_stop (another_firm container first input false _ more announced)
  | case3 => cases h
  | case4 state first input rest announced _ next behind taken _ ih =>
    rw [partsFrom_step (another_firm container first input true _ more announced)
      (hpart state rest next behind more taken (partsFrom_ne_nil h))]
    exact ih h

theorem parts_firm {part : σ → Reader σ} (hpart : ∀ state, Steady (part state)) (state : σ) :
    Firm (container.parts part state) :=
  fun _ _ _ more h => partsFrom_append hpart more h

end Container

theorem list_steady {item : Reader α} (hitem : Steady item) : Steady (list item) := by
  refine opening_steady.bind fun first => .ite ?_ (refuse_steady .list first)
  have hparts : Firm (Container.list.parts (fun done => (· :: done) <$> item) []) :=
    Container.parts_firm (fun done => hitem.map (· :: done)) []
  exact hparts.steady.bind fun _ => .pure _

theorem element_steady {item : Reader α} (hitem : Steady item) (wanted : Wanted) (index : Nat) :
    Steady (element item wanted index) :=
  (Container.another_firm .list _).steady.bind fun _ => .ite hitem (.fail _)

theorem endOfList_closed : Closed endOfList := by
  refine ⟨ahead_bind_firm fun c tail a rest more h => ?_, ⟨_, rfl⟩⟩
  by_cases hclosing : c = ']'
  · rw [if_pos hclosing] at h ⊢
    cases h
    rfl
  · rw [if_neg hclosing] at h
    split at h
    · simp only [run_bind, run_advance, run_blanks, run_peek] at h
      split at h <;> cases h
    · cases h

theorem keyOpening_steady : Steady keyOpening :=
  (ahead_steady .object).bind fun _ => .ite advance_steady (.fail _)

theorem key_steady : Steady key := keyOpening_steady.bind fun _ => Text.content_steady

theorem colon_steady : Steady colon :=
  (ahead_steady .object).bind fun _ => .ite advance_steady (.fail _)

/-! ### Values that are passed over -/

namespace Skip

theorem scalar_steady (first : Char) : Steady (scalar first) := by
  unfold scalar
  split
  · exact word_steady _
  · exact word_steady _
  · exact word_steady _
  · exact Text.skipContent_steady
  · exact .ite ((Numeral.behind_steady _ first).map _) (.fail _)

theorem lead_steady (container : Container) : Steady (lead container) := by
  cases container with
  | list => exact .pure ()
  | object =>
    exact keyOpening_steady.bind fun _ => Text.skipContent_steady.bind fun _ => colon_steady

theorem beginValue_steady (stack : List Container) : Steady (beginValue stack) := by
  refine opening_steady.bind fun first => ?_
  split
  · exact .pure _
  · exact (scalar_steady first).bind fun _ => .pure _

theorem goOn_steady (first : Bool) (container : Container) (outer : List Container) :
    Steady (goOn first container outer) :=
  (ahead_steady container.place).bind fun _ => .ite
    (advance_steady.bind fun _ => .pure _)
    (.ite ((lead_steady container).bind fun _ => .pure _)
      (.ite (advance_steady.bind fun _ => (lead_steady container).bind fun _ => .pure _) (.fail _)))

theorem walk_append {due : Due} {stack : List Container} {input rest : List Char}
    (more : List Char) (h : walk due stack input = .ok ((), rest)) (hrest : rest ≠ []) :
    walk due stack (input ++ more) = .ok ((), rest ++ more) := by
  fun_induction walk due stack input with
  | case1 => cases h
  | case2 input stack due after behind begun _ ih =>
    have hbehind : behind ≠ [] := ne_nil_of_length_le (length_of_walk h) hrest
    rw [walk_value (beginValue_steady stack input _ behind more begun hbehind)]
    exact ih h
  | case3 =>
    cases h
    rw [walk]
  | case4 => cases h
  | case5 input first container outer due after behind gone _ ih =>
    have hbehind : behind ≠ [] := ne_nil_of_length_le (length_of_walk h) hrest
    rw [walk_part (goOn_steady first container outer input _ behind more gone hbehind)]
    exact ih h

theorem value_steady : Steady value := fun _ _ _ more h hrest => walk_append more h hrest

end Skip

/-! ### Groups -/

theorem idBytesFrom_steady (index left : Nat) : Steady (idBytesFrom index left) := by
  induction left generalizing index with
  | zero => exact .pure _
  | succ left ih =>
    exact (element_steady byte_steady .idBytes index).bind fun _ =>
      (ih (index + 1)).bind fun _ => .pure _

theorem groupId_steady : Steady groupId :=
  opening_steady.bind fun first => .ite
    ((idBytesFrom_steady 0 GroupId.length).bind fun _ =>
      endOfList_closed.firm.steady.bind fun _ => .pure _)
    (refuse_steady .idBytes first)

theorem avatar_steady : Steady avatar := (list_steady byte_steady).map Avatar.mk

theorem memberSet_steady : Steady memberSet := (list_steady text_steady).map MemberSet.ofList

theorem kindName_steady : Steady kindName := by
  refine Text.content_steady.bind fun name => ?_
  split
  · exact .pure _
  · exact .fail _

theorem endOfSingleton_steady : Steady endOfSingleton :=
  (ahead_steady .object).bind fun _ => .ite advance_steady (.fail _)

theorem kind_steady : Steady kind := by
  have hname : Steady (do
      keyOpening
      let kind ← kindName
      colon
      null
      endOfSingleton
      return kind) :=
    keyOpening_steady.bind fun _ => kindName_steady.bind fun kind => colon_steady.bind fun _ =>
      null_steady.bind fun _ => endOfSingleton_steady.bind fun _ => .pure kind
  refine opening_steady.bind fun first => .ite kindName_steady (.ite ?_ (.fail _))
  exact (ahead_steady .object).bind fun c => .ite ((Steady.fail _).bind fun _ => hname) hname

namespace Draft

theorem read_steady (draft : Draft) (field : Field) : Steady (draft.read field) := by
  cases field with
  | id => exact groupId_steady.bind fun _ => .pure _
  | name => exact (option_steady text_steady).bind fun _ => .pure _
  | members => exact (list_steady text_steady).bind fun _ => .pure _
  | admins => exact (list_steady text_steady).bind fun _ => .pure _
  | kind => exact kind_steady.bind fun _ => .pure _
  | removed => exact memberSet_steady.bind fun _ => .pure _
  | avatar => exact (option_steady avatar_steady).bind fun _ => .pure _

theorem member_steady (draft : Draft) : Steady draft.member := by
  refine key_steady.bind fun key => ?_
  split
  · exact colon_steady.bind fun _ => Skip.value_steady.bind fun _ => .pure draft
  · exact .ite (.fail _) (colon_steady.bind fun _ => draft.read_steady _)

end Draft

theorem groupObject_firm : Firm groupObject := by
  refine (Container.parts_firm Draft.member_steady {}).bind fun draft => ?_
  split
  · exact .pure _
  · exact .fail _

theorem groupList_closed : Closed groupList :=
  (element_steady groupId_steady .groupFields 0).bind_closed fun _ =>
  (element_steady (option_steady text_steady) .groupFields 1).bind_closed fun _ =>
  (element_steady (list_steady text_steady) .groupFields 2).bind_closed fun _ =>
  (element_steady (list_steady text_steady) .groupFields 3).bind_closed fun _ =>
  (element_steady kind_steady .groupFields 4).bind_closed fun _ =>
  (element_steady memberSet_steady .groupFields 5).bind_closed fun _ =>
  (element_steady (option_steady avatar_steady) .groupFields 6).bind_closed fun _ =>
  endOfList_closed.bind fun _ => .pure _

theorem record_firm : Firm record := by
  refine opening_firm.bind fun first => ?_
  split
  · exact groupObject_firm
  · split
    · exact groupList_closed.firm
    · exact refuse_firm .group first

/-! ### Loading -/

/-- Nothing but blanks may stand behind a text that is loaded. -/
theorem loadGroup_append_of_ok {text : String} {g : Group} (hload : (loadGroup text).value = .ok g)
    {c : Char} (hc : isBlank c = false) (more : List Char) :
    (loadGroup (text ++ String.ofList (c :: more))).value
      = .error (.malformed .trailingCharacters) := by
  obtain ⟨hvalid, rest, hrecord, hblank⟩ := record_of_loadGroup hload
  have hlonger : record.run (text ++ String.ofList (c :: more)).toList
      = .ok (g, rest ++ c :: more) := by
    rw [String.toList_append, String.toList_ofList]
    exact record_firm _ g rest _ hrecord
  rw [loadGroup_of_valid hlonger hvalid, run_endOfText_trailing (dropWhile_gap hblank hc)]

end Roster.Json
