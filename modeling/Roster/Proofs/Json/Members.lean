import Mathlib.Data.List.Induction
import Roster.Proofs.Json.Skip

/-!
# The members of a group's object

A group is written as an object with its seven fields, and it may be read from any object that has
some of them, in any order and with values of any depth under unknown keys among them. Each field
fills its own place in the draft and unknown members leave the draft as it is, so what has been
filled in is told by the fields met so far, and what the draft comes to by all of them together.
-/

namespace Roster.Json

open Reader

/-! ### Objects -/

/-- A member of an object that describes a group: a field, or a value under an unknown key. -/
inductive Entry where
  | field (field : Field)
  | other (key : String) (value : List Token) (hkey : ∀ field : Field, field.key ≠ key)
      (hvalue : IsValue value)

namespace Entry

def field? : Entry → Option Field
  | field f => some f
  | other .. => none

/-- The member with the value that the group has for its field. -/
def tokens (g : Group) : Entry → List Token
  | field f => memberTokens f.key (fieldTokens g f)
  | other key value _ _ => memberTokens key value

end Entry

/-- The fields among the members of an object. -/
def fieldsOf (entries : List Entry) : List Field := entries.filterMap Entry.field?

theorem fieldsOf_cons (entry : Entry) (entries : List Entry) :
    fieldsOf (entry :: entries) = entry.field?.toList ++ fieldsOf entries := by
  cases entry <;> rfl

/-- The object with these members. -/
def layout (g : Group) (entries : List Entry) : List Token :=
  .openObject :: (separated (entries.map (Entry.tokens g)) ++ [.closeObject])

namespace Field

/-- The fields that must not be missing. -/
def required : List Field := [id, members, admins, kind, removed]

theorem ofKey?_eq_none {text : String} (h : ∀ field : Field, field.key ≠ text) :
    ofKey? text = none := by
  apply List.find?_eq_none.2
  intro field _
  simpa using h field

end Field

/-- The group as these fields tell it: without a name or an avatar unless they are among them. -/
def told (g : Group) (fields : List Field) : Group :=
  { g with
    name := if .name ∈ fields then g.name else none
    avatar := if .avatar ∈ fields then g.avatar else none }

theorem told_eq_self {g : Group} {fields : List Field} (hname : .name ∈ fields)
    (havatar : .avatar ∈ fields) : told g fields = g := by
  simp only [told, hname, havatar, if_true]

namespace Draft

/-- The draft with one field as it is in a group. -/
def fill (draft : Draft) (g : Group) : Field → Draft
  | .id => { draft with id := some g.id }
  | .name => { draft with name := some g.name }
  | .members => { draft with members := some g.members }
  | .admins => { draft with admins := some g.admins }
  | .kind => { draft with kind := some g.kind }
  | .removed => { draft with removed := some g.removed }
  | .avatar => { draft with avatar := some g.avatar }

/-- The draft with these fields as they are in a group, and no others. -/
def holding (g : Group) (fields : List Field) : Draft where
  id := if .id ∈ fields then some g.id else none
  name := if .name ∈ fields then some g.name else none
  members := if .members ∈ fields then some g.members else none
  admins := if .admins ∈ fields then some g.admins else none
  kind := if .kind ∈ fields then some g.kind else none
  removed := if .removed ∈ fields then some g.removed else none
  avatar := if .avatar ∈ fields then some g.avatar else none

variable {draft : Draft} {g : Group} {field : Field} {fields : List Field} {entries : List Entry}

theorem has_holding (g : Group) (fields : List Field) (field : Field) :
    (holding g fields).has field = decide (field ∈ fields) := by
  cases field <;> simp only [has, holding] <;> split <;> simp [*]

theorem fill_holding (g : Group) (fields : List Field) (field : Field) :
    (holding g fields).fill g field = holding g (fields ++ [field]) := by
  cases field <;> simp [fill, holding]

/-! ### Members are read -/

theorem read_reads (draft : Draft) (g : Group) (field : Field) :
    Reads (draft.read field) (fieldTokens g field) (draft.fill g field) := by
  cases field with
  | id => exact (groupId_reads g.id).bind_pure fun id => { draft with id := some id }
  | name => exact (optionText_reads g.name).bind_pure fun name => { draft with name := some name }
  | members => exact (texts_read g.members).bind_pure fun ids => { draft with members := some ids }
  | admins => exact (texts_read g.admins).bind_pure fun ids => { draft with admins := some ids }
  | kind => exact (kind_reads g.kind).bind_pure fun kind => { draft with kind := some kind }
  | removed =>
    exact (memberSet_reads g.removed).bind_pure fun set => { draft with removed := some set }
  | avatar =>
    exact (optionAvatar_reads g.avatar).bind_pure fun avatar => { draft with avatar := some avatar }

theorem detached_fieldTokens (g : Group) (field : Field) : Detached (fieldTokens g field) := by
  intro n heq
  cases field with
  | name =>
    cases hname : g.name <;> rw [fieldTokens, hname] at heq <;> cases heq
  | avatar =>
    cases havatar : g.avatar <;> rw [fieldTokens, havatar] at heq <;> cases heq
  | _ => cases heq

theorem field_reads (g : Group) (habsent : draft.has field = false) :
    Reads draft.member (memberTokens field.key (fieldTokens g field)) (draft.fill g field) := by
  have hvalue : Reads (do colon; draft.read field) (.colon :: fieldTokens g field)
      (draft.fill g field) :=
    colon_reads.bind (draft.read_reads g field) (detached_fieldTokens g field)
  have hdetached : Detached (.colon :: fieldTokens g field) := by
    intro n heq
    cases heq
  unfold member
  refine (key_reads field.key).bind ?_ hdetached
  rw [Field.ofKey?_key]
  simp only [habsent, Bool.false_eq_true, if_false]
  exact hvalue

theorem other_reads {key : String} {value : List Token} (draft : Draft)
    (hkey : ∀ field : Field, field.key ≠ key) (hvalue : IsValue value) :
    Reads draft.member (memberTokens key value) draft := by
  intro text rest htext hrest
  obtain ⟨gap, text, rfl, hgap, htext⟩ := htext.cons_split
  obtain ⟨gap', text, rfl, hgap', htext⟩ := htext.cons_split
  have hskip : Skip.value.run (text ++ rest) = .ok ((), rest) :=
    Skip.value_reads hvalue text rest htext hrest
  simp only [Token.chars, List.append_assoc, List.cons_append, List.nil_append, member, run_bind,
    run_key hgap, Field.ofKey?_eq_none hkey, run_colon hgap', hskip, run_pure]

/-- A member adds its field, if it has one, to those that were read before. -/
theorem entry_reads (g : Group) (fields : List Field) (entry : Entry)
    (hfresh : ∀ field ∈ entry.field?, field ∉ fields) :
    Reads (holding g fields).member (entry.tokens g)
      (holding g (fields ++ entry.field?.toList)) := by
  cases entry with
  | field field =>
    have habsent : (holding g fields).has field = false := by
      rw [has_holding]
      exact decide_eq_false (hfresh field rfl)
    have h := field_reads g habsent
    rwa [fill_holding] at h
  | other key value hkey hvalue =>
    rw [Entry.field?, Option.toList_none, List.append_nil]
    exact other_reads _ hkey hvalue

theorem begins_entry (g : Group) (entry : Entry) : Begins (entry.tokens g) '"' := by
  cases entry with
  | field field => exact begins_text field.key _
  | other key value hkey hvalue => exact begins_text key _

theorem chain_entries (g : Group) (fields : List Field) (entries : List Entry)
    (hnodup : (fields ++ fieldsOf entries).Nodup) :
    Container.object.Chain member (holding g fields) (entries.map (Entry.tokens g))
      (holding g (fields ++ fieldsOf entries)) := by
  induction entries generalizing fields with
  | nil =>
    rw [fieldsOf, List.filterMap_nil, List.append_nil]
    exact .nil _
  | cons entry entries ih =>
    rw [fieldsOf_cons, ← List.append_assoc] at hnodup ⊢
    have hfresh : ∀ field ∈ entry.field?, field ∉ fields := by
      intro field hfield hmem
      have hdisjoint := (List.nodup_append.1 (List.nodup_append.1 hnodup).1).2.2
      exact hdisjoint field hmem field (Option.mem_toList.2 hfield) rfl
    exact .cons (begins_entry g entry) (by decide) (by decide) (entry_reads g fields entry hfresh)
      (ih (fields ++ entry.field?.toList) hnodup)

/-! ### What the members come to -/

/-- The group, unless one of the fields asked for is not there: the first such field is reported. -/
def demand (fields asked : List Field) (g : Group) : Except Mismatch Group :=
  match asked.find? fun field => decide (field ∉ fields) with
  | some field => .error (.missingField field)
  | none => .ok g

theorem need_bind {α : Type} {a : α} {next : α → Except Mismatch Group} {asked : List Field}
    (hnext : next a = demand fields asked g) :
    (need field (if field ∈ fields then some a else none) >>= next)
      = demand fields (field :: asked) g := by
  by_cases hfield : field ∈ fields
  · rw [if_pos hfield, demand, List.find?_cons_of_neg (by simpa using hfield)]
    exact hnext
  · rw [if_neg hfield, demand, List.find?_cons_of_pos (by simpa using hfield)]
    rfl

theorem join_if {α : Type} (a? : Option α) :
    (if field ∈ fields then some a? else none).join = if field ∈ fields then a? else none := by
  split <;> rfl

theorem finish_holding (g : Group) (fields : List Field) :
    (holding g fields).finish = demand fields Field.required (told g fields) := by
  have hgroup : (.ok { g with
      name := (holding g fields).name.join
      avatar := (holding g fields).avatar.join } : Except Mismatch Group)
        = demand fields [] (told g fields) := by
    simp only [holding, join_if]
    rfl
  exact need_bind (need_bind (need_bind (need_bind (need_bind hgroup))))

theorem demand_of_subset {asked : List Field} (h : asked ⊆ fields) :
    demand fields asked g = .ok g := by
  have hnone : (asked.find? fun field => decide (field ∉ fields)) = none := by
    apply List.find?_eq_none.2
    intro field hfield
    simpa using h hfield
  rw [demand, hnone]

theorem demand_of_not_subset {asked : List Field} (h : ¬ asked ⊆ fields) :
    ∃ field ∈ asked, field ∉ fields ∧ demand fields asked g = .error (.missingField field) := by
  cases hfind : asked.find? fun field => decide (field ∉ fields) with
  | none =>
    refine absurd (fun field hfield => ?_) h
    simpa using List.find?_eq_none.1 hfind field hfield
  | some field =>
    refine ⟨field, List.mem_of_find?_eq_some hfind, ?_, by rw [demand, hfind]⟩
    simpa using List.find?_some hfind

/-! ### Objects are read -/

/-- An object with at most one member for each field is read as what its fields come to. -/
theorem run_record (hnodup : (fieldsOf entries).Nodup) {text rest : List Char}
    (htext : Spelling (layout g entries) text) (hrest : Apart rest) :
    record.run (text ++ rest) =
      match demand (fieldsOf entries) Field.required (told g (fieldsOf entries)) with
      | .ok h => .ok (h, rest)
      | .error mismatch => .error (.unfit mismatch) := by
  have hchain := chain_entries g [] entries hnodup
  obtain ⟨gap, text, rfl, hgap, htext⟩ := htext.cons_split
  have hparts : (Container.object.parts member {}).run (text ++ rest)
      = .ok (holding g (fieldsOf entries), rest) :=
    Container.parts_reads hchain text rest htext hrest
  rw [Token.chars, List.append_assoc]
  simp only [List.cons_append, List.nil_append, record, run_bind,
    run_opening_gap hgap (c := '{') (by decide), if_true, groupObject, hparts, finish_holding]
  cases demand (fieldsOf entries) Field.required (told g (fieldsOf entries)) <;> rfl

/-- A second member for a field is refused at its key, whatever comes behind the key. -/
theorem run_record_repeated (hnodup : (fieldsOf entries).Nodup) (hfield : field ∈ fieldsOf entries)
    {text : List Char}
    (htext : Spelling (.openObject ::
      (separated (entries.map (Entry.tokens g)) ++ [.comma, .text field.key])) text)
    (rest : List Char) :
    record.run (text ++ rest) = .error (.unfit (.repeatedField field)) := by
  have hchain := chain_entries g [] entries hnodup
  have hrows : entries.map (Entry.tokens g) ≠ [] := by
    intro hnil
    rw [List.map_eq_nil_iff.1 hnil] at hfield
    cases hfield
  obtain ⟨gap, text, rfl, hgap, htext⟩ := htext.cons_split
  obtain ⟨text₁, text₂, rfl, hfront, htext⟩ := htext.append_split
  obtain ⟨gap₁, text₂, rfl, hgap₁, htext⟩ := htext.cons_split
  obtain ⟨gap₂, rfl, hgap₂⟩ := htext.singleton_split
  have hmember : (holding g (fieldsOf entries)).member.run (Token.quoted field.key ++ rest)
      = .error (.unfit (.repeatedField field)) := by
    have hkey : key.run (Token.quoted field.key ++ rest) = .ok (field.key, rest) :=
      run_key (List.forall_mem_nil _) field.key rest
    simp only [member, run_bind, hkey, Field.ofKey?_key, has_holding, hfield, decide_true, if_true,
      run_fail]
  have hparts : (Container.object.parts member {}).run
      (text₁ ++ (gap₁ ++ ',' :: (gap₂ ++ (Token.quoted field.key ++ rest))))
        = .error (.unfit (.repeatedField field)) :=
    Container.run_parts_fault hchain hrows hfront hgap₁ hgap₂ (by decide) (by decide) hmember
  simp only [Token.chars, List.append_assoc, List.cons_append, List.nil_append, record, run_bind,
    run_opening_gap hgap (c := '{') (by decide), if_true, groupObject, hparts]

end Draft

/-! ### Repeated fields -/

variable {g : Group} {field : Field} {entries front back : List Entry}

theorem fieldsOf_append (front back : List Entry) :
    fieldsOf (front ++ back) = fieldsOf front ++ fieldsOf back := List.filterMap_append

/-- The first member whose field was there before. -/
theorem exists_first_repeat (h : ¬ (fieldsOf entries).Nodup) :
    ∃ front field back, entries = front ++ .field field :: back ∧ (fieldsOf front).Nodup ∧
      field ∈ fieldsOf front := by
  induction entries using List.reverseRecOn with
  | nil => exact absurd List.nodup_nil h
  | append_singleton entries entry ih =>
    by_cases hnodup : (fieldsOf entries).Nodup
    · cases entry with
      | other key value hkey hvalue =>
        have hfields : fieldsOf (entries ++ [.other key value hkey hvalue]) = fieldsOf entries := by
          rw [fieldsOf_append]
          exact List.append_nil _
        rw [hfields] at h
        exact absurd hnodup h
      | field field =>
        have hfields : fieldsOf (entries ++ [.field field]) = fieldsOf entries ++ [field] :=
          fieldsOf_append entries [.field field]
        refine ⟨entries, field, [], rfl, hnodup, ?_⟩
        by_contra hfresh
        apply h
        rw [hfields]
        exact (List.perm_append_singleton field _).nodup_iff.2
          (List.nodup_cons.2 ⟨hfresh, hnodup⟩)
    · obtain ⟨front, field, back, rfl, hfront, hfield⟩ := ih hnodup
      exact ⟨front, field, back ++ [entry], by simp, hfront, hfield⟩

/-- The object up to the key of a member behind others, and the rest of it. -/
theorem layout_append (hfront : front ≠ []) :
    layout g (front ++ .field field :: back) =
      .openObject :: (separated (front.map (Entry.tokens g)) ++ [.comma, .text field.key]) ++
        (.colon :: fieldTokens g field ++ (back.map (Entry.tokens g)).flatMap (.comma :: ·) ++
          [.closeObject]) := by
  cases front with
  | nil => exact absurd rfl hfront
  | cons entry front => simp [layout, separated, memberTokens, Entry.tokens]

end Roster.Json
