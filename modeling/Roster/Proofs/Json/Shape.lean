import Roster.Proofs.Json.Extension
import Roster.Proofs.Json.RoundTrip

/-!
# Which objects are groups

What becomes of an object that describes a group depends on the fields among its members alone: on
whether one is repeated and, if none is, on whether a required one is missing. The order of the
members, the blanks between the tokens and the members under unknown keys play no part, and nothing
but blanks may stand behind the object.
-/

namespace Roster.Json

open Decimal Reader

variable {g : Group} {field : Field} {entries : List Entry} {text tail : List Char}

theorem valid_told (hvalid : g.Valid) (fields : List Field) : (told g fields).Valid :=
  ⟨hvalid.members_nodup, hvalid.admins_subset, hvalid.removed_disjoint⟩

/-! ### Objects without a repeated field -/

theorem loadGroup_layout_of_required (hvalid : g.Valid) (hnodup : (fieldsOf entries).Nodup)
    (hrequired : Field.required ⊆ fieldsOf entries) (htext : Spelling (layout g entries) text)
    (htail : ∀ c ∈ tail, isBlank c = true) :
    (loadGroup (String.ofList (text ++ tail))).value = .ok (told g (fieldsOf entries)) := by
  have hreads : Reads record (layout g entries) (told g (fieldsOf entries)) := by
    intro text rest htext hrest
    rw [Draft.run_record hnodup htext hrest, Draft.demand_of_subset hrequired]
  rw [loadGroup_spelling hreads htext htail, Group.accept_of_valid (valid_told hvalid _)]
  rfl

theorem loadGroup_layout_of_missing (hnodup : (fieldsOf entries).Nodup)
    (hmissing : ¬ Field.required ⊆ fieldsOf entries) (htext : Spelling (layout g entries) text)
    (htail : ∀ c ∈ tail, isBlank c = true) :
    ∃ field ∈ Field.required, field ∉ fieldsOf entries ∧
      (loadGroup (String.ofList (text ++ tail))).value = .error (.unfit (.missingField field)) := by
  obtain ⟨field, hrequired, habsent, hdemand⟩ := Draft.demand_of_not_subset hmissing
  have hrecord := Draft.run_record hnodup htext (apart_of_blank htail)
  rw [hdemand, ← String.toList_ofList (l := text ++ tail)] at hrecord
  exact ⟨field, hrequired, habsent, by rw [loadGroup_of_fault hrecord]⟩

/-! ### Objects with a repeated field -/

theorem loadGroup_of_repeated (hnodup : (fieldsOf entries).Nodup)
    (hfield : field ∈ fieldsOf entries) (htext : Spelling (.openObject ::
      (separated (entries.map (Entry.tokens g)) ++ [.comma, .text field.key])) text)
    (rest : List Char) :
    (loadGroup (String.ofList (text ++ rest))).value = .error (.unfit (.repeatedField field)) := by
  have hrecord := Draft.run_record_repeated hnodup hfield htext rest
  rw [← String.toList_ofList (l := text ++ rest)] at hrecord
  rw [loadGroup_of_fault hrecord]

theorem loadGroup_layout_of_repeated (hrepeated : ¬ (fieldsOf entries).Nodup)
    (htext : Spelling (layout g entries) text) :
    ∃ field, 2 ≤ (fieldsOf entries).count field ∧
      (loadGroup (String.ofList (text ++ tail))).value
        = .error (.unfit (.repeatedField field)) := by
  obtain ⟨front, field, back, rfl, hnodup, hfield⟩ := exists_first_repeat hrepeated
  have hfront : front ≠ [] := by
    rintro rfl
    cases hfield
  rw [layout_append hfront] at htext
  obtain ⟨text₁, text₂, rfl, hbefore, _⟩ := htext.append_split
  have hcount : 1 ≤ (fieldsOf front).count field := List.count_pos_iff.2 hfield
  refine ⟨field, ?_, ?_⟩
  · have hfields : fieldsOf (front ++ .field field :: back)
        = fieldsOf front ++ field :: fieldsOf back := fieldsOf_append front _
    rw [hfields, List.count_append, List.count_cons_self]
    omega
  · rw [List.append_assoc]
    exact loadGroup_of_repeated hnodup hfield hbefore _

/-! ### All objects -/

/-- An object with the fields of a valid group is read as the group in whatever order they come,
without its name or its avatar if their fields are left out. It is refused if a required field is
missing or any field is repeated, the latter right at the second key. Behind a text that is loaded,
only blanks may stand. -/
theorem loadGroup_layout_and_trailing (g : Group) :
    (∀ entries text tail, Spelling (layout g entries) text → (∀ c ∈ tail, isBlank c = true) →
      (g.validate.value = .ok () → (fieldsOf entries).Perm Field.all →
        (loadGroup (String.ofList (text ++ tail))).value = .ok g) ∧
      (g.validate.value = .ok () → (fieldsOf entries).Nodup →
        Field.required ⊆ fieldsOf entries →
          (loadGroup (String.ofList (text ++ tail))).value = .ok (told g (fieldsOf entries))) ∧
      ((fieldsOf entries).Nodup → ¬ Field.required ⊆ fieldsOf entries →
        ∃ field ∈ Field.required, field ∉ fieldsOf entries ∧
          (loadGroup (String.ofList (text ++ tail))).value
            = .error (.unfit (.missingField field))) ∧
      (¬ (fieldsOf entries).Nodup →
        ∃ field, 2 ≤ (fieldsOf entries).count field ∧
          (loadGroup (String.ofList (text ++ tail))).value
            = .error (.unfit (.repeatedField field)))) ∧
    (∀ entries field text, (fieldsOf entries).Nodup → field ∈ fieldsOf entries →
      Spelling (.openObject ::
        (separated (entries.map (Entry.tokens g)) ++ [.comma, .text field.key])) text →
      ∀ rest, (loadGroup (String.ofList (text ++ rest))).value
        = .error (.unfit (.repeatedField field))) ∧
    (∀ text h, (loadGroup text).value = .ok h → ∀ c, isBlank c = false →
      ∀ more, (loadGroup (text ++ String.ofList (c :: more))).value
        = .error (.malformed .trailingCharacters)) := by
  refine ⟨fun entries text tail htext htail => ⟨fun hok hperm => ?_, fun hok hnodup hrequired => ?_,
    fun hnodup hmissing => ?_, fun hrepeated => ?_⟩, ?_, ?_⟩
  · have hvalid := Group.validate_value_eq_ok_iff.1 hok
    have hnodup : (fieldsOf entries).Nodup := hperm.nodup_iff.2 (by decide)
    have hall (field : Field) : field ∈ fieldsOf entries := hperm.mem_iff.2 field.mem_all
    have hload := loadGroup_layout_of_required hvalid hnodup (fun field _ => hall field) htext htail
    rwa [told_eq_self (hall .name) (hall .avatar)] at hload
  · have hvalid := Group.validate_value_eq_ok_iff.1 hok
    exact loadGroup_layout_of_required hvalid hnodup hrequired htext htail
  · exact loadGroup_layout_of_missing hnodup hmissing htext htail
  · exact loadGroup_layout_of_repeated hrepeated htext
  · intro entries field text hnodup hfield htext rest
    exact loadGroup_of_repeated hnodup hfield htext rest
  · intro text h hload c hc more
    exact loadGroup_append_of_ok hload hc more

/-- A group with a name and an avatar, so that both can be left out. -/
def bulletin : Group :=
  { Group.create (some "Tea \"&\" cake") ["ann", "bob"] (some ⟨[7, 255]⟩) .zero .publicChat with
    admins := ["bob"]
    removed := .ofList ["zoe"] }

/-- A numeral with a sign, a fraction and an exponent. -/
def fullNumeral : Numeral :=
  ⟨true, Digit.ofNat 1, Digit.ofNat 5, some ⟨false, .plus, Digit.ofNat 3⟩⟩

theorem wellFormed_fullNumeral : fullNumeral.WellFormed := by
  refine ⟨(Numeral.wellFormed_ofNat 1).whole, ?_⟩
  rintro e ⟨⟩
  obtain ⟨d, more, heq, _⟩ := ofNat_eq_cons 3
  rw [heq]
  exact List.cons_ne_nil d more

/-- A value three containers deep, with a bracket in a key of its own. -/
def clippingTokens : List Token :=
  objectTokens [("rows", listTokens id [[.number fullNumeral],
    objectTokens [("\x7d]", listTokens id [[.null]])]])]

theorem isValue_clippingTokens : IsValue clippingTokens := by
  have hlist : IsValue (listTokens id [[.null]]) := .list (List.forall_mem_singleton.2 .null)
  have hobject : IsValue (objectTokens [("\x7d]", listTokens id [[.null]])]) :=
    .object (List.forall_mem_singleton.2 hlist)
  have hrows := List.forall_mem_cons.2
    ⟨.number wellFormed_fullNumeral, List.forall_mem_singleton.2 hobject⟩
  exact .object (List.forall_mem_singleton.2 (.list hrows))

/-- A member whose key differs from a known one by a letter only. -/
def clipping : Entry :=
  .other "Name" clippingTokens (fun field => by cases field <;> decide) isValue_clippingTokens

/-- The required fields in another order, with other members among them. -/
def shuffled : List Entry :=
  [clipping, .field .removed, .field .kind, .field .admins, clipping, .field .id, .field .members]

/-- An object with a line break and an indent before each of its tokens. -/
def indented (entries : List Entry) : List Char :=
  (layout bulletin entries).flatMap fun token => ['\n', '\t'] ++ token.chars

theorem spelling_indented (entries : List Entry) :
    Spelling (layout bulletin entries) (indented entries) :=
  .spaced (by simp [isBlank_iff]) _

/-- The beginning of an object that has the same field twice, up to the second key. -/
def stutter : List Token :=
  .openObject :: (separated ([.field .name].map (Entry.tokens bulletin)) ++
    [.comma, .text Field.name.key])

theorem loadGroup_bulletin :
    (bulletin.validate.value = .ok () ∧
      (loadGroup (.ofList (indented (shuffled ++ [.field .avatar, .field .name]) ++ [' ']))).value
        = .ok bulletin) ∧
    (loadGroup (.ofList (indented (.field .avatar :: shuffled) ++ [' ']))).value
      = .ok { bulletin with name := none } ∧
    (loadGroup (.ofList (indented (shuffled.take 6) ++ [' ']))).value
      = .error (.unfit (.missingField .members)) ∧
    (loadGroup (.ofList (indented (shuffled ++ [.field .kind, clipping]) ++ [' ']))).value
      = .error (.unfit (.repeatedField .kind)) ∧
    (loadGroup (.ofList (stutter.flatMap Token.chars ++ ['!']))).value
      = .error (.unfit (.repeatedField .name)) ∧
    (loadGroup (.ofList (indented (.field .avatar :: shuffled) ++ [' ']) ++ .ofList ['\x7d'])).value
      = .error (.malformed .trailingCharacters) := by
  obtain ⟨hlayout, hrepeated, htrailing⟩ := loadGroup_layout_and_trailing bulletin
  have hvalid : bulletin.validate.value = .ok () := rfl
  have hblank : ∀ c ∈ [' '], isBlank c = true := by simp [isBlank_iff]
  have hread (entries : List Entry) := hlayout entries _ [' '] (spelling_indented entries) hblank
  have htold : told bulletin (fieldsOf (.field .avatar :: shuffled))
      = { bulletin with name := none } := rfl
  have hnameless := (hread (.field .avatar :: shuffled)).2.1 hvalid (by decide) (by decide)
  rw [htold] at hnameless
  have hfull := (hread (shuffled ++ [.field .avatar, .field .name])).1 hvalid (by decide)
  refine ⟨⟨hvalid, hfull⟩, hnameless, ?_, ?_, ?_, ?_⟩
  · obtain ⟨field, hrequired, hmissing, hload⟩ :=
      (hread (shuffled.take 6)).2.2.1 (by decide) (by decide)
    have hfield : field = .members := by
      revert hrequired hmissing
      cases field <;> decide
    rwa [hfield] at hload
  · obtain ⟨field, hcount, hload⟩ :=
      (hread (shuffled ++ [.field .kind, clipping])).2.2.2 (by decide)
    have hfield : field = .kind := by
      revert hcount
      cases field <;> decide
    rwa [hfield] at hload
  · exact hrepeated [.field .name] .name _ (by decide) (by decide) (.written stutter) ['!']
  · exact htrailing _ _ hnameless '\x7d' (by decide) []

end Roster.Json
