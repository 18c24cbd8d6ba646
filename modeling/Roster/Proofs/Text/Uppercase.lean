import Mathlib
import Roster.Text.Uppercase

/-!
# What is raised to ASCII

A character of ASCII has one capital, which is the character itself unless it is a small letter.
Beyond ASCII only the dotless i, the long s, the sharp s and seven ligatures are raised to letters
of ASCII. So a word in capitals is the capital form of its case variants and of no other text,
unless letters stand in it that are written as a ligature.
-/

namespace Roster.Text

namespace Uppercase

variable {c : Char} {code capital : Nat} {capitals : List Nat} {run : CaseRun}

/-- The letters beyond ASCII whose capital form is in ASCII. -/
def letters : List (Char × List Char) := [('ı', ['I']), ('ſ', ['S']), ('ß', ['S', 'S'])]

/-- The ligatures of letters in ASCII. -/
def ligatures : List (Char × List Char) :=
  [('ﬀ', ['F', 'F']), ('ﬁ', ['F', 'I']), ('ﬂ', ['F', 'L']), ('ﬃ', ['F', 'F', 'I']),
   ('ﬄ', ['F', 'F', 'L']), ('ﬅ', ['S', 'T']), ('ﬆ', ['S', 'T'])]

/-! ### Characters of ASCII -/

/-- A property of all characters of ASCII may be checked code by code. -/
theorem forall_ascii {p : Char → Prop} (hall : ∀ code < 128, p (Char.ofNat code))
    (hc : c.toNat < 128) : p c :=
  Char.ofNat_toNat c ▸ hall c.toNat hc

theorem toUpper_eq_or_toLower_toUpper_eq (c : Char) : c.toUpper = c ∨ c.toUpper.toLower = c := by
  by_cases hsmall : c.isLower
  · right
    rw [Char.toLower_toUpper_eq_toLower]
    exact Char.toLower_eq_of_not_isUpper (Char.not_isUpper_of_isLower hsmall)
  · exact .inl (Char.toUpper_eq_of_not_isLower hsmall)

theorem toNat_toLower_lt (hc : c.toNat < 128) : c.toLower.toNat < 128 :=
  forall_ascii (p := fun c => c.toLower.toNat < 128) (by decide +kernel) hc

/-- The small letters of ASCII. -/
def smallLetters : CaseRun := ⟨0x0061, 0x007A, 1, 0x0041⟩

/-- All runs but the first, and all expansions, lie beyond ASCII. -/
theorem ofCode_of_lt (hcode : code < 128) :
    ofCode code = [(smallLetters.raise? code).getD code] := by
  have hkeys : ∀ entry ∈ expansions, 128 ≤ entry.1 := by decide +kernel
  have hruns : ∀ run ∈ runs.tail, 128 ≤ run.first := by decide +kernel
  have hlookup : expansions.lookup code = none := by
    rw [List.lookup_eq_none_iff]
    intro entry hentry
    have hkey := hkeys entry hentry
    exact bne_iff_ne.2 (by omega)
  have htail : runs.tail.findSome? (·.raise? code) = none := by
    rw [List.findSome?_eq_none_iff]
    intro run hrun
    have hfirst := hruns run hrun
    rw [CaseRun.raise?, if_neg (by omega)]
  have hfind : runs.findSome? (·.raise? code) = smallLetters.raise? code := by
    change (smallLetters :: runs.tail).findSome? (·.raise? code) = _
    rw [List.findSome?_cons, htail]
    cases smallLetters.raise? code <;> rfl
  rw [ofCode, hlookup, hfind]
  cases smallLetters.raise? code <;> rfl

theorem uppercaseChar_of_lt (hc : c.toNat < 128) : uppercaseChar c = [c.toUpper] := by
  have hcapital : Char.ofNat ((smallLetters.raise? c.toNat).getD c.toNat) = c.toUpper :=
    forall_ascii (p := fun c => Char.ofNat ((smallLetters.raise? c.toNat).getD c.toNat) = c.toUpper)
      (by decide +kernel) hc
  rw [uppercaseChar, ofCode_of_lt hc, List.map_singleton, hcapital]

/-! ### Characters beyond ASCII -/

theorem mem_of_lookup (hlookup : expansions.lookup code = some capitals)
    (hascii : ∀ n ∈ capitals, (Char.ofNat n).toNat < 128) :
    (Char.ofNat code, capitals.map Char.ofNat) ∈ letters ++ ligatures := by
  have all : ∀ entry ∈ expansions, (∀ n ∈ entry.2, (Char.ofNat n).toNat < 128) →
      (Char.ofNat entry.1, entry.2.map Char.ofNat) ∈ letters ++ ligatures := by decide +kernel
  obtain ⟨front, back, hsplit, -⟩ := List.lookup_eq_some_iff.1 hlookup
  have hentry : (code, capitals) ∈ expansions := by
    rw [hsplit]
    exact List.mem_append_right front List.mem_cons_self
  exact all _ hentry hascii

/-- The capitals of a run do not stand before the first of them, so it is enough to look at the
runs whose first capital is in ASCII. -/
theorem lt_or_mem_of_raise (hrun : run ∈ runs) (hraise : run.raise? code = some capital)
    (hascii : (Char.ofNat capital).toNat < 128) :
    code < 128 ∨ (Char.ofNat code, [Char.ofNat capital]) ∈ letters ++ ligatures := by
  have hvalid : ∀ run ∈ runs, run.image + (run.last - run.first) < 0xD800 ∨
      0xDFFF < run.image ∧ run.image + (run.last - run.first) < 0x110000 := by decide +kernel
  have hlow : ∀ run ∈ runs, run.image < 128 → run.last < 128 ∨ run.first = run.last ∧
      (Char.ofNat run.first, [Char.ofNat run.image]) ∈ letters ++ ligatures := by decide +kernel
  replace hvalid := hvalid run hrun
  rw [CaseRun.raise?] at hraise
  split at hraise
  · cases hraise
    have hcapital : (run.image + (code - run.first)).isValidChar := by
      change _ < 0xD800 ∨ 0xDFFF < _ ∧ _ < 0x110000
      omega
    rw [Char.toNat_ofNat, if_pos hcapital] at hascii
    rcases hlow run hrun (by omega) with hlast | ⟨hone, hmem⟩
    · left
      omega
    · have hcode : code = run.first := by omega
      rw [hcode, Nat.sub_self]
      exact .inr hmem
  · cases hraise

/-- A character that is raised to ASCII is in ASCII, or it is in the two lists. -/
theorem lt_or_mem_of_uppercaseChar (hascii : ∀ d ∈ uppercaseChar c, d.toNat < 128) :
    c.toNat < 128 ∨ (c, uppercaseChar c) ∈ letters ++ ligatures := by
  rw [uppercaseChar, List.forall_mem_map, ofCode] at hascii
  rw [uppercaseChar, ofCode]
  cases hlookup : expansions.lookup c.toNat with
  | some capitals =>
    rw [hlookup] at hascii
    have hmem := mem_of_lookup hlookup hascii
    rw [Char.ofNat_toNat] at hmem
    exact .inr hmem
  | none =>
    rw [hlookup] at hascii
    cases hfind : runs.findSome? (·.raise? c.toNat) with
    | some capital =>
      rw [hfind] at hascii
      obtain ⟨run, hrun, hraise⟩ := List.exists_of_findSome?_eq_some hfind
      have hmem := lt_or_mem_of_raise hrun hraise (hascii capital List.mem_cons_self)
      rwa [Char.ofNat_toNat] at hmem
    | none =>
      -- the character is its own capital
      rw [hfind] at hascii
      have hself := hascii c.toNat List.mem_cons_self
      rw [Char.ofNat_toNat] at hself
      exact .inl hself

end Uppercase

/-! ### Words in capitals -/

open Uppercase

/-- Whether a text is a word with some letters in another form: each letter is kept or in lower
case, an S may be long, an I may be dotless, and two S may be one sharp s. -/
inductive CaseVariant : (word text : List Char) → Prop
  | nil : CaseVariant [] []
  | keep {word text : List Char} (c : Char) (hrest : CaseVariant word text) :
      CaseVariant (c :: word) (c :: text)
  | lower {word text : List Char} (c : Char) (hrest : CaseVariant word text) :
      CaseVariant (c :: word) (c.toLower :: text)
  | longS {word text : List Char} (hrest : CaseVariant word text) :
      CaseVariant ('S' :: word) ('ſ' :: text)
  | dotlessI {word text : List Char} (hrest : CaseVariant word text) :
      CaseVariant ('I' :: word) ('ı' :: text)
  | sharpS {word text : List Char} (hrest : CaseVariant word text) :
      CaseVariant ('S' :: 'S' :: word) ('ß' :: text)

/-- Whether a word is in ASCII, without small letters and without letters that have a ligature. -/
structure Capitals (word : List Char) : Prop where
  ascii : ∀ c ∈ word, c.toNat < 128
  raised : ∀ c ∈ word, c.toUpper = c
  unligated : ∀ entry ∈ ligatures, ¬ entry.2 <:+: word

variable {c : Char} {word text : List Char}

theorem Capitals.behind (front : List Char) (hword : Capitals (front ++ word)) : Capitals word where
  ascii c hc := hword.ascii c (List.mem_append_right front hc)
  raised c hc := hword.raised c (List.mem_append_right front hc)
  unligated entry hentry hpart :=
    hword.unligated entry hentry (hpart.trans (List.suffix_append front word).isInfix)

theorem uppercase_cons : uppercase (c :: text) = uppercaseChar c ++ uppercase text := rfl

theorem CaseVariant.uppercase_eq (hvariant : CaseVariant word text) (hword : Capitals word) :
    uppercase text = word := by
  induction hvariant with
  | nil => rfl
  | keep c hrest ih =>
    have hc := hword.ascii c List.mem_cons_self
    rw [uppercase_cons, uppercaseChar_of_lt hc, hword.raised c List.mem_cons_self,
      ih (hword.behind [c]), List.singleton_append]
  | lower c hrest ih =>
    have hc := hword.ascii c List.mem_cons_self
    rw [uppercase_cons, uppercaseChar_of_lt (toNat_toLower_lt hc), Char.toUpper_toLower_eq_toUpper,
      hword.raised c List.mem_cons_self, ih (hword.behind [c]), List.singleton_append]
  | longS hrest ih =>
    have hcapital : uppercaseChar 'ſ' = ['S'] := by decide +kernel
    rw [uppercase_cons, hcapital, ih (hword.behind ['S']), List.singleton_append]
  | dotlessI hrest ih =>
    have hcapital : uppercaseChar 'ı' = ['I'] := by decide +kernel
    rw [uppercase_cons, hcapital, ih (hword.behind ['I']), List.singleton_append]
  | sharpS hrest ih =>
    have hcapital : uppercaseChar 'ß' = ['S', 'S'] := by decide +kernel
    rw [uppercase_cons, hcapital, ih (hword.behind ['S', 'S'])]
    rfl

/-- What is raised to a word in capitals is taken apart from the left: each character makes up a
part of the word, and no part is a ligature's. -/
theorem caseVariant_uppercase (hword : Capitals (uppercase text)) :
    CaseVariant (uppercase text) text := by
  induction text with
  | nil => exact .nil
  | cons c text ih =>
    rw [uppercase_cons] at hword ⊢
    have hrest : CaseVariant (uppercase text) text := ih (hword.behind _)
    have hascii : ∀ d ∈ uppercaseChar c, d.toNat < 128 := fun d hd =>
      hword.ascii d (List.mem_append_left _ hd)
    rcases lt_or_mem_of_uppercaseChar hascii with hc | hentry
    · rw [uppercaseChar_of_lt hc, List.singleton_append]
      rcases toUpper_eq_or_toLower_toUpper_eq c with hkept | hlower
      · rw [hkept]
        exact .keep c hrest
      · have hvariant := CaseVariant.lower c.toUpper hrest
        rwa [hlower] at hvariant
    · rcases List.mem_append.1 hentry with hletter | hligature
      · simp only [letters, List.mem_cons, Prod.mk.injEq, List.not_mem_nil, or_false] at hletter
        rcases hletter with ⟨rfl, hcapitals⟩ | ⟨rfl, hcapitals⟩ | ⟨rfl, hcapitals⟩
        · rw [hcapitals]
          exact .dotlessI hrest
        · rw [hcapitals]
          exact .longS hrest
        · rw [hcapitals]
          exact .sharpS hrest
      · exact absurd (List.prefix_append _ _).isInfix (hword.unligated _ hligature)

/-- A word in capitals is the capital form of its case variants and of no other text. -/
theorem uppercase_eq_iff (hword : Capitals word) :
    uppercase text = word ↔ CaseVariant word text := by
  constructor
  · rintro rfl
    exact caseVariant_uppercase hword
  · exact fun hvariant => hvariant.uppercase_eq hword

end Roster.Text
