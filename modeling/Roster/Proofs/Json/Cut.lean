import Mathlib.Data.List.TakeWhile
import Roster.Proofs.Json.Spelling

/-!
# Texts that break off

A cut of a text is a proper beginning of it, which may be empty. A reader that would take a whole
spelling and is given a cut of it comes to the end of the text: it lacks something and says so, or
it takes all that is there for a value that is not the one that was meant, as it may with a numeral
whose last digits are missing. Such early values do no harm if what comes next lacks something at
the end of the text, and this is what is passed along when readers are put in sequence.
-/

namespace Roster.Json

open Reader

/-! ### Cuts -/

/-- Whether the second text is a proper beginning of the first. -/
def Cut (text cut : List Char) : Prop := ∃ more, more ≠ [] ∧ text = cut ++ more

namespace Cut

variable {text cut front back gap rest : List Char} {c : Char}

theorem not_nil : ¬ Cut [] cut := by
  rintro ⟨more, hmore, heq⟩
  exact hmore (List.append_eq_nil_iff.1 heq.symm).2

/-- A cut is a cut of the front, or it leaves the front whole. -/
theorem append_cases (h : Cut (front ++ back) cut) :
    Cut front cut ∨ ∃ behind, cut = front ++ behind ∧ Cut back behind := by
  obtain ⟨more, hmore, heq⟩ := h
  rcases List.append_eq_append_iff.1 heq with ⟨behind, hcut, hback⟩ | ⟨missing, hfront, hrest⟩
  · exact .inr ⟨behind, hcut, more, hmore, hback⟩
  · cases missing with
    | nil =>
      rw [List.append_nil] at hfront
      exact .inr ⟨[], by rw [hfront, List.append_nil], more, hmore, hrest.symm⟩
    | cons c missing => exact .inl ⟨c :: missing, List.cons_ne_nil c missing, hfront⟩

theorem cons_cases (h : Cut (c :: text) cut) :
    cut = [] ∨ ∃ behind, cut = c :: behind ∧ Cut text behind := by
  obtain ⟨more, hmore, heq⟩ := h
  cases cut with
  | nil => exact .inl rfl
  | cons d behind =>
    obtain ⟨rfl, htext⟩ := List.cons.inj heq
    exact .inr ⟨behind, rfl, more, hmore, htext⟩

theorem cons (h : Cut text cut) : Cut (c :: text) (c :: cut) := by
  obtain ⟨more, hmore, rfl⟩ := h
  exact ⟨more, hmore, rfl⟩

theorem singleton (h : Cut [c] cut) : cut = [] := by
  rcases h.cons_cases with hnil | ⟨behind, -, hbehind⟩
  · exact hnil
  · exact absurd hbehind not_nil

theorem mem (h : Cut text cut) (hc : c ∈ cut) : c ∈ text := by
  obtain ⟨more, -, rfl⟩ := h
  exact List.mem_append_left more hc

theorem length_lt (h : Cut text cut) : cut.length < text.length := by
  obtain ⟨more, hmore, rfl⟩ := h
  rw [List.length_append]
  exact Nat.lt_add_of_pos_right (List.length_pos_iff.2 hmore)

/-- A cut ends among the blanks before a character, or behind the character. -/
theorem gap_cases (hgap : ∀ d ∈ gap, isBlank d = true) (h : Cut (gap ++ c :: rest) cut) :
    (∀ d ∈ cut, isBlank d = true) ∨ ∃ behind, cut = gap ++ c :: behind ∧ Cut rest behind := by
  rcases h.append_cases with hfront | ⟨behind, rfl, hbehind⟩
  · exact .inl fun d hd => hgap d (hfront.mem hd)
  · rcases hbehind.cons_cases with rfl | ⟨behind, rfl, hrest⟩
    · rw [List.append_nil]
      exact .inl hgap
    · exact .inr ⟨behind, rfl, hrest⟩

theorem apart (h : Cut text cut) (htext : Apart text) : Apart cut := by
  obtain ⟨more, -, rfl⟩ := h
  cases cut with
  | nil => exact nofun
  | cons c cut => exact htext

end Cut

/-! ### Readers at the end of a text -/

variable {α β : Type}

/-- Whether reading came to the end of the text: it lacked something, or it took all of the text for
a value that may come early. -/
inductive Exhausted (early : α → Prop) : Except Fault (α × List Char) → Prop
  | lacking (place : Place) : Exhausted early (.error (.ended place))
  | early {a : α} (ha : early a) : Exhausted early (.ok (a, []))

/-- The reader comes to the end of the text wherever a spelling of the tokens is cut. -/
def RunsOut (reader : Reader α) (tokens : List Token) (early : α → Prop) : Prop :=
  ∀ text cut, Spelling tokens text → Cut text cut → Exhausted early (reader.run cut)

/-- The reader lacks something wherever a spelling of the tokens is cut. -/
abbrev Starves (reader : Reader α) (tokens : List Token) : Prop :=
  RunsOut reader tokens fun _ => False

variable {reader first : Reader α} {next : α → Reader β} {front back tokens : List Token}
  {early : α → Prop} {early' : β → Prop} {a : α}

theorem Exhausted.bind {input : List Char} (hfirst : Exhausted early (first.run input))
    (hnext : ∀ a, early a → Exhausted early' ((next a).run [])) :
    Exhausted early' ((first >>= next).run input) := by
  rw [run_bind]
  generalize first.run input = result at hfirst
  cases hfirst with
  | lacking place => exact .lacking place
  | early ha => exact hnext _ ha

namespace RunsOut

theorem nil : RunsOut reader [] early := by
  intro text cut htext hcut
  cases htext
  exact absurd hcut Cut.not_nil

/-- A cut falls on what the first reader reads, or the first reader reads all that it should. -/
theorem bind (hfirst : RunsOut first front early) (hreads : Reads first front a)
    (hempty : ∀ a, early a → Exhausted early' ((next a).run []))
    (hnext : RunsOut (next a) back early') (hdetached : Detached back) :
    RunsOut (first >>= next) (front ++ back) early' := by
  intro text cut htext hcut
  obtain ⟨text₁, text₂, rfl, hfront, hback⟩ := htext.append_split
  rcases hcut.append_cases with hcut | ⟨behind, rfl, hbehind⟩
  · exact (hfirst text₁ cut hfront hcut).bind hempty
  · have hapart : Apart text₂ := by
      have h : Apart (text₂ ++ []) := hdetached.apart hback nofun
      rwa [List.append_nil] at h
    rw [run_bind, hreads text₁ behind hfront (hbehind.apart hapart)]
    exact hnext text₂ behind hback hbehind

/-- The end of a sequence takes no more tokens. -/
theorem bind_nil (hfirst : RunsOut first tokens early)
    (hempty : ∀ a, early a → Exhausted early' ((next a).run [])) :
    RunsOut (first >>= next) tokens early' :=
  fun text cut htext hcut => (hfirst text cut htext hcut).bind hempty

theorem map (hreader : RunsOut reader tokens early) {f : α → β}
    (hf : ∀ a, early a → early' (f a)) : RunsOut (f <$> reader) tokens early' := by
  rw [map_eq_pure_bind]
  exact hreader.bind_nil fun a ha => .early (hf a ha)

end RunsOut

namespace Starves

theorem bind (hfirst : Starves first front) (hreads : Reads first front a)
    (hnext : RunsOut (next a) back early') (hdetached : Detached back) :
    RunsOut (first >>= next) (front ++ back) early' :=
  RunsOut.bind hfirst hreads nofun hnext hdetached

/-- Whatever would have come next does not come about. -/
theorem bind_nil (hfirst : Starves first tokens) : RunsOut (first >>= next) tokens early' :=
  RunsOut.bind_nil hfirst nofun

theorem map (hreader : Starves reader tokens) (f : α → β) : Starves (f <$> reader) tokens :=
  RunsOut.map hreader nofun

end Starves

/-! ### The first character of a row -/

theorem run_ahead_blank (place : Place) {cut : List Char} (hblank : ∀ d ∈ cut, isBlank d = true) :
    (ahead place).run cut = .error (.ended place) := by
  rw [run_ahead, List.dropWhile_eq_nil_iff.2 hblank]

theorem run_opening_blank {cut : List Char} (hblank : ∀ d ∈ cut, isBlank d = true) :
    opening.run cut = .error (.ended .value) := by
  rw [run_opening, List.dropWhile_eq_nil_iff.2 hblank]

/-- A reader that looks for a character ahead does not find it in a cut of its token. -/
theorem RunsOut.mark {place : Place} {next : Char → Reader α} {token : Token} {c : Char}
    (hchars : token.chars = [c]) : RunsOut (ahead place >>= next) [token] early := by
  intro text cut htext hcut
  obtain ⟨gap, rfl, hgap⟩ := htext.singleton_split
  rw [hchars] at hcut
  rcases hcut.gap_cases hgap with hblank | ⟨behind, -, hbehind⟩
  · rw [run_bind, run_ahead_blank place hblank]
    exact .lacking place
  · exact absurd hbehind Cut.not_nil

/-- A reader that takes the first character of a value away and goes on by it. -/
theorem RunsOut.opening {next : Char → Reader α} {token : Token} {c : Char} {chars : List Char}
    (hchars : token.chars = c :: chars) (hc : isBlank c = false)
    (hnext : ∀ text cut, Spelling tokens text → Cut (chars ++ text) cut →
      Exhausted early ((next c).run cut)) :
    RunsOut (Reader.opening >>= next) (token :: tokens) early := by
  intro text cut htext hcut
  obtain ⟨gap, behind, rfl, hgap, hbehind⟩ := htext.cons_split
  rw [hchars, List.cons_append] at hcut
  rcases hcut.gap_cases hgap with hblank | ⟨cut, rfl, hrest⟩
  · rw [run_bind, run_opening_blank hblank]
    exact .lacking .value
  · rw [run_bind, run_opening_gap hgap hc]
    exact hnext behind cut hbehind hrest

/-- The same for a token of one character. -/
theorem RunsOut.opening_mark {next : Char → Reader α} {token : Token} {c : Char}
    (hchars : token.chars = [c]) (hc : isBlank c = false) (hnext : RunsOut (next c) tokens early) :
    RunsOut (Reader.opening >>= next) (token :: tokens) early :=
  RunsOut.opening hchars hc hnext

end Roster.Json
