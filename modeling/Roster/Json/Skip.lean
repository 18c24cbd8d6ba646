import Roster.Json.Container

/-!
# Passing over JSON values

A value under a key that is not known is passed over. Whatever its depth, this is one walk along the
text with the containers that are still open on a stack. The walk checks less than a reader does:
numbers may be of any size, surrogates need not pair, and where something is missing it names what
may stand there rather than the trailing comma before it.
-/

namespace Roster.Json.Skip

open Reader

/-- What the walk looks for next: a value, or whether the innermost container goes on. -/
inductive Due where
  | value
  | part (first : Bool)

/-- Counts the kinds of steps that can be made in a row without reading. -/
def Due.rank : Due → Nat
  | part false => 0
  | value => 1
  | part true => 2

/-- Passes over a value that is no container, behind its first character. -/
def scalar (first : Char) : Reader Unit :=
  match first with
  | 'n' => word ['u', 'l', 'l']
  | 't' => word ['r', 'u', 'e']
  | 'f' => word ['a', 'l', 's', 'e']
  | '"' => Text.skipContent
  | _ =>
    if Numeral.isFirst first then
      discard (Numeral.behind (.malformed .invalidNumber) first)
    else fail (.malformed .expectedValue)

/-- Passes over what stands before the value of a part: in an object, its key. -/
def lead : Container → Reader Unit
  | .list => return
  | .object => do
    keyOpening
    Text.skipContent
    colon

/-- Begins a value: a container is opened, anything else is passed over. -/
def beginValue (stack : List Container) : Reader (Due × List Container) := do
  let first ← opening
  match Container.ofOpening? first with
  | some container => return (.part true, container :: stack)
  | none =>
    scalar first
    return (.part false, stack)

/-- Goes on with the innermost container: it is closed, or another part of it begins. -/
def goOn (first : Bool) (container : Container) (outer : List Container) :
    Reader (Due × List Container) := do
  let c ← ahead container.place
  if c = container.closing then
    advance
    return (.part false, outer)
  else if first then
    lead container
    return (.value, container :: outer)
  else if c = ',' then
    advance
    lead container
    return (.value, container :: outer)
  else fail (.malformed container.unseparated)

theorem measure_beginValue {stack after : List Container} {due : Due} {input rest : List Char}
    (h : (beginValue stack).run input = .ok ((due, after), rest)) :
    2 * rest.length + due.rank < 2 * input.length + 1 := by
  simp only [beginValue, run_bind] at h
  split at h
  · rename_i c behind start
    have lt := length_lt_of_opening start
    split at h
    · cases h
      simp only [Due.rank]
      omega
    · simp only [run_bind] at h
      split at h
      · rename_i passed
        have le := (scalar _).rest_le passed
        cases h
        simp only [Due.rank]
        omega
      · cases h
  · cases h

theorem measure_goOn {first : Bool} {container : Container} {outer after : List Container}
    {due : Due} {input rest : List Char}
    (h : (goOn first container outer).run input = .ok ((due, after), rest)) :
    2 * rest.length + due.rank < 2 * input.length + (Due.part first).rank := by
  simp only [goOn, run_bind] at h
  split at h
  · rename_i c behind start
    obtain ⟨tail, rfl, le⟩ := ahead_eq_ok start
    rw [List.length_cons] at le
    split at h
    · simp only [run_bind, run_advance, List.tail_cons, run_pure] at h
      cases h
      simp only [Due.rank]
      omega
    · split at h
      · rename_i isFirst
        simp only [run_bind] at h
        split at h
        · rename_i led
          have := (lead _).rest_le led
          rw [List.length_cons] at this
          cases h
          simp only [isFirst, Due.rank]
          omega
        · cases h
      · split at h
        · simp only [run_bind, run_advance, List.tail_cons] at h
          split at h
          · rename_i led
            have := (lead _).rest_le led
            cases h
            simp only [Due.rank]
            omega
          · cases h
        · cases h
  · cases h

/-- The walk up to the end of the outermost value. -/
def walk (due : Due) (stack : List Container) (input : List Char) :
    Except Fault (Unit × List Char) :=
  match due, stack with
  | .value, stack =>
    match begun : (beginValue stack).run input with
    | .error fault => .error fault
    | .ok ((due, stack), rest) =>
      have := measure_beginValue begun
      walk due stack rest
  | .part _, [] => .ok ((), input)
  | .part first, container :: outer =>
    match gone : (goOn first container outer).run input with
    | .error fault => .error fault
    | .ok ((due, stack), rest) =>
      have := measure_goOn gone
      walk due stack rest
termination_by 2 * input.length + due.rank

theorem length_of_walk {due : Due} {stack : List Container} {input rest : List Char}
    (h : walk due stack input = .ok ((), rest)) : rest.length ≤ input.length := by
  fun_induction walk due stack input with
  | case1 => cases h
  | case2 _ stack _ _ _ begun _ ih =>
    exact Nat.le_trans (ih h) ((beginValue stack).rest_le begun)
  | case3 =>
    cases h
    exact Nat.le_refl _
  | case4 => cases h
  | case5 _ first container outer _ _ _ gone _ ih =>
    exact Nat.le_trans (ih h) ((goOn first container outer).rest_le gone)

/-- Passes over a value. -/
def value : Reader Unit := ⟨walk .value [], length_of_walk⟩

end Roster.Json.Skip
