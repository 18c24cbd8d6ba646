import Roster.Json.Scalar

/-!
# Lists and objects in JSON

Lists and objects differ in their brackets and in what stands between two commas, and share the
rest: another part follows unless the closing bracket stands ahead, from the second part on it
stands behind a comma, and a comma right before the closing bracket is refused.
-/

namespace Roster.Json

open Reader

/-- What brackets enclose. -/
inductive Container where
  | list
  | object
deriving DecidableEq

namespace Container

/-- The container that a character opens. -/
def ofOpening? (c : Char) : Option Container :=
  if c = '[' then some list else if c = '{' then some object else none

def closing : Container → Char
  | list => ']'
  | object => '}'

/-- Where the text has ended if it ends between two parts. -/
def place : Container → Place
  | list => .list
  | object => .object

/-- What is wrong if two parts are not separated. -/
def unseparated : Container → Flaw
  | list => .expectedListSeparator
  | object => .expectedObjectSeparator

/-- Whether another part follows. The closing bracket or the comma before the part is taken away. -/
def another (container : Container) (first : Bool) : Reader Bool := do
  let c ← ahead container.place
  if c = container.closing then
    advance
    return false
  else if first then return true
  else if c = ',' then
    advance
    if (← ahead .value) = container.closing then fail (.malformed .trailingComma) else return true
  else fail (.malformed container.unseparated)

/-- A comma before a part that is not the first is gone from the rest. -/
theorem length_lt_of_another {container : Container} {input rest : List Char} {more : Bool}
    (h : (container.another false).run input = .ok (more, rest)) : rest.length < input.length := by
  simp only [another, run_bind, Bool.false_eq_true, if_false] at h
  split at h
  · rename_i c behind start
    obtain ⟨tail, rfl, le⟩ := ahead_eq_ok start
    refine Nat.lt_of_lt_of_le (Nat.lt_succ_of_le ?_) le
    split at h
    · cases h
      exact Nat.le_refl _
    · split at h
      · simp only [run_bind, run_advance, List.tail_cons] at h
        split at h
        · rename_i d behind follow
          split at h
          · cases h
          · cases h
            exact (ahead .value).rest_le follow
        · cases h
      · cases h
  · cases h

/-- With every part that is announced, the text shrinks or the first part is past. -/
theorem measure_another {container : Container} {first more : Bool} {input rest : List Char}
    (h : (container.another first).run input = .ok (more, rest)) :
    2 * rest.length < 2 * input.length + first.toNat := by
  cases first with
  | true => exact Nat.lt_succ_of_le (Nat.mul_le_mul_left 2 ((container.another true).rest_le h))
  | false => exact Nat.mul_lt_mul_of_pos_left (length_lt_of_another h) Nat.two_pos

variable {σ : Type}

/-- Reads parts one by one, each of which changes a state. -/
def partsFrom (container : Container) (part : σ → Reader σ) (state : σ) (first : Bool)
    (input : List Char) : Except Fault (σ × List Char) :=
  match announced : (container.another first).run input with
  | .error fault => .error fault
  | .ok (false, rest) => .ok (state, rest)
  | .ok (true, rest) =>
    have := measure_another announced
    match taken : (part state).run rest with
    | .error fault => .error fault
    | .ok (state, behind) =>
      have := (part _).rest_le taken
      partsFrom container part state false behind
termination_by 2 * input.length + first.toNat
decreasing_by
  rw [Bool.toNat_false]
  omega

theorem length_of_partsFrom {container : Container} {part : σ → Reader σ} {state final : σ}
    {first : Bool} {input rest : List Char}
    (h : partsFrom container part state first input = .ok (final, rest)) :
    rest.length ≤ input.length := by
  fun_induction partsFrom container part state first input with
  | case1 => cases h
  | case2 _ first input _ announced =>
    cases h
    exact (container.another first).rest_le announced
  | case3 => cases h
  | case4 state first input rest announced _ _ _ _ le ih =>
    exact Nat.le_trans (ih h) (Nat.le_trans le ((container.another first).rest_le announced))

/-- The parts of a container behind its opening bracket. -/
def parts (container : Container) (part : σ → Reader σ) (state : σ) : Reader σ :=
  ⟨partsFrom container part state true, length_of_partsFrom⟩

end Container

variable {α : Type}

/-- Items behind the opening bracket of their list. -/
def items (item : Reader α) : Reader (List α) := do
  return (← Container.list.parts (fun done => (· :: done) <$> item) []).reverse

def list (item : Reader α) : Reader (List α) := do
  let first ← opening
  if first = '[' then items item else refuse .list first

/-- The item at a fixed index of a list that must not end before it. -/
def element (item : Reader α) (wanted : Wanted) (index : Nat) : Reader α := do
  if ← Container.list.another (index = 0) then item else fail (.unfit (.length index wanted))

/-- The end of a list that is complete. -/
def endOfList : Reader Unit := do
  let c ← ahead .list
  if c = ']' then advance
  else if c = ',' then
    advance
    blanks
    if (← peek) = some ']' then fail (.malformed .trailingComma)
    else fail (.malformed .trailingCharacters)
  else fail (.malformed .trailingCharacters)

/-- The quote that begins a key. -/
def keyOpening : Reader Unit := do
  let c ← ahead .object
  if c = '"' then advance else fail (.malformed .keyNotText)

def key : Reader String := do
  keyOpening
  Text.content

def colon : Reader Unit := do
  let c ← ahead .object
  if c = ':' then advance else fail (.malformed .expectedColon)

end Roster.Json
