import Roster.Json.Fault

/-!
# JSON readers

A reader takes a value from the front of a text and leaves the rest, which is never longer than the
text was. Readers are put together as a monad that stops at the first fault. The readers here take
single characters and blanks.
-/

namespace Roster.Json

/-- Takes a value from the front of a text. -/
structure Reader (α : Type) where
  run : List Char → Except Fault (α × List Char)
  rest_le : ∀ {input a rest}, run input = .ok (a, rest) → rest.length ≤ input.length

namespace Reader

variable {α β : Type}

instance : Monad Reader where
  pure a := ⟨fun input => .ok (a, input), fun h => by cases h; exact Nat.le_refl _⟩
  bind first next :=
    { run := fun input =>
        match first.run input with
        | .ok (a, rest) => (next a).run rest
        | .error fault => .error fault
      rest_le := fun {input _ _} h => by
        cases h₁ : first.run input with
        | error fault =>
          rw [h₁] at h
          cases h
        | ok taken =>
          rw [h₁] at h
          exact Nat.le_trans ((next taken.1).rest_le h) (first.rest_le h₁) }

/-- Stops with a fault. -/
def fail (fault : Fault) : Reader α := ⟨fun _ => .error fault, fun h => by cases h⟩

@[simp] theorem run_pure (a : α) (input : List Char) :
    (pure a : Reader α).run input = .ok (a, input) := rfl

@[simp] theorem run_bind (first : Reader α) (next : α → Reader β) (input : List Char) :
    (first >>= next).run input =
      match first.run input with
      | .ok (a, rest) => (next a).run rest
      | .error fault => .error fault := rfl

@[simp] theorem run_map (f : α → β) (reader : Reader α) (input : List Char) :
    (f <$> reader).run input =
      match reader.run input with
      | .ok (a, rest) => .ok (f a, rest)
      | .error fault => .error fault := rfl

@[simp] theorem run_fail (fault : Fault) (input : List Char) :
    (fail fault : Reader α).run input = .error fault := rfl

@[ext] theorem ext {left right : Reader α} (run : ∀ input, left.run input = right.run input) :
    left = right := by
  obtain ⟨run₁, _⟩ := left
  obtain ⟨run₂, _⟩ := right
  have : run₁ = run₂ := funext run
  subst this
  rfl

instance : LawfulMonad Reader :=
  LawfulMonad.mk' Reader
    (fun reader => by
      ext1 input
      rw [run_map]
      cases reader.run input <;> rfl)
    (fun _ _ => rfl)
    (fun first _ _ => by
      ext1 input
      simp only [run_bind]
      cases first.run input <;> rfl)

/-- The next character, which stays where it is. -/
def peek : Reader (Option Char) :=
  ⟨fun input => .ok (input.head?, input), fun h => by cases h; exact Nat.le_refl _⟩

/-- Takes the next character away. -/
def advance : Reader Unit :=
  ⟨fun input => .ok ((), input.tail), fun h => by cases h; exact List.length_tail ▸ Nat.sub_le ..⟩

/-- The next character, which is taken away. -/
def next : Reader (Option Char) := do
  let c ← peek
  advance
  return c

/-- Whether the character may stand between any two parts of a text. -/
def isBlank (c : Char) : Bool := c = ' ' || c = '\n' || c = '\t' || c = '\r'

def blanks : Reader Unit :=
  { run := fun input => .ok ((), input.dropWhile isBlank)
    rest_le := fun h => by
      cases h
      exact (List.dropWhile_sublist _).length_le }

/-- The next character behind blanks, which stays where it is. The text must not end here. -/
def ahead (place : Place) : Reader Char := do
  blanks
  match ← peek with
  | some c => return c
  | none => fail (.ended place)

/-- The first character of a value, which is taken away. -/
def opening : Reader Char := do
  let c ← ahead .value
  advance
  return c

/-- The rest of a word. -/
def word : List Char → Reader Unit
  | [] => return
  | c :: rest => do
    match ← next with
    | none => fail (.ended .value)
    | some d => if d = c then word rest else fail (.malformed .misspeltWord)

@[simp] theorem run_peek (input : List Char) : peek.run input = .ok (input.head?, input) := rfl

@[simp] theorem run_advance (input : List Char) : advance.run input = .ok ((), input.tail) := rfl

@[simp] theorem run_next (input : List Char) : next.run input = .ok (input.head?, input.tail) := rfl

@[simp] theorem run_blanks (input : List Char) :
    blanks.run input = .ok ((), input.dropWhile isBlank) := rfl

theorem run_ahead (place : Place) (input : List Char) :
    (ahead place).run input =
      match input.dropWhile isBlank with
      | [] => .error (.ended place)
      | c :: rest => .ok (c, c :: rest) := by
  simp only [ahead, run_bind, run_blanks, run_peek]
  cases input.dropWhile isBlank <;> rfl

theorem run_opening (input : List Char) :
    opening.run input =
      match input.dropWhile isBlank with
      | [] => .error (.ended .value)
      | c :: rest => .ok (c, rest) := by
  simp only [opening, run_bind, run_ahead, run_advance]
  cases input.dropWhile isBlank <;> rfl

/-- What stands ahead was not taken away. -/
theorem ahead_eq_ok {place : Place} {input rest : List Char} {c : Char}
    (h : (ahead place).run input = .ok (c, rest)) :
    ∃ tail, rest = c :: tail ∧ rest.length ≤ input.length := by
  have le := (ahead place).rest_le h
  rw [run_ahead] at h
  split at h
  · cases h
  · cases h
    exact ⟨_, rfl, le⟩

/-- The first character of a value is gone from the rest. -/
theorem length_lt_of_opening {input rest : List Char} {c : Char}
    (h : opening.run input = .ok (c, rest)) : rest.length < input.length := by
  have le : (input.dropWhile isBlank).length ≤ input.length :=
    (List.dropWhile_sublist _).length_le
  rw [run_opening] at h
  split at h
  · cases h
  · rename_i first tail blank
    cases h
    rw [blank] at le
    exact le

end Reader

end Roster.Json
