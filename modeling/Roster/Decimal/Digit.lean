/-!
# Decimal digits

Natural numbers are spelt by their decimal digits, the highest first, and a text is cut behind the
digits at its front.
-/

namespace Roster.Decimal

abbrev Digit := Fin 10

/-- The number of values that 64 bits can hold. -/
def wordCount : Nat := 0x10000000000000000

namespace Digit

/-- A digit as it is written. -/
def char (d : Digit) : Char := Char.ofNat (48 + d.val)

/-- The digit that a character is. -/
def ofChar? (c : Char) : Option Digit :=
  if h : 48 ≤ c.toNat ∧ c.toNat ≤ 57 then some ⟨c.toNat - 48, by omega⟩ else none

/-- The number that digits spell. -/
def value (digits : List Digit) : Nat := digits.foldl (fun n d => 10 * n + d.val) 0

/-- The digits of a number. -/
def ofNat (n : Nat) : List Digit :=
  if h : n < 10 then [⟨n, h⟩] else ofNat (n / 10) ++ [⟨n % 10, Nat.mod_lt n (by decide)⟩]

/-- The digits at the front of a text, and what follows them. -/
def span : List Char → List Digit × List Char
  | [] => ([], [])
  | c :: rest =>
    match ofChar? c with
    | some d => (d :: (span rest).1, (span rest).2)
    | none => ([], c :: rest)

@[simp] theorem ofChar?_char (d : Digit) : ofChar? d.char = some d := by
  revert d
  decide

theorem value_append (digits : List Digit) (d : Digit) :
    value (digits ++ [d]) = 10 * value digits + d.val := by
  simp [value]

theorem value_ofNat (n : Nat) : value (ofNat n) = n := by
  fun_induction ofNat n with
  | case1 n h => simp [value]
  | case2 n h ih =>
    rw [value_append, ih]
    exact Nat.div_add_mod n 10

theorem length_span_le (text : List Char) : (span text).2.length ≤ text.length := by
  induction text with
  | nil => exact Nat.le_refl _
  | cons c rest ih =>
    simp only [span]
    split
    · exact Nat.le_succ_of_le ih
    · exact Nat.le_refl _

end Digit

end Roster.Decimal
