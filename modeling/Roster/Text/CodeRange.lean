/-!
# Ranges of code points

A class of characters is written down as closed ranges of code points. A table is a list of them,
and a code point belongs to the class when some range of the table covers it.
-/

namespace Roster.Text

/-- The code points from `first` to `last`, both included. -/
structure CodeRange where
  first : Nat
  last : Nat

namespace CodeRange

/-- Whether the code point lies in the range. -/
def contains (range : CodeRange) (code : Nat) : Bool := range.first ≤ code && code ≤ range.last

/-- Whether some range of the table holds the code point. -/
def covers (table : List CodeRange) (code : Nat) : Bool := table.any (·.contains code)

theorem contains_iff {range : CodeRange} {code : Nat} :
    range.contains code = true ↔ range.first ≤ code ∧ code ≤ range.last := by
  simp [contains]

theorem covers_iff {table : List CodeRange} {code : Nat} :
    covers table code = true ↔ ∃ range ∈ table, range.first ≤ code ∧ code ≤ range.last := by
  simp [covers, contains_iff]

end CodeRange

end Roster.Text
