import Roster.Text.CodeRange

/-!
# Blank text

A text is blank when every character of it is white space in the sense of the Unicode property
`White_Space`: the ASCII controls from tab to carriage return, the spaces of all widths, and the
separators of lines and paragraphs. The empty text is blank.
-/

namespace Roster.Text

/-- The white-space characters. -/
def blankRanges : List CodeRange :=
  [⟨0x0009, 0x000D⟩, ⟨0x0020, 0x0020⟩, ⟨0x0085, 0x0085⟩, ⟨0x00A0, 0x00A0⟩, ⟨0x1680, 0x1680⟩,
   ⟨0x2000, 0x200A⟩, ⟨0x2028, 0x2029⟩, ⟨0x202F, 0x202F⟩, ⟨0x205F, 0x205F⟩, ⟨0x3000, 0x3000⟩]

/-- Whether the character is white space. -/
def isBlankChar (c : Char) : Bool := CodeRange.covers blankRanges c.toNat

def isBlank (text : String) : Bool := text.toList.all isBlankChar

theorem isBlank_iff {text : String} :
    isBlank text = true ↔ ∀ c ∈ text.toList, isBlankChar c = true := by
  simp [isBlank]

end Roster.Text
