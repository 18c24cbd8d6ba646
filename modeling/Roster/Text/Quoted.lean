import Roster.Text.Hidden

/-!
# Quoted text

A text or a character is shown between quotes so that every character of it can be told apart on
a page. The quote in use and the backslash are escaped, the line and tab controls and the null
character have short escapes, and a hidden character is shown by its code point in hexadecimal
digits without leading zeros.
-/

namespace Roster.Text.Quoted

/-- The form of a code point: a backslash, the letter u, and the digits in braces. -/
def codeEscape (c : Char) : List Char :=
  '\\' :: 'u' :: '\x7b' :: Nat.toDigits 16 c.toNat ++ ['\x7d']

/-- One character as it stands between two of the given quotes. -/
def escape (quote c : Char) : List Char :=
  if c = quote ∨ c = '\\' then ['\\', c]
  else if c = '\n' then ['\\', 'n']
  else if c = '\r' then ['\\', 'r']
  else if c = '\t' then ['\\', 't']
  else if c = '\x00' then ['\\', '0']
  else if isHidden c then codeEscape c
  else [c]

/-- A text between double quotes. -/
def text (s : String) : String :=
  String.ofList ('"' :: s.toList.flatMap (escape '"') ++ ['"'])

/-- A character between single quotes. -/
def char (c : Char) : String := String.ofList ('\'' :: escape '\'' c ++ ['\''])

/-- Texts between brackets, each quoted, with a comma and a space between two. -/
def list (items : List String) : String :=
  "[" ++ ", ".intercalate (items.map text) ++ "]"

/-- A text that may be missing, with the word for either case. -/
def optional : Option String → String
  | none => "None"
  | some s => "Some(" ++ text s ++ ")"

end Roster.Text.Quoted
