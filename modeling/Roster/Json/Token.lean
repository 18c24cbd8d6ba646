import Roster.Json.Numeral
import Roster.Text.Hex

/-!
# JSON tokens

A text in JSON is a row of tokens, written one right behind the other. In a text only the quote, the
backslash and the control characters below the blank are escaped, five of them by a letter and the
rest by their number; every other character stands for itself.
-/

namespace Roster.Json

/-- A part of a text that blanks can stand before and behind, but not in. -/
inductive Token where
  | openList
  | closeList
  | openObject
  | closeObject
  | comma
  | colon
  | null
  | flag (value : Bool)
  | number (n : Numeral)
  | text (s : String)
deriving DecidableEq

namespace Token

/-- One character of a text as it is written between the quotes. -/
def escape (c : Char) : List Char :=
  match c with
  | '"' => ['\\', '"']
  | '\\' => ['\\', '\\']
  | '\x08' => ['\\', 'b']
  | '\t' => ['\\', 't']
  | '\n' => ['\\', 'n']
  | '\x0c' => ['\\', 'f']
  | '\r' => ['\\', 'r']
  | c =>
    if c.toNat < 0x20 then
      ['\\', 'u', '0', '0', Text.Hex.digit (c.toNat / 16), Text.Hex.digit (c.toNat % 16)]
    else [c]

/-- A text between its quotes. -/
def quoted (s : String) : List Char := '"' :: (s.toList.flatMap escape ++ ['"'])

def chars : Token → List Char
  | openList => ['[']
  | closeList => [']']
  | openObject => ['{']
  | closeObject => ['}']
  | comma => [',']
  | colon => [':']
  | null => ['n', 'u', 'l', 'l']
  | flag true => ['t', 'r', 'u', 'e']
  | flag false => ['f', 'a', 'l', 's', 'e']
  | number n => n.text
  | text s => quoted s

end Token

/-- Tokens written without blanks. -/
def write (tokens : List Token) : String := String.ofList (tokens.flatMap Token.chars)

end Roster.Json
