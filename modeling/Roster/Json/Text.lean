import Roster.Json.Reader
import Roster.Text.Hex

/-!
# Texts in JSON

A text stands between double quotes. A backslash begins an escape: one of eight letters and marks
for a single character, or the letter u with the four hexadecimal digits of a UTF-16 unit, where two
units that make up a surrogate pair stand for one character. Where a text is passed over, escapes
are checked one by one but surrogates need not pair.
-/

namespace Roster.Json

open Reader

namespace Text

/-- The character for the letter behind a backslash. -/
def escaped? (letter : Char) : Option Char :=
  match letter with
  | '"' => some '"'
  | '\\' => some '\\'
  | '/' => some '/'
  | 'b' => some '\x08'
  | 'f' => some '\x0c'
  | 'n' => some '\n'
  | 'r' => some '\r'
  | 't' => some '\t'
  | _ => none

/-- The number that hexadecimal digits spell. -/
def hexValue? (digits : List Char) : Option Nat :=
  digits.foldlM (fun n c => (16 * n + ·) <$> Text.Hex.value? c.toNat) 0

/-- The number of bytes that characters take up. -/
def size (chars : List Char) : Nat := chars.foldr (fun c n => c.utf8Size + n) 0

/-- A number in four hexadecimal digits. The text has ended if fewer than four bytes are left. -/
def unit : Reader Nat where
  run
    | a :: b :: c :: d :: rest =>
      match hexValue? [a, b, c, d] with
      | some n => .ok (n, rest)
      | none => .error (.malformed .invalidEscape)
    | short =>
      .error (if size short < 4 then .ended .text else .malformed .invalidEscape)
  rest_le {input _ _} h := by
    split at h
    · split at h
      · cases h
        simp only [List.length_cons]
        omega
      · cases h
    · cases h

/-- Whether a unit begins a surrogate pair. -/
def isLeading (unit : Nat) : Bool := 0xD800 ≤ unit && unit ≤ 0xDBFF

/-- Whether a unit ends a surrogate pair. -/
def isTrailing (unit : Nat) : Bool := 0xDC00 ≤ unit && unit ≤ 0xDFFF

/-- The character of a surrogate pair. -/
def pair (leading trailing : Nat) : Char :=
  Char.ofNat (0x10000 + 0x400 * (leading - 0xD800) + (trailing - 0xDC00))

/-- A character that has to follow the first half of a surrogate pair. -/
def pairMark (mark : Char) : Reader Unit := do
  match ← next with
  | none => fail (.ended .text)
  | some c => if c = mark then return else fail (.malformed .brokenSurrogatePair)

/-- The character of one unit or two. -/
def coded : Reader Char := do
  let first ← unit
  if isTrailing first then fail (.malformed .loneSurrogate)
  else if isLeading first then
    pairMark '\\'
    pairMark 'u'
    let second ← unit
    if isTrailing second then return pair first second
    else fail (.malformed .loneSurrogate)
  else return Char.ofNat first

variable {α : Type}

/-- What a backslash begins, given what to do with a single character and behind the letter u. -/
def escape (plain : Char → α) (code : Reader α) : Reader α := do
  match ← next with
  | none => fail (.ended .text)
  | some letter =>
    match escaped? letter with
    | some c => return plain c
    | none => if letter = 'u' then code else fail (.malformed .invalidEscape)

/-- The characters up to the closing quote, behind those that were read before, last one first. -/
def bodyFrom (plain : Char → α) (code : Reader α) (done : List α) (input : List Char) :
    Except Fault (List α × List Char) :=
  match input with
  | [] => .error (.ended .text)
  | c :: rest =>
    if c = '"' then .ok (done.reverse, rest)
    else if c = '\\' then
      match read : (escape plain code).run rest with
      | .ok (a, behind) =>
        have : behind.length ≤ rest.length := (escape plain code).rest_le read
        bodyFrom plain code (a :: done) behind
      | .error fault => .error fault
    else if c.toNat < 0x20 then .error (.malformed .controlCharacter)
    else bodyFrom plain code (plain c :: done) rest
termination_by input.length

theorem length_of_bodyFrom {plain : Char → α} {code : Reader α} {done all : List α}
    {input rest : List Char} (h : bodyFrom plain code done input = .ok (all, rest)) :
    rest.length ≤ input.length := by
  fun_induction bodyFrom plain code done input with
  | case1 => cases h
  | case2 =>
    cases h
    exact Nat.le_succ _
  | case3 _ _ _ _ _ shorter _ ih => exact Nat.le_succ_of_le (Nat.le_trans (ih h) shorter)
  | case4 => cases h
  | case5 => cases h
  | case6 _ _ _ _ _ _ ih => exact Nat.le_succ_of_le (ih h)

/-- What stands between the quotes of a text, behind the first quote. -/
def body (plain : Char → α) (code : Reader α) : Reader (List α) :=
  ⟨bodyFrom plain code [], length_of_bodyFrom⟩

/-- A text behind its first quote. -/
def content : Reader String := String.ofList <$> body id coded

/-- Passes over a text behind its first quote. -/
def skipContent : Reader Unit := do
  discard (body (fun _ => ()) (discard unit))

end Text

end Roster.Json
