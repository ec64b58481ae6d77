/-!
# Flaws of a JSON text

What can be wrong with a text, in words, and the place in it where that shows. Lines count from
one and a line feed ends them; a column counts the bytes since. A flaw that shows at a character
is placed behind that character's first byte, one that shows at the end of the text at the end.
-/

set_option autoImplicit false

namespace CommandConsole.Json

/-- What is wrong with a text. -/
inductive Flaw where
  | endInValue
  | endInList
  | endInObject
  | endInString
  | noValue
  | noWord
  | noColon
  | noListComma
  | noObjectComma
  | noKey
  | trailingComma
  | trailingCharacters
  | badNumber
  | hugeNumber
  | badEscape
  | controlCharacter
  | loneSurrogate
  | brokenSurrogate
  | tooDeep
deriving DecidableEq, Repr

/-- A flaw in words. -/
def Flaw.message : Flaw → String
  | .endInValue => "EOF while parsing a value"
  | .endInList => "EOF while parsing a list"
  | .endInObject => "EOF while parsing an object"
  | .endInString => "EOF while parsing a string"
  | .noValue => "expected value"
  | .noWord => "expected ident"
  | .noColon => "expected `:`"
  | .noListComma => "expected `,` or `]`"
  | .noObjectComma => "expected `,` or `\x7d`"
  | .noKey => "key must be a string"
  | .trailingComma => "trailing comma"
  | .trailingCharacters => "trailing characters"
  | .badNumber => "invalid number"
  | .hugeNumber => "number out of range"
  | .badEscape => "invalid escape"
  | .controlCharacter => "control character (\\u0000-\\u001F) found while parsing a string"
  | .loneSurrogate => "lone leading surrogate in hex escape"
  | .brokenSurrogate => "unexpected end of hex escape"
  | .tooDeep => "recursion limit exceeded"

/-- A place in a text. -/
structure Place where
  line : Nat
  column : Nat
deriving DecidableEq, Repr

namespace Place

/-- The place where a text starts. -/
def start : Place := ⟨1, 0⟩

/-- The place a number of bytes into a character. -/
def into (p : Place) (c : Char) (bytes : Nat) : Place :=
  if bytes = 0 then p else if c = '\n' then ⟨p.line + 1, 0⟩ else ⟨p.line, p.column + bytes⟩

/-- The place behind a character. -/
def next (p : Place) (c : Char) : Place := p.into c c.utf8Size

end Place

/-- A complaint about a text at a place in it. -/
structure Complaint where
  text : String
  place : Place
deriving DecidableEq, Repr

/-- A complaint with its place, in words. -/
def Complaint.message (c : Complaint) : String :=
  s!"{c.text} at line {c.place.line} column {c.place.column}"

/-- A place in a text together with what follows it. -/
structure Cursor where
  rest : List Char
  place : Place
deriving DecidableEq, Repr

namespace Cursor

/-- A complaint about what stands before the cursor. -/
def complain (c : Cursor) (text : String) : Complaint := ⟨text, c.place⟩

/-- A flaw that shows at the character behind the cursor. -/
def flaw (c : Cursor) (f : Flaw) : Complaint :=
  ⟨f.message, match c.rest with
    | [] => c.place
    | x :: _ => c.place.into x 1⟩

/-- The cursor behind the blanks of JSON that follow. -/
def skipBlanks (c : Cursor) : Cursor :=
  let blank (x : Char) : Bool := x == ' ' || x == '\n' || x == '\t' || x == '\r'
  ⟨c.rest.dropWhile blank, (c.rest.takeWhile blank).foldl Place.next c.place⟩

/-- The cursor behind a character, if that follows. -/
def skipChar (x : Char) (c : Cursor) : Cursor :=
  match c.rest with
  | [] => c
  | y :: r => if y = x then ⟨r, c.place.next y⟩ else c

end Cursor

end CommandConsole.Json
