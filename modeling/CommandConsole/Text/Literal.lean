import CommandConsole.Text.Blank
import CommandConsole.Text.Category

/-!
# Quoted literals

How the log and the error messages show a text beyond doubt: between double quotes, with quotes,
backslashes and characters that do not show spelled out.
-/

set_option autoImplicit false

namespace CommandConsole.Text

/-- A number in hexadecimal digits, small letters. -/
def hex (n : Nat) : List Char := Nat.toDigits 16 n

/-- Fillers: letters without a shape. -/
def isFiller (c : Char) : Bool :=
  c == '\u115F' || c == '\u1160' || c == '\u3164' || c == '\uFFA0'

/-- A sound mark that takes place of its own although it extends the character before it. -/
def isSoundMark (c : Char) : Bool := c == '\uFF9E' || c == '\uFF9F'

/-- A character that does not show, or not by itself: a control, a blank other than the space, a
format character, a filler, a code point without a public character, or one that extends the
character before it. -/
def isHidden (c : Char) : Bool :=
  !isPlainAscii c &&
    (isControl c || isBlank c || isPrivate c || isFiller c || isFormat c || isUnassigned c ||
      (isExtending c && !isSoundMark c))

/-- A character of a literal. -/
def literalChar (c : Char) : List Char :=
  match c with
  | '\x00' => ['\\', '0']
  | '\t' => ['\\', 't']
  | '\n' => ['\\', 'n']
  | '\r' => ['\\', 'r']
  | '"' => ['\\', '"']
  | '\\' => ['\\', '\\']
  | c =>
      if isHidden c then ['\\', 'u', '\x7b'] ++ hex c.toNat ++ ['\x7d'] else [c]

/-- A text as a quoted literal. -/
def literal (s : String) : String :=
  String.ofList ('"' :: s.toList.flatMap literalChar ++ ['"'])

/-- Texts as a bracketed list of literals. -/
def literals (ss : List String) : String := "[" ++ ", ".intercalate (ss.map literal) ++ "]"

end CommandConsole.Text
