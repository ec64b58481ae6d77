import CommandConsole.Yaml.Text

/-!
# Writing YAML

A map of texts by name, one entry a line. A text is written plainly if it is read back as itself,
else in single quotes. One with line feeds becomes a block, and one with characters that a text
may not show is written in double quotes with escapes.
-/

set_option autoImplicit false

namespace CommandConsole.Yaml

/-- A character that may be shown as it is. -/
def isPrintable (c : Char) : Bool :=
  let n := c.toNat
  n == 0x0A || (0x20 ≤ n && n ≤ 0x7E) || (0xA0 ≤ n && n ≤ 0xFFFD && n != 0xFEFF) || 0x10000 ≤ n

namespace Writer

/-! ## What a text holds -/

/-- Whether a blank, the end of a line or the end of the text follows. -/
def partedBy (cs : List Char) : Bool := cs.head?.all fun c => isBlank c || isBreak c

/-- Whether two characters that stand side by side have these properties. -/
def hasPair (p q : Char → Bool) : List Char → Bool
  | c :: d :: r => (p c && q d) || hasPair p q (d :: r)
  | _ => false

/-- Whether a text starts with a mark. -/
def opensWithMark (cs : List Char) : Bool :=
  cs.take 3 == ['-', '-', '-'] || cs.take 3 == ['.', '.', '.'] ||
    match cs with
    | [] => false
    | c :: r =>
        "#,[]\x7b\x7d&*!|>'\"%@\x60".toList.contains c ||
          ((c == '?' || c == ':' || c == '-') && partedBy r)

/-- Whether a mark stands behind the first character of a text. -/
def holdsMark : List Char → Bool
  | p :: c :: r =>
      (c == ':' && partedBy r) || (c == '#' && (isBlank p || isBreak p)) || holdsMark (c :: r)
  | _ => false

/-- A space. -/
def isSpace (c : Char) : Bool := c == ' '

/-- Whether a text needs escapes: it has characters that may not be shown, or spaces in front of
a line break. -/
def needsEscapes (cs : List Char) : Bool :=
  cs.any (fun c => !isPrintable c) || hasPair isSpace isBreak cs

/-- Whether a text has a space or a line break at one of its ends. -/
def hasLooseEnds (cs : List Char) : Bool :=
  let loose (c : Char) := isSpace c || isBreak c
  cs.head?.any loose || cs.getLast?.any loose

/-- Whether a text can be written plainly. -/
def canBePlain (cs : List Char) : Bool :=
  !(needsEscapes cs || hasLooseEnds cs || cs.any isBreak || opensWithMark cs || holdsMark cs)

/-- Whether a text can be written in single quotes. -/
def canBeSingle (cs : List Char) : Bool := !(needsEscapes cs || hasPair isBreak isSpace cs)

/-- Whether a text can be written as a block. -/
def canBeBlock (cs : List Char) : Bool := !(needsEscapes cs || cs.getLast?.any isSpace)

/-- Whether a plain text would be read as something else, or looks like a number. -/
def isMistaken (cs : List Char) : Bool := meaning (String.ofList cs) != .text || isPadded cs

/-- The style in which a text is written. -/
def styleOf (cs : List Char) : Style :=
  if cs.contains '\n' then if canBeBlock cs then .literal else .double
  else if canBePlain cs && !isMistaken cs then .plain
  else if canBeSingle cs then .single else .double

/-! ## Styles -/

/-- The spaces in front of a line of a text. -/
def margin : List Char := [' ', ' ']

/-- The characters in single quotes. Behind line breaks stands the margin. -/
def single (broken : Bool) : List Char → List Char
  | [] => if broken then margin else []
  | c :: r =>
      if isBreak c then c :: single true r
      else
        let shown := if c == '\'' then ['\'', '\''] else [c]
        (if broken then margin else []) ++ shown ++ single false r

/-- A hexadecimal number of a width. -/
def hex (width n : Nat) : List Char :=
  let ds := (Nat.toDigits 16 n).map Char.toUpper
  List.replicate (width - ds.length) '0' ++ ds

/-- The letter of a short escape. -/
def shortEscape? : Char → Option Char
  | '\x00' => some '0'
  | '\x07' => some 'a'
  | '\x08' => some 'b'
  | '\t' => some 't'
  | '\n' => some 'n'
  | '\x0b' => some 'v'
  | '\x0c' => some 'f'
  | '\r' => some 'r'
  | '\x1b' => some 'e'
  | '"' => some '"'
  | '\\' => some '\\'
  | '\u0085' => some 'N'
  | '\u2028' => some 'L'
  | '\u2029' => some 'P'
  | _ => none

/-- A character in double quotes. -/
def double (c : Char) : List Char :=
  match shortEscape? c with
  | some l => ['\\', l]
  | none =>
      if isPrintable c then [c]
      else if c.toNat ≤ 0xFF then '\\' :: 'x' :: hex 2 c.toNat
      else if c.toNat ≤ 0xFFFF then '\\' :: 'u' :: hex 4 c.toNat
      else '\\' :: 'U' :: hex 8 c.toNat

/-- The header of a block: the depth when the text does not start with a word, and what becomes of
the line breaks at its end. -/
def header (cs : List Char) : List Char :=
  let depth := if cs.head?.any fun c => isSpace c || isBreak c then ['2'] else []
  let ending := match cs.reverse with
    | [] => ['-']
    | [c] => if isBreak c then ['+'] else ['-']
    | c :: d :: _ => if !isBreak c then ['-'] else if isBreak d then ['+'] else []
  '|' :: depth ++ ending

/-- The lines of a block, each one that is not empty behind the margin. -/
def lines (broken : Bool) : List Char → List Char
  | [] => if broken then [] else ['\n']
  | c :: r =>
      if isBreak c then c :: lines true r
      else (if broken then margin else []) ++ c :: lines false r

/-- A text behind a mark, up to the end of its line. -/
def line (cs : List Char) : List Char :=
  match styleOf cs with
  | .literal => header cs ++ '\n' :: lines true cs
  | .folded => header cs ++ '\n' :: lines true cs
  | .plain => cs ++ ['\n']
  | .single => '\'' :: single false cs ++ ['\'', '\n']
  | .double => '"' :: cs.flatMap double ++ ['"', '\n']

/-! ## Maps -/

/-- The greatest number of bytes of a key that shares its line with the value. -/
def maxKeyBytes : Nat := 128

/-- Whether a key shares its line with the value. -/
def isShort (key : String) : Bool :=
  key.utf8ByteSize ≤ maxKeyBytes && !key.toList.any isBreak

/-- An entry. A key that does not share the line has a mark of its own. -/
def entry (e : String × String) : List Char :=
  let key := line e.1.toList
  let value := line e.2.toList
  if isShort e.1 then key.dropLast ++ ':' :: ' ' :: value
  else '?' :: ' ' :: key ++ ':' :: ' ' :: value

end Writer

/-- **The text of a map of texts by name.** -/
def textOf (entries : List (String × String)) : String :=
  if entries.isEmpty then "\x7b\x7d\n" else String.ofList (entries.flatMap Writer.entry)

end CommandConsole.Yaml
