import CommandConsole.Yaml.Flaw

/-!
# Places in a YAML text

A spot is a place in a text together with what follows it. Its column counts the characters since
the line began, and its index the bytes since the text did. The functions here look at what
follows a spot and move it on.
-/

set_option autoImplicit false

namespace CommandConsole.Yaml

/-- A space or a tabulator. -/
def isBlank (c : Char) : Bool := c == ' ' || c == '\t'

/-- A character that ends a line. -/
def isBreak (c : Char) : Bool :=
  c == '\n' || c == '\r' || c == '\u0085' || c == '\u2028' || c == '\u2029'

/-- A character that a text may have at all. -/
def isAllowed (c : Char) : Bool :=
  let n := c.toNat
  n == 0x09 || n == 0x0A || n == 0x0D || (0x20 ≤ n && n ≤ 0x7E) || n == 0x85 ||
    (0xA0 ≤ n && n ≤ 0xD7FF) || (0xE000 ≤ n && n ≤ 0xFFFD) || 0x10000 ≤ n

/-- The number of bytes of characters. -/
def byteCount (cs : List Char) : Nat := (cs.map Char.utf8Size).foldr (· + ·) 0

/-- A place in a text and what follows it. -/
structure Spot where
  rest : List Char
  index : Nat
  line : Nat
  column : Nat
deriving DecidableEq, Repr

namespace Spot

/-- The start of a text. -/
def start (text : List Char) : Spot := ⟨text, 0, 0, 0⟩

/-- The place alone. -/
def mark (s : Spot) : Mark := ⟨s.line, s.column⟩

/-- A flaw here, in a part that started at a spot. -/
def flaw {α : Type} (s : Spot) (start : Spot) (context problem : String) : Scanning α :=
  .error (.within context start.mark s.mark problem)

/-- Whether the character so many places on is there and has a property. -/
def has (s : Spot) (n : Nat) (p : Char → Bool) : Bool := s.rest[n]?.any p

/-- Whether a character follows. -/
def at_ (s : Spot) (c : Char) : Bool := s.rest.head? == some c

/-- Whether the text ends here. -/
def ends (s : Spot) : Bool := s.rest.isEmpty

/-- Whether a line or the text ends so many places on. -/
def endsLine (s : Spot) (n : Nat) : Bool := s.rest[n]?.all isBreak

/-- Whether a blank follows so many places on, or the end of a line or of the text. -/
def parted (s : Spot) (n : Nat) : Bool := s.rest[n]?.all fun c => isBlank c || isBreak c

/-- The spot so many characters on in the line. -/
def skip (s : Spot) (n : Nat) : Spot :=
  { s with
    rest := s.rest.drop n, index := s.index + byteCount (s.rest.take n), column := s.column + n }

/-- The spot behind the characters with a property. -/
def skipWhile (s : Spot) (p : Char → Bool) : Spot := s.skip (s.rest.takeWhile p).length

/-- The spot behind the end of the line that follows, and the break as a scalar holds it. -/
def nextLine (s : Spot) : List Char × Spot :=
  match s.rest with
  | [] => ([], s)
  | '\r' :: '\n' :: r => (['\n'], ⟨r, s.index + 2, s.line + 1, 0⟩)
  | c :: r =>
      (if c == '\u2028' || c == '\u2029' then [c] else ['\n'],
        ⟨r, s.index + c.utf8Size, s.line + 1, 0⟩)

/-- Whether three characters stand at the start of a line with nothing joined to them. -/
def isMark (s : Spot) (c : Char) : Bool :=
  s.column == 0 && s.rest.take 3 == [c, c, c] && s.parted 3

/-- Whether a document starts or ends here. -/
def isDocumentMark (s : Spot) : Bool := s.isMark '-' || s.isMark '.'

end Spot

end CommandConsole.Yaml
