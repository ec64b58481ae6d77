import CommandConsole.Yaml.Scalar
import CommandConsole.Yaml.Spot

/-!
# Scalars in a YAML text

The characters of a scalar in each of its styles, read from a spot. Between two words of a plain or
quoted scalar the blanks of a line stand as they are, and a line break is a space, or nothing when
empty lines follow it, which stand for line breaks. A block scalar keeps its lines, or folds them
in the same way.

A reader that may go on over many lines is given a bound on its turns. Each turn but the last moves
on, so the number of characters left is enough.
-/

set_option autoImplicit false

namespace CommandConsole.Yaml

open Number (natural?)

/-- How a scalar is written. -/
inductive Style where
  | plain
  | single
  | double
  | literal
  | folded
deriving DecidableEq, Repr

/-! ## Gaps -/

/-- What stands between two words of a scalar: blanks, or a first line break and more of them. The
blanks are kept last one first. -/
structure Gap where
  broken : Bool
  blanks : List Char
  first : List Char
  others : List Char
deriving DecidableEq, Repr

namespace Gap

/-- Nothing. -/
def none : Gap := ⟨false, [], [], []⟩

/-- What a gap stands for in the text of the scalar. -/
def text (g : Gap) : List Char :=
  if !g.broken then g.blanks.reverse
  else if g.first == ['\n'] then if g.others.isEmpty then [' '] else g.others
  else g.first ++ g.others

/-- A blank is added. Behind a line break it stands for nothing. -/
def blank (g : Gap) (c : Char) : Gap := if g.broken then g else { g with blanks := c :: g.blanks }

/-- A line break is added. -/
def lineBreak (g : Gap) (b : List Char) : Gap :=
  if g.broken then { g with others := g.others ++ b }
  else { g with broken := true, blanks := [], first := b }

/-- Reads blanks and line breaks. -/
def read : (turns : Nat) → Gap → Spot → Gap × Spot
  | 0, g, s => (g, s)
  | n + 1, g, s =>
      match s.rest with
      | [] => (g, s)
      | c :: _ =>
          if isBlank c then read n (g.blank c) (s.skip 1)
          else if isBreak c then
            let (b, s) := s.nextLine
            read n (g.lineBreak b) s
          else (g, s)

/-- The first tabulator in the indentation of a line that a gap brings. -/
def badTab? (indent : Nat) : (turns : Nat) → Gap → Spot → Option Spot
  | 0, _, _ => Option.none
  | n + 1, g, s =>
      match s.rest with
      | [] => Option.none
      | c :: _ =>
          if isBlank c then
            if c == '\t' && g.broken && s.column < indent then some s
            else badTab? indent n (g.blank c) (s.skip 1)
          else if isBreak c then
            let (b, s) := s.nextLine
            badTab? indent n (g.lineBreak b) s
          else Option.none

end Gap

/-! ## Plain scalars -/

/-- Whether a plain scalar ends in front of the text. -/
def endsPlain (flow : Bool) (s : Spot) : Bool :=
  (s.at_ ':' && s.parted 1) || (flow && s.has 0 (",[]{}".toList.contains ·))

/-- Whether a colon stands where a plain scalar cannot have one. -/
def badColon (flow : Bool) (s : Spot) : Bool :=
  flow && s.at_ ':' && s.has 1 (",?[]{}".toList.contains ·)

/-- What is being read. -/
def inPlain : String := "while scanning a plain scalar"

/-- The word that follows, and the spot behind it. -/
def plainWord (flow : Bool) (start : Spot) : (turns : Nat) → Spot → Scanning (List Char × Spot)
  | 0, s => .ok ([], s)
  | n + 1, s =>
      if s.parted 0 then .ok ([], s)
      else if badColon flow s then s.flaw start inPlain "found unexpected ':'"
      else if endsPlain flow s then .ok ([], s)
      else match s.rest with
        | [] => .ok ([], s)
        | c :: _ => (plainWord flow start n (s.skip 1)).map fun (w, s) => (c :: w, s)

/-- Reads a plain scalar on: its words, each behind the gap in front of it. The result says
whether a line break stands behind the last word, where keys can start again. -/
def plainFrom (flow : Bool) (indent : Nat) (start : Spot) :
    (turns : Nat) → Gap → List Char → Spot → Scanning (List Char × Bool × Spot)
  | 0, _, held, s => .ok (held, false, s)
  | n + 1, g, held, s =>
      if s.isDocumentMark || s.at_ '#' then .ok (held, g.broken, s)
      else (plainWord flow start (s.rest.length + 1) s).bind fun (w, s) =>
        let held := if w.isEmpty then held else held ++ g.text ++ w
        let g := if w.isEmpty then g else Gap.none
        if !s.has 0 (fun c => isBlank c || isBreak c) then .ok (held, g.broken, s)
        else match Gap.badTab? indent (s.rest.length + 1) g s with
          | some tab => tab.flaw start inPlain "found a tab character that violates indentation"
          | none =>
              let (g, s) := Gap.read (s.rest.length + 1) g s
              if !flow && s.column < indent then .ok (held, g.broken, s)
              else plainFrom flow indent start n g held s

/-- **A plain scalar.** -/
def readPlain (flow : Bool) (indent : Nat) (s : Spot) : Scanning (List Char × Bool × Spot) :=
  plainFrom flow indent s (s.rest.length + 1) Gap.none [] s

/-! ## Quoted scalars -/

/-- The character that a letter behind a backslash stands for. -/
def escape? : Char → Option Char
  | '0' => some '\x00'
  | 'a' => some '\x07'
  | 'b' => some '\x08'
  | 't' => some '\t'
  | '\t' => some '\t'
  | 'n' => some '\n'
  | 'v' => some '\x0b'
  | 'f' => some '\x0c'
  | 'r' => some '\r'
  | 'e' => some '\x1b'
  | ' ' => some ' '
  | '"' => some '"'
  | '/' => some '/'
  | '\\' => some '\\'
  | 'N' => some '\u0085'
  | '_' => some '\u00A0'
  | 'L' => some '\u2028'
  | 'P' => some '\u2029'
  | _ => none

/-- How many hexadecimal digits follow a letter behind a backslash. -/
def escapeWidth? : Char → Option Nat
  | 'x' => some 2
  | 'u' => some 4
  | 'U' => some 8
  | _ => none

/-- The character of so many hexadecimal digits. -/
def readCoded (start : Spot) (width : Nat) (s : Spot) : Scanning Char :=
  let digits := s.rest.take width
  let context := "while parsing a quoted scalar"
  match if digits.length < width then none else natural? 16 digits with
  | none => s.flaw start context "did not find expected hexdecimal number"
  | some n =>
      if (0xD800 ≤ n ∧ n ≤ 0xDFFF) ∨ 0x10FFFF < n then
        s.flaw start context "found invalid Unicode character escape code"
      else .ok (Char.ofNat n)

/-- The character that an escape stands for, from its backslash on, and the spot behind it. -/
def readEscape (start s : Spot) : Scanning (Char × Spot) :=
  match s.rest.drop 1 with
  | [] => s.flaw start "while parsing a quoted scalar" "found unknown escape character"
  | c :: _ =>
      match escape? c, escapeWidth? c with
      | some d, _ => .ok (d, s.skip 2)
      | none, some width =>
          (readCoded start width (s.skip 2)).map fun d => (d, s.skip (2 + width))
      | none, none =>
          s.flaw start "while parsing a quoted scalar" "found unknown escape character"

/-- Reads the part of a quoted scalar up to a blank, a line break or the quote. The result says
whether a line break was escaped at its end. -/
def quotedWord (double : Bool) (start : Spot) :
    (turns : Nat) → Spot → Scanning (List Char × Bool × Spot)
  | 0, s => .ok ([], false, s)
  | n + 1, s =>
      if s.parted 0 then .ok ([], false, s)
      else
        let onwards (c : Char) (s : Spot) : Scanning (List Char × Bool × Spot) :=
          (quotedWord double start n s).map fun (w, b, s) => (c :: w, b, s)
        match double, s.rest with
        | false, '\'' :: '\'' :: _ => onwards '\'' (s.skip 2)
        | false, '\'' :: _ => .ok ([], false, s)
        | true, '"' :: _ => .ok ([], false, s)
        | true, '\\' :: _ =>
            if s.has 1 isBreak then .ok ([], true, (s.skip 1).nextLine.2)
            else (readEscape start s).bind fun (d, s) => onwards d s
        | _, c :: _ => onwards c (s.skip 1)
        | _, [] => .ok ([], false, s)

/-- What is being read. -/
def inQuoted : String := "while scanning a quoted scalar"

/-- Reads a quoted scalar on, up to and with its quote. -/
def quotedFrom (double : Bool) (start : Spot) :
    (turns : Nat) → List Char → Spot → Scanning (List Char × Spot)
  | 0, _, s => s.flaw start inQuoted "found unexpected end of stream"
  | n + 1, held, s =>
      if s.isDocumentMark then s.flaw start inQuoted "found unexpected document indicator"
      else if s.ends then s.flaw start inQuoted "found unexpected end of stream"
      else (quotedWord double start (s.rest.length + 1) s).bind fun (w, escaped, s) =>
        let held := held ++ w
        if s.at_ (if double then '"' else '\'') then .ok (held, s.skip 1)
        else
          let g := if escaped then { Gap.none with broken := true } else Gap.none
          let (g, s) := Gap.read (s.rest.length + 1) g s
          quotedFrom double start n (held ++ g.text) s

/-- **A quoted scalar**, from its first quote on. -/
def readQuoted (double : Bool) (s : Spot) : Scanning (List Char × Spot) :=
  quotedFrom double s (s.rest.length + 1) [] (s.skip 1)

/-! ## Block scalars -/

/-- What becomes of the line breaks at the end of a block scalar. -/
inductive Chomping where
  | strip
  | clip
  | keep
deriving DecidableEq, Repr

/-- The sign of a chomping. -/
def chomping? : Char → Option Chomping
  | '-' => some .strip
  | '+' => some .keep
  | _ => none

/-- The depth that a digit gives; zero is none. -/
def depth? (c : Char) : Option (Option Nat) :=
  if c = '0' then some none
  else if Number.isDigit c then some (some (Number.digitValue c)) else none

/-- What is being read. -/
def inBlock : String := "while scanning a block scalar"

/-- Reads the header of a block scalar: a sign and a depth, in any order. A depth may not be
zero. -/
def blockHeader (start s : Spot) : Scanning (Chomping × Option Nat × Spot) :=
  let zero (s : Spot) : Scanning (Chomping × Option Nat × Spot) :=
    s.flaw start inBlock "found an indentation indicator equal to 0"
  match s.rest with
  | [] => .ok (.clip, none, s)
  | c :: r =>
      match chomping? c, depth? c with
      | some k, _ =>
          match r.head?.bind depth? with
          | none => .ok (k, none, s.skip 1)
          | some none => zero (s.skip 1)
          | some d => .ok (k, d, s.skip 2)
      | none, some none => zero s
      | none, some d =>
          match r.head?.bind chomping? with
          | none => .ok (.clip, d, s.skip 1)
          | some k => .ok (k, d, s.skip 2)
      | none, none => .ok (.clip, none, s)

/-- Reads the empty lines in front of a line of a block scalar, and its indentation. Where no
indentation is known yet, any number of spaces is one, and the greatest is kept. -/
def blockBreaks (start : Spot) (indent : Option Nat) :
    (turns : Nat) → (widest : Nat) → List Char → Spot → Scanning (Nat × List Char × Spot)
  | 0, widest, held, s => .ok (widest, held, s)
  | n + 1, widest, held, s =>
      let spaces := (s.rest.takeWhile (· == ' ')).length
      let s := s.skip (match indent with
        | none => spaces
        | some i => min spaces (i - s.column))
      let widest := max widest s.column
      if s.at_ '\t' && indent.all (s.column < ·) then
        s.flaw start inBlock "found a tab character where an indentation space is expected"
      else if s.has 0 isBreak then
        let (b, s) := s.nextLine
        blockBreaks start indent n widest (held ++ b) s
      else .ok (widest, held, s)

/-- Reads the lines of a block scalar. `first` is the break behind the line in front, `others`
those of the empty lines behind that, and `led` says whether that line started with a blank. -/
def blockLines (start : Spot) (folded : Bool) (indent : Nat) :
    (turns : Nat) → (led : Bool) → (first others held : List Char) → Spot →
      Scanning (List Char × List Char × List Char × Spot)
  | 0, _, first, others, held, s => .ok (held, first, others, s)
  | n + 1, led, first, others, held, s =>
      if s.column ≠ indent ∨ s.ends then .ok (held, first, others, s)
      else
        let leads := s.has 0 isBlank
        let joint :=
          if folded && first == ['\n'] && !led && !leads then
            if others.isEmpty then [' '] else []
          else first
        let line := s.rest.takeWhile fun c => !isBreak c
        let (b, s) := (s.skip line.length).nextLine
        (blockBreaks start (some indent) (s.rest.length + 1) 0 [] s).bind fun (_, more, s) =>
          blockLines start folded indent n leads b more (held ++ joint ++ others ++ line) s

/-- **A block scalar**, from its indicator on. `outer` is the indentation around it. -/
def readBlock (folded : Bool) (outer : Int) (start : Spot) : Scanning (List Char × Spot) := do
  let (chomping, depth, s) ← blockHeader start (start.skip 1)
  let s := s.skipWhile isBlank
  let s := if s.at_ '#' then s.skipWhile (fun c => !isBreak c) else s
  if !s.endsLine 0 then
    s.flaw start inBlock "did not find expected comment or line break"
  let s := s.nextLine.2
  let given := depth.map fun d => outer.toNat + d
  let (widest, others, s) ← blockBreaks start given (s.rest.length + 1) 0 [] s
  let indent := given.getD (max widest (max (outer + 1).toNat 1))
  let (held, first, others, s) ←
    blockLines start folded indent (s.rest.length + 1) false [] others [] s
  let tail := match chomping with
    | .strip => []
    | .clip => first
    | .keep => first ++ others
  return (held ++ tail, s)

end CommandConsole.Yaml
