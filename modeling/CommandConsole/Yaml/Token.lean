import CommandConsole.Yaml.Tag
import CommandConsole.Yaml.Text

/-!
# Tokens of a YAML text

`tokens` cuts a text into scalars and marks. Indentation becomes tokens of its own: a block starts
where a line is indented more than those around it, and ends where one is indented less.

What stands in front of a colon is known to be a key only at the colon. So the scan keeps, for
each level of brackets, the place at which a key may have started, and puts the token of the key
in there once the colon comes. A key stands on one line and is not too long.

A reader of the tokens takes them one by one, and the scan goes no further than it has to. So a
flaw counts only where the reader gets to it: `scan` gives the tokens that are settled by then.
-/

set_option autoImplicit false

namespace CommandConsole.Yaml

open Number (natural?)

/-- A piece of a YAML text. -/
inductive Token where
  | version (major minor : Nat)
  | handle (name : List Char) (start : List UInt8)
  | documentStart
  | documentEnd
  | blockSequence
  | blockMapping
  | blockEnd
  | openSequence
  | closeSequence
  | openMapping
  | closeMapping
  | item
  | comma
  | key
  | value
  | alias (name : List Char)
  | anchor (name : List Char)
  | tag (t : Tag)
  | scalar (text : List Char) (style : Style)
deriving DecidableEq, Repr

/-- A token and its place. -/
structure Piece where
  token : Token
  place : Mark
deriving DecidableEq, Repr

/-- A place at which a key may have started, and the number of tokens in front of it. A key that
is required has to be one. -/
structure KeyStart where
  count : Nat
  spot : Spot
  required : Bool
deriving DecidableEq, Repr

/-- The greatest number of bytes of a key. -/
def maxKey : Nat := 1024

/-- Whether a key that has started at a place would be over at another one. -/
def KeyStart.isPast (k : KeyStart) (s : Spot) : Bool :=
  k.spot.line < s.line || k.spot.index + maxKey < s.index

/-- The state of the scan: the place reached, the tokens so far, the columns of the open blocks,
the innermost first, the place at which a key may have started on this level of brackets and on
those around it, and whether a key may start here. -/
structure Scan where
  spot : Spot
  tokens : Array Piece
  indents : List Nat
  key : Option KeyStart
  around : List (Option KeyStart)
  keyAllowed : Bool
deriving Repr

namespace Scan

/-- The state in front of a text. -/
def start (text : List Char) : Scan := ⟨.start text, #[], [], none, [], true⟩

/-- Whether a bracket is open. -/
def inFlow (s : Scan) : Bool := !s.around.isEmpty

/-- The column of the innermost block, or the one in front of all columns. -/
def indent (s : Scan) : Int := (s.indents.head?.map Int.ofNat).getD (-1)

/-- A token is added here. -/
def emit (s : Scan) (t : Token) : Scan := { s with tokens := s.tokens.push ⟨t, s.spot.mark⟩ }

/-- A flaw here that has no part of its own. -/
def flaw {α : Type} (s : Scan) (problem : String) : Scanning α :=
  .error (.at_ s.spot.mark problem)

/-- The scan goes on so many characters. -/
def skip (s : Scan) (n : Nat) : Scan := { s with spot := s.spot.skip n }

/-! ## Keys -/

/-- A key that had to be one has no colon. -/
def lacksColon {α : Type} (s : Scan) (k : KeyStart) : Scanning α :=
  s.spot.flaw k.spot "while scanning a simple key" "could not find expected ':'"

/-- Keys that would be over by now have not started, and one that had to is an error. -/
def forgetPast (s : Scan) : Scanning Scan :=
  let past (k : KeyStart) := k.isPast s.spot
  match (s.key :: s.around).findSome? fun k => k.filter fun k => past k && k.required with
  | some k => s.lacksColon k
  | none =>
      let keep (k : Option KeyStart) := k.filter fun k => !past k
      .ok { s with key := keep s.key, around := s.around.map keep }

/-- No key has started on this level. -/
def noKey (s : Scan) : Scanning Scan :=
  match s.key.filter (·.required) with
  | some k => s.lacksColon k
  | none => .ok { s with key := none }

/-- A key may start here. -/
def mayStart (s : Scan) : Scanning Scan :=
  if s.keyAllowed then
    s.noKey.map fun s =>
      let required := !s.inFlow && s.indent == (s.spot.column : Int)
      { s with key := some ⟨s.tokens.size, s.spot, required⟩ }
  else .ok s

/-! ## Blocks -/

/-- Outside of brackets, a block starts at a place whose column lies behind the innermost one. Its
token stands behind a number of others. -/
def openBlock (s : Scan) (place : Mark) (count : Nat) (t : Token) : Scan :=
  if !s.inFlow && s.indent < (place.column : Int) then
    { s with
      indents := place.column :: s.indents,
      tokens := s.tokens.insertIdxIfInBounds count ⟨t, place⟩ }
  else s

/-- Outside of brackets, the blocks end that lie behind a column. -/
def closeBlocks (s : Scan) (column : Int) : Scan :=
  if s.inFlow then s
  else
    let (ended, left) := s.indents.span fun (i : Nat) => column < (i : Int)
    let ends := ended.map fun _ => (⟨.blockEnd, s.spot.mark⟩ : Piece)
    { s with indents := left, tokens := s.tokens ++ ends.toArray }

/-! ## The way to the next token -/

/-- Goes over blanks, comments and line breaks, and over a byte order mark at the start of a line.
Behind a line break outside of brackets a key may start. A tabulator is a blank only where no key
may start. -/
def toToken : (turns : Nat) → Scan → Scan
  | 0, s => s
  | n + 1, s =>
      let spot := if s.spot.column == 0 && s.spot.at_ '\uFEFF' then s.spot.skip 1 else s.spot
      let tabs := s.inFlow || !s.keyAllowed
      let spot := spot.skipWhile fun c => c == ' ' || (tabs && c == '\t')
      let spot := if spot.at_ '#' then spot.skipWhile (fun c => !isBreak c) else spot
      if spot.has 0 isBreak then
        toToken n { s with spot := spot.nextLine.2, keyAllowed := s.keyAllowed || !s.inFlow }
      else { s with spot := spot }

/-! ## Directives -/

/-- What is being read. -/
def inVersion : String := "while scanning a %YAML directive"

/-- Reads the digits of a version. -/
def versionNumber (start s : Spot) : Scanning (Nat × Spot) :=
  let ds := s.rest.takeWhile Number.isDigit
  if 9 < ds.length then
    (s.skip 9).flaw start inVersion "found extremely long version number"
  else match natural? 10 ds with
    | some n => .ok (n, s.skip ds.length)
    | none => s.flaw start inVersion "did not find expected version number"

/-- Reads a version. -/
def version (start s : Spot) : Scanning (Token × Spot) := do
  let (major, s) ← versionNumber start (s.skipWhile isBlank)
  if !s.at_ '.' then s.flaw start inVersion "did not find expected digit or '.' character"
  let (minor, s) ← versionNumber start (s.skip 1)
  return (.version major minor, s)

/-- Reads a handle and what it stands for. -/
def handle (start s : Spot) : Scanning (Token × Spot) := do
  let p : Tag.Place := ⟨true, start⟩
  let context := "while scanning a %TAG directive"
  let (name, s) ← Tag.readHandle p (s.skipWhile isBlank)
  if !s.has 0 isBlank then s.flaw start context "did not find expected whitespace"
  let (first, s) ← Tag.readSuffix p true false [] (s.skipWhile isBlank)
  if !s.parted 0 then s.flaw start context "did not find expected whitespace or line break"
  return (.handle name first, s)

/-- Reads the name of a directive. -/
def directiveName (start s : Spot) : Scanning (List Char × Spot) :=
  let context := "while scanning a directive"
  let name := s.rest.takeWhile isNameChar
  let s := s.skip name.length
  if name.isEmpty then s.flaw start context "could not find expected directive name"
  else if !s.parted 0 then s.flaw start context "found unexpected non-alphabetical character"
  else .ok (name, s)

/-- Reads a directive with its line. -/
def directive (start : Spot) : Scanning (Token × Spot) := do
  let context := "while scanning a directive"
  let (name, s) ← directiveName start (start.skip 1)
  let (t, s) ← if name == "YAML".toList then version start s
    else if name == "TAG".toList then handle start s
    else s.flaw start context "found unknown directive name"
  let s := s.skipWhile isBlank
  let s := if s.at_ '#' then s.skipWhile (fun c => !isBreak c) else s
  if !s.endsLine 0 then s.flaw start context "did not find expected comment or line break"
  return (t, s.nextLine.2)

/-! ## Tokens -/

/-- A directive or the mark of a document: it ends all blocks. -/
def outermost (s : Scan) (read : Spot → Scanning (Token × Spot)) : Scanning Scan := do
  let s ← (s.closeBlocks (-1)).noKey
  let (t, spot) ← read s.spot
  return { s.emit t with spot := spot, keyAllowed := false }

/-- The mark of a document. -/
def documentMark (s : Scan) (t : Token) : Scanning Scan :=
  s.outermost fun spot => .ok (t, spot.skip 3)

/-- A bracket opens. -/
def openBracket (s : Scan) (t : Token) : Scanning Scan :=
  s.mayStart.map fun s =>
    { (s.emit t).skip 1 with key := none, around := s.key :: s.around, keyAllowed := true }

/-- A bracket closes. -/
def closeBracket (s : Scan) (t : Token) : Scanning Scan :=
  s.noKey.map fun s =>
    let s := { (s.emit t).skip 1 with keyAllowed := false }
    match s.around with
    | [] => s
    | k :: ks => { s with key := k, around := ks }

/-- A comma between the items of brackets. -/
def comma (s : Scan) : Scanning Scan :=
  s.noKey.map fun s => { (s.emit .comma).skip 1 with keyAllowed := true }

/-- The mark of an item of a sequence. -/
def item (s : Scan) : Scanning Scan :=
  if !s.inFlow && !s.keyAllowed then
    s.flaw "block sequence entries are not allowed in this context"
  else (s.openBlock s.spot.mark s.tokens.size .blockSequence).noKey.map fun s =>
    { (s.emit .item).skip 1 with keyAllowed := true }

/-- The mark of a key. -/
def keyMark (s : Scan) : Scanning Scan :=
  if !s.inFlow && !s.keyAllowed then
    s.flaw "mapping keys are not allowed in this context"
  else (s.openBlock s.spot.mark s.tokens.size .blockMapping).noKey.map fun s =>
    { (s.emit .key).skip 1 with keyAllowed := !s.inFlow }

/-- The mark of a value. If a key may have started, it has. -/
def valueMark (s : Scan) : Scanning Scan :=
  match s.key with
  | some k =>
      let piece : Piece := ⟨.key, k.spot.mark⟩
      let s := { s with tokens := s.tokens.insertIdxIfInBounds k.count piece, key := none }
      let s := s.openBlock k.spot.mark k.count .blockMapping
      .ok { (s.emit .value).skip 1 with keyAllowed := false }
  | none =>
      if !s.inFlow && !s.keyAllowed then
        s.flaw "mapping values are not allowed in this context"
      else
        let s := s.openBlock s.spot.mark s.tokens.size .blockMapping
        .ok { (s.emit .value).skip 1 with keyAllowed := !s.inFlow }

/-- The name behind the mark of an anchor or an alias. -/
def name (context : String) (start : Spot) : Scanning (List Char × Spot) :=
  let cs := (start.rest.drop 1).takeWhile isNameChar
  let s := start.skip (1 + cs.length)
  if !cs.isEmpty && (s.parted 0 || s.has 0 ("?:,]\x7d%@\x60".toList.contains ·)) then .ok (cs, s)
  else s.flaw start context "did not find expected alphabetic or numeric character"

/-- A token that a key may start with, and behind which none may start. -/
def opening (s : Scan) (read : Spot → Scanning (Token × Spot)) : Scanning Scan := do
  let s ← s.mayStart
  let (t, spot) ← read s.spot
  return { s.emit t with spot := spot, keyAllowed := false }

/-- A quoted scalar. -/
def quoted (s : Scan) (style : Style) : Scanning Scan :=
  s.opening fun p => (readQuoted (style == .double) p).map fun (text, p) => (.scalar text style, p)

/-- A block scalar. -/
def block (s : Scan) (style : Style) : Scanning Scan := do
  let s ← s.noKey
  let (text, spot) ← readBlock (style == .folded) s.indent s.spot
  return { s.emit (.scalar text style) with spot := spot, keyAllowed := true }

/-- A plain scalar. Behind a line break a key may start. -/
def plain (s : Scan) : Scanning Scan := do
  let s ← s.mayStart
  let (text, broken, spot) ← readPlain s.inFlow (s.indent + 1).toNat s.spot
  return { s.emit (.scalar text .plain) with spot := spot, keyAllowed := broken }

/-- Whether a plain scalar can start with a character. -/
def startsPlain (s : Scan) (c : Char) : Bool :=
  !(isBlank c || isBreak c || "-?:,[]\x7b\x7d#&*!|>'\"%@\x60".toList.contains c) ||
    (c == '-' && !s.spot.has 1 isBlank) ||
    (!s.inFlow && (c == '?' || c == ':') && !s.spot.parted 1)

/-- The token that starts with a character. -/
def token (s : Scan) (c : Char) : Scanning Scan :=
  let parted := s.spot.parted 1
  if s.spot.column == 0 && c == '%' then s.outermost directive
  else if s.spot.isMark '-' then s.documentMark .documentStart
  else if s.spot.isMark '.' then s.documentMark .documentEnd
  else match c with
    | '[' => s.openBracket .openSequence
    | '\x7b' => s.openBracket .openMapping
    | ']' => s.closeBracket .closeSequence
    | '\x7d' => s.closeBracket .closeMapping
    | ',' => s.comma
    | '*' => s.opening fun p => (name "while scanning an alias" p).map fun (n, p) => (.alias n, p)
    | '&' => s.opening fun p => (name "while scanning an anchor" p).map fun (n, p) => (.anchor n, p)
    | '!' => s.opening fun p => (Tag.read s.inFlow p).map fun (t, p) => (.tag t, p)
    | '\'' => s.quoted .single
    | '"' => s.quoted .double
    | c =>
        if c == '-' && parted then s.item
        else if c == '?' && (s.inFlow || parted) then s.keyMark
        else if c == ':' && (s.inFlow || parted) then s.valueMark
        else if c == '|' && !s.inFlow then s.block .literal
        else if c == '>' && !s.inFlow then s.block .folded
        else if s.startsPlain c then s.plain
        else
          s.spot.flaw s.spot "while scanning for the next token"
            "found character that cannot start any token"

/-- The end of the text. A line without a break at its end is over there, too. -/
def finish (s : Scan) : Scanning Scan :=
  let spot := if s.spot.column = 0 then s.spot
    else { s.spot with line := s.spot.line + 1, column := 0 }
  ({ s with spot := spot }.closeBlocks (-1)).noKey

/-- The next token, with the ends of blocks in front of it. The result says whether the text is
over. -/
def next (s : Scan) : Scanning (Scan × Bool) := do
  let s ← (toToken (s.spot.rest.length + 1) s).forgetPast
  let s := s.closeBlocks s.spot.column
  match s.spot.rest with
  | [] => return (← s.finish, true)
  | c :: _ => return (← (← s.token c).forgetPast, false)

/-- The tokens that are settled: behind the place at which a key may have started, none are. -/
def settled (s : Scan) : List Piece :=
  let counts := (s.key :: s.around).filterMap fun k => k.map KeyStart.count
  s.tokens.toList.take (counts.foldl min s.tokens.size)

end Scan

/-- What a scan gives: tokens, and the place of the end of the text or the flaw that comes first. -/
structure Scanned where
  pieces : List Piece
  ending : Scanning Mark
deriving Repr

/-- Scans the text to its end, in at most so many turns. -/
def Scan.run : (turns : Nat) → Scan → Scanned
  | 0, s => ⟨s.settled, .ok s.spot.mark⟩
  | n + 1, s =>
      match s.next with
      | .error f => ⟨s.settled, .error f⟩
      | .ok (s, true) => ⟨s.tokens.toList, .ok s.spot.mark⟩
      | .ok (s, false) => run n s

/-- The flaw of a text that has a character which no text may have. -/
def badCharacter? (text : List Char) : Option Flaw :=
  let (before, r) := text.span isAllowed
  if r.isEmpty then none else some (.atByte (byteCount before) "control characters are not allowed")

/-- **The tokens of a text.** Each turn of the scan but the last takes a character or more. -/
def scan (text : List Char) : Scanned :=
  match badCharacter? text with
  | some f => ⟨[], .error f⟩
  | none => Scan.run (text.length + 1) (.start text)

end CommandConsole.Yaml
