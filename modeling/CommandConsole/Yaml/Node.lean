import CommandConsole.Yaml.Token

/-!
# Nodes of a YAML document

The tree that the tokens of a text spell. A node that stands for another one names it by the
number of its anchor; which node that is shows only in the whole tree (`Document.target?`).

The functions that put the nodes together call each other in at most so many turns. Two turns for
each token are enough.
-/

set_option autoImplicit false

namespace CommandConsole.Yaml

/-- What can stand in front of a node: the number of its anchor, and a tag. -/
structure Label where
  anchor : Option Nat
  tag : Option (List UInt8)
deriving DecidableEq, Repr

/-- No label. -/
def Label.none : Label := ⟨.none, .none⟩

/-- A node of a document, from its place on. -/
inductive Node where
  | alias (place : Mark) (number : Nat)
  | scalar (place : Mark) (label : Label) (text : String) (style : Style)
  | sequence (place : Mark) (label : Label) (items : List Node)
  | mapping (place : Mark) (label : Label) (entries : List (Node × Node))
deriving Repr

namespace Node

/-- What stands where nothing is written. -/
def empty (place : Mark) (l : Label) : Node := .scalar place l "" .plain

/-- The label of a node. -/
def label : Node → Label
  | .alias _ _ => .none
  | .scalar _ l _ _ => l
  | .sequence _ l _ => l
  | .mapping _ l _ => l

/-- The place of a node. -/
def place : Node → Mark
  | .alias p _ => p
  | .scalar p _ _ _ => p
  | .sequence p _ _ => p
  | .mapping p _ _ => p

mutual

/-- A node and those in it, in the order of the text. -/
def all : Node → List Node
  | .sequence p l items => .sequence p l items :: allItems items
  | .mapping p l entries => .mapping p l entries :: allEntries entries
  | n => [n]

/-- The nodes in items. -/
def allItems : List Node → List Node
  | [] => []
  | n :: ns => all n ++ allItems ns

/-- The nodes in entries. -/
def allEntries : List (Node × Node) → List Node
  | [] => []
  | (k, v) :: es => all k ++ all v ++ allEntries es

end

/-- How many marks of its own a node has in a text: a start and an end when it holds others. -/
def marks : Node → Nat
  | .sequence _ _ _ => 2
  | .mapping _ _ _ => 2
  | _ => 1

end Node

/-! ## Composing -/

/-- The tokens that are left and what comes behind them, the numbers of the anchors so far, and
what the handles of tags stand for. -/
structure Composer where
  pieces : List Piece
  ending : Scanning Mark
  anchors : List (List Char × Nat)
  handles : Handles
deriving Repr

/-- A step of composing, which may find a flaw. -/
abbrev Composing := StateT Composer (Except Flaw)

namespace Composing

/-- The next token, if there is one. -/
def peek : Composing (Option Token) := do
  let c ← get
  match c.pieces with
  | p :: _ => return some p.token
  | [] => do
      let _ ← c.ending
      return none

/-- The place of the next token, or of the end. -/
def place : Composing Mark := do
  let c ← get
  match c.pieces with
  | p :: _ => return p.place
  | [] => c.ending

/-- A flaw here. -/
def flaw {α : Type} (problem : String) : Composing α := do throw (.at_ (← place) problem)

/-- A flaw here, in a part that started at a place. -/
def flawWithin {α : Type} (context : String) (start : Mark) (problem : String) : Composing α := do
  throw (.within context start (← place) problem)

/-- The next token is over. -/
def advance : Composing Unit := modify fun c => { c with pieces := c.pieces.drop 1 }

/-- Goes over a token if it is the next one. -/
def accept (t : Token) : Composing Bool := do
  if (← peek) == some t then
    advance
    return true
  else return false

/-- Whether one of these tokens is next. -/
def isNext (ts : List Token) : Composing Bool := do return (← peek).any ts.contains

/-! ## Labels -/

/-- A new anchor. It is numbered by the names in use; a name can be used again. -/
def newAnchor (name : List Char) : Composing Nat := do
  let c ← get
  let number := c.anchors.length
  let others := c.anchors.filter fun a => a.1 ≠ name
  set { c with anchors := (name, number) :: others }
  return number

/-- The number of an anchor. -/
def anchorOf (place : Mark) (name : List Char) : Composing Nat := do
  match (← get).anchors.find? (·.1 == name) with
  | some a => return a.2
  | none => throw (.at_ place "unknown anchor")

/-- The name of an anchor, if one is next. -/
def anchor? : Composing (Option (List Char)) := do
  match ← peek with
  | some (.anchor name) => do
      advance
      return some name
  | _ => return none

/-- A tag and its place, if one is next. -/
def tag? : Composing (Option (Tag × Mark)) := do
  match ← peek with
  | some (.tag t) => do
      let p ← place
      advance
      return some (t, p)
  | _ => return none

/-- An anchor and a tag, in any order. -/
def labelParts : Composing (Option (List Char) × Option (Tag × Mark)) := do
  match ← anchor? with
  | some name => return (some name, ← tag?)
  | none =>
      let t ← tag?
      if t.isSome then return (← anchor?, t) else return (none, none)

/-- What a tag stands for. -/
def meaningOf (start : Mark) (t : Tag × Mark) : Composing (List UInt8) := do
  match t.1.resolve (← get).handles with
  | some bytes => return bytes
  | none => throw (.within "while parsing a node" start t.2 "found undefined tag handle")

/-- What stands in front of a node. -/
def label (start : Mark) : Composing Label := do
  let (name, t) ← labelParts
  let _ ← peek
  let tag ← t.mapM (meaningOf start)
  let anchor ← name.mapM newAnchor
  return ⟨anchor, tag⟩

/-! ## Nodes -/

/-- A node, or nothing where one of these tokens is next. -/
def nodeUnless (ts : List Token) (node : Composing Node) : Composing Node := do
  if ← isNext ts then return .empty (← place) .none else node

/-- The value of an entry, if there is one. -/
def valueUnless (ts : List Token) (node : Composing Node) : Composing Node := do
  if ← accept .value then nodeUnless ts node else return .empty (← place) .none

/-- Too many turns. -/
def endless {α : Type} : Composing α := flaw "recursion limit exceeded"

mutual

/-- A node. `block` says whether it may be a block, `loose` whether it may be a sequence whose
items are not indented. -/
def node (block loose : Bool) : (turns : Nat) → Composing Node
  | 0 => endless
  | n + 1 => do
      let start ← place
      match ← peek with
      | some (.alias name) => do
          advance
          return .alias start (← anchorOf start name)
      | _ =>
        let l ← label start
        let opened ← place
        match ← peek, block, loose with
        | some .item, _, true => return .sequence start l (← looseItems n)
        | some (.scalar text style), _, _ => do
            advance
            return .scalar start l (String.ofList text) style
        | some .openSequence, _, _ => do
            advance
            return .sequence start l (← flowItems opened true n)
        | some .openMapping, _, _ => do
            advance
            return .mapping start l (← flowEntries opened true n)
        | some .blockSequence, true, _ => do
            advance
            return .sequence start l (← blockItems opened n)
        | some .blockMapping, true, _ => do
            advance
            return .mapping start l (← blockEntries opened n)
        | _, _, _ =>
            if l = .none then
              let what :=
                if block then "while parsing a block node" else "while parsing a flow node"
              flawWithin what start "did not find expected node content"
            else return .empty start l

/-- The items of a block that was opened at a place. -/
def blockItems (opened : Mark) : (turns : Nat) → Composing (List Node)
  | 0 => endless
  | n + 1 => do
      if ← accept .blockEnd then return []
      if !(← accept .item) then
        flawWithin "while parsing a block collection" opened "did not find expected '-' indicator"
      let x ← nodeUnless [.item, .blockEnd] (node true false n)
      return x :: (← blockItems opened n)

/-- The items of a sequence in an entry of a block, indented as its key. -/
def looseItems : (turns : Nat) → Composing (List Node)
  | 0 => endless
  | n + 1 => do
      if !(← accept .item) then return []
      let x ← nodeUnless [.item, .key, .value, .blockEnd] (node true false n)
      return x :: (← looseItems n)

/-- The entries of a block that was opened at a place. -/
def blockEntries (opened : Mark) : (turns : Nat) → Composing (List (Node × Node))
  | 0 => endless
  | n + 1 => do
      if ← accept .blockEnd then return []
      if !(← accept .key) then
        flawWithin "while parsing a block mapping" opened "did not find expected key"
      let ends := [.key, .value, .blockEnd]
      let k ← nodeUnless ends (node true true n)
      let v ← valueUnless ends (node true true n)
      return (k, v) :: (← blockEntries opened n)

/-- The items in brackets that were opened at a place, from the first one or from the comma behind
one. An item can be a single entry. -/
def flowItems (opened : Mark) (first : Bool) : (turns : Nat) → Composing (List Node)
  | 0 => endless
  | n + 1 => do
      if ← accept .closeSequence then return []
      if !first && !(← accept .comma) then
        flawWithin "while parsing a flow sequence" opened "did not find expected ',' or ']'"
      if !first && (← accept .closeSequence) then return []
      let start ← place
      let x ← do
        if ← accept .key then
          let ends := [.comma, .closeSequence]
          let k ← do
            if ← isNext (.value :: ends) then
              let p ← place
              advance
              pure (Node.empty p .none)
            else node false false n
          let v ← valueUnless ends (node false false n)
          pure (Node.mapping start .none [(k, v)])
        else node false false n
      return x :: (← flowItems opened false n)

/-- The entries in braces that were opened at a place, from the first one or from the comma behind
one. An entry without a mark is a key without a value. -/
def flowEntries (opened : Mark) (first : Bool) : (turns : Nat) → Composing (List (Node × Node))
  | 0 => endless
  | n + 1 => do
      if ← accept .closeMapping then return []
      if !first && !(← accept .comma) then
        flawWithin "while parsing a flow mapping" opened "did not find expected ',' or '\x7d'"
      if !first && (← accept .closeMapping) then return []
      let e ← do
        if ← accept .key then
          let ends := [.comma, .closeMapping]
          let k ← nodeUnless (.value :: ends) (node false false n)
          let v ← valueUnless ends (node false false n)
          pure (k, v)
        else do
          let k ← node false false n
          pure (k, Node.empty (← place) .none)
      return e :: (← flowEntries opened false n)

end

/-! ## Directives -/

/-- Takes the directives in front of a document: at most one version, which must be a known one,
and at most one meaning for each handle. The handles that were declared go before those that
always have a meaning. The result says whether there were any. -/
def directives (versioned : Bool) : (declared : Handles) → (turns : Nat) → Composing Bool
  | _, 0 => endless
  | declared, n + 1 => do
      match ← peek with
      | some (.version major minor) => do
          if versioned then flaw "found duplicate %YAML directive"
          if !(major == 1 && (minor == 1 || minor == 2)) then
            flaw "found incompatible YAML document"
          advance
          let _ ← directives true declared n
          return true
      | some (.handle name start) => do
          if declared.any (·.1 == name) then flaw "found duplicate %TAG directive"
          advance
          let _ ← directives versioned (declared ++ [(name, start)]) n
          return true
      | _ => do
          modify fun c => { c with handles := declared ++ Tag.builtIn }
          return false

/-- Whether a document behind its mark is over where this token is next. -/
def endsDocument : Option Token → Bool
  | none => true
  | some (.version _ _) => true
  | some (.handle _ _) => true
  | some .documentStart => true
  | some .documentEnd => true
  | _ => false

/-- The node of a document with its directives, which call for a mark; nothing where there are no
tokens. -/
def root (turns : Nat) : Composing (Option Node) := do
  if (← peek).isNone then return none
  let marked ← directives false [] turns
  if ← accept .documentStart then
    if endsDocument (← peek) then return some (.empty (← place) .none)
    else return some (← node true false turns)
  else if marked then flaw "did not find expected <document start>"
  else return some (← node true false turns)

/-- What follows the node of a document: marks of its end, and nothing else. -/
def behindRoot : Composing Unit := do
  let _ ← peek
  let c ← get
  let rest := c.pieces.dropWhile (·.token == .documentEnd)
  if !rest.isEmpty || !c.ending.isOk then
    throw (.whole
      "deserializing from YAML containing more than one document is not supported")

end Composing

/-! ## Documents -/

/-- A document: its node, or nothing in a text without tokens, and what is wrong behind it. -/
structure Document where
  root : Option Node
  behind : Option Flaw
deriving Repr

namespace Document

/-- The document that a scan gives. There is no second one. -/
def ofScan (s : Scanned) : Scanning Document :=
  let turns := 2 * s.pieces.length + 2
  match (Composing.root turns).run ⟨s.pieces, s.ending, [], []⟩ with
  | .error f => .error f
  | .ok (root, c) =>
      match Composing.behindRoot.run c with
      | .error f => .ok ⟨root, some f⟩
      | .ok _ => .ok ⟨root, none⟩

/-- What was read from a document, unless something is wrong behind it. -/
def unlessBehind {α : Type} (d : Document) (a : α) : Scanning α :=
  match d.behind with
  | none => .ok a
  | some f => .error f

/-- The nodes of a document. -/
def nodes (d : Document) : List Node := (d.root.map Node.all).getD []

/-- The node that an alias stands for: the last one with its number. -/
def target? (d : Document) (number : Nat) : Option Node :=
  d.nodes.reverse.find? fun n => n.label.anchor == some number

/-- The number of marks in the text of a document. -/
def marks (d : Document) : Nat := (d.nodes.map Node.marks).foldr (· + ·) 0

end Document

/-- **The document of a YAML text.** -/
def document (text : String) : Scanning Document := Document.ofScan (scan text.toList)

end CommandConsole.Yaml
