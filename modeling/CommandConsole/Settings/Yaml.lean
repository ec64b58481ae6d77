import CommandConsole.Settings.Json
import CommandConsole.Yaml.Value

/-!
# Settings in YAML

Settings are a map, or nothing at all. A text may be written in any way, also one that looks like
a number; a number and a truth value have to be written plainly. A setting without a value is as
if it were not given, where there is no other sense in that.
-/

set_option autoImplicit false

namespace CommandConsole.Settings

open CommandConsole.Yaml (Document Flaw Label Mark Node Scanning Style Tag Value)

/-- A node, or the one that an alias stands for. -/
def standsFor (d : Document) : Node → Node
  | .alias place number => (d.target? number).getD (.alias place number)
  | n => n

/-- A flaw of a node, told with the setting that it is about. -/
def flawOf {α : Type} (path : String) (n : Node) (message : String) : Scanning α :=
  .error (.at_ n.place (Document.toldPath path message))

/-- What a node stands for where something else is expected, in words. -/
def wrongNode (expected : String) : Node → String
  | .scalar _ l s style =>
      match Document.scalarValue expected l s style with
      | .ok v => Value.wrongType v.found expected
      | .error e => e
  | .sequence _ _ _ => Value.wrongType (Value.list []).found expected
  | _ => Value.wrongType (Value.map []).found expected

/-- The text of a scalar. -/
def textIn (path expected : String) (n : Node) : Scanning String :=
  match n with
  | .scalar _ _ s _ => .ok s
  | n => flawOf path n (wrongNode expected n)

/-- Whether a scalar stands for nothing. One with the tag of nothing has to. -/
def isNothing (l : Label) (s : String) (style : Style) : Except String Bool :=
  if style ≠ .plain then .ok false
  else match l.tag with
    | none => .ok (s.isEmpty || s ∈ Yaml.nulls)
    | some t =>
        if t = Tag.ofCore "null" then if s ∈ Yaml.nulls then .ok true else Tag.mismatch s "null"
        else .ok false

/-- The text of a scalar, or nothing. -/
def optionalTextIn (path expected : String) (n : Node) : Scanning (Option String) :=
  match n with
  | .scalar _ l s style =>
      match isNothing l s style with
      | .ok nothing => .ok (if nothing then none else some s)
      | .error e => flawOf path n e
  | n => flawOf path n (wrongNode expected n)

/-- The text of a scalar that is written plainly, or as a block with the tag of a core type. -/
def literalIn (type : String) : Node → Option String
  | .scalar _ l s style =>
      if style = .plain ∨ (style = .literal ∧ l.tag = some (Tag.ofCore type)) then some s else none
  | _ => none

/-- The settings with one set from a node. -/
def Field.putNode (f : Field) (n : Node) (s : Settings) : Scanning Settings :=
  match f with
  | .backend => (optionalTextIn f.name "a string" n).map fun x => { s with backend := x }
  | .aliasFile => (optionalTextIn f.name "path string" n).map fun x => { s with aliasFile := x }
  | .aliasDepth =>
      match (literalIn "int" n).bind fun t => Yaml.word? t.toList with
      | some k => .ok { s with aliasDepth := k }
      | none => flawOf f.name n (wrongNode "usize" n)
  | .banner =>
      match (literalIn "bool" n).bind Yaml.truth? with
      | some b => .ok { s with banner := b }
      | none => flawOf f.name n (wrongNode "a boolean" n)

/-- Reads the entries of a map that starts at a place. -/
def readEntries (d : Document) (place : Mark) :
    (given : List Field) → Settings → List (Node × Node) → Scanning Settings
  | _, s, [] => .ok s
  | given, s, (k, v) :: es => do
      let key := standsFor d k
      let name ← textIn "" "field identifier" key
      match Field.ofName? name with
      | none => flawOf "" key (unknownField name)
      | some f =>
          if f ∈ given then .error (.at_ place (duplicateField name))
          readEntries d place (f :: given) (← f.putNode (standsFor d v) s) es

/-- The settings in a node. -/
def ofNode (d : Document) (n : Node) : Scanning Settings :=
  match n with
  | .mapping place _ entries => readEntries d place [] .default entries
  | .scalar _ _ "" .plain => .ok .default
  | n => flawOf "" n (wrongNode "struct ConsoleConfig" n)

/-- **The settings in a YAML text.** -/
def ofYaml (text : String) : Scanning Settings := do
  let d ← Yaml.document text
  match d.root with
  | none => d.unlessBehind .default
  | some n => d.unlessBehind (← ofNode d n)

end CommandConsole.Settings
