import CommandConsole.Json.Shape
import CommandConsole.Yaml.Node

/-!
# Values of YAML documents

A document stands for a value once its aliases are replaced and its scalars are read. Aliases can
blow a document up, or go around in circles. So the nesting of a value and the number of aliases
that are followed are limited, the latter by the length of the document.

A value becomes a JSON value when the keys of its maps are texts or can be written as such.
-/

set_option autoImplicit false

namespace CommandConsole.Yaml

open Text (bytesOf)

/-- The value of a node. A value with a tag of the document's own is kept with it. -/
inductive Value where
  | null
  | bool (b : Bool)
  | int (n : Int)
  | float (x : Number.Double)
  | unbounded (x : Unbounded)
  | text (s : String)
  | list (items : List Value)
  | map (entries : List (Value × Value))
  | tagged (name : String) (v : Value)
deriving Repr

namespace Value

mutual

/-- Whether two values are equal. The entries of a map have no order. -/
def same : Value → Value → Bool
  | .null, .null => true
  | .bool a, .bool b => a == b
  | .int m, .int n => m == n
  | .float x, .float y => x.same y
  | .unbounded x, .unbounded y => x == y
  | .text s, .text t => s == t
  | .list xs, .list ys => sameItems xs ys
  | .map xs, .map ys => xs.length == ys.length && sameEntries xs ys
  | .tagged s v, .tagged t w => s == t && same v w
  | _, _ => false

/-- Whether two lists of values are equal item by item. -/
def sameItems : List Value → List Value → Bool
  | [], [] => true
  | x :: xs, y :: ys => same x y && sameItems xs ys
  | _, _ => false

/-- Whether each entry is one of the others. -/
def sameEntries : List (Value × Value) → List (Value × Value) → Bool
  | [], _ => true
  | (k, v) :: xs, ys => ys.any (fun e => same k e.1 && same v e.2) && sameEntries xs ys

end

/-- The first key that is equal to one in front of it. -/
def repeated? : (before : List Value) → List Value → Option Value
  | _, [] => none
  | before, k :: ks => if before.any (same · k) then some k else repeated? (k :: before) ks

/-- A key that is there already, in words. -/
def repeatedMessage : Value → String
  | .null => "duplicate entry with null key"
  | .bool b => s!"duplicate entry with key `{b}`"
  | .int n => s!"duplicate entry with key {n}"
  | .float x => s!"duplicate entry with key {x.text}"
  | .unbounded x => s!"duplicate entry with key {x.text}"
  | .text s => s!"duplicate entry with key {Text.literal s}"
  | _ => "duplicate entry in YAML map"

/-- What a scalar of another type stands for, in words. -/
def found : Value → String
  | .null => "unit value"
  | .bool b => Json.Shape.found (.bool b)
  | .int n => Json.Shape.found (.int n)
  | .float x => Json.Shape.found (.float x)
  | .unbounded x => s!"floating point `{x.name}`"
  | .text s => Json.Shape.found (.str s)
  | .list _ => Json.Shape.found (.arr [])
  | .map _ => Json.Shape.found (.obj [])
  | .tagged _ _ => "enum"

/-- A value of the wrong type. -/
def wrongType (found expected : String) : String := s!"invalid type: {found}, expected {expected}"

/-- A whole number that is too large for a word, in words. -/
def hugeMessage (expected : String) (n : Int) : String :=
  let kind := if n < 0 then "i128" else "u128"
  wrongType s!"integer `{n}` as {kind}" expected

/-- The value of a plain scalar, or why there is none where something is expected. -/
def plain (expected : String) (s : String) : Except String Value :=
  match meaning s with
  | .null => .ok .null
  | .bool b => .ok (.bool b)
  | .int n => .ok (.int n)
  | .huge n => .error (hugeMessage expected n)
  | .float x => .ok (.float x)
  | .unbounded x => .ok (.unbounded x)
  | .text => .ok (.text s)

/-- The value of a scalar without a tag. -/
def untagged (expected : String) (s : String) (style : Style) : Except String Value :=
  if style = .plain then plain expected s else .ok (.text s)

end Value

/-! ## Tags -/

namespace Tag

/-- The tag of a core type. -/
def ofCore (name : String) : List UInt8 := bytesOf (core ++ name).toList

/-- Whether a tag starts with a mark. -/
def isOwn (t : List UInt8) : Bool := t.head? == some '!'.toUInt8

/-- The name that a tag of the document's own gives. -/
def ownName? (t : List UInt8) : Option String :=
  if !isOwn t then none
  else Text.ofBytes? (if t.length = 1 then t else t.drop 1)

/-- A name as a key: with one mark in front. -/
def marked (name : String) : String :=
  match name.toList with
  | '!' :: c :: r => String.ofList ('!' :: c :: r)
  | cs => String.ofList ('!' :: cs)

/-- A scalar that is not what its tag says. -/
def mismatch {α : Type} (s type : String) : Except String α :=
  .error s!"invalid value: string {Text.literal s}, expected {type}"

/-- The value of a number, or of a text that should be one. -/
def numberOf (expected s type : String) : Option Meaning → Except String Value
  | some (.int n) => .ok (.int n)
  | some (.huge n) => .error (Value.hugeMessage expected n)
  | some (.float x) => .ok (.float x)
  | some (.unbounded x) => .ok (.unbounded x)
  | _ => mismatch s type

/-- The value of a scalar with a tag that is no name: what the tag of a core type asks for, or else
a text. -/
def core? (expected : String) (t : List UInt8) (s : String) (style : Style) :
    Except String Value :=
  if t = ofCore "bool" then
    match truth? s with
    | some b => .ok (.bool b)
    | none => mismatch s "a boolean"
  else if t = ofCore "int" then
    numberOf expected s "an integer" ((integer? s.toList).bind ofInteger?)
  else if t = ofCore "float" then numberOf expected s "a float" (fraction? s)
  else if t = ofCore "null" then if s ∈ nulls then .ok .null else mismatch s "null"
  else if isOwn t then Value.untagged expected s style
  else .ok (.text s)

/-- The value of a scalar with a tag, which may give it a name. -/
def scalar (expected : String) (t : List UInt8) (s : String) (style : Style) :
    Except String Value :=
  match ownName? t with
  | some name => (Value.untagged expected s style).map (.tagged name)
  | none => core? expected t s style

/-- A list or a map with its tag. -/
def wrap (t : Option (List UInt8)) (v : Value) : Value :=
  match t.bind ownName? with
  | some name => .tagged name v
  | none => v

end Tag

/-! ## Documents -/

namespace Document

/-- The greatest nesting of lists and maps. -/
def maxNesting : Nat := 128

/-- How many aliases may be followed for each mark of a document. -/
def aliasesPerMark : Nat := 100

/-- Reading with a number of aliases that may still be followed. -/
abbrev Reading := StateT Nat (Except Flaw)

/-- A path that a flaw is told with: that of the whole is not told. -/
def toldPath (path message : String) : String :=
  if path.isEmpty then message else s!"{path}: {message}"

/-- What is expected where any value may stand. -/
def anything : String := "any YAML value"

/-- A node, or the one that an alias stands for. -/
def follow (d : Document) : Node → Reading Node
  | .alias place number => do
      match ← get, d.target? number with
      | left + 1, some n => do
          set left
          return n
      | 0, _ => throw (.whole "repetition limit exceeded")
      | _, none => throw (.at_ place "unknown anchor")
  | n => return n

/-- The value of a scalar. -/
def scalarValue (expected : String) (l : Label) (s : String) (style : Style) :
    Except String Value :=
  match l.tag with
  | some t => Tag.scalar expected t s style
  | none => Value.untagged expected s style

/-- The path of an item. -/
def itemPath (path : String) (n : Nat) : String :=
  (if path.isEmpty then "." else path) ++ s!"[{n}]"

/-- The path of the value of a key. -/
def entryPath (path : String) (key : Node) : String :=
  let parent := if path.isEmpty then "" else path ++ "."
  match key with
  | .scalar _ _ s _ => parent ++ s
  | _ => parent ++ "?"

/-- The value of a node that may hold nodes so many levels deep. -/
def valueOf (d : Document) : (depth : Nat) → (path : String) → Node → Reading Value
  | 0, path, n => do
      match ← d.follow n with
      | .scalar place l s style =>
          match scalarValue anything l s style with
          | .ok v => return v
          | .error e => throw (.at_ place (toldPath path e))
      | n => throw (.at_ n.place "recursion limit exceeded")
  | depth + 1, path, n => do
      match ← d.follow n with
      | .alias place _ => throw (.at_ place "unknown anchor")
      | .scalar place l s style =>
          match scalarValue anything l s style with
          | .ok v => return v
          | .error e => throw (.at_ place (toldPath path e))
      | .sequence _ l items => do
          let vs ← items.zipIdx.mapM fun (x, i) => valueOf d depth (itemPath path i) x
          return Tag.wrap l.tag (.list vs)
      | .mapping place l entries => do
          let es ← entries.mapM fun e => do
            let k ← valueOf d depth path e.1
            let v ← valueOf d depth (entryPath path e.1) e.2
            return (k, v)
          match Value.repeated? [] (es.map Prod.fst) with
          | none => return Tag.wrap l.tag (.map es)
          | some k => throw (.at_ place (toldPath path k.repeatedMessage))

/-- **The value of a document.** -/
def value (d : Document) : Scanning Value :=
  match d.root with
  | none => d.unlessBehind .null
  | some n =>
      ((d.valueOf maxNesting "" n).run (aliasesPerMark * d.marks)).bind fun r =>
        d.unlessBehind r.1

end Document

/-! ## JSON values -/

namespace Value

/-- The name that a key becomes. -/
def fieldName : Value → Except String String
  | .text s => .ok s
  | .int n => .ok (toString n)
  | .float x => .ok x.text
  | .bool b => .ok (if b then "true" else "false")
  | .unbounded _ => .error "float key must be finite (got NaN or +/-inf)"
  | _ => .error "key must be a string"

mutual

/-- The JSON value of a value. A number that is not finite is null, and a tag is the name of an
only field. -/
def toJson : Value → Except String Json
  | .null => .ok .null
  | .bool b => .ok (.bool b)
  | .int n => .ok (.int n)
  | .float x => .ok (.float x)
  | .unbounded _ => .ok .null
  | .text s => .ok (.str s)
  | .list items => (itemsToJson items).map .arr
  | .map entries => (fieldsOfEntries [] entries).map .obj
  | .tagged name v => (toJson v).map fun w => .obj [(Tag.marked name, w)]

/-- The JSON values of items. -/
def itemsToJson : List Value → Except String (List Json)
  | [] => .ok []
  | v :: vs => do
      let w ← toJson v
      let ws ← itemsToJson vs
      return w :: ws

/-- The fields of entries put to those before. -/
def fieldsOfEntries (fields : Json.Fields) : List (Value × Value) → Except String Json.Fields
  | [] => .ok fields
  | (k, v) :: es => do
      let name ← fieldName k
      let w ← toJson v
      fieldsOfEntries (Assoc.insert name w fields) es

end

end Value

end CommandConsole.Yaml
