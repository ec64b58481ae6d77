import CommandConsole.Json.Value
import CommandConsole.Text.Literal

/-!
# Shapes of JSON values

Requests, views and alias records come in as JSON values. A shape reads a value into a typed one
or says what it found and what it expected. A record is an object, or a list of its fields in the
order of their declaration. The given fields of an object are looked at in the order of their
names, and what is missing is noticed afterwards.
-/

set_option autoImplicit false

namespace CommandConsole.Json

/-- Reads a value, or says what is wrong with it. -/
abbrev Shape (α : Type) := Json → Except String α

namespace Shape

/-- What a value is, in words. -/
def found : Json → String
  | .null => "null"
  | .bool b => s!"boolean `{b}`"
  | .int n => s!"integer `{n}`"
  | .float x => s!"floating point `{x.text}`"
  | .str s => s!"string {Text.literal s}"
  | .arr _ => "sequence"
  | .obj _ => "map"

/-- A value of the wrong kind. -/
def wrongType (v : Json) (expected : String) : String :=
  s!"invalid type: {found v}, expected {expected}"

/-- A number out of range. -/
def wrongValue (n : Int) (expected : String) : String :=
  s!"invalid value: integer `{n}`, expected {expected}"

/-- A list of the wrong length. -/
def wrongLength (n : Nat) (expected : String) : String :=
  s!"invalid length {n}, expected {expected}"

/-- A list with items that nothing asks for. -/
def tooLong (n : Nat) : String := wrongLength n "fewer elements in array"

/-- A field that has to be there. -/
def missing (name : String) : String := s!"missing field `{name}`"

/-- Any value. -/
def any : Shape Json := .ok

/-- A string. -/
def string : Shape String
  | .str s => .ok s
  | v => .error (wrongType v "a string")

/-- A whole number that is a signed word. -/
def int64 : Shape Int
  | .int n => if Number.isInt64 n then .ok n else .error (wrongValue n "i64")
  | v => .error (wrongType v "i64")

/-- A whole number that is an unsigned word. -/
def word : Shape Nat
  | .int n => if 0 ≤ n then .ok n.toNat else .error (wrongValue n "usize")
  | v => .error (wrongType v "usize")

/-- A truth value. -/
def bool : Shape Bool
  | .bool b => .ok b
  | v => .error (wrongType v "a boolean")

/-- The path of a file. -/
def path : Shape String
  | .str s => .ok s
  | v => .error (wrongType v "path string")

/-- A value or null. -/
def optional {α : Type} (shape : Shape α) : Shape (Option α)
  | .null => .ok none
  | v => (shape v).map some

/-- A list of values of one shape. -/
def listOf {α : Type} (shape : Shape α) : Shape (List α)
  | .arr items => items.mapM shape
  | v => .error (wrongType v "a sequence")

/-- An object with any fields. -/
def map : Shape Fields
  | .obj fields => .ok fields
  | v => .error (wrongType v "a map")

/-- A list of two values. -/
def pair {α β : Type} (first : Shape α) (second : Shape β) : Shape (α × β)
  | .arr [] => .error (wrongLength 0 "a tuple of size 2")
  | .arr [v] => do
      let _ ← first v
      .error (wrongLength 1 "a tuple of size 2")
  | .arr (v :: w :: rest) => do
      let a ← first v
      let b ← second w
      if rest.isEmpty then .ok (a, b) else .error (tooLong (rest.length + 2))
  | v => .error (wrongType v "a tuple of size 2")

/-! ## Records -/

/-- A field of a record: its name, whether it may be left out, and what its value must be. -/
structure Field where
  name : String
  optional : Bool
  check : Json → Except String Unit

/-- A field that must be there. -/
def Field.required {α : Type} (name : String) (shape : Shape α) : Field :=
  ⟨name, false, fun v => (shape v).map fun _ => ()⟩

/-- A field that may be left out. -/
def Field.defaulted {α : Type} (name : String) (shape : Shape α) : Field :=
  ⟨name, true, fun v => (shape v).map fun _ => ()⟩

/-- The given fields of an object, when each is as it must be. Unknown fields do no harm. -/
def named (fields : List Field) : Fields → Except String Fields
  | [] => .ok []
  | (k, v) :: r =>
      match fields.find? (·.name == k) with
      | none => named fields r
      | some f => do
          f.check v
          let rest ← named fields r
          .ok ((k, v) :: rest)

/-- The fields that the items of a list give, in order. -/
def positional (title : String) (total : Nat) :
    List Field → (at_ : Nat) → List Json → Except String Fields
  | [], _, [] => .ok []
  | [], n, r => .error (tooLong (n + r.length))
  | f :: fs, n, [] =>
      if f.optional then positional title total fs (n + 1) []
      else .error (wrongLength n s!"struct {title} with {total} elements")
  | f :: fs, n, v :: vs => do
      f.check v
      let rest ← positional title total fs (n + 1) vs
      .ok ((f.name, v) :: rest)

/-- The given fields of a record. -/
def record (title : String) (fields : List Field) : Shape Fields
  | .obj given => named fields given
  | .arr items => positional title fields.length fields 0 items
  | v => .error (wrongType v s!"struct {title}")

/-- The value of a field that must be there. -/
def field {α : Type} (given : Fields) (name : String) (shape : Shape α) : Except String α :=
  match Assoc.find? name given with
  | some v => shape v
  | none => .error (missing name)

/-- The value of a field that may be left out. -/
def fieldOr {α : Type} (given : Fields) (name : String) (shape : Shape α) (otherwise : α) :
    Except String α :=
  match Assoc.find? name given with
  | some v => shape v
  | none => .ok otherwise

end Shape

end CommandConsole.Json
