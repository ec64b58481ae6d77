import CommandConsole.Assoc
import CommandConsole.Number.Decimal
import CommandConsole.Number.Shortest

/-!
# JSON values

The values that records, requests and files are made of. A whole number that fits a signed or an
unsigned word of 64 bits stays whole; any other number is a double. The fields of an object are a
map sorted by name: functions that build objects go through `Assoc`.
-/

set_option autoImplicit false

namespace CommandConsole

/-- A JSON value. -/
inductive Json where
  | null
  | bool (b : Bool)
  | int (n : Int)
  | float (x : Number.Double)
  | str (s : String)
  | arr (items : List Json)
  | obj (fields : List (String × Json))
deriving Repr, Inhabited

namespace Json

/-- The fields of an object under construction. -/
abbrev Fields := List (String × Json)

/-- An object with the given fields; of two with one name the later one counts. -/
def object (fields : Fields) : Json := .obj (Assoc.ofList fields)

/-- A whole number. -/
def ofNat (n : Nat) : Json := .int n

mutual

/-- Whether two values are equal. A whole number differs from every double, and zero equals zero
with a sign. -/
def same : Json → Json → Bool
  | .null, .null => true
  | .bool a, .bool b => a == b
  | .int m, .int n => m == n
  | .float x, .float y => x.same y
  | .str s, .str t => s == t
  | .arr xs, .arr ys => sameItems xs ys
  | .obj xs, .obj ys => sameFields xs ys
  | _, _ => false

/-- Whether two lists of values are equal item by item. -/
def sameItems : List Json → List Json → Bool
  | [], [] => true
  | x :: xs, y :: ys => same x y && sameItems xs ys
  | _, _ => false

/-- Whether two maps have the same names with equal values. -/
def sameFields : Fields → Fields → Bool
  | [], [] => true
  | (k, x) :: xs, (l, y) :: ys => k == l && same x y && sameFields xs ys
  | _, _ => false

end

/-- Whether a value is the null. -/
def isNull : Json → Bool
  | .null => true
  | _ => false

/-- The text of a string. -/
def str? : Json → Option String
  | .str s => some s
  | _ => none

/-- The truth value. -/
def bool? : Json → Option Bool
  | .bool b => some b
  | _ => none

/-- The items of a list. -/
def arr? : Json → Option (List Json)
  | .arr items => some items
  | _ => none

/-- The fields of an object. -/
def obj? : Json → Option Fields
  | .obj fields => some fields
  | _ => none

/-- A whole number that is a signed word. -/
def int64? : Json → Option Int
  | .int n => if Number.isInt64 n then some n else none
  | _ => none

/-- The double nearest to a number. -/
def double? : Json → Option Number.Double
  | .int n => some (Number.Double.ofInt n)
  | .float x => some x
  | _ => none

/-- The field of an object. Other values have no fields. -/
def get? (name : String) : Json → Option Json
  | .obj fields => Assoc.find? name fields
  | _ => none

end Json

end CommandConsole
