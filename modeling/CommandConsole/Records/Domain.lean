import CommandConsole.Json.Writer
import CommandConsole.Text.LetterCase

/-!
# Search domains

A domain is a list of terms `[field, operator, value]`, all of which a record has to meet. A field
that a record does not have counts as false, and `id` is the number of the record. Equality tells
whole numbers from doubles; the order of numbers does not, and that of texts is the order of
their characters. An operator that nobody knows is met by no record.
-/

set_option autoImplicit false

namespace CommandConsole.Records

open Text

/-- One term of a domain. -/
structure Condition where
  field : String
  operator : String
  value : Json
deriving Repr

namespace Condition

/-- The conditions of a list of terms. The conjunction between terms is understood and may be
written. -/
def ofTerms : List Json → Except String (List Condition)
  | [] => .ok []
  | .str "&" :: r => ofTerms r
  | .arr [.str field, .str operator, value] :: r =>
      (ofTerms r).map (⟨field, operator, value⟩ :: ·)
  | v :: _ => .error s!"invalid domain term: {v.text}"

/-- The conditions of a domain. -/
def ofJson : Json → Except String (List Condition)
  | .arr terms => ofTerms terms
  | _ => .error "domain must be a list"

/-- Whether a text has another one in it. -/
def occursIn (needle : List Char) : List Char → Bool
  | [] => needle.isEmpty
  | c :: r => needle.isPrefixOf (c :: r) || occursIn needle r

/-- Whether a text has another one in it, both as they are or both in small letters. -/
def isLike (fold : List Char → List Char) : Json → Json → Bool
  | .str hay, .str needle => occursIn (fold needle.toList) (fold hay.toList)
  | _, _ => false

/-- The order of two numbers or of two texts. Other values have none. -/
def order? : Json → Json → Option Ordering
  | .str s, .str t => some (if s < t then .lt else if s = t then .eq else .gt)
  | v, w =>
      match v.double?, w.double? with
      | some x, some y => some (compare x.value y.value)
      | _, _ => none

/-- Whether the order of two values is one that a comparison asks for. -/
def ordered (asked : Ordering → Bool) (v w : Json) : Bool := (order? v w).any asked

/-- Whether a list has an item equal to a value. -/
def isAmong (v : Json) (items : List Json) : Bool := items.any fun w => v.same w

/-- Whether a value meets an operator and the value of a term. -/
def compares (operator : String) (actual value : Json) : Bool :=
  match operator with
  | "=" => actual.same value
  | "==" => actual.same value
  | "!=" => !actual.same value
  | "like" => isLike id actual value
  | "ilike" => isLike toLower actual value
  | "in" => value.arr?.any fun items => isAmong actual items
  | "not in" => value.arr?.any fun items => !isAmong actual items
  | "<" => ordered (· == .lt) actual value
  | "<=" => ordered (· != .gt) actual value
  | ">" => ordered (· == .gt) actual value
  | ">=" => ordered (· != .lt) actual value
  | _ => false

/-- Whether a record meets a term. -/
def meets (c : Condition) (id : Nat) (record : Json.Fields) : Bool :=
  compares c.operator
    (if c.field = "id" then .ofNat id else (Assoc.find? c.field record).getD (.bool false)) c.value

end Condition

end CommandConsole.Records
