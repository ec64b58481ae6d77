/-!
# Decimal numerals

Whole numbers as users type them: an optional sign and ASCII digits, leading zeros allowed.
`isInteger` is the form; `readInt64` and `readWord?` give the value where it fits a signed or an
unsigned word of 64 bits and otherwise say what is wrong. The first fault from the left counts:
a numeral that is already too large hides a bad character behind it.
-/

set_option autoImplicit false

namespace CommandConsole.Number

/-- An ASCII digit. -/
def isDigit (c : Char) : Bool := '0' ≤ c && c ≤ '9'

/-- The value of an ASCII digit. -/
def digitValue (c : Char) : Nat := c.toNat - '0'.toNat

/-- The number a run of digits denotes. -/
def ofDigits (ds : List Char) : Nat := ds.foldl (fun n d => 10 * n + digitValue d) 0

/-- A text without its sign. -/
def unsigned : List Char → List Char
  | '-' :: r => r
  | '+' :: r => r
  | cs => cs

/-- An optional sign followed by one digit or more. -/
def isInteger (cs : List Char) : Bool :=
  let ds := unsigned cs
  !ds.isEmpty && ds.all isDigit

/-- The greatest signed and unsigned words, and the least signed one. -/
def maxInt64 : Nat := Nat.pow 2 63 - 1

/-- The size of the least signed word. -/
def minInt64Size : Nat := Nat.pow 2 63

/-- The greatest unsigned word. -/
def maxWord : Nat := Nat.pow 2 64 - 1

/-- What keeps a text from denoting a word. -/
inductive NumeralError where
  | empty
  | badDigit
  | tooLarge
  | tooSmall
deriving DecidableEq, Repr

/-- How the console words a fault in a numeral. -/
def NumeralError.message : NumeralError → String
  | .empty => "cannot parse integer from empty string"
  | .badDigit => "invalid digit found in string"
  | .tooLarge => "number too large to fit in target type"
  | .tooSmall => "number too small to fit in target type"

/-- Reads digits onto a value that may not exceed the limit. -/
def readDigits (limit : Nat) (beyond : NumeralError) : Nat → List Char → Except NumeralError Nat
  | n, [] => .ok n
  | n, c :: r =>
      if isDigit c then
        let m := 10 * n + digitValue c
        if m ≤ limit then readDigits limit beyond m r else .error beyond
      else .error .badDigit

/-- The signed word a text denotes. -/
def readInt64 : List Char → Except NumeralError Int
  | [] => .error .empty
  | ['-'] => .error .badDigit
  | ['+'] => .error .badDigit
  | '-' :: r => (readDigits minInt64Size .tooSmall 0 r).map fun n => -(n : Int)
  | '+' :: r => (readDigits maxInt64 .tooLarge 0 r).map Int.ofNat
  | cs => (readDigits maxInt64 .tooLarge 0 cs).map Int.ofNat

/-- The unsigned word a text denotes; a plus sign may lead. -/
def readWord? : List Char → Option Nat
  | [] => none
  | ['+'] => none
  | '+' :: r => (readDigits maxWord .tooLarge 0 r).toOption
  | cs => (readDigits maxWord .tooLarge 0 cs).toOption

/-- Whether a number is a signed word. -/
def isInt64 (n : Int) : Bool := -(minInt64Size : Int) ≤ n && n ≤ maxInt64

end CommandConsole.Number
