import CommandConsole.Number.Double
import CommandConsole.Number.Radix

/-!
# Plain scalars

What a scalar without quotes stands for: nothing, a truth value, a number, or else its text. A run
of digits that starts with a zero is a text, and so is a number too large for a double. Whole
numbers may be written in base 2, 8 or 16.
-/

set_option autoImplicit false

namespace CommandConsole.Yaml

open Number (Double isDigit natural?)

/-- The numbers that are not finite: beyond all others, below all others, or none at all. -/
inductive Unbounded where
  | above
  | below
  | undefined
deriving DecidableEq, Repr

/-- The name of a number that is not finite among numbers. -/
def Unbounded.name : Unbounded → String
  | .above => "inf"
  | .below => "-inf"
  | .undefined => "NaN"

/-- How a number that is not finite is written. -/
def Unbounded.text : Unbounded → String
  | .above => ".inf"
  | .below => "-.inf"
  | .undefined => ".nan"

/-- What a plain scalar stands for. A whole number beyond the words of 64 bits is `huge`. -/
inductive Meaning where
  | null
  | bool (b : Bool)
  | int (n : Int)
  | huge (n : Int)
  | float (x : Double)
  | unbounded (x : Unbounded)
  | text
deriving DecidableEq, Repr

/-- Whether a text is a run of digits that starts with a zero and has more of them. -/
def isPadded (cs : List Char) : Bool :=
  match Number.unsigned cs with
  | '0' :: c :: r => (c :: r).all isDigit
  | _ => false

/-- The base that a numeral names, and its digits. -/
def based? : List Char → Option (Nat × List Char)
  | '0' :: 'x' :: r => some (16, r)
  | '0' :: 'o' :: r => some (8, r)
  | '0' :: 'b' :: r => some (2, r)
  | _ => none

/-- The whole number of an unsigned numeral. -/
def magnitude? (padded : Bool) (cs : List Char) : Option Nat :=
  match based? cs with
  | some (base, ds) => natural? base ds
  | none => if padded then none else natural? 10 cs

/-- The whole number that a text denotes. -/
def integer? (cs : List Char) : Option Int :=
  let padded := isPadded cs
  match cs with
  | '-' :: r => (magnitude? padded r).map fun n => -(n : Int)
  | '+' :: r => (magnitude? padded r).map Int.ofNat
  | _ => (magnitude? padded cs).map Int.ofNat

/-- The number that a text without a minus sign denotes, unless it is too large for a word. -/
def word? (cs : List Char) : Option Nat :=
  let digits := match cs with
    | '+' :: r => r
    | cs => cs
  (magnitude? (isPadded cs) digits).filter (· ≤ Number.maxWord)

/-- The meaning of a whole number, by its size. -/
def ofInteger? (n : Int) : Option Meaning :=
  if -(Nat.pow 2 63 : Int) ≤ n ∧ n < Nat.pow 2 64 then some (.int n)
  else if -(Nat.pow 2 127 : Int) ≤ n ∧ n < Nat.pow 2 128 then some (.huge n)
  else none

/-- The nearest double to a decimal, if it is not too large for one. -/
def nearestDouble? (negative : Bool) (n : Nat) (exponent : Int) : Option Double :=
  let size := ((Nat.toDigits 10 n).length : Int) + exponent
  if n = 0 ∨ size < -400 then some ⟨negative, 0⟩
  else if 400 < size then none
  else
    let e := exponent.natAbs
    let units := if 0 ≤ exponent then Double.nearest (n * Nat.pow 10 e * Double.one) 1
      else Double.nearest (n * Double.one) (Nat.pow 10 e)
    if units < Double.beyond then some ⟨negative, units⟩ else none

/-- The power of ten behind the digits of a decimal. -/
def power? : List Char → Option Int
  | [] => some 0
  | c :: r =>
      if c = 'e' ∨ c = 'E' then
        match r with
        | '-' :: ds => (natural? 10 ds).map fun n => -(n : Int)
        | '+' :: ds => (natural? 10 ds).map Int.ofNat
        | ds => (natural? 10 ds).map Int.ofNat
      else none

/-- The double that an unsigned decimal denotes. -/
def decimal? (negative : Bool) (cs : List Char) : Option Double :=
  let (whole, r) := cs.span isDigit
  let (fraction, r) := match r with
    | '.' :: r => r.span isDigit
    | r => ([], r)
  if whole.isEmpty && fraction.isEmpty then none
  else (power? r).bind fun e =>
    nearestDouble? negative (Number.ofDigits (whole ++ fraction)) (e - fraction.length)

/-- The double that a text denotes. -/
def float? (cs : List Char) : Option Double :=
  match cs with
  | '-' :: r => decimal? true r
  | '+' :: r => decimal? false r
  | _ => decimal? false cs

/-- The number that is not finite and that a text denotes. -/
def unbounded? (s : String) : Option Unbounded :=
  if s ∈ [".inf", ".Inf", ".INF", "+.inf", "+.Inf", "+.INF"] then some .above
  else if s ∈ ["-.inf", "-.Inf", "-.INF"] then some .below
  else if s ∈ [".nan", ".NaN", ".NAN"] then some .undefined
  else none

/-- The number, whole or not, that a text denotes when read as a fraction. -/
def fraction? (s : String) : Option Meaning :=
  match unbounded? s with
  | some x => some (.unbounded x)
  | none => (float? s.toList).map .float

/-- The words that stand for nothing. -/
def nulls : List String := ["null", "Null", "NULL", "~"]

/-- The truth value that a text denotes. -/
def truth? (s : String) : Option Bool :=
  if s ∈ ["true", "True", "TRUE"] then some true
  else if s ∈ ["false", "False", "FALSE"] then some false
  else none

/-- The number that a text denotes. -/
def number? (s : String) : Option Meaning :=
  match (integer? s.toList).bind ofInteger? with
  | some m => some m
  | none =>
      if isPadded s.toList then none else fraction? s

/-- **What a plain scalar stands for.** -/
def meaning (s : String) : Meaning :=
  if s.isEmpty || s ∈ nulls then .null
  else match truth? s with
    | some b => .bool b
    | none => (number? s).getD .text

end CommandConsole.Yaml
