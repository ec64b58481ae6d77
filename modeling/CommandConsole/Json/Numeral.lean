import CommandConsole.Json.Flaw
import CommandConsole.Json.Value

/-!
# Numerals of a JSON text

A numeral is read one character at a time into a state that holds what its digits have come to:
a significand of 64 bits and a power of ten. A digit that the significand has no room for is left
out, and raises the power when it stands before the decimal point. At the end the significand is
rounded to a double and scaled by a power of ten that is a double itself, so a long numeral can
come out one step beside the nearest double. A numeral without fraction and exponent that fits a
word stays whole; a negative zero does not.
-/

set_option autoImplicit false

namespace CommandConsole.Json

open Number (Double isDigit digitValue)

/-- What the characters of a numeral have come to. The significand is `n`, the power of ten
`exponent`; behind an exponent mark `down` is its sign and `power` its digits. -/
inductive Numeral where
  | sign
  | zero
  | whole (n : Nat)
  | long (n : Nat) (exponent : Int)
  | point (n : Nat) (exponent : Int)
  | fraction (n : Nat) (exponent : Int)
  | fractionRest (n : Nat) (exponent : Int)
  | mark (n : Nat) (exponent : Int)
  | markSign (n : Nat) (exponent : Int) (down : Bool)
  | power (n : Nat) (exponent : Int) (down : Bool) (power : Nat)
  | vanished
deriving DecidableEq, Repr

namespace Numeral

/-- What one more character does to a numeral. -/
inductive Turn where
  | more (n : Numeral)
  | ends
  | flawed (f : Flaw)
deriving DecidableEq, Repr

/-- The greatest exponent that is read. -/
def maxPower : Nat := Nat.pow 2 31 - 1

/-- A character behind digits that an exponent mark may follow. -/
def markOrEnd (n : Nat) (exponent : Int) (c : Char) : Turn :=
  if c = 'e' ∨ c = 'E' then .more (.mark n exponent) else .ends

/-- A character behind digits that a point or an exponent mark may follow. -/
def pointOrEnd (n : Nat) (exponent : Int) (c : Char) : Turn :=
  if c = '.' then .more (.point n exponent) else markOrEnd n exponent c

/-- A digit of the fraction. -/
def fractionDigit (n : Nat) (exponent : Int) (c : Char) : Turn :=
  let m := 10 * n + digitValue c
  if m ≤ Number.maxWord then .more (.fraction m (exponent - 1))
  else .more (.fractionRest n exponent)

/-- Reads one more character. -/
def turn (s : Numeral) (c : Char) : Turn :=
  match s with
  | .sign =>
      if c = '0' then .more .zero
      else if isDigit c then .more (.whole (digitValue c)) else .flawed .badNumber
  | .zero => if isDigit c then .flawed .badNumber else pointOrEnd 0 0 c
  | .whole n =>
      if isDigit c then
        let m := 10 * n + digitValue c
        if m ≤ Number.maxWord then .more (.whole m) else .more (.long n 1)
      else pointOrEnd n 0 c
  | .long n e => if isDigit c then .more (.long n (e + 1)) else pointOrEnd n e c
  | .point n e => if isDigit c then fractionDigit n e c else .flawed .badNumber
  | .fraction n e => if isDigit c then fractionDigit n e c else markOrEnd n e c
  | .fractionRest n e => if isDigit c then .more (.fractionRest n e) else markOrEnd n e c
  | .mark n e =>
      if c = '+' then .more (.markSign n e false)
      else if c = '-' then .more (.markSign n e true)
      else if isDigit c then .more (.power n e false (digitValue c)) else .flawed .badNumber
  | .markSign n e down =>
      if isDigit c then .more (.power n e down (digitValue c)) else .flawed .badNumber
  | .power n e down p =>
      if isDigit c then
        let q := 10 * p + digitValue c
        if q ≤ maxPower then .more (.power n e down q)
        else if n ≠ 0 ∧ down = false then .flawed .hugeNumber
        else .more .vanished
      else .ends
  | .vanished => if isDigit c then .more .vanished else .ends

/-- A magnitude divided by 10³⁰⁸ a number of times, until nothing is left of it. -/
def shrink : Nat → Double → Double
  | 0, x => x
  | k + 1, x => if x.units = 0 then x else shrink k (x.div (Double.powerOfTen 308))

/-- The double of a significand and a power of ten, unless it is too large for one. -/
def magnitude (n : Nat) (exponent : Int) : Except Flaw Double :=
  let x := Double.ofNat n
  let e := exponent.natAbs
  if 0 ≤ exponent then
    if 308 < e then if n = 0 then .ok x else .error .hugeNumber
    else
      let y := x.mul (Double.powerOfTen e)
      if y.units < Double.beyond then .ok y else .error .hugeNumber
  else
    let k := (e - 1) / 308
    let y := shrink k x
    .ok (if y.units = 0 then y else y.div (Double.powerOfTen (e - 308 * k)))

/-- A number with the sign in front. -/
def signed (negative : Bool) (x : Double) : Json := .float ⟨negative, x.units⟩

/-- A numeral without fraction and exponent. -/
def ofWhole (negative : Bool) (n : Nat) : Json :=
  if !negative then .int n
  else if n = 0 ∨ Number.minInt64Size < n then signed true (Double.ofNat n)
  else .int (-n)

/-- The number that a numeral denotes when it ends here. -/
def value (negative : Bool) : Numeral → Except Flaw Json
  | .sign => .error .endInValue
  | .point _ _ => .error .endInValue
  | .mark _ _ => .error .endInValue
  | .markSign _ _ _ => .error .endInValue
  | .zero => .ok (ofWhole negative 0)
  | .whole n => .ok (ofWhole negative n)
  | .long n e => (magnitude n e).map (signed negative)
  | .fraction n e => (magnitude n e).map (signed negative)
  | .fractionRest n e => (magnitude n e).map (signed negative)
  | .power n e down p => (magnitude n (if down then e - p else e + p)).map (signed negative)
  | .vanished => .ok (signed negative Double.zero)

end Numeral

end CommandConsole.Json
