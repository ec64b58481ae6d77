import CommandConsole.Number.Decimal

/-!
# Numbers in any base

Digits in a base up to 36: the ten figures and then the letters, small or capital.
-/

set_option autoImplicit false

namespace CommandConsole.Number

/-- The value of a digit in a base. -/
def digitIn? (base : Nat) (c : Char) : Option Nat :=
  let v := if isDigit c then digitValue c
    else if 'a' ≤ c ∧ c ≤ 'z' then c.toNat - 'a'.toNat + 10
    else if 'A' ≤ c ∧ c ≤ 'Z' then c.toNat - 'A'.toNat + 10
    else base
  if v < base then some v else none

/-- Reads digits onto a number. -/
def digitsOnto (base : Nat) : Nat → List Char → Option Nat
  | n, [] => some n
  | n, c :: r => (digitIn? base c).bind fun d => digitsOnto base (n * base + d) r

/-- The number that one digit or more denote. -/
def natural? (base : Nat) (cs : List Char) : Option Nat :=
  if cs.isEmpty then none else digitsOnto base 0 cs

end CommandConsole.Number
