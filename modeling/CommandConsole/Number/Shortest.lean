import CommandConsole.Number.Double

/-!
# The fewest digits that read back

A double is written with the fewest decimal digits that round to it, the nearest of those, and a
tie goes to the even last digit. `shortest` looks at the grids of 1, 2, … 17 digits in turn: the
first grid with a point in the interval of the reals that round to the number gives the digits.
All of it is exact arithmetic, because 10¹⁰⁷⁴ times a double is a natural number.

`Double.text` is the form of JSON: positional from 10⁻⁵ up to 10¹⁶, with a fraction digit at
least, and otherwise with an exponent.
-/

set_option autoImplicit false

namespace CommandConsole.Number

/-- A number 0.d₁d₂… × 10 ^ `point`. -/
structure Digits where
  digits : List Char
  point : Int
deriving DecidableEq, Repr

namespace Double

/-- Twice the distances from a number to the ends of the interval of the reals that round to
it, in quarters of its spacing: below a power of two the numbers are twice as dense. -/
def margins (units : Nat) : Nat × Nat :=
  let gap := spacing units
  (if units = Nat.pow 2 52 * gap ∧ 1 < gap then gap else 2 * gap, 2 * gap)

/-- 10¹⁰⁷⁴ times a magnitude. -/
def scaled (units : Nat) : Nat := units * Nat.pow 5 1074

/-- Whether a scaled point rounds to the number. The ends of the interval do when the last bit
of the number is even. -/
def roundsTo (units point : Nat) : Bool :=
  let low := Nat.pow 5 1074 * (4 * units - (margins units).1)
  let high := Nat.pow 5 1074 * (4 * units + (margins units).2)
  if units / spacing units % 2 = 0 then low ≤ 4 * point && 4 * point ≤ high
  else low < 4 * point && 4 * point < high

/-- The point of a grid that reads back as the number, if the grid has one: of its two neighbours
the nearer, and the even one of two at the same distance. -/
def onGrid? (units grid : Nat) : Option Nat :=
  let n := scaled units / grid
  let below := roundsTo units (n * grid)
  let above := roundsTo units ((n + 1) * grid)
  if below && above then some (roundDiv (scaled units) grid)
  else if below then some n
  else if above then some (n + 1)
  else none

/-- The digits of a number, without the zeros it ends with. -/
def significant (n : Nat) : List Char :=
  ((Nat.toDigits 10 n).reverse.dropWhile (· == '0')).reverse

/-- The fewest digits of a magnitude that is not zero, from a number of them on. -/
def digitsFrom (units width : Nat) : (left count : Nat) → Digits
  | 0, count =>
      ⟨Nat.toDigits 10 (scaled units / Nat.pow 10 (width - count)), (width : Int) - 1074⟩
  | left + 1, count =>
      match onGrid? units (Nat.pow 10 (width - count)) with
      | some n =>
          ⟨significant n, ((Nat.toDigits 10 n).length : Int) + (width : Int) - count - 1074⟩
      | none => digitsFrom units width left (count + 1)

/-- The fewest digits that read back, the nearest of those. -/
def shortest (units : Nat) : Digits :=
  if units = 0 then ⟨['0'], 1⟩
  else digitsFrom units (Nat.toDigits 10 (scaled units)).length 17 1

/-- Digits with the point in its place; a fraction digit at least. -/
def positional (d : Digits) : List Char :=
  if d.point ≤ 0 then ['0', '.'] ++ List.replicate d.point.natAbs '0' ++ d.digits
  else
    let whole := d.point.toNat
    if d.digits.length ≤ whole then
      d.digits ++ List.replicate (whole - d.digits.length) '0' ++ ['.', '0']
    else d.digits.take whole ++ '.' :: d.digits.drop whole

/-- Digits with the point behind the first one and a power of ten. -/
def scientific (d : Digits) : List Char :=
  let e := d.point - 1
  let mantissa := match d.digits with
    | [] => []
    | [c] => [c]
    | c :: r => c :: '.' :: r
  mantissa ++ ['e', if e < 0 then '-' else '+'] ++ Nat.toDigits 10 e.natAbs

/-- A minus sign where one is due. -/
def signed (x : Double) (cs : List Char) : List Char := if x.negative then '-' :: cs else cs

/-- **The text of a number in JSON.** -/
def text (x : Double) : String :=
  let d := shortest x.units
  String.ofList (x.signed (if -4 ≤ d.point ∧ d.point ≤ 16 then positional d else scientific d))

end Double

end CommandConsole.Number
