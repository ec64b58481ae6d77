/-!
# Double precision numbers

A finite number of the binary format with 53 significant bits, held exactly: its sign and its
magnitude as a multiple of the least positive one, 2⁻¹⁰⁷⁴. An operation finds the exact ratio and
rounds it once, to the nearest magnitude of the format and a tie to the even one. Nothing here is
infinite; a magnitude from `beyond` on is for the caller to refuse.
-/

set_option autoImplicit false

namespace CommandConsole.Number

/-- The whole number nearest to a ratio; of two equally near ones the even one. -/
def roundDiv (n d : Nat) : Nat :=
  let q := n / d
  let twice := 2 * (n % d)
  if d < twice ∨ (twice = d ∧ q % 2 = 1) then q + 1 else q

/-- A finite number of the format: its sign and its magnitude in multiples of 2⁻¹⁰⁷⁴. -/
structure Double where
  negative : Bool
  units : Nat
deriving DecidableEq, Repr

namespace Double

/-- The magnitude of one. -/
def one : Nat := Nat.pow 2 1074

/-- The least magnitude that is too large for the format. -/
def beyond : Nat := Nat.pow 2 1024 * one

/-- The distance of the magnitudes of the format around a magnitude. -/
def spacing (units : Nat) : Nat := Nat.pow 2 (units.log2 - 52)

/-- The magnitude of the format nearest to a ratio. -/
def nearest (n d : Nat) : Nat :=
  let gap := spacing (n / d)
  roundDiv n (d * gap) * gap

/-- Zero, without a sign. -/
def zero : Double := ⟨false, 0⟩

/-- The number nearest to a natural number. -/
def ofNat (n : Nat) : Double := ⟨false, nearest (n * one) 1⟩

/-- The number nearest to a whole number. -/
def ofInt (n : Int) : Double := { ofNat n.natAbs with negative := n < 0 }

/-- The number nearest to a power of ten. -/
def powerOfTen (e : Nat) : Double := ofNat (Nat.pow 10 e)

/-- The number nearest to a product. -/
def mul (x y : Double) : Double := ⟨x.negative != y.negative, nearest (x.units * y.units) one⟩

/-- The number nearest to a quotient. -/
def div (x y : Double) : Double := ⟨x.negative != y.negative, nearest (x.units * one) y.units⟩

/-- The value in multiples of 2⁻¹⁰⁷⁴. -/
def value (x : Double) : Int := if x.negative then -(x.units : Int) else x.units

/-- Whether two numbers have one value: zero equals zero with a sign. -/
def same (x y : Double) : Bool := x.value == y.value

end Double

end CommandConsole.Number
