/-!
# Punycode

A label with characters that are not ASCII is written with letters and digits: first the ASCII
characters, then, for each other character in the order of the code points, how far it is to it in
code points and places. The numbers have digits of base 36 whose thresholds follow their size.
-/

set_option autoImplicit false

namespace CommandConsole.Web.Punycode

/-- The letter or digit of a value. -/
def digit (d : Nat) : Char := if d < 26 then Char.ofNat (0x61 + d) else Char.ofNat (0x30 + d - 26)

/-- The value of a letter or a digit. -/
def value? (c : Char) : Option Nat :=
  if 'a' ≤ c ∧ c ≤ 'z' then some (c.toNat - 'a'.toNat)
  else if 'A' ≤ c ∧ c ≤ 'Z' then some (c.toNat - 'A'.toNat)
  else if '0' ≤ c ∧ c ≤ '9' then some (c.toNat - '0'.toNat + 26)
  else none

/-- The threshold of the digit at a place. -/
def threshold (k bias : Nat) : Nat := max 1 (min 26 (k - bias))

/-- A distance divided until it is small, and the places that takes. -/
def shrink (d k : Nat) : Nat :=
  if 455 < d then shrink (d / 35) (k + 36) else k + 36 * d / (d + 38)
termination_by d
decreasing_by exact Nat.div_lt_self (by omega) (by omega)

/-- The bias behind a distance. `count` is the number of characters so far. -/
def adapt (distance count : Nat) (first : Bool) : Nat :=
  let d := if first then distance / 700 else distance / 2
  shrink (d + d / count) 0

/-! ## Encoding -/

/-- The digits of a distance. -/
def digits (bias k q : Nat) : List Char :=
  let t := threshold k bias
  if q < t then [digit q]
  else digit (t + (q - t) % (36 - t)) :: digits bias (k + 36) ((q - t) / (36 - t))
termination_by q
decreasing_by
  have h : 1 ≤ threshold k bias := Nat.le_max_left _ _
  exact Nat.lt_of_le_of_lt (Nat.div_le_self _ _) (by omega)

/-- What is known while a label is encoded: the distance since the last character that was
written, the bias, the number of characters so far, and the digits. -/
structure Encoder where
  distance : Nat
  bias : Nat
  count : Nat
  held : List Char
deriving Repr

/-- Encodes the places of one code point in a label. -/
def Encoder.point (basic : Nat) (label : List Char) (e : Encoder) (n : Nat) : Encoder :=
  let e := label.foldl
    (fun e c =>
      if c.toNat < n then { e with distance := e.distance + 1 }
      else if c.toNat = n then
        ⟨0, adapt e.distance (e.count + 1) (e.count == basic), e.count + 1,
          e.held ++ digits e.bias 36 e.distance⟩
      else e) e
  { e with distance := e.distance + 1 }

/-- Encodes the code points that are left, in order. -/
def Encoder.points (basic : Nat) (label : List Char) : (last : Nat) → Encoder → List Nat → Encoder
  | _, e, [] => e
  | last, e, n :: ns =>
      let e := { e with distance := e.distance + (n - last) * (e.count + 1) }
      Encoder.points basic label (n + 1) (e.point basic label n) ns

/-- **The encoded label.** -/
def encode (label : List Char) : List Char :=
  let basic := label.filter fun c => c.toNat < 0x80
  let others := ((label.filter fun c => 0x80 ≤ c.toNat).map Char.toNat).mergeSort.eraseDups
  let count := basic.length
  let e := Encoder.points count label 0x80 ⟨0, 72, count, []⟩ others
  (if basic.isEmpty then [] else basic ++ ['-']) ++ e.held

/-! ## Decoding -/

/-- What is known while a label is decoded: the number that is read, its weight and its place, the
number in front of it, the last code point, the bias, and the characters so far. -/
structure Decoder where
  number : Nat
  weight : Nat
  place : Nat
  before : Nat
  point : Nat
  bias : Nat
  label : List Char
deriving Repr

/-- A number has been read: it says which character stands where. -/
def Decoder.insert (d : Decoder) : Option Decoder :=
  let count := d.label.length + 1
  let n := d.point + d.number / count
  let i := d.number % count
  if n.isValidChar then
    some ⟨i + 1, 1, 36, i + 1, n, adapt (d.number - d.before) count (d.before == 0),
      d.label.insertIdx i (Char.ofNat n)⟩
  else none

/-- The greatest number, and the greatest weight of a digit. -/
def maxNumber : Nat := 0xFFFFFFFF

/-- Reads one more digit. -/
def Decoder.digit (d : Decoder) (c : Char) : Option Decoder :=
  (value? c).bind fun v =>
    let t := threshold d.place d.bias
    let d := { d with number := d.number + v * d.weight }
    if maxNumber < d.number then none
    else if v < t then d.insert
    else if maxNumber < d.weight * (36 - t) then none
    else some { d with weight := d.weight * (36 - t), place := d.place + 36 }

/-- **The label that is encoded**, if that is one. -/
def decode? (cs : List Char) : Option (List Char) :=
  let (back, front) := cs.reverse.span (· ≠ '-')
  let basic := (front.drop 1).reverse
  (back.reverse.foldlM Decoder.digit ⟨0, 1, 36, 0, 0x80, 72, basic⟩).bind fun d =>
    if d.place = 36 then some d.label else none

end CommandConsole.Web.Punycode
