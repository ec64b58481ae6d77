import CommandConsole.Number.Radix

/-!
# Numeric hosts of four bytes

A host whose last part is a number is one. Its parts may be written in base 8, 10 or 16, and the
last part fills the bytes that the others leave.
-/

set_option autoImplicit false

namespace CommandConsole.Web.Ipv4

open Number (digitsOnto)

/-- The number of a part. -/
def part? : List Char → Option Nat
  | [] => none
  | '0' :: 'x' :: r => digitsOnto 16 0 r
  | '0' :: 'X' :: r => digitsOnto 16 0 r
  | '0' :: c :: r => digitsOnto 8 0 (c :: r)
  | cs => digitsOnto 10 0 cs

/-- The parts of a host, without an empty one at the end. -/
def parts (host : List Char) : List (List Char) :=
  let ps := host.splitOn '.'
  if 1 < ps.length ∧ ps.getLast? = some [] then ps.dropLast else ps

/-- Whether the last part of a host is a number. -/
def isNumeric (host : List Char) : Bool :=
  (parts host).getLast?.any fun p =>
    (!p.isEmpty && p.all fun c => '0' ≤ c && c ≤ '9') || (part? p).isSome

/-- The bytes that come first, as the start of a number of four. -/
def leading : (place : Nat) → List Nat → Nat
  | _, [] => 0
  | place, n :: ns => n * Nat.pow 256 place + leading (place - 1) ns

/-- **The number of a host**, if it is one of four bytes. -/
def read? (host : List Char) : Option Nat := do
  let ns ← (parts host).mapM part?
  let last ← ns.getLast?
  let front := ns.dropLast
  if 3 < front.length ∨ front.any (255 < ·) = true ∨ Nat.pow 256 (4 - front.length) ≤ last
  then none
  return leading 3 front + last

/-- The bytes in decimal, with points between them. -/
def text (n : Nat) : List Char :=
  let byte (place : Nat) := Nat.toDigits 10 (n / Nat.pow 256 place % 256)
  byte 3 ++ '.' :: byte 2 ++ '.' :: byte 1 ++ '.' :: byte 0

end CommandConsole.Web.Ipv4
