import CommandConsole.Number.Radix
import CommandConsole.Text.Bytes

/-!
# Percent encoding

In a web address a byte can be written as a percent sign and two hexadecimal digits. A character
that may not stand in a part of an address is written so, byte by byte.
-/

set_option autoImplicit false

namespace CommandConsole.Web

open Text (bytesOf)

/-- A digit of a byte. -/
def hexDigit (n : Nat) : Char := (Nat.digitChar n).toUpper

/-- An encoded byte. -/
def percent (b : UInt8) : List Char := ['%', hexDigit (b.toNat / 16), hexDigit (b.toNat % 16)]

/-- Encodes the characters that are not ASCII, controls, or marked. -/
def encode (marked : Char → Bool) (cs : List Char) : List Char :=
  cs.flatMap fun c =>
    if 0x7E < c.toNat ∨ c.toNat < 0x20 ∨ marked c = true then (bytesOf [c]).flatMap percent else [c]

/-- The bytes of a text with encoded bytes in it. A percent sign without two digits stands for
itself. -/
def decode : List Char → List UInt8
  | [] => []
  | '%' :: a :: b :: r =>
      match Number.digitIn? 16 a, Number.digitIn? 16 b with
      | some m, some n => (16 * m + n).toUInt8 :: decode r
      | _, _ => '%'.toUInt8 :: decode (a :: b :: r)
  | c :: r => bytesOf [c] ++ decode r

/-- A character that is encoded in a fragment. -/
def inFragment (c : Char) : Bool := [' ', '"', '<', '>', '`'].contains c

/-- A character that is encoded in a query. -/
def inQuery (c : Char) : Bool := [' ', '"', '#', '<', '>', '\''].contains c

/-- A character that is encoded in a path. -/
def inPath (c : Char) : Bool := inFragment c || ['#', '?', '\x7b', '\x7d'].contains c

/-- A character that is encoded in a name or a password. -/
def inUser (c : Char) : Bool :=
  inPath c || ['/', ':', ';', '=', '@', '[', '\\', ']', '^', '|'].contains c

end CommandConsole.Web
