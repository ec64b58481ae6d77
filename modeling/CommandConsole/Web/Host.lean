import CommandConsole.Web.Direction
import CommandConsole.Web.Ipv4
import CommandConsole.Web.Ipv6
import CommandConsole.Web.Joining
import CommandConsole.Web.NameForm
import CommandConsole.Web.Percent
import CommandConsole.Web.Punycode

/-!
# Hosts

The host of a web address: a name, or a number of four bytes or eight pieces. A name is a row of
labels with points between them, in the form of names. A label that is not ASCII is written in
Punycode behind a mark, and may stand in the text in that way already.
-/

set_option autoImplicit false

namespace CommandConsole.Web

/-- The host of an address. -/
inductive Host where
  | name (s : List Char)
  | v4 (n : Nat)
  | v6 (pieces : List Nat)
deriving DecidableEq, Repr

namespace Host

/-- An ASCII character that a name may not have. -/
def isForbidden (c : Char) : Bool :=
  c.toNat ≤ 0x20 || c.toNat == 0x7F || "#%/:<>?@[\\]^|".toList.contains c

/-- Whether a text is ASCII. -/
def isAscii (cs : List Char) : Bool := cs.all fun c => c.toNat < 0x80

/-! ## Labels -/

/-- A label of a name: what it says, and the ASCII text that it is written as. -/
structure Label where
  meaning : List Char
  written : List Char
deriving DecidableEq, Repr

namespace Label

/-- The mark of an encoded label. -/
def encodedMark : List Char := "xn--".toList

/-- The greatest number of characters of a label that is encoded. -/
def maxEncoded : Nat := 1000

/-- The greatest number of characters behind the mark of a label that is decoded. -/
def maxDecoded : Nat := 2000

/-- The meaning of the part of an encoded label behind its mark. It must be one that is encoded in
this way, and in the form of names. -/
def decode? (code : List Char) : Option (List Char) :=
  if maxDecoded < code.length then none
  else (Punycode.decode? code).filter fun l =>
    !isAscii l && !l.any isForbidden && !l.contains '.' && NameForm.of? l == some l &&
      Punycode.encode l == code

/-- The label that a text in the form of names stands for. -/
def read? (cs : List Char) : Option Label :=
  if encodedMark.isPrefixOf cs then
    if !isAscii cs then none
    else (decode? (cs.drop encodedMark.length)).map fun l => ⟨l, cs⟩
  else if isAscii cs then some ⟨cs, cs⟩
  else if maxEncoded < cs.length then none
  else some ⟨cs, encodedMark ++ Punycode.encode cs⟩

/-- Whether a label does not start with a mark, and has joiners only where they may stand. -/
def isSound (l : Label) : Bool := !l.meaning.head?.any Text.isMark && Joining.isSound l.meaning

end Label

/-! ## Names -/

/-- The name that a text stands for. -/
def name? (cs : List Char) : Option (List Char) := do
  let cs ← NameForm.of? cs
  if cs.isEmpty || cs.any isForbidden then none
  let labels ← (cs.splitOn '.').mapM Label.read?
  if !labels.all Label.isSound || !Direction.areKept (labels.map Label.meaning) then none
  return ['.'].intercalate (labels.map Label.written)

/-- **The host that a text stands for.** -/
def read? (cs : List Char) : Option Host :=
  match cs with
  | '[' :: r =>
      if r.getLast? = some ']' then (Ipv6.read? r.dropLast).map .v6 else none
  | cs => do
      let decoded ← Text.ofBytes? (decode cs)
      let name ← name? decoded.toList
      if Ipv4.isNumeric name then (Ipv4.read? name).map .v4 else return .name name

/-- The text of a host. -/
def text : Host → List Char
  | .name s => s
  | .v4 n => Ipv4.text n
  | .v6 ps => '[' :: Ipv6.text ps ++ [']']

end Host

end CommandConsole.Web
