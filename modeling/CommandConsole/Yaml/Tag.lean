import CommandConsole.Text.Bytes
import CommandConsole.Yaml.Scalar
import CommandConsole.Yaml.Spot

/-!
# Tags in a YAML text

A tag is written as a handle and a suffix. The handle stands for the start of the tag; one that
nothing was said about stands for itself when it is a single mark, and for the tags of the core
types when it is two. A tag is kept as bytes, since its escapes may spell any.
-/

set_option autoImplicit false

namespace CommandConsole.Yaml

open Number (natural?)
open Text (bytesOf)

/-- A letter, a digit, a low line or a hyphen. -/
def isNameChar (c : Char) : Bool := c.isAlphanum || c == '_' || c == '-'

/-- A tag as it is written. The handle of a tag that is given in full is empty. -/
structure Tag where
  handle : List Char
  suffix : List UInt8
deriving DecidableEq, Repr

/-- The meanings of handles. -/
abbrev Handles := List (List Char × List UInt8)

namespace Tag

/-- The start of the tags of the core types. -/
def core : String := "tag:yaml.org,2002:"

/-- The handles that always have a meaning. -/
def builtIn : Handles := [(['!'], bytesOf ['!']), (['!', '!'], bytesOf core.toList)]

/-- The tag with its handle replaced; nothing when the handle has no meaning. -/
def resolve (handles : Handles) (t : Tag) : Option (List UInt8) :=
  if t.handle.isEmpty then some t.suffix
  else (handles.find? (·.1 == t.handle)).map fun h => h.2 ++ t.suffix

/-! ## Characters of a tag -/

/-- A character of a tag. Three more may stand in one that is given in full. -/
def isTagChar (full : Bool) (c : Char) : Bool :=
  isNameChar c || ";/?:@&=+$.!~*'()%".toList.contains c || (full && ",[]".toList.contains c)

/-- The byte that an escape spells. -/
def escapedByte? : List Char → Option Nat
  | '%' :: a :: b :: _ => natural? 16 [a, b]
  | _ => none

/-- The number of bytes of the character whose first one this is. -/
def width? (b : Nat) : Option Nat :=
  if b < 0x80 then some 1
  else if b / 0x20 = 0x06 then some 2
  else if b / 0x10 = 0x0E then some 3
  else if b / 0x08 = 0x1E then some 4
  else none

/-- Where a tag is read: in a directive or in front of a node, from a spot on. -/
structure Place where
  directive : Bool
  start : Spot
deriving Repr

namespace Place

/-- A flaw of the characters of a tag. -/
def badChar {α : Type} (p : Place) (s : Spot) (problem : String) : Scanning α :=
  s.flaw p.start (if p.directive then "while parsing a %TAG directive" else "while parsing a tag")
    problem

end Place

/-- Reads the byte that an escape spells. -/
def readEscapedByte (p : Place) (s : Spot) : Scanning Nat :=
  match escapedByte? s.rest with
  | some b => .ok b
  | none => p.badChar s "did not find URI escaped octet"

/-- Reads escapes that continue a character. -/
def readTrailing (p : Place) : (count : Nat) → Spot → Scanning (List UInt8 × Spot)
  | 0, s => .ok ([], s)
  | n + 1, s => do
      let b ← readEscapedByte p s
      if b / 0x40 ≠ 0x02 then p.badChar s "found an incorrect trailing UTF-8 octet"
      let (bs, s) ← readTrailing p n (s.skip 3)
      return (b.toUInt8 :: bs, s)

/-- Reads the escapes of one character. -/
def readEscapes (p : Place) (s : Spot) : Scanning (List UInt8 × Spot) := do
  let b ← readEscapedByte p s
  match width? b with
  | none => p.badChar s "found an incorrect leading UTF-8 octet"
  | some width =>
      let (bs, s) ← readTrailing p (width - 1) (s.skip 3)
      return (b.toUInt8 :: bs, s)

/-- Reads the characters of a tag, in at most so many turns. -/
def readChars (p : Place) (full : Bool) : (turns : Nat) → Spot → Scanning (List UInt8 × Spot)
  | 0, s => .ok ([], s)
  | n + 1, s =>
      match s.rest with
      | [] => .ok ([], s)
      | c :: _ =>
          if !isTagChar full c then .ok ([], s)
          else do
            let (bs, s) ← if c == '%' then readEscapes p s else .ok (bytesOf [c], s.skip 1)
            let (more, s) ← readChars p full n s
            return (bs ++ more, s)

/-- Reads the characters of a tag behind those that are known already. There is at least one, or
the mark of a handle. -/
def readSuffix (p : Place) (full : Bool) (marked : Bool) (known : List Char) (s : Spot) :
    Scanning (List UInt8 × Spot) := do
  let (bs, t) ← readChars p full (s.rest.length + 1) s
  if !marked && bs.isEmpty then p.badChar t "did not find expected tag URI"
  return (bytesOf known ++ bs, t)

/-! ## Handles -/

/-- Whether a handle has its second mark. -/
def isClosed (handle : List Char) : Bool := 1 < handle.length && handle.getLast? == some '!'

/-- Reads a handle: a mark, a name, and a second mark if there is one. In a directive only a lone
mark goes without. -/
def readHandle (p : Place) (s : Spot) : Scanning (List Char × Spot) :=
  match s.rest with
  | '!' :: r =>
      let name := r.takeWhile isNameChar
      let s := s.skip (1 + name.length)
      if s.at_ '!' then .ok ('!' :: name ++ ['!'], s.skip 1)
      else if p.directive && !name.isEmpty then
        s.flaw p.start "while parsing a tag directive" "did not find expected '!'"
      else .ok ('!' :: name, s)
  | _ =>
      let context := if p.directive then "while scanning a tag directive"
        else "while scanning a tag"
      s.flaw p.start context "did not find expected '!'"

/-- Reads what a tag is made of, from its mark on. -/
def readParts (s : Spot) : Scanning (Tag × Spot) := do
  let p : Place := ⟨false, s⟩
  if s.rest[1]? == some '<' then
    let (suffix, s) ← readSuffix p true false [] (s.skip 2)
    if !s.at_ '>' then s.flaw p.start "while scanning a tag" "did not find the expected '>'"
    return (⟨[], suffix⟩, s.skip 1)
  else
    let (handle, s) ← readHandle p s
    if isClosed handle then
      let (suffix, s) ← readSuffix p false false [] s
      return (⟨handle, suffix⟩, s)
    else
      let (suffix, s) ← readSuffix p false true (handle.drop 1) s
      return (if suffix.isEmpty then ⟨[], bytesOf ['!']⟩ else ⟨['!'], suffix⟩, s)

/-- **A tag.** -/
def read (flow : Bool) (start : Spot) : Scanning (Tag × Spot) := do
  let (t, s) ← readParts start
  if (flow && s.at_ ',') || s.parted 0 then return (t, s)
  else s.flaw start "while scanning a tag" "did not find expected whitespace or line break"

end Tag

end CommandConsole.Yaml
