import CommandConsole.Number.Decimal
import CommandConsole.Text.Blank

/-!
# Signatures of commands

A signature says what arguments a command takes: a row of slots, each for a whole number (`i`) or
for any other text (`s`), and a `?` in front of the slots that may stay empty. The empty slots are
the last ones, so a slot that must be filled cannot follow one that need not be; `read` sees to
that. White space in a signature means nothing.
-/

set_option autoImplicit false

namespace CommandConsole

/-- What a slot holds. -/
inductive SlotKind where
  | text
  | integer
deriving DecidableEq, Repr

namespace SlotKind

/-- The character for a kind. -/
def marker : SlotKind → Char
  | text => 's'
  | integer => 'i'

/-- The kind that a character stands for. -/
def ofMarker? : Char → Option SlotKind
  | 's' => some text
  | 'i' => some integer
  | _ => none

/-- Whether an argument is of the kind: every argument is of exactly one. -/
def accepts (k : SlotKind) (arg : List Char) : Bool :=
  match k with
  | text => !Number.isInteger arg
  | integer => Number.isInteger arg

end SlotKind

/-- A place for one argument. -/
structure Slot where
  kind : SlotKind
  optional : Bool
deriving DecidableEq, Repr

/-- The slots of a command, in order. -/
abbrev Signature := List Slot

namespace Signature

/-- What is wrong with the text of a signature. -/
inductive Flaw where
  | repeatedMark
  | unknownMarker (c : Char)
  | requiredBehindOptional (position : Nat)
  | danglingMark
deriving DecidableEq, Repr

/-- A flaw in words. -/
def Flaw.message : Flaw → String
  | .repeatedMark => "repeated '?'"
  | .unknownMarker c => s!"unknown marker '{c}'"
  | .requiredBehindOptional n =>
      s!"required argument at position {n} follows an optional one"
  | .danglingMark => "'?' without a following marker"

/-- Reads slots. `mark` says that a question mark stands in front, `tail` that an optional slot
has been read, and `count` counts the slots in front. -/
def readFrom (mark tail : Bool) (count : Nat) : List Char → Except Flaw Signature
  | [] => if mark then .error .danglingMark else .ok []
  | c :: r =>
      if c = '?' then if mark then .error .repeatedMark else readFrom true tail count r
      else match SlotKind.ofMarker? c with
        | some kind =>
            if tail && !mark then .error (.requiredBehindOptional (count + 1))
            else (readFrom false (tail || mark) (count + 1) r).map (⟨kind, mark⟩ :: ·)
        | none =>
            if Text.isBlank c then readFrom mark tail count r else .error (.unknownMarker c)

/-- **Reads a signature.** -/
def read (cs : List Char) : Except Flaw Signature := readFrom false false 0 cs

/-- The characters of a slot. -/
def slotText (s : Slot) : List Char := if s.optional then ['?', s.kind.marker] else [s.kind.marker]

/-- The characters of a signature. -/
def chars (s : Signature) : List Char := s.flatMap slotText

/-- The text of a signature. -/
def text (s : Signature) : String := String.ofList s.chars

/-- How many arguments have to be there. -/
def required (s : Signature) : Nat := (s.takeWhile fun slot => !slot.optional).length

/-- **Whether a command takes these arguments:** not more than it has slots, not fewer than it
must have, and each of the kind of its slot. -/
def accepts (s : Signature) (args : List (List Char)) : Bool :=
  args.length ≤ s.length && s.required ≤ args.length &&
    (s.zip args).all fun p => p.1.kind.accepts p.2

end Signature

end CommandConsole
