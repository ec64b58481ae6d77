/-!
# Flaws of a YAML text

What is wrong with a text is told with its place, and with what was being read and from where on.
The start of a text is told by no place, and a place that was told already is not told again. A
character that no text may have is placed by the bytes in front of it.
-/

set_option autoImplicit false

namespace CommandConsole.Yaml

/-- A place in a text: the number of lines in front of it, and of characters before it in its
line. -/
structure Mark where
  line : Nat
  column : Nat
deriving DecidableEq, Repr

namespace Mark

/-- The start of a text. -/
def start : Mark := ⟨0, 0⟩

/-- A place in words, behind a text; the start of a text in no words. -/
def told (m : Mark) : String :=
  if m = start then "" else s!" at line {m.line + 1} column {m.column + 1}"

end Mark

/-- What is wrong with a text: the problem, its place or the bytes in front of it, and what was
being read from where. -/
structure Flaw where
  problem : String
  place : Mark
  byte : Nat
  context : Option (String × Mark)
deriving DecidableEq, Repr

namespace Flaw

/-- A flaw that is told with its place. -/
def at_ (place : Mark) (problem : String) : Flaw := ⟨problem, place, 0, none⟩

/-- A flaw of the text as a whole. -/
def whole (problem : String) : Flaw := at_ .start problem

/-- A flaw of a part that started at a place. -/
def within (context : String) (start place : Mark) (problem : String) : Flaw :=
  ⟨problem, place, 0, some (context, start)⟩

/-- A flaw at a byte. -/
def atByte (byte : Nat) (problem : String) : Flaw := ⟨problem, .start, byte, none⟩

/-- **A flaw in words.** -/
def message (f : Flaw) : String :=
  let position := if f.place = .start ∧ f.byte ≠ 0 then s!" at position {f.byte}" else f.place.told
  let context := match f.context with
    | none => ""
    | some (context, start) => s!", {context}" ++ if start = f.place then "" else start.told
  f.problem ++ position ++ context

end Flaw

/-- Reading that may find a flaw. -/
abbrev Scanning (α : Type) := Except Flaw α

end CommandConsole.Yaml
