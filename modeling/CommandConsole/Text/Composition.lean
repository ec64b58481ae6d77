import CommandConsole.Text.Category
import CommandConsole.Text.CompositionTable

/-!
# Composed characters

A letter with marks can be one character, or a letter and its marks. `composed` is the normal form
in which each is one character where that exists: every character is taken apart, the marks are
sorted by their classes, and what belongs together is put together again. A mark goes to the
letter before it unless another mark of its class or a higher one stands between them.

The syllables of Hangul are computed from their two or three letters.
-/

set_option autoImplicit false

namespace CommandConsole.Text

/-! ## Hangul -/

namespace Hangul

/-- The first code point of the syllables, and those of their three kinds of letters. -/
def syllables : Nat := 0xAC00

/-- The first leading consonant. -/
def leading : Nat := 0x1100

/-- The first vowel. -/
def vowels : Nat := 0x1161

/-- The code point before the first trailing consonant. -/
def trailing : Nat := 0x11A7

/-- The number of the syllables. -/
def count : Nat := 19 * 21 * 28

/-- The place of a syllable among all. -/
def place? (c : Char) : Option Nat :=
  if syllables ≤ c.toNat ∧ c.toNat < syllables + count then some (c.toNat - syllables) else none

/-- The letters of a syllable. -/
def parts (place : Nat) : List Char :=
  [Char.ofNat (leading + place / (21 * 28)), Char.ofNat (vowels + place / 28 % 21)] ++
    (if place % 28 = 0 then [] else [Char.ofNat (trailing + place % 28)])

/-- Two letters, or a syllable and a letter, as one syllable. -/
def pair? (a b : Char) : Option Char :=
  let m := a.toNat
  let n := b.toNat
  if leading ≤ m ∧ m < leading + 19 ∧ vowels ≤ n ∧ n < vowels + 21 then
    some (Char.ofNat (syllables + ((m - leading) * 21 + (n - vowels)) * 28))
  else if trailing < n ∧ n < trailing + 28 ∧ (place? a).any (· % 28 = 0) then
    some (Char.ofNat (m + (n - trailing)))
  else none

end Hangul

/-! ## Taking apart -/

/-- What characters are made of, one step each. -/
def partRows : List ImageRow := images CompositionTable.parts

/-- The parts of a character after so many steps. Nothing below the first accented letter has
parts. -/
def partsWithin : (steps : Nat) → Char → List Char
  | 0, c => [c]
  | n + 1, c =>
      if c.toNat < 0xC0 then [c]
      else match Hangul.place? c with
        | some place => Hangul.parts place
        | none =>
            match image? partRows c with
            | some ps => ps.flatMap (partsWithin n)
            | none => [c]

/-- All parts of a character. No character takes more than three steps. -/
def partsOf (c : Char) : List Char := partsWithin 3 c

/-! ## Order of marks -/

/-- The classes of marks with the ranges of their characters. -/
def classRanges : List (Nat × List (Nat × Nat)) :=
  CompositionTable.classes.map fun r => (r.1, ranges r.2)

/-- The combining class of a character; that of a character that is no such mark is zero. -/
def classOf (c : Char) : Nat :=
  if c.toNat < 0x300 then 0
  else ((classRanges.find? fun r => inRanges r.2 c).map Prod.fst).getD 0

/-- Puts a character in front of a sorted text, behind the marks of lower classes it starts with. -/
def insertByClass (c : Char) : List Char → List Char
  | [] => [c]
  | d :: r =>
      if 0 < classOf d ∧ classOf d < classOf c then d :: insertByClass c r else c :: d :: r

/-- A text with the marks behind each letter sorted by their classes. -/
def sortMarks (cs : List Char) : List Char := cs.foldr insertByClass []

/-- A text with all its characters taken apart. -/
def decomposed (cs : List Char) : List Char := sortMarks (cs.flatMap partsOf)

/-! ## Putting together -/

/-- The characters that are not put together again. -/
def excluded : List (Nat × Nat) := ranges CompositionTable.excluded

/-- The characters that are made of two. -/
def pairRows : List ImageRow :=
  partRows.filter fun r => r.image.length == 2 && !inRanges excluded (Char.ofNat r.first)

/-- Two characters as one. -/
def pair? (a b : Char) : Option Char :=
  if b.toNat < 0x300 then none
  else match Hangul.pair? a b with
    | some c => some c
    | none => (pairRows.find? (·.image == [a.toNat, b.toNat])).map fun r => Char.ofNat r.first

/-- Characters that are being put together: the last letter, the marks behind it and all that
stands in front of it, last ones first. -/
structure Composer where
  before : List Char
  letter : Option Char
  marks : List Char
deriving Repr

namespace Composer

/-- A character that goes with nothing before it. -/
def append (k : Composer) (c : Char) : Composer :=
  if classOf c = 0 then ⟨k.marks ++ k.letter.toList ++ k.before, some c, []⟩
  else { k with marks := c :: k.marks }

/-- Whether nothing between the letter and a character keeps them apart. -/
def reaches (k : Composer) (c : Char) : Bool :=
  match k.marks with
  | [] => true
  | m :: _ => classOf m < classOf c

/-- The next character. -/
def take (k : Composer) (c : Char) : Composer :=
  match k.letter.bind fun l => if k.reaches c then pair? l c else none with
  | some d => { k with letter := some d }
  | none => k.append c

/-- The text. -/
def text (k : Composer) : List Char := (k.marks ++ k.letter.toList ++ k.before).reverse

end Composer

/-- **A text in the composed normal form.** -/
def composed (cs : List Char) : List Char :=
  ((decomposed cs).foldl Composer.take ⟨[], none, []⟩).text

end CommandConsole.Text
