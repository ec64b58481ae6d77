import CommandConsole.Number.Radix
import CommandConsole.Text.Blank

/-!
# Rows of character tables

The large tables of the Unicode standard are kept as text. Blanks stand between the rows. A row is
a code point in hexadecimal digits, or the first and the last one of a range with a hyphen between
them. In a table of images the image stands behind an equals sign, its code points with points
between them. Over a range the image moves along; `/2` behind the range says that only every
second code point has one.
-/

set_option autoImplicit false

namespace CommandConsole.Text

/-- The number of a code point. -/
def codePoint (cs : List Char) : Nat := (Number.natural? 16 cs).getD 0

/-- A code point, or the first and the last one of a range. -/
def rangeOf (row : List Char) : Nat × Nat :=
  match row.splitOn '-' with
  | [first, last] => (codePoint first, codePoint last)
  | _ => (codePoint row, codePoint row)

/-- **The ranges of a table.** -/
def ranges (table : String) : List (Nat × Nat) := (words table.toList).map rangeOf

/-- Whether one of the ranges holds the character. -/
def inRanges (ranges : List (Nat × Nat)) (c : Char) : Bool :=
  ranges.any fun r => r.1 ≤ c.toNat && c.toNat ≤ r.2

/-- Code points with images: every `step`-th one from the first to the last. -/
structure ImageRow where
  first : Nat
  last : Nat
  step : Nat
  image : List Nat
deriving DecidableEq, Repr

namespace ImageRow

/-- Whether the row says something about a code point. -/
def covers (r : ImageRow) (n : Nat) : Bool :=
  r.first ≤ n && n ≤ r.last && (n - r.first) % r.step == 0

/-- The image of a code point that the row says something about. -/
def imageOf (r : ImageRow) (n : Nat) : List Char :=
  r.image.map fun m => Char.ofNat (m + (n - r.first))

/-- The row of a table of images. -/
def read (row : List Char) : ImageRow :=
  let (domain, image) := row.span (· ≠ '=')
  let (range, step) := domain.span (· ≠ '/')
  let (first, last) := rangeOf range
  ⟨first, last, if step.isEmpty then 1 else 2, (image.drop 1).splitOn '.' |>.map codePoint⟩

end ImageRow

/-- **The rows of a table of images.** -/
def images (table : String) : List ImageRow := (words table.toList).map ImageRow.read

/-- The image of a character, if a table has one. -/
def image? (rows : List ImageRow) (c : Char) : Option (List Char) :=
  (rows.find? (·.covers c.toNat)).map (·.imageOf c.toNat)

end CommandConsole.Text
