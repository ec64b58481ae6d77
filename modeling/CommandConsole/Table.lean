import CommandConsole.Number.Decimal
import CommandConsole.Text.Blank

/-!
# Tables in plain text

A table is laid out in columns two spaces apart, its header underlined with dashes. A column is
as wide as its longest cell, unless the table is wider than its limit: then the widest column
gives way first, down to the least width, and so on until the table fits or no column can give
more. A cell that is longer than its column ends in an ellipsis.
-/

set_option autoImplicit false

namespace CommandConsole.Table

open Text

/-- How a table is laid out. -/
structure Layout where
  maxWidth : Nat
  truncate : Bool
  underline : Bool
  minColumn : Nat
deriving DecidableEq, Repr

/-- The limit of a table where the host says how wide it is: between 40 and 220, and 100 where it
does not say or says no number. -/
def widthFor (columns : Option String) : Nat :=
  match columns.bind fun s => Number.readWord? s.toList with
  | some n => min 220 (max 40 n)
  | none => 100

/-- The layout for a host. -/
def Layout.forHost (columns : Option String) : Layout := ⟨widthFor columns, true, true, 2⟩

/-- A text cut to a number of characters, the last of them an ellipsis when something is cut. -/
def clip (width : Nat) (cs : List Char) : List Char :=
  if width = 0 then []
  else if cs.length ≤ width then cs
  else cs.take (width - 1) ++ ['…']

/-- A text made as wide as its column. -/
def fit (truncate : Bool) (width : Nat) (cs : List Char) : List Char :=
  if cs.length ≤ width then cs ++ List.replicate (width - cs.length) ' '
  else if truncate then clip width cs else cs

/-- The wider of each two widths, as many as there are of the first. -/
def widen : List Nat → List Nat → List Nat
  | [], _ => []
  | ws, [] => ws
  | w :: ws, v :: vs => max w v :: widen ws vs

/-- The widths of columns in which nothing is cut. -/
def naturalWidths (headers : List (List Char)) (rows : List (List (List Char))) : List Nat :=
  rows.foldl (fun ws row => widen ws (row.map List.length)) (headers.map List.length)

/-- The width of a line with columns of these widths. -/
def totalWidth (widths : List Nat) : Nat := widths.foldr (· + ·) 0 + 2 * (widths.length - 1)

/-- Whether a column is narrowed before another one: the wider first, else the one in front. -/
def narrowedFirst (a b : Nat × Nat) : Bool := b.2 ≤ a.2

/-- The columns with their places, in the order in which they are narrowed. -/
def narrowingOrder (widths : List Nat) : List (Nat × Nat) :=
  (widths.zipIdx.map fun p => (p.2, p.1)).mergeSort narrowedFirst

/-- What each column gives when the table is too wide by `excess`. -/
def concessions (least : Nat) : (excess : Nat) → List (Nat × Nat) → List (Nat × Nat)
  | _, [] => []
  | excess, (column, width) :: r =>
      let given := min (width - least) excess
      (column, given) :: concessions least (excess - given) r

/-- The widths of the columns in a table of at most the given width, where that is possible. -/
def narrowed (maxWidth least : Nat) (widths : List Nat) : List Nat :=
  let given := concessions least (totalWidth widths - maxWidth) (narrowingOrder widths)
  widths.zipIdx.map fun p => p.1 - (given.lookup p.2).getD 0

/-- Cells side by side, each as wide as its column; missing cells are empty. -/
def renderRow (truncate : Bool) (widths : List Nat) (cells : List (List Char)) : List Char :=
  trimEnd (join [' ', ' '] (widths.zipIdx.map fun p => fit truncate p.1 (cells[p.2]?.getD [])))

/-- The lines of a table. -/
def renderLines (layout : Layout) (headers : List (List Char)) (rows : List (List (List Char))) :
    List (List Char) :=
  let widths := narrowed layout.maxWidth layout.minColumn (naturalWidths headers rows)
  let rule := join [' ', ' '] (widths.map fun w => List.replicate w '-')
  renderRow layout.truncate widths headers ::
    (if layout.underline then [rule] else []) ++ rows.map (renderRow layout.truncate widths)

/-- **A table as text.** Without headers there is nothing to show. -/
def render (layout : Layout) (headers : List String) (rows : List (List String)) : String :=
  if headers.isEmpty then ""
  else String.ofList (join ['\n'] (renderLines layout (headers.map String.toList)
    (rows.map (·.map String.toList))))

end CommandConsole.Table
