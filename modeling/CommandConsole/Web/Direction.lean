import CommandConsole.Text.Category
import CommandConsole.Web.DirectionTable

/-!
# Directions of writing

Some scripts are written from right to left. Where a name has such letters, each of its labels
keeps to one direction, so that a reader takes it for the same label wherever it stands: it starts
with a letter, which gives its direction, and ends with a letter or a figure of that direction,
marks apart.
-/

set_option autoImplicit false

namespace CommandConsole.Web

/-- The direction of a character. -/
inductive Direction where
  | left
  | right
  | european
  | arabic
  | neutral
  | mark
deriving DecidableEq, Repr

namespace Direction

open Text (ranges inRanges)

/-- The letters that are written from right to left. -/
def rightToLeft : List (Nat × Nat) := ranges DirectionTable.rightToLeft

/-- The figures that are written from left to right wherever they stand. -/
def europeanFigures : List (Nat × Nat) := ranges DirectionTable.european

/-- The figures of the Arabic kind. -/
def arabicFigures : List (Nat × Nat) := ranges DirectionTable.arabic

/-- The signs without a direction. -/
def neutralSigns : List (Nat × Nat) := ranges DirectionTable.neutral

/-- The marks that have a direction of their own. -/
def firm : List (Nat × Nat) := ranges DirectionTable.firm

/-- The direction of a character. -/
def ofChar (c : Char) : Direction :=
  if inRanges rightToLeft c then .right
  else if inRanges europeanFigures c then .european
  else if inRanges arabicFigures c then .arabic
  else if inRanges neutralSigns c then .neutral
  else if Text.isNonspacing c && !inRanges firm c then .mark
  else .left

/-- Whether a name with this character has to keep to the directions. -/
def isStrict (d : Direction) : Bool := d == .right || d == .arabic

/-- Whether the directions of a label that starts from the left keep to it. -/
def keepLeft (ds : List Direction) : Bool :=
  (ds.reverse.dropWhile (· == .mark)).head?.any (fun d => d == .left || d == .european) &&
    ds.all fun d => d != .right && d != .arabic

/-- Whether the directions of a label that starts from the right keep to it. Only one kind of
figures may stand in it. -/
def keepRight (ds : List Direction) : Bool :=
  (ds.reverse.dropWhile (· == .mark)).head?.any
      (fun d => d == .right || d == .european || d == .arabic) &&
    (ds.all fun d => d != .left) && !(ds.contains .european && ds.contains .arabic)

/-- Whether a label keeps to one direction. -/
def isKept (label : List Char) : Bool :=
  let ds := label.map ofChar
  match ds with
  | [] => true
  | .left :: _ => keepLeft ds
  | .right :: _ => keepRight ds
  | _ => false

/-- **Whether the labels of a name keep to directions as far as they have to.** -/
def areKept (labels : List (List Char)) : Bool :=
  !(labels.any fun l => l.any fun c => isStrict (ofChar c)) || labels.all isKept

end Direction

end CommandConsole.Web
