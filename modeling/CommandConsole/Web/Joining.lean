import CommandConsole.Text.Category
import CommandConsole.Text.Composition
import CommandConsole.Web.JoiningTable

/-!
# Joining letters

In some scripts letters join those beside them. Two characters without a shape of their own ask for
joining or against it. In a name they may stand only where that changes what a reader sees: both
behind a mark that silences a vowel, and the one that keeps letters apart also between two letters
that would join. Marks between the letters do not count.
-/

set_option autoImplicit false

namespace CommandConsole.Web.Joining

open Text (ranges inRanges)

/-- The letters that join those on both sides. -/
def dual : List (Nat × Nat) := ranges JoiningTable.dual

/-- The letters that join the one in front of them. -/
def right : List (Nat × Nat) := ranges JoiningTable.right

/-- The letters that join the one behind them. -/
def left : List (Nat × Nat) := ranges JoiningTable.left

/-- The letters that others join across. -/
def across : List (Nat × Nat) := ranges JoiningTable.across

/-- The marks and format characters that letters do not join across. -/
def blocking : List (Nat × Nat) := ranges JoiningTable.blocking

/-- A character that letters join across. -/
def isTransparent (c : Char) : Bool :=
  inRanges across c || ((Text.isNonspacing c || Text.isFormat c) && !inRanges blocking c)

/-- Whether a letter that would join the one behind it ends the characters, which are given last one
first. -/
def joinsOn (before : List Char) : Bool :=
  match before.dropWhile isTransparent with
  | c :: _ => inRanges left c || inRanges dual c
  | [] => false

/-- Whether the characters start with a letter that would join the one in front of it. -/
def joinsBack (behind : List Char) : Bool :=
  match behind.dropWhile isTransparent with
  | c :: _ => inRanges right c || inRanges dual c
  | [] => false

/-- A mark that silences the vowel of the consonant before it. -/
def isSilencer (c : Char) : Bool := Text.classOf c == 9

/-- Whether a character that asks for joining or against it may stand between others; those in
front of it are given last one first. Any other character may. -/
def mayStand (before : List Char) (c : Char) (behind : List Char) : Bool :=
  if c = '\u200C' then before.head?.any isSilencer || (joinsOn before && joinsBack behind)
  else if c = '\u200D' then before.head?.any isSilencer
  else true

/-- Whether each character may stand where it does; those in front are given last one first. -/
def soundFrom : (before : List Char) → List Char → Bool
  | _, [] => true
  | before, c :: r => mayStand before c r && soundFrom (c :: before) r

/-- **Whether each character of a label may stand where it does.** -/
def isSound (label : List Char) : Bool := soundFrom [] label

end CommandConsole.Web.Joining
