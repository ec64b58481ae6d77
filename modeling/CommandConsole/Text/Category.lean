import CommandConsole.Text.CategoryTable
import CommandConsole.Text.ClusterTable
import CommandConsole.Text.Rows

/-!
# General categories

What a character is at all, by the Unicode standard: a control, a mark on the character before it,
a format character that only says how others are to be shown, or no character yet. No printable
ASCII character is any of these.
-/

set_option autoImplicit false

namespace CommandConsole.Text

/-- A printable ASCII character. -/
def isPlainAscii (c : Char) : Bool := 0x20 ≤ c.toNat && c.toNat < 0x7F

/-- A control. -/
def isControl (c : Char) : Bool := c.toNat < 0x20 || (0x7F ≤ c.toNat && c.toNat < 0xA0)

/-- The code points without a character. -/
def unassigned : List (Nat × Nat) := ranges CategoryTable.unassigned

/-- A code point without a character. -/
def isUnassigned (c : Char) : Bool := inRanges unassigned c

/-- A code point that is left to private use. -/
def isPrivate (c : Char) : Bool :=
  let n := c.toNat
  (0xE000 ≤ n && n ≤ 0xF8FF) || (0xF0000 ≤ n && n ≤ 0xFFFFD) || (0x100000 ≤ n && n ≤ 0x10FFFD)

/-- The nonspacing marks. -/
def nonspacing : List (Nat × Nat) := ranges CategoryTable.nonspacing

/-- A mark that stands on, in or around the character before it. -/
def isNonspacing (c : Char) : Bool := inRanges nonspacing c

/-- The spacing marks. -/
def spacing : List (Nat × Nat) := ranges CategoryTable.spacing

/-- A mark that takes place of its own. -/
def isSpacing (c : Char) : Bool := inRanges spacing c

/-- A mark. -/
def isMark (c : Char) : Bool := isNonspacing c || isSpacing c

/-- The format characters. -/
def format : List (Nat × Nat) := ranges CategoryTable.format

/-- A character that only says how others are to be shown. -/
def isFormat (c : Char) : Bool := inRanges format c

/-- The characters that extend the one before them without being nonspacing marks. -/
def extending : List (Nat × Nat) := ranges ClusterTable.extending

/-- A character that extends the one before it: the property Grapheme_Extend. -/
def isExtending (c : Char) : Bool := isNonspacing c || inRanges extending c

end CommandConsole.Text
