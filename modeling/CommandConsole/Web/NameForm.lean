import CommandConsole.Text.Category
import CommandConsole.Text.Composition
import CommandConsole.Text.LetterCase
import CommandConsole.Web.NameTable

/-!
# The form of names

The names of servers are compared in one form: letters are small, characters that are variants of
others are replaced, some are left out, and what is left is composed. Many characters cannot be in
a name at all.
-/

set_option autoImplicit false

namespace CommandConsole.Web.NameForm

open Text (ImageRow ranges inRanges)

/-- The characters with another form. -/
def imageRows : List ImageRow := Text.images NameTable.images

/-- The characters that a name is written without. -/
def ignored : List (Nat × Nat) := ranges NameTable.ignored

/-- The characters that a name may not have. -/
def refused : List (Nat × Nat) := ranges NameTable.refused

/-- A character that cannot be in a name at all. -/
def isRefused (c : Char) : Bool := Text.isUnassigned c || inRanges refused c

/-- The form of a character that is not made of others. -/
def ofPart (c : Char) : List Char :=
  if c.toNat < 0x80 then [Text.foldAscii c]
  else if inRanges ignored c then []
  else (Text.image? imageRows c).getD [c]

/-- The form of a character, if it can be in a name. -/
def ofChar? (c : Char) : Option (List Char) :=
  if c.toNat < 0x80 then some [Text.foldAscii c]
  else if isRefused c then none
  else some ((Text.partsOf c).flatMap ofPart)

/-- **The form of a name**, if its characters can be in one. -/
def of? (cs : List Char) : Option (List Char) :=
  (cs.mapM ofChar?).map fun forms => Text.composed forms.flatten

end CommandConsole.Web.NameForm
