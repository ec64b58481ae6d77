import CommandConsole.Text.Blank

/-!
# Tokens of a command line

A line is split into words at white space. A word that starts with a quote opens a **group**,
which the first word from it on that ends with the same quote closes; a word closes the group
it opens only if it has two characters or more. The words of a group are joined with single
spaces and lose the two quotes. A group that no word closes is no group: its words, and all
that follow them, are taken as they are.

The two quotes are equal in rank and groups do not nest. A token can be empty (`""`), and the
only white space inside a token is the single space that joins two words.
-/

set_option autoImplicit false

namespace CommandConsole.Line

open Text

/-- The two characters that can open a group. -/
def isQuote (c : Char) : Bool := c == '"' || c == '\''

/-- The quote that a word opens a group with. -/
def openingQuote (word : List Char) : Option Char := word.head?.filter isQuote

/-- Whether a word ends with the quote. -/
def endsWith (quote : Char) (word : List Char) : Bool := word.getLast? == some quote

/-- Whether a word closes the group it opens. -/
def closesItself (quote : Char) (word : List Char) : Bool :=
  2 ≤ word.length && endsWith quote word

/-- The text of a closed group: its words joined with spaces, without the two quotes. -/
def groupText (group : List (List Char)) : List Char :=
  ((join [' '] group).drop 1).dropLast

/-- The tokens of a list of words. `held` is the open group: its quote and its words so far,
last one first. -/
def scan : (held : Option (Char × List (List Char))) → List (List Char) → List (List Char)
  | none, [] => []
  | none, w :: ws =>
      match openingQuote w with
      | none => w :: scan none ws
      | some q =>
          if closesItself q w then groupText [w] :: scan none ws else scan (some (q, [w])) ws
  | some (_, group), [] => group.reverse
  | some (q, group), w :: ws =>
      if endsWith q w then groupText (w :: group).reverse :: scan none ws
      else scan (some (q, w :: group)) ws

/-- The tokens of a line of characters. -/
def tokens (line : List Char) : List (List Char) := scan none (words line)

/-- **The tokens of a command line.** -/
def tokenize (line : String) : List String := (tokens line.toList).map String.ofList

end CommandConsole.Line
