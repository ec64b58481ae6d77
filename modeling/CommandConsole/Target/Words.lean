/-!
# Words of a command line

A command line is cut into words at blanks. Quotes and backslashes keep blanks within a word, and
a number sign at the start of a word starts a comment. `join` writes words so that `split` finds
them again: a word with characters that mean something stands in single quotes.
-/

set_option autoImplicit false

namespace CommandConsole.Words

/-- How the next character is to be read. -/
inductive Mode where
  | bare
  | escaped
  | single
  | double
  | doubleEscaped
  | comment
deriving DecidableEq, Repr

/-- A space, a tabulator or a line feed. -/
def isGap (c : Char) : Bool := c == ' ' || c == '\t' || c == '\n'

/-- A character that a backslash between double quotes makes plain. -/
def isTamed (c : Char) : Bool := c == '$' || c == '`' || c == '"' || c == '\\'

/-- A word whose characters are held last one first. -/
def ended (held : List Char) : List Char := held.reverse

/-- Reads on; `word` holds the characters of the word that has begun, last one first. A text that
ends between quotes has no words. -/
def splitFrom : Mode → (word : Option (List Char)) → List Char → Option (List (List Char))
  | .bare, word, [] => some (word.toList.map ended)
  | .escaped, word, [] => some [ended ('\\' :: word.getD [])]
  | .comment, _, [] => some []
  | .single, _, [] => none
  | .double, _, [] => none
  | .doubleEscaped, _, [] => none
  | .bare, word, c :: r =>
      if c = '\'' then splitFrom .single (some (word.getD [])) r
      else if c = '"' then splitFrom .double (some (word.getD [])) r
      else if c = '\\' then splitFrom .escaped word r
      else if isGap c then (splitFrom .bare none r).map (word.toList.map ended ++ ·)
      else if c = '#' ∧ word = none then splitFrom .comment none r
      else splitFrom .bare (some (c :: word.getD [])) r
  | .escaped, word, c :: r =>
      if c = '\n' then splitFrom .bare word r else splitFrom .bare (some (c :: word.getD [])) r
  | .single, word, c :: r =>
      if c = '\'' then splitFrom .bare word r
      else splitFrom .single (some (c :: word.getD [])) r
  | .double, word, c :: r =>
      if c = '"' then splitFrom .bare word r
      else if c = '\\' then splitFrom .doubleEscaped word r
      else splitFrom .double (some (c :: word.getD [])) r
  | .doubleEscaped, word, c :: r =>
      if c = '\n' then splitFrom .double word r
      else if isTamed c then splitFrom .double (some (c :: word.getD [])) r
      else splitFrom .double (some (c :: '\\' :: word.getD [])) r
  | .comment, _, c :: r => splitFrom (if c = '\n' then .bare else .comment) none r

/-- **The words of a command line**, unless a quote is not closed. -/
def split (text : String) : Option (List String) :=
  (splitFrom .bare none text.toList).map fun ws => ws.map String.ofList

/-- The characters that mean something. -/
def meaningful : List Char :=
  ['|', '&', ';', '<', '>', '(', ')', '$', '`', '\\', '"', '\'', ' ', '\t', '\n', '*', '?', '[',
    '#', '~', '=', '%']

/-- A character between single quotes. -/
def shown (c : Char) : List Char := if c = '\'' then ['\'', '\\', '\'', '\''] else [c]

/-- A word, in single quotes where it needs them. -/
def quote (word : String) : String :=
  let cs := word.toList
  if cs.isEmpty || cs.any meaningful.contains then
    String.ofList ('\'' :: cs.flatMap shown ++ ['\''])
  else word

/-- **A command line with these words.** -/
def join (words : List String) : String := " ".intercalate (words.map quote)

end CommandConsole.Words
