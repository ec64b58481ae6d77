import CommandConsole.Line.Token

/-!
# Writing an argument into a command line

`quoteArgument` writes a text so that it is one token of the line it is put into. A plain word
stands as it is. A text that is empty, starts with a quote or contains white space is wrapped
in a quote that it does not contain; when it contains both, its double quotes become single
ones, which `normalizeQuotes` makes equal again in a structured argument.
-/

set_option autoImplicit false

namespace CommandConsole.Line

open Text

/-- Whether a text has to be wrapped in quotes to be one token. -/
def needsQuotes (arg : List Char) : Bool :=
  arg.isEmpty || (openingQuote arg).isSome || arg.any isBlank

/-- Every double quote becomes a single one. -/
def singleQuotes (cs : List Char) : List Char := cs.map fun c => if c = '"' then '\'' else c

/-- Every single quote becomes a double one. -/
def doubleQuotes (cs : List Char) : List Char := cs.map fun c => if c = '\'' then '"' else c

/-- A text between two quotes. -/
def wrap (quote : Char) (cs : List Char) : List Char := quote :: cs ++ [quote]

/-- A text written as one token. -/
def quote (arg : List Char) : List Char :=
  if !needsQuotes arg then arg
  else if !arg.contains '"' then wrap '"' arg
  else if !arg.contains '\'' then wrap '\'' arg
  else wrap '"' (singleQuotes arg)

/-- **An argument, written so that it is one token of a line.** -/
def quoteArgument (arg : String) : String := String.ofList (quote arg.toList)

/-- A structured argument with every quote made a double one, so that `['name', 'like', 'x']`
can be read as JSON. -/
def normalizeQuotes (arg : String) : String := String.ofList (doubleQuotes arg.toList)

end CommandConsole.Line
