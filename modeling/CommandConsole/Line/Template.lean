import CommandConsole.Line.Quote
import CommandConsole.Number.Decimal

/-!
# Templates

An alias stores a template: a line in which `$1`, `$2`, … stand for arguments. `substitute`
fills it in one pass: the longest run of digits behind a dollar sign is the number of the
argument, which is written with `quote` so that it stays one token. A placeholder without an
argument (no digits, zero, a number beyond the arguments) stays as it is, and text that came from
an argument is never read again. A number beyond a machine word is beyond the arguments as well,
since a word counts them.
-/

set_option autoImplicit false

namespace CommandConsole.Line

/-- The argument that a run of digits asks for, counted from one. -/
def argument? (args : List (List Char)) (digits : List Char) : Option (List Char) :=
  match Number.ofDigits digits with
  | 0 => none
  | n + 1 => args[n]?

/-- What a placeholder with these digits becomes. -/
def placeholder (args : List (List Char)) (digits : List Char) : List Char :=
  match argument? args digits with
  | some arg => quote arg
  | none => '$' :: digits

/-- Fills a template. `digits` holds the digits read since an open dollar sign, last first. -/
def fill (args : List (List Char)) : (digits : Option (List Char)) → List Char → List Char
  | none, [] => []
  | some ds, [] => placeholder args ds.reverse
  | none, c :: r => if c = '$' then fill args (some []) r else c :: fill args none r
  | some ds, c :: r =>
      if Number.isDigit c then fill args (some (c :: ds)) r
      else placeholder args ds.reverse ++
        (if c = '$' then fill args (some []) r else c :: fill args none r)

/-- **A template with its placeholders replaced by arguments.** -/
def substitute (template : String) (args : List String) : String :=
  String.ofList (fill (args.map String.toList) none template.toList)

end CommandConsole.Line
