/-!
# Arguments of the program

A flag is a long name behind two hyphens or a letter behind one; letters can share a hyphen. An
option takes a value, from the rest of its argument or from the next one. Whatever is neither is
refused, and so is a flag or an option that is given twice, except those that add up.
-/

set_option autoImplicit false

namespace CommandConsole.Cli

/-- What the arguments ask for. -/
structure Arguments where
  verbose : Nat
  quiet : Bool
  backend : Option String
  config : Option String
  aliases : Option String
  commands : List String
  noBanner : Bool
deriving DecidableEq, Repr

/-- Why no session comes of the arguments: they ask for help or for the version, or they make no
sense. -/
inductive Stop where
  | help
  | version
  | refused (reason : String)
deriving DecidableEq, Repr

/-- A flag. -/
inductive Flag where
  | verbose
  | quiet
  | noBanner
  | help
  | version
deriving DecidableEq, Repr

/-- An option. -/
inductive Setting where
  | backend
  | config
  | aliases
  | command
deriving DecidableEq, Repr

namespace Flag

/-- All flags. -/
def all : List Flag := [verbose, quiet, noBanner, help, version]

/-- The long name of a flag. -/
def name : Flag → String
  | verbose => "verbose"
  | quiet => "quiet"
  | noBanner => "no-banner"
  | help => "help"
  | version => "version"

/-- The letter of a flag. -/
def letter? : Flag → Option Char
  | verbose => some 'v'
  | quiet => some 'q'
  | noBanner => none
  | help => some 'h'
  | version => some 'V'

end Flag

namespace Setting

/-- All options. -/
def all : List Setting := [backend, config, aliases, command]

/-- The long name of an option. -/
def name : Setting → String
  | backend => "backend"
  | config => "config"
  | aliases => "aliases"
  | command => "command"

/-- The letter of an option. -/
def letter? : Setting → Option Char
  | backend => some 'b'
  | command => some 'c'
  | _ => none

end Setting

namespace Arguments

/-- No arguments. -/
def none : Arguments := ⟨0, false, .none, .none, .none, [], false⟩

/-- A flag or an option that is given twice. -/
def twice (name : String) : Stop :=
  .refused s!"the argument '--{name}' cannot be used multiple times"

/-- An option without a value. -/
def valueMissing (o : Setting) : Stop :=
  .refused s!"a value is required for '--{o.name}' but none was supplied"

/-- An argument that is neither a flag nor an option. -/
def unexpected (arg : String) : Stop := .refused s!"unexpected argument '{arg}' found"

/-- A flag is given. -/
def raise (a : Arguments) : Flag → Except Stop Arguments
  | .verbose => .ok { a with verbose := a.verbose + 1 }
  | .quiet => if a.quiet then .error (twice "quiet") else .ok { a with quiet := true }
  | .noBanner => if a.noBanner then .error (twice "no-banner") else .ok { a with noBanner := true }
  | .help => .error .help
  | .version => .error .version

/-- An option is given. The path of a file is not empty. -/
def put (a : Arguments) (o : Setting) (value : String) : Except Stop Arguments :=
  match o with
  | .backend =>
      if a.backend.isSome then .error (twice o.name) else .ok { a with backend := some value }
  | .config =>
      if a.config.isSome then .error (twice o.name)
      else if value.isEmpty then .error (valueMissing o)
      else .ok { a with config := some value }
  | .aliases =>
      if a.aliases.isSome then .error (twice o.name)
      else if value.isEmpty then .error (valueMissing o)
      else .ok { a with aliases := some value }
  | .command => .ok { a with commands := a.commands ++ [value] }

/-- The kinds of arguments by the hyphens that they start with. A long name can have a value
behind an equals sign. -/
inductive Kind where
  | rest
  | long (name : String) (value : Option String)
  | letters (cs : List Char)
  | word
deriving DecidableEq, Repr

/-- The kind of an argument. -/
def kindOf (arg : String) : Kind :=
  match arg.toList with
  | ['-', '-'] => .rest
  | '-' :: '-' :: cs =>
      let (name, r) := cs.span (· ≠ '=')
      .long (String.ofList name) (if r.isEmpty then .none else some (String.ofList (r.drop 1)))
  | '-' :: c :: cs => .letters (c :: cs)
  | _ => .word

/-- Reads letters. An option among them takes what follows it as its value, behind an equals sign
if there is one; it waits for the next argument when nothing follows. -/
def readLetters (arg : String) : Arguments → List Char → Except Stop (Arguments × Option Setting)
  | a, [] => .ok (a, .none)
  | a, c :: r =>
      match Flag.all.find? fun f => f.letter? = some c with
      | some f =>
          match a.raise f with
          | .ok a => readLetters arg a r
          | .error e => .error e
      | .none =>
          match Setting.all.find? fun o => o.letter? = some c with
          | .none => .error (unexpected arg)
          | some o =>
              if r.isEmpty then .ok (a, some o)
              else
                let value := if r.head? = some '=' then r.drop 1 else r
                (a.put o (String.ofList value)).map fun a => (a, .none)

/-- Reads a long name, and says which option waits for a value. -/
def readLong (a : Arguments) (arg name : String) (value : Option String) :
    Except Stop (Arguments × Option Setting) :=
  match Flag.all.find? (·.name = name), Setting.all.find? (·.name = name), value with
  | some f, _, .none => (a.raise f).map fun a => (a, .none)
  | some _, _, some _ => .error (unexpected arg)
  | .none, some o, some value => (a.put o value).map fun a => (a, .none)
  | .none, some o, .none => .ok (a, some o)
  | .none, .none, _ => .error (unexpected arg)

/-- Reads one argument that is not a value, with those behind it. -/
def readNext (a : Arguments) (arg : String) (behind : List String) :
    Except Stop (Arguments × Option Setting) :=
  match kindOf arg with
  | .rest =>
      match behind with
      | [] => .ok (a, .none)
      | arg :: _ => .error (unexpected arg)
  | .long name value => a.readLong arg name value
  | .letters cs => readLetters arg a cs
  | .word => .error (unexpected arg)

/-- Reads arguments on. An option that waits takes the next one, unless that looks like a flag. -/
def readFrom : Arguments → (waiting : Option Setting) → List String → Except Stop Arguments
  | a, .none, [] => .ok a
  | _, some o, [] => .error (valueMissing o)
  | a, .none, arg :: r =>
      match a.readNext arg r with
      | .ok (a, waiting) => readFrom a waiting r
      | .error e => .error e
  | a, some o, arg :: r =>
      if kindOf arg = .word then
        match a.put o arg with
        | .ok a => readFrom a .none r
        | .error e => .error e
      else .error (valueMissing o)

/-- **What arguments ask for.** -/
def read (args : List String) : Except Stop Arguments := readFrom none .none args

end Arguments

end CommandConsole.Cli
