import CommandConsole.Task
import CommandConsole.Text.LetterCase

/-!
# The registry of commands

A definition is what is known of a command together with what it does. The registry holds the
definitions by name: the one registered last under a name is the one that counts, and the listing
is by name.
-/

set_option autoImplicit false

namespace CommandConsole

/-- A command: what is known of it and what it does with arguments that its signature accepts. -/
structure Definition extends Synopsis where
  handler : List String → Action Output

namespace Definition

/-- A command without texts, if its signature can be read. -/
def make (name signature : String) (handler : List String → Action Output) :
    Except CommandError Definition :=
  match Signature.read signature.toList with
  | .ok slots => .ok { name, summary := "", detail := "", usage := "", signature := slots, handler }
  | .error flaw => .error (.badSignature signature flaw.message)

/-- A definition as the log shows it. -/
def logged (s : Synopsis) : String :=
  "CommandDefinition \x7b name: " ++ Text.literal s.name ++ ", summary: " ++
    Text.literal s.summary ++ ", usage: " ++ Text.literal s.usage ++ ", args: " ++
    Text.literal s.signature.text ++ ", .. \x7d"

end Definition

/-- Definitions by name. -/
abbrev Registry := List (String × Definition)

namespace Registry

/-- No commands. -/
def empty : Registry := []

/-- The command with exactly this name. -/
def lookup (r : Registry) (name : String) : Option Definition := Assoc.find? name r

/-- A command put in, in place of the one that had its name. -/
def register (r : Registry) (d : Definition) : Registry := Assoc.insert d.name d r

/-- The command with this name taken out: the command, if there is one, and the registry without
it. -/
def unregister (r : Registry) (name : String) : Option Definition × Registry := Assoc.take name r

/-- What is reported when a command is put in. -/
def replacing? (r : Registry) (d : Definition) : Option String :=
  if (r.lookup d.name).isSome then
    some s!"command '{d.name}' re-registered; replacing definition"
  else none

/-- The commands in the order of their names. -/
def listing (r : Registry) : List Definition := Assoc.values r

/-- What is known of the commands, in the order of their names. -/
def synopses (r : Registry) : List Synopsis := r.listing.map (·.toSynopsis)

/-- The names, in order. -/
def names (r : Registry) : List String := Assoc.keys r

/-- Whether one of the names is this one up to the case of ASCII letters. -/
def containsIgnoringCase (names : List String) (name : String) : Bool :=
  names.any fun n => Text.sameIgnoringCase n.toList name.toList

end Registry

end CommandConsole
