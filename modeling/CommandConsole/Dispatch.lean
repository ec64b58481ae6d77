import CommandConsole.Line.Template
import CommandConsole.Line.Token
import CommandConsole.Registry

/-!
# From a line to its outcome

The first token of a line names a command or else an alias. A command is called with the other
tokens if its signature accepts them, and whatever goes wrong in it becomes an error with its
name. An alias stands for another line, in which its arguments are filled in, and so on: the
limit bounds how many aliases one line may go through, and a name that is neither a command nor
within the limit is refused before the store is asked.
-/

set_option autoImplicit false

namespace CommandConsole

namespace Dispatch

/-- The text of a panic that does not bring one. -/
def unnamedPanic : String := "handler panicked"

/-- The outcome of a command called by name. -/
def settle (name : String) : Except Fault Output → Outcome
  | .ok out => .ok out
  | .error (.error e) => .error (e.blame name)
  | .error (.panic message) => .error (.execution name (message.getD unnamedPanic))

/-- Calls a command. -/
def call (d : Definition) (args : List String) : Task Outcome := do
  if d.signature.accepts (args.map String.toList) then
    Task.log .debug s!"dispatch '{d.name}' ({args.length} arg(s))"
    let result ← (d.handler args).run
    return settle d.name result
  else
    Task.log .debug
      s!"'{d.name}' rejected arguments {Text.literals args} (spec '{d.signature.text}')"
    return .error (.badArguments d.name d.usage)

/-- The outcome of a line that may go through `left` aliases more, of `limit` in all. -/
def executeWithin (registry : Registry) (limit : Nat) (left : Nat) (line : String) :
    Task Outcome :=
  match Line.tokenize line with
  | [] => return .ok .none
  | name :: args =>
      match registry.lookup name with
      | some d => call d args
      | none =>
          match left with
          | 0 => return .error (.aliasTooDeep name limit)
          | left + 1 => do
              match ← Task.query (.findAlias name) with
              | .error cause => return .error (.remote name cause)
              | .ok none =>
                  Task.log .debug s!"no command or alias named '{name}'"
                  return .error (.notFound name)
              | .ok (some record) =>
                  let expanded := Line.substitute record.command args
                  Task.log .debug s!"alias '{name}' -> {expanded}"
                  executeWithin registry limit left expanded

/-- **The outcome of a line.** -/
def execute (registry : Registry) (limit : Nat) (line : String) : Task Outcome :=
  executeWithin registry limit limit line

end Dispatch

end CommandConsole
