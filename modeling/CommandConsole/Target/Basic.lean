import CommandConsole.Target.Words
import CommandConsole.Text.Blank
import CommandConsole.Trouble
import CommandConsole.Web.Address

/-!
# Backend targets

Where the data of a console is: with a tool server that is started by a command line, or behind a
web address. A text that is no web address is a command line. Only local servers can be used; web
addresses are told apart so that they can be refused with a reason.
-/

set_option autoImplicit false

namespace CommandConsole

/-- Where the data of a console is. -/
inductive Target where
  | program (name : String) (args : List String)
  | remote (address : Web.Address)
deriving DecidableEq, Repr

namespace Target

/-- The command line that a text gives. -/
def ofCommandLine (text : String) : Except Trouble Target :=
  match Words.split text with
  | none =>
      .error ⟨"Failed to parse backend command line (unbalanced quotes?)",
        ["missing closing quote"]⟩
  | some [] => .error (.of "Empty program name in backend command")
  | some (name :: args) =>
      if name.isEmpty then .error (.of "Empty program name in backend command")
      else .ok (.program name args)

/-- **The target that a text gives.** -/
def read (text : String) : Except Trouble Target :=
  let text := String.ofList (Text.trim text.toList)
  if text.isEmpty then .error (.of "Backend target is empty")
  else match Web.Address.read? text with
    | some a => .ok (.remote a)
    | none => ofCommandLine text

/-- A target in words. -/
def shown : Target → String
  | .program name args => "local: " ++ Words.join (name :: args)
  | .remote a => "remote: " ++ a.text

/-- The command line of a local server; other targets are refused. -/
def command : Target → Except Trouble (String × List String)
  | .program name args => .ok (name, args)
  | .remote a => .error (.of s!"remote backends are not supported yet: {a.text}")

end Target

end CommandConsole
