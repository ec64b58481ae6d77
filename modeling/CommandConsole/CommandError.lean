import CommandConsole.Text.Literal

/-!
# Errors of a line

What can come of a line instead of an output. A collaborator of the console (the backend, the
alias store, the view opener) reports a failure as a text; such a failure, and one of a command
itself, is raised without a command and gets its name where the command was called. One that
has a name keeps it: what a nested line failed with is not blamed on the command around it.
-/

set_option autoImplicit false

namespace CommandConsole

/-- Why a line has no output. -/
inductive CommandError where
  | notFound (name : String)
  | badArguments (command usage : String)
  | aliasTooDeep (name : String) (depth : Nat)
  | badAliasName (name : String)
  | remote (command cause : String)
  | execution (command cause : String)
  | malformed (cause : String)
  | badSignature (signature reason : String)
deriving DecidableEq, Repr

namespace CommandError

/-- An error as the user reads it. -/
def message : CommandError → String
  | notFound name => s!"'{name}' command not found"
  | badArguments command usage =>
      s!"invalid arguments for '{command}' (usage: {command} {usage})"
  | aliasTooDeep name depth =>
      s!"alias '{name}' exceeded the expansion limit of {depth} levels"
  | badAliasName name => s!"invalid alias name '{name}'"
  | remote command cause => s!"{command}: {cause}"
  | execution command cause => s!"error executing '{command}': {cause}"
  | malformed cause => s!"malformed payload: {cause}"
  | badSignature signature reason => s!"invalid argument spec '{signature}': {reason}"

/-- An error as the log shows it. -/
def logged : CommandError → String
  | notFound name => s!"CommandNotFound({Text.literal name})"
  | badArguments command usage =>
      "InvalidArguments \x7b command: " ++ Text.literal command ++ ", usage: " ++
        Text.literal usage ++ " \x7d"
  | aliasTooDeep name depth =>
      "AliasCycle \x7b name: " ++ Text.literal name ++ s!", depth: {depth} " ++ "\x7d"
  | badAliasName name => s!"InvalidAliasName({Text.literal name})"
  | remote command cause =>
      "RemoteCallFailed \x7b command: " ++ Text.literal command ++ ", cause: " ++
        Text.literal cause ++ " \x7d"
  | execution command cause =>
      "CommandExecutionFailed \x7b command: " ++ Text.literal command ++ ", cause: " ++
        Text.literal cause ++ " \x7d"
  | malformed cause => s!"MalformedPayload({Text.literal cause})"
  | badSignature signature reason =>
      "InvalidArgSpec \x7b spec: " ++ Text.literal signature ++ ", reason: " ++
        Text.literal reason ++ " \x7d"

/-- The error with the name of a command, if it waits for one. -/
def blame (name : String) : CommandError → CommandError
  | remote "" cause => remote name cause
  | execution "" cause => execution name cause
  | e => e

end CommandError

end CommandConsole
