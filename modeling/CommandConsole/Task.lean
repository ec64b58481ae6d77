import CommandConsole.Alias.Table
import CommandConsole.CommandError
import CommandConsole.LogLevel
import CommandConsole.Output
import CommandConsole.Request
import CommandConsole.Signature
import CommandConsole.View

/-!
# Tasks

What a command does is a task: it ends, or it asks its surroundings a question and goes on with
the answer. The questions are the whole of what a command can see and do. Who answers is not part
of a task, so one task can be run on a session, against any answers at all, or in steps between
the steps of others.
-/

set_option autoImplicit false

namespace CommandConsole

/-- What is known of a command apart from what it does. -/
structure Synopsis where
  name : String
  summary : String
  detail : String
  usage : String
  signature : Signature
deriving DecidableEq, Repr

/-- What a line comes to. -/
abbrev Outcome := Except CommandError Output

/-- A question of a task to its surroundings. -/
inductive Query where
  | call (r : Request)
  | findAlias (name : String)
  | changeAlias (c : Alias.Change)
  | openView (v : View)
  | commands
  | history
  | setLevel (level : LogLevel)
  | log (level : LogLevel) (message : String)
  | execute (line : String)

/-- The answers to a question. A collaborator that fails answers with its complaint. -/
abbrev Query.Answer : Query → Type
  | .call _ => Except String Json
  | .findAlias _ => Except String (Option Alias.Record)
  | .changeAlias _ => Except String Int
  | .openView _ => Except String Unit
  | .commands => List Synopsis
  | .history => List String
  | .setLevel _ => Unit
  | .log _ _ => Unit
  | .execute _ => Outcome

/-- A computation that asks questions. -/
inductive Task (α : Type) : Type where
  | done (a : α)
  | ask (q : Query) (next : q.Answer → Task α)

namespace Task

/-- A task and then another one. -/
def bind {α β : Type} : Task α → (α → Task β) → Task β
  | .done a, f => f a
  | .ask q next, f => .ask q fun a => (next a).bind f

instance : Monad Task where
  pure := .done
  bind := bind

/-- Asks one question. -/
def query (q : Query) : Task q.Answer := .ask q .done

/-- Reports something. -/
def log (level : LogLevel) (message : String) : Task Unit := query (.log level message)

end Task

/-- Why a command has no output: an error it reports, or a panic with its text, if it has one. -/
inductive Fault where
  | error (e : CommandError)
  | panic (message : Option String)
deriving DecidableEq, Repr

/-- What a command does with its arguments. -/
abbrev Action (α : Type) := ExceptT Fault Task α

namespace Action

/-- The action fails. -/
def fail {α : Type} (e : CommandError) : Action α := throw (.error e)

/-- An action that has come to its end. -/
def ofExcept {α : Type} : Except CommandError α → Action α
  | .ok a => pure a
  | .error e => fail e

/-- Asks one question. -/
def query (q : Query) : Action q.Answer := ExceptT.lift (Task.query q)

/-- The answer of a collaborator; its complaint waits for the name of the command. -/
def expect {α : Type} : Except String α → Action α
  | .ok a => pure a
  | .error cause => fail (.remote "" cause)

/-- Reports something. -/
def log (level : LogLevel) (message : String) : Action Unit := ExceptT.lift (Task.log level message)

end Action

end CommandConsole
