import CommandConsole.Alias.Store
import CommandConsole.Completer
import CommandConsole.Dispatch
import CommandConsole.LineState
import CommandConsole.Sink
import CommandConsole.Table
import CommandConsole.ToolServer

/-!
# Sessions

A session is a console with its surroundings: the backend, the alias store, the opener of views,
the line that is being edited, the sink, the log and the files. `answer` answers the questions of
a task on a session, and `run` runs a whole task on it.

A line is submitted in two parts. `enter` takes it down, at once: in the history, and on the sink
where lines are echoed. `settle` runs it and shows its outcome, whenever that is.
-/

set_option autoImplicit false

namespace CommandConsole

/-- What answers requests: records in memory, a list of replies that also keeps what it is asked,
or a program of the host. -/
inductive Backend where
  | records (s : Records.Store)
  | script (replies : List (Except String Json)) (received : List Request)
  | program (host : Programs) (name : String) (args : List String)

/-- What opens views: the description is shown on the sink, or kept, and then perhaps refused. -/
inductive Opener where
  | echo
  | recorder (opened : List View) (refusal : Option String)
deriving DecidableEq, Repr

/-- A console with its surroundings. -/
structure Session where
  registry : Registry
  aliasLimit : Nat
  echo : Bool
  backend : Backend
  aliases : Alias.Store
  opener : Opener
  line : LineState
  offered : Option String
  sink : Sink
  level : LogLevel
  log : List LogEntry
  files : Files
  columns : Option String

namespace Session

/-- How many aliases one line may go through. -/
def defaultAliasLimit : Nat := 8

/-- A session without commands and records, on a page. -/
def start : Session :=
  { registry := .empty, aliasLimit := defaultAliasLimit, echo := true
    backend := .records .empty, aliases := .memory .empty, opener := .echo
    line := .start, offered := none, sink := .page, level := .info, log := []
    files := [], columns := none }

/-! ## The log -/

/-- Reports something, where the level lets it through. -/
def report (s : Session) (level : LogLevel) (message : String) : Session :=
  if level.shownAt s.level then { s with log := s.log ++ [⟨level, message⟩] } else s

/-! ## Collaborators -/

/-- Asks a backend. -/
def callBackend (s : Session) (r : Request) : Except String Json × Session :=
  match s.backend with
  | .records store =>
      let s := s.report .trace s!"memory call {r.model}.{r.method}"
      let (reply, store) := store.answer r
      (reply, { s with backend := .records store })
  | .script [] received =>
      (.error "script exhausted", { s with backend := .script [] (received ++ [r]) })
  | .script (reply :: replies) received =>
      (reply, { s with backend := .script replies (received ++ [r]) })
  | .program host name args =>
      let s := s.report .trace
        s!"mcp call {r.model}.{r.method} args={r.args.length} kwargs={r.named.length}"
      match host.call name args r with
      | .ok v => (.ok v, s)
      | .error e => (.error e, s.report .debug s!"mcp call failed: {e}")

/-- Asks for the alias records of an alias store. -/
def callAliases (s : Session) (r : Request) : Except String Json × Session :=
  match s.aliases with
  | .records store =>
      let s := s.report .trace s!"memory call {r.model}.{r.method}"
      let (reply, store) := store.answer r
      (reply, { s with aliases := .records store })
  | _ => s.callBackend r

/-- Looks an alias up. -/
def findAlias (s : Session) (name : String) : Except String (Option Alias.Record) × Session :=
  match s.aliases with
  | .memory store => (.ok (store.table.find? name), s)
  | _ =>
      let (reply, s) := s.callAliases (Alias.findRequest name)
      (reply.bind Alias.found, s)

/-- Changes an alias. -/
def changeAlias (s : Session) (c : Alias.Change) : Except String Int × Session :=
  match s.aliases with
  | .memory store =>
      let (reply, store, files) := store.change s.files c
      (reply, { s with aliases := .memory store, files := files })
  | _ =>
      let (reply, s) := s.callAliases (Alias.changeRequest c)
      (reply.bind (Alias.changed c), s)

/-- Opens a view. -/
def openView (s : Session) (v : View) : Except String Unit × Session :=
  match s.opener with
  | .echo => (.ok (), { s with sink := s.sink.writeEscaped s!"open: {v.text}" true })
  | .recorder opened refusal =>
      let s := { s with opener := .recorder (opened ++ [v]) refusal }
      match refusal with
      | none => (.ok (), s)
      | some e => (.error e, s)

/-! ## Running tasks -/

/-- Runs a task, each question of it answered in turn. There is no answer to a task with a
question that has none. -/
def runWith (answer : (q : Query) → Session → Option (q.Answer × Session)) {α : Type} :
    Task α → Session → Option (α × Session)
  | .done a, s => some (a, s)
  | .ask q next, s =>
      match answer q s with
      | some (a, s) => runWith answer (next a) s
      | none => none

/-- The answer to a question. Lines may run lines, up to the given depth. -/
def answer : (nesting : Nat) → (q : Query) → Session → Option (q.Answer × Session)
  | _, .call r, s => some (s.callBackend r)
  | _, .findAlias name, s => some (s.findAlias name)
  | _, .changeAlias c, s => some (s.changeAlias c)
  | _, .openView v, s => some (s.openView v)
  | _, .commands, s => some (s.registry.synopses, s)
  | _, .history, s => some (s.line.history, s)
  | _, .setLevel level, s => some ((), { s with level := level })
  | _, .log level message, s => some ((), s.report level message)
  | 0, .execute _, _ => none
  | nesting + 1, .execute line, s =>
      runWith (answer nesting) (Dispatch.execute s.registry s.aliasLimit line) s

/-- How deep lines may run lines. -/
def maxNesting : Nat := 100

/-- Runs a task on a session. -/
def run {α : Type} (s : Session) (t : Task α) : Option (α × Session) :=
  runWith (answer maxNesting) t s

/-- **The outcome of a line on a session.** There is none for a line that runs lines without
end. -/
def execute (s : Session) (line : String) : Option (Outcome × Session) :=
  s.run (Dispatch.execute s.registry s.aliasLimit line)

/-! ## Submitting lines -/

/-- Shows an outcome. -/
def render (s : Session) : Outcome → Session
  | .ok .none => s
  | .ok (.text t) => { s with sink := s.sink.writeEscaped t true }
  | .ok (.markup t) => { s with sink := s.sink.write t true }
  | .ok (.table headers rows) =>
      let text := Table.render (.forHost s.columns) headers rows
      { s with sink := s.sink.writeEscaped text true }
  | .ok .clear => { s with sink := s.sink.clear }
  | .error e =>
      let s := s.report .trace s!"command failed: {e.logged}"
      { s with sink := s.sink.writeEscaped s!"[!] {e.message}" true }

/-- Takes a line down. A line without a word is nothing. -/
def enter (s : Session) (line : String) : Session :=
  if Text.isBlankString line then s
  else
    let s := { s with line := s.line.submit line }
    if s.echo then { s with sink := s.sink.writeEscaped s!"> {line}" true } else s

/-- Runs a line that was taken down, and shows its outcome. -/
def settle (s : Session) (line : String) : Option Session :=
  if Text.isBlankString line then some s
  else (s.execute line).map fun (outcome, s) => s.render outcome

/-- **Submits a line and waits for its outcome.** -/
def submit (s : Session) (line : String) : Option Session := (s.enter line).settle line

/-! ## Commands and keys -/

/-- Puts a command in. -/
def register (s : Session) (d : Definition) : Session :=
  let s := match s.registry.replacing? d with
    | some message => s.report .debug message
    | none => s
  { s with registry := s.registry.register d }

/-- Takes out the command with a name, if there is one. -/
def unregister (s : Session) (name : String) : Option Definition × Session :=
  let (d?, registry) := s.registry.unregister name
  (d?, { s with registry := registry })

/-- A session with more commands. -/
def registerAll (s : Session) (ds : List Definition) : Session := ds.foldl register s

/-- The completion key, with what is in the line. -/
def complete (s : Session) (buffer : String) : Option String × Session :=
  let (name, line) := s.line.complete buffer s.registry.names
  (name, { s with line := line })

/-- The completion key in a line editor, with the line and the place of the cursor in bytes. -/
def tab (s : Session) (line : String) (cursor : Nat) : Option String × Session :=
  let (name, state, offered) := Completer.offer s.offered s.line s.registry.names line cursor
  (name, { s with line := state, offered := offered })

/-- What the line editor is told when the completion key is pressed. -/
def candidates (s : Session) (line : String) (cursor : Nat) :
    (Nat × List Completer.Candidate) × Session :=
  let (name, s) := s.tab line cursor
  (Completer.candidates name, s)

/-- One line back. -/
def previous (s : Session) : Option String × Session :=
  let (line, state) := s.line.previous
  (line, { s with line := state })

/-- One line forward. -/
def next (s : Session) : String × Session :=
  let (line, state) := s.line.next
  (line, { s with line := state })

/-- Any other key. -/
def edit (s : Session) : Session := { s with line := s.line.edit }

end Session

end CommandConsole
