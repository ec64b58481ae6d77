import CommandConsole.Cli.Arguments
import CommandConsole.Line.Typed
import CommandConsole.Session
import CommandConsole.Settings.File
import CommandConsole.Target.Basic
import CommandConsole.Vocabulary

/-!
# The program

From its arguments and its surroundings the program makes a session, or ends at once: with help or
the version, with what is wrong with the arguments, or with the trouble that a file or the backend
brings. The session then takes lines, those of the arguments or else those of its input.

What the arguments say goes before the environment, and that before the settings file.
-/

set_option autoImplicit false

namespace CommandConsole.Cli

/-- What the program runs in. -/
structure Surroundings where
  columns : Option String
  backend : Option String
  files : Files
  programs : Programs

/-- How the program ends without having taken a line: the code, the output, the messages of the
log, and the last words. -/
structure Ending where
  code : Nat
  output : String
  log : List LogEntry
  complaint : String
deriving DecidableEq, Repr

/-- A session that is about to take lines: those of the arguments, if there are any. -/
structure Opening where
  session : Session
  batch : List String

/-! ## Texts -/

/-- The name of the program and its version. -/
def versionText : String := "admin-console 0.1.0\n"

/-- What the program says about its arguments. -/
def helpText : String :=
  "\n".intercalate
    ["Admin Console - command console for enterprise admin backends",
     "",
     "Usage: admin-console [OPTIONS]",
     "",
     "Options:",
     "  -v, --verbose...        Increase verbosity (-v, -vv)",
     "  -q, --quiet             Silence all non-error output",
     "  -b, --backend <TARGET>  Backend target (local MCP server command line)",
     "      --config <PATH>     Config file (.json / .yaml / .yml)",
     "      --aliases <PATH>    Alias file (.json / .yaml / .yml); created on first change",
     "  -c, --command <LINE>    Run a console line and exit (repeatable, runs in order)",
     "      --no-banner         Skip the welcome banner",
     "  -h, --help              Print help",
     "  -V, --version           Print version",
     ""]

/-- What a session for a person starts with. -/
def banner : List String :=
  ["Admin Console v0.1.0", "Type 'help' or 'help <command>' to start."]

/-- How the program ends without a session that takes lines. -/
def Stop.ending : Stop → Ending
  | .help => ⟨0, helpText, [], ""⟩
  | .version => ⟨0, versionText, [], ""⟩
  | .refused reason => ⟨2, "", [], s!"error: {reason}"⟩

/-- How the program ends in trouble. -/
def troubled (s : Session) (t : Trouble) : Ending := ⟨1, s.sink.contents, s.log, t.report⟩

/-! ## Making the session -/

/-- The settings that the arguments name. -/
def settingsOf (a : Arguments) (w : Surroundings) : Except Trouble Settings :=
  match a.config with
  | some path => Settings.load w.files path
  | none => .ok .default

/-- The text of the target. A blank one in the environment is none. -/
def targetOf (a : Arguments) (w : Surroundings) (settings : Settings) : Option String :=
  a.backend <|> w.backend.filter (fun t => !Text.isBlankString t) <|> settings.backend

/-- The session with a backend. -/
def withBackend (w : Surroundings) (target : Option String) (s : Session) :
    Except Ending Session :=
  match target with
  | none => .ok (s.report .info "no backend configured; records are kept in memory")
  | some text =>
      match Target.read text with
      | .error t => .error ⟨2, "", s.log, s!"Invalid backend '{text}': {t.summary}"⟩
      | .ok target =>
          let s := s.report .info s!"backend {target.shown}"
          match target.command with
          | .error t => .error (troubled s t)
          | .ok (name, args) => .ok { s with backend := .program w.programs name args }

/-- The session with its aliases: in a file, or where the records are. -/
def withAliases (path : Option String) (hasTarget : Bool) (s : Session) :
    Except Ending Session :=
  match path with
  | none => .ok (if hasTarget then { s with aliases := .backend } else s)
  | some path =>
      match Alias.MemoryStore.open? s.files path with
      | .error t => .error (troubled s t)
      | .ok store =>
          let s := match store.loaded? s.files with
            | some message => s.report .debug message
            | none => s
          .ok { s with aliases := .memory store }

/-- The session with its first lines of output. -/
def withBanner (shown : Bool) (s : Session) : Session :=
  if shown then { s with sink := banner.foldl (fun k line => k.write line true) s.sink } else s

/-- A session of the program before anything is known but the log level. -/
def bare (a : Arguments) (w : Surroundings) : Session :=
  { Session.start with
    echo := !a.commands.isEmpty, sink := .terminal, level := .ofFlags a.verbose a.quiet
    files := w.files, columns := w.columns }

/-- The session that the arguments ask for. -/
def openWith (a : Arguments) (w : Surroundings) : Except Ending Opening :=
  let s := bare a w
  match settingsOf a w with
  | .error t => .error (troubled s t)
  | .ok settings => do
      let target := targetOf a w settings
      let s ← withBackend w target { s with aliasLimit := settings.aliasDepth }
      let s ← withAliases (a.aliases <|> settings.aliasFile) target.isSome s
      let s := s.registerAll Vocabulary.commands
      let shown := a.commands.isEmpty && settings.banner && !a.noBanner
      return ⟨withBanner shown s, a.commands⟩

/-- **The session of the program**, or how it ends without one. -/
def start (args : List String) (w : Surroundings) : Except Ending Opening :=
  match Arguments.read args with
  | .error stop => .error stop.ending
  | .ok a => openWith a w

/-! ## Taking lines -/

/-- A line of input without what ends it. -/
def chomp (line : List Char) : List Char :=
  match line.reverse with
  | '\n' :: '\r' :: r => r.reverse
  | '\n' :: r => r.reverse
  | _ => line

/-- Puts a character in front of the first line. -/
def consLine (c : Char) : List (List Char) → List (List Char)
  | [] => [[c]]
  | l :: ls => (c :: l) :: ls

/-- The lines of an input, each with what ends it. -/
def linesOf : List Char → List (List Char)
  | [] => []
  | c :: r => if c = '\n' then [c] :: linesOf r else consLine c (linesOf r)

/-- A line of input as a text. -/
def lineText (line : List Char) : String := String.ofList (Line.typed (chomp line))

/-- The session behind a line. One that runs lines without end is left out. -/
def take (s : Session) (line : String) : Session := (s.submit line).getD s

/-- The session behind its lines. -/
def takeAll (s : Session) (lines : List String) : Session := lines.foldl take s

/-- The lines that a session takes: those of the arguments, or those of the input. -/
def Opening.lines (o : Opening) (input : String) : List String :=
  if o.batch.isEmpty then (linesOf input.toList).map lineText else o.batch

/-- **The program from its arguments to its end**, and the files behind it. -/
def run (args : List String) (w : Surroundings) (input : String) : Ending × Files :=
  match start args w with
  | .error e => (e, w.files)
  | .ok o =>
      let s := takeAll o.session (o.lines input)
      (⟨0, s.sink.contents, s.log, ""⟩, s.files)

end CommandConsole.Cli
