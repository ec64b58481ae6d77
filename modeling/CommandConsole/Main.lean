import CommandConsole.Cli.Program

/-!
# The command line

The program on a real host: it reads the files that are named, hands everything to the session,
and shows after each line what the line has added. A host without programs starts no backends.
-/

set_option autoImplicit false

namespace CommandConsole.Cli

/-- What a path leads to on the host. What cannot be read although it is there is a directory. -/
def entryAt (path : String) : IO (Option FileEntry) := do
  try
    let bytes ← IO.FS.readBinFile path
    match String.fromUTF8? bytes with
    | some text => return some (.text text)
    | none => return some .bytes
  catch
    | .noFileOrDirectory _ _ _ => return none
    | _ => return some .directory

/-- A path and those of the directories on the way to it. -/
def pathsTo (path : String) : List String :=
  let way := Files.names path
  let root := if path.startsWith "/" then "/" else ""
  (List.range way.length).map fun n => root ++ "/".intercalate (way.take (n + 1))

/-- The files of the host that paths lead to. -/
def loadFiles (paths : List String) : IO Files := do
  let found ← (paths.flatMap pathsTo).mapM fun path => do
    return (← entryAt path).map fun e => (Files.names path, e)
  return found.filterMap id

/-- What the program runs in on the host. -/
def surroundings (args : List String) : IO Surroundings := do
  let a := (Arguments.read args).toOption.getD .none
  let files ← loadFiles (a.config.toList ++ a.aliases.toList)
  let w : Surroundings := ⟨← IO.getEnv "COLUMNS", ← IO.getEnv "CONSOLE_BACKEND", files, .none⟩
  let named := ((settingsOf a w).toOption.bind (·.aliasFile)).toList
  return { w with files := files ++ (← loadFiles named) }

/-- Shows output and messages. -/
def display (output : String) (log : List LogEntry) (complaint : String) : IO Unit := do
  let time ← IO.monoMsNow
  for e in log do IO.eprintln (e.line time)
  let stdout ← IO.getStdout
  stdout.putStr output
  stdout.flush
  if !complaint.isEmpty then IO.eprintln complaint

/-- Shows what a session has added, and writes the file of its aliases if that has changed. -/
def settleOnHost (before : Files) (s : Session) : IO Session := do
  match s.aliases with
  | .memory ⟨_, some path⟩ =>
      match s.files.read path with
      | .ok text =>
          if (before.read path).toOption ≠ some text then IO.FS.writeFile path text
      | .error _ => pure ()
  | _ => pure ()
  display s.sink.contents s.log ""
  return { s with sink := .terminal, log := [] }

/-- Takes the lines of the input to its end. -/
partial def converse (s : Session) : IO Unit := do
  let line ← (← IO.getStdin).getLine
  if line.isEmpty then return
  converse (← settleOnHost s.files (take s (lineText line.toList)))

end CommandConsole.Cli

open CommandConsole.Cli in
/-- The program. -/
def main (args : List String) : IO UInt32 := do
  match start args (← surroundings args) with
  | .error e =>
      display e.output e.log e.complaint
      return e.code.toUInt32
  | .ok o =>
      let s ← settleOnHost o.session.files o.session
      if o.batch.isEmpty then converse s
      else
        let _ ← o.batch.foldlM (fun s line => settleOnHost s.files (take s line)) s
      return 0
