import CommandConsole.Alias.File
import CommandConsole.Alias.Records
import CommandConsole.Records.Store

/-!
# Alias stores

Where a session keeps its aliases: in a table, in a table that a file follows, as records on the
backend of the session, or as records in a store of their own.

A change of a table with a file has two parts: the table takes the change, and then the file is
written with what the table holds. A change that the table refuses does not touch the file. A
file that cannot be written is a complaint, but the table has changed by then.
-/

set_option autoImplicit false

namespace CommandConsole.Alias

/-- A table of aliases, and the path of the file that follows it, if one does. -/
structure MemoryStore where
  table : Table
  file : Option String
deriving DecidableEq, Repr

namespace MemoryStore

/-- A table without a file. -/
def empty : MemoryStore := ⟨.empty, none⟩

/-- **The table of a file**, which follows it from then on. A file that is not there is an empty
one. -/
def open? (files : Files) (path : String) : Except Trouble MemoryStore :=
  if files.exists? path then
    (load files path).map fun commands => ⟨.ofCommands commands, some path⟩
  else .ok ⟨.empty, some path⟩

/-- What is reported when a table was loaded. -/
def loaded? (files : Files) (s : MemoryStore) : Option String :=
  s.file.bind fun path =>
    if files.exists? path then
      let count := s.table.byName.length
      some s!"loaded {count} alias(es) from {path}"
    else none

/-- The file follows the table. -/
def write (s : MemoryStore) (files : Files) : Except String Files :=
  match s.file with
  | none => .ok files
  | some path =>
      match save files path s.table.commands with
      | .ok files => .ok files
      | .error t => .error t.message

/-- **A change of an alias**: of the table, then of the file. -/
def change (s : MemoryStore) (files : Files) (c : Change) :
    Except String Int × MemoryStore × Files :=
  match s.table.apply c with
  | .error e => (.error e, s, files)
  | .ok (id, table) =>
      let s := { s with table := table }
      match s.write files with
      | .error e => (.error e, s, files)
      | .ok files => (.ok id, s, files)

end MemoryStore

/-- Where a session keeps its aliases. -/
inductive Store where
  | memory (s : MemoryStore)
  | backend
  | records (s : CommandConsole.Records.Store)
deriving Repr

/-- The templates by name of a table; records do not show theirs. -/
def Store.commands? : Store → Option (List (String × String))
  | .memory s => some s.table.commands
  | _ => none

end CommandConsole.Alias
