import CommandConsole.Assoc
import CommandConsole.Trouble

/-!
# Files

The files that a session works on: a tree under one directory, the **top**, and paths relative to
it. A file is a text, or bytes that are none. A path is followed name by name, and each name but
the last must lead to a directory. A path can lead above the top, where nothing but directories is
known. Operations fail as the system does, and a write that fails changes nothing.
-/

set_option autoImplicit false

namespace CommandConsole

/-- What a path leads to. -/
inductive FileEntry where
  | text (s : String)
  | bytes
  | directory
deriving DecidableEq, Repr

/-- Entries by their names on the way from the top. -/
abbrev Files := List (List String × FileEntry)

namespace Files

/-- Why the system refuses an operation. -/
inductive Refusal where
  | notFound
  | notDirectory
  | isDirectory
  | tooLong
  | badName
  | notText
deriving DecidableEq, Repr

/-- A refusal in words. -/
def Refusal.message : Refusal → String
  | .notFound => "No such file or directory (os error 2)"
  | .notDirectory => "Not a directory (os error 20)"
  | .isDirectory => "Is a directory (os error 21)"
  | .tooLong => "File name too long (os error 36)"
  | .badName => "file name contained an unexpected NUL byte"
  | .notText => "stream did not contain valid UTF-8"

/-! ## The tree -/

/-- Whether something lies below a way. -/
def holds (files : Files) (way : List String) : Bool :=
  files.any fun e => way.isPrefixOf e.1 && way.length < e.1.length

/-- What a way leads to: the top is a directory, and so is all that something lies below. -/
def lookup? (files : Files) (way : List String) : Option FileEntry :=
  match Assoc.find? way files with
  | some e => some e
  | none => if way.isEmpty || files.holds way then some .directory else none

/-- The files with one put at a way, its place kept where it was there before. -/
def put (files : Files) (way : List String) (e : FileEntry) : Files :=
  if (Assoc.find? way files).isSome then files.map fun f => if f.1 = way then (way, e) else f
  else files ++ [(way, e)]

/-! ## Paths -/

/-- The parts of a path: names, and points that stay or lead up. -/
def parts (path : String) : List String :=
  ((path.toList.splitOn '/').map String.ofList).filter (· ≠ "")

/-- Whether a path leads from the root of the system. -/
def startsAtRoot (path : String) : Bool := path.toList.head? == some '/'

/-- Whether a path ends with a slash. -/
def endsWithSlash (path : String) : Bool := path.toList.getLast? == some '/'

/-- The names on the way that a path gives. -/
def names (path : String) : List String := (parts path).filter (· ≠ ".")

/-- The greatest number of bytes of a path, and of a name in it. -/
def maxPath : Nat := 4095

/-- The greatest number of bytes of a name. -/
def maxName : Nat := 255

/-- A place that is reached: at a way below the top, or in a directory above it. -/
inductive Place where
  | below (way : List String)
  | above
deriving DecidableEq, Repr

/-- What stands at a place. -/
def at_ (files : Files) : Place → Option FileEntry
  | .below way => files.lookup? way
  | .above => some .directory

/-- The directory that a directory is in. -/
def Place.up : Place → Place
  | .below [] => .above
  | .below way => .below way.dropLast
  | .above => .above

/-- Goes on from a place by one part of a path. -/
def step (files : Files) (p : Place) (part : String) : Except Refusal Place :=
  match files.at_ p with
  | none => .error .notFound
  | some .directory =>
      if part = "." then .ok p
      else if part = ".." then .ok p.up
      else if maxName < part.utf8ByteSize then .error .tooLong
      else match p with
        | .below way => .ok (.below (way ++ [part]))
        | .above => .error .notFound
  | some _ => .error .notDirectory

/-- What is wrong with a path before it is followed. -/
def flaw? (path : String) : Option Refusal :=
  if path.toList.contains '\x00' then some .badName
  else if path.isEmpty then some .notFound
  else if maxPath < path.utf8ByteSize then some .tooLong
  else none

/-- The place that parts of a path lead to from the start of the path. -/
def follow (files : Files) (path : String) (parts : List String) : Except Refusal Place :=
  match flaw? path with
  | some r => .error r
  | none => parts.foldlM files.step (if startsAtRoot path then .above else .below [])

/-! ## Operations -/

/-- The entry of a path. A path that ends with a slash leads to a directory. -/
def resolve (files : Files) (path : String) : Except Refusal FileEntry :=
  (files.follow path (parts path ++ if endsWithSlash path then ["."] else [])).bind fun p =>
    match files.at_ p with
    | some e => .ok e
    | none => .error .notFound

/-- Whether a path leads anywhere. -/
def exists? (files : Files) (path : String) : Bool := (files.resolve path).toOption.isSome

/-- The text of a file. -/
def read (files : Files) (path : String) : Except Refusal String :=
  match files.resolve path with
  | .ok (.text s) => .ok s
  | .ok .bytes => .error .notText
  | .ok .directory => .error .isDirectory
  | .error e => .error e

/-- Whether a path leads to a directory if it leads anywhere: it ends with a slash, or not with a
name. -/
def namesDirectory (path : String) : Bool :=
  endsWithSlash path || (parts path).getLast?.all fun part => part = "." || part = ".."

/-- **The files with a text written to a path.** A file that is not there is made, in a directory
that is. -/
def write (files : Files) (path text : String) : Except Refusal Files := do
  let directory ← files.follow path ((parts path).dropLast ++ ["."])
  if namesDirectory path then .error .isDirectory
  else match ← files.step directory ((parts path).getLast?.getD ".") with
    | .above => .error .isDirectory
    | .below way =>
        if files.lookup? way = some .directory then .error .isDirectory
        else .ok (files.put way (.text text))

end Files

end CommandConsole
