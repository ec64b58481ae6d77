import CommandConsole.CommandError
import CommandConsole.Json.Reader
import CommandConsole.Json.Writer
import CommandConsole.Line.Quote

/-!
# Structured arguments

The arguments of the record commands that are more than a word: a domain and the values of a
record, in JSON in which single quotes may stand for double ones; the names of fields with commas
between them; the number of a record.
-/

set_option autoImplicit false

namespace CommandConsole.Records

open Text

/-- The JSON value of an argument. -/
def readPayload (raw : String) : Except CommandError Json :=
  match Json.read (Line.normalizeQuotes raw) with
  | .ok v => .ok v
  | .error e => .error (.malformed s!"{raw}: {e.message}")

/-- A domain: a list. Where there is no argument there are no terms. -/
def readDomain : Option String → Except CommandError Json
  | none => .ok (.arr [])
  | some raw => do
      match ← readPayload raw with
      | .arr terms => .ok (.arr terms)
      | v => .error (.malformed s!"domain must be a list, got {v.text}")

/-- Values of a record: an object. -/
def readValues (raw : String) : Except CommandError Json.Fields := do
  match ← readPayload raw with
  | .obj fields => .ok fields
  | v => .error (.malformed s!"values must be an object, got {v.text}")

/-- The parts of a text between commas. -/
def parts : List Char → List (List Char)
  | [] => [[]]
  | c :: r => if c = ',' then [] :: parts r else consWord c (parts r)

/-- The names of fields, or none for all of them. -/
def readFields (raw : String) : Option (List String) :=
  if trim raw.toList = ['*'] then none
  else some (((parts raw.toList).map trim).filter (!·.isEmpty) |>.map String.ofList)

/-- The number of a record. -/
def readId (raw : String) : Except CommandError Int :=
  match Number.readInt64 raw.toList with
  | .ok n => .ok n
  | .error e => .error (.malformed s!"record id '{raw}': {e.message}")

end CommandConsole.Records
