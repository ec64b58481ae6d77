import CommandConsole.CommandError
import CommandConsole.Json.Writer
import CommandConsole.Output
import CommandConsole.Text.LetterCase

/-!
# Records on display

Records are shown as a table with the number first. Its other columns are the fields that were
asked for, in that order, or else all that some record has, by name. A text is shown as it is and
an empty or unset field as nothing.
-/

set_option autoImplicit false

namespace CommandConsole.Records

/-- A value in a cell or in a message. -/
def display : Json → String
  | .str s => s
  | .null => ""
  | .bool false => ""
  | v => v.text

/-- The names of the fields of records, each once, in order. -/
def fieldNames (records : List Json) : List String :=
  Assoc.keys (Assoc.ofList ((records.flatMap fun v => Assoc.keys (v.obj?.getD [])).map (·, ())))

/-- The columns behind the number. -/
def columns (fields : Option (List String)) (records : List Json) : List String :=
  (fields.getD (fieldNames records)).filter (· ≠ "id")

/-- The cell of a record under a name. -/
def cell (record : Json) (name : String) : String := ((record.get? name).map display).getD ""

/-- A name as a header. -/
def header (name : String) : String := String.ofList (Text.toUpper name.toList)

/-- **Records as a table.** What is no list of records has none. -/
def table (records : Json) (fields : Option (List String)) : Except CommandError Output :=
  match records with
  | .arr rs =>
      let names := columns fields rs
      .ok (.table ("ID" :: names.map header)
        (rs.map fun r => cell r "id" :: names.map (cell r)))
  | v => .error (.malformed s!"expected a list of records, got {v.text}")

end CommandConsole.Records
