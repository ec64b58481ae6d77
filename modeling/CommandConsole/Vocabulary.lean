import CommandConsole.Records.Display
import CommandConsole.Records.Payload
import CommandConsole.Registry

/-!
# The built-in commands

The nine commands that every console starts with: help on commands, aliases, the records of the
backend, and the session itself.
-/

set_option autoImplicit false

namespace CommandConsole.Vocabulary

/-! ## Help -/

/-- All commands, one a line. -/
def overview (commands : List Synopsis) : String :=
  "\n".intercalate (commands.map fun c => s!"{c.name} - {c.summary}")

/-- What is known of one command. -/
def describe (commands : List Synopsis) (name : String) : String :=
  match commands.find? (·.name = name) with
  | none => s!"[!] '{name}' command doesn't exist"
  | some c =>
      let detail := if c.detail = "" then "" else c.detail ++ "\n\n"
      Text.trimmedEnd (detail ++ s!"Usage: {c.name} {c.usage}")

/-- Shows all commands, or one. -/
def help (args : List String) : Action Output := do
  let commands ← Action.query .commands
  match args with
  | [] => return .text (overview commands)
  | name :: _ => return .text (describe commands name)

/-! ## Aliases -/

/-- The command text that deletes an alias. -/
def deleteMark : String := "-d"

/-- Removes an alias. -/
def removeAlias (name : String) : Action Output := do
  match ← Action.expect (← Action.query (.findAlias name)) with
  | none => return .text s!"[!] '{name}' alias doesn't exist"
  | some record =>
      let _ ← Action.expect (← Action.query (.changeAlias (.delete record.id)))
      return .text s!"'{name}' alias deleted successfully"

/-- Makes an alias or changes it. The names of commands are not free. -/
def defineAlias (name command : String) : Action Output := do
  let commands ← Action.query .commands
  if Registry.containsIgnoringCase (commands.map (·.name)) name then
    Action.fail (.badAliasName name)
  else
    match ← Action.expect (← Action.query (.findAlias name)) with
    | some record =>
        let _ ← Action.expect (← Action.query (.changeAlias (.update record.id command)))
        Action.log .debug s!"alias '{name}' (#{record.id}) updated"
        return .text s!"'{name}' alias updated successfully"
    | none =>
        let id ← Action.expect (← Action.query (.changeAlias (.create name command)))
        Action.log .debug s!"alias '{name}' created as #{id}"
        return .text s!"'{name}' alias created successfully"

/-- Makes, changes or removes an alias. -/
def setAlias (args : List String) : Action Output :=
  match args with
  | [name, command] =>
      if command = deleteMark then removeAlias name else defineAlias name command
  | _ => throw (.panic none)

/-! ## Records -/

/-- Asks the backend. -/
def request (r : Request) : Action Json := do
  Action.expect (← Action.query (.call r))

/-- Asks the host to open a view. -/
def openView (v : View) : Action Output := do
  let _ ← Action.expect (← Action.query (.openView v))
  return .none

/-- The request of a search. -/
def searchRequest (model : String) (fields : Option (List String)) (domain : Json) : Request :=
  ⟨model, "search_read", [], ("domain", domain) ::
    (fields.map fun names => ("fields", Json.arr (names.map .str))).toList⟩

/-- Finds records. -/
def search (model fieldList : String) (domain : Option String) : Action Output := do
  let fields := Records.readFields fieldList
  let domain ← Action.ofExcept (Records.readDomain domain)
  let records ← request (searchRequest model fields domain)
  let count := (records.arr?.getD []).length
  Action.log .trace s!"search {model}: {count} record(s)"
  Action.ofExcept (Records.table records fields)

/-- The number in the reply to a creation, for display: of a list the first. -/
def createdId : Json → Json
  | .arr ids => ids.head?.getD .null
  | v => v

/-- Makes a record with the given values, or opens a form for it. -/
def create (model : String) : Option String → Action Output
  | none => openView (.form model none)
  | some raw => do
      let values ← Action.ofExcept (Records.readValues raw)
      let id ← request ⟨model, "create", [.obj values], []⟩
      return .text s!"{model} record created with id {Records.display (createdId id)}"

/-- Writes values to a record. -/
def write (model id raw : String) : Action Output := do
  let id ← Action.ofExcept (Records.readId id)
  let values ← Action.ofExcept (Records.readValues raw)
  let _ ← request ⟨model, "write", [.arr [.int id], .obj values], []⟩
  return .text s!"{model} record {id} updated"

/-- Opens the list of the records of a model, or the form of one. -/
def view (model : String) : Option String → Action Output
  | none => openView (.list model)
  | some raw => do
      let id ← Action.ofExcept (Records.readId raw)
      openView (.form model (some id))

/-! ## The session -/

/-- A number at the end of four places, or more where it needs them. -/
def numbered (n : Nat) (line : String) : String :=
  let digits := Nat.toDigits 10 n
  String.ofList (List.replicate (4 - digits.length) ' ' ++ digits ++ [' ', ' ']) ++ line

/-- Shows the submitted lines. -/
def history : Action Output := do
  let lines ← Action.query .history
  return .text ("\n".intercalate (lines.zipIdx.map fun e => numbered (e.2 + 1) e.1))

/-- Sets the log level. -/
def debug (mode : String) : Action Output :=
  match Number.readInt64 mode.toList with
  | .error e => Action.fail (.malformed s!"debug mode '{mode}': {e.message}")
  | .ok n => do
      let level := LogLevel.ofMode n
      Action.query (.setLevel level)
      return .text s!"log level set to {level.name}"

/-! ## The list -/

/-- A slot that must be filled. -/
def must (kind : SlotKind) : Slot := ⟨kind, false⟩

/-- A slot that may stay empty. -/
def may (kind : SlotKind) : Slot := ⟨kind, true⟩

/-- Takes the arguments apart. A signature that accepts them leaves no other case. -/
def otherwise : Action Output := throw (.panic none)

/-- **The built-in commands.** -/
def commands : List Definition :=
  [{ name := "help"
     summary := "Show commands and a quick definition"
     detail := "Show commands and a quick definition.\n- <> ~> Required parameter\n" ++
       "- [] ~> Optional parameter"
     usage := "[COMMAND]"
     signature := [may .text]
     handler := help },
   { name := "alias"
     summary := "Create alias"
     detail := "Create or update an alias.\nUse \"$1, $2, $n...\" for positional parameters.\n" ++
       "Use \"-d\" as <COMMAND> to delete the alias."
     usage := "<NAME> <COMMAND>"
     signature := [must .text, must .text]
     handler := setAlias },
   { name := "search"
     summary := "Search model record/s"
     detail := "Launch an ORM search query.\nFields are separated by commas, " ++
       "'*' selects all fields.\nDomain is a list of [field, operator, value] terms."
     usage := "<MODEL> <FIELDS> [DOMAIN]"
     signature := [must .text, must .text, may .text]
     handler := fun args => match args with
       | model :: fields :: rest => search model fields rest.head?
       | _ => otherwise },
   { name := "create"
     summary := "Create new record"
     detail := "Open a new model record in form view.\n" ++
       "With VALUES the record is created directly."
     usage := "<MODEL> [VALUES]"
     signature := [must .text, may .text]
     handler := fun args => match args with
       | model :: rest => create model rest.head?
       | _ => otherwise },
   { name := "write"
     summary := "Update a record"
     detail := "Write VALUES on the record ID of MODEL."
     usage := "<MODEL> <ID> <VALUES>"
     signature := [must .text, must .integer, must .text]
     handler := fun args => match args with
       | [model, id, values] => write model id values
       | _ => otherwise },
   { name := "view"
     summary := "View model record/s"
     detail := "Open model records in list view, or one record in form view."
     usage := "<MODEL> [ID]"
     signature := [must .text, may .integer]
     handler := fun args => match args with
       | model :: rest => view model rest.head?
       | _ => otherwise },
   { name := "clear"
     summary := "Clean the screen"
     detail := ""
     usage := ""
     signature := []
     handler := fun _ => return .clear },
   { name := "history"
     summary := "Show submitted lines"
     detail := ""
     usage := ""
     signature := []
     handler := fun _ => history },
   { name := "debug"
     summary := "Set the log level"
     detail := "0 ~> info, 1 ~> debug, 2 or more ~> trace, negative ~> errors only"
     usage := "<MODE>"
     signature := [must .integer]
     handler := fun args => match args with
       | mode :: _ => debug mode
       | _ => otherwise }]

/-- The registry of the built-in commands alone. -/
def registry : Registry := commands.foldl Registry.register .empty

end CommandConsole.Vocabulary
