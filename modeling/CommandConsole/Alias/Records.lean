import CommandConsole.Alias.Table
import CommandConsole.Json.Writer
import CommandConsole.Request

/-!
# Aliases as records

On a backend an alias is a record with a name and a command. Each operation on aliases is one
request, and its answer is read out of the reply.
-/

set_option autoImplicit false

namespace CommandConsole.Alias

/-- The model of the records that are aliases. -/
def model : String := "terminal.alias"

/-- Asks for the alias with a name. -/
def findRequest (name : String) : Request :=
  ⟨model, "search_read", [],
    [("domain", .arr [.arr [.str "name", .str "=", .str name]]),
      ("fields", .arr [.str "name", .str "command"]), ("limit", .int 1)]⟩

/-- The request of a change. -/
def changeRequest : Change → Request
  | .create name command =>
      ⟨model, "create", [.obj [("command", .str command), ("name", .str name)]], []⟩
  | .update id command =>
      ⟨model, "write", [.arr [.int id], .obj [("command", .str command)]], []⟩
  | .delete id => ⟨model, "unlink", [.arr [.int id]], []⟩

/-- An alias from a record. -/
def shape : Json.Shape Record := fun v => do
  let given ← Json.Shape.record "AliasRecord"
    [.required "id" .int64, .required "name" .string, .required "command" .string] v
  let id ← Json.Shape.field given "id" .int64
  let name ← Json.Shape.field given "name" .string
  let command ← Json.Shape.field given "command" .string
  .ok ⟨id, name, command⟩

/-- The alias in the reply to a search, if there is one. -/
def found (reply : Json) : Except String (Option Record) :=
  match reply with
  | .arr (row :: _) =>
      match shape row with
      | .ok r => .ok (some r)
      | .error e => .error s!"malformed alias record: {e}"
  | _ => .ok none

/-- The number in the reply to a creation: the reply itself, or the first of a list. -/
def created (reply : Json) : Except String Int :=
  match reply.int64?.or ((reply.arr?.bind List.head?).bind Json.int64?) with
  | some id => .ok id
  | none => .error s!"unexpected create result: {reply.text}"

/-- The number of the alias that a change was about, by the reply to it. -/
def changed (change : Change) (reply : Json) : Except String Int :=
  match change with
  | .create _ _ => created reply
  | .update id _ => .ok id
  | .delete id => .ok id

end CommandConsole.Alias
