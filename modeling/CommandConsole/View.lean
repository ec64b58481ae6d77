import CommandConsole.Json.Shape
import CommandConsole.Json.Writer

/-!
# Views

A description of the view that the host is asked to open: all records of a model as a list, one
record as a form, or an empty form for a new one.
-/

set_option autoImplicit false

namespace CommandConsole

/-- A view for the host to open. -/
structure View where
  kind : String
  model : String
  record : Option Int
  layouts : List (Option Int × String)
  target : String
deriving DecidableEq, Repr

namespace View

/-- The kind of the views that open in a window. -/
def window : String := "ir.actions.act_window"

/-- The list of the records of a model. -/
def list (model : String) : View := ⟨window, model, none, [(none, "list")], "new"⟩

/-- The form of a record, or of a new one. A new one takes the place of the main view. -/
def form (model : String) (record : Option Int) : View :=
  ⟨window, model, record, [(none, "form")], if record.isSome then "new" else "current"⟩

/-- A number or null. -/
def orNull : Option Int → Json
  | some n => .int n
  | none => .null

/-- The fields of a view in the order of their declaration; the record is left out where there is
none. -/
def fields (v : View) : Json.Fields :=
  [("type", .str v.kind), ("res_model", .str v.model)] ++
    (v.record.map fun n => ("res_id", .int n)).toList ++
    [("views", .arr (v.layouts.map fun l => .arr [orNull l.1, .str l.2])),
      ("target", .str v.target)]

/-- A view as a JSON value. -/
def toJson (v : View) : Json := .object v.fields

/-- A view as a text, its fields in the order of their declaration. -/
def text (v : View) : String := (Json.obj v.fields).text

/-- The layouts of a view from a JSON value. -/
def layoutsShape : Json.Shape (List (Option Int × String)) :=
  .listOf (.pair (.optional .int64) .string)

/-- A view from a JSON value. The record may be left out. -/
def shape : Json.Shape View := fun v => do
  let given ← Json.Shape.record "ActionDescriptor"
    [.required "type" .string, .required "res_model" .string,
      .defaulted "res_id" (.optional .int64), .required "views" layoutsShape,
      .required "target" .string] v
  let kind ← Json.Shape.field given "type" .string
  let model ← Json.Shape.field given "res_model" .string
  let record ← Json.Shape.fieldOr given "res_id" (.optional .int64) none
  let layouts ← Json.Shape.field given "views" layoutsShape
  let target ← Json.Shape.field given "target" .string
  .ok ⟨kind, model, record, layouts, target⟩

end View

end CommandConsole
