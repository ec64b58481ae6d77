import CommandConsole.Json.Shape

/-!
# Requests to a backend

A request calls a method of a model with arguments in a row and arguments by name.
-/

set_option autoImplicit false

namespace CommandConsole

/-- A call of a method of a model. -/
structure Request where
  model : String
  method : String
  args : List Json
  named : Json.Fields
deriving Repr

namespace Request

/-- A request as a JSON value. -/
def toJson (r : Request) : Json :=
  .object [("model", .str r.model), ("method", .str r.method), ("args", .arr r.args),
    ("kwargs", .obj r.named)]

/-- A request from a JSON value. The arguments may be left out. -/
def shape : Json.Shape Request := fun v => do
  let given ← Json.Shape.record "RemoteRequest"
    [.required "model" .string, .required "method" .string,
      .defaulted "args" (.listOf .any), .defaulted "kwargs" .map] v
  let model ← Json.Shape.field given "model" .string
  let method ← Json.Shape.field given "method" .string
  let args ← Json.Shape.fieldOr given "args" (.listOf .any) []
  let named ← Json.Shape.fieldOr given "kwargs" .map []
  .ok ⟨model, method, args, named⟩

end Request

end CommandConsole
