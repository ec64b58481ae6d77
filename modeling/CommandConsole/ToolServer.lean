import CommandConsole.Json.Reader
import CommandConsole.Json.Writer
import CommandConsole.Request

/-!
# Tool servers

A backend can be a local program that offers one tool, which takes a request and replies. The
reply is a result with structured content or pieces of text, or a refusal with a code. A program
that cannot be started replies to nothing.
-/

set_option autoImplicit false

namespace CommandConsole

/-- What a tool server sends back. -/
inductive ToolReply where
  | result (raw : Json)
  | refusal (code : Int) (message : String)
deriving Repr

namespace ToolReply

/-- The first text among the pieces of a result. -/
def firstText? (raw : Json) : Option String :=
  (((raw.get? "content").bind Json.arr?).getD []).findSome? fun piece =>
    (piece.get? "text").bind Json.str?

/-- The answer in a result: its structured content, or else the value that its text spells, or
the text itself. A result that is marked as an error is a complaint with that text. -/
def answerOf (raw : Json) : Except String Json :=
  if ((raw.get? "isError").bind Json.bool?).getD false then
    .error ((firstText? raw).getD "backend reported an error")
  else match (raw.get? "structuredContent").filter fun v => !v.isNull with
    | some v => .ok v
    | none =>
        match firstText? raw with
        | none => .ok .null
        | some s =>
            match Json.read s with
            | .ok v => .ok v
            | .error _ => .ok (.str s)

/-- The answer in a reply to a request. -/
def answer (r : Request) : ToolReply → Except String Json
  | .result raw => answerOf raw
  | .refusal code message => .error s!"{r.model}.{r.method} failed: Mcp error: {code}: {message}"

/-- The reply of a server that sends a request back. -/
def echo (r : Request) : ToolReply :=
  .result (.object [("structuredContent",
    .object [("name", .str "execute_kw"), ("arguments", r.toJson)])])

end ToolReply

/-- The programs of a host: how each replies to requests, if it can be started. -/
abbrev Programs := (program : String) → (args : List String) → Option (Request → ToolReply)

namespace Programs

/-- A host without programs. -/
def none : Programs := fun _ _ => Option.none

/-- The answer of a program to a request. -/
def call (host : Programs) (program : String) (args : List String) (r : Request) :
    Except String Json :=
  match host program args with
  | some reply => (reply r).answer r
  | Option.none => .error "No such file or directory (os error 2)"

end Programs

end CommandConsole
