import CommandConsole.Json.Value
import CommandConsole.Text.Blank

/-!
# Writing JSON

`Json.text` is the compact form: no blanks, and the characters that must be escaped in the
shortest way there is. `Json.pretty` puts every item and field on a line of its own, two spaces
deeper than what holds it.
-/

set_option autoImplicit false

namespace CommandConsole.Json

open Text

/-- A character inside a quoted string. -/
def escaped (c : Char) : List Char :=
  match c with
  | '"' => ['\\', '"']
  | '\\' => ['\\', '\\']
  | '\x08' => ['\\', 'b']
  | '\x0c' => ['\\', 'f']
  | '\n' => ['\\', 'n']
  | '\r' => ['\\', 'r']
  | '\t' => ['\\', 't']
  | c =>
      if c.toNat < 0x20 then
        ['\\', 'u', '0', '0', Nat.digitChar (c.toNat / 16), Nat.digitChar (c.toNat % 16)]
      else [c]

/-- A quoted string. -/
def quoted (s : String) : List Char := '"' :: s.toList.flatMap escaped ++ ['"']

mutual

/-- The compact form of a value. -/
def render : Json → List Char
  | .null => "null".toList
  | .bool true => "true".toList
  | .bool false => "false".toList
  | .int n => n.repr.toList
  | .float x => x.text.toList
  | .str s => quoted s
  | .arr items => '[' :: join [','] (renderItems items) ++ [']']
  | .obj fields => '\x7b' :: join [','] (renderFields fields) ++ ['\x7d']

/-- The compact forms of items. -/
def renderItems : List Json → List (List Char)
  | [] => []
  | v :: vs => render v :: renderItems vs

/-- The compact forms of fields. -/
def renderFields : Fields → List (List Char)
  | [] => []
  | (k, v) :: fs => (quoted k ++ ':' :: render v) :: renderFields fs

end

/-- **The compact text of a value.** -/
def text (v : Json) : String := String.ofList (render v)

/-- A new line at a depth. -/
def newline (depth : Nat) : List Char := '\n' :: List.replicate (2 * depth) ' '

/-- Brackets around parts that stand on lines of their own. -/
def block (opening closing : Char) (depth : Nat) (parts : List (List Char)) : List Char :=
  if parts.isEmpty then [opening, closing]
  else opening :: newline (depth + 1) ++ join (',' :: newline (depth + 1)) parts ++
    newline depth ++ [closing]

mutual

/-- The form of a value on several lines. -/
def layout (depth : Nat) : Json → List Char
  | .arr items => block '[' ']' depth (layoutItems (depth + 1) items)
  | .obj fields => block '\x7b' '\x7d' depth (layoutFields (depth + 1) fields)
  | v => render v

/-- The forms of items on several lines. -/
def layoutItems (depth : Nat) : List Json → List (List Char)
  | [] => []
  | v :: vs => layout depth v :: layoutItems depth vs

/-- The forms of fields on several lines. -/
def layoutFields (depth : Nat) : Fields → List (List Char)
  | [] => []
  | (k, v) :: fs => (quoted k ++ ':' :: ' ' :: layout depth v) :: layoutFields depth fs

end

/-- **The text of a value on several lines.** -/
def pretty (v : Json) : String := String.ofList (layout 0 v)

end CommandConsole.Json
