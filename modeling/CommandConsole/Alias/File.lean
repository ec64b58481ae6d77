import CommandConsole.Alias.Table
import CommandConsole.Files
import CommandConsole.Json.Reader
import CommandConsole.Json.Writer
import CommandConsole.Text.LetterCase
import CommandConsole.Yaml.Value
import CommandConsole.Yaml.Writer

/-!
# Alias files

Aliases can be kept in a file: an object of templates by name, in JSON, or in YAML where the
extension of the path says so. `load` and `save` go by the same extension, so that what was saved
is loaded again.
-/

set_option autoImplicit false

namespace CommandConsole.Alias

/-- The extension of a path: what stands behind the last point of its last name, unless that
point starts the name. -/
def extension? (path : String) : Option String :=
  match (Files.names path).getLast? with
  | none => none
  | some name =>
      if name = ".." then none
      else match name.toList.reverse.span (· ≠ '.') with
        | (_, []) => none
        | (_, [_]) => none
        | (back, _ :: _ :: _) => some (String.ofList back.reverse)

/-- Whether a file holds YAML. -/
def isYaml (path : String) : Bool :=
  (extension? path).any fun e =>
    Text.sameIgnoringCase e.toList "yaml".toList || Text.sameIgnoringCase e.toList "yml".toList

/-- The templates in the value of a file. -/
def commandsOf (v : Json) : Except Trouble (List (String × String)) :=
  match v with
  | .obj fields => fields.mapM fun (name, w) =>
      match w with
      | .str command => .ok (name, command)
      | _ => .error (.of s!"alias '{name}' must map to a command string")
  | _ => .error (.of "alias file root must be an object")

/-- The value of the text of a file. -/
def valueOf (yaml : Bool) (text : String) : Except Trouble Json :=
  if yaml then
    match (Yaml.document text).bind Yaml.Document.value with
    | .error f => .error ⟨"failed to parse YAML alias file", [f.message]⟩
    | .ok v => v.toJson.mapError fun e => ⟨"failed to convert YAML to JSON", [e]⟩
  else
    (Json.read text).mapError fun e => ⟨"failed to parse JSON alias file", [e.message]⟩

/-- **The templates in a file.** A blank file has none. -/
def load (files : Files) (path : String) : Except Trouble (List (String × String)) :=
  match files.read path with
  | .error e => .error ⟨s!"failed to read alias file: {path}", [e.message]⟩
  | .ok text =>
      if Text.isBlankString text then .ok []
      else do commandsOf (← valueOf (isYaml path) text)

/-- The text of a file with these templates. -/
def fileText (yaml : Bool) (commands : List (String × String)) : String :=
  if yaml then Yaml.textOf commands
  else (Json.obj (commands.map fun e => (e.1, .str e.2))).pretty

/-- **The files with templates saved to one.** -/
def save (files : Files) (path : String) (commands : List (String × String)) :
    Except Trouble Files :=
  match files.write path (fileText (isYaml path) commands) with
  | .ok files => .ok files
  | .error e => .error ⟨s!"failed to write alias file: {path}", [e.message]⟩

end CommandConsole.Alias
