import CommandConsole.Files
import CommandConsole.Settings.Json
import CommandConsole.Settings.Yaml

/-!
# Settings files

A settings file holds YAML when its path ends as such paths do, and else JSON.
-/

set_option autoImplicit false

namespace CommandConsole.Settings

/-- Whether a path ends in one way, whatever the case of its letters. -/
def endsIn (ending path : String) : Bool :=
  ending.toList.isSuffixOf (path.toList.map Char.toLower)

/-- Whether a file holds YAML. -/
def isYaml (path : String) : Bool := endsIn ".yaml" path || endsIn ".yml" path

/-- The settings in the text of a file. -/
def ofText (yaml : Bool) (text : String) : Except Trouble Settings :=
  if yaml then (ofYaml text).mapError fun f => ⟨"failed to parse YAML config", [f.message]⟩
  else (ofJson text).mapError fun c => ⟨"failed to parse JSON config", [c.message]⟩

/-- **The settings in a file.** -/
def load (files : Files) (path : String) : Except Trouble Settings :=
  match files.read path with
  | .error e => .error ⟨s!"failed to read config file: {path}", [e.message]⟩
  | .ok text => (ofText (isYaml path) text).mapError (.behind s!"invalid config file: {path}")

end CommandConsole.Settings
