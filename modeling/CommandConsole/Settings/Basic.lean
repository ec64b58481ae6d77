/-!
# Settings

What a settings file can say about a console: where its data is, where its aliases are kept, how
far an alias may lead on to other aliases, and whether a session starts with a banner. What a file
does not say has a default.
-/

set_option autoImplicit false

namespace CommandConsole

/-- The settings of a console. -/
structure Settings where
  backend : Option String
  aliasFile : Option String
  aliasDepth : Nat
  banner : Bool
deriving DecidableEq, Repr

namespace Settings

/-- The settings of a console without a file. -/
def default : Settings := ⟨none, none, 8, true⟩

/-- A setting. -/
inductive Field where
  | backend
  | aliasFile
  | aliasDepth
  | banner
deriving DecidableEq, Repr

namespace Field

/-- All settings, in the order in which a list gives them. -/
def all : List Field := [.backend, .aliasFile, .aliasDepth, .banner]

/-- The name of a setting in a file. -/
def name : Field → String
  | .backend => "backend"
  | .aliasFile => "alias_file"
  | .aliasDepth => "alias_depth"
  | .banner => "banner"

/-- The setting with a name. -/
def ofName? (name : String) : Option Field := all.find? (·.name == name)

end Field

end Settings

end CommandConsole
