import CommandConsole.Json.Event
import CommandConsole.Json.Shape
import CommandConsole.Settings.Basic

/-!
# Settings in JSON

Settings are an object, or a list of values in the order of the settings. They are read event by
event, so that the first thing that is wrong is told, be it a flaw of the text, a name that is no
setting or is given twice, or a value of the wrong kind. The latter are placed behind what they
are about; a bracket shows in front of it, and the brace behind a name is passed.
-/

set_option autoImplicit false

namespace CommandConsole.Settings

open CommandConsole.Json (Event Cursor Complaint Transcript Shape)

/-- The settings with one set from a value. -/
def Field.put (f : Field) (v : Json) (s : Settings) : Except String Settings :=
  match f with
  | .backend => (Shape.optional Shape.string v).map fun x => { s with backend := x }
  | .aliasFile => (Shape.optional Shape.path v).map fun x => { s with aliasFile := x }
  | .aliasDepth => (Shape.word v).map fun n => { s with aliasDepth := n }
  | .banner => (Shape.bool v).map fun b => { s with banner := b }

/-- The value that an event shows: a scalar, or a list or an object of which nothing is known. -/
def shownValue : Event → Json
  | .scalar v => v
  | .openList => .arr []
  | .openObject => .obj []
  | _ => .null

/-- The settings with one set from an event. -/
def Field.putEvent (f : Field) (e : Event × Cursor) (s : Settings) : Except Complaint Settings :=
  (f.put (shownValue e.1) s).mapError e.2.complain

/-- A name that is no setting. -/
def unknownField (name : String) : String :=
  let names := ", ".intercalate (Field.all.map fun f => s!"`{f.name}`")
  s!"unknown field `{name}`, expected one of {names}"

/-- A setting that is given twice. -/
def duplicateField (name : String) : String := s!"duplicate field `{name}`"

/-- The setting with a name, unless it is given already. -/
def newField (given : List Field) (name : String) : Except String Field :=
  match Field.ofName? name with
  | none => .error (unknownField name)
  | some f => if f ∈ given then .error (duplicateField name) else .ok f

/-- What was read, unless the text has a flaw. -/
def unlessFlawed (flaw : Option Complaint) (s : Settings) : Except Complaint Settings :=
  match flaw with
  | none => .ok s
  | some f => .error f

/-- The complaint about a text that ends too early. -/
def broken (flaw : Option Complaint) : Except Complaint Settings :=
  .error (flaw.getD ⟨Json.Flaw.endInValue.message, .start⟩)

/-- Reads the settings of an object on. -/
def readFields (flaw : Option Complaint) :
    (given : List Field) → Settings → List (Event × Cursor) → Except Complaint Settings
  | _, s, (.closeObject, _) :: _ => unlessFlawed flaw s
  | given, s, (.name name, cursor) :: e :: r =>
      match newField given name with
      | .error text => .error ((cursor.skipBlanks.skipChar '\x7d').complain text)
      | .ok f =>
          match f.putEvent e s with
          | .error c => .error c
          | .ok s => readFields flaw (f :: given) s r
  | given, _, [(.name name, cursor)] =>
      match newField given name with
      | .error text => .error ((cursor.skipBlanks.skipChar '\x7d').complain text)
      | .ok _ => broken flaw
  | _, _, _ => broken flaw

/-- Whether a list that has given all settings ends at a cursor. -/
def listEnds (cursor : Cursor) : Except Complaint Unit :=
  let c := cursor.skipBlanks
  match c.rest with
  | [] => .error (c.flaw .endInList)
  | ']' :: _ => .ok ()
  | ',' :: _ =>
      let c := (c.skipChar ',').skipBlanks
      if c.rest.head? = some ']' then .error (c.flaw .trailingComma)
      else .error (c.flaw .trailingCharacters)
  | _ :: _ => .error (c.flaw .trailingCharacters)

/-- Reads the settings of a list on. -/
def readItems (flaw : Option Complaint) :
    List Field → Settings → List (Event × Cursor) → Except Complaint Settings
  | [], s, _ => unlessFlawed flaw s
  | _, s, (.closeList, _) :: _ => unlessFlawed flaw s
  | f :: fs, s, e :: r =>
      match f.putEvent e s with
      | .error c => .error c
      | .ok s =>
          if fs.isEmpty then
            match listEnds e.2 with
            | .error c => .error c
            | .ok _ => readItems flaw fs s r
          else readItems flaw fs s r
  | _, _, [] => broken flaw

/-- **The settings in a JSON text.** -/
def ofJson (text : String) : Except Complaint Settings :=
  let t := Json.events 127 text.toList
  match t.events with
  | (.openObject, _) :: r => readFields t.flaw [] .default r
  | (.openList, _) :: r => readItems t.flaw Field.all .default r
  | e :: _ =>
      .error (e.2.complain (Shape.wrongType (shownValue e.1) "struct ConsoleConfig"))
  | [] => broken t.flaw

end CommandConsole.Settings
