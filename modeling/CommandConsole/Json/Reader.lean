import CommandConsole.Json.Event

/-!
# Reading JSON

A value is put together from the events of its text. Of two fields with one name the later one
stands.
-/

set_option autoImplicit false

namespace CommandConsole.Json

/-- A list or an object of which some parts are known: the items, last one first, or the fields
and the name of the next one. -/
inductive Frame where
  | list (items : List Json)
  | object (fields : Fields) (name : String)
deriving Repr

/-- What is known of a value: the containers around the place that has been reached, or all. -/
inductive Progress where
  | within (frames : List Frame)
  | whole (v : Json)
deriving Repr

/-- Puts a value into the innermost container. -/
def put (v : Json) : List Frame → Progress
  | [] => .whole v
  | .list items :: fs => .within (.list (v :: items) :: fs)
  | .object fields name :: fs => .within (.object (Assoc.insert name v fields) "" :: fs)

/-- What an event adds. -/
def absorb : List Frame → Event → Option Progress
  | fs, .scalar v => some (put v fs)
  | fs, .openList => some (.within (.list [] :: fs))
  | fs, .openObject => some (.within (.object [] "" :: fs))
  | .object fields _ :: fs, .name s => some (.within (.object fields s :: fs))
  | .list items :: fs, .closeList => some (put (.arr items.reverse) fs)
  | .object fields _ :: fs, .closeObject => some (put (.obj fields) fs)
  | _, _ => none

/-- The value that events spell. -/
def assemble : List Frame → List Event → Option Json
  | _, [] => none
  | fs, e :: es =>
      match absorb fs e with
      | some (.within gs) => assemble gs es
      | some (.whole v) => if es.isEmpty then some v else none
      | none => none

/-- Reads a text in which at most so many brackets are open at once. -/
def readWithin (limit : Nat) (text : String) : Except Complaint Json :=
  let t := events limit text.toList
  match t.flaw, assemble [] (t.events.map Prod.fst) with
  | some f, _ => .error f
  | none, some v => .ok v
  | none, none => .error ⟨Flaw.endInValue.message, .start⟩

/-- How many brackets may be open at once in a text. -/
def maxNesting : Nat := 127

/-- **The value of a JSON text.** -/
def read (text : String) : Except Complaint Json := readWithin maxNesting text

end CommandConsole.Json
