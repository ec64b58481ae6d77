/-!
# The input line

What the keys of an input line do besides editing it. The arrow keys walk a cursor through the
lines that were submitted, oldest first; at the end of the list the line is fresh. The completion
key captures what is in the line as a query and offers the names that start with it, one after
another and then again from the first, until another key ends the run.
-/

set_option autoImplicit false

namespace CommandConsole

/-- The submitted lines with the cursor in them, and the completion run with its next turn. -/
structure LineState where
  history : List String
  cursor : Nat
  query : Option String
  turn : Nat
deriving DecidableEq, Repr

namespace LineState

/-- The state of a new session. -/
def start : LineState := ⟨[], 0, none, 0⟩

/-- A line is submitted: it is kept, and the next line is fresh. -/
def submit (s : LineState) (line : String) : LineState :=
  { s with history := s.history ++ [line], cursor := s.history.length + 1 }

/-- One line back, unless the cursor is at the oldest. -/
def previous (s : LineState) : Option String × LineState :=
  match s.cursor with
  | 0 => (none, s)
  | n + 1 => (s.history[n]?, { s with cursor := n })

/-- One line forward; behind the newest the line is empty. -/
def next (s : LineState) : String × LineState :=
  match s.history[s.cursor + 1]? with
  | some line => (line, { s with cursor := s.cursor + 1 })
  | none => ("", { s with cursor := s.history.length })

/-- The names that start with a query, in order. -/
def matching (query : String) (names : List String) : List String :=
  names.filter fun name => query.toList.isPrefixOf name.toList

/-- The completion key: the next of the names that start with the query, or with the buffer where
no run is on. -/
def complete (s : LineState) (buffer : String) (names : List String) :
    Option String × LineState :=
  let query := s.query.getD buffer
  let hits := matching query names
  match hits[s.turn % hits.length]? with
  | none => (none, { s with query := some query, turn := 0 })
  | some hit =>
      (some hit, { s with query := some query, turn := (s.turn + 1) % hits.length })

/-- Any other key: the completion run is over. -/
def edit (s : LineState) : LineState := { s with query := none, turn := 0 }

end LineState

end CommandConsole
