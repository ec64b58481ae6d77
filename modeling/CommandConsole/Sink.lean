import CommandConsole.Text.Blank
import CommandConsole.Text.Markup

/-!
# Where output goes

A page keeps what was written since it was cleared and shows it as markup, so untrusted text is
escaped before it is written. A terminal has no markup: it shows text as it is, and clearing it is
something to write as well.
-/

set_option autoImplicit false

namespace CommandConsole

/-- The two places where output can go. -/
inductive SinkKind where
  | page
  | terminal
deriving DecidableEq, Repr

/-- A place for output and what it holds. -/
structure Sink where
  kind : SinkKind
  contents : String
deriving DecidableEq, Repr

namespace Sink

/-- An empty page. -/
def page : Sink := ⟨.page, ""⟩

/-- An untouched terminal. -/
def terminal : Sink := ⟨.terminal, ""⟩

/-- Writes a trusted text, and ends the line if asked. -/
def write (s : Sink) (text : String) (newline : Bool) : Sink :=
  { s with contents := s.contents ++ (if newline then text ++ "\n" else text) }

/-- Writes an untrusted text. -/
def writeEscaped (s : Sink) (text : String) (newline : Bool) : Sink :=
  match s.kind with
  | .page => s.write (Text.escapeMarkup text) newline
  | .terminal => s.write text newline

/-- Clears the screen. -/
def clear (s : Sink) : Sink :=
  match s.kind with
  | .page => { s with contents := "" }
  | .terminal => s.write "\x1b[2J\x1b[H" false

/-- The lines of what it holds. -/
def lines (s : Sink) : List String := (Text.lines s.contents.toList).map String.ofList

end Sink

end CommandConsole
