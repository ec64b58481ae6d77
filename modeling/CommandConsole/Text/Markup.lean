/-!
# Escaping for an HTML host

Text that a user or a backend had a hand in is escaped before it reaches an HTML host: the five
characters with a meaning in markup become entities and all others stand as they are.
-/

set_option autoImplicit false

namespace CommandConsole.Text

/-- A character as it is shown in markup. -/
def entity (c : Char) : List Char :=
  match c with
  | '&' => "&amp;".toList
  | '<' => "&lt;".toList
  | '>' => "&gt;".toList
  | '"' => "&quot;".toList
  | '\'' => "&#39;".toList
  | c => [c]

/-- A text with the five markup characters replaced by entities. -/
def escape (cs : List Char) : List Char := cs.flatMap entity

/-- **A string made safe for an HTML host.** -/
def escapeMarkup (s : String) : String := String.ofList (escape s.toList)

end CommandConsole.Text
