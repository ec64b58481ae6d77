import CommandConsole.LineState
import CommandConsole.Text.Blank

/-!
# Completion in a line editor

A line editor asks what to put in front of the cursor when the completion key is pressed. Only the
first word of the line is completed. The editor does not report other keys, so a word that is not
the name offered last tells that the line was edited, and starts a new run. A name that is offered
takes the place of all that is in front of the cursor, with a space behind it (`candidates`).
-/

set_option autoImplicit false

namespace CommandConsole

namespace Completer

open Text

/-- The characters in the first bytes of a text, where these end behind a character. -/
def firstBytes : Nat → List Char → Option (List Char)
  | 0, _ => some []
  | _ + 1, [] => none
  | n + 1, c :: r =>
      if c.utf8Size ≤ n + 1 then (firstBytes (n + 1 - c.utf8Size) r).map (c :: ·) else none

/-- The word that is completed in a line with the cursor behind so many bytes. -/
def word? (line : List Char) (cursor : Nat) : Option (List Char) :=
  ((firstBytes cursor line).map trim).filter fun w => !w.any isBlank

/-- **The name that the completion key offers**, with the line state and the name offered last.
Where no word is completed, nothing changes. -/
def offer (offered : Option String) (s : LineState) (names : List String) (line : String)
    (cursor : Nat) : Option String × LineState × Option String :=
  match word? line.toList cursor with
  | none => (none, s, offered)
  | some word =>
      let word := String.ofList word
      let s := if offered = some word then s else s.edit
      let (name, s) := s.complete word names
      (name, s, name)

/-- What a line editor shows, and what it puts in front of the cursor. -/
structure Candidate where
  display : String
  replacement : String
deriving DecidableEq, Repr

/-- A name as a candidate. -/
def candidate (name : String) : Candidate := ⟨name, name ++ " "⟩

/-- The candidates for what was offered, and where in the line they begin. -/
def candidates (offer : Option String) : Nat × List Candidate := (0, (offer.map candidate).toList)

end Completer

end CommandConsole
