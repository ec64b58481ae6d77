/-!
# Troubles with files and targets

A trouble is told from the outside in: what could not be done, then why not. A line of text shows
it in one piece, a report at the end of a program shows each cause on its own.
-/

set_option autoImplicit false

namespace CommandConsole

/-- What could not be done, and why not: the nearest reason first. -/
structure Trouble where
  summary : String
  causes : List String
deriving DecidableEq, Repr

namespace Trouble

/-- A trouble without a cause. -/
def of (summary : String) : Trouble := ⟨summary, []⟩

/-- A trouble that is the cause of another one. -/
def behind (summary : String) (t : Trouble) : Trouble := ⟨summary, t.summary :: t.causes⟩

/-- A trouble in one piece. -/
def message (t : Trouble) : String := ": ".intercalate (t.summary :: t.causes)

/-- The further lines of a text, set in as its first one is. -/
def setIn (margin : String) (text : String) : String :=
  ("\n" ++ margin).intercalate (text.splitOn "\n")

/-- A cause among several, by its place. -/
def numbered (place : Nat) (cause : String) : String :=
  let digits := toString place
  "".pushn ' ' (5 - digits.length) ++ digits ++ ": " ++ setIn "       " cause

/-- **A trouble as the last words of a program**: each cause on its own, numbered if there are
several. -/
def report (t : Trouble) : String :=
  let causes := match t.causes with
    | [] => []
    | [cause] => ["", "Caused by:", "    " ++ setIn "    " cause]
    | causes => "" :: "Caused by:" :: causes.zipIdx.map fun c => numbered c.2 c.1
  "\n".intercalate (("Error: " ++ t.summary) :: causes)

end Trouble

end CommandConsole
