/-!
# The log

What the console reports about its own work. A message is shown when its level is not above the
current one. The time of a message is a matter of who shows it.
-/

set_option autoImplicit false

namespace CommandConsole

/-- The levels, from the fewest messages to the most. -/
inductive LogLevel where
  | error
  | info
  | debug
  | trace
deriving DecidableEq, Repr

namespace LogLevel

/-- The name of a level. -/
def name : LogLevel → String
  | error => "ERROR"
  | info => "INFO"
  | debug => "DEBUG"
  | trace => "TRACE"

/-- The place of a level, the most urgent first. -/
def rank : LogLevel → Nat
  | error => 0
  | info => 1
  | debug => 2
  | trace => 3

/-- Whether messages of this level are shown at the current level. -/
def shownAt (level current : LogLevel) : Bool := level.rank ≤ current.rank

/-- The level of a number of verbosity flags. Being quiet wins over any number of them. -/
def ofFlags (verbose : Nat) (quiet : Bool) : LogLevel :=
  if quiet then error
  else match verbose with
    | 0 => info
    | 1 => debug
    | _ => trace

/-- The level of a debug mode: negative for errors only, then one level a step. -/
def ofMode (mode : Int) : LogLevel :=
  if mode < 0 then error else ofFlags mode.toNat false

end LogLevel

/-- A message of the log. -/
structure LogEntry where
  level : LogLevel
  message : String
deriving DecidableEq, Repr

/-- A message as a line, with a time in milliseconds. -/
def LogEntry.line (time : Nat) (e : LogEntry) : String := s!"[{e.level.name}][{time}] {e.message}"

end CommandConsole
