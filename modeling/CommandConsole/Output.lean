/-!
# Outputs of commands

What a command produces. Plain text and the cells of a table are untrusted and are escaped where
they are shown; markup is trusted and shown as it is.
-/

set_option autoImplicit false

namespace CommandConsole

/-- What a command produces. -/
inductive Output where
  | none
  | text (s : String)
  | markup (s : String)
  | table (headers : List String) (rows : List (List String))
  | clear
deriving DecidableEq, Repr

end CommandConsole
