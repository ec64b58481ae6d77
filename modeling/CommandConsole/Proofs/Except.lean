/-!
# Steps that can fail

What comes to a value in several steps has come to one in each of them.
-/

set_option autoImplicit false

namespace CommandConsole

/-- Of two steps that come to a value, the first comes to one, and then the second. -/
theorem exists_of_bind {ε α β : Type} {x : Except ε α} {f : α → Except ε β} {b : β}
    (h : x >>= f = .ok b) : ∃ a, x = .ok a ∧ f a = .ok b := by
  cases x with
  | error e => contradiction
  | ok a => exact ⟨a, rfl, h⟩

end CommandConsole
