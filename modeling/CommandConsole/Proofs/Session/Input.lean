import CommandConsole.Proofs.LineState.Completion
import CommandConsole.Proofs.Registry
import CommandConsole.Proofs.Session.Setup

/-!
# What happens at an input line

A console has one input line, with a line editor in front of it. Lines are submitted there and keys
are pressed, and meanwhile commands are registered and unregistered; whatever else happens leaves
the line, the commands and the completer of the line editor alone. An event is one such happening
(`Session.Event`, `Session.Happens`), and a session is reached when events lead to it from a session
without commands (`Session.Reached`).

In a reached session the commands are in the order of their names (`Session.Reached.sorted`), and
the turns of a completion begin again with each run (`Session.Reached.rested`).
-/

set_option autoImplicit false

namespace CommandConsole

/-! ## Names -/

namespace Registry

theorem mem_names_iff {r : Registry} {name : String} :
    name ∈ r.names ↔ (r.lookup name).isSome := by
  rw [Option.isSome_iff_ne_none, Ne, lookup, Assoc.find?_eq_none_iff, not_not]
  rfl

end Registry

/-- What is offered in a line keeps the turns in order. -/
theorem Completer.rested_offer {offered : Option String} {s : LineState} {names : List String}
    {line : String} {cursor : Nat} (h : s.Rested) :
    (offer offered s names line cursor).2.1.Rested := by
  unfold offer
  split
  · exact h
  · next word _ =>
      have hfirst : (if offered = some (String.ofList word) then s else s.edit).Rested := by
        split
        · exact h
        · exact h.after .edit
      exact hfirst.after (.complete (String.ofList word) names)

namespace Session

/-! ## Events -/

/-- The other session has the same input line with the same commands, and what was offered last in
it is the same. -/
structure SameInput (s s' : Session) : Prop where
  registry : s'.registry = s.registry
  line : s'.line = s.line
  offered : s'.offered = s.offered

/-- What happens at an input line. -/
inductive Event where
  | submit (line : String)
  | previous
  | next
  | complete (buffer : String)
  | tab (line : String) (cursor : Nat)
  | edit
  | register (d : Definition)
  | unregister (name : String)
  | aside

/-- **One event**: a line is taken down, a key is pressed, a command is put in or taken out, or
something happens that has nothing to do with the input line. -/
inductive Happens (s : Session) : Event → Session → Prop where
  | submit (line : String) : Happens s (.submit line) (s.enter line)
  | previous : Happens s .previous s.previous.2
  | next : Happens s .next s.next.2
  | complete (buffer : String) : Happens s (.complete buffer) (s.complete buffer).2
  | tab (line : String) (cursor : Nat) : Happens s (.tab line cursor) (s.tab line cursor).2
  | edit : Happens s .edit s.edit
  | register (d : Definition) : Happens s (.register d) (s.register d)
  | unregister (name : String) : Happens s (.unregister name) (s.unregister name).2
  | aside {s' : Session} : s.SameInput s' → Happens s .aside s'

/-- Events, one after another. -/
inductive Passes (s₀ : Session) : List Event → Session → Prop where
  | nil : Passes s₀ [] s₀
  | snoc {events : List Event} {e : Event} {s s' : Session} :
      Passes s₀ events s → Happens s e s' → Passes s₀ (events ++ [e]) s'

/-- Events lead to a session from one without commands. -/
def Reached (s : Session) : Prop := ∃ events, Passes start events s

variable {s s' : Session} {e : Event} {events : List Event}

theorem Reached.happens (h : s.Reached) (he : Happens s e s') : s'.Reached := by
  obtain ⟨events, hpasses⟩ := h
  exact ⟨events ++ [e], hpasses.snoc he⟩

/-- What holds of a session without commands, and is kept by each event, holds of each reached
session. -/
theorem Reached.invariant {P : Session → Prop} (h : s.Reached) (hstart : P start)
    (hstep : ∀ {s e s'}, Happens s e s' → P s → P s') : P s := by
  obtain ⟨events, hpasses⟩ := h
  induction hpasses with
  | nil => exact hstart
  | snoc _ he ih => exact hstep he ih

theorem Reached.registerAll (h : s.Reached) (ds : List Definition) :
    (s.registerAll ds).Reached := by
  induction ds generalizing s with
  | nil => exact h
  | cons d ds ih => exact ih (h.happens (.register d))

/-! ## What holds in reached sessions -/

/-- To put a command in changes the commands and the log alone. -/
theorem register_eq (s : Session) (d : Definition) :
    ∃ log, s.register d = { s with registry := s.registry.register d, log := log } := by
  unfold register
  cases s.registry.replacing? d with
  | none => exact ⟨s.log, rfl⟩
  | some message =>
      obtain ⟨log, hreport⟩ := report_eq s .debug message
      exact ⟨log, by simp only [hreport]⟩

/-- To take a line down changes the line state and the sink alone. -/
theorem enter_eq (s : Session) (line : String) :
    ∃ state sink, s.enter line = { s with line := state, sink := sink } ∧
      (state = s.line ∨ state = s.line.submit line) := by
  unfold enter
  split
  · exact ⟨s.line, s.sink, rfl, .inl rfl⟩
  · dsimp only
    split <;> exact ⟨s.line.submit line, _, rfl, .inr rfl⟩

/-- **Each event keeps the commands in order.** -/
theorem Happens.sorted (h : Happens s e s') (hs : Assoc.Sorted s.registry) :
    Assoc.Sorted s'.registry := by
  cases h with
  | submit line =>
      obtain ⟨state, sink, heq, -⟩ := enter_eq s line
      rwa [heq]
  | register d =>
      obtain ⟨log, heq⟩ := register_eq s d
      rw [heq]
      exact Assoc.sorted_insert hs ..
  | unregister name =>
      show Assoc.Sorted (s.registry.unregister name).2
      rw [Registry.unregister_eq hs]
      exact hs.filter _
  | aside hsame => rwa [hsame.registry]
  | _ => exact hs

/-- **In a reached session the commands are in the order of their names.** -/
theorem Reached.sorted (h : s.Reached) : Assoc.Sorted s.registry :=
  h.invariant Assoc.sorted_nil Happens.sorted

/-- **Each event keeps the turns in order**: they begin again with each run. -/
theorem Happens.rested (h : Happens s e s') (hs : s.line.Rested) : s'.line.Rested := by
  cases h with
  | submit line =>
      obtain ⟨state, sink, heq, hstate⟩ := enter_eq s line
      rw [heq]
      rcases hstate with rfl | rfl
      · exact hs
      · exact hs.after (.submit line)
  | previous => exact hs.after .previous
  | next => exact hs.after .next
  | complete buffer => exact hs.after (.complete buffer s.registry.names)
  | tab line cursor => exact Completer.rested_offer hs
  | edit => exact hs.after .edit
  | register d =>
      obtain ⟨log, heq⟩ := register_eq s d
      rwa [heq]
  | unregister name => exact hs
  | aside hsame => rwa [hsame.line]

theorem Reached.rested (h : s.Reached) : s.line.Rested :=
  h.invariant (fun _ => rfl) Happens.rested

end Session

end CommandConsole
