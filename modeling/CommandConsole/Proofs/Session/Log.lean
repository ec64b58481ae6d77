import CommandConsole.Proofs.Session.Apart

/-!
# The log is only written

No answer of a session depends on what its log holds. So a run behind a log of notes is the run
without them, with the same notes in front of its own (`run_withNotes`), and a note taken before a
run does not change the outcome (`run_report`).
-/

set_option autoImplicit false

namespace CommandConsole.Session

/-- A session with notes in front of its log. -/
def withNotes (s : Session) (notes : List LogEntry) : Session := { s with log := notes ++ s.log }

variable {α : Type} (notes : List LogEntry) (s : Session)

/-- No answer depends on the log. The induction is on how deep lines may run lines: the answer to a
line is the run of another task. -/
theorem answer_withNotes (nesting : Nat) (q : Query) (s : Session) :
    answer nesting q (s.withNotes notes) =
      (answer nesting q s).map fun p => (p.1, p.2.withNotes notes) := by
  induction nesting generalizing q s with
  | zero =>
      cases q with
      | execute line => rfl
      | _ => exact answer_apart id notes s 0 (by trivial)
  | succ nesting ih =>
      cases q with
      | execute line =>
          exact runWith_comm (fun q _ => ih q) (Task.allQueries_of_forall (fun _ => trivial) _) s
      | _ => exact answer_apart id notes s (nesting + 1) (by trivial)

theorem run_withNotes (t : Task α) :
    (s.withNotes notes).run t = (s.run t).map fun p => (p.1, p.2.withNotes notes) :=
  runWith_comm (fun q _ => answer_withNotes notes maxNesting q)
    (Task.allQueries_of_forall (fun _ => trivial) t) s

/-- **A note changes no outcome.** A task comes to the same behind a note for the log. -/
theorem run_report (level : LogLevel) (message : String) (t : Task α) :
    ((s.report level message).run t).map Prod.fst = (s.run t).map Prod.fst := by
  by_cases h : level.shownAt s.level = true
  · -- both sessions are the one with an empty log behind notes of their own
    have hrun : ∀ entries : List LogEntry,
        (({ s with log := entries } : Session).run t).map Prod.fst =
          (({ s with log := [] } : Session).run t).map Prod.fst := by
      intro entries
      have hnotes := run_withNotes entries { s with log := [] } t
      rw [withNotes, List.append_nil] at hnotes
      rw [hnotes, Option.map_map]
      rfl
    have hreport : s.report level message = { s with log := s.log ++ [⟨level, message⟩] } := by
      simp [report, h]
    rw [hreport, hrun, ← hrun s.log]
  · simp [report, h]

end CommandConsole.Session
