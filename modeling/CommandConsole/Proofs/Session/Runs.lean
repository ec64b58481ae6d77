import CommandConsole.Session

/-!
# Runs of tasks

How the run of a task is put together. A run of one task and then another is a run of the first
and, on the session it leaves, a run of the second (`runWith_bind`, `run_bind`); the questions are
asked in the same order (`asked_bind`); `Runs` says both of a run at once. A session answers every
question but a line that is nested too deep, so a task that runs no line comes to its end
(`exists_run`).
-/

set_option autoImplicit false

namespace CommandConsole

/-! ## What a task may ask -/

/-- Every question of a task, whatever the answers to those before it, is of a kind. -/
def Task.AllQueries {α : Type} (P : Query → Prop) : Task α → Prop
  | .done _ => True
  | .ask q next => P q ∧ ∀ a, (next a).AllQueries P

theorem Task.allQueries_of_forall {α : Type} {P : Query → Prop} (hP : ∀ q, P q) (t : Task α) :
    t.AllQueries P := by
  induction t with
  | done a => trivial
  | ask q next ih => exact ⟨hP q, ih⟩

/-- Every result of a task, whatever the answers to its questions, is of a kind. -/
def Task.AllResults {α : Type} (R : α → Prop) : Task α → Prop
  | .done a => R a
  | .ask _ next => ∀ a, (next a).AllResults R

theorem Task.allResults_of_forall {α : Type} {R : α → Prop} (hR : ∀ a, R a) (t : Task α) :
    t.AllResults R := by
  induction t with
  | done a => exact hR a
  | ask q next ih => exact ih

/-- A question that does not ask for a line to be run. -/
def Query.RunsNoLine : Query → Prop
  | .execute _ => False
  | _ => True

/-- The commands of a registry run no lines of their own. -/
def Registry.RunsNoLines (registry : Registry) : Prop :=
  ∀ name d args, registry.lookup name = some d →
    (d.handler args).run.AllQueries Query.RunsNoLine

/-- Whether a question is none: a note for the log. -/
def Query.isNote : Query → Bool
  | .log _ _ => true
  | _ => false

namespace Task

variable {α β : Type} {P : Query → Prop} {Q : α → Prop} {R : β → Prop} {t : Task α}
  {f : α → Task β}

theorem bind_done (t : Task α) : (t >>= .done) = t := by
  induction t with
  | done a => rfl
  | ask q next ih => exact congrArg (ask q) (funext ih)

theorem AllQueries.bind (ht : t.AllQueries P) (hf : ∀ a, (f a).AllQueries P) :
    (t >>= f).AllQueries P := by
  induction t with
  | done a => exact hf a
  | ask q next ih => exact ⟨ht.1, fun a => ih a (ht.2 a)⟩

theorem AllQueries.mono {P' : Query → Prop} (hP : ∀ q, P q → P' q) (ht : t.AllQueries P) :
    t.AllQueries P' := by
  induction t with
  | done a => trivial
  | ask q next ih => exact ⟨hP q ht.1, fun a => ih a (ht.2 a)⟩

theorem AllResults.bind (ht : t.AllResults Q) (hf : ∀ a, Q a → (f a).AllResults R) :
    (t >>= f).AllResults R := by
  induction t with
  | done a => exact hf a ht
  | ask q next ih => exact fun a => ih a (ht a)

end Task

namespace Session

/-- The questions that a task asks in a run, in order. -/
def askedWith (answer : (q : Query) → Session → Option (q.Answer × Session)) {α : Type} :
    Task α → Session → List Query
  | .done _, _ => []
  | .ask q next, s =>
      q :: match answer q s with
        | some (a, s) => askedWith answer (next a) s
        | none => []

/-- The questions that a task asks on a session, in order. -/
def asked {α : Type} (s : Session) (t : Task α) : List Query := askedWith (answer maxNesting) t s

/-- What a task asks on a session, in order, without its notes for the log. -/
def questions {α : Type} (s : Session) (t : Task α) : List Query :=
  (s.asked t).filter fun q => !q.isNote

section

variable {α β : Type}

/-! ## One task after another -/

theorem runWith_bind (answer : (q : Query) → Session → Option (q.Answer × Session))
    (t : Task α) (f : α → Task β) (s : Session) :
    runWith answer (t >>= f) s =
      (runWith answer t s).bind fun p => runWith answer (f p.1) p.2 := by
  induction t generalizing s with
  | done a => rfl
  | ask q next ih =>
      show runWith answer (.ask q fun a => next a >>= f) s = _
      simp only [runWith]
      cases answer q s with
      | none => rfl
      | some p => exact ih p.1 p.2

theorem askedWith_bind (answer : (q : Query) → Session → Option (q.Answer × Session))
    (t : Task α) (f : α → Task β) (s : Session) :
    askedWith answer (t >>= f) s = askedWith answer t s ++
      ((runWith answer t s).map fun p => askedWith answer (f p.1) p.2).getD [] := by
  induction t generalizing s with
  | done a => rfl
  | ask q next ih =>
      show askedWith answer (.ask q fun a => next a >>= f) s = _
      simp only [askedWith, runWith]
      cases answer q s with
      | none => rfl
      | some p => simp only [ih p.1 p.2, List.cons_append]

theorem run_bind (s : Session) (t : Task α) (f : α → Task β) :
    s.run (t >>= f) = (s.run t).bind fun p => p.2.run (f p.1) :=
  runWith_bind _ t f s

theorem asked_bind (s : Session) (t : Task α) (f : α → Task β) :
    s.asked (t >>= f) = s.asked t ++ ((s.run t).map fun p => p.2.asked (f p.1)).getD [] :=
  askedWith_bind _ t f s

theorem questions_bind (s : Session) (t : Task α) (f : α → Task β) :
    s.questions (t >>= f) =
      s.questions t ++ ((s.run t).map fun p => p.2.questions (f p.1)).getD [] := by
  rw [questions, asked_bind, List.filter_append]
  cases s.run t <;> rfl

theorem run_log_bind (s : Session) (level : LogLevel) (message : String) (t : Task α) :
    s.run (Task.log level message >>= fun _ => t) = (s.report level message).run t := rfl

theorem run_findAlias_bind (s : Session) (name : String)
    (f : Except String (Option Alias.Record) → Task α) :
    s.run (Task.query (.findAlias name) >>= f) =
      (s.findAlias name).2.run (f (s.findAlias name).1) := rfl

/-! ## What a run does not depend on -/

section

variable {answer : (q : Query) → Session → Option (q.Answer × Session)} {P : Query → Prop}
  {f : Session → Session}

/-- What the answers to all questions of a task leave alone, the run of the task leaves alone. -/
theorem runWith_comm
    (hanswer : ∀ q, P q → ∀ s, answer q (f s) = (answer q s).map fun p => (p.1, f p.2))
    {t : Task α} (ht : t.AllQueries P) (s : Session) :
    runWith answer t (f s) = (runWith answer t s).map fun p => (p.1, f p.2) := by
  induction t generalizing s with
  | done a => rfl
  | ask q next ih =>
      obtain ⟨hq, hnext⟩ := ht
      simp only [runWith, hanswer q hq]
      cases answer q s with
      | none => rfl
      | some p => exact ih p.1 (hnext p.1) p.2

theorem askedWith_comm
    (hanswer : ∀ q, P q → ∀ s, answer q (f s) = (answer q s).map fun p => (p.1, f p.2))
    {t : Task α} (ht : t.AllQueries P) (s : Session) :
    askedWith answer t (f s) = askedWith answer t s := by
  induction t generalizing s with
  | done a => rfl
  | ask q next ih =>
      obtain ⟨hq, hnext⟩ := ht
      simp only [askedWith, hanswer q hq]
      cases answer q s with
      | none => rfl
      | some p => exact congrArg _ (ih p.1 (hnext p.1) p.2)

end

/-! ## Results and questions together -/

/-- A task comes to a value on a session, leaves a session behind, and asks these questions. -/
structure Runs (s : Session) (t : Task α) (a : α) (s' : Session) (qs : List Query) : Prop where
  run : s.run t = some (a, s')
  questions : s.questions t = qs

namespace Runs

variable {s s₁ s' : Session} {t : Task α} {a : α} {qs : List Query}

theorem pure (s : Session) (a : α) : s.Runs (Pure.pure a) a s [] := ⟨rfl, rfl⟩

theorem of_run (h : s.run t = some (a, s')) : s.Runs t a s' (s.questions t) := ⟨h, rfl⟩

/-- A value worked out from the result of a task asks nothing more. -/
theorem bind_pure (f : α → β) (h : s.Runs t a s' qs) :
    s.Runs (do return f (← t)) (f a) s' qs := by
  constructor
  · rw [run_bind, h.run]
    rfl
  · rw [questions_bind, h.run, h.questions]
    exact List.append_nil qs

/-- A note for the log is no question. -/
theorem log_bind {level : LogLevel} {message : String}
    (h : (s.report level message).Runs t a s' qs) :
    s.Runs (Task.log level message >>= fun _ => t) a s' qs :=
  ⟨h.run, h.questions⟩

theorem findAlias_bind {name : String} {reply : Except String (Option Alias.Record)}
    {f : Except String (Option Alias.Record) → Task α} (hstore : s.findAlias name = (reply, s₁))
    (h : s₁.Runs (f reply) a s' qs) :
    s.Runs (Task.query (.findAlias name) >>= f) a s' (.findAlias name :: qs) := by
  constructor
  · rw [run_findAlias_bind, hstore]
    exact h.run
  · show Query.findAlias name :: (s.findAlias name).2.questions (f (s.findAlias name).1) = _
    rw [hstore, h.questions]

end Runs

/-! ## Results -/

theorem result_of_runWith {answer : (q : Query) → Session → Option (q.Answer × Session)}
    {R : α → Prop} {t : Task α} (ht : t.AllResults R) {s s' : Session} {a : α}
    (hrun : runWith answer t s = some (a, s')) : R a := by
  induction t generalizing s with
  | done b =>
      obtain ⟨rfl, -⟩ := Prod.mk.inj (Option.some.inj hrun)
      exact ht
  | ask q next ih =>
      simp only [runWith] at hrun
      split at hrun
      · exact ih _ (ht _) hrun
      · contradiction

/-! ## Tasks that come to an end -/

/-- A session answers every question that does not ask for a line to be run. -/
theorem exists_answer {q : Query} (hq : q.RunsNoLine) (nesting : Nat) (s : Session) :
    ∃ p, answer nesting q s = some p := by
  cases q with
  | execute line => exact hq.elim
  | _ => cases nesting <;> exact ⟨_, rfl⟩

/-- **A task that runs no line comes to its end** on every session. -/
theorem exists_run {t : Task α} (ht : t.AllQueries Query.RunsNoLine) (s : Session) :
    ∃ p, s.run t = some p := by
  induction t generalizing s with
  | done a => exact ⟨(a, s), rfl⟩
  | ask q next ih =>
      obtain ⟨hq, hnext⟩ := ht
      obtain ⟨⟨a, s'⟩, ha⟩ := exists_answer hq maxNesting s
      obtain ⟨p, hp⟩ := ih a (hnext a) s'
      refine ⟨p, ?_⟩
      rw [run, runWith, ha]
      exact hp

end

end Session

end CommandConsole
