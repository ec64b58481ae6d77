import CommandConsole.Proofs.Session.Runs

/-!
# Paths through tasks

A task does not know who answers its questions. A path through it is one way in which they can be
answered, one after another, with the value that it then comes to (`Task.Path`). What holds of all
paths (`Task.AllPaths`) holds whatever the backend, the store of aliases and the opener of views may
say. Notes for the log have no answer to choose, and do not show on a path.

A path through one task and then another is a path through the first and one through the second
(`Task.path_bind`), and every run on a session goes along a path, its transcript
(`Session.path_of_run`).
-/

set_option autoImplicit false

namespace CommandConsole

/-- A question with an answer to it. -/
structure Exchange where
  query : Query
  answer : query.Answer

/-! ## Paths -/

namespace Task

/-- A path through a task: its questions with their answers, in order, and the value at the end. -/
inductive Path {α : Type} : Task α → List Exchange → α → Prop where
  | done (a : α) : Path (.done a) [] a
  | note {level : LogLevel} {message : String} {next : Unit → Task α} {xs : List Exchange} {a : α} :
      Path (next ()) xs a → Path (.ask (.log level message) next) xs a
  | ask {q : Query} {next : q.Answer → Task α} {reply : q.Answer} {xs : List Exchange} {a : α} :
      q.isNote = false → Path (next reply) xs a → Path (.ask q next) (⟨q, reply⟩ :: xs) a

/-- All paths through a task, each with the value at its end, are of a kind. -/
def AllPaths {α : Type} (P : List Exchange → α → Prop) (t : Task α) : Prop :=
  ∀ xs a, t.Path xs a → P xs a

section

variable {α β : Type} {t : Task α} {f : α → Task β} {xs zs : List Exchange} {a a' : α} {b : β}

theorem path_pure : (pure a : Task α).Path xs a' ↔ xs = [] ∧ a' = a := by
  constructor
  · intro h
    cases h
    exact ⟨rfl, rfl⟩
  · rintro ⟨rfl, rfl⟩
    exact .done a'

theorem path_note_bind {level : LogLevel} {message : String} :
    (log level message >>= fun _ => t).Path xs a ↔ t.Path xs a := by
  constructor
  · intro h
    cases h with
    | note h => exact h
    | ask hq _ => contradiction
  · intro h
    exact .note h

theorem path_query_bind {q : Query} {f : q.Answer → Task α} (hq : q.isNote = false) :
    (query q >>= f).Path xs a ↔ ∃ reply ys, xs = ⟨q, reply⟩ :: ys ∧ (f reply).Path ys a := by
  constructor
  · intro h
    cases h with
    | note _ => contradiction
    | ask _ h => exact ⟨_, _, rfl, h⟩
  · rintro ⟨reply, ys, rfl, h⟩
    exact .ask hq h

/-- **A path through one task and then another** is one through the first and one through the
second. -/
theorem path_bind : (t >>= f).Path zs b ↔
    ∃ xs a ys, zs = xs ++ ys ∧ t.Path xs a ∧ (f a).Path ys b := by
  constructor
  · intro h
    induction t generalizing zs with
    | done a => exact ⟨[], a, zs, rfl, .done a, h⟩
    | ask q next ih =>
        cases h with
        | note h =>
            obtain ⟨xs, a, ys, rfl, hfirst, hsecond⟩ := ih () h
            exact ⟨xs, a, ys, rfl, .note hfirst, hsecond⟩
        | @ask _ _ reply _ _ hq h =>
            obtain ⟨xs, a, ys, rfl, hfirst, hsecond⟩ := ih reply h
            exact ⟨⟨q, reply⟩ :: xs, a, ys, rfl, .ask hq hfirst, hsecond⟩
  · rintro ⟨xs, a, ys, rfl, hfirst, hsecond⟩
    induction hfirst with
    | done a => exact hsecond
    | note _ ih => exact .note (ih hsecond)
    | ask hq _ ih => exact .ask hq (ih hsecond)

/-- What holds at the end of every path holds of every result. -/
theorem AllPaths.allResults {R : α → Prop} (h : t.AllPaths fun _ a => R a) : t.AllResults R := by
  induction t with
  | done a => exact h [] a (.done a)
  | ask q next ih =>
      intro reply
      refine ih reply fun xs a hpath => ?_
      cases hq : q.isNote with
      | false => exact h _ a (.ask hq hpath)
      | true =>
          cases q with
          | log level message => exact h xs a (.note hpath)
          | _ => contradiction

end

end Task

/-! ## Paths through actions -/

namespace Action

variable {α β : Type} {P : List Exchange → Except Fault β → Prop}

theorem allPaths_pure {b : β} (h : P [] (.ok b)) : (pure b : Action β).run.AllPaths P := by
  intro xs r hpath
  obtain ⟨rfl, rfl⟩ := Task.path_pure.mp hpath
  exact h

theorem allPaths_throw {fault : Fault} (h : P [] (.error fault)) :
    (throw fault : Action β).run.AllPaths P := by
  intro xs r hpath
  obtain ⟨rfl, rfl⟩ := Task.path_pure.mp hpath
  exact h

/-- One action and then another: the second comes only behind a result. -/
theorem allPaths_bind {x : Action α} {f : α → Action β}
    (h : x.run.AllPaths fun xs r =>
      match r with
      | .ok a => (f a).run.AllPaths fun ys r => P (xs ++ ys) r
      | .error fault => P xs (.error fault)) :
    (x >>= f).run.AllPaths P := by
  intro zs b hpath
  obtain ⟨xs, r, ys, rfl, hfirst, hsecond⟩ := Task.path_bind.mp hpath
  cases r with
  | ok a => exact h xs _ hfirst ys b hsecond
  | error fault =>
      obtain ⟨rfl, rfl⟩ := Task.path_pure.mp hsecond
      simpa using h xs _ hfirst

theorem allPaths_query_bind {q : Query} {f : q.Answer → Action β} (hq : q.isNote = false)
    (h : ∀ reply, (f reply).run.AllPaths fun xs r => P (⟨q, reply⟩ :: xs) r) :
    (query q >>= f).run.AllPaths P := by
  intro zs b hpath
  obtain ⟨reply, ys, rfl, hnext⟩ := (Task.path_query_bind hq).mp hpath
  exact h reply ys b hnext

theorem allPaths_note_bind {level : LogLevel} {message : String} {x : Action β}
    (h : x.run.AllPaths P) : (log level message >>= fun _ => x).run.AllPaths P :=
  fun xs b hpath => h xs b (Task.path_note_bind.mp hpath)

theorem allPaths_expect_bind {r : Except String α} {f : α → Action β}
    (herror : ∀ cause, r = .error cause → P [] (.error (.error (.remote "" cause))))
    (hok : ∀ a, r = .ok a → (f a).run.AllPaths P) : (expect r >>= f).run.AllPaths P := by
  cases r with
  | ok a => exact hok a rfl
  | error cause => exact allPaths_throw (herror cause rfl)

theorem allPaths_ofExcept_bind {r : Except CommandError α} {f : α → Action β}
    (herror : ∀ e, r = .error e → P [] (.error (.error e)))
    (hok : ∀ a, r = .ok a → (f a).run.AllPaths P) : (ofExcept r >>= f).run.AllPaths P := by
  cases r with
  | ok a => exact hok a rfl
  | error e => exact allPaths_throw (herror e rfl)

end Action

/-! ## Runs -/

namespace Session

variable {α : Type}

/-- What a task asks in a run, with the answers it is given, but for its notes for the log. -/
def transcriptWith (answer : (q : Query) → Session → Option (q.Answer × Session)) :
    Task α → Session → List Exchange
  | .done _, _ => []
  | .ask q next, s =>
      match answer q s with
      | some (a, s) =>
          if q.isNote then transcriptWith answer (next a) s
          else ⟨q, a⟩ :: transcriptWith answer (next a) s
      | none => []

/-- What a task asks on a session, with the answers it is given, but for its notes for the log. -/
def transcript (s : Session) (t : Task α) : List Exchange := transcriptWith (answer maxNesting) t s

theorem transcriptWith_ask {answer : (q : Query) → Session → Option (q.Answer × Session)}
    {q : Query} {next : q.Answer → Task α} {s s' : Session} {reply : q.Answer}
    (h : answer q s = some (reply, s')) :
    transcriptWith answer (.ask q next) s =
      if q.isNote then transcriptWith answer (next reply) s'
      else ⟨q, reply⟩ :: transcriptWith answer (next reply) s' := by
  simp only [transcriptWith, h]

theorem path_of_runWith {answer : (q : Query) → Session → Option (q.Answer × Session)} {t : Task α}
    {s s' : Session} {a : α} (h : runWith answer t s = some (a, s')) :
    t.Path (transcriptWith answer t s) a := by
  induction t generalizing s with
  | done b =>
      obtain ⟨rfl, -⟩ := Prod.mk.inj (Option.some.inj h)
      exact .done b
  | ask q next ih =>
      unfold runWith at h
      split at h
      · rename_i reply s₁ hreply
        rw [transcriptWith_ask hreply]
        cases hq : q.isNote with
        | false => exact .ask hq (ih reply h)
        | true =>
            cases q with
            | log level message => exact .note (ih reply h)
            | _ => contradiction
      · contradiction

/-- **A run goes along a path**, which its transcript shows. -/
theorem path_of_run {t : Task α} {s s' : Session} {a : α} (h : s.run t = some (a, s')) :
    t.Path (s.transcript t) a :=
  path_of_runWith h

end Session

end CommandConsole
