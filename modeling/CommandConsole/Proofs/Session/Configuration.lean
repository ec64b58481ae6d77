import CommandConsole.Proofs.Session.Setup

/-!
# Lines in progress

A line that was begun goes on in turns, and between two of its turns anything can happen: other
lines are begun and go on, keys are pressed, a line is given up, and what is around the console
changes. A configuration is a session with the lines in progress on it (`Configuration`). A step
changes it in one of these ways (`Configuration.Step`), which its label names, and steps may follow
each other in every order (`Configuration.Trace`).

In a turn a line asks its next question and has it answered, or shows its outcome. A question that
runs another line has that line put in front of what is left to do, so it goes on in turns as well.
To run a task at one stretch is one of the ways in which it can go on (`leads_of_runWith`),
and so is to submit a line and to wait for it (`exists_trace_of_submit`).
-/

set_option autoImplicit false

namespace CommandConsole

/-! ## What is around a console -/

namespace Session

/-- The other session has the same console. What is around it may differ: the backend, the aliases,
the files, the width, and the log with its level. -/
structure SameConsole (s s' : Session) : Prop where
  registry : s'.registry = s.registry
  aliasLimit : s'.aliasLimit = s.aliasLimit
  echo : s'.echo = s.echo
  opener : s'.opener = s.opener
  line : s'.line = s.line
  offered : s'.offered = s.offered
  sink : s'.sink = s.sink

/-- A key is pressed that does not submit the line. -/
inductive Pressed (s : Session) : Session → Prop where
  | previous : Pressed s s.previous.2
  | next : Pressed s s.next.2
  | complete (buffer : String) : Pressed s (s.complete buffer).2
  | tab (line : String) (cursor : Nat) : Pressed s (s.tab line cursor).2
  | edit : Pressed s s.edit

/-- What there is to do for a line. -/
def taskOf (s : Session) (line : String) : Task Outcome :=
  Dispatch.execute s.registry s.aliasLimit line

variable {s s' : Session}

theorem SameConsole.refl (s : Session) : s.SameConsole s := ⟨rfl, rfl, rfl, rfl, rfl, rfl, rfl⟩

theorem sameConsole_report (s : Session) (level : LogLevel) (message : String) :
    s.SameConsole (s.report level message) := by
  obtain ⟨log, h⟩ := report_eq s level message
  exact h ▸ ⟨rfl, rfl, rfl, rfl, rfl, rfl, rfl⟩

theorem sameConsole_callBackend (s : Session) (r : Request) :
    s.SameConsole (s.callBackend r).2 := by
  obtain ⟨backend, log, h⟩ := callBackend_eq s r
  exact h ▸ ⟨rfl, rfl, rfl, rfl, rfl, rfl, rfl⟩

theorem sameConsole_callAliases (s : Session) (r : Request) :
    s.SameConsole (s.callAliases r).2 := by
  unfold callAliases
  cases s.aliases with
  | records store =>
      obtain ⟨log, h⟩ := report_eq s .trace s!"memory call {r.model}.{r.method}"
      simp only [h]
      exact ⟨rfl, rfl, rfl, rfl, rfl, rfl, rfl⟩
  | memory store => exact sameConsole_callBackend s r
  | backend => exact sameConsole_callBackend s r

theorem sameConsole_findAlias (s : Session) (name : String) :
    s.SameConsole (s.findAlias name).2 := by
  unfold findAlias
  cases s.aliases with
  | memory store => exact .refl s
  | records store => exact sameConsole_callAliases ..
  | backend => exact sameConsole_callAliases ..

theorem sameConsole_changeAlias (s : Session) (c : Alias.Change) :
    s.SameConsole (s.changeAlias c).2 := by
  unfold changeAlias
  cases s.aliases with
  | memory store => exact ⟨rfl, rfl, rfl, rfl, rfl, rfl, rfl⟩
  | records store => exact sameConsole_callAliases ..
  | backend => exact sameConsole_callAliases ..

/-- A question that runs no line is answered alike at every depth. -/
theorem answer_zero {q : Query} (hq : q.RunsNoLine) (nesting : Nat) (s : Session) :
    answer nesting q s = answer 0 q s := by
  cases q with
  | execute line => exact hq.elim
  | _ => cases nesting <;> rfl

/-- **No question changes the console**, unless it opens a view or runs a line. -/
theorem sameConsole_or_openView {q : Query} (hq : q.RunsNoLine) {a : q.Answer}
    (ha : answer 0 q s = some (a, s')) : s.SameConsole s' ∨ ∃ v, s' = (s.openView v).2 := by
  cases q with
  | execute line => exact hq.elim
  | openView v => exact .inr ⟨v, (congrArg Prod.snd (Option.some.inj ha)).symm⟩
  | call r =>
      obtain rfl : (s.callBackend r).2 = s' := congrArg Prod.snd (Option.some.inj ha)
      exact .inl (sameConsole_callBackend s r)
  | findAlias name =>
      obtain rfl : (s.findAlias name).2 = s' := congrArg Prod.snd (Option.some.inj ha)
      exact .inl (sameConsole_findAlias s name)
  | changeAlias c =>
      obtain rfl : (s.changeAlias c).2 = s' := congrArg Prod.snd (Option.some.inj ha)
      exact .inl (sameConsole_changeAlias s c)
  | log level message =>
      obtain rfl : s.report level message = s' := congrArg Prod.snd (Option.some.inj ha)
      exact .inl (sameConsole_report s level message)
  | setLevel level =>
      obtain rfl : { s with level := level } = s' := congrArg Prod.snd (Option.some.inj ha)
      exact .inl ⟨rfl, rfl, rfl, rfl, rfl, rfl, rfl⟩
  | commands =>
      obtain rfl : s = s' := congrArg Prod.snd (Option.some.inj ha)
      exact .inl (.refl s)
  | history =>
      obtain rfl : s = s' := congrArg Prod.snd (Option.some.inj ha)
      exact .inl (.refl s)

end Session

/-! ## Configurations -/

/-- A line in progress: what is left to do for it, and whether its outcome is shown at the end. -/
structure RunningLine where
  task : Task Outcome
  shown : Bool

/-- A session and the lines in progress on it. -/
structure Configuration where
  session : Session
  running : List RunningLine

namespace Configuration

/-- What a step does. -/
inductive Label where
  | submit (line : String)
  | execute (line : String)
  | turn
  | giveUp
  | press
  | around

/-- A line is begun. No step changes the commands, so it makes no difference when its first turn
comes. -/
def begin (c : Configuration) (line : String) (shown : Bool) : Configuration :=
  { c with running := c.running ++ [⟨c.session.taskOf line, shown⟩] }

/-- A line is submitted: it is taken down, and begun if it has a word. -/
def submit (c : Configuration) (line : String) : Configuration :=
  let c := { c with session := c.session.enter line }
  if Text.isBlankString line then c else c.begin line true

/-- **One step**: a line is submitted, or run for its outcome alone; one of the lines in progress
has a turn, or is given up; a key is pressed; or something changes around the console. -/
inductive Step (c : Configuration) : Label → Configuration → Prop where
  | submit (line : String) : Step c (.submit line) (c.submit line)
  | execute (line : String) : Step c (.execute line) (c.begin line false)
  | ask {q : Query} {next : q.Answer → Task Outcome} {shown : Bool} {a : q.Answer} {s : Session}
      {front back : List RunningLine} :
      c.running = front ++ ⟨.ask q next, shown⟩ :: back →
      q.RunsNoLine →
      Session.answer 0 q c.session = some (a, s) →
      Step c .turn ⟨s, front ++ ⟨next a, shown⟩ :: back⟩
  | nest {line : String} {next : Outcome → Task Outcome} {shown : Bool}
      {front back : List RunningLine} :
      c.running = front ++ ⟨.ask (.execute line) next, shown⟩ :: back →
      Step c .turn ⟨c.session, front ++ ⟨c.session.taskOf line >>= next, shown⟩ :: back⟩
  | render {outcome : Outcome} {front back : List RunningLine} :
      c.running = front ++ ⟨.done outcome, true⟩ :: back →
      Step c .turn ⟨c.session.render outcome, front ++ back⟩
  | giveUp {e : RunningLine} {front back : List RunningLine} :
      c.running = front ++ e :: back →
      Step c .giveUp ⟨c.session, front ++ back⟩
  | press {s : Session} : c.session.Pressed s → Step c .press ⟨s, c.running⟩
  | around {s : Session} : c.session.SameConsole s → Step c .around ⟨s, c.running⟩

/-- Steps, one after another. -/
inductive Trace (c₀ : Configuration) : List Label → Configuration → Prop where
  | nil : Trace c₀ [] c₀
  | snoc {labels : List Label} {label : Label} {c c' : Configuration} :
      Trace c₀ labels c → Step c label c' → Trace c₀ (labels ++ [label]) c'

variable {c₀ c c' : Configuration} {labels labels' : List Label}

theorem Trace.append (h : Trace c₀ labels c) (h' : Trace c labels' c') :
    Trace c₀ (labels ++ labels') c' := by
  induction h' with
  | nil => rwa [List.append_nil]
  | snoc _ hstep ih =>
      rw [← List.append_assoc]
      exact ih.snoc hstep

theorem Trace.step {label : Label} (h : Step c label c') : Trace c [label] c' := Trace.nil.snoc h

/-! ## Lines that are waited for -/

/-- A line can go on from a session and what is left to do for it to others, while the other lines
in progress wait. -/
def Leads (s : Session) (t : Task Outcome) (s' : Session) (t' : Task Outcome) : Prop :=
  ∀ shown front back, ∃ labels,
    Trace ⟨s, front ++ ⟨t, shown⟩ :: back⟩ labels ⟨s', front ++ ⟨t', shown⟩ :: back⟩

section

variable {s s' s'' : Session} {t t' t'' : Task Outcome}

theorem Leads.refl (s : Session) (t : Task Outcome) : Leads s t s t :=
  fun _ _ _ => ⟨[], .nil⟩

theorem Leads.trans (h : Leads s t s' t') (h' : Leads s' t' s'' t'') : Leads s t s'' t'' := by
  intro shown front back
  obtain ⟨labels, htrace⟩ := h shown front back
  obtain ⟨labels', htrace'⟩ := h' shown front back
  exact ⟨labels ++ labels', htrace.append htrace'⟩

theorem leads_of_answer {nesting : Nat} {q : Query} {next : q.Answer → Task Outcome} {a : q.Answer}
    (hq : q.RunsNoLine) (ha : Session.answer nesting q s = some (a, s')) :
    Leads s (.ask q next) s' (next a) := by
  rw [Session.answer_zero hq] at ha
  exact fun _ _ _ => ⟨[.turn], .step (.ask rfl hq ha)⟩

theorem leads_of_execute (s : Session) (line : String) (next : Outcome → Task Outcome) :
    Leads s (.ask (.execute line) next) s (s.taskOf line >>= next) :=
  fun _ _ _ => ⟨[.turn], .step (.nest rfl)⟩

/-- A task can go on in turns if the lines that it runs can. -/
theorem leads_of_runWith_of_lines {nesting : Nat}
    (hline : ∀ {line : String} {s s' : Session} {outcome : Outcome},
      Session.answer nesting (.execute line) s = some (outcome, s') →
        ∀ next, Leads s (.ask (.execute line) next) s' (next outcome))
    {outcome : Outcome} (h : Session.runWith (Session.answer nesting) t s = some (outcome, s'))
    (k : Outcome → Task Outcome) : Leads s (t >>= k) s' (k outcome) := by
  induction t generalizing s with
  | done b =>
      obtain ⟨rfl, rfl⟩ := Prod.mk.inj (Option.some.inj h)
      exact .refl _ _
  | ask q next ih =>
      unfold Session.runWith at h
      split at h
      · rename_i a s₁ ha
        have hfirst : Leads s (.ask q fun a => next a >>= k) s₁ (next a >>= k) := by
          -- the answer to any other question is the same at every depth
          cases q with
          | execute line => exact hline ha _
          | _ => exact leads_of_answer trivial ha
        exact hfirst.trans (ih a h)
      · contradiction

/-- **A task that is run at one stretch can go on in turns** to the same result. The induction is on
the depth of the lines that it runs. -/
theorem leads_of_runWith {nesting : Nat} {outcome : Outcome}
    (h : Session.runWith (Session.answer nesting) t s = some (outcome, s'))
    (k : Outcome → Task Outcome) : Leads s (t >>= k) s' (k outcome) := by
  induction nesting generalizing t s s' outcome k with
  | zero => exact leads_of_runWith_of_lines (fun ha => by contradiction) h k
  | succ nesting ih =>
      refine leads_of_runWith_of_lines (fun {line s s' outcome} ha next => ?_) h k
      have hrun : Session.runWith (Session.answer nesting) (s.taskOf line) s =
          some (outcome, s') := ha
      exact (leads_of_execute s line next).trans (ih hrun next)

end

/-- **To submit a line and to wait for it** is one way in which it can go on. -/
theorem exists_trace_of_submit {s s' : Session} {line : String} (h : s.submit line = some s') :
    ∃ labels, Trace ⟨s, []⟩ (.submit line :: labels) ⟨s', []⟩ := by
  have hsubmit : Trace ⟨s, []⟩ [.submit line] (submit ⟨s, []⟩ line) := .step (.submit line)
  cases hblank : Text.isBlankString line with
  | true =>
      have henter : s.enter line = s' := by simpa [Session.submit, Session.settle, hblank] using h
      refine ⟨[], ?_⟩
      simpa [submit, hblank, henter] using hsubmit
  | false =>
      simp only [Session.submit, Session.settle, hblank] at h
      obtain ⟨⟨outcome, s₁⟩, hrun, rfl⟩ := Option.map_eq_some_iff.mp h
      obtain ⟨labels, hgo⟩ := leads_of_runWith hrun .done true [] []
      rw [Task.bind_done] at hgo
      have hbegun : Trace ⟨s, []⟩ [.submit line] (begin ⟨s.enter line, []⟩ line true) := by
        simpa [submit, hblank] using hsubmit
      have hshown : Trace ⟨s₁, [] ++ [⟨.done outcome, true⟩]⟩ [.turn] ⟨s₁.render outcome, []⟩ :=
        .step (@Step.render _ _ [] [] rfl)
      exact ⟨labels ++ [.turn], hbegun.append (hgo.append hshown)⟩

end Configuration

end CommandConsole
