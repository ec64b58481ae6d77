import CommandConsole.Proofs.Dispatch.Chain
import CommandConsole.Proofs.Records.Store
import CommandConsole.Proofs.Session.Setup

/-!
# Lines that fail

A line can fail at many places: at a name, at its arguments, at a payload, at a record or an alias
that is not there. On a session that is all in memory none of these comes behind a change. A task is
careful when it can leave a bad result only where nothing has happened but notes for the log
(`Careful`). Tasks that change nothing are careful whatever they come to; a careful task stays so in
front of one that cannot end badly any more (`Careful.bind`). Every built-in command has that shape
(`careful_handler`), and so has a line, through whatever aliases it goes
(`execute_error_leaves_no_trace`).
-/

set_option autoImplicit false

namespace CommandConsole

namespace Session

/-! ## Sessions in memory -/

/-- A session with the built-in commands alone, with records in memory, a table of aliases that no
file follows, and views that are shown on its sink. -/
structure InMemory (s : Session) : Prop where
  registry : s.registry = Vocabulary.registry
  backend : ∃ store, s.backend = .records store
  aliases : ∃ table, s.aliases = .memory ⟨table, none⟩
  opener : s.opener = .echo

/-- The other session is this one with more notes in its log. -/
def Noted (s s' : Session) : Prop := ∃ notes, s' = { s with log := s.log ++ notes }

variable {s s' s'' : Session}

theorem Noted.refl (s : Session) : s.Noted s := ⟨[], by rw [List.append_nil]⟩

theorem Noted.trans (h : s.Noted s') (h' : s'.Noted s'') : s.Noted s'' := by
  obtain ⟨notes, rfl⟩ := h
  obtain ⟨notes', rfl⟩ := h'
  exact ⟨notes ++ notes', by rw [List.append_assoc]⟩

theorem noted_report (s : Session) (level : LogLevel) (message : String) :
    s.Noted (s.report level message) := by
  unfold report
  split
  · exact ⟨[⟨level, message⟩], rfl⟩
  · exact .refl s

theorem InMemory.of_noted (h : s.InMemory) (hnoted : s.Noted s') : s'.InMemory := by
  obtain ⟨notes, rfl⟩ := hnoted
  exact ⟨h.registry, h.backend, h.aliases, h.opener⟩

/-! ## Careful tasks -/

/-- A task comes to an end on every session in memory and leaves one behind, and where its result is
bad it has left nothing but notes. -/
def Careful {α : Type} (bad : α → Prop) (t : Task α) : Prop :=
  ∀ s : Session, s.InMemory → ∃ a s', s.run t = some (a, s') ∧ s'.InMemory ∧ (bad a → s.Noted s')

section

variable {α β : Type} {bad : α → Prop} {bad' : β → Prop}

theorem careful_pure (a : α) : Careful bad (Pure.pure a) :=
  fun s h => ⟨a, s, rfl, h, fun _ => .refl s⟩

/-- **A careful task and then another one**, which cannot end badly unless the first one did. -/
theorem Careful.bind {t : Task α} {f : α → Task β} (ht : Careful bad t)
    (hf : ∀ a, Careful bad' (f a)) (hgood : ∀ a, ¬ bad a → (f a).AllResults (¬ bad' ·)) :
    Careful bad' (t >>= f) := by
  intro s h
  obtain ⟨a, s₁, hrun, h₁, hnoted⟩ := ht s h
  obtain ⟨b, s₂, hrun', h₂, hnoted'⟩ := hf a s₁ h₁
  refine ⟨b, s₂, ?_, h₂, fun hb => ?_⟩
  · rw [run_bind, hrun]
    exact hrun'
  · have ha : bad a := by
      by_contra hgood'
      exact result_of_runWith (hgood a hgood') hrun' hb
    exact (hnoted ha).trans (hnoted' hb)

/-- A task that changes nothing and then a careful one. -/
theorem Careful.bind_quiet {t : Task α} {f : α → Task β} (ht : Careful (fun _ => True) t)
    (hf : ∀ a, Careful bad' (f a)) : Careful bad' (t >>= f) :=
  ht.bind hf fun _ hgood => absurd trivial hgood

/-! ## Questions -/

/-- The answer is a complaint. -/
def Complains {α : Type} (r : Except String α) : Prop := ∃ cause, r = .error cause

theorem careful_log (level : LogLevel) (message : String) :
    Careful (fun _ => True) (Task.log level message) := fun s h =>
  have hnoted := noted_report s level message
  ⟨(), s.report level message, rfl, h.of_noted hnoted, fun _ => hnoted⟩

theorem careful_commands : Careful (fun _ => True) (Task.query .commands) := fun s h =>
  ⟨s.registry.synopses, s, rfl, h, fun _ => .refl s⟩

theorem careful_history : Careful (fun _ => True) (Task.query .history) := fun s h =>
  ⟨s.line.history, s, rfl, h, fun _ => .refl s⟩

/-- A table of aliases is looked into without a trace. -/
theorem careful_findAlias (name : String) :
    Careful (fun _ => True) (Task.query (.findAlias name)) := by
  intro s h
  obtain ⟨table, haliases⟩ := h.aliases
  refine ⟨.ok (table.find? name), s, ?_, h, fun _ => .refl s⟩
  exact congrArg some (findAlias_of_memory haliases name)

/-- A change of an alias fails where the table refuses it, and there is no file to fail at. -/
theorem careful_changeAlias (c : Alias.Change) :
    Careful Complains (Task.query (.changeAlias c)) := by
  intro s h
  obtain ⟨table, haliases⟩ := h.aliases
  cases happly : table.apply c with
  | error refusal =>
      refine ⟨.error refusal, s, ?_, h, fun _ => .refl s⟩
      exact congrArg some (changeAlias_of_refused haliases happly)
  | ok taken =>
      obtain ⟨id, table'⟩ := taken
      refine ⟨.ok id, { s with aliases := .memory ⟨table', none⟩ }, ?_,
        ⟨h.registry, h.backend, ⟨table', rfl⟩, h.opener⟩, ?_⟩
      · exact congrArg some (changeAlias_of_taken haliases happly)
      · rintro ⟨cause, hcause⟩
        contradiction

/-- What a call of the backend does: it is noted, and the records change as the answer says. -/
theorem callBackend_of_records {store : Records.Store} (h : s.backend = .records store)
    (r : Request) :
    ∃ s₁, s.Noted s₁ ∧ s.callBackend r =
      ((store.answer r).1, { s₁ with backend := .records (store.answer r).2 }) := by
  refine ⟨s.report .trace s!"memory call {r.model}.{r.method}", noted_report .., ?_⟩
  simp only [callBackend, h]

/-- A call of the backend is careful about each answer behind which the records are as before. -/
theorem careful_call {bad : Except String Json → Prop} (r : Request)
    (hbad : ∀ store : Records.Store, bad (store.answer r).1 → (store.answer r).2 = store) :
    Careful bad (Task.query (.call r)) := by
  intro s h
  obtain ⟨store, hbackend⟩ := h.backend
  obtain ⟨s₁, hnoted, hcall⟩ := callBackend_of_records hbackend r
  have h₁ := h.of_noted hnoted
  refine ⟨(store.answer r).1, { s₁ with backend := .records (store.answer r).2 }, ?_,
    ⟨h₁.registry, ⟨_, rfl⟩, h₁.aliases, h₁.opener⟩, fun hreply => ?_⟩
  · show some (s.callBackend r) = _
    rw [hcall]
  · obtain ⟨notes, rfl⟩ := hnoted
    refine ⟨notes, ?_⟩
    rw [hbad store hreply, ← hbackend]

/-- Views that are shown on the sink cannot be refused. -/
theorem careful_openView (v : View) : Careful Complains (Task.query (.openView v)) := by
  intro s h
  let shown : Session := { s with sink := s.sink.writeEscaped s!"open: {v.text}" true }
  have hopen : s.openView v = (.ok (), shown) := by
    simp only [openView, h.opener, shown]
  refine ⟨.ok (), shown, ?_, ⟨h.registry, h.backend, h.aliases, h.opener⟩, ?_⟩
  · show some (s.openView v) = _
    rw [hopen]
  · rintro ⟨cause, hcause⟩
    contradiction

theorem careful_setLevel (level : LogLevel) :
    Careful (fun _ => False) (Task.query (.setLevel level)) := fun s h =>
  ⟨(), { s with level := level }, rfl, ⟨h.registry, h.backend, h.aliases, h.opener⟩, False.elim⟩

end

/-! ## Actions -/

/-- The action has failed. -/
def Fails {α : Type} (r : Except Fault α) : Prop := ∃ fault, r = .error fault

theorem not_fails_ok {α : Type} (a : α) : ¬ Fails (.ok a : Except Fault α) := by
  rintro ⟨fault, h⟩
  contradiction

section

open CommandConsole.Action

variable {α β : Type}

theorem careful_ofExcept (r : Except CommandError α) :
    Careful (fun _ => True) (ofExcept r).run := by
  cases r <;> exact careful_pure _

theorem careful_expect (r : Except String α) : Careful (fun _ => True) (expect r).run := by
  cases r <;> exact careful_pure _

/-- An action that changes nothing and then a careful one. -/
theorem careful_bind_quiet {x : Action α} {f : α → Action β} (hx : Careful (fun _ => True) x.run)
    (hf : ∀ a, Careful Fails (f a).run) : Careful Fails (x >>= f).run := by
  refine Careful.bind_quiet hx fun r => ?_
  cases r with
  | ok a => exact hf a
  | error fault => exact careful_pure _

/-- A careful action and then one that cannot fail. -/
theorem careful_bind_sure {x : Action α} {f : α → Action β} (hx : Careful Fails x.run)
    (hf : ∀ a, Careful Fails (f a).run) (hsure : ∀ a, (f a).run.AllResults (¬ Fails ·)) :
    Careful Fails (x >>= f).run := by
  refine Careful.bind hx (fun r => ?_) fun r hr => ?_
  · cases r with
    | ok a => exact hf a
    | error fault => exact careful_pure _
  · cases r with
    | ok a => exact hsure a
    | error fault => exact absurd ⟨fault, rfl⟩ hr

/-- A question and what is done with the answer, which cannot fail if the answer is good. -/
theorem careful_query_bind {q : Query} {bad : q.Answer → Prop} {f : q.Answer → Action β}
    (hq : Careful bad (Task.query q)) (hf : ∀ a, Careful Fails (f a).run)
    (hsure : ∀ a, ¬ bad a → (f a).run.AllResults (¬ Fails ·)) :
    Careful Fails (query q >>= f).run :=
  hq.bind hf hsure

/-- A question that changes nothing, and what is done with the answer. -/
theorem careful_look_bind {q : Query} {f : q.Answer → Action β}
    (hq : Careful (fun _ => True) (Task.query q)) (hf : ∀ a, Careful Fails (f a).run) :
    Careful Fails (query q >>= f).run :=
  hq.bind_quiet hf

/-- What cannot fail behind an answer cannot fail behind one that is no complaint. -/
theorem sure_expect_bind {r : Except String α} {f : α → Action β} (hr : ¬ Complains r)
    (hf : ∀ a, (f a).run.AllResults (¬ Fails ·)) :
    (expect r >>= f).run.AllResults (¬ Fails ·) := by
  cases r with
  | ok a => exact hf a
  | error cause => exact absurd ⟨cause, rfl⟩ hr

end

end Session

/-! ## The built-in commands -/

namespace Vocabulary

open CommandConsole.Action Session

theorem careful_text (t : String) : Careful Fails (return .text t : Action Output).run :=
  careful_pure _

theorem careful_removeAlias (name : String) : Careful Fails (removeAlias name).run := by
  refine careful_look_bind (careful_findAlias name) fun reply => ?_
  refine careful_bind_quiet (careful_expect reply) fun r? => ?_
  cases r? with
  | none => exact careful_text _
  | some record =>
      refine careful_query_bind (careful_changeAlias _) (fun reply' => ?_) fun reply' hreply' => ?_
      · exact careful_bind_quiet (careful_expect reply') fun _ => careful_text _
      · exact sure_expect_bind hreply' fun _ => not_fails_ok _

/-- The change of an alias, a note of it, and the output. -/
theorem careful_change (c : Alias.Change) (message : Int → String) (t : String) :
    Careful Fails (do
      let id ← Action.expect (← Action.query (.changeAlias c))
      Action.log .debug (message id)
      return .text t : Action Output).run := by
  refine careful_query_bind (careful_changeAlias c) (fun reply => ?_) fun reply hreply => ?_
  · exact careful_bind_quiet (careful_expect reply) fun _ =>
      careful_look_bind (careful_log _ _) fun _ => careful_text t
  · exact sure_expect_bind hreply fun _ _ => not_fails_ok _

theorem careful_defineAlias (name command : String) :
    Careful Fails (defineAlias name command).run := by
  refine careful_look_bind careful_commands fun commands => ?_
  split
  · exact careful_pure _
  · refine careful_look_bind (careful_findAlias name) fun reply => ?_
    refine careful_bind_quiet (careful_expect reply) fun r? => ?_
    cases r? with
    | some record => exact careful_change _ _ _
    | none => exact careful_change _ _ _

theorem careful_setAlias (args : List String) : Careful Fails (setAlias args).run := by
  unfold setAlias
  split
  · split
    · exact careful_removeAlias _
    · exact careful_defineAlias _ _
  · exact careful_pure _

/-- A request that the backend refuses has changed no record. -/
theorem careful_request (r : Request) : Careful Fails (request r).run := by
  have hcall : Careful Complains (Task.query (.call r)) := by
    refine careful_call r fun store hreply => ?_
    obtain ⟨cause, hcause⟩ := hreply
    exact Records.Store.answer_of_error hcause
  refine careful_query_bind hcall (fun reply => ?_) fun reply hreply => ?_
  · cases reply <;> exact careful_pure _
  · cases reply with
    | ok v => exact not_fails_ok v
    | error cause => exact absurd ⟨cause, rfl⟩ hreply

/-- The table of what a search has found can fail, but the search has changed nothing. -/
theorem careful_search (model fieldList : String) (domain : Option String) :
    Careful Fails (search model fieldList domain).run := by
  refine careful_bind_quiet (careful_ofExcept _) fun domain => ?_
  have hcall : Careful (fun _ => True) (request (searchRequest model
      (Records.readFields fieldList) domain)).run := by
    have hlook : Careful (fun _ => True) (Task.query (.call (searchRequest model
        (Records.readFields fieldList) domain))) :=
      careful_call _ fun store _ => Records.Store.answer_search rfl
    exact hlook.bind_quiet careful_expect
  refine careful_bind_quiet hcall fun records => ?_
  refine careful_look_bind (careful_log _ _) fun _ => ?_
  cases Records.table records (Records.readFields fieldList) <;> exact careful_pure _

theorem careful_openView (v : View) : Careful Fails (openView v).run := by
  refine careful_query_bind (Session.careful_openView v) (fun reply => ?_) fun reply hreply => ?_
  · exact careful_bind_quiet (careful_expect reply) fun _ => careful_pure _
  · exact sure_expect_bind hreply fun _ => not_fails_ok _

theorem careful_create (model : String) (raw : Option String) :
    Careful Fails (create model raw).run := by
  cases raw with
  | none => exact careful_openView _
  | some raw =>
      refine careful_bind_quiet (careful_ofExcept _) fun values => ?_
      exact careful_bind_sure (careful_request _) (fun _ => careful_text _)
        fun _ => not_fails_ok _

theorem careful_write (model id raw : String) : Careful Fails (write model id raw).run := by
  refine careful_bind_quiet (careful_ofExcept _) fun id => ?_
  refine careful_bind_quiet (careful_ofExcept _) fun values => ?_
  exact careful_bind_sure (careful_request _) (fun _ => careful_text _) fun _ => not_fails_ok _

theorem careful_view (model : String) (raw : Option String) :
    Careful Fails (view model raw).run := by
  cases raw with
  | none => exact careful_openView _
  | some raw => exact careful_bind_quiet (careful_ofExcept _) fun _ => careful_openView _

theorem careful_debug (mode : String) : Careful Fails (debug mode).run := by
  unfold debug
  split
  · exact careful_pure _
  · exact careful_query_bind (careful_setLevel _) (fun _ => careful_text _)
      fun _ _ => not_fails_ok _

/-- **A built-in command that fails has left nothing but notes.** -/
theorem careful_handler {name : String} {d : Definition} (h : registry.lookup name = some d)
    (args : List String) : Careful Fails (d.handler args).run := by
  let P : Action Output → Prop := fun x => Careful Fails x.run
  have hhelp : ∀ args, P (help args) := by
    intro args
    refine careful_look_bind careful_commands fun commands => ?_
    cases args <;> exact careful_text _
  have hhistory : P history := careful_look_bind careful_history fun _ => careful_text _
  exact @handler_induction P hhelp careful_setAlias careful_search careful_create careful_write
    careful_view (careful_pure _) hhistory careful_debug (careful_pure _) name d h args

end Vocabulary

/-! ## Lines -/

namespace Session

/-- The outcome is an error. -/
def IsError (outcome : Outcome) : Prop := ∃ e, outcome = .error e

/-- A line that fails has left nothing but notes, through whatever aliases it has gone. -/
theorem careful_executeWithin (limit left : Nat) (line : String) :
    Careful IsError (Dispatch.executeWithin Vocabulary.registry limit left line) := by
  refine Dispatch.executeWithin_induction (careful_pure _) (fun e => careful_pure _) ?_ ?_ ?_
    left line
  · intro level message t ht
    exact (careful_log level message).bind_quiet fun _ => ht
  · intro name f hf
    exact (careful_findAlias name).bind_quiet hf
  · intro name d args hname
    refine (Vocabulary.careful_handler hname args).bind (fun _ => careful_pure _) fun r hr => ?_
    -- what comes to an output is not made an error by the name of its command
    cases r with
    | ok output =>
        rintro ⟨e, he⟩
        contradiction
    | error fault => exact absurd ⟨fault, rfl⟩ hr

/-- **A line that fails leaves no trace.** On a session in memory every line has an outcome and
leaves a session in memory. If the outcome is an error, then there are more notes in the log, and
nothing else has changed: no record and no number of one, no alias, no command, no submitted line,
not the log level, and nothing on the sink. -/
theorem execute_error_leaves_no_trace {s : Session} (h : s.InMemory) (line : String) :
    ∃ outcome s', s.execute line = some (outcome, s') ∧ s'.InMemory ∧
      ∀ e, outcome = .error e → ∃ notes, s' = { s with log := s.log ++ notes } := by
  obtain ⟨outcome, s', hrun, h', hnoted⟩ := careful_executeWithin s.aliasLimit s.aliasLimit line s h
  refine ⟨outcome, s', ?_, h', fun e he => hnoted ⟨e, he⟩⟩
  rw [execute, Dispatch.execute, h.registry]
  exact hrun

/-- A session in memory with a note on it and an alias that rewrites notes. -/
def withOneNote : Session :=
  { start with
    registry := Vocabulary.registry
    backend := .records (Records.Store.empty.insert "note" [("text", .str "x")]).2
    aliases := .memory ⟨.ofCommands [("rewrite", "write note $1 $2")], none⟩ }

/-- A line that goes through the alias and fails at a record that is not there. -/
theorem execute_error_leaves_no_trace_missingRecord :
    withOneNote.InMemory ∧
      ∃ s', withOneNote.execute "rewrite 9 {}" =
          some (.error (.remote "write" "Record note(9) does not exist"), s') ∧
        ∃ notes, s' = { withOneNote with log := withOneNote.log ++ notes } := by
  have hmemory : withOneNote.InMemory := ⟨rfl, ⟨_, rfl⟩, ⟨_, rfl⟩, rfl⟩
  obtain ⟨outcome, s', hrun, -, htrace⟩ := execute_error_leaves_no_trace hmemory "rewrite 9 {}"
  have heval : (withOneNote.execute "rewrite 9 {}").map Prod.fst =
      some (.error (.remote "write" "Record note(9) does not exist")) := by
    decide +kernel
  rw [hrun] at heval
  obtain rfl := Option.some.inj heval
  exact ⟨hmemory, s', hrun, htrace _ rfl⟩

end Session

end CommandConsole
