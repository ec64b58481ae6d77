import CommandConsole.Proofs.Vocabulary

/-!
# What a session is set up with

Most questions have nothing to do with aliases: they are answered, and leave the commands of the
session, its limit and its store of aliases as they are, and the backend too unless they call it
(`exists_answer_plain`). The others are simple where the aliases are in a table that no file
follows.
-/

set_option autoImplicit false

namespace CommandConsole.Session

/-- The parts of a session that no question changes but those about aliases. -/
structure SameSetup (s s' : Session) : Prop where
  registry : s'.registry = s.registry
  aliasLimit : s'.aliasLimit = s.aliasLimit
  aliases : s'.aliases = s.aliases

theorem SameSetup.refl (s : Session) : s.SameSetup s := ⟨rfl, rfl, rfl⟩

/-- A report changes the log alone. -/
theorem report_eq (s : Session) (level : LogLevel) (message : String) :
    ∃ log, s.report level message = { s with log := log } := by
  unfold report
  split
  · exact ⟨_, rfl⟩
  · exact ⟨s.log, rfl⟩

theorem sameSetup_report (s : Session) (level : LogLevel) (message : String) :
    s.SameSetup (s.report level message) := by
  obtain ⟨log, h⟩ := report_eq s level message
  exact h ▸ ⟨rfl, rfl, rfl⟩

@[simp] theorem backend_report (s : Session) (level : LogLevel) (message : String) :
    (s.report level message).backend = s.backend := by
  obtain ⟨log, h⟩ := report_eq s level message
  rw [h]

/-- A call of the backend changes that and the log alone. -/
theorem callBackend_eq (s : Session) (r : Request) :
    ∃ backend log, (s.callBackend r).2 = { s with backend := backend, log := log } := by
  unfold callBackend
  cases s.backend with
  | records store =>
      obtain ⟨log, h⟩ := report_eq s .trace s!"memory call {r.model}.{r.method}"
      simp only [h]
      exact ⟨_, log, rfl⟩
  | script replies received => cases replies <;> exact ⟨_, s.log, rfl⟩
  | program host name args =>
      obtain ⟨log, h⟩ := report_eq s .trace
        s!"mcp call {r.model}.{r.method} args={r.args.length} kwargs={r.named.length}"
      simp only [h]
      cases host.call name args r with
      | ok v => exact ⟨s.backend, log, rfl⟩
      | error e =>
          obtain ⟨log', h'⟩ := report_eq { s with log := log } .debug s!"mcp call failed: {e}"
          exact ⟨s.backend, log', h'⟩

theorem sameSetup_callBackend (s : Session) (r : Request) : s.SameSetup (s.callBackend r).2 := by
  obtain ⟨backend, log, h⟩ := callBackend_eq s r
  exact h ▸ ⟨rfl, rfl, rfl⟩

theorem sameSetup_openView (s : Session) (v : View) :
    s.SameSetup (s.openView v).2 ∧ (s.openView v).2.backend = s.backend := by
  unfold openView
  cases s.opener with
  | echo => exact ⟨⟨rfl, rfl, rfl⟩, rfl⟩
  | recorder opened refusal => cases refusal <;> exact ⟨⟨rfl, rfl, rfl⟩, rfl⟩

/-- **A plain question has an answer**, which leaves the setup as it is, and the backend unless it
is called. -/
theorem exists_answer_plain {q : Query} (hq : q.Plain) (nesting : Nat) (s : Session) :
    ∃ a s', answer nesting q s = some (a, s') ∧ s.SameSetup s' ∧
      ((∀ r, q ≠ .call r) → s'.backend = s.backend) := by
  cases q with
  | findAlias name => exact hq.elim
  | changeAlias c => exact hq.elim
  | execute line => exact hq.elim
  | call r =>
      refine ⟨(s.callBackend r).1, (s.callBackend r).2, ?_, sameSetup_callBackend s r,
        fun hcall => absurd rfl (hcall r)⟩
      cases nesting <;> rfl
  | openView v =>
      obtain ⟨hsetup, hbackend⟩ := sameSetup_openView s v
      refine ⟨(s.openView v).1, (s.openView v).2, ?_, hsetup, fun _ => hbackend⟩
      cases nesting <;> rfl
  | log level message =>
      refine ⟨(), s.report level message, ?_, sameSetup_report .., fun _ => backend_report ..⟩
      cases nesting <;> rfl
  | setLevel level =>
      refine ⟨(), { s with level := level }, ?_, ⟨rfl, rfl, rfl⟩, fun _ => rfl⟩
      cases nesting <;> rfl
  | commands =>
      refine ⟨s.registry.synopses, s, ?_, .refl s, fun _ => rfl⟩
      cases nesting <;> rfl
  | history =>
      refine ⟨s.line.history, s, ?_, .refl s, fun _ => rfl⟩
      cases nesting <;> rfl

/-! ## Aliases in a table -/

section

variable {s : Session} {store : Alias.MemoryStore} {t t' : Alias.Table} {c : Alias.Change}

/-- A table of aliases is looked into without a trace. -/
theorem findAlias_of_memory (h : s.aliases = .memory store) (name : String) :
    s.findAlias name = (.ok (store.table.find? name), s) := by
  rw [findAlias, h]

/-- A change that a table without a file refuses has not happened. -/
theorem changeAlias_of_refused {e : String} (h : s.aliases = .memory ⟨t, none⟩)
    (hrefused : t.apply c = .error e) : s.changeAlias c = (.error e, s) := by
  have hsame : { s with aliases := .memory ⟨t, none⟩ } = s := by rw [← h]
  simp only [changeAlias, h, Alias.MemoryStore.change, hrefused]
  exact congrArg (Prod.mk _) hsame

/-- A change that a table without a file takes is made. -/
theorem changeAlias_of_taken {id : Int} (h : s.aliases = .memory ⟨t, none⟩)
    (htaken : t.apply c = .ok (id, t')) :
    s.changeAlias c = (.ok id, { s with aliases := .memory ⟨t', none⟩ }) := by
  simp only [changeAlias, h, Alias.MemoryStore.change, htaken, Alias.MemoryStore.write]

end

end CommandConsole.Session
