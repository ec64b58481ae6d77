import CommandConsole.Proofs.Alias.Mirror
import CommandConsole.Proofs.Dispatch.Chain
import CommandConsole.Proofs.Session.Setup

/-!
# The same session with its aliases elsewhere

Two sessions are mirrored when they differ in their logs and in where they keep their aliases, one
in a table and the other as records of a store that mirrors it (`Mirrored`). They give the same
answers to all questions and stay mirrored (`Mirrored.answer_plain`, `Mirrored.findAlias`, and
`Mirrored.create`, `Mirrored.update`, `Mirrored.delete` for what is asked after a look-up). So every
task of the dispatcher comes to the same on both (`Alike`), and so do lines, one after another
(`records_refine_table`).

The store reads the numbers of aliases as signed words, so the number of the lines is bounded by
these.
-/

set_option autoImplicit false

namespace CommandConsole.Session

/-- The session with its aliases elsewhere and another log. -/
def elsewhere (s : Session) (aliases : Alias.Store) (log : List LogEntry) : Session :=
  { s with aliases := aliases, log := log }

/-! ## Questions that have nothing to do with aliases -/

section

variable (s : Session) (aliases : Alias.Store) (log : List LogEntry)

theorem report_elsewhere (level : LogLevel) (message : String) :
    ∃ log', (s.elsewhere aliases log).report level message =
      (s.report level message).elsewhere aliases log' := by
  by_cases h : level.shownAt s.level = true
  · exact ⟨log ++ [⟨level, message⟩], by simp [report, elsewhere, h]⟩
  · exact ⟨log, by simp [report, elsewhere, h]⟩

theorem callBackend_elsewhere (r : Request) :
    ∃ log', (s.elsewhere aliases log).callBackend r =
      ((s.callBackend r).1, (s.callBackend r).2.elsewhere aliases log') := by
  have hsame : (s.elsewhere aliases log).backend = s.backend := rfl
  rw [callBackend, callBackend, hsame]
  cases s.backend with
  | records store =>
      obtain ⟨log', hlog⟩ :=
        report_elsewhere s aliases log .trace s!"memory call {r.model}.{r.method}"
      refine ⟨log', ?_⟩
      simp only [hlog]
      rfl
  | script replies received => cases replies <;> exact ⟨log, rfl⟩
  | program host name args =>
      obtain ⟨log', hlog⟩ := report_elsewhere s aliases log .trace
        s!"mcp call {r.model}.{r.method} args={r.args.length} kwargs={r.named.length}"
      simp only [hlog]
      cases host.call name args r with
      | ok v => exact ⟨log', rfl⟩
      | error e =>
          obtain ⟨log'', hlog'⟩ := report_elsewhere _ aliases log' .debug s!"mcp call failed: {e}"
          exact ⟨log'', congrArg (Prod.mk _) hlog'⟩

theorem openView_elsewhere (v : View) :
    (s.elsewhere aliases log).openView v =
      ((s.openView v).1, (s.openView v).2.elsewhere aliases log) := by
  have hsame : (s.elsewhere aliases log).opener = s.opener := rfl
  rw [openView, openView, hsame]
  cases s.opener with
  | echo => rfl
  | recorder opened refusal => cases refusal <;> rfl

/-- **A plain question** has the same answer wherever the aliases are. -/
theorem answer_elsewhere {q : Query} (hq : q.Plain) (nesting : Nat) :
    ∃ log', answer nesting q (s.elsewhere aliases log) =
      (answer nesting q s).map fun p => (p.1, p.2.elsewhere aliases log') := by
  cases q with
  | findAlias name => exact hq.elim
  | changeAlias c => exact hq.elim
  | execute line => exact hq.elim
  | call r =>
      obtain ⟨log', hcall⟩ := callBackend_elsewhere s aliases log r
      exact ⟨log', by cases nesting <;> simp only [answer, hcall, Option.map_some]⟩
  | openView v =>
      have hview := openView_elsewhere s aliases log v
      exact ⟨log, by cases nesting <;> simp only [answer, hview, Option.map_some]⟩
  | log level message =>
      obtain ⟨log', hlog⟩ := report_elsewhere s aliases log level message
      exact ⟨log', by cases nesting <;> simp only [answer, hlog, Option.map_some]⟩
  | setLevel level => exact ⟨log, by cases nesting <;> rfl⟩
  | commands => exact ⟨log, by cases nesting <;> rfl⟩
  | history => exact ⟨log, by cases nesting <;> rfl⟩

end

/-! ## Mirrored sessions -/

/-- Two sessions with the built-in commands that differ in their logs and in where their aliases
are: in a table, and in a store that mirrors it. So many numbers were given at most. -/
structure Mirrored (limit given : Nat) (s s' : Session) : Prop where
  registry : s.registry = Vocabulary.registry
  aliasLimit : s.aliasLimit = limit
  mirror : ∃ t store rs log, s.aliases = .memory ⟨t, none⟩ ∧
    s' = s.elsewhere (.records store) log ∧ Alias.Mirrors t store rs ∧ t.lastId ≤ given

variable {limit given : Nat} {s s' s₁ s₁' : Session} {name command : String}

/-- Mirrored sessions answer plain questions alike. -/
theorem Mirrored.answer_plain (h : Mirrored limit given s s') {q : Query} (hq : q.Plain)
    (nesting : Nat) :
    ∃ a s₁ s₁', answer nesting q s = some (a, s₁) ∧ answer nesting q s' = some (a, s₁') ∧
      Mirrored limit given s₁ s₁' := by
  obtain ⟨t, store, rs, log, haliases, rfl, hmirrors, hgiven⟩ := h.mirror
  obtain ⟨a, s₁, ha, hsetup, -⟩ := exists_answer_plain hq nesting s
  obtain ⟨log', ha'⟩ := answer_elsewhere s (.records store) log hq nesting
  rw [ha] at ha'
  exact ⟨a, s₁, _, ha, ha', hsetup.registry.trans h.registry, hsetup.aliasLimit.trans h.aliasLimit,
    t, store, rs, log', hsetup.aliases.trans haliases, rfl, hmirrors, hgiven⟩

/-- A request to the store of aliases. -/
theorem callAliases_elsewhere (s : Session) (store : Records.Store) (log : List LogEntry)
    (r : Request) :
    ∃ log', (s.elsewhere (.records store) log).callAliases r =
      ((store.answer r).1, s.elsewhere (.records (store.answer r).2) log') := by
  let note := s!"memory call {r.model}.{r.method}"
  by_cases hlevel : LogLevel.trace.shownAt s.level = true
  · exact ⟨log ++ [⟨.trace, note⟩], by simp [callAliases, elsewhere, report, hlevel, note]⟩
  · exact ⟨log, by simp [callAliases, elsewhere, report, hlevel]⟩

/-- **Mirrored sessions find the same alias** under a name. -/
theorem Mirrored.findAlias (h : Mirrored limit given s s')
    (hwords : (given : Int) ≤ Number.maxInt64) (name : String) :
    ∃ r? s₁', s.findAlias name = (.ok r?, s) ∧ s'.findAlias name = (.ok r?, s₁') ∧
      Mirrored limit given s s₁' := by
  obtain ⟨t, store, rs, log, haliases, rfl, hmirrors, hgiven⟩ := h.mirror
  have hid {r : Alias.Record} (hr : r ∈ rs) : Number.isInt64 r.id = true :=
    hmirrors.isInt64_of_mem (by omega) hr
  obtain ⟨reply, hanswer, hfound⟩ := hmirrors.keeps.find (fun r hr => hid hr) name
  obtain ⟨log', hcall⟩ := callAliases_elsewhere s store log (Alias.findRequest name)
  rw [hanswer] at hcall
  refine ⟨t.find? name, s.elsewhere (.records store) log', ?_, ?_, h.registry, h.aliasLimit,
    t, store, rs, log', haliases, rfl, hmirrors, hgiven⟩
  · exact findAlias_of_memory haliases name
  · have helsewhere : (s.elsewhere (.records store) log).aliases = .records store := rfl
    rw [Session.findAlias, helsewhere]
    simp only [hcall, Except.bind, hfound, hmirrors.find?_eq]

/-- A change that both take leaves the sessions mirrored. -/
theorem mirrored_of_change {t t' : Alias.Table} {store store' : Records.Store}
    {rs' : List Alias.Record} {log : List LogEntry} {c : Alias.Change} {id : Int} {reply : Json}
    (hregistry : s.registry = Vocabulary.registry) (hlimit : s.aliasLimit = limit)
    (haliases : s.aliases = .memory ⟨t, none⟩) (happly : t.apply c = .ok (id, t'))
    (hanswer : store.answer (Alias.changeRequest c) = (.ok reply, store'))
    (hreply : Alias.changed c reply = .ok id) (hmirrors : Alias.Mirrors t' store' rs')
    (hgiven : t'.lastId ≤ given) :
    ∃ s₁ s₁', s.changeAlias c = (.ok id, s₁) ∧
      (s.elsewhere (.records store) log).changeAlias c = (.ok id, s₁') ∧
      Mirrored limit given s₁ s₁' := by
  obtain ⟨log', hcall⟩ := callAliases_elsewhere s store log (Alias.changeRequest c)
  rw [hanswer] at hcall
  let s₁ : Session := { s with aliases := .memory ⟨t', none⟩ }
  refine ⟨s₁, s₁.elsewhere (.records store') log', ?_, ?_, hregistry, hlimit,
    t', store', rs', log', rfl, rfl, hmirrors, hgiven⟩
  · exact changeAlias_of_taken haliases happly
  · have helsewhere : (s.elsewhere (.records store) log).aliases = .records store := rfl
    rw [changeAlias, helsewhere]
    simp only [hcall, Except.bind, hreply]
    rfl

/-- **Mirrored sessions create the same alias** under a free name. -/
theorem Mirrored.create (h : Mirrored limit given s s')
    (hwords : ((given + 1 : Nat) : Int) ≤ Number.maxInt64)
    (hfree : s.findAlias name = (.ok none, s)) (command : String) :
    ∃ id s₁ s₁', s.changeAlias (.create name command) = (.ok id, s₁) ∧
      s'.changeAlias (.create name command) = (.ok id, s₁') ∧
      Mirrored limit (given + 1) s₁ s₁' := by
  obtain ⟨t, store, rs, log, haliases, rfl, hmirrors, hgiven⟩ := h.mirror
  have hfree' : t.find? name = none := by
    simpa [findAlias_of_memory haliases] using hfree
  obtain ⟨store', hanswer, happly, rs', hmirrors'⟩ := hmirrors.create hfree' command
  have hlast := hmirrors.lastId
  have hlast' : (t.add name command).lastId = t.lastId + 1 := rfl
  have hcast : ((store.lastId + 1 : Nat) : Int) = (store.lastId : Int) + 1 := Int.natCast_succ _
  have hword : Number.isInt64 ((store.lastId + 1 : Nat) : Int) = true :=
    Number.isInt64_of_nonneg (by omega) (by omega)
  have hreply := Alias.changed_create name command hword
  rw [hcast] at hreply
  exact ⟨_, mirrored_of_change h.registry h.aliasLimit haliases happly hanswer hreply hmirrors'
    (by omega)⟩

/-- **Mirrored sessions update the alias** that was found. -/
theorem Mirrored.update {r : Alias.Record} (h : Mirrored limit given s s')
    (hwords : (given : Int) ≤ Number.maxInt64) (hfound : s.findAlias name = (.ok (some r), s))
    (command : String) :
    ∃ s₁ s₁', s.changeAlias (.update r.id command) = (.ok r.id, s₁) ∧
      s'.changeAlias (.update r.id command) = (.ok r.id, s₁') ∧ Mirrored limit given s₁ s₁' := by
  obtain ⟨t, store, rs, log, haliases, rfl, hmirrors, hgiven⟩ := h.mirror
  have hfound' : t.find? name = some r := by
    simpa [findAlias_of_memory haliases] using hfound
  obtain ⟨store', hanswer, happly, rs', hmirrors'⟩ :=
    hmirrors.update (by omega) hfound' command
  exact mirrored_of_change h.registry h.aliasLimit haliases happly hanswer rfl hmirrors' hgiven

/-- **Mirrored sessions delete the alias** that was found. -/
theorem Mirrored.delete {r : Alias.Record} (h : Mirrored limit given s s')
    (hwords : (given : Int) ≤ Number.maxInt64) (hfound : s.findAlias name = (.ok (some r), s)) :
    ∃ s₁ s₁', s.changeAlias (.delete r.id) = (.ok r.id, s₁) ∧
      s'.changeAlias (.delete r.id) = (.ok r.id, s₁') ∧ Mirrored limit given s₁ s₁' := by
  obtain ⟨t, store, rs, log, haliases, rfl, hmirrors, hgiven⟩ := h.mirror
  have hfound' : t.find? name = some r := by
    simpa [findAlias_of_memory haliases] using hfound
  obtain ⟨store', hanswer, happly, rs', hmirrors'⟩ := hmirrors.delete (by omega) hfound'
  exact mirrored_of_change h.registry h.aliasLimit haliases happly hanswer rfl hmirrors' hgiven

/-- Mirrored sessions that were given so many numbers were given no more than more. -/
theorem Mirrored.mono (h : Mirrored limit given s s') {more : Nat} (hle : given ≤ more) :
    Mirrored limit more s s' := by
  obtain ⟨t, store, rs, log, haliases, hs', hmirrors, hgiven⟩ := h.mirror
  exact ⟨h.registry, h.aliasLimit, t, store, rs, log, haliases, hs', hmirrors, by omega⟩

/-! ## Tasks -/

/-- A task comes to the same on mirrored sessions, and leaves them mirrored. -/
def Alike {α : Type} (limit given more : Nat) (t : Task α) : Prop :=
  ∀ s s', Mirrored limit given s s' → ∃ a s₁ s₁',
    s.run t = some (a, s₁) ∧ s'.run t = some (a, s₁') ∧ Mirrored limit more s₁ s₁'

section

variable {α β : Type} {more most : Nat}

theorem alike_pure (a : α) : Alike limit given given (Pure.pure a) :=
  fun s s' h => ⟨a, s, s', rfl, rfl, h⟩

theorem Alike.mono {t : Task α} (ht : Alike limit given more t) (hle : more ≤ most) :
    Alike limit given most t := by
  intro s s' h
  obtain ⟨a, s₁, s₁', hrun, hrun', h'⟩ := ht s s' h
  exact ⟨a, s₁, s₁', hrun, hrun', h'.mono hle⟩

theorem Alike.bind {t : Task α} {f : α → Task β} (ht : Alike limit given more t)
    (hf : ∀ a, Alike limit more most (f a)) : Alike limit given most (t >>= f) := by
  intro s s' h
  obtain ⟨a, s₁, s₁', hrun, hrun', h₁⟩ := ht s s' h
  obtain ⟨b, s₂, s₂', hnext, hnext', h₂⟩ := hf a s₁ s₁' h₁
  refine ⟨b, s₂, s₂', ?_, ?_, h₂⟩
  · rw [run_bind, hrun]
    exact hnext
  · rw [run_bind, hrun']
    exact hnext'

/-- A task that asks nothing but plain questions comes to the same on mirrored sessions. -/
theorem alike_of_plain {t : Task α} (ht : t.AllQueries Query.Plain) :
    Alike limit given given t := by
  induction t with
  | done a => exact alike_pure a
  | ask q next ih =>
      obtain ⟨hq, hnext⟩ := ht
      intro s s' h
      obtain ⟨a, s₁, s₁', ha, ha', h₁⟩ := h.answer_plain hq maxNesting
      obtain ⟨b, s₂, s₂', hrun, hrun', h₂⟩ := ih a (hnext a) s₁ s₁' h₁
      refine ⟨b, s₂, s₂', ?_, ?_, h₂⟩
      · rw [run, runWith, ha]
        exact hrun
      · rw [run, runWith, ha']
        exact hrun'

theorem alike_findAlias (hwords : (given : Int) ≤ Number.maxInt64) (name : String) :
    Alike limit given given (Task.query (.findAlias name)) := by
  intro s s' h
  obtain ⟨r?, s₁', hfind, hfind', h'⟩ := h.findAlias hwords name
  refine ⟨.ok r?, s, s₁', ?_, ?_, h'⟩
  · show some (s.findAlias name) = _
    rw [hfind]
  · show some (s'.findAlias name) = _
    rw [hfind']

/-! ## The commands -/

theorem alike_removeAlias (hwords : (given : Int) ≤ Number.maxInt64) (name : String) :
    Alike limit given given (Vocabulary.removeAlias name).run := by
  intro s s' h
  obtain ⟨r?, s₁', hfind, hfind', h₁⟩ := h.findAlias hwords name
  cases r? with
  | none =>
      exact ⟨_, s, s₁', Vocabulary.run_removeAlias_none hfind,
        Vocabulary.run_removeAlias_none hfind', h₁⟩
  | some r =>
      obtain ⟨s₂, s₂', hdelete, hdelete', h₂⟩ := h₁.delete hwords hfind
      exact ⟨_, s₂, s₂', Vocabulary.run_removeAlias_some hfind hdelete,
        Vocabulary.run_removeAlias_some hfind' hdelete', h₂⟩

theorem Mirrored.registry_eq (h : Mirrored limit given s s') : s'.registry = s.registry := by
  obtain ⟨t, store, rs, log, -, rfl, -⟩ := h.mirror
  rfl

theorem Mirrored.report (h : Mirrored limit given s s') (level : LogLevel) (message : String) :
    Mirrored limit given (s.report level message) (s'.report level message) := by
  obtain ⟨a, s₁, s₁', hlog, hlog', h₁⟩ :=
    h.answer_plain (q := .log level message) trivial maxNesting
  obtain rfl : s.report level message = s₁ := congrArg Prod.snd (Option.some.inj hlog)
  obtain rfl : s'.report level message = s₁' := congrArg Prod.snd (Option.some.inj hlog')
  exact h₁

theorem alike_defineAlias (hwords : ((given + 1 : Nat) : Int) ≤ Number.maxInt64)
    (name command : String) :
    Alike limit given (given + 1) (Vocabulary.defineAlias name command).run := by
  intro s s' h
  have hregistry := h.registry_eq
  cases hname : Registry.containsIgnoringCase (s.registry.synopses.map (·.name)) name with
  | true =>
      have hname' := hname
      rw [← hregistry] at hname'
      exact ⟨_, s, s', Vocabulary.run_defineAlias_registered hname,
        Vocabulary.run_defineAlias_registered hname', h.mono (Nat.le_succ given)⟩
  | false =>
      have hname' := hname
      rw [← hregistry] at hname'
      obtain ⟨r?, s₁', hfind, hfind', h₁⟩ := h.findAlias (by omega) name
      cases r? with
      | some r =>
          obtain ⟨s₂, s₂', hupdate, hupdate', h₂⟩ := h₁.update (by omega) hfind command
          exact ⟨_, _, _, Vocabulary.run_defineAlias_some hname hfind hupdate,
            Vocabulary.run_defineAlias_some hname' hfind' hupdate',
            (h₂.report ..).mono (Nat.le_succ given)⟩
      | none =>
          obtain ⟨id, s₂, s₂', hcreate, hcreate', h₂⟩ := h₁.create hwords hfind command
          exact ⟨_, _, _, Vocabulary.run_defineAlias_none hname hfind hcreate,
            Vocabulary.run_defineAlias_none hname' hfind' hcreate', h₂.report ..⟩

theorem alike_setAlias (hwords : ((given + 1 : Nat) : Int) ≤ Number.maxInt64)
    (args : List String) : Alike limit given (given + 1) (Vocabulary.setAlias args).run := by
  unfold Vocabulary.setAlias
  split
  · split
    · exact (alike_removeAlias (by omega) _).mono (Nat.le_succ given)
    · exact alike_defineAlias hwords _ _
  · exact (alike_pure _).mono (Nat.le_succ given)

/-- **A built-in command comes to the same on mirrored sessions.** -/
theorem alike_handler (hwords : ((given + 1 : Nat) : Int) ≤ Number.maxInt64) {d : Definition}
    (hd : Vocabulary.registry.lookup name = some d) (args : List String) :
    Alike limit given (given + 1) (d.handler args).run := by
  rcases Vocabulary.handler_cases hd args with ⟨args', halias⟩ | hplain
  · rw [halias]
    exact alike_setAlias hwords args'
  · exact (alike_of_plain hplain).mono (Nat.le_succ given)

/-! ## Lines -/

theorem alike_log (level : LogLevel) (message : String) :
    Alike limit given given (Task.log level message) :=
  alike_of_plain ⟨trivial, fun _ => trivial⟩

/-- **A line comes to the same on mirrored sessions.** At most one command is called, at the end. -/
theorem alike_executeWithin (hwords : ((given + 1 : Nat) : Int) ≤ Number.maxInt64)
    (bound left : Nat) (line : String) :
    Alike limit given (given + 1)
      (Dispatch.executeWithin Vocabulary.registry bound left line) := by
  have hpure : ∀ outcome : Outcome, Alike limit given (given + 1) (Pure.pure outcome) :=
    fun outcome => (alike_pure outcome).mono (Nat.le_succ given)
  refine Dispatch.executeWithin_induction (hpure _) (fun e => hpure _) ?_ ?_ ?_ left line
  · intro level message t ht
    exact (alike_log level message).bind fun _ => ht
  · intro name f hf
    exact (alike_findAlias (by omega) name).bind hf
  · intro name d args hname
    exact (alike_handler hwords hname args).bind fun _ => alike_pure _

end

/-! ## Lines one after another -/

/-- The outcomes of lines that are executed one after another. -/
def executeAll (s : Session) : List String → Option (List Outcome × Session)
  | [] => some ([], s)
  | line :: lines => do
      let (outcome, s) ← s.execute line
      let (outcomes, s) ← executeAll s lines
      return (outcome :: outcomes, s)

theorem Mirrored.execute (h : Mirrored limit given s s')
    (hwords : ((given + 1 : Nat) : Int) ≤ Number.maxInt64) (line : String) :
    ∃ outcome s₁ s₁', s.execute line = some (outcome, s₁) ∧
      s'.execute line = some (outcome, s₁') ∧ Mirrored limit (given + 1) s₁ s₁' := by
  have hlimit : s'.aliasLimit = s.aliasLimit := by
    obtain ⟨t, store, rs, log, -, rfl, -⟩ := h.mirror
    rfl
  obtain ⟨outcome, s₁, s₁', hrun, hrun', h₁⟩ :=
    alike_executeWithin hwords s.aliasLimit s.aliasLimit line s s' h
  refine ⟨outcome, s₁, s₁', ?_, ?_, h₁⟩
  · rw [Session.execute, Dispatch.execute, h.registry]
    exact hrun
  · rw [Session.execute, Dispatch.execute, h.registry_eq, h.registry, hlimit]
    exact hrun'

/-- **Lines come to the same on mirrored sessions**, one after another. -/
theorem Mirrored.executeAll {lines : List String} (h : Mirrored limit given s s')
    (hwords : ((given + lines.length : Nat) : Int) ≤ Number.maxInt64) :
    ∃ outcomes s₁ s₁', s.executeAll lines = some (outcomes, s₁) ∧
      s'.executeAll lines = some (outcomes, s₁') ∧
      Mirrored limit (given + lines.length) s₁ s₁' := by
  induction lines generalizing given s s' with
  | nil => exact ⟨[], s, s', rfl, rfl, h⟩
  | cons line lines ih =>
      have hlength : given + (line :: lines).length = given + 1 + lines.length := by
        rw [List.length_cons]
        omega
      rw [hlength] at hwords ⊢
      obtain ⟨outcome, s₁, s₁', hline, hline', h₁⟩ := h.execute (by omega) line
      obtain ⟨outcomes, s₂, s₂', hlines, hlines', h₂⟩ := ih h₁ hwords
      refine ⟨outcome :: outcomes, s₂, s₂', ?_, ?_, h₂⟩
      · simp [Session.executeAll, hline, hlines]
      · simp [Session.executeAll, hline', hlines']

/-- **Records refine the table.** Two sessions with the built-in commands differ in where they
keep their aliases only: one has an empty table, the other an empty store of records of its own. Any
lines that are executed on both, one after another, have the same outcomes. Then the sessions differ
in their logs and their aliases only, both have the same alias under every name, and the templates
by name of the table are those of the records. -/
theorem records_refine_table (s : Session) (hregistry : s.registry = Vocabulary.registry)
    (lines : List String) (hwords : (lines.length : Int) ≤ Number.maxInt64) :
    ∃ outcomes s₁ t store log,
      { s with aliases := .memory .empty }.executeAll lines = some (outcomes, s₁) ∧
      { s with aliases := .records .empty }.executeAll lines =
        some (outcomes, s₁.elsewhere (.records store) log) ∧
      s₁.aliases = .memory ⟨t, none⟩ ∧
      (∀ name, (s₁.findAlias name).1 = .ok (t.find? name) ∧
        ((s₁.elsewhere (.records store) log).findAlias name).1 = .ok (t.find? name)) ∧
      ∀ name command, (name, command) ∈ t.commands ↔
        ∃ id, (id, [("command", .str command), ("name", .str name)]) ∈
          store.table Alias.model := by
  have hstart : Mirrored s.aliasLimit 0 { s with aliases := .memory .empty }
      { s with aliases := .records .empty } :=
    ⟨hregistry, rfl, .empty, .empty, [], s.log, rfl, rfl, Alias.mirrors_empty, Int.le_refl 0⟩
  have hwords' : ((0 + lines.length : Nat) : Int) ≤ Number.maxInt64 := by omega
  obtain ⟨outcomes, s₁, s₂, hlines, hlines', h⟩ := hstart.executeAll hwords'
  obtain ⟨t, store, rs, log, haliases, rfl, hmirrors, -⟩ := h.mirror
  refine ⟨outcomes, s₁, t, store, log, hlines, hlines', haliases, fun name => ?_,
    hmirrors.mem_commands_iff⟩
  obtain ⟨r?, s₁', hfind, hfind', -⟩ := h.findAlias hwords' name
  have hfound : s₁.findAlias name = (.ok (t.find? name), s₁) := by
    rw [Session.findAlias, haliases]
  obtain rfl : r? = t.find? name := Except.ok.inj (congrArg Prod.fst (hfind.symm.trans hfound))
  exact ⟨congrArg Prod.fst hfind, congrArg Prod.fst hfind'⟩

/-- The session that has the built-in commands and nothing else. -/
def builtIn : Session := { Session.start with registry := Vocabulary.registry }

/-- Lines that make an alias, use it, change it, use it, remove it and miss it. -/
def aliasLines : List String :=
  ["alias k history", "k", "alias k debug", "k", "alias k -d", "k"]

theorem records_refine_table_aliasLines :
    builtIn.registry = Vocabulary.registry ∧ (aliasLines.length : Int) ≤ Number.maxInt64 ∧
    ∃ s₁ store log, { builtIn with aliases := .records .empty }.executeAll aliasLines =
      some ([.ok (.text "'k' alias created successfully"), .ok (.text ""),
        .ok (.text "'k' alias updated successfully"), .error (.badArguments "debug" "<MODE>"),
        .ok (.text "'k' alias deleted successfully"), .error (.notFound "k")],
        elsewhere s₁ (.records store) log) ∧
      s₁.aliases = .memory ⟨⟨1, []⟩, none⟩ ∧
      ((s₁.elsewhere (.records store) log).findAlias "k").1 = .ok none := by
  have hwords : (aliasLines.length : Int) ≤ Number.maxInt64 := by decide
  obtain ⟨outcomes, s₁, t, store, log, hlines, hlines', haliases, hfind, -⟩ :=
    records_refine_table builtIn rfl aliasLines hwords
  -- what the table comes to can be worked out
  have htable : { builtIn with aliases := .memory .empty }.executeAll aliasLines = _ := rfl
  obtain ⟨rfl, rfl⟩ := Prod.mk.inj (Option.some.inj (hlines.symm.trans htable))
  obtain rfl : (⟨1, []⟩ : Alias.Table) = t :=
    congrArg Alias.MemoryStore.table (Alias.Store.memory.inj haliases)
  exact ⟨rfl, hwords, _, store, log, hlines', rfl, (hfind "k").2⟩

end CommandConsole.Session
