import CommandConsole.Proofs.Alias.Records
import CommandConsole.Proofs.Session.Setup

/-!
# Sessions whose aliases are records

A session keeps aliases as records when its store of aliases is a store of records in memory, its
own or that of the backend (`aliasRecords?`). Whatever it is asked for then goes to that store:
look-ups and changes are requests to it (`findAlias_of_records`, `changeAlias_of_records`).

`HasAliases.answer` says what becomes of the names of the aliases: a creation adds its name, whether
or not the name is there, and nothing else that is asked changes them but deletions and calls of
the backend.
-/

set_option autoImplicit false

namespace CommandConsole

/-- A question that neither deletes an alias, nor calls the backend, nor runs a line. -/
def Query.KeepsNames : Query → Prop
  | .changeAlias (.delete _) => False
  | .call _ => False
  | .execute _ => False
  | _ => True

/-- The name under which a question creates an alias. -/
def Query.creates? : Query → Option String
  | .changeAlias (.create name _) => some name
  | _ => none

namespace Session

/-- The store that has the aliases of a session as records, if one in memory has. -/
def aliasRecords? (s : Session) : Option Records.Store :=
  match s.aliases with
  | .records store => some store
  | .backend =>
      match s.backend with
      | .records store => some store
      | _ => none
  | .memory _ => none

/-- The session has these aliases as records. -/
def HasAliases (s : Session) (rs : List Alias.Record) : Prop :=
  ∃ store, s.aliasRecords? = some store ∧ Alias.Keeps store rs

variable {s s' : Session} {store : Records.Store} {rs : List Alias.Record} {name : String}

theorem aliasRecords?_congr (haliases : s'.aliases = s.aliases)
    (hbackend : s'.backend = s.backend) : s'.aliasRecords? = s.aliasRecords? := by
  unfold aliasRecords?
  rw [haliases, hbackend]

theorem aliasRecords?_report (s : Session) (level : LogLevel) (message : String) :
    (s.report level message).aliasRecords? = s.aliasRecords? :=
  aliasRecords?_congr (sameSetup_report ..).aliases (backend_report ..)

/-! ## Requests for aliases -/

/-- A request for aliases goes to the store that has them. -/
theorem callAliases_of_records (h : s.aliasRecords? = some store) (r : Request) :
    ∃ s', s.callAliases r = ((store.answer r).1, s') ∧
      s'.aliasRecords? = some (store.answer r).2 ∧ s'.registry = s.registry := by
  let noted := s.report .trace s!"memory call {r.model}.{r.method}"
  have hnoted : noted.registry = s.registry := (sameSetup_report ..).registry
  unfold aliasRecords? at h
  cases haliases : s.aliases with
  | memory store => simp [haliases] at h
  | records store' =>
      obtain rfl : store' = store := by simpa [haliases] using h
      refine ⟨{ noted with aliases := .records (store'.answer r).2 }, ?_, rfl, hnoted⟩
      rw [callAliases, haliases]
  | backend =>
      cases hbackend : s.backend with
      | records store' =>
          obtain rfl : store' = store := by simpa [haliases, hbackend] using h
          have hkept : noted.aliases = .backend := (sameSetup_report ..).aliases.trans haliases
          refine ⟨{ noted with backend := .records (store'.answer r).2 }, ?_, ?_, hnoted⟩
          · rw [callAliases, haliases]
            simp only [callBackend, hbackend, noted]
          · simp only [aliasRecords?, hkept]
      | script replies received => simp [haliases, hbackend] at h
      | program host name args => simp [haliases, hbackend] at h

theorem findAlias_of_records (h : s.aliasRecords? = some store) (name : String) :
    ∃ s', s.findAlias name =
        ((store.answer (Alias.findRequest name)).1.bind Alias.found, s') ∧
      s'.aliasRecords? = some (store.answer (Alias.findRequest name)).2 ∧
      s'.registry = s.registry := by
  obtain ⟨s', hcall, hstore, hregistry⟩ := callAliases_of_records h (Alias.findRequest name)
  refine ⟨s', ?_, hstore, hregistry⟩
  unfold findAlias
  cases haliases : s.aliases with
  | memory store => simp [aliasRecords?, haliases] at h
  | records store' => simp only [hcall]
  | backend => simp only [hcall]

theorem changeAlias_of_records (h : s.aliasRecords? = some store) (c : Alias.Change) :
    ∃ s', s.changeAlias c = ((store.answer (Alias.changeRequest c)).1.bind (Alias.changed c), s') ∧
      s'.aliasRecords? = some (store.answer (Alias.changeRequest c)).2 ∧
      s'.registry = s.registry := by
  obtain ⟨s', hcall, hstore, hregistry⟩ := callAliases_of_records h (Alias.changeRequest c)
  refine ⟨s', ?_, hstore, hregistry⟩
  unfold changeAlias
  cases haliases : s.aliases with
  | memory store => simp [aliasRecords?, haliases] at h
  | records store' => simp only [hcall]
  | backend => simp only [hcall]

/-! ## Names -/

theorem answer_findAlias (nesting : Nat) (s : Session) (name : String) :
    answer nesting (.findAlias name) s = some (s.findAlias name) := by
  cases nesting <;> rfl

theorem answer_changeAlias (nesting : Nat) (s : Session) (c : Alias.Change) :
    answer nesting (.changeAlias c) s = some (s.changeAlias c) := by
  cases nesting <;> rfl

/-- A question that has nothing to do with aliases, nor with the backend or a line. -/
theorem answer_aside {q : Query} (hq : q.Plain) (hcall : ∀ r, q ≠ .call r) {nesting : Nat}
    {a : q.Answer} (ha : answer nesting q s = some (a, s')) :
    s'.aliasRecords? = s.aliasRecords? ∧ s'.registry = s.registry := by
  obtain ⟨a', s₁, ha', hsetup, hbackend⟩ := exists_answer_plain hq nesting s
  obtain rfl : s₁ = s' := congrArg Prod.snd (Option.some.inj (ha'.symm.trans ha))
  exact ⟨aliasRecords?_congr hsetup.aliases (hbackend hcall), hsetup.registry⟩

/-- A look-up that finds nothing looked for a name that no alias has. -/
theorem HasAliases.not_mem_of_free (h : s.HasAliases rs)
    (hfree : (s.findAlias name).1 = .ok none) : name ∉ rs.map Alias.Record.name := by
  obtain ⟨store, hstore, hkeeps⟩ := h
  obtain ⟨s', hfind, -, -⟩ := findAlias_of_records hstore name
  rw [hfind, hkeeps.search name] at hfree
  have hnone := Alias.eq_nil_of_found_none hfree
  intro hmem
  obtain ⟨r, hr, hname⟩ := List.mem_map.mp hmem
  have hin : r ∈ rs.filter (·.name == name) := List.mem_filter.mpr ⟨hr, by simp [hname]⟩
  rw [hnone] at hin
  contradiction

/-- **What becomes of the names** when a question is answered: a creation adds one, and nothing else
changes them. -/
theorem HasAliases.answer (h : s.HasAliases rs) {q : Query} (hq : q.KeepsNames) {nesting : Nat}
    {a : q.Answer} (ha : answer nesting q s = some (a, s')) :
    ∃ rs', s'.HasAliases rs' ∧
      rs'.map Alias.Record.name = rs.map Alias.Record.name ++ q.creates?.toList ∧
      s'.registry = s.registry := by
  obtain ⟨store, hstore, hkeeps⟩ := h
  cases q with
  | call r => exact hq.elim
  | execute line => exact hq.elim
  | findAlias name =>
      obtain ⟨s₁, hfind, hstore₁, hregistry⟩ := findAlias_of_records hstore name
      rw [answer_findAlias, hfind] at ha
      obtain rfl : s₁ = s' := congrArg Prod.snd (Option.some.inj ha)
      rw [hkeeps.search name] at hstore₁
      exact ⟨rs, ⟨store, hstore₁, hkeeps⟩, (List.append_nil _).symm, hregistry⟩
  | changeAlias c =>
      obtain ⟨s₁, hchange, hstore₁, hregistry⟩ := changeAlias_of_records hstore c
      rw [answer_changeAlias, hchange] at ha
      obtain rfl : s₁ = s' := congrArg Prod.snd (Option.some.inj ha)
      cases c with
      | delete id => exact hq.elim
      | create name command =>
          obtain ⟨store', hanswer, -, hkeeps'⟩ := hkeeps.create name command
          rw [hanswer] at hstore₁
          exact ⟨_, ⟨store', hstore₁, hkeeps'⟩, by simp [Query.creates?], hregistry⟩
      | update id command =>
          -- the number can be any, since it may come from a look-up long ago
          obtain ⟨reply, store', rs', hanswer, hkeeps', hnames⟩ := hkeeps.update_names id command
          rw [hanswer] at hstore₁
          exact ⟨rs', ⟨store', hstore₁, hkeeps'⟩, by simp [Query.creates?, hnames], hregistry⟩
  | _ =>
      -- what is left neither asks for aliases nor calls the backend
      obtain ⟨hsame, hregistry⟩ := answer_aside (by exact trivial) (by simp) ha
      exact ⟨rs, ⟨store, hsame.trans hstore, hkeeps⟩, (List.append_nil _).symm, hregistry⟩

end Session

end CommandConsole
