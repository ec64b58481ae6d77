import CommandConsole.Proofs.Records.Calls

/-!
# The numbers of records

A number is given to one record and never to another one: not in another model, and not when the
record is gone. A store is **sound** when that can be read off it: the records of each model are in
the order of their numbers, each number was given and is that of one model, and no record has a
field that could pass for its number. Calls keep a store sound (`sound_run`), and the numbers that
they return are all numbers from the first one on, in order (`numbersGiven_run`).

A record is handed out as its number with its fields put on top. So it is the soundness of the store
that keeps the number (`get?_project`), whatever values were given for it.
-/

set_option autoImplicit false

namespace CommandConsole.Records

/-- Whether a call asks for a new record. -/
def Call.creates : Call → Bool
  | .insert _ _ => true
  | .count _ => false
  | .request r => r.method == "create"

/-- The model that a call is about. -/
def Call.model : Call → String
  | .insert model _ => model
  | .count model => model
  | .request r => r.model

/-- The values that a call gives for a new record. -/
def Call.values : Call → Json.Fields
  | .insert _ values => values.obj?.getD []
  | .count _ => []
  | .request r => (r.args.head?.bind Json.obj?).getD []

/-- The number that is returned for a new record. -/
def Returned.number? : Returned → Option Nat
  | .number id => some id
  | .reply (.ok (.int id)) => some id.toNat
  | _ => none

/-- The numbers that calls returned for new records, in order. -/
def numbersGiven (exchanges : List (Call × Returned)) : List Nat :=
  exchanges.filterMap fun x => if x.1.creates then x.2.number? else none

namespace Store

/-- A store in order. -/
structure Sound (s : Store) : Prop where
  ordered : ∀ model, Assoc.Sorted (s.table model)
  given : ∀ model, ∀ id ∈ Assoc.keys (s.table model), 1 ≤ id ∧ id ≤ s.lastId
  alone : ∀ model model' id, id ∈ Assoc.keys (s.table model) →
    id ∈ Assoc.keys (s.table model') → model' = model
  unnumbered : ∀ model, ∀ e ∈ s.table model, "id" ∉ Assoc.keys e.2

variable {s s' : Store} {r : Request} {c : Call} {calls : List Call} {model : String} {t : Table}
  {exchanges : List (Call × Returned)} {values record : Json.Fields} {id : Nat}
  {names : Option (List String)} {rows : Json}

/-! ## What calls do to a sound store -/

theorem sound_empty : Sound empty :=
  ⟨fun _ => Assoc.sorted_nil, by simp [Assoc.keys], by simp [Assoc.keys], by simp⟩

theorem not_mem_keys_update (h : "id" ∉ Assoc.keys record) (values : Json.Fields) :
    "id" ∉ Assoc.keys (update values record) := by
  intro hmem
  rcases Assoc.mem_keys_union.mp hmem with hmem | hmem
  · exact h hmem
  · simp [Assoc.keys] at hmem

/-- In a sound store a new record goes behind the others of its model. -/
theorem Sound.table_insert_eq (h : s.Sound) (model : String) (values : Json.Fields) :
    (s.insert model values).2.table model =
      s.table model ++ [(s.lastId + 1, Assoc.erase "id" values)] := by
  rw [table_insert, Assoc.insert_eq_append]
  intro e he
  have hgiven := h.given model e.1 (List.mem_map_of_mem he)
  omega

/-- The numbers of the records of a model behind a new record. -/
theorem Sound.mem_keys_insert (h : s.Sound) {other : String} (values : Json.Fields) :
    id ∈ Assoc.keys ((s.insert model values).2.table other) ↔
      id ∈ Assoc.keys (s.table other) ∨ other = model ∧ id = s.lastId + 1 := by
  by_cases hother : other = model
  · subst hother
    simp [h.table_insert_eq, Assoc.keys]
  · simp [table_insert_of_ne hother, hother]

theorem Sound.insert (h : s.Sound) (model : String) (values : Json.Fields) :
    (s.insert model values).2.Sound where
  ordered := by
    intro other
    by_cases hother : other = model
    · subst hother
      rw [table_insert]
      exact Assoc.sorted_insert (h.ordered other) ..
    · rw [table_insert_of_ne hother]
      exact h.ordered other
  given := by
    intro other id hid
    rw [lastId_insert]
    rcases h.mem_keys_insert values |>.mp hid with hid | ⟨-, rfl⟩
    · have hgiven := h.given other id hid
      omega
    · omega
  alone := by
    -- the number of the new record is greater than all others
    have hfresh : ∀ other, s.lastId + 1 ∉ Assoc.keys (s.table other) := by
      intro other hmem
      have hgiven := h.given other _ hmem
      omega
    intro m m' id hid hid'
    rcases h.mem_keys_insert values |>.mp hid with hid | ⟨rfl, rfl⟩
    · rcases h.mem_keys_insert values |>.mp hid' with hid' | ⟨-, rfl⟩
      · exact h.alone m m' id hid hid'
      · exact absurd hid (hfresh m)
    · rcases h.mem_keys_insert values |>.mp hid' with hid' | ⟨rfl, -⟩
      · exact absurd hid' (hfresh m')
      · rfl
  unnumbered := by
    intro other e he
    by_cases hother : other = model
    · subst hother
      rw [h.table_insert_eq] at he
      rcases List.mem_append.mp he with he | he
      · exact h.unnumbered other e he
      · rw [List.mem_singleton.mp he]
        exact Assoc.not_mem_keys_erase "id" values
    · rw [table_insert_of_ne hother] at he
      exact h.unnumbered other e he

/-- A sound store stays sound when a model gets other records under some of its numbers. -/
theorem Sound.withTable (h : s.Sound)
    (hkeys : (Assoc.keys t).Sublist (Assoc.keys (s.table model)))
    (hfields : ∀ e ∈ t, "id" ∉ Assoc.keys e.2) : (s.withTable model t).Sound := by
  have hmem {other : String} {id : Nat}
      (hid : id ∈ Assoc.keys ((s.withTable model t).table other)) :
      id ∈ Assoc.keys (s.table other) := by
    by_cases hother : other = model
    · subst hother
      rw [table_withTable] at hid
      exact hkeys.subset hid
    · rwa [table_withTable_of_ne hother] at hid
  refine ⟨fun other => ?_, fun other id hid => h.given other id (hmem hid),
    fun m m' id hid hid' => h.alone m m' id (hmem hid) (hmem hid'), fun other e he => ?_⟩
  · by_cases hother : other = model
    · subst hother
      rw [table_withTable]
      exact (h.ordered other).sublist hkeys
    · rw [table_withTable_of_ne hother]
      exact h.ordered other
  · by_cases hother : other = model
    · subst hother
      rw [table_withTable] at he
      exact hfields e he
    · rw [table_withTable_of_ne hother] at he
      exact h.unnumbered other e he

/-- **A request keeps a store sound.** -/
theorem Sound.answer (h : s.Sound) (r : Request) : (s.answer r).2.Sound := by
  rcases answer_cases s r with
    ⟨values, -, -, heq⟩ | ⟨numbers, values, -, heq⟩ | ⟨numbers, -, heq⟩ | ⟨heq, -⟩
  · rw [heq]
    exact h.insert r.model values
  · rw [heq]
    refine h.withTable (by rw [keys_rewritten]) fun e he => ?_
    obtain ⟨f, hf, rfl⟩ := List.mem_map.mp he
    have hold := h.unnumbered r.model f hf
    split
    · exact not_mem_keys_update hold values
    · exact hold
  · rw [heq]
    exact h.withTable (keys_without_sublist ..) fun e he =>
      h.unnumbered r.model e (List.mem_of_mem_filter he)
  · rwa [heq]

theorem Sound.call (h : s.Sound) (c : Call) : (s.call c).2.Sound := by
  cases c with
  | insert model values => exact h.insert model _
  | count model => exact h
  | request r => exact h.answer r

/-- **Calls keep a store sound.** -/
theorem sound_run (h : s.Sound) (hrun : s.run calls = (exchanges, s')) : s'.Sound := by
  induction calls generalizing s exchanges with
  | nil =>
      obtain ⟨-, rfl⟩ : [] = exchanges ∧ s = s' := by simpa [run] using hrun
      exact h
  | cons c calls ih =>
      obtain ⟨returned, s₁, rest, hcall, hrest, -⟩ := exists_of_run_cons hrun
      have h₁ := h.call c
      rw [hcall] at h₁
      exact ih h₁ hrest

/-! ## The numbers that are given -/

/-- **What a call for a new record does**: it returns the next number and makes the record, or it
fails and does nothing. -/
theorem call_of_creates (h : c.creates = true) :
    (∃ e, s.call c = (.reply (.error e), s)) ∨
    (∃ returned, s.call c = (returned, (s.insert c.model c.values).2) ∧
      returned.number? = some (s.lastId + 1)) := by
  cases c with
  | insert model values => exact .inr ⟨_, rfl, rfl⟩
  | count model => contradiction
  | request r =>
      have hmethod : r.method = "create" := by simpa [Call.creates] using h
      rcases answer_cases s r with
        ⟨values, -, hargs, heq⟩ | ⟨_, _, hother, -⟩ | ⟨_, hother, -⟩ | ⟨heq, hfails⟩
      · refine .inr ⟨.reply (.ok (.ofNat (s.lastId + 1))), ?_, rfl⟩
        simp [call, heq, Call.model, Call.values, hargs, Json.obj?]
      · exact absurd (hmethod.symm.trans hother) (by decide)
      · exact absurd (hmethod.symm.trans hother) (by decide)
      · obtain ⟨e, he⟩ := hfails hmethod
        refine .inl ⟨e, ?_⟩
        simp [call, he, heq]

/-- A call that does not ask for a new record gives no number. -/
theorem lastId_call_of_not_creates (h : c.creates = false) :
    (s.call c).2.lastId = s.lastId := by
  cases c with
  | insert model values => contradiction
  | count model => rfl
  | request r =>
      have hmethod : r.method ≠ "create" := by simpa [Call.creates] using h
      show (s.answer r).2.lastId = s.lastId
      rcases answer_cases s r with
        ⟨_, hcreate, -⟩ | ⟨_, _, -, heq⟩ | ⟨_, -, heq⟩ | ⟨heq, -⟩
      · exact absurd hcreate hmethod
      · rw [heq, lastId_withTable]
      · rw [heq, lastId_withTable]
      · rw [heq]

/-- **The numbers that calls return** for new records are the next ones, one after another. -/
theorem numbersGiven_run (hrun : s.run calls = (exchanges, s')) :
    ∃ n, s'.lastId = s.lastId + n ∧ numbersGiven exchanges = List.range' (s.lastId + 1) n := by
  induction calls generalizing s exchanges with
  | nil =>
      obtain ⟨rfl, rfl⟩ : [] = exchanges ∧ s = s' := by simpa [run] using hrun
      exact ⟨0, rfl, rfl⟩
  | cons c calls ih =>
      obtain ⟨returned, s₁, rest, hcall, hrest, rfl⟩ := exists_of_run_cons hrun
      obtain ⟨n, hlast, hgiven⟩ := ih hrest
      -- a call either gives the next number or none
      cases hcreates : c.creates with
      | false =>
          have hsame : s₁.lastId = s.lastId := by
            simpa [hcall] using lastId_call_of_not_creates (s := s) hcreates
          rw [hsame] at hlast hgiven
          exact ⟨n, hlast, by simpa [numbersGiven, hcreates] using hgiven⟩
      | true =>
          rcases call_of_creates (s := s) hcreates with ⟨e, heq⟩ | ⟨returned', heq, hnumber⟩
          · obtain ⟨rfl, rfl⟩ := Prod.mk.inj (hcall.symm.trans heq)
            exact ⟨n, hlast, by simpa [numbersGiven, hcreates, Returned.number?] using hgiven⟩
          · obtain ⟨rfl, rfl⟩ := Prod.mk.inj (hcall.symm.trans heq)
            rw [lastId_insert] at hlast hgiven
            refine ⟨n + 1, by omega, ?_⟩
            simpa [numbersGiven, hcreates, hnumber, List.range'_succ] using hgiven

/-! ## Records that are handed out -/

/-- **A record is handed out under its own number**, with the fields that are asked for or all. -/
theorem get?_project (h : "id" ∉ Assoc.keys record) (names : Option (List String)) (id : Nat) :
    (project names id record).get? "id" = some (.ofNat id) := by
  cases names with
  | none =>
      show Assoc.find? "id" (Assoc.union [("id", .ofNat id)] record) = _
      rw [Assoc.find?_union_of_not_mem h]
      rfl
  | some names =>
      let asked : Json.Fields := (names.filter (· ≠ "id")).map fun name =>
        (name, (Assoc.find? name record).getD (.bool false))
      have hasked : "id" ∉ Assoc.keys asked := by simp [asked, Assoc.keys]
      show Assoc.find? "id" (Assoc.union [("id", .ofNat id)] asked) = _
      rw [Assoc.find?_union_of_not_mem hasked]
      rfl

theorem mem_of_record? {n : Int} {e : Nat × Json.Fields} (h : record? t n = some e) : e ∈ t := by
  unfold record? at h
  split at h
  · obtain ⟨record, hfind, rfl⟩ := Option.map_eq_some_iff.mp h
    exact Assoc.mem_of_find?_eq_some hfind
  · contradiction

/-- The records of a table as a reply hands them out. -/
def handedOut (names : Option (List String)) (es : Table) : Json :=
  .arr (es.map fun e => project names e.1 e.2)

theorem handedOut_of_search (h : s.search r = .ok rows) :
    ∃ names es, rows = handedOut names es ∧ ∀ e ∈ es, e ∈ s.table r.model := by
  unfold search at h
  obtain ⟨conditions, -, h⟩ := exists_of_bind h
  obtain ⟨names, -, h⟩ := exists_of_bind h
  exact ⟨names, _, (Except.ok.inj h).symm, fun e he => List.mem_of_mem_filter he⟩

theorem handedOut_of_read (h : s.read r = .ok rows) :
    ∃ names es, rows = handedOut names es ∧ ∀ e ∈ es, e ∈ s.table r.model := by
  unfold read at h
  obtain ⟨numbers, -, h⟩ := exists_of_bind h
  obtain ⟨names, -, h⟩ := exists_of_bind h
  refine ⟨names, _, (Except.ok.inj h).symm, fun e he => ?_⟩
  obtain ⟨n, -, hn⟩ := List.mem_filterMap.mp he
  exact mem_of_record? hn

/-- **The identity of records.** Calls are made of a store that was empty. Then the records of each
model are in the order of their numbers, each number was given and is that of one record, and no
record has a field that could pass for its number. The numbers returned for new records were all
numbers from 1 on, in order. A further call for a new record fails and does nothing, or it returns
a number greater than all before and adds the record to its model, and to no other. What a search or
a reading hands out are records of the model, each under its own number. -/
theorem identity_of_run (hrun : empty.run calls = (exchanges, s)) :
    (∀ model, Assoc.Sorted (s.table model)) ∧
    (∀ model id record, (id, record) ∈ s.table model →
      1 ≤ id ∧ id ≤ s.lastId ∧ "id" ∉ Assoc.keys record ∧
      ∀ model' record', (id, record') ∈ s.table model' → model' = model ∧ record' = record) ∧
    numbersGiven exchanges = List.range' 1 s.lastId ∧
    (∀ c returned s', c.creates = true → s.call c = (returned, s') →
      (∃ e, returned = .reply (.error e) ∧ s' = s) ∨
      (∃ id, returned.number? = some id ∧ (∀ before ∈ numbersGiven exchanges, before < id) ∧
        s'.table c.model = s.table c.model ++ [(id, Assoc.erase "id" c.values)] ∧
        ∀ other, other ≠ c.model → s'.table other = s.table other)) ∧
    (∀ r rows s', r.method = "search_read" ∨ r.method = "read" → s.answer r = (.ok rows, s') →
      ∃ names es, rows = handedOut names es ∧
        ∀ e ∈ es, e ∈ s.table r.model ∧
          (project names e.1 e.2).get? "id" = some (.ofNat e.1)) := by
  have hsound : s.Sound := sound_run sound_empty hrun
  have hnumbers : numbersGiven exchanges = List.range' 1 s.lastId := by
    obtain ⟨n, hlast, hgiven⟩ := numbersGiven_run hrun
    rw [hgiven, hlast]
    simp [empty]
  refine ⟨hsound.ordered, fun model id record hmem => ?_, hnumbers, ?_, ?_⟩
  · have hid : id ∈ Assoc.keys (s.table model) := List.mem_map_of_mem hmem
    have hgiven := hsound.given model id hid
    refine ⟨hgiven.1, hgiven.2, hsound.unnumbered model _ hmem, fun model' record' hmem' => ?_⟩
    -- first the model is the same, and in one model a number stands for one record
    obtain rfl : model' = model :=
      hsound.alone model model' id hid (List.mem_map_of_mem hmem')
    have hfind := Assoc.find?_eq_some_iff_mem (hsound.ordered model') |>.mpr hmem
    have hfind' := Assoc.find?_eq_some_iff_mem (hsound.ordered model') |>.mpr hmem'
    exact ⟨rfl, Option.some.inj (hfind'.symm.trans hfind)⟩
  · intro c returned s' hcreates hcall
    rcases call_of_creates (s := s) hcreates with ⟨e, heq⟩ | ⟨returned', heq, hnumber⟩
    · obtain ⟨rfl, rfl⟩ := Prod.mk.inj (hcall.symm.trans heq)
      exact .inl ⟨e, rfl, rfl⟩
    · obtain ⟨rfl, rfl⟩ := Prod.mk.inj (hcall.symm.trans heq)
      refine .inr ⟨s.lastId + 1, hnumber, fun before hbefore => ?_,
        hsound.table_insert_eq c.model c.values, fun other hother =>
          table_insert_of_ne hother s c.values⟩
      rw [hnumbers, List.mem_range'_1] at hbefore
      omega
  · intro r rows s' hmethod hanswer
    have hrows : ∃ names es, rows = handedOut names es ∧ ∀ e ∈ es, e ∈ s.table r.model := by
      rcases hmethod with hmethod | hmethod
      · rw [answer_of_search hmethod] at hanswer
        exact handedOut_of_search (congrArg Prod.fst hanswer)
      · rw [answer_of_read hmethod] at hanswer
        exact handedOut_of_read (congrArg Prod.fst hanswer)
    obtain ⟨names, es, heq, hmem⟩ := hrows
    exact ⟨names, es, heq, fun e he =>
      ⟨hmem e he, get?_project (hsound.unnumbered r.model e (hmem e he)) names e.1⟩⟩

/-- Calls that give fields called `id` for new records and in a write, and delete the newest record
before another one is made. -/
def forgery : List Call :=
  [.insert "note" (.obj [("id", .int 7), ("text", .str "a")]),
    .request ⟨"task", "create", [.obj [("id", .int 1)]], []⟩,
    .request ⟨"note", "write", [.int 1, .obj [("id", .int 2), ("text", .str "b")]], []⟩,
    .request ⟨"task", "unlink", [.arr [.int 2]], []⟩,
    .request ⟨"task", "create", [.str "no values"], []⟩,
    .request ⟨"task", "create", [.obj []], []⟩]

/-- The forger's numbers are not kept, and the number of the deleted record is not given again. -/
theorem identity_of_run_forgery :
    ∃ exchanges s, empty.run forgery = (exchanges, s) ∧
      numbersGiven exchanges = List.range' 1 3 ∧
      s.models = [("note", [(1, [("text", .str "b")])]), ("task", [(3, [])])] ∧
      (∀ model' record', (3, record') ∈ s.table model' → model' = "task" ∧ record' = []) ∧
      ∃ names es, (s.answer ⟨"note", "search_read", [], []⟩).1 = .ok (handedOut names es) ∧
        ∀ e ∈ es, (project names e.1 e.2).get? "id" = some (.ofNat e.1) := by
  have hrun : empty.run forgery = _ := rfl
  obtain ⟨-, halone, hnumbers, -, hrows⟩ := identity_of_run hrun
  obtain ⟨-, -, -, hthird⟩ := halone "task" 3 [] (List.mem_singleton.mpr rfl)
  obtain ⟨names, es, heq, hes⟩ :=
    hrows ⟨"note", "search_read", [], []⟩ _ _ (.inl rfl) rfl
  exact ⟨_, _, hrun, hnumbers, rfl, hthird, names, es, congrArg Except.ok heq,
    fun e he => (hes e he).2⟩

end Store

end CommandConsole.Records
