import CommandConsole.Proofs.Records.Layout
import CommandConsole.Proofs.Records.Search
import CommandConsole.Proofs.Session.Setup

/-!
# What a search shows

A search shows a table with one line for each record of the model that meets all terms of its
domain, in the order of the numbers. In a line the number comes first, and then the fields that are
asked for, in that order, or else all that some of these records has, by name. Which lines there are
depends on nothing but which terms the domain has (`search_lists_matching`).

On the way from the store to the table a record goes through a row. There an unset field that is
asked for is false, and false is shown as nothing, so it does not matter whether a field was left
out or was never there (`cell_project`).
-/

set_option autoImplicit false

namespace CommandConsole

namespace Records

variable {record : Json.Fields} {names : Option (List String)}
  {name : String} {found : Table} {id : Nat}

/-! ## Cells -/

theorem display_ofNat (id : Nat) : display (.ofNat id) = id.repr := by
  show String.ofList (Int.repr id).toList = id.repr
  rw [String.ofList_toList]
  rfl

/-- What a record shows in a cell under the name of a field. -/
def shownAs (name : String) (record : Json.Fields) : String :=
  ((Assoc.find? name record).map display).getD ""

/-- The line of a record. -/
def line (names : List String) (e : Nat × Json.Fields) : List String :=
  e.1.repr :: names.map fun name => shownAs name e.2

theorem cell_id (h : "id" ∉ Assoc.keys record) (names : Option (List String)) (id : Nat) :
    cell (Store.project names id record) "id" = id.repr := by
  rw [cell, Store.get?_project h, ← display_ofNat]
  rfl

/-- **The cell of a record under the name of a field**, whether the record has the field or not. -/
theorem cell_project (hfields : Assoc.Sorted record) (hid : "id" ∉ Assoc.keys record)
    (hname : name ≠ "id") (hasked : ∀ asked ∈ names, name ∈ asked) (id : Nat) :
    cell (Store.project names id record) name = shownAs name record := by
  rw [cell, Store.get?_project_eq hfields hid, shownAs]
  unfold Store.shown
  rw [if_neg hname]
  cases names with
  | none => rfl
  | some asked =>
      show ((if name ∈ asked then _ else none).map display).getD "" = _
      rw [if_pos (hasked asked rfl)]
      -- a field that the record does not have is false in the row, and false is shown as nothing
      cases Assoc.find? name record <;> rfl

/-! ## Columns -/

theorem mem_keys_project_none :
    name ∈ Assoc.keys ((Store.project none id record).obj?.getD []) ↔
      name = "id" ∨ name ∈ Assoc.keys record := by
  show name ∈ Assoc.keys (Assoc.union [("id", Json.ofNat id)] record) ↔ _
  rw [Assoc.mem_keys_union]
  simp [Assoc.keys]

/-- The columns of rows with all fields are the fields of the records. -/
theorem mem_columns (hid : ∀ e ∈ found, "id" ∉ Assoc.keys e.2) :
    name ∈ columns none (found.map fun e => Store.project none e.1 e.2) ↔
      ∃ e ∈ found, name ∈ Assoc.keys e.2 := by
  rw [mem_columns_iff]
  simp only [List.mem_map, exists_exists_and_eq_and, isSome_get?_iff, mem_keys_project_none]
  constructor
  · rintro ⟨hne, e, he, heq | hmem⟩
    · exact absurd heq hne
    · exact ⟨e, he, hmem⟩
  · rintro ⟨e, he, hmem⟩
    exact ⟨fun heq => hid e he (heq ▸ hmem), e, he, .inr hmem⟩

/-- **The table of records**, with a line for each of them. -/
theorem table_handedOut (hfields : ∀ e ∈ found, Assoc.Sorted e.2)
    (hid : ∀ e ∈ found, "id" ∉ Assoc.keys e.2) (names : Option (List String)) :
    ∃ columns, table (Store.handedOut names found) names =
        .ok (.table ("ID" :: columns.map header) (found.map (line columns))) ∧
      match names with
      | some asked => columns = asked.filter (· ≠ "id")
      | none => columns.Pairwise (· < ·) ∧
          ∀ name, name ∈ columns ↔ ∃ e ∈ found, name ∈ Assoc.keys e.2 := by
  let headed := columns names (found.map fun e => Store.project names e.1 e.2)
  refine ⟨headed, ?_, ?_⟩
  · -- each line is made of a row, cell by cell
    have hrows : (found.map fun e => Store.project names e.1 e.2).map
        (fun r => cell r "id" :: headed.map (cell r)) = found.map (line headed) := by
      rw [List.map_map]
      refine List.map_congr_left fun e he => ?_
      have hcells : ∀ name ∈ headed,
          cell (Store.project names e.1 e.2) name = shownAs name e.2 := by
        intro name hname
        obtain ⟨hmem, hne⟩ := List.mem_filter.mp hname
        refine cell_project (hfields e he) (hid e he) (of_decide_eq_true hne) ?_ e.1
        intro asked hasked
        rw [Option.mem_def.mp hasked] at hmem
        exact hmem
      rw [Function.comp_apply, cell_id (hid e he), line, List.map_congr_left hcells]
    rw [← hrows]
    rfl
  · cases names with
    | some asked => rfl
    | none => exact ⟨pairwise_columns _, fun name => mem_columns hid⟩

end Records

namespace Session

open Records (readDomain readFields)
open Records.Condition (Lists)
open Records.Store (empty matching handedOut)

variable {s s₁ : Session} {store : Records.Store} {model fieldList : String}
  {domain : Option String} {d : Json} {items : List Json} {cs : List Records.Condition}
  {calls : List Records.Call} {exchanges : List (Records.Call × Records.Returned)}

/-- A request that leaves the records as they are is noted, and that is all. -/
theorem callBackend_of_look {r : Request} {reply : Records.Store.Reply}
    (hbackend : s.backend = .records store) (hanswer : store.answer r = (reply, store)) :
    s.callBackend r = (reply, s.report .trace s!"memory call {r.model}.{r.method}") := by
  have hrecords := (backend_report s .trace s!"memory call {r.model}.{r.method}").trans hbackend
  simp only [callBackend, hbackend, hanswer]
  rw [← hrecords]

theorem run_search {records : Json} {output : Output} (hdomain : readDomain domain = .ok d)
    (hcall : s.callBackend (Vocabulary.searchRequest model (readFields fieldList) d) =
      (.ok records, s₁))
    (htable : Records.table records (readFields fieldList) = .ok output) :
    s.run (Vocabulary.search model fieldList domain).run = some (.ok output, s₁.report .trace
      s!"search {model}: {(records.arr?.getD []).length} record(s)") := by
  let called := s.callBackend (Vocabulary.searchRequest model (readFields fieldList) d)
  have hrun : s.run (Vocabulary.search model fieldList domain).run = called.2.run (do
      let records ← Action.expect called.1
      Action.log .trace s!"search {model}: {(records.arr?.getD []).length} record(s)"
      Action.ofExcept (Records.table records (readFields fieldList)) : Action Output).run := by
    rw [Vocabulary.search, hdomain]
    rfl
  have hcalled : called = (.ok records, s₁) := hcall
  rw [hrun, hcalled]
  show (s₁.report .trace _).run (Action.ofExcept (Records.table records _) : Action Output).run = _
  rw [htable]
  rfl

/-- A search on records in memory. -/
theorem run_search_records (hbackend : s.backend = .records store)
    (hdomain : readDomain domain = .ok (.arr items)) (hitems : Lists items cs)
    {output : Output} (htable : Records.table
      (handedOut (readFields fieldList) (store.matching model cs)) (readFields fieldList) =
        .ok output) :
    s.run (Vocabulary.search model fieldList domain).run = some (.ok output,
      (s.report .trace ("memory call " ++ model ++ "." ++ "search_read")).report .trace
        s!"search {model}: {(store.matching model cs).length} record(s)") := by
  have hanswer : store.answer (Vocabulary.searchRequest model (readFields fieldList) (.arr items)) =
      (.ok (handedOut (readFields fieldList) (store.matching model cs)), store) := by
    rw [Records.Store.answer_of_search rfl, Records.Store.search_of_lists hitems]
  have hcount : ((handedOut (readFields fieldList) (store.matching model cs)).arr?.getD []).length =
      (store.matching model cs).length := List.length_map ..
  rw [run_search hdomain (callBackend_of_look hbackend hanswer) htable, hcount]
  rfl

/-- **A search shows exactly the records that match.** Calls are made of a store that was empty, and
it is the backend of a session. Then a search, with any model, field list and domain of terms and
conjunctions, shows a table with one line for each record of the model that meets all terms, in the
order of their numbers; the number comes first, and then what the record has under each of the named
fields, or nothing. The columns are those of the field list, in its order, or else all fields of
these records, by name. Any other domain with the same terms, in whatever order, however often and
with whatever conjunctions between them, shows the same. -/
theorem search_lists_matching (hrun : empty.run calls = (exchanges, store))
    (hcalls : ∀ c ∈ calls, c.InOrder) (hbackend : s.backend = .records store)
    (hdomain : readDomain domain = .ok (.arr items)) (hitems : Lists items cs)
    (model fieldList : String) :
    ∃ found names s',
      s.run (Vocabulary.search model fieldList domain).run = some (.ok (.table
        ("ID" :: names.map Records.header) (found.map (Records.line names))), s') ∧
      s'.backend = s.backend ∧
      Assoc.Sorted found ∧
      (∀ e, e ∈ found ↔ e ∈ store.table model ∧ ∀ c ∈ cs, c.meets e.1 e.2 = true) ∧
      (match readFields fieldList with
        | some asked => names = asked.filter (· ≠ "id")
        | none => names.Pairwise (· < ·) ∧
            ∀ name, name ∈ names ↔ ∃ e ∈ found, name ∈ Assoc.keys e.2) ∧
      ∀ domain' items' cs', readDomain domain' = .ok (.arr items') → Lists items' cs' →
        (∀ c, c ∈ cs' ↔ c ∈ cs) →
        s.run (Vocabulary.search model fieldList domain').run =
          s.run (Vocabulary.search model fieldList domain).run := by
  have hstore : store.InOrder := Records.Store.inOrder_run Records.Store.inOrder_empty hcalls hrun
  have htable (e : Nat × Json.Fields) (he : e ∈ store.matching model cs) :
      e ∈ store.table model := (Records.Store.mem_matching.mp he).1
  obtain ⟨names, hlines, hnames⟩ := Records.table_handedOut
    (fun e he => hstore.fields model e (htable e he))
    (fun e he => hstore.unnumbered model e (htable e he)) (readFields fieldList)
  have hshown := run_search_records hbackend hdomain hitems hlines
  refine ⟨store.matching model cs, names, _, hshown, by simp,
    Records.Store.sorted_matching hstore.toSound model cs,
    fun e => Records.Store.mem_matching, hnames, ?_⟩
  -- the terms count only as a set, and the conjunctions are gone when the terms have been read
  intro domain' items' cs' hdomain' hitems' hsame
  have hmatching := Records.Store.matching_congr hsame store model
  rw [hshown, run_search_records hbackend hdomain' hitems' (hmatching ▸ hlines), hmatching]

/-- Notes with different fields, and a task among them. -/
def variedNotes : List Records.Call :=
  [.insert "note" (.obj [("done", .bool false), ("text", .str "a")]),
    .insert "task" (.obj [("text", .str "a")]), .insert "note" (.obj [("text", .str "b")]),
    .insert "note" (.obj [("done", .bool true)]), .insert "note" (.obj [("rank", .int 1)])]

/-- A session on them. -/
def withNotesInMemory : Session := { start with backend := .records (empty.run variedNotes).2 }

/-- Notes that are not done, without the last one. -/
def undone : String := "[['done', '=', false], '&', ['id', '!=', 5]]"

/-- The same notes, asked for in another way. -/
def undoneAgain : String := "['&', ['id', '!=', 5], ['done', '=', false], '&', ['id', '!=', 5]]"

theorem search_lists_matching_varied :
    (∀ c ∈ variedNotes, c.InOrder) ∧
    ∃ items cs, readDomain (some undone) = .ok (.arr items) ∧ Lists items cs ∧
      ∃ found names s',
        withNotesInMemory.run (Vocabulary.search "note" "text, done,id" (some undone)).run =
          some (.ok (.table ("ID" :: names.map Records.header) (found.map (Records.line names))),
            s') ∧
        found.map (Records.line names) = [["1", "a", ""], ["3", "b", ""]] ∧
        names = ["text", "done"] ∧ Assoc.Sorted found ∧
        withNotesInMemory.run (Vocabulary.search "note" "text, done,id" (some undoneAgain)).run =
          withNotesInMemory.run (Vocabulary.search "note" "text, done,id" (some undone)).run := by
  have hcalls : ∀ c ∈ variedNotes, c.InOrder := by
    have hfirst : Assoc.Sorted [("done", Json.bool false), ("text", Json.str "a")] := by
      decide +kernel
    simpa [variedNotes, Records.Call.InOrder, Json.InOrder, Json.obj?, Assoc.Sorted, Assoc.keys]
      using hfirst
  have hrun : empty.run variedNotes = (_, (empty.run variedNotes).2) := rfl
  have hbackend : withNotesInMemory.backend = .records (empty.run variedNotes).2 := rfl
  have hdomain : readDomain (some undone) = .ok (.arr
      [.arr [.str "done", .str "=", .bool false], .str "&",
        .arr [.str "id", .str "!=", .int 5]]) := rfl
  have hagain : readDomain (some undoneAgain) = .ok (.arr
      [.str "&", .arr [.str "id", .str "!=", .int 5], .arr [.str "done", .str "=", .bool false],
        .str "&", .arr [.str "id", .str "!=", .int 5]]) := rfl
  have hitems := Lists.term ⟨"done", "=", .bool false⟩ (.and (.term ⟨"id", "!=", .int 5⟩ .nil))
  have hitems' := Lists.and (.term ⟨"id", "!=", .int 5⟩
    (.term ⟨"done", "=", .bool false⟩ (.and (.term ⟨"id", "!=", .int 5⟩ .nil))))
  obtain ⟨found, names, s', hshown, -, hsorted, -, hnames, hsame⟩ :=
    search_lists_matching hrun hcalls hbackend hdomain hitems "note" "text, done,id"
  have heval : (withNotesInMemory.run
      (Vocabulary.search "note" "text, done,id" (some undone)).run).map Prod.fst =
      some (.ok (.table ["ID", "TEXT", "DONE"] [["1", "a", ""], ["3", "b", ""]])) := by
    decide +kernel
  rw [hshown] at heval
  obtain ⟨-, hlines⟩ := Output.table.inj (Except.ok.inj (Option.some.inj heval))
  exact ⟨hcalls, _, _, hdomain, hitems, found, names, s', hshown, hlines, hnames, hsorted,
    hsame _ _ _ hagain hitems' (by simp [or_comm])⟩

end Session

end CommandConsole
