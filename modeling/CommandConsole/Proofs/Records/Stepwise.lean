import CommandConsole.Proofs.Records.Calls

/-!
# Requests that are worked off step by step

A write or a deletion names any number of records, and `answer` says at once what becomes of them.
Step by step it goes like this (`stepwise`): the model gets a table, if it had none; the numbers are
looked for; and then the records are changed one after another, in a write field by field. A number
that is named twice has its turn twice.

The two agree: the answer is the same, and the stores that are left behind show the same
(`stepwise_alike`). They need not be the same store, since a request that fails at a missing record
leaves a table without records. Nobody can tell it from none, so a request that fails has changed
nothing that could be seen (`failed_request_shows_nothing`).
-/

set_option autoImplicit false

namespace CommandConsole.Records.Store

/-! ## Steps -/

/-- A value put under a name of the record with a number. -/
def putField (id : Int) (t : Table) (f : String × Json) : Table :=
  if f.1 = "id" then t
  else t.map fun e => if (e.1 : Int) = id then (e.1, Assoc.insert f.1 f.2 e.2) else e

/-- Values put on the record with a number, one after another. -/
def putFields (values : Json.Fields) (t : Table) (id : Int) : Table :=
  values.foldl (putField id) t

/-- The records without the one with a number. -/
def remove (t : Table) (id : Int) : Table := t.filter fun e => (e.1 : Int) ≠ id

/-- The model has a table from now on. -/
def entered (s : Store) (model : String) : Store := s.withTable model (s.table model)

/-- A write, step by step. -/
def writeStepwise (s : Store) (r : Request) : Reply × Store :=
  match ids r.args.head? with
  | .error e => (.error e, s)
  | .ok numbers =>
      match r.args[1]? with
      | some (Json.obj values) =>
          let s := s.entered r.model
          let t := s.table r.model
          match firstMissing? t numbers with
          | some id => (.error (noRecord r.model id), s)
          | none => (.ok (.bool true), s.withTable r.model (numbers.foldl (putFields values) t))
      | _ => (.error "write expects a values object", s)

/-- A deletion, step by step. -/
def unlinkStepwise (s : Store) (r : Request) : Reply × Store :=
  match ids r.args.head? with
  | .error e => (.error e, s)
  | .ok numbers =>
      let s := s.entered r.model
      let t := s.table r.model
      match firstMissing? t numbers with
      | some id => (.error (noRecord r.model id), s)
      | none => (.ok (.bool true), s.withTable r.model (numbers.foldl remove t))

/-- The answer to a request that is worked off step by step, and the store behind it. -/
def stepwise (s : Store) (r : Request) : Reply × Store :=
  match r.method with
  | "write" => s.writeStepwise r
  | "unlink" => s.unlinkStepwise r
  | _ => s.answer r

variable {s : Store} {r : Request} {e : String}

/-! ## The steps taken together -/

/-- Field by field, a record gets all values. -/
theorem putFields_eq (values : Json.Fields) (t : Table) (id : Int) :
    putFields values t id =
      t.map fun e => if (e.1 : Int) = id then (e.1, update values e.2) else e := by
  induction values generalizing t with
  | nil =>
      have hnone : ∀ record, update [] record = record := fun _ => rfl
      simp [putFields, hnone]
  | cons f values ih =>
      have hcons : putFields (f :: values) t id = putFields values (putField id t f) id := rfl
      rw [hcons, ih, putField]
      by_cases hid : f.1 = "id"
      · simp [hid, update]
      · rw [if_neg hid, List.map_map]
        refine List.map_congr_left fun e _ => ?_
        by_cases he : (e.1 : Int) = id
        · simp [he, update, hid, Assoc.union]
        · simp [he]

/-- Record by record, all that are named get the values, however often they are named. -/
theorem foldl_putFields (values : Json.Fields) (numbers : List Int) (t : Table) :
    numbers.foldl (putFields values) t = rewritten numbers values t := by
  induction numbers generalizing t with
  | nil => simp [rewritten]
  | cons id numbers ih =>
      rw [List.foldl_cons, ih, putFields_eq, rewritten, rewritten, List.map_map]
      refine List.map_congr_left fun e _ => ?_
      by_cases he : (e.1 : Int) = id
      · -- a record that is named again has the values already
        have htwice : update values (update values e.2) = update values e.2 :=
          Assoc.union_union_self ..
        simp [he, htwice]
      · simp [he]

theorem foldl_remove (numbers : List Int) (t : Table) :
    numbers.foldl remove t = without numbers t := by
  induction numbers generalizing t with
  | nil => simp [without]
  | cons id numbers ih =>
      rw [List.foldl_cons, ih, without, without, remove, List.filter_filter]
      refine List.filter_congr fun e _ => ?_
      by_cases he : (e.1 : Int) = id <;> simp [he]

/-! ## Step by step and at once -/

theorem alike_entered (s : Store) (model : String) : s.Alike (s.entered model) := by
  refine ⟨rfl, fun other => ?_⟩
  by_cases hother : other = model
  · rw [hother, entered, table_withTable]
  · rw [entered, table_withTable_of_ne hother]

theorem entered_withTable (s : Store) (model : String) (t : Table) :
    (s.entered model).withTable model t = s.withTable model t := by
  simp [entered, withTable, Assoc.insert_insert_self]

theorem writeStepwise_alike (s : Store) (r : Request) :
    (s.writeStepwise r).1 = (s.changed (s.write r)).1 ∧
      (s.changed (s.write r)).2.Alike (s.writeStepwise r).2 := by
  unfold writeStepwise write
  cases ids r.args.head? with
  | error e => exact ⟨rfl, .refl s⟩
  | ok numbers =>
      simp only [bind, Except.bind]
      rcases r.args[1]? with _ | v
      · exact ⟨rfl, .refl s⟩
      · cases v with
        | obj values =>
            simp only [(alike_entered s r.model).table]
            cases firstMissing? (s.table r.model) numbers with
            | some id => exact ⟨rfl, alike_entered s r.model⟩
            | none =>
                refine ⟨rfl, ?_⟩
                simp only [foldl_putFields, entered_withTable]
                exact .refl _
        | _ => exact ⟨rfl, .refl s⟩

theorem unlinkStepwise_alike (s : Store) (r : Request) :
    (s.unlinkStepwise r).1 = (s.changed (s.unlink r)).1 ∧
      (s.changed (s.unlink r)).2.Alike (s.unlinkStepwise r).2 := by
  unfold unlinkStepwise unlink
  cases ids r.args.head? with
  | error e => exact ⟨rfl, .refl s⟩
  | ok numbers =>
      simp only [bind, Except.bind]
      rw [(alike_entered s r.model).table]
      cases firstMissing? (s.table r.model) numbers with
      | some id => exact ⟨rfl, alike_entered s r.model⟩
      | none =>
          refine ⟨rfl, ?_⟩
          simp only [foldl_remove, entered_withTable]
          exact .refl _

/-- **Worked off step by step, a request has the same answer** and leaves a store that shows the
same. -/
theorem stepwise_alike (s : Store) (r : Request) :
    (s.stepwise r).1 = (s.answer r).1 ∧ (s.answer r).2.Alike (s.stepwise r).2 := by
  unfold stepwise
  split
  · next hmethod =>
      have hanswer : s.answer r = s.changed (s.write r) := by
        unfold answer
        rw [hmethod]
        rfl
      rw [hanswer]
      exact s.writeStepwise_alike r
  · next hmethod =>
      have hanswer : s.answer r = s.changed (s.unlink r) := by
        unfold answer
        rw [hmethod]
        rfl
      rw [hanswer]
      exact s.unlinkStepwise_alike r
  · exact ⟨rfl, .refl _⟩

/-- **A request that fails shows nothing.** On any store, for any request: if it fails, then all
calls that follow, however many and whatever they ask for, return what they would have returned
without it. That holds too where the request is worked off step by step and fails on the way. -/
theorem failed_request_shows_nothing (h : (s.answer r).1 = .error e) (later : List Call) :
    ((s.answer r).2.run later).1 = (s.run later).1 ∧
    (s.stepwise r).1 = .error e ∧ ((s.stepwise r).2.run later).1 = (s.run later).1 := by
  obtain ⟨hreply, halike⟩ := s.stepwise_alike r
  rw [answer_of_error h] at halike ⊢
  exact ⟨rfl, hreply.trans h, halike.run later⟩

/-- A store with one record. -/
def oneNote : Store := (empty.insert "note" [("text", .str "a")]).2

/-- A write to a batch of records that names one twice and then one that is not there. -/
def brokenBatch : Request :=
  ⟨"note", "write", [.arr [.int 1, .int 1, .int 9], .obj [("text", .str "b")]], []⟩

theorem failed_request_shows_nothing_batch :
    (oneNote.answer brokenBatch).1 = .error "Record note(9) does not exist" ∧
      (oneNote.stepwise brokenBatch).1 = .error "Record note(9) does not exist" ∧
      ∀ later, ((oneNote.answer brokenBatch).2.run later).1 = (oneNote.run later).1 ∧
        ((oneNote.stepwise brokenBatch).2.run later).1 = (oneNote.run later).1 := by
  have hfails : (oneNote.answer brokenBatch).1 = .error "Record note(9) does not exist" := rfl
  refine ⟨hfails, (failed_request_shows_nothing hfails []).2.1, fun later => ?_⟩
  obtain ⟨hanswer, -, hstepwise⟩ := failed_request_shows_nothing hfails later
  exact ⟨hanswer, hstepwise⟩

end CommandConsole.Records.Store
