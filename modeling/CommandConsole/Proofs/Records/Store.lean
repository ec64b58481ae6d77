import CommandConsole.Proofs.Assoc
import CommandConsole.Proofs.Except
import CommandConsole.Records.Store

/-!
# Answers of a store of records

What a request does to the records, said once for all that is proved of stores: it makes a record,
rewrites records of its model, deletes some of them, or leaves the store as it is (`answer_cases`).
One that fails is of the last kind, whatever it asks for (`answer_of_error`), and so is one that
only looks (`answer_of_search`, `answer_of_read`).
-/

set_option autoImplicit false

namespace CommandConsole

theorem Json.int64?_eq_some_iff {v : Json} {n : Int} :
    v.int64? = some n ↔ v = .int n ∧ Number.isInt64 n = true := by
  cases v with
  | int m =>
      have hword : (Json.int m).int64? = some n ↔ Number.isInt64 m = true ∧ m = n := by
        simp [Json.int64?]
      rw [hword, Json.int.injEq, and_comm]
      exact and_congr_right fun heq => by rw [heq]
  | _ => simp [Json.int64?]

namespace Records.Store

variable {s : Store} {r : Request} {e : String} {model other : String} {t : Table}
  {values : Json.Fields}

/-! ## Tables -/

@[simp] theorem table_empty (model : String) : empty.table model = [] := rfl

theorem table_withTable (s : Store) (model : String) (t : Table) :
    (s.withTable model t).table model = t := by
  simp [withTable, table, Assoc.find?_insert_self]

theorem table_withTable_of_ne (h : other ≠ model) (s : Store) (t : Table) :
    (s.withTable model t).table other = s.table other := by
  simp [withTable, table, Assoc.find?_insert_of_ne h]

@[simp] theorem lastId_withTable (s : Store) (model : String) (t : Table) :
    (s.withTable model t).lastId = s.lastId := rfl

@[simp] theorem lastId_insert (s : Store) (model : String) (values : Json.Fields) :
    (s.insert model values).2.lastId = s.lastId + 1 := rfl

theorem table_insert (s : Store) (model : String) (values : Json.Fields) :
    (s.insert model values).2.table model =
      Assoc.insert (s.lastId + 1) (Assoc.erase "id" values) (s.table model) :=
  table_withTable ..

theorem table_insert_of_ne (h : other ≠ model) (s : Store) (values : Json.Fields) :
    (s.insert model values).2.table other = s.table other :=
  table_withTable_of_ne h ..

/-- The records of a table with values put on those that have one of the numbers. -/
def rewritten (ids : List Int) (values : Json.Fields) (t : Table) : Table :=
  t.map fun e => if ids.contains (e.1 : Int) then (e.1, update values e.2) else e

/-- A record under its number, with values put on it if it has one of the numbers. -/
def rewrite (ids : List Int) (values : Json.Fields) (f : Nat × Json.Fields) : Nat × Json.Fields :=
  if ids.contains (f.1 : Int) then (f.1, update values f.2) else f

theorem rewritten_eq (ids : List Int) (values : Json.Fields) (t : Table) :
    rewritten ids values t = t.map (rewrite ids values) := rfl

theorem rewrite_fst (ids : List Int) (values : Json.Fields) (f : Nat × Json.Fields) :
    (rewrite ids values f).1 = f.1 := by
  rw [rewrite]
  split <;> rfl

theorem rewrite_of_mem {ids : List Int} {f : Nat × Json.Fields} (h : (f.1 : Int) ∈ ids) :
    rewrite ids values f = (f.1, update values f.2) := by
  simp [rewrite, h]

theorem rewrite_of_not_mem {ids : List Int} {f : Nat × Json.Fields} (h : (f.1 : Int) ∉ ids) :
    rewrite ids values f = f := by
  simp [rewrite, h]

/-- The records of a table without those that have one of the numbers. -/
def without (ids : List Int) (t : Table) : Table := t.filter fun e => !ids.contains (e.1 : Int)

@[simp] theorem keys_rewritten (ids : List Int) (values : Json.Fields) (t : Table) :
    Assoc.keys (rewritten ids values t) = Assoc.keys t :=
  Assoc.keys_map (rewrite_fst ids values) t

theorem keys_without_sublist (ids : List Int) (t : Table) :
    (Assoc.keys (without ids t)).Sublist (Assoc.keys t) :=
  List.filter_sublist.map Prod.fst

/-! ## Requests -/

theorem changed_of_error {reply : Except String (Json × Store)}
    (h : (s.changed reply).1 = .error e) : (s.changed reply).2 = s := by
  cases reply with
  | error _ => rfl
  | ok _ => contradiction

/-- **A request that fails changes nothing.** -/
theorem answer_of_error (h : (s.answer r).1 = .error e) : (s.answer r).2 = s := by
  unfold answer at h ⊢
  split at h
  · rfl
  · rfl
  · exact changed_of_error h
  · exact changed_of_error h
  · exact changed_of_error h
  · rfl

theorem answer_of_search (h : r.method = "search_read") : s.answer r = (s.search r, s) := by
  unfold answer
  rw [h]
  rfl

theorem answer_of_read (h : r.method = "read") : s.answer r = (s.read r, s) := by
  unfold answer
  rw [h]
  rfl

/-- A search changes nothing. -/
theorem answer_search (h : r.method = "search_read") : (s.answer r).2 = s := by
  rw [answer_of_search h]

/-- A creation that succeeds has an object of values. -/
theorem exists_of_create_ok {v : Json} {s' : Store} (h : s.create r = .ok (v, s')) :
    ∃ values, r.args.head? = some (.obj values) ∧ v = .ofNat (s.lastId + 1) ∧
      s' = (s.insert r.model values).2 := by
  unfold create at h
  split at h
  · next values hargs =>
      obtain ⟨rfl, rfl⟩ := Prod.mk.inj (Except.ok.inj h)
      exact ⟨values, hargs, rfl, rfl⟩
  · contradiction

/-- A write that succeeds has numbers of records that are all there, and an object of values. -/
theorem exists_of_write_ok {v : Json} {s' : Store} (h : s.write r = .ok (v, s')) :
    ∃ numbers values, ids r.args.head? = .ok numbers ∧ r.args[1]? = some (.obj values) ∧
      firstMissing? (s.table r.model) numbers = none ∧ v = .bool true ∧
      s' = s.withTable r.model (rewritten numbers values (s.table r.model)) := by
  unfold write at h
  obtain ⟨numbers, hids, h⟩ := exists_of_bind h
  split at h
  · next values hargs =>
      cases hmissing : firstMissing? (s.table r.model) numbers with
      | some id => simp [hmissing] at h
      | none =>
          simp only [hmissing] at h
          obtain ⟨rfl, rfl⟩ := Prod.mk.inj (Except.ok.inj h)
          exact ⟨numbers, values, hids, hargs, hmissing, rfl, rfl⟩
  · contradiction

/-- A deletion that succeeds has numbers of records that are all there. -/
theorem exists_of_unlink_ok {v : Json} {s' : Store} (h : s.unlink r = .ok (v, s')) :
    ∃ numbers, ids r.args.head? = .ok numbers ∧
      firstMissing? (s.table r.model) numbers = none ∧ v = .bool true ∧
      s' = s.withTable r.model (without numbers (s.table r.model)) := by
  unfold unlink at h
  obtain ⟨numbers, hids, h⟩ := exists_of_bind h
  cases hmissing : firstMissing? (s.table r.model) numbers with
  | some id => simp [hmissing] at h
  | none =>
      simp only [hmissing] at h
      obtain ⟨rfl, rfl⟩ := Prod.mk.inj (Except.ok.inj h)
      exact ⟨numbers, hids, hmissing, rfl, rfl⟩

/-- **What a request does.** It makes a record, and then it was a creation that succeeded; or it
rewrites or deletes records of its model; or it changes nothing. -/
theorem answer_cases (s : Store) (r : Request) :
    (∃ values, r.method = "create" ∧ r.args.head? = some (.obj values) ∧
      s.answer r = (.ok (.ofNat (s.lastId + 1)), (s.insert r.model values).2)) ∨
    (∃ numbers values, r.method = "write" ∧ s.answer r =
      (.ok (.bool true), s.withTable r.model (rewritten numbers values (s.table r.model)))) ∨
    (∃ numbers, r.method = "unlink" ∧ s.answer r =
      (.ok (.bool true), s.withTable r.model (without numbers (s.table r.model)))) ∨
    ((s.answer r).2 = s ∧ (r.method = "create" → ∃ e, (s.answer r).1 = .error e)) := by
  have hother {m : String} (hmethod : r.method = m) (hm : m ≠ "create") {P : Prop}
      (h : r.method = "create") : P := absurd (hmethod.symm.trans h) hm
  unfold answer
  split
  · next hmethod => exact .inr (.inr (.inr ⟨rfl, hother hmethod (by decide)⟩))
  · next hmethod => exact .inr (.inr (.inr ⟨rfl, hother hmethod (by decide)⟩))
  · next hmethod =>
      cases hcreate : s.create r with
      | error e => exact .inr (.inr (.inr ⟨rfl, fun _ => ⟨e, rfl⟩⟩))
      | ok made =>
          obtain ⟨values, hargs, hv, hs⟩ := exists_of_create_ok hcreate
          exact .inl ⟨values, hmethod, hargs, congrArg₂ (fun v t => (Except.ok v, t)) hv hs⟩
  · next hmethod =>
      cases hwrite : s.write r with
      | error e => exact .inr (.inr (.inr ⟨rfl, hother hmethod (by decide)⟩))
      | ok made =>
          obtain ⟨numbers, values, -, -, -, hv, hs⟩ := exists_of_write_ok hwrite
          exact .inr (.inl ⟨numbers, values, hmethod,
            congrArg₂ (fun v t => (Except.ok v, t)) hv hs⟩)
  · next hmethod =>
      cases hunlink : s.unlink r with
      | error e => exact .inr (.inr (.inr ⟨rfl, hother hmethod (by decide)⟩))
      | ok made =>
          obtain ⟨numbers, -, -, hv, hs⟩ := exists_of_unlink_ok hunlink
          exact .inr (.inr (.inl ⟨numbers, hmethod, congrArg₂ (fun v t => (Except.ok v, t)) hv hs⟩))
  · exact .inr (.inr (.inr ⟨rfl, fun _ => ⟨_, rfl⟩⟩))

end Records.Store

end CommandConsole
