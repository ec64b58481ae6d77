import CommandConsole.Proofs.Records.Store

/-!
# Calls of a store of records

Records are put into a store directly, counted, and asked for with requests, one call after another
(`run`). Calls that look the same on two stores are told apart by nothing but what the stores show:
the number given last and the records of each model. Stores that are alike in that (`Alike`) return
the same to all calls, however many (`Alike.run`).
-/

set_option autoImplicit false

namespace CommandConsole.Records

/-- What a store is asked. A record that is put in has the fields of an object; any other value has
none. -/
inductive Call where
  | insert (model : String) (values : Json)
  | count (model : String)
  | request (r : Request)

/-- What a call returns. -/
inductive Returned where
  | number (id : Nat)
  | size (n : Nat)
  | reply (r : Store.Reply)

namespace Store

/-- What a call returns and leaves behind. -/
def call (s : Store) : Call → Returned × Store
  | .insert model values =>
      let (id, s) := s.insert model (values.obj?.getD [])
      (.number id, s)
  | .count model => (.size (s.count model), s)
  | .request r =>
      let (reply, s) := s.answer r
      (.reply reply, s)

/-- Calls one after another, each with what it returns, and what they leave behind. -/
def run (s : Store) : List Call → List (Call × Returned) × Store
  | [] => ([], s)
  | c :: calls =>
      let (returned, s) := s.call c
      let (exchanges, s) := run s calls
      ((c, returned) :: exchanges, s)

variable {s s' : Store} {r : Request} {c : Call} {calls : List Call}
  {exchanges : List (Call × Returned)}

theorem exists_of_run_cons (h : s.run (c :: calls) = (exchanges, s')) :
    ∃ returned s₁ rest, s.call c = (returned, s₁) ∧ s₁.run calls = (rest, s') ∧
      exchanges = (c, returned) :: rest := by
  obtain ⟨hexchanges, hs'⟩ := Prod.mk.inj h
  exact ⟨_, _, _, rfl, Prod.ext rfl hs', hexchanges.symm⟩

/-! ## Stores that look the same -/

/-- Stores that show the same: they have the same records and give the same number next. -/
structure Alike (s s' : Store) : Prop where
  lastId : s'.lastId = s.lastId
  table : ∀ model, s'.table model = s.table model

/-- Except that they may have changed alike, two stores stay alike. -/
def AlikeBehind : Except String (Json × Store) → Except String (Json × Store) → Prop
  | .ok (v, t), .ok (v', t') => v' = v ∧ t.Alike t'
  | .error e, .error e' => e' = e
  | _, _ => False

namespace Alike

theorem refl (s : Store) : s.Alike s := ⟨rfl, fun _ => rfl⟩

theorem withTable (h : s.Alike s') (model : String) (t : Table) :
    (s.withTable model t).Alike (s'.withTable model t) := by
  refine ⟨h.lastId, fun other => ?_⟩
  by_cases hother : other = model
  · rw [hother, table_withTable, table_withTable]
  · rw [table_withTable_of_ne hother, table_withTable_of_ne hother, h.table]

theorem insert (h : s.Alike s') (model : String) (values : Json.Fields) :
    (s'.insert model values).1 = (s.insert model values).1 ∧
      (s.insert model values).2.Alike (s'.insert model values).2 := by
  refine ⟨congrArg (· + 1) h.lastId, congrArg (· + 1) h.lastId, fun other => ?_⟩
  by_cases hother : other = model
  · rw [hother, table_insert, table_insert, h.lastId, h.table]
  · rw [table_insert_of_ne hother, table_insert_of_ne hother, h.table]

theorem looked (h : s.Alike s') {reply reply' : Reply} (heq : reply' = reply) :
    (s'.looked reply').1 = (s.looked reply).1 ∧ (s.looked reply).2.Alike (s'.looked reply').2 :=
  ⟨heq, h⟩

theorem changed (h : s.Alike s') {reply reply' : Except String (Json × Store)}
    (hbehind : AlikeBehind reply reply') :
    (s'.changed reply').1 = (s.changed reply).1 ∧
      (s.changed reply).2.Alike (s'.changed reply').2 := by
  match reply, reply', hbehind with
  | .ok (v, t), .ok (v', t'), ⟨hv, ht⟩ => exact ⟨congrArg Except.ok hv, ht⟩
  | .error e, .error e', he => exact ⟨congrArg Except.error he, h⟩

theorem create (h : s.Alike s') (r : Request) : AlikeBehind (s.create r) (s'.create r) := by
  unfold Store.create
  split
  · obtain ⟨hid, halike⟩ := h.insert r.model _
    exact ⟨congrArg Json.ofNat hid, halike⟩
  · rfl

theorem write (h : s.Alike s') (r : Request) : AlikeBehind (s.write r) (s'.write r) := by
  unfold Store.write
  cases ids r.args.head? with
  | error e => rfl
  | ok numbers =>
      simp only [bind, Except.bind, h.table]
      split
      · cases firstMissing? (s.table r.model) numbers with
        | some id => rfl
        | none => exact ⟨rfl, h.withTable r.model _⟩
      · rfl

theorem unlink (h : s.Alike s') (r : Request) : AlikeBehind (s.unlink r) (s'.unlink r) := by
  unfold Store.unlink
  cases ids r.args.head? with
  | error e => rfl
  | ok numbers =>
      simp only [bind, Except.bind, h.table]
      cases firstMissing? (s.table r.model) numbers with
      | some id => rfl
      | none => exact ⟨rfl, h.withTable r.model _⟩

/-- **Stores that are alike answer alike** and stay alike. -/
theorem answer (h : s.Alike s') (r : Request) :
    (s'.answer r).1 = (s.answer r).1 ∧ (s.answer r).2.Alike (s'.answer r).2 := by
  unfold Store.answer
  split
  · exact h.looked (by rw [search, search, h.table])
  · exact h.looked (by rw [Store.read, Store.read, h.table])
  · exact h.changed (h.create r)
  · exact h.changed (h.write r)
  · exact h.changed (h.unlink r)
  · exact h.looked rfl

theorem call (h : s.Alike s') (c : Call) :
    (s'.call c).1 = (s.call c).1 ∧ (s.call c).2.Alike (s'.call c).2 := by
  cases c with
  | insert model values =>
      obtain ⟨hid, halike⟩ := h.insert model (values.obj?.getD [])
      exact ⟨congrArg Returned.number hid, halike⟩
  | count model =>
      have hsize : s'.count model = s.count model := congrArg List.length (h.table model)
      exact ⟨congrArg Returned.size hsize, h⟩
  | request r =>
      obtain ⟨hreply, halike⟩ := h.answer r
      exact ⟨congrArg Returned.reply hreply, halike⟩

/-- **Calls return the same** on stores that are alike, however many there are. -/
theorem run (h : s.Alike s') (calls : List Call) : (s'.run calls).1 = (s.run calls).1 := by
  induction calls generalizing s s' with
  | nil => rfl
  | cons c calls ih =>
      obtain ⟨hreturned, halike⟩ := h.call c
      simp only [Store.run, hreturned, ih halike]

end Alike

end Store

end CommandConsole.Records
