import CommandConsole.Proofs.Json.Objects
import CommandConsole.Proofs.Records.Identity

/-!
# Records as rows

An object is a map, so what a store is given in a call has its fields in the order of their names,
and so have the records that are made of it (`inOrder_run`). Then a row shows a record in full:
under each name that is asked for it has what the record has, and false where that has nothing
(`get?_project_eq`).
-/

set_option autoImplicit false

namespace CommandConsole.Records

/-- The objects that a call brings are maps. -/
def Call.InOrder : Call → Prop
  | .insert _ values => values.InOrder
  | .count _ => True
  | .request r => ∀ v ∈ r.args, v.InOrder

namespace Store

/-- A store in order whose records are maps. -/
structure InOrder (s : Store) : Prop extends Sound s where
  fields : ∀ model, ∀ e ∈ s.table model, Assoc.Sorted e.2

variable {s s' : Store} {r : Request} {c : Call} {calls : List Call} {model : String}
  {exchanges : List (Call × Returned)} {values record : Json.Fields} {id : Nat}
  {names : Option (List String)} {name : String}

/-! ## Records that are maps -/

theorem inOrder_empty : InOrder empty := ⟨sound_empty, by simp⟩

theorem sorted_update (h : Assoc.Sorted record) (values : Json.Fields) :
    Assoc.Sorted (update values record) :=
  Assoc.sorted_union h _

theorem InOrder.insert (h : s.InOrder) (hvalues : Assoc.Sorted values) (model : String) :
    (s.insert model values).2.InOrder := by
  refine ⟨h.toSound.insert model values, fun other e he => ?_⟩
  by_cases hother : other = model
  · rw [hother, h.table_insert_eq] at he
    rcases List.mem_append.mp he with he | he
    · exact h.fields model e he
    · rw [List.mem_singleton.mp he]
      exact hvalues.filter _
  · rw [table_insert_of_ne hother] at he
    exact h.fields other e he

/-- Other records of a model, each of them a map. -/
theorem InOrder.withTable (h : s.InOrder) {t : Table} (hsound : (s.withTable model t).Sound)
    (ht : ∀ e ∈ t, Assoc.Sorted e.2) : (s.withTable model t).InOrder := by
  refine ⟨hsound, fun other e he => ?_⟩
  by_cases hother : other = model
  · rw [hother, table_withTable] at he
    exact ht e he
  · rw [table_withTable_of_ne hother] at he
    exact h.fields other e he

/-- **A request with maps keeps a store in order.** -/
theorem InOrder.answer (h : s.InOrder) (hargs : ∀ v ∈ r.args, v.InOrder) :
    (s.answer r).2.InOrder := by
  have hsound := h.toSound.answer r
  rcases answer_cases s r with
    ⟨values, -, hhead, heq⟩ | ⟨numbers, values, -, heq⟩ | ⟨numbers, -, heq⟩ | ⟨heq, -⟩
  · rw [heq]
    have hvalues : Assoc.Sorted values :=
      hargs (.obj values) (List.mem_of_mem_head? (by simp [hhead])) values rfl
    exact h.insert hvalues r.model
  · rw [heq] at hsound ⊢
    refine h.withTable hsound fun e he => ?_
    obtain ⟨f, hf, rfl⟩ := List.mem_map.mp he
    have hold := h.fields r.model f hf
    split
    · exact sorted_update hold values
    · exact hold
  · rw [heq] at hsound ⊢
    exact h.withTable hsound fun e he => h.fields r.model e (List.mem_of_mem_filter he)
  · rwa [heq]

theorem InOrder.call (h : s.InOrder) (hc : c.InOrder) : (s.call c).2.InOrder := by
  cases c with
  | insert model values =>
      refine h.insert ?_ model
      cases hvalues : values.obj? with
      | none => exact Assoc.sorted_nil
      | some fields => exact hc fields hvalues
  | count model => exact h
  | request r => exact h.answer hc

/-- **Calls with maps keep a store in order.** -/
theorem inOrder_run (h : s.InOrder) (hcalls : ∀ c ∈ calls, c.InOrder)
    (hrun : s.run calls = (exchanges, s')) : s'.InOrder := by
  induction calls generalizing s exchanges with
  | nil =>
      obtain ⟨-, rfl⟩ : [] = exchanges ∧ s = s' := by simpa [run] using hrun
      exact h
  | cons c calls ih =>
      obtain ⟨returned, s₁, rest, hcall, hrest, -⟩ := exists_of_run_cons hrun
      have h₁ := h.call (hcalls c List.mem_cons_self)
      rw [hcall] at h₁
      exact ih h₁ (fun c' hc' => hcalls c' (List.mem_cons_of_mem _ hc')) hrest

/-! ## Rows -/

/-- The names of fields in a request. -/
theorem fieldNames_strings (names : List String) :
    fieldNames (some (.arr (names.map .str))) = .ok (some names) := by
  have hread : (names.map Json.str).mapM Json.str? = some names := by
    rw [List.mapM_map]
    exact (List.mapM_pure ..).trans (congrArg some (List.map_id names))
  rw [fieldNames, hread]

/-- What a row of a record has under a name, when all fields are asked for or those with the given
names. -/
def shown (names : Option (List String)) (id : Nat) (record : Json.Fields) (name : String) :
    Option Json :=
  if name = "id" then some (.ofNat id)
  else match names with
    | none => Assoc.find? name record
    | some names =>
        if name ∈ names then some ((Assoc.find? name record).getD (.bool false)) else none

/-- **A row shows its record.** -/
theorem get?_project_eq (hfields : Assoc.Sorted record) (hid : "id" ∉ Assoc.keys record)
    (names : Option (List String)) (id : Nat) (name : String) :
    (project names id record).get? name = shown names id record name := by
  by_cases hname : name = "id"
  · subst hname
    exact get?_project hid names id
  · have hother : Assoc.find? name [("id", Json.ofNat id)] = none := if_neg (Ne.symm hname)
    unfold shown
    rw [if_neg hname]
    cases names with
    | none =>
        show Assoc.find? name (Assoc.union [("id", .ofNat id)] record) = _
        rw [Assoc.find?_union hfields, hother, Option.or_none]
    | some names =>
        let value (name : String) : Json := (Assoc.find? name record).getD (.bool false)
        show Assoc.find? name (Assoc.union [("id", .ofNat id)]
          ((names.filter (· ≠ "id")).map fun name => (name, value name))) = _
        rw [Assoc.find?_union_map value, hother]
        simp [value, hname]

theorem InOrder.get?_project_eq (h : s.InOrder) {e : Nat × Json.Fields} (he : e ∈ s.table model)
    (names : Option (List String)) (name : String) :
    (project names e.1 e.2).get? name = shown names e.1 e.2 name :=
  Store.get?_project_eq (h.fields model e he) (h.unnumbered model e he) names e.1 name

end Store

end CommandConsole.Records
