import CommandConsole.Alias.Store
import CommandConsole.Proofs.Alias.Integrity
import CommandConsole.Proofs.Number.Decimal
import CommandConsole.Proofs.Records.Store
import Mathlib.Data.List.Nodup

/-!
# Aliases kept as records

A store of records keeps a list of aliases when its records of the model of aliases are theirs
(`Keeps`). Each operation on aliases is one request to the store, and here is what comes of it: a
search finds the first alias with the name (`Keeps.find`), a creation adds an alias behind the
others (`Keeps.create`), an update gives one another template (`Keeps.update`), and a deletion takes
one away (`Keeps.delete`). Nothing here keeps two aliases from having one name.

The numbers travel through JSON, where they have to be signed words.
-/

set_option autoImplicit false

namespace CommandConsole

theorem Json.int64?_int {n : Int} (h : Number.isInt64 n = true) : (Json.int n).int64? = some n :=
  Json.int64?_eq_some_iff.mpr ⟨rfl, h⟩

namespace Records.Store

theorem ids_single {id : Int} (h : Number.isInt64 id = true) :
    ids (some (.arr [.int id])) = .ok [id] := by
  simp [ids, Json.int64?_int h]

end Records.Store

namespace Alias

open CommandConsole.Records (Condition)
open CommandConsole.Records.Store (project firstMissing? record?)

/-! ## Rows -/

/-- The record of an alias, under its number. -/
def row (r : Record) : Nat × Json.Fields :=
  (r.id.toNat, [("command", .str r.command), ("name", .str r.name)])

/-- The record of an alias as a search hands it out. -/
def handed (r : Record) : Json := project (some ["name", "command"]) (row r).1 (row r).2

/-- The records of aliases in a store are those of these aliases, which are in the order of their
numbers. -/
structure Keeps (store : Records.Store) (rs : List Record) : Prop where
  rows : store.table model = rs.map row
  ordered : (rs.map Record.id).Pairwise (· < ·)
  given : ∀ r ∈ rs, 0 < r.id ∧ r.id ≤ store.lastId

variable {store : Records.Store} {rs : List Record} {r : Record} {id : Int} {name command : String}

/-- The names of the aliases among the records of a store. -/
def aliasNames (store : Records.Store) : List String :=
  (store.table model).filterMap fun e => (Assoc.find? "name" e.2).bind Json.str?

theorem keeps_of_none (h : store.table model = []) : Keeps store [] :=
  ⟨h, List.Pairwise.nil, by simp⟩

theorem Keeps.aliasNames_eq (h : Keeps store rs) : aliasNames store = rs.map Record.name := by
  have hname (r : Record) : (Assoc.find? "name" (row r).2).bind Json.str? = some r.name := by
    simp [row, Assoc.find?, Json.str?]
  rw [aliasNames, h.rows, List.filterMap_map]
  simp [hname]

/-- The numbers of the aliases are signed words, as long as the last one given is. -/
theorem Keeps.isInt64 (h : Keeps store rs) (hwords : (store.lastId : Int) ≤ Number.maxInt64)
    (hr : r ∈ rs) : Number.isInt64 r.id = true := by
  have hgiven := h.given r hr
  exact Number.isInt64_of_nonneg (by omega) (by omega)

/-- One alias less is one name less. -/
theorem Keeps.count_without (h : Keeps store rs) (hr : r ∈ rs) :
    ((rs.filter (·.id ≠ r.id)).map Record.name).count r.name =
      (rs.map Record.name).count r.name - 1 := by
  have hids : (rs.map Record.id).Nodup := h.ordered.imp fun hlt => by omega
  have hnodup : rs.Nodup := hids.of_map _
  have hwithout : rs.filter (·.id ≠ r.id) = rs.erase r := by
    rw [hnodup.erase_eq_filter]
    refine List.filter_congr fun r' hr' => ?_
    have hsame : r'.id = r.id ↔ r' = r :=
      ⟨fun hid => List.inj_on_of_nodup_map hids hr' hr hid, congrArg _⟩
    by_cases heq : r' = r
    · simp [heq]
    · simp [heq, hsame]
  have hperm := (List.perm_cons_erase hr).map Record.name
  rw [hwithout, hperm.count_eq r.name, List.map_cons, List.count_cons_self]
  omega

/-- A record meets the condition of a search for a name when that is its name. -/
theorem meets_row (name : String) (r : Record) :
    (⟨"name", "=", .str name⟩ : Condition).meets (row r).1 (row r).2 = (r.name == name) := by
  simp [Condition.meets, Condition.compares, row, Assoc.find?, Json.same]

theorem ofNat_id (h : 0 < r.id) : Json.ofNat r.id.toNat = .int r.id := by
  unfold Json.ofNat
  congr 1
  omega

theorem handed_eq (h : 0 < r.id) :
    handed r = .obj [("command", .str r.command), ("id", .int r.id), ("name", .str r.name)] := by
  have hname : ¬ ("name" : String) < "id" := by decide
  have hcommand : ("command" : String) < "id" := by decide
  simp [handed, project, row, Json.object, Assoc.ofList, Assoc.insert, Assoc.find?, hname, hcommand,
    ofNat_id h]

/-- An alias that is handed out is read as what it is. -/
theorem shape_handed (h : 0 < r.id) (hword : Number.isInt64 r.id = true) :
    shape (handed r) = .ok r := by
  have hid : Json.Shape.int64 (.int r.id) = .ok r.id := by simp [Json.Shape.int64, hword]
  have hgiven : Json.Shape.record "AliasRecord"
      [.required "id" .int64, .required "name" .string, .required "command" .string] (handed r) =
      .ok [("command", .str r.command), ("id", .int r.id), ("name", .str r.name)] := by
    rw [handed_eq h]
    simp [Json.Shape.record, Json.Shape.named, Json.Shape.Field.required, List.find?,
      Json.Shape.string, hid]
    rfl
  have hfield : Json.Shape.field
      [("command", .str r.command), ("id", .int r.id), ("name", .str r.name)] "id" .int64 =
      .ok r.id := hid
  unfold shape
  rw [hgiven]
  show (Json.Shape.field _ "id" .int64).bind _ = _
  rw [hfield]
  rfl

/-! ## Requests -/

/-- A search for a name hands out all aliases with it, and leaves the store as it is. -/
theorem Keeps.search (h : Keeps store rs) (name : String) :
    store.answer (findRequest name) =
      (.ok (.arr ((rs.filter (·.name == name)).map handed)), store) := by
  have hrows : (store.table model).filter
      (fun e => [(⟨"name", "=", .str name⟩ : Condition)].all (·.meets e.1 e.2)) =
      (rs.filter (·.name == name)).map row := by
    rw [h.rows, List.filter_map]
    refine congrArg _ (List.filter_congr fun r _ => ?_)
    simp [meets_row]
  have hsearch : store.search (findRequest name) =
      .ok (.arr ((rs.filter (·.name == name)).map handed)) := by
    calc store.search (findRequest name)
        = .ok (.arr (((store.table model).filter
            (fun e => [(⟨"name", "=", .str name⟩ : Condition)].all (·.meets e.1 e.2))).map
              fun e => project (some ["name", "command"]) e.1 e.2)) := rfl
      _ = .ok (.arr ((rs.filter (·.name == name)).map handed)) := by
          rw [hrows, List.map_map]
          rfl
  show store.looked (store.search (findRequest name)) = _
  rw [hsearch]
  rfl

/-- **The first of the aliases that are handed out is found**, if there is one. -/
theorem found_handed (hpos : ∀ r ∈ rs, 0 < r.id) (hwords : ∀ r ∈ rs, Number.isInt64 r.id = true) :
    found (.arr (rs.map handed)) = .ok rs.head? := by
  cases rs with
  | nil => rfl
  | cons r rest =>
      have hr : r ∈ r :: rest := List.mem_cons_self
      rw [List.map_cons, found, shape_handed (hpos r hr) (hwords r hr)]
      rfl

/-- What is handed out is not overlooked, whatever its number. -/
theorem eq_nil_of_found_none (h : found (.arr (rs.map handed)) = .ok none) : rs = [] := by
  cases rs with
  | nil => rfl
  | cons r rest =>
      rw [List.map_cons, found] at h
      split at h
      · exact nomatch Except.ok.inj h
      · contradiction

/-- **A look-up finds the first alias with the name.** -/
theorem Keeps.find (h : Keeps store rs) (hwords : ∀ r ∈ rs, Number.isInt64 r.id = true)
    (name : String) :
    ∃ reply, store.answer (findRequest name) = (.ok reply, store) ∧
      found reply = .ok (rs.find? (·.name == name)) := by
  refine ⟨_, h.search name, ?_⟩
  rw [← List.head?_filter]
  exact found_handed (fun r hr => (h.given r (List.mem_of_mem_filter hr)).1)
    (fun r hr => hwords r (List.mem_of_mem_filter hr))

/-- **A creation adds an alias** with the next number. -/
theorem Keeps.create (h : Keeps store rs) (name command : String) :
    ∃ store', store.answer (changeRequest (.create name command)) =
        (.ok (.ofNat (store.lastId + 1)), store') ∧
      store'.lastId = store.lastId + 1 ∧
      Keeps store' (rs ++ [⟨store.lastId + 1, name, command⟩]) := by
  refine ⟨_, rfl, rfl, ?_⟩
  -- the next number is greater than all others, so the new record is the last one
  have hlast : ∀ e ∈ store.table model, e.1 < store.lastId + 1 := by
    intro e he
    rw [h.rows] at he
    obtain ⟨r, hr, rfl⟩ := List.mem_map.mp he
    have hgiven := h.given r hr
    show r.id.toNat < store.lastId + 1
    omega
  constructor
  · show (store.withTable model (Assoc.insert (store.lastId + 1)
      [("command", .str command), ("name", .str name)] (store.table model))).table model = _
    rw [Records.Store.table_withTable, Assoc.insert_eq_append hlast, h.rows, List.map_append]
    rfl
  · rw [List.map_append, List.pairwise_append]
    refine ⟨h.ordered, List.pairwise_singleton _ _, ?_⟩
    intro a ha b hb
    obtain ⟨r, hr, rfl⟩ := List.mem_map.mp ha
    have hgiven := h.given r hr
    obtain rfl : b = (store.lastId : Int) + 1 := List.mem_singleton.mp hb
    omega
  · intro r hr
    show 0 < r.id ∧ r.id ≤ ((store.lastId + 1 : Nat) : Int)
    rcases List.mem_append.mp hr with hr | hr
    · have hgiven := h.given r hr
      omega
    · obtain rfl := List.mem_singleton.mp hr
      show 0 < (store.lastId : Int) + 1 ∧
        (store.lastId : Int) + 1 ≤ ((store.lastId + 1 : Nat) : Int)
      omega

/-- The reply to a creation is read as the number. -/
theorem changed_create (name command : String) {n : Nat} (h : Number.isInt64 (n : Int) = true) :
    changed (.create name command) (.ofNat n) = .ok (n : Int) := by
  rw [Json.ofNat, changed, created, Json.int64?_int h, Option.some_or]

/-! ## Requests with one number -/

theorem write_single (store : Records.Store) (hword : Number.isInt64 id = true) (command : String) :
    store.write (changeRequest (.update id command)) =
      match firstMissing? (store.table model) [id] with
      | some missing => .error (Records.Store.noRecord model missing)
      | none => .ok (.bool true, store.withTable model ((store.table model).map fun e =>
          if [id].contains (e.1 : Int) then
            (e.1, Records.Store.update [("command", .str command)] e.2)
          else e)) := by
  show (Records.Store.ids (some (.arr [.int id]))).bind _ = _
  rw [Records.Store.ids_single hword]
  rfl

theorem unlink_single (store : Records.Store) (hword : Number.isInt64 id = true) :
    store.unlink (changeRequest (.delete id)) =
      match firstMissing? (store.table model) [id] with
      | some missing => .error (Records.Store.noRecord model missing)
      | none => .ok (.bool true, store.withTable model ((store.table model).filter fun e =>
          !([id].contains (e.1 : Int)))) := by
  show (Records.Store.ids (some (.arr [.int id]))).bind _ = _
  rw [Records.Store.ids_single hword]
  rfl

/-- An alias that is kept is found by its number. -/
theorem Keeps.not_missing (h : Keeps store rs) (hr : r ∈ rs) :
    firstMissing? (store.table model) [r.id] = none := by
  have hpos := (h.given r hr).1
  have hkey : ∀ rs : List Record, r ∈ rs →
      ∃ fields, Assoc.find? r.id.toNat (rs.map row) = some fields := by
    intro rs
    induction rs with
    | nil => simp
    | cons r' rs ih =>
        intro hr
        by_cases hid : r'.id.toNat = r.id.toNat
        · exact ⟨_, if_pos hid⟩
        · have hne : r ≠ r' := by
            rintro rfl
            exact hid rfl
          obtain ⟨fields, hfields⟩ := ih ((List.mem_cons.mp hr).resolve_left hne)
          exact ⟨fields, (if_neg hid).trans hfields⟩
  obtain ⟨fields, hfields⟩ := hkey rs hr
  have hrecord : record? (store.table model) r.id = some (r.id.toNat, fields) := by
    rw [record?, if_pos (by omega), h.rows, hfields]
    rfl
  simp [firstMissing?, hrecord]

/-- The number of a record is that of its alias. -/
theorem row_id (hpos : 0 < r.id) : (((row r).1 : Nat) : Int) = r.id := by
  show ((r.id.toNat : Nat) : Int) = r.id
  omega

theorem Keeps.rewritten (h : Keeps store rs) (id : Int) (command : String) :
    Keeps (store.withTable model ((rs.map (Table.rewriteRecord id command)).map row))
      (rs.map (Table.rewriteRecord id command)) := by
  constructor
  · exact Records.Store.table_withTable ..
  · simpa [Function.comp_def] using h.ordered
  · intro r' hr'
    obtain ⟨r, hr, rfl⟩ := List.mem_map.mp hr'
    rw [Table.rewriteRecord_id]
    exact h.given r hr

/-- A template that is written to a record that is there. -/
theorem Keeps.write (h : Keeps store rs) (hword : Number.isInt64 id = true)
    (hthere : firstMissing? (store.table model) [id] = none) (command : String) :
    store.answer (changeRequest (.update id command)) = (.ok (.bool true),
      store.withTable model ((rs.map (Table.rewriteRecord id command)).map row)) := by
  have hrows : (store.table model).map (fun e => if [id].contains (e.1 : Int) then
      (e.1, Records.Store.update [("command", .str command)] e.2) else e) =
      (rs.map (Table.rewriteRecord id command)).map row := by
    rw [h.rows, List.map_map, List.map_map]
    refine List.map_congr_left fun r hr => ?_
    have hid' := row_id (h.given r hr).1
    by_cases hid : r.id = id
    · simp [hid', Table.rewriteRecord, hid]
      simp [row, Records.Store.update, Assoc.union, Assoc.insert, hid]
    · simp [hid', Table.rewriteRecord, hid]
  have hwrite : store.write (changeRequest (.update id command)) =
      .ok (.bool true, store.withTable model
        ((rs.map (Table.rewriteRecord id command)).map row)) := by
    rw [write_single store hword, hthere, hrows]
  show store.changed (store.write _) = _
  rw [hwrite]
  rfl

/-- **An update gives an alias another template.** -/
theorem Keeps.update (h : Keeps store rs) (hr : r ∈ rs) (hword : Number.isInt64 r.id = true)
    (command : String) :
    ∃ store', store.answer (changeRequest (.update r.id command)) = (.ok (.bool true), store') ∧
      store'.lastId = store.lastId ∧ Keeps store' (rs.map (Table.rewriteRecord r.id command)) :=
  ⟨_, h.write hword (h.not_missing hr) command, rfl, h.rewritten r.id command⟩

/-- An update with any number changes no name. -/
theorem Keeps.update_names (h : Keeps store rs) (id : Int) (command : String) :
    ∃ reply store' rs', store.answer (changeRequest (.update id command)) = (reply, store') ∧
      Keeps store' rs' ∧ rs'.map Record.name = rs.map Record.name := by
  have hrefused {e : String}
      (hwrite : store.write (changeRequest (.update id command)) = .error e) :
      ∃ reply store' rs', store.answer (changeRequest (.update id command)) = (reply, store') ∧
        Keeps store' rs' ∧ rs'.map Record.name = rs.map Record.name := by
    refine ⟨.error e, store, rs, ?_, h, rfl⟩
    show store.changed (store.write _) = _
    rw [hwrite]
    rfl
  by_cases hword : Number.isInt64 id = true
  · cases hthere : firstMissing? (store.table model) [id] with
    | none =>
        refine ⟨_, _, _, h.write hword hthere command, h.rewritten id command, ?_⟩
        simp [Function.comp_def]
    | some missing =>
        refine hrefused (e := Records.Store.noRecord model missing) ?_
        rw [write_single store hword, hthere]
  · -- a number that is no signed word is no number of a record
    refine hrefused (e := "expected a record id or a list of ids") ?_
    have hids : Records.Store.ids (some (.arr [.int id])) =
        .error "expected a record id or a list of ids" := by
      simp [Records.Store.ids, Json.int64?, hword]
    show (Records.Store.ids (some (.arr [.int id]))).bind _ = _
    rw [hids]
    rfl

/-- **A deletion takes an alias away.** -/
theorem Keeps.delete (h : Keeps store rs) (hr : r ∈ rs) (hword : Number.isInt64 r.id = true) :
    ∃ store', store.answer (changeRequest (.delete r.id)) = (.ok (.bool true), store') ∧
      store'.lastId = store.lastId ∧ Keeps store' (rs.filter (·.id ≠ r.id)) := by
  have hrows : (store.table model).filter (fun e => !([r.id].contains (e.1 : Int))) =
      (rs.filter (·.id ≠ r.id)).map row := by
    rw [h.rows, List.filter_map]
    refine congrArg _ (List.filter_congr fun r' hr' => ?_)
    have hid' := row_id (h.given r' hr').1
    simp [hid']
  have hunlink : store.unlink (changeRequest (.delete r.id)) =
      .ok (.bool true, store.withTable model ((rs.filter (·.id ≠ r.id)).map row)) := by
    rw [unlink_single store hword, h.not_missing hr, hrows]
  refine ⟨store.withTable model ((rs.filter (·.id ≠ r.id)).map row), ?_, rfl, ?_⟩
  · show store.changed (store.unlink _) = _
    rw [hunlink]
    rfl
  · constructor
    · exact Records.Store.table_withTable ..
    · exact h.ordered.sublist (List.filter_sublist.map Record.id)
    · intro r' hr'
      exact h.given r' (List.mem_of_mem_filter hr')

end Alias

end CommandConsole
