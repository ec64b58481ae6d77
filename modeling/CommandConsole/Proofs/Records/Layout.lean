import CommandConsole.Proofs.Assoc
import CommandConsole.Records.Display
import Mathlib.Data.List.Forall2

/-!
# Records in rows and columns

A table of records has one row for each record, in their order, and the number in the first column.
Its headers and its cells are made apart from each other. What keeps them together is the list of
the names of its columns: the cell at a place of a row shows what the record has under the name at
that place (`RowOf`).

Without a field list these are the names that some record has, each once and in order
(`mem_columns_iff`, `pairwise_columns`). So no field of a record is left out, none is shown twice,
and none stands under the header of another one (`table_complete`). A value that is no object has no
fields, and its row is blank.
-/

set_option autoImplicit false

namespace CommandConsole.Records

variable {names : List String} {records : List Json} {record : Json} {name : String}

/-! ## Columns -/

/-- A record has a value under the names of its fields. -/
theorem isSome_get?_iff :
    (record.get? name).isSome = true ↔ name ∈ Assoc.keys (record.obj?.getD []) := by
  cases record with
  | obj entries =>
      show (Assoc.find? name entries).isSome = true ↔ name ∈ Assoc.keys entries
      rw [← not_iff_not, ← Assoc.find?_eq_none_iff, Bool.not_eq_true, Option.isSome_eq_false_iff,
        Option.isNone_iff_eq_none]
  | _ => simp [Json.get?, Json.obj?, Assoc.keys]

theorem mem_fieldNames_iff :
    name ∈ fieldNames records ↔ ∃ record ∈ records, (record.get? name).isSome = true := by
  rw [fieldNames, Assoc.mem_keys_ofList, Assoc.keys, List.map_map]
  simp only [Function.comp_def, List.map_id', List.mem_flatMap, isSome_get?_iff]

/-- **The columns of all fields**: whatever some record has under another name than that of the
number. -/
theorem mem_columns_iff :
    name ∈ columns none records ↔
      name ≠ "id" ∧ ∃ record ∈ records, (record.get? name).isSome = true := by
  show name ∈ (fieldNames records).filter _ ↔ _
  rw [List.mem_filter, mem_fieldNames_iff, decide_eq_true_iff, and_comm]

/-- The columns of all fields are by name, each once. -/
theorem pairwise_columns (records : List Json) : (columns none records).Pairwise (· < ·) := by
  have hsorted : (fieldNames records).Pairwise (· < ·) := Assoc.sorted_ofList _
  exact hsorted.sublist List.filter_sublist

/-- Among names in order, each has one place. -/
theorem exists_place (h : names.Pairwise (· < ·)) (hname : name ∈ names) :
    ∃ i : Nat, ∀ j : Nat, names[j]? = some name ↔ j = i := by
  obtain ⟨i, hi⟩ := List.mem_iff_getElem?.mp hname
  have hlt : i < names.length := (List.getElem?_eq_some_iff.mp hi).1
  have hnodup : names.Nodup := h.imp fun hlt => ne_of_lt hlt
  refine ⟨i, fun j => ⟨fun hj => ?_, fun hj => hj ▸ hi⟩⟩
  exact ((List.getElem?_inj hlt hnodup).mp (hi.trans hj.symm)).symm

/-! ## Rows -/

/-- **The row of a record**: under each name what the record has there, and nothing where it has
nothing. The first column is that of the number. -/
structure RowOf (names : List String) (record : Json) (row : List String) : Prop where
  shown : ∀ (i : Nat) name v, ("id" :: names)[i]? = some name → record.get? name = some v →
    row[i]? = some (display v)
  blank : ∀ (i : Nat) name, ("id" :: names)[i]? = some name → record.get? name = none →
    row[i]? = some ""

theorem rowOf_cells (names : List String) (record : Json) :
    RowOf names record (("id" :: names).map (cell record)) where
  shown i name v hname hv := by
    rw [List.getElem?_map, hname, Option.map_some, cell, hv]
    rfl
  blank i name hname hnone := by
    rw [List.getElem?_map, hname, Option.map_some, cell, hnone]
    rfl

/-! ## Tables -/

/-- **A table of records is rectangular and complete.** Whatever values a list holds, they have a
table with one row for each of them, in their order, and as many cells in each row as there are
headers; each row shows its record under the names of the columns, the number first. With a field
list the other columns are those of the list, in its order. Without one they increase strictly and
are just the names of the fields that some record has; so each field of each record has one place,
the header there is its name in capitals, and the cell there shows its value. What is no list has no
table. -/
theorem table_complete (records : List Json) (fields : Option (List String)) :
    (∃ names headers rows,
      table (.arr records) fields = .ok (.table headers rows) ∧
      headers = "ID" :: names.map (fun name => String.ofList (Text.toUpper name.toList)) ∧
      (∀ row ∈ rows, row.length = headers.length) ∧
      List.Forall₂ (RowOf names) records rows ∧
      match fields with
      | some asked => names = asked.filter (· ≠ "id")
      | none =>
          names.Pairwise (· < ·) ∧
          (∀ name, name ∈ names ↔
            name ≠ "id" ∧ ∃ record ∈ records, (record.get? name).isSome = true) ∧
          ∀ (k : Nat) record row name v, records[k]? = some record → rows[k]? = some row →
            name ≠ "id" → record.get? name = some v →
            ∃ i : Nat, (∀ j : Nat, names[j]? = some name ↔ j = i) ∧
              headers[i + 1]? = some (String.ofList (Text.toUpper name.toList)) ∧
              row[i + 1]? = some (display v)) ∧
    ∀ v, (∀ items, v ≠ .arr items) →
      table v fields = .error (.malformed ("expected a list of records, got " ++ v.text)) := by
  have hrows (names : List String) :
      List.Forall₂ (RowOf names) records (records.map fun r => ("id" :: names).map (cell r)) := by
    rw [List.forall₂_map_right_iff]
    exact List.forall₂_same.mpr fun record _ => rowOf_cells names record
  refine ⟨⟨columns fields records, _, _, rfl, rfl, ?_, hrows _, ?_⟩, ?_⟩
  · intro row hrow
    obtain ⟨record, -, rfl⟩ := List.mem_map.mp hrow
    simp only [List.length_cons, List.length_map]
  · cases fields with
    | some asked => rfl
    | none =>
        refine ⟨pairwise_columns records, fun name => mem_columns_iff, ?_⟩
        intro k record row name v hrecord hrow hname hv
        have hmem : name ∈ columns none records :=
          mem_columns_iff.mpr ⟨hname, record, List.mem_of_getElem? hrecord, by simp [hv]⟩
        obtain ⟨i, hplace⟩ := exists_place (pairwise_columns records) hmem
        have hi : (columns none records)[i]? = some name := (hplace i).mpr rfl
        refine ⟨i, hplace, by simp [hi, header], ?_⟩
        -- the row at the place of the record is its row
        rw [List.getElem?_map, hrecord] at hrow
        obtain rfl := Option.some.inj hrow
        have hcells := rowOf_cells (columns none records) record
        exact hcells.shown (i + 1) name v (by simpa using hi) hv
  · intro v hv
    cases v with
    | arr items => exact absurd rfl (hv items)
    | _ => rfl

/-- Records with different fields, and a value that has none. -/
example : table (.arr [.obj [("id", .int 4), ("zeta", .int 1)], .int 7,
      .obj [("alpha", .str "a"), ("id", .int 5), ("zeta", .bool false)]]) none =
    .ok (.table ["ID", "ALPHA", "ZETA"] [["4", "", "1"], ["", "", ""], ["5", "a", ""]]) := by
  decide +kernel

end CommandConsole.Records
