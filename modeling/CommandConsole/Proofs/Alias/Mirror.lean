import CommandConsole.Proofs.Alias.Records

/-!
# A table of aliases and a store of records

A store of records mirrors a table when it keeps the aliases of the table and no others
(`Mirrors`). The table has its aliases by name and the store has them by number, so what they have
in common is said alias by alias. A look-up has the same answer on both (`Mirrors.find?`), and what
the table takes is done by the store too: `Mirrors.create`, `Mirrors.update` and `Mirrors.delete`
say so of the changes that are asked for after a look-up.
-/

set_option autoImplicit false

namespace CommandConsole.Alias

/-- The store keeps the aliases of the table, and both give the same number next. -/
structure Mirrors (t : Table) (store : Records.Store) (rs : List Record) : Prop where
  sound : t.Sound
  keeps : Keeps store rs
  lastId : t.lastId = store.lastId
  mem_iff : ∀ r, r ∈ rs ↔ t.find? r.name = some r

variable {t : Table} {store : Records.Store} {rs : List Record} {r : Record}
  {name command : String}

theorem mirrors_empty : Mirrors .empty .empty [] where
  sound := Table.sound_empty
  keeps := ⟨rfl, List.Pairwise.nil, by simp⟩
  lastId := rfl
  mem_iff := fun r => by simp [Table.find?, Table.empty, Assoc.find?]

namespace Mirrors

theorem mem_of_find? (h : Mirrors t store rs) (hr : t.find? name = some r) : r ∈ rs := by
  rw [h.mem_iff, h.sound.name_of_find? hr]
  exact hr

/-- **A name has the same alias on both.** The first record with the name is the only one. -/
theorem find?_eq (h : Mirrors t store rs) (name : String) :
    rs.find? (·.name == name) = t.find? name := by
  cases hr : rs.find? (·.name == name) with
  | some r =>
      have hmem := List.mem_of_find?_eq_some hr
      have hname : r.name = name := by simpa using List.find?_some hr
      rw [← hname]
      exact ((h.mem_iff r).mp hmem).symm
  | none =>
      cases hfind : t.find? name with
      | none => rfl
      | some r =>
          have hname := h.sound.name_of_find? hfind
          have hno := List.find?_eq_none.mp hr r (h.mem_of_find? hfind)
          exact absurd hname (by simpa using hno)

/-- The number of an alias is a signed word, as long as the last one given is. -/
theorem isInt64_of_mem (h : Mirrors t store rs) (hwords : t.lastId ≤ Number.maxInt64)
    (hr : r ∈ rs) : Number.isInt64 r.id = true := by
  have hlast := h.lastId
  exact h.keeps.isInt64 (by omega) hr

/-- The templates by name of the table are those of the records. -/
theorem mem_commands_iff (h : Mirrors t store rs) (name command : String) :
    (name, command) ∈ t.commands ↔
      ∃ id, (id, [("command", .str command), ("name", .str name)]) ∈ store.table model := by
  rw [h.keeps.rows, Table.commands, List.mem_map]
  constructor
  · rintro ⟨⟨name', r⟩, hmem, heq⟩
    obtain ⟨rfl, rfl⟩ := Prod.mk.inj heq
    have hfind : t.find? name' = some r := (Assoc.find?_eq_some_iff_mem h.sound.sorted).mpr hmem
    refine ⟨r.id.toNat, List.mem_map.mpr ⟨r, h.mem_of_find? hfind, ?_⟩⟩
    rw [row, h.sound.name_of_find? hfind]
  · rintro ⟨id, hmem⟩
    obtain ⟨r, hr, heq⟩ := List.mem_map.mp hmem
    obtain ⟨-, hfields⟩ := Prod.mk.inj heq
    simp only [List.cons.injEq, Prod.mk.injEq, Json.str.injEq, true_and, and_true] at hfields
    obtain ⟨rfl, rfl⟩ := hfields
    exact ⟨(r.name, r), (Assoc.find?_eq_some_iff_mem h.sound.sorted).mp ((h.mem_iff r).mp hr), rfl⟩

/-! ## Changes -/

/-- A new alias under a free name is new on both. -/
theorem create (h : Mirrors t store rs) (hfree : t.find? name = none) (command : String) :
    ∃ store', store.answer (changeRequest (.create name command)) =
        (.ok (.ofNat (store.lastId + 1)), store') ∧
      t.apply (.create name command) = .ok ((store.lastId : Int) + 1, t.add name command) ∧
      ∃ rs', Mirrors (t.add name command) store' rs' := by
  obtain ⟨store', hanswer, hlast, hkeeps⟩ := h.keeps.create name command
  refine ⟨store', hanswer, ?_, _, h.sound.add name command, hkeeps, ?_, fun r => ?_⟩
  · rw [Table.apply_create hfree, h.lastId]
  · show t.lastId + 1 = _
    rw [h.lastId, hlast]
    rfl
  · have hnew := Table.find?_add_self t name command
    rw [h.lastId] at hnew
    by_cases hname : r.name = name
    · -- no alias had the name, so one that has it is the new one
      have hold : r ∉ rs := by
        intro hr
        rw [h.mem_iff, hname, hfree] at hr
        contradiction
      rw [hname, hnew]
      simp [hold, eq_comm]
    · have hother : r ≠ ⟨store.lastId + 1, name, command⟩ := by
        rintro rfl
        exact hname rfl
      rw [Table.find?_add_of_ne hname, ← h.mem_iff]
      simp [hother]

/-- Another template for an alias that was found is another one on both. -/
theorem update (h : Mirrors t store rs) (hwords : t.lastId ≤ Number.maxInt64)
    (hr : t.find? name = some r) (command : String) :
    ∃ store', store.answer (changeRequest (.update r.id command)) = (.ok (.bool true), store') ∧
      t.apply (.update r.id command) = .ok (r.id, t.rewritten r.id command) ∧
      ∃ rs', Mirrors (t.rewritten r.id command) store' rs' := by
  have hmem := h.mem_of_find? hr
  obtain ⟨store', hanswer, hlast, hkeeps⟩ :=
    h.keeps.update hmem (h.isInt64_of_mem hwords hmem) command
  refine ⟨store', hanswer, ?_, _, h.sound.rewritten r.id command, hkeeps, ?_, fun r' => ?_⟩
  · exact Table.apply_update hr command
  · rw [hlast]
    exact h.lastId
  · rw [Table.find?_rewritten, List.mem_map, Option.map_eq_some_iff]
    constructor
    · rintro ⟨r₀, hr₀, rfl⟩
      rw [Table.rewriteRecord_name]
      exact ⟨r₀, (h.mem_iff r₀).mp hr₀, rfl⟩
    · rintro ⟨r₀, hr₀, hr'⟩
      exact ⟨r₀, h.mem_of_find? hr₀, hr'⟩

/-- An alias that was found and is deleted is gone on both. -/
theorem delete (h : Mirrors t store rs) (hwords : t.lastId ≤ Number.maxInt64)
    (hr : t.find? name = some r) :
    ∃ store', store.answer (changeRequest (.delete r.id)) = (.ok (.bool true), store') ∧
      t.apply (.delete r.id) = .ok (r.id, t.without r.id) ∧
      ∃ rs', Mirrors (t.without r.id) store' rs' := by
  have hmem := h.mem_of_find? hr
  obtain ⟨store', hanswer, hlast, hkeeps⟩ :=
    h.keeps.delete hmem (h.isInt64_of_mem hwords hmem)
  refine ⟨store', hanswer, ?_, _, h.sound.without r.id, hkeeps, ?_, fun r' => ?_⟩
  · exact Table.apply_delete hr
  · rw [hlast]
    exact h.lastId
  · rw [h.sound.find?_without, List.mem_filter, Option.filter_eq_some_iff, h.mem_iff]

end Mirrors

end CommandConsole.Alias
