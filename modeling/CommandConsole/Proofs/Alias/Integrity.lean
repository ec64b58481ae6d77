import CommandConsole.Proofs.Alias.Table

/-!
# The integrity of an alias table

A table is **sound** when its names increase, each alias stands under its own name, and the number
of each alias is one that was given, and to no other alias. The table of a file is sound
(`sound_ofCommands`), and every change that a sound table takes makes a sound one (`Sound.apply`).

What the changes do to the templates by name and to the answer for a name is said here too, so that
nobody has to look at the entries for it.
-/

set_option autoImplicit false

namespace CommandConsole.Alias.Table

/-- A table in order. -/
structure Sound (t : Table) : Prop where
  lastId_nonneg : 0 ≤ t.lastId
  sorted : Assoc.Sorted t.byName
  named : ∀ e ∈ t.byName, e.2.name = e.1
  given : ∀ e ∈ t.byName, 0 < e.2.id ∧ e.2.id ≤ t.lastId
  alone : ∀ e ∈ t.byName, ∀ f ∈ t.byName, e.2.id = f.2.id → e = f

variable {t t' : Table} {c : Change} {id : Int} {name command : String}

/-! ## Changes of a sound table -/

theorem sound_empty : Sound empty :=
  ⟨Int.le_refl 0, Assoc.sorted_nil, by simp [empty], by simp [empty], by simp [empty]⟩

theorem mem_add {e : String × Record} (h : e ∈ (t.add name command).byName) :
    e = (name, ⟨t.lastId + 1, name, command⟩) ∨ e ∈ t.byName :=
  Assoc.mem_of_mem_insert h

theorem Sound.add (h : t.Sound) (name command : String) : (t.add name command).Sound where
  lastId_nonneg := by
    have hlast := h.lastId_nonneg
    show 0 ≤ t.lastId + 1
    omega
  sorted := Assoc.sorted_insert h.sorted name _
  named := by
    intro e he
    rcases mem_add he with rfl | he
    · rfl
    · exact h.named e he
  given := by
    intro e he
    have hlast := h.lastId_nonneg
    show 0 < e.2.id ∧ e.2.id ≤ t.lastId + 1
    rcases mem_add he with rfl | he
    · show 0 < t.lastId + 1 ∧ t.lastId + 1 ≤ t.lastId + 1
      omega
    · have hgiven := h.given e he
      omega
  alone := by
    -- the number of the new alias is greater than all others
    have hfresh : ∀ e ∈ t.byName, e.2.id ≠ t.lastId + 1 := by
      intro e he heq
      have hgiven := h.given e he
      omega
    intro e he f hf heq
    rcases mem_add he with rfl | he
    · rcases mem_add hf with rfl | hf
      · rfl
      · exact absurd heq.symm (hfresh f hf)
    · rcases mem_add hf with rfl | hf
      · exact absurd heq (hfresh e he)
      · exact h.alone e he f hf heq

/-- An entry with another template, if it is the one with the number. -/
def rewriteEntry (id : Int) (command : String) (e : String × Record) : String × Record :=
  if e.2.id = id then (e.1, { e.2 with command := command }) else e

theorem mem_rewritten {e : String × Record} (h : e ∈ (t.rewritten id command).byName) :
    ∃ f ∈ t.byName, e = rewriteEntry id command f := by
  obtain ⟨f, hf, heq⟩ := List.mem_map.mp h
  exact ⟨f, hf, heq.symm⟩

theorem byName_rewritten (t : Table) (id : Int) (command : String) :
    (t.rewritten id command).byName = t.byName.map (rewriteEntry id command) := rfl

@[simp] theorem rewriteEntry_key (id : Int) (command : String) (e : String × Record) :
    (rewriteEntry id command e).1 = e.1 := by
  unfold rewriteEntry
  split <;> rfl

@[simp] theorem rewriteEntry_id (id : Int) (command : String) (e : String × Record) :
    (rewriteEntry id command e).2.id = e.2.id := by
  unfold rewriteEntry
  split <;> rfl

@[simp] theorem rewriteEntry_name (id : Int) (command : String) (e : String × Record) :
    (rewriteEntry id command e).2.name = e.2.name := by
  unfold rewriteEntry
  split <;> rfl

theorem keys_rewritten (t : Table) (id : Int) (command : String) :
    Assoc.keys (t.rewritten id command).byName = Assoc.keys t.byName :=
  Assoc.keys_map (rewriteEntry_key id command) t.byName

theorem Sound.rewritten (h : t.Sound) (id : Int) (command : String) :
    (t.rewritten id command).Sound where
  lastId_nonneg := h.lastId_nonneg
  sorted := by
    rw [Assoc.Sorted, keys_rewritten]
    exact h.sorted
  named := by
    intro e he
    obtain ⟨f, hf, rfl⟩ := mem_rewritten he
    simpa using h.named f hf
  given := by
    intro e he
    obtain ⟨f, hf, rfl⟩ := mem_rewritten he
    rw [rewriteEntry_id]
    exact h.given f hf
  alone := by
    intro e he f hf heq
    obtain ⟨e', he', rfl⟩ := mem_rewritten he
    obtain ⟨f', hf', rfl⟩ := mem_rewritten hf
    rw [rewriteEntry_id, rewriteEntry_id] at heq
    rw [h.alone e' he' f' hf' heq]

theorem Sound.without (h : t.Sound) (id : Int) : (t.without id).Sound where
  lastId_nonneg := h.lastId_nonneg
  sorted := h.sorted.filter _
  named := fun e he => h.named e (List.mem_of_mem_filter he)
  given := fun e he => h.given e (List.mem_of_mem_filter he)
  alone := fun e he f hf => h.alone e (List.mem_of_mem_filter he) f (List.mem_of_mem_filter hf)

/-- **A change keeps a table sound.** -/
theorem Sound.apply (h : t.Sound) (hchange : t.apply c = .ok (id, t')) : t'.Sound := by
  rcases apply_cases hchange with
    ⟨name, command, -, -, -, rfl⟩ | ⟨command, -, -, rfl⟩ | ⟨-, -, rfl⟩
  · exact h.add name command
  · exact h.rewritten id command
  · exact h.without id

/-- Behind a change there are no names but those before it and that of a new alias. -/
theorem mem_keys_of_apply (hchange : t.apply c = .ok (id, t'))
    (hname : name ∈ Assoc.keys t'.byName) :
    name ∈ Assoc.keys t.byName ∨ ∃ command, c = .create name command := by
  rcases apply_cases hchange with
    ⟨name', command, rfl, -, -, rfl⟩ | ⟨command, -, -, rfl⟩ | ⟨-, -, rfl⟩
  · rcases Assoc.mem_keys_insert.mp hname with rfl | hname
    · exact .inr ⟨command, rfl⟩
    · exact .inl hname
  · rw [keys_rewritten] at hname
    exact .inl hname
  · exact .inl ((List.filter_sublist.map Prod.fst).subset hname)

theorem sound_ofCommands (m : List (String × String)) : (ofCommands m).Sound := by
  have hfold : ∀ t : Table, t.Sound → (m.foldl (fun t e => t.add e.1 e.2) t).Sound := by
    induction m with
    | nil => exact fun t ht => ht
    | cons e m ih => exact fun t ht => ih _ (ht.add e.1 e.2)
  exact hfold empty sound_empty

/-! ## The alias with a name -/

theorem find?_add_of_ne {other : String} (h : other ≠ name) :
    (t.add name command).find? other = t.find? other :=
  Assoc.find?_insert_of_ne h _ t.byName

/-- An alias with another template, if it is the one with the number. -/
def rewriteRecord (id : Int) (command : String) (r : Record) : Record :=
  if r.id = id then { r with command := command } else r

@[simp] theorem rewriteRecord_id (id : Int) (command : String) (r : Record) :
    (rewriteRecord id command r).id = r.id := by
  unfold rewriteRecord
  split <;> rfl

@[simp] theorem rewriteRecord_name (id : Int) (command : String) (r : Record) :
    (rewriteRecord id command r).name = r.name := by
  unfold rewriteRecord
  split <;> rfl

theorem find?_rewritten (t : Table) (id : Int) (command name : String) :
    (t.rewritten id command).find? name = (t.find? name).map (rewriteRecord id command) := by
  have hentry : (fun r => (rewriteEntry id command (name, r)).2) = rewriteRecord id command := by
    funext r
    unfold rewriteEntry rewriteRecord
    split <;> rfl
  unfold find?
  rw [byName_rewritten, Assoc.find?_map (rewriteEntry_key id command), hentry]

theorem Sound.find?_without (h : t.Sound) (id : Int) (name : String) :
    (t.without id).find? name = (t.find? name).filter fun r => r.id ≠ id := by
  refine Option.ext fun r => ?_
  have hmem : (t.without id).find? name = some r ↔ (name, r) ∈ (t.without id).byName :=
    Assoc.find?_eq_some_iff_mem (h.without id).sorted
  have hmem' : t.find? name = some r ↔ (name, r) ∈ t.byName :=
    Assoc.find?_eq_some_iff_mem h.sorted
  rw [hmem, Table.without, List.mem_filter, Option.filter_eq_some_iff, hmem']

/-! ## The alias that was found -/

section

variable {r : Record}

/-- The alias under a name has that name. -/
theorem Sound.name_of_find? (h : t.Sound) (hr : t.find? name = some r) : r.name = name :=
  h.named (name, r) (Assoc.mem_of_find?_eq_some hr)

/-- The table has the number of an alias under a name. -/
theorem has_of_find? (hr : t.find? name = some r) : t.has r.id = true :=
  List.any_eq_true.mpr ⟨(name, r), Assoc.mem_of_find?_eq_some hr, by simp⟩

/-- Of the aliases of a sound table only one has its number. -/
theorem Sound.name_eq_of_id (h : t.Sound) {other : String} {r' : Record}
    (hr : t.find? name = some r) (hr' : t.find? other = some r') (hid : r'.id = r.id) :
    other = name := by
  have hmem : (name, r) ∈ t.byName := Assoc.mem_of_find?_eq_some hr
  have hmem' : (other, r') ∈ t.byName := Assoc.mem_of_find?_eq_some hr'
  exact congrArg Prod.fst (h.alone _ hmem' _ hmem hid)

/-- A change of an alias that was found is taken, and so is a new one where none was found. -/
theorem apply_update (hr : t.find? name = some r) (command : String) :
    t.apply (.update r.id command) = .ok (r.id, t.rewritten r.id command) :=
  if_pos (has_of_find? hr)

theorem apply_delete (hr : t.find? name = some r) :
    t.apply (.delete r.id) = .ok (r.id, t.without r.id) :=
  if_pos (has_of_find? hr)

theorem apply_create (hfree : t.find? name = none) (command : String) :
    t.apply (.create name command) = .ok (t.lastId + 1, t.add name command) := by
  rw [apply, hfree]
  rfl

end

/-! ## The templates by name -/

theorem Sound.sorted_commands (h : t.Sound) : Assoc.Sorted t.commands := by
  have hkeys : Assoc.keys t.commands = Assoc.keys t.byName := by
    simp [commands, Assoc.keys, Function.comp_def]
  rw [Assoc.Sorted, hkeys]
  exact h.sorted

theorem map_insert_command (name : String) (r : Record) (m : List (String × Record)) :
    (Assoc.insert name r m).map (fun e => (e.1, e.2.command)) =
      Assoc.insert name r.command (m.map fun e => (e.1, e.2.command)) := by
  induction m with
  | nil => rfl
  | cons e m ih =>
      simp only [Assoc.insert, List.map_cons]
      split
      · rfl
      · split
        · rfl
        · rw [List.map_cons, ih]

theorem commands_add (t : Table) (name command : String) :
    (t.add name command).commands = Assoc.insert name command t.commands :=
  map_insert_command name _ t.byName

/-- The template under a name is that of the alias. -/
theorem find?_commands (t : Table) (name : String) :
    Assoc.find? name t.commands = (t.find? name).map Record.command := by
  unfold find? commands
  induction t.byName with
  | nil => rfl
  | cons e m ih =>
      by_cases he : e.1 = name
      · simp [Assoc.find?, he]
      · simpa [Assoc.find?, he] using ih

/-- A new template for an alias is a new template under its name. -/
theorem Sound.commands_rewritten (h : t.Sound) {r : Record} (hr : t.find? name = some r)
    (command : String) :
    (t.rewritten r.id command).commands = Assoc.insert name command t.commands := by
  refine (h.rewritten r.id command).sorted_commands.ext
    (Assoc.sorted_insert h.sorted_commands name command) fun other => ?_
  rw [find?_commands, find?_rewritten]
  by_cases hname : other = name
  · subst hname
    simp [hr, rewriteRecord, Assoc.find?_insert_self]
  · rw [Assoc.find?_insert_of_ne hname, find?_commands]
    cases hr' : t.find? other with
    | none => rfl
    | some r' =>
        have hid : r'.id ≠ r.id := fun heq => hname (h.name_eq_of_id hr hr' heq)
        simp [rewriteRecord, hid]

/-- Without an alias there is no template under its name. -/
theorem Sound.commands_without (h : t.Sound) {r : Record} (hr : t.find? name = some r) :
    (t.without r.id).commands = Assoc.erase name t.commands := by
  refine (h.without r.id).sorted_commands.ext (h.sorted_commands.filter _) fun other => ?_
  have herase := Assoc.find?_erase other name t.commands
  rw [find?_commands, h.find?_without]
  refine Eq.trans ?_ herase.symm
  by_cases hname : other = name
  · subst hname
    simp [hr]
  · rw [if_neg hname, find?_commands]
    cases hr' : t.find? other with
    | none => rfl
    | some r' =>
        have hid : r'.id ≠ r.id := fun heq => hname (h.name_eq_of_id hr hr' heq)
        simp [Option.filter, hid]

theorem commands_ofCommands (m : List (String × String)) :
    (ofCommands m).commands = Assoc.ofList m := by
  have hfold : ∀ t : Table, (m.foldl (fun t e => t.add e.1 e.2) t).commands =
      m.foldl (fun m e => Assoc.insert e.1 e.2 m) t.commands := by
    induction m with
    | nil => exact fun t => rfl
    | cons e m ih => exact fun t => (ih _).trans (by rw [commands_add, List.foldl_cons])
  exact hfold empty

/-- The aliases of a file are numbered in the order of their names. -/
theorem ids_ofCommands {m : List (String × String)} (h : Assoc.Sorted m) :
    (ofCommands m).byName.map (fun e => e.2.id) =
      (List.range m.length).map fun i : Nat => (i : Int) + 1 := by
  -- the numbers go on from the last one of a table whose names are all in front
  have hfold : ∀ t : Table, (∀ e ∈ t.byName, ∀ f ∈ m, e.1 < f.1) →
      (m.foldl (fun t e => t.add e.1 e.2) t).byName.map (fun e => e.2.id) =
        t.byName.map (fun e => e.2.id) ++
          (List.range m.length).map fun i : Nat => t.lastId + ((i : Int) + 1) := by
    induction m with
    | nil => simp
    | cons e m ih =>
        obtain ⟨hlt, hm⟩ := Assoc.sorted_cons.mp h
        intro t ht
        have hadd : (t.add e.1 e.2).byName = t.byName ++ [(e.1, ⟨t.lastId + 1, e.1, e.2⟩)] :=
          Assoc.insert_eq_append (fun f hf => ht f hf e List.mem_cons_self) _
        have hlast : (t.add e.1 e.2).lastId = t.lastId + 1 := rfl
        have hfront : ∀ f ∈ (t.add e.1 e.2).byName, ∀ g ∈ m, f.1 < g.1 := by
          intro f hf g hg
          rcases mem_add hf with rfl | hf
          · exact hlt g hg
          · exact ht f hf g (List.mem_cons_of_mem _ hg)
        have hshift : (List.range m.length).map (fun i : Nat => t.lastId + 1 + ((i : Int) + 1)) =
            ((List.range m.length).map Nat.succ).map fun i : Nat => t.lastId + ((i : Int) + 1) := by
          rw [List.map_map]
          refine List.map_congr_left fun i _ => ?_
          show t.lastId + 1 + ((i : Int) + 1) = t.lastId + (((i + 1 : Nat) : Int) + 1)
          omega
        rw [List.foldl_cons, ih hm _ hfront, hadd, hlast, hshift, List.length_cons,
          List.range_succ_eq_map, List.map_append, List.append_assoc]
        rfl
  have hall := hfold empty (by simp [empty])
  simpa only [ofCommands, empty, List.map_nil, List.nil_append, Int.zero_add] using hall

end CommandConsole.Alias.Table
