import CommandConsole.Proofs.Alias.Overlap

/-!
# Changes that overlap come out as if made one after another

What is left to say of changes that overlap is about the numbers of new aliases and about their
names. Both follow from the decisions of the table alone: a new alias gets a number that is greater
than those before (`Numbered`), and a name that was free belongs to the first who asks for it
(`Claimed`).

`changes_serializable` puts the invariants together.
-/

set_option autoImplicit false

namespace CommandConsole.Alias

namespace Overlap

variable {ι : Type}

/-! ## Numbers and names -/

/-- A change creates an alias with a name. -/
def Creates (change : ι → Change) (name : String) (i : ι) : Prop :=
  ∃ command, change i = .create name command

/-- No alias that was created with a name was deleted. -/
def Undeleted (change : ι → Change) (name : String)
    (results : ι → Option (Except String Int)) : Prop :=
  ∀ i j id, Creates change name i → results i = some (.ok id) → change j = .delete id →
    results j ≠ some (.ok id)

/-- The numbers of new aliases are those given last, and different. -/
structure Numbered (change : ι → Change) (results : ι → Option (Except String Int))
    (t : Table) : Prop where
  le : ∀ name i id, Creates change name i → results i = some (.ok id) → id ≤ t.lastId
  inj : ∀ name name' i j id, Creates change name i → Creates change name' j →
    results i = some (.ok id) → results j = some (.ok id) → i = j

/-- A name that was free at first belongs to those who create an alias with it: what stands under it
is of one of them; the alias of any of them stands there unless it was deleted; and who is refused
came too late. -/
structure Claimed (change : ι → Change) (name : String)
    (results : ι → Option (Except String Int)) (t : Table) : Prop where
  creator : ∀ r, t.find? name = some r →
    ∃ i, Creates change name i ∧ results i = some (.ok r.id)
  standing : Undeleted change name results → ∀ i id, Creates change name i →
    results i = some (.ok id) → ∃ r, t.find? name = some r ∧ r.id = id
  late : ∀ i refusal, Creates change name i → results i = some (.error refusal) →
    ∃ j id, Creates change name j ∧ results j = some (.ok id)

variable [DecidableEq ι] {change : ι → Change} {results : ι → Option (Except String Int)}
  {t t' : Table} {i : ι} {id : Int} {name refusal : String}

/-- A table that refuses to create an alias has one with the name. -/
theorem find?_of_refused {command : String}
    (h : t.apply (.create name command) = .error refusal) : ∃ r, t.find? name = some r := by
  simp only [Table.apply] at h
  split at h
  · next htaken => exact Option.isSome_iff_exists.mp htaken
  · contradiction

/-- A refusal makes no alias. -/
theorem ok_of_refused_iff (hnew : results i = none) (j : ι) (id : Int) :
    Function.update results i (some (.error refusal)) j = some (.ok id) ↔
      results j = some (.ok id) := by
  rw [update_eq_some_iff hnew]
  simp

theorem Numbered.refuse (h : Numbered change results t) (hnew : results i = none) :
    Numbered change (Function.update results i (some (.error refusal))) t := by
  have hsame (j : ι) (id : Int) := @ok_of_refused_iff ι _ results i refusal hnew j id
  constructor
  · intro name j id hj hresult
    exact h.le name j id hj ((hsame j id).mp hresult)
  · intro name name' j k id hj hk hresult hresult'
    exact h.inj name name' j k id hj hk ((hsame j id).mp hresult) ((hsame k id).mp hresult')

/-- The number given last never gets smaller, and a new alias has it. -/
theorem lastId_of_apply {c : Change} (h : t.apply c = .ok (id, t')) :
    t.lastId ≤ t'.lastId ∧
      ∀ name command, c = .create name command → id = t.lastId + 1 ∧ t'.lastId = id := by
  rcases Table.apply_cases h with
    ⟨name, command, rfl, -, rfl, rfl⟩ | ⟨command, rfl, -, rfl⟩ | ⟨rfl, -, rfl⟩
  · have hadd : (t.add name command).lastId = t.lastId + 1 := rfl
    refine ⟨by omega, fun _ _ _ => ⟨rfl, hadd⟩⟩
  · exact ⟨le_refl _, fun _ _ h => nomatch h⟩
  · exact ⟨le_refl _, fun _ _ h => nomatch h⟩

theorem Numbered.take (h : Numbered change results t) (hnew : results i = none)
    (happly : t.apply (change i) = .ok (id, t')) :
    Numbered change (Function.update results i (some (.ok id))) t' := by
  obtain ⟨hle, hcreate⟩ := lastId_of_apply happly
  -- the number of an alias that was there is smaller than that of a new one
  have hold {name : String} {j : ι} {id' : Int} (hj : Creates change name j)
      (hresult : results j = some (.ok id')) : id' ≤ t.lastId := h.le name j id' hj hresult
  constructor
  · intro name j id' hj hresult
    rcases (update_eq_some_iff hnew _ _).mp hresult with hbefore | ⟨rfl, hid⟩
    · have hj' := hold hj hbefore
      omega
    · obtain ⟨command, hchange⟩ := hj
      obtain ⟨-, hlast⟩ := hcreate name command hchange
      obtain rfl := Except.ok.inj hid
      omega
  · -- of two with one number neither is the new one, or both are
    intro name name' j k id' hj hk hresult hresult'
    rcases (update_eq_some_iff hnew _ _).mp hresult with hbefore | ⟨rfl, hid⟩ <;>
      rcases (update_eq_some_iff hnew _ _).mp hresult' with hbefore' | ⟨rfl, hid'⟩
    · exact h.inj name name' j k id' hj hk hbefore hbefore'
    · obtain ⟨command, hchange⟩ := hk
      obtain ⟨hnext, -⟩ := hcreate name' command hchange
      obtain rfl := Except.ok.inj hid'
      have hj' := hold hj hbefore
      omega
    · obtain ⟨command, hchange⟩ := hj
      obtain ⟨hnext, -⟩ := hcreate name command hchange
      obtain rfl := Except.ok.inj hid
      have hk' := hold hk hbefore'
      omega
    · rfl

theorem Claimed.refuse (h : Claimed change name results t) (hnew : results i = none)
    (happly : t.apply (change i) = .error refusal) :
    Claimed change name (Function.update results i (some (.error refusal))) t := by
  have hsame (j : ι) (id : Int) := @ok_of_refused_iff ι _ results i refusal hnew j id
  constructor
  · intro r hr
    obtain ⟨j, hj, hresult⟩ := h.creator r hr
    exact ⟨j, hj, (hsame j r.id).mpr hresult⟩
  · intro hundeleted j id hj hresult
    refine h.standing ?_ j id hj ((hsame j id).mp hresult)
    intro k l id' hk hkresult hdelete hlresult
    exact hundeleted k l id' hk ((hsame k id').mpr hkresult) hdelete ((hsame l id').mpr hlresult)
  · intro j e hj hresult
    rcases (update_eq_some_iff hnew _ _).mp hresult with hbefore | ⟨rfl, -⟩
    · obtain ⟨k, id, hk, hkresult⟩ := h.late j e hj hbefore
      exact ⟨k, id, hk, (hsame k id).mpr hkresult⟩
    · -- it was refused because the name is taken, by one of those who create it
      obtain ⟨command, hchange⟩ := hj
      rw [hchange] at happly
      obtain ⟨r, hr⟩ := find?_of_refused happly
      obtain ⟨k, hk, hkresult⟩ := h.creator r hr
      exact ⟨k, r.id, hk, (hsame k r.id).mpr hkresult⟩

/-- A change that creates no alias with the name keeps who the name belongs to, when it leaves what
stands under the name there, but for what it deletes. -/
theorem Claimed.of_other (h : Claimed change name results t) (hnew : results i = none)
    (hno : ¬ Creates change name i)
    (hfrom : ∀ r', t'.find? name = some r' → ∃ r, t.find? name = some r ∧ r.id = r'.id)
    (hto : ∀ r, t.find? name = some r → (change i = .delete id → r.id ≠ id) →
      ∃ r', t'.find? name = some r' ∧ r'.id = r.id) :
    Claimed change name (Function.update results i (some (.ok id))) t' := by
  have hbefore {j : ι} {r : Except String Int} (hresult : results j = some r) :
      Function.update results i (some (.ok id)) j = some r :=
    (update_eq_some_iff hnew _ _).mpr (.inl hresult)
  have hafter {j : ι} {id' : Int} (hj : Creates change name j)
      (hresult : Function.update results i (some (.ok id)) j = some (.ok id')) :
      results j = some (.ok id') := by
    rcases (update_eq_some_iff hnew _ _).mp hresult with hresult | ⟨rfl, -⟩
    · exact hresult
    · exact absurd hj hno
  constructor
  · intro r' hr'
    obtain ⟨r, hr, hid⟩ := hfrom r' hr'
    obtain ⟨j, hj, hresult⟩ := h.creator r hr
    exact ⟨j, hj, hid ▸ hbefore hresult⟩
  · intro hundeleted j id' hj hresult
    have hundeleted' : Undeleted change name results := fun k l id'' hk hkresult hdelete hlresult =>
      hundeleted k l id'' hk (hbefore hkresult) hdelete (hbefore hlresult)
    obtain ⟨r, hr, rfl⟩ := h.standing hundeleted' j id' hj (hafter hj hresult)
    refine hto r hr fun hdelete heq => ?_
    exact hundeleted j i r.id hj hresult (heq ▸ hdelete) (heq ▸ Function.update_self ..)
  · intro j refusal hj hresult
    rcases (update_eq_some_iff hnew _ _).mp hresult with hresult | ⟨-, hno⟩
    · obtain ⟨k, id', hk, hkresult⟩ := h.late j refusal hj hresult
      exact ⟨k, id', hk, hbefore hkresult⟩
    · contradiction

/-- A change that creates an alias with the name finds it free, so it is the first. -/
theorem Claimed.of_creation {command : String} (h : Claimed change name results t)
    (hnew : results i = none) (hchange : change i = .create name command)
    (hfree : t.find? name = none) :
    Claimed change name (Function.update results i (some (.ok (t.lastId + 1))))
      (t.add name command) := by
  have hfound := Table.find?_add_self t name command
  have hmade : Function.update results i (some (.ok (t.lastId + 1))) i =
      some (Except.ok (t.lastId + 1)) := Function.update_self ..
  constructor
  · intro r hr
    obtain rfl := Option.some.inj (hfound.symm.trans hr)
    exact ⟨i, ⟨command, hchange⟩, hmade⟩
  · intro hundeleted j id' hj hresult
    rcases (update_eq_some_iff hnew _ _).mp hresult with hresult | ⟨-, hid⟩
    · -- an alias that was created before would stand under the name
      have hundeleted' : Undeleted change name results := by
        intro k l id'' hk hkresult hdelete hlresult
        exact hundeleted k l id'' hk ((update_eq_some_iff hnew _ _).mpr (.inl hkresult)) hdelete
          ((update_eq_some_iff hnew _ _).mpr (.inl hlresult))
      obtain ⟨r, hr, -⟩ := h.standing hundeleted' j id' hj hresult
      rw [hfree] at hr
      contradiction
    · obtain rfl := Except.ok.inj hid
      exact ⟨_, hfound, rfl⟩
  · intro j refusal hj hresult
    exact ⟨i, t.lastId + 1, ⟨command, hchange⟩, hmade⟩

theorem Claimed.take (h : Claimed change name results t) (hsound : t.Sound)
    (hnew : results i = none) (happly : t.apply (change i) = .ok (id, t')) :
    Claimed change name (Function.update results i (some (.ok id))) t' := by
  have hno {c : Change} (hchange : change i = c) (hc : ∀ command, c ≠ .create name command) :
      ¬ Creates change name i := by
    rintro ⟨command, hcreate⟩
    exact hc command (hchange.symm.trans hcreate)
  rcases Table.apply_cases happly with
    ⟨n, command, hchange, hfree, rfl, rfl⟩ | ⟨command, hchange, -, rfl⟩ | ⟨hchange, -, rfl⟩
  · by_cases hn : n = name
    · subst hn
      exact h.of_creation hnew hchange hfree
    · have hfind : (t.add n command).find? name = t.find? name :=
        Table.find?_add_of_ne (Ne.symm hn)
      refine h.of_other hnew (hno hchange fun _ heq => hn (Change.create.inj heq).1) ?_ ?_
      · intro r hr
        exact ⟨r, hfind.symm.trans hr, rfl⟩
      · intro r hr _
        exact ⟨r, hfind.trans hr, rfl⟩
  · have hfind := Table.find?_rewritten t id command name
    refine h.of_other hnew (hno hchange fun _ heq => nomatch heq) ?_ ?_
    · intro r' hr'
      rw [hfind] at hr'
      obtain ⟨r, hr, rfl⟩ := Option.map_eq_some_iff.mp hr'
      exact ⟨r, hr, (Table.rewriteRecord_id id command r).symm⟩
    · intro r hr _
      rw [hfind, hr]
      exact ⟨_, rfl, Table.rewriteRecord_id id command r⟩
  · have hfind := hsound.find?_without id name
    refine h.of_other hnew (hno hchange fun _ heq => nomatch heq) ?_ ?_
    · intro r hr
      rw [hfind] at hr
      exact ⟨r, (Option.filter_eq_some_iff.mp hr).1, rfl⟩
    · intro r hr hkept
      rw [hfind, hr]
      exact ⟨r, by simp [hkept hchange], rfl⟩

/-! ## Whole traces -/

variable {path : String} {c c' c₀ : Overlap ι} {e : Event ι} {events : List (Event ι)}
  {s₀ : MemoryStore} {files₀ : Files}

/-- What the decisions of the table keep, every step keeps. -/
theorem Step.keeps {P : (ι → Option (Except String Int)) → Table → Prop}
    (hstep : Step path change c e c') (hwrites : ∀ i message, e ≠ .failed i message)
    (hrefuse : ∀ i refusal, c.results i = none → c.table.apply (change i) = .error refusal →
      P (Function.update c.results i (some (.error refusal))) c.table)
    (htake : ∀ i id t, c.results i = none → c.table.apply (change i) = .ok (id, t) →
      P (Function.update c.results i (some (.ok id))) t)
    (h : P c.results c.table) : P c'.results c'.table := by
  rcases hstep.decides hwrites with ⟨-, htable, hresults⟩ | ⟨i, r, -, hi, -, hresults, hanswer⟩
  · rw [htable, hresults]
    exact h
  · have hnew : c.results i = none := by rw [results, hi]; rfl
    rw [hresults]
    rcases hanswer with ⟨refusal, rfl, happly, htable⟩ | ⟨id, rfl, happly⟩
    · rw [htable]
      exact hrefuse i refusal hnew happly
    · exact htake i id c'.table hnew happly

/-- The invariants of changes that overlap on a store. -/
structure Invariant (path : String) (change : ι → Change) (s₀ : MemoryStore) (files₀ : Files)
    (events : List (Event ι)) (c : Overlap ι) : Prop where
  locked : c.Locked
  ordered : Ordered events c
  serial : Serial path change s₀ files₀ events c
  sound : c.table.Sound
  numbered : Numbered change c.results c.table
  claimed : ∀ name, s₀.table.find? name = none → Claimed change name c.results c.table

omit [DecidableEq ι] in
theorem invariant_start (hfile : s₀.file = some path) (hsound : s₀.table.Sound) :
    Invariant path change s₀ files₀ [] (start s₀.table files₀) where
  locked := locked_start _ _
  ordered := ordered_start _ _
  serial := serial_start path change hfile
  sound := hsound
  numbered := ⟨fun _ _ _ _ h => (nomatch h), fun _ _ _ _ _ _ _ h => (nomatch h)⟩
  claimed := fun name hfree => by
    refine ⟨fun r hr => ?_, fun _ _ _ _ h => (nomatch h), fun _ _ _ h => (nomatch h)⟩
    have hr' : s₀.table.find? name = some r := hr
    rw [hfree] at hr'
    contradiction

theorem Invariant.step (h : Invariant path change s₀ files₀ events c)
    (hstep : Step path change c e c') (hwrites : ∀ i message, e ≠ .failed i message) :
    Invariant path change s₀ files₀ (events ++ [e]) c' where
  locked := h.locked.step hstep
  ordered := h.ordered.step h.locked hstep hwrites
  serial := h.serial.step h.locked hstep hwrites
  sound := hstep.keeps (P := fun _ t => t.Sound) hwrites (fun _ _ _ _ => h.sound)
    (fun _ _ _ _ happly => h.sound.apply happly) h.sound
  numbered := hstep.keeps hwrites (fun _ _ hnew _ => h.numbered.refuse hnew)
    (fun _ _ _ hnew happly => h.numbered.take hnew happly) h.numbered
  claimed := fun name hfree => hstep.keeps hwrites
    (fun _ _ hnew happly => (h.claimed name hfree).refuse hnew happly)
    (fun _ _ _ hnew happly => (h.claimed name hfree).take h.sound hnew happly)
    (h.claimed name hfree)

/-- **Every trace keeps the invariants.** -/
theorem invariant_of_trace (hfile : s₀.file = some path) (hsound : s₀.table.Sound)
    (htrace : Trace path change (start s₀.table files₀) events c)
    (hwrites : ∀ i message, .failed i message ∉ events) :
    Invariant path change s₀ files₀ events c := by
  induction htrace with
  | nil => exact invariant_start hfile hsound
  | @snoc events c c' e _ hstep ih =>
      have hbefore : ∀ i message, .failed i message ∉ events := fun i message hmem =>
        hwrites i message (List.mem_append_left _ hmem)
      refine (ih hbefore).step hstep fun i message heq => ?_
      exact hwrites i message (List.mem_append_right _ (by simp [heq]))

omit [DecidableEq ι] in
/-- The changes among the calls that the table answered are its decisions. -/
theorem filter_exchanges (change : ι → Change) (events : List (Event ι)) :
    (exchanges change events).filter (·.1.isChange) =
      (decisions events).map fun d => (.change (change d.1), .changed d.2) := by
  induction events with
  | nil => rfl
  | cons e events ih =>
      unfold exchanges decisions at ih ⊢
      cases e <;>
        simp [List.filterMap_cons, List.filter_cons, Event.exchange?, Event.decision?, ih]

omit [DecidableEq ι] in
/-- When nobody has the lock, who has a result has returned with it. -/
theorem Locked.returned_iff (h : c.Locked) (hfree : c.holder = none) (i : ι)
    (r : Except String Int) : c.phase i = .returned r ↔ c.results i = some r := by
  have hidle : ¬ (c.phase i).Busy := by
    rw [← h i, hfree]
    simp
  unfold results
  cases hi : c.phase i with
  | waiting => simp [Phase.result?]
  | returned r' => simp [Phase.result?]
  | _ => exact absurd (by rw [hi]; trivial) hidle

omit [DecidableEq ι] in
/-- Who has returned with a result has it from the table. -/
theorem result_of_returned {r : Except String Int} (h : c.phase i = .returned r) :
    c.results i = some r := by
  rw [results, h]
  rfl

/-! ## When nobody has the lock -/

namespace Invariant

variable (h : Invariant path change s₀ files₀ events c) (hfree : c.holder = none)

include h hfree

omit [DecidableEq ι] in
theorem not_busy (i : ι) : ¬ (c.phase i).Busy := by
  rw [← h.locked i, hfree]
  simp

omit [DecidableEq ι] in
theorem settled : c.Settled path c.files := by
  refine settled_of_none fun i => ?_
  rintro ⟨id, commands, hi⟩
  exact h.not_busy hfree i (by rw [hi]; trivial)

omit [DecidableEq ι] in
/-- All who got the lock have their result. -/
theorem decisions_eq : (decisions events).map Prod.fst = acquisitions events := by
  rcases h.ordered.acquired with ⟨-, hall⟩ | ⟨i, hi, -⟩
  · exact hall.symm
  · exact absurd (by rw [hi]; trivial) (h.not_busy hfree i)

omit [DecidableEq ι] in
/-- The calls one after another, without the look-ups. -/
theorem run_decisions : s₀.run files₀ ((decisions events).map fun d => .change (change d.1)) =
    ((decisions events).map fun d => .changed d.2, ⟨c.table, some path⟩, c.files) := by
  have hrun := MemoryStore.run_changes (h.serial.run c.files (h.settled hfree))
  rw [filter_exchanges] at hrun
  simpa [Function.comp_def] using hrun

omit [DecidableEq ι] in
/-- **The file holds the table** once a change was made. -/
theorem file_of_returned (hfile : s₀.file = some path) {i : ι} {id : Int}
    (hi : c.phase i = .returned (.ok id)) :
    c.files.read path = .ok (fileText (isYaml path) c.table.commands) ∧
      ((isYaml path = true → YamlRestores c.table.commands) →
        load c.files path = .ok c.table.commands) := by
  have hdecision : (i, .ok id) ∈ decisions events :=
    (h.ordered.decided i _).mp (result_of_returned hi)
  have hmade : .changed (.ok id) ∈ (exchanges change events).map Prod.snd := by
    have hexchange : (.change (change i), .changed (.ok id)) ∈
        (exchanges change events).filter (·.1.isChange) := by
      rw [filter_exchanges]
      exact List.mem_map.mpr ⟨_, hdecision, rfl⟩
    exact List.mem_map.mpr ⟨_, List.mem_of_mem_filter hexchange, rfl⟩
  have hsettled := h.settled hfree
  -- one after another, the calls leave the table in the file
  rcases MemoryStore.run_cases hfile (h.serial.writable c.files hsettled)
      (h.serial.run c.files hsettled) with ⟨hnone, -⟩ | ⟨-, -, path', hpath, hkept⟩
  · exact absurd hmade (hnone id)
  · obtain rfl : path = path' := Option.some.inj hpath
    exact ⟨hkept, load_of_read hkept h.sound.sorted_commands⟩

omit [DecidableEq ι] in
/-- **One of those who create an alias with a free name succeeds**, and no other. -/
theorem existsUnique_creator (hname : s₀.table.find? name = none)
    (hundeleted : ∀ i j id, Creates change name i → c.phase i = .returned (.ok id) →
      change j = .delete id → c.phase j ≠ .returned (.ok id))
    (hany : ∃ i r, Creates change name i ∧ c.phase i = .returned r) :
    ∃! i, Creates change name i ∧ ∃ id, c.phase i = .returned (.ok id) := by
  have hclaimed := h.claimed name hname
  have hreturned := h.locked.returned_iff hfree
  have hundeleted' : Undeleted change name c.results := by
    intro i j id hi hresult hdelete hresult'
    exact hundeleted i j id hi ((hreturned i _).mpr hresult) hdelete
      ((hreturned j _).mpr hresult')
  -- one of them was the first, and its alias stands under the name
  obtain ⟨i, id, hi, hresult⟩ : ∃ i id, Creates change name i ∧
      c.results i = some (.ok id) := by
    obtain ⟨i, r, hi, hr⟩ := hany
    cases r with
    | ok id => exact ⟨i, id, hi, result_of_returned hr⟩
    | error e => exact hclaimed.late i e hi (result_of_returned hr)
  refine ⟨i, ⟨hi, id, (hreturned i _).mpr hresult⟩, ?_⟩
  -- the alias of another one would stand there too, with the same number
  rintro j ⟨hj, id', hj'⟩
  obtain ⟨r, hr, rfl⟩ := hclaimed.standing hundeleted' i id hi hresult
  obtain ⟨r', hr', rfl⟩ := hclaimed.standing hundeleted' j id' hj (result_of_returned hj')
  obtain rfl := Option.some.inj (hr.symm.trans hr')
  exact h.numbered.inj name name j i r.id hj hi (result_of_returned hj') hresult

end Invariant

/-- **Changes that overlap come out as if made one after another.** Changes are made on a memory
store with a file, all at once and with look-ups between their steps, and no write of the file
fails. Whenever nobody has the lock: each change that got it has returned, with what the table
decided for it, in the order of the lock; the replies, the table and the files are those of the
calls made one after another in that order, with the look-ups and without them; if a change was
made, the file holds the table, and is loaded as it; and of those who create an alias with a name
that was free, and whose alias nobody deleted, exactly one has succeeded if any has returned. At any
moment the aliases that were created have different numbers. -/
theorem changes_serializable (hfile : s₀.file = some path) (hsound : s₀.table.Sound)
    (htrace : Trace path change (start s₀.table files₀) events c)
    (hwrites : ∀ i message, .failed i message ∉ events) :
    (c.holder = none →
      ((acquisitions events).Nodup ∧ (decisions events).map Prod.fst = acquisitions events ∧
        ∀ i r, c.phase i = .returned r ↔ (i, r) ∈ decisions events) ∧
      s₀.run files₀ ((exchanges change events).map Prod.fst) =
        ((exchanges change events).map Prod.snd, ⟨c.table, some path⟩, c.files) ∧
      s₀.run files₀ ((decisions events).map fun d => .change (change d.1)) =
        ((decisions events).map fun d => .changed d.2, ⟨c.table, some path⟩, c.files) ∧
      ((∃ i id, c.phase i = .returned (.ok id)) →
        c.files.read path = .ok (fileText (isYaml path) c.table.commands) ∧
        ((isYaml path = true → YamlRestores c.table.commands) →
          load c.files path = .ok c.table.commands)) ∧
      ∀ name, s₀.table.find? name = none →
        (∀ i j id, Creates change name i → c.phase i = .returned (.ok id) →
          change j = .delete id → c.phase j ≠ .returned (.ok id)) →
        (∃ i r, Creates change name i ∧ c.phase i = .returned r) →
        ∃! i, Creates change name i ∧ ∃ id, c.phase i = .returned (.ok id)) ∧
    ∀ name name' i j id, Creates change name i → Creates change name' j →
      c.phase i = .returned (.ok id) → c.phase j = .returned (.ok id) → i = j := by
  have h := invariant_of_trace hfile hsound htrace hwrites
  constructor
  · intro hfree
    have hdecided (i : ι) (r : Except String Int) :
        c.phase i = .returned r ↔ (i, r) ∈ decisions events := by
      rw [h.locked.returned_iff hfree, h.ordered.decided]
    refine ⟨⟨h.ordered.nodup, h.decisions_eq hfree, hdecided⟩,
      h.serial.run c.files (h.settled hfree), h.run_decisions hfree, ?_, ?_⟩
    · rintro ⟨i, id, hi⟩
      exact h.file_of_returned hfree hfile hi
    · intro name hname hundeleted hany
      exact h.existsUnique_creator hfree hname hundeleted hany
  · intro name name' i j id hi hj hi' hj'
    exact h.numbered.inj name name' i j id hi hj (result_of_returned hi') (result_of_returned hj')

/-- Two changes that create an alias with one name, and one that changes it. -/
def rivals : Fin 3 → Change
  | 0 => .create "k" "a"
  | 1 => .create "k" "b"
  | 2 => .update 1 "c"

/-- The second of them gets the lock first, and its alias is found before it is written. -/
def rivalEvents : List (Event (Fin 3)) :=
  [.acquired 1, .found "k" none, .applied 1 (.ok 1), .found "k" (some ⟨1, "k", "b"⟩), .written 1,
    .released 1, .acquired 0, .applied 0 (.error "alias 'k' already exists"), .acquired 2,
    .applied 2 (.ok 1), .written 2, .released 2]

theorem exists_rivals : ∃ c, Trace "a.json" rivals (start .empty []) rivalEvents c ∧
    c.holder = none ∧ c.phase 0 = .returned (.error "alias 'k' already exists") ∧
    c.phase 1 = .returned (.ok 1) ∧ c.phase 2 = .returned (.ok 1) ∧
    c.table.commands = [("k", "c")] := by
  have hstart : Trace "a.json" rivals (start .empty []) [] (start .empty []) := .nil
  have htrace := hstart |>.snoc (.acquire (i := 1) rfl rfl) |>.snoc (.find "k")
    |>.snoc (.take (i := 1) rfl rfl) |>.snoc (.find "k") |>.snoc (.write (i := 1) rfl rfl)
    |>.snoc (.release (i := 1) rfl)
    |>.snoc (.acquire (i := 0) rfl rfl) |>.snoc (.refuse (i := 0) rfl rfl)
    |>.snoc (.acquire (i := 2) rfl rfl) |>.snoc (.take (i := 2) rfl rfl)
    |>.snoc (.write (i := 2) rfl rfl) |>.snoc (.release (i := 2) rfl)
  exact ⟨_, htrace, rfl, rfl, rfl, rfl, rfl⟩

/-- What comes out of it: the first of them is too late, and the file holds what is left. -/
theorem changes_serializable_rivals :
    ∃ c, Trace "a.json" rivals (start .empty []) rivalEvents c ∧
      (∀ i message, .failed i message ∉ rivalEvents) ∧ c.holder = none ∧
      acquisitions rivalEvents = [1, 0, 2] ∧
      (∃! i, Creates rivals "k" i ∧ ∃ id, c.phase i = .returned (.ok id)) ∧
      c.files.read "a.json" = .ok (fileText false [("k", "c")]) := by
  obtain ⟨c, htrace, hfree, h0, h1, h2, hcommands⟩ := exists_rivals
  have hwrites : ∀ i message, .failed i message ∉ rivalEvents := by simp [rivalEvents]
  have hfile : (⟨.empty, some "a.json"⟩ : MemoryStore).file = some "a.json" := rfl
  have hall := (changes_serializable hfile Table.sound_empty htrace hwrites).1 hfree
  obtain ⟨-, -, -, hkept, hnames⟩ := hall
  refine ⟨c, htrace, hwrites, hfree, rfl, hnames "k" rfl ?_ ⟨1, _, ⟨"b", rfl⟩, h1⟩, ?_⟩
  · -- none of them deletes
    intro i j id hi hresult hdelete
    match j with
    | 0 => contradiction
    | 1 => contradiction
    | 2 => contradiction
  · have hread := (hkept ⟨1, 1, h1⟩).1
    rwa [hcommands] at hread

end Overlap

end CommandConsole.Alias
