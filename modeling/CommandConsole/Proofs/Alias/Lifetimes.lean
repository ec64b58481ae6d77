import CommandConsole.Proofs.Alias.Calls

/-!
# How long an alias is found

An alias comes to a memory store with the file that is loaded, or with a call that creates it. From
then on it is found under its name until a call deletes it, with the template that it was given last
(`find?_run_iff`). The calls go by the number of an alias, so all this rests on no two aliases ever
having the same one: a new number is above all the numbers before (`lt_of_creation`).

What one call does is said once, by `Effect`: it tells the tables before and behind apart by their
answers under the one name that the call is about.
-/

set_option autoImplicit false

namespace CommandConsole.Alias

namespace Table

variable {t : Table} {id : Int}

/-- No alias that is found has the number. -/
def Lacks (t : Table) (id : Int) : Prop := ∀ name r, t.find? name = some r → r.id ≠ id

/-- In a sound table the aliases are those that are found. -/
theorem Sound.exists_of_has (h : t.Sound) (hhas : t.has id = true) :
    ∃ name r, t.find? name = some r ∧ r.id = id := by
  obtain ⟨e, he, hid⟩ := List.any_eq_true.mp hhas
  exact ⟨e.1, e.2, (Assoc.find?_eq_some_iff_mem h.sorted).mpr he, by simpa using hid⟩

theorem lacks_of_not_has (hhas : t.has id = false) : t.Lacks id := by
  rintro name r hr rfl
  rw [has_of_find? hr] at hhas
  contradiction

/-- The number of an alias that is found was given to it. -/
theorem Sound.id_le (h : t.Sound) {name : String} {r : Record} (hr : t.find? name = some r) :
    r.id ≤ t.lastId :=
  (h.given (name, r) (Assoc.mem_of_find?_eq_some hr)).2

end Table

namespace MemoryStore

variable {s s' s₁ : MemoryStore} {files files' files₁ : Files} {name : String} {r : Record}

/-! ## The effect of a change -/

/-- A store has become another one by a change under one name, and the file that follows it, if one
does, was written. -/
structure OnlyAt (name : String) (s : MemoryStore) (files : Files) (s' : MemoryStore)
    (files' : Files) : Prop where
  elsewhere : ∀ other, other ≠ name → s'.table.find? other = s.table.find? other
  file : s'.file = s.file
  written : s'.write files = .ok files'

/-- **What a change does**, and when: what it returns, and the store and the files behind it. -/
inductive Effect (s : MemoryStore) (files : Files) :
    Change → Except String Int → MemoryStore → Files → Prop where
  | nameTaken {name command : String} {r : Record} : s.table.find? name = some r →
      Effect s files (.create name command) (.error s!"alias '{name}' already exists") s files
  | nothingToUpdate {id : Int} {command : String} : s.table.Lacks id →
      Effect s files (.update id command) (.error s!"alias #{id} does not exist") s files
  | nothingToDelete {id : Int} : s.table.Lacks id →
      Effect s files (.delete id) (.error s!"alias #{id} does not exist") s files
  | created {name command : String} {s' : MemoryStore} {files' : Files} :
      s.table.find? name = none →
      s'.table.find? name = some ⟨s.table.lastId + 1, name, command⟩ →
      OnlyAt name s files s' files' →
      Effect s files (.create name command) (.ok (s.table.lastId + 1)) s' files'
  | updated {name command : String} {r : Record} {s' : MemoryStore} {files' : Files} :
      s.table.find? name = some r →
      s'.table.find? name = some { r with command := command } →
      OnlyAt name s files s' files' →
      Effect s files (.update r.id command) (.ok r.id) s' files'
  | deleted {name : String} {r : Record} {s' : MemoryStore} {files' : Files} :
      s.table.find? name = some r →
      s'.table.find? name = none →
      OnlyAt name s files s' files' →
      Effect s files (.delete r.id) (.ok r.id) s' files'

/-- A change that the table refuses has no other effect than to say why. -/
theorem effect_of_refused {c : Change} {e : String} (h : s.table.apply c = .error e) :
    Effect s files c (.error e) s files := by
  cases c with
  | create name command =>
      rw [Table.apply] at h
      split at h
      · next htaken =>
          obtain ⟨r, hr⟩ := Option.isSome_iff_exists.mp htaken
          obtain rfl := Except.error.inj h
          exact .nameTaken hr
      · contradiction
  | update id command =>
      rw [Table.apply] at h
      split at h
      · contradiction
      · next hhas =>
          obtain rfl := Except.error.inj h
          exact .nothingToUpdate (Table.lacks_of_not_has (Bool.eq_false_iff.mpr hhas))
  | delete id =>
      rw [Table.apply] at h
      split at h
      · contradiction
      · next hhas =>
          obtain rfl := Except.error.inj h
          exact .nothingToDelete (Table.lacks_of_not_has (Bool.eq_false_iff.mpr hhas))

/-- A change that the table takes and that is written shows under one name. -/
theorem effect_of_taken (hsound : s.table.Sound) {c : Change} {id : Int} {table : Table}
    (h : s.table.apply c = .ok (id, table))
    (hwrite : ({ s with table := table } : MemoryStore).write files = .ok files') :
    Effect s files c (.ok id) { s with table := table } files' := by
  -- the table with the number has the alias under one name only
  have hother {name other : String} {r : Record} (hr : s.table.find? name = some r)
      (hne : other ≠ name) (r' : Record) (hr' : s.table.find? other = some r') : r'.id ≠ r.id :=
    fun hid => hne (hsound.name_eq_of_id hr hr' hid)
  rcases Table.apply_cases h with
    ⟨name, command, rfl, hfree, rfl, rfl⟩ | ⟨command, rfl, hhas, rfl⟩ | ⟨rfl, hhas, rfl⟩
  · refine .created hfree (Table.find?_add_self s.table name command) ⟨?_, rfl, hwrite⟩
    exact fun other hne => Table.find?_add_of_ne hne
  · obtain ⟨name, r, hr, rfl⟩ := hsound.exists_of_has hhas
    refine .updated hr ?_ ⟨fun other hne => ?_, rfl, hwrite⟩
    · simp [Table.find?_rewritten, hr, Table.rewriteRecord]
    · show (s.table.rewritten r.id command).find? other = _
      rw [Table.find?_rewritten]
      cases hr' : s.table.find? other with
      | none => rfl
      | some r' => simp [Table.rewriteRecord, hother hr hne r' hr']
  · obtain ⟨name, r, hr, rfl⟩ := hsound.exists_of_has hhas
    refine .deleted hr ?_ ⟨fun other hne => ?_, rfl, hwrite⟩
    · simp [hsound.find?_without, hr]
    · show (s.table.without r.id).find? other = _
      rw [hsound.find?_without]
      cases hr' : s.table.find? other with
      | none => rfl
      | some r' => simp [Option.filter, hother hr hne r' hr']

/-- **Every change that can write the file has its effect.** -/
theorem effect_of_change (hsound : s.table.Sound) {c : Change} {result : Except String Int}
    (hwritable : s.Writable files (.change c)) (h : s.change files c = (result, s', files')) :
    Effect s files c result s' files' := by
  rcases change_cases hwritable with
    ⟨e, hrefused, hchange⟩ | ⟨id, table, written, htaken, hwrite, hchange⟩
  · obtain ⟨rfl, rfl, rfl⟩ : _ = result ∧ s = s' ∧ files = files' := by simpa [hchange] using h
    exact effect_of_refused hrefused
  · obtain ⟨rfl, rfl, rfl⟩ : _ = result ∧ _ = s' ∧ written = files' := by simpa [hchange] using h
    exact effect_of_taken hsound htaken hwrite

/-! ## What happens to an alias -/

/-- An alias was created. -/
def creation (id : Int) (name command : String) : Call × Reply :=
  (.change (.create name command), .changed (.ok id))

/-- An alias was deleted. -/
def deletion (id : Int) : Call × Reply := (.change (.delete id), .changed (.ok id))

/-- The template that an exchange gave to the alias with a number, if it did. -/
def given? (id : Int) : Call × Reply → Option String
  | (.change (.update i command), .changed (.ok _)) => if i = id then some command else none
  | _ => none

/-- An alias behind exchanges, with the template that they gave it last. -/
def told (r : Record) (xs : List (Call × Reply)) : Record :=
  { r with command := ((xs.filterMap (given? r.id)).getLast?).getD r.command }

theorem told_cons (r : Record) (x : Call × Reply) (xs : List (Call × Reply)) :
    told r (x :: xs) = told (told r [x]) xs := by
  cases hgiven : given? r.id x with
  | none => simp [told, hgiven]
  | some command => simp [told, hgiven, List.getLast?_cons]

/-- An alias came to a store, and these exchanges followed: it was there at the start, or it was
created. -/
inductive Came (s : MemoryStore) (xs : List (Call × Reply)) (name : String) :
    Record → List (Call × Reply) → Prop where
  | loaded {r : Record} : s.table.find? name = some r → Came s xs name r xs
  | created (front back : List (Call × Reply)) {id : Int} {command : String} :
      xs = front ++ creation id name command :: back → Came s xs name ⟨id, name, command⟩ back

/-- An alias that a call has left under a name: one that it created, or one that was there before,
if the call did not delete it. -/
def Left (t : Table) (name : String) (x : Call × Reply) (r : Record) : Prop :=
  (∃ id command, x = creation id name command ∧ r = ⟨id, name, command⟩) ∨
    ∃ r₀, t.find? name = some r₀ ∧ x ≠ deletion r₀.id ∧ r = told r₀ [x]

/-- An exchange leaves a name alone if it creates no alias under it and neither deletes the alias
that is there nor gives it a template. -/
theorem left_iff_of_aside {t : Table} {x : Call × Reply}
    (hcreated : ∀ id command, x ≠ creation id name command)
    (haside : ∀ r₀, t.find? name = some r₀ → x ≠ deletion r₀.id ∧ given? r₀.id x = none) :
    Left t name x r ↔ t.find? name = some r := by
  have htold {r₀ : Record} (hr₀ : t.find? name = some r₀) : told r₀ [x] = r₀ := by
    simp [told, (haside r₀ hr₀).2]
  constructor
  · rintro (⟨id, command, hx, -⟩ | ⟨r₀, hr₀, -, rfl⟩)
    · exact absurd hx (hcreated id command)
    · rw [htold hr₀]
      exact hr₀
  · exact fun hr => .inr ⟨r, hr, (haside r hr).1, (htold hr).symm⟩

/-- An effect under one name leaves under each what the exchange says. -/
theorem Effect.find?_iff (hsound : s.table.Sound) {c : Change} {result : Except String Int}
    (h : Effect s files c result s₁ files₁) :
    s₁.table.find? name = some r ↔ Left s.table name (.change c, .changed result) r := by
  -- no other alias has the number of one that is found
  have hother {n : String} {r' r₀ : Record} (hr' : s.table.find? n = some r') (hname : name ≠ n)
      (hr₀ : s.table.find? name = some r₀) : r'.id ≠ r₀.id :=
    fun hid => hname (hsound.name_eq_of_id hr' hr₀ hid.symm)
  cases h with
  | nameTaken _ =>
      exact (left_iff_of_aside (by simp [creation]) (by simp [deletion, given?])).symm
  | nothingToUpdate _ =>
      exact (left_iff_of_aside (by simp [creation]) (by simp [deletion, given?])).symm
  | nothingToDelete _ =>
      exact (left_iff_of_aside (by simp [creation]) (by simp [deletion, given?])).symm
  | @created n command _ _ hfree hnew honly =>
      by_cases hname : name = n
      · subst hname
        simp [Left, hnew, hfree, creation, and_assoc, eq_comm]
      · rw [honly.elsewhere name hname]
        refine (left_iff_of_aside ?_ (by simp [deletion, given?])).symm
        simp [creation, Ne.symm hname]
  | @updated n command r' _ _ hr' hnew honly =>
      by_cases hname : name = n
      · subst hname
        have htold : told r' [(.change (.update r'.id command), .changed (.ok r'.id))] =
            { r' with command := command } := by
          simp [told, given?]
        simp [Left, hnew, hr', creation, deletion, htold, eq_comm]
      · rw [honly.elsewhere name hname]
        refine (left_iff_of_aside (by simp [creation]) fun r₀ hr₀ => ?_).symm
        simp [deletion, given?, hother hr' hname hr₀]
  | @deleted n r' _ _ hr' hgone honly =>
      by_cases hname : name = n
      · subst hname
        simp [Left, hgone, hr', creation, deletion]
      · rw [honly.elsewhere name hname]
        refine (left_iff_of_aside (by simp [creation]) fun r₀ hr₀ => ?_).symm
        simp [deletion, given?, hother hr' hname hr₀]

/-- **What one call leaves under a name.** -/
theorem find?_call_iff (hsound : s.table.Sound) {c : Call} {reply : Reply}
    (hwritable : s.Writable files c) (hcall : s.call files c = (reply, s₁, files₁)) :
    s₁.table.find? name = some r ↔ Left s.table name (c, reply) r := by
  cases c with
  | find other =>
      obtain ⟨rfl, rfl, -⟩ : _ = reply ∧ s = s₁ ∧ files = files₁ := by simpa [call] using hcall
      exact (left_iff_of_aside (by simp [creation]) (by simp [deletion, given?])).symm
  | change c =>
      obtain ⟨⟨result, s₂, files₂⟩, hchange⟩ : ∃ made, s.change files c = made := ⟨_, rfl⟩
      obtain ⟨rfl, rfl, rfl⟩ : .changed result = reply ∧ s₂ = s₁ ∧ files₂ = files₁ := by
        simpa [call, hchange] using hcall
      exact (effect_of_change hsound hwritable hchange).find?_iff hsound

/-! ## Exchanges one after another -/

theorem exists_of_run_append {xs ys : List (Call × Reply)}
    (h : s.run files ((xs ++ ys).map Prod.fst) = ((xs ++ ys).map Prod.snd, s', files')) :
    ∃ s₁ files₁, s.run files (xs.map Prod.fst) = (xs.map Prod.snd, s₁, files₁) ∧
      s₁.run files₁ (ys.map Prod.fst) = (ys.map Prod.snd, s', files') := by
  induction xs generalizing s files with
  | nil => exact ⟨s, files, rfl, h⟩
  | cons x xs ih =>
      obtain ⟨reply, rest, s₂, files₂, hcall, hrest, hreplies⟩ := exists_of_run_cons h
      obtain ⟨rfl, rfl⟩ := List.cons.inj hreplies
      obtain ⟨s₁, files₁, hfront, hback⟩ := ih hrest
      refine ⟨s₁, files₁, ?_, hback⟩
      rw [List.map_cons, List.map_cons, run, hcall]
      simp [hfront]

theorem exists_of_run_exchange {x : Call × Reply} {xs : List (Call × Reply)}
    (h : s.run files ((x :: xs).map Prod.fst) = ((x :: xs).map Prod.snd, s', files')) :
    ∃ s₁ files₁, s.call files x.1 = (x.2, s₁, files₁) ∧
      s₁.run files₁ (xs.map Prod.fst) = (xs.map Prod.snd, s', files') := by
  obtain ⟨reply, rest, s₁, files₁, hcall, hrest, hreplies⟩ := exists_of_run_cons h
  obtain ⟨rfl, rfl⟩ := List.cons.inj hreplies
  exact ⟨s₁, files₁, hcall, hrest⟩

/-- **What exchanges leave under a name**: an alias that came to the store, was not deleted since,
and has the template that it was given last. -/
theorem find?_run_iff {xs : List (Call × Reply)} (hsound : s.table.Sound)
    (hwrites : s.AllWritable files (xs.map Prod.fst))
    (hrun : s.run files (xs.map Prod.fst) = (xs.map Prod.snd, s', files')) :
    s'.table.find? name = some r ↔
      ∃ first since, Came s xs name first since ∧ deletion first.id ∉ since ∧
        r = told first since := by
  induction xs generalizing s files with
  | nil =>
      obtain ⟨rfl, -⟩ : s = s' ∧ files = files' := by simpa [run] using hrun
      constructor
      · exact fun hr => ⟨r, [], .loaded hr, List.not_mem_nil, rfl⟩
      · rintro ⟨first, since, ⟨hr⟩ | ⟨front, back, hcut⟩, -, rfl⟩
        · exact hr
        · simp at hcut
  | cons x xs ih =>
      obtain ⟨s₁, files₁, hcall, hrest⟩ := exists_of_run_exchange hrun
      obtain ⟨hwritable, hwrites'⟩ := (allWritable_cons hcall).mp hwrites
      have hsound₁ : s₁.table.Sound := sound_of_call hsound hcall
      -- what is there behind the first call was created by it, or came before it
      have hfirst (r : Record) : s₁.table.find? name = some r ↔ Left s.table name x r :=
        find?_call_iff hsound hwritable hcall
      rw [ih hsound₁ hwrites' hrest]
      constructor
      · rintro ⟨first, since, ⟨hr⟩ | ⟨front, back, hcut⟩, hdeleted, rfl⟩
        · rcases (hfirst first).mp hr with ⟨id, command, rfl, rfl⟩ | ⟨r₀, hr₀, hx, rfl⟩
          · exact ⟨_, xs, .created [] xs rfl, hdeleted, rfl⟩
          · refine ⟨r₀, x :: xs, .loaded hr₀, ?_, (told_cons r₀ x xs).symm⟩
            exact fun hmem => (List.mem_cons.mp hmem).elim (fun h => hx h.symm) hdeleted
        · exact ⟨_, since, .created (x :: front) since (congrArg (x :: ·) hcut), hdeleted, rfl⟩
      · rintro ⟨first, since, ⟨hr⟩ | ⟨front, back, hcut⟩, hdeleted, rfl⟩
        · obtain ⟨hx, hdeleted⟩ := not_or.mp (mt List.mem_cons.mpr hdeleted)
          have hleft := (hfirst _).mpr (.inr ⟨first, hr, fun h => hx h.symm, rfl⟩)
          exact ⟨told first [x], xs, .loaded hleft, hdeleted, told_cons first x xs⟩
        · rcases List.cons_eq_append_iff.mp hcut with ⟨-, hhead⟩ | ⟨rest, -, hback⟩
          · obtain ⟨rfl, rfl⟩ := List.cons.inj hhead
            exact ⟨_, since, .loaded ((hfirst _).mpr (.inl ⟨_, _, rfl, rfl⟩)), hdeleted, rfl⟩
          · exact ⟨_, since, .created rest since hback, hdeleted, rfl⟩

/-! ## New numbers -/

/-- A change that is reported as made was taken by the table. -/
theorem apply_of_change {c : Change} {id : Int} (h : s.change files c = (.ok id, s', files')) :
    s.table.apply c = .ok (id, s'.table) := by
  cases happly : s.table.apply c with
  | error e => simp [change_of_refused happly] at h
  | ok taken =>
      obtain ⟨id', table⟩ := taken
      cases hwrite : ({ s with table := table } : MemoryStore).write files with
      | error e => simp [change, happly, hwrite] at h
      | ok written =>
          rw [change_of_written happly hwrite] at h
          obtain ⟨rfl, rfl, -⟩ : id' = id ∧ _ = s' ∧ _ := by simpa using h
          rfl

/-- The number given last never gets less. -/
theorem lastId_le_call (c : Call) : s.table.lastId ≤ (s.call files c).2.1.table.lastId := by
  have htaken {c : Change} {id : Int} {table : Table} (h : s.table.apply c = .ok (id, table)) :
      s.table.lastId ≤ table.lastId := by
    rcases Table.apply_cases h with
      ⟨name, command, -, -, -, rfl⟩ | ⟨command, -, -, rfl⟩ | ⟨-, -, rfl⟩
    · exact Int.le_add_one (Int.le_refl _)
    · exact Int.le_refl _
    · exact Int.le_refl _
  cases c with
  | find name => exact Int.le_refl _
  | change c =>
      simp only [call, change]
      split
      · exact Int.le_refl _
      · next id table happly =>
          split
          · exact htaken happly
          · exact htaken happly

theorem lastId_le_run {calls : List Call} {replies : List Reply}
    (hrun : s.run files calls = (replies, s', files')) : s.table.lastId ≤ s'.table.lastId := by
  induction calls generalizing s files replies with
  | nil =>
      obtain ⟨-, rfl, -⟩ : [] = replies ∧ s = s' ∧ files = files' := by simpa [run] using hrun
      exact Int.le_refl _
  | cons c calls ih =>
      obtain ⟨reply, rest, s₁, files₁, hcall, hrest, -⟩ := exists_of_run_cons hrun
      have hone : s.table.lastId ≤ s₁.table.lastId := by
        have hlast : s.table.lastId ≤ (s.call files c).2.1.table.lastId := lastId_le_call c
        rwa [hcall] at hlast
      exact Int.le_trans hone (ih hrest)

/-- **A new alias has a number above all that any alias had before.** -/
theorem lt_of_creation {front back : List (Call × Reply)} {id : Int} {command : String}
    (hsound : s.table.Sound)
    (hrun : s.run files ((front ++ creation id name command :: back).map Prod.fst) =
      ((front ++ creation id name command :: back).map Prod.snd, s', files'))
    {earlier : List (Call × Reply)} (hearlier : earlier <+: front) {other : String}
    (hr : (s.run files (earlier.map Prod.fst)).2.1.table.find? other = some r) : r.id < id := by
  obtain ⟨later, rfl⟩ := hearlier
  rw [List.append_assoc] at hrun
  -- the store that has the other alias, and the one that is asked for the new one
  obtain ⟨s₁, files₁, hrun₁, hrest⟩ := exists_of_run_append hrun
  obtain ⟨s₂, files₂, hrun₂, hrest⟩ := exists_of_run_append hrest
  obtain ⟨s₃, files₃, hcall, -⟩ := exists_of_run_exchange hrest
  rw [hrun₁] at hr
  have hheld : r.id ≤ s₁.table.lastId := (sound_run hsound hrun₁).id_le hr
  have hgrown : s₁.table.lastId ≤ s₂.table.lastId := lastId_le_run hrun₂
  have hnew : id = s₂.table.lastId + 1 := by
    have hchange : s₂.change files₂ (.create name command) = (.ok id, s₃, files₃) := by
      simpa [creation, call, Prod.ext_iff] using hcall
    rcases Table.apply_cases (apply_of_change hchange) with
      ⟨_, _, -, -, hid, -⟩ | ⟨_, hc, -⟩ | ⟨hc, -⟩
    · exact hid
    · simp at hc
    · simp at hc
  omega

/-! ## Memory stores from the beginning -/

/-- A memory store at its beginning, and the templates by name that were loaded for it: a memory
store without a file, or one that was opened on a path where there is a file or none. -/
inductive Begins (files : Files) : MemoryStore → List (String × String) → Prop where
  | new : Begins files .empty []
  | absent {path : String} {s : MemoryStore} : files.exists? path = false →
      open? files path = .ok s → Begins files s []
  | loaded {path : String} {s : MemoryStore} {commands : List (String × String)} :
      files.exists? path = true → load files path = .ok commands →
      open? files path = .ok s → Begins files s commands

theorem Begins.table_eq {commands : List (String × String)} (h : Begins files s commands) :
    s.table = .ofCommands commands := by
  cases h with
  | new => rfl
  | absent hpath hopen =>
      rw [open?, hpath] at hopen
      obtain rfl := Except.ok.inj hopen
      rfl
  | loaded hpath hload hopen =>
      rw [open?, hpath, hload] at hopen
      obtain rfl := Except.ok.inj hopen
      rfl

/-- **The integrity of an alias table.** A memory store without a file, or one that was opened on a
path, is called any number of times, and every file that has to be written can be. It begins with
the templates that were loaded, the last one under each name. In the end each alias stands under its
own name, and the numbers are those of one alias each and at most the one that was given last. Under
a name an alias is found if and only if it was loaded or created under it and not deleted since,
with the template that it was given last. Each new alias has a number above those of all aliases
that the store had before. And the next change again does what `Effect` says: it concerns the alias
with its name or number alone, and where this is taken or not there it fails and leaves everything
as it was. -/
theorem table_integrity {commands : List (String × String)} {xs : List (Call × Reply)}
    (hbegins : Begins files s commands)
    (hwrites : s.AllWritable files (xs.map Prod.fst))
    (hrun : s.run files (xs.map Prod.fst) = (xs.map Prod.snd, s', files')) :
    (∀ name, (s.table.find? name).map Record.command =
      Assoc.find? name (Assoc.ofList commands)) ∧
    s'.table.Sound ∧
    (∀ name r, s'.table.find? name = some r ↔
      ∃ first since, Came s xs name first since ∧ deletion first.id ∉ since ∧
        r = told first since) ∧
    (∀ front back id name command, xs = front ++ creation id name command :: back →
      ∀ earlier, earlier <+: front → ∀ other r,
        (s.run files (earlier.map Prod.fst)).2.1.table.find? other = some r → r.id < id) ∧
    (∀ c, s'.Writable files' (.change c) → ∀ result s₁ files₁,
      s'.change files' c = (result, s₁, files₁) → Effect s' files' c result s₁ files₁) := by
  have hsound : s.table.Sound := by
    rw [hbegins.table_eq]
    exact Table.sound_ofCommands commands
  have hsound' : s'.table.Sound := sound_run hsound hrun
  refine ⟨fun name => ?_, hsound', fun name r => find?_run_iff hsound hwrites hrun, ?_, ?_⟩
  · rw [← Table.find?_commands, hbegins.table_eq, Table.commands_ofCommands]
  · rintro front back id name command rfl earlier hearlier other r hr
    exact lt_of_creation hsound hrun hearlier hr
  · exact fun c hwritable result s₁ files₁ hchange => effect_of_change hsound' hwritable hchange

/-- A file with two templates. -/
def twoTemplates : Files := [(["a.json"], .text "\x7b\"a\": \"one\", \"b\": \"two\"\x7d")]

/-- One of them gets another template; the other is deleted and created again, with a number of its
own. -/
def exchanges : List (Call × Reply) :=
  [(.change (.update 2 "three"), .changed (.ok 2)), deletion 1,
    (.change (.create "b" "x"), .changed (.error "alias 'b' already exists")),
    creation 3 "a" "four", (.find "b", .found (some ⟨2, "b", "three"⟩))]

/-- What is found behind these calls. -/
theorem table_integrity_exchanges :
    ∃ s s' files', Begins twoTemplates s [("a", "one"), ("b", "two")] ∧
      s.AllWritable twoTemplates (exchanges.map Prod.fst) ∧
      s.run twoTemplates (exchanges.map Prod.fst) = (exchanges.map Prod.snd, s', files') ∧
      s'.table.find? "a" = some ⟨3, "a", "four"⟩ ∧
      s'.table.find? "b" = some ⟨2, "b", "three"⟩ := by
  have hbegins : Begins twoTemplates ⟨.ofCommands [("a", "one"), ("b", "two")], some "a.json"⟩
      [("a", "one"), ("b", "two")] := by
    have hpath : twoTemplates.exists? "a.json" = true := rfl
    exact .loaded hpath rfl rfl
  have hwrites : AllWritable ⟨.ofCommands [("a", "one"), ("b", "two")], some "a.json"⟩
      twoTemplates (exchanges.map Prod.fst) :=
    ⟨writable_of_written rfl rfl, writable_of_written rfl rfl, writable_of_refused rfl,
      writable_of_written rfl rfl, trivial, trivial⟩
  refine ⟨_, _, _, hbegins, hwrites, rfl, ?_, ?_⟩
  · obtain ⟨-, -, hfound, -⟩ := table_integrity hbegins hwrites rfl
    exact (hfound "a" ⟨3, "a", "four"⟩).mpr
      ⟨⟨3, "a", "four"⟩, _, .created (exchanges.take 3) (exchanges.drop 4) rfl,
        by simp [exchanges, deletion], rfl⟩
  · obtain ⟨-, -, hfound, -⟩ := table_integrity hbegins hwrites rfl
    exact (hfound "b" ⟨2, "b", "three"⟩).mpr
      ⟨⟨2, "b", "two"⟩, exchanges, .loaded rfl, by simp [exchanges, deletion, creation], rfl⟩

end MemoryStore

end CommandConsole.Alias
