import CommandConsole.Proofs.Alias.FailedChange
import CommandConsole.Proofs.Alias.File

/-!
# Calls of a memory store

A memory store is asked for aliases and for changes, one call after another (`run`). Where every
file that has to be written can be, a change either is refused by the table, and then nothing
happens, or is made in the table and in the file (`change_cases`). So from the first change that is
made on, the file holds the table, and until then nothing has changed (`run_cases`).

`file_follows_table` puts that together with the reading of files: a file is loaded as the table
that it follows, and a memory store that is opened on it has the same templates under the same
names.
-/

set_option autoImplicit false

namespace CommandConsole.Alias

/-- What a memory store is asked. -/
inductive Call where
  | find (name : String)
  | change (c : Change)
deriving DecidableEq, Repr

/-- Whether a call asks for a change. -/
def Call.isChange : Call → Bool
  | .find _ => false
  | .change _ => true

@[simp] theorem Call.isChange_find (name : String) : (Call.find name).isChange = false := rfl

@[simp] theorem Call.isChange_change (c : Change) : (Call.change c).isChange = true := rfl

/-- What a call returns. -/
inductive Reply where
  | found (r : Option Record)
  | changed (result : Except String Int)

namespace MemoryStore

/-- What a call returns and leaves behind. -/
def call (s : MemoryStore) (files : Files) : Call → Reply × MemoryStore × Files
  | .find name => (.found (s.table.find? name), s, files)
  | .change c =>
      let (result, s, files) := s.change files c
      (.changed result, s, files)

/-- What calls return, one after another, and leave behind. -/
def run (s : MemoryStore) (files : Files) : List Call → List Reply × MemoryStore × Files
  | [] => ([], s, files)
  | c :: calls =>
      let (reply, s, files) := s.call files c
      let (replies, s, files) := run s files calls
      (reply :: replies, s, files)

/-- A change that the table takes can be written to the file. -/
def Writable (s : MemoryStore) (files : Files) : Call → Prop
  | .find _ => True
  | .change c => ∀ id table, s.table.apply c = .ok (id, table) →
      ∃ written, ({ s with table := table } : MemoryStore).write files = .ok written

/-- Each of the calls, when it comes to it, can write the file. -/
def AllWritable (s : MemoryStore) (files : Files) : List Call → Prop
  | [] => True
  | c :: calls =>
      s.Writable files c ∧ AllWritable (s.call files c).2.1 (s.call files c).2.2 calls

/-- The file of a store holds its table, in the format of its path. -/
def Kept (s : MemoryStore) (files : Files) : Prop :=
  ∃ path, s.file = some path ∧ files.read path = .ok (fileText (isYaml path) s.table.commands)

variable {s s' : MemoryStore} {files files' : Files} {c : Change} {path : String}
  {calls : List Call}
  {replies : List Reply}

/-! ## One change -/

/-- A change that the table takes and the file is written with. -/
theorem change_of_written {id : Int} {table : Table} {written : Files}
    (h : s.table.apply c = .ok (id, table))
    (hwrite : ({ s with table := table } : MemoryStore).write files = .ok written) :
    s.change files c = (.ok id, { s with table := table }, written) := by
  simp only [change, h, hwrite]

/-- **What a change is** that can write the file. -/
theorem change_cases (h : s.Writable files (.change c)) :
    (∃ e, s.table.apply c = .error e ∧ s.change files c = (.error e, s, files)) ∨
    (∃ id table written, s.table.apply c = .ok (id, table) ∧
      ({ s with table := table } : MemoryStore).write files = .ok written ∧
      s.change files c = (.ok id, { s with table := table }, written)) := by
  cases happly : s.table.apply c with
  | error e => exact .inl ⟨e, rfl, change_of_refused happly⟩
  | ok taken =>
      obtain ⟨id, table⟩ := taken
      obtain ⟨written, hwrite⟩ := h id table happly
      exact .inr ⟨id, table, written, rfl, hwrite, change_of_written happly hwrite⟩

theorem writable_of_refused {e : String} (h : s.table.apply c = .error e) :
    s.Writable files (.change c) := by
  intro id table htaken
  rw [h] at htaken
  contradiction

theorem writable_of_written {id : Int} {table : Table} {written : Files}
    (h : s.table.apply c = .ok (id, table))
    (hwrite : ({ s with table := table } : MemoryStore).write files = .ok written) :
    s.Writable files (.change c) := by
  intro id' table' htaken
  obtain ⟨rfl, rfl⟩ : id = id' ∧ table = table' := by simpa [h] using htaken
  exact ⟨written, hwrite⟩

/-- A file that was written holds the table. -/
theorem kept_of_write {written : Files} (hfile : s.file = some path)
    (h : s.write files = .ok written) : s.Kept written := by
  refine ⟨path, hfile, ?_⟩
  simp only [write, hfile] at h
  split at h
  · next hsave =>
      obtain rfl := Except.ok.inj h
      exact read_of_save hsave
  · contradiction

/-! ## Calls one after another -/

theorem exists_of_run_cons {c : Call} (h : s.run files (c :: calls) = (replies, s', files')) :
    ∃ reply rest s₁ files₁, s.call files c = (reply, s₁, files₁) ∧
      s₁.run files₁ calls = (rest, s', files') ∧ replies = reply :: rest := by
  obtain ⟨hreplies, hrest⟩ := Prod.mk.inj h
  exact ⟨_, _, _, _, rfl, Prod.ext rfl hrest, hreplies.symm⟩

theorem allWritable_cons {c : Call} {reply : Reply} {s₁ : MemoryStore} {files₁ : Files}
    (hcall : s.call files c = (reply, s₁, files₁)) :
    s.AllWritable files (c :: calls) ↔ s.Writable files c ∧ s₁.AllWritable files₁ calls := by
  rw [AllWritable, hcall]

/-- The replies to calls and one call more. -/
theorem run_snoc {c : Call} {reply : Reply} {s₂ : MemoryStore} {files₂ : Files}
    (hrun : s.run files calls = (replies, s', files'))
    (hcall : s'.call files' c = (reply, s₂, files₂)) :
    s.run files (calls ++ [c]) = (replies ++ [reply], s₂, files₂) := by
  induction calls generalizing s files replies with
  | nil =>
      obtain ⟨rfl, rfl, rfl⟩ : [] = replies ∧ s = s' ∧ files = files' := by simpa [run] using hrun
      simp [run, hcall]
  | cons d calls ih =>
      obtain ⟨first, rest, s₁, files₁, hfirst, hrest, rfl⟩ := exists_of_run_cons hrun
      simp [run, hfirst, ih hrest]

theorem allWritable_snoc {c : Call} (hwrites : s.AllWritable files calls)
    (hrun : s.run files calls = (replies, s', files')) (hwritable : s'.Writable files' c) :
    s.AllWritable files (calls ++ [c]) := by
  induction calls generalizing s files replies with
  | nil =>
      obtain ⟨-, rfl, rfl⟩ : [] = replies ∧ s = s' ∧ files = files' := by simpa [run] using hrun
      exact ⟨hwritable, trivial⟩
  | cons d calls ih =>
      obtain ⟨first, rest, s₁, files₁, hfirst, hrest, -⟩ := exists_of_run_cons hrun
      obtain ⟨hd, hwrites'⟩ := (allWritable_cons hfirst).mp hwrites
      exact (allWritable_cons hfirst).mpr ⟨hd, ih hwrites' hrest⟩

/-- Without the look-ups between them, the changes do the same. -/
theorem run_changes {exchanges : List (Call × Reply)}
    (h : s.run files (exchanges.map Prod.fst) = (exchanges.map Prod.snd, s', files')) :
    s.run files ((exchanges.filter (·.1.isChange)).map Prod.fst) =
      ((exchanges.filter (·.1.isChange)).map Prod.snd, s', files') := by
  induction exchanges generalizing s files with
  | nil => exact h
  | cons x exchanges ih =>
      obtain ⟨c, reply⟩ := x
      obtain ⟨reply', rest, s₁, files₁, hcall, hrest, hreplies⟩ := exists_of_run_cons h
      obtain ⟨rfl, rfl⟩ := List.cons.inj hreplies
      cases c with
      | find name =>
          obtain ⟨-, rfl, rfl⟩ : _ ∧ s = s₁ ∧ files = files₁ := by simpa [call] using hcall
          exact ih hrest
      | change c =>
          have hlater := ih hrest
          have hcall' : s.call files (.change c) = (reply, s₁, files₁) := hcall
          rw [List.filter_cons_of_pos (by rfl), List.map_cons, List.map_cons, run, hcall']
          simp [hlater]

/-- One call that can write the file leaves all as it was, or makes a change and writes it. -/
theorem call_cases {c : Call} {reply : Reply} {s₁ : MemoryStore} {files₁ : Files}
    (hfile : s.file = some path) (hwritable : s.Writable files c)
    (hcall : s.call files c = (reply, s₁, files₁)) :
    ((∀ id, reply ≠ .changed (.ok id)) ∧ s₁ = s ∧ files₁ = files) ∨
      ((∃ id, reply = .changed (.ok id)) ∧ s₁.file = some path ∧ s₁.Kept files₁) := by
  cases c with
  | find name =>
      obtain ⟨rfl, rfl, rfl⟩ : _ = reply ∧ s = s₁ ∧ files = files₁ := by simpa [call] using hcall
      exact .inl ⟨by simp, rfl, rfl⟩
  | change c =>
      rcases change_cases hwritable with ⟨e, -, hchange⟩ | ⟨id, table, written, -, hwrite, hchange⟩
      · obtain ⟨rfl, rfl, rfl⟩ : _ = reply ∧ s = s₁ ∧ files = files₁ := by
          simpa [call, hchange] using hcall
        exact .inl ⟨by simp, rfl, rfl⟩
      · obtain ⟨rfl, rfl, rfl⟩ : _ = reply ∧ _ = s₁ ∧ written = files₁ := by
          simpa [call, hchange] using hcall
        exact .inr ⟨⟨id, rfl⟩, hfile, kept_of_write hfile hwrite⟩

/-- **What calls do.** Either no change was made, and all is as it was, or one was, and the file
holds the table. -/
theorem run_cases (hfile : s.file = some path) (hwrites : s.AllWritable files calls)
    (hrun : s.run files calls = (replies, s', files')) :
    ((∀ id, .changed (.ok id) ∉ replies) ∧ s' = s ∧ files' = files) ∨
      ((∃ id, .changed (.ok id) ∈ replies) ∧ s'.file = some path ∧ s'.Kept files') := by
  induction calls generalizing s files replies with
  | nil =>
      obtain ⟨rfl, rfl, rfl⟩ : [] = replies ∧ s = s' ∧ files = files' := by simpa [run] using hrun
      exact .inl ⟨by simp, rfl, rfl⟩
  | cons c calls ih =>
      obtain ⟨reply, rest, s₁, files₁, hcall, hrest, rfl⟩ := exists_of_run_cons hrun
      obtain ⟨hwritable, hwrites'⟩ := (allWritable_cons hcall).mp hwrites
      rcases call_cases hfile hwritable hcall with
        ⟨hnone, rfl, rfl⟩ | ⟨⟨id, rfl⟩, hfile, hkept⟩
      · rcases ih hfile hwrites' hrest with ⟨hnothing, rfl, rfl⟩ | ⟨⟨id, hid⟩, hlater⟩
        · refine .inl ⟨fun id hid => ?_, rfl, rfl⟩
          rcases List.mem_cons.mp hid with hid | hid
          · exact hnone id hid.symm
          · exact hnothing id hid
        · exact .inr ⟨⟨id, List.mem_cons_of_mem _ hid⟩, hlater⟩
      · -- a change was made: what follows either leaves it so or makes another one
        refine .inr ⟨⟨id, List.mem_cons_self⟩, ?_⟩
        rcases ih hfile hwrites' hrest with ⟨-, rfl, rfl⟩ | ⟨-, hlater⟩
        · exact ⟨hfile, hkept⟩
        · exact hlater

/-- One call leaves a sound table sound, whether or not the file can be written. -/
theorem sound_call {c : Call} (h : s.table.Sound) : (s.call files c).2.1.table.Sound := by
  cases c with
  | find name => exact h
  | change c =>
      simp only [call, change]
      split
      · exact h
      · next id table happly =>
          split
          · exact h.apply happly
          · exact h.apply happly

theorem sound_of_call {c : Call} {reply : Reply} {s₁ : MemoryStore} {files₁ : Files}
    (h : s.table.Sound) (hcall : s.call files c = (reply, s₁, files₁)) : s₁.table.Sound := by
  have hsound : (s.call files c).2.1.table.Sound := sound_call h
  rwa [hcall] at hsound

/-- Calls leave a sound table sound. -/
theorem sound_run (h : s.table.Sound) (hrun : s.run files calls = (replies, s', files')) :
    s'.table.Sound := by
  induction calls generalizing s files replies with
  | nil =>
      obtain ⟨-, rfl, -⟩ : [] = replies ∧ s = s' ∧ files = files' := by simpa [run] using hrun
      exact h
  | cons c calls ih =>
      obtain ⟨reply, rest, s₁, files₁, hcall, hrest, rfl⟩ := exists_of_run_cons hrun
      exact ih (sound_of_call h hcall) hrest

/-! ## Memory stores that are opened -/

/-- The store of a file has a sound table. -/
theorem sound_open (h : open? files path = .ok s) : s.file = some path ∧ s.table.Sound := by
  unfold open? at h
  split at h
  · cases hload : load files path with
    | error e => simp [hload, Except.map] at h
    | ok m =>
        obtain rfl : (⟨.ofCommands m, some path⟩ : MemoryStore) = s := by
          simpa [hload, Except.map] using h
        exact ⟨rfl, Table.sound_ofCommands m⟩
  · obtain rfl := Except.ok.inj h
    exact ⟨rfl, Table.sound_empty⟩

/-- **The file follows the table.** A memory store is opened on a path and called, and every file
that has to be written can be. From the first change that is made on, the file holds the table in
the format of the path, and it is loaded as that table; before, nothing has changed. A change that
the table refuses changes neither. At any time a memory store that is opened on the path has the
same templates under the same names. Saving and loading take the format from the path in the same
way. -/
theorem file_follows_table (hopen : open? files path = .ok s)
    (hwrites : s.AllWritable files calls) (hrun : s.run files calls = (replies, s', files')) :
    ((∃ id, .changed (.ok id) ∈ replies) →
      files'.read path = .ok (fileText (isYaml path) s'.table.commands) ∧
      ((isYaml path = true → YamlRestores s'.table.commands) →
        load files' path = .ok s'.table.commands)) ∧
    ((∀ id, .changed (.ok id) ∉ replies) → s' = s ∧ files' = files) ∧
    (∀ c e, s'.table.apply c = .error e → s'.change files' c = (.error e, s', files')) ∧
    ((isYaml path = true → YamlRestores s'.table.commands) →
      ∃ again, open? files' path = .ok again ∧ again.table.commands = s'.table.commands) ∧
    (∀ files text, files.read path = .ok text → Text.isBlankString text = false →
      load files path = (valueOf (isYaml path) text).bind commandsOf) := by
  obtain ⟨hfile, hsound⟩ := sound_open hopen
  have hsorted : Assoc.Sorted s'.table.commands := (sound_run hsound hrun).sorted_commands
  have hcases := run_cases hfile hwrites hrun
  have hread (hmade : ∃ id, .changed (.ok id) ∈ replies) :
      files'.read path = .ok (fileText (isYaml path) s'.table.commands) := by
    obtain ⟨id, hid⟩ := hmade
    rcases hcases with ⟨hnone, -⟩ | ⟨-, hfile', path', hpath', hkept⟩
    · exact absurd hid (hnone id)
    · obtain rfl : path = path' := Option.some.inj (hfile'.symm.trans hpath')
      exact hkept
  refine ⟨fun hmade => ⟨hread hmade, load_of_read (hread hmade) hsorted⟩, fun hnone => ?_,
    fun c e hrefused => change_of_refused hrefused, fun hyaml => ?_, ?_⟩
  · rcases hcases with ⟨-, hsame⟩ | ⟨⟨id, hid⟩, -⟩
    · exact hsame
    · exact absurd hid (hnone id)
  · rcases hcases with ⟨-, rfl, rfl⟩ | ⟨hmade, -⟩
    · exact ⟨s', hopen, rfl⟩
    · refine ⟨_, open?_of_read (hread hmade) hsorted hyaml, ?_⟩
      rw [Table.commands_ofCommands, Assoc.ofList_of_sorted hsorted]
  · intro files text hread hblank
    simp only [load, hread, hblank]
    rfl

/-- Calls about names and templates with quotes, line feeds and marks of YAML; two are refused. -/
def trial : List Call :=
  [.change (.create "say \"hi\"" "one\ntwo"), .change (.create "é" ""), .change (.create "é" "x"),
    .find "é", .change (.delete 7), .change (.update 2 "it's: $1 #")]

/-- What is left by these calls. -/
def trialCommands : List (String × String) := [("say \"hi\"", "one\ntwo"), ("é", "it's: $1 #")]

theorem trialCommands_restored : YamlRestores trialCommands := by
  have hvalue : ((valueOf true (fileText true trialCommands)).bind commandsOf).toOption =
      some trialCommands := by decide +kernel
  unfold YamlRestores
  cases hread : (valueOf true (fileText true trialCommands)).bind commandsOf with
  | error e =>
      rw [hread] at hvalue
      contradiction
  | ok m =>
      rw [hread] at hvalue
      exact congrArg Except.ok (Option.some.inj hvalue)

/-- The calls on a file in YAML that is not there at first. -/
theorem file_follows_table_trial :
    ∃ s files', open? [] "a.yaml" = .ok ⟨.empty, some "a.yaml"⟩ ∧
      AllWritable ⟨.empty, some "a.yaml"⟩ [] trial ∧
      run ⟨.empty, some "a.yaml"⟩ [] trial =
        ([.changed (.ok 1), .changed (.ok 2), .changed (.error "alias 'é' already exists"),
          .found (some ⟨2, "é", ""⟩), .changed (.error "alias #7 does not exist"),
          .changed (.ok 2)], s, files') ∧
      load files' "a.yaml" = .ok trialCommands := by
  have hopen : open? [] "a.yaml" = .ok ⟨.empty, some "a.yaml"⟩ := rfl
  have hwrites : AllWritable ⟨.empty, some "a.yaml"⟩ [] trial :=
    ⟨writable_of_written rfl rfl, writable_of_written rfl rfl, writable_of_refused rfl, trivial,
      writable_of_refused rfl, writable_of_written rfl rfl, trivial⟩
  refine ⟨_, _, hopen, hwrites, rfl, ?_⟩
  have hfollows := file_follows_table hopen hwrites rfl
  exact (hfollows.1 ⟨1, List.mem_cons_self⟩).2 fun _ => trialCommands_restored

end MemoryStore

end CommandConsole.Alias
