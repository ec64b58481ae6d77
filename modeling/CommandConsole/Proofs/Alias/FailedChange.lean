import CommandConsole.Alias.Store
import CommandConsole.Proofs.Alias.Table

/-!
# Changes of aliases that fail

A change of an alias fails where the table refuses it, and then nothing has happened
(`change_of_refused`). It also fails where the table takes it and the file that follows cannot be
written, and then the table keeps what it took (`change_of_unwritten`): the caller is told that the
change failed, and finds it made.

`change_error` says which failed changes show: those that the table took, that change it, and whose
file could not be written. All others leave everything as it was. `create_fails_and_shows` is the
creation of an alias that fails and shows.
-/

set_option autoImplicit false

namespace CommandConsole.Alias.MemoryStore

/-- Two stores have the same templates and give the same answer to every lookup. -/
def SameAnswers (s s' : MemoryStore) : Prop :=
  s'.table.commands = s.table.commands ∧ ∀ name, s'.table.find? name = s.table.find? name

/-- A change gets stuck on the way to the file: the table takes it and is another one by it, and
the file cannot be written. -/
def Stuck (s : MemoryStore) (files : Files) (c : Change) : Prop :=
  ∃ id table path trouble, s.table.apply c = .ok (id, table) ∧ table ≠ s.table ∧
    s.file = some path ∧ save files path table.commands = .error trouble

variable {s s' : MemoryStore} {files files' : Files} {c : Change}

/-! ## The two ways to fail -/

/-- A change that the table refuses has not happened. -/
theorem change_of_refused {e : String} (h : s.table.apply c = .error e) :
    s.change files c = (.error e, s, files) := by
  unfold change
  rw [h]

/-- A change that the table took stays in the table when the file cannot be written. -/
theorem change_of_unwritten {id : Int} {table : Table} {path : String} {trouble : Trouble}
    (h : s.table.apply c = .ok (id, table)) (hfile : s.file = some path)
    (hsave : save files path table.commands = .error trouble) :
    s.change files c = (.error trouble.message, { s with table := table }, files) := by
  have hwrite : ({ s with table := table } : MemoryStore).write files = .error trouble.message := by
    simp only [write, hfile, hsave]
  simp only [change, h, hwrite]

/-- A change that the table takes fails only at the file. -/
theorem unwritten_of_change {id : Int} {table : Table} {e : String}
    (h : s.table.apply c = .ok (id, table)) (hfails : s.change files c = (.error e, s', files')) :
    ∃ path trouble, s.file = some path ∧ save files path table.commands = .error trouble := by
  simp only [change, h, write] at hfails
  cases hfile : s.file with
  | none => simp [hfile] at hfails
  | some path =>
      cases hsave : save files path table.commands with
      | error trouble => exact ⟨path, trouble, rfl, hsave⟩
      | ok written => simp [hfile, hsave] at hfails

/-! ## What shows of a failed change -/

/-- **Which failed changes show.** A change that fails never changes the files. It changes what the
table answers exactly where it got stuck on the way to the file; in every other case it has changed
nothing at all. -/
theorem change_error {e : String} (h : s.change files c = (.error e, s', files')) :
    files' = files ∧ (s.SameAnswers s' ↔ ¬ s.Stuck files c) ∧ (s.SameAnswers s' → s' = s) := by
  cases happly : s.table.apply c with
  | error refusal =>
      have hnothing := h.symm.trans (change_of_refused happly)
      obtain ⟨-, rfl, rfl⟩ : _ ∧ s' = s ∧ files' = files := by simpa using hnothing
      refine ⟨rfl, ⟨fun _ => ?_, fun _ => ⟨rfl, fun _ => rfl⟩⟩, fun _ => rfl⟩
      rintro ⟨id, table, path, trouble, htaken, -⟩
      rw [happly] at htaken
      contradiction
  | ok taken =>
      obtain ⟨id, table⟩ := taken
      obtain ⟨path, trouble, hfile, hsave⟩ := unwritten_of_change happly h
      have hkept := h.symm.trans (change_of_unwritten happly hfile hsave)
      obtain ⟨-, rfl, rfl⟩ : _ ∧ s' = { s with table := table } ∧ files' = files := by
        simpa using hkept
      -- a table that gives the same answers is the same table
      have hsame (hanswers : s.SameAnswers { s with table := table }) : table = s.table :=
        Table.eq_of_apply happly hanswers.1 hanswers.2
      refine ⟨rfl, ⟨?_, ?_⟩, ?_⟩
      · rintro hanswers ⟨id', table', -, -, htaken, hne, -⟩
        rw [happly] at htaken
        cases htaken
        exact hne (hsame hanswers)
      · intro hfree
        by_cases htable : table = s.table
        · subst htable
          exact ⟨rfl, fun _ => rfl⟩
        · exact absurd ⟨id, table, path, trouble, happly, htable, hfile, hsave⟩ hfree
      · intro hanswers
        rw [hsame hanswers]

/-- An alias whose file is in a directory that is not there cannot be saved, and shows. -/
theorem change_error_stuck :
    (⟨.empty, some "nodir/a.json"⟩ : MemoryStore).Stuck [] (.create "k" "x") ∧
      ¬ SameAnswers ⟨.empty, some "nodir/a.json"⟩
        ⟨Table.empty.add "k" "x", some "nodir/a.json"⟩ := by
  have hstuck : (⟨.empty, some "nodir/a.json"⟩ : MemoryStore).Stuck [] (.create "k" "x") :=
    ⟨1, Table.empty.add "k" "x", "nodir/a.json", _, rfl, by decide, rfl, rfl⟩
  have hfails : (⟨.empty, some "nodir/a.json"⟩ : MemoryStore).change [] (.create "k" "x") =
      (.error "failed to write alias file: nodir/a.json: No such file or directory (os error 2)",
        ⟨Table.empty.add "k" "x", some "nodir/a.json"⟩, []) := rfl
  exact ⟨hstuck, fun hanswers => (change_error hfails).2.1.mp hanswers hstuck⟩

/-- What the caller sees of it: the creation failed, the alias is there, and creating it again is
refused because it is. -/
theorem create_fails_and_shows :
    ∃ s s' : MemoryStore, open? [] "nodir/a.json" = .ok s ∧
      s.change [] (.create "k" "x") =
        (.error "failed to write alias file: nodir/a.json: No such file or directory (os error 2)",
          s', []) ∧
      s.table.commands = [] ∧ s'.table.commands = [("k", "x")] ∧
      s.table.find? "k" = none ∧ s'.table.find? "k" = some ⟨1, "k", "x"⟩ ∧
      s'.change [] (.create "k" "x") = (.error "alias 'k' already exists", s', []) :=
  ⟨⟨.empty, some "nodir/a.json"⟩, ⟨Table.empty.add "k" "x", some "nodir/a.json"⟩,
    rfl, rfl, rfl, rfl, rfl, rfl, rfl⟩

end CommandConsole.Alias.MemoryStore
