import CommandConsole.Proofs.Alias.Calls
import CommandConsole.Proofs.Session.Mirrored

/-!
# Restarts between lines

A console whose aliases are in a JSON file can be thrown away between two lines, and another one can
be built on the file. The other one has the same templates under the same names, but it has numbered
its aliases anew, in the order of their names, so the two are never compared alias by alias. What
counts is which templates a console serves from which files (`Serves`): `alias` does the same on all
consoles that serve the same, and a new console serves what the file holds (`Restorable`). So
restarts between lines that set aliases do not show (`restarts_invisible`), as long as each change
could be written to the file.
-/

set_option autoImplicit false

namespace CommandConsole

/-! ## Files that are written -/

/-- Whether the file can be written with the table behind a change, if the table takes the
change. -/
def Alias.MemoryStore.saves (s : Alias.MemoryStore) (files : Files) (c : Alias.Change) : Bool :=
  match s.table.apply c with
  | .ok (_, table) => (({ s with table := table } : Alias.MemoryStore).write files).isOk
  | .error _ => true

namespace Session

/-- Whether the file can be written at a question: for a change of an alias it has to be. -/
def saves (s : Session) : Query → Bool
  | .changeAlias c =>
      match s.aliases with
      | .memory store => store.saves s.files c
      | _ => true
  | _ => true

/-- Whether the file can be written each time a task asks for it. -/
def savesIn {α : Type} : Task α → Session → Bool
  | .done _, _ => true
  | .ask q next, s =>
      s.saves q && match answer maxNesting q s with
        | some (a, s) => savesIn (next a) s
        | none => true

/-- Whether the file can be written each time lines ask for it, one line after another. -/
def savesAll (s : Session) : List String → Bool
  | [] => true
  | line :: lines =>
      savesIn (Dispatch.execute s.registry s.aliasLimit line) s && match s.execute line with
        | some (_, s) => savesAll s lines
        | none => true

/-! ## Runs with restarts -/

/-- A console that is built on the file at a path: it has the built-in commands and the aliases of
the file. -/
def rebuilt? (console : Session) (files : Files) (path : String) : Option Session :=
  (Alias.MemoryStore.open? files path).toOption.map fun store =>
    { console with registry := Vocabulary.registry, files := files, aliases := .memory store }

/-- What happens: a line is executed, or the console is thrown away and another one is built. -/
inductive Moment where
  | line (text : String)
  | restart (console : Session)

/-- The line that is executed. -/
def Moment.line? : Moment → Option String
  | .line text => some text
  | .restart _ => none

/-- The lines that are executed, in order. -/
def linesOf (moments : List Moment) : List String := moments.filterMap Moment.line?

/-- The outcomes of lines with restarts between them. -/
def executeAllOn (path : String) (s : Session) : List Moment → Option (List Outcome × Session)
  | [] => some ([], s)
  | .line text :: moments => do
      let (outcome, s) ← s.execute text
      let (outcomes, s) ← executeAllOn path s moments
      return (outcome :: outcomes, s)
  | .restart console :: moments => do
      let s ← console.rebuilt? s.files path
      executeAllOn path s moments

/-! ## Consoles over the same file -/

/-- A console with the built-in commands and these files serves these templates by name, and the
file at the path follows. -/
structure Serves (path : String) (files : Files) (m : List (String × String)) (s : Session) :
    Prop where
  registry : s.registry = Vocabulary.registry
  files : s.files = files
  aliases : ∃ t, s.aliases = .memory ⟨t, some path⟩ ∧ t.Sound ∧ t.commands = m

/-- The file at the path gives these templates back, numbered in the order of their names. -/
def Restorable (path : String) (files : Files) (m : List (String × String)) : Prop :=
  Alias.MemoryStore.open? files path = .ok ⟨.ofCommands m, some path⟩

variable {path : String} {files written : Files} {m : List (String × String)} {s : Session}
  {name command old : String}

theorem Serves.sorted (h : Serves path files m s) : Assoc.Sorted m := by
  obtain ⟨t, -, hsound, hcommands⟩ := h.aliases
  exact hcommands ▸ hsound.sorted_commands

theorem Serves.report (h : Serves path files m s) (level : LogLevel) (message : String) :
    Serves path files m (s.report level message) := by
  obtain ⟨log, hlog⟩ := report_eq s level message
  rw [hlog]
  exact ⟨h.registry, h.files, h.aliases⟩

/-- **A new console serves what the file gives back.** -/
theorem serves_rebuilt (h : Restorable path files m) (hsorted : Assoc.Sorted m)
    (console : Session) :
    ∃ s, console.rebuilt? files path = some s ∧ Serves path files m s := by
  refine ⟨{ console with registry := Vocabulary.registry, files := files
                         aliases := .memory ⟨.ofCommands m, some path⟩ }, ?_,
    rfl, rfl, _, rfl, Alias.Table.sound_ofCommands m, ?_⟩
  · rw [rebuilt?, h]
    rfl
  · rw [Alias.Table.commands_ofCommands, Assoc.ofList_of_sorted hsorted]

/-- What was saved is given back. -/
theorem restorable_of_save (hjson : Alias.isYaml path = false) (hsorted : Assoc.Sorted m)
    (h : Alias.save files path m = .ok written) : Restorable path written m := by
  refine Alias.open?_of_read (Alias.read_of_save h) hsorted fun hyaml => ?_
  rw [hjson] at hyaml
  contradiction

/-! ## One change -/

/-- What is found under a name without a template, and under one with a template. -/
theorem Serves.findAlias_none (h : Serves path files m s) (hname : Assoc.find? name m = none) :
    ∃ t, s.aliases = .memory ⟨t, some path⟩ ∧ t.Sound ∧ t.commands = m ∧ t.find? name = none ∧
      s.findAlias name = (.ok none, s) := by
  obtain ⟨t, haliases, hsound, rfl⟩ := h.aliases
  rw [Alias.Table.find?_commands, Option.map_eq_none_iff] at hname
  exact ⟨t, haliases, hsound, rfl, hname, by rw [findAlias_of_memory haliases, hname]⟩

theorem Serves.findAlias_some (h : Serves path files m s) (hname : Assoc.find? name m = some old) :
    ∃ t r, s.aliases = .memory ⟨t, some path⟩ ∧ t.Sound ∧ t.commands = m ∧ t.find? name = some r ∧
      s.findAlias name = (.ok (some r), s) := by
  obtain ⟨t, haliases, hsound, rfl⟩ := h.aliases
  rw [Alias.Table.find?_commands, Option.map_eq_some_iff] at hname
  obtain ⟨r, hr, -⟩ := hname
  exact ⟨t, r, haliases, hsound, rfl, hr, by rw [findAlias_of_memory haliases, hr]⟩

/-- A change that the table takes, with a file that can be written. -/
theorem Serves.changeAlias (h : Serves path files m s) {t t' : Alias.Table} {c : Alias.Change}
    {id : Int} (haliases : s.aliases = .memory ⟨t, some path⟩) (hsound : t.Sound)
    (happly : t.apply c = .ok (id, t'))
    (hsave : Alias.save files path t'.commands = .ok written) :
    ∃ s', s.changeAlias c = (.ok id, s') ∧ Serves path written t'.commands s' := by
  have hwrite : (⟨t', some path⟩ : Alias.MemoryStore).write s.files = .ok written := by
    simp only [Alias.MemoryStore.write, h.files, hsave]
  refine ⟨{ s with aliases := .memory ⟨t', some path⟩, files := written }, ?_,
    h.registry, rfl, t', rfl, hsound.apply happly, rfl⟩
  simp only [Session.changeAlias, haliases, Alias.MemoryStore.change, happly, hwrite]

/-- The file can be written if it can be written at the question. -/
theorem Serves.exists_save (h : Serves path files m s) {t t' : Alias.Table} {c : Alias.Change}
    {id : Int} (haliases : s.aliases = .memory ⟨t, some path⟩)
    (happly : t.apply c = .ok (id, t')) (hsaves : s.saves (.changeAlias c) = true) :
    ∃ written, Alias.save files path t'.commands = .ok written := by
  simp only [saves, haliases, Alias.MemoryStore.saves, happly, Alias.MemoryStore.write,
    h.files] at hsaves
  cases hsave : Alias.save files path t'.commands with
  | ok written => exact ⟨written, rfl⟩
  | error trouble => simp [hsave, Except.isOk, Except.toBool] at hsaves

/-! ## What `alias` does -/

/-- The arguments of `alias` have one result on all consoles that serve these templates from these
files, and leave consoles that serve the same again. -/
def Settles (path : String) (files : Files) (m : List (String × String)) (args : List String)
    (result : Except Fault Output) (files' : Files) (m' : List (String × String)) : Prop :=
  ∀ s, Serves path files m s → ∃ s', s.run (Vocabulary.setAlias args).run = some (result, s') ∧
    Serves path files' m' s'

theorem settles_removal_none (hname : Assoc.find? name m = none) :
    Settles path files m [name, Vocabulary.deleteMark]
      (.ok (.text s!"[!] '{name}' alias doesn't exist")) files m := by
  intro s h
  obtain ⟨t, -, -, -, -, hfind⟩ := h.findAlias_none hname
  exact ⟨s, Vocabulary.run_removeAlias_none hfind, h⟩

theorem settles_removal_some (hname : Assoc.find? name m = some old)
    (hsave : Alias.save files path (Assoc.erase name m) = .ok written) :
    Settles path files m [name, Vocabulary.deleteMark]
      (.ok (.text s!"'{name}' alias deleted successfully")) written (Assoc.erase name m) := by
  intro s h
  obtain ⟨t, r, haliases, hsound, rfl, hr, hfind⟩ := h.findAlias_some hname
  rw [← hsound.commands_without hr] at hsave ⊢
  obtain ⟨s', hchange, h'⟩ := h.changeAlias haliases hsound (Alias.Table.apply_delete hr) hsave
  exact ⟨s', Vocabulary.run_removeAlias_some hfind hchange, h'⟩

/-- Whether `alias` refuses a name, because a command has it up to the case of ASCII letters. -/
def Registered (name : String) : Bool :=
  Registry.containsIgnoringCase (Vocabulary.registry.synopses.map (·.name)) name

theorem settles_registered (hcommand : command ≠ Vocabulary.deleteMark)
    (hregistered : Registered name = true) :
    Settles path files m [name, command] (.error (.error (.badAliasName name))) files m := by
  intro s h
  rw [Vocabulary.setAlias, if_neg hcommand]
  rw [Registered, ← h.registry] at hregistered
  exact ⟨s, Vocabulary.run_defineAlias_registered hregistered, h⟩

theorem settles_update (hcommand : command ≠ Vocabulary.deleteMark)
    (hfree : Registered name = false) (hname : Assoc.find? name m = some old)
    (hsave : Alias.save files path (Assoc.insert name command m) = .ok written) :
    Settles path files m [name, command]
      (.ok (.text s!"'{name}' alias updated successfully")) written
      (Assoc.insert name command m) := by
  intro s h
  obtain ⟨t, r, haliases, hsound, rfl, hr, hfind⟩ := h.findAlias_some hname
  rw [← hsound.commands_rewritten hr] at hsave ⊢
  obtain ⟨s', hchange, h'⟩ :=
    h.changeAlias haliases hsound (Alias.Table.apply_update hr command) hsave
  rw [Vocabulary.setAlias, if_neg hcommand]
  rw [Registered, ← h.registry] at hfree
  exact ⟨_, Vocabulary.run_defineAlias_some hfree hfind hchange, h'.report ..⟩

theorem settles_creation (hcommand : command ≠ Vocabulary.deleteMark)
    (hfree : Registered name = false) (hname : Assoc.find? name m = none)
    (hsave : Alias.save files path (Assoc.insert name command m) = .ok written) :
    Settles path files m [name, command]
      (.ok (.text s!"'{name}' alias created successfully")) written
      (Assoc.insert name command m) := by
  intro s h
  obtain ⟨t, haliases, hsound, rfl, ht, hfind⟩ := h.findAlias_none hname
  rw [← Alias.Table.commands_add] at hsave ⊢
  obtain ⟨s', hchange, h'⟩ :=
    h.changeAlias haliases hsound (Alias.Table.apply_create ht command) hsave
  rw [Vocabulary.setAlias, if_neg hcommand]
  rw [Registered, ← h.registry] at hfree
  exact ⟨_, Vocabulary.run_defineAlias_none hfree hfind hchange, h'.report ..⟩

/-! ## What `alias` asks to be written -/

section

variable {α β : Type} {s₁ : Session}

/-- What is worked out from the result of a task asks for nothing. -/
theorem savesIn_map (t : Task α) (f : α → β) (s : Session) :
    savesIn (do return f (← t)) s = savesIn t s := by
  induction t generalizing s with
  | done a => rfl
  | ask q next ih =>
      show savesIn (.ask q fun a => do return f (← next a)) s = _
      simp only [savesIn]
      cases answer maxNesting q s with
      | none => rfl
      | some p => simp only [ih]

theorem savesIn_log_bind (level : LogLevel) (message : String) (t : Task α) (s : Session) :
    savesIn (Task.log level message >>= fun _ => t) s = savesIn t (s.report level message) := rfl

theorem savesIn_findAlias_bind {reply : Except String (Option Alias.Record)}
    {f : Except String (Option Alias.Record) → Action α} (h : s.findAlias name = (reply, s₁)) :
    savesIn (Action.query (.findAlias name) >>= f).run s = savesIn (f reply).run s₁ := by
  have hask : savesIn (Action.query (.findAlias name) >>= f).run s =
      savesIn (f (s.findAlias name).1).run (s.findAlias name).2 := rfl
  rw [hask, h]

theorem saves_of_savesIn {c : Alias.Change} {f : Except String Int → Action α}
    (h : savesIn (Action.query (.changeAlias c) >>= f).run s = true) :
    s.saves (.changeAlias c) = true :=
  (Bool.and_eq_true_iff.mp h).1

theorem saves_of_removeAlias {r : Alias.Record} (hfind : s.findAlias name = (.ok (some r), s₁))
    (h : savesIn (Vocabulary.removeAlias name).run s = true) :
    s₁.saves (.changeAlias (.delete r.id)) = true := by
  rw [Vocabulary.removeAlias, savesIn_findAlias_bind hfind] at h
  exact saves_of_savesIn h

theorem saves_of_defineAlias (hregistry : s.registry = Vocabulary.registry)
    (hfree : Registered name = false) {reply : Option Alias.Record}
    (hfind : s.findAlias name = (.ok reply, s₁))
    (h : savesIn (Vocabulary.defineAlias name command).run s = true) :
    s₁.saves (.changeAlias (match reply with
      | some r => .update r.id command
      | none => .create name command)) = true := by
  have hask : savesIn (Vocabulary.defineAlias name command).run s =
      savesIn (if Registry.containsIgnoringCase (s.registry.synopses.map (·.name)) name then
        Action.fail (.badAliasName name) else _ : Action Output).run s := rfl
  rw [Registered, ← hregistry] at hfree
  rw [hask, if_neg (by simp [hfree]), savesIn_findAlias_bind hfind] at h
  cases reply with
  | none => exact saves_of_savesIn h
  | some r => exact saves_of_savesIn h

end

/-! ## The same on all consoles -/

section

variable (hjson : Alias.isYaml path = false) (h : Serves path files m s)
  (hrestorable : Restorable path files m)

include hjson h hrestorable

theorem exists_settles_removal (hsaves : savesIn (Vocabulary.removeAlias name).run s = true) :
    ∃ result files' m', Settles path files m [name, Vocabulary.deleteMark] result files' m' ∧
      Restorable path files' m' := by
  cases hname : Assoc.find? name m with
  | none => exact ⟨_, files, m, settles_removal_none hname, hrestorable⟩
  | some old =>
      obtain ⟨t, r, haliases, hsound, hcommands, hr, hfind⟩ := h.findAlias_some hname
      obtain ⟨written, hsave⟩ := h.exists_save haliases (Alias.Table.apply_delete hr)
        (saves_of_removeAlias hfind hsaves)
      rw [hsound.commands_without hr, hcommands] at hsave
      exact ⟨_, written, _, settles_removal_some hname hsave,
        restorable_of_save hjson (h.sorted.filter _) hsave⟩

theorem exists_settles_definition (hcommand : command ≠ Vocabulary.deleteMark)
    (hsaves : savesIn (Vocabulary.defineAlias name command).run s = true) :
    ∃ result files' m', Settles path files m [name, command] result files' m' ∧
      Restorable path files' m' := by
  have hsorted := Assoc.sorted_insert h.sorted name command
  cases hfree : Registered name with
  | true => exact ⟨_, files, m, settles_registered hcommand hfree, hrestorable⟩
  | false =>
      cases hname : Assoc.find? name m with
      | none =>
          obtain ⟨t, haliases, -, hcommands, ht, hfind⟩ := h.findAlias_none hname
          obtain ⟨written, hsave⟩ := h.exists_save haliases (Alias.Table.apply_create ht command)
            (saves_of_defineAlias h.registry hfree hfind hsaves)
          rw [Alias.Table.commands_add, hcommands] at hsave
          exact ⟨_, written, _, settles_creation hcommand hfree hname hsave,
            restorable_of_save hjson hsorted hsave⟩
      | some old =>
          obtain ⟨t, r, haliases, hsound, hcommands, hr, hfind⟩ := h.findAlias_some hname
          obtain ⟨written, hsave⟩ := h.exists_save haliases (Alias.Table.apply_update hr command)
            (saves_of_defineAlias h.registry hfree hfind hsaves)
          rw [hsound.commands_rewritten hr, hcommands] at hsave
          exact ⟨_, written, _, settles_update hcommand hfree hname hsave,
            restorable_of_save hjson hsorted hsave⟩

/-- **`alias` does the same on all consoles** that serve the same templates from the same files, if
one of them can write the file; and the file gives back what they serve then. -/
theorem exists_settles {args : List String}
    (hsaves : savesIn (Vocabulary.setAlias args).run s = true) :
    ∃ result files' m', Settles path files m args result files' m' ∧
      Restorable path files' m' := by
  unfold Vocabulary.setAlias at hsaves
  split at hsaves
  · next name command =>
      split at hsaves
      · next hdelete =>
          subst hdelete
          exact exists_settles_removal hjson h hrestorable hsaves
      · next hcommand => exact exists_settles_definition hjson h hrestorable hcommand hsaves
  · next hother =>
      -- with other arguments nothing is asked of the console
      refine ⟨.error (.panic none), files, m, fun s' h' => ⟨s', ?_, h'⟩, hrestorable⟩
      unfold Vocabulary.setAlias
      split
      · next name command => exact absurd rfl (hother name command)
      · rfl

/-- **A line that sets an alias** does the same on all these consoles. -/
theorem exists_execute {line : String} {args : List String}
    (hline : Line.tokenize line = "alias" :: args)
    (hsaves : savesIn (Dispatch.execute s.registry s.aliasLimit line) s = true) :
    ∃ outcome files' m', (∀ s', Serves path files m s' → ∃ s'', s'.execute line =
      some (outcome, s'') ∧ Serves path files' m' s'') ∧ Restorable path files' m' := by
  obtain ⟨d, hlookup, hhandler, -⟩ := Vocabulary.lookup_alias
  have hcall (s' : Session) (h' : Serves path files m s') :
      Dispatch.execute s'.registry s'.aliasLimit line = Dispatch.call d args := by
    rw [Dispatch.execute, h'.registry, Dispatch.executeWithin_of_registered _ hline hlookup]
  rw [hcall s h] at hsaves
  cases haccepts : d.signature.accepts (args.map String.toList) with
  | false =>
      refine ⟨.error (.badArguments d.name d.usage), files, m, fun s' h' => ?_, hrestorable⟩
      refine ⟨s'.report .debug (Dispatch.refusalNote d args), ?_, h'.report ..⟩
      rw [execute, hcall s' h', Dispatch.call_of_refused haccepts, run_log_bind]
      rfl
  | true =>
      rw [Dispatch.call_of_accepted haccepts, hhandler, savesIn_log_bind, savesIn_map] at hsaves
      obtain ⟨result, files', m', hsettles, hrestorable'⟩ :=
        exists_settles hjson (h.report ..) hrestorable hsaves
      refine ⟨Dispatch.settle d.name result, files', m', fun s' h' => ?_, hrestorable'⟩
      obtain ⟨s'', hrun, h''⟩ := hsettles _ (h'.report .debug (Dispatch.callNote d args))
      refine ⟨s'', ?_, h''⟩
      rw [execute, hcall s' h', Dispatch.call_of_accepted haccepts, hhandler, run_log_bind,
        run_bind, hrun]
      rfl

end

/-! ## Lines with restarts between them -/

/-- Two consoles that serve the same templates from the same files, one of which is thrown away
again and again. -/
theorem exists_executeAllOn (hjson : Alias.isYaml path = false) {moments : List Moment}
    (hlines : ∀ line ∈ linesOf moments, ∃ args, Line.tokenize line = "alias" :: args)
    {s s' : Session} (h : Serves path files m s) (h' : Serves path files m s')
    (hrestorable : Restorable path files m) (hsaves : s.savesAll (linesOf moments) = true) :
    ∃ outcomes files' m' s₁ s₁', s.executeAll (linesOf moments) = some (outcomes, s₁) ∧
      executeAllOn path s' moments = some (outcomes, s₁') ∧ Serves path files' m' s₁ ∧
      Serves path files' m' s₁' ∧ Restorable path files' m' := by
  induction moments generalizing files m s s' with
  | nil => exact ⟨[], files, m, s, s', rfl, rfl, h, h', hrestorable⟩
  | cons moment moments ih =>
      cases moment with
      | restart console =>
          -- the second console is another one now, but serves the same as the first one
          obtain ⟨s₀, hrebuilt, h₀⟩ := serves_rebuilt hrestorable h.sorted console
          obtain ⟨outcomes, files', m', s₁, s₁', hrun, hrun', hrest⟩ :=
            ih hlines h h₀ hrestorable hsaves
          refine ⟨outcomes, files', m', s₁, s₁', hrun, ?_, hrest⟩
          simp [executeAllOn, h'.files, hrebuilt, hrun']
      | line text =>
          obtain ⟨args, hline⟩ := hlines text List.mem_cons_self
          have hsaves' : (savesIn (Dispatch.execute s.registry s.aliasLimit text) s &&
              match s.execute text with
              | some (_, s) => s.savesAll (linesOf moments)
              | none => true) = true := hsaves
          obtain ⟨hnow, hlater⟩ := Bool.and_eq_true_iff.mp hsaves'
          -- the file can be written on the first console, so the line does the same on both
          obtain ⟨outcome, files₀, m₀, hsame, hrestorable₀⟩ :=
            exists_execute hjson h hrestorable hline hnow
          obtain ⟨s₀, hexecute, h₀⟩ := hsame s h
          obtain ⟨s₀', hexecute', h₀'⟩ := hsame s' h'
          rw [hexecute] at hlater
          obtain ⟨outcomes, files', m', s₁, s₁', hrun, hrun', hrest⟩ :=
            ih (fun line hmem => hlines line (List.mem_cons_of_mem _ hmem)) h₀ h₀' hrestorable₀
              hlater
          refine ⟨outcome :: outcomes, files', m', s₁, s₁', ?_, ?_, hrest⟩
          · show s.executeAll (text :: linesOf moments) = _
            simp [executeAll, hexecute, hrun]
          · simp [executeAllOn, hexecute', hrun']

/-- **Restarts between lines do not show.** A console with the built-in commands has its aliases in
a JSON file, and lines that start with `alias` are executed on it; each time one of them changes an
alias, the file can be written. At any points between the lines the console can be thrown away and
another one, which can differ in everything but the commands, be built on the file. Then every line
has the same outcome, and at the end there are the same templates under the same names, and the same
files. The numbers of the aliases can be others: a console that is built on the file numbers its
aliases in the order of their names. -/
theorem restarts_invisible {s : Session} {path : String} {store : Alias.MemoryStore}
    {moments : List Moment} (hregistry : s.registry = Vocabulary.registry)
    (hopen : Alias.MemoryStore.open? s.files path = .ok store)
    (haliases : s.aliases = .memory store) (hjson : Alias.isYaml path = false)
    (hlines : ∀ line ∈ linesOf moments, ∃ args, Line.tokenize line = "alias" :: args)
    (hsaves : s.savesAll (linesOf moments) = true) :
    ∃ outcomes s₁ s₂ t₁ t₂, s.executeAll (linesOf moments) = some (outcomes, s₁) ∧
      executeAllOn path s moments = some (outcomes, s₂) ∧
      s₁.aliases = .memory ⟨t₁, some path⟩ ∧ s₂.aliases = .memory ⟨t₂, some path⟩ ∧
      t₂.commands = t₁.commands ∧ s₂.files = s₁.files ∧
      ∃ t, Alias.MemoryStore.open? s₁.files path = .ok ⟨t, some path⟩ ∧ t.commands = t₁.commands ∧
        t.byName.map (fun e => e.2.id) =
          (List.range t.byName.length).map fun i : Nat => (i : Int) + 1 := by
  -- the console at the start is itself one that was built on the file
  obtain ⟨m, hsorted, rfl⟩ := Alias.exists_of_open? hjson hopen
  have hcommands {m : List (String × String)} (hm : Assoc.Sorted m) :
      (Alias.Table.ofCommands m).commands = m := by
    rw [Alias.Table.commands_ofCommands, Assoc.ofList_of_sorted hm]
  have hserves : Serves path s.files m s :=
    ⟨hregistry, rfl, _, haliases, Alias.Table.sound_ofCommands m, hcommands hsorted⟩
  obtain ⟨outcomes, files', m', s₁, s₂, hrun, hrun', h₁, h₂, hrestorable⟩ :=
    exists_executeAllOn hjson hlines hserves hserves hopen hsaves
  obtain ⟨t₁, haliases₁, -, hcommands₁⟩ := h₁.aliases
  obtain ⟨t₂, haliases₂, -, hcommands₂⟩ := h₂.aliases
  have hlength : (Alias.Table.ofCommands m').byName.length = m'.length := by
    have hsame := congrArg List.length (hcommands h₁.sorted)
    rwa [Alias.Table.commands, List.length_map] at hsame
  refine ⟨outcomes, s₁, s₂, t₁, t₂, hrun, hrun', haliases₁, haliases₂,
    hcommands₂.trans hcommands₁.symm, h₂.files.trans h₁.files.symm, .ofCommands m', ?_,
    (hcommands h₁.sorted).trans hcommands₁.symm, ?_⟩
  · rw [h₁.files]
    exact hrestorable
  · rw [hlength]
    exact Alias.Table.ids_ofCommands h₁.sorted

/-- A console with the built-in commands and no aliases yet, over a file that is not there. -/
def overFile : Session :=
  { start with registry := Vocabulary.registry, aliases := .memory ⟨.empty, some "a.json"⟩ }

/-- Lines that make two aliases and change one, with two restarts. -/
def interrupted : List Moment :=
  [.line "alias b debug", .line "alias a 'say \"$1\"'", .restart start, .line "alias b history",
    .line "alias alias x", .restart builtIn, .line "alias c -d"]

theorem restarts_invisible_interrupted :
    Alias.isYaml "a.json" = false ∧
    (∀ line ∈ linesOf interrupted, ∃ args, Line.tokenize line = "alias" :: args) ∧
    overFile.savesAll (linesOf interrupted) = true ∧
    ∃ outcomes s₁ s₂, outcomes = [.ok (.text "'b' alias created successfully"),
        .ok (.text "'a' alias created successfully"), .ok (.text "'b' alias updated successfully"),
        .error (.badAliasName "alias"), .ok (.text "[!] 'c' alias doesn't exist")] ∧
      overFile.executeAll (linesOf interrupted) = some (outcomes, s₁) ∧
      executeAllOn "a.json" overFile interrupted = some (outcomes, s₂) ∧
      s₂.files = s₁.files ∧ (s₁.findAlias "b").1 = .ok (some ⟨1, "b", "history"⟩) ∧
      (s₂.findAlias "b").1 = .ok (some ⟨2, "b", "history"⟩) := by
  have hlines : ∀ line ∈ linesOf interrupted, ∃ args, Line.tokenize line = "alias" :: args := by
    have hheads : ∀ line ∈ linesOf interrupted, (Line.tokenize line).head? = some "alias" := by
      decide +kernel
    intro line hline
    obtain ⟨args, hargs⟩ := List.head?_eq_some_iff.mp (hheads line hline)
    exact ⟨args, hargs⟩
  have hsaves : overFile.savesAll (linesOf interrupted) = true := by decide +kernel
  have hopen : Alias.MemoryStore.open? overFile.files "a.json" = .ok ⟨.empty, some "a.json"⟩ := rfl
  obtain ⟨outcomes, s₁, s₂, t₁, t₂, hrun, hrun', -, -, -, hfiles, -⟩ :=
    restarts_invisible rfl hopen rfl rfl hlines hsaves
  have heval : (overFile.executeAll (linesOf interrupted)).map
      (fun p => (p.1, (p.2.findAlias "b").1)) =
      some ([.ok (.text "'b' alias created successfully"),
        .ok (.text "'a' alias created successfully"), .ok (.text "'b' alias updated successfully"),
        .error (.badAliasName "alias"), .ok (.text "[!] 'c' alias doesn't exist")],
        .ok (some ⟨1, "b", "history"⟩)) := by
    decide +kernel
  have heval' : (executeAllOn "a.json" overFile interrupted).map
      (fun p => (p.2.findAlias "b").1) = some (.ok (some ⟨2, "b", "history"⟩)) := by
    decide +kernel
  rw [hrun] at heval
  rw [hrun'] at heval'
  obtain ⟨houtcomes, hfound⟩ := Prod.mk.inj (Option.some.inj heval)
  exact ⟨rfl, hlines, hsaves, outcomes, s₁, s₂, houtcomes, hrun, hrun', hfiles, hfound,
    Option.some.inj heval'⟩

end Session

end CommandConsole
