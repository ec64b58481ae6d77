import CommandConsole.Proofs.Session.Mirrored

/-!
# No alias is shadowed

The first token of a line is looked up among the commands first, so an alias with the name of a
command would never be used. The command `alias` does not make one: it compares a new name with the
names of the commands, up to the case of ASCII letters. It does not compare the name of an alias
that it removes, and the table is changed by numbers; what matters is that these ways bring no name
in (`Alias.Table.mem_keys_of_apply`).

A task keeps an invariant of sessions when it comes to its end and leaves a session with the
invariant behind (`Keeps`). So does every task of the dispatcher with `Unshadowed`, and so do lines,
one after another (`aliases_never_shadowed`).
-/

set_option autoImplicit false

namespace CommandConsole

/-! ## Names -/

/-- No alias of the table has one of these names, up to the case of ASCII letters. -/
def Alias.Table.Avoids (t : Alias.Table) (names : List String) : Prop :=
  ∀ name ∈ Assoc.keys t.byName, ∀ command ∈ names,
    Text.sameIgnoringCase command.toList name.toList = false

theorem Text.sameIgnoringCase_self (cs : List Char) : sameIgnoringCase cs cs = true := by
  simp [sameIgnoringCase]

/-- A registered name is the name of a command. -/
theorem Registry.mem_names_of_lookup {r : Registry} {name : String} {d : Definition}
    (h : r.lookup name = some d) : name ∈ r.names :=
  List.mem_map_of_mem (f := Prod.fst) (Assoc.mem_of_find?_eq_some h)

namespace Alias.Table

variable {t t' : Table} {names : List String} {c : Change} {id : Int}

/-- A change brings in no other name than that of a new alias. -/
theorem Avoids.apply (h : t.Avoids names) (hchange : t.apply c = .ok (id, t'))
    (hnew : ∀ name command, c = .create name command →
      Registry.containsIgnoringCase names name = false) : t'.Avoids names := by
  intro name hname command hcommand
  rcases mem_keys_of_apply hchange hname with hold | ⟨template, hcreate⟩
  · exact h name hold command hcommand
  · have hfree := List.any_eq_false.mp (hnew name template hcreate) command hcommand
    simpa using hfree

theorem exists_find?_of_mem_keys {name : String} (h : name ∈ Assoc.keys t.byName) :
    ∃ r, t.find? name = some r :=
  Assoc.exists_find?_of_mem_keys h

end Alias.Table

namespace Session

/-! ## Invariants -/

/-- A task comes to its end on every session with the invariant, with such a result, and leaves a
session with the invariant behind. -/
def Keeps {α : Type} (I : Session → Prop) (Q : α → Prop) (t : Task α) : Prop :=
  ∀ s : Session, I s → ∃ a s', s.run t = some (a, s') ∧ I s' ∧ Q a

/-- Nothing is said of the result. -/
abbrev Any {α : Type} (_ : α) : Prop := True

section

variable {α β : Type} {I : Session → Prop} {Q : α → Prop} {R : β → Prop}

theorem keeps_pure (a : α) : Keeps I Any (Pure.pure a) := fun s h => ⟨a, s, rfl, h, trivial⟩

theorem Keeps.bind {t : Task α} {f : α → Task β} (ht : Keeps I Q t)
    (hf : ∀ a, Q a → Keeps I R (f a)) : Keeps I R (t >>= f) := by
  intro s h
  obtain ⟨a, s₁, hrun, h₁, ha⟩ := ht s h
  obtain ⟨b, s₂, hrun', h₂, hb⟩ := hf a ha s₁ h₁
  refine ⟨b, s₂, ?_, h₂, hb⟩
  rw [run_bind, hrun]
  exact hrun'

/-- A task that asks nothing but plain questions keeps what is said of the setup alone. -/
theorem keeps_of_plain (hI : ∀ s s', I s → s.SameSetup s' → I s') {t : Task α}
    (ht : t.AllQueries Query.Plain) : Keeps I Any t := by
  induction t with
  | done a => exact keeps_pure a
  | ask q next ih =>
      obtain ⟨hq, hnext⟩ := ht
      intro s h
      obtain ⟨a, s₁, ha, hsetup, -⟩ := exists_answer_plain hq maxNesting s
      obtain ⟨b, s₂, hrun, h₂, -⟩ := ih a (hnext a) s₁ (hI s s₁ h hsetup)
      refine ⟨b, s₂, ?_, h₂, trivial⟩
      rw [run, runWith, ha]
      exact hrun

/-- A question of an action, and what is done with the answer. -/
theorem keeps_query_bind {q : Query} {P : q.Answer → Prop} {f : q.Answer → Action β}
    (hq : Keeps I P (Task.query q)) (hf : ∀ a, P a → Keeps I Any (f a).run) :
    Keeps I Any (Action.query q >>= f).run :=
  hq.bind hf

theorem keeps_expect_bind {r : Except String α} {f : α → Action β}
    (hf : ∀ a, Keeps I Any (f a).run) : Keeps I Any (Action.expect r >>= f).run := by
  cases r with
  | ok a => exact hf a
  | error cause => exact keeps_pure _

/-- Lines keep what each line keeps. -/
theorem exists_executeAll
    (hline : ∀ s line, I s → ∃ outcome s', s.execute line = some (outcome, s') ∧ I s')
    {s : Session} (h : I s) (lines : List String) :
    ∃ outcomes s', s.executeAll lines = some (outcomes, s') ∧ I s' := by
  induction lines generalizing s with
  | nil => exact ⟨[], s, rfl, h⟩
  | cons line lines ih =>
      obtain ⟨outcome, s₁, hexecute, h₁⟩ := hline s line h
      obtain ⟨outcomes, s₂, hrest, h₂⟩ := ih h₁
      exact ⟨outcome :: outcomes, s₂, by simp [executeAll, hexecute, hrest], h₂⟩

end

/-! ## Sessions without shadowed aliases -/

/-- A session with the built-in commands and such a limit, and with a table that no file follows,
whose aliases have other names than the commands. -/
structure Unshadowed (limit : Nat) (s : Session) : Prop where
  registry : s.registry = Vocabulary.registry
  aliasLimit : s.aliasLimit = limit
  aliases : ∃ t, s.aliases = .memory ⟨t, none⟩ ∧ t.Avoids Vocabulary.registry.names

variable {limit : Nat} {s s' : Session}

theorem Unshadowed.of_sameSetup (h : Unshadowed limit s) (hsetup : s.SameSetup s') :
    Unshadowed limit s' := by
  obtain ⟨t, haliases, havoids⟩ := h.aliases
  exact ⟨hsetup.registry.trans h.registry, hsetup.aliasLimit.trans h.aliasLimit,
    t, hsetup.aliases.trans haliases, havoids⟩

theorem unshadowed_of_plain {α : Type} {t : Task α} (ht : t.AllQueries Query.Plain) :
    Keeps (Unshadowed limit) Any t :=
  keeps_of_plain (fun _ _ h hsetup => h.of_sameSetup hsetup) ht

/-- What a command is told about the commands is what is registered. -/
theorem unshadowed_commands : Keeps (Unshadowed limit)
    (fun commands => commands.map (·.name) = Vocabulary.registry.names)
    (Task.query .commands) := by
  intro s h
  refine ⟨s.registry.synopses, s, rfl, h, ?_⟩
  rw [h.registry]
  rfl

theorem unshadowed_log (level : LogLevel) (message : String) :
    Keeps (Unshadowed limit) Any (Task.log level message) :=
  unshadowed_of_plain ⟨trivial, fun _ => trivial⟩

theorem unshadowed_findAlias (name : String) :
    Keeps (Unshadowed limit) Any (Task.query (.findAlias name)) := by
  intro s h
  obtain ⟨t, haliases, -⟩ := h.aliases
  exact ⟨_, s, congrArg some (findAlias_of_memory haliases name), h, trivial⟩

/-- **A change leaves no alias shadowed** if the name of a new alias is no name of a command. -/
theorem unshadowed_changeAlias (c : Alias.Change)
    (hnew : ∀ name command, c = .create name command →
      Registry.containsIgnoringCase Vocabulary.registry.names name = false) :
    Keeps (Unshadowed limit) Any (Task.query (.changeAlias c)) := by
  intro s h
  obtain ⟨t, haliases, havoids⟩ := h.aliases
  cases happly : t.apply c with
  | error refusal =>
      exact ⟨_, s, congrArg some (changeAlias_of_refused haliases happly), h, trivial⟩
  | ok taken =>
      obtain ⟨id, t'⟩ := taken
      refine ⟨_, _, congrArg some (changeAlias_of_taken haliases happly), ?_, trivial⟩
      exact ⟨h.registry, h.aliasLimit, t', rfl, havoids.apply happly hnew⟩

end Session

/-! ## The commands -/

namespace Vocabulary

open CommandConsole.Action Session

variable {limit : Nat}

theorem unshadowed_removeAlias (name : String) :
    Keeps (Unshadowed limit) Any (removeAlias name).run := by
  refine keeps_query_bind (unshadowed_findAlias name) fun reply _ => ?_
  refine keeps_expect_bind fun r? => ?_
  cases r? with
  | none => exact keeps_pure _
  | some record =>
      refine keeps_query_bind (unshadowed_changeAlias _ (by simp)) fun reply' _ => ?_
      exact keeps_expect_bind fun _ => keeps_pure _

/-- An alias is made only under a name that is compared with those of the commands. -/
theorem unshadowed_defineAlias (name command : String) :
    Keeps (Unshadowed limit) Any (defineAlias name command).run := by
  refine keeps_query_bind unshadowed_commands fun commands hcommands => ?_
  rw [hcommands]
  split
  · exact keeps_pure _
  · next hname =>
      -- of the changes that can follow, only the creation brings a name in
      have hnew : ∀ name' command', Alias.Change.create name command = .create name' command' →
          Registry.containsIgnoringCase registry.names name' = false := by
        rintro _ _ ⟨⟩
        exact Bool.eq_false_iff.mpr hname
      refine keeps_query_bind (unshadowed_findAlias name) fun reply _ => ?_
      refine keeps_expect_bind fun r? => ?_
      cases r? with
      | some record =>
          refine keeps_query_bind (unshadowed_changeAlias _ (by simp)) fun reply' _ => ?_
          exact keeps_expect_bind fun _ => keeps_query_bind (unshadowed_log _ _) fun _ _ =>
            keeps_pure _
      | none =>
          refine keeps_query_bind (unshadowed_changeAlias _ hnew) fun reply' _ => ?_
          exact keeps_expect_bind fun _ => keeps_query_bind (unshadowed_log _ _) fun _ _ =>
            keeps_pure _

/-- **No built-in command brings a shadowed alias in.** -/
theorem unshadowed_handler {name : String} {d : Definition} (h : registry.lookup name = some d)
    (args : List String) : Keeps (Unshadowed limit) Any (d.handler args).run := by
  rcases handler_cases h args with ⟨args', halias⟩ | hplain
  · rw [halias]
    unfold setAlias
    split
    · split
      · exact unshadowed_removeAlias _
      · exact unshadowed_defineAlias _ _
    · exact keeps_pure _
  · exact unshadowed_of_plain hplain

end Vocabulary

/-! ## Lines -/

namespace Session

variable {limit : Nat} {s s' : Session}

theorem unshadowed_executeWithin (bound left : Nat) (line : String) :
    Keeps (Unshadowed limit) Any (Dispatch.executeWithin Vocabulary.registry bound left line) := by
  refine Dispatch.executeWithin_induction (keeps_pure _) (fun e => keeps_pure _) ?_ ?_ ?_ left line
  · intro level message t ht
    exact (unshadowed_log level message).bind fun _ _ => ht
  · intro name f hf
    exact (unshadowed_findAlias name).bind fun reply _ => hf reply
  · intro name d args hname
    exact (Vocabulary.unshadowed_handler hname args).bind fun _ _ => keeps_pure _

theorem Unshadowed.execute (h : Unshadowed limit s) (line : String) :
    ∃ outcome s', s.execute line = some (outcome, s') ∧ Unshadowed limit s' := by
  obtain ⟨outcome, s', hrun, h', -⟩ :=
    unshadowed_executeWithin s.aliasLimit s.aliasLimit line s h
  refine ⟨outcome, s', ?_, h'⟩
  rw [Session.execute, Dispatch.execute, h.registry]
  exact hrun

/-- A name that is no name of a command, up to case, is not registered. -/
theorem lookup_eq_none_of_avoids {t : Alias.Table} {registry : Registry} {name : String}
    (havoids : t.Avoids registry.names) (hname : name ∈ Assoc.keys t.byName) :
    registry.lookup name = none := by
  cases hlookup : registry.lookup name with
  | none => rfl
  | some d =>
      have hdiffers := havoids name hname name (Registry.mem_names_of_lookup hlookup)
      rw [Text.sameIgnoringCase_self] at hdiffers
      contradiction

/-- **No alias is ever shadowed.** A session has the built-in commands and a table of aliases that
no file follows, and no alias in it has the name of a command, up to the case of ASCII letters. Any
lines are executed, one after another. They all come to an outcome, and behind them it is still so:
the commands and the limit are as before, and no alias has the name of a command. So a line that
starts with the name of an alias stands for the template of this alias, filled with the other
tokens, and is executed as that line. -/
theorem aliases_never_shadowed {t : Alias.Table} (hregistry : s.registry = Vocabulary.registry)
    (haliases : s.aliases = .memory ⟨t, none⟩) (havoids : t.Avoids s.registry.names)
    (lines : List String) :
    ∃ outcomes s' t', s.executeAll lines = some (outcomes, s') ∧
      s'.registry = s.registry ∧ s'.aliasLimit = s.aliasLimit ∧
      s'.aliases = .memory ⟨t', none⟩ ∧ t'.Avoids s'.registry.names ∧
      ∀ name ∈ Assoc.keys t'.byName, ∃ record, t'.find? name = some record ∧
        s'.registry.lookup name = none ∧
        ∀ line args, Line.tokenize line = name :: args → 1 ≤ s'.aliasLimit →
          ∃ s₁, Dispatch.Expands s'.registry s' line name s₁
              (Line.substitute record.command args) ∧
            s'.execute line = s₁.run (Dispatch.executeWithin s'.registry s'.aliasLimit
              (s'.aliasLimit - 1) (Line.substitute record.command args)) := by
  have hstart : Unshadowed s.aliasLimit s :=
    ⟨hregistry, rfl, t, haliases, hregistry ▸ havoids⟩
  obtain ⟨outcomes, s', hlines, h'⟩ :=
    exists_executeAll (fun s₀ line h₀ => Unshadowed.execute h₀ line) hstart lines
  obtain ⟨t', haliases', havoids'⟩ := h'.aliases
  rw [← h'.registry] at havoids'
  refine ⟨outcomes, s', t', hlines, h'.registry.trans hregistry.symm, h'.aliasLimit, haliases',
    havoids', fun name hname => ?_⟩
  obtain ⟨record, hfind⟩ := Alias.Table.exists_find?_of_mem_keys hname
  have hlookup := lookup_eq_none_of_avoids havoids' hname
  refine ⟨record, hfind, hlookup, fun line args htokens hlimit => ?_⟩
  -- no command stands in the way, so the line is looked up among the aliases
  have hstore : s'.findAlias name = (.ok (some record), s') := by
    rw [findAlias_of_memory haliases', ← hfind]
  have hexpands := Dispatch.Expands.intro htokens hlookup hstore
  refine ⟨_, hexpands, ?_⟩
  obtain ⟨left, hleft⟩ : ∃ left, s'.aliasLimit = left + 1 := ⟨s'.aliasLimit - 1, by omega⟩
  rw [Session.execute, Dispatch.execute, hleft]
  exact Dispatch.run_of_expands left hexpands

/-- Lines that try to take the name of a command, make an alias that makes aliases, use it, use what
it has made, and remove the first one. -/
def shadowingLines : List String :=
  ["alias History debug", "alias make \"alias $1 'debug $2'\"", "make DEBUG x", "make d 1", "d",
    "alias make -d"]

theorem aliases_never_shadowed_shadowingLines :
    builtIn.registry = Vocabulary.registry ∧ Alias.Table.empty.Avoids builtIn.registry.names ∧
    ∃ s', builtIn.executeAll shadowingLines = some ([.error (.badAliasName "History"),
        .ok (.text "'make' alias created successfully"), .error (.badAliasName "DEBUG"),
        .ok (.text "'d' alias created successfully"), .ok (.text "log level set to DEBUG"),
        .ok (.text "'make' alias deleted successfully")], s') ∧
      ∃ s₁, Dispatch.Expands s'.registry s' "d" "d" s₁ "debug 1" ∧
        s'.execute "d" = s₁.run (Dispatch.executeWithin s'.registry 8 7 "debug 1") := by
  have havoids : Alias.Table.empty.Avoids builtIn.registry.names := by
    intro name hname
    contradiction
  obtain ⟨outcomes, s', t', hlines, -, hlimit, haliases, -, hall⟩ :=
    aliases_never_shadowed (s := builtIn) rfl rfl havoids shadowingLines
  have heval : (builtIn.executeAll shadowingLines).map (fun p => (p.1, (p.2.findAlias "d").1)) =
      some ([.error (.badAliasName "History"), .ok (.text "'make' alias created successfully"),
        .error (.badAliasName "DEBUG"), .ok (.text "'d' alias created successfully"),
        .ok (.text "log level set to DEBUG"), .ok (.text "'make' alias deleted successfully")],
        .ok (some ⟨2, "d", "debug 1"⟩)) := by
    decide +kernel
  rw [hlines] at heval
  obtain ⟨rfl, hfound⟩ := Prod.mk.inj (Option.some.inj heval)
  rw [findAlias_of_memory haliases] at hfound
  have hfind : t'.find? "d" = some ⟨2, "d", "debug 1"⟩ := Except.ok.inj hfound
  have hname : "d" ∈ Assoc.keys t'.byName :=
    List.mem_map_of_mem (f := Prod.fst) (Assoc.mem_of_find?_eq_some hfind)
  obtain ⟨record, hrecord, -, hline⟩ := hall "d" hname
  obtain rfl : record = ⟨2, "d", "debug 1"⟩ := Option.some.inj (hrecord.symm.trans hfind)
  have hlimit' : s'.aliasLimit = 8 := hlimit
  rw [hlimit'] at hline
  exact ⟨rfl, havoids, s', hlines, hline "d" [] rfl (by decide)⟩

end Session

end CommandConsole
