import CommandConsole.Proofs.Dispatch.Chain

/-!
# Refusals at the limit

A line that has gone through as many aliases as the limit allows is refused when it has come to a
name that is no command, and the refusal calls that name an alias. The dispatcher counts before it
asks the store, so it does not find out whether there is such an alias at all. A name that nobody
knows is therefore reported as unknown within the limit, and as an alias that goes too deep when
exactly as many aliases as the limit allows have led to it; with a limit of zero that is every name
that is no command.

`aliasTooDeep_without_alias_iff` says so for all lines, and `unknown_name_refused_as_alias` shows
one of them.
-/

set_option autoImplicit false

namespace CommandConsole

/-- The commands of a registry do not themselves fail with the refusal at the limit. -/
def Registry.RefusesNoAlias (registry : Registry) : Prop :=
  ∀ name d args, registry.lookup name = some d →
    (d.handler args).run.AllResults fun result =>
      ∀ other depth, result ≠ .error (.error (.aliasTooDeep other depth))

/-- The store of a session has an alias with the name. -/
def Session.HoldsAlias (s : Session) (name : String) : Prop :=
  ∃ record, (s.findAlias name).1 = .ok (some record)

namespace Dispatch

/-- A line starts with a name that is no command. -/
def Unregistered (registry : Registry) (line name : String) : Prop :=
  registry.lookup name = none ∧ ∃ args, Line.tokenize line = name :: args

variable {registry : Registry} {limit depth : Nat} {s : Session} {line name : String} {e : Ending}

/-! ## The end of a chain -/

/-- A command that does not raise the refusal does not come to it. -/
theorem settle_ne_aliasTooDeep {result : Except Fault Output}
    (h : ∀ other depth, result ≠ .error (.error (.aliasTooDeep other depth)))
    (command other : String) (depth : Nat) :
    settle command result ≠ .error (.aliasTooDeep other depth) := by
  intro hsettle
  match result with
  | .ok output => simp [settle] at hsettle
  | .error (.panic message) => simp [settle] at hsettle
  | .error (.error error) =>
      have hblame : error.blame command = .aliasTooDeep other depth := by
        simpa [settle] using hsettle
      -- blame changes no error into this one
      rcases blame_cases command error with ⟨cause, -, heq⟩ | ⟨cause, -, heq⟩ | heq
      · exact CommandError.noConfusion (heq.symm.trans hblame)
      · exact CommandError.noConfusion (heq.symm.trans hblame)
      · exact h other depth (congrArg _ (congrArg _ (heq.symm.trans hblame)))

theorem not_unregistered_of_lookup {d : Definition} {command : String} {args : List String}
    (htokens : Line.tokenize line = command :: args) (hname : registry.lookup command = some d) :
    ¬ Unregistered registry line name := by
  rintro ⟨hfree, args', htokens'⟩
  obtain ⟨rfl, -⟩ := List.cons.inj (htokens.symm.trans htokens')
  rw [hname] at hfree
  contradiction

/-- **When the refusal comes**: at the limit, for a name that is no command. -/
theorem Ends.aliasTooDeep_iff (h : Ends registry limit depth s line e)
    (hregistry : registry.RefusesNoAlias) (d : Nat) :
    e.outcome = .error (.aliasTooDeep name d) ↔
      d = limit ∧ depth = limit ∧ Unregistered registry line name := by
  cases h with
  | blank htokens => simp [Unregistered, htokens]
  | refused htokens hname haccepts => simp [not_unregistered_of_lookup htokens hname]
  | called htokens hname haccepts hrun =>
      have hresult := Session.result_of_runWith (hregistry _ _ _ hname) hrun
      simp [not_unregistered_of_lookup htokens hname, settle_ne_aliasTooDeep hresult]
  | @tooDeep command args htokens hname hdepth =>
      simp only [Unregistered, htokens, hdepth]
      grind
  | storeFailed htokens hname hlt hstore => simp [Nat.ne_of_lt hlt]
  | unknown htokens hname hlt hstore => simp [Nat.ne_of_lt hlt]

/-- What is reported of a name that is neither a command nor an alias. -/
theorem Ends.outcome_of_unknown (h : Ends registry limit depth s line e)
    (hname : Unregistered registry line name) (hstore : (s.findAlias name).1 = .ok none) :
    e.outcome =
      if depth < limit then .error (.notFound name) else .error (.aliasTooDeep name limit) := by
  obtain ⟨hfree, args, htokens⟩ := hname
  cases h with
  | blank htokens' => simp [htokens] at htokens'
  | refused htokens' hname' _ =>
      exact absurd ⟨hfree, args, htokens⟩ (not_unregistered_of_lookup htokens' hname')
  | called htokens' hname' _ _ =>
      exact absurd ⟨hfree, args, htokens⟩ (not_unregistered_of_lookup htokens' hname')
  | tooDeep htokens' _ hdepth =>
      obtain ⟨rfl, -⟩ := List.cons.inj (htokens.symm.trans htokens')
      rw [if_neg (by omega)]
  | storeFailed htokens' _ hlt hstore' =>
      obtain ⟨rfl, -⟩ := List.cons.inj (htokens.symm.trans htokens')
      simp [hstore'] at hstore
  | unknown htokens' _ hlt _ =>
      obtain ⟨rfl, -⟩ := List.cons.inj (htokens.symm.trans htokens')
      rw [if_pos hlt]

/-! ## Lines -/

/-- **Which lines are refused for an alias that there is not.** A line goes along a chain to an end,
and comes to the outcome of that end. It is refused at the limit exactly when the chain has gone
through as many aliases as the limit allows and its last line starts with a name that is no command,
and this name is the one in the refusal. So the refusal names an alias that the store does not have
exactly when that many aliases have led to a name that is neither a command nor an alias. Such a
name is reported as unknown only if fewer aliases have led to it. -/
theorem aliasTooDeep_without_alias_iff (s : Session) (hregistry : s.registry.RunsNoLines)
    (hrefuses : s.registry.RefusesNoAlias) (line : String) :
    ∃ names s' last e, Chain s.registry s.aliasLimit 0 s line names s' last ∧
      Ends s.registry s.aliasLimit names.length s' last e ∧
      s.execute line = some (e.outcome, e.session) ∧
      (∀ name depth, e.outcome = .error (.aliasTooDeep name depth) ↔
        depth = s.aliasLimit ∧ names.length = s.aliasLimit ∧ Unregistered s.registry last name) ∧
      ((∃ name depth, e.outcome = .error (.aliasTooDeep name depth) ∧ ¬ s'.HoldsAlias name) ↔
        names.length = s.aliasLimit ∧
          ∃ name, Unregistered s.registry last name ∧ ¬ s'.HoldsAlias name) ∧
      ∀ name, Unregistered s.registry last name → (s'.findAlias name).1 = .ok none →
        e.outcome = if names.length < s.aliasLimit then .error (.notFound name)
          else .error (.aliasTooDeep name s.aliasLimit) := by
  obtain ⟨names, s', last, e, hchain, hends⟩ :=
    exists_chain hregistry s.aliasLimit 0 (Nat.zero_add _) s line
  have hruns := runs_of_chain hchain hends (Nat.zero_add _)
  rw [Nat.zero_add] at hends
  have hiff : ∀ name depth, e.outcome = .error (.aliasTooDeep name depth) ↔
      depth = s.aliasLimit ∧ names.length = s.aliasLimit ∧ Unregistered s.registry last name :=
    fun name depth => hends.aliasTooDeep_iff hrefuses depth
  refine ⟨names, s', last, e, hchain, hends, hruns.run, hiff, ?_,
    fun name => hends.outcome_of_unknown⟩
  constructor
  · rintro ⟨name, depth, hrefused, hnone⟩
    obtain ⟨-, hlength, hname⟩ := (hiff name depth).mp hrefused
    exact ⟨hlength, name, hname, hnone⟩
  · rintro ⟨hlength, name, hname, hnone⟩
    exact ⟨name, s.aliasLimit, (hiff name s.aliasLimit).mpr ⟨rfl, hlength, hname⟩, hnone⟩

/-- A session with one command and one alias, for a name that is neither, and a limit of one. -/
def dangling : Session :=
  { cyclic with
    aliasLimit := 1
    aliases := .memory ⟨.ofCommands [("a", "nope")], none⟩ }

theorem dangling_refusesNoAlias : dangling.registry.RefusesNoAlias := by
  intro name d args hname
  rw [eq_echo_of_lookup hname]
  intro other depth hresult
  contradiction

/-- The alias has led to a name as often as the limit allows, and the refusal says that name. -/
theorem aliasTooDeep_without_alias_iff_dangling :
    dangling.registry.RunsNoLines ∧ dangling.registry.RefusesNoAlias ∧
      ∃ names s' last, Chain dangling.registry 1 0 dangling "a" names s' last ∧
        names.length = 1 ∧ Unregistered dangling.registry last "nope" := by
  obtain ⟨names, s', last, e, hchain, -, hrun, hiff, -⟩ :=
    aliasTooDeep_without_alias_iff dangling cyclic_runsNoLines dangling_refusesNoAlias "a"
  have heval : (dangling.execute "a").map Prod.fst = some (.error (.aliasTooDeep "nope" 1)) := rfl
  rw [hrun] at heval
  obtain ⟨-, hlength, hname⟩ := (hiff "nope" 1).mp (Option.some.inj heval)
  exact ⟨cyclic_runsNoLines, dangling_refusesNoAlias, names, s', last, hchain, hlength, hname⟩

/-- The same name on the same session: unknown when it is typed, and an alias that goes too deep
when the alias leads to it. It is neither a command nor an alias. -/
theorem unknown_name_refused_as_alias :
    dangling.registry.RunsNoLines ∧ dangling.registry.RefusesNoAlias ∧
      dangling.registry.lookup "nope" = none ∧ ¬ dangling.HoldsAlias "nope" ∧
      (dangling.execute "nope").map Prod.fst = some (.error (.notFound "nope")) ∧
      (dangling.execute "a").map Prod.fst = some (.error (.aliasTooDeep "nope" 1)) := by
  have hnone : (dangling.findAlias "nope").1 = .ok none := rfl
  refine ⟨cyclic_runsNoLines, dangling_refusesNoAlias, rfl, ?_, rfl, rfl⟩
  rintro ⟨record, hrecord⟩
  simp [hnone] at hrecord

end Dispatch

end CommandConsole
