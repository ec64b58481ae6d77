import CommandConsole.Proofs.Session.Runs

/-!
# The chain of lines behind a line

A line whose first token is an alias stands for another line, and so on. `Chain` is the sequence of
these lines on a session, and `Ends` says what the last of them comes to: nothing, a command that
refuses or takes the arguments, or a name that cannot be resolved. Neither mentions the dispatcher.

`execute_follows_chain` says that the dispatcher does just that. The measure behind it is the
number of aliases that may still be expanded, not the line, which can grow with each expansion;
so the aliases may refer to each other in any way, and what is left at the limit is a name that
is refused without another look into the store.
-/

set_option autoImplicit false

namespace CommandConsole.Dispatch

/-! ## Chains of lines -/

/-- What is logged when an alias is expanded. -/
def expansionNote (name line : String) : String := s!"alias '{name}' -> {line}"

/-- What is logged when a command takes its arguments. -/
def callNote (d : Definition) (args : List String) : String :=
  s!"dispatch '{d.name}' ({args.length} arg(s))"

/-- What is logged when a command refuses its arguments. -/
def refusalNote (d : Definition) (args : List String) : String :=
  s!"'{d.name}' rejected arguments {Text.literals args} (spec '{d.signature.text}')"

/-- What is logged when a name is neither a command nor an alias. -/
def missNote (name : String) : String := s!"no command or alias named '{name}'"

/-- One step of a chain: the first token of the line is no command, the store holds an alias for
it, and the next line is its template filled with the other tokens. -/
inductive Expands (registry : Registry) (s : Session) (line : String) :
    String → Session → String → Prop where
  | intro {name : String} {args : List String} {record : Alias.Record} {s' : Session} :
      Line.tokenize line = name :: args →
      registry.lookup name = none →
      s.findAlias name = (.ok (some record), s') →
      Expands registry s line name
        (s'.report .debug (expansionNote name (Line.substitute record.command args)))
        (Line.substitute record.command args)

/-- A chain of lines from a depth on, with the names of the aliases it goes through: it takes a
step as long as the limit is not reached. -/
inductive Chain (registry : Registry) (limit : Nat) :
    Nat → Session → String → List String → Session → String → Prop where
  | stop (depth : Nat) (s : Session) (line : String) :
      Chain registry limit depth s line [] s line
  | step {depth : Nat} {s s₁ s₂ : Session} {line line₁ line₂ name : String}
      {names : List String} :
      depth < limit →
      Expands registry s line name s₁ line₁ →
      Chain registry limit (depth + 1) s₁ line₁ names s₂ line₂ →
      Chain registry limit depth s line (name :: names) s₂ line₂

/-- A call of a command, with the session it starts on. -/
structure Call where
  session : Session
  command : Definition
  args : List String

/-- What the handler of a called command asks. -/
def Call.questions (c : Call) : List Query := c.session.questions (c.command.handler c.args).run

/-- What a chain comes to: the outcome and the session it leaves, the names that are looked up for
its last line, and the commands that are called. -/
structure Ending where
  outcome : Outcome
  session : Session
  lookups : List String
  calls : List Call

/-- What the last line of a chain comes to, with so many expansions behind it. -/
inductive Ends (registry : Registry) (limit depth : Nat) (s : Session) (line : String) :
    Ending → Prop where
  | blank :
      Line.tokenize line = [] →
      Ends registry limit depth s line ⟨.ok .none, s, [], []⟩
  | refused {name : String} {args : List String} {d : Definition} :
      Line.tokenize line = name :: args →
      registry.lookup name = some d →
      d.signature.accepts (args.map String.toList) = false →
      Ends registry limit depth s line
        ⟨.error (.badArguments d.name d.usage), s.report .debug (refusalNote d args), [], []⟩
  | called {name : String} {args : List String} {d : Definition} {result : Except Fault Output}
      {s' : Session} :
      Line.tokenize line = name :: args →
      registry.lookup name = some d →
      d.signature.accepts (args.map String.toList) = true →
      (s.report .debug (callNote d args)).run (d.handler args).run = some (result, s') →
      Ends registry limit depth s line
        ⟨settle d.name result, s', [], [⟨s.report .debug (callNote d args), d, args⟩]⟩
  | tooDeep {name : String} {args : List String} :
      Line.tokenize line = name :: args →
      registry.lookup name = none →
      depth = limit →
      Ends registry limit depth s line ⟨.error (.aliasTooDeep name limit), s, [], []⟩
  | storeFailed {name : String} {args : List String} {cause : String} {s' : Session} :
      Line.tokenize line = name :: args →
      registry.lookup name = none →
      depth < limit →
      s.findAlias name = (.error cause, s') →
      Ends registry limit depth s line ⟨.error (.remote name cause), s', [name], []⟩
  | unknown {name : String} {args : List String} {s' : Session} :
      Line.tokenize line = name :: args →
      registry.lookup name = none →
      depth < limit →
      s.findAlias name = (.ok none, s') →
      Ends registry limit depth s line
        ⟨.error (.notFound name), s'.report .debug (missNote name), [name], []⟩

variable {registry : Registry} {limit depth : Nat} {s s' : Session} {line last : String}
  {names : List String} {e : Ending}

theorem Chain.length_le (h : Chain registry limit depth s line names s' last)
    (hdepth : depth ≤ limit) : depth + names.length ≤ limit := by
  induction h with
  | stop depth s line => exact hdepth
  | step hlt _ _ ih =>
      have hle := ih hlt
      rw [List.length_cons]
      omega

/-- Only names that are no commands are looked up on the way. -/
theorem Chain.not_registered (h : Chain registry limit depth s line names s' last) :
    ∀ name ∈ names, registry.lookup name = none := by
  induction h with
  | stop depth s line => simp
  | step _ hexpands _ ih =>
      obtain ⟨_, hfree, _⟩ := hexpands
      intro name hname
      rcases List.mem_cons.mp hname with rfl | hname
      · exact hfree
      · exact ih name hname

theorem Ends.not_registered (h : Ends registry limit depth s line e) :
    ∀ name ∈ e.lookups, registry.lookup name = none := by
  cases h with
  | storeFailed _ hfree _ _ => simpa using hfree
  | unknown _ hfree _ _ => simpa using hfree
  | _ => simp

/-- A look into the store for the last line counts as one more expansion. -/
theorem Ends.length_lookups_le (h : Ends registry limit depth s line e) (hdepth : depth ≤ limit) :
    depth + e.lookups.length ≤ limit := by
  cases h with
  | storeFailed _ _ hlt _ => exact hlt
  | unknown _ _ hlt _ => exact hlt
  | _ => exact hdepth

theorem Ends.length_calls_le (h : Ends registry limit depth s line e) : e.calls.length ≤ 1 := by
  cases h <;> simp

/-! ## The dispatcher, case by case -/

/-- What the dispatcher does with what the store says about a name. -/
def resume (registry : Registry) (limit left : Nat) (name : String) (args : List String) :
    Except String (Option Alias.Record) → Task Outcome
  | .error cause => return .error (.remote name cause)
  | .ok none => do
      Task.log .debug (missNote name)
      return .error (.notFound name)
  | .ok (some record) => do
      Task.log .debug (expansionNote name (Line.substitute record.command args))
      executeWithin registry limit left (Line.substitute record.command args)

section

variable {name : String} {args : List String}

theorem executeWithin_of_blank (left : Nat) (htokens : Line.tokenize line = []) :
    executeWithin registry limit left line = pure (.ok .none) := by
  rw [executeWithin.eq_def, htokens]

theorem executeWithin_of_registered {d : Definition} (left : Nat)
    (htokens : Line.tokenize line = name :: args) (hname : registry.lookup name = some d) :
    executeWithin registry limit left line = call d args := by
  rw [executeWithin.eq_def, htokens]
  simp only [hname]

theorem executeWithin_zero (htokens : Line.tokenize line = name :: args)
    (hname : registry.lookup name = none) :
    executeWithin registry limit 0 line = pure (.error (.aliasTooDeep name limit)) := by
  rw [executeWithin.eq_def, htokens]
  simp only [hname]

theorem executeWithin_succ (left : Nat) (htokens : Line.tokenize line = name :: args)
    (hname : registry.lookup name = none) :
    executeWithin registry limit (left + 1) line =
      Task.query (.findAlias name) >>= resume registry limit left name args := by
  rw [executeWithin.eq_def, htokens]
  simp only [hname]
  refine congrArg _ (funext fun reply => ?_)
  rcases reply with cause | _ | record <;> rfl

theorem call_of_refused {d : Definition}
    (h : d.signature.accepts (args.map String.toList) = false) :
    call d args = do
      Task.log .debug (refusalNote d args)
      return .error (.badArguments d.name d.usage) := by
  simp [call, h, refusalNote]

theorem call_of_accepted {d : Definition}
    (h : d.signature.accepts (args.map String.toList) = true) :
    call d args = do
      Task.log .debug (callNote d args)
      return settle d.name (← (d.handler args).run) := by
  simp [call, h, callNote]

end

/-- Blame gives its name to an error that waits for one, and changes no other. -/
theorem blame_cases (name : String) (error : CommandError) :
    (∃ cause, error = .remote "" cause ∧ error.blame name = .remote name cause) ∨
      (∃ cause, error = .execution "" cause ∧ error.blame name = .execution name cause) ∨
      error.blame name = error := by
  unfold CommandError.blame
  split
  · exact .inl ⟨_, rfl, rfl⟩
  · exact .inr (.inl ⟨_, rfl, rfl⟩)
  · exact .inr (.inr rfl)

/-- **What holds of all lines**: a property of tasks holds of every line if it holds of what comes
to nothing or to an error and of calls of handlers, and survives notes and look-ups. The induction
is on the number of aliases that may still be expanded. -/
theorem executeWithin_induction {P : Task Outcome → Prop}
    (hblank : P (pure (.ok .none))) (herror : ∀ e, P (pure (.error e)))
    (hlog : ∀ level message t, P t → P (Task.log level message >>= fun _ => t))
    (hfind : ∀ name f, (∀ reply, P (f reply)) → P (Task.query (.findAlias name) >>= f))
    (hhandler : ∀ name d args, registry.lookup name = some d →
      P (do return settle d.name (← (d.handler args).run)))
    (left : Nat) (line : String) : P (executeWithin registry limit left line) := by
  have hcall : ∀ name d args, registry.lookup name = some d → P (call d args) := by
    intro name d args hname
    cases haccepts : d.signature.accepts (args.map String.toList) with
    | false =>
        rw [call_of_refused haccepts]
        exact hlog _ _ _ (herror _)
    | true =>
        rw [call_of_accepted haccepts]
        exact hlog _ _ _ (hhandler name d args hname)
  have hline : ∀ left line,
      (∀ name args, Line.tokenize line = name :: args → registry.lookup name = none →
        P (executeWithin registry limit left line)) →
      P (executeWithin registry limit left line) := by
    intro left line hunregistered
    rcases htokens : Line.tokenize line with _ | ⟨name, args⟩
    · rw [executeWithin_of_blank left htokens]
      exact hblank
    · cases hname : registry.lookup name with
      | some d =>
          rw [executeWithin_of_registered left htokens hname]
          exact hcall name d args hname
      | none => exact hunregistered name args htokens hname
  induction left generalizing line with
  | zero =>
      refine hline 0 line fun name args htokens hname => ?_
      rw [executeWithin_zero htokens hname]
      exact herror _
  | succ left ih =>
      refine hline (left + 1) line fun name args htokens hname => ?_
      rw [executeWithin_succ left htokens hname]
      refine hfind _ _ fun reply => ?_
      rcases reply with cause | _ | record
      · exact herror _
      · exact hlog _ _ _ (herror _)
      · exact hlog _ _ _ (ih _)

/-- A line asks for no other line to be run if the commands do not. -/
theorem runsNoLine_executeWithin (hregistry : registry.RunsNoLines) (left : Nat) (line : String) :
    (executeWithin registry limit left line).AllQueries Query.RunsNoLine := by
  refine executeWithin_induction trivial (fun _ => trivial) ?_ ?_ ?_ left line
  · exact fun _ _ _ ht => ⟨trivial, fun _ => ht⟩
  · exact fun _ _ hf => ⟨trivial, hf⟩
  · exact fun name d args hname => (hregistry name d args hname).bind fun _ => trivial

/-! ## Running a chain -/

/-- One step: the dispatcher goes on with the next line, and may expand one alias less. -/
theorem run_of_expands {name line₁ : String} {s₁ : Session} (left : Nat)
    (h : Expands registry s line name s₁ line₁) :
    s.run (executeWithin registry limit (left + 1) line) =
      s₁.run (executeWithin registry limit left line₁) := by
  obtain ⟨htokens, hname, hstore⟩ := h
  rw [executeWithin_succ left htokens hname, Session.run_findAlias_bind, hstore]
  exact Session.run_log_bind ..

theorem runs_of_expands {name line₁ : String} {s₁ : Session} {left : Nat} {outcome : Outcome}
    {qs : List Query} (h : Expands registry s line name s₁ line₁)
    (hnext : s₁.Runs (executeWithin registry limit left line₁) outcome s' qs) :
    s.Runs (executeWithin registry limit (left + 1) line) outcome s' (.findAlias name :: qs) := by
  obtain ⟨htokens, hname, hstore⟩ := h
  rw [executeWithin_succ left htokens hname]
  exact .findAlias_bind hstore (.log_bind hnext)

/-- The end of a chain, case by case. -/
theorem runs_of_ends {left : Nat} (hleft : depth + left = limit)
    (h : Ends registry limit depth s line e) :
    s.Runs (executeWithin registry limit left line) e.outcome e.session
      (e.lookups.map .findAlias ++ e.calls.flatMap Call.questions) := by
  cases h with
  | blank htokens =>
      rw [executeWithin_of_blank left htokens]
      exact .pure s _
  | refused htokens hname haccepts =>
      rw [executeWithin_of_registered left htokens hname, call_of_refused haccepts]
      exact .log_bind (.pure _ _)
  | @called name args d result s' htokens hname haccepts hrun =>
      rw [executeWithin_of_registered left htokens hname, call_of_accepted haccepts]
      have hcall := Session.Runs.log_bind (.bind_pure (settle d.name) (.of_run hrun))
      simpa [Call.questions] using hcall
  | tooDeep htokens hname hdepth =>
      obtain rfl : left = 0 := by omega
      rw [executeWithin_zero htokens hname]
      exact .pure s _
  | storeFailed htokens hname hdepth hstore =>
      obtain ⟨left, rfl⟩ : ∃ n, left = n + 1 := ⟨left - 1, by omega⟩
      rw [executeWithin_succ left htokens hname]
      exact .findAlias_bind hstore (.pure _ _)
  | unknown htokens hname hdepth hstore =>
      obtain ⟨left, rfl⟩ : ∃ n, left = n + 1 := ⟨left - 1, by omega⟩
      rw [executeWithin_succ left htokens hname]
      exact .findAlias_bind hstore (.log_bind (.pure _ _))

/-- **A chain is run line by line**: its names are looked up in order, and then its end is run. -/
theorem runs_of_chain (hchain : Chain registry limit depth s line names s' last)
    (hends : Ends registry limit (depth + names.length) s' last e) {left : Nat}
    (hleft : depth + left = limit) :
    s.Runs (executeWithin registry limit left line) e.outcome e.session
      ((names ++ e.lookups).map .findAlias ++ e.calls.flatMap Call.questions) := by
  induction hchain generalizing left with
  | stop depth s line => exact runs_of_ends hleft hends
  | step hlt hexpands _ ih =>
      obtain ⟨left, rfl⟩ : ∃ n, left = n + 1 := ⟨left - 1, by omega⟩
      -- the alias counts for the depth of the end, or for that of the rest of the chain
      rw [List.length_cons, Nat.add_comm _ 1, ← Nat.add_assoc] at hends
      exact runs_of_expands hexpands (ih hends (by omega))

/-! ## Every line has a chain -/

/-- A line within the limit is the last one of its chain, or has a next one. -/
theorem ends_or_expands (hregistry : registry.RunsNoLines) (hdepth : depth ≤ limit)
    (s : Session) (line : String) :
    (∃ e, Ends registry limit depth s line e) ∨
      (depth < limit ∧ ∃ name s₁ line₁, Expands registry s line name s₁ line₁) := by
  rcases htokens : Line.tokenize line with _ | ⟨name, args⟩
  · exact .inl ⟨_, .blank htokens⟩
  · cases hname : registry.lookup name with
    | some d =>
        cases haccepts : d.signature.accepts (args.map String.toList) with
        | false => exact .inl ⟨_, .refused htokens hname haccepts⟩
        | true =>
            -- the handler runs no lines, so it comes to a result
            obtain ⟨⟨result, s'⟩, hrun⟩ :=
              Session.exists_run (hregistry name d args hname) (s.report .debug (callNote d args))
            exact .inl ⟨_, .called htokens hname haccepts hrun⟩
    | none =>
        rcases Nat.eq_or_lt_of_le hdepth with heq | hlt
        · exact .inl ⟨_, .tooDeep htokens hname heq⟩
        · rcases hstore : s.findAlias name with ⟨cause | record?, s'⟩
          · exact .inl ⟨_, .storeFailed htokens hname hlt hstore⟩
          · cases record? with
            | none => exact .inl ⟨_, .unknown htokens hname hlt hstore⟩
            | some record => exact .inr ⟨hlt, _, _, _, .intro htokens hname hstore⟩

/-- Whatever the line and the store, a chain comes to its end within the limit. The induction is on
the number of aliases that may still be expanded. -/
theorem exists_chain (hregistry : registry.RunsNoLines) (left depth : Nat)
    (hleft : depth + left = limit) (s : Session) (line : String) :
    ∃ names s' last e, Chain registry limit depth s line names s' last ∧
      Ends registry limit (depth + names.length) s' last e := by
  induction left generalizing depth s line with
  | zero =>
      rcases ends_or_expands hregistry (show depth ≤ limit by omega) s line with
        ⟨e, he⟩ | ⟨hlt, -⟩
      · exact ⟨[], s, line, e, .stop depth s line, he⟩
      · omega
  | succ left ih =>
      rcases ends_or_expands hregistry (show depth ≤ limit by omega) s line with
        ⟨e, he⟩ | ⟨hlt, name, s₁, line₁, hexpands⟩
      · exact ⟨[], s, line, e, .stop depth s line, he⟩
      · obtain ⟨names, s', last, e, hchain, hends⟩ := ih (depth + 1) (by omega) s₁ line₁
        refine ⟨name :: names, s', last, e, .step hlt hexpands hchain, ?_⟩
        rwa [List.length_cons, Nat.add_comm _ 1, ← Nat.add_assoc]

/-- **A line is resolved along its chain, and the chain ends.** Every line has a chain with an end,
and for that chain and end: it goes through no more aliases than the limit allows, and the line has
the outcome of the end. No more names are looked up than that, none of them the name of a command;
one command is called at most; and beside the look-ups nothing is asked but by that command. -/
theorem execute_follows_chain (s : Session) (hregistry : s.registry.RunsNoLines)
    (line : String) :
    (∃ names s' last e, Chain s.registry s.aliasLimit 0 s line names s' last ∧
      Ends s.registry s.aliasLimit names.length s' last e) ∧
    ∀ names s' last e, Chain s.registry s.aliasLimit 0 s line names s' last →
      Ends s.registry s.aliasLimit names.length s' last e →
        names.length ≤ s.aliasLimit ∧
        s.execute line = some (e.outcome, e.session) ∧
        (names ++ e.lookups).length ≤ s.aliasLimit ∧
        (∀ name ∈ names ++ e.lookups, s.registry.lookup name = none) ∧
        e.calls.length ≤ 1 ∧
        s.questions (execute s.registry s.aliasLimit line) =
          (names ++ e.lookups).map .findAlias ++ e.calls.flatMap Call.questions := by
  constructor
  · simpa using exists_chain hregistry s.aliasLimit 0 (Nat.zero_add _) s line
  · intro names s' last e hchain hends
    have hlength := hchain.length_le (Nat.zero_le _)
    have hends' : Ends s.registry s.aliasLimit (0 + names.length) s' last e := by
      rwa [Nat.zero_add]
    have hruns := runs_of_chain hchain hends' (Nat.zero_add _)
    refine ⟨by omega, hruns.run, ?_, ?_, hends.length_calls_le, hruns.questions⟩
    · rw [List.length_append]
      exact hends.length_lookups_le (by omega)
    · intro name hname
      rcases List.mem_append.mp hname with hname | hname
      · exact hchain.not_registered name hname
      · exact hends.not_registered name hname

/-- A command that shows its arguments. -/
def echo : Definition :=
  { name := "echo", summary := "", detail := "", usage := "[A] [B]"
    signature := [⟨.text, true⟩, ⟨.text, true⟩]
    handler := fun args => return .text ("|".intercalate args) }

/-- A session with one command and two aliases that stand for each other. -/
def cyclic : Session :=
  { Session.start with
    registry := Registry.empty.register echo
    aliases := .memory ⟨.ofCommands [("ping", "pong"), ("pong", "ping")], none⟩ }

theorem eq_echo_of_lookup {name : String} {d : Definition}
    (hname : cyclic.registry.lookup name = some d) : d = echo := by
  simp only [cyclic, Registry.register, Registry.empty, Assoc.insert, Registry.lookup,
    Assoc.find?] at hname
  split at hname
  · exact (Option.some.inj hname).symm
  · contradiction

theorem cyclic_runsNoLines : cyclic.registry.RunsNoLines := by
  intro name d args hname
  rw [eq_echo_of_lookup hname]
  trivial

/-- The chain of a line whose alias comes back to itself: it stops at the limit. -/
theorem execute_follows_chain_cyclic :
    cyclic.registry.RunsNoLines ∧
    ∃ names s' last e, Chain cyclic.registry cyclic.aliasLimit 0 cyclic "ping" names s' last ∧
      Ends cyclic.registry cyclic.aliasLimit names.length s' last e ∧
      cyclic.execute "ping" = some (e.outcome, e.session) ∧
      e.outcome = .error (.aliasTooDeep "ping" 8) := by
  obtain ⟨⟨names, s', last, e, hchain, hends⟩, hall⟩ :=
    execute_follows_chain cyclic cyclic_runsNoLines "ping"
  have hrun := (hall names s' last e hchain hends).2.1
  have heval : (cyclic.execute "ping").map Prod.fst = some (.error (.aliasTooDeep "ping" 8)) := rfl
  rw [hrun] at heval
  exact ⟨cyclic_runsNoLines, names, s', last, e, hchain, hends, hrun, Option.some.inj heval⟩

end CommandConsole.Dispatch
