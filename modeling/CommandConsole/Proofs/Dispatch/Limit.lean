import CommandConsole.Proofs.Dispatch.Chain
import CommandConsole.Proofs.Session.Apart

/-!
# A higher limit

The limit bounds how many aliases one line may go through. On the way of a line it matters in one
place only: a name that is no command is refused when the limit is reached, before the store is
asked. So a chain of lines is a chain under every higher limit (`Chain.of_limit_le`), and has the
same end there, unless the end is that refusal (`Ends.of_limit_le`).

`execute_of_limit_le` says what follows for a line: if it does not fail for going through too many
aliases, it comes to the same under every higher limit, by the same look-ups and the same call.
-/

set_option autoImplicit false

namespace CommandConsole

namespace Session

/-- A session with another limit. -/
def withLimit (s : Session) (limit : Nat) : Session := { s with aliasLimit := limit }

variable {α : Type} (s : Session) (limit : Nat)

theorem report_withLimit (level : LogLevel) (message : String) :
    (s.withLimit limit).report level message = (s.report level message).withLimit limit :=
  report_apart (fun _ => limit) [] s level message

theorem findAlias_withLimit (name : String) :
    (s.withLimit limit).findAlias name =
      ((s.findAlias name).1, (s.findAlias name).2.withLimit limit) :=
  findAlias_apart (fun _ => limit) [] s name

/-- A task that runs no line comes to the same whatever the limit. -/
theorem run_withLimit {t : Task α} (ht : t.AllQueries Query.RunsNoLine) :
    (s.withLimit limit).run t = (s.run t).map fun p => (p.1, p.2.withLimit limit) :=
  runWith_comm (fun _ hq s => answer_apart (fun _ => limit) [] s maxNesting hq) ht s

theorem questions_withLimit {t : Task α} (ht : t.AllQueries Query.RunsNoLine) :
    (s.withLimit limit).questions t = s.questions t := by
  have hasked : (s.withLimit limit).asked t = s.asked t :=
    askedWith_comm (fun _ hq s => answer_apart (fun _ => limit) [] s maxNesting hq) ht s
  rw [questions, questions, hasked]

end Session

namespace Dispatch

/-- A call on a session with another limit: the same command with the same arguments. -/
def Call.withLimit (c : Call) (limit : Nat) : Call :=
  { c with session := c.session.withLimit limit }

/-- An ending on sessions with another limit: the same outcome, look-ups and calls. -/
def Ending.withLimit (e : Ending) (limit : Nat) : Ending :=
  { e with session := e.session.withLimit limit, calls := e.calls.map (·.withLimit limit) }

variable {registry : Registry} {limit limit' depth : Nat} {s s' s₁ : Session}
  {line line₁ last name : String} {names : List String} {e : Ending}

/-! ## Chains -/

/-- A step of a chain is one whatever the limit of the session. -/
theorem Expands.withLimit (h : Expands registry s line name s₁ line₁) (limit : Nat) :
    Expands registry (s.withLimit limit) line name (s₁.withLimit limit) line₁ := by
  obtain ⟨htokens, hname, hstore⟩ := h
  rw [← Session.report_withLimit]
  refine .intro htokens hname ?_
  rw [Session.findAlias_withLimit, hstore]

/-- **A chain is a chain under every higher limit.** -/
theorem Chain.of_limit_le (h : Chain registry limit depth s line names s' last)
    (hle : limit ≤ limit') :
    Chain registry limit' depth (s.withLimit limit') line names (s'.withLimit limit') last := by
  induction h with
  | stop depth s line => exact .stop depth _ line
  | step hlt hexpands _ ih =>
      exact .step (Nat.lt_of_lt_of_le hlt hle) (hexpands.withLimit limit') ih

/-! ## Endings -/

/-- The commands called at the end of a chain run no lines. -/
theorem Ends.runsNoLine (hregistry : registry.RunsNoLines)
    (h : Ends registry limit depth s line e) :
    ∀ c ∈ e.calls, (c.command.handler c.args).run.AllQueries Query.RunsNoLine := by
  cases h with
  | called _ hname _ _ => simpa using hregistry _ _ _ hname
  | _ => simp

/-- **The end of a chain is its end under every higher limit**, unless it is the refusal at the
limit. -/
theorem Ends.of_limit_le (hregistry : registry.RunsNoLines)
    (h : Ends registry limit depth s line e) (hle : limit ≤ limit')
    (hdeep : ∀ name depth, e.outcome ≠ .error (.aliasTooDeep name depth)) :
    Ends registry limit' depth (s.withLimit limit') line (e.withLimit limit') := by
  cases h with
  | blank htokens => exact .blank htokens
  | @refused name args d htokens hname haccepts =>
      have hend : Ends registry limit' depth (s.withLimit limit') line _ :=
        .refused htokens hname haccepts
      rwa [Session.report_withLimit] at hend
  | @called name args d result s' htokens hname haccepts hrun =>
      -- the handler runs no line, so it cannot tell the limits apart
      have hrun' : ((s.withLimit limit').report .debug (callNote d args)).run
          (d.handler args).run = some (result, s'.withLimit limit') := by
        rw [Session.report_withLimit, Session.run_withLimit _ _ (hregistry name d args hname), hrun]
        rfl
      have hend : Ends registry limit' depth (s.withLimit limit') line _ :=
        .called htokens hname haccepts hrun'
      rwa [Session.report_withLimit] at hend
  | @tooDeep name args _ _ _ => exact absurd rfl (hdeep name limit)
  | storeFailed htokens hname hlt hstore =>
      refine .storeFailed htokens hname (Nat.lt_of_lt_of_le hlt hle) ?_
      rw [Session.findAlias_withLimit, hstore]
  | @unknown name args s' htokens hname hlt hstore =>
      have hstore' : (s.withLimit limit').findAlias name = (.ok none, s'.withLimit limit') := by
        rw [Session.findAlias_withLimit, hstore]
      have hend := Ends.unknown htokens hname (Nat.lt_of_lt_of_le hlt hle) hstore'
      rwa [Session.report_withLimit] at hend

/-- What is asked at an end is asked under every limit. -/
theorem questions_withLimit (hregistry : registry.RunsNoLines)
    (h : Ends registry limit depth s line e) (limit' : Nat) :
    (e.withLimit limit').calls.flatMap Call.questions = e.calls.flatMap Call.questions := by
  have hcall : ∀ c ∈ e.calls, (c.withLimit limit').questions = c.questions := fun c hc =>
    Session.questions_withLimit _ limit' (h.runsNoLine hregistry c hc)
  show (e.calls.map (·.withLimit limit')).flatMap Call.questions = _
  rw [List.flatMap_map, List.flatMap_def, List.flatMap_def, List.map_congr_left hcall]

/-! ## Lines -/

/-- **A higher limit changes no outcome but the refusal at the limit.** A line goes along a chain to
an end, and comes to the outcome of that end. If this is not the error of a line that goes through
too many aliases, then under every higher limit the line goes along the same chain to the same end:
it has the same outcome and leaves the same session, by the same look-ups in the store and the same
call of a command with the same arguments, and nothing else is asked. -/
theorem execute_of_limit_le (s : Session) (hregistry : s.registry.RunsNoLines) (line : String)
    {limit : Nat} (hle : s.aliasLimit ≤ limit) :
    ∃ names s' last e, Chain s.registry s.aliasLimit 0 s line names s' last ∧
      Ends s.registry s.aliasLimit names.length s' last e ∧
      s.execute line = some (e.outcome, e.session) ∧
      ((∀ name depth, e.outcome ≠ .error (.aliasTooDeep name depth)) →
        Chain s.registry limit 0 (s.withLimit limit) line names (s'.withLimit limit) last ∧
        Ends s.registry limit names.length (s'.withLimit limit) last (e.withLimit limit) ∧
        (s.withLimit limit).execute line = some (e.outcome, e.session.withLimit limit) ∧
        (s.withLimit limit).questions (execute s.registry limit line) =
          s.questions (execute s.registry s.aliasLimit line)) := by
  obtain ⟨names, s', last, e, hchain, hends⟩ :=
    exists_chain hregistry s.aliasLimit 0 (Nat.zero_add _) s line
  have hruns := runs_of_chain hchain hends (Nat.zero_add _)
  rw [Nat.zero_add] at hends
  refine ⟨names, s', last, e, hchain, hends, hruns.run, fun hdeep => ?_⟩
  have hchain' := hchain.of_limit_le hle
  have hends' := hends.of_limit_le hregistry hle hdeep
  have hruns' := runs_of_chain hchain' (by rwa [Nat.zero_add]) (Nat.zero_add _)
  refine ⟨hchain', hends', hruns'.run, ?_⟩
  calc (s.withLimit limit).questions (execute s.registry limit line)
      = (names ++ e.lookups).map Query.findAlias ++
          (e.withLimit limit).calls.flatMap Call.questions := hruns'.questions
    _ = (names ++ e.lookups).map Query.findAlias ++ e.calls.flatMap Call.questions := by
        rw [questions_withLimit hregistry hends limit]
    _ = s.questions (execute s.registry s.aliasLimit line) := hruns.questions.symm

/-- A session with one command and two aliases on the way to it, as many as its limit allows. -/
def twoSteps : Session :=
  { cyclic with
    aliasLimit := 2
    aliases := .memory ⟨.ofCommands [("far", "near one"), ("near", "echo $1 two")], none⟩ }

theorem execute_of_limit_le_twoSteps :
    twoSteps.registry.RunsNoLines ∧ twoSteps.aliasLimit ≤ 5 ∧
      (twoSteps.execute "far").map Prod.fst = some (.ok (.text "one|two")) ∧
      ((twoSteps.withLimit 5).execute "far").map Prod.fst = some (.ok (.text "one|two")) := by
  have hle : twoSteps.aliasLimit ≤ 5 := by decide
  obtain ⟨names, s', last, e, -, -, hrun, hhigher⟩ :=
    execute_of_limit_le twoSteps cyclic_runsNoLines "far" hle
  have heval : (twoSteps.execute "far").map Prod.fst = some (.ok (.text "one|two")) := rfl
  have houtcome : e.outcome = .ok (.text "one|two") := by
    rw [hrun] at heval
    exact Option.some.inj heval
  have hdeep : ∀ name depth, e.outcome ≠ .error (.aliasTooDeep name depth) := by simp [houtcome]
  obtain ⟨-, -, hrun', -⟩ := hhigher hdeep
  refine ⟨cyclic_runsNoLines, hle, heval, ?_⟩
  rw [hrun', houtcome]
  rfl

end Dispatch

end CommandConsole
