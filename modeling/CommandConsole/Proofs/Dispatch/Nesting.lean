import CommandConsole.Proofs.Assoc
import CommandConsole.Proofs.Dispatch.Resolution
import CommandConsole.Proofs.Session.Configuration

/-!
# Errors of lines within lines

A command can fail in any way, panic, or run another line and pass on what that fails with. What
goes wrong in it becomes an error with its name where the command was called (`Becomes`), unless the
error has a name already: such an error no name changes (`CommandError.attributed_iff`), so it stays
as it is on the way out through the commands around it and through the aliases that led to these
(`Relays.eq`).

Only one error comes out of a line without a name: the complaint of the store about the empty name
(`attributed_or_lookup`).

All this is said of paths, on which the answer to a line that is run may be anything. On a session
it is an outcome of that line, dispatched as the line around it is
(`Session.exists_path_of_mem_transcript`).
-/

set_option autoImplicit false

namespace CommandConsole

/-! ## Names of errors -/

namespace CommandError

/-- The error of a collaborator, or of a command that broke down, names a command. -/
def Attributed : CommandError → Prop
  | .remote command _ => command ≠ ""
  | .execution command _ => command ≠ ""
  | _ => True

/-- The two errors that wait for a name, and all others. -/
theorem waiting_or_attributed (e : CommandError) :
    (∃ cause, e = .remote "" cause) ∨ (∃ cause, e = .execution "" cause) ∨ e.Attributed := by
  cases e with
  | remote command cause =>
      by_cases hcommand : command = ""
      · exact .inl ⟨cause, by rw [hcommand]⟩
      · exact .inr (.inr hcommand)
  | execution command cause =>
      by_cases hcommand : command = ""
      · exact .inr (.inl ⟨cause, by rw [hcommand]⟩)
      · exact .inr (.inr hcommand)
  | _ => exact .inr (.inr trivial)

/-- An error that has a name keeps it. -/
theorem Attributed.blame_eq {e : CommandError} (h : e.Attributed) (name : String) :
    e.blame name = e := by
  rcases Dispatch.blame_cases name e with ⟨cause, rfl, -⟩ | ⟨cause, rfl, -⟩ | hsame
  · exact absurd rfl h
  · exact absurd rfl h
  · exact hsame

/-- **The errors that have a name are those that no name changes.** -/
theorem attributed_iff {e : CommandError} : e.Attributed ↔ ∀ name, e.blame name = e := by
  refine ⟨Attributed.blame_eq, fun h => ?_⟩
  -- an error that waits for a name takes any
  have hnamed := h "command"
  rcases e.waiting_or_attributed with ⟨cause, rfl⟩ | ⟨cause, rfl⟩ | he
  · simp [blame] at hnamed
  · simp [blame] at hnamed
  · exact he

end CommandError

/-- The commands that are found have names. -/
def Registry.Named (registry : Registry) : Prop :=
  ∀ name d, registry.lookup name = some d → d.name ≠ ""

/-- A path with the same answers has the same value at its end. -/
theorem Task.Path.unique {α : Type} {t : Task α} {xs : List Exchange} {a b : α}
    (h : t.Path xs a) (h' : t.Path xs b) : a = b := by
  induction h with
  | done a =>
      cases h'
      rfl
  | note _ ih =>
      cases h' with
      | note h' => exact ih h'
      | ask hq _ => contradiction
  | ask hq _ ih =>
      cases h' with
      | note _ => contradiction
      | ask _ h' => exact ih h'

/-! ## Lines that are run on a session -/

namespace Session

/-- Lines are dispatched alike on both sessions. -/
structure SameDispatch (s s' : Session) : Prop where
  registry : s'.registry = s.registry
  aliasLimit : s'.aliasLimit = s.aliasLimit

variable {α : Type} {s s' : Session}

theorem SameDispatch.trans {s'' : Session} (h : s.SameDispatch s') (h' : s'.SameDispatch s'') :
    s.SameDispatch s'' :=
  ⟨h'.registry.trans h.registry, h'.aliasLimit.trans h.aliasLimit⟩

theorem sameDispatch_openView (s : Session) (v : View) : s.SameDispatch (s.openView v).2 := by
  unfold openView
  cases s.opener with
  | echo => exact ⟨rfl, rfl⟩
  | recorder opened refusal => cases refusal <;> exact ⟨rfl, rfl⟩

/-- A task changes no more than the answers to its questions do. -/
theorem sameDispatch_runWith {answer : (q : Query) → Session → Option (q.Answer × Session)}
    (hanswer : ∀ {q : Query} {s s' : Session} {a : q.Answer},
      answer q s = some (a, s') → s.SameDispatch s')
    {t : Task α} {b : α} (h : runWith answer t s = some (b, s')) : s.SameDispatch s' := by
  induction t generalizing s with
  | done _ =>
      obtain ⟨-, rfl⟩ := Prod.mk.inj (Option.some.inj h)
      exact ⟨rfl, rfl⟩
  | ask q next ih =>
      unfold runWith at h
      split at h
      · next ha => exact (hanswer ha).trans (ih _ h)
      · contradiction

theorem sameDispatch_of_runsNoLine {nesting : Nat} {q : Query} {a : q.Answer}
    (h : answer nesting q s = some (a, s')) (hq : q.RunsNoLine) : s.SameDispatch s' := by
  rw [answer_zero hq] at h
  rcases sameConsole_or_openView hq h with hsame | ⟨v, rfl⟩
  · exact ⟨hsame.registry, hsame.aliasLimit⟩
  · exact sameDispatch_openView s v

/-- **No question changes how lines are dispatched**, nor does a line that is run. The induction is
on the depth of the lines that run lines. -/
theorem sameDispatch_answer {nesting : Nat} {q : Query} {a : q.Answer}
    (h : answer nesting q s = some (a, s')) : s.SameDispatch s' := by
  induction nesting generalizing q s s' with
  | zero =>
      cases q with
      | execute line => contradiction
      | _ => exact sameDispatch_of_runsNoLine h trivial
  | succ nesting ih =>
      cases q with
      | execute line => exact sameDispatch_runWith ih h
      | _ => exact sameDispatch_of_runsNoLine h trivial

/-- **A line that a task runs on a session comes to its outcome along a path**, as the line around
it does. -/
theorem exists_path_of_mem_transcript {nesting : Nat} {t : Task α} {line : String}
    {outcome : Outcome} (h : ⟨.execute line, outcome⟩ ∈ transcriptWith (answer nesting) t s) :
    ∃ xs, (Dispatch.execute s.registry s.aliasLimit line).Path xs outcome := by
  induction t generalizing s with
  | done _ => exact absurd h List.not_mem_nil
  | ask q next ih =>
      cases ha : answer nesting q s with
      | none => simp [transcriptWith, ha] at h
      | some reply =>
          obtain ⟨a, s₁⟩ := reply
          rw [transcriptWith_ask ha] at h
          have hlater (hmem : ⟨.execute line, outcome⟩ ∈
              transcriptWith (answer nesting) (next a) s₁) :
              ∃ xs, (Dispatch.execute s.registry s.aliasLimit line).Path xs outcome := by
            have hsame := sameDispatch_answer ha
            rw [← hsame.registry, ← hsame.aliasLimit]
            exact ih a hmem
          split at h
          · exact hlater h
          · rcases List.mem_cons.mp h with hfirst | hmem
            · -- the line is run where this question is answered
              cases hfirst
              cases nesting with
              | zero => contradiction
              | succ nesting => exact ⟨_, path_of_runWith ha⟩
            · exact hlater hmem

end Session

namespace Dispatch

variable {registry : Registry} {limit left : Nat} {line last name : String}
  {front back xs : List Exchange} {d : Definition} {args : List String} {fault : Fault}
  {e e' : CommandError} {outcome : Outcome}

/-- What goes wrong in a command becomes an error with the name of the command: a panic with its
text, and an error that waits for a name. An error that has one is passed on. -/
inductive Becomes (name : String) : Fault → CommandError → Prop where
  | panic (message : Option String) :
      Becomes name (.panic message) (.execution name (message.getD "handler panicked"))
  | remote (cause : String) : Becomes name (.error (.remote "" cause)) (.remote name cause)
  | execution (cause : String) :
      Becomes name (.error (.execution "" cause)) (.execution name cause)
  | passed {e : CommandError} : e.Attributed → Becomes name (.error e) e

theorem Becomes.attributed (h : Becomes name fault e) (hname : name ≠ "") : e.Attributed := by
  cases h with
  | panic _ => exact hname
  | remote _ => exact hname
  | execution _ => exact hname
  | passed he => exact he

theorem Becomes.eq_of_attributed (h : Becomes name (.error e) e') (he : e.Attributed) :
    e' = e := by
  cases h with
  | remote _ => exact absurd rfl he
  | execution _ => exact absurd rfl he
  | passed _ => rfl

/-- A fault becomes one error, and that is what the call of the command comes to. -/
theorem becomes_iff_settle : Becomes name fault e ↔ settle name (.error fault) = .error e := by
  constructor
  · intro h
    cases h with
    | panic _ => rfl
    | remote _ => rfl
    | execution _ => rfl
    | passed he => exact congrArg Except.error (he.blame_eq name)
  · intro h
    cases fault with
    | panic message =>
        obtain rfl := Except.error.inj h
        exact .panic message
    | error e₀ =>
        obtain rfl := Except.error.inj h
        rcases e₀.waiting_or_attributed with ⟨cause, rfl⟩ | ⟨cause, rfl⟩ | he
        · exact .remote cause
        · exact .execution cause
        · rw [he.blame_eq]
          exact .passed he

theorem exists_becomes (name : String) (fault : Fault) :
    ∃ e, Becomes name fault e ∧ settle name (.error fault) = .error e := by
  cases hsettle : settle name (.error fault) with
  | ok out => cases fault <;> contradiction
  | error e => exact ⟨e, becomes_iff_settle.mpr hsettle, rfl⟩

/-! ## Lines that lead to a call -/

/-- **A path through a line** that leads to another one is a path through the other line, which may
go through so many aliases less. -/
theorem path_iff_of_leads (h : Leads registry line front last) :
    (executeWithin registry limit left line).Path (front ++ back) outcome ↔
      front.length ≤ left ∧
        (executeWithin registry limit (left - front.length) last).Path back outcome := by
  induction h generalizing left with
  | stay line => simp
  | @expand line name last args record xs htokens hname hleads ih =>
      cases left with
      | zero =>
          rw [executeWithin_zero htokens hname, Task.path_pure]
          simp
      | succ left =>
          have hresume {ys : List Exchange} :
              (resume registry limit left name args (.ok (some record))).Path ys outcome ↔
                (executeWithin registry limit left
                  (Line.substitute record.command args)).Path ys outcome :=
            Task.path_note_bind
          rw [executeWithin_succ left htokens hname, Task.path_query_bind rfl, List.length_cons,
            Nat.add_le_add_iff_right, Nat.add_sub_add_right, ← ih, ← hresume]
          constructor
          · rintro ⟨reply, ys, hxs, hpath⟩
            cases hxs
            exact hpath
          · exact fun hpath => ⟨_, _, rfl, hpath⟩

/-- A path through a line that calls a command is one through what the command does. -/
theorem path_iff_of_calls (h : Calls registry line d args) :
    (executeWithin registry limit left line).Path xs outcome ↔
      ∃ result, (d.handler args).run.Path xs result ∧ outcome = settle d.name result := by
  obtain ⟨name, htokens, hname⟩ := h.tokens
  rw [executeWithin_of_registered left htokens hname, call_of_accepted h.accepts,
    Task.path_note_bind, Task.path_bind]
  constructor
  · rintro ⟨ys, result, zs, rfl, hhandler, hsettle⟩
    obtain ⟨rfl, rfl⟩ := Task.path_pure.mp hsettle
    exact ⟨result, by rwa [List.append_nil], rfl⟩
  · rintro ⟨result, hhandler, rfl⟩
    exact ⟨xs, result, [], (List.append_nil xs).symm, hhandler, Task.path_pure.mpr ⟨rfl, rfl⟩⟩

/-- **What goes wrong in a command that a line leads to** is what the line comes to, with the name
of the command. -/
theorem path_iff_of_fault (hleads : Leads registry line front last)
    (hcalls : Calls registry last d args)
    (hfault : (d.handler args).run.Path back (.error fault)) :
    (execute registry limit line).Path (front ++ back) outcome ↔
      front.length ≤ limit ∧ ∃ e, Becomes d.name fault e ∧ outcome = .error e := by
  rw [execute, path_iff_of_leads hleads, path_iff_of_calls hcalls]
  refine and_congr_right fun _ => ⟨?_, ?_⟩
  · rintro ⟨result, hresult, rfl⟩
    obtain rfl := hresult.unique hfault
    exact exists_becomes d.name fault
  · rintro ⟨e, hbecomes, rfl⟩
    exact ⟨.error fault, hfault, (becomes_iff_settle.mp hbecomes).symm⟩

/-! ## What comes out of a line -/

/-- **An error that comes out of a line has a name**, or it is the complaint of the store about the
empty name. -/
theorem attributed_or_lookup (hnames : registry.Named)
    (h : (execute registry limit line).Path xs (.error e)) :
    e.Attributed ∨ ∃ front last args cause, e = .remote "" cause ∧
      xs = front ++ [⟨.findAlias "", .error cause⟩] ∧ Leads registry line front last ∧
        Line.tokenize last = "" :: args := by
  obtain ⟨front, back, last, rfl, hleads, hcomes⟩ := path_executeWithin (Nat.zero_add limit) h
  generalize houtcome : (Except.error e : Outcome) = outcome at hcomes
  cases hcomes with
  | blank _ => contradiction
  | refused _ _ _ =>
      obtain rfl := Except.error.inj houtcome
      exact .inl trivial
  | @called d args xs result hcalls hpath =>
      obtain ⟨name, -, hname⟩ := hcalls.tokens
      cases result with
      | ok out => contradiction
      | error fault =>
          exact .inl ((becomes_iff_settle.mpr houtcome.symm).attributed (hnames name d hname))
  | tooDeep _ _ _ =>
      obtain rfl := Except.error.inj houtcome
      exact .inl trivial
  | @storeFailed name cause args htokens _ _ =>
      obtain rfl := Except.error.inj houtcome
      by_cases hname : name = ""
      · subst hname
        exact .inr ⟨front, last, args, cause, rfl, rfl, hleads, htokens⟩
      · exact .inl hname
  | unknown _ _ _ =>
      obtain rfl := Except.error.inj houtcome
      exact .inl trivial

/-- A line comes to an error by passing on what an inner line failed with: it is that line, or it
leads to a call of a command that ran a line with this error and ended with the error itself. -/
inductive Relays (registry : Registry) (limit : Nat) (inner : String) (e : CommandError) :
    String → CommandError → Prop where
  | inner : Relays registry limit inner e inner e
  | around {line mid last : String} {front back : List Exchange} {d : Definition}
      {args : List String} {e₁ e₂ : CommandError} :
      Relays registry limit inner e mid e₁ →
      Leads registry line front last →
      Calls registry last d args →
      (d.handler args).run.Path back (.error (.error e₁)) →
      ⟨.execute mid, .error e₁⟩ ∈ back →
      (execute registry limit line).Path (front ++ back) (.error e₂) →
      Relays registry limit inner e line e₂

/-- **An error with a name comes out as it is**, however many lines pass it on. -/
theorem Relays.eq {inner : String} (h : Relays registry limit inner e line e')
    (he : e.Attributed) : e' = e := by
  induction h with
  | inner => rfl
  | around _ hleads hcalls hfault _ hpath ih =>
      subst ih
      obtain ⟨-, e₃, hbecomes, houtcome⟩ := (path_iff_of_fault hleads hcalls hfault).mp hpath
      obtain rfl := Except.error.inj houtcome
      exact hbecomes.eq_of_attributed he

/-- On a session too, what goes wrong in a command comes out with its name. -/
theorem execute_of_fault {s s₁ s₂ : Session} {names : List String}
    (hchain : Chain s.registry s.aliasLimit 0 s line names s₁ last)
    (hcalls : Calls s.registry last d args)
    (hrun : (s₁.report .debug (callNote d args)).run (d.handler args).run =
      some (.error fault, s₂)) :
    ∃ e, Becomes d.name fault e ∧ s.execute line = some (.error e, s₂) := by
  obtain ⟨e, hbecomes, hsettle⟩ := exists_becomes d.name fault
  obtain ⟨name, htokens, hname⟩ := hcalls.tokens
  refine ⟨e, hbecomes, ?_⟩
  rw [← hsettle]
  exact (runs_of_chain hchain (.called htokens hname hcalls.accepts hrun) (Nat.zero_add _)).run

/-- **Errors come out of a line with a name.** Take any commands that have names, whatever they do:
give any output or error, panic at any time, or run other lines; and any answers to what is asked.
The error of a collaborator or of a command that broke down, as it comes out of a line, names a
command, unless the store has complained when the empty name was looked up. Such an error is one
that no name changes. What goes wrong in the command that a line leads to, a panic too, is an error
with its name, which the line comes to along this path and no other. Through however many lines an
error with a name is passed on, it stays as it is. A run on a session goes along such a path, as the
lines do that are run on the way, and comes to an error with the name of the command where something
goes wrong in it. -/
theorem errors_attributed (hnames : registry.Named) (limit : Nat) (line : String) :
    (∀ xs e, (execute registry limit line).Path xs (.error e) →
      e.Attributed ∨ ∃ front last args cause, e = .remote "" cause ∧
        xs = front ++ [⟨.findAlias "", .error cause⟩] ∧ Leads registry line front last ∧
          Line.tokenize last = "" :: args) ∧
    (∀ e : CommandError, e.Attributed ↔ ∀ name, e.blame name = e) ∧
    (∀ front last d args, Leads registry line front last → Calls registry last d args →
      ∀ back fault, (d.handler args).run.Path back (.error fault) → ∀ outcome,
        (execute registry limit line).Path (front ++ back) outcome ↔
          front.length ≤ limit ∧
            ∃ e, Becomes d.name fault e ∧ e.Attributed ∧ outcome = .error e) ∧
    (∀ inner e e', e.Attributed → Relays registry limit inner e line e' → e' = e) ∧
    (∀ s : Session, s.registry = registry → s.aliasLimit = limit →
      (∀ outcome s', s.execute line = some (outcome, s') →
        (execute registry limit line).Path (s.transcript (execute registry limit line)) outcome) ∧
      (∀ mid outcome, ⟨.execute mid, outcome⟩ ∈ s.transcript (execute registry limit line) →
        ∃ xs, (execute registry limit mid).Path xs outcome) ∧
      ∀ names s₁ last d args fault s₂, Chain registry limit 0 s line names s₁ last →
        Calls registry last d args →
        (s₁.report .debug (callNote d args)).run (d.handler args).run = some (.error fault, s₂) →
          ∃ e, Becomes d.name fault e ∧ s.execute line = some (.error e, s₂)) := by
  refine ⟨fun xs e => attributed_or_lookup hnames, fun e => CommandError.attributed_iff,
    fun front last d args hleads hcalls back fault hfault outcome => ?_,
    fun inner e e' he hrelays => hrelays.eq he, ?_⟩
  · rw [path_iff_of_fault hleads hcalls hfault]
    obtain ⟨name, -, hname⟩ := hcalls.tokens
    have hattributed {e : CommandError} (h : Becomes d.name fault e) : e.Attributed :=
      h.attributed (hnames name d hname)
    refine and_congr_right fun _ => exists_congr fun e => ?_
    exact ⟨fun ⟨h, houtcome⟩ => ⟨h, hattributed h, houtcome⟩, fun ⟨h, _, houtcome⟩ => ⟨h, houtcome⟩⟩
  · rintro s rfl rfl
    exact ⟨fun outcome s' hrun => Session.path_of_run hrun,
      fun mid outcome hmem => Session.exists_path_of_mem_transcript hmem,
      fun names s₁ last d args fault s₂ hchain hcalls hrun => execute_of_fault hchain hcalls hrun⟩

/-- A command that panics. -/
def boom : Definition :=
  { name := "boom", summary := "", detail := "", usage := "", signature := []
    handler := fun _ => throw (.panic (some "out of order")) }

/-- A command that runs its argument as a line, and passes on what that comes to. -/
def outer : Definition :=
  { name := "outer", summary := "", detail := "", usage := "LINE", signature := [⟨.text, false⟩]
    handler := fun args => do
      match ← Action.query (.execute (args.headD "")) with
      | .ok out => return out
      | .error e => Action.fail e }

/-- The two commands. -/
def outerAndBoom : Registry := (Registry.empty.register boom).register outer

theorem outerAndBoom_named : outerAndBoom.Named := by
  intro name d hname
  have hmem : (name, d) ∈ outerAndBoom := Assoc.mem_of_find?_eq_some hname
  have hentries : outerAndBoom = [("boom", boom), ("outer", outer)] := rfl
  rw [hentries] at hmem
  simp only [List.mem_cons, Prod.mk.injEq, List.not_mem_nil, or_false] at hmem
  rcases hmem with ⟨-, rfl⟩ | ⟨-, rfl⟩
  · decide
  · decide

/-- The panic of the inner command is named after it, and the outer one passes it on. -/
theorem errors_attributed_boom :
    outerAndBoom.Named ∧
    ∃ e, (execute outerAndBoom 8 "boom").Path [] (.error e) ∧
      Becomes "boom" (.panic (some "out of order")) e ∧
      Relays outerAndBoom 8 "boom" e "outer boom" e ∧
      ∀ e', Relays outerAndBoom 8 "boom" e "outer boom" e' → e' = e := by
  have hboom : Calls outerAndBoom "boom" boom [] := ⟨⟨"boom", rfl, rfl⟩, rfl⟩
  have houter : Calls outerAndBoom "outer boom" outer ["boom"] := ⟨⟨"outer", rfl, rfl⟩, rfl⟩
  -- the inner line
  have hpanic : (boom.handler []).run.Path [] (.error (.panic (some "out of order"))) := .done _
  obtain ⟨-, -, hinner, -⟩ := errors_attributed outerAndBoom_named 8 "boom"
  have hinner := hinner [] "boom" boom [] (.stay "boom") hboom [] _ hpanic
  have hbecomes : Becomes boom.name (.panic (some "out of order"))
      (.execution "boom" "out of order") := .panic (some "out of order")
  have he : (CommandError.execution "boom" "out of order").Attributed :=
    hbecomes.attributed (by decide)
  have hpath := (hinner _).mpr ⟨by decide, _, hbecomes, he, rfl⟩
  -- the line around it
  have hfails : (outer.handler ["boom"]).run.Path
      [⟨.execute "boom", .error (.execution "boom" "out of order")⟩]
      (.error (.error (.execution "boom" "out of order"))) := .ask rfl (.done _)
  obtain ⟨-, -, haround, hrelays, -⟩ := errors_attributed outerAndBoom_named 8 "outer boom"
  have haround := haround [] "outer boom" outer ["boom"] (.stay "outer boom") houter _ _ hfails
  have hline := (haround _).mpr ⟨by decide, _, .passed he, he, rfl⟩
  exact ⟨outerAndBoom_named, _, hpath, hbecomes,
    .around .inner (.stay "outer boom") houter hfails List.mem_cons_self hline,
    fun e' => hrelays "boom" _ e' he⟩

end Dispatch

end CommandConsole
