import CommandConsole.Proofs.Dispatch.Chain
import CommandConsole.Proofs.Session.Configuration
import CommandConsole.Proofs.Text.Markup

/-!
# What reaches a page

A page shows as markup whatever is written to it, and the texts that a console writes come from
whoever types lines, from aliases, and from the backend. With the built-in commands alone none of
that is ever markup: the lines that are echoed, the outputs, the complaints and the views are
escaped where they are written, and no built-in command has an output that would not be.

So the page is inert at every moment (`inert_of_trace`), however the lines in progress take turns,
and whatever the backend and the aliases say. What has to hold of the lines in progress is that
nothing in what is left to do for them runs a line or ends in markup (`Configuration.Harmless`).
-/

set_option autoImplicit false

namespace CommandConsole

/-! ## Pages -/

/-- A page without markup. -/
structure Sink.InertPage (sink : Sink) : Prop where
  kind : sink.kind = .page
  contents : Text.Inert sink.contents.toList

theorem Sink.InertPage.writeEscaped {sink : Sink} (h : sink.InertPage) (text : String) :
    (sink.writeEscaped text true).InertPage := by
  have hwrite : sink.writeEscaped text true = sink.write (Text.escapeMarkup text) true := by
    unfold Sink.writeEscaped
    rw [h.kind]
  rw [hwrite]
  refine ⟨h.kind, ?_⟩
  simp only [Sink.write, if_true, String.toList_append]
  have hnewline : Text.Inert ['\n'] := .singleton (by decide) (by decide)
  exact h.contents.append ((Text.inert_escapeMarkup text).append hnewline)

theorem Sink.InertPage.clear {sink : Sink} (h : sink.InertPage) : sink.clear.InertPage := by
  have hclear : sink.clear = { sink with contents := "" } := by
    unfold Sink.clear
    rw [h.kind]
  exact hclear ▸ ⟨h.kind, .nil⟩

/-! ## Sessions -/

namespace Session

/-- A session with the built-in commands alone, that shows views on its page, and has no markup on
it. -/
structure Harmless (s : Session) : Prop where
  registry : s.registry = Vocabulary.registry
  opener : s.opener = .echo
  sink : s.sink.InertPage

variable {s s' : Session} {line : String} {outcome : Outcome}

theorem Harmless.of_sameConsole (h : s.Harmless) (hsame : s.SameConsole s') : s'.Harmless :=
  ⟨hsame.registry.trans h.registry, hsame.opener.trans h.opener, hsame.sink ▸ h.sink⟩

/-- Whatever is shown is escaped. -/
theorem Harmless.write (h : s.Harmless) (text : String) :
    { s with sink := s.sink.writeEscaped text true }.Harmless :=
  ⟨h.registry, h.opener, h.sink.writeEscaped text⟩

theorem Harmless.answer (h : s.Harmless) {q : Query} (hq : q.RunsNoLine) {a : q.Answer}
    (ha : Session.answer 0 q s = some (a, s')) : s'.Harmless := by
  rcases sameConsole_or_openView hq ha with hsame | ⟨v, rfl⟩
  · exact h.of_sameConsole hsame
  · have hopen : (s.openView v).2 =
        { s with sink := s.sink.writeEscaped s!"open: {v.text}" true } := by
      unfold openView
      rw [h.opener]
    rw [hopen]
    exact h.write _

theorem Harmless.render (h : s.Harmless) (houtcome : Unmarked outcome) :
    (s.render outcome).Harmless := by
  rcases outcome with e | output
  · exact (h.of_sameConsole (sameConsole_report ..)).write _
  · cases output with
    | none => exact h
    | text t => exact h.write t
    | markup t => exact houtcome.elim
    | table headers rows => exact h.write _
    | clear => exact ⟨h.registry, h.opener, h.sink.clear⟩

theorem Harmless.enter (h : s.Harmless) (line : String) : (s.enter line).Harmless := by
  unfold Session.enter
  split
  · exact h
  · have hkept : { s with line := s.line.submit line }.Harmless := ⟨h.registry, h.opener, h.sink⟩
    dsimp only
    split
    · exact hkept.write _
    · exact hkept

theorem Harmless.of_pressed (h : s.Harmless) (hpressed : s.Pressed s') : s'.Harmless := by
  cases hpressed <;> exact ⟨h.registry, h.opener, h.sink⟩

end Session

/-! ## Lines in progress -/

/-- What is left to do for a line runs no other line, and does not end in markup. -/
structure Task.Harmless (t : Task Outcome) : Prop where
  queries : t.AllQueries Query.RunsNoLine
  results : t.AllResults Unmarked

namespace Dispatch

theorem settle_unmarked (name : String) {result : Except Fault Output} (h : Unmarked result) :
    Unmarked (settle name result) := by
  rcases result with fault | output
  · cases fault <;> trivial
  · cases output <;> exact h

/-- A line does not end in markup with the built-in commands alone. -/
theorem unmarked_executeWithin (limit left : Nat) (line : String) :
    (executeWithin Vocabulary.registry limit left line).AllResults Unmarked := by
  refine executeWithin_induction trivial (fun e => trivial) ?_ ?_ ?_ left line
  · exact fun level message t ht _ => ht
  · exact fun name f hf => hf
  · intro name d args hname
    exact (Vocabulary.unmarked_handler hname args).bind fun _ hresult =>
      settle_unmarked d.name hresult

/-- **A line is harmless** with the built-in commands alone, through whatever aliases it goes. -/
theorem harmless_executeWithin (limit left : Nat) (line : String) :
    (executeWithin Vocabulary.registry limit left line).Harmless :=
  ⟨runsNoLine_executeWithin Vocabulary.runsNoLines left line,
    unmarked_executeWithin limit left line⟩

end Dispatch

/-! ## Configurations -/

namespace Configuration

/-- A configuration with a harmless session, on which only harmless lines are in progress. -/
structure Harmless (c : Configuration) : Prop where
  session : c.session.Harmless
  running : ∀ e ∈ c.running, e.task.Harmless

variable {c₀ c c' : Configuration} {label : Label} {labels : List Label}

theorem Harmless.begin (h : c.Harmless) (line : String) (shown : Bool) :
    (c.begin line shown).Harmless := by
  refine ⟨h.session, fun e he => ?_⟩
  rcases List.mem_append.mp he with he | he
  · exact h.running e he
  · obtain rfl := List.mem_singleton.mp he
    rw [Session.taskOf, h.session.registry]
    exact Dispatch.harmless_executeWithin ..

theorem Harmless.split (h : c.Harmless) {e : RunningLine} {front back : List RunningLine}
    (hrunning : c.running = front ++ e :: back) :
    (∀ e ∈ front, e.task.Harmless) ∧ e.task.Harmless ∧ ∀ e ∈ back, e.task.Harmless := by
  have hall := h.running
  rwa [hrunning, List.forall_mem_append, List.forall_mem_cons] at hall

/-- **Each step keeps a configuration harmless.** -/
theorem Harmless.step (h : c.Harmless) (hstep : Step c label c') : c'.Harmless := by
  cases hstep with
  | submit line =>
      have hentered : { c with session := c.session.enter line }.Harmless :=
        ⟨h.session.enter line, h.running⟩
      unfold submit
      dsimp only
      split
      · exact hentered
      · exact hentered.begin line true
  | execute line => exact h.begin line false
  | @ask q next shown a s front back hrunning hq ha =>
      obtain ⟨hfront, htask, hback⟩ := h.split hrunning
      -- what is left behind an answer is part of what was left before the question
      have hnext : (next a).Harmless := ⟨htask.queries.2 a, htask.results a⟩
      exact ⟨h.session.answer hq ha,
        List.forall_mem_append.mpr ⟨hfront, List.forall_mem_cons.mpr ⟨hnext, hback⟩⟩⟩
  | nest hrunning =>
      -- a harmless line has no other line to run
      obtain ⟨-, htask, -⟩ := h.split hrunning
      exact htask.queries.1.elim
  | render hrunning =>
      obtain ⟨hfront, htask, hback⟩ := h.split hrunning
      exact ⟨h.session.render htask.results, List.forall_mem_append.mpr ⟨hfront, hback⟩⟩
  | giveUp hrunning =>
      obtain ⟨hfront, -, hback⟩ := h.split hrunning
      exact ⟨h.session, List.forall_mem_append.mpr ⟨hfront, hback⟩⟩
  | press hpressed => exact ⟨h.session.of_pressed hpressed, h.running⟩
  | around hsame => exact ⟨h.session.of_sameConsole hsame, h.running⟩

/-- **Every trace keeps it.** -/
theorem Harmless.trace (h : c₀.Harmless) (htrace : Trace c₀ labels c) : c.Harmless := by
  induction htrace with
  | nil => exact h
  | snoc _ hstep ih => exact ih.step hstep

/-- **No text reaches a page as markup.** Lines are submitted and run on a session with the built-in
commands alone, whose views are shown on its page, which is empty at first. Then at every moment,
however the lines in progress have taken turns, and whatever the backend and the aliases have said,
there is no delimiter of markup on the page, and each ampersand on it begins an entity. -/
theorem inert_of_trace (hregistry : c₀.session.registry = Vocabulary.registry)
    (hopener : c₀.session.opener = .echo) (hsink : c₀.session.sink = .page)
    (hrunning : c₀.running = []) (htrace : Trace c₀ labels c) :
    Text.Inert c.session.sink.contents.toList := by
  have hempty : c₀.session.sink.InertPage := hsink ▸ ⟨rfl, .nil⟩
  have hstart : c₀.Harmless := ⟨⟨hregistry, hopener, hempty⟩, by simp [hrunning]⟩
  exact (hstart.trace htrace).session.sink.contents

/-- A session with an alias that has a tag for a name and stands for its argument. -/
def tagged : Session :=
  { Session.start with
    registry := Vocabulary.registry
    aliases := .memory ⟨.ofCommands [("<b>", "$1")], none⟩ }

/-- The page behind a line that calls the alias: the line, and a complaint about the argument. -/
def taggedPage : String :=
  "&gt; &lt;b&gt; &quot;it&#39;s&amp;&quot;\n[!] &#39;it&#39;s&amp;&#39; command not found\n"

theorem inert_of_trace_tagged :
    ∃ labels c, Trace ⟨tagged, []⟩ labels c ∧ c.session.sink.contents = taggedPage ∧
      Text.Inert c.session.sink.contents.toList := by
  have heval : (tagged.submit "<b> \"it's&\"").map (·.sink.contents) = some taggedPage := by
    decide +kernel
  obtain ⟨s', hsubmit, hcontents⟩ := Option.map_eq_some_iff.mp heval
  obtain ⟨labels, htrace⟩ := exists_trace_of_submit hsubmit
  exact ⟨_, _, htrace, hcontents, inert_of_trace rfl rfl rfl rfl htrace⟩

end Configuration

end CommandConsole
