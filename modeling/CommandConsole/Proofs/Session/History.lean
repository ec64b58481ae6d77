import CommandConsole.Proofs.Line.Groups
import CommandConsole.Proofs.LineState.History
import CommandConsole.Proofs.Session.Configuration

/-!
# The history of a session

To submit a line has two parts: it is taken down at once, and its outcome comes in turns, between
which other lines may have theirs. The history has to do with the first part alone. A line that is
submitted is taken down if it has a token (`Configuration.Label.taken?`), and what each step does to
the history and to the cursor in it is listed by `Configuration.Recorded`. So the history is the
lines that were taken down, in the order in which they were submitted, however the lines in progress
take turns.
-/

set_option autoImplicit false

namespace CommandConsole

/-! ## Taking a line down -/

namespace Session

/-- The next session is this one with a line taken down: the line is the last of the history, the
cursor is behind it, and where lines are echoed it was written on the sink. -/
structure TakesDown (s : Session) (line : String) (s' : Session) : Prop where
  history : s'.line.history = s.line.history ++ [line]
  cursor : s'.line.cursor = s'.line.history.length
  sink : s'.sink = if s.echo then s.sink.writeEscaped s!"> {line}" true else s.sink
  echo : s'.echo = s.echo

/-- The line that is edited is the same in both sessions, with its history, and both echo or neither
does. -/
structure SameLine (s s' : Session) : Prop where
  line : s'.line = s.line
  echo : s'.echo = s.echo

variable {s s' : Session}

theorem enter_of_token {line : String} (hline : Line.tokenize line ≠ []) (s : Session) :
    s.TakesDown line (s.enter line) := by
  have hblank : Text.isBlankString line = false := by
    rw [← Bool.not_eq_true, ← Line.tokenize_eq_nil_iff]
    exact hline
  have hcursor : s.line.history.length + 1 = (s.line.history ++ [line]).length := by simp
  simp only [enter, hblank, Bool.false_eq_true, if_false]
  -- the line is taken down alike, whether it is echoed or not
  split
  · rename_i hecho
    exact ⟨rfl, hcursor, (if_pos hecho).symm, rfl⟩
  · rename_i hecho
    exact ⟨rfl, hcursor, (if_neg hecho).symm, rfl⟩

theorem enter_of_no_token {line : String} (hline : Line.tokenize line = []) (s : Session) :
    s.enter line = s :=
  if_pos (Line.tokenize_eq_nil_iff.mp hline)

theorem sameLine_openView (s : Session) (v : View) : s.SameLine (s.openView v).2 := by
  unfold openView
  cases s.opener with
  | echo => exact ⟨rfl, rfl⟩
  | recorder opened refusal => cases refusal <;> exact ⟨rfl, rfl⟩

theorem sameLine_answer {q : Query} (hq : q.RunsNoLine) {a : q.Answer}
    (ha : answer 0 q s = some (a, s')) : s.SameLine s' := by
  rcases sameConsole_or_openView hq ha with hsame | ⟨v, rfl⟩
  · exact ⟨hsame.line, hsame.echo⟩
  · exact sameLine_openView s v

theorem sameLine_render (s : Session) (outcome : Outcome) : s.SameLine (s.render outcome) := by
  cases outcome with
  | ok output => cases output <;> exact ⟨rfl, rfl⟩
  | error e =>
      have hreport := sameConsole_report s .trace s!"command failed: {e.logged}"
      exact ⟨hreport.line, hreport.echo⟩

end Session

/-! ## Keys -/

@[simp] theorem Completer.history_offer (offered : Option String) (s : LineState)
    (names : List String) (line : String) (cursor : Nat) :
    (offer offered s names line cursor).2.1.history = s.history := by
  unfold offer
  split
  · rfl
  · simp only [LineState.history_complete]
    split <;> simp

/-- Keys leave the history as it is. They only move in it. -/
theorem Session.history_of_pressed {s s' : Session} (h : s.Pressed s') :
    s'.line.history = s.line.history ∧ s'.sink = s.sink ∧ s'.echo = s.echo := by
  cases h with
  | previous => exact ⟨s.line.history_previous, rfl, rfl⟩
  | next => exact ⟨s.line.history_next, rfl, rfl⟩
  | complete buffer => exact ⟨s.line.history_complete buffer _, rfl, rfl⟩
  | tab line cursor => exact ⟨Completer.history_offer .., rfl, rfl⟩
  | edit => exact ⟨s.line.history_edit, rfl, rfl⟩

/-! ## Steps -/

namespace Configuration

/-- The line that a step takes down: one that is submitted and has a token. -/
def Label.taken? : Label → Option String
  | .submit line => if Line.tokenize line = [] then none else some line
  | _ => none

/-- The lines that steps take down, in order. -/
def taken (labels : List Label) : List String := labels.filterMap Label.taken?

/-- What a step does to the history and the cursor in it. A line with a token is taken down when it
is submitted, and one without does nothing at all. Keys move the cursor, and write nothing. Nothing
else touches the history or the cursor, be it that a line is run, has a turn or is given up. -/
def Recorded (c : Configuration) : Label → Configuration → Prop
  | .submit line, c' =>
      if Line.tokenize line = [] then c' = c else c.session.TakesDown line c'.session
  | .press, c' =>
      c'.session.line.history = c.session.line.history ∧ c'.session.sink = c.session.sink
  | _, c' =>
      c'.session.line.history = c.session.line.history ∧
        c'.session.line.cursor = c.session.line.cursor

variable {c₀ c c' : Configuration} {label : Label} {labels : List Label}

theorem taken_snoc (labels : List Label) (label : Label) :
    taken (labels ++ [label]) = taken labels ++ label.taken?.toList := by
  unfold taken
  cases h : label.taken? <;> simp [h]

@[simp] theorem session_submit (c : Configuration) (line : String) :
    (c.submit line).session = c.session.enter line := by
  simp only [submit]
  split <;> rfl

theorem submit_of_no_token {line : String} (hline : Line.tokenize line = []) (c : Configuration) :
    c.submit line = c := by
  have hblank := Line.tokenize_eq_nil_iff.mp hline
  simp [submit, hblank, Session.enter_of_no_token hline]

theorem recorded_submit (c : Configuration) (line : String) :
    c.Recorded (.submit line) (c.submit line) ∧
      (c.submit line).session.echo = c.session.echo := by
  by_cases hline : Line.tokenize line = []
  · rw [submit_of_no_token hline]
    exact ⟨by simp [Recorded, hline], rfl⟩
  · have htaken := Session.enter_of_token hline c.session
    rw [session_submit]
    exact ⟨by simpa [Recorded, hline] using htaken, htaken.echo⟩

/-- **What one step does** to the history and the cursor in it. Whether lines are echoed stays as it
is. -/
theorem recorded_of_step (hstep : Step c label c') :
    c.Recorded label c' ∧ c'.session.echo = c.session.echo := by
  have hsame {s : Session} (h : c.session.SameLine s) :
      (s.line.history = c.session.line.history ∧ s.line.cursor = c.session.line.cursor) ∧
        s.echo = c.session.echo :=
    ⟨⟨congrArg LineState.history h.line, congrArg LineState.cursor h.line⟩, h.echo⟩
  cases hstep with
  | submit line => exact recorded_submit c line
  | execute line => exact hsame ⟨rfl, rfl⟩
  | ask _ hq ha => exact hsame (Session.sameLine_answer hq ha)
  | nest _ => exact hsame ⟨rfl, rfl⟩
  | render _ => exact hsame (Session.sameLine_render ..)
  | giveUp _ => exact hsame ⟨rfl, rfl⟩
  | press hpressed =>
      obtain ⟨hhistory, hsink, hecho⟩ := Session.history_of_pressed hpressed
      exact ⟨⟨hhistory, hsink⟩, hecho⟩
  | around hconsole => exact hsame ⟨hconsole.line, hconsole.echo⟩

/-- The history grows by the line that a step takes down. -/
theorem Recorded.history (h : c.Recorded label c') :
    c'.session.line.history = c.session.line.history ++ label.taken?.toList := by
  cases label with
  | submit line =>
      by_cases hline : Line.tokenize line = []
      · have hsame : c' = c := by simpa [Recorded, hline] using h
        simp [Label.taken?, hline, hsame]
      · have htaken : c.session.TakesDown line c'.session := by simpa [Recorded, hline] using h
        simp [Label.taken?, hline, htaken.history]
  | _ => exact h.1.trans (List.append_nil _).symm

/-- **History is submission order.** After any steps, in whatever order the lines in progress have
taken their turns, the history is what it was at first and then the lines that were submitted with a
token, in the order in which they were submitted, as often as they were. Whatever is done next, a
line with a token is put behind the history and the cursor behind the line, and there is an echo of
it on the sink at once if lines were echoed at first; a line without one changes nothing; and turns
of lines leave the history and the cursor as they are. -/
theorem history_of_trace (h : Trace c₀ labels c) :
    c.session.line.history = c₀.session.line.history ++ taken labels ∧
      c.session.echo = c₀.session.echo ∧
      ∀ label c', Step c label c' → c.Recorded label c' := by
  refine ⟨?_, ?_, fun label c' hstep => (recorded_of_step hstep).1⟩
  · induction h with
    | nil => simp [taken]
    | snoc _ hstep ih =>
        rw [(recorded_of_step hstep).1.history, ih, taken_snoc, List.append_assoc]
  · induction h with
    | nil => rfl
    | snoc _ hstep ih => exact (recorded_of_step hstep).2.trans ih

/-- Two lines are submitted with a blank one between them, the second has a turn before the first,
and a key is pressed. -/
def crossedLines : List Label := [.submit "b", .submit "\u2003", .submit "a", .turn, .press]

/-- The history of crossed lines is in order, with the cursor moved back in it. To submit the first
line again puts it behind the second. -/
theorem history_of_trace_crossedLines :
    ∃ c c', Trace ⟨.start, []⟩ crossedLines c ∧ Step c (.submit "b") c' ∧
      c.session.line.history = ["b", "a"] ∧ c.session.line.cursor = 1 ∧
      c.session.TakesDown "b" c'.session := by
  let first : RunningLine := ⟨Session.start.taskOf "b", true⟩
  have hsubmits : Trace ⟨.start, []⟩ [.submit "b", .submit "\u2003", .submit "a"] _ :=
    ((Trace.step (.submit "b")).snoc (.submit "\u2003")).snoc (.submit "a")
  have hturn := hsubmits.snoc (@Step.ask _ (.findAlias "a") _ _ _ _ [first] [] rfl trivial rfl)
  have htrace : Trace ⟨.start, []⟩ crossedLines _ := hturn.snoc (.press .previous)
  obtain ⟨hhistory, -, hrecorded⟩ := history_of_trace htrace
  have htaken : taken crossedLines = ["b", "a"] := by decide
  exact ⟨_, _, htrace, .submit "b", hhistory.trans htaken, rfl, hrecorded _ _ (.submit "b")⟩

end Configuration

end CommandConsole
