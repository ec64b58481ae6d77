import CommandConsole.LineState
import Mathlib.Data.List.Basic

/-!
# Walking in the history

The history of an input line grows when a line is submitted and at no other time, and of the keys
only the arrows move the cursor in it. So after any acts (`reached`) the history is the lines that
were submitted, and the cursor is at one of them or behind the newest (`Inside`).

All that the arrow keys do follows from the cursor being inside. Back and forward undo each other
but at the ends (`next_previous`, `previous_next`): back stops at the oldest line, and forward goes
on behind the newest, to a fresh line. So a walk back from a fresh line gives the newest lines, and
the walk forward gives them again (`pressAll_previous`, `pressAll_next`).
-/

set_option autoImplicit false

namespace CommandConsole.LineState

/-- What is done at an input line. -/
inductive Act where
  | submit (line : String)
  | previous
  | next
  | complete (buffer : String) (names : List String)
  | edit
deriving DecidableEq, Repr

/-- The line that an act submits. -/
def Act.submitted? : Act → Option String
  | .submit line => some line
  | _ => none

/-- The lines that acts submit, in order. -/
def submitted (acts : List Act) : List String := acts.filterMap Act.submitted?

/-- The state behind an act. -/
def after (s : LineState) : Act → LineState
  | .submit line => s.submit line
  | .previous => s.previous.2
  | .next => s.next.2
  | .complete buffer names => (s.complete buffer names).2
  | .edit => s.edit

/-- The state of a new session behind acts. -/
def reached (acts : List Act) : LineState := acts.foldl after start

/-- Keys that are pressed one after another: what each of them gives, and the state behind them. -/
def pressAll {α : Type} : List (LineState → α × LineState) → LineState → List α × LineState
  | [], s => ([], s)
  | key :: keys, s =>
      let (given, s) := key s
      let (rest, s) := pressAll keys s
      (given :: rest, s)

/-- The cursor is at a line of the history, or behind the newest. -/
def Inside (s : LineState) : Prop := s.cursor ≤ s.history.length

variable {s : LineState}

theorem pressAll_cons {α : Type} (key : LineState → α × LineState)
    (keys : List (LineState → α × LineState)) (s : LineState) :
    pressAll (key :: keys) s =
      ((key s).1 :: (pressAll keys (key s).2).1, (pressAll keys (key s).2).2) := rfl

/-! ## What keys leave alone -/

@[simp] theorem history_previous (s : LineState) : s.previous.2.history = s.history := by
  unfold previous
  split <;> rfl

@[simp] theorem history_next (s : LineState) : s.next.2.history = s.history := by
  unfold next
  split <;> rfl

@[simp] theorem history_edit (s : LineState) : s.edit.history = s.history := rfl

@[simp] theorem history_complete (s : LineState) (buffer : String) (names : List String) :
    (s.complete buffer names).2.history = s.history := by
  simp only [complete]
  split <;> rfl

@[simp] theorem cursor_edit (s : LineState) : s.edit.cursor = s.cursor := rfl

@[simp] theorem cursor_complete (s : LineState) (buffer : String) (names : List String) :
    (s.complete buffer names).2.cursor = s.cursor := by
  simp only [complete]
  split <;> rfl

/-- The history grows by the line that an act submits. -/
theorem history_after (s : LineState) (act : Act) :
    (s.after act).history = s.history ++ act.submitted?.toList := by
  cases act <;> simp [after, submit, Act.submitted?]

theorem history_foldl_after (s : LineState) (acts : List Act) :
    (acts.foldl after s).history = s.history ++ submitted acts := by
  induction acts generalizing s with
  | nil => simp [submitted]
  | cons act acts ih =>
      rw [List.foldl_cons, ih, history_after, List.append_assoc]
      cases h : act.submitted? <;> simp [submitted, h]

/-! ## One step back or forward -/

theorem previous_of_cursor_eq_zero (h : s.cursor = 0) : s.previous = (none, s) := by
  simp [previous, h]

theorem previous_of_cursor_eq_succ {n : Nat} (h : s.cursor = n + 1) :
    s.previous = (s.history[n]?, { s with cursor := n }) := by
  simp [previous, h]

/-- From a line of the history, the next one is the line behind it, or an empty one. -/
theorem next_of_cursor_lt (h : s.cursor < s.history.length) :
    s.next = (s.history[s.cursor + 1]?.getD "", { s with cursor := s.cursor + 1 }) := by
  by_cases hnewest : s.cursor + 1 < s.history.length
  · have hline : s.history[s.cursor + 1]? = some s.history[s.cursor + 1] :=
      List.getElem?_eq_getElem hnewest
    simp [next, hline]
  · -- behind the newest line there is none, and the cursor goes just there
    have hlast : s.cursor + 1 = s.history.length := by omega
    simp [next, hlast]

theorem next_of_cursor_eq_length (h : s.cursor = s.history.length) : s.next = ("", s) := by
  have hnone : s.history[s.cursor + 1]? = none := List.getElem?_eq_none (by omega)
  simp only [next, hnone, ← h]

/-! ## The cursor stays inside -/

theorem Inside.previous (h : s.Inside) : s.previous.2.Inside := by
  cases hcursor : s.cursor with
  | zero => rwa [previous_of_cursor_eq_zero hcursor]
  | succ n =>
      rw [previous_of_cursor_eq_succ hcursor]
      have hle : n + 1 ≤ s.history.length := hcursor ▸ h
      exact Nat.le_of_succ_le hle

theorem Inside.next (h : s.Inside) : s.next.2.Inside := by
  rcases Nat.lt_or_eq_of_le h with hlt | heq
  · rw [next_of_cursor_lt hlt]
    exact hlt
  · rw [next_of_cursor_eq_length heq]
    exact h

/-- **Each act keeps the cursor inside.** -/
theorem Inside.after (h : s.Inside) (act : Act) : (s.after act).Inside := by
  cases act with
  | submit line => simp [LineState.after, Inside, submit]
  | previous => exact h.previous
  | next => exact h.next
  | complete buffer names => simpa [LineState.after, Inside] using h
  | edit => exact h

/-- What holds of a new line state, and is kept by each act, holds behind any acts. -/
theorem reached_invariant {P : LineState → Prop} (hstart : P start)
    (hstep : ∀ s act, P s → P (s.after act)) (acts : List Act) : P (reached acts) := by
  have hrun : ∀ s, P s → P (acts.foldl after s) := by
    induction acts with
    | nil => exact fun s hs => hs
    | cons act acts ih => exact fun s hs => ih (s.after act) (hstep s act hs)
  exact hrun start hstart

theorem inside_reached (acts : List Act) : (reached acts).Inside :=
  reached_invariant (Nat.le_refl 0) (fun _ act h => h.after act) acts

/-! ## Back and forward -/

/-- Back from anywhere but the oldest line, the step goes to a line and shows it. -/
theorem exists_previous (h : s.Inside) {n : Nat} (hn : s.cursor = n + 1) :
    ∃ line, s.history[n]? = some line ∧ s.previous = (some line, { s with cursor := n }) := by
  have hle : s.cursor ≤ s.history.length := h
  have hline : s.history[n]? = some s.history[n] := List.getElem?_eq_getElem (by omega)
  exact ⟨s.history[n], hline, hline ▸ previous_of_cursor_eq_succ hn⟩

theorem previous_eq_none_iff (h : s.Inside) : s.previous.1 = none ↔ s.cursor = 0 := by
  constructor
  · intro hprevious
    by_contra hcursor
    obtain ⟨n, hn⟩ := Nat.exists_eq_succ_of_ne_zero hcursor
    obtain ⟨line, -, heq⟩ := exists_previous h hn
    rw [heq] at hprevious
    contradiction
  · intro hcursor
    rw [previous_of_cursor_eq_zero hcursor]

/-- A step forward undoes a step back, and shows again what the step back has left. -/
theorem next_previous (h : s.Inside) (hcursor : s.cursor ≠ 0) :
    s.previous.2.next = (s.history[s.cursor]?.getD "", s) := by
  obtain ⟨n, hn⟩ := Nat.exists_eq_succ_of_ne_zero hcursor
  have hle : s.cursor ≤ s.history.length := h
  have hlt : n < s.history.length := by omega
  have hforth := next_of_cursor_lt (s := { s with cursor := n }) hlt
  rw [previous_of_cursor_eq_succ hn, hforth]
  simp only [← Nat.succ_eq_add_one, ← hn]

/-- A step back undoes a step forward that has come to a line. -/
theorem previous_next (h : s.Inside) (hline : s.next.2.cursor < s.history.length) :
    s.next.2.previous = (s.history[s.cursor]?, s) := by
  rcases Nat.lt_or_eq_of_le h with hlt | heq
  · rw [next_of_cursor_lt hlt, previous_of_cursor_eq_succ rfl]
  · -- a fresh line is followed by none
    rw [next_of_cursor_eq_length heq] at hline
    exact absurd heq (Nat.ne_of_lt hline)

/-- **A walk back** gives the lines in front of the cursor, newest first. -/
theorem pressAll_previous {k : Nat} (h : s.Inside) (hk : k ≤ s.cursor) :
    pressAll (List.replicate k previous) s =
      (((s.history.take s.cursor).reverse.take k).map some, { s with cursor := s.cursor - k }) := by
  induction k generalizing s with
  | zero => simp [pressAll]
  | succ k ih =>
      obtain ⟨n, hn⟩ := Nat.exists_eq_succ_of_ne_zero (n := s.cursor) (by omega)
      have hle : s.cursor ≤ s.history.length := h
      have hlt : n < s.history.length := by omega
      have hback : Inside { s with cursor := n } := Nat.le_of_lt hlt
      have hkn : k ≤ n := by omega
      have htake : (s.history.take s.cursor).reverse =
          s.history[n] :: (s.history.take n).reverse := by
        rw [hn, Nat.succ_eq_add_one, List.take_add_one, List.getElem?_eq_getElem hlt]
        simp
      have hcursor : s.cursor - (k + 1) = n - k := by omega
      rw [List.replicate_succ, pressAll_cons, previous_of_cursor_eq_succ hn, ih hback hkn, htake,
        hcursor, List.getElem?_eq_getElem hlt, List.take_succ_cons, List.map_cons]

/-- **A walk forward** to a fresh line gives the lines behind the cursor and then an empty one. -/
theorem pressAll_next {k : Nat} (hk : s.cursor + k = s.history.length) :
    pressAll (List.replicate k next) s =
      ((s.history.drop s.cursor ++ [""]).tail, { s with cursor := s.history.length }) := by
  induction k generalizing s with
  | zero =>
      have hfresh : s.cursor = s.history.length := hk
      rw [hfresh, List.drop_length, ← hfresh]
      rfl
  | succ k ih =>
      have hlt : s.cursor < s.history.length := by omega
      have hforth : s.cursor + 1 + k = s.history.length := by omega
      -- what the first step shows is the head of what is behind it
      have hhead : (s.history.drop s.cursor ++ [""]).tail =
          s.history[s.cursor + 1]?.getD "" :: (s.history.drop (s.cursor + 1) ++ [""]).tail := by
        rw [List.drop_eq_getElem_cons hlt, List.cons_append, List.tail_cons]
        by_cases hnewest : s.cursor + 1 < s.history.length
        · rw [List.drop_eq_getElem_cons hnewest, List.getElem?_eq_getElem hnewest]
          rfl
        · rw [List.drop_eq_nil_of_le (by omega), List.getElem?_eq_none (by omega)]
          rfl
      rw [List.replicate_succ, pressAll_cons, next_of_cursor_lt hlt, hhead,
        @ih { s with cursor := s.cursor + 1 } hforth]

/-! ## The walk -/

/-- What the arrow keys do in a history of these lines. -/
structure Walks (s : LineState) (lines : List String) : Prop where
  /-- The lines are kept as they were submitted, oldest first. -/
  history : s.history = lines
  /-- The cursor is at a line, or behind the newest where the input is fresh. -/
  inside : s.cursor ≤ lines.length
  /-- There is no step back at the oldest line, and at no other. -/
  previous_eq_none_iff : s.previous.1 = none ↔ s.cursor = 0
  /-- Without a step back nothing changes. -/
  stays : s.cursor = 0 → s.previous = (none, s)
  /-- A step back goes to the line in front, and shows it. -/
  back : ∀ n, s.cursor = n + 1 →
    ∃ line, lines[n]? = some line ∧ s.previous = (some line, { s with cursor := n })
  /-- Forward again after a step back: the state is what it was, and what was left is shown. -/
  back_forth : s.previous.1 ≠ none → s.previous.2.next = (lines[s.cursor]?.getD "", s)
  /-- Back again after a step forward that has come to a line: the state is what it was. -/
  forth_back : s.next.2.cursor < lines.length → s.next.2.previous = (lines[s.cursor]?, s)
  /-- From a fresh line, steps back give the newest lines, and as many steps forward give them
  again, behind the oldest of them, and then an empty line. -/
  there_and_back : s.cursor = lines.length → ∀ k ≤ lines.length,
    let there := { s with cursor := lines.length - k }
    pressAll (List.replicate k LineState.previous) s = ((lines.reverse.take k).map some, there) ∧
      pressAll (List.replicate k LineState.next) there =
        ((lines.drop (lines.length - k) ++ [""]).tail, s)
  /-- Completion does not move the cursor, nor does the end of it. -/
  completion : (∀ buffer names, (s.complete buffer names).2.cursor = s.cursor) ∧
    s.edit.cursor = s.cursor

/-- **The history is walked with a cursor that never leaves it.** After any acts, the history is the
lines that were submitted, and the arrow keys walk in it. -/
theorem walks_reached (acts : List Act) : (reached acts).Walks (submitted acts) := by
  generalize hs : reached acts = s
  have hhistory : s.history = submitted acts := by
    rw [← hs, reached, history_foldl_after, start, List.nil_append]
  have hinside : s.Inside := hs ▸ inside_reached acts
  rw [← hhistory]
  refine
    { history := rfl
      inside := hinside
      previous_eq_none_iff := previous_eq_none_iff hinside
      stays := previous_of_cursor_eq_zero
      back := fun n hn => exists_previous hinside hn
      back_forth := fun hprevious =>
        next_previous hinside (mt (previous_eq_none_iff hinside).mpr hprevious)
      forth_back := previous_next hinside
      there_and_back := fun hfresh k hk => ⟨?_, ?_⟩
      completion := ⟨cursor_complete s, cursor_edit s⟩ }
  · rw [pressAll_previous hinside (by omega), hfresh, List.take_length]
  · rw [pressAll_next (Nat.sub_add_cancel hk), ← hfresh]

end CommandConsole.LineState
