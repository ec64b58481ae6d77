import CommandConsole.Proofs.Completer
import CommandConsole.Proofs.LineState.Completion
import CommandConsole.Proofs.Session.Input

/-!
# The completion key in a line editor

A line editor does not say that a key was pressed. So whether a press of the completion key goes on
with a run is told from the word in the line: the run goes on if the word is the name that was
offered last. What the completer remembers for that and what the line state remembers of the run
have to stay in step, and they do: `Session.AtTurn` says where a session is in a run, each press
that belongs to the run moves it on by one turn (`AtTurn.again`), and a press at which no word is
completed leaves everything as it is (`tab_of_aside`).

So presses that belong together give the names that start with the first word in turns
(`tabs_in_turns`), whatever happens aside in between.
-/

set_option autoImplicit false

namespace CommandConsole

open LineState (matching)

/-! ## Words and names -/

/-- The line that is made when a name is offered holds the name. -/
theorem Completer.holds_replacement {name : String} (h : Text.IsWord name.toList) :
    Holds (candidate name).replacement (candidate name).replacement.utf8ByteSize name := by
  apply holds_end
  have hspace : (candidate name).replacement.toList = name.toList ++ [' '] := by simp [candidate]
  rw [hspace, Text.words_concat_blank (by decide), Text.words_of_isWord h]

namespace Session

/-- The presses of the completion key that belong to a run: the first with this word in front of the
cursor, and each of the others in the line that the one before it has made, which is what replaces
it for the name that was offered. In between the key may be pressed where no word is completed, and
anything may happen that is aside. The number is that of the last press of the run, and the answer
is what it has offered. -/
inductive Tabs (s₀ : Session) (word : String) : Nat → Option String → Session → Prop where
  | first {line : String} {cursor : Nat} {answer : Option String} {s : Session} :
      Completer.Holds line cursor word → s₀.tab line cursor = (answer, s) →
      Tabs s₀ word 0 answer s
  | again {k : Nat} {name : String} {answer : Option String} {s s' : Session} :
      Tabs s₀ word k (some name) s →
      s.tab (Completer.candidate name).replacement
        (Completer.candidate name).replacement.utf8ByteSize = (answer, s') →
      Tabs s₀ word (k + 1) answer s'
  | nowhere {k : Nat} {answer : Option String} {s : Session} {line : String} {cursor : Nat} :
      Tabs s₀ word k answer s → Completer.Aside line cursor →
      Tabs s₀ word k answer (s.tab line cursor).2
  | aside {k : Nat} {answer : Option String} {s s' : Session} :
      Tabs s₀ word k answer s → s.SameInput s' → Tabs s₀ word k answer s'

/-- The commands are the same, and so is all that decides what the completion key offers. -/
structure SameRun (s s' : Session) : Prop where
  registry : s'.registry = s.registry
  query : s'.line.query = s.line.query
  turn : s'.line.turn = s.line.turn
  offered : s'.offered = s.offered

/-- The session is in a run on a word: what was offered last is the name with this number among
those that start with the word, and the next one has its turn. -/
structure AtTurn (names : List String) (word : String) (k : Nat) (s : Session) : Prop where
  names_eq : s.registry.names = names
  run : s.line.OnTurn word names (k + 1)
  offered_eq : s.offered = (matching word names)[k % (matching word names).length]?

variable {s s₀ s' : Session} {line word name : String} {cursor k : Nat} {names : List String}
  {answer : Option String}

/-! ## One press -/

/-- The line state in which the completion key takes a word: in the run that is on if the word was
offered last, and in a new one if it was not. -/
def captured (s : Session) (word : String) : LineState :=
  let state := if s.offered = some word then s.line else s.line.edit
  { state with query := some (state.query.getD word) }

theorem tab_of_word? (h : Completer.word? line.toList cursor = some word.toList) :
    s.tab line cursor =
      let answer := (s.captured word).complete word s.registry.names
      (answer.1, { s with line := answer.2, offered := answer.1 }) := by
  simp only [tab, Completer.offer_of_word? h]
  rw [LineState.complete_captured]
  rfl

theorem tab_of_none (h : Completer.word? line.toList cursor = none) :
    s.tab line cursor = (none, s) := by
  simp only [tab, Completer.offer_of_none h]

/-- **Where no word is completed, nothing is offered and nothing happens.** -/
theorem tab_of_aside (h : Completer.Aside line cursor) : s.tab line cursor = (none, s) :=
  tab_of_none (Completer.word?_of_aside h)

/-- **A press offers the name whose turn it is**, and moves the run on by one turn. -/
theorem atTurn_tab (h : Completer.word? line.toList cursor = some word.toList) {query : String}
    (hturn : (s.captured word).OnTurn query s.registry.names k) :
    AtTurn s.registry.names query k (s.tab line cursor).2 ∧
      (s.tab line cursor).1 = (s.tab line cursor).2.offered := by
  rw [tab_of_word? h]
  exact ⟨⟨rfl, hturn.complete word, hturn.answer word⟩, rfl⟩

/-- A word that was not offered last begins a run. -/
theorem onTurn_captured_of_ne (hword : s.offered ≠ some word) (names : List String) :
    (s.captured word).OnTurn word names 0 := by
  simp only [captured, if_neg hword]
  exact ⟨rfl, fun _ => rfl⟩

/-- The name that was offered last goes on with the run that is on. -/
theorem onTurn_captured_of_eq (hname : s.offered = some name) {query : String}
    (hrun : s.line.OnTurn query names k) : (s.captured name).OnTurn query names k := by
  have hcaptured : s.captured name = s.line := by
    simp only [captured, if_pos hname, hrun.query_eq, Option.getD_some]
    rw [← hrun.query_eq]
  rwa [hcaptured]

/-! ## Presses that belong together -/

/-- What happens aside leaves a run as it is. -/
theorem SameInput.sameRun (h : s.SameInput s') : s.SameRun s' :=
  ⟨h.registry, congrArg LineState.query h.line, congrArg LineState.turn h.line, h.offered⟩

namespace AtTurn

theorem sameRun (h : AtTurn names word k s) (hsame : s.SameRun s') : AtTurn names word k s' :=
  { names_eq := hsame.registry ▸ h.names_eq
    run := ⟨hsame.query.trans h.run.query_eq, hsame.turn ▸ h.run.turn_mod⟩
    offered_eq := hsame.offered.trans h.offered_eq }

/-- What a run on a word offers can be told from the line again: it is not empty, as it starts with
the word. -/
theorem isWord (h : AtTurn names word k s) (hname : s.offered = some name)
    (hword : Text.IsWord word.toList)
    (hnames : ∀ name ∈ names, ∀ c ∈ name.toList, Text.isBlank c = false) :
    Text.IsWord name.toList := by
  have hmem : name ∈ matching word names :=
    List.mem_of_getElem? (h.offered_eq.symm.trans hname)
  obtain ⟨hregistered, hstarts⟩ := LineState.mem_matching.mp hmem
  refine ⟨fun hnil => hword.ne_nil ?_, hnames name hregistered⟩
  rw [hnil] at hstarts
  exact List.prefix_nil.mp hstarts

/-- **A press in the line that the one before it has made** is the next turn. -/
theorem again (h : AtTurn names word k s) (hname : s.offered = some name)
    (hword : Text.IsWord name.toList) :
    let pressed := s.tab (Completer.candidate name).replacement
      (Completer.candidate name).replacement.utf8ByteSize
    AtTurn names word (k + 1) pressed.2 ∧ pressed.1 = pressed.2.offered := by
  have hrun : (s.captured name).OnTurn word s.registry.names (k + 1) :=
    onTurn_captured_of_eq hname (h.names_eq ▸ h.run)
  have hpress := atTurn_tab (Completer.word?_of_holds (Completer.holds_replacement hword)) hrun
  rwa [h.names_eq] at hpress

end AtTurn

/-- The first press of a run is the first turn. -/
theorem atTurn_first (hword : s.offered ≠ some word) (h : Completer.Holds line cursor word) :
    AtTurn s.registry.names word 0 (s.tab line cursor).2 ∧
      (s.tab line cursor).1 = (s.tab line cursor).2.offered :=
  atTurn_tab (Completer.word?_of_holds h) (onTurn_captured_of_ne hword s.registry.names)

theorem Tabs.isWord (h : s₀.Tabs word k answer s) : Text.IsWord word.toList := by
  induction h with
  | first hholds _ => exact Completer.isWord_of_holds hholds
  | again _ _ ih => exact ih
  | nowhere _ _ ih => exact ih
  | aside _ _ ih => exact ih

/-- **Behind the presses of a run, the session is in it.** -/
theorem Tabs.atTurn (h : s₀.Tabs word k answer s) (hword : s₀.offered ≠ some word)
    (hnames : ∀ name ∈ s₀.registry.names, ∀ c ∈ name.toList, Text.isBlank c = false) :
    AtTurn s₀.registry.names word k s ∧ answer = s.offered := by
  induction h with
  | first hholds htab =>
      have hfirst := atTurn_first hword hholds
      rwa [htab] at hfirst
  | again h htab ih =>
      obtain ⟨hturn, hname⟩ := ih
      have hnext := hturn.again hname.symm (hturn.isWord hname.symm h.isWord hnames)
      rwa [htab] at hnext
  | nowhere _ haside ih =>
      rw [tab_of_aside haside]
      exact ih
  | aside _ hsame ih =>
      obtain ⟨hturn, hname⟩ := ih
      exact ⟨hturn.sameRun hsame.sameRun, hname.trans hsame.offered.symm⟩

/-- **Repeated presses give the names in turns.** In a reached session, whose names have no blanks,
the completion key is pressed with a word in front of the cursor that is not the name offered last,
and then again and again in the line that the press before has made. Then the answers are the names
that start with the word, in alphabetical order, each in its turn and all of them again and again;
and nothing is offered if there are none. A press where no word is completed offers nothing and
changes nothing, and so the run goes on behind it as if it had not been, and likewise behind
whatever happens aside. -/
theorem tabs_in_turns (hs : s₀.Reached)
    (hnames : ∀ name ∈ s₀.registry.names, ∀ c ∈ name.toList, Text.isBlank c = false)
    (hword : s₀.offered ≠ some word) :
    ∃ hits : List String, hits.Pairwise (· < ·) ∧
      (∀ name, name ∈ hits ↔ (s₀.registry.lookup name).isSome ∧ word.toList <+: name.toList) ∧
      ∀ k answer s, s₀.Tabs word k answer s →
        answer = hits[k % hits.length]? ∧
          ∀ line cursor, Completer.Aside line cursor → s.tab line cursor = (none, s) := by
  refine ⟨matching word s₀.registry.names, ?_, fun name => ?_, fun k answer s htabs => ?_⟩
  · have hsorted : s₀.registry.names.Pairwise (· < ·) := hs.sorted
    exact hsorted.filter _
  · rw [LineState.mem_matching, Registry.mem_names_iff]
  · obtain ⟨hturn, hanswer⟩ := htabs.atTurn hword hnames
    exact ⟨hanswer.trans hturn.offered_eq, fun line cursor => tab_of_aside⟩

/-- A session with the built-in commands, where one of them has been completed. -/
def viewCompleted : Session := ((start.registerAll Vocabulary.commands).tab "v" 1).2

theorem reached_viewCompleted : viewCompleted.Reached := by
  have hstart : start.Reached := ⟨[], .nil⟩
  exact (hstart.registerAll Vocabulary.commands).happens (.tab "v" 1)

/-- Two names start with the letter, so the third press gives the first of them again, although the
key was pressed among arguments before it. -/
theorem tabs_in_turns_twoNames :
    viewCompleted.Reached ∧
      (∀ name ∈ viewCompleted.registry.names, ∀ c ∈ name.toList, Text.isBlank c = false) ∧
      viewCompleted.offered ≠ some "h" ∧
      ∃ (hits : List String) (s : Session), hits.Pairwise (· < ·) ∧
        (∀ name, name ∈ hits ↔
          (viewCompleted.registry.lookup name).isSome ∧ "h".toList <+: name.toList) ∧
        viewCompleted.Tabs "h" 2 (some "help") s ∧ some "help" = hits[2 % hits.length]? ∧
        s.tab "help me" 7 = (none, s) := by
  have hletters : (viewCompleted.registry.names.all fun name =>
      name.toList.all fun c => !Text.isBlank c) = true := by decide +kernel
  have hnames : ∀ name ∈ viewCompleted.registry.names,
      ∀ c ∈ name.toList, Text.isBlank c = false := by
    simpa only [List.all_eq_true, Bool.not_eq_true'] using hletters
  have hword : viewCompleted.offered ≠ some "h" := by decide +kernel
  have hsplit : "help me" = "help me" ++ "" := by decide
  have harguments : Completer.Aside "help me" 7 := .arguments hsplit (by decide) (by decide)
  obtain ⟨hits, hsorted, hmem, hturns⟩ :=
    tabs_in_turns reached_viewCompleted hnames hword
  -- the answers to the presses, one after another
  have hholds : Completer.Holds "h" 1 "h" :=
    Completer.holds_end (show Text.words "h".toList = ["h".toList] by decide)
  have hfirst : viewCompleted.Tabs "h" 0 (some "help") (viewCompleted.tab "h" 1).2 :=
    .first hholds (Prod.ext (by decide +kernel) rfl)
  have hsecond : viewCompleted.Tabs "h" 1 (some "history") _ :=
    hfirst.again (Prod.ext (by decide +kernel) rfl)
  have hbetween := hsecond.nowhere harguments
  rw [tab_of_aside harguments] at hbetween
  have hthird : viewCompleted.Tabs "h" 2 (some "help") _ :=
    hbetween.again (Prod.ext (by decide +kernel) rfl)
  obtain ⟨hanswer, hnothing⟩ := hturns _ _ _ hthird
  exact ⟨reached_viewCompleted, hnames, hword, hits, _, hsorted, hmem, hthird, hanswer,
    hnothing _ _ harguments⟩

end Session

end CommandConsole
