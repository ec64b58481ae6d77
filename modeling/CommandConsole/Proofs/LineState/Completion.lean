import CommandConsole.Proofs.LineState.History
import Mathlib.Data.List.Rotate

/-!
# Runs of the completion key

The completion key captures what is in the line when no run is on, and from then on it is the
captured query that decides, whatever the line holds. As long as the names stay, the answers go
through those that start with the query again and again, each in its turn (`OnTurn.answer`), so as
many answers in a row as there are such names are all of them (`perm_of_turns`). When names come
and go between two presses, each answer still is one of the names of its own press (`Answers`).

A run leaves the history alone, so another key, which ends it, leads back to the state in front of
it (`edit_pressAll_complete`).
-/

set_option autoImplicit false

namespace CommandConsole.LineState

/-- The completion key pressed several times, each time with what is in the line and with the names
there are. -/
def completions (presses : List (String × List String)) :
    List (LineState → Option String × LineState) :=
  presses.map fun press s => s.complete press.1 press.2

/-- What the key gives for a query on these names: one of them that starts with it, and nothing only
where none does. -/
def Answers (query : String) (names : List String) : Option String → Prop
  | some name => name ∈ names ∧ query.toList <+: name.toList
  | none => ∀ name ∈ names, ¬ query.toList <+: name.toList

/-- Where no run is on, the next one begins with the first of its names. -/
def Rested (s : LineState) : Prop := s.query = none → s.turn = 0

/-- A run is on with this query, and on these names the next turn is that of the one with this
number among those that start with it. Turns are counted on when all of them have had theirs. -/
structure OnTurn (query : String) (names : List String) (k : Nat) (s : LineState) : Prop where
  query_eq : s.query = some query
  turn_mod : matching query names ≠ [] →
    s.turn % (matching query names).length = k % (matching query names).length

variable {s : LineState} {query : String} {names : List String} {k : Nat}

/-! ## What keys do to a run -/

@[simp] theorem query_submit (s : LineState) (line : String) :
    (s.submit line).query = s.query := rfl

@[simp] theorem turn_submit (s : LineState) (line : String) : (s.submit line).turn = s.turn := rfl

@[simp] theorem query_previous (s : LineState) : s.previous.2.query = s.query := by
  unfold previous
  split <;> rfl

@[simp] theorem turn_previous (s : LineState) : s.previous.2.turn = s.turn := by
  unfold previous
  split <;> rfl

@[simp] theorem query_next (s : LineState) : s.next.2.query = s.query := by
  unfold next
  split <;> rfl

@[simp] theorem turn_next (s : LineState) : s.next.2.turn = s.turn := by
  unfold next
  split <;> rfl

@[simp] theorem query_edit (s : LineState) : s.edit.query = none := rfl

@[simp] theorem turn_edit (s : LineState) : s.edit.turn = 0 := rfl

/-- The key captures what is in the line, unless a run is on. -/
@[simp] theorem query_complete (s : LineState) (buffer : String) (names : List String) :
    (s.complete buffer names).2.query = some (s.query.getD buffer) := by
  simp only [complete]
  split <;> rfl

/-- **Each act keeps it**: turns are counted while a run is on, and begin again with the next. -/
theorem Rested.after (h : s.Rested) (act : Act) : (s.after act).Rested := by
  cases act with
  | complete buffer names =>
      intro hnone
      simp [LineState.after] at hnone
  | edit => exact fun _ => rfl
  | _ => simpa [LineState.after, Rested] using h

theorem rested_reached (acts : List Act) : (reached acts).Rested :=
  reached_invariant (fun _ => rfl) (fun _ act h => h.after act) acts

/-! ## One press -/

theorem mem_matching {name : String} :
    name ∈ matching query names ↔ name ∈ names ∧ query.toList <+: name.toList := by
  simp [matching]

/-- A run is at its turn, whatever the names. -/
theorem onTurn_self (h : s.query = some query) (names : List String) :
    s.OnTurn query names s.turn := ⟨h, fun _ => rfl⟩

/-- **The answer of the key is the name whose turn it is.** -/
theorem OnTurn.answer (h : s.OnTurn query names k) (buffer : String) :
    (s.complete buffer names).1 =
      (matching query names)[k % (matching query names).length]? := by
  have hplace : (matching query names)[k % (matching query names).length]? =
      (matching query names)[s.turn % (matching query names).length]? := by
    by_cases hnil : matching query names = []
    · simp [hnil]
    · rw [h.turn_mod hnil]
  rw [hplace]
  simp only [complete, h.query_eq, Option.getD_some]
  split <;> simp_all

/-- Behind an answer it is the turn of the name that follows. -/
theorem OnTurn.complete (h : s.OnTurn query names k) (buffer : String) :
    (s.complete buffer names).2.OnTurn query names (k + 1) := by
  refine ⟨by simp [h.query_eq], fun hne => ?_⟩
  have hlt : s.turn % (matching query names).length < (matching query names).length :=
    Nat.mod_lt _ (List.length_pos_of_ne_nil hne)
  have hturn : (s.complete buffer names).2.turn = (s.turn + 1) % (matching query names).length := by
    simp only [LineState.complete, h.query_eq, Option.getD_some, List.getElem?_eq_getElem hlt]
  rw [hturn, Nat.mod_mod, Nat.add_mod, h.turn_mod hne, ← Nat.add_mod]

/-- The first press of a run is like a press in a run on what is in the line. -/
theorem complete_captured (s : LineState) (buffer : String) (names : List String) :
    s.complete buffer names =
      { s with query := some (s.query.getD buffer) }.complete buffer names := by
  simp [complete]

/-- **The key gives a name that starts with the query whenever there is one**: the turn is reduced
to the count of such names, so it never points behind the last of them. -/
theorem answers_complete (h : s.query = some query) (buffer : String) (names : List String) :
    Answers query names (s.complete buffer names).1 := by
  rw [(onTurn_self h names).answer]
  by_cases hnil : matching query names = []
  · have hnone : (matching query names)[s.turn % (matching query names).length]? = none := by
      simp [hnil]
    rw [hnone]
    intro name hname hstarts
    have hmem : name ∈ matching query names := mem_matching.mpr ⟨hname, hstarts⟩
    rw [hnil] at hmem
    contradiction
  · have hlt : s.turn % (matching query names).length < (matching query names).length :=
      Nat.mod_lt _ (List.length_pos_of_ne_nil hnil)
    rw [List.getElem?_eq_getElem hlt]
    exact mem_matching.mp (List.getElem_mem hlt)

/-! ## Runs -/

/-- **In a run the names have their turns**, whatever is in the line meanwhile. -/
theorem OnTurn.pressAll_complete (h : s.OnTurn query names k) (buffers : List String) :
    (pressAll (completions (buffers.map (·, names))) s).1 =
      (List.range buffers.length).map fun j =>
        (matching query names)[(k + j) % (matching query names).length]? := by
  induction buffers generalizing s k with
  | nil => rfl
  | cons buffer buffers ih =>
      -- the answers behind the first one are those of a run that is one turn further
      have hrest := ih (h.complete buffer)
      have hturns : ∀ j, k + 1 + j = k + (j + 1) := by omega
      have hcons : completions ((buffer :: buffers).map (·, names)) =
          (fun s => s.complete buffer names) :: completions (buffers.map (·, names)) := rfl
      rw [hcons, pressAll_cons, hrest, h.answer, List.length_cons, List.range_succ_eq_map,
        List.map_cons, List.map_map]
      simp only [hturns, Function.comp_def, Nat.add_zero, Nat.succ_eq_add_one]

/-- A run that begins is like one that is on with what is in the line as its query. -/
theorem completions_of_query_eq_none (h : s.query = none) (query : String) (names : List String)
    (presses : List (String × List String)) :
    pressAll (completions ((query, names) :: presses)) s =
      pressAll (completions ((query, names) :: presses)) { s with query := some query } := by
  have hfirst := complete_captured s query names
  rw [h, Option.getD_none] at hfirst
  simp only [completions, List.map_cons, pressAll_cons, hfirst]

theorem pressAll_complete_of_rested (h : s.query = none) (hturn : s.turn = 0) (query : String)
    (names later : List String) :
    (pressAll (completions ((query :: later).map (·, names))) s).1 =
      (List.range (later.length + 1)).map fun k =>
        (matching query names)[k % (matching query names).length]? := by
  have hbegin : pressAll (completions ((query :: later).map (·, names))) s =
      pressAll (completions ((query :: later).map (·, names))) { s with query := some query } :=
    completions_of_query_eq_none h query names _
  have hfirst : OnTurn query names 0 { s with query := some query } :=
    ⟨rfl, fun _ => by simp [hturn]⟩
  rw [hbegin, hfirst.pressAll_complete]
  simp

/-- As many turns in a row as there are names are turns of all of them. -/
theorem perm_of_turns {α : Type} (hits : List α) {m i : Nat} (h : i + hits.length ≤ m) :
    ((((List.range m).map fun k => hits[k % hits.length]?).drop i).take hits.length).Perm
      (hits.map some) := by
  have hrotate : (((List.range m).map fun k => hits[k % hits.length]?).drop i).take hits.length =
      (hits.rotate i).map some := by
    apply List.ext_getElem?
    intro k
    by_cases hk : k < hits.length
    · have hm : i + k < m := by omega
      have hmod : (i + k) % hits.length < hits.length := Nat.mod_lt _ (by omega)
      simp [hk, hm, Nat.add_comm k i, hmod]
    · -- there are no more turns than names
      have hle : hits.length ≤ k := Nat.le_of_not_lt hk
      rw [List.getElem?_eq_none ((List.length_take_le ..).trans hle),
        List.getElem?_eq_none (by simpa using hle)]
  rw [hrotate]
  exact (hits.rotate_perm i).map some

/-- In a run each answer is one of the names of its own press. -/
theorem forall₂_answers (h : s.query = some query) (presses : List (String × List String)) :
    List.Forall₂ (fun press answer => Answers query press.2 answer) presses
      (pressAll (completions presses) s).1 := by
  induction presses generalizing s with
  | nil => exact .nil
  | cons press presses ih =>
      have hquery : (s.complete press.1 press.2).2.query = some query := by simp [h]
      exact .cons (answers_complete h press.1 press.2) (ih hquery)

/-- **Another key leads back to the state in front of the run.** -/
theorem edit_pressAll_complete (s : LineState) (presses : List (String × List String)) :
    (pressAll (completions presses) s).2.edit = s.edit := by
  induction presses generalizing s with
  | nil => rfl
  | cons press presses ih =>
      have hfirst : (s.complete press.1 press.2).2.edit = s.edit := by
        simp [edit]
      exact (ih _).trans hfirst

/-- **Completion is fair.** Where no run is on, the key is pressed with a query in the line, and
then again and again with whatever is in it. As long as the names stay, each press gives the name
whose turn it is among those that start with the query, so as many presses in a row as there are
such names give all of them, once each; and nothing is given where there is none. When the names
change between the presses, each answer is one of the names of its press that start with the query,
and there is an answer whenever there is such a name. Another key ends the run, and the state is
what it was in front of it. -/
theorem completion_in_turns {acts : List Act} (hquery : (reached acts).query = none)
    (query : String) :
    (∀ names later,
      let hits := names.filter fun name => query.toList.isPrefixOf name.toList
      let given := (pressAll (completions ((query :: later).map (·, names))) (reached acts)).1
      (∀ k ≤ later.length, given[k]? = some hits[k % hits.length]?) ∧
        (∀ i, i + hits.length ≤ given.length →
          ((given.drop i).take hits.length).Perm (hits.map some)) ∧
        (hits = [] → ∀ answer ∈ given, answer = none)) ∧
    ∀ names later,
      let presses := (query, names) :: later
      let run := pressAll (completions presses) (reached acts)
      List.Forall₂ (fun press answer => Answers query press.2 answer) presses run.1 ∧
        run.2.edit = reached acts := by
  have hturn : (reached acts).turn = 0 := rested_reached acts hquery
  refine ⟨fun names later => ?_, fun names later => ⟨?_, ?_⟩⟩
  · have hhits : (names.filter fun name => query.toList.isPrefixOf name.toList) =
        matching query names := rfl
    have hgiven := pressAll_complete_of_rested hquery hturn query names later
    simp only [hhits, hgiven]
    refine ⟨fun k hk => ?_, fun i hi => ?_, fun hnil answer hanswer => ?_⟩
    · have hlt : k < later.length + 1 := by omega
      simp [hlt]
    · exact perm_of_turns _ (by simpa using hi)
    · obtain ⟨k, -, rfl⟩ := List.mem_map.mp hanswer
      rw [hnil]
      rfl
  · rw [completions_of_query_eq_none hquery]
    exact forall₂_answers rfl _
  · have hrested : (reached acts).edit = reached acts := by
      simp [edit, ← hquery, ← hturn]
    rw [edit_pressAll_complete, hrested]

/-- A name is completed and submitted, a key ends that run, and the history is gone back in. -/
def restedActs : List Act := [.complete "v" ["view"], .submit "view", .edit, .previous]

/-- Three presses, at the third of which one of the names is gone. -/
def dwindlingPresses : List (String × List String) :=
  [("h", ["help", "history"]), ("help ", ["help", "history"]), ("history ", ["history"])]

/-- Of four names two start with the query, and the third press comes back to the first of them.
When that is gone by then, the other one is given again. -/
theorem completion_in_turns_twoNames :
    (reached restedActs).query = none ∧
      (∀ k ≤ 2, (pressAll (completions (["h", "help ", "history "].map
          (·, ["alias", "help", "history", "view"]))) (reached restedActs)).1[k]? =
        some ["help", "history"][k % 2]?) ∧
      (pressAll (completions dwindlingPresses) (reached restedActs)).1 =
        [some "help", some "history", some "history"] ∧
      List.Forall₂ (fun press answer => Answers "h" press.2 answer) dwindlingPresses
        [some "help", some "history", some "history"] := by
  have hquery : (reached restedActs).query = none := by decide
  have hhits : (["alias", "help", "history", "view"].filter fun name =>
      "h".toList.isPrefixOf name.toList) = ["help", "history"] := by decide
  have hdwindling : (pressAll (completions dwindlingPresses) (reached restedActs)).1 =
      [some "help", some "history", some "history"] := by decide
  obtain ⟨hsame, hchange⟩ := completion_in_turns hquery "h"
  refine ⟨hquery, ?_, hdwindling, ?_⟩
  · have hturns := (hsame ["alias", "help", "history", "view"] ["help ", "history "]).1
    rwa [hhits] at hturns
  · have hanswers := (hchange ["help", "history"] (dwindlingPresses.drop 1)).1
    exact hdwindling ▸ hanswers

end CommandConsole.LineState
