import CommandConsole.Proofs.Session.Tabs

/-!
# Completion on a new line

A line that is submitted, or replaced from the history, leaves the run of the completion key as it
is (`Session.SameRun`), and so does the completer with the name that it offered last. A word that is
not that name begins a run on the new line like anywhere else, with the alphabetically first of the
names that start with it (`Registry.First`). But the name that was offered last goes on with the run
of the line before, and gives the name behind it in that run. So whether the first name is given on
a new line can be said exactly (`first_on_new_line_iff`), and it is not always
(`offered_name_goes_on`).
-/

set_option autoImplicit false

namespace CommandConsole

open LineState (matching)

/-! ## The first name -/

/-- The answer is the alphabetically first of the names that start with a word, and is missing only
where none does. -/
def Registry.First (r : Registry) (word : String) : Option String → Prop
  | some name => (r.lookup name).isSome ∧ word.toList <+: name.toList ∧
      ∀ other, (r.lookup other).isSome → word.toList <+: other.toList → name ≤ other
  | none => ∀ name, (r.lookup name).isSome → ¬ word.toList <+: name.toList

namespace Registry

variable {r : Registry} {word name : String} {answer answer' : Option String}

/-- A text is not behind one that it is the beginning of. -/
theorem le_of_prefix {s t : String} (h : s.toList <+: t.toList) : s ≤ t := by
  obtain ⟨rest, hrest⟩ := h
  have hnot : ¬ s.toList ++ rest < s.toList := List.le_append_left
  rw [hrest] at hnot
  exact String.le_iff_toList_le.mpr (not_lt.mp hnot)

theorem mem_matching_names :
    name ∈ matching word r.names ↔ (r.lookup name).isSome ∧ word.toList <+: name.toList := by
  rw [LineState.mem_matching, mem_names_iff]

theorem first_head? (h : Assoc.Sorted r) : r.First word (matching word r.names).head? := by
  have hsorted : (matching word r.names).Pairwise (· < ·) := List.Pairwise.filter _ h
  cases hhits : matching word r.names with
  | nil =>
      intro name hname hstarts
      have hmem : name ∈ matching word r.names := mem_matching_names.mpr ⟨hname, hstarts⟩
      rw [hhits] at hmem
      contradiction
  | cons first rest =>
      rw [hhits, List.pairwise_cons] at hsorted
      have hfirst : first ∈ matching word r.names := hhits ▸ List.mem_cons_self
      obtain ⟨hname, hstarts⟩ := mem_matching_names.mp hfirst
      refine ⟨hname, hstarts, fun other hother hprefix => ?_⟩
      have hmem : other ∈ matching word r.names := mem_matching_names.mpr ⟨hother, hprefix⟩
      rw [hhits] at hmem
      rcases List.mem_cons.mp hmem with rfl | hmem
      · exact le_refl other
      · exact le_of_lt (hsorted.1 other hmem)

/-- There is one first name at most. -/
theorem First.unique (h : r.First word answer) (h' : r.First word answer') : answer = answer' := by
  cases answer with
  | none =>
      cases answer' with
      | none => rfl
      | some name => exact absurd h'.2.1 (h name h'.1)
  | some name =>
      cases answer' with
      | none => exact absurd h.2.1 (h' name h.1)
      | some name' =>
          have hle : name ≤ name' := h.2.2 name' h'.1 h'.2.1
          have hge : name' ≤ name := h'.2.2 name h.1 h.2.1
          rw [le_antisymm hle hge]

theorem first_iff (h : Assoc.Sorted r) :
    r.First word answer ↔ answer = (matching word r.names).head? :=
  ⟨fun hanswer => hanswer.unique (first_head? h), fun heq => heq ▸ first_head? h⟩

/-- A name is the first that starts with it. -/
theorem first_self (h : (r.lookup name).isSome) : r.First name (some name) :=
  ⟨h, List.prefix_refl _, fun _ _ hprefix => le_of_prefix hprefix⟩

end Registry

namespace Session

/-! ## New lines -/

/-- The event replaces the input: a line is submitted that is not blank, or there is an entry of the
history to go to. -/
def Event.Renews (s : Session) : Event → Prop
  | .submit line => Text.isBlankString line = false
  | .previous => s.previous.1 ≠ none
  | .next => True
  | _ => False

/-- Since the key was last pressed in the line editor, the input was replaced. -/
inductive Renewed : Session → Prop where
  | renews {e : Event} {s s' : Session} : s.Reached → e.Renews s → s.Happens e s' → Renewed s'
  | stays {e : Event} {s s' : Session} : Renewed s → (∀ line cursor, e ≠ .tab line cursor) →
      s.Happens e s' → Renewed s'

/-- An event that submits a line, moves in the history, or is aside. -/
def Event.LeavesRun : Event → Prop
  | .submit _ | .previous | .next | .aside => True
  | _ => False

variable {s s' s₀ : Session} {e : Event} {events : List Event} {line word query name : String}
  {cursor k : Nat} {names : List String}

theorem Renewed.reached (h : s.Renewed) : s.Reached := by
  induction h with
  | renews hs _ he => exact hs.happens he
  | stays _ _ he ih => exact ih.happens he

/-! ## What a new line leaves alone -/

theorem SameRun.refl (s : Session) : s.SameRun s := ⟨rfl, rfl, rfl, rfl⟩

theorem SameRun.trans {s'' : Session} (h : s.SameRun s') (h' : s'.SameRun s'') : s.SameRun s'' :=
  ⟨h'.registry.trans h.registry, h'.query.trans h.query, h'.turn.trans h.turn,
    h'.offered.trans h.offered⟩

/-- **A new line goes on with the run.** To submit a line or to move in the history changes nothing
of what decides what is offered next. -/
theorem Happens.sameRun (h : s.Happens e s') (he : e.LeavesRun) : s.SameRun s' := by
  cases h with
  | submit line =>
      obtain ⟨state, sink, heq, hstate⟩ := enter_eq s line
      rw [heq]
      rcases hstate with rfl | rfl
      · exact ⟨rfl, rfl, rfl, rfl⟩
      · exact ⟨rfl, rfl, rfl, rfl⟩
  | previous => exact ⟨rfl, s.line.query_previous, s.line.turn_previous, rfl⟩
  | next => exact ⟨rfl, s.line.query_next, s.line.turn_next, rfl⟩
  | aside hsame => exact hsame.sameRun
  | _ => exact he.elim

theorem Passes.sameRun (h : Passes s₀ events s) (hevents : ∀ e ∈ events, e.LeavesRun) :
    s₀.SameRun s := by
  induction h with
  | nil => exact .refl s₀
  | snoc _ he ih =>
      obtain ⟨hfront, hlast⟩ := List.forall_mem_append.mp hevents
      exact (ih hfront).trans (he.sameRun (hlast _ (List.mem_singleton_self _)))

/-! ## What is offered -/

theorem tab_fst_of_onTurn (h : Completer.Holds line cursor word)
    (hturn : (s.captured word).OnTurn query s.registry.names k) :
    (s.tab line cursor).1 = (matching query s.registry.names)[
      k % (matching query s.registry.names).length]? := by
  obtain ⟨hat, hanswer⟩ := atTurn_tab (Completer.word?_of_holds h) hturn
  exact hanswer.trans hat.offered_eq

/-- **A run that begins offers the first name.** -/
theorem first_of_onTurn_zero (hs : s.Reached) (h : Completer.Holds line cursor word)
    (hturn : (s.captured word).OnTurn word s.registry.names 0) :
    s.registry.First word (s.tab line cursor).1 := by
  rw [Registry.first_iff hs.sorted, tab_fst_of_onTurn h hturn, Nat.zero_mod,
    List.head?_eq_getElem?]

/-- Where no run is on, one begins, even on the name that was offered last. -/
theorem onTurn_captured_of_none (hs : s.Reached) (hquery : s.line.query = none)
    (hword : s.offered = some word) : (s.captured word).OnTurn word s.registry.names 0 := by
  have hturn : s.line.turn = 0 := hs.rested hquery
  simp only [captured, if_pos hword, hquery, Option.getD_none]
  exact ⟨rfl, fun _ => by simp [hturn]⟩

/-- Behind a press that has offered a name, the session is in a run, and the name is of that run. -/
theorem exists_atTurn_of_tab (h : (s.tab line cursor).1 = some name) :
    ∃ query k, AtTurn s.registry.names query k (s.tab line cursor).2 ∧
      (s.tab line cursor).2.offered = some name := by
  cases hword : Completer.word? line.toList cursor with
  | none =>
      rw [tab_of_none hword] at h
      contradiction
  | some letters =>
      have hword' : Completer.word? line.toList cursor =
          some (String.ofList letters).toList := by rw [hword, String.toList_ofList]
      have hturn := LineState.onTurn_self (s := s.captured (String.ofList letters)) rfl
        s.registry.names
      obtain ⟨hat, hanswer⟩ := atTurn_tab hword' hturn
      exact ⟨_, _, hat, hanswer.symm.trans h⟩

/-- In a run without repetitions the next name is the same only if there is no other. -/
theorem getElem?_succ_mod_iff {hits : List String} (hnodup : hits.Nodup)
    (h : hits[k % hits.length]? = some name) :
    hits[(k + 1) % hits.length]? = some name ↔ ∀ other ∈ hits, other = name := by
  have hmem : name ∈ hits := List.mem_of_getElem? h
  have hpos : 0 < hits.length := List.length_pos_of_mem hmem
  have hlt : (k + 1) % hits.length < hits.length := Nat.mod_lt _ hpos
  constructor
  · intro hnext other hother
    have hplace : (k + 1) % hits.length = k % hits.length :=
      (List.getElem?_inj hlt hnodup).mp (hnext.trans h.symm)
    have hone : hits.length = 1 := by
      have hdvd : (k + 1 - k) % hits.length = 0 := Nat.sub_mod_eq_zero_of_mod_eq hplace
      rw [Nat.add_sub_cancel_left] at hdvd
      exact Nat.dvd_one.mp (Nat.dvd_of_mod_eq_zero hdvd)
    obtain ⟨single, rfl⟩ := List.length_eq_one_iff.mp hone
    rw [List.mem_singleton] at hmem hother
    rw [hmem, hother]
  · intro hall
    have hnext : hits[(k + 1) % hits.length]? = some hits[(k + 1) % hits.length] :=
      List.getElem?_eq_getElem hlt
    rw [hnext, hall _ (List.getElem_mem hlt)]

/-- **The name that was offered last is offered again only if it is the only one of its run.** -/
theorem first_iff_alone (hs : s.Reached) (hat : AtTurn s.registry.names query k s)
    (hword : s.offered = some word) (h : Completer.Holds line cursor word) :
    s.registry.First word (s.tab line cursor).1 ↔
      ∀ name, (s.registry.lookup name).isSome → query.toList <+: name.toList → name = word := by
  have hplace : (matching query s.registry.names)[
      k % (matching query s.registry.names).length]? = some word := hat.offered_eq.symm.trans hword
  have hnodup : (matching query s.registry.names).Nodup := by
    have hsorted : (matching query s.registry.names).Pairwise (· < ·) :=
      List.Pairwise.filter _ hs.sorted
    exact hsorted.nodup
  have hregistered : (s.registry.lookup word).isSome :=
    (Registry.mem_matching_names.mp (List.mem_of_getElem? hplace)).1
  -- no other answer will do, as the word is a name itself
  have hself : s.registry.First word (some word) := Registry.first_self hregistered
  have hfirst : s.registry.First word (s.tab line cursor).1 ↔
      (s.tab line cursor).1 = some word :=
    ⟨fun hanswer => hanswer.unique hself, fun heq => heq ▸ hself⟩
  rw [hfirst, tab_fst_of_onTurn h (onTurn_captured_of_eq hword hat.run),
    getElem?_succ_mod_iff hnodup hplace]
  constructor
  · intro hall name hname hstarts
    exact hall name (Registry.mem_matching_names.mpr ⟨hname, hstarts⟩)
  · intro hall name hname
    obtain ⟨hregistered, hstarts⟩ := Registry.mem_matching_names.mp hname
    exact hall name hregistered hstarts

/-! ## New lines on which the run goes on -/

/-- **Which new lines begin a new completion.** In a session where the input was replaced since the
completion key was last pressed, that key is pressed with a word in front of the cursor. It offers
the first name that starts with the word, or nothing where there is none, unless the word is the
name that was offered last while a run is still on: then the turn of that run decides. And the name
that a press has offered, found on a new line again, gives the first name that starts with it only
where no other name starts with the query of its run, so that its turn comes again at once. -/
theorem first_on_new_line_iff (hs : s.Renewed) (hholds : Completer.Holds line cursor word) :
    (s.registry.First word (s.tab line cursor).1 ↔
      (s.offered = some word → ∀ query, s.line.query = some query →
        let hits := matching query s.registry.names
        s.registry.First word hits[s.line.turn % hits.length]?)) ∧
    ∀ (s₀ : Session) line₀ cursor₀ events, (s₀.tab line₀ cursor₀).1 = some word →
      Passes (s₀.tab line₀ cursor₀).2 events s → (∀ e ∈ events, e.LeavesRun) →
      ∃ query, s.line.query = some query ∧
        (s.registry.First word (s.tab line cursor).1 ↔
          ∀ name, (s.registry.lookup name).isSome → query.toList <+: name.toList →
            name = word) := by
  have hreached : s.Reached := hs.reached
  refine ⟨?_, fun s₀ line₀ cursor₀ events htab hpasses hevents => ?_⟩
  · by_cases hword : s.offered = some word
    · -- the line state takes the word for one more press of the same run, if it is in one
      cases hquery : s.line.query with
      | none =>
          have hfirst := first_of_onTurn_zero hreached hholds
            (onTurn_captured_of_none hreached hquery hword)
          simp [hfirst]
      | some query =>
          have hrun : (s.captured word).OnTurn query s.registry.names s.line.turn :=
            onTurn_captured_of_eq hword (LineState.onTurn_self hquery s.registry.names)
          rw [tab_fst_of_onTurn hholds hrun]
          simp [hword]
    · have hfirst := first_of_onTurn_zero hreached hholds
        (onTurn_captured_of_ne hword s.registry.names)
      simp [hfirst, hword]
  · -- the run of the press that has offered the word is still on, and at its next turn
    obtain ⟨query, k, hat, hoffered⟩ := exists_atTurn_of_tab htab
    have hsame : (s₀.tab line₀ cursor₀).2.SameRun s := hpasses.sameRun hevents
    have hnames : s₀.registry.names = s.registry.names := by
      rw [← hat.names_eq, hsame.registry]
    have hhere : AtTurn s.registry.names query k s := hnames ▸ hat.sameRun hsame
    exact ⟨query, hhere.run.query_eq,
      first_iff_alone hreached hhere (hsame.offered.trans hoffered) hholds⟩

/-- A command that does nothing. -/
def silent (name : String) : Definition :=
  { name, summary := "", detail := "", usage := "", signature := []
    handler := fun _ => return .none }

/-- A session with two commands that start with the same letter. -/
def silentPair : Session := (start.register (silent "ha")).register (silent "hb")

/-- The first of the two has been completed from the letter and submitted. -/
def silentSubmitted : Session := (silentPair.tab "h" 1).2.enter "ha"

theorem renewed_silentSubmitted : silentSubmitted.Renewed := by
  have hstart : start.Reached := ⟨[], .nil⟩
  have hpair : silentPair.Reached :=
    (hstart.happens (.register (silent "ha"))).happens (.register (silent "hb"))
  have hnew : Text.isBlankString "ha" = false := by decide +kernel
  exact .renews (e := .submit "ha") (hpair.happens (.tab "h" 1)) hnew (.submit "ha")

/-- The second name begins a new completion, and the first one does not, as both of them start with
the letter. -/
theorem first_on_new_line_iff_silentSubmitted :
    silentSubmitted.Renewed ∧ Completer.Holds "hb" 2 "hb" ∧ Completer.Holds "ha" 2 "ha" ∧
      silentSubmitted.registry.First "hb" (silentSubmitted.tab "hb" 2).1 ∧
      ¬ silentSubmitted.registry.First "ha" (silentSubmitted.tab "ha" 2).1 := by
  have hfirst : Completer.Holds "ha" 2 "ha" :=
    Completer.holds_end (show Text.words "ha".toList = ["ha".toList] by decide)
  have hsecond : Completer.Holds "hb" 2 "hb" :=
    Completer.holds_end (show Text.words "hb".toList = ["hb".toList] by decide)
  obtain ⟨hiff, -⟩ := first_on_new_line_iff renewed_silentSubmitted hsecond
  obtain ⟨-, hrun⟩ := first_on_new_line_iff renewed_silentSubmitted hfirst
  refine ⟨renewed_silentSubmitted, hsecond, hfirst, hiff.mpr fun hoffered => ?_, fun hgiven => ?_⟩
  · have hother : silentSubmitted.offered ≠ some "hb" := by decide +kernel
    exact absurd hoffered hother
  · have hpasses : Passes (silentPair.tab "h" 1).2 [.submit "ha"] silentSubmitted :=
      Passes.nil.snoc (.submit "ha")
    have htab : (silentPair.tab "h" 1).1 = some "ha" := by decide +kernel
    obtain ⟨query, hquery, halone⟩ :=
      hrun silentPair "h" 1 [.submit "ha"] htab hpasses (by simp [Event.LeavesRun])
    have hletter : silentSubmitted.line.query = some "h" := by decide +kernel
    obtain rfl : query = "h" := Option.some.inj (hquery.symm.trans hletter)
    have hsame : "hb" = "ha" := halone.mp hgiven "hb" (by decide +kernel) (by decide)
    exact absurd hsame (by decide)

/-- A name that was offered last is not always offered on a new line, although it is the first name
that starts with itself: the other name comes instead, which does not even start with it. -/
theorem offered_name_goes_on :
    silentSubmitted.Renewed ∧
      (∀ name ∈ silentSubmitted.registry.names, ∀ c ∈ name.toList, Text.isBlank c = false) ∧
      Completer.Holds "ha" ("ha").utf8ByteSize "ha" ∧
      silentSubmitted.registry.First "ha" (some "ha") ∧
      (silentSubmitted.tab "ha" ("ha").utf8ByteSize).1 = some "hb" ∧
      ¬ silentSubmitted.registry.First "ha"
        (silentSubmitted.tab "ha" ("ha").utf8ByteSize).1 := by
  have hholds : Completer.Holds "ha" ("ha").utf8ByteSize "ha" := Completer.holds_end (by decide)
  have hfirst : silentSubmitted.registry.First "ha" (some "ha") :=
    Registry.first_self (by decide +kernel)
  have hanswer : (silentSubmitted.tab "ha" ("ha").utf8ByteSize).1 = some "hb" := by decide +kernel
  have hletters : (silentSubmitted.registry.names.all fun name =>
      name.toList.all fun c => !Text.isBlank c) = true := by decide +kernel
  refine ⟨renewed_silentSubmitted, ?_, hholds, hfirst, hanswer, ?_⟩
  · simpa only [List.all_eq_true, Bool.not_eq_true'] using hletters
  · rw [hanswer]
    rintro ⟨-, hstarts, -⟩
    exact absurd hstarts (by decide)

end Session

end CommandConsole
