import CommandConsole.Json.Reader
import CommandConsole.Proofs.Assoc

/-!
# Objects that are read

An object that is read from a text has its fields in the order of their names, in whatever order the
text has them, and one field for each name (`sorted_of_read`). The objects under construction are in
this order from event to event (`inOrder_assemble`), and no scalar of a text is an object
(`plain_run`).
-/

set_option autoImplicit false

namespace CommandConsole.Json

/-! ## Scalars of a text -/

/-- An event that is no object in one piece. -/
def Event.Plain : Event → Prop
  | .scalar v => v.obj? = none
  | _ => True

/-- The word that is being read stands for no object. -/
def State.Plain (s : State) : Prop :=
  match s.token with
  | some (.word _ v) => v.obj? = none
  | _ => True

/-- A turn brings no object in one piece, and the next state does not prepare one. -/
structure Turn.Plain (t : Turn) : Prop where
  before : ∀ e ∈ t.before, e.Plain
  behind : ∀ e ∈ t.behind, e.Plain
  result : ∀ s, t.result = .ok s → s.Plain

section

variable {s s' : State} {c : Char} {limit : Nat}

theorem plain_flawed (f : Flaw) (n : Nat) : Turn.Plain ⟨[], [], .error (f, n)⟩ :=
  ⟨by simp, by simp, by simp⟩

theorem plain_moved (h : s.Plain) : (State.moved s).Plain :=
  ⟨by simp [State.moved], by simp [State.moved], by rintro _ ⟨⟩; exact h⟩

/-- A turn to a state between two tokens, with one event or none. -/
theorem plain_free {before behind : List Event} (hbefore : ∀ e ∈ before, e.Plain)
    (hbehind : ∀ e ∈ behind, e.Plain) (nesting : List Bracket) (expected : Expected) :
    Turn.Plain ⟨before, behind, .ok ⟨nesting, expected, none⟩⟩ :=
  ⟨hbefore, hbehind, by rintro _ ⟨⟩; trivial⟩

theorem plain_ite {p : Prop} [Decidable p] {t u : Turn} (ht : t.Plain) (hu : u.Plain) :
    (if p then t else u).Plain := by
  split
  · exact ht
  · exact hu

theorem plain_opened (b : Bracket) : (s.opened limit b).Plain := by
  refine plain_ite (plain_flawed _ _) ?_
  cases b with
  | list => exact plain_free (by simp [Event.Plain]) (by simp) ..
  | object => exact plain_free (by simp [Event.Plain]) (by simp) ..

theorem plain_startValue : (s.startValue limit c).Plain := by
  unfold State.startValue
  split
  · exact plain_moved rfl
  · exact plain_moved rfl
  · exact plain_moved rfl
  · exact plain_moved trivial
  · exact plain_moved trivial
  · exact plain_opened _
  · exact plain_opened _
  · split
    · exact plain_moved trivial
    · exact plain_flawed _ _

theorem plain_closed {e : Event} (he : e.Plain) : (s.closed e).Plain :=
  plain_free (by simpa using he) (by simp) ..

theorem plain_began_string (isName : Bool) (held : List Char) (escape : Escape) :
    (s.began (.string isName held escape)).Plain :=
  plain_moved trivial

/-- Between two tokens nothing is brought but brackets, and a word that begins stands for a
scalar. -/
theorem plain_between (h : s.token = none) : (s.between limit c).Plain := by
  have hmoved (nesting : List Bracket) (expected : Expected) :
      (State.moved ⟨nesting, expected, s.token⟩).Plain :=
    plain_moved (by simp [State.Plain, h])
  have hname : (if c = '"' then s.began (.string true [] .none) else State.flawed .noKey).Plain :=
    plain_ite (plain_began_string ..) (plain_flawed _ _)
  unfold State.between
  refine plain_ite (hmoved ..) ?_
  cases s.expected with
  | value => exact plain_startValue
  | firstItem => exact plain_ite (plain_closed trivial) plain_startValue
  | item => exact plain_ite (plain_flawed _ _) plain_startValue
  | firstName => exact plain_ite (plain_closed trivial) hname
  | name => exact plain_ite (plain_flawed _ _) hname
  | colon => exact plain_ite (hmoved ..) (plain_flawed _ _)
  | comma =>
      have hlist : s.closed .closeList |>.Plain := plain_closed trivial
      have hobject : s.closed .closeObject |>.Plain := plain_closed trivial
      rcases s.nesting with _ | ⟨_ | _, nesting⟩
      · exact plain_flawed _ _
      · exact plain_ite (hmoved ..) (plain_ite hlist (plain_flawed _ _))
      · exact plain_ite (hmoved ..) (plain_ite hobject (plain_flawed _ _))

theorem plain_escapeEnds (isName : Bool) (held : List Char) (high : Option Nat) (n : Nat) :
    (s.escapeEnds isName held high n).Plain := by
  unfold State.escapeEnds
  cases high with
  | none =>
      exact plain_ite (plain_flawed _ _)
        (plain_ite (plain_began_string ..) (plain_began_string ..))
  | some h => exact plain_ite (plain_began_string ..) (plain_flawed _ _)

/-- A string or a name is brought by its last quote. -/
theorem plain_inString (isName : Bool) (held : List Char) (escape : Escape) :
    (s.inString isName held escape c).Plain := by
  have hbegan {p : Prop} [Decidable p] (held' : List Char) (escape' : Escape) (f : Flaw) :
      (if p then s.began (.string isName held' escape') else State.flawed f).Plain :=
    plain_ite (plain_began_string ..) (plain_flawed _ _)
  unfold State.inString
  cases escape with
  | none =>
      refine plain_ite ?_ (plain_ite (plain_began_string ..)
        (plain_ite (plain_flawed _ _) (plain_began_string ..)))
      cases isName with
      | true => exact plain_free (by simp) (by simp [Event.Plain]) ..
      | false => exact plain_free (by simp) (by simp [Event.Plain, Json.obj?]) ..
  | backslash =>
      refine plain_ite (plain_began_string ..) ?_
      split
      · exact plain_began_string ..
      · exact plain_flawed _ _
  | hex high left value =>
      refine plain_ite (plain_began_string ..) ?_
      split
      · exact plain_escapeEnds ..
      · exact plain_flawed _ _
  | half high => exact hbegan ..
  | halfBackslash high => exact hbegan ..

theorem obj?_of_numeral {n : Numeral} {negative : Bool} {v : Json} (h : n.value negative = .ok v) :
    v.obj? = none := by
  have hwhole (m : Nat) : (Numeral.ofWhole negative m).obj? = none := by
    unfold Numeral.ofWhole
    split
    · rfl
    · split <;> rfl
  have hsigned {e : Except Flaw Number.Double} (h : e.map (Numeral.signed negative) = .ok v) :
      v.obj? = none := by
    cases e with
    | error f => contradiction
    | ok x => exact Except.ok.inj h ▸ rfl
  cases n with
  | sign => contradiction
  | point => contradiction
  | mark => contradiction
  | markSign => contradiction
  | zero => exact Except.ok.inj h ▸ hwhole 0
  | whole m => exact Except.ok.inj h ▸ hwhole m
  | long => exact hsigned h
  | fraction => exact hsigned h
  | fractionRest => exact hsigned h
  | power => exact hsigned h
  | vanished => exact Except.ok.inj h ▸ rfl

/-- **One character** of a text brings no object in one piece. -/
theorem plain_turn (h : s.Plain) : (s.turn limit c).Plain := by
  unfold State.turn
  unfold State.Plain at h
  split
  · next htoken => exact plain_between htoken
  · next left v htoken =>
      have hv : v.obj? = none := by simpa [htoken] using h
      have hended : (s.ended (.scalar v) .comma).Plain :=
        plain_free (by simp) (by simpa [Event.Plain] using hv) ..
      split
      · exact hended
      · exact plain_ite hended (plain_flawed _ _)
      · exact plain_ite (plain_moved hv) (plain_flawed _ _)
  · split
    · exact plain_moved trivial
    · exact plain_flawed _ _
    · split
      · exact plain_flawed _ _
      · next v hvalue =>
          have hbetween : (State.between limit ⟨s.nesting, .comma, none⟩ c).Plain :=
            plain_between rfl
          refine ⟨?_, hbetween.behind, hbetween.result⟩
          intro e he
          rcases List.mem_cons.mp he with rfl | he
          · exact obj?_of_numeral hvalue
          · exact hbetween.before e he
  · exact plain_inString ..

theorem plain_finish {es : List Event} (h : s.finish = .ok es) : ∀ e ∈ es, e.Plain := by
  unfold State.finish at h
  split at h
  · contradiction
  · contradiction
  · split at h
    · contradiction
    · next v hvalue =>
        obtain rfl := Except.ok.inj h
        simpa [Event.Plain] using obj?_of_numeral hvalue
  · obtain rfl := Except.ok.inj h
    simp

/-- **No scalar of a text is an object.** -/
theorem plain_run (h : s.Plain) (p : Place) (text : List Char) :
    ∀ e ∈ (run limit s p text).events.map Prod.fst, e.Plain := by
  induction text generalizing s p with
  | nil =>
      simp only [run]
      split
      · simp
      · next es hfinish => simpa [Function.comp_def] using plain_finish hfinish
  | cons c text ih =>
      have hturn : (s.turn limit c).Plain := plain_turn h
      simp only [run]
      split
      · simpa [Function.comp_def] using hturn.before
      · next s' hresult =>
          intro e he
          simp only [Transcript.behind, List.map_append, List.map_map, Function.comp_def,
            List.map_id', List.mem_append] at he
          rcases he with he | he | he
          · exact hturn.before e he
          · exact hturn.behind e he
          · exact ih (hturn.result s' hresult) _ e he

end

/-! ## Objects under construction -/

/-- A value has its fields in order, if it is an object. -/
def InOrder (v : Json) : Prop := ∀ fields, v.obj? = some fields → Assoc.Sorted fields

/-- A container has its fields in order, if it is an object. -/
def Frame.InOrder : Frame → Prop
  | .list _ => True
  | .object fields _ => Assoc.Sorted fields

/-- What is known of a value has its fields in order. -/
def Progress.InOrder : Progress → Prop
  | .within frames => ∀ f ∈ frames, f.InOrder
  | .whole v => v.InOrder

section

variable {frames : List Frame} {v : Json}

theorem inOrder_put (hframes : ∀ f ∈ frames, f.InOrder) (hv : v.InOrder) :
    (put v frames).InOrder := by
  unfold put
  split
  · exact hv
  · next items rest =>
      intro f hf
      rcases List.mem_cons.mp hf with rfl | hf
      · trivial
      · exact hframes f (List.mem_cons_of_mem _ hf)
  · next fields name rest =>
      intro f hf
      rcases List.mem_cons.mp hf with rfl | hf
      · exact Assoc.sorted_insert (hframes _ List.mem_cons_self) name v
      · exact hframes f (List.mem_cons_of_mem _ hf)

/-- An event that is no object in one piece leaves all fields in order. -/
theorem inOrder_absorb {e : Event} {p : Progress} (hframes : ∀ f ∈ frames, f.InOrder)
    (he : e.Plain) (h : absorb frames e = some p) : p.InOrder := by
  have hrest {f : Frame} {fs : List Frame} (heq : frames = f :: fs) : ∀ g ∈ fs, g.InOrder :=
    fun g hg => hframes g (heq ▸ List.mem_cons_of_mem f hg)
  unfold absorb at h
  split at h
  · next v =>
      obtain rfl := Option.some.inj h
      refine inOrder_put hframes fun fields hfields => ?_
      have hnone : v.obj? = none := he
      rw [hnone] at hfields
      contradiction
  · obtain rfl := Option.some.inj h
    exact List.forall_mem_cons.mpr ⟨trivial, hframes⟩
  · obtain rfl := Option.some.inj h
    exact List.forall_mem_cons.mpr ⟨Assoc.sorted_nil, hframes⟩
  · obtain rfl := Option.some.inj h
    have hfields := (List.forall_mem_cons.mp hframes).1
    exact List.forall_mem_cons.mpr ⟨hfields, hrest rfl⟩
  · obtain rfl := Option.some.inj h
    refine inOrder_put (hrest rfl) fun fields hfields => ?_
    contradiction
  · obtain rfl := Option.some.inj h
    refine inOrder_put (hrest rfl) ?_
    rintro _ ⟨⟩
    exact (List.forall_mem_cons.mp hframes).1
  · contradiction

/-- What is put together from such events has its fields in order. -/
theorem inOrder_assemble {es : List Event} (hframes : ∀ f ∈ frames, f.InOrder)
    (hes : ∀ e ∈ es, e.Plain) (h : assemble frames es = some v) : v.InOrder := by
  induction es generalizing frames with
  | nil => contradiction
  | cons e es ih =>
      obtain ⟨he, hes'⟩ := List.forall_mem_cons.mp hes
      rw [assemble] at h
      split at h
      · next frames' habsorb => exact ih (inOrder_absorb hframes he habsorb) hes' h
      · next w habsorb =>
          split at h
          · obtain rfl := Option.some.inj h
            exact inOrder_absorb hframes he habsorb
          · contradiction
      · contradiction

end

/-- **An object that is read has its fields in the order of their names**, one for each name. -/
theorem sorted_of_read {text : String} {fields : Fields} (h : read text = .ok (.obj fields)) :
    Assoc.Sorted fields := by
  unfold read readWithin at h
  dsimp only at h
  split at h
  · contradiction
  · next v _ hassemble =>
      obtain rfl := Except.ok.inj h
      have hstart : State.start.Plain := trivial
      have hplain : ∀ e ∈ (events maxNesting text.toList).events.map Prod.fst, e.Plain :=
        plain_run hstart .start text.toList
      exact inOrder_assemble (by simp) hplain hassemble fields rfl
  · contradiction

end CommandConsole.Json
