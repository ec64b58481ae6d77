import CommandConsole.Proofs.Assoc
import CommandConsole.Proofs.Session.Runs
import CommandConsole.Vocabulary

/-!
# What the built-in commands ask and show

Of the built-in commands only `alias` asks for aliases, and none runs a line (`runsNoLines`). So
whoever wants to know what a built-in command does on a session has to look at `alias` alone, and
can deal with the others by the questions that they ask (`handler_cases`). None of them shows
markup, whatever its questions are answered (`unmarked_handler`).
-/

set_option autoImplicit false

namespace CommandConsole

/-- A question that neither asks for aliases nor for a line to be run. -/
def Query.Plain : Query → Prop
  | .findAlias _ => False
  | .changeAlias _ => False
  | .execute _ => False
  | _ => True

theorem Query.Plain.runsNoLine {q : Query} (hq : q.Plain) : q.RunsNoLine := by
  cases q with
  | execute line => exact hq
  | _ => trivial

/-- No output that is taken for markup. -/
def Unmarked {ε : Type} : Except ε Output → Prop
  | .ok (.markup _) => False
  | _ => True

/-! ## Questions and results of actions -/

section

variable {α β : Type} {P : Query → Prop}

namespace Action

theorem allQueries_bind {x : Action α} {f : α → Action β} (hx : x.run.AllQueries P)
    (hf : ∀ a, (f a).run.AllQueries P) : (x >>= f).run.AllQueries P := by
  refine Task.AllQueries.bind hx fun r => ?_
  cases r with
  | ok a => exact hf a
  | error e => trivial

theorem allQueries_query {q : Query} (hq : P q) : (query q).run.AllQueries P :=
  ⟨hq, fun _ => trivial⟩

theorem allQueries_expect (r : Except String α) : (expect r).run.AllQueries P := by
  cases r <;> trivial

theorem allQueries_ofExcept (r : Except CommandError α) : (ofExcept r).run.AllQueries P := by
  cases r <;> trivial

/-- Markup comes from the end of an action only. -/
theorem unmarked_bind {x : Action α} {f : α → Action Output}
    (hf : ∀ a, (f a).run.AllResults Unmarked) : (x >>= f).run.AllResults Unmarked := by
  have hany : x.run.AllResults (fun _ => True) := Task.allResults_of_forall (fun _ => trivial) _
  refine hany.bind fun r _ => ?_
  cases r with
  | ok a => exact hf a
  | error fault => trivial

end Action

end

namespace Vocabulary

open CommandConsole.Action

/-! ## The commands, one by one -/

theorem help_plain (args : List String) : (help args).run.AllQueries Query.Plain := by
  refine allQueries_bind (allQueries_query trivial) fun commands => ?_
  cases args <;> trivial

theorem request_plain (r : Request) : (request r).run.AllQueries Query.Plain :=
  allQueries_bind (allQueries_query trivial) fun _ => allQueries_expect _

theorem openView_plain (v : View) : (openView v).run.AllQueries Query.Plain :=
  allQueries_bind (allQueries_query trivial) fun _ =>
    allQueries_bind (allQueries_expect _) fun _ => trivial

theorem search_plain (model fieldList : String) (domain : Option String) :
    (search model fieldList domain).run.AllQueries Query.Plain := by
  refine allQueries_bind (allQueries_ofExcept _) fun domain => ?_
  refine allQueries_bind (request_plain _) fun records => ?_
  exact allQueries_bind (allQueries_query trivial) fun _ => allQueries_ofExcept _

theorem create_plain (model : String) (raw : Option String) :
    (create model raw).run.AllQueries Query.Plain := by
  cases raw with
  | none => exact openView_plain _
  | some raw =>
      refine allQueries_bind (allQueries_ofExcept _) fun values => ?_
      exact allQueries_bind (request_plain _) fun _ => trivial

theorem write_plain (model id raw : String) : (write model id raw).run.AllQueries Query.Plain := by
  refine allQueries_bind (allQueries_ofExcept _) fun id => ?_
  refine allQueries_bind (allQueries_ofExcept _) fun values => ?_
  exact allQueries_bind (request_plain _) fun _ => trivial

theorem view_plain (model : String) (raw : Option String) :
    (view model raw).run.AllQueries Query.Plain := by
  cases raw with
  | none => exact openView_plain _
  | some raw => exact allQueries_bind (allQueries_ofExcept _) fun _ => openView_plain _

theorem debug_plain (mode : String) : (debug mode).run.AllQueries Query.Plain := by
  unfold debug
  split
  · trivial
  · exact allQueries_bind (allQueries_query trivial) fun _ => trivial

/-! ## The list -/

/-- A command that is found among those put in, or was there before. -/
theorem mem_of_lookup_foldl {ds : List Definition} {registry : Registry} {name : String}
    {d : Definition} (h : (ds.foldl Registry.register registry).lookup name = some d) :
    d ∈ ds ∨ registry.lookup name = some d := by
  induction ds generalizing registry with
  | nil => exact .inr h
  | cons e ds ih =>
      rcases ih h with hd | hd
      · exact .inl (List.mem_cons_of_mem _ hd)
      · by_cases hname : name = e.name
        · rw [hname, Registry.lookup, Registry.register, Assoc.find?_insert_self] at hd
          exact .inl (List.mem_cons.mpr (.inl (Option.some.inj hd).symm))
        · rw [Registry.lookup, Registry.register, Assoc.find?_insert_of_ne hname] at hd
          exact .inr hd

/-- **What holds of all built-in commands**: a property of actions holds of each call of a built-in
command if it holds of what the nine commands do. -/
theorem handler_induction {P : Action Output → Prop} (hhelp : ∀ args, P (help args))
    (halias : ∀ args, P (setAlias args))
    (hsearch : ∀ model fields domain, P (search model fields domain))
    (hcreate : ∀ model values, P (create model values))
    (hwrite : ∀ model id values, P (write model id values))
    (hview : ∀ model id, P (view model id)) (hclear : P (return .clear)) (hhistory : P history)
    (hdebug : ∀ mode, P (debug mode)) (hotherwise : P otherwise) {name : String} {d : Definition}
    (h : registry.lookup name = some d) (args : List String) : P (d.handler args) := by
  have hd : d ∈ commands := by
    rcases mem_of_lookup_foldl h with hd | hd
    · exact hd
    · contradiction
  simp only [commands, List.mem_cons, List.not_mem_nil, or_false] at hd
  rcases hd with rfl | rfl | rfl | rfl | rfl | rfl | rfl | rfl | rfl
  · exact hhelp args
  · exact halias args
  · match args with
    | model :: fields :: rest => exact hsearch model fields rest.head?
    | [] => exact hotherwise
    | [_] => exact hotherwise
  · match args with
    | model :: rest => exact hcreate model rest.head?
    | [] => exact hotherwise
  · match args with
    | [model, id, values] => exact hwrite model id values
    | [] => exact hotherwise
    | [_] => exact hotherwise
    | [_, _] => exact hotherwise
    | _ :: _ :: _ :: _ :: _ => exact hotherwise
  · match args with
    | model :: rest => exact hview model rest.head?
    | [] => exact hotherwise
  · exact hclear
  · exact hhistory
  · match args with
    | mode :: rest => exact hdebug mode
    | [] => exact hotherwise

/-- **Of the built-in commands only one asks for aliases.** A built-in command sets aliases, or all
that it asks is plain. -/
theorem handler_cases {name : String} {d : Definition} (h : registry.lookup name = some d)
    (args : List String) : (∃ args', d.handler args = setAlias args') ∨
      (d.handler args).run.AllQueries Query.Plain := by
  let P : Action Output → Prop := fun x =>
    (∃ args', x = setAlias args') ∨ x.run.AllQueries Query.Plain
  have hhistory : history.run.AllQueries Query.Plain :=
    allQueries_bind (allQueries_query trivial) fun _ => trivial
  exact @handler_induction P (fun args => .inr (help_plain args)) (fun args => .inl ⟨args, rfl⟩)
    (fun model fields domain => .inr (search_plain model fields domain))
    (fun model values => .inr (create_plain model values))
    (fun model id values => .inr (write_plain model id values))
    (fun model id => .inr (view_plain model id)) (.inr trivial) (.inr hhistory)
    (fun mode => .inr (debug_plain mode)) (.inr trivial) name d h args

/-! ## Lines -/

theorem removeAlias_runsNoLine (name : String) :
    (removeAlias name).run.AllQueries Query.RunsNoLine := by
  refine allQueries_bind (allQueries_query trivial) fun reply => ?_
  refine allQueries_bind (allQueries_expect _) fun r? => ?_
  cases r? with
  | none => trivial
  | some record =>
      exact allQueries_bind (allQueries_query trivial) fun _ =>
        allQueries_bind (allQueries_expect _) fun _ => trivial

theorem defineAlias_runsNoLine (name command : String) :
    (defineAlias name command).run.AllQueries Query.RunsNoLine := by
  refine allQueries_bind (allQueries_query trivial) fun commands => ?_
  split
  · trivial
  · refine allQueries_bind (allQueries_query trivial) fun reply => ?_
    refine allQueries_bind (allQueries_expect _) fun r? => ?_
    cases r? <;>
      exact allQueries_bind (allQueries_query trivial) fun _ =>
        allQueries_bind (allQueries_expect _) fun _ =>
          allQueries_bind (allQueries_query trivial) fun _ => trivial

/-- **No built-in command runs a line.** -/
theorem runsNoLines : registry.RunsNoLines := by
  intro name d args h
  rcases handler_cases h args with ⟨args', heq⟩ | hplain
  · rw [heq]
    unfold setAlias
    split
    · split
      · exact removeAlias_runsNoLine _
      · exact defineAlias_runsNoLine _ _
    · trivial
  · exact hplain.mono fun q hq => hq.runsNoLine

/-! ## Outputs -/

theorem removeAlias_unmarked (name : String) : (removeAlias name).run.AllResults Unmarked := by
  refine unmarked_bind fun reply => unmarked_bind fun r? => ?_
  cases r? with
  | none => trivial
  | some record => exact unmarked_bind fun _ => unmarked_bind fun _ => trivial

theorem defineAlias_unmarked (name command : String) :
    (defineAlias name command).run.AllResults Unmarked := by
  refine unmarked_bind fun commands => ?_
  split
  · trivial
  · refine unmarked_bind fun reply => unmarked_bind fun r? => ?_
    cases r? <;>
      exact unmarked_bind fun _ => unmarked_bind fun _ => unmarked_bind fun _ => trivial

theorem setAlias_unmarked (args : List String) : (setAlias args).run.AllResults Unmarked := by
  unfold setAlias
  split
  · split
    · exact removeAlias_unmarked _
    · exact defineAlias_unmarked _ _
  · trivial

/-- Records are shown as a table, and what is no list of records as an error. -/
theorem search_unmarked (model fieldList : String) (domain : Option String) :
    (search model fieldList domain).run.AllResults Unmarked := by
  refine unmarked_bind fun _ => unmarked_bind fun records => unmarked_bind fun _ => ?_
  unfold Records.table
  split <;> trivial

theorem openView_unmarked (v : View) : (openView v).run.AllResults Unmarked :=
  unmarked_bind fun _ => unmarked_bind fun _ => trivial

theorem create_unmarked (model : String) (raw : Option String) :
    (create model raw).run.AllResults Unmarked := by
  cases raw with
  | none => exact openView_unmarked _
  | some raw => exact unmarked_bind fun _ => unmarked_bind fun _ => trivial

theorem write_unmarked (model id raw : String) : (write model id raw).run.AllResults Unmarked :=
  unmarked_bind fun _ => unmarked_bind fun _ => unmarked_bind fun _ => trivial

theorem view_unmarked (model : String) (raw : Option String) :
    (view model raw).run.AllResults Unmarked := by
  cases raw with
  | none => exact openView_unmarked _
  | some raw => exact unmarked_bind fun _ => openView_unmarked _

theorem debug_unmarked (mode : String) : (debug mode).run.AllResults Unmarked := by
  unfold debug
  split
  · trivial
  · exact unmarked_bind fun _ => trivial

/-- **No built-in command shows markup.** -/
theorem unmarked_handler {name : String} {d : Definition} (h : registry.lookup name = some d)
    (args : List String) : (d.handler args).run.AllResults Unmarked := by
  let P : Action Output → Prop := fun x => x.run.AllResults Unmarked
  have hhelp : ∀ args, P (help args) := fun args => unmarked_bind fun _ => by cases args <;> trivial
  have hhistory : P history := unmarked_bind fun _ => trivial
  exact @handler_induction P hhelp setAlias_unmarked search_unmarked create_unmarked write_unmarked
    view_unmarked trivial hhistory debug_unmarked trivial name d h args

/-! ## Runs of `alias` -/

/-- What is registered as `alias`: it takes two words that are not read as numbers. -/
theorem lookup_alias : ∃ d, registry.lookup "alias" = some d ∧ d.handler = setAlias ∧
    ∀ name command, d.signature.accepts ([name, command].map String.toList) =
      (!Number.isInteger name.toList && !Number.isInteger command.toList) := by
  refine ⟨_, rfl, rfl, fun name command => ?_⟩
  simp [Signature.accepts, Signature.required, must, SlotKind.accepts]

section

variable {α : Type} {s s₁ s₂ : Session} {name command cause : String} {r : Alias.Record} {id : Int}

theorem run_findAlias_bind {reply : Except String (Option Alias.Record)}
    {f : Except String (Option Alias.Record) → Action α} (h : s.findAlias name = (reply, s₁)) :
    s.run (query (.findAlias name) >>= f).run = s₁.run (f reply).run := by
  have hrun : s.run (query (.findAlias name) >>= f).run =
      (s.findAlias name).2.run (f (s.findAlias name).1).run := rfl
  rw [hrun, h]

theorem run_changeAlias_bind {c : Alias.Change} {reply : Except String Int}
    {f : Except String Int → Action α} (h : s.changeAlias c = (reply, s₁)) :
    s.run (query (.changeAlias c) >>= f).run = s₁.run (f reply).run := by
  have hrun : s.run (query (.changeAlias c) >>= f).run =
      (s.changeAlias c).2.run (f (s.changeAlias c).1).run := rfl
  rw [hrun, h]

theorem run_removeAlias_none (hfind : s.findAlias name = (.ok none, s₁)) :
    s.run (removeAlias name).run =
      some (.ok (.text s!"[!] '{name}' alias doesn't exist"), s₁) :=
  run_findAlias_bind hfind

theorem run_removeAlias_some (hfind : s.findAlias name = (.ok (some r), s₁))
    (hchange : s₁.changeAlias (.delete r.id) = (.ok id, s₂)) :
    s.run (removeAlias name).run =
      some (.ok (.text s!"'{name}' alias deleted successfully"), s₂) :=
  (run_findAlias_bind hfind).trans (run_changeAlias_bind hchange)

theorem run_defineAlias_registered
    (hname : Registry.containsIgnoringCase (s.registry.synopses.map (·.name)) name = true) :
    s.run (defineAlias name command).run = some (.error (.error (.badAliasName name)), s) := by
  have hrun : s.run (defineAlias name command).run =
      s.run (if Registry.containsIgnoringCase (s.registry.synopses.map (·.name)) name then
        fail (.badAliasName name) else _ : Action Output).run := rfl
  rw [hrun, if_pos hname]
  rfl

theorem run_defineAlias_some
    (hname : Registry.containsIgnoringCase (s.registry.synopses.map (·.name)) name = false)
    (hfind : s.findAlias name = (.ok (some r), s₁))
    (hchange : s₁.changeAlias (.update r.id command) = (.ok id, s₂)) :
    s.run (defineAlias name command).run =
      some (.ok (.text s!"'{name}' alias updated successfully"),
        s₂.report .debug s!"alias '{name}' (#{r.id}) updated") := by
  have hrun : s.run (defineAlias name command).run =
      s.run (if Registry.containsIgnoringCase (s.registry.synopses.map (·.name)) name then
        fail (.badAliasName name) else _ : Action Output).run := rfl
  rw [hrun, if_neg (by simp [hname])]
  exact (run_findAlias_bind hfind).trans (run_changeAlias_bind hchange)

theorem run_defineAlias_none
    (hname : Registry.containsIgnoringCase (s.registry.synopses.map (·.name)) name = false)
    (hfind : s.findAlias name = (.ok none, s₁))
    (hchange : s₁.changeAlias (.create name command) = (.ok id, s₂)) :
    s.run (defineAlias name command).run =
      some (.ok (.text s!"'{name}' alias created successfully"),
        s₂.report .debug s!"alias '{name}' created as #{id}") := by
  have hrun : s.run (defineAlias name command).run =
      s.run (if Registry.containsIgnoringCase (s.registry.synopses.map (·.name)) name then
        fail (.badAliasName name) else _ : Action Output).run := rfl
  rw [hrun, if_neg (by simp [hname])]
  exact (run_findAlias_bind hfind).trans (run_changeAlias_bind hchange)

end

end Vocabulary

end CommandConsole
