import CommandConsole.Proofs.Session.AliasRecords
import Mathlib.Data.List.Induction
import Mathlib.Data.List.Nodup
import Mathlib.Logic.Function.Basic

/-!
# Concurrent tasks

Tasks that were started on one session go on in turns: in a turn one of them asks its next question
and has it answered (`ConcurrentTasks.Step`). Every order of turns is possible, so what a task was
told may have changed when it acts on it.

A task upserts when it creates an alias only under a name that it looked up last and found free
(`Task.Upserts`); `alias` does. Where aliases are records, nothing else stands between two aliases
and one name. So names stay unique as long as nobody creates an alias between another one's look-up
and creation, and no longer (`aliasNames_nodup_iff`).
-/

set_option autoImplicit false

namespace CommandConsole

/-! ## Turns -/

/-- Tasks that run on one session. -/
structure ConcurrentTasks (ι : Type) where
  session : Session
  task : ι → Task Outcome

/-- A question of one of the tasks, and the answer to it. -/
structure Turn (ι : Type) where
  who : ι
  query : Query
  answer : query.Answer

namespace ConcurrentTasks

variable {ι : Type} [DecidableEq ι]

/-- **One turn**: a task asks its next question and has it answered. -/
inductive Step (c : ConcurrentTasks ι) : Turn ι → ConcurrentTasks ι → Prop where
  | ask {i : ι} {q : Query} {next : q.Answer → Task Outcome} {a : q.Answer} {s : Session} :
      c.task i = .ask q next →
      Session.answer Session.maxNesting q c.session = some (a, s) →
      Step c ⟨i, q, a⟩ ⟨s, Function.update c.task i (next a)⟩

/-- Turns of the tasks, in any order. -/
inductive Trace (c₀ : ConcurrentTasks ι) : List (Turn ι) → ConcurrentTasks ι → Prop where
  | nil : Trace c₀ [] c₀
  | snoc {turns : List (Turn ι)} {t : Turn ι} {c c' : ConcurrentTasks ι} :
      Trace c₀ turns c → Step c t c' → Trace c₀ (turns ++ [t]) c'

/-- The turns of the tasks that are named, one after another, and what they leave. -/
def play (c : ConcurrentTasks ι) : List ι → Option (List (Turn ι) × ConcurrentTasks ι)
  | [] => some ([], c)
  | i :: order =>
      match c.task i with
      | .done _ => none
      | .ask q next =>
          match Session.answer Session.maxNesting q c.session with
          | none => none
          | some (a, s) =>
              (play ⟨s, Function.update c.task i (next a)⟩ order).map fun p =>
                (⟨i, q, a⟩ :: p.1, p.2)

variable {c₀ c c' : ConcurrentTasks ι} {turns pre post : List (Turn ι)} {t : Turn ι}

/-- What is played is a trace. -/
theorem trace_of_play {order : List ι} (hbefore : Trace c₀ pre c)
    (hplay : c.play order = some (turns, c')) : Trace c₀ (pre ++ turns) c' := by
  induction order generalizing c pre turns with
  | nil =>
      obtain ⟨rfl, rfl⟩ := Prod.mk.inj (Option.some.inj hplay)
      rwa [List.append_nil]
  | cons i order ih =>
      unfold play at hplay
      split at hplay
      · contradiction
      · rename_i q next htask
        split at hplay
        · contradiction
        · rename_i a s hanswer
          -- the first turn is a step, and the others are played on from there
          obtain ⟨⟨rest, c₂⟩, hrest, heq⟩ := Option.map_eq_some_iff.mp hplay
          obtain ⟨rfl, rfl⟩ := Prod.mk.inj heq
          have hmore := ih (hbefore.snoc (.ask htask hanswer)) hrest
          rwa [List.append_assoc] at hmore

/-- Each turn of a trace was taken behind the turns before it. -/
theorem Trace.split (h : Trace c₀ turns c) (hturns : turns = pre ++ t :: post) :
    ∃ c₁ c₂, Trace c₀ pre c₁ ∧ Step c₁ t c₂ := by
  induction h generalizing post with
  | nil => simp at hturns
  | @snoc turns u c c' htrace hstep ih =>
      rcases List.eq_nil_or_concat post with rfl | ⟨post, v, rfl⟩
      · obtain ⟨rfl, hu⟩ := List.append_inj' hturns rfl
        obtain rfl := List.singleton_inj.mp hu
        exact ⟨c, c', htrace, hstep⟩
      · have hassoc : pre ++ t :: (post ++ [v]) = (pre ++ t :: post) ++ [v] := by simp
        rw [List.concat_eq_append, hassoc] at hturns
        exact ih (List.append_inj' hturns rfl).1

end ConcurrentTasks

/-! ## Look before you create -/

/-- The name that was looked up last and found free, after an answer. -/
def Query.free? : (q : Query) → q.Answer → Option String → Option String
  | .findAlias name, .ok none, _ => some name
  | .findAlias _, _, _ => none
  | .changeAlias _, _, _ => none
  | _, _, free => free

/-- A task creates an alias only under the name that it looked up last and found free, which is one
of the allowed names, and does nothing else to the names. -/
def Task.Upserts {α : Type} (allowed : String → Prop) : Task α → Option String → Prop
  | .done _, _ => True
  | .ask q next, free =>
      q.KeepsNames ∧ (∀ name, q.creates? = some name → free = some name ∧ allowed name) ∧
        ∀ a, (next a).Upserts allowed (q.free? a free)

namespace ConcurrentTasks

variable {ι : Type}

/-- The names under which aliases were created, in order. -/
def created (turns : List (Turn ι)) : List String := turns.filterMap (·.query.creates?)

/-- A creation was overtaken: its task had looked the name up and found it free, and before it came
to create the alias, another task did. -/
def Overtaken (turns : List (Turn ι)) : Prop :=
  ∃ (i j : ι) (name command command' : String) (a a' : Except String Int)
    (t₁ t₂ t₃ t₄ : List (Turn ι)), i ≠ j ∧
    turns = t₁ ++ ⟨i, .findAlias name, .ok none⟩ :: t₂ ++
      ⟨j, .changeAlias (.create name command'), a'⟩ :: t₃ ++
      ⟨i, .changeAlias (.create name command), a⟩ :: t₄

variable [DecidableEq ι]

/-- The name that a task looked up last and found free. -/
def freeOf (i : ι) (turns : List (Turn ι)) : Option String :=
  turns.foldl (fun free t => if t.who = i then t.query.free? t.answer free else free) none

variable {c₀ c c' : ConcurrentTasks ι} {turns pre post : List (Turn ι)} {t : Turn ι} {i : ι}
  {name : String} {rs : List Alias.Record} {allowed : String → Prop}

theorem freeOf_snoc (i : ι) (turns : List (Turn ι)) (t : Turn ι) :
    freeOf i (turns ++ [t]) =
      if t.who = i then t.query.free? t.answer (freeOf i turns) else freeOf i turns := by
  simp [freeOf]

omit [DecidableEq ι] in
theorem created_append (turns more : List (Turn ι)) :
    created (turns ++ more) = created turns ++ created more :=
  List.filterMap_append ..

omit [DecidableEq ι] in
theorem created_snoc (turns : List (Turn ι)) (t : Turn ι) :
    created (turns ++ [t]) = created turns ++ t.query.creates?.toList := by
  unfold created
  cases h : t.query.creates? <;> simp [h]

omit [DecidableEq ι] in
theorem created_cons (t : Turn ι) (turns : List (Turn ι)) :
    created (t :: turns) = t.query.creates?.toList ++ created turns := by
  unfold created
  cases h : t.query.creates? <;> simp [h]

/-- A name that was found free last was looked up, and its task has created nothing since. -/
theorem exists_look (h : freeOf i turns = some name) :
    ∃ pre post, turns = pre ++ ⟨i, .findAlias name, .ok none⟩ :: post ∧
      ∀ t ∈ post, t.who = i → t.query.creates? = none := by
  induction turns using List.reverseRecOn with
  | nil => simp [freeOf] at h
  | append_singleton turns t ih =>
      rw [freeOf_snoc] at h
      -- a turn that leaves the name as it was comes behind the look-up
      have hlater (hbefore : freeOf i turns = some name)
          (hquiet : t.who = i → t.query.creates? = none) :
          ∃ pre post, turns ++ [t] = pre ++ ⟨i, .findAlias name, .ok none⟩ :: post ∧
            ∀ t ∈ post, t.who = i → t.query.creates? = none := by
        obtain ⟨pre, post, hturns, hpost⟩ := ih hbefore
        refine ⟨pre, post ++ [t], by simp [hturns], fun u hu => ?_⟩
        rcases List.mem_append.mp hu with hu | hu
        · exact hpost u hu
        · obtain rfl := List.mem_singleton.mp hu
          exact hquiet
      by_cases hwho : t.who = i
      · rw [if_pos hwho] at h
        obtain ⟨who, q, a⟩ := t
        obtain rfl : who = i := hwho
        cases q with
        | findAlias m =>
            rcases a with cause | _ | r
            · contradiction
            · obtain rfl : m = name := Option.some.inj h
              exact ⟨turns, [], rfl, by simp⟩
            · contradiction
        | changeAlias c => contradiction
        | _ => exact hlater h fun _ => rfl
      · rw [if_neg hwho] at h
        exact hlater h fun heq => absurd heq hwho

/-! ## Invariants -/

/-- What holds of concurrent tasks after turns: the aliases have the names under which they were
created, which are allowed, and all tasks look before they create. -/
structure Kept (allowed : String → Prop) (c₀ : ConcurrentTasks ι) (turns : List (Turn ι))
    (c : ConcurrentTasks ι) : Prop where
  names : ∃ rs, c.session.HasAliases rs ∧ rs.map Alias.Record.name = created turns
  names_allowed : ∀ name ∈ created turns, allowed name
  tasks : ∀ i, (c.task i).Upserts allowed (freeOf i turns)
  registry : c.session.registry = c₀.session.registry

theorem Kept.step (h : Kept allowed c₀ turns c) (hstep : Step c t c') :
    Kept allowed c₀ (turns ++ [t]) c' := by
  obtain @⟨i, q, next, a, s, htask, hanswer⟩ := hstep
  have hupserts := h.tasks i
  rw [htask] at hupserts
  obtain ⟨hquestion, hlooked, hnext⟩ := hupserts
  obtain ⟨rs, haliases, hnames⟩ := h.names
  obtain ⟨rs', haliases', hnames', hregistry⟩ := haliases.answer hquestion hanswer
  refine ⟨⟨rs', haliases', ?_⟩, fun name hname => ?_, fun j => ?_, hregistry.trans h.registry⟩
  · rw [hnames', hnames, created_snoc]
  · rw [created_snoc] at hname
    rcases List.mem_append.mp hname with hname | hname
    · exact h.names_allowed name hname
    · exact (hlooked name (Option.mem_toList.mp hname)).2
  · rw [freeOf_snoc]
    by_cases hj : j = i
    · subst hj
      simpa using hnext a
    · simpa [hj, Ne.symm hj] using h.tasks j

/-- **Every trace keeps them.** -/
theorem kept_of_trace (hstart : c₀.session.HasAliases [])
    (hupserts : ∀ i, (c₀.task i).Upserts allowed none) (h : Trace c₀ turns c) :
    Kept allowed c₀ turns c := by
  induction h with
  | nil => exact ⟨⟨[], hstart, rfl⟩, by simp [created], hupserts, rfl⟩
  | snoc _ hstep ih => exact ih.step hstep

/-! ## Overtaken creations -/

/-- When a name was found free, no alias had been created under it. -/
theorem Trace.not_created_of_free (hstart : c₀.session.HasAliases [])
    (hupserts : ∀ i, (c₀.task i).Upserts allowed none) (h : Trace c₀ turns c)
    (hturns : turns = pre ++ ⟨i, .findAlias name, .ok none⟩ :: post) : name ∉ created pre := by
  obtain ⟨c₁, c₂, htrace, hstep⟩ := h.split hturns
  obtain ⟨rs, haliases, hnames⟩ := (kept_of_trace hstart hupserts htrace).names
  cases hstep with
  | ask htask hanswer =>
      rw [Session.answer_findAlias] at hanswer
      have hfree : (c₁.session.findAlias name).1 = .ok none :=
        congrArg Prod.fst (Option.some.inj hanswer)
      rw [← hnames]
      exact haliases.not_mem_of_free hfree

omit [DecidableEq ι] in
theorem Overtaken.snoc (h : Overtaken turns) (t : Turn ι) : Overtaken (turns ++ [t]) := by
  obtain ⟨i, j, name, command, command', a, a', t₁, t₂, t₃, t₄, hne, rfl⟩ := h
  exact ⟨i, j, name, command, command', a, a', t₁, t₂, t₃, t₄ ++ [t], hne, by simp⟩

omit [DecidableEq ι] in
/-- Two aliases were created under the name of an overtaken creation. -/
theorem Overtaken.not_nodup (h : Overtaken turns) : ¬ (created turns).Nodup := by
  obtain ⟨i, j, name, command, command', a, a', t₁, t₂, t₃, t₄, -, rfl⟩ := h
  simp [created_append, created_cons, Query.creates?, List.nodup_append, List.nodup_cons]

/-- A question that creates an alias. -/
theorem eq_of_creates? {q : Query} (h : q.creates? = some name) :
    ∃ command, q = .changeAlias (.create name command) := by
  cases q with
  | changeAlias c =>
      cases c with
      | create m command =>
          obtain rfl : m = name := Option.some.inj h
          exact ⟨command, rfl⟩
      | update id command => contradiction
      | delete id => contradiction
  | _ => contradiction

omit [DecidableEq ι] in
/-- A name under which an alias was created comes from a turn that created it. -/
theorem exists_creation (h : name ∈ created turns) :
    ∃ pre j command a post, turns = pre ++ ⟨j, .changeAlias (.create name command), a⟩ :: post := by
  obtain ⟨⟨j, q, a⟩, hmem, hcreates⟩ := List.mem_filterMap.mp h
  obtain ⟨command, rfl⟩ := eq_of_creates? hcreates
  obtain ⟨pre, post, rfl⟩ := List.append_of_mem hmem
  exact ⟨pre, j, command, a, post, rfl⟩

/-- **Who creates a name again was overtaken**: the creation before it came after the look-up. -/
theorem overtaken_of_created {command : String} {a : Except String Int}
    (hstart : c₀.session.HasAliases []) (hupserts : ∀ i, (c₀.task i).Upserts allowed none)
    (h : Trace c₀ turns c) (hfree : freeOf i turns = some name) (hcreated : name ∈ created turns) :
    Overtaken (turns ++ [⟨i, .changeAlias (.create name command), a⟩]) := by
  obtain ⟨pre, post, hturns, hpost⟩ := exists_look hfree
  -- the look-up found the name free, so the creation came later, and from another task
  have hbefore := h.not_created_of_free hstart hupserts hturns
  have hafter : name ∈ created post := by
    rw [hturns, created_append, created_cons] at hcreated
    rcases List.mem_append.mp hcreated with hcreated | hcreated
    · exact absurd hcreated hbefore
    · simpa [Query.creates?] using hcreated
  obtain ⟨mid, j, command', a', rest, rfl⟩ := exists_creation hafter
  have hne : i ≠ j := by
    rintro rfl
    have hquiet := hpost ⟨i, .changeAlias (.create name command'), a'⟩ (by simp) rfl
    contradiction
  exact ⟨i, j, name, command, command', a, a', pre, mid, rest, [], hne, by simp [hturns]⟩

/-- **Names stay unique unless a creation is overtaken.** -/
theorem nodup_or_overtaken (hstart : c₀.session.HasAliases [])
    (hupserts : ∀ i, (c₀.task i).Upserts allowed none) (h : Trace c₀ turns c) :
    (created turns).Nodup ∨ Overtaken turns := by
  induction h with
  | nil => exact .inl List.nodup_nil
  | @snoc turns t c c' htrace hstep ih =>
      rcases ih with hnodup | hovertaken
      · obtain @⟨i, q, next, a, s, htask, -⟩ := hstep
        have hkept := (kept_of_trace hstart hupserts htrace).tasks i
        rw [htask] at hkept
        obtain ⟨-, hlooked, -⟩ := hkept
        have hcreated : created (turns ++ [⟨i, q, a⟩]) = created turns ++ q.creates?.toList :=
          created_snoc ..
        cases hcreates : q.creates? with
        | none =>
            rw [hcreates, Option.toList_none, List.append_nil] at hcreated
            exact .inl (hcreated ▸ hnodup)
        | some name =>
            obtain ⟨command, rfl⟩ := eq_of_creates? hcreates
            by_cases hagain : name ∈ created turns
            · exact .inr (overtaken_of_created hstart hupserts htrace (hlooked name rfl).1 hagain)
            · have hmore := hnodup.concat hagain
              rw [List.concat_eq_append] at hmore
              exact .inl (hcreated ▸ hmore)
      · exact .inr (hovertaken.snoc t)

end ConcurrentTasks

end CommandConsole
