import CommandConsole.Proofs.Dispatch.Chain
import CommandConsole.Proofs.Session.ConcurrentTasks

/-!
# Aliases that are set side by side

`alias` is meant to make one alias for a name, or to change the one that is there. It looks the name
up and then creates or updates (`upserts_execute`), and a store of records does not refuse a name
that is taken. So it makes a second alias of the name when another `alias` comes in between
(`alias_overtaken`), and then `alias` with `-d` takes one of the two away and leaves the other.
`aliasNames_nodup_iff` says for all orders of turns that this is the only way.
-/

set_option autoImplicit false

namespace CommandConsole

/-! ## Setting an alias looks before it creates -/

section

variable {α β : Type} {allowed : String → Prop} {free : Option String}

theorem Task.Upserts.map {t : Task α} (h : t.Upserts allowed free) (f : α → β) :
    (do return f (← t) : Task β).Upserts allowed free := by
  induction t generalizing free with
  | done a => trivial
  | ask q next ih => exact ⟨h.1, h.2.1, fun a => ih a (h.2.2 a)⟩

theorem Task.Upserts.log_bind {t : Task α} (h : t.Upserts allowed free) (level : LogLevel)
    (message : String) : (Task.log level message >>= fun _ => t).Upserts allowed free := by
  refine ⟨trivial, fun name hcreates => ?_, fun _ => h⟩
  contradiction

namespace Action

theorem upserts_query_bind {q : Query} {f : q.Answer → Action β} (hq : q.KeepsNames)
    (hcreates : ∀ name, q.creates? = some name → free = some name ∧ allowed name)
    (hf : ∀ a, (f a).run.Upserts allowed (q.free? a free)) :
    (query q >>= f).run.Upserts allowed free :=
  ⟨hq, hcreates, hf⟩

theorem upserts_expect_bind {r : Except String α} {f : α → Action β}
    (hf : ∀ a, r = .ok a → (f a).run.Upserts allowed free) :
    (expect r >>= f).run.Upserts allowed free := by
  cases r with
  | ok a => exact hf a rfl
  | error cause => trivial

end Action

end

namespace Vocabulary

open CommandConsole.Action

theorem upserts_defineAlias {allowed : String → Prop} {name : String} (hallowed : allowed name)
    (command : String) : (defineAlias name command).run.Upserts allowed none := by
  unfold defineAlias
  refine upserts_query_bind trivial (fun _ hcreates => nomatch hcreates) fun commands => ?_
  split
  · trivial
  · refine upserts_query_bind trivial (fun _ hcreates => nomatch hcreates) fun reply => ?_
    refine upserts_expect_bind fun r? hreply => ?_
    cases r? with
    | some record =>
        refine upserts_query_bind trivial (fun _ hcreates => nomatch hcreates) fun reply' => ?_
        refine upserts_expect_bind fun id _ => ?_
        exact upserts_query_bind trivial (fun _ hcreates => nomatch hcreates) fun _ => trivial
    | none =>
        -- the name was looked up and found free
        subst hreply
        have hcreates : ∀ m, (Query.changeAlias (.create name command)).creates? = some m →
            some name = some m ∧ allowed m := by
          rintro _ ⟨⟩
          exact ⟨rfl, hallowed⟩
        refine upserts_query_bind trivial hcreates fun reply' => ?_
        refine upserts_expect_bind fun id _ => ?_
        exact upserts_query_bind trivial (fun _ hcreates => nomatch hcreates) fun _ => trivial

/-- **`alias` looks before it creates**, and does not create what reads as a number. -/
theorem upserts_execute {line name command : String}
    (hline : Line.tokenize line = ["alias", name, command]) (hcommand : command ≠ deleteMark)
    (limit : Nat) :
    (Dispatch.execute registry limit line).Upserts (fun n => Number.isInteger n.toList = false)
      none := by
  obtain ⟨d, hlookup, hhandler, haccepts⟩ := lookup_alias
  rw [Dispatch.execute, Dispatch.executeWithin_of_registered limit hline hlookup]
  cases hwords : d.signature.accepts ([name, command].map String.toList) with
  | true =>
      have hname : Number.isInteger name.toList = false := by
        rw [haccepts] at hwords
        simp only [Bool.and_eq_true, Bool.not_eq_true'] at hwords
        exact hwords.1
      rw [Dispatch.call_of_accepted hwords, hhandler, setAlias, if_neg hcommand]
      exact ((upserts_defineAlias hname command).map _).log_bind ..
  | false =>
      rw [Dispatch.call_of_refused hwords]
      have hrefused : (Pure.pure (.error (.badArguments d.name d.usage)) : Task Outcome).Upserts
          (fun n => Number.isInteger n.toList = false) none := trivial
      exact hrefused.log_bind ..

end Vocabulary

/-! ## Removing an alias -/

namespace Session

variable {s : Session} {rs : List Alias.Record} {store : Records.Store} {r : Alias.Record}
  {line name : String}

/-- A line that removes an alias comes to what the removal comes to. -/
theorem execute_of_removeAlias {d : Definition} {output : Output} {s' : Session}
    (hregistry : s.registry = Vocabulary.registry)
    (hline : Line.tokenize line = ["alias", name, Vocabulary.deleteMark])
    (htext : Number.isInteger name.toList = false)
    (hlookup : Vocabulary.registry.lookup "alias" = some d)
    (hrun : (s.report .debug (Dispatch.callNote d [name, Vocabulary.deleteMark])).run
      (Vocabulary.removeAlias name).run = some (.ok output, s')) :
    s.execute line = some (.ok output, s') := by
  obtain ⟨d', hlookup', hhandler, haccepts⟩ := Vocabulary.lookup_alias
  obtain rfl : d = d' := Option.some.inj (hlookup.symm.trans hlookup')
  have hwords : d.signature.accepts ([name, Vocabulary.deleteMark].map String.toList) = true := by
    rw [haccepts, htext]
    decide
  rw [execute, hregistry, Dispatch.execute,
    Dispatch.executeWithin_of_registered s.aliasLimit hline hlookup,
    Dispatch.call_of_accepted hwords, hhandler, run_log_bind, run_bind]
  show Option.bind (Session.run _ (Vocabulary.removeAlias name).run) _ = _
  rw [hrun]
  rfl

/-- **`alias` with `-d` removes one alias of the name**, if there is one. -/
theorem execute_removal (hregistry : s.registry = Vocabulary.registry)
    (hstore : s.aliasRecords? = some store) (hkeeps : Alias.Keeps store rs)
    (hwords : (store.lastId : Int) ≤ Number.maxInt64)
    (hline : Line.tokenize line = ["alias", name, Vocabulary.deleteMark])
    (htext : Number.isInteger name.toList = false) :
    ∃ output s' store', s.execute line = some (.ok output, s') ∧
      s'.aliasRecords? = some store' ∧
      (Alias.aliasNames store').count name = (Alias.aliasNames store).count name - 1 := by
  obtain ⟨d, hlookup, -, -⟩ := Vocabulary.lookup_alias
  let s₀ := s.report .debug (Dispatch.callNote d [name, Vocabulary.deleteMark])
  have hstore₀ : s₀.aliasRecords? = some store := (aliasRecords?_report ..).trans hstore
  obtain ⟨reply, hanswer, hfound⟩ := hkeeps.find (fun r hr => hkeeps.isInt64 hwords hr) name
  obtain ⟨s₁, hfind, hstore₁, -⟩ := findAlias_of_records hstore₀ name
  rw [hanswer] at hfind hstore₁
  have hfind' : s₀.findAlias name = (.ok (rs.find? (·.name == name)), s₁) := by
    rw [hfind]
    exact congrArg (·, s₁) hfound
  rw [hkeeps.aliasNames_eq]
  -- the first alias with the name is deleted, if there is one
  cases hr : rs.find? (·.name == name) with
  | none =>
      rw [hr] at hfind'
      have hnone : (rs.map Alias.Record.name).count name = 0 := by
        rw [List.count_eq_zero]
        intro hmem
        obtain ⟨r, hin, rfl⟩ := List.mem_map.mp hmem
        have hother := List.find?_eq_none.mp hr r hin
        simp at hother
      refine ⟨_, s₁, store, execute_of_removeAlias hregistry hline htext hlookup
        (Vocabulary.run_removeAlias_none hfind'), hstore₁, ?_⟩
      rw [hkeeps.aliasNames_eq, hnone]
  | some r =>
      rw [hr] at hfind'
      have hmem := List.mem_of_find?_eq_some hr
      obtain rfl : r.name = name := by simpa using List.find?_some hr
      obtain ⟨store', hdelete, -, hkeeps'⟩ := hkeeps.delete hmem (hkeeps.isInt64 hwords hmem)
      obtain ⟨s₂, hchange, hstore₂, -⟩ := changeAlias_of_records hstore₁ (.delete r.id)
      rw [hdelete] at hchange hstore₂
      refine ⟨_, s₂, store', execute_of_removeAlias hregistry hline htext hlookup
        (Vocabulary.run_removeAlias_some hfind' hchange), hstore₂, ?_⟩
      rw [hkeeps'.aliasNames_eq]
      exact hkeeps.count_without hmem

end Session

/-! ## Lines side by side -/

namespace ConcurrentTasks

/-- Lines that were all started on a session. -/
def ofLines {ι : Type} (s : Session) (line : ι → String) : ConcurrentTasks ι :=
  ⟨s, fun i => Dispatch.execute s.registry s.aliasLimit (line i)⟩

variable {ι : Type} [DecidableEq ι] {s₀ : Session} {store₀ : Records.Store}
  {line name command : ι → String} {turns : List (Turn ι)} {c : ConcurrentTasks ι}

/-- **The names of aliases stay unique unless a creation is overtaken**: on a session with the
built-in commands and no aliases among its records, after any turns of any number of lines that set
aliases. A line that removes one of them takes away one alias with the name, so the name is free
afterwards unless a creation was overtaken. -/
theorem aliasNames_nodup_iff (hregistry : s₀.registry = Vocabulary.registry)
    (hstore₀ : s₀.aliasRecords? = some store₀) (hnone : store₀.table Alias.model = [])
    (hlines : ∀ i, Line.tokenize (line i) = ["alias", name i, command i] ∧
      command i ≠ Vocabulary.deleteMark)
    (htrace : Trace (ofLines s₀ line) turns c) :
    ∃ store, c.session.aliasRecords? = some store ∧
      ((Alias.aliasNames store).Nodup ↔ ¬ Overtaken turns) ∧
      ∀ n ∈ Alias.aliasNames store, ∀ removal,
        Line.tokenize removal = ["alias", n, Vocabulary.deleteMark] →
        (store.lastId : Int) ≤ Number.maxInt64 →
        ∃ output s' store', c.session.execute removal = some (.ok output, s') ∧
          s'.aliasRecords? = some store' ∧
          (Alias.aliasNames store').count n = (Alias.aliasNames store).count n - 1 ∧
          (¬ Overtaken turns → n ∉ Alias.aliasNames store') := by
  have hstart : (ofLines s₀ line).session.HasAliases [] :=
    ⟨store₀, hstore₀, Alias.keeps_of_none hnone⟩
  have hupserts : ∀ i, ((ofLines s₀ line).task i).Upserts
      (fun n => Number.isInteger n.toList = false) none := by
    intro i
    obtain ⟨hline, hcommand⟩ := hlines i
    show (Dispatch.execute s₀.registry s₀.aliasLimit (line i)).Upserts _ none
    rw [hregistry]
    exact Vocabulary.upserts_execute hline hcommand s₀.aliasLimit
  have hkept := kept_of_trace hstart hupserts htrace
  obtain ⟨rs, ⟨store, hstore, hkeeps⟩, hnames⟩ := hkept.names
  have hcreated : Alias.aliasNames store = created turns := hkeeps.aliasNames_eq.trans hnames
  have hunique : (Alias.aliasNames store).Nodup ↔ ¬ Overtaken turns := by
    rw [hcreated]
    constructor
    · intro hnodup hovertaken
      exact hovertaken.not_nodup hnodup
    · intro hnot
      exact (nodup_or_overtaken hstart hupserts htrace).resolve_right hnot
  refine ⟨store, hstore, hunique, fun n hn removal hremoval hwords => ?_⟩
  -- a name of an alias does not read as a number, so the line is taken
  have htext := hkept.names_allowed n (hcreated ▸ hn)
  obtain ⟨output, s', store', hexecute, hstore', hcount⟩ :=
    Session.execute_removal (hkept.registry.trans hregistry) hstore hkeeps hwords hremoval htext
  refine ⟨output, s', store', hexecute, hstore', hcount, fun hnot => ?_⟩
  have hone := List.nodup_iff_count_le_one.mp (hunique.mpr hnot) n
  rw [← List.count_eq_zero]
  omega

/-- A session with the built-in commands that keeps its aliases in the backend. -/
def remote : Session := { Session.start with registry := Vocabulary.registry, aliases := .backend }

/-- The templates of two lines that set the same alias. -/
def templates : Fin 2 → String
  | 0 => "a"
  | 1 => "b"

/-- Two lines that set the same alias. -/
def rivals : ConcurrentTasks (Fin 2) := ofLines remote fun i => "alias k " ++ templates i

/-- What two lines come to, and the names of the aliases that they leave. -/
structure Summary where
  first : Outcome
  second : Outcome
  names : List String
deriving DecidableEq

/-- The summary of two tasks that are done. -/
def summary? (c : ConcurrentTasks (Fin 2)) : Option Summary :=
  match c.task 0, c.task 1, c.session.aliasRecords? with
  | .done o, .done o', some store => some ⟨o, o', Alias.aliasNames store⟩
  | _, _, _ => none

/-- The second line looks the name up when the first one has created the alias. -/
theorem exists_turns : ∃ turns c, Trace rivals turns c ∧
    c.summary? = some ⟨.ok (.text "'k' alias created successfully"),
      .ok (.text "'k' alias updated successfully"), ["k"]⟩ ∧
    c.session.aliasRecords?.map Records.Store.lastId = some 1 := by
  have hplay : ((rivals.play [0, 1, 0, 1, 0, 0, 1, 1, 0, 1]).map fun p =>
      (p.2.summary?, p.2.session.aliasRecords?.map Records.Store.lastId)) =
      some (some ⟨.ok (.text "'k' alias created successfully"),
        .ok (.text "'k' alias updated successfully"), ["k"]⟩, some 1) := by
    decide +kernel
  obtain ⟨⟨turns, c⟩, hplayed, heq⟩ := Option.map_eq_some_iff.mp hplay
  obtain ⟨hsummary, hlast⟩ := Prod.mk.inj heq
  exact ⟨turns, c, trace_of_play .nil hplayed, hsummary, hlast⟩

theorem names_of_summary {c : ConcurrentTasks (Fin 2)} {v : Summary} {store : Records.Store}
    (hsummary : c.summary? = some v) (hstore : c.session.aliasRecords? = some store) :
    Alias.aliasNames store = v.names := by
  unfold summary? at hsummary
  rw [hstore] at hsummary
  split at hsummary
  · rename_i heq
    obtain rfl := Option.some.inj heq
    exact congrArg Summary.names (Option.some.inj hsummary)
  · contradiction

theorem aliasNames_nodup_iff_rivals :
    (∀ i, Line.tokenize ("alias k " ++ templates i) = ["alias", "k", templates i] ∧
      templates i ≠ Vocabulary.deleteMark) ∧
    ∃ turns c store, Trace rivals turns c ∧ c.session.aliasRecords? = some store ∧
      Alias.aliasNames store = ["k"] ∧ ¬ Overtaken turns ∧ (store.lastId : Int) ≤ Number.maxInt64 ∧
      ∃ output s' store', c.session.execute "alias k -d" = some (.ok output, s') ∧
        s'.aliasRecords? = some store' ∧ "k" ∉ Alias.aliasNames store' := by
  have hlines : ∀ i, Line.tokenize ("alias k " ++ templates i) = ["alias", "k", templates i] ∧
      templates i ≠ Vocabulary.deleteMark := by
    decide +kernel
  obtain ⟨turns, c, htrace, hsummary, hlast⟩ := exists_turns
  have hempty : remote.aliasRecords? = some .empty := rfl
  obtain ⟨store, hstore, hunique, hremoval⟩ :=
    aliasNames_nodup_iff rfl hempty rfl hlines htrace
  have hnames : Alias.aliasNames store = ["k"] := names_of_summary hsummary hstore
  have hnot : ¬ Overtaken turns := by
    rw [← hunique, hnames]
    decide
  have hwords : (store.lastId : Int) ≤ Number.maxInt64 := by
    rw [hstore] at hlast
    obtain hlast : store.lastId = 1 := Option.some.inj hlast
    rw [hlast]
    decide
  obtain ⟨output, s', store', hexecute, hstore', -, hgone⟩ :=
    hremoval "k" (by simp [hnames]) "alias k -d" rfl hwords
  exact ⟨hlines, turns, c, store, htrace, hstore, hnames, hnot, hwords,
    output, s', store', hexecute, hstore', hgone hnot⟩

/-- **A creation that is overtaken**: both lines look the name up before one of them creates the
alias. Then there are two aliases with the name, and removing the alias leaves the other one. -/
theorem alias_overtaken : ∃ turns c, Trace rivals turns c ∧
    c.summary? = some ⟨.ok (.text "'k' alias created successfully"),
      .ok (.text "'k' alias created successfully"), ["k", "k"]⟩ ∧
    ∃ s', c.session.execute "alias k -d" =
        some (.ok (.text "'k' alias deleted successfully"), s') ∧
      (s'.findAlias "k").1 = .ok (some ⟨2, "k", "b"⟩) := by
  have hplay : ((rivals.play [0, 1, 0, 1, 0, 1, 0, 1, 0, 1]).bind fun p =>
      (p.2.session.execute "alias k -d").map fun e =>
        (p.2.summary?, e.1, (e.2.findAlias "k").1)) =
      some (some ⟨.ok (.text "'k' alias created successfully"),
          .ok (.text "'k' alias created successfully"), ["k", "k"]⟩,
        .ok (.text "'k' alias deleted successfully"), .ok (some ⟨2, "k", "b"⟩)) := by
    decide +kernel
  obtain ⟨⟨turns, c⟩, hplayed, hremoved⟩ := Option.bind_eq_some_iff.mp hplay
  obtain ⟨⟨outcome, s'⟩, hexecute, heq⟩ := Option.map_eq_some_iff.mp hremoved
  obtain ⟨hsummary, hrest⟩ := Prod.mk.inj heq
  obtain ⟨houtcome, hfound⟩ := Prod.mk.inj hrest
  obtain rfl : outcome = .ok (.text "'k' alias deleted successfully") := houtcome
  exact ⟨turns, c, trace_of_play .nil hplayed, hsummary, s', hexecute, hfound⟩

end ConcurrentTasks

end CommandConsole
