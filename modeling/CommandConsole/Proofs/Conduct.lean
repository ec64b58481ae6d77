import CommandConsole.Proofs.Records.Payload
import CommandConsole.Proofs.Session.Paths
import CommandConsole.Proofs.Signature.Slots
import CommandConsole.Proofs.Vocabulary

/-!
# How calls of the built-in commands go

A call of a built-in command is a path through what the command does. Three of the commands can ask
the backend for something, and what they ask for is what their arguments stand for (`Asks`). A call
sends that request if the arguments stand for something, and no other; and it can fail in four ways
only (`FailsAfter`): before it has asked the backend, over a payload or a name; behind a complaint,
of the backend or of another collaborator, which is the last thing it hears; or over the reply to a
search. `conduct_handler` says so for all built-in commands and all answers. In particular none of
them reads an argument that is not there.
-/

set_option autoImplicit false

namespace CommandConsole

namespace Exchange

/-- The request that the backend is sent. -/
def request? : Exchange → Option Request
  | ⟨.call r, _⟩ => some r
  | _ => none

/-- The complaint of a collaborator: the backend, the store of aliases, or the opener of views. -/
def complaint? : Exchange → Option String
  | ⟨.call _, .error cause⟩ => some cause
  | ⟨.findAlias _, .error cause⟩ => some cause
  | ⟨.changeAlias _, .error cause⟩ => some cause
  | ⟨.openView _, .error cause⟩ => some cause
  | _ => none

end Exchange

/-- The requests that the backend is sent, in order. -/
def requests (xs : List Exchange) : List Request := xs.filterMap Exchange.request?

@[simp] theorem requests_append (xs ys : List Exchange) :
    requests (xs ++ ys) = requests xs ++ requests ys :=
  List.filterMap_append

theorem requests_cons (x : Exchange) (xs : List Exchange) :
    requests (x :: xs) = x.request?.toList ++ requests xs := by
  unfold requests
  cases h : x.request? <;> simp [h]

namespace Vocabulary

open CommandConsole.Action

/-- The request that a call of a built-in command asks for, by the name of the command and what its
arguments stand for: a list of terms and the names of fields, or a star for all of them; an object;
a numeral that denotes a signed word. -/
inductive Asks : String → List String → Request → Prop where
  | searchAll {model fields : String} {rest : List String} {terms : List Json} :
      Text.trim fields.toList = ['*'] →
      Records.DomainOf rest.head? terms →
      Asks "search" (model :: fields :: rest) ⟨model, "search_read", [], [("domain", .arr terms)]⟩
  | search {model fields : String} {rest : List String} {terms : List Json} :
      Text.trim fields.toList ≠ ['*'] →
      Records.DomainOf rest.head? terms →
      Asks "search" (model :: fields :: rest) ⟨model, "search_read", [],
        [("domain", .arr terms), ("fields", .arr ((Records.fieldsOf fields).map .str))]⟩
  | create {model raw : String} {values : Json.Fields} :
      Json.read (Line.normalizeQuotes raw) = .ok (.obj values) →
      Asks "create" [model, raw] ⟨model, "create", [.obj values], []⟩
  | write {model number raw : String} {id : Int} {values : Json.Fields} :
      Number.Denotes number.toList id → -2 ^ 63 ≤ id → id ≤ 2 ^ 63 - 1 →
      Json.read (Line.normalizeQuotes raw) = .ok (.obj values) →
      Asks "write" [model, number, raw] ⟨model, "write", [.arr [.int id], .obj values], []⟩

/-- How a call of a built-in command fails, by what it has asked and heard. -/
inductive FailsAfter (xs : List Exchange) : Fault → Prop where
  | malformed {cause : String} : requests xs = [] → FailsAfter xs (.error (.malformed cause))
  | badAliasName {name : String} : requests xs = [] → FailsAfter xs (.error (.badAliasName name))
  | complaint (front : List Exchange) {x : Exchange} {cause : String} :
      xs = front ++ [x] → x.complaint? = some cause → FailsAfter xs (.error (.remote "" cause))
  | noList {r : Request} {v : Json} :
      xs = [⟨.call r, .ok v⟩] → r.method = "search_read" → v.arr? = none →
      FailsAfter xs (.error (.malformed s!"expected a list of records, got {v.text}"))

/-- How a call of a built-in command goes: what the backend is sent is what the call asks for, and
the call fails in one of the four ways if it does. -/
structure Conduct (name : String) (args : List String) (xs : List Exchange)
    (result : Except Fault Output) : Prop where
  requests : (requests xs = [] ∧ ∀ r, ¬ Asks name args r) ∨
    ∃ r, requests xs = [r] ∧ Asks name args r
  fails : ∀ fault, result = .error fault → FailsAfter xs fault

/-! ## What is asked for -/

section

variable {name model fields number raw : String} {args rest : List String} {r : Request}

theorem not_asks (hname : name ∉ ["search", "create", "write"]) (args : List String)
    (r : Request) : ¬ Asks name args r := by
  intro h
  cases h <;> simp at hname

theorem Asks.readDomain_of_search (h : Asks "search" (model :: fields :: rest) r) :
    ∃ domain, Records.readDomain rest.head? = .ok domain := by
  generalize hname : "search" = name at h
  cases h with
  | searchAll _ hterms => exact ⟨_, Records.readDomain_eq_ok_iff.mpr ⟨_, hterms, rfl⟩⟩
  | search _ hterms => exact ⟨_, Records.readDomain_eq_ok_iff.mpr ⟨_, hterms, rfl⟩⟩
  | create => contradiction
  | write => contradiction

theorem Asks.readValues_of_create (h : Asks "create" args r) :
    ∃ model raw values, args = [model, raw] ∧ Records.readValues raw = .ok values := by
  generalize hname : "create" = name at h
  cases h with
  | searchAll => contradiction
  | search => contradiction
  | create hvalues => exact ⟨_, _, _, rfl, Records.readValues_eq_ok_iff.mpr hvalues⟩
  | write => contradiction

theorem Asks.read_of_write (h : Asks "write" [model, number, raw] r) :
    ∃ id values, Records.readId number = .ok id ∧ Records.readValues raw = .ok values := by
  generalize hname : "write" = name at h
  cases h with
  | searchAll => contradiction
  | search => contradiction
  | write hdenotes hlower hupper hvalues =>
      have hid := Records.readId_eq_ok_iff.mpr ⟨hdenotes, hlower, hupper⟩
      exact ⟨_, _, hid, Records.readValues_eq_ok_iff.mpr hvalues⟩

/-- The request of a search is what the search asks for. -/
theorem asks_searchRequest {domain : Json} (hdomain : Records.readDomain rest.head? = .ok domain) :
    Asks "search" (model :: fields :: rest)
      (searchRequest model (Records.readFields fields) domain) := by
  obtain ⟨terms, hterms, rfl⟩ := Records.readDomain_eq_ok_iff.mp hdomain
  rw [Records.readFields_eq]
  by_cases hall : Text.trim fields.toList = ['*']
  · rw [if_pos hall]
    exact .searchAll hall hterms
  · rw [if_neg hall]
    exact .search hall hterms

end

/-! ## What cannot be read -/

/-- The reading of an argument can only fail over its form. -/
def OnlyMalformed {α : Type} (r : Except CommandError α) : Prop :=
  ∀ e, r = .error e → ∃ cause, e = .malformed cause

theorem onlyMalformed_error {α : Type} (cause : String) :
    OnlyMalformed (.error (.malformed cause) : Except CommandError α) :=
  fun _ h => ⟨cause, (Except.error.inj h).symm⟩

theorem onlyMalformed_ok {α : Type} (a : α) : OnlyMalformed (.ok a) := fun _ h => by contradiction

theorem OnlyMalformed.bind {α β : Type} {r : Except CommandError α} {f : α → Except CommandError β}
    (hr : OnlyMalformed r) (hf : ∀ a, OnlyMalformed (f a)) : OnlyMalformed (r >>= f) := by
  cases r with
  | error e =>
      intro e' h
      have he : e = e' := Except.error.inj h
      exact hr e' (congrArg _ he)
  | ok a => exact hf a

theorem onlyMalformed_readPayload (raw : String) : OnlyMalformed (Records.readPayload raw) := by
  unfold Records.readPayload
  split
  · exact onlyMalformed_ok _
  · exact onlyMalformed_error _

theorem onlyMalformed_readDomain (raw? : Option String) :
    OnlyMalformed (Records.readDomain raw?) := by
  cases raw? with
  | none => exact onlyMalformed_ok _
  | some raw =>
      refine (onlyMalformed_readPayload raw).bind fun v => ?_
      split
      · exact onlyMalformed_ok _
      · exact onlyMalformed_error _

theorem onlyMalformed_readValues (raw : String) : OnlyMalformed (Records.readValues raw) := by
  refine (onlyMalformed_readPayload raw).bind fun v => ?_
  split
  · exact onlyMalformed_ok _
  · exact onlyMalformed_error _

theorem onlyMalformed_readId (number : String) : OnlyMalformed (Records.readId number) := by
  unfold Records.readId
  split
  · exact onlyMalformed_ok _
  · exact onlyMalformed_error _

theorem eq_of_table_error {v : Json} {fields : Option (List String)} {e : CommandError}
    (h : Records.table v fields = .error e) :
    v.arr? = none ∧ e = .malformed s!"expected a list of records, got {v.text}" := by
  cases v with
  | arr rs => contradiction
  | _ => exact ⟨rfl, (Except.error.inj h).symm⟩

/-! ## Ways to go -/

namespace Conduct

variable {name : String} {args : List String} {xs : List Exchange} {r : Request} {output : Output}
  {fault : Fault}

/-- The backend was not asked, and there was nothing to ask it for. -/
theorem ok_of_quiet (hnone : ∀ r, ¬ Asks name args r) (hxs : CommandConsole.requests xs = []) :
    Conduct name args xs (.ok output) :=
  ⟨.inl ⟨hxs, hnone⟩, fun _ h => by contradiction⟩

theorem error_of_quiet (hnone : ∀ r, ¬ Asks name args r) (hxs : CommandConsole.requests xs = [])
    (hfails : FailsAfter xs fault) : Conduct name args xs (.error fault) := by
  refine ⟨.inl ⟨hxs, hnone⟩, fun _ h => ?_⟩
  obtain rfl := Except.error.inj h
  exact hfails

/-- The backend was asked for what the call asks for. -/
theorem ok_of_asked (hasks : Asks name args r) (hxs : CommandConsole.requests xs = [r]) :
    Conduct name args xs (.ok output) :=
  ⟨.inr ⟨r, hxs, hasks⟩, fun _ h => by contradiction⟩

theorem error_of_asked (hasks : Asks name args r) (hxs : CommandConsole.requests xs = [r])
    (hfails : FailsAfter xs fault) : Conduct name args xs (.error fault) := by
  refine ⟨.inr ⟨r, hxs, hasks⟩, fun _ h => ?_⟩
  obtain rfl := Except.error.inj h
  exact hfails

end Conduct

/-! ## The commands, one by one -/

section

variable {name : String} {args : List String}

/-- An argument is read, before anything is asked: a call that asks for something has one that can
be read. -/
theorem conduct_read {α : Type} {x : Except CommandError α} {f : α → Action Output}
    (hx : OnlyMalformed x) (hasks : ∀ r, Asks name args r → ∃ a, x = .ok a)
    (hok : ∀ a, x = .ok a → (f a).run.AllPaths (Conduct name args)) :
    (ofExcept x >>= f).run.AllPaths (Conduct name args) := by
  refine allPaths_ofExcept_bind (fun e he => ?_) hok
  obtain ⟨cause, rfl⟩ := hx e he
  refine .error_of_quiet (fun r hr => ?_) rfl (.malformed rfl)
  obtain ⟨a, ha⟩ := hasks r hr
  rw [ha] at he
  contradiction

/-- The backend is asked for what the call asks for, and has to reply. -/
theorem conduct_request {r : Request} {f : Json → Action Output} (hasks : Asks name args r)
    (hok : ∀ v, (f v).run.AllPaths fun xs result =>
      Conduct name args (⟨.call r, .ok v⟩ :: xs) result) :
    (request r >>= f).run.AllPaths (Conduct name args) := by
  refine allPaths_bind (allPaths_query_bind rfl fun reply => ?_)
  cases reply with
  | error cause => exact allPaths_throw (.error_of_asked hasks rfl (.complaint [] rfl rfl))
  | ok v => exact allPaths_pure (hok v)

theorem conduct_openView (hnone : ∀ r, ¬ Asks name args r) (v : View) :
    (openView v).run.AllPaths (Conduct name args) := by
  refine allPaths_query_bind rfl fun reply => allPaths_expect_bind ?_ fun _ _ => ?_
  · rintro cause rfl
    exact .error_of_quiet hnone rfl (.complaint [] rfl rfl)
  · exact allPaths_pure (.ok_of_quiet hnone rfl)

theorem conduct_help (args : List String) : (help args).run.AllPaths (Conduct "help" args) := by
  have hnone : ∀ r, ¬ Asks "help" args r := not_asks (by decide) args
  refine allPaths_query_bind rfl fun commands => ?_
  cases args <;> exact allPaths_pure (.ok_of_quiet hnone rfl)

theorem conduct_removeAlias (hnone : ∀ r, ¬ Asks name args r) (word : String) :
    (removeAlias word).run.AllPaths (Conduct name args) := by
  refine allPaths_query_bind rfl fun reply => allPaths_expect_bind ?_ fun r? _ => ?_
  · rintro cause rfl
    exact .error_of_quiet hnone rfl (.complaint [] rfl rfl)
  · cases r? with
    | none => exact allPaths_pure (.ok_of_quiet hnone rfl)
    | some record =>
        refine allPaths_query_bind rfl fun reply' => allPaths_expect_bind ?_ fun _ _ => ?_
        · rintro cause rfl
          exact .error_of_quiet hnone rfl (.complaint [_] rfl rfl)
        · exact allPaths_pure (.ok_of_quiet hnone rfl)

/-- The change of an alias, a note of it, and the output. -/
theorem conduct_change (before : List Exchange) (hnone : ∀ r, ¬ Asks name args r)
    (hbefore : requests before = []) (c : Alias.Change) (message : Int → String) (text : String) :
    (do
      let id ← Action.expect (← Action.query (.changeAlias c))
      Action.log .debug (message id)
      return .text text : Action Output).run.AllPaths fun xs r =>
        Conduct name args (before ++ xs) r := by
  have hquiet (reply : Except String Int) :
      requests (before ++ [⟨.changeAlias c, reply⟩]) = [] := by
    rw [requests_append, hbefore]
    rfl
  refine allPaths_query_bind rfl fun reply => allPaths_expect_bind ?_ fun _ _ => ?_
  · rintro cause rfl
    exact .error_of_quiet hnone (hquiet _) (.complaint before rfl rfl)
  · exact allPaths_note_bind (allPaths_pure (.ok_of_quiet hnone (hquiet _)))

theorem conduct_defineAlias (hnone : ∀ r, ¬ Asks name args r) (word command : String) :
    (defineAlias word command).run.AllPaths (Conduct name args) := by
  refine allPaths_query_bind rfl fun commands => ?_
  split
  · exact allPaths_throw (.error_of_quiet hnone rfl (.badAliasName rfl))
  · refine allPaths_query_bind rfl fun reply => allPaths_expect_bind ?_ fun r? _ => ?_
    · rintro cause rfl
      exact .error_of_quiet hnone rfl (.complaint [_] rfl rfl)
    · cases r? with
      | some record => exact conduct_change [_, _] hnone rfl _ _ _
      | none => exact conduct_change [_, _] hnone rfl _ _ _

theorem conduct_setAlias (word command : String) :
    (setAlias [word, command]).run.AllPaths (Conduct "alias" [word, command]) := by
  have hnone : ∀ r, ¬ Asks "alias" [word, command] r := not_asks (by decide) [word, command]
  unfold setAlias
  split
  · split
    · exact conduct_removeAlias hnone _
    · exact conduct_defineAlias hnone _ _
  · rename_i hother
    exact absurd rfl (hother word command)

theorem conduct_search (model fields : String) (rest : List String) :
    (search model fields rest.head?).run.AllPaths (Conduct "search" (model :: fields :: rest)) := by
  refine conduct_read (onlyMalformed_readDomain _) (fun _ h => h.readDomain_of_search)
    fun domain hdomain => ?_
  have hasks : Asks "search" (model :: fields :: rest) _ := asks_searchRequest hdomain
  refine conduct_request hasks fun v => allPaths_note_bind ?_
  cases htable : Records.table v (Records.readFields fields) with
  | ok output => exact allPaths_pure (.ok_of_asked hasks rfl)
  | error e =>
      obtain ⟨hlist, rfl⟩ := eq_of_table_error htable
      exact allPaths_throw (.error_of_asked hasks rfl (.noList rfl rfl hlist))

theorem conduct_create (model : String) {rest : List String} (hrest : rest.length ≤ 1) :
    (create model rest.head?).run.AllPaths (Conduct "create" (model :: rest)) := by
  rcases rest with _ | ⟨raw, _ | ⟨_, _⟩⟩
  · refine conduct_openView (fun r hasks => ?_) _
    obtain ⟨_, _, _, hargs, -⟩ := hasks.readValues_of_create
    simp at hargs
  · refine conduct_read (onlyMalformed_readValues raw) (fun r h => ?_) fun values hvalues => ?_
    · obtain ⟨_, _, values, hargs, hvalues⟩ := h.readValues_of_create
      cases hargs
      exact ⟨values, hvalues⟩
    · have hasks : Asks "create" [model, raw] _ :=
        .create (Records.readValues_eq_ok_iff.mp hvalues)
      exact conduct_request hasks fun v => allPaths_pure (.ok_of_asked hasks rfl)
  · simp at hrest

theorem conduct_write (model number raw : String) :
    (write model number raw).run.AllPaths (Conduct "write" [model, number, raw]) := by
  refine conduct_read (onlyMalformed_readId number) (fun _ h => ?_) fun id hid => ?_
  · obtain ⟨id, _, hid, -⟩ := h.read_of_write
    exact ⟨id, hid⟩
  · refine conduct_read (onlyMalformed_readValues raw) (fun _ h => ?_) fun values hvalues => ?_
    · obtain ⟨_, values, -, hvalues⟩ := h.read_of_write
      exact ⟨values, hvalues⟩
    · obtain ⟨hdenotes, hlower, hupper⟩ := Records.readId_eq_ok_iff.mp hid
      have hasks : Asks "write" [model, number, raw] _ :=
        .write hdenotes hlower hupper (Records.readValues_eq_ok_iff.mp hvalues)
      exact conduct_request hasks fun v => allPaths_pure (.ok_of_asked hasks rfl)

theorem conduct_view (model : String) (raw? : Option String) (args : List String) :
    (view model raw?).run.AllPaths (Conduct "view" args) := by
  have hnone : ∀ r, ¬ Asks "view" args r := not_asks (by decide) args
  cases raw? with
  | none => exact conduct_openView hnone _
  | some raw =>
      exact conduct_read (onlyMalformed_readId raw) (fun r h => absurd h (hnone r))
        fun id _ => conduct_openView hnone _

theorem conduct_debug (mode : String) (args : List String) :
    (debug mode).run.AllPaths (Conduct "debug" args) := by
  have hnone : ∀ r, ¬ Asks "debug" args r := not_asks (by decide) args
  unfold debug
  split
  · exact allPaths_throw (.error_of_quiet hnone rfl (.malformed rfl))
  · exact allPaths_query_bind rfl fun _ => allPaths_pure (.ok_of_quiet hnone rfl)

theorem conduct_clear (args : List String) :
    (return .clear : Action Output).run.AllPaths (Conduct "clear" args) :=
  allPaths_pure (.ok_of_quiet (not_asks (by decide) args) rfl)

theorem conduct_history (args : List String) : history.run.AllPaths (Conduct "history" args) := by
  have hnone : ∀ r, ¬ Asks "history" args r := not_asks (by decide) args
  exact allPaths_query_bind rfl fun _ => allPaths_pure (.ok_of_quiet hnone rfl)

end

/-! ## All of them -/

/-- Commands that are put in are found under their names. -/
theorem name_of_lookup_foldl {ds : List Definition} {registry : Registry}
    (hnames : ∀ name d, registry.lookup name = some d → d.name = name) {name : String}
    {d : Definition} (h : (ds.foldl Registry.register registry).lookup name = some d) :
    d.name = name := by
  induction ds generalizing registry with
  | nil => exact hnames name d h
  | cons e ds ih =>
      refine ih (fun n d hd => ?_) h
      by_cases hname : n = e.name
      · rw [hname, Registry.lookup, Registry.register, Assoc.find?_insert_self] at hd
        rw [hname, ← Option.some.inj hd]
      · rw [Registry.lookup, Registry.register, Assoc.find?_insert_of_ne hname] at hd
        exact hnames n d hd

/-- A built-in command is found under its name. -/
theorem name_of_lookup {name : String} {d : Definition} (h : registry.lookup name = some d) :
    d.name = name :=
  name_of_lookup_foldl (fun _ _ h => by contradiction) h

/-- **How a call of a built-in command goes**, whatever the answers to its questions: it sends the
request that it asks for, if it asks for one, and no other; and it fails in one of four ways, if it
fails. What its signature accepts has all the arguments that it reads. -/
theorem conduct_handler {name : String} {d : Definition} {args : List String}
    (h : registry.lookup name = some d)
    (haccepts : d.signature.accepts (args.map String.toList) = true) :
    (d.handler args).run.AllPaths (Conduct name args) := by
  have hlength := Signature.length_of_accepts haccepts
  rw [List.length_map] at hlength
  have hd : d ∈ commands := (mem_of_lookup_foldl h).resolve_right (fun h => by contradiction)
  obtain rfl := name_of_lookup h
  simp only [commands, List.mem_cons, List.not_mem_nil, or_false] at hd
  rcases hd with rfl | rfl | rfl | rfl | rfl | rfl | rfl | rfl | rfl
  · exact conduct_help args
  · have htwo : args.length = 2 := Nat.le_antisymm hlength.2 hlength.1
    obtain ⟨word, command, rfl⟩ := List.length_eq_two.mp htwo
    exact conduct_setAlias word command
  · have htwo : 2 ≤ args.length := hlength.1
    obtain ⟨model, args, rfl⟩ := List.exists_cons_of_length_pos (Nat.lt_of_succ_lt htwo)
    obtain ⟨fields, rest, rfl⟩ := List.exists_cons_of_length_pos (Nat.lt_of_succ_lt_succ htwo)
    exact conduct_search model fields rest
  · obtain ⟨model, rest, rfl⟩ := List.exists_cons_of_length_pos hlength.1
    exact conduct_create model (Nat.le_of_succ_le_succ hlength.2)
  · have hthree : args.length = 3 := Nat.le_antisymm hlength.2 hlength.1
    obtain ⟨model, number, raw, rfl⟩ := List.length_eq_three.mp hthree
    exact conduct_write model number raw
  · obtain ⟨model, rest, rfl⟩ := List.exists_cons_of_length_pos hlength.1
    exact conduct_view model rest.head? _
  · exact conduct_clear args
  · exact conduct_history args
  · obtain ⟨mode, rest, rfl⟩ := List.exists_cons_of_length_pos hlength.1
    exact conduct_debug mode _

/-- What a call that fails comes to: one of the four failures, blamed on the command. -/
theorem Conduct.fails_of_settle {name : String} {args : List String} {xs : List Exchange}
    {result : Except Fault Output} {e : CommandError} (h : Conduct name args xs result)
    (hsettle : Dispatch.settle name result = .error e) :
    ∃ e', FailsAfter xs (.error e') ∧ e = e'.blame name := by
  match result with
  | .ok output => contradiction
  | .error (.error e') => exact ⟨e', h.fails _ rfl, (Except.error.inj hsettle).symm⟩
  | .error (.panic message) =>
      -- no call panics
      have hpanic : FailsAfter xs (.panic message) := h.fails _ rfl
      contradiction

end Vocabulary

end CommandConsole
