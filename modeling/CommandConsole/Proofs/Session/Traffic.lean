import CommandConsole.Proofs.Conduct
import CommandConsole.Proofs.Dispatch.Resolution
import CommandConsole.Proofs.Session.Configuration

/-!
# What a backend is sent

On a session whose aliases are in a table, the backend hears of nothing but the requests of the
commands: behind a run it is what it has become by these requests, one after another
(`backend_of_runWith`). With the built-in commands alone that is one request at most, the one that
the last line of a chain of aliases asks for, and every other line costs the backend nothing
(`traffic_of_execute`). So a line that fails over its name, its arguments, its aliases or a payload
has not reached the backend, whatever the backend would have replied; the one complaint about a
form that comes later is about the reply to a search.
-/

set_option autoImplicit false

namespace CommandConsole

/-- A backend behind a request. -/
def Backend.after : Backend → Request → Backend
  | .records store, r => .records (store.answer r).2
  | .script replies received, r => .script replies.tail (received ++ [r])
  | .program host name args, _ => .program host name args

/-- An error about the line itself: a name that nobody knows, arguments that a command refuses, too
many aliases, or a name that an alias cannot have. -/
def CommandError.OfLine : CommandError → Prop
  | .notFound _ => True
  | .badArguments _ _ => True
  | .aliasTooDeep _ _ => True
  | .badAliasName _ => True
  | _ => False

/-! ## Backends -/

namespace Session

/-- The aliases of a session are in a table, with or without a file that follows it. -/
def AliasesInMemory (s : Session) : Prop := ∃ store, s.aliases = .memory store

/-- The requests that a line sends to the backend, in order. -/
def sent (s : Session) (line : String) : List Request :=
  requests (s.transcript (s.taskOf line))

variable {s s' : Session}

theorem backend_callBackend (s : Session) (r : Request) :
    (s.callBackend r).2.backend = s.backend.after r := by
  unfold callBackend
  cases hbackend : s.backend with
  | records store => rfl
  | script replies received => cases replies <;> rfl
  | program host name args =>
      dsimp only
      cases host.call name args r <;> simp [hbackend, Backend.after]

/-- **One question**: the backend hears of it if it is a request, and the aliases stay in a
table. -/
theorem backend_of_answer {nesting : Nat} {q : Query} (hq : q.RunsNoLine) (h : s.AliasesInMemory)
    {a : q.Answer} (ha : answer nesting q s = some (a, s')) :
    s'.AliasesInMemory ∧ s'.backend = (requests [⟨q, a⟩]).foldl Backend.after s.backend := by
  obtain ⟨store, hstore⟩ := h
  have hplain (hq : q.Plain) (hcall : ∀ r, q ≠ .call r) :
      s'.AliasesInMemory ∧ s'.backend = s.backend := by
    obtain ⟨a', s₁, ha', hsetup, hbackend⟩ := exists_answer_plain hq nesting s
    obtain ⟨-, rfl⟩ := Prod.mk.inj (Option.some.inj (ha'.symm.trans ha))
    exact ⟨⟨store, hsetup.aliases.trans hstore⟩, hbackend hcall⟩
  rw [answer_zero hq] at ha
  cases q with
  | execute line => exact hq.elim
  | call r =>
      obtain rfl : (s.callBackend r).2 = s' := congrArg Prod.snd (Option.some.inj ha)
      exact ⟨⟨store, (sameSetup_callBackend s r).aliases.trans hstore⟩, backend_callBackend s r⟩
  | findAlias name =>
      obtain rfl : (s.findAlias name).2 = s' := congrArg Prod.snd (Option.some.inj ha)
      rw [findAlias_of_memory hstore]
      exact ⟨⟨store, hstore⟩, rfl⟩
  | changeAlias c =>
      obtain rfl : (s.changeAlias c).2 = s' := congrArg Prod.snd (Option.some.inj ha)
      simp only [changeAlias, hstore]
      exact ⟨⟨_, rfl⟩, rfl⟩
  | _ => exact hplain trivial (fun _ h => by contradiction)

/-- **A run**: the backend becomes what the requests make of it, one after another. The induction is
on the questions of the task. -/
theorem backend_of_runWith {α : Type} {nesting : Nat} {t : Task α}
    (ht : t.AllQueries Query.RunsNoLine) (h : s.AliasesInMemory) {a : α}
    (hrun : runWith (answer nesting) t s = some (a, s')) :
    s'.AliasesInMemory ∧ s'.backend =
      (requests (transcriptWith (answer nesting) t s)).foldl Backend.after s.backend := by
  induction t generalizing s with
  | done b =>
      obtain ⟨-, rfl⟩ := Prod.mk.inj (Option.some.inj hrun)
      exact ⟨h, rfl⟩
  | ask q next ih =>
      obtain ⟨hq, hnext⟩ := ht
      unfold runWith at hrun
      split at hrun
      · rename_i reply s₁ hreply
        obtain ⟨h₁, hbackend₁⟩ := backend_of_answer hq h hreply
        obtain ⟨h', hbackend⟩ := ih reply (hnext reply) h₁ hrun
        refine ⟨h', ?_⟩
        rw [transcriptWith_ask hreply, hbackend, hbackend₁, ← List.foldl_append, ← requests_append]
        -- a note does not show on the transcript, and is no request
        cases q <;> rfl
      · contradiction

end Session

/-! ## Lines -/

namespace Dispatch

open Vocabulary

variable {limit depth : Nat} {line last : String} {xs : List Exchange} {outcome : Outcome}

/-- Nothing is sent on the way to the last line. -/
theorem Leads.requests_eq_nil {registry : Registry} (h : Leads registry line xs last) :
    requests xs = [] := by
  induction h with
  | stay line => rfl
  | expand _ _ _ ih => rw [requests_cons, ih]; rfl

/-- What the last line sends, with the built-in commands alone: what it asks for, if it asks for
something. Errors about the line come before that, and so do all complaints about the form of an
argument. -/
structure Sends (line : String) (xs : List Exchange) (outcome : Outcome) : Prop where
  asked : (requests xs = [] ∧ ∀ d args r, Calls Vocabulary.registry line d args →
      ¬ Asks d.name args r) ∨
    ∃ d args r, Calls Vocabulary.registry line d args ∧ Asks d.name args r ∧ requests xs = [r]
  early : ∀ e, outcome = .error e → e.OfLine → requests xs = []
  malformed : ∀ cause, outcome = .error (.malformed cause) → requests xs = [] ∨
    ∃ r v, xs = [⟨.call r, .ok v⟩] ∧ r.method = "search_read" ∧ v.arr? = none ∧
      cause = s!"expected a list of records, got {v.text}"

/-- A line that is no call sends nothing. -/
theorem Sends.of_not_calls (hxs : requests xs = [])
    (hnone : ∀ d args, ¬ Calls Vocabulary.registry line d args) : Sends line xs outcome :=
  ⟨.inl ⟨hxs, fun d args _ h => absurd h (hnone d args)⟩, fun _ _ _ => hxs, fun _ _ => .inl hxs⟩

theorem not_calls_of_unregistered {registry : Registry} {name : String} {words args : List String}
    {d : Definition} (htokens : Line.tokenize line = name :: words)
    (hname : registry.lookup name = none) : ¬ Calls registry line d args := by
  rintro ⟨⟨name', htokens', hname'⟩, -⟩
  obtain ⟨rfl, -⟩ := List.cons.inj (htokens.symm.trans htokens')
  rw [hname] at hname'
  contradiction

/-- A call of a built-in command sends what it asks for. -/
theorem Calls.sends {d : Definition} {args : List String} {result : Except Fault Output}
    (h : Calls Vocabulary.registry line d args) (hpath : (d.handler args).run.Path xs result) :
    Sends line xs (settle d.name result) := by
  obtain ⟨name, -, hname⟩ := h.tokens
  have hconduct := conduct_handler hname h.accepts xs result hpath
  obtain rfl := name_of_lookup hname
  constructor
  · rcases hconduct.requests with ⟨hxs, hnone⟩ | ⟨r, hxs, hasks⟩
    · refine .inl ⟨hxs, fun d' args' r h' => ?_⟩
      obtain ⟨rfl, rfl⟩ := h.unique h'
      exact hnone r
    · exact .inr ⟨d, args, r, h, hasks, hxs⟩
  · intro e he hline
    obtain ⟨e', hfails, rfl⟩ := hconduct.fails_of_settle he
    cases hfails with
    | malformed hxs => exact hxs
    | badAliasName hxs => exact hxs
    | complaint _ _ _ => exact hline.elim
    | noList _ _ _ => exact hline.elim
  · intro cause he
    obtain ⟨e', hfails, heq⟩ := hconduct.fails_of_settle he
    cases hfails with
    | malformed hxs => exact .inl hxs
    | badAliasName hxs => exact .inl hxs
    | complaint _ _ _ => contradiction
    | noList hxs hsearch hlist =>
        exact .inr ⟨_, _, hxs, hsearch, hlist, CommandError.malformed.inj heq⟩

theorem Comes.sends (h : Comes Vocabulary.registry limit depth line xs outcome) :
    Sends line xs outcome := by
  cases h with
  | blank htokens =>
      refine .of_not_calls rfl fun d args hcalls => ?_
      obtain ⟨name, htokens', -⟩ := hcalls.tokens
      simp [htokens] at htokens'
  | refused htokens hname haccepts =>
      refine .of_not_calls rfl fun d args hcalls => ?_
      obtain ⟨name, htokens', hname'⟩ := hcalls.tokens
      obtain ⟨rfl, rfl⟩ := List.cons.inj (htokens.symm.trans htokens')
      obtain rfl := Option.some.inj (hname.symm.trans hname')
      exact absurd hcalls.accepts (by simp [haccepts])
  | called hcalls hpath => exact hcalls.sends hpath
  | tooDeep htokens hname _ =>
      exact .of_not_calls rfl fun _ _ => not_calls_of_unregistered htokens hname
  | storeFailed htokens hname _ =>
      exact .of_not_calls rfl fun _ _ => not_calls_of_unregistered htokens hname
  | unknown htokens hname _ =>
      exact .of_not_calls rfl fun _ _ => not_calls_of_unregistered htokens hname

end Dispatch

namespace Session

open Dispatch Vocabulary

/-- **What the backend is sent by a line**, on a session with the built-in commands alone and with
its aliases in a table, whatever the backend replies. Through the aliases that are there the line
leads to a last line. If that is a call that asks for something, this is the one request that is
sent; otherwise none is. The backend is left as this request leaves it. A line that fails with an
error about the line has sent nothing, and so has one that fails over the form of something, unless
that is the reply to its search, which is no list. -/
theorem traffic_of_execute {s : Session} {store : Alias.MemoryStore}
    (hregistry : s.registry = Vocabulary.registry) (haliases : s.aliases = .memory store)
    (line : String) :
    ∃ outcome s' front back last,
      s.execute line = some (outcome, s') ∧
      s'.backend = (s.sent line).foldl Backend.after s.backend ∧
      s.transcript (s.taskOf line) = front ++ back ∧
      Leads Vocabulary.registry line front last ∧
      ((s.sent line = [] ∧
          ∀ d args r, Calls Vocabulary.registry last d args → ¬ Asks d.name args r) ∨
        ∃ d args r, Calls Vocabulary.registry last d args ∧ Asks d.name args r ∧
          s.sent line = [r]) ∧
      (∀ e, outcome = .error e → e.OfLine → s.sent line = []) ∧
      ∀ cause, outcome = .error (.malformed cause) → s.sent line = [] ∨
        ∃ r v, back = [⟨.call r, .ok v⟩] ∧ r.method = "search_read" ∧ v.arr? = none ∧
          cause = s!"expected a list of records, got {v.text}" := by
  have hquestions : (s.taskOf line).AllQueries Query.RunsNoLine := by
    rw [taskOf, hregistry]
    exact runsNoLine_executeWithin Vocabulary.runsNoLines _ line
  obtain ⟨outcome, s', hrun, hend⟩ :=
    exists_path_of_execute s (hregistry ▸ Vocabulary.runsNoLines) line
  obtain ⟨-, hbackend⟩ := backend_of_runWith hquestions ⟨store, haliases⟩ hrun
  have hpath : (Dispatch.execute Vocabulary.registry s.aliasLimit line).Path
      (s.transcript (s.taskOf line)) outcome := by
    rw [← hregistry]
    exact hend
  obtain ⟨front, back, last, htranscript, hleads, hcomes⟩ :=
    path_executeWithin (Nat.zero_add _) hpath
  have hsent : s.sent line = requests back := by
    rw [sent, htranscript, requests_append, hleads.requests_eq_nil, List.nil_append]
  obtain ⟨hasked, hearly, hmalformed⟩ := hcomes.sends
  rw [← hsent] at hasked hearly hmalformed
  exact ⟨outcome, s', front, back, last, hrun, hbackend, htranscript, hleads, hasked, hearly,
    hmalformed⟩

/-- A session with an alias that rewrites notes, whose backend has an empty list for one request. -/
def agreeable : Session :=
  { start with
    registry := Vocabulary.registry
    backend := .script [.ok (.arr [])] []
    aliases := .memory ⟨.ofCommands [("rewrite", "write note $1 $2")], none⟩ }

/-- There a line comes to an output, and leads to a call that asks for a request, which is all that
the backend has received. -/
def Delivers (line : String) (output : Output) (r : Request) : Prop :=
  ∃ s' front last d args, agreeable.execute line = some (.ok output, s') ∧
    Leads Vocabulary.registry line front last ∧ Calls Vocabulary.registry last d args ∧
    Asks d.name args r ∧ agreeable.sent line = [r] ∧ s'.backend = .script [] [r]

/-- What is typed is what is asked for, in each of the four ways to ask for something. The first of
the lines goes through the alias. -/
theorem traffic_of_execute_agreeable :
    agreeable.registry = Vocabulary.registry ∧ (∃ store, agreeable.aliases = .memory store) ∧
      Delivers "rewrite 9 \"\x7b'text': 'it is new', 'done': true\x7d\""
        (.text "note record 9 updated")
        ⟨"note", "write",
          [.arr [.int 9], .obj [("done", .bool true), ("text", .str "it is new")]], []⟩ ∧
      Delivers "create note '\x7b\"text\": \"a\"\x7d'" (.text "note record created with id ")
        ⟨"note", "create", [.obj [("text", .str "a")]], []⟩ ∧
      Delivers "search note 'text, done' \"[['done', '=', false]]\""
        (.table ["ID", "TEXT", "DONE"] [])
        ⟨"note", "search_read", [], [("domain", .arr [.arr [.str "done", .str "=", .bool false]]),
          ("fields", .arr [.str "text", .str "done"])]⟩ ∧
      Delivers "search note *" (.table ["ID"] [])
        ⟨"note", "search_read", [], [("domain", .arr [])]⟩ := by
  have hdelivers {line : String} {output : Output} {r : Request}
      (heval : (agreeable.execute line).map Prod.fst = some (.ok output))
      (hone : agreeable.sent line = [r]) : Delivers line output r := by
    obtain ⟨outcome, s', front, back, last, hrun, hbackend, -, hleads, hasked, -, -⟩ :=
      traffic_of_execute (s := agreeable) rfl rfl line
    rw [hrun] at heval
    obtain rfl := Option.some.inj heval
    rcases hasked with ⟨hnone, -⟩ | ⟨d, args, r', hcalls, hasks, hsent⟩
    · simp [hnone] at hone
    · obtain rfl := List.singleton_inj.mp (hsent.symm.trans hone)
      rw [hsent] at hbackend
      exact ⟨s', front, last, d, args, hrun, hleads, hcalls, hasks, hsent, hbackend⟩
  exact ⟨rfl, ⟨_, rfl⟩, hdelivers (by decide +kernel) rfl, hdelivers (by decide +kernel) rfl,
    hdelivers (by decide +kernel) rfl, hdelivers (by decide +kernel) rfl⟩

end Session

end CommandConsole
