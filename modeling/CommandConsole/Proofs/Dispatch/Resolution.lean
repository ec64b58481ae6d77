import CommandConsole.Proofs.Dispatch.Chain
import CommandConsole.Proofs.Session.Paths

/-!
# Paths through a line

What can become of a line when the store of aliases may say anything: it leads through the aliases
that the store has brought up to a last line (`Leads`), and the last line comes to its outcome
(`Comes`). Every path through a line is one of the first kind and then one of the second
(`path_executeWithin`), so what holds of a line in general is shown by looking at its last line.

In contrast to a chain of lines on a session, nothing here says what the store holds.
-/

set_option autoImplicit false

namespace CommandConsole.Dispatch

/-- A line leads to another one by what the store says: its first token is no command, the store
has an alias for it, and so on with the line that the alias stands for. -/
inductive Leads (registry : Registry) : String → List Exchange → String → Prop where
  | stay (line : String) : Leads registry line [] line
  | expand {line name last : String} {args : List String} {record : Alias.Record}
      {xs : List Exchange} :
      Line.tokenize line = name :: args →
      registry.lookup name = none →
      Leads registry (Line.substitute record.command args) xs last →
      Leads registry line (⟨.findAlias name, .ok (some record)⟩ :: xs) last

/-- A line is a call of a command: it starts with the name of the command, which takes the other
tokens. -/
structure Calls (registry : Registry) (line : String) (d : Definition) (args : List String) :
    Prop where
  tokens : ∃ name, Line.tokenize line = name :: args ∧ registry.lookup name = some d
  accepts : d.signature.accepts (args.map String.toList) = true

/-- What a line comes to that stands for no other line, with so many expansions behind it: what is
asked, with the answers, and the outcome. -/
inductive Comes (registry : Registry) (limit depth : Nat) (line : String) :
    List Exchange → Outcome → Prop where
  | blank :
      Line.tokenize line = [] →
      Comes registry limit depth line [] (.ok .none)
  | refused {name : String} {args : List String} {d : Definition} :
      Line.tokenize line = name :: args →
      registry.lookup name = some d →
      d.signature.accepts (args.map String.toList) = false →
      Comes registry limit depth line [] (.error (.badArguments d.name d.usage))
  | called {d : Definition} {args : List String} {xs : List Exchange}
      {result : Except Fault Output} :
      Calls registry line d args →
      (d.handler args).run.Path xs result →
      Comes registry limit depth line xs (settle d.name result)
  | tooDeep {name : String} {args : List String} :
      Line.tokenize line = name :: args →
      registry.lookup name = none →
      depth = limit →
      Comes registry limit depth line [] (.error (.aliasTooDeep name limit))
  | storeFailed {name cause : String} {args : List String} :
      Line.tokenize line = name :: args →
      registry.lookup name = none →
      depth < limit →
      Comes registry limit depth line [⟨.findAlias name, .error cause⟩]
        (.error (.remote name cause))
  | unknown {name : String} {args : List String} :
      Line.tokenize line = name :: args →
      registry.lookup name = none →
      depth < limit →
      Comes registry limit depth line [⟨.findAlias name, .ok none⟩] (.error (.notFound name))

variable {registry : Registry} {limit depth left : Nat} {line : String} {xs : List Exchange}
  {outcome : Outcome}

/-- The dispatcher calls a command, or tells that it refuses the arguments. -/
theorem path_call {name : String} {args : List String} {d : Definition}
    (htokens : Line.tokenize line = name :: args) (hname : registry.lookup name = some d)
    (h : (call d args).Path xs outcome) : Comes registry limit depth line xs outcome := by
  cases haccepts : d.signature.accepts (args.map String.toList) with
  | false =>
      rw [call_of_refused haccepts, Task.path_note_bind, Task.path_pure] at h
      obtain ⟨rfl, rfl⟩ := h
      exact .refused htokens hname haccepts
  | true =>
      rw [call_of_accepted haccepts, Task.path_note_bind, Task.path_bind] at h
      obtain ⟨xs, result, ys, rfl, hhandler, hsettle⟩ := h
      obtain ⟨rfl, rfl⟩ := Task.path_pure.mp hsettle
      rw [List.append_nil]
      exact .called ⟨⟨name, htokens, hname⟩, haccepts⟩ hhandler

/-- A line that does not start with the name of an alias comes to its outcome by itself. -/
theorem comes_or_unregistered (h : (executeWithin registry limit left line).Path xs outcome) :
    Comes registry limit depth line xs outcome ∨
      ∃ name args, Line.tokenize line = name :: args ∧ registry.lookup name = none := by
  rcases htokens : Line.tokenize line with _ | ⟨name, args⟩
  · rw [executeWithin_of_blank left htokens, Task.path_pure] at h
    obtain ⟨rfl, rfl⟩ := h
    exact .inl (.blank htokens)
  · cases hname : registry.lookup name with
    | some d =>
        rw [executeWithin_of_registered left htokens hname] at h
        exact .inl (path_call htokens hname h)
    | none => exact .inr ⟨name, args, rfl, hname⟩

/-- **Every path through a line** leads to a last line, and is then a path through that. The
induction is on the number of aliases that may still be expanded. -/
theorem path_executeWithin (hleft : depth + left = limit)
    (h : (executeWithin registry limit left line).Path xs outcome) :
    ∃ front back last, xs = front ++ back ∧ Leads registry line front last ∧
      Comes registry limit (depth + front.length) last back outcome := by
  induction left generalizing depth line xs with
  | zero =>
      refine ⟨[], xs, line, rfl, .stay line, ?_⟩
      rcases comes_or_unregistered h with hcomes | ⟨name, args, htokens, hname⟩
      · exact hcomes
      · rw [executeWithin_zero htokens hname, Task.path_pure] at h
        obtain ⟨rfl, rfl⟩ := h
        exact .tooDeep htokens hname hleft
  | succ left ih =>
      rcases comes_or_unregistered h with hcomes | ⟨name, args, htokens, hname⟩
      · exact ⟨[], xs, line, rfl, .stay line, hcomes⟩
      · rw [executeWithin_succ left htokens hname, Task.path_query_bind rfl] at h
        obtain ⟨reply, ys, rfl, hresume⟩ := h
        have hlt : depth < limit := by omega
        have hrest : depth + 1 + left = limit := by omega
        -- the store has complained, or has no such alias, or has brought one up
        rcases reply with cause | _ | record
        · obtain ⟨rfl, rfl⟩ := Task.path_pure.mp hresume
          exact ⟨[], _, line, rfl, .stay line, .storeFailed htokens hname hlt⟩
        · obtain ⟨rfl, rfl⟩ := Task.path_pure.mp (Task.path_note_bind.mp hresume)
          exact ⟨[], _, line, rfl, .stay line, .unknown htokens hname hlt⟩
        · obtain ⟨front, back, last, rfl, hleads, hcomes⟩ :=
            ih hrest (Task.path_note_bind.mp hresume)
          refine ⟨_ :: front, back, last, rfl, .expand htokens hname hleads, ?_⟩
          rwa [List.length_cons, Nat.add_comm _ 1, ← Nat.add_assoc]

/-- A line is a call of one command, with one list of arguments. -/
theorem Calls.unique {d d' : Definition} {args args' : List String}
    (h : Calls registry line d args) (h' : Calls registry line d' args') :
    d = d' ∧ args = args' := by
  obtain ⟨name, htokens, hname⟩ := h.tokens
  obtain ⟨name', htokens', hname'⟩ := h'.tokens
  obtain ⟨rfl, rfl⟩ := List.cons.inj (htokens.symm.trans htokens')
  exact ⟨Option.some.inj (hname.symm.trans hname'), rfl⟩

/-- A line comes to its end on every session, along a path, if no command runs a line. -/
theorem exists_path_of_execute (s : Session) (hregistry : s.registry.RunsNoLines) (line : String) :
    ∃ outcome s', s.execute line = some (outcome, s') ∧
      (execute s.registry s.aliasLimit line).Path
        (s.transcript (execute s.registry s.aliasLimit line)) outcome := by
  obtain ⟨⟨outcome, s'⟩, hrun⟩ :=
    Session.exists_run (runsNoLine_executeWithin hregistry s.aliasLimit line) s
  exact ⟨outcome, s', hrun, Session.path_of_run hrun⟩

end CommandConsole.Dispatch
