import CommandConsole.Proofs.Conduct
import CommandConsole.Proofs.Dispatch.Resolution

/-!
# Who is blamed for a complaint

The backend, the store of aliases and the opener of views may answer anything, and a line goes on
with what they answer or fails over it. With the built-in commands alone a complaint is the last
thing that a line hears, and its text is passed on as it is: with the name of the command that was
called in the end, or with the name that was being looked up (`Blames`). The other failures are
those that commands mean to report. No call panics, since no command reads an argument that is not
there (`never_panics`). `blame_of_path` says so for every line and all answers.
-/

set_option autoImplicit false

namespace CommandConsole

/-- An error that is no failure of the console itself: neither a command that broke down nor a
signature that cannot be read. -/
def CommandError.Reported : CommandError → Prop
  | .execution _ _ => False
  | .badSignature _ _ => False
  | _ => True

namespace Dispatch

open Vocabulary

/-- Who is blamed for a complaint, by the last line and what was asked for it: the command that the
line calls, which heard the complaint last, or the name that the line starts with, if the store of
aliases complained when it was looked up. -/
inductive Blames (last : String) (xs : List Exchange) (name cause : String) : Prop where
  | call {d : Definition} {args : List String} {front : List Exchange} {x : Exchange} :
      Calls Vocabulary.registry last d args →
      Vocabulary.registry.lookup name = some d →
      xs = front ++ [x] →
      x.complaint? = some cause →
      Blames last xs name cause
  | lookup {args : List String} :
      Line.tokenize last = name :: args →
      Vocabulary.registry.lookup name = none →
      xs = [⟨.findAlias name, .error cause⟩] →
      Blames last xs name cause

variable {limit depth : Nat} {line last : String} {xs : List Exchange} {outcome : Outcome}
  {e : CommandError}

/-- **No call of a built-in command panics**, whatever the answers to its questions. -/
theorem never_panics {name : String} {d : Definition} {args : List String}
    (hname : Vocabulary.registry.lookup name = some d)
    (haccepts : d.signature.accepts (args.map String.toList) = true) :
    (d.handler args).run.AllResults fun result => ∀ message, result ≠ .error (.panic message) := by
  refine Task.AllPaths.allResults fun xs result hpath message hresult => ?_
  have hpanic := (conduct_handler hname haccepts xs result hpath).fails _ hresult
  contradiction

/-- A call of a built-in command fails over a complaint, or for what it means to report. -/
theorem Calls.blames {d : Definition} {args : List String} {result : Except Fault Output}
    (h : Calls Vocabulary.registry last d args) (hpath : (d.handler args).run.Path xs result)
    (he : settle d.name result = .error e) :
    e.Reported ∧ ∀ name cause, e = .remote name cause → Blames last xs name cause := by
  obtain ⟨name, -, hname⟩ := h.tokens
  have hconduct := conduct_handler hname h.accepts xs result hpath
  obtain rfl := name_of_lookup hname
  obtain ⟨e', hfails, rfl⟩ := hconduct.fails_of_settle he
  cases hfails with
  | malformed _ => exact ⟨trivial, fun _ _ h => by contradiction⟩
  | badAliasName _ => exact ⟨trivial, fun _ _ h => by contradiction⟩
  | noList _ _ _ => exact ⟨trivial, fun _ _ h => by contradiction⟩
  | complaint _ hxs hx =>
      refine ⟨trivial, fun name cause hremote => ?_⟩
      obtain ⟨rfl, rfl⟩ := CommandError.remote.inj hremote
      exact .call h hname hxs hx

theorem Comes.blames (h : Comes Vocabulary.registry limit depth last xs outcome)
    (he : outcome = .error e) :
    e.Reported ∧ ∀ name cause, e = .remote name cause → Blames last xs name cause := by
  cases h with
  | blank _ => contradiction
  | refused _ _ _ =>
      obtain rfl := Except.error.inj he
      exact ⟨trivial, fun _ _ h => by contradiction⟩
  | called hcalls hpath => exact hcalls.blames hpath he
  | tooDeep _ _ _ =>
      obtain rfl := Except.error.inj he
      exact ⟨trivial, fun _ _ h => by contradiction⟩
  | storeFailed htokens hname _ =>
      obtain rfl := Except.error.inj he
      refine ⟨trivial, fun name cause hremote => ?_⟩
      obtain ⟨rfl, rfl⟩ := CommandError.remote.inj hremote
      exact .lookup htokens hname rfl
  | unknown _ _ _ =>
      obtain rfl := Except.error.inj he
      exact ⟨trivial, fun _ _ h => by contradiction⟩

/-- **Complaints are passed on as they are, with the name they are about**, and nothing else goes
wrong. With the built-in commands alone, every line comes to its end on every session, along a path,
and no call that a signature accepts panics, whatever the answers. Along each path a line leads by
what the store says to a last line, and does not come to the error of a command that broke down or
of a signature that cannot be read. If it comes to a complaint, then a collaborator has just made
that complaint, word for word: to the command that the last line calls, whose name the error has,
or, when the first name of the last line was looked up in the store, about that name. -/
theorem blame_of_path (limit : Nat) (line : String) :
    (∀ s : Session, s.registry = Vocabulary.registry → s.aliasLimit = limit →
      ∃ outcome s', s.execute line = some (outcome, s') ∧
        (execute Vocabulary.registry limit line).Path
          (s.transcript (execute Vocabulary.registry limit line)) outcome) ∧
    (∀ name d args, Vocabulary.registry.lookup name = some d →
      d.signature.accepts (args.map String.toList) = true →
        (d.handler args).run.AllResults fun result =>
          ∀ message, result ≠ .error (.panic message)) ∧
    ∀ xs outcome, (execute Vocabulary.registry limit line).Path xs outcome →
      (∀ command cause, outcome ≠ .error (.execution command cause)) ∧
      (∀ signature reason, outcome ≠ .error (.badSignature signature reason)) ∧
      ∃ front back last, xs = front ++ back ∧ Leads Vocabulary.registry line front last ∧
        ∀ name cause, outcome = .error (.remote name cause) → Blames last back name cause := by
  refine ⟨fun s hregistry hlimit => ?_, fun name d args => never_panics, fun xs outcome hpath => ?_⟩
  · have hpath := exists_path_of_execute s (hregistry ▸ Vocabulary.runsNoLines) line
    rwa [hregistry, hlimit] at hpath
  · obtain ⟨front, back, last, hxs, hleads, hcomes⟩ := path_executeWithin (Nat.zero_add _) hpath
    refine ⟨fun command cause he => ?_, fun signature reason he => ?_,
      front, back, last, hxs, hleads, fun name cause he => ?_⟩
    · exact (hcomes.blames he).1
    · exact (hcomes.blames he).1
    · exact (hcomes.blames he).2 name cause rfl

/-- A session with an alias that rewrites notes, whose backend will refuse the first request. -/
def unwilling : Session :=
  { Session.start with
    registry := Vocabulary.registry
    backend := .script [.error "Access Denied"] []
    aliases := .memory ⟨.ofCommands [("rewrite", "write note $1 $2")], none⟩ }

/-- The refusal is blamed on the command, not on the alias that led to it. -/
theorem blame_of_path_refusal :
    ∃ xs, (execute Vocabulary.registry 8 "rewrite 9 {}").Path xs
        (.error (.remote "write" "Access Denied")) ∧
      ∃ front back last, xs = front ++ back ∧
        Leads Vocabulary.registry "rewrite 9 {}" front last ∧
        Blames last back "write" "Access Denied" := by
  have heval : (unwilling.execute "rewrite 9 {}").map Prod.fst =
      some (.error (.remote "write" "Access Denied")) := by
    decide +kernel
  obtain ⟨⟨outcome, s'⟩, hrun, rfl⟩ := Option.map_eq_some_iff.mp heval
  have hpath := Session.path_of_run hrun
  obtain ⟨-, -, front, back, last, hxs, hleads, hblames⟩ :=
    (blame_of_path 8 "rewrite 9 {}").2.2 _ _ hpath
  exact ⟨_, hpath, front, back, last, hxs, hleads, hblames _ _ rfl⟩

end Dispatch

end CommandConsole
