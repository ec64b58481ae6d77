import CommandConsole.Proofs.Session.Runs

/-!
# What no answer depends on

Two parts of a session are apart from what its commands see: the limit on aliases is for the
dispatcher alone, and the log is only written. So an answer is the same on a session with another
limit and with notes in front of its log, and the session behind it differs by just these
(`answer_apart`). The exception is a question that runs a line, which goes through the dispatcher.
-/

set_option autoImplicit false

namespace CommandConsole.Session

/-- A session with its limit changed and with notes in front of its log. -/
def apart (s : Session) (g : Nat → Nat) (notes : List LogEntry) : Session :=
  { s with aliasLimit := g s.aliasLimit, log := notes ++ s.log }

variable (g : Nat → Nat) (notes : List LogEntry) (s : Session)

theorem report_apart (level : LogLevel) (message : String) :
    (s.apart g notes).report level message = (s.report level message).apart g notes := by
  by_cases h : level.shownAt s.level = true
  · simp [report, apart, h]
  · simp [report, apart, h]

theorem callBackend_apart (r : Request) :
    (s.apart g notes).callBackend r =
      ((s.callBackend r).1, (s.callBackend r).2.apart g notes) := by
  have hsame : (s.apart g notes).backend = s.backend := rfl
  rw [callBackend, callBackend, hsame]
  cases s.backend with
  | records store =>
      simp only [report_apart]
      rfl
  | script replies received => cases replies <;> rfl
  | program host name args =>
      simp only [report_apart]
      cases host.call name args r <;> rfl

theorem callAliases_apart (r : Request) :
    (s.apart g notes).callAliases r =
      ((s.callAliases r).1, (s.callAliases r).2.apart g notes) := by
  have hsame : (s.apart g notes).aliases = s.aliases := rfl
  rw [callAliases, callAliases, hsame]
  cases s.aliases with
  | memory store => exact callBackend_apart g notes s r
  | backend => exact callBackend_apart g notes s r
  | records store =>
      simp only [report_apart]
      rfl

theorem findAlias_apart (name : String) :
    (s.apart g notes).findAlias name =
      ((s.findAlias name).1, (s.findAlias name).2.apart g notes) := by
  have hsame : (s.apart g notes).aliases = s.aliases := rfl
  rw [findAlias, findAlias, hsame, callAliases_apart]
  cases s.aliases <;> rfl

theorem changeAlias_apart (c : Alias.Change) :
    (s.apart g notes).changeAlias c =
      ((s.changeAlias c).1, (s.changeAlias c).2.apart g notes) := by
  have hsame : (s.apart g notes).aliases = s.aliases := rfl
  rw [changeAlias, changeAlias, hsame, callAliases_apart]
  cases s.aliases <;> rfl

theorem openView_apart (v : View) :
    (s.apart g notes).openView v = ((s.openView v).1, (s.openView v).2.apart g notes) := by
  have hsame : (s.apart g notes).opener = s.opener := rfl
  rw [openView, openView, hsame]
  cases s.opener with
  | echo => rfl
  | recorder opened refusal => cases refusal <;> rfl

/-- **No answer depends on the limit or the log**, unless it is the outcome of a line. -/
theorem answer_apart (nesting : Nat) {q : Query} (hq : q.RunsNoLine) :
    answer nesting q (s.apart g notes) =
      (answer nesting q s).map fun p => (p.1, p.2.apart g notes) := by
  cases q with
  | execute line => exact hq.elim
  | call r => cases nesting <;> simp [answer, callBackend_apart]
  | findAlias name => cases nesting <;> simp [answer, findAlias_apart]
  | changeAlias c => cases nesting <;> simp [answer, changeAlias_apart]
  | openView v => cases nesting <;> simp [answer, openView_apart]
  | log level message => cases nesting <;> simp [answer, report_apart]
  | _ => cases nesting <;> rfl

end CommandConsole.Session
