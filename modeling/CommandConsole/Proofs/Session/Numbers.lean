import CommandConsole.Proofs.Records.Payload
import CommandConsole.Proofs.Signature.Slots
import CommandConsole.Session
import CommandConsole.Vocabulary

/-!
# Numbers in arguments

Three of the built-in commands have a slot for a whole number, two for that of a record and one for
the mode of the log. What stands in such a slot has been tested before the command is called, and
the command reads it again. All of them read it in the same way (`ReadsNumber`): they go on with the
number alone, however it is written, or fail with what keeps it from being read. Since the test and
the reader agree on what is a numeral, all that can keep it from being read is that the number is
out of range (`integer_slots_agree`).
-/

set_option autoImplicit false

namespace CommandConsole

open Number

namespace Vocabulary

variable {label raw : String} {run : String → Action Output} {n : Int} {d : Definition}
  {args : List String} {i : Nat} {optional : Bool}

/-! ## Reading a number -/

/-- What reads a number from a text, goes on with the number alone, and names the text in its
complaint. -/
def ReadsNumber (label : String) (run : String → Action Output) : Prop :=
  ∃ act : Int → Action Output, ∀ raw, run raw =
    match readInt64 raw.toList with
    | .ok n => act n
    | .error e => Action.fail (.malformed (label ++ raw ++ "': " ++ e.message))

/-- What goes on with the number of a record. -/
theorem readsNumber_readId (act : Int → Action Output) :
    ReadsNumber "record id '" fun raw => Action.ofExcept (Records.readId raw) >>= act := by
  refine ⟨act, fun raw => ?_⟩
  show Action.ofExcept (Records.readId raw) >>= act = _
  rw [Records.readId]
  cases readInt64 raw.toList with
  | ok n => rfl
  | error e => rfl

theorem readsNumber_write (model values : String) :
    ReadsNumber "record id '" fun raw => write model raw values :=
  readsNumber_readId _

theorem readsNumber_view (model : String) :
    ReadsNumber "record id '" fun raw => view model (some raw) :=
  readsNumber_readId _

theorem readsNumber_debug : ReadsNumber "debug mode '" debug := by
  refine ⟨fun n => do
    Action.query (.setLevel (LogLevel.ofMode n))
    return .text s!"log level set to {(LogLevel.ofMode n).name}", fun raw => ?_⟩
  rw [debug]
  cases readInt64 raw.toList <;> rfl

theorem ReadsNumber.fail_of_outOfRange (h : ReadsNumber label run) {reason : String}
    (hn : Denotes raw.toList n) (hout : OutOfRange n reason) :
    run raw = Action.fail (.malformed (label ++ raw ++ "': " ++ reason)) := by
  obtain ⟨act, hact⟩ := h
  obtain ⟨e, hread, rfl⟩ := readInt64_of_outOfRange hn hout
  rw [hact, hread]

theorem ReadsNumber.congr (h : ReadsNumber label run) {raw' : String} (hn : Denotes raw.toList n)
    (hlower : -2 ^ 63 ≤ n) (hupper : n ≤ 2 ^ 63 - 1) (hn' : Denotes raw'.toList n) :
    run raw' = run raw := by
  obtain ⟨act, hact⟩ := h
  rw [hact, hact, readInt64_eq_ok_iff.mpr ⟨hn, hlower, hupper⟩,
    readInt64_eq_ok_iff.mpr ⟨hn', hlower, hupper⟩]

/-! ## The commands with a slot for a number -/

/-- **A command with a slot for a number reads a number from the argument there.** -/
theorem readsNumber_handler (hd : d ∈ commands)
    (hslot : d.signature[i]? = some ⟨.integer, optional⟩)
    (haccepts : d.signature.accepts (args.map String.toList) = true) (hi : i < args.length) :
    ∃ label ∈ ["record id '", "debug mode '"],
      ReadsNumber label fun raw => d.handler (args.set i raw) := by
  have hlength := Signature.length_of_accepts haccepts
  rw [List.length_map] at hlength
  have hmem : ⟨.integer, optional⟩ ∈ d.signature := List.mem_of_getElem? hslot
  simp only [commands, List.mem_cons, List.not_mem_nil, or_false] at hd
  rcases hd with rfl | rfl | rfl | rfl | rfl | rfl | rfl | rfl | rfl
  · simp [may] at hmem
  · simp [must] at hmem
  · simp [must, may] at hmem
  · simp [must, may] at hmem
  · -- the slot of a write is the second one of three
    have hthree : args.length = 3 := Nat.le_antisymm hlength.2 hlength.1
    obtain ⟨model, old, values, rfl⟩ := List.length_eq_three.mp hthree
    obtain rfl : i = 1 := by
      rcases i with _ | _ | _ | i
      · simp [must] at hslot
      · rfl
      · simp [must] at hslot
      · simp at hslot
    exact ⟨"record id '", by simp, readsNumber_write model values⟩
  · -- that of a view is the second one of two, and there is an argument for it
    obtain rfl : i = 1 := by
      rcases i with _ | _ | i
      · simp [must, may] at hslot
      · rfl
      · simp at hslot
    have htwo : args.length = 2 := Nat.le_antisymm hlength.2 hi
    obtain ⟨model, old, rfl⟩ := List.length_eq_two.mp htwo
    exact ⟨"record id '", by simp, readsNumber_view model⟩
  · simp at hmem
  · simp at hmem
  · have hone : args.length = 1 := Nat.le_antisymm hlength.2 hlength.1
    obtain ⟨old, rfl⟩ := List.length_eq_one_iff.mp hone
    obtain rfl : i = 0 := Nat.lt_one_iff.mp hi
    exact ⟨"debug mode '", by simp, readsNumber_debug⟩

/-! ## The test and the commands -/

/-- A mode that can be read sets the level of the log. -/
theorem run_debug (h : readInt64 raw.toList = .ok n) (s : Session) :
    s.run (debug raw).run = some (.ok (.text ("log level set to " ++ (LogLevel.ofMode n).name)),
      { s with level := LogLevel.ofMode n }) := by
  rw [debug, h]
  rfl

/-- A mode that cannot be read changes nothing. -/
theorem run_debug_of_error {e : NumeralError} (h : readInt64 raw.toList = .error e) (s : Session) :
    s.run (debug raw).run =
      some (.error (.error (.malformed ("debug mode '" ++ raw ++ "': " ++ e.message))), s) := by
  rw [debug, h]
  rfl

/-- **The log is set to a level** for the modes that can be read, and for nothing else. -/
theorem run_debug_eq_ok_iff {s s' : Session} {output : Output} :
    s.run (debug raw).run = some (.ok output, s') ↔ ∃ n, readInt64 raw.toList = .ok n ∧
      output = .text ("log level set to " ++ (LogLevel.ofMode n).name) ∧
      s' = { s with level := LogLevel.ofMode n } := by
  constructor
  · intro hrun
    cases hread : readInt64 raw.toList with
    | error e =>
        rw [run_debug_of_error hread] at hrun
        cases hrun
    | ok n =>
        rw [run_debug hread] at hrun
        cases hrun
        exact ⟨n, rfl, rfl, rfl⟩
  · rintro ⟨n, hread, rfl, rfl⟩
    exact run_debug hread s

/-- **The whole numbers of the slots are those of the commands.** What a slot for a whole number
takes are the numerals, however long they are, and each denotes one number. If it is a signed word,
it is read as the number of a record, and the log is set to the level of that mode; what is read
otherwise is nothing. If it is none, the only complaint is that it is too large, or too small. And
wherever a built-in command has a slot for a whole number, an argument that is accepted there is
refused for being out of range only, and else the command does the same for every numeral of the
number. -/
theorem integer_slots_agree (raw : String) :
    (SlotKind.integer.accepts raw.toList = true ↔ ∃! n, Denotes raw.toList n) ∧
    (∀ n, Records.readId raw = .ok n ↔ Denotes raw.toList n ∧ -2 ^ 63 ≤ n ∧ n ≤ 2 ^ 63 - 1) ∧
    (∀ (s : Session) output s', s.run (debug raw).run = some (.ok output, s') ↔
      ∃ n, (Denotes raw.toList n ∧ -2 ^ 63 ≤ n ∧ n ≤ 2 ^ 63 - 1) ∧
        output = .text ("log level set to " ++ (LogLevel.ofMode n).name) ∧
        s' = { s with level := LogLevel.ofMode n }) ∧
    (∀ n reason, Denotes raw.toList n → OutOfRange n reason →
      Records.readId raw = .error (.malformed ("record id '" ++ raw ++ "': " ++ reason)) ∧
      ∀ s : Session, s.run (debug raw).run =
        some (.error (.error (.malformed ("debug mode '" ++ raw ++ "': " ++ reason))), s)) ∧
    ∀ d ∈ commands, ∀ (args : List String) (i : Nat) optional,
      d.signature[i]? = some ⟨.integer, optional⟩ →
      d.signature.accepts (args.map String.toList) = true → args[i]? = some raw →
      ∃ n, Denotes raw.toList n ∧
        (∀ reason, OutOfRange n reason → ∃ label ∈ ["record id '", "debug mode '"],
          d.handler args = Action.fail (.malformed (label ++ raw ++ "': " ++ reason))) ∧
        (-2 ^ 63 ≤ n → n ≤ 2 ^ 63 - 1 → ∀ raw' : String, Denotes raw'.toList n →
          d.handler (args.set i raw') = d.handler args) := by
  refine ⟨?_, fun n => Records.readId_eq_ok_iff, fun s output s' => ?_,
    fun n reason hn hout => ?_, fun d hd args i optional hslot haccepts harg => ?_⟩
  · constructor
    · intro haccepts
      obtain ⟨n, hn⟩ := isInteger_iff.mp haccepts
      exact ⟨n, hn, fun m hm => hm.unique hn⟩
    · rintro ⟨n, hn, -⟩
      exact isInteger_iff.mpr ⟨n, hn⟩
  · rw [run_debug_eq_ok_iff]
    exact exists_congr fun n => and_congr_left fun _ => readInt64_eq_ok_iff
  · obtain ⟨e, hread, rfl⟩ := readInt64_of_outOfRange hn hout
    refine ⟨?_, run_debug_of_error hread⟩
    rw [Records.readId, hread]
    rfl
  · have hi : i < args.length := (List.getElem?_eq_some_iff.mp harg).1
    have hself : args.set i raw = args := by
      obtain ⟨_, rfl⟩ := List.getElem?_eq_some_iff.mp harg
      exact List.set_getElem_self hi
    obtain ⟨label, hlabel, hreads⟩ := readsNumber_handler hd hslot haccepts hi
    have hchars : (args.map String.toList)[i]? = some raw.toList := by
      rw [List.getElem?_map, harg, Option.map_some]
    obtain ⟨n, hn⟩ : ∃ n, Denotes raw.toList n := Signature.fits_of_accepts haccepts hslot hchars
    refine ⟨n, hn, fun reason hout => ⟨label, hlabel, ?_⟩, fun hlower hupper raw' hn' => ?_⟩
    · have hfail := hreads.fail_of_outOfRange hn hout
      rwa [hself] at hfail
    · have hsame := hreads.congr hn hlower hupper hn'
      rwa [hself] at hsame

end Vocabulary

end CommandConsole
