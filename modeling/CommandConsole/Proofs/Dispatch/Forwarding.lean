import CommandConsole.Proofs.Dispatch.Chain
import CommandConsole.Proofs.Line.Filling
import CommandConsole.Proofs.Session.Log
import CommandConsole.Records.Payload

/-!
# Aliases that forward their arguments

An alias with the template `c $1 $2 … $n` is as good as the command `c`: a line that calls the alias
with `n` arguments or more has the outcome of `c` on the first `n` of them
(`execute_of_forwardTemplate`). The arguments are written into a line and read again on the way.
They come from a line themselves, so they are single spaced, and all that can happen to them is
that quotes of both kinds become single ones (`softenedArgument`), which makes no difference to the
structured arguments that are read with `normalizeQuotes`.
-/

set_option autoImplicit false

namespace CommandConsole

namespace Line

open Text

/-! ## What softening leaves as it is -/

theorem isBlank_singleQuote (c : Char) :
    isBlank (if c = '"' then '\'' else c) = isBlank c := by
  split
  · next h => rw [h]; decide
  · rfl

theorem singleSpaced_softened {arg : List Char} (h : SingleSpaced arg) :
    SingleSpaced (softened arg) := by
  rw [softened]
  split
  · refine ⟨fun c hc hblank => ?_, ?_⟩
    · obtain ⟨d, hd, rfl⟩ := List.mem_map.mp hc
      rw [isBlank_singleQuote] at hblank
      rw [h.spaces d hd hblank]
      decide
    · rw [singleQuotes, List.isChain_map]
      simpa only [isBlank_singleQuote] using h.apart
  · exact h

/-- A single spaced argument comes back as it was wrapped. -/
theorem restoredArgument_of_singleSpaced {arg : String} (h : SingleSpaced arg.toList) :
    restoredArgument arg = softenedArgument arg := by
  rw [restoredArgument, restored, collapse_of_singleSpaced (singleSpaced_softened h),
    softenedArgument]

theorem normalizeQuotes_softenedArgument (arg : String) :
    normalizeQuotes (softenedArgument arg) = normalizeQuotes arg := by
  have hchars : doubleQuotes (softened arg.toList) = doubleQuotes arg.toList := by
    rw [softened]
    split
    · simp only [doubleQuotes, singleQuotes, List.map_map]
      refine List.map_congr_left fun c _ => ?_
      by_cases hc : c = '"'
      · simp [hc]
      · simp [hc]
    · rfl
  simp [normalizeQuotes, softenedArgument, hchars]

/-! ## The template -/

/-- The template that hands on as many arguments to a command. -/
def forwardTemplate (command : String) (n : Nat) : String :=
  " ".intercalate (command :: (List.range n).map fun i => "$" ++ toString (i + 1))

/-- A name that is one token as it stands, and holds no placeholder. -/
structure IsPlainName (name : String) : Prop where
  ne_empty : name ≠ ""
  letters : ∀ c ∈ name.toList, isBlank c = false
  unquoted : openingQuote name.toList = none
  no_dollar : '$' ∉ name.toList

theorem needsQuotes_of_isPlainName {name : String} (h : IsPlainName name) :
    needsQuotes name.toList = false := by
  have hempty : name.toList.isEmpty = false := by simpa using h.ne_empty
  have hblank : name.toList.any isBlank = false := by simpa using h.letters
  simp [needsQuotes, hempty, hblank, h.unquoted]

/-- The items of the template: the command, and a slot for each argument. -/
def forwardItems (command : String) (n : Nat) : List Item :=
  .text command.toList :: (List.range n).map .slot

theorem toList_forwardTemplate {command : String} (h : IsPlainName command) (n : Nat) :
    (forwardTemplate command n).toList =
      join [' '] ((forwardItems command n).map Item.written) := by
  have hcommand : quote command.toList = command.toList := by
    simp [quote, needsQuotes_of_isPlainName h]
  simp [forwardTemplate, forwardItems, join_eq_intercalate, Item.written, hcommand,
    Function.comp_def]

theorem restoredArgument_of_isPlainName {name : String} (h : IsPlainName name) :
    restoredArgument name = name := by
  have hplain := needsQuotes_of_isPlainName h
  have hword := (isWord_of_plain hplain).1
  rw [restoredArgument, restored, softened_of_plain hplain, collapse_of_singleSpaced (.word hword),
    String.ofList_toList]

theorem fits_forwardItems {command : String} (h : IsPlainName command) {n : Nat}
    {args : List (List Char)} (hn : n ≤ args.length) :
    ∀ item ∈ forwardItems command n, item.Fits args := by
  intro item hitem
  rcases List.mem_cons.mp hitem with rfl | hitem
  · exact h.no_dollar
  · obtain ⟨i, hi, rfl⟩ := List.mem_map.mp hitem
    have hlt : i < n := List.mem_range.mp hi
    show i < args.length
    omega

theorem value_forwardItems (command : String) {n : Nat} {args : List (List Char)}
    (hn : n ≤ args.length) :
    (forwardItems command n).map (Item.value args) = command.toList :: args.take n := by
  have hslots : (List.range n).map (args.getD · []) = args.take n := by
    refine List.ext_getElem (by simp [hn]) fun i hi hi' => ?_
    have hlt : i < args.length := by
      rw [List.length_map, List.length_range] at hi
      omega
    simp [hlt]
  simpa [forwardItems, Function.comp_def, Item.value] using hslots

/-- **The filled template is a line of the command and the arguments**, each one token. -/
theorem tokenize_substitute_forwardTemplate {command : String} (h : IsPlainName command)
    {args : List String} {n : Nat} (hn : n ≤ args.length) :
    tokenize (substitute (forwardTemplate command n) args) =
      command :: (args.take n).map restoredArgument := by
  have hn' : n ≤ (args.map String.toList).length := by simpa using hn
  have hcommand : String.ofList (restored command.toList) = command :=
    restoredArgument_of_isPlainName h
  rw [tokenize, substitute, String.toList_ofList, toList_forwardTemplate h,
    tokens_fill_items (fits_forwardItems h hn'), value_forwardItems command hn', ← List.map_take,
    List.map_cons, List.map_cons, hcommand, List.map_map, List.map_map]
  rfl

end Line

/-! ## Structured arguments -/

namespace Records

theorem toOption_bind {ε α β : Type} (x : Except ε α) (f : α → Except ε β) :
    (x >>= f).toOption = x.toOption.bind fun a => (f a).toOption := by
  cases x <;> rfl

theorem toOption_readPayload (raw : String) :
    (readPayload raw).toOption = (Json.read (Line.normalizeQuotes raw)).toOption := by
  rw [readPayload]
  cases Json.read (Line.normalizeQuotes raw) <;> rfl

variable {raw raw' : String}

/-- Arguments that are the same up to their quotes hold the same value, or none. -/
theorem toOption_readPayload_congr (h : Line.normalizeQuotes raw = Line.normalizeQuotes raw') :
    (readPayload raw).toOption = (readPayload raw').toOption := by
  rw [toOption_readPayload, toOption_readPayload, h]

theorem toOption_readDomain_congr (h : Line.normalizeQuotes raw = Line.normalizeQuotes raw') :
    (readDomain (some raw)).toOption = (readDomain (some raw')).toOption := by
  simp only [readDomain, toOption_bind, toOption_readPayload_congr h]

theorem toOption_readValues_congr (h : Line.normalizeQuotes raw = Line.normalizeQuotes raw') :
    (readValues raw).toOption = (readValues raw').toOption := by
  simp only [readValues, toOption_bind, toOption_readPayload_congr h]

end Records

namespace Dispatch

open Line

/-- **An alias that forwards its arguments is transparent.** A line that calls it runs the command
on the first arguments of the line, behind one note for the log, and comes to what the command comes
to. An argument differs from the one in the line by its quotes at most, and holds the same domain
and the same values. -/
theorem execute_of_forwardTemplate {s s' : Session} {name command line : String}
    {args : List String} {n : Nat} {d : Definition} {record : Alias.Record}
    (hcommand : IsPlainName command) (hregistered : s.registry.lookup command = some d)
    (hname : s.registry.lookup name = none)
    (hstore : s.findAlias name = (.ok (some record), s'))
    (htemplate : record.command = forwardTemplate command n) (hlimit : 1 ≤ s.aliasLimit)
    (htokens : tokenize line = name :: args) (hn : n ≤ args.length) :
    s.execute line =
        (s'.report .debug (expansionNote name (substitute record.command args))).run
          (call d ((args.take n).map softenedArgument)) ∧
      (s.execute line).map Prod.fst =
        (s'.run (call d ((args.take n).map softenedArgument))).map Prod.fst ∧
      ∀ arg, normalizeQuotes (softenedArgument arg) = normalizeQuotes arg ∧
        (Records.readDomain (some (softenedArgument arg))).toOption =
          (Records.readDomain (some arg)).toOption ∧
        (Records.readValues (softenedArgument arg)).toOption =
          (Records.readValues arg).toOption := by
  obtain ⟨left, hleft⟩ : ∃ left, s.aliasLimit = left + 1 := ⟨s.aliasLimit - 1, by omega⟩
  have hexpands := Expands.intro htokens hname hstore
  have hspaced : ∀ arg ∈ args, Text.SingleSpaced arg.toList :=
    fun arg harg => singleSpaced_of_mem_tokenize (htokens ▸ List.mem_cons_of_mem _ harg)
  -- the arguments are tokens, so softening is all that happens to them in the filled template
  have hfilled : tokenize (substitute record.command args) =
      command :: (args.take n).map softenedArgument := by
    rw [htemplate, tokenize_substitute_forwardTemplate hcommand hn]
    congr 1
    exact List.map_congr_left fun arg harg =>
      restoredArgument_of_singleSpaced (hspaced arg (List.mem_of_mem_take harg))
  have hrun : s.execute line =
      (s'.report .debug (expansionNote name (substitute record.command args))).run
        (call d ((args.take n).map softenedArgument)) := by
    rw [Session.execute, execute, hleft, run_of_expands left hexpands,
      executeWithin_of_registered left hfilled hregistered]
  refine ⟨hrun, by rw [hrun, Session.run_report], fun arg => ?_⟩
  have hsame := normalizeQuotes_softenedArgument arg
  exact ⟨hsame, Records.toOption_readDomain_congr hsame, Records.toOption_readValues_congr hsame⟩

/-- A session with one command and an alias that forwards two arguments to it. -/
def forwarding : Session :=
  { Session.start with
    registry := Registry.empty.register echo
    aliases := .memory ⟨.ofCommands [("e", forwardTemplate "echo" 2)], none⟩ }

/-- An argument with a space and quotes of both kinds, and one that looks like a placeholder. -/
theorem execute_of_forwardTemplate_softened :
    IsPlainName "echo" ∧
    tokenize "e \"it's \"now\" $1" = ["e", "it's \"now", "$1"] ∧
    (forwarding.execute "e \"it's \"now\" $1").map Prod.fst =
      some (.ok (.text "it's 'now|$1")) := by
  have hletters : ∀ c ∈ "echo".toList, Text.isBlank c = false := fun c hc =>
    Bool.eq_false_iff.mpr (List.any_eq_false.mp rfl c hc)
  have hplain : IsPlainName "echo" := ⟨by decide, hletters, rfl, by decide⟩
  have htokens : tokenize "e \"it's \"now\" $1" = ["e", "it's \"now", "$1"] := rfl
  have hrun := execute_of_forwardTemplate (s := forwarding) (d := echo) (n := 2) hplain rfl rfl rfl
    rfl (by decide) htokens (by decide)
  exact ⟨hplain, htokens, hrun.2.1⟩

end Dispatch

end CommandConsole
