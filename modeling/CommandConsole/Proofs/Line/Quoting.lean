import CommandConsole.Line.Quote
import CommandConsole.Proofs.Line.Groups

/-!
# Quoted arguments are read back

Arguments written with `quoteArgument` and put side by side are read back as themselves, whatever
text follows them (`tokenize_intercalate_quoteArgument`). Two things can differ: runs of blanks
come back as single spaces, and an argument that had to be wrapped and has quotes of both kinds
comes back with single ones only. `restored` is what an argument comes back as.

The proof looks at the words of one wrapped argument. The quote that wraps it is not among its
characters, so no word in front of the last one can end with it: the words are a closed group
(`isGroup_words_wrap`), and the scan makes one token of it before it sees anything behind.
-/

set_option autoImplicit false

namespace CommandConsole.Line

open Text

/-! ## What an argument comes back as -/

/-- Whether an argument has quotes of both kinds and has to be wrapped in a quote even so. -/
def needsSoftening (arg : List Char) : Bool :=
  needsQuotes arg && arg.contains '"' && arg.contains '\''

/-- An argument as it is wrapped: with single quotes only, if it cannot keep its own. -/
def softened (arg : List Char) : List Char :=
  if needsSoftening arg then singleQuotes arg else arg

/-- What an argument comes back as when it is written into a line and read again. -/
def restored (arg : List Char) : List Char := collapse (softened arg)

/-- An argument as it is wrapped, as a string. -/
def softenedArgument (arg : String) : String := String.ofList (softened arg.toList)

/-- What an argument comes back as, as a string. -/
def restoredArgument (arg : String) : String := String.ofList (restored arg.toList)

theorem softened_of_plain {arg : List Char} (h : needsQuotes arg = false) :
    softened arg = arg := by
  simp [softened, needsSoftening, h]

theorem doubleQuote_not_mem_singleQuotes (cs : List Char) : '"' ∉ singleQuotes cs := by
  intro h
  obtain ⟨c, -, hc⟩ := List.mem_map.mp h
  split at hc
  · exact absurd hc (by decide)
  · contradiction

/-- An argument that needs quotes is wrapped in a quote that it does not contain. -/
theorem quote_eq_wrap {arg : List Char} (h : needsQuotes arg = true) :
    ∃ q, isQuote q = true ∧ q ∉ softened arg ∧ quote arg = wrap q (softened arg) := by
  by_cases hdouble : '"' ∈ arg
  · by_cases hsingle : '\'' ∈ arg
    · have hsoft : softened arg = singleQuotes arg := by
        simp [softened, needsSoftening, h, hdouble, hsingle]
      refine ⟨'"', rfl, ?_, ?_⟩
      · rw [hsoft]; exact doubleQuote_not_mem_singleQuotes arg
      · simp [quote, h, hdouble, hsingle, hsoft]
    · have hsoft : softened arg = arg := by simp [softened, needsSoftening, hsingle]
      exact ⟨'\'', rfl, by rwa [hsoft], by simp [quote, h, hdouble, hsingle, hsoft]⟩
  · have hsoft : softened arg = arg := by simp [softened, needsSoftening, hdouble]
    exact ⟨'"', rfl, by rwa [hsoft], by simp [quote, h, hdouble, hsoft]⟩

/-- Quoting adds nothing but quotes. -/
theorem mem_of_mem_quote {arg : List Char} {c : Char} (hc : isQuote c = false)
    (h : c ∈ quote arg) : c ∈ arg := by
  cases hneeds : needsQuotes arg with
  | false => simpa [quote, hneeds] using h
  | true =>
      obtain ⟨q, hq, -, heq⟩ := quote_eq_wrap hneeds
      have hne : c ≠ q := by
        rintro rfl
        simp [hq] at hc
      have hsoft : c ∈ softened arg := by simpa [heq, wrap, hne] using h
      rw [softened] at hsoft
      split at hsoft
      · obtain ⟨d, hd, hdc⟩ := List.mem_map.mp hsoft
        split at hdc
        · simp [← hdc, isQuote] at hc
        · exact hdc ▸ hd
      · exact hsoft

/-! ## The words of a wrapped text -/

theorem endsWith_eq_false {q : Char} {w : List Char} (h : q ∉ w) : endsWith q w = false := by
  have hlast : w.getLast? ≠ some q := fun heq => h (List.mem_of_getLast? heq)
  simpa [endsWith] using hlast

theorem closesItself_cons_eq_false {q : Char} {w : List Char} (h : q ∉ w) :
    closesItself q (q :: w) = false := by
  cases w with
  | nil => rfl
  | cons c r =>
      have hlast : endsWith q (c :: r) = false := endsWith_eq_false h
      have hsame : endsWith q (q :: c :: r) = endsWith q (c :: r) := by
        simp [endsWith, List.getLast?_cons_cons]
      simp [closesItself, hsame, hlast]

theorem isGroup_words_wrap {q : Char} (hq : isQuote q = true) {cs : List Char} (h : q ∉ cs) :
    IsGroup q (words (wrap q cs)) := by
  have hletter : isBlank q = false := isBlank_of_isQuote hq
  obtain ⟨front, last, heq, hfront, -⟩ := words_concat hletter cs
  have hopen : ∀ r, openingQuote (q :: r) = some q := openingQuote_cons_of_isQuote hq
  have hends : endsWith q (last ++ [q]) = true := by simp [endsWith]
  have hinner : ∀ w ∈ front, endsWith q w = false :=
    fun w hw => endsWith_eq_false fun hmem => h (hfront w hw hmem)
  rw [wrap, List.cons_append, words_cons_letter hletter, heq]
  split
  · -- the quote stands alone in front of a blank, too short to close what it opens
    exact .long (hopen []) rfl hinner hends
  · cases front with
    | nil =>
        refine .short (hopen _) ?_
        simp [closesItself, endsWith, List.getLast?_cons]
    | cons w front =>
        have hw : q ∉ w := fun hmem => h (hfront w (by simp) hmem)
        exact .long (hopen w) (closesItself_cons_eq_false hw)
          (fun v hv => hinner v (List.mem_cons_of_mem _ hv)) hends

theorem groupText_words_wrap {q : Char} (hq : isQuote q = true) (cs : List Char) :
    groupText (words (wrap q cs)) = collapse cs := by
  have hletter : isBlank q = false := isBlank_of_isQuote hq
  have hjoin : join [' '] (words (q :: cs ++ [q])) = q :: collapse cs ++ [q] := by
    have h := collapse_concat_eq hletter (q :: cs)
    rw [collapse_concat hletter, collapse_cons_letter hletter, startsBlank_cons, hletter] at h
    simpa using h.symm
  rw [groupText, wrap, hjoin]
  simp

/-! ## Reading back -/

theorem isWord_of_plain {arg : List Char} (h : needsQuotes arg = false) :
    IsWord arg ∧ openingQuote arg = none := by
  simp only [needsQuotes, Bool.or_eq_false_iff] at h
  obtain ⟨⟨hempty, hopen⟩, hblank⟩ := h
  refine ⟨⟨?_, ?_⟩, by simpa using hopen⟩
  · intro hnil
    simp [hnil] at hempty
  · simpa using hblank

/-- **One quoted argument is one token**, whatever words follow it. -/
theorem scan_words_quote (arg : List Char) (rest : List (List Char)) :
    scan none (words (quote arg) ++ rest) = restored arg :: scan none rest := by
  cases h : needsQuotes arg with
  | false =>
      obtain ⟨hword, hopen⟩ := isWord_of_plain h
      have hquote : quote arg = arg := by simp [quote, h]
      have hback : restored arg = arg := by
        rw [restored, softened_of_plain h, collapse_of_singleSpaced (.word hword)]
      rw [hquote, words_of_isWord hword, hback]
      exact scan_plain hopen rest
  | true =>
      obtain ⟨q, hq, hfresh, heq⟩ := quote_eq_wrap h
      rw [heq, scan_group (isGroup_words_wrap hq hfresh), groupText_words_wrap hq]
      rfl

theorem scan_words_quotes (args : List (List Char)) (rest : List (List Char)) :
    scan none ((args.map quote).flatMap words ++ rest) =
      args.map restored ++ scan none rest := by
  induction args with
  | nil => rfl
  | cons arg args ih =>
      rw [List.map_cons, List.flatMap_cons, List.append_assoc, scan_words_quote, ih,
        List.map_cons, List.cons_append]

/-- A line of quoted arguments and nothing else. -/
theorem tokens_join_quote (args : List (List Char)) :
    tokens (join [' '] (args.map quote)) = args.map restored := by
  have h := scan_words_quotes args []
  simpa [tokens, words_join, scan] using h

/-- Quoted arguments with a text behind them. -/
theorem tokens_join_quote_append (args : List (List Char)) (t : List Char) :
    tokens (join [' '] (args.map quote) ++ ' ' :: t) = args.map restored ++ tokens t := by
  rw [tokens, words_append_blank (by decide), words_join, scan_words_quotes, tokens]

/-- **Tokenizing undoes quoting.** Arguments that are quoted and put side by side come back one
by one and in order, and the text behind them is read as it would be alone. -/
theorem tokenize_intercalate_quoteArgument (args : List String) (text : String) :
    tokenize (" ".intercalate (args.map quoteArgument) ++ " " ++ text) =
      args.map restoredArgument ++ tokenize text := by
  have hline : (" ".intercalate (args.map quoteArgument) ++ " " ++ text).toList =
      join [' '] ((args.map String.toList).map quote) ++ ' ' :: text.toList := by
    simp [join_eq_intercalate, quoteArgument, Function.comp_def]
  rw [tokenize, hline, tokens_join_quote_append]
  simp [tokenize, restoredArgument, Function.comp_def]

end CommandConsole.Line
