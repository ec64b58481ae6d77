import CommandConsole.Completer
import CommandConsole.Proofs.Text.Trimming
import Mathlib.Data.String.Basic

/-!
# What the completer makes of a line

A cursor in a line is given in bytes, so it can be behind a character, inside of one or behind all
of them (`firstBytes_append_add`). The completer looks at the text in front of the cursor. If that
is one word, however many blanks are around it, that word is completed (`word?_of_holds`). If there
is a second word in it, or if there is no such text, none is (`word?_of_aside`), and then nothing is
offered and nothing happens (`offer_of_none`).
-/

set_option autoImplicit false

namespace CommandConsole.Completer

/-- In front of the cursor there is a single word, with any blanks around it. -/
def Holds (line : String) (cursor : Nat) (word : String) : Prop :=
  ∃ front back, line = front ++ back ∧ cursor = front.utf8ByteSize ∧
    Text.words front.toList = [word.toList]

/-- A cursor at which no word is completed: it is behind a second word, behind the line, or inside a
character. -/
inductive Aside (line : String) (cursor : Nat) : Prop where
  | arguments {front back : String} : line = front ++ back → cursor = front.utf8ByteSize →
      2 ≤ (Text.words front.toList).length → Aside line cursor
  | outside : line.utf8ByteSize < cursor → Aside line cursor
  | within {front back : String} {c : Char} : line = front ++ String.singleton c ++ back →
      front.utf8ByteSize < cursor → cursor < front.utf8ByteSize + c.utf8Size → Aside line cursor

/-! ## The first bytes of a text -/

/-- The first bytes behind a whole number of characters are looked for in the rest. -/
theorem firstBytes_append_add (front back : List Char) (n : Nat) :
    firstBytes (String.utf8Len front + n) (front ++ back) =
      (firstBytes n back).map (front ++ ·) := by
  induction front with
  | nil => simp
  | cons c front ih =>
      have hpos := c.utf8Size_pos
      obtain ⟨m, hm⟩ : ∃ m, String.utf8Len (c :: front) + n = m + 1 :=
        Nat.exists_eq_succ_of_ne_zero (by simp only [String.utf8Len_cons]; omega)
      have hle : c.utf8Size ≤ m + 1 := by
        simp only [String.utf8Len_cons] at hm
        omega
      have hrest : m + 1 - c.utf8Size = String.utf8Len front + n := by
        simp only [String.utf8Len_cons] at hm
        omega
      rw [hm, List.cons_append, firstBytes, if_pos hle, hrest, ih, Option.map_map]
      rfl

theorem firstBytes_append (front back : List Char) :
    firstBytes (String.utf8Len front) (front ++ back) = some front := by
  have h := firstBytes_append_add front back 0
  simpa [firstBytes] using h

/-- There are no more bytes than those of the text. -/
theorem firstBytes_of_lt {n : Nat} {cs : List Char} (h : String.utf8Len cs < n) :
    firstBytes n cs = none := by
  obtain ⟨m, rfl⟩ := Nat.exists_eq_add_of_lt h
  have hmore := firstBytes_append_add cs [] (m + 1)
  simpa [firstBytes, Nat.add_assoc] using hmore

/-- No text ends inside a character. -/
theorem firstBytes_within {n : Nat} {c : Char} (front back : List Char)
    (hfront : String.utf8Len front < n) (hc : n < String.utf8Len front + c.utf8Size) :
    firstBytes n (front ++ c :: back) = none := by
  obtain ⟨m, rfl⟩ := Nat.exists_eq_add_of_lt hfront
  have hinside : ¬ c.utf8Size ≤ m + 1 := by omega
  rw [Nat.add_assoc, firstBytes_append_add, firstBytes, if_neg hinside, Option.map_none]

theorem utf8ByteSize_eq (s : String) : s.utf8ByteSize = String.utf8Len s.toList := by
  rw [← String.utf8ByteSize_ofList, String.ofList_toList]

/-! ## The word that is completed -/

variable {line word : String} {cursor : Nat}

theorem isWord_of_holds (h : Holds line cursor word) : Text.IsWord word.toList := by
  obtain ⟨front, back, -, -, hwords⟩ := h
  exact Text.isWord_of_mem_words (hwords ▸ List.mem_singleton_self _)

/-- At the end of a line of one word, the cursor is behind that. -/
theorem holds_end (h : Text.words line.toList = [word.toList]) :
    Holds line line.utf8ByteSize word :=
  ⟨line, "", by simp, rfl, h⟩

theorem word?_of_holds (h : Holds line cursor word) :
    word? line.toList cursor = some word.toList := by
  have hword := isWord_of_holds h
  obtain ⟨front, back, rfl, rfl, hwords⟩ := h
  have hfirst : firstBytes front.utf8ByteSize (front ++ back).toList = some front.toList := by
    rw [utf8ByteSize_eq, String.toList_append, firstBytes_append]
  have hletters : (!word.toList.any Text.isBlank) = true := by simpa using hword.letters
  rw [word?, hfirst, Option.map_some, Text.trim_of_words_eq hwords, Option.filter_some,
    if_pos hletters]

theorem word?_of_aside (h : Aside line cursor) : word? line.toList cursor = none := by
  cases h with
  | @arguments front back hline hcursor htwo =>
      have hfirst : firstBytes cursor line.toList = some front.toList := by
        rw [hline, hcursor, utf8ByteSize_eq, String.toList_append, firstBytes_append]
      have hblank : (Text.trim front.toList).any Text.isBlank = true :=
        Text.any_isBlank_trim.mpr htwo
      rw [word?, hfirst, Option.map_some, Option.filter_some, hblank]
      rfl
  | outside hlt =>
      rw [utf8ByteSize_eq] at hlt
      rw [word?, firstBytes_of_lt hlt]
      rfl
  | @within front back c hline hfront hc =>
      rw [utf8ByteSize_eq] at hfront hc
      have hsplit : line.toList = front.toList ++ c :: back.toList := by simp [hline]
      rw [word?, hsplit, firstBytes_within front.toList back.toList hfront hc]
      rfl

/-! ## What is offered -/

variable {offered : Option String} {s : LineState} {names : List String}

/-- A word is completed in the run that is on if it is what was offered last, and in a new one if it
is not. -/
theorem offer_of_word? (h : word? line.toList cursor = some word.toList) :
    offer offered s names line cursor =
      let answer := (if offered = some word then s else s.edit).complete word names
      (answer.1, answer.2, answer.1) := by
  simp [offer, h]

theorem offer_of_none (h : word? line.toList cursor = none) :
    offer offered s names line cursor = (none, s, offered) := by
  simp [offer, h]

end CommandConsole.Completer
