import CommandConsole.Text.Blank
import Mathlib.Data.List.Chain

/-!
# Words of a text

What `words` keeps of a text. A blank belongs to no word and ends the one in front of it, so the
words of two texts with a blank between them are the words of the one and then those of the other
(`words_append_blank`). All else about `words` rests on that.

Words joined with single spaces give the text back up to the length of its runs of blanks:
`collapse` is a text with each run of blanks made one space, and `collapse_concat_eq` says that a
text that ends with a letter is its joined words, behind a space if it starts with a blank. A text
is **single spaced** when it has no other runs; joined words are (`singleSpaced_join`), and
collapsing leaves such a text alone (`collapse_of_singleSpaced`).
-/

set_option autoImplicit false

namespace CommandConsole.Text

/-- Whether a text starts with a blank. -/
def startsBlank (t : List Char) : Bool := t.head?.any isBlank

/-- A text with every run of blanks made one space. -/
def collapse : List Char → List Char
  | [] => []
  | c :: r =>
      if !isBlank c then c :: collapse r
      else if startsBlank r then collapse r
      else ' ' :: collapse r

/-- A word: not empty, and without a blank. -/
structure IsWord (w : List Char) : Prop where
  ne_nil : w ≠ []
  letters : ∀ c ∈ w, isBlank c = false

/-- A text whose only runs of blanks are single spaces. -/
structure SingleSpaced (t : List Char) : Prop where
  spaces : ∀ c ∈ t, isBlank c = true → c = ' '
  apart : t.IsChain fun c d => isBlank c = true → isBlank d = false

/-! ## One character at a time -/

@[simp] theorem startsBlank_nil : startsBlank [] = false := rfl

@[simp] theorem startsBlank_cons (c : Char) (r : List Char) :
    startsBlank (c :: r) = isBlank c := rfl

theorem words_cons_blank {b : Char} (hb : isBlank b = true) (t : List Char) :
    words (b :: t) = words t := by
  cases t with
  | nil => simp [words, hb]
  | cons c r => simp [words, hb]

theorem words_cons_letter {c : Char} (hc : isBlank c = false) (t : List Char) :
    words (c :: t) = if startsBlank t then [c] :: words t else consWord c (words t) := by
  cases t with
  | nil => simp [words, hc, consWord]
  | cons d r =>
      simp only [words, hc, Bool.false_eq_true, if_false]
      rfl

theorem consWord_ne_nil (c : Char) (ws : List (List Char)) : consWord c ws ≠ [] := by
  cases ws <;> simp [consWord]

theorem consWord_append (c : Char) {ws : List (List Char)} (h : ws ≠ []) (vs : List (List Char)) :
    consWord c (ws ++ vs) = consWord c ws ++ vs := by
  cases ws with
  | nil => exact absurd rfl h
  | cons w ws => rfl

theorem words_cons_letter_ne_nil {c : Char} (hc : isBlank c = false) (t : List Char) :
    words (c :: t) ≠ [] := by
  rw [words_cons_letter hc]
  split
  · exact List.cons_ne_nil _ _
  · exact consWord_ne_nil _ _

/-- A text has no word exactly if it is all blanks. -/
theorem words_eq_nil_iff {t : List Char} : words t = [] ↔ ∀ c ∈ t, isBlank c = true := by
  induction t with
  | nil => simp [words]
  | cons c r ih =>
      cases hc : isBlank c with
      | true => simp [words_cons_blank hc, ih, hc]
      | false => simp [words_cons_letter_ne_nil hc, hc]

/-! ## Splitting at a blank -/

/-- **A blank separates.** The words of a text are those in front of a blank and those behind. -/
theorem words_append_blank {b : Char} (hb : isBlank b = true) (s t : List Char) :
    words (s ++ b :: t) = words s ++ words t := by
  induction s with
  | nil => exact words_cons_blank hb t
  | cons c r ih =>
      rw [List.cons_append]
      cases hc : isBlank c with
      | true => rw [words_cons_blank hc, words_cons_blank hc, ih]
      | false =>
          rw [words_cons_letter hc, words_cons_letter hc, ih]
          -- the letter joins the word behind it, unless the blank or another one comes first
          cases r with
          | nil => simp [words, hb, consWord]
          | cons d r =>
              cases hd : isBlank d with
              | true => simp [hd]
              | false =>
                  have hne : words (d :: r) ≠ [] := words_cons_letter_ne_nil hd r
                  simpa [hd] using consWord_append c hne (words t)

theorem words_of_isWord {w : List Char} (hw : IsWord w) : words w = [w] := by
  obtain ⟨hne, hletters⟩ := hw
  induction w with
  | nil => exact absurd rfl hne
  | cons c r ih =>
      have hc : isBlank c = false := hletters c (by simp)
      rw [words_cons_letter hc]
      cases r with
      | nil => simp [words, consWord]
      | cons d r =>
          have hd : isBlank d = false := hletters d (by simp)
          have hr := ih (by simp) fun e he => hletters e (List.mem_cons_of_mem _ he)
          simp [hd, hr, consWord]

theorem isWord_singleton {c : Char} (hc : isBlank c = false) : IsWord [c] :=
  ⟨List.cons_ne_nil c [], by simpa using hc⟩

theorem isWord_cons {c : Char} {w : List Char} (hc : isBlank c = false) (hw : IsWord w) :
    IsWord (c :: w) := by
  refine ⟨List.cons_ne_nil c w, fun d hd => ?_⟩
  rcases List.mem_cons.mp hd with rfl | hd
  · exact hc
  · exact hw.letters d hd

theorem isWord_of_mem_consWord {c : Char} {ws : List (List Char)} {w : List Char}
    (hc : isBlank c = false) (hws : ∀ v ∈ ws, IsWord v) (hw : w ∈ consWord c ws) :
    IsWord w := by
  cases ws with
  | nil =>
      have hw : w = [c] := List.mem_singleton.mp hw
      exact hw ▸ isWord_singleton hc
  | cons v vs =>
      rcases List.mem_cons.mp hw with rfl | hw
      · exact isWord_cons hc (hws v List.mem_cons_self)
      · exact hws w (List.mem_cons_of_mem v hw)

/-- Words are words: none is empty or has a blank. -/
theorem isWord_of_mem_words {t w : List Char} (hw : w ∈ words t) : IsWord w := by
  induction t generalizing w with
  | nil => simp [words] at hw
  | cons c r ih =>
      cases hc : isBlank c with
      | true =>
          rw [words_cons_blank hc] at hw
          exact ih hw
      | false =>
          rw [words_cons_letter hc] at hw
          split at hw
          · rcases List.mem_cons.mp hw with rfl | hw
            · exact isWord_singleton hc
            · exact ih hw
          · exact isWord_of_mem_consWord hc (fun v hv => ih hv) hw

/-- The words of a text that ends with a letter: the last one ends with it, and none has a
character that the text has not in front of it. -/
theorem words_concat {q : Char} (hq : isBlank q = false) (s : List Char) :
    ∃ (front : List (List Char)) (last : List Char),
      words (s ++ [q]) = front ++ [last ++ [q]] ∧ (∀ w ∈ front, w ⊆ s) ∧ last ⊆ s := by
  induction s with
  | nil => exact ⟨[], [], by simp [words, hq], by simp, by simp⟩
  | cons c r ih =>
      obtain ⟨front, last, heq, hfront, hlast⟩ := ih
      have hfront' : ∀ w ∈ front, w ⊆ c :: r :=
        fun w hw => List.subset_cons_of_subset c (hfront w hw)
      have hlast' : last ⊆ c :: r := List.subset_cons_of_subset c hlast
      rw [List.cons_append]
      cases hc : isBlank c with
      | true => exact ⟨front, last, by rw [words_cons_blank hc, heq], hfront', hlast'⟩
      | false =>
          rw [words_cons_letter hc, heq]
          -- the letter is a word of its own, or goes in front of the first word of the rest
          split
          · refine ⟨[c] :: front, last, rfl, ?_, hlast'⟩
            intro w hw
            rcases List.mem_cons.mp hw with rfl | hw
            · simp
            · exact hfront' w hw
          · cases front with
            | nil => exact ⟨[], c :: last, rfl, by simp, List.cons_subset_cons c hlast⟩
            | cons v vs =>
                refine ⟨(c :: v) :: vs, last, rfl, ?_, hlast'⟩
                intro w hw
                rcases List.mem_cons.mp hw with rfl | hw
                · exact List.cons_subset_cons c (hfront v (by simp))
                · exact hfront' w (by simp [hw])

/-! ## Joining -/

theorem join_cons {ws : List (List Char)} (h : ws ≠ []) (separator w : List Char) :
    join separator (w :: ws) = w ++ separator ++ join separator ws := by
  cases ws with
  | nil => exact absurd rfl h
  | cons v ws => rfl

theorem join_consWord (separator : List Char) (c : Char) (ws : List (List Char)) :
    join separator (consWord c ws) = c :: join separator ws := by
  cases ws with
  | nil => rfl
  | cons w ws => cases ws <;> rfl

theorem join_eq_intercalate (separator : List Char) (ws : List (List Char)) :
    join separator ws = separator.intercalate ws := by
  induction ws with
  | nil => rfl
  | cons w ws ih =>
      cases ws with
      | nil => simp [join]
      | cons v ws => simp [join, ih]

/-- The words of joined texts are the words of each. -/
theorem words_join (ts : List (List Char)) : words (join [' '] ts) = ts.flatMap words := by
  induction ts with
  | nil => rfl
  | cons t ts ih =>
      cases ts with
      | nil => simp [join]
      | cons u ts =>
          rw [join_cons (List.cons_ne_nil u ts), List.append_assoc, List.singleton_append,
            words_append_blank (by decide), ih]
          simp

/-! ## Runs of blanks -/

theorem startsBlank_concat {q : Char} (hq : isBlank q = false) (s : List Char) :
    startsBlank (s ++ [q]) = startsBlank s := by
  cases s with
  | nil => simpa using hq
  | cons c r => rfl

theorem collapse_cons_letter {c : Char} (hc : isBlank c = false) (t : List Char) :
    collapse (c :: t) = c :: collapse t := by
  simp [collapse, hc]

theorem collapse_concat {q : Char} (hq : isBlank q = false) (s : List Char) :
    collapse (s ++ [q]) = collapse s ++ [q] := by
  induction s with
  | nil => simp [collapse, hq]
  | cons c r ih =>
      rw [List.cons_append]
      cases hc : isBlank c with
      | false => rw [collapse_cons_letter hc, collapse_cons_letter hc, ih, List.cons_append]
      | true =>
          simp only [collapse, hc, startsBlank_concat hq, ih]
          cases startsBlank r <;> simp

/-- **A text that ends with a letter is its joined words**, up to the length of its runs of
blanks. -/
theorem collapse_concat_eq {q : Char} (hq : isBlank q = false) (s : List Char) :
    collapse (s ++ [q]) =
      (if startsBlank s then [' '] else []) ++ join [' '] (words (s ++ [q])) := by
  induction s with
  | nil => simp [collapse, words, hq, join]
  | cons c r ih =>
      obtain ⟨front, last, heq, -, -⟩ := words_concat hq r
      have hne : words (r ++ [q]) ≠ [] := by simp [heq]
      rw [List.cons_append, startsBlank_cons]
      cases hc : isBlank c with
      | true =>
          rw [words_cons_blank hc]
          -- of a run of blanks, the last one is the space that is kept
          simp only [collapse, hc, startsBlank_concat hq, ih]
          cases startsBlank r <;> simp
      | false =>
          rw [collapse_cons_letter hc, words_cons_letter hc, startsBlank_concat hq, ih]
          cases startsBlank r with
          | true => simp [join_cons hne]
          | false => simp [join_consWord]

namespace SingleSpaced

theorem nil : SingleSpaced [] := ⟨by simp, .nil⟩

theorem cons_letter {c : Char} {t : List Char} (hc : isBlank c = false) (ht : SingleSpaced t) :
    SingleSpaced (c :: t) := by
  refine ⟨fun d hd hblank => ?_, List.isChain_cons.mpr ⟨by simp [hc], ht.apart⟩⟩
  rcases List.mem_cons.mp hd with rfl | hd
  · simp [hc] at hblank
  · exact ht.spaces d hd hblank

theorem cons_space {t : List Char} (hstart : startsBlank t = false) (ht : SingleSpaced t) :
    SingleSpaced (' ' :: t) := by
  refine ⟨fun d hd hblank => ?_, List.isChain_cons.mpr ⟨fun d hd _ => ?_, ht.apart⟩⟩
  · rcases List.mem_cons.mp hd with rfl | hd
    · rfl
    · exact ht.spaces d hd hblank
  · have hd : t.head? = some d := hd
    simpa [startsBlank, hd] using hstart

theorem append {w t : List Char} (hw : ∀ c ∈ w, isBlank c = false) (ht : SingleSpaced t) :
    SingleSpaced (w ++ t) := by
  induction w with
  | nil => exact ht
  | cons c r ih =>
      have hr := ih fun d hd => hw d (List.mem_cons_of_mem _ hd)
      exact cons_letter (hw c (by simp)) hr

theorem word {w : List Char} (hw : IsWord w) : SingleSpaced w := by
  simpa using append hw.letters nil

theorem tail {t : List Char} (ht : SingleSpaced t) : SingleSpaced (t.drop 1) :=
  ⟨fun c hc => ht.spaces c (List.mem_of_mem_drop hc), ht.apart.drop 1⟩

theorem dropLast {t : List Char} (ht : SingleSpaced t) : SingleSpaced t.dropLast :=
  ⟨fun c hc => ht.spaces c (t.dropLast_sublist.subset hc), ht.apart.dropLast⟩

end SingleSpaced

theorem startsBlank_join_words {ws : List (List Char)} (hws : ∀ w ∈ ws, IsWord w) :
    startsBlank (join [' '] ws) = false := by
  cases ws with
  | nil => rfl
  | cons w ws =>
      obtain ⟨hne, hletters⟩ := hws w (by simp)
      obtain ⟨c, r, rfl⟩ := List.exists_cons_of_ne_nil hne
      have hc : isBlank c = false := hletters c (by simp)
      cases ws with
      | nil => exact hc
      | cons v ws => exact hc

theorem singleSpaced_join {ws : List (List Char)} (hws : ∀ w ∈ ws, IsWord w) :
    SingleSpaced (join [' '] ws) := by
  induction ws with
  | nil => exact .nil
  | cons w ws ih =>
      have hw : IsWord w := hws w (by simp)
      have hrest : ∀ v ∈ ws, IsWord v := fun v hv => hws v (List.mem_cons_of_mem _ hv)
      cases ws with
      | nil => exact .word hw
      | cons v ws =>
          rw [join_cons (List.cons_ne_nil v ws), List.append_assoc]
          exact .append hw.letters (.cons_space (startsBlank_join_words hrest) (ih hrest))

/-- A single spaced text has nothing to collapse. -/
theorem collapse_of_singleSpaced {t : List Char} (ht : SingleSpaced t) : collapse t = t := by
  induction t with
  | nil => rfl
  | cons c r ih =>
      have hr : collapse r = r := ih ht.tail
      cases hc : isBlank c with
      | false => rw [collapse_cons_letter hc, hr]
      | true =>
          have hspace : c = ' ' := ht.spaces c (by simp) hc
          have hstart : startsBlank r = false := by
            cases r with
            | nil => rfl
            | cons d r => exact ht.apart.rel hc
          simp [collapse, hstart, hr, hspace]

end CommandConsole.Text
