import CommandConsole.Proofs.Text.Words
import Mathlib.Data.List.DropRight

/-!
# Trimming a text

To trim a text takes blanks away that belong to no word, so the words stay (`words_trim`). What is
left neither starts nor ends with a blank, so a blank that is left stands between two words: a text
with one word is trimmed to that word (`trim_of_words_eq`), and one with more words keeps a blank
(`any_isBlank_trim`).
-/

set_option autoImplicit false

namespace CommandConsole.Text

variable {t w : List Char}

/-! ## The words stay -/

theorem words_trimStart (t : List Char) : words (trimStart t) = words t := by
  induction t with
  | nil => rfl
  | cons c r ih =>
      by_cases hc : isBlank c = true
      · rw [trimStart, List.dropWhile_cons_of_pos hc, words_cons_blank hc]
        exact ih
      · rw [trimStart, List.dropWhile_cons_of_neg hc]

theorem words_concat_blank {b : Char} (hb : isBlank b = true) (t : List Char) :
    words (t ++ [b]) = words t := by
  rw [words_append_blank hb]
  exact List.append_nil _

theorem words_trimEnd (t : List Char) : words (trimEnd t) = words t := by
  induction t using List.reverseRecOn with
  | nil => rfl
  | append_singleton r c ih =>
      have hconcat : trimEnd (r ++ [c]) = if isBlank c then trimEnd r else r ++ [c] :=
        List.rdropWhile_concat ..
      rw [hconcat]
      split
      · next hc => rw [ih, words_concat_blank hc]
      · rfl

/-- **The words of a text are those of the trimmed one.** -/
theorem words_trim (t : List Char) : words (trim t) = words t := by
  rw [trim, words_trimEnd, words_trimStart]

/-! ## What is left -/

/-- A text without blanks is one word, or nothing. -/
theorem words_of_letters (h : ∀ c ∈ t, isBlank c = false) :
    words t = if t = [] then [] else [t] := by
  by_cases hnil : t = []
  · rw [if_pos hnil, hnil, words]
  · rw [if_neg hnil]
    exact words_of_isWord ⟨hnil, h⟩

theorem startsBlank_trimEnd (h : startsBlank t = false) : startsBlank (trimEnd t) = false := by
  obtain ⟨r, hr⟩ : trimEnd t <+: t := List.rdropWhile_prefix isBlank t
  cases htrim : trimEnd t with
  | nil => rfl
  | cons c u =>
      rw [← hr, htrim] at h
      exact h

/-- A trimmed text does not start with a blank. -/
theorem startsBlank_trim (t : List Char) : startsBlank (trim t) = false := by
  apply startsBlank_trimEnd
  have hhead := List.head?_dropWhile_not isBlank t
  unfold startsBlank trimStart
  cases h : (t.dropWhile isBlank).head? with
  | none => rfl
  | some c => simpa [h] using hhead

/-- Nor does it end with one. -/
theorem isBlank_getLast_trim (h : trim t ≠ []) : isBlank ((trim t).getLast h) = false := by
  rw [← Bool.not_eq_true]
  exact List.rdropWhile_last_not isBlank (trimStart t) h

/-- A blank that is left in a trimmed text has a word in front of it and a word behind it. -/
theorem two_le_length_words {a c : List Char} {b : Char} (h : trim t = a ++ b :: c)
    (hb : isBlank b = true) : 2 ≤ (words t).length := by
  have hfront : words a ≠ [] := by
    intro hnil
    have hall : ∀ d ∈ a, isBlank d = true := words_eq_nil_iff.mp hnil
    have hstart := startsBlank_trim t
    rw [h] at hstart
    cases a with
    | nil => simp [hb] at hstart
    | cons d r => simp [hall d (by simp)] at hstart
  have hback : words c ≠ [] := by
    intro hnil
    have hall : ∀ d ∈ b :: c, isBlank d = true :=
      List.forall_mem_cons.mpr ⟨hb, words_eq_nil_iff.mp hnil⟩
    have hne : trim t ≠ [] := by simp [h]
    have hlast := isBlank_getLast_trim hne
    have hmem : (trim t).getLast hne ∈ b :: c := by
      simp only [h, List.getLast_append_of_ne_nil _ (List.cons_ne_nil b c)]
      exact List.getLast_mem _
    rw [hall _ hmem] at hlast
    contradiction
  have hwords : words t = words a ++ words c := by
    rw [← words_trim, h, words_append_blank hb]
  have hposfront := List.length_pos_of_ne_nil hfront
  have hposback := List.length_pos_of_ne_nil hback
  rw [hwords, List.length_append]
  omega

/-- **A blank is left in a trimmed text exactly if it has a second word.** -/
theorem any_isBlank_trim : (trim t).any isBlank = true ↔ 2 ≤ (words t).length := by
  constructor
  · intro h
    obtain ⟨b, hmem, hb⟩ := List.any_eq_true.mp h
    obtain ⟨a, c, hsplit⟩ := List.append_of_mem hmem
    exact two_le_length_words hsplit hb
  · intro htwo
    by_contra hletters
    have hall : ∀ c ∈ trim t, isBlank c = false := by simpa using hletters
    rw [← words_trim, words_of_letters hall] at htwo
    split at htwo <;> simp at htwo

/-- **A text with one word is trimmed to it.** -/
theorem trim_of_words_eq (h : words t = [w]) : trim t = w := by
  have hone : ¬ (trim t).any isBlank = true := by
    rw [any_isBlank_trim, h, List.length_singleton]
    omega
  have hall : ∀ c ∈ trim t, isBlank c = false := by simpa using hone
  have hwords := words_of_letters hall
  rw [words_trim, h] at hwords
  split at hwords
  · contradiction
  · exact (List.singleton_inj.mp hwords).symm

end CommandConsole.Text
