import CommandConsole.Text.LetterCase
import Mathlib.Data.List.Infix

/-!
# Small letters in their surroundings

A text in small letters is not put together from the small forms of its parts, because the small
form of a capital sigma depends on what stands around it. `lowerIn` is the small form of a part
between given surroundings. A sigma is *open* when the part that it stands in leaves its form to the
surroundings, and a part without open sigmas is *settled*: it has one small form, wherever it stands
(`lowerIn_of_settled`). A part that is not settled stands in some text whose small form does not
even have the small form of the part in it (`exists_text_losing`).
-/

set_option autoImplicit false

namespace CommandConsole.Text

/-! ## Parts of a text -/

/-- The small form of a character between what stands before it, last character first, and what
stands behind it. -/
def lowerAt (before : List Char) (c : Char) (behind : List Char) : List Char :=
  if c = 'Σ' then [if facesCased before && !facesCased behind then 'ς' else 'σ'] else lowerOf c

/-- The small form of a part of a text between what stands before it, last character first, and what
stands behind it. -/
def lowerIn (before : List Char) : List Char → (behind : List Char) → List Char
  | [], _ => []
  | c :: r, behind => lowerAt before c (r ++ behind) ++ lowerIn (c :: before) r behind

/-- Whether what stands further before and behind decides on the form of a sigma. -/
def sigmaOpen (before behind : List Char) : Bool :=
  (before.all (inRanges CaseTable.ignorable) && !facesCased behind) ||
    (facesCased before && behind.all (inRanges CaseTable.ignorable))

/-- Whether no sigma of a part is open. -/
def settledAfter (before : List Char) : List Char → Bool
  | [] => true
  | c :: r => (c != 'Σ' || !sigmaOpen before r) && settledAfter (c :: before) r

/-- Whether a text has the same small form as a part of every other text. -/
def settled (cs : List Char) : Bool := settledAfter [] cs

variable {before before' behind behind' cs l r x y : List Char} {c : Char}

theorem lowerAfter_cons (before r : List Char) (c : Char) :
    lowerAfter before (c :: r) = lowerAt before c r ++ lowerAfter (c :: before) r := rfl

theorem lowerAfter_append (before cs behind : List Char) :
    lowerAfter before (cs ++ behind) =
      lowerIn before cs behind ++ lowerAfter (cs.reverse ++ before) behind := by
  induction cs generalizing before with
  | nil => rfl
  | cons c r ih =>
      rw [List.cons_append, lowerAfter_cons, ih, lowerIn, List.append_assoc, List.reverse_cons,
        List.append_assoc, List.singleton_append]

theorem lowerAfter_eq_lowerIn (before cs : List Char) :
    lowerAfter before cs = lowerIn before cs [] := by
  have happend := lowerAfter_append before cs []
  simpa [lowerAfter] using happend

theorem toLower_eq_lowerIn (cs : List Char) : toLower cs = lowerIn [] cs [] :=
  lowerAfter_eq_lowerIn [] cs

theorem lowerIn_append (before l r behind : List Char) :
    lowerIn before (l ++ r) behind =
      lowerIn before l (r ++ behind) ++ lowerIn (l.reverse ++ before) r behind := by
  induction l generalizing before with
  | nil => rfl
  | cons c l ih =>
      rw [List.cons_append, lowerIn, lowerIn, ih, List.append_assoc, List.append_assoc,
        List.reverse_cons, List.append_assoc, List.singleton_append]

/-- The surroundings decide on the forms of letters, not on their number. -/
theorem length_lowerIn (before before' cs behind behind' : List Char) :
    (lowerIn before cs behind).length = (lowerIn before' cs behind').length := by
  induction cs generalizing before before' with
  | nil => rfl
  | cons c r ih =>
      have hat : (lowerAt before c (r ++ behind)).length =
          (lowerAt before' c (r ++ behind')).length := by
        unfold lowerAt
        split <;> rfl
      rw [lowerIn, lowerIn, List.length_append, List.length_append, hat, ih]

/-! ## Settled parts -/

theorem facesCased_append (cs ds : List Char) :
    facesCased (cs ++ ds) =
      if cs.all (inRanges CaseTable.ignorable) then facesCased ds else facesCased cs := by
  induction cs with
  | nil => rfl
  | cons c r ih =>
      by_cases hc : inRanges CaseTable.ignorable c = true
      · simp [facesCased, hc, ih]
      · simp [facesCased, hc]

theorem facesCased_of_all (h : cs.all (inRanges CaseTable.ignorable) = true) :
    facesCased cs = false := by
  induction cs with
  | nil => rfl
  | cons c r ih =>
      obtain ⟨hc, hr⟩ : inRanges CaseTable.ignorable c = true ∧
          r.all (inRanges CaseTable.ignorable) = true := by simpa using h
      simp [facesCased, hc, ih hr]

/-- A sigma that is not open has its form from the part that it stands in. -/
theorem lowerAt_of_closed (h : (c != 'Σ' || !sigmaOpen before behind) = true)
    (x y : List Char) : lowerAt (before ++ x) c (behind ++ y) = lowerAt before c behind := by
  by_cases hc : c = 'Σ'
  · have hclosed : sigmaOpen before behind = false := by simpa [hc] using h
    simp only [sigmaOpen, Bool.or_eq_false_iff] at hclosed
    obtain ⟨hfirst, hlast⟩ := hclosed
    have hsame : (facesCased (before ++ x) && !facesCased (behind ++ y)) =
        (facesCased before && !facesCased behind) := by
      rw [facesCased_append, facesCased_append]
      cases hbefore : before.all (inRanges CaseTable.ignorable) with
      | true =>
          -- there is a cased letter behind the sigma, whatever stands before it
          have hcased : facesCased behind = true := by simpa [hbefore] using hfirst
          have hbehind : behind.all (inRanges CaseTable.ignorable) = false := by
            by_contra hall
            have hnone := facesCased_of_all (by simpa using hall)
            simp [hnone] at hcased
          simp [hbehind, hcased]
      | false =>
          -- what stands before it is settled, and if that has case, so is what stands behind it
          cases hcased : facesCased before with
          | true =>
              have hbehind : behind.all (inRanges CaseTable.ignorable) = false := by
                simpa [hcased] using hlast
              simp [hbehind]
          | false => simp
    simp only [lowerAt, hc, if_true, hsame]
  · simp only [lowerAt, hc, if_false]

/-- **A settled part has one small form**, wherever it stands. -/
theorem lowerIn_of_settled (h : settledAfter before cs = true) (x y : List Char) :
    lowerIn (before ++ x) cs y = lowerIn before cs [] := by
  induction cs generalizing before with
  | nil => rfl
  | cons c r ih =>
      obtain ⟨hclosed, hrest⟩ := Bool.and_eq_true_iff.mp h
      have hr := ih hrest
      rw [lowerIn, lowerIn, lowerAt_of_closed hclosed, List.append_nil, ← List.cons_append, hr]

/-! ## Parts that are not settled -/

/-- A part that is not settled has an open sigma. -/
theorem exists_open_of_not_settled (h : settledAfter before cs = false) :
    ∃ l r, cs = l ++ 'Σ' :: r ∧ sigmaOpen (l.reverse ++ before) r = true := by
  induction cs generalizing before with
  | nil => contradiction
  | cons c r ih =>
      cases hclosed : (c != 'Σ' || !sigmaOpen before r) with
      | false =>
          obtain ⟨hc, hopen⟩ : c = 'Σ' ∧ sigmaOpen before r = true := by
            simpa [Bool.or_eq_false_iff] using hclosed
          exact ⟨[], r, by rw [hc, List.nil_append], hopen⟩
      | true =>
          have hrest : settledAfter (c :: before) r = false := by
            simpa [settledAfter, hclosed] using h
          obtain ⟨l, r', rfl, hopen⟩ := ih hrest
          refine ⟨c :: l, r', rfl, ?_⟩
          rwa [List.reverse_cons, List.append_assoc, List.singleton_append]

/-- Where a sigma has another form, the part has another small form. -/
theorem lowerIn_ne_of_sigma
    (h : lowerAt (l.reverse ++ before) 'Σ' (r ++ behind) ≠
      lowerAt (l.reverse ++ before') 'Σ' (r ++ behind')) :
    lowerIn before (l ++ 'Σ' :: r) behind ≠ lowerIn before' (l ++ 'Σ' :: r) behind' := by
  intro heq
  rw [lowerIn_append, lowerIn_append, lowerIn, lowerIn] at heq
  have hrest := (List.append_inj heq (length_lowerIn ..)).2
  have hlength : (lowerAt (l.reverse ++ before) 'Σ' (r ++ behind)).length =
      (lowerAt (l.reverse ++ before') 'Σ' (r ++ behind')).length := rfl
  exact h (List.append_inj hrest hlength).1

/-- A small letter other than a given one. -/
theorem exists_letter (c? : Option Char) :
    ∃ c, c? ≠ some c ∧ facesCased [c] = true ∧
      ∀ before behind, lowerAt before c behind = [c] := by
  have ha : lowerOf 'a' = ['a'] := by decide +kernel
  have hb : lowerOf 'b' = ['b'] := by decide +kernel
  by_cases h : c? = some 'a'
  · refine ⟨'b', ?_, by decide +kernel, fun before behind => ?_⟩
    · rw [h]
      decide
    · exact hb
  · exact ⟨'a', h, by decide +kernel, fun before behind => ha⟩

/-- A text in one that is longer by the first character. -/
theorem eq_or_head?_of_isInfix_cons (h : l <:+: c :: r) (hlength : l.length = r.length) :
    l = r ∨ l.head? = some c := by
  rcases List.infix_cons_iff.mp h with hfront | hwithin
  · rcases List.prefix_cons_iff.mp hfront with rfl | ⟨t, rfl, -⟩
    · exact .inl (List.length_eq_zero_iff.mp hlength.symm).symm
    · exact .inr rfl
  · exact .inl (hwithin.eq_of_length hlength)

/-- A text in one that is longer by the last character. -/
theorem eq_or_getLast?_of_isInfix_concat (h : l <:+: r ++ [c]) (hlength : l.length = r.length) :
    l = r ∨ l.getLast? = some c := by
  rcases List.infix_concat_iff.mp h with hsuffix | hwithin
  · rcases List.suffix_concat_iff.mp hsuffix with rfl | ⟨t, rfl, -⟩
    · exact .inl (List.length_eq_zero_iff.mp hlength.symm).symm
    · exact .inr (by simp)
  · exact .inl (hwithin.eq_of_length hlength)

/-- **A part that is not settled gets lost in some text**: the small form of the text does not have
the small form of the part in it. One more letter, before the part or behind it, is enough. -/
theorem exists_text_losing (h : settled cs = false) :
    ∃ text, cs <:+: text ∧ ¬ toLower cs <:+: toLower text := by
  obtain ⟨l, r, hcs, hopen⟩ := exists_open_of_not_settled h
  have hcase := Bool.or_eq_true_iff.mp hopen
  rw [List.append_nil] at hcase
  rcases hcase with hfirst | hlast
  · -- a letter in front of the first sigma makes it the last letter of a word
    obtain ⟨hbefore, hbehind⟩ : l.reverse.all (inRanges CaseTable.ignorable) = true ∧
        facesCased r = false := by simpa using hfirst
    obtain ⟨c, hhead, hcased, hlower⟩ := exists_letter (toLower cs).head?
    have htext : toLower (c :: cs) = c :: lowerIn [c] cs [] := by
      rw [toLower, lowerAfter_cons, hlower, lowerAfter_eq_lowerIn, List.singleton_append]
    refine ⟨c :: cs, (List.suffix_cons c cs).isInfix, fun hwithin => ?_⟩
    rw [htext] at hwithin
    have hlength : (toLower cs).length = (lowerIn [c] cs []).length :=
      toLower_eq_lowerIn cs ▸ length_lowerIn ..
    rcases eq_or_head?_of_isInfix_cons hwithin hlength with heq | heq
    · rw [toLower_eq_lowerIn, hcs] at heq
      refine lowerIn_ne_of_sigma ?_ heq
      simp [lowerAt, facesCased_append, hbefore, hbehind, hcased, facesCased_of_all hbefore]
    · exact hhead heq
  · -- a letter behind the last sigma makes it one in the middle of a word
    obtain ⟨hbefore, hbehind⟩ : facesCased l.reverse = true ∧
        r.all (inRanges CaseTable.ignorable) = true := by simpa using hlast
    obtain ⟨c, hlast, hcased, hlower⟩ := exists_letter (toLower cs).getLast?
    have htext : toLower (cs ++ [c]) = lowerIn [] cs [c] ++ [c] := by
      rw [toLower, lowerAfter_append, lowerAfter_cons, hlower]
      rfl
    refine ⟨cs ++ [c], (List.prefix_append cs [c]).isInfix, fun hwithin => ?_⟩
    rw [htext] at hwithin
    have hlength : (toLower cs).length = (lowerIn [] cs [c]).length :=
      toLower_eq_lowerIn cs ▸ length_lowerIn ..
    rcases eq_or_getLast?_of_isInfix_concat hwithin hlength with heq | heq
    · rw [toLower_eq_lowerIn, hcs] at heq
      refine lowerIn_ne_of_sigma ?_ heq
      simp [lowerAt, facesCased_append, hbefore, hbehind, hcased, facesCased_of_all hbehind]
    · exact hlast heq

/-- **Small letters keep a settled part**: a text that has it in it has its small form in it. -/
theorem toLower_isInfix (h : settled cs = true) {text : List Char} (hwithin : cs <:+: text) :
    toLower cs <:+: toLower text := by
  obtain ⟨before, behind, rfl⟩ := hwithin
  refine ⟨lowerIn [] before (cs ++ behind), lowerAfter ((before ++ cs).reverse ++ []) behind, ?_⟩
  have hpart : toLower cs = lowerIn before.reverse cs behind := by
    rw [toLower_eq_lowerIn, ← lowerIn_of_settled h before.reverse behind, List.nil_append]
  rw [hpart, toLower, lowerAfter_append, lowerIn_append, List.append_nil, List.append_nil]

end CommandConsole.Text
