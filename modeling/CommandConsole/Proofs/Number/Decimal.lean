import CommandConsole.Number.Decimal

/-!
# Decimal numerals

What a run of digits denotes. Writing a number and reading its digits gives the number back
(`ofDigits_toDigits`), and a reader with a bound agrees with the value wherever it fits
(`readDigits_of_digits`).
-/

set_option autoImplicit false

namespace CommandConsole.Number

theorem isDigit_eq (c : Char) : isDigit c = c.isDigit := by
  simp [isDigit, Char.isDigit, Char.le_def]

/-- The digits of a number are digits. -/
theorem isDigit_of_mem_toDigits {n : Nat} {c : Char} (hc : c ∈ Nat.toDigits 10 n) :
    isDigit c = true := by
  rw [isDigit_eq]
  exact Nat.isDigit_of_mem_toDigits (by decide) (by decide) hc

theorem ofDigits_eq (ds : List Char) : ofDigits ds = Nat.ofDigitChars 10 ds 0 := by
  rw [Nat.ofDigitChars_eq_foldl]
  rfl

/-- **The digits of a number denote it.** -/
theorem ofDigits_toDigits (n : Nat) : ofDigits (Nat.toDigits 10 n) = n := by
  rw [ofDigits_eq, Nat.ofDigitChars_toDigits (by decide) (by decide)]

/-! ## Bounded readers -/

theorem le_ofDigitChars (ds : List Char) (n : Nat) : n ≤ Nat.ofDigitChars 10 ds n := by
  induction ds generalizing n with
  | nil => simp
  | cons d ds ih =>
      have h := ih (10 * n + (d.toNat - '0'.toNat))
      rw [Nat.ofDigitChars_cons]
      omega

/-- Digits read onto a value give the value they denote, unless that is beyond the limit. -/
theorem readDigits_of_digits (limit : Nat) (beyond : NumeralError) {ds : List Char}
    (hds : ∀ d ∈ ds, isDigit d = true) {n : Nat} (hn : n ≤ limit) :
    readDigits limit beyond n ds =
      if Nat.ofDigitChars 10 ds n ≤ limit then .ok (Nat.ofDigitChars 10 ds n)
      else .error beyond := by
  induction ds generalizing n with
  | nil => simp [readDigits, hn]
  | cons d ds ih =>
      have hd : isDigit d = true := hds d (by simp)
      have hrest : ∀ c ∈ ds, isDigit c = true := fun c hc => hds c (List.mem_cons_of_mem _ hc)
      rw [Nat.ofDigitChars_cons]
      by_cases hle : 10 * n + digitValue d ≤ limit
      · simp only [readDigits, hd, hle, if_true]
        exact ih hrest hle
      · -- the digits that are left cannot bring the value back below the limit
        have hbig := le_ofDigitChars ds (10 * n + digitValue d)
        have hlarge : ¬Nat.ofDigitChars 10 ds (10 * n + digitValue d) ≤ limit := by omega
        simp only [readDigits, hd, hle, if_true, if_false]
        exact (if_neg hlarge).symm

/-- A number from zero to the largest signed word is a signed word. -/
theorem isInt64_of_nonneg {n : Int} (h : 0 ≤ n) (hle : n ≤ maxInt64) : isInt64 n = true := by
  have hsize : -(minInt64Size : Int) ≤ n := by
    have hneg : -(minInt64Size : Int) ≤ 0 := Int.neg_nonpos_of_nonneg (Int.natCast_nonneg _)
    exact Int.le_trans hneg h
  simp [isInt64, hsize, hle]

end CommandConsole.Number
