import CommandConsole.Proofs.Number.Decimal
import Mathlib.Algebra.Order.Ring.Int

/-!
# Signed numerals

A numeral is a sign or none, and then one ASCII digit or more; it denotes a whole number of any size
(`Denotes`). Two recognisers were written for it: the test that the slots of a signature make, which
looks at signs and digits only, and the reader of signed words, which adds the digits up and stops
when the number gets too large. They agree on every text (`isInteger_iff`,
`readInt64_eq_ok_iff`), and the reader gives the number, or says on which side it is out of range
(`readInt64_of_denotes`).
-/

set_option autoImplicit false

namespace CommandConsole.Number

variable {cs ds : List Char} {n : Int}

/-! ## What a numeral denotes -/

/-- One digit or more. -/
structure DigitRun (ds : List Char) : Prop where
  ne_nil : ds ≠ []
  isDigit : ∀ d ∈ ds, d.isDigit = true

/-- **The whole number that a numeral denotes**: digits, with or without a sign in front. -/
inductive Denotes : List Char → Int → Prop where
  | plain {ds : List Char} : DigitRun ds → Denotes ds (Nat.ofDigitChars 10 ds 0)
  | plus {ds : List Char} : DigitRun ds → Denotes ('+' :: ds) (Nat.ofDigitChars 10 ds 0)
  | minus {ds : List Char} : DigitRun ds → Denotes ('-' :: ds) (-(Nat.ofDigitChars 10 ds 0 : Int))

/-- What is said of a number that is no signed word. -/
inductive OutOfRange (n : Int) : String → Prop where
  | large : 2 ^ 63 - 1 < n → OutOfRange n "number too large to fit in target type"
  | small : n < -2 ^ 63 → OutOfRange n "number too small to fit in target type"

/-! ## The test -/

theorem digitRun_iff : DigitRun ds ↔ (!ds.isEmpty && ds.all isDigit) = true := by
  rw [Bool.and_eq_true, List.all_eq_true, Bool.not_eq_true', List.isEmpty_eq_false_iff]
  simp only [isDigit_eq]
  exact ⟨fun h => ⟨h.ne_nil, h.isDigit⟩, fun h => ⟨h.1, h.2⟩⟩

/-- No run of digits starts with a sign. -/
theorem DigitRun.head_ne {c : Char} (h : DigitRun (c :: ds)) : c ≠ '-' ∧ c ≠ '+' := by
  have hc : c.isDigit = true := h.isDigit c List.mem_cons_self
  constructor
  · rintro rfl
    exact absurd hc (by decide)
  · rintro rfl
    exact absurd hc (by decide)

theorem unsigned_of_digitRun (h : DigitRun ds) : unsigned ds = ds := by
  unfold unsigned
  split
  · exact absurd rfl h.head_ne.1
  · exact absurd rfl h.head_ne.2
  · rfl

/-- **What passes the test of a slot is a numeral.** -/
theorem isInteger_iff : isInteger cs = true ↔ ∃ n, Denotes cs n := by
  have htest : isInteger cs = true ↔ DigitRun (unsigned cs) := digitRun_iff.symm
  rw [htest]
  constructor
  · intro h
    unfold unsigned at h
    split at h
    · exact ⟨_, .minus h⟩
    · exact ⟨_, .plus h⟩
    · exact ⟨_, .plain h⟩
  · rintro ⟨n, h⟩
    cases h with
    | plain h => rwa [unsigned_of_digitRun h]
    | plus h => exact h
    | minus h => exact h

/-- A text denotes one number at most. -/
theorem Denotes.unique {m : Int} (h : Denotes cs n) (h' : Denotes cs m) : n = m := by
  cases h with
  | plain hds =>
      cases h' with
      | plain _ => rfl
      | plus _ => exact absurd rfl hds.head_ne.2
      | minus _ => exact absurd rfl hds.head_ne.1
  | plus _ =>
      cases h' with
      | plain hds => exact absurd rfl hds.head_ne.2
      | plus _ => rfl
  | minus _ =>
      cases h' with
      | plain hds => exact absurd rfl hds.head_ne.1
      | minus _ => rfl

/-! ## The reader -/

/-- A run of digits is read up to a limit. -/
theorem readDigits_of (limit : Nat) (beyond : NumeralError) (h : DigitRun ds) :
    readDigits limit beyond 0 ds =
      if Nat.ofDigitChars 10 ds 0 ≤ limit then .ok (Nat.ofDigitChars 10 ds 0)
      else .error beyond := by
  refine readDigits_of_digits limit beyond (fun d hd => ?_) (Nat.zero_le limit)
  rw [isDigit_eq]
  exact h.isDigit d hd

theorem readInt64_plain (h : DigitRun ds) :
    readInt64 ds = (readDigits maxInt64 .tooLarge 0 ds).map Int.ofNat := by
  unfold readInt64
  split
  · exact absurd rfl h.ne_nil
  · exact absurd rfl h.head_ne.1
  · exact absurd rfl h.head_ne.2
  · exact absurd rfl h.head_ne.1
  · exact absurd rfl h.head_ne.2
  · rfl

theorem readInt64_plus (h : DigitRun ds) :
    readInt64 ('+' :: ds) = (readDigits maxInt64 .tooLarge 0 ds).map Int.ofNat := by
  cases ds with
  | nil => exact absurd rfl h.ne_nil
  | cons d ds => rfl

theorem readInt64_minus (h : DigitRun ds) :
    readInt64 ('-' :: ds) =
      (readDigits minInt64Size .tooSmall 0 ds).map fun n => -(n : Int) := by
  cases ds with
  | nil => exact absurd rfl h.ne_nil
  | cons d ds => rfl

/-- **The reader gives the number that a numeral denotes**, or says on which side it is out of
range; however long the numeral is, it has no other complaint. -/
theorem readInt64_of_denotes (h : Denotes cs n) :
    readInt64 cs =
      if 2 ^ 63 - 1 < n then .error .tooLarge
      else if n < -2 ^ 63 then .error .tooSmall
      else .ok n := by
  have hmax : maxInt64 = 2 ^ 63 - 1 := rfl
  have hsize : minInt64Size = 2 ^ 63 := rfl
  -- a numeral without a minus is not negative, so it can only be too large
  have hupper {ds : List Char} (h : DigitRun ds) :
      (readDigits maxInt64 .tooLarge 0 ds).map Int.ofNat =
        if 2 ^ 63 - 1 < (Nat.ofDigitChars 10 ds 0 : Int) then .error .tooLarge
        else if (Nat.ofDigitChars 10 ds 0 : Int) < -2 ^ 63 then .error .tooSmall
        else .ok (Nat.ofDigitChars 10 ds 0 : Int) := by
    rw [readDigits_of maxInt64 .tooLarge h, hmax]
    by_cases hle : Nat.ofDigitChars 10 ds 0 ≤ 2 ^ 63 - 1
    · rw [if_pos hle, if_neg (by omega), if_neg (by omega)]
      rfl
    · rw [if_neg hle, if_pos (by omega)]
      rfl
  cases h with
  | plain h => rw [readInt64_plain h, hupper h]
  | plus h => rw [readInt64_plus h, hupper h]
  | @minus ds h =>
      rw [readInt64_minus h, readDigits_of minInt64Size .tooSmall h, hsize,
        if_neg (by omega : ¬2 ^ 63 - 1 < -(Nat.ofDigitChars 10 ds 0 : Int))]
      by_cases hle : Nat.ofDigitChars 10 ds 0 ≤ 2 ^ 63
      · rw [if_pos hle, if_neg (by omega)]
        rfl
      · rw [if_neg hle, if_pos (by omega)]
        rfl

theorem readInt64_of_outOfRange {reason : String} (h : Denotes cs n) (hout : OutOfRange n reason) :
    ∃ e, readInt64 cs = .error e ∧ e.message = reason := by
  cases hout with
  | large hlarge => exact ⟨.tooLarge, by rw [readInt64_of_denotes h, if_pos hlarge], rfl⟩
  | small hsmall =>
      have hneg : ¬2 ^ 63 - 1 < n := by omega
      exact ⟨.tooSmall, by rw [readInt64_of_denotes h, if_neg hneg, if_pos hsmall], rfl⟩

/-! ## What the reader takes -/

theorem isDigit_of_readDigits {limit m k : Nat} {beyond : NumeralError}
    (h : readDigits limit beyond k ds = .ok m) : ∀ d ∈ ds, d.isDigit = true := by
  induction ds generalizing k with
  | nil => simp
  | cons c r ih =>
      simp only [readDigits] at h
      split at h
      · rename_i hc
        split at h
        · rw [List.forall_mem_cons]
          exact ⟨isDigit_eq c ▸ hc, ih h⟩
        · contradiction
      · contradiction

/-- What the reader takes is a numeral: a sign or none, and digits to the end. -/
theorem exists_denotes_of_readInt64 (h : readInt64 cs = .ok n) : ∃ m, Denotes cs m := by
  -- without a complaint all digits behind the sign have been looked at
  have hdigits (limit : Nat) (beyond : NumeralError) {ds : List Char} (hne : ds ≠ [])
      (hread : ∀ e, readDigits limit beyond 0 ds ≠ .error e) : DigitRun ds := by
    cases hm : readDigits limit beyond 0 ds with
    | error e => exact absurd hm (hread e)
    | ok m => exact ⟨hne, isDigit_of_readDigits hm⟩
  unfold readInt64 at h
  split at h
  · contradiction
  · contradiction
  · contradiction
  · rename_i ds hne
    refine ⟨_, .minus (hdigits minInt64Size .tooSmall hne fun e he => ?_)⟩
    rw [he] at h
    contradiction
  · rename_i ds hne
    refine ⟨_, .plus (hdigits maxInt64 .tooLarge hne fun e he => ?_)⟩
    rw [he] at h
    contradiction
  · rename_i hne _ _ _ _
    refine ⟨_, .plain (hdigits maxInt64 .tooLarge hne fun e he => ?_)⟩
    rw [he] at h
    contradiction

/-- **What the reader takes**: the numerals of signed words, each for the number that it denotes. -/
theorem readInt64_eq_ok_iff :
    readInt64 cs = .ok n ↔ Denotes cs n ∧ -2 ^ 63 ≤ n ∧ n ≤ 2 ^ 63 - 1 := by
  constructor
  · intro h
    obtain ⟨m, hm⟩ := exists_denotes_of_readInt64 h
    have hread := readInt64_of_denotes hm
    rw [h] at hread
    by_cases hlarge : 2 ^ 63 - 1 < m
    · rw [if_pos hlarge] at hread
      contradiction
    by_cases hsmall : m < -2 ^ 63
    · rw [if_neg hlarge, if_pos hsmall] at hread
      contradiction
    rw [if_neg hlarge, if_neg hsmall] at hread
    obtain rfl : n = m := Except.ok.inj hread
    exact ⟨hm, Int.not_lt.mp hsmall, Int.not_lt.mp hlarge⟩
  · rintro ⟨hn, hlower, hupper⟩
    rw [readInt64_of_denotes hn, if_neg (by omega), if_neg (by omega)]

end CommandConsole.Number
