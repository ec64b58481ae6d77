import CommandConsole.Proofs.Number.Rounding
import CommandConsole.Proofs.Records.Condition
import Mathlib.Algebra.Order.Ring.Int
import Mathlib.Algebra.Order.Ring.Unbundled.Basic

/-!
# Whole numbers in terms of a domain

Equality looks at whole numbers as they are, but their order is that of their doubles. The two agree
except on blurred numbers, which are different and have one double: none of them is found to be
less, and none to be greater (`whole_numbers_ordered_iff`).
-/

set_option autoImplicit false

namespace CommandConsole.Records.Condition

open Number

/-! ## The operators on whole numbers -/

section

variable (a b : Int)

/-- The order of two whole numbers is that of the numbers that they are rounded to. -/
theorem ordered_int (asked : Ordering → Bool) :
    ordered asked (.int a) (.int b) = asked (compare (rounded a) (rounded b)) := by
  have hone : (0 : Int) < (Double.one : Int) := Int.natCast_pos.mpr Double.one_pos
  have hscale : compare (rounded a * (Double.one : Int)) (rounded b * (Double.one : Int)) =
      compare (rounded a) (rounded b) := by
    rw [← cmp_eq_compare, ← cmp_eq_compare]
    exact cmp_mul_pos_right hone ..
  show asked (compare (Double.ofInt a).value (Double.ofInt b).value) = _
  rw [value_ofInt, value_ofInt, hscale]

theorem compares_equal_int : compares "=" (.int a) (.int b) = decide (a = b) := by
  show (a == b) = _
  rw [Bool.eq_iff_iff]
  simp

theorem compares_less_int : compares "<" (.int a) (.int b) = decide (rounded a < rounded b) := by
  show ordered (· == .lt) (.int a) (.int b) = _
  rw [ordered_int, Bool.eq_iff_iff]
  simp [Int.compare_eq_lt]

theorem compares_atMost_int :
    compares "<=" (.int a) (.int b) = decide (rounded a ≤ rounded b) := by
  show ordered (· != .gt) (.int a) (.int b) = _
  rw [ordered_int, Bool.eq_iff_iff]
  simp [compare_le_iff_le]

theorem compares_greater_int :
    compares ">" (.int a) (.int b) = decide (rounded b < rounded a) := by
  show ordered (· == .gt) (.int a) (.int b) = _
  rw [ordered_int, Bool.eq_iff_iff]
  simp [compare_gt_iff_gt]

theorem compares_atLeast_int :
    compares ">=" (.int a) (.int b) = decide (rounded b ≤ rounded a) := by
  show ordered (· != .lt) (.int a) (.int b) = _
  rw [ordered_int, Bool.eq_iff_iff]
  simp [compare_ge_iff_ge]

end

/-! ## Whole numbers of records -/

/-- The operators on a whole number of a record go by the order of the whole numbers. -/
structure FollowsOrder (field : String) (id : Nat) (record : Json.Fields) (a b : Int) : Prop where
  less : (⟨field, "<", .int b⟩ : Condition).meets id record = decide (a < b)
  atMost : (⟨field, "<=", .int b⟩ : Condition).meets id record = decide (a ≤ b)
  greater : (⟨field, ">", .int b⟩ : Condition).meets id record = decide (b < a)
  atLeast : (⟨field, ">=", .int b⟩ : Condition).meets id record = decide (b ≤ a)

variable {field : String} {id : Nat} {record : Json.Fields} {a b : Int}

theorem followsOrder_of_clear (ha : held field id record = .int a) (hclear : ¬ Blurred a b) :
    FollowsOrder field id record a b := by
  have hclear' : ¬ Blurred b a := fun h => hclear (blurred_comm.mp h)
  constructor
  · rw [meets_eq, ha, compares_less_int, decide_eq_decide, rounded_lt_iff]
    exact and_iff_left hclear
  · rw [meets_eq, ha, compares_atMost_int, decide_eq_decide, rounded_le_iff]
    exact or_iff_left hclear
  · rw [meets_eq, ha, compares_greater_int, decide_eq_decide, rounded_lt_iff]
    exact and_iff_left hclear'
  · rw [meets_eq, ha, compares_atLeast_int, decide_eq_decide, rounded_le_iff]
    exact or_iff_left hclear'

/-- **The order of whole numbers in a domain.** A record has a whole number in a field, and a term
compares it with another one. Equality is exact. The four operators of order go by the order of the
whole numbers if and only if the two are not blurred. If they are, then the one is neither less nor
greater, and both at most and at least the other, although it is not equal to it; one of the two
has more than 53 bits then, and words that are blurred are at most 2048 apart. -/
theorem whole_numbers_ordered_iff (ha : held field id record = .int a) (b : Int) :
    (FollowsOrder field id record a b ↔ ¬ Blurred a b) ∧
    (⟨field, "=", .int b⟩ : Condition).meets id record = decide (a = b) ∧
    (Blurred a b →
      (⟨field, "=", .int b⟩ : Condition).meets id record = false ∧
      (⟨field, "<", .int b⟩ : Condition).meets id record = false ∧
      (⟨field, ">", .int b⟩ : Condition).meets id record = false ∧
      (⟨field, "<=", .int b⟩ : Condition).meets id record = true ∧
      (⟨field, ">=", .int b⟩ : Condition).meets id record = true ∧
      2 ^ 53 < max a.natAbs b.natAbs ∧
      (a.natAbs < 2 ^ 64 → b.natAbs < 2 ^ 64 → (a - b).natAbs ≤ 2 ^ 11)) := by
  have hequal : (⟨field, "=", .int b⟩ : Condition).meets id record = decide (a = b) := by
    rw [meets_eq, ha, compares_equal_int]
  have hblurred (h : Blurred a b) :
      (⟨field, "<", .int b⟩ : Condition).meets id record = false ∧
      (⟨field, ">", .int b⟩ : Condition).meets id record = false ∧
      (⟨field, "<=", .int b⟩ : Condition).meets id record = true ∧
      (⟨field, ">=", .int b⟩ : Condition).meets id record = true := by
    have heq := h.2
    simp [meets_eq, ha, compares_less_int, compares_greater_int, compares_atMost_int,
      compares_atLeast_int, heq]
  refine ⟨⟨fun horder h => ?_, followsOrder_of_clear ha⟩, hequal, fun h => ?_⟩
  · -- of two different numbers one is less, but of two blurred ones none is found to be
    obtain ⟨hless, hgreater, -, -⟩ := hblurred h
    have hnotless := horder.less.symm.trans hless
    have hnotgreater := horder.greater.symm.trans hgreater
    have hne := h.1
    simp only [decide_eq_false_iff_not] at hnotless hnotgreater
    omega
  · obtain ⟨hless, hgreater, hatMost, hatLeast⟩ := hblurred h
    have hne : (⟨field, "=", .int b⟩ : Condition).meets id record = false := by
      rw [hequal]
      exact decide_eq_false h.1
    exact ⟨hne, hless, hgreater, hatMost, hatLeast, h.lt_max, h.abs_sub_le⟩

/-- Two whole numbers next to each other, beyond the numbers with 53 bits. -/
theorem whole_numbers_ordered_iff_neighbours :
    held "n" 1 [("n", .int (2 ^ 53 + 1))] = .int (2 ^ 53 + 1) ∧
    Blurred (2 ^ 53 + 1) (2 ^ 53) ∧
    ¬ FollowsOrder "n" 1 [("n", .int (2 ^ 53 + 1))] (2 ^ 53 + 1) (2 ^ 53) ∧
    FollowsOrder "n" 1 [("n", .int (2 ^ 53 + 1))] (2 ^ 53 + 1) (2 ^ 53 - 1) := by
  have hheld : held "n" 1 [("n", .int (2 ^ 53 + 1))] = .int (2 ^ 53 + 1) := rfl
  have hblurred : Blurred (2 ^ 53 + 1) (2 ^ 53) := by decide
  have hclear : ¬ Blurred (2 ^ 53 + 1) (2 ^ 53 - 1) := by decide
  exact ⟨hheld, hblurred, fun horder => (whole_numbers_ordered_iff hheld _).1.mp horder hblurred,
    (whole_numbers_ordered_iff hheld _).1.mpr hclear⟩

/-- A greater number is not found to be greater, nor to be less or equal, but to be at most as
great. -/
theorem greater_number_at_most :
    let meets (operator : String) := (⟨"n", operator, .int 9007199254740992⟩ : Condition).meets 1
      [("n", .int 9007199254740993)]
    (9007199254740992 : Int) < 9007199254740993 ∧ meets ">" = false ∧ meets "<" = false ∧
      meets "=" = false ∧ meets "<=" = true := by
  decide +kernel

end CommandConsole.Records.Condition
