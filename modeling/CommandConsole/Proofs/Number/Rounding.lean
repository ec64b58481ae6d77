import CommandConsole.Number.Double
import Mathlib.Data.Int.Order.Basic
import Mathlib.Data.Nat.Log
import Mathlib.Tactic.Ring

/-!
# Whole numbers as doubles

The double nearest to a whole number is again a whole number, `rounded`: the nearest one with 53
significant bits. The numbers up to 2 ^ 53 are kept (`rounded_of_le`), and rounding never turns the
order of two numbers around (`rounded_mono`). But beyond 2 ^ 53 different numbers can become equal.
Such a pair is *blurred*, and within the range of the signed and the unsigned words the two are
close together (`Blurred.abs_sub_le`).
-/

set_option autoImplicit false

namespace CommandConsole.Number

/-! ## The nearest whole number of a ratio -/

section

variable {m n d : Nat}

theorem roundDiv_mul_self (q : Nat) (hd : 0 < d) : roundDiv (q * d) d = q := by
  have hne : d ≠ 0 := by omega
  simp [roundDiv, Nat.mul_div_cancel q hd, hne.symm]

theorem roundDiv_mul_right (n d : Nat) {c : Nat} (hc : 0 < c) :
    roundDiv (n * c) (d * c) = roundDiv n d := by
  have htwice : 2 * (n % d * c) = 2 * (n % d) * c := (Nat.mul_assoc ..).symm
  have hlt : d * c < 2 * (n % d) * c ↔ d < 2 * (n % d) := Nat.mul_lt_mul_right hc
  have heq : 2 * (n % d) * c = d * c ↔ 2 * (n % d) = d := Nat.mul_left_inj (by omega)
  simp only [roundDiv, Nat.mul_div_mul_right n d hc, Nat.mul_mod_mul_right, htwice, hlt, heq]

theorem div_le_roundDiv (n d : Nat) : n / d ≤ roundDiv n d ∧ roundDiv n d ≤ n / d + 1 := by
  unfold roundDiv
  dsimp only
  split <;> omega

/-- A greater number has no smaller quotient. -/
theorem roundDiv_mono (d : Nat) (h : m ≤ n) : roundDiv m d ≤ roundDiv n d := by
  have hdiv : m / d ≤ n / d := Nat.div_le_div_right h
  rcases Nat.lt_or_eq_of_le hdiv with hlt | heq
  · have hm := (div_le_roundDiv m d).2
    have hn := (div_le_roundDiv n d).1
    omega
  · -- between the same two multiples the one that is further up is rounded up if the other one is
    have hm := Nat.div_add_mod m d
    have hn := Nat.div_add_mod n d
    rw [heq] at hm
    have hmod : m % d ≤ n % d := by omega
    unfold roundDiv
    dsimp only
    rw [heq]
    split
    · split <;> omega
    · split <;> omega

/-- The nearest multiple is no further away than half a step. -/
theorem roundDiv_near (hd : 0 < d) :
    2 * n ≤ 2 * (roundDiv n d * d) + d ∧ 2 * (roundDiv n d * d) ≤ 2 * n + d := by
  have hn := Nat.div_add_mod n d
  have hmod := Nat.mod_lt n hd
  have hcomm : n / d * d = d * (n / d) := Nat.mul_comm ..
  unfold roundDiv
  dsimp only
  split
  · have hstep : (n / d + 1) * d = d * (n / d) + d := by ring
    omega
  · omega

end

namespace Double

/-! ## The nearest magnitude -/

section

variable {m n k : Nat}

theorem log2_mul_two_pow (hn : n ≠ 0) (k : Nat) : (n * 2 ^ k).log2 = n.log2 + k := by
  have hpos : 0 < 2 ^ k := Nat.two_pow_pos k
  have hne : n * 2 ^ k ≠ 0 := Nat.mul_ne_zero hn (by omega)
  have hle : n.log2 + k ≤ (n * 2 ^ k).log2 := by
    rw [Nat.le_log2 hne, Nat.pow_add]
    exact Nat.mul_le_mul_right _ (Nat.log2_self_le hn)
  have hlt : (n * 2 ^ k).log2 < n.log2 + 1 + k := by
    rw [Nat.log2_lt hne, Nat.pow_add]
    exact Nat.mul_lt_mul_of_pos_right Nat.lt_log2_self hpos
  omega

theorem log2_mono (hm : m ≠ 0) (h : m ≤ n) : m.log2 ≤ n.log2 := by
  rw [Nat.le_log2 (by omega)]
  exact (Nat.log2_self_le hm).trans h

theorem spacing_eq (n : Nat) : spacing n = 2 ^ (n.log2 - 52) := rfl

theorem spacing_pos (n : Nat) : 0 < spacing n := Nat.two_pow_pos _

theorem spacing_of_lt (h : n < 2 ^ 53) : spacing n = 1 := by
  rcases Nat.eq_zero_or_pos n with rfl | hpos
  · rfl
  · have hlog : n.log2 < 53 := (Nat.log2_lt (by omega)).mpr h
    rw [spacing_eq, Nat.sub_eq_zero_of_le (by omega), Nat.pow_zero]

theorem nearest_one (n : Nat) : nearest n 1 = roundDiv n (spacing n) * spacing n := by
  simp [nearest]

/-- A multiple of the step around it is a magnitude of the format. -/
theorem nearest_of_dvd (h : spacing n ∣ n) : nearest n 1 = n := by
  obtain ⟨q, hq⟩ := h
  have hmul : n = q * spacing n := by rw [Nat.mul_comm, ← hq]
  calc nearest n 1
      = roundDiv (q * spacing n) (spacing n) * spacing n := by rw [nearest_one, ← hmul]
    _ = q * spacing n := by rw [roundDiv_mul_self q (spacing_pos n)]
    _ = n := hmul.symm

theorem nearest_of_lt (h : n < 2 ^ 53) : nearest n 1 = n :=
  nearest_of_dvd (by rw [spacing_of_lt h]; exact Nat.one_dvd n)

/-- Rounding does not depend on the unit, as long as units are powers of two. -/
theorem nearest_mul_two_pow (n k : Nat) : nearest (n * 2 ^ k) 1 = nearest n 1 * 2 ^ k := by
  rcases Nat.eq_zero_or_pos n with rfl | hpos
  · rw [Nat.zero_mul, nearest_of_lt (Nat.two_pow_pos 53), Nat.zero_mul]
  · have hlog := log2_mul_two_pow (Nat.ne_of_gt hpos) k
    by_cases hsmall : n.log2 ≤ 52
    · -- such a number is kept, and a multiple of the unit that is large enough has no smaller step
      have hdvd : spacing (n * 2 ^ k) ∣ n * 2 ^ k := by
        rw [spacing_eq, hlog]
        exact Dvd.dvd.mul_left (Nat.pow_dvd_pow 2 (by omega)) n
      have hkept : nearest n 1 = n :=
        nearest_of_lt ((Nat.log2_lt (Nat.ne_of_gt hpos)).mp (by omega))
      rw [nearest_of_dvd hdvd, hkept]
    · have hspacing : spacing (n * 2 ^ k) = spacing n * 2 ^ k := by
        rw [spacing_eq, spacing_eq, hlog, ← Nat.pow_add]
        congr 1
        omega
      rw [nearest_one, nearest_one, hspacing, roundDiv_mul_right _ _ (Nat.two_pow_pos k),
        Nat.mul_assoc]

theorem one_pos : 0 < one := by
  unfold one
  generalize 1074 = k
  exact Nat.two_pow_pos k

theorem nearest_mul_one (n : Nat) : nearest (n * one) 1 = nearest n 1 * one := by
  unfold one
  generalize 1074 = k
  exact nearest_mul_two_pow n k

/-- A power of two is a multiple of the step below it and of the step above it. -/
theorem nearest_le_two_pow (h : n.log2 < k) : nearest n 1 ≤ 2 ^ k := by
  have hlt : n ≤ 2 ^ k := by
    have hle : 2 ^ (n.log2 + 1) ≤ 2 ^ k := Nat.pow_le_pow_right (by decide) h
    have hself : n < 2 ^ (n.log2 + 1) := Nat.lt_log2_self
    omega
  have hdvd : spacing n ∣ 2 ^ k := Nat.pow_dvd_pow 2 (by omega)
  obtain ⟨q, hq⟩ := hdvd
  have hmul : 2 ^ k = q * spacing n := by rw [Nat.mul_comm, ← hq]
  calc nearest n 1
      = roundDiv n (spacing n) * spacing n := nearest_one n
    _ ≤ roundDiv (2 ^ k) (spacing n) * spacing n :=
        Nat.mul_le_mul_right _ (roundDiv_mono _ hlt)
    _ = 2 ^ k := by rw [hmul, roundDiv_mul_self q (spacing_pos n)]

theorem two_pow_le_nearest (hn : n ≠ 0) (h : k ≤ n.log2) : 2 ^ k ≤ nearest n 1 := by
  have hle : 2 ^ n.log2 ≤ n := Nat.log2_self_le hn
  have hdvd : spacing n ∣ 2 ^ n.log2 := Nat.pow_dvd_pow 2 (by omega)
  obtain ⟨q, hq⟩ := hdvd
  have hmul : 2 ^ n.log2 = q * spacing n := by rw [Nat.mul_comm, ← hq]
  calc 2 ^ k
      ≤ 2 ^ n.log2 := Nat.pow_le_pow_right (by decide) h
    _ = roundDiv (2 ^ n.log2) (spacing n) * spacing n := by
        rw [hmul, roundDiv_mul_self q (spacing_pos n)]
    _ ≤ roundDiv n (spacing n) * spacing n :=
        Nat.mul_le_mul_right _ (roundDiv_mono _ hle)
    _ = nearest n 1 := (nearest_one n).symm

/-- **A greater number has no smaller double.** -/
theorem nearest_mono (h : m ≤ n) : nearest m 1 ≤ nearest n 1 := by
  rcases Nat.eq_zero_or_pos m with rfl | hpos
  · rw [nearest_of_lt (Nat.two_pow_pos 53)]
    exact Nat.zero_le _
  · have hm : m ≠ 0 := by omega
    rcases Nat.lt_or_eq_of_le (log2_mono hm h) with hlt | heq
    · -- a power of two stands between the two, and rounding does not cross it
      have hle : nearest m 1 ≤ 2 ^ n.log2 := nearest_le_two_pow hlt
      exact hle.trans (two_pow_le_nearest (by omega) (Nat.le_refl _))
    · rw [nearest_one, nearest_one, spacing_eq, spacing_eq, heq]
      exact Nat.mul_le_mul_right _ (roundDiv_mono _ h)

/-- The nearest magnitude is no further away than half a step. -/
theorem nearest_near (n : Nat) :
    2 * n ≤ 2 * nearest n 1 + spacing n ∧ 2 * nearest n 1 ≤ 2 * n + spacing n := by
  rw [nearest_one]
  exact roundDiv_near (spacing_pos n)

end

end Double

/-! ## Whole numbers with a sign -/

/-- The whole number that the double nearest to a whole number stands for. -/
def rounded (a : Int) : Int :=
  if a < 0 then -(Double.nearest a.natAbs 1 : Int) else Double.nearest a.natAbs 1

/-- Two different whole numbers that have the same nearest double. -/
def Blurred (a b : Int) : Prop := a ≠ b ∧ rounded a = rounded b

instance (a b : Int) : Decidable (Blurred a b) :=
  inferInstanceAs (Decidable (a ≠ b ∧ rounded a = rounded b))

section

variable {a b : Int}

/-- **The double of a whole number** is `rounded`, in the unit of doubles. -/
theorem value_ofInt (a : Int) : (Double.ofInt a).value = rounded a * (Double.one : Int) := by
  rw [rounded, Double.value, Double.ofInt, Double.ofNat]
  dsimp only
  rw [Double.nearest_mul_one]
  generalize Double.one = unit
  by_cases ha : a < 0
  · simp [ha]
  · simp [ha]

theorem rounded_mono (h : a ≤ b) : rounded a ≤ rounded b := by
  unfold rounded
  by_cases ha : a < 0
  · by_cases hb : b < 0
    · have hle := Double.nearest_mono (m := b.natAbs) (n := a.natAbs) (by omega)
      simp only [ha, hb, if_true]
      omega
    · simp only [ha, hb, if_true, if_false]
      omega
  · have hb : ¬ b < 0 := by omega
    have hle := Double.nearest_mono (m := a.natAbs) (n := b.natAbs) (by omega)
    simp only [ha, hb, if_false]
    omega

/-- Numbers with 53 bits or fewer are kept. -/
theorem rounded_of_le (h : a.natAbs ≤ 2 ^ 53) : rounded a = a := by
  have hkept : Double.nearest a.natAbs 1 = a.natAbs := by
    rcases Nat.lt_or_eq_of_le h with hlt | heq
    · exact Double.nearest_of_lt hlt
    · rw [heq]
      decide
  unfold rounded
  rw [hkept]
  split <;> omega

/-- A word is rounded by 2 ^ 10 at most. -/
theorem abs_rounded_sub_le (h : a.natAbs < 2 ^ 64) : (rounded a - a).natAbs ≤ 2 ^ 10 := by
  have hnear := Double.nearest_near a.natAbs
  have hspacing : Double.spacing a.natAbs ≤ 2 ^ 11 := by
    have hlog : a.natAbs.log2 ≤ 63 := by
      rcases Nat.eq_zero_or_pos a.natAbs with hzero | hpos
      · rw [hzero]
        decide
      · have hlt := (Nat.log2_lt (Nat.ne_of_gt hpos)).mpr h
        omega
    rw [Double.spacing_eq]
    exact Nat.pow_le_pow_right (by decide) (by omega)
  unfold rounded
  split <;> omega

/-- **Blurred numbers are large**: one of them has more than 53 bits. -/
theorem Blurred.lt_max (h : Blurred a b) : 2 ^ 53 < max a.natAbs b.natAbs := by
  obtain ⟨hne, heq⟩ := h
  by_contra hsmall
  have ha : rounded a = a := rounded_of_le (by omega)
  have hb : rounded b = b := rounded_of_le (by omega)
  omega

/-- **Blurred words are close together.** -/
theorem Blurred.abs_sub_le (h : Blurred a b) (ha : a.natAbs < 2 ^ 64) (hb : b.natAbs < 2 ^ 64) :
    (a - b).natAbs ≤ 2 ^ 11 := by
  have heq := h.2
  have hnear := abs_rounded_sub_le ha
  have hnear' := abs_rounded_sub_le hb
  omega

/-- Rounding keeps two numbers in their order unless it blurs them. -/
theorem rounded_lt_iff : rounded a < rounded b ↔ a < b ∧ ¬ Blurred a b := by
  constructor
  · intro hlt
    have hab : a < b := by
      by_contra hle
      have hge := rounded_mono (a := b) (b := a) (by omega)
      omega
    exact ⟨hab, fun hblurred => by have heq := hblurred.2; omega⟩
  · rintro ⟨hlt, hclear⟩
    have hle := rounded_mono (Int.le_of_lt hlt)
    have hne : rounded a ≠ rounded b := fun heq => hclear ⟨by omega, heq⟩
    omega

theorem blurred_comm : Blurred a b ↔ Blurred b a := by
  unfold Blurred
  rw [ne_comm, eq_comm (a := rounded a)]

/-- Blurred numbers are rounded to the same, and so are equal ones. -/
theorem rounded_le_iff : rounded a ≤ rounded b ↔ a ≤ b ∨ Blurred a b := by
  rw [← not_lt, rounded_lt_iff, blurred_comm]
  by_cases hblurred : Blurred a b
  · simp [hblurred]
  · simp [hblurred]

end

end CommandConsole.Number
