/-
# Data.Truncation -- a rational number without its fraction

`truncate` is Python's `int` of a number: it drops the fraction, towards zero.
-/
import Mathlib

namespace EmbodiRun.Data

def truncate (q : ℚ) : Int := q.num.tdiv q.den

variable {q r : ℚ} {n : Int}

theorem truncate_of_nonneg (nonneg : 0 ≤ q) : truncate q = ⌊q⌋ := by
  rw [truncate, Rat.floor_def', Int.tdiv_eq_ediv_of_nonneg (Rat.num_nonneg.mpr nonneg)]

@[simp] theorem truncate_neg : truncate (-q) = -truncate q := by
  simp [truncate, Int.neg_tdiv]

@[simp] theorem truncate_intCast : truncate (n : ℚ) = n := by
  simp [truncate]

/-- Towards zero. -/
theorem truncate_bounds : (0 ≤ q → (truncate q : ℚ) ≤ q ∧ q < truncate q + 1) ∧
    (q ≤ 0 → q ≤ truncate q ∧ (truncate q : ℚ) < q + 1) := by
  have upper {p : ℚ} (nonneg : 0 ≤ p) : (truncate p : ℚ) ≤ p ∧ p < truncate p + 1 := by
    rw [truncate_of_nonneg nonneg]
    exact ⟨Int.floor_le p, Int.lt_floor_add_one p⟩
  refine ⟨upper, fun nonpos => ?_⟩
  have := upper (neg_nonneg.mpr nonpos)
  rw [truncate_neg, Int.cast_neg] at this
  constructor <;> linarith

theorem abs_truncate_sub_lt : |(truncate q : ℚ) - q| < 1 := by
  obtain ⟨above, below⟩ := truncate_bounds (q := q)
  rw [abs_lt]
  rcases le_total 0 q with sign | sign
  · have := above sign
    constructor <;> linarith
  · have := below sign
    constructor <;> linarith

theorem truncate_mono (less : q ≤ r) : truncate q ≤ truncate r := by
  have nonneg {p : ℚ} (sign : 0 ≤ p) : 0 ≤ truncate p := by
    rw [truncate_of_nonneg sign]
    exact Int.floor_nonneg.mpr sign
  rcases le_total 0 q with sign | sign
  · rw [truncate_of_nonneg sign, truncate_of_nonneg (sign.trans less)]
    exact Int.floor_le_floor less
  · have low : truncate q ≤ 0 := by
      have := nonneg (neg_nonneg.mpr sign)
      rw [truncate_neg] at this
      omega
    rcases le_total 0 r with sign' | sign'
    · exact low.trans (nonneg sign')
    · have := Int.floor_le_floor (neg_le_neg less)
      rw [← truncate_of_nonneg (neg_nonneg.mpr sign'), ← truncate_of_nonneg (neg_nonneg.mpr sign),
        truncate_neg, truncate_neg] at this
      omega

theorem truncate_le (nonneg : 0 ≤ n) : truncate q ≤ n ↔ q < n + 1 := by
  have wide : (0 : ℚ) ≤ n := by exact_mod_cast nonneg
  rcases le_total 0 q with sign | sign
  · rw [truncate_of_nonneg sign, ← Int.lt_add_one_iff, Int.floor_lt]
    push_cast
    rfl
  · have := truncate_mono sign
    rw [show truncate 0 = 0 by rfl] at this
    constructor <;> intro
    · linarith
    · omega

theorem le_truncate (positive : 0 < n) : n ≤ truncate q ↔ n ≤ q := by
  have wide : (0 : ℚ) < n := Int.cast_pos.mpr positive
  rcases le_total 0 q with sign | sign
  · rw [truncate_of_nonneg sign, Int.le_floor]
  · have := truncate_mono sign
    rw [show truncate 0 = 0 by rfl] at this
    constructor <;> intro
    · omega
    · linarith

theorem truncate_nonneg : 0 ≤ truncate q ↔ -1 < q := by
  have := truncate_le (q := -q) le_rfl
  rw [truncate_neg, Int.cast_zero, zero_add, neg_lt] at this
  rw [← this]
  omega

end EmbodiRun.Data
