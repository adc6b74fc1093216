/-
# Data.Plane -- what `math` computes in the plane

The functions are taken together, over any type of numbers; over the reals they are what they
stand for.
-/
import Mathlib

namespace EmbodiRun.Data

/-- What is called of `math`. -/
structure Math (K : Type) where
  sin : K → K
  cos : K → K
  /-- `math.atan2(y, x)`. -/
  atan2 : K → K → K
  hypot : K → K → K
  pi : K

namespace Math

noncomputable def real : Math ℝ where
  sin := Real.sin
  cos := Real.cos
  atan2 y x := Complex.arg ⟨x, y⟩
  hypot x y := √(x ^ 2 + y ^ 2)
  pi := Real.pi

theorem abs_le_hypot (x y : ℝ) : |x| ≤ real.hypot x y ∧ |y| ≤ real.hypot x y :=
  ⟨Real.abs_le_sqrt (by nlinarith [sq_nonneg y]), Real.abs_le_sqrt (by nlinarith [sq_nonneg x])⟩

theorem abs_atan2_le (y x : ℝ) : |real.atan2 y x| ≤ Real.pi := Complex.abs_arg_le_pi _

end Math

end EmbodiRun.Data
