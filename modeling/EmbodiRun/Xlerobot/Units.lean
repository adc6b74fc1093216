/-
# Xlerobot.Units -- the units of a servo, raw and as a command has them

A command is truncated to a raw position; a raw position is read back as it is.

* `conversion_retracts`: **a raw position in its range comes back from its value, the truncation is monotone
  and off by less than one raw step, and the leader's conversion is the same**.
-/
import EmbodiRun.Data.Truncation
import EmbodiRun.Xlerobot.Commands

namespace EmbodiRun.Xlerobot.Units

open Commands
open Data (abs_truncate_sub_lt truncate_intCast truncate_mono)
open Hardware (Motor armNames)

/-- `LEADER_NAMES`. -/
def leaderNames : List Motor := armNames .left ++ armNames .right

/-- `raw_to_action` of the leader. -/
def rawToAction (raw : Motor → Int) (calibration : Motor → Calibration) : List (Motor × ℚ) :=
  leaderNames.map fun m =>
    let c := calibration m
    let bounded := c.clamp (raw m)
    (m, if isGripper m then
      let value := (bounded - c.rangeMin : ℚ) * 100 / (c.rangeMax - c.rangeMin)
      if c.driveMode then 100 - value else value
    else (bounded - (c.rangeMin + c.rangeMax) / 2 : ℚ) * 360 / 4095)

/-- The value of one raw step. -/
def rawStep (m : Motor) (c : Calibration) : ℚ :=
  if isGripper m then 100 / (c.rangeMax - c.rangeMin) else 360 / 4095

/-- What is truncated to a raw position. -/
def scale (m : Motor) (c : Calibration) (v : ℚ) : ℚ :=
  if isGripper m then (if c.driveMode then 100 - v else v) / 100 * (c.rangeMax - c.rangeMin) + c.rangeMin
  else v * 4095 / 360 + (c.rangeMin + c.rangeMax) / 2

/-- The conversion of a motor to raw positions, and back. -/
structure Retracts (settings : Settings) (m : Motor) (c : Calibration) : Prop where
  back : ∀ raw, c.Holds raw → actionToRaw settings m (.value (rawToJointValue m c raw)) = .ok raw
  ordered : ∀ v w r s, actionToRaw settings m (.value v) = .ok r → actionToRaw settings m (.value w) = .ok s →
    v ≤ w → if isGripper m ∧ c.driveMode then s ≤ r else r ≤ s
  holds : ∀ v raw, actionToRaw settings m (.value v) = .ok raw → c.Holds raw
  near : ∀ v raw, actionToRaw settings m (.value v) = .ok raw → |rawToJointValue m c raw - v| < rawStep m c

variable {settings : Settings} {m : Motor} {c : Calibration} {raw : Int} {v w : ℚ}

theorem width_pos (c : Calibration) : (0 : ℚ) < c.rangeMax - c.rangeMin :=
  sub_pos.mpr (Int.cast_lt.mpr c.ordered)

theorem rawStep_pos : 0 < rawStep m c := by
  have := width_pos c
  unfold rawStep
  split <;> positivity

theorem actionToRaw_value (calibrated : settings.calibration m = some c) :
    actionToRaw settings m (.value v) = .ok raw ↔
      (if isGripper m then 0 ≤ v ∧ v ≤ 100 else |v * 4095| < floatLimit) ∧
        truncate (scale m c v) = raw ∧ c.Holds raw := by
  have fits (r : Int) : actionToRaw.inRange m c r = .ok raw ↔ r = raw ∧ c.Holds raw := by
    unfold actionToRaw.inRange
    have := c.low
    have := c.high
    constructor
    · intro found
      split at found
      · cases found
        exact ⟨rfl, by tauto⟩
      · cases found
    · rintro ⟨rfl, holds⟩
      rw [if_pos ⟨by have := holds.1; omega, by have := holds.2; omega, holds⟩]
  simp only [actionToRaw, finite, calibrated, bind, Except.bind, scale]
  split
  · split
    · simp [*]
    · simp [*]
  · split
    · rename_i large
      simp only [not_lt.mpr large, false_and, reduceCtorEq]
    · rename_i small
      simp only [not_le.mp small, true_and, fits]

theorem abs_value_sub : |rawToJointValue m c raw - v| = |raw - scale m c v| * rawStep m c := by
  have wide := width_pos c
  rw [← abs_of_pos (rawStep_pos (m := m) (c := c)), ← abs_mul]
  unfold rawToJointValue rawStep scale
  split
  · cases c.driveMode
    · congr 1
      simp
      field_simp
      ring
    · rw [← abs_neg]
      congr 1
      simp
      field_simp
      ring
  · congr 1
    ring

theorem scale_value : scale m c (rawToJointValue m c raw) = raw := by
  have none := @abs_value_sub m c raw (rawToJointValue m c raw)
  rw [sub_self, abs_zero, zero_eq_mul] at none
  have := abs_eq_zero.mp (none.resolve_right rawStep_pos.ne')
  linarith

theorem scale_le (less : v ≤ w) : if isGripper m ∧ c.driveMode then scale m c w ≤ scale m c v
    else scale m c v ≤ scale m c w := by
  have wide := width_pos c
  unfold scale
  cases isGripper m
  · simp only [Bool.false_eq_true, false_and, if_false]
    linarith
  · cases c.driveMode
    · simp only [Bool.false_eq_true, and_false, if_false, if_true]
      gcongr
    · simp only [and_self, if_true]
      gcongr

theorem value_fits (holds : c.Holds raw) :
    if isGripper m then 0 ≤ rawToJointValue m c raw ∧ rawToJointValue m c raw ≤ 100
    else |rawToJointValue m c raw * 4095| < floatLimit := by
  have wide := width_pos c
  have low : (c.rangeMin : ℚ) ≤ raw := Int.cast_le.mpr holds.1
  have high : (raw : ℚ) ≤ c.rangeMax := Int.cast_le.mpr holds.2
  unfold rawToJointValue
  split
  · have nonneg : 0 ≤ (raw - c.rangeMin : ℚ) * 100 / (c.rangeMax - c.rangeMin) := by
      have := sub_nonneg.mpr low
      positivity
    have most : (raw - c.rangeMin : ℚ) * 100 / (c.rangeMax - c.rangeMin) ≤ 100 := by
      rw [div_le_iff₀ wide]
      linarith
    cases c.driveMode
    · exact ⟨nonneg, most⟩
    · constructor <;> simp only [if_true] <;> linarith
  · have min : (0 : ℚ) ≤ c.rangeMin := by exact_mod_cast c.low
    have max : (c.rangeMax : ℚ) ≤ 4095 := by exact_mod_cast c.high
    have huge : (10000000 : ℚ) < floatLimit := by
      have : (1 : ℚ) ≤ 2 ^ 970 := one_le_pow₀ (by norm_num)
      rw [floatLimit, show 1024 = 970 + 54 from rfl, pow_add]
      generalize (2 : ℚ) ^ 970 = p at this ⊢
      norm_num
      linarith
    rw [abs_lt]
    constructor <;> linarith

/-- The two conversions of a motor fit each other, and the leader's is the one of the robot. -/
theorem conversion_retracts (calibrated : settings.calibration m = some c) :
    Retracts settings m c ∧ ∀ (raws : Motor → Int) (calibration : Motor → Calibration),
      (rawToAction raws calibration).map Prod.fst = leaderNames ∧
        ∀ x ∈ rawToAction raws calibration, (calibration x.1).Holds (raws x.1) →
          x.2 = rawToJointValue x.1 (calibration x.1) (raws x.1) := by
  refine ⟨⟨fun raw holds => ?_, fun v w r s first second less => ?_, fun v raw given => ?_, fun v raw given => ?_⟩,
    fun raws calibration => ⟨by simp [rawToAction, Function.comp_def], fun x member holds => ?_⟩⟩
  · refine (actionToRaw_value calibrated).mpr ⟨value_fits holds, ?_, holds⟩
    rw [scale_value]
    exact truncate_intCast
  · obtain ⟨-, rfl, -⟩ := (actionToRaw_value calibrated).mp first
    obtain ⟨-, rfl, -⟩ := (actionToRaw_value calibrated).mp second
    have := scale_le (m := m) (c := c) less
    split at this <;> rename_i inverted
    · rw [if_pos inverted]
      exact truncate_mono this
    · rw [if_neg inverted]
      exact truncate_mono this
  · exact ((actionToRaw_value calibrated).mp given).2.2
  · obtain ⟨-, rfl, -⟩ := (actionToRaw_value calibrated).mp given
    rw [abs_value_sub]
    have := mul_lt_mul_of_pos_right (abs_truncate_sub_lt (q := scale m c v)) (rawStep_pos (m := m) (c := c))
    rwa [one_mul] at this
  · obtain ⟨m, -, rfl⟩ := List.mem_map.mp member
    have clamped : (calibration m).clamp (raws m) = raws m := by
      rw [Calibration.clamp, min_eq_right holds.2, max_eq_right holds.1]
    simp only [clamped, rawToJointValue]

/-- A quarter of the way, of a gripper. -/
theorem gripper_retracts : (actionToRaw bench (.joint .left 5) (.value 25)).toOption = some 1000 ∧
    Retracts bench (.joint .left 5) ⟨false, 0, 4000, by decide, by decide, by decide⟩ :=
  ⟨by decide +kernel, (conversion_retracts rfl).1⟩

end EmbodiRun.Xlerobot.Units
