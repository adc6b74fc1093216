/-
# Robots.So101 -- the goals of an arm, in raw positions

A goal is a number of degrees, or of percent for the gripper. The bus is given a raw position in two bytes.

* `goals_fit_iff`: **the goals of an initialisation and of every gripper are in their range; the others
  just where the number that is truncated fits it; and a stop writes what it measured**.
-/
import EmbodiRun.Data.Truncation

namespace EmbodiRun.Robots.So101

open Data

/-- `SO101_MOTORS`. -/
abbrev Motor := Fin 6

def gripper : Motor := 5

def motors : List Motor := List.finRange 6

/-- A calibration that the limit registers of a motor match. -/
structure Calibration where
  driveMode : Bool
  rangeMin : Int
  rangeMax : Int
  low : 0 ≤ rangeMin
  ordered : rangeMin < rangeMax
  high : rangeMax ≤ 4095

def Calibration.Holds (c : Calibration) (raw : Int) : Prop := c.rangeMin ≤ raw ∧ raw ≤ c.rangeMax

def Calibration.clamp (c : Calibration) (raw : Int) : Int := min c.rangeMax (max c.rangeMin raw)

/-- `SO101Config`; `reject` is the `step_limit_mode`. -/
structure Config where
  maxJointStepDeg : ℚ
  maxGripperStep : ℚ
  reject : Bool
  jointPositive : 0 < maxJointStepDeg
  gripperPositive : 0 < maxGripperStep

def Config.limit (config : Config) (m : Motor) : ℚ := if m = gripper then config.maxGripperStep else config.maxJointStepDeg

/-! ## The controller -/

def encodeSignMagnitude (value : Int) (signBit : Nat) : Nat :=
  if value < 0 then value.natAbs ||| 2 ^ signBit else value.toNat

/-- Where the sign bit is set, `& ~mask` takes it off. -/
def decodeSignMagnitude (value signBit : Nat) : Int :=
  if value &&& 2 ^ signBit ≠ 0 then -((value - 2 ^ signBit : Nat) : Int) else value

/-- `SCS_LOBYTE` and `SCS_HIBYTE`. -/
def bytes (encoded : Nat) : Nat × Nat := (encoded % 256, encoded / 256 % 256)

def word (bytes : Nat × Nat) : Nat := bytes.1 + 256 * bytes.2

section

variable (config : Config) (calibration : Motor → Calibration)

/-- `_initial_goal`. -/
def initialGoal (m : Motor) (present : Int) : Option Int :=
  let c := calibration m
  let target := c.clamp present
  let limit := if m = gripper then config.maxGripperStep * (c.rangeMax - c.rangeMin) / 100
    else config.maxJointStepDeg * 4095 / 360
  if limit < |(target - present : ℚ)| then none else some target

/-- The goals that `_configure` writes one by one, once it has them all. -/
def configureGoals (present : Motor → Option Int) : Option (List (Motor × Int)) :=
  motors.mapM fun m => do return (m, ← initialGoal config calibration m (← present m))

def normalizedPosition (m : Motor) (raw : Int) : ℚ :=
  let c := calibration m
  if m = gripper then
    let normalized := (c.clamp raw - c.rangeMin : ℚ) * 100 / (c.rangeMax - c.rangeMin)
    if c.driveMode then 100 - normalized else normalized
  else (raw - (c.rangeMin + c.rangeMax) / 2 : ℚ) * 360 / 4095

def rawPosition (m : Motor) (normalized : ℚ) : Int :=
  let c := calibration m
  if m = gripper then
    let bounded := min 100 (max 0 normalized)
    let bounded := if c.driveMode then 100 - bounded else bounded
    truncate (bounded / 100 * (c.rangeMax - c.rangeMin) + c.rangeMin)
  else truncate (normalized * 4095 / 360 + (c.rangeMin + c.rangeMax) / 2)

/-- The goals of `send_action`. -/
def sendAction (action : Motor → ℚ) : List (Motor × Int) := motors.map fun m => (m, rawPosition calibration m (action m))

/-! ## The adapter -/

def clipStep (target present limit : ℚ) : ℚ := present + max (-limit) (min limit (target - present))

/-- No step over its limit. -/
def near (target current : Motor → ℚ) : Prop := ∀ m, |target m - current m| ≤ config.limit m

instance (target current : Motor → ℚ) : Decidable (near config target current) :=
  inferInstanceAs (Decidable (∀ m, |target m - current m| ≤ config.limit m))

/-- What `validate_action` checks of a target, once it has read the positions. -/
def validTarget (target current : Motor → ℚ) : Prop :=
  0 ≤ target gripper ∧ target gripper ≤ 100 ∧ (config.reject → near config target current)

instance (target current : Motor → ℚ) : Decidable (validTarget config target current) :=
  inferInstanceAs (Decidable (_ ∧ _ ∧ _))

/-- What `execute` sends for a target. -/
def command (target current : Motor → ℚ) : Option (Motor → ℚ) :=
  if config.reject then if near config target current then some target else none
  else some fun m => clipStep (target m) (current m) (config.limit m)

/-- The goals of `execute`, whose two reads may differ. -/
def executeGoals (target : Motor → ℚ) (first second : Motor → Int) : Option (List (Motor × Int)) :=
  if validTarget config target fun m => normalizedPosition calibration m (first m) then
    (command config target fun m => normalizedPosition calibration m (second m)).map (sendAction calibration)
  else none

def stopGoals (present : Motor → Int) : List (Motor × Int) :=
  sendAction calibration fun m => normalizedPosition calibration m (present m)

/-! ## Ranges -/

/-- In range, and back again from its two bytes. -/
def Safe (goals : List (Motor × Int)) : Prop :=
  ∀ x ∈ goals, (calibration x.1).Holds x.2 ∧ decodeSignMagnitude (word (bytes (encodeSignMagnitude x.2 15))) 15 = x.2

/-- The degrees are in the range, as they are truncated. -/
def Calibration.Fits (c : Calibration) (degrees : ℚ) : Prop :=
  let position := degrees * 4095 / 360 + (c.rangeMin + c.rangeMax) / 2
  (if c.rangeMin = 0 then -1 < position else c.rangeMin ≤ position) ∧ position < c.rangeMax + 1

end

section

variable {config : Config} {calibration : Motor → Calibration} {c : Calibration} {m : Motor} {raw : Int} {q : ℚ}

theorem Calibration.width_pos (c : Calibration) : (0 : ℚ) < c.rangeMax - c.rangeMin :=
  sub_pos.mpr (Int.cast_lt.mpr c.ordered)

theorem Calibration.clamp_holds (c : Calibration) (raw : Int) : c.Holds (c.clamp raw) := by
  have := c.ordered
  simp only [Holds, clamp]
  omega

theorem Calibration.clamp_eq (holds : c.Holds raw) : c.clamp raw = raw := by
  obtain ⟨low, high⟩ := holds
  simp only [clamp]
  omega

theorem decode_encode {value : Int} (small : value.natAbs < 2 ^ 15) :
    decodeSignMagnitude (word (bytes (encodeSignMagnitude value 15))) 15 = value := by
  have whole {n : Nat} (short : n < 2 ^ 16) : word (bytes n) = n := by
    simp only [word, bytes]
    omega
  have bit (n : Nat) : n &&& 2 ^ 15 ≠ 0 ↔ n / 2 ^ 15 % 2 = 1 := by
    rw [Nat.and_two_pow, Nat.testBit_eq_decide_div_mod_eq]
    by_cases set : n / 2 ^ 15 % 2 = 1 <;> simp_all
  unfold encodeSignMagnitude
  split
  · have joined : value.natAbs ||| 2 ^ 15 = 2 ^ 15 + value.natAbs := by
      have := Nat.two_pow_add_eq_or_of_lt small 1
      rw [mul_one] at this
      rw [this, Nat.or_comm]
    rw [joined, whole (by omega), decodeSignMagnitude, if_pos ((bit _).mpr (by omega))]
    omega
  · rw [whole (by omega), decodeSignMagnitude, if_neg (mt (bit _).mp (by omega))]
    omega

theorem safe_iff {goals : List (Motor × Int)} : Safe calibration goals ↔ ∀ x ∈ goals, (calibration x.1).Holds x.2 := by
  refine forall₂_congr fun x _ => and_iff_left_of_imp fun holds => decode_encode ?_
  have := (calibration x.1).low
  have := (calibration x.1).high
  have := holds.1
  have := holds.2
  omega

theorem safe_sendAction {action : Motor → ℚ} :
    Safe calibration (sendAction calibration action) ↔ ∀ m, (calibration m).Holds (rawPosition calibration m (action m)) := by
  simp [safe_iff, sendAction, motors]

theorem rawPosition_gripper : (calibration gripper).Holds (rawPosition calibration gripper q) := by
  rw [rawPosition, if_pos rfl]
  generalize calibration gripper = c
  have wide := c.width_pos
  have between (b : ℚ) (low : 0 ≤ b) (high : b ≤ 100) :
      c.Holds (truncate (b / 100 * (c.rangeMax - c.rangeMin) + c.rangeMin)) := by
    have least := mul_nonneg (div_nonneg low (by norm_num : (0 : ℚ) ≤ 100)) wide.le
    have most := mul_le_mul_of_nonneg_right ((div_le_one (by norm_num : (0 : ℚ) < 100)).mpr high) wide.le
    have above := truncate_mono (le_add_of_nonneg_left (a := (c.rangeMin : ℚ)) least)
    have below := truncate_mono (add_le_add_left most (c.rangeMin : ℚ))
    rw [truncate_intCast] at above
    rw [one_mul, sub_add_cancel, truncate_intCast] at below
    exact ⟨above, below⟩
  have low : (0 : ℚ) ≤ min 100 (max 0 q) := le_min (by norm_num) (le_max_left _ _)
  have high : min 100 (max 0 q) ≤ 100 := min_le_left _ _
  split
  · exact between _ (by linarith) (by linarith)
  · exact between _ low high

theorem rawPosition_joint (joint : m ≠ gripper) : (calibration m).Holds (rawPosition calibration m q) ↔ (calibration m).Fits q := by
  have low := (calibration m).low
  have := (calibration m).ordered
  rw [rawPosition, if_neg joint, Calibration.Holds, Calibration.Fits, truncate_le (by omega)]
  refine and_congr_left' ?_
  split
  · rename_i zero
    rw [zero, truncate_nonneg]
  · exact le_truncate (by omega)

/-- What is measured is written again. -/
theorem rawPosition_normalized (holds : m ≠ gripper ∨ (calibration m).Holds raw) :
    rawPosition calibration m (normalizedPosition calibration m raw) = raw := by
  unfold rawPosition normalizedPosition
  generalize calibration m = c at holds ⊢
  have wide := c.width_pos
  by_cases finger : m = gripper
  · have holds := holds.resolve_left (not_not.mpr finger)
    have low : (c.rangeMin : ℚ) ≤ raw := Int.cast_le.mpr holds.1
    have high : (raw : ℚ) ≤ c.rangeMax := Int.cast_le.mpr holds.2
    simp only [if_pos finger, Calibration.clamp_eq holds]
    have least : 0 ≤ (raw - c.rangeMin : ℚ) * 100 / (c.rangeMax - c.rangeMin) := by
      have := sub_nonneg.mpr low
      positivity
    have most : (raw - c.rangeMin : ℚ) * 100 / (c.rangeMax - c.rangeMin) ≤ 100 := by
      rw [div_le_iff₀ wide]
      linarith
    have back : (raw - c.rangeMin : ℚ) * 100 / (c.rangeMax - c.rangeMin) / 100 *
        (c.rangeMax - c.rangeMin) + c.rangeMin = raw := by
      field_simp
      ring
    cases c.driveMode
    · simp only [Bool.false_eq_true, if_false]
      rw [max_eq_right least, min_eq_right most, back, truncate_intCast]
    · simp only [if_true]
      rw [max_eq_right (by linarith), min_eq_right (by linarith), sub_sub_cancel, back, truncate_intCast]
  · simp only [if_neg finger]
    rw [show (raw - (c.rangeMin + c.rangeMax) / 2 : ℚ) * 360 / 4095 * 4095 / 360 +
      (c.rangeMin + c.rangeMax) / 2 = raw by ring, truncate_intCast]

theorem configureGoals_hold {present : Motor → Option Int} {goals : List (Motor × Int)}
    (found : configureGoals config calibration present = some goals) : ∀ x ∈ goals, (calibration x.1).Holds x.2 := by
  unfold configureGoals at found
  generalize motors = names at found
  induction names generalizing goals with
  | nil =>
    cases found
    nofun
  | cons m rest ih =>
    simp only [List.mapM_cons, Option.bind_eq_bind, Option.bind_eq_some_iff, Option.pure_def, Option.some.injEq] at found
    obtain ⟨x, ⟨raw, -, goal, initial, rfl⟩, others, tail, rfl⟩ := found
    refine List.forall_mem_cons.mpr ⟨?_, ih tail⟩
    simp only [initialGoal, Option.ite_none_left_eq_some, Option.some.injEq] at initial
    obtain ⟨-, rfl⟩ := initial
    exact (calibration m).clamp_holds raw

/-- Each goal of an arm, by the operation that writes it. -/
theorem goals_fit_iff (config : Config) (calibration : Motor → Calibration) :
    (∀ present goals, configureGoals config calibration present = some goals → Safe calibration goals) ∧
    (∀ target first second goals, executeGoals config calibration target first second = some goals →
      (Safe calibration goals ↔ ∀ m ≠ gripper, (calibration m).Fits (if config.reject then target m
        else clipStep (target m) (normalizedPosition calibration m (second m)) (config.limit m)))) ∧
    (∀ present, Safe calibration (stopGoals calibration present) ↔ ∀ m ≠ gripper, (calibration m).Holds (present m)) ∧
    ∀ present, (∀ m, (calibration m).Holds (present m)) →
      stopGoals calibration present = motors.map fun m => (m, present m) := by
  have joints {action : Motor → ℚ} : Safe calibration (sendAction calibration action) ↔
      ∀ m ≠ gripper, (calibration m).Fits (action m) := by
    rw [safe_sendAction]
    constructor
    · exact fun holds m joint => (rawPosition_joint joint).mp (holds m)
    · intro fits m
      by_cases finger : m = gripper
      · exact finger ▸ rawPosition_gripper
      · exact (rawPosition_joint finger).mpr (fits m finger)
  refine ⟨fun present goals found => ?_, fun target first second goals found => ?_, fun present => ?_, fun present holds => ?_⟩
  · exact safe_iff.mpr (configureGoals_hold found)
  · simp only [executeGoals, Option.ite_none_right_eq_some, Option.map_eq_some_iff] at found
    obtain ⟨-, action, sent, rfl⟩ := found
    rw [joints]
    unfold command at sent
    split at sent <;> rename_i rejects
    · obtain ⟨-, same⟩ := Option.ite_none_right_eq_some.mp sent
      cases same
      simp only [if_pos rejects]
    · cases sent
      simp only [if_neg rejects]
  · rw [stopGoals, safe_sendAction]
    constructor
    · intro safe m joint
      have := safe m
      rwa [rawPosition_normalized (.inl joint)] at this
    · intro holds m
      by_cases finger : m = gripper
      · exact finger ▸ rawPosition_gripper
      · rw [rawPosition_normalized (.inl finger)]
        exact holds m finger
  · exact List.map_congr_left fun m _ => by rw [rawPosition_normalized (.inr (holds m))]

end

/-! ## A joint at the end of its range -/

def bench : Config := ⟨12, 20, true, by norm_num, by norm_num⟩

def narrow (_ : Motor) : Calibration := ⟨false, 0, 4000, by decide, by decide, by decide⟩

/-- A step from the end of the range over it. -/
theorem goal_past_range : ∃ goals, executeGoals bench narrow (fun m => if m = 0 then 180 else if m = gripper then 50 else 0)
    (fun m => if m = 0 then 4000 else 2000) (fun m => if m = 0 then 4000 else 2000) = some goals ∧
      ¬ Safe narrow goals := by
  refine ⟨[(0, 4047), (1, 2000), (2, 2000), (3, 2000), (4, 2000), (5, 2000)], by decide +kernel, fun safe => ?_⟩
  exact absurd (safe _ List.mem_cons_self).1.2 (by decide)

end EmbodiRun.Robots.So101
