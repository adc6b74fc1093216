/-
# Xlerobot.QuestMapper -- the hand controllers, and the targets that they give the joints

A side that is gripped follows its controller from the last target on; a side that is not gripped, and
every joint while the base is driven, holds what it was last given.

* `steps_bounded_iff`: **a step of a gripped side is as long as the speeds allow exactly where no joint
  is held so far below its lower limit that one step does not bring it there**;
* `mapping_always`: **in every run a released side holds its targets, a new grip begins at the measured
  pose, the gripper needs a fresh squeeze, and the modes keep apart**.
-/
import EmbodiRun.Transition.Machine
import EmbodiRun.Xlerobot.Hardware

namespace EmbodiRun.Xlerobot.QuestMapper

open Transition
open Hardware (Side)

abbrev Quaternion := ℚ × ℚ × ℚ × ℚ

/-- The joints of an arm, the gripper last. -/
abbrev Joints := Fin 6 → ℚ

structure Controller where
  position : ℚ × ℚ × ℚ
  orientation : Quaternion
  tracked : Bool
  grip : Bool
  trigger : ℚ
  thumbstick : ℚ × ℚ
  /-- `gripper_direction == "open"`. -/
  opens : Bool
  triggerLow : 0 ≤ trigger
  triggerHigh : trigger ≤ 1

structure MappingConfig where
  positionScale : ℚ
  panDegPerM : ℚ
  thumbstickPan : ℚ
  wristScale : ℚ
  maxJointSpeed : ℚ
  maxGripperSpeed : ℚ
  maxLinear : ℚ
  maxAngular : ℚ
  maxControllerJump : ℚ
  maxWristJump : ℚ
  enableBase : Bool
  enabledArms : Side → Bool
  gripperOpen : ℚ
  gripperClosed : ℚ
  panSigns : Side → ℚ
  jointPositive : 0 < maxJointSpeed
  gripperPositive : 0 < maxGripperSpeed
  jumpPositive : 0 < maxControllerJump

/-- The trigonometry: `inverse` raises a `ValueError` outside the workspace. -/
structure Kinematics where
  forward : ℚ → ℚ → ℚ × ℚ
  inverse : ℚ → ℚ → ℚ × ℚ → Option (ℚ × ℚ)
  rotationStep : Quaternion → Quaternion → ℚ
  relativeWristAngles : Quaternion → Quaternion → ℚ × ℚ

/-- A side that is gripped: its entries of `previous`, `motion_reference` and `trigger_ready`. -/
structure Hand where
  previous : Controller
  reference : Controller
  ready : Bool

inductive Mode where
  | arms
  | drive
  deriving DecidableEq

/-- A frame, with what `map` is given beside it; `state` is `none` where a position of it is no number. -/
structure Input where
  controllers : Side → Controller
  state : Option (Side → Joints)
  dt : ℚ
  limits : Side → Fin 6 → Option (ℚ × ℚ)

structure Action where
  joints : Side → Joints
  xVel : ℚ
  thetaVel : ℚ

/-- A frame that was mapped, and the pose that was measured. -/
structure Seen where
  controllers : Side → Controller
  measured : Side → Joints

/-- What the targets come from. -/
inductive Event where
  | cleared
  | returned (joints : Side → Joints)
  | applied (side : Side) (joint : Fin 6) (value : ℚ)

structure Mapper where
  hands : Side → Option Hand := fun _ => none
  lastTargets : Side → Fin 6 → Option ℚ := fun _ _ => none
  controlMode : Mode := .arms
  driveHold : Option (Side → Joints) := none
  /-- The frames since the last reset, and the events, newest first. -/
  frames : List Seen := []
  log : List Event := []

def clamp (value low high : ℚ) : ℚ := max low (min high value)

def tolerance : ℚ := 1 / 1000000000

section

variable (config : MappingConfig) (kinematics : Kinematics)

/-- `limits.get`, with its default. -/
def limit (limits : Fin 6 → Option (ℚ × ℚ)) (joint : Fin 6) : ℚ × ℚ :=
  (limits joint).getD (if joint = 5 then (0, 100) else (-180, 180))

/-- What the controller moved by, and the time that its arm has. -/
structure Motion where
  delta : ℚ × ℚ × ℚ
  rotation : ℚ × ℚ
  dt : ℚ

section

variable (held : Joints) (motion : Motion) (limits : Fin 6 → Option (ℚ × ℚ)) (side : Side)

def speedStep : ℚ := config.maxJointSpeed * motion.dt

/-- `candidate`: the shoulder and the elbow at a fraction of the motion. -/
def candidate (fraction : ℚ) : Option (ℚ × ℚ) :=
  let (_, up, back) := motion.delta
  let target :=
    if up = 0 ∧ back = 0 then some (held 1, held 2)
    else
      let (x, y) := kinematics.forward (held 1) (held 2)
      kinematics.inverse (x - back * config.positionScale * fraction)
        (y + up * config.positionScale * fraction) (held 1, held 2)
  let fits (joint : Fin 6) (value : ℚ) : Bool :=
    (limit limits joint).1 ≤ value ∧ value ≤ (limit limits joint).2 ∧
      |value - held joint| ≤ speedStep config motion + tolerance
  target.filter fun pair => fits 1 pair.1 && fits 2 pair.2

/-- The first of `fraction`, its half, its quarter and so on that is valid. -/
def halve (valid : ℚ → Option (ℚ × ℚ)) : Nat → ℚ → Option (ℚ × ℚ × ℚ)
  | 0, fraction => (valid fraction).map (fraction, ·)
  | n + 1, fraction =>
    match valid fraction with
    | some pair => some (fraction, pair)
    | none => halve valid n (fraction / 2)

def bisect (valid : ℚ → Option (ℚ × ℚ)) : Nat → ℚ → ℚ → ℚ × ℚ → ℚ × ℚ
  | 0, _, _, pair => pair
  | n + 1, low, high, pair =>
    match valid ((low + high) / 2) with
    | none => bisect valid n low ((low + high) / 2) pair
    | some refined => bisect valid n ((low + high) / 2) high refined

def planar : ℚ × ℚ :=
  let valid := candidate config kinematics held motion limits
  match halve valid 14 1 with
  | none => (held 1, held 2)
  | some (fraction, pair) =>
    if fraction < 1 then bisect valid 10 fraction (min 1 (fraction * 2)) pair else pair

def independentStep (joint : Fin 6) (target : ℚ) : ℚ :=
  let (low, high) := limit limits joint
  clamp target (max low (held joint - speedStep config motion)) (min high (held joint + speedStep config motion))

/-- `_arm_step`. -/
def armStep : Joints :=
  let (shoulder, elbow) := planar config kinematics held motion limits
  let step := independentStep config held motion limits
  fun
    | 0 => step 0 (held 0 + motion.delta.1 * config.panDegPerM * config.panSigns side)
    | 1 => shoulder
    | 2 => elbow
    | 3 => step 3 (held 3 + motion.rotation.1 * config.wristScale - (shoulder - held 1) - (elbow - held 2))
    | 4 => step 4 (held 4 + motion.rotation.2 * config.wristScale)
    | 5 => held 5

end

def squared (a b : ℚ × ℚ × ℚ) : ℚ :=
  (a.1 - b.1) ^ 2 + (a.2.1 - b.2.1) ^ 2 + (a.2.2 - b.2.2) ^ 2

/-- A controller that jumped since the last frame. -/
def jumped (controller previous : Controller) : Bool :=
  config.maxControllerJump ^ 2 < squared controller.position previous.position ∨
    config.maxWristJump < kinematics.rotationStep controller.orientation previous.orientation

def deadband (least value : ℚ) : ℚ := if least ≤ |value| then value else 0

/-- The thumbstick beyond its deadband. -/
def stickOf (value : ℚ) : ℚ :=
  if 15 / 100 < |value| then (if value < 0 then -1 else 1) * ((|value| - 15 / 100) / (85 / 100)) else 0

def motionOf (controller reference : Controller) (dt : ℚ) : Motion :=
  let (px, py, pz) := controller.position
  let (rx, ry, rz) := reference.position
  let stick := stickOf controller.thumbstick.1
  let lateral := if stick = 0 then deadband (1 / 1000) (px - rx)
    else stick * config.thumbstickPan * dt / config.panDegPerM
  let (pitch, roll) := kinematics.relativeWristAngles controller.orientation reference.orientation
  ⟨(lateral, deadband (1 / 1000) (py - ry), deadband (1 / 1000) (pz - rz)),
    (deadband (1 / 2) pitch, deadband (1 / 2) roll), dt⟩

def Motion.moving (motion : Motion) : Bool := motion.delta ≠ (0, 0, 0)

def Motion.rotating (motion : Motion) : Bool := motion.rotation ≠ (0, 0)

def Controller.consumed (reference controller : Controller) (motion : Motion) : Controller :=
  let (x, y, z) := motion.delta
  let (px, py, pz) := controller.position
  let (rx, ry, rz) := reference.position
  { reference with
    position := (if x = 0 then rx else px, if y = 0 then ry else py, if z = 0 then rz else pz)
    orientation := if motion.rotating then controller.orientation else reference.orientation }

def gripperStep (controller : Controller) (held dt : ℚ) (limits : Fin 6 → Option (ℚ × ℚ)) : ℚ :=
  let (low, high) := limit limits 5
  let target := clamp (if controller.opens then config.gripperOpen else config.gripperClosed) low high
  let step := config.maxGripperSpeed * dt * controller.trigger
  clamp target (held - step) (held + step)

def Hand.readies (hand : Hand) (controller : Controller) : Bool :=
  controller.trigger < 1 / 10 || (hand.ready && controller.opens = hand.previous.opens)

/-- A side of a frame: its targets and its hand; `none` if the controller jumped. -/
def mapSide (side : Side) (hand : Option Hand) (held measured : Joints) (controller : Controller)
    (dt : ℚ) (limits : Fin 6 → Option (ℚ × ℚ)) : Option (Joints × Option Hand) :=
  if config.enabledArms side = false ∨ controller.grip = false then some (held, none)
  else match hand with
    | none =>
      some (fun j => if j = 5 then held 5 else measured j, some ⟨controller, controller, controller.trigger < 1 / 10⟩)
    | some hand =>
      if jumped config kinematics controller hand.previous then none
      else
        let motion := motionOf config kinematics controller hand.reference dt
        let moves := motion.moving || motion.rotating
        let arm := if moves then armStep config kinematics held motion limits side else held
        let reference := if moves then hand.reference.consumed controller motion else hand.reference
        let ready := hand.readies controller
        let squeezed := ready ∧ 1 / 10 ≤ controller.trigger
        some (fun j => if j = 5 ∧ squeezed then gripperStep config controller (held 5) dt limits else arm j,
          some ⟨controller, reference, ready⟩)

def reset (s : Mapper) : Mapper :=
  { controlMode := s.controlMode, log := .cleared :: s.log }

/-- The targets that a frame begins with. -/
def Mapper.held (s : Mapper) (measured : Side → Joints) (side : Side) : Joints :=
  fun j => (s.lastTargets side j).getD (measured side j)

def Mapper.returning (s : Mapper) (joints : Side → Joints) (input : Input) (measured : Side → Joints) : Mapper :=
  { s with
    lastTargets := fun side j => some (joints side j)
    frames := ⟨input.controllers, measured⟩ :: s.frames
    log := .returned joints :: s.log }

/-- `map`; `none` where it raises. -/
def map (s : Mapper) (input : Input) : Option Action × Mapper :=
  let dt := clamp input.dt 0 (1 / 10)
  if (input.controllers .left).tracked = false ∨ (input.controllers .right).tracked = false then
    (none, reset s)
  else match input.state, s.controlMode with
    | none, _ => (none, s)
    | some measured, .drive =>
      if config.enableBase = false then (none, s)
      else
        let joints := s.driveHold.getD measured
        let controller := input.controllers .right
        let velocity (stick most : ℚ) := if controller.grip ∧ 15 / 100 < |stick| then -stick * most else 0
        (some ⟨joints, velocity controller.thumbstick.2 config.maxLinear,
            velocity controller.thumbstick.1 config.maxAngular⟩,
          { s.returning joints input measured with driveHold := some joints })
    | some measured, .arms =>
      let mapped side := mapSide config kinematics side (s.hands side) (s.held measured side) (measured side)
        (input.controllers side) dt (input.limits side)
      match mapped .left, mapped .right with
      | some (left, leftHand), some (right, rightHand) =>
        let joints : Side → Joints
          | .left => left
          | .right => right
        let hands : Side → Option Hand
          | .left => leftHand
          | .right => rightHand
        (some ⟨joints, 0, 0⟩, { s.returning joints input measured with hands := hands })
      | _, _ => (none, reset s)

end

/-- `accept_applied_action`, up to a value that is no number. -/
def accept (s : Mapper) : List (Side × Fin 6 × ℚ) → Mapper
  | [] => s
  | (side, joint, value) :: rest =>
    accept (if (s.lastTargets side joint).isSome then
      { s with
        lastTargets := Function.update s.lastTargets side (Function.update (s.lastTargets side) joint (some value))
        log := .applied side joint value :: s.log }
      else s) rest

def setControlMode (config : MappingConfig) (s : Mapper) (mode : Mode) : Mapper :=
  if mode = .drive ∧ config.enableBase = false then s
  else if mode = s.controlMode then s
  else { reset s with controlMode := mode }

inductive Label where
  | map (input : Input)
  | accept (applied : List (Side × Fin 6 × ℚ))
  | setControlMode (mode : Mode)
  | reset

def step (config : MappingConfig) (kinematics : Kinematics) (s : Mapper) : Label → Option Mapper
  | .map input => some (map config kinematics s input).2
  | .accept applied => some (accept s applied)
  | .setControlMode mode => some (setControlMode config s mode)
  | .reset => some (reset s)

/-! ## The length of a step -/

section

variable {config : MappingConfig} {kinematics : Kinematics} {held measured row : Joints} {motion : Motion}
  {limits : Fin 6 → Option (ℚ × ℚ)} {side : Side} {valid : ℚ → Option (ℚ × ℚ)} {pair : ℚ × ℚ}
  {controller : Controller} {hand : Hand} {hand' : Option Hand} {dt : ℚ}

/-- Within its limits. -/
def Within (limits : Fin 6 → Option (ℚ × ℚ)) (joint : Fin 6) (value : ℚ) : Prop :=
  (limit limits joint).1 ≤ value ∧ value ≤ (limit limits joint).2

theorem halve_some {n : Nat} {fraction g : ℚ} (positive : 0 < fraction)
    (found : halve valid n fraction = some (g, pair)) : 0 < g ∧ g ≤ fraction ∧ valid g = some pair := by
  induction n generalizing fraction with
  | zero =>
    obtain ⟨p, here, same⟩ := Option.map_eq_some_iff.mp found
    cases same
    exact ⟨positive, le_rfl, here⟩
  | succ n ih =>
    rw [halve] at found
    split at found
    · rename_i p here
      cases found
      exact ⟨positive, le_rfl, here⟩
    · obtain ⟨above, below, here⟩ := ih (by linarith) found
      exact ⟨above, by linarith, here⟩

/-- A bisection ends with what is valid at a fraction between its bounds. -/
theorem bisect_some {n : Nat} {low high : ℚ} (positive : 0 < low) (above : 0 < high) (below : low ≤ 1)
    (most : high ≤ 1) (start : ∃ g, 0 < g ∧ g ≤ 1 ∧ valid g = some pair) :
    ∃ g, 0 < g ∧ g ≤ 1 ∧ valid g = some (bisect valid n low high pair) := by
  induction n generalizing low high pair with
  | zero => exact start
  | succ n ih =>
    rw [bisect]
    split
    · exact ih positive (by linarith) below (by linarith) start
    · rename_i refined here
      exact ih (by linarith) above (by linarith) most ⟨_, by linarith, by linarith, here⟩

theorem planar_cases : planar config kinematics held motion limits = (held 1, held 2) ∨
    ∃ fraction, 0 < fraction ∧ fraction ≤ 1 ∧ candidate config kinematics held motion limits fraction =
      some (planar config kinematics held motion limits) := by
  unfold planar
  dsimp only
  split
  · exact .inl rfl
  · rename_i fraction pair found
    obtain ⟨positive, most, here⟩ := halve_some one_pos found
    refine .inr ?_
    split
    · exact bisect_some positive (lt_min one_pos (by linarith)) most (min_le_left _ _)
        ⟨fraction, positive, most, here⟩
    · exact ⟨fraction, positive, most, here⟩

theorem candidate_fits {fraction : ℚ} (found : candidate config kinematics held motion limits fraction = some pair) :
    Within limits 1 pair.1 ∧ Within limits 2 pair.2 ∧
      |pair.1 - held 1| ≤ speedStep config motion + tolerance ∧
      |pair.2 - held 2| ≤ speedStep config motion + tolerance := by
  obtain ⟨-, fits⟩ := Option.filter_eq_some_iff.mp found
  simp only [Bool.and_eq_true, decide_eq_true_eq] at fits
  obtain ⟨⟨low, high, near⟩, low', high', near'⟩ := fits
  exact ⟨⟨low, high⟩, ⟨low', high'⟩, near, near'⟩

theorem clamp_within {value low high : ℚ} (order : low ≤ high) :
    low ≤ clamp value low high ∧ clamp value low high ≤ high :=
  ⟨le_max_left _ _, max_le order (min_le_left _ _)⟩

/-- A step of one joint is short exactly if it brings the joint above its lower limit. -/
theorem independentStep_iff {joint : Fin 6} {target : ℚ} (forwards : 0 ≤ speedStep config motion) :
    |independentStep config held motion limits joint target - held joint| ≤
        speedStep config motion + tolerance ↔
      (limit limits joint).1 ≤ held joint + speedStep config motion + tolerance := by
  have small : 0 < tolerance := by norm_num [tolerance]
  unfold independentStep clamp
  dsimp only
  generalize speedStep config motion = s at *
  generalize (limit limits joint).1 = low
  generalize (limit limits joint).2 = high
  have above := le_max_left (max low (held joint - s)) (min (min high (held joint + s)) target)
  have lowest := (le_max_left low (held joint - s)).trans above
  have least := (le_max_right low (held joint - s)).trans above
  rw [abs_le]
  constructor <;> intro near
  · linarith [near.2]
  · have most : max (max low (held joint - s)) (min (min high (held joint + s)) target) ≤
        held joint + s + tolerance :=
      max_le (max_le near (by linarith))
        ((min_le_left _ _).trans ((min_le_right _ _).trans (by linarith)))
    constructor <;> linarith

theorem independentStep_within {joint : Fin 6} {target : ℚ} (forwards : 0 ≤ speedStep config motion)
    (within : Within limits joint (held joint)) :
    Within limits joint (independentStep config held motion limits joint target) := by
  have := @clamp_within target (max (limit limits joint).1 (held joint - speedStep config motion))
    (min (limit limits joint).2 (held joint + speedStep config motion))
    (max_le (le_min (within.1.trans within.2) (by linarith [within.1]))
      (le_min (by linarith [within.2]) (by linarith)))
  exact ⟨(le_max_left _ _).trans this.1, this.2.trans (min_le_left _ _)⟩

theorem gripperStep_short (forwards : 0 ≤ dt) :
    |gripperStep config controller (held 5) dt limits - held 5| ≤ config.maxGripperSpeed * dt := by
  have positive := mul_nonneg config.gripperPositive.le forwards
  have step : 0 ≤ config.maxGripperSpeed * dt * controller.trigger := mul_nonneg positive controller.triggerLow
  have less : config.maxGripperSpeed * dt * controller.trigger ≤ config.maxGripperSpeed * dt :=
    mul_le_of_le_one_right positive controller.triggerHigh
  obtain ⟨above, below⟩ := @clamp_within
    (clamp (if controller.opens then config.gripperOpen else config.gripperClosed)
      (limit limits 5).1 (limit limits 5).2)
    (held 5 - config.maxGripperSpeed * dt * controller.trigger)
    (held 5 + config.maxGripperSpeed * dt * controller.trigger) (by linarith)
  rw [abs_le]
  constructor
  · exact le_sub_iff_add_le.mpr (by unfold gripperStep; dsimp only; linarith)
  · exact sub_le_iff_le_add.mpr (by unfold gripperStep; dsimp only; linarith)

theorem gripperStep_within (forwards : 0 ≤ dt) (within : Within limits 5 (held 5)) :
    Within limits 5 (gripperStep config controller (held 5) dt limits) := by
  have step : 0 ≤ config.maxGripperSpeed * dt * controller.trigger :=
    mul_nonneg (mul_nonneg config.gripperPositive.le forwards) controller.triggerLow
  obtain ⟨low, high⟩ := @clamp_within (if controller.opens then config.gripperOpen else config.gripperClosed)
    (limit limits 5).1 (limit limits 5).2 (within.1.trans within.2)
  unfold gripperStep
  dsimp only
  refine ⟨?_, max_le (by linarith [within.2]) ((min_le_right _ _).trans high)⟩
  exact le_max_of_le_right (le_min (by linarith [within.1]) low)

variable (config kinematics held dt limits) in
/-- What a step of a gripped side keeps to. -/
structure Steps (motion : Motion) (row : Joints) : Prop where
  speed : ∀ j, |row j - held j| ≤
    (if j = 5 then config.maxGripperSpeed * dt else config.maxJointSpeed * dt) + tolerance
  within : ∀ j, Within limits j (held j) → Within limits j (row j)
  planar : (row 1, row 2) = (held 1, held 2) ∨ ∃ fraction, 0 < fraction ∧ fraction ≤ 1 ∧
    candidate config kinematics held motion limits fraction = some (row 1, row 2)

theorem mapSide_steps (enabled : config.enabledArms side) (grip : controller.grip) (forwards : 0 ≤ dt)
    (mapped : mapSide config kinematics side (some hand) held measured controller dt limits = some (row, hand')) :
    Steps config kinematics held limits dt (motionOf config kinematics controller hand.reference dt) row ↔
      ((motionOf config kinematics controller hand.reference dt).moving ||
        (motionOf config kinematics controller hand.reference dt).rotating →
        ∀ j, j = 0 ∨ j = 3 ∨ j = 4 → (limit limits j).1 ≤ held j + config.maxJointSpeed * dt + tolerance) := by
  have small : 0 < tolerance := by norm_num [tolerance]
  have length : 0 ≤ config.maxJointSpeed * dt := mul_nonneg config.jointPositive.le forwards
  simp only [mapSide, enabled, grip, Bool.true_eq_false, or_self, if_false] at mapped
  split at mapped
  · cases mapped
  set motion := motionOf config kinematics controller hand.reference dt
  have length' : 0 ≤ speedStep config motion := length
  simp only [Option.some.injEq, Prod.mk.injEq] at mapped
  obtain ⟨rfl, -⟩ := mapped
  -- the gripper moves in time, or not at all
  have gripper : |(if (hand.readies controller = true ∧ 1 / 10 ≤ controller.trigger)
      then gripperStep config controller (held 5) dt limits else held 5) - held 5| ≤
      config.maxGripperSpeed * dt + tolerance := by
    split
    · linarith [@gripperStep_short config held limits controller dt forwards]
    · rw [sub_self, abs_zero]
      linarith [mul_nonneg config.gripperPositive.le forwards]
  have gripped (within : Within limits 5 (held 5)) :
      Within limits 5 (if (hand.readies controller = true ∧ 1 / 10 ≤ controller.trigger)
        then gripperStep config controller (held 5) dt limits else held 5) := by
    split
    · exact gripperStep_within forwards within
    · exact within
  cases moves : motion.moving || motion.rotating with
  | false =>
    have still (j : Fin 6) (arm : j ≠ 5) : (if j = 5 ∧ hand.readies controller = true ∧
        1 / 10 ≤ controller.trigger then gripperStep config controller (held 5) dt limits else held j) = held j :=
      if_neg fun squeezed => arm squeezed.1
    refine iff_of_true ⟨fun j => ?_, fun j within => ?_, .inl (Prod.ext (still 1 (by decide)) (still 2 (by decide)))⟩
      nofun
    · by_cases arm : j = 5
      · subst arm
        simpa using gripper
      · simp only [Bool.false_eq_true, if_false, arm, false_and, sub_self, abs_zero]
        linarith
    · by_cases arm : j = 5
      · subst arm
        simpa using gripped within
      · simpa only [Bool.false_eq_true, if_false, still j arm] using within
  | true =>
    have planar := @planar_cases config kinematics held motion limits
    constructor
    · rintro steps - j which
      have speed := steps.speed j
      rcases which with rfl | rfl | rfl <;> simp only [Fin.reduceEq, false_and, if_true, if_false] at speed <;>
        exact (independentStep_iff length').mp speed
    · intro low
      have near (j : Fin 6) (which : j = 0 ∨ j = 3 ∨ j = 4) (target : ℚ) :=
        (@independentStep_iff config held motion limits j target length').mpr (low rfl j which)
      have pair : |(QuestMapper.planar config kinematics held motion limits).1 - held 1| ≤
            config.maxJointSpeed * dt + tolerance ∧
          |(QuestMapper.planar config kinematics held motion limits).2 - held 2| ≤
            config.maxJointSpeed * dt + tolerance ∧
          (Within limits 1 (held 1) → Within limits 1 (QuestMapper.planar config kinematics held motion limits).1) ∧
          (Within limits 2 (held 2) → Within limits 2 (QuestMapper.planar config kinematics held motion limits).2) := by
        rcases planar with same | ⟨fraction, -, -, found⟩
        · rw [same]
          simp only [sub_self, abs_zero, imp_self, and_true]
          exact ⟨by linarith, by linarith⟩
        · obtain ⟨first, second, short, short'⟩ := candidate_fits found
          exact ⟨short, short', fun _ => first, fun _ => second⟩
      refine ⟨fun j => ?_, fun j within => ?_, planar⟩
      · match j with
        | 0 => exact near 0 (by decide) _
        | 1 => exact pair.1
        | 2 => exact pair.2.1
        | 3 => exact near 3 (by decide) _
        | 4 => exact near 4 (by decide) _
        | 5 => simpa [armStep] using gripper
      · match j with
        | 0 => exact independentStep_within length' within
        | 1 => exact pair.2.2.1 within
        | 2 => exact pair.2.2.2 within
        | 3 => exact independentStep_within length' within
        | 4 => exact independentStep_within length' within
        | 5 => simpa [armStep] using gripped within

end

/-- **Steps** of a gripped side stay below the limit, if and only if no joint that moves is held further
below its lower limit. -/
theorem steps_bounded_iff (config : MappingConfig) (kinematics : Kinematics) (s : Mapper) (input : Input)
    {measured : Side → Joints} {action : Action} {side : Side} {hand : Hand}
    (returned : (map config kinematics s input).1 = some action) (arms : s.controlMode = .arms)
    (state : input.state = some measured) (gripped : s.hands side = some hand)
    (enabled : config.enabledArms side) (grip : (input.controllers side).grip) :
    let dt := clamp input.dt 0 (1 / 10)
    let motion := motionOf config kinematics (input.controllers side) hand.reference dt
    Steps config kinematics (s.held measured side) (input.limits side) dt motion (action.joints side) ↔
      (motion.moving || motion.rotating → ∀ j, j = 0 ∨ j = 3 ∨ j = 4 →
        (limit (input.limits side) j).1 ≤ s.held measured side j + config.maxJointSpeed * dt + tolerance) := by
  have forwards : 0 ≤ clamp input.dt 0 (1 / 10) := le_max_left _ _
  unfold map at returned
  simp only [state, arms] at returned
  split at returned
  · cases returned
  split at returned
  · rename_i left leftHand right rightHand leftMapped rightMapped
    cases returned
    cases side with
    | left =>
      rw [gripped] at leftMapped
      exact mapSide_steps enabled grip forwards leftMapped
    | right =>
      rw [gripped] at rightMapped
      exact mapSide_steps enabled grip forwards rightMapped
  · cases returned

/-! ## What a run holds -/

section

variable {config : MappingConfig} {kinematics : Kinematics} {s t : Mapper} {input : Input} {side : Side}
  {measured : Side → Joints} {action : Action} {held row : Joints} {controller : Controller} {dt : ℚ}
  {limits : Fin 6 → Option (ℚ × ℚ)} {hand hand' : Option Hand} {measured' : Joints}

/-- The target that the events since the last reset leave a joint. -/
def lastTarget : List Event → Side → Fin 6 → Option ℚ
  | [], _, _ => none
  | .cleared :: _, _, _ => none
  | .returned joints :: _, side, j => some (joints side j)
  | .applied side' j' value :: rest, side, j => if side' = side ∧ j' = j then some value else lastTarget rest side j

/-- The side is enabled and gripped. -/
def Grips (config : MappingConfig) (side : Side) (controllers : Side → Controller) : Prop :=
  config.enabledArms side ∧ (controllers side).grip

/-- Since the side was gripped, and its gripper given this direction, its trigger was released. -/
def Released (config : MappingConfig) (side : Side) (opens : Bool) (frames : List Seen) : Prop :=
  ∃ newer f older, frames = newer ++ f :: older ∧ (f.controllers side).trigger < 1 / 10 ∧
    ∀ g ∈ newer ++ [f], Grips config side g.controllers ∧ (g.controllers side).opens = opens

variable (config) in
/-- A hand is the last frame's, and is ready after a release; the base is driven at the first pose. -/
structure Inv (s : Mapper) : Prop where
  targets : ∀ side j, s.lastTargets side j = lastTarget s.log side j
  hands : ∀ side hand, s.hands side = some hand → ∃ f older, s.frames = f :: older ∧
    hand.previous = f.controllers side ∧ Grips config side f.controllers ∧
    (hand.ready → Released config side hand.previous.opens s.frames)
  none : s.controlMode = .arms → ∀ side, s.hands side = none → ∀ f older, s.frames = f :: older →
    ¬Grips config side f.controllers
  drive : s.controlMode = .drive → (∀ side, s.hands side = Option.none) ∧
    s.driveHold = s.frames.getLast?.map Seen.measured

theorem inv_cleared {mode : Mode} {log : List Event} (cleared : ∀ side j, lastTarget log side j = none) :
    Inv config { controlMode := mode, log := log } where
  targets side j := (cleared side j).symm
  hands side hand is := by cases is
  none _ side _ f older is := by cases is
  drive _ := ⟨fun _ => rfl, rfl⟩

theorem inv_accept (inv : Inv config s) (applied : List (Side × Fin 6 × ℚ)) : Inv config (accept s applied) := by
  induction applied generalizing s with
  | nil => exact inv
  | cons x rest ih =>
    obtain ⟨side, joint, value⟩ := x
    refine ih ?_
    split
    · refine ⟨fun side' j => ?_, inv.hands, inv.none, inv.drive⟩
      simp only [lastTarget]
      by_cases same : side' = side
      · subst same
        by_cases same : j = joint
        · subst same
          simp
        · simp [same, Ne.symm same, inv.targets]
      · simp [same, Ne.symm same, inv.targets]
    · exact inv

/-- What becomes of a side in a frame. -/
theorem mapSide_cases
    (mapped : mapSide config kinematics side hand held measured' controller dt limits = some (row, hand')) :
    (¬(config.enabledArms side ∧ controller.grip) ∧ row = held ∧ hand' = none) ∨
    (config.enabledArms side ∧ controller.grip) ∧
      ((hand = none ∧ (∀ j, j ≠ 5 → row j = measured' j) ∧ row 5 = held 5 ∧
          hand' = some ⟨controller, controller, controller.trigger < 1 / 10⟩) ∨
        ∃ h reference, hand = some h ∧ hand' = some ⟨controller, reference, h.readies controller⟩ ∧
          (row 5 ≠ held 5 → h.readies controller ∧ 1 / 10 ≤ controller.trigger)) := by
  unfold mapSide at mapped
  split at mapped
  · rename_i off
    cases mapped
    refine .inl ⟨fun both => ?_, rfl, rfl⟩
    simp [both.1, both.2] at off
  rename_i on
  refine .inr ⟨by simpa using on, ?_⟩
  split at mapped
  · cases mapped
    exact .inl ⟨rfl, fun j arm => if_neg arm, if_pos rfl, rfl⟩
  · rename_i h
    split at mapped <;> cases mapped
    refine .inr ⟨h, _, rfl, rfl, fun moved => ?_⟩
    by_contra still
    refine moved ?_
    dsimp only
    rw [if_neg fun squeezed => still squeezed.2]
    split <;> rfl

/-- A hand that a frame leaves is that frame's, and is ready only after a release. -/
theorem hand_next {controllers : Side → Controller} (inv : Inv config s)
    (mapped : mapSide config kinematics side (s.hands side) held measured' (controllers side) dt limits =
      some (row, hand')) :
    (∀ h, hand' = some h → h.previous = controllers side ∧ Grips config side controllers ∧
      (h.ready → Released config side h.previous.opens (⟨controllers, measured⟩ :: s.frames))) ∧
    (hand' = none → ¬Grips config side controllers) := by
  have now (grips : Grips config side controllers) (low : (controllers side).trigger < 1 / 10) :
      Released config side (controllers side).opens (⟨controllers, measured⟩ :: s.frames) :=
    ⟨[], _, _, rfl, low, by simpa using grips⟩
  rcases mapSide_cases mapped with ⟨off, -, rfl⟩ | ⟨grips, ⟨-, -, -, rfl⟩ | ⟨h, reference, hadHand, rfl, -⟩⟩
  · exact ⟨fun h is => (Option.some_ne_none h is.symm).elim, fun _ => off⟩
  · refine ⟨fun h is => ?_, fun is => (Option.some_ne_none _ is).elim⟩
    obtain rfl := Option.some.inj is
    exact ⟨rfl, grips, fun ready => now grips (by simpa using ready)⟩
  · refine ⟨fun h' is => ?_, fun is => (Option.some_ne_none _ is).elim⟩
    obtain rfl := Option.some.inj is
    refine ⟨rfl, grips, fun ready => ?_⟩
    simp only [Hand.readies, Bool.or_eq_true, Bool.and_eq_true, decide_eq_true_eq] at ready
    rcases ready with low | ⟨ready, same⟩
    · exact now grips low
    · obtain ⟨f, older, -, -, -, released⟩ := inv.hands side h hadHand
      obtain ⟨newer, g, older, frames, low, all⟩ := released ready
      refine ⟨⟨controllers, measured⟩ :: newer, g, older, by rw [frames]; rfl, low, ?_⟩
      exact List.forall_mem_cons.mpr ⟨⟨grips, rfl⟩, fun g' member => same ▸ all g' member⟩

/-- The pose that the base is driven at is the first since the last reset. -/
theorem drive_hold (inv : Inv config s) (drive : s.controlMode = .drive) (f : Seen) :
    some (s.driveHold.getD f.measured) = (f :: s.frames).getLast?.map Seen.measured := by
  rw [(inv.drive drive).2]
  cases frames : s.frames with
  | nil => rfl
  | cons => simp [List.getLast?_eq_some_getLast]

theorem inv_map (inv : Inv config s) : Inv config (map config kinematics s input).2 := by
  unfold map
  dsimp only
  split
  · exact inv_cleared fun _ _ => rfl
  split
  · exact inv
  · rename_i measured state drive
    split
    · exact inv
    · have still := (inv.drive drive).1
      refine ⟨fun _ _ => rfl, fun side hand is => ?_, fun arms => ?_, fun _ => ⟨still, ?_⟩⟩
      · cases (still side).symm.trans is
      · cases drive.symm.trans arms
      · exact drive_hold inv drive ⟨input.controllers, measured⟩
  · rename_i measured state arms
    split
    · rename_i left leftHand right rightHand leftMapped rightMapped
      have leftNext := @hand_next _ _ _ _ measured _ _ _ _ _ _ input.controllers inv leftMapped
      have rightNext := @hand_next _ _ _ _ measured _ _ _ _ _ _ input.controllers inv rightMapped
      refine ⟨fun _ _ => rfl, fun side hand is => ⟨_, _, rfl, ?_⟩, fun _ side is f older frames => ?_,
        fun drive => ?_⟩
      · cases side with
        | left => exact leftNext.1 hand is
        | right => exact rightNext.1 hand is
      · cases frames
        cases side with
        | left => exact leftNext.2 is
        | right => exact rightNext.2 is
      · cases arms.symm.trans drive
    · exact inv_cleared fun _ _ => rfl

theorem inv_step {l : Label} (inv : Inv config s) (next : step config kinematics s l = some t) : Inv config t := by
  cases l with cases next
  | map => exact inv_map inv
  | accept applied => exact inv_accept inv applied
  | setControlMode =>
    unfold setControlMode
    split
    · exact inv
    split
    · exact inv
    · exact inv_cleared fun _ _ => rfl
  | reset => exact inv_cleared fun _ _ => rfl

variable (config s input measured action) in
/-- What `map` returns after any run. -/
structure Kept : Prop where
  base : s.controlMode = .arms → action.xVel = 0 ∧ action.thetaVel = 0
  rests : s.controlMode = .arms → ∀ side, ¬Grips config side input.controllers → ∀ j,
    action.joints side j = (lastTarget s.log side j).getD (measured side j)
  grips : s.controlMode = .arms → ∀ side, Grips config side input.controllers →
    (∀ f older, s.frames = f :: older → ¬Grips config side f.controllers) →
    ∀ j, j ≠ 5 → action.joints side j = measured side j
  squeezes : s.controlMode = .arms → ∀ side, action.joints side 5 ≠ (lastTarget s.log side 5).getD (measured side 5) →
    Grips config side input.controllers ∧ 1 / 10 ≤ (input.controllers side).trigger ∧
      Released config side (input.controllers side).opens s.frames
  drives : s.controlMode = .drive →
    some action.joints = ((⟨input.controllers, measured⟩ : Seen) :: s.frames).getLast?.map Seen.measured
  wheels : s.controlMode = .drive → action.xVel ≠ 0 ∨ action.thetaVel ≠ 0 → (input.controllers .right).grip

/-- One side of a frame that is returned. -/
theorem side_kept (inv : Inv config s)
    (mapped : mapSide config kinematics side (s.hands side) (s.held measured side) (measured side)
      (input.controllers side) dt limits = some (row, hand')) :
    (¬Grips config side input.controllers → ∀ j, row j = (lastTarget s.log side j).getD (measured side j)) ∧
    (Grips config side input.controllers → (∀ f older, s.frames = f :: older → ¬Grips config side f.controllers) →
      ∀ j, j ≠ 5 → row j = measured side j) ∧
    (row 5 ≠ (lastTarget s.log side 5).getD (measured side 5) →
      Grips config side input.controllers ∧ 1 / 10 ≤ (input.controllers side).trigger ∧
        Released config side (input.controllers side).opens s.frames) := by
  have held (j : Fin 6) : s.held measured side j = (lastTarget s.log side j).getD (measured side j) := by
    rw [Mapper.held, inv.targets]
  rcases mapSide_cases mapped with
    ⟨off, rfl, -⟩ | ⟨grips, ⟨-, pose, gripper, -⟩ | ⟨h, reference, hadHand, -, moves⟩⟩
  · exact ⟨fun _ => held, fun grips => absurd grips off, fun moved => absurd (held 5) moved⟩
  · exact ⟨fun off => absurd grips off, fun _ _ => pose, fun moved => absurd (gripper.trans (held 5)) moved⟩
  · obtain ⟨f, older, frames, previous, gripped, released⟩ := inv.hands side h hadHand
    refine ⟨fun off => absurd grips off, fun _ fresh => absurd gripped (fresh f older frames), fun moved => ?_⟩
    obtain ⟨ready, squeezed⟩ := moves (held 5 ▸ moved)
    refine ⟨grips, squeezed, ?_⟩
    simp only [Hand.readies, Bool.or_eq_true, Bool.and_eq_true, decide_eq_true_eq] at ready
    rcases ready with low | ⟨ready, same⟩
    · exact absurd squeezed (not_le.mpr low)
    · exact same ▸ released ready

end

/-- **Modes**: a released side holds, a grip begins at the measured pose, the gripper needs a fresh squeeze,
and driving holds the arms. -/
theorem mapping_always (config : MappingConfig) (kinematics : Kinematics) {labels : List Label} {s : Mapper}
    (ran : run (step config kinematics) {} labels = some s) {input : Input} {action : Action}
    (returned : (map config kinematics s input).1 = some action) :
    ∃ measured, input.state = some measured ∧ Kept config s input measured action := by
  have inv : Inv config s := @reachable_induction _ _ (step config kinematics) (Inv config) _ _
    (fun _ _ _ => inv_step) ⟨labels, ran⟩ (inv_cleared fun _ _ => rfl)
  unfold map at returned
  dsimp only at returned
  split at returned
  · cases returned
  split at returned
  · cases returned
  · rename_i measured state drive
    refine ⟨measured, state, ?_⟩
    split at returned <;> cases returned
    have arms (arms : s.controlMode = .arms) : False := by cases drive.symm.trans arms
    refine ⟨fun h => (arms h).elim, fun h => (arms h).elim, fun h => (arms h).elim, fun h => (arms h).elim,
      fun _ => drive_hold inv drive ⟨input.controllers, measured⟩, fun _ moves => ?_⟩
    by_contra released
    simp [released] at moves
  · rename_i measured state arms
    refine ⟨measured, state, ?_⟩
    have drive (drive : s.controlMode = .drive) : False := by cases arms.symm.trans drive
    split at returned
    · rename_i left leftHand right rightHand leftMapped rightMapped
      cases returned
      have leftKept := side_kept inv leftMapped
      have rightKept := side_kept inv rightMapped
      refine ⟨fun _ => ⟨rfl, rfl⟩, fun _ side => ?_, fun _ side => ?_, fun _ side => ?_,
        fun h => (drive h).elim, fun h => (drive h).elim⟩
      · cases side with
        | left => exact leftKept.1
        | right => exact rightKept.1
      · cases side with
        | left => exact leftKept.2.1
        | right => exact rightKept.2.1
      · cases side with
        | left => exact leftKept.2.2
        | right => exact rightKept.2.2
    · cases returned

/-! ## A side that is held below a limit -/

theorem bench_joint : (0 : ℚ) < 15 := by norm_num

def bench : MappingConfig where
  positionScale := 1 / 2
  panDegPerM := 120
  thumbstickPan := 15
  wristScale := 1
  maxJointSpeed := 15
  maxGripperSpeed := 25
  maxLinear := 1 / 20
  maxAngular := 10
  maxControllerJump := 12 / 100
  maxWristJump := 45
  enableBase := false
  enabledArms _ := true
  gripperOpen := 100
  gripperClosed := 0
  panSigns _ := 1
  jointPositive := bench_joint
  gripperPositive := by norm_num
  jumpPositive := by norm_num

/-- The wrist is not turned. -/
def straight : Kinematics where
  forward shoulder elbow := (shoulder, elbow)
  inverse _ _ _ := none
  rotationStep _ _ := 0
  relativeWristAngles _ _ := (0, 0)

/-- The wrist roll is 20 degrees below its limit. -/
def pose : Side → Joints := fun _ j => if j = 4 then -200 else 0

/-- Both sides are gripped, and their thumbsticks are at `stick`. -/
def frame (stick : ℚ) : Input where
  controllers _ := ⟨(0, 0, 0), (0, 0, 0, 1), true, true, 0, (stick, 0), false, le_rfl, by norm_num⟩
  state := some pose
  dt := 1 / 10
  limits _ _ := none

def afterGrip : Mapper := (map bench straight {} (frame 0)).2

theorem grip_ran : run (step bench straight) {} [.map (frame 0)] = some afterGrip := rfl

theorem grip_hand : (afterGrip.hands .left).isSome := by decide +kernel

theorem roll_returns : (map bench straight afterGrip (frame (1 / 2))).1.isSome := by decide +kernel

theorem roll_jumps : ∃ s action, run (step bench straight) {} [.map (frame 0)] = some s ∧
    (s.hands .left).isSome ∧ (map bench straight s (frame (1 / 2))).1 = some action ∧
    s.held pose .left 4 = -200 ∧ action.joints .left 4 = -180 ∧
    bench.maxJointSpeed * (1 / 10) + tolerance < |(-180 : ℚ) - -200| :=
  ⟨_, _, grip_ran, by decide +kernel, (Option.some_get roll_returns).symm, by decide +kernel,
    by decide +kernel, by norm_num [bench, tolerance]⟩

theorem roll_no_step : ∃ hand action, afterGrip.hands .left = some hand ∧
    (map bench straight afterGrip (frame (1 / 2))).1 = some action ∧
    ¬Steps bench straight (afterGrip.held pose .left) (fun _ => none) (clamp (1 / 10) 0 (1 / 10))
      (motionOf bench straight ((frame (1 / 2)).controllers .left) hand.reference (clamp (1 / 10) 0 (1 / 10)))
      (action.joints .left) := by
  refine ⟨_, _, (Option.some_get grip_hand).symm, (Option.some_get roll_returns).symm, fun steps => ?_⟩
  have low := (steps_bounded_iff bench straight afterGrip (frame (1 / 2)) (Option.some_get roll_returns).symm
    rfl rfl (Option.some_get grip_hand).symm rfl rfl).mp steps
  exact absurd (low (by decide +kernel) 4 (by decide)) (by decide +kernel)

theorem grip_kept : ∃ action, (map bench straight afterGrip (frame (1 / 2))).1 = some action ∧
    ∃ measured, some pose = some measured ∧ Kept bench afterGrip (frame (1 / 2)) measured action :=
  ⟨_, (Option.some_get roll_returns).symm, mapping_always bench straight grip_ran (Option.some_get roll_returns).symm⟩

end EmbodiRun.Xlerobot.QuestMapper
