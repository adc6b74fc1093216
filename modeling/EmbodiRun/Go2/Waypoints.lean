/-
# Go2.Waypoints -- waypoint plans, and the velocity pulses of a reactive session

A plan has its waypoints in the frame of the capture, each within a box around its origin.  The
reactive session turns every waypoint after the first into the frame of the one before it, where
the constructor of `Waypoint` checks the same box again, and sends a pulse of each as it goes.

* `executable_iff`: **a plan is executed whole exactly if each waypoint is inside the box of the
  one before**.
-/
import EmbodiRun.Data.Except
import EmbodiRun.Data.Plane

namespace EmbodiRun.Go2.Waypoints

open Data Math

/-- A `NavigationContractError` or a `ValueError`, with the value it names. -/
inductive Fault where
  | atLeast (name : String)
  | atMost (name : String)
  | within (name : String)
  | minExceedsMax
  | exceedsLimits (name : String)

/-! ## Plans -/

section

variable {K : Type} [Field K] [LinearOrder K]

def maxWaypoints : Nat := 64

def maxWaypointCoordinateM : K := 20

def maxOutputValidForS : K := 10

/-- `_validation.finite` with both its bounds, for a number that is finite. -/
def finite (value : K) (name : String) (minimum maximum : K) : Except Fault Unit := do
  ensure (minimum ≤ value) (Fault.atLeast name)
  ensure (value ≤ maximum) (Fault.atMost name)

structure Displacement (K : Type) where
  xM : K
  yM : K
  yawRad : K

/-- What the constructor of `Waypoint` accepts. -/
structure Displacement.Bounded (math : Math K) (d : Displacement K) : Prop where
  x : -maxWaypointCoordinateM ≤ d.xM ∧ d.xM ≤ maxWaypointCoordinateM
  y : -maxWaypointCoordinateM ≤ d.yM ∧ d.yM ≤ maxWaypointCoordinateM
  yaw : -math.pi ≤ d.yawRad ∧ d.yawRad ≤ math.pi

variable {math : Math K}

/-- The checks of the constructor of `Waypoint`. -/
def Displacement.check (math : Math K) (d : Displacement K) : Except Fault Unit := do
  finite d.xM "waypoint.x_m" (-maxWaypointCoordinateM) maxWaypointCoordinateM
  finite d.yM "waypoint.y_m" (-maxWaypointCoordinateM) maxWaypointCoordinateM
  finite d.yawRad "waypoint.yaw_rad" (-math.pi) math.pi

omit [Field K] in
theorem finite_ok_iff {value : K} {name : String} {minimum maximum : K} :
    finite value name minimum maximum = .ok () ↔ minimum ≤ value ∧ value ≤ maximum := by
  unfold finite
  rw [ensure_bind_ok]
  exact and_congr_right fun _ => ⟨ensure_ok, ensure_of⟩
variable {d : Displacement K}

theorem Displacement.check_ok_iff : d.check math = .ok () ↔ d.Bounded math := by
  constructor
  · intro passed
    obtain ⟨_, x, passed⟩ := bind_ok passed
    obtain ⟨_, y, yaw⟩ := bind_ok passed
    exact ⟨finite_ok_iff.mp x, finite_ok_iff.mp y, finite_ok_iff.mp yaw⟩
  · intro bounded
    unfold Displacement.check
    rw [finite_ok_iff.mpr bounded.x, finite_ok_iff.mpr bounded.y, finite_ok_iff.mpr bounded.yaw]
    rfl

structure Waypoint (math : Math K) extends Displacement K where
  bounded : toDisplacement.Bounded math

open Waypoint

/-- The constructor of `Waypoint`. -/
def Waypoint.make (math : Math K) (d : Displacement K) : Except Fault (Waypoint math) :=
  match checked : d.check math with
  | .ok () => .ok ⟨d, Displacement.check_ok_iff.mp checked⟩
  | .error e => .error e

theorem Waypoint.make_ok (bounded : d.Bounded math) : make math d = .ok ⟨d, bounded⟩ := by
  unfold make
  split
  case h_1 => rfl
  case h_2 checked => cases checked.symm.trans (Displacement.check_ok_iff.mpr bounded)

theorem Waypoint.make_error {e : Fault} (refused : d.check math = .error e) : make math d = .error e := by
  unfold make
  split
  case h_1 checked => cases checked.symm.trans refused
  case h_2 checked =>
      cases checked.symm.trans refused
      rfl

theorem Waypoint.bounded_of_make {w : Waypoint math} (made : make math d = .ok w) : d.Bounded math := by
  unfold make at made
  split at made
  case h_1 checked => exact Displacement.check_ok_iff.mp checked
  case h_2 => cases made

/-- A validated plan of a navigation policy, in the frame `base_link` of its capture. -/
structure WaypointPlan (math : Math K) where
  observationSequence : Nat
  waypoints : List (Waypoint math)
  terminal : Bool
  validForS : K
  some_ : waypoints = [] → terminal = true
  bounded : waypoints.length ≤ maxWaypoints
  valid : 0 < validForS ∧ validForS ≤ maxOutputValidForS

/-! ## Velocities -/

structure PlanarVelocityLimits (K : Type) [Field K] [LinearOrder K] where
  maxAbsVx : K
  maxAbsVy : K
  maxAbsYawRate : K
  positive : 0 < maxAbsVx ∧ 0 < maxAbsVy ∧ 0 < maxAbsYawRate

structure PlanarVelocityCommand (limits : PlanarVelocityLimits K) where
  vx : K
  vy : K
  yawRate : K
  bounded : |vx| ≤ limits.maxAbsVx ∧ |vy| ≤ limits.maxAbsVy ∧ |yawRate| ≤ limits.maxAbsYawRate

open PlanarVelocityCommand

/-- The constructor of `PlanarVelocityCommand`. -/
def PlanarVelocityCommand.make (limits : PlanarVelocityLimits K) (vx vy yawRate : K) :
    Except Fault (PlanarVelocityCommand limits) :=
  if x : |vx| ≤ limits.maxAbsVx then
    if y : |vy| ≤ limits.maxAbsVy then
      if yaw : |yawRate| ≤ limits.maxAbsYawRate then .ok ⟨vx, vy, yawRate, x, y, yaw⟩
      else .error (.within "yaw_rate_rps")
    else .error (.within "vy_mps")
  else .error (.within "vx_mps")

def PlanarVelocityCommand.moving {limits : PlanarVelocityLimits K} (c : PlanarVelocityCommand limits) : Bool :=
  [c.vx, c.vy, c.yawRate].any fun value => 1 / 10 ^ 6 < |value|

structure VelocityPulseConfig (K : Type) [Field K] [LinearOrder K] where
  linearSpeed : K
  yawRate : K
  minDurationS : K
  maxDurationS : K
  limits : PlanarVelocityLimits K
  positive : 0 < linearSpeed ∧ 0 < yawRate ∧ 0 < minDurationS ∧ 0 < maxDurationS
  min_le_max : minDurationS ≤ maxDurationS
  linear_le : linearSpeed ≤ min limits.maxAbsVx limits.maxAbsVy
  yaw_le : yawRate ≤ limits.maxAbsYawRate

/-- A validated configuration of the session: that of its pulses, whose checks it makes as well, and
what else `_cycle` reads. -/
structure ReactiveNavigationSessionConfig (K : Type) [Field K] [LinearOrder K] where
  execute : Bool
  linearSpeed : K
  yawRate : K
  minPulseS : K
  maxPulseS : K
  limits : PlanarVelocityLimits K
  maxWaypointsPerObservation : Nat
  positive : 0 < linearSpeed ∧ 0 < yawRate ∧ 0 < minPulseS ∧ 0 < maxPulseS
  min_le_max : minPulseS ≤ maxPulseS
  linear_le : linearSpeed ≤ min limits.maxAbsVx limits.maxAbsVy
  yaw_le : yawRate ≤ limits.maxAbsYawRate
  some_ : 1 ≤ maxWaypointsPerObservation

/-- The configuration of the pulses: its constructor makes checks that were made already. -/
def ReactiveNavigationSessionConfig.pulse (c : ReactiveNavigationSessionConfig K) : VelocityPulseConfig K where
  linearSpeed := c.linearSpeed
  yawRate := c.yawRate
  minDurationS := c.minPulseS
  maxDurationS := c.maxPulseS
  limits := c.limits
  positive := c.positive
  min_le_max := c.min_le_max
  linear_le := c.linear_le
  yaw_le := c.yaw_le

/-! ## A cycle -/

def displacement (previous : Option (Waypoint math)) (current : Waypoint math) : Displacement K :=
  match previous with
  | none => current.toDisplacement
  | some previous =>
    let dx := current.xM - previous.xM
    let dy := current.yM - previous.yM
    let cosine := math.cos previous.yawRad
    let sine := math.sin previous.yawRad
    { xM := cosine * dx + sine * dy
      yM := -sine * dx + cosine * dy
      yawRad := math.atan2 (math.sin (current.yawRad - previous.yawRad))
        (math.cos (current.yawRad - previous.yawRad)) }

def relativeBaseLinkWaypoint (previous : Option (Waypoint math)) (current : Waypoint math) :
    Except Fault (Waypoint math) :=
  match previous with
  | none => .ok current
  | some _ => make math (displacement previous current)

def requiredS (math : Math K) (config : VelocityPulseConfig K) (d : Displacement K) : K :=
  max (max (math.hypot d.xM d.yM / config.linearSpeed) (|d.yawRad| / config.yawRate)) config.minDurationS

structure Pulse (limits : PlanarVelocityLimits K) where
  command : PlanarVelocityCommand limits
  durationS : K

/-- The local `bounded` of `waypoint_to_velocity_pulse`. -/
def clip (value maximum : K) : K := max (-maximum) (min maximum value)

theorem clip_bounded [IsStrictOrderedRing K] (value : K) {maximum : K} (positive : 0 < maximum) :
    |clip value maximum| ≤ maximum :=
  abs_le.mpr ⟨le_max_left _ _, max_le ((neg_neg_of_pos positive).le.trans positive.le) (min_le_left _ _)⟩

def waypointToVelocityPulse (waypoint : Waypoint math) (config : VelocityPulseConfig K) :
    Except Fault (Pulse config.limits) := do
  let durationS := min (requiredS math config waypoint.toDisplacement) config.maxDurationS
  let command ← make config.limits (clip (waypoint.xM / durationS) config.limits.maxAbsVx)
    (clip (waypoint.yM / durationS) config.limits.maxAbsVy)
    (clip (waypoint.yawRad / durationS) config.limits.maxAbsYawRate)
  return { command, durationS }

def pulses (config : VelocityPulseConfig K) :
    Option (Waypoint math) → List (Waypoint math) → List (Pulse config.limits) × Except Fault Unit
  | _, [] => ([], .ok ())
  | previous, waypoint :: rest =>
    match relativeBaseLinkWaypoint previous waypoint >>= (waypointToVelocityPulse · config) with
    | .error e => ([], .error e)
    | .ok pulse =>
      let after := pulses config (some waypoint) rest
      (pulse :: after.1, after.2)

def selected (config : ReactiveNavigationSessionConfig K) (plan : WaypointPlan math) : List (Waypoint math) :=
  plan.waypoints.take config.maxWaypointsPerObservation

/-- What `_cycle` does with a plan. -/
def executePlan (config : ReactiveNavigationSessionConfig K) (plan : WaypointPlan math) :
    List (Pulse config.pulse.limits) × Except Fault Unit :=
  pulses config.pulse none (selected config plan)

def started (config : ReactiveNavigationSessionConfig K) (plan : WaypointPlan math) :
    List (Pulse config.pulse.limits) :=
  if config.execute then (executePlan config plan).1.filter (·.command.moving) else []

/-! ## What a plan should come to -/

structure Carries (math : Math K) (config : VelocityPulseConfig K) (d : Displacement K)
    (pulse : Pulse config.limits) : Prop where
  limits : |pulse.command.vx| ≤ config.limits.maxAbsVx ∧
    |pulse.command.vy| ≤ config.limits.maxAbsVy ∧
    |pulse.command.yawRate| ≤ config.limits.maxAbsYawRate
  duration : config.minDurationS ≤ pulse.durationS ∧ pulse.durationS ≤ config.maxDurationS
  covers : requiredS math config d ≤ config.maxDurationS →
    pulse.command.vx * pulse.durationS = d.xM ∧ pulse.command.vy * pulse.durationS = d.yM ∧
      pulse.command.yawRate * pulse.durationS = d.yawRad

def displacements : Option (Waypoint math) → List (Waypoint math) → List (Displacement K)
  | _, [] => []
  | previous, waypoint :: rest =>
    displacement previous waypoint :: displacements (some waypoint) rest

def Executable (config : ReactiveNavigationSessionConfig K) (plan : WaypointPlan math) : Prop :=
  (executePlan config plan).2 = .ok () ∧
    List.Forall₂ (Carries math config.pulse) (displacements none (selected config plan)) (executePlan config plan).1

/-- The way from one waypoint to another, along the heading of the one and across it, is within the
bounds of a coordinate. -/
def Inside (one other : Waypoint math) : Prop :=
  |math.cos one.yawRad * (other.xM - one.xM) + math.sin one.yawRad * (other.yM - one.yM)| ≤
      maxWaypointCoordinateM ∧
    |-math.sin one.yawRad * (other.xM - one.xM) + math.cos one.yawRad * (other.yM - one.yM)| ≤
      maxWaypointCoordinateM

end

/-! ## Over the reals -/

section

variable {config : VelocityPulseConfig ℝ}

theorem clip_eq {value maximum : ℝ} (within : |value| ≤ maximum) : clip value maximum = value := by
  obtain ⟨low, high⟩ := abs_le.mp within
  rw [clip, min_eq_right high, max_eq_right low]

theorem duration_bounds (config : VelocityPulseConfig ℝ) (d : Displacement ℝ) :
    config.minDurationS ≤ min (requiredS real config d) config.maxDurationS ∧
      min (requiredS real config d) config.maxDurationS ≤ config.maxDurationS :=
  ⟨le_min (le_max_right _ _) config.min_le_max, min_le_right _ _⟩

theorem clip_mul {value speed limit duration : ℝ} (fits : |value| ≤ speed * duration)
    (within : speed ≤ limit) (positive : 0 < duration) :
    clip (value / duration) limit * duration = value := by
  have slow : |value / duration| ≤ limit := by
    rw [abs_div, abs_of_pos positive]
    exact ((div_le_iff₀ positive).mpr fits).trans within
  rw [clip_eq slow, div_mul_cancel₀ _ positive.ne']

theorem le_requiredS (d : Displacement ℝ) : Math.real.hypot d.xM d.yM ≤ config.linearSpeed * requiredS real config d ∧
      |d.yawRad| ≤ config.yawRate * requiredS real config d := by
  have le_both := (le_max_left _ _ :
    max (Math.real.hypot d.xM d.yM / config.linearSpeed) (|d.yawRad| / config.yawRate) ≤ requiredS real config d)
  refine ⟨?_, ?_⟩
  · rw [← div_le_iff₀' config.positive.1]
    exact (le_max_left _ _).trans le_both
  · rw [← div_le_iff₀' config.positive.2.1]
    exact (le_max_right _ _).trans le_both

theorem waypointToVelocityPulse_carries (w : Waypoint real) : ∃ pulse, waypointToVelocityPulse w config = .ok pulse ∧
      Carries real config w.toDisplacement pulse := by
  obtain ⟨long, short⟩ := duration_bounds config w.toDisplacement
  have x := clip_bounded (w.xM / min (requiredS real config w.toDisplacement)
    config.maxDurationS) config.limits.positive.1
  have y := clip_bounded (w.yM / min (requiredS real config w.toDisplacement)
    config.maxDurationS) config.limits.positive.2.1
  have yaw := clip_bounded (w.yawRad / min (requiredS real config w.toDisplacement)
    config.maxDurationS) config.limits.positive.2.2
  refine ⟨⟨⟨_, _, _, x, y, yaw⟩, _⟩, ?_, ⟨x, y, yaw⟩, ⟨long, short⟩, fun fits => ?_⟩
  · simp only [waypointToVelocityPulse, PlanarVelocityCommand.make, dif_pos x, dif_pos y, dif_pos yaw]
    rfl
  · obtain ⟨linear, angular⟩ := @le_requiredS config w.toDisplacement
    obtain ⟨x_le, y_le⟩ := abs_le_hypot w.xM w.yM
    have positive := config.positive.2.2.1.trans_le long
    simp only [min_eq_left fits] at positive ⊢
    exact ⟨clip_mul (x_le.trans linear) (config.linear_le.trans (min_le_left _ _)) positive,
      clip_mul (y_le.trans linear) (config.linear_le.trans (min_le_right _ _)) positive,
      clip_mul angular config.yaw_le positive⟩

theorem vx_of_pulse {w : Waypoint real} {pulse : Pulse config.limits}
    (ran : waypointToVelocityPulse w config = .ok pulse) :
    pulse.command.vx = clip (w.xM / pulse.durationS) config.limits.maxAbsVx := by
  obtain ⟨command, made, ⟨⟩⟩ := bind_ok ran
  unfold PlanarVelocityCommand.make at made
  split_ifs at made
  cases made
  rfl

theorem displacement_bounded_iff {previous current : Waypoint real} :
    (displacement (some previous) current).Bounded real ↔ Inside previous current := by
  constructor
  · exact fun bounded => ⟨abs_le.mpr bounded.x, abs_le.mpr bounded.y⟩
  · exact fun inside => ⟨abs_le.mp inside.1, abs_le.mp inside.2, abs_le.mp (Math.abs_atan2_le _ _)⟩

variable {previous : Option (Waypoint real)} {current : Waypoint real}

theorem turn_of_bounded (bounded : (displacement previous current).Bounded real) :
    ∃ pulse, (relativeBaseLinkWaypoint previous current >>= (waypointToVelocityPulse · config)) =
      .ok pulse ∧ Carries real config (displacement previous current) pulse := by
  have relative : relativeBaseLinkWaypoint previous current = .ok ⟨_, bounded⟩ := by
    cases previous with
    | none => rfl
    | some => exact Waypoint.make_ok bounded
  rw [relative]
  exact waypointToVelocityPulse_carries ⟨_, bounded⟩

theorem bounded_of_turn {pulse : Pulse config.limits}
    (ran : (relativeBaseLinkWaypoint previous current >>= (waypointToVelocityPulse · config)) =
      .ok pulse) : (displacement previous current).Bounded real := by
  obtain ⟨relative, made, -⟩ := bind_ok ran
  cases previous with
  | none => exact current.bounded
  | some => exact Waypoint.bounded_of_make made

/-- All the displacements of a list are what `Waypoint` accepts. -/
def AllBounded (previous : Option (Waypoint real)) (waypoints : List (Waypoint real)) : Prop :=
  ∀ d ∈ displacements previous waypoints, d.Bounded real

theorem pulses_iff (previous : Option (Waypoint real)) (waypoints : List (Waypoint real)) :
    (pulses config previous waypoints).2 = .ok () ∧
        List.Forall₂ (Carries real config) (displacements previous waypoints) (pulses config previous waypoints).1 ↔
      AllBounded previous waypoints := by
  induction waypoints generalizing previous with
  | nil => exact iff_of_true ⟨rfl, .nil⟩ nofun
  | cons waypoint rest rest_iff =>
    rw [AllBounded, displacements, List.forall_mem_cons, ← AllBounded, ← rest_iff (some waypoint), pulses]
    split
    case h_1 e raised =>
        refine iff_of_false nofun fun all => ?_
        obtain ⟨pulse, ran, -⟩ := @turn_of_bounded config _ _ all.1
        cases raised.symm.trans ran
    case h_2 pulse ran =>
        have bounded := bounded_of_turn ran
        obtain ⟨_, same, carries⟩ := @turn_of_bounded config _ _ bounded
        cases ran.symm.trans same
        rw [List.forall₂_cons]
        exact ⟨fun h => ⟨bounded, h.1, h.2.2⟩, fun h => ⟨h.2.1, carries, h.2.2⟩⟩

theorem allBounded_iff (previous : Option (Waypoint real)) (waypoints : List (Waypoint real)) :
    AllBounded previous waypoints ↔ (previous.toList ++ waypoints).IsChain Inside := by
  induction waypoints generalizing previous with
  | nil => cases previous <;> exact iff_of_true nofun (by simp)
  | cons waypoint rest rest_iff =>
    rw [AllBounded, displacements, List.forall_mem_cons, ← AllBounded, rest_iff]
    cases previous with
    | none => exact and_iff_right waypoint.bounded
    | some =>
      rw [displacement_bounded_iff]
      exact List.isChain_cons_cons.symm

end

/-- An accepted plan is executed whole and within its limits, exactly if each selected waypoint is inside
the box of the one before. -/
theorem executable_iff (config : ReactiveNavigationSessionConfig ℝ) (plan : WaypointPlan real) :
    Executable config plan ↔ (selected config plan).IsChain Inside :=
  (pulses_iff none _).trans (allBounded_iff none _)

noncomputable def defaultConfig : ReactiveNavigationSessionConfig ℝ where
  execute := true
  linearSpeed := 0.30
  yawRate := 0.60
  minPulseS := 0.05
  maxPulseS := 1.50
  limits := { maxAbsVx := 0.35, maxAbsVy := 0.35, maxAbsYawRate := 0.7, positive := by norm_num }
  maxWaypointsPerObservation := 2
  positive := by norm_num
  min_le_max := by norm_num
  linear_le := by norm_num
  yaw_le := by norm_num
  some_ := by norm_num

noncomputable def corner (at_ : ℝ) (within : at_ = 20 ∨ at_ = -20) : Waypoint real where
  xM := at_
  yM := at_
  yawRad := 0
  bounded := by
    have bounds : -maxWaypointCoordinateM ≤ at_ ∧ at_ ≤ maxWaypointCoordinateM := by
      obtain rfl | rfl := within <;> norm_num [maxWaypointCoordinateM]
    exact ⟨bounds, bounds, neg_nonpos.mpr Real.pi_pos.le, Real.pi_pos.le⟩

noncomputable def diagonal : WaypointPlan real where
  observationSequence := 0
  waypoints := [corner 20 (.inl rfl), corner (-20) (.inr rfl)]
  terminal := false
  validForS := 5
  some_ := nofun
  bounded := by norm_num [maxWaypoints]
  valid := by norm_num [maxOutputValidForS]

theorem corner_moves {within : (20 : ℝ) = 20 ∨ (20 : ℝ) = -20} {pulse : Pulse defaultConfig.pulse.limits}
    (ran : waypointToVelocityPulse (corner 20 within) defaultConfig.pulse = .ok pulse) :
    pulse.command.moving = true := by
  obtain ⟨_, same, carries⟩ := @waypointToVelocityPulse_carries defaultConfig.pulse (corner 20 within)
  cases ran.symm.trans same
  have positive : 0 < pulse.durationS := lt_of_lt_of_le (by norm_num [defaultConfig,
    ReactiveNavigationSessionConfig.pulse]) carries.duration.1
  have far : (0.35 : ℝ) ≤ 20 / pulse.durationS := by
    rw [le_div_iff₀ positive]
    linarith [show pulse.durationS ≤ 1.50 from carries.duration.2]
  have full : pulse.command.vx = 0.35 := by
    rw [vx_of_pulse ran]
    show max (-0.35) (min 0.35 (20 / pulse.durationS)) = (0.35 : ℝ)
    rw [min_eq_left far]
    norm_num
  norm_num [PlanarVelocityCommand.moving, full, abs_of_pos]

theorem opposite_refused : relativeBaseLinkWaypoint (some (corner 20 (.inl rfl)))
    (corner (-20) (.inr rfl)) = .error (.atLeast "waypoint.x_m") := by
  have behind : ¬-maxWaypointCoordinateM ≤
      (displacement (some (corner 20 (.inl rfl))) (corner (-20) (.inr rfl))).xM := by
    show ¬-(20 : ℝ) ≤ Real.cos 0 * (-20 - 20) + Real.sin 0 * (-20 - 20)
    norm_num
  refine Waypoint.make_error ?_
  unfold Displacement.check finite
  rw [ensure_not behind]
  rfl

/-- Both waypoints are in the box; the base has started for the one when the other, 40 m behind, is refused. -/
theorem abandoned_on_diagonal : (started defaultConfig diagonal).length = 1 ∧
      (executePlan defaultConfig diagonal).2 = .error (.atLeast "waypoint.x_m") ∧
      ¬Executable defaultConfig diagonal := by
  obtain ⟨pulse, ran, -⟩ := @waypointToVelocityPulse_carries defaultConfig.pulse (corner 20 (.inl rfl))
  have executed : executePlan defaultConfig diagonal = ([pulse], .error (.atLeast "waypoint.x_m")) := by
    show pulses _ none [corner 20 (.inl rfl), corner (-20) (.inr rfl)] = _
    have first : (relativeBaseLinkWaypoint none (corner 20 (.inl rfl)) >>=
      (waypointToVelocityPulse · defaultConfig.pulse)) = .ok pulse := ran
    have second : (relativeBaseLinkWaypoint (some (corner 20 (.inl rfl))) (corner (-20) (.inr rfl)) >>=
      (waypointToVelocityPulse · defaultConfig.pulse)) = .error (.atLeast "waypoint.x_m") := by
      rw [opposite_refused]
      rfl
    simp only [pulses, first, second]
  refine ⟨?_, congrArg Prod.snd executed, fun executable => ?_⟩
  · have executes : defaultConfig.execute = true := rfl
    rw [started, executed, if_pos executes]
    simp [corner_moves ran]
  · cases executable.1.symm.trans (congrArg Prod.snd executed)

end EmbodiRun.Go2.Waypoints
