/-
# Go2.Follower -- following a waypoint plan in odometry

The follower anchors an accepted plan in the world, and a sample passes the waypoints that the pose
has reached and commands a velocity towards the next.  What was called and what came of it is a
history, newest first; what the plan that is held has come to is read off the history alone.

* `fine_always`: **every event of every run is fine**.
-/
import EmbodiRun.Go2.Waypoints

namespace EmbodiRun.Go2.Follower

set_option linter.unusedSectionVars false

open Data Waypoints List Math

/-! ## Poses -/

section

variable {K : Type} [Field K] [LinearOrder K] (math : Math K)

structure Pose2D (K : Type) where
  xM : K
  yM : K
  yawRad : K

def normalizeAngle (angle : K) : K := math.atan2 (math.sin angle) (math.cos angle)

/-- The constructor of `Pose2D`. -/
def Pose2D.make (xM yM yawRad : K) : Pose2D K := ⟨xM, yM, normalizeAngle math yawRad⟩

def composeRelativePose (origin relative : Pose2D K) : Pose2D K :=
  let cosine := math.cos origin.yawRad
  let sine := math.sin origin.yawRad
  Pose2D.make math (origin.xM + cosine * relative.xM - sine * relative.yM)
    (origin.yM + sine * relative.xM + cosine * relative.yM) (origin.yawRad + relative.yawRad)

def relativePose (target origin : Pose2D K) : Pose2D K :=
  let dx := target.xM - origin.xM
  let dy := target.yM - origin.yM
  let cosine := math.cos origin.yawRad
  let sine := math.sin origin.yawRad
  Pose2D.make math (cosine * dx + sine * dy) (-sine * dx + cosine * dy) (target.yawRad - origin.yawRad)

end

/-! ## The follower -/

section

variable {K : Type} [Field K] [LinearOrder K] [IsStrictOrderedRing K] {math : Math K}

structure WaypointFollowerConfig (math : Math K) where
  forwardGain : K
  lateralGain : K
  headingGain : K
  goalYawGain : K
  positionToleranceM : K
  yawToleranceRad : K
  limits : PlanarVelocityLimits K
  gains : 0 < forwardGain ∧ 0 < lateralGain ∧ 0 < headingGain ∧ 0 < goalYawGain
  position : 0 < positionToleranceM ∧ positionToleranceM ≤ 1
  yaw : 0 < yawToleranceRad ∧ yawToleranceRad ≤ math.pi

def stopped (limits : PlanarVelocityLimits K) : PlanarVelocityCommand limits where
  vx := 0
  vy := 0
  yawRate := 0
  bounded := by
    rw [abs_zero]
    exact ⟨limits.positive.1.le, limits.positive.2.1.le, limits.positive.2.2.le⟩

variable (config : WaypointFollowerConfig math)

def relativeTargetToVelocity (target : Pose2D K) : PlanarVelocityCommand config.limits :=
  let near := math.hypot target.xM target.yM ≤ config.positionToleranceM
  let vx := if near then 0 else config.forwardGain * target.xM
  let vy := if near then 0 else config.lateralGain * target.yM
  let headingError := if near then 0 else math.atan2 target.yM target.xM
  let goalYaw := if |target.yawRad| ≤ config.yawToleranceRad then 0 else target.yawRad
  let yawRate := config.headingGain * headingError + config.goalYawGain * goalYaw
  { vx := clip vx config.limits.maxAbsVx
    vy := clip vy config.limits.maxAbsVy
    yawRate := clip yawRate config.limits.maxAbsYawRate
    bounded := ⟨clip_bounded _ config.limits.positive.1, clip_bounded _ config.limits.positive.2.1,
      clip_bounded _ config.limits.positive.2.2⟩ }

structure FollowerSample (config : WaypointFollowerConfig math) where
  command : PlanarVelocityCommand config.limits
  active : Bool
  terminalReached : Bool
  waypointIndex : Nat

structure WorldWaypointFollower (K : Type) where
  latestSequence : Option Nat := none
  sequence : Option Nat := none
  worldTargets : List (Pose2D K) := []
  index : Nat := 0
  terminal : Bool := false
  validUntilS : Option K := none

open WorldWaypointFollower

def WorldWaypointFollower.clear (f : WorldWaypointFollower K) : WorldWaypointFollower K :=
  { latestSequence := f.latestSequence }

def WorldWaypointFollower.resetEpisode (_ : WorldWaypointFollower K) : WorldWaypointFollower K := {}

/-- The arguments of `replace`. -/
structure Offer (math : Math K) where
  plan : WaypointPlan math
  capturePose : Pose2D K
  acceptedAtS : K

def Offer.targets (o : Offer math) : List (Pose2D K) :=
  o.plan.waypoints.map fun item =>
    composeRelativePose math o.capturePose (Pose2D.make math item.xM item.yM item.yawRad)

def Offer.validUntilS (o : Offer math) : K := o.acceptedAtS + o.plan.validForS

/-- `replace`; `none` where it raises that the sequence must increase. -/
def WorldWaypointFollower.replace (f : WorldWaypointFollower K) (o : Offer math) : Option (WorldWaypointFollower K) :=
  if ∃ latest ∈ f.latestSequence, o.plan.observationSequence ≤ latest then none
  else some {
    latestSequence := some o.plan.observationSequence
    sequence := some o.plan.observationSequence
    worldTargets := o.targets
    index := 0
    terminal := o.plan.terminal
    validUntilS := some o.validUntilS }

def Reached (target current : Pose2D K) : Prop :=
  math.hypot (relativePose math target current).xM (relativePose math target current).yM ≤ config.positionToleranceM ∧
    |(relativePose math target current).yawRad| ≤ config.yawToleranceRad

instance (target current : Pose2D K) : Decidable (Reached config target current) :=
  inferInstanceAs (Decidable (_ ∧ _))

/-- The loop of `sample` over the targets that are left: the index it comes to, and the pose of the
target there. -/
def advance (current : Pose2D K) : Nat → List (Pose2D K) → Nat × Option (Pose2D K)
  | index, [] => (index, none)
  | index, target :: rest =>
    if Reached config target current then advance current (index + 1) rest
    else (index, some (relativePose math target current))

def WorldWaypointFollower.sample (f : WorldWaypointFollower K) (current : Pose2D K)
    (monotonicS : K) : WorldWaypointFollower K × FollowerSample config :=
  let nothing : FollowerSample config := ⟨stopped config.limits, false, false, 0⟩
  if f.sequence = none then (f, nothing)
  else if ∃ validUntilS ∈ f.validUntilS, validUntilS < monotonicS then (f.clear, nothing)
  else
    let (index, relative) := advance config current f.index (f.worldTargets.drop f.index)
    ({ f with index }, match relative with
      | some relative => ⟨relativeTargetToVelocity config relative, true, false, index⟩
      | none => ⟨stopped config.limits, false, f.terminal, index⟩)

/-! ## Runs -/

inductive Call (math : Math K) where
  | replace (offer : Offer math)
  | sample (current : Pose2D K) (monotonicS : K)
  | clear
  | resetEpisode

inductive Event (config : WaypointFollowerConfig math) where
  | accepted (offer : Offer math)
  | refused (offer : Offer math)
  | sampled (current : Pose2D K) (monotonicS : K) (answer : FollowerSample config)
  | cleared
  | episodeReset

def call (f : WorldWaypointFollower K) : Call math → WorldWaypointFollower K × Event config
  | .replace offer => match f.replace offer with
    | some f' => (f', .accepted offer)
    | none => (f, .refused offer)
  | .sample current monotonicS =>
    let (f', answer) := f.sample config current monotonicS
    (f', .sampled current monotonicS answer)
  | .clear => (f.clear, .cleared)
  | .resetEpisode => (f.resetEpisode, .episodeReset)

def runCalls (f : WorldWaypointFollower K) (history : List (Event config)) :
    List (Call math) → WorldWaypointFollower K × List (Event config)
  | [] => (f, history)
  | c :: rest => runCalls (call config f c).1 ((call config f c).2 :: history) rest

def history (calls : List (Call math)) : List (Event config) := (runCalls config {} [] calls).2

/-! ## What the history says -/

variable {config}

structure Pass (K : Type) where
  waypoint : Nat
  current : Pose2D K
  monotonicS : K

structure Progress (math : Math K) where
  offer : Offer math
  passes : List (Pass K)

/-- The plan that is held after a sample, if one was: not one that has expired. The waypoints that
the reported index is past, and that were not passed before, were passed at the sample. -/
def Progress.sampled (p : Progress math) (current : Pose2D K) (monotonicS : K) (index : Nat) :
    Option (Progress math) :=
  if p.offer.validUntilS < monotonicS then none
  else some { p with
    passes := p.passes ++ (range' p.passes.length (index - p.passes.length)).map fun waypoint =>
      { waypoint, current, monotonicS } }

def progress : List (Event config) → Option (Progress math)
  | [] => none
  | .accepted offer :: _ => some ⟨offer, []⟩
  | .refused _ :: older => progress older
  | .sampled current monotonicS answer :: older =>
    (progress older).bind (·.sampled current monotonicS answer.waypointIndex)
  | .cleared :: _ => none
  | .episodeReset :: _ => none

def latest : List (Event config) → Option (Offer math)
  | [] => none
  | .accepted offer :: _ => some offer
  | _ :: older => latest older

/-- The waypoints were passed in order, each at a sample within both tolerances of it and before the
plan expired. -/
structure Progress.Passed (config : WaypointFollowerConfig math) (p : Progress math) : Prop where
  order : p.passes.map (·.waypoint) = List.range p.passes.length
  reached : ∀ pass ∈ p.passes, pass.monotonicS ≤ p.offer.validUntilS ∧
    ∃ target, p.offer.targets[pass.waypoint]? = some target ∧ Reached config target pass.current

/-- A command is towards a target: forward and to the side it has the sign of the way that is left,
and where the position is reached it only turns, with the sign of the angle that is left. -/
structure Toward (config : WaypointFollowerConfig math) (relative : Pose2D K)
    (command : PlanarVelocityCommand config.limits) : Prop where
  forward : 0 ≤ command.vx * relative.xM
  lateral : 0 ≤ command.vy * relative.yM
  far : config.positionToleranceM < math.hypot relative.xM relative.yM →
    0 < command.vx * relative.xM + command.vy * relative.yM
  near : math.hypot relative.xM relative.yM ≤ config.positionToleranceM →
    command.vx = 0 ∧ command.vy = 0 ∧ 0 ≤ command.yawRate * relative.yawRad

def Event.Keeps : Event config → Prop
  | .refused _ | .sampled .. => True
  | _ => False

structure Fine (config : WaypointFollowerConfig math) (older : List (Event config))
    (e : Event config) : Prop where
  /-- The sequences that are accepted within an episode increase. -/
  increasing : ∀ offer, e = .accepted offer → ∀ between before earlier,
    older = between ++ .accepted before :: earlier → .episodeReset ∉ between →
      before.plan.observationSequence < offer.plan.observationSequence
  /-- The plan that is held is the one accepted last, and was passed as far as it was. -/
  passed : ∀ p, progress (e :: older) = some p → latest (e :: older) = some p.offer ∧ p.Passed config
  /-- A command that moves is towards a waypoint of the plan accepted last, which is valid. -/
  command : ∀ current monotonicS answer, e = .sampled current monotonicS answer →
    answer.command ≠ stopped config.limits → ∃ offer target, latest older = some offer ∧
      monotonicS ≤ offer.validUntilS ∧ offer.targets[answer.waypointIndex]? = some target ∧
        Toward config (relativePose math target current) answer.command
  /-- The index that is reported is how far the plan was passed. -/
  index : ∀ current monotonicS answer, e = .sampled current monotonicS answer →
    ∀ p, progress (e :: older) = some p → answer.waypointIndex = p.passes.length
  /-- It never decreases while a plan is held. -/
  nondecreasing : ∀ current monotonicS answer, e = .sampled current monotonicS answer →
    progress (e :: older) ≠ none → ∀ between current' monotonicS' answer' earlier,
      older = between ++ .sampled current' monotonicS' answer' :: earlier →
        (∀ e ∈ between, e.Keeps) → answer'.waypointIndex ≤ answer.waypointIndex
  /-- The end is reported of a terminal plan, all of whose waypoints were passed. -/
  terminal : ∀ current monotonicS answer, e = .sampled current monotonicS answer →
    answer.terminalReached = true → ∃ p, progress (e :: older) = some p ∧
      p.offer.plan.terminal = true ∧ p.passes.length = p.offer.targets.length

/-! ## One sample -/

/-- What the loop of `sample` comes to from an index. -/
structure Advanced (config : WaypointFollowerConfig math) (targets : List (Pose2D K))
    (current : Pose2D K) (index : Nat) (r : Nat × Option (Pose2D K)) : Prop where
  le : index ≤ r.1
  reached : ∀ k, index ≤ k → k < r.1 → ∃ target, targets[k]? = some target ∧ Reached config target current
  towards : ∀ relative, r.2 = some relative →
    ∃ target, targets[r.1]? = some target ∧ relative = relativePose math target current
  ended : r.2 = none → targets.length ≤ r.1
variable {current : Pose2D K} {p : Progress math} {monotonicS : K}

theorem advance_spec {targets} (rest : List (Pose2D K)) : ∀ index, targets.drop index = rest →
      Advanced config targets current index (advance config current index rest) := by
  induction rest with
  | nil =>
    intro index left
    exact ⟨le_rfl, fun k le lt => absurd lt (Nat.not_lt.mpr le), nofun, fun _ => List.drop_eq_nil_iff.mp left⟩
  | cons target rest rest_spec =>
    intro index left
    have here : targets[index]? = some target := by
      rw [← List.head?_drop, left]
      rfl
    have next : targets.drop (index + 1) = rest := by
      rw [← tail_drop, left]
      rfl
    unfold advance
    split
    case isTrue reached =>
        have spec := rest_spec (index + 1) next
        refine ⟨(Nat.le_succ index).trans spec.le, fun k le lt => ?_, spec.towards, spec.ended⟩
        obtain rfl | later := Nat.eq_or_lt_of_le le
        · exact ⟨target, here, reached⟩
        · exact spec.reached k later lt
    case isFalse =>
        refine ⟨le_rfl, fun k le lt => absurd lt (Nat.not_lt.mpr le), ?_, nofun⟩
        rintro _ ⟨⟩
        exact ⟨target, here, rfl⟩

def Holds (f : WorldWaypointFollower K) : Option (Progress math) → Prop
  | none => f.sequence = none
  | some p => f.sequence = some p.offer.plan.observationSequence ∧
      f.worldTargets = p.offer.targets ∧ f.terminal = p.offer.plan.terminal ∧
        f.validUntilS = some p.offer.validUntilS ∧ f.index = p.passes.length

def Newest (f : WorldWaypointFollower K) (h : List (Event config)) : Prop :=
  ∀ between before earlier, h = between ++ .accepted before :: earlier →
    .episodeReset ∉ between → ∃ n, f.latestSequence = some n ∧ before.plan.observationSequence ≤ n

structure Inv (f : WorldWaypointFollower K) (h : List (Event config)) : Prop where
  newest : Newest f h
  held : Holds f (progress h)
  passed : ∀ p, progress h = some p → latest h = some p.offer ∧ p.Passed config
  fine : ∀ e older, e :: older <:+ h → Fine config older e

def nothing (config : WaypointFollowerConfig math) : FollowerSample config :=
  ⟨stopped config.limits, false, false, 0⟩

/-- The answer where the loop of `sample` has come to an index. -/
def answerOf (config : WaypointFollowerConfig math) (terminal : Bool) (r : Nat × Option (Pose2D K)) :
    FollowerSample config :=
  match r.2 with
  | some relative => ⟨relativeTargetToVelocity config relative, true, false, r.1⟩
  | none => ⟨stopped config.limits, false, terminal, r.1⟩

theorem answerOf_index (terminal : Bool) (r : Nat × Option (Pose2D K)) :
    (answerOf config terminal r).waypointIndex = r.1 := by
  unfold answerOf
  split <;> rfl

theorem sample_cases {f : WorldWaypointFollower K} {h : List (Event config)}
    (held : Holds f (progress h)) (current : Pose2D K) (monotonicS : K) :
    ((f.sample config current monotonicS).2 = nothing config ∧
        (f.sample config current monotonicS).1.sequence = none ∧
        (f.sample config current monotonicS).1.latestSequence = f.latestSequence ∧
        ∀ index, (progress h).bind (·.sampled current monotonicS index) = none) ∨
      ∃ p r, progress h = some p ∧ monotonicS ≤ p.offer.validUntilS ∧
        Advanced config p.offer.targets current p.passes.length r ∧
        f.sample config current monotonicS = ({ f with index := r.1 }, answerOf config p.offer.plan.terminal r) := by
  cases found : progress h with
  | none =>
    rw [found] at held
    refine .inl ⟨?_, ?_, ?_, fun _ => rfl⟩ <;> rw [sample, if_pos (show f.sequence = none from held)]
    · rfl
    · exact held
  | some p =>
    rw [found] at held
    obtain ⟨sequence, targets, terminal, validUntil, index⟩ := held
    have some_ : ¬f.sequence = none := by
      rw [sequence]
      nofun
    by_cases expired : p.offer.validUntilS < monotonicS
    · have late : ∃ validUntilS ∈ f.validUntilS, validUntilS < monotonicS :=
        ⟨_, validUntil, expired⟩
      refine .inl ⟨?_, ?_, ?_, fun _ => if_pos expired⟩ <;> rw [sample, if_neg some_, if_pos late] <;> rfl
    · have valid : ¬∃ validUntilS ∈ f.validUntilS, validUntilS < monotonicS := by
        rintro ⟨_, same, late⟩
        rw [validUntil] at same
        exact expired (Option.some.inj same ▸ late)
      refine .inr ⟨p, advance config current p.passes.length (p.offer.targets.drop p.passes.length),
        rfl, not_lt.mp expired, advance_spec _ _ rfl, ?_⟩
      rw [sample, if_neg some_, if_neg valid, index, targets, terminal]
      rfl

theorem Progress.Passed.length_le (passed : p.Passed config) : p.passes.length ≤ p.offer.targets.length := by
  by_contra! more
  have last : p.offer.targets.length ∈ p.passes.map (·.waypoint) := by
    rw [passed.order]
    exact List.mem_range.mpr more
  obtain ⟨pass, mem, same⟩ := List.mem_map.mp last
  obtain ⟨-, target, at_, -⟩ := passed.reached pass mem
  rw [same, getElem?_eq_none le_rfl] at at_
  cases at_

theorem Progress.sampled_passed (passed : p.Passed config) (valid : monotonicS ≤ p.offer.validUntilS)
    {r : Nat × Option (Pose2D K)}
    (advanced : Advanced config p.offer.targets current p.passes.length r) :
    ∃ q, p.sampled current monotonicS r.1 = some q ∧ q.offer = p.offer ∧ q.passes.length = r.1 ∧ q.Passed config := by
  have length : (p.passes ++ (range' p.passes.length (r.1 - p.passes.length)).map
      (Pass.mk · current monotonicS)).length = r.1 := by
    rw [length_append, length_map, length_range', Nat.add_sub_cancel' advanced.le]
  refine ⟨_, if_neg (not_lt.mpr valid), rfl, length, ⟨?_, fun pass mem => ?_⟩⟩
  · simp only [length, map_append, passed.order, map_map]
    calc List.range p.passes.length ++ (range' p.passes.length (r.1 - p.passes.length)).map id =
        range' 0 p.passes.length ++ range' (0 + p.passes.length) (r.1 - p.passes.length) := by
          rw [map_id, range_eq_range', Nat.zero_add]
      _ = range' 0 r.1 := by
          rw [range'_append_1, Nat.add_sub_cancel' advanced.le]
      _ = List.range r.1 := range_eq_range'.symm
  · obtain old | new := List.mem_append.mp mem
    · exact passed.reached pass old
    · obtain ⟨k, within, rfl⟩ := List.mem_map.mp new
      obtain ⟨lower, upper⟩ := mem_range'_1.mp within
      rw [Nat.add_sub_cancel' advanced.le] at upper
      exact ⟨valid, advanced.reached k lower upper⟩

theorem progress_of_keeps {older} {q} : ∀ between : List (Event config), (∀ e ∈ between, e.Keeps) →
      progress (between ++ older) = some q → ∃ p, progress older = some p ∧ p.passes.length ≤ q.passes.length
  | [], _, held => ⟨q, held, le_rfl⟩
  | .refused _ :: between, keeps, held =>
    progress_of_keeps between (fun e mem => keeps e (.tail _ mem)) held
  | .sampled .. :: between, keeps, held => by
    obtain ⟨p, before, sampled⟩ := Option.bind_eq_some_iff.mp held
    unfold Progress.sampled at sampled
    split at sampled
    · cases sampled
    · obtain ⟨o, first, le⟩ :=
        progress_of_keeps between (fun e mem => keeps e (.tail _ mem)) before
      cases sampled
      refine ⟨o, first, le.trans ?_⟩
      rw [length_append]
      exact Nat.le_add_right _ _
  | .accepted _ :: _, keeps, _ => (keeps _ (.head _)).elim
  | .cleared :: _, keeps, _ => (keeps _ (.head _)).elim
  | .episodeReset :: _, keeps, _ => (keeps _ (.head _)).elim

/-! ## One call -/

variable {f f' : WorldWaypointFollower K} {h : List (Event config)} {e : Event config}

theorem Inv.cons (inv : Inv f h) (newest : Newest f' (e :: h)) (held : Holds f' (progress (e :: h)))
    (fine : Fine config h e) : Inv f' (e :: h) where
  newest := newest
  held := held
  passed := fine.passed
  fine e' older suffix := by
    obtain same | earlier := List.suffix_cons_iff.mp suffix
    · cases same
      exact fine
    · exact inv.fine e' older earlier

theorem Newest.cons (newest : Newest f h) (same : f'.latestSequence = f.latestSequence)
    (other : ∀ offer, e ≠ .accepted offer) : Newest f' (e :: h) := by
  intro between before earlier split no_reset
  cases between with
  | nil => exact (other before (List.cons.inj split).1).elim
  | cons first between =>
    rw [same]
    exact newest between before earlier (List.cons.inj split).2 fun mem => no_reset (.tail _ mem)

theorem newest_reset : Newest f' (.episodeReset :: h) := by
  intro between before earlier split no_reset
  cases between with
  | nil => cases split
  | cons =>
    rw [← (List.cons.inj split).1] at no_reset
    exact (no_reset (.head _)).elim

theorem replace_cases (f : WorldWaypointFollower K) (offer : Offer math) : f.replace offer = none ∨
      (∀ n, f.latestSequence = some n → n < offer.plan.observationSequence) ∧ ∃ f', f.replace offer = some f' ∧
          f'.latestSequence = some offer.plan.observationSequence ∧ Holds f' (some ⟨offer, []⟩) := by
  unfold WorldWaypointFollower.replace
  split
  case isTrue => exact .inl rfl
  case isFalse new =>
      exact .inr ⟨fun n latest => not_le.mp fun le => new ⟨n, latest, le⟩, _, rfl, rfl, rfl, rfl, rfl, rfl, rfl⟩

theorem fine_of_other (inv : Inv f h) (unaccepted : ∀ offer, e ≠ .accepted offer)
    (unsampled : ∀ current monotonicS answer, e ≠ .sampled current monotonicS answer)
    (held : progress (e :: h) = none ∨ progress (e :: h) = progress h ∧ latest (e :: h) = latest h) :
    Fine config h e where
  increasing offer same := (unaccepted offer same).elim
  passed p here := by
    obtain dropped | ⟨kept, last⟩ := held
    · cases dropped.symm.trans here
    · rw [last]
      exact inv.passed p (kept ▸ here)
  command current monotonicS answer same := (unsampled _ _ _ same).elim
  index current monotonicS answer same := (unsampled _ _ _ same).elim
  nondecreasing current monotonicS answer same := (unsampled _ _ _ same).elim
  terminal current monotonicS answer same := (unsampled _ _ _ same).elim

theorem inv_replace (inv : Inv f h) (offer : Offer math) :
    Inv (call config f (.replace offer)).1 ((call config f (.replace offer)).2 :: h) := by
  obtain refused | ⟨later, f', accepted, sequence, held⟩ := replace_cases f offer
  · simp only [call, refused]
    exact inv.cons (inv.newest.cons rfl nofun) inv.held (fine_of_other inv nofun nofun (.inr ⟨rfl, rfl⟩))
  · simp only [call, accepted]
    refine inv.cons ?_ held ?_
    · intro between before earlier split no_reset
      refine ⟨_, sequence, ?_⟩
      cases between with
      | nil =>
        cases split
        exact le_rfl
      | cons first between =>
        obtain ⟨n, latest, le⟩ := inv.newest between before earlier (List.cons.inj split).2
          fun mem => no_reset (.tail _ mem)
        exact le.trans (later n latest).le
    · refine ⟨?_, ?_, nofun, nofun, nofun, nofun⟩
      · rintro _ ⟨⟩ between before earlier split no_reset
        obtain ⟨n, latest, le⟩ := inv.newest between before earlier split no_reset
        exact le.trans_lt (later n latest)
      · rintro _ ⟨⟩
        exact ⟨rfl, rfl, nofun⟩

theorem nondecreasing_of_index {answer : FollowerSample config} (inv : Inv f h)
    (index : ∀ p, progress (.sampled current monotonicS answer :: h) = some p →
      answer.waypointIndex = p.passes.length)
    (held : progress (.sampled current monotonicS answer :: h) ≠ none)
    {between earlier : List (Event config)} {current' : Pose2D K} {monotonicS' : K}
    {answer' : FollowerSample config}
    (split : h = between ++ .sampled current' monotonicS' answer' :: earlier)
    (keeps : ∀ e ∈ between, e.Keeps) : answer'.waypointIndex ≤ answer.waypointIndex := by
  obtain ⟨q, here⟩ := Option.ne_none_iff_exists'.mp held
  have both : progress ((.sampled current monotonicS answer :: between) ++
      .sampled current' monotonicS' answer' :: earlier) = some q := by
    rw [cons_append, ← split]
    exact here
  have all : ∀ e ∈ .sampled current monotonicS answer :: between, e.Keeps :=
    List.forall_mem_cons.mpr ⟨trivial, keeps⟩
  obtain ⟨p, there, le⟩ := progress_of_keeps _ all both
  have fine := inv.fine _ earlier (split ▸ suffix_append between _)
  rw [fine.index _ _ _ rfl p there, index q here]
  exact le

end

/-! ## Over the reals -/

section

variable {config : WaypointFollowerConfig real} {f f' : WorldWaypointFollower ℝ} {h : List (Event config)}
variable {gain value maximum : ℝ}

theorem clip_mul_nonneg (gains : 0 < gain) (positive : 0 < maximum) : 0 ≤ clip (gain * value) maximum * value := by
  obtain negative | nonneg := lt_or_ge value 0
  · have low : clip (gain * value) maximum ≤ 0 :=
      max_le (by linarith) ((min_le_right _ _).trans (mul_nonpos_of_nonneg_of_nonpos gains.le negative.le))
    exact mul_nonneg_of_nonpos_of_nonpos low negative.le
  · have high : 0 ≤ clip (gain * value) maximum :=
      le_max_of_le_right (le_min positive.le (mul_nonneg gains.le nonneg))
    exact mul_nonneg high nonneg

theorem clip_mul_pos (gains : 0 < gain) (positive : 0 < maximum) (nonzero : value ≠ 0) :
    0 < clip (gain * value) maximum * value := by
  obtain negative | pos := lt_or_gt_of_ne nonzero
  · have low : clip (gain * value) maximum < 0 :=
      max_lt (by linarith) ((min_le_right _ _).trans_lt (mul_neg_of_pos_of_neg gains negative))
    exact mul_pos_of_neg_of_neg low negative
  · have high : 0 < clip (gain * value) maximum :=
      lt_max_of_lt_right (lt_min positive (mul_pos gains pos))
    exact mul_pos high pos

theorem clip_zero {maximum : ℝ} (positive : 0 < maximum) : clip 0 maximum = 0 :=
  clip_eq (abs_zero.trans_le positive.le)

theorem toward_target (relative : Pose2D ℝ) : Toward config relative (relativeTargetToVelocity config relative) := by
  obtain ⟨forward, lateral, -, turn⟩ := config.gains
  obtain ⟨x, y, yawRate⟩ := config.limits.positive
  by_cases near : Math.real.hypot relative.xM relative.yM ≤ config.positionToleranceM
  · have vx : (relativeTargetToVelocity config relative).vx = 0 := by
      simp only [relativeTargetToVelocity, if_pos near]
      exact clip_zero x
    have vy : (relativeTargetToVelocity config relative).vy = 0 := by
      simp only [relativeTargetToVelocity, if_pos near]
      exact clip_zero y
    have yaw : 0 ≤ (relativeTargetToVelocity config relative).yawRate * relative.yawRad := by
      simp only [relativeTargetToVelocity, if_pos near, mul_zero, zero_add]
      split
      · rw [mul_zero, clip_zero yawRate, zero_mul]
      · exact clip_mul_nonneg turn yawRate
    refine ⟨?_, ?_, fun far => absurd near (not_le.mpr far), fun _ => ⟨vx, vy, yaw⟩⟩
    · rw [vx, zero_mul]
    · rw [vy, zero_mul]
  · have vx : (relativeTargetToVelocity config relative).vx =
        clip (config.forwardGain * relative.xM) config.limits.maxAbsVx := by
      simp only [relativeTargetToVelocity, if_neg near]
    have vy : (relativeTargetToVelocity config relative).vy =
        clip (config.lateralGain * relative.yM) config.limits.maxAbsVy := by
      simp only [relativeTargetToVelocity, if_neg near]
    have along := @clip_mul_nonneg _ relative.xM _ forward x
    have across := @clip_mul_nonneg _ relative.yM _ lateral y
    refine ⟨vx ▸ along, vy ▸ across, fun _ => ?_, fun within => absurd within near⟩
    rw [vx, vy]
    by_cases ahead : relative.xM = 0
    · by_cases beside : relative.yM = 0
      · have here : Math.real.hypot relative.xM relative.yM = 0 := by
          rw [ahead, beside]
          simp [real]
        exact absurd (here.trans_le config.position.1.le) near
      · exact add_pos_of_nonneg_of_pos along (clip_mul_pos lateral y beside)
    · exact add_pos_of_pos_of_nonneg (clip_mul_pos forward x ahead) across

theorem inv_sample (inv : Inv f h) (current : Pose2D ℝ) (monotonicS : ℝ) :
    Inv (call config f (.sample current monotonicS)).1 ((call config f (.sample current monotonicS)).2 :: h) := by
  simp only [call]
  obtain ⟨answer, sequence, same, dropped⟩ | ⟨p, r, found, valid, advanced, sampled⟩ :=
    sample_cases inv.held current monotonicS
  · have none_ : progress (.sampled current monotonicS (nothing config) :: h) = none := dropped _
    rw [answer]
    refine inv.cons (inv.newest.cons same nofun) ?_ ⟨nofun, ?_, ?_, ?_, ?_, ?_⟩
    · rw [none_]
      exact sequence
    · intro p held
      cases none_.symm.trans held
    · rintro _ _ _ ⟨⟩ moves
      exact (moves rfl).elim
    · rintro _ _ _ ⟨⟩ p held
      cases none_.symm.trans held
    · rintro _ _ _ ⟨⟩ held
      exact (held none_).elim
    · rintro _ _ _ ⟨⟩ ends
      cases ends
  · obtain ⟨last, passed⟩ := inv.passed p found
    obtain ⟨q, next, offer, length, still⟩ := Progress.sampled_passed passed valid advanced
    have here : progress (.sampled current monotonicS (answerOf config p.offer.plan.terminal r) :: h) = some q := by
      rw [progress, found, answerOf_index]
      exact next
    have index : ∀ p', progress (.sampled current monotonicS
        (answerOf config p.offer.plan.terminal r) :: h) = some p' →
          (answerOf config p.offer.plan.terminal r).waypointIndex = p'.passes.length := by
      intro p' held
      cases here.symm.trans held
      rw [answerOf_index, length]
    have holds := inv.held
    rw [found] at holds
    rw [sampled]
    refine inv.cons (inv.newest.cons rfl nofun) ?_ ⟨nofun, ?_, ?_, ?_, ?_, ?_⟩
    · rw [here]
      exact ⟨offer ▸ holds.1, offer ▸ holds.2.1, offer ▸ holds.2.2.1, offer ▸ holds.2.2.2.1, length.symm⟩
    · intro p' held
      cases here.symm.trans held
      exact ⟨offer ▸ last, still⟩
    · rintro _ _ _ ⟨⟩ moves
      cases stop : r.2 with
      | none =>
        rw [answerOf, stop] at moves
        exact (moves rfl).elim
      | some relative =>
        obtain ⟨target, at_, rfl⟩ := advanced.towards relative stop
        refine ⟨p.offer, target, last, valid, ?_, ?_⟩
        · rw [answerOf_index]
          exact at_
        · rw [answerOf, stop]
          exact toward_target _
    · rintro _ _ _ ⟨⟩
      exact index
    · rintro _ _ _ ⟨⟩ held between current' monotonicS' answer' earlier split keeps
      exact nondecreasing_of_index inv index held split keeps
    · rintro _ _ _ ⟨⟩ ends
      cases stop : r.2 with
      | none =>
        rw [answerOf, stop] at ends
        refine ⟨q, here, offer ▸ ends, le_antisymm still.length_le ?_⟩
        rw [offer, length]
        exact advanced.ended stop
      | some =>
        rw [answerOf, stop] at ends
        cases ends

theorem inv_call (inv : Inv f h) (c : Call real) : Inv (call config f c).1 ((call config f c).2 :: h) := by
  cases c with
  | replace offer => exact inv_replace inv offer
  | sample current monotonicS => exact inv_sample inv current monotonicS
  | clear =>
    exact inv.cons (inv.newest.cons rfl nofun) rfl (fine_of_other inv nofun nofun (.inl rfl))
  | resetEpisode =>
    exact inv.cons newest_reset rfl (fine_of_other inv nofun nofun (.inl rfl))

theorem inv_init : Inv {} ([] : List (Event config)) where
  newest := by
    intro between before earlier split
    cases between <;> cases split
  held := rfl
  passed := nofun
  fine e older suffix := by cases List.suffix_nil.mp suffix

theorem inv_runCalls (calls : List (Call real)) (inv : Inv f h) :
    Inv (runCalls config f h calls).1 (runCalls config f h calls).2 := by
  induction calls generalizing f h with
  | nil => exact inv
  | cons c rest rest_inv => exact rest_inv (inv_call inv c)

end

/-- Every event of every run is fine: increasing sequences, commands of the plan accepted last, waypoints
passed within both tolerances, and the end of a terminal plan whose waypoints were passed. -/
theorem fine_always (config : WaypointFollowerConfig real) (calls : List (Call real))
    {e : Event config} {older : List (Event config)} (happened : e :: older <:+ history config calls) :
    Fine config older e :=
  (inv_runCalls calls inv_init).fine e older happened

local instance five : Nat.AtLeastTwo 5 := inferInstance

noncomputable def defaultConfig : WaypointFollowerConfig real where
  forwardGain := 0.9
  lateralGain := 0.8
  headingGain := 1.1
  goalYawGain := 0.25
  positionToleranceM := 0.08
  yawToleranceRad := 0.08
  limits := { maxAbsVx := 0.35, maxAbsVy := 0.35, maxAbsYawRate := 0.7, positive := Waypoints.defaultConfig.limits.positive }
  gains := by norm_num
  position := by norm_num
  yaw := ⟨by norm_num, (by norm_num : (0.08 : ℝ) ≤ 2).trans Real.two_le_pi⟩

def origin : Pose2D ℝ := ⟨0, 0, 0⟩

noncomputable def stay : Offer real where
  plan := {
    observationSequence := 0
    waypoints := [⟨⟨0, 0, 0⟩, by norm_num [maxWaypointCoordinateM],
      by norm_num [maxWaypointCoordinateM], neg_nonpos.mpr Real.pi_pos.le, Real.pi_pos.le⟩]
    terminal := true
    validForS := 5
    some_ := nofun
    bounded := by norm_num [maxWaypoints]
    valid := by norm_num [maxOutputValidForS] }
  capturePose := origin
  acceptedAtS := 0

theorem normalizeAngle_zero : normalizeAngle real 0 = 0 := by
  show Complex.arg ⟨Real.cos 0, Real.sin 0⟩ = 0
  rw [Real.cos_zero, Real.sin_zero]
  exact Complex.arg_one

theorem stay_targets : stay.targets = [origin] := by
  simp [Offer.targets, stay, composeRelativePose, Pose2D.make, origin, normalizeAngle_zero]

theorem reached_origin : Reached defaultConfig origin origin := by
  have here : relativePose real origin origin = origin := by
    simp [relativePose, Pose2D.make, origin, normalizeAngle_zero]
  rw [Reached, here]
  norm_num [origin, defaultConfig, real]

theorem sample_stay : history defaultConfig [.replace stay, .sample origin 1] =
    [.sampled origin 1 ⟨stopped _, false, true, 1⟩, .accepted stay] := by
  have valid : ¬stay.validUntilS < 1 := by norm_num [Offer.validUntilS, stay]
  simp [history, runCalls, call, WorldWaypointFollower.replace, WorldWaypointFollower.sample,
    stay_targets, advance, reached_origin, valid, show stay.plan.terminal = true from rfl]

/-- The end of the plan is reported, and its waypoint was passed. -/
theorem fine_always_stay : ∃ p, progress (history defaultConfig [.replace stay, .sample origin 1]) =
    some p ∧ p.offer.plan.terminal = true ∧ p.passes.length = p.offer.targets.length := by
  rw [sample_stay]
  exact (fine_always defaultConfig [.replace stay, .sample origin 1]
    (sample_stay ▸ suffix_rfl)).terminal _ _ _ rfl rfl

end EmbodiRun.Go2.Follower
