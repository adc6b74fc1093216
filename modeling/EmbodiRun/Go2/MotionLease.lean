/-
# Go2.MotionLease -- the control loop of a motion lease

The worker of a lease checks its deadline, the readiness of the robot and, for a stream, the
heartbeat before each Move; updates and a stop come between any two of its steps.  Whatever ends the
loop, a StopMove follows, and its outcome may still change the status that is reported.

* `truthful_always`: **in every run, each Move is guarded, a StopMove follows the last of them,
  and the status is backed by the log**.
-/
import EmbodiRun.Data.Except
import EmbodiRun.Data.Plane
import EmbodiRun.Transition.Machine

namespace EmbodiRun.Go2.MotionLease

set_option linter.unusedSectionVars false

open Data Transition

local instance five : Nat.AtLeastTwo 5 := inferInstance
local instance ten : Nat.AtLeastTwo 10 := inferInstance

variable {K : Type} [Field K] [LinearOrder K] [IsStrictOrderedRing K] [FloorRing K]

/-! ## Admission -/

def maxLinearSpeedMps : K := 35 / 100

def maxYawRateRps : K := 7 / 10

def maxMoveDistanceM : K := 1

def maxTurnAngleRad (math : Math K) : K := math.pi / 2

def maxMotionDurationS : K := 10

def streamHeartbeatTimeoutS : K := 2

inductive Action where
  | move
  | streamMove
  | moveDistance
  | turn
  deriving DecidableEq

structure Velocity (K : Type) where
  vx : K
  vy : K
  yawRate : K

structure Velocity.Bounded (v : Velocity K) : Prop where
  vx : |v.vx| ≤ maxLinearSpeedMps
  vy : |v.vy| ≤ maxLinearSpeedMps
  yawRate : |v.yawRate| ≤ maxYawRateRps

/-- The parameters of a `MotionAdmission`. -/
structure Parameters (K : Type) where
  velocity : Velocity K
  durationS : K
  distanceM : Option K := none
  angleRad : Option K := none

/-- What is read of a payload: its finite numbers, and the `action_id`, where it is a string. -/
structure Payload (K : Type) where
  number : String → Option K
  actionId : Option String := none

/-- An `ApiError` of the admission. -/
inductive Refusal where
  | number (name : String)
  | range (name : String)
  | zero (name : String)
  | actionId

def requireNumber (payload : Payload K) (name : String) : Except Refusal K :=
  match payload.number name with
  | some value => .ok value
  | none => .error (.number name)

def checkRange (name : String) (value minimum maximum : K) : Except Refusal Unit :=
  ensure (minimum ≤ value ∧ value ≤ maximum) (.range name)

def copysign (magnitude sign : K) : K := if 0 ≤ sign then |magnitude| else -|magnitude|

/-- The branch of `admit_motion` for a `move` or a `stream_move`. -/
def admitTimedMove (payload : Payload K) : Except Refusal (Parameters K) := do
  let vx ← requireNumber payload "vx"
  let vy ← requireNumber payload "vy"
  let yawRate ← requireNumber payload "yaw_rate"
  let durationS ← requireNumber payload "duration_s"
  checkRange "vx" vx (-maxLinearSpeedMps) maxLinearSpeedMps
  checkRange "vy" vy (-maxLinearSpeedMps) maxLinearSpeedMps
  checkRange "yaw_rate" yawRate (-maxYawRateRps) maxYawRateRps
  checkRange "duration_s" durationS (5 / 100) maxMotionDurationS
  return { velocity := { vx, vy, yawRate }, durationS }

/-- `admit_motion`, for the actions it admits. -/
def admitMotion (math : Math K) (action : Action) (payload : Payload K) : Except Refusal (Parameters K) :=
  match action with
  | .move | .streamMove => admitTimedMove payload
  | .moveDistance => do
    let distance ← requireNumber payload "distance_m"
    let speed ← (|·|) <$> requireNumber payload "speed_mps"
    ensure (distance ≠ 0) (.zero "distance_m")
    checkRange "distance_m" distance (-maxMoveDistanceM) maxMoveDistanceM
    checkRange "speed_mps" speed (5 / 100) maxLinearSpeedMps
    return {
      velocity := { vx := copysign speed distance, vy := 0, yawRate := 0 }
      durationS := min maxMotionDurationS (|distance| / speed + 2)
      distanceM := some |distance| }
  | .turn => do
    let angle ← requireNumber payload "angle_rad"
    let yawRate ← (|·|) <$> requireNumber payload "yaw_rate_rps"
    ensure (angle ≠ 0) (.zero "angle_rad")
    checkRange "angle_rad" angle (-maxTurnAngleRad math) (maxTurnAngleRad math)
    checkRange "yaw_rate_rps" yawRate (1 / 10) maxYawRateRps
    return {
      velocity := { vx := 0, vy := 0, yawRate := copysign yawRate angle }
      durationS := min maxMotionDurationS (|angle| / yawRate + 2)
      angleRad := some |angle| }

def requireActionId (payload : Payload K) : Except Refusal String :=
  match payload.actionId with
  | some id => if id = "" then .error .actionId else .ok id
  | none => .error .actionId

/-- `admit_motion_update`: the lease it is for, and the velocity. -/
def admitMotionUpdate (payload : Payload K) : Except Refusal (String × Velocity K) := do
  let actionId ← requireActionId payload
  let vx ← requireNumber payload "vx"
  let vy ← requireNumber payload "vy"
  let yawRate ← requireNumber payload "yaw_rate"
  checkRange "vx" vx (-maxLinearSpeedMps) maxLinearSpeedMps
  checkRange "vy" vy (-maxLinearSpeedMps) maxLinearSpeedMps
  checkRange "yaw_rate" yawRate (-maxYawRateRps) maxYawRateRps
  return (actionId, { vx, vy, yawRate })

/-! ## The loop -/

/-- What the loop reads of a `RobotState`. -/
structure Reading (K : Type) where
  x : K
  y : K
  yaw : K

inductive Status where
  | completed
  | failed
  | cancelled
  deriving DecidableEq

inductive Event (K : Type) where
  /-- `stop_event` was not set at the head of the loop. -/
  | iteration
  | deadline (elapsed durationS : K)
  | ready (answer : Except String (Reading K))
  /-- The heartbeat was of an age that has not expired. -/
  | heartbeat (age : K)
  | move (velocity : Velocity K) (outcome : Except String Int)
  | stop (outcome : Except String Int)

inductive Point (K : Type) where
  | begin
  /-- Before the first `require_ready`. -/
  | first
  | head
  | deadline
  | ready
  | heartbeat (current : Reading K)
  | target (current : Reading K)
  | velocity
  /-- Within `command_lock`, before `stop_event` is looked at. -/
  | gate (velocity : Velocity K)
  | move (velocity : Velocity K)
  | wait
  /-- After the loop. -/
  | after
  /-- In the `finally`. -/
  | final
  | done

inductive Answer (K : Type) where
  | none
  | clock (now : K)
  | ready (answer : Except String (Reading K))
  | code (outcome : Except String Int)

structure Lease (K : Type) where
  id : String
  action : Action
  parameters : Parameters K

structure Shared (K : Type) where
  parameters : Parameters K
  heartbeatAt : Option K
  stopRequested : Bool := false

/-- The variables of `run`. -/
structure Run (K : Type) where
  point : Point K := .begin
  status : Status := .completed
  detail : String := "target reached"
  started : K
  startState : Option (Reading K) := none
  previousYaw : K
  accumulatedYaw : K
  travelledDistance : K
  turnDirection : K
  log : List (Event K) := []

structure State (K : Type) where
  shared : Shared K
  run : Run K

/-- `MotionLease.__init__`, at a time of the clock. -/
def Lease.init (lease : Lease K) (now : K) : State K where
  shared := {
    parameters := lease.parameters
    heartbeatAt := if lease.action = .streamMove then some now else none }
  run := {
    started := 0
    previousYaw := 0
    accumulatedYaw := 0
    travelledDistance := 0
    turnDirection := 0 }

def normalizeAngle (math : Math K) (angle : K) : K :=
  let turn := 2 * math.pi
  angle + math.pi - turn * ⌊(angle + math.pi) / turn⌋ - math.pi

/-- `update`, at a time of the clock; one that raises changes nothing. -/
def Shared.update (s : Shared K) (lease : Lease K) (payload : Payload K) (now : K) : Shared K :=
  match admitMotionUpdate payload with
  | .error _ => s
  | .ok (actionId, velocity) =>
    if actionId ≠ lease.id then s
    else if lease.action = .move then
      { s with parameters := { s.parameters with velocity } }
    else if lease.action = .streamMove then
      { s with parameters := { s.parameters with velocity }, heartbeatAt := some now }
    else s

namespace Run

variable (s : Run K)

def leave (status : Status) (detail : String) : Run K := { s with point := .after, status, detail }

def raised (text : String) : Run K :=
  { s with point := .final, status := .failed, detail := text }

def checkTarget (math : Math K) (action : Action) (parameters : Parameters K) (current : Reading K) : Run K :=
  match action with
  | .move | .streamMove => { s with point := .velocity }
  | .moveDistance => match s.startState, parameters.distanceM with
      | none, _ => s.raised ""
      | some _, none => s.raised "'distance_m'"
      | some start, some distanceM =>
        let travelledDistance := math.hypot (current.x - start.x) (current.y - start.y)
        let s := { s with travelledDistance }
        if distanceM ≤ travelledDistance then { s with point := .after }
        else { s with point := .velocity }
  | .turn =>
    let signedDelta := s.turnDirection * normalizeAngle math (current.yaw - s.previousYaw)
    let s := { s with
      accumulatedYaw := max 0 (s.accumulatedYaw + signedDelta)
      previousYaw := current.yaw }
    match parameters.angleRad with
    | none => s.raised "'angle_rad'"
    | some angleRad =>
      if angleRad ≤ s.accumulatedYaw then { s with point := .after }
      else { s with point := .velocity }

/-- The outcome of the StopMove in the `finally`. -/
def finish (outcome : Except String Int) : Run K :=
  let s := { s with point := .done, log := .stop outcome :: s.log }
  match outcome with
  | .error text => { s with status := .failed, detail := s!"stop failed: {text}" }
  | .ok code =>
    if code ≠ 0 ∧ s.status = .completed then
      { s with status := .failed, detail := s!"SDK StopMove returned code {code}" }
    else s

end Run

/-- One step of the worker; `none` where the answer is not to what it asked. -/
def work (math : Math K) (lease : Lease K) (shared : Shared K) (s : Run K) (answer : Answer K) : Option (Run K) :=
  match s.point, answer with
  | .begin, .clock now => some { s with
      point := .first
      started := now
      turnDirection := copysign 1 shared.parameters.velocity.yawRate }
  | .first, .ready answer =>
    let s := { s with log := .ready answer :: s.log }
    some (match answer with
    | .error text => s.raised text
    | .ok current => { s with
        point := .head, startState := some current, previousYaw := current.yaw })
  | .head, .none => some (
      if shared.stopRequested then { s with point := .after }
      else { s with point := .deadline, log := .iteration :: s.log })
  | .deadline, .clock now =>
    let elapsed := now - s.started
    let s := { s with log := .deadline elapsed shared.parameters.durationS :: s.log }
    some ( if shared.parameters.durationS ≤ elapsed then
        if lease.action = .moveDistance ∨ lease.action = .turn then
          s.leave .failed "safety timeout before target"
        else s.leave s.status "duration elapsed"
      else { s with point := .ready })
  | .ready, .ready answer =>
    let s := { s with log := .ready answer :: s.log }
    some (match answer with
    | .error text => s.raised text
    | .ok current =>
      if lease.action = .streamMove then { s with point := .heartbeat current }
      else { s with point := .target current })
  | .heartbeat current, .clock now => some (
      match shared.heartbeatAt with
      | none => s.leave .failed "stream heartbeat expired"
      | some heartbeatAt =>
        if streamHeartbeatTimeoutS < now - heartbeatAt then
          s.leave .failed "stream heartbeat expired"
        else { s with point := .target current, log := .heartbeat (now - heartbeatAt) :: s.log })
  | .target current, .none => some (s.checkTarget math lease.action shared.parameters current)
  | .velocity, .none => some { s with point := .gate shared.parameters.velocity }
  | .gate velocity, .none => some (
      if shared.stopRequested then s.leave .cancelled "stop requested"
      else { s with point := .move velocity })
  | .move velocity, .code outcome =>
    let s := { s with log := .move velocity outcome :: s.log }
    some (match outcome with
    | .error text => s.raised text
    | .ok code =>
      if code ≠ 0 then s.leave .failed s!"SDK Move returned code {code}"
      else { s with point := .wait })
  | .wait, .none => some { s with point := .head }
  | .after, .none =>
    let s := { s with point := .final }
    some (if shared.stopRequested then { s with status := .cancelled, detail := "stop requested" } else s)
  | .final, .code outcome => some (s.finish outcome)
  | _, _ => none

inductive Label (K : Type) where
  /-- Another thread calls `update` with what it has admitted of the payload. -/
  | update (payload : Payload K) (now : K)
  /-- Another thread sets `stop_event`. -/
  | requestStop
  | work (answer : Answer K)

def step (math : Math K) (lease : Lease K) (s : State K) : Label K → Option (State K)
  | .update payload now => some { s with shared := s.shared.update lease payload now }
  | .requestStop => some { s with shared := { s.shared with stopRequested := true } }
  | .work answer => (work math lease s.shared s.run answer).map fun run => { s with run }

/-! ## What the log says -/

def Event.isIteration : Event K → Bool
  | iteration => true
  | _ => false

def sinceIteration (log : List (Event K)) : List (Event K) := log.takeWhile (!·.isIteration)

def Event.Raised : Event K → Prop
  | ready (.error _) | move _ (.error _) | stop (.error _) => True
  | _ => False

def Event.Fails : Event K → Prop
  | ready (.error _) | move _ (.error _) | stop (.error _) => True
  | move _ (.ok code) | stop (.ok code) => code ≠ 0
  | _ => False

theorem Event.Raised.fails {e : Event K} (raised : e.Raised) : e.Fails := by
  cases e with
  | ready answer => cases answer <;> exact raised
  | move velocity outcome | stop outcome => cases outcome <;> first | exact raised | exact raised.elim
  | _ => exact raised.elim

def Timely (log : List (Event K)) : Prop :=
  ∃ elapsed durationS, .deadline elapsed durationS ∈ sinceIteration log ∧ elapsed < durationS ∧
    durationS ≤ maxMotionDurationS

def Ready (log : List (Event K)) : Prop := ∃ current, .ready (.ok current) ∈ sinceIteration log

def Beating (log : List (Event K)) : Prop :=
  ∃ age, .heartbeat age ∈ sinceIteration log ∧ age ≤ streamHeartbeatTimeoutS

structure Checked (lease : Lease K) (log : List (Event K)) : Prop where
  timely : Timely log
  ready : Ready log
  beating : lease.action = .streamMove → Beating log

def Guarded (lease : Lease K) (log : List (Event K)) : Prop :=
  ∀ newer velocity outcome older, log = newer ++ .move velocity outcome :: older →
    velocity.Bounded ∧ Checked lease older

def readings (log : List (Event K)) : List (Reading K) :=
  log.filterMap fun
    | .ready (.ok current) => some current
    | _ => none

def turned (math : Math K) (direction : K) : List (Reading K) → K
  | current :: previous :: older =>
    max 0 (turned math direction (previous :: older) + direction * normalizeAngle math (current.yaw - previous.yaw))
  | _ => 0

def Reached (math : Math K) (lease : Lease K) (log : List (Event K)) : Prop :=
  match lease.action with
  | .move | .streamMove =>
    ∃ elapsed, .deadline elapsed lease.parameters.durationS ∈ log ∧ lease.parameters.durationS ≤ elapsed
  | .moveDistance => ∃ distanceM current older start, lease.parameters.distanceM = some distanceM ∧
      readings log = current :: older ∧ older.getLast? = some start ∧
        distanceM ≤ math.hypot (current.x - start.x) (current.y - start.y)
  | .turn => ∃ angleRad, lease.parameters.angleRad = some angleRad ∧
      angleRad ≤ turned math (copysign 1 lease.parameters.velocity.yawRate) (readings log)

structure Truthful (math : Math K) (lease : Lease K) (s : State K) : Prop where
  guarded : Guarded lease s.run.log
  /-- The worker is never stuck before it has attempted a StopMove, after any Move. -/
  progress : s.run.point ≠ .done → ∃ answer t, work math lease s.shared s.run answer = some t
  stopped : s.run.point = .done → ∃ outcome older, s.run.log = .stop outcome :: older
  completed : s.run.point = .done → s.run.status = .completed →
    (∃ older, s.run.log = .stop (.ok 0) :: older) ∧ Reached math lease s.run.log ∧ ∀ e ∈ s.run.log, ¬e.Fails
  cancelled : s.run.point = .done → s.run.status = .cancelled →
    s.shared.stopRequested = true ∧ ∀ e ∈ s.run.log, ¬e.Raised

/-! ## What admission bounds -/

structure Parameters.Admitted (p : Parameters K) : Prop where
  velocity : p.velocity.Bounded
  duration : p.durationS ≤ maxMotionDurationS

theorem checkRange_ok {name : String} {value minimum maximum : K} {u : Unit}
    (ran : checkRange name value minimum maximum = .ok u) : minimum ≤ value ∧ value ≤ maximum :=
  ensure_ok ran

theorem abs_copysign (magnitude sign : K) : |copysign magnitude sign| = |magnitude| := by
  unfold copysign
  split
  · exact abs_abs _
  · rw [abs_neg, abs_abs]

theorem map_ok {x : Except Refusal K} {f : K → K} {b : K} (ran : f <$> x = .ok b) : ∃ a, x = .ok a ∧ f a = b := by
  cases x with
  | ok a => exact ⟨a, rfl, Except.ok.inj ran⟩
  | error => cases ran

theorem abs_copysign_le {magnitude sign bound x : K} (size : |x| = magnitude)
    (le : magnitude ≤ bound) : |copysign magnitude sign| ≤ bound := by
  rw [abs_copysign, ← size, abs_abs, size]
  exact le

theorem admitted_of_bounds {vx vy yawRate durationS} {distanceM angleRad}
    (x : |vx| ≤ maxLinearSpeedMps) (y : |vy| ≤ maxLinearSpeedMps) (yaw : |yawRate| ≤ maxYawRateRps)
    (duration : durationS ≤ maxMotionDurationS) :
    ({ velocity := { vx, vy, yawRate }, durationS, distanceM, angleRad } : Parameters K).Admitted :=
  ⟨⟨x, y, yaw⟩, duration⟩

theorem zero_speed : |(0 : K)| ≤ maxLinearSpeedMps ∧ |(0 : K)| ≤ maxYawRateRps := by
  rw [abs_zero]
  constructor <;> norm_num [maxLinearSpeedMps, maxYawRateRps]

theorem admitTimedMove_bounded {payload : Payload K} {p : Parameters K}
    (admitted : admitTimedMove payload = .ok p) : p.Admitted := by
  obtain ⟨vx, -, ran⟩ := bind_ok admitted
  obtain ⟨vy, -, ran⟩ := bind_ok ran
  obtain ⟨yawRate, -, ran⟩ := bind_ok ran
  obtain ⟨durationS, -, ran⟩ := bind_ok ran
  obtain ⟨_, x, ran⟩ := bind_ok ran
  obtain ⟨_, y, ran⟩ := bind_ok ran
  obtain ⟨_, yaw, ran⟩ := bind_ok ran
  obtain ⟨_, duration, ran⟩ := bind_ok ran
  cases ran
  exact admitted_of_bounds (abs_le.mpr (checkRange_ok x)) (abs_le.mpr (checkRange_ok y))
    (abs_le.mpr (checkRange_ok yaw)) (checkRange_ok duration).2

theorem admitMotion_bounded {math : Math K} {action : Action} {payload : Payload K}
    {p : Parameters K} (admitted : admitMotion math action payload = .ok p) : p.Admitted := by
  cases action with
  | move | streamMove => exact admitTimedMove_bounded admitted
  | moveDistance =>
    obtain ⟨distance, -, ran⟩ := bind_ok admitted
    obtain ⟨speed, magnitude, ran⟩ := bind_ok ran
    obtain ⟨_, -, ran⟩ := bind_ok ran
    obtain ⟨_, -, ran⟩ := bind_ok ran
    obtain ⟨_, range, ran⟩ := bind_ok ran
    obtain ⟨_, -, size⟩ := map_ok magnitude
    cases ran
    exact admitted_of_bounds (abs_copysign_le size (checkRange_ok range).2) zero_speed.1
      zero_speed.2 (min_le_left _ _)
  | turn =>
    obtain ⟨angle, -, ran⟩ := bind_ok admitted
    obtain ⟨yawRate, magnitude, ran⟩ := bind_ok ran
    obtain ⟨_, -, ran⟩ := bind_ok ran
    obtain ⟨_, -, ran⟩ := bind_ok ran
    obtain ⟨_, range, ran⟩ := bind_ok ran
    obtain ⟨_, -, size⟩ := map_ok magnitude
    cases ran
    exact admitted_of_bounds zero_speed.1 zero_speed.1
      (abs_copysign_le size (checkRange_ok range).2) (min_le_left _ _)

theorem admitMotionUpdate_bounded {payload : Payload K} {id : String} {velocity : Velocity K}
    (admitted : admitMotionUpdate payload = .ok (id, velocity)) : velocity.Bounded := by
  obtain ⟨_, -, ran⟩ := bind_ok admitted
  obtain ⟨vx, -, ran⟩ := bind_ok ran
  obtain ⟨vy, -, ran⟩ := bind_ok ran
  obtain ⟨yawRate, -, ran⟩ := bind_ok ran
  obtain ⟨_, x, ran⟩ := bind_ok ran
  obtain ⟨_, y, ran⟩ := bind_ok ran
  obtain ⟨_, yaw, ran⟩ := bind_ok ran
  cases ran
  exact ⟨abs_le.mpr (checkRange_ok x), abs_le.mpr (checkRange_ok y), abs_le.mpr (checkRange_ok yaw)⟩

/-! ## What holds at each point -/

section

variable (math : Math K) (lease : Lease K)

structure Measured (s : Run K) (rs : List (Reading K)) : Prop where
  start : ∃ start, rs.getLast? = some start ∧ s.startState = some start
  turn : lease.action = .turn → s.turnDirection = copysign 1 lease.parameters.velocity.yawRate ∧
      (∃ latest, rs.head? = some latest ∧ s.previousYaw = latest.yaw) ∧
        s.accumulatedYaw = turned math s.turnDirection rs

structure Running (s : Run K) (rs : List (Reading K)) : Prop where
  status : s.status = .completed
  clean : ∀ e ∈ s.log, ¬e.Fails
  measured : Measured math lease s rs

def At (stopRequested : Bool) (s : Run K) : Prop :=
  match s.point with
  | .begin => s.log = [] ∧ s.status = .completed ∧ s.accumulatedYaw = 0
  | .first => s.log = [] ∧ s.status = .completed ∧
      (lease.action = .turn → s.turnDirection = copysign 1 lease.parameters.velocity.yawRate) ∧ s.accumulatedYaw = 0
  | .head | .deadline | .wait => Running math lease s (readings s.log)
  | .ready => Running math lease s (readings s.log) ∧ Timely s.log
  | .heartbeat current => ∃ rs, readings s.log = current :: rs ∧ Running math lease s rs ∧
      Timely s.log ∧ Ready s.log
  | .target current => ∃ rs, readings s.log = current :: rs ∧ Running math lease s rs ∧
      Checked lease s.log
  | .velocity => Running math lease s (readings s.log) ∧ Checked lease s.log
  | .gate velocity | .move velocity =>
    Running math lease s (readings s.log) ∧ Checked lease s.log ∧ velocity.Bounded
  | .after => (s.status = .completed →
        (∀ e ∈ s.log, ¬e.Fails) ∧ (Reached math lease s.log ∨ stopRequested = true)) ∧
      (s.status = .cancelled → stopRequested = true) ∧ ∀ e ∈ s.log, ¬e.Raised
  | .final => (s.status = .completed → (∀ e ∈ s.log, ¬e.Fails) ∧ Reached math lease s.log) ∧
      (s.status = .cancelled → stopRequested = true ∧ ∀ e ∈ s.log, ¬e.Raised)
  | .done => (∃ outcome older, s.log = .stop outcome :: older) ∧
      (s.status = .completed → (∃ older, s.log = .stop (.ok 0) :: older) ∧
        Reached math lease s.log ∧ ∀ e ∈ s.log, ¬e.Fails) ∧
      (s.status = .cancelled → stopRequested = true ∧ ∀ e ∈ s.log, ¬e.Raised)

structure Inv (s : State K) : Prop where
  duration : s.shared.parameters.durationS = lease.parameters.durationS
  distance : s.shared.parameters.distanceM = lease.parameters.distanceM
  angle : s.shared.parameters.angleRad = lease.parameters.angleRad
  /-- A turn is not updated. -/
  turn : lease.action = .turn → s.shared.parameters.velocity = lease.parameters.velocity
  bounded : s.shared.parameters.velocity.Bounded
  guarded : Guarded lease s.run.log
  at_ : At math lease s.shared.stopRequested s.run

end

variable {math : Math K} {lease : Lease K}

theorem init_inv (admitted : lease.parameters.Admitted) (now : K) : Inv math lease (lease.init now) where
  duration := rfl
  distance := rfl
  angle := rfl
  turn _ := rfl
  bounded := admitted.velocity
  guarded newer velocity outcome older split := by cases newer <;> cases split
  at_ := ⟨rfl, rfl, rfl⟩

/-! ## What other threads do -/

variable {s t : State K}

theorem update_inv (inv : Inv math lease s) (payload : Payload K) (now : K) :
    Inv math lease { s with shared := s.shared.update lease payload now } := by
  unfold Shared.update
  split
  case h_1 => exact inv
  case h_2 actionId velocity admitted =>
      have bounded := admitMotionUpdate_bounded admitted
      have here := inv.at_
      split_ifs with other move stream
      · exact inv
      · exact ⟨inv.duration, inv.distance, inv.angle, fun turn => (nomatch move.symm.trans turn),
          bounded, inv.guarded, here⟩
      · exact ⟨inv.duration, inv.distance, inv.angle, fun turn => (nomatch stream.symm.trans turn),
          bounded, inv.guarded, here⟩
      · exact inv

theorem At.requestStop {stopRequested : Bool} {s : Run K} (here : At math lease stopRequested s) :
    At math lease true s := by
  unfold At at here ⊢
  split at here
  case h_12 =>
      exact ⟨fun completed => ⟨(here.1 completed).1, .inr rfl⟩, fun _ => rfl, here.2.2⟩
  case h_13 => exact ⟨here.1, fun cancelled => ⟨rfl, (here.2 cancelled).2⟩⟩
  case h_14 => exact ⟨here.1, here.2.1, fun cancelled => ⟨rfl, (here.2.2 cancelled).2⟩⟩
  all_goals exact here

/-! ## What the worker does -/

section

variable {log : List (Event K)} {e : Event K}

theorem Guarded.cons (guarded : Guarded lease log) (other : ∀ velocity outcome, e ≠ .move velocity outcome) :
    Guarded lease (e :: log) := by
  intro newer velocity outcome older split
  cases newer with
  | nil => exact (other _ _ (List.cons.inj split).1).elim
  | cons first newer => exact guarded newer velocity outcome older (List.cons.inj split).2

theorem Guarded.move {velocity : Velocity K} {outcome : Except String Int}
    (guarded : Guarded lease log) (bounded : velocity.Bounded) (checked : Checked lease log) :
    Guarded lease (.move velocity outcome :: log) := by
  intro newer velocity' outcome' older split
  cases newer with
  | nil =>
    cases split
    exact ⟨bounded, checked⟩
  | cons first newer => exact guarded newer velocity' outcome' older (List.cons.inj split).2

theorem sinceIteration_cons (same : e.isIteration = false) : sinceIteration (e :: log) = e :: sinceIteration log :=
  List.takeWhile_cons_of_pos (by rw [same]; rfl)

theorem Timely.cons (timely : Timely log) (same : e.isIteration = false) : Timely (e :: log) := by
  obtain ⟨elapsed, durationS, mem, bounds⟩ := timely
  exact ⟨elapsed, durationS, sinceIteration_cons same ▸ .tail _ mem, bounds⟩

theorem Ready.cons (ready : Ready log) (same : e.isIteration = false) : Ready (e :: log) := by
  obtain ⟨current, mem⟩ := ready
  exact ⟨current, sinceIteration_cons same ▸ .tail _ mem⟩

theorem not_raised (clean : ∀ e ∈ log, ¬e.Fails) : ∀ e ∈ log, ¬e.Raised :=
  fun e mem raised => clean e mem raised.fails

theorem Reached.cons (reached : Reached math lease log) (other : ∀ answer, e ≠ .ready answer) :
    Reached math lease (e :: log) := by
  have same : readings (e :: log) = readings log := by
    cases e with
    | ready answer => exact (other answer rfl).elim
    | _ => rfl
  unfold Reached at reached ⊢
  rw [same]
  split at reached
  case h_1 =>
      obtain ⟨elapsed, mem, over_⟩ := reached
      exact ⟨elapsed, .tail _ mem, over_⟩
  case h_2 =>
      obtain ⟨elapsed, mem, over_⟩ := reached
      exact ⟨elapsed, .tail _ mem, over_⟩
  case h_3 => exact reached
  case h_4 => exact reached

end

variable {stopRequested : Bool} {r r' : Run K}

theorem at_raised (text : String) : At math lease stopRequested (r.raised text) := ⟨nofun, nofun⟩

theorem at_leave_failed {detail : String} (clean : ∀ e ∈ r.log, ¬e.Raised) :
    At math lease stopRequested (r.leave .failed detail) := ⟨nofun, nofun, clean⟩

theorem Running.log {rs : List (Reading K)} {e : Event K} {point : Point K}
    (running : Running math lease r rs) (clean : ¬e.Fails) :
    Running math lease { r with point, log := e :: r.log } rs :=
  ⟨running.status, List.forall_mem_cons.mpr ⟨clean, running.clean⟩, running.measured.start, running.measured.turn⟩

theorem Running.goto {rs : List (Reading K)} {point : Point K} (running : Running math lease r rs) :
    Running math lease { r with point } rs :=
  ⟨running.status, running.clean, running.measured.start, running.measured.turn⟩

theorem reached_timed {log : List (Event K)} {elapsed : K} (timed : ¬(lease.action = .moveDistance ∨
    lease.action = .turn)) (mem : .deadline elapsed lease.parameters.durationS ∈ log)
    (late : lease.parameters.durationS ≤ elapsed) : Reached math lease log := by
  unfold Reached
  split
  case h_1 => exact ⟨elapsed, mem, late⟩
  case h_2 => exact ⟨elapsed, mem, late⟩
  case h_3 action => exact (timed (.inl action)).elim
  case h_4 action => exact (timed (.inr action)).elim

theorem getLast?_cons_of_some {rs : List (Reading K)} {current start : Reading K}
    (first : rs.getLast? = some start) : (current :: rs).getLast? = some start := by
  rw [List.getLast?_cons, first]
  rfl

theorem turned_cons {direction yaw : K} {current latest : Reading K} {rs : List (Reading K)}
    (head : rs.head? = some latest) (previous : yaw = latest.yaw) :
    turned math direction (current :: rs) = max 0 (turned math direction rs +
      direction * normalizeAngle math (current.yaw - yaw)) := by
  cases rs with
  | nil => cases head
  | cons =>
    cases head
    rw [previous]
    rfl

theorem checkTarget_log (action : Action) (parameters : Parameters K) (current : Reading K) :
    (r.checkTarget math action parameters current).log = r.log := by
  unfold Run.checkTarget
  split
  · rfl
  · rfl
  · split
    · rfl
    · rfl
    · simp only
      split <;> rfl
  · simp only
    split
    · rfl
    · split <;> rfl

theorem finish_log (outcome : Except String Int) : (r.finish outcome).log = .stop outcome :: r.log := by
  unfold Run.finish
  cases outcome with
  | error => rfl
  | ok =>
    simp only
    split <;> rfl

theorem target_at (inv : Inv math lease s) {current : Reading K} {rs : List (Reading K)}
    (read : readings s.run.log = current :: rs) (running : Running math lease s.run rs)
    (checked : Checked lease s.run.log) :
    At math lease s.shared.stopRequested (s.run.checkTarget math lease.action s.shared.parameters current) := by
  obtain ⟨start, first, started⟩ := running.measured.start
  have last : (current :: rs).getLast? = some start := getLast?_cons_of_some first
  unfold Run.checkTarget
  split
  case h_1 action =>
      refine ⟨?_, checked⟩
      rw [read]
      exact ⟨running.status, running.clean, ⟨start, last, started⟩, fun turn => (nomatch action.symm.trans turn)⟩
  case h_2 action =>
      refine ⟨?_, checked⟩
      rw [read]
      exact ⟨running.status, running.clean, ⟨start, last, started⟩, fun turn => (nomatch action.symm.trans turn)⟩
  case h_3 action =>
      rw [started]
      cases distance : s.shared.parameters.distanceM with
      | none => exact at_raised _
      | some distanceM =>
        simp only
        split
        case isTrue arrived =>
            refine ⟨fun _ => ⟨running.clean, .inl ?_⟩, fun cancelled => (nomatch running.status.symm.trans cancelled),
              not_raised running.clean⟩
            unfold Reached
            rw [action]
            exact ⟨distanceM, current, rs, start, inv.distance ▸ distance, read, first, arrived⟩
        case isFalse =>
            refine ⟨?_, checked⟩
            rw [read]
            exact ⟨running.status, running.clean, ⟨start, last, rfl⟩, fun turn => (nomatch action.symm.trans turn)⟩
  case h_4 action =>
      obtain ⟨direction, ⟨latest, head, previous⟩, accumulated⟩ := running.measured.turn action
      have further := @turned_cons _ _ _ _ _ math s.run.turnDirection _ current _ _ head previous
      rw [← accumulated] at further
      simp only
      split
      case h_1 => exact at_raised _
      case h_2 angleRad angle =>
          split
          case isTrue arrived =>
              refine ⟨fun _ => ⟨running.clean, .inl ?_⟩,
                fun cancelled => (nomatch running.status.symm.trans cancelled),
                not_raised running.clean⟩
              unfold Reached
              rw [action]
              refine ⟨angleRad, inv.angle ▸ angle, ?_⟩
              rw [read, ← direction, further]
              exact arrived
          case isFalse =>
              refine ⟨?_, checked⟩
              rw [read]
              exact ⟨running.status, running.clean, ⟨start, last, started⟩,
                fun _ => ⟨direction, ⟨current, rfl, rfl⟩, further.symm⟩⟩

theorem finish_at (outcome : Except String Int) (completed : r.status = .completed →
      (∀ e ∈ r.log, ¬e.Fails) ∧ Reached math lease r.log)
    (cancelled : r.status = .cancelled → stopRequested = true ∧ ∀ e ∈ r.log, ¬e.Raised) :
    At math lease stopRequested (r.finish outcome) := by
  cases outcome with
  | error => exact ⟨⟨_, _, rfl⟩, nofun, nofun⟩
  | ok code =>
    unfold Run.finish
    simp only
    split
    case isTrue => exact ⟨⟨_, _, rfl⟩, nofun, nofun⟩
    case isFalse fine =>
        refine ⟨⟨_, _, rfl⟩, fun status => ?_, fun status => ⟨(cancelled status).1,
          List.forall_mem_cons.mpr ⟨id, (cancelled status).2⟩⟩⟩
        have zero : code = 0 := not_not.mp fun nonzero => fine ⟨nonzero, status⟩
        obtain ⟨clean, reached⟩ := completed status
        exact ⟨⟨r.log, by rw [zero]⟩, reached.cons nofun,
          List.forall_mem_cons.mpr ⟨fun nonzero => nonzero zero, clean⟩⟩

theorem work_at (admitted : lease.parameters.Admitted) (inv : Inv math lease s) {answer}
    (ran : work math lease s.shared s.run answer = some r') :
    At math lease s.shared.stopRequested r' ∧ Guarded lease r'.log := by
  have here := inv.at_
  have guarded := inv.guarded
  unfold work at ran
  split at ran
  case h_1 now point =>
      simp only [At, point] at here
      cases ran
      refine ⟨⟨here.1, here.2.1, fun turn => ?_, here.2.2⟩, guarded⟩
      rw [inv.turn turn]
  case h_2 answer point =>
      simp only [At, point] at here
      obtain ⟨empty, status, turning, zero⟩ := here
      cases ran
      cases answer with
      | error text => exact ⟨at_raised text, guarded.cons nofun⟩
      | ok current =>
        refine ⟨⟨status, ?_, ⟨⟨current, ?_, rfl⟩, fun turn => ⟨turning turn, ⟨current, ?_, rfl⟩, ?_⟩⟩⟩,
          guarded.cons nofun⟩
        · simp [empty, Event.Fails]
        · simp [empty, readings]
        · simp [empty, readings]
        · simp [empty, readings, turned, zero]
  case h_3 point =>
      simp only [At, point] at here
      cases ran
      split
      case isTrue stop =>
          exact ⟨⟨fun _ => ⟨here.clean, .inr stop⟩, fun _ => stop, not_raised here.clean⟩, guarded⟩
      case isFalse => exact ⟨here.log id, guarded.cons nofun⟩
  case h_4 now point =>
      simp only [At, point] at here
      cases ran
      have clean := List.forall_mem_cons.mpr ⟨(id : ¬(Event.deadline (now - s.run.started)
        s.shared.parameters.durationS).Fails), here.clean⟩
      constructor
      · split_ifs with late kind
        · exact at_leave_failed (not_raised clean)
        · refine ⟨fun _ => ⟨clean, .inl (reached_timed kind ?_ (inv.duration ▸ late))⟩,
            fun cancelled => (nomatch here.status.symm.trans cancelled), not_raised clean⟩
          rw [← inv.duration]
          exact .head _
        · exact ⟨here.log id, _, _, .head _, not_le.mp late, inv.duration ▸ admitted.duration⟩
      · split_ifs <;> exact guarded.cons nofun
  case h_5 answer point =>
      simp only [At, point] at here
      cases ran
      cases answer with
      | error text => exact ⟨at_raised text, guarded.cons nofun⟩
      | ok current =>
        obtain ⟨running, timely⟩ := here
        simp only
        split
        case isTrue =>
            exact ⟨⟨_, rfl, running.log id, timely.cons rfl, current, .head _⟩, guarded.cons nofun⟩
        case isFalse other =>
            exact ⟨⟨_, rfl, running.log id, timely.cons rfl, ⟨current, .head _⟩,
              fun stream => (other stream).elim⟩, guarded.cons nofun⟩
  case h_6 current now point =>
      simp only [At, point] at here
      obtain ⟨rs, read, running, timely, ready⟩ := here
      cases ran
      split
      case h_1 => exact ⟨at_leave_failed (not_raised running.clean), guarded⟩
      case h_2 heartbeatAt _ =>
          split
          case isTrue => exact ⟨at_leave_failed (not_raised running.clean), guarded⟩
          case isFalse fresh =>
              exact ⟨⟨rs, read, running.log id, timely.cons rfl, ready.cons rfl,
                fun _ => ⟨_, .head _, not_lt.mp fresh⟩⟩, guarded.cons nofun⟩
  case h_7 current point =>
      simp only [At, point] at here
      obtain ⟨rs, read, running, checked⟩ := here
      cases ran
      refine ⟨target_at inv read running checked, ?_⟩
      rw [checkTarget_log]
      exact guarded
  case h_8 point =>
      simp only [At, point] at here
      cases ran
      exact ⟨⟨here.1.goto, here.2, inv.bounded⟩, guarded⟩
  case h_9 velocity point =>
      simp only [At, point] at here
      cases ran
      split
      case isTrue stop =>
          exact ⟨⟨nofun, fun _ => stop, not_raised here.1.clean⟩, guarded⟩
      case isFalse => exact ⟨⟨here.1.goto, here.2⟩, guarded⟩
  case h_10 velocity outcome point =>
      simp only [At, point] at here
      obtain ⟨running, checked, bounded⟩ := here
      cases ran
      cases outcome with
      | error text => exact ⟨at_raised text, guarded.move bounded checked⟩
      | ok =>
        simp only
        split
        case isTrue =>
            exact ⟨at_leave_failed (List.forall_mem_cons.mpr ⟨id, not_raised running.clean⟩),
              guarded.move bounded checked⟩
        case isFalse zero => exact ⟨running.log zero, guarded.move bounded checked⟩
  case h_11 point =>
      simp only [At, point] at here
      cases ran
      exact ⟨here.goto, guarded⟩
  case h_12 point =>
      simp only [At, point] at here
      obtain ⟨completed, cancelled, quiet⟩ := here
      cases ran
      split
      case isTrue stop => exact ⟨⟨nofun, fun _ => ⟨stop, quiet⟩⟩, guarded⟩
      case isFalse go =>
          exact ⟨⟨fun status => ⟨(completed status).1, (completed status).2.resolve_right go⟩,
            fun status => (go (cancelled status)).elim⟩, guarded⟩
  case h_13 outcome point =>
      simp only [At, point] at here
      cases ran
      refine ⟨finish_at outcome here.1 here.2, ?_⟩
      rw [finish_log]
      exact guarded.cons nofun
  case h_14 => cases ran

/-! ## Runs -/

theorem step_inv (admitted : lease.parameters.Admitted) (inv : Inv math lease s) {label : Label K}
    {t : State K} (next : step math lease s label = some t) : Inv math lease t := by
  cases label with
  | update payload now =>
    cases next
    exact update_inv inv payload now
  | requestStop =>
    cases next
    exact { inv with at_ := inv.at_.requestStop }
  | work =>
    obtain ⟨r, ran, rfl⟩ := Option.map_eq_some_iff.mp next
    obtain ⟨at_, guarded⟩ := work_at admitted inv ran
    exact { inv with at_, guarded }

theorem work_progress (shared : Shared K) (r : Run K) (unfinished : r.point ≠ .done) :
    ∃ answer t, work math lease shared r answer = some t := by
  unfold work
  cases point : r.point with
  | begin | deadline | heartbeat => exact ⟨.clock 0, _, rfl⟩
  | first | ready => exact ⟨.ready (.error ""), _, rfl⟩
  | head | target | velocity | gate | wait | after => exact ⟨.none, _, rfl⟩
  | move | final => exact ⟨.code (.error ""), _, rfl⟩
  | done => exact (unfinished point).elim

theorem Inv.truthful (inv : Inv math lease s) : Truthful math lease s := by
  have here := inv.at_
  refine ⟨inv.guarded, work_progress _ _, ?_, ?_, ?_⟩ <;> intro done <;> simp only [At, done] at here
  · exact here.1
  · exact here.2.1
  · exact here.2.2

/-- In every run of an admitted lease each Move is within the bounds and checked before, a StopMove
follows the last one, and completion and cancellation are reported truly. -/
theorem truthful_always (math : Math K) (lease : Lease K) {payload : Payload K}
    (admitted : admitMotion math lease.action payload = .ok lease.parameters) (now : K)
    {labels : List (Label K)} {s : State K} (ran : run (step math lease) (lease.init now) labels = some s) :
    Truthful math lease s :=
  (run_invariant (fun _ _ _ inv next => step_inv (admitMotion_bounded admitted) inv next)
    (init_inv (admitMotion_bounded admitted) now) ran).truthful

noncomputable def forwardPayload : Payload ℝ where
  number name := if name = "vx" then some 0.2 else if name = "duration_s" then some 1 else some 0

noncomputable def forward : Lease ℝ where
  id := "lease"
  action := .move
  parameters := { velocity := { vx := 0.2, vy := 0, yawRate := 0 }, durationS := 1 }

theorem forward_admitted : admitMotion Math.real .move forwardPayload = .ok forward.parameters := by
  have vx : requireNumber forwardPayload "vx" = .ok 0.2 := rfl
  have vy : requireNumber forwardPayload "vy" = .ok 0 := rfl
  have yawRate : requireNumber forwardPayload "yaw_rate" = .ok 0 := rfl
  have duration : requireNumber forwardPayload "duration_s" = .ok 1 := rfl
  have x : checkRange "vx" (0.2 : ℝ) (-maxLinearSpeedMps) maxLinearSpeedMps = .ok () :=
    ensure_of (by norm_num [maxLinearSpeedMps])
  have y : checkRange "vy" (0 : ℝ) (-maxLinearSpeedMps) maxLinearSpeedMps = .ok () :=
    ensure_of (by norm_num [maxLinearSpeedMps])
  have yaw : checkRange "yaw_rate" (0 : ℝ) (-maxYawRateRps) maxYawRateRps = .ok () :=
    ensure_of (by norm_num [maxYawRateRps])
  have time : checkRange "duration_s" (1 : ℝ) (5 / 100) maxMotionDurationS = .ok () :=
    ensure_of (by norm_num [maxMotionDurationS])
  simp only [admitMotion, admitTimedMove, vx, vy, yawRate, duration, bind, Except.bind, x, y, yaw, time]
  rfl

def still : Reading ℝ := ⟨0, 0, 0⟩

def firstMove : List (Label ℝ) :=
  [.work (.clock 0), .work (.ready (.ok still)), .work .none, .work (.clock 0),
    .work (.ready (.ok still)), .work .none, .work .none, .work .none]

/-- Where `firstMove` comes to. -/
noncomputable def moving : State ℝ where
  shared := (forward.init 0).shared
  run := {
    point := .move forward.parameters.velocity
    started := 0
    startState := some still
    previousYaw := 0
    accumulatedYaw := 0
    travelledDistance := 0
    turnDirection := copysign 1 0
    log := [.ready (.ok still), .deadline (0 - 0) 1, .iteration, .ready (.ok still)] }

theorem firstMove_run : run (step Math.real forward) (forward.init 0) firstMove = some moving := by
  have early : ¬(1 : ℝ) ≤ 0 - 0 := by norm_num
  simp only [run, firstMove, step, work, Lease.init, forward, Run.checkTarget, Option.map_some,
    Option.bind_some, early, if_false, reduceCtorEq, Bool.false_eq_true]
  rfl

def elapses : List (Label ℝ) :=
  [.work (.code (.ok 0)), .work .none, .work .none, .work (.clock 1), .work .none, .work (.code (.ok 0))]

theorem elapses_run : ∃ s, run (step Math.real forward) moving elapses = some s ∧ s.run.status = .completed := by
  have late : (1 : ℝ) ≤ 1 - 0 := by norm_num
  simp only [run, elapses, step, work, moving, Lease.init, forward, Run.leave, Run.finish,
    Option.map_some, Option.bind_some, late, if_true, if_false, reduceCtorEq, Bool.false_eq_true,
    or_self, ne_eq, not_true_eq_false, false_and]
  exact ⟨_, rfl, rfl⟩

theorem truthful_always_forward : ∃ s, run (step Math.real forward) (forward.init 0) (firstMove ++ elapses) = some s ∧
      s.run.status = .completed ∧ Truthful Math.real forward s := by
  obtain ⟨s, rest, completed⟩ := elapses_run
  have ran := run_append.mpr ⟨moving, firstMove_run, rest⟩
  exact ⟨s, ran, completed, truthful_always Math.real forward forward_admitted 0 ran⟩

/-- The Move fails, a stop is requested before that is reported, and the StopMove fails as well. -/
def bothFail : List (Label ℝ) :=
  [.work (.code (.ok 1)), .requestStop, .work .none, .work (.code (.ok 1))]

theorem bothFail_run : ∃ s, run (step Math.real forward) moving bothFail = some s ∧
    s.run.point = .done ∧ s.run.status = .cancelled ∧
      .move forward.parameters.velocity (.ok 1) ∈ s.run.log ∧ .stop (.ok 1) ∈ s.run.log := by
  simp only [run, bothFail, step, work, moving, Lease.init, forward, Run.leave, Run.finish,
    Option.map_some, Option.bind_some, if_true, if_false, reduceCtorEq, ne_eq, one_ne_zero,
    not_false_eq_true, and_false]
  exact ⟨_, rfl, rfl, rfl, .tail _ (.head _), .head _⟩

/-- The lease is reported cancelled though a Move and the StopMove returned 1. -/
theorem cancelled_after_failures : admitMotion Math.real .move forwardPayload = .ok forward.parameters ∧
    ∃ s, run (step Math.real forward) (forward.init 0) (firstMove ++ bothFail) = some s ∧
      s.run.point = .done ∧ s.run.status = .cancelled ∧
        .move forward.parameters.velocity (.ok 1) ∈ s.run.log ∧ .stop (.ok 1) ∈ s.run.log := by
  obtain ⟨s, rest, ended⟩ := bothFail_run
  exact ⟨forward_admitted, s, run_append.mpr ⟨moving, firstMove_run, rest⟩, ended⟩

end EmbodiRun.Go2.MotionLease
