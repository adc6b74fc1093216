/-
# Xlerobot.Commands -- the commands of the motors, and the goals that they are given

A command is checked whole, bounded by the time since the last one, and written motor by motor.  Where
a write raises, every motor is held where it is; a stop and the arming of a scope hold them too.

* `command`, `arm`, `stopLocked`, `restore`, `step`: the operations, with the goals that they write;
* `command_meets_iff`: **a command is rejected without a trace, accepted as it reports, or ends with no
  scope active, exactly if no number of it overflows**.
-/
import EmbodiRun.Transition.Machine
import EmbodiRun.Xlerobot.Hardware

namespace EmbodiRun.Xlerobot.Commands

open Transition List
open Hardware (Motor Side Scope Selection Reply armNames)

/-- A saved calibration. -/
structure Calibration where
  driveMode : Bool
  rangeMin : Int
  rangeMax : Int
  low : 0 ≤ rangeMin
  ordered : rangeMin < rangeMax
  high : rangeMax ≤ 4095

def Calibration.Holds (c : Calibration) (raw : Int) : Prop := c.rangeMin ≤ raw ∧ raw ≤ c.rangeMax

instance (c : Calibration) (raw : Int) : Decidable (c.Holds raw) := inferInstanceAs (Decidable (_ ∧ _))

def Calibration.clamp (c : Calibration) (raw : Int) : Int := max c.rangeMin (min c.rangeMax raw)

/-- The configuration; `pi` is `math.pi`. -/
structure Settings extends Hardware.Config where
  calibration : Motor → Option Calibration
  /-- `_base_directions`: whether the left and the right wheel turn the other way. -/
  directions : Option (Bool × Bool)
  tolerance : Int
  maxJointSpeed : ℚ
  maxGripperSpeed : ℚ
  maxHeadSpeed : ℚ
  maxLinear : ℚ
  maxAngular : ℚ
  wheelbase : ℚ
  wheelRadius : ℚ
  pi : ℚ
  jointPositive : 0 < maxJointSpeed
  gripperPositive : 0 < maxGripperSpeed
  headPositive : 0 < maxHeadSpeed
  linearPositive : 0 < maxLinear
  angularPositive : 0 < maxAngular
  enabled : enabledArms.Sublist [.left, .right]
  headWithBase : enableHeadTilt → enableBase

def isGripper : Motor → Bool
  | .joint _ index => index = 5
  | _ => false

def Settings.speed (settings : Settings) (m : Motor) : ℚ :=
  if m = .headTilt then settings.maxHeadSpeed
  else if isGripper m then settings.maxGripperSpeed
  else settings.maxJointSpeed

/-- A value of an action, as `_finite` finds it. -/
inductive Number where
  | value (q : ℚ)
  /-- A `TypeError` or a `ValueError`. -/
  | invalid
  /-- `float` raises an `OverflowError`. -/
  | tooLarge

inductive Problem where
  | closed
  | notArmed
  | noMapping
  | unknownKeys
  | armNotEnabled (side : Side)
  | armIncomplete (side : Side)
  | scopeNotArmed
  | baseDisabled
  | basePartial
  | noDirections
  | notFinite
  | uncalibrated (m : Motor)
  | gripperRange (m : Motor)
  | targetRange (m : Motor) (raw : Int)
  | unreadable (m : Motor)
  | feedbackRange (m : Motor)
  deriving DecidableEq

/-- What a check raises: it is reported, or it is an `OverflowError` that nobody catches. -/
inductive Raised where
  | problem (p : Problem)
  | overflow

/-! ## Numbers -/

/-- The least magnitude that is no finite float. -/
def floatLimit : ℚ := 2 ^ 1024 - 2 ^ 970

/-- `int`, of a float. -/
def truncate (q : ℚ) : Int := q.num.tdiv q.den

/-- `round`, of a float: half goes to the even number. -/
def roundEven (q : ℚ) : Int :=
  if q - ⌊q⌋ < 1 / 2 then ⌊q⌋
  else if 1 / 2 < q - ⌊q⌋ then ⌊q⌋ + 1
  else if ⌊q⌋ % 2 = 0 then ⌊q⌋ else ⌊q⌋ + 1

def finite : Number → Except Raised ℚ
  | .value q => .ok q
  | .invalid => .error (.problem .notFinite)
  | .tooLarge => .error .overflow

section

variable (settings : Settings)

/-- `_action_to_raw`. -/
def actionToRaw (m : Motor) (value : Number) : Except Raised Int := do
  let numeric ← finite value
  match settings.calibration m with
  | none => .error (.problem (.uncalibrated m))
  | some c =>
    if isGripper m then
      if 0 ≤ numeric ∧ numeric ≤ 100 then
        let normalised := if c.driveMode then 100 - numeric else numeric
        inRange c (truncate (normalised / 100 * (c.rangeMax - c.rangeMin) + c.rangeMin))
      else .error (.problem (.gripperRange m))
    else if floatLimit ≤ |numeric * 4095| then .error .overflow
    else inRange c (truncate (numeric * 4095 / 360 + (c.rangeMin + c.rangeMax) / 2))
where
  inRange (c : Calibration) (raw : Int) : Except Raised Int :=
    if 0 ≤ raw ∧ raw ≤ 4095 ∧ c.Holds raw then .ok raw else .error (.problem (.targetRange m raw))

/-- `_raw_to_joint_value`. -/
def rawToJointValue (m : Motor) (c : Calibration) (raw : Int) : ℚ :=
  if isGripper m then
    let value := (raw - c.rangeMin : ℚ) * 100 / (c.rangeMax - c.rangeMin)
    if c.driveMode then 100 - value else value
  else (raw - (c.rangeMin + c.rangeMax) / 2 : ℚ) * 360 / 4095

/-- Every check in turn: the problems, and what the others gave. -/
def collect {β : Type} (check : Motor → Except Raised β) :
    List Motor → Except Unit (List Problem × List (Motor × β))
  | [] => .ok ([], [])
  | m :: rest =>
    match check m with
    | .error .overflow => .error ()
    | .error (.problem p) => (collect check rest).map fun r => (p :: r.1, r.2)
    | .ok b => (collect check rest).map fun r => (r.1, (m, b) :: r.2)

end

/-! ## The robot -/

inductive Goal where
  | position (raw : Int)
  | velocity (raw : Int)
  deriving DecidableEq

/-- A register write; `accepted` if it did not raise. -/
structure Write where
  motor : Motor
  goal : Goal
  accepted : Bool := true
  deriving DecidableEq

/-- A robot that is connected. -/
structure Robot where
  closed : Bool := false
  armed : Bool := false
  activeScopes : Scope → Bool := fun _ => false
  ownedTorqueNames : Motor → Bool := fun _ => false
  heldRaw : Motor → Option Int := fun _ => none
  lastGripperGoalRaw : Motor → Option Int := fun _ => none
  lastCommandTargets : Motor → Option ℚ := fun _ => none
  lastTargetMono : ℚ := 0
  lastHeadTargetMono : ℚ := 0
  lastCommandMono : ℚ := 0
  scopeCommandMono : Scope → Option ℚ := fun _ => none
  /-- The time of the last operation. -/
  now : ℚ := 0
  /-- The goals that were written, newest first. -/
  writes : List Write := []
  /-- Of the armed period: the times and the targets that a motor was given, newest first. -/
  given : Motor → List (ℚ × ℚ) := fun _ => []

/-- What an operation finds outside the robot. -/
structure Env where
  now : ℚ
  /-- The read of `Present_Position`, and the one of a rollback. -/
  present : Motor → Reply
  rollback : Motor → Reply
  bus : Side → Bool
  /-- The number of the write of a command that raises, if it has so many. -/
  failsAt : Nat
  /-- The other writes that are accepted. -/
  writable : Motor → Bool
  /-- What an arming is refused for: all but its scopes and its calibrations. -/
  refuses : Bool
  /-- The positions that the checks of an arming read. -/
  positions : Motor → Int
  /-- The goals, and then the torques, that an arming comes to before it raises. -/
  armRaises : Option Nat
  /-- Whether the stop is confirmed; `none` where an `OverflowError` ends its samples. -/
  confirmed : Option Bool

/-- The motors side by side, from the side of the first. -/
def bySide : List Motor → List Motor
  | [] => []
  | first :: rest =>
    (first :: rest).filter (·.side = first.side) ++ (first :: rest).filter (·.side ≠ first.side)

section

variable (settings : Settings) (env : Env) (s : Robot)

def write (m : Motor) (goal : Goal) (accepted : Bool) : Robot :=
  { s with writes := ⟨m, goal, accepted⟩ :: s.writes }

/-- The position that a rollback holds; `none` for a problem. -/
def rollbackHold (fallback : Motor → Option Int) (m : Motor) : Option Int :=
  (match env.rollback m with
  | .value n => some n
  | .raised => fallback m
  | .notNumber | .tooLarge => none).map fun hold =>
    if isGripper m then (s.lastGripperGoalRaw m).getD hold else hold

/-- `_best_effort_hold_locked`; the Boolean is that an `OverflowError` leaves it. -/
def bestEffortHold (fallback : Motor → Option Int) : List Motor → Robot → Bool × Robot
  | [], s => (false, s)
  | m :: rest, s =>
    if env.bus m.side = false then bestEffortHold fallback rest s
    else if m.isWheel then bestEffortHold fallback rest (write s m (.velocity 0) (env.writable m))
    else if env.rollback m = .tooLarge then (true, s)
    else match rollbackHold env s fallback m with
      | none => bestEffortHold fallback rest s
      | some hold => bestEffortHold fallback rest (write s m (.position hold) (env.writable m))

/-- The rollback of an operation that raised: no scope is active after it. -/
def failClosed (fallback : Motor → Option Int) : Bool × Robot :=
  match bestEffortHold env fallback (bySide (settings.names .all)) s with
  | (true, s) => (true, s)
  | (false, s) => (false, { s with
      armed := false, activeScopes := fun _ => false, scopeCommandMono := fun _ => none
      given := fun _ => [] })

/-! ## `command` -/

structure Action where
  position : Motor → Option Number
  xVel : Option Number
  thetaVel : Option Number
  /-- A key that no motor has. -/
  other : Bool

def positionNames : List Motor :=
  armNames .left ++ armNames .right ++ (if settings.enableHeadTilt then [.headTilt] else [])

def Action.keys (action : Action) : List Motor :=
  (positionNames settings).filter fun m => (action.position m).isSome

def Action.unknown (action : Action) : Bool :=
  action.other || (action.position .leftWheel).isSome || (action.position .rightWheel).isSome ||
    (!settings.enableHeadTilt && (action.position .headTilt).isSome)

def Action.hasBase (action : Action) : Bool := action.xVel.isSome || action.thetaVel.isSome

/-- The scopes of an action. -/
def Action.scopes (action : Action) (scope : Scope) : Bool :=
  (action.keys settings).any (·.scope = scope) || (action.hasBase && scope = .base)

/-- The checks of the keys. -/
def keyProblems (action : Action) : List Problem :=
  let arm (side : Side) : List Problem :=
    if (armNames side).any fun m => (action.position m).isSome then
      (if side ∈ settings.enabledArms then [] else [.armNotEnabled side]) ++
        (if (armNames side).all fun m => (action.position m).isSome then [] else [.armIncomplete side])
    else []
  let base : List Problem :=
    if action.hasBase then
      (if settings.enableBase then [] else [.baseDisabled]) ++
        (if action.xVel.isSome && action.thetaVel.isSome then [] else [.basePartial]) ++
        (if settings.directions.isSome then [] else [.noDirections])
    else []
  let inactive := [Scope.arms, .base].any fun k => action.scopes settings k && !s.activeScopes k
  arm .left ++ arm .right ++ (if inactive then [.scopeNotArmed] else []) ++ base

def parseTarget (action : Action) (m : Motor) : Except Raised (ℚ × Int) := do
  let value := (action.position m).getD .invalid
  let raw ← actionToRaw settings m value
  let target ← finite value
  return (target, raw)

def Robot.clock (m : Motor) : ℚ := if m = .headTilt then s.lastHeadTargetMono else s.lastTargetMono

/-- The target that the time since the last one allows; `math.isclose` lets a gripper's pass. -/
def rateBound (m : Motor) (now previous target : ℚ) : ℚ :=
  let maximumDelta := settings.speed m * max 0 (now - s.clock m)
  if isGripper m ∧ |target - previous| ≤ 1 / 1000000 then target
  else max (previous - maximumDelta) (min (previous + maximumDelta) target)

/-- `_bound_position_rate`, for a motor. -/
def boundTarget (action : Action) (m : Motor) : Except Raised (ℚ × Int) := do
  let (target, raw) ← parseTarget settings action m
  match env.present m, settings.calibration m with
  | .value present, some c =>
    if c.rangeMin - settings.tolerance ≤ present ∧ present ≤ c.rangeMax + settings.tolerance then
      let previous := (s.lastCommandTargets m).getD (rawToJointValue m c present)
      let bounded := rateBound settings s m env.now previous target
      if bounded = target then .ok (target, raw)
      else (actionToRaw settings m (.value bounded)).map (bounded, ·)
    else .error (.problem (.feedbackRange m))
  | .tooLarge, _ => .error .overflow
  | _, _ => .error (.problem (.unreadable m))

def Settings.clampLinear (x : ℚ) : ℚ := max (-settings.maxLinear) (min settings.maxLinear x)

def Settings.clampAngular (theta : ℚ) : ℚ := max (-settings.maxAngular) (min settings.maxAngular theta)

/-- The raw speed of a wheel: `half` is what the turn adds to it. -/
def wheelSpeed (x half : ℚ) : ℚ := (x + half) / settings.wheelRadius * 180 / settings.pi * 4096 / 360

/-- A float of `_body_to_wheel_raw` is not finite. -/
def wheelOverflows (x theta : ℚ) : Bool :=
  let turn := theta * settings.pi / 180 * settings.wheelbase
  let speed (half : ℚ) := (x + half) / settings.wheelRadius
  [theta * settings.pi, turn, x + turn / 2, x - turn / 2, speed (turn / 2), speed (-turn / 2),
    speed (turn / 2) * 180 / settings.pi * 4096, speed (-turn / 2) * 180 / settings.pi * 4096].any
    fun q => floatLimit ≤ |q|

/-- `_body_to_wheel_raw`: the left and the right wheel. -/
def bodyToWheelRaw (x theta : ℚ) : Int × Int :=
  let half := theta * settings.pi / 180 * settings.wheelbase / 2
  let left := roundEven (wheelSpeed settings x (-half))
  let right := roundEven (wheelSpeed settings x half)
  let largest := max |left| |right|
  let scaled (value : Int) := if 3000 < largest then roundEven (value * (3000 / largest)) else value
  let turned (backwards : Bool) (value : Int) := if backwards then -value else value
  let (l, r) := settings.directions.getD (false, false)
  (turned l (scaled left), turned r (scaled right))

/-- What an action comes to once it is checked. -/
structure Plan where
  /-- The targets of the motors as they are applied, and their raw positions. -/
  targets : List (Motor × ℚ × Int)
  /-- The velocities as they are applied, and the raw speeds of the wheels. -/
  base : Option ((ℚ × ℚ) × Int × Int)

def planBase (action : Action) : Except Raised (Option ((ℚ × ℚ) × Int × Int)) :=
  match action.xVel, action.thetaVel with
  | some x, some theta => do
    let x ← finite x
    let theta ← finite theta
    let (x, theta) := (settings.clampLinear x, settings.clampAngular theta)
    if wheelOverflows settings x theta then .error .overflow
    else return some ((x, theta), bodyToWheelRaw settings x theta)
  | _, _ => return none

/-- The checks of `command` before anything is written. -/
def plan (action : Action) : Except Unit (List Problem × Plan) := do
  let (problems, _) ← collect (parseTarget settings action) (action.keys settings)
  let problems := keyProblems settings s action ++ problems
  if problems ≠ [] then return (problems, ⟨[], none⟩)
  let (problems, targets) ← collect (boundTarget settings env s action) (action.keys settings)
  if problems ≠ [] then return (problems, ⟨[], none⟩)
  match planBase settings action with
  | .ok base => return ([], ⟨targets, base⟩)
  | .error (.problem p) => return ([p], ⟨[], none⟩)
  | .error .overflow => .error ()

/-- `raw_action`, motor by motor in the order of the writes. -/
def Plan.raw (p : Plan) : List (Motor × Goal) :=
  p.targets.map (fun t => (t.1, .position t.2.2)) ++ match p.base with
    | none => []
    | some (_, left, right) => [(.leftWheel, .velocity left), (.rightWheel, .velocity right)]

inductive Outcome where
  | rejected (problems : List Problem)
  | accepted (p : Plan)
  | error
  /-- An exception leaves the operation. -/
  | raised

/-- The writes of a command, up to the one that raises. -/
def attempt (goals : List (Motor × Goal)) : Robot :=
  let log := (goals.take env.failsAt).map fun g => (⟨g.1, g.2, true⟩ : Write)
  let failed := (goals.drop env.failsAt).head?.map fun g => (⟨g.1, g.2, false⟩ : Write)
  { s with writes := failed.toList ++ log.reverse ++ s.writes }

/-- The state after a command that is accepted. -/
def accept (action : Action) (p : Plan) : Robot :=
  let raw m := (p.targets.lookup m).map Prod.snd
  { s with
    heldRaw := fun m => (raw m).or (s.heldRaw m)
    lastGripperGoalRaw := fun m => (if isGripper m then raw m else none).or (s.lastGripperGoalRaw m)
    lastCommandTargets := fun m => ((p.targets.lookup m).map Prod.fst).or (s.lastCommandTargets m)
    lastTargetMono := if p.targets.any (·.1 ≠ .headTilt) then env.now else s.lastTargetMono
    lastHeadTargetMono := if p.targets.any (·.1 = .headTilt) then env.now else s.lastHeadTargetMono
    lastCommandMono := env.now
    scopeCommandMono := fun k => if action.scopes settings k then some env.now else s.scopeCommandMono k
    given := fun m => match p.targets.lookup m with
      | some (target, _) => (env.now, target) :: s.given m
      | none => s.given m }

/-- What a command comes to before its writes; `none` is what is no mapping with keys. -/
def check : Option Action → Except Outcome (Action × Plan)
  | none => .error (.rejected [if s.closed then .closed else if s.armed then .noMapping else .notArmed])
  | some action =>
    if s.closed then .error (.rejected [.closed])
    else if s.armed = false then .error (.rejected [.notArmed])
    else if action.unknown settings then .error (.rejected [.unknownKeys])
    else match plan settings env s action with
      | .error () => .error .raised
      | .ok ([], p) => .ok (action, p)
      | .ok (problems, _) => .error (.rejected problems)

def command (action : Option Action) : Outcome × Robot :=
  match check settings env s action with
  | .error outcome => (outcome, s)
  | .ok (action, p) =>
    let t := attempt env s p.raw
    if env.failsAt < p.raw.length then
      match failClosed settings env t s.heldRaw with
      | (true, t) => (.raised, t)
      | (false, t) => (.error, t)
    else (.accepted p, accept settings env t action p)

/-! ## The other operations -/

/-- A goal is about to be written, and is written. -/
def hold (m : Motor) (goal : Int) : Robot :=
  write { s with
    heldRaw := Function.update s.heldRaw m (some goal)
    lastGripperGoalRaw := if isGripper m then Function.update s.lastGripperGoalRaw m (some goal)
      else s.lastGripperGoalRaw } m (.position goal) (env.writable m)

/-- The goals that an arming holds. -/
def armGoals (controlled : List Motor) : List (Motor × Int) :=
  (controlled.filter (!·.isWheel)).filterMap fun m => (settings.calibration m).map fun c =>
    (m, c.clamp (if m = .headTilt then (s.heldRaw m).getD (env.positions m) else env.positions m))

/-- The value of the position that an arming holds. -/
def heldValue (goals : List (Motor × Int)) (m : Motor) : Option ℚ :=
  (goals.lookup m).bind fun raw => (settings.calibration m).map fun c => rawToJointValue m c raw

/-- The torques that an arming has come to. -/
def own (names : List Motor) : Robot :=
  { s with ownedTorqueNames := fun m => s.ownedTorqueNames m || decide (m ∈ names) }

def armRefused (selection : Selection) : Bool :=
  s.closed || env.refuses || (settings.names selection).isEmpty ||
    ([Scope.arms, .base].any fun k => settings.scopes selection k && s.activeScopes k) ||
    (settings.names selection).any fun m => (settings.calibration m).isNone

/-- `arm`. -/
def arm (selection : Selection) : Robot :=
  let controlled := settings.names selection
  let requested := settings.scopes selection
  if armRefused settings env s selection then s
  else
    let goals := armGoals settings env s controlled
    match env.armRaises with
    | some n =>
      let t := (goals.take n).foldl (fun s g => hold env s g.1 g.2) s
      let t := own t (controlled.take (n - goals.length))
      (failClosed settings env t fun m => (goals.lookup m).or (t.heldRaw m)).2
    | none =>
      let t := own (goals.foldl (fun s g => hold env s g.1 g.2) s) controlled
      { t with
        activeScopes := fun k => s.activeScopes k || requested k
        armed := true
        lastCommandTargets := fun m => (heldValue settings goals m).or (t.lastCommandTargets m)
        lastTargetMono := if goals.any (·.1 ≠ .headTilt) then env.now else t.lastTargetMono
        lastHeadTargetMono := if goals.any (·.1 = .headTilt) then env.now else t.lastHeadTargetMono
        lastCommandMono := env.now
        scopeCommandMono := fun k => if requested k then some env.now else t.scopeCommandMono k
        given := fun m => match heldValue settings goals m with
          | some target => [(env.now, target)]
          | none => s.given m }

/-- The scopes of a selection are no longer active. -/
def release (selection : Selection) : Robot :=
  let scopes := settings.scopes selection
  let active k := s.activeScopes k && !scopes k
  { s with
    activeScopes := active
    armed := active .arms || active .base
    scopeCommandMono := fun k => if scopes k then none else s.scopeCommandMono k
    lastCommandMono := if active .arms || active .base then s.lastCommandMono else 0
    lastTargetMono := if scopes .arms then 0 else s.lastTargetMono
    given := fun m => if scopes m.scope then [] else s.given m }

/-- The goal of a motor that is stopped; `none` for an error. -/
def stopHold (m : Motor) : Option Int :=
  (match env.present m with
  | .value n => some n
  | .raised => s.heldRaw m
  | .notNumber | .tooLarge => none).map fun current =>
    if isGripper m then (s.lastGripperGoalRaw m).getD current
    else match settings.calibration m with
      | some c => c.clamp current
      | none => current

/-- The writes of a stop; the Boolean is that an `OverflowError` leaves them. -/
def stopWrites : List Motor → Robot → Bool × Robot
  | [], s => (false, s)
  | m :: rest, s =>
    if env.bus m.side = false then stopWrites rest s
    else if m.isWheel then stopWrites rest (write s m (.velocity 0) (env.writable m))
    else if env.present m = .tooLarge then (true, s)
    else match stopHold settings env s m with
      | none => stopWrites rest s
      | some hold =>
        let t := write s m (.position hold) (env.writable m)
        stopWrites rest (if env.writable m then
          { t with heldRaw := Function.update t.heldRaw m (some hold) } else t)

/-- `_stop_locked`. -/
def stopLocked (writeCommands : Bool) (selection : Selection) : Bool × Robot :=
  let s := release settings s selection
  let (raised, s) :=
    if writeCommands then stopWrites settings env (bySide (settings.names selection)) s else (false, s)
  (raised || env.confirmed = none, s)

/-- A stop, and that of the whole robot if it is not confirmed and a scope is still active. -/
def stopWithFallback (again : Env) (writeCommands : Bool) (selection : Selection) : Bool × Robot :=
  match stopLocked settings env s writeCommands selection with
  | (true, s) => (true, s)
  | (false, s) =>
    if env.confirmed = some true || !s.armed then (false, s) else stopLocked settings again s true .all

/-- `stop`; its caller gets what it raises. -/
def stop (again : Env) (selection : Selection) : Robot :=
  if s.closed then s
  else (stopWithFallback settings env s again ((settings.names selection).any s.ownedTorqueNames) selection).2

def selectionOf : Scope → Selection
  | .arms => .arms
  | .base => .base

/-- The watchdog, for a scope that has expired. -/
def watchdog (again : Env) (scope : Scope) : Robot :=
  if s.closed || !s.activeScopes scope then s
  else match stopWithFallback settings env s again true (selectionOf scope) with
    | (true, s) => { s with
        armed := false, activeScopes := fun _ => false, scopeCommandMono := fun _ => none
        given := fun _ => [] }
    | (false, s) => s

def close : Robot :=
  if s.closed then s
  else
    let t := if s.armed then (stopLocked settings env s true .all).2 else s
    { t with closed := true, armed := false }

/-- `restore_held_state` and `restore_stop_fault`; only the first, which may still adopt nothing,
goes over a stop. -/
def restore (stops adopts : Bool) (goals : List (Motor × Int)) : Robot :=
  let outside := goals.any fun g => (settings.calibration g.1).all fun c => !decide (c.Holds g.2)
  if s.closed || s.armed || outside then s
  else
    let s := if stops then release settings s .all else s
    if adopts then
      own { s with
        heldRaw := fun m => goals.lookup m
        lastGripperGoalRaw := fun m => if isGripper m then goals.lookup m else none } (goals.map Prod.fst)
    else s

inductive Operation where
  | command (action : Option Action)
  | arm (selection : Selection)
  | stop (again : Env) (selection : Selection)
  | watchdog (again : Env) (scope : Scope)
  | close
  | restore (stops adopts : Bool) (goals : List (Motor × Int))

def perform : Operation → Robot
  | .command action => (command settings env s action).2
  | .arm selection => arm settings env s selection
  | .stop again selection => stop settings env s again selection
  | .watchdog again scope => watchdog settings env s again scope
  | .close => close settings env s
  | .restore stops adopts goals => restore settings s stops adopts goals

/-- The clock does not go back. -/
def step (s : Robot) (l : Operation × Env) : Option Robot :=
  if s.now ≤ l.2.now then some { perform settings l.2 s l.1 with now := l.2.now } else none

end

/-! ## Goals in their ranges -/

section

variable {settings : Settings} {env again : Env} {s t : Robot} {m : Motor} {raw : Int} {b : Bool}
  {names : List Motor} {fallback : Motor → Option Int} {selection : Selection}

/-- Outside of no calibrated range. -/
def Settings.InRange (settings : Settings) (m : Motor) (raw : Int) : Prop :=
  ∀ c, settings.calibration m = some c → c.Holds raw

theorem Calibration.clamp_holds (c : Calibration) (raw : Int) : c.Holds (c.clamp raw) := by
  have := c.ordered
  simp only [Holds, clamp]
  omega

theorem actionToRaw_ok {value} (h : actionToRaw settings m value = .ok raw) :
    ∃ q c, value = .value q ∧ settings.calibration m = some c ∧ c.Holds raw ∧ 0 ≤ raw ∧ raw ≤ 4095 := by
  have fits {c : Calibration} {r : Int} (h : actionToRaw.inRange m c r = .ok raw) :
      c.Holds raw ∧ 0 ≤ raw ∧ raw ≤ 4095 := by
    unfold actionToRaw.inRange at h
    split at h <;> cases h
    exact ⟨by tauto, by tauto, by tauto⟩
  cases value with
  | value q =>
    cases calibrated : settings.calibration m with
    | none => simp [actionToRaw, finite, calibrated, bind, Except.bind] at h
    | some c =>
      simp only [actionToRaw, finite, calibrated, bind, Except.bind] at h
      refine ⟨q, c, rfl, rfl, ?_⟩
      split at h
      · split at h
        · exact fits h
        · cases h
      · split at h
        · cases h
        · exact fits h
  | invalid | tooLarge => simp [actionToRaw, finite, bind, Except.bind] at h

theorem collect_error {β : Type} {check : Motor → Except Raised β} :
    collect check names = .error () ↔ ∃ m ∈ names, check m = .error .overflow := by
  induction names with
  | nil => simp [collect]
  | cons m rest =>
    rw [collect]
    cases checked : check m with
    | error e => cases e <;> cases tail : collect check rest <;> simp_all [Except.map]
    | ok => cases tail : collect check rest <;> simp_all [Except.map]

theorem collect_ok {β : Type} {check : Motor → Except Raised β} {problems : List Problem}
    {found : List (Motor × β)} (h : collect check names = .ok (problems, found)) :
    (∀ x ∈ found, check x.1 = .ok x.2) ∧ (problems = [] → found.map Prod.fst = names) ∧
      (problems = [] ↔ ∀ m ∈ names, ∃ x, check m = .ok x) := by
  induction names generalizing problems found with
  | nil =>
    cases h
    simp
  | cons m rest ih =>
    rw [collect] at h
    cases checked : check m with
    | error e =>
      cases e <;> cases tail : collect check rest <;> simp_all [Except.map]
      obtain ⟨rfl, rfl⟩ := h
      simpa using (ih rfl).1
    | ok =>
      cases tail : collect check rest with
      | error => simp [checked, tail, Except.map] at h
      | ok =>
        simp only [checked, tail, Except.map, Except.ok.injEq, Prod.mk.injEq] at h
        obtain ⟨rfl, rfl⟩ := h
        obtain ⟨sound, all, fits⟩ := ih tail
        exact ⟨by simpa using ⟨checked, fun a b => sound (a, b)⟩, fun none => by simp [all none],
          by simp [fits, checked]⟩

/-- What is known of an action that is written. -/
structure Reported (settings : Settings) (env : Env) (s : Robot) (action : Action) (p : Plan) : Prop where
  keys : p.targets.map Prod.fst = action.keys settings
  active : ∀ g ∈ p.raw, s.activeScopes g.1.scope
  /-- An arm is given all its joints. -/
  arms : ∀ side, ∀ m ∈ armNames side, m ∈ action.keys settings →
    side ∈ settings.enabledArms ∧ ∀ m ∈ armNames side, m ∈ action.keys settings
  targets : ∀ m target raw, (m, target, raw) ∈ p.targets → ∃ q present c,
    action.position m = some (.value q) ∧ env.present m = .value present ∧ settings.calibration m = some c ∧
      target = rateBound settings s m env.now ((s.lastCommandTargets m).getD (rawToJointValue m c present)) q ∧
      actionToRaw settings m (.value target) = .ok raw ∧ c.Holds raw ∧ 0 ≤ raw ∧ raw ≤ 4095
  base : p.base.isSome = action.hasBase
  wheels : ∀ x theta left right, p.base = some ((x, theta), left, right) →
    settings.enableBase ∧ |x| ≤ settings.maxLinear ∧ |theta| ≤ settings.maxAngular ∧
      (left, right) = bodyToWheelRaw settings x theta ∧ |left| ≤ 3000 ∧ |right| ≤ 3000

theorem parseTarget_ok {action} {x} (h : parseTarget settings action m = .ok x) :
    action.position m = some (.value x.1) ∧ actionToRaw settings m (.value x.1) = .ok x.2 := by
  unfold parseTarget at h
  cases converted : actionToRaw settings m ((action.position m).getD .invalid) with
  | error => simp [converted, bind, Except.bind] at h
  | ok =>
    obtain ⟨q, c, value, -⟩ := actionToRaw_ok converted
    rw [value] at converted h
    simp only [converted, finite, bind, Except.bind, pure, Except.pure] at h
    cases h
    refine ⟨?_, converted⟩
    cases position : action.position m with
    | none => simp [position] at value
    | some => simpa [position] using value

theorem boundTarget_ok {action} {x} (h : boundTarget settings env s action m = .ok x) :
    ∃ q present c, action.position m = some (.value q) ∧ env.present m = .value present ∧
      settings.calibration m = some c ∧
      x.1 = rateBound settings s m env.now ((s.lastCommandTargets m).getD (rawToJointValue m c present)) q ∧
      actionToRaw settings m (.value x.1) = .ok x.2 := by
  unfold boundTarget at h
  cases parsed : parseTarget settings action m with
  | error => simp [parsed, bind, Except.bind] at h
  | ok y =>
    obtain ⟨q, raw⟩ := y
    obtain ⟨position, converted⟩ := parseTarget_ok parsed
    simp only [parsed, bind, Except.bind] at h
    split at h
    · rename_i present c read calibrated
      refine ⟨q, present, c, position, read, calibrated, ?_⟩
      split at h
      · split at h
        · rename_i same
          cases h
          exact ⟨same.symm, converted⟩
        · cases bounded : actionToRaw settings m (.value (rateBound settings s m env.now
              ((s.lastCommandTargets m).getD (rawToJointValue m c present)) q)) with
          | error e => simp [bounded, Except.map] at h
          | ok raw =>
            simp only [bounded, Except.map, Except.ok.injEq] at h
            cases h
            exact ⟨rfl, bounded⟩
      · cases h
    · cases h
    · cases h

theorem abs_roundEven_le {q : ℚ} {n : Int} (small : |q| ≤ n) : |roundEven q| ≤ n := by
  obtain ⟨low, high⟩ := abs_le.mp small
  have above : -n ≤ ⌊q⌋ := Int.le_floor.mpr (by push_cast; linarith)
  have below : ⌊q⌋ ≤ n := by exact_mod_cast (Int.floor_le q).trans high
  -- a number that is rounded up is above its floor, which is then below the bound
  have next (up : ¬q - ⌊q⌋ < 1 / 2) : ⌊q⌋ + 1 ≤ n := by
    have : (⌊q⌋ : ℚ) < n := by linarith
    exact_mod_cast this
  unfold roundEven
  rw [abs_le]
  split
  · exact ⟨above, below⟩
  · rename_i up
    have := next up
    split
    · omega
    · split <;> omega

theorem abs_bodyToWheelRaw_le (x theta : ℚ) :
    |(bodyToWheelRaw settings x theta).1| ≤ 3000 ∧ |(bodyToWheelRaw settings x theta).2| ≤ 3000 := by
  have scaled (left right value : Int) (most : |value| ≤ max |left| |right|) :
      |if 3000 < max |left| |right| then roundEven (value * (3000 / (max |left| |right| : Int))) else value|
        ≤ 3000 := by
    split
    · rename_i large
      apply abs_roundEven_le
      have positive : (0 : ℚ) < (max |left| |right| : Int) := by exact_mod_cast (by omega)
      have most : |(value : ℚ)| ≤ (max |left| |right| : Int) := by exact_mod_cast most
      rw [abs_mul, abs_of_pos (div_pos (by norm_num) positive), mul_div_assoc', div_le_iff₀ positive]
      push_cast at most ⊢
      linarith
    · omega
  have turned (backwards : Bool) (value : Int) (small : |value| ≤ 3000) :
      |if backwards then -value else value| ≤ 3000 := by
    split
    · rwa [abs_neg]
    · exact small
  exact ⟨turned _ _ (scaled _ _ _ (le_max_left _ _)), turned _ _ (scaled _ _ _ (le_max_right _ _))⟩

theorem keyProblems_nil {action : Action} (none : keyProblems settings s action = []) :
    (∀ side, ((armNames side).any fun m => (action.position m).isSome) →
      side ∈ settings.enabledArms ∧ (armNames side).all fun m => (action.position m).isSome) ∧
    (∀ k, action.scopes settings k → s.activeScopes k) ∧
    (action.hasBase → settings.enableBase ∧ action.xVel.isSome ∧ action.thetaVel.isSome) := by
  simp only [keyProblems, append_eq_nil_iff, ite_eq_right_iff, reduceCtorEq, imp_false] at none
  obtain ⟨⟨⟨left, right⟩, scopes⟩, base⟩ := none
  refine ⟨fun side touched => ?_, fun k asked => ?_, fun asked => ?_⟩
  · cases side with
    | left => have := left touched; grind
    | right => have := right touched; grind
  · cases k with
    | arms | base => simp_all
  · have := base asked
    grind

theorem planBase_ok {action : Action} {base : Option ((ℚ × ℚ) × Int × Int)}
    (h : planBase settings action = .ok base) :
    base.isSome = (action.xVel.isSome && action.thetaVel.isSome) ∧
    ∀ x theta left right, base = some ((x, theta), left, right) →
      |x| ≤ settings.maxLinear ∧ |theta| ≤ settings.maxAngular ∧
        (left, right) = bodyToWheelRaw settings x theta ∧ |left| ≤ 3000 ∧ |right| ≤ 3000 := by
  unfold planBase at h
  split at h
  · rename_i given turn linear angular
    cases given with
    | value x =>
      cases turn with
      | value theta =>
        simp only [finite, bind, Except.bind] at h
        split at h
        · cases h
        · simp only [pure, Except.pure, Except.ok.injEq] at h
          subst h
          refine ⟨by simp [linear, angular], fun x' theta' left right is => ?_⟩
          simp only [Option.some.injEq, Prod.mk.injEq] at is
          obtain ⟨⟨rfl, rfl⟩, raw⟩ := is
          have positive := settings.linearPositive
          have positive' := settings.angularPositive
          have wheels := @abs_bodyToWheelRaw_le settings (settings.clampLinear x) (settings.clampAngular theta)
          rw [raw] at wheels
          refine ⟨abs_le.mpr ?_, abs_le.mpr ?_, raw.symm, wheels⟩
          · exact ⟨le_max_left _ _, max_le (by linarith) (min_le_left _ _)⟩
          · exact ⟨le_max_left _ _, max_le (by linarith) (min_le_left _ _)⟩
      | invalid | tooLarge => simp [finite, bind, Except.bind] at h
    | invalid | tooLarge => simp [finite, bind, Except.bind] at h
  · rename_i partly
    simp only [pure, Except.pure, Except.ok.injEq] at h
    subst h
    refine ⟨?_, by simp⟩
    cases linear : action.xVel with
    | none => rfl
    | some x =>
      cases angular : action.thetaVel with
      | none => rfl
      | some theta => exact absurd angular (partly x theta linear)

theorem plan_ok {action : Action} {p : Plan} (h : plan settings env s action = .ok ([], p)) :
    Reported settings env s action p := by
  simp only [plan, bind, Except.bind, pure, Except.pure] at h
  cases parsed : collect (parseTarget settings action) (action.keys settings) with
  | error => simp [parsed] at h
  | ok r =>
    obtain ⟨problems, targets⟩ := r
    simp only [parsed] at h
    split at h
    · rename_i some'
      exact absurd (Prod.mk.inj (Except.ok.inj h)).1 some'
    rename_i none
    obtain ⟨keyed, rfl⟩ := List.append_eq_nil_iff.mp (not_not.mp none)
    cases bounded : collect (boundTarget settings env s action) (action.keys settings) with
    | error => simp [bounded] at h
    | ok r =>
      obtain ⟨problems, applied⟩ := r
      simp only [bounded] at h
      split at h
      · rename_i some'
        exact absurd (Prod.mk.inj (Except.ok.inj h)).1 some'
      rename_i none
      obtain rfl := not_not.mp none
      obtain ⟨bound, same, -⟩ := collect_ok bounded
      obtain ⟨arms, scopes, base⟩ := keyProblems_nil keyed
      cases made : planBase settings action with
      | error e => cases e <;> simp [made] at h
      | ok b =>
        simp only [made, Except.ok.injEq, Prod.mk.injEq, true_and] at h
        obtain rfl := h
        obtain ⟨isSome, wheels⟩ := planBase_ok made
        have asked (m : Motor) : m ∈ action.keys settings ↔
            m ∈ positionNames settings ∧ (action.position m).isSome := by
          simp [Action.keys]
        refine ⟨same rfl, fun g written => ?_, fun side m member here => ?_,
          fun m target raw member => ?_, ?_, fun x theta left right is => ?_⟩
        · rcases List.mem_append.mp written with target | wheel
          · obtain ⟨x, member, rfl⟩ := List.mem_map.mp target
            have key : x.1 ∈ action.keys settings := same rfl ▸ mem_map_of_mem member
            refine scopes _ ?_
            simp only [Action.scopes, Bool.or_eq_true, any_eq_true, decide_eq_true_eq]
            exact .inl ⟨_, key, rfl⟩
          · have has : action.hasBase = true := by
              cases b with
              | none => cases wheel
              | some => simp_all [Action.hasBase]
            refine scopes _ ?_
            cases b with
            | none => cases wheel
            | some =>
              rcases List.mem_cons.mp wheel with rfl | wheel
              · simp [Action.scopes, has, Motor.scope]
              · obtain rfl := List.mem_singleton.mp wheel
                simp [Action.scopes, has, Motor.scope]
        · obtain ⟨enabled, whole⟩ := arms side (List.any_eq_true.mpr ⟨m, member, ((asked m).mp here).2⟩)
          refine ⟨enabled, fun m member => (asked m).mpr ⟨?_, List.all_eq_true.mp whole m member⟩⟩
          cases side <;> simp [positionNames, member]
        · obtain ⟨q, present, c, position, reading, calibrated, is, converted⟩ :=
            boundTarget_ok (bound _ member)
          obtain ⟨-, c', -, calibrated', holds⟩ := actionToRaw_ok converted
          obtain rfl := Option.some.inj (calibrated.symm.trans calibrated')
          exact ⟨q, present, c, position, reading, calibrated, is, converted, holds⟩
        · rw [isSome]
          cases has : action.hasBase with
          | true => simp [base has]
          | false => simp_all [Action.hasBase]
        · exact ⟨(base (by simp_all [Action.hasBase])).1, wheels x theta left right is⟩

/-! ## Overflows -/

/-- The product with 4095 is no finite float. -/
def Settings.Wide (settings : Settings) (m : Motor) (q : ℚ) : Prop :=
  (settings.calibration m).isSome ∧ isGripper m = false ∧ floatLimit ≤ |q * 4095|

theorem actionToRaw_overflow {value} : actionToRaw settings m value = .error .overflow ↔
    value = .tooLarge ∨ ∃ q, value = .value q ∧ settings.Wide m q := by
  have fits (c : Calibration) (r : Int) : actionToRaw.inRange m c r ≠ .error .overflow := by
    unfold actionToRaw.inRange
    split <;> simp
  cases value with
  | value =>
    cases calibrated : settings.calibration m with
    | none => simp [actionToRaw, finite, calibrated, bind, Except.bind, Settings.Wide]
    | some =>
      simp only [actionToRaw, finite, calibrated, bind, Except.bind, Settings.Wide]
      split <;> split <;> simp_all
  | invalid | tooLarge => simp [actionToRaw, finite, bind, Except.bind]

theorem parseTarget_overflow {action} : parseTarget settings action m = .error .overflow ↔
    action.position m = some .tooLarge ∨ ∃ q, action.position m = some (.value q) ∧ settings.Wide m q := by
  have same : parseTarget settings action m = .error .overflow ↔
      actionToRaw settings m ((action.position m).getD .invalid) = .error .overflow := by
    unfold parseTarget
    cases converted : actionToRaw settings m ((action.position m).getD .invalid) with
    | error => simp [converted, bind, Except.bind]
    | ok =>
      obtain ⟨q, c, value, -⟩ := actionToRaw_ok converted
      rw [value] at converted
      simp [converted, value, finite, bind, Except.bind, pure, Except.pure]
  rw [same, actionToRaw_overflow]
  cases action.position m <;> simp

variable (settings env s) in
/-- A number of the action, a reading or a speed is no finite float where the command comes to it. -/
inductive Overflows (action : Action) : Prop where
  | huge (m : Motor) (key : m ∈ action.keys settings) (number : action.position m = some .tooLarge)
  | wide (m : Motor) (q : ℚ) (key : m ∈ action.keys settings)
      (number : action.position m = some (.value q)) (wide : settings.Wide m q)
  | reading (m : Motor) (fit : keyProblems settings s action = [])
      (parsed : ∀ m ∈ action.keys settings, ∃ x, parseTarget settings action m = .ok x)
      (key : m ∈ action.keys settings) (reading : env.present m = .tooLarge)
  | bound (m : Motor) (q : ℚ) (present : Int) (c : Calibration) (fit : keyProblems settings s action = [])
      (parsed : ∀ m ∈ action.keys settings, ∃ x, parseTarget settings action m = .ok x)
      (key : m ∈ action.keys settings) (number : action.position m = some (.value q))
      (reading : env.present m = .value present) (calibrated : settings.calibration m = some c)
      (near : c.rangeMin - settings.tolerance ≤ present ∧ present ≤ c.rangeMax + settings.tolerance)
      (wide : settings.Wide m (rateBound settings s m env.now
        ((s.lastCommandTargets m).getD (rawToJointValue m c present)) q))
  | base (fit : keyProblems settings s action = [])
      (bounded : ∀ m ∈ action.keys settings, ∃ x, boundTarget settings env s action m = .ok x)
      (overflow : match action.xVel, action.thetaVel with
        | some .tooLarge, some _ | some (.value _), some .tooLarge => True
        | some (.value x), some (.value theta) =>
          wheelOverflows settings (settings.clampLinear x) (settings.clampAngular theta)
        | _, _ => False)
  | rollback (m : Motor) (p : Plan) (written : check settings env s (some action) = .ok (action, p))
      (fails : env.failsAt < p.raw.length) (controlled : m ∈ settings.names .all)
      (bus : env.bus m.side) (joint : m.isWheel = false) (reading : env.rollback m = .tooLarge)

theorem boundTarget_overflow {action} {y} (parsed : parseTarget settings action m = .ok y) :
    boundTarget settings env s action m = .error .overflow ↔ env.present m = .tooLarge ∨
      ∃ present c, env.present m = .value present ∧ settings.calibration m = some c ∧
        (c.rangeMin - settings.tolerance ≤ present ∧ present ≤ c.rangeMax + settings.tolerance) ∧
        settings.Wide m (rateBound settings s m env.now
          ((s.lastCommandTargets m).getD (rawToJointValue m c present)) y.1) := by
  obtain ⟨position, converted⟩ := parseTarget_ok parsed
  have narrow : ¬settings.Wide m y.1 := fun wide => by
    simp [actionToRaw_overflow.mpr (.inr ⟨_, rfl, wide⟩)] at converted
  unfold boundTarget
  simp only [parsed, bind, Except.bind]
  cases reading : env.present m with
  | value present =>
    cases calibrated : settings.calibration m with
    | none => simp
    | some c =>
      dsimp only
      split
      · rename_i near
        split
        · rename_i same
          simp_all
        · have := @actionToRaw_overflow settings m (.value (rateBound settings s m env.now
            ((s.lastCommandTargets m).getD (rawToJointValue m c present)) y.1))
          cases bounded : actionToRaw settings m (.value (rateBound settings s m env.now
            ((s.lastCommandTargets m).getD (rawToJointValue m c present)) y.1)) <;>
            simp_all [Except.map]
      · simp_all
  | notNumber | tooLarge | raised => cases settings.calibration m <;> simp

theorem planBase_overflow {action} : planBase settings action = .error .overflow ↔
    match action.xVel, action.thetaVel with
    | some .tooLarge, some _ | some (.value _), some .tooLarge => True
    | some (.value x), some (.value theta) =>
      wheelOverflows settings (settings.clampLinear x) (settings.clampAngular theta)
    | _, _ => False := by
  unfold planBase
  cases action.xVel with
  | none => simp [pure, Except.pure]
  | some x =>
    cases action.thetaVel with
    | none => simp [pure, Except.pure]
    | some theta => cases x <;> cases theta <;> simp [finite, bind, Except.bind, pure, Except.pure]

/-- A plan overflows at a target, at a reading, or at the base. -/
theorem plan_error {action : Action} : plan settings env s action = .error () ↔
    (∃ m ∈ action.keys settings, parseTarget settings action m = .error .overflow) ∨
    keyProblems settings s action = [] ∧
      (∀ m ∈ action.keys settings, ∃ x, parseTarget settings action m = .ok x) ∧
      ((∃ m ∈ action.keys settings, boundTarget settings env s action m = .error .overflow) ∨
        (∀ m ∈ action.keys settings, ∃ x, boundTarget settings env s action m = .ok x) ∧
          planBase settings action = .error .overflow) := by
  simp only [plan, bind, Except.bind, pure, Except.pure]
  rw [← collect_error, ← collect_error]
  cases parsed : collect (parseTarget settings action) (action.keys settings) with
  | error => simp
  | ok r =>
    obtain ⟨problems, targets⟩ := r
    obtain ⟨-, -, fit⟩ := collect_ok parsed
    dsimp only
    split
    · rename_i some'
      rw [ne_eq, append_eq_nil_iff, fit] at some'
      simp [-Prod.exists]
      tauto
    rename_i none
    obtain ⟨keyed, rfl⟩ := List.append_eq_nil_iff.mp (not_not.mp none)
    cases bounded : collect (boundTarget settings env s action) (action.keys settings) with
    | error => simpa [keyed] using fit.mp rfl
    | ok r =>
      obtain ⟨problems, applied⟩ := r
      obtain ⟨-, -, near⟩ := collect_ok bounded
      dsimp only
      split
      · rename_i some'
        rw [ne_eq, near] at some'
        simp [-Prod.exists]
        tauto
      · rename_i none
        have := near.mp (not_not.mp none)
        have := fit.mp rfl
        cases planBase settings action with
        | ok => simp
        | error e => cases e <;> simp_all

theorem mem_bySide : m ∈ bySide names ↔ m ∈ names := by
  cases names with
  | nil => rfl
  | cons =>
    simp only [bySide, mem_append, mem_filter, decide_eq_true_eq]
    tauto

theorem bestEffortHold_overflow : (bestEffortHold env fallback names s).1 = true ↔
    ∃ m ∈ names, env.bus m.side ∧ m.isWheel = false ∧ env.rollback m = .tooLarge := by
  induction names generalizing s with
  | nil => simp [bestEffortHold]
  | cons =>
    rw [bestEffortHold]
    split
    · simp_all
    split
    · simp_all
    split
    · simp_all
    split <;> simp_all

/-! ## What a command comes to -/

variable (settings env s) in
/-- A command is rejected without a trace, accepted as it reports, or leaves no scope active. -/
def Meets (given : Option Action) : Prop :=
  match command settings env s given with
  | (.rejected _, t) => t = s
  | (.accepted p, t) => (∃ action, given = some action ∧ Reported settings env s action p) ∧
    t.writes = (p.raw.map fun g => ⟨g.1, g.2, true⟩).reverse ++ s.writes
  | (.error, t) => ∀ k, t.activeScopes k = false
  | (.raised, _) => False

theorem check_cases (given : Option Action) : match check settings env s given with
    | .ok (action, p) => given = some action ∧ Reported settings env s action p
    | .error .raised => ∃ action, given = some action ∧ s.closed = false ∧ s.armed ∧
      action.unknown settings = false ∧ plan settings env s action = .error ()
    | .error (.rejected _) => True
    | .error _ => False := by
  cases given with
  | none => simp [check]
  | some action =>
    rw [check]
    cases closed : s.closed
    case true => trivial
    cases armed : s.armed
    case false => trivial
    cases unknown : action.unknown settings
    case true => trivial
    cases made : plan settings env s action with
    | error => exact ⟨action, rfl, rfl, rfl, unknown, made⟩
    | ok r =>
      obtain ⟨problems, p⟩ := r
      cases problems with
      | nil => exact ⟨rfl, plan_ok made⟩
      | cons => trivial

theorem overflows_of_plan {action} (h : plan settings env s action = .error ()) :
    Overflows settings env s action := by
  rcases plan_error.mp h with ⟨m, key, large⟩ | ⟨fit, parsed, ⟨m, key, large⟩ | ⟨bounded, large⟩⟩
  · rcases parseTarget_overflow.mp large with huge | ⟨q, number, wide⟩
    · exact .huge m key huge
    · exact .wide m q key number wide
  · obtain ⟨y, read⟩ := parsed m key
    rcases (boundTarget_overflow read).mp large with reading | ⟨present, c, reading, calibrated, near, wide⟩
    · exact .reading m fit parsed key reading
    · exact .bound m y.1 present c fit parsed key (parseTarget_ok read).1 reading calibrated near wide
  · exact .base fit bounded (planBase_overflow.mp large)

theorem plan_of_overflows {action} (overflows : Overflows settings env s action) :
    plan settings env s action = .error () ∨ ∃ p, check settings env s (some action) = .ok (action, p) ∧
      env.failsAt < p.raw.length ∧ ∃ m ∈ settings.names .all,
        env.bus m.side ∧ m.isWheel = false ∧ env.rollback m = .tooLarge := by
  have parses (bounded : ∀ m ∈ action.keys settings, ∃ x, boundTarget settings env s action m = .ok x) (m)
      (key : m ∈ action.keys settings) : ∃ x, parseTarget settings action m = .ok x := by
    obtain ⟨x, bound⟩ := bounded m key
    unfold boundTarget at bound
    cases parsed : parseTarget settings action m with
    | error => simp [parsed, bind, Except.bind] at bound
    | ok y => exact ⟨y, rfl⟩
  cases overflows with
  | huge m key number =>
    exact .inl (plan_error.mpr (.inl ⟨m, key, parseTarget_overflow.mpr (.inl number)⟩))
  | wide m q key number wide =>
    exact .inl (plan_error.mpr (.inl ⟨m, key, parseTarget_overflow.mpr (.inr ⟨q, number, wide⟩)⟩))
  | reading m fit parsed key reading =>
    obtain ⟨y, read⟩ := parsed m key
    exact .inl (plan_error.mpr (.inr ⟨fit, parsed, .inl ⟨m, key,
      (boundTarget_overflow read).mpr (.inl reading)⟩⟩))
  | bound m q present c fit parsed key number reading calibrated near wide =>
    obtain ⟨y, read⟩ := parsed m key
    obtain rfl : q = y.1 := by simpa [number] using (parseTarget_ok read).1
    exact .inl (plan_error.mpr (.inr ⟨fit, parsed, .inl ⟨m, key,
      (boundTarget_overflow read).mpr (.inr ⟨present, c, reading, calibrated, near, wide⟩)⟩⟩))
  | base fit bounded overflow =>
    exact .inl (plan_error.mpr (.inr ⟨fit, parses bounded, .inr ⟨bounded, planBase_overflow.mpr overflow⟩⟩))
  | rollback m p written fails controlled bus joint reading =>
    exact .inr ⟨p, written, fails, m, controlled, bus, joint, reading⟩

variable (settings env s) in
/-- The command is looked at, and a number of it overflows. -/
def Fails (given : Option Action) : Prop :=
  ∃ action, given = some action ∧ s.closed = false ∧ s.armed ∧ action.unknown settings = false ∧
    Overflows settings env s action

theorem failClosed_none {u} (held : failClosed settings env s fallback = (false, u)) (k : Scope) :
    u.activeScopes k = false := by
  unfold failClosed at held
  split at held <;> cases held
  rfl

theorem failClosed_raised :
    (failClosed settings env s fallback).1 = (bestEffortHold env fallback (bySide (settings.names .all)) s).1 := by
  unfold failClosed
  split <;> simp_all

end

/-- **Commands** are rejected without a trace, accepted with the writes that are reported, or leave no
scope active, if and only if no number overflows. -/
theorem command_meets_iff (settings : Settings) (env : Env) (s : Robot) (given : Option Action) :
    Meets settings env s given ↔ ¬Fails settings env s given := by
  have cases := @check_cases settings env s given
  unfold Meets command
  cases checked : check settings env s given with
  | ok r =>
    obtain ⟨action, p⟩ := r
    rw [checked] at cases
    obtain ⟨rfl, reported⟩ := cases
    have admitted : s.closed = false ∧ s.armed ∧ action.unknown settings = false ∧
        plan settings env s action ≠ .error () := by
      simp only [check] at checked
      grind
    have fails_iff : Fails settings env s (some action) ↔ env.failsAt < p.raw.length ∧
        ∃ m ∈ settings.names .all, env.bus m.side ∧ m.isWheel = false ∧ env.rollback m = .tooLarge := by
      constructor
      · rintro ⟨_, same, -, -, -, overflows⟩
        obtain rfl := Option.some.inj same
        rcases plan_of_overflows overflows with large | ⟨p', again, fails⟩
        · exact absurd large admitted.2.2.2
        · rw [checked] at again
          cases again
          exact fails
      · rintro ⟨fails, m, controlled, bus, joint, reading⟩
        exact ⟨action, rfl, admitted.1, admitted.2.1, admitted.2.2.1,
          .rollback m p checked fails controlled bus joint reading⟩
    rw [fails_iff]
    dsimp only
    by_cases fails : env.failsAt < p.raw.length
    · have overflow := @bestEffortHold_overflow env (attempt env s p.raw) (bySide (settings.names .all))
        s.heldRaw
      simp only [mem_bySide] at overflow
      rw [← overflow, ← failClosed_raised]
      rw [if_pos fails]
      rcases held : failClosed settings env (attempt env s p.raw) s.heldRaw with ⟨raised, u⟩
      cases raised with
      | true => simp [fails]
      | false => simpa [fails] using failClosed_none held
    · have written : (attempt env s p.raw).writes =
          (p.raw.map fun g => ⟨g.1, g.2, true⟩).reverse ++ s.writes := by
        simp [attempt, take_of_length_le (not_lt.mp fails), drop_eq_nil_of_le (not_lt.mp fails)]
      rw [if_neg fails]
      exact iff_of_true ⟨⟨action, rfl, reported⟩, written⟩ fun both => fails both.1
  | error outcome =>
    rw [checked] at cases
    cases outcome with
    | rejected =>
      refine iff_of_true rfl ?_
      rintro ⟨action, rfl, open', armed, known, overflows⟩
      simp only [check, open', armed, known] at checked
      rcases plan_of_overflows overflows with large | ⟨p, admitted, -⟩
      · simp [large] at checked
      · simp [check, open', armed, known] at admitted
        simp_all
    | accepted | error => exact cases.elim
    | raised =>
      obtain ⟨action, rfl, open', armed, known, large⟩ := cases
      simp only [false_iff, not_not]
      exact ⟨action, rfl, open', armed, known, overflows_of_plan large⟩

/-! ## A bench -/

theorem bench_low : (0 : Int) ≤ 0 := by decide

theorem bench_ordered : (0 : Int) < 4000 := by decide

theorem bench_high : (4000 : Int) ≤ 4095 := by decide

def bench : Settings where
  enabledArms := [.left]
  enableBase := false
  enableHeadTilt := false
  ports _ := true
  allowMotion := true
  motionConfigError := false
  resumeStopFault := false
  calibration _ := some ⟨false, 0, 4000, bench_low, bench_ordered, bench_high⟩
  directions := none
  tolerance := 20
  maxJointSpeed := 5
  maxGripperSpeed := 10
  maxHeadSpeed := 5
  maxLinear := 1 / 10
  maxAngular := 15
  wheelbase := 1 / 4
  wheelRadius := 1 / 20
  pi := 355 / 113
  jointPositive := by norm_num
  gripperPositive := by norm_num
  headPositive := by norm_num
  linearPositive := by norm_num
  angularPositive := by norm_num
  enabled := by decide
  headWithBase := nofun

/-- Every joint is at its middle, and nothing fails. -/
def still : Env where
  now := 0
  present _ := .value 2000
  rollback _ := .value 2000
  bus _ := true
  failsAt := 100
  writable _ := true
  refuses := false
  positions _ := 2000
  armRaises := none
  confirmed := some true

/-- All joints of the left arm. -/
def leftArm (target : Fin 6 → ℚ) : Action where
  position
    | .joint .left index => some (.value (target index))
    | _ => none
  xVel := none
  thetaVel := none
  other := false

def ready : Robot := arm bench still {} .arms

theorem huge_target_raises : ¬Meets bench still ready
    (some (leftArm fun index => if index = 0 then 2 ^ 1020 else 0)) := by
  have large : plan bench still ready (leftArm fun index => if index = 0 then 2 ^ 1020 else 0) = .error () := by
    refine plan_error.mpr (.inl ⟨.joint .left 0, by decide +kernel, parseTarget_overflow.mpr (.inr ?_)⟩)
    refine ⟨2 ^ 1020, rfl, rfl, rfl, ?_⟩
    have large : (0 : ℚ) < 2 ^ 1020 := by positivity
    have small : (0 : ℚ) < 2 ^ 970 := by positivity
    rw [abs_of_nonneg (by positivity), floatLimit, show (2 : ℚ) ^ 1024 = 2 ^ 1020 * 2 ^ 4 from pow_add 2 1020 4]
    generalize (2 : ℚ) ^ 1020 = x at large
    generalize (2 : ℚ) ^ 970 = y at small
    linarith
  simp [Meets, command, check, large, show ready.closed = false from rfl, show ready.armed = true from rfl,
    show (leftArm fun index => if index = 0 then 2 ^ 1020 else 0).unknown bench = false from rfl]

end EmbodiRun.Xlerobot.Commands
