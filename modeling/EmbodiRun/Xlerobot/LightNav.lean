/-
# Xlerobot.LightNav -- the LightNav-0 tracker, its controller, and the backend's stop

A tick reads the feedback, decides, and sends a velocity or a stop.  Both the stop that is decided
and the one that follows an exception go through `_safe_stop`, which an `Exception` of the backend
does not leave.

* `stops_reported_iff`: **every call of a run is honest exactly if no tick swallows**.
-/
import EmbodiRun.Data.Effect
import EmbodiRun.Data.Plane
import EmbodiRun.Transition.Machine

namespace EmbodiRun.Xlerobot.LightNav

open Data Transition List Effect

/-! ## Values -/

variable {K : Type}

structure Pose2D (K : Type) where
  x : K
  y : K
  yaw : K

structure BodyVelocity (K : Type) where
  vx : K
  vy : K
  omega : K

structure LightNav0Waypoint (K : Type) where
  forwardM : K
  lateralM : K
  yawRad : K

def maxWaypoints : Nat := 10

structure LightNav0Trajectory (K : Type) where
  waypoints : List (LightNav0Waypoint K)
  stop : Bool
  capturePose : Pose2D K
  capturedAtS : K
  some_ : waypoints ≠ []
  bounded : waypoints.length ≤ maxWaypoints

/-- `Feedback`, with what is read of it. -/
structure Feedback (K : Type) where
  pose : Pose2D K
  observedAtS : K
  collision : Bool

inductive DriveMode where
  | omnidirectional
  | differential

structure TrackerConfig (K : Type) where
  maxLinearVelocity : K
  maxAngularVelocity : K
  positionGain : K
  headingGain : K
  waypointPrefix : Nat
  waypointTolerance : K
  yawTolerance : K
  trajectoryTimeout : K
  feedbackTimeout : K
  driveMode : DriveMode
  positive : 0 < waypointPrefix

inductive Reason where
  | feedbackFromFuture
  | staleFeedback
  | collision
  | noTrajectory
  | trajectoryFromFuture
  | staleTrajectory
  | explicitStop
  | tracking
  deriving DecidableEq

def Reason.stops : Reason → Bool
  | .noTrajectory | .tracking => false
  | _ => true

structure TrackingDecision (K : Type) where
  command : BodyVelocity K
  reason : Reason
  targetIndex : Option Nat := none
  trajectoryStale : Bool := false

inductive Raised where
  | exception (text : String)
  /-- A `BaseException` that is no `Exception`. -/
  | interrupt
  deriving DecidableEq

/-! ## The backend -/

inductive Event where
  | feedback
  | velocity
  | stop (raised : Option Raised)
  | close
  deriving DecidableEq

def Event.isStop : Event → Bool
  | stop _ => true
  | _ => false

inductive StopReason where
  | decided (reason : Reason)
  | controllerException
  | invalidModelOutput
  | close
  | caller

structure Answers (K : Type) where
  /-- `none` for an object that is no `Feedback`. -/
  feedback : Except Raised (Option (Feedback K))
  /-- The time, where it is a finite number. -/
  now : Except Raised K
  /-- A float of the tracking is not finite. -/
  overflows : Bool
  velocity : Option Raised
  stop : StopReason → Option Raised
  close : Option Raised

/-- The controller and its tracker; `log` is newest first. -/
structure Controller (K : Type) where
  trajectory : Option (LightNav0Trajectory K) := none
  closed : Bool := false
  log : List Event := []

abbrev Control (K : Type) := Effect (Controller K) Raised

def calls (event : Event) (raised : Option Raised) : Control K Unit := fun s =>
  let after := { s with log := event :: s.log }
  match raised with
  | some raised => (.error raised, after)
  | none => (.ok (), after)

def backendStop (answers : Answers K) (reason : StopReason) : Control K Unit :=
  calls (.stop (answers.stop reason)) (answers.stop reason)

def backendFeedback (answers : Answers K) : Control K (Option (Feedback K)) := fun s =>
  (answers.feedback, { s with log := .feedback :: s.log })

def setTrajectory (trajectory : Option (LightNav0Trajectory K)) : Control K Unit := fun s =>
  (.ok (), { s with trajectory })

/-! ## The tracker -/

section

variable [Field K] [LinearOrder K] (math : Math K) (config : TrackerConfig K)

def BodyVelocity.zero : BodyVelocity K := ⟨0, 0, 0⟩

def wrapAngle (angle : K) : K := math.atan2 (math.sin angle) (math.cos angle)

def projectBodyToWorld (waypoints : List (LightNav0Waypoint K)) (origin : Pose2D K) : List (Pose2D K) :=
  let cosine := math.cos origin.yaw
  let sine := math.sin origin.yaw
  waypoints.map fun wp =>
    { x := origin.x + cosine * wp.forwardM - sine * wp.lateralM
      y := origin.y + sine * wp.forwardM + cosine * wp.lateralM
      yaw := wrapAngle math (origin.yaw + wp.yawRad) }

def projectWorldToBody (target origin : Pose2D K) : Pose2D K :=
  let cosine := math.cos origin.yaw
  let sine := math.sin origin.yaw
  let dx := target.x - origin.x
  let dy := target.y - origin.y
  { x := cosine * dx + sine * dy
    y := -sine * dx + cosine * dy
    yaw := wrapAngle math (target.yaw - origin.yaw) }

/-- `_select_target`; its list is not empty, and its last point is the one where all are reached. -/
def selectTarget (current : Pose2D K) : Nat → Pose2D K → List (Pose2D K) → Nat × Pose2D K
  | index, point, rest =>
    let error := projectWorldToBody math point current
    if config.waypointTolerance < math.hypot error.x error.y ∨ config.yawTolerance < |error.yaw| then
      (index, point)
    else match rest with
      | [] => (index, point)
      | next :: rest => selectTarget current (index + 1) next rest

def track (error : Pose2D K) : BodyVelocity K :=
  match config.driveMode with
  | .omnidirectional =>
    let vx := config.positionGain * error.x
    let vy := config.positionGain * error.y
    let norm := math.hypot vx vy
    let scale := if config.maxLinearVelocity < norm then config.maxLinearVelocity / norm else 1
    { vx := vx * scale
      vy := vy * scale
      omega := max (-config.maxAngularVelocity) (min config.maxAngularVelocity (config.headingGain * error.yaw)) }
  | .differential =>
    let far := config.waypointTolerance < math.hypot error.x error.y
    let vx := if far then config.positionGain * error.x else 0
    let omegaError := if far then math.atan2 error.y error.x else error.yaw
    { vx := max (-config.maxLinearVelocity) (min config.maxLinearVelocity vx)
      vy := 0
      omega := max (-config.maxAngularVelocity) (min config.maxAngularVelocity (config.headingGain * omegaError)) }

/-- The decision of `decide`, and the trajectory that it leaves. -/
def decideAt (feedback : Feedback K) (now : K) (trajectory : Option (LightNav0Trajectory K)) :
    TrackingDecision K × Option (LightNav0Trajectory K) :=
  let age := now - feedback.observedAtS
  if age < -config.feedbackTimeout then (⟨.zero, .feedbackFromFuture, none, false⟩, trajectory)
  else if config.feedbackTimeout < age then (⟨.zero, .staleFeedback, none, true⟩, trajectory)
  else if feedback.collision then (⟨.zero, .collision, none, false⟩, trajectory)
  else match trajectory with
    | none => (⟨.zero, .noTrajectory, none, false⟩, none)
    | some t =>
      let trajectoryAge := now - t.capturedAtS
      if trajectoryAge < -config.trajectoryTimeout then
        (⟨.zero, .trajectoryFromFuture, none, true⟩, trajectory)
      else if config.trajectoryTimeout < trajectoryAge then
        (⟨.zero, .staleTrajectory, none, true⟩, none)
      else if t.stop then (⟨.zero, .explicitStop, none, false⟩, none)
      else match (projectBodyToWorld math t.waypoints t.capturePose).take config.waypointPrefix with
        -- Not reached: there are waypoints, and the prefix is positive.
        | [] => (⟨.zero, .tracking, none, false⟩, trajectory)
        | first :: rest =>
          let (index, target) := selectTarget math config feedback.pose 0 first rest
          let error := projectWorldToBody math target feedback.pose
          (⟨track math config error, .tracking, some index, false⟩, trajectory)

def decide (answers : Answers K) (feedback : Option (Feedback K)) : Control K (TrackingDecision K) := do
  let some feedback := feedback | throw (.exception "feedback must be a Feedback")
  let now ← fun s => (answers.now, s)
  let (decision, trajectory) ← fun s => (.ok (decideAt math config feedback now s.trajectory), s)
  if decision.reason = .tracking ∧ answers.overflows then
    throw (.exception "velocity must be finite")
  setTrajectory trajectory
  return decision

/-! ## The controller -/

def safeStop (answers : Answers K) (reason : StopReason) : Control K Unit :=
  tryCatch (backendStop answers reason) fun
    | .exception _ => pure ()
    | .interrupt => throw .interrupt

def requireOpen : Control K Unit := fun s =>
  if s.closed then (.error (.exception "LightNav0Controller is closed"), s) else (.ok (), s)

/-- What the model or the caller hands over, and `none` for a row that is no three finite numbers. -/
inductive Output (K : Type) where
  | trajectory (t : LightNav0Trajectory K)
  | mapping (waypoints : Option (List (Option (LightNav0Waypoint K)))) (stop : Option (Option Bool))
  | other

def parseLightnav0Output (output : Output K) (capturePose : Option (Pose2D K))
    (capturedAtS : Except Raised K) : Except Raised (LightNav0Trajectory K) :=
  match output with
  | .trajectory t => .ok t
  | .other => .error (.exception "LightNav-0 output must be an object")
  | .mapping none _ => .error (.exception "LightNav-0 output is missing waypoints")
  | .mapping (some _) none => .error (.exception "LightNav-0 output is missing stop")
  | .mapping (some _) (some none) => .error (.exception "stop must be boolean")
  | .mapping (some rows) (some (some stop)) =>
    match rows.mapM id, capturePose with
    | some waypoints, some capturePose => do
      let capturedAtS ← capturedAtS
      if valid : waypoints ≠ [] ∧ waypoints.length ≤ maxWaypoints then
        return { waypoints, stop, capturePose, capturedAtS, some_ := valid.1, bounded := valid.2 }
      else throw (.exception s!"waypoints must contain one to {maxWaypoints} rows")
    | none, _ => .error (.exception "waypoints must contain exactly three values")
    | _, none => .error (.exception "capture_pose is required for model output")

def submit (answers : Answers K) (output : Output K) (capturePose : Option (Pose2D K)) :
    Control K (LightNav0Trajectory K) := do
  requireOpen
  let trajectory ← tryCatch (fun s => (parseLightnav0Output output capturePose answers.now, s)) fun error => do
      safeStop answers .invalidModelOutput
      throw error
  setTrajectory (some trajectory)
  return trajectory

structure ControllerStep (K : Type) where
  feedback : Option (Feedback K)
  decision : TrackingDecision K

/-- The first half of what `tick` tries. -/
def decided (answers : Answers K) : Control K (ControllerStep K) := do
  let feedback ← backendFeedback answers
  let decision ← decide math config answers feedback
  return ⟨feedback, decision⟩

def tickBody (answers : Answers K) : Control K (ControllerStep K) := do
  let step ← decided math config answers
  if step.decision.reason.stops then safeStop answers (.decided step.decision.reason)
  else calls .velocity answers.velocity
  return step

def tick (answers : Answers K) : Control K (ControllerStep K) := do
  requireOpen
  tryCatch (tickBody math config answers) fun error => do
    safeStop answers .controllerException
    throw error

def stop (answers : Answers K) (reason : StopReason) : Control K Unit := do
  setTrajectory none
  backendStop answers reason

/-- The `finally` of `close`. -/
def closing (answers : Answers K) : Control K Unit := fun s =>
  calls .close answers.close { s with closed := true }

def close (answers : Answers K) : Control K Unit := fun s =>
  if s.closed then (.ok (), s)
  else (do
    tryCatch (stop answers .close) fun error => do
      closing answers
      throw error
    closing answers : Control K Unit) s

/-! ## Runs -/

inductive Call (K : Type) where
  | submit (output : Output K) (capturePose : Option (Pose2D K))
  | tick
  | stop
  | close

structure Label (K : Type) where
  call : Call K
  answers : Answers K

def perform (l : Label K) : Control K (Option Reason) :=
  match l.call with
  | .submit output capturePose => do
    let _ ← submit l.answers output capturePose
    return none
  | .tick => do
    let step ← tick math config l.answers
    return some step.decision.reason
  | .stop => do
    stop l.answers .caller
    return none
  | .close => do
    close l.answers
    return none

structure Report where
  /-- It was `tick` or `submit`. -/
  handled : Bool
  /-- The controller was closed. -/
  closed : Bool
  outcome : Except Raised (Option Reason)
  /-- The calls of the backend, newest first, and all those since the controller was made. -/
  calls : List Event
  log : List Event
  deriving DecidableEq

def Call.handled : Call K → Bool
  | .submit _ _ | .tick => true
  | .stop | .close => false

def report (s : Controller K) (l : Label K) : Report :=
  let (outcome, t) := perform math config l s
  { handled := l.call.handled
    closed := s.closed
    outcome := outcome
    calls := t.log.take (t.log.length - s.log.length)
    log := t.log }

structure State (K : Type) where
  controller : Controller K := {}
  reports : List Report := []

def step (s : State K) (l : Label K) : Option (State K) :=
  some { controller := (perform math config l s.controller).2
         reports := report math config s.controller l :: s.reports }

def Stilled (log : List Event) : Prop :=
  ∃ newer raised older, log = newer ++ .stop raised :: older ∧ .velocity ∉ newer

/-- What a call should say: a stop is reported as done only if it was, and a call that raised has attempted
one. -/
structure Honest (r : Report) : Prop where
  decided : ∀ reason, r.outcome = .ok (some reason) → reason.stops = true → .stop none ∈ r.calls ∧ .velocity ∉ r.calls
  raised : r.handled = true → (∃ e, r.outcome = .error e) →
    Stilled r.log ∧ (r.closed = false → ∃ e ∈ r.calls, e.isStop = true)

/-- The tick decides on a stop, and an `Exception` of the backend is all that comes of it. -/
def Swallows (s : State K) (l : Label K) : Prop :=
  (match l.call with | .tick => True | _ => False) ∧ s.controller.closed = false ∧
    ∃ taken after, decided math config l.answers s.controller = (.ok taken, after) ∧
      taken.decision.reason.stops = true ∧
      ∃ text, l.answers.stop (.decided taken.decision.reason) = some (.exception text)

/-! ## One call -/

variable {math config} {answers : Answers K} {s t : Controller K}

omit [Field K] [LinearOrder K] in
theorem calls_apply (event : Event) (raised : Option Raised) (s : Controller K) : calls event raised s =
      (match raised with | some raised => .error raised | none => .ok (), { s with log := event :: s.log }) := by
  cases raised <;> rfl

omit [Field K] [LinearOrder K] in
theorem safeStop_apply (answers : Answers K) (reason : StopReason) (s : Controller K) :
    safeStop answers reason s = (if answers.stop reason = some .interrupt then .error .interrupt else .ok (),
        { s with log := .stop (answers.stop reason) :: s.log }) := by
  have called : backendStop answers reason s =
      (match answers.stop reason with | some raised => .error raised | none => .ok (),
        { s with log := .stop (answers.stop reason) :: s.log }) := calls_apply ..
  cases answer : answers.stop reason with
  | none =>
    rw [answer] at called
    exact tryCatch_ok called
  | some raised =>
    rw [answer] at called
    rw [safeStop, tryCatch_error called]
    cases raised <;> rfl

def Quiet (s t : Controller K) : Prop := t.log = s.log ∧ t.closed = s.closed

omit [Field K] [LinearOrder K] in
theorem quiet_refl (s : Controller K) : Quiet s s := ⟨rfl, rfl⟩

omit [Field K] [LinearOrder K] in
theorem quiet_trans {s t u : Controller K} (first : Quiet s t) (second : Quiet t u) : Quiet s u :=
  ⟨second.1.trans first.1, second.2.trans first.2⟩

theorem quiet_decide (feedback : Option (Feedback K)) : (decide math config answers feedback).Keeps Quiet := by
  cases feedback with
  | none => exact Effect.Keeps.throw quiet_refl _
  | some =>
    refine Effect.Keeps.bind (R := Quiet) quiet_trans (fun s => quiet_refl s) fun now =>
      Effect.Keeps.bind (R := Quiet) quiet_trans (fun s => quiet_refl s) fun taken => ?_
    obtain ⟨decision, trajectory⟩ := taken
    have returns : (do
        setTrajectory trajectory
        return decision : Control K (TrackingDecision K)).Keeps Quiet := fun s => quiet_refl s
    dsimp only
    split
    · exact Effect.Keeps.bind (R := Quiet) quiet_trans (Effect.Keeps.throw quiet_refl _) fun _ => returns
    · exact returns

theorem decided_frame (math : Math K) (config : TrackerConfig K) (answers : Answers K) (s : Controller K) :
    (decided math config answers s).2.log = .feedback :: s.log ∧
    (decided math config answers s).2.closed = s.closed := by
  have rest (feedback : Option (Feedback K)) : (do
      let decision ← decide math config answers feedback
      return ⟨feedback, decision⟩ : Control K (ControllerStep K)).Keeps Quiet :=
    Effect.Keeps.bind (R := Quiet) quiet_trans (quiet_decide feedback) fun _ => Effect.Keeps.pure quiet_refl _
  have read : backendFeedback answers s = (answers.feedback, { s with log := .feedback :: s.log }) := rfl
  rcases Effect.bind_cases (backendFeedback answers) (fun feedback => (do
      let decision ← decide math config answers feedback
      return ⟨feedback, decision⟩ : Control K (ControllerStep K))) s with
    ⟨e, t, ran, whole⟩ | ⟨feedback, t, ran, whole⟩
  · rw [decided, whole]
    rw [read] at ran
    obtain rfl := (Prod.mk.inj ran).2
    exact ⟨rfl, rfl⟩
  · rw [decided, whole]
    rw [read] at ran
    obtain rfl := (Prod.mk.inj ran).2
    exact rest feedback _

/-! ## Every call of a run -/

theorem calls_take {calls before : List Event} :
    (calls ++ before).take ((calls ++ before).length - before.length) = calls := by
  rw [length_append, Nat.add_sub_cancel, take_left]

theorem tick_ends (math : Math K) (config : TrackerConfig K) (answers : Answers K) (open_ : s.closed = false) :
    (∃ e t raised calls, tick math config answers s = (.error e, t) ∧
        t.log = (.stop raised :: calls) ++ s.log ∧ t.closed = false ∧
        ∀ taken after, decided math config answers s = (.ok taken, after) → taken.decision.reason.stops = true →
          answers.stop (.decided taken.decision.reason) = some .interrupt) ∨
    (∃ taken t after, tick math config answers s = (.ok taken, t) ∧
        decided math config answers s = (.ok taken, after) ∧ taken.decision.reason.stops = false ∧
        t.log = [.velocity, .feedback] ++ s.log ∧ t.closed = false) ∨
    (∃ taken t after, tick math config answers s = (.ok taken, t) ∧
        decided math config answers s = (.ok taken, after) ∧ taken.decision.reason.stops = true ∧
        answers.stop (.decided taken.decision.reason) ≠ some .interrupt ∧
        t.log = [.stop (answers.stop (.decided taken.decision.reason)), .feedback] ++ s.log ∧
        t.closed = false) := by
  obtain ⟨log, closed⟩ := decided_frame math config answers s
  have opened : requireOpen s = (.ok (), s) := by
    rw [requireOpen, open_]
    rfl
  have whole : tick math config answers s = _ := bind_ok opened
  -- What raises inside the `try` raises after one more stop.
  have handled {e : Raised} {u : Controller K} {calls : List Event}
      (ran : tickBody math config answers s = (.error e, u)) (made : u.log = calls ++ s.log)
      (same : u.closed = s.closed) (known : ∀ taken after, decided math config answers s = (.ok taken, after) →
        taken.decision.reason.stops = true →
        answers.stop (.decided taken.decision.reason) = some .interrupt) :
      ∃ e t raised calls, tick math config answers s = (.error e, t) ∧
        t.log = (.stop raised :: calls) ++ s.log ∧ t.closed = false ∧
        ∀ taken after, decided math config answers s = (.ok taken, after) → taken.decision.reason.stops = true →
          answers.stop (.decided taken.decision.reason) = some .interrupt := by
    have stopped := safeStop_apply answers .controllerException u
    rw [whole, tryCatch_error ran]
    split at stopped
    · exact ⟨_, _, _, calls, bind_error stopped, by rw [made]; rfl, same.trans open_, known⟩
    · exact ⟨_, _, _, calls, bind_ok stopped, by rw [made]; rfl, same.trans open_, known⟩
  rcases ran : decided math config answers s with ⟨e | taken, u⟩
  · rw [ran] at log closed
    refine .inl (ran ▸ handled (bind_error ran) (show _ = [.feedback] ++ s.log from log) closed ?_)
    intro taken after returned
    cases ran.symm.trans returned
  rw [ran] at log closed
  have body : tickBody math config answers s = (if taken.decision.reason.stops then
          safeStop answers (.decided taken.decision.reason) >>= fun _ => pure taken
        else calls .velocity answers.velocity >>= fun _ => pure taken : Control K _) u :=
    bind_ok ran
  cases stops : taken.decision.reason.stops with
  | false =>
    rw [stops, if_neg Bool.false_ne_true] at body
    cases answer : answers.velocity with
    | some e =>
      have sent : calls .velocity answers.velocity u =
          (.error e, { u with log := .velocity :: u.log }) := by rw [answer, calls]
      refine .inl (ran ▸ handled (body.trans (bind_error sent))
        (show _ = [.velocity, .feedback] ++ s.log by rw [log]; rfl) closed ?_)
      intro other after returned moves
      obtain rfl := Except.ok.inj (Prod.mk.inj (ran.symm.trans returned)).1
      cases stops.symm.trans moves
    | none =>
      have sent : calls .velocity answers.velocity u =
          (.ok (), { u with log := .velocity :: u.log }) := by rw [answer, calls]
      exact .inr (.inl ⟨taken, _, u, whole.trans (tryCatch_ok (body.trans (bind_ok sent))),
        rfl, stops, by rw [log]; rfl, closed.trans open_⟩)
  | true =>
    rw [stops, if_pos rfl] at body
    have stopped := safeStop_apply answers (.decided taken.decision.reason) u
    by_cases interrupted : answers.stop (.decided taken.decision.reason) = some .interrupt
    · rw [if_pos interrupted] at stopped
      refine .inl (ran ▸ handled (body.trans (bind_error stopped))
        (show _ = [.stop _, .feedback] ++ s.log by rw [log]; rfl) closed ?_)
      intro other after returned _
      obtain rfl := Except.ok.inj (Prod.mk.inj (ran.symm.trans returned)).1
      exact interrupted
    · rw [if_neg interrupted] at stopped
      exact .inr (.inr ⟨taken, _, u, whole.trans (tryCatch_ok (body.trans (bind_ok stopped))),
        rfl, stops, interrupted, by rw [log]; rfl, closed.trans open_⟩)

def Inv (s : Controller K) : Prop := s.closed = true → Stilled s.log

omit [Field K] [LinearOrder K] in
theorem stilled_stop {raised} {older} (newer : List Event) (quiet : .velocity ∉ newer) :
    Stilled (newer ++ .stop raised :: older) := ⟨newer, raised, older, rfl, quiet⟩

omit [Field K] [LinearOrder K] in
theorem submit_ends (answers : Answers K) (output : Output K) (capturePose : Option (Pose2D K)) (open_ : s.closed = false) :
    (∃ e t raised, submit answers output capturePose s = (.error e, t) ∧
        t.log = [.stop raised] ++ s.log ∧ t.closed = false) ∨
    ∃ trajectory t, submit answers output capturePose s = (.ok trajectory, t) ∧ t.log = s.log ∧ t.closed = false := by
  have opened : requireOpen s = (.ok (), s) := by
    rw [requireOpen, open_]
    rfl
  have whole : submit answers output capturePose s = _ := bind_ok opened
  cases parsed : parseLightnav0Output output capturePose answers.now with
  | error e =>
    have tried : (fun s => (parseLightnav0Output output capturePose answers.now, s) :
        Control K (LightNav0Trajectory K)) s = (.error e, s) := by rw [parsed]
    have stopped := safeStop_apply answers .invalidModelOutput s
    rw [whole]
    split at stopped
    · exact .inl ⟨_, _, _, bind_error ((tryCatch_error tried).trans (bind_error stopped)), rfl, open_⟩
    · exact .inl ⟨_, _, _, bind_error ((tryCatch_error tried).trans (bind_ok stopped)), rfl, open_⟩
  | ok trajectory =>
    have tried : (fun s => (parseLightnav0Output output capturePose answers.now, s) :
        Control K (LightNav0Trajectory K)) s = (.ok trajectory, s) := by rw [parsed]
    exact .inr ⟨trajectory, _, whole.trans (bind_ok (tryCatch_ok tried)), rfl, open_⟩

omit [Field K] [LinearOrder K] in
theorem stop_ends (answers : Answers K) (reason : StopReason) (s : Controller K) :
    ∃ outcome t, stop answers reason s = (outcome, t) ∧
      t.log = .stop (answers.stop reason) :: s.log ∧ t.closed = s.closed :=
  ⟨_, _, calls_apply _ _ { s with trajectory := none }, rfl, rfl⟩

omit [Field K] [LinearOrder K] in
theorem closing_ends (answers : Answers K) (s : Controller K) :
    ∃ outcome t, closing answers s = (outcome, t) ∧ t.log = .close :: s.log ∧ t.closed = true :=
  ⟨_, _, calls_apply _ _ { s with closed := true }, rfl, rfl⟩

omit [Field K] [LinearOrder K] in
theorem close_ends (answers : Answers K) (open_ : s.closed = false) :
    ∃ outcome t raised, close answers s = (outcome, t) ∧
      t.log = [.close, .stop raised] ++ s.log ∧ t.closed = true := by
  obtain ⟨outcome, u, stopped, log, _⟩ := stop_ends answers .close s
  obtain ⟨outcome', t, closed, log', shut⟩ := closing_ends answers u
  have made : t.log = [.close, .stop (answers.stop .close)] ++ s.log := by
    rw [log', log]
    rfl
  have whole : close answers s = (do
      tryCatch (stop answers .close) fun error => do
        closing answers
        throw error
      closing answers : Control K Unit) s := by rw [close, open_]; rfl
  rw [whole]
  cases outcome with
  | ok => exact ⟨outcome', t, _, (bind_ok (tryCatch_ok stopped)).trans closed, made, shut⟩
  | error e =>
    have tried := @Effect.tryCatch_error _ _ _ _
      (fun error => (do closing answers; throw error : Control K Unit)) _ _ _ stopped
    cases outcome' with
    | ok => exact ⟨.error e, t, _, bind_error (tried.trans (bind_ok closed)), made, shut⟩
    | error e' => exact ⟨.error e', t, _, bind_error (tried.trans (bind_error closed)), made, shut⟩
variable {l : Label K} {r : Report}

theorem report_calls {outcome : Except Raised (Option Reason)} (calls : List Event)
    (ran : perform math config l s = (outcome, t)) (log : t.log = calls ++ s.log) :
    report math config s l =
      { handled := l.call.handled, closed := s.closed, outcome, calls, log := calls ++ s.log } := by
  rw [report, ran]
  dsimp only
  rw [log, calls_take]

theorem honest_plain (plain : r.outcome = .ok none ∨ r.handled = false ∧ ∃ e, r.outcome = .error e) : Honest r := by
  refine ⟨fun reason returned _ => ?_, fun handled raised => ?_⟩
  · rcases plain with same | ⟨_, e, same⟩ <;> cases same.symm.trans returned
  · rcases plain with same | ⟨other, _⟩
    · obtain ⟨e, raised⟩ := raised
      cases same.symm.trans raised
    · cases other.symm.trans handled

theorem honest_raised {e} (raised : r.outcome = .error e) (stilled : Stilled r.log)
    (stopped : r.closed = false → ∃ e ∈ r.calls, e.isStop = true) : Honest r :=
  ⟨fun _ returned _ => (nomatch raised.symm.trans returned), fun _ _ => ⟨stilled, stopped⟩⟩

theorem closed_report (inv : Inv s) (shut : s.closed = true) (handled : l.call.handled = true) :
    Honest (report math config s l) ∧ Inv (perform math config l s).2 := by
  obtain ⟨call, answers⟩ := l
  have refused : requireOpen s = (.error (.exception "LightNav0Controller is closed"), s) := by
    rw [requireOpen, shut]
    rfl
  have ran : perform math config ⟨call, answers⟩ s = (.error (.exception "LightNav0Controller is closed"), s) := by
    cases call with
    | submit | tick => exact bind_error (bind_error refused)
    | stop | close => cases handled
  have same : s.log = [] ++ s.log := rfl
  rw [report_calls [] ran same, ran]
  exact ⟨honest_raised rfl (inv shut) fun open_ => (nomatch shut.symm.trans open_), inv⟩

/-- **One call.** It is honest exactly if it does not swallow, and it keeps the invariant. -/
theorem report_honest (math : Math K) (config : TrackerConfig K) (inv : Inv s) (l : Label K) (reports : List Report) :
    (Honest (report math config s l) ↔ ¬ Swallows math config ⟨s, reports⟩ l) ∧ Inv (perform math config l s).2 := by
  obtain ⟨call, answers⟩ := l
  have honestly (other : ¬ Swallows math config ⟨s, reports⟩ ⟨call, answers⟩)
      (both : Honest (report math config s ⟨call, answers⟩) ∧ Inv (perform math config ⟨call, answers⟩ s).2) :
      (Honest (report math config s ⟨call, answers⟩) ↔ ¬ Swallows math config ⟨s, reports⟩ ⟨call, answers⟩) ∧
      Inv (perform math config ⟨call, answers⟩ s).2 :=
    ⟨⟨fun _ => other, fun _ => both.1⟩, both.2⟩
  cases call with
  | stop =>
    refine honestly (fun swallows => swallows.1) ?_
    obtain ⟨outcome, t, ran, log, _⟩ := stop_ends answers .caller s
    have stilled : Stilled t.log := log ▸ stilled_stop [] (by simp)
    cases outcome with
    | ok =>
      have whole : perform math config ⟨.stop, answers⟩ s = (.ok none, t) := bind_ok ran
      rw [report_calls [_] whole log, whole]
      exact ⟨honest_plain (.inl rfl), fun _ => stilled⟩
    | error e =>
      have whole : perform math config ⟨.stop, answers⟩ s = (.error e, t) := bind_error ran
      rw [report_calls [_] whole log, whole]
      exact ⟨honest_plain (.inr ⟨rfl, e, rfl⟩), fun _ => stilled⟩
  | close =>
    refine honestly (fun swallows => swallows.1) ?_
    cases shut : s.closed with
    | true =>
      have ran : close answers s = (.ok (), s) := by rw [close, shut]; rfl
      have whole : perform math config ⟨.close, answers⟩ s = (.ok none, s) := bind_ok ran
      rw [report_calls [] whole rfl, whole]
      exact ⟨honest_plain (.inl rfl), inv⟩
    | false =>
      obtain ⟨outcome, t, raised, ran, log, _⟩ := close_ends answers shut
      have stilled : Stilled t.log := log ▸ stilled_stop [.close] (by simp)
      cases outcome with
      | ok =>
        have whole : perform math config ⟨.close, answers⟩ s = (.ok none, t) := bind_ok ran
        rw [report_calls _ whole log, whole]
        exact ⟨honest_plain (.inl rfl), fun _ => stilled⟩
      | error e =>
        have whole : perform math config ⟨.close, answers⟩ s = (.error e, t) := bind_error ran
        rw [report_calls _ whole log, whole]
        exact ⟨honest_plain (.inr ⟨rfl, e, rfl⟩), fun _ => stilled⟩
  | submit output capturePose =>
    refine honestly (fun swallows => swallows.1) ?_
    cases shut : s.closed with
    | true => exact closed_report inv shut rfl
    | false =>
      rcases submit_ends answers output capturePose shut with
        ⟨e, t, raised, ran, log, _⟩ | ⟨trajectory, t, ran, log, open_⟩
      · have stilled : Stilled t.log := log ▸ stilled_stop [] (by simp)
        have whole : perform math config ⟨.submit output capturePose, answers⟩ s = (.error e, t) :=
          bind_error ran
        rw [report_calls _ whole log, whole, ← log]
        exact ⟨honest_raised rfl stilled fun _ => ⟨_, mem_cons_self, rfl⟩, fun _ => stilled⟩
      · have whole : perform math config ⟨.submit output capturePose, answers⟩ s = (.ok none, t) :=
          bind_ok ran
        rw [report_calls [] whole log, whole]
        exact ⟨honest_plain (.inl rfl), fun shut => (by cases open_.symm.trans shut)⟩
  | tick =>
    cases shut : s.closed with
    | true =>
      exact honestly (fun swallows => (by cases shut.symm.trans swallows.2.1)) (closed_report inv shut rfl)
    | false =>
      rcases tick_ends math config answers shut with
        ⟨e, t, raised, calls, ran, log, open_, known⟩ | ⟨taken, t, after, ran, made, goes, log, open_⟩ |
        ⟨taken, t, after, ran, made, stops, whole_, log, open_⟩
      · have whole : perform math config ⟨.tick, answers⟩ s = (.error e, t) := bind_error ran
        refine honestly ?_ ?_
        · rintro ⟨_, _, taken, after, made, stops, text, raised⟩
          cases (known taken after made stops).symm.trans raised
        · have stilled : Stilled t.log := log ▸ stilled_stop [] (by simp)
          rw [report_calls _ whole log, whole, ← log]
          exact ⟨honest_raised rfl stilled fun _ => ⟨_, mem_cons_self, rfl⟩, fun _ => stilled⟩
      · have whole : perform math config ⟨.tick, answers⟩ s = (.ok (some taken.decision.reason), t) := bind_ok ran
        refine honestly ?_ ⟨?_, whole ▸ fun shut => (by cases open_.symm.trans shut)⟩
        · rintro ⟨_, _, other, _, returned, stops, _⟩
          obtain rfl := Except.ok.inj (Prod.mk.inj (made.symm.trans returned)).1
          cases goes.symm.trans stops
        · rw [report_calls _ whole log]
          refine ⟨fun reason returned stops => ?_, fun _ raised => ?_⟩
          · obtain rfl := Option.some.inj (Except.ok.inj returned)
            cases goes.symm.trans stops
          · obtain ⟨e, raised⟩ := raised
            cases raised
      · have whole : perform math config ⟨.tick, answers⟩ s = (.ok (some taken.decision.reason), t) := bind_ok ran
        refine ⟨?_, whole ▸ fun shut => (by cases open_.symm.trans shut)⟩
        rw [report_calls _ whole log]
        constructor
        · rintro honest ⟨_, _, other, _, returned, _, text, raised⟩
          obtain rfl := Except.ok.inj (Prod.mk.inj (made.symm.trans returned)).1
          have done := (honest.decided _ rfl stops).1
          rw [raised] at done
          simp at done
        · intro safe
          have done : answers.stop (.decided taken.decision.reason) = none := by
            rcases answer : answers.stop (.decided taken.decision.reason) with _ | (text | _)
            · rfl
            · exact (safe ⟨trivial, shut, taken, after, made, stops, text, answer⟩).elim
            · exact (whole_ answer).elim
          rw [done]
          refine ⟨fun reason returned _ => ⟨mem_cons_self, by simp⟩, fun _ raised => ?_⟩
          obtain ⟨e, raised⟩ := raised
          cases raised

theorem reports_iff {ls} {u v} (inv : Inv u.controller) (ran : run (step math config) u ls = some v) :
    (∀ r ∈ v.reports, Honest r) ↔ (∀ r ∈ u.reports, Honest r) ∧
      Along (step math config) (fun s l => ¬ Swallows math config s l) u ls := by
  induction ls generalizing u with
  | nil =>
    obtain rfl := Option.some.inj ran
    exact (and_iff_left trivial).symm
  | cons l ls ih =>
    obtain ⟨w, next, rest⟩ := run_cons_eq_some.mp ran
    obtain rfl := Option.some.inj next
    obtain ⟨here, kept⟩ := report_honest math config inv l u.reports
    rw [ih kept rest, forall_mem_cons, here]
    constructor
    · rintro ⟨⟨safe, old⟩, along⟩
      exact ⟨old, along_cons safe rfl along⟩
    · rintro ⟨old, safe, along⟩
      exact ⟨⟨safe, old⟩, along _ rfl⟩

/-- **Every call of a run is honest exactly if no tick swallows** the `Exception` of a stop that it
decided on. -/
theorem stops_reported_iff {ls : List (Label K)} {t : State K} (math : Math K) (config : TrackerConfig K)
    (ran : run (step math config) {} ls = some t) :
    (∀ r ∈ t.reports, Honest r) ↔ Along (step math config) (fun s l => ¬ Swallows math config s l) {} ls := by
  have fresh : Inv ({} : Controller K) := fun shut => by cases shut
  exact (reports_iff fresh ran).trans (and_iff_right (by simp))

end

/-! ## The stop of the teleop backend -/

/-- What the robot's `stop` reports, where it returns a mapping. -/
structure StopReport where
  stopConfirmed : Bool
  stationaryConfirmed : Bool
  physicalOutcome : String

def StopReport.unknown : StopReport := ⟨false, false, "unknown"⟩

def StopReport.confirmed (report : StopReport) : Bool :=
  report.stopConfirmed && report.stationaryConfirmed && report.physicalOutcome = "stopped"

/-- `XLeRobotTeleopBackend`, with what its `stop` reads. -/
structure Teleop where
  closed : Bool := false
  lastStopReport : Option StopReport := none

/-- `XLeRobotTeleopBackend.stop`; the robot raises, or returns a mapping or something else. -/
def teleopStop (robot : Except Raised (Option StopReport)) (backend : Teleop) : Option Raised × Teleop :=
  if backend.closed then (none, backend)
  else match robot with
    | .error raised => (some raised, { backend with lastStopReport := some .unknown })
    | .ok report =>
      let report := report.getD .unknown
      (if report.confirmed then none else some (.exception "XLeRobot stop was not confirmed"),
        { backend with lastStopReport := some report })

/-! ## A stop that was not confirmed -/

/-- `math` where every angle is 0. -/
def level : Math ℚ where
  sin _ := 0
  cos _ := 1
  atan2 _ _ := 0
  hypot x y := max |x| |y|
  pi := 3

def settings : TrackerConfig ℚ where
  maxLinearVelocity := 3 / 10
  maxAngularVelocity := 6 / 10
  positionGain := 2
  headingGain := 2
  waypointPrefix := 3
  waypointTolerance := 1 / 20
  yawTolerance := 2 / 25
  trajectoryTimeout := 1 / 2
  feedbackTimeout := 1 / 2
  driveMode := .differential
  positive := by decide

def collided (robot : StopReport) : Answers ℚ where
  feedback := .ok (some { pose := ⟨0, 0, 0⟩, observedAtS := 0, collision := true })
  now := .ok 0
  overflows := false
  velocity := none
  stop _ := (teleopStop (.ok (some robot)) {}).1
  close := none

theorem stops_reported_iff_confirmed :
    Honest (report level settings {} ⟨.tick, collided ⟨true, true, "stopped"⟩⟩) := by
  refine (@stops_reported_iff ℚ _ _ [⟨.tick, collided ⟨true, true, "stopped"⟩⟩] _ level settings rfl).mpr
    (along_cons ?_ rfl trivial) _ (mem_singleton_self _)
  rintro ⟨_, _, _, _, _, _, text, raised⟩
  cases raised

/-- The tick returns its decision to stop; the one stop that it asked for raised. -/
theorem stop_swallowed :
    (run (step level settings) {} [⟨.tick, collided ⟨false, false, "unknown"⟩⟩]).map State.reports =
      some [{ handled := true
              closed := false
              outcome := .ok (some .collision)
              calls := [.stop (some (.exception "XLeRobot stop was not confirmed")), .feedback]
              log := [.stop (some (.exception "XLeRobot stop was not confirmed")), .feedback] }] := by
  decide +kernel

end EmbodiRun.Xlerobot.LightNav
