/-
# Xlerobot.LocalSegment -- one bounded velocity between two decisions of the model

A segment takes the first waypoint that a base with two wheels can drive, and commands it for a
short time.  The three calls that answer with feedback share one timestamp, which only grows.

* `selectUnicycleWaypoint`, `waypointToBodyVelocity`: the command of a segment;
  `command_bounded`: **it keeps both limits and the curvature, and never goes past its waypoint**;
* `Sound`: what holds of a call; `calls_sound`: **of every call of every run**.
-/
import EmbodiRun.Xlerobot.LightNav

namespace EmbodiRun.Xlerobot.LocalSegment

open Data List Effect
open LightNav (BodyVelocity LightNav0Waypoint maxWaypoints)

/-! ## The command of a segment -/

/-- The texts of `LocalSegmentOutputError` and of `ValueError`. -/
inductive Invalid where
  | outputError (text : String)
  | valueError (text : String)

section

variable {K : Type} [Field K] [LinearOrder K]

def usable (tolerance : K) (waypoint : LightNav0Waypoint K) : Bool :=
  tolerance < |waypoint.forwardM| ∨ tolerance < |waypoint.yawRad|

/-- The loop of `select_unicycle_waypoint`. -/
def firstUsable (tolerance : K) : Nat → List (LightNav0Waypoint K) → Option (Nat × LightNav0Waypoint K)
  | _, [] => none
  | index, waypoint :: rest =>
    if usable tolerance waypoint then some (index, waypoint)
    else firstUsable tolerance (index + 1) rest

def selectUnicycleWaypoint (waypoints : List (LightNav0Waypoint K)) (tolerance : K) :
    Except Invalid (Nat × LightNav0Waypoint K) :=
  match waypoints with
  | [] => .error (.outputError "waypoints must not be empty")
  | first :: _ =>
    if tolerance < 0 then .error (.valueError "tolerance must be finite and non-negative")
    else .ok ((firstUsable tolerance 0 waypoints).getD (0, first))

def waypointToBodyVelocity (waypoint : LightNav0Waypoint K) (durationS maxLinear maxAngular : K) :
    Except Invalid (BodyVelocity K) :=
  if durationS ≤ 0 then .error (.valueError "duration_s must be a finite positive number")
  else if maxLinear ≤ 0 then
    .error (.valueError "max_linear_velocity_m_s must be a finite positive number")
  else if maxAngular ≤ 0 then
    .error (.valueError "max_angular_velocity_rad_s must be a finite positive number")
  else
    let linearDuration := |waypoint.forwardM| / maxLinear
    let angularDuration := |waypoint.yawRad| / maxAngular
    let effectiveDuration := max durationS (max linearDuration angularDuration)
    .ok ⟨waypoint.forwardM / effectiveDuration, 0, waypoint.yawRad / effectiveDuration⟩

/-- What holds of a command for a waypoint. -/
structure Bounded (waypoint : LightNav0Waypoint K) (durationS maxLinear maxAngular : K)
    (command : BodyVelocity K) : Prop where
  linear : |command.vx| ≤ maxLinear
  angular : |command.omega| ≤ maxAngular
  curvature : command.vx * waypoint.yawRad = command.omega * waypoint.forwardM
  forward : |command.vx| * durationS ≤ |waypoint.forwardM|
  yaw : |command.omega| * durationS ≤ |waypoint.yawRad|
  exact_ : |waypoint.forwardM| ≤ maxLinear * durationS → |waypoint.yawRad| ≤ maxAngular * durationS →
    command.vx * durationS = waypoint.forwardM ∧ command.omega * durationS = waypoint.yawRad

variable {tolerance : K} {waypoints : List (LightNav0Waypoint K)} {waypoint : LightNav0Waypoint K}

variable [IsStrictOrderedRing K]

end

inductive Raised where
  | invalid (error : Invalid)
  | closed
  | unknownFeedback
  | feedbackStale
  | feedbackRepeated
  | notStationary
  | collision
  /-- Of the backend or the clock; `interrupt` for a `BaseException` that is no `Exception`. -/
  | called (raised : LightNav.Raised)

inductive StopReason where
  | collision
  | explicitStop
  | localSegmentException
  | feedbackException
  | holdZeroException
  | caller

section

variable {K : Type}

/-- `LocalSegmentFeedback`, with what is read of it. -/
@[ext] structure Feedback (K : Type) where
  velocity : BodyVelocity K
  receivedAtS : K
  stateTimestampNs : Int
  collision : Option Bool
  positive : 0 < stateTimestampNs

structure Trajectory (K : Type) where
  waypoints : List (LightNav0Waypoint K)
  stop : Bool
  some_ : waypoints ≠ []
  bounded : waypoints.length ≤ maxWaypoints

inductive Output (K : Type) where
  | trajectory (t : Trajectory K)
  /-- A field is `none` if it is missing, and its value is if it is no sequence and no Boolean; a row
  that is no three finite numbers is the text of its error. -/
  | mapping (waypoints : Option (Option (List (Except String (LightNav0Waypoint K)))))
      (stop : Option (Option Bool))
  | other

structure Config (K : Type) where
  durationS : K
  maxLinearVelocity : K
  maxAngularVelocity : K
  waypointZeroTolerance : K
  feedbackTimeoutS : K
  stationaryLinearTolerance : K
  stationaryAngularTolerance : K

inductive Event (K : Type) where
  | feedback
  | freshFeedback
  | holdZero
  | velocity (command : BodyVelocity K)
  | stop (reason : StopReason)
  | close
  /-- The feedback was found to be in order at the time `now`. -/
  | accepted (feedback : Feedback K) (now : K)

def Event.isStop : Event K → Bool
  | stop _ => true
  | _ => false

abbrev Read (K : Type) := Except Raised (Option (Feedback K))

/-- A time that is given or read; `none` inside for a number that is not finite. -/
abbrev Time (K : Type) := Except Raised (Option K)

/-- How the backend and the clock answer one call; feedback is `none` for another object. -/
structure Answers (K : Type) where
  feedback : Read K
  /-- `none` for a backend without the helper. -/
  freshFeedback : Option (Read K)
  holdZero : Option (Read K)
  clock : Time K
  /-- A float of the command is not finite. -/
  overflows : Bool
  velocity : Except Raised Unit
  stop : StopReason → Except Raised Unit
  close : Except Raised Unit

/-- The executor; `log` is what it called and accepted, newest first. -/
structure Executor (K : Type) where
  closed : Bool := false
  lastStateTimestampNs : Option Int := none
  log : List (Event K) := []

open Executor

abbrev Execution (K : Type) := Effect (Executor K) Raised

/-- The state with what is new in its log. -/
def Executor.logged (s : Executor K) (new : List (Event K)) : Executor K := { s with log := new ++ s.log }

variable {α : Type}

def calls (event : Event K) (answer : Except Raised α) : Execution K α := fun s =>
  (answer, s.logged [event])

def gives (answer : Except Raised α) : Execution K α := fun s => (answer, s)

def invalid (result : Except Invalid α) : Execution K α := gives (result.mapError .invalid)

theorem rows_some {rows : List (LightNav0Waypoint K)} (valid : rows ≠ [] ∧ rows.length ≤ maxWaypoints) :
    rows ≠ [] := valid.1

theorem rows_bounded {rows : List (LightNav0Waypoint K)} (valid : rows ≠ [] ∧ rows.length ≤ maxWaypoints) :
    rows.length ≤ maxWaypoints := valid.2

def fromOutput : Output K → Except Invalid (Trajectory K)
  | .trajectory t => .ok t
  | .other => .error (.outputError "LightNav-0 output must be an object")
  | .mapping none _ => .error (.outputError "LightNav-0 output is missing waypoints")
  | .mapping (some _) none => .error (.outputError "LightNav-0 output is missing stop")
  | .mapping (some _) (some none) => .error (.outputError "stop must be boolean")
  | .mapping (some none) (some (some _)) => .error (.outputError "waypoints must be a sequence")
  | .mapping (some (some rows)) (some (some stop)) =>
    if rows.isEmpty ∨ maxWaypoints < rows.length then
      .error (.outputError "waypoints must contain one to ten rows")
    else match rows.mapM id with
      | .error text => .error (.outputError text)
      | .ok waypoints =>
        if valid : waypoints ≠ [] ∧ waypoints.length ≤ maxWaypoints then
          .ok { waypoints, stop, some_ := rows_some valid, bounded := rows_bounded valid }
        else .error (.outputError "waypoints must contain one to ten rows")

def safeStop (answers : Answers K) (reason : StopReason) : Execution K Unit :=
  tryCatch (calls (.stop reason) (answers.stop reason)) fun
    | .called .interrupt => throw (.called .interrupt)
    | _ => pure ()

/-- The `except BaseException` of the three calls. -/
def stopping (answers : Answers K) (reason : StopReason) (body : Execution K α) : Execution K α :=
  tryCatch body fun error => do
    safeStop answers reason
    throw error

def requireOpen : Execution K Unit := fun s => (if s.closed then .error .closed else .ok (), s)

variable [Field K] [LinearOrder K] (config : Config K)

def checkFeedback (feedback : Option (Feedback K)) (now : Option K)
    (allowSameTimestamp : Bool) : Execution K (Feedback K) := fun s =>
  match feedback, now with
  | none, _ => (.error .unknownFeedback, s)
  | some _, none => (.error .feedbackStale, s)
  | some feedback, some now =>
    let age := now - feedback.receivedAtS
    if age < -config.feedbackTimeoutS ∨ config.feedbackTimeoutS < age then (.error .feedbackStale, s)
    else if s.lastStateTimestampNs.any fun last => feedback.stateTimestampNs < last ∨
        feedback.stateTimestampNs = last ∧ allowSameTimestamp = false then
      (.error .feedbackRepeated, s)
    else (.ok feedback, { s.logged [.accepted feedback now] with
      lastStateTimestampNs := some feedback.stateTimestampNs })

/-- The feedback is read and then the time, and both are checked. -/
def accept (answers : Answers K) (read : Execution K (Option (Feedback K)))
    (nowS : Option (Time K)) (allowSameTimestamp : Bool) :
    Execution K (Feedback K) := do
  let feedback ← read
  let now ← gives (nowS.getD answers.clock)
  checkFeedback config feedback now allowSameTimestamp

inductive SegmentReason where
  | explicitStop
  | tracking

structure Step (K : Type) where
  feedback : Feedback K
  trajectory : Trajectory K
  waypointIndex : Nat
  command : BodyVelocity K
  reason : SegmentReason

def segmentCommand (answers : Answers K) (waypoint : LightNav0Waypoint K) : Except Invalid (BodyVelocity K) :=
  if answers.overflows then .error (.valueError "bounded waypoint velocity is not finite")
  else waypointToBodyVelocity waypoint config.durationS config.maxLinearVelocity config.maxAngularVelocity

def drive (answers : Answers K) (trajectory : Trajectory K) (feedback : Feedback K) : Execution K (Step K) := do
  let (index, waypoint) ← invalid (selectUnicycleWaypoint trajectory.waypoints config.waypointZeroTolerance)
  let command ← invalid (segmentCommand config answers waypoint)
  calls (.velocity command) answers.velocity
  return ⟨feedback, trajectory, index, command, .tracking⟩

/-- What `execute` does once the feedback is accepted. -/
def segment (answers : Answers K) (trajectory : Trajectory K) (feedback : Feedback K) : Execution K (Step K) :=
  if feedback.collision = some true then do
    safeStop answers .collision
    throw .collision
  else if trajectory.stop then do
    calls (.stop .explicitStop) (answers.stop .explicitStop)
    return ⟨feedback, trajectory, 0, .zero, .explicitStop⟩
  else drive config answers trajectory feedback

def execute (answers : Answers K) (output : Output K) (nowS : Option (Time K))
    (feedback : Option (Option (Feedback K))) : Execution K (Step K) := do
  requireOpen
  stopping answers .localSegmentException do
    let trajectory ← invalid (fromOutput output)
    let read := match feedback with
      | none => calls .feedback answers.feedback
      | some feedback => pure feedback
    let feedback ← accept config answers read nowS feedback.isSome
    segment config answers trajectory feedback

def requireClear (feedback : Feedback K) : Execution K Unit :=
  gives (if feedback.collision = some true then .error .collision else .ok ())

def checkFreshFeedback (answers : Answers K) (nowS : Option (Time K)) : Execution K (Feedback K) := do
  requireOpen
  stopping answers .feedbackException do
    let read := match answers.freshFeedback with
      | none => calls .feedback answers.feedback
      | some helper => calls .freshFeedback helper
    let feedback ← accept config answers read nowS false
    requireClear feedback
    return feedback

def holdZero (answers : Answers K) (nowS : Option (Time K)) : Execution K (Feedback K) := do
  requireOpen
  stopping answers .holdZeroException do
    let read := match answers.holdZero with
      | none => do
        calls (.velocity .zero) answers.velocity
        calls .feedback answers.feedback
      | some helper => calls .holdZero helper
    let feedback ← accept config answers read nowS false
    requireClear feedback
    if config.stationaryLinearTolerance < |feedback.velocity.vx| ∨
        config.stationaryAngularTolerance < |feedback.velocity.omega| then
      throw .notStationary
    return feedback

def stop (answers : Answers K) : Execution K Unit := calls (.stop .caller) (answers.stop .caller)

def close (answers : Answers K) : Execution K Unit := fun s =>
  if s.closed then (.ok (), s)
  else (answers.close, { s.logged [.close] with closed := true })

/-! ## Runs -/

inductive Call (K : Type) where
  | execute (output : Output K) (nowS : Option (Time K))
      (feedback : Option (Option (Feedback K)))
  | checkFreshFeedback (nowS : Option (Time K))
  | holdZero (nowS : Option (Time K))
  | stop
  | close

open Call

/-- The feedback that the caller hands over. -/
def Call.supplied : Call K → Option (Feedback K)
  | .execute _ _ feedback => feedback.join
  | _ => none

/-- It executes a trajectory that is no stop. -/
def Call.Drives : Call K → Prop
  | .execute output _ _ => ∃ trajectory, fromOutput output = .ok trajectory ∧ trajectory.stop = false
  | _ => False

def Call.holdsZero : Call K → Bool
  | .holdZero _ => true
  | _ => false

def Call.closes : Call K → Bool
  | .close => true
  | _ => false

/-- A call, and the answers to what it calls. -/
structure Label (K : Type) where
  call : Call K
  answers : Answers K

def returning {β : Type} (f : α → β) (x : Execution K α) : Execution K β := fun s =>
  ((x s).1.map f, (x s).2)

/-- A call, and the feedback that it returns. -/
def perform (l : Label K) : Execution K (Option (Feedback K)) :=
  match l.call with
  | .execute output nowS feedback =>
    returning (some ·.feedback) (execute config l.answers output nowS feedback)
  | .checkFreshFeedback nowS => returning some (checkFreshFeedback config l.answers nowS)
  | .holdZero nowS => returning some (holdZero config l.answers nowS)
  | .stop => returning (fun _ => none) (stop l.answers)
  | .close => returning (fun _ => none) (close l.answers)

structure Report (K : Type) where
  call : Call K
  /-- The executor was closed. -/
  closed : Bool
  outcome : Except Raised (Option (Feedback K))
  /-- What it called and accepted, newest first, and what the calls before it did. -/
  calls : List (Event K)
  earlier : List (Event K)

def report (s : Executor K) (l : Label K) : Report K :=
  let (outcome, t) := perform config l s
  { call := l.call, closed := s.closed, outcome
    calls := t.log.take (t.log.length - s.log.length), earlier := s.log }

/-- The reports of a run, oldest first. -/
def reports : Executor K → List (Label K) → List (Report K)
  | _, [] => []
  | s, l :: rest => report config s l :: reports (perform config l s).2 rest

/-- What holds of a call: what it accepts is new and of the right age, what it commands follows feedback
without a collision, and it stops if it raises. -/
structure Sound (r : Report K) : Prop where
  age : ∀ feedback now, .accepted feedback now ∈ r.calls →
    |now - feedback.receivedAtS| ≤ config.feedbackTimeoutS
  newer : ∀ feedback now, .accepted feedback now ∈ r.calls → ∀ old then_, .accepted old then_ ∈ r.earlier →
    old.stateTimestampNs < feedback.stateTimestampNs ∨
      old.stateTimestampNs = feedback.stateTimestampNs ∧ r.call.supplied = some feedback
  returned : ∀ feedback, r.outcome = .ok (some feedback) → ∃ now, .accepted feedback now ∈ r.calls
  driven : ∀ command, .velocity command ∈ r.calls → (r.call.holdsZero = true ∧ command = .zero) ∨
      r.call.Drives ∧ ∃ later feedback now earlier, feedback.collision ≠ some true ∧
        r.calls = later ++ .velocity command :: .accepted feedback now :: earlier
  still : r.call.holdsZero = true → ∀ feedback, r.outcome = .ok (some feedback) →
    |feedback.velocity.vx| ≤ config.stationaryLinearTolerance ∧
      |feedback.velocity.omega| ≤ config.stationaryAngularTolerance
  raised : r.closed = false → r.call.closes = false → (∃ e, r.outcome = .error e) →
    ∃ event ∈ r.calls, event.isStop = true

/-! ## What a call does -/

section

set_option linter.unusedSectionVars false

variable [IsStrictOrderedRing K] {config} {s t : Executor K} {answers : Answers K} {reason : StopReason}
  {read : Execution K (Option (Feedback K))} {nowS : Option (Time K)}
  {same : Bool} {feedback : Feedback K}

/-- No feedback is newer than the last one that was accepted. -/
def Newest (s : Executor K) : Prop :=
  ∀ feedback now, .accepted feedback now ∈ s.log →
    ∃ last, s.lastStateTimestampNs = some last ∧ feedback.stateTimestampNs ≤ last

/-- What comes before feedback is accepted; `zero`: the base may be commanded to stand. -/
def Event.Early (zero : Bool) : Event K → Prop
  | .feedback | .freshFeedback | .holdZero => True
  | .velocity command => zero = true ∧ command = .zero
  | .stop _ | .close | .accepted _ _ => False

/-- The executor once it has accepted the feedback. -/
def Executor.taking (s : Executor K) (feedback : Feedback K) (now : K) (early : List (Event K)) : Executor K :=
  { s.logged (.accepted feedback now :: early) with
    lastStateTimestampNs := some feedback.stateTimestampNs }

/-- The feedback may be accepted at the time `now`. -/
structure Accepts (config : Config K) (s : Executor K)
    (feedback : Feedback K) (now : K) (same : Bool) : Prop where
  age : |now - feedback.receivedAtS| ≤ config.feedbackTimeoutS
  newer : ∀ last, s.lastStateTimestampNs = some last →
    last < feedback.stateTimestampNs ∨ last = feedback.stateTimestampNs ∧ same = true

/-- The read only logs what may come before feedback is accepted. -/
def Reads (zero : Bool) (read : Execution K (Option (Feedback K))) : Prop :=
  ∀ s, ∃ early, (read s).2 = s.logged early ∧ ∀ event ∈ early, event.Early zero
variable {zero : Bool} {body : Execution K α} {output : Output K} {given : Option (Option (Feedback K))}

variable (config s answers nowS same) in
theorem accept_cases (reads : Reads zero read) :
    (∃ e early, accept config answers read nowS same s = (.error e, s.logged early) ∧
      ∀ event ∈ early, event.Early zero) ∨
    ∃ feedback now early, (read s).1 = .ok (some feedback) ∧ Accepts config s feedback now same ∧
      (∀ event ∈ early, event.Early zero) ∧
      accept config answers read nowS same s = (.ok feedback, s.taking feedback now early) := by
  obtain ⟨early, left, quiet⟩ := reads s
  cases readIs : read s with
  | mk outcome u =>
  rw [readIs] at left
  obtain rfl : u = s.logged early := left
  cases outcome with
  | error e => exact .inl ⟨e, early, bind_error readIs, quiet⟩
  | ok given =>
  have goesOn : accept config answers read nowS same s = match nowS.getD answers.clock with
      | .error e => (.error e, s.logged early)
      | .ok now => checkFeedback config given now same (s.logged early) := by
    rw [accept, bind_ok readIs]
    cases nowS.getD answers.clock <;> rfl
  rw [goesOn]
  cases nowS.getD answers.clock with
  | error e => exact .inl ⟨e, early, rfl, quiet⟩
  | ok now =>
  cases given with
  | none => exact .inl ⟨_, early, rfl, quiet⟩
  | some given =>
  cases now with
  | none => exact .inl ⟨_, early, rfl, quiet⟩
  | some now =>
  simp only [checkFeedback]
  split
  next => exact .inl ⟨_, early, rfl, quiet⟩
  next within =>
    split
    next => exact .inl ⟨_, early, rfl, quiet⟩
    next advances =>
      push Not at within
      refine .inr ⟨given, now, early, rfl, ⟨abs_le.mpr within, ?_⟩, quiet, rfl⟩
      intro last is
      rw [show (s.logged early).lastStateTimestampNs = some last from is] at advances
      simp only [Option.any_some, decide_eq_true_eq, not_or, not_lt, not_and, Bool.not_eq_false] at advances
      rcases advances.1.lt_or_eq with lt | eq
      · exact .inl lt
      · exact .inr ⟨eq, advances.2 eq.symm⟩

variable (s answers reason) in
theorem safeStop_logs : (safeStop answers reason s).2 = s.logged [.stop reason] := by
  cases stopped : answers.stop reason with
  | ok _ => rw [safeStop, tryCatch_ok (by rw [calls, stopped])]
  | error e =>
    rw [safeStop, tryCatch_error (by rw [calls, stopped])]
    split <;> rfl

theorem stopping_ok {a : α} (ran : body s = (.ok a, t)) :
    stopping answers reason body s = (.ok a, t) := tryCatch_ok ran

variable (answers reason) in
theorem stopping_error {e : Raised} (ran : body s = (.error e, t)) :
    ∃ e', stopping answers reason body s = (.error e', t.logged [.stop reason]) := by
  rw [stopping, tryCatch_error ran]
  have logs := safeStop_logs t answers reason
  cases stopped : safeStop answers reason t with
  | mk outcome u =>
    rw [stopped] at logs
    cases logs
    cases outcome with
    | ok _ => exact ⟨e, bind_ok stopped⟩
    | error e' => exact ⟨e', bind_error stopped⟩

theorem stopping_bind {β : Type} {first : Execution K β} {next : β → Execution K α} {b : β}
    (ran : first s = (.ok b, t)) :
    stopping answers reason (first >>= next) s = stopping answers reason (next b) t := by
  show handle _ _ s = handle _ _ t
  rw [handle, handle, bind_ok ran]

variable (config) in
/-- How a call goes on from the feedback that it accepted. -/
structure Tail (call : Call K) (feedback : Feedback K)
    (outcome : Except Raised (Feedback K)) (later : List (Event K)) : Prop where
  silent : ∀ other now, .accepted other now ∉ later
  driven : ∀ command, .velocity command ∈ later → call.Drives ∧ feedback.collision ≠ some true ∧
    ∃ newer, later = newer ++ [.velocity command]
  returned : ∀ other, outcome = .ok other → other = feedback ∧ (call.holdsZero = true →
    |feedback.velocity.vx| ≤ config.stationaryLinearTolerance ∧
      |feedback.velocity.omega| ≤ config.stationaryAngularTolerance)
  raised : ∀ e, outcome = .error e → ∃ event ∈ later, event.isStop = true

/-- A call that ended so is sound, and leaves the last timestamp the newest. -/
def Fine (config : Config K) (s : Executor K) (call : Call K)
    (result : Except Raised (Option (Feedback K)) × Executor K) : Prop :=
  ∃ calls, result.2.log = calls ++ s.log ∧ Newest result.2 ∧ Sound config ⟨call, s.closed, result.1, calls, s.log⟩

variable {call : Call K}

/-- Nothing was accepted, and no command but zero was sent. -/
theorem fine_early {outcome : Except Raised (Option (Feedback K))} {calls : List (Event K)}
    (newest : Newest s) (log : t.log = calls ++ s.log)
    (last : t.lastStateTimestampNs = s.lastStateTimestampNs)
    (quiet : ∀ event ∈ calls, event.Early call.holdsZero ∨ event.isStop = true ∨ event = .close)
    (none_ : ∀ feedback, outcome ≠ .ok (some feedback))
    (raised : s.closed = false → call.closes = false → (∃ e, outcome = .error e) →
      ∃ event ∈ calls, event.isStop = true) : Fine config s call (outcome, t) := by
  have silent : ∀ feedback now, .accepted feedback now ∉ calls := fun feedback now mem => by
    simpa [Event.Early, Event.isStop] using quiet _ mem
  refine ⟨calls, log, fun feedback now mem => ?_, ⟨?_, ?_, ?_, ?_, ?_, raised⟩⟩
  · have old : .accepted feedback now ∈ s.log := by
      rw [log, mem_append] at mem
      exact mem.resolve_left (silent feedback now)
    simpa only [last] using newest feedback now old
  · exact fun feedback now mem => absurd mem (silent feedback now)
  · exact fun feedback now mem => absurd mem (silent feedback now)
  · exact fun feedback is => absurd is (none_ feedback)
  · exact fun command mem => .inl (by simpa [Event.Early, Event.isStop] using quiet _ mem)
  · exact fun _ feedback is => absurd is (none_ feedback)

theorem fine_taking {outcome} {now} {early later} (newest : Newest s) (accepts : Accepts config s feedback now same)
    (supplied : same = true → call.supplied = some feedback)
    (quiet : ∀ event ∈ early, event.Early call.holdsZero)
    (tail : Tail config call feedback outcome later) :
    Fine config s call (outcome.map some, (s.taking feedback now early).logged later) := by
  let calls := later ++ .accepted feedback now :: early
  have only : ∀ other at_, .accepted other at_ ∈ calls → other = feedback ∧ at_ = now := by
    intro other at_ mem
    rcases List.mem_append.mp mem with mem | mem
    · exact absurd mem (tail.silent other at_)
    · rcases List.mem_cons.mp mem with eq | mem
      · cases eq
        exact ⟨rfl, rfl⟩
      · exact absurd (quiet _ mem) id
  have advances : ∀ old then_, .accepted old then_ ∈ s.log → old.stateTimestampNs < feedback.stateTimestampNs ∨
        old.stateTimestampNs = feedback.stateTimestampNs ∧ call.supplied = some feedback := by
    intro old then_ mem
    obtain ⟨last, is, le⟩ := newest old then_ mem
    rcases accepts.newer last is with lt | ⟨eq, allowed⟩
    · exact .inl (le.trans_lt lt)
    · rcases le.lt_or_eq with lt | same
      · exact .inl (eq ▸ lt)
      · exact .inr ⟨same.trans eq, supplied allowed⟩
  refine ⟨calls, by simp [calls, logged, taking], ?_, ⟨?_, ?_, ?_, ?_, ?_, ?_⟩⟩
  · intro other at_ mem
    refine ⟨feedback.stateTimestampNs, rfl, ?_⟩
    have split : .accepted other at_ ∈ calls ∨ .accepted other at_ ∈ s.log := by
      simpa [calls, logged, taking, or_assoc] using mem
    rcases split with here | old
    · rw [(only other at_ here).1]
    · rcases advances other at_ old with lt | ⟨eq, -⟩
      · exact lt.le
      · exact eq.le
  · intro other at_ mem
    obtain ⟨rfl, rfl⟩ := only other at_ mem
    exact accepts.age
  · intro other at_ mem
    obtain ⟨rfl, rfl⟩ := only other at_ mem
    exact advances
  · intro other is
    cases outcome with
    | error e => cases is
    | ok returned =>
      cases is
      rw [(tail.returned _ rfl).1]
      exact ⟨now, by simp [calls]⟩
  · intro command mem
    rcases List.mem_append.mp mem with mem | mem
    · obtain ⟨drives, clear, newer, eq⟩ := tail.driven command mem
      refine .inr ⟨drives, newer, feedback, now, early, clear, ?_⟩
      simp [calls, eq]
    · rcases List.mem_cons.mp mem with eq | mem
      · cases eq
      · exact .inl (quiet _ mem)
  · intro holds other is
    cases outcome with
    | error e => cases is
    | ok returned =>
      cases is
      obtain ⟨rfl, still⟩ := tail.returned _ rfl
      exact still holds
  · rintro - - ⟨e, is⟩
    cases outcome with
    | ok returned => cases is
    | error e =>
      obtain ⟨event, mem, stops⟩ := tail.raised _ rfl
      exact ⟨event, mem_append_left _ mem, stops⟩

/-- A call that reads feedback and goes on from it. -/
theorem fine_call {goOn : Feedback K → Execution K α} (view : α → Feedback K) (newest : Newest s)
    (reads : Reads call.holdsZero read)
    (supplied : ∀ feedback, same = true → (read s).1 = .ok (some feedback) → call.supplied = some feedback)
    (tail : ∀ feedback u, ∃ outcome later, stopping answers reason (goOn feedback) u =
      (outcome, u.logged later) ∧ Tail config call feedback (outcome.map view) later) :
    Fine config s call (returning (fun a => some (view a)) (stopping answers reason do
      let feedback ← accept config answers read nowS same
      goOn feedback) s) := by
  rcases accept_cases config s answers nowS same
    reads with ⟨e, early, ran, quiet⟩ | ⟨feedback, now, early, given, accepts, quiet, ran⟩
  · obtain ⟨e', stopped⟩ := stopping_error answers reason (bind_error (f := goOn) ran)
    have log : ((s.logged early).logged [.stop reason]).log = (.stop reason :: early) ++ s.log := rfl
    rw [returning, stopped]
    refine fine_early newest log rfl ?_ (by rintro feedback ⟨⟩) ?_
    · intro event mem
      rcases List.mem_cons.mp mem with rfl | mem
      · exact .inr (.inl rfl)
      · exact .inl (quiet event mem)
    · exact fun _ _ _ => ⟨_, mem_cons_self, rfl⟩
  · obtain ⟨outcome, later, ended, tail⟩ := tail feedback (s.taking feedback now early)
    rw [returning, stopping_bind ran, ended]
    have fine := fine_taking newest accepts (supplied feedback · given) quiet tail
    cases outcome <;> exact fine

theorem reads_calls {event : Event K} {answer : Read K} (early : event.Early zero) :
    Reads zero (calls event answer) := fun _ => ⟨[event], rfl, by simpa using early⟩

/-- A call that ends with its body returning the feedback, or raising. -/
theorem tail_gives {body : Execution K (Feedback K)} {u : Executor K} (silent : (body u).2 = u)
    (returned : ∀ other, (body u).1 = .ok other → other = feedback ∧ (call.holdsZero = true →
      |feedback.velocity.vx| ≤ config.stationaryLinearTolerance ∧
        |feedback.velocity.omega| ≤ config.stationaryAngularTolerance)) :
    ∃ outcome later, stopping answers reason body u = (outcome, u.logged later) ∧
      Tail config call feedback (outcome.map id) later := by
  cases ran : body u with
  | mk outcome t =>
  rw [ran] at silent returned
  obtain rfl : t = u := silent
  cases outcome with
  | ok other =>
    refine ⟨.ok other, [], stopping_ok ran, ⟨by simp, by simp, ?_, by rintro e ⟨⟩⟩⟩
    rintro _ ⟨⟩
    exact returned other rfl
  | error e =>
    obtain ⟨e', stopped⟩ := stopping_error answers reason ran
    refine ⟨.error e', _, stopped, ⟨by simp, by simp, by rintro _ ⟨⟩, fun _ _ => ?_⟩⟩
    exact ⟨_, mem_cons_self, rfl⟩

theorem fine_open {view : α → Option (Feedback K)} (newest : Newest s)
    (fine : s.closed = false → Fine config s call (returning view body s)) :
    Fine config s call (returning view (do requireOpen; body) s) := by
  cases open_ : s.closed with
  | true =>
    have closed : (do requireOpen; body : Execution K α) s = (.error .closed, s) :=
      bind_error (by rw [requireOpen, open_]; rfl)
    have log : s.log = [] ++ s.log := rfl
    rw [returning, closed]
    exact fine_early newest log rfl (by simp) (by rintro _ ⟨⟩) (by simp [open_])
  | false =>
    rw [returning, Effect.bind_ok (by rw [requireOpen, open_]; rfl)]
    exact fine open_

theorem checkFreshFeedback_fine (newest : Newest s) :
    Fine config s (.checkFreshFeedback nowS) (returning some (checkFreshFeedback config answers nowS) s) := by
  refine fine_open newest fun _ => fine_call id newest ?_ (by rintro _ ⟨⟩) fun feedback u =>
    tail_gives ?_ ?_
  · split <;> exact reads_calls trivial
  · simp only [requireClear]
    split <;> rfl
  · intro other is
    simp only [requireClear] at is
    split at is <;> cases is
    exact ⟨rfl, by simp [holdsZero]⟩

theorem holdZero_fine (newest : Newest s) :
    Fine config s (.holdZero nowS) (returning some (holdZero config answers nowS) s) := by
  refine fine_open newest fun _ => fine_call id newest ?_ (by rintro _ ⟨⟩) fun feedback u =>
    tail_gives ?_ ?_
  · split
    · intro u
      cases commanded : answers.velocity with
      | error e =>
        exact ⟨[.velocity .zero], rfl, by simp [Event.Early, holdsZero]⟩
      | ok _ =>
        exact ⟨[.feedback, .velocity .zero], rfl, by simp [Event.Early, holdsZero]⟩
    · exact reads_calls trivial
  · simp only [requireClear]
    split <;> split <;> rfl
  · intro other is
    simp only [requireClear] at is
    split at is
    · cases is
    · split at is
      · cases is
      next stationary =>
        cases is
        push Not at stationary
        exact ⟨rfl, fun _ => stationary⟩

variable (config) in
theorem drive_cases (answers : Answers K) (trajectory : Trajectory K) (feedback : Feedback K) (u : Executor K) :
    (∃ e, drive config answers trajectory feedback u = (.error e, u)) ∨
    (∃ e command, drive config answers trajectory feedback u = (.error e, u.logged [.velocity command])) ∨
    ∃ step command, drive config answers trajectory feedback u =
      (.ok step, u.logged [.velocity command]) ∧ step.feedback = feedback := by
  unfold drive
  cases selectUnicycleWaypoint trajectory.waypoints config.waypointZeroTolerance with
  | error e => exact .inl ⟨_, rfl⟩
  | ok chosen =>
  rw [bind_ok (rfl : invalid (.ok chosen) u = (.ok chosen, u))]
  dsimp only
  cases segmentCommand config answers chosen.2 with
  | error e => exact .inl ⟨_, rfl⟩
  | ok command =>
  rw [bind_ok (rfl : invalid (.ok command) u = (.ok command, u))]
  cases answers.velocity with
  | error e => exact .inr (.inl ⟨_, command, rfl⟩)
  | ok _ => exact .inr (.inr ⟨_, command, rfl, rfl⟩)

/-- What `execute` does with the feedback that it accepted. -/
theorem segment_tail {trajectory : Trajectory K} (parsed : fromOutput output = .ok trajectory)
    (feedback : Feedback K) (u : Executor K) :
    ∃ outcome later, stopping answers reason (segment config answers trajectory feedback) u =
      (outcome, u.logged later) ∧
      Tail config (.execute output nowS given) feedback (outcome.map Step.feedback) later := by
  have fails {body : Execution K (Step K)} {e : Raised} (later : List (Event K))
      (ran : body u = (.error e, u.logged later)) (quiet : ∀ other now, .accepted other now ∉ later)
      (driven : ∀ command, .velocity command ∈ later → trajectory.stop = false ∧
        feedback.collision ≠ some true ∧ ∃ newer, later = newer ++ [.velocity command]) :
      ∃ outcome later, stopping answers reason body u = (outcome, u.logged later) ∧
        Tail config (.execute output nowS given) feedback (outcome.map Step.feedback) later := by
    obtain ⟨e', stopped⟩ := stopping_error answers reason ran
    refine ⟨.error e', .stop reason :: later, stopped, ⟨by simpa using quiet, ?_, by rintro _ ⟨⟩, ?_⟩⟩
    · intro command mem
      obtain ⟨moves, clear, newer, eq⟩ := driven command (by simpa using mem)
      exact ⟨⟨trajectory, parsed, moves⟩, clear, .stop reason :: newer, by rw [eq]; rfl⟩
    · exact fun _ _ => ⟨_, mem_cons_self, rfl⟩
  simp only [segment]
  split
  next collides =>
    have logs := safeStop_logs u answers .collision
    cases stopped : safeStop answers .collision u with
    | mk outcome t =>
    rw [stopped] at logs
    obtain rfl : t = u.logged [.stop .collision] := logs
    cases outcome with
    | ok _ => exact fails _ (bind_ok stopped) (by simp) (by simp)
    | error e => exact fails _ (bind_error stopped) (by simp) (by simp)
  next clear =>
    split
    next stops =>
      cases stopped : answers.stop .explicitStop with
      | error e => exact fails [.stop .explicitStop] (bind_error rfl) (by simp) (by simp)
      | ok _ =>
        refine ⟨_, [.stop .explicitStop], stopping_ok (bind_ok rfl), ?_⟩
        exact ⟨by simp, by simp, by rintro _ ⟨⟩; exact ⟨rfl, by simp [holdsZero]⟩, by rintro _ ⟨⟩⟩
    next moves =>
      have moves : trajectory.stop = false := by simpa using moves
      rcases drive_cases config answers trajectory feedback u with
        ⟨e, ran⟩ | ⟨e, command, ran⟩ | ⟨step, command, ran, rfl⟩
      · exact fails [] ran (by simp) (by simp)
      · exact fails _ ran (by simp) (by simpa using ⟨moves, clear⟩)
      · refine ⟨_, _, stopping_ok ran, ⟨by simp, ?_, ?_, by rintro _ ⟨⟩⟩⟩
        · intro other mem
          obtain rfl : other = command := by simpa using mem
          exact ⟨⟨trajectory, parsed, moves⟩, clear, [], rfl⟩
        · rintro _ ⟨⟩
          exact ⟨rfl, by simp [holdsZero]⟩

theorem execute_fine (newest : Newest s) : Fine config s (.execute output nowS given)
      (returning (some ·.feedback) (execute config answers output nowS given) s) := by
  refine fine_open newest fun _ => ?_
  cases parsed : fromOutput output with
  | error e =>
    have ran : invalid (.error e : Except Invalid (Trajectory K)) s = (.error (.invalid e), s) := rfl
    obtain ⟨e', stopped⟩ := stopping_error answers .localSegmentException (bind_error ran)
    have log : (s.logged [.stop .localSegmentException]).log = [.stop .localSegmentException] ++ s.log := rfl
    rw [returning, stopped]
    exact fine_early newest log rfl (by simp [Event.isStop]) (by rintro _ ⟨⟩) (by simp [Event.isStop])
  | ok trajectory =>
    have ran : invalid (.ok trajectory) s = (.ok trajectory, s) := rfl
    rw [returning, stopping_bind ran]
    refine fine_call _ newest ?_ ?_ fun feedback u => segment_tail parsed feedback u
    · cases given with
      | none => exact reads_calls trivial
      | some given => exact fun u => ⟨[], rfl, by simp⟩
    · cases given with
      | none => rintro _ ⟨⟩
      | some given =>
        rintro feedback - is
        cases is
        rfl

variable (config) in
theorem perform_fine (l : Label K) (newest : Newest s) : Fine config s l.call (perform config l s) := by
  obtain ⟨call, answers⟩ := l
  cases call with
  | execute output nowS given => exact execute_fine newest
  | checkFreshFeedback nowS => exact checkFreshFeedback_fine newest
  | holdZero nowS => exact holdZero_fine newest
  | stop =>
    have log : (s.logged [.stop .caller]).log = [.stop .caller] ++ s.log := rfl
    refine fine_early newest log rfl (by simp [Event.isStop]) ?_ (by simp [Event.isStop])
    show ∀ feedback, (answers.stop .caller).map (fun _ => none) ≠ .ok (some feedback)
    cases answers.stop .caller <;> rintro _ ⟨⟩
  | close =>
    cases open_ : s.closed with
    | true =>
      have log : s.log = [] ++ s.log := rfl
      have same : close answers s = (.ok (), s) := by rw [close, open_]; rfl
      show Fine config s .close (returning _ (close answers) s)
      rw [returning, same]
      exact fine_early newest log rfl (by simp) (by rintro _ ⟨⟩) (by simp [closes])
    | false =>
      have log : (s.logged [.close]).log = [.close] ++ s.log := rfl
      have ends : close answers s = (answers.close, { s.logged [.close] with closed := true }) := by
        rw [close, open_]; rfl
      show Fine config s .close (returning _ (close answers) s)
      rw [returning, ends]
      refine fine_early newest log rfl (by simp) ?_ (by simp [closes])
      cases answers.close <;> rintro _ ⟨⟩

theorem run_sound (labels : List (Label K)) (newest : Newest s) : ∀ r ∈ reports config s labels, Sound config r := by
  induction labels generalizing s with
  | nil => simp [reports]
  | cons l rest ih =>
    obtain ⟨calls, log, after, sound⟩ := perform_fine config l newest
    rintro r (_ | ⟨_, mem⟩)
    · have is : report config s l = ⟨l.call, s.closed, (perform config l s).1, calls, s.log⟩ := by
        simp [report, log]
      exact is ▸ sound
    · exact ih after r mem

end

variable [IsStrictOrderedRing K]

/-- Every call of every run is sound. -/
theorem calls_sound (labels : List (Label K)) : ∀ r ∈ reports config {} labels, Sound config r :=
  run_sound labels (by rintro _ _ ⟨⟩)

end

def someConfig : Config ℚ := ⟨1, 1, 1, 0, 1, 1, 1⟩

def someFeedback (velocity : BodyVelocity ℚ) (collision : Option Bool) : Feedback ℚ :=
  ⟨velocity, 0, 1, collision, by decide⟩

/-- A backend that answers with the feedback at time zero, and does not close. -/
def someAnswers (feedback : Feedback ℚ) : Answers ℚ where
  feedback := .ok (some feedback)
  freshFeedback := none
  holdZero := none
  clock := .ok (some 0)
  overflows := false
  velocity := .ok ()
  stop _ := .ok ()
  close := .error (.called (.exception "transport is gone"))

def forwardOnce : Output ℚ := .trajectory ⟨[⟨1, 0, 0⟩], false, by decide, by decide⟩

/-- A backend that fails to close is not stopped, the same time is accepted twice, and zero is commanded
before a collision is read. -/
theorem claim_fails : (∃ r ∈ reports someConfig {} [⟨.close, someAnswers (someFeedback .zero none)⟩],
      r.closed = false ∧ (∃ e, r.outcome = .error e) ∧ ∀ event ∈ r.calls, event.isStop = false) ∧
    (∃ old new, old ≠ new ∧ old.stateTimestampNs = new.stateTimestampNs ∧
      ∃ r ∈ reports someConfig {} [⟨.checkFreshFeedback none, someAnswers old⟩,
        ⟨.execute forwardOnce none (some (some new)), someAnswers old⟩],
        .accepted old 0 ∈ r.earlier ∧ r.outcome = .ok (some new)) ∧
    ∃ r ∈ reports someConfig {} [⟨.holdZero none, someAnswers (someFeedback .zero (some true))⟩],
      .velocity .zero ∈ r.calls ∧
        ∀ feedback now, .accepted feedback now ∈ r.calls → feedback.collision = some true := by
  have held : (report someConfig {} ⟨.holdZero none, someAnswers (someFeedback .zero (some true))⟩).calls =
      [.stop .holdZeroException, .accepted (someFeedback .zero (some true)) 0, .feedback,
        .velocity .zero] := by with_unfolding_all rfl
  refine ⟨⟨_, mem_cons_self, rfl, ⟨_, rfl⟩, ?_⟩, ⟨someFeedback .zero none,
    someFeedback ⟨1, 0, 0⟩ none, ?_, rfl, _, mem_cons_of_mem _ mem_cons_self, ?_,
    by with_unfolding_all rfl⟩, _, mem_cons_self, ?_, ?_⟩
  · rintro event (_ | ⟨_, ⟨⟩⟩)
    rfl
  · intro same
    injection same with velocity
    injection velocity with vx
    exact absurd vx (by decide)
  · with_unfolding_all exact mem_cons_self
  · simp [held]
  · intro feedback now mem
    obtain ⟨rfl, -⟩ : feedback = someFeedback .zero (some true) ∧ now = 0 := by simpa [held] using mem
    rfl

theorem segment_sound : ∃ r,
    reports someConfig {} [⟨.execute forwardOnce none none, someAnswers (someFeedback .zero none)⟩] = [r] ∧
      Sound someConfig r :=
  ⟨_, rfl, calls_sound someConfig [⟨.execute forwardOnce none none, someAnswers (someFeedback .zero none)⟩] _
    mem_cons_self⟩

end EmbodiRun.Xlerobot.LocalSegment
