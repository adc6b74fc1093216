/-
# Io.Scheduler -- `RobotIOScheduler`, one bus as a machine of interleaved sections

One definition for each `with self._condition` block of the scheduler, and `step`, which
interleaves them: any number of callers, one worker thread, and one thread for every
preemptive stop callback.  A label is one atomic move of one of these threads; it
carries what the environment decides (a clock reading, how a driver call ends, when a
bounded wait runs out).

A caller that observes a condition and then enters a section without a decision in
between does both in one move: `_stop_lock` with the section that follows it, a `done`
event with the section that reads the outcome.
-/
import EmbodiRun.Io.Result
import EmbodiRun.Transition.Machine

namespace EmbodiRun.Io.Scheduler

/-! ## Data -/

abbrev Token := Nat
abbrev RequestId := Nat
abbrev CallId := Nat

/-- The constructor arguments the scheduling reads, after `__init__` checked them. -/
structure Config where
  /-- Without a value, a stop waits for its answer without a bound. -/
  stopTimeout : Option ℚ≥0 := some (1 / 4)
  maxPendingOperations : Nat := 32
  maxPendingReads : Nat := 1
  allowPreemptiveStop : Bool := false
  maxPendingOperations_pos : 0 < maxPendingOperations := by decide

/-- `_Request`, without its callback: what the callback does is in the labels. -/
structure Request where
  operation : IOOperation
  cancelEvent : Option Token := none
  deadline : Option ℚ := none
  done : Bool := false
  started : Bool := false
  cancelled : Bool := false
  detached : Bool := false
  result : Option IOResult := none

inductive Failure where
  | typeError (message : String)
  | valueError (message : String)
  | assertionError
  deriving DecidableEq

inductive Reply where
  | returned (value : DriverValue)
  | raised (error : String)
  deriving DecidableEq

/-- What `_run` finds out about a request it has taken. -/
inductive Outcome where
  | expired
  | cancelled
  | replied (reply : Reply)
  deriving DecidableEq

/-- Where a call of a public method stands.  `bounded` waits have a timeout. -/
inductive Call where
  | unused
  /-- `_submit`: in `request.done.wait`, then past a wait that ran out. -/
  | waiting (r : RequestId) (bounded : Bool)
  | timedOut (r : RequestId)
  /-- `_preemptive_stop`: before `_stop_lock`, in `done.wait`, past a wait that ran out, and
  past the section that follows it. -/
  | locking (bounded : Bool)
  | stopping (bounded : Bool)
  | stopTimedOut
  | stopRecording
  /-- `close`: in `_worker.join`. -/
  | closing (bounded : Bool)
  | answered (result : IOResult)
  | recovered (cleared : Bool)
  | failed (failure : Failure)
  deriving DecidableEq

inductive StopThread where
  | absent
  | started
  | inside
  | left (reply : Reply)
  | cleared (reply : Reply)
  | over (reply : Reply)
  deriving DecidableEq

/-- Where the worker stands in `_run`.  In `calling` it has passed the deadline and the
cancellation check, in `inside` the callback runs. -/
inductive Worker where
  | looping
  | taken (r : RequestId)
  | calling (r : RequestId)
  | inside (r : RequestId)
  | leaving (r : RequestId) (outcome : Outcome)
  | ended
  deriving DecidableEq

/-- A scheduler with its threads.  Requests are named in the order they are made, `created`
of them so far; `invoked` is what the driver has seen of the worker: the request of every
callback it entered, oldest first. -/
structure State where
  events : List Bool
  requests : RequestId → Request
  created : Nat
  queue : List RequestId
  queuedReads : Int
  active : Option RequestId
  queuedStop : Option RequestId
  closed : Bool
  quarantined : Bool
  lastStopResult : Option IOResult
  stopLock : Option CallId
  preemptiveActive : Bool
  worker : Worker
  calls : CallId → Call
  stopThreads : CallId → StopThread
  invoked : List RequestId

/-- The state `__init__` leaves. -/
def State.init : State where
  events := []
  requests := fun _ => { operation := .stop }
  created := 0
  queue := []
  queuedReads := 0
  active := none
  queuedStop := none
  closed := false
  quarantined := false
  lastStopResult := none
  stopLock := none
  preemptiveActive := false
  worker := .looping
  calls := fun _ => .unused
  stopThreads := fun _ => .absent
  invoked := []

/-! ## Arguments and results -/

/-- `_validate_timeout`; a `bool` is a number to it. -/
def validateTimeout (value : Option Number) (name : String) : Except Failure Unit :=
  match value with
  | none | some (.bool _) => .ok ()
  | some (.finite value) =>
    if value < 0 then .error (.valueError (name ++ " must be finite and non-negative")) else .ok ()
  | some .nonFinite | some .other =>
    .error (.valueError (name ++ " must be finite and non-negative"))

/-- The arguments of `execute` and `read` that scheduling reads. -/
structure Submission where
  callable : Bool := true
  cancelEvent : Option Token := none
  deadline : Option Number := none
  timeout : Option Number := none

/-- The argument checks of `_submit`, and the deadline they let through. -/
def Submission.check (args : Submission) : Except Failure (Option ℚ) := do
  if !args.callable then .error (.typeError "callback must be callable")
  validateTimeout args.timeout "timeout_s"
  match args.deadline with
  | none => .ok none
  | some (.finite value) => .ok (some value)
  | some _ => .error (.valueError "deadline_s must be finite")

def immediate (operation : IOOperation) (status : IOStatus) (quarantined : Bool := false) : IOResult :=
  { operation, status, quarantined }

/-- The result `_run` builds from what it found out. -/
def Outcome.result (operation : IOOperation) : Outcome → IOResult
  | .expired => { operation, status := .expired }
  | .cancelled => { operation, status := .cancelled }
  | .replied (.raised error) => { operation, status := .failed, error := some error }
  | .replied (.returned value) =>
    { operation, status := .completed, driverReturned := true, driverValue := value
      stopConfirmed := if operation = .stop then stopConfirmation value else none }

/-- The result `_preemptive_stop` builds once its callback is over. -/
def Reply.result : Reply → IOResult
  | .raised error =>
    { operation := .stop, status := .failed, stopConfirmed := stopConfirmation .none
      error := some error }
  | .returned value =>
    { operation := .stop, status := .completed, driverReturned := true, driverValue := value
      stopConfirmed := stopConfirmation value }

/-- A public method with its arguments; `read` has no cancellation event. -/
inductive Operation where
  | execute (args : Submission)
  | read (args : Submission)
  | stop (callable : Bool) (timeout : Option Number) (preemptive : Option Bool)
  | recover (stopConfirmed : Bool)
  | close (wait : Option Number)

def Operation.cancelEvent : Operation → Option Token
  | .execute args => args.cancelEvent
  | _ => none

namespace State

/-! ## Locked helpers -/

def setCall (c : CallId) (call : Call) (s : State) : State :=
  { s with calls := Function.update s.calls c call }

def setThread (c : CallId) (thread : StopThread) (s : State) : State :=
  { s with stopThreads := Function.update s.stopThreads c thread }

def setRequest (r : RequestId) (change : Request → Request) (s : State) : State :=
  { s with requests := Function.update s.requests r (change (s.requests r)) }

def discard (status : IOStatus) (quarantined : Bool) (s : State) (r : RequestId) : State :=
  let operation := (s.requests r).operation
  if operation = .stop then { s with queue := s.queue ++ [r] }
  else
    let s := if operation = .read then { s with queuedReads := s.queuedReads - 1 } else s
    s.setRequest r fun request =>
      { request with
        cancelled := true
        result := some (immediate operation status quarantined)
        done := true }

/-- The loop over the queue; `self._queue` is the retained part after it. -/
def discardMotion (status : IOStatus) (quarantined : Bool) (s : State) : State :=
  s.queue.foldl (discard status quarantined) { s with queue := [] }

/-- `_drop_queued_motion_locked`. -/
def dropQueuedMotion (s : State) : State := s.discardMotion .unknown true

/-- What puts the bus in quarantine everywhere but in `_run`. -/
def enterQuarantine (s : State) : State := { s with quarantined := true }.dropQueuedMotion

/-! ## `_submit` -/

/-- The section of `_submit` that admits a request. -/
def accept (cfg : Config) (c : CallId) (request : Request) (bounded : Bool) (s : State) : State :=
  let operation := request.operation
  let refuse (status : IOStatus) (quarantined : Bool) : State :=
    s.setCall c (.answered (immediate operation status quarantined))
  if s.closed then refuse .rejected false
  else if operation ≠ .stop ∧ s.preemptiveActive then refuse .unknown s.quarantined
  else if s.quarantined ∧ operation ≠ .stop then refuse .unknown true
  else if operation = .read ∧ s.queuedReads ≥ cfg.maxPendingReads then refuse .rejected false
  else if operation = .stop ∧
      (s.queuedStop.isSome ∨ s.active.any fun r => (s.requests r).operation = .stop) then
    refuse .rejected false
  else if operation ≠ .stop ∧ s.queue.length ≥ cfg.maxPendingOperations then refuse .rejected false
  else
    let r := s.created
    let s : State := { s with
      requests := Function.update s.requests r request
      created := r + 1
      queuedReads := if operation = .read then s.queuedReads + 1 else s.queuedReads
      queuedStop := if operation = .stop then some r else s.queuedStop
      queue := if operation = .stop then r :: s.queue else s.queue ++ [r] }
    s.setCall c (.waiting r bounded)

/-- `_submit` up to its wait; `clock` is what `self._monotonic()` reads. -/
def submit (cfg : Config) (c : CallId) (operation : IOOperation) (args : Submission) (clock : ℚ)
    (s : State) : State :=
  match args.check with
  | .error failure => s.setCall c (.failed failure)
  | .ok deadline =>
    if deadline.any (· ≤ clock) then s.setCall c (.answered (immediate operation .expired))
    else
      let bounded := args.timeout.isSome || deadline.isSome
      s.accept cfg c { operation, cancelEvent := args.cancelEvent, deadline } bounded

/-- The section of `_submit` after a wait that ran out. -/
def expire (c : CallId) (r : RequestId) (s : State) : State :=
  let request := s.requests r
  let operation := request.operation
  if !request.started ∧ operation ≠ .stop then
    let s := s.setRequest r fun request => { request with cancelled := true }
    let s := if r ∈ s.queue then
        { s with
          queue := s.queue.erase r
          queuedReads := if operation = .read then s.queuedReads - 1 else s.queuedReads }
      else s
    let status := if request.cancelEvent.isSome then IOStatus.cancelled else .unknown
    s.setCall c (.answered (immediate operation status))
  else
    let s := s.enterQuarantine.setRequest r fun request => { request with detached := true }
    s.setCall c (.answered (immediate operation .unknown true))

/-! ## `_preemptive_stop` -/

/-- `_preemptive_stop` up to its lock. -/
def preempt (cfg : Config) (c : CallId) (timeout : Option Number) (s : State) : State :=
  match validateTimeout timeout "timeout_s" with
  | .error failure => s.setCall c (.failed failure)
  | .ok () => s.setCall c (.locking (timeout.isSome || cfg.stopTimeout.isSome))

/-- The first section, with `_stop_lock` held, and the start of the callback's thread. -/
def startPreemptive (c : CallId) (bounded : Bool) (s : State) : State :=
  if s.closed ∨ s.preemptiveActive ∨ s.queuedStop.isSome then
    s.setCall c (.answered (immediate .stop .rejected))
  else
    ({ s with preemptiveActive := true, stopLock := some c }.setThread c .started).setCall c (.stopping bounded)

/-- The write to `_last_stop_result` that follows the section of a wait that ran out. -/
def recordTimeout (c : CallId) (s : State) : State :=
  let result := immediate .stop .unknown true
  { s with lastStopResult := some result, stopLock := none }.setCall c (.answered result)

def finishPreemptive (c : CallId) (reply : Reply) (s : State) : State :=
  let result := reply.result
  let s := if result.error.isSome ∨ result.stopConfirmed = some false then s.enterQuarantine else s
  let result := { result with quarantined := s.quarantined }
  { s with lastStopResult := some result, stopLock := none }.setCall c (.answered result)

/-! ## `recover` and `close` -/

def recover (c : CallId) (stopConfirmed : Bool) (s : State) : State :=
  if !stopConfirmed ∨ s.active.isSome ∨ s.preemptiveActive then s.setCall c (.recovered false)
  else if !s.quarantined then s.setCall c (.recovered true)
  else if s.lastStopResult.all fun last => last.stopConfirmed ≠ some true then
    s.setCall c (.recovered false)
  else { s with quarantined := false }.setCall c (.recovered true)

/-- The result of `close`, as the state stands. -/
def closeResult (s : State) : IOResult :=
  let drained := s.active.isNone && s.queue.isEmpty && !s.preemptiveActive
  { operation := .close
    status := if drained then .completed else .unknown
    quarantined := !drained || s.quarantined }

/-- `close` up to the join of the worker. -/
def close (c : CallId) (wait : Option Number) (s : State) : State :=
  match validateTimeout wait "wait_s" with
  | .error failure => s.setCall c (.failed failure)
  | .ok () =>
    if s.closed then s.setCall c (.answered s.closeResult)
    else ({ s with closed := true }.discardMotion .cancelled false).setCall c (.closing wait.isSome)

/-! ## The worker -/

/-- The section at the head of `_run`, where it does not wait. -/
def take (s : State) : Option State :=
  if (s.queue.isEmpty ∨ s.preemptiveActive) ∧ !s.closed then none
  else match s.queue with
    | [] => some { s with worker := .ended }
    | r :: rest =>
      let request := s.requests r
      let s : State := { s with
        queue := rest
        queuedReads := if request.operation = .read then s.queuedReads - 1 else s.queuedReads
        queuedStop := if s.queuedStop = some r then none else s.queuedStop }
      some (if request.cancelled then
          s.setRequest r fun request =>
            { request with
              result := some (immediate request.operation .cancelled)
              done := true }
        else
          { s with active := some r, worker := .taken r }.setRequest r fun request =>
            { request with started := true })

def check (r : RequestId) (clock : ℚ) (s : State) : State :=
  let request := s.requests r
  if request.deadline.any (· ≤ clock) then { s with worker := .leaving r .expired }
  else if request.cancelEvent.any fun token => s.events[token]? = some true then
    { s with worker := .leaving r .cancelled }
  else { s with worker := .calling r }

def settle (r : RequestId) (outcome : Outcome) (s : State) : State :=
  let operation := (s.requests r).operation
  let result := outcome.result operation
  let s := { s with active := none, worker := .looping }
  if operation = .stop then
    let quarantined := s.quarantined || result.status = .failed || result.stopConfirmed = some false
    let result := { result with quarantined := quarantined }
    { s with quarantined := quarantined, lastStopResult := some result }.setRequest r fun request =>
      { request with result := some result, done := request.done || !request.detached }
  else
    s.setRequest r fun request =>
      { request with result := some result, done := request.done || !request.detached }

end State

/-! ## The machine -/

/-- One move of one thread; `c` is a call. -/
inductive Label where
  /-- A caller creates an event, or sets one it holds. -/
  | newEvent
  | setEvent (token : Token)
  /-- A public method is called, up to its first wait. -/
  | start (c : CallId) (op : Operation) (clock : ℚ)
  /-- The next section of `c`. -/
  | proceed (c : CallId)
  /-- A bounded wait of `c` for a `done` event runs out. -/
  | timeout (c : CallId)
  /-- The thread of the preemptive stop `c`: the callback is entered and is over, the
  `finally` section, `done.set()`. -/
  | stopCalls (c : CallId)
  | stopReplies (c : CallId) (reply : Reply)
  | stopClears (c : CallId)
  | stopDone (c : CallId)
  /-- The worker: its first section, the checks, the callback and its last section. -/
  | take
  | check (clock : ℚ)
  | call
  | replies (reply : Reply)
  | settle

namespace State

def start (cfg : Config) (c : CallId) (op : Operation) (clock : ℚ) (s : State) : State :=
  match op with
  | .execute args => s.submit cfg c .execute args clock
  | .read args => s.submit cfg c .read { args with cancelEvent := none } clock
  | .stop callable timeout preemptive =>
    if preemptive.getD cfg.allowPreemptiveStop then s.preempt cfg c timeout
    else
      let timeout := timeout.or (cfg.stopTimeout.map fun value => .finite value)
      s.submit cfg c .stop { callable, timeout } clock
  | .recover stopConfirmed => s.recover c stopConfirmed
  | .close wait => s.close c wait

/-- The next section of `c`, where it has one and does not wait. -/
def proceed (c : CallId) (s : State) : Option State :=
  match s.calls c with
  | .waiting r _ =>
    if (s.requests r).done then
      some (s.setCall c (match (s.requests r).result with
        | some result => .answered result
        | none => .failed .assertionError))
    else none
  | .timedOut r => some (s.expire c r)
  | .locking bounded => if s.stopLock.isNone then some (s.startPreemptive c bounded) else none
  | .stopping _ =>
    match s.stopThreads c with
    | .over reply => some (s.finishPreemptive c reply)
    | _ => none
  | .stopTimedOut => some (s.enterQuarantine.setCall c .stopRecording)
  | .stopRecording => some (s.recordTimeout c)
  | .closing bounded =>
    -- A bounded join may give up on the worker at any time.
    if bounded ∨ s.worker = .ended then some (s.setCall c (.answered s.closeResult)) else none
  | _ => none

/-- A bounded wait of `c` runs out before its event is set. -/
def timeout (c : CallId) (s : State) : Option State :=
  match s.calls c with
  | .waiting r true => if (s.requests r).done then none else some (s.setCall c (.timedOut r))
  | .stopping true =>
    match s.stopThreads c with
    | .over _ => none
    | _ => some (s.setCall c .stopTimedOut)
  | _ => none

end State

def step (cfg : Config) (s : State) : Label → Option State
  | .newEvent => some { s with events := s.events ++ [false] }
  | .setEvent token => some { s with events := s.events.set token true }
  | .start c op clock =>
    -- A caller can only pass an event that exists.
    if s.calls c = .unused ∧ ∀ token ∈ op.cancelEvent, token < s.events.length then
      some (s.start cfg c op clock)
    else none
  | .proceed c => s.proceed c
  | .timeout c => s.timeout c
  | .stopCalls c => match s.stopThreads c with
      | .started => some (s.setThread c .inside)
      | _ => none
  | .stopReplies c reply => match s.stopThreads c with
      | .inside => some (s.setThread c (.left reply))
      | _ => none
  | .stopClears c => match s.stopThreads c with
      | .left reply => some ({ s with preemptiveActive := false }.setThread c (.cleared reply))
      | _ => none
  | .stopDone c => match s.stopThreads c with
      | .cleared reply => some (s.setThread c (.over reply))
      | _ => none
  | .take => match s.worker with
      | .looping => s.take
      | _ => none
  | .check clock => match s.worker with
      | .taken r => some (s.check r clock)
      | _ => none
  | .call => match s.worker with
      | .calling r => some { s with worker := .inside r, invoked := s.invoked ++ [r] }
      | _ => none
  | .replies reply => match s.worker with
      | .inside r => some { s with worker := .leaving r (.replied reply) }
      | _ => none
  | .settle => match s.worker with
      | .leaving r outcome => some (s.settle r outcome)
      | _ => none

end EmbodiRun.Io.Scheduler
