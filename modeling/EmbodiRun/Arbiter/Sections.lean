/-
# Arbiter.Sections -- the critical sections of the arbiter's methods

One definition for each `with self._condition` block, in the order of the source.
A section ends by moving its call: to the unlocked stop call of the port that
follows it, to the next section, or to the value or exception the method ends with.
`Arbiter.Step` interleaves them.
-/
import EmbodiRun.Arbiter.State

namespace EmbodiRun.Arbiter

open Io

/-! ## Arguments -/

/-- The arguments of `submit`. -/
structure Submission (α : Type) where
  action : α
  source : CommandSource
  wait : Bool := true
  timeout : Option Number := none
  deadline : Option Number := none
  taskCancel : Option Token := none

variable {α : Type}

/-- The argument checks of `submit`, before the lock is taken. -/
def Submission.check (args : Submission α) : Except Failure (CommandEnvelope α) := do
  let deadline ← match args.deadline with
    | none => .ok none
    | some (.finite value) => .ok (some value)
    | some _ => .error (.valueError "deadline_s must be finite")
  match args.timeout with
    | none => .ok ()
    | some (.finite value) =>
      if value < 0 then .error (.valueError "timeout_s must be finite and non-negative") else .ok ()
    | some _ => .error (.valueError "timeout_s must be finite and non-negative")
  if args.source = .manual ∧ args.taskCancel.isSome then
    .error (.valueError "manual commands cannot carry an automatic task token")
  .ok ⟨args.source, args.action, deadline, args.taskCancel⟩

/-- A public method with its arguments; `clock` is what `self._clock()` reads in its section. -/
inductive Operation (α : Type) where
  | beginAutomaticTask (cancelEvent : Option Token)
  | finishAutomaticWork (taskCancel : Option Token)
  | submit (args : Submission α) (clock : ℚ)
  | acquireManual
  | releaseManual
  | setDeadman (active : Bool) (clock : ℚ)
  | hold
  | cancelAutomaticWork (taskCancel : Option Token)
  | emergencyStop
  | resetEmergencyStop
  | close (hold : Bool)

def Holder.next : Holder → Call
  | .finishAutomaticWork task cancelled => .detaching task cancelled
  | .cancelAutomaticWork => .returned (.bool true)
  | _ => .returned .none

namespace State

/-! ## Automatic tasks -/

/-- `begin_automatic_task` up to its lock: the caller's event must not be set already. -/
def beginAutomaticTask (c : CallId) (cancelEvent : Option Token) (s : State α) : State α :=
  if cancelEvent.any s.heap.isSet then s.raise c (.commandCancelled "automatic task was cancelled")
  else s.setCall c (.registering cancelEvent)

/-- The section of `begin_automatic_task`. -/
def registerTask (c : CallId) (cancelEvent : Option Token) : State α → State α :=
  requireOpen c fun s =>
    if s.authority ≠ .model then
      s.raise c (.commandRejected "model control is not available")
    else
      let s := { s with heap := s.heap.setEvent s.modelTaskCancel }
      let s := s.cancelActiveAutomatic.clearModelQueue .cleared
      match cancelEvent with
      | some token => { s with modelTaskCancel := some token }.setCall c (.returned (.token token))
      | none =>
        let token := s.heap.events.length
        { s with heap := s.heap.newEvent, modelTaskCancel := some token }.setCall c (.returned (.token token))

/-- The first section of `finish_automatic_work`. -/
def finishAutomaticWork (c : CallId) (taskCancel : Option Token) : State α → State α :=
  requireOpen c fun s =>
    if taskCancel ≠ s.modelTaskCancel then s.setCall c (.returned (.bool false))
    else if s.authority ≠ .model then s.setCall c (.returned (.bool false))
    else
      let cancelled := taskCancel.any s.heap.isSet
      let s := s.cancelActiveAutomaticTicket.clearModelQueue .cleared
      { s with holdInProgress := true }.setCall c (.holding (.finishAutomaticWork taskCancel cancelled))

/-- The last section of `finish_automatic_work`; the token it found current is `task`. -/
def detachTask (c : CallId) (task : Option Token) (cancelled : Bool) (s : State α) : State α :=
  let s := if !cancelled && (task.isNone || s.modelTaskCancel == task) then
      { s with modelTaskCancel := none }
    else s
  s.setCall c (.returned (.bool true))

/-! ## Submission -/

/-- The section of `submit`, for an envelope that passed the argument checks. -/
def accept (cfg : Config) (c : CallId) (envelope : CommandEnvelope α) (wait bounded : Bool)
    (clock : ℚ) : State α → State α :=
  requireOpen c fun s =>
    if envelope.taskCancel.isSome ∧ envelope.taskCancel ≠ s.modelTaskCancel then
      s.raise c (.commandCancelled "automatic task is no longer current")
    else if envelope.taskCancel.any s.heap.isSet then
      s.raise c (.commandCancelled "automatic task was cancelled")
    else if s.authority = .estopLatched then
      s.raise c (.commandRejected "emergency stop is latched")
    else
      let t := s.heap.tickets.length
      if envelope.source = .manual then
        if s.authority ≠ .manual then
          s.raise c (.commandRejected "manual control is not acquired")
        else if !s.deadmanActive then
          s.raise c (.commandRejected "manual deadman is not active")
        else
          let heap := s.heap.finishAll s.manualPending.toList .replaced
          { s with
            manualHeartbeat := some clock
            heap := heap.push { envelope := envelope }
            manualPending := some t }.setCall c (.announcing t wait bounded)
      else if s.authority = .manual then
        s.raise c (.commandRejected "manual control owns the robot")
      else if cfg.modelQueueCapacity ≤ s.modelQueue.length then
        s.raise c (.commandRejected "model command queue is full")
      else
        { s with
          heap := s.heap.push { envelope := envelope }
          modelQueue := s.modelQueue ++ [t] }.setCall c (.announcing t wait bounded)

/-- `submit` up to the end of its section. -/
def submit (cfg : Config) (c : CallId) (args : Submission α) (clock : ℚ) (s : State α) : State α :=
  match args.check with
  | .error failure => s.raise c failure
  | .ok envelope => s.accept cfg c envelope args.wait args.timeout.isSome clock

/-- The rest of `submit`: `_emit_event(ticket, QUEUED, None)`, then `ticket.wait`. -/
def announce (c : CallId) (t : TicketId) (wait bounded : Bool) (emission : Emission) (s : State α) : State α :=
  let next := if wait then .waiting t bounded else .returned (.ticket t)
  match emission with
  | .quiet => s.setCall c next
  | .callbackFailed text => { s with lastEventError := some text }.setCall c next
  | .escapes text => s.raise c (.driver text)

/-! ## Manual authority and holds -/

/-- The first section of `acquire_manual`. -/
def acquireManual (c : CallId) : State α → State α :=
  requireOpen c fun s =>
    if s.authority = .estopLatched then s.raise c (.commandRejected "emergency stop is latched")
    else
      let s := { s with authority := .manual, deadmanActive := false, manualHeartbeat := none }
      let s := ((s.cancelActive none).clearModelQueue .cleared).clearManual .cleared
      if s.holdInProgress then s.setCall c .joining
      else { s with holdError := none, holdInProgress := true }.setCall c (.holding .acquireManual)

/-- The first section of `release_manual`. -/
def releaseManual (c : CallId) : State α → State α :=
  requireOpen c fun s =>
    if s.authority = .estopLatched then s.raise c (.commandRejected "emergency stop is latched")
    else
      let s := { s with deadmanActive := false, manualHeartbeat := none }
      let s := (s.cancelActive (some .manual)).clearManual .cleared
      { s with holdInProgress := true }.setCall c (.holding .releaseManual)

/-- The first section of `set_deadman`. -/
def setDeadman (c : CallId) (active : Bool) (clock : ℚ) : State α → State α :=
  requireOpen c fun s =>
    if s.authority ≠ .manual then s.raise c (.commandRejected "manual control is not acquired")
    else
      let s := { s with deadmanActive := active, manualHeartbeat := if active then some clock else none }
      if active then s.setCall c (.returned .none)
      else
        let s := (s.cancelActive (some .manual)).clearManual .cleared
        { s with holdInProgress := true }.setCall c (.holding .setDeadman)

/-- The first section of `hold`. -/
def hold (c : CallId) : State α → State α :=
  requireOpen c fun s =>
    let s := ((s.cancelActive none).clearModelQueue .cleared).clearManual .cleared
    { s with holdInProgress := true }.setCall c (.holding .hold)

/-- The first section of `cancel_automatic_work`. -/
def cancelAutomaticWork (c : CallId) (taskCancel : Option Token) : State α → State α :=
  requireOpen c fun s =>
    if taskCancel.isSome ∧ taskCancel ≠ s.modelTaskCancel then s.setCall c (.returned (.bool false))
    else
      let owned := taskCancel.isNone || s.active.any fun t => s.heap.taskCancel? t == taskCancel
      let s := { s with heap := s.heap.setEvent s.modelTaskCancel }
      let s := s.clearModelQueue .cleared
      let s := if owned then s.cancelActiveAutomaticTicket else s
      if s.authority = .model then
        { s with holdInProgress := true }.setCall c (.holding .cancelAutomaticWork)
      else s.setCall c (.returned (.bool true))

/-! ## Emergency stop and reset -/

/-- The first section of `emergency_stop`. -/
def emergencyStop (c : CallId) : State α → State α :=
  requireOpen c fun s =>
    let s := { s with
      estopGeneration := s.estopGeneration + 1
      authority := .estopLatched
      deadmanActive := false
      manualHeartbeat := none }
    let s := ((s.cancelActive none).clearModelQueue .cleared).clearManual .cleared
    { s with holdInProgress := true }.setCall c .stopping

/-- The `except` section of `emergency_stop`. -/
def recordStopFailure (c : CallId) (failure : Failure) (s : State α) : State α :=
  { s with lastStopError := some failure.text }.setCall c (.stopEnding (some failure))

/-- The `finally` section of `emergency_stop`. -/
def endStop (c : CallId) (next : Call) (s : State α) : State α :=
  { s with holdInProgress := false }.setCall c next

/-- The first section of `reset_emergency_stop`. -/
def resetEmergencyStop (c : CallId) : State α → State α :=
  requireOpen c fun s =>
    if s.authority ≠ .estopLatched then s.raise c (.commandRejected "emergency stop is not latched")
    else s.setCall c (.resetting s.estopGeneration)

/-- The `except` section of `reset_emergency_stop`. -/
def recordResetFailure (c : CallId) (failure : Failure) (s : State α) : State α :=
  { s with lastStopError := some failure.text }.raise c failure

/-- The last section of `reset_emergency_stop`. -/
def commitReset (c : CallId) (generation : Nat) : State α → State α :=
  requireOpen c fun s =>
    if s.estopGeneration ≠ generation then
      s.raise c (.commandRejected "emergency stop was triggered during reset")
    else
      { s with
        authority := .manual
        deadmanActive := false
        manualHeartbeat := none
        lastStopError := none
        lastCommandError := none }.setCall c (.returned .none)

/-! ## Closing -/

/-- The first section of `close`; only the first close holds, and only when asked to. -/
def close (c : CallId) (hold : Bool) (s : State α) : State α :=
  if s.closed then s.setCall c (.closing none)
  else
    let s := { s with closed := true, deadmanActive := false, manualHeartbeat := none }
    let s := ((s.cancelActive none).clearModelQueue .cleared).clearManual .cleared
    s.setCall c (if hold then .closeWaiting else .closing none)

/-- The result `close` reports when a stop is still in flight at its deadline. -/
def stopStillInFlight : IOResult where
  operation := .stop
  status := .unknown
  quarantined := true
  error := some "emergency stop is still in flight"

/-- The end of `close`, after `port.close()` itself raised or not. -/
def endClose (c : CallId) (failure portFailure : Option Failure) (s : State α) : State α :=
  match failure.or portFailure with
  | some failure => s.raise c failure
  | none => s.setCall c (.returned .none)

/-! ## The end of a hold -/

/-- The `except` section of `_finish_hold`. -/
def failHold (c : CallId) (failure : Failure) (s : State α) : State α :=
  let s := { s with
    estopGeneration := s.estopGeneration + 1
    authority := .estopLatched
    deadmanActive := false
    manualHeartbeat := none
    holdInProgress := false
    holdError := some failure
    lastStopError := some failure.text }
  let s := ((s.cancelActive none).clearModelQueue .cleared).clearManual .cleared
  s.raise c failure

def authorityAfterHold (next : Option AuthorityState) (s : State α) : AuthorityState :=
  match next with
  | some authority => if s.authority = .estopLatched then s.authority else authority
  | none => s.authority

/-- The last section of `_finish_hold`. -/
def commitHold (c : CallId) (holder : Holder) (s : State α) : State α :=
  let authority := s.authorityAfterHold holder.nextAuthority
  let s := { s with
    authority := authority
    holdInProgress := false
    holdError := none
    lastStopError := if authority = AuthorityState.estopLatched then s.lastStopError else none }
  s.setCall c holder.next

/-- `_wait_for_hold` once it stops waiting. -/
def joinHold (c : CallId) (s : State α) : State α :=
  match s.holdError with
  | some failure => s.raise c failure
  | none => s.setCall c (.returned .none)

end State

/-! ## The worker and the watchdog -/

def mapPortResult (result : Option IOResult) (cancelled : Bool) : TerminalStatus × Option Failure :=
  let done : TerminalStatus := if cancelled then .cancelled else .executed
  match result with
  | none => (done, none)
  | some r => match r.status with
    | .completed => (done, none)
    | .cancelled => (.cancelled, none)
    | .expired => (.expired, none)
    | .unknown => (.failed, some (.ioUnknown r))
    | .failed => match r.error with
      | some text => (.failed, some (.driver text))
      | none => (.failed, some (.ioOperation r))
    | .rejected => (.failed, some (.ioOperation r))

/-- Where `_run` goes once `port.execute` is over; `cancelled` is the ticket's cancel event
as read then. -/
def settle (t : TicketId) (cancelled : Bool) : ExecuteReply → Worker
  | .returned result =>
    let (status, error) := mapPortResult result cancelled
    if status = .failed then
      .recording t ⟨status, error, result⟩ ((error.map Failure.text).getD "") true
    else .emitting t ⟨status, error, result⟩
  | .raised text result =>
    .recording t ⟨if cancelled then .cancelled else .failed, some (.driver text), result⟩ text (!cancelled)
  | .exits => .unwinding t

namespace State

/-- What `_run` does with the ticket `_next_ticket` gave it, inside the same section. -/
def dispatch (clock : ℚ) (t : TicketId) (s : State α) : State α :=
  match s.heap.tickets[t]? with
  | none => s
  | some ticket =>
    if !ticket.markRunning.1 then { s with worker := .looping }
    else
      let s := { s with heap := s.heap.update t fun k => k.markRunning.2 }
      if ticket.envelope.taskCancel.any s.heap.isSet then
        { s with heap := s.heap.finish t .cancelled none none, worker := .early t .cancelled }
      else if ticket.envelope.deadline.any fun deadline => clock > deadline then
        { s with
          active := none
          heap := s.heap.finish t .expired none none
          worker := .early t .expired }
      else { s with active := some t, worker := .dispatching t }

/-- The section at the head of `_run`; `none` while it waits. -/
def take (clock : ℚ) (s : State α) : Option (State α) :=
  match s.nextTicket with
  | (none, s) => if s.closed then some { s with worker := .ended } else none
  | (some t, s) => if s.closed then some { s with worker := .ended } else some (s.dispatch clock t)

/-- `_emit_event` in the worker: its callback failure is recorded in a section of its own. -/
def emit (emission : Emission) (done escaped : Worker) (s : State α) : State α :=
  match emission with
  | .quiet => { s with worker := done }
  | .callbackFailed text => { s with lastEventError := some text, worker := done }
  | .escapes _ => { s with worker := escaped }

/-- The `finally` section of `_run`. -/
def release (t : TicketId) (next : Worker) (s : State α) : State α :=
  { s with active := if s.active = some t then none else s.active, worker := next }

/-- One turn of `_watch_deadman`, whose hold is the call `c`; `none` while it waits. -/
def watch (cfg : Config) (c : CallId) (clock : ℚ) (s : State α) : Option (State α) :=
  if s.closed then some { s with watchdog := .ended }
  else if s.authority ≠ .manual ∨ !s.deadmanActive then none
  else match s.manualHeartbeat with
    | none => none
    | some heartbeat =>
      if heartbeat + cfg.manualDeadmanTimeout - clock > 0 then none
      else
        let s := { s with deadmanActive := false, manualHeartbeat := none }
        let s := (s.cancelActive (some .manual)).clearManual .cleared
        some ({ s with holdInProgress := true, watchdog := .holding c }.setCall c (.holding .watchDeadman))

end State

end EmbodiRun.Arbiter
