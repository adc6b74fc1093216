/-
# Arbiter.Step -- the arbiter as a machine of interleaved sections

A label is one atomic move of one thread: a critical section, or the end of an
unlocked call with the answer the environment gives.  Any number of callers may be
anywhere in their calls; the worker and the watchdog move like any other thread.
`step` is enabled exactly where the thread is at that point and does not wait.
-/
import EmbodiRun.Arbiter.Sections
import EmbodiRun.Transition.Machine

namespace EmbodiRun.Arbiter

open Io

/-- One move.  `clock` is a reading of the arbiter's clock, `c` a call. -/
inductive Label (α : Type) where
  /-- A caller creates an event, or sets one it holds. -/
  | newEvent
  | setEvent (token : Token)
  /-- A public method is called: its first section. -/
  | start (c : CallId) (op : Operation α)
  /-- The port's stop call of `c` is over. -/
  | stopReplies (c : CallId) (reply : StopReply)
  /-- The next section of `c`. -/
  | proceed (c : CallId)
  /-- `submit` leaves `_emit_event`. -/
  | announce (c : CallId) (emission : Emission)
  /-- A bounded wait of `c` runs out: `ticket.wait` or the wait of `close`. -/
  | timeout (c : CallId)
  /-- The port's own `close` is over, with the text it raised. -/
  | portCloses (c : CallId) (failure : Option String)
  /-- The worker: the section at the head of `_run`, then the moves up to its next turn. -/
  | take (clock : ℚ)
  | execute
  | executeReplies (reply : ExecuteReply)
  | settle
  | record
  | alarm (c : CallId)
  | alarmOver
  | emit (emission : Emission)
  | finish
  | release
  /-- The watchdog: one turn, and the end of its hold. -/
  | watch (c : CallId) (clock : ℚ)
  | watchOver

variable {α : Type}

def Operation.tokensExist (events : Nat) : Operation α → Prop
  | .beginAutomaticTask token | .finishAutomaticWork token | .cancelAutomaticWork token =>
    ∀ e ∈ token, e < events
  | .submit args _ => ∀ e ∈ args.taskCancel, e < events
  | _ => True

instance (events : Nat) (op : Operation α) : Decidable (op.tokensExist events) := by
  unfold Operation.tokensExist
  split <;> infer_instance

namespace State

def start (cfg : Config) (c : CallId) (op : Operation α) (s : State α) : State α :=
  match op with
  | .beginAutomaticTask token => s.beginAutomaticTask c token
  | .finishAutomaticWork token => s.finishAutomaticWork c token
  | .submit args clock => s.submit cfg c args clock
  | .acquireManual => s.acquireManual c
  | .releaseManual => s.releaseManual c
  | .setDeadman active clock => s.setDeadman c active clock
  | .hold => s.hold c
  | .cancelAutomaticWork token => s.cancelAutomaticWork c token
  | .emergencyStop => s.emergencyStop c
  | .resetEmergencyStop => s.resetEmergencyStop c
  | .close hold => s.close c hold

/-- The port's stop call of `c` is over.  A `BaseException` ends the call, past the
`finally` section of `emergency_stop`. -/
def stopReplies (c : CallId) (reply : StopReply) (s : State α) : Option (State α) :=
  match s.calls c with
  | .holding holder =>
    some (s.setCall c (if reply = .exits then .exited else .held holder reply.failure))
  | .stopping =>
    some (s.setCall c (if reply = .exits then .stopExiting else
      match reply.failure with
      | some failure => .stopFailed failure
      | none => .stopEnding none))
  | .resetting generation =>
    some (s.setCall c (if reply = .exits then .exited else .resetHeld generation reply.failure))
  | .closeHolding =>
    some (s.setCall c (if reply = .exits then .exited else .closing reply.failure))
  | _ => none

/-- The next section of `c`, where it has one and does not wait. -/
def proceed (c : CallId) (s : State α) : Option (State α) :=
  match s.calls c with
  | .registering token => some (s.registerTask c token)
  | .waiting t _ =>
    if (s.heap.status? t).any (·.terminal) then some (s.setCall c (.returned (.ticket t))) else none
  | .joining => if s.holdInProgress && !s.closed then none else some (s.joinHold c)
  | .held _ (some failure) => some (s.failHold c failure)
  | .held holder none => some (s.commitHold c holder)
  | .detaching task cancelled => some (s.detachTask c task cancelled)
  | .stopFailed failure => some (s.recordStopFailure c failure)
  | .stopEnding (some failure) => some (s.endStop c (.raised failure))
  | .stopEnding none => some (s.endStop c (.returned .none))
  | .stopExiting => some (s.endStop c .exited)
  | .resetHeld _ (some failure) => some (s.recordResetFailure c failure)
  | .resetHeld generation none => some (s.commitReset c generation)
  | .closeWaiting => if s.holdInProgress then none else some (s.setCall c .closeHolding)
  | _ => none

/-- A bounded wait of `c` runs out. -/
def timeout (c : CallId) (s : State α) : Option (State α) :=
  match s.calls c with
  | .waiting _ true =>
    some (s.raise c (.timeoutError "command did not finish before the timeout"))
  | .closeWaiting =>
    some (s.setCall c (if s.holdInProgress then .closing (some (.ioUnknown stopStillInFlight))
      else .closeHolding))
  | _ => none

/-- The worker's emission; after an early status there is no `finally` section left. -/
def workerEmits (emission : Emission) (s : State α) : Option (State α) :=
  match s.worker with
  | .early _ _ => some (s.emit emission .looping .ended)
  | .emitting t settlement => some (s.emit emission (.finishing t settlement) (.unwinding t))
  | _ => none

/-- `self.emergency_stop()` of the worker is over; an `Exception` it raised is suppressed. -/
def alarmOver (s : State α) : Option (State α) :=
  match s.worker with
  | .stopping t settlement c =>
    match s.calls c with
    | .returned _ | .raised _ => some { s with worker := .emitting t settlement }
    | .exited => some { s with worker := .unwinding t }
    | _ => none
  | _ => none

def watchOver (s : State α) : Option (State α) :=
  match s.watchdog with
  | .holding c =>
    match s.calls c with
    | .returned _ | .raised _ => some { s with watchdog := .watching }
    | .exited => some { s with watchdog := .ended }
    | _ => none
  | _ => none

end State

def step (cfg : Config) (s : State α) : Label α → Option (State α)
  | .newEvent => some { s with heap := s.heap.newEvent }
  | .setEvent token => some { s with heap := s.heap.setEvent (some token) }
  | .start c op =>
    if s.calls c = .unused ∧ op.tokensExist s.heap.events.length then some (s.start cfg c op)
    else none
  | .stopReplies c reply => s.stopReplies c reply
  | .proceed c => s.proceed c
  | .announce c emission =>
    match s.calls c with
    | .announcing t wait bounded => some (s.announce c t wait bounded emission)
    | _ => none
  | .timeout c => s.timeout c
  | .portCloses c failure =>
    match s.calls c with
    | .closing held => some (s.endClose c held (failure.map Failure.driver))
    | _ => none
  | .take clock => match s.worker with
      | .looping => s.take clock
      | _ => none
  | .execute => match s.worker with
      | .dispatching t => some { s with worker := .executing t, portCalls := s.portCalls ++ [t] }
      | _ => none
  | .executeReplies reply => match s.worker with
      | .executing t => some { s with worker := .replied t reply }
      | _ => none
  | .settle => match s.worker with
      | .replied t reply => some { s with worker := settle t (s.heap.cancelled t) reply }
      | _ => none
  | .record => match s.worker with
      | .recording t settlement text stop =>
        some { s with
          lastCommandError := some text
          worker := if stop then .alarmed t settlement else .emitting t settlement }
      | _ => none
  | .alarm c => match s.worker with
      | .alarmed t settlement =>
        if s.calls c = .unused then
          some ({ s with worker := .stopping t settlement c }.emergencyStop c)
        else none
      | _ => none
  | .alarmOver => s.alarmOver
  | .emit emission => s.workerEmits emission
  | .finish => match s.worker with
      | .finishing t settlement =>
        some { s with
          heap := s.heap.finish t settlement.status settlement.error settlement.result
          worker := .releasing t }
      | _ => none
  | .release => match s.worker with
      | .releasing t => some (s.release t .looping)
      | .unwinding t => some (s.release t .ended)
      | _ => none
  | .watch c clock => match s.watchdog with
      | .watching => if s.calls c = .unused then s.watch cfg c clock else none
      | _ => none
  | .watchOver => s.watchOver

end EmbodiRun.Arbiter
