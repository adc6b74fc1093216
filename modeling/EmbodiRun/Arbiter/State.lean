/-
# Arbiter.State -- the arbiter's fields, the calls in progress, and the locked helpers

`State` is a `RobotControlArbiter` together with everything that runs on it: the
fields behind `_condition`, the shared heap, where every call of a public method
stands (`Call`), and where the worker and the watchdog thread stand.  A call is
addressed by an identity that is never used twice.

The `_cancel_*`, `_clear_*` and `_next_ticket` helpers below run inside a section
of the lock; each is one update of the state.
-/
import EmbodiRun.Arbiter.Command

namespace EmbodiRun.Arbiter

open Io

/-- The constructor arguments that `__init__` has checked. -/
structure Config where
  modelQueueCapacity : Nat
  manualDeadmanTimeout : ℚ
  capacity_pos : 1 ≤ modelQueueCapacity
  timeout_pos : 0 < manualDeadmanTimeout

/-- The checks of `__init__`. -/
def Config.make (modelQueueCapacity : Nat) (manualDeadmanTimeout : ℚ) : Except Failure Config :=
  if capacity : modelQueueCapacity < 1 then
    .error (.valueError "model_queue_capacity must be at least 1")
  else if timeout : manualDeadmanTimeout ≤ 0 then
    .error (.valueError "manual_deadman_timeout_s must be positive")
  else .ok ⟨modelQueueCapacity, manualDeadmanTimeout, Nat.le_of_not_lt capacity, Rat.not_le.mp timeout⟩

/-- Room for two queued commands and a deadman of one second, for runs on fixed inputs. -/
def Config.two : Config := ⟨2, 1, by decide, by decide⟩

/-! ## What the port answers -/

/-- How `port.hold()` or `port.emergency_stop()` ends: a return (of an `IOResult` or of
anything else), an `Exception`, or a `BaseException` that no handler of the arbiter catches. -/
inductive StopReply where
  | returned (result : Option IOResult)
  | raised (text : String)
  | exits
  deriving DecidableEq

def stopResultIsUncertain : Option IOResult → Bool
  | some result => result.status == .unknown || result.status == .rejected
  | none => false

/-- The exception an `except Exception` around a stop call sees, if any: the port's own,
or the `IOUnknownError` raised for an uncertain result. -/
def StopReply.failure : StopReply → Option Failure
  | .returned (some result) =>
    if stopResultIsUncertain (some result) then some (.ioUnknown result) else none
  | .returned none => none
  | .raised text => some (.driver text)
  | .exits => none

/-- How `port.execute()` ends; an exception may carry an `IOResult`. -/
inductive ExecuteReply where
  | returned (result : Option IOResult)
  | raised (text : String) (result : Option IOResult)
  | exits

/-- How `_emit_event` ends: silently, with a callback failure that is recorded, or with an
exception while the payload is built, which nothing in `_emit_event` catches. -/
inductive Emission where
  | quiet
  | callbackFailed (text : String)
  | escapes (text : String)

/-! ## Threads -/

/-- Whose `_finish_hold` a call is in. -/
inductive Holder where
  | acquireManual | releaseManual | setDeadman | hold | cancelAutomaticWork | watchDeadman
  | finishAutomaticWork (task : Option Token) (cancelled : Bool)
  deriving DecidableEq

/-- The `next_authority` argument of `_finish_hold`. -/
def Holder.nextAuthority : Holder → Option AuthorityState
  | .releaseManual => some .model
  | _ => none

inductive Value where
  | none
  | bool (value : Bool)
  | token (value : Token)
  | ticket (value : TicketId)
  deriving DecidableEq

/-- Where one call of a public method stands.  `holding`, `stopping`, `resetting` and
`closeHolding` are inside a stop call of the port, outside the lock. -/
inductive Call where
  | unused
  | announcing (t : TicketId) (wait bounded : Bool)
  | waiting (t : TicketId) (bounded : Bool)
  | registering (cancelEvent : Option Token)
  | joining
  | holding (holder : Holder)
  | held (holder : Holder) (failure : Option Failure)
  | detaching (task : Option Token) (cancelled : Bool)
  | stopping
  | stopFailed (failure : Failure)
  | stopEnding (failure : Option Failure)
  | stopExiting
  | resetting (generation : Nat)
  | resetHeld (generation : Nat) (failure : Option Failure)
  | closeWaiting
  | closeHolding
  | closing (failure : Option Failure)
  | returned (value : Value)
  | raised (failure : Failure)
  | exited
  deriving DecidableEq

/-- The arguments of the worker's `_emit_event` and `_finish`. -/
structure Settlement where
  status : TerminalStatus
  error : Option Failure
  result : Option IOResult

/-- Where the command worker stands in `_run`.  From `dispatching` on it holds one ticket. -/
inductive Worker where
  | looping
  | early (t : TicketId) (status : TerminalStatus)
  | dispatching (t : TicketId)
  | executing (t : TicketId)
  | replied (t : TicketId) (reply : ExecuteReply)
  | recording (t : TicketId) (settlement : Settlement) (text : String) (stop : Bool)
  | alarmed (t : TicketId) (settlement : Settlement)
  | stopping (t : TicketId) (settlement : Settlement) (c : CallId)
  | emitting (t : TicketId) (settlement : Settlement)
  | finishing (t : TicketId) (settlement : Settlement)
  | releasing (t : TicketId)
  | unwinding (t : TicketId)
  | ended

def Worker.ticket? : Worker → Option TicketId
  | .dispatching t | .executing t | .replied t _ | .recording t _ _ _ | .alarmed t _
  | .stopping t _ _ | .emitting t _ | .finishing t _ | .releasing t | .unwinding t => some t
  | .looping | .early _ _ | .ended => none

inductive Watchdog where
  | watching
  | holding (c : CallId)
  | ended

/-! ## The state -/

/-- An arbiter and everything that runs on it.  `portCalls` is what the port has seen:
the ticket of every `port.execute` call, oldest first. -/
structure State (α : Type) where
  authority : AuthorityState
  deadmanActive : Bool
  manualHeartbeat : Option ℚ
  modelQueue : List TicketId
  manualPending : Option TicketId
  active : Option TicketId
  holdInProgress : Bool
  holdError : Option Failure
  estopGeneration : Nat
  lastStopError : Option String
  lastCommandError : Option String
  lastEventError : Option String
  modelTaskCancel : Option Token
  closed : Bool
  heap : Heap α
  calls : CallId → Call
  worker : Worker
  watchdog : Watchdog
  portCalls : List TicketId

variable {α : Type}

/-- The state `__init__` leaves. -/
def State.init : State α where
  authority := .model
  deadmanActive := false
  manualHeartbeat := none
  modelQueue := []
  manualPending := none
  active := none
  holdInProgress := false
  holdError := none
  estopGeneration := 0
  lastStopError := none
  lastCommandError := none
  lastEventError := none
  modelTaskCancel := none
  closed := false
  heap := .empty
  calls := fun _ => .unused
  worker := .looping
  watchdog := .watching
  portCalls := []

namespace State

def setCall (c : CallId) (call : Call) (s : State α) : State α :=
  { s with calls := Function.update s.calls c call }

@[simp, grind =] theorem setCall_self (c : CallId) (call : Call) (s : State α) :
    (s.setCall c call).calls c = call := by
  simp [setCall]

@[simp, grind =] theorem setCall_authority (c : CallId) (call : Call) (s : State α) :
    (s.setCall c call).authority = s.authority := rfl

@[simp, grind =] theorem setCall_holdInProgress (c : CallId) (call : Call) (s : State α) :
    (s.setCall c call).holdInProgress = s.holdInProgress := rfl

@[simp, grind =] theorem setCall_modelTaskCancel (c : CallId) (call : Call) (s : State α) :
    (s.setCall c call).modelTaskCancel = s.modelTaskCancel := rfl

def raise (c : CallId) (failure : Failure) (s : State α) : State α := s.setCall c (.raised failure)

/-- `_require_open` in front of the rest of a section. -/
def requireOpen (c : CallId) (body : State α → State α) (s : State α) : State α :=
  if s.closed then s.raise c (.runtimeError "robot control arbiter is closed") else body s

/-! ## Locked helpers -/

/-- `_cancel_active(source)`: without a source, or with an automatic one, the current task
token too. -/
def cancelActive (source : Option CommandSource) (s : State α) : State α :=
  let heap := if source.all (·.automatic) then s.heap.setEvent s.modelTaskCancel else s.heap
  { s with heap := heap.cancelIf (fun own => source.all (· == own)) s.active }

/-- `_cancel_active_automatic_locked`. -/
def cancelActiveAutomatic (s : State α) : State α :=
  { s with heap := (s.heap.setEvent s.modelTaskCancel).cancelIf (·.automatic) s.active }

/-- `_cancel_active_automatic_ticket_locked`. -/
def cancelActiveAutomaticTicket (s : State α) : State α :=
  { s with heap := s.heap.cancelIf (·.automatic) s.active }

/-- `_clear_model_queue(status)`. -/
def clearModelQueue (status : TerminalStatus) (s : State α) : State α :=
  { s with modelQueue := [], heap := s.heap.finishAll s.modelQueue status }

/-- `_clear_manual(status)`. -/
def clearManual (status : TerminalStatus) (s : State α) : State α :=
  { s with manualPending := none, heap := s.heap.finishAll s.manualPending.toList status }

def nextTicket (s : State α) : Option TicketId × State α :=
  if s.holdInProgress || s.authority == .estopLatched then (none, s)
  else if s.authority = .manual then
    if !s.deadmanActive then (none, s)
    else (s.manualPending, { s with manualPending := none })
  else match s.modelQueue with
    | [] => (none, s)
    | t :: rest => (some t, { s with modelQueue := rest })

end State

end EmbodiRun.Arbiter
