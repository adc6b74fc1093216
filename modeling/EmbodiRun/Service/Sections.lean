/-
# Service.Sections -- `ControlService`, its locks, and the arbiter it publishes

The service owns one robot through one arbiter.  Before there is an arbiter an emergency
stop is a flag of the service, afterwards it is the arbiter's latch.  A call is a path
through the sections of `_control_lock`, some of them inside `_robot_lock`,
`_manual_operation_lock` or `_task_lock`, and through the calls it makes into the arbiter
(`Errand`), which the arbiter's own machine runs.

What a driver, a camera, a client or the device manager does is up to the environment: it
succeeds, or `fails` ends the call.  `_robot` and `_current_arbiter` are published together,
so `arbiter` stands for both.  `close` is none of the operations here, so `_closed` is never
set and its checks never refuse; and `control_snapshot` at the end of a manual operation,
camera work and reads of the bus leave no trace in these fields.
-/
import EmbodiRun.Arbiter.Step

namespace EmbodiRun.Service

open Io
open Arbiter (Token TicketId)

abbrev CallId := Nat

/-- `(caller_id, session_id)`, as `_manual_owner_key` normalizes it. -/
abbrev Owner := String × String

structure Config where
  arbiter : Arbiter.Config
  externalOwner : Bool := false
  /-- The adapter was prepared as part of its connection. -/
  preparedOnConnect : Bool := false

/-! ## Calls -/

inductive Failure where
  | rejected (message : String)
  | arbiter (failure : Arbiter.Failure)
  /-- A `BaseException` out of an arbiter method. -/
  | exits
  | external (text : String)

inductive Operation (α : Type) where
  | execute (cancelEvent : Option Token)
  | observe (includeRobot : Bool)
  | getControlArbiter
  | emergencyStop
  | resetEmergencyStop
  | acquireManual (owner : Owner)
  | releaseManual (owner : Owner)
  | setManualDeadman (owner : Owner) (active : Bool)
  | submitManualAction (owner : Owner) (action : α)

/-- Who calls `_ensure_robot_arbiter`; `reserved` is the local of `acquire_manual`. -/
inductive Client where
  | execute (cancelEvent : Option Token)
  | getControlArbiter
  | acquireManual (owner : Owner) (reserved : Bool)

inductive Errand (α : Type) where
  | stop
  | reset
  | interrupt (client : Client)
  | beginTask (cancelEvent : Option Token)
  | acquireManual (owner : Owner) (reserved : Bool)
  | releaseManual (owner : Owner)
  | setDeadman (active : Bool)
  | submitManual (action : α)

inductive Call (α : Type) where
  | unused
  /-- Before a method of the arbiter, and inside it. -/
  | calling (errand : Errand α)
  | inArbiter (errand : Errand α) (c : Arbiter.CallId)
  /-- The end of `emergency_stop` and of `reset_emergency_stop`. -/
  | clearing
  | stopSnapshot
  | resetSnapshot
  /-- `_ensure_robot_arbiter`: before `_robot_lock`, opening the robot, preparing it. -/
  | entering (client : Client)
  | opening (client : Client)
  | preparing (client : Client)
  /-- `execute`: before `_task_lock`, past `begin_model_task`, in the loop, past the loop. -/
  | tasking (cancelEvent : Option Token)
  | storing (token : Option Token)
  | running (token : Option Token)
  | leaving (failure : Option Failure)
  /-- The manual operations: before `_manual_operation_lock`; and `acquire_manual` with the
  arbiter, before and after it reads the task token. -/
  | waiting (op : Operation α)
  | ensured (owner : Owner) (reserved : Bool)
  | cancelling (owner : Owner) (reserved : Bool) (token : Token)
  /-- `_observe_robot_read_only`: before `_robot_lock`, opening the robot. -/
  | observing
  | connecting
  | returned
  | failed (failure : Failure)

/-- The arbiter's operation behind an errand; `clock` is what the arbiter reads. -/
def Errand.operation {α : Type} (clock : ℚ) : Errand α → Arbiter.Operation α
  | .stop | .interrupt _ => .emergencyStop
  | .reset => .resetEmergencyStop
  | .beginTask cancelEvent => .beginAutomaticTask cancelEvent
  | .acquireManual _ _ => .acquireManual
  | .releaseManual _ => .releaseManual
  | .setDeadman active => .setDeadman active clock
  | .submitManual action => .submit { action, source := .manual, wait := false } clock

/-! ## The state -/

/-- A service with everything that runs on it.  `attached` records that
`_ensure_robot_arbiter` has handed the arbiter out.  The port of the arbiter runs a command
on the robot's bus: `inPort` are the commands that wait there, `handed` those the robot was
asked to execute, oldest first. -/
structure State (α : Type) where
  estopLatched : Bool
  arbiter : Option (Arbiter.State α)
  prepared : Bool
  manualOwner : Option Owner
  taskCancel : Option Token
  robotLock : Option CallId
  manualLock : Option CallId
  taskLock : Bool
  attached : Bool
  calls : CallId → Call α
  inPort : List TicketId
  handed : List TicketId

variable {α : Type}

/-- The state `__init__` leaves. -/
def State.init : State α where
  estopLatched := false
  arbiter := none
  prepared := false
  manualOwner := none
  taskCancel := none
  robotLock := none
  manualLock := none
  taskLock := false
  attached := false
  calls := fun _ => .unused
  inPort := []
  handed := []

namespace State

def setCall (c : CallId) (call : Call α) (s : State α) : State α :=
  { s with calls := Function.update s.calls c call }

/-- `event.set()` on an optional event. -/
def setEvent (token : Option Token) (s : State α) : State α :=
  { s with arbiter := s.arbiter.map fun a => { a with heap := a.heap.setEvent token } }

/-! ## Emergency stop and reset -/

/-- The section of `emergency_stop`. -/
def emergencyStop (c : CallId) (s : State α) : State α :=
  match s.arbiter with
  | none => { s with estopLatched := true }.setEvent s.taskCancel |>.setCall c .stopSnapshot
  | some _ => s.setEvent s.taskCancel |>.setCall c (.calling .stop)

/-- The first section of `reset_emergency_stop`. -/
def resetEmergencyStop (c : CallId) (s : State α) : State α :=
  s.setCall c (if s.arbiter.isSome then .calling .reset else .clearing)

/-- The section of `reset_emergency_stop` without an arbiter. -/
def clearFlag (c : CallId) (s : State α) : State α :=
  { s with estopLatched := false }.setCall c .resetSnapshot

/-! ## `_ensure_robot_arbiter` -/

/-- The `except` section of `acquire_manual`. -/
def rollback (owner : Owner) (reserved : Bool) (s : State α) : State α :=
  if reserved ∧ s.manualOwner = some owner then { s with manualOwner := none } else s

def attach (c : CallId) (client : Client) (s : State α) : State α :=
  let s := { s with attached := true }
  match client with
  | .execute cancelEvent => s.setCall c (.calling (.beginTask cancelEvent))
  | .getControlArbiter => s.setCall c .returned
  | .acquireManual owner reserved => s.setCall c (.ensured owner reserved)

/-- An exception of `_ensure_robot_arbiter` unwinds its caller. -/
def refuse (c : CallId) (client : Client) (failure : Failure) (s : State α) : State α :=
  match client with
  | .execute _ => { s with taskLock := false }.setCall c (.failed failure)
  | .getControlArbiter => s.setCall c (.failed failure)
  | .acquireManual owner reserved =>
    { s.rollback owner reserved with manualLock := none }.setCall c (.failed failure)

/-- `_robot_lock` and the first section inside; `adapterPrepared` is what the adapter says. -/
def enter (c : CallId) (client : Client) (adapterPrepared : Bool) (s : State α) : State α :=
  match s.arbiter with
  | some _ =>
    if !s.prepared || !adapterPrepared then { s with robotLock := some c }.setCall c (.preparing client)
    else s.attach c client
  | none =>
    if s.estopLatched then
      s.refuse c client (.rejected "service is closed or emergency stop is latched")
    else { s with robotLock := some c }.setCall c (.opening client)

def publish (cfg : Config) (c : CallId) (client : Client) (s : State α) : State α :=
  let prepared := !cfg.externalOwner || cfg.preparedOnConnect
  let s := { s with arbiter := some .init, prepared := prepared }
  if s.estopLatched then s.setCall c (.calling (.interrupt client))
  else if cfg.externalOwner && !prepared then s.setCall c (.preparing client)
  else { s with robotLock := none }.attach c client

/-- `_prepare_existing_robot` succeeded. -/
def prepare (c : CallId) (client : Client) (s : State α) : State α :=
  { s with prepared := true, robotLock := none }.attach c client

/-- `_observe_robot_read_only` up to its first section. -/
def connect (c : CallId) (s : State α) : State α :=
  if s.arbiter.isSome then s.setCall c .returned
  else { s with robotLock := some c }.setCall c .connecting

def publishPassive (c : CallId) (s : State α) : State α :=
  { s with arbiter := some .init, prepared := false, robotLock := none }.setCall c .returned

/-! ## `execute` -/

/-- The section of `execute`. -/
def execute (c : CallId) (cancelEvent : Option Token) (s : State α) : State α :=
  if s.arbiter.isNone && s.estopLatched then
    s.setCall c (.failed (.rejected "emergency stop is latched"))
  else s.setCall c (.tasking cancelEvent)

/-- `_task_lock.acquire(blocking=False)`. -/
def beginTask (c : CallId) (cancelEvent : Option Token) (s : State α) : State α :=
  if s.taskLock then
    s.setCall c (.failed (.rejected "control service is already executing a task"))
  else { s with taskLock := true }.setCall c (.entering (.execute cancelEvent))

def storeTask (c : CallId) (token : Option Token) (s : State α) : State α :=
  { s with taskCancel := token }.setCall c (.running token)

/-- The `finally` section. -/
def dropTask (c : CallId) (token : Option Token) (failure : Option Failure) (s : State α) : State α :=
  { s with taskCancel := if s.taskCancel = token then none else s.taskCancel }.setCall c (.leaving failure)

/-! ## Manual operations -/

/-- `_require_manual_owner_locked` in front of a call of the arbiter. -/
def requireOwner (c : CallId) (owner : Owner) (errand : Errand α) (s : State α) : State α :=
  if s.manualOwner.isNone then
    s.setCall c (.failed (.rejected "manual control must be acquired first"))
  else if s.manualOwner ≠ some owner then
    s.setCall c (.failed (.rejected "manual control is owned by another caller"))
  else if s.arbiter.isNone then
    s.setCall c (.failed (.rejected "manual control must be acquired first"))
  else { s with manualLock := some c }.setCall c (.calling errand)

/-- The first section inside `_manual_operation_lock`. -/
def manual (c : CallId) (op : Operation α) (s : State α) : Option (State α) :=
  match op with
  | .acquireManual owner =>
    some (if s.manualOwner.isSome ∧ s.manualOwner ≠ some owner then
        s.setCall c (.failed (.rejected "manual control is owned by another caller"))
      else
        { s with manualOwner := some owner, manualLock := some c }.setCall c
          (.entering (.acquireManual owner s.manualOwner.isNone)))
  | .releaseManual owner => some (s.requireOwner c owner (.releaseManual owner))
  | .setManualDeadman owner active => some (s.requireOwner c owner (.setDeadman active))
  | .submitManualAction owner action => some (s.requireOwner c owner (.submitManual action))
  | _ => none

/-- The section of `acquire_manual` that reads the current task token. -/
def readTask (c : CallId) (owner : Owner) (reserved : Bool) (s : State α) : State α :=
  match s.taskCancel with
  | some token => s.setCall c (.cancelling owner reserved token)
  | none => s.setCall c (.calling (.acquireManual owner reserved))

/-! ## The end of an errand -/

def succeed (c : CallId) (value : Arbiter.Value) (s : State α) : Errand α → State α
  | .stop => s.setCall c .stopSnapshot
  | .reset => s.setCall c .resetSnapshot
  | .interrupt client =>
    { s with robotLock := none }.refuse c client
      (.rejected "connection interrupted by emergency stop or shutdown")
  | .beginTask _ => s.setCall c (.storing (match value with | .token token => some token | _ => none))
  | .acquireManual _ _ | .setDeadman _ | .submitManual _ => { s with manualLock := none }.setCall c .returned
  | .releaseManual owner =>
    { s.rollback owner true with manualLock := none }.setCall c .returned

def fail (c : CallId) (failure : Failure) (s : State α) : Errand α → State α
  | .stop | .reset => s.setCall c (.failed failure)
  | .interrupt client => { s with robotLock := none }.refuse c client failure
  | .beginTask _ => s.dropTask c none (some failure)
  | .acquireManual owner reserved =>
    { s.rollback owner reserved with manualLock := none }.setCall c (.failed failure)
  | .releaseManual _ | .setDeadman _ | .submitManual _ =>
    { s with manualLock := none }.setCall c (.failed failure)

def resume (c : CallId) (errand : Errand α) (ac : Arbiter.CallId) (s : State α) : Option (State α) :=
  s.arbiter.bind fun a => match a.calls ac with
    | .returned value => some (s.succeed c value errand)
    | .raised failure => some (s.fail c (.arbiter failure) errand)
    | .exited => some (s.fail c .exits errand)
    | _ => none

def start (c : CallId) (s : State α) : Operation α → State α
  | .execute cancelEvent => s.execute c cancelEvent
  | .observe includeRobot =>
    s.setCall c (if includeRobot && s.arbiter.isNone then .observing else .returned)
  | .getControlArbiter => s.setCall c (.entering .getControlArbiter)
  | .emergencyStop => s.emergencyStop c
  | .resetEmergencyStop => s.resetEmergencyStop c
  | op => s.setCall c (.waiting op)

end State

/-! ## The machine -/

inductive Label (α : Type) where
  | start (c : CallId) (op : Operation α)
  /-- `c` calls the arbiter, by the fresh arbiter call `ac`. -/
  | call (c : CallId) (ac : Arbiter.CallId) (clock : ℚ)
  /-- `c` enters `_ensure_robot_arbiter`. -/
  | enter (c : CallId) (adapterPrepared : Bool)
  /-- The next section of `c`. -/
  | proceed (c : CallId)
  /-- Code outside, which `c` runs, raises. -/
  | fails (c : CallId) (text : String)
  /-- A move of the arbiter's own threads, or of a call in it. -/
  | arbiter (l : Arbiter.Label α)
  /-- Whoever holds the arbiter calls it: a runtime, a direct runner. -/
  | use (ac : Arbiter.CallId) (op : Arbiter.Operation α)
  /-- The bus reaches a command: the port looks at its cancel event once more and, if it is
  clear, calls `robot.execute`.  Or the bus drops it. -/
  | hand (k : TicketId)
  | drop (k : TicketId)

/-- `close` of the arbiter is for `ControlService.close`. -/
def closes : Arbiter.Operation α → Bool
  | .close _ => true
  | _ => false

/-- `port.execute` raised because its wait on the bus ran out. -/
def ranOut : Arbiter.ExecuteReply → Bool
  | .raised _ (some result) => result.status = .unknown
  | _ => false

namespace State

/-- `port.execute` ends before the bus has reached its command only where its wait ran out. -/
def portAllows (a : Arbiter.State α) (l : Arbiter.Label α) (s : State α) : Bool :=
  match l, a.worker with
  | .executeReplies reply, .executing k => k ∉ s.inPort || ranOut reply
  | .start _ _, _ => false
  | _, _ => true

/-- `port.execute` puts the command of the worker on the bus. -/
def enqueued (a : Arbiter.State α) (l : Arbiter.Label α) (s : State α) : List TicketId :=
  match l, a.worker with
  | .execute, .dispatching k => s.inPort ++ [k]
  | _, _ => s.inPort

/-- The next section of `c`, where it has one and does not wait. -/
def proceed (cfg : Config) (c : CallId) (s : State α) : Option (State α) :=
  match s.calls c with
  | .inArbiter errand ac => s.resume c errand ac
  | .clearing => some (s.clearFlag c)
  | .stopSnapshot | .resetSnapshot => some (s.setCall c .returned)
  | .opening client => some (s.publish cfg c client)
  | .preparing client => some (s.prepare c client)
  | .tasking cancelEvent => some (s.beginTask c cancelEvent)
  | .storing token => some (s.storeTask c token)
  | .running token => some (s.dropTask c token none)
  | .leaving failure =>
    some ({ s with taskLock := false }.setCall c (failure.elim .returned .failed))
  | .waiting op => if s.manualLock.isNone then s.manual c op else none
  | .ensured owner reserved => some (s.readTask c owner reserved)
  | .cancelling owner reserved token =>
    some ((s.setEvent (some token)).setCall c (.calling (.acquireManual owner reserved)))
  | .observing => if s.robotLock.isNone then some (s.connect c) else none
  | .connecting => some (s.publishPassive c)
  | _ => none

/-- Outside code that `c` runs raises. -/
def fails (c : CallId) (failure : Failure) (s : State α) : Option (State α) :=
  match s.calls c with
  | .entering client => some (s.refuse c client failure)
  | .opening client | .preparing client =>
    some ({ s with robotLock := none }.refuse c client failure)
  | .running token => some (s.dropTask c token (some failure))
  | .connecting => some ({ s with robotLock := none }.setCall c (.failed failure))
  | _ => none

end State

def step (cfg : Config) (s : State α) : Label α → Option (State α)
  | .start c op => match s.calls c with
      | .unused => some (s.start c op)
      | _ => none
  | .call c ac clock => match s.calls c with
      | .calling errand => s.arbiter.bind fun a =>
        (Arbiter.step cfg.arbiter a (.start ac (errand.operation clock))).map fun b =>
          { s with arbiter := some b }.setCall c (.inArbiter errand ac)
      | _ => none
  | .enter c adapterPrepared => match s.calls c with
      | .entering client =>
        if s.robotLock.isNone then some (s.enter c client adapterPrepared) else none
      | _ => none
  | .proceed c => s.proceed cfg c
  | .fails c text => s.fails c (.external text)
  | .arbiter l => s.arbiter.bind fun a =>
    if s.portAllows a l then
      (Arbiter.step cfg.arbiter a l).map fun b =>
        { s with arbiter := some b, inPort := s.enqueued a l }
    else none
  | .use ac op => s.arbiter.bind fun a =>
    if s.attached && !closes op then
      (Arbiter.step cfg.arbiter a (.start ac op)).map fun b => { s with arbiter := some b }
    else none
  | .hand k => s.arbiter.bind fun a =>
    if k ∈ s.inPort then
      some { s with
        inPort := s.inPort.erase k
        handed := if a.heap.cancelled k then s.handed else s.handed ++ [k] }
    else none
  | .drop k => if k ∈ s.inPort then some { s with inPort := s.inPort.erase k } else none

end EmbodiRun.Service
