/-
# Jobs.Registry -- a job registry, its threads, and the registries that follow it

A registry is one object over the job table: `submit` accepts a job and starts its worker,
`cancel` asks for its end and hands the cancel callback to a thread of its own, `close` marks
what is left unknown and waits for the threads.  Each `with self._condition` is one section
and one label; a section's transaction is atomic, and `ok = false` is one that fails and is
rolled back.  What is outside the sections (the callbacks, starting a thread, joining one)
has labels of its own.

The database outlives the registries: its lock is free once the last registry has closed the
store or its process is gone, and the next one recovers the rows it finds.
-/
import EmbodiRun.Jobs.Store
import EmbodiRun.Transition.Machine

namespace EmbodiRun.Jobs

open Function
open Data Devices Application Transition

/-- `_Runtime`: whether the job has a cancel callback, its event, and whether the callback was
taken. -/
structure Runtime where
  hasCancel : Bool
  cancelEvent : Bool := false
  cancelInvoked : Bool := false

inductive Worker where
  /-- The thread is started and has not reached its first section. -/
  | started
  | executing
  | executed (outcome : Outcome)
  | done

inductive Canceller where
  /-- `cancel` has left its first section and is about to register the thread. -/
  | chosen
  /-- The thread is in `_cancel_workers` and not started. -/
  | registered
  | calling
  | answered (answer : Outcome)
  /-- The callback's result is dealt with; the thread is about to leave `_cancel_workers`. -/
  | clearing
  | done
  /-- The registry was closed before the thread could be registered. -/
  | dropped

inductive Thread where
  | worker (key : JobKey)
  | canceller (key : JobKey)

/-- A call of `close`. -/
inductive Closer where
  | idle
  /-- It joins the threads it saw, one after the other. -/
  | joining (left all : List Thread)
  /-- No thread it saw is alive: it closes the store next. -/
  | drained
  | returned (drained : Bool)
  /-- Its transaction failed. -/
  | failed
  /-- A thread it joined was not started. -/
  | raised

structure Verdict where
  physical : PhysicalStatus
  error : Option Text

structure Registry where
  maxJobs : Nat
  maxEvents : Nat
  runtimes : JobKey → Option Runtime := fun _ => none
  workers : Dict JobKey Worker := .empty
  cancelWorkers : List JobKey := []
  cancellers : JobKey → Option Canceller := fun _ => none
  closed : Bool := false
  storeClosed : Bool := false
  closers : Nat → Closer := fun _ => .idle
  /-- The process is gone. -/
  crashed : Bool := false
  /-- The results of cancel callbacks that were committed; no section reads them. -/
  verdicts : JobKey → Option Verdict := fun _ => none
  /-- Whether a section went to the store after it was closed; no section reads it. -/
  late : Bool := false

/-- A registry with the job table; `executions` counts the calls of each execute callback, and no
section reads it. -/
structure Session extends Registry where
  rows : Dict JobKey Row
  executions : JobKey → Nat

inductive JobError where
  /-- `JobClosed`. -/
  | closed
  /-- `JobConflict`. -/
  | conflict
  /-- `JobCapacityExceeded`. -/
  | capacity
  /-- `JobNotFound` or `JobOwnershipError`. -/
  | noJob
  /-- What `normalize_json` raises. -/
  | notJson
  /-- What the database raises; the transaction is rolled back. -/
  | database

/-- The sections; a key has passed `_key`. -/
inductive Section where
  | submit (key : JobKey) (parameters : Fields) (runId : Text)
      (hasCancel inferenceRequested ok : Bool)
  /-- `inspect`, `get_handle`, and each look of `wait`. -/
  | inspect (key : JobKey)
  | recordStage (key : JobKey) (stage : Text) (detail : Option Text) (ok : Bool)
  | cancel (key : JobKey) (ok : Bool)
  | register (key : JobKey)
  | startCanceller (key : JobKey)
  | answer (key : JobKey) (answer : Outcome)
  | cancelResult (key : JobKey) (ok : Bool)
  | discard (key : JobKey)
  | runJob (key : JobKey) (ok : Bool)
  | execute (key : JobKey) (outcome : Outcome)
  | finishJob (key : JobKey) (ok : Bool)
  | close (c : Nat) (ok : Bool)
  | join (c : Nat)
  | alive (c : Nat) (alive : Bool)
  | closeStore (c : Nat)

namespace Session

variable (s : Session)

def access : Session := { s with late := s.late || s.storeClosed }

def setRuntime (key : JobKey) (runtime : Option Runtime) : Session :=
  { s with runtimes := update s.runtimes key runtime }

def setWorker (key : JobKey) (worker : Worker) : Session :=
  { s with workers := s.workers.set key worker }

def setCanceller (key : JobKey) (canceller : Canceller) : Session :=
  { s with cancellers := update s.cancellers key (some canceller) }

def setCloser (c : Nat) (closer : Closer) : Session :=
  { s with closers := update s.closers c closer }

def setRow (key : JobKey) (row : Row) : Session := { s with rows := s.rows.set key row }

def setVerdict (key : JobKey) (verdict : Verdict) : Session :=
  { s with verdicts := update s.verdicts key (some verdict) }

def countExecution (key : JobKey) : Session :=
  { s with executions := update s.executions key (s.executions key + 1) }

/-! ## Calls -/

/-- `submit`; the second reading of the row, in the transaction, is the first one again. -/
def submit (key : JobKey) (parameters : Fields) (runId : Text)
    (hasCancel inferenceRequested ok : Bool) : Session × Except JobError Text :=
  match parameters.normalize with
  | none => (s, .error .notJson)
  | some parameters =>
    if s.closed then (s, .error .closed)
    else match s.rows.get? key with
      | some row =>
        (s.access, if row.parameters = parameters then .ok row.runId else .error .conflict)
      | none =>
        if s.maxJobs ≤ s.rows.items.length then (s.access, .error .capacity)
        else if !ok || s.rows.items.any (fun item => item.2.runId = runId) then
          (s.access, .error .database)
        else
          (((s.access.setRow key (.accepted runId parameters inferenceRequested)).setRuntime key
            (some { hasCancel })).setWorker key .started, .ok runId)

def inspect (key : JobKey) : Session × Except JobError Row :=
  if s.closed then (s, .error .closed)
  else match s.rows.get? key with
    | none => (s.access, .error .noJob)
    | some row => (s.access, .ok row)

def recordStage (key : JobKey) (stage : Text) (detail : Option Text) (ok : Bool) : Session × Except JobError Row :=
  if s.closed then (s, .error .closed)
  else match s.rows.get? key with
    | none => (s.access, .error .noJob)
    | some row =>
      if ok then
        let row := row.appendEvent s.maxEvents ⟨.stage stage, detail⟩
        (s.access.setRow key row, .ok row)
      else (s.access, .error .database)

/-- The first section of `cancel`: the event and the callback are taken before the transaction. -/
def cancel (key : JobKey) (ok : Bool) : Session × Except JobError Row :=
  if s.closed then (s, .error .closed)
  else match s.rows.get? key with
    | none => (s.access, .error .noJob)
    | some row =>
      if row.status.terminal then (s.access, .ok row)
      else match s.runtimes key with
        | none => (s.access, .ok row)
        | some runtime =>
          let taken := s.access.setRuntime key (some { runtime with cancelEvent := true, cancelInvoked := true })
          if ok then
            let row := row.requestCancel s.maxEvents
            if runtime.hasCancel && !runtime.cancelInvoked then
              ((taken.setRow key row).setCanceller key .chosen, .ok row)
            else (taken.setRow key row, .ok row)
          else (taken, .error .database)

/-- The second section of `cancel`. -/
def register (key : JobKey) : Session :=
  if s.closed then s.setCanceller key .dropped
  else { s with cancelWorkers := key :: s.cancelWorkers }.setCanceller key .registered

/-! ## Threads -/

/-- The section of `_run_cancel_callback_impl`. -/
def cancelResult (key : JobKey) (answer : Outcome) (ok : Bool) : Session :=
  let cleared := s.setCanceller key .clearing
  if s.closed then cleared
  else match s.rows.get? key with
    | none => cleared.access
    | some row =>
      if row.status = .cancelRequested ∨ row.status = .cancelled then
        if ok then
          let row := row.cancelAnswered s.maxEvents answer
          (cleared.access.setRow key row).setVerdict key ⟨row.physical, errorText answer⟩
        else cleared.access
      else cleared.access

/-- The last section of `_run_cancel_callback`. -/
def discard (key : JobKey) : Session :=
  { s with cancelWorkers := s.cancelWorkers.filter fun k => k ≠ key }.setCanceller key .done

/-- The first section of `_run_job`; after it the worker returns or calls `execute`. -/
def runJob (key : JobKey) (ok : Bool) : Session :=
  let returned := s.setWorker key .done
  match s.runtimes key with
  | none => returned
  | some runtime =>
    if s.closed then returned
    else match s.rows.get? key with
      | none => returned.access
      | some row => match row.status with
        | .cancelRequested =>
          if ok then
            (returned.access.setRow key (row.cancelBeforeDispatch s.maxEvents runtime.hasCancel)).setRuntime key none
          else returned.access
        | .accepted =>
          if ok then
            ((s.access.setRow key (row.dispatched s.maxEvents)).setWorker key .executing).countExecution key
          else returned.access
        | _ => returned.access

/-- `runtime.cancel_event.is_set()`: a worker's runtime is in `_runtimes` until its last section. -/
def cancelEvent (key : JobKey) : Bool := (s.runtimes key).any Runtime.cancelEvent

/-- The last section of `_run_job`. -/
def finishJob (key : JobKey) (outcome : Outcome) (ok : Bool) : Session :=
  let returned := s.setWorker key .done
  if s.closed then returned.setRuntime key none
  else match s.rows.get? key with
    | none => returned.access.setRuntime key none
    | some row =>
      if ok then
        (returned.access.setRow key
          (if s.cancelEvent key || row.cancelRequested then row.cancelExecuted s.maxEvents outcome
          else row.executed s.maxEvents outcome)).setRuntime key none
      else returned.access

/-! ## Closing -/

def threads : List Thread :=
  s.workers.items.map (fun item => Thread.worker item.1) ++ s.cancelWorkers.map Thread.canceller

/-- `thread.start()` was called. -/
def isStarted : Thread → Bool
  | .worker _ => true
  | .canceller key => match s.cancellers key with
    | none | some .chosen | some .registered | some .dropped => false
    | _ => true

def isActive : Thread → Bool
  | .worker key => match s.workers.get? key with
    | none | some .done => false
    | _ => true
  | .canceller key => match s.cancellers key with
    | none | some .chosen | some .done | some .dropped => false
    | _ => true

/-- `thread.is_alive()`, which is false before the start. -/
def isAlive (thread : Thread) : Bool := s.isStarted thread && s.isActive thread

/-- The first section of `close`. -/
def close (c : Nat) (ok : Bool) : Session :=
  if s.storeClosed then s.setCloser c (.returned true)
  else if s.closed then s.setCloser c (.joining s.threads s.threads)
  else if ok then
    { s.access.setCloser c (.joining s.threads s.threads) with
      rows := ⟨s.rows.items.map fun item => (item.1, item.2.closedUnknown s.maxEvents)⟩
      closed := true
      runtimes := fun key => (s.runtimes key).map fun runtime => { runtime with cancelEvent := true } }
  else s.access.setCloser c .failed

/-- The last section of `close`. -/
def closeStore (c : Nat) : Session := { s.setCloser c (.returned true) with storeClosed := true }

def step (s : Session) : Section → Option Session
  | .submit key parameters runId hasCancel inferenceRequested ok =>
    some (s.submit key parameters runId hasCancel inferenceRequested ok).1
  | .inspect key => some (s.inspect key).1
  | .recordStage key stage detail ok => some (s.recordStage key stage detail ok).1
  | .cancel key ok => some (s.cancel key ok).1
  | .register key => match s.cancellers key with
    | some .chosen => some (s.register key)
    | _ => none
  | .startCanceller key => match s.cancellers key with
    | some .registered => some (s.setCanceller key .calling)
    | _ => none
  | .answer key answer => match s.cancellers key with
    | some .calling => some (s.setCanceller key (.answered answer))
    | _ => none
  | .cancelResult key ok => match s.cancellers key with
    | some (.answered answer) => some (s.cancelResult key answer ok)
    | _ => none
  | .discard key => match s.cancellers key with
    | some .clearing => some (s.discard key)
    | _ => none
  | .runJob key ok => match s.workers.get? key with
    | some .started => some (s.runJob key ok)
    | _ => none
  | .execute key outcome => match s.workers.get? key with
    | some .executing => some (s.setWorker key (.executed outcome))
    | _ => none
  | .finishJob key ok => match s.workers.get? key with
    | some (.executed outcome) => some (s.finishJob key outcome ok)
    | _ => none
  | .close c ok => match s.closers c with
    | .idle => some (s.close c ok)
    | _ => none
  | .join c => match s.closers c with
    | .joining (thread :: left) all =>
      if s.isStarted thread then some (s.setCloser c (.joining left all))
      else some (s.setCloser c .raised)
    | _ => none
  -- A thread that left its last section may still be reported alive.
  | .alive c alive => match s.closers c with
    | .joining [] all =>
      if alive then some (s.setCloser c (.returned false))
      else if all.any s.isAlive then none
      else some (s.setCloser c .drained)
    | _ => none
  | .closeStore c => match s.closers c with
    | .drained => some (s.closeStore c)
    | _ => none

end Session

/-! ## Registries one after the other -/

structure State where
  rows : Dict JobKey Row := .empty
  registries : Nat → Option Registry := fun _ => none
  /-- How many registries there were. -/
  next : Nat := 0
  executions : JobKey → Nat := fun _ => 0

inductive Label where
  | at (g : Nat) (part : Section)
  | crash (g : Nat)
  | open (maxJobs maxEvents : Nat) (ok : Bool)

namespace State

variable (s : State)

def session (r : Registry) : Session := { r with rows := s.rows, executions := s.executions }

def put (g : Nat) (t : Session) : State :=
  { s with
    rows := t.rows
    executions := t.executions
    registries := update s.registries g (some t.toRegistry) }

def unlocked : Bool :=
  match s.next with
  | 0 => true
  | g + 1 => match s.registries g with
    | some r => r.crashed || r.storeClosed
    | none => true

/-- `JobRegistry(…)`, with `_recover_inflight_locked`. -/
def reopen (maxJobs maxEvents : Nat) : State :=
  { s with
    rows := ⟨s.rows.items.map fun item => (item.1, item.2.recoveredUnknown maxEvents)⟩
    registries := update s.registries s.next (some { maxJobs, maxEvents })
    next := s.next + 1 }

end State

def step (s : State) : Label → Option State
  | .at g part => match s.registries g with
    | none => none
    | some r => if r.crashed then none else ((s.session r).step part).map (s.put g)
  | .crash g => match s.registries g with
    | none => none
    | some r =>
      some { s with registries := update s.registries g (some { r with crashed := true }) }
  | .open maxJobs maxEvents ok =>
    if s.unlocked && decide (0 < maxJobs) && decide (0 < maxEvents) then
      some (if ok then s.reopen maxJobs maxEvents else s)
    else none

end EmbodiRun.Jobs
