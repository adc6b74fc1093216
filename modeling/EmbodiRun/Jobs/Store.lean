/-
# Jobs.Store -- the rows of the job table, and what each section of the registry writes

A row is written in one transaction, from the row that was read in the same section.  Each
writer is a function on rows here, under the event it appends.

The times of a row and its events, and the result of a completed job, are read back by no
section and are left out.
-/
import EmbodiRun.Application.Execute

namespace EmbodiRun.Jobs

open Data Devices Application

/-! ## Statuses -/

inductive Status where
  | accepted | running | completed | failed | cancelRequested | cancelled | unknown
  deriving DecidableEq

inductive DispatchStatus where
  | accepted | running | completed | cancelRequested | cancelled | failed | unknown

inductive InferenceStatus where
  | notRequested | notStarted | running | completed | cancelRequested | cancelled | failed | unknown
  deriving DecidableEq

inductive PhysicalStatus where
  | notRequested | stopRequested | stopped | stopUnconfirmed | unknown
  deriving DecidableEq, Repr

def Status.terminal : Status → Bool
  | .completed | .failed | .cancelled | .unknown => true
  | .accepted | .running | .cancelRequested => false

def InferenceStatus.move (status : InferenceStatus) (next : InferenceStatus) : InferenceStatus :=
  if status = .notRequested then .notRequested else next

def PhysicalStatus.all : List PhysicalStatus :=
  [.notRequested, .stopRequested, .stopped, .stopUnconfirmed, .unknown]

def PhysicalStatus.value : PhysicalStatus → Text
  | .notRequested => ['n', 'o', 't', '_', 'r', 'e', 'q', 'u', 'e', 's', 't', 'e', 'd']
  | .stopRequested => ['s', 't', 'o', 'p', '_', 'r', 'e', 'q', 'u', 'e', 's', 't', 'e', 'd']
  | .stopped => ['s', 't', 'o', 'p', 'p', 'e', 'd']
  | .stopUnconfirmed =>
    ['s', 't', 'o', 'p', '_', 'u', 'n', 'c', 'o', 'n', 'f', 'i', 'r', 'm', 'e', 'd']
  | .unknown => ['u', 'n', 'k', 'n', 'o', 'w', 'n']

/-- The status that a mapping names under `"physical_status"`. -/
def namedStatus (fields : Fields) : Option PhysicalStatus :=
  match fields.get? ['p', 'h', 'y', 's', 'i', 'c', 'a', 'l', '_', 's', 't', 'a', 't', 'u', 's'] with
  | some (.str text) => PhysicalStatus.all.find? fun status => status.value = text
  | _ => none

/-- `value.get("stop_confirmed") is True`. -/
def stopConfirmed (fields : Fields) : Bool :=
  match fields.get? ['s', 't', 'o', 'p', '_', 'c', 'o', 'n', 'f', 'i', 'r', 'm', 'e', 'd'] with
  | some (.number (.bool confirmed)) => confirmed
  | _ => false

def physicalFromCancel : Value → PhysicalStatus
  | .dict fields => match namedStatus fields with
      | some status => status
      | none => if stopConfirmed fields then .stopped else .stopUnconfirmed
  | .number (.bool true) => .stopped
  | _ => .stopUnconfirmed

def physicalFromValue : Value → PhysicalStatus
  | .dict fields => (namedStatus fields).getD .unknown
  | _ => .unknown

abbrev Outcome := Except Text Value

def maxErrorDetail : Nat := 1024

def errorText : Outcome → Option Text
  | .ok _ => none
  | .error text => some (text.take maxErrorDetail)

/-! ## Rows -/

inductive EventName where
  | accepted | running | completed | failed | cancelled
  | cancelRequested | cancelledBeforeDispatch | cancelResult | closedUnknown | recoveredUnknown
  | stage (name : Text)

structure Event where
  name : EventName
  detail : Option Text := none

structure Row where
  runId : Text
  /-- `parameters_json`, which stands for the value it is read back as. -/
  parameters : Fields
  status : Status
  dispatch : DispatchStatus
  inference : InferenceStatus
  physical : PhysicalStatus
  cancelRequested : Bool := false
  error : Option Text := none
  events : List Event
  eventsTruncated : Bool := false

namespace Row

variable (maxEvents : Nat) (row : Row)

def appendEvent (event : Event) : Row :=
  { row with
    events := if maxEvents ≤ row.events.length then row.events else row.events ++ [event]
    eventsTruncated := row.eventsTruncated || decide (maxEvents ≤ row.events.length) }

/-- What `submit` inserts. -/
def accepted (runId : Text) (parameters : Fields) (inferenceRequested : Bool) : Row where
  runId := runId
  parameters := parameters
  status := .accepted
  dispatch := .accepted
  inference := if inferenceRequested then .notStarted else .notRequested
  physical := .notRequested
  events := [⟨.accepted, none⟩]

/-- What `cancel` writes, the first time and every other time. -/
def requestCancel : Row :=
  { row.appendEvent maxEvents ⟨.cancelRequested, none⟩ with
    status := .cancelRequested
    dispatch := .cancelRequested
    inference := .cancelRequested
    physical := .stopRequested
    cancelRequested := true }

/-- The worker finds the job cancelled before it ran; `hasCancel` is whether it has a cancel
callback. -/
def cancelBeforeDispatch (hasCancel : Bool) : Row :=
  { row.appendEvent maxEvents ⟨.cancelledBeforeDispatch, none⟩ with
    status := .cancelled
    dispatch := .cancelled
    inference := row.inference.move .cancelled
    physical := if hasCancel then .stopRequested else .stopUnconfirmed }

def dispatched : Row :=
  { row.appendEvent maxEvents ⟨.running, none⟩ with
    status := .running
    dispatch := .running
    inference := row.inference.move .running }

/-- The end of the execution where `cancelled` is set. -/
def cancelExecuted (outcome : Outcome) : Row :=
  { row.appendEvent maxEvents ⟨.cancelled, none⟩ with
    status := .cancelled
    dispatch := .cancelled
    inference := row.inference.move .cancelled
    physical := if row.physical = .stopRequested then .stopUnconfirmed else row.physical
    error := errorText outcome }

/-- The end of the execution where `cancelled` is not set. -/
def executed : Outcome → Row
  | .error text =>
    { row.appendEvent maxEvents ⟨.failed, none⟩ with
      status := .failed
      dispatch := .failed
      inference := row.inference.move .failed
      physical := .unknown
      error := errorText (.error text) }
  | .ok value =>
    { row.appendEvent maxEvents ⟨.completed, none⟩ with
      status := .completed
      dispatch := .completed
      inference := row.inference.move .completed
      physical := physicalFromValue value
      error := none }

def cancelAnswered (answer : Outcome) : Row :=
  { row.appendEvent maxEvents ⟨.cancelResult, errorText answer⟩ with
    physical := match answer with
      | .ok value => physicalFromCancel value
      | .error _ => .stopUnconfirmed
    error := (errorText answer).or row.error }

def lose (event : EventName) : Row :=
  if row.status.terminal then row else
    { row.appendEvent maxEvents ⟨event, none⟩ with
      status := .unknown
      dispatch := .unknown
      inference := row.inference.move .unknown
      physical := if row.cancelRequested then .stopUnconfirmed else .unknown }

def closedUnknown : Row := row.lose maxEvents .closedUnknown

def recoveredUnknown : Row := row.lose maxEvents .recoveredUnknown

end Row

/-! ## The steps of a status -/

inductive Status.Next : Status → Status → Prop where
  | run : Next .accepted .running
  | complete : Next .running .completed
  | fail : Next .running .failed
  | cancel : Next .running .cancelled
  | request {status : Status} (early : status = .accepted ∨ status = .running) :
      Next status .cancelRequested
  | requested : Next .cancelRequested .cancelled
  | lose {status : Status} (live : status.terminal = false) : Next status .unknown

theorem Status.Next.live {a b : Status} (next : a.Next b) : a.terminal = false := by
  cases next with
  | request early => rcases early with rfl | rfl <;> rfl
  | lose live => exact live
  | run | complete | fail | cancel | requested => rfl

inductive Follows : Option Status → Option Status → Prop where
  | stay (status) : Follows status status
  | accept : Follows none (some .accepted)
  | next {a b : Status} (next : a.Next b) : Follows (some a) (some b)

theorem Follows.terminal {a : Status} {b : Option Status} (follows : Follows (some a) b)
    (terminal : a.terminal = true) : b = some a := by
  cases follows with
  | stay => rfl
  | next next => rw [next.live] at terminal; cases terminal

/-- A row that says it was cancelled is on its way out, and a row on its way out says so. -/
structure Row.Sound (row : Row) : Prop where
  asked : row.status = .cancelRequested → row.cancelRequested = true
  ends : row.cancelRequested = true →
    row.status = .cancelRequested ∨ row.status = .cancelled ∨ row.status = .unknown

variable {maxEvents : Nat} {row : Row}

theorem Row.lose_status (event : EventName) :
    (row.lose maxEvents event).status = if row.status.terminal then row.status else .unknown := by
  unfold lose
  split <;> rfl

theorem Row.lose_cancelRequested (event : EventName) :
    (row.lose maxEvents event).cancelRequested = row.cancelRequested := by
  unfold lose
  split <;> rfl

theorem Row.lose_kept (event : EventName) : (row.lose maxEvents event).runId = row.runId ∧
      (row.lose maxEvents event).parameters = row.parameters := by
  unfold lose
  split <;> exact ⟨rfl, rfl⟩

theorem Row.executed_status (outcome : Outcome) : (row.executed maxEvents outcome).status = .completed ∨
      (row.executed maxEvents outcome).status = .failed := by
  cases outcome with
  | ok => exact .inl rfl
  | error => exact .inr rfl

theorem Row.executed_cancelRequested (outcome : Outcome) :
    (row.executed maxEvents outcome).cancelRequested = row.cancelRequested := by
  cases outcome <;> rfl

theorem Row.executed_kept (outcome : Outcome) : (row.executed maxEvents outcome).runId = row.runId ∧
      (row.executed maxEvents outcome).parameters = row.parameters := by
  cases outcome <;> exact ⟨rfl, rfl⟩

end EmbodiRun.Jobs
