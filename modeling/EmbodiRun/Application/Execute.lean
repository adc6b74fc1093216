/-
# Application.Execute -- concurrent `execute` calls over one job table

`execute` looks for the request in the job table, selects a snapshot, and submits; each of
these is one section under a lock, and anything may come in between.  A label is one section of
one call, a change of what the observation store has to offer, or a task submitted the legacy
way.

A job is never removed, and its parameters and run ID never change, so the handle of a found
job and the last reading of the record are one section here.  Scope, token and the values that
`execute` refuses before it looks for the request are `Request.admitted`.
-/
import EmbodiRun.Application.Identity
import EmbodiRun.Data.Dict
import EmbodiRun.Transition.Machine

namespace EmbodiRun.Application

open Data Devices Transition

/-! ## Jobs and calls -/

structure JobKey where
  callerId : Text
  sessionId : Text
  requestId : Text
  deriving DecidableEq

structure Owner where
  callerId : Text
  sessionId : Text
  deriving DecidableEq

def JobKey.owner (key : JobKey) : Owner := ⟨key.callerId, key.sessionId⟩

def Owner.key (owner : Owner) (requestId : Text) : JobKey :=
  ⟨owner.callerId, owner.sessionId, requestId⟩

/-- `parameters_json`: of `execute`, or of a task, whose keys are others. -/
inductive Parameters where
  | direct (identity : Identity)
  | task (payload : Value)
  deriving DecidableEq

structure Job where
  runId : Text
  parameters : Parameters

/-- `max_age_ns` and `max_skew_ns`. -/
structure Limits where
  maxAge : Option Int := none
  maxSkew : Option Int := none

def Limits.valid (limits : Limits) : Bool :=
  limits.maxAge.all (fun limit => 0 ≤ limit) && limits.maxSkew.all (fun limit => 0 ≤ limit)

structure Call where
  requestId : Text
  request : Request
  limits : Limits := {}

inductive Refusal where
  | invalidRequest
  /-- `JobConflict`. -/
  | conflict
  /-- `JobOwnershipError`. -/
  | ownership
  /-- `JobNotFound`. -/
  | notFound
  /-- `ApplicationStaleObservation`. -/
  | stale
  /-- `JobCapacityExceeded`. -/
  | capacity
  /-- What `normalize_json` raises. -/
  | notJson

inductive Phase where
  | idle
  /-- No job was found: the snapshot is next. -/
  | selecting (call : Call)
  | submitting (call : Call) (selected : Option Text)
  /-- A job was found or accepted: its record is next. -/
  | answering (call : Call)
  | returned (call : Call) (runId : Text)
  | refused (call : Call) (refusal : Refusal)

structure CallId where
  owner : Owner
  number : Nat
  deriving DecidableEq

/-- What the observation store has: the latest snapshot, which are retained, which are fresh. -/
structure View where
  latest : Option Text := none
  retained : Text → Bool := fun _ => false
  fresh : Limits → Text → Bool := fun _ _ => false

structure Config where
  hasStore : Bool
  /-- `_observation_required_for_action`. -/
  required : Bool
  maxJobs : Nat

structure State where
  jobs : Dict JobKey Job := .empty
  view : View := {}
  calls : CallId → Phase := fun _ => .idle

inductive Label where
  | check (c : CallId) (call : Call)
  | observe (view : View)
  | select (c : CallId)
  | submit (c : CallId) (runId : Text)
  | answer (c : CallId)
  | task (key : JobKey) (payload : Value) (runId : Text)

/-! ## The sections -/

/-- `_owned_row_locked`. -/
def ownedRow (jobs : Dict JobKey Job) (key : JobKey) : Except Refusal Job :=
  match jobs.get? key with
  | some job => .ok job
  | none =>
    if jobs.items.any fun item => item.1.requestId = key.requestId then .error .ownership
    else .error .notFound

/-- The comparison in `_existing_identity`; the parameters of a task lack the keys of a request. -/
def Parameters.retried (request : Request) : Parameters → Bool
  | .direct stored => existingIdentity stored request
  | .task _ => false

/-- `_freshness` of a required snapshot. -/
def freshness (view : View) (limits : Limits) (id : Text) : Except Refusal (Option Text) :=
  if !limits.valid then .error .invalidRequest
  else if view.fresh limits id then .ok (some id)
  else .error .stale

def validateActionObservation (cfg : Config) (view : View) (limits : Limits) (observationId : Option Text) :
    Except Refusal (Option Text) :=
  if !cfg.hasStore then .ok observationId
  else match observationId with
    | some id => if view.retained id then freshness view limits id else .error .stale
    | none =>
      if !cfg.required then .ok none
      else match view.latest with
        | some id => freshness view limits id
        | none => .error .stale

def bindable (request : Request) : Option Text → Bool
  | none => true
  | some id => (request.actions.mapM (withObservationId id)).isSome

namespace State

def put (s : State) (c : CallId) (phase : Phase) : State :=
  { s with calls := Function.update s.calls c phase }

def accept (cfg : Config) (s : State) (key : JobKey) (job : Job) : Option State :=
  if s.jobs.items.length < cfg.maxJobs then some { s with jobs := s.jobs.set key job } else none

def check (s : State) (c : CallId) (call : Call) : Phase :=
  if !call.request.admitted then .refused call .invalidRequest
  else match ownedRow s.jobs (c.owner.key call.requestId) with
    | .ok job =>
      if job.parameters.retried call.request then .answering call else .refused call .conflict
    | .error .notFound => .selecting call
    | .error refusal => .refused call refusal

def select (cfg : Config) (s : State) (call : Call) : Phase :=
  match validateActionObservation cfg s.view call.limits call.request.observationId with
  | .error refusal => .refused call refusal
  | .ok selected =>
    if bindable call.request selected then .submitting call selected
    else .refused call .invalidRequest

/-- `JobRegistry.submit` of a request. -/
def submit (cfg : Config) (s : State) (c : CallId) (call : Call) (selected : Option Text)
    (runId : Text) : State :=
  match submitted call.request selected with
  | none => s.put c (.refused call .notJson)
  | some identity => match s.jobs.get? (c.owner.key call.requestId) with
      | some job =>
        s.put c (if job.parameters = .direct identity then .answering call else .refused call .conflict)
      | none => match s.accept cfg (c.owner.key call.requestId) ⟨runId, .direct identity⟩ with
          | some accepted => accepted.put c (.answering call)
          | none => s.put c (.refused call .capacity)

def answer (s : State) (c : CallId) (call : Call) : Phase :=
  match ownedRow s.jobs (c.owner.key call.requestId) with
  | .ok job => .returned call job.runId
  | .error refusal => .refused call refusal

/-- `JobRegistry.submit` of a task: a new row, or nothing. -/
def task (cfg : Config) (s : State) (key : JobKey) (job : Job) : State :=
  match s.jobs.get? key with
  | some _ => s
  | none => (s.accept cfg key job).getD s

end State

def step (cfg : Config) (s : State) : Label → Option State
  | .check c call => match s.calls c with
      | .idle => some (s.put c (s.check c call))
      | _ => none
  | .observe view => some { s with view }
  | .select c => match s.calls c with
      | .selecting call => some (s.put c (s.select cfg call))
      | _ => none
  | .submit c runId => match s.calls c with
      | .submitting call selected => some (s.submit cfg c call selected runId)
      | _ => none
  | .answer c => match s.calls c with
      | .answering call => some (s.put c (s.answer c call))
      | _ => none
  | .task key payload runId => some (s.task cfg key ⟨runId, .task payload⟩)

/-! ## Requests for examples -/

def alice : Owner := ⟨['a'], ['s']⟩

def bob : Owner := ⟨['b'], ['s']⟩

/-- One action, whatever snapshot is there, under the request ID `r`. -/
def plainCall : Call :=
  ⟨['r'], ⟨[⟨.finite 0, .field ['x'] (.number (.int 1)) .empty, .empty⟩], .agent, .finite 1, none, none⟩, {}⟩

end EmbodiRun.Application
