/-
# Http.Execution -- `execute` and `legacy_task` over the job registry

A call checks its arguments, looks for the request, selects a snapshot, submits and waits.  Each
of these is one section, and the registry may do anything in between.  `execute` hands its
timeout to `wait` only, once the job is accepted, and every look and the last reading of the
record take an open registry.

* `rejected_harmless_iff`: **in a run, a call that fails with anything but a job outcome touched
  nothing, exactly where no accepted job is waited for with a timeout that `wait` refuses, read
  from a closed registry, or answered with something that is no result**.
-/
import EmbodiRun.Http.Handler
import EmbodiRun.Jobs.Moves

namespace EmbodiRun.Http.Execution

open Application Data Devices Transition

/-! ## Arguments -/

/-- An action of a direct call: a `RobotAction`, or anything else. -/
inductive ActionItem where
  | robot (action : Action)
  | value (value : Value)

inductive ActionArgument where
  | one (item : ActionItem)
  | items (items : List ActionItem)

/-- The arguments of `ControlApplication.execute`, of any type; `None` is `null`. -/
structure ExecuteCall where
  callerId : Value
  sessionId : Value
  requestId : Value
  action : ActionArgument
  source : Value := .str "agent".toList
  observationId : Value := .null
  steps : Value := .number (.int 1)
  controlHz : Value := .null
  wait : Bool := false
  timeoutS : Value := .null
  token : Option Text := none
  maxAgeNs : Value := .null
  maxSkewNs : Value := .null
  parameters : Value := .null

inductive Failure where
  | fault (fault : Fault)
  /-- What the database raises. -/
  | database

structure Config where
  py : Python
  policy : AuthPolicy
  trusted : Trusted
  maxSteps : Nat
  defaultControlHz : Double
  hasStore : Bool
  /-- `_observation_required_for_action`. -/
  required : Bool
  /-- `threading.TIMEOUT_MAX`. -/
  timeoutMax : ℚ

section

variable (cfg : Config)

def seconds : Value → ℚ
  | .number (.int n) => n
  | .number (.float (.finite q)) => q
  | _ => 0

/-- A finite number that is no `bool`, as a `float`; `math.isfinite` makes one of it. -/
def finite (kind : FaultKind) (message : String) : Value → Result Double
  | .number (.int n) => match cfg.py.ofInt n with
      | some x => .ok x
      | none => fault .overflow "int too large to convert to float"
  | .number (.float (.finite q)) => .ok (.finite q)
  | .number (.float .minusZero) => .ok .minusZero
  | _ => fault kind message

def validateTimeout (value : Value) : Result (Option ℚ) :=
  if value = .null then .ok none
  else do
    let _ ← finite cfg .value "timeout_s must be finite and non-negative" value
    if seconds value < 0 then fault .value "timeout_s must be finite and non-negative"
    return some (seconds value)

/-- `_validate_hz`, and the `float`. -/
def validateHz (value : Value) : Result Double := do
  let hz ← finite cfg .invalidRequest "control_hz must be finite and positive" value
  if seconds value ≤ 0 then fault .invalidRequest "control_hz must be finite and positive"
  return hz

/-- `authorize_scope`, with its errors. -/
def authorize (token : Option Text) (owner : Owner) : Result Unit :=
  if cfg.policy.authorizeScope token .controller owner then .ok ()
  else match token.bind cfg.policy.find? with
    | none => fault .authentication "a configured control token is required"
    | some principal =>
      if principal.role.rank < Role.controller.rank then
        fault .authorization "role 'observer' cannot perform 'controller' operation"
      else if principal.callerId ≠ owner.callerId then
        fault .authorization "token principal is not authorized for caller_id"
      else fault .authorization "token principal is not authorized for session_id"

/-- `_scope` and `_authorize`. -/
def scope (callerId sessionId : Value) (token : Option Text) : Result Owner := do
  let callerId ← named .invalidRequest "caller_id must be a non-empty string" (some callerId)
  let sessionId ← named .invalidRequest "session_id must be a non-empty string" (some sessionId)
  authorize cfg token ⟨callerId, sessionId⟩
  return ⟨callerId, sessionId⟩

def unnormal (number other : Fault) : {i : Shape} → Tree Text i → Option Fault
  | _, .number n => if n.isFinite then none else some number
  | _, .other _ => some other
  | _, .list items => unnormal number other items
  | _, .dict fields => unnormal number other fields
  | _, .cons head tail => (unnormal number other head).or (unnormal number other tail)
  | _, .field _ value rest => (unnormal number other value).or (unnormal number other rest)
  | _, _ => none

/-- `action_payload`, as a check; the message of the second error also names the type. -/
def detached (action : Action) : Result Action :=
  let number : Fault := ⟨.value, "action values must contain finite numbers".toList⟩
  let other : Fault := ⟨.type, "action value is not JSON-compatible".toList⟩
  match (unnormal number other action.values).or (unnormal number other action.metadata) with
  | none => .ok action
  | some f => .error f

/-- `_action`. -/
def parseAction : ActionItem → Result Action
  | .robot action => detached action
  | .value (.dict fields) => do
    let timestamp ← finite cfg .invalidRequest "action timestamp_s must be finite"
      ((field fields "timestamp_s").getD (.number (.float (.finite 0))))
    match field fields "values", (field fields "metadata").getD (.dict .empty) with
    | some (.dict values), .dict metadata => detached ⟨timestamp, values, metadata⟩
    | _, _ => fault .invalidRequest "action values and metadata must be objects"
  | .value _ => fault .invalidRequest "each action must be an object"

def itemsOf : {i : Shape} → Tree Text i → List Value
  | _, .cons head tail => head :: itemsOf tail
  | _, _ => []

/-- The `steps` of `_actions`. -/
def stepsOf : Value → Result Nat
  | .number (.int n) =>
    if n ≤ 0 then fault .invalidRequest "steps must be a positive integer"
    else if (cfg.maxSteps : ℤ) < n then
      fault .invalidRequest ("steps must not exceed " ++ toString cfg.maxSteps)
    else .ok n.toNat
  | _ => fault .invalidRequest "steps must be a positive integer"

def listed (items : List ActionItem) (steps : Nat) : Result (List Action) := do
  if items.isEmpty ∨ cfg.maxSteps < items.length then
    fault .invalidRequest ("action list must contain 1.." ++ toString cfg.maxSteps ++ " actions")
  let actions ← items.mapM (parseAction cfg)
  if steps ≠ 1 ∧ steps ≠ actions.length then
    fault .invalidRequest "steps must match an explicit action list"
  return actions

def actions (value : ActionArgument) (steps : Value) : Result (List Action) := do
  let steps ← stepsOf cfg steps
  match value with
  | .one (.robot action) => return List.replicate steps (← parseAction cfg (.robot action))
  | .one (.value (.dict fields)) =>
    return List.replicate steps (← parseAction cfg (.value (.dict fields)))
  | .one (.value (.list items)) => listed cfg ((itemsOf items).map .value) steps
  | .one (.value _) => fault .invalidRequest "action must be an object or action list"
  | .items items => listed cfg items steps

/-- `_source`; a `CommandSource` is its text. -/
def sourceOf : Value → Result CommandSource
  | .str text =>
    if text = "agent".toList then .ok .agent
    else if text = "replay".toList then .ok .replay
    else fault .invalidRequest "source must be 'agent' or 'replay'"
  | _ => fault .invalidRequest "source must be 'agent' or 'replay'"

def parametersOf : Value → Result (Option Fields)
  | .null => .ok none
  | .dict fields => .ok (some fields)
  | _ => fault .invalidRequest "parameters must be an object"

/-- The `observation_id` in the metadata of an action, where it is not `None`. -/
def boundObservation (action : Action) : Option Value :=
  (action.metadata.get? observationKey).filter fun value => value ≠ .null

def conflicting : String :=
  "action metadata observation_id conflicts with the request observation_id"

/-- `_validate_requested_observation_metadata`. -/
def validateRequested (actions : List Action) (observationId : Value) : Result Unit :=
  if observationId = .null ∨ actions.all fun action =>
      (boundObservation action).all fun requested => requested.eq observationId then .ok ()
  else fault .invalidRequest conflicting

/-- A request that `execute` takes to the registry. -/
structure Admitted where
  key : JobKey
  actions : List Action
  source : CommandSource
  controlHz : Double
  observationId : Value
  parameters : Option Fields
  maxAgeNs : Value
  maxSkewNs : Value
  wait : Bool
  timeoutS : Value

/-- What `execute` checks before it looks for the request. -/
def admitExecute (call : ExecuteCall) : Result Admitted := do
  let owner ← scope cfg call.callerId call.sessionId call.token
  let requestId ← named .invalidRequest "request_id must be a non-empty string" (some call.requestId)
  let actions ← actions cfg call.action call.steps
  let controlHz ← validateHz cfg
    (if call.controlHz = .null then .number (.float cfg.defaultControlHz) else call.controlHz)
  let source ← sourceOf call.source
  let parameters ← parametersOf call.parameters
  validateRequested actions call.observationId
  return ⟨owner.key requestId, actions, source, controlHz, call.observationId, parameters,
    call.maxAgeNs, call.maxSkewNs, call.wait, call.timeoutS⟩

/-! ## Identities -/

def object (items : List (String × Value)) : Fields :=
  items.foldl (fun fields item => Tree.set item.1.toList item.2 fields) .empty

def listOf (items : List Value) : Value := .list (items.foldr .cons .nil)

def actionPayload (action : Action) : Value :=
  .dict (object [("timestamp_s", .number (.float action.timestamp)), ("values", .dict action.values),
    ("metadata", .dict action.metadata)])

def sourceText : CommandSource → Text
  | .agent => "agent".toList
  | .replay => "replay".toList

def identityParameters (call : Admitted) (actions : List Action) (selected : Value) : Fields :=
  object ([("action", listOf (actions.map actionPayload)), ("source", .str (sourceText call.source)),
    ("steps", .number (.int actions.length)), ("control_hz", .number (.float call.controlHz)),
    ("observation_id", call.observationId),
    ("observation_id_explicit", .number (.bool (call.observationId ≠ .null))),
    ("selected_observation_id", selected)] ++
    (call.parameters.map fun parameters => ("parameters", .dict parameters)).toList)

/-- The rewritten metadata of an action in `_canonical_identity`. -/
def canonicalAction (explicit : Bool) (requested : Value) : Value → Value
  | .dict item => match field item "metadata" with
      | some (.dict metadata) => .dict (Tree.set "metadata".toList (.dict
          (if explicit then Tree.set observationKey requested metadata
          else metadata.erase observationKey)) item)
      | _ => .dict item
  | item => item

def canonicalIdentity (value : Fields) : Fields :=
  let normalized := value.jsonValue
  let requested := (normalized.get? observationKey).getD .null
  let explicit : Bool := match field normalized "observation_id_explicit" with
    | some (.number (.bool explicit)) => explicit
    | _ => decide (requested ≠ Tree.null)
  let normalized := normalized.erase "selected_observation_id".toList
  let normalized := match field normalized "action" with
    | some (.list items) => Tree.set "action".toList
        (listOf ((itemsOf items).map (canonicalAction explicit requested))) normalized
    | _ => normalized
  let normalized := if explicit then normalized else Tree.set observationKey .null normalized
  Tree.set "observation_id_explicit".toList (.number (.bool explicit)) normalized

/-! ## Snapshots -/

/-- A limit; `None` stands for the default of the application. -/
def limitOf (message : String) : Value → Result (Option Int)
  | .null => .ok none
  | .number (.int n) => if 0 ≤ n then .ok (some n) else fault .invalidRequest message
  | _ => fault .invalidRequest message

/-- `_freshness` of a required snapshot. -/
def freshness (view : View) (call : Admitted) (id : Text) : Result Value := do
  let maxAge ← limitOf "max_age_ns must be a non-negative integer" call.maxAgeNs
  let maxSkew ← limitOf "max_skew_ns must be a non-negative integer or None" call.maxSkewNs
  if view.fresh ⟨maxAge, maxSkew⟩ id then return .str id
  else .error ⟨.stale, "observation '".toList ++ id ++ "' is stale or timing is unknown".toList⟩

/-- `_validate_action_observation`; what the store says of a snapshot it lacks is its own. -/
def validateActionObservation (view : View) (call : Admitted) : Result Value :=
  if !cfg.hasStore then .ok call.observationId
  else match call.observationId with
    | .null =>
      if !cfg.required then .ok .null
      else match view.latest with
        | some id => freshness view call id
        | none => fault .stale "no shared observation is available"
    | .str id => if view.retained id then freshness view call id else .error ⟨.stale, id⟩
    | _ => fault .stale "observation_id"

def withObservationId (id : Value) (action : Action) : Result Action :=
  match boundObservation action with
  | some existing => if existing.eq id then .ok action else fault .invalidRequest conflicting
  | none => .ok { action with metadata := Tree.set observationKey id action.metadata }

end

/-! ## Calls -/

/-- What is handed to `JobRegistry.submit`, and what the call does afterwards. -/
structure Submission where
  key : JobKey
  parameters : Fields
  inferenceRequested : Bool
  wait : Bool
  timeoutS : Value
  /-- Of `/v1/tasks`: the answer is what the job returned. -/
  task : Bool

structure Standing where
  key : JobKey
  /-- The call inserted the row and started the worker. -/
  accepted : Bool
  task : Bool

inductive Phase where
  | idle
  /-- `_existing_identity` is next. -/
  | finding (call : Admitted)
  /-- `get_handle` is next. -/
  | fetching (call : Admitted)
  | selecting (call : Admitted)
  | submitting (submission : Submission)
  /-- In `wait`, with the timeout. -/
  | waiting (standing : Standing) (timeout : Option ℚ)
  /-- `_handle_payload` is next. -/
  | showing (standing : Standing)
  | returned (accepted : Bool)
  | refused (failure : Failure) (accepted : Bool)

inductive Entry where
  | execute (call : ExecuteCall)
  /-- A request to `/v1/execute` or `/v1/tasks`. -/
  | http (request : HttpRequest)

structure State where
  session : Jobs.Session
  view : View := {}
  calls : Nat → Phase := fun _ => .idle

inductive Label where
  | enter (c : Nat) (entry : Entry)
  | find (c : Nat)
  | fetch (c : Nat)
  | select (c : Nat)
  /-- The transaction fails where `ok` is false. -/
  | submit (c : Nat) (runId : Text) (ok : Bool)
  /-- `remaining` is what the clock leaves of the timeout, and `answer` what the job returned. -/
  | look (c : Nat) (remaining : ℚ) (answer : Answer)
  | «show» (c : Nat)
  | observe (view : View)
  | registry (part : Jobs.Section)

def Label.call? : Label → Option Nat
  | .enter c _ | .find c | .fetch c | .select c | .submit c .. | .look c .. | .show c => some c
  | .observe _ | .registry _ => none

section

variable (cfg : Config)

def jobFailure (key : JobKey) (parameters : Fields) : Jobs.JobError → Failure
  | .closed => .fault ⟨.job, "job registry is closed".toList⟩
  | .conflict => .fault ⟨.jobConflict,
      "request_id '".toList ++ key.requestId ++ "' already has different parameters".toList⟩
  | .capacity => .fault ⟨.job, "job history capacity is full".toList⟩
  | .noJob => .fault ⟨.jobNotFound, "job '".toList ++ key.requestId ++ "' was not found".toList⟩
  | .notJson => .fault ((unnormal ⟨.value, "JSON numbers must be finite".toList⟩
      ⟨.type, "unsupported JSON parameter type".toList⟩ parameters).getD ⟨.value, []⟩)
  | .database => .database

/-- After the handle: `wait`, or the record. -/
def proceed (standing : Standing) (wait : Bool) (timeoutS : Value) : Phase :=
  if wait then
    match validateTimeout cfg timeoutS with
    | .ok timeout => .waiting standing timeout
    | .error f => .refused (.fault f) standing.accepted
  else .showing standing

/-- The arguments of a request to `/v1/execute`. -/
def callOf (owner : Owner) (token : Option Text) (args : ExecuteArgs) : ExecuteCall where
  callerId := .str owner.callerId
  sessionId := .str owner.sessionId
  requestId := .str args.requestId
  action := .one (.value args.action)
  source := args.source
  observationId := args.observationId.getD .null
  steps := args.steps
  controlHz := args.controlHz.getD .null
  wait := args.wait
  timeoutS := (args.timeoutS.map fun timeout => Tree.number (.float timeout)).getD .null
  token := token
  maxAgeNs := (args.maxAgeNs.map fun n => Tree.number (.int n)).getD .null
  maxSkewNs := (args.maxSkewNs.map fun n => Tree.number (.int n)).getD .null
  parameters := args.parameters.getD .null

/-- `TaskRequest.to_payload`. -/
def taskPayload (request : TaskRequest) : Fields :=
  object [("schema", .str "rlinf.control.task.v1".toList), ("request_id", .str request.requestId),
    ("runtime_id", .str request.runtimeId), ("prompt", .str request.prompt),
    ("chunk_steps", .number (.int request.chunkSteps)), ("max_steps", .number (.int request.maxSteps)),
    ("control_hz", .number request.controlHz),
    ("inference_timeout_s", .number request.inferenceTimeoutS)]

/-- `legacy_task` before the registry is asked: `submit` checks the timeout. -/
def admitTask (owner : Owner) (token : Option Text) (request : TaskRequest) (wait : Bool)
    (timeoutS : Option Double) : Result Submission := do
  let owner ← scope cfg (.str owner.callerId) (.str owner.sessionId) token
  let timeout : Value := (timeoutS.map fun timeout => Tree.number (.float timeout)).getD .null
  let _ ← validateTimeout cfg timeout
  return ⟨owner.key request.requestId, taskPayload request, true, wait, timeout, true⟩

def entered {α : Type} (phase : α → Phase) : Result α → Phase
  | .ok admitted => phase admitted
  | .error f => .refused (.fault f) false

/-- A call, up to the registry; `none` where the request is to another route. -/
def enter : Entry → Option Phase
  | .execute call => some (entered .finding (admitExecute cfg call))
  | .http request => match prepare cfg.py cfg.policy.enabled cfg.trusted request with
      | .error f => some (.refused (.fault f) false)
      | .ok ⟨owner, token, .execute args⟩ =>
        some (entered .finding (admitExecute cfg (callOf owner token args)))
      | .ok ⟨owner, token, .legacyTask request wait timeoutS⟩ =>
        some (entered .submitting (admitTask cfg owner token request wait timeoutS))
      | .ok _ => none

namespace State

variable (s : State)

def put (c : Nat) (session : Jobs.Session) (phase : Phase) : State :=
  { s with session, calls := Function.update s.calls c phase }

/-- `_existing_identity`. -/
def find (call : Admitted) : Phase :=
  match (s.session.inspect call.key).2 with
  | .ok row =>
    if (canonicalIdentity row.parameters).eq
        (canonicalIdentity (identityParameters call call.actions .null)) then .fetching call
    else .refused (jobFailure call.key .empty .conflict) false
  | .error .noJob =>
    if s.session.rows.items.any fun item => item.1.requestId = call.key.requestId then
      .refused (.fault ⟨.jobOwnership, "request_id '".toList ++ call.key.requestId ++
        "' does not belong to this caller/session".toList⟩) false
    else .selecting call
  | .error error => .refused (jobFailure call.key .empty error) false

def fetch (call : Admitted) : Phase :=
  match (s.session.inspect call.key).2 with
  | .ok _ => proceed cfg ⟨call.key, false, false⟩ call.wait call.timeoutS
  | .error error => .refused (jobFailure call.key .empty error) false

def select (call : Admitted) : Phase :=
  entered .submitting (do
    let selected ← validateActionObservation cfg s.view call
    let actions ← if selected = .null then .ok call.actions else call.actions.mapM (withObservationId selected)
    return ⟨call.key, identityParameters call actions selected, false, call.wait, call.timeoutS, false⟩)

/-- `JobRegistry.submit`; both tasks have a cancel callback. -/
def submit (c : Nat) (submission : Submission) (runId : Text) (ok : Bool) : State :=
  let result := s.session.submit submission.key submission.parameters runId true
    submission.inferenceRequested ok
  s.put c result.1 (match result.2 with
    | .ok _ => proceed cfg
        ⟨submission.key, (s.session.rows.get? submission.key).isNone, submission.task⟩
        submission.wait submission.timeoutS
    | .error error => .refused (jobFailure submission.key submission.parameters error) false)

/-- One look of `wait`, and the answer of a job that ended. -/
def look (standing : Standing) (timeout : Option ℚ) (remaining : ℚ) (answer : Answer) : Phase :=
  match (s.session.inspect standing.key).2 with
  | .error error => .refused (jobFailure standing.key .empty error) standing.accepted
  | .ok row => match row.status with
      | .completed =>
        if !standing.task then .showing standing
        else if answer = .other then .refused (.fault ⟨.application,
          "legacy task did not return a TaskResult or mapping".toList⟩) standing.accepted
        else .returned standing.accepted
      | .unknown => .refused (.fault ⟨.jobUnknown, []⟩) standing.accepted
      | .cancelled => .refused (.fault ⟨.jobCancelled, []⟩) standing.accepted
      | .failed => .refused (.fault ⟨.jobExecution, []⟩) standing.accepted
      | _ =>
        if timeout.isNone then .waiting standing timeout
        else if remaining ≤ 0 then .refused (.fault ⟨.jobTimeout, []⟩) standing.accepted
        else if cfg.timeoutMax < remaining then
          .refused (.fault ⟨.overflow, "timeout value is too large".toList⟩) standing.accepted
        else .waiting standing timeout

/-- `_handle_payload`. -/
def «show» (standing : Standing) : Phase :=
  match (s.session.inspect standing.key).2 with
  | .error error => .refused (jobFailure standing.key .empty error) standing.accepted
  | .ok _ => .returned standing.accepted

end State

def step (s : State) : Label → Option State
  | .enter c entry => match s.calls c with
      | .idle => (enter cfg entry).map (s.put c s.session)
      | _ => none
  | .find c => match s.calls c with
      | .finding call => some (s.put c (s.session.inspect call.key).1 (s.find call))
      | _ => none
  | .fetch c => match s.calls c with
      | .fetching call => some (s.put c (s.session.inspect call.key).1 (s.fetch cfg call))
      | _ => none
  | .select c => match s.calls c with
      | .selecting call => some (s.put c s.session (s.select cfg call))
      | _ => none
  | .submit c runId ok => match s.calls c with
      | .submitting submission => some (s.submit cfg c submission runId ok)
      | _ => none
  | .look c remaining answer => match s.calls c with
      | .waiting standing timeout =>
        some (s.put c (s.session.inspect standing.key).1 (s.look cfg standing timeout remaining answer))
      | _ => none
  | .show c => match s.calls c with
      | .showing standing => some (s.put c (s.session.inspect standing.key).1 (s.show standing))
      | _ => none
  | .observe view => some { s with view }
  | .registry part =>
    if s.session.crashed then none else (s.session.step part).map fun session => { s with session }

end

/-! ## What a call touches -/

def Phase.accepted : Phase → Bool
  | .waiting standing _ | .showing standing => standing.accepted
  | .returned accepted | .refused _ accepted => accepted
  | _ => false

def Phase.standing? : Phase → Option Standing
  | .waiting standing _ | .showing standing => some standing
  | _ => none

structure Quiet (s t : Jobs.Session) : Prop where
  rows : t.rows = s.rows
  runtimes : t.runtimes = s.runtimes
  workers : t.workers = s.workers
  executions : t.executions = s.executions

def Touches (cfg : Config) (c : Nat) : State → List Label → Prop
  | _, [] => False
  | s, l :: ls => ∃ t, step cfg s l = some t ∧
      (l.call? = some c ∧ ¬Quiet s.session t.session ∨ Touches cfg c t ls)

/-- `JobTimeout`, `JobUnknownError`, `JobCancelledError` or `JobExecutionError`. -/
def Failure.outcome : Failure → Bool
  | .fault f => carriesRecord f.kind
  | .database => false

def Harmless (s : State) : Prop :=
  ∀ c failure, s.calls c = .refused failure true → failure.outcome = true

/-- `submit` inserts the row: the registry is open with room, the parameters are JSON, the run ID is new. -/
def Accepts (s : Jobs.Session) (submission : Submission) (runId : Text) (ok : Bool) : Bool :=
  submission.parameters.normalize.isSome && !s.closed && (s.rows.get? submission.key).isNone &&
    !decide (s.maxJobs ≤ s.rows.items.length) &&
    !(!ok || s.rows.items.any fun item => item.2.runId = runId)

/-- Once the job is accepted, `wait` takes the timeout, the registry is open, what is left of the
timeout is no more than a lock takes, and a task returned a result. -/
def Regular (cfg : Config) (s : State) : Label → Prop
  | .submit c runId ok => ∀ submission, s.calls c = .submitting submission →
      Accepts s.session submission runId ok → submission.wait →
        ∃ timeout, validateTimeout cfg submission.timeoutS = .ok timeout
  | .look c remaining answer => ∀ standing timeout, s.calls c = .waiting standing timeout →
      standing.accepted → s.session.closed = false ∧ ∀ row, s.session.rows.get? standing.key = some row →
          (row.status.terminal = false → timeout.isSome → remaining ≤ 0 ∨ remaining ≤ cfg.timeoutMax) ∧
          (row.status = .completed → standing.task → answer ≠ .other)
  | .show c => ∀ standing, s.calls c = .showing standing → standing.accepted →
      s.session.closed = false
  | _ => True

section

variable {cfg : Config} {s t : State} {c d : Nat} {l : Label}

theorem quiet_self (s : Jobs.Session) : Quiet s s := ⟨rfl, rfl, rfl, rfl⟩

theorem quiet_inspect (s : Jobs.Session) (key : JobKey) : Quiet s (s.inspect key).1 := by
  unfold Jobs.Session.inspect
  split
  · exact quiet_self s
  · split <;> exact ⟨rfl, rfl, rfl, rfl⟩

theorem inspect_rows (s : Jobs.Session) (key k : JobKey) : (s.inspect key).1.rows.get? k = s.rows.get? k := by
  rw [(quiet_inspect s key).rows]

theorem inspect_eq {s : Jobs.Session} {key : JobKey} {row : Jobs.Row} (open' : s.closed = false)
    (found : s.rows.get? key = some row) : (s.inspect key).2 = .ok row := by
  unfold Jobs.Session.inspect
  rw [open', found]
  rfl

theorem inspect_ok {s : Jobs.Session} {key : JobKey} {row : Jobs.Row}
    (read : (s.inspect key).2 = .ok row) : s.closed = false ∧ s.rows.get? key = some row := by
  unfold Jobs.Session.inspect at read
  split at read
  · cases read
  rename_i closed
  split at read
  · cases read
  · rename_i found
    obtain rfl := Except.ok.inj read
    exact ⟨by simpa using closed, found⟩

theorem submit_spec (s : Jobs.Session) (submission : Submission) (runId : Text) (ok : Bool) :
    (Accepts s submission runId ok = true ∧ (∃ row, (s.submit submission.key submission.parameters runId true
            submission.inferenceRequested ok).1.rows = s.rows.set submission.key row) ∧
        ∃ run, (s.submit submission.key submission.parameters runId true
            submission.inferenceRequested ok).2 = .ok run) ∨
      (Accepts s submission runId ok = false ∧ Quiet s (s.submit submission.key submission.parameters runId true
          submission.inferenceRequested ok).1 ∧
        ∀ run, (s.submit submission.key submission.parameters runId true
            submission.inferenceRequested ok).2 = .ok run → (s.rows.get? submission.key).isSome) := by
  unfold Jobs.Session.submit Accepts
  cases json : submission.parameters.normalize with
  | none => exact .inr ⟨rfl, quiet_self s, nofun⟩
  | some =>
  cases shut : s.closed with
  | true => exact .inr ⟨rfl, quiet_self s, nofun⟩
  | false =>
  cases found : s.rows.get? submission.key with
  | some => exact .inr ⟨rfl, ⟨rfl, rfl, rfl, rfl⟩, fun _ _ => rfl⟩
  | none =>
  by_cases full : s.maxJobs ≤ s.rows.items.length
  · refine .inr ⟨by simp [full], ?_, ?_⟩ <;> simp only [full, if_true]
    · exact ⟨rfl, rfl, rfl, rfl⟩
    · exact nofun
  · cases lost : !ok || s.rows.items.any (fun item => item.2.runId = runId) with
    | true =>
      refine .inr ⟨by simp, ?_, ?_⟩ <;> simp only [full, if_false, if_true]
      · exact ⟨rfl, rfl, rfl, rfl⟩
      · exact nofun
    | false =>
      refine .inl ⟨by simp [full], ?_, ?_⟩ <;> simp only [full, if_false] <;> exact ⟨_, rfl⟩

theorem isNone_of_accepts {s : Jobs.Session} {submission : Submission} {runId : Text} {ok : Bool}
    (accepts : Accepts s submission runId ok = true) : s.rows.get? submission.key = none := by
  simp only [Accepts, Bool.and_eq_true, Option.isNone_iff_eq_none] at accepts
  exact accepts.1.1.2

theorem accepted_proceed (standing : Standing) (wait : Bool) (timeoutS : Value) :
    (proceed cfg standing wait timeoutS).accepted = standing.accepted := by
  unfold proceed
  split
  · split <;> rfl
  · rfl

theorem standing_proceed {standing held : Standing} {wait : Bool} {timeoutS : Value}
    (here : (proceed cfg standing wait timeoutS).standing? = some held) : held = standing := by
  unfold proceed at here
  split at here
  · split at here
    · exact (Option.some.inj here).symm
    · cases here
  · exact (Option.some.inj here).symm

theorem accepted_entered {α : Type} {phase} (plain : ∀ a, (phase a).accepted = false)
    (result : Result α) : (entered phase result).accepted = false := by
  cases result with
  | ok a => exact plain a
  | error => rfl

theorem standing_entered {α : Type} {phase : α → Phase} (plain : ∀ a, (phase a).standing? = none)
    (result : Result α) : (entered phase result).standing? = none := by
  cases result with
  | ok a => exact plain a
  | error => rfl

theorem fresh_enter {entry : Entry} {phase : Phase} (given : enter cfg entry = some phase) :
    phase.accepted = false ∧ phase.standing? = none := by
  unfold enter at given
  split at given
  · cases given
    exact ⟨accepted_entered (fun _ => rfl) _, standing_entered (fun _ => rfl) _⟩
  split at given <;> cases given
  · exact ⟨rfl, rfl⟩
  · exact ⟨accepted_entered (fun _ => rfl) _, standing_entered (fun _ => rfl) _⟩
  · exact ⟨accepted_entered (fun _ => rfl) _, standing_entered (fun _ => rfl) _⟩

theorem fresh_find (s : State) (call : Admitted) :
    (s.find call).accepted = false ∧ (s.find call).standing? = none := by
  unfold State.find
  split
  · split <;> exact ⟨rfl, rfl⟩
  · split <;> exact ⟨rfl, rfl⟩
  · exact ⟨rfl, rfl⟩

theorem accepted_fetch (s : State) (call : Admitted) : (s.fetch cfg call).accepted = false := by
  unfold State.fetch
  split
  · exact accepted_proceed ..
  · rfl

theorem accepted_look (s : State) (standing : Standing) (timeout : Option ℚ) (remaining : ℚ)
    (answer : Answer) : (s.look cfg standing timeout remaining answer).accepted = standing.accepted := by
  unfold State.look
  repeat' split
  all_goals rfl

theorem accepted_show (s : State) (standing : Standing) : (s.show standing).accepted = standing.accepted := by
  unfold State.show
  split <;> rfl

theorem calls_put (session : Jobs.Session) (phase : Phase) :
    (s.put c session phase).calls d = if d = c then phase else s.calls d := by
  by_cases same : d = c
  · subst same
    simp [State.put]
  · simp [State.put, same]

/-! ## One step -/

inductive Moved (cfg : Config) (s : State) : Label → State → Prop where
  | enter {c : Nat} {entry : Entry} {phase : Phase} (here : s.calls c = .idle)
      (given : enter cfg entry = some phase) :
      Moved cfg s (.enter c entry) (s.put c s.session phase)
  | find {c : Nat} {call : Admitted} (here : s.calls c = .finding call) :
      Moved cfg s (.find c) (s.put c (s.session.inspect call.key).1 (s.find call))
  | fetch {c : Nat} {call : Admitted} (here : s.calls c = .fetching call) :
      Moved cfg s (.fetch c) (s.put c (s.session.inspect call.key).1 (s.fetch cfg call))
  | select {c : Nat} {call : Admitted} (here : s.calls c = .selecting call) :
      Moved cfg s (.select c) (s.put c s.session (s.select cfg call))
  | submit {c : Nat} {runId : Text} {ok : Bool} {submission : Submission}
      (here : s.calls c = .submitting submission) :
      Moved cfg s (.submit c runId ok) (s.submit cfg c submission runId ok)
  | look {c : Nat} {remaining : ℚ} {answer : Answer} {standing : Standing} {timeout : Option ℚ}
      (here : s.calls c = .waiting standing timeout) :
      Moved cfg s (.look c remaining answer)
        (s.put c (s.session.inspect standing.key).1 (s.look cfg standing timeout remaining answer))
  | «show» {c : Nat} {standing : Standing} (here : s.calls c = .showing standing) :
      Moved cfg s (.show c) (s.put c (s.session.inspect standing.key).1 (s.show standing))
  | observe {view : View} : Moved cfg s (.observe view) { s with view }
  | registry {part : Jobs.Section} {session : Jobs.Session} (alive : s.session.crashed = false)
      (moved : s.session.step part = some session) : Moved cfg s (.registry part) { s with session }

theorem step_moved (next : step cfg s l = some t) : Moved cfg s l t := by
  cases l with simp only [step] at next
  | enter c entry =>
    split at next
    · rename_i here
      obtain ⟨phase, given, rfl⟩ := Option.map_eq_some_iff.mp next
      exact .enter here given
    · cases next
  | find c | fetch c | select c | look c remaining answer | «show» c | submit c runId ok =>
    split at next
    · rename_i here
      cases next
      constructor
      exact here
    · cases next
  | observe =>
    cases next
    exact .observe
  | registry part =>
    split at next
    · cases next
    · rename_i alive
      obtain ⟨session, moved, rfl⟩ := Option.map_eq_some_iff.mp next
      exact .registry (by simpa using alive) moved

theorem step_cases (next : step cfg s l = some t) :
    (∃ c session phase, l.call? = some c ∧ t = s.put c session phase) ∨
      (l.call? = none ∧ t.calls = s.calls) := by
  cases step_moved next with
  | observe | registry => exact .inr ⟨rfl, rfl⟩
  | _ => exact .inl ⟨_, _, _, rfl, rfl⟩

theorem accepted_step (next : step cfg s l = some t) (own : l.call? = some c) : (t.calls c).accepted = true ↔
      (s.calls c).accepted = true ∨ ¬Quiet s.session t.session := by
  have still {session : Jobs.Session} {phase : Phase} (quiet : Quiet s.session session)
      (same : phase.accepted = (s.calls c).accepted) :
      ((s.put c session phase).calls c).accepted = true ↔
        (s.calls c).accepted = true ∨ ¬Quiet s.session (s.put c session phase).session := by
    rw [calls_put, if_pos rfl, same]
    exact ⟨.inl, fun either => either.resolve_right fun loud => loud quiet⟩
  cases step_moved next with cases own
  | enter here given => exact still (quiet_self _) (by rw [(fresh_enter given).1, here]; rfl)
  | find here => exact still (quiet_inspect ..) (by rw [(fresh_find s _).1, here]; rfl)
  | fetch here => exact still (quiet_inspect ..) (by rw [accepted_fetch, here]; rfl)
  | select here =>
    refine still (quiet_self _) ?_
    rw [here]
    exact accepted_entered (fun _ => rfl) _
  | @submit c runId ok submission here =>
    unfold State.submit
    rcases submit_spec s.session submission runId ok with
      ⟨accepts, ⟨row, rows⟩, run, ran⟩ | ⟨_, quiet, given⟩
    · have absent := isNone_of_accepts accepts
      dsimp only
      rw [calls_put, if_pos rfl, ran]
      dsimp only
      rw [accepted_proceed, absent]
      refine iff_of_true rfl (.inr fun quiet => ?_)
      have same := congrArg (fun rows => rows.get? submission.key) (rows.symm.trans quiet.rows)
      simp [absent] at same
    · refine still quiet ?_
      rw [here]
      cases result : (s.session.submit submission.key submission.parameters runId true
          submission.inferenceRequested ok).2 with
      | error error => rfl
      | ok run =>
        dsimp only
        rw [accepted_proceed]
        obtain ⟨row, found⟩ := Option.isSome_iff_exists.mp (given run result)
        rw [found]
        rfl
  | look here => exact still (quiet_inspect ..) (by rw [accepted_look, here]; rfl)
  | «show» here => exact still (quiet_inspect ..) (by rw [accepted_show, here]; rfl)

theorem accepted_other (next : step cfg s l = some t) (other : l.call? ≠ some c) : t.calls c = s.calls c := by
  rcases step_cases next with ⟨d, session, phase, own, rfl⟩ | ⟨_, same⟩
  · rw [calls_put, if_neg fun same : c = d => other (by rw [same]; exact own)]
  · rw [same]

theorem accepted_run {ls} (ran : run (step cfg) s ls = some t) :
    (t.calls c).accepted = true ↔ (s.calls c).accepted = true ∨ Touches cfg c s ls := by
  induction ls generalizing s with
  | nil =>
    cases ran
    simp [Touches]
  | cons l ls ih =>
    obtain ⟨u, next, rest⟩ := run_cons_eq_some.mp ran
    have only : Touches cfg c s (l :: ls) ↔
        (l.call? = some c ∧ ¬Quiet s.session u.session) ∨ Touches cfg c u ls := by
      constructor
      · rintro ⟨v, other, either⟩
        obtain rfl := Option.some.inj (other.symm.trans next)
        exact either
      · exact fun either => ⟨u, next, either⟩
    rw [ih rest, only, ← or_assoc]
    refine or_congr_left ?_
    by_cases own : l.call? = some c
    · rw [accepted_step next own]
      simp [own]
    · rw [accepted_other next own]
      simp [own]

/-! ## What a run keeps -/

def Held (s : State) : Prop :=
  ∀ c standing, (s.calls c).standing? = some standing → (s.session.rows.get? standing.key).isSome

theorem present_stays {s t : Jobs.Session} {part : Jobs.Section} {k : JobKey}
    (alive : s.crashed = false) (next : s.step part = some t) (present : (s.rows.get? k).isSome) :
    (t.rows.get? k).isSome := by
  obtain ⟨row, found⟩ := Option.isSome_iff_exists.mp present
  obtain ⟨later, here, _⟩ := (Jobs.step_moves alive next k).kept found
  exact Option.isSome_iff_exists.mpr ⟨later, here⟩

theorem Held.put (held : Held s) {session : Jobs.Session} {phase : Phase}
    (rows : ∀ k, (s.session.rows.get? k).isSome → (session.rows.get? k).isSome)
    (own : ∀ standing, phase.standing? = some standing → (session.rows.get? standing.key).isSome) :
    Held (s.put c session phase) := by
  intro d standing here
  rw [calls_put] at here
  split at here
  · exact own standing here
  · exact rows _ (held d standing here)

theorem standing_look {standing held : Standing} {timeout : Option ℚ} {remaining : ℚ} {answer : Answer}
    (here : (s.look cfg standing timeout remaining answer).standing? = some held) :
    held = standing := by
  unfold State.look at here
  repeat' split at here
  all_goals first
    | exact (Option.some.inj here).symm
    | cases here

theorem held_step (held : Held s) (next : step cfg s l = some t) : Held t := by
  have quiet {session : Jobs.Session} (quiet : Quiet s.session session) (k : JobKey)
      (present : (s.session.rows.get? k).isSome) : (session.rows.get? k).isSome := by
    rwa [quiet.rows]
  cases step_moved next with
  | enter _ given =>
    exact held.put (fun _ => id) fun standing here => by
      rw [(fresh_enter given).2] at here; cases here
  | find =>
    exact held.put (quiet (quiet_inspect ..)) fun standing here => by
      rw [(fresh_find s _).2] at here; cases here
  | fetch _ =>
    refine held.put (quiet (quiet_inspect ..)) fun standing here => ?_
    rw [inspect_rows]
    unfold State.fetch at here
    split at here
    · rename_i row read
      rw [standing_proceed here]
      exact Option.isSome_iff_exists.mpr ⟨row, (inspect_ok read).2⟩
    · cases here
  | select =>
    refine held.put (fun _ => id) fun standing here => ?_
    rw [show (s.select cfg _).standing? = none from standing_entered (fun _ => rfl) _] at here
    cases here
  | @submit c runId ok submission _ =>
    unfold State.submit
    rcases submit_spec s.session submission runId ok with
      ⟨accepts, ⟨row, rows⟩, run, ran⟩ | ⟨_, still, given⟩
    · have absent := isNone_of_accepts accepts
      refine held.put (fun k present => ?_) fun standing here => ?_
      · rw [rows]
        by_cases same : k = submission.key
        · rw [same, Dict.get?_set_self]; rfl
        · rwa [Dict.get?_set_of_ne same]
      · rw [ran] at here
        rw [standing_proceed here, rows, Dict.get?_set_self]
        rfl
    · refine held.put (quiet still) fun standing here => ?_
      split at here
      · rename_i run ran
        rw [standing_proceed here]
        exact quiet still _ (given run ran)
      · cases here
  | @look c _ _ standing timeout here =>
    refine held.put (quiet (quiet_inspect ..)) fun later kept => ?_
    rw [standing_look kept, inspect_rows]
    exact held c standing (by rw [here]; rfl)
  | «show» =>
    refine held.put (quiet (quiet_inspect ..)) fun later kept => ?_
    unfold State.show at kept
    split at kept <;> cases kept
  | observe => exact held
  | registry alive moved =>
    exact fun c standing here => present_stays alive moved (held c standing here)

theorem harmless_put (harmless : Harmless s) {session : Jobs.Session} {phase : Phase} :
    Harmless (s.put c session phase) ↔ ∀ failure, phase = .refused failure true → failure.outcome = true := by
  constructor
  · intro after failure same
    exact after c failure (by rw [calls_put, if_pos rfl]; exact same)
  · intro own d failure here
    rw [calls_put] at here
    split at here
    · exact own failure here
    · exact harmless d failure here

theorem harmless_unaccepted (harmless : Harmless s) {session : Jobs.Session} {phase : Phase}
    (plain : phase.accepted = false) : Harmless (s.put c session phase) :=
  (harmless_put harmless).mpr fun failure same => by rw [same] at plain; cases plain

theorem validateTimeout_error {value : Value} {f : Fault} (given : validateTimeout cfg value = .error f) :
    carriesRecord f.kind = false := by
  have finite_error (g : Fault) (given : finite cfg .value
      "timeout_s must be finite and non-negative" value = .error g) : carriesRecord g.kind = false := by
    unfold finite at given
    split at given
    · split at given
      · cases given
      · obtain rfl := Except.error.inj given
        rfl
    · cases given
    · cases given
    · obtain rfl := Except.error.inj given
      rfl
  unfold validateTimeout at given
  split at given
  · cases given
  cases number : finite cfg .value "timeout_s must be finite and non-negative" value with
  | error g =>
    rw [number] at given
    obtain rfl := Except.error.inj given
    exact finite_error g number
  | ok =>
    rw [number] at given
    by_cases negative : seconds value < 0
    · simp only [negative, if_true] at given
      obtain rfl := Except.error.inj given
      rfl
    · simp only [negative, if_false] at given
      cases given

theorem outcome_proceed {standing : Standing} {wait : Bool} {timeoutS : Value}
    (accepted : standing.accepted = true) :
    (∀ failure, proceed cfg standing wait timeoutS = .refused failure true → failure.outcome = true) ↔
      (wait = true → ∃ timeout, validateTimeout cfg timeoutS = .ok timeout) := by
  unfold proceed
  cases wait with
  | false => exact iff_of_true (fun _ same => by cases same) (fun same => by cases same)
  | true =>
    rw [if_pos rfl]
    cases valid : validateTimeout cfg timeoutS with
    | ok timeout => exact iff_of_true (fun _ same => by cases same) fun _ => ⟨timeout, rfl⟩
    | error f =>
      refine iff_of_false (fun all => ?_) fun given => by
        obtain ⟨timeout, same⟩ := given rfl
        cases same
      have outcome : carriesRecord f.kind = true := all (.fault f) (by rw [accepted])
      rw [validateTimeout_error valid] at outcome
      cases outcome

theorem outcome_look {standing : Standing} {timeout : Option ℚ} {remaining : ℚ} {answer : Answer}
    (accepted : standing.accepted = true) (present : (s.session.rows.get? standing.key).isSome) :
    (∀ failure, s.look cfg standing timeout remaining answer = .refused failure true → failure.outcome = true) ↔
      s.session.closed = false ∧ ∀ row, s.session.rows.get? standing.key = some row →
        (row.status.terminal = false → timeout.isSome → remaining ≤ 0 ∨ remaining ≤ cfg.timeoutMax) ∧
          (row.status = .completed → standing.task → answer ≠ .other) := by
  obtain ⟨row, found⟩ := Option.isSome_iff_exists.mp present
  cases shut : s.session.closed with
  | true =>
    refine iff_of_false (fun all => ?_) fun ⟨same, _⟩ => by cases same
    have closed : s.look cfg standing timeout remaining answer =
        .refused (jobFailure standing.key .empty .closed) true := by
      unfold State.look Jobs.Session.inspect
      rw [shut, if_pos rfl, accepted]
    cases all _ closed
  | false =>
    have read := inspect_eq shut found
    unfold State.look
    rw [read, accepted, found]
    simp only [true_and, Option.some.injEq, forall_eq']
    cases status : row.status with
    | completed =>
      cases task : standing.task with
      | false => simp [Jobs.Status.terminal]
      | true =>
        by_cases other : answer = .other
        · simp [Jobs.Status.terminal, other, Failure.outcome, carriesRecord]
        · simp [Jobs.Status.terminal, other]
    | unknown | cancelled | failed => simp [Jobs.Status.terminal, Failure.outcome, carriesRecord]
    | accepted | running | cancelRequested =>
      cases timeout with
      | none => simp [Jobs.Status.terminal]
      | some =>
        by_cases expired : remaining ≤ 0
        · simp [Jobs.Status.terminal, expired, Failure.outcome, carriesRecord]
        · by_cases large : cfg.timeoutMax < remaining
          · simp [Jobs.Status.terminal, expired, large, Rat.not_le.mpr large, Failure.outcome, carriesRecord]
          · simp [Jobs.Status.terminal, expired, large, Rat.not_lt.mp large]

theorem outcome_show {standing : Standing} (accepted : standing.accepted = true)
    (present : (s.session.rows.get? standing.key).isSome) :
    (∀ failure, s.show standing = .refused failure true → failure.outcome = true) ↔
      s.session.closed = false := by
  obtain ⟨row, found⟩ := Option.isSome_iff_exists.mp present
  cases shut : s.session.closed with
  | true =>
    refine iff_of_false (fun all => ?_) fun same => by cases same
    have closed : s.show standing = .refused (jobFailure standing.key .empty .closed) true := by
      unfold State.show Jobs.Session.inspect
      rw [shut, if_pos rfl, accepted]
    cases all _ closed
  | false =>
    have read := inspect_eq shut found
    unfold State.show
    rw [read]
    exact iff_of_true (fun _ same => by cases same) rfl

/-- **One step** keeps the calls harmless exactly if it is regular. -/
theorem harmless_step (harmless : Harmless s) (held : Held s) (next : step cfg s l = some t) :
    Harmless t ↔ Regular cfg s l := by
  cases step_moved next with
  | enter _ given => exact iff_of_true (harmless_unaccepted harmless (fresh_enter given).1) trivial
  | find => exact iff_of_true (harmless_unaccepted harmless (fresh_find s _).1) trivial
  | fetch => exact iff_of_true (harmless_unaccepted harmless (accepted_fetch s _)) trivial
  | select =>
    exact iff_of_true (harmless_unaccepted harmless (accepted_entered (fun _ => rfl) _)) trivial
  | @submit c runId ok submission here =>
    have regular : Regular cfg s (.submit c runId ok) ↔
        (Accepts s.session submission runId ok = true → submission.wait = true →
          ∃ timeout, validateTimeout cfg submission.timeoutS = .ok timeout) := by
      simp only [Regular, here, Phase.submitting.injEq, forall_eq']
    rw [regular]
    unfold State.submit
    rcases submit_spec s.session submission runId ok with
      ⟨accepts, _, run, ran⟩ | ⟨refuses, _, given⟩
    · rw [harmless_put harmless, ran]
      dsimp only
      rw [outcome_proceed (by rw [isNone_of_accepts accepts]; rfl)]
      simp [accepts]
    · refine iff_of_true (harmless_unaccepted harmless ?_) fun accepts => by
        rw [refuses] at accepts; cases accepts
      split
      · rename_i run ran
        rw [accepted_proceed]
        obtain ⟨row, found⟩ := Option.isSome_iff_exists.mp (given run ran)
        rw [found]
        rfl
      · rfl
  | @look c _ _ standing timeout here =>
    simp only [Regular, here, Phase.waiting.injEq, and_imp, forall_eq', forall_apply_eq_imp_iff]
    cases accepted : standing.accepted with
    | false =>
      exact iff_of_true (harmless_unaccepted harmless (by rw [accepted_look, accepted]))
        fun same => by cases same
    | true =>
      rw [harmless_put harmless, outcome_look accepted (held c standing (by rw [here]; rfl))]
      simp
  | @«show» c standing here =>
    simp only [Regular, here, Phase.showing.injEq, forall_eq']
    cases accepted : standing.accepted with
    | false =>
      exact iff_of_true (harmless_unaccepted harmless (by rw [accepted_show, accepted]))
        fun same => by cases same
    | true =>
      rw [harmless_put harmless, outcome_show accepted (held c standing (by rw [here]; rfl))]
      simp
  | observe | registry => exact iff_of_true harmless trivial

end

/-! ## Runs -/

/-- **Where a rejected call touched nothing.** -/
theorem rejected_harmless_iff {cfg : Config} {s t : State} {ls : List Label}
    (idle : ∀ c, s.calls c = .idle) (ran : run (step cfg) s ls = some t) :
    (∀ before after u, ls = before ++ after → run (step cfg) s before = some u →
        ∀ c failure accepted, u.calls c = .refused failure accepted → failure.outcome = false →
          ¬Touches cfg c s before) ↔
      Along (step cfg) (Regular cfg) s ls := by
  have exact_flag {before : List Label} {u : State} (reached : run (step cfg) s before = some u)
      (c : Nat) : (u.calls c).accepted = true ↔ Touches cfg c s before := by
    rw [accepted_run reached, idle c]
    simp [Phase.accepted]
  have harmless_init : Harmless s := fun c failure here => by rw [idle c] at here; cases here
  have held_init : Held s := fun c standing here => by rw [idle c] at here; cases here
  have runs := @along_iff_prefixes_of State Label (step cfg) (Regular cfg)
    (fun s => Harmless s ∧ Held s) Harmless (fun _ both => both.1)
    (fun s l t met both next => ⟨(harmless_step both.1 both.2 next).mpr met, held_step both.2 next⟩)
    (fun s l t both next after => (harmless_step both.1 both.2 next).mp after)
    s t ls ⟨harmless_init, held_init⟩ ran
  rw [← runs]
  constructor
  · intro all before after u split reached c failure here
    by_contra rejected
    exact all before after u split reached c failure true here (by simpa using rejected)
      ((exact_flag reached c).mp (by rw [here]; rfl))
  · intro all before after u split reached c failure accepted here rejected touched
    have flag := (exact_flag reached c).mpr touched
    rw [here] at flag
    obtain rfl : accepted = true := flag
    rw [all before after u split reached c failure here] at rejected
    cases rejected

def plainConfig : Config where
  py := ⟨id, id, fun _ => [], fun _ => false, fun _ => none, fun _ => none, fun n => some (.finite n)⟩
  policy := ⟨[]⟩
  trusted := ⟨['t'], ['t']⟩
  maxSteps := 1
  defaultControlHz := .finite 1
  hasStore := false
  required := false
  timeoutMax := 9223372036

def waited (timeoutS : Value) : ExecuteCall where
  callerId := .str ['a']
  sessionId := .str ['s']
  requestId := .str ['r']
  action := .one (.robot ⟨.finite 0, .empty, .empty⟩)
  wait := true
  timeoutS := timeoutS

def emptyRegistry : State where
  session := { maxJobs := 1, maxEvents := 1, rows := .empty, executions := fun _ => 0 }

def submits (timeoutS : Value) : List Label :=
  [.enter 0 (.execute (waited timeoutS)), .find 0, .select 0, .submit 0 ['j'] true]

def ending (ls : List Label) : Option Phase :=
  (run (step plainConfig) emptyRegistry ls).map fun t => t.calls 0

theorem regular_of_submits {s} {c} {runId} {ok} {submission}
    (here : s.calls c = .submitting submission) (timeout : submission.timeoutS = .number (.int 1)) :
    Regular plainConfig s (.submit c runId ok) := by
  intro other standing _ _
  obtain rfl := Phase.submitting.inj (standing.symm.trans here)
  exact ⟨some 1, by rw [timeout]; rfl⟩

/-- A call that is waited for one second. -/
theorem rejected_harmless_waited :
    Along (step plainConfig) (Regular plainConfig) emptyRegistry (submits (.number (.int 1))) ∧
    ∀ before after u, submits (.number (.int 1)) = before ++ after →
      run (step plainConfig) emptyRegistry before = some u →
        ∀ c failure accepted, u.calls c = .refused failure accepted → failure.outcome = false →
          ¬Touches plainConfig c emptyRegistry before := by
  have ended : ∃ phase, ending (submits (.number (.int 1))) = some phase := ⟨_, rfl⟩
  obtain ⟨phase, ended⟩ := ended
  obtain ⟨t, ran, _⟩ := Option.map_eq_some_iff.mp ended
  have regular : Along (step plainConfig) (Regular plainConfig) emptyRegistry (submits (.number (.int 1))) := by
    refine ⟨trivial, fun u first => ⟨trivial, fun v second => ⟨trivial, fun w third =>
      ⟨?_, fun _ _ => trivial⟩⟩⟩⟩
    obtain ⟨submission, here, timeout⟩ : ∃ submission,
        ending [.enter 0 (.execute (waited (.number (.int 1)))), .find 0, .select 0] =
          some (.submitting submission) ∧ submission.timeoutS = .number (.int 1) := ⟨_, rfl, rfl⟩
    obtain ⟨x, reached, here⟩ := Option.map_eq_some_iff.mp here
    have same : run (step plainConfig) emptyRegistry
        [.enter 0 (.execute (waited (.number (.int 1)))), .find 0, .select 0] = some w :=
      run_cons_eq_some.mpr ⟨u, first, run_cons_eq_some.mpr ⟨v, second, run_cons_eq_some.mpr ⟨w, third, rfl⟩⟩⟩
    obtain rfl := Option.some.inj (reached.symm.trans same)
    exact regular_of_submits here timeout
  exact ⟨regular, (rejected_harmless_iff (fun _ => rfl) ran).mpr regular⟩

/-- The timeout is negative: the call is refused, and its job runs. -/
theorem rejected_running : ¬∀ before after u, submits (.number (.int (-1))) = before ++ after →
      run (step plainConfig) emptyRegistry before = some u →
        ∀ c failure accepted, u.calls c = .refused failure accepted → failure.outcome = false →
          ¬Touches plainConfig c emptyRegistry before := by
  intro all
  obtain ⟨failure, ended, rejected⟩ : ∃ failure,
      ending (submits (.number (.int (-1)))) = some (.refused failure true) ∧
        failure.outcome = false := ⟨_, rfl, rfl⟩
  obtain ⟨u, ran, here⟩ := Option.map_eq_some_iff.mp ended
  refine all _ [] u (List.append_nil _).symm ran 0 failure true here rejected ?_
  exact ((accepted_run ran).mp (by rw [here]; rfl)).resolve_left nofun

end EmbodiRun.Http.Execution
