/-
# Agents.Rounds -- one observe, review and execute round, and what it reports

A round reads a proposal and a decision, submits at most one segment for the decision, and reports
what became of it.  Each way out of the round builds its own result.

* `honest_always`: **every round is honest, whatever it is answered**.
-/
import EmbodiRun.Agents.Cooperative

namespace EmbodiRun.Agents.Rounds

open Data List
open Cooperative (Value Fields Python Proposal proposalMetadata declaresUnit isFinite nameOf submittedNames)

inductive Raised where
  | correctionUnsupported (text : String)
  /-- `UnsupportedOperation`, a `ControlHTTPError`. -/
  | unsupported (text : String)
  /-- `ControlTransportError`. -/
  | transport (text : String)
  /-- `ControlHTTPError`. -/
  | http (payload : Fields) (text : String)
  | other (text : String)

structure Floats extends Python where
  /-- `1.0 / hz`. -/
  inverse : Double → Double
  /-- `math.isclose`, with an absolute tolerance. -/
  close : Double → Double → Bool
  /-- `a > b`. -/
  greater : Number → Number → Bool
  /-- `dict(value)`. -/
  dict : Value → Except String Fields

structure Observation where
  observationId : String
  payload : Fields

/-- The arguments of `client.execute`. -/
structure Submission where
  actions : List Fields
  requestId : String
  observationId : String
  steps : Nat
  controlHz : Option Double

structure Loop where
  py : Floats
  featureNames : Option (List String)
  controlHz : Option Double
  /-- `post_observation_timeout_s`, as a message shows it. -/
  timeoutText : String
  observe : Except Raised Observation
  proposalProvider : Observation → Except Raised Value
  reviewPacketBuilder : Option (Observation → Proposal → Fields → Except Raised Value)
  /-- `none` for an awaitable. -/
  reviewer : Fields → Except Raised (Option Value)
  correctionMapper : Option (List Value → Observation → Except Raised Value)
  /-- The answer for a row at its place in the segment. -/
  actionEncoder : Option (Nat → List Double → Double → Fields → Except Raised Value)
  requestStarted : Option (String → Except Raised Unit)
  /-- `uuid4().hex`. -/
  hex : String
  execute : Submission → Except Raised Fields
  /-- The first read after the execution. -/
  baseline : Except Raised Observation
  /-- The reads after it, and how many of them there are before the deadline. -/
  current : Nat → Except Raised Observation
  polls : Nat

open Loop

/-- `raise ValueError(text)`, where it is not so. -/
def require (p : Prop) [Decidable p] (text : String) : Except Raised Unit := ensure p (.other text)

def builtin {α : Type} : Except String α → Except Raised α
  | .ok a => .ok a
  | .error text => .error (.other text)

/-! ## The proposal -/

section

variable (py : Floats)

def finiteNumber : Value → Except Raised Bool
  | .number (.bool _) => .ok false
  | .number n => (builtin (py.float (.number n))).map isFinite
  | _ => .ok false

def positiveNumber (value : Value) : Except Raised Bool := do
  if ← finiteNumber py value then
    return match value with
      | .number n => py.greater n (.int 0)
      | _ => false
  else return false

/-- A row of `_rows`. -/
def proposalRow (index : Nat) : Value → Except Raised (List Double)
  | .list row => do
    require (row.length = 12) s!"proposal actions[{index}] must contain 12 values"
    let finite ← row.allM (finiteNumber py)
    require finite s!"proposal actions[{index}] contains a non-finite value"
    row.mapM fun item => builtin (py.float item)
  | _ => .error (.other s!"proposal actions[{index}] must contain 12 values")

/-- `_rows`. -/
def proposalRows : Value → Except Raised (List (List Double))
  | .list rows => do
    require (rows.length = 50) "proposal actions must be a 50-step sequence"
    rows.zipIdx.mapM fun (row, index) => proposalRow py index row
  | _ => .error (.other "proposal actions must be a 50-step sequence")

def validateProposal (actions : Value) (metadata : Fields) : Except Raised (List (List Double)) := do
  for (key, expected, shown) in proposalMetadata do
    require ((metadata.get? key).any (py.eq · expected)) s!"proposal metadata {key} must be {shown}"
  require (declaresUnit (metadata.get? "joint_position_unit"))
    "proposal metadata joint_position_unit must explicitly declare degrees or range_m100_100"
  require ((metadata.get? "horizon").all fun horizon => py.eq horizon (.number (.int 50)))
    "proposal metadata horizon must be 50"
  proposalRows py actions

def checkObservation (observationId : String) : Option Value → Except Raised Unit
  | none | some .null => .ok ()
  | some declared =>
    require (py.eq declared (.str observationId)) "proposal.observation_id does not match the observation"

def fromPayload (payload : Value) (observationId : String) : Except Raised Proposal := do
  let .dict payload := payload | throw (.other "proposal must be an object")
  let .dict metadata := (payload.get? "metadata").getD .null
    | throw (.other "proposal.metadata must be an object")
  let actions ← validateProposal py ((payload.get? "actions").getD .null) metadata
  checkObservation py observationId (payload.get? "observation_id")
  let .str proposalId := (payload.get? "proposal_id").getD .null
    | throw (.other "proposal_id must be a non-empty string")
  require (py.blank proposalId = false) "proposal_id must be a non-empty string"
  return { proposalId, observationId, actions, metadata }

def toPayload (proposal : Proposal) : Value := .dict ⟨[ ("proposal_id", .str proposal.proposalId),
  ("observation_id", .str proposal.observationId),
  ("actions", .list (proposal.actions.map fun row => .list (row.map fun x => .number (.float x)))),
  ("metadata", .dict proposal.metadata)]⟩

end

/-! ## The decision -/

inductive Decision where
  | executePrefix (steps : Nat)
  | correct (corrections : List Value)
  | hold (reason : String)

def Decision.kind : Decision → String
  | executePrefix _ => "execute_prefix"
  | correct _ => "correct"
  | hold _ => "hold"

section

variable (py : Floats)

/-- `set(fields) == keys`. -/
def hasKeys (fields : Fields) (keys : List String) : Bool :=
  (fields.items.all fun item => keys.contains item.1) && keys.all fun key => (fields.get? key).isSome

def isText (fields : Fields) (key text : String) : Bool :=
  match fields.get? key with
  | some (.str value) => value = text
  | _ => false

def waypointKeys : List String :=
  ["reach_m", "height_m", "pan_deg", "wrist_flex_deg", "wrist_roll_deg", "gripper"]

def validateWaypoint (label : String) : Value → Except Raised Unit
  | .dict waypoint => do
    require (hasKeys waypoint waypointKeys) s!"{label} is invalid"
    let finite ← waypointKeys.allM fun key => finiteNumber py ((waypoint.get? key).getD .null)
    require finite s!"{label} is invalid"
  | _ => .error (.other s!"{label} must be a mapping")

/-- A side of a correction, where it is not `None`. -/
def side (correction : Fields) (key : String) : Option Value :=
  match correction.get? key with
  | none | some .null => none
  | value => value

def validateCorrection : Value → Except Raised Unit
  | .dict correction => do
    require (hasKeys correction ["left", "right", "frame", "units", "duration_s"])
      "correction has unexpected or missing keys"
    require (isText correction "frame" "so101_shoulder_plane") "correction frame must be so101_shoulder_plane"
    require (isText correction "units" "m_deg") "correction units must be m_deg"
    let positive ← positiveNumber py ((correction.get? "duration_s").getD .null)
    require positive "correction duration_s must be positive and finite"
    require ((side correction "left").isSome ∨ (side correction "right").isSome)
      "correction must target at least one arm"
    for key in ["left", "right"] do
      match side correction key with
      | some waypoint => validateWaypoint py s!"correction.{key}" waypoint
      | none => pure ()
  | _ => .error (.other "correction must be a mapping")

def decisionKeys : List String :=
  ["proposal_id", "observation_id", "decision", "execute_steps", "corrections", "reason"]

def validateBranch (kind : Value) (steps : ℤ) (corrections : List Value) (reason : String) :
    Except Raised Decision :=
  match kind with
  | .str "execute_prefix" => do
    require ((1 ≤ steps ∧ steps ≤ 15) ∧ corrections.length = 0)
      "execute_prefix requires 1-15 steps and no corrections"
    return .executePrefix steps.toNat
  | .str "correct" => do
    require (steps = 0 ∧ 1 ≤ corrections.length ∧ corrections.length ≤ 5)
      "correct requires zero steps and 1-5 corrections"
    corrections.forM (validateCorrection py)
    return .correct corrections
  | .str "hold" => do
    require (steps = 0 ∧ corrections.length = 0) "hold requires zero steps and no corrections"
    return .hold reason
  | _ => .error (.other "Astra decision kind is invalid")

def validateDecision (raw : Value) (proposalId observationId : String) : Except Raised Decision := do
  let .dict result := raw | throw (.other "Astra decision must be a mapping")
  require (hasKeys result decisionKeys) "Astra decision has unexpected or missing keys"
  require (isText result "proposal_id" proposalId) "Astra decision does not match the current proposal"
  require (isText result "observation_id" observationId) "Astra decision does not match the current observation"
  let .str reason := (result.get? "reason").getD .null
    | throw (.other "Astra decision reason must be non-empty")
  require (py.blank reason = false) "Astra decision reason must be non-empty"
  let .number (.int steps) := (result.get? "execute_steps").getD .null
    | throw (.other "Astra decision execute_steps must be an integer")
  let .list corrections := (result.get? "corrections").getD .null
    | throw (.other "Astra decision corrections must be a list")
  validateBranch py ((result.get? "decision").getD .null) steps corrections reason

end

/-! ## The actions -/

/-- `fields.update(new)`. -/
def update (fields new : Fields) : Fields :=
  new.items.foldl (fun fields item => fields.set item.1 item.2) fields

def typeName : Value → String
  | .null => "NoneType"
  | .number (.bool _) => "bool"
  | .number (.int _) => "int"
  | .number (.float _) => "float"
  | .str _ => "str"
  | .list _ => "list"
  | .dict _ => "dict"

/-- What `for item in value` gives. -/
def elements : Value → Except Raised (List Value)
  | .list items => .ok items
  | .dict fields => .ok (fields.items.map fun item => .str item.1)
  | .str text => .ok (text.toList.map fun char => .str (.singleton char))
  | value => .error (.other s!"'{typeName value}' object is not iterable")

section

variable (py : Floats)

/-- `0.1`. -/
def tenth : Double := .finite (3602879701896397 / 36028797018963968)

/-- `1.0 / self.control_hz if self.control_hz else 0.1`. -/
def timestampStep : Option Double → Double
  | some hz => py.inverse hz
  | none => tenth

def onSchedule (timestamp : Double) (declared : Value) : Except Raised Bool := do
  if ← finiteNumber py declared then (builtin (py.float declared)).map (py.close · timestamp)
  else return false

/-- What `rows_to_actions` makes of an encoder's answer. -/
def encodedAction (timestamp : Double) (shared : Fields) : Value → Except Raised Fields
  | .dict action => do
    let near ← onSchedule py timestamp ((action.get? "timestamp_s").getD (.number (.float timestamp)))
    require near "action_encoder timestamp_s must match the public schedule"
    let .dict _ := (action.get? "values").getD .null
      | throw (.other "action_encoder must return public values")
    let .dict own := (action.get? "metadata").getD (.dict .empty)
      | throw (.other "action_encoder metadata must be a mapping")
    return (action.set "timestamp_s" (.number (.float timestamp))).set "metadata" (.dict (update shared own))
  | _ => .error (.other "action_encoder must return a public action mapping")

/-- An action of `rows_to_actions`. -/
def rowAction (encoder : Option (Nat → List Double → Double → Fields → Except Raised Value))
    (names : List String) (step : Double) (shared : Fields) (index : Nat) (row : List Double) :
    Except Raised Fields := do
  require (row.length = names.length ∧ row.all isFinite)
    "action rows must contain finite values matching feature_names"
  let timestamp := py.scale index step
  match encoder with
  | none => return ⟨[
      ("timestamp_s", .number (.float timestamp)),
      ("values", .dict (.ofItems (names.zip (row.map fun x => .number (.float x))))),
      ("metadata", .dict shared)]⟩
  | some encode => do
    let encoded ← encode index row timestamp shared
    encodedAction py timestamp shared encoded

def rowsToActions (encoder : Option (Nat → List Double → Double → Fields → Except Raised Value))
    (rows : List (List Double)) (featureNames : List Value) (step : Double) (shared : Fields) :
    Except Raised (List Fields) := do
  let some names := featureNames.mapM nameOf
    | throw (.other "feature_names must contain 12 non-empty names")
  require (names.length = 12) "feature_names must contain 12 non-empty names"
  require names.Nodup "feature_names must be unique"
  require (isFinite step ∧ py.greater (.float step) (.int 0)) "timestamp_step_s must be finite and positive"
  rows.zipIdx.mapM fun (row, index) => rowAction py encoder names step shared index row

/-- The rate that an action declares, in `_resolve_execution_control_hz`. -/
def declaredRate (action : Fields) : Except Raised (Option Double) :=
  match action.get? "metadata" with
  | some (.dict metadata) =>
    if isText metadata "duration_semantics" "public_control_hz_step" then do
      let rate := (metadata.get? "control_hz").getD .null
      let positive ← positiveNumber py rate
      require positive "correction action must declare a finite positive control_hz"
      (builtin (py.float rate)).map some
    else .ok none
  | _ => .ok none

def resolveExecutionControlHz (actions : List Fields) (requested : Option Double) :
    Except Raised (Option Double) := do
  match (← actions.mapM (declaredRate py)).reduceOption with
  | [] => return requested
  | first :: rest => do
    require (rest.all (py.close · first)) "correction actions declare conflicting control_hz values"
    require (requested.all (py.close · first)) "session control_hz conflicts with correction action control_hz"
    return some first

end

/-! ## The correction -/

/-- What a mapper gives: its actions, and the names and the metadata that go with them. -/
structure Mapping where
  actions : Value
  names : Option (List Value)
  metadata : Fields

def mapperNames : Option Value → Except Raised (Option (List Value))
  | none | some .null => .ok none
  | some (.list names) => .ok (some names)
  | some _ => .error (.other "correction mapper feature_names must be a sequence")

def mapperMetadata : Option Value → Except Raised Fields
  | none | some .null => .ok .empty
  | some (.dict metadata) => .ok metadata
  | some _ => .error (.other "correction mapper metadata must be a mapping")

def mappingOf : Value → Except Raised Mapping
  | .dict answer => do
    let names ← mapperNames (answer.get? "feature_names")
    let metadata ← mapperMetadata (answer.get? "metadata")
    return ⟨(answer.get? "actions").getD .null, names, metadata⟩
  | answer => .ok ⟨answer, none, .empty⟩

section

variable (py : Floats)

def payloadAction (metadata action : Fields) : Except Raised Fields := do
  let .dict _ := (action.get? "values").getD .null
    | throw (.other "mapped correction action must contain public values")
  if metadata.items.isEmpty then return action
  else do
    let own ← builtin (py.dict ((action.get? "metadata").getD (.dict .empty)))
    return action.set "metadata" (.dict (update own metadata))

/-- `self.feature_names or mapper_names or _declared_feature_names(proposal.metadata)`. -/
def correctionNames (featureNames : Option (List String)) (mapperNames : Option (List Value))
    (metadata : Fields) : Except Raised (List Value) :=
  match featureNames, mapperNames with
  | some (name :: names), _ => .ok ((name :: names).map .str)
  | _, some (name :: names) => .ok (name :: names)
  | _, _ => builtin (submittedNames none metadata)

def mappedRows (items : List Value) : Except Raised (List (List Double)) :=
  items.mapM fun item => do
    let row ← elements item
    row.mapM fun value => builtin (py.float value)

end

/-! ## The round -/

structure CooperativeResult where
  status : String
  observationId : String
  proposalId : String
  decision : Option String := none
  executedSteps : ℤ := 0
  discardedSteps : ℤ := 0
  execution : Option Fields := none
  postObservation : Option Observation := none
  error : Option String := none
  requestId : Option String := none
  executionEvidenceUnknown : Bool := false

namespace Loop

variable (loop : Loop)

def requestId : String := "astra-pi05-cooperative:" ++ loop.hex

/-- The actions of `execute_prefix`. -/
def prefixActions (proposal : Proposal) (steps : Nat) : Except Raised (List Fields) := do
  let names ← builtin (submittedNames loop.featureNames proposal.metadata)
  rowsToActions loop.py loop.actionEncoder (proposal.actions.take steps) names
    (timestampStep loop.py loop.controlHz)
    (.ofItems [("proposal_id", .str proposal.proposalId),
      ("joint_position_unit", (proposal.metadata.get? "joint_position_unit").getD .null)])

/-- The actions of `correct`. -/
def correctionActions (observation : Observation) (proposal : Proposal) (corrections : List Value) :
    Except Raised (List Fields) := do
  let some mapper := loop.correctionMapper
    | throw (.correctionUnsupported "correction requires an explicit robot-specific mapper")
  let answer ← mapper corrections observation
  let mapping ← mappingOf answer
  let .list items := mapping.actions
    | throw (.other "correction mapper must return action payloads or rows")
  match items.mapM Value.fields? with
  | some payloads => do
    require (1 ≤ payloads.length ∧ payloads.length ≤ 5) "correction mapper must return 1..5 action payloads"
    payloads.mapM (payloadAction loop.py mapping.metadata)
  | none => do
    let rows ← mappedRows loop.py items
    require (1 ≤ rows.length ∧ rows.length ≤ 5) "correction mapper must return 1..5 action rows"
    let names ← correctionNames loop.featureNames mapping.names proposal.metadata
    rowsToActions loop.py loop.actionEncoder rows names (timestampStep loop.py loop.controlHz)
      (update (.ofItems [("proposal_id", .str proposal.proposalId), ("correction", .number (.bool true))])
        mapping.metadata)

def actionsOf (observation : Observation) (proposal : Proposal) : Decision → Except Raised (List Fields)
  | .executePrefix steps => loop.prefixActions proposal steps
  | .correct corrections => loop.correctionActions observation proposal corrections
  -- `run_round` has returned
  | .hold _ => .ok []

/-- `self.request_started(request_id)`. -/
def announce : Except Raised Unit :=
  match loop.requestStarted with
  | some started => started loop.requestId
  | none => .ok ()

def submission (observation : Observation) (proposal : Proposal) (decision : Decision) :
    Except Raised Submission := do
  let actions ← loop.actionsOf observation proposal decision
  let hz ← resolveExecutionControlHz loop.py actions loop.controlHz
  loop.announce
  return ⟨actions, loop.requestId, observation.observationId, actions.length, hz⟩

def packetOf (prompt : String) (context : Fields) (observation : Observation) (proposal : Proposal) :
    Except Raised Fields :=
  let packet : Fields := ⟨[("prompt", .str prompt), ("context", .dict context),
    ("observation", .dict observation.payload), ("proposal", toPayload proposal)]⟩
  match loop.reviewPacketBuilder with
  | none => .ok packet
  | some build => do
    let .dict extra ← build observation proposal packet
      | throw (.other "review_packet_builder must return a mapping")
    return update packet extra

def prepare (prompt : String) (context : Fields) : Except Raised (Observation × Proposal × Decision) := do
  let observation ← loop.observe
  let raw ← loop.proposalProvider observation
  let proposal ← fromPayload loop.py raw observation.observationId
  let packet ← loop.packetOf prompt context observation proposal
  let some answer ← loop.reviewer packet
    | throw (.other "reviewer returned an awaitable; wrap async reviewers with a synchronous adapter")
  let decision ← validateDecision loop.py answer proposal.proposalId proposal.observationId
  return (observation, proposal, decision)

/-- The status of a `ControlHTTPError`. -/
def errorStatus (payload : Fields) : String :=
  if isText payload "code" "job_cancelled" ∨ isText payload "status" "cancelled" then "cancelled"
  else if isText payload "status" "stopped" then "stopped"
  else if isText payload "status" "manual_takeover" then "manual_takeover"
  else if isText payload "status" "unknown" ∨ isText payload "status" "uncertain" then "unknown"
  else "failed"

/-- The `except` branches. -/
def failedRound (proposal : Proposal) (kind : String) : Raised → Except Raised CooperativeResult
  | .correctionUnsupported text | .unsupported text =>
    .ok { status := "unsupported", observationId := proposal.observationId, proposalId := proposal.proposalId,
          decision := kind, requestId := loop.requestId, discardedSteps := proposal.actions.length,
          error := text }
  | .transport text =>
    .ok { status := "unknown", observationId := proposal.observationId, proposalId := proposal.proposalId,
          decision := kind, requestId := loop.requestId, error := text }
  | .http payload text =>
    .ok { status := errorStatus payload, observationId := proposal.observationId,
          proposalId := proposal.proposalId, decision := kind, requestId := loop.requestId, error := text }
  | .other text => .error (.other text)

def later (baseline current : Fields) (key : String) : Option Bool :=
  match baseline.get? key, current.get? key with
  | some (.number (.bool _)), _ | _, some (.number (.bool _)) => none
  | some (.number before), some (.number after) => some (loop.py.greater after before)
  | _, _ => none

def observationIsAfter (baseline current : Observation) : Bool :=
  current.observationId ≠ baseline.observationId && (loop.later baseline.payload current.payload "sequence" <|>
      loop.later baseline.payload current.payload "published_timestamp_ns").getD true

/-- The reads from `index`, the last of them when the deadline has passed. -/
def readAfter (baseline : Observation) : Nat → Nat → Except Raised (Option Observation)
  | 0, index => do
    let current ← loop.current index
    return if loop.observationIsAfter baseline current then some current else none
  | left + 1, index => do
    let current ← loop.current index
    if loop.observationIsAfter baseline current then return some current
    else readAfter baseline left (index + 1)

def newObservation : Except Raised (Option Observation) := do
  let baseline ← loop.baseline
  loop.readAfter baseline loop.polls 0

/-- `str(execution.get("status", "accepted"))`. -/
def said (execution : Fields) : String := loop.py.name ((execution.get? "status").getD (.str "accepted"))

/-- A status that `run_round` passes on. -/
def passedOn (status : String) : String :=
  if status ∈ ["accepted", "running", "queued", "pending"] then "pending"
  else if status ∈ ["unknown", "uncertain", "cancelled", "stopped", "manual_takeover", "failed",
      "unsupported"] then status
  else "failed"

/-- The count of executed steps in a response, where it is one of at most `submitted` steps. -/
def executedCount (execution : Fields) (submitted : Nat) : Option ℤ :=
  match execution.get? "result" with
  | some (.dict payload) =>
    match payload.get? "executed_steps" with
    | some (.number (.int count)) => if 0 ≤ count ∧ count ≤ submitted then some count else none
    | _ => none
  | _ => none

/-- `discarded_steps` of a decision of which `done` steps count. -/
def discarded (proposal : Proposal) (decision : Decision) (done : ℤ) : ℤ :=
  match decision with
  | .correct _ => proposal.actions.length
  | _ => proposal.actions.length - done

def postObservation : Except Raised (Option Observation × Option String) :=
  match loop.newObservation with
  | .ok (some observation) => .ok (some observation, none)
  | .ok none => .ok (none, some
      s!"execution completed but no newer observation was available within {loop.timeoutText}s")
  | .error (.transport text) | .error (.http _ text) | .error (.unsupported text) =>
    .ok (none, some s!"post-execution observation failed: {text}")
  | .error e => .error e

/-- What follows a response of `execute`. -/
def conclude (proposal : Proposal) (decision : Decision) (submitted : Nat) (execution : Fields) :
    Except Raised CooperativeResult :=
  if loop.said execution ≠ "completed" then
    .ok { status := passedOn (loop.said execution), observationId := proposal.observationId,
          proposalId := proposal.proposalId, decision := decision.kind, requestId := loop.requestId,
          discardedSteps := discarded proposal decision submitted, execution,
          error := loop.py.name ((execution.get? "error").getD (.str "execution did not complete")) }
  else do
    let count := executedCount execution submitted
    let (postObservation, missing) ← loop.postObservation
    let unbacked := if count.isNone then
      some "execution evidence did not include a valid executed_steps count" else none
    return { status := if postObservation.isNone then "post_observation_pending" else "completed"
             observationId := proposal.observationId, proposalId := proposal.proposalId
             decision := decision.kind, requestId := loop.requestId, executedSteps := count.getD 0
             discardedSteps := discarded proposal decision (count.getD 0), execution, postObservation
             error := missing <|> unbacked, executionEvidenceUnknown := count.isNone }

/-- `run_round`, and what it submits. -/
def runRound (prompt : String) (context : Fields) : Except Raised CooperativeResult × List Submission :=
  match loop.prepare prompt context with
  | .error e => (.error e, [])
  | .ok (_, proposal, .hold reason) =>
    (.ok { status := "held", observationId := proposal.observationId, proposalId := proposal.proposalId,
           decision := "hold", discardedSteps := proposal.actions.length, error := reason }, [])
  | .ok (observation, proposal, decision) =>
    match loop.submission observation proposal decision with
    | .error e => (loop.failedRound proposal decision.kind e, [])
    | .ok submission =>
      match loop.execute submission with
      | .error e => (loop.failedRound proposal decision.kind e, [submission])
      | .ok execution => (loop.conclude proposal decision submission.actions.length execution, [submission])

end Loop

/-! ## What a round may report -/

section

variable (loop : Loop)

/-- The action for a row at a place of its segment: the row's values under the joints' names, or what the
encoder answers. -/
inductive Encodes (names : List String) (index : Nat) (row : List Double) (action : Fields) : Prop where
  | named (bare : loop.actionEncoder = none)
      (values : action.get? "values" = some (.dict (.ofItems (names.zip (row.map fun x => .number (.float x))))))
  | encoded (encode : Nat → List Double → Double → Fields → Except Raised Value)
      (given : loop.actionEncoder = some encode) (timestamp : Double) (shared answer : Fields)
      (answered : encode index row timestamp shared = .ok (.dict answer))
      (kept : ∀ key, key ≠ "timestamp_s" → key ≠ "metadata" → action.get? key = answer.get? key)

structure InOrder (rows : List (List Double)) (actions : List Fields) : Prop where
  length : actions.length = rows.length
  encodes : ∃ names : List String, names.length = 12 ∧ names.Nodup ∧
    ∀ index row action, rows[index]? = some row → actions[index]? = some action →
      Encodes loop names index row action

/-- The actions are what a mapper's answer lists, or made from the rows that it lists. -/
inductive Mapped (items : List Value) (actions : List Fields) : Prop where
  | payloads (each : List.Forall₂ (fun item action => ∃ payload, item = .dict payload ∧
      ∀ key, key ≠ "metadata" → action.get? key = payload.get? key) items actions)
  | rows (rows : List (List Double)) (read : mappedRows loop.py items = .ok rows)
      (encodes : InOrder loop rows actions)

/-- What may be submitted for a decision: the first rows of the proposal, or what the mapper makes of the
corrections. -/
inductive Segment (observation : Observation) (proposal : Proposal) : Decision → List Fields → Prop where
  | first (steps) (actions : List Fields) (some_ : 1 ≤ steps) (few : steps ≤ 15)
      (length : actions.length = steps)
      (encodes : InOrder loop (proposal.actions.take steps) actions) :
      Segment observation proposal (.executePrefix steps) actions
  | mapped (corrections) (actions : List Fields) (some_ : 1 ≤ actions.length)
      (few : actions.length ≤ 5) (mapper : List Value → Observation → Except Raised Value)
      (given : loop.correctionMapper = some mapper) (answer : Value)
      (answered : mapper corrections observation = .ok answer) (mapping : Mapping)
      (reads : mappingOf answer = .ok mapping) (items) (lists : mapping.actions = .list items)
      (made : Mapped loop items actions) : Segment observation proposal (.correct corrections) actions

def Ended (status : String) : Prop := status = "completed" ∨ status = "post_observation_pending"

instance (status : String) : Decidable (Ended status) := inferInstanceAs (Decidable (_ ∨ _))

/-- A round submits one segment at most, for the proposal's observation, and reports no more than the response
bears out. -/
structure Honest (prompt : String) (context : Fields) : Prop where
  once : (loop.runRound prompt context).2.length ≤ 1
  bounded : ∀ submission ∈ (loop.runRound prompt context).2, ∃ observation proposal decision,
    loop.prepare prompt context = .ok (observation, proposal, decision) ∧
      submission.observationId = proposal.observationId ∧
      Segment loop observation proposal decision submission.actions
  completed : ∀ result, (loop.runRound prompt context).1 = .ok result → Ended result.status →
    ∃ submission ∈ (loop.runRound prompt context).2, ∃ execution,
      loop.execute submission = .ok execution ∧ loop.said execution = "completed"
  lost : ∀ submission ∈ (loop.runRound prompt context).2, ∀ text,
    loop.execute submission = .error (.transport text) →
    ∃ result, (loop.runRound prompt context).1 = .ok result ∧ result.status = "unknown" ∧
      result.requestId = some submission.requestId
  counted : ∀ result, (loop.runRound prompt context).1 = .ok result → result.executedSteps = 0 ∨
    ∃ submission ∈ (loop.runRound prompt context).2, ∃ execution, loop.execute submission = .ok execution ∧
      executedCount execution submission.actions.length = some result.executedSteps
  accounted : ∀ result, (loop.runRound prompt context).1 = .ok result → ∃ observation proposal decision,
    loop.prepare prompt context = .ok (observation, proposal, decision) ∧ proposal.actions.length = 50 ∧
      result.decision = some decision.kind ∧
      (decision.kind ≠ "correct" → result.executedSteps + result.discardedSteps ≤ 50) ∧
      (decision.kind = "correct" → result.executedSteps ≤ 5 ∧ result.discardedSteps ≤ 50)

end

/-! ## The parts of a round -/

section

variable {py : Floats} {loop : Loop} {observation : Observation} {proposal : Proposal}

theorem require_ok {p} [Decidable p] {text} {u} (ran : require p text = .ok u) : p :=
  ensure_ok ran
variable {rows : List (List Double)} {corrections : List Value} {shared action : Fields}
  {step : Double} {execution : Fields} {submitted : Nat} {result : CooperativeResult} {done : ℤ}

theorem proposalRows_length {value} (ran : proposalRows py value = .ok rows) : rows.length = 50 := by
  cases value with
  | list =>
    obtain ⟨_, fifty, read⟩ := bind_ok ran
    rw [← (mapM_ok read).length_eq, length_zipIdx, require_ok fifty]
  | null | number | str | dict => cases ran

theorem validateProposal_length {actions} {metadata}
    (ran : validateProposal py actions metadata = .ok rows) : rows.length = 50 := by
  obtain ⟨_, -, rest⟩ := bind_ok ran
  obtain ⟨_, -, rest⟩ := bind_ok rest
  obtain ⟨_, -, rest⟩ := bind_ok rest
  exact proposalRows_length rest

theorem fromPayload_ok {payload} {observationId} (ran : fromPayload py payload observationId = .ok proposal) :
    proposal.observationId = observationId ∧ proposal.actions.length = 50 := by
  unfold fromPayload at ran
  split at ran
  · split at ran
    · obtain ⟨rows, read, rest⟩ := bind_ok ran
      obtain ⟨_, -, rest⟩ := bind_ok rest
      split at rest
      · obtain ⟨_, -, done⟩ := bind_ok rest
        cases done
        exact ⟨rfl, validateProposal_length read⟩
      · cases rest
    · cases ran
  · cases ran

def Decision.Valid : Decision → Prop
  | executePrefix steps => 1 ≤ steps ∧ steps ≤ 15
  | _ => True
variable {decision : Decision} {actions : List Fields}

theorem validateBranch_ok {kind} {steps} {reason}
    (ran : validateBranch py kind steps corrections reason = .ok decision) : decision.Valid := by
  unfold validateBranch at ran
  split at ran
  · obtain ⟨_, bounds, done⟩ := bind_ok ran
    cases done
    obtain ⟨⟨some_, few⟩, -⟩ := require_ok bounds
    exact ⟨by omega, by omega⟩
  · obtain ⟨_, -, rest⟩ := bind_ok ran
    obtain ⟨_, -, done⟩ := bind_ok rest
    cases done
    trivial
  · obtain ⟨_, -, done⟩ := bind_ok ran
    cases done
    trivial
  · cases ran

theorem validateDecision_ok {raw} {proposalId observationId}
    (ran : validateDecision py raw proposalId observationId = .ok decision) : decision.Valid := by
  unfold validateDecision at ran
  split at ran
  · obtain ⟨_, -, rest⟩ := bind_ok ran
    obtain ⟨_, -, rest⟩ := bind_ok rest
    obtain ⟨_, -, rest⟩ := bind_ok rest
    split at rest
    · obtain ⟨_, -, rest⟩ := bind_ok rest
      split at rest
      · split at rest
        · exact validateBranch_ok rest
        · cases rest
      · cases rest
    · cases rest
  · cases ran

theorem prepare_ok {prompt} {context}
    (ran : loop.prepare prompt context = .ok (observation, proposal, decision)) :
    proposal.observationId = observation.observationId ∧ proposal.actions.length = 50 ∧ decision.Valid := by
  obtain ⟨seen, -, rest⟩ := bind_ok ran
  obtain ⟨raw, -, rest⟩ := bind_ok rest
  obtain ⟨made, read, rest⟩ := bind_ok rest
  obtain ⟨packet, -, rest⟩ := bind_ok rest
  obtain ⟨answer, -, rest⟩ := bind_ok rest
  split at rest
  · obtain ⟨decided, valid, done⟩ := bind_ok rest
    cases done
    obtain ⟨same, fifty⟩ := fromPayload_ok read
    exact ⟨same, fifty, validateDecision_ok valid⟩
  · cases rest

/-! ## The segment -/

theorem encodedAction_ok {timestamp} {encoded}
    (ran : encodedAction py timestamp shared encoded = .ok action) : ∃ answer, encoded = .dict answer ∧
      ∀ key, key ≠ "timestamp_s" → key ≠ "metadata" → action.get? key = answer.get? key := by
  cases encoded with
  | dict answer =>
    obtain ⟨near, -, rest⟩ := bind_ok ran
    obtain ⟨_, -, rest⟩ := bind_ok rest
    split at rest
    · split at rest <;> cases rest
      refine ⟨answer, rfl, fun key timed described => ?_⟩
      rw [Dict.get?_set_of_ne described, Dict.get?_set_of_ne timed]
    · cases rest
  | null | number | str | list => cases ran

theorem rowAction_ok {names} {index} {row}
    (ran : rowAction loop.py loop.actionEncoder names step shared index row = .ok action) :
    Encodes loop names index row action := by
  obtain ⟨_, -, rest⟩ := bind_ok ran
  cases encoder : loop.actionEncoder with
  | none =>
    rw [encoder] at rest
    cases rest
    exact .named encoder rfl
  | some encode =>
    rw [encoder] at rest
    obtain ⟨encoded, answered, made⟩ := bind_ok rest
    obtain ⟨answer, rfl, kept⟩ := encodedAction_ok made
    exact .encoded encode encoder _ shared answer answered kept

theorem rowsToActions_ok {featureNames} {shared}
    (ran : rowsToActions loop.py loop.actionEncoder rows featureNames step shared = .ok actions) :
    InOrder loop rows actions := by
  unfold rowsToActions at ran
  split at ran
  · rename_i names _
    obtain ⟨_, twelve, rest⟩ := bind_ok ran
    obtain ⟨_, nodup, rest⟩ := bind_ok rest
    obtain ⟨_, -, rest⟩ := bind_ok rest
    have each := mapM_ok rest
    have length := each.length_eq
    rw [length_zipIdx] at length
    refine ⟨length.symm, names, require_ok twelve, require_ok nodup, fun index row action given made => ?_⟩
    obtain ⟨bound, rfl⟩ := List.getElem?_eq_some_iff.mp given
    obtain ⟨within, rfl⟩ := List.getElem?_eq_some_iff.mp made
    have here := (List.forall₂_iff_get.mp each).2 index (by rwa [length_zipIdx]) within
    simp only [get_eq_getElem, getElem_zipIdx, Nat.zero_add] at here
    exact rowAction_ok here
  · cases ran

theorem payloadAction_ok {metadata payload action} (ran : payloadAction py metadata payload = .ok action) :
    ∀ key, key ≠ "metadata" → action.get? key = payload.get? key := by
  unfold payloadAction at ran
  split at ran
  · split at ran
    · cases ran
      exact fun _ _ => rfl
    · obtain ⟨own, -, done⟩ := bind_ok ran
      cases done
      exact fun key other => Dict.get?_set_of_ne other
  · cases ran

theorem prefixActions_ok {steps} (some_ : 1 ≤ steps) (few : steps ≤ 15)
    (fifty : proposal.actions.length = 50) (ran : loop.prefixActions proposal steps = .ok actions) :
    Segment loop observation proposal (.executePrefix steps) actions := by
  obtain ⟨names, -, made⟩ := bind_ok ran
  have encodes := rowsToActions_ok made
  refine .first steps actions some_ few ?_ encodes
  rw [encodes.length, length_take, fifty]
  omega

theorem correctionActions_ok (ran : loop.correctionActions observation proposal corrections = .ok actions) :
    Segment loop observation proposal (.correct corrections) actions := by
  unfold correctionActions at ran
  split at ran
  · rename_i mapper given
    obtain ⟨answer, answered, rest⟩ := bind_ok ran
    obtain ⟨mapping, reads, rest⟩ := bind_ok rest
    split at rest
    · rename_i items lists
      split at rest
      · rename_i payloads dicts
        obtain ⟨_, count, made⟩ := bind_ok rest
        obtain ⟨some_, few⟩ := require_ok count
        have each := mapM_ok made
        rw [each.length_eq] at some_ few
        refine .mapped corrections actions some_ few mapper given answer answered mapping reads items lists
          (.payloads ?_)
        refine (Cooperative.forall₂_through (mapM_some.mp dicts) each).imp ?_
        rintro item action ⟨payload, read, kept⟩
        cases item with
        | dict =>
          cases read
          exact ⟨_, rfl, payloadAction_ok kept⟩
        | null | number | str | list => cases read
      · obtain ⟨rows, read, rest⟩ := bind_ok rest
        obtain ⟨_, count, rest⟩ := bind_ok rest
        obtain ⟨some_, few⟩ := require_ok count
        obtain ⟨names, -, made⟩ := bind_ok rest
        have encodes := rowsToActions_ok made
        rw [← encodes.length] at some_ few
        exact .mapped corrections actions some_ few mapper given answer answered mapping reads items lists
          (.rows rows read encodes)
    · cases rest
  · cases ran

theorem submission_ok {submission} (fifty : proposal.actions.length = 50)
    (valid : decision.Valid) (moves : ∀ reason, decision ≠ .hold reason)
    (ran : loop.submission observation proposal decision = .ok submission) :
    submission.observationId = observation.observationId ∧ submission.requestId = loop.requestId ∧
      Segment loop observation proposal decision submission.actions := by
  obtain ⟨actions, made, rest⟩ := bind_ok ran
  obtain ⟨hz, -, rest⟩ := bind_ok rest
  obtain ⟨_, -, done⟩ := bind_ok rest
  cases done
  refine ⟨rfl, rfl, ?_⟩
  cases decision with
  | executePrefix => exact prefixActions_ok valid.1 valid.2 fifty made
  | correct => exact correctionActions_ok made
  | hold reason => exact absurd rfl (moves reason)

/-! ## The result -/

theorem executedCount_ok {count} (counted : executedCount execution submitted = some count) :
    0 ≤ count ∧ count ≤ submitted := by
  unfold executedCount at counted
  split at counted
  · split at counted
    · split at counted <;> cases counted
      assumption
    · cases counted
  · cases counted

theorem getD_executedCount (execution : Fields) (submitted : Nat) :
    0 ≤ (executedCount execution submitted).getD 0 ∧
      (executedCount execution submitted).getD 0 ≤ submitted := by
  cases counted : executedCount execution submitted with
  | none => simp
  | some => exact executedCount_ok counted

structure Balanced (proposal : Proposal) (decision : Decision) (result : CooperativeResult) : Prop where
  kind : result.decision = some decision.kind
  whole : decision.kind ≠ "correct" → result.executedSteps + result.discardedSteps ≤ proposal.actions.length
  corrected : decision.kind = "correct" →
    result.executedSteps ≤ 5 ∧ result.discardedSteps ≤ proposal.actions.length

theorem balanced_of_none (kind : result.decision = some decision.kind)
    (none_ : result.executedSteps = 0) (discarded : result.discardedSteps ≤ proposal.actions.length) :
    Balanced proposal decision result :=
  ⟨kind, fun _ => by omega, fun _ => ⟨by omega, discarded⟩⟩

theorem discarded_le (some_ : 0 ≤ done) : discarded proposal decision done ≤ proposal.actions.length := by
  cases decision with
  | correct => exact Int.le_refl _
  | executePrefix | hold => exact Int.sub_le_self _ some_

theorem done_add_discarded (whole : decision.kind ≠ "correct") :
    done + discarded proposal decision done = proposal.actions.length := by
  cases decision with
  | correct => exact absurd rfl whole
  | executePrefix | hold =>
    simp only [discarded]
    omega

theorem failedRound_ok {raised} (ran : loop.failedRound proposal decision.kind raised = .ok result) :
    Balanced proposal decision result ∧ result.executedSteps = 0 ∧ ¬Ended result.status := by
  cases raised with cases ran
  | correctionUnsupported | unsupported =>
    exact ⟨balanced_of_none rfl rfl (Int.le_refl _), rfl, show ¬Ended "unsupported" by decide⟩
  | transport =>
    exact ⟨balanced_of_none rfl rfl (Int.natCast_nonneg _), rfl, show ¬Ended "unknown" by decide⟩
  | http =>
    refine ⟨balanced_of_none rfl rfl (Int.natCast_nonneg _), rfl, ?_⟩
    simp only [errorStatus]
    split_ifs <;> decide

theorem not_ended_passedOn {status} (other : status ≠ "completed") : ¬Ended (passedOn status) := by
  unfold passedOn
  split
  · decide
  · split
    · rename_i listed
      rintro (same | rfl)
      · exact other same
      · exact absurd listed (by decide)
    · decide

theorem conclude_ok (few : decision.kind = "correct" → submitted ≤ 5)
    (ran : loop.conclude proposal decision submitted execution = .ok result) :
    Balanced proposal decision result ∧
      (result.executedSteps = 0 ∨ executedCount execution submitted = some result.executedSteps) ∧
      (Ended result.status → loop.said execution = "completed") := by
  unfold conclude at ran
  split at ran
  · rename_i said
    cases ran
    exact ⟨balanced_of_none rfl rfl (discarded_le (Int.natCast_nonneg _)), .inl rfl,
      fun ended => absurd ended (not_ended_passedOn said)⟩
  · rename_i said
    obtain ⟨⟨newer, missing⟩, -, done⟩ := bind_ok ran
    cases done
    obtain ⟨some_, within⟩ := getD_executedCount execution submitted
    refine ⟨⟨rfl, fun whole => Int.le_of_eq (done_add_discarded whole), fun named => ⟨?_, discarded_le some_⟩⟩, ?_,
      fun _ => not_not.mp said⟩
    · have := few named
      simp only
      omega
    · cases counted : executedCount execution submitted with
      | none => exact .inl rfl
      | some => exact .inr rfl

theorem Segment.few (segment : Segment loop observation proposal decision actions)
    (named : decision.kind = "correct") : actions.length ≤ 5 := by
  cases segment with
  | first => exact absurd (show "execute_prefix" = "correct" from named) (by decide)
  | mapped _ _ _ few => exact few

end

/-! ## A round -/

section

variable {loop : Loop} {prompt : String} {context : Fields}

/-- From its decision a round reports no end, or submits one segment and reports what the answer bears out. -/
inductive Goes (loop : Loop) (observation : Observation) (proposal : Proposal) (decision : Decision) :
    Except Raised CooperativeResult → List Submission → Prop where
  | kept {returned : Except Raised CooperativeResult}
      (reports : ∀ result, returned = .ok result →
        Balanced proposal decision result ∧ result.executedSteps = 0 ∧ ¬Ended result.status) :
      Goes loop observation proposal decision returned []
  | submitted {submission : Submission} {returned : Except Raised CooperativeResult}
      (named : submission.observationId = observation.observationId)
      (request : submission.requestId = loop.requestId)
      (segment : Segment loop observation proposal decision submission.actions)
      (reports : returned = match loop.execute submission with
        | .ok execution => loop.conclude proposal decision submission.actions.length execution
        | .error e => loop.failedRound proposal decision.kind e) :
      Goes loop observation proposal decision returned [submission]

variable {observation : Observation} {proposal : Proposal} {decision : Decision}

theorem runRound_goes (prepared : loop.prepare prompt context = .ok (observation, proposal, decision)) :
    Goes loop observation proposal decision (loop.runRound prompt context).1
      (loop.runRound prompt context).2 := by
  obtain ⟨-, fifty, valid⟩ := prepare_ok prepared
  have submits (moves : ∀ reason, decision ≠ .hold reason)
      (same : loop.runRound prompt context = match loop.submission observation proposal decision with
        | .error e => (loop.failedRound proposal decision.kind e, [])
        | .ok submission =>
          match loop.execute submission with
          | .error e => (loop.failedRound proposal decision.kind e, [submission])
          | .ok execution =>
            (loop.conclude proposal decision submission.actions.length execution, [submission])) :
      Goes loop observation proposal decision (loop.runRound prompt context).1
        (loop.runRound prompt context).2 := by
    rw [same]
    cases made : loop.submission observation proposal decision with
    | error => exact .kept fun result returned => failedRound_ok returned
    | ok submission =>
      obtain ⟨named, request, segment⟩ := submission_ok fifty valid moves made
      simp only
      cases answer : loop.execute submission with
      | error e | ok execution => exact .submitted named request segment (by rw [answer])
  cases decision with
  | hold =>
    unfold runRound
    rw [prepared]
    refine .kept fun result returned => ?_
    cases returned
    exact ⟨balanced_of_none rfl rfl (Int.le_refl _), rfl, show ¬Ended "held" by decide⟩
  | executePrefix | correct => exact submits nofun (by unfold runRound; rw [prepared])

theorem runRound_error {e} (raised : loop.prepare prompt context = .error e) :
    loop.runRound prompt context = (.error e, []) := by
  unfold runRound
  rw [raised]

variable {returned : Except Raised CooperativeResult} {submitted : List Submission} {result : CooperativeResult}

theorem Goes.balanced (goes : Goes loop observation proposal decision returned submitted)
    (ok : returned = .ok result) : Balanced proposal decision result := by
  cases goes with
  | kept reports => exact (reports result ok).1
  | @submitted submission _ _ _ segment reports =>
    rw [ok] at reports
    split at reports
    · exact (conclude_ok segment.few reports.symm).1
    · exact (failedRound_ok reports.symm).1

theorem Goes.ended (goes : Goes loop observation proposal decision returned submitted)
    (ok : returned = .ok result) (ended : Ended result.status) : ∃ submission ∈ submitted, ∃ execution,
      loop.execute submission = .ok execution ∧ loop.said execution = "completed" := by
  cases goes with
  | kept reports => exact absurd ended (reports result ok).2.2
  | @submitted submission _ _ _ segment reports =>
    rw [ok] at reports
    split at reports
    · rename_i execution answer
      exact ⟨submission, mem_singleton_self _, execution, answer,
        (conclude_ok segment.few reports.symm).2.2 ended⟩
    · exact absurd ended (failedRound_ok reports.symm).2.2

theorem Goes.counted (goes : Goes loop observation proposal decision returned submitted)
    (ok : returned = .ok result) : result.executedSteps = 0 ∨
      ∃ submission ∈ submitted, ∃ execution, loop.execute submission = .ok execution ∧
        executedCount execution submission.actions.length = some result.executedSteps := by
  cases goes with
  | kept reports => exact .inl (reports result ok).2.1
  | @submitted submission _ _ _ segment reports =>
    rw [ok] at reports
    split at reports
    · rename_i execution answer
      exact (conclude_ok segment.few reports.symm).2.1.imp_right fun counted =>
        ⟨submission, mem_singleton_self _, execution, answer, counted⟩
    · exact .inl (failedRound_ok reports.symm).2.1

end

/-- A round submits at most one segment, of the proposal or its corrections, and reports no more than the
response says. -/
theorem honest_always (loop : Loop) (prompt : String) (context : Fields) : Honest loop prompt context := by
  cases prepared : loop.prepare prompt context with
  | error =>
    have raised := runRound_error prepared
    constructor <;> rw [raised]
    · exact Nat.zero_le 1
    all_goals intros; contradiction
  | ok found =>
    obtain ⟨observation, proposal, decision⟩ := found
    obtain ⟨same, fifty, -⟩ := prepare_ok prepared
    have goes := runRound_goes prepared
    refine ⟨?_, ?_, fun result ok => goes.ended ok, ?_, fun result ok => goes.counted ok, ?_⟩
    · generalize (loop.runRound prompt context).2 = submitted at goes
      cases goes with
      | kept => exact Nat.zero_le 1
      | submitted => exact Nat.le_refl 1
    · intro submission member
      generalize (loop.runRound prompt context).2 = submitted at goes member
      cases goes with
      | kept => cases member
      | submitted named _ segment =>
        obtain rfl := List.mem_singleton.mp member
        exact ⟨observation, proposal, decision, prepared, named.trans same.symm, segment⟩
    · intro submission member text lost
      generalize (loop.runRound prompt context).2 = submitted at goes member
      cases goes with
      | kept => cases member
      | submitted _ request _ reports =>
        obtain rfl := List.mem_singleton.mp member
        rw [lost] at reports
        exact ⟨_, reports, rfl, congrArg some request.symm⟩
    · intro result ok
      obtain ⟨kind, whole, corrected⟩ := goes.balanced ok
      rw [fifty] at whole corrected
      exact ⟨observation, proposal, decision, prepared, fifty, kind, whole, corrected⟩

/-! ## A corrected round -/

def plainFloats : Floats where
  toPython := Cooperative.plain
  inverse x := x
  close x y := x = y
  greater
    | .float (.finite x), .int n => n < x
    | .int m, .int n => n < m
    | _, _ => false
  dict
    | .dict fields => .ok fields
    | _ => .error "cannot convert"

def stillPayload : Fields := ⟨[ ("proposal_id", .str "p"),
  ("actions", .list (List.replicate 50 (.list (List.replicate 12 (.number (.float (.finite 0))))))),
  ("metadata", .dict ⟨[("action_semantics", .str "biso101_so101_v1"), ("action_layout", .str "left6_right6"),
    ("action_encoding", .str "absolute"), ("action_dim", .number (.int 12)),
    ("joint_position_unit", .str "degrees")]⟩)]⟩

def waypoint : Fields := ⟨waypointKeys.map fun key => (key, .number (.float (.finite 0)))⟩

def correctionDecision : Fields := ⟨[
  ("proposal_id", .str "p"), ("observation_id", .str "o"), ("decision", .str "correct"),
  ("execute_steps", .number (.int 0)),
  ("corrections", .list [.dict ⟨[("left", .dict waypoint), ("right", .null),
    ("frame", .str "so101_shoulder_plane"), ("units", .str "m_deg"),
    ("duration_s", .number (.float (.finite (1 / 4))))]⟩]),
  ("reason", .str "mapped")]⟩

/-- A mapper that gives one action, a server that executes it, and no newer observation. -/
def oneCorrection : Loop where
  py := plainFloats
  featureNames := none
  controlHz := none
  timeoutText := "1"
  observe := .ok ⟨"o", .empty⟩
  proposalProvider _ := .ok (.dict stillPayload)
  reviewPacketBuilder := none
  reviewer _ := .ok (some (.dict correctionDecision))
  correctionMapper := some fun _ _ => .ok (.list [.dict ⟨[("values", .dict .empty)]⟩])
  actionEncoder := none
  requestStarted := none
  hex := "0"
  execute _ := .ok ⟨[("status", .str "completed"), ("result", .dict ⟨[("executed_steps", .number (.int 1))]⟩)]⟩
  baseline := .ok ⟨"o", .empty⟩
  current _ := .ok ⟨"o", .empty⟩
  polls := 0

/-- A step that is executed beside fifty that are discarded, of a proposal of fifty. -/
theorem corrected_beside_discarded : ∃ observation proposal decision result,
    oneCorrection.prepare "" .empty = .ok (observation, proposal, decision) ∧
      (oneCorrection.runRound "" .empty).1 = .ok result ∧ proposal.actions.length = 50 ∧
      result.executedSteps + result.discardedSteps = 51 := by
  have ran : ((oneCorrection.prepare "" .empty).toOption.bind fun found =>
      (oneCorrection.runRound "" .empty).1.toOption.map fun result =>
        (found.2.1.actions.length, result.executedSteps + result.discardedSteps)) = some (50, 51) := by
    decide +kernel
  obtain ⟨⟨observation, proposal, decision⟩, prepared, rest⟩ := Option.bind_eq_some_iff.mp ran
  obtain ⟨result, returned, counts⟩ := Option.map_eq_some_iff.mp rest
  obtain ⟨fifty, sum⟩ := Prod.mk.inj counts
  exact ⟨observation, proposal, decision, result, ok_of_toOption prepared, ok_of_toOption returned, fifty, sum⟩

end EmbodiRun.Agents.Rounds
