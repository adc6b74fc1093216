/-
# ModelServices.Sglang -- the sessions of the SGLang client

A session counts its steps and its revisions.  A step holds the lock of its session from its check
to its commit; a reset takes the lock as well; the table of sessions has one of its own, which no
call holds while it waits.

* `protocol_always`: **the protocol is kept in every run, whatever the exchanges come to**.
-/
import EmbodiRun.Data.Dict
import EmbodiRun.Data.Except
import EmbodiRun.Data.Json
import EmbodiRun.Transition.Machine

namespace EmbodiRun.ModelServices.Sglang

open Function
open Data Transition

inductive Value where
  | null
  | number (n : Number)
  | str (text : String)
  | list (items : List Value)
  | dict (fields : Dict String Value)

abbrev Fields := Dict String Value

structure Python where
  /-- `float(value)` of a number. -/
  float : Number → Except String Double
  /-- `str(value)`. -/
  str : Value → String
  base64 : List UInt8 → String
  /-- `not text.strip()`. -/
  blank : String → Bool
  /-- `json.dumps(payload, allow_nan=False)` returns. -/
  serializes : Fields → Bool
  /-- `number >= 0`. -/
  nonnegative : Double → Bool

/-! ## What is sent -/

structure Image where
  name : String
  mimeType : String
  data : List UInt8

structure PolicyObservation where
  sessionId : String
  requestId : String
  stepId : Nat
  instruction : String
  state : Fields
  images : List Image
  reset : Bool
  metadata : Fields

structure Client where
  py : Python
  imageKeys : Dict String String
  stateFields : List String
  actionFeatureNames : List String
  outputActionDim : Option Nat
  parameters : Fields
  runtime : Fields

/-- `_SessionState`; its lock is held by a call. -/
structure Session where
  actionSpace : String
  robotId : String
  metadata : Fields
  revision : Nat := 0
  nextStep : Nat := 0
  resetPending : Bool := true
  lock : Option Nat := none

structure Request where
  requestId : String
  task : String
  images : Fields
  state : Value
  sessionId : String
  sessionRevision : Nat
  stepId : Nat
  reset : Bool
  robotId : String
  metadata : Fields
  parameters : Fields
  runtime : Fields

def Request.payload (r : Request) : Fields := ⟨[ ("request_id", .str r.requestId),
  ("input", .dict ⟨[("task", .str r.task), ("observation", .dict ⟨[
    ("images", .dict r.images), ("state", r.state), ("session_id", .str r.sessionId),
    ("session_revision", .number (.int r.sessionRevision)), ("step_id", .number (.int r.stepId)),
    ("reset", .number (.bool r.reset)), ("robot_id", .str r.robotId),
    ("metadata", .dict r.metadata)]⟩)]⟩),
  ("parameters", .dict r.parameters),
  ("runtime", .dict r.runtime)]⟩

/-- `{**a, **b}`. -/
def merge (a b : Fields) : Fields := b.items.foldl (fun d item => d.set item.1 item.2) a

def shortImageName (name : String) : String := (name.splitOn ".").getLastD ""

section

variable (client : Client)

mutual

def flattenNumbers (name : String) : Value → Except String (List Double)
  | .dict ⟨fields⟩ => flattenFields name fields
  | .list items => flattenItems name 0 items
  | .number (.bool _) | .str _ | .null => .error s!"policy state field '{name}' must be numeric"
  | .number n => do
    let x ← client.py.float n
    ensure (Number.float x).isFinite s!"policy state field '{name}' must be finite"
    return [x]

def flattenFields (name : String) : List (String × Value) → Except String (List Double)
  | [] => .ok []
  | (child, value) :: rest => do
    let first ← flattenNumbers s!"{name}.{child}" value
    let others ← flattenFields name rest
    return first ++ others

def flattenItems (name : String) (index : Nat) : List Value → Except String (List Double)
  | [] => .ok []
  | value :: rest => do
    let first ← flattenNumbers s!"{name}[{index}]" value
    let others ← flattenItems name (index + 1) rest
    return first ++ others

end

/-- `_state`. -/
def stateValue (values : Fields) : Except String Value :=
  if client.stateFields = [] then .ok (.dict values)
  else do
    let numbers ← client.stateFields.mapM fun name => match values.get? name with
      | none => .error s!"policy state is missing field '{name}'"
      | some value => flattenNumbers client name value
    return .list (numbers.flatten.map fun x => .number (.float x))

def stepPayload (observation : PolicyObservation) (session : Session) (reset : Bool) : Except String Request := do
  let images : Fields := Dict.ofItems (observation.images.map fun image =>
    ((client.imageKeys.get? image.name).getD (shortImageName image.name),
      .dict ⟨[("base64", .str (client.py.base64 image.data)), ("mime_type", .str image.mimeType)]⟩))
  ensure (images.items.length = observation.images.length) "multiple observation images map to the same key"
  let state ← stateValue client observation.state
  let runtime := merge client.runtime ⟨[("output_format", .str "list"), ("response_format", .str "envelope")]⟩
  return {
    requestId := observation.requestId
    task := observation.instruction
    images, state
    sessionId := observation.sessionId
    sessionRevision := session.revision
    stepId := observation.stepId
    reset
    robotId := session.robotId
    metadata := merge session.metadata observation.metadata
    parameters := client.parameters
    runtime := if (runtime.get? "return_timing").isSome then runtime
      else runtime.set "return_timing" (.number (.bool true)) }

/-- `step`, up to its exchange. -/
def attempt (observation : PolicyObservation) (session : Session) : Except String Request := do
  ensure (observation.stepId = session.nextStep)
    s!"session '{observation.sessionId}' expected step {session.nextStep}, got {observation.stepId}"
  let request ← stepPayload client observation session (session.resetPending || observation.reset)
  ensure (client.py.serializes request.payload) "request payload is not valid JSON"
  return request

end

/-! ## What is accepted -/

inductive Answer where
  | failed (text : String)
  /-- The body is no JSON. -/
  | invalid
  | body (payload : Value)

structure PolicyResult where
  requestId : String
  sessionId : String
  stepId : Nat
  sessionRevision : Nat
  actionSpace : String
  actions : Fields
  timing : Dict String Double
  policyRevision : Option String

section

variable (client : Client)

/-- `_json_object` of `_request`. -/
def jsonObject : Answer → Except String Fields
  | .failed text => .error text
  | .invalid => .error "POST /v1/actions/generations returned invalid JSON"
  | .body (.dict payload) => .ok payload
  | .body _ => .error "POST /v1/actions/generations must return a JSON object"

def actionRow (dimension : Option Nat) (index : Nat) : Value → Except String (List Value)
  | .list row => match dimension with
      | none => .ok row
      | some dimension =>
        if row.length < dimension then
          .error s!"action row {index} has {row.length} values, expected at least {dimension}"
        else .ok (row.take dimension)
  | _ => .error s!"action row {index} must be a list"

def actionRows (values : List Value) (dimension : Option Nat) : Except String (List (List Value)) := do
  let rows ← (values.zipIdx).mapM fun (row, index) => actionRow dimension index row
  ensure (rows ≠ []) "action values must not be empty"
  return rows

def timing : Value → Except String (Dict String Double)
  | .dict fields => fields.items.foldlM (fun (result : Dict String Double) (item : String × Value) =>
    match item.2 with
    | .number (.bool _) => .ok result
    | .number n => do
      let x ← client.py.float n
      return if (Number.float x).isFinite && client.py.nonnegative x then result.set item.1 x else result
    | _ => .ok result) .empty
  | _ => .error "action response timings must be an object"

def actionValues (payload : Fields) : Except String (List Value) := do
  let .list data := (payload.get? "data").getD .null | throw "action response data must be a list"
  let [.dict only] := data | throw "action response must contain exactly one result"
  let .dict action := (only.get? "action").getD .null
    | throw "action response result must contain an action"
  let .list values := (action.get? "values").getD .null | throw "action values must be a list"
  return values

def checkId (payload : Fields) (requestId : String) : Except String Unit :=
  match payload.get? "id" with
  | none | some .null => .ok ()
  | some (.str id) =>
    if id = requestId then .ok () else .error "action response id does not match the request"
  | some _ => .error "action response id does not match the request"

def policyResult (payload : Fields) (observation : PolicyObservation) (session : Session) :
    Except String PolicyResult := do
  checkId payload observation.requestId
  let values ← actionValues payload
  let rows ← actionRows values client.outputActionDim
  let data : Fields := ⟨[("data", .list (rows.map .list))]⟩
  let timing ← timing client ((payload.get? "timings").getD (.dict .empty))
  return {
    requestId := observation.requestId
    sessionId := observation.sessionId
    stepId := observation.stepId
    sessionRevision := session.revision
    actionSpace := session.actionSpace
    actions := if client.actionFeatureNames = [] then data
      else data.set "feature_names" (.list (client.actionFeatureNames.map .str))
    timing
    policyRevision := match payload.get? "model" with
      | none | some .null => none
      | some model => some (client.py.str model) }

end

/-! ## Calls -/

inductive Call where
  | idle
  /-- `step` has looked its session up, and waits for its lock. -/
  | stepping (observation : PolicyObservation) (session : Nat)
  /-- `step` holds the lock, and waits for the answer to its request. -/
  | sent (observation : PolicyObservation) (session : Nat) (request : Request)
  /-- `reset` has looked its session up. -/
  | resetting (session : Nat)

inductive Event where
  | sent (call session : Nat) (request : Request)
  /-- `step` returned a result. -/
  | accepted (call session : Nat) (result : PolicyResult)
  /-- `step` raised, after it had looked its session up. -/
  | raised (call session : Nat)
  | reset (session : Nat)

structure State where
  /-- `_sessions`; an entry is the place of the session among all that were opened. -/
  table : String → Option Nat := fun _ => none
  sessions : Nat → Option Session := fun _ => none
  opened : Nat := 0
  calls : Nat → Call := fun _ => .idle
  log : List Event := []

open State

inductive Label where
  /-- `open_session`, with an id that is not in the table. -/
  | open_ (id robotId actionSpace : String) (metadata : Fields)
  | close (id : String)
  | step (call : Nat) (observation : PolicyObservation)
  | reset (call : Nat) (id requestId : String)
  /-- The call gets the lock of its session. -/
  | lock (call : Nat)
  | answer (call : Nat) (answer : Answer)

namespace State

variable (s : State)

def call (c : Nat) (call : Call) : State := { s with calls := update s.calls c call }

def act (c : Nat) (call : Call) (h : Nat) (session : Session) (e : Event) : State := { s with
  calls := update s.calls c call
  sessions := update s.sessions h (some session)
  log := e :: s.log }

def add (id : String) (session : Session) : State := { s with
  table := update s.table id (some s.opened)
  sessions := update s.sessions s.opened (some session)
  opened := s.opened + 1 }

variable {s} {c c' h h' : Nat} {step : Call} {session : Session} {e : Event} {id : String}

@[simp] theorem call_self : (s.call c step).calls c = step := update_self _ _ _

theorem call_of_ne (other : c' ≠ c) : (s.call c step).calls c' = s.calls c' :=
  update_of_ne other _ _

@[simp] theorem act_calls_self : (s.act c step h session e).calls c = step := update_self _ _ _

theorem act_calls_of_ne (other : c' ≠ c) : (s.act c step h session e).calls c' = s.calls c' :=
  update_of_ne other _ _

@[simp] theorem act_sessions_self : (s.act c step h session e).sessions h = some session :=
  update_self _ _ _

theorem act_sessions_of_ne (other : h' ≠ h) : (s.act c step h session e).sessions h' = s.sessions h' :=
  update_of_ne other _ _

@[simp] theorem add_sessions_self : (s.add id session).sessions s.opened = some session :=
  update_self _ _ _

theorem add_sessions_of_ne (other : h ≠ s.opened) : (s.add id session).sessions h = s.sessions h :=
  update_of_ne other _ _

end State

def send (client : Client) (s : State) (c h : Nat) (observation : PolicyObservation) (session : Session) : State :=
  match attempt client observation session with
  | .error _ => s.act c .idle h session (.raised c h)
  | .ok request => s.act c (.sent observation h request) h { session with lock := some c }
      (.sent c h request)

def conclude (client : Client) (s : State) (c h : Nat) (observation : PolicyObservation)
    (session : Session) (answer : Answer) : State :=
  match jsonObject answer >>= (policyResult client · observation session) with
  | .error _ => s.act c .idle h { session with lock := none } (.raised c h)
  | .ok result => s.act c .idle h
      { session with nextStep := session.nextStep + 1, resetPending := false, lock := none }
      (.accepted c h result)

/-- `none` where the label is not enabled; a call that raises before it has a session does nothing. -/
def step (client : Client) (s : State) : Label → Option State
  | .open_ id robotId actionSpace metadata =>
    if client.py.blank robotId ∨ client.py.blank actionSpace then some s
    else if s.table id = none then some (s.add id { actionSpace, robotId, metadata })
    else none
  | .close id => some { s with table := update s.table id none }
  | .step c observation => match s.calls c, s.table observation.sessionId with
      | .idle, some h => some (s.call c (.stepping observation h))
      | .idle, none => some s
      | _, _ => none
  | .reset c id requestId => match s.calls c, s.table id with
      | .idle, some h => if client.py.blank requestId then some s else some (s.call c (.resetting h))
      | .idle, none => some s
      | _, _ => none
  | .lock c => match s.calls c with
      | .stepping observation h => (s.sessions h).bind fun session =>
        if session.lock = none then some (send client s c h observation session) else none
      | .resetting h => (s.sessions h).bind fun session =>
        if session.lock = none then some (s.act c .idle h { session with
          revision := session.revision + 1, nextStep := 0, resetPending := true } (.reset h))
        else none
      | _ => none
  | .answer c answer => match s.calls c with
      | .sent observation h _ => (s.sessions h).map fun session =>
        conclude client s c h observation session answer
      | _ => none

/-! ## The protocol -/

def acceptedSteps (h revision : Nat) : List Event → List Nat
  | [] => []
  | .accepted _ h' result :: older =>
    if h' = h ∧ result.sessionRevision = revision then
      acceptedSteps h revision older ++ [result.stepId]
    else acceptedSteps h revision older
  | _ :: older => acceptedSteps h revision older

def pending (c : Nat) : List Event → Option (Nat × Request)
  | [] => none
  | .sent c' h request :: older => if c' = c then some (h, request) else pending c older
  | .accepted c' _ _ :: older => if c' = c then none else pending c older
  | .raised c' _ :: older => if c' = c then none else pending c older
  | .reset _ :: older => pending c older

structure Protocol (client : Client) (s : State) : Prop where
  /-- The accepted steps of a session and a revision are 0, 1, 2, ... -/
  steps : ∀ h revision, ∃ n, acceptedSteps h revision s.log = List.range n
  /-- A request carries the reset as long as no step of its revision was accepted. -/
  resets : ∀ newer c h request older, s.log = newer ++ .sent c h request :: older →
    acceptedSteps h request.sessionRevision older = [] → request.reset = true
  /-- A result is that of the request of its call, and carries its revision. -/
  revisions : ∀ newer c h result older, s.log = newer ++ .accepted c h result :: older →
    ∃ request, pending c older = some (h, request) ∧ request.sessionRevision = result.sessionRevision ∧
      request.stepId = result.stepId
  /-- A step that raises leaves its session as it was, unlocked: its retry sends what it sent. -/
  retries : ∀ l t c h, step client s l = some t → t.log = .raised c h :: s.log →
    ∃ before, s.sessions h = some before ∧ t.sessions h = some { before with lock := none } ∧
      ∀ observation request, s.calls c = .sent observation h request →
        attempt client observation { before with lock := none } = .ok request

/-! ## What a request and a result say -/

theorem attempt_ok {client} {observation} {session}
    {request} (ran : attempt client observation session = .ok request) :
    observation.stepId = session.nextStep ∧ request.stepId = observation.stepId ∧
      request.sessionRevision = session.revision ∧ request.reset = (session.resetPending || observation.reset) := by
  obtain ⟨_, expected, ran⟩ := bind_ok ran
  obtain ⟨sent, built, ran⟩ := bind_ok ran
  obtain ⟨_, -, ran⟩ := bind_ok ran
  obtain ⟨_, -, built⟩ := bind_ok built
  obtain ⟨state, -, built⟩ := bind_ok built
  cases ran
  cases built
  exact ⟨ensure_ok expected, rfl, rfl, rfl⟩

theorem policyResult_ok {client} {payload} {observation} {session} {result}
    (ran : policyResult client payload observation session = .ok result) :
    result.stepId = observation.stepId ∧ result.sessionRevision = session.revision := by
  obtain ⟨_, -, ran⟩ := bind_ok ran
  obtain ⟨values, -, ran⟩ := bind_ok ran
  obtain ⟨rows, -, ran⟩ := bind_ok ran
  obtain ⟨timing, -, ran⟩ := bind_ok ran
  cases ran
  exact ⟨rfl, rfl⟩

theorem result_of_answer {client} {answer} {observation} {session} {result}
    (ran : jsonObject answer >>= (policyResult client · observation session) = .ok result) :
    result.stepId = observation.stepId ∧ result.sessionRevision = session.revision := by
  obtain ⟨payload, -, ran⟩ := bind_ok ran
  exact policyResult_ok ran

/-! ## The invariant -/

def Lawful : List Event → Prop
  | [] => True
  | .sent _ h request :: older =>
    (acceptedSteps h request.sessionRevision older = [] → request.reset = true) ∧ Lawful older
  | .accepted c h result :: older =>
    (∃ request, pending c older = some (h, request) ∧
      request.sessionRevision = result.sessionRevision ∧ request.stepId = result.stepId) ∧
    Lawful older
  | .raised .. :: older => Lawful older
  | .reset _ :: older => Lawful older

theorem Lawful.older {log} : ∀ newer : List Event, Lawful (newer ++ log) → Lawful log
  | [], lawful => lawful
  | .sent .. :: newer, lawful => Lawful.older newer lawful.2
  | .accepted .. :: newer, lawful => Lawful.older newer lawful.2
  | .raised .. :: newer, lawful => Lawful.older newer lawful
  | .reset _ :: newer, lawful => Lawful.older newer lawful

structure Counts (log : List Event) (h : Nat) (session : Session) : Prop where
  current : acceptedSteps h session.revision log = List.range session.nextStep
  later : ∀ revision, session.revision < revision → acceptedSteps h revision log = []
  reset : session.nextStep = 0 → session.resetPending = true

structure Waits (client : Client) (s : State) (c : Nat) (observation : PolicyObservation) (h : Nat)
    (request : Request) (session : Session) : Prop where
  here : s.sessions h = some session
  locked : session.lock = some c
  built : attempt client observation session = .ok request
  open_ : pending c s.log = some (h, request)

structure Inv (client : Client) (s : State) : Prop where
  steps : ∀ h revision, ∃ n, acceptedSteps h revision s.log = List.range n
  lawful : Lawful s.log
  unopened : ∀ h, s.opened ≤ h → s.sessions h = none
  unused : ∀ h, s.sessions h = none → ∀ revision, acceptedSteps h revision s.log = []
  counts : ∀ h session, s.sessions h = some session → Counts s.log h session
  waits : ∀ c observation h request, s.calls c = .sent observation h request →
    ∃ session, Waits client s c observation h request session

variable {client : Client} {s t : State}

theorem init_inv : Inv client {} where
  steps h revision := ⟨0, rfl⟩
  lawful := trivial
  unopened _ _ := rfl
  unused _ _ _ := rfl
  counts _ _ found := by cases found
  waits _ _ _ _ waiting := by cases waiting

theorem Inv.call (inv : Inv client s) (c : Nat) {call}
    (free : ∀ observation h request, call ≠ .sent observation h request) :
    Inv client (s.call c call) := by
  refine { inv with waits := fun c' observation h request waiting => ?_ }
  by_cases same : c' = c
  · rw [same, call_self] at waiting
    exact (free _ _ _ waiting).elim
  · rw [call_of_ne same] at waiting
    obtain ⟨session, waits⟩ := inv.waits c' observation h request waiting
    exact ⟨session, waits.here, waits.locked, waits.built, waits.open_⟩

theorem add_inv (inv : Inv client s) {id robotId actionSpace} {metadata} :
    Inv client (s.add id { actionSpace, robotId, metadata }) where
  steps := inv.steps
  lawful := inv.lawful
  unopened h le := by
    rw [add_sessions_of_ne (Nat.ne_of_gt le)]
    exact inv.unopened h (Nat.le_of_succ_le le)
  unused h none_ := by
    by_cases same : h = s.opened
    · rw [same, add_sessions_self] at none_
      cases none_
    · rw [add_sessions_of_ne same] at none_
      exact inv.unused h none_
  counts h session found := by
    by_cases same : h = s.opened
    · rw [same, add_sessions_self] at found
      cases found
      have empty := inv.unused _ (inv.unopened s.opened (Nat.le_refl _))
      rw [same]
      exact ⟨empty 0, fun revision _ => empty revision, fun _ => rfl⟩
    · rw [add_sessions_of_ne same] at found
      exact inv.counts h session found
  waits c observation h request waiting := by
    obtain ⟨session, waits⟩ := inv.waits c observation h request waiting
    have other : h ≠ s.opened := by
      rintro rfl
      cases (inv.unopened s.opened (Nat.le_refl _)).symm.trans waits.here
    exact ⟨session, (add_sessions_of_ne other).trans waits.here, waits.locked, waits.built, waits.open_⟩

theorem Waits.elsewhere {c c' h h'} {session session'} {observation}
    {request} (waits : Waits client s c' observation h' request session')
    (here : s.sessions h = some session) (mine : session.lock = none ∨ session.lock = some c)
    (other : c' ≠ c) : h' ≠ h := by
  rintro rfl
  cases here.symm.trans waits.here
  obtain free | held := mine
  · cases free.symm.trans waits.locked
  · cases held.symm.trans waits.locked
    exact other rfl

structure Private (c h : Nat) (e : Event) : Prop where
  steps : ∀ h' revision log, h' ≠ h → acceptedSteps h' revision (e :: log) = acceptedSteps h' revision log
  pending : ∀ c' log, c' ≠ c → pending c' (e :: log) = pending c' log

theorem private_sent (c h : Nat) (request : Request) : Private c h (.sent c h request) :=
  ⟨fun _ _ _ _ => rfl, fun _ _ other => if_neg other.symm⟩

theorem private_raised (c h : Nat) : Private c h (.raised c h) :=
  ⟨fun _ _ _ _ => rfl, fun _ _ other => if_neg other.symm⟩

theorem private_reset (c h : Nat) : Private c h (.reset h) := ⟨fun _ _ _ _ => rfl, fun _ _ _ => rfl⟩

theorem private_accepted (c h : Nat) (result : PolicyResult) : Private c h (.accepted c h result) :=
  ⟨fun _ _ _ other => if_neg fun both => other both.1.symm, fun _ _ other => if_neg other.symm⟩

theorem act_inv (inv : Inv client s) {c h} {session session'} {call} {e}
    (here : s.sessions h = some session) (mine : session.lock = none ∨ session.lock = some c)
    (own : Private c h e) (steps : ∀ revision, ∃ n, acceptedSteps h revision (e :: s.log) = List.range n)
    (lawful : Lawful (e :: s.log)) (counts : Counts (e :: s.log) h session')
    (waits : ∀ observation h' request, call = .sent observation h' request → h' = h ∧
      session'.lock = some c ∧ attempt client observation session' = .ok request ∧
        pending c (e :: s.log) = some (h, request)) :
    Inv client (s.act c call h session' e) where
  steps h' revision := by
    by_cases same : h' = h
    · rw [same]
      exact steps revision
    · have before := inv.steps h' revision
      rwa [← own.steps h' revision s.log same] at before
  lawful := lawful
  unopened h' le := by
    have other : h' ≠ h := by
      rintro rfl
      cases (inv.unopened h' le).symm.trans here
    exact (act_sessions_of_ne other).trans (inv.unopened h' le)
  unused h' none_ revision := by
    by_cases same : h' = h
    · rw [same, act_sessions_self] at none_
      cases none_
    · rw [act_sessions_of_ne same] at none_
      exact (own.steps h' revision s.log same).trans (inv.unused h' none_ revision)
  counts h' session' found := by
    by_cases same : h' = h
    · rw [same, act_sessions_self] at found
      cases found
      rw [same]
      exact counts
    · rw [act_sessions_of_ne same] at found
      have before := inv.counts h' session' found
      exact ⟨(own.steps h' _ s.log same).trans before.current,
        fun revision later => (own.steps h' revision s.log same).trans (before.later revision later),
        before.reset⟩
  waits c' observation h' request waiting := by
    by_cases same : c' = c
    · rw [same, act_calls_self] at waiting
      obtain ⟨rfl, locked, built, open_⟩ := waits observation h' request waiting
      rw [same]
      exact ⟨session', act_sessions_self, locked, built, open_⟩
    · rw [act_calls_of_ne same] at waiting
      obtain ⟨other, held⟩ := inv.waits c' observation h' request waiting
      have elsewhere := held.elsewhere here mine same
      exact ⟨other, (act_sessions_of_ne elsewhere).trans held.here, held.locked, held.built,
        (own.pending c' s.log same).trans held.open_⟩

theorem send_inv (inv : Inv client s) {c h} {session} (observation : PolicyObservation)
    (here : s.sessions h = some session) (free : session.lock = none) :
    Inv client (send client s c h observation session) := by
  have counts := inv.counts h session here
  unfold send
  split
  case h_1 =>
      exact act_inv inv here (.inl free) (private_raised c h) (inv.steps h) inv.lawful
        ⟨counts.current, counts.later, counts.reset⟩ nofun
  case h_2 request built =>
      obtain ⟨expected, -, revision, reset⟩ := attempt_ok built
      refine act_inv inv here (.inl free) (private_sent c h request) (inv.steps h) ⟨?_, inv.lawful⟩
        ⟨counts.current, counts.later, counts.reset⟩ ?_
      · intro none_
        rw [revision, counts.current, List.range_eq_nil] at none_
        rw [reset, counts.reset none_]
        rfl
      · rintro _ _ _ ⟨⟩
        exact ⟨rfl, rfl, built, if_pos rfl⟩

theorem reset_inv (inv : Inv client s) {c h} {session}
    (here : s.sessions h = some session) (free : session.lock = none) :
    Inv client (s.act c .idle h { session with
      revision := session.revision + 1, nextStep := 0, resetPending := true } (.reset h)) := by
  have counts := inv.counts h session here
  exact act_inv inv here (.inl free) (private_reset c h) (inv.steps h) inv.lawful
    ⟨counts.later _ (Nat.lt_succ_self _), fun revision later =>
      counts.later revision (Nat.lt_of_succ_lt later), fun _ => rfl⟩ nofun

theorem conclude_inv (inv : Inv client s) {c h} {session} {observation} {request}
    (waits : Waits client s c observation h request session) (answer : Answer) :
    Inv client (conclude client s c h observation session answer) := by
  have counts := inv.counts h session waits.here
  unfold conclude
  split
  case h_1 =>
      exact act_inv inv waits.here (.inr waits.locked) (private_raised c h) (inv.steps h) inv.lawful
        ⟨counts.current, counts.later, counts.reset⟩ nofun
  case h_2 result accepted =>
      obtain ⟨stepId, revision⟩ := result_of_answer accepted
      obtain ⟨expected, step_, sentRevision, -⟩ := attempt_ok waits.built
      have one_more : acceptedSteps h session.revision (.accepted c h result :: s.log) =
          List.range (session.nextStep + 1) := by
        rw [acceptedSteps, if_pos ⟨rfl, revision⟩, counts.current, stepId, expected, List.range_succ]
      refine act_inv inv waits.here (.inr waits.locked) (private_accepted c h result) ?_
        ⟨⟨request, waits.open_, sentRevision.trans revision.symm, step_.trans stepId.symm⟩,
          inv.lawful⟩ ⟨one_more, ?_, nofun⟩ nofun
      · intro r
        by_cases same : result.sessionRevision = r
        · rw [← same, revision]
          exact ⟨_, one_more⟩
        · rw [acceptedSteps, if_neg fun both => same both.2]
          exact inv.steps h r
      · intro r later
        have other : result.sessionRevision ≠ r := by
          rw [revision]
          exact Nat.ne_of_lt later
        rw [acceptedSteps, if_neg fun both => other both.2]
        exact counts.later r later

inductive Acts (client : Client) (s : State) : State → Prop where
  | sends (c h : Nat) (observation : PolicyObservation) (session : Session)
      (waiting : s.calls c = .stepping observation h) (here : s.sessions h = some session)
      (free : session.lock = none) : Acts client s (send client s c h observation session)
  | resets (c h : Nat) (session : Session) (here : s.sessions h = some session)
      (free : session.lock = none) : Acts client s (s.act c .idle h { session with
        revision := session.revision + 1, nextStep := 0, resetPending := true } (.reset h))
  | concludes (c h : Nat) (observation : PolicyObservation) (request : Request) (session : Session)
      (answer : Answer) (waiting : s.calls c = .sent observation h request)
      (here : s.sessions h = some session) :
      Acts client s (conclude client s c h observation session answer)

theorem step_cases {label} (next : step client s label = some t) :
    Acts client s t ∨ t.log = s.log ∧ (t = s ∨ (∃ id robotId actionSpace metadata,
        t = s.add id { actionSpace, robotId, metadata }) ∨
      (∃ table, t = { s with table }) ∨
        ∃ c call, (∀ observation h request, call ≠ .sent observation h request) ∧ t = s.call c call) := by
  cases label with simp only [step] at next
  | open_ =>
    split_ifs at next <;> cases next
    · exact .inr ⟨rfl, .inl rfl⟩
    · exact .inr ⟨rfl, .inr (.inl ⟨_, _, _, _, rfl⟩)⟩
  | close =>
    cases next
    exact .inr ⟨rfl, .inr (.inr (.inl ⟨_, rfl⟩))⟩
  | step c =>
    split at next <;> cases next
    · exact .inr ⟨rfl, .inr (.inr (.inr ⟨c, _, fun _ _ _ same => (by cases same), rfl⟩))⟩
    · exact .inr ⟨rfl, .inl rfl⟩
  | reset c =>
    split at next
    · split at next <;> cases next
      · exact .inr ⟨rfl, .inl rfl⟩
      · exact .inr ⟨rfl, .inr (.inr (.inr ⟨c, _, fun _ _ _ same => (by cases same), rfl⟩))⟩
    · cases next
      exact .inr ⟨rfl, .inl rfl⟩
    · cases next
  | lock c =>
    split at next
    · rename_i observation h waiting
      obtain ⟨session, here, sent⟩ := Option.bind_eq_some_iff.mp next
      split at sent <;> cases sent
      rename_i free
      exact .inl (.sends c h observation session waiting here free)
    · obtain ⟨session, here, reset⟩ := Option.bind_eq_some_iff.mp next
      split at reset <;> cases reset
      rename_i free
      exact .inl (.resets c _ session here free)
    · cases next
  | answer c answer =>
    split at next
    · rename_i observation h request waiting
      obtain ⟨session, here, rfl⟩ := Option.map_eq_some_iff.mp next
      exact .inl (.concludes c h observation request session answer waiting here)
    · cases next

theorem step_inv (inv : Inv client s) {label} (next : step client s label = some t) : Inv client t := by
  obtain acts | ⟨-, rfl | ⟨id, robotId, actionSpace, metadata, rfl⟩ | ⟨table, rfl⟩ |
    ⟨c, call, free, rfl⟩⟩ := step_cases next
  · cases acts with
    | sends c h observation session waiting here free => exact send_inv inv observation here free
    | resets c h session here free => exact reset_inv inv here free
    | concludes c h observation request session answer waiting here =>
      obtain ⟨other, waits⟩ := inv.waits c observation h request waiting
      cases here.symm.trans waits.here
      exact conclude_inv inv waits answer
  · exact inv
  · exact add_inv inv
  · refine { inv with waits := fun c observation h request waiting => ?_ }
    obtain ⟨session, waits⟩ := inv.waits c observation h request waiting
    exact ⟨session, waits.here, waits.locked, waits.built, waits.open_⟩
  · exact inv.call c free

theorem raises_retry (inv : Inv client s) {label} {c h}
    (next : step client s label = some t) (raised : t.log = .raised c h :: s.log) :
    ∃ before, s.sessions h = some before ∧ t.sessions h = some { before with lock := none } ∧
      ∀ observation request, s.calls c = .sent observation h request →
        attempt client observation { before with lock := none } = .ok request := by
  obtain acts | ⟨same, -⟩ := step_cases next
  · cases acts with
    | sends c' h' observation session waiting here free =>
      unfold send at raised ⊢
      split at raised <;> cases raised
      refine ⟨session, here, ?_, fun _ _ sent => (nomatch waiting.symm.trans sent)⟩
      rw [act_sessions_self, ← free]
    | resets => cases raised
    | concludes c' h' observation request session answer waiting here =>
      unfold conclude at raised ⊢
      split at raised <;> cases raised
      refine ⟨session, here, act_sessions_self, fun _ _ sent => ?_⟩
      obtain ⟨other, waits⟩ := inv.waits _ _ _ _ sent
      cases here.symm.trans waits.here
      exact waits.built
  · exact (List.cons_ne_self _ _ (raised.symm.trans same)).elim

theorem Inv.protocol (inv : Inv client s) : Protocol client s where
  steps := inv.steps
  resets newer c h request older split := by
    have lawful : Lawful (.sent c h request :: older) := Lawful.older newer (split ▸ inv.lawful)
    exact lawful.1
  revisions newer c h result older split := by
    have lawful : Lawful (.accepted c h result :: older) := Lawful.older newer (split ▸ inv.lawful)
    exact lawful.1
  retries l t c h next raised := raises_retry inv next raised

/-- With any interleaving of the calls: the accepted steps of a session and a revision are 0, 1, 2, ...,
and a step that raises can be tried again as it was. -/
theorem protocol_always (client : Client) {labels : List Label}
    (ran : run (step client) {} labels = some s) : Protocol client s :=
  (run_invariant (fun _ _ _ inv next => step_inv inv next) init_inv ran).protocol

def plain : Python where
  float
    | .int n => .ok (.finite n)
    | .float x => .ok x
    | .bool b => .ok (.finite (if b then 1 else 0))
  str _ := "model"
  base64 _ := ""
  blank text := text = ""
  serializes _ := true
  nonnegative _ := true

def bare : Client where
  py := plain
  imageKeys := .empty
  stateFields := []
  actionFeatureNames := []
  outputActionDim := none
  parameters := .empty
  runtime := .empty

def firstStep : PolicyObservation where
  sessionId := "s"
  requestId := "r"
  stepId := 0
  instruction := "go"
  state := .empty
  images := []
  reset := false
  metadata := .empty

def oneRow : Value := .dict ⟨[("data", .list [.dict ⟨[("action", .dict ⟨[("values", .list [.list []])]⟩)]⟩])]⟩

def retried : List Label :=
  [.open_ "s" "robot" "space" .empty, .step 0 firstStep, .lock 0, .answer 0 (.failed "timeout"),
    .step 1 firstStep, .lock 1, .answer 1 (.body oneRow)]

theorem protocol_always_retried : ∃ s, run (step bare) {} retried = some s ∧
    acceptedSteps 0 0 s.log = [0] ∧ Protocol bare s :=
  ⟨_, rfl, rfl, protocol_always bare (rfl : run (step bare) {} retried = some _)⟩

end EmbodiRun.ModelServices.Sglang
