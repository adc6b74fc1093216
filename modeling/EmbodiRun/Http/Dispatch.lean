/-
# Http.Dispatch -- `ControlHTTPAPI.dispatch`

`_dispatch` converts everything a route reads before it calls the application, so a request is
first prepared, which may raise, and the application is called with what was prepared.
`dispatch` answers the exceptions it names and lets the others through.

* `dispatch_answers_iff`: **a request is answered, and a malformed one with a 4xx and without a
  call, exactly where no conversion overflows and no error of the application is bare or has a
  blank message**.
-/
import EmbodiRun.Http.Fields

namespace EmbodiRun.Http

open Application Data Devices List

structure HttpRequest where
  method : Text
  path : Text
  body : Body := .absent
  headers : Headers := .absent

structure ExecuteArgs where
  requestId : Text
  action : Value
  source : Value
  observationId : Option Value
  steps : Value
  controlHz : Option Value
  wait : Bool
  timeoutS : Option Double
  maxAgeNs : Option Int
  maxSkewNs : Option Int
  parameters : Option Value

structure ProposeArgs where
  requestId : Text
  observationId : Text
  instruction : Text
  runtimeId : Option Value
  timeoutS : Value
  maxAgeNs : Option Int
  maxSkewNs : Option Int

/-- A method of `ControlApplication`, with what it is called with. -/
inductive AppOperation where
  | describe
  | observe (runtimeId observationId : Option Text) (includeRobot : Bool) (maxAgeNs maxSkewNs : Option Int)
  | media (observationId : Text) (frameName runtimeId : Option Text) (includeData : Bool)
  | recordingStatus
  | recordingGet (observationId : Text)
  | inspect (requestId : Text)
  | execute (args : ExecuteArgs)
  | propose (args : ProposeArgs)
  | legacyTask (request : TaskRequest) (wait : Bool) (timeoutS : Option Double)
  | recordingStart
  | recordingStop (timeoutS : Double)
  | cancel (requestId : Text)
  | stop (requestId : Text)

structure Call where
  owner : Owner
  token : Option Text
  operation : AppOperation

inductive Answer where
  | value
  /-- `None`, from `recording_get`. -/
  | none
  /-- From `legacy_task`: neither a `TaskResult` nor a mapping. -/
  | other
  deriving DecidableEq

structure Response where
  status : Nat
  code : Option Text := Option.none

section

variable (py : Python) (enabled : Bool) (trusted : Trusted)

/-! ## Preparing a call -/

/-- What `_dispatch` reads before it looks at the route. -/
structure Preamble where
  verb : Verb
  path : Text
  query : Text → Option Text
  body : Fields
  owner : Owner
  token : Option Text

/-- `_method`. -/
def verb (method : Text) : Result Verb :=
  if blank method then fault .dispatch "method must be a non-empty string"
  else if py.upper method = "GET".toList then .ok .get
  else if py.upper method = "POST".toList then .ok .post
  else .ok (.other (py.upper method))

/-- `{key: values[-1] for key, values in parse_qs(parsed.query).items()}`. -/
def queryOf (path : Text) (name : Text) : Option Text :=
  let query := ((target path).takeWhile (· ≠ '#')).dropWhile (· ≠ '?')
  ((py.parseQs query.tail).filter fun field => field.1 = name).getLast?.map Prod.snd

def body : Body → Result Fields
  | .absent => .ok .empty
  | .other => fault .dispatch "body must be a JSON object"
  | .object fields => .ok fields

def preamble (request : HttpRequest) : Result Preamble := do
  let verb ← verb py request.method
  if py.badHost request.path then fault .value "Invalid IPv6 URL"
  let fields ← body request.body
  let found ← headers py request.headers
  let token ← token py found
  let owner ← identity enabled trusted found token
  return { verb, path := request.path, query := queryOf py request.path, body := fields, owner, token }

def Verb.text : Verb → Text
  | .get => "GET".toList
  | .post => "POST".toList
  | .other verb => verb

def routeFault (verb : Verb) (path : Text) : RouteError → Fault
  | .media => ⟨.dispatch, "media route requires observation_id".toList⟩
  | .record => ⟨.dispatch, "record route requires observation_id".toList⟩
  | .job => ⟨.dispatch, "job route requires one request_id".toList⟩
  | .mutation => ⟨.dispatch, "job mutation route must end in /cancel or /stop".toList⟩
  | .unsupported => ⟨.dispatch, "unsupported route: ".toList ++ verb.text ++ ' ' :: route path⟩

/-- `_optional` of a query, whose values are strings. -/
def optional (value : Option Text) : Option Text := value.filter fun text => text ≠ []

def field (fields : Fields) (name : String) : Option Value := fields.get? name.toList

/-- `payload.get(name, default)`. -/
def fieldOr (fields : Fields) (name default : String) : Value :=
  (field fields name).getD (.str default.toList)

/-- `action` or `actions`. -/
def oneAction (fields : Fields) : Result Value :=
  match field fields "action", field fields "actions" with
  | some action, none => .ok action
  | none, some actions => .ok actions
  | _, _ => fault .dispatch "exactly one of action or actions is required"

def executeArgs (fields : Fields) : Result ExecuteArgs := do
  let requestId ← named .dispatch "request_id is required" (field fields "request_id")
  let action ← oneAction fields
  let wait ← bool py (fieldOr fields "wait" "false")
  let timeoutS ← optionalFloat py "timeout_s" (field fields "timeout_s")
  let maxAgeNs ← optionalInt py "max_age_ns" (field fields "max_age_ns")
  let maxSkewNs ← optionalInt py "max_skew_ns" (field fields "max_skew_ns")
  return ⟨requestId, action, fieldOr fields "source" "agent", field fields "observation_id",
    (field fields "steps").getD (.number (.int 1)), field fields "control_hz", wait, timeoutS, maxAgeNs,
    maxSkewNs, field fields "parameters"⟩

def proposeArgs (fields : Fields) : Result ProposeArgs := do
  let requestId ← named .dispatch "request_id is required" (field fields "request_id")
  let observationId ← named .dispatch "observation_id is required" (field fields "observation_id")
  let instruction ← named .dispatch "instruction is required" (field fields "instruction")
  let maxAgeNs ← optionalInt py "max_age_ns" (field fields "max_age_ns")
  let maxSkewNs ← optionalInt py "max_skew_ns" (field fields "max_skew_ns")
  return ⟨requestId, observationId, instruction, field fields "runtime_id",
    (field fields "timeout_s").getD (.number (.float (.finite 10))), maxAgeNs, maxSkewNs⟩

/-- The arguments of `legacy_task`. -/
def taskArgs (fields : Fields) : Result AppOperation := do
  let request ← taskRequest py ((fields.erase "wait".toList).erase "timeout_s".toList)
  let wait ← bool py (fieldOr fields "wait" "true")
  let timeoutS ← optionalFloat py "timeout_s" (field fields "timeout_s")
  return .legacyTask request wait timeoutS

/-- The arguments of `observe`; what a query holds is text. -/
def observeArgs (query : Text → Option Text) : Result AppOperation := do
  let includeRobot ← bool py (.str ((query "include_robot".toList).getD "false".toList))
  let maxAgeNs ← optionalInt py "max_age_ns" ((query "max_age_ns".toList).map .str)
  let maxSkewNs ← optionalInt py "max_skew_ns" ((query "max_skew_ns".toList).map .str)
  return .observe (optional (query "runtime_id".toList)) (optional (query "observation_id".toList))
    includeRobot maxAgeNs maxSkewNs

def convert (query : Text → Option Text) (fields : Fields) : Route → Result AppOperation
  | .describe => .ok .describe
  | .observe => observeArgs py query
  | .media observationId => do
    let includeData ← bool py (.str ((query "include_data".toList).getD "false".toList))
    return .media observationId (optional (query "frame".toList)) (optional (query "runtime_id".toList)) includeData
  | .recordingStatus => .ok .recordingStatus
  | .recordingGet observationId => .ok (.recordingGet observationId)
  | .inspect requestId => .ok (.inspect requestId)
  | .execute => do
    let args ← executeArgs py fields
    return .execute args
  | .propose => do
    let args ← proposeArgs py fields
    return .propose args
  | .tasks => taskArgs py fields
  | .recordingStart => .ok .recordingStart
  | .recordingStop => do
    let timeoutS ← optionalFloat py "timeout_s" (field fields "timeout_s")
    return .recordingStop (timeoutS.getD (.finite 1))
  | .cancelJob requestId => .ok (.cancel requestId)
  | .stopJob requestId => .ok (.stop requestId)
  | .cancel => do
    let requestId ← named .dispatch "request_id is required" (field fields "request_id")
    return .cancel requestId
  | .stop => do
    let requestId ← named .dispatch "request_id is required" (field fields "request_id")
    return .stop requestId

/-- Everything `_dispatch` does before it calls the application. -/
def prepare (request : HttpRequest) : Result Call := do
  let p ← preamble py enabled trusted request
  let route ← (routed p.verb p.path).mapError (routeFault p.verb p.path)
  let operation ← convert py p.query p.body route
  return ⟨p.owner, p.token, operation⟩

/-! ## The answer -/

/-- `HTTPResponse(…, …)` of a call that returned. -/
def respond (operation : AppOperation) (answer : Answer) : Result Response :=
  match operation, answer with
  | .execute args, _ => .ok ⟨if args.wait then 200 else 202, none⟩
  | .cancel _, _ | .stop _, _ => .ok ⟨202, none⟩
  | .recordingGet _, .none => .ok ⟨404, none⟩
  | .legacyTask .., .other =>
    fault .application "legacy task did not return a TaskResult or mapping"
  | _, _ => .ok ⟨200, none⟩

/-- The status `dispatch` gives an exception, and its code; `none` where it is not caught. -/
def status : FaultKind → Option (Nat × String)
  | .authentication => some (401, "authentication_required")
  | .authorization => some (403, "forbidden")
  | .jobOwnership => some (403, "job_owner_mismatch")
  | .jobNotFound => some (404, "job_not_found")
  | .jobConflict => some (409, "job_conflict")
  | .jobTimeout => some (202, "job_timeout")
  | .jobUnknown => some (409, "job_unknown")
  | .jobCancelled => some (409, "job_cancelled")
  | .jobExecution => some (502, "job_failed")
  | .proposalFailed => some (502, "proposal_failed")
  | .stale => some (409, "observation_stale")
  | .unsupported => some (409, "unsupported")
  | .invalidRequest | .dispatch | .value | .type => some (400, "invalid_request")
  | .job => some (409, "job_error")
  | .application => some (409, "application_error")
  | .auth | .overflow => none

def carriesRecord : FaultKind → Bool
  | .jobTimeout | .jobUnknown | .jobCancelled | .jobExecution => true
  | _ => false

/-- `error_payload` takes no blank message; an empty one is replaced by the name of the class. -/
def unanswerable (fault : Fault) : Bool :=
  !carriesRecord fault.kind && fault.message ≠ [] && blank fault.message

/-- The `except` clauses; `none` where an exception leaves `dispatch`. -/
def answerFault (fault : Fault) : Option Response :=
  if unanswerable fault then none
  else (status fault.kind).map fun found => ⟨found.1, some found.2.toList⟩

def dispatch (app : Call → Result Answer) (request : HttpRequest) : List Call × Option Response :=
  match prepare py enabled trusted request with
  | .error f => ([], answerFault f)
  | .ok call => ([call], match app call >>= respond call.operation with
    | .ok response => some response
    | .error f => answerFault f)

/-! ## Totality -/

/-- The request is malformed for its route: something the adapter reads is not as it must be. -/
def Malformed (request : HttpRequest) : Prop := ∃ f, prepare py enabled trusted request = .error f

def OverflowsAt (fields : Fields) : Route → Prop
  | .execute =>
    Accepted (named .dispatch "request_id is required" (field fields "request_id")) ∧
    (Accepted (oneAction fields) ∧
    (Accepted (bool py (fieldOr fields "wait" "false")) ∧
    (TooLarge py (field fields "timeout_s") ∨ Accepted (optionalFloat py "timeout_s" (field fields "timeout_s")) ∧
    (Infinite (field fields "max_age_ns") ∨ Accepted (optionalInt py "max_age_ns" (field fields "max_age_ns")) ∧
    Infinite (field fields "max_skew_ns")))))
  | .propose =>
    Accepted (named .dispatch "request_id is required" (field fields "request_id")) ∧
    (Accepted (named .dispatch "observation_id is required" (field fields "observation_id")) ∧
    (Accepted (named .dispatch "instruction is required" (field fields "instruction")) ∧
    (Infinite (field fields "max_age_ns") ∨ Accepted (optionalInt py "max_age_ns" (field fields "max_age_ns")) ∧
    Infinite (field fields "max_skew_ns"))))
  | .tasks =>
    let payload := (fields.erase "wait".toList).erase "timeout_s".toList
    TaskShaped payload ∧ (TooLarge py (payload.get? "control_hz".toList) ∨
      Accepted (positiveNumber py "control_hz" (payload.get? "control_hz".toList)) ∧
        TooLarge py (payload.get? "inference_timeout_s".toList)) ∨
    Accepted (taskRequest py payload) ∧ (Accepted (bool py (fieldOr fields "wait" "true")) ∧
      TooLarge py (field fields "timeout_s"))
  | .recordingStop => TooLarge py (field fields "timeout_s")
  | _ => False

/-- The method, path, headers and identity are fine, and a field of the route overflows. -/
def Huge (request : HttpRequest) : Prop :=
  ∃ p route, preamble py enabled trusted request = .ok p ∧ routed p.verb p.path = .ok route ∧
    OverflowsAt py p.body route

variable {py} {enabled} {trusted}

theorem overflows_return {α β : Type} {result : Result α} {g : α → β} :
    Overflows (result >>= fun a => pure (g a)) ↔ Overflows result := by
  rw [overflows_bind]
  exact or_iff_left fun ⟨_, _, over'⟩ => overflows_pure over'
variable {fields : Fields} {name : String} {P : Fault → Prop} {kind : FaultKind} {value : Option Value} {f : Fault}

theorem not_overflows_oneAction : ¬Overflows (oneAction fields) := by
  unfold oneAction
  split
  · exact overflows_ok
  · exact overflows_ok
  · exact mt overflows_fault.mp (by decide)

theorem overflows_executeArgs : Overflows (executeArgs py fields) ↔ OverflowsAt py fields .execute := by
  unfold executeArgs
  exact overflows_then (overflows_named .dispatch "request_id is required" (field fields "request_id") (by decide))
    fun requestId => overflows_then not_overflows_oneAction
    fun action => overflows_then (overflows_bool (fieldOr fields "wait" "false"))
    fun wait => overflows_or (overflows_optionalFloat "timeout_s" (field fields "timeout_s"))
    fun timeoutS => overflows_or (overflows_optionalInt "max_age_ns" (field fields "max_age_ns"))
    fun maxAgeNs => overflows_return.trans (overflows_optionalInt "max_skew_ns" (field fields "max_skew_ns"))

theorem overflows_proposeArgs : Overflows (proposeArgs py fields) ↔ OverflowsAt py fields .propose := by
  unfold proposeArgs
  exact overflows_then (overflows_named .dispatch "request_id is required" (field fields "request_id") (by decide))
    fun requestId => overflows_then
    (overflows_named .dispatch "observation_id is required" (field fields "observation_id") (by decide))
    fun observationId => overflows_then
    (overflows_named .dispatch "instruction is required" (field fields "instruction") (by decide))
    fun instruction => overflows_or (overflows_optionalInt "max_age_ns" (field fields "max_age_ns"))
    fun maxAgeNs => overflows_return.trans (overflows_optionalInt "max_skew_ns" (field fields "max_skew_ns"))

theorem overflows_taskArgs : Overflows (taskArgs py fields) ↔ OverflowsAt py fields .tasks := by
  unfold taskArgs
  exact overflows_or overflows_taskRequest fun request => overflows_then
    (overflows_bool (fieldOr fields "wait" "true")) fun wait => overflows_return.trans
    (overflows_optionalFloat "timeout_s" (field fields "timeout_s"))

theorem not_overflows_text {text : Option Text} : ¬Overflows (optionalInt py name (text.map .str)) := by
  rw [overflows_optionalInt]
  rintro ⟨negative, same⟩
  cases text with
  | none | some text => cases same
variable {query : Text → Option Text} {route : Route} {message : String}
  {found : Text → Option Text} {request : HttpRequest}

theorem not_overflows_observeArgs : ¬Overflows (observeArgs py query) := by
  unfold observeArgs
  rw [overflows_bind]
  rintro (over' | ⟨includeRobot, _, over'⟩)
  · exact overflows_bool _ over'
  rw [overflows_bind] at over'
  rcases over' with over' | ⟨maxAgeNs, _, over'⟩
  · exact not_overflows_text over'
  exact not_overflows_text (overflows_return.mp over')

theorem overflows_convert : Overflows (convert py query fields route) ↔ OverflowsAt py fields route := by
  cases route with
  | observe => exact iff_false_intro not_overflows_observeArgs
  | media => exact iff_false_intro (mt overflows_return.mp (overflows_bool _))
  | execute => exact overflows_return.trans overflows_executeArgs
  | propose => exact overflows_return.trans overflows_proposeArgs
  | tasks => exact overflows_taskArgs
  | recordingStop => exact overflows_return.trans (overflows_optionalFloat _ _)
  | cancel | stop => exact iff_false_intro (mt overflows_return.mp (overflows_named .dispatch _ _ (by decide)))
  | describe | recordingStatus | recordingGet | inspect | recordingStart | cancelJob | stopJob =>
    exact iff_false_intro overflows_ok

/-! ## What the adapter raises itself -/

def Client (f : Fault) : Prop :=
  ∃ response, answerFault f = some response ∧ 400 ≤ response.status ∧ response.status < 500

def Clear (f : Fault) : Prop := f.kind = .overflow ∨ Client f

/-- What is raised meets `P`. -/
def Raises {α : Type} (P : Fault → Prop) (result : Result α) : Prop := ∀ f, result = .error f → P f

abbrev Refuses {α : Type} (result : Result α) : Prop := Raises Clear result

theorem refuses_ok {α : Type} {a : α} : Raises P (.ok a : Result α) := nofun

theorem refuses_bind {α β : Type} {result : Result α} {next : α → Result β} (here : Raises P result)
    (later : ∀ a, Raises P (next a)) : Raises P (result >>= next) := by
  cases result with
  | error => exact fun g same => here g (congrArg Except.error (Except.error.inj same))
  | ok a => exact later a

theorem client_of_letter {message : Text} (letter : blank message = false)
    (known : kind ∈ [FaultKind.authentication, .invalidRequest, .dispatch, .value]) :
    Client ⟨kind, message⟩ := by
  have answerable : unanswerable ⟨kind, message⟩ = false := by
    unfold unanswerable
    rw [letter, Bool.and_false]
  unfold Client answerFault
  rw [answerable]
  simp only [mem_cons, not_mem_nil, or_false] at known
  rcases known with rfl | rfl | rfl | rfl <;> exact ⟨_, rfl, by decide, by decide⟩

theorem blank_literal {message : List Char} (letter : message.all isSpace = false) :
    blank (String.ofList message).toList = false := by
  unfold blank
  rw [String.toList_ofList]
  exact letter

theorem blank_append {a b : Text} (letter : blank b = false) : blank (a ++ b) = false := by
  unfold blank at letter ⊢
  rw [all_append, letter, Bool.and_false]

theorem refuses_fault {α : Type} (letter : blank message.toList = false)
    (known : kind ∈ [FaultKind.authentication, .invalidRequest, .dispatch, .value]) :
    Raises Client (fault kind message : Result α) := by
  intro f same
  obtain rfl := Except.error.inj same
  exact client_of_letter letter known

theorem refuses_clear {α : Type} {result : Result α} (client : Raises Client result) :
    Refuses result := fun f same => .inr (client f same)

theorem refuses_field {α : Type} {name said : String} (letter : blank said.toList = false)
    (known : kind ∈ [FaultKind.authentication, .invalidRequest, .dispatch, .value]) :
    Refuses (fault kind (name ++ said) : Result α) := by
  refine refuses_clear (refuses_fault ?_ known)
  rw [String.toList_append]
  exact blank_append letter

theorem refuses_overflow {α : Type} : Refuses (fault .overflow message : Result α) := by
  intro f same
  obtain rfl := Except.error.inj same
  exact .inl rfl

theorem refuses_named (letter : blank message.toList = false)
    (known : kind ∈ [FaultKind.authentication, .invalidRequest, .dispatch, .value]) :
    Refuses (named kind message value) := by
  unfold named
  split
  · split
    · exact refuses_clear (refuses_fault letter known)
    · exact refuses_ok
  · exact refuses_clear (refuses_fault letter known)

theorem refuses_bool {value : Value} : Refuses (bool py value) := by
  unfold bool
  split
  · exact refuses_ok
  · dsimp only
    split
    · exact refuses_ok
    split
    · exact refuses_ok
    · exact refuses_clear (refuses_fault (blank_literal rfl) (by decide))
  · exact refuses_clear (refuses_fault (blank_literal rfl) (by decide))

theorem refuses_optionalInt : Refuses (optionalInt py name value) := by
  unfold optionalInt
  split
  · exact refuses_ok
  · exact refuses_ok
  · split
    · exact refuses_ok
    · exact refuses_field (blank_literal rfl) (by decide)
  · exact refuses_ok
  · exact refuses_overflow
  · split
    · exact refuses_ok
    · exact refuses_field (blank_literal rfl) (by decide)
  · exact refuses_field (blank_literal rfl) (by decide)

theorem refuses_optionalFloat : Refuses (optionalFloat py name value) := by
  unfold optionalFloat
  split
  · exact refuses_ok
  · split
    · exact refuses_ok
    · exact refuses_overflow
  · exact refuses_ok
  · split
    · exact refuses_ok
    · exact refuses_field (blank_literal rfl) (by decide)
  · exact refuses_field (blank_literal rfl) (by decide)

theorem refuses_positiveInt : Refuses (positiveInt name value) := by
  unfold positiveInt
  split
  · split
    · exact refuses_ok
    · exact refuses_field (blank_literal rfl) (by decide)
  · exact refuses_field (blank_literal rfl) (by decide)

theorem refuses_positiveNumber : Refuses (positiveNumber py name value) := by
  unfold positiveNumber
  split
  · split
    · exact refuses_overflow
    · split
      · exact refuses_ok
      · exact refuses_field (blank_literal rfl) (by decide)
  · split
    · exact refuses_ok
    · exact refuses_field (blank_literal rfl) (by decide)
  · exact refuses_field (blank_literal rfl) (by decide)

theorem refuses_if {α : Type} {C : Prop} [Decidable C] {raised : Result Unit} {rest : Result α}
    (here : Raises P raised) (later : Raises P rest) :
    Raises P (if C then raised >>= fun _ : Unit => rest else rest) := by
  split
  · exact refuses_bind here fun _ => later
  · exact later

theorem refuses_taskRequest {payload : Fields} : Refuses (taskRequest py payload) := by
  unfold taskRequest
  refine refuses_if (refuses_clear (refuses_fault (blank_literal rfl) (by decide)))
    (refuses_if (refuses_clear (refuses_fault (blank_literal rfl) (by decide))) ?_)
  exact refuses_bind (refuses_named (blank_literal rfl) (by decide)) fun _ =>
    refuses_bind (refuses_named (blank_literal rfl) (by decide)) fun _ =>
    refuses_bind (refuses_named (blank_literal rfl) (by decide)) fun _ =>
    refuses_bind refuses_positiveInt fun _ => refuses_bind refuses_positiveInt fun _ =>
    refuses_bind refuses_positiveNumber fun _ => refuses_bind refuses_positiveNumber fun _ => refuses_ok

theorem refuses_oneAction : Refuses (oneAction fields) := by
  unfold oneAction
  split
  · exact refuses_ok
  · exact refuses_ok
  · exact refuses_clear (refuses_fault (blank_literal rfl) (by decide))

theorem refuses_executeArgs : Refuses (executeArgs py fields) := by
  unfold executeArgs
  exact refuses_bind (refuses_named (blank_literal rfl) (by decide)) fun _ => refuses_bind refuses_oneAction
    fun _ => refuses_bind refuses_bool fun _ => refuses_bind refuses_optionalFloat fun _ =>
    refuses_bind refuses_optionalInt fun _ => refuses_bind refuses_optionalInt fun _ => refuses_ok

theorem refuses_convert : Refuses (convert py query fields route) := by
  cases route with
  | observe =>
    exact refuses_bind refuses_bool fun _ => refuses_bind refuses_optionalInt fun _ =>
      refuses_bind refuses_optionalInt fun _ => refuses_ok
  | media => exact refuses_bind refuses_bool fun _ => refuses_ok
  | execute => exact refuses_bind refuses_executeArgs fun _ => refuses_ok
  | propose =>
    exact refuses_bind (refuses_bind (refuses_named (blank_literal rfl) (by decide)) fun _ =>
      refuses_bind (refuses_named (blank_literal rfl) (by decide)) fun _ =>
      refuses_bind (refuses_named (blank_literal rfl) (by decide)) fun _ =>
      refuses_bind refuses_optionalInt fun _ => refuses_bind refuses_optionalInt fun _ => refuses_ok)
      fun _ => refuses_ok
  | tasks =>
    exact refuses_bind refuses_taskRequest fun _ => refuses_bind refuses_bool fun _ =>
      refuses_bind refuses_optionalFloat fun _ => refuses_ok
  | recordingStop => exact refuses_bind refuses_optionalFloat fun _ => refuses_ok
  | cancel | stop => exact refuses_bind (refuses_named (blank_literal rfl) (by decide)) fun _ => refuses_ok
  | describe | recordingStatus | recordingGet | inspect | recordingStart | cancelJob | stopJob =>
    exact refuses_ok

/-! ## The preamble -/

theorem refuses_foldlM {α β : Type} {f : β → α → Result β} (each : ∀ b a, Raises P (f b a))
    (items : List α) (b : β) : Raises P (items.foldlM f b) := by
  induction items generalizing b with
  | nil => exact refuses_ok
  | cons a items ih =>
    rw [foldlM_cons]
    exact refuses_bind (each b a) ih

theorem refuses_headers {given : Headers} : Raises Client (headers py given) := by
  unfold headers
  split
  · exact refuses_ok
  · exact refuses_fault (blank_literal rfl) (by decide)
  · refine refuses_foldlM (fun found item => ?_) _ _
    split
    · exact refuses_ok
    · exact refuses_fault (blank_literal rfl) (by decide)

theorem refuses_token : Raises Client (token py found) := by
  unfold token
  split
  · split
    · split
      · exact refuses_ok
      · exact refuses_fault (blank_literal rfl) (by decide)
    · exact refuses_fault (blank_literal rfl) (by decide)
  · exact refuses_ok

theorem refuses_identity {token : Option Text} : Raises Client (identity enabled trusted found token) := by
  unfold identity
  dsimp only
  split
  · split
    · exact refuses_ok
    · exact refuses_fault (blank_literal rfl) (by decide)
  · exact refuses_ok

theorem refuses_preamble : Raises Client (preamble py enabled trusted request) := by
  unfold preamble
  refine refuses_bind ?_ fun _ => refuses_if (refuses_fault (blank_literal rfl) (by decide)) (refuses_bind ?_ fun _ =>
    refuses_bind refuses_headers fun _ => refuses_bind refuses_token fun _ =>
    refuses_bind refuses_identity fun _ => refuses_ok)
  · unfold verb
    split
    · exact refuses_fault (blank_literal rfl) (by decide)
    split
    · exact refuses_ok
    split <;> exact refuses_ok
  · unfold body
    split
    · exact refuses_ok
    · exact refuses_fault (blank_literal rfl) (by decide)
    · exact refuses_ok

theorem refuses_routed {verb : Verb} {path : Text} :
    Raises Client ((routed verb path).mapError (routeFault verb path)) := by
  intro f same
  cases found : routed verb path with
  | ok =>
    rw [found] at same
    cases same
  | error e =>
    rw [found] at same
    obtain rfl := Except.error.inj same
    cases e with
    | unsupported =>
      refine client_of_letter ?_ (by decide)
      unfold blank
      rw [all_append, all_append]
      have letter : ("unsupported route: ".toList).all isSpace = false := blank_literal rfl
      rw [letter]
      rfl
    | _ => exact client_of_letter (blank_literal rfl) (by decide)

theorem refuses_prepare : Refuses (prepare py enabled trusted request) :=
  refuses_bind (refuses_clear refuses_preamble) fun _ => refuses_bind (refuses_clear refuses_routed)
    fun _ => refuses_bind refuses_convert fun _ => refuses_ok

theorem not_overflow_of_client (client : Client f) : f.kind ≠ .overflow := by
  intro overflow
  obtain ⟨response, answered, _⟩ := client
  unfold answerFault at answered
  rw [overflow] at answered
  split at answered <;> cases answered

theorem not_overflows_of_client {α : Type} {result : Result α} (client : Raises Client result) :
    ¬Overflows result := fun ⟨_, raised⟩ => not_overflow_of_client (client _ raised) rfl

theorem overflows_prepare : Overflows (prepare py enabled trusted request) ↔ Huge py enabled trusted request := by
  unfold prepare
  rw [overflows_bind]
  constructor
  · rintro (raised | ⟨p, prepared, raised⟩)
    · exact absurd raised (not_overflows_of_client refuses_preamble)
    rcases overflows_bind.mp raised with raised | ⟨route, found, raised⟩
    · exact absurd raised (not_overflows_of_client refuses_routed)
    · refine ⟨p, route, prepared, ?_, overflows_convert.mp (overflows_return.mp raised)⟩
      cases here : routed p.verb p.path with
      | error =>
        rw [here] at found
        cases found
      | ok =>
        rw [here] at found
        rw [Except.ok.inj found]
  · rintro ⟨p, route, prepared, found, overflows⟩
    refine .inr ⟨p, prepared, overflows_bind.mpr (.inr ⟨route, ?_, ?_⟩)⟩
    · rw [found]
      rfl
    · exact overflows_return.mpr (overflows_convert.mpr overflows)

/-! ## Totality -/

/-- The application's errors are those it declares, with `AuthError` in its two kinds. -/
def declared (kind : FaultKind) : Prop := kind ≠ .overflow ∧ kind ≠ .dispatch

/-- An error of the application can be answered: it is no bare `AuthError`, and its message is not
made of spaces. -/
def Answerable (f : Fault) : Prop := f.kind ≠ .auth ∧ unanswerable f = false

theorem status_isSome (caught : kind ≠ .auth ∧ kind ≠ .overflow) : (status kind).isSome := by
  cases kind with
  | auth => exact absurd rfl caught.1
  | overflow => exact absurd rfl caught.2
  | _ => rfl

theorem answerFault_overflow (overflow : f.kind = .overflow) : answerFault f = none := by
  unfold answerFault
  rw [overflow]
  split <;> rfl

theorem answerFault_isSome (known : declared f.kind) : (answerFault f).isSome ↔ Answerable f := by
  unfold answerFault
  constructor
  · intro answered
    split at answered
    · cases answered
    · rename_i message
      refine ⟨fun auth => ?_, by simpa using message⟩
      rw [auth] at answered
      cases answered
  · rintro ⟨other, message⟩
    rw [if_neg (by rw [message]; decide), Option.isSome_map]
    exact status_isSome ⟨other, known.1⟩

theorem respond_isSome {operation : AppOperation} {answer : Answer}
    (raised : respond operation answer = .error f) : (answerFault f).isSome := by
  have task : respond operation answer ≠ .error f ∨
      f = ⟨.application, "legacy task did not return a TaskResult or mapping".toList⟩ := by
    unfold respond
    split
    · exact .inl nofun
    · exact .inl nofun
    · exact .inl nofun
    · exact .inl nofun
    · by_cases same : (⟨.application, "legacy task did not return a TaskResult or mapping".toList⟩ : Fault) = f
      · exact .inr same.symm
      · exact .inl fun equal => same (Except.error.inj equal)
    · exact .inl nofun
  rcases task with other | rfl
  · exact absurd raised other
  have letter : blank "legacy task did not return a TaskResult or mapping".toList = false :=
    blank_literal rfl
  refine (answerFault_isSome ⟨by decide, by decide⟩).mpr ⟨by decide, ?_⟩
  unfold unanswerable
  rw [letter, Bool.and_false]

/-- **Every request is answered**, exactly when no field of its route overflows and the error the
application raises, if it does, can be answered. -/
theorem dispatch_answers_iff {app : Call → Result Answer} {request : HttpRequest}
    (declares : ∀ call f, app call = .error f → declared f.kind) :
    ((dispatch py enabled trusted app request).2.isSome ∧ (Malformed py enabled trusted request →
        (dispatch py enabled trusted app request).1 = [] ∧
        ∃ response, (dispatch py enabled trusted app request).2 = some response ∧
          400 ≤ response.status ∧ response.status < 500)) ↔
      ¬Huge py enabled trusted request ∧
      ∀ call f, prepare py enabled trusted request = .ok call → app call = .error f → Answerable f := by
  rw [← overflows_prepare]
  unfold Malformed dispatch
  cases prepared : prepare py enabled trusted request with
  | error f =>
    dsimp only
    have clear := refuses_prepare f prepared
    constructor
    · rintro ⟨answered, _⟩
      refine ⟨?_, fun _ _ same => (by cases same)⟩
      rintro ⟨m, same⟩
      rw [answerFault_overflow (congrArg Fault.kind (Except.error.inj same))] at answered
      cases answered
    · rintro ⟨fits, _⟩
      rcases clear with overflow | client
      · exact absurd ⟨f.message, by rw [← overflow]⟩ fits
      · obtain ⟨response, answered, low, high⟩ := client
        exact ⟨by rw [answered]; rfl, fun _ => ⟨rfl, response, answered, low, high⟩⟩
  | ok call =>
    dsimp only
    constructor
    · rintro ⟨answered, _⟩
      refine ⟨overflows_ok, fun other f same raised => ?_⟩
      obtain rfl := Except.ok.inj same
      rw [raised] at answered
      exact (answerFault_isSome (declares _ f raised)).mp answered
    · rintro ⟨_, answerable⟩
      refine ⟨?_, fun ⟨f, same⟩ => (by cases same)⟩
      cases result : app call with
      | error f =>
        exact (answerFault_isSome (declares call f result)).mpr (answerable call f rfl result)
      | ok answer =>
        have bound : (Except.ok answer >>= respond call.operation : Result Response) =
            respond call.operation answer := rfl
        rw [bound]
        cases responded : respond call.operation answer with
        | ok => rfl
        | error => exact respond_isSome responded

end

/-! ## An infinite age -/

def asciiPython : Python where
  lower text := text.map Char.toLower
  upper text := text.map Char.toUpper
  parseQs _ := []
  badHost _ := false
  parseInt _ := none
  parseFloat _ := none
  ofInt n := some (.finite n)

/-- `POST /v1/execute` with a `max_age_ns` of `1e999`, which `json.loads` reads as infinite. -/
def infiniteAge : HttpRequest where
  method := "POST".toList
  path := "/v1/execute".toList
  body := .object (.field "request_id".toList (.str ['a']) (.field "action".toList (.dict .empty)
    (.field "max_age_ns".toList (.number (.float (.infinite false))) .empty)))

def raisedBy {α : Type} : Result α → Option Fault
  | .error f => some f
  | .ok _ => none

theorem eq_of_raisedBy {α : Type} {result : Result α} {f : Fault} (raised : raisedBy result = some f) :
    result = .error f := by
  cases result with
  | error =>
    obtain rfl := Option.some.inj raised
    rfl
  | ok => cases raised

def acknowledges : Call → Result Answer := fun _ => .ok .value

theorem dispatch_answers_infiniteAge :
    ((dispatch asciiPython false ⟨['c'], ['s']⟩ acknowledges infiniteAge).2.isSome ∧
      (Malformed asciiPython false ⟨['c'], ['s']⟩ infiniteAge →
        (dispatch asciiPython false ⟨['c'], ['s']⟩ acknowledges infiniteAge).1 = [] ∧
        ∃ response, (dispatch asciiPython false ⟨['c'], ['s']⟩ acknowledges infiniteAge).2 =
          some response ∧ 400 ≤ response.status ∧ response.status < 500)) ↔
      ¬Huge asciiPython false ⟨['c'], ['s']⟩ infiniteAge ∧
      ∀ call f, prepare asciiPython false ⟨['c'], ['s']⟩ infiniteAge = .ok call →
        acknowledges call = .error f → Answerable f :=
  dispatch_answers_iff fun _ _ raised => by
    unfold acknowledges at raised
    cases raised

/-- No response: `OverflowError` leaves `dispatch`. -/
theorem dispatch_overflows : Malformed asciiPython false ⟨['c'], ['s']⟩ infiniteAge ∧
      dispatch asciiPython false ⟨['c'], ['s']⟩ acknowledges infiniteAge = ([], none) := by
  have found : raisedBy (prepare asciiPython false ⟨['c'], ['s']⟩ infiniteAge) =
      some ⟨.overflow, "cannot convert float infinity to integer".toList⟩ := by decide +kernel
  have raised := eq_of_raisedBy found
  refine ⟨⟨_, raised⟩, ?_⟩
  unfold dispatch
  rw [raised]
  dsimp only
  rw [answerFault_overflow rfl]

end EmbodiRun.Http
