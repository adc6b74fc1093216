/-
# Http.Fields -- how the adapter converts headers and loosely typed fields

Each helper turns what a header, a query or a JSON body holds into an argument, or raises.
`int` of an infinite `float` and `float` of a huge `int` raise `OverflowError`, which none of
the helpers catches.
-/
import EmbodiRun.Application.Execute
import EmbodiRun.Http.Routes

namespace EmbodiRun.Http

open Application Data Devices

structure Python where
  lower : Text → Text
  upper : Text → Text
  parseQs : Text → List (Text × Text)
  /-- `urlsplit` raises `ValueError` on the host. -/
  badHost : Text → Bool
  /-- `int(text)`. -/
  parseInt : Text → Option Int
  /-- `float(text)`. -/
  parseFloat : Text → Option Double
  /-- `float(n)`; `none` where `n` is too large. -/
  ofInt : Int → Option Double

inductive FaultKind where
  | authentication | authorization | auth
  | jobOwnership | jobNotFound | jobConflict | jobTimeout | jobUnknown | jobCancelled | jobExecution | job
  | proposalFailed | stale | unsupported | invalidRequest | application
  | dispatch | value | type
  | overflow
  deriving DecidableEq

/-- An exception, with its `str`. -/
structure Fault where
  kind : FaultKind
  message : Text := []
  deriving DecidableEq

abbrev Result (α : Type) := Except Fault α

def fault {α : Type} (kind : FaultKind) (message : String) : Result α := .error ⟨kind, message.toList⟩

/-! ## Headers -/

/-- The headers as they are handed in; a name or value that is no `str` is `none`. -/
inductive Headers where
  | absent
  | other
  | items (items : List (Option Text × Option Text))

inductive Body where
  | absent
  | other
  | object (fields : Fields)

section

variable (py : Python)

def strip (text : Text) : Text := ((text.dropWhile isSpace).reverse.dropWhile isSpace).reverse

/-- `_headers`: later items overwrite earlier ones. -/
def headers : Headers → Result (Text → Option Text)
  | .absent => .ok fun _ => none
  | .other => fault .dispatch "headers must be a mapping"
  | .items items => items.foldlM (fun found item =>
    match item with
    | (some name, some value) => .ok (Function.update found (py.lower name) (some value))
    | _ => fault .dispatch "headers must contain string names and values") fun _ => none

def firstHeader (found : Text → Option Text) (names : List Text) : Option Text :=
  names.findSome? fun name => (found name).bind fun value =>
    if blank value then none else some (strip value)

/-- `authorization.strip().split(None, 1)`. -/
def words (text : Text) : Option (Text × Text) :=
  let text := strip text
  let first := text.takeWhile fun c => !isSpace c
  let rest := (text.drop first.length).dropWhile isSpace
  if first = [] ∨ rest = [] then none else some (first, rest)

def token (found : Text → Option Text) : Result (Option Text) :=
  match found "authorization".toList with
  | some authorization => match words authorization with
    | some (scheme, value) =>
      if py.lower scheme = "bearer".toList ∧ blank value = false then .ok (some (strip value))
      else fault .authentication "authorization must use a Bearer token"
    | none => fault .authentication "authorization must use a Bearer token"
  | none => .ok (firstHeader found ["x-rlinf-token".toList, "x-control-token".toList])

structure Trusted where
  callerId : Text
  sessionId : Text

def identity (enabled : Bool) (trusted : Trusted) (found : Text → Option Text) (token : Option Text) :
    Result Owner :=
  let caller := firstHeader found ["x-rlinf-caller-id".toList, "x-caller-id".toList]
  let session := firstHeader found ["x-rlinf-session-id".toList, "x-session-id".toList]
  let either : Owner := ⟨caller.getD trusted.callerId, session.getD trusted.sessionId⟩
  if enabled ∧ token.isSome then
    match caller, session with
    | some callerId, some sessionId => .ok ⟨callerId, sessionId⟩
    | _, _ => fault .invalidRequest "token-authenticated routes require caller and session headers"
  else .ok either

end

/-! ## Fields -/

variable (py : Python)

/-- `payload.get(name)` of a key that is there, and of one that is not. -/
def given (value : Option Value) : Option Value :=
  match value with
  | none | some .null | some (.str []) => none
  | some value => some value

def optionalInt (name : String) (value : Option Value) : Result (Option Int) :=
  match given value with
  | none => .ok none
  | some (.number (.int n)) => .ok (some n)
  | some (.number (.float (.finite q))) =>
    if q.num.tdiv q.den = q then .ok (some (q.num.tdiv q.den))
    else fault .dispatch (name ++ " must be an integer")
  | some (.number (.float .minusZero)) => .ok (some 0)
  | some (.number (.float (.infinite _))) => fault .overflow "cannot convert float infinity to integer"
  | some (.str text) => match py.parseInt text with
    | some n => .ok (some n)
    | none => fault .dispatch (name ++ " must be an integer")
  | some _ => fault .dispatch (name ++ " must be an integer")

def optionalFloat (name : String) (value : Option Value) : Result (Option Double) :=
  match given value with
  | none => .ok none
  | some (.number (.int n)) => match py.ofInt n with
    | some x => .ok (some x)
    | none => fault .overflow "int too large to convert to float"
  | some (.number (.float x)) => .ok (some x)
  | some (.str text) => match py.parseFloat text with
    | some x => .ok (some x)
    | none => fault .dispatch (name ++ " must be a number")
  | some _ => fault .dispatch (name ++ " must be a number")

def bool (value : Value) : Result Bool :=
  match value with
  | .number (.bool b) => .ok b
  | .str text =>
    let normalized := py.lower (strip text)
    if normalized ∈ ["1".toList, "true".toList, "yes".toList, "on".toList] then .ok true
    else if normalized ∈ ["0".toList, "false".toList, "no".toList, "off".toList] then .ok false
    else fault .dispatch "boolean values must be true or false"
  | _ => fault .dispatch "boolean values must be true or false"

/-- A field that must be a non-blank `str`. -/
def named (kind : FaultKind) (message : String) (value : Option Value) : Result Text :=
  match value with
  | some (.str text) => if blank text then fault kind message else .ok text
  | _ => fault kind message

structure TaskRequest where
  requestId : Text
  runtimeId : Text
  prompt : Text
  chunkSteps : Int
  maxSteps : Int
  controlHz : Number
  inferenceTimeoutS : Number

/-- A field that must be a positive `int`. -/
def positiveInt (name : String) (value : Option Value) : Result Int :=
  match value with
  | some (.number (.int n)) =>
    if 0 < n then .ok n else fault .value (name ++ " must be a positive integer")
  | _ => fault .value (name ++ " must be a positive integer")

/-- A field that must be a finite positive number; `math.isfinite` makes a `float` of it. -/
def positiveNumber (name : String) (value : Option Value) : Result Number :=
  match value with
  | some (.number (.int n)) => match py.ofInt n with
    | none => fault .overflow "int too large to convert to float"
    | some _ =>
      if 0 < n then .ok (.int n) else fault .value (name ++ " must be a finite positive number")
  | some (.number (.float (.finite q))) =>
    if 0 < q then .ok (.float (.finite q))
    else fault .value (name ++ " must be a finite positive number")
  | _ => fault .value (name ++ " must be a finite positive number")

def keysIn (allowed : List Text) : {i : Shape} → Tree Text i → Bool
  | _, .field key _ rest => key ∈ allowed && keysIn allowed rest
  | _, _ => true

def taskFields : List Text :=
  ["schema".toList, "request_id".toList, "runtime_id".toList, "prompt".toList, "chunk_steps".toList,
    "max_steps".toList, "control_hz".toList, "inference_timeout_s".toList]

/-- `TaskRequest.from_payload` and `__post_init__`. -/
def taskRequest (payload : Fields) : Result TaskRequest := do
  if payload.get? "schema".toList ≠ some (.str "rlinf.control.task.v1".toList) then
    fault .value "unsupported task request schema"
  if keysIn taskFields payload = false then fault .value "task request contains unknown fields"
  let requestId ← named .value "task request.request_id must be a non-empty string" (payload.get? "request_id".toList)
  let runtimeId ← named .value "task request.runtime_id must be a non-empty string" (payload.get? "runtime_id".toList)
  let prompt ← named .value "task request.prompt must be a non-empty string" (payload.get? "prompt".toList)
  let chunkSteps ← positiveInt "chunk_steps" (payload.get? "chunk_steps".toList)
  let maxSteps ← positiveInt "max_steps" (payload.get? "max_steps".toList)
  let controlHz ← positiveNumber py "control_hz" (payload.get? "control_hz".toList)
  let inferenceTimeoutS ← positiveNumber py "inference_timeout_s" (payload.get? "inference_timeout_s".toList)
  return { requestId, runtimeId, prompt, chunkSteps, maxSteps, controlHz, inferenceTimeoutS }

/-! ## What overflows -/

/-- The value is an infinite `float`. -/
def Infinite (value : Option Value) : Prop :=
  ∃ negative, value = some (.number (.float (.infinite negative)))

/-- The value is an `int` too large for a `float`. -/
def TooLarge (value : Option Value) : Prop := ∃ n, value = some (.number (.int n)) ∧ py.ofInt n = none

/-- `OverflowError` is raised. -/
def Overflows {α : Type} (result : Result α) : Prop := ∃ message, result = .error ⟨.overflow, message⟩

def Accepted {α : Type} (result : Result α) : Prop := ∃ value, result = .ok value

variable {py}

@[simp] theorem overflows_ok {α : Type} {a} : ¬Overflows (.ok a : Result α) := nofun

@[simp] theorem overflows_pure {α : Type} {a} : ¬Overflows (pure a : Result α) := nofun

theorem overflows_fault {α : Type} {kind} {message} :
    Overflows (fault kind message : Result α) ↔ kind = .overflow := by
  constructor
  · rintro ⟨m, same⟩
    exact congrArg Fault.kind (Except.error.inj same)
  · rintro rfl
    exact ⟨_, rfl⟩

theorem overflows_bind {α β : Type} {result : Result α} {next : α → Result β} :
    Overflows (result >>= next) ↔ Overflows result ∨ ∃ a, result = .ok a ∧ Overflows (next a) := by
  cases result with
  | error =>
    constructor
    · rintro ⟨m, same⟩
      exact .inl ⟨m, congrArg Except.error (Except.error.inj same)⟩
    · rintro (⟨m, same⟩ | ⟨a, other, _⟩)
      · exact ⟨m, congrArg Except.error (Except.error.inj same)⟩
      · cases other
  | ok a =>
    constructor
    · exact fun over' => .inr ⟨a, rfl, over'⟩
    · rintro (⟨m, other⟩ | ⟨b, same, over'⟩)
      · cases other
      · obtain rfl := Except.ok.inj same
        exact over'

theorem overflows_then {α β : Type} {result : Result α} {next : α → Result β} {P : Prop}
    (here : ¬Overflows result) (later : ∀ a, Overflows (next a) ↔ P) :
    Overflows (result >>= next) ↔ Accepted result ∧ P := by
  rw [overflows_bind]
  constructor
  · rintro (over' | ⟨a, same, over'⟩)
    · exact absurd over' here
    · exact ⟨⟨a, same⟩, (later a).mp over'⟩
  · rintro ⟨⟨a, same⟩, holds⟩
    exact .inr ⟨a, same, (later a).mpr holds⟩

theorem overflows_or {α β : Type} {result : Result α} {next : α → Result β} {P Q : Prop}
    (here : Overflows result ↔ P) (later : ∀ a, Overflows (next a) ↔ Q) :
    Overflows (result >>= next) ↔ P ∨ Accepted result ∧ Q := by
  rw [overflows_bind, here]
  refine or_congr_right ⟨?_, ?_⟩
  · rintro ⟨a, same, over'⟩
    exact ⟨⟨a, same⟩, (later a).mp over'⟩
  · rintro ⟨⟨a, same⟩, holds⟩
    exact ⟨a, same, (later a).mpr holds⟩

theorem overflows_named (kind : FaultKind) (message : String) (value : Option Value)
    (other : kind ≠ .overflow) : ¬Overflows (named kind message value) := by
  unfold named
  split
  · split
    · exact mt overflows_fault.mp other
    · exact overflows_ok
  · exact mt overflows_fault.mp other

theorem overflows_bool (value : Value) : ¬Overflows (bool py value) := by
  unfold bool
  split
  · exact overflows_ok
  · dsimp only
    split
    · exact overflows_ok
    split
    · exact overflows_ok
    · exact mt overflows_fault.mp (by decide)
  · exact mt overflows_fault.mp (by decide)

theorem overflows_positiveInt (name : String) (value : Option Value) : ¬Overflows (positiveInt name value) := by
  unfold positiveInt
  split
  · split
    · exact overflows_ok
    · exact mt overflows_fault.mp (by decide)
  · exact mt overflows_fault.mp (by decide)

theorem given_number {value} {n} : given value = some (.number n) ↔ value = some (.number n) := by
  constructor
  · intro found
    unfold given at found
    split at found
    · cases found
    · cases found
    · cases found
    · exact found
  · rintro rfl
    rfl

theorem overflows_optionalInt (name : String) (value : Option Value) :
    Overflows (optionalInt py name value) ↔ Infinite value := by
  constructor
  · rintro ⟨m, raised⟩
    unfold optionalInt at raised
    split at raised
    · cases raised
    · cases raised
    · split at raised <;> cases raised
    · cases raised
    · rename_i negative found
      exact ⟨negative, given_number.mp found⟩
    · split at raised <;> cases raised
    · cases raised
  · rintro ⟨negative, rfl⟩
    exact ⟨_, rfl⟩

theorem overflows_optionalFloat (name : String) (value : Option Value) :
    Overflows (optionalFloat py name value) ↔ TooLarge py value := by
  constructor
  · rintro ⟨m, raised⟩
    unfold optionalFloat at raised
    split at raised
    · cases raised
    · rename_i n found
      split at raised
      · cases raised
      · rename_i large
        exact ⟨n, given_number.mp found, large⟩
    · cases raised
    · split at raised <;> cases raised
    · cases raised
  · rintro ⟨n, rfl, large⟩
    refine ⟨"int too large to convert to float".toList, ?_⟩
    unfold optionalFloat given
    dsimp only
    rw [large]
    rfl

theorem overflows_positiveNumber (name : String) (value : Option Value) :
    Overflows (positiveNumber py name value) ↔ TooLarge py value := by
  constructor
  · rintro ⟨m, raised⟩
    unfold positiveNumber at raised
    split at raised
    · rename_i n
      split at raised
      · rename_i large
        exact ⟨n, rfl, large⟩
      · split at raised <;> cases raised
    · split at raised <;> cases raised
    · cases raised
  · rintro ⟨n, rfl, large⟩
    refine ⟨"int too large to convert to float".toList, ?_⟩
    unfold positiveNumber
    dsimp only
    rw [large]
    rfl

structure TaskShaped (payload : Fields) : Prop where
  schema : payload.get? "schema".toList = some (.str "rlinf.control.task.v1".toList)
  known : keysIn taskFields payload
  requestId : Accepted (named .value "task request.request_id must be a non-empty string" (payload.get? "request_id".toList))
  runtimeId : Accepted (named .value "task request.runtime_id must be a non-empty string" (payload.get? "runtime_id".toList))
  prompt : Accepted (named .value "task request.prompt must be a non-empty string" (payload.get? "prompt".toList))
  chunkSteps : Accepted (positiveInt "chunk_steps" (payload.get? "chunk_steps".toList))
  maxSteps : Accepted (positiveInt "max_steps" (payload.get? "max_steps".toList))

theorem overflows_taskRequest {payload : Fields} : Overflows (taskRequest py payload) ↔ TaskShaped payload ∧
      (TooLarge py (payload.get? "control_hz".toList) ∨
        Accepted (positiveNumber py "control_hz" (payload.get? "control_hz".toList)) ∧
          TooLarge py (payload.get? "inference_timeout_s".toList)) := by
  unfold taskRequest
  by_cases schema : payload.get? "schema".toList = some (.str "rlinf.control.task.v1".toList)
  · rw [if_neg (not_not.mpr schema)]
    by_cases known : keysIn taskFields payload = false
    · rw [if_pos known]
      refine iff_of_false ?_ fun shaped => ?_
      · rintro ⟨m, raised⟩
        cases raised
      · rw [shaped.1.known] at known
        cases known
    · rw [if_neg known]
      let get (name : String) := payload.get? name.toList
      have rest := overflows_then
        (overflows_named .value "task request.request_id must be a non-empty string" (get "request_id")
          (by decide)) fun requestId => overflows_then
        (overflows_named .value "task request.runtime_id must be a non-empty string" (get "runtime_id")
          (by decide)) fun runtimeId => overflows_then
        (overflows_named .value "task request.prompt must be a non-empty string" (get "prompt")
          (by decide)) fun prompt => overflows_then
        (overflows_positiveInt "chunk_steps" (get "chunk_steps")) fun chunkSteps => overflows_then
        (overflows_positiveInt "max_steps" (get "max_steps")) fun maxSteps => overflows_or
        (@overflows_positiveNumber py "control_hz" (get "control_hz")) fun controlHz => overflows_or
        (@overflows_positiveNumber py "inference_timeout_s" (get "inference_timeout_s"))
          fun inferenceTimeoutS => (iff_false_intro (overflows_pure
            (a := (⟨requestId, runtimeId, prompt, chunkSteps, maxSteps, controlHz,
              inferenceTimeoutS⟩ : TaskRequest))))
      refine rest.trans ?_
      constructor
      · rintro ⟨a, b, c, d, e, over'⟩
        refine ⟨⟨schema, by simpa using known, a, b, c, d, e⟩, ?_⟩
        rcases over' with first | ⟨accepted, second | ⟨_, no⟩⟩
        · exact .inl first
        · exact .inr ⟨accepted, second⟩
        · exact no.elim
      · rintro ⟨shaped, over'⟩
        refine ⟨shaped.requestId, shaped.runtimeId, shaped.prompt, shaped.chunkSteps, shaped.maxSteps, ?_⟩
        rcases over' with first | ⟨accepted, second⟩
        · exact .inl first
        · exact .inr ⟨accepted, .inl second⟩
  · rw [if_pos schema]
    refine iff_of_false ?_ fun shaped => schema shaped.1.schema
    rintro ⟨m, raised⟩
    cases raised

end EmbodiRun.Http
