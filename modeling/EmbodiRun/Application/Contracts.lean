/-
# Application.Contracts -- the control configuration that Host writes and Control reads

`ControlServiceConfig.to_json` omits what stands at its default and writes no more of the inference of a
device-only service than that it is disabled; `from_json` restores what is omitted and constructs the
configuration anew.
-/
import EmbodiRun.Data.Except
import EmbodiRun.Data.Verbatim

namespace EmbodiRun.Application.Contracts

open EmbodiRun.Data EmbodiRun.Data.Verbatim List
open EmbodiRun.Data.Reread (Str Key Value CodePoint)

/-! ## The process -/

/-- `InferenceProvider`, as far as a configuration is checked against it. -/
structure Provider where
  transports : List Str
  actionCapable : Bool

/-- What the process brings: its registered providers, `repr` of a `str`, and the longest `int` it writes. -/
structure Process where
  provider : Str → Option Provider
  repr : Str → Str
  limit : Nat
  /-- `sys.set_int_max_str_digits` takes 0 or at least 640. -/
  limits : limit = 0 ∨ 640 ≤ limit

/-- What raises `ControlContractError` with a message. -/
abbrev Checked := Except Str

variable (py : Process)

/-! ## Checks -/

/-- `str.isspace` of one character. -/
def space (c : CodePoint) : Bool :=
  (9 ≤ c.val ∧ c.val ≤ 13) ∨ (28 ≤ c.val ∧ c.val ≤ 32) ∨ (0x2000 ≤ c.val ∧ c.val ≤ 0x200A) ∨
    c.val ∈ [0x85, 0xA0, 0x1680, 0x2028, 0x2029, 0x202F, 0x205F, 0x3000]

/-- `not text.strip()`. -/
def blank (text : Str) : Bool := text.all space

def named (texts : List (String × Str)) : Checked Unit :=
  texts.forM fun text => ensure (blank text.2 = false) (lit text.1 ++ lit " must not be empty")

def Key.isStr : Key → Bool
  | .str _ => true
  | .other _ => false

def mapping (context : Str) : Value .value → Checked (Value .fields)
  | .dict value => (ensure (value.keys.all Key.isStr) (context ++ lit " must be a JSON object")).map fun _ => value
  | _ => .error (context ++ lit " must be a JSON object")

/-- `value.get(name)`. -/
def get (value : Value .fields) (name : String) : Value .value := (value.get? (.str (lit name))).getD .null

/-- `value.get(name, {})`. -/
def getOptions (value : Value .fields) (name : String) : Value .value :=
  (value.get? (.str (lit name))).getD (.dict .empty)

def string (value : Value .fields) (name : String) (context : Str) : Checked Str :=
  match get value name with
  | .str text =>
    (ensure (blank text = false) (context ++ lit "." ++ lit name ++ lit " must be a non-empty string")).map
      fun _ => text
  | _ => .error (context ++ lit "." ++ lit name ++ lit " must be a non-empty string")

/-- `_string(value, name, context) if name in value else default`. -/
def stringOr (value : Value .fields) (name : String) (context default : Str) : Checked Str :=
  match value.get? (.str (lit name)) with
  | some _ => string value name context
  | none => .ok default

def rejectUnknown (value : Value .fields) (allowed : List String) (context : Str) : Checked Unit :=
  let unknown := ((pairs value).map Prod.fst).filter fun key => key ∉ allowed.map lit
  ensure (unknown = []) (context ++ lit " contains unknown fields: " ++
    (lit ", ").intercalate (unknown.mergeSort fun a b => ¬ b < a))

def offered (backend transport : Str) : Checked Unit :=
  match py.provider backend with
  | none => .error (lit "unsupported inference provider " ++ py.repr backend)
  | some selected => do
    ensure (transport ∈ selected.transports) (lit "inference provider " ++ py.repr backend ++
      lit " does not support transport " ++ py.repr transport)
    ensure selected.actionCapable (lit "inference provider " ++ py.repr backend ++ lit " has no action capability")

/-! ### What the checks let pass -/

section

variable {α : Type} {context : Str} {v : Value .fields} {fs : List (String × Value .value)}
variable {b : α} {name : String} {text : Str}

theorem unit_bind_ok {x : Checked Unit} {f : Unit → Checked α} : x >>= f = .ok b ↔ x = .ok () ∧ f () = .ok b := by
  cases x with
  | ok => exact (and_iff_right rfl).symm
  | error => exact iff_of_false nofun fun both => nomatch both.1

theorem ensure_ok_iff {p} [Decidable p] {e} : (ensure p e : Checked Unit) = .ok () ↔ p :=
  ⟨ensure_ok, ensure_of⟩

theorem ok_bind {β : Type} {a : α} {f : α → Checked β} : (.ok a : Checked α) >>= f = f a := rfl

theorem pure_ok {a b : α} : (pure a : Checked α) = .ok b ↔ a = b := Except.ok.injEq a b ▸ Iff.rfl

theorem named_ok {texts : List (String × Str)} : named texts = .ok () ↔ ∀ text ∈ texts, blank text.2 = false := by
  induction texts with
  | nil => exact iff_of_true rfl nofun
  | cons text texts ih =>
    have first : named (text :: texts) = (ensure (blank text.2 = false) (lit text.1 ++ lit " must not be empty") >>=
      fun _ => named texts) := rfl
    rw [first, ensure_bind_ok, ih, forall_mem_cons]

theorem mapping_of (keys : v.keys.all Key.isStr) : mapping context (.dict v) = .ok v := by
  rw [mapping, ensure_of keys]
  rfl

theorem mapping_bind_ok {f : Value .fields → Checked α} :
    mapping context (.dict v) >>= f = .ok b ↔ v.keys.all Key.isStr ∧ f v = .ok b := by
  by_cases keys : v.keys.all Key.isStr
  · rw [mapping_of keys, ok_bind]
    exact (and_iff_right keys).symm
  · rw [mapping, ensure_not keys]
    exact iff_of_false nofun fun both => keys both.1

theorem keys_object : (object fs).keys.all Key.isStr := by
  rw [object, keys_fields, map_map]
  simp [Key.isStr]

theorem get_object : get (object fs) name = ((fs.find? fun f => f.1 = name).map Prod.snd).getD .null := by
  rw [get, get?_object]

theorem string_of (found : v.get? (.str (lit name)) = some (.str text)) (letter : blank text = false) :
    string v name context = .ok text := by
  rw [string, get, found]
  dsimp only [Option.getD_some]
  rw [ensure_of letter]
  rfl

theorem stringOr_of {text default : Str} (letter : blank text = false)
    (found : v.get? (.str (lit name)) = some (.str text) ∨ v.get? (.str (lit name)) = none ∧ default = text) :
    stringOr v name context default = .ok text := by
  unfold stringOr
  rcases found with found | ⟨absent, rfl⟩
  · rw [found]
    exact string_of found letter
  · rw [absent]

theorem string_object (found : (fs.find? fun f => f.1 = name).map Prod.snd = some (.str text))
    (letter : blank text = false) :
    string (object fs) name context = .ok text := string_of (get?_object.trans found) letter

theorem rejectUnknown_object {allowed : List String} (known : ∀ f ∈ fs, f.1 ∈ allowed) :
    rejectUnknown (object fs) allowed context = .ok () := by
  refine ensure_of (List.filter_eq_nil_iff.mpr ?_)
  rw [object, pairs_fields, map_map]
  intro key member
  obtain ⟨f, held, rfl⟩ := List.mem_map.mp member
  simpa using ⟨f.1, known f held, rfl⟩

theorem mapM_map {β γ δ : Type} {f : β → Checked γ} {g : δ → β} {h : δ → γ} {xs : List δ}
    (each : ∀ x ∈ xs, f (g x) = .ok (h x)) : (xs.map g).mapM f = .ok (xs.map h) := by
  induction xs with
  | nil => rfl
  | cons x xs ih =>
    rw [map_cons, mapM_cons, each x mem_cons_self, ih fun y member => each y (mem_cons_of_mem _ member)]
    rfl

theorem mapM_zipIdx {β γ δ : Type} {f : β → Nat → Checked γ} {g : δ → β} {h : δ → γ} {xs : List δ}
    (each : ∀ x ∈ xs, ∀ k, f (g x) k = .ok (h x)) (k : Nat) :
    ((xs.map g).zipIdx k).mapM (fun p => f p.1 p.2) = .ok (xs.map h) := by
  induction xs generalizing k with
  | nil => rfl
  | cons x xs ih =>
    rw [map_cons, zipIdx_cons, mapM_cons, each x mem_cons_self,
      ih (fun y member => each y (mem_cons_of_mem _ member))]
    rfl

theorem forM_zipIdx {β : Type} {f : β → Nat → Checked Unit} {P : β → Prop} {xs : List β}
    (each : ∀ x k, f x k = .ok () ↔ P x) (k : Nat) :
    (xs.zipIdx k).forM (fun p => f p.1 p.2) = .ok () ↔ ∀ x ∈ xs, P x := by
  induction xs generalizing k with
  | nil => exact iff_of_true rfl nofun
  | cons x xs ih =>
    have first : ((x :: xs).zipIdx k).forM (fun p => f p.1 p.2) =
      (f x k >>= fun _ => (xs.zipIdx (k + 1)).forM fun p => f p.1 p.2) := rfl
    rw [first, unit_bind_ok, each, ih, forall_mem_cons]

end

/-! ## Sensor inputs -/

structure SensorInput where
  sensorId : Str
  name : Str
  kind : Str
  options : Value .fields

open SensorInput

namespace SensorInput

def postInit (input : SensorInput) : Checked SensorInput := do
  ensure (blank input.sensorId = false) (lit "sensor input sensor_id must not be empty")
  ensure (blank input.name = false) (lit "sensor input name must not be empty")
  ensure (blank input.kind = false) (lit "sensor input kind must not be empty")
  ensure (input.options.keys.all Key.isStr) (lit "sensor input options must be a mapping with string keys")
  return input

def toPayload (input : SensorInput) : Value .value :=
  .dict (object [("sensor_id", .str input.sensorId), ("name", .str input.name), ("type", .str input.kind),
    ("options", .dict input.options)])

end SensorInput

def sensorInput (value : Value .value) (index : Nat) : Checked SensorInput := do
  let context := lit "control config.inputs[" ++ lit (toString index) ++ lit "]"
  let item ← mapping context value
  rejectUnknown item ["sensor_id", "name", "type", "options"] context
  let made : Checked SensorInput := do
    let sensorId ← string item "sensor_id" context
    let name ← string item "name" context
    let kind ← string item "type" context
    let options ← mapping (context ++ lit ".options") (getOptions item "options")
    postInit { sensorId, name, kind, options }
  made.mapError fun error => context ++ lit " is invalid: " ++ error

namespace SensorInput

variable {input : SensorInput}

def listed (input : SensorInput) : SensorInput := { input with options := Verbatim.listed input.options }

theorem postInit_ok : input.postInit = .ok input ↔ blank input.sensorId = false ∧ blank input.name = false ∧
    blank input.kind = false ∧ input.options.keys.all Key.isStr := by
  simp only [postInit, ensure_bind_ok, pure_ok, and_true]

theorem postInit_listed (made : input.postInit = .ok input) : input.listed.postInit = .ok input.listed := by
  rw [postInit_ok] at made ⊢
  exact ⟨made.1, made.2.1, made.2.2.1, by rw [listed, keys_listed]; exact made.2.2.2⟩

theorem listed_payload : Verbatim.listed input.toPayload = input.listed.toPayload :=
  congrArg Value.dict listed_object

theorem read_payload (made : input.postInit = .ok input) (index : Nat) :
    sensorInput input.toPayload index = .ok input := by
  obtain ⟨sensorId, name, kind, options⟩ := postInit_ok.mp made
  unfold sensorInput toPayload
  dsimp only
  rw [mapping_of keys_object, ok_bind, rejectUnknown_object (by simp), ok_bind,
    string_object (by simp) sensorId, ok_bind, string_object (by simp) name, ok_bind,
    string_object (by simp) kind, ok_bind, getOptions, get?_object]
  simp only [List.find?_cons, String.reduceEq, decide_false, decide_true, Option.map_some, Option.getD_some]
  rw [mapping_of options, ok_bind]
  exact congrArg (Except.mapError _) made

end SensorInput

/-! ## Runtime profiles -/

def vvla : Str := lit "vvla"

structure ControlRuntimeProfile where
  runtimeId : Str
  bindingKind : Str
  inferenceTransport : Str
  inferenceEndpoint : Str
  inferenceOptions : Value .fields
  inputs : List SensorInput
  runtimeOptions : Value .fields
  inferenceBackend : Str := vvla

namespace ControlRuntimeProfile

def postInit (profile : ControlRuntimeProfile) : Checked ControlRuntimeProfile := do
  named [("runtime_id", profile.runtimeId), ("binding_kind", profile.bindingKind),
    ("inference_transport", profile.inferenceTransport), ("inference_endpoint", profile.inferenceEndpoint),
    ("inference_backend", profile.inferenceBackend)]
  offered py profile.inferenceBackend profile.inferenceTransport
  let inferenceOptions ← mapping (lit "profile.inference_options") (.dict profile.inferenceOptions)
  let runtimeOptions ← mapping (lit "profile.runtime_options") (.dict profile.runtimeOptions)
  ensure (profile.inputs ≠ []) (lit "control runtime profile inputs must be non-empty")
  ensure (profile.inputs.map name).Nodup (lit "control runtime profile input names must be unique")
  return { profile with inferenceOptions, runtimeOptions }

def toPayload (profile : ControlRuntimeProfile) : Value .value :=
  .dict (object [("binding", .str profile.bindingKind),
    ("inference", .dict (object [("backend", .str profile.inferenceBackend),
      ("transport", .str profile.inferenceTransport), ("endpoint", .str profile.inferenceEndpoint),
      ("options", .dict profile.inferenceOptions)])),
    ("inputs", .list (items (profile.inputs.map SensorInput.toPayload))),
    ("runtime_options", .dict profile.runtimeOptions)])

def fromPayload (runtimeId : Str) (value : Value .value) : Checked ControlRuntimeProfile := do
  let context := lit "control config.runtime_profiles." ++ runtimeId
  let item ← mapping context value
  rejectUnknown item ["binding", "inference", "inputs", "runtime_options"] context
  let inference ← mapping (context ++ lit ".inference") (get item "inference")
  rejectUnknown inference ["backend", "transport", "endpoint", "options"] (context ++ lit ".inference")
  let inputs ← match get item "inputs" with
    | .list (.cons head tail) => Except.ok (elements (.cons head tail))
    | _ => .error (context ++ lit ".inputs must be a non-empty list")
  let bindingKind ← string item "binding" context
  let inferenceBackend ← stringOr inference "backend" (context ++ lit ".inference") vvla
  let inferenceTransport ← string inference "transport" (context ++ lit ".inference")
  let inferenceEndpoint ← string inference "endpoint" (context ++ lit ".inference")
  let inferenceOptions ← mapping (context ++ lit ".inference.options") (getOptions inference "options")
  let inputs ← inputs.zipIdx.mapM fun input => sensorInput input.1 input.2
  let runtimeOptions ← mapping (context ++ lit ".runtime_options") (getOptions item "runtime_options")
  postInit py { runtimeId, bindingKind, inferenceTransport, inferenceEndpoint, inferenceOptions, inputs,
                runtimeOptions, inferenceBackend }

structure Constructed (profile : ControlRuntimeProfile) : Prop where
  inputs : ∀ input ∈ profile.inputs, input.postInit = .ok input
  made : profile.postInit py = .ok profile

def listed (profile : ControlRuntimeProfile) : ControlRuntimeProfile :=
  { profile with
    inferenceOptions := Verbatim.listed profile.inferenceOptions
    inputs := profile.inputs.map SensorInput.listed
    runtimeOptions := Verbatim.listed profile.runtimeOptions }

variable {py} {profile : ControlRuntimeProfile}

theorem postInit_ok : profile.postInit py = .ok profile ↔
    (∀ text ∈ [("runtime_id", profile.runtimeId), ("binding_kind", profile.bindingKind),
      ("inference_transport", profile.inferenceTransport), ("inference_endpoint", profile.inferenceEndpoint),
      ("inference_backend", profile.inferenceBackend)], blank text.2 = false) ∧
    offered py profile.inferenceBackend profile.inferenceTransport = .ok () ∧
    profile.inferenceOptions.keys.all Key.isStr ∧ profile.runtimeOptions.keys.all Key.isStr ∧
    profile.inputs ≠ [] ∧ (profile.inputs.map name).Nodup := by
  unfold postInit
  rw [unit_bind_ok, named_ok, unit_bind_ok, mapping_bind_ok, mapping_bind_ok, ensure_bind_ok, ensure_bind_ok, pure_ok,
    and_iff_left rfl]
variable {inputs : List SensorInput}

theorem names_listed : (inputs.map SensorInput.listed).map SensorInput.name = inputs.map SensorInput.name := by
  rw [map_map]
  rfl

theorem Constructed.listed (made : profile.Constructed py) : profile.listed.Constructed py where
  inputs := List.forall_mem_map.mpr fun input held => SensorInput.postInit_listed (made.inputs input held)
  made := by
    obtain ⟨texts, provider, inference, runtime, some_, names⟩ := postInit_ok.mp made.made
    refine postInit_ok.mpr ⟨texts, provider, ?_, ?_, ?_, ?_⟩
    · rw [ControlRuntimeProfile.listed, keys_listed]
      exact inference
    · rw [ControlRuntimeProfile.listed, keys_listed]
      exact runtime
    · exact fun none_ => some_ (List.map_eq_nil_iff.mp none_)
    · rw [ControlRuntimeProfile.listed, names_listed]
      exact names

theorem listed_inputs : Verbatim.listed (items (inputs.map SensorInput.toPayload)) =
      items ((inputs.map SensorInput.listed).map SensorInput.toPayload) := by
  rw [listed_items, map_map, map_map]
  exact congrArg items (map_congr_left fun input _ => SensorInput.listed_payload)

theorem listed_payload : Verbatim.listed profile.toPayload = profile.listed.toPayload := by
  unfold toPayload
  rw [Verbatim.listed, listed_object]
  simp only [map_cons, map_nil, Verbatim.listed, listed_object, listed_inputs]
  rfl

theorem read_inputs (made : ∀ input ∈ inputs, input.postInit = .ok input) :
    (elements (items (inputs.map SensorInput.toPayload))).zipIdx.mapM (fun p => sensorInput p.1 p.2) = .ok inputs := by
  rw [elements_items, mapM_zipIdx (h := id) (fun input held k => read_payload (made input held) k) 0, map_id]

theorem read_payload (made : profile.Constructed py) :
    fromPayload py profile.runtimeId profile.toPayload = .ok profile := by
  obtain ⟨texts, provider, inference, runtime, some_, names⟩ := postInit_ok.mp made.made
  simp only [forall_mem_cons] at texts
  obtain ⟨runtimeId, bindingKind, transport, endpoint, backend, _⟩ := texts
  have read := read_inputs made.inputs
  obtain ⟨input, inputs, held⟩ := exists_cons_of_ne_nil some_
  unfold fromPayload toPayload
  dsimp only
  rw [mapping_of keys_object, ok_bind, rejectUnknown_object (by simp), ok_bind, get_object]
  simp only [List.find?_cons, String.reduceEq, decide_false, decide_true, Option.map_some, Option.getD_some]
  rw [mapping_of keys_object, ok_bind, rejectUnknown_object (by simp), ok_bind, get_object]
  simp only [List.find?_cons, String.reduceEq, decide_false, decide_true, Option.map_some, Option.getD_some]
  rw [held] at read ⊢
  simp only [map_cons, items] at read ⊢
  rw [ok_bind, string_object (by simp) bindingKind, ok_bind,
    stringOr_of backend (.inl (get?_object.trans (by simp))), ok_bind, string_object (by simp) transport, ok_bind,
    string_object (by simp) endpoint, ok_bind, getOptions, get?_object, getOptions, get?_object]
  simp only [List.find?_cons, String.reduceEq, decide_false, decide_true, Option.map_some, Option.getD_some]
  rw [mapping_of inference, ok_bind, read, ok_bind, mapping_of runtime, ok_bind]
  have same := made.made
  rwa [← held]

end ControlRuntimeProfile

/-! ## The configuration -/

structure ControlServiceConfig where
  runtimeId : Str
  bindingKind : Str
  bind : Str
  port : Value .value
  inferenceTransport : Str
  inferenceEndpoint : Str
  inferenceOptions : Value .fields
  robotId : Str
  robotKind : Str
  robotOptions : Value .fields
  inputs : List SensorInput
  runtimeOptions : Value .fields
  inferenceBackend : Str := vvla
  nodeId : Str := lit "local"
  deviceResources : List (Value .fields) := []
  /-- The items of the `dict`. -/
  runtimeProfiles : List (Str × ControlRuntimeProfile) := []
  inferenceEnabled : Bool := true

namespace ControlServiceConfig

/-- `1 <= port <= 65535`, for an `int`. -/
def inPorts : Value .value → Bool
  | .number (.int port) => 1 ≤ port ∧ port ≤ 65535
  | _ => false

/-- The value under the name is a `str` that is not blank. -/
def texted (item : Value .fields) (name : String) : Bool :=
  match get item name with
  | .str text => blank text = false
  | _ => false

def checkResource (resource : Value .fields) (index : Nat) : Checked Unit := do
  let context := lit "device_resources[" ++ lit (toString index) ++ lit "]"
  let item ← mapping context (.dict resource)
  ensure (texted item "identity") (context ++ lit ".identity must not be empty")
  ensure (texted item "kind") (context ++ lit ".kind must not be empty")

def checkProvider (config : ControlServiceConfig) : Checked Unit :=
  if config.inferenceEnabled then offered py config.inferenceBackend config.inferenceTransport else .ok ()

def postInit (config : ControlServiceConfig) : Checked ControlServiceConfig := do
  named ([("runtime_id", config.runtimeId), ("binding_kind", config.bindingKind), ("bind", config.bind),
      ("robot_id", config.robotId), ("robot_kind", config.robotKind), ("node_id", config.nodeId)] ++
    if config.inferenceEnabled then [("inference_backend", config.inferenceBackend),
      ("inference_transport", config.inferenceTransport), ("inference_endpoint", config.inferenceEndpoint)] else [])
  ensure (config.bind ∈ [lit "127.0.0.1", lit "localhost", lit "::1"])
    (lit "control service must bind to a loopback address")
  ensure (inPorts config.port) (lit "control service port must be between 1 and 65535")
  ensure (config.inferenceEnabled → config.inferenceTransport ∈ [lit "http", lit "wireless"])
    (lit "inference transport must be http or wireless")
  ensure (config.inferenceEnabled = false → config.inferenceTransport = lit "disabled")
    (lit "a device-only control service must use disabled inference")
  checkProvider py config
  let inferenceOptions ← mapping (lit "inference_options") (.dict config.inferenceOptions)
  let robotOptions ← mapping (lit "robot_options") (.dict config.robotOptions)
  let runtimeOptions ← mapping (lit "runtime_options") (.dict config.runtimeOptions)
  config.deviceResources.zipIdx.forM fun resource => checkResource resource.1 resource.2
  ensure (∀ item ∈ config.runtimeProfiles, blank item.1 = false) (lit "runtime_profiles keys must not be empty")
  ensure (∀ item ∈ config.runtimeProfiles, item.1 = item.2.runtimeId)
    (lit "runtime_profiles keys must match runtime_id")
  ensure (config.inferenceEnabled → config.inputs ≠ [])
    (lit "control service inputs must be a non-empty tuple when inference is enabled")
  ensure (config.inputs.map name).Nodup (lit "control service input names must be unique")
  return { config with inferenceOptions, robotOptions, runtimeOptions }

def schema : Str := lit "rlinf.control.config.v1"

/-- `sorted(self.runtime_profiles.items())`: the keys are distinct. -/
def sortedProfiles (config : ControlServiceConfig) : List (Str × ControlRuntimeProfile) :=
  config.runtimeProfiles.mergeSort fun a b => ¬ b.1 < a.1

def inferencePayload (config : ControlServiceConfig) : Value .fields :=
  object (if config.inferenceEnabled then [("backend", .str config.inferenceBackend),
    ("transport", .str config.inferenceTransport), ("endpoint", .str config.inferenceEndpoint),
    ("options", .dict config.inferenceOptions)] else [("enabled", .number (.bool false))])

def requiredFields (config : ControlServiceConfig) : List (String × Value .value) :=
  [("schema", .str schema), ("runtime_id", .str config.runtimeId), ("binding", .str config.bindingKind),
    ("server", .dict (object [("bind", .str config.bind), ("port", config.port)])),
    ("inference", .dict config.inferencePayload),
    ("robot", .dict (object [("id", .str config.robotId), ("type", .str config.robotKind),
      ("options", .dict config.robotOptions)])),
    ("inputs", .list (items (config.inputs.map toPayload))),
    ("runtime_options", .dict config.runtimeOptions)]

def optionalFields (config : ControlServiceConfig) : List (String × Value .value) :=
  (if config.nodeId ≠ lit "local" then [("node_id", .str config.nodeId)] else []) ++
  ((if config.deviceResources ≠ [] then
    [("device_resources", .list (items (config.deviceResources.map .dict)))] else []) ++
  (if config.runtimeProfiles ≠ [] then
    [("runtime_profiles", .dict (fields (config.sortedProfiles.map fun item => (item.1, item.2.toPayload))))] else []))

/-- The payload that is written; where the inference is disabled it says so already. -/
def payload (config : ControlServiceConfig) : List (String × Value .value) :=
  config.requiredFields ++ config.optionalFields

/-- `to_json`; `none` where `json.dumps` raises. -/
def toJson (config : ControlServiceConfig) : Option (Text .value) := write py.limit (.dict (object config.payload))

/-- `inference.get("enabled", True)`. -/
def readEnabled (inference : Value .fields) : Checked Bool :=
  match (inference.get? (.str (lit "enabled"))).getD (.number (.bool true)) with
  | .number (.bool enabled) => .ok enabled
  | _ => .error (lit "control config.inference.enabled must be boolean")

def readInputs (inferenceEnabled : Bool) (root : Value .fields) : Checked (List (Value .value)) :=
  match get root "inputs" with
  | .list inputs => (ensure (inferenceEnabled → elements inputs ≠ [])
      (lit "control config.inputs must be a non-empty list when inference is enabled")).map fun _ => elements inputs
  | _ => .error (lit "control config.inputs must be a non-empty list when inference is enabled")

/-- `root.get("device_resources", [])`. -/
def readResources (root : Value .fields) : Checked (List (Value .value)) :=
  match (root.get? (.str (lit "device_resources"))).getD (.list .nil) with
  | .list resources => .ok (elements resources)
  | _ => .error (lit "control config.device_resources must be a list")

def fromJson (value : Text .value) : Checked ControlServiceConfig := do
  let root ← mapping (lit "control config") value.loads
  ensure (get root "schema" = .str schema) (lit "unsupported control config schema")
  rejectUnknown root ["schema", "runtime_id", "binding", "server", "inference", "robot", "inputs",
    "runtime_options", "node_id", "device_resources", "runtime_profiles"] (lit "control config")
  let server ← mapping (lit "control config.server") (get root "server")
  let inference ← mapping (lit "control config.inference") (get root "inference")
  let robot ← mapping (lit "control config.robot") (get root "robot")
  rejectUnknown server ["bind", "port"] (lit "control config.server")
  rejectUnknown inference ["backend", "transport", "endpoint", "options", "enabled"] (lit "control config.inference")
  rejectUnknown robot ["id", "type", "options"] (lit "control config.robot")
  let inferenceEnabled ← readEnabled inference
  let inputs ← readInputs inferenceEnabled root
  let resources ← readResources root
  let profiles ← mapping (lit "control config.runtime_profiles") (getOptions root "runtime_profiles")
  let runtimeProfiles ← (pairs profiles).mapM fun item => do
    let profile ← ControlRuntimeProfile.fromPayload py item.1 item.2
    return (item.1, profile)
  let inferenceBackend ← stringOr inference "backend" (lit "control config.inference") vvla
  let inferenceTransport ← (if inferenceEnabled then string inference "transport" (lit "control config.inference")
    else .ok (lit "disabled"))
  let inferenceEndpoint ← (if inferenceEnabled then string inference "endpoint" (lit "control config.inference")
    else .ok [])
  let runtimeId ← string root "runtime_id" (lit "control config")
  let bindingKind ← string root "binding" (lit "control config")
  let bind ← string server "bind" (lit "control config.server")
  let inferenceOptions ← mapping (lit "control config.inference.options") (getOptions inference "options")
  let robotId ← string robot "id" (lit "control config.robot")
  let robotKind ← string robot "type" (lit "control config.robot")
  let robotOptions ← mapping (lit "control config.robot.options") (getOptions robot "options")
  let inputs ← inputs.zipIdx.mapM fun input => sensorInput input.1 input.2
  let runtimeOptions ← mapping (lit "control config.runtime_options") (getOptions root "runtime_options")
  let nodeId ← stringOr root "node_id" (lit "control config") (lit "local")
  let deviceResources ← resources.zipIdx.mapM fun resource =>
    mapping (lit "control config.device_resources[" ++ lit (toString resource.2) ++ lit "]") resource.1
  postInit py { runtimeId, bindingKind, bind, port := get server "port", inferenceTransport, inferenceEndpoint,
                inferenceOptions, robotId, robotKind, robotOptions, inputs, runtimeOptions, inferenceBackend, nodeId,
                deviceResources, runtimeProfiles, inferenceEnabled }

/-! ## What is read back -/

/-- A configuration that its constructor has made, of inputs and profiles that theirs have made; a `dict`
holds a key once. -/
structure Constructed (config : ControlServiceConfig) : Prop where
  inputs : ∀ input ∈ config.inputs, input.postInit = .ok input
  profiles : ∀ item ∈ config.runtimeProfiles, item.2.Constructed py
  distinct : (config.runtimeProfiles.map Prod.fst).Nodup
  made : config.postInit py = .ok config

def listed (config : ControlServiceConfig) : ControlServiceConfig :=
  { config with
    inferenceOptions := Verbatim.listed config.inferenceOptions
    robotOptions := Verbatim.listed config.robotOptions
    inputs := config.inputs.map SensorInput.listed
    runtimeOptions := Verbatim.listed config.runtimeOptions
    deviceResources := config.deviceResources.map Verbatim.listed
    runtimeProfiles := config.runtimeProfiles.map fun item => (item.1, item.2.listed) }

/-- The configuration as `device_only` builds it, where it has no inference. -/
def restored (config : ControlServiceConfig) : ControlServiceConfig :=
  if config.inferenceEnabled then config
  else { config with inferenceBackend := vvla, inferenceEndpoint := [], inferenceOptions := .empty }

variable {py} {config : ControlServiceConfig}

/-- What `__post_init__` requires of a resource. -/
def Described (resource : Value .fields) : Prop :=
  resource.keys.all Key.isStr ∧ texted resource "identity" ∧ texted resource "kind"
variable {resource : Value .fields} {name : String}

theorem checkResource_ok {index} : checkResource resource index = .ok () ↔ Described resource := by
  unfold checkResource
  rw [mapping_bind_ok, ensure_bind_ok, ensure_ok_iff]
  rfl

/-- What `__post_init__` requires. -/
structure Valid (py : Process) (config : ControlServiceConfig) : Prop where
  texts : ∀ text ∈ [("runtime_id", config.runtimeId), ("binding_kind", config.bindingKind), ("bind", config.bind),
      ("robot_id", config.robotId), ("robot_kind", config.robotKind), ("node_id", config.nodeId)] ++
    if config.inferenceEnabled then [("inference_backend", config.inferenceBackend),
      ("inference_transport", config.inferenceTransport), ("inference_endpoint", config.inferenceEndpoint)] else [],
    blank text.2 = false
  loopback : config.bind ∈ [lit "127.0.0.1", lit "localhost", lit "::1"]
  port : inPorts config.port
  transport : config.inferenceEnabled → config.inferenceTransport ∈ [lit "http", lit "wireless"]
  disabled : config.inferenceEnabled = false → config.inferenceTransport = lit "disabled"
  provider : checkProvider py config = .ok ()
  inferenceOptions : config.inferenceOptions.keys.all Key.isStr
  robotOptions : config.robotOptions.keys.all Key.isStr
  runtimeOptions : config.runtimeOptions.keys.all Key.isStr
  resources : ∀ resource ∈ config.deviceResources, Described resource
  profileKeys : ∀ item ∈ config.runtimeProfiles, blank item.1 = false
  profileIds : ∀ item ∈ config.runtimeProfiles, item.1 = item.2.runtimeId
  someInputs : config.inferenceEnabled → config.inputs ≠ []
  inputNames : (config.inputs.map SensorInput.name).Nodup

theorem postInit_ok : config.postInit py = .ok config ↔ config.Valid py := by
  unfold postInit
  rw [unit_bind_ok, named_ok, ensure_bind_ok, ensure_bind_ok, ensure_bind_ok, ensure_bind_ok, unit_bind_ok,
    mapping_bind_ok, mapping_bind_ok, mapping_bind_ok, unit_bind_ok,
    forM_zipIdx (f := checkResource) (P := Described) (fun _ _ => checkResource_ok) 0, ensure_bind_ok,
    ensure_bind_ok, ensure_bind_ok, ensure_bind_ok, pure_ok, and_iff_left rfl]
  constructor
  · rintro ⟨texts, loopback, port, transport, disabled, provider, inferenceOptions, robotOptions, runtimeOptions,
      resources, profileKeys, profileIds, someInputs, inputNames⟩
    exact { texts, loopback, port, transport, disabled, provider, inferenceOptions, robotOptions, runtimeOptions,
            resources, profileKeys, profileIds, someInputs, inputNames }
  · intro valid
    exact ⟨valid.texts, valid.loopback, valid.port, valid.transport, valid.disabled, valid.provider,
      valid.inferenceOptions, valid.robotOptions, valid.runtimeOptions, valid.resources, valid.profileKeys,
      valid.profileIds, valid.someInputs, valid.inputNames⟩

theorem described_listed (described : Described resource) : Described (Verbatim.listed resource) := by
  have same (name : String) : texted (Verbatim.listed resource) name = texted resource name := by
    unfold texted get
    rw [get?_listed]
    cases found : resource.get? (.str (lit name)) with
    | none => rfl
    | some value => cases value <;> rfl
  unfold Described
  rw [keys_listed, same, same]
  exact described

theorem Constructed.listed (made : config.Constructed py) : config.listed.Constructed py := by
  have valid := postInit_ok.mp made.made
  refine ⟨?_, ?_, ?_, postInit_ok.mpr ?_⟩
  · exact List.forall_mem_map.mpr fun input held => postInit_listed (made.inputs input held)
  · exact List.forall_mem_map.mpr fun item held => (made.profiles item held).listed
  · have keys : (config.listed.runtimeProfiles.map Prod.fst) = config.runtimeProfiles.map Prod.fst := by
      rw [ControlServiceConfig.listed, map_map]
      rfl
    rw [keys]
    exact made.distinct
  · exact {
      texts := valid.texts
      loopback := valid.loopback
      port := valid.port
      transport := valid.transport
      disabled := valid.disabled
      provider := valid.provider
      inferenceOptions := by rw [ControlServiceConfig.listed, keys_listed]; exact valid.inferenceOptions
      robotOptions := by rw [ControlServiceConfig.listed, keys_listed]; exact valid.robotOptions
      runtimeOptions := by rw [ControlServiceConfig.listed, keys_listed]; exact valid.runtimeOptions
      resources := List.forall_mem_map.mpr fun resource held => described_listed (valid.resources resource held)
      profileKeys := List.forall_mem_map.mpr fun item held => valid.profileKeys item held
      profileIds := List.forall_mem_map.mpr fun item held => valid.profileIds item held
      someInputs := fun enabled none_ => valid.someInputs enabled (List.map_eq_nil_iff.mp none_)
      inputNames := by
        rw [ControlServiceConfig.listed, ControlRuntimeProfile.names_listed]
        exact valid.inputNames }

def sorted (config : ControlServiceConfig) : ControlServiceConfig :=
  { config with runtimeProfiles := config.sortedProfiles }

theorem sortedProfiles_perm : config.sortedProfiles.Perm config.runtimeProfiles := mergeSort_perm _ _

theorem valid_restored (made : config.Constructed py) : config.sorted.restored.Valid py := by
  have valid := postInit_ok.mp made.made
  have held {item : Str × ControlRuntimeProfile} (member : item ∈ config.sortedProfiles) :
      item ∈ config.runtimeProfiles := sortedProfiles_perm.mem_iff.mp member
  have sorted : config.sorted.Valid py :=
    { valid with
      profileKeys := fun item member => valid.profileKeys item (held member)
      profileIds := fun item member => valid.profileIds item (held member) }
  unfold restored
  split
  case isTrue => exact sorted
  case isFalse disabled =>
    have disabled : config.inferenceEnabled = false := Bool.not_eq_true _ ▸ disabled
    exact { sorted with
        texts := by
          have texts := sorted.texts
          simp only [ControlServiceConfig.sorted, disabled] at texts ⊢
          exact texts
        provider := by
          unfold checkProvider
          exact if_neg (by simp [ControlServiceConfig.sorted, disabled])
        inferenceOptions := rfl }

theorem names_payload : (config.payload.map Prod.fst).Sublist ["schema", "runtime_id", "binding", "server",
    "inference", "robot", "inputs", "runtime_options", "node_id", "device_resources", "runtime_profiles"] := by
  have optional {p : Prop} [Decidable p] {name : String} {v : Value .value} :
      ((if p then [(name, v)] else []).map Prod.fst).Sublist [name] := by
    split
    · exact List.Sublist.refl _
    · exact nil_sublist _
  unfold payload optionalFields
  rw [map_append, map_append, map_append]
  exact (List.Sublist.refl _).append (optional.append (optional.append optional))

theorem get?_required {v} (found : (config.requiredFields.find? fun f => f.1 = name).map Prod.snd = some v) :
    (object config.payload).get? (.str (lit name)) = some v := by
  obtain ⟨f, here, rfl⟩ := Option.map_eq_some_iff.mp found
  rw [get?_object, payload, List.find?_append, here]
  rfl

theorem get_required {v : Value .value}
    (found : (config.requiredFields.find? fun f => f.1 = name).map Prod.snd = some v) :
    get (object config.payload) name = v := by
  rw [get, get?_required found]
  rfl

theorem get?_optional (absent : (config.requiredFields.find? fun f => f.1 = name) = none) :
    (object config.payload).get? (.str (lit name)) =
      (config.optionalFields.find? fun f => f.1 = name).map Prod.snd := by
  rw [get?_object, payload, List.find?_append, absent, Option.none_or]

theorem get?_nodeId : (object config.payload).get? (.str (lit "node_id")) =
    if config.nodeId ≠ lit "local" then some (.str config.nodeId) else none := by
  rw [get?_optional (by simp [requiredFields])]
  unfold optionalFields
  split <;> split <;> split <;> simp

theorem get?_resources : ((object config.payload).get? (.str (lit "device_resources"))).getD (.list .nil) =
    .list (items (config.deviceResources.map .dict)) := by
  rw [get?_optional (by simp [requiredFields])]
  unfold optionalFields
  by_cases none_ : config.deviceResources = []
  · rw [none_]
    split <;> split <;> split <;> simp [items]
  · rw [if_pos none_]
    split <;> simp

theorem get?_profiles : getOptions (object config.payload) "runtime_profiles" =
    .dict (fields (config.sortedProfiles.map fun item => (item.1, item.2.toPayload))) := by
  rw [getOptions, get?_optional (by simp [requiredFields])]
  unfold optionalFields
  by_cases none_ : config.runtimeProfiles = []
  · have none' : config.sortedProfiles = [] := by
      rw [sortedProfiles, none_, mergeSort_nil]
    rw [none_, none']
    split <;> split <;> simp [fields]
  · rw [if_pos none_]
    split <;> split <;> simp

theorem readEnabled_payload : readEnabled config.inferencePayload = .ok config.inferenceEnabled := by
  unfold readEnabled inferencePayload
  rw [get?_object]
  cases config.inferenceEnabled <;> simp

theorem readInputs_payload (made : config.Constructed py) :
    readInputs config.inferenceEnabled (object config.payload) =
    .ok (elements (items (config.inputs.map toPayload))) := by
  have some_ : config.inferenceEnabled → elements (items (config.inputs.map toPayload)) ≠ [] := by
    rw [elements_items]
    exact fun enabled none_ => (postInit_ok.mp made.made).someInputs enabled (List.map_eq_nil_iff.mp none_)
  have found : get (object config.payload) "inputs" = .list (items (config.inputs.map toPayload)) :=
    get_required (by simp [requiredFields])
  unfold readInputs
  rw [found]
  dsimp only
  rw [ensure_of some_]
  rfl

theorem readResources_payload : readResources (object config.payload) = .ok (config.deviceResources.map .dict) := by
  unfold readResources
  rw [get?_resources]
  dsimp only
  rw [elements_items]

theorem readProfiles_payload (made : config.Constructed py) :
    (config.sortedProfiles.map fun item => (item.1, item.2.toPayload)).mapM (fun item => do
      let profile ← ControlRuntimeProfile.fromPayload py item.1 item.2
      return (item.1, profile)) = .ok config.sortedProfiles := by
  rw [mapM_map (h := id), map_id]
  intro item member
  have held := sortedProfiles_perm.mem_iff.mp member
  rw [(postInit_ok.mp made.made).profileIds item held,
    ControlRuntimeProfile.read_payload (made.profiles item held), ok_bind,
    ← (postInit_ok.mp made.made).profileIds item held]
  rfl

/-- What `from_json` reads of the inference. -/
structure ReadsInference (config : ControlServiceConfig) : Prop where
  known : rejectUnknown config.inferencePayload ["backend", "transport", "endpoint", "options", "enabled"]
    (lit "control config.inference") = .ok ()
  backend : stringOr config.inferencePayload "backend" (lit "control config.inference") vvla =
    .ok config.restored.inferenceBackend
  transport : (if config.inferenceEnabled then
      string config.inferencePayload "transport" (lit "control config.inference")
    else .ok (lit "disabled")) = .ok config.inferenceTransport
  endpoint : (if config.inferenceEnabled then
      string config.inferencePayload "endpoint" (lit "control config.inference")
    else .ok []) = .ok config.restored.inferenceEndpoint
  options : getOptions config.inferencePayload "options" = .dict config.restored.inferenceOptions
  keys : config.restored.inferenceOptions.keys.all Key.isStr

theorem readsInference (valid : config.Valid py) : config.ReadsInference := by
  have texts := valid.texts
  cases enabled : config.inferenceEnabled with
  | true =>
    simp only [enabled, if_true, cons_append, nil_append, forall_mem_cons] at texts
    obtain ⟨_, _, _, _, _, _, backend, transport, endpoint, _⟩ := texts
    have restored : config.restored = config := if_pos enabled
    have written : config.inferencePayload = object [("backend", .str config.inferenceBackend),
        ("transport", .str config.inferenceTransport), ("endpoint", .str config.inferenceEndpoint),
        ("options", .dict config.inferenceOptions)] := by
      rw [inferencePayload, if_pos enabled]
    exact {
      known := by
        rw [written]
        exact rejectUnknown_object (by simp)
      backend := by
        rw [written, restored]
        exact stringOr_of backend (.inl (get?_object.trans (by simp)))
      transport := by
        rw [if_pos enabled, written]
        exact string_object (by simp) transport
      endpoint := by
        rw [if_pos enabled, written, restored]
        exact string_object (by simp) endpoint
      options := by
        rw [written, restored, getOptions, get?_object]
        simp
      keys := by
        rw [restored]
        exact valid.inferenceOptions }
  | false =>
    have off : ¬config.inferenceEnabled = true := by simp [enabled]
    have written : config.inferencePayload = object [("enabled", .number (.bool false))] := by
      rw [inferencePayload, if_neg off]
    have restored : config.restored =
        { config with inferenceBackend := vvla, inferenceEndpoint := [], inferenceOptions := .empty } :=
          if_neg off
    exact {
      known := by
        rw [written]
        exact rejectUnknown_object (by simp)
      backend := by
        rw [written, restored, stringOr, get?_object]
        simp
      transport := by rw [if_neg off, valid.disabled enabled]
      endpoint := by rw [if_neg off, restored]
      options := by
        rw [written, restored, getOptions, get?_object]
        simp
      keys := by
        rw [restored]
        rfl }

theorem restored_eq : config.sorted.restored = { config.sorted with
      inferenceBackend := config.restored.inferenceBackend
      inferenceEndpoint := config.restored.inferenceEndpoint
      inferenceOptions := config.restored.inferenceOptions } := by
  have same : config.sorted.inferenceEnabled = config.inferenceEnabled := rfl
  unfold restored
  rw [same]
  split <;> rfl

theorem read_payload {value : Text .value} (made : config.Constructed py)
    (loads : value.loads = .dict (object config.payload)) : fromJson py value = .ok config.sorted.restored := by
  have valid := postInit_ok.mp made.made
  have texts := valid.texts
  simp only [cons_append, nil_append, forall_mem_cons] at texts
  obtain ⟨runtimeId, bindingKind, bind, robotId, robotKind, nodeId, _⟩ := texts
  have inference := readsInference valid
  have node : (object config.payload).get? (.str (lit "node_id")) = some (.str config.nodeId) ∨
      (object config.payload).get? (.str (lit "node_id")) = none ∧ lit "local" = config.nodeId := by
    rw [get?_nodeId]
    by_cases local_ : config.nodeId = lit "local"
    · exact .inr ⟨if_neg (not_not.mpr local_), local_.symm⟩
    · exact .inl (if_pos local_)
  have again := postInit_ok.mpr (valid_restored made)
  have known : ∀ f ∈ config.payload, f.1 ∈ ["schema", "runtime_id", "binding", "server",
      "inference", "robot", "inputs", "runtime_options", "node_id", "device_resources", "runtime_profiles"] :=
    fun f held => names_payload.subset (mem_map_of_mem held)
  have resources : (config.deviceResources.map Value.dict).zipIdx.mapM (fun resource =>
      mapping (lit "control config.device_resources[" ++ lit (toString resource.2) ++ lit "]") resource.1) =
      .ok config.deviceResources := by
    refine (mapM_zipIdx (g := Value.dict) (h := id)
      (f := fun v k => mapping (lit "control config.device_resources[" ++ lit (toString k) ++ lit "]") v)
      (fun resource held k => mapping_of (valid.resources resource held).1) 0).trans ?_
    rw [map_id]
  have profileKeys :
      (fields (config.sortedProfiles.map fun item => (item.1, item.2.toPayload))).keys.all Key.isStr := by
    rw [keys_fields]
    simp [Key.isStr]
  have schema_ : get (object config.payload) "schema" = .str schema := get_required (by simp [requiredFields])
  have server : get (object config.payload) "server" =
      .dict (object [("bind", .str config.bind), ("port", config.port)]) := get_required (by simp [requiredFields])
  have inference_ : get (object config.payload) "inference" = .dict config.inferencePayload :=
    get_required (by simp [requiredFields])
  have robot : get (object config.payload) "robot" = .dict (object [("id", .str config.robotId),
      ("type", .str config.robotKind), ("options", .dict config.robotOptions)]) :=
    get_required (by simp [requiredFields])
  have robotOptions : getOptions (object [("id", .str config.robotId), ("type", .str config.robotKind),
      ("options", .dict config.robotOptions)]) "options" = .dict config.robotOptions := by
    rw [getOptions, get?_object]
    simp
  have runtimeOptions : getOptions (object config.payload) "runtime_options" = .dict config.runtimeOptions := by
    have found : (object config.payload).get? (.str (lit "runtime_options")) = some (.dict config.runtimeOptions) :=
      get?_required (by simp [requiredFields])
    rw [getOptions, found]
    rfl
  have port : get (object [("bind", .str config.bind), ("port", config.port)]) "port" = config.port := by
    rw [get_object]
    simp
  unfold fromJson
  rw [loads, mapping_of keys_object, ok_bind, ensure_of schema_, ok_bind, rejectUnknown_object known, ok_bind, server,
    mapping_of keys_object, ok_bind, inference_, mapping_of (v := config.inferencePayload) keys_object, ok_bind, robot,
    mapping_of keys_object, ok_bind, rejectUnknown_object (by simp), ok_bind, inference.known, ok_bind,
    rejectUnknown_object (by simp), ok_bind, readEnabled_payload, ok_bind, readInputs_payload made, ok_bind,
    readResources_payload, ok_bind, get?_profiles, mapping_of profileKeys, ok_bind, pairs_fields,
    readProfiles_payload made, ok_bind, inference.backend, ok_bind, inference.transport, ok_bind, inference.endpoint,
    ok_bind, string_of (get?_required (by simp [requiredFields])) runtimeId, ok_bind,
    string_of (get?_required (by simp [requiredFields])) bindingKind, ok_bind,
    string_object (by simp) bind, ok_bind, inference.options, mapping_of inference.keys, ok_bind,
    string_object (by simp) robotId, ok_bind, string_object (by simp) robotKind, ok_bind, robotOptions,
    mapping_of valid.robotOptions, ok_bind, ControlRuntimeProfile.read_inputs made.inputs, ok_bind, runtimeOptions,
    mapping_of valid.runtimeOptions, ok_bind, stringOr_of nodeId node, ok_bind, resources, ok_bind, port]
  rw [restored_eq] at again ⊢
  exact again

end ControlServiceConfig

end EmbodiRun.Application.Contracts
