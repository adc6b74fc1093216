/-
# Application.RoundTrip -- a configuration is written as JSON and read back

The payload of `to_json` has a JSON when the options of the configuration do, and in the text the tuples of
the options are lists.
-/
import EmbodiRun.Application.Contracts

namespace EmbodiRun.Application.Contracts

open EmbodiRun.Data EmbodiRun.Data.Verbatim List
open EmbodiRun.Data.Reread (Str Key Value)

namespace ControlServiceConfig

variable {py : Process} {config : ControlServiceConfig}

/-! ## Lists for tuples -/

theorem listed_sorted :
    config.listed.sortedProfiles = config.sortedProfiles.map fun item => (item.1, item.2.listed) := by
  let list (item : Str × ControlRuntimeProfile) : Str × ControlRuntimeProfile := (item.1, item.2.listed)
  exact (map_mergeSort (f := list) (s := fun a b => ¬ b.1 < a.1) fun _ _ _ _ => rfl).symm

theorem listed_inferencePayload : Verbatim.listed config.inferencePayload = config.listed.inferencePayload := by
  have same : config.listed.inferenceEnabled = config.inferenceEnabled := rfl
  unfold inferencePayload
  rw [listed_object, same]
  split <;> rfl

theorem listed_requiredFields (valid : config.Valid py) :
    config.requiredFields.map (fun f => (f.1, Verbatim.listed f.2)) = config.listed.requiredFields := by
  have port : Verbatim.listed config.port = config.port := by
    have valid := valid.port
    cases held : config.port <;> first | rfl | (rw [held] at valid; cases valid)
  unfold requiredFields
  simp only [map_cons, map_nil, Verbatim.listed, listed_object, listed_inferencePayload,
    ControlRuntimeProfile.listed_inputs, port]
  rfl

theorem listed_optionalFields :
    config.optionalFields.map (fun f => (f.1, Verbatim.listed f.2)) = config.listed.optionalFields := by
  unfold optionalFields
  rw [map_append, map_append]
  refine congrArg₂ (· ++ ·) ?_ (congrArg₂ (· ++ ·) ?_ ?_)
  · have same : config.listed.nodeId = config.nodeId := rfl
    rw [same]
    split <;> rfl
  · have same : config.listed.deviceResources ≠ [] ↔ config.deviceResources ≠ [] :=
    not_congr map_eq_nil_iff
    simp only [same]
    split
    · simp only [map_cons, map_nil, Verbatim.listed, listed_items, map_map, ControlServiceConfig.listed]
      rfl
    · rfl
  · have same : config.listed.runtimeProfiles ≠ [] ↔ config.runtimeProfiles ≠ [] :=
    not_congr map_eq_nil_iff
    simp only [same]
    split
    · simp only [map_cons, map_nil, Verbatim.listed, listed_fields, map_map, listed_sorted,
        Function.comp_def, ControlRuntimeProfile.listed_payload]
    · rfl

theorem listed_payload (valid : config.Valid py) :
    Verbatim.listed (object config.payload) = object config.listed.payload := by
  rw [listed_object, payload, map_append, listed_requiredFields valid, listed_optionalFields]
  rfl

/-! ## What is written -/

structure Representable (limit : Nat) (config : ControlServiceConfig) : Prop where
  inferenceOptions : Plain limit config.inferenceOptions
  robotOptions : Plain limit config.robotOptions
  runtimeOptions : Plain limit config.runtimeOptions
  inputs : ∀ input ∈ config.inputs, Plain limit input.options
  resources : ∀ resource ∈ config.deviceResources, Plain limit resource
  profiles : ∀ item ∈ config.runtimeProfiles, Plain limit item.2.inferenceOptions ∧
    Plain limit item.2.runtimeOptions ∧ ∀ input ∈ item.2.inputs, Plain limit input.options

variable {limit : Nat}

theorem plain_bool {b : Bool} : Plain limit (.number (.bool b)) := ⟨rfl, rfl⟩

theorem plain_input {input : SensorInput} (plain : Plain limit input.options) : Plain limit input.toPayload :=
  plain_object (by simp) (by simp [plain_str, plain_dict plain])

theorem plain_inputs {inputs : List SensorInput} (plain : ∀ input ∈ inputs, Plain limit input.options) :
    Plain limit (.list (items (inputs.map SensorInput.toPayload))) :=
  plain_items (List.forall_mem_map.mpr fun input held => plain_input (plain input held))

theorem plain_profile {profile : ControlRuntimeProfile} (plain : Plain limit profile.inferenceOptions ∧
    Plain limit profile.runtimeOptions ∧ ∀ input ∈ profile.inputs, Plain limit input.options) :
    Plain limit profile.toPayload := by
  obtain ⟨inference, runtime, inputs⟩ := plain
  have service : Plain limit (.dict (object [("backend", .str profile.inferenceBackend),
      ("transport", .str profile.inferenceTransport), ("endpoint", .str profile.inferenceEndpoint),
      ("options", .dict profile.inferenceOptions)])) :=
    plain_object (by simp) (by simp [plain_str, plain_dict inference])
  exact plain_object (by simp) (by simp [plain_str, plain_dict runtime, plain_inputs inputs, service])

theorem plain_port (valid : config.Valid py) : Plain py.limit config.port := by
  have within := valid.port
  unfold inPorts at within
  split at within
  case h_1 port held =>
    rw [held]
    refine ⟨rfl, ?_⟩
    have bounds : 1 ≤ port ∧ port ≤ 65535 := of_decide_eq_true within
    have small : port.natAbs < 10 ^ 5 := by omega
    show decide (py.limit = 0 ∨ port.natAbs < 10 ^ py.limit) = true
    rcases py.limits with none_ | long
    · exact decide_eq_true (.inl none_)
    · exact decide_eq_true (.inr (lt_of_lt_of_le small (Nat.pow_le_pow_right (by decide) (by omega))))
  case h_2 => cases within

theorem plain_payload (made : config.Constructed py) (plain : config.Representable py.limit) :
    Plain py.limit (.dict (object config.payload)) := by
  have valid := postInit_ok.mp made.made
  have names : (config.payload.map Prod.fst).Nodup := names_payload.nodup (by simp)
  have server : Plain py.limit (.dict (object [("bind", .str config.bind), ("port", config.port)])) :=
    plain_object (by simp) (by simp [plain_str, plain_port valid])
  have robot : Plain py.limit (.dict (object [("id", .str config.robotId), ("type", .str config.robotKind),
      ("options", .dict config.robotOptions)])) :=
    plain_object (by simp) (by simp [plain_str, plain_dict plain.robotOptions])
  have inference : Plain py.limit (.dict config.inferencePayload) := by
    unfold inferencePayload
    split
    · exact plain_object (by simp) (by simp [plain_str, plain_dict plain.inferenceOptions])
    · exact plain_object (by simp) (by simp [plain_bool])
  have resources : Plain py.limit (.list (items (config.deviceResources.map .dict))) :=
    plain_items (List.forall_mem_map.mpr fun resource held => plain_dict (plain.resources resource held))
  have profiles : Plain py.limit
      (.dict (fields (config.sortedProfiles.map fun item => (item.1, item.2.toPayload)))) := by
    refine plain_fields ?_ (List.forall_mem_map.mpr fun item held =>
      plain_profile (plain.profiles item (sortedProfiles_perm.mem_iff.mp held)))
    rw [map_map]
    exact (sortedProfiles_perm.map Prod.fst).nodup_iff.mpr made.distinct
  refine plain_object names fun f held => ?_
  rcases List.mem_append.mp held with required | optional
  · simp only [requiredFields, mem_cons, not_mem_nil, or_false] at required
    rcases required with rfl | rfl | rfl | rfl | rfl | rfl | rfl | rfl
    · exact plain_str
    · exact plain_str
    · exact plain_str
    · exact server
    · exact inference
    · exact robot
    · exact plain_inputs plain.inputs
    · exact plain_dict plain.runtimeOptions
  · have given {p : Prop} [Decidable p] {g : String × Value .value} (there : f ∈ if p then [g] else []) : f = g := by
      split at there
      · exact List.mem_singleton.mp there
      · cases there
    unfold optionalFields at optional
    rcases List.mem_append.mp optional with node | others
    · rw [given node]
      exact plain_str
    rcases List.mem_append.mp others with resource | profile
    · rw [given resource]
      exact resources
    · rw [given profile]
      exact profiles

/-! ## The round trip -/

/-- `==`: a `dict` has no order. -/
def Same (a b : ControlServiceConfig) : Prop :=
  a.runtimeProfiles.Perm b.runtimeProfiles ∧ { a with runtimeProfiles := [] } = { b with runtimeProfiles := [] }

theorem read_back (made : config.Constructed py) (plain : config.Representable py.limit) :
    ∃ text, config.toJson py = some text ∧ fromJson py text = .ok config.listed.sorted.restored := by
  have written := plain_payload made plain
  obtain ⟨text, dumped⟩ := written.written
  refine ⟨text, dumped, read_payload made.listed ?_⟩
  rw [loads_write written.1 dumped, Verbatim.listed, listed_payload (postInit_ok.mp made.made)]

theorem same_sorted : config.sorted.restored.Same config.restored := by
  have same : config.sorted.inferenceEnabled = config.inferenceEnabled := rfl
  unfold restored
  rw [same]
  split <;> exact ⟨sortedProfiles_perm, rfl⟩

/-- **The generated configuration round-trips**, but for the inference of a device-only service. -/
theorem round_trip (made : config.Constructed py) (plain : config.Representable py.limit) :
    ∃ text read, config.toJson py = some text ∧ fromJson py text = .ok read ∧
    read.Same config.listed.restored := by
  obtain ⟨text, written, read⟩ := read_back made plain
  exact ⟨text, _, written, read, same_sorted⟩

/-- A process with the provider `vvla`, that writes every `int`. -/
def bench : Process where
  provider name := if name = vvla then some ⟨[lit "http", lit "wireless"], true⟩ else none
  repr text := text
  limit := 0
  limits := .inl rfl

def camera : SensorInput where
  sensorId := lit "cam0"
  name := lit "front"
  kind := lit "camera"
  options := .field (.str (lit "size"))
    (.tuple (.cons (.number (.int 640)) (.cons (.number (.int 480)) .nil))) .empty

def deviceOnly (inferenceBackend : Str) : ControlServiceConfig where
  runtimeId := lit "arm"
  bindingKind := lit "device-only"
  bind := lit "127.0.0.1"
  port := .number (.int 9000)
  inferenceTransport := lit "disabled"
  inferenceEndpoint := []
  inferenceOptions := .empty
  robotId := lit "arm"
  robotKind := lit "xlerobot"
  robotOptions := .empty
  inputs := [camera]
  runtimeOptions := .empty
  inferenceBackend
  inferenceEnabled := false

theorem constructed_deviceOnly (backend : Str) : (deviceOnly backend).Constructed bench where
  inputs := List.forall_mem_singleton.mpr (SensorInput.postInit_ok.mpr (by decide +kernel))
  profiles := nofun
  distinct := nodup_nil
  made := postInit_ok.mpr {
    texts := by
      have texts : ∀ text ∈ [("runtime_id", lit "arm"), ("binding_kind", lit "device-only"), ("bind", lit "127.0.0.1"),
          ("robot_id", lit "arm"), ("robot_kind", lit "xlerobot"), ("node_id", lit "local")],
          blank text.2 = false := by decide +kernel
      rw [if_neg (show ¬(deviceOnly backend).inferenceEnabled = true from nofun), append_nil]
      exact texts
    loopback := mem_cons_self
    port := rfl
    transport := nofun
    disabled := fun _ => rfl
    provider := rfl
    inferenceOptions := rfl
    robotOptions := rfl
    runtimeOptions := rfl
    resources := nofun
    profileKeys := nofun
    profileIds := nofun
    someInputs := nofun
    inputNames := nodup_singleton _ }

theorem representable_deviceOnly (backend : Str) : (deviceOnly backend).Representable 0 where
  inferenceOptions := ⟨trivial, trivial⟩
  robotOptions := ⟨trivial, trivial⟩
  runtimeOptions := ⟨trivial, trivial⟩
  inputs := List.forall_mem_singleton.mpr ⟨by simp [camera, Value.IsJson, Value.get?, Number.isFinite],
    by simp [camera, Value.Every, Value.printable]⟩
  resources := nofun
  profiles := nofun

/-- A device-only service is read back with a list for the size of its camera. -/
theorem round_trip_deviceOnly : ∃ text read, (deviceOnly vvla).toJson bench = some text ∧
    fromJson bench text = .ok read ∧ read.Same (deviceOnly vvla).listed.restored :=
  round_trip (constructed_deviceOnly vvla) (representable_deviceOnly vvla)

/-- The backend of a device-only service is not written. -/
theorem backend_forgotten : ¬∀ (py : Process) (config : ControlServiceConfig), config.Constructed py →
    config.Representable py.limit →
      ∃ text read, config.toJson py = some text ∧ fromJson py text = .ok read ∧ read.Same config.listed := by
  intro all
  have made := constructed_deviceOnly (lit "sglang")
  have plain := representable_deviceOnly (lit "sglang")
  obtain ⟨text, read, written, loaded, same⟩ := all bench _ made plain
  obtain ⟨text', written', loaded'⟩ := read_back made plain
  obtain rfl := Option.some.inj (written.symm.trans written')
  obtain rfl := Except.ok.inj (loaded.symm.trans loaded')
  have backend : vvla = lit "sglang" := congrArg inferenceBackend same.2
  exact absurd (lit_injective backend) (by decide)

end ControlServiceConfig

end EmbodiRun.Application.Contracts
