/-
# Deployment.Views -- what each runtime sees of a merged control service

The runtimes of one robot share a control service.  Its configuration keeps the profile of each
of them, and one list of device resources, in which a resource that several declare is one item
with all their sensor names.  A sensor input finds its physical resource in that list by name.

* `merged_views`: **every runtime keeps its profile and its sensors, where the configurations are
  as the plan writes them and no sensor name stands for two resources**.
-/
import EmbodiRun.Application.Identity
import EmbodiRun.Data.Dict
import EmbodiRun.Data.Folds
import EmbodiRun.Http.Fields

namespace EmbodiRun.Deployment.Views

open Application Data Devices List Dict Http

/-! ## Configurations -/

structure SensorInput where
  sensorId : Text
  name : Text
  kind : Text
  options : Fields

structure ControlRuntimeProfile where
  runtimeId : Text
  bindingKind : Text
  inferenceBackend : Text
  inferenceTransport : Text
  inferenceEndpoint : Text
  inferenceOptions : Fields
  inputs : List SensorInput
  runtimeOptions : Fields

/-- An item of `device_resources`, with what is read of it; its identity and kind are checked. -/
structure Resource where
  identity : Text
  kind : Text
  node : Option Value
  value : Option Value
  owner : Option Value
  sensorId : Option Value := none
  sensorIds : Option Value := none

open Resource

theorem keyed_empty : ∀ id profile, (.empty : Dict Text ControlRuntimeProfile).get? id = some profile →
    profile.runtimeId = id := by
  intro _ _ found
  cases found

structure ControlServiceConfig extends ControlRuntimeProfile where
  bind : Text
  port : Nat
  robotId : Text
  robotKind : Text
  robotOptions : Fields
  nodeId : Text
  deviceResources : List Resource
  runtimeProfiles : Dict Text ControlRuntimeProfile := .empty
  inferenceEnabled : Bool := true
  /-- `__post_init__`. -/
  keyed : ∀ id profile, runtimeProfiles.get? id = some profile → profile.runtimeId = id := by exact keyed_empty

open ControlServiceConfig

/-- `profile_for_runtime`; `none` where it raises. -/
def ControlServiceConfig.profileForRuntime (config : ControlServiceConfig) (runtimeId : Text) :
    Option ControlRuntimeProfile :=
  if !config.inferenceEnabled then none
  else match config.runtimeProfiles.get? runtimeId with
    | some profile => some profile
    | none => if runtimeId ≠ config.runtimeId then none else some config.toControlRuntimeProfile

def ControlServiceConfig.forProfile (config : ControlServiceConfig) (profile : ControlRuntimeProfile) :
    ControlServiceConfig :=
  { config with toControlRuntimeProfile := profile }

/-! ## Merging -/

inductive MergeError where
  | empty
  | mixedLifecycle
  | severalDeviceOnly
  | severalWireless
  | incompatible (identity : Text)
  /-- `TypeError`: the sensor names of an item cannot be iterated. -/
  | notIterable
  | severalRobots

def itemsOf : {i : Shape} → Tree Text i → List Value
  | _, .cons head tail => head :: itemsOf tail
  | _, _ => []

def listOf (items : List Value) : Value := .list (items.foldr .cons .nil)

def keysOf : {i : Shape} → Tree Text i → List Value
  | _, .field key _ rest => .str key :: keysOf rest
  | _, _ => []

/-- `*value`. -/
def iterate : Value → Option (List Value)
  | .list items => some (itemsOf items)
  | .str text => some (text.map fun c => .str [c])
  | .dict fields => some (keysOf fields)
  | _ => none

def texts (values : List Value) : List Text :=
  values.filterMap fun value => match value with
    | .str text => if text = [] then none else some text
    | _ => none

/-- `item.get("sensor_ids", [item.get("sensor_id")])`. -/
def Resource.names (item : Resource) : Value :=
  item.sensorIds.getD (listOf [item.sensorId.getD .null])

/-- `previous.get(key) != item.get(key)`. -/
def differ (a b : Option Value) : Bool := !(a.getD .null).eq (b.getD .null)

def mergeItem (previous item : Resource) : Except MergeError Resource :=
  if previous.kind ≠ item.kind ∨ differ previous.value item.value ∨ differ previous.owner item.owner then
    .error (.incompatible item.identity)
  else match iterate previous.names, iterate item.names with
    | some before, some incoming =>
      .ok { previous with sensorIds := some (listOf ((texts (before ++ incoming)).eraseDups.map .str)) }
    | _, _ => .error .notIterable

def mergeResource (resources : Dict Text Resource) (item : Resource) : Except MergeError (Dict Text Resource) :=
  match resources.get? item.identity with
  | some previous => match mergeItem previous item with
      | .ok merged => .ok (resources.set item.identity merged)
      | .error error => .error error
  | none => .ok (resources.set item.identity item)

/-- `profiles[profile.runtime_id] = profile`. -/
def addProfile (profiles : Dict Text ControlRuntimeProfile) (config : ControlServiceConfig) :
    Dict Text ControlRuntimeProfile :=
  match config.profileForRuntime config.runtimeId with
  | some profile => profiles.set profile.runtimeId profile
  | none => profiles

theorem keyed_addProfile (configs : List ControlServiceConfig) {profiles}
    (keyed : ∀ id profile, profiles.get? id = some profile → profile.runtimeId = id) :
    ∀ id profile, (configs.foldl addProfile profiles).get? id = some profile → profile.runtimeId = id := by
  induction configs generalizing profiles with
  | nil => exact keyed
  | cons config configs ih =>
    refine ih fun id profile found => ?_
    unfold addProfile at found
    split at found
    · rename_i own _
      by_cases same : id = own.runtimeId
      · rw [same, get?_set_self] at found
        rw [same, Option.some.inj found]
      · rw [get?_set_of_ne same] at found
        exact keyed id profile found
    · exact keyed id profile found

/-- `_merge_control_services`, of the parsed configurations. -/
def mergeControlServices (configs : List ControlServiceConfig) : Except MergeError ControlServiceConfig :=
  match configs with
  | [] => .error .empty
  | base :: rest =>
    if (base :: rest).any fun config => config.inferenceEnabled ≠ base.inferenceEnabled then
      .error .mixedLifecycle
    else if !base.inferenceEnabled then .error .severalDeviceOnly
    else if (base :: rest).any fun config => config.inferenceTransport = "wireless".toList then
      .error .severalWireless
    else match ((base :: rest).flatMap deviceResources).foldlM mergeResource .empty with
      | .error error => .error error
      | .ok resources =>
        if (base :: rest).any fun config =>
            config.robotKind ≠ base.robotKind ∨ config.robotId ≠ base.robotId then
          .error .severalRobots
        else .ok { base with
          deviceResources := (resources.items.insertionSort fun a b => a.1 ≤ b.1).map Prod.snd
          runtimeProfiles := (base :: rest).foldl addProfile .empty
          keyed := keyed_addProfile _ nofun }

/-! ## Resolving a sensor -/

structure FileSystem where
  expanduser : Text → Text
  /-- `realpath(abspath(path))`. -/
  realpath : Text → Text

section

variable (fs : FileSystem)

/-- `canonical_resource_identity`; `none` where it raises. -/
def canonicalResourceIdentity (node kind value : Text) : Option ResourceIdentity :=
  if blank node || blank kind || blank value then none
  else
    let raw := fs.expanduser (strip value)
    let normalized := match raw with
      | '/' :: _ | '.' :: _ => fs.realpath raw
      | _ => raw
    some ⟨strip node, strip kind, normalized⟩

def named? : Value → Option Text
  | .str text => if blank text then none else some text
  | _ => none

/-- `_resource_identity_from_config` of a resource. -/
def resourceIdentity (nodeId : Text) (resource : Resource) : Option ResourceIdentity :=
  match named? (resource.node.getD (.str nodeId)), named? (.str resource.kind),
      named? (resource.value.getD .null) with
  | some node, some kind, some value => canonicalResourceIdentity fs node kind value
  | _, _, _ => match cut resource.identity with
      | (node, some rest) => match cut rest with
          | (kind, some value) => canonicalResourceIdentity fs node kind value
          | _ => none
      | _ => none

/-- `a or b` of `options.get`. -/
def either (a b : Option Value) : Option Value :=
  match a with
  | none | some .null | some (.str []) | some (.list .nil) | some (.dict .empty)
  | some (.number (.bool false)) | some (.number (.int 0)) | some (.number (.float (.finite 0)))
  | some (.number (.float .minusZero)) => b
  | some value => some value

def selector (input : SensorInput) : Option Text :=
  let get (name : String) := input.options.get? name.toList
  let source := match either (get "device") (get "path") with
    | none | some .null => either (get "serial") (get "serial_number")
    | some source => some source
  source.bind named?

def candidateIds (resource : Resource) : List Text :=
  let aliases := match resource.sensorIds with
    | some (.str text) => [.str text]
    | some (.list items) => itemsOf items
    | _ => []
  (aliases ++ resource.sensorId.toList).filterMap named?

def sensorKind : Text := "sensor".toList

def sensors (resources : List Resource) : List Resource :=
  resources.filter fun resource => resource.kind = sensorKind

def found (resources : List Resource) (sensorId : Text) : List Resource :=
  (sensors resources).filter fun resource => sensorId ∈ candidateIds resource

/-- `_sensor_identity`; `none` where it raises. -/
def sensorIdentity (config : ControlServiceConfig) (input : SensorInput) : Option ResourceIdentity :=
  match selector input with
  | some source => canonicalResourceIdentity fs config.nodeId sensorKind source
  | none => match found config.deviceResources input.sensorId with
      | [resource] => resourceIdentity fs config.nodeId resource
      | _ :: _ :: _ => none
      | [] => match sensors config.deviceResources with
          | [] => canonicalResourceIdentity fs config.nodeId sensorKind input.sensorId
          | [resource] =>
            if resource.sensorId.isSome ∨ resource.sensorIds.isSome then none
            else resourceIdentity fs config.nodeId resource
          | _ => none

def runtimeCameraRequests (config : ControlServiceConfig) : Option (List (Text × Text)) :=
  config.inputs.mapM fun input => (sensorIdentity fs config input).map fun identity =>
    (identity.key, input.name)

end

/-! ## What the plan writes -/

/-- The identity is the key of the node, kind and value, and a sensor is listed under its names. -/
structure Resource.Written (resource : Resource) : Prop where
  placed : ∃ node value, resource.node = some (.str node) ∧ resource.value = some (.str value) ∧
    resource.identity = (⟨node, resource.kind, value⟩ : ResourceIdentity).key
  named : resource.kind = sensorKind → ∃ names : List Text,
    resource.sensorIds = some (listOf (names.map .str)) ∧ (∀ name ∈ names, blank name = false) ∧
      ∃ own ∈ names, resource.sensorId = some (.str own)

structure Planned (configs : List ControlServiceConfig) : Prop where
  runtimes : (configs.map fun config => config.runtimeId).Nodup
  node : ∀ a ∈ configs, ∀ b ∈ configs, a.nodeId = b.nodeId
  written : ∀ config ∈ configs, ∀ resource ∈ config.deviceResources, resource.Written
  distinct : ∀ config ∈ configs, (config.deviceResources.map Resource.identity).Nodup
  /-- An input without a selector is a name of one of the resources. -/
  listed : ∀ config ∈ configs, ∀ profile, config.profileForRuntime config.runtimeId = some profile →
    ∀ input ∈ profile.inputs, selector input = none → found config.deviceResources input.sensorId ≠ []
  /-- A name stands for one resource. -/
  coherent : ∀ a ∈ configs, ∀ b ∈ configs, ∀ x ∈ sensors a.deviceResources,
    ∀ y ∈ sensors b.deviceResources, ∀ name ∈ candidateIds x, name ∈ candidateIds y → x.identity = y.identity

theorem itemsOf_foldr (items : List Value) :
    itemsOf (items.foldr Tree.cons (Data.Tree.nil : Data.Tree Text .items)) = items := by
  induction items with
  | nil => rfl
  | cons item items ih => rw [foldr_cons, itemsOf, ih]

theorem named?_str {text} (plain : blank text = false) : named? (.str text) = some text := by
  simp only [named?, plain, Bool.false_eq_true, if_false]

theorem filterMap_named {names : List Text} (plain : ∀ name ∈ names, blank name = false) :
    (names.map Tree.str).filterMap named? = names := by
  induction names with
  | nil => rfl
  | cons name names ih =>
    obtain ⟨here, later⟩ := List.forall_mem_cons.mp plain
    rw [map_cons, filterMap_cons, named?_str here, ih later]

theorem texts_append (a b : List Value) : texts (a ++ b) = texts a ++ texts b := filterMap_append

theorem texts_named {names} (plain : ∀ name ∈ names, blank name = false) : texts (names.map Tree.str) = names := by
  induction names with
  | nil => rfl
  | cons name names ih =>
    obtain ⟨here, later⟩ := List.forall_mem_cons.mp plain
    have some' : name ≠ [] := by rintro rfl; cases here
    have tail := ih later
    unfold texts at tail ⊢
    rw [map_cons, filterMap_cons, tail]
    simp [some']

theorem mem_candidateIds {resource : Resource} {names : List Text}
    (ids : resource.sensorIds = some (listOf (names.map .str)))
    (plain : ∀ name ∈ names, blank name = false) {own : Text} (member : own ∈ names)
    (id : resource.sensorId = some (.str own)) {name : Text} :
    name ∈ candidateIds resource ↔ name ∈ names := by
  unfold candidateIds listOf at *
  rw [ids, id]
  dsimp only
  rw [itemsOf_foldr, filterMap_append, filterMap_named plain]
  have last : (some (Tree.str own)).toList.filterMap named? = [own] := by
    rw [Option.toList_some, filterMap_cons, named?_str (plain own member)]
    rfl
  rw [last, mem_append, mem_singleton]
  exact or_iff_left_of_imp fun same => same ▸ member

theorem mergeItem_spec {previous item merged : Resource} (given : mergeItem previous item = .ok merged)
    (same : previous.identity = item.identity) (before : previous.Written) (new : item.Written) :
    merged.identity = previous.identity ∧
      (previous.kind = item.kind ∧ previous.node = item.node ∧ previous.value = item.value) ∧
      (merged.kind = previous.kind ∧ merged.node = previous.node ∧ merged.value = previous.value) ∧
      merged.Written ∧ (merged.kind = sensorKind → ∀ name, name ∈ candidateIds merged ↔
        name ∈ candidateIds previous ∨ name ∈ candidateIds item) := by
  unfold mergeItem at given
  split at given
  · cases given
  rename_i agree
  obtain ⟨kinds, agree⟩ := not_or.mp agree
  obtain ⟨values, _⟩ := not_or.mp agree
  have kinds : previous.kind = item.kind := not_ne_iff.mp kinds
  obtain ⟨node, value, nodeAt, valueAt, key⟩ := before.placed
  obtain ⟨node', value', nodeAt', valueAt', key'⟩ := new.placed
  have values : value = value' := by
    simpa [differ, valueAt, valueAt', Tree.eq] using values
  have nodes : node = node' := by
    have keys := (key.symm.trans same).trans key'
    rw [kinds, values] at keys
    exact append_cancel_right keys
  have agree : previous.kind = item.kind ∧ previous.node = item.node ∧ previous.value = item.value :=
    ⟨kinds, by rw [nodeAt, nodeAt', nodes], by rw [valueAt, valueAt', values]⟩
  split at given
  · rename_i old incoming oldNames newNames
    obtain rfl := Except.ok.inj given
    have names (sensor : previous.kind = sensorKind) : ∃ a b : List Text,
        (texts (old ++ incoming)).eraseDups = (a ++ b).eraseDups ∧
        (∀ name ∈ a ++ b, blank name = false) ∧
        (∃ own ∈ a, previous.sensorId = some (.str own)) ∧
        (∀ name, name ∈ candidateIds previous ↔ name ∈ a) ∧
        ∀ name, name ∈ candidateIds item ↔ name ∈ b := by
      obtain ⟨a, ids, plain, own, member, id⟩ := before.named sensor
      obtain ⟨b, ids', plain', own', member', id'⟩ := new.named (kinds ▸ sensor)
      refine ⟨a, b, ?_, ?_, ⟨own, member, id⟩, fun _ => mem_candidateIds ids plain member id,
        fun _ => mem_candidateIds ids' plain' member' id'⟩
      · simp only [names, ids, ids', Option.getD_some, listOf, iterate, itemsOf_foldr,
          Option.some.injEq] at oldNames newNames
        rw [← oldNames, ← newNames, texts_append, texts_named plain, texts_named plain']
      · intro name held
        rcases List.mem_append.mp held with here | there
        · exact plain name here
        · exact plain' name there
    refine ⟨rfl, agree, ⟨rfl, rfl, rfl⟩, ⟨⟨node, value, nodeAt, valueAt, key⟩, fun sensor => ?_⟩,
      fun sensor name => ?_⟩
    · obtain ⟨a, b, both, plain, ⟨own, member, id⟩, _, _⟩ := names sensor
      refine ⟨(a ++ b).eraseDups, by rw [both], fun name held => ?_, own, ?_, id⟩
      · exact plain name (List.mem_eraseDups.mp held)
      · exact List.mem_eraseDups.mpr (mem_append_left b member)
    · obtain ⟨a, b, both, plain, ⟨own, member, id⟩, first, second⟩ := names sensor
      rw [first, second]
      have listed := @mem_candidateIds
        { previous with sensorIds := some (listOf ((texts (old ++ incoming)).eraseDups.map .str)) }
        (a ++ b).eraseDups (by rw [both]) (fun name held => plain name (List.mem_eraseDups.mp held)) own
        (List.mem_eraseDups.mpr (mem_append_left b member)) id name
      rw [listed, mem_eraseDups, mem_append]
  · cases given

structure Gathered (done : List Resource) (resources : Dict Text Resource) : Prop where
  distinct : resources.Distinct
  sound : ∀ id m, resources.get? id = some m → m.identity = id ∧ m.Written ∧
    (m.kind = sensorKind → ∀ name ∈ candidateIds m,
      ∃ b ∈ done, b.identity = id ∧ b.kind = sensorKind ∧ name ∈ candidateIds b)
  kept : ∀ b ∈ done, ∃ m, resources.get? b.identity = some m ∧
    (m.kind = b.kind ∧ m.node = b.node ∧ m.value = b.value) ∧
    (b.kind = sensorKind → ∀ name ∈ candidateIds b, name ∈ candidateIds m)

theorem gathered_merge {done} {item} {before after} (gathered : Gathered done before) (written : item.Written)
    (given : mergeResource before item = .ok after) : Gathered (done ++ [item]) after := by
  have earlier {id name : Text} (old : ∃ b ∈ done, b.identity = id ∧ b.kind = sensorKind ∧
      name ∈ candidateIds b) : ∃ b ∈ done ++ [item], b.identity = id ∧ b.kind = sensorKind ∧
      name ∈ candidateIds b := by
    obtain ⟨b, member, rest⟩ := old
    exact ⟨b, mem_append_left _ member, rest⟩
  have last : item ∈ done ++ [item] := mem_append_right _ (mem_singleton_self item)
  unfold mergeResource at given
  split at given
  · rename_i previous present
    split at given
    · rename_i merged joined
      obtain rfl := Except.ok.inj given
      obtain ⟨same, written', names⟩ := gathered.sound _ _ present
      obtain ⟨id, agree, kept, formed, both⟩ := mergeItem_spec joined same written' written
      refine ⟨gathered.distinct.set, fun k m here => ?_, fun b member => ?_⟩
      · by_cases own : k = item.identity
        · rw [own, get?_set_self] at here
          cases here
          refine ⟨id.trans (same.trans own.symm), formed, fun sensor name held => ?_⟩
          rcases (both sensor name).mp held with old | new
          · rw [own]
            exact earlier (names (kept.1 ▸ sensor) name old)
          · exact ⟨item, last, own.symm, agree.1 ▸ kept.1 ▸ sensor, new⟩
        · rw [get?_set_of_ne own] at here
          obtain ⟨identity, formed, names⟩ := gathered.sound k m here
          exact ⟨identity, formed, fun sensor name held => earlier (names sensor name held)⟩
      · rcases List.mem_append.mp member with old | new
        · obtain ⟨m, here, parts, listed⟩ := gathered.kept b old
          by_cases own : b.identity = item.identity
          · rw [own] at here ⊢
            obtain rfl := Option.some.inj (here.symm.trans present)
            refine ⟨merged, get?_set_self, ⟨kept.1.trans parts.1, kept.2.1.trans parts.2.1,
              kept.2.2.trans parts.2.2⟩, fun sensor name held => ?_⟩
            exact (both ((kept.1.trans parts.1).trans sensor) name).mpr (.inl (listed sensor name held))
          · exact ⟨m, by rw [get?_set_of_ne own]; exact here, parts, listed⟩
        · obtain rfl := List.mem_singleton.mp new
          refine ⟨merged, get?_set_self, ⟨kept.1.trans agree.1, kept.2.1.trans agree.2.1,
            kept.2.2.trans agree.2.2⟩, fun sensor name held => ?_⟩
          exact (both ((kept.1.trans agree.1).trans sensor) name).mpr (.inr held)
    · cases given
  · rename_i absent
    obtain rfl := Except.ok.inj given
    refine ⟨gathered.distinct.set, fun k m here => ?_, fun b member => ?_⟩
    · by_cases own : k = item.identity
      · rw [own, get?_set_self] at here
        cases here
        exact ⟨own.symm, written, fun sensor name held => ⟨item, last, own.symm, sensor, held⟩⟩
      · rw [get?_set_of_ne own] at here
        obtain ⟨identity, formed, names⟩ := gathered.sound k m here
        exact ⟨identity, formed, fun sensor name held => earlier (names sensor name held)⟩
    · rcases List.mem_append.mp member with old | new
      · obtain ⟨m, here, parts, names⟩ := gathered.kept b old
        have apart : b.identity ≠ item.identity := by
          intro same
          rw [same, absent] at here
          cases here
        exact ⟨m, by rw [get?_set_of_ne apart]; exact here, parts, names⟩
      · obtain rfl := List.mem_singleton.mp new
        exact ⟨b, get?_set_self, ⟨rfl, rfl, rfl⟩, fun _ _ => id⟩

theorem gathered_empty : Gathered [] .empty := ⟨nodup_nil, nofun, nofun⟩

/-! ## Profiles -/

theorem runtimeId_of_profile {config : ControlServiceConfig} {id : Text} {profile : ControlRuntimeProfile}
    (given : config.profileForRuntime id = some profile) : profile.runtimeId = id := by
  unfold profileForRuntime at given
  split at given
  · cases given
  split at given
  · rename_i stored present
    cases given
    exact config.keyed _ _ present
  · split at given
    · cases given
    · rename_i own
      cases given
      exact (not_ne_iff.mp own).symm

theorem profile_of_enabled {config : ControlServiceConfig} (enabled : config.inferenceEnabled = true) :
    ∃ profile, config.profileForRuntime config.runtimeId = some profile := by
  unfold profileForRuntime
  rw [enabled]
  simp only [Bool.not_true, Bool.false_eq_true, if_false]
  split
  · exact ⟨_, rfl⟩
  · exact ⟨_, if_neg (not_ne_iff.mpr rfl)⟩

theorem get?_addProfile_other {profiles : Dict Text ControlRuntimeProfile} {config : ControlServiceConfig}
    {id : Text} (other : config.runtimeId ≠ id) :
    (addProfile profiles config).get? id = profiles.get? id := by
  unfold addProfile
  split
  · rename_i profile own
    rw [runtimeId_of_profile own, get?_set_of_ne (Ne.symm other)]
  · rfl

theorem get?_profiles_absent {configs : List ControlServiceConfig} {id : Text}
    (absent : ∀ config ∈ configs, config.runtimeId ≠ id) (profiles : Dict Text ControlRuntimeProfile) :
    (configs.foldl addProfile profiles).get? id = profiles.get? id := by
  induction configs generalizing profiles with
  | nil => rfl
  | cons config configs ih =>
    obtain ⟨here, later⟩ := List.forall_mem_cons.mp absent
    rw [foldl_cons, ih later, get?_addProfile_other here]

theorem get?_profiles {configs : List ControlServiceConfig}
    (distinct : (configs.map fun config => config.runtimeId).Nodup) {config : ControlServiceConfig}
    (member : config ∈ configs) {profile : ControlRuntimeProfile}
    (own : config.profileForRuntime config.runtimeId = some profile)
    (profiles : Dict Text ControlRuntimeProfile) :
    (configs.foldl addProfile profiles).get? config.runtimeId = some profile := by
  induction configs generalizing profiles with
  | nil => cases member
  | cons first configs ih =>
    rw [map_cons, nodup_cons] at distinct
    rw [foldl_cons]
    rcases List.mem_cons.mp member with rfl | later
    · rw [get?_profiles_absent fun other held same =>
        distinct.1 (List.mem_map.mpr ⟨other, held, same⟩)]
      unfold addProfile
      rw [own]
      dsimp only
      rw [runtimeId_of_profile own, get?_set_self]
    · exact ih distinct.2 later _

/-! ## Views -/

theorem mergeControlServices_ok {configs : List ControlServiceConfig} {merged : ControlServiceConfig}
    (accepted : mergeControlServices configs = .ok merged) :
    (∀ config ∈ configs, config.inferenceEnabled = true) ∧ merged.inferenceEnabled = true ∧
      merged.runtimeProfiles = configs.foldl addProfile .empty ∧
      (∃ base ∈ configs, merged.nodeId = base.nodeId) ∧
      ∃ resources, (configs.flatMap deviceResources).foldlM mergeResource .empty = .ok resources ∧
        merged.deviceResources = (resources.items.insertionSort fun a b => a.1 ≤ b.1).map Prod.snd := by
  unfold mergeControlServices at accepted
  split at accepted
  · cases accepted
  rename_i base rest
  split at accepted
  · cases accepted
  rename_i alike
  split at accepted
  · cases accepted
  rename_i enabled
  split at accepted
  · cases accepted
  split at accepted
  · cases accepted
  rename_i resources gathered
  split at accepted
  · cases accepted
  obtain rfl := Except.ok.inj accepted
  have enabled : base.inferenceEnabled = true := by simpa using enabled
  refine ⟨fun config member => ?_, enabled, rfl, ⟨base, mem_cons_self, rfl⟩, resources, gathered, rfl⟩
  have same := alike
  simp only [any_eq_true, decide_eq_true_eq, not_exists, not_and, not_ne_iff] at same
  rw [same config member, enabled]

theorem gathered_of_merge {configs} (planned : Planned configs) {resources}
    (merged : (configs.flatMap deviceResources).foldlM mergeResource .empty = .ok resources) :
    Gathered (configs.flatMap deviceResources) resources := by
  refine foldlM_rule (fun done item s t member holds given => ?_) gathered_empty merged
  obtain ⟨config, here, listed⟩ := List.mem_flatMap.mp member
  exact gathered_merge holds (planned.written config here item listed) given

theorem mem_sorted {resources} {done} (gathered : Gathered done resources) {m} :
    m ∈ (resources.items.insertionSort fun a b => a.1 ≤ b.1).map Prod.snd ↔ resources.get? m.identity = some m := by
  rw [mem_map]
  constructor
  · rintro ⟨item, held, rfl⟩
    have member := (perm_insertionSort _ _).mem_iff.mp held
    have present := get?_of_mem gathered.distinct member
    rwa [(gathered.sound _ _ present).1]
  · intro present
    exact ⟨(m.identity, m), (perm_insertionSort _ _).mem_iff.mpr (mem_of_get? present), rfl⟩

theorem distinct_sorted {resources} {done} (gathered : Gathered done resources) :
    (((resources.items.insertionSort fun a b => a.1 ≤ b.1).map Prod.snd).map Resource.identity).Nodup := by
  have keys : (((resources.items.insertionSort fun a b => a.1 ≤ b.1).map Prod.snd).map Resource.identity) =
      (resources.items.insertionSort fun a b => a.1 ≤ b.1).map Prod.fst := by
    rw [map_map]
    refine map_congr_left fun item held => ?_
    have member := (perm_insertionSort _ _).mem_iff.mp held
    exact (gathered.sound _ _ (get?_of_mem gathered.distinct member)).1
  rw [keys]
  exact ((perm_insertionSort _ _).map Prod.fst).nodup_iff.mpr gathered.distinct

theorem eq_singleton {resources} (distinct : (resources.map Resource.identity).Nodup)
    {a} (member : a ∈ resources) (same : ∀ b ∈ resources, b.identity = a.identity) :
    resources = [a] := by
  match resources with
  | [] => cases member
  | [b] => rw [List.mem_singleton.mp member]
  | b :: c :: rest =>
    have equal : b.identity = c.identity :=
      (same b mem_cons_self).trans (same c (mem_cons_of_mem _ mem_cons_self)).symm
    rw [map_cons, map_cons, nodup_cons] at distinct
    exact absurd (equal ▸ mem_cons_self) distinct.1

theorem mem_found {resources} {name} {r} :
    r ∈ found resources name ↔ r ∈ resources ∧ r.kind = sensorKind ∧ name ∈ candidateIds r := by
  rw [found, sensors, mem_filter, mem_filter, decide_eq_true_eq, decide_eq_true_eq, and_assoc]

theorem distinct_found {resources} (distinct : (resources.map Resource.identity).Nodup)
    (name : Text) : ((found resources name).map Resource.identity).Nodup :=
  distinct.sublist ((List.filter_sublist.trans filter_sublist).map _)

theorem sensorIdentity_merged {fs : FileSystem} {configs : List ControlServiceConfig}
    {merged config : ControlServiceConfig} (planned : Planned configs)
    (accepted : mergeControlServices configs = .ok merged) (member : config ∈ configs)
    {profile : ControlRuntimeProfile}
    (own : config.profileForRuntime config.runtimeId = some profile) {input : SensorInput}
    (given : input ∈ profile.inputs) :
    sensorIdentity fs (merged.forProfile profile) input = sensorIdentity fs (config.forProfile profile) input := by
  obtain ⟨_, _, _, ⟨base, first, node⟩, resources, ran, sorted⟩ := mergeControlServices_ok accepted
  have node : merged.nodeId = config.nodeId := node.trans (planned.node base first config member)
  unfold sensorIdentity forProfile
  dsimp only
  rw [node]
  split
  · rfl
  rename_i unselected
  have gathered := gathered_of_merge planned ran
  -- the resource of the input in its own configuration
  obtain ⟨a, held⟩ := exists_mem_of_ne_nil _ (planned.listed config member profile own input given unselected)
  obtain ⟨listed, sensor, name⟩ := mem_found.mp held
  have alone : found config.deviceResources input.sensorId = [a] := by
    refine eq_singleton (distinct_found (planned.distinct config member) _) held fun b other => ?_
    obtain ⟨there, kind, name'⟩ := mem_found.mp other
    exact planned.coherent config member config member b (List.mem_filter.mpr ⟨there, by simpa using kind⟩)
      a (List.mem_filter.mpr ⟨listed, by simpa using sensor⟩) _ name' name
  -- the same resource in the merged list
  obtain ⟨m, present, ⟨kind, nodes, values⟩, names⟩ :=
    gathered.kept a (List.mem_flatMap.mpr ⟨config, member, listed⟩)
  have identity := (gathered.sound _ _ present).1
  have shared : found merged.deviceResources input.sensorId = [m] := by
    rw [sorted]
    refine eq_singleton (distinct_found (distinct_sorted gathered) _) ?_ fun b other => ?_
    · refine mem_found.mpr ⟨(mem_sorted gathered).mpr (identity ▸ present), kind.trans sensor, ?_⟩
      exact names sensor _ name
    · obtain ⟨there, kind', name'⟩ := mem_found.mp other
      obtain ⟨_, _, sources⟩ := gathered.sound _ _ ((mem_sorted gathered).mp there)
      obtain ⟨source, listed', same, sensor', name''⟩ := sources kind' _ name'
      obtain ⟨other, member', here⟩ := List.mem_flatMap.mp listed'
      rw [identity, ← same]
      exact planned.coherent other member' config member source (List.mem_filter.mpr ⟨here, by simpa using sensor'⟩) a
        (List.mem_filter.mpr ⟨listed, by simpa using sensor⟩) _ name'' name
  rw [alone, shared]
  dsimp only
  unfold resourceIdentity
  rw [kind, nodes, values, identity]

theorem mapM_congr {β : Type} {f g : SensorInput → Option β} {inputs : List SensorInput}
    (same : ∀ input ∈ inputs, f input = g input) : inputs.mapM f = inputs.mapM g := by
  induction inputs with
  | nil => rfl
  | cons input inputs ih =>
    obtain ⟨here, later⟩ := List.forall_mem_cons.mp same
    rw [mapM_cons, mapM_cons, here, ih later]

/-- **Every runtime keeps its view.** -/
theorem merged_views (fs : FileSystem) {configs : List ControlServiceConfig} {merged : ControlServiceConfig}
    (planned : Planned configs) (accepted : mergeControlServices configs = .ok merged) :
    ∀ config ∈ configs, ∃ profile, config.profileForRuntime config.runtimeId = some profile ∧
      merged.profileForRuntime config.runtimeId = some profile ∧
      (merged.forProfile profile).toControlRuntimeProfile = (config.forProfile profile).toControlRuntimeProfile ∧
      (∀ input ∈ profile.inputs, sensorIdentity fs (merged.forProfile profile) input =
        sensorIdentity fs (config.forProfile profile) input) ∧
      runtimeCameraRequests fs (merged.forProfile profile) =
        runtimeCameraRequests fs (config.forProfile profile) := by
  intro config member
  obtain ⟨enabled, open', profiles, _⟩ := mergeControlServices_ok accepted
  obtain ⟨profile, own⟩ := profile_of_enabled (enabled config member)
  have same : ∀ input ∈ profile.inputs, sensorIdentity fs (merged.forProfile profile) input =
      sensorIdentity fs (config.forProfile profile) input :=
    fun input given => sensorIdentity_merged planned accepted member own given
  refine ⟨profile, own, ?_, rfl, same, ?_⟩
  · have stored := get?_profiles planned.runtimes member own .empty
    rw [← profiles] at stored
    unfold profileForRuntime
    rw [open', stored]
    rfl
  · unfold runtimeCameraRequests
    exact mapM_congr fun input given => by rw [same input given]

/-! ## Two runtimes -/

/-- A camera on the node `n`, under one name. -/
def camera (value name : Text) : Resource where
  identity := (⟨['n'], sensorKind, value⟩ : ResourceIdentity).key
  kind := sensorKind
  node := some (.str ['n'])
  value := some (.str value)
  owner := some .null
  sensorId := some (.str name)
  sensorIds := some (listOf [.str name])

def cameraRuntime (id value name : Text) : ControlServiceConfig where
  runtimeId := id
  bindingKind := ['b']
  inferenceBackend := ['v']
  inferenceTransport := "http".toList
  inferenceEndpoint := ['e']
  inferenceOptions := .empty
  inputs := [⟨name, ['f'], ['k'], .empty⟩]
  runtimeOptions := .empty
  bind := "localhost".toList
  port := 1
  robotId := ['r']
  robotKind := ['k']
  robotOptions := .empty
  nodeId := ['n']
  deviceResources := [camera value name]

def plainFiles : FileSystem := ⟨id, id⟩

/-- The camera `v` under the names `c` and `d`. -/
def sharing : List ControlServiceConfig :=
  [cameraRuntime ['a'] ['v'] ['c'], cameraRuntime ['b'] ['v'] ['d']]

theorem written_camera (value name : Text) (named : blank name = false) : (camera value name).Written where
  placed := ⟨['n'], value, rfl, rfl, rfl⟩
  named _ := ⟨[name], rfl, by simpa using named, name, mem_singleton_self name, rfl⟩

theorem planned_sharing : Planned sharing where
  runtimes := by decide
  node := by decide +kernel
  written config member resource held := by
    rcases List.mem_cons.mp member with rfl | member
    · obtain rfl := List.mem_singleton.mp held
      exact written_camera _ _ (by decide)
    · obtain rfl := List.mem_singleton.mp member
      obtain rfl := List.mem_singleton.mp held
      exact written_camera _ _ (by decide)
  distinct := by decide +kernel
  listed config member profile own input given _ := by
    rcases List.mem_cons.mp member with rfl | member
    · cases own
      obtain rfl := List.mem_singleton.mp given
      decide +kernel
    · obtain rfl := List.mem_singleton.mp member
      cases own
      obtain rfl := List.mem_singleton.mp given
      decide +kernel
  coherent := by decide +kernel

/-- Both runtimes find the camera. -/
theorem merged_views_sharing : ∃ merged, mergeControlServices sharing = .ok merged ∧
    ∀ config ∈ sharing, ∃ profile, config.profileForRuntime config.runtimeId = some profile ∧
      merged.profileForRuntime config.runtimeId = some profile ∧
      (merged.forProfile profile).toControlRuntimeProfile = (config.forProfile profile).toControlRuntimeProfile ∧
      (∀ input ∈ profile.inputs, sensorIdentity plainFiles (merged.forProfile profile) input =
        sensorIdentity plainFiles (config.forProfile profile) input) ∧
      runtimeCameraRequests plainFiles (merged.forProfile profile) =
        runtimeCameraRequests plainFiles (config.forProfile profile) := by
  obtain ⟨merged, accepted⟩ : ∃ merged, mergeControlServices sharing = .ok merged := ⟨_, rfl⟩
  exact ⟨merged, accepted, merged_views plainFiles planned_sharing accepted⟩

/-- Two cameras under the name `c`. -/
def ambiguous : List ControlServiceConfig :=
  [cameraRuntime ['a'] ['v'] ['c'], cameraRuntime ['b'] ['w'] ['c']]

/-- Merged, the name `c` is ambiguous, and neither runtime has a camera. -/
theorem merged_view_ambiguous :
    ¬∀ (fs : FileSystem) (configs : List ControlServiceConfig) (merged : ControlServiceConfig),
      mergeControlServices configs = .ok merged → ∀ config ∈ configs, ∀ profile,
        config.profileForRuntime config.runtimeId = some profile → ∀ input ∈ profile.inputs,
          sensorIdentity fs (merged.forProfile profile) input =
            sensorIdentity fs (config.forProfile profile) input := by
  intro all
  obtain ⟨merged, accepted, lost⟩ : ∃ merged, mergeControlServices ambiguous = .ok merged ∧
      sensorIdentity plainFiles (merged.forProfile (cameraRuntime ['a'] ['v'] ['c']).toControlRuntimeProfile)
        ⟨['c'], ['f'], ['k'], .empty⟩ = none := ⟨_, rfl, rfl⟩
  have same := all plainFiles ambiguous merged accepted _ mem_cons_self _ rfl _ (mem_singleton_self _)
  have own : sensorIdentity plainFiles ((cameraRuntime ['a'] ['v'] ['c']).forProfile
      (cameraRuntime ['a'] ['v'] ['c']).toControlRuntimeProfile) ⟨['c'], ['f'], ['k'], .empty⟩ =
        some ⟨['n'], sensorKind, ['v']⟩ := rfl
  cases (lost.symm.trans same).trans own

end EmbodiRun.Deployment.Views
