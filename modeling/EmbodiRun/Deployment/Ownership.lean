/-
# Deployment.Ownership -- the services, runtimes and resource owners of `build_plan`

Each robot runtime gets a control service named after it, and each resource it uses is owned
by the service of its first user.  Then the runtimes of one robot connection are merged:
their services become one, named after the robot, and every resource owned by a service
under one of the old names changes hands, whichever group it is of.

A resource goes by its canonical identity, which is resolved before.  What a runtime needs
besides (environments, bindings, endpoints of models, generated configurations) is
`validate`, which may raise and decides nothing here.
-/
import EmbodiRun.Data.Dict
import EmbodiRun.Devices.Identity

namespace EmbodiRun.Deployment.Ownership

open Data Devices

/-! ## The configuration -/

structure Robot where
  robotId : Text
  kind : Text
  owner : Option Text
  /-- `_robot_resource`; it raises where the configuration identifies no connection. -/
  resource : Option ResourceIdentity
  /-- The identities of `robot_ports`. -/
  ports : List ResourceIdentity

structure Sensor where
  sensorId : Text
  owner : Option Text
  /-- `_sensor_resource`, likewise. -/
  resource : Option ResourceIdentity

/-- What a runtime runs on: a robot with its sensors (`deviceOnly` where it names no model), or a
simulator. -/
inductive Target where
  | robot (robot : Robot) (inputs : List Sensor) (deviceOnly wireless : Bool)
  | simulator

/-- `endpoint` is `http://{bind}:{port}` of its server. -/
structure Runtime where
  runtimeId : Text
  endpoint : Text
  target : Target

/-- The managed models by name, and the runtimes in the order of their names, each name once. -/
structure Config where
  models : List Text
  runtimes : List Runtime
  distinct : (runtimes.map Runtime.runtimeId).Nodup

inductive ServiceError where
  /-- The runtime is invalid for a reason of `validate`. -/
  | invalid (text : Text)
  /-- "declares unsupported external owner". -/
  | unsupportedOwner (id : Text)
  /-- "has no explicit physical connection identity", "has no physical identity". -/
  | noIdentity (id : Text)
  /-- "resource … has inconsistent owner declarations". -/
  | inconsistentOwners (resource : Text)
  /-- "sensor resource … is referenced by multiple robot owners". -/
  | sensorShared (resource : Text)
  /-- "one physical robot cannot merge device-only and model runtimes". -/
  | mixedLifecycle
  /-- "multiple device-only runtimes for one robot are unsupported". -/
  | severalDeviceOnly
  /-- "multiple wireless runtimes cannot share one control owner yet". -/
  | severalWireless
  /-- "shared resource … has incompatible profiles". -/
  | incompatible (resource : Text)
  /-- "runtimes sharing one physical robot must use one compatible robot owner". -/
  | severalRobots
  /-- "model IDs must not collide with generated runtime service IDs". -/
  | collision

/-! ## The plan -/

inductive ServiceKind where
  | model | control | simulation

structure ServiceSpec where
  serviceId : Text
  kind : ServiceKind
  endpoint : Text
  resourceIds : List Text := []
  runtimeIds : List Text := []

/-- `RuntimeSpec`; `robot` is the target of a robot runtime. -/
structure RuntimeSpec where
  runtimeId : Text
  robot : Option Text
  serviceId : Text
  serviceEndpoint : Text
  deriving DecidableEq

structure DeviceOwnerSpec where
  resourceId : Text
  node : Text
  kind : Text
  ownerServiceId : Text
  consumers : List Text
  externalOwner : Option Text

structure Plan where
  services : List ServiceSpec
  runtimes : List RuntimeSpec
  deviceResources : List DeviceOwnerSpec

/-! ## The resources of a runtime -/

/-- An item of `_control_resources`. -/
structure Resource where
  identity : ResourceIdentity
  owner : Option Text

def Resource.id (resource : Resource) : Text := resource.identity.key

/-- `owner and owner not in {"deploy", "control"}`. -/
def external (owner : Option Text) : Bool :=
  owner.any fun owner => owner ≠ [] && owner ≠ ['d', 'e', 'p', 'l', 'o', 'y'] &&
    owner ≠ ['c', 'o', 'n', 't', 'r', 'o', 'l']

/-- `resources.append(…)`, unless the identity was seen. -/
def addResource (resources : List Resource) (resource : Resource) : List Resource :=
  if resource.id ∈ resources.map Resource.id then resources else resources ++ [resource]

def sensorResource (sensor : Sensor) : Except ServiceError Resource :=
  if external sensor.owner then .error (.unsupportedOwner sensor.sensorId)
  else match sensor.resource with
    | none => .error (.noIdentity sensor.sensorId)
    | some identity => .ok ⟨identity, sensor.owner⟩

/-- `_control_resources`: the robot's connection first. -/
def controlResources (robot : Robot) (inputs : List Sensor) : Except ServiceError (Resource × List Resource) :=
  match robot.resource with
  | none => .error (.noIdentity robot.robotId)
  | some identity =>
    match inputs.mapM sensorResource with
    | .error error => .error error
    | .ok sensors =>
      let connection : Resource := ⟨identity, robot.owner⟩
      let ports := robot.ports.map fun port => ⟨port, robot.owner⟩
      .ok (connection, (ports ++ sensors).foldl addResource [connection])

/-! ## One runtime -/

def controlId (id : Text) : Text := ['c', 'o', 'n', 't', 'r', 'o', 'l', '-'] ++ id

def simulationId (id : Text) : Text :=
  ['s', 'i', 'm', 'u', 'l', 'a', 't', 'i', 'o', 'n', '-'] ++ id

/-- A robot runtime with its specifications and its resources: one entry of `control_groups`. -/
structure Control where
  runtimeId : Text
  endpoint : Text
  robotId : Text
  robotKind : Text
  deviceOnly : Bool
  wireless : Bool
  /-- The key of its group, the identity of the robot's connection. -/
  group : Text
  resources : List Resource

/-- `runtime_spec` of `_control_service` and `_device_control_service`. -/
def Control.runtimeSpec (control : Control) : RuntimeSpec :=
  ⟨control.runtimeId, some control.robotId, controlId control.runtimeId, control.endpoint⟩

/-- Their `service`. -/
def Control.service (control : Control) : ServiceSpec :=
  ⟨controlId control.runtimeId, .control, control.endpoint, control.resources.map Resource.id, [control.runtimeId]⟩

def planned (validate : Runtime → Except ServiceError Unit) (runtime : Runtime) :
    Except ServiceError (Option Control) :=
  match validate runtime with
  | .error error => .error error
  | .ok () => match runtime.target with
      | .simulator => .ok none
      | .robot robot inputs deviceOnly wireless =>
        match controlResources robot inputs with
        | .error error => .error error
        | .ok (connection, resources) => .ok (some
            { runtimeId := runtime.runtimeId, endpoint := runtime.endpoint
              robotId := robot.robotId, robotKind := robot.kind, deviceOnly, wireless
              group := connection.id, resources })

/-! ## Resources and owners -/

/-- `device_resources[…] = DeviceOwnerSpec(…)` for one resource of one runtime. -/
def recordUse (devices : Dict Text DeviceOwnerSpec) (use : Control × Resource) : Dict Text DeviceOwnerSpec :=
  let id := use.2.id
  let existing := devices.get? id
  devices.set id
    { resourceId := id
      node := use.2.identity.node
      kind := use.2.identity.kind
      ownerServiceId := match existing with
        | some item => item.ownerServiceId
        | none => controlId use.1.runtimeId
      consumers := match existing with
        | some item =>
          if use.1.runtimeId ∈ item.consumers then item.consumers
          else item.consumers ++ [use.1.runtimeId]
        | none => [use.1.runtimeId]
      externalOwner := use.2.owner }

def uses (controls : List Control) : List (Control × Resource) :=
  controls.flatMap fun control => control.resources.map (control, ·)

def deviceResources (controls : List Control) : Dict Text DeviceOwnerSpec :=
  (uses controls).foldl recordUse .empty

/-- `resource_groups` and `resource_owners` of one resource. -/
def groupsOf (controls : List Control) (id : Text) : List Text :=
  (((uses controls).filter fun use => use.2.id = id).map fun use => use.1.group).dedup

def ownersOf (controls : List Control) (id : Text) : List (Option Text) :=
  (((uses controls).filter fun use => use.2.id = id).map fun use => use.2.owner).dedup

def checkResource (controls : List Control) (item : DeviceOwnerSpec) : Except ServiceError Unit :=
  if 1 < (ownersOf controls item.resourceId).length then
    .error (.inconsistentOwners item.resourceId)
  else if 1 < (groupsOf controls item.resourceId).length ∧ item.kind = ['s', 'e', 'n', 's', 'o', 'r'] then
    .error (.sensorShared item.resourceId)
  else .ok ()

/-! ## Merging -/

/-- One item of the merged `resources`. -/
def mergeResource (resources : Dict Text Resource) (item : Resource) : Except ServiceError (Dict Text Resource) :=
  match resources.get? item.id with
  | some previous =>
    if previous.identity.kind ≠ item.identity.kind ∨ previous.identity.value ≠ item.identity.value ∨
        previous.owner ≠ item.owner then
      .error (.incompatible item.id)
    else .ok (resources.set item.id item)
  | none => .ok (resources.set item.id item)

def mergeControlServices (first : Control) (pairs : List Control) : Except ServiceError ServiceSpec :=
  if pairs.any fun control => control.deviceOnly ≠ first.deviceOnly then .error .mixedLifecycle
  else if first.deviceOnly then .error .severalDeviceOnly
  else if pairs.any fun control => control.wireless then .error .severalWireless
  else match (pairs.flatMap Control.resources).foldlM mergeResource .empty with
    | .error error => .error error
    | .ok resources =>
      if pairs.any fun control =>
          control.robotKind ≠ first.robotKind ∨ control.robotId ≠ first.robotId then
        .error .severalRobots
      else .ok { first.service with
          serviceId := controlId first.robotId
          resourceIds := resources.items.map Prod.fst
          runtimeIds := pairs.map Control.runtimeId }

/-- `control_groups[group_key]`. -/
def pairsOf (controls : List Control) (group : Text) : List Control :=
  controls.filter fun control => control.group = group

/-- `sorted(control_groups)`. -/
def groupKeys (controls : List Control) : List Text :=
  ((controls.map Control.group).dedup).insertionSort (· ≤ ·)

structure Merging where
  services : List ServiceSpec
  runtimes : List RuntimeSpec
  devices : Dict Text DeviceOwnerSpec

def capture (pairs : List Control) (serviceId owner : Text) : Text :=
  if owner ∈ pairs.map fun control => controlId control.runtimeId then serviceId else owner

/-- `runtimes[runtimes.index(spec)] = replace(spec, …)`: a specification is there once. -/
def reassign (merged : ServiceSpec) (runtimes : List RuntimeSpec) (control : Control) : List RuntimeSpec :=
  runtimes.map fun spec =>
    if spec = control.runtimeSpec then
      { spec with serviceId := merged.serviceId, serviceEndpoint := merged.endpoint }
    else spec

def mergeGroup (controls : List Control) (state : Merging) (group : Text) : Except ServiceError Merging :=
  match pairsOf controls group with
  | [] => .ok state
  | [control] => .ok { state with services := state.services ++ [control.service] }
  | first :: second :: rest =>
    let pairs := first :: second :: rest
    match mergeControlServices first pairs with
    | .error error => .error error
    | .ok merged => .ok
        { services := state.services ++ [merged]
          runtimes := pairs.foldl (reassign merged) state.runtimes
          devices := ⟨state.devices.items.map fun item =>
            (item.1, { item.2 with
              ownerServiceId := capture pairs merged.serviceId item.2.ownerServiceId })⟩ }

def simulationSpec (runtime : Runtime) : RuntimeSpec :=
  ⟨runtime.runtimeId, none, simulationId runtime.runtimeId, runtime.endpoint⟩

/-! ## `build_plan` -/

def modelService (modelId : Text) : ServiceSpec := ⟨modelId, .model, [], [], []⟩

def simulationService (runtime : Runtime) : ServiceSpec :=
  ⟨simulationId runtime.runtimeId, .simulation, runtime.endpoint, [], [runtime.runtimeId]⟩

def runtimeSpecs (results : List (Runtime × Option Control)) : List RuntimeSpec :=
  results.map fun result => match result.2 with
    | some control => control.runtimeSpec
    | none => simulationSpec result.1

def simulations (results : List (Runtime × Option Control)) : List ServiceSpec :=
  results.filterMap fun result => match result.2 with
    | some _ => none
    | none => some (simulationService result.1)

def buildPlan (validate : Runtime → Except ServiceError Unit) (config : Config) : Except ServiceError Plan :=
  match config.runtimes.mapM (planned validate) with
  | .error error => .error error
  | .ok results =>
    let controls := results.filterMap id
    let devices := deviceResources controls
    match devices.items.mapM fun item => checkResource controls item.2 with
    | .error error => .error error
    | .ok _ =>
      let specs := runtimeSpecs (config.runtimes.zip results)
      match (groupKeys controls).foldlM (mergeGroup controls) ⟨[], specs, devices⟩ with
      | .error error => .error error
      | .ok merged =>
        let services := config.models.map modelService ++ merged.services ++ simulations (config.runtimes.zip results)
        if (services.map ServiceSpec.serviceId).Nodup then
          .ok ⟨services, merged.runtimes, (merged.devices.items.insertionSort fun a b => a.1 ≤ b.1).map Prod.snd⟩
        else .error .collision

end EmbodiRun.Deployment.Ownership
