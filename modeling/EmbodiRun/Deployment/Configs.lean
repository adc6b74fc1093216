/-
# Deployment.Configs -- the control configurations that the plan writes

`_control_service` writes a configuration for each runtime, with the resources that
`_control_resources` lists: the connection of the robot, its ports, and the sensors of the runtime,
one item for each physical resource under all the names it has there.

* `planned_controls`: **the configurations of runtimes on one robot are planned**.
-/
import EmbodiRun.Deployment.Views

namespace EmbodiRun.Deployment.Views

open Application Data Devices List Http Resource

/-! ## The deployment -/

/-- A sensor with its resolved resource; its name is not blank. One with an external owner is refused
before a configuration is written. -/
structure Sensor where
  sensorId : Text
  kind : Text
  options : Fields
  owner : Value
  identity : ResourceIdentity
  named : blank sensorId = false
  sensor : identity.kind = sensorKind

def robotKind : Text := "robot".toList

/-- A robot with its resolved connection and ports; an identity has the node without its blanks. -/
structure Robot where
  robotId : Text
  kind : Text
  options : Fields
  owner : Value
  node : Text
  connection : ResourceIdentity
  ports : List ResourceIdentity
  robot : ∀ identity ∈ connection :: ports, identity.node = strip node ∧ identity.kind = robotKind

structure Runtime where
  profile : ControlRuntimeProfile
  bind : Text
  port : Nat
  inputs : List (Text × Sensor)

/-! ## The resources of a runtime -/

def robotItem (robot : Robot) (identity : ResourceIdentity) : Resource where
  identity := identity.key
  kind := identity.kind
  node := some (.str identity.node)
  value := some (.str identity.value)
  owner := some robot.owner

def sensorItem (sensor : Sensor) : Resource where
  identity := sensor.identity.key
  kind := sensor.identity.kind
  node := some (.str sensor.identity.node)
  value := some (.str sensor.identity.value)
  owner := some sensor.owner
  sensorId := some (.str sensor.sensorId)
  sensorIds := some (listOf [.str sensor.sensorId])

/-- `sensor_ids.append(…)`, where the name is not there. -/
def addName (item : Resource) (name : Text) : Resource :=
  match item.sensorIds.getD (listOf [item.sensorId.getD .null]) with
  | .list names =>
    if .str name ∈ itemsOf names then { item with sensorIds := some (.list names) }
    else { item with sensorIds := some (listOf (itemsOf names ++ [.str name])) }
  | other => { item with sensorIds := some other }

def addPort (robot : Robot) (items : List Resource) (port : ResourceIdentity) : List Resource :=
  if port.key ∈ items.map Resource.identity then items else items ++ [robotItem robot port]

/-- The identities are distinct, so the item that `next` finds is the only one with its identity. -/
def addSensor (items : List Resource) (sensor : Sensor) : List Resource :=
  if sensor.identity.key ∈ items.map Resource.identity then
    items.map fun item =>
      if item.identity = sensor.identity.key ∧ item.kind = sensorKind then addName item sensor.sensorId
      else item
  else items ++ [sensorItem sensor]

def controlResources (robot : Robot) (inputs : List (Text × Sensor)) : List Resource :=
  (inputs.map Prod.snd).foldl addSensor (robot.ports.foldl (addPort robot) [robotItem robot robot.connection])

/-- The configuration of `_control_service`. -/
def controlService (robot : Robot) (runtime : Runtime) : ControlServiceConfig where
  toControlRuntimeProfile := { runtime.profile with
    inputs := runtime.inputs.map fun input =>
      ⟨input.2.sensorId, input.1, input.2.kind, input.2.options⟩ }
  bind := runtime.bind
  port := runtime.port
  robotId := robot.robotId
  robotKind := robot.kind
  robotOptions := robot.options
  nodeId := robot.node
  deviceResources := controlResources robot runtime.inputs

/-- The runtimes of one robot in a deployment: their names are distinct, their sensors are on the
robot's node, and a name is one sensor. -/
structure Deployed (robot : Robot) (runtimes : List Runtime) : Prop where
  distinct : (runtimes.map fun runtime => runtime.profile.runtimeId).Nodup
  nodes : ∀ runtime ∈ runtimes, ∀ input ∈ runtime.inputs, input.2.identity.node = strip robot.node
  sensors : ∀ a ∈ runtimes, ∀ b ∈ runtimes, ∀ x ∈ a.inputs, ∀ y ∈ b.inputs,
    x.2.sensorId = y.2.sensorId → x.2.identity = y.2.identity

/-! ## What is listed -/

structure Listed (robot : Robot) (done : List Sensor) (items : List Resource) : Prop where
  distinct : (items.map Resource.identity).Nodup
  written : ∀ item ∈ items, item.Written
  robots : ∀ item ∈ items, item.kind ≠ sensorKind →
    ∃ value, item.identity = (⟨strip robot.node, robotKind, value⟩ : ResourceIdentity).key
  sound : ∀ item ∈ items, item.kind = sensorKind → ∀ name ∈ candidateIds item,
    ∃ sensor ∈ done, sensor.sensorId = name ∧ sensor.identity.key = item.identity
  complete : ∀ sensor ∈ done, ∃ item ∈ items, item.kind = sensorKind ∧ sensor.sensorId ∈ candidateIds item

theorem robotKind_ne : robotKind ≠ sensorKind := by decide

theorem distinct_append {items} {item} (distinct : (items.map Resource.identity).Nodup)
    (fresh : item.identity ∉ items.map Resource.identity) :
    ((items ++ [item]).map Resource.identity).Nodup := by
  rw [map_append, map_singleton]
  refine List.nodup_append.mpr ⟨distinct, nodup_singleton _, ?_⟩
  rintro key held _ last rfl
  have same : key = item.identity := List.mem_singleton.mp last
  rw [same] at held
  exact fresh held

theorem listed_robot {robot} {items} {identity}
    (listed : Listed robot [] items) (own : identity ∈ robot.connection :: robot.ports)
    (fresh : identity.key ∉ items.map Resource.identity) :
    Listed robot [] (items ++ [robotItem robot identity]) := by
  obtain ⟨node, kind⟩ := robot.robot identity own
  have other : (robotItem robot identity).kind ≠ sensorKind := fun same => robotKind_ne (kind.symm.trans same)
  refine ⟨distinct_append listed.distinct fresh, fun item member => ?_, fun item member unlike => ?_,
    fun item member sensor => ?_, nofun⟩
  · rcases List.mem_append.mp member with old | new
    · exact listed.written item old
    · obtain rfl := List.mem_singleton.mp new
      exact ⟨⟨identity.node, identity.value, rfl, rfl, rfl⟩, fun same => absurd same other⟩
  · rcases List.mem_append.mp member with old | new
    · exact listed.robots item old unlike
    · obtain rfl := List.mem_singleton.mp new
      exact ⟨identity.value, by rw [robotItem, ← node, ← kind]⟩
  · rcases List.mem_append.mp member with old | new
    · exact listed.sound item old sensor
    · obtain rfl := List.mem_singleton.mp new
      exact absurd sensor other

theorem listed_ports (robot : Robot) :
    Listed robot [] (robot.ports.foldl (addPort robot) [robotItem robot robot.connection]) := by
  have start : Listed robot [] ([] : List Resource) := ⟨nodup_nil, nofun, nofun, nofun, nofun⟩
  have connected := @listed_robot robot [] robot.connection start mem_cons_self nofun
  refine @foldl_rule _ _ (fun _ items => Listed robot [] items) _ (addPort robot) _
    (fun done port items member listed => ?_) connected
  unfold addPort
  split
  · exact listed
  · rename_i fresh
    exact listed_robot listed (mem_cons_of_mem _ member) fresh

theorem addName_spec {item} {name} (written : item.Written)
    (sensor : item.kind = sensorKind) (plain : blank name = false) :
    (addName item name).identity = item.identity ∧ (addName item name).kind = item.kind ∧
      (addName item name).Written ∧
      ∀ other, other ∈ candidateIds (addName item name) ↔ other ∈ candidateIds item ∨ other = name := by
  obtain ⟨names, ids, all, own, member, id⟩ := written.named sensor
  have listed (other : Text) : other ∈ candidateIds item ↔ other ∈ names := mem_candidateIds ids all member id
  have added : ∃ names' : List Text, (addName item name) = { item with sensorIds := some (listOf (names'.map .str)) } ∧
      (∀ other, other ∈ names' ↔ other ∈ names ∨ other = name) := by
    unfold addName
    rw [ids, Option.getD_some, listOf]
    dsimp only
    rw [itemsOf_foldr]
    split
    · rename_i present
      have present : name ∈ names := by simpa using present
      exact ⟨names, rfl, fun other => (or_iff_left_of_imp fun same => same ▸ present).symm⟩
    · exact ⟨names ++ [name], by rw [map_append]; rfl, fun other => by simp⟩
  obtain ⟨names', same, both⟩ := added
  have all' : ∀ other ∈ names', blank other = false := fun other held => by
    rcases (both other).mp held with old | rfl
    · exact all other old
    · exact plain
  have member' := (both own).mpr (.inl member)
  rw [same]
  refine ⟨rfl, rfl, ⟨written.placed, fun _ => ⟨names', rfl, all', own, member', id⟩⟩, fun other => ?_⟩
  rw [listed, ← both]
  exact @mem_candidateIds { item with sensorIds := some (listOf (names'.map .str)) } names' rfl all' own
    member' id other

theorem key_ne {node value value'} :
    (⟨node, robotKind, value⟩ : ResourceIdentity).key ≠ (⟨node, sensorKind, value'⟩ : ResourceIdentity).key := by
  intro same
  have rest := append_cancel_left same
  have heads := congrArg List.head? (List.cons.inj rest).2
  cases heads

theorem written_sensorItem (sensor : Sensor) : (sensorItem sensor).Written ∧
    ∀ name, name ∈ candidateIds (sensorItem sensor) ↔ name = sensor.sensorId := by
  have plain : ∀ name ∈ [sensor.sensorId], blank name = false := by simpa using sensor.named
  refine ⟨⟨⟨_, _, rfl, rfl, rfl⟩, fun _ => ⟨[sensor.sensorId], rfl, plain, _, mem_singleton_self _, rfl⟩⟩,
    fun name => ?_⟩
  rw [@mem_candidateIds (sensorItem sensor) [sensor.sensorId] rfl plain _ (mem_singleton_self _) rfl, mem_singleton]

theorem listed_sensor {robot} {done} {items} {sensor}
    (listed : Listed robot done items) (node : sensor.identity.node = strip robot.node) :
    Listed robot (done ++ [sensor]) (addSensor items sensor) := by
  have last : sensor ∈ done ++ [sensor] := mem_append_right _ (mem_singleton_self sensor)
  have earlier {s : Sensor} (old : s ∈ done) : s ∈ done ++ [sensor] := mem_append_left _ old
  unfold addSensor
  split
  · rename_i present
    -- what the item of the sensor becomes, and the others stay
    have spec (item : Resource) (member : item ∈ items) : ∃ item',
        (if item.identity = sensor.identity.key ∧ item.kind = sensorKind then addName item sensor.sensorId
          else item) = item' ∧ item'.identity = item.identity ∧ item'.kind = item.kind ∧ item'.Written ∧
        ∀ name, name ∈ candidateIds item' ↔ name ∈ candidateIds item ∨
          (item.identity = sensor.identity.key ∧ item.kind = sensorKind) ∧ name = sensor.sensorId := by
      split
      · rename_i own
        obtain ⟨identity, kind, written, names⟩ :=
          addName_spec (listed.written item member) own.2 sensor.named
        exact ⟨_, rfl, identity, kind, written, fun name => by rw [names]; simp [own]⟩
      · rename_i other
        exact ⟨item, rfl, rfl, rfl, listed.written item member, fun name => by simp [other]⟩
    have identities : (items.map fun item =>
        if item.identity = sensor.identity.key ∧ item.kind = sensorKind then addName item sensor.sensorId
        else item).map Resource.identity = items.map Resource.identity := by
      rw [map_map]
      refine map_congr_left fun item member => ?_
      obtain ⟨item', same, identity, _⟩ := spec item member
      exact (congrArg Resource.identity same).trans identity
    refine ⟨by rw [identities]; exact listed.distinct, fun item' member => ?_, fun item' member unlike => ?_,
      fun item' member kind' name held => ?_, fun s member => ?_⟩
    · obtain ⟨item, old, rfl⟩ := List.mem_map.mp member
      obtain ⟨_, rfl, _, _, written, _⟩ := spec item old
      exact written
    · obtain ⟨item, old, rfl⟩ := List.mem_map.mp member
      obtain ⟨_, rfl, identity, kind, _⟩ := spec item old
      rw [identity]
      exact listed.robots item old (kind ▸ unlike)
    · obtain ⟨item, old, rfl⟩ := List.mem_map.mp member
      obtain ⟨_, rfl, identity, kind, _, names⟩ := spec item old
      rw [identity]
      rcases (names name).mp held with before | ⟨⟨own, _⟩, rfl⟩
      · obtain ⟨s, known, rest⟩ := listed.sound item old (kind ▸ kind') name before
        exact ⟨s, earlier known, rest⟩
      · exact ⟨sensor, last, rfl, own.symm⟩
    · rcases List.mem_append.mp member with old | new
      · obtain ⟨item, there, kind, name⟩ := listed.complete s old
        obtain ⟨_, rfl, _, kind', _, names⟩ := spec item there
        exact ⟨_, List.mem_map.mpr ⟨item, there, rfl⟩, kind'.trans kind, (names _).mpr (.inl name)⟩
      · obtain rfl := List.mem_singleton.mp new
        obtain ⟨item, there, key⟩ := List.mem_map.mp present
        have sensorItem' : item.kind = sensorKind := by
          by_contra unlike
          obtain ⟨value, robotKey⟩ := listed.robots item there unlike
          have sensorKey : s.identity.key = (⟨strip robot.node, sensorKind, s.identity.value⟩ :
              ResourceIdentity).key := by rw [← node, ← s.sensor]
          exact key_ne ((robotKey.symm.trans key).trans sensorKey)
        obtain ⟨_, rfl, _, kind', _, names⟩ := spec item there
        exact ⟨_, List.mem_map.mpr ⟨item, there, rfl⟩, kind'.trans sensorItem',
          (names _).mpr (.inr ⟨⟨key, sensorItem'⟩, rfl⟩)⟩
  · rename_i fresh
    obtain ⟨written, names⟩ := written_sensorItem sensor
    refine ⟨distinct_append listed.distinct fresh, fun item member => ?_, fun item member unlike => ?_,
      fun item member kind name held => ?_, fun s member => ?_⟩
    · rcases List.mem_append.mp member with old | new
      · exact listed.written item old
      · rwa [List.mem_singleton.mp new]
    · rcases List.mem_append.mp member with old | new
      · exact listed.robots item old unlike
      · rw [List.mem_singleton.mp new] at unlike
        exact absurd sensor.sensor unlike
    · rcases List.mem_append.mp member with old | new
      · obtain ⟨s, known, rest⟩ := listed.sound item old kind name held
        exact ⟨s, earlier known, rest⟩
      · obtain rfl := List.mem_singleton.mp new
        exact ⟨sensor, last, ((names name).mp held).symm, rfl⟩
    · rcases List.mem_append.mp member with old | new
      · obtain ⟨item, there, rest⟩ := listed.complete s old
        exact ⟨item, mem_append_left _ there, rest⟩
      · obtain rfl := List.mem_singleton.mp new
        exact ⟨sensorItem s, mem_append_right _ (mem_singleton_self _), s.sensor, (names _).mpr rfl⟩

theorem listed_controlResources {robot} {inputs}
    (nodes : ∀ input ∈ inputs, input.2.identity.node = strip robot.node) :
    Listed robot (inputs.map Prod.snd) (controlResources robot inputs) := by
  refine foldl_rule (fun done sensor items member listed => ?_) (listed_ports robot)
  obtain ⟨input, here, rfl⟩ := List.mem_map.mp member
  exact listed_sensor listed (nodes input here)

/-! ## The configurations of one robot -/

theorem profileForRuntime_controlService (robot : Robot) (runtime : Runtime) :
    (controlService robot runtime).profileForRuntime (controlService robot runtime).runtimeId =
      some (controlService robot runtime).toControlRuntimeProfile := by
  simp [ControlServiceConfig.profileForRuntime, controlService]

/-- **What the plan writes** is planned. -/
theorem planned_controls {robot} {runtimes} (deployed : Deployed robot runtimes) :
    Planned (runtimes.map (controlService robot)) := by
  have lists (runtime : Runtime) (member : runtime ∈ runtimes) :=
    listed_controlResources (deployed.nodes runtime member)
  refine ⟨?_, fun a here b there => ?_, fun config member => ?_, fun config member => ?_,
    fun config member profile own input given unselected => ?_, fun a here b there x xs y ys name nx ny => ?_⟩
  · rw [map_map]
    exact deployed.distinct
  · obtain ⟨_, _, rfl⟩ := List.mem_map.mp here
    obtain ⟨_, _, rfl⟩ := List.mem_map.mp there
    rfl
  · obtain ⟨runtime, here, rfl⟩ := List.mem_map.mp member
    exact (lists runtime here).written
  · obtain ⟨runtime, here, rfl⟩ := List.mem_map.mp member
    exact (lists runtime here).distinct
  · obtain ⟨runtime, here, rfl⟩ := List.mem_map.mp member
    have profile' : (controlService robot runtime).toControlRuntimeProfile = profile :=
      Option.some.inj ((profileForRuntime_controlService robot runtime).symm.trans own)
    rw [← profile'] at given
    obtain ⟨pair, listed, rfl⟩ := List.mem_map.mp given
    obtain ⟨item, there, kind, name⟩ := (lists runtime here).complete pair.2 (List.mem_map.mpr ⟨pair, listed, rfl⟩)
    exact ne_nil_of_mem (mem_found.mpr ⟨there, kind, name⟩)
  · obtain ⟨first, a, rfl⟩ := List.mem_map.mp here
    obtain ⟨second, b, rfl⟩ := List.mem_map.mp there
    obtain ⟨xs, kind⟩ := List.mem_filter.mp xs
    obtain ⟨ys, kind'⟩ := List.mem_filter.mp ys
    obtain ⟨s, known, same, key⟩ := (lists first a).sound x xs (by simpa using kind) name nx
    obtain ⟨s', known', same', key'⟩ := (lists second b).sound y ys (by simpa using kind') name ny
    obtain ⟨pair, listed, rfl⟩ := List.mem_map.mp known
    obtain ⟨pair', listed', rfl⟩ := List.mem_map.mp known'
    rw [← key, ← key', deployed.sensors first a second b pair listed pair' listed' (same.trans same'.symm)]

/-- **A merged service** keeps the view of each runtime that the plan wrote. -/
theorem plan_keeps_views (fs : FileSystem) {robot} {runtimes} (deployed : Deployed robot runtimes) {merged}
    (accepted : mergeControlServices (runtimes.map (controlService robot)) = .ok merged)
    {runtime} (member : runtime ∈ runtimes) {input}
    (given : input ∈ (controlService robot runtime).inputs) :
    sensorIdentity fs (merged.forProfile (controlService robot runtime).toControlRuntimeProfile) input =
      sensorIdentity fs (controlService robot runtime) input :=
  sensorIdentity_merged (planned_controls deployed) accepted (List.mem_map.mpr ⟨runtime, member, rfl⟩)
    (profileForRuntime_controlService robot runtime) given

end EmbodiRun.Deployment.Views
