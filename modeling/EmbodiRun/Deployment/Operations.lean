/-
# Deployment.Operations -- `init`, `up` and `down` on one state file

An operation runs to its end before the next begins.  What the nodes answer is given with the
operation: for each node, how its worker ends, and for each service, what became of the start
or the stop.  A worker that raises loses its result but not what it has done.

`live` holds the processes that `up` started: one for a service on a node, until a stop of
that service on that node succeeds.

Two configurations with one digest are one configuration: `config_digest` stands here for the
bytes it hashes, and `plan` for `build_plan` of what is read from them.
-/
import EmbodiRun.Data.Dict
import EmbodiRun.Devices.Identity
import EmbodiRun.Transition.Machine

namespace EmbodiRun.Deployment

open Data Devices

universe u

abbrev NodeId := Text
abbrev ServiceId := Text
abbrev EnvironmentId := Text

/-! ## The plan -/

inductive ServiceKind where
  | model | control | simulation | sensor
  deriving DecidableEq

structure ServiceSpec where
  serviceId : ServiceId
  kind : ServiceKind
  node : NodeId
  environmentId : EnvironmentId
  endpoint : Text

structure EnvironmentProfile where
  environmentId : EnvironmentId
  node : NodeId
  project : Text
  group : Text

/-- The nodes of a configuration and its plan.  `build_plan` refuses two services of one name,
and the configuration's references are to nodes it declares. -/
structure Plan where
  name : Text
  deployCommit : Text
  nodes : List NodeId
  environments : List EnvironmentProfile
  services : List ServiceSpec
  distinct : (services.map ServiceSpec.serviceId).Nodup
  declared : ∀ service ∈ services, service.node ∈ nodes

/-! ## The state file -/

inductive EnvironmentStatus where
  | pending | ready | failed
  deriving DecidableEq

structure EnvironmentState where
  environmentId : EnvironmentId
  node : NodeId
  project : Text
  group : Text
  status : EnvironmentStatus := .pending

structure NodeState where
  nodeId : NodeId
  home : Text
  python : Text

inductive ServiceStatus where
  | stopped | running | failed
  deriving DecidableEq

structure ServiceState where
  serviceId : ServiceId
  node : NodeId
  status : ServiceStatus := .stopped
  pid : Option Nat := none
  endpoint : Option Text := none
  deriving DecidableEq

/-- `DeploymentState` of a configuration `κ`. -/
structure DeploymentState (κ : Type u) where
  name : Text
  configDigest : κ
  deployCommit : Text
  inferenceCommit : Option Text
  nodes : Dict NodeId NodeState
  environments : Dict EnvironmentId EnvironmentState
  services : Dict ServiceId ServiceState

open DeploymentState

/-- The state file, and the processes that `up` started and no stop has ended. -/
structure World (κ : Type u) where
  saved : Option (DeploymentState κ) := none
  live : Finset (ServiceId × NodeId) := ∅

open World

inductive Failure where
  /-- "configuration changed while services are recorded as running". -/
  | changedWhileRunning (services : List ServiceId)
  /-- "nodes resolved different Inference revisions from Deploy". -/
  | differentRevisions
  /-- "deployment is not initialized". -/
  | notInitialized
  /-- "configuration changed since init; run init again". -/
  | changedSinceInit
  /-- "initialized state is missing nodes". -/
  | missingNodes (nodes : List NodeId)
  /-- "environment … is not ready; run init again". -/
  | environmentNotReady (environment : EnvironmentId)
  /-- "initialized service … references unavailable node …". -/
  | unavailableNode (service : ServiceId) (node : NodeId)
  /-- The summary of `_node_error_summary`. -/
  | onNodes (nodes : List NodeId)
  /-- `StateError`: the file cannot be written. -/
  | notSaved

/-- `store.save`, and then what the operation raises after it. -/
def World.save {κ : Type u} (w : World κ) (state : DeploymentState κ) (saves : Bool)
    (failed : List NodeId) : Except Failure Unit × World κ :=
  if saves then
    (if failed = [] then .ok () else .error (.onNodes failed), { w with saved := some state })
  else (.error .notSaved, w)

/-! ## `init` -/

/-- How `_initialize_node` ends. -/
inductive InitReply where
  | raised
  | ready (home python : Text) (inferenceCommit : Option Text)

def InitReply.isReady : InitReply → Bool
  | .ready _ _ _ => true
  | .raised => false

def Plan.profilesOn (plan : Plan) (node : NodeId) : List EnvironmentProfile :=
  plan.environments.filter fun profile => profile.node = node

def EnvironmentProfile.ready (profile : EnvironmentProfile) : EnvironmentState :=
  ⟨profile.environmentId, profile.node, profile.project, profile.group, .ready⟩

def readyNodes (plan : Plan) (replies : NodeId → InitReply) : List NodeId :=
  plan.nodes.filter fun node => (replies node).isReady

def nodeState (replies : NodeId → InitReply) (node : NodeId) : List (NodeId × NodeState) :=
  match replies node with
  | .ready home python _ => [(node, ⟨node, home, python⟩)]
  | .raised => []

def inferenceCommits (plan : Plan) (replies : NodeId → InitReply) : List Text :=
  plan.nodes.filterMap fun node => match replies node with
    | .ready _ _ inferenceCommit => inferenceCommit
    | .raised => none

/-- `len(inference_commits) > 1`. -/
def revisionsDiffer (plan : Plan) (replies : NodeId → InitReply) : Bool :=
  1 < (inferenceCommits plan replies).dedup.length

def DeploymentState.running {κ : Type u} (state : DeploymentState κ) : List ServiceId :=
  (state.services.items.filter fun item => item.2.status = .running).map Prod.fst

section

variable {κ : Type u} [DecidableEq κ] (plan : κ → Plan)

/-- `_initial_service_state`, for one service. -/
def initialServiceState (previous : Option (DeploymentState κ)) (digest : κ) (service : ServiceSpec) : ServiceState :=
  let fresh : ServiceState :=
    { serviceId := service.serviceId, node := service.node, endpoint := some service.endpoint }
  match previous with
  | some state =>
    if state.configDigest = digest then
      match state.services.get? service.serviceId with
      | some old =>
        if old.node = service.node ∧ old.endpoint = some service.endpoint then old else fresh
      | none => fresh
    else fresh
  | none => fresh

/-- What `init` builds from the workers that returned. -/
def initialState (previous : Option (DeploymentState κ)) (digest : κ)
    (replies : NodeId → InitReply) : DeploymentState κ where
  name := (plan digest).name
  configDigest := digest
  deployCommit := (plan digest).deployCommit
  inferenceCommit := (inferenceCommits (plan digest) replies).head?
  nodes := .ofItems ((plan digest).nodes.flatMap (nodeState replies))
  environments := .ofItems ((readyNodes (plan digest) replies).flatMap fun node =>
    ((plan digest).profilesOn node).map fun profile => (profile.environmentId, profile.ready))
  services := .ofItems ((plan digest).services.map fun service =>
    (service.serviceId, initialServiceState previous digest service))

def World.runningElsewhere (w : World κ) (digest : κ) : List ServiceId :=
  match w.saved with
  | some previous => if previous.configDigest = digest then [] else previous.running
  | none => []

def World.init (w : World κ) (digest : κ) (replies : NodeId → InitReply) (saves : Bool) :
    Except Failure Unit × World κ :=
  if w.runningElsewhere digest ≠ [] then
    (.error (.changedWhileRunning (w.runningElsewhere digest)), w)
  else if revisionsDiffer (plan digest) replies then (.error .differentRevisions, w)
  else
    w.save (initialState plan w.saved digest replies) saves
      ((plan digest).nodes.filter fun node => !(replies node).isReady)

/-! ## `up` -/

/-- What becomes of one service in `_up_node`; `alive` where its process runs all the same. -/
inductive StartReply where
  | ready (pid : Nat)
  /-- An error that `_up_node` records, with the PID if there is one. -/
  | failed (pid : Option Nat) (alive : Bool)
  /-- An exception that ends the worker. -/
  | raised (alive : Bool)

inductive Ending where
  | finished | failed | raised
  deriving DecidableEq

structure NodeRun where
  records : List ServiceState
  touched : List (ServiceId × NodeId)
  ending : Ending

def ServiceSpec.record (service : ServiceSpec) (status : ServiceStatus) (pid : Option Nat) : ServiceState :=
  ⟨service.serviceId, service.node, status, pid, some service.endpoint⟩

/-- The loop of `_up_node`. -/
def startAll (replies : ServiceId → StartReply) : List ServiceSpec → NodeRun
  | [] => ⟨[], [], .finished⟩
  | service :: rest =>
    let key := (service.serviceId, service.node)
    match replies service.serviceId with
    | .ready pid =>
      let later := startAll replies rest
      ⟨service.record .running (some pid) :: later.records, key :: later.touched, later.ending⟩
    | .failed pid alive =>
      ⟨[service.record .failed pid], if alive then [key] else [], .failed⟩
    | .raised alive => ⟨[], if alive then [key] else [], .raised⟩

/-- The end of `with context.executor(…)`; an exception there loses the records too. -/
def NodeRun.leave (worker : NodeRun) (closes : Bool) : NodeRun :=
  if worker.ending = .raised ∨ closes = false then { worker with records := [], ending := .raised }
  else worker

structure UpReply where
  start : ServiceId → StartReply
  closes : NodeId → Bool

def upNode (services : List ServiceSpec) (reply : UpReply) (node : NodeId) : NodeRun :=
  match services.filter fun service => service.node = node with
  | [] => ⟨[], [], .finished⟩
  | mine => (startAll reply.start mine).leave (reply.closes node)

def failedNodes (nodes : List NodeId) (runs : NodeId → NodeRun) : List NodeId :=
  nodes.filter fun node => (runs node).ending ≠ .finished

/-- `services.update(result.services)`, node by node. -/
def updated (services : Dict ServiceId ServiceState) (nodes : List NodeId) (runs : NodeId → NodeRun) :
    Dict ServiceId ServiceState :=
  (nodes.flatMap fun node => (runs node).records).foldl
    (fun services record => services.set record.serviceId record) services

def touchedBy (nodes : List NodeId) (runs : NodeId → NodeRun) : Finset (ServiceId × NodeId) :=
  (nodes.flatMap fun node => (runs node).touched).toFinset

def DeploymentState.record (state : DeploymentState κ) (nodes : List NodeId)
    (runs : NodeId → NodeRun) : DeploymentState κ :=
  { state with services := updated state.services nodes runs }

def World.up (w : World κ) (digest : κ) (reply : UpReply) (saves : Bool) : Except Failure Unit × World κ :=
  match w.saved with
  | none => (.error .notInitialized, w)
  | some state =>
    if state.configDigest ≠ digest then (.error .changedSinceInit, w)
    else
      let missing := (plan digest).nodes.filter fun node => (state.nodes.get? node).isNone
      if missing ≠ [] then (.error (.missingNodes missing), w)
      else
        match (plan digest).services.find? fun service =>
            (state.environments.get? service.environmentId).all fun environment =>
              environment.status ≠ .ready with
        | some service => (.error (.environmentNotReady service.environmentId), w)
        | none =>
          let nodes := (plan digest).nodes
          let runs := upNode (plan digest).services reply
          save { w with live := w.live ∪ touchedBy nodes runs } (state.record nodes runs)
            saves (failedNodes nodes runs)

/-! ## `down` -/

/-- What becomes of one `supervisor.stop`. -/
inductive StopReply where
  | stopped | failed | raised
  deriving Repr

/-- The loop of `_down_node`. -/
def stopAll (replies : ServiceId → StopReply) : List ServiceState → NodeRun
  | [] => ⟨[], [], .finished⟩
  | service :: rest =>
    match replies service.serviceId with
    | .stopped =>
      let later := stopAll replies rest
      ⟨{ service with status := .stopped, pid := none } :: later.records,
        (service.serviceId, service.node) :: later.touched, later.ending⟩
    | .failed => ⟨[], [], .failed⟩
    | .raised => ⟨[], [], .raised⟩

structure DownReply where
  stop : ServiceId → StopReply
  closes : NodeId → Bool

/-- `sorted(services, key=lambda item: item.service_id)`. -/
def byServiceId (services : List ServiceState) : List ServiceState :=
  services.insertionSort fun a b => a.serviceId ≤ b.serviceId

def downNode (services : List ServiceState) (reply : DownReply) (node : NodeId) : NodeRun :=
  match services.filter fun service => service.node = node with
  | [] => ⟨[], [], .finished⟩
  | mine => (stopAll reply.stop (byServiceId mine)).leave (reply.closes node)

/-- `target`: all services, or those of one kind. -/
def Plan.selected (plan : Plan) (target : Option ServiceKind) : List ServiceId :=
  (plan.services.filter fun service => target.all fun kind => service.kind = kind).map ServiceSpec.serviceId

/-- The first service of the state whose node is gone from the state or from the configuration. -/
def DeploymentState.unavailable (state : DeploymentState κ) (nodes : List NodeId) :
    Option (ServiceId × ServiceState) :=
  state.services.items.find? fun item =>
    (state.nodes.get? item.2.node).isNone ∨ item.2.node ∉ nodes

def DeploymentState.selected (state : DeploymentState κ) (ids : List ServiceId) : List ServiceState :=
  (state.services.items.map Prod.snd).filter fun service => service.serviceId ∈ ids

def World.down (w : World κ) (digest : κ) (target : Option ServiceKind) (reply : DownReply)
    (saves : Bool) : Except Failure Unit × World κ :=
  match w.saved with
  | none => (.error .notInitialized, w)
  | some state => match state.unavailable (plan digest).nodes with
      | some (serviceId, service) => (.error (.unavailableNode serviceId service.node), w)
      | none =>
        let nodes := state.nodes.items.map Prod.fst
        let runs := downNode (state.selected ((plan digest).selected target)) reply
        save { w with live := w.live \ touchedBy nodes runs } (state.record nodes runs) saves (failedNodes nodes runs)

/-! ## The machine -/

/-- An operation with its configuration, what the nodes answer, and whether the state file can be
written. -/
inductive Op (κ : Type u) where
  | init (digest : κ) (replies : NodeId → InitReply) (saves : Bool)
  | up (digest : κ) (reply : UpReply) (saves : Bool)
  | down (digest : κ) (target : Option ServiceKind) (reply : DownReply) (saves : Bool)

def Op.digest : Op κ → κ
  | .init digest _ _ | .up digest _ _ | .down digest _ _ _ => digest

def World.perform (w : World κ) : Op κ → Except Failure Unit × World κ
  | .init digest replies saves => w.init plan digest replies saves
  | .up digest reply saves => w.up plan digest reply saves
  | .down digest target reply saves => w.down plan digest target reply saves

def step (w : World κ) (op : Op κ) : Option (World κ) := some (w.perform plan op).2

end

/-! ## What an operation does -/

variable {κ : Type u} {plan : κ → Plan} {w : World κ} {digest : κ} {saves : Bool}
variable {state : DeploymentState κ} {failed : List NodeId}

theorem save_world : (w.save state saves failed).2 = { w with saved := if saves then some state else w.saved } := by
  unfold save
  cases saves <;> rfl

theorem save_ok (returned : (w.save state saves failed).1 = .ok ()) : saves = true ∧ failed = [] := by
  unfold save at returned
  split at returned
  · rename_i written
    dsimp only at returned
    split at returned
    · exact ⟨written, ‹_›⟩
    · cases returned
  · cases returned

theorem mem_touchedBy {nodes} {runs} {p} : p ∈ touchedBy nodes runs ↔ ∃ node ∈ nodes, p ∈ (runs node).touched := by
  rw [touchedBy, List.mem_toFinset, List.mem_flatMap]

/-- The nodes `down` visits, and what their workers do. -/
def DeploymentState.visited (state : DeploymentState κ) : List NodeId := state.nodes.items.map Prod.fst

def DeploymentState.stops (state : DeploymentState κ) (ids : List ServiceId) (reply : DownReply) : NodeId → NodeRun :=
  downNode (state.selected ids) reply

theorem down_cases (plan : κ → Plan) (w : World κ) (digest : κ) (target : Option ServiceKind)
    (reply : DownReply) (saves : Bool) :
    ((∃ error, (w.down plan digest target reply saves).1 = .error error) ∧
        (w.down plan digest target reply saves).2 = w ∧
        ∀ state, w.saved = some state → state.unavailable (plan digest).nodes ≠ none) ∨
      ∃ state, w.saved = some state ∧ state.unavailable (plan digest).nodes = none ∧
        w.down plan digest target reply saves = save { w with
              live := w.live \ touchedBy state.visited (state.stops ((plan digest).selected target) reply) }
            (state.record state.visited (state.stops ((plan digest).selected target) reply)) saves
            (failedNodes state.visited (state.stops ((plan digest).selected target) reply)) := by
  unfold down
  cases saved : w.saved with
  | none => exact .inl ⟨⟨_, rfl⟩, rfl, nofun⟩
  | some state =>
    cases available : state.unavailable (plan digest).nodes with
    | some =>
      dsimp only
      rw [available]
      refine .inl ⟨⟨_, rfl⟩, rfl, fun other same => ?_⟩
      obtain rfl := Option.some.inj same
      rw [available]
      nofun
    | none =>
      dsimp only
      rw [available]
      exact .inr ⟨state, rfl, available, rfl⟩

variable [DecidableEq κ]

/-- `init` gets as far as the state file. -/
def Initializes (plan : κ → Plan) (w : World κ) (digest : κ) (replies : NodeId → InitReply) (saves : Bool) : Prop :=
  w.runningElsewhere digest = [] ∧ revisionsDiffer (plan digest) replies = false ∧ saves = true

theorem init_cases (plan : κ → Plan) (w : World κ) (digest : κ) (replies : NodeId → InitReply) (saves : Bool) :
    (w.init plan digest replies saves).2 = w ∧ ¬ Initializes plan w digest replies saves ∨
      Initializes plan w digest replies saves ∧ (w.init plan digest replies saves).2 =
        { w with saved := some (initialState plan w.saved digest replies) } := by
  unfold init Initializes
  split
  · rename_i busy
    exact .inl ⟨rfl, fun idle => busy idle.1⟩
  rename_i idle
  split
  · rename_i differ
    exact .inl ⟨rfl, fun agree => by rw [agree.2.1] at differ; cases differ⟩
  rename_i agree
  rw [save_world]
  cases saves with
  | true => exact .inr ⟨⟨not_not.mp idle, Bool.eq_false_iff.mpr agree, rfl⟩, rfl⟩
  | false => exact .inl ⟨rfl, fun written => nomatch written.2.2⟩

theorem up_cases (plan : κ → Plan) (w : World κ) (digest : κ) (reply : UpReply) (saves : Bool) :
    (w.up plan digest reply saves).2 = w ∨ ∃ state, w.saved = some state ∧ state.configDigest = digest ∧
        (∀ node ∈ (plan digest).nodes, (state.nodes.get? node).isSome) ∧
        w.up plan digest reply saves = save { w with
              live := w.live ∪ touchedBy (plan digest).nodes (upNode (plan digest).services reply) }
            (state.record (plan digest).nodes (upNode (plan digest).services reply)) saves
            (failedNodes (plan digest).nodes (upNode (plan digest).services reply)) := by
  unfold up
  split
  · exact .inl rfl
  rename_i state saved
  split
  · exact .inl rfl
  rename_i current
  dsimp only
  split
  · exact .inl rfl
  rename_i missing
  split
  · exact .inl rfl
  refine .inr ⟨state, saved, not_not.mp current, fun node member => ?_, rfl⟩
  have present := List.filter_eq_nil_iff.mp (not_not.mp missing) node member
  simpa [Option.isSome_iff_ne_none] using present

end EmbodiRun.Deployment
