/-
# Deployment.Orphans -- what `down` stops of what `up` started

`down` stops the services that both the state file and the current plan name.  So a process
stays within reach while the table names its service on its node, and `down` reaches it while
the plan names the service too.
-/
import EmbodiRun.Deployment.Operations

namespace EmbodiRun.Deployment

open Data Transition List ServiceSpec ServiceState Dict

universe u

variable {κ : Type u} {plan : κ → Plan} {w : World κ} {op : Op κ}

/-! ## What the workers record and touch -/

def Names {α : Type} (serviceId : α → ServiceId) (node : α → NodeId) (services : List α)
    (p : ServiceId × NodeId) : Prop :=
  ∃ service ∈ services, (serviceId service, node service) = p

structure NodeRun.Within (worker : NodeRun) (of : ServiceId × NodeId → Prop) : Prop where
  records : ∀ record ∈ worker.records, of (record.serviceId, record.node)
  touched : ∀ p ∈ worker.touched, of p
variable {worker : NodeRun} {closes : Bool} {replies : ServiceId → StopReply} {node : NodeId}
  {service : ServiceState} {runs : NodeId → NodeRun} {saves : Bool}
  {previous : Option (DeploymentState κ)}

theorem NodeRun.Within.mono {of of'} (within : worker.Within of) (wider : ∀ p, of p → of' p) : worker.Within of' :=
  ⟨fun record member => wider _ (within.records record member), fun p member => wider p (within.touched p member)⟩

theorem NodeRun.Within.leave {of} (within : worker.Within of) : (worker.leave closes).Within of := by
  unfold NodeRun.leave
  split
  · exact ⟨nofun, within.touched⟩
  · exact within

theorem within_startAll {replies} (services : List ServiceSpec) :
    (startAll replies services).Within (Names ServiceSpec.serviceId ServiceSpec.node services) := by
  induction services with
  | nil => exact ⟨nofun, nofun⟩
  | cons service rest ih =>
    have here : Names ServiceSpec.serviceId ServiceSpec.node (service :: rest)
        (service.serviceId, service.node) := ⟨service, mem_cons_self, rfl⟩
    have later : (_ : NodeRun).Within (Names ServiceSpec.serviceId ServiceSpec.node (service :: rest)) :=
      ih.mono fun _ ⟨one, member, same⟩ => ⟨one, mem_cons_of_mem _ member, same⟩
    have alone (alive : Bool) : ∀ p ∈ (if alive then [(service.serviceId, service.node)] else []),
        Names ServiceSpec.serviceId ServiceSpec.node (service :: rest) p := by
      intro p member
      split at member
      · exact List.mem_singleton.mp member ▸ here
      · cases member
    unfold startAll
    cases replies service.serviceId with
    | ready =>
      exact ⟨List.forall_mem_cons.mpr ⟨here, later.records⟩, List.forall_mem_cons.mpr ⟨here, later.touched⟩⟩
    | failed pid alive =>
      exact ⟨fun record member => List.mem_singleton.mp member ▸ here, alone alive⟩
    | raised alive => exact ⟨nofun, alone alive⟩

theorem within_stopAll (services : List ServiceState) :
    (stopAll replies services).Within (Names ServiceState.serviceId ServiceState.node services) := by
  induction services with
  | nil => exact ⟨nofun, nofun⟩
  | cons service rest ih =>
    have here : Names ServiceState.serviceId ServiceState.node (service :: rest)
        (service.serviceId, service.node) := ⟨service, mem_cons_self, rfl⟩
    have later : (_ : NodeRun).Within (Names ServiceState.serviceId ServiceState.node (service :: rest)) :=
      ih.mono fun _ ⟨one, member, same⟩ => ⟨one, mem_cons_of_mem _ member, same⟩
    unfold stopAll
    cases replies service.serviceId with
    | stopped =>
      exact ⟨List.forall_mem_cons.mpr ⟨here, later.records⟩, List.forall_mem_cons.mpr ⟨here, later.touched⟩⟩
    | failed | raised => exact ⟨nofun, nofun⟩

variable {services : List ServiceState} {reply : DownReply} {state : DeploymentState κ}
  {nodes : List NodeId} {p : ServiceId × NodeId} {digest : κ}

theorem touched_of_stopAll (finished : (stopAll replies services).ending = .finished) :
    ∀ service ∈ services, (service.serviceId, service.node) ∈ (stopAll replies services).touched := by
  induction services with
  | nil => nofun
  | cons service rest ih =>
    unfold stopAll at finished ⊢
    cases reply : replies service.serviceId with
    | stopped =>
      rw [reply] at finished
      refine List.forall_mem_cons.mpr ⟨mem_cons_self, fun one member => ?_⟩
      exact mem_cons_of_mem _ (ih finished one member)
    | failed | raised =>
      rw [reply] at finished
      cases finished

theorem leave_finished (finished : (worker.leave closes).ending = .finished) :
    worker.ending = .finished ∧ (worker.leave closes).touched = worker.touched := by
  unfold NodeRun.leave at finished ⊢
  split at finished
  · cases finished
  · rename_i kept
    exact ⟨finished, by rw [if_neg kept]⟩

theorem within_upNode {services} {reply} :
    (upNode services reply node).Within (Names ServiceSpec.serviceId ServiceSpec.node services) := by
  unfold upNode
  split
  · exact ⟨nofun, nofun⟩
  · refine ((within_startAll _).mono ?_).leave
    exact fun _ ⟨one, member, same⟩ => ⟨one, (List.mem_filter.mp member).1, same⟩

theorem mem_byServiceId : service ∈ byServiceId services ↔ service ∈ services := by
  unfold byServiceId
  exact mem_insertionSort _

theorem within_downNode :
    (downNode services reply node).Within (Names ServiceState.serviceId ServiceState.node services) := by
  unfold downNode
  split
  · exact ⟨nofun, nofun⟩
  · refine ((within_stopAll _).mono ?_).leave
    exact fun _ ⟨one, member, same⟩ =>
      ⟨one, (List.mem_filter.mp (mem_byServiceId.mp member)).1, same⟩

theorem touched_of_downNode (finished : (downNode services reply node).ending = .finished)
    (member : service ∈ services) (here : service.node = node) :
    (service.serviceId, service.node) ∈ (downNode services reply node).touched := by
  have mine : service ∈ services.filter fun service => service.node = node :=
    List.mem_filter.mpr ⟨member, by simpa using here⟩
  unfold downNode at finished ⊢
  split at finished
  · rename_i none
    rw [none] at mine
    cases mine
  · obtain ⟨ends, same⟩ := leave_finished finished
    rw [same]
    exact touched_of_stopAll ends service (mem_byServiceId.mpr mine)

/-! ## The table of services -/

/-- The table is keyed by name, and holds every service of its plan on the plan's node. -/
structure Tabled (plan : κ → Plan) (state : DeploymentState κ) : Prop where
  distinct : state.services.Distinct
  keyed : ∀ item ∈ state.services.items, item.1 = item.2.serviceId
  planned : ∀ service ∈ (plan state.configDigest).services, ∃ record,
    state.services.get? service.serviceId = some record ∧ record.node = service.node

def Tracks (state : DeploymentState κ) (p : ServiceId × NodeId) : Prop :=
  ∃ record, state.services.get? p.1 = some record ∧ record.node = p.2

structure Tracked (plan : κ → Plan) (w : World κ) : Prop where
  tabled : ∀ state, w.saved = some state → Tabled plan state
  tracked : ∀ p ∈ w.live, ∃ state, w.saved = some state ∧ Tracks state p

theorem keyed_of_get? {serviceId} {record} (keyed : ∀ item ∈ state.services.items, item.1 = item.2.serviceId)
    (found : state.services.get? serviceId = some record) : record.serviceId = serviceId :=
  (keyed _ (mem_of_get? found)).symm

theorem tracks_updated
    (stay : ∀ node ∈ nodes, ∀ record ∈ (runs node).records, Tracks state (record.serviceId, record.node))
    (tracks : Tracks state p) : Tracks (state.record nodes runs) p := by
  obtain ⟨record, found, here⟩ := tracks
  rcases Dict.get?_foldl_set (k := p.1) ServiceState.serviceId id
    (nodes.flatMap fun node => (runs node).records) state.services with same | ⟨later, member, key, now⟩
  · exact ⟨record, same.trans found, here⟩
  · obtain ⟨node, inNodes, recorded⟩ := List.mem_flatMap.mp member
    obtain ⟨other, known, sameNode⟩ := stay node inNodes later recorded
    obtain rfl : other = record := Option.some.inj (known.symm.trans (key ▸ found))
    exact ⟨later, now, sameNode.symm.trans here⟩

theorem keyed_updated {services} (keyed : ∀ item ∈ services.items, item.1 = item.2.serviceId) :
    ∀ item ∈ (updated services nodes runs).items, item.1 = item.2.serviceId := by
  intro item held
  rcases mem_foldl_set (f := id) held with before | ⟨record, _, rfl⟩
  · exact keyed item before
  · rfl

theorem Tabled.record (tabled : Tabled plan state)
    (stay : ∀ node ∈ nodes, ∀ record ∈ (runs node).records, Tracks state (record.serviceId, record.node)) :
    Tabled plan (state.record nodes runs) where
  distinct := tabled.distinct.foldl_set (f := id) _
  keyed := keyed_updated tabled.keyed
  planned service member := tracks_updated (p := (service.serviceId, service.node)) stay (tabled.planned service member)

theorem tracked_init : Tracked plan ({} : World κ) := ⟨nofun, nofun⟩

theorem Tracked.save {failed} (tabled : Tabled plan state)
    (tracks : ∀ p ∈ w.live, Tracks state p) (unsaved : Tracked plan w) :
    Tracked plan (w.save state saves failed).2 := by
  rw [save_world]
  cases saves with
  | true =>
    refine ⟨fun other same => ?_, fun p member => ⟨state, rfl, tracks p member⟩⟩
    cases same
    exact tabled
  | false => exact unsaved

theorem node_of_available (available : state.unavailable nodes = none) (tracks : Tracks state p) :
    p.2 ∈ state.nodes.items.map Prod.fst ∧ p.2 ∈ nodes := by
  obtain ⟨record, found, here⟩ := tracks
  have one := List.find?_eq_none.mp available _ (mem_of_get? found)
  have both : (state.nodes.get? record.node).isSome ∧ record.node ∈ nodes := by
    simpa [Option.isSome_iff_ne_none] using one
  obtain ⟨node, present⟩ := Option.isSome_iff_exists.mp both.1
  exact here ▸ ⟨mem_map_of_mem (mem_of_get? present), both.2⟩

theorem touched_of_tracks {ids} (tabled : Tabled plan state) (tracks : Tracks state p) (selected : p.1 ∈ ids)
    (finished : (downNode (state.selected ids) reply p.2).ending = .finished) :
    p ∈ (downNode (state.selected ids) reply p.2).touched := by
  obtain ⟨record, found, here⟩ := tracks
  have own := keyed_of_get? tabled.keyed found
  have member : record ∈ state.selected ids := List.mem_filter.mpr
    ⟨List.mem_map.mpr ⟨_, mem_of_get? found, rfl⟩, by simpa [own] using selected⟩
  have touched := touched_of_downNode finished member here
  rwa [own, here] at touched

theorem live_down_ok {target} (tracked : Tracked plan w)
    (returned : (w.down plan digest target reply saves).1 = .ok ())
    (left : p ∈ (w.down plan digest target reply saves).2.live) :
    p ∈ w.live ∧ p.1 ∉ (plan digest).selected target := by
  rcases down_cases plan w digest target reply saves with
    ⟨⟨error, refused⟩, _⟩ | ⟨state, saved, available, same⟩
  · rw [refused] at returned
    cases returned
  rw [same] at returned left
  rw [save_world] at left
  obtain ⟨running, untouched⟩ := Finset.mem_sdiff.mp left
  refine ⟨running, fun selected => untouched (mem_touchedBy.mpr ?_)⟩
  obtain ⟨other, known, tracks⟩ := tracked.tracked p running
  obtain rfl := Option.some.inj (saved.symm.trans known)
  have visited := (node_of_available available tracks).1
  have ends : (state.stops ((plan digest).selected target) reply p.2).ending = .finished := by
    simpa using List.filter_eq_nil_iff.mp (save_ok returned).2 p.2 visited
  exact ⟨p.2, visited, touched_of_tracks (tracked.tabled state saved) tracks selected ends⟩

/-! ## The table that `init` builds -/

variable [DecidableEq κ]

theorem node_initialServiceState (previous : Option (DeploymentState κ)) (digest : κ)
    (service : ServiceSpec) : (initialServiceState previous digest service).node = service.node := by
  unfold initialServiceState
  dsimp only
  split
  · split
    · split
      · split
        · rename_i same
          exact same.1
        · rfl
      · rfl
    · rfl
  · rfl

theorem serviceId_initialServiceState {service}
    (keyed : ∀ state, previous = some state → ∀ item ∈ state.services.items, item.1 = item.2.serviceId) :
    (initialServiceState previous digest service).serviceId = service.serviceId := by
  unfold initialServiceState
  dsimp only
  split
  · rename_i state
    split
    · split
      · rename_i old found
        split
        · exact keyed_of_get? (keyed state rfl) found
        · rfl
      · rfl
    · rfl
  · rfl

theorem get?_initialState {replies} {service} (member : service ∈ (plan digest).services) :
    (initialState plan previous digest replies).services.get? service.serviceId =
      some (initialServiceState previous digest service) := by
  have assigned := get?_foldl_set (k := service.serviceId) Prod.fst Prod.snd
    ((plan digest).services.map fun service =>
      (service.serviceId, initialServiceState previous digest service)) .empty
  have present := (isSome_get?_ofItems (k := service.serviceId) ((plan digest).services.map fun service =>
      (service.serviceId, initialServiceState previous digest service))).mpr
    ⟨_, mem_map_of_mem member, rfl⟩
  rcases assigned with missing | ⟨item, held, key, found⟩
  · rw [ofItems, missing] at present
    cases present
  · obtain ⟨other, planned, rfl⟩ := List.mem_map.mp held
    obtain rfl : other = service :=
      inj_on_of_nodup_map (plan digest).distinct planned member key
    exact found

theorem tabled_initialState {replies} (before : ∀ state, previous = some state → Tabled plan state) :
    Tabled plan (initialState plan previous digest replies) where
  distinct := Dict.Distinct.foldl_set (d := .empty) _ nodup_nil
  keyed := by
    intro item held
    rcases mem_foldl_set held with none | ⟨one, member, rfl⟩
    · cases none
    · obtain ⟨service, _, rfl⟩ := List.mem_map.mp member
      exact (serviceId_initialServiceState fun state same => (before state same).keyed).symm
  planned service member :=
    ⟨_, get?_initialState member, node_initialServiceState previous digest service⟩

/-! ## Every operation -/

/-- The plan of `init` has every process's service on its node, and the plan of a `down` of
everything has its service. -/
def Covers (plan : κ → Plan) (w : World κ) : Op κ → Prop
  | .init digest replies saves => Initializes plan w digest replies saves →
      ∀ p ∈ w.live, ∃ service ∈ (plan digest).services, (service.serviceId, service.node) = p
  | .down digest none _ _ => ∀ p ∈ w.live, p.1 ∈ (plan digest).selected none
  | .down _ (some _) _ _ | .up _ _ _ => True

/-- **What an operation keeps**: the table of its plan's services, and every process in it. -/
theorem tracked_step (tracked : Tracked plan w) (covers : Covers plan w op) : Tracked plan (w.perform plan op).2 := by
  cases op with
  | init digest replies saves =>
    change Tracked plan (w.init plan digest replies saves).2
    rcases init_cases plan w digest replies saves with ⟨same, _⟩ | ⟨goes, same⟩
    · rwa [same]
    rw [same]
    refine ⟨fun state built => ?_, fun p member => ⟨_, rfl, ?_⟩⟩
    · cases built
      exact tabled_initialState tracked.tabled
    · obtain ⟨service, planned, rfl⟩ := covers goes p member
      exact ⟨_, get?_initialState planned, node_initialServiceState _ _ service⟩
  | up digest reply saves =>
    change Tracked plan (w.up plan digest reply saves).2
    rcases up_cases plan w digest reply saves with same | ⟨state, saved, current, _, same⟩
    · rwa [same]
    subst current
    rw [same]
    have tabled := tracked.tabled state saved
    have planned : ∀ node, (upNode (plan state.configDigest).services reply node).Within
        (Tracks state) := fun node => within_upNode.mono fun p ⟨service, member, named⟩ =>
      named ▸ tabled.planned service member
    have stay : ∀ node ∈ (plan state.configDigest).nodes,
        ∀ record ∈ (upNode (plan state.configDigest).services reply node).records,
          Tracks state (record.serviceId, record.node) := fun node _ => (planned node).records
    have known : ∀ p ∈ w.live ∪ touchedBy (plan state.configDigest).nodes
        (upNode (plan state.configDigest).services reply), Tracks state p := by
      intro p member
      rcases Finset.mem_union.mp member with old | new
      · obtain ⟨other, same, tracks⟩ := tracked.tracked p old
        obtain rfl := Option.some.inj (saved.symm.trans same)
        exact tracks
      · obtain ⟨node, _, touched⟩ := mem_touchedBy.mp new
        exact (planned node).touched p touched
    exact Tracked.save (tabled.record stay) (fun p member => tracks_updated stay (known p member))
      ⟨tracked.tabled, fun p member => ⟨state, saved, known p member⟩⟩
  | down digest target reply saves =>
    change Tracked plan (w.down plan digest target reply saves).2
    rcases down_cases plan w digest target reply saves with
      ⟨_, same, _⟩ | ⟨state, saved, _, same⟩
    · rwa [same]
    rw [same]
    have tabled := tracked.tabled state saved
    have stay : ∀ node ∈ state.visited, ∀ record ∈ (state.stops ((plan digest).selected target) reply node).records,
          Tracks state (record.serviceId, record.node) := by
      intro node _ record member
      obtain ⟨service, selected, same⟩ := within_downNode.records record member
      obtain ⟨item, held, rfl⟩ := List.mem_map.mp (List.mem_filter.mp selected).1
      refine same ▸ ⟨item.2, ?_, rfl⟩
      rw [← tabled.keyed item held]
      exact get?_of_mem tabled.distinct held
    have known : ∀ p ∈ w.live, Tracks state p := by
      intro p member
      obtain ⟨other, same, tracks⟩ := tracked.tracked p member
      obtain rfl := Option.some.inj (saved.symm.trans same)
      exact tracks
    refine Tracked.save (tabled.record stay) (fun p member => ?_) ⟨tracked.tabled, fun p member => ?_⟩
    · exact tracks_updated stay (known p (Finset.mem_sdiff.mp member).1)
    · exact ⟨state, saved, known p (Finset.mem_sdiff.mp member).1⟩

/-- **No orphaned service** is left by a `down` of everything, where each plan covers the processes. -/
theorem down_all_stops_all {ops : List (Op κ)} (ran : run (step plan) {} ops = some w)
    {digest : κ} {reply : DownReply} {saves : Bool}
    (covers : Along (step plan) (Covers plan) {} (ops ++ [.down digest none reply saves]))
    (returned : (w.down plan digest none reply saves).1 = .ok ()) :
    (w.down plan digest none reply saves).2.live = ∅ := by
  obtain ⟨before, last⟩ := (along_append ran).mp covers
  have tracked : Tracked plan w := by
    refine run_induction (fun v op v' covers tracked next => ?_) before tracked_init ran
    cases next
    exact tracked_step tracked covers
  refine Finset.eq_empty_iff_forall_notMem.mpr fun p left => ?_
  obtain ⟨running, unselected⟩ := live_down_ok tracked returned left
  exact unselected (last.1 p running)

/-! ## A failed start -/

def controlPlan : Plan where
  name := ['d']
  deployCommit := ['0']
  nodes := [['n']]
  environments := [⟨['e'], ['n'], ['d'], ['g']⟩]
  services := [⟨['c'], .control, ['n'], ['e'], ['u']⟩]
  distinct := by decide
  declared := by decide

def edited : Bool → Plan
  | false => controlPlan
  | true => { controlPlan with services := [], distinct := by decide, declared := by decide }

/-- The service is started, does not become healthy and is recorded as failed with its PID. -/
def startsUnhealthy : List (Op Bool) :=
  [.init false (fun _ => .ready ['h'] ['p'] none) true,
    .up false ⟨fun _ => .failed (some 7) true, fun _ => true⟩ true]

def stopsAll : DownReply := ⟨fun _ => .stopped, fun _ => true⟩

theorem down_all_stops_all_failed : ∃ w, run (step edited) {} startsUnhealthy = some w ∧ w.live = {(['c'], ['n'])} ∧
      (w.down edited false none stopsAll true).2.live = ∅ := by
  obtain ⟨w, ran, live, returned⟩ : ∃ w, run (step edited) {} startsUnhealthy = some w ∧
      w.live = {(['c'], ['n'])} ∧ (w.down edited false none stopsAll true).1 = .ok () :=
    ⟨_, rfl, rfl, rfl⟩
  refine ⟨w, ran, live, down_all_stops_all ran ?_ returned⟩
  refine (along_append ran).mpr ⟨⟨fun _ => nofun, fun _ _ => ⟨trivial, fun _ _ => trivial⟩⟩, ?_⟩
  refine ⟨fun p member => ?_, fun _ _ => trivial⟩
  rw [live] at member
  rw [Finset.mem_singleton.mp member]
  decide

/-- **A failed service is forgotten**: it runs, the configuration is edited, and `down` returns. -/
theorem failed_service_forgotten : ∃ w, run (step edited) {}
        (startsUnhealthy ++ [.init true (fun _ => .ready ['h'] ['p'] none) true]) = some w ∧
      (w.down edited true none stopsAll true).1 = .ok () ∧
      (w.down edited true none stopsAll true).2.live = {(['c'], ['n'])} :=
  ⟨_, rfl, rfl, rfl⟩

end EmbodiRun.Deployment
