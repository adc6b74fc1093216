/-
# Deployment.Recovery -- the state file after partial failures

`init` saves the nodes and environments of the workers that returned, and the services of the
whole plan.  `up` and `down` change only the table of services, and `down` refuses to do
anything where a service of that table is on a node that is not in the table of nodes.
-/
import EmbodiRun.Deployment.Orphans

namespace EmbodiRun.Deployment

open Data Transition ServiceSpec

universe u

variable {κ : Type u} {plan : κ → Plan} {digest : κ} {w : World κ} {op : Op κ}
variable {state : DeploymentState κ}

/-! ## Closed tables -/

structure Closed (state : DeploymentState κ) : Prop where
  services : ∀ item ∈ state.services.items, (state.nodes.get? item.2.node).isSome
  environments : ∀ item ∈ state.environments.items, (state.nodes.get? item.2.node).isSome

structure Healthy (state : DeploymentState κ) (reply : DownReply) (node : NodeId) : Prop where
  stops : ∀ item ∈ state.services.items, item.2.node = node → reply.stop item.2.serviceId = .stopped
  closes : reply.closes node = true

/-- The table is closed, `down` finds no service unavailable, and stops on a healthy node what it is asked to. -/
structure Recoverable (plan : κ → Plan) (digest : κ) (w : World κ) (state : DeploymentState κ) :
    Prop where
  closed : Closed state
  available : state.unavailable (plan digest).nodes = none
  stops : ∀ target reply saves node, Healthy state reply node →
    ∀ p ∈ (w.down plan digest target reply saves).2.live, p.2 = node → p.1 ∉ (plan digest).selected target

structure Settled (plan : κ → Plan) (digest : κ) (w : World κ) : Prop where
  tracked : Tracked plan w
  processes : ∀ p ∈ w.live, Names serviceId node (plan digest).services p
  current : ∀ state, w.saved = some state → state.configDigest = digest
  only : ∀ state, w.saved = some state → ∀ item ∈ state.services.items,
    Names serviceId node (plan digest).services (item.2.serviceId, item.2.node)

theorem unavailable_of_closed (closed : Closed state) (only : ∀ item ∈ state.services.items,
      Names serviceId node (plan digest).services
        (item.2.serviceId, item.2.node)) : state.unavailable (plan digest).nodes = none := by
  refine List.find?_eq_none.mpr fun item member => ?_
  obtain ⟨service, planned, same⟩ := only item member
  have declared : item.2.node ∈ (plan digest).nodes :=
    (Prod.mk.inj same).2 ▸ (plan digest).declared service planned
  have present := closed.services item member
  rw [Option.isSome_iff_ne_none] at present
  simp [declared, present]

theorem stopAll_finished {replies} {services} (stops : ∀ service ∈ services, replies service.serviceId = .stopped) :
    (stopAll replies services).ending = .finished := by
  induction services with
  | nil => rfl
  | cons service rest ih =>
    obtain ⟨here, later⟩ := List.forall_mem_cons.mp stops
    unfold stopAll
    rw [here]
    exact ih later
variable {reply : DownReply} {node : NodeId} {saves : Bool} {nodes : List NodeId}
  {runs : NodeId → NodeRun} {failed : List NodeId}

theorem downNode_finished {ids} (healthy : Healthy state reply node) :
    (downNode (state.selected ids) reply node).ending = .finished := by
  unfold downNode
  split
  · rfl
  · have finished : (stopAll reply.stop
        (byServiceId ((state.selected ids).filter fun service => service.node = node))).ending = .finished := by
      refine stopAll_finished fun service member => ?_
      obtain ⟨selected, here⟩ := List.mem_filter.mp (mem_byServiceId.mp member)
      obtain ⟨item, held, rfl⟩ := List.mem_map.mp (List.mem_filter.mp selected).1
      exact healthy.stops item held (by simpa using here)
    unfold NodeRun.leave
    rw [healthy.closes, finished]
    exact finished

theorem stops_of_closed (tracked : Tracked plan w) (saved : w.saved = some state)
    (available : state.unavailable (plan digest).nodes = none) {target}
    (healthy : Healthy state reply node) {p}
    (left : p ∈ (w.down plan digest target reply saves).2.live) (here : p.2 = node) :
    p.1 ∉ (plan digest).selected target := by
  subst here
  intro selected
  rcases down_cases plan w digest target reply saves with
    ⟨_, _, refused⟩ | ⟨other, present, _, same⟩
  · exact refused state saved available
  obtain rfl := Option.some.inj (saved.symm.trans present)
  rw [same, save_world] at left
  obtain ⟨running, untouched⟩ := Finset.mem_sdiff.mp left
  obtain ⟨other, known, tracks⟩ := tracked.tracked p running
  obtain rfl := Option.some.inj (saved.symm.trans known)
  exact untouched (mem_touchedBy.mpr ⟨p.2, (node_of_available available tracks).1,
    touched_of_tracks (tracked.tabled state saved) tracks selected (downNode_finished healthy)⟩)

theorem recoverable_of_closed (settled : Settled plan digest w) (saved : w.saved = some state)
    (closed : Closed state) : Recoverable plan digest w state := by
  have available := unavailable_of_closed closed (settled.only state saved)
  exact ⟨closed, available, fun _ _ _ _ healthy _ left here =>
    stops_of_closed settled.tracked saved available healthy left here⟩

/-! ## What recording keeps -/

theorem settled_init : Settled plan digest ({} : World κ) := ⟨tracked_init, nofun, nofun, nofun⟩

theorem only_record {of} (only : ∀ item ∈ state.services.items, of (item.2.serviceId, item.2.node))
    (within : ∀ node, (runs node).Within of) :
    ∀ item ∈ (state.record nodes runs).services.items, of (item.2.serviceId, item.2.node) := by
  intro item held
  rcases Dict.mem_foldl_set (f := id) held with before | ⟨record, member, rfl⟩
  · exact only item before
  · obtain ⟨node, _, recorded⟩ := List.mem_flatMap.mp member
    exact (within node).records record recorded

theorem closed_record (closed : Closed state)
    (within : ∀ node, ∀ record ∈ (runs node).records, (state.nodes.get? record.node).isSome) :
    Closed (state.record nodes runs) := by
  refine ⟨fun item held => ?_, closed.environments⟩
  rcases Dict.mem_foldl_set (f := id) held with before | ⟨record, member, rfl⟩
  · exact closed.services item before
  · obtain ⟨node, _, recorded⟩ := List.mem_flatMap.mp member
    exact within node record recorded

def SavedClosed (w : World κ) : Prop := ∀ state, w.saved = some state → Closed state

theorem savedClosed_save (closed : Closed state) (before : SavedClosed w) :
    SavedClosed (w.save state saves failed).2 := by
  rw [save_world]
  cases saves with
  | true =>
    intro other same
    cases same
    exact closed
  | false => exact before

theorem Settled.save {live} (settled : Settled plan digest w) (saved : w.saved = some state)
    (within : ∀ node, (runs node).Within (Names ServiceSpec.serviceId ServiceSpec.node (plan digest).services))
    (processes : ∀ p ∈ live, Names ServiceSpec.serviceId ServiceSpec.node (plan digest).services p)
    (tracked : Tracked plan (World.save { w with live } (state.record nodes runs) saves failed).2) :
    Settled plan digest (World.save { w with live } (state.record nodes runs) saves failed).2 := by
  refine ⟨tracked, ?_, ?_, ?_⟩ <;> rw [save_world]
  · exact processes
  · intro other same
    cases saves with
    | true =>
      cases same
      exact settled.current state saved
    | false => exact settled.current other same
  · intro other same
    cases saves with
    | true =>
      cases same
      exact only_record (settled.only state saved) within
    | false => exact settled.only other same

/-! ## Every operation on one configuration -/

section

variable [DecidableEq κ]

/-- An `init` that gets to the state file finds every node with a planned service ready. -/
def Reaches (plan : κ → Plan) (w : World κ) : Op κ → Prop
  | .init digest replies saves => Initializes plan w digest replies saves →
      ∀ service ∈ (plan digest).services, (replies service.node).isReady = true
  | .up _ _ _ | .down _ _ _ _ => True

theorem covers_of_settled (settled : Settled plan digest w) (same : op.digest = digest) : Covers plan w op := by
  subst same
  cases op with
  | init => exact fun _ => settled.processes
  | up => trivial
  | down digest target =>
    cases target with
    | some => trivial
    | none =>
      intro p member
      obtain ⟨service, planned, rfl⟩ := settled.processes p member
      exact List.mem_map_of_mem (List.mem_filter.mpr ⟨planned, rfl⟩)

theorem settled_step (settled : Settled plan digest w) (same : op.digest = digest) :
    Settled plan digest (w.perform plan op).2 := by
  have tracked := tracked_step settled.tracked (covers_of_settled settled same)
  subst same
  cases op with
  | init digest replies saves =>
    change Settled plan digest (w.init plan digest replies saves).2
    change Tracked plan (w.init plan digest replies saves).2 at tracked
    rcases init_cases plan w digest replies saves with ⟨same, _⟩ | ⟨goes, same⟩
    · rwa [same]
    rw [same] at tracked ⊢
    refine ⟨tracked, settled.processes, fun other built => ?_, fun other built item held => ?_⟩
    · cases built
      rfl
    · cases built
      rcases Dict.mem_foldl_set held with none | ⟨one, member, rfl⟩
      · cases none
      · obtain ⟨service, planned, rfl⟩ := List.mem_map.mp member
        have keyed := fun state same => (settled.tracked.tabled state same).keyed
        exact ⟨service, planned, Prod.ext (serviceId_initialServiceState keyed).symm
          (node_initialServiceState _ _ service).symm⟩
  | up digest reply saves =>
    change Settled plan digest (w.up plan digest reply saves).2
    change Tracked plan (w.up plan digest reply saves).2 at tracked
    rcases up_cases plan w digest reply saves with same | ⟨state, saved, _, _, same⟩
    · rwa [same]
    rw [same] at tracked ⊢
    refine settled.save saved (fun _ => within_upNode) (fun p member => ?_) tracked
    rcases Finset.mem_union.mp member with old | new
    · exact settled.processes p old
    · obtain ⟨node, _, touched⟩ := mem_touchedBy.mp new
      exact within_upNode.touched p touched
  | down digest target reply saves =>
    change Settled plan digest (w.down plan digest target reply saves).2
    change Tracked plan (w.down plan digest target reply saves).2 at tracked
    rcases down_cases plan w digest target reply saves with
      ⟨_, same, _⟩ | ⟨state, saved, _, same⟩
    · rwa [same]
    rw [same] at tracked ⊢
    refine settled.save saved (fun _ => within_downNode.mono ?_)
      (fun p member => settled.processes p (Finset.mem_sdiff.mp member).1) tracked
    rintro p ⟨service, selected, rfl⟩
    obtain ⟨item, held, rfl⟩ := List.mem_map.mp (List.mem_filter.mp selected).1
    exact settled.only state saved item held

/-! ## The tables of `init` -/
variable {previous : Option (DeploymentState κ)} {replies : NodeId → InitReply}

theorem get?_nodes_initialState {node} : ((initialState plan previous digest replies).nodes.get? node).isSome ↔
      node ∈ (plan digest).nodes ∧ (replies node).isReady = true := by
  change ((Dict.ofItems _).get? node).isSome ↔ _
  rw [Dict.isSome_get?_ofItems]
  constructor
  · rintro ⟨item, member, rfl⟩
    obtain ⟨one, declared, held⟩ := List.mem_flatMap.mp member
    unfold nodeState at held
    split at held
    · rename_i ready
      rw [List.mem_singleton.mp held]
      exact ⟨declared, by rw [ready]; rfl⟩
    · cases held
  · rintro ⟨declared, ready⟩
    cases reply : replies node with
    | raised =>
      rw [reply] at ready
      cases ready
    | ready home python =>
      refine ⟨(node, ⟨node, home, python⟩), List.mem_flatMap.mpr ⟨node, declared, ?_⟩, rfl⟩
      rw [nodeState, reply]
      exact List.mem_singleton_self _

/-- **The tables of `init`** are closed exactly if every node with a planned service was ready. -/
theorem closed_initialState : Closed (initialState plan previous digest replies) ↔
      ∀ service ∈ (plan digest).services, (replies service.node).isReady = true := by
  constructor
  · intro closed service planned
    have present := closed.services _ (Dict.mem_of_get? (get?_initialState planned))
    dsimp only at present
    rw [node_initialServiceState] at present
    exact (get?_nodes_initialState.mp present).2
  · intro ready
    refine ⟨fun item held => ?_, fun item held => ?_⟩
    · rcases Dict.mem_foldl_set held with none | ⟨one, member, rfl⟩
      · cases none
      · obtain ⟨service, planned, rfl⟩ := List.mem_map.mp member
        dsimp only
        rw [node_initialServiceState]
        exact get?_nodes_initialState.mpr ⟨(plan digest).declared service planned, ready service planned⟩
    · rcases Dict.mem_foldl_set held with none | ⟨one, member, rfl⟩
      · cases none
      · obtain ⟨node, reached, listed⟩ := List.mem_flatMap.mp member
        obtain ⟨profile, here, rfl⟩ := List.mem_map.mp listed
        obtain ⟨declared, answered⟩ := List.mem_filter.mp reached
        have own : profile.node = node := by simpa using (List.mem_filter.mp here).2
        refine get?_nodes_initialState.mpr ?_
        change profile.node ∈ _ ∧ (replies profile.node).isReady = true
        rw [own]
        exact ⟨declared, answered⟩

theorem closed_step (closed : SavedClosed w) (reaches : Reaches plan w op) : SavedClosed (w.perform plan op).2 := by
  cases op with
  | init digest replies saves =>
    change SavedClosed (w.init plan digest replies saves).2
    rcases init_cases plan w digest replies saves with ⟨same, _⟩ | ⟨goes, same⟩
    · rwa [same]
    rw [same]
    intro state built
    cases built
    exact closed_initialState.mpr (reaches goes)
  | up digest reply saves =>
    change SavedClosed (w.up plan digest reply saves).2
    rcases up_cases plan w digest reply saves with same | ⟨state, saved, _, present, same⟩
    · rwa [same]
    rw [same]
    refine savedClosed_save (closed_record (closed state saved) fun node record member => ?_) closed
    obtain ⟨service, planned, named⟩ := within_upNode.records record member
    exact (Prod.mk.inj named).2 ▸ present _ ((plan digest).declared service planned)
  | down digest target reply saves =>
    change SavedClosed (w.down plan digest target reply saves).2
    rcases down_cases plan w digest target reply saves with
      ⟨_, same, _⟩ | ⟨state, saved, _, same⟩
    · rwa [same]
    rw [same]
    refine savedClosed_save (closed_record (closed state saved) fun node record member => ?_) closed
    obtain ⟨service, selected, named⟩ := within_downNode.records record member
    obtain ⟨item, held, rfl⟩ := List.mem_map.mp (List.mem_filter.mp selected).1
    exact (Prod.mk.inj named).2 ▸ (closed state saved).services item held

theorem reaches_of_closed (closed : SavedClosed (w.perform plan op).2) : Reaches plan w op := by
  cases op with
  | init digest replies saves =>
    intro goes
    change SavedClosed (w.init plan digest replies saves).2 at closed
    rcases init_cases plan w digest replies saves with ⟨_, stays⟩ | ⟨_, same⟩
    · exact absurd goes stays
    · rw [same] at closed
      exact closed_initialState.mp (closed _ rfl)
  | up | down => trivial

/-- **A partial failure blocks no recovery** exactly while every `init` finds its nodes ready. -/
theorem state_stays_closed {ops : List (Op κ)} (ran : run (step plan) {} ops = some w)
    (one : ∀ op ∈ ops, op.digest = digest) :
    (∀ before after u, ops = before ++ after → run (step plan) {} before = some u →
        ∀ state, u.saved = some state → Recoverable plan digest u state) ↔
      Along (step plan) (Reaches plan) {} ops := by
  refine along_iff_prefixes_under (D := fun _ op => op.digest = digest)
    (I := fun u => Settled plan digest u ∧ SavedClosed u) ?_ ?_ ?_ (along_of_mem one)
    ⟨settled_init, nofun⟩ ran
  · rintro u ⟨settled, closed⟩ state saved
    exact recoverable_of_closed settled saved (closed state saved)
  · rintro u op v same reaches ⟨settled, closed⟩ next
    cases next
    exact ⟨settled_step settled same, closed_step closed reaches⟩
  · rintro u op v _ _ next after
    cases next
    exact reaches_of_closed fun state saved => (after state saved).closed

end

/-! ## A node that fails once -/

def twoNodes : Plan where
  name := ['d']
  deployCommit := ['0']
  nodes := [['m'], ['n']]
  environments := [⟨['e'], ['m'], ['d'], ['g']⟩, ⟨['f'], ['n'], ['d'], ['g']⟩]
  services := [⟨['c'], .control, ['m'], ['e'], ['u']⟩, ⟨['d'], .control, ['n'], ['f'], ['v']⟩]
  distinct := by decide
  declared := by decide

def allReady : NodeId → InitReply := fun _ => .ready ['h'] ['p'] none

def startsBoth : List (Op Unit) :=
  [.init () allReady true, .up () ⟨fun _ => .ready 7, fun _ => true⟩ true]

/-- A `down` that fails on one node leaves a state from which the other can be stopped. -/
theorem state_stays_closed_partial : ∃ w, run (step fun _ => twoNodes) {} (startsBoth ++ [.down () none
          ⟨fun service => if service = ['d'] then .failed else .stopped, fun _ => true⟩ true]) =
          some w ∧
      w.live = {(['d'], ['n'])} ∧
      ∀ state, w.saved = some state → Recoverable (fun _ => twoNodes) () w state := by
  obtain ⟨w, ran, live⟩ : ∃ w, run (step fun _ => twoNodes) {} (startsBoth ++ [.down () none
        ⟨fun service => if service = ['d'] then .failed else .stopped, fun _ => true⟩ true]) =
        some w ∧ w.live = {(['d'], ['n'])} := ⟨_, rfl, by decide⟩
  refine ⟨w, ran, live, ?_⟩
  refine (state_stays_closed ran fun _ _ => rfl).mpr ?_ _ [] w (List.append_nil _).symm ran
  exact ⟨fun _ _ _ => rfl, fun _ _ => ⟨trivial, fun _ _ => ⟨trivial, fun _ _ => trivial⟩⟩⟩

/-- **A node that fails once blocks `down`** on both nodes from then on. -/
theorem failed_node_blocks_down : ∃ w state, run (step fun _ => twoNodes) {}
        (startsBoth ++ [.init () (fun node => if node = ['n'] then .raised else allReady node) true]) = some w ∧
      w.saved = some state ∧ ¬ Closed state ∧
      (w.down (fun _ => twoNodes) () none stopsAll true).1 = .error (.unavailableNode ['d'] ['n']) ∧
      (w.down (fun _ => twoNodes) () none stopsAll true).2.live = {(['c'], ['m']), (['d'], ['n'])} := by
  refine ⟨_, _, rfl, rfl, fun closed => ?_, rfl, by decide⟩
  have present := closed.services (['d'], ⟨['d'], ['n'], .running, some 7, some ['v']⟩) (by decide)
  exact absurd present (by decide)

end EmbodiRun.Deployment
