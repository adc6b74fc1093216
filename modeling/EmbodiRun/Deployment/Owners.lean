/-
# Deployment.Owners -- the two passes of `build_plan` over resources and groups

The first pass gives every resource the service of one of its users, and the second names
one service for each group of runtimes.
-/
import EmbodiRun.Data.Folds
import EmbodiRun.Deployment.Ownership

namespace EmbodiRun.Deployment.Ownership

open Data Devices List Dict

variable {controls : List Control} {validate : Runtime → Except ServiceError Unit} {config : Config}

/-! ## The controls -/

def controlsOf (validate : Runtime → Except ServiceError Unit) (config : Config) : List Control :=
  config.runtimes.filterMap fun runtime => match planned validate runtime with
    | .ok control => control
    | .error _ => none

def Control.Uses (control : Control) (id : Text) : Prop :=
  ∃ resource ∈ control.resources, resource.id = id

theorem controlId_inj {a b} (same : controlId a = controlId b) : a = b :=
  append_cancel_left same
variable {group : Text}

variable {control : Control} {devices : Dict Text DeviceOwnerSpec} {use : Control × Resource}
  {merged : ServiceSpec} {spec : RuntimeSpec} {done : List Text}

theorem mem_pairsOf : control ∈ pairsOf controls group ↔ control ∈ controls ∧ control.group = group := by
  simp [pairsOf]

theorem mem_groupKeys : group ∈ groupKeys controls ↔ ∃ control ∈ controls, control.group = group := by
  rw [groupKeys, mem_insertionSort, mem_dedup, mem_map]

theorem nodup_groupKeys (controls : List Control) : (groupKeys controls).Nodup :=
  (perm_insertionSort _ _).nodup_iff.mpr (nodup_dedup _)

structure Formed (controls : List Control) : Prop where
  distinct : (controls.map Control.runtimeId).Nodup
  own : ∀ control ∈ controls, control.Uses control.group

theorem Formed.eq (formed : Formed controls) {c d} (first : c ∈ controls)
    (second : d ∈ controls) (same : c.runtimeId = d.runtimeId) : c = d :=
  inj_on_of_nodup_map formed.distinct first second same

theorem controls_eq {runtimes} {results}
    (all : List.Forall₂ (fun runtime control => planned validate runtime = .ok control) runtimes results) :
    results.filterMap id = runtimes.filterMap fun runtime => match planned validate runtime with
      | .ok control => control
      | .error _ => none := by
  induction all with
  | nil => rfl
  | cons head tail ih => rw [filterMap_cons, filterMap_cons, head, ih]; rfl

theorem mem_addResource {resources} {resource r} (member : r ∈ resources) : r ∈ addResource resources resource := by
  unfold addResource
  split
  · exact member
  · exact mem_append_left _ member

theorem own_of_planned {runtime} (given : planned validate runtime = .ok (some control)) :
    control.runtimeId = runtime.runtimeId ∧ control.Uses control.group := by
  unfold planned at given
  split at given
  · cases given
  split at given
  · cases given
  split at given
  · cases given
  rename_i robot inputs _ _ _ connection resources found
  obtain rfl := Option.some.inj (Except.ok.inj given)
  refine ⟨rfl, connection, ?_, rfl⟩
  unfold controlResources at found
  split at found
  · cases found
  split at found
  · cases found
  obtain ⟨rfl, rfl⟩ := Prod.mk.inj (Except.ok.inj found)
  exact foldl_rule (I := fun _ resources => _ ∈ resources)
    (fun _ _ _ _ member => mem_addResource member) (mem_singleton_self _)

theorem formed_controlsOf : Formed (controlsOf validate config) where
  distinct := by
    have sub : List.Sublist ((controlsOf validate config).map Control.runtimeId)
        (config.runtimes.map Runtime.runtimeId) := by
      unfold controlsOf
      induction config.runtimes with
      | nil => exact .slnil
      | cons runtime rest ih =>
        rw [filterMap_cons]
        cases given : planned validate runtime with
        | error => exact ih.cons _
        | ok control => cases control with
          | none => exact ih.cons _
          | some control =>
            rw [map_cons, map_cons, (own_of_planned given).1]
            exact ih.cons_cons _
    exact config.distinct.sublist sub
  own := by
    intro control member
    obtain ⟨runtime, _, given⟩ := List.mem_filterMap.mp member
    split at given
    · rename_i found
      exact (own_of_planned (given ▸ found)).2
    · cases given

/-! ## The first pass -/

/-- After these uses, a resource has the service of one of its users, and all users as consumers. -/
structure Recorded (seen : List (Control × Resource)) (devices : Dict Text DeviceOwnerSpec) :
    Prop where
  distinct : devices.Distinct
  named : ∀ id item, devices.get? id = some item → item.resourceId = id
  owner : ∀ id item, devices.get? id = some item →
    ∃ use ∈ seen, use.2.id = id ∧ item.ownerServiceId = controlId use.1.runtimeId
  consumers : ∀ id item, devices.get? id = some item → ∀ consumer,
    consumer ∈ item.consumers ↔ ∃ use ∈ seen, use.2.id = id ∧ use.1.runtimeId = consumer
  present : ∀ use ∈ seen, (devices.get? use.2.id).isSome

theorem recorded_recordUse {seen} (recorded : Recorded seen devices) :
    Recorded (seen ++ [use]) (recordUse devices use) := by
  have others (id : Text) (other : id ≠ use.2.id) (consumer : Text) :
      (∃ one ∈ seen ++ [use], one.2.id = id ∧ one.1.runtimeId = consumer) ↔
        ∃ one ∈ seen, one.2.id = id ∧ one.1.runtimeId = consumer := by
    constructor
    · rintro ⟨one, member, same, named⟩
      rcases List.mem_append.mp member with old | new
      · exact ⟨one, old, same, named⟩
      · rw [List.mem_singleton.mp new] at same
        exact absurd same.symm other
    · rintro ⟨one, member, same⟩
      exact ⟨one, mem_append_left _ member, same⟩
  have last : use ∈ seen ++ [use] := mem_append_right _ (mem_singleton_self _)
  refine ⟨recorded.distinct.set, fun id item found => ?_, fun id item found => ?_,
    fun id item found consumer => ?_, fun one member => ?_⟩
  · by_cases same : id = use.2.id
    · subst same
      obtain rfl := Option.some.inj (get?_set_self.symm.trans found)
      rfl
    · exact recorded.named id item ((get?_set_of_ne same).symm.trans found)
  · by_cases same : id = use.2.id
    · subst same
      obtain rfl := Option.some.inj (get?_set_self.symm.trans found)
      dsimp only
      split
      · rename_i before known
        obtain ⟨one, member, named⟩ := recorded.owner _ before known
        exact ⟨one, mem_append_left _ member, named⟩
      · exact ⟨use, last, rfl, rfl⟩
    · obtain ⟨one, member, named⟩ :=
        recorded.owner id item ((get?_set_of_ne same).symm.trans found)
      exact ⟨one, mem_append_left _ member, named⟩
  · by_cases same : id = use.2.id
    · subst same
      obtain rfl := Option.some.inj (get?_set_self.symm.trans found)
      dsimp only
      have split : (∃ one ∈ seen ++ [use], one.2.id = use.2.id ∧ one.1.runtimeId = consumer) ↔
          (∃ one ∈ seen, one.2.id = use.2.id ∧ one.1.runtimeId = consumer) ∨ consumer = use.1.runtimeId := by
        simp only [mem_append, mem_singleton, or_and_right, exists_or, exists_eq_left, true_and]
        exact or_congr_right eq_comm
      rw [split]
      split
      · rename_i before known
        rw [← recorded.consumers _ before known]
        by_cases present : use.1.runtimeId ∈ before.consumers
        · rw [if_pos present]
          exact ⟨.inl, fun either => either.elim (fun known => known) fun same => same ▸ present⟩
        · rw [if_neg present, mem_append, mem_singleton]
      · rename_i unknown
        rw [mem_singleton]
        refine ⟨.inr, fun either => either.resolve_left ?_⟩
        rintro ⟨one, member, same, _⟩
        have present := recorded.present one member
        rw [same, unknown] at present
        cases present
    · rw [others id same consumer]
      exact recorded.consumers id item ((get?_set_of_ne same).symm.trans found) consumer
  · by_cases same : one.2.id = use.2.id
    · rw [same]
      exact Option.isSome_iff_exists.mpr ⟨_, get?_set_self⟩
    · change ((Dict.set _ _ _).get? _).isSome
      rw [get?_set_of_ne same]
      rcases List.mem_append.mp member with old | new
      · exact recorded.present one old
      · exact absurd (congrArg (fun use => use.2.id) (List.mem_singleton.mp new)) same

/-- **The first pass.** -/
theorem recorded_deviceResources : Recorded (uses controls) (deviceResources controls) :=
  foldl_rule (I := Recorded) (fun _ _ _ _ recorded => recorded_recordUse recorded)
    ⟨nodup_nil, nofun, nofun, nofun, nofun⟩

theorem mem_uses : use ∈ uses controls ↔ use.1 ∈ controls ∧ use.2 ∈ use.1.resources := by
  obtain ⟨control, resource⟩ := use
  simp only [uses, mem_flatMap, mem_map, Prod.mk.injEq]
  constructor
  · rintro ⟨_, member, _, here, rfl, rfl⟩
    exact ⟨member, here⟩
  · rintro ⟨member, here⟩
    exact ⟨control, member, resource, here, rfl, rfl⟩

/-! ## The second pass -/

def groupServiceId (controls : List Control) (group : Text) : Text :=
  match pairsOf controls group with
  | [] => []
  | [control] => controlId control.runtimeId
  | first :: _ :: _ => controlId first.robotId

def captureBy (controls : List Control) (owner group : Text) : Text :=
  match pairsOf controls group with
  | [] | [_] => owner
  | first :: second :: rest =>
    capture (first :: second :: rest) (groupServiceId controls group) owner

structure Grouped (controls : List Control) (group : Text) (service : ServiceSpec) : Prop where
  kind : service.kind = .control
  serviceId : service.serviceId = groupServiceId controls group
  runtimeIds : service.runtimeIds = (pairsOf controls group).map Control.runtimeId
  resourceIds : ∀ id, id ∈ service.resourceIds ↔ ∃ control ∈ pairsOf controls group, control.Uses id

theorem grouped_single (alone : pairsOf controls group = [control]) : Grouped controls group control.service where
  kind := rfl
  serviceId := by rw [groupServiceId, alone]; rfl
  runtimeIds := by rw [alone]; rfl
  resourceIds id := by
    rw [alone]
    simp [Control.service, Control.Uses]

theorem mergeResource_eq {resources merged} {item}
    (accepted : mergeResource resources item = .ok merged) : merged = resources.set item.id item := by
  unfold mergeResource at accepted
  split at accepted
  · split at accepted
    · cases accepted
    · exact (Except.ok.inj accepted).symm
  · exact (Except.ok.inj accepted).symm

theorem keys_mergeResource {items : List Resource} {merged : Dict Text Resource}
    (accepted : items.foldlM mergeResource .empty = .ok merged) (id : Text) :
    (merged.get? id).isSome ↔ ∃ item ∈ items, item.id = id := by
  refine foldlM_rule (I := fun done merged => (merged.get? id).isSome ↔ ∃ item ∈ done, item.id = id)
    (fun done item resources after _ keys step => ?_) (by simp) accepted
  rw [mergeResource_eq step]
  by_cases same : item.id = id
  · rw [← same]
    refine ⟨fun _ => ⟨item, mem_append_right _ (mem_singleton_self _), rfl⟩, fun _ => ?_⟩
    rw [get?_set_self]
    rfl
  · rw [get?_set_of_ne (Ne.symm same), keys]
    constructor <;> rintro ⟨one, member, here⟩
    · exact ⟨one, mem_append_left _ member, here⟩
    · rcases List.mem_append.mp member with old | new
      · exact ⟨one, old, here⟩
      · rw [List.mem_singleton.mp new] at here
        exact absurd here same

theorem grouped_merged {first second : Control} {rest : List Control}
    (several : pairsOf controls group = first :: second :: rest)
    (accepted : mergeControlServices first (first :: second :: rest) = .ok merged) :
    Grouped controls group merged := by
  unfold mergeControlServices at accepted
  split at accepted
  · cases accepted
  split at accepted
  · cases accepted
  split at accepted
  · cases accepted
  split at accepted
  · cases accepted
  rename_i resources folded
  split at accepted
  · cases accepted
  obtain rfl := Except.ok.inj accepted
  refine ⟨rfl, by rw [groupServiceId, several], by rw [several], fun id => ?_⟩
  rw [several]
  change id ∈ resources.items.map Prod.fst ↔ _
  rw [← isSome_get?, keys_mergeResource folded]
  constructor
  · rintro ⟨item, member, same⟩
    obtain ⟨control, here, listed⟩ := List.mem_flatMap.mp member
    exact ⟨control, here, item, listed, same⟩
  · rintro ⟨control, here, item, listed, same⟩
    exact ⟨item, List.mem_flatMap.mpr ⟨control, here, listed⟩, same⟩

theorem mem_reassigned {pairs : List Control} {runtimes : List RuntimeSpec}
    (member : spec ∈ pairs.foldl (reassign merged) runtimes) :
    (∃ control ∈ pairs, spec = { control.runtimeSpec with
        serviceId := merged.serviceId, serviceEndpoint := merged.endpoint }) ∨
      spec ∈ runtimes ∧ ∀ control ∈ pairs, spec ≠ control.runtimeSpec := by
  refine foldl_rule (I := fun done after => ∀ spec ∈ after, (∃ control ∈ done, spec = { control.runtimeSpec with
        serviceId := merged.serviceId, serviceEndpoint := merged.endpoint }) ∨
      spec ∈ runtimes ∧ ∀ control ∈ done, spec ≠ control.runtimeSpec)
    (fun done control before _ known spec member => ?_) (fun spec member => .inr ⟨member, nofun⟩)
    spec member
  obtain ⟨old, here, rfl⟩ := List.mem_map.mp member
  split
  · rename_i same
    exact .inl ⟨control, mem_append_right _ (mem_singleton_self _), by rw [same]⟩
  · rename_i other
    rcases known old here with ⟨one, listed, same⟩ | ⟨kept, apart⟩
    · exact .inl ⟨one, mem_append_left _ listed, same⟩
    · refine .inr ⟨kept, fun one listed => ?_⟩
      rcases List.mem_append.mp listed with before | last
      · exact apart one before
      · exact List.mem_singleton.mp last ▸ other

def Names (spec : RuntimeSpec) (service : ServiceSpec) : Prop :=
  service.serviceId = spec.serviceId ∧ spec.runtimeId ∈ service.runtimeIds ∧ service.endpoint = spec.serviceEndpoint

def Placed (controls : List Control) (done : List Text) (services : List ServiceSpec) (spec : RuntimeSpec) : Prop :=
  (∃ control ∈ controls, control.group ∉ done ∧ spec = control.runtimeSpec) ∨ ∃ service ∈ services, Names spec service

structure Merged (controls : List Control) (devices : Dict Text DeviceOwnerSpec) (done : List Text)
    (state : Merging) : Prop where
  services : List.Forall₂ (Grouped controls) done state.services
  devices : state.devices.items = devices.items.map fun item => (item.1,
    { item.2 with ownerServiceId := done.foldl (captureBy controls) item.2.ownerServiceId })
  runtimes : ∀ spec ∈ state.runtimes, spec.robot.isSome → Placed controls done state.services spec

theorem Placed.later {services} {service} (placed : Placed controls done services spec)
    (named : ∀ control ∈ pairsOf controls group, spec = control.runtimeSpec → Names spec service) :
    Placed controls (done ++ [group]) (services ++ [service]) spec := by
  rcases placed with ⟨control, member, ahead, same⟩ | ⟨one, member, names⟩
  · by_cases here : control.group = group
    · exact .inr ⟨service, mem_append_right _ (mem_singleton_self _),
        named control (mem_pairsOf.mpr ⟨member, here⟩) same⟩
    · exact .inl ⟨control, member, by simp [ahead, here], same⟩
  · exact .inr ⟨one, mem_append_left _ member, names⟩

theorem merged_mergeGroup {state after : Merging} (present : group ∈ groupKeys controls)
    (merged : Merged controls devices done state) (step : mergeGroup controls state group = .ok after) :
    Merged controls devices (done ++ [group]) after := by
  have appended (items : List (Text × DeviceOwnerSpec)) (update : Text → Text)
      (same : ∀ owner, captureBy controls owner group = update owner)
      (before : items = devices.items.map fun item => (item.1,
        { item.2 with ownerServiceId := done.foldl (captureBy controls) item.2.ownerServiceId })) :
      (items.map fun item => (item.1, { item.2 with ownerServiceId := update item.2.ownerServiceId })) =
        devices.items.map fun item => (item.1, { item.2 with
          ownerServiceId := (done ++ [group]).foldl (captureBy controls) item.2.ownerServiceId }) := by
    rw [before, map_map]
    refine map_congr_left fun item _ => ?_
    simp [foldl_append, same]
  unfold mergeGroup at step
  split at step
  · rename_i empty
    obtain ⟨control, member, here⟩ := mem_groupKeys.mp present
    have listed := mem_pairsOf.mpr ⟨member, here⟩
    rw [empty] at listed
    cases listed
  · rename_i control alone
    obtain rfl := Except.ok.inj step
    refine ⟨rel_append merged.services (.cons (grouped_single alone) .nil), ?_, ?_⟩
    · have kept : ∀ owner, captureBy controls owner group = owner := fun owner => by
        rw [captureBy, alone]
      have same := appended state.devices.items id kept merged.devices
      simpa using same
    · intro spec member robot
      refine (merged.runtimes spec member robot).later fun one listed same => ?_
      rw [alone] at listed
      obtain rfl := List.mem_singleton.mp listed
      rw [same]
      exact ⟨rfl, mem_singleton_self _, rfl⟩
  · rename_i first second rest several
    dsimp only at step
    split at step
    · cases step
    rename_i service accepted
    obtain rfl := Except.ok.inj step
    have grouped := grouped_merged several accepted
    refine ⟨rel_append merged.services (.cons grouped .nil), ?_, ?_⟩
    · refine appended state.devices.items _ (fun owner => ?_) merged.devices
      rw [captureBy, several, grouped.serviceId]
    · intro spec member robot
      rcases mem_reassigned member with ⟨control, listed, rfl⟩ | ⟨old, apart⟩
      · refine .inr ⟨service, mem_append_right _ (mem_singleton_self _), rfl, ?_, rfl⟩
        rw [grouped.runtimeIds, several]
        exact mem_map_of_mem listed
      · refine (merged.runtimes spec old robot).later fun one listed same => ?_
        exact absurd same (apart one (several ▸ listed))

end EmbodiRun.Deployment.Ownership
