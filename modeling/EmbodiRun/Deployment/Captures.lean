/-
# Deployment.Captures -- when the owners of a plan are sound

Merging looks only at names: it takes every resource owned by a service under one of the
group's old names.  So a group may take the resources of a group merged before it, whose new
name is the old name of one of its own services.  And a resource used in two groups has no
service whose runtimes include all of its consumers.
-/
import EmbodiRun.Deployment.Owners

namespace EmbodiRun.Deployment.Ownership

open Data Devices List

variable {controls : List Control} {validate : Runtime → Except ServiceError Unit} {config : Config}
variable {plan : Plan}

/-! ## Soundness -/

def Owns (service : ServiceSpec) (item : DeviceOwnerSpec) : Prop :=
  item.resourceId ∈ service.resourceIds ∧ ∀ consumer ∈ item.consumers, consumer ∈ service.runtimeIds

def Owned (services : List ServiceSpec) (item : DeviceOwnerSpec) : Prop :=
  ∃ service ∈ services, service.kind = .control ∧ service.serviceId = item.ownerServiceId ∧
    Owns service item ∧ ∀ other ∈ services, other.kind = .control → Owns other item → other = service

structure Sound (plan : Plan) : Prop where
  runtimes : ∀ spec ∈ plan.runtimes, spec.robot.isSome → ∃ service ∈ plan.services, Names spec service
  owners : ∀ item ∈ plan.deviceResources, Owned plan.services item

def Separate (controls : List Control) : Prop :=
  ∀ c ∈ controls, ∀ d ∈ controls, ∀ id, c.Uses id → d.Uses id → c.group = d.group

def robotOf (controls : List Control) (group : Text) : Option Text :=
  match pairsOf controls group with
  | first :: _ :: _ => some first.robotId
  | _ => none

/-- Both groups are merged, and the later one has a runtime named like the robot of the earlier. -/
def Takes (controls : List Control) (group later : Text) : Prop :=
  ∃ robot, robotOf controls group = some robot ∧ (robotOf controls later).isSome ∧
    ∃ control ∈ pairsOf controls later, control.runtimeId = robot

def Untaken (controls : List Control) : Prop :=
  (groupKeys controls).Pairwise fun group later => ¬ Takes controls group later

/-! ## The plan -/

structure Built (controls : List Control) (plan : Plan) (state : Merging) : Prop where
  formed : Formed controls
  merged : Merged controls (deviceResources controls) (groupKeys controls) state
  services : ∀ service ∈ plan.services, service ∈ state.services ∨ service.kind ≠ .control
  included : List.Sublist state.services plan.services
  distinct : (plan.services.map ServiceSpec.serviceId).Nodup
  runtimes : plan.runtimes = state.runtimes
  devices : ∀ item, item ∈ plan.deviceResources ↔ item ∈ state.devices.items.map Prod.snd

theorem built_of_buildPlan (built : buildPlan validate config = .ok plan) :
    ∃ state, Built (controlsOf validate config) plan state := by
  unfold buildPlan at built
  split at built
  · cases built
  rename_i results checked
  dsimp only at built
  split at built
  · cases built
  split at built
  · cases built
  rename_i state folded
  split at built
  · rename_i distinct
    obtain rfl := Except.ok.inj built
    have same : results.filterMap id = controlsOf validate config := controls_eq (mapM_ok checked)
    rw [same] at folded
    refine ⟨state, formed_controlsOf, ?_, fun service member => ?_, ?_, distinct, rfl, fun item => ?_⟩
    · refine foldlM_rule (fun done group before after present merged step =>
        merged_mergeGroup present merged step) ⟨.nil, ?_, fun spec member robot => .inl ?_⟩ folded
      · simp
      · obtain ⟨⟨runtime, control⟩, listed, rfl⟩ := List.mem_map.mp member
        cases control with
        | none => cases robot
        | some control =>
          refine ⟨control, ?_, not_mem_nil, rfl⟩
          rw [← same]
          exact List.mem_filterMap.mpr ⟨some control, (of_mem_zip listed).2, rfl⟩
    · rcases List.mem_append.mp member with early | late
      · rcases List.mem_append.mp early with model | control
        · obtain ⟨_, _, rfl⟩ := List.mem_map.mp model
          exact .inr nofun
        · exact .inl control
      · obtain ⟨result, _, given⟩ := List.mem_filterMap.mp late
        split at given
        · cases given
        · obtain rfl := Option.some.inj given
          exact .inr nofun
    · exact ((sublist_append_right _ _).trans (sublist_append_left _ _))
    · simp [mem_insertionSort]
  · cases built

namespace Built

variable {state : Merging} (built : Built controls plan state)

include built

/-- **Every robot runtime** names its service. -/
theorem runtimes_named {spec} (member : spec ∈ plan.runtimes)
    (robot : spec.robot.isSome) : ∃ service ∈ plan.services, Names spec service := by
  rw [built.runtimes] at member
  rcases built.merged.runtimes spec member robot with
    ⟨control, present, ahead, _⟩ | ⟨service, listed, names⟩
  · exact absurd (mem_groupKeys.mpr ⟨control, present, rfl⟩) ahead
  · exact ⟨service, built.included.subset listed, names⟩

variable {group : Text} {item : DeviceOwnerSpec} {groups : List Text}

theorem service_of_group (present : group ∈ groupKeys controls) :
    ∃ service ∈ plan.services, Grouped controls group service := by
  have all := built.merged.services
  have general : ∀ {groups : List Text} {services : List ServiceSpec},
      List.Forall₂ (Grouped controls) groups services → group ∈ groups →
        ∃ service ∈ services, Grouped controls group service := by
    intro groups services all
    induction all with
    | nil => nofun
    | cons head tail ih =>
      intro member
      rcases List.mem_cons.mp member with rfl | later
      · exact ⟨_, mem_cons_self, head⟩
      · obtain ⟨service, listed, grouped⟩ := ih later
        exact ⟨service, mem_cons_of_mem _ listed, grouped⟩
  obtain ⟨service, listed, grouped⟩ := general all present
  exact ⟨service, built.included.subset listed, grouped⟩

theorem group_of_service {service} (member : service ∈ plan.services) (control : service.kind = .control) :
    ∃ group ∈ groupKeys controls, Grouped controls group service := by
  have general : ∀ {groups : List Text} {services : List ServiceSpec},
      List.Forall₂ (Grouped controls) groups services → service ∈ services →
        ∃ group ∈ groups, Grouped controls group service := by
    intro groups services all
    induction all with
    | nil => nofun
    | cons head tail ih =>
      intro member
      rcases List.mem_cons.mp member with rfl | later
      · exact ⟨_, mem_cons_self, head⟩
      · obtain ⟨group, listed, grouped⟩ := ih later
        exact ⟨group, mem_cons_of_mem _ listed, grouped⟩
  rcases built.services service member with listed | other
  · exact general built.merged.services listed
  · exact absurd control other

theorem service_eq {one other} (first : one ∈ plan.services)
    (second : other ∈ plan.services) (same : one.serviceId = other.serviceId) : one = other :=
  inj_on_of_nodup_map built.distinct first second same

theorem groupServiceId_inj {group other} (first : group ∈ groupKeys controls) (second : other ∈ groupKeys controls)
    (same : groupServiceId controls group = groupServiceId controls other) : group = other := by
  obtain ⟨one, listed, grouped⟩ := built.service_of_group first
  obtain ⟨two, present, further⟩ := built.service_of_group second
  obtain rfl := built.service_eq listed present (grouped.serviceId.trans (same.trans further.serviceId.symm))
  obtain ⟨control, member, here⟩ := mem_groupKeys.mp first
  have listed : control.runtimeId ∈ (pairsOf controls group).map Control.runtimeId :=
    mem_map_of_mem (mem_pairsOf.mpr ⟨member, here⟩)
  rw [← grouped.runtimeIds, further.runtimeIds] at listed
  obtain ⟨twin, there, named⟩ := List.mem_map.mp listed
  obtain ⟨known, place⟩ := mem_pairsOf.mp there
  rw [← here, ← place, built.formed.eq known member named]

/-! ## Owners through the second pass -/

theorem mem_deviceResources :
    item ∈ plan.deviceResources ↔ ∃ id old, (deviceResources controls).get? id = some old ∧ item = { old with
        ownerServiceId := (groupKeys controls).foldl (captureBy controls) old.ownerServiceId } := by
  rw [built.devices, built.merged.devices, map_map]
  constructor
  · intro member
    obtain ⟨old, listed, rfl⟩ := List.mem_map.mp member
    exact ⟨old.1, old.2, Dict.get?_of_mem recorded_deviceResources.distinct listed, rfl⟩
  · rintro ⟨id, old, found, rfl⟩
    exact List.mem_map.mpr ⟨(id, old), Dict.mem_of_get? found, rfl⟩

variable {control : Control}

omit built in
theorem captureBy_of_mem (member : control ∈ pairsOf controls group) :
    captureBy controls (controlId control.runtimeId) group = groupServiceId controls group := by
  unfold captureBy groupServiceId
  split
  · rename_i empty
    rw [empty] at member
    cases member
  · rename_i one alone
    rw [alone] at member
    rw [List.mem_singleton.mp member]
  · rename_i first second rest several
    rw [several] at member
    exact if_pos (mem_map_of_mem member)

omit built in
theorem captureBy_cases (owner group : Text) : captureBy controls owner group = owner ∨
      captureBy controls owner group = groupServiceId controls group ∧ (robotOf controls group).isSome ∧
        ∃ control ∈ pairsOf controls group, controlId control.runtimeId = owner := by
  unfold captureBy robotOf
  split
  · exact .inl rfl
  · exact .inl rfl
  · rename_i first second rest several
    rw [several]
    unfold capture
    split
    · rename_i listed
      exact .inr ⟨rfl, rfl, List.mem_map.mp listed⟩
    · exact .inl rfl

theorem foldl_before (member : control ∈ controls) (before : control.group ∉ groups) :
    groups.foldl (captureBy controls) (controlId control.runtimeId) = controlId control.runtimeId := by
  refine foldl_rule (I := fun _ owner => owner = controlId control.runtimeId)
    (fun _ group owner present same => ?_) rfl
  rcases captureBy_cases owner group with kept | ⟨_, _, one, listed, named⟩
  · exact kept.trans same
  · obtain ⟨known, here⟩ := mem_pairsOf.mp listed
    rw [built.formed.eq known member (controlId_inj (named.trans same))] at here
    exact absurd (here ▸ present) before

theorem takes_of_named {group later} (apart : later ≠ group)
    (merges : (robotOf controls later).isSome) (listed : control ∈ pairsOf controls later)
    (present : group ∈ groupKeys controls)
    (named : controlId control.runtimeId = groupServiceId controls group) :
    Takes controls group later := by
  unfold groupServiceId at named
  split at named
  · rename_i empty
    obtain ⟨one, member, here⟩ := mem_groupKeys.mp present
    have inside := mem_pairsOf.mpr ⟨member, here⟩
    rw [empty] at inside
    cases inside
  · rename_i one alone
    have inside : one ∈ pairsOf controls group := alone ▸ mem_singleton_self _
    obtain ⟨known, here⟩ := mem_pairsOf.mp inside
    obtain ⟨member, there⟩ := mem_pairsOf.mp listed
    rw [built.formed.eq member known (controlId_inj named)] at there
    exact absurd (there.symm.trans here) apart
  · rename_i first second rest several
    exact ⟨first.robotId, by rw [robotOf, several], merges, control, listed, controlId_inj named⟩

/-- After its group's turn, a resource stays with the group until another takes it, and then
it is never the group's again. -/
theorem foldl_after (present : group ∈ groupKeys controls) (apart : group ∉ groups) :
    (groups.foldl (captureBy controls) (groupServiceId controls group) =
        groupServiceId controls group ∧ ∀ later ∈ groups, ¬ Takes controls group later) ∨
      (∃ later ∈ groups, Takes controls group later) ∧ ∃ later ∈ groups,
        groups.foldl (captureBy controls) (groupServiceId controls group) = groupServiceId controls later := by
  refine foldl_rule (I := fun done owner =>
      (owner = groupServiceId controls group ∧ ∀ later ∈ done, ¬ Takes controls group later) ∨
        (∃ later ∈ done, Takes controls group later) ∧ ∃ later ∈ done, owner = groupServiceId controls later)
    (fun done next owner member either => ?_) (.inl ⟨rfl, nofun⟩)
  have last : next ∈ done ++ [next] := mem_append_right _ (mem_singleton_self _)
  have earlier {later : Text} (old : later ∈ done) : later ∈ done ++ [next] :=
    mem_append_left _ old
  rcases either with ⟨rfl, untaken⟩ | ⟨⟨taker, old, takes⟩, holder, held, rfl⟩
  · by_cases takes : Takes controls group next
    · obtain ⟨robot, merged, _, control, listed, rfl⟩ := id takes
      refine .inr ⟨⟨next, last, takes⟩, next, last, ?_⟩
      have named : groupServiceId controls group = controlId control.runtimeId := by
        unfold robotOf at merged
        split at merged
        · rename_i several
          rw [groupServiceId, several]
          exact congrArg controlId (Option.some.inj merged)
        · cases merged
      rw [named]
      exact captureBy_of_mem listed
    · refine .inl ⟨?_, fun later inside => ?_⟩
      · refine (captureBy_cases _ next).resolve_right ?_
        rintro ⟨_, merges, control, listed, named⟩
        exact takes (built.takes_of_named (fun same => apart (same ▸ member)) merges listed present named)
      · rcases List.mem_append.mp inside with old | new
        · exact untaken later old
        · exact List.mem_singleton.mp new ▸ takes
  · refine .inr ⟨⟨taker, earlier old, takes⟩, ?_⟩
    rcases captureBy_cases (groupServiceId controls holder) next with kept | ⟨taken, _⟩
    · exact ⟨holder, earlier held, kept⟩
    · exact ⟨next, last, taken⟩

theorem foldl_split {before after} (member : control ∈ controls)
    (split : groupKeys controls = before ++ control.group :: after) :
    (groupKeys controls).foldl (captureBy controls) (controlId control.runtimeId) =
        after.foldl (captureBy controls) (groupServiceId controls control.group) := by
  have distinct := nodup_groupKeys controls
  rw [split] at distinct ⊢
  have ahead : control.group ∉ before := fun early =>
    disjoint_of_nodup_append distinct early mem_cons_self
  rw [foldl_append, built.foldl_before member ahead, foldl_cons, captureBy_of_mem (mem_pairsOf.mpr ⟨member, rfl⟩)]

/-! ## Both directions -/

theorem owned (separate : Separate controls) (untaken : Untaken controls)
    (member : item ∈ plan.deviceResources) : Owned plan.services item := by
  obtain ⟨id, old, found, rfl⟩ := built.mem_deviceResources.mp member
  obtain ⟨use, listed, rfl, owner⟩ := recorded_deviceResources.owner id old found
  obtain ⟨known, resource⟩ := mem_uses.mp listed
  have uses : use.1.Uses use.2.id := ⟨use.2, resource, rfl⟩
  have present : use.1.group ∈ groupKeys controls := mem_groupKeys.mpr ⟨use.1, known, rfl⟩
  have named := recorded_deviceResources.named _ old found
  obtain ⟨before, after, split⟩ := append_of_mem present
  have clear : ∀ later ∈ after, ¬ Takes controls use.1.group later := by
    unfold Untaken at untaken
    rw [split] at untaken
    exact (List.pairwise_cons.mp (List.pairwise_append.mp untaken).2.1).1
  have apart : use.1.group ∉ after := by
    have distinct := nodup_groupKeys controls
    rw [split] at distinct
    exact (List.nodup_cons.mp (List.nodup_append.mp distinct).2.1).1
  have kept : (groupKeys controls).foldl (captureBy controls) old.ownerServiceId =
      groupServiceId controls use.1.group := by
    rw [owner, built.foldl_split known split]
    rcases built.foldl_after present apart with ⟨same, _⟩ | ⟨⟨later, inside, takes⟩, _⟩
    · exact same
    · exact absurd takes (clear later inside)
  obtain ⟨service, present, grouped⟩ := built.service_of_group present
  have here : use.1 ∈ pairsOf controls use.1.group := mem_pairsOf.mpr ⟨known, rfl⟩
  refine ⟨service, present, grouped.kind, grouped.serviceId.trans kept.symm, ⟨?_, ?_⟩, ?_⟩
  · change old.resourceId ∈ _
    rw [named]
    exact (grouped.resourceIds _).mpr ⟨use.1, here, uses⟩
  · intro consumer consumes
    obtain ⟨further, inside, same, rfl⟩ :=
      (recorded_deviceResources.consumers _ old found consumer).mp consumes
    obtain ⟨other, resource⟩ := mem_uses.mp inside
    rw [grouped.runtimeIds]
    refine mem_map_of_mem (mem_pairsOf.mpr ⟨other, ?_⟩)
    exact separate further.1 other use.1 known use.2.id ⟨further.2, resource, same⟩ uses
  · intro other listed control owns
    obtain ⟨group, _, others⟩ := built.group_of_service listed control
    have holds : old.resourceId ∈ other.resourceIds := owns.1
    rw [named] at holds
    obtain ⟨one, inside, further⟩ := (others.resourceIds _).mp holds
    obtain ⟨other, there⟩ := mem_pairsOf.mp inside
    have same : group = use.1.group := there ▸ separate one other use.1 known _ further uses
    subst same
    exact built.service_eq listed present (others.serviceId.trans grouped.serviceId.symm)

omit built in
theorem item_of_use {id} (member : control ∈ controls) (used : control.Uses id) :
    ∃ old, (deviceResources controls).get? id = some old := by
  obtain ⟨resource, listed, rfl⟩ := used
  exact Option.isSome_iff_exists.mp
    (recorded_deviceResources.present (control, resource) (mem_uses.mpr ⟨member, listed⟩))

theorem separate_of_owned (owners : ∀ item ∈ plan.deviceResources, Owned plan.services item) : Separate controls := by
  intro c known d other id first second
  obtain ⟨old, found⟩ := item_of_use known first
  obtain ⟨service, listed, kind, _, owns, _⟩ :=
    owners _ (built.mem_deviceResources.mpr ⟨id, old, found, rfl⟩)
  obtain ⟨group, _, grouped⟩ := built.group_of_service listed kind
  have inside {user : Control} (member : user ∈ controls) (used : user.Uses id) : user.group = group := by
    obtain ⟨resource, carried, same⟩ := used
    have consumes := (recorded_deviceResources.consumers id old found user.runtimeId).mpr
      ⟨(user, resource), mem_uses.mpr ⟨member, carried⟩, same, rfl⟩
    have runs := owns.2 _ consumes
    rw [grouped.runtimeIds] at runs
    obtain ⟨twin, there, named⟩ := List.mem_map.mp runs
    obtain ⟨present, place⟩ := mem_pairsOf.mp there
    rw [← built.formed.eq present member named, place]
  rw [inside known first, inside other second]

theorem untaken_of_owned (owners : ∀ item ∈ plan.deviceResources, Owned plan.services item) : Untaken controls := by
  have separate := built.separate_of_owned owners
  refine List.pairwise_iff_forall_sublist.mpr fun {group later} sub takes => ?_
  obtain ⟨left, right, both, first, second⟩ := List.cons_sublist_iff.mp sub
  obtain ⟨before, between, rfl⟩ := append_of_mem first
  have inside : later ∈ between ++ right :=
    mem_append_right _ (List.singleton_sublist.mp second)
  have split : groupKeys controls = before ++ group :: (between ++ right) := by
    rw [both, append_assoc, cons_append]
  have distinct := nodup_groupKeys controls
  rw [split] at distinct
  have apart : group ∉ between ++ right :=
    (List.nodup_cons.mp (List.nodup_append.mp distinct).2.1).1
  have listed : group ∈ groupKeys controls := by
    rw [split]
    exact mem_append_right _ mem_cons_self
  obtain ⟨user, known, rfl⟩ := mem_groupKeys.mp listed
  obtain ⟨old, found⟩ := item_of_use known (built.formed.own user known)
  -- whoever comes first among the users of the connection, the group's service gets it
  obtain ⟨use, here, same, owner⟩ := recorded_deviceResources.owner _ old found
  obtain ⟨member, resource⟩ := mem_uses.mp here
  have place : use.1.group = user.group :=
    separate use.1 member user known user.group ⟨use.2, resource, same⟩ (built.formed.own user known)
  obtain ⟨service, present, kind, identity, owns, _⟩ :=
    owners _ (built.mem_deviceResources.mpr ⟨_, old, found, rfl⟩)
  obtain ⟨group, present, grouped⟩ := built.group_of_service present kind
  have holds : old.resourceId ∈ service.resourceIds := owns.1
  rw [recorded_deviceResources.named _ old found] at holds
  obtain ⟨one, inside', further⟩ := (grouped.resourceIds _).mp holds
  obtain ⟨other, there⟩ := mem_pairsOf.mp inside'
  have home : group = user.group :=
    there ▸ separate one other user known _ further (built.formed.own user known)
  subst home
  have final : groupServiceId controls user.group =
      (groupKeys controls).foldl (captureBy controls) old.ownerServiceId :=
    grouped.serviceId.symm.trans identity
  rw [owner, built.foldl_split member (place ▸ split), place] at final
  rcases built.foldl_after present apart with ⟨_, clear⟩ | ⟨_, holder, held, gone⟩
  · exact clear later inside takes
  · have there : holder ∈ groupKeys controls := by
      rw [split]
      exact mem_append_right _ (mem_cons_of_mem _ held)
    exact apart (built.groupServiceId_inj present there (final.trans gone) ▸ held)

end Built

/-- **The owners are sound** exactly if no resource is in two groups and no runtime is named like a robot. -/
theorem owners_sound (built : buildPlan validate config = .ok plan) :
    Sound plan ↔ Separate (controlsOf validate config) ∧ Untaken (controlsOf validate config) := by
  obtain ⟨state, built⟩ := built_of_buildPlan built
  constructor
  · intro sound
    exact ⟨built.separate_of_owned sound.owners, built.untaken_of_owned sound.owners⟩
  · rintro ⟨separate, untaken⟩
    exact ⟨fun spec member robot => built.runtimes_named member robot,
      fun item member => built.owned separate untaken member⟩

/-! ## Two configurations -/

/-- A robot named `name` on the port `name`. -/
def robotNamed (name : Char) : Robot :=
  ⟨[name], ['k'], none, some ⟨['n'], ['r', 'o', 'b', 'o', 't'], [name]⟩, []⟩

def runtimeOn (robot : Char) (name : Text) : Runtime :=
  ⟨name, [], .robot (robotNamed robot) [] false false⟩

def unchecked : Runtime → Except ServiceError Unit := fun _ => .ok ()

def shared : Config := ⟨[], [runtimeOn 'a' ['x'], runtimeOn 'a' ['y']], by decide⟩

theorem owners_sound_shared : ∃ plan, buildPlan unchecked shared = .ok plan ∧ Sound plan := by
  obtain ⟨plan, built⟩ : ∃ plan, buildPlan unchecked shared = .ok plan := ⟨_, rfl⟩
  have one : ∀ c ∈ controlsOf unchecked shared, ∀ d ∈ controlsOf unchecked shared, c.group = d.group := by decide
  have keys : (groupKeys (controlsOf unchecked shared)).length = 1 := rfl
  obtain ⟨key, alone⟩ := List.length_eq_one_iff.mp keys
  refine ⟨plan, built, (owners_sound built).mpr ⟨fun c first d second _ _ _ => one c first d second, ?_⟩⟩
  unfold Untaken
  rw [alone]
  exact pairwise_singleton _ _

/-- Two runtimes of robot `a` and two of robot `b`, one of which is named `a`. -/
def namesakes : Config :=
  ⟨[], [runtimeOn 'b' ['a'], runtimeOn 'a' ['x'], runtimeOn 'b' ['y'], runtimeOn 'a' ['z']], by decide⟩

/-- **A runtime named like a robot**: the connection of robot `a` goes to the service of robot `b`. -/
theorem runtime_named_like_robot : ∃ plan, buildPlan unchecked namesakes = .ok plan ∧ ¬ Sound plan ∧
      ∃ item ∈ plan.deviceResources, item.consumers = [['x'], ['z']] ∧ item.ownerServiceId = controlId ['b'] ∧
        ∃ service ∈ plan.services, service.serviceId = controlId ['a'] ∧
          service.runtimeIds = [['x'], ['z']] ∧ item.resourceId ∈ service.resourceIds := by
  obtain ⟨plan, built, item, here, owner, one⟩ : ∃ plan, buildPlan unchecked namesakes = .ok plan ∧
      ∃ item ∈ plan.deviceResources, item.ownerServiceId = controlId ['b'] ∧
        (∀ service ∈ plan.services, service.serviceId = controlId ['b'] →
          item.resourceId ∉ service.resourceIds) ∧ item.consumers = [['x'], ['z']] ∧
        ∃ service ∈ plan.services, service.serviceId = controlId ['a'] ∧
          service.runtimeIds = [['x'], ['z']] ∧ item.resourceId ∈ service.resourceIds :=
    ⟨_, rfl, by decide⟩
  refine ⟨plan, built, fun sound => ?_, item, here, one.2.1, owner, one.2.2⟩
  obtain ⟨service, listed, _, named, owns, _⟩ := sound.owners item here
  exact one.1 service listed (named.trans owner) owns.1

end EmbodiRun.Deployment.Ownership
