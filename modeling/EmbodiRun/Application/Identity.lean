/-
# Application.Identity -- when `execute` takes a request for a retry

A retry is looked for in two places.  The registry compares the canonical JSON of the stored
parameters with that of the new ones, which also name the snapshot that was selected.  Before
a snapshot is selected, the application compares the two as Python values, after it has
dropped the selected snapshot and overwritten or dropped the `observation_id` in the metadata
of every action.
-/
import EmbodiRun.Data.Folds
import EmbodiRun.Data.Json
import EmbodiRun.Devices.Identity

namespace EmbodiRun.Application

open Data Devices Tree

abbrev Value := Tree Text .value

abbrev Fields := Tree Text .fields

inductive CommandSource where
  | agent | replay
  deriving DecidableEq

/-- `RobotAction`. -/
structure Action where
  timestamp : Double
  values : Fields
  metadata : Fields
  deriving DecidableEq

structure Request where
  actions : List Action
  source : CommandSource
  controlHz : Double
  observationId : Option Text
  parameters : Option Fields
  deriving DecidableEq

/-- `_identity_parameters`. -/
structure Identity where
  action : List Action
  source : CommandSource
  steps : Nat
  controlHz : Double
  observationId : Option Text
  explicit : Bool
  selected : Option Text
  parameters : Option Fields
  deriving DecidableEq

/-- The key `"observation_id"`. -/
def observationKey : Text := ['o', 'b', 's', 'e', 'r', 'v', 'a', 't', 'i', 'o', 'n', '_', 'i', 'd']

def textValue : Option Text → Value
  | some text => .str text
  | none => .null

/-! ## Admission -/

/-- `_validate_hz`. -/
def validHz : Double → Bool
  | .finite value => 0 < value
  | _ => false

/-- `action_payload` raises on values or metadata that have no JSON. -/
def Action.detached (action : Action) : Bool :=
  action.values.normalize.isSome && action.metadata.normalize.isSome

/-- `_validate_requested_observation_metadata`, for one action. -/
def Action.matchesObservation (action : Action) : Option Text → Bool
  | none => true
  | some id => match action.metadata.get? observationKey with
      | none | some .null => true
      | some (.str named) => named = id
      | some _ => false

/-- What `execute` checks before it looks for the request. -/
def Request.admitted (request : Request) : Bool :=
  validHz request.controlHz && request.actions.all fun action =>
    action.detached && action.matchesObservation request.observationId

/-! ## Identities -/

def identityParameters (request : Request) (selected : Option Text) : Identity where
  action := request.actions
  source := request.source
  steps := request.actions.length
  controlHz := request.controlHz
  observationId := request.observationId
  explicit := request.observationId.isSome
  selected := selected
  parameters := request.parameters

/-- `_with_observation_id`, which raises where the metadata names another snapshot. -/
def withObservationId (id : Text) (action : Action) : Option Action :=
  match action.metadata.get? observationKey with
  | none | some .null =>
    some { action with metadata := set observationKey (.str id) action.metadata }
  | some (.str named) => if named = id then some action else none
  | some _ => none

def Action.normalize (action : Action) : Option Action :=
  match (Number.float action.timestamp).isFinite, action.values.normalize, action.metadata.normalize with
  | true, some values, some metadata => some { action with values, metadata }
  | _, _, _ => none

/-- `normalize_json`; the canonical JSON is that of the result. -/
def Identity.normalize (identity : Identity) : Option Identity :=
  match identity.action.mapM Action.normalize, identity.parameters with
  | some action, none => some { identity with action }
  | some action, some parameters =>
    parameters.normalize.map fun parameters => { identity with action, parameters := some parameters }
  | none, _ => none

/-- The parameters of the job that `execute` submits with this snapshot. -/
def submitted (request : Request) (selected : Option Text) : Option Identity :=
  match selected with
  | none => (identityParameters request none).normalize
  | some id => match request.actions.mapM (withObservationId id) with
      | none => none
      | some actions => (identityParameters { request with actions } (some id)).normalize

/-- `_canonical_identity`, for one action. -/
def canonicalAction (observationId : Option Text) (explicit : Bool) (action : Action) : Action :=
  { action with
    values := action.values.jsonValue
    metadata :=
      if explicit then set observationKey (textValue observationId) action.metadata.jsonValue
      else action.metadata.jsonValue.erase observationKey }

def canonicalIdentity (identity : Identity) : Identity :=
  { identity with
    action := identity.action.map (canonicalAction identity.observationId identity.explicit)
    observationId := if identity.explicit then identity.observationId else none
    selected := none
    parameters := identity.parameters.map jsonValue }

def sameNumber (a b : Double) : Bool := (Number.float a).eq (.float b)

def Action.eq (a b : Action) : Bool :=
  sameNumber a.timestamp b.timestamp && a.values.eq b.values && a.metadata.eq b.metadata

def sameParameters : Option Fields → Option Fields → Bool
  | none, none => true
  | some a, some b => a.eq b
  | _, _ => false

def sameActions : List Action → List Action → Bool
  | [], [] => true
  | a :: as, b :: bs => a.eq b && sameActions as bs
  | _, _ => false

/-- `==`. -/
def Identity.eq (a b : Identity) : Bool :=
  sameActions a.action b.action && a.source = b.source && a.steps = b.steps &&
    sameNumber a.controlHz b.controlHz && a.observationId = b.observationId &&
    a.explicit = b.explicit && a.selected = b.selected && sameParameters a.parameters b.parameters

/-- `_existing_identity` takes the stored job for an earlier submission of the request. -/
def existingIdentity (stored : Identity) (request : Request) : Bool :=
  (canonicalIdentity stored).eq (canonicalIdentity (identityParameters request none))

/-! ## What is stored -/

def Action.IsJson (action : Action) : Prop := action.normalize = some action

theorem Action.normalize_eq {a b : Action} (given : a.normalize = some b) : b = a := by
  unfold Action.normalize at given
  split at given
  · rename_i values metadata _ first second
    cases given
    rw [Tree.normalize_eq first, Tree.normalize_eq second]
  · cases given

theorem Action.isJson_iff {action : Action} : action.IsJson ↔
    (Number.float action.timestamp).isFinite ∧ action.values.IsJson ∧ action.metadata.IsJson := by
  constructor
  · intro json
    unfold Action.IsJson Action.normalize at json
    split at json
    · rename_i values metadata finite first second
      exact ⟨finite, isJson_of_normalize first, isJson_of_normalize second⟩
    · cases json
  · rintro ⟨finite, values, metadata⟩
    unfold Action.IsJson Action.normalize
    rw [finite, values, metadata]

theorem normalize_actions {as bs : List Action} :
    as.mapM Action.normalize = some bs ↔ bs = as ∧ ∀ action ∈ as, action.IsJson := by
  rw [mapM_some]
  constructor
  · intro all
    induction all with
    | nil => exact ⟨rfl, nofun⟩
    | cons head tail ih =>
      obtain rfl := Action.normalize_eq head
      obtain ⟨rfl, json⟩ := ih
      exact ⟨rfl, List.forall_mem_cons.mpr ⟨head, json⟩⟩
  · rintro ⟨rfl, json⟩
    exact List.forall₂_same.mpr json

def Identity.IsJson (identity : Identity) : Prop :=
  (∀ action ∈ identity.action, action.IsJson) ∧ ∀ parameters ∈ identity.parameters, parameters.IsJson

theorem Identity.normalize_eq {i j : Identity} : i.normalize = some j ↔ j = i ∧ i.IsJson := by
  obtain ⟨action, source, steps, controlHz, observationId, explicit, selected, parameters⟩ := i
  unfold normalize IsJson
  constructor
  · intro given
    dsimp only at given ⊢
    split at given
    · rename_i all
      cases given
      obtain ⟨rfl, json⟩ := normalize_actions.mp all
      exact ⟨rfl, json, nofun⟩
    · rename_i all
      obtain ⟨normal, inner, rfl⟩ := Option.map_eq_some_iff.mp given
      obtain ⟨rfl, json⟩ := normalize_actions.mp all
      obtain rfl := Tree.normalize_eq inner
      exact ⟨rfl, json, fun _ held => Option.some.inj held ▸ inner⟩
    · cases given
  · rintro ⟨rfl, actions, json⟩
    dsimp only at actions json ⊢
    rw [normalize_actions.mpr ⟨rfl, actions⟩]
    cases parameters with
    | none => rfl
    | some given =>
      have inner : given.normalize = some given := json given rfl
      dsimp only
      rw [inner]
      rfl

structure Rebound (action stored : Action) : Prop where
  timestamp : stored.timestamp = action.timestamp
  values : stored.values = action.values
  metadata : stored.metadata.erase observationKey = action.metadata.erase observationKey
  json : stored.IsJson

theorem rebound_withObservationId {id} {action stored}
    (given : withObservationId id action = some stored) (json : stored.IsJson) : Rebound action stored := by
  unfold withObservationId at given
  split at given
  · cases given
    exact ⟨rfl, rfl, erase_set _ _ _, json⟩
  · cases given
    exact ⟨rfl, rfl, erase_set _ _ _, json⟩
  · split at given <;> cases given
    exact ⟨rfl, rfl, rfl, json⟩
  · cases given

structure Submitted (request : Request) (stored : Identity) : Prop where
  actions : List.Forall₂ Rebound request.actions stored.action
  steps : stored.steps = request.actions.length
  source : stored.source = request.source
  controlHz : stored.controlHz = request.controlHz
  observationId : stored.observationId = request.observationId
  explicit : stored.explicit = request.observationId.isSome
  parameters : stored.parameters = request.parameters
  json : ∀ parameters ∈ request.parameters, parameters.IsJson
variable {request : Request} {stored : Identity} {observationId : Option Text} {explicit : Bool}

theorem submitted_eq {selected : Option Text} (given : submitted request selected = some stored) :
    Submitted request stored ∧ stored.selected = selected := by
  unfold submitted at given
  split at given
  · obtain ⟨rfl, actions, parameters⟩ := Identity.normalize_eq.mp given
    refine ⟨⟨?_, rfl, rfl, rfl, rfl, rfl, rfl, parameters⟩, rfl⟩
    exact List.forall₂_same.mpr fun action member => ⟨rfl, rfl, rfl, actions action member⟩
  · rename_i id
    split at given
    · cases given
    rename_i rebound all
    obtain ⟨rfl, actions, parameters⟩ := Identity.normalize_eq.mp given
    have all := mapM_some.mp all
    refine ⟨⟨?_, all.length_eq.symm, rfl, rfl, rfl, rfl, rfl, parameters⟩, rfl⟩
    refine List.forall₂_iff_zip.mpr ⟨all.length_eq, fun {a b} member => ?_⟩
    exact rebound_withObservationId ((List.forall₂_iff_zip.mp all).2 member) (actions b (List.of_mem_zip member).2)

/-! ## What is taken for a retry -/

structure ActionAlike (a b : Action) : Prop where
  timestamp : sameNumber a.timestamp b.timestamp
  values : a.values.eq b.values
  metadata : (a.metadata.erase observationKey).eq (b.metadata.erase observationKey)

structure Alike (a b : Request) : Prop where
  actions : List.Forall₂ ActionAlike a.actions b.actions
  source : a.source = b.source
  controlHz : sameNumber a.controlHz b.controlHz
  observationId : a.observationId = b.observationId
  parameters : sameParameters a.parameters (b.parameters.map jsonValue)

theorem detached_of_admitted (admitted : request.admitted) :
    ∀ action ∈ request.actions, action.values.IsJson ∧ action.metadata.IsJson := by
  intro action member
  have all := List.all_eq_true.mp (Bool.and_eq_true_iff.mp admitted).2 action member
  obtain ⟨values, metadata⟩ := Bool.and_eq_true_iff.mp (Bool.and_eq_true_iff.mp all).1
  obtain ⟨v, first⟩ := Option.isSome_iff_exists.mp values
  obtain ⟨m, second⟩ := Option.isSome_iff_exists.mp metadata
  exact ⟨isJson_of_normalize first, isJson_of_normalize second⟩

end EmbodiRun.Application
