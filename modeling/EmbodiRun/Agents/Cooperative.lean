/-
# Agents.Cooperative -- the joints of a proposal, from its response to the submitted actions

A response declares the order of its joints at its top, in its nested proposal or in its metadata, or by
the keys of its rows; the rows are read in that order.  They are submitted in the order of the session, or
of the merged metadata.

* `labels_kept_iff`: **joints keep their values iff the two orders name equal values, place by place**.
-/
import EmbodiRun.Data.Dict
import EmbodiRun.Data.Except
import EmbodiRun.Data.Folds
import EmbodiRun.Data.Json

namespace EmbodiRun.Agents.Cooperative

open Data List

inductive Value where
  | null
  | number (n : Number)
  | str (text : String)
  | list (items : List Value)
  | dict (fields : Dict String Value)

abbrev Fields := Dict String Value

structure Python where
  /-- `float(value)`. -/
  float : Value → Except String Double
  /-- `str(value)` of what is not a text. -/
  str : Value → String
  /-- `==`. -/
  eq : Value → Value → Bool
  /-- `not text.strip()`. -/
  blank : String → Bool
  /-- `index * step`. -/
  scale : Nat → Double → Double

def isFinite (x : Double) : Bool := (Number.float x).isFinite

/-- `fields.get(key)`, where it is not `None`. -/
def given (fields : Fields) (key : String) : Option Value :=
  match fields.get? key with
  | some .null => none
  | value => value

/-- A `Mapping`. -/
def Value.fields? : Value → Option Fields
  | .dict fields => some fields
  | _ => none

def Python.name (py : Python) : Value → String
  | .str text => text
  | value => py.str value

/-! ## The response -/

section

variable (py : Python)

def mergeMetadata (target source : Fields) : Except String Fields :=
  source.items.foldlM (fun (target : Fields) (item : String × Value) =>
    match target.get? item.1 with
    | some old =>
      if py.eq old item.2 then .ok (target.set item.1 item.2)
      else .error ("conflicting proposal metadata for " ++ item.1)
    | none => .ok (target.set item.1 item.2)) target

/-- One entry of `_metadata_from`. -/
def mergeEntry (source : Fields) (key : String) (target : Fields) : Except String Fields :=
  match given source key with
  | none => .ok target
  | some (.dict candidate) => mergeMetadata py target candidate
  | some _ => .error ("proposal " ++ key ++ " must be a mapping")

def metadataFrom (payload nested : Fields) : Except String Fields := do
  let metadata ← mergeEntry py nested "metadata" .empty
  let metadata ← mergeEntry py nested "action_metadata" metadata
  let metadata ← mergeEntry py payload "metadata" metadata
  mergeEntry py payload "action_metadata" metadata

/-- `payload.get("proposal")`, where it is a mapping. -/
def nestedOf (payload : Fields) : Fields :=
  ((payload.get? "proposal").bind Value.fields?).getD .empty

def actionSource (payload nested : Fields) : Value :=
  match given payload "actions" <|> given nested "actions" with
  | some (.dict actions) => (actions.get? "data" <|> actions.get? "actions").getD .null
  | some actions => actions
  | none => .null

def unwrapChunk (actions : Value) : Value :=
  match actions with
  | .list [.dict item] =>
    match (item.get? "values").getD (.dict item) with
    | .dict values =>
      match values.get? "data" <|> values.get? "actions" with
      | none | some .null => actions
      | some chunk => chunk
    | _ => actions
  | _ => actions

def declaredNames (payload nested : Fields) (featureNames : Option (List String)) :
    Except String (Option (List String)) :=
  match featureNames with
  | some names => .ok (some names)
  | none => do
    let raw ← match payload.get? "feature_names" <|> nested.get? "feature_names" with
      | none | some .null => do
        let metadata ← metadataFrom py payload nested
        pure (metadata.get? "feature_names")
      | raw => pure raw
    match raw with
    | some (.list names) => .ok (some (names.map py.name))
    | _ => .ok none

def finiteRow (label : String) : Value → Except String (List Double)
  | .list items => do
    ensure (items.length = 12) (label ++ " must contain 12 values")
    let row ← items.mapM py.float
    ensure (row.all isFinite) (label ++ " contains a non-finite value")
    return row
  | _ => .error (label ++ " must contain 12 values")

/-- `action_decoder`, for a mapping with `type`, `left` and `right`. -/
abbrev Decoder := Fields → Except String Value

inductive Content where
  | placed (values : Value)
  | named (values : Fields)

def rowContent (decoder : Option Decoder) (item : Value) : Except String Content :=
  match item with
  | .dict fields =>
    match (fields.get? "values" <|> fields.get? "action").getD item with
    | .dict values =>
      match values.get? "data" <|> values.get? "joint_positions" with
      | none | some .null =>
        match decoder with
        | some decode =>
          if ["type", "left", "right"].all fun key => (values.get? key).isSome then
            (decode values).map .placed
          else .ok (.named values)
        | none => .ok (.named values)
      | some data => .ok (.placed data)
    | values => .ok (.placed values)
  | _ => .ok (.placed item)

def keys (values : Fields) : List String := values.items.map Prod.fst

/-- The order of a row that names its values: the first such row declares it where nothing has. -/
def rowOrder (names : Option (List String)) (values : Fields) : Except String (List String) :=
  match names with
  | some names => .ok names
  | none =>
    if (keys values).length = 12 then .ok (keys values)
    else .error "mapped proposal actions require explicit feature_names"

/-- `[values[name] for name in inferred_names]`. -/
def inOrder (label : String) (order : List String) (values : Fields) : Except String (List Value) :=
  match order.mapM values.get? with
  | some row => .ok row
  | none => .error (label ++ " is missing a declared feature")

def normalizeRow (decoder : Option Decoder) (names : Option (List String)) (label : String) (item : Value) :
    Except String (List Double × Option (List String)) := do
  match ← rowContent decoder item with
  | .placed values => do
    let row ← finiteRow py label values
    return (row, names)
  | .named values => do
    let order ← rowOrder names values
    let row ← inOrder label order values
    let row ← finiteRow py label (.list row)
    return (row, some order)

/-- The loop of `_normalize_rows`. -/
def rowsFrom (decoder : Option Decoder) : Nat → Option (List String) → List Value →
    Except String (List (List Double) × Option (List String))
  | _, names, [] => .ok ([], names)
  | index, names, item :: rest => do
    let (row, names) ← normalizeRow py decoder names ("proposal.actions[" ++ toString index ++ "]") item
    let (rows, names) ← rowsFrom decoder (index + 1) names rest
    return (row :: rows, names)

def normalizeRows (payload : Fields) (featureNames : Option (List String)) (decoder : Option Decoder) :
    Except String (List (List Double) × Option (List String)) := do
  let nested := nestedOf payload
  let names ← declaredNames py payload nested featureNames
  let .list items := unwrapChunk (actionSource payload nested)
    | throw "Deploy proposal must contain exactly 50 action rows"
  ensure (items.length = 50) "Deploy proposal must contain exactly 50 action rows"
  let (rows, names) ← rowsFrom py decoder 0 names items
  ensure (names.all fun names => names.length = 12) "feature_names must contain exactly 12 names"
  return (rows, names)

structure Proposal where
  proposalId : String
  observationId : String
  actions : List (List Double)
  metadata : Fields

def proposalMetadata : List (String × Value × String) :=
  [("action_semantics", .str "biso101_so101_v1", "'biso101_so101_v1'"),
   ("action_layout", .str "left6_right6", "'left6_right6'"),
   ("action_encoding", .str "absolute", "'absolute'"),
   ("action_dim", .number (.int 12), "12")]

/-- `in {"degrees", "range_m100_100"}`. -/
def declaresUnit : Option Value → Bool
  | some (.str unit) => unit = "degrees" || unit = "range_m100_100"
  | _ => false

def validateProposal (actions : List (List Double)) (metadata : Fields) : Except String Unit := do
  for (key, expected, shown) in proposalMetadata do
    ensure ((metadata.get? key).any (py.eq · expected)) ("proposal metadata " ++ key ++ " must be " ++ shown)
  ensure (declaresUnit (metadata.get? "joint_position_unit"))
    "proposal metadata joint_position_unit must explicitly declare degrees or range_m100_100"
  ensure ((metadata.get? "horizon").all fun horizon => py.eq horizon (.number (.int 50)))
    "proposal metadata horizon must be 50"
  ensure (actions.length = 50) "proposal actions must be a 50-step sequence"
  ensure (actions.all fun row => row.length = 12) "proposal actions must contain 12 values"
  ensure (actions.all fun row => row.all isFinite) "proposal actions contains a non-finite value"

/-- `Proposal.from_payload`. -/
def proposalFromPayload (proposal : Proposal) (observationId : String) : Except String Proposal := do
  validateProposal py proposal.actions proposal.metadata
  ensure (proposal.observationId = observationId) "proposal.observation_id does not match the observation"
  ensure (py.blank proposal.proposalId = false) "proposal_id must be a non-empty string"
  return proposal

/-- `payload.get(key, nested.get(key))`. -/
def either (payload nested : Fields) (key : String) : Option Value := payload.get? key <|> nested.get? key

/-- `proposal_metadata.setdefault("feature_names", list(names))`. -/
def setDefaultNames (metadata : Fields) : Option (List String) → Fields
  | none => metadata
  | some names =>
    if (metadata.get? "feature_names").isSome then metadata
    else metadata.set "feature_names" (.list (names.map .str))

def checkObservation (payload nested : Fields) (observationId : String) : Except String Unit :=
  match either payload nested "observation_id" with
  | none | some .null => .ok ()
  | some (.str declared) =>
    if declared = observationId then .ok ()
    else .error "Deploy proposal observation_id does not match observation"
  | some _ => .error "Deploy proposal observation_id does not match observation"

/-- The id of the proposal, or of the request, or a `fresh` one. -/
def proposalIdOf (payload nested : Fields) (fresh : String) : Except String String :=
  match (either payload nested "proposal_id" <|> payload.get? "request_id").getD (.str fresh) with
  | .str id =>
    if py.blank id then .error "Deploy proposal must have a non-empty proposal_id" else .ok id
  | _ => .error "Deploy proposal must have a non-empty proposal_id"

/-- `normalize_public_proposal`; `fresh` is the id of a response that has none. -/
def normalizePublicProposal (payload : Fields) (observationId : String) (featureNames : Option (List String))
    (metadata : Option Fields) (decoder : Option Decoder) (fresh : String) : Except String Proposal := do
  let nested := nestedOf payload
  checkObservation payload nested observationId
  let (rows, names) ← normalizeRows py payload featureNames decoder
  let declared ← metadataFrom py payload nested
  let merged ← mergeMetadata py declared (metadata.getD .empty)
  let proposalId ← proposalIdOf py payload nested fresh
  proposalFromPayload py ⟨proposalId, observationId, rows, setDefaultNames merged names⟩ observationId

end

/-! ## The round -/

section

variable (py : Python)

/-- A decision for `execute_prefix`; `corrections` counts what it lists. -/
structure Decision where
  proposalId : String
  observationId : String
  executeSteps : Int
  corrections : Nat
  reason : String

/-- `validate_decision`, for `execute_prefix`. -/
def validateDecision (raw : Decision) (proposalId observationId : String) : Except String Nat := do
  ensure (raw.proposalId = proposalId) "Astra decision does not match the current proposal"
  ensure (raw.observationId = observationId) "Astra decision does not match the current observation"
  ensure (py.blank raw.reason = false) "Astra decision reason must be non-empty"
  ensure ((1 ≤ raw.executeSteps ∧ raw.executeSteps ≤ 15) ∧ raw.corrections = 0)
    "execute_prefix requires 1-15 steps and no corrections"
  return raw.executeSteps.toNat

structure Action where
  timestampS : Double
  values : Dict String Double
  metadata : Fields

def nameOf : Value → Option String
  | .str text => if text = "" then none else some text
  | _ => none

/-- `rows_to_actions`, without an encoder. -/
def rowsToActions (rows : List (List Double)) (featureNames : List Value) (step : Double) (metadata : Fields) :
    Except String (List Action) := do
  let some names := featureNames.mapM nameOf | throw "feature_names must contain 12 non-empty names"
  ensure (names.length = 12) "feature_names must contain 12 non-empty names"
  ensure names.Nodup "feature_names must be unique"
  ensure (rows.all fun row => row.length = names.length && row.all isFinite)
    "action rows must contain finite values matching feature_names"
  return rows.mapIdx fun index row => ⟨py.scale index step, .ofItems (names.zip row), metadata⟩

/-- `self.feature_names or _declared_feature_names(proposal.metadata)`. -/
def submittedNames (featureNames : Option (List String)) (metadata : Fields) : Except String (List Value) :=
  match featureNames with
  | some (name :: names) => .ok ((name :: names).map .str)
  | _ => match metadata.get? "feature_names" with
      | some (.list names) => .ok names
      | _ => .error "proposal metadata must declare feature_names for the binding action space"

/-- `run_round`, up to the actions that it submits for `execute_prefix`. -/
def runRound (featureNames : Option (List String)) (step : Double) (raw : Proposal) (observationId : String)
    (decision : Decision) : Except String (List Action) := do
  let proposal ← proposalFromPayload py raw observationId
  let steps ← validateDecision py decision proposal.proposalId proposal.observationId
  let names ← submittedNames featureNames proposal.metadata
  rowsToActions py (proposal.actions.take steps) names step (.ofItems [("proposal_id", .str proposal.proposalId),
      ("joint_position_unit", (proposal.metadata.get? "joint_position_unit").getD .null)])

end

/-! ## What a row assigns -/

section

variable (py : Python) (decoder : Option Decoder)

/-- What the values at the places of `order` give to `name`. -/
def place {α : Type} (order : List String) (values : List α) (name : String) : Option α :=
  (Dict.ofItems (order.zip values)).get? name

/-- What a row's content gives to `name`, where its places are those of `order`. -/
def reading (order : List String) : Content → String → Option Double
  | .placed (.list values), name => (place order values name).bind fun value => (py.float value).toOption
  | .placed _, _ => none
  | .named values, name =>
    if name ∈ order then (values.get? name).bind fun value => (py.float value).toOption else none

/-- What a row of the response assigns to `name`. -/
def assigns (order : List String) (item : Value) (name : String) : Option Double :=
  match rowContent decoder item with
  | .ok content => reading py order content name
  | .error _ => none

def namedKeys (item : Value) : Option (List String) :=
  match rowContent decoder item with
  | .ok (.named values) => some (keys values)
  | _ => none

def responseRows (payload : Fields) : List Value :=
  match unwrapChunk (actionSource payload (nestedOf payload)) with
  | .list items => items
  | _ => []

/-- The order that the rows are read in: the declared one, or that of the first row that names its values. -/
def readOrder (payload : Fields) (featureNames : Option (List String)) : Option (List String) :=
  match declaredNames py payload (nestedOf payload) featureNames with
  | .ok (some names) => some names
  | _ => (responseRows payload).findSome? (namedKeys decoder)

def joints (featureNames : Option (List String)) (metadata : Fields) : List String :=
  match submittedNames featureNames metadata with
  | .ok names => names.filterMap nameOf
  | .error _ => []

variable {py decoder} {label : String} {order : List String} {item : Value} {row : List Double}
variable {j : Nat} {name : String} {final : Option (List String)} {rows : List (List Double)}
  {payload : Fields} {observationId : String} {featureNames : Option (List String)}
  {decision : Decision} {values : List Value} {step : Double} {actions : List Action}

theorem place_at {α : Type} {values : List α} (nodup : order.Nodup)
    (length : order.length = values.length) {value : α} (named : order[j]? = some name)
    (held : values[j]? = some value) : place order values name = some value := by
  have distinct : ((order.zip values).map Prod.fst).Nodup := by
    rw [map_fst_zip (Nat.le_of_eq length)]
    exact nodup
  have member : (name, value) ∈ order.zip values :=
    mem_of_getElem? (getElem?_zip_eq_some.mpr ⟨named, held⟩)
  exact Dict.get?_ofItems distinct member

theorem mem_of_place {α : Type} {values : List α} (some_ : (place order values name).isSome) : name ∈ order := by
  obtain ⟨pair, held, rfl⟩ := (Dict.isSome_get?_ofItems _).mp some_
  exact (of_mem_zip held).1

theorem finiteRow_ok {values} (ran : finiteRow py label values = .ok row) :
    ∃ items, values = .list items ∧ items.length = 12 ∧
      List.Forall₂ (fun value x => py.float value = .ok x) items row := by
  cases values with
  | list items =>
    obtain ⟨_, twelve, rest⟩ := bind_ok ran
    obtain ⟨floats, mapped, rest⟩ := bind_ok rest
    obtain ⟨-, -, done⟩ := bind_ok rest
    cases done
    exact ⟨items, rfl, ensure_ok twelve, mapM_ok mapped⟩
  | null | number | str | dict => cases ran

/-- How a row was read, where `final` is the order at the end. -/
inductive Read (py : Python) (decoder : Option Decoder) (final : Option (List String)) (item : Value)
    (row : List Double) : Prop where
  | placed (values : List Value) (taken : rowContent decoder item = .ok (.placed (.list values)))
      (length : values.length = 12) (floats : List.Forall₂ (fun value x => py.float value = .ok x) values row)
  | named (fields : Fields) (order : List String) (values : List Value)
      (taken : rowContent decoder item = .ok (.named fields)) (known : final = some order)
      (found : List.Forall₂ (fun name value => fields.get? name = some value) order values)
      (length : values.length = 12) (floats : List.Forall₂ (fun value x => py.float value = .ok x) values row)

theorem Read.row_length (read : Read py decoder final item row) : row.length = 12 := by
  cases read with
  | placed values _ length floats | named _ _ values _ _ _ length floats => rw [← floats.length_eq, length]

theorem normalizeRow_ok {names after} (ran : normalizeRow py decoder names label item = .ok (row, after)) :
    after = (names <|> namedKeys decoder item) ∧
      ∀ final, (∀ order, after = some order → final = some order) → Read py decoder final item row := by
  obtain ⟨content, taken, rest⟩ := bind_ok ran
  cases content with
  | placed =>
    obtain ⟨floats, finite, done⟩ := bind_ok rest
    cases done
    obtain ⟨items, rfl, length, held⟩ := finiteRow_ok finite
    have unnamed : namedKeys decoder item = none := by rw [namedKeys, taken]
    exact ⟨by rw [unnamed]; cases names <;> rfl, fun final _ => .placed items taken length held⟩
  | named fields =>
    have known : namedKeys decoder item = some (keys fields) := by rw [namedKeys, taken]
    obtain ⟨order, chosen, rest⟩ := bind_ok rest
    obtain ⟨values, ordered, rest⟩ := bind_ok rest
    obtain ⟨floats, finite, done⟩ := bind_ok rest
    cases done
    obtain ⟨items, same, length, held⟩ := finiteRow_ok finite
    cases same
    have found : order.mapM fields.get? = some values := by
      unfold inOrder at ordered
      split at ordered <;> cases ordered
      assumption
    refine ⟨?_, fun final later => .named fields order values taken (later order rfl) (mapM_some.mp found)
      length held⟩
    cases names with
    | some => cases chosen; rfl
    | none =>
      rw [known]
      simp only [rowOrder] at chosen
      split at chosen
      · cases chosen; rfl
      · cases chosen

theorem rowsFrom_ok {items} {index} {names final} (ran : rowsFrom py decoder index names items = .ok (rows, final)) :
    final = (names <|> items.findSome? (namedKeys decoder)) ∧ List.Forall₂ (Read py decoder final) items rows := by
  induction items generalizing index names rows with
  | nil =>
    cases ran
    exact ⟨by cases final <;> rfl, .nil⟩
  | cons item items ih =>
    obtain ⟨⟨row, after⟩, first, rest⟩ := bind_ok ran
    obtain ⟨⟨rows, last⟩, later, done⟩ := bind_ok rest
    cases done
    obtain ⟨rfl, read⟩ := normalizeRow_ok first
    obtain ⟨rfl, reads⟩ := ih later
    refine ⟨?_, .cons (read _ fun order known => by rw [known]; rfl) reads⟩
    rw [findSome?_cons]
    cases names with
    | some => rfl
    | none => cases namedKeys decoder item <;> rfl

theorem normalizeRows_ok {featureNames final : Option (List String)}
    (ran : normalizeRows py payload featureNames decoder = .ok (rows, final)) :
    final = readOrder py decoder payload featureNames ∧ (∀ order, final = some order → order.length = 12) ∧
      (responseRows payload).length = 50 ∧
      List.Forall₂ (Read py decoder final) (responseRows payload) rows := by
  obtain ⟨names, declared, rest⟩ := bind_ok ran
  split at rest
  · rename_i items unwrapped
    have response : responseRows payload = items := by rw [responseRows, unwrapped]
    obtain ⟨_, fifty, rest⟩ := bind_ok rest
    obtain ⟨⟨rows, last⟩, read, rest⟩ := bind_ok rest
    obtain ⟨_, twelve, done⟩ := bind_ok rest
    have lengths := ensure_ok twelve
    cases done
    obtain ⟨same, reads⟩ := rowsFrom_ok read
    refine ⟨?_, fun order known => ?_, by rw [response]; exact ensure_ok fifty, response ▸ reads⟩
    · rw [same, readOrder, declared, response]
      cases names <;> rfl
    · rw [known] at lengths
      simpa using lengths
  · cases rest

theorem proposalFromPayload_ok {raw proposal}
    (ran : proposalFromPayload py raw observationId = .ok proposal) : proposal = raw := by
  obtain ⟨-, -, rest⟩ := bind_ok ran
  obtain ⟨-, -, rest⟩ := bind_ok rest
  obtain ⟨-, -, done⟩ := bind_ok rest
  cases done
  rfl

theorem normalizePublicProposal_ok {observationId fresh : String} {metadata : Option Fields} {proposal : Proposal}
    (ran : normalizePublicProposal py payload observationId featureNames metadata decoder fresh = .ok proposal) :
    ∃ final, normalizeRows py payload featureNames decoder = .ok (proposal.actions, final) := by
  obtain ⟨-, -, rest⟩ := bind_ok ran
  obtain ⟨⟨rows, final⟩, read, rest⟩ := bind_ok rest
  obtain ⟨declared, -, rest⟩ := bind_ok rest
  obtain ⟨merged, -, rest⟩ := bind_ok rest
  obtain ⟨id, -, rest⟩ := bind_ok rest
  refine ⟨final, ?_⟩
  rw [proposalFromPayload_ok rest]
  exact read

theorem validateDecision_ok {proposalId observationId} {steps}
    (ran : validateDecision py decision proposalId observationId = .ok steps) :
    steps = decision.executeSteps.toNat ∧ 1 ≤ steps := by
  obtain ⟨-, -, rest⟩ := bind_ok ran
  obtain ⟨-, -, rest⟩ := bind_ok rest
  obtain ⟨-, -, rest⟩ := bind_ok rest
  obtain ⟨_, bounded, done⟩ := bind_ok rest
  have bounds := (ensure_ok bounded).1
  cases done
  exact ⟨rfl, by omega⟩

theorem filterMap_of_mapM {names} (ran : values.mapM nameOf = some names) : values.filterMap nameOf = names := by
  have each := mapM_some.mp ran
  clear ran
  induction each with
  | nil => rfl
  | cons first _ ih => rw [filterMap_cons_some first, ih]

theorem rowsToActions_ok {metadata} (ran : rowsToActions py rows values step metadata = .ok actions) :
    (values.filterMap nameOf).length = 12 ∧ (values.filterMap nameOf).Nodup ∧
      List.Forall₂ (fun row action => action.values = Dict.ofItems ((values.filterMap nameOf).zip row))
        rows actions := by
  unfold rowsToActions at ran
  split at ran
  · rename_i names named
    rw [filterMap_of_mapM named]
    obtain ⟨_, length, rest⟩ := bind_ok ran
    obtain ⟨_, nodup, rest⟩ := bind_ok rest
    obtain ⟨-, -, done⟩ := bind_ok rest
    cases done
    refine ⟨ensure_ok length, ensure_ok nodup, ?_⟩
    rw [forall₂_iff_get]
    exact ⟨by simp, fun j _ _ => by simp⟩
  · cases ran

theorem runRound_ok {raw : Proposal} (ran : runRound py featureNames step raw observationId decision = .ok actions) :
    1 ≤ decision.executeSteps.toNat ∧ (joints featureNames raw.metadata).length = 12 ∧
      (joints featureNames raw.metadata).Nodup ∧
      List.Forall₂ (fun row action => action.values = Dict.ofItems ((joints featureNames raw.metadata).zip row))
        (raw.actions.take decision.executeSteps.toNat) actions := by
  obtain ⟨proposal, given, rest⟩ := bind_ok ran
  obtain rfl := proposalFromPayload_ok given
  obtain ⟨steps, decided, rest⟩ := bind_ok rest
  obtain ⟨rfl, some_⟩ := validateDecision_ok decided
  obtain ⟨names, submitted, rest⟩ := bind_ok rest
  have named : joints featureNames proposal.metadata = names.filterMap nameOf := by rw [joints, submitted]
  rw [named]
  exact ⟨some_, rowsToActions_ok rest⟩

/-! ## Two orders -/

theorem mem_of_assigns (some_ : (assigns py decoder order item name).isSome) : name ∈ order := by
  unfold assigns at some_
  split at some_
  · rename_i content _
    match content with
    | .placed (.list values) =>
      rw [reading] at some_
      obtain ⟨value, found⟩ := Option.isSome_iff_exists.mp some_
      obtain ⟨held, there, -⟩ := Option.bind_eq_some_iff.mp found
      exact mem_of_place (Option.isSome_iff_exists.mpr ⟨held, there⟩)
    | .placed .null | .placed (.number _) | .placed (.str _) | .placed (.dict _) => cases some_
    | .named fields =>
      rw [reading] at some_
      split at some_
      · assumption
      · cases some_
  · cases some_

theorem Read.assigns_at (read : Read py decoder final item row)
    (known : ∀ other, final = some other → other = order) (nodup : order.Nodup)
    (twelve : order.length = 12) {x : Double} (named : order[j]? = some name)
    (held : row[j]? = some x) : assigns py decoder order item name = some x := by
  have float {values : List Value} (floats : List.Forall₂ (fun value x => py.float value = .ok x) values row) :
      ∃ value, values[j]? = some value ∧ (py.float value).toOption = some x := by
    obtain ⟨bound, rfl⟩ := List.getElem?_eq_some_iff.mp held
    have within : j < values.length := floats.length_eq ▸ bound
    refine ⟨values[j], getElem?_eq_getElem within, ?_⟩
    have same := (List.forall₂_iff_get.mp floats).2 j within bound
    simp only [get_eq_getElem] at same
    rw [same]
    rfl
  cases read with
  | placed values taken length floats =>
    obtain ⟨value, there, same⟩ := float floats
    rw [assigns, taken]
    simp only [reading]
    rw [place_at nodup (by rw [twelve, length]) named there]
    exact same
  | named fields read values taken final found length floats =>
    obtain rfl := known read final
    obtain ⟨value, there, same⟩ := float floats
    obtain ⟨bound, rfl⟩ := List.getElem?_eq_some_iff.mp named
    obtain ⟨within, rfl⟩ := List.getElem?_eq_some_iff.mp there
    have got := (List.forall₂_iff_get.mp found).2 j bound within
    simp only [get_eq_getElem] at got
    rw [assigns, taken]
    simp only [reading]
    rw [if_pos (getElem_mem bound), got]
    exact same

variable {final : Option (List String)} {submittedAs : List String}

theorem row_kept (read : Read py decoder final item row)
    (known : ∀ other, final = some other → other = order) (nodup : submittedAs.Nodup)
    (twelve : submittedAs.length = 12) (perm : order.Perm submittedAs) :
    (∀ name, place submittedAs row name = assigns py decoder order item name) ↔
      ∀ pair ∈ order.zip submittedAs, assigns py decoder order item pair.1 = assigns py decoder order item pair.2 := by
  have length := read.row_length
  have placed {j : Nat} {name : String} {x : Double} (named : submittedAs[j]? = some name)
      (held : row[j]? = some x) : place submittedAs row name = some x :=
    place_at nodup (by rw [twelve, length]) named held
  have assigned {j : Nat} {name : String} {x : Double} (named : order[j]? = some name)
      (held : row[j]? = some x) : assigns py decoder order item name = some x :=
    read.assigns_at known (perm.nodup_iff.mpr nodup) (by rw [perm.length_eq, twelve]) named held
  constructor
  · intro kept pair member
    obtain ⟨j, there⟩ := mem_iff_getElem?.mp member
    obtain ⟨first, second⟩ := getElem?_zip_eq_some.mp there
    obtain ⟨bound, -⟩ := List.getElem?_eq_some_iff.mp second
    have held : row[j]? = some row[j] := getElem?_eq_getElem (by omega)
    rw [assigned first held, ← kept, placed second held]
  · intro equal name
    by_cases member : name ∈ submittedAs
    · obtain ⟨j, second⟩ := mem_iff_getElem?.mp member
      obtain ⟨bound, -⟩ := List.getElem?_eq_some_iff.mp second
      have within : j < order.length := by rw [perm.length_eq]; exact bound
      have first : order[j]? = some order[j] := getElem?_eq_getElem within
      have held : row[j]? = some row[j] := getElem?_eq_getElem (by omega)
      have pair : (order[j], name) ∈ order.zip submittedAs :=
        mem_of_getElem? (getElem?_zip_eq_some.mpr ⟨first, second⟩)
      rw [placed second held, ← assigned first held]
      exact equal _ pair
    · have unplaced : place submittedAs row name = none :=
        Option.not_isSome_iff_eq_none.mp fun some_ => member (mem_of_place some_)
      have unread : assigns py decoder order item name = none :=
        Option.not_isSome_iff_eq_none.mp fun some_ => member (perm.mem_iff.mp (mem_of_assigns some_))
      rw [unplaced, unread]

theorem perm_of_kept (length : row.length = 12) (nodup : submittedAs.Nodup) (twelve : submittedAs.length = 12)
    (order_length : order.length = 12)
    (kept : ∀ name, place submittedAs row name = assigns py decoder order item name) :
    order.Perm submittedAs := by
  have inside : submittedAs ⊆ order := by
    intro name member
    obtain ⟨j, named⟩ := mem_iff_getElem?.mp member
    obtain ⟨bound, -⟩ := List.getElem?_eq_some_iff.mp named
    have held : row[j]? = some row[j] := getElem?_eq_getElem (by omega)
    have got : assigns py decoder order item name = some row[j] := by
      rw [← kept, place_at nodup (by rw [twelve, length]) named held]
    exact mem_of_assigns (Option.isSome_iff_exists.mpr ⟨_, got⟩)
  exact ((subperm_of_subset nodup inside).perm_of_length_le (by omega)).symm

theorem forall₂_through {α β γ : Type} {R : α → β → Prop} {S : β → γ → Prop} {xs : List α} {ys : List β}
    {zs : List γ} (first : List.Forall₂ R xs ys) (second : List.Forall₂ S ys zs) :
    List.Forall₂ (fun x z => ∃ y, R x y ∧ S y z) xs zs := by
  induction first generalizing zs with
  | nil =>
    cases second
    exact .nil
  | cons here _ ih =>
    cases second with
    | cons there rest => exact .cons ⟨_, here, there⟩ (ih rest)

/-- The joints keep the values that the rows assign to them, if and only if the two orders name the same
joints up to equal values. -/
theorem labels_kept_iff {payload : Fields} {observationId fresh : String}
    {featureNames : Option (List String)} {metadata : Option Fields} {proposal : Proposal} {step : Double}
    {decision : Decision} {actions : List Action}
    (normalized : normalizePublicProposal py payload observationId featureNames metadata decoder fresh = .ok proposal)
    (submitted : runRound py featureNames step proposal observationId decision = .ok actions) :
    List.Forall₂ (fun item action => ∀ name, action.values.get? name =
        assigns py decoder ((readOrder py decoder payload featureNames).getD
          (joints featureNames proposal.metadata)) item name)
      ((responseRows payload).take decision.executeSteps.toNat) actions ↔
    ((readOrder py decoder payload featureNames).getD (joints featureNames proposal.metadata)).Perm
        (joints featureNames proposal.metadata) ∧
      ∀ item ∈ (responseRows payload).take decision.executeSteps.toNat,
        ∀ pair ∈ ((readOrder py decoder payload featureNames).getD
            (joints featureNames proposal.metadata)).zip (joints featureNames proposal.metadata),
          assigns py decoder ((readOrder py decoder payload featureNames).getD
            (joints featureNames proposal.metadata)) item pair.1 =
          assigns py decoder ((readOrder py decoder payload featureNames).getD
            (joints featureNames proposal.metadata)) item pair.2 := by
  obtain ⟨final, normal⟩ := normalizePublicProposal_ok normalized
  obtain ⟨same, lengths, fifty, reads⟩ := normalizeRows_ok normal
  obtain ⟨some_, twelve, nodup, acts⟩ := runRound_ok submitted
  generalize joints featureNames proposal.metadata = submittedAs at twelve nodup acts ⊢
  rw [← same]
  have known (other : List String) (is : final = some other) : other = final.getD submittedAs := by
    rw [is]; rfl
  have order_length : (final.getD submittedAs).length = 12 := by
    cases final with
    | none => exact twelve
    | some other => exact lengths other rfl
  generalize final.getD submittedAs = order at known order_length
  have both := forall₂_through (forall₂_take decision.executeSteps.toNat reads) acts
  obtain ⟨count, each⟩ := List.forall₂_iff_get.mp both
  generalize rows_eq : (responseRows payload).take decision.executeSteps.toNat = rows at both count each
  have some_row : 0 < rows.length := by
    rw [← rows_eq, length_take]
    omega
  rw [forall₂_iff_get]
  constructor
  · rintro ⟨-, kept⟩
    have perm : order.Perm submittedAs := by
      obtain ⟨row, read, values⟩ := each 0 some_row (count ▸ some_row)
      have first (name : String) :
          place submittedAs row name = assigns py decoder order (rows.get ⟨0, some_row⟩) name := by
        rw [place, ← values]
        exact kept 0 some_row (count ▸ some_row) name
      exact perm_of_kept read.row_length nodup twelve order_length first
    refine ⟨perm, fun item member => ?_⟩
    obtain ⟨j, bound, rfl⟩ := getElem_of_mem member
    obtain ⟨row, read, values⟩ := each j bound (count ▸ bound)
    refine (row_kept read known nodup twelve perm).mp fun name => ?_
    rw [place, ← values]
    exact kept j bound (count ▸ bound) name
  · rintro ⟨perm, equal⟩
    refine ⟨count, fun j bound within name => ?_⟩
    obtain ⟨row, read, values⟩ := each j bound within
    rw [values]
    exact (row_kept read known nodup twelve perm).mpr (equal _ (getElem_mem bound)) name

end

/-! ## Two runs -/

def plain : Python where
  float
    | .number (.float x) => .ok x
    | .number (.int n) => .ok (.finite n)
    | _ => .error "float() argument must be a number"
  str _ := "None"
  eq
    | .str a, .str b => a = b
    | .number a, .number b => a.eq b
    | _, _ => false
  blank text := text = ""
  scale
    | index, .finite step => .finite (index * step)
    | _, step => step

def twelveNames : List String :=
  ["l0", "l1", "l2", "l3", "l4", "l5", "r0", "r1", "r2", "r3", "r4", "r5"]

def namedRow : Value := .dict ⟨twelveNames.mapIdx fun place name => (name, .number (.int place))⟩

def namedPayload : Fields := ⟨[("proposal_id", .str "p"), ("actions", .list (List.replicate 50 namedRow)),
  ("metadata", .dict ⟨[("action_semantics", .str "biso101_so101_v1"), ("action_layout", .str "left6_right6"),
    ("action_encoding", .str "absolute"), ("action_dim", .number (.int 12)),
    ("joint_position_unit", .str "degrees")]⟩)]⟩

def oneStep : Decision := ⟨"p", "o", 1, 0, "clear"⟩

theorem labels_kept_iff_session : ∃ proposal actions,
      normalizePublicProposal plain namedPayload "o" (some twelveNames) none none "f" = .ok proposal ∧
      runRound plain (some twelveNames) (.finite 1) proposal "o" oneStep = .ok actions ∧
      List.Forall₂ (fun item action => ∀ name,
        action.values.get? name = assigns plain none twelveNames item name) [namedRow] actions := by
  have ran : (((normalizePublicProposal plain namedPayload "o" (some twelveNames) none none "f").toOption.bind
      fun proposal => (runRound plain (some twelveNames) (.finite 1) proposal "o" oneStep).toOption).isSome) =
        true := by decide +kernel
  obtain ⟨actions, both⟩ := Option.isSome_iff_exists.mp ran
  obtain ⟨proposal, normal, round⟩ := Option.bind_eq_some_iff.mp both
  have normalized := ok_of_toOption normal
  have submitted := ok_of_toOption round
  have equal : ∀ item ∈ (responseRows namedPayload).take 1, ∀ pair ∈ twelveNames.zip twelveNames,
      assigns plain none twelveNames item pair.1 = assigns plain none twelveNames item pair.2 := by
    decide +kernel
  exact ⟨proposal, actions, normalized, submitted, (labels_kept_iff normalized submitted).mpr ⟨.refl _, equal⟩⟩

/-- Rows that name their values, and metadata of the caller that lists the joints in another order. -/
theorem joints_swapped : ∃ proposal actions action, normalizePublicProposal plain namedPayload "o" none
        (some ⟨[("feature_names", .list (twelveNames.reverse.map .str))]⟩) none "f" = .ok proposal ∧
      runRound plain none (.finite 1) proposal "o" oneStep = .ok actions ∧ actions[0]? = some action ∧
      action.values.get? "l0" = some (.finite 11) ∧
      assigns plain none twelveNames namedRow "l0" = some (.finite 0) := by
  have ran : ((normalizePublicProposal plain namedPayload "o" none
      (some ⟨[("feature_names", .list (twelveNames.reverse.map .str))]⟩) none "f").toOption.bind
      fun proposal => (runRound plain none (.finite 1) proposal "o" oneStep).toOption.bind
        fun actions => actions[0]?.map fun action => action.values.get? "l0") =
      some (some (.finite 11)) := by decide +kernel
  obtain ⟨proposal, normal, rest⟩ := Option.bind_eq_some_iff.mp ran
  obtain ⟨actions, round, last⟩ := Option.bind_eq_some_iff.mp rest
  obtain ⟨action, first, value⟩ := Option.map_eq_some_iff.mp last
  exact ⟨proposal, actions, action, ok_of_toOption normal, ok_of_toOption round, first, value, by decide +kernel⟩

end EmbodiRun.Agents.Cooperative
