/-
# Jobs.Results -- what a stored result is read back as

A result is stored as JSON beside the job, and the value itself is kept in memory while the registry
lives.  After a restart only the JSON is left.  A `TaskResult` is stored as its payload, and
`decode_result` takes for a `TaskResult` whatever object has the shape of one.
-/
import EmbodiRun.Data.Reread

namespace EmbodiRun.Jobs.Results

open EmbodiRun.Data (Number Double Shape)
open EmbodiRun.Data.Reread Value

/-! ## contracts.py -/

def literal (text : String) : Str :=
  text.toList.map fun c => ⟨c.toNat, by rcases c.valid with small | large <;> simp only [Char.toNat] <;> omega⟩

/-- `str.isspace` of one code point. -/
def isSpace (c : CodePoint) : Bool :=
  (0x09 ≤ c.val ∧ c.val ≤ 0x0D) ∨ (0x1C ≤ c.val ∧ c.val ≤ 0x20) ∨ c.val = 0x85 ∨ c.val = 0xA0 ∨ c.val = 0x1680 ∨
    (0x2000 ≤ c.val ∧ c.val ≤ 0x200A) ∨ c.val = 0x2028 ∨ c.val = 0x2029 ∨ c.val = 0x202F
    ∨ c.val = 0x205F ∨ c.val = 0x3000

/-- `not value.strip()`. -/
def blank (s : Str) : Bool := s.all isSpace

/-- A `str` that `__post_init__` accepts. -/
abbrev Filled := { s : Str // blank s = false }

/-- `__post_init__` raises on anything else. -/
structure TaskResult where
  requestId : Filled
  runtimeId : Filled
  completedSteps : Nat
  deriving DecidableEq

def taskResultSchema : Str := literal "rlinf.control.result.v1"

def name (text : String) : Key := .str (literal text)

def TaskResult.toPayload (r : TaskResult) : Value .fields :=
  .field (name "schema") (.str taskResultSchema) (.field (name "request_id") (.str r.requestId.1)
      (.field (name "runtime_id") (.str r.runtimeId.1)
        (.field (name "completed_steps") (.number (.int r.completedSteps)) .empty)))

def string (payload : Value .fields) (field : String) : Option Filled :=
  match payload.get? (name field) with
  | some (.str s) => if filled : blank s = false then some ⟨s, filled⟩ else none
  | _ => none

/-- What `__post_init__` accepts as `completed_steps`; a `bool` is none. -/
def steps (payload : Value .fields) : Option Nat :=
  match payload.get? (name "completed_steps") with
  | some (.number (.int n)) => if 0 ≤ n then some n.toNat else none
  | _ => none

def allowed : List Key := [name "schema", name "request_id", name "runtime_id", name "completed_steps"]

def TaskResult.fromPayload (payload : Value .fields) : Option TaskResult :=
  if payload.get? (name "schema") = some (.str taskResultSchema) ∧ ∀ key ∈ payload.keys, key ∈ allowed then do
    let requestId ← string payload "request_id"
    let runtimeId ← string payload "runtime_id"
    let completedSteps ← steps payload
    return ⟨requestId, runtimeId, completedSteps⟩
  else none

/-! ## job_store.py -/

/-- What `execute` returns. -/
inductive Returned where
  | task (r : TaskResult)
  | value (v : Value .value)
  deriving DecidableEq

/-- `normalize_json`, which raises on what has no JSON. -/
def normalize : {i : Shape} → Value i → Option (Value i)
  | _, .null => some .null
  | _, .number n => if n.isFinite then some (.number n) else none
  | _, .str s => some (.str s)
  | _, .list items | _, .tuple items => (normalize items).map .list
  | _, .dict fields => (normalize fields).map fun normalized => .dict normalized.sorted
  | _, .other _ => none
  | _, .nil => some .nil
  | _, .cons head tail => (normalize head).bind fun v => (normalize tail).map (.cons v)
  | _, .empty => some .empty
  | _, .field (.str s) value rest => (normalize value).bind fun v => (normalize rest).map (.field (.str s) v)
  | _, .field (.other _) _ _ => none

/-- `type(value).__name__` and `repr(value)`. -/
structure Shown where
  typeName : Value .value → Str
  repr : Value .value → Str

def Returned.plain : Returned → Value .value
  | task r => .dict r.toPayload
  | value v => v

/-- None where `canonical_json` raises. -/
def encodeResult (shown : Shown) (limit : Nat) (r : Returned) : Option (Text .value) :=
  match normalize r.plain with
  | some normalized => normalized.dumps limit
  | none =>
    (dict (.field (name "opaque_type") (.str (shown.typeName r.plain))
      (.field (name "opaque_repr") (.str (shown.repr r.plain)) .empty))).dumps limit

def decodeResult (json : Text .value) : Returned :=
  match json.loads with
  | .dict decoded =>
    match TaskResult.fromPayload decoded with
    | some r => .task r
    | none => .value (.dict decoded)
  | decoded => .value decoded

/-! ## jobs.py -/

/-- The `result` of `_record_locked`: `held` is what `_results` has, `resultJson` the column. -/
def recordResult (held : Option Returned) (resultJson : Option (Text .value)) : Returned :=
  match held, resultJson with
  | some value, _ => value
  | none, none => .value .null
  | none, some json => decodeResult json

def Returned.Same : Returned → Returned → Prop
  | task r, task s => r = s
  | value v, value w => v.same w
  | _, _ => False

/-- The result is stored, and a record read after a restart has it as the one read before. -/
def RoundTrips (shown : Shown) (limit : Nat) (r : Returned) : Prop :=
  ∃ json, encodeResult shown limit r = some json ∧
    (recordResult (some r) (some json)).Same (recordResult none (some json))

/-- A mapping that `from_payload` accepts. -/
def Returned.TakenForTask (r : Returned) : Prop :=
  ∃ fields, r = .value (.dict fields) ∧ (TaskResult.fromPayload fields).isSome

/-! ## Normalizing -/

theorem normalize_isJson : {i : Shape} → {v : Value i} → v.IsJson →
    ∃ u, normalize v = some u ∧ v.Alike u ∧ u.IsJson ∧ u.keys = v.keys
  | _, .number n, json => by
    have finite : n.isFinite = true := json
    exact ⟨.number n, by simp [normalize, finite], .refl _, json, rfl⟩
  | _, .list items, json => by
    obtain ⟨u, normal, alike, isJson, _⟩ := normalize_isJson (v := items) json
    exact ⟨.list u, by rw [normalize, normal]; rfl, alike.list, isJson, rfl⟩
  | _, .tuple items, json => by
    obtain ⟨u, normal, alike, isJson, _⟩ := normalize_isJson (v := items) json
    exact ⟨.list u, by rw [normalize, normal]; rfl, alike.list_tuple, isJson, rfl⟩
  | _, .dict fields, json => by
    obtain ⟨u, normal, alike, isJson, _⟩ := normalize_isJson (v := fields) json
    exact ⟨.dict u.sorted, by rw [normalize, normal]; rfl, alike.dict, isJson_sorted isJson, rfl⟩
  | _, .cons head tail, json => by
    obtain ⟨u, first, alikeHead, jsonHead, _⟩ := normalize_isJson json.1
    obtain ⟨w, second, alikeTail, jsonTail, _⟩ := normalize_isJson json.2
    exact ⟨.cons u w, by rw [normalize, first, second]; rfl, alikeHead.cons alikeTail, ⟨jsonHead, jsonTail⟩, rfl⟩
  | _, .field (.str s) value rest, json => by
    obtain ⟨u, first, alikeValue, jsonValue, _⟩ := normalize_isJson json.2.1
    obtain ⟨w, second, alikeRest, jsonRest, keys⟩ := normalize_isJson json.2.2
    have absent : w.get? (.str s) = none := get?_eq_none.mpr (keys ▸ get?_eq_none.mp json.1)
    exact ⟨.field (.str s) u w, by rw [normalize, first, second]; rfl, alikeValue.field _ alikeRest,
      ⟨absent, jsonValue, jsonRest⟩, congrArg (Key.str s :: ·) keys⟩
  | _, .field (.other _) _ _, json | _, .other _, json => json.elim
  | _, .null, json | _, .str _, json | _, .nil, json | _, .empty, json => ⟨_, rfl, .refl _, json, rfl⟩

theorem encodeResult_isJson {shown} {limit} {r} (json : r.plain.IsJson) :
    ((encodeResult shown limit r).isSome ↔ r.plain.Printable limit) ∧
      ∀ t, encodeResult shown limit r = some t → (r.plain.same t.loads ↔ r.plain.Unpaired) := by
  obtain ⟨u, normal, alike, isJson, _⟩ := normalize_isJson json
  have encoded : encodeResult shown limit r = u.dumps limit := by rw [encodeResult, normal]
  have whole : r.plain.Alike u.sortKeys := alike.trans (alike_sortKeys u)
  have sortedJson : u.sortKeys.IsJson := isJson_sortKeys isJson
  rw [encoded]
  refine ⟨(isSome_write_iff sortedJson).trans whole.every, fun t written => ?_⟩
  have noKeys : ∀ s, Key.str s ∈ u.sortKeys.keys → Settled s := by
    cases u.sortKeys <;> exact fun s held => nomatch held
  rw [← whole.same]
  exact (same_loads sortedJson noKeys written).trans whole.every

/-! ## The shape of a payload -/

section

variable {a b : Value .fields} (json : a.IsJson) (size : a.size = b.size) (equal : a.same b)
include json size equal

theorem get?_same (key : Key) : (a.get? key = none ∧ b.get? key = none) ∨
    ∃ v w, a.get? key = some v ∧ b.get? key = some w ∧ v.same w := by
  cases found : a.get? key with
  | none =>
    refine .inl ⟨rfl, ?_⟩
    rw [get?_eq_none] at found ⊢
    exact fun held => found ((keys_perm json size equal).mem_iff.mpr held)
  | some v =>
    obtain ⟨w, other, alike⟩ := found_of_same equal found
    exact .inr ⟨v, w, rfl, other, alike⟩

theorem string_same (field : String) : string b field = string a field := by
  unfold string
  rcases get?_same json size equal (name field) with ⟨first, second⟩ | ⟨v, w, first, second, alike⟩
  · rw [first, second]
  · rw [first, second]
    cases v with
    | str => rw [Value.str_same.mp alike]
    | null | number | list | tuple | dict | other => cases w <;> first | rfl | cases alike

theorem steps_same : steps b = steps a := by
  unfold steps
  rcases get?_same json size equal (name "completed_steps") with ⟨first, second⟩ | ⟨v, w, first, second, alike⟩
  · rw [first, second]
  · rw [first, second]
    cases v with
    | number => rw [Value.number_same.mp alike]
    | null | str | list | tuple | dict | other => cases w <;> first | rfl | cases alike

theorem fromPayload_same : TaskResult.fromPayload b = TaskResult.fromPayload a := by
  have schema : b.get? (name "schema") = some (.str taskResultSchema) ↔
      a.get? (name "schema") = some (.str taskResultSchema) := by
    rcases get?_same json size equal (name "schema") with ⟨first, second⟩ | ⟨v, w, first, second, alike⟩
    · rw [first, second]
    · rw [first, second, Option.some.injEq, Option.some.injEq]
      constructor <;> rintro rfl
      · exact Value.same_str.mp alike
      · exact Value.str_same.mp alike
  have keys : (∀ key ∈ b.keys, key ∈ allowed) ↔ ∀ key ∈ a.keys, key ∈ allowed := by
    simp only [(keys_perm json size equal).mem_iff]
  simp only [TaskResult.fromPayload, schema, keys, string_same json size equal, steps_same json size equal]

end

theorem names : allowed.Nodup := by decide

theorem get?_toPayload (r : TaskResult) : r.toPayload.get? (name "schema") = some (.str taskResultSchema) ∧
      r.toPayload.get? (name "request_id") = some (.str r.requestId.1) ∧
      r.toPayload.get? (name "runtime_id") = some (.str r.runtimeId.1) ∧
      r.toPayload.get? (name "completed_steps") = some (.number (.int r.completedSteps)) := by
  have differ := names
  simp only [allowed, List.nodup_cons, List.mem_cons, not_or] at differ
  simp [TaskResult.toPayload, get?, differ]

theorem fromPayload_toPayload (r : TaskResult) : TaskResult.fromPayload r.toPayload = some r := by
  obtain ⟨schema, requestId, runtimeId, completedSteps⟩ := get?_toPayload r
  have first : string r.toPayload "request_id" = some r.requestId := by
    rw [string, requestId]
    exact dif_pos r.requestId.2
  have second : string r.toPayload "runtime_id" = some r.runtimeId := by
    rw [string, runtimeId]
    exact dif_pos r.runtimeId.2
  have third : steps r.toPayload = some r.completedSteps := by
    rw [steps, completedSteps]
    simp
  have known : ∀ key ∈ r.toPayload.keys, key ∈ allowed := fun _ held => held
  rw [TaskResult.fromPayload, if_pos ⟨schema, known⟩, first, second, third]
  rfl

theorem isJson_toPayload (r : TaskResult) : r.toPayload.IsJson := by
  have differ := names
  simp only [allowed, List.nodup_cons, List.mem_cons, not_or] at differ
  simp only [name, Key.str.injEq] at differ
  simp [TaskResult.toPayload, name, Value.IsJson, get?, differ, Ne.symm, eq_comm, Number.isFinite]
variable {payload : Value .fields} {r : TaskResult} {json : Text .value}

theorem unpaired_string {field} {s} (read : string payload field = some s)
    (unpaired : payload.Unpaired) : Settled s.1 := by
  unfold string at read
  split at read
  case h_1 t found =>
    split at read <;> cases read
    exact every_get? unpaired found
  case h_2 => cases read

theorem unpaired_toPayload (first : Settled r.requestId.1) (second : Settled r.runtimeId.1) :
    r.toPayload.Unpaired := by
  have key : ∀ text s, Settled (literal text) → name text = .str s → Settled s := by
    rintro text s settled same
    cases same
    exact settled
  have schema : Settled taskResultSchema := by decide
  exact ⟨fun s => key _ s (by decide), schema, fun s => key _ s (by decide), first,
    fun s => key _ s (by decide), second,
    fun s => key _ s (by decide), trivial, trivial⟩

theorem unpaired_of_fromPayload (read : TaskResult.fromPayload payload = some r)
    (unpaired : payload.Unpaired) : r.toPayload.Unpaired := by
  unfold TaskResult.fromPayload at read
  split at read
  · obtain ⟨requestId, first, read⟩ := Option.bind_eq_some_iff.mp read
    obtain ⟨runtimeId, second, read⟩ := Option.bind_eq_some_iff.mp read
    obtain ⟨completedSteps, third, read⟩ := Option.bind_eq_some_iff.mp read
    cases read
    exact unpaired_toPayload (unpaired_string first unpaired) (unpaired_string second unpaired)
  · cases read

/-! ## The round trip -/

theorem same_task_iff (read : (Returned.task r).plain.same json.loads ↔ (Returned.task r).plain.Unpaired) :
    (Returned.task r).Same (decodeResult json) ↔ (Returned.task r).plain.Unpaired := by
  constructor
  · intro same
    have loaded := unpaired_loads json
    unfold decodeResult at same
    split at same
    case h_1 decoded shape =>
      split at same
      case h_1 s found =>
        cases same
        rw [shape] at loaded
        exact unpaired_of_fromPayload found loaded
      case h_2 => cases same
    case h_2 => cases same
  · intro unpaired
    have equal := read.mpr unpaired
    unfold decodeResult
    cases shape : json.loads with
    | dict =>
      rw [shape, Returned.plain, same, Bool.and_eq_true, decide_eq_true_eq] at equal
      have found := fromPayload_same (isJson_toPayload r) equal.1 equal.2
      rw [fromPayload_toPayload] at found
      simp only [found]
      rfl
    | null | number | str | list | tuple | other =>
      rw [shape] at equal
      cases equal

theorem same_value_iff {v} (isJson : v.IsJson) (read : v.same json.loads ↔ v.Unpaired) :
    (Returned.value v).Same (decodeResult json) ↔ v.Unpaired ∧ ¬ (Returned.value v).TakenForTask := by
  rw [← read]
  unfold decodeResult
  split
  case h_1 decoded shape =>
    rw [shape]
    split
    case h_1 s found =>
      refine ⟨fun same => same.elim, fun both => absurd ?_ both.2⟩
      obtain ⟨equal, _⟩ := both
      cases v with
      | dict fields =>
        rw [same, Bool.and_eq_true, decide_eq_true_eq] at equal
        refine ⟨fields, rfl, ?_⟩
        rw [← fromPayload_same isJson equal.1 equal.2, found]
        rfl
      | null | number | str | list | tuple | other => cases equal
    case h_2 plain =>
      refine ⟨fun same => ⟨same, ?_⟩, fun both => both.1⟩
      rintro ⟨fields, same', accepted⟩
      cases same'
      have equal : (dict fields).same (.dict decoded) = true := same
      rw [Value.same, Bool.and_eq_true, decide_eq_true_eq] at equal
      rw [← fromPayload_same isJson equal.1 equal.2, plain] at accepted
      cases accepted
  case h_2 decoded other =>
    refine ⟨fun same => ⟨same, ?_⟩, fun both => both.1⟩
    rintro ⟨fields, same', accepted⟩
    cases same'
    have equal : (dict fields).same json.loads = true := same
    cases shape : json.loads with
    | dict decoded => exact other decoded shape
    | null | number | str | list | tuple | other =>
      rw [shape] at equal
      cases equal

theorem result_round_trip (shown : Shown) (limit : Nat) (r : Returned) (json : r.plain.IsJson) :
    RoundTrips shown limit r ↔ r.plain.Printable limit ∧ r.plain.Unpaired ∧ ¬ r.TakenForTask := by
  obtain ⟨written, read⟩ := encodeResult_isJson json
  have decoded : ∀ t, encodeResult shown limit r = some t →
      (r.Same (decodeResult t) ↔ r.plain.Unpaired ∧ ¬ r.TakenForTask) := by
    intro t stored
    cases r with
    | task r =>
      have kept : ¬ (Returned.task r).TakenForTask := by
        rintro ⟨_, same, _⟩
        cases same
      rw [same_task_iff (read t stored)]
      exact (and_iff_left kept).symm
    | value => exact same_value_iff json (read t stored)
  rw [← written]
  constructor
  · rintro ⟨t, stored, same⟩
    exact ⟨by rw [stored]; rfl, (decoded t stored).mp same⟩
  · rintro ⟨some', plain⟩
    obtain ⟨t, stored⟩ := Option.isSome_iff_exists.mp some'
    exact ⟨t, stored, (decoded t stored).mpr plain⟩

/-- A tuple of a mapping and a `str`. -/
def sample : Returned :=
  .value (.tuple (.cons (.dict (.field (name "a") (.number (.int 1)) .empty)) (.cons (.str (literal "x")) .nil)))

def sampleShown : Shown where
  typeName _ := literal "tuple"
  repr _ := literal "(\x7b'a': 1\x7d, 'x')"

theorem printable_one {limit} (some' : limit ≠ 0) : printable limit (.int 1) = true :=
  decide_eq_true (.inr (Nat.one_lt_pow some' (by decide)))

theorem result_round_trip_tuple : RoundTrips sampleShown 4300 sample := by
  have json : sample.plain.IsJson := ⟨⟨rfl, rfl, trivial⟩, trivial, trivial⟩
  have named : ∀ s, name "a" = .str s → Settled s := by
    rintro s same
    cases same
    decide
  have settled : Settled (literal "x") := by decide
  refine (result_round_trip sampleShown 4300 sample json).mpr ⟨?_, ?_, ?_⟩
  · exact ⟨⟨fun _ _ => trivial, printable_one (by decide), trivial⟩, trivial, trivial⟩
  · exact ⟨⟨named, trivial, trivial⟩, settled, trivial⟩
  · rintro ⟨_, same, _⟩
    cases same

/-- What a `TaskResult` is stored as, returned as a plain mapping. -/
def mimic : TaskResult := ⟨⟨literal "r", by decide⟩, ⟨literal "x", by decide⟩, 0⟩

theorem mapping_comes_back_as_task :
    ¬ ∀ (shown : Shown) (limit : Nat) (r : Returned), r.plain.IsJson → RoundTrips shown limit r := by
  intro trips
  obtain ⟨json, stored, same⟩ := trips sampleShown 0 (.value (.dict mimic.toPayload)) (isJson_toPayload mimic)
  have back : (encodeResult sampleShown 0 (.value (.dict mimic.toPayload))).map decodeResult =
      some (.task mimic) := by
    decide
  rw [stored, Option.map_some, Option.some.injEq] at back
  rw [recordResult, recordResult, back] at same
  exact same

end EmbodiRun.Jobs.Results
