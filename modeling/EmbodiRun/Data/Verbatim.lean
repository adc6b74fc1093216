/-
# Data.Verbatim -- JSON texts in which every `str` stands as it is

With `ensure_ascii=False` a text holds the characters of a `str` themselves, surrogates included, and
`json.loads` reads them as they stand.  So only the tuples of a value change on the way.
-/
import EmbodiRun.Data.Reread

namespace EmbodiRun.Data.Verbatim

open EmbodiRun.Data (Number Shape)
open EmbodiRun.Data.Reread (Str Key Value CodePoint)

open List

inductive Text : Shape → Type where
  | null : Text .value
  | number (n : Number) : Text .value
  | str (s : Str) : Text .value
  | list (items : Text .items) : Text .value
  | dict (fields : Text .fields) : Text .value
  | nil : Text .items
  | cons (head : Text .value) (tail : Text .items) : Text .items
  | empty : Text .fields
  | field (key : Str) (value : Text .value) (rest : Text .fields) : Text .fields

/-- `json.dumps(value, allow_nan=False, ensure_ascii=False)`; `none` where it raises. -/
def write (limit : Nat) : {i : Shape} → Value i → Option (Text i)
  | _, .null => some .null
  | _, .number n => if n.isFinite ∧ Value.printable limit n then some (.number n) else none
  | _, .str s => some (.str s)
  | _, .list items | _, .tuple items => (write limit items).map .list
  | _, .dict fields => (write limit fields).map .dict
  | _, .other _ => none
  | _, .nil => some .nil
  | _, .cons head tail => (write limit head).bind fun v => (write limit tail).map (.cons v)
  | _, .empty => some .empty
  | _, .field (.str s) value rest => (write limit value).bind fun v => (write limit rest).map (.field s v)
  | _, .field (.other _) _ _ => none

def Text.loads : {i : Shape} → Text i → Value i
  | _, .null => .null
  | _, .number n => .number n
  | _, .str s => .str s
  | _, .list items => .list items.loads
  | _, .dict fields => .dict fields.loads
  | _, .nil => .nil
  | _, .cons head tail => .cons head.loads tail.loads
  | _, .empty => .empty
  | _, .field key value rest => Value.prepend (.str key) value.loads rest.loads

def listed : {i : Shape} → Value i → Value i
  | _, .list items | _, .tuple items => .list (listed items)
  | _, .dict fields => .dict (listed fields)
  | _, .cons head tail => .cons (listed head) (listed tail)
  | _, .field key value rest => .field key (listed value) (listed rest)
  | _, v => v

variable {limit : Nat}

/-! ## What is written is read back -/

theorem get?_listed (key : Key) : {i : Shape} → (v : Value i) → (listed v).get? key = (v.get? key).map listed
  | _, .field k value rest => by
    rw [listed, Value.get?, Value.get?]
    split
    · rfl
    · exact get?_listed key rest
  | _, .null | _, .number _ | _, .str _ | _, .list _ | _, .tuple _ | _, .dict _ | _, .other _ | _, .nil
  | _, .cons _ _ | _, .empty => rfl

theorem keys_listed : {i : Shape} → (v : Value i) → (listed v).keys = v.keys
  | _, .field k value rest => by
    rw [listed, Value.keys, Value.keys, keys_listed rest]
  | _, .null | _, .number _ | _, .str _ | _, .list _ | _, .tuple _ | _, .dict _ | _, .other _ | _, .nil
  | _, .cons _ _ | _, .empty => rfl

theorem isSome_write_iff : {i : Shape} → {v : Value i} → v.IsJson → ((write limit v).isSome ↔ v.Printable limit)
  | _, .number n, json => by
    have finite : n.isFinite = true := json
    simp [write, Value.Every, finite]
  | _, .list items, json | _, .tuple items, json => by
    rw [write, Option.isSome_map]
    exact isSome_write_iff (v := items) json
  | _, .dict fields, json => by
    rw [write, Option.isSome_map]
    exact isSome_write_iff (v := fields) json
  | _, .cons head tail, json => by
    refine Iff.trans ?_ (and_congr (isSome_write_iff json.1) (isSome_write_iff json.2))
    rw [write]
    cases write limit head <;> simp
  | _, .field (.str s) value rest, json => by
    have keys : ∀ t, Key.str s = .str t → True := fun _ _ => trivial
    refine Iff.trans ?_ ((and_congr (isSome_write_iff json.2.1) (isSome_write_iff json.2.2)).trans
      (and_iff_right keys).symm)
    rw [write]
    cases write limit value <;> simp
  | _, .field (.other _) _ _, json | _, .other _, json => json.elim
  | _, .null, _ | _, .str _, _ | _, .nil, _ | _, .empty, _ => ⟨fun _ => trivial, fun _ => rfl⟩

theorem loads_write : {i : Shape} → {v : Value i} → {t : Text i} → v.IsJson → write limit v = some t →
    t.loads = listed v
  | _, .number n, t, _, written => by
    rw [write] at written
    split at written
    · cases Option.some.inj written
      rfl
    · cases written
  | _, .list items, t, json, written | _, .tuple items, t, json, written => by
    obtain ⟨a, inner, rfl⟩ := Option.map_eq_some_iff.mp written
    exact congrArg Value.list (loads_write (v := items) json inner)
  | _, .dict fields, t, json, written => by
    obtain ⟨a, inner, rfl⟩ := Option.map_eq_some_iff.mp written
    exact congrArg Value.dict (loads_write (v := fields) json inner)
  | _, .cons head tail, t, json, written => by
    obtain ⟨a, first, last⟩ := Option.bind_eq_some_iff.mp written
    obtain ⟨b, second, rfl⟩ := Option.map_eq_some_iff.mp last
    exact congrArg₂ Value.cons (loads_write json.1 first) (loads_write json.2 second)
  | _, .field (.str s) value rest, t, json, written => by
    obtain ⟨a, first, last⟩ := Option.bind_eq_some_iff.mp written
    obtain ⟨b, second, rfl⟩ := Option.map_eq_some_iff.mp last
    -- the key stands once, so `prepend` finds no later value of it
    have absent : b.loads.get? (.str s) = none := by
      rw [loads_write json.2.2 second, get?_listed, json.1]
      rfl
    rw [Text.loads, Value.prepend_of_absent absent, loads_write json.2.1 first, loads_write json.2.2 second, listed]
  | _, .field (.other _) _ _, _, json, _ | _, .other _, _, json, _ => json.elim
  | _, .null, t, _, written | _, .str _, t, _, written | _, .nil, t, _, written | _, .empty, t, _, written => by
    cases Option.some.inj written
    rfl

/-! ## Mappings and lists -/

/-- A `dict` from its items. -/
def fields : List (Str × Value .value) → Value .fields
  | [] => .empty
  | (key, value) :: rest => .field (.str key) value (fields rest)

/-- The items of a `dict` under the keys that are a `str`. -/
def pairs : {i : Shape} → Value i → List (Str × Value .value)
  | _, .field (.str key) value rest => (key, value) :: pairs rest
  | _, .field (.other _) _ rest => pairs rest
  | _, _ => []

def items : List (Value .value) → Value .items
  | [] => .nil
  | head :: tail => .cons head (items tail)

def elements : {i : Shape} → Value i → List (Value .value)
  | _, .cons head tail => head :: elements tail
  | _, _ => []

variable {l : List (Str × Value .value)} {vs : List (Value .value)}

theorem pairs_fields : pairs (fields l) = l := by
  induction l with
  | nil => rfl
  | cons p l ih => exact congrArg (p :: ·) ih

theorem elements_items : elements (items vs) = vs := by
  induction vs with
  | nil => rfl
  | cons v vs ih => exact congrArg (v :: ·) ih

theorem listed_fields : listed (fields l) = fields (l.map fun p => (p.1, listed p.2)) := by
  induction l with
  | nil => rfl
  | cons p l ih => exact congrArg (Value.field (.str p.1) (listed p.2)) ih

theorem listed_items : listed (items vs) = items (vs.map listed) := by
  induction vs with
  | nil => rfl
  | cons v vs ih => exact congrArg (Value.cons (listed v)) ih

theorem keys_fields : (fields l).keys = l.map fun p => .str p.1 := by
  induction l with
  | nil => rfl
  | cons p l ih => exact congrArg (Key.str p.1 :: ·) ih

theorem get?_fields {key} : (fields l).get? (.str key) = (l.find? fun p => p.1 = key).map Prod.snd := by
  induction l with
  | nil => rfl
  | cons p l ih =>
    rw [fields, Value.get?, List.find?_cons]
    by_cases here : p.1 = key
    · simp [here]
    · simpa [here] using ih

theorem isJson_fields : (fields l).IsJson ↔ (l.map Prod.fst).Nodup ∧ ∀ p ∈ l, p.2.IsJson := by
  induction l with
  | nil => simp [fields, Value.IsJson]
  | cons p l ih =>
    have absent : (fields l).get? (.str p.1) = none ↔ p.1 ∉ l.map Prod.fst := by
      rw [Value.get?_eq_none, keys_fields]
      simp
    rw [fields, Value.IsJson, ih, absent, map_cons, nodup_cons, forall_mem_cons]
    tauto

theorem isJson_items : (items vs).IsJson ↔ ∀ v ∈ vs, v.IsJson := by
  induction vs with
  | nil => simp [items, Value.IsJson]
  | cons v vs ih => rw [items, Value.IsJson, ih, forall_mem_cons]

theorem printable_fields : (fields l).Printable limit ↔ ∀ p ∈ l, p.2.Printable limit := by
  induction l with
  | nil => simp [fields, Value.Every]
  | cons p l ih =>
    rw [forall_mem_cons, ← ih]
    exact and_iff_right fun _ _ => trivial

theorem printable_items : (items vs).Printable limit ↔ ∀ v ∈ vs, v.Printable limit := by
  induction vs with
  | nil => simp [items, Value.Every]
  | cons v vs ih =>
    rw [forall_mem_cons, ← ih]
    rfl

/-! ## Objects with fields that have names -/

def lit (text : String) : Str := text.toList.map fun c => ⟨c.toNat, by
  have valid := c.valid
  rw [UInt32.isValidChar, Nat.isValidChar] at valid
  show c.val.toNat < _
  omega⟩

theorem lit_injective : Function.Injective lit := by
  intro a b same
  refine String.toList_inj.mp (List.map_injective_iff.mpr (fun c d equal => ?_) same)
  exact Char.toNat_inj.mp (Fin.mk.inj equal)

def object (named : List (String × Value .value)) : Value .fields := fields (named.map fun p => (lit p.1, p.2))

variable {named : List (String × Value .value)}

theorem listed_object : listed (object named) = object (named.map fun p => (p.1, listed p.2)) := by
  rw [object, listed_fields, map_map, object, map_map]
  rfl

theorem get?_object {name} :
    (object named).get? (.str (lit name)) = (named.find? fun p => p.1 = name).map Prod.snd := by
  rw [object, get?_fields, List.find?_map, Option.map_map]
  have same : (fun p : Str × Value .value => decide (p.1 = lit name)) ∘
      (fun p : String × Value .value => (lit p.1, p.2)) = fun p => decide (p.1 = name) := by
    funext p
    exact decide_eq_decide.mpr lit_injective.eq_iff
  rw [same]
  rfl

theorem isJson_object : (object named).IsJson ↔ (named.map Prod.fst).Nodup ∧ ∀ p ∈ named, p.2.IsJson := by
  rw [object, isJson_fields, map_map]
  refine and_congr ?_ forall_mem_map
  have same : (Prod.fst ∘ fun p : String × Value .value => (lit p.1, p.2)) = lit ∘ Prod.fst := rfl
  rw [same, ← map_map, nodup_map_iff lit_injective]

theorem printable_object : (object named).Printable limit ↔ ∀ p ∈ named, p.2.Printable limit := by
  rw [object, printable_fields]
  exact forall_mem_map

/-! ## What has a JSON -/

def Plain (limit : Nat) {i : Shape} (v : Value i) : Prop := v.IsJson ∧ v.Printable limit

theorem Plain.written {i : Shape} {v : Value i} (plain : Plain limit v) : ∃ t, write limit v = some t :=
  Option.isSome_iff_exists.mp ((isSome_write_iff plain.1).mpr plain.2)

theorem plain_str {s} : Plain limit (.str s) := ⟨trivial, trivial⟩

theorem plain_dict {v} (plain : Plain limit v) : Plain limit (.dict v) := plain

theorem plain_items (each : ∀ v ∈ vs, Plain limit v) : Plain limit (.list (items vs)) :=
  ⟨isJson_items.mpr fun v held => (each v held).1, printable_items.mpr fun v held => (each v held).2⟩

theorem plain_fields (keys : (l.map Prod.fst).Nodup) (each : ∀ p ∈ l, Plain limit p.2) :
    Plain limit (.dict (fields l)) :=
  ⟨isJson_fields.mpr ⟨keys, fun p held => (each p held).1⟩, printable_fields.mpr fun p held => (each p held).2⟩

theorem plain_object (names : (named.map Prod.fst).Nodup) (each : ∀ p ∈ named, Plain limit p.2) :
    Plain limit (.dict (object named)) :=
  ⟨isJson_object.mpr ⟨names, fun p held => (each p held).1⟩, printable_object.mpr fun p held => (each p held).2⟩

end EmbodiRun.Data.Verbatim
