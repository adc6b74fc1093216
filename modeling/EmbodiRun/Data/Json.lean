/-
# Data.Json -- Python values, compared by `==` and by their canonical JSON

`==` compares what values are worth: `True`, `1` and `1.0` are equal, and so are `0.0` and
`-0.0`.  Canonical JSON writes each of them differently, so two texts are equal only for one
value.  Canonical JSON stands here for the value it is read back as.
-/
import Mathlib

namespace EmbodiRun.Data

universe u

/-- A `float`. -/
inductive Double where
  | finite (value : ℚ)
  | minusZero
  | infinite (negative : Bool)
  | nan
  deriving DecidableEq

/-- What `==` compares of a number. -/
inductive Quantity where
  | finite (value : ℚ)
  | infinite (negative : Bool)
  deriving DecidableEq

/-- A `bool` is an `int` to `==`, and neither to JSON. -/
inductive Number where
  | bool (b : Bool)
  | int (n : ℤ)
  | float (x : Double)
  deriving DecidableEq

namespace Number

/-- `nan` equals nothing. -/
def quantity : Number → Option Quantity
  | bool b => some (.finite (if b then 1 else 0))
  | int n => some (.finite n)
  | float (.finite value) => some (.finite value)
  | float .minusZero => some (.finite 0)
  | float (.infinite negative) => some (.infinite negative)
  | float .nan => none

/-- `math.isfinite(value)`. -/
def isFinite : Number → Bool
  | float (.infinite _) | float .nan => false
  | _ => true

/-- `==`. -/
def eq (a b : Number) : Bool :=
  match a.quantity, b.quantity with
  | some p, some q => p = q
  | _, _ => false

variable {a b c : Number}

theorem quantity_of_eq (equal : a.eq b) : ∃ q, a.quantity = some q ∧ b.quantity = some q := by
  unfold eq at equal
  split at equal
  · rename_i p q first second
    obtain rfl := of_decide_eq_true equal
    exact ⟨p, first, second⟩
  · cases equal

theorem eq_of_quantity {q} (first : a.quantity = some q) (second : b.quantity = some q) : a.eq b := by
  rw [eq, first, second]
  exact decide_eq_true rfl

theorem eq_symm (equal : a.eq b) : b.eq a := by
  obtain ⟨q, first, second⟩ := quantity_of_eq equal
  exact eq_of_quantity second first

theorem eq_trans (one : a.eq b) (two : b.eq c) : a.eq c := by
  obtain ⟨p, first, second⟩ := quantity_of_eq one
  obtain ⟨q, again, third⟩ := quantity_of_eq two
  rw [second] at again
  cases again
  exact eq_of_quantity first third

end Number

inductive Shape where
  | value | items | fields

/-- A value, the items of a list, or the fields of a dictionary in the order of their keys. -/
inductive Tree (κ : Type u) : Shape → Type u where
  | null : Tree κ .value
  | number (n : Number) : Tree κ .value
  | str (text : κ) : Tree κ .value
  | list (items : Tree κ .items) : Tree κ .value
  | dict (fields : Tree κ .fields) : Tree κ .value
  /-- An object that has no JSON, and the value that stands for it: its `str`, or the fields of a
  dataclass. -/
  | other (shown : Tree κ .value) : Tree κ .value
  | nil : Tree κ .items
  | cons (head : Tree κ .value) (tail : Tree κ .items) : Tree κ .items
  | empty : Tree κ .fields
  | field (key : κ) (value : Tree κ .value) (rest : Tree κ .fields) : Tree κ .fields
  deriving DecidableEq

namespace Tree

variable {κ : Type u} {i : Shape}

/-- `normalize_json`, which raises on what has no JSON. -/
def normalize : {i : Shape} → Tree κ i → Option (Tree κ i)
  | _, null => some null
  | _, number n => if n.isFinite then some (number n) else none
  | _, str text => some (str text)
  | _, list items => items.normalize.map list
  | _, dict fields => fields.normalize.map dict
  | _, other _ => none
  | _, nil => some nil
  | _, cons head tail => head.normalize.bind fun v => tail.normalize.map (cons v)
  | _, empty => some empty
  | _, field key value rest => value.normalize.bind fun v => rest.normalize.map (field key v)

/-- `_json_value`, which raises on nothing. -/
def jsonValue : {i : Shape} → Tree κ i → Tree κ i
  | _, null => null
  | _, number n => number n
  | _, str text => str text
  | _, list items => list items.jsonValue
  | _, dict fields => dict fields.jsonValue
  | _, other shown => shown.jsonValue
  | _, nil => nil
  | _, cons head tail => cons head.jsonValue tail.jsonValue
  | _, empty => empty
  | _, field key value rest => field key value.jsonValue rest.jsonValue
variable {t u : Tree κ i} {key : κ}

theorem normalize_eq (given : t.normalize = some u) : u = t := by
  induction t with
  | null | str | nil | empty => exact (Option.some.inj given).symm
  | other => cases given
  | number =>
    unfold normalize at given
    split at given
    · exact (Option.some.inj given).symm
    · cases given
  | list items ih | dict items ih =>
    obtain ⟨v, inner, rfl⟩ := Option.map_eq_some_iff.mp given
    rw [ih inner]
  | cons head tail first second | field key value rest first second =>
    obtain ⟨v, inner, rest⟩ := Option.bind_eq_some_iff.mp given
    obtain ⟨a, outer, rfl⟩ := Option.map_eq_some_iff.mp rest
    rw [first inner, second outer]

def IsJson (t : Tree κ i) : Prop := t.normalize = some t

theorem isJson_of_normalize (given : t.normalize = some u) : t.IsJson :=
  normalize_eq given ▸ given

instance [DecidableEq κ] (t : Tree κ i) : Decidable t.IsJson := inferInstanceAs (Decidable (_ = _))

theorem IsJson.list {items : Tree κ .items} (json : (list items).IsJson) : items.IsJson := by
  obtain ⟨v, inner, _⟩ := Option.map_eq_some_iff.mp json
  exact isJson_of_normalize inner

theorem IsJson.dict {fields : Tree κ .fields} (json : (dict fields).IsJson) : fields.IsJson := by
  obtain ⟨v, inner, _⟩ := Option.map_eq_some_iff.mp json
  exact isJson_of_normalize inner

theorem IsJson.cons {head : Tree κ .value} {tail : Tree κ .items} (json : (cons head tail).IsJson) :
    head.IsJson ∧ tail.IsJson := by
  obtain ⟨v, inner, rest⟩ := Option.bind_eq_some_iff.mp json
  obtain ⟨a, outer, _⟩ := Option.map_eq_some_iff.mp rest
  exact ⟨isJson_of_normalize inner, isJson_of_normalize outer⟩

variable {t : Tree κ i}

inductive Respelled : {i : Shape} → Tree κ i → Tree κ i → Prop where
  | number {a b : Number} (equal : a.eq b) (other : a ≠ b) : Respelled (number a) (number b)
  | list {a b : Tree κ .items} (items : Respelled a b) : Respelled (list a) (list b)
  | dict {a b : Tree κ .fields} (fields : Respelled a b) : Respelled (dict a) (dict b)
  | head {v w : Tree κ .value} {a b : Tree κ .items} (here : Respelled v w) :
      Respelled (cons v a) (cons w b)
  | tail {v w : Tree κ .value} {a b : Tree κ .items} (later : Respelled a b) :
      Respelled (cons v a) (cons w b)
  | value {k : κ} {v w : Tree κ .value} {a b : Tree κ .fields} (here : Respelled v w) :
      Respelled (field k v a) (field k w b)
  | rest {k : κ} {v w : Tree κ .value} {a b : Tree κ .fields} (later : Respelled a b) :
      Respelled (field k v a) (field k w b)

theorem Respelled.ne (respelled : Respelled t u) : t ≠ u := by
  induction respelled with
  | number _ other => simpa using other
  | list _ ih | dict _ ih => simpa using ih
  | head _ ih | value _ ih | tail _ ih | rest _ ih => simp [ih]

variable [DecidableEq κ]

/-- `==`. -/
def eq : {i : Shape} → Tree κ i → Tree κ i → Bool
  | _, null, null => true
  | _, number a, number b => a.eq b
  | _, str a, str b => a = b
  | _, list a, list b => a.eq b
  | _, dict a, dict b => a.eq b
  | _, nil, nil => true
  | _, cons v a, cons w b => v.eq w && a.eq b
  | _, empty, empty => true
  | _, field k v a, field l w b => k = l && v.eq w && a.eq b
  | _, _, _ => false

theorem eq_symm (equal : t.eq u) : u.eq t := by
  induction t with
  | null | nil | empty => cases u <;> exact equal
  | other => cases u <;> cases equal
  | number =>
    cases u with
    | number => exact Number.eq_symm equal
    | _ => cases equal
  | str =>
    cases u with
    | str => exact decide_eq_true (of_decide_eq_true equal).symm
    | _ => cases equal
  | list items ih =>
    cases u with
    | list => exact ih equal
    | _ => cases equal
  | dict fields ih =>
    cases u with
    | dict => exact ih equal
    | _ => cases equal
  | cons head tail first second =>
    cases u with
    | nil => cases equal
    | cons =>
      obtain ⟨here, later⟩ := Bool.and_eq_true_iff.mp equal
      exact Bool.and_eq_true_iff.mpr ⟨first here, second later⟩
  | field key value rest first second =>
    cases u with
    | empty => cases equal
    | field =>
      obtain ⟨both, later⟩ := Bool.and_eq_true_iff.mp equal
      obtain ⟨same, here⟩ := Bool.and_eq_true_iff.mp both
      exact Bool.and_eq_true_iff.mpr ⟨Bool.and_eq_true_iff.mpr
        ⟨decide_eq_true (of_decide_eq_true same).symm, first here⟩, second later⟩

theorem eq_trans {t u v : Tree κ i} (one : t.eq u) (two : u.eq v) : t.eq v := by
  induction t with
  | null | nil | empty => cases u <;> first | exact two | cases one
  | other => cases u <;> cases one
  | number =>
    cases u with
    | number =>
      cases v with
      | number => exact Number.eq_trans one two
      | _ => cases two
    | _ => cases one
  | str =>
    cases u with
    | str =>
      obtain rfl := of_decide_eq_true one
      exact two
    | _ => cases one
  | list items ih =>
    cases u with
    | list =>
      cases v with
      | list => exact ih one two
      | _ => cases two
    | _ => cases one
  | dict fields ih =>
    cases u with
    | dict =>
      cases v with
      | dict => exact ih one two
      | _ => cases two
    | _ => cases one
  | cons head tail first second =>
    cases u with
    | nil => cases one
    | cons =>
      cases v with
      | nil => cases two
      | cons =>
        obtain ⟨here, later⟩ := Bool.and_eq_true_iff.mp one
        obtain ⟨next, after⟩ := Bool.and_eq_true_iff.mp two
        exact Bool.and_eq_true_iff.mpr ⟨first here next, second later after⟩
  | field key value rest first second =>
    cases u with
    | empty => cases one
    | field =>
      cases v with
      | empty => cases two
      | field =>
        obtain ⟨both, later⟩ := Bool.and_eq_true_iff.mp one
        obtain ⟨same, here⟩ := Bool.and_eq_true_iff.mp both
        obtain rfl := of_decide_eq_true same
        obtain ⟨others, after⟩ := Bool.and_eq_true_iff.mp two
        obtain ⟨keyed, next⟩ := Bool.and_eq_true_iff.mp others
        exact Bool.and_eq_true_iff.mpr ⟨Bool.and_eq_true_iff.mpr ⟨keyed, first here next⟩, second later after⟩

/-! ## Fields -/

/-- `d.get(key)`. -/
def get? (key : κ) : {i : Shape} → Tree κ i → Option (Tree κ .value)
  | _, field k v rest => if k = key then some v else rest.get? key
  | _, _ => none

/-- `d.pop(key, None)`. -/
def erase (key : κ) : {i : Shape} → Tree κ i → Tree κ i
  | _, field k v rest => if k = key then rest.erase key else field k v (rest.erase key)
  | _, t => t

theorem erase_erase (key : κ) (t : Tree κ i) : (t.erase key).erase key = t.erase key := by
  induction t with
  | field k v rest _ ih =>
    by_cases same : k = key <;> simp [erase, same, ih]
  | _ => rfl

variable [LT κ] [DecidableLT κ]

def insert (key : κ) (value : Tree κ .value) : {i : Shape} → Tree κ i → Tree κ i
  | _, empty => field key value empty
  | _, field k v rest =>
    if key < k then field key value (field k v rest) else field k v (insert key value rest)
  | _, t => t

/-- `d[key] = value`. -/
def set (key : κ) (value : Tree κ .value) (t : Tree κ i) : Tree κ i :=
  insert key value (t.erase key)

theorem erase_insert (key : κ) (value : Tree κ .value) (t : Tree κ i) :
    (insert key value t).erase key = t.erase key := by
  induction t with
  | empty => simp [insert, erase]
  | field k v rest _ ih =>
    unfold insert
    split
    · rw [erase, if_pos rfl]
    · simp only [erase, ih]
  | _ => rfl

@[simp] theorem erase_set (key : κ) (value : Tree κ .value) (t : Tree κ i) :
    (set key value t).erase key = t.erase key := by
  rw [set, erase_insert, erase_erase]

end Tree

end EmbodiRun.Data
