/-
# Data.Reread -- what a Python value is after it has been written as JSON and read back

JSON has one kind of list, so a tuple comes back as a list.  A `str` is written by UTF-16 code
units, so a high surrogate that stands before a low one comes back joined with it.  An `int` of more
digits than the interpreter converts is not written at all.
-/
import EmbodiRun.Data.Json

namespace EmbodiRun.Data.Reread

open EmbodiRun.Data (Number Double Shape)

open List

/-! ## Strings -/

/-- What a `str` is made of, surrogates included. -/
abbrev CodePoint := Fin 0x110000

abbrev Str := List CodePoint

/-- What `\uXXXX` spells. -/
abbrev CodeUnit := Fin 0x10000

def CodeUnit.high (u : CodeUnit) : Bool := u.val / 0x400 = 0x36

def CodeUnit.low (u : CodeUnit) : Bool := u.val / 0x400 = 0x37

def units (c : CodePoint) : List CodeUnit :=
  if small : c.val < 0x10000 then [⟨c.val, small⟩]
  else [⟨0xD800 + (c.val - 0x10000) / 0x400, by have := c.isLt; omega⟩,
    ⟨0xDC00 + (c.val - 0x10000) % 0x400, by omega⟩]

def CodeUnit.point (u : CodeUnit) : CodePoint := ⟨u.val, by have := u.isLt; omega⟩

def paired (u v : CodeUnit) : CodePoint :=
  ⟨0x10000 + u.val % 0x400 * 0x400 + v.val % 0x400, by omega⟩

/-- How `json.loads` reads a text's units: it joins every high surrogate with a low one behind it. -/
def join : List CodeUnit → Str
  | [] => []
  | [u] => [u.point]
  | u :: v :: rest => if u.high ∧ v.low then paired u v :: join rest else u.point :: join (v :: rest)

def CodePoint.high (c : CodePoint) : Bool := c.val / 0x400 = 0x36

def CodePoint.low (c : CodePoint) : Bool := c.val / 0x400 = 0x37

def Settled (s : Str) : Prop := s.IsChain fun c d => ¬ (CodePoint.high c ∧ CodePoint.low d)

instance (s : Str) : Decidable (Settled s) := by unfold Settled; infer_instance

theorem paired_units {c} (large : ¬ c.val < 0x10000) {u v} (written : units c = [u, v]) :
    u.high ∧ v.low ∧ paired u v = c := by
  have bound := c.isLt
  rw [units, dif_neg large] at written
  obtain ⟨rfl, rfl⟩ : _ = u ∧ _ = v := by simpa using written
  simp only [CodeUnit.high, CodeUnit.low, paired, decide_eq_true_eq, Fin.ext_iff]
  omega

theorem join_units_cons (c : CodePoint) (s : Str) (alone : c.high = true → ∀ d t, s = d :: t → d.low = false) :
    join ((c :: s).flatMap units) = c :: join (s.flatMap units) := by
  by_cases small : c.val < 0x10000
  · have written : units c = [⟨c.val, small⟩] := dif_pos small
    rw [flatMap_cons, written]
    match s with
    | [] => simp [join, CodeUnit.point]
    | d :: t =>
      -- What follows `c` is the first unit of `d`, which is low only if `d` is.
      have first : ∃ v rest, (d :: t).flatMap units = v :: rest ∧ (v.low = true → d.low = true) := by
        rw [flatMap_cons, units]
        split
        · exact ⟨_, _, rfl, id⟩
        · refine ⟨_, _, rfl, fun low => ?_⟩
          have bound := d.isLt
          simp only [CodeUnit.low, decide_eq_true_eq] at low
          omega
      obtain ⟨v, rest, begins, low⟩ := first
      rw [begins, singleton_append, join, if_neg]
      · rfl
      · rintro ⟨high, follows⟩
        have plain := alone high d t rfl
        rw [low follows] at plain
        cases plain
  · obtain ⟨u, v, written⟩ : ∃ u v, units c = [u, v] := ⟨_, _, dif_neg small⟩
    obtain ⟨high, low, same⟩ := paired_units small written
    rw [flatMap_cons, written]
    simp only [cons_append, nil_append]
    rw [join, if_pos ⟨high, low⟩, same]

theorem paired_plain (u v : CodeUnit) :
    CodePoint.high (paired u v) = false ∧ CodePoint.low (paired u v) = false := by
  constructor <;> exact decide_eq_false (by simp only [paired]; omega)

theorem join_units_pair {c d} (high : c.high) (low : d.low) (s : Str) :
    ∃ p : CodePoint, p.high = false ∧ join ((c :: d :: s).flatMap units) = p :: join (s.flatMap units) := by
  simp only [CodePoint.high, CodePoint.low, decide_eq_true_eq] at high low
  have first : c.val < 0x10000 := by omega
  have second : d.val < 0x10000 := by omega
  refine ⟨paired ⟨c.val, first⟩ ⟨d.val, second⟩, (paired_plain _ _).1, ?_⟩
  simp only [flatMap_cons, units, dif_pos first, dif_pos second, cons_append, nil_append]
  rw [join, if_pos]
  simp [CodeUnit.high, CodeUnit.low, high, low]

theorem units_join {s} : join (s.flatMap units) = s ↔ Settled s := by
  induction s with
  | nil => simp [join, Settled]
  | cons c s ih =>
    match s with
    | [] =>
      rw [join_units_cons c [] fun _ _ _ none => nomatch none]
      simp [join, Settled]
    | d :: t =>
      rw [Settled, isChain_cons_cons]
      by_cases pair : c.high ∧ d.low
      · obtain ⟨p, plain, reads⟩ := join_units_pair pair.1 pair.2 t
        constructor
        · intro same
          rw [reads, cons_eq_cons] at same
          rw [same.1, pair.1] at plain
          cases plain
        · exact fun chain => absurd pair chain.1
      · rw [join_units_cons c (d :: t), cons_eq_cons]
        · exact ⟨fun same => ⟨pair, ih.mp same.2⟩, fun chain => ⟨rfl, ih.mpr chain.2⟩⟩
        · rintro high d' t' begins
          cases begins
          exact Bool.eq_false_iff.mpr fun low => pair ⟨high, low⟩

theorem settled_join (us : List CodeUnit) : Settled (join us) := by
  induction us using join.induct with
  | case1 | case2 => simp [join, Settled]
  | case3 u v rest pair ih =>
    rw [join, if_pos pair, Settled, isChain_cons]
    refine ⟨fun d _ both => ?_, ih⟩
    rw [(paired_plain u v).1] at both
    cases both.1
  | case4 u v rest pair ih =>
    rw [join, if_neg pair, Settled, isChain_cons]
    refine ⟨fun d first both => pair ⟨both.1, ?_⟩, ih⟩
    -- A low code point in front is the point of a low unit: a pair's is not low.
    match rest with
    | [] =>
      obtain rfl : v.point = d := by simpa [join] using first
      exact both.2
    | w :: rest =>
      rw [join] at first
      split at first
      · obtain rfl : paired v w = d := by simpa using first
        rw [(paired_plain v w).2] at both
        cases both.2
      · obtain rfl : v.point = d := by simpa using first
        exact both.2

/-! ## Values -/

/-- A key of a mapping; `shown` tells apart the keys that are not a `str`. -/
inductive Key where
  | str (s : Str)
  | other (shown : Nat)
  deriving DecidableEq

/-- A value, the items of a list or tuple, or the items of a mapping in its own order. -/
inductive Value : Shape → Type where
  | null : Value .value
  | number (n : Number) : Value .value
  | str (s : Str) : Value .value
  | list (items : Value .items) : Value .value
  | tuple (items : Value .items) : Value .value
  | dict (fields : Value .fields) : Value .value
  /-- An object that is none of these; `shown` tells them apart. -/
  | other (shown : Nat) : Value .value
  | nil : Value .items
  | cons (head : Value .value) (tail : Value .items) : Value .items
  | empty : Value .fields
  | field (key : Key) (value : Value .value) (rest : Value .fields) : Value .fields
  deriving DecidableEq

inductive Text : Shape → Type where
  | null : Text .value
  | number (n : Number) : Text .value
  | str (us : List CodeUnit) : Text .value
  | list (items : Text .items) : Text .value
  | dict (fields : Text .fields) : Text .value
  | nil : Text .items
  | cons (head : Text .value) (tail : Text .items) : Text .items
  | empty : Text .fields
  | field (key : List CodeUnit) (value : Text .value) (rest : Text .fields) : Text .fields

namespace Value

def get? (key : Key) : {i : Shape} → Value i → Option (Value .value)
  | _, field k value rest => if k = key then some value else rest.get? key
  | _, _ => none

def size : {i : Shape} → Value i → Nat
  | _, field _ _ rest => rest.size + 1
  | _, _ => 0

def erase (key : Key) : {i : Shape} → Value i → Value i
  | _, field k value rest => if k = key then rest.erase key else field k value (rest.erase key)
  | _, t => t

def insertSorted (key : Key) (value : Value .value) : {i : Shape} → Value i → Value .fields
  | _, field k v rest =>
    match key, k with
    | .str s, .str t => if t < s then field k v (insertSorted key value rest) else field key value (field k v rest)
    | _, _ => field key value (field k v rest)
  | _, _ => field key value empty

/-- `dict(sorted(items))`. -/
def sorted : {i : Shape} → Value i → Value i
  | _, field k value rest => insertSorted k value rest.sorted
  | _, t => t

/-- `sort_keys` sorts every mapping. -/
def sortKeys : {i : Shape} → Value i → Value i
  | _, list items => list items.sortKeys
  | _, tuple items => tuple items.sortKeys
  | _, dict fields => dict fields.sortKeys.sorted
  | _, cons head tail => cons head.sortKeys tail.sortKeys
  | _, field k value rest => field k value.sortKeys rest.sortKeys
  | _, t => t

/-- `int.__repr__` raises on an `int` of more than `limit` digits, and on none if that is 0. -/
def printable (limit : Nat) : Number → Bool
  | .int n => limit = 0 ∨ n.natAbs < 10 ^ limit
  | _ => true

/-- `json.dumps` with `allow_nan=False`, which raises on what has no JSON. -/
def write (limit : Nat) : {i : Shape} → Value i → Option (Text i)
  | _, null => some .null
  | _, number n => if n.isFinite ∧ printable limit n then some (.number n) else none
  | _, str s => some (.str (s.flatMap units))
  | _, list items | _, tuple items => (items.write limit).map .list
  | _, dict fields => (fields.write limit).map .dict
  | _, other _ => none
  | _, nil => some .nil
  | _, cons head tail => (head.write limit).bind fun v => (tail.write limit).map (.cons v)
  | _, empty => some .empty
  | _, field (.str s) value rest =>
    (value.write limit).bind fun v => (rest.write limit).map (.field (s.flatMap units) v)
  | _, field (.other _) _ _ => none

/-- A pair is read before `rest`: the last value of a key counts, at the place of the first. -/
def prepend (key : Key) (value : Value .value) (rest : Value .fields) : Value .fields :=
  match rest.get? key with
  | some last => field key last (rest.erase key)
  | none => field key value rest

end Value

def Text.loads : {i : Shape} → Text i → Value i
  | _, null => .null
  | _, number n => .number n
  | _, str us => .str (join us)
  | _, list items => .list items.loads
  | _, dict fields => .dict fields.loads
  | _, nil => .nil
  | _, cons head tail => .cons head.loads tail.loads
  | _, empty => .empty
  | _, field key value rest => Value.prepend (.str (join key)) value.loads rest.loads

namespace Value

/-- `==` without taking numbers of two types for one, and with a list for a tuple. -/
def same : {i : Shape} → Value i → Value i → Bool
  | _, null, null => true
  | _, number a, number b => a = b
  | _, str s, str t => s = t
  | _, list a, list b | _, tuple a, list b => a.same b
  | _, dict a, dict b => a.size = b.size && a.same b
  | _, nil, nil => true
  | _, cons v a, cons w b => v.same w && a.same b
  | _, empty, _ => true
  | _, field k v rest, b => (match b.get? k with | some w => v.same w | none => false) && rest.same b
  | _, _, _ => false

/-- None, bool, int, finite float, str, list, tuple, or a mapping whose keys are `str`, each once. -/
def IsJson : {i : Shape} → Value i → Prop
  | _, null | _, str _ | _, nil | _, empty => True
  | _, number n => n.isFinite
  | _, list items | _, tuple items => items.IsJson
  | _, dict fields => fields.IsJson
  | _, other _ => False
  | _, cons head tail => head.IsJson ∧ tail.IsJson
  | _, field (.str s) value rest => rest.get? (.str s) = none ∧ value.IsJson ∧ rest.IsJson
  | _, field (.other _) _ _ => False

/-- What holds of every number and of every `str`, keys included. -/
def Every (onNumber : Number → Prop) (onStr : Str → Prop) : {i : Shape} → Value i → Prop
  | _, number n => onNumber n
  | _, str s => onStr s
  | _, list items | _, tuple items => items.Every onNumber onStr
  | _, dict fields => fields.Every onNumber onStr
  | _, cons head tail => head.Every onNumber onStr ∧ tail.Every onNumber onStr
  | _, field k value rest =>
    (∀ s, k = .str s → onStr s) ∧ value.Every onNumber onStr ∧ rest.Every onNumber onStr
  | _, _ => True

attribute [local simp] get? size erase insertSorted sorted sortKeys write prepend same IsJson Every Text.loads

/-- Every `int` is short enough to be written. -/
abbrev Printable (limit : Nat) {i : Shape} (v : Value i) : Prop := v.Every (fun n => printable limit n) fun _ => True

/-- No `str` holds two surrogates that join. -/
abbrev Unpaired {i : Shape} (v : Value i) : Prop := v.Every (fun _ => True) Settled

def keys : {i : Shape} → Value i → List Key
  | _, field k _ rest => k :: rest.keys
  | _, _ => []

variable {i : Shape}

theorem length_keys : {i : Shape} → (v : Value i) → v.keys.length = v.size
  | _, field _ _ rest => congrArg (· + 1) (length_keys rest)
  | _, null | _, number _ | _, str _ | _, list _ | _, tuple _ | _, dict _ | _, other _ | _, nil | _, cons _ _
  | _, empty => rfl
variable {key : Key} {s : Str} {p : Number → Prop} {q : Str → Prop}

theorem get?_eq_none : {i : Shape} → {v : Value i} → (v.get? key = none ↔ key ∉ v.keys)
  | _, field k value rest => by
    rw [get?, keys, mem_cons, not_or]
    split
    case isTrue here => simp [here]
    case isFalse other => simpa [Ne.symm other] using get?_eq_none
  | _, null | _, number _ | _, str _ | _, list _ | _, tuple _ | _, dict _ | _, other _ | _, nil | _, cons _ _
  | _, empty => by
    simp [get?, keys]

theorem nodup_keys : {i : Shape} → {v : Value i} → v.IsJson → v.keys.Nodup
  | _, field (.str _) _ _, json => List.nodup_cons.mpr ⟨get?_eq_none.mp json.1, nodup_keys json.2.2⟩
  | _, field (.other _) _ _, json => json.elim
  | _, null, _ | _, number _, _ | _, str _, _ | _, list _, _ | _, tuple _, _ | _, dict _, _ | _, nil, _ | _, cons _ _, _
  | _, empty, _ => nodup_nil

/-! ### What a comparison finds -/

theorem found_of_same {value} : {i : Shape} → {a b : Value i} → a.same b →
    a.get? key = some value → ∃ w, b.get? key = some w ∧ value.same w
  | _, field k v rest, b, equal, held => by
    rw [same, Bool.and_eq_true] at equal
    rw [get?] at held
    split at held
    case isTrue here =>
      cases held
      subst here
      cases found : b.get? k with
      | some w => exact ⟨w, rfl, by simpa only [found] using equal.1⟩
      | none => simp [found] at equal
    case isFalse => exact found_of_same equal.2 held

theorem keys_subset : {i : Shape} → {a b : Value i} → i = .fields → a.same b → a.keys ⊆ b.keys
  | _, field k v rest, b, at_, equal => by
    rw [same, Bool.and_eq_true] at equal
    refine List.cons_subset.mpr ⟨?_, keys_subset at_ equal.2⟩
    by_contra absent
    simp [get?_eq_none.mpr absent] at equal
  | _, empty, _, _, _ => nil_subset _

variable {a b : Value .fields} {v u : Value .items} {i : Shape} {limit : Nat}

theorem keys_perm (json : a.IsJson) (size : a.size = b.size) (equal : a.same b) : a.keys.Perm b.keys :=
  ((nodup_keys json).subperm (keys_subset rfl equal)).perm_of_length_le (by rw [length_keys, length_keys, size])

theorem same_str {v} : v.same (str s) ↔ v = str s := by
  cases v <;> simp [same]

theorem str_same {w} : (str s).same w ↔ w = str s := by
  cases w <;> simp [same, eq_comm]

theorem number_same {w} {n} : (number n).same w ↔ w = number n := by
  cases w <;> simp [same, eq_comm]

/-! ### Sorting -/

theorem get?_insertSorted (key l : Key) (value : Value .value) : {i : Shape} → (v : Value i) → i = .fields →
    v.get? key = none → (insertSorted key value v).get? l = if key = l then some value else v.get? l
  | _, field k w rest, at_, absent => by
    rw [get?] at absent
    split at absent
    case isTrue => cases absent
    case isFalse other =>
      have here : (field key value (field k w rest)).get? l =
          if key = l then some value else (field k w rest).get? l := rfl
      unfold insertSorted
      split
      · split
        · rw [get?, get?_insertSorted _ l value rest at_ absent, get?]
          split
          case isTrue found => rw [if_neg fun same => other (found.trans same.symm)]
          case isFalse => rfl
        · exact here
      · exact here
  | _, empty, _, _ => rfl

theorem size_insertSorted (key : Key) (value : Value .value) : {i : Shape} → (v : Value i) → i = .fields →
    (insertSorted key value v).size = v.size + 1
  | _, field k w rest, at_ => by
    unfold insertSorted
    split
    · split
      · exact congrArg (· + 1) (size_insertSorted _ value rest at_)
      · rfl
    · rfl
  | _, empty, _ => rfl

theorem same_insertSorted (key : Key) (value : Value .value) (b : Value .fields) : (v : Value .fields) →
    (insertSorted key value v).same b = (field key value v).same b
  | field k w rest => by
    unfold insertSorted
    split
    · split
      · rw [same, same_insertSorted _ value b rest, same, same, same]
        simp only [Bool.and_left_comm]
      · rfl
    · rfl
  | empty => rfl

theorem every_insertSorted (key : Key) (value : Value .value) :
    (v : Value .fields) → ((insertSorted key value v).Every p q ↔ (field key value v).Every p q)
  | field k w rest => by
    unfold insertSorted
    split
    · split
      · rw [Every, every_insertSorted _ value rest, Every, Every, Every]
        tauto
      · rfl
    · rfl
  | empty => Iff.rfl

theorem isJson_insertSorted {value} : {v : Value .fields} → v.get? (.str s) = none →
    value.IsJson → v.IsJson → (insertSorted (.str s) value v).IsJson
  | field (.str t) w rest, absent, json, all => by
    have later : rest.get? (.str s) = none := by
      rw [get?] at absent
      split at absent
      · cases absent
      · exact absent
    unfold insertSorted
    dsimp only
    split
    · refine ⟨?_, all.2.1, isJson_insertSorted later json all.2.2⟩
      rw [get?_insertSorted _ _ _ _ rfl later, if_neg, all.1]
      rintro same
      simp [get?, same] at absent
    · exact ⟨absent, json, all⟩
  | field (.other _) _ _, _, _, all => all.elim
  | empty, absent, json, all => ⟨absent, json, all⟩

theorem size_sorted : (v : Value .fields) → v.sorted.size = v.size
  | field k value rest => by
    rw [sorted, size_insertSorted _ _ _ rfl, size_sorted rest]
    rfl
  | empty => rfl

theorem same_sorted (b : Value .fields) : (v : Value .fields) → v.sorted.same b = v.same b
  | field k value rest => by
    rw [sorted, same_insertSorted, same, same_sorted b rest]
    rfl
  | empty => rfl

theorem every_sorted : (v : Value .fields) → (v.sorted.Every p q ↔ v.Every p q)
  | field k value rest => by
    rw [sorted, every_insertSorted, Every, every_sorted rest]
    rfl
  | empty => Iff.rfl

theorem get?_sorted (l : Key) : {v : Value .fields} → v.IsJson → v.sorted.get? l = v.get? l
  | field (.str s) value rest, json => by
    have absent : rest.sorted.get? (.str s) = none := (get?_sorted _ json.2.2).trans json.1
    rw [sorted, get?_insertSorted _ _ _ _ rfl absent, get?_sorted l json.2.2]
    rfl
  | field (.other _) _ _, json => json.elim
  | empty, _ => rfl

theorem isJson_sorted : {v : Value .fields} → v.IsJson → v.sorted.IsJson
  | field (.str s) value rest, json =>
    isJson_insertSorted ((get?_sorted _ json.2.2).trans json.1) json.2.1 (isJson_sorted json.2.2)
  | field (.other _) _ _, json => json.elim
  | empty, _ => trivial

structure Alike {i : Shape} (v u : Value i) : Prop where
  size : u.size = v.size
  same : ∀ b, u.same b = v.same b
  every : ∀ {p : Number → Prop} {q : Str → Prop}, u.Every p q ↔ v.Every p q

theorem Alike.dict {v u} (alike : Alike v u) : Alike (dict v) (dict u.sorted) where
  size := rfl
  same b := by
    cases b <;> simp only [Value.same, size_sorted, same_sorted, alike.size, alike.same]
  every := by
    simp only [Every, every_sorted, alike.every, implies_true]

theorem Alike.list (alike : Alike v u) : Alike (list v) (list u) where
  size := rfl
  same b := by cases b <;> simp only [Value.same, alike.same]
  every := alike.every

theorem Alike.tuple (alike : Alike v u) : Alike (tuple v) (tuple u) where
  size := rfl
  same b := by cases b <;> simp only [Value.same, alike.same]
  every := alike.every

theorem Alike.list_tuple (alike : Alike v u) : Alike (Value.tuple v) (Value.list u) where
  size := rfl
  same b := by cases b <;> simp only [Value.same, alike.same]
  every := alike.every

theorem Alike.cons {v w} {a b} (head : Alike v w) (tail : Alike a b) : Alike (cons v a) (cons w b) where
  size := rfl
  same c := by cases c <;> simp only [Value.same, head.same, tail.same]
  every := by simp only [Every, head.every, tail.every, implies_true]

theorem Alike.field {v w} (key : Key) (value : Alike v w) (rest : Alike a b) :
    Alike (field key v a) (field key w b) where
  size := congrArg (· + 1) rest.size
  same c := by simp only [Value.same, value.same, rest.same]
  every := by simp only [Every, value.every, rest.every, implies_true]

theorem Alike.refl (v : Value i) : Alike v v := ⟨rfl, fun _ => rfl, Iff.rfl⟩

theorem Alike.trans {u v w : Value i} (first : Alike u v) (second : Alike v w) : Alike u w where
  size := second.size.trans first.size
  same b := (second.same b).trans (first.same b)
  every := second.every.trans first.every

theorem alike_sortKeys : {i : Shape} → (v : Value i) → Alike v v.sortKeys
  | _, list items => (alike_sortKeys items).list
  | _, tuple items => (alike_sortKeys items).tuple
  | _, dict fields => (alike_sortKeys fields).dict
  | _, cons head tail => (alike_sortKeys head).cons (alike_sortKeys tail)
  | _, field key value rest => (alike_sortKeys value).field key (alike_sortKeys rest)
  | _, null | _, number _ | _, str _ | _, other _ | _, nil | _, empty => .refl _

theorem get?_sortKeys (key : Key) : {i : Shape} → (v : Value i) → v.sortKeys.get? key = (v.get? key).map sortKeys
  | _, field k value rest => by
    rw [sortKeys, get?, get?, get?_sortKeys key rest]
    split <;> rfl
  | _, null | _, number _ | _, str _ | _, list _ | _, tuple _ | _, dict _ | _, other _ | _, nil | _, cons _ _
  | _, empty => rfl

theorem isJson_sortKeys : {i : Shape} → {v : Value i} → v.IsJson → v.sortKeys.IsJson
  | _, list items, json => isJson_sortKeys (v := items) json
  | _, tuple items, json => isJson_sortKeys (v := items) json
  | _, dict _, json => isJson_sorted (isJson_sortKeys json)
  | _, cons _ _, json => ⟨isJson_sortKeys json.1, isJson_sortKeys json.2⟩
  | _, field (.str _) _ rest, json =>
    ⟨by rw [get?_sortKeys, json.1]; rfl, isJson_sortKeys json.2.1, isJson_sortKeys json.2.2⟩
  | _, field (.other _) _ _, json | _, other _, json => json.elim
  | _, null, json | _, number _, json | _, str _, json | _, nil, json | _, empty, json => json

/-! ### What is written -/

/-- `json.dumps(value, sort_keys=True, allow_nan=False)`. -/
def dumps (limit : Nat) (v : Value .value) : Option (Text .value) := v.sortKeys.write limit

theorem isSome_write_iff : {i : Shape} → {v : Value i} → v.IsJson → ((v.write limit).isSome ↔ v.Printable limit)
  | _, number n, json => by
    have finite : n.isFinite = true := json
    simp [write, Every, finite]
  | _, list items, json | _, tuple items, json => by
    rw [write, Option.isSome_map]
    exact isSome_write_iff (v := items) json
  | _, dict fields, json => by
    rw [write, Option.isSome_map]
    exact isSome_write_iff (v := fields) json
  | _, cons head tail, json => by
    refine Iff.trans ?_ (and_congr (isSome_write_iff json.1) (isSome_write_iff json.2))
    rw [write]
    cases head.write limit <;> simp
  | _, field (.str s) value rest, json => by
    have keys : ∀ t, Key.str s = .str t → True := fun _ _ => trivial
    refine Iff.trans ?_ ((and_congr (isSome_write_iff json.2.1) (isSome_write_iff json.2.2)).trans
      (and_iff_right keys).symm)
    rw [write]
    cases value.write limit <;> simp
  | _, field (.other _) _ _, json | _, other _, json => json.elim
  | _, null, _ | _, str _, _ | _, nil, _ | _, empty, _ => ⟨fun _ => trivial, fun _ => rfl⟩

/-! ### What is read back -/

theorem prepend_of_absent {value} {rest}
    (absent : rest.get? key = none) : prepend key value rest = field key value rest := by
  rw [prepend, absent]

theorem every_get? {w} : {i : Shape} → {v : Value i} → v.Every p q → v.get? key = some w → w.Every p q
  | _, field k value rest, every, found => by
    rw [get?] at found
    split at found
    · cases found
      exact every.2.1
    · exact every_get? every.2.2 found

theorem every_erase (key : Key) : {v : Value .fields} → v.Every p q → (v.erase key).Every p q
  | field k value rest, every => by
    rw [erase]
    split
    · exact every_erase key every.2.2
    · exact ⟨every.1, every.2.1, every_erase key every.2.2⟩
  | empty, _ => trivial

theorem unpaired_loads : {i : Shape} → (t : Text i) → t.loads.Unpaired
  | _, .str us => settled_join us
  | _, .list items => unpaired_loads items
  | _, .dict fields => unpaired_loads fields
  | _, .cons head tail => ⟨unpaired_loads head, unpaired_loads tail⟩
  | _, .field key value rest => by
    have named : ∀ s, Key.str (join key) = .str s → Settled s := by
      rintro s same
      cases same
      exact settled_join key
    rw [Text.loads, prepend]
    split
    case h_1 last found =>
      exact ⟨named, every_get? (unpaired_loads rest) found, every_erase _ (unpaired_loads rest)⟩
    case h_2 => exact ⟨named, unpaired_loads value, unpaired_loads rest⟩
  | _, .null | _, .number _ | _, .nil | _, .empty => trivial

theorem settled_of_unpaired : {i : Shape} → {v : Value i} → v.Unpaired → .str s ∈ v.keys → Settled s
  | _, field _ _ _, unpaired, held => by
    rcases List.mem_cons.mp held with first | later
    · exact unpaired.1 s first.symm
    · exact settled_of_unpaired unpaired.2.2 later
  | _, null, _, held | _, number _, _, held | _, str _, _, held | _, list _, _, held | _, tuple _, _, held
  | _, dict _, _, held | _, other _, _, held | _, nil, _, held | _, cons _ _, _, held | _, empty, _, held => by
    cases held

theorem keys_loads : {v : Value .fields} → {t : Text .fields} → v.IsJson →
    (∀ s, .str s ∈ v.keys → Settled s) → v.write limit = some t → t.loads.keys = v.keys
  | field (.str s) value rest, t, json, settled, written => by
    obtain ⟨a, _, last⟩ := Option.bind_eq_some_iff.mp written
    obtain ⟨b, second, rfl⟩ := Option.map_eq_some_iff.mp last
    have later : b.loads.keys = rest.keys :=
      keys_loads json.2.2 (fun t held => settled t (mem_cons_of_mem _ held)) second
    have absent : b.loads.get? (.str s) = none := get?_eq_none.mpr (later ▸ get?_eq_none.mp json.1)
    rw [Text.loads, units_join.mpr (settled s (mem_cons_self ..)), prepend_of_absent absent, keys, later, keys]
  | field (.other _) _ _, _, json, _, _ => json.elim
  | empty, _, _, _, written => by
    cases Option.some.inj written
    rfl

theorem same_field_of_absent {value} {b} : {v : Value .fields} →
    key ∉ v.keys → v.same (field key value b) = v.same b
  | field k v rest, absent => by
    rw [keys, mem_cons, not_or] at absent
    rw [same, same, same_field_of_absent absent.2, get?, if_neg absent.1]
  | empty, _ => rfl

theorem same_loads : {i : Shape} → {v : Value i} → {t : Text i} → v.IsJson →
    (∀ s, .str s ∈ v.keys → Settled s) → v.write limit = some t → (v.same t.loads ↔ v.Unpaired)
  | _, null, t, _, _, written => by
    cases Option.some.inj written
    exact ⟨fun _ => trivial, fun _ => rfl⟩
  | _, number n, t, json, _, written => by
    rw [write] at written
    split at written
    · cases Option.some.inj written
      exact ⟨fun _ => trivial, fun _ => by simp [Text.loads, same]⟩
    · cases written
  | _, str s, t, _, _, written => by
    cases Option.some.inj written
    rw [Text.loads, str_same, Value.str.injEq, units_join]
    rfl
  | _, list items, t, json, _, written | _, tuple items, t, json, _, written => by
    obtain ⟨a, inner, rfl⟩ := Option.map_eq_some_iff.mp written
    have noKeys : items.keys = [] := by cases items <;> rfl
    have settled : ∀ s, Key.str s ∈ items.keys → Settled s := by simp [noKeys]
    exact same_loads (v := items) json settled inner
  | _, dict fields, t, json, _, written => by
    obtain ⟨a, inner, rfl⟩ := Option.map_eq_some_iff.mp written
    rw [Text.loads, same, Bool.and_eq_true, decide_eq_true_eq]
    -- Either side says that the keys are settled: a key that was found has been read.
    constructor
    · rintro ⟨_, equal⟩
      have settled : ∀ s, Key.str s ∈ fields.keys → Settled s := fun s held =>
        settled_of_unpaired (unpaired_loads a) (keys_subset rfl equal held)
      exact (same_loads (v := fields) json settled inner).mp equal
    · intro unpaired
      have settled : ∀ s, Key.str s ∈ fields.keys → Settled s := fun s held =>
        settled_of_unpaired (v := fields) unpaired held
      refine ⟨?_, (same_loads (v := fields) json settled inner).mpr unpaired⟩
      rw [← length_keys, ← length_keys, keys_loads json settled inner]
  | _, nil, t, _, _, written => by
    cases Option.some.inj written
    exact ⟨fun _ => trivial, fun _ => rfl⟩
  | _, cons head tail, t, json, _, written => by
    obtain ⟨a, first, last⟩ := Option.bind_eq_some_iff.mp written
    obtain ⟨b, second, rfl⟩ := Option.map_eq_some_iff.mp last
    have noKeys : tail.keys = [] := by cases tail <;> rfl
    have noKey : head.keys = [] := by cases head <;> rfl
    rw [Text.loads, same, Bool.and_eq_true]
    exact and_congr (same_loads json.1 (by simp [noKey]) first) (same_loads json.2 (by simp [noKeys]) second)
  | _, empty, t, _, _, written => by
    cases Option.some.inj written
    exact ⟨fun _ => trivial, fun _ => rfl⟩
  | _, field (.str s) value rest, t, json, settled, written => by
    obtain ⟨a, first, last⟩ := Option.bind_eq_some_iff.mp written
    obtain ⟨b, second, rfl⟩ := Option.map_eq_some_iff.mp last
    have later : ∀ t, Key.str t ∈ rest.keys → Settled t := fun t held => settled t (mem_cons_of_mem _ held)
    have here : Settled s := settled s (mem_cons_self ..)
    have absent : b.loads.get? (.str s) = none :=
      get?_eq_none.mpr (keys_loads json.2.2 later second ▸ get?_eq_none.mp json.1)
    have noKey : value.keys = [] := by cases value <;> rfl
    rw [Text.loads, units_join.mpr here, prepend_of_absent absent, same, get?, if_pos rfl,
      same_field_of_absent (get?_eq_none.mp json.1), Bool.and_eq_true]
    refine Iff.trans ?_ (and_iff_right (a := ∀ t, Key.str s = .str t → Settled t) ?_).symm
    · exact and_congr (same_loads json.2.1 (by simp [noKey]) first) (same_loads json.2.2 later second)
    · rintro t same
      cases same
      exact here
  | _, field (.other _) _ _, _, json, _, _ | _, other _, _, json, _, _ => json.elim

end Value

end EmbodiRun.Data.Reread
