/-
# Data.Dict -- a dictionary with its items in insertion order

`Dict κ α` is a Python `dict`: looking up, assigning, removing, and building one from items.
-/
import Mathlib

namespace EmbodiRun.Data

open List Option

universe u v w

instance lawfulText : LawfulBEq (List Char) := inferInstance

/-- The items of a `dict`, oldest first; the first item under a key counts. -/
structure Dict (κ : Type u) (α : Type v) where
  items : List (κ × α)

namespace Dict

variable {κ : Type u} {α : Type v} [DecidableEq κ]

def empty : Dict κ α := ⟨[]⟩

/-- `d.get(k)`. -/
def get? (d : Dict κ α) (k : κ) : Option α := (d.items.find? fun item => item.1 = k).map Prod.snd

/-- `d[k] = x`: an assignment to a key that is there keeps its place. -/
def set (d : Dict κ α) (k : κ) (x : α) : Dict κ α :=
  if (d.get? k).isSome then ⟨d.items.map fun item => if item.1 = k then (k, x) else item⟩
  else ⟨d.items ++ [(k, x)]⟩

/-- `d.pop(k, None)`. -/
def erase (d : Dict κ α) (k : κ) : Dict κ α := ⟨d.items.filter fun item => item.1 ≠ k⟩

/-- `{k: x for k, x in d.items() if keep(k)}`. -/
def retain (d : Dict κ α) (keep : κ → Bool) : Dict κ α := ⟨d.items.filter fun item => keep item.1⟩

/-- A new `dict`, one assignment for each item in turn. -/
def ofItems (items : List (κ × α)) : Dict κ α :=
  items.foldl (fun d item => d.set item.1 item.2) empty

variable {d : Dict κ α} {k l : κ} {x : α}

@[simp] theorem get?_empty : (empty : Dict κ α).get? k = none := rfl

theorem get?_eq_none : d.get? k = none ↔ ∀ item ∈ d.items, item.1 ≠ k := by
  simp [get?]

theorem mem_of_get? (found : d.get? k = some x) : (k, x) ∈ d.items := by
  obtain ⟨item, held, rfl⟩ := Option.map_eq_some_iff.mp found
  have key : item.1 = k := by simpa using List.find?_some held
  exact key ▸ mem_of_find?_eq_some held

@[simp] theorem get?_set_self : (d.set k x).get? k = some x := by
  unfold set
  split
  · rename_i present
    unfold get? at present ⊢
    rw [List.find?_map]
    rw [isSome_map, isSome_iff_exists] at present
    obtain ⟨item, held⟩ := present
    have key : item.1 = k := by simpa using List.find?_some held
    have same : ((fun item => decide (item.1 = k)) ∘
        fun item : κ × α => if item.1 = k then (k, x) else item) = fun item => decide (item.1 = k) := by
      funext item
      by_cases equal : item.1 = k <;> simp [equal]
    rw [same, held]
    simp [key]
  · rename_i absent
    have absent : d.get? k = none := by simpa using absent
    unfold get? at absent ⊢
    rw [List.find?_append, Option.map_eq_none_iff.mp absent]
    simp

theorem get?_set_of_ne (other : l ≠ k) : (d.set k x).get? l = d.get? l := by
  unfold set
  split <;> unfold get?
  · rw [List.find?_map]
    have same : ((fun item => decide (item.1 = l)) ∘
        fun item : κ × α => if item.1 = k then (k, x) else item) = fun item => decide (item.1 = l) := by
      funext item
      by_cases equal : item.1 = k
      · simp [equal, other.symm]
      · simp [equal]
    rw [same, Option.map_map]
    cases held : d.items.find? fun item => item.1 = l with
    | none => rfl
    | some item =>
      have key : item.1 = l := by simpa using List.find?_some held
      simp [key, other]
  · rw [List.find?_append]
    simp [other.symm]

@[simp] theorem get?_erase_self : (d.erase k).get? k = none :=
  get?_eq_none.mpr fun _ kept => by simpa using (List.mem_filter.mp kept).2

theorem get?_retain (keep : κ → Bool) : (d.retain keep).get? k = if keep k then d.get? k else none := by
  unfold get? retain
  split
  · rename_i kept
    rw [List.find?_filter]
    congr 2
    funext item
    by_cases equal : item.1 = k <;> simp [equal, kept]
  · rename_i dropped
    rw [map_eq_none_iff, List.find?_eq_none]
    intro item held
    have kept := (List.mem_filter.mp held).2
    simp only [decide_eq_true_eq]
    rintro rfl
    exact dropped kept

theorem get?_erase_of_ne (other : l ≠ k) : (d.erase k).get? l = d.get? l := by
  have same : d.erase k = d.retain fun l => l ≠ k := rfl
  rw [same, get?_retain, if_pos (by simpa using other)]
variable {item : κ × α}

theorem mem_set (held : item ∈ (d.set k x).items) : item ∈ d.items ∨ item = (k, x) := by
  unfold set at held
  split at held
  · obtain ⟨before, member, rfl⟩ := List.mem_map.mp held
    split
    · exact .inr rfl
    · exact .inl member
  · exact (List.mem_append.mp held).imp_right List.mem_singleton.mp

theorem mem_erase (held : item ∈ (d.erase k).items) : item ∈ d.items :=
  (List.mem_filter.mp held).1

theorem isSome_get? : (d.get? k).isSome ↔ k ∈ d.items.map Prod.fst := by
  rw [← not_iff_not, Bool.not_eq_true, isSome_eq_false_iff, isNone_iff_eq_none,
    get?_eq_none, List.mem_map, not_exists]
  exact forall_congr' fun item => by simp

def Distinct (d : Dict κ α) : Prop := (d.items.map Prod.fst).Nodup

theorem get?_of_mem (distinct : d.Distinct) (held : item ∈ d.items) : d.get? item.1 = some item.2 := by
  obtain ⟨x, found⟩ : ∃ x, d.get? item.1 = some x := by
    refine ne_none_iff_exists'.mp fun missing => ?_
    exact get?_eq_none.mp missing item held rfl
  have same := inj_on_of_nodup_map distinct (mem_of_get? found) held rfl
  rw [found, ← same]

theorem Distinct.set (distinct : d.Distinct) : (d.set k x).Distinct := by
  unfold Dict.set
  split
  · have keys : (d.items.map fun item => if item.1 = k then (k, x) else item).map Prod.fst =
        d.items.map Prod.fst := by
      rw [List.map_map]
      refine map_congr_left fun item _ => ?_
      by_cases same : item.1 = k <;> simp [same]
    unfold Distinct
    rw [keys]
    exact distinct
  · rename_i absent
    have missing := get?_eq_none.mp (by simpa using absent)
    unfold Distinct
    rw [map_append, map_singleton]
    refine List.nodup_append.mpr ⟨distinct, nodup_singleton k, ?_⟩
    rintro key member _ last rfl
    obtain ⟨item, held, rfl⟩ := List.mem_map.mp member
    exact missing item held (List.mem_singleton.mp last)

theorem Distinct.foldl_set {β : Type w} {key : β → κ} {f : β → α} (items : List β) (distinct : d.Distinct) :
    (items.foldl (fun d item => d.set (key item) (f item)) d).Distinct := by
  induction items generalizing d with
  | nil => exact distinct
  | cons item items ih => exact ih distinct.set

theorem get?_foldl_set {β : Type w} (key : β → κ) (value : β → α) (items : List β) (d : Dict κ α) :
    (items.foldl (fun d item => d.set (key item) (value item)) d).get? k = d.get? k ∨
      ∃ item ∈ items, key item = k ∧
        (items.foldl (fun d item => d.set (key item) (value item)) d).get? k = some (value item) := by
  induction items generalizing d with
  | nil => exact .inl rfl
  | cons item items ih =>
    rcases ih (d.set (key item) (value item)) with same | ⟨later, member, assigned⟩
    · by_cases here : key item = k
      · subst here
        exact .inr ⟨item, mem_cons_self, rfl, same.trans get?_set_self⟩
      · exact .inl (same.trans (get?_set_of_ne (Ne.symm here)))
    · exact .inr ⟨later, mem_cons_of_mem _ member, assigned⟩

theorem mem_foldl_set {β : Type w} {key : β → κ} {f : β → α} {items : List β} {d : Dict κ α}
    (held : item ∈ (items.foldl (fun d item => d.set (key item) (f item)) d).items) :
    item ∈ d.items ∨ ∃ one ∈ items, item = (key one, f one) := by
  induction items generalizing d with
  | nil => exact .inl held
  | cons one items ih =>
    rcases ih held with before | ⟨later, member, same⟩
    · exact (mem_set before).imp_right fun same => ⟨one, mem_cons_self, same⟩
    · exact .inr ⟨later, mem_cons_of_mem _ member, same⟩

theorem isSome_get?_ofItems (items : List (κ × α)) :
    ((ofItems items).get? k).isSome ↔ ∃ item ∈ items, item.1 = k := by
  have general (items : List (κ × α)) (d : Dict κ α) :
      ((items.foldl (fun d item => d.set item.1 item.2) d).get? k).isSome ↔
        (d.get? k).isSome ∨ ∃ item ∈ items, item.1 = k := by
    induction items generalizing d with
    | nil => simp
    | cons item items ih =>
      rw [foldl_cons, ih]
      by_cases equal : item.1 = k
      · simp [equal]
      · simp [equal, get?_set_of_ne (Ne.symm equal)]
  rw [ofItems, general]
  simp

theorem get?_ofItems {items : List (κ × α)} (distinct : (items.map Prod.fst).Nodup)
    (held : item ∈ items) : (ofItems items).get? item.1 = some item.2 := by
  obtain ⟨value, found⟩ := Option.isSome_iff_exists.mp ((isSome_get?_ofItems items).mpr ⟨item, held, rfl⟩)
  rcases mem_foldl_set (mem_of_get? found) with old | ⟨one, member, same⟩
  · cases old
  · have key : one.1 = item.1 := (congrArg Prod.fst same).symm
    have value_eq : value = one.2 := congrArg Prod.snd same
    rw [found, value_eq, inj_on_of_nodup_map distinct member held key]

end Dict

end EmbodiRun.Data
