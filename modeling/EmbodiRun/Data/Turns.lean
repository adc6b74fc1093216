/-
# Data.Turns -- lists that are read in turn, and read one after the other

Several lists are read in turn, each of them over and over.  What is read at an index stands at some place
of the lists put one after the other, and that place depends on their lengths only.

* `walk_eq_iff`: **lengths of one sum are walked alike only if they are the same**, or one list stands on one
  side and lists of one item on the other.
-/
import Mathlib

namespace EmbodiRun.Data

open List

universe u

variable {α : Type u}

def turn (lists : List (List α)) (index : ℤ) : Option α :=
  lists[(index % lists.length).toNat]?.bind fun items =>
    items[(index / lists.length % items.length).toNat]?

/-- The place of that item, where the lists stand one after the other and have these lengths. -/
def walk (lengths : List Nat) (index : ℤ) : Nat :=
  (lengths.take (index % lengths.length).toNat).sum +
    (index / lengths.length % (lengths[(index % lengths.length).toNat]?.getD 1 : Nat)).toNat

structure Lengths where
  each : List Nat
  some_ : each ≠ []
  positive : ∀ n ∈ each, 0 < n

def Lengths.Singles (a b : Lengths) : Prop := a.each = [b.each.length] ∧ ∀ n ∈ b.each, n = 1

/-! ## Places -/
variable {lists : List (List α)} {s : Nat}

theorem flatten_at {s j : Nat} {items : List α} (held : lists[s]? = some items) (within : j < items.length) :
    lists.flatten[((lists.map List.length).take s).sum + j]? = items[j]? := by
  induction lists generalizing s with
  | nil => cases held
  | cons first rest ih =>
    cases s with
    | zero =>
      cases held
      simp only [map_cons, take_zero, sum_nil, Nat.zero_add, flatten_cons]
      exact getElem?_append_left within
    | succ =>
      simp only [map_cons, take_succ_cons, sum_cons, flatten_cons]
      rw [getElem?_append_right (by omega), ← ih held]
      congr 1
      omega

theorem toNat_emod_lt (index : ℤ) {n : Nat} (positive : 0 < n) : (index % n).toNat < n := by
  have least := Int.emod_nonneg index (show (n : ℤ) ≠ 0 by omega)
  have most := Int.emod_lt_of_pos index (show 0 < (n : ℤ) by omega)
  omega

theorem turn_eq (some_ : lists ≠ []) (filled : ∀ items ∈ lists, items ≠ []) (index : ℤ) :
    turn lists index = lists.flatten[walk (lists.map List.length) index]? := by
  have count : 0 < lists.length := List.length_pos_iff.mpr some_
  have bound := toNat_emod_lt index count
  obtain ⟨items, held⟩ : ∃ items, lists[(index % lists.length).toNat]? = some items :=
    ⟨_, getElem?_eq_getElem bound⟩
  have size : 0 < items.length := List.length_pos_iff.mpr (filled items (mem_of_getElem? held))
  have within := toNat_emod_lt (index / lists.length) size
  rw [turn, walk, held, length_map, getElem?_map, held]
  exact (flatten_at held within).symm

/-! ## Walks -/

theorem walk_lt (lengths : Lengths) (index : ℤ) : walk lengths.each index < lengths.each.sum := by
  have count : 0 < lengths.each.length := List.length_pos_iff.mpr lengths.some_
  have bound := toNat_emod_lt index count
  have size := lengths.positive _ (getElem_mem bound)
  have within := toNat_emod_lt (index / lengths.each.length) size
  rw [walk, getElem?_eq_getElem bound, Option.getD_some]
  have most : (lengths.each.take ((index % lengths.each.length).toNat + 1)).sum ≤ lengths.each.sum := by
    conv_rhs => rw [← take_append_drop ((index % lengths.each.length).toNat + 1) lengths.each]
    rw [sum_append]
    exact Nat.le_add_right _ _
  rw [take_succ_eq_append_getElem bound, sum_append, sum_singleton] at most
  omega

theorem walk_first {lengths : List Nat} (bound : s < lengths.length) :
    walk lengths s = (lengths.take s).sum := by
  have source : ((s : ℤ) % lengths.length).toNat = s := by
    rw [Int.emod_eq_of_lt (by omega) (by omega)]
    exact Int.toNat_natCast s
  have front : (s : ℤ) / lengths.length = 0 := Int.ediv_eq_zero_of_lt (by omega) (by omega)
  rw [walk, source, front, Int.zero_emod]
  rfl

theorem walk_second (n : Nat) (rest : List Nat) : walk (n :: rest) ((n :: rest).length : Nat) = 1 % n := by
  have count : ((n :: rest).length : ℤ) ≠ 0 := by simp; omega
  rw [walk, Int.emod_self, Int.ediv_self count]
  simp only [Int.toNat_zero, take_zero, sum_nil, Nat.zero_add, getElem?_cons_zero, Option.getD_some]
  exact congrArg Int.toNat (Int.natCast_emod 1 n).symm

theorem walk_single (n : Nat) (index : ℤ) : walk [n] index = (index % n).toNat := by
  simp [walk, Int.emod_one]

theorem walk_ones (n : Nat) (index : ℤ) (positive : 0 < n) :
    walk (List.replicate n 1) index = (index % n).toNat := by
  have bound := toNat_emod_lt index positive
  rw [walk, length_replicate, take_replicate, sum_replicate,
    getElem?_replicate_of_lt bound, Option.getD_some, Nat.min_eq_left (Nat.le_of_lt bound)]
  simp [Int.emod_one]

variable {a b : Lengths}

theorem Lengths.Singles.eq_replicate (singles : Lengths.Singles a b) :
    b.each = List.replicate b.each.length 1 := eq_replicate_of_mem singles.2

theorem Lengths.Singles.walk_eq (singles : Lengths.Singles a b) (index : ℤ) :
    walk a.each index = walk b.each index := by
  have positive : 0 < b.each.length := List.length_pos_iff.mpr b.some_
  rw [singles.1, walk_single, singles.eq_replicate, walk_ones _ _ positive, length_replicate]

theorem sum_take_eq (alike : ∀ index, walk a.each index = walk b.each index)
    (first : s < a.each.length) (second : s < b.each.length) :
    (a.each.take s).sum = (b.each.take s).sum := by
  rw [← walk_first first, ← walk_first second, alike]

theorem eq_of_sum_take {xs ys : List Nat} (length : xs.length = ys.length)
    (same : ∀ s ≤ xs.length, (xs.take s).sum = (ys.take s).sum) : xs = ys := by
  refine ext_getElem length fun s first second => ?_
  have here := same s (Nat.le_of_lt first)
  have next := same (s + 1) first
  rw [take_succ_eq_append_getElem first, take_succ_eq_append_getElem second, sum_append,
    sum_append, sum_singleton, sum_singleton] at next
  omega

theorem length_le_sum (lengths : Lengths) : lengths.each.length ≤ lengths.each.sum :=
  length_le_sum_of_one_le _ lengths.positive

/-- The shorter of two that are walked alike is one list: a second would be read too early. -/
theorem single_of_shorter (alike : ∀ index, walk a.each index = walk b.each index)
    (shorter : a.each.length < b.each.length) : a.each.length = 1 := by
  obtain ⟨n, rest, split⟩ := exists_cons_of_ne_nil a.some_
  by_contra several
  have two : 1 < a.each.length := by
    rw [split, length_cons] at several ⊢
    omega
  have again := alike a.each.length
  have front := sum_take_eq alike two (by omega)
  rw [walk_first shorter, split, walk_second] at again
  have positive : 0 < n := a.positive n (by rw [split]; exact mem_cons_self ..)
  have within : 1 % n < n := Nat.mod_lt _ positive
  obtain ⟨m, others, other⟩ := exists_cons_of_ne_nil b.some_
  rw [split, other, take_succ_cons, take_succ_cons, sum_cons, sum_cons] at front
  simp only [other, length_cons, take_succ_cons, sum_cons, take_zero, sum_nil] at again front
  omega

theorem one_of_sum_le {ns : List Nat} (positive : ∀ n ∈ ns, 0 < n) (most : ns.sum ≤ ns.length) :
    ∀ n ∈ ns, n = 1 := by
  induction ns with
  | nil => exact fun n held => by cases held
  | cons m rest ih =>
    rw [forall_mem_cons] at positive ⊢
    rw [sum_cons, length_cons] at most
    have least := length_le_sum_of_one_le rest positive.2
    exact ⟨by omega, ih positive.2 (by omega)⟩

theorem singles_of_shorter (sum : a.each.sum = b.each.sum)
    (alike : ∀ index, walk a.each index = walk b.each index) (shorter : a.each.length < b.each.length) :
    Lengths.Singles a b := by
  obtain ⟨n, single⟩ := List.length_eq_one_iff.mp (single_of_shorter alike shorter)
  obtain ⟨m, rest, split⟩ := exists_cons_of_ne_nil b.some_
  have total : b.each.sum = n := by rw [← sum, single, sum_singleton]
  have least := length_le_sum b
  have several : 1 < b.each.length := by rw [single] at shorter; exact shorter
  have one : m = 1 := by
    have second := alike 1
    rw [single, walk_single, show (1 : ℤ) = (1 : Nat) from rfl, walk_first several, split] at second
    have small : ((1 : Nat) : ℤ) % n = 1 := Int.emod_eq_of_lt (by omega) (by omega)
    rw [small] at second
    simpa using second.symm
  have divides := alike b.each.length
  have again : walk b.each b.each.length = 1 % m := by rw [split, walk_second]
  rw [again, single, walk_single, one, ← Int.natCast_emod, Int.toNat_natCast] at divides
  have same : b.each.length = n :=
    Nat.le_antisymm (total ▸ least) (Nat.le_of_dvd (by omega) (Nat.dvd_of_mod_eq_zero divides))
  exact ⟨by rw [single, same], one_of_sum_le b.positive (by omega)⟩

/-- Lengths of one sum are walked alike exactly if they are the same, or one list faces lists of one item. -/
theorem walk_eq_iff (sum : a.each.sum = b.each.sum) : (∀ index, walk a.each index = walk b.each index) ↔
      a.each = b.each ∨ Lengths.Singles a b ∨ Lengths.Singles b a := by
  constructor
  · intro alike
    rcases Nat.lt_trichotomy a.each.length b.each.length with shorter | equal | longer
    · exact .inr (.inl (singles_of_shorter sum alike shorter))
    · refine .inl (eq_of_sum_take equal fun s bound => ?_)
      rcases Nat.lt_or_eq_of_le bound with within | rfl
      · exact sum_take_eq alike within (by omega)
      · rw [take_length, equal, take_length, sum]
    · exact .inr (.inr (singles_of_shorter sum.symm (fun index => (alike index).symm) longer))
  · rintro (same | singles | singles) index
    · rw [same]
    · exact singles.walk_eq index
    · exact (singles.walk_eq index).symm

end EmbodiRun.Data
