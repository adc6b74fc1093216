/-
# Rollout.Chunks -- copying a chunk between an arena and a list of views

The bytes of a list of tensors are one sequence, cut into chunks that ignore where a tensor
ends.  `_copy_chunk` walks over the views, finds the part of each that lies in the chunk, and
copies it from or to the arena.
-/
import Mathlib

namespace EmbodiRun.Rollout

open List

universe u

variable {β : Type u}

/-- `a[first:last]`. -/
def slice (a : List β) (first last : Nat) : List β := (a.drop first).take (last - first)

/-- `a[k:k + len(source)].copy_(source)`. -/
def splice (a : List β) (k : Nat) (source : List β) : List β :=
  a.take k ++ source ++ a.drop (k + source.length)

theorem length_slice {a : List β} {first last : Nat} (fits : last ≤ a.length) :
    (slice a first last).length = last - first := by
  simp only [slice, length_take, length_drop]
  omega

theorem getElem?_slice {a : List β} {first last i : Nat} :
    (slice a first last)[i]? = if i < last - first then a[first + i]? else none := by
  unfold slice
  split_ifs with inside
  · rw [getElem?_take_of_lt inside, getElem?_drop]
  · exact getElem?_eq_none (by simp only [length_take]; omega)

theorem length_splice {a source : List β} {k : Nat} (fits : k + source.length ≤ a.length) :
    (splice a k source).length = a.length := by
  simp only [splice, length_append, length_take, length_drop]
  omega

theorem getElem?_splice {a source : List β} {k i : Nat} (fits : k + source.length ≤ a.length) :
    (splice a k source)[i]? = if k ≤ i ∧ i < k + source.length then source[i - k]? else a[i]? := by
  have front : (a.take k).length = k := by
    rw [length_take]
    omega
  have both : (a.take k ++ source).length = k + source.length := by
    rw [length_append, front]
  unfold splice
  by_cases before : i < k
  · rw [if_neg (by omega), append_assoc, getElem?_append_left (by omega), getElem?_take_of_lt before]
  by_cases inside : i < k + source.length
  · rw [if_pos ⟨by omega, inside⟩, getElem?_append_left (by omega), getElem?_append_right (by omega), front]
  · rw [if_neg (by omega), getElem?_append_right (by omega), both, getElem?_drop]
    congr 1
    omega

/-! ## `_copy_chunk` -/

section

variable (start size : Nat)

/-- `_copy_chunk(views, start, size, into_arena=True)`, from the position of the first view. -/
def copyIn : Nat → List (List β) → List β → List β
  | _, [], arena => arena
  | position, view :: views, arena =>
    let stop := position + view.length
    let first := max start position
    let last := min (start + size) stop
    copyIn stop views
      (if first < last then splice arena (first - start) (slice view (first - position) (last - position))
      else arena)

/-- `_copy_chunk(views, start, size, into_arena=False)`. -/
def copyOut (arena : List β) : Nat → List (List β) → List (List β)
  | _, [] => []
  | position, view :: views =>
    let stop := position + view.length
    let first := max start position
    let last := min (start + size) stop
    (if first < last then splice view (first - position) (slice arena (first - start) (last - start))
    else view) :: copyOut arena stop views

variable {start size}
variable {position : Nat} {views : List (List β)} {arena : List β}

theorem getElem?_copyIn (fits : size ≤ arena.length) (i : Nat) :
    (copyIn start size position views arena).length = arena.length ∧
    (copyIn start size position views arena)[i]? =
      if i < size ∧ position ≤ start + i ∧ start + i < position + views.flatten.length then
        views.flatten[start + i - position]?
      else arena[i]? := by
  induction views generalizing position arena with
  | nil =>
    refine ⟨rfl, ?_⟩
    rw [if_neg (by simp only [flatten_nil, length_nil]; omega)]
    rfl
  | cons view views ih =>
    simp only [copyIn, flatten_cons, length_append]
    by_cases touched : max start position < min (start + size) (position + view.length)
    · rw [if_pos touched]
      have part : (slice view (max start position - position)
          (min (start + size) (position + view.length) - position)).length =
          min (start + size) (position + view.length) - max start position := by
        rw [length_slice (by omega)]
        omega
      have room : max start position - start + (slice view (max start position - position)
          (min (start + size) (position + view.length) - position)).length ≤ arena.length := by
        rw [part]
        omega
      obtain ⟨length, rest⟩ := @ih (position + view.length) _ (by rw [length_splice room]; exact fits)
      refine ⟨by rw [length, length_splice room], ?_⟩
      rw [rest, getElem?_splice room, part, getElem?_slice]
      by_cases later : i < size ∧ position + view.length ≤ start + i ∧
          start + i < position + view.length + views.flatten.length
      · rw [if_pos later, if_pos (by omega), getElem?_append_right (by omega)]
        congr 1
        omega
      rw [if_neg later]
      by_cases here : i < size ∧ position ≤ start + i ∧ start + i < position + view.length
      · rw [if_pos (by omega), if_pos (by omega), if_pos (by omega), getElem?_append_left (by omega)]
        congr 1
        omega
      · rw [if_neg (by omega), if_neg (by omega)]
    · rw [if_neg touched]
      obtain ⟨length, rest⟩ := @ih (position + view.length) arena fits
      refine ⟨length, ?_⟩
      rw [rest]
      by_cases later : i < size ∧ position + view.length ≤ start + i ∧
          start + i < position + view.length + views.flatten.length
      · rw [if_pos later, if_pos (by omega), getElem?_append_right (by omega)]
        congr 1
        omega
      · rw [if_neg later, if_neg (by omega)]

theorem length_copyOut (fits : size ≤ arena.length) :
    (copyOut start size arena position views).map List.length = views.map List.length := by
  induction views generalizing position with
  | nil => rfl
  | cons view views ih =>
    simp only [copyOut, map_cons, ih]
    congr 1
    split_ifs with touched
    · refine length_splice ?_
      rw [length_slice (by omega)]
      omega
    · rfl

theorem getElem?_copyOut (fits : size ≤ arena.length) (j : Nat) :
    (copyOut start size arena position views).flatten[j]? =
      if start ≤ position + j ∧ position + j < start + size ∧ j < views.flatten.length then
        arena[position + j - start]?
      else views.flatten[j]? := by
  induction views generalizing position j with
  | nil =>
    rw [if_neg (by simp only [flatten_nil, length_nil]; omega)]
    rfl
  | cons view views ih =>
    simp only [copyOut, flatten_cons, length_append]
    have same : (if max start position < min (start + size) (position + view.length) then
        splice view (max start position - position) (slice arena (max start position - start)
          (min (start + size) (position + view.length) - start))
        else view).length = view.length := by
      split_ifs with touched
      · refine length_splice ?_
        rw [length_slice (by omega)]
        omega
      · rfl
    by_cases later : view.length ≤ j
    · rw [getElem?_append_right (by rw [same]; exact later), same, ih, getElem?_append_right later]
      by_cases inside : start ≤ position + j ∧ position + j < start + size ∧
          j < view.length + views.flatten.length
      · rw [if_pos (by omega), if_pos inside]
        congr 1
        omega
      · rw [if_neg (by omega), if_neg inside]
    · rw [getElem?_append_left (by rw [same]; omega), getElem?_append_left (by omega)]
      by_cases touched : max start position < min (start + size) (position + view.length)
      · rw [if_pos touched]
        have part : (slice arena (max start position - start)
            (min (start + size) (position + view.length) - start)).length =
            min (start + size) (position + view.length) - max start position := by
          rw [length_slice (by omega)]
          omega
        rw [getElem?_splice (by rw [part]; omega), part, getElem?_slice]
        by_cases inside : start ≤ position + j ∧ position + j < start + size
        · rw [if_pos (by omega), if_pos (by omega), if_pos (by omega)]
          congr 1
          omega
        · rw [if_neg (by omega), if_neg (by omega)]
      · rw [if_neg touched, if_neg (by omega)]

end

theorem eq_of_flatten {a b : List (List β)} (lengths : a.map List.length = b.map List.length)
    (bytes : ∀ j : Nat, a.flatten[j]? = b.flatten[j]?) : a = b :=
  List.eq_iff_flatten_eq.mpr ⟨ext_getElem? bytes, lengths⟩

end EmbodiRun.Rollout
