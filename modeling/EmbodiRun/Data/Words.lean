/-
# Data.Words -- unsigned words in network byte order, and buffers cut at given sizes
-/
import Mathlib

namespace EmbodiRun.Data

open List

universe u

abbrev Bytes := List UInt8

/-! ## One word -/

/-- `n` in `width` bytes, the most significant first; what does not fit is cut off. -/
def wordBytes : Nat → Nat → Bytes
  | 0, _ => []
  | width + 1, n => wordBytes width (n / 256) ++ [UInt8.ofNat n]

def wordOf (bytes : Bytes) : Nat := bytes.foldl (fun n byte => n * 256 + byte.toNat) 0

@[simp] theorem length_wordBytes (width n : Nat) : (wordBytes width n).length = width := by
  induction width generalizing n with
  | zero => rfl
  | succ width ih => simp [wordBytes, ih]

@[simp] theorem wordOf_nil : wordOf [] = 0 := rfl

@[simp] theorem wordOf_concat (bytes : Bytes) (byte : UInt8) :
    wordOf (bytes ++ [byte]) = wordOf bytes * 256 + byte.toNat := by
  simp [wordOf]

theorem wordOf_wordBytes {width n} (fits : n < 256 ^ width) : wordOf (wordBytes width n) = n := by
  induction width generalizing n with
  | zero =>
    rw [Nat.pow_zero, Nat.lt_one_iff] at fits
    rw [fits]
    rfl
  | succ width ih =>
    have high : n / 256 < 256 ^ width := Nat.div_lt_of_lt_mul (by rwa [Nat.pow_succ'] at fits)
    rw [wordBytes, wordOf_concat, ih high, UInt8.toNat_ofNat']
    omega

theorem wordBytes_wordOf (bytes : Bytes) : wordBytes bytes.length (wordOf bytes) = bytes := by
  induction bytes using reverseRecOn with
  | nil => rfl
  | append_singleton bytes byte ih =>
    have small : byte.toNat < 256 := byte.toNat_lt
    have high : (wordOf bytes * 256 + byte.toNat) / 256 = wordOf bytes := by omega
    have low : UInt8.ofNat (wordOf bytes * 256 + byte.toNat) = byte := by
      apply UInt8.toNat_inj.mp
      rw [UInt8.toNat_ofNat']
      omega
    rw [length_append, length_singleton, wordBytes, wordOf_concat, high, low, ih]

/-! ## A table of words -/

def wordsBytes (width : Nat) (words : List Nat) : Bytes := (words.map (wordBytes width)).flatten

/-- `count` words of `width` bytes each, from the start of the buffer. -/
def wordsOf (width : Nat) : Nat → Bytes → List Nat
  | 0, _ => []
  | count + 1, bytes => wordOf (bytes.take width) :: wordsOf width count (bytes.drop width)

theorem wordsBytes_cons (width word : Nat) (words : List Nat) :
    wordsBytes width (word :: words) = wordBytes width word ++ wordsBytes width words := by
  simp [wordsBytes]

@[simp] theorem length_wordsBytes (width : Nat) (words : List Nat) :
    (wordsBytes width words).length = words.length * width := by
  induction words with
  | nil => simp [wordsBytes]
  | cons word words ih =>
    rw [wordsBytes_cons, length_append, ih, length_wordBytes, length_cons, Nat.succ_mul, Nat.add_comm]

@[simp] theorem length_wordsOf (width count : Nat) (bytes : Bytes) :
    (wordsOf width count bytes).length = count := by
  induction count generalizing bytes with
  | zero => rfl
  | succ count ih => simp [wordsOf, ih]

theorem wordsOf_wordsBytes {width} {words} (rest : Bytes) (fit : ∀ word ∈ words, word < 256 ^ width) :
    wordsOf width words.length (wordsBytes width words ++ rest) = words := by
  induction words with
  | nil => rfl
  | cons word words ih =>
    have first : word < 256 ^ width := fit word mem_cons_self
    have others := ih fun other member => fit other (mem_cons_of_mem _ member)
    have length := length_wordBytes width word
    rw [wordsBytes_cons, append_assoc, length_cons, wordsOf, take_left' length,
      drop_left' length, others, wordOf_wordBytes first]

theorem wordsBytes_wordsOf {width count} {bytes} (enough : count * width ≤ bytes.length) :
    wordsBytes width (wordsOf width count bytes) = bytes.take (count * width) := by
  induction count generalizing bytes with
  | zero => simp [wordsOf, wordsBytes]
  | succ count ih =>
    rw [Nat.succ_mul] at enough
    have remains : count * width ≤ (bytes.drop width).length := by
      rw [length_drop]
      omega
    have others := ih remains
    have full : (bytes.take width).length = width := length_take_of_le (by omega)
    have first : wordBytes width (wordOf (bytes.take width)) = bytes.take width := by
      rw [← congrArg (wordBytes · _) full]
      exact wordBytes_wordOf _
    rw [wordsOf, wordsBytes_cons, others, first, Nat.succ_mul, Nat.add_comm, take_add]

/-! ## A buffer cut at given sizes -/

variable {α : Type u}

/-- The pieces of these sizes from `offset` on, as slices give them. -/
def cuts (buffer : List α) : Nat → List Nat → List (List α)
  | _, [] => []
  | offset, size :: sizes => (buffer.drop offset).take size :: cuts buffer (offset + size) sizes

theorem cuts_flatten (before : List α) (pieces : List (List α)) (after : List α) :
    cuts (before ++ (pieces.flatten ++ after)) before.length (pieces.map List.length) = pieces := by
  induction pieces generalizing before with
  | nil => rfl
  | cons piece pieces ih =>
    have rest := ih (before ++ piece)
    rw [append_assoc, length_append] at rest
    rw [map_cons, cuts, flatten_cons, append_assoc, rest, drop_left, take_left]

theorem flatten_cuts (buffer : List α) (offset : Nat) (sizes : List Nat) :
    (cuts buffer offset sizes).flatten = (buffer.drop offset).take sizes.sum := by
  induction sizes generalizing offset with
  | nil => simp [cuts]
  | cons size sizes ih =>
    rw [cuts, flatten_cons, ih, sum_cons, take_add, drop_drop]

theorem lengths_cuts {buffer : List α} {offset : Nat} {sizes : List Nat}
    (enough : offset + sizes.sum ≤ buffer.length) :
    (cuts buffer offset sizes).map List.length = sizes := by
  induction sizes generalizing offset with
  | nil => rfl
  | cons size sizes ih =>
    rw [sum_cons] at enough
    have first : ((buffer.drop offset).take size).length = size :=
      length_take_of_le (by rw [length_drop]; omega)
    rw [cuts, map_cons, first, ih (by omega)]

end EmbodiRun.Data
