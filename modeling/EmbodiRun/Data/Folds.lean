/-
# Data.Folds -- rules for loops over a list, with and without errors

A loop is proved with an invariant that may read what it has gone over already.
-/
import Mathlib

namespace EmbodiRun.Data

open List

universe u v w

variable {α : Type u} {β : Type v} {ε : Type w}

variable {I : List α → β → Prop} {items : List α} {results : List β}

theorem foldl_rule {f} {init}
    (keep : ∀ done x s, x ∈ items → I done s → I (done ++ [x]) (f s x)) (start : I [] init) :
    I items (items.foldl f init) := by
  suffices ∀ (rest done : List α) (s : β), done ++ rest = items → I done s →
      I items (rest.foldl f s) from this items [] init rfl start
  intro rest
  induction rest with
  | nil =>
    intro done s split holds
    rw [append_nil] at split
    exact split ▸ holds
  | cons x rest ih =>
    intro done s split holds
    have member : x ∈ items := split ▸ mem_append_right _ mem_cons_self
    exact ih (done ++ [x]) (f s x) (by simpa using split) (keep done x s member holds)

theorem foldlM_rule {f : β → α → Except ε β} {init final : β}
    (keep : ∀ done x s t, x ∈ items → I done s → f s x = .ok t → I (done ++ [x]) t)
    (start : I [] init) (ends : items.foldlM f init = .ok final) : I items final := by
  suffices ∀ (rest done : List α) (s : β), done ++ rest = items → I done s →
      rest.foldlM f s = .ok final → I items final from this items [] init rfl start ends
  intro rest
  induction rest with
  | nil =>
    intro done s split holds ends
    rw [append_nil] at split
    obtain rfl := Except.ok.inj ends
    exact split ▸ holds
  | cons x rest ih =>
    intro done s split holds ends
    rw [foldlM_cons] at ends
    cases body : f s x with
    | error =>
      rw [body] at ends
      cases ends
    | ok t =>
      rw [body] at ends
      have member : x ∈ items := split ▸ mem_append_right _ mem_cons_self
      exact ih (done ++ [x]) t (by simpa using split)
        (keep done x s t member holds body) ends

theorem mapM_ok {f : α → Except ε β} (ends : items.mapM f = .ok results) :
    List.Forall₂ (fun x y => f x = .ok y) items results := by
  induction items generalizing results with
  | nil =>
    obtain rfl := Except.ok.inj ends
    exact .nil
  | cons x items ih =>
    rw [mapM_cons] at ends
    cases head : f x with
    | error =>
      rw [head] at ends
      cases ends
    | ok =>
      rw [head] at ends
      cases tail : items.mapM f with
      | error =>
        rw [tail] at ends
        cases ends
      | ok =>
        rw [tail] at ends
        obtain rfl := Except.ok.inj ends
        exact .cons head (ih tail)

theorem mapM_some {f} : items.mapM f = some results ↔ List.Forall₂ (fun x y => f x = some y) items results := by
  induction items generalizing results with
  | nil => cases results <;> simp
  | cons x items ih =>
    rw [mapM_cons]
    constructor
    · intro ends
      obtain ⟨y, head, rest⟩ := Option.bind_eq_some_iff.mp ends
      obtain ⟨ys, tail, last⟩ := Option.bind_eq_some_iff.mp rest
      obtain rfl := Option.some.inj last
      exact .cons head (ih.mp tail)
    · intro all
      cases all with
      | cons head tail => rw [head, ih.mpr tail]; rfl

end EmbodiRun.Data
