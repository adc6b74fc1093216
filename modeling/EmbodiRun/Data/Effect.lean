/-
# Data.Effect -- computations that change a state, and return or raise

What was changed before a computation raised stays changed.
-/
namespace EmbodiRun.Data

def Effect (σ ε α : Type) := σ → Except ε α × σ

namespace Effect

variable {σ ε α β : Type}

def raise (e : ε) : Effect σ ε α := fun s => (.error e, s)

/-- `try: x` with a handler for what it raises. -/
def handle (x : Effect σ ε α) (handler : ε → Effect σ ε α) : Effect σ ε α := fun s =>
  match x s with
  | (.ok a, t) => (.ok a, t)
  | (.error e, t) => handler e t

instance : Monad (Effect σ ε) where
  pure a := fun s => (.ok a, s)
  bind x f := fun s =>
    match x s with
    | (.ok a, t) => f a t
    | (.error e, t) => (.error e, t)

instance : MonadExcept ε (Effect σ ε) where
  throw := raise
  tryCatch := handle

variable {x : Effect σ ε α} {f : α → Effect σ ε β} {handler : ε → Effect σ ε α} {s t : σ} {a : α} {e : ε}

@[simp] theorem pure_apply (a : α) (s : σ) : (pure a : Effect σ ε α) s = (.ok a, s) := rfl

@[simp] theorem throw_apply (e : ε) (s : σ) : (throw e : Effect σ ε α) s = (.error e, s) := rfl

theorem bind_ok (ran : x s = (.ok a, t)) : (x >>= f) s = f a t := by
  show (match x s with | (.ok a, t) => f a t | (.error e, t) => (.error e, t)) = _
  rw [ran]

theorem bind_error (ran : x s = (.error e, t)) : (x >>= f) s = (.error e, t) := by
  show (match x s with | (.ok a, t) => f a t | (.error e, t) => (.error e, t)) = _
  rw [ran]

theorem tryCatch_ok (ran : x s = (.ok a, t)) : (tryCatch x handler) s = (.ok a, t) := by
  show handle x handler s = _
  rw [handle, ran]

theorem tryCatch_error (ran : x s = (.error e, t)) : (tryCatch x handler) s = handler e t := by
  show handle x handler s = _
  rw [handle, ran]

theorem bind_cases (x : Effect σ ε α) (f : α → Effect σ ε β) (s : σ) :
    (∃ e t, x s = (.error e, t) ∧ (x >>= f) s = (.error e, t)) ∨
      ∃ a t, x s = (.ok a, t) ∧ (x >>= f) s = f a t := by
  cases ran : x s with
  | mk outcome t =>
    cases outcome with
    | ok a => exact .inr ⟨a, t, rfl, bind_ok ran⟩
    | error e => exact .inl ⟨e, t, rfl, bind_error ran⟩

theorem tryCatch_cases (x : Effect σ ε α) (handler : ε → Effect σ ε α) (s : σ) :
    (∃ e t, x s = (.error e, t) ∧ (tryCatch x handler) s = handler e t) ∨
      ∃ a t, x s = (.ok a, t) ∧ (tryCatch x handler) s = (.ok a, t) := by
  cases ran : x s with
  | mk outcome t =>
    cases outcome with
    | ok a => exact .inr ⟨a, t, rfl, tryCatch_ok ran⟩
    | error e => exact .inl ⟨e, t, rfl, tryCatch_error ran⟩

def Keeps (R : σ → σ → Prop) (x : Effect σ ε α) : Prop := ∀ s, R s (x s).2

section

variable {R : σ → σ → Prop}

theorem Keeps.pure (refl : ∀ s, R s s) (a : α) : Keeps R (Pure.pure a : Effect σ ε α) := refl

theorem Keeps.throw (refl : ∀ s, R s s) (e : ε) : Keeps R (MonadExcept.throw e : Effect σ ε α) := refl

theorem Keeps.bind (trans : ∀ {s t u}, R s t → R t u → R s u) (first : Keeps R x)
    (next : ∀ a, Keeps R (f a)) : Keeps R (x >>= f) := by
  intro s
  have here := first s
  rcases bind_cases x f s with ⟨e, t, ran, whole⟩ | ⟨a, t, ran, whole⟩ <;> rw [whole]
  · rwa [ran] at here
  · rw [ran] at here
    exact trans here (next a t)

theorem Keeps.tryCatch (trans : ∀ {s t u}, R s t → R t u → R s u) (tried : Keeps R x)
    (handled : ∀ e, Keeps R (handler e)) : Keeps R (tryCatch x handler) := by
  intro s
  have here := tried s
  rcases tryCatch_cases x handler s with ⟨e, t, ran, whole⟩ | ⟨a, t, ran, whole⟩ <;> rw [whole]
  · rw [ran] at here
    exact trans here (handled e t)
  · rwa [ran] at here

end

end Effect

end EmbodiRun.Data
