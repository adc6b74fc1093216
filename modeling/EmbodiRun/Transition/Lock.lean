/-
# Transition.Lock -- a lock among interleaved calls

Each call stands at a station; some stations lie inside a lock.  `Guarded` says that every
call inside holds the lock, so at most one call is inside.
-/
import Mathlib

namespace EmbodiRun.Transition

open Function

universe u v

variable {ι : Type u} {κ : Type v} {inside : κ → Bool} {lock : Option ι} {calls : ι → κ}

def Guarded (inside : κ → Bool) (lock : Option ι) (calls : ι → κ) : Prop :=
  ∀ c, inside (calls c) = true → lock = some c

theorem Guarded.unique (guarded : Guarded inside lock calls) {c d}
    (here : inside (calls c) = true) (there : inside (calls d) = true) : c = d :=
  Option.some.inj ((guarded c here).symm.trans (guarded d there))

theorem Guarded.outside (guarded : Guarded inside none calls) (c : ι) : inside (calls c) = false :=
  Bool.eq_false_iff.mpr fun here => nomatch guarded c here

variable [DecidableEq ι] {c : ι} {station : κ}

theorem guarded_keep (guarded : Guarded inside lock calls)
    (keep : inside station = true → inside (calls c) = true) :
    Guarded inside lock (update calls c station) := by
  intro d here
  by_cases same : d = c
  · subst same
    rw [update_self] at here
    exact guarded d (keep here)
  · rw [update_of_ne same] at here
    exact guarded d here

theorem guarded_take (guarded : Guarded inside none calls) :
    Guarded inside (some c) (update calls c station) := by
  intro d here
  by_cases same : d = c
  · rw [same]
  · rw [update_of_ne same, guarded.outside d] at here
    cases here

theorem guarded_leave (guarded : Guarded inside lock calls) (here : inside (calls c) = true)
    (out : inside station = false) : Guarded inside none (update calls c station) := by
  intro d there
  by_cases same : d = c
  · rw [same, update_self, out] at there
    cases there
  · rw [update_of_ne same] at there
    exact absurd (guarded.unique there here) same

end EmbodiRun.Transition
