/-
# Transition.Passed -- what a run came through

A reader that takes no common lock learns what held at some instant only later, from what it reads
again.  An invariant for it says what the run came through.
-/
import EmbodiRun.Transition.Machine

namespace EmbodiRun.Transition

open List

universe u v

variable {σ : Type u} {ε : Type v}

/-- Some state of the run, its last one included, has `P`. -/
def Passed (step : σ → ε → Option σ) (s : σ) (ls : List ε) (P : σ → Prop) : Prop :=
  ∃ before after u, ls = before ++ after ∧ run step s before = some u ∧ P u

/-- Some step of the run has `P`, of the state before it and its label. -/
def Took (step : σ → ε → Option σ) (s : σ) (ls : List ε) (P : σ → ε → Prop) : Prop :=
  ∃ before l after u, ls = before ++ l :: after ∧ run step s before = some u ∧ P u l

variable {step : σ → ε → Option σ} {s t : σ} {ls : List ε} {P : σ → Prop} {Q : σ → ε → Prop}

theorem passed_now (ran : run step s ls = some t) (here : P t) : Passed step s ls P :=
  ⟨ls, [], t, (append_nil ls).symm, ran, here⟩

theorem Passed.later (passed : Passed step s ls P) (l : ε) : Passed step s (ls ++ [l]) P := by
  obtain ⟨before, after, u, rfl, ran, here⟩ := passed
  exact ⟨before, after ++ [l], u, append_assoc .., ran, here⟩

theorem took_now {l} (ran : run step s ls = some t) (here : Q t l) : Took step s (ls ++ [l]) Q :=
  ⟨ls, l, [], t, rfl, ran, here⟩

theorem Took.later (took : Took step s ls Q) (l : ε) : Took step s (ls ++ [l]) Q := by
  obtain ⟨before, m, after, u, rfl, ran, here⟩ := took
  exact ⟨before, m, after ++ [l], u, by rw [append_assoc, cons_append], ran, here⟩

/-- **The run rule with a past.** -/
theorem run_past {I : List ε → σ → Prop}
    (keep : ∀ ls u l v, run step s ls = some u → I ls u → step u l = some v → I (ls ++ [l]) v)
    (holds : I [] s) (ran : run step s ls = some t) : I ls t := by
  induction ls using reverseRecOn generalizing t with
  | nil =>
    obtain rfl := Option.some.inj ran
    exact holds
  | append_singleton ls l ih =>
    obtain ⟨u, before, last⟩ := run_append.mp ran
    obtain ⟨v, next, rest⟩ := run_cons_eq_some.mp last
    obtain rfl := Option.some.inj rest
    exact keep ls u l v before (ih before) next

end EmbodiRun.Transition
