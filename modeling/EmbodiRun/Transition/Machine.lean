/-
# Transition.Machine -- guarded step functions, their runs, and the rules about runs

A machine is a step function `step : σ → ε → Option σ`: `step s l` is the state
after the label `l`, and `none` where `l` is not enabled in `s`.  A label carries
everything the environment decides (who moves, what a call answers, what a clock
reads), so a list of labels is one interleaving and `run` replays it.

"In every state of a run" is quantification over runs: every prefix of a run is a run.
-/
import Mathlib

namespace EmbodiRun.Transition

universe u v

variable {σ : Type u} {ε : Type v}

/-- Replay the labels from `s`; `none` if one of them is not enabled. -/
def run (step : σ → ε → Option σ) : σ → List ε → Option σ
  | s, [] => some s
  | s, l :: ls => (step s l).bind fun t => run step t ls

/-- Every step of the replay meets `C`, a condition on the state before it and its label. -/
def Along (step : σ → ε → Option σ) (C : σ → ε → Prop) : σ → List ε → Prop
  | _, [] => True
  | s, l :: ls => C s l ∧ ∀ t, step s l = some t → Along step C t ls

/-- The states some run from `init` ends in. -/
def Reachable (step : σ → ε → Option σ) (init s : σ) : Prop :=
  ∃ ls, run step init ls = some s

variable {step : σ → ε → Option σ}

@[simp] theorem run_nil (s : σ) : run step s [] = some s := rfl

theorem run_cons_eq_some {s t} {l} {ls} :
    run step s (l :: ls) = some t ↔ ∃ u, step s l = some u ∧ run step u ls = some t := by
  simp only [run, Option.bind_eq_some_iff]

theorem run_append {s t} {ls ms} :
    run step s (ls ++ ms) = some t ↔ ∃ u, run step s ls = some u ∧ run step u ms = some t := by
  induction ls generalizing s with
  | nil => simp
  | cons l ls ih =>
    simp only [List.cons_append, run_cons_eq_some, ih]
    constructor
    · rintro ⟨v, first, u, rest, tail⟩
      exact ⟨u, ⟨v, first, rest⟩, tail⟩
    · rintro ⟨u, ⟨v, first, rest⟩, tail⟩
      exact ⟨v, first, u, rest, tail⟩

theorem run_snoc {s t u} {ls} {l} (before : run step s ls = some t)
    (last : step t l = some u) : run step s (ls ++ [l]) = some u :=
  run_append.mpr ⟨t, before, run_cons_eq_some.mpr ⟨u, last, rfl⟩⟩

theorem along_cons {C} {s t} {l} {ls} (first : C s l)
    (next : step s l = some t) (rest : Along step C t ls) : Along step C s (l :: ls) := by
  refine ⟨first, fun u other => ?_⟩
  obtain rfl := Option.some.inj (next.symm.trans other)
  exact rest

theorem along_append {C} {s t} {ls ms} (before : run step s ls = some t) :
    Along step C s (ls ++ ms) ↔ Along step C s ls ∧ Along step C t ms := by
  induction ls generalizing s with
  | nil =>
    cases before
    simp [Along]
  | cons l ls ih =>
    obtain ⟨u, first, rest⟩ := run_cons_eq_some.mp before
    have only : ∀ v, step s l = some v → v = u := fun v other =>
      Option.some.inj (other.symm.trans first)
    simp only [List.cons_append, Along]
    constructor
    · rintro ⟨head, tail⟩
      have split := (ih rest).mp (tail u first)
      exact ⟨⟨head, fun v other => only v other ▸ split.1⟩, split.2⟩
    · rintro ⟨⟨head, tail⟩, later⟩
      exact ⟨head, fun v other => only v other ▸ (ih rest).mpr ⟨tail u first, later⟩⟩

theorem along_mono {C D} (weaker : ∀ s l, C s l → D s l) {s} {ls}
    (along : Along step C s ls) : Along step D s ls := by
  induction ls generalizing s with
  | nil => trivial
  | cons l ls ih => exact ⟨weaker s l along.1, fun t stepped => ih (along.2 t stepped)⟩

theorem along_and {C D} {s} {ls} (left : Along step C s ls)
    (right : Along step D s ls) : Along step (fun s l => C s l ∧ D s l) s ls := by
  induction ls generalizing s with
  | nil => trivial
  | cons l ls ih =>
    exact ⟨⟨left.1, right.1⟩, fun t stepped => ih (left.2 t stepped) (right.2 t stepped)⟩

theorem along_of_forall {C} (all : ∀ s l, C s l) (s : σ) (ls : List ε) : Along step C s ls := by
  induction ls generalizing s with
  | nil => trivial
  | cons l ls ih => exact ⟨all s l, fun t _ => ih t⟩

theorem along_of_mem {P : ε → Prop} {s : σ} {ls : List ε} (all : ∀ l ∈ ls, P l) :
    Along step (fun _ l => P l) s ls := by
  induction ls generalizing s with
  | nil => trivial
  | cons l ls ih =>
    obtain ⟨head, tail⟩ := List.forall_mem_cons.mp all
    exact ⟨head, fun t _ => ih tail⟩

/-- **The run rule.** What every step meeting `C` keeps, every run meeting `C` keeps. -/
theorem run_induction {C : σ → ε → Prop} {I : σ → Prop} (keep : ∀ s l t, C s l → I s → step s l = some t → I t)
    {s t : σ} {ls : List ε} (along : Along step C s ls) (holds : I s)
    (ran : run step s ls = some t) : I t := by
  induction ls generalizing s with
  | nil =>
    cases ran
    exact holds
  | cons l ls ih =>
    obtain ⟨u, first, rest⟩ := run_cons_eq_some.mp ran
    exact ih (along.2 u first) (keep s l u along.1 holds first) rest

theorem run_invariant {I : σ → Prop} (keep : ∀ s l t, I s → step s l = some t → I t)
    {s t : σ} {ls : List ε} (holds : I s) (ran : run step s ls = some t) : I t :=
  have free : Along step (fun _ _ => True) s ls := along_of_forall (fun _ _ => trivial) s ls
  run_induction (fun s l t _ => keep s l t) free holds ran

theorem run_relates {R : σ → σ → Prop} (refl : ∀ s, R s s) (trans : ∀ {s t u}, R s t → R t u → R s u)
    (respects : ∀ s l t, step s l = some t → R s t)
    {s t : σ} {ls : List ε} (ran : run step s ls = some t) : R s t := by
  induction ls generalizing s with
  | nil =>
    obtain rfl := Option.some.inj ran
    exact refl s
  | cons l ls ih =>
    obtain ⟨u, first, rest⟩ := run_cons_eq_some.mp ran
    exact trans (respects s l u first) (ih rest)

/-- On runs whose steps all meet `D`: let `I` give `P`, and let every step from `I` keep it that
meets `C`, and meet `C` if it ends in `P`.  Then `P` holds in every state of a run exactly when
every step of the run meets `C`. -/
theorem along_iff_prefixes_under {C D : σ → ε → Prop} {I P : σ → Prop} (gives : ∀ s, I s → P s)
    (keep : ∀ s l t, D s l → C s l → I s → step s l = some t → I t)
    (sharp : ∀ s l t, D s l → I s → step s l = some t → P t → C s l)
    {s t : σ} {ls : List ε} (under : Along step D s ls) (holds : I s) (ran : run step s ls = some t) :
    (∀ before after u, ls = before ++ after → run step s before = some u → P u) ↔ Along step C s ls := by
  constructor
  · intro all
    induction ls generalizing s with
    | nil => trivial
    | cons l ls ih =>
      obtain ⟨u, first, rest⟩ := run_cons_eq_some.mp ran
      have met : C s l :=
        sharp s l u under.1 holds first (all [l] ls u rfl (run_cons_eq_some.mpr ⟨u, first, rfl⟩))
      refine ⟨met, fun v other => ?_⟩
      obtain rfl : v = u := Option.some.inj (other.symm.trans first)
      refine ih (under.2 v first) (keep s l v under.1 met holds first) rest
        fun before after w split reached => ?_
      exact all (l :: before) after w (by rw [split]; rfl)
        (run_cons_eq_some.mpr ⟨v, first, reached⟩)
  · intro along before after u split reached
    subst split
    have both := along_and ((along_append reached).mp under).1 ((along_append reached).mp along).1
    exact gives u (run_induction (fun s l t met => keep s l t met.1 met.2) both holds reached)

theorem along_iff_prefixes_of {C : σ → ε → Prop} {I P : σ → Prop} (gives : ∀ s, I s → P s)
    (keep : ∀ s l t, C s l → I s → step s l = some t → I t)
    (sharp : ∀ s l t, I s → step s l = some t → P t → C s l)
    {s t : σ} {ls : List ε} (holds : I s) (ran : run step s ls = some t) :
    (∀ before after u, ls = before ++ after → run step s before = some u → P u) ↔ Along step C s ls :=
  along_iff_prefixes_under gives (fun s l t _ => keep s l t) (fun s l t _ => sharp s l t)
    (along_of_forall (fun _ _ => trivial) s ls) holds ran

/-- Where a condition is exactly what keeps `I` through a step, `I` holds throughout exactly where it does. -/
theorem along_iff_prefixes {C : σ → ε → Prop} {I : σ → Prop}
    (exact : ∀ s l t, I s → step s l = some t → (I t ↔ C s l))
    {s t : σ} {ls : List ε} (holds : I s) (ran : run step s ls = some t) :
    (∀ before after u, ls = before ++ after → run step s before = some u → I u) ↔ Along step C s ls :=
  along_iff_prefixes_of (fun _ => id) (fun s l t met inv next => (exact s l t inv next).mpr met)
    (fun s l t inv next => (exact s l t inv next).mp) holds ran

theorem Reachable.refl (s : σ) : Reachable step s s := ⟨[], rfl⟩

theorem Reachable.tail {init s t} {l} (before : Reachable step init s)
    (last : step s l = some t) : Reachable step init t := by
  obtain ⟨ls, ran⟩ := before
  exact ⟨ls ++ [l], run_snoc ran last⟩

theorem reachable_induction {I : σ → Prop} {init s : σ} (keep : ∀ s l t, I s → step s l = some t → I t)
    (reached : Reachable step init s) (holds : I init) : I s := by
  obtain ⟨ls, ran⟩ := reached
  exact run_invariant keep holds ran

end EmbodiRun.Transition
