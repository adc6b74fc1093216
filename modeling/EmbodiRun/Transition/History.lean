/-
# Transition.History -- a machine with a record of its run

Some properties of a run read more than the state it ends in: what happened since, how
often, who asked first.  `noted step note` runs the machine of `step` with a record beside
its state, which `note` updates from each step and which no step can read.
-/
import EmbodiRun.Transition.Machine

namespace EmbodiRun.Transition

universe u v w

variable {σ : Type u} {ε : Type v} {η : Type w}

/-- `step` with a record: `note s l t` is what the step from `s` by `l` to `t` adds to it. -/
def noted (step : σ → ε → Option σ) (note : σ → ε → σ → η → η) (s : σ × η) (l : ε) : Option (σ × η) :=
  (step s.1 l).map fun t => (t, note s.1 l t s.2)

variable {step : σ → ε → Option σ} {note : σ → ε → σ → η → η}

theorem noted_eq_some {s t} {l} :
    noted step note s l = some t ↔ step s.1 l = some t.1 ∧ t.2 = note s.1 l t.1 s.2 := by
  rw [noted, Option.map_eq_some_iff]
  constructor
  · rintro ⟨u, next, rfl⟩
    exact ⟨next, rfl⟩
  · rintro ⟨next, record⟩
    exact ⟨t.1, next, by rw [← record]⟩

theorem run_noted {s t} {ls} (ran : run (noted step note) s ls = some t) : run step s.1 ls = some t.1 := by
  induction ls generalizing s with
  | nil =>
    obtain rfl := Option.some.inj ran
    rfl
  | cons l ls ih =>
    obtain ⟨u, first, rest⟩ := run_cons_eq_some.mp ran
    exact run_cons_eq_some.mpr ⟨u.1, (noted_eq_some.mp first).1, ih rest⟩

theorem noted_run {s t} {ls} (record : η) (ran : run step s ls = some t) :
    ∃ after, run (noted step note) (s, record) ls = some (t, after) := by
  induction ls generalizing s record with
  | nil =>
    obtain rfl := Option.some.inj ran
    exact ⟨record, rfl⟩
  | cons l ls ih =>
    obtain ⟨u, first, rest⟩ := run_cons_eq_some.mp ran
    obtain ⟨after, later⟩ := ih (note s l u record) rest
    exact ⟨after, run_cons_eq_some.mpr ⟨_, noted_eq_some.mpr ⟨first, rfl⟩, later⟩⟩

theorem along_noted {C} {s} {ls} : Along (noted step note) (fun s l => C s.1 l) s ls ↔ Along step C s.1 ls := by
  induction ls generalizing s with
  | nil => exact Iff.rfl
  | cons l ls ih =>
    constructor <;> rintro ⟨head, tail⟩
    · exact ⟨head, fun t next =>
        ih.mp (tail (t, note s.1 l t s.2) (noted_eq_some.mpr ⟨next, rfl⟩))⟩
    · exact ⟨head, fun t next => ih.mpr (tail t.1 (noted_eq_some.mp next).1)⟩

end EmbodiRun.Transition
