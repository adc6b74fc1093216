/-
# Jobs.Inference -- the inference status of a job that asked for no inference

Every section that writes a row reads from it whether inference was asked for, and keeps
`NOT_REQUESTED` where it finds it.  `cancel` alone writes its own value over it.

* `not_requested_iff`: **a job submitted without inference claims none, in any state of a history,
  exactly if no call of `cancel` finds it live**.
-/
import EmbodiRun.Jobs.Once

namespace EmbodiRun.Jobs

open Data Devices Application Transition

def NotRequested (row : Option Row) : Prop := ∃ r, row = some r ∧ r.inference = .notRequested

/-- The call of `cancel` goes through to its transaction and commits it: the registry is open, the
job is not terminal, and it was submitted to this registry. -/
def Cancels (key : JobKey) (s : State) (l : Label) : Prop :=
  ∃ g r row, l = .at g (.cancel key true) ∧ s.registries g = some r ∧ r.crashed = false ∧
    r.closed = false ∧ s.rows.get? key = some row ∧ row.status.terminal = false ∧ (r.runtimes key).isSome

section

variable {n : Nat} {row : Row} (asked : row.inference = .notRequested)
include asked

theorem lose_inference (event : EventName) : (row.lose n event).inference = .notRequested := by
  unfold Row.lose
  split
  · exact asked
  · exact (congrArg (·.move .unknown) asked).trans rfl

theorem executed_inference (outcome : Outcome) : (row.executed n outcome).inference = .notRequested := by
  cases outcome with
  | ok => exact (congrArg (·.move .completed) asked).trans rfl
  | error => exact (congrArg (·.move .failed) asked).trans rfl

end

theorem Moves.keeps_inference {n} {part} {k} {v w} (moves : Moves n part k v w) (asked : NotRequested v.row)
    (spared : ¬ (part = .cancel k true ∧ v.closed = false ∧ (∃ row, v.row = some row ∧ row.status.terminal = false) ∧
      v.runtime.isSome)) : NotRequested w.row := by
  obtain ⟨row, here, kept⟩ := asked
  have same {r : Row} (found : v.row = some r) : r.inference = .notRequested := by
    rw [found] at here
    exact Option.some.inj here ▸ kept
  cases moves with
  | skip | take | canceller | stop | execute => exact ⟨row, here, kept⟩
  | accept _ absent => exact nomatch absent.symm.trans here
  | stage _ found | answer _ _ found => exact ⟨_, rfl, (same found :)⟩
  | cancel label live found early held => exact absurd ⟨label, live, ⟨_, found, early⟩, held⟩ spared
  | early _ _ found | finishCancelled _ _ _ found =>
    exact ⟨_, rfl, (congrArg (·.move .cancelled) (same found)).trans rfl⟩
  | dispatch _ found => exact ⟨_, rfl, (congrArg (·.move .running) (same found)).trans rfl⟩
  | finish _ _ found => exact ⟨_, rfl, executed_inference (same found) _⟩
  | close => exact ⟨row.closedUnknown n, by rw [here]; rfl, lose_inference kept .closedUnknown⟩

section

variable {s t : State} {l : Label} {key : JobKey}

theorem cancels_inference (cancels : Cancels key s l) (next : step s l = some t) :
    ¬ NotRequested (t.rows.get? key) := by
  obtain ⟨g, r, row, rfl, found, alive, open_, here, early, held⟩ := cancels
  obtain ⟨runtime, present⟩ := Option.isSome_iff_exists.mp held
  obtain ⟨_, u, inner, rfl⟩ := at_section found next
  cases inner
  have written : ((s.session r).cancel key true).1.rows.get? key = some (row.requestCancel r.maxEvents) := by
    have answer : ((s.session r).cancel key true).2 = .ok (row.requestCancel r.maxEvents) := by
      have here : (s.session r).rows.get? key = some row := here
      have present : (s.session r).runtimes key = some runtime := present
      unfold Session.cancel
      rw [if_neg (by rw [show (s.session r).closed = false from open_]; exact Bool.false_ne_true), here]
      dsimp only
      rw [if_neg (by rw [early]; exact Bool.false_ne_true), present]
      dsimp only
      rw [if_pos rfl]
      split <;> rfl
    exact cancel_record answer
  rintro ⟨after, there, asked⟩
  have there : ((s.session r).cancel key true).1.rows.get? key = some after := there
  obtain rfl := Option.some.inj (written.symm.trans there)
  cases asked

theorem keeps_step (asked : NotRequested (s.rows.get? key)) (spared : ¬ Cancels key s l) (next : step s l = some t) :
    NotRequested (t.rows.get? key) := by
  cases step_effect next with
  | part label found alive inner =>
    refine (step_moves alive inner key).keeps_inference asked ?_
    rintro ⟨rfl, live, ⟨row, here, early⟩, held⟩
    exact spared ⟨_, _, row, label, found, alive, (open_iff.mp live).1, here, early, held⟩
  | crash | fail => exact asked
  | reopen =>
    obtain ⟨row, here, kept⟩ := asked
    rename_i maxEvents _ _
    refine ⟨row.recoveredUnknown maxEvents, ?_, lose_inference kept .recoveredUnknown⟩
    change Dict.get? ⟨_⟩ key = _
    rw [get?_mapRows, here]
    rfl

theorem submit_notRequested {u : Session} {parameters : Fields} {runId accepted : Text} {hasCancel ok : Bool}
    (absent : u.rows.get? key = none)
    (returned : (u.submit key parameters runId hasCancel false ok).2 = .ok accepted) :
    NotRequested ((u.submit key parameters runId hasCancel false ok).1.rows.get? key) := by
  unfold Session.submit at returned ⊢
  split at returned
  · cases returned
  split at returned
  · cases returned
  rename_i shut
  rw [if_neg shut]
  rw [absent] at returned ⊢
  dsimp only at returned ⊢
  split at returned
  · cases returned
  rename_i room
  rw [if_neg room]
  split at returned
  · cases returned
  rename_i committed
  rw [if_neg committed]
  exact ⟨_, Dict.get?_set_self, rfl⟩

/-- **A job submitted without inference never claims any, exactly if no `cancel` finds it live.** -/
theorem not_requested_iff {u v : State} {g : Nat} {r : Registry} {parameters : Fields} {runId accepted : Text}
    {hasCancel ok : Bool} {ms : List Label} (found : s.registries g = some r) (absent : s.rows.get? key = none)
    (returned : ((s.session r).submit key parameters runId hasCancel false ok).2 = .ok accepted)
    (next : step s (.at g (.submit key parameters runId hasCancel false ok)) = some u)
    (later : run step u ms = some v) :
    (∀ before after w, ms = before ++ after → run step u before = some w → NotRequested (w.rows.get? key)) ↔
      Along step (fun w l => ¬ Cancels key w l) u ms := by
  obtain ⟨_, x, inner, rfl⟩ := at_section found next
  cases inner
  have start : NotRequested
      ((s.put g ((s.session r).submit key parameters runId hasCancel false ok).1).rows.get? key) :=
    submit_notRequested absent returned
  refine along_iff_prefixes (I := fun w => NotRequested (w.rows.get? key)) ?_ start later
  exact fun a l b asked stepped =>
    ⟨fun kept cancels => cancels_inference cancels stepped kept, fun spared => keeps_step asked spared stepped⟩

end

/-! ## A job without inference -/

def quietly : State :=
  opened.put 0 ((opened.session { maxJobs := 4, maxEvents := 8 }).submit sample .empty ['1'] true false true).1

def recovered : List Label := [.at 0 (.runJob sample true), .crash 0, .open 4 8 true]

theorem not_requested_iff_recovered : ∃ t, run step quietly recovered = some t ∧
    NotRequested (t.rows.get? sample) := by
  have later : run step quietly recovered = some _ := rfl
  have spared : Along step (fun w l => ¬ Cancels sample w l) quietly recovered := by
    refine along_mono (fun _ l free => ?_) (along_of_mem (P := fun l => ∀ g, l ≠ .at g (.cancel sample true)) ?_)
    · rintro ⟨g, _, _, label, _⟩
      exact free g label
    · rintro l held g rfl
      simp [recovered] at held
  have next : step opened (.at 0 (.submit sample .empty ['1'] true false true)) = some quietly := rfl
  exact ⟨_, later,
    (not_requested_iff rfl rfl rfl next later).mpr spared recovered [] _ (List.append_nil _).symm later⟩

/-- Cancelled while it runs, it says that its inference was asked to stop. -/
theorem cancel_claims_inference : ∃ t, run step opened [.at 0 (.submit sample .empty ['1'] true false true),
      .at 0 (.runJob sample true), .at 0 (.cancel sample true)] = some t ∧ ¬ NotRequested (t.rows.get? sample) := by
  refine ⟨_, rfl, ?_⟩
  rintro ⟨row, here, asked⟩
  cases here
  cases asked

end EmbodiRun.Jobs
