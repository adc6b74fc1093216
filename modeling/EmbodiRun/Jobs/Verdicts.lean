/-
# Jobs.Verdicts -- what becomes of the result of a cancel callback

The cancel callback reports whether the device stopped.  Its result is committed to the row
of the job, where three other transactions write the same two columns: a repeated `cancel`,
the end of the execution, and the worker that finds the job cancelled before it ran.

* `verdict_kept_iff`: **every later record reports the verdict exactly where every step spares
  it**.
-/
import EmbodiRun.Jobs.Lifecycle

namespace EmbodiRun.Jobs

open Data Devices Application Transition

/-- The record of the job reports the verdict of its cancel callback, and its error if there was
one. -/
def View.Told (v : View) : Prop :=
  ∀ verdict, v.verdict = some verdict → ∃ row, v.row = some row ∧
    row.physical = verdict.physical ∧ ∀ text, verdict.error = some text → row.error = some text

def State.Told (s : State) : Prop :=
  ∀ g r, s.registries g = some r → ∀ k, ((s.session r).view k).closed = false → ((s.session r).view k).Told

/-- What the section would write over the verdict of the job `k` is the verdict. -/
structure View.Spares (v : View) (part : Section) (k : JobKey) (verdict : Verdict) (row : Row) :
    Prop where
  /-- A repeated `cancel`. -/
  cancel : part = .cancel k true → row.status.terminal = false → v.runtime.isSome → verdict.physical = .stopRequested
  /-- The worker comes after the callback. -/
  early : part = .runJob k true → row.status = .cancelRequested → ∀ runtime, v.runtime = some runtime →
      verdict.physical = if runtime.hasCancel then .stopRequested else .stopUnconfirmed
  /-- The execution ends after the callback. -/
  finish : part = .finishJob k true → ∀ outcome, v.worker = some (.executed outcome) →
    verdict.physical ≠ .stopRequested ∧ ∀ text, verdict.error = some text → errorText outcome = some text

def Spares (s : State) : Label → Prop
  | .at g part => ∀ r, s.registries g = some r → ∀ k, ((s.session r).view k).closed = false →
      ∀ verdict row, r.verdicts k = some verdict → s.rows.get? k = some row →
        ((s.session r).view k).Spares part k verdict row
  | .crash _ | .open .. => True

/-! ## Steps that spare the verdict -/

section

variable {n : Nat} {part : Section} {k : JobKey} {v w : View}

theorem Moves.told (moves : Moves n part k v w) (live : w.closed = false) (held : v.Held) (told : v.Told)
    (spares : ∀ verdict row, v.verdict = some verdict → v.row = some row → v.Spares part k verdict row) : w.Told := by
  cases moves with
  | skip | take | canceller | stop | execute => exact told
  | close => cases live
  | accept _ absent =>
    intro verdict here
    obtain ⟨row, found, _⟩ := told verdict here
    rw [absent] at found
    cases found
  | stage _ found | dispatch _ found =>
    intro verdict here
    obtain ⟨row, before, physical, error⟩ := told verdict here
    obtain rfl := Option.some.inj (found.symm.trans before)
    exact ⟨_, rfl, physical, error⟩
  | cancel label _ found early runtime =>
    intro verdict here
    obtain ⟨row, before, physical, error⟩ := told verdict here
    obtain rfl := Option.some.inj (found.symm.trans before)
    exact ⟨_, rfl, ((spares verdict _ here found).cancel label early runtime).symm, error⟩
  | answer =>
    intro verdict here
    cases here
    refine ⟨_, rfl, rfl, fun text error => ?_⟩
    have error : errorText _ = some text := error
    change (errorText _).or _ = _
    rw [error]
    rfl
  | early label _ found asked runtime =>
    intro verdict here
    obtain ⟨row, before, physical, error⟩ := told verdict here
    obtain rfl := Option.some.inj (found.symm.trans before)
    exact ⟨_, rfl, ((spares verdict _ here found).early label asked _ runtime).symm, error⟩
  | finishCancelled label _ executed found =>
    rename_i row outcome _
    intro verdict here
    obtain ⟨before, there, physical, error⟩ := told verdict here
    obtain rfl := Option.some.inj (found.symm.trans there)
    have ⟨other, same⟩ := (spares verdict _ here found).finish label outcome executed
    refine ⟨_, rfl, ?_, same⟩
    change (if row.physical = .stopRequested then _ else row.physical) = _
    rw [physical, if_neg other]
  | finish _ executed found free =>
    intro verdict here
    obtain ⟨row, before, asked⟩ := held.asked (.inr (by rw [show v.verdict = some verdict from here]; rfl))
    obtain rfl := Option.some.inj (found.symm.trans before)
    rw [asked] at free
    cases free

end

section

variable {s t : State} {l : Label}

theorem told_step (good : Good s) (told : s.Told) (spares : Spares s l) (next : step s l = some t) : t.Told := by
  cases step_effect next with
  | part label found alive inner =>
    rename_i g r part u
    subst label
    intro h q there k live
    rw [put_registry] at there
    split at there
    · cases there
      have before : ((s.session r).view k).closed = false := by
        by_contra dead
        have after := ((step_moves alive inner k).shut (Bool.eq_true_of_not_eq_false dead)).2.2
        rw [show (u.view k).closed = false from live] at after
        cases after
      exact (step_moves alive inner k).told live (good.held g r found k before)
        (told g r found k before) (spares r found k before)
    · rename_i other
      rw [other_view good found alive inner other there live] at live ⊢
      exact told h q there k live
  | crash found =>
    rename_i g r
    intro h q there k live
    by_cases same : h = g
    · subst same
      simp only [Function.update_self] at there
      cases there
      cases (open_iff.mp live).2
    · simp only [Function.update_of_ne same] at there
      exact told h q there k live
  | reopen =>
    intro h q there k live
    by_cases same : h = s.next
    · subst same
      change Function.update s.registries s.next _ s.next = _ at there
      rw [Function.update_self] at there
      cases there
      intro verdict here
      cases here
    · have later := (good_step good next).last h q there (open_iff.mp live).1 (open_iff.mp live).2
      exact absurd (Nat.succ.inj later) same
  | fail => exact told

end

/-! ## Steps that do not -/

section

variable {s : Session} {k : JobKey} {row : Row}

theorem cancel_writes (shut : s.closed = false) (found : s.rows.get? k = some row)
    (early : row.status.terminal = false) {runtime} (held : s.runtimes k = some runtime) :
    (s.cancel k true).1.rows.get? k = some (row.requestCancel s.maxEvents) ∧
      (s.cancel k true).1.verdicts = s.verdicts := by
  unfold Session.cancel
  rw [if_neg (by rw [shut]; nofun), found]
  dsimp only
  rw [if_neg (by rw [early]; nofun), held]
  dsimp only
  rw [if_pos rfl]
  split <;> exact ⟨Dict.get?_set_self, rfl⟩

theorem runJob_writes (shut : s.closed = false) (found : s.rows.get? k = some row)
    (asked : row.status = .cancelRequested) {runtime} (held : s.runtimes k = some runtime) :
    (s.runJob k true).rows.get? k = some (row.cancelBeforeDispatch s.maxEvents runtime.hasCancel) ∧
      (s.runJob k true).verdicts = s.verdicts := by
  unfold Session.runJob
  rw [held]
  dsimp only
  rw [if_neg (by rw [shut]; nofun), found]
  dsimp only
  rw [asked]
  exact ⟨Dict.get?_set_self, rfl⟩

theorem finishJob_writes (shut : s.closed = false) (found : s.rows.get? k = some row)
    (asked : row.cancelRequested = true) (outcome : Outcome) :
    (s.finishJob k outcome true).rows.get? k = some (row.cancelExecuted s.maxEvents outcome) ∧
      (s.finishJob k outcome true).verdicts = s.verdicts := by
  unfold Session.finishJob
  dsimp only
  rw [if_neg (by rw [shut]; nofun), found]
  dsimp only
  rw [if_pos rfl, asked, Bool.or_true, if_pos rfl]
  exact ⟨Dict.get?_set_self, rfl⟩

end

section

variable {s t : State} {l : Label}

theorem told_written {g} {u} (told : (s.put g u).Told) {k}
    (live : (u.view k).closed = false) {verdict} (here : u.verdicts k = some verdict)
    {row} (written : u.rows.get? k = some row) :
    row.physical = verdict.physical ∧ ∀ text, verdict.error = some text → row.error = some text := by
  have there : (s.put g u).registries g = some u.toRegistry := by rw [put_registry, if_pos rfl]
  obtain ⟨later, found, same⟩ := told g u.toRegistry there k live verdict here
  obtain rfl := Option.some.inj (written.symm.trans found)
  exact same

theorem spares_of_told (good : Good s) (told : s.Told) (next : step s l = some t) (after : t.Told) : Spares s l := by
  cases l with
  | crash | «open» => trivial
  | «at» g part =>
    intro r found k live verdict row here written
    obtain ⟨shut, _⟩ := open_iff.mp live
    obtain ⟨_, u, inner, rfl⟩ := at_section found next
    have open_after (about : part.key? = some k) : (u.view k).closed = false := by
      have same := (passes_step inner about).same
      change (u.closed || u.crashed) = false
      rw [same.closed, same.crashed]
      exact live
    have shut : (s.session r).closed = false := shut
    have written : (s.session r).rows.get? k = some row := written
    refine ⟨?_, ?_, ?_⟩
    · rintro rfl early held
      obtain ⟨runtime, held⟩ := Option.isSome_iff_exists.mp held
      cases inner
      obtain ⟨new, verdicts⟩ := cancel_writes shut written early held
      exact (told_written after (open_after rfl) (by rw [verdicts]; exact here) new).1.symm
    · rintro rfl asked runtime held
      simp only [Session.step] at inner
      split at inner <;> cases inner
      obtain ⟨new, verdicts⟩ := runJob_writes shut written asked held
      exact (told_written after (open_after rfl) (by rw [verdicts]; exact here) new).1.symm
    · rintro rfl outcome executed
      obtain ⟨before, there, flag⟩ := (good.held g r found k live).asked
        (.inr (Option.isSome_iff_exists.mpr ⟨verdict, here⟩))
      obtain rfl := Option.some.inj (written.symm.trans there)
      have executed : (s.session r).workers.get? k = some (.executed outcome) := executed
      simp only [Session.step, executed] at inner
      cases inner
      obtain ⟨new, verdicts⟩ := finishJob_writes shut written flag outcome
      have kept : ((s.session r).finishJob k outcome true).verdicts k = some verdict := by
        rw [verdicts]
        exact here
      obtain ⟨physical, error⟩ := told_written after (open_after rfl) kept new
      refine ⟨fun requested => ?_, error⟩
      obtain ⟨_, there, before, _⟩ := told g r found k live verdict here
      obtain rfl := Option.some.inj (written.symm.trans there)
      change (if row.physical = .stopRequested then .stopUnconfirmed else row.physical) = _ at physical
      rw [before, requested, if_pos rfl] at physical
      cases physical

/-- **Every record reports the verdict of the cancel callback** exactly when every step spares it. -/
theorem verdict_kept_iff {ls : List Label} (ran : run step {} ls = some s) :
    (∀ before after u, ls = before ++ after → run step {} before = some u → u.Told) ↔ Along step Spares {} ls :=
  along_iff_prefixes_of (I := fun s => Good s ∧ s.Told) (fun _ both => both.2) (fun _ _ _ spares both next =>
      ⟨good_step both.1 next, told_step both.1 both.2 spares next⟩)
    (fun _ _ _ both next after => spares_of_told both.1 both.2 next after)
    ⟨good_init, fun _ r found => (Option.some_ne_none r found.symm).elim⟩ ran

end

/-! ## A stop that is confirmed, and then forgotten -/

/-- The job runs, is cancelled, and the cancel callback says that the device stopped. -/
def stopped : List Label :=
  running ++ [.at 0 (.cancel sample true), .at 0 (.register sample), .at 0 (.startCanceller sample),
    .at 0 (.answer sample (.ok (.number (.bool true)))), .at 0 (.cancelResult sample true)]

theorem verdict_kept_stopped : ∃ s, run step {} stopped = some s ∧
    ((∀ before after u, stopped = before ++ after → run step {} before = some u → u.Told) ↔
      Along step Spares {} stopped) := by
  have ran : run step {} stopped = some _ := rfl
  exact ⟨_, ran, verdict_kept_iff ran⟩

/-- A second `cancel` turns the confirmed stop into a request, and the end turns that into none. -/
theorem verdict_lost : ∃ s u t r q, run step {} stopped = some s ∧ s.registries 0 = some r ∧
    r.verdicts sample = some ⟨.stopped, none⟩ ∧
    (s.rows.get? sample).map Row.physical = some .stopped ∧
    step s (.at 0 (.cancel sample true)) = some u ∧
    (u.rows.get? sample).map Row.physical = some .stopRequested ∧
    run step u [.at 0 (.execute sample (.ok .null)), .at 0 (.finishJob sample true)] = some t ∧
    t.registries 0 = some q ∧ q.closed = false ∧ q.crashed = false ∧
    (t.rows.get? sample).map Row.physical = some .stopUnconfirmed ∧ ¬t.Told := by
  refine ⟨_, _, _, _, _, rfl, rfl, rfl, rfl, rfl, rfl, rfl, rfl, rfl, rfl, rfl, fun told => ?_⟩
  obtain ⟨row, found, physical, _⟩ := told 0 _ rfl sample rfl ⟨.stopped, none⟩ rfl
  have written := Option.some.inj found
  rw [← written] at physical
  cases physical

end EmbodiRun.Jobs
