/-
# Application.Retries -- when concurrent retries of one request return one run

A call that finds no job selects a snapshot and submits it with its request.  Where another call
of the request was accepted in between, there may be no fresh snapshot any more, or another one
than was submitted.
-/
import EmbodiRun.Application.Agreement
import EmbodiRun.Application.Execute
import EmbodiRun.Transition.Beside

namespace EmbodiRun.Application

open Data Devices Transition State

variable {cfg : Config} {k : JobKey} {request : Request} {s t : State} {c : CallId} {l : Label}

def Call.key (call : Call) (c : CallId) : JobKey := c.owner.key call.requestId

def Carries (k : JobKey) (request : Request) : Label → Prop
  | .check c call => call.key c = k → call.request = request
  | .task key _ _ => key ≠ k
  | _ => True

/-- Once the request is accepted, no call of the identity is refused, and one that returns returns its run. -/
def Answers (cfg : Config) (k : JobKey) (s : State) (l : Label) : Prop :=
  ∀ job, s.jobs.get? k = some job → ∀ t, step cfg s l = some t → ∀ (c : CallId) (call : Call), call.key c = k →
      (∀ refusal, t.calls c = .refused call refusal → s.calls c = .refused call refusal) ∧
        ∀ runId, t.calls c = .returned call runId → s.calls c = .returned call runId ∨ runId = job.runId

def Fits (k : JobKey) (request : Request) (accepted : Bool) (c : CallId) : Phase → Prop
  | .selecting call => call.key c = k → call.request = request ∧ request.admitted
  | .submitting call selected =>
    call.key c = k → call.request = request ∧ request.admitted ∧ bindable request selected
  | .answering call => call.key c = k → accepted
  | _ => True

structure Kept (k : JobKey) (request : Request) (s : State) : Prop where
  stored : ∀ job, s.jobs.get? k = some job → ∃ stored, job.parameters = .direct stored ∧
    request.admitted ∧ submitted request stored.selected = some stored
  calls : ∀ c, Fits k request (s.jobs.get? k).isSome c (s.calls c)

variable {phase : Phase} {key : JobKey} {selected : Option Text}

theorem Fits.mono {accepted} (fits : Fits k request accepted c phase) : Fits k request true c phase := by
  cases phase with
  | answering => exact fun _ => rfl
  | _ => exact fits

theorem Kept.put (kept : Kept k request s) (fits : Fits k request (s.jobs.get? k).isSome c phase) :
    Kept k request (s.put c phase) where
  stored := kept.stored
  calls d := by
    by_cases same : d = c
    · rw [same]
      simpa [State.put] using fits
    · simpa [State.put, same] using kept.calls d
variable {job : Job} {call : Call}

theorem get?_accept (accepted : s.accept cfg key job = some t) :
    t.jobs.get? key = some job ∧ (∀ other, other ≠ key → t.jobs.get? other = s.jobs.get? other) ∧
      t.calls = s.calls := by
  unfold accept at accepted
  split at accepted <;> cases accepted
  exact ⟨Dict.get?_set_self, fun other apart => Dict.get?_set_of_ne apart, rfl⟩

theorem Kept.accepted (kept : Kept k request s)
    (fresh : key = k → ∃ stored, job.parameters = .direct stored ∧ request.admitted ∧
      submitted request stored.selected = some stored) (accepted : s.accept cfg key job = some t) :
    Kept k request t := by
  obtain ⟨here, elsewhere, calls⟩ := get?_accept accepted
  by_cases same : key = k
  · subst same
    refine ⟨fun other found => ?_, fun c => ?_⟩
    · obtain rfl := Option.some.inj (here.symm.trans found)
      exact fresh rfl
    · rw [here, calls]
      exact (kept.calls c).mono
  · have apart := elsewhere k (Ne.symm same)
    refine ⟨fun other found => kept.stored other (apart.symm.trans found), fun c => ?_⟩
    rw [apart, calls]
    exact kept.calls c

theorem ownedRow_ok {jobs : Dict JobKey Job} : ownedRow jobs key = .ok job ↔ jobs.get? key = some job := by
  unfold ownedRow
  constructor <;> intro found
  · split at found
    · rename_i present
      rw [present, Except.ok.inj found]
    · split at found <;> cases found
  · rw [found]

theorem fits_check (carries : Carries k request (.check c call)) :
    Fits k request (s.jobs.get? k).isSome c (s.check c call) := by
  unfold check
  split
  · trivial
  rename_i admitted
  have admitted : call.request.admitted := by simpa using admitted
  split
  · rename_i job found
    split
    · intro here
      have present : s.jobs.get? k = some job := by rw [← here]; exact ownedRow_ok.mp found
      rw [present]
      rfl
    · trivial
  · intro here
    exact ⟨carries here, carries here ▸ admitted⟩
  · trivial

theorem fits_select (kept : Kept k request s) (standing : s.calls c = .selecting call) :
    Fits k request (s.jobs.get? k).isSome c (s.select cfg call) := by
  have before := kept.calls c
  rw [standing] at before
  unfold select
  split
  · trivial
  · split
    · rename_i bound
      intro here
      obtain ⟨same, admitted⟩ := before here
      exact ⟨same, admitted, same ▸ bound⟩
    · trivial

theorem kept_step (carries : Carries k request l) (kept : Kept k request s)
    (next : step cfg s l = some t) : Kept k request t := by
  cases l with simp only [step] at next
  | observe =>
    cases next
    exact ⟨kept.stored, kept.calls⟩
  | check =>
    split at next <;> cases next
    exact kept.put (fits_check carries)
  | select c =>
    split at next
    · rename_i standing
      cases next
      exact kept.put (fits_select kept standing)
    · cases next
  | submit c runId =>
    split at next
    · rename_i call selected standing
      cases next
      have before := kept.calls c
      rw [standing] at before
      unfold submit
      split
      · exact kept.put trivial
      rename_i identity given
      split
      · rename_i job found
        refine kept.put ?_
        split
        · intro here
          have present : s.jobs.get? k = some job := by rw [← here]; exact found
          rw [present]
          rfl
        · trivial
      · split
        · rename_i after accepted
          refine (kept.accepted (fun here => ?_) accepted).put fun here => ?_
          · obtain ⟨same, admitted, _⟩ := before here
            have named := (submitted_eq given).2
            exact ⟨identity, rfl, admitted, by rw [named, ← same, given]⟩
          · have present : after.jobs.get? (call.key c) = some ⟨runId, .direct identity⟩ :=
              (get?_accept accepted).1
            rw [← here, present]
            rfl
        · exact kept.put trivial
    · cases next
  | answer =>
    split at next <;> cases next
    refine kept.put ?_
    unfold answer
    split <;> trivial
  | task key payload runId =>
    cases next
    unfold task
    split
    · exact kept
    · cases accepted : s.accept cfg key ⟨runId, .task payload⟩ with
      | none => exact kept
      | some => exact kept.accepted (fun here => absurd here carries) accepted

/-! ## One step after the request was accepted -/

def showing (id : Text) : View := ⟨some id, fun other => other = id, fun _ other => other = id⟩

def observed : Config := ⟨true, true, 2⟩

/-- The first call is accepted with the snapshot `s`. -/
def accepts : List Label :=
  [.observe (showing ['s']), .select ⟨alice, 0⟩, .submit ⟨alice, 0⟩ ['x']]

def retried : List Label :=
  Label.check ⟨alice, 0⟩ plainCall :: accepts ++
    [.answer ⟨alice, 0⟩, .observe {}, .check ⟨alice, 1⟩ plainCall, .answer ⟨alice, 1⟩]

end EmbodiRun.Application
