/-
# Jobs.Moves -- what a section does to one job

A section is about one job, and `close` is about all of them alike.  A `View` is what a
registry holds of one job, and `Moves` lists the ways a section can change it.
-/
import EmbodiRun.Jobs.Registry

namespace EmbodiRun.Jobs

open Data Devices Application Transition Option Row

structure View where
  row : Option Row
  runtime : Option Runtime
  worker : Option Worker
  canceller : Option Canceller
  verdict : Option Verdict
  executions : Nat
  /-- The registry is closed, or its process is gone. -/
  closed : Bool

def Session.view (s : Session) (key : JobKey) : View where
  row := s.rows.get? key
  runtime := s.runtimes key
  worker := s.workers.get? key
  canceller := s.cancellers key
  verdict := s.verdicts key
  executions := s.executions key
  closed := s.closed || s.crashed

open Session

def Section.key? : Section → Option JobKey
  | .submit key .. | .inspect key | .recordStage key .. | .cancel key _ | .register key
  | .startCanceller key | .answer key _ | .cancelResult key _ | .discard key | .runJob key _
  | .execute key _ | .finishJob key _ => some key
  | .close .. | .join _ | .alive .. | .closeStore _ => none

/-- The ways a section of a registry with this bound on events changes the view of the job `k`. -/
inductive Moves (n : Nat) (part : Section) (k : JobKey) (v : View) : View → Prop where
  | skip : Moves n part k v v
  | accept {runId : Text} {parameters : Fields} {hasCancel inferenceRequested : Bool}
      (live : v.closed = false) (absent : v.row = none) : Moves n part k v { v with
        row := some (.accepted runId parameters inferenceRequested)
        runtime := some { hasCancel }
        worker := some .started }
  | stage {row : Row} {event : Event} (live : v.closed = false) (found : v.row = some row) :
      Moves n part k v { v with row := some (row.appendEvent n event) }
  | take {runtime : Runtime} : Moves n part k v { v with runtime := some runtime }
  | cancel {row : Row} {runtime : Runtime} {canceller : Option Canceller}
      (label : part = .cancel k true) (live : v.closed = false) (found : v.row = some row)
      (early : row.status.terminal = false) (held : v.runtime.isSome) :
      Moves n part k v { v with row := some (row.requestCancel n), runtime := some runtime, canceller }
  | canceller {canceller : Canceller} (present : v.canceller.isSome) :
      Moves n part k v { v with canceller := some canceller }
  | answer {row : Row} {answer : Outcome} {canceller : Canceller} (live : v.closed = false)
      (present : v.canceller.isSome) (found : v.row = some row)
      (asked : row.status = .cancelRequested ∨ row.status = .cancelled) : Moves n part k v { v with
        row := some (row.cancelAnswered n answer)
        canceller := some canceller
        verdict := some ⟨(row.cancelAnswered n answer).physical, errorText answer⟩ }
  | stop {runtime : Option Runtime} : Moves n part k v { v with worker := some .done, runtime }
  | early {row : Row} {runtime : Runtime} (label : part = .runJob k true) (live : v.closed = false)
      (found : v.row = some row) (asked : row.status = .cancelRequested)
      (held : v.runtime = some runtime) : Moves n part k v { v with
        row := some (row.cancelBeforeDispatch n runtime.hasCancel)
        worker := some .done
        runtime := none }
  | dispatch {row : Row} (live : v.closed = false) (found : v.row = some row)
      (accepted : row.status = .accepted) : Moves n part k v { v with
        row := some (row.dispatched n)
        worker := some .executing
        executions := v.executions + 1 }
  | execute {outcome : Outcome} (executing : v.worker = some .executing) :
      Moves n part k v { v with worker := some (.executed outcome) }
  | finishCancelled {row : Row} {outcome : Outcome} (label : part = .finishJob k true)
      (live : v.closed = false) (executed : v.worker = some (.executed outcome))
      (found : v.row = some row) : Moves n part k v { v with
        row := some (row.cancelExecuted n outcome)
        worker := some .done
        runtime := none }
  | finish {row : Row} {outcome : Outcome} (live : v.closed = false)
      (executed : v.worker = some (.executed outcome)) (found : v.row = some row)
      (free : row.cancelRequested = false) : Moves n part k v { v with
        row := some (row.executed n outcome)
        worker := some .done
        runtime := none }
  | close {c : Nat} {runtime : Option Runtime} (label : part = .close c true)
      (live : v.closed = false) : Moves n part k v { v with
        row := v.row.map (closedUnknown n)
        runtime
        closed := true }

/-! ## Sections -/

section

variable {s t : Session} {key k : JobKey}

@[simp] theorem access_view : s.access.view k = s.view k := rfl

theorem setRow_view (row : Row) :
    (s.setRow key row).view k = if k = key then { s.view k with row := some row } else s.view k := by
  by_cases same : k = key
  · subst same
    simp [setRow, view]
  · simp [setRow, view, same, Dict.get?_set_of_ne same]

theorem setWorker_view (worker : Worker) : (s.setWorker key worker).view k =
      if k = key then { s.view k with worker := some worker } else s.view k := by
  by_cases same : k = key
  · subst same
    simp [setWorker, view]
  · simp [setWorker, view, same, Dict.get?_set_of_ne same]

theorem setRuntime_view (runtime : Option Runtime) : (s.setRuntime key runtime).view k =
      if k = key then { s.view k with runtime := runtime } else s.view k := by
  by_cases same : k = key
  · subst same
    simp [setRuntime, view]
  · simp [setRuntime, view, same]

theorem setCanceller_view (canceller : Canceller) : (s.setCanceller key canceller).view k =
      if k = key then { s.view k with canceller := some canceller } else s.view k := by
  by_cases same : k = key
  · subst same
    simp [setCanceller, view]
  · simp [setCanceller, view, same]

theorem setVerdict_view (verdict : Verdict) : (s.setVerdict key verdict).view k =
      if k = key then { s.view k with verdict := some verdict } else s.view k := by
  by_cases same : k = key
  · subst same
    simp [setVerdict, view]
  · simp [setVerdict, view, same]

theorem countExecution_view : (s.countExecution key).view k =
      if k = key then { s.view k with executions := (s.view k).executions + 1 } else s.view k := by
  by_cases same : k = key
  · subst same
    simp [countExecution, view]
  · simp [countExecution, view, same]

@[simp] theorem setCloser_view (c : Nat) (closer : Closer) : (s.setCloser c closer).view k = s.view k :=
  rfl

theorem get?_mapRows {rows : Dict JobKey Row} (f : Row → Row) :
    (⟨rows.items.map fun item => (item.1, f item.2)⟩ : Dict JobKey Row).get? k = (rows.get? k).map f := by
  unfold Dict.get?
  rw [List.find?_map, map_map, map_map]
  rfl

end

section

variable {s t : Session} {k : JobKey} {part : Section}

theorem submit_moves (alive : s.crashed = false) (key : JobKey) (parameters : Fields) (runId : Text)
    (hasCancel inferenceRequested ok : Bool) :
    Moves s.maxEvents part k (s.view k)
      ((s.submit key parameters runId hasCancel inferenceRequested ok).1.view k) := by
  unfold submit
  split
  · exact .skip
  split
  · exact .skip
  rename_i shut
  split
  · exact .skip
  rename_i absent
  split
  · exact .skip
  split
  · exact .skip
  have live : (s.view k).closed = false := by simpa [view, alive] using shut
  simp only [setWorker_view, setRuntime_view, setRow_view, access_view]
  by_cases same : k = key
  · subst same
    simp only [if_pos]
    exact .accept live absent
  · simp only [if_neg same]
    exact .skip

theorem recordStage_moves (alive : s.crashed = false) (key : JobKey) (stage : Text)
    (detail : Option Text) (ok : Bool) :
    Moves s.maxEvents part k (s.view k) ((s.recordStage key stage detail ok).1.view k) := by
  unfold recordStage
  split
  · exact .skip
  rename_i shut
  split
  · exact .skip
  rename_i row found
  split
  · have live : (s.view k).closed = false := by simpa [view, alive] using shut
    simp only [setRow_view, access_view]
    by_cases same : k = key
    · subst same
      simp only [if_pos]
      exact .stage live found
    · simp only [if_neg same]
      exact .skip
  · exact .skip

theorem cancel_moves (alive : s.crashed = false) (key : JobKey) (ok : Bool) :
    Moves s.maxEvents (.cancel key ok) k (s.view k) ((s.cancel key ok).1.view k) := by
  unfold cancel
  split
  · exact .skip
  rename_i shut
  split
  · exact .skip
  rename_i row found
  split
  · exact .skip
  rename_i early
  split
  · exact .skip
  rename_i runtime held
  have live : (s.view k).closed = false := by simpa [view, alive] using shut
  by_cases same : k = key
  · subst same
    have held : (s.view k).runtime.isSome := by rw [view, held]; rfl
    have early : row.status.terminal = false := by simpa using early
    split
    · rename_i committed
      subst committed
      split
      · simp only [setCanceller_view, setRow_view, setRuntime_view, access_view, if_pos]
        exact .cancel rfl live found early held
      · simp only [setRow_view, setRuntime_view, access_view, if_pos]
        exact .cancel rfl live found early held
    · simp only [setRuntime_view, access_view, if_pos]
      exact .take
  · split
    · split
      · simp only [setCanceller_view, setRow_view, setRuntime_view, access_view, if_neg same]
        exact .skip
      · simp only [setRow_view, setRuntime_view, access_view, if_neg same]
        exact .skip
    · simp only [setRuntime_view, access_view, if_neg same]
      exact .skip
variable {key : JobKey}

theorem setCanceller_moves {canceller : Canceller} (present : (s.cancellers key).isSome) :
    Moves s.maxEvents part k (s.view k) ((s.setCanceller key canceller).view k) := by
  rw [setCanceller_view]
  split
  · rename_i same
    subst same
    exact .canceller present
  · exact .skip

theorem cancelResult_moves (alive : s.crashed = false) (answer : Outcome) (ok : Bool)
    (present : (s.cancellers key).isSome) :
    Moves s.maxEvents part k (s.view k) ((s.cancelResult key answer ok).view k) := by
  unfold cancelResult
  split
  · exact setCanceller_moves present
  rename_i shut
  split
  · exact setCanceller_moves present
  rename_i row found
  split
  · rename_i asked
    split
    · have live : (s.view k).closed = false := by simpa [view, alive] using shut
      simp only [setVerdict_view, setRow_view, access_view, setCanceller_view]
      by_cases same : k = key
      · subst same
        simp only [if_pos]
        exact .answer live present found asked
      · simp only [if_neg same]
        exact .skip
    · exact setCanceller_moves present
  · exact setCanceller_moves present

theorem returned_moves (key : JobKey) : Moves s.maxEvents part k (s.view k) ((s.setWorker key .done).view k) := by
  rw [setWorker_view]
  split
  · exact .stop
  · exact .skip

theorem popped_moves (key : JobKey) :
    Moves s.maxEvents part k (s.view k) (((s.setWorker key .done).setRuntime key none).view k) := by
  rw [setRuntime_view, setWorker_view]
  split
  · exact .stop
  · exact .skip

theorem runJob_moves (alive : s.crashed = false) (key : JobKey) (ok : Bool) :
    Moves s.maxEvents (.runJob key ok) k (s.view k) ((s.runJob key ok).view k) := by
  unfold runJob
  split
  · exact returned_moves key
  rename_i runtime held
  split
  · exact returned_moves key
  rename_i shut
  split
  · exact returned_moves key
  rename_i row found
  have live : (s.view k).closed = false := by simpa [view, alive] using shut
  split
  · rename_i asked
    split
    · rename_i committed
      subst committed
      by_cases same : k = key
      · subst same
        simp only [setRuntime_view, setRow_view, access_view, setWorker_view, if_pos]
        exact .early rfl live found asked held
      · simp only [setRuntime_view, setRow_view, access_view, setWorker_view, if_neg same]
        exact .skip
    · exact returned_moves key
  · rename_i accepted
    split
    · simp only [countExecution_view, setWorker_view, setRow_view, access_view]
      by_cases same : k = key
      · subst same
        simp only [if_pos]
        exact .dispatch live found accepted
      · simp only [if_neg same]
        exact .skip
    · exact returned_moves key
  · exact returned_moves key

theorem finishJob_moves (alive : s.crashed = false) {outcome : Outcome} (ok : Bool)
    (executed : s.workers.get? key = some (.executed outcome)) :
    Moves s.maxEvents (.finishJob key ok) k (s.view k) ((s.finishJob key outcome ok).view k) := by
  unfold finishJob
  split
  · exact popped_moves key
  rename_i shut
  split
  · exact popped_moves key
  rename_i row found
  split
  · rename_i committed
    subst committed
    have live : (s.view k).closed = false := by simpa [view, alive] using shut
    by_cases same : k = key
    · subst same
      simp only [setRuntime_view, setRow_view, access_view, setWorker_view, if_pos]
      split
      · exact .finishCancelled rfl live executed found
      · rename_i free
        have free : row.cancelRequested = false := by
          rw [Bool.or_eq_true, not_or] at free
          exact Bool.eq_false_of_not_eq_true free.2
        exact .finish live executed found free
    · simp only [setRuntime_view, setRow_view, access_view, setWorker_view, if_neg same]
      exact .skip
  · exact returned_moves key

theorem close_moves (alive : s.crashed = false) (c : Nat) (ok : Bool) :
    Moves s.maxEvents (.close c ok) k (s.view k) ((s.close c ok).view k) := by
  unfold close
  split
  · exact .skip
  split
  · exact .skip
  rename_i shut
  have live : (s.view k).closed = false := by simpa [view, alive] using shut
  split
  · rename_i committed
    subst committed
    have seen : ({ s.access.setCloser c (.joining s.threads s.threads) with
          rows := ⟨s.rows.items.map fun item => (item.1, item.2.closedUnknown s.maxEvents)⟩
          closed := true
          runtimes := fun key =>
            (s.runtimes key).map fun runtime => { runtime with cancelEvent := true } } : Session).view k =
        { s.view k with
          row := (s.view k).row.map (closedUnknown s.maxEvents)
          runtime := (s.runtimes k).map fun runtime => { runtime with cancelEvent := true }
          closed := true } := by
      simp only [view, get?_mapRows]
      rfl
    exact seen ▸ .close rfl live
  · exact .skip

/-- **A section changes the view of a job in one of the ways of `Moves`.** -/
theorem step_moves (alive : s.crashed = false) (next : s.step part = some t) (k : JobKey) :
    Moves s.maxEvents part k (s.view k) (t.view k) := by
  cases part with simp only [Session.step] at next
  | submit =>
    cases next
    exact submit_moves alive ..
  | inspect =>
    cases next
    unfold inspect
    split
    · exact .skip
    split <;> exact .skip
  | recordStage =>
    cases next
    exact recordStage_moves alive ..
  | cancel key ok =>
    cases next
    exact cancel_moves alive key ok
  | register key =>
    split at next
    · rename_i chosen
      cases next
      have present : (s.cancellers key).isSome := by rw [chosen]; rfl
      unfold register
      split <;> exact setCanceller_moves present
    · cases next
  | startCanceller key =>
    split at next
    · rename_i registered
      cases next
      exact setCanceller_moves (by rw [registered]; rfl)
    · cases next
  | answer key answer =>
    split at next
    · rename_i calling
      cases next
      exact setCanceller_moves (by rw [calling]; rfl)
    · cases next
  | cancelResult key ok =>
    split at next
    · rename_i answer answered
      cases next
      exact cancelResult_moves alive answer ok (by rw [answered]; rfl)
    · cases next
  | discard key =>
    split at next
    · rename_i clearing
      cases next
      have present : (s.cancellers key).isSome := by rw [clearing]; rfl
      exact setCanceller_moves present
    · cases next
  | runJob key ok =>
    split at next <;> cases next
    exact runJob_moves alive key ok
  | execute key outcome =>
    split at next
    · rename_i executing
      cases next
      rw [setWorker_view]
      split
      · rename_i same
        subst same
        exact .execute executing
      · exact .skip
    · cases next
  | finishJob key ok =>
    split at next
    · rename_i outcome executed
      cases next
      exact finishJob_moves alive ok executed
    · cases next
  | close c ok =>
    split at next <;> cases next
    exact close_moves alive c ok
  | join =>
    split at next
    · split at next <;> obtain rfl := Option.some.inj next <;> exact .skip
    · cases next
  | alive =>
    split at next
    · split at next
      · cases next
        exact .skip
      split at next <;> cases next
      exact .skip
    · cases next
  | closeStore =>
    split at next <;> cases next
    exact .skip

end

/-! ## What the moves keep -/

/-- A row is sound; a job that was not dispatched was not executed, and none was twice. -/
structure Counted (row : Option Row) (executions : Nat) : Prop where
  sound : ∀ found, row = some found → found.Sound
  unrun : (∀ found, row = some found → found.status = .accepted) → executions = 0
  once : executions ≤ 1

/-- `execute` is running, or its last section is to come. -/
def Worker.busy : Worker → Bool
  | .executing | .executed _ => true
  | .started | .done => false

structure View.Held (v : View) : Prop where
  running : ∀ worker, v.worker = some worker → worker.busy = true →
    ∃ row, v.row = some row ∧ (row.status = .running ∨ row.status = .cancelRequested)
  asked : v.canceller.isSome ∨ v.verdict.isSome → ∃ row, v.row = some row ∧ row.cancelRequested = true

variable {n : Nat} {part : Section} {k : JobKey} {v w : View}

theorem Moves.shut (moves : Moves n part k v w) (closed : v.closed = true) :
    w.row = v.row ∧ w.executions = v.executions ∧ w.closed = true := by
  cases moves with
  | skip | take | canceller | stop | execute => exact ⟨rfl, rfl, closed⟩
  | accept live | stage live | cancel _ live | answer live | early _ live | dispatch live
  | finishCancelled _ live | finish live | close _ live => rw [closed] at live; cases live

theorem sound_lose {row : Row} (sound : row.Sound) (event : EventName) : (row.lose n event).Sound where
  asked := by
    rw [lose_status, lose_cancelRequested]
    split
    · exact sound.asked
    · nofun
  ends := by
    rw [lose_status, lose_cancelRequested]
    split
    · exact sound.ends
    · exact fun _ => .inr (.inr rfl)

theorem counted_lose {row : Option Row} {executions : Nat} (counted : Counted row executions)
    (event : EventName) : Counted (row.map fun row => row.lose n event) executions where
  sound found here := by
    obtain ⟨row, held, rfl⟩ := Option.map_eq_some_iff.mp here
    exact sound_lose (counted.sound row held) event
  unrun early := by
    refine counted.unrun fun row held => ?_
    have status := early _ (Option.map_eq_some_iff.mpr ⟨row, held, rfl⟩)
    rw [lose_status] at status
    split at status
    · exact status
    · cases status
  once := counted.once

theorem follows_lose (row : Option Row) (event : EventName) :
    Follows (row.map status) ((row.map fun row => row.lose n event).map status) := by
  cases row with
  | none => exact .stay none
  | some row =>
    simp only [map_some, lose_status]
    split
    · exact .stay _
    · rename_i live
      exact .next (.lose (Bool.eq_false_of_not_eq_true live))

theorem Moves.follows (moves : Moves n part k v w) (held : v.closed = false → v.Held)
    (counted : Counted v.row v.executions) :
    Follows (v.row.map status) (w.row.map status) := by
  cases moves with
  | skip | take | canceller | stop | execute => exact .stay _
  | accept live absent => rw [absent]; exact .accept
  | stage live found | answer live present found => rw [found]; exact .stay _
  | cancel label live found early =>
    rename_i row _ _ _
    rw [found]
    simp only [map_some]
    cases status : row.status with
    | accepted => exact .next (.request (.inl rfl))
    | running => exact .next (.request (.inr rfl))
    | cancelRequested => exact .stay _
    | completed | failed | cancelled | unknown => rw [status] at early; cases early
  | early label live found asked =>
    rw [found, map_some, asked]
    exact .next .requested
  | dispatch live found accepted =>
    rw [found, map_some, accepted]
    exact .next .run
  | finishCancelled label live executed found =>
    obtain ⟨row, here, status⟩ := (held live).running _ executed rfl
    obtain rfl := Option.some.inj (found.symm.trans here)
    rw [found, map_some]
    rcases status with status | status <;> rw [status]
    · exact .next .cancel
    · exact .next .requested
  | finish live executed found free =>
    rename_i row outcome
    obtain ⟨other, here, status⟩ := (held live).running _ executed rfl
    obtain rfl := Option.some.inj (found.symm.trans here)
    have running : row.status = .running := by
      refine status.resolve_right fun asked => ?_
      rw [(counted.sound row found).asked asked] at free
      cases free
    rw [found, map_some, map_some, running]
    have status : (row.executed n outcome).status = .completed ∨
        (row.executed n outcome).status = .failed := row.executed_status outcome
    rcases status with status | status <;> rw [status]
    · exact .next .complete
    · exact .next .fail
  | close => exact follows_lose v.row .closedUnknown

theorem Moves.counted (moves : Moves n part k v w) (counted : Counted v.row v.executions) :
    Counted w.row w.executions := by
  have ⟨sound, unrun, once⟩ := counted
  -- A row that is not accepted any more says nothing about the executions.
  have moved {row : Row} (other : row.status ≠ .accepted) :
      (∀ found, some row = some found → found.status = .accepted) → v.executions = 0 :=
    fun early => absurd (early row rfl) other
  cases moves with
  | skip | take | canceller | stop | execute => exact counted
  | accept live absent =>
    refine ⟨fun found here => ?_, fun _ => unrun fun found here => ?_, once⟩
    · cases here
      exact ⟨nofun, nofun⟩
    · rw [absent] at here
      cases here
  | stage live found | answer live present found =>
    refine ⟨fun other here => ?_, fun early => unrun fun other here => ?_, once⟩
    · cases here
      have before := sound _ found
      exact ⟨before.asked, before.ends⟩
    · obtain rfl := Option.some.inj (found.symm.trans here)
      have status := early _ rfl
      exact status
  | cancel =>
    refine ⟨fun other here => ?_, moved nofun, once⟩
    cases here
    exact ⟨fun _ => rfl, fun _ => .inl rfl⟩
  | early | finishCancelled =>
    refine ⟨fun other here => ?_, moved nofun, once⟩
    cases here
    exact ⟨nofun, fun _ => .inr (.inl rfl)⟩
  | dispatch live found accepted =>
    rename_i row
    have none : v.executions = 0 := by
      refine unrun fun other here => ?_
      obtain rfl := Option.some.inj (found.symm.trans here)
      exact accepted
    refine ⟨fun other here => ?_, fun early => ?_, by dsimp only; omega⟩
    · cases here
      refine ⟨nofun, fun asked => ?_⟩
      have before := (sound row found).ends asked
      rw [accepted] at before
      rcases before with before | before | before <;> cases before
    · exact absurd (early _ rfl) nofun
  | finish live executed found free =>
    rename_i row outcome
    have status : (row.executed n outcome).status = .completed ∨
        (row.executed n outcome).status = .failed := row.executed_status outcome
    refine ⟨fun other here => ?_, moved ?_, once⟩
    · cases here
      refine ⟨fun asked => ?_, fun asked => ?_⟩
      · rw [asked] at status
        rcases status with status | status <;> cases status
      · rw [executed_cancelRequested, free] at asked
        cases asked
    · rcases status with status | status <;> rw [status] <;> nofun
  | close => exact counted_lose counted .closedUnknown

theorem Moves.held (moves : Moves n part k v w) (held : v.closed = false → v.Held)
    (counted : Counted v.row v.executions) (live : w.closed = false) : w.Held := by
  -- The job has no busy worker any more.
  have idle {row : Option Row} : ∀ worker, some Worker.done = some worker → worker.busy = true →
      ∃ found, row = some found ∧ (found.status = .running ∨ found.status = .cancelRequested) := by
    intro worker here busy
    cases here
    cases busy
  cases moves with
  | skip => exact held live
  | take => exact ⟨(held live).running, (held live).asked⟩
  | canceller present =>
    exact ⟨(held live).running, fun _ => (held live).asked (.inl present)⟩
  | stop => exact ⟨idle, (held live).asked⟩
  | execute executing =>
    exact ⟨fun _ _ _ => (held live).running _ executing rfl, (held live).asked⟩
  | accept _ absent =>
    refine ⟨fun worker here busy => ?_, fun there => ?_⟩
    · cases here
      cases busy
    · obtain ⟨row, found, _⟩ := (held live).asked there
      rw [absent] at found
      cases found
  | stage _ found =>
    refine ⟨fun worker here busy => ?_, fun there => ?_⟩
    · obtain ⟨row, before, status⟩ := (held live).running worker here busy
      obtain rfl := Option.some.inj (found.symm.trans before)
      exact ⟨_, rfl, status⟩
    · obtain ⟨row, before, asked⟩ := (held live).asked there
      obtain rfl := Option.some.inj (found.symm.trans before)
      exact ⟨_, rfl, asked⟩
  | cancel =>
    exact ⟨fun _ _ _ => ⟨_, rfl, .inr rfl⟩, fun _ => ⟨_, rfl, rfl⟩⟩
  | answer _ present found =>
    obtain ⟨row, before, flag⟩ := (held live).asked (.inl present)
    obtain rfl := Option.some.inj (found.symm.trans before)
    refine ⟨fun worker here busy => ?_, fun _ => ⟨_, rfl, flag⟩⟩
    obtain ⟨other, before, status⟩ := (held live).running worker here busy
    obtain rfl := Option.some.inj (found.symm.trans before)
    exact ⟨_, rfl, status⟩
  | early label _ found asked =>
    exact ⟨idle, fun _ => ⟨_, rfl, (counted.sound _ found).asked asked⟩⟩
  | dispatch _ found =>
    refine ⟨fun _ _ _ => ⟨_, rfl, .inl rfl⟩, fun there => ?_⟩
    obtain ⟨row, before, flag⟩ := (held live).asked there
    obtain rfl := Option.some.inj (found.symm.trans before)
    exact ⟨_, rfl, flag⟩
  | finishCancelled label _ executed found =>
    refine ⟨idle, fun there => ?_⟩
    obtain ⟨row, before, flag⟩ := (held live).asked there
    obtain rfl := Option.some.inj (found.symm.trans before)
    exact ⟨_, rfl, flag⟩
  | finish _ executed found free =>
    refine ⟨idle, fun there => ?_⟩
    obtain ⟨row, before, flag⟩ := (held live).asked there
    obtain rfl := Option.some.inj (found.symm.trans before)
    rw [flag] at free
    cases free
  | close => cases live

theorem Moves.lost (moves : Moves n part k v w) (before : v.row.map status ≠ some .unknown)
    (after : w.row.map status = some .unknown) : ∃ c, part = .close c true := by
  cases moves with
  | skip | take | canceller | stop | execute => exact absurd after before
  | stage _ found | answer _ _ found =>
    rw [found] at before
    exact absurd after before
  | accept | cancel | early | dispatch | finishCancelled =>
    have other := Option.some.inj after
    cases other
  | finish _ _ found =>
    rename_i row outcome _ _ _
    have status : (row.executed n outcome).status = .completed ∨
        (row.executed n outcome).status = .failed := row.executed_status outcome
    have other : (row.executed n outcome).status = .unknown := Option.some.inj after
    rw [other] at status
    rcases status with status | status <;> cases status
  | close label => exact ⟨_, label⟩

theorem Moves.kept (moves : Moves n part k v w) {row} (found : v.row = some row) :
    ∃ later, w.row = some later ∧ later.runId = row.runId ∧ later.parameters = row.parameters := by
  cases moves with
  | skip | take | canceller | stop | execute => exact ⟨row, found, rfl, rfl⟩
  | accept _ absent => rw [absent] at found; cases found
  | stage _ here | cancel _ _ here | answer _ _ here | early _ _ here | dispatch _ here
  | finishCancelled _ _ _ here =>
    obtain rfl := Option.some.inj (here.symm.trans found)
    exact ⟨_, rfl, rfl, rfl⟩
  | finish _ _ here =>
    obtain rfl := Option.some.inj (here.symm.trans found)
    exact ⟨_, rfl, executed_kept _⟩
  | close => exact ⟨_, by rw [found]; rfl, lose_kept _⟩

end EmbodiRun.Jobs
