/-
# Io.Frame -- who moves what in the scheduler

The worker, the callers and the threads of preemptive stops share one state; most of it is
moved by one of them only.
-/
import EmbodiRun.Io.Quarantine

namespace EmbodiRun.Io.Scheduler

open Function

variable {cfg : Config} {s t : State} {l : Label}

/-! ## The worker -/

def Label.ofWorker : Label → Bool
  | .take | .check _ | .call | .replies _ | .settle => true
  | _ => false

theorem expire_withdrawn (c : CallId) {r} (unbegun : ¬ ((s.requests r).started = true ∨ ¬ s.motion r)) :
    s.expire c r = { s with
      requests := update s.requests r { s.requests r with cancelled := true }
      queue := s.queue.erase r
      queuedReads :=
        if r ∈ s.queue ∧ (s.requests r).operation = .read then s.queuedReads - 1 else s.queuedReads
      calls := update s.calls c (.answered (immediate (s.requests r).operation
        (if (s.requests r).cancelEvent.isSome then .cancelled else .unknown))) } := by
  have unbegun : (!(s.requests r).started) = true ∧ (s.requests r).operation ≠ .stop := by
    simpa [State.motion] using unbegun
  unfold State.expire
  dsimp only
  rw [if_pos unbegun]
  by_cases queued : r ∈ s.queue
  · simp [State.setRequest, State.setCall, queued]
  · simp [State.setRequest, State.setCall, queued, List.erase_of_not_mem]

theorem expire_begun (c : CallId) {r} (begun : (s.requests r).started = true ∨ ¬ s.motion r) :
    s.expire c r = (s.enterQuarantine.setRequest r fun request =>
      { request with detached := true }).setCall c
        (.answered (immediate (s.requests r).operation .unknown true)) := by
  have begun : ¬ ((!(s.requests r).started) = true ∧ (s.requests r).operation ≠ .stop) := by
    simpa [State.motion, or_iff_not_imp_left] using begun
  unfold State.expire
  dsimp only
  rw [if_neg begun]

/-- The worker has taken `r` off the queue, of which `rest` is left. -/
def State.popped (r : RequestId) (rest : List RequestId) (s : State) : State :=
  { s with
    queue := rest
    queuedReads := if (s.requests r).operation = .read then s.queuedReads - 1 else s.queuedReads
    queuedStop := if s.queuedStop = some r then none else s.queuedStop }

open State

/-- The first section of `_run`: it ends, passes over a cancelled request, or takes one. -/
inductive Taken (s : State) : State → Prop
  | ends (empty : s.queue = []) : Taken s { s with worker := .ended }
  | skips (r rest) (queue : s.queue = r :: rest) (cancelled : (s.requests r).cancelled = true) :
      Taken s ((s.popped r rest).setRequest r fun request =>
        { request with
          result := some (immediate request.operation .cancelled)
          done := true })
  | takes (r rest) (queue : s.queue = r :: rest) (live : (s.requests r).cancelled = false) :
      Taken s (setRequest r (fun request => { request with started := true })
        { s.popped r rest with active := some r, worker := .taken r })

theorem take_cases (next : s.take = some t) : (s.closed = true ∨ s.preemptiveActive = false) ∧ Taken s t := by
  unfold take at next
  split at next
  · cases next
  rename_i awake
  refine ⟨?_, ?_⟩
  · grind
  split at next <;> rename_i queue
  · cases next
    exact .ends queue
  · rename_i r rest
    cases next
    dsimp only
    split
    · exact .skips r rest queue ‹_›
    · exact .takes r rest queue (Bool.eq_false_iff.mpr ‹_›)

structure SameWorker (s t : State) : Prop where
  worker : t.worker = s.worker
  active : t.active = s.active
  invoked : t.invoked = s.invoked

section

variable (c : CallId) (s)

theorem discardMotion_sameWorker (status : IOStatus) (quarantined : Bool) :
    SameWorker s (s.discardMotion status quarantined) := by
  rw [discardMotion_eq]
  exact ⟨rfl, rfl, rfl⟩

theorem enterQuarantine_sameWorker : SameWorker s s.enterQuarantine := by
  obtain ⟨worker, active, invoked⟩ :=
    discardMotion_sameWorker { s with quarantined := true } .unknown true
  exact ⟨worker, active, invoked⟩

theorem submit_sameWorker (operation : IOOperation) (args : Submission) (clock : ℚ) :
    SameWorker s (s.submit cfg c operation args clock) :=
  submit_cases (P := SameWorker s) c clock (fun _ => ⟨rfl, rfl, rfl⟩) (fun _ _ _ => ⟨rfl, rfl, rfl⟩)
    fun _ _ _ => ⟨rfl, rfl, rfl⟩

theorem close_sameWorker (wait : Option Number) : SameWorker s (s.close c wait) := by
  unfold close
  split
  · exact ⟨rfl, rfl, rfl⟩
  split
  · exact ⟨rfl, rfl, rfl⟩
  · obtain ⟨worker, active, invoked⟩ :=
      discardMotion_sameWorker { s with closed := true } .cancelled false
    exact ⟨worker, active, invoked⟩

theorem start_sameWorker (op : Operation) (clock : ℚ) : SameWorker s (s.start cfg c op clock) := by
  cases op with
  | execute args => exact submit_sameWorker s c .execute args clock
  | read => exact submit_sameWorker s c .read _ clock
  | stop =>
    simp only [start, preempt]
    split
    · split <;> exact ⟨rfl, rfl, rfl⟩
    · exact submit_sameWorker s c .stop _ clock
  | recover =>
    simp only [start, recover]
    repeat' split
    all_goals exact ⟨rfl, rfl, rfl⟩
  | close wait => exact close_sameWorker s c wait

theorem expire_sameWorker (r : RequestId) : SameWorker s (s.expire c r) := by
  by_cases begun : (s.requests r).started = true ∨ ¬ s.motion r
  · rw [expire_begun c begun]
    obtain ⟨worker, active, invoked⟩ := enterQuarantine_sameWorker s
    exact ⟨worker, active, invoked⟩
  · rw [expire_withdrawn c begun]
    exact ⟨rfl, rfl, rfl⟩

theorem finishPreemptive_sameWorker (reply : Reply) : SameWorker s (s.finishPreemptive c reply) := by
  unfold finishPreemptive
  dsimp only
  split
  · obtain ⟨worker, active, invoked⟩ := enterQuarantine_sameWorker s
    exact ⟨worker, active, invoked⟩
  · exact ⟨rfl, rfl, rfl⟩

end

theorem proceed_sameWorker {c} (next : s.proceed c = some t) : SameWorker s t := by
  unfold proceed at next
  split at next
  · split at next <;> cases next
    exact ⟨rfl, rfl, rfl⟩
  · cases next
    exact expire_sameWorker s c _
  · split at next <;> cases next
    unfold startPreemptive
    split <;> exact ⟨rfl, rfl, rfl⟩
  · split at next <;> cases next
    exact finishPreemptive_sameWorker s c _
  · cases next
    obtain ⟨worker, active, invoked⟩ := enterQuarantine_sameWorker s
    exact ⟨worker, active, invoked⟩
  · cases next
    exact ⟨rfl, rfl, rfl⟩
  · split at next <;> cases next
    exact ⟨rfl, rfl, rfl⟩
  · cases next

/-- **Only the worker moves the worker.** -/
theorem worker_frame (other : l.ofWorker = false) (next : step cfg s l = some t) : SameWorker s t := by
  cases l with
  | newEvent | setEvent =>
    cases next
    exact ⟨rfl, rfl, rfl⟩
  | start c op clock =>
    simp only [step] at next
    split at next <;> cases next
    exact start_sameWorker s c op clock
  | proceed => exact proceed_sameWorker next
  | timeout =>
    simp only [step, timeout] at next
    split at next
    · split at next <;> cases next
      exact ⟨rfl, rfl, rfl⟩
    · split at next <;> cases next
      exact ⟨rfl, rfl, rfl⟩
    · cases next
  | stopCalls | stopReplies | stopClears | stopDone =>
    simp only [step] at next
    split at next <;> cases next
    exact ⟨rfl, rfl, rfl⟩
  | take | check | call | replies | settle => cases other

/-! ## The threads of preemptive stops -/

/-- The next section of `c` starts the thread of its preemptive stop. -/
def State.startsPreemptive (s : State) (c : CallId) : Prop :=
  (∃ bounded, s.calls c = .locking bounded) ∧ s.stopLock = none ∧
    s.closed = false ∧ s.preemptiveActive = false ∧ s.queuedStop = none

/-- What a step does to the threads of preemptive stops and to `_preemptive_active`. -/
inductive ThreadMove (s t : State) (l : Label) : Prop
  | stays (threads : t.stopThreads = s.stopThreads)
      (active : t.preemptiveActive = s.preemptiveActive)
  | starts (c : CallId) (label : l = .proceed c) (guard : s.startsPreemptive c)
      (threads : t.stopThreads = update s.stopThreads c .started)
      (active : t.preemptiveActive = true)
  | calls (c : CallId) (label : l = .stopCalls c) (station : s.stopThreads c = .started)
      (threads : t.stopThreads = update s.stopThreads c .inside)
      (active : t.preemptiveActive = s.preemptiveActive)
  | replies (c : CallId) (reply : Reply) (label : l = .stopReplies c reply)
      (station : s.stopThreads c = .inside)
      (threads : t.stopThreads = update s.stopThreads c (.left reply))
      (active : t.preemptiveActive = s.preemptiveActive)
  | clears (c : CallId) (reply : Reply) (label : l = .stopClears c)
      (station : s.stopThreads c = .left reply)
      (threads : t.stopThreads = update s.stopThreads c (.cleared reply))
      (active : t.preemptiveActive = false)
  | ends (c : CallId) (reply : Reply) (label : l = .stopDone c)
      (station : s.stopThreads c = .cleared reply)
      (threads : t.stopThreads = update s.stopThreads c (.over reply))
      (active : t.preemptiveActive = s.preemptiveActive)

structure SameThreads (s t : State) : Prop where
  threads : t.stopThreads = s.stopThreads
  active : t.preemptiveActive = s.preemptiveActive

theorem discardMotion_sameThreads (status : IOStatus) (quarantined : Bool) (s : State) :
    SameThreads s (s.discardMotion status quarantined) := by
  rw [discardMotion_eq]
  exact ⟨rfl, rfl⟩

theorem enterQuarantine_sameThreads (s : State) : SameThreads s s.enterQuarantine := by
  obtain ⟨threads, active⟩ := discardMotion_sameThreads .unknown true { s with quarantined := true }
  exact ⟨threads, active⟩

theorem submit_sameThreads (c : CallId) (operation : IOOperation) (args : Submission) (clock : ℚ) :
    SameThreads s (s.submit cfg c operation args clock) :=
  submit_cases (P := SameThreads s) c clock (fun _ => ⟨rfl, rfl⟩) (fun _ _ _ => ⟨rfl, rfl⟩) fun _ _ _ => ⟨rfl, rfl⟩

theorem start_sameThreads (cfg : Config) (s : State) (c : CallId) (op : Operation) (clock : ℚ) :
    SameThreads s (s.start cfg c op clock) := by
  cases op with
  | execute args => exact submit_sameThreads c .execute args clock
  | read => exact submit_sameThreads c .read _ clock
  | stop =>
    simp only [start, preempt]
    split
    · split <;> exact ⟨rfl, rfl⟩
    · exact submit_sameThreads c .stop _ clock
  | recover =>
    simp only [start, recover]
    repeat' split
    all_goals exact ⟨rfl, rfl⟩
  | close =>
    simp only [start, close]
    split
    · exact ⟨rfl, rfl⟩
    split
    · exact ⟨rfl, rfl⟩
    · obtain ⟨threads, active⟩ :=
        discardMotion_sameThreads .cancelled false { s with closed := true }
      exact ⟨threads, active⟩

theorem proceed_threads {c} (next : s.proceed c = some t) : ThreadMove s t (.proceed c) := by
  have entered := enterQuarantine_sameThreads s
  unfold proceed at next
  split at next <;> rename_i station
  · split at next <;> cases next
    exact .stays rfl rfl
  · cases next
    rename_i r
    by_cases begun : (s.requests r).started = true ∨ ¬ s.motion r
    · rw [expire_begun c begun]
      exact .stays entered.threads entered.active
    · rw [expire_withdrawn c begun]
      exact .stays rfl rfl
  · split at next
    · rename_i bounded free
      cases next
      unfold startPreemptive
      split
      · exact .stays rfl rfl
      · rename_i guard
        simp only [not_or, Bool.not_eq_true, Option.isSome_eq_false_iff, Option.isNone_iff_eq_none] at guard free
        exact .starts c rfl ⟨⟨bounded, station⟩, free, guard⟩ rfl rfl
    · cases next
  · split at next <;> cases next
    unfold finishPreemptive
    dsimp only
    split
    · exact .stays entered.threads entered.active
    · exact .stays rfl rfl
  · cases next
    exact .stays entered.threads entered.active
  · cases next
    exact .stays rfl rfl
  · split at next <;> cases next
    exact .stays rfl rfl
  · cases next

theorem take_sameThreads (next : s.take = some t) : SameThreads s t := by
  obtain ⟨_, taken⟩ := take_cases next
  cases taken <;> exact ⟨rfl, rfl⟩

/-- **All a step does** to the threads of preemptive stops. -/
theorem thread_move (next : step cfg s l = some t) : ThreadMove s t l := by
  cases l with simp only [step] at next
  | newEvent | setEvent =>
    cases next
    exact .stays rfl rfl
  | start c op clock =>
    split at next <;> cases next
    obtain ⟨threads, active⟩ := start_sameThreads cfg s c op clock
    exact .stays threads active
  | proceed => exact proceed_threads next
  | timeout =>
    simp only [timeout] at next
    split at next
    · split at next <;> cases next
      exact .stays rfl rfl
    · split at next <;> cases next
      exact .stays rfl rfl
    · cases next
  | stopCalls c =>
    split at next <;> cases next
    exact .calls c rfl ‹_› rfl rfl
  | stopReplies c reply =>
    split at next <;> cases next
    exact .replies c reply rfl ‹_› rfl rfl
  | stopClears c =>
    split at next <;> cases next
    exact .clears c _ rfl ‹_› rfl rfl
  | stopDone c =>
    split at next <;> cases next
    exact .ends c _ rfl ‹_› rfl rfl
  | take =>
    split at next
    · obtain ⟨threads, active⟩ := take_sameThreads next
      exact .stays threads active
    · cases next
  | check =>
    split at next <;> cases next
    unfold check
    dsimp only
    repeat' split
    all_goals exact .stays rfl rfl
  | call | replies =>
    split at next <;> cases next
    exact .stays rfl rfl
  | settle =>
    split at next <;> cases next
    unfold settle
    dsimp only
    split <;> exact .stays rfl rfl

end EmbodiRun.Io.Scheduler
