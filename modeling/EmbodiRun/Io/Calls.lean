/-
# Io.Calls -- the life of one call

`Call.Moves` is every way from one station of a public method to the next, with what the
section there has seen; `call_move` says that a step moves one call by it, or none.  Every
call is on the way to one answer and keeps it (`answered_stays`).
-/
import EmbodiRun.Io.Requests

namespace EmbodiRun.Io.Scheduler

open Transition State

variable {cfg : Config} {s t : State} {l : Label}

/-- The ways of the call `c`, in a step from `s` to `t`. -/
inductive Call.Moves (s t : State) (c : CallId) : Call → Call → Prop
  | raises (failure) : Moves s t c .unused (.failed failure)
  | refuses {before : Call} (station : before = .unused ∨ ∃ bounded, before = .locking bounded)
      (operation) (status : IOStatus) (quarantined)
      (kind : status = .rejected ∨ status = .unknown ∨ status = .expired) :
      Moves s t c before (.answered (immediate operation status quarantined))
  | waits (bounded) (made : t.created = s.created + 1) :
      Moves s t c .unused (.waiting s.created bounded)
  | locks (bounded) : Moves s t c .unused (.locking bounded)
  | recovers (cleared) : Moves s t c .unused (.recovered cleared)
  | closes (bounded) : Moves s t c .unused (.closing bounded)
  | closed {before : Call} (station : before = .unused ∨ ∃ bounded, before = .closing bounded) :
      Moves s t c before (.answered s.closeResult)
  | answers (r bounded result) (done : (s.requests r).done = true)
      (found : (s.requests r).result = some result) :
      Moves s t c (.waiting r bounded) (.answered result)
  | asserts (r bounded) (done : (s.requests r).done = true) (missing : (s.requests r).result = none) :
      Moves s t c (.waiting r bounded) (.failed .assertionError)
  | expires (r) (undone : (s.requests r).done = false) : Moves s t c (.waiting r true) (.timedOut r)
  | withdraws (r) (status : IOStatus) (unstarted : (s.requests r).started = false)
      (kind : status = .cancelled ∨ status = .unknown) (queue : t.queue = s.queue.erase r)
      (worker : t.worker = s.worker) :
      Moves s t c (.timedOut r) (.answered (immediate (s.requests r).operation status))
  | givesUp (r) :
      Moves s t c (.timedOut r) (.answered (immediate (s.requests r).operation .unknown true))
  | starts (bounded) (guard : s.startsPreemptive c) (thread : t.stopThreads c = .started) :
      Moves s t c (.locking bounded) (.stopping bounded)
  | stops (bounded) (reply : Reply) (quarantined) (thread : s.stopThreads c = .over reply) :
      Moves s t c (.stopping bounded) (.answered { reply.result with quarantined := quarantined })
  | stopExpires : Moves s t c (.stopping true) .stopTimedOut
  | stopUnknown : Moves s t c .stopTimedOut .stopRecording
  | stopRecords : Moves s t c .stopRecording (.answered (immediate .stop .unknown true))

inductive CallMove (s t : State) : Prop
  | stays (calls : t.calls = s.calls)
  | moves (c : CallId) (call : Call) (calls : t.calls = Function.update s.calls c call)
      (moves : Call.Moves s t c (s.calls c) call)

theorem submit_call (c : CallId) (operation : IOOperation) (args : Submission) (clock : ℚ)
    (fresh : s.calls c = .unused) : CallMove s (s.submit cfg c operation args clock) := by
  refine submit_cases (P := CallMove s) c clock (fun failure => .moves c _ rfl ?_)
    (fun status quarantined kind => .moves c _ rfl ?_) fun deadline _ _ => .moves c _ rfl ?_
  all_goals rw [fresh]
  · exact .raises _
  · exact .refuses (.inl rfl) operation status quarantined kind
  · exact .waits _ rfl
variable {c : CallId}

theorem start_call (cfg : Config) (fresh : s.calls c = .unused) (op : Operation) (clock : ℚ) :
    CallMove s (s.start cfg c op clock) := by
  have plain (call : Call) (moves : Call.Moves s (s.setCall c call) c .unused call) :
      CallMove s (s.setCall c call) := .moves c call rfl (fresh ▸ moves)
  cases op with
  | execute args => exact submit_call c .execute args clock fresh
  | read => exact submit_call c .read _ clock fresh
  | stop =>
    simp only [start]
    split
    · unfold preempt
      split
      · exact plain _ (.raises _)
      · exact plain _ (.locks _)
    · exact submit_call c .stop _ clock fresh
  | recover =>
    simp only [start, recover]
    split
    · exact plain _ (.recovers _)
    split
    · exact plain _ (.recovers _)
    split
    · exact plain _ (.recovers _)
    · refine .moves c (.recovered true) rfl ?_
      rw [fresh]
      exact .recovers true
  | close wait =>
    simp only [start, close]
    split
    · exact plain _ (.raises _)
    split
    · exact plain _ (.closed (.inl rfl))
    · have calls : (discardMotion .cancelled false { s with closed := true }).calls =
          s.calls := by rw [discardMotion_eq]
      refine .moves c (.closing wait.isSome) ?_ ?_
      · simp only [setCall, calls]
      · rw [fresh]
        exact .closes _

theorem proceed_call (next : s.proceed c = some t) : CallMove s t := by
  have entered : s.enterQuarantine.calls = s.calls := by
    unfold enterQuarantine dropQueuedMotion
    rw [discardMotion_eq]
  unfold proceed at next
  split at next <;> rename_i station
  · rename_i r bounded
    split at next
    · rename_i done
      cases next
      refine .moves c _ rfl ?_
      rw [station]
      split
      · exact .answers r bounded _ done ‹_›
      · exact .asserts r bounded done ‹_›
    · cases next
  · cases next
    rename_i r
    by_cases begun : (s.requests r).started = true ∨ ¬ s.motion r
    · rw [expire_begun c begun]
      refine .moves c (.answered (immediate (s.requests r).operation .unknown true)) ?_ ?_
      · simp only [setCall, setRequest, entered]
      · rw [station]
        exact .givesUp r
    · rw [expire_withdrawn c begun]
      refine .moves c _ rfl ?_
      rw [station]
      refine .withdraws r _ (Bool.eq_false_iff.mpr fun started => begun (.inl started)) ?_ rfl rfl
      split
      · exact .inl rfl
      · exact .inr rfl
  · rename_i bounded
    split at next
    · rename_i free
      cases next
      unfold startPreemptive
      split
      · refine .moves c _ rfl ?_
        rw [station]
        exact .refuses (.inr ⟨bounded, rfl⟩) .stop .rejected false (.inl rfl)
      · rename_i guard
        simp only [not_or, Bool.not_eq_true, Option.isSome_eq_false_iff, Option.isNone_iff_eq_none] at guard free
        refine .moves c (.stopping bounded) rfl ?_
        rw [station]
        exact .starts bounded ⟨⟨bounded, station⟩, free, guard⟩ (Function.update_self ..)
    · cases next
  · rename_i bounded
    split at next
    · rename_i reply finished
      cases next
      unfold finishPreemptive
      dsimp only
      split
      · refine .moves c (.answered { reply.result with quarantined := true }) ?_ ?_
        · simp only [setCall, entered, enterQuarantine_quarantined]
        · rw [station]
          exact .stops bounded reply true finished
      · refine .moves c (.answered { reply.result with quarantined := s.quarantined }) rfl ?_
        rw [station]
        exact .stops bounded reply s.quarantined finished
    · cases next
  · cases next
    refine .moves c .stopRecording ?_ ?_
    · simp only [setCall, entered]
    · rw [station]
      exact .stopUnknown
  · cases next
    refine .moves c (.answered (immediate .stop .unknown true)) rfl ?_
    rw [station]
    exact .stopRecords
  · rename_i bounded
    split at next <;> cases next
    refine .moves c (.answered s.closeResult) rfl ?_
    rw [station]
    exact .closed (.inr ⟨bounded, rfl⟩)
  · cases next

/-- **A step moves one call, or none.** -/
theorem call_move (next : step cfg s l = some t) : CallMove s t := by
  cases l with simp only [step] at next
  | newEvent | setEvent =>
    cases next
    exact .stays rfl
  | start c op clock =>
    split at next
    · rename_i fresh
      cases next
      exact start_call cfg fresh.1 op clock
    · cases next
  | proceed => exact proceed_call next
  | timeout c =>
    simp only [timeout] at next
    split at next <;> rename_i station
    · split at next <;> cases next
      refine .moves c _ rfl ?_
      rw [station]
      exact .expires _ (Bool.eq_false_iff.mpr ‹_›)
    · split at next <;> cases next
      refine .moves c _ rfl ?_
      rw [station]
      exact .stopExpires
    · cases next
  | stopCalls | stopReplies | stopClears | stopDone | call | replies =>
    split at next <;> cases next
    exact .stays rfl
  | take =>
    split at next
    · cases (take_cases next).2 <;> exact .stays rfl
    · cases next
  | check =>
    split at next <;> cases next
    unfold check
    dsimp only
    split
    · exact .stays rfl
    split <;> exact .stays rfl
  | settle =>
    split at next <;> cases next
    unfold settle
    dsimp only
    split <;> exact .stays rfl

theorem call_step (c : CallId) (next : step cfg s l = some t) :
    t.calls c = s.calls c ∨ Call.Moves s t c (s.calls c) (t.calls c) := by
  cases call_move next with
  | stays calls => exact .inl (by rw [calls])
  | moves d call calls moves =>
    by_cases same : c = d
    · subst same
      rw [calls, Function.update_self]
      exact .inr moves
    · exact .inl (by rw [calls, Function.update_of_ne same])

theorem answered_stays {result} (answered : s.calls c = .answered result)
    (next : step cfg s l = some t) : t.calls c = .answered result := by
  rcases call_step c next with same | moves
  · exact same.trans answered
  · rw [answered] at moves
    generalize t.calls c = after at moves ⊢
    cases moves with
    | refuses station | closed station => rcases station with station | ⟨_, station⟩ <;> cases station

end EmbodiRun.Io.Scheduler
