/-
# Io.Silence -- what `close` certifies

`close` looks at the bus once, after a join that may give up.  If it finds nothing in hand, nothing queued
and no preemptive stop, then nothing is left that could call the driver: a closed bus admits no request and
starts no thread.

* `close_certifies_silence`: **what each answer of `close` says**, for every run.
-/
import EmbodiRun.Io.Backlog
import EmbodiRun.Io.Overlap
import EmbodiRun.Io.Truth

namespace EmbodiRun.Io.Scheduler

open Transition

variable {cfg : Config} {s t : State} {l : Label} {ls : List Label}

structure State.Silent (s : State) : Prop where
  closed : s.closed = true
  queue : s.queue = []
  active : s.active = none
  preemptive : s.preemptiveActive = false

theorem silent_step (silent : s.Silent) (next : step cfg s l = some t) : t.Silent := by
  refine ⟨closed_stays silent.closed next, ?_, ?_, ?_⟩
  · cases queue_move next with
    | stays _ _ queue | ends _ _ _ queue | checks _ _ _ _ _ queue | enters _ _ _ _ queue
    | replies _ _ _ _ _ queue | settles _ _ _ _ _ _ queue => exact queue.trans silent.queue
    | discards _ _ _ _ _ queue | detaches _ _ _ _ _ _ queue =>
      rw [queue, silent.queue]
      rfl
    | withdraws _ _ _ _ _ _ queue =>
      rw [queue, silent.queue]
      rfl
    | admits _ _ _ _ _ _ _ _ _ _ _ _ isOpen =>
      rw [silent.closed] at isOpen
      cases isOpen
    | skips _ _ _ _ before | takes _ _ _ _ before =>
      rw [silent.queue] at before
      cases before
  · cases count_move next with
    | stays _ _ _ _ active | admits _ _ _ _ _ _ _ _ _ _ active | drops _ _ _ _ active
    | withdraws _ _ _ _ _ _ active => exact active.trans silent.active
    | settles _ _ _ _ active => exact active
    | takes r _ _ queue =>
      rw [silent.queue] at queue
      cases queue
  · cases thread_move next with
    | stays _ active | calls _ _ _ _ active | replies _ _ _ _ _ active | ends _ _ _ _ _ active =>
      exact active.trans silent.preemptive
    | clears _ _ _ _ _ active => exact active
    | starts c _ guard =>
      have isOpen := guard.2.2.1
      rw [silent.closed] at isOpen
      cases isOpen

def State.Runs (s : State) : Prop := (∃ r, s.worker = .inside r) ∨ ∃ c, s.stopThreads c = .inside

theorem Silent.quiet (silent : s.Silent) (slotted : s.Slotted) (threads : ThreadInv s) : ¬ s.Runs := by
  rintro (⟨r, inside⟩ | ⟨c, inside⟩)
  · have held : s.active = some r := slotted.trans (congrArg Worker.request? inside)
    rw [silent.active] at held
    cases held
  · have flagged := threads.flagged c (by rw [inside]; rfl)
    rw [silent.preemptive] at flagged
    cases flagged

theorem silent_run {ms} (slotted : s.Slotted) (threads : ThreadInv s) (silent : s.Silent)
    (ran : run (step cfg) s ms = some t) : ¬ t.Runs ∧ t.invoked = s.invoked := by
  have kept := run_invariant (I := fun t => (t.Slotted ∧ ThreadInv t ∧ t.Silent) ∧ t.invoked = s.invoked)
    (fun u l v inv next => by
      obtain ⟨⟨slotted, threads, silent⟩, invoked⟩ := inv
      have same : v.invoked = u.invoked := by
        refine invoked_step ?_ next
        rintro rfl
        simp only [step] at next
        split at next
        · rename_i r calling
          have held : u.active = some r := slotted.trans (congrArg Worker.request? calling)
          rw [silent.active] at held
          cases held
        · cases next
      exact ⟨⟨slotted_step slotted next, threadInv_step threads next, silent_step silent next⟩, same.trans invoked⟩)
    ⟨⟨slotted, threads, silent⟩, rfl⟩ ran
  exact ⟨Silent.quiet kept.1.2.2 kept.1.1 kept.1.2.1, kept.2⟩

/-! ## The answers of `close` -/

/-- `close` is called in `s`, and the last step to `t` answers it with `result`: at once, or from the join of
the worker. -/
inductive Closes (cfg : Config) (c : CallId) (s : State) (result : IOResult) (t : State) : Prop
  | atOnce (wait : Option Number) (clock : ℚ) (called : step cfg s (.start c (.close wait) clock) = some t)
      (answered : t.calls c = .answered result)
  | joined (wait : Option Number) (clock : ℚ) (u v : State) (ms : List Label) (l : Label) (first last : Bool)
      (called : step cfg s (.start c (.close wait) clock) = some u) (joins : u.calls c = .closing first)
      (others : run (step cfg) u ms = some v) (joining : v.calls c = .closing last)
      (next : step cfg v l = some t) (answered : t.calls c = .answered result)
variable {c : CallId} {result : IOResult}

theorem start_close {wait} {clock}
    (called : step cfg s (.start c (.close wait) clock) = some t) : t = s.close c wait := by
  simp only [step] at called
  split at called
  · exact (Option.some.inj called).symm
  · cases called

theorem close_cases (wait : Option Number) : (∃ failure, s.close c wait = s.setCall c (.failed failure)) ∨
      (s.closed = true ∧ s.close c wait = s.setCall c (.answered s.closeResult)) ∨
      ((s.close c wait).closed = true ∧ ∃ bounded, (s.close c wait).calls c = .closing bounded) := by
  unfold State.close
  split
  · exact .inl ⟨_, rfl⟩
  · split
    · exact .inr (.inl ⟨‹_›, rfl⟩)
    · refine .inr (.inr ⟨?_, _, Function.update_self ..⟩)
      show ({ s with closed := true }.discardMotion .cancelled false).closed = true
      rw [discardMotion_eq]

theorem setCall_self (c : CallId) (call : Call) (s : State) : (s.setCall c call).calls c = call :=
  Function.update_self ..

theorem closes_result (closes : Closes cfg c s result t) :
    ∃ v : State, v.closed = true ∧ result = v.closeResult ∧ (v.Silent → t.Silent) := by
  cases closes with
  | atOnce wait clock called answered =>
    obtain rfl := start_close called
    rcases close_cases (s := s) (c := c) wait with ⟨failure, failed⟩ | ⟨closed, at_⟩ | ⟨-, bounded, joins⟩
    · rw [failed, setCall_self] at answered
      cases answered
    · rw [at_, setCall_self] at answered
      refine ⟨s, closed, (Call.answered.inj answered).symm, fun silent => ?_⟩
      exact silent_step silent called
    · rw [joins] at answered
      cases answered
  | joined wait clock u v ms l first last called joins others joining next answered =>
    obtain rfl := start_close called
    have closed : (s.close c wait).closed = true := by
      rcases close_cases (s := s) (c := c) wait with ⟨failure, failed⟩ | ⟨closed, at_⟩ | ⟨closed, -⟩
      · rw [failed, setCall_self] at joins
        cases joins
      · rw [at_]
        exact closed
      · exact closed
    have still : v.closed = true := run_invariant (fun _ _ _ closed => closed_stays closed) closed others
    refine ⟨v, still, ?_, fun silent => silent_step silent next⟩
    rcases call_step c next with same | moves
    · rw [same, joining] at answered
      cases answered
    · rw [joining, answered] at moves
      cases moves with
      | refuses station => rcases station with station | ⟨_, station⟩ <;> cases station
      | closed => rfl

theorem closes_run (closes : Closes cfg c s result t) : ∃ ms, run (step cfg) s ms = some t := by
  cases closes with
  | atOnce wait clock called => exact ⟨[.start c (.close wait) clock], run_cons_eq_some.mpr ⟨t, called, rfl⟩⟩
  | joined wait clock u v ms l first last called joins others joining next =>
    exact ⟨.start c (.close wait) clock :: (ms ++ [l]), run_cons_eq_some.mpr ⟨u, called, run_snoc others next⟩⟩

/-- **What `close` certifies**: if an answer says completed, no callback runs at that moment and none is
entered afterwards; otherwise it says unknown, and that the bus is quarantined. -/
theorem close_certifies_silence {c : CallId} {result : IOResult} (ran : run (step cfg) State.init ls = some s)
    (closes : Closes cfg c s result t) :
    (result.status = .completed → ¬ t.Runs ∧
      ∀ ms u, run (step cfg) t ms = some u → ¬ u.Runs ∧ u.invoked = t.invoked) ∧
    (result.status ≠ .completed → result.status = .unknown ∧ result.quarantined = true) := by
  obtain ⟨v, closed, rfl, silent⟩ := closes_result closes
  obtain ⟨ms, later⟩ := closes_run closes
  have reached := run_append.mpr ⟨s, ran, later⟩
  have slotted : t.Slotted := run_invariant (fun _ _ _ => slotted_step) (show State.init.Slotted from rfl) reached
  have threads : ThreadInv t := run_invariant (fun _ _ _ => threadInv_step) threadInv_init reached
  cases drained : v.active.isNone && v.queue.isEmpty && !v.preemptiveActive with
  | true =>
    have status : v.closeResult.status = .completed := by rw [State.closeResult, drained]; rfl
    simp only [Bool.and_eq_true, Option.isNone_iff_eq_none, List.isEmpty_iff, Bool.not_eq_true'] at drained
    have quiet : t.Silent := silent ⟨closed, drained.1.2, drained.1.1, drained.2⟩
    exact ⟨fun _ => ⟨Silent.quiet quiet slotted threads, fun ms u => silent_run slotted threads quiet⟩,
      fun other => absurd status other⟩
  | false =>
    have status : v.closeResult.status = .unknown := by rw [State.closeResult, drained]; rfl
    have quarantined : v.closeResult.quarantined = true := by rw [State.closeResult, drained]; rfl
    refine ⟨fun completed => ?_, fun _ => ⟨status, quarantined⟩⟩
    rw [status] at completed
    cases completed

/-- `close` after a read is over. -/
theorem close_certifies_silence_idle : ∃ s result t, run (step {}) State.init
        [.start 0 (.read {}) 0, .take, .check 0, .call, .replies (.returned .none), .settle] = some s ∧
      Closes {} 1 s result t ∧ result.status = .completed ∧ ¬ t.Runs ∧
      ∀ ms u, run (step {}) t ms = some u → ¬ u.Runs ∧ u.invoked = t.invoked := by
  obtain ⟨s, u, t, result, ran, called, joins, next, answered, status⟩ : ∃ s u t result,
      run (step {}) State.init
          [.start 0 (.read {}) 0, .take, .check 0, .call, .replies (.returned .none), .settle] = some s ∧
        step {} s (.start 1 (.close (some (.finite 0))) 0) = some u ∧ u.calls 1 = .closing true ∧
        step {} u (.proceed 1) = some t ∧ t.calls 1 = .answered result ∧ result.status = .completed :=
    ⟨_, _, _, _, rfl, rfl, rfl, rfl, rfl, rfl⟩
  have closes : Closes {} 1 s result t :=
    .joined (some (.finite 0)) 0 u u [] (.proceed 1) true true called joins rfl joins next answered
  have silent := (close_certifies_silence ran closes).1 status
  exact ⟨s, result, t, ran, closes, status, silent.1, silent.2⟩

end EmbodiRun.Io.Scheduler
