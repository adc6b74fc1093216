/-
# Io.Recovery -- what `recover` takes for a confirmed stop

`recover` clears the quarantine when the last stop on record was confirmed.  The record is
written by every stop and never taken back, so it can be older than the quarantine it is
held against; and a callback that is over before the bus enters quarantine may be recorded
after.
-/
import EmbodiRun.Io.Calls
import EmbodiRun.Transition.History

namespace EmbodiRun.Io.Scheduler

open Transition

variable {cfg : Config} {s t : State} {l : Label} {ls : List Label}

/-! ## Confirmations, from the driver to the record -/

def Reply.confirms : Reply → Bool
  | .returned value => stopConfirmation value = some true
  | .raised _ => false

open Reply

def StopThread.reply? : StopThread → Option Reply
  | .left reply | .cleared reply | .over reply => some reply
  | .absent | .started | .inside => none

namespace State

open State

/-- The step is the end of a stop callback that reported that the robot stands still. -/
def reportsStop (s : State) : Label → Bool
  | .replies reply => match s.worker with
      | .inside r => decide (¬ s.motion r) && reply.confirms
      | _ => false
  | .stopReplies _ reply => reply.confirms
  | _ => false

def lastConfirms (s : State) : Bool := s.lastStopResult.any (·.stopConfirmed = some true)

/-- The callback of a stop is over and reported that the robot stands still, and its result is still
to be put on record. -/
def Unrecorded (s : State) : Prop :=
  (∃ r reply, s.worker = .leaving r (.replied reply) ∧ ¬ s.motion r ∧ reply.confirms = true) ∨
    ∃ c bounded reply, s.calls c = .stopping bounded ∧ (s.stopThreads c).reply? = some reply ∧ reply.confirms = true

def Vouched (s : State) : Prop := s.lastConfirms = true ∨ s.Unrecorded

end State

/-- Who writes `_last_stop_result`. -/
inductive LastMove (s t : State) (l : Label) : Prop
  | stays (last : t.lastStopResult = s.lastStopResult)
  | times (c : CallId) (label : l = .proceed c)
      (last : t.lastStopResult = some (immediate .stop .unknown true))
  | preempts (c : CallId) (bounded : Bool) (reply : Reply) (quarantined : Bool)
      (label : l = .proceed c) (station : s.calls c = .stopping bounded)
      (finished : s.stopThreads c = .over reply)
      (last : t.lastStopResult = some { reply.result with quarantined := quarantined })
  | settles (r : RequestId) (outcome : Outcome) (quarantined : Bool) (label : l = .settle)
      (leaving : s.worker = .leaving r outcome) (stop : ¬ s.motion r)
      (last : t.lastStopResult = some { outcome.result .stop with quarantined := quarantined })

theorem discardMotion_last (status : IOStatus) (quarantined : Bool) (s : State) :
    (s.discardMotion status quarantined).lastStopResult = s.lastStopResult := by
  rw [discardMotion_eq]

theorem submit_last (c : CallId) (operation : IOOperation) (args : Submission) (clock : ℚ) :
    (s.submit cfg c operation args clock).lastStopResult = s.lastStopResult :=
  submit_cases (P := fun t => t.lastStopResult = s.lastStopResult) c clock (fun _ => rfl) (fun _ _ _ => rfl)
    fun _ _ _ => rfl

theorem start_last (cfg : Config) (s : State) (c : CallId) (op : Operation) (clock : ℚ) :
    (s.start cfg c op clock).lastStopResult = s.lastStopResult := by
  cases op with
  | execute args => exact submit_last c .execute args clock
  | read => exact submit_last c .read _ clock
  | stop =>
    simp only [State.start]
    split
    · unfold State.preempt
      split <;> rfl
    · exact submit_last c .stop _ clock
  | recover =>
    simp only [State.start, State.recover]
    repeat' split
    all_goals rfl
  | close =>
    simp only [State.start, State.close]
    split
    · rfl
    split
    · rfl
    · exact discardMotion_last .cancelled false { s with closed := true }

theorem proceed_last {c} (next : s.proceed c = some t) : LastMove s t (.proceed c) := by
  have entered : s.enterQuarantine.lastStopResult = s.lastStopResult :=
    discardMotion_last .unknown true { s with quarantined := true }
  unfold State.proceed at next
  split at next <;> rename_i station
  · split at next <;> cases next
    exact .stays rfl
  · cases next
    rename_i r
    by_cases begun : (s.requests r).started = true ∨ ¬ s.motion r
    · rw [expire_begun c begun]
      exact .stays entered
    · rw [expire_withdrawn c begun]
      exact .stays rfl
  · split at next <;> cases next
    unfold State.startPreemptive
    split <;> exact .stays rfl
  · rename_i bounded
    split at next
    · rename_i reply finished
      cases next
      exact .preempts c bounded reply _ rfl station finished rfl
    · cases next
  · cases next
    exact .stays entered
  · cases next
    exact .times c rfl rfl
  · split at next <;> cases next
    exact .stays rfl
  · cases next

theorem last_move (next : step cfg s l = some t) : LastMove s t l := by
  cases l with simp only [step] at next
  | newEvent | setEvent =>
    cases next
    exact .stays rfl
  | start c op clock =>
    split at next <;> cases next
    exact .stays (start_last cfg s c op clock)
  | proceed => exact proceed_last next
  | timeout =>
    simp only [State.timeout] at next
    split at next
    · split at next <;> cases next
      exact .stays rfl
    · split at next <;> cases next
      exact .stays rfl
    · cases next
  | stopCalls | stopReplies | stopClears | stopDone | call | replies =>
    split at next <;> cases next
    exact .stays rfl
  | take =>
    split at next
    · cases (take_cases next).2 <;> exact .stays rfl
    · cases next
  | check =>
    split at next <;> cases next
    unfold State.check
    dsimp only
    split
    · exact .stays rfl
    split <;> exact .stays rfl
  | settle =>
    split at next
    · rename_i r outcome leaving
      cases next
      unfold State.settle
      dsimp only
      split
      · rename_i stop
        exact .settles r outcome _ rfl leaving (by simpa [State.motion] using stop)
          (by simp only [State.setRequest, stop]; rfl)
      · exact .stays rfl
    · cases next

theorem Reply.confirms_result (reply : Reply) : reply.result.stopConfirmed = some true ↔ reply.confirms = true := by
  cases reply with
  | returned => simp [result, confirms]
  | raised => simp [result, confirms, stopConfirmation]

theorem Outcome.confirms_result (outcome : Outcome) (confirmed : (outcome.result .stop).stopConfirmed = some true) :
    ∃ reply, outcome = .replied reply ∧ reply.confirms = true := by
  rcases outcome with _ | _ | reply
  · cases confirmed
  · cases confirmed
  · refine ⟨reply, rfl, ?_⟩
    cases reply with
    | returned => simpa [Outcome.result, confirms] using confirmed
    | raised => cases confirmed

theorem lastConfirms_step (next : step cfg s l = some t) (confirms : t.lastConfirms = true) :
    s.lastConfirms = true ∨ s.Unrecorded := by
  cases last_move next with
  | stays last =>
    rw [State.lastConfirms, last] at confirms
    exact .inl confirms
  | times c _ last => simp [State.lastConfirms, last, immediate] at confirms
  | preempts c bounded reply quarantined _ station finished last =>
    refine .inr (.inr ⟨c, bounded, reply, station, by rw [finished]; rfl, ?_⟩)
    rw [← reply.confirms_result]
    simpa [State.lastConfirms, last] using confirms
  | settles r outcome quarantined _ leaving stop last =>
    obtain ⟨reply, rfl, confirmed⟩ :=
      outcome.confirms_result (by simpa [State.lastConfirms, last] using confirms)
    exact .inr (.inl ⟨r, reply, leaving, stop, confirmed⟩)

theorem Life.Step.operation {a b} {sight} (moved : Life.Step a sight b) :
    b.request.operation = a.request.operation := by
  cases moved <;> rfl

theorem motion_kept {r} (placed : Placed s) (made : r < s.created)
    (next : step cfg s l = some t) : t.motion r ↔ s.motion r := by
  have same : (t.life r).request.operation = (s.life r).request.operation := by
    rcases life_step placed made next with ⟨same, _⟩ | moved
    · rw [same]
    · exact moved.operation
  exact not_congr (Eq.congr_left same)

theorem unrecorded_step (placed : Placed s) (next : step cfg s l = some t)
    (unrecorded : t.Unrecorded) : s.Unrecorded ∨ s.reportsStop l = true := by
  rcases unrecorded with ⟨r, reply, leaving, stop, confirms⟩ | ⟨c, bounded, reply, station, replied, confirms⟩
  · have before (same : s.worker = .leaving r (.replied reply)) : s.Unrecorded := by
      have made := (placed.held r (by rw [same]; rfl)).1
      exact .inl ⟨r, reply, same, (not_congr (motion_kept placed made next)).mp stop, confirms⟩
    cases queue_move next with
    | stays _ _ _ _ worker | admits _ _ _ _ _ _ _ _ _ _ _ worker | discards _ _ _ _ _ _ _ worker
    | detaches _ _ _ _ _ _ _ _ worker | withdraws _ _ _ _ _ _ _ _ worker
    | skips _ _ _ _ _ _ _ _ worker =>
      exact .inl (before (worker ▸ leaving))
    | ends _ _ _ _ _ _ worker => cases worker.symm.trans leaving
    | takes _ _ _ _ _ _ _ _ _ worker => cases worker.symm.trans leaving
    | checks _ _ _ _ _ _ _ worker =>
      rcases worker with worker | worker | worker <;> cases worker.symm.trans leaving
    | enters _ _ _ _ _ _ worker => cases worker.symm.trans leaving
    | replies q _ label inside _ _ _ worker =>
      cases worker.symm.trans leaving
      have made := (placed.held r (by rw [inside]; rfl)).1
      have stop := (not_congr (motion_kept placed made next)).mp stop
      exact .inr (by simp [label, State.reportsStop, inside, stop, confirms])
    | settles _ _ _ _ _ _ _ _ worker => cases worker.symm.trans leaving
  · have stopping : s.calls c = .stopping bounded := by
      rcases call_step c next with same | moves
      · exact same.symm.trans station
      · rw [station] at moves
        generalize s.calls c = call at moves
        cases moves with
        | starts _ _ thread =>
          rw [thread] at replied
          cases replied
    have same (kept : t.stopThreads c = s.stopThreads c) : s.Unrecorded :=
      .inr ⟨c, bounded, reply, stopping, kept ▸ replied, confirms⟩
    have moved {d : CallId} {thread : StopThread} (threads : t.stopThreads = Function.update s.stopThreads d thread)
        (own : thread.reply? = some reply → d = c → s.Unrecorded ∨ s.reportsStop l = true) :
        s.Unrecorded ∨ s.reportsStop l = true := by
      by_cases equal : c = d
      · subst equal
        rw [threads, Function.update_self] at replied
        exact own replied rfl
      · exact .inl (same (by rw [threads, Function.update_of_ne equal]))
    cases thread_move next with
    | stays threads => exact .inl (same (by rw [threads]))
    | starts d _ _ threads | calls d _ _ threads => exact moved threads nofun
    | replies d reply' label _ threads =>
      refine moved threads fun found _ => .inr ?_
      cases found
      rw [label]
      exact confirms
    | clears d reply' _ left threads =>
      refine moved threads fun found equal => .inl ?_
      subst equal
      exact .inr ⟨d, bounded, reply, stopping, by rw [left]; exact found, confirms⟩
    | ends d reply' _ cleared threads =>
      refine moved threads fun found equal => .inl ?_
      subst equal
      exact .inr ⟨d, bounded, reply, stopping, by rw [cleared]; exact found, confirms⟩

/-! ## Fresh quarantines -/

def EntersQuarantine (s : State) (l : Label) : Prop :=
  (∃ c, l = .proceed c ∧ s.alarms c) ∨ (l = .settle ∧ s.settlesDenied)

/-- When the bus enters quarantine no confirmed stop is on its way to the record, and none is on
record unless the step overwrites it. -/
def QuarantinesFresh (s : State) (l : Label) : Prop :=
  s.quarantined = false → EntersQuarantine s l →
    ¬ s.Unrecorded ∧ (∀ c, l = .proceed c → (∀ bounded, s.calls c ≠ .stopping bounded) → s.lastConfirms = false)

/-- Whether some stop callback that was over after the bus entered quarantine last reported that the
robot stands still. -/
def noteConfirmation (s : State) (l : Label) (t : State) (confirmed : Bool) : Bool :=
  if !s.quarantined && t.quarantined then false else confirmed || s.reportsStop l

theorem enters_quarantine (next : step cfg s l = some t) (before : s.quarantined = false)
    (after : t.quarantined = true) : EntersQuarantine s l := by
  cases bus_move next with
  | shrinks facts => cases before.symm.trans (facts.quarantined after)
  | admits _ facts | takes _ facts => cases before.symm.trans (facts.quarantined.symm.trans after)
  | alarms c label facts => exact .inl ⟨c, label, facts.alarm⟩
  | settles r outcome label facts =>
    rw [facts.quarantined, before] at after
    simp only [Bool.false_or, Bool.and_eq_true, Bool.not_eq_true', decide_eq_false_iff_not] at after
    exact .inr ⟨label, r, outcome, facts.leaving, after.1, after.2⟩
  | enters r facts =>
    obtain rfl := facts.after
    cases before.symm.trans after

theorem own_stop_unconfirmed (next : step cfg s l = some t) (enters : EntersQuarantine s l)
    (own : l = .settle ∨ ∃ c bounded, l = .proceed c ∧ s.calls c = .stopping bounded) :
    t.lastConfirms = false := by
  rcases own with rfl | ⟨c, bounded, rfl, station⟩
  · rcases enters with ⟨_, label, _⟩ | ⟨_, r, outcome, leaving, stop, denies⟩
    · cases label
    have operation : (s.requests r).operation = .stop := not_not.mp stop
    have settled : s.settle r outcome = t := Option.some.inj (by simpa [step, leaving] using next)
    rw [← settled]
    simp only [State.settle, operation, if_true, State.lastConfirms, State.setRequest]
    rcases outcome with _ | _ | value | error
    · cases denies
    · cases denies
    · simp only [Outcome.denies, Reply.denies, decide_eq_true_eq] at denies
      simp [Outcome.result, denies]
    · simp [Outcome.result]
  · rcases enters with ⟨d, label, alarm⟩ | ⟨label, _⟩ <;> cases label
    simp only [State.alarms, station] at alarm
    obtain ⟨reply, finished, denies⟩ := alarm
    have answered : s.finishPreemptive c reply = t :=
      Option.some.inj (by simpa [step, State.proceed, station, finished] using next)
    rw [← answered]
    simp only [State.finishPreemptive, State.lastConfirms, State.setCall]
    cases reply with
    | returned =>
      simp only [Reply.denies, decide_eq_true_eq] at denies
      simp [Reply.result, denies]
    | raised => simp [Reply.result, stopConfirmation]

theorem fresh_unvouched (placed : Placed s) (next : step cfg s l = some t)
    (before : s.quarantined = false) (after : t.quarantined = true) (fresh : QuarantinesFresh s l) :
    ¬ t.Vouched := by
  have enters := enters_quarantine next before after
  obtain ⟨recorded, unconfirmed⟩ := fresh before enters
  have silent : s.reportsStop l = false := by
    rcases enters with ⟨c, rfl, _⟩ | ⟨rfl, _⟩ <;> rfl
  rintro (confirms | unrecorded)
  · by_cases own : l = .settle ∨ ∃ c bounded, l = .proceed c ∧ s.calls c = .stopping bounded
    · cases confirms.symm.trans (own_stop_unconfirmed next enters own)
    · have last : s.lastConfirms = false := by
        rcases enters with ⟨c, label, _⟩ | ⟨label, _⟩
        · exact unconfirmed c label fun bounded station => own (.inr ⟨c, bounded, label, station⟩)
        · exact absurd (.inl label) own
      rcases lastConfirms_step next confirms with old | pending
      · cases old.symm.trans last
      · exact recorded pending
  · rcases unrecorded_step placed next unrecorded with pending | reported
    · exact recorded pending
    · cases reported.symm.trans silent

/-- Every confirmed stop a quarantined bus has on record, or on its way there, is one of this
quarantine. -/
def VouchedSince (s : State) (confirmed : Bool) : Prop :=
  s.quarantined = true → s.Vouched → confirmed = true

theorem vouchedSince_step {confirmed} (placed : Placed s) (inv : VouchedSince s confirmed)
    (next : step cfg s l = some t) (fresh : QuarantinesFresh s l) :
    VouchedSince t (noteConfirmation s l t confirmed) := by
  intro quarantined vouched
  cases before : s.quarantined with
  | false => exact absurd vouched (fresh_unvouched placed next before quarantined fresh)
  | true =>
    have old : s.Vouched ∨ s.reportsStop l = true := by
      rcases vouched with confirms | unrecorded
      · exact .inl (lastConfirms_step next confirms)
      · exact (unrecorded_step placed next unrecorded).imp_left .inr
    simp only [noteConfirmation, before, Bool.not_true, Bool.false_and, Bool.false_eq_true, if_false, Bool.or_eq_true]
    exact old.imp_left (inv before)

/-- **Recovery is fresh**, in a run that enters quarantine with no confirmed stop left over. -/
theorem recovery_is_fresh {confirmed : Bool} {c : CallId} {stopConfirmed : Bool} {clock : ℚ}
    (ran : run (noted (step cfg) noteConfirmation) (State.init, false) ls = some (s, confirmed))
    (fresh : Along (step cfg) QuarantinesFresh State.init ls) (before : s.quarantined = true)
    (recovers : step cfg s (.start c (.recover stopConfirmed) clock) = some t)
    (after : t.quarantined = false) :
    confirmed = true ∧ s.active = none ∧ s.preemptiveActive = false := by
  have inv : Placed s ∧ VouchedSince s confirmed := by
    refine run_induction (I := fun u : State × Bool => Placed u.1 ∧ VouchedSince u.1 u.2) ?_
      (along_noted.mpr fresh) ⟨placed_init, fun quarantined => by cases quarantined⟩ ran
    rintro u l v fresh ⟨placed, since⟩ next
    obtain ⟨next, record⟩ := noted_eq_some.mp next
    rw [record]
    exact ⟨placed_step placed next, vouchedSince_step placed since next fresh⟩
  simp only [step] at recovers
  split at recovers <;> cases recovers
  simp only [State.start, State.recover] at after
  split at after
  · cases before.symm.trans after
  rename_i idle
  split at after
  · cases before.symm.trans after
  split at after
  · cases before.symm.trans after
  rename_i last
  simp only [not_or, Bool.not_eq_true, Option.isSome_eq_false_iff, Option.isNone_iff_eq_none] at idle
  refine ⟨inv.2 before (.inl ?_), idle.2⟩
  cases record : s.lastStopResult with
  | none => simp [record] at last
  | some => simpa [State.lastConfirms, record] using last

/-- A stop that waits too long puts the bus in quarantine, and is confirmed late. -/
theorem recovery_is_fresh_after_late_stop : ∃ s t confirmed,
    run (noted (step {}) noteConfirmation) (State.init, false)
        [.start 0 (.stop true (some (.finite 1)) none) 0, .take, .check 0, .call, .timeout 0,
          .proceed 0, .replies (.returned (.bool true)), .settle] = some (s, confirmed) ∧
      s.quarantined = true ∧ step {} s (.start 1 (.recover true) 0) = some t ∧
      t.quarantined = false ∧ confirmed = true ∧ s.active = none ∧ s.preemptiveActive = false := by
  obtain ⟨s, t, confirmed, ran, before, recovers, after⟩ : ∃ s t confirmed,
      run (noted (step {}) noteConfirmation) (State.init, false)
          [.start 0 (.stop true (some (.finite 1)) none) 0, .take, .check 0, .call, .timeout 0,
            .proceed 0, .replies (.returned (.bool true)), .settle] = some (s, confirmed) ∧
        s.quarantined = true ∧ step {} s (.start 1 (.recover true) 0) = some t ∧
        t.quarantined = false := ⟨_, _, _, rfl, rfl, rfl, rfl⟩
  refine ⟨s, t, confirmed, ran, before, recovers, after, ?_⟩
  refine recovery_is_fresh ran ?_ before recovers after
  have calm (u : State) (l : Label) (caller : ∀ c, l ≠ .proceed c) (worker : l ≠ .settle) : QuarantinesFresh u l := by
    rintro _ (⟨c, label, _⟩ | ⟨label, _⟩)
    · exact absurd label (caller c)
    · exact absurd label worker
  refine ⟨calm _ _ nofun nofun, fun a first => ⟨calm _ _ nofun nofun, fun b second =>
    ⟨calm _ _ nofun nofun, fun c third => ⟨calm _ _ nofun nofun, fun d fourth =>
      ⟨calm _ _ nofun nofun, fun e fifth => ⟨fun _ _ => ⟨?_, fun _ _ _ => ?_⟩, fun f sixth =>
        ⟨calm _ _ nofun nofun, fun g seventh => ⟨fun calmly => ?_, fun _ _ => trivial⟩⟩⟩⟩⟩⟩⟩⟩
  all_goals
    cases first
    cases second
    cases third
    cases fourth
    cases fifth
  · rintro (⟨_, _, leaving, _⟩ | ⟨c, _, _, _, replied, _⟩)
    · cases leaving
    · cases replied
  · rfl
  · cases sixth
    cases seventh
    cases calmly

/-- Twice a quarantine is cleared by a stop from before it. -/
theorem recovered_on_stale_stop : (∃ s t, run (noted (step {}) noteConfirmation) (State.init, false)
        [.start 0 (.stop true (some (.finite 1)) none) 0, .take, .check 0, .call,
          .replies (.returned (.bool true)), .settle,
          .start 1 (.execute { timeout := some (.finite 1) }) 0, .take, .check 0, .call, .timeout 1,
          .proceed 1, .replies (.returned .none), .settle] = some (s, false) ∧
      s.quarantined = true ∧ step {} s (.start 2 (.recover true) 0) = some t ∧
      t.quarantined = false) ∧
    ∃ s t, run (noted (step {}) noteConfirmation) (State.init, false)
        [.start 0 (.stop true (some (.finite 1)) none) 0, .take, .check 0, .call,
          .replies (.returned (.bool true)), .timeout 0, .proceed 0, .settle] = some (s, false) ∧
      s.quarantined = true ∧ step {} s (.start 1 (.recover true) 0) = some t ∧
      t.quarantined = false :=
  ⟨⟨_, _, rfl, rfl, rfl, rfl⟩, ⟨_, _, rfl, rfl, rfl, rfl⟩⟩

end EmbodiRun.Io.Scheduler
