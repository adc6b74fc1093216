/-
# Io.Quarantine -- a quarantined bus and motion

Motion is what `execute` and `read` ask for: a request that is no stop.  The bus enters
quarantine in the sections of callers whose wait ran out or whose preemptive stop went
wrong, and there the queue is emptied of motion; and in `_run`, when a serialized stop
goes wrong, where it is not.
-/
import EmbodiRun.Io.Scheduler

namespace EmbodiRun.Io.Scheduler

open Function
open Transition

variable {cfg : Config} {s t : State} {l : Label}

/-! ## What a step does to the bus -/

def Reply.denies : Reply → Bool
  | .raised _ => true
  | .returned value => stopConfirmation value = some false

def Outcome.denies : Outcome → Bool
  | .replied reply => reply.denies
  | .expired | .cancelled => false

namespace State

open State

def motion (s : State) (r : RequestId) : Prop := (s.requests r).operation ≠ .stop

instance (s : State) (r : RequestId) : Decidable (s.motion r) := by
  unfold motion
  infer_instance

/-- The next section of `c` is one that puts the bus in quarantine. -/
def alarms (s : State) (c : CallId) : Prop :=
  match s.calls c with
  | .timedOut r => (s.requests r).started = true ∨ ¬ s.motion r
  | .stopTimedOut => True
  | .stopping _ => ∃ reply, s.stopThreads c = .over reply ∧ reply.denies = true
  | _ => False

def settlesDenied (s : State) : Prop :=
  ∃ r outcome, s.worker = .leaving r outcome ∧ ¬ s.motion r ∧ outcome.denies = true

def pending (s : State) (r : RequestId) : Prop := s.worker = .taken r ∨ s.worker = .calling r

end State

structure Keeps (s t : State) : Prop where
  created : t.created = s.created
  operation : ∀ r, (t.requests r).operation = (s.requests r).operation

structure Shrinks (s t : State) : Prop where
  keeps : Keeps s t
  queue : t.queue ⊆ s.queue
  pending : ∀ r, t.pending r → s.pending r
  quarantined : t.quarantined = true → s.quarantined = true
  invoked : t.invoked = s.invoked

/-- A section of `_submit` puts `request` in the queue. -/
structure Admits (s t : State) (request : Request) : Prop where
  created : t.created = s.created + 1
  requests : t.requests = update s.requests s.created request
  queue : ∀ r ∈ t.queue, r = s.created ∨ r ∈ s.queue
  worker : t.worker = s.worker
  quarantined : t.quarantined = s.quarantined
  guard : request.operation ≠ .stop → s.quarantined = false
  invoked : t.invoked = s.invoked

/-- A section of `c` puts the bus in quarantine. -/
structure Alarms (s t : State) (c : CallId) : Prop where
  alarm : s.alarms c
  keeps : Keeps s t
  queue : t.queue = s.queue.filter fun r => ¬ s.motion r
  worker : t.worker = s.worker
  quarantined : t.quarantined = true
  invoked : t.invoked = s.invoked

/-- The worker takes `r` out of the queue. -/
structure Takes (s t : State) (r : RequestId) : Prop where
  keeps : Keeps s t
  queue : s.queue = r :: t.queue
  pending : ∀ q, t.pending q → q = r
  quarantined : t.quarantined = s.quarantined
  invoked : t.invoked = s.invoked

/-- The worker settles `r`. -/
structure Settles (s t : State) (r : RequestId) (outcome : Outcome) : Prop where
  leaving : s.worker = .leaving r outcome
  keeps : Keeps s t
  queue : t.queue = s.queue
  worker : t.worker = .looping
  quarantined : t.quarantined = (s.quarantined || (!decide (s.motion r) && outcome.denies))
  invoked : t.invoked = s.invoked

/-- The worker enters the callback of `r`. -/
structure Enters (s t : State) (r : RequestId) : Prop where
  calling : s.worker = .calling r
  after : t = { s with worker := .inside r, invoked := s.invoked ++ [r] }

/-- What a step does to the queue, the quarantine, the worker and the operations of requests. -/
inductive BusMove (s t : State) (l : Label) : Prop
  | shrinks (facts : Shrinks s t)
  | admits (request : Request) (facts : Admits s t request)
  | alarms (c : CallId) (label : l = .proceed c) (facts : Alarms s t c)
  | takes (r : RequestId) (facts : Takes s t r)
  | settles (r : RequestId) (outcome : Outcome) (label : l = .settle) (facts : Settles s t r outcome)
  | enters (r : RequestId) (facts : Enters s t r)

theorem pending_of_worker (worker : t.worker = s.worker) (r : RequestId) (held : t.pending r) :
    s.pending r := by
  rwa [State.pending, worker] at held

theorem shrinks_quiet (requests : t.requests = s.requests) (created : t.created = s.created)
    (queue : t.queue = s.queue) (worker : t.worker = s.worker)
    (quarantined : t.quarantined = s.quarantined) (invoked : t.invoked = s.invoked) :
    Shrinks s t :=
  ⟨⟨created, fun r => by rw [requests]⟩, queue ▸ List.Subset.refl _, pending_of_worker worker,
    fun holds => quarantined ▸ holds, invoked⟩

theorem Keeps.motion (keeps : Keeps s t) (r : RequestId) : t.motion r ↔ s.motion r := by
  unfold State.motion
  rw [keeps.operation]

theorem keeps_setRequest {change : Request → Request} (r : RequestId)
    (same : (change (s.requests r)).operation = (s.requests r).operation) :
    Keeps s (s.setRequest r change) := by
  refine ⟨rfl, fun q => ?_⟩
  simp only [State.setRequest]
  by_cases equal : q = r
  · subst equal
    rw [update_self, same]
  · rw [update_of_ne equal]

/-! ## Dropping queued motion -/

def Request.dropped (status : IOStatus) (quarantined : Bool) (request : Request) : Request :=
  { request with
    cancelled := true
    result := some (immediate request.operation status quarantined)
    done := true }

theorem foldl_discard (status : IOStatus) (quarantined : Bool) (rs : List RequestId) (s : State) :
    rs.foldl (State.discard status quarantined) s = { s with
        queue := s.queue ++ rs.filter fun r => ¬ s.motion r
        queuedReads := s.queuedReads - rs.countP fun r => (s.requests r).operation = .read
        requests := fun r =>
          if r ∈ rs ∧ s.motion r then (s.requests r).dropped status quarantined
          else s.requests r } := by
  induction rs generalizing s with
  | nil => simp
  | cons r rs ih =>
    rw [List.foldl_cons, ih]
    by_cases stop : (s.requests r).operation = .stop
    · have retained : s.discard status quarantined r = { s with queue := s.queue ++ [r] } := by
        simp [State.discard, stop]
      simp only [retained, State.motion]
      simp [stop]
      grind
    · have dropped : s.discard status quarantined r = { s with
          queuedReads := s.queuedReads - if (s.requests r).operation = .read then 1 else 0
          requests := update s.requests r ((s.requests r).dropped status quarantined) } := by
        unfold State.discard State.setRequest Request.dropped
        split <;> simp_all
      have operation : ∀ q, (update s.requests r
          ((s.requests r).dropped status quarantined) q).operation = (s.requests q).operation := by
        intro q
        by_cases equal : q = r
        · rw [equal, update_self, Request.dropped]
        · rw [update_of_ne equal]
      simp only [dropped, State.motion, operation]
      congr 1
      · funext q
        by_cases equal : q = r
        · subst equal
          simp [stop, Request.dropped]
        · simp [equal]
      · simp [stop]
      · simp only [List.countP_cons]
        split <;> simp_all
        omega

theorem discardMotion_eq (status : IOStatus) (quarantined : Bool) (s : State) :
    s.discardMotion status quarantined = { s with
        queue := s.queue.filter fun r => ¬ s.motion r
        queuedReads := s.queuedReads - s.queue.countP fun r => (s.requests r).operation = .read
        requests := fun r =>
          if r ∈ s.queue ∧ s.motion r then (s.requests r).dropped status quarantined
          else s.requests r } := by
  rw [State.discardMotion, foldl_discard]
  rfl

section

variable (status : IOStatus) (quarantined : Bool) (s : State)

@[simp] theorem discardMotion_queue :
    (s.discardMotion status quarantined).queue = s.queue.filter fun r => ¬ s.motion r := by
  rw [discardMotion_eq]

@[simp] theorem discardMotion_operation (r : RequestId) :
    ((s.discardMotion status quarantined).requests r).operation = (s.requests r).operation := by
  rw [discardMotion_eq]
  dsimp only
  split <;> rfl

@[simp] theorem discardMotion_created : (s.discardMotion status quarantined).created = s.created := by
  rw [discardMotion_eq]

@[simp] theorem discardMotion_worker : (s.discardMotion status quarantined).worker = s.worker := by
  rw [discardMotion_eq]

@[simp] theorem discardMotion_quarantined : (s.discardMotion status quarantined).quarantined = s.quarantined := by
  rw [discardMotion_eq]

@[simp] theorem discardMotion_invoked : (s.discardMotion status quarantined).invoked = s.invoked := by
  rw [discardMotion_eq]

end

@[simp] theorem enterQuarantine_queue (s : State) : s.enterQuarantine.queue = s.queue.filter fun r => ¬ s.motion r :=
  discardMotion_queue _ _ _

@[simp] theorem enterQuarantine_operation (s : State) (r : RequestId) :
    (s.enterQuarantine.requests r).operation = (s.requests r).operation :=
  discardMotion_operation _ _ _ r

@[simp] theorem enterQuarantine_created (s : State) : s.enterQuarantine.created = s.created :=
  discardMotion_created _ _ _

@[simp] theorem enterQuarantine_worker (s : State) : s.enterQuarantine.worker = s.worker :=
  discardMotion_worker _ _ _

@[simp] theorem enterQuarantine_quarantined (s : State) : s.enterQuarantine.quarantined = true :=
  discardMotion_quarantined _ _ _

@[simp] theorem enterQuarantine_invoked (s : State) : s.enterQuarantine.invoked = s.invoked :=
  discardMotion_invoked _ _ _

/-! ## Every step -/

theorem shrinks_setCall (c : CallId) (call : Call) (s : State) : Shrinks s (s.setCall c call) :=
  shrinks_quiet rfl rfl rfl rfl rfl rfl

def State.enlist (c : CallId) (request : Request) (bounded : Bool) (s : State) : State :=
  let r := s.created
  let s : State := { s with
    requests := update s.requests r request
    created := r + 1
    queuedReads := if request.operation = .read then s.queuedReads + 1 else s.queuedReads
    queuedStop := if request.operation = .stop then some r else s.queuedStop
    queue := if request.operation = .stop then r :: s.queue else s.queue ++ [r] }
  s.setCall c (.waiting r bounded)

structure Room (cfg : Config) (s : State) (operation : IOOperation) : Prop where
  isOpen : s.closed = false
  calm : ¬ (s.quarantined ∧ operation ≠ .stop)
  few : ¬ (operation = .read ∧ s.queuedReads ≥ cfg.maxPendingReads)
  single : ¬ (operation = .stop ∧ (s.queuedStop.isSome ∨ s.active.any fun r => (s.requests r).operation = .stop))
  room : ¬ (operation ≠ .stop ∧ s.queue.length ≥ cfg.maxPendingOperations)

theorem submit_cases {P : State → Prop} (c : CallId) {operation : IOOperation} {args : Submission} (clock : ℚ)
    (raises : ∀ failure, P (s.setCall c (.failed failure)))
    (refuses : ∀ status quarantined, status = .rejected ∨ status = .unknown ∨ status = .expired →
      P (s.setCall c (.answered (immediate operation status quarantined))))
    (queues : ∀ deadline, args.check = .ok deadline → Room cfg s operation →
      P (s.enlist c { operation, cancelEvent := args.cancelEvent, deadline } (args.timeout.isSome || deadline.isSome))) :
    P (s.submit cfg c operation args clock) := by
  unfold State.submit
  split
  · exact raises _
  rename_i deadline checked
  refine iteInduction (motive := P) (fun _ => refuses _ _ (.inr (.inr rfl))) fun _ => ?_
  unfold State.accept
  refine iteInduction (motive := P) (fun _ => refuses _ _ (.inl rfl)) fun isOpen => ?_
  refine iteInduction (motive := P) (fun _ => refuses _ _ (.inr (.inl rfl))) fun _ => ?_
  refine iteInduction (motive := P) (fun _ => refuses _ _ (.inr (.inl rfl))) fun calm => ?_
  refine iteInduction (motive := P) (fun _ => refuses _ _ (.inl rfl)) fun few => ?_
  refine iteInduction (motive := P) (fun _ => refuses _ _ (.inl rfl)) fun single => ?_
  refine iteInduction (motive := P) (fun _ => refuses _ _ (.inl rfl)) fun room => ?_
  exact queues deadline checked ⟨Bool.eq_false_iff.mpr isOpen, calm, few, single, room⟩

theorem submit_move (c : CallId) (operation : IOOperation) (args : Submission) (clock : ℚ) :
    BusMove s (s.submit cfg c operation args clock) l := by
  refine submit_cases (P := fun t => BusMove s t l) c clock (fun _ => .shrinks (shrinks_setCall c _ s))
    (fun _ _ _ => .shrinks (shrinks_setCall c _ s)) fun deadline _ fits => ?_
  have calm := fits.calm
  refine .admits _ ⟨rfl, rfl, fun r queued => ?_, rfl, rfl, fun motion => by grind, rfl⟩
  dsimp only [State.enlist, State.setCall] at queued
  split at queued <;> grind

theorem shrinks_recover (c : CallId) (stopConfirmed : Bool) : Shrinks s (s.recover c stopConfirmed) := by
  unfold State.recover
  split
  · exact shrinks_setCall c _ s
  split
  · exact shrinks_setCall c _ s
  split
  · exact shrinks_setCall c _ s
  · exact ⟨⟨rfl, fun _ => rfl⟩, List.Subset.refl _, fun _ held => held, nofun, rfl⟩

theorem shrinks_close (c : CallId) (wait : Option Number) : Shrinks s (s.close c wait) := by
  unfold State.close
  split
  · exact shrinks_setCall c _ s
  split
  · exact shrinks_setCall c _ s
  · refine ⟨⟨?_, fun r => ?_⟩, ?_, fun r held => ?_, fun holds => ?_, ?_⟩
    · exact discardMotion_created _ _ _
    · exact discardMotion_operation _ _ _ r
    · simp only [State.setCall, discardMotion_queue]
      exact List.filter_sublist.subset
    · exact pending_of_worker (discardMotion_worker _ _ { s with closed := true }) r held
    · exact (discardMotion_quarantined _ _ { s with closed := true }).symm.trans holds
    · exact discardMotion_invoked _ _ _

theorem start_move (c : CallId) (op : Operation) (clock : ℚ) : BusMove s (s.start cfg c op clock) l := by
  cases op with
  | execute args => exact submit_move c .execute args clock
  | read => exact submit_move c .read _ clock
  | stop =>
    simp only [State.start]
    split
    · unfold State.preempt
      split <;> exact .shrinks (shrinks_setCall c _ s)
    · exact submit_move c .stop _ clock
  | recover stopConfirmed => exact .shrinks (shrinks_recover c stopConfirmed)
  | close wait => exact .shrinks (shrinks_close c wait)
variable {c : CallId} {r : RequestId}

theorem expire_cases (station : s.calls c = .timedOut r) :
    (¬ s.alarms c ∧ Shrinks s (s.expire c r)) ∨ Alarms s (s.expire c r) c := by
  unfold State.expire
  dsimp only
  split
  · rename_i queuedOnly
    have keeps : Keeps s (s.setRequest r fun request => { request with cancelled := true }) :=
      keeps_setRequest r rfl
    refine .inl ⟨?_, ?_⟩
    · simp only [State.alarms, station, State.motion]
      grind
    by_cases queued : r ∈ s.queue
    · simp only [State.setRequest, queued, if_true]
      exact ⟨⟨rfl, keeps.operation⟩, List.erase_subset, fun _ held => held, id, rfl⟩
    · simp only [State.setRequest, queued, if_false]
      exact ⟨⟨rfl, keeps.operation⟩, List.Subset.refl _, fun _ held => held, id, rfl⟩
  · rename_i begun
    have keeps : Keeps s.enterQuarantine (s.enterQuarantine.setRequest r
        fun request => { request with detached := true }) := keeps_setRequest r rfl
    refine .inr ⟨?_, ⟨?_, fun q => (keeps.operation q).trans ?_⟩, ?_, ?_, ?_, ?_⟩
    · simp only [State.alarms, station, State.motion]
      grind
    all_goals simp [State.setCall, State.setRequest]

theorem Reply.denies_iff (reply : Reply) :
    (reply.result.error.isSome = true ∨ reply.result.stopConfirmed = some false) ↔ reply.denies = true := by
  cases reply <;> simp [Reply.result, Reply.denies]

theorem finishPreemptive_cases {reply : Reply} {bounded : Bool}
    (station : s.calls c = .stopping bounded) (finished : s.stopThreads c = .over reply) :
    (¬ s.alarms c ∧ Shrinks s (s.finishPreemptive c reply)) ∨ Alarms s (s.finishPreemptive c reply) c := by
  have alarms : s.alarms c ↔ reply.denies = true := by simp [State.alarms, station, finished]
  unfold State.finishPreemptive
  dsimp only
  split <;> rename_i denies <;> rw [reply.denies_iff] at denies
  · refine .inr ⟨alarms.mpr denies, ⟨?_, fun r => ?_⟩, ?_, ?_, ?_, ?_⟩
    all_goals simp [State.setCall]
  · exact .inl ⟨fun alarm => denies (alarms.mp alarm), shrinks_quiet rfl rfl rfl rfl rfl rfl⟩

theorem proceed_cases (next : s.proceed c = some t) : (¬ s.alarms c ∧ Shrinks s t) ∨ Alarms s t c := by
  unfold State.proceed at next
  split at next <;> rename_i station
  · split at next <;> cases next
    exact .inl ⟨by simp [State.alarms, station], shrinks_setCall c _ s⟩
  · cases next
    exact expire_cases station
  · split at next <;> cases next
    refine .inl ⟨by simp [State.alarms, station], ?_⟩
    unfold State.startPreemptive
    split
    · exact shrinks_setCall c _ s
    · exact shrinks_quiet rfl rfl rfl rfl rfl rfl
  · split at next
    · rename_i finished
      cases next
      exact finishPreemptive_cases station finished
    · cases next
  · cases next
    refine .inr ⟨by simp [State.alarms, station], ⟨?_, fun r => ?_⟩, ?_, ?_, ?_, ?_⟩
    all_goals simp [State.setCall]
  · cases next
    exact .inl ⟨by simp [State.alarms, station], shrinks_quiet rfl rfl rfl rfl rfl rfl⟩
  · split at next <;> cases next
    exact .inl ⟨by simp [State.alarms, station], shrinks_setCall c _ s⟩
  · cases next

theorem take_move (next : s.take = some t) (looping : s.worker = .looping) : BusMove s t l := by
  unfold State.take at next
  split at next
  · cases next
  split at next <;> rename_i queue
  · cases next
    exact .shrinks ⟨⟨rfl, fun _ => rfl⟩, List.Subset.refl _, by simp [State.pending], id, rfl⟩
  · rename_i r rest
    cases next
    dsimp only
    split
    · have keeps : Keeps s (s.setRequest r fun request =>
          { request with result := some (immediate request.operation .cancelled), done := true }) :=
        keeps_setRequest r rfl
      exact .takes r ⟨⟨rfl, keeps.operation⟩, queue,
        by simp [State.pending, State.setRequest, looping], rfl, rfl⟩
    · have keeps : Keeps s (s.setRequest r fun request => { request with started := true }) :=
        keeps_setRequest r rfl
      exact .takes r ⟨⟨rfl, keeps.operation⟩, queue, by simp [State.pending, State.setRequest], rfl, rfl⟩

theorem shrinks_check (taken : s.worker = .taken r) (clock : ℚ) : Shrinks s (s.check r clock) := by
  unfold State.check
  dsimp only
  split
  · exact ⟨⟨rfl, fun _ => rfl⟩, List.Subset.refl _, by simp [State.pending], id, rfl⟩
  split
  · exact ⟨⟨rfl, fun _ => rfl⟩, List.Subset.refl _, by simp [State.pending], id, rfl⟩
  · exact ⟨⟨rfl, fun _ => rfl⟩, List.Subset.refl _, by simp [State.pending, taken], id, rfl⟩

theorem Outcome.denies_iff (outcome : Outcome) :
    ((outcome.result .stop).status = .failed ∨ (outcome.result .stop).stopConfirmed = some false) ↔
      outcome.denies = true := by
  rcases outcome with _ | _ | _ | _ <;> simp [Outcome.result, Outcome.denies, Reply.denies]

theorem settles_settle {outcome} (leaving : s.worker = .leaving r outcome) :
    Settles s (s.settle r outcome) r outcome := by
  unfold State.settle
  dsimp only
  split <;> rename_i stop <;> refine ⟨leaving, ⟨rfl, (keeps_setRequest r rfl).operation⟩, rfl, rfl, ?_, rfl⟩
  · simp only [State.setRequest, State.motion, stop]
    grind [outcome.denies_iff]
  · simp [State.setRequest, State.motion, stop]

/-- **All a step does** to the queue, the quarantine, the worker and the operations. -/
theorem bus_move (next : step cfg s l = some t) : BusMove s t l := by
  cases l with simp only [step] at next
  | newEvent | setEvent =>
    cases next
    exact .shrinks (shrinks_quiet rfl rfl rfl rfl rfl rfl)
  | start c op clock =>
    split at next <;> cases next
    exact start_move c op clock
  | proceed c => exact (proceed_cases next).elim (fun ⟨_, facts⟩ => .shrinks facts) (.alarms c rfl)
  | timeout c =>
    simp only [State.timeout] at next
    split at next
    · split at next <;> cases next
      exact .shrinks (shrinks_setCall c _ s)
    · split at next <;> cases next
      exact .shrinks (shrinks_setCall c _ s)
    · cases next
  | stopCalls | stopReplies | stopClears | stopDone =>
    split at next <;> cases next
    exact .shrinks (shrinks_quiet rfl rfl rfl rfl rfl rfl)
  | take =>
    split at next
    · rename_i looping
      exact take_move next looping
    · cases next
  | check clock =>
    split at next
    · rename_i taken
      cases next
      exact .shrinks (shrinks_check taken clock)
    · cases next
  | call =>
    split at next
    · rename_i r calling
      cases next
      exact .enters r ⟨calling, rfl⟩
    · cases next
  | replies =>
    split at next <;> cases next
    exact .shrinks ⟨⟨rfl, fun _ => rfl⟩, List.Subset.refl _, by simp [State.pending], id, rfl⟩
  | settle =>
    split at next
    · rename_i r outcome leaving
      cases next
      exact .settles r outcome rfl (settles_settle leaving)
    · cases next

/-! ## The exact condition -/

structure Registered (s : State) : Prop where
  queue : ∀ r ∈ s.queue, r < s.created
  pending : ∀ r, s.pending r → r < s.created

/-- While the bus is quarantined no read or action is queued, and the worker holds none whose
callback is still to be entered. -/
def State.ExcludesMotion (s : State) : Prop :=
  s.quarantined = true → (∀ r ∈ s.queue, ¬ s.motion r) ∧ ∀ r, s.pending r → ¬ s.motion r

/-- If the step settles a serialized stop that the driver failed or denied, no motion is queued; if
it is a caller's section that puts the bus in quarantine, the worker holds no motion whose callback
is still to be entered. -/
def QuarantinesClean (s : State) (l : Label) : Prop :=
  (l = .settle → s.settlesDenied → ∀ r ∈ s.queue, ¬ s.motion r) ∧
    ∀ c, l = .proceed c → s.alarms c → ∀ r, s.pending r → ¬ s.motion r

theorem registered_step (inv : Registered s) (next : step cfg s l = some t) : Registered t := by
  cases bus_move next with
  | shrinks facts =>
    exact ⟨fun r queued => facts.keeps.created ▸ inv.queue r (facts.queue queued),
      fun r held => facts.keeps.created ▸ inv.pending r (facts.pending r held)⟩
  | admits request facts =>
    have grown := facts.created
    refine ⟨fun r queued => ?_, fun r held => ?_⟩
    · rcases facts.queue r queued with rfl | before
      · lia
      · have := inv.queue r before
        lia
    · have := inv.pending r (pending_of_worker facts.worker r held)
      lia
  | alarms _ _ facts =>
    refine ⟨fun r queued => facts.keeps.created ▸ inv.queue r ?_,
      fun r held => facts.keeps.created ▸ inv.pending r (pending_of_worker facts.worker r held)⟩
    rw [facts.queue] at queued
    exact (List.mem_filter.mp queued).1
  | takes r facts =>
    have made : ∀ q ∈ s.queue, q < t.created := fun q queued =>
      facts.keeps.created ▸ inv.queue q queued
    rw [facts.queue] at made
    exact ⟨fun q queued => made q (.tail r queued), fun q held => facts.pending q held ▸ made r (.head _)⟩
  | settles r outcome _ facts =>
    refine ⟨fun q queued => facts.keeps.created ▸ inv.queue q (facts.queue ▸ queued), fun q held => ?_⟩
    simp [State.pending, facts.worker] at held
  | enters r facts =>
    obtain rfl := facts.after
    exact ⟨inv.queue, fun q held => by simp [State.pending] at held⟩

theorem excludesMotion_step (registered : Registered s) (inv : s.ExcludesMotion)
    (next : step cfg s l = some t) : t.ExcludesMotion ↔ QuarantinesClean s l := by
  constructor
  · intro excludes
    refine ⟨?_, ?_⟩
    · rintro rfl ⟨r, outcome, leaving, stop, denies⟩ q queued
      obtain rfl : s.settle r outcome = t := Option.some.inj (by simpa [step, leaving] using next)
      have facts := settles_settle leaving
      have quarantined : (s.settle r outcome).quarantined = true := by
        rw [facts.quarantined]
        simp [stop, denies]
      rw [← facts.keeps.motion]
      exact (excludes quarantined).1 q (facts.queue ▸ queued)
    · rintro c rfl alarm r held
      obtain ⟨calm, _⟩ | facts := proceed_cases next
      · exact absurd alarm calm
      · rw [← facts.keeps.motion]
        exact (excludes facts.quarantined).2 r (by rwa [State.pending, facts.worker])
  · rintro ⟨settles, enters⟩ quarantined
    cases bus_move next with
    | shrinks facts =>
      obtain ⟨queue, pending⟩ := inv (facts.quarantined quarantined)
      simp only [facts.keeps.motion]
      exact ⟨fun r queued => queue r (facts.queue queued), fun r held => pending r (facts.pending r held)⟩
    | admits request facts =>
      have before : s.quarantined = true := facts.quarantined ▸ quarantined
      obtain ⟨queue, pending⟩ := inv before
      have older : ∀ r < s.created, (t.motion r ↔ s.motion r) := by
        intro r made
        rw [State.motion, facts.requests, update_of_ne (by lia), State.motion]
      refine ⟨fun r queued => ?_, fun r held => ?_⟩
      · rcases facts.queue r queued with rfl | waited
        · rw [State.motion, facts.requests, update_self]
          intro motion
          cases before.symm.trans (facts.guard motion)
        · rw [older r (registered.queue r waited)]
          exact queue r waited
      · have waited := pending_of_worker facts.worker r held
        rw [older r (registered.pending r waited)]
        exact pending r waited
    | alarms c label facts =>
      simp only [facts.keeps.motion]
      refine ⟨fun r queued => ?_, fun r held =>
        enters c label facts.alarm r (pending_of_worker facts.worker r held)⟩
      rw [facts.queue] at queued
      simpa using (List.mem_filter.mp queued).2
    | takes r facts =>
      have calm := (inv (facts.quarantined ▸ quarantined)).1
      rw [facts.queue] at calm
      simp only [facts.keeps.motion]
      exact ⟨fun q queued => calm q (.tail r queued), fun q held => facts.pending q held ▸ calm r (.head _)⟩
    | settles r outcome label facts =>
      simp only [facts.keeps.motion]
      refine ⟨fun q queued => ?_, fun q held => by simp [State.pending, facts.worker] at held⟩
      rw [facts.queue] at queued
      rw [facts.quarantined] at quarantined
      by_cases before : s.quarantined = true
      · exact (inv before).1 q queued
      · simp only [before, Bool.false_or, Bool.and_eq_true] at quarantined
        exact settles label ⟨r, outcome, facts.leaving, by simpa using quarantined.1, quarantined.2⟩ q queued
    | enters r facts =>
      obtain rfl := facts.after
      exact ⟨(inv quarantined).1, fun q held => by simp [State.pending] at held⟩

theorem registered_init : Registered State.init :=
  ⟨nofun, fun r held => by simp [State.pending, State.init] at held⟩

/-- **Quarantine excludes motion** exactly when every step enters quarantine cleanly. -/
theorem quarantine_excludes_motion {ls : List Label} (ran : run (step cfg) State.init ls = some s) :
    ((∀ before after u, ls = before ++ after → run (step cfg) State.init before = some u →
        u.ExcludesMotion) ↔ Along (step cfg) QuarantinesClean State.init ls) ∧
      (Along (step cfg) QuarantinesClean State.init ls → s.quarantined = true →
        ∀ l t r, step cfg s l = some t → t.invoked = s.invoked ++ [r] → ¬ s.motion r) := by
  have start : Registered State.init ∧ State.init.ExcludesMotion := ⟨registered_init, nofun⟩
  have exact_step : ∀ u l v, Registered u ∧ u.ExcludesMotion → step cfg u l = some v →
      (Registered v ∧ v.ExcludesMotion ↔ QuarantinesClean u l) := fun u l v inv next =>
    (and_iff_right (registered_step inv.1 next)).trans (excludesMotion_step inv.1 inv.2 next)
  have everywhere := along_iff_prefixes exact_step start ran
  refine ⟨⟨fun excludes => everywhere.mp fun before after u split reached =>
      ⟨run_invariant (fun _ _ _ => registered_step) registered_init reached, excludes before after u split reached⟩,
    fun clean before after u split reached => (everywhere.mpr clean before after u split reached).2⟩,
    fun clean quarantined l t r next entered => ?_⟩
  have excludes : s.ExcludesMotion :=
    (everywhere.mpr clean ls [] s (List.append_nil ls).symm ran).2
  cases bus_move next with
  | enters q facts =>
    obtain rfl := facts.after
    obtain rfl : r = q := by simpa using entered.symm
    exact (excludes quarantined).2 r (.inr facts.calling)
  | shrinks facts | admits _ facts | alarms _ _ facts | takes _ facts | settles _ _ _ facts =>
    simp [facts.invoked] at entered

/-- A stop that waits too long drops the queued action. -/
theorem quarantine_excludes_motion_after_timeout : ∃ s, run (step {}) State.init
        [.start 0 (.stop true (some (.finite 1)) none) 0, .start 1 (.execute {}) 0, .timeout 0, .proceed 0] = some s ∧
      s.quarantined = true ∧ s.queue = [0] ∧
      ∀ l t r, step {} s l = some t → t.invoked = s.invoked ++ [r] → ¬ s.motion r := by
  obtain ⟨s, ran, quarantined, queue⟩ : ∃ s, run (step {}) State.init
          [.start 0 (.stop true (some (.finite 1)) none) 0, .start 1 (.execute {}) 0, .timeout 0,
            .proceed 0] = some s ∧
        s.quarantined = true ∧ s.queue = [0] := ⟨_, rfl, rfl, rfl⟩
  refine ⟨s, ran, quarantined, queue, (quarantine_excludes_motion ran).2 ?_ quarantined⟩
  refine ⟨⟨nofun, nofun⟩, fun u first => ⟨⟨nofun, nofun⟩, fun v second => ⟨⟨nofun, nofun⟩,
    fun w third => ⟨⟨nofun, fun c _ _ r held => ?_⟩, fun _ _ => trivial⟩⟩⟩⟩
  cases first
  cases second
  cases third
  rcases held with held | held <;> cases held

/-- Twice a callback of an action is entered in quarantine: after a failed stop, and after the action's own
submitter gave up. -/
theorem motion_started_in_quarantine : (∃ s t, run (step {}) State.init
        [.start 0 (.stop true (some (.finite 1)) none) 0, .start 1 (.execute {}) 0, .take, .check 0,
          .call, .replies (.raised "bus fault"), .settle] = some s ∧
      s.quarantined = true ∧ s.queue = [1] ∧ (s.requests 1).operation = .execute ∧
      run (step {}) s [.take, .check 0, .call] = some t ∧ t.quarantined = true ∧
      t.invoked = [0, 1]) ∧
    ∃ s t, run (step {}) State.init
        [.start 0 (.execute { timeout := some (.finite 0) }) 0, .take, .check 0, .timeout 0, .proceed 0] = some s ∧
      s.quarantined = true ∧ (s.requests 0).operation = .execute ∧
      step {} s .call = some t ∧ t.quarantined = true ∧ t.invoked = [0] :=
  ⟨⟨_, _, rfl, rfl, rfl, rfl, rfl, rfl, rfl⟩, ⟨_, _, rfl, rfl, rfl, rfl, rfl, rfl⟩⟩

end EmbodiRun.Io.Scheduler
