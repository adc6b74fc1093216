/-
# Io.Backlog -- the queue, its counter and its stop

`_queued_reads` and `_queued_stop` say again what the queue holds, and are written in five places.

* `backlog_sound`: **in every reachable state**; and a stop that is queued is the next callback that
  is entered after the call in flight.
-/
import EmbodiRun.Io.Calls

namespace EmbodiRun.Io.Scheduler

open Function
open Transition List

variable {cfg : Config} {s t : State} {l : Label} {ls : List Label}

/-! ## What a step does to the queue and its counters -/

def Request.ask (request : Request) : IOOperation × Option Token × Option ℚ :=
  (request.operation, request.cancelEvent, request.deadline)

namespace State

def isRead (s : State) (r : RequestId) : Bool := (s.requests r).operation = .read

def isStop (s : State) (r : RequestId) : Bool := (s.requests r).operation = .stop

def reads (s : State) : Nat := s.queue.countP s.isRead

def stops (s : State) : Nat := s.queue.countP s.isStop

def activeStops (s : State) : Nat := if s.active.any s.isStop then 1 else 0

end State

inductive CountMove (cfg : Config) (s t : State) : Prop
  | stays (ask : ∀ r, (t.requests r).ask = (s.requests r).ask) (queue : t.queue = s.queue)
      (reads : t.queuedReads = s.queuedReads) (stop : t.queuedStop = s.queuedStop) (active : t.active = s.active)
  | admits (operation : IOOperation) (made : (t.requests s.created).operation = operation)
      (plain : operation = .stop → (t.requests s.created).cancelEvent = none ∧ (t.requests s.created).deadline = none)
      (others : ∀ r, r ≠ s.created → (t.requests r).ask = (s.requests r).ask)
      (bounded : operation ≠ .stop → s.queue.length < cfg.maxPendingOperations)
      (few : operation = .read → s.queuedReads < cfg.maxPendingReads)
      (single : operation = .stop → s.queuedStop = none ∧ s.activeStops = 0)
      (queue : t.queue = if operation = .stop then s.created :: s.queue else s.queue ++ [s.created])
      (reads : t.queuedReads = if operation = .read then s.queuedReads + 1 else s.queuedReads)
      (stop : t.queuedStop = if operation = .stop then some s.created else s.queuedStop)
      (active : t.active = s.active)
  | drops (ask : ∀ r, (t.requests r).ask = (s.requests r).ask)
      (queue : t.queue = s.queue.filter fun r => ¬ s.motion r)
      (reads : t.queuedReads = s.queuedReads - s.reads) (stop : t.queuedStop = s.queuedStop)
      (active : t.active = s.active)
  | withdraws (r : RequestId) (moves : s.motion r) (ask : ∀ q, (t.requests q).ask = (s.requests q).ask)
      (queue : t.queue = s.queue.erase r)
      (reads : t.queuedReads = if r ∈ s.queue ∧ s.isRead r then s.queuedReads - 1 else s.queuedReads)
      (stop : t.queuedStop = s.queuedStop) (active : t.active = s.active)
  | takes (r : RequestId) (looping : s.worker = .looping) (ask : ∀ q, (t.requests q).ask = (s.requests q).ask)
      (queue : s.queue = r :: t.queue)
      (reads : t.queuedReads = if s.isRead r then s.queuedReads - 1 else s.queuedReads)
      (stop : t.queuedStop = if s.queuedStop = some r then none else s.queuedStop)
      (active : t.active = s.active ∨ t.active = some r)
  | settles (ask : ∀ r, (t.requests r).ask = (s.requests r).ask) (queue : t.queue = s.queue)
      (reads : t.queuedReads = s.queuedReads) (stop : t.queuedStop = s.queuedStop) (active : t.active = none)

section

variable (status : IOStatus) (quarantined : Bool) (s : State)

@[simp] theorem discardMotion_queuedReads :
    (s.discardMotion status quarantined).queuedReads = s.queuedReads - s.reads := by
  rw [discardMotion_eq]
  rfl

@[simp] theorem discardMotion_queuedStop : (s.discardMotion status quarantined).queuedStop = s.queuedStop := by
  rw [discardMotion_eq]

@[simp] theorem discardMotion_active : (s.discardMotion status quarantined).active = s.active := by
  rw [discardMotion_eq]

@[simp] theorem discardMotion_ask (r : RequestId) :
    ((s.discardMotion status quarantined).requests r).ask = (s.requests r).ask := by
  rw [discardMotion_eq]
  dsimp only
  split <;> rfl

theorem enterQuarantine_counts : CountMove cfg s s.enterQuarantine :=
  .drops (discardMotion_ask _ _ _) (discardMotion_queue _ _ _) (discardMotion_queuedReads _ _ _)
    (discardMotion_queuedStop _ _ _) (discardMotion_active _ _ _)

end

theorem ask_update {requests : RequestId → Request} {request : Request} (r : RequestId)
    (keeps : request.ask = (requests r).ask) (q : RequestId) :
    (update requests r request q).ask = (requests q).ask := by
  by_cases same : q = r
  · subst same
    rw [update_self]
    exact keeps
  · rw [update_of_ne same]

theorem CountMove.quiet {u : State} (move : CountMove cfg s t)
    (ask : ∀ r, (u.requests r).ask = (t.requests r).ask) (queue : u.queue = t.queue)
    (reads : u.queuedReads = t.queuedReads) (stop : u.queuedStop = t.queuedStop) (active : u.active = t.active) :
    CountMove cfg s u := by
  cases move with
  | stays ask' queue' reads' stop' active' =>
    exact .stays (fun r => (ask r).trans (ask' r)) (queue.trans queue') (reads.trans reads')
      (stop.trans stop') (active.trans active')
  | admits operation made plain others bounded few single queue' reads' stop' active' =>
    have same := ask s.created
    simp only [Request.ask, Prod.mk.injEq] at same
    exact .admits operation (same.1.trans made)
      (fun stops => ⟨same.2.1.trans (plain stops).1, same.2.2.trans (plain stops).2⟩)
      (fun r other => (ask r).trans (others r other)) bounded few single (queue.trans queue') (reads.trans reads')
      (stop.trans stop') (active.trans active')
  | drops ask' queue' reads' stop' active' =>
    exact .drops (fun r => (ask r).trans (ask' r)) (queue.trans queue') (reads.trans reads')
      (stop.trans stop') (active.trans active')
  | withdraws r moves ask' queue' reads' stop' active' =>
    exact .withdraws r moves (fun r => (ask r).trans (ask' r)) (queue.trans queue') (reads.trans reads')
      (stop.trans stop') (active.trans active')
  | takes r looping ask' queue' reads' stop' active' =>
    exact .takes r looping (fun r => (ask r).trans (ask' r)) (queue ▸ queue') (reads.trans reads')
      (stop.trans stop') (active'.imp active.trans active.trans)
  | settles ask' queue' reads' stop' active' =>
    exact .settles (fun r => (ask r).trans (ask' r)) (queue.trans queue') (reads.trans reads')
      (stop.trans stop') (active.trans active')

theorem counts_same (requests : t.requests = s.requests) (queue : t.queue = s.queue)
    (reads : t.queuedReads = s.queuedReads) (stop : t.queuedStop = s.queuedStop) (active : t.active = s.active) :
    CountMove cfg s t :=
  .stays (fun r => congrArg (fun requests => (requests r).ask) requests) queue reads stop active

theorem check_deadline {args : Submission} {deadline : Option ℚ} (checked : args.check = .ok deadline)
    (none_ : args.deadline = none) : deadline = none := by
  unfold Submission.check at checked
  rw [none_] at checked
  cases callable : args.callable <;> cases valid : validateTimeout args.timeout "timeout_s" <;>
    simp [callable, valid, bind, Except.bind] at checked
  exact checked.symm

theorem submit_counts (c : CallId) (operation : IOOperation) (args : Submission) (clock : ℚ)
    (plain : operation = .stop → args.cancelEvent = none ∧ args.deadline = none) :
    CountMove cfg s (s.submit cfg c operation args clock) := by
  refine submit_cases (P := CountMove cfg s) c clock (fun _ => counts_same rfl rfl rfl rfl rfl)
    (fun _ _ _ => counts_same rfl rfl rfl rfl rfl) fun deadline checked fits => ?_
  let request : Request := { operation, cancelEvent := args.cancelEvent, deadline }
  have made : update s.requests s.created request s.created = request := update_self ..
  refine .admits operation (congrArg Request.operation made) (fun stop => ?_) (fun r other => ?_)
    (fun moves => ?_) (fun reads => ?_) (fun stop => ?_) rfl rfl rfl rfl
  · show (update s.requests s.created request s.created).cancelEvent = none ∧ _
    rw [made]
    exact ⟨(plain stop).1, (congrArg Request.deadline made).trans (check_deadline checked (plain stop).2)⟩
  · show (update s.requests s.created request r).ask = _
    rw [update_of_ne other]
  · by_contra full
    exact fits.room ⟨moves, Nat.not_lt.mp full⟩
  · by_contra many
    exact fits.few ⟨reads, Int.not_lt.mp many⟩
  · have single := fits.single
    rw [not_and, not_or] at single
    obtain ⟨unqueued, idle⟩ := single stop
    refine ⟨Option.not_isSome_iff_eq_none.mp unqueued, ?_⟩
    exact if_neg idle

theorem start_counts (c : CallId) (op : Operation) (clock : ℚ) : CountMove cfg s (s.start cfg c op clock) := by
  cases op with
  | execute args => exact submit_counts c .execute args clock nofun
  | read => exact submit_counts c .read _ clock nofun
  | stop =>
    simp only [State.start]
    split
    · unfold State.preempt
      split <;> exact counts_same rfl rfl rfl rfl rfl
    · exact submit_counts c .stop _ clock fun _ => ⟨rfl, rfl⟩
  | recover =>
    simp only [State.start, State.recover]
    split
    · exact counts_same rfl rfl rfl rfl rfl
    split
    · exact counts_same rfl rfl rfl rfl rfl
    split <;> exact counts_same rfl rfl rfl rfl rfl
  | close =>
    simp only [State.start, State.close]
    split
    · exact counts_same rfl rfl rfl rfl rfl
    split
    · exact counts_same rfl rfl rfl rfl rfl
    · have drops : CountMove cfg s ({ s with closed := true }.discardMotion .cancelled false) :=
        .drops (discardMotion_ask _ _ _) (discardMotion_queue _ _ _) (discardMotion_queuedReads _ _ _)
          (discardMotion_queuedStop _ _ _) (discardMotion_active _ _ _)
      exact drops.quiet (fun _ => rfl) rfl rfl rfl rfl

theorem expire_counts (c : CallId) (r : RequestId) : CountMove cfg s (s.expire c r) := by
  by_cases begun : (s.requests r).started = true ∨ ¬ s.motion r
  · rw [expire_begun c begun]
    exact (enterQuarantine_counts s).quiet (ask_update r rfl) rfl rfl rfl rfl
  · rw [expire_withdrawn c begun]
    rw [not_or, not_not] at begun
    refine .withdraws r begun.2 (ask_update r rfl) rfl ?_ rfl rfl
    simp only [State.isRead, decide_eq_true_eq]

theorem proceed_counts {c : CallId} (next : s.proceed c = some t) : CountMove cfg s t := by
  unfold State.proceed at next
  split at next
  · split at next <;> cases next
    exact counts_same rfl rfl rfl rfl rfl
  · cases next
    exact expire_counts c _
  · split at next <;> cases next
    unfold State.startPreemptive
    split <;> exact counts_same rfl rfl rfl rfl rfl
  · split at next <;> cases next
    unfold State.finishPreemptive
    dsimp only
    split
    · exact (enterQuarantine_counts s).quiet (fun _ => rfl) rfl rfl rfl rfl
    · exact counts_same rfl rfl rfl rfl rfl
  · cases next
    exact (enterQuarantine_counts s).quiet (fun _ => rfl) rfl rfl rfl rfl
  · cases next
    exact counts_same rfl rfl rfl rfl rfl
  · split at next <;> cases next
    exact counts_same rfl rfl rfl rfl rfl
  · cases next

/-- **All a step does** to the queue, its counters and the active slot. -/
theorem count_move (next : step cfg s l = some t) : CountMove cfg s t := by
  cases l with simp only [step] at next
  | newEvent | setEvent =>
    cases next
    exact counts_same rfl rfl rfl rfl rfl
  | start c op clock =>
    split at next <;> cases next
    exact start_counts c op clock
  | proceed => exact proceed_counts next
  | timeout =>
    simp only [State.timeout] at next
    split at next
    · split at next <;> cases next
      exact counts_same rfl rfl rfl rfl rfl
    · split at next <;> cases next
      exact counts_same rfl rfl rfl rfl rfl
    · cases next
  | stopCalls | stopReplies | stopClears | stopDone | call | replies =>
    split at next <;> cases next
    exact counts_same rfl rfl rfl rfl rfl
  | take =>
    split at next
    · rename_i looping
      have popped (r : RequestId) : (if s.isRead r = true then s.queuedReads - 1 else s.queuedReads) =
          if (s.requests r).operation = .read then s.queuedReads - 1 else s.queuedReads := by
        simp only [State.isRead, decide_eq_true_eq]
      cases (take_cases next).2 with
      | ends => exact counts_same rfl rfl rfl rfl rfl
      | skips r rest queue =>
        exact .takes r looping (ask_update r rfl) queue (popped r).symm rfl (.inl rfl)
      | takes r rest queue =>
        exact .takes r looping (ask_update r rfl) queue (popped r).symm rfl (.inr rfl)
    · cases next
  | check =>
    split at next <;> cases next
    unfold State.check
    dsimp only
    split
    · exact counts_same rfl rfl rfl rfl rfl
    split <;> exact counts_same rfl rfl rfl rfl rfl
  | settle =>
    split at next
    · rename_i r outcome leaving
      cases next
      unfold State.settle
      dsimp only
      split <;> exact .settles (ask_update r rfl) rfl rfl rfl rfl
    · cases next

/-! ## What the queue and its counters have to do with each other -/

def State.Slotted (s : State) : Prop := s.active = s.worker.request?

theorem slotted_step (inv : s.Slotted) (next : step cfg s l = some t) : t.Slotted := by
  by_cases other : l.ofWorker = false
  · have frame := worker_frame other next
    exact frame.active.trans (inv.trans (congrArg Worker.request? frame.worker.symm))
  cases l with
  | take =>
    simp only [step] at next
    split at next
    · rename_i looping
      have idle : s.active = none := inv.trans (congrArg Worker.request? looping)
      cases (take_cases next).2 with
      | ends => exact idle
      | skips => exact idle.trans (congrArg Worker.request? looping).symm
      | takes => rfl
    · cases next
  | check clock =>
    simp only [step] at next
    split at next
    · rename_i r taken
      cases next
      have held : s.active = some r := inv.trans (congrArg Worker.request? taken)
      unfold State.check
      dsimp only
      split
      · exact held
      split <;> exact held
    · cases next
  | call =>
    simp only [step] at next
    split at next
    · rename_i r calling
      cases next
      have held : s.active = some r := inv.trans (congrArg Worker.request? calling)
      exact held
    · cases next
  | replies reply =>
    simp only [step] at next
    split at next
    · rename_i r inside
      cases next
      have held : s.active = some r := inv.trans (congrArg Worker.request? inside)
      exact held
    · cases next
  | settle =>
    simp only [step] at next
    split at next <;> cases next
    unfold State.settle
    dsimp only
    split <;> rfl
  | _ => exact absurd rfl other

structure Backlog (cfg : Config) (s : State) : Prop where
  /-- `_queued_reads` counts the reads in the queue. -/
  counted : s.queuedReads = s.reads
  fewReads : s.reads ≤ cfg.maxPendingReads
  fewMotions : (s.queue.countP fun r => !s.isStop r) ≤ cfg.maxPendingOperations
  oneStop : s.stops + s.activeStops ≤ 1
  /-- A stop in the queue is ahead of it all, and is `_queued_stop`. -/
  ahead : ∀ r ∈ s.queue, s.isStop r = true → s.queue.head? = some r ∧ s.queuedStop = some r
  recorded : ∀ r, s.queuedStop = some r → r ∈ s.queue ∧ s.isStop r = true

theorem backlog_init : Backlog cfg State.init :=
  ⟨rfl, Nat.zero_le _, Nat.zero_le _, Nat.zero_le _, nofun, nofun⟩
variable {r : RequestId}

theorem isRead_eq (ask : (t.requests r).ask = (s.requests r).ask) : t.isRead r = s.isRead r := by
  simp only [Request.ask, Prod.mk.injEq] at ask
  rw [State.isRead, State.isRead, ask.1]

theorem isStop_eq (ask : (t.requests r).ask = (s.requests r).ask) : t.isStop r = s.isStop r := by
  simp only [Request.ask, Prod.mk.injEq] at ask
  rw [State.isStop, State.isStop, ask.1]

theorem isStop_of_isRead (read : s.isRead r = true) : s.isStop r = false := by
  simp only [State.isRead, State.isStop, decide_eq_true_eq, decide_eq_false_iff_not] at read ⊢
  rw [read]
  nofun

theorem motion_iff : s.motion r ↔ s.isStop r = false := by
  simp only [State.motion, State.isStop, decide_eq_false_iff_not, ne_eq]

theorem activeStops_eq (active : t.active = s.active) (same : ∀ r, s.active = some r → t.isStop r = s.isStop r) :
    t.activeStops = s.activeStops := by
  unfold State.activeStops
  rw [active]
  cases slot : s.active with
  | none => rfl
  | some r => simp only [Option.any_some, same r slot]

theorem Backlog.front (inv : Backlog cfg s) (queued : r ∈ s.queue) (stop : s.isStop r = true) :
    ∃ rest, s.queue = r :: rest :=
  List.head?_eq_some_iff.mp (inv.ahead r queued stop).1

theorem Backlog.unqueued (inv : Backlog cfg s) (none_ : s.queuedStop = none) : s.stops = 0 := by
  refine List.countP_eq_zero.mpr fun r queued stop => ?_
  have recorded := (inv.ahead r queued stop).2
  rw [none_] at recorded
  cases recorded

theorem backlog_step (placed : Placed s) (slotted : s.Slotted) (inv : Backlog cfg s)
    (next : step cfg s l = some t) : Backlog cfg t := by
  cases count_move next with
  | stays ask queue reads stop active =>
    have isRead : t.isRead = s.isRead := funext fun r => isRead_eq (ask r)
    have isStop : t.isStop = s.isStop := funext fun r => isStop_eq (ask r)
    have sameReads : t.reads = s.reads := by rw [State.reads, State.reads, queue, isRead]
    refine ⟨reads.trans (inv.counted.trans (congrArg _ sameReads.symm)), sameReads ▸ inv.fewReads, ?_, ?_, ?_, ?_⟩
    · rw [queue, isStop]
      exact inv.fewMotions
    · rw [State.stops, queue, isStop, activeStops_eq active fun r _ => congrFun isStop r]
      exact inv.oneStop
    · rw [queue, isStop, stop]
      exact inv.ahead
    · rw [queue, isStop, stop]
      exact inv.recorded
  | admits operation made plain others bounded few single queue reads stop active =>
    have fresh (r : RequestId) (queued : r ∈ s.queue) : r ≠ s.created := (placed.queued r queued).1.ne
    have isRead : s.queue.countP t.isRead = s.reads :=
      countP_congr fun r queued => by rw [isRead_eq (others r (fresh r queued))]
    have isStop : s.queue.countP t.isStop = s.stops :=
      countP_congr fun r queued => by rw [isStop_eq (others r (fresh r queued))]
    have isMotion : (s.queue.countP fun r => !t.isStop r) = s.queue.countP fun r => !s.isStop r :=
      countP_congr fun r queued => by rw [isStop_eq (others r (fresh r queued))]
    have idle : t.activeStops = s.activeStops := activeStops_eq active fun r slot =>
      isStop_eq (others r (placed.held r (slotted.symm.trans slot)).1.ne)
    by_cases kind : operation = .stop
    · subst kind
      obtain ⟨unqueued, inactive⟩ := single rfl
      rw [if_pos rfl] at queue stop
      rw [if_neg nofun] at reads
      have newStop : t.isStop s.created = true := decide_eq_true made
      have newRead : t.isRead s.created = false := by
        by_contra read
        rw [isStop_of_isRead (Bool.not_eq_false _ ▸ read)] at newStop
        cases newStop
      have sameReads : t.reads = s.reads := by
        rw [State.reads, queue, countP_cons_of_neg (by rw [newRead]; nofun), isRead]
      refine ⟨reads.trans (inv.counted.trans (congrArg _ sameReads.symm)), sameReads ▸ inv.fewReads, ?_, ?_, ?_, ?_⟩
      · rw [queue, countP_cons_of_neg (by rw [newStop]; nofun), isMotion]
        exact inv.fewMotions
      · rw [State.stops, queue, countP_cons_of_pos newStop, isStop, inv.unqueued unqueued, idle, inactive]
      · intro r queued stops
        rw [queue] at queued ⊢
        rcases List.mem_cons.mp queued with rfl | before
        · exact ⟨rfl, stop⟩
        · rw [isStop_eq (others r (fresh r before))] at stops
          have recorded := (inv.ahead r before stops).2
          rw [unqueued] at recorded
          cases recorded
      · intro r recorded
        obtain rfl := Option.some.inj (stop.symm.trans recorded)
        rw [queue]
        exact ⟨mem_cons_self, newStop⟩
    · rw [if_neg kind] at queue stop
      have newStop : t.isStop s.created = false := decide_eq_false (made ▸ kind)
      have newRead : t.isRead s.created = decide (operation = .read) := by
        rw [State.isRead, made]
      have grown : t.reads = s.reads + if operation = .read then 1 else 0 := by
        rw [State.reads, queue, countP_append, isRead, countP_singleton, newRead]
        simp only [decide_eq_true_eq]
      refine ⟨?_, ?_, ?_, ?_, ?_, ?_⟩
      · have counted := inv.counted
        rw [reads, grown]
        split <;> lia
      · have counted := inv.counted
        have fewReads := inv.fewReads
        rw [grown]
        split
        · rename_i read
          have room := few read
          lia
        · lia
      · have room := bounded kind
        have least : (s.queue.countP fun r => !s.isStop r) ≤ s.queue.length := countP_le_length
        rw [queue, countP_append, isMotion, countP_singleton, newStop]
        simp only [Bool.not_false, if_true]
        lia
      · rw [State.stops, queue, countP_append, isStop, countP_singleton, newStop, idle]
        exact inv.oneStop
      · intro r queued stops
        rw [queue] at queued ⊢
        rcases List.mem_append.mp queued with before | new
        · rw [isStop_eq (others r (fresh r before))] at stops
          obtain ⟨rest, front⟩ := inv.front before stops
          exact ⟨by rw [front]; rfl, stop.trans (inv.ahead r before stops).2⟩
        · rw [List.mem_singleton.mp new, newStop] at stops
          cases stops
      · intro r recorded
        obtain ⟨before, stops⟩ := inv.recorded r (stop.symm.trans recorded)
        rw [queue]
        exact ⟨mem_append_left _ before, (isStop_eq (others r (fresh r before))).trans stops⟩
  | drops ask queue reads stop active =>
    have isRead : t.isRead = s.isRead := funext fun r => isRead_eq (ask r)
    have isStop : t.isStop = s.isStop := funext fun r => isStop_eq (ask r)
    have kept (r : RequestId) : r ∈ t.queue ↔ r ∈ s.queue ∧ s.isStop r = true := by
      rw [queue, mem_filter, decide_eq_true_eq, motion_iff, Bool.not_eq_false]
    have noReads : t.reads = 0 := List.countP_eq_zero.mpr fun r queued read => by
      rw [isRead] at read
      have stops := ((kept r).mp queued).2
      rw [isStop_of_isRead read] at stops
      cases stops
    have counted := inv.counted
    refine ⟨by rw [reads, noReads]; lia, noReads ▸ Nat.zero_le _, ?_, ?_, ?_, ?_⟩
    · refine (List.countP_eq_zero.mpr fun r queued moves => ?_).trans_le (Nat.zero_le _)
      rw [isStop, ((kept r).mp queued).2] at moves
      cases moves
    · have fewer : t.stops ≤ s.stops := by
        rw [State.stops, State.stops, queue, isStop]
        exact List.Sublist.countP_le filter_sublist
      have same := activeStops_eq active fun r _ => congrFun isStop r
      have oneStop := inv.oneStop
      lia
    · intro r queued stops
      obtain ⟨before, stops⟩ := (kept r).mp queued
      obtain ⟨rest, front⟩ := inv.front before stops
      refine ⟨?_, stop.trans (inv.ahead r before stops).2⟩
      have still : ¬ s.motion r := by rw [motion_iff, stops]; nofun
      rw [queue, front, filter_cons, if_pos (decide_eq_true still)]
      rfl
    · intro r recorded
      obtain ⟨before, stops⟩ := inv.recorded r (stop.symm.trans recorded)
      exact ⟨(kept r).mpr ⟨before, stops⟩, isStop ▸ stops⟩
  | withdraws r moves ask queue reads stop active =>
    have isRead : t.isRead = s.isRead := funext fun r => isRead_eq (ask r)
    have isStop : t.isStop = s.isStop := funext fun r => isStop_eq (ask r)
    have moves := motion_iff.mp moves
    have shorter : t.queue.Sublist s.queue := queue ▸ erase_sublist
    have fewer : t.reads = s.reads - if r ∈ s.queue ∧ s.isRead r = true then 1 else 0 := by
      rw [State.reads, State.reads, queue, isRead, countP_erase]
    refine ⟨?_, ?_, ?_, ?_, ?_, ?_⟩
    · have counted := inv.counted
      rw [reads, fewer]
      split
      · rename_i read
        have some_ : 0 < s.reads := List.countP_pos_iff.mpr ⟨r, read⟩
        lia
      · lia
    · exact (Nat.le_trans (fewer ▸ Nat.sub_le _ _) inv.fewReads)
    · rw [isStop]
      exact (List.Sublist.countP_le shorter).trans inv.fewMotions
    · have fewer : t.stops ≤ s.stops := by
        rw [State.stops, State.stops, isStop]
        exact List.Sublist.countP_le shorter
      have same := activeStops_eq active fun r _ => congrFun isStop r
      have oneStop := inv.oneStop
      lia
    · intro q queued stops
      rw [isStop] at stops
      have before := shorter.subset queued
      obtain ⟨rest, front⟩ := inv.front before stops
      refine ⟨?_, stop.trans (inv.ahead q before stops).2⟩
      have other : q ≠ r := by
        rintro rfl
        rw [moves] at stops
        cases stops
      rw [queue, front, erase_cons_tail (by simpa using other)]
      rfl
    · intro q recorded
      obtain ⟨before, stops⟩ := inv.recorded q (stop.symm.trans recorded)
      have other : q ≠ r := by
        rintro rfl
        rw [moves] at stops
        cases stops
      exact ⟨queue ▸ (mem_erase_of_ne other).mpr before, isStop ▸ stops⟩
  | takes r looping ask queue reads stop active =>
    have isRead : t.isRead = s.isRead := funext fun r => isRead_eq (ask r)
    have isStop : t.isStop = s.isStop := funext fun r => isStop_eq (ask r)
    have idle : s.active = none := slotted.trans (congrArg Worker.request? looping)
    have noStop (q : RequestId) (queued : q ∈ t.queue) : s.isStop q = false := by
      by_contra stops
      obtain ⟨rest, front⟩ := inv.front (queue ▸ mem_cons_of_mem r queued) (Bool.not_eq_false _ ▸ stops)
      obtain ⟨rfl, -⟩ := List.cons.inj (queue.symm.trans front)
      exact (List.nodup_cons.mp (queue ▸ placed.nodup)).1 queued
    have counted := inv.counted
    have popped : s.reads = t.reads + if s.isRead r = true then 1 else 0 := by
      rw [State.reads, State.reads, queue, isRead, countP_cons]
    refine ⟨?_, ?_, ?_, ?_, ?_, ?_⟩
    · rw [reads]
      split at popped <;> rename_i read <;> rw [popped] at counted
      · rw [if_pos read]
        lia
      · rw [if_neg read]
        lia
    · have fewReads := inv.fewReads
      lia
    · have fewMotions := inv.fewMotions
      rw [queue, countP_cons] at fewMotions
      rw [isStop]
      lia
    · have none_ : t.stops = 0 := List.countP_eq_zero.mpr fun q queued stops => by
        rw [isStop, noStop q queued] at stops
        cases stops
      have one : t.activeStops ≤ 1 := by
        unfold State.activeStops
        split <;> lia
      lia
    · intro q queued stops
      rw [isStop, noStop q queued] at stops
      cases stops
    · intro q recorded
      rw [stop] at recorded
      split at recorded
      · cases recorded
      · rename_i other
        obtain ⟨before, stops⟩ := inv.recorded q recorded
        rw [queue] at before
        rcases List.mem_cons.mp before with rfl | before
        · exact absurd recorded other
        · rw [noStop q before] at stops
          cases stops
  | settles ask queue reads stop active =>
    have isRead : t.isRead = s.isRead := funext fun r => isRead_eq (ask r)
    have isStop : t.isStop = s.isStop := funext fun r => isStop_eq (ask r)
    have sameReads : t.reads = s.reads := by rw [State.reads, State.reads, queue, isRead]
    refine ⟨reads.trans (inv.counted.trans (congrArg _ sameReads.symm)), sameReads ▸ inv.fewReads, ?_, ?_, ?_, ?_⟩
    · rw [queue, isStop]
      exact inv.fewMotions
    · have idle : t.activeStops = 0 := by rw [State.activeStops, active]; rfl
      have same : t.stops = s.stops := by rw [State.stops, State.stops, queue, isStop]
      have oneStop := inv.oneStop
      lia
    · rw [queue, isStop, stop]
      exact inv.ahead
    · rw [queue, isStop, stop]
      exact inv.recorded

/-! ## The stop is next -/

def State.StopsPlain (s : State) : Prop :=
  ∀ r, s.isStop r = true → (s.requests r).cancelEvent = none ∧ (s.requests r).deadline = none

theorem stopsPlain_step (inv : s.StopsPlain) (next : step cfg s l = some t) : t.StopsPlain := by
  have same (ask : ∀ r, (t.requests r).ask = (s.requests r).ask) : t.StopsPlain := fun r stop => by
    have plain := inv r (isStop_eq (ask r) ▸ stop)
    have equal := ask r
    simp only [Request.ask, Prod.mk.injEq] at equal
    exact ⟨equal.2.1.trans plain.1, equal.2.2.trans plain.2⟩
  cases count_move next with
  | stays ask | drops ask | withdraws _ _ ask | takes _ _ ask | settles ask => exact same ask
  | admits operation made plain others =>
    intro r stop
    by_cases new : r = s.created
    · subst new
      rw [State.isStop, made] at stop
      exact plain (decide_eq_true_eq.mp stop)
    · have equal := others r new
      have before := inv r (isStop_eq equal ▸ stop)
      simp only [Request.ask, Prod.mk.injEq] at equal
      exact ⟨equal.2.1.trans before.1, equal.2.2.trans before.2⟩

structure Orderly (cfg : Config) (s : State) : Prop where
  placed : Placed s
  slotted : s.Slotted
  backlog : Backlog cfg s
  plain : s.StopsPlain

theorem orderly_step (inv : Orderly cfg s) (next : step cfg s l = some t) : Orderly cfg t :=
  ⟨placed_step inv.placed next, slotted_step inv.slotted next,
    backlog_step inv.placed inv.slotted inv.backlog next, stopsPlain_step inv.plain next⟩

theorem orderly_run (ran : run (step cfg) State.init ls = some s) : Orderly cfg s :=
  run_invariant (fun _ _ _ => orderly_step) ⟨placed_init, rfl, backlog_init, fun _ _ => ⟨rfl, rfl⟩⟩ ran

/-- Since `s`, where the stop `r` was in the queue: the worker finishes what it has in hand, takes `r`
and enters its callback; and no preemptive stop is started before. -/
inductive StopNext (s : State) (r : RequestId) (t : State) : Prop
  | queued (here : r ∈ t.queue) (stop : t.isStop r = true)
      (hand : (t.invoked = s.invoked ∧ ∀ q, t.pending q → s.pending q) ∨
        (∃ q, s.pending q ∧ t.invoked = s.invoked ++ [q] ∧ ∀ q, ¬ t.pending q))
      (threads : ∀ c, t.stopThreads c = .started → s.stopThreads c = .started)
  | taken (pending : t.pending r) (stop : t.isStop r = true)
      (hand : t.invoked = s.invoked ∨ ∃ q, s.pending q ∧ t.invoked = s.invoked ++ [q])
  | entered (hand : ∃ before later, t.invoked = s.invoked ++ before ++ r :: later ∧
      (before = [] ∨ ∃ q, s.pending q ∧ before = [q]))

theorem isStop_step (made : r < s.created) (next : step cfg s l = some t) : t.isStop r = s.isStop r := by
  cases count_move next with
  | stays ask | drops ask | withdraws _ _ ask | takes _ _ ask | settles ask => exact isStop_eq (ask r)
  | admits _ _ _ others => exact isStop_eq (others r made.ne)

theorem invoked_step (quiet : l ≠ .call) (next : step cfg s l = some t) : t.invoked = s.invoked := by
  by_cases other : l.ofWorker = false
  · exact (worker_frame other next).invoked
  cases l with
  | take =>
    simp only [step] at next
    split at next
    · cases (take_cases next).2 <;> rfl
    · cases next
  | check =>
    simp only [step] at next
    split at next <;> cases next
    unfold State.check
    dsimp only
    split
    · rfl
    split <;> rfl
  | call => exact absurd rfl quiet
  | replies =>
    simp only [step] at next
    split at next <;> cases next
    rfl
  | settle =>
    simp only [step] at next
    split at next <;> cases next
    unfold State.settle
    dsimp only
    split <;> rfl
  | _ => exact absurd rfl other

theorem pending_of_request (pending : s.pending r) : s.worker.request? = some r := by
  rcases pending with taken | calling
  · rw [taken]
    rfl
  · rw [calling]
    rfl

theorem threads_step (inv : Backlog cfg s) (queued : r ∈ s.queue) (stop : s.isStop r = true)
    (next : step cfg s l = some t) (c : CallId) (started : t.stopThreads c = .started) :
    s.stopThreads c = .started := by
  have update {d : CallId} {thread : StopThread} (threads : t.stopThreads = update s.stopThreads d thread)
      (other : thread ≠ .started) : s.stopThreads c = .started := by
    rw [threads] at started
    by_cases same : c = d
    · subst same
      rw [update_self] at started
      exact absurd started other
    · rwa [update_of_ne same] at started
  cases thread_move next with
  | stays threads => rwa [threads] at started
  | starts d _ guard =>
    have recorded := (inv.ahead r queued stop).2
    rw [guard.2.2.2.2] at recorded
    cases recorded
  | calls d _ _ threads | replies d _ _ _ threads | clears d _ _ _ threads | ends d _ _ _ threads =>
    exact update threads nofun

theorem stopNext_step {u} (inv : Orderly cfg t) (before : StopNext s r t)
    (next : step cfg t l = some u) : StopNext s r u := by
  cases before with
  | entered hand =>
    obtain ⟨first, later, invoked, hand⟩ := hand
    have grows : ∃ more, u.invoked = t.invoked ++ more := by
      cases bus_move next with
      | enters q facts => exact ⟨[q], by rw [facts.after]⟩
      | shrinks facts | admits _ facts | alarms _ _ facts | takes _ facts | settles _ _ _ facts =>
        exact ⟨[], by rw [facts.invoked, append_nil]⟩
    obtain ⟨more, grows⟩ := grows
    exact .entered ⟨first, later ++ more, by rw [grows, invoked, append_assoc, cons_append], hand⟩
  | taken pending stop hand =>
    have made := (inv.placed.held r (pending_of_request pending)).1
    have stop' := (isStop_step made next).trans stop
    have still (quiet : l ≠ .call) (pending : u.pending r) : StopNext s r u :=
      .taken pending stop' (by rwa [invoked_step quiet next])
    by_cases other : l.ofWorker = false
    · refine still ?_ (pending_of_worker (worker_frame other next).worker.symm r pending)
      rintro rfl
      cases other
    cases l with
    | take =>
      simp only [step] at next
      split at next
      · rename_i looping
        rcases pending with held | held <;> rw [looping] at held <;> cases held
      · cases next
    | check clock =>
      refine still (by simp) ?_
      simp only [step] at next
      split at next
      · rename_i q taken
        obtain rfl : q = r := by
          rcases pending with held | held <;> rw [taken] at held <;> cases held
          rfl
        cases next
        obtain ⟨uncancelled, undated⟩ := inv.plain q stop
        unfold State.check
        simp only [undated, uncancelled, Option.any_none, Bool.false_eq_true, if_false]
        exact .inr rfl
      · cases next
    | call =>
      simp only [step] at next
      split at next
      · rename_i q calling
        obtain rfl : q = r := by
          rcases pending with held | held <;> rw [calling] at held <;> cases held
          rfl
        cases next
        rcases hand with invoked | ⟨p, held, invoked⟩
        · exact .entered ⟨[], [], by rw [invoked, append_nil], .inl rfl⟩
        · exact .entered ⟨[p], [], by rw [invoked], .inr ⟨p, held, rfl⟩⟩
      · cases next
    | replies reply =>
      simp only [step] at next
      split at next
      · rename_i q inside
        rcases pending with held | held <;> rw [inside] at held <;> cases held
      · cases next
    | settle =>
      simp only [step] at next
      split at next
      · rename_i q outcome leaving
        rcases pending with held | held <;> rw [leaving] at held <;> cases held
      · cases next
    | _ => exact absurd rfl other
  | queued here stop hand threads =>
    have stop' := (isStop_step (inv.placed.queued r here).1 next).trans stop
    have threads' := fun c started => threads c (threads_step inv.backlog here stop next c started)
    obtain ⟨rest, front⟩ := inv.backlog.front here stop
    -- Callers leave the worker alone, and the stop in the queue.
    have waits (other : l.ofWorker = false) (here : r ∈ u.queue) : StopNext s r u := by
      have frame := worker_frame other next
      refine .queued here stop' ?_ threads'
      rw [frame.invoked]
      refine hand.imp (.imp_right fun held q pending => held q (pending_of_worker frame.worker q pending)) ?_
      rintro ⟨q, held, invoked, none_⟩
      exact ⟨q, held, invoked, fun q pending => none_ q (pending_of_worker frame.worker q pending)⟩
    have retained (filtered : u.queue = t.queue.filter fun r => ¬ t.motion r) : r ∈ u.queue := by
      have still : ¬ t.motion r := by simp [motion_iff, stop]
      exact filtered ▸ List.mem_filter.mpr ⟨here, decide_eq_true still⟩
    have works (quiet : l ≠ .call) (queue : u.queue = t.queue) (held : ∀ q, u.pending q → t.pending q) :
        StopNext s r u := by
      refine .queued (queue ▸ here) stop' ?_ threads'
      rw [invoked_step quiet next]
      refine hand.imp (.imp_right fun before q pending => before q (held q pending)) ?_
      rintro ⟨q, before, invoked, none_⟩
      exact ⟨q, before, invoked, fun q pending => none_ q (held q pending)⟩
    cases queue_move next with
    | stays other _ queue => exact waits other (queue ▸ here)
    | admits c _ _ _ _ label _ _ queue =>
      obtain ⟨op, clock, rfl⟩ := label
      refine waits rfl ?_
      rcases queue with queue | queue <;> rw [queue]
      · exact mem_cons_of_mem _ here
      · exact mem_append_left _ here
    | discards other _ _ _ _ queue => exact waits other (retained queue)
    | detaches c q _ label _ _ queue =>
      subst label
      exact waits rfl (retained queue)
    | withdraws c q _ label unbegun _ queue =>
      subst label
      refine waits rfl (queue ▸ (mem_erase_of_ne ?_).mpr here)
      rintro rfl
      rw [not_or, not_not, motion_iff, stop] at unbegun
      cases unbegun.2
    | ends _ _ _ _ empty =>
      rw [empty] at here
      cases here
    | skips q others label _ queue cancelled =>
      obtain ⟨rfl, -⟩ := List.cons.inj (queue.symm.trans front)
      rw [(inv.placed.queued q here).2.2] at cancelled
      cases cancelled
    | takes q others label looping queue _ _ _ _ worker =>
      obtain ⟨rfl, -⟩ := List.cons.inj (queue.symm.trans front)
      subst label
      refine .taken (.inl worker) stop' ?_
      have quiet : Label.take ≠ .call := by simp
      rw [invoked_step quiet next]
      refine hand.imp And.left ?_
      rintro ⟨p, held, invoked, -⟩
      exact ⟨p, held, invoked⟩
    | checks clock q label taken _ queue _ worker =>
      subst label
      refine works (by simp) queue fun p pending => ?_
      rcases worker with worker | worker | worker <;> rcases pending with held | held <;>
        rw [worker] at held <;> cases held
      exact .inl taken
    | enters q label calling _ queue _ worker =>
      subst label
      have logged : u.invoked = t.invoked ++ [q] := by
        simp only [step, calling] at next
        cases next
        rfl
      rcases hand with ⟨invoked, held⟩ | ⟨p, held, invoked, none_⟩
      · refine .queued (queue ▸ here) stop' (.inr ⟨q, held q (.inr calling), invoked ▸ logged, fun p pending => ?_⟩)
          threads'
        rcases pending with held | held <;> rw [worker] at held <;> cases held
      · exact absurd (.inr calling) (none_ q)
    | replies q reply label inside _ queue _ worker
    | settles q outcome _ label leaving _ queue _ worker =>
      subst label
      refine works (by simp) queue fun p pending => ?_
      rcases pending with held | held <;> rw [worker] at held <;> cases held

/-- **The backlog is sound**, and the worker enters the callback of a queued stop next. -/
theorem backlog_sound (ran : run (step cfg) State.init ls = some s) :
    Backlog cfg s ∧ ∀ r ∈ s.queue, s.isStop r = true → ∀ ms t, run (step cfg) s ms = some t → StopNext s r t := by
  have inv := orderly_run ran
  refine ⟨inv.backlog, fun r here stop ms t later => ?_⟩
  have start : StopNext s r s := .queued here stop (.inl ⟨rfl, fun _ => id⟩) fun _ => id
  exact (run_invariant (I := fun t => Orderly cfg t ∧ StopNext s r t)
    (fun _ _ _ both next => ⟨orderly_step both.1 next, stopNext_step both.1 both.2 next⟩) ⟨inv, start⟩ later).2

/-- A stop overtakes a read and an action. -/
theorem backlog_sound_stop : ∃ s, run (step {}) State.init
        [.start 0 (.read {}) 0, .start 1 (.execute {}) 0, .start 2 (.stop true (some (.finite 1)) none) 0] = some s ∧
      s.queue = [2, 0, 1] ∧ Backlog {} s ∧ ∀ ms t, run (step {}) s ms = some t → StopNext s 2 t := by
  obtain ⟨s, ran, queue, stop⟩ : ∃ s, run (step {}) State.init
          [.start 0 (.read {}) 0, .start 1 (.execute {}) 0, .start 2 (.stop true (some (.finite 1)) none) 0] = some s ∧
        s.queue = [2, 0, 1] ∧ s.isStop 2 = true := ⟨_, rfl, rfl, decide_eq_true rfl⟩
  have sound := backlog_sound ran
  exact ⟨s, ran, queue, sound.1, sound.2 2 (queue ▸ mem_cons_self) stop⟩

end EmbodiRun.Io.Scheduler
