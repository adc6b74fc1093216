/-
# Io.Requests -- the life of one request

`Stage` is where a request is, `Life` its stage with its fields, and `Life.Step` all that
can happen to one: it is dropped, given up, detached, taken, checked, entered, answered by
the driver, settled.  This is the protocol of a request without its bus; `life_step` says
that every step of the scheduler moves every request by it, or leaves it alone.
-/
import EmbodiRun.Io.Frame

namespace EmbodiRun.Io.Scheduler

open List

open Function

variable {cfg : Config} {s t : State} {l : Label}

/-! ## What a step does to the queue and the requests -/

def State.discarded (status : IOStatus) (quarantined : Bool) (s : State) (r : RequestId) : Request :=
  if r ∈ s.queue ∧ s.motion r then (s.requests r).dropped status quarantined else s.requests r

open State

/-- The move calls `stop`. -/
def Label.callsStop : Label → Bool
  | .start _ (.stop ..) _ => true
  | _ => false

inductive QueueMove (s t : State) (l : Label) : Prop
  | stays (other : l.ofWorker = false) (requests : t.requests = s.requests) (queue : t.queue = s.queue)
      (created : t.created = s.created) (worker : t.worker = s.worker)
  | admits (c : CallId) (bounded : Bool) (operation : IOOperation) (cancelEvent : Option Token)
      (deadline : Option ℚ) (label : ∃ op clock, l = .start c op clock)
      (station : t.calls c = .waiting s.created bounded)
      (requests : t.requests = update s.requests s.created { operation, cancelEvent, deadline })
      (queue : t.queue = s.created :: s.queue ∨ t.queue = s.queue ++ [s.created])
      (front : t.queue ≠ s.queue ++ [s.created] → l.callsStop = true)
      (created : t.created = s.created + 1) (worker : t.worker = s.worker)
      (isOpen : s.closed = false)
  | discards (other : l.ofWorker = false) (status : IOStatus) (quarantined : Bool)
      (kind : status = .unknown ∨ status = .cancelled)
      (requests : t.requests = s.discarded status quarantined)
      (queue : t.queue = s.queue.filter fun r => ¬ s.motion r)
      (created : t.created = s.created) (worker : t.worker = s.worker)
  | detaches (c : CallId) (r : RequestId) (station : s.calls c = .timedOut r)
      (label : l = .proceed c) (begun : (s.requests r).started = true ∨ ¬ s.motion r)
      (requests : t.requests = update (s.discarded .unknown true) r
        { s.discarded .unknown true r with detached := true })
      (queue : t.queue = s.queue.filter fun r => ¬ s.motion r)
      (created : t.created = s.created) (worker : t.worker = s.worker)
  | withdraws (c : CallId) (r : RequestId) (station : s.calls c = .timedOut r)
      (label : l = .proceed c) (unbegun : ¬ ((s.requests r).started = true ∨ ¬ s.motion r))
      (requests : t.requests = update s.requests r { s.requests r with cancelled := true })
      (queue : t.queue = s.queue.erase r) (created : t.created = s.created)
      (worker : t.worker = s.worker)
  | ends (label : l = .take) (looping : s.worker = .looping) (requests : t.requests = s.requests)
      (queue : t.queue = s.queue) (empty : s.queue = []) (created : t.created = s.created)
      (worker : t.worker = .ended)
  | skips (r : RequestId) (rest : List RequestId) (label : l = .take)
      (looping : s.worker = .looping) (before : s.queue = r :: rest)
      (cancelled : (s.requests r).cancelled = true) (queue : t.queue = rest)
      (created : t.created = s.created) (worker : t.worker = s.worker)
  | takes (r : RequestId) (rest : List RequestId) (label : l = .take)
      (looping : s.worker = .looping) (before : s.queue = r :: rest)
      (live : (s.requests r).cancelled = false)
      (requests : t.requests = update s.requests r { s.requests r with started := true })
      (queue : t.queue = rest) (created : t.created = s.created) (worker : t.worker = .taken r)
  | checks (clock : ℚ) (r : RequestId) (label : l = .check clock) (taken : s.worker = .taken r)
      (requests : t.requests = s.requests) (queue : t.queue = s.queue)
      (created : t.created = s.created)
      (worker : t.worker = .calling r ∨ t.worker = .leaving r .expired ∨ t.worker = .leaving r .cancelled)
  | enters (r : RequestId) (label : l = .call) (calling : s.worker = .calling r)
      (requests : t.requests = s.requests) (queue : t.queue = s.queue)
      (created : t.created = s.created) (worker : t.worker = .inside r)
  | replies (r : RequestId) (reply : Reply) (label : l = .replies reply)
      (inside : s.worker = .inside r) (requests : t.requests = s.requests)
      (queue : t.queue = s.queue) (created : t.created = s.created)
      (worker : t.worker = .leaving r (.replied reply))
  | settles (r : RequestId) (outcome : Outcome) (quarantined : Bool) (label : l = .settle)
      (leaving : s.worker = .leaving r outcome)
      (requests : t.requests = update s.requests r { s.requests r with
        result := some { outcome.result (s.requests r).operation with quarantined := quarantined }
        done := (s.requests r).done || !(s.requests r).detached })
      (queue : t.queue = s.queue) (created : t.created = s.created) (worker : t.worker = .looping)

theorem discards_of_discardMotion (other : l.ofWorker = false) (status : IOStatus) (quarantined : Bool)
    (kind : status = .unknown ∨ status = .cancelled) {u : State}
    (requests : u.requests = s.requests) (queue : u.queue = s.queue)
    (created : u.created = s.created) (worker : u.worker = s.worker) {t : State}
    (after : t.requests = (u.discardMotion status quarantined).requests ∧
      t.queue = (u.discardMotion status quarantined).queue ∧
      t.created = (u.discardMotion status quarantined).created ∧
      t.worker = (u.discardMotion status quarantined).worker) : QueueMove s t l := by
  obtain ⟨requests', queue', created', worker'⟩ := after
  have motion : u.motion = s.motion := by
    funext r
    rw [motion, motion, requests]
  rw [discardMotion_eq] at requests' queue' created' worker'
  simp only [motion, queue, requests] at requests' queue'
  exact .discards other status quarantined kind requests' queue' (created'.trans created) (worker'.trans worker)

theorem submit_queue (c : CallId) (op : Operation) (operation : IOOperation) (args : Submission)
    (clock now : ℚ) (kind : operation = .stop → (Label.start c op now).callsStop = true) :
    QueueMove s (s.submit cfg c operation args clock) (.start c op now) := by
  refine submit_cases (P := fun t => QueueMove s t (.start c op now)) c clock (fun _ => .stays rfl rfl rfl rfl rfl)
    (fun _ _ _ => .stays rfl rfl rfl rfl rfl) fun deadline _ fits => ?_
  refine .admits c _ operation args.cancelEvent deadline ⟨op, now, rfl⟩ (update_self ..) rfl ?_ ?_ rfl rfl fits.isOpen
  · simp only [enlist, setCall]
    split
    · exact .inl rfl
    · exact .inr rfl
  · simp only [enlist, setCall]
    split
    · exact fun _ => kind ‹_›
    · exact fun other => absurd rfl other

theorem start_queue (cfg : Config) (s : State) (c : CallId) (op : Operation) (clock : ℚ) :
    QueueMove s (s.start cfg c op clock) (.start c op clock) := by
  cases op with
  | execute args => exact submit_queue c _ .execute args clock clock nofun
  | read => exact submit_queue c _ .read _ clock clock nofun
  | stop =>
    simp only [start]
    split
    · unfold preempt
      split <;> exact .stays rfl rfl rfl rfl rfl
    · exact submit_queue c _ .stop _ clock clock fun _ => rfl
  | recover =>
    simp only [start, recover]
    split
    · exact .stays rfl rfl rfl rfl rfl
    split
    · exact .stays rfl rfl rfl rfl rfl
    split <;> exact .stays rfl rfl rfl rfl rfl
  | close =>
    simp only [start, close]
    split
    · exact .stays rfl rfl rfl rfl rfl
    split
    · exact .stays rfl rfl rfl rfl rfl
    · exact discards_of_discardMotion (s := s) rfl .cancelled false (.inr rfl)
        (u := { s with closed := true }) rfl rfl rfl rfl ⟨rfl, rfl, rfl, rfl⟩

theorem proceed_queue {c : CallId} (next : s.proceed c = some t) : QueueMove s t (.proceed c) := by
  have entered {t : State} (after : t.requests = s.enterQuarantine.requests ∧
      t.queue = s.enterQuarantine.queue ∧ t.created = s.enterQuarantine.created ∧
      t.worker = s.enterQuarantine.worker) : QueueMove s t (.proceed c) :=
    discards_of_discardMotion (s := s) rfl .unknown true (.inl rfl)
      (u := { s with quarantined := true }) rfl rfl rfl rfl after
  unfold proceed at next
  split at next <;> rename_i station
  · split at next <;> cases next
    exact .stays rfl rfl rfl rfl rfl
  · cases next
    rename_i r
    by_cases begun : (s.requests r).started = true ∨ ¬ s.motion r
    · rw [expire_begun c begun]
      have quarantined : s.enterQuarantine.requests = s.discarded .unknown true := by
        unfold enterQuarantine dropQueuedMotion
        rw [discardMotion_eq]
        rfl
      refine .detaches c r station rfl begun ?_ ?_ ?_ ?_
      · simp only [setCall, setRequest, quarantined]
      · exact enterQuarantine_queue s
      · exact enterQuarantine_created s
      · exact enterQuarantine_worker s
    · rw [expire_withdrawn c begun]
      exact .withdraws c r station rfl begun rfl rfl rfl rfl
  · split at next <;> cases next
    unfold startPreemptive
    split <;> exact .stays rfl rfl rfl rfl rfl
  · split at next <;> cases next
    unfold finishPreemptive
    dsimp only
    split
    · exact entered ⟨rfl, rfl, rfl, rfl⟩
    · exact .stays rfl rfl rfl rfl rfl
  · cases next
    exact entered ⟨rfl, rfl, rfl, rfl⟩
  · cases next
    exact .stays rfl rfl rfl rfl rfl
  · split at next <;> cases next
    exact .stays rfl rfl rfl rfl rfl
  · cases next

/-- **All a step does** to the queue, the requests and the worker. -/
theorem queue_move (next : step cfg s l = some t) : QueueMove s t l := by
  cases l with simp only [step] at next
  | newEvent | setEvent =>
    cases next
    exact .stays rfl rfl rfl rfl rfl
  | start c op clock =>
    split at next <;> cases next
    exact start_queue cfg s c op clock
  | proceed => exact proceed_queue next
  | timeout =>
    simp only [timeout] at next
    split at next
    · split at next <;> cases next
      exact .stays rfl rfl rfl rfl rfl
    · split at next <;> cases next
      exact .stays rfl rfl rfl rfl rfl
    · cases next
  | stopCalls | stopReplies | stopClears | stopDone =>
    split at next <;> cases next
    exact .stays rfl rfl rfl rfl rfl
  | take =>
    split at next
    · rename_i looping
      cases (take_cases next).2 with
      | ends empty => exact .ends rfl looping rfl rfl empty rfl rfl
      | skips r rest queue cancelled => exact .skips r rest rfl looping queue cancelled rfl rfl rfl
      | takes r rest queue live => exact .takes r rest rfl looping queue live rfl rfl rfl rfl
    · cases next
  | check clock =>
    split at next
    · rename_i r taken
      cases next
      unfold check
      dsimp only
      split
      · exact .checks clock r rfl taken rfl rfl rfl (.inr (.inl rfl))
      split
      · exact .checks clock r rfl taken rfl rfl rfl (.inr (.inr rfl))
      · exact .checks clock r rfl taken rfl rfl rfl (.inl rfl)
    · cases next
  | call =>
    split at next
    · rename_i r calling
      cases next
      exact .enters r rfl calling rfl rfl rfl rfl
    · cases next
  | replies reply =>
    split at next
    · rename_i r inside
      cases next
      exact .replies r reply rfl inside rfl rfl rfl rfl
    · cases next
  | settle =>
    split at next
    · rename_i r outcome leaving
      cases next
      unfold settle
      dsimp only
      split
      · exact .settles r outcome _ rfl leaving rfl rfl rfl rfl
      · exact .settles r outcome (outcome.result (s.requests r).operation).quarantined rfl leaving rfl rfl rfl rfl
    · cases next

/-! ## Where a request is -/

def Worker.request? : Worker → Option RequestId
  | .taken r | .calling r | .inside r | .leaving r _ => some r
  | .looping | .ended => none

/-- A request is in one place at a time, and nothing has happened to one in the queue. -/
structure Placed (s : State) : Prop where
  nodup : s.queue.Nodup
  queued : ∀ r ∈ s.queue, r < s.created ∧ (s.requests r).started = false ∧ (s.requests r).cancelled = false
  held : ∀ r, s.worker.request? = some r → r < s.created ∧ r ∉ s.queue ∧ (s.requests r).started = true

theorem placed_init : Placed init := ⟨nodup_nil, nofun, nofun⟩

theorem Placed.shrink (inv : Placed s) (queue : t.queue.Sublist s.queue) (created : t.created = s.created)
    (requests : ∀ r ∈ t.queue, (t.requests r).started = (s.requests r).started ∧
      (t.requests r).cancelled = (s.requests r).cancelled)
    (started : ∀ r, (s.requests r).started = true → (t.requests r).started = true)
    (held : ∀ r, t.worker.request? = some r → s.worker.request? = some r ∨
      (r ∈ s.queue ∧ r ∉ t.queue ∧ (t.requests r).started = true)) : Placed t := by
  refine ⟨inv.nodup.sublist queue, fun r queued => ?_, fun r atWork => ?_⟩
  · obtain ⟨made, unstarted, live⟩ := inv.queued r (queue.subset queued)
    obtain ⟨started, cancelled⟩ := requests r queued
    exact ⟨created ▸ made, started.trans unstarted, cancelled.trans live⟩
  · rcases held r atWork with before | ⟨queued, gone⟩
    · obtain ⟨made, elsewhere, begun⟩ := inv.held r before
      exact ⟨created ▸ made, fun queued => elsewhere (queue.subset queued), started r begun⟩
    · exact ⟨created ▸ (inv.queued r queued).1, gone⟩
variable {r : RequestId}

variable {status : IOStatus} {quarantined : Bool}

theorem discarded_of_filter (queued : r ∈ s.queue.filter fun r => ¬ s.motion r) :
    s.discarded status quarantined r = s.requests r := by
  have stop : ¬ s.motion r := by simpa using (List.mem_filter.mp queued).2
  rw [discarded, if_neg fun both => stop both.2]

theorem discarded_started : (s.discarded status quarantined r).started = (s.requests r).started := by
  unfold discarded
  split <;> rfl

theorem started_update {requests : RequestId → Request} {q : RequestId} {request : Request}
    (kept : (requests q).started = true → request.started = true) (r : RequestId)
    (started : (requests r).started = true) : (update requests q request r).started = true := by
  by_cases equal : r = q
  · subst equal
    rw [update_self]
    exact kept started
  · rwa [update_of_ne equal]

theorem placed_step (inv : Placed s) (next : step cfg s l = some t) : Placed t := by
  have sameWorker (worker : t.worker = s.worker) : ∀ r, t.worker.request? = some r →
      s.worker.request? = some r ∨ (r ∈ s.queue ∧ r ∉ t.queue ∧ (t.requests r).started = true) :=
    fun r held => .inl (worker ▸ held)
  cases queue_move next with
  | stays _ requests queue created worker =>
    exact inv.shrink (queue ▸ List.Sublist.refl _) created (fun r _ => by rw [requests]; exact ⟨rfl, rfl⟩)
      (fun r => by rw [requests]; exact id) (sameWorker worker)
  | admits c bounded operation cancelEvent deadline _ _ requests queue _ created worker =>
    have unmade : s.created ∉ s.queue := fun queued =>
      absurd (inv.queued _ queued).1 (Nat.lt_irrefl _)
    have member : ∀ r, r ∈ t.queue ↔ r = s.created ∨ r ∈ s.queue := by
      intro r
      rcases queue with queue | queue <;> rw [queue] <;> simp [or_comm]
    refine ⟨?_, fun r queued => ?_, fun r held => ?_⟩
    · rcases queue with queue | queue <;> rw [queue]
      · exact List.nodup_cons.mpr ⟨unmade, inv.nodup⟩
      · exact List.nodup_append.mpr ⟨inv.nodup, by simp, by grind⟩
    · rw [requests, created]
      rcases (member r).mp queued with rfl | before
      · simp
      · obtain ⟨made, facts⟩ := inv.queued r before
        rw [update_of_ne (Nat.ne_of_lt made)]
        exact ⟨Nat.lt_succ_of_lt made, facts⟩
    · rw [worker] at held
      obtain ⟨made, elsewhere, begun⟩ := inv.held r held
      rw [created, member, requests, update_of_ne (Nat.ne_of_lt made)]
      exact ⟨Nat.lt_succ_of_lt made, by grind, begun⟩
  | discards _ status quarantined _ requests queue created worker =>
    refine inv.shrink (queue ▸ filter_sublist) created (fun r queued => ?_)
      (fun r started => by rw [requests, discarded_started, started]) (sameWorker worker)
    rw [requests, discarded_of_filter (queue ▸ queued)]
    exact ⟨rfl, rfl⟩
  | detaches c q _ _ _ requests queue created worker =>
    refine inv.shrink (queue ▸ filter_sublist) created (fun r queued => ?_) (fun r started => ?_) (sameWorker worker)
    rotate_left
    · rw [requests]
      refine started_update ?_ r (discarded_started.trans started)
      exact id
    have same : s.discarded .unknown true r = s.requests r := discarded_of_filter (queue ▸ queued)
    rw [requests]
    by_cases equal : r = q
    · subst equal
      rw [update_self, same]
      exact ⟨rfl, rfl⟩
    · rw [update_of_ne equal, same]
      exact ⟨rfl, rfl⟩
  | withdraws c q _ _ _ requests queue created worker =>
    refine inv.shrink (queue ▸ erase_sublist) created (fun r queued => ?_) (fun r started => ?_) (sameWorker worker)
    rotate_left
    · rw [requests]
      refine started_update ?_ r started
      exact id
    rw [queue, inv.nodup.mem_erase_iff] at queued
    rw [requests, update_of_ne queued.1]
    exact ⟨rfl, rfl⟩
  | ends _ _ requests queue _ created worker =>
    refine inv.shrink (queue ▸ List.Sublist.refl _) created
      (fun r _ => by rw [requests]; exact ⟨rfl, rfl⟩) (fun r => by rw [requests]; exact id)
      fun r held => ?_
    rw [worker] at held
    cases held
  | skips q rest _ _ before cancelled =>
    have live := (inv.queued q (before ▸ mem_cons_self)).2.2
    cases live.symm.trans cancelled
  | takes q rest _ _ before _ requests queue created worker =>
    have apart : q ∉ rest := (List.nodup_cons.mp (before ▸ inv.nodup)).1
    refine inv.shrink (by rw [queue, before]; exact sublist_cons_self q rest) created
      (fun r queued => ?_) (fun r started => ?_) fun r held => ?_
    · rw [queue] at queued
      rw [requests, update_of_ne (by grind)]
      exact ⟨rfl, rfl⟩
    · rw [requests]
      exact started_update (fun _ => rfl) r started
    · rw [worker] at held
      cases held
      refine .inr ⟨before ▸ mem_cons_self, queue ▸ apart, ?_⟩
      rw [requests, update_self]
  | checks clock q _ taken requests queue created worker =>
    refine inv.shrink (queue ▸ List.Sublist.refl _) created
      (fun r _ => by rw [requests]; exact ⟨rfl, rfl⟩) (fun r => by rw [requests]; exact id)
      fun r held => .inl ?_
    rw [taken]
    rcases worker with worker | worker | worker <;> rw [worker] at held <;> exact held
  | enters q _ calling requests queue created worker =>
    refine inv.shrink (queue ▸ List.Sublist.refl _) created
      (fun r _ => by rw [requests]; exact ⟨rfl, rfl⟩) (fun r => by rw [requests]; exact id)
      fun r held => .inl ?_
    rw [worker] at held
    rw [calling]
    exact held
  | replies q reply _ inside requests queue created worker =>
    refine inv.shrink (queue ▸ List.Sublist.refl _) created
      (fun r _ => by rw [requests]; exact ⟨rfl, rfl⟩) (fun r => by rw [requests]; exact id)
      fun r held => .inl ?_
    rw [worker] at held
    rw [inside]
    exact held
  | settles q outcome quarantined _ leaving requests queue created worker =>
    have apart := (inv.held q (by rw [leaving]; rfl)).2.1
    refine inv.shrink (queue ▸ List.Sublist.refl _) created (fun r queued => ?_)
      (fun r started => ?_) fun r held => ?_
    · rw [queue] at queued
      rw [requests, update_of_ne (by grind)]
      exact ⟨rfl, rfl⟩
    · rw [requests]
      refine started_update ?_ r started
      exact id
    · rw [worker] at held
      cases held

/-! ## The life of a request -/

inductive Stage where
  /-- Dropped, given up or settled. -/
  | elsewhere
  | queued
  | taken
  | calling
  | inside
  | leaving (outcome : Outcome)
  deriving DecidableEq

def Worker.stage : Worker → Stage
  | .taken _ => .taken
  | .calling _ => .calling
  | .inside _ => .inside
  | .leaving _ outcome => .leaving outcome
  | .looping | .ended => .elsewhere

def State.stage (s : State) (r : RequestId) : Stage :=
  if s.worker.request? = some r then s.worker.stage
  else if r ∈ s.queue then .queued else .elsewhere

structure Life where
  stage : Stage
  request : Request

def State.life (s : State) (r : RequestId) : Life := ⟨s.stage r, s.requests r⟩

inductive Sight where
  | nothing
  | entered
  | replied (reply : Reply)

inductive Life.Step : Life → Sight → Life → Prop
  | dropped {q : Request} (status : IOStatus) (quarantined)
      (kind : status = .unknown ∨ status = .cancelled) :
      Step ⟨.queued, q⟩ .nothing ⟨.elsewhere, q.dropped status quarantined⟩
  | givenUp {stage : Stage} {q : Request} (place : stage = .queued ∨ stage = .elsewhere)
      (unstarted : q.started = false) :
      Step ⟨stage, q⟩ .nothing ⟨.elsewhere, { q with cancelled := true }⟩
  | detached {stage : Stage} {q : Request} :
      Step ⟨stage, q⟩ .nothing ⟨stage, { q with detached := true }⟩
  | taken {q : Request} : Step ⟨.queued, q⟩ .nothing ⟨.taken, { q with started := true }⟩
  | passed {q : Request} : Step ⟨.taken, q⟩ .nothing ⟨.calling, q⟩
  | refused {q : Request} (outcome : Outcome) (kind : outcome = .expired ∨ outcome = .cancelled) :
      Step ⟨.taken, q⟩ .nothing ⟨.leaving outcome, q⟩
  | entered {q : Request} : Step ⟨.calling, q⟩ .entered ⟨.inside, q⟩
  | replied {q : Request} (reply) : Step ⟨.inside, q⟩ (.replied reply) ⟨.leaving (.replied reply), q⟩
  | settled {q : Request} (outcome : Outcome) (quarantined) :
      Step ⟨.leaving outcome, q⟩ .nothing ⟨.elsewhere, { q with
        result := some { outcome.result q.operation with quarantined := quarantined }
        done := q.done || !q.detached }⟩

/-- What the driver sees of `r` in a move of the scheduler. -/
def State.sight (s : State) (l : Label) (r : RequestId) : Sight :=
  match l, s.worker with
  | .call, .calling q => if q = r then .entered else .nothing
  | .replies reply, .inside q => if q = r then .replied reply else .nothing
  | _, _ => .nothing

theorem stage_of_worker (held : s.worker.request? = some r) : s.stage r = s.worker.stage := by rw [stage, if_pos held]

theorem stage_of_queued (inv : Placed s) (queued : r ∈ s.queue) : s.stage r = .queued := by
  rw [stage, if_neg fun held => (inv.held r held).2.1 queued, if_pos queued]

theorem stage_elsewhere (unheld : s.worker.request? ≠ some r) (out : r ∉ s.queue) :
    s.stage r = .elsewhere := by rw [stage, if_neg unheld, if_neg out]

theorem queued_of_stage (queued : s.stage r = .queued) : r ∈ s.queue := by
  unfold stage at queued
  split at queued
  · cases h : s.worker <;> rw [h] at queued <;> cases queued
  split at queued
  · assumption
  · cases queued

theorem stage_same (worker : t.worker = s.worker) (queue : r ∈ t.queue ↔ r ∈ s.queue) : t.stage r = s.stage r := by
  simp only [stage, worker, queue]

theorem stage_other (before : s.worker.request? ≠ some r) (after : t.worker.request? ≠ some r)
    (queue : r ∈ t.queue ↔ r ∈ s.queue) : t.stage r = s.stage r := by
  rw [stage, if_neg after, stage, if_neg before]
  simp only [queue]

theorem life_eq (stage : t.stage r = s.stage r) (request : t.requests r = s.requests r) : t.life r = s.life r := by
  rw [life, life, stage, request]

theorem sight_other (other : l.ofWorker = false) : s.sight l r = .nothing := by
  cases l <;> first | rfl | cases other

/-- **The life of a request.** Every step of the scheduler moves every request by what can happen to
one, or leaves it alone; and the driver sees what belongs to it. -/
theorem life_step (inv : Placed s) (made : r < s.created) (next : step cfg s l = some t) :
    (t.life r = s.life r ∧ s.sight l r = .nothing) ∨ Life.Step (s.life r) (s.sight l r) (t.life r) := by
  cases queue_move next with
  | stays other requests queue created worker =>
    exact .inl ⟨life_eq (stage_same worker (by rw [queue])) (by rw [requests]), sight_other other⟩
  | admits c bounded operation cancelEvent deadline label _ requests queue _ created worker =>
    have older : r ≠ s.created := Nat.ne_of_lt made
    have member : r ∈ t.queue ↔ r ∈ s.queue := by
      rcases queue with queue | queue <;> rw [queue] <;> simp [older]
    obtain ⟨op, clock, rfl⟩ := label
    exact .inl ⟨life_eq (stage_same worker member) (by rw [requests, update_of_ne older]), rfl⟩
  | discards other status quarantined kind requests queue created worker =>
    rw [sight_other other]
    by_cases hit : r ∈ s.queue ∧ s.motion r
    · refine .inr ?_
      have out : r ∉ t.queue := by simp [queue, hit.2]
      have unheld : t.worker.request? ≠ some r := fun held =>
        (inv.held r (worker ▸ held)).2.1 hit.1
      rw [life, life, stage_of_queued inv hit.1, stage_elsewhere unheld out, requests, discarded, if_pos hit]
      exact .dropped status quarantined kind
    · have member : r ∈ t.queue ↔ r ∈ s.queue := by
        simp only [queue, mem_filter, decide_eq_true_eq]
        tauto
      exact .inl ⟨life_eq (stage_same worker member) (by rw [requests, discarded, if_neg hit]), rfl⟩
  | detaches c q _ label begun requests queue created worker =>
    rw [sight_other (by rw [label]; rfl)]
    by_cases hit : r ∈ s.queue ∧ s.motion r
    · refine .inr ?_
      have other : r ≠ q := by
        rintro rfl
        rcases begun with started | stop
        · cases started.symm.trans (inv.queued r hit.1).2.1
        · exact stop hit.2
      have out : r ∉ t.queue := by simp [queue, hit.2]
      have unheld : t.worker.request? ≠ some r := fun held =>
        (inv.held r (worker ▸ held)).2.1 hit.1
      rw [life, life, stage_of_queued inv hit.1, stage_elsewhere unheld out, requests,
        update_of_ne other, discarded, if_pos hit]
      exact .dropped .unknown true (.inl rfl)
    · have member : r ∈ t.queue ↔ r ∈ s.queue := by
        simp only [queue, mem_filter, decide_eq_true_eq]
        tauto
      have same := stage_same worker member
      have kept : s.discarded .unknown true r = s.requests r := by rw [discarded, if_neg hit]
      by_cases equal : r = q
      · subst equal
        refine .inr ?_
        rw [life, life, same, requests, update_self, kept]
        exact .detached
      · exact .inl ⟨life_eq same (by rw [requests, update_of_ne equal, kept]), rfl⟩
  | withdraws c q _ label unbegun requests queue created worker =>
    rw [sight_other (by rw [label]; rfl)]
    by_cases equal : r = q
    · subst equal
      refine .inr ?_
      have unstarted : (s.requests r).started = false :=
        Bool.eq_false_iff.mpr fun started => unbegun (.inl started)
      by_cases held : s.worker.request? = some r
      · cases unstarted.symm.trans (inv.held r held).2.2
      · have out : r ∉ t.queue := by rw [queue, inv.nodup.mem_erase_iff]; simp
        rw [life, life, stage_elsewhere (worker ▸ held) out, requests, update_self]
        refine .givenUp ?_ unstarted
        rw [stage, if_neg held]
        split <;> simp
    · have member : r ∈ t.queue ↔ r ∈ s.queue := by
        rw [queue, inv.nodup.mem_erase_iff]
        simp [equal]
      exact .inl ⟨life_eq (stage_same worker member) (by rw [requests, update_of_ne equal]), rfl⟩
  | ends label looping requests queue empty created worker =>
    have same : t.stage r = s.stage r := by
      refine stage_other ?_ ?_ (by rw [queue])
      · rw [looping]
        nofun
      · rw [worker]
        nofun
    exact .inl ⟨life_eq same (by rw [requests]), by rw [label]; rfl⟩
  | skips q rest _ _ before cancelled =>
    have live := (inv.queued q (before ▸ mem_cons_self)).2.2
    cases live.symm.trans cancelled
  | takes q rest label looping before live requests queue created worker =>
    rw [label]
    by_cases equal : r = q
    · subst equal
      refine .inr ?_
      have held : t.worker.request? = some r := by rw [worker]; rfl
      rw [life, life, stage_of_queued inv (before ▸ mem_cons_self),
        stage_of_worker held, worker, requests, update_self]
      exact .taken
    · refine .inl ⟨life_eq (stage_other ?_ ?_ ?_) ?_, rfl⟩
      · rw [looping]
        nofun
      · rw [worker]
        exact fun held => equal (Option.some.inj held).symm
      · rw [queue, before]
        simp [equal]
      · rw [requests, update_of_ne equal]
  | checks clock q label taken requests queue created worker =>
    rw [label]
    by_cases equal : r = q
    · subst equal
      refine .inr ?_
      have before : s.stage r = .taken := by rw [stage_of_worker (by rw [taken]; rfl), taken]; rfl
      rw [life, life, before, requests]
      rcases worker with worker | worker | worker <;> rw [stage_of_worker (by rw [worker]; rfl), worker]
      · exact .passed
      · exact .refused .expired (.inl rfl)
      · exact .refused .cancelled (.inr rfl)
    · refine .inl ⟨life_eq (stage_other ?_ ?_ (by rw [queue])) (by rw [requests]), rfl⟩
      · rw [taken]
        exact fun held => equal (Option.some.inj held).symm
      · rcases worker with worker | worker | worker <;> rw [worker] <;>
          exact fun held => equal (Option.some.inj held).symm
  | enters q label calling requests queue created worker =>
    rw [label]
    by_cases equal : r = q
    · subst equal
      refine .inr ?_
      have before : s.stage r = .calling := by
        rw [stage_of_worker (by rw [calling]; rfl), calling]
        rfl
      have seen : s.sight .call r = .entered := by simp [sight, calling]
      rw [life, life, before, stage_of_worker (by rw [worker]; rfl), worker, requests, seen]
      exact .entered
    · refine .inl ⟨life_eq (stage_other ?_ ?_ (by rw [queue])) (by rw [requests]), ?_⟩
      · rw [calling]
        exact fun held => equal (Option.some.inj held).symm
      · rw [worker]
        exact fun held => equal (Option.some.inj held).symm
      · simp [sight, calling, Ne.symm equal]
  | replies q reply label inside requests queue created worker =>
    rw [label]
    by_cases equal : r = q
    · subst equal
      refine .inr ?_
      have before : s.stage r = .inside := by
        rw [stage_of_worker (by rw [inside]; rfl), inside]
        rfl
      have seen : s.sight (.replies reply) r = .replied reply := by simp [sight, inside]
      rw [life, life, before, stage_of_worker (by rw [worker]; rfl), worker, requests, seen]
      exact .replied reply
    · refine .inl ⟨life_eq (stage_other ?_ ?_ (by rw [queue])) (by rw [requests]), ?_⟩
      · rw [inside]
        exact fun held => equal (Option.some.inj held).symm
      · rw [worker]
        exact fun held => equal (Option.some.inj held).symm
      · simp [sight, inside, Ne.symm equal]
  | settles q outcome quarantined label leaving requests queue created worker =>
    rw [label]
    have idle : t.worker.request? ≠ some r := by
      rw [worker]
      nofun
    by_cases equal : r = q
    · subst equal
      refine .inr ?_
      have held : s.worker.request? = some r := by rw [leaving]; rfl
      have out : r ∉ t.queue := queue ▸ (inv.held r held).2.1
      rw [life, life, stage_of_worker held, stage_elsewhere idle out, leaving, requests, update_self]
      exact .settled outcome quarantined
    · refine .inl ⟨life_eq (stage_other ?_ idle (by rw [queue])) ?_, rfl⟩
      · rw [leaving]
        exact fun held => equal (Option.some.inj held).symm
      · rw [requests, update_of_ne equal]

end EmbodiRun.Io.Scheduler
