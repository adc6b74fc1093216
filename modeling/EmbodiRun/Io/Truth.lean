/-
# Io.Truth -- every submitter is told the truth, and who waits is answered

`truthful_results` puts the ledger together with how long a wait can last.  A waiting
request is `ahead` moves of the worker from its answer: what the worker has in hand, and
five moves for each request in front of it.  Only a new stop adds to that, so a waiter is
answered unless stops keep coming.
-/
import EmbodiRun.Io.Ledger

namespace EmbodiRun.Io.Scheduler

open Function
open Transition List

variable {cfg : Config} {s t : State} {l : Label} {ls : List Label}

/-! ## A closed bus -/

theorem submit_closed (c : CallId) (operation : IOOperation) (args : Submission) (clock : ℚ)
    (closed : s.closed = true) : (s.submit cfg c operation args clock).closed = true :=
  submit_cases (P := fun t => t.closed = true) c clock (fun _ => closed) (fun _ _ _ => closed) fun _ _ _ => closed

theorem enterQuarantine_closed (s : State) : s.enterQuarantine.closed = s.closed := by
  unfold State.enterQuarantine State.dropQueuedMotion
  rw [discardMotion_eq]

theorem start_closed (c : CallId) (op : Operation) (clock : ℚ) (closed : s.closed = true) :
    (s.start cfg c op clock).closed = true := by
  cases op with
  | execute args => exact submit_closed c .execute args clock closed
  | read => exact submit_closed c .read _ clock closed
  | stop =>
    simp only [State.start]
    split
    · unfold State.preempt
      split <;> exact closed
    · exact submit_closed c .stop _ clock closed
  | recover =>
    simp only [State.start, State.recover]
    split
    · exact closed
    split
    · exact closed
    split <;> exact closed
  | close =>
    simp only [State.start, State.close]
    split
    · exact closed
    · rw [if_pos closed]
      exact closed

theorem closed_stays (closed : s.closed = true) (next : step cfg s l = some t) : t.closed = true := by
  have entered : s.enterQuarantine.closed = true := (enterQuarantine_closed s).trans closed
  cases l with simp only [step] at next
  | newEvent | setEvent =>
    cases next
    exact closed
  | start c op clock =>
    split at next <;> cases next
    exact start_closed c op clock closed
  | proceed c =>
    simp only [State.proceed] at next
    split at next
    · split at next <;> cases next
      exact closed
    · cases next
      rename_i r _
      by_cases begun : (s.requests r).started = true ∨ ¬ s.motion r
      · rw [expire_begun c begun]
        exact entered
      · rw [expire_withdrawn c begun]
        exact closed
    · split at next <;> cases next
      unfold State.startPreemptive
      split <;> exact closed
    · split at next <;> cases next
      unfold State.finishPreemptive
      dsimp only
      split
      · exact entered
      · exact closed
    · cases next
      exact entered
    · cases next
      exact closed
    · split at next <;> cases next
      exact closed
    · cases next
  | timeout =>
    simp only [State.timeout] at next
    split at next
    · split at next <;> cases next
      exact closed
    · split at next <;> cases next
      exact closed
    · cases next
  | take =>
    split at next
    · cases (take_cases next).2 <;> exact closed
    · cases next
  | check =>
    split at next <;> cases next
    unfold State.check
    dsimp only
    split
    · exact closed
    split <;> exact closed
  | settle =>
    split at next <;> cases next
    unfold State.settle
    dsimp only
    split <;> exact closed
  | stopCalls | stopReplies | stopClears | stopDone | call | replies =>
    split at next <;> cases next
    exact closed

def State.EndsDrained (s : State) : Prop := s.worker = .ended → s.closed = true ∧ s.queue = []

open State

theorem endsDrained_step (inv : s.EndsDrained) (next : step cfg s l = some t) : t.EndsDrained := by
  intro ended
  have kept (worker : t.worker = s.worker) (queue : t.queue.Sublist s.queue) : t.closed = true ∧ t.queue = [] := by
    obtain ⟨closed, empty⟩ := inv (worker ▸ ended)
    exact ⟨closed_stays closed next, List.sublist_nil.mp (empty ▸ queue)⟩
  cases queue_move next with
  | stays _ _ queue _ worker => exact kept worker (queue ▸ List.Sublist.refl _)
  | admits _ _ _ _ _ _ _ _ _ _ _ worker isOpen =>
    cases isOpen.symm.trans (inv (worker ▸ ended)).1
  | discards _ _ _ _ _ queue _ worker | detaches _ _ _ _ _ _ queue _ worker =>
    exact kept worker (queue ▸ filter_sublist)
  | withdraws _ _ _ _ _ _ queue _ worker => exact kept worker (queue ▸ erase_sublist)
  | ends label looping _ queue empty =>
    subst label
    simp only [step, looping, State.take, empty] at next
    split at next
    · cases next
    · rename_i awake
      have closed : s.closed = true := by simpa using awake
      cases next
      exact ⟨closed, rfl⟩
  | skips _ _ _ looping _ _ _ _ worker => cases looping.symm.trans (worker ▸ ended)
  | takes _ _ _ _ _ _ _ _ _ worker | enters _ _ _ _ _ _ worker | replies _ _ _ _ _ _ _ worker
  | settles _ _ _ _ _ _ _ _ worker =>
    cases worker.symm.trans ended
  | checks _ _ _ _ _ _ _ worker =>
    rcases worker with worker | worker | worker <;> cases worker.symm.trans ended

/-! ## Whoever waits -/

def State.Awaited (s : State) (r : RequestId) : Prop := ∃ c bounded, s.calls c = .waiting r bounded

def State.QueuedOrDone (s : State) : Prop :=
  ∀ r, s.Awaited r → (s.requests r).detached = false ∧ (s.stage r = .elsewhere → (s.requests r).done = true)

theorem unabandoned {r} (placed : Placed s) (made : r < s.created)
    (kept : ∀ c, s.calls c ≠ .timedOut r) (next : step cfg s l = some t) :
    (t.requests r).detached = (s.requests r).detached ∧
      ((t.requests r).cancelled = true → (s.requests r).cancelled = true ∨ (t.requests r).done = true) := by
  have discarded (status : IOStatus) (quarantined : Bool) :
      (s.discarded status quarantined r).detached = (s.requests r).detached ∧
        ((s.discarded status quarantined r).cancelled = true → (s.requests r).cancelled = true ∨
          (s.discarded status quarantined r).done = true) := by
    unfold discarded
    split
    · exact ⟨rfl, fun _ => .inr rfl⟩
    · exact ⟨rfl, .inl⟩
  have update {q : RequestId} {request : Request} (requests : t.requests = update s.requests q request)
      (detached : request.detached = (s.requests q).detached)
      (cancelled : request.cancelled = (s.requests q).cancelled) :
      (t.requests r).detached = (s.requests r).detached ∧
        ((t.requests r).cancelled = true → (s.requests r).cancelled = true ∨ (t.requests r).done = true) := by
    rw [requests]
    by_cases same : r = q
    · subst same
      rw [update_self]
      exact ⟨detached, fun h => .inl (cancelled ▸ h)⟩
    · rw [update_of_ne same]
      exact ⟨rfl, .inl⟩
  cases queue_move next with
  | stays _ requests | ends _ _ requests | checks _ _ _ _ requests | enters _ _ _ requests
  | replies _ _ _ _ requests =>
    rw [requests]
    exact ⟨rfl, .inl⟩
  | admits _ _ _ _ _ _ _ requests =>
    rw [requests, update_of_ne (Nat.ne_of_lt made)]
    exact ⟨rfl, .inl⟩
  | discards _ status quarantined _ requests =>
    rw [requests]
    exact discarded status quarantined
  | detaches c q station _ _ requests =>
    have other : r ≠ q := by
      rintro rfl
      exact kept c station
    rw [requests, update_of_ne other]
    exact discarded .unknown true
  | withdraws c q station _ _ requests =>
    have other : r ≠ q := by
      rintro rfl
      exact kept c station
    rw [requests, update_of_ne other]
    exact ⟨rfl, .inl⟩
  | skips q rest _ _ before cancelled =>
    cases (placed.queued q (before ▸ mem_cons_self)).2.2.symm.trans cancelled
  | takes q rest _ _ _ _ requests => exact update requests rfl rfl
  | settles q outcome quarantined _ _ requests => exact update requests rfl rfl

theorem done_of_elsewhere {a b} {sight} (moved : Life.Step a sight b)
    (attached : a.request.detached = false) (live : a.stage = .queued → a.request.cancelled = false)
    (kept : b.request.cancelled = true → a.request.cancelled = true ∨ b.request.done = true)
    (done : a.stage = .elsewhere → a.request.done = true) (nowhere : b.stage = .elsewhere) :
    b.request.done = true := by
  cases moved with
  | dropped => rfl
  | givenUp place =>
    rcases place with rfl | rfl
    · rcases kept rfl with before | done
      · cases (live rfl).symm.trans before
      · exact done
    · exact done rfl
  | detached => exact done nowhere
  | settled =>
    simp only [Bool.or_eq_true, Bool.not_eq_true']
    exact .inr attached
  | taken | passed | refused | entered | replied => cases nowhere

theorem Submitted.untimed {h} (inv : Submitted s h) {r} (awaited : s.Awaited r)
    (c : CallId) : s.calls c ≠ .timedOut r := by
  obtain ⟨d, bounded, waiting⟩ := awaited
  intro timedOut
  have one := inv.owns d (.serialized r) (by rw [waiting]; rfl)
  have other := inv.owns c (.serialized r) (by rw [timedOut]; rfl)
  obtain rfl := Option.some.inj (one.symm.trans other)
  cases waiting.symm.trans timedOut

theorem queuedOrDone_step {h} (ledger : LedgerInv s h) (inv : s.QueuedOrDone)
    (next : step cfg s l = some t) : t.QueuedOrDone := by
  rintro r ⟨c, bounded, waiting⟩
  have owned := (ledger_step ledger next).submitted.owns c (.serialized r) (by rw [waiting]; rfl)
  rcases note_submitter owned with new | old
  · have fresh := submission next new
    generalize made : Callback.serialized r = cb at fresh
    cases fresh with
    | request _ bounded op clock label fresh created =>
      obtain rfl := Callback.serialized.inj made
      cases queue_move next with
      | admits d _ _ _ _ _ _ requests queue =>
        have queued : s.created ∈ t.queue := by rcases queue with queue | queue <;> simp [queue]
        refine ⟨by rw [requests, update_self], fun nowhere => ?_⟩
        cases (stage_of_queued (placed_step ledger.placed next) queued).symm.trans nowhere
      | _ => lia
    | stop => cases made
  · obtain ⟨made, station⟩ := ledger.submitted.made _ c old
    have awaited : s.Awaited r := by
      rcases call_step c next with same | moves
      · exact ⟨c, bounded, same.symm.trans waiting⟩
      · rw [waiting] at moves
        generalize s.calls c = before at moves station
        cases moves with
        | waits => exact absurd made (Nat.lt_irrefl _)
    obtain ⟨attached, done⟩ := inv r awaited
    obtain ⟨detached, kept⟩ :=
      unabandoned ledger.placed made (ledger.submitted.untimed awaited) next
    refine ⟨detached.trans attached, fun nowhere => ?_⟩
    rcases life_step ledger.placed made next with ⟨same, _⟩ | moved
    · obtain ⟨stage, request⟩ := Life.mk.inj same
      rw [request]
      exact done (stage.symm.trans nowhere)
    · refine done_of_elsewhere moved attached (fun queued => ?_) kept done nowhere
      exact (ledger.placed.queued r (queued_of_stage queued)).2.2

/-! ## How far a request is from its answer -/

def Worker.remaining : Worker → Nat
  | .looping | .ended => 0
  | .taken _ => 4
  | .calling _ => 3
  | .inside _ => 2
  | .leaving _ _ => 1

/-- The moves of the worker until a request is settled: what it has in hand, and five moves for each
request up to this one. -/
def State.ahead (s : State) (r : RequestId) : Nat :=
  s.worker.remaining + if r ∈ s.queue then 5 * (s.queue.idxOf r + 1) else 0

theorem idxOf_le_of_sublist {α : Type*} [DecidableEq α] {xs ys : List α} {x : α}
    (sublist : xs.Sublist ys) (nodup : ys.Nodup) (mem : x ∈ xs) : xs.idxOf x ≤ ys.idxOf x := by
  induction sublist with
  | slnil => cases mem
  | cons y sublist ih =>
    obtain ⟨apart, nodup⟩ := List.nodup_cons.mp nodup
    have other : y ≠ x := fun same => apart (same ▸ sublist.subset mem)
    rw [idxOf_cons_ne _ other]
    exact Nat.le_succ_of_le (ih nodup mem)
  | cons_cons y sublist ih =>
    by_cases same : y = x
    · rw [same, idxOf_cons_self]
      exact Nat.zero_le _
    · rw [idxOf_cons_ne _ same, idxOf_cons_ne _ same]
      exact Nat.succ_le_succ (ih (List.nodup_cons.mp nodup).2 ((List.mem_cons.mp mem).resolve_left (Ne.symm same)))

theorem ahead_le {r : RequestId} (placed : Placed s) (queue : t.queue.Sublist s.queue)
    (worker : t.worker = s.worker) : t.ahead r ≤ s.ahead r := by
  unfold ahead
  rw [worker]
  split
  · rename_i queued
    rw [if_pos (queue.subset queued)]
    have closer := idxOf_le_of_sublist queue placed.nodup queued
    omega
  · omega

def Label.delay (l : Label) : Nat := if l.callsStop then 5 else 0

open Label

def Label.advance (l : Label) : Nat := if l.ofWorker then 1 else 0

/-- **Every move of the worker brings a request closer**, and only a new stop takes it further. -/
theorem ahead_step {r} (placed : Placed s) (made : r < s.created)
    (next : step cfg s l = some t) (live : t.stage r ≠ .elsewhere) :
    t.ahead r + l.advance ≤ s.ahead r + l.delay := by
  have quiet (other : l.ofWorker = false) (closer : t.ahead r ≤ s.ahead r + l.delay) :
      t.ahead r + l.advance ≤ s.ahead r + l.delay := by
    rw [advance, other]
    exact closer
  have shrunk (other : l.ofWorker = false) (queue : t.queue.Sublist s.queue)
      (worker : t.worker = s.worker) : t.ahead r + l.advance ≤ s.ahead r + l.delay :=
    quiet other (Nat.le_add_right_of_le (ahead_le placed queue worker))
  have worked (queue : t.queue = s.queue) (closer : t.worker.remaining + 1 ≤ s.worker.remaining) :
      t.ahead r + l.advance ≤ s.ahead r + l.delay := by
    have most : l.advance ≤ 1 := by
      unfold advance
      split <;> decide
    unfold ahead
    rw [queue]
    omega
  cases queue_move next with
  | stays other _ queue _ worker => exact shrunk other (queue ▸ List.Sublist.refl _) worker
  | admits c bounded operation _ _ label _ _ queue front _ worker =>
    obtain ⟨op, clock, label⟩ := label
    refine quiet (by rw [label]; rfl) ?_
    have other : s.created ≠ r := (Nat.ne_of_lt made).symm
    unfold ahead
    rw [worker]
    by_cases queued : r ∈ s.queue
    · have delayed : t.queue.idxOf r ≤ s.queue.idxOf r ∨
          l.callsStop = true ∧ t.queue.idxOf r = s.queue.idxOf r + 1 := by
        by_cases last : t.queue = s.queue ++ [s.created]
        · exact .inl (by rw [last, idxOf_append_of_mem queued])
        · refine .inr ⟨front last, ?_⟩
          rw [queue.resolve_right last, idxOf_cons_ne _ other]
      rw [if_pos queued]
      rcases delayed with same | ⟨stop, further⟩
      · split <;> omega
      · rw [delay, if_pos stop]
        split <;> omega
    · have out : r ∉ t.queue := by rcases queue with queue | queue <;> simp [queue, queued, other.symm]
      rw [if_neg queued, if_neg out]
      exact Nat.le_add_right _ _
  | discards other _ _ _ _ queue _ worker => exact shrunk other (queue ▸ filter_sublist) worker
  | detaches _ _ _ label _ _ queue _ worker =>
    exact shrunk (by rw [label]; rfl) (queue ▸ filter_sublist) worker
  | withdraws _ _ _ label _ _ queue _ worker =>
    exact shrunk (by rw [label]; rfl) (queue ▸ erase_sublist) worker
  | ends _ _ _ queue empty _ worker =>
    refine absurd (stage_elsewhere ?_ ?_) live
    · rw [worker]
      nofun
    · rw [queue, empty]
      exact not_mem_nil
  | skips q rest _ _ before cancelled =>
    cases (placed.queued q (before ▸ mem_cons_self)).2.2.symm.trans cancelled
  | takes q rest label looping before _ _ queue _ worker =>
    subst label
    have apart : q ∉ rest := (List.nodup_cons.mp (before ▸ placed.nodup)).1
    unfold ahead
    rw [worker, looping, queue, before]
    by_cases same : r = q
    · subst same
      rw [if_neg apart, if_pos mem_cons_self, idxOf_cons_self]
      exact Nat.le_refl 5
    · by_cases queued : r ∈ rest
      · rw [if_pos queued, if_pos (mem_cons_of_mem _ queued), idxOf_cons_ne _ (Ne.symm same)]
        simp only [Worker.remaining, advance, ofWorker, delay, callsStop]
        grind
      · refine absurd (stage_elsewhere ?_ (queue ▸ queued)) live
        rw [worker]
        exact fun held => same (Option.some.inj held).symm
  | checks clock q _ taken _ queue _ worker =>
    refine worked queue ?_
    rw [taken]
    rcases worker with worker | worker | worker <;> rw [worker] <;> simp [Worker.remaining]
  | enters q _ calling _ queue _ worker => exact worked queue (by rw [calling, worker]; exact Nat.le_refl _)
  | replies q reply _ inside _ queue _ worker => exact worked queue (by rw [inside, worker]; exact Nat.le_refl _)
  | settles q outcome _ _ leaving _ queue _ worker => exact worked queue (by rw [leaving, worker]; exact Nat.le_refl _)

/-! ## Runs -/

structure Reached (s : State × Ledger) : Prop where
  ledger : LedgerInv s.1 s.2
  waiting : s.1.QueuedOrDone
  drained : s.1.EndsDrained

theorem reached_init : Reached (init, Ledger.init) where
  ledger := ledgerInv_init
  waiting := by
    rintro r ⟨c, bounded, waiting⟩
    cases waiting
  drained ended := nomatch ended

theorem reached_step {s t} (reached : Reached s) (next : noted (step cfg) note s l = some t) : Reached t := by
  obtain ⟨next, record⟩ := noted_eq_some.mp next
  refine ⟨?_, queuedOrDone_step reached.ledger reached.waiting next, endsDrained_step reached.drained next⟩
  rw [record]
  exact ledger_step reached.ledger next

theorem reached_run {s t} (reached : Reached s) (ran : run (noted (step cfg) note) s ls = some t) : Reached t :=
  run_invariant (fun _ _ _ inv next => reached_step inv next) reached ran

theorem answered_run {c} {result} (answered : s.calls c = .answered result)
    (ran : run (step cfg) s ls = some t) : t.calls c = .answered result :=
  run_invariant (I := fun s => s.calls c = .answered result)
    (fun _ _ _ answered next => answered_stays answered next) answered ran

theorem elsewhere_run {r} (placed : Placed s) (made : r < s.created)
    (nowhere : s.stage r = .elsewhere) (ran : run (step cfg) s ls = some t) :
    t.stage r = .elsewhere := by
  have kept := run_invariant (I := fun s : State => Placed s ∧ r < s.created ∧ s.stage r = .elsewhere)
    (fun s l t inv next => ⟨placed_step inv.1 next, Nat.lt_of_lt_of_le inv.2.1 (created_le next),
      (elsewhere_stays inv.1 inv.2.1 inv.2.2 next).1⟩) ⟨placed, made, nowhere⟩ ran
  exact kept.2.2

theorem entered_le_one {h} (inv : LedgerInv s h) (cb : Callback) : h.entered cb ≤ 1 := by
  cases cb with
  | serialized r =>
    by_cases made : r < s.created
    · have sound := inv.sound r made
      unfold Sound at sound
      change (h.trace (.serialized r)).1 ≤ 1
      split at sound
      · rw [sound.1]
        exact Nat.zero_le 1
      · rw [sound.1]
        exact Nat.zero_le 1
      · rw [sound.1]
        exact Nat.zero_le 1
      · rw [sound.1]
      · rename_i outcome _
        rw [sound.1]
        rcases outcome with _ | _ | _
        · exact Nat.zero_le 1
        · exact Nat.zero_le 1
        · exact Nat.le_refl 1
      · exact sound.1
    · have unseen := inv.unmade r (Nat.le_of_not_lt made)
      have entered : h.entered (.serialized r) = 0 := (Prod.mk.inj unseen).1
      omega
  | preemptive c =>
    have entered : h.entered (.preemptive c) = (s.stopThreads c).trace.1 :=
      congrArg Prod.fst (inv.threads c)
    rw [entered]
    unfold StopThread.trace
    split
    · exact Nat.zero_le 1
    · exact Nat.zero_le 1
    · exact Nat.le_refl 1
    · exact Nat.le_refl 1
    · exact Nat.le_refl 1
    · exact Nat.le_refl 1

theorem result_of_done {h} (inv : LedgerInv s h) {r} (made : r < s.created)
    (done : (s.requests r).done = true) : ∃ result, (s.requests r).result = some result := by
  have sound := inv.sound r made
  have nowhere : (s.life r).stage = .elsewhere := stage_of_done sound done
  exact Option.isSome_iff_exists.mp ((sound_elsewhere sound nowhere).2.2.1 done)

theorem made_of_waiting {h} (inv : LedgerInv s h) {c} {r} {bounded}
    (waiting : s.calls c = .waiting r bounded) : r < s.created := by
  have owned := inv.submitted.owns c (.serialized r) (by rw [waiting]; rfl)
  exact (inv.submitted.made _ c owned).1

theorem unbounded_step {h} (inv : LedgerInv s h) {c} {r}
    (waiting : s.calls c = .waiting r false) (next : step cfg s l = some t) :
    t.calls c = .waiting r false ∨ ∃ result, t.calls c = .answered result := by
  rcases call_step c next with same | moves
  · exact .inl (same.trans waiting)
  have found := result_of_done inv (made_of_waiting inv waiting)
  rw [waiting] at moves
  generalize t.calls c = after at moves ⊢
  cases moves with
  | answers _ _ result => exact .inr ⟨result, rfl⟩
  | asserts _ _ done missing =>
    obtain ⟨result, found⟩ := found done
    cases found.symm.trans missing
  | refuses station | closed station => simp at station

/-- **A wait without a bound** ends after `ahead` moves of the worker, and five more for each stop
called meanwhile. -/
theorem waits_run {h h'} {c} {r} (reached : Reached (s, h))
    (waiting : s.calls c = .waiting r false) (ran : run (noted (step cfg) note) (s, h) ls = some (t, h')) :
    (∃ result, t.calls c = .answered result) ∨ (t.calls c = .waiting r false ∧ (t.stage r ≠ .elsewhere →
        t.ahead r + ls.countP ofWorker ≤ s.ahead r + 5 * ls.countP callsStop)) := by
  induction ls generalizing s h with
  | nil =>
    obtain ⟨rfl, rfl⟩ := Prod.mk.inj (Option.some.inj ran)
    exact .inr ⟨waiting, fun _ => Nat.le_refl _⟩
  | cons l ls ih =>
    obtain ⟨⟨u, h₁⟩, first, rest⟩ := run_cons_eq_some.mp ran
    have reached₁ : Reached (u, h₁) := reached_step reached first
    obtain ⟨next, _⟩ := noted_eq_some.mp first
    have later := run_noted rest
    have made : r < s.created := made_of_waiting reached.ledger waiting
    rcases unbounded_step reached.ledger waiting next with waiting₁ | ⟨result, answered⟩
    · rcases ih reached₁ waiting₁ rest with answered | ⟨waits, closer⟩
      · exact .inl answered
      refine .inr ⟨waits, fun live => ?_⟩
      have live₁ : u.stage r ≠ .elsewhere := fun nowhere => live
        (elsewhere_run reached₁.ledger.placed (made_of_waiting reached₁.ledger waiting₁) nowhere later)
      have one := ahead_step reached.ledger.placed made next live₁
      have others := closer live
      simp only [advance, delay] at one
      rw [countP_cons, countP_cons]
      split at one <;> split at one <;> simp_all <;> omega
    · exact .inl ⟨result, answered_run answered later⟩

theorem proceed_of_done {h} (inv : LedgerInv s h) {c} {r} {bounded}
    (waiting : s.calls c = .waiting r bounded) (done : (s.requests r).done = true) :
    ∃ result, step cfg s (.proceed c) = some (s.setCall c (.answered result)) := by
  obtain ⟨result, found⟩ := result_of_done inv (made_of_waiting inv waiting) done
  refine ⟨result, ?_⟩
  simp only [step, State.proceed, waiting, found]
  rw [if_pos done]

theorem elsewhere_of_ended (drained : s.EndsDrained) (ended : s.worker = .ended) (r : RequestId) :
    s.stage r = .elsewhere := by
  refine stage_elsewhere ?_ ?_
  · rw [ended]
    nofun
  · rw [(drained ended).2]
    exact not_mem_nil

/-- **Truthful results**, now and later, of callbacks that are entered once at most. -/
theorem truthful_results {h : Ledger} (ran : run (noted (step cfg) note) (init, Ledger.init) ls = some (s, h)) :
    (∀ cb, h.entered cb ≤ 1) ∧
    (∀ c result, s.calls c = .answered result →
      (∀ after t h', run (noted (step cfg) note) (s, h) after = some (t, h') → ∀ cb, h'.submitter cb = some c →
          Truthful result.status (h'.entered cb) (h'.replies cb)) ∧
      (result.operation ≠ .close → result.status = .completed ∨ result.status = .failed →
        ∃ cb, h.submitter cb = some c)) ∧
    (∀ c r, s.calls c = .waiting r false → ∀ after t h', run (noted (step cfg) note) (s, h) after = some (t, h') →
        s.ahead r + 5 * after.countP callsStop ≤ after.countP ofWorker ∨ t.worker = .ended →
        ∃ result, t.calls c = .answered result ∨
          step cfg t (.proceed c) = some (t.setCall c (.answered result))) := by
  have reached : Reached (s, h) := reached_run reached_init ran
  refine ⟨entered_le_one reached.ledger, fun c result answered => ⟨?_, ?_⟩, ?_⟩
  · intro after t h' later cb found
    have reached' : Reached (t, h') := reached_run reached later
    have answered' := answered_run answered (run_noted later)
    rcases reached'.ledger.answered.truthful c result answered' cb found with unknown | ⟨_, truthful⟩
    · rw [unknown]
      trivial
    · exact truthful
  · exact reached.ledger.answered.submitted c result answered
  · intro c r waiting after t h' later enough
    have reached' : Reached (t, h') := reached_run reached later
    rcases waits_run reached waiting later with ⟨result, answered⟩ | ⟨waits, closer⟩
    · exact ⟨result, .inl answered⟩
    have nowhere : t.stage r = .elsewhere := by
      rcases enough with enough | ended
      · by_contra live
        have none_left : t.ahead r = 0 := by
          have bound := closer live
          omega
        refine live (stage_elsewhere (fun held => ?_) fun queued => ?_)
        · unfold ahead at none_left
          cases at_work : t.worker <;> rw [at_work] at held none_left
          all_goals simp [Worker.request?, Worker.remaining] at held none_left
        · unfold ahead at none_left
          rw [if_pos queued] at none_left
          omega
      · exact elsewhere_of_ended reached'.drained ended r
    have done := (reached'.waiting r ⟨c, false, waits⟩).2 nowhere
    obtain ⟨result, next⟩ := proceed_of_done reached'.ledger waits done
    exact ⟨result, .inr next⟩

theorem truthful_results_of_action : ∃ s h, run (noted (step {}) note) (init, Ledger.init)
      [.start 0 (.execute {}) 0, .take, .check 0, .call, .replies (.returned .none), .settle,
        .proceed 0] = some (s, h) ∧
    (∃ result, s.calls 0 = .answered result ∧ result.status = .completed) ∧
    (∃ cb, h.submitter cb = some 0) ∧ ∀ cb, h.entered cb ≤ 1 := by
  obtain ⟨s, h, ran, result, answered, completed, operation⟩ : ∃ s h, run (noted (step {}) note) (init, Ledger.init)
        [.start 0 (.execute {}) 0, .take, .check 0, .call, .replies (.returned .none), .settle,
          .proceed 0] = some (s, h) ∧
      ∃ result, s.calls 0 = .answered result ∧ result.status = .completed ∧
        result.operation = .execute := ⟨_, _, rfl, _, rfl, rfl, rfl⟩
  obtain ⟨once, answers, _⟩ := truthful_results ran
  refine ⟨s, h, ran, ⟨result, answered, completed⟩, ?_, once⟩
  exact (answers 0 result answered).2 (by rw [operation]; nofun) (.inl completed)

/-! ## A waiter that starves -/

def stopRound (k : Nat) : List Label :=
  [.start (k + 1) (.stop true (some (.finite 1)) none) 0, .take, .check 0, .call,
    .replies (.returned (.bool true)), .settle, .proceed (k + 1)]

def starvation : Nat → List Label
  | 0 => [.start 0 (.execute {}) 0]
  | k + 1 => starvation k ++ stopRound k

/-- After `k` stops the action is still in the queue. -/
structure Starving (k : Nat) (s : State) : Prop where
  worker : s.worker = .looping
  queue : s.queue = [0]
  request : s.requests 0 = { operation := .execute }
  created : s.created = k + 1
  isOpen : s.closed = false
  idle : s.active = none
  noStop : s.queuedStop = none
  noThread : s.preemptiveActive = false
  waiting : s.calls 0 = .waiting 0 false
  fresh : ∀ c, k < c → s.calls c = .unused

theorem starving_start {k} (inv : Starving k s) :
    step {} s (.start (k + 1) (.stop true (some (.finite 1)) none) 0) = some { s with
      requests := update s.requests (k + 1) { operation := .stop }
      created := k + 2
      queuedStop := some (k + 1)
      queue := [k + 1, 0]
      calls := update s.calls (k + 1) (.waiting (k + 1) true) } := by
  have unused := inv.fresh (k + 1) (Nat.lt_succ_self k)
  have timeout : validateTimeout (some (.finite 1)) "timeout_s" = .ok () := rfl
  simp only [step]
  rw [if_pos ⟨unused, (by rintro _ ⟨⟩)⟩]
  simp [State.start, State.submit, Submission.check, timeout, State.accept, State.setCall, inv.isOpen,
    inv.noStop, inv.idle, inv.queue, inv.created, bind, Except.bind]

theorem starving_serve {k} (inv : Starving k s) :
    ∃ t, run (step {}) s (stopRound k) = some t ∧ Starving (k + 1) t := by
  let started : Request := { operation := .stop, started := true }
  let u : State := { s with
    requests := update s.requests (k + 1) { operation := .stop }
    created := k + 2
    queuedStop := some (k + 1)
    queue := [k + 1, 0]
    calls := update s.calls (k + 1) (.waiting (k + 1) true) }
  have taken : step {} u .take = some { u with
      queue := [0]
      queuedStop := none
      active := some (k + 1)
      worker := .taken (k + 1)
      requests := update s.requests (k + 1) started } := by
    simp [u, started, step, inv.worker, State.take, inv.noThread, State.setRequest]
  let v : State := { u with
    queue := [0]
    queuedStop := none
    active := some (k + 1)
    requests := update s.requests (k + 1) started }
  have checked : step {} { v with worker := .taken (k + 1) } (.check 0) =
      some { v with worker := .calling (k + 1) } := by
    simp [u, v, started, step, State.check]
  have called : step {} { v with worker := .calling (k + 1) } .call =
      some { v with worker := .inside (k + 1), invoked := s.invoked ++ [k + 1] } := rfl
  let outcome : Outcome := .replied (.returned (.bool true))
  let w : State := { v with worker := .leaving (k + 1) outcome, invoked := s.invoked ++ [k + 1] }
  have replied : step {} { v with worker := .inside (k + 1), invoked := s.invoked ++ [k + 1] }
      (.replies (.returned (.bool true))) = some w := rfl
  let answer : IOResult := { outcome.result .stop with quarantined := s.quarantined }
  let x : State := { w with
    active := none
    worker := .looping
    lastStopResult := some answer
    requests := update s.requests (k + 1) { started with result := some answer, done := true } }
  have settled : step {} w .settle = some x := by
    simp [step, State.settle, x, w, v, u, started, answer, outcome, State.setRequest, Outcome.result,
      stopConfirmation]
  have proceeded : step {} x (.proceed (k + 1)) =
      some { x with calls := update u.calls (k + 1) (.answered answer) } := by
    simp [step, State.proceed, x, w, v, u, State.setCall]
  refine ⟨_, run_cons_eq_some.mpr ⟨u, starving_start inv, run_cons_eq_some.mpr ⟨_, taken,
    run_cons_eq_some.mpr ⟨_, checked, run_cons_eq_some.mpr ⟨_, called, run_cons_eq_some.mpr ⟨_, replied,
      run_cons_eq_some.mpr ⟨_, settled, run_cons_eq_some.mpr ⟨_, proceeded, rfl⟩⟩⟩⟩⟩⟩⟩, ?_⟩
  have other : (0 : Nat) ≠ k + 1 := Nat.succ_ne_zero k |>.symm
  exact {
    worker := rfl
    queue := rfl
    request := by
      simp only [x, update_of_ne other, inv.request]
    created := rfl
    isOpen := inv.isOpen
    idle := rfl
    noStop := rfl
    noThread := inv.noThread
    waiting := by
      simp only [u, update_of_ne other, inv.waiting]
    fresh := fun c above => by
      have distinct : c ≠ k + 1 := Nat.ne_of_gt above
      simp only [u, update_of_ne distinct]
      exact inv.fresh c (Nat.lt_of_succ_lt above) }

theorem starving_run (k : Nat) : ∃ s, run (step {}) init (starvation k) = some s ∧ Starving k s := by
  induction k with
  | zero =>
    refine ⟨_, rfl, ?_⟩
    exact {
      worker := rfl
      queue := rfl
      request := rfl
      created := rfl
      isOpen := rfl
      idle := rfl
      noStop := rfl
      noThread := rfl
      waiting := rfl
      fresh := fun c above => update_of_ne (Nat.ne_of_gt above) .. }
  | succ k ih =>
    obtain ⟨s, ran, inv⟩ := ih
    obtain ⟨t, round, after⟩ := starving_serve inv
    exact ⟨t, run_append.mpr ⟨s, ran, round⟩, after⟩

theorem starvation_works (k : Nat) : (starvation k).countP ofWorker = 5 * k := by
  induction k with
  | zero => rfl
  | succ k ih =>
    rw [starvation, countP_append, ih]
    change 5 * k + 5 = 5 * (k + 1)
    omega

/-- **A waiter can starve**: the worker keeps stepping, and it has no answer, nor has its request one. -/
theorem waiter_starves : ∃ prefixes : Nat → List Label, (∀ k, (prefixes k).IsPrefix (prefixes (k + 1)) ∧
      (prefixes k).countP ofWorker < (prefixes (k + 1)).countP ofWorker) ∧
    ∀ k, ∃ s, run (step {}) init (prefixes k) = some s ∧
      s.calls 0 = .waiting 0 false ∧ (s.requests 0).done = false := by
  refine ⟨starvation, fun k => ⟨prefix_append _ _, ?_⟩, fun k => ?_⟩
  · rw [starvation_works, starvation_works]
    omega
  · obtain ⟨s, ran, inv⟩ := starving_run k
    exact ⟨s, ran, inv.waiting, by rw [inv.request]⟩

end EmbodiRun.Io.Scheduler
