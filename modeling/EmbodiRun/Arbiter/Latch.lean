/-
# Arbiter.Latch -- what the emergency stop latch promises
-/
import EmbodiRun.Arbiter.Calls
import EmbodiRun.Arbiter.Dispatch

namespace EmbodiRun.Arbiter

open Io Transition State

variable {α : Type} {cfg : Config} {s t : State α} {l : Label α}

/-! ## The latch, over acts -/

def Control.Quiesced (k : Control) : Prop :=
  k.authority = .estopLatched → k.modelQueue = [] ∧ k.manualPending = none ∧ k.deadmanActive = false
variable {k k' : Control} {act : Act}

theorem Control.Step.quiesced (moved : Control.Step k act k') (quiet : k.Quiesced) : k'.Quiesced := by
  intro latched
  cases moved with
  | stay => exact quiet latched
  | enqueue t isModel | drainModel t rest isModel => exact absurd (isModel.symm.trans latched) (by decide)
  | stage t clock isManual | arm clock isManual | drainManual t isManual =>
    exact absurd (isManual.symm.trans latched) (by decide)
  | takeover | commitModel | reset => cases latched
  | disarm unlatched => exact absurd latched unlatched
  | clear => exact ⟨rfl, rfl, (quiet latched).2.2⟩
  | clearQueue => exact ⟨rfl, (quiet latched).2⟩
  | latch | shut => exact ⟨rfl, rfl, rfl⟩

theorem Control.Step.latches (moved : Control.Step k act k') (latched : k'.authority = .estopLatched) :
    act = .latch ∨ k.authority = .estopLatched := by
  cases moved with
  | latch => exact .inl rfl
  | takeover | commitModel | reset => cases latched
  | _ => exact .inr latched

theorem Control.Step.unlatches (moved : Control.Step k act k') (latched : k.authority = .estopLatched)
    (left : k'.authority ≠ .estopLatched) : act = .reset := by
  cases moved with
  | reset => rfl
  | takeover unlatched | commitModel unlatched => exact absurd latched unlatched
  | latch => exact absurd rfl left
  | _ => exact absurd latched left

theorem Control.Step.generation_le (moved : Control.Step k act k') : k.estopGeneration ≤ k'.estopGeneration := by
  cases moved with
  | latch => exact Nat.le_succ _
  | _ => exact le_rfl

/-! ## The latch, over sections -/

/-- The commit of the reset `c`: its hold is confirmed and no latch came after its first section. -/
def CommitsReset (s : State α) (l : Label α) (c : CallId) : Prop :=
  l = .proceed c ∧ s.calls c = .resetHeld s.estopGeneration none ∧ s.closed = false

theorem latch_left (next : step cfg s l = some t) (latched : s.authority = .estopLatched)
    (left : t.authority ≠ .estopLatched) : ∃ c, CommitsReset s l c := by
  obtain ⟨act, moved, cause⟩ := control_step next
  obtain rfl := moved.unlatches latched left
  obtain ⟨c, proceeds, station, isOpen⟩ := cause
  exact ⟨c, proceeds, station, isOpen⟩

theorem latch_set (next : step cfg s l = some t) (unlatched : s.authority ≠ .estopLatched)
    (latched : t.authority = .estopLatched) : Latches s l := by
  obtain ⟨act, moved, cause⟩ := control_step next
  obtain rfl := (moved.latches latched).resolve_right unlatched
  exact cause.1

theorem generation_le (next : step cfg s l = some t) : s.estopGeneration ≤ t.estopGeneration := by
  obtain ⟨_, moved, _⟩ := control_step next
  exact moved.generation_le

theorem latched_picks_nothing (latched : s.authority = .estopLatched) (k : TicketId) : ¬ Picks s l k := by
  intro picks
  obtain ⟨_, popped⟩ := picks_popped picks
  rcases popped.source with ⟨_, isModel, _⟩ | ⟨isManual, _⟩
  · exact absurd (isModel.symm.trans latched) (by decide)
  · exact absurd (isManual.symm.trans latched) (by decide)

/-! ## The active ticket -/
variable {marked : TicketId → Prop} {heap after : Heap α} {k : TicketId} {d : CallId}

theorem Heap.Later.cancelled (later : heap.Later marked after) (hit : heap.cancelled k = true) :
    after.cancelled k = true := by
  simp only [Heap.cancelled, Option.any_eq_true] at hit ⊢
  obtain ⟨b, found, isCancelled⟩ := hit
  obtain ⟨a, there, legal, _⟩ := later.tickets k b found
  exact ⟨a, there, legal.cancelled isCancelled⟩

theorem Heap.Later.length_le (later : heap.Later marked after) : heap.tickets.length ≤ after.tickets.length := by
  by_contra shrunk
  have bound : after.tickets.length < heap.tickets.length := Nat.lt_of_not_le shrunk
  obtain ⟨a, there, _⟩ := later.tickets after.tickets.length _ (List.getElem?_eq_getElem bound)
  exact absurd (Heap.ticket_lt there) (Nat.lt_irrefl _)

theorem quiesce_cancels (active : s.active = some k) (known : k < s.heap.tickets.length) :
    s.quiesce.heap.cancelled k = true := by
  have hit : (s.cancelActive none).heap.cancelled k = true := by
    have found := List.getElem?_eq_getElem known
    simp only [cancelActive, Heap.cancelled, active, Option.all_none, if_true,
      Heap.cancelIf_ticket, Heap.setEvent_tickets, found]
    simp [CommandTicket.cancel]
  have cleared : (s.cancelActive none).heap.Later (fun _ => False) s.quiesce.heap :=
    (clearModelQueue_later _ _).trans (clearManual_later _ _)
  exact cleared.cancelled hit

structure LatchInv (s : State α) : Prop where
  quiet : s.control.Quiesced
  known : ∀ k, s.active = some k → k < s.heap.tickets.length
  cancelled : s.authority = .estopLatched → ∀ k, s.active = some k → s.heap.cancelled k = true

theorem latchInv_init : LatchInv (init : State α) where
  quiet latched := by cases latched
  known k active := by cases active
  cancelled latched := by cases latched

theorem latchInv_step (inv : LatchInv s) (next : step cfg s l = some t) : LatchInv t := by
  obtain ⟨act, moved, cause⟩ := control_step next
  have later := heap_later next
  refine ⟨moved.quiesced inv.quiet, fun k active => ?_, fun latched k active => ?_⟩
  · rcases active_step next with same | none_ | ⟨k', _, began, running⟩
    · exact (inv.known k (same.symm.trans active)).trans_le later.length_le
    · cases none_.symm.trans active
    · obtain rfl := Option.some.inj (began.symm.trans active)
      obtain ⟨a, there, _⟩ := Option.map_eq_some_iff.mp running
      exact Heap.ticket_lt there
  · rcases moved.latches latched with rfl | before
    · obtain ⟨_, same, quiesced⟩ := cause
      have active : s.active = some k := same.symm.trans active
      rw [quiesced]
      exact quiesce_cancels active (inv.known k active)
    · rcases active_step next with same | none_ | ⟨k', ⟨picks, _⟩, _⟩
      · exact later.cancelled (inv.cancelled before k (same.symm.trans active))
      · cases none_.symm.trans active
      · exact absurd picks (latched_picks_nothing before k')

theorem latchInv_reachable (reached : Reachable (step cfg) init s) : LatchInv s :=
  reachable_induction (fun _ _ _ => latchInv_step) reached latchInv_init

/-- **Quiescence under the latch.** -/
theorem latch_quiescence (reached : Reachable (step cfg) init s) (latched : s.authority = .estopLatched) :
    (s.modelQueue = [] ∧ s.manualPending = none ∧ s.deadmanActive = false ∧
      ∀ k, s.active = some k → s.heap.cancelled k = true) ∧
    ∀ l t, step cfg s l = some t → (∀ k, ¬ MarksRunning s l k ∧
        ¬ (s.heap.status? k = some .queued ∧ t.heap.status? k = some .running)) ∧
      (t.authority ≠ .estopLatched → ∃ c, CommitsReset s l c) := by
  have inv := latchInv_reachable reached
  obtain ⟨queue, slot, deadman⟩ := inv.quiet latched
  have idle (l : Label α) (k : TicketId) : ¬ MarksRunning s l k :=
    fun marks => latched_picks_nothing latched k marks.1
  refine ⟨⟨queue, slot, deadman, inv.cancelled latched⟩, fun l t next => ⟨fun k => ?_, ?_⟩⟩
  · exact ⟨idle l k, fun ⟨queued, running⟩ => idle l k (running_marked next queued running)⟩
  · exact latch_left next latched

/-- An emergency stop over an active command. -/
theorem latch_quiescence_after_stop : ∃ s : State Unit,
    Reachable (step Config.two) init s ∧ s.authority = .estopLatched ∧
      s.active = some 0 ∧ s.modelQueue = [] ∧ s.heap.cancelled 0 = true := by
  obtain ⟨s, ran, latched, active⟩ : ∃ s : State Unit, run (step Config.two) init
        [.start 0 (.submit { action := (), source := .model, wait := false } 0),
          .start 1 (.submit { action := (), source := .agent, wait := false } 0),
          .take 0, .execute, .start 2 .emergencyStop] = some s ∧
        s.authority = .estopLatched ∧ s.active = some 0 := ⟨_, rfl, rfl, rfl⟩
  obtain ⟨⟨queue, _, _, cancelled⟩, _⟩ := latch_quiescence ⟨_, ran⟩ latched
  exact ⟨s, ⟨_, ran⟩, latched, active, queue, cancelled 0 active⟩

/-! ## Failed stops -/

/-- Inside the stop call of an emergency stop or a reset, or with its outcome yet to record. -/
def Call.stops : Call → Bool
  | .stopping | .stopFailed _ | .resetting _ | .resetHeld _ _ => true
  | _ => false

open Call

def Call.records : Call → Bool
  | .held _ (some _) | .stopFailed _ | .resetHeld _ (some _) => true
  | _ => false

/-- The call is at the last section of `_finish_hold`. -/
def Call.atHold : Call → Bool
  | .held _ _ => true
  | _ => false

def Call.captured? : Call → Option Nat
  | .resetting generation | .resetHeld generation none => some generation
  | _ => none

theorem start_latched (cfg : Config) {c} (op : Operation α) (stops : ((s.start cfg c op).calls c).stops = true) :
    (s.start cfg c op).authority = .estopLatched := by
  cases op with
  | submit args clock =>
    simp only [start] at stops ⊢
    rcases submit_cases cfg c args clock s with ⟨failure, refused⟩ | ⟨envelope, _, _, accepted⟩
    · simp [refused, State.raise, State.setCall, Call.stops] at stops
    · generalize s.submit cfg c args clock = after at accepted stops
      cases accepted <;> simp [State.setCall, Call.stops] at stops
  | _ =>
    simp only [State.start, State.beginAutomaticTask, State.finishAutomaticWork,
      State.acquireManual, State.releaseManual, State.setDeadman, State.hold,
      cancelAutomaticWork, emergencyStop, resetEmergencyStop, close,
      requireOpen] at stops ⊢
    grind [raise, clearModelQueue, clearManual, cancelActive, cancelActiveAutomaticTicket, stops]

theorem stop_begins (next : step cfg s l = some t) (fresh : s.calls d = .unused)
    (stops : (t.calls d).stops = true) : t.authority = .estopLatched := by
  rcases call_begins next fresh (fun idle => by simp [idle, Call.stops] at stops) with
    ⟨worker, op, rfl⟩ | rfl
  · exact start_latched cfg op stops
  · simp [State.expire, Call.stops] at stops

theorem Call.Moves.stops_before {generation : Nat} {before after : Call}
    (edge : before.Moves generation after) (stops : after.stops = true) :
    before = .unused ∨ before.stops = true := by
  cases edge <;> simp_all [Call.stops]
  rename_i holder
  rcases holder.next_cases with ⟨_, ends⟩ | ⟨_, _, _, ends⟩ <;> simp [ends] at stops

theorem Call.Moves.captured_before {generation captured : Nat} {before after : Call}
    (edge : before.Moves generation after) (holds : after.captured? = some captured) :
    (before = .unused ∧ captured = generation) ∨ before.captured? = some captured := by
  cases edge <;> simp_all [captured?]
  · rename_i holder
    rcases holder.next_cases with ⟨_, ends⟩ | ⟨_, _, _, ends⟩ <;> simp [ends] at holds
  · rename_i captured' failure
    cases failure <;> simp_all

def CapturedInv (s : State α) : Prop :=
  ∀ r generation, (s.calls r).captured? = some generation → generation ≤ s.estopGeneration

theorem capturedInv_step (inv : CapturedInv s) (next : step cfg s l = some t) : CapturedInv t := by
  intro r generation captured
  refine le_trans ?_ (generation_le next)
  rcases call_step next r with same | ⟨_, edge⟩
  · exact inv r generation (same ▸ captured)
  · rcases edge.captured_before captured with ⟨_, rfl⟩ | before
    · exact le_rfl
    · exact inv r generation before

theorem capturedInv_reachable (reached : Reachable (step cfg) init s) : CapturedInv s :=
  reachable_induction (fun _ _ _ => capturedInv_step) reached (by intro r _ captured; cases captured)

theorem closed_stays (next : step cfg s l = some t) (closed : s.closed = true) : t.closed = true := by
  obtain ⟨act, moved, _⟩ := control_step next
  have kept : t.control.closed = true := by
    generalize t.control = k at moved
    cases moved <;> first | rfl | exact closed
  exact kept

theorem stop_latched {before : List (Label α)} (ran : run (step cfg) init before = some s)
    (undisturbed : Along (step cfg) (fun v l => v.calls d ≠ .unused → ∀ c, ¬ CommitsReset v l c) init before)
    (stops : (s.calls d).stops = true) : s.authority = .estopLatched := by
  refine run_induction (I := fun v => (v.calls d).stops = true → v.authority = .estopLatched)
    ?_ undisturbed (fun begun => by simp [State.init, Call.stops] at begun) ran stops
  intro v l w quiet latched next stops
  by_cases fresh : v.calls d = .unused
  · exact stop_begins next fresh stops
  have before : (v.calls d).stops = true := by
    rcases call_step next d with same | ⟨_, edge⟩
    · exact same ▸ stops
    · exact (edge.stops_before stops).resolve_left fresh
  by_contra left
  obtain ⟨c, commits⟩ := latch_left next (latched before) left
  exact quiet fresh c commits

theorem records_cases (records : (s.calls d).records = true) (next : step cfg s (.proceed d) = some t) :
    ((s.calls d).atHold = true ∧ t.authority = .estopLatched ∧ t.estopGeneration = s.estopGeneration + 1) ∨
    ((s.calls d).atHold = false ∧ (s.calls d).stops = true ∧ t.authority = s.authority ∧
      t.estopGeneration = s.estopGeneration ∧ t.closed = s.closed) := by
  simp only [step, State.proceed] at next
  split at next <;> rename_i station <;> simp only [station, Call.records, Bool.false_eq_true] at records <;>
    obtain rfl := Option.some.inj next <;> rw [station]
  · exact .inl ⟨rfl, rfl, rfl⟩
  · exact .inr ⟨rfl, rfl, rfl, rfl, rfl⟩
  · exact .inr ⟨rfl, rfl, rfl, rfl, rfl⟩

theorem captured_commits (cfg : Config) {r : CallId} (isOpen : t.closed = false)
    (captured : (t.calls r).captured? = some t.estopGeneration) :
    ∃ after u, run (step cfg) t after = some u ∧ u.authority = .manual ∧
      Along (step cfg) (fun v l => ∀ c, CommitsReset v l c → c = r) t after := by
  have commit (v : State α) (isOpen : v.closed = false) (station : v.calls r = .resetHeld v.estopGeneration none) :
      ∃ u, step cfg v (.proceed r) = some u ∧ u.authority = .manual := by
    refine ⟨_, by simp only [step, proceed, station]; rfl, ?_⟩
    simp [commitReset, requireOpen, isOpen]
  have only (v : State α) (c : CallId) : CommitsReset v (.proceed r) c → c = r := by
    rintro ⟨same, _⟩
    exact (Label.proceed.inj same).symm
  cases station : t.calls r with
  | resetting generation =>
    obtain rfl : generation = t.estopGeneration := by simpa [station, captured?] using captured
    have replies : step cfg t (.stopReplies r (.returned none)) =
        some (t.setCall r (.resetHeld t.estopGeneration none)) := by
      simp [step, stopReplies, station, StopReply.failure]
    obtain ⟨u, commits, manual⟩ := commit (t.setCall r (.resetHeld t.estopGeneration none)) isOpen (by simp [setCall])
    refine ⟨[.stopReplies r (.returned none), .proceed r], u,
      run_cons_eq_some.mpr ⟨_, replies, run_cons_eq_some.mpr ⟨u, commits, rfl⟩⟩, manual, ?_⟩
    refine ⟨fun c commits => ?_, fun v _ => ⟨only v, fun _ _ => trivial⟩⟩
    cases commits.1
  | resetHeld generation failure =>
    cases failure with
    | some => simp [station, captured?] at captured
    | none =>
      obtain rfl : generation = t.estopGeneration := by
        simpa [station, captured?] using captured
      obtain ⟨u, commits, manual⟩ := commit t isOpen station
      exact ⟨[.proceed r], u, run_cons_eq_some.mpr ⟨u, commits, rfl⟩, manual, only t, fun _ _ => trivial⟩
  | _ => simp [station, captured?] at captured

/-- From the latched `t` on, `v` is latched and no call begun by `t` can take the latch away. -/
structure KeepsLatch (t v : State α) : Prop where
  latched : v.authority = .estopLatched
  begun : ∀ r, t.calls r ≠ .unused → v.calls r ≠ .unused
  spent : v.closed = true ∨ ∀ r, t.calls r ≠ .unused → (v.calls r).captured? ≠ some v.estopGeneration
  bound : CapturedInv v

theorem keepsLatch_step {v w : State α} (later : ∀ c, CommitsReset v l c → t.calls c ≠ .unused)
    (keeps : KeepsLatch t v) (next : step cfg v l = some w) : KeepsLatch t w where
  latched := by
    by_contra left
    obtain ⟨c, commits⟩ := latch_left next keeps.latched left
    obtain ⟨_, station, isOpen⟩ := commits
    rcases keeps.spent with closed | spent
    · simp [closed] at isOpen
    · exact spent c (later c ⟨‹_›, station, isOpen⟩) (by rw [station]; rfl)
  begun r used := used_stays next r (keeps.begun r used)
  spent := by
    refine keeps.spent.imp (closed_stays next) fun spent r used captured => ?_
    have before : (v.calls r).captured? = some w.estopGeneration := by
      rcases call_step next r with same | ⟨_, edge⟩
      · exact same ▸ captured
      · exact (edge.captured_before captured).resolve_left fun fresh => keeps.begun r used fresh.1
    have bound := keeps.bound r _ before
    have grown := generation_le next
    exact spent r used (by rw [before, le_antisymm bound grown])
  bound := capturedInv_step keeps.bound next

/-- **A recorded stop failure keeps the robot latched**, exactly when the failure is a hold's or no
reset that captured the generation is left. -/
theorem failed_stop_stays_latched {d : CallId} {before : List (Label α)}
    (ran : run (step cfg) init before = some s) (records : (s.calls d).records = true)
    (undisturbed : (s.calls d).atHold = true ∨
      Along (step cfg) (fun v l => v.calls d ≠ .unused → ∀ c, ¬ CommitsReset v l c) init before)
    (next : step cfg s (.proceed d) = some t) :
    t.authority = .estopLatched ∧
    ((∀ after u, run (step cfg) t after = some u →
        Along (step cfg) (fun v l => ∀ c, CommitsReset v l c → t.calls c ≠ .unused) t after →
        u.authority = .estopLatched) ↔
      ((s.calls d).atHold = true ∨ s.closed = true ∨ ∀ r, (s.calls r).captured? ≠ some s.estopGeneration)) := by
  have reached : Reachable (step cfg) init s := ⟨before, ran⟩
  have latched : t.authority = .estopLatched := by
    rcases records_cases records next with ⟨_, latched, _⟩ | ⟨elsewhere, stops, same, _⟩
    · exact latched
    · rw [same]
      refine stop_latched ran (undisturbed.resolve_left ?_) stops
      simp [elsewhere]
  have moved (r : CallId) : t.calls r = s.calls r ∨ r = d := by
    rcases call_step next r with same | ⟨mover, _⟩
    · exact .inl same
    · exact .inr (Option.some.inj mover).symm
  have spent : (s.calls d).captured? = none := by
    cases station : s.calls d with
    | resetHeld generation failure => cases failure <;> simp_all [Call.records, Call.captured?]
    | _ => simp_all [Call.records, Call.captured?]
  refine ⟨latched, fun stays => ?_, fun alone after u ranOn later => ?_⟩
  · by_contra shared
    simp only [not_or, not_forall, not_not] at shared
    obtain ⟨elsewhere, isOpen, r, captured⟩ := shared
    obtain ⟨hold, _⟩ | ⟨_, _, _, generation, closed⟩ := records_cases records next
    · exact elsewhere hold
    have other : r ≠ d := fun same => by simp [same, spent] at captured
    have here : t.calls r = s.calls r := (moved r).resolve_right other
    obtain ⟨after, u, ranOn, manual, only⟩ := captured_commits cfg (t := t) (r := r)
      (by rw [closed]; simpa using isOpen) (by rw [here, generation]; exact captured)
    have kept := stays after u ranOn (along_mono (fun v l commits c isCommit => by
      rw [commits c isCommit, here]
      intro unused
      simp [unused, captured?] at captured) only)
    exact absurd (manual.symm.trans kept) (by decide)
  · have bound : CapturedInv t := capturedInv_reachable (reached.tail next)
    have past := capturedInv_reachable reached
    have keeps : KeepsLatch t t := by
      refine ⟨latched, fun _ => id, ?_, bound⟩
      by_cases closed : s.closed = true
      · exact .inl (closed_stays next closed)
      refine .inr fun r _ captured => ?_
      by_cases self : r = d
      · subst self
        rcases call_step next r with same | ⟨_, edge⟩
        · simp [same, spent] at captured
        · rcases edge.captured_before captured with ⟨fresh, _⟩ | before
          · simp [fresh, Call.records] at records
          · simp [spent] at before
      rw [(moved r).resolve_right self] at captured
      rcases records_cases records next with ⟨_, _, generation⟩ | ⟨elsewhere, _, _, generation, _⟩
      · have := past r _ captured
        lia
      · rw [generation] at captured
        exact (alone.resolve_left (by simp [elsewhere])).resolve_left closed r captured
    exact (run_induction (fun _ _ _ => keepsLatch_step) later keeps ranOn).latched

/-- The failure of a lone emergency stop is recorded under the latch. -/
theorem failed_stop_stays_latched_alone : ∃ s t : State Unit, run (step Config.two) init
      [.start 0 .emergencyStop, .stopReplies 0 (.raised "bus down")] = some s ∧
      step Config.two s (.proceed 0) = some t ∧ t.authority = .estopLatched := by
  refine ⟨_, _, rfl, rfl, ?_⟩
  refine (@failed_stop_stays_latched Unit Config.two _ _ 0
    [.start 0 .emergencyStop, .stopReplies 0 (.raised "bus down")] rfl rfl (.inr ?_) rfl).1
  refine ⟨fun used => absurd rfl used, fun v _ => ⟨fun _ c commits => ?_, fun _ _ => trivial⟩⟩
  cases commits.1

/-- The second of two resets commits, then the first records that its stop failed, under MANUAL. -/
theorem reset_failure_recorded_unlatched : ∃ s t : State Unit, run (step Config.two) init
      [.start 0 .emergencyStop, .stopReplies 0 (.returned none), .proceed 0,
        .start 1 .resetEmergencyStop, .start 2 .resetEmergencyStop,
        .stopReplies 2 (.returned none), .proceed 2, .stopReplies 1 (.raised "bus down")] = some s ∧
      (s.calls 1).records = true ∧ step Config.two s (.proceed 1) = some t ∧
      t.lastStopError = some "bus down" ∧ t.authority = .manual :=
  ⟨_, _, rfl, rfl, rfl, rfl, rfl⟩

end EmbodiRun.Arbiter
