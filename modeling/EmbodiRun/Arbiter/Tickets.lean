/-
# Arbiter.Tickets -- where every accepted ticket is, and what reaches the port

`ticket_conservation`: a ticket that has not ended is in the queue, in the slot or in the
worker's hands, and in one of them only, exactly as long as no exception leaves the
worker's loop with a ticket in its hands; and the port sees each ticket at most once.
-/
import EmbodiRun.Arbiter.Custody

namespace EmbodiRun.Arbiter

open Io Transition List

variable {α : Type} {cfg : Config} {s t : State α} {l : Label α}

/-! ## Every live ticket is somewhere -/

/-- A ticket that has not ended is in the queue, in the slot or in the worker's hands. -/
def Covered (s : State α) : Prop :=
  ∀ k b, s.heap.core k = some b → b.status.terminal = false →
    k ∈ s.modelQueue ∨ s.manualPending = some k ∨ s.worker.ticket? = some k

theorem covered_dropped {status} (covered : Covered s)
    (worker : t.worker.ticket? = s.worker.ticket?) (queue slot : Bool)
    (modelQueue : t.modelQueue = if queue then [] else s.modelQueue)
    (manualPending : t.manualPending = if slot then none else s.manualPending)
    (heap : Heap.Clears ((if queue then s.modelQueue else []) ++
      (if slot then s.manualPending.toList else [])) status s.heap t.heap) : Covered t := by
  intro k b found live
  by_cases dropped : k ∈ (if queue then s.modelQueue else []) ++ (if slot then s.manualPending.toList else [])
  · rw [heap.core, if_pos dropped] at found
    obtain ⟨b', _, rfl⟩ := Option.map_eq_some_iff.mp found
    simp [CommandTicket.finish_terminal] at live
  rw [heap.core, if_neg dropped] at found
  rw [modelQueue, manualPending, worker]
  rcases covered k b found live with inQueue | inSlot | inHand
  · refine .inl ?_
    cases queue with
    | true => exact absurd (mem_append_left _ inQueue) dropped
    | false => exact inQueue
  · refine .inr (.inl ?_)
    cases slot with
    | true => exact absurd (mem_append_right _ (by simp [inSlot])) dropped
    | false => exact inSlot
  · exact .inr (.inr inHand)

theorem covered_pending (covered : Covered s) (worker : t.worker.ticket? = s.worker.ticket?)
    (pending : PendingStep cfg s t) : Covered t := by
  cases pending with
  | dropped queue slot modelQueue manualPending heap =>
    exact covered_dropped covered worker queue slot modelQueue manualPending heap
  | queued envelope isAutomatic room modelQueue manualPending heap =>
    intro k b found live
    rw [modelQueue, manualPending, worker]
    rw [heap, Heap.push_core] at found
    split at found
    · rename_i new
      exact .inl (mem_append_right _ (List.mem_singleton.mpr new))
    · exact (covered k b found live).imp_left (mem_append_left _)
  | staged envelope isManual modelQueue manualPending heap =>
    have emptied : Covered { s with
        manualPending := none
        heap := s.heap.finishAll s.manualPending.toList .replaced } :=
      covered_dropped covered rfl false true rfl rfl (Heap.clears_finishAll _)
    intro k b found live
    rw [modelQueue, manualPending, worker]
    rw [heap, Heap.push_core] at found
    split at found
    · rename_i new
      exact .inr (.inl (by rw [new]; simp))
    · rcases emptied k b found live with inQueue | inSlot | inHand
      · exact .inl inQueue
      · cases inSlot
      · exact .inr (.inr inHand)

theorem covered_taken (covered : Covered s) (looping : s.worker = .looping) (taken : Taken cfg s t) : Covered t := by
  intro j b found live
  cases taken with
  | ended modelQueue manualPending heap =>
    rw [heap] at found
    rw [modelQueue, manualPending]
    refine (covered j b found live).imp_right fun rest => .inl (rest.resolve_right ?_)
    simp [looping, Worker.ticket?]
  | took k drained b' f popped there isQueued envelope modelQueue manualPending heap hands =>
    by_cases self : k = j
    · subst self
      rw [heap, if_pos rfl, there] at found
      cases found
      rcases hands with ⟨station, _⟩ | ⟨status, _, finished⟩
      · exact .inr (.inr (by rw [station]; rfl))
      · cases finished.symm.trans live
    · rw [heap, if_neg self] at found
      rw [modelQueue, manualPending]
      have nowhere : s.worker.ticket? ≠ some j := by simp [looping, Worker.ticket?]
      have before := (covered j b found live).imp_right fun rest => rest.resolve_right nowhere
      rcases popped.source with ⟨rest, _, queue, rfl⟩ | ⟨_, _, pending, rfl⟩
      · rw [queue] at before
        rcases before with inQueue | inSlot
        · rcases List.mem_cons.mp inQueue with same | inRest
          · exact absurd same.symm self
          · exact .inl inRest
        · exact .inr (.inl inSlot)
      · rcases before with inQueue | inSlot
        · exact .inl inQueue
        · exact absurd (Option.some.inj (pending.symm.trans inSlot)) self

def Unwinds (s : State α) (l : Label α) : Prop := l = .release ∧ ∃ k, s.worker = .unwinding k

theorem covered_step_iff (custody : Custody cfg s)
    (idle : s.closed = true → s.modelQueue = [] ∧ s.manualPending = none) (covered : Covered s)
    (next : step cfg s l = some t) : Covered t ↔ ¬ Unwinds s l := by
  constructor
  · rintro after ⟨rfl, k, station⟩
    obtain ⟨b, found, ⟨running, _⟩ | ⟨elsewhere, _⟩⟩ := custody.held k (by rw [station]; rfl)
    · simp only [step, station] at next
      cases next
      rcases after k b found (by simp [running, CommandStatus.terminal]) with inQueue | inSlot | inHand
      · obtain ⟨b', there, isQueued, _⟩ := custody.queued k inQueue
        obtain rfl := Option.some.inj (found.symm.trans there)
        cases running.symm.trans isQueued
      · obtain ⟨b', there, isQueued, _⟩ := custody.staged k inSlot
        obtain rfl := Option.some.inj (found.symm.trans there)
        cases running.symm.trans isQueued
      · cases inHand
    · cases station.symm.trans elsewhere
  · intro orderly
    by_cases quiet : l.handles = false
    · obtain ⟨worker, _⟩ := worker_quiet quiet next
      have keeps : l.keepsWork = true := by
        cases l <;> first | rfl | cases quiet
      exact covered_pending covered worker.ticket (pending_step keeps next)
    cases l with simp only [step] at next
    | take =>
      obtain ⟨looping, _, taken⟩ := take_taken custody idle next
      exact covered_taken covered looping taken
    | execute =>
      split at next
      · rename_i k station
        cases next
        rw [Covered, station] at covered
        exact covered
      · cases next
    | finish =>
      split at next
      · rename_i k settlement station
        cases next
        rw [Covered, station] at covered
        intro j b found live
        rw [Heap.finish_core] at found
        split at found
        · obtain ⟨b', _, rfl⟩ := Option.map_eq_some_iff.mp found
          simp [CommandTicket.finish_terminal] at live
        · exact covered j b found live
      · cases next
    | release =>
      split at next
      · rename_i k station
        cases next
        intro j b found live
        rcases covered j b found live with inQueue | inSlot | inHand
        · exact .inl inQueue
        · exact .inr (.inl inSlot)
        · rw [station] at inHand
          cases inHand
          obtain ⟨b', there, ⟨_, elsewhere⟩ | ⟨_, finished⟩⟩ := custody.held k (by rw [station]; rfl)
          · exact absurd station elsewhere
          · obtain rfl := Option.some.inj (found.symm.trans there)
            cases finished.symm.trans live
      · rename_i k station
        exact absurd ⟨rfl, k, station⟩ orderly
      · cases next
    | _ => exact absurd rfl quiet

def State.places (s : State α) (k : TicketId) : Nat :=
  s.modelQueue.count k + s.manualPending.toList.count k + s.worker.ticket?.toList.count k

open State

theorem Custody.queue_nodup (custody : Custody cfg s) : s.modelQueue.Nodup := by
  have order := (List.pairwise_append.mp custody.order).2.1
  refine List.Pairwise.imp_of_mem (fun {a b} first second before => ?_) order
  obtain ⟨_, found, _, isAutomatic⟩ := custody.queued a first
  obtain ⟨_, found', _, isAutomatic'⟩ := custody.queued b second
  exact Nat.ne_of_lt (before (by simp [Heap.automatic, found, isAutomatic])
    (by simp [Heap.automatic, found', isAutomatic']))

theorem Custody.places_le (custody : Custody cfg s) (k : TicketId) : s.places k ≤ 1 := by
  have apart : ¬ (k ∈ s.modelQueue ∧ s.manualPending = some k) := by
    rintro ⟨inQueue, inSlot⟩
    obtain ⟨b, found, _, isAutomatic⟩ := custody.queued k inQueue
    obtain ⟨b', there, _, isManual⟩ := custody.staged k inSlot
    obtain rfl := Option.some.inj (found.symm.trans there)
    simp [isAutomatic] at isManual
  have unheld (pending : ∃ b, s.heap.core k = some b ∧ b.status = .queued) : s.worker.ticket? ≠ some k := by
    intro inHand
    obtain ⟨b, found, isQueued⟩ := pending
    obtain ⟨b', there, ⟨running, _⟩ | ⟨_, finished⟩⟩ := custody.held k inHand
    · obtain rfl := Option.some.inj (found.symm.trans there)
      cases isQueued.symm.trans running
    · obtain rfl := Option.some.inj (found.symm.trans there)
      simp [isQueued, CommandStatus.terminal] at finished
  have queue := List.nodup_iff_count_le_one.mp custody.queue_nodup k
  have single (o : Option TicketId) : o.toList.count k = if o = some k then 1 else 0 := by
    cases o with
    | none => simp
    | some => simp [count_singleton]
  unfold places
  rw [single, single]
  by_cases inQueue : k ∈ s.modelQueue
  · obtain ⟨b, found, isQueued, _⟩ := custody.queued k inQueue
    rw [if_neg fun inSlot => apart ⟨inQueue, inSlot⟩, if_neg (unheld ⟨b, found, isQueued⟩)]
    exact queue
  · rw [List.count_eq_zero.mpr inQueue]
    by_cases inSlot : s.manualPending = some k
    · obtain ⟨b, found, isQueued, _⟩ := custody.staged k inSlot
      rw [if_pos inSlot, if_neg (unheld ⟨b, found, isQueued⟩)]
    · rw [if_neg inSlot]
      split <;> simp

theorem places_pos_iff (s : State α) (k : TicketId) : 0 < s.places k ↔
      k ∈ s.modelQueue ∨ s.manualPending = some k ∨ s.worker.ticket? = some k := by
  have single (o : Option TicketId) : 0 < o.toList.count k ↔ o = some k := by
    rw [count_pos_iff, Option.mem_toList]
  rw [← count_pos_iff, ← single, ← single, places]
  lia

def OnePlace (s : State α) : Prop :=
  ∀ k b, s.heap.tickets[k]? = some b → b.status.terminal = false → s.places k = 1

theorem onePlace_iff (custody : Custody cfg s) : OnePlace s ↔ Covered s := by
  constructor
  · intro one k b found live
    obtain ⟨ticket, there, rfl⟩ := Option.map_eq_some_iff.mp found
    have places := one k ticket there live
    exact (places_pos_iff s k).mp (by lia)
  · intro covered k b found live
    have somewhere := (places_pos_iff s k).mpr (covered k b.core (by simp [Heap.core, found]) live)
    have := custody.places_le k
    lia

inductive CommandStatus.Moves : CommandStatus → CommandStatus → Prop
  | stays (status) : Moves status status
  | begins : Moves .queued .running
  | ends {before after : CommandStatus} (live : before.terminal = false)
      (finished : after.terminal = true) : Moves before after

theorem CommandTicket.Later.moves {before after : CommandTicket α} (later : before.Later after) :
    before.status.Moves after.status := by
  by_cases finished : before.status.terminal = true
  · rw [(later.ended finished).1]
    exact .stays _
  by_cases ended : after.status.terminal = true
  · exact .ends (Bool.eq_false_iff.mpr finished) ended
  by_cases queued : after.status = .queued
  · rw [queued, later.queued queued]
    exact .stays _
  have running : after.status = .running := by
    cases status : after.status <;> simp_all [CommandStatus.terminal]
  rw [running]
  cases status : before.status <;> simp_all [CommandStatus.terminal]
  · exact .begins
  · exact .stays _

/-- **Conservation of tickets**, exactly when no exception leaves the worker's loop with a ticket in
its hands. -/
theorem ticket_conservation {ls : List (Label α)} (ran : run (step cfg) init ls = some s) :
    ((∀ before after u, ls = before ++ after → run (step cfg) init before = some u →
        OnePlace u) ↔ Along (step cfg) (fun v l => ¬ Unwinds v l) init ls) ∧
    (∀ (k : TicketId) b (l : Label α) t, s.heap.tickets[k]? = some b → step cfg s l = some t →
      ∃ a, t.heap.tickets[k]? = some a ∧ b.status.Moves a.status) ∧
    s.portCalls.Nodup ∧
    (∀ k ∈ s.portCalls, ∃ b, s.heap.tickets[k]? = some b ∧ b.Ported) ∧
    s.portCalls.Pairwise s.heap.Before ∧
    s.modelQueue.length ≤ cfg.modelQueueCapacity := by
  have custody := custody_reachable ⟨ls, ran⟩
  refine ⟨?_, ?_, (List.nodup_append.mp custody.once).1, ?_, ?_, custody.room⟩
  · have keeps (v : State α) (l : Label α) (w : State α)
        (inv : Reachable (step cfg) init v ∧ Covered v) (next : step cfg v l = some w) :
        (Reachable (step cfg) init w ∧ Covered w) ↔ ¬ Unwinds v l := by
      rw [← covered_step_iff (custody_reachable inv.1) (closed_idle inv.1) inv.2 next]
      exact ⟨And.right, fun covered => ⟨inv.1.tail next, covered⟩⟩
    have start : Reachable (step cfg) init (init : State α) ∧ Covered (init : State α) :=
      ⟨.refl _, fun k b found => by cases found⟩
    rw [← along_iff_prefixes keeps start ran]
    constructor
    · intro one before after u split reached
      have isReachable : Reachable (step cfg) init u := ⟨before, reached⟩
      exact ⟨isReachable, (onePlace_iff (custody_reachable isReachable)).mp (one before after u split reached)⟩
    · intro covered before after u split reached
      obtain ⟨isReachable, isCovered⟩ := covered before after u split reached
      exact (onePlace_iff (custody_reachable isReachable)).mpr isCovered
  · intro k b l t found next
    obtain ⟨a, there, later, _⟩ := (heap_later next).tickets k b found
    exact ⟨a, there, later.moves⟩
  · intro k handed
    obtain ⟨b, found, isPorted⟩ := custody.ported k handed
    obtain ⟨ticket, there, rfl⟩ := Option.map_eq_some_iff.mp found
    exact ⟨ticket, there, isPorted⟩
  · have handed := (List.pairwise_append.mp custody.order).1
    exact (List.pairwise_append.mp handed).1

/-- A command in the worker's hands. -/
theorem ticket_conservation_taken : ∃ s : State Unit, run (step Config.two) init
      [.start 0 (.submit { action := (), source := .model, wait := false } 0), .take 0] = some s ∧
      s.worker.ticket? = some 0 ∧ OnePlace s := by
  obtain ⟨s, ran, inHand⟩ : ∃ s : State Unit, run (step Config.two) init
        [.start 0 (.submit { action := (), source := .model, wait := false } 0), .take 0] = some s ∧
        s.worker.ticket? = some 0 := ⟨_, rfl, rfl⟩
  refine ⟨s, ran, inHand, (ticket_conservation ran).1.mpr
    ⟨?_, fun _ _ => ⟨?_, fun _ _ => trivial⟩⟩ _ [] s (by simp) ran⟩
  · rintro ⟨same, _⟩
    cases same
  · rintro ⟨same, _⟩
    cases same

/-- The payload of the worker's last event cannot be built: the command is RUNNING for good, in no place. -/
theorem ticket_lost_by_event : ∃ s : State Unit, run (step Config.two) init
      [.start 0 (.submit { action := (), source := .model } 0), .announce 0 .quiet, .take 0,
        .execute, .executeReplies (.returned none), .settle,
        .emit (.escapes "maximum recursion depth exceeded"), .release] = some s ∧
      s.heap.status? 0 = some .running ∧ s.places 0 = 0 ∧ s.worker = .ended ∧
      s.calls 0 = .waiting 0 false :=
  ⟨_, rfl, rfl, rfl, rfl, rfl⟩

end EmbodiRun.Arbiter
