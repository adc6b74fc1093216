/-
# Arbiter.Custody -- the tickets in flight

`Custody` is the invariant of the tickets in flight: the queue holds QUEUED automatic
tickets in acceptance order, the slot a QUEUED manual one, the worker one RUNNING ticket
up to its end, and what the port has seen was begun, once, and automatic tickets in
acceptance order.  `custody_reachable`: it holds in every reachable state.
-/
import EmbodiRun.Arbiter.Pending

namespace EmbodiRun.Arbiter

open Io Transition List TerminalStatus State

variable {α : Type} {cfg : Config} {s t : State α} {l : Label α}

/-! ## The worker's hands -/

def Worker.pending : Worker → List TicketId
  | .dispatching t => [t]
  | _ => []

def Settlement.Sound (settlement : Settlement) : Prop :=
  settlement.status.1 ≠ .cleared ∧ settlement.status.1 ≠ .replaced ∧
    (settlement.status.1 = .expired → settlement.result.isSome = true)

def Worker.Sound : Worker → Prop
  | .recording _ settlement _ _ | .alarmed _ settlement | .stopping _ settlement _
  | .emitting _ settlement | .finishing _ settlement => settlement.Sound
  | _ => True

structure Worker.Quiet (before after : Worker) : Prop where
  ticket : after.ticket? = before.ticket?
  pending : after.pending = before.pending
  releasing : ∀ k, after = .releasing k ↔ before = .releasing k
  sound : before.Sound → after.Sound

theorem Worker.Quiet.refl (worker : Worker) : Worker.Quiet worker worker :=
  ⟨rfl, rfl, fun _ => .rfl, id⟩

theorem mapPortResult_sound (result : Option IOResult) (cancelled : Bool) :
    Settlement.Sound ⟨(mapPortResult result cancelled).1, (mapPortResult result cancelled).2, result⟩ := by
  cases result with
  | none => cases cancelled <;> exact ⟨by decide, by decide, fun expired => by cases expired⟩
  | some r =>
    have kept : (mapPortResult (some r) cancelled).1.1 ≠ .cleared ∧
        (mapPortResult (some r) cancelled).1.1 ≠ .replaced := by
      unfold mapPortResult
      dsimp only
      repeat' split
      all_goals simp [TerminalStatus.executed, TerminalStatus.cancelled, TerminalStatus.expired,
        TerminalStatus.failed]
    exact ⟨kept.1, kept.2, fun _ => rfl⟩

theorem settle_sound (k : TicketId) (cancelled : Bool) (reply : ExecuteReply) : (settle k cancelled reply).Sound := by
  cases reply with
  | returned result =>
    unfold settle
    dsimp only
    split <;> exact mapPortResult_sound result cancelled
  | raised =>
    cases cancelled <;> simp [settle, Worker.Sound, Settlement.Sound, failed, cancelled]
  | exits => exact trivial

theorem settle_ticket (k : TicketId) (cancelled : Bool) (reply : ExecuteReply) :
    (settle k cancelled reply).ticket? = some k ∧ (settle k cancelled reply).pending = [] ∧
      ∀ j, settle k cancelled reply ≠ .releasing j := by
  cases reply with
  | returned =>
    unfold settle
    dsimp only
    split <;> exact ⟨rfl, rfl, fun _ same => by cases same⟩
  | raised | exits => exact ⟨rfl, rfl, fun _ same => by cases same⟩

def Label.handles : Label α → Bool
  | .take _ | .execute | .finish | .release => true
  | _ => false

theorem worker_quiet (quiet : l.handles = false) (next : step cfg s l = some t) :
    Worker.Quiet s.worker t.worker ∧ t.portCalls = s.portCalls := by
  by_cases other : l.ofWorker = false
  · have same := other_sameWorker other next
    exact ⟨by rw [same.worker]; exact .refl _, same.portCalls⟩
  cases l with
  | executeReplies reply =>
    simp only [step] at next
    split at next
    · rename_i k station
      cases next
      rw [station]
      exact ⟨⟨rfl, rfl, fun _ => by simp, fun _ => trivial⟩, rfl⟩
    · cases next
  | settle =>
    simp only [step] at next
    split at next
    · rename_i k reply station
      cases next
      obtain ⟨ticket, pending, releasing⟩ := settle_ticket k (s.heap.cancelled k) reply
      rw [station]
      exact ⟨⟨ticket, pending, fun j => by simp [releasing j], fun _ => settle_sound k _ reply⟩, rfl⟩
    · cases next
  | record =>
    simp only [step] at next
    split at next
    · rename_i k settlement text stop station
      cases next
      rw [station]
      cases stop <;> exact ⟨⟨rfl, rfl, fun _ => by simp, id⟩, rfl⟩
    · cases next
  | alarm c =>
    simp only [step] at next
    split at next
    · rename_i k settlement station
      split at next <;> cases next
      have same := start_sameWorker cfg c .emergencyStop (s := { s with worker := .stopping k settlement c })
      refine ⟨?_, same.portCalls⟩
      have worker : ({ s with worker := .stopping k settlement c }.emergencyStop c).worker =
        .stopping k settlement c := same.worker
      rw [worker, station]
      exact ⟨rfl, rfl, fun _ => by simp, id⟩
    · cases next
  | alarmOver =>
    simp only [step, alarmOver] at next
    split at next
    · rename_i k settlement c station
      split at next <;> first
        | cases next; done
        | (cases next
           rw [station]
           first
            | exact ⟨⟨rfl, rfl, fun _ => by simp, id⟩, rfl⟩
            | exact ⟨⟨rfl, rfl, fun _ => by simp, fun _ => trivial⟩, rfl⟩)
    · cases next
  | emit emission =>
    simp only [step, workerEmits] at next
    split at next
    · rename_i station
      cases next
      rw [station]
      cases emission <;> exact ⟨⟨rfl, rfl, fun _ => by simp [emit], fun _ => trivial⟩, rfl⟩
    · rename_i k settlement station
      cases next
      rw [station]
      cases emission with
      | quiet | callbackFailed => exact ⟨⟨rfl, rfl, fun _ => by simp [emit], id⟩, rfl⟩
      | escapes => exact ⟨⟨rfl, rfl, fun _ => by simp [emit], fun _ => trivial⟩, rfl⟩
    · cases next
  | take | execute | finish | release => cases quiet
  | _ => exact absurd rfl other

/-! ## Custody -/

def Heap.automatic (heap : Heap α) (k : TicketId) : Bool :=
  (heap.core k).any (·.envelope.source.automatic)

open Heap

def Heap.Before (heap : Heap α) (a b : TicketId) : Prop :=
  heap.automatic a = true → heap.automatic b = true → a < b

def CommandTicket.Ported (ticket : CommandTicket α) : Prop :=
  ticket.status ≠ .queued ∧ ticket.status ≠ .cleared ∧ ticket.status ≠ .replaced ∧
    (ticket.status = .expired → ticket.result.isSome = true)

open CommandTicket

structure Custody (cfg : Config) (s : State α) : Prop where
  queued : ∀ k ∈ s.modelQueue, ∃ b, s.heap.core k = some b ∧ b.status = .queued ∧ b.envelope.source.automatic = true
  staged : ∀ k, s.manualPending = some k → ∃ b, s.heap.core k = some b ∧ b.status = .queued ∧
    b.envelope.source.automatic = false
  held : ∀ k, s.worker.ticket? = some k → ∃ b, s.heap.core k = some b ∧
    ((b.status = .running ∧ s.worker ≠ .releasing k) ∨ (s.worker = .releasing k ∧ b.status.terminal = true))
  ported : ∀ k ∈ s.portCalls, ∃ b, s.heap.core k = some b ∧ b.Ported
  once : (s.portCalls ++ s.worker.pending).Nodup
  order : (s.portCalls ++ s.worker.pending ++ s.modelQueue).Pairwise s.heap.Before
  sound : s.worker.Sound
  room : s.modelQueue.length ≤ cfg.modelQueueCapacity

theorem pending_held {worker : Worker} {k : TicketId} (pending : k ∈ worker.pending) :
    worker.ticket? = some k ∧ ∀ j, worker ≠ .releasing j := by
  cases worker with
  | dispatching =>
    obtain rfl := List.mem_singleton.mp pending
    exact ⟨rfl, fun _ same => by cases same⟩
  | _ => cases pending

namespace Custody

theorem known (custody : Custody cfg s) {k : TicketId}
    (inFlight : k ∈ s.portCalls ++ s.worker.pending ++ s.modelQueue) :
    k < s.heap.tickets.length := by
  rcases List.mem_append.mp inFlight with before | queued
  · rcases List.mem_append.mp before with ported | pending
    · obtain ⟨b, found, _⟩ := custody.ported k ported
      exact core_lt found
    · obtain ⟨b, found, _⟩ := custody.held k (pending_held pending).1
      exact core_lt found
  · obtain ⟨b, found, _⟩ := custody.queued k queued
    exact core_lt found

theorem init : Custody cfg (init : State α) where
  queued k pending := by cases pending
  staged k pending := by cases pending
  held k held := by cases held
  ported k ported := by cases ported
  once := nodup_nil
  order := List.Pairwise.nil
  sound := trivial
  room := Nat.zero_le _

theorem kept {gone} {status} {after} (custody : Custody cfg s) (heap : s.heap.Clears gone status after)
    (pending : ∀ k ∈ gone, k ∈ s.modelQueue ∨ s.manualPending = some k) {k}
    {b} (found : s.heap.core k = some b) (begun : b.status ≠ .queued) :
    after.core k = some b := by
  rw [heap.core]
  split
  · rename_i dropped
    exfalso
    rcases pending k dropped with queued | staged
    · obtain ⟨b', there, isQueued, _⟩ := custody.queued k queued
      obtain rfl := Option.some.inj (found.symm.trans there)
      exact begun isQueued
    · obtain ⟨b', there, isQueued, _⟩ := custody.staged k staged
      obtain rfl := Option.some.inj (found.symm.trans there)
      exact begun isQueued
  · exact found

theorem begun (custody : Custody cfg s) (quiet : Worker.Quiet s.worker t.worker)
    (portCalls : t.portCalls = s.portCalls)
    (same : ∀ k b, s.heap.core k = some b → b.status ≠ .queued → t.heap.core k = some b) :
    (∀ k, t.worker.ticket? = some k → ∃ b, t.heap.core k = some b ∧ ((b.status = .running ∧ t.worker ≠ .releasing k) ∨
        (t.worker = .releasing k ∧ b.status.terminal = true))) ∧
    (∀ k ∈ t.portCalls, ∃ b, t.heap.core k = some b ∧ b.Ported) ∧
    (t.portCalls ++ t.worker.pending).Nodup := by
  refine ⟨fun k held => ?_, fun k ported => ?_, ?_⟩
  · obtain ⟨b, found, ⟨running, elsewhere⟩ | ⟨station, finished⟩⟩ :=
      custody.held k (quiet.ticket.symm.trans held)
    · refine ⟨b, same k b found (by simp [running]), .inl ⟨running, fun station => ?_⟩⟩
      exact elsewhere ((quiet.releasing k).mp station)
    · refine ⟨b, same k b found ?_, .inr ⟨(quiet.releasing k).mpr station, finished⟩⟩
      intro isQueued
      simp [isQueued, CommandStatus.terminal] at finished
  · obtain ⟨b, found, isPorted⟩ := custody.ported k (portCalls ▸ ported)
    exact ⟨b, same k b found isPorted.1, isPorted⟩
  · rw [portCalls, quiet.pending]
    exact custody.once

end Custody
variable {heap after : Heap α} {k : TicketId}

variable {status : TerminalStatus} {b : CommandTicket α} {f : CommandTicket α → CommandTicket α} {drained : State α}

theorem Heap.Clears.automatic {gone : List TicketId} (clears : heap.Clears gone status after)
    (k : TicketId) : after.automatic k = heap.automatic k := by
  rw [Heap.automatic, Heap.automatic, clears.core]
  split
  · cases heap.core k <;> simp
  · rfl

theorem CommandTicket.Ported.of_running (running : b.status = .running) : b.Ported := by
  refine ⟨?_, ?_, ?_, ?_⟩ <;> simp [running]

theorem custody_dropped (custody : Custody cfg s) (quiet : Worker.Quiet s.worker t.worker)
    (portCalls : t.portCalls = s.portCalls) (queue slot : Bool)
    (modelQueue : t.modelQueue = if queue then [] else s.modelQueue)
    (manualPending : t.manualPending = if slot then none else s.manualPending)
    (heap : Heap.Clears ((if queue then s.modelQueue else []) ++
      (if slot then s.manualPending.toList else [])) status s.heap t.heap) : Custody cfg t := by
  have pending : ∀ k ∈ (if queue then s.modelQueue else []) ++ (if slot then s.manualPending.toList else []),
      k ∈ s.modelQueue ∨ s.manualPending = some k := by
    intro k dropped
    rcases List.mem_append.mp dropped with inQueue | inSlot
    · cases queue with
      | true => exact .inl inQueue
      | false => cases inQueue
    · cases slot with
      | true => exact .inr (by simpa using inSlot)
      | false => cases inSlot
  have fewer : t.modelQueue.Sublist s.modelQueue := by
    rw [modelQueue]
    split
    · exact nil_sublist _
    · exact .refl _
  obtain ⟨held, ported, once⟩ := custody.begun quiet portCalls fun k b found begun =>
    custody.kept heap pending found begun
  refine ⟨?_, ?_, held, ported, once, ?_, quiet.sound custody.sound, fewer.length_le.trans custody.room⟩
  · intro k inQueue
    cases queue with
    | true =>
      rw [modelQueue] at inQueue
      cases inQueue
    | false =>
      obtain ⟨b, found, isQueued, isAutomatic⟩ := custody.queued k (fewer.subset inQueue)
      refine ⟨b, ?_, isQueued, isAutomatic⟩
      rw [heap.core, if_neg, found]
      intro dropped
      cases slot with
      | false => cases dropped
      | true =>
        obtain ⟨b', there, _, isManual⟩ := custody.staged k (by simpa using dropped)
        obtain rfl := Option.some.inj (found.symm.trans there)
        simp [isAutomatic] at isManual
  · intro k inSlot
    cases slot with
    | true =>
      rw [manualPending] at inSlot
      cases inSlot
    | false =>
      have inSlot : s.manualPending = some k := manualPending.symm.trans inSlot
      obtain ⟨b, found, isQueued, isManual⟩ := custody.staged k inSlot
      refine ⟨b, ?_, isQueued, isManual⟩
      rw [heap.core, if_neg, found]
      intro dropped
      cases queue with
      | false => cases dropped
      | true =>
        obtain ⟨b', there, _, isAutomatic⟩ := custody.queued k (by simpa using dropped)
        obtain rfl := Option.some.inj (found.symm.trans there)
        simp [isAutomatic] at isManual
  · rw [portCalls, quiet.pending]
    refine List.Pairwise.imp ?_ (custody.order.sublist ((List.Sublist.refl _).append fewer))
    intro a b before
    rw [Heap.Before, heap.automatic, heap.automatic]
    exact before

theorem push_old (envelope : CommandEnvelope α) {heap : Heap α} (known : k < heap.tickets.length) :
    (heap.push { envelope := envelope }).core k = heap.core k := by
  rw [push_core, if_neg (Nat.ne_of_lt known)]

theorem push_new (envelope : CommandEnvelope α) (heap : Heap α) :
    (heap.push { envelope := envelope }).core heap.tickets.length = some { envelope := envelope } := by
  rw [push_core, if_pos rfl]

theorem Heap.Before.of_known {a b : TicketId} (before : heap.Before a b)
    (first : after.core a = heap.core a) (second : after.core b = heap.core b) : after.Before a b := by
  rw [Heap.Before, automatic, automatic, first, second]
  exact before

theorem accepted_core (envelope : CommandEnvelope α)
    (heap : t.heap = s.heap.push { envelope := envelope }) (found : s.heap.core k = some b) :
    t.heap.core k = some b := by
  rw [heap, push_old envelope (core_lt found), found]

theorem CommandSource.automatic_iff (source : CommandSource) : source.automatic = true ↔ source ≠ .manual := by
  cases source <;> simp [CommandSource.automatic]

theorem custody_queued (custody : Custody cfg s) (quiet : Worker.Quiet s.worker t.worker)
    (portCalls : t.portCalls = s.portCalls) (envelope : CommandEnvelope α)
    (isAutomatic : envelope.source ≠ .manual)
    (room : s.modelQueue.length < cfg.modelQueueCapacity)
    (modelQueue : t.modelQueue = s.modelQueue ++ [s.heap.tickets.length])
    (manualPending : t.manualPending = s.manualPending)
    (heap : t.heap = s.heap.push { envelope := envelope }) : Custody cfg t := by
  have same {k : TicketId} {b : CommandTicket α} (found : s.heap.core k = some b) :
      t.heap.core k = some b := accepted_core envelope heap found
  obtain ⟨held, ported, once⟩ := custody.begun quiet portCalls fun _ _ found _ => same found
  refine ⟨?_, ?_, held, ported, once, ?_, quiet.sound custody.sound, ?_⟩
  · intro k inQueue
    rw [modelQueue] at inQueue
    rcases List.mem_append.mp inQueue with old | new
    · obtain ⟨b, found, rest⟩ := custody.queued k old
      exact ⟨b, same found, rest⟩
    · obtain rfl := List.mem_singleton.mp new
      refine ⟨{ envelope := envelope }, by rw [heap, push_new], rfl, ?_⟩
      exact (CommandSource.automatic_iff _).mpr isAutomatic
  · intro k inSlot
    obtain ⟨b, found, rest⟩ := custody.staged k (manualPending.symm.trans inSlot)
    exact ⟨b, same found, rest⟩
  · rw [portCalls, quiet.pending, modelQueue, ← append_assoc]
    have old {k : TicketId} (inFlight : k ∈ s.portCalls ++ s.worker.pending ++ s.modelQueue) :
        t.heap.core k = s.heap.core k := by
      rw [heap, push_old envelope (custody.known inFlight)]
    refine List.pairwise_append.mpr ⟨?_, pairwise_singleton _ _, ?_⟩
    · exact List.Pairwise.imp_of_mem (fun first second before =>
        before.of_known (old first) (old second)) custody.order
    · intro a inFlight b new _ _
      obtain rfl := List.mem_singleton.mp new
      exact custody.known inFlight
  · rw [modelQueue, length_append]
    exact room

theorem custody_staged (custody : Custody cfg s) (quiet : Worker.Quiet s.worker t.worker)
    (portCalls : t.portCalls = s.portCalls)
    (envelope : CommandEnvelope α) (isManual : envelope.source = .manual)
    (modelQueue : t.modelQueue = s.modelQueue)
    (manualPending : t.manualPending = some s.heap.tickets.length)
    (heap : t.heap = s.heap.push { envelope := envelope }) : Custody cfg t := by
  have same {k : TicketId} {b : CommandTicket α} (found : s.heap.core k = some b) :
      t.heap.core k = some b := accepted_core envelope heap found
  obtain ⟨held, ported, once⟩ := custody.begun quiet portCalls fun _ _ found _ => same found
  refine ⟨?_, ?_, held, ported, once, ?_, quiet.sound custody.sound, by rw [modelQueue]; exact custody.room⟩
  · intro k inQueue
    obtain ⟨b, found, rest⟩ := custody.queued k (modelQueue ▸ inQueue)
    exact ⟨b, same found, rest⟩
  · intro k inSlot
    obtain rfl := Option.some.inj (manualPending.symm.trans inSlot)
    refine ⟨{ envelope := envelope }, by rw [heap, push_new], rfl, ?_⟩
    simp [isManual, CommandSource.automatic]
  · rw [portCalls, quiet.pending, modelQueue]
    have old {k : TicketId} (inFlight : k ∈ s.portCalls ++ s.worker.pending ++ s.modelQueue) :
        t.heap.core k = s.heap.core k := by
      rw [heap, push_old envelope (custody.known inFlight)]
    exact List.Pairwise.imp_of_mem (fun first second before =>
      before.of_known (old first) (old second)) custody.order

theorem custody_pending (custody : Custody cfg s) (quiet : Worker.Quiet s.worker t.worker)
    (portCalls : t.portCalls = s.portCalls) (pending : PendingStep cfg s t) : Custody cfg t := by
  cases pending with
  | dropped queue slot modelQueue manualPending heap =>
    exact custody_dropped custody quiet portCalls queue slot modelQueue manualPending heap
  | queued envelope isAutomatic room modelQueue manualPending heap =>
    exact custody_queued custody quiet portCalls envelope isAutomatic room modelQueue manualPending heap
  | staged envelope isManual modelQueue manualPending heap =>
    -- the slot is emptied first, then filled
    have emptied : Custody cfg { s with
        manualPending := none
        heap := s.heap.finishAll s.manualPending.toList .replaced } :=
      custody_dropped custody (.refl _) rfl false true rfl rfl (clears_finishAll _)
    refine custody_staged emptied quiet portCalls envelope isManual modelQueue ?_ heap
    simpa using manualPending

/-! ## The worker's moves -/

theorem automatic_of_core (envelope : ∀ b, (f b).envelope = b.envelope)
    (core : ∀ j, after.core j = if k = j then (heap.core j).map f else heap.core j) (j : TicketId) :
    after.automatic j = heap.automatic j := by
  rw [automatic, automatic, core]
  split
  · cases heap.core j <;> simp [envelope]
  · rfl

theorem before_of_automatic (automatic : ∀ j, after.automatic j = heap.automatic j) {a b : TicketId} :
    heap.Before a b → after.Before a b := by
  rw [Heap.Before, Heap.Before, automatic, automatic]
  exact id

theorem custody_execute (custody : Custody cfg s) (station : s.worker = .dispatching k) :
    Custody cfg { s with worker := .executing k, portCalls := s.portCalls ++ [k] } := by
  obtain ⟨queued, staged, held, ported, once, order, sound, room⟩ := custody
  rw [station] at held once order
  have running : ∃ b, s.heap.core k = some b ∧ b.status = .running := by
    obtain ⟨b, found, ⟨running, _⟩ | ⟨elsewhere, _⟩⟩ := held k rfl
    · exact ⟨b, found, running⟩
    · cases elsewhere
  refine ⟨queued, staged, ?_, ?_, ?_, ?_, trivial, room⟩
  · intro j inHand
    cases inHand
    obtain ⟨b, found, running⟩ := running
    exact ⟨b, found, .inl ⟨running, fun elsewhere => by cases elsewhere⟩⟩
  · intro j handed
    rcases List.mem_append.mp handed with old | new
    · exact ported j old
    · obtain rfl := List.mem_singleton.mp new
      obtain ⟨b, found, running⟩ := running
      exact ⟨b, found, .of_running running⟩
  · simpa [Worker.pending] using once
  · simpa [Worker.pending] using order

theorem custody_finish {settlement : Settlement} (custody : Custody cfg s)
    (station : s.worker = .finishing k settlement) : Custody cfg { s with
      heap := s.heap.finish k settlement.status settlement.error settlement.result
      worker := .releasing k } := by
  obtain ⟨queued, staged, held, ported, once, order, sound, room⟩ := custody
  rw [station] at held once order sound
  obtain ⟨b, found, running⟩ : ∃ b, s.heap.core k = some b ∧ b.status = .running := by
    obtain ⟨b, found, ⟨running, _⟩ | ⟨elsewhere, _⟩⟩ := held k rfl
    · exact ⟨b, found, running⟩
    · cases elsewhere
  have other {j : TicketId} {b' : CommandTicket α} (there : s.heap.core j = some b')
      (isQueued : b'.status = .queued) :
      (s.heap.finish k settlement.status settlement.error settlement.result).core j = some b' := by
    rw [finish_core, if_neg, there]
    rintro rfl
    obtain rfl := Option.some.inj (found.symm.trans there)
    cases running.symm.trans isQueued
  have ended : (s.heap.finish k settlement.status settlement.error settlement.result).core k =
      some (b.finish settlement.status settlement.error settlement.result) := by
    rw [finish_core, if_pos rfl, found]
    rfl
  refine ⟨?_, ?_, ?_, ?_, once, ?_, trivial, room⟩
  · intro j inQueue
    obtain ⟨b', there, isQueued, isAutomatic⟩ := queued j inQueue
    exact ⟨b', other there isQueued, isQueued, isAutomatic⟩
  · intro j inSlot
    obtain ⟨b', there, isQueued, isManual⟩ := staged j inSlot
    exact ⟨b', other there isQueued, isQueued, isManual⟩
  · intro j inHand
    cases inHand
    exact ⟨_, ended, .inr ⟨rfl, finish_terminal _ _ _ b⟩⟩
  · intro j handed
    by_cases self : k = j
    · subst self
      refine ⟨_, ended, ?_⟩
      obtain ⟨uncleared, unreplaced, expired⟩ := sound
      have ends : b.finish settlement.status settlement.error settlement.result =
          { b with status := settlement.status, error := settlement.error, result := settlement.result } := by
        simp [CommandTicket.finish, running, CommandStatus.terminal]
      rw [ends]
      refine ⟨fun isQueued => ?_, uncleared, unreplaced, expired⟩
      have terminal := settlement.status.2
      have isQueued : settlement.status.1 = .queued := isQueued
      simp [isQueued, CommandStatus.terminal] at terminal
    · obtain ⟨b', there, isPorted⟩ := ported j handed
      exact ⟨b', by rw [finish_core, if_neg self, there], isPorted⟩
  · refine List.Pairwise.imp ?_ order
    intro first second
    exact before_of_automatic (automatic_of_core (fun b => b.finish_envelope _ _ _) fun j => finish_core _ k j _ _ _)

/-- What is left in the queue and the slot is not the ticket taken, and the ticket taken goes before
it. -/
theorem taken_left (custody : Custody cfg s) (popped : Popped s drained k) :
    drained.modelQueue.Sublist s.modelQueue ∧ (∀ j ∈ drained.modelQueue, k ≠ j) ∧
      (∀ j, drained.manualPending = some j → s.manualPending = some j ∧ k ≠ j) ∧
      (s.portCalls ++ [k] ++ drained.modelQueue).Pairwise s.heap.Before := by
  have order := custody.order
  rw [popped.idle] at order
  simp only [Worker.pending, append_nil] at order
  rcases popped.source with ⟨rest, _, queue, rfl⟩ | ⟨_, _, pending, rfl⟩
  · rw [queue] at order ⊢
    have queued := custody.queued
    rw [queue] at queued
    have isAutomatic : s.heap.automatic k = true := by
      obtain ⟨b, there, _, isAutomatic⟩ := queued k mem_cons_self
      simp [automatic, there, isAutomatic]
    refine ⟨sublist_cons_self k rest, fun j inRest => ?_, fun j inSlot => ⟨inSlot, ?_⟩, ?_⟩
    · obtain ⟨b, there, _, automatic⟩ := queued j (mem_cons_of_mem k inRest)
      have head := rel_of_pairwise_cons (List.pairwise_append.mp order).2.1 inRest
      exact Nat.ne_of_lt (head isAutomatic (by simp [Heap.automatic, there, automatic]))
    · rintro rfl
      obtain ⟨b, there, _, isManual⟩ := custody.staged k inSlot
      simp [automatic, there, isManual] at isAutomatic
    · simpa using order
  · have isManual : s.heap.automatic k = false := by
      obtain ⟨b, there, _, isManual⟩ := custody.staged k pending
      simp [automatic, there, isManual]
    have unordered (a : TicketId) : s.heap.Before a k ∧ s.heap.Before k a := by
      simp [Heap.Before, isManual]
    refine ⟨.refl _, fun j inQueue => ?_, fun j inSlot => ?_, ?_⟩
    · rintro rfl
      obtain ⟨b, there, _, isAutomatic⟩ := custody.queued k inQueue
      simp [automatic, there, isAutomatic] at isManual
    · cases inSlot
    · rw [append_assoc, singleton_append]
      obtain ⟨handed, pendingOrder, across⟩ := List.pairwise_append.mp order
      refine List.pairwise_append.mpr ⟨handed, List.pairwise_cons.mpr
        ⟨fun a _ => (unordered a).2, pendingOrder⟩, fun a inHanded c inLater => ?_⟩
      rcases List.mem_cons.mp inLater with rfl | inQueue
      · exact (unordered a).1
      · exact across a inHanded c inQueue

theorem custody_taken (custody : Custody cfg s) (popped : Popped s drained k)
    (found : s.heap.core k = some b) (isQueued : b.status = .queued)
    (envelope : ∀ b, (f b).envelope = b.envelope) (modelQueue : t.modelQueue = drained.modelQueue)
    (manualPending : t.manualPending = drained.manualPending) (portCalls : t.portCalls = s.portCalls)
    (heap : ∀ j, t.heap.core j = if k = j then (s.heap.core j).map f else s.heap.core j)
    (hands : (t.worker = .dispatching k ∧ (f b).status = .running) ∨
      ∃ status, t.worker = .early k status) : Custody cfg t := by
  obtain ⟨fewer, leftQueue, leftSlot, ordered⟩ := taken_left custody popped
  rw [← modelQueue] at fewer leftQueue ordered
  rw [← manualPending] at leftSlot
  have other {j : TicketId} (distinct : k ≠ j) : t.heap.core j = s.heap.core j := by
    rw [heap, if_neg distinct]
  have unhanded : k ∉ s.portCalls := by
    intro handed
    obtain ⟨b', there, begun, _⟩ := custody.ported k handed
    obtain rfl := Option.some.inj (found.symm.trans there)
    exact begun isQueued
  have once : s.portCalls.Nodup := (List.nodup_append.mp custody.once).1
  refine ⟨?_, ?_, ?_, ?_, ?_, ?_, ?_, fewer.length_le.trans custody.room⟩
  · intro j inQueue
    obtain ⟨b', there, rest⟩ := custody.queued j (fewer.subset inQueue)
    exact ⟨b', (other (leftQueue j inQueue)).trans there, rest⟩
  · intro j inSlot
    obtain ⟨before, distinct⟩ := leftSlot j inSlot
    obtain ⟨b', there, rest⟩ := custody.staged j before
    exact ⟨b', (other distinct).trans there, rest⟩
  · intro j inHand
    rcases hands with ⟨station, running⟩ | ⟨status, station⟩ <;> rw [station] at inHand <;> cases inHand
    refine ⟨f b, by rw [heap, if_pos rfl, found]; rfl, .inl ⟨running, ?_⟩⟩
    simp [station]
  · intro j handed
    rw [portCalls] at handed
    obtain ⟨b', there, isPorted⟩ := custody.ported j handed
    exact ⟨b', (other fun same => unhanded (same ▸ handed)).trans there, isPorted⟩
  · rw [portCalls]
    rcases hands with ⟨station, _⟩ | ⟨status, station⟩ <;> rw [station]
    · simp only [Worker.pending]
      refine List.nodup_append.mpr ⟨once, by simp, fun a handed c isK same => ?_⟩
      obtain rfl := List.mem_singleton.mp isK
      exact unhanded (same ▸ handed)
    · simpa [Worker.pending] using once
  · rw [portCalls]
    refine List.Pairwise.imp (before_of_automatic (automatic_of_core envelope heap)) ?_
    rcases hands with ⟨station, _⟩ | ⟨status, station⟩ <;> rw [station]
    · exact ordered
    · refine ordered.sublist ?_
      simp [Worker.pending]
  · rcases hands with ⟨station, _⟩ | ⟨status, station⟩ <;> rw [station] <;> trivial

theorem Control.Step.shut_idle {k k'} {act} (moved : Control.Step k act k')
    (idle : k.closed = true → k.modelQueue = [] ∧ k.manualPending = none) :
    k'.closed = true → k'.modelQueue = [] ∧ k'.manualPending = none := by
  intro closed
  cases moved with
  | enqueue t isModel isOpen | stage t clock isManual armed isOpen => cases isOpen.symm.trans closed
  | takeover | clear | latch | shut => exact ⟨rfl, rfl⟩
  | disarm | drainManual => exact ⟨(idle closed).1, rfl⟩
  | clearQueue => exact ⟨rfl, (idle closed).2⟩
  | drainModel t rest isModel head => cases head.symm.trans (idle closed).1
  | _ => exact idle closed

theorem closed_idle (reached : Reachable (step cfg) init s) :
    s.closed = true → s.modelQueue = [] ∧ s.manualPending = none := by
  refine reachable_induction (I := fun s => s.closed = true → s.modelQueue = [] ∧ s.manualPending = none)
    (fun s l t idle next => ?_) reached (fun closed => by cases closed)
  obtain ⟨act, moved, _⟩ := control_step next
  exact moved.shut_idle idle

/-- What the section at the head of `_run` leaves of a ticket it takes. -/
inductive Taken (cfg : Config) (s t : State α) : Prop
  | ended (modelQueue : t.modelQueue = s.modelQueue) (manualPending : t.manualPending = s.manualPending)
      (heap : t.heap = s.heap) (worker : t.worker = .ended)
  | took (k : TicketId) (drained : State α) (b : CommandTicket α)
      (f : CommandTicket α → CommandTicket α) (popped : Popped s drained k)
      (found : s.heap.core k = some b) (isQueued : b.status = .queued)
      (envelope : ∀ b, (f b).envelope = b.envelope)
      (modelQueue : t.modelQueue = drained.modelQueue)
      (manualPending : t.manualPending = drained.manualPending)
      (heap : ∀ j, t.heap.core j = if k = j then (s.heap.core j).map f else s.heap.core j)
      (hands : (t.worker = .dispatching k ∧ (f b).status = .running) ∨
        ∃ status, t.worker = .early k status ∧ (f b).status.terminal = true)

theorem popped_queued (custody : Custody cfg s) (popped : Popped s drained k) :
    ∃ b, s.heap.core k = some b ∧ b.status = .queued := by
  rcases popped.source with ⟨rest, _, queue, _⟩ | ⟨_, _, pending, _⟩
  · obtain ⟨b, found, isQueued, _⟩ := custody.queued k (by rw [queue]; exact mem_cons_self)
    exact ⟨b, found, isQueued⟩
  · obtain ⟨b, found, isQueued, _⟩ := custody.staged k pending
    exact ⟨b, found, isQueued⟩

theorem take_taken {clock} (custody : Custody cfg s)
    (idle : s.closed = true → s.modelQueue = [] ∧ s.manualPending = none)
    (next : step cfg s (.take clock) = some t) :
    s.worker = .looping ∧ t.portCalls = s.portCalls ∧ Taken cfg s t := by
  refine ⟨(take_cases next).1, ?_⟩
  obtain ⟨closed, rfl⟩ | ⟨k, drained, popped, rfl⟩ := taken_cases next
  · obtain ⟨queue, slot⟩ := idle closed
    have nothing : s.nextTicket = (none, s) := by
      rcases nextTicket_cases s with nothing | ⟨_, _, _, _, pending, _⟩ | ⟨_, _, _, _, pending, _⟩
      · exact nothing
      · cases queue.symm.trans pending
      · cases slot.symm.trans pending
    rw [nothing]
    exact ⟨rfl, .ended rfl rfl rfl rfl⟩
  obtain ⟨b, found, isQueued⟩ := popped_queued custody popped
  have portCalls : drained.portCalls = s.portCalls := by
    rcases popped.source with ⟨_, _, _, rfl⟩ | ⟨_, _, _, rfl⟩ <;> rfl
  rcases dispatch_cases clock k drained with ⟨missing, _⟩ | ⟨b', there, begun, _⟩ | ⟨b', there, _, ends⟩
  · rw [popped.heap] at missing
    simp [Heap.core, missing] at found
  · rw [popped.heap] at there
    simp only [Heap.core, there, Option.map_some, Option.some.injEq] at found
    subst found
    exact absurd isQueued begun
  · generalize drained.dispatch clock k = after at ends
    have marked (j : TicketId) : (drained.heap.update k fun ticket => ticket.markRunning.2).core j =
          if k = j then (s.heap.core j).map (fun ticket => ticket.markRunning.2)
          else s.heap.core j := by
      rw [markRunning_core, popped.heap]
    have finished (status : TerminalStatus) (j : TicketId) :
        ((drained.heap.update k fun ticket => ticket.markRunning.2).finish k status none none).core j =
          if k = j then (s.heap.core j).map (fun ticket => ticket.markRunning.2.finish status none none)
          else s.heap.core j := by
      rw [finish_core, marked]
      split
      · rw [Option.map_map]
        rfl
      · rfl
    cases ends with
    | withdrawn =>
      refine ⟨portCalls, .took k drained b _ popped found isQueued ?_ rfl rfl (finished .cancelled)
        (.inr ⟨.cancelled, rfl, finish_terminal _ _ _ _⟩)⟩
      intro b
      rw [finish_envelope, markRunning_envelope]
    | expired =>
      refine ⟨portCalls, .took k drained b _ popped found isQueued ?_ rfl rfl (finished .expired)
        (.inr ⟨.expired, rfl, finish_terminal _ _ _ _⟩)⟩
      intro b
      rw [finish_envelope, markRunning_envelope]
    | begun =>
      refine ⟨portCalls, .took k drained b _ popped found isQueued
        markRunning_envelope rfl rfl marked (.inl ⟨rfl, ?_⟩)⟩
      simp [markRunning, isQueued]

theorem custody_release {worker} (custody : Custody cfg s) (station : s.worker.pending = [])
    (empty : worker.ticket? = none ∧ worker.pending = []) (sound : worker.Sound) :
    Custody cfg (s.release k worker) := by
  obtain ⟨queued, staged, _, ported, once, order, _, room⟩ := custody
  rw [station] at once order
  refine ⟨queued, staged, fun j inHand => ?_, ported, ?_, ?_, sound, room⟩
  · cases empty.1.symm.trans inHand
  · simpa [release, empty.2] using once
  · simpa [release, empty.2] using order

theorem custody_step (custody : Custody cfg s) (idle : s.closed = true → s.modelQueue = [] ∧ s.manualPending = none)
    (next : step cfg s l = some t) : Custody cfg t := by
  by_cases quiet : l.handles = false
  · obtain ⟨worker, portCalls⟩ := worker_quiet quiet next
    have keeps : l.keepsWork = true := by
      cases l <;> first | rfl | cases quiet
    exact custody_pending custody worker portCalls (pending_step keeps next)
  cases l with simp only [step] at next
  | take =>
    obtain ⟨looping, portCalls, taken⟩ := take_taken custody idle next
    cases taken with
    | ended modelQueue manualPending heap worker =>
      refine custody_pending custody ?_ portCalls (.same modelQueue manualPending heap)
      rw [looping, worker]
      exact ⟨rfl, rfl, fun _ => by simp, fun _ => trivial⟩
    | took k drained b f popped found isQueued envelope modelQueue manualPending heap hands =>
      exact custody_taken custody popped found isQueued envelope modelQueue manualPending
        portCalls heap (hands.imp_right fun taken => by
          obtain ⟨status, worker, _⟩ := taken
          exact ⟨status, worker⟩)
  | execute =>
    split at next <;> cases next
    exact custody_execute custody ‹_›
  | finish =>
    split at next <;> cases next
    exact custody_finish custody ‹_›
  | release =>
    split at next <;> first
      | cases next; done
      | (rename_i station
         cases next
         exact custody_release custody (by rw [station]; rfl) ⟨rfl, rfl⟩ trivial)
  | _ => exact absurd rfl quiet

theorem custody_reachable (reached : Reachable (step cfg) init s) : Custody cfg s := by
  have both : Custody cfg s ∧ (s.closed = true → s.modelQueue = [] ∧ s.manualPending = none) := by
    refine reachable_induction
      (I := fun s => Custody cfg s ∧ (s.closed = true → s.modelQueue = [] ∧ s.manualPending = none))
      (fun s l t inv next => ⟨custody_step inv.1 inv.2 next, ?_⟩) reached
      ⟨Custody.init, fun closed => by cases closed⟩
    obtain ⟨act, moved, _⟩ := control_step next
    exact moved.shut_idle inv.2
  exact both.1

end EmbodiRun.Arbiter
