/-
# Arbiter.Pending -- what a move does to the pending tickets

Leaving cancellation aside (`CommandTicket.core`), a move of any thread but the worker
does one of three things to the queue, the slot and the tickets (`PendingStep`): it ends
the tickets it drops, as CLEARED; it queues a new automatic ticket; or it stages a new
manual one and ends the one it replaces.
-/
import EmbodiRun.Arbiter.Dispatch

namespace EmbodiRun.Arbiter

open Io Option State

variable {α : Type}

/-! ## Tickets without their cancellation -/

namespace CommandTicket

open CommandTicket

def core (ticket : CommandTicket α) : CommandTicket α := { ticket with cancelEvent := false }

@[simp] theorem core_core (ticket : CommandTicket α) : ticket.core.core = ticket.core := rfl

@[simp] theorem core_cancel (ticket : CommandTicket α) : ticket.cancel.core = ticket.core := rfl

@[simp] theorem core_finish (status : TerminalStatus) (error : Option Failure)
    (result : Option IOResult) (ticket : CommandTicket α) :
    (ticket.finish status error result).core = ticket.core.finish status error result := by
  unfold finish core
  dsimp only
  split <;> rfl

@[simp] theorem core_markRunning (ticket : CommandTicket α) :
    ticket.markRunning.2.core = ticket.core.markRunning.2 := by
  unfold markRunning core
  dsimp only
  split <;> rfl

@[simp] theorem finish_envelope (status : TerminalStatus) (error : Option Failure)
    (result : Option IOResult) (ticket : CommandTicket α) :
    (ticket.finish status error result).envelope = ticket.envelope := by
  unfold finish
  split <;> rfl

@[simp] theorem markRunning_envelope (ticket : CommandTicket α) :
    ticket.markRunning.2.envelope = ticket.envelope := by
  unfold markRunning
  split <;> rfl

theorem finish_terminal (status : TerminalStatus) (error : Option Failure)
    (result : Option IOResult) (ticket : CommandTicket α) :
    (ticket.finish status error result).status.terminal = true := by
  unfold finish
  split
  · assumption
  · exact status.2

end CommandTicket

namespace Heap

open Heap

/-- The ticket `k`, up to its cancel event. -/
def core (heap : Heap α) (k : TicketId) : Option (CommandTicket α) :=
  heap.tickets[k]?.map CommandTicket.core

theorem core_lt {heap : Heap α} {k : TicketId} {b : CommandTicket α} (found : heap.core k = some b) :
    k < heap.tickets.length := by
  obtain ⟨ticket, there, _⟩ := Option.map_eq_some_iff.mp found
  exact ticket_lt there

variable (heap : Heap α)

@[simp] theorem setEvent_core (token : Option Token) (k : TicketId) :
    (heap.setEvent token).core k = heap.core k := by
  simp [core]

@[simp] theorem newEvent_core (k : TicketId) : heap.newEvent.core k = heap.core k := rfl

@[simp] theorem cancelIf_core (hit : CommandSource → Bool) (o : Option TicketId) (k : TicketId) :
    (heap.cancelIf hit o).core k = heap.core k := by
  simp only [core, cancelIf_ticket, map_map]
  congr 1
  funext ticket
  simp only [Function.comp_apply]
  split <;> rfl

@[simp] theorem finishAll_core (ts : List TicketId) (status : TerminalStatus) (k : TicketId) :
    (heap.finishAll ts status).core k = if k ∈ ts then (heap.core k).map (CommandTicket.finish status none none)
      else heap.core k := by
  simp only [core, finishAll_ticket]
  split
  · simp only [map_map]
    congr 1
    funext ticket
    exact ticket.core_finish status none none
  · rfl

@[simp] theorem finish_core (t k : TicketId) (status : TerminalStatus) (error : Option Failure)
    (result : Option IOResult) :
    (heap.finish t status error result).core k =
      if t = k then (heap.core k).map (CommandTicket.finish status error result)
      else heap.core k := by
  simp only [core, finish_ticket]
  split
  · simp only [map_map]
    congr 1
    funext ticket
    exact ticket.core_finish status error result
  · rfl

@[simp] theorem markRunning_core (t k : TicketId) : (heap.update t fun ticket => ticket.markRunning.2).core k =
      if t = k then (heap.core k).map (fun ticket => ticket.markRunning.2) else heap.core k := by
  simp only [core, update_ticket]
  split
  · simp only [map_map]
    congr 1
    funext ticket
    exact ticket.core_markRunning
  · rfl

theorem push_core (envelope : CommandEnvelope α) (k : TicketId) : (heap.push { envelope := envelope }).core k =
      if k = heap.tickets.length then some { envelope := envelope } else heap.core k := by
  simp only [core, push_ticket]
  split <;> rfl

/-- `after` is `heap` with the tickets of `gone` ended, cancellations and events aside. -/
structure Clears (gone : List TicketId) (status : TerminalStatus) (heap after : Heap α) : Prop where
  length : after.tickets.length = heap.tickets.length
  core : ∀ k, after.core k =
    if k ∈ gone then (heap.core k).map (CommandTicket.finish status none none) else heap.core k

variable {heap} {middle after : Heap α} {gone more : List TicketId} {status : TerminalStatus}

theorem Clears.refl : Clears [] status heap heap := ⟨rfl, fun _ => rfl⟩

theorem Clears.trans (first : Clears gone status heap middle)
    (second : Clears more status middle after) : Clears (gone ++ more) status heap after where
  length := second.length.trans first.length
  core k := by
    have again : CommandTicket.finish (α := α) status none none ∘
        CommandTicket.finish status none none = CommandTicket.finish status none none :=
      funext fun ticket => ticket.finish_finish status none none
    rw [second.core, first.core]
    by_cases inside : k ∈ gone <;> by_cases inMore : k ∈ more <;> simp [inside, inMore, again]

theorem clears_setEvent (token : Option Token) : Clears [] status heap (heap.setEvent token) :=
  ⟨by simp, fun k => by simp⟩

theorem clears_cancelIf (hit : CommandSource → Bool) (o : Option TicketId) :
    Clears [] status heap (heap.cancelIf hit o) :=
  ⟨by simp, fun k => by simp⟩

theorem clears_newEvent : Clears [] status heap heap.newEvent := ⟨rfl, fun _ => rfl⟩

theorem clears_finishAll (ts : List TicketId) : Clears ts status heap (heap.finishAll ts status) :=
  ⟨by simp, fun k => by simp⟩

end Heap

/-! ## Pending tickets -/

variable {cfg : Config} {s t : State α} {l : Label α}

inductive PendingStep (cfg : Config) (s t : State α) : Prop
  | dropped (queue slot : Bool)
      (modelQueue : t.modelQueue = if queue then [] else s.modelQueue)
      (manualPending : t.manualPending = if slot then none else s.manualPending)
      (heap : Heap.Clears ((if queue then s.modelQueue else []) ++
        (if slot then s.manualPending.toList else [])) .cleared s.heap t.heap)
  | queued (envelope : CommandEnvelope α) (isAutomatic : envelope.source ≠ .manual)
      (room : s.modelQueue.length < cfg.modelQueueCapacity)
      (modelQueue : t.modelQueue = s.modelQueue ++ [s.heap.tickets.length])
      (manualPending : t.manualPending = s.manualPending)
      (heap : t.heap = s.heap.push { envelope := envelope })
  | staged (envelope : CommandEnvelope α) (isManual : envelope.source = .manual)
      (modelQueue : t.modelQueue = s.modelQueue)
      (manualPending : t.manualPending = some s.heap.tickets.length)
      (heap : t.heap = (s.heap.finishAll s.manualPending.toList .replaced).push { envelope := envelope })

theorem PendingStep.same (modelQueue : t.modelQueue = s.modelQueue)
    (manualPending : t.manualPending = s.manualPending) (heap : t.heap = s.heap) :
    PendingStep cfg s t :=
  .dropped false false modelQueue manualPending (by rw [heap]; exact .refl)

theorem cancelActive_clears (source : Option CommandSource) (status : TerminalStatus)
    (s : State α) : Heap.Clears [] status s.heap (s.cancelActive source).heap := by
  unfold cancelActive
  dsimp only
  split
  · exact (Heap.clears_setEvent _).trans (Heap.clears_cancelIf _ _)
  · exact Heap.clears_cancelIf _ _

theorem quiesce_clears (s : State α) :
    Heap.Clears (s.modelQueue ++ s.manualPending.toList) .cleared s.heap s.quiesce.heap := by
  exact (cancelActive_clears none .cleared s).trans
    ((Heap.clears_finishAll s.modelQueue).trans (Heap.clears_finishAll s.manualPending.toList))
variable {u : State α} {c : CallId}

theorem quiesce_pending (same : u.modelQueue = s.modelQueue)
    (slot : u.manualPending = s.manualPending) (heap : u.heap = s.heap)
    (modelQueue : t.modelQueue = []) (manualPending : t.manualPending = none)
    (quiesced : t.heap = u.quiesce.heap) : PendingStep cfg s t := by
  refine .dropped true true modelQueue manualPending ?_
  rw [quiesced, ← heap, ← same, ← slot]
  exact quiesce_clears u

theorem release_pending (slot : u.manualPending = s.manualPending) (heap : u.heap = s.heap)
    (modelQueue : t.modelQueue = s.modelQueue) (manualPending : t.manualPending = none)
    (cleared : t.heap = ((u.cancelActive (some .manual)).clearManual .cleared).heap) :
    PendingStep cfg s t := by
  refine .dropped false true modelQueue manualPending ?_
  rw [cleared, ← heap, ← slot]
  exact (cancelActive_clears (some .manual) .cleared u).trans (Heap.clears_finishAll u.manualPending.toList)

theorem queue_pending (modelQueue : t.modelQueue = []) (manualPending : t.manualPending = s.manualPending)
    (heap : Heap.Clears s.modelQueue .cleared s.heap t.heap) : PendingStep cfg s t :=
  .dropped true false modelQueue manualPending (by simpa using heap)

theorem requireOpen_pending {body} (inside : PendingStep cfg s (body s)) :
    PendingStep cfg s (s.requireOpen c body) := by
  unfold requireOpen
  split
  · exact .same rfl rfl rfl
  · exact inside

theorem submit_pending (c : CallId) (args : Submission α) (clock : ℚ) :
    PendingStep cfg s (s.submit cfg c args clock) := by
  rcases submit_cases cfg c args clock s with ⟨failure, refused⟩ | ⟨envelope, _, _, accepted⟩
  · rw [refused]
    exact .same rfl rfl rfl
  · generalize s.submit cfg c args clock = after at accepted
    cases accepted with
    | staged isManual => exact .staged envelope isManual rfl rfl rfl
    | queued isAutomatic granted room => exact .queued envelope isAutomatic room rfl rfl rfl

theorem start_pending (c : CallId) (op : Operation α) : PendingStep cfg s (s.start cfg c op) := by
  cases op with
  | beginAutomaticTask =>
    simp only [start, beginAutomaticTask]
    split <;> exact .same rfl rfl rfl
  | finishAutomaticWork =>
    simp only [start, finishAutomaticWork]
    refine requireOpen_pending ?_
    split
    · exact .same rfl rfl rfl
    split
    · exact .same rfl rfl rfl
    · exact queue_pending rfl rfl ((Heap.clears_cancelIf _ _).trans (Heap.clears_finishAll s.modelQueue))
  | submit args clock => exact submit_pending c args clock
  | acquireManual =>
    simp only [start, acquireManual]
    refine requireOpen_pending ?_
    split
    · exact .same rfl rfl rfl
    · split <;> exact quiesce_pending rfl rfl rfl rfl rfl rfl
  | releaseManual =>
    simp only [start, releaseManual]
    refine requireOpen_pending ?_
    split
    · exact .same rfl rfl rfl
    · exact release_pending rfl rfl rfl rfl rfl
  | setDeadman active =>
    simp only [start, setDeadman]
    refine requireOpen_pending ?_
    split
    · exact .same rfl rfl rfl
    · cases active with
      | true => exact .same rfl rfl rfl
      | false => exact release_pending rfl rfl rfl rfl rfl
  | hold =>
    simp only [start, hold]
    refine requireOpen_pending ?_
    exact quiesce_pending rfl rfl rfl rfl rfl rfl
  | cancelAutomaticWork =>
    simp only [start, cancelAutomaticWork]
    refine requireOpen_pending ?_
    have cleared : Heap.Clears s.modelQueue .cleared s.heap
        ((s.heap.setEvent s.modelTaskCancel).finishAll s.modelQueue .cleared) :=
      (Heap.clears_setEvent _).trans (Heap.clears_finishAll _)
    have cancelled (hit : CommandSource → Bool) (o : Option TicketId) : Heap.Clears s.modelQueue .cleared s.heap
          (((s.heap.setEvent s.modelTaskCancel).finishAll s.modelQueue .cleared).cancelIf hit o) := by
      simpa using cleared.trans (Heap.clears_cancelIf hit o)
    split
    · exact .same rfl rfl rfl
    split <;> split
    · exact queue_pending rfl rfl (cancelled _ _)
    · exact queue_pending rfl rfl (cancelled _ _)
    · exact queue_pending rfl rfl cleared
    · exact queue_pending rfl rfl cleared
  | emergencyStop =>
    simp only [start, emergencyStop]
    refine requireOpen_pending ?_
    exact quiesce_pending rfl rfl rfl rfl rfl rfl
  | resetEmergencyStop =>
    simp only [start, resetEmergencyStop]
    refine requireOpen_pending ?_
    split <;> exact .same rfl rfl rfl
  | close =>
    simp only [start, close]
    split
    · exact .same rfl rfl rfl
    · exact quiesce_pending rfl rfl rfl rfl rfl rfl

theorem proceed_pending (next : s.proceed c = some t) : PendingStep cfg s t := by
  unfold proceed at next
  split at next
  · rename_i token _
    cases next
    refine requireOpen_pending ?_
    have cleared : Heap.Clears s.modelQueue .cleared s.heap
        (({ s with heap := s.heap.setEvent s.modelTaskCancel }.cancelActiveAutomatic
          ).clearModelQueue .cleared).heap :=
      (Heap.clears_setEvent _).trans ((Heap.clears_setEvent _).trans
        ((Heap.clears_cancelIf _ _).trans (Heap.clears_finishAll s.modelQueue)))
    split
    · exact .same rfl rfl rfl
    · cases token with
      | some => exact queue_pending rfl rfl cleared
      | none =>
        have created := cleared.trans Heap.clears_newEvent
        rw [List.append_nil] at created
        exact queue_pending rfl rfl created
  · split at next <;> cases next
    exact .same rfl rfl rfl
  · split at next <;> cases next
    unfold joinHold
    split <;> exact .same rfl rfl rfl
  · cases next
    exact quiesce_pending rfl rfl rfl rfl rfl rfl
  · cases next
    exact .same rfl rfl rfl
  · cases next
    unfold detachTask
    dsimp only
    split <;> exact .same rfl rfl rfl
  · cases next
    exact .same rfl rfl rfl
  · cases next
    exact .same rfl rfl rfl
  · cases next
    exact .same rfl rfl rfl
  · cases next
    exact .same rfl rfl rfl
  · cases next
    exact .same rfl rfl rfl
  · cases next
    refine requireOpen_pending ?_
    split <;> exact .same rfl rfl rfl
  · split at next <;> cases next
    exact .same rfl rfl rfl
  · cases next

def Label.keepsWork : Label α → Bool
  | .take _ | .finish => false
  | _ => true

/-- **Such a move drops, queues or stages.** -/
theorem pending_step (keeps : l.keepsWork = true) (next : step cfg s l = some t) : PendingStep cfg s t := by
  cases l with
  | newEvent =>
    cases next
    exact .dropped false false rfl rfl Heap.clears_newEvent
  | setEvent token =>
    cases next
    exact .dropped false false rfl rfl (Heap.clears_setEvent (some token))
  | start c op =>
    simp only [step] at next
    split at next <;> cases next
    exact start_pending c op
  | proceed => exact proceed_pending next
  | alarm c =>
    simp only [step] at next
    split at next
    · rename_i k settlement _
      split at next <;> cases next
      unfold emergencyStop requireOpen
      split
      · exact .same rfl rfl rfl
      · exact quiesce_pending rfl rfl rfl rfl rfl rfl
    · cases next
  | release =>
    simp only [step] at next
    split at next <;> first
      | cases next; done
      | (obtain rfl := Option.some.inj next; exact .same rfl rfl rfl)
  | watch =>
    obtain ⟨_, _, ⟨_, rfl⟩ | ⟨_, _, _, rfl⟩⟩ := watch_cases next
    · exact .same rfl rfl rfl
    · exact release_pending rfl rfl rfl rfl rfl
  | take | finish => cases keeps
  | _ =>
    have frame := book_frame rfl next
    exact .same frame.modelQueue frame.manualPending frame.heap

end EmbodiRun.Arbiter
