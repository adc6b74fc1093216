/-
# Arbiter.InPort -- commands inside the port, seen from the latch

A port may still be running a command after `port.execute` gave up waiting for it.  What
keeps such a command from a latched robot is its cancel event: the worker's own emergency
stop sets it before the worker lets the ticket go (`Guards`, `guards_step`), and a latch
sets it while the ticket is active (`guards_cancelled`).
-/
import EmbodiRun.Arbiter.Latch
import EmbodiRun.Arbiter.Custody

namespace EmbodiRun.Arbiter

open Io Transition

variable {α : Type} {cfg : Config} {s t : State α} {l : Label α}

/-! ## The worker's ticket is the active one -/

def HoldsActive (s : State α) : Prop := ∀ k, s.worker.ticket? = some k → s.active = some k

theorem active_kept (quiet : l.handles = false) (next : step cfg s l = some t) : t.active = s.active := by
  by_cases other : l.ofWorker = false
  · exact (other_sameWorker other next).active
  cases l with
  | alarm c =>
    simp only [step] at next
    split at next
    · split at next <;> cases next
      exact (start_sameWorker cfg c .emergencyStop).active
    · cases next
  | executeReplies | settle | record | alarmOver | emit => exact (book_frame rfl next).active
  | take | execute | finish | release => cases quiet
  | _ => exact absurd rfl other

theorem holdsActive_step (inv : HoldsActive s) (next : step cfg s l = some t) : HoldsActive t := by
  intro k held
  by_cases quiet : l.handles = false
  · rw [active_kept quiet next]
    exact inv k ((worker_quiet quiet next).1.ticket.symm.trans held)
  cases l with
  | take clock =>
    obtain ⟨_, rfl⟩ | ⟨j, drained, popped, rfl⟩ := taken_cases next
    · cases held
    have idle : drained.worker = .looping := by
      rcases popped.source with ⟨_, _, _, rfl⟩ | ⟨_, _, _, rfl⟩ <;> exact popped.idle
    rcases dispatch_cases clock j drained with ⟨_, same⟩ | ⟨_, _, _, same⟩ | ⟨b, _, _, ends⟩
    · rw [same, idle] at held
      cases held
    · rw [same] at held
      cases held
    · generalize drained.dispatch clock j = after at ends held
      cases ends with
      | withdrawn | expired => cases held
      | begun => exact held
  | execute | finish =>
    simp only [step] at next
    split at next
    · rename_i station
      cases next
      exact inv k (by rw [station]; exact held)
    · cases next
  | release =>
    simp only [step] at next
    split at next <;> first
      | cases next; done
      | (obtain rfl := Option.some.inj next; cases held)
  | _ => exact absurd rfl quiet

theorem holdsActive_reachable (reached : Reachable (step cfg) State.init s) : HoldsActive s :=
  reachable_induction (fun _ _ _ => holdsActive_step) reached nofun

/-! ## Closing, and doing nothing -/

theorem stays_open (next : step cfg s l = some t) (isOpen : s.closed = false)
    (other : ∀ c hold, l ≠ .start c (.close hold)) : t.closed = false := by
  obtain ⟨act, moved, cause⟩ := control_step next
  have kept : t.control.closed = false := by
    generalize t.control = k at moved
    cases moved with
    | shut =>
      obtain ⟨c, hold, closes⟩ := cause
      exact absurd closes (other c hold)
    | _ => exact isOpen
  exact kept

structure State.Idle (s : State α) : Prop where
  modelQueue : s.modelQueue = []
  manualPending : s.manualPending = none
  worker : s.worker.ticket? = none

open State

theorem idle_init : (init : State α).Idle := ⟨rfl, rfl, rfl⟩

theorem idle_step (idle : s.Idle) (next : step cfg s l = some t)
    (other : ∀ c args clock, l ≠ .start c (.submit args clock)) : t.Idle := by
  obtain ⟨act, moved, cause⟩ := control_step next
  have pending : t.modelQueue = [] ∧ t.manualPending = none := by
    have before : s.control.modelQueue = [] ∧ s.control.manualPending = none :=
      ⟨idle.modelQueue, idle.manualPending⟩
    suffices t.control.modelQueue = [] ∧ t.control.manualPending = none from this
    generalize t.control = k at moved
    cases moved with
    | enqueue | stage =>
      obtain ⟨_, _, _, _, _, c, args, clock, submits⟩ := cause
      exact absurd submits (other c args clock)
    | takeover | latch | shut | clear => exact ⟨rfl, rfl⟩
    | clearQueue => exact ⟨rfl, before.2⟩
    | disarm | drainManual => exact ⟨before.1, rfl⟩
    | drainModel _ _ _ head => cases before.1.symm.trans head
    | _ => exact before
  refine ⟨pending.1, pending.2, ?_⟩
  by_cases quiet : l.handles = false
  · exact (worker_quiet quiet next).1.ticket.trans idle.worker
  cases l with
  | take =>
    obtain ⟨_, rfl⟩ | ⟨j, drained, popped, rfl⟩ := taken_cases next
    · rfl
    · rcases popped.source with ⟨_, _, queue, _⟩ | ⟨_, _, slot, _⟩
      · cases idle.modelQueue.symm.trans queue
      · cases idle.manualPending.symm.trans slot
  | execute | finish =>
    have none_ := idle.worker
    simp only [step] at next
    split at next
    · rename_i station
      rw [station] at none_
      cases none_
    · cases next
  | release =>
    have none_ := idle.worker
    simp only [step] at next
    split at next <;> first
      | cases next; done
      | (rename_i station; rw [station] at none_; cases none_)
  | _ => exact absurd rfl quiet

/-! ## Guarded commands -/

/-- The worker has called `port.execute` for `k` and, if the call gave up, has yet to raise the
emergency stop for it. -/
def Worker.guards (worker : Worker) (k : TicketId) : Prop :=
  worker = .executing k ∨ (∃ text result, worker = .replied k (.raised text result)) ∨
    (∃ settlement text, worker = .recording k settlement text true) ∨
    ∃ settlement, worker = .alarmed k settlement

def State.Guards (s : State α) (k : TicketId) : Prop :=
  s.heap.cancelled k = true ∨ s.worker.guards k
variable {k : TicketId}

theorem Worker.guards.ticket {worker : Worker} (guards : worker.guards k) : worker.ticket? = some k := by
  rcases guards with rfl | ⟨_, _, rfl⟩ | ⟨_, _, rfl⟩ | ⟨_, rfl⟩ <;> rfl

theorem guards_cancelled (guards : s.Guards k) (latch : LatchInv s) (holds : HoldsActive s)
    (latched : s.authority = .estopLatched) : s.heap.cancelled k = true :=
  guards.elim id fun atWorker => latch.cancelled latched k (holds k atWorker.ticket)

theorem emergencyStop_latches (c : CallId) (isOpen : s.closed = false) :
    (s.emergencyStop c).authority = .estopLatched := by
  simp [emergencyStop, requireOpen, isOpen, clearModelQueue, clearManual, cancelActive]

/-- A guarded command stays guarded, as long as `port.execute` does not end for it in another way
than by raising. -/
theorem guards_step (guards : s.Guards k) (isOpen : s.closed = false)
    (reached : Reachable (step cfg) init s) (next : step cfg s l = some t)
    (port : ∀ reply, l = .executeReplies reply → s.worker = .executing k →
      ∃ text result, reply = .raised text result) : t.Guards k := by
  rcases guards with cancelled | atWorker
  · exact .inl ((heap_later next).cancelled cancelled)
  by_cases other : l.ofWorker = false
  · exact .inr ((other_sameWorker other next).worker ▸ atWorker)
  cases l with
  | executeReplies reply =>
    simp only [step] at next
    split at next
    · rename_i j station
      cases next
      obtain rfl : j = k := by simpa [station, Worker.ticket?] using atWorker.ticket
      obtain ⟨text, result, rfl⟩ := port reply rfl station
      exact .inr (.inr (.inl ⟨text, result, rfl⟩))
    · cases next
  | settle =>
    simp only [step] at next
    split at next
    · rename_i j reply station
      cases next
      obtain rfl : j = k := by simpa [station, Worker.ticket?] using atWorker.ticket
      obtain ⟨text, result, rfl⟩ : ∃ text result, reply = .raised text result := by
        rcases atWorker with h | ⟨text, result, h⟩ | ⟨_, _, h⟩ | ⟨_, h⟩ <;> rw [station] at h <;> cases h
        exact ⟨text, result, rfl⟩
      cases cancelled : s.heap.cancelled j with
      | true => exact .inl cancelled
      | false =>
        exact .inr (.inr (.inr (.inl ⟨⟨.failed, some (.driver text), result⟩, text, rfl⟩)))
    · cases next
  | record =>
    simp only [step] at next
    split at next
    · rename_i j settlement text stop station
      cases next
      have stops : j = k ∧ stop = true := by
        rcases atWorker with h | ⟨_, _, h⟩ | ⟨_, _, h⟩ | ⟨_, h⟩ <;> rw [station] at h <;> cases h
        exact ⟨rfl, rfl⟩
      obtain ⟨rfl, rfl⟩ := stops
      exact .inr (.inr (.inr (.inr ⟨settlement, rfl⟩)))
    · cases next
  | alarm c =>
    have active := active_kept rfl next
    have latch := latchInv_reachable (reached.tail next)
    have held := holdsActive_reachable reached k atWorker.ticket
    simp only [step] at next
    split at next
    · split at next <;> cases next
      exact .inl (latch.cancelled (emergencyStop_latches c isOpen) k (active.trans held))
    · cases next
  | take | execute | alarmOver | emit | finish | release =>
    exfalso
    simp only [step, alarmOver, workerEmits] at next
    rcases atWorker with station | ⟨_, _, station⟩ | ⟨_, _, station⟩ | ⟨_, station⟩ <;> simp [station] at next
  | _ => exact absurd rfl other

end EmbodiRun.Arbiter
