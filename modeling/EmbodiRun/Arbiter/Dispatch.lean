/-
# Arbiter.Dispatch -- the worker's side: what it takes, what it starts, what it holds

Only the worker's own moves change the active ticket, the worker's station and the
record of port calls (`SameWorker`, `worker_step`), and only its section at the head of
`_run` moves a ticket from QUEUED to RUNNING (`MarksRunning`, `running_marked`).
`dispatch_cases` and `taken_cases` say once how that section can end.
-/
import EmbodiRun.Arbiter.Control

namespace EmbodiRun.Arbiter

open Io State

variable {α : Type} {cfg : Config} {s t : State α} {l : Label α}

/-- The section at the head of `_run` finds `k` QUEUED and marks it RUNNING. -/
def MarksRunning (s : State α) (l : Label α) (k : TicketId) : Prop :=
  Picks s l k ∧ s.heap.status? k = some .queued

/-! ## How a dispatch ends -/

/-- What the section does with a queued ticket `k`, found as `b`: cancelled with its task,
expired, or handed over. -/
inductive Dispatched (clock : ℚ) (k : TicketId) (b : CommandTicket α) (s : State α) : State α → Prop
  | withdrawn (cancelled : b.envelope.taskCancel.any s.heap.isSet = true) : Dispatched clock k b s
        { s with
          heap := (s.heap.update k fun ticket => ticket.markRunning.2).finish k .cancelled none none
          worker := .early k .cancelled }
  | expired (late : (b.envelope.deadline.any fun deadline => clock > deadline) = true) :
      Dispatched clock k b s { s with
          active := none
          heap := (s.heap.update k fun ticket => ticket.markRunning.2).finish k .expired none none
          worker := .early k .expired }
  | begun (live : b.envelope.taskCancel.any s.heap.isSet = false) : Dispatched clock k b s
        { s with
          active := some k
          heap := s.heap.update k fun ticket => ticket.markRunning.2
          worker := .dispatching k }

theorem dispatch_cases (clock : ℚ) (k : TicketId) (s : State α) :
    (s.heap.tickets[k]? = none ∧ s.dispatch clock k = s) ∨
    (∃ b, s.heap.tickets[k]? = some b ∧ b.status ≠ .queued ∧ s.dispatch clock k = { s with worker := .looping }) ∨
    (∃ b, s.heap.tickets[k]? = some b ∧ b.status = .queued ∧ Dispatched clock k b s (s.dispatch clock k)) := by
  unfold dispatch
  split
  · exact .inl ⟨‹_›, rfl⟩
  rename_i b found
  by_cases queued : b.status = .queued
  · refine .inr (.inr ⟨b, found, queued, ?_⟩)
    have marked : b.markRunning.1 = true := by simp [CommandTicket.markRunning, queued]
    rw [marked]
    dsimp only
    have tokens : (s.heap.update k fun ticket => ticket.markRunning.2).isSet = s.heap.isSet := rfl
    rw [if_neg (by simp), tokens]
    split
    · exact .withdrawn ‹_›
    rename_i live
    split
    · exact .expired ‹_›
    · exact .begun (Bool.eq_false_iff.mpr live)
  · refine .inr (.inl ⟨b, found, queued, ?_⟩)
    simp [CommandTicket.markRunning, queued]

/-- `s` with what the worker's section has popped already removed. -/
structure Popped (s drained : State α) (k : TicketId) : Prop where
  unheld : s.holdInProgress = false
  isOpen : s.closed = false
  idle : s.worker = .looping
  source : (∃ rest, s.authority = .model ∧ s.modelQueue = k :: rest ∧ drained = { s with modelQueue := rest }) ∨
    (s.authority = .manual ∧ s.deadmanActive = true ∧ s.manualPending = some k ∧
      drained = { s with manualPending := none })
variable {drained : State α} {k : TicketId}

theorem Popped.picks (popped : Popped s drained k) (clock : ℚ) : Picks s (.take clock) k := by
  refine ⟨clock, rfl, popped.idle, popped.isOpen, ?_⟩
  unfold nextTicket
  rcases popped.source with ⟨rest, isModel, queue, _⟩ | ⟨isManual, armed, pending, _⟩
  · simp [popped.unheld, isModel, queue]
  · simp [popped.unheld, isManual, armed, pending]

theorem taken_cases {clock} (next : step cfg s (.take clock) = some t) :
    (s.closed = true ∧ t = { s.nextTicket.2 with worker := .ended }) ∨
      ∃ k drained, Popped s drained k ∧ t = drained.dispatch clock k := by
  obtain ⟨idle, finished | ⟨k, isOpen, taken, rfl⟩⟩ := take_cases next
  · exact .inl finished
  refine .inr ⟨k, s.nextTicket.2, ?_, rfl⟩
  rcases nextTicket_cases s with none_ | ⟨k', rest, unheld, isModel, queue, popped⟩ |
    ⟨k', unheld, isManual, armed, pending, popped⟩
  · rw [none_] at taken
    cases taken
  · rw [popped] at taken ⊢
    cases taken
    exact ⟨unheld, isOpen, idle, .inl ⟨rest, isModel, queue, rfl⟩⟩
  · rw [popped] at taken ⊢
    cases taken
    exact ⟨unheld, isOpen, idle, .inr ⟨isManual, armed, pending, rfl⟩⟩

theorem Popped.heap (popped : Popped s drained k) : drained.heap = s.heap := by
  rcases popped.source with ⟨_, _, _, rfl⟩ | ⟨_, _, _, rfl⟩ <;> rfl

theorem picks_popped (picks : Picks s l k) : ∃ drained, Popped s drained k := by
  obtain ⟨clock, rfl, idle, isOpen, taken⟩ := picks
  rcases nextTicket_cases s with none_ | ⟨k', rest, unheld, isModel, queue, popped⟩ |
    ⟨k', unheld, isManual, armed, pending, popped⟩
  · rw [none_] at taken
    cases taken
  · rw [popped] at taken
    cases taken
    exact ⟨_, unheld, isOpen, idle, .inl ⟨rest, isModel, queue, rfl⟩⟩
  · rw [popped] at taken
    cases taken
    exact ⟨_, unheld, isOpen, idle, .inr ⟨isManual, armed, pending, rfl⟩⟩

/-- **Only the worker's section moves a ticket from QUEUED to RUNNING.** -/
theorem running_marked (next : step cfg s l = some t) (queued : s.heap.status? k = some .queued)
    (running : t.heap.status? k = some .running) : MarksRunning s l k := by
  refine ⟨?_, queued⟩
  simp only [Heap.status?, Option.map_eq_some_iff] at queued running
  obtain ⟨b, found, isQueued⟩ := queued
  obtain ⟨a, there, isRunning⟩ := running
  obtain ⟨a', there', _, began⟩ := (heap_later next).tickets k b found
  obtain rfl := Option.some.inj (there.symm.trans there')
  rcases began isRunning with already | picks
  · rw [isQueued] at already
    cases already
  · exact picks

/-! ## The worker's own fields -/

structure SameWorker (s t : State α) : Prop where
  active : t.active = s.active
  worker : t.worker = s.worker
  portCalls : t.portCalls = s.portCalls

theorem start_sameWorker (cfg : Config) (c : CallId) (op : Operation α) : SameWorker s (s.start cfg c op) := by
  cases op with
  | submit args clock =>
    simp only [start]
    rcases submit_cases cfg c args clock s with ⟨failure, refused⟩ | ⟨envelope, _, _, accepted⟩
    · rw [refused]
      constructor <;> rfl
    · generalize s.submit cfg c args clock = after at accepted
      cases accepted <;> constructor <;> rfl
  | _ =>
    simp only [start, beginAutomaticTask, finishAutomaticWork, acquireManual, releaseManual, setDeadman, hold,
      cancelAutomaticWork, emergencyStop, resetEmergencyStop, close,
      requireOpen]
    constructor <;> grind [raise, setCall, clearModelQueue, clearManual, cancelActive, cancelActiveAutomaticTicket]

theorem proceed_sameWorker {c} (next : s.proceed c = some t) : SameWorker s t := by
  unfold proceed at next
  split at next <;> (try split at next) <;> first
      | cases next; done
      | (obtain rfl := Option.some.inj next)
  all_goals first
      | (constructor <;> rfl)
      | (simp only [registerTask, joinHold, detachTask, commitReset,
          requireOpen]
         constructor <;> grind [raise, setCall, clearModelQueue, cancelActive, cancelActiveAutomatic])

def Label.ofWorker : Label α → Bool
  | .take _ | .execute | .executeReplies _ | .settle | .record | .alarm _ | .alarmOver | .emit _
  | .finish | .release => true
  | .newEvent | .setEvent _ | .start _ _ | .stopReplies _ _ | .proceed _ | .announce _ _ | .timeout _
  | .portCloses _ _ | .watch _ _ | .watchOver => false

theorem other_sameWorker (other : l.ofWorker = false) (next : step cfg s l = some t) : SameWorker s t := by
  cases l with
  | newEvent | setEvent =>
    cases next
    constructor <;> rfl
  | start c op =>
    simp only [step] at next
    split at next <;> cases next
    exact start_sameWorker cfg c op
  | stopReplies =>
    simp only [step, stopReplies] at next
    split at next <;> first
      | cases next; done
      | (obtain rfl := Option.some.inj next; constructor <;> rfl)
  | proceed => exact proceed_sameWorker next
  | announce c emission =>
    simp only [step] at next
    split at next <;> cases next
    cases emission <;> constructor <;> rfl
  | timeout =>
    simp only [step, timeout] at next
    split at next <;> first
      | cases next; done
      | (obtain rfl := Option.some.inj next; constructor <;> rfl)
  | portCloses =>
    simp only [step] at next
    split at next <;> cases next
    unfold endClose
    split <;> constructor <;> rfl
  | watch =>
    obtain ⟨_, _, ⟨_, rfl⟩ | ⟨_, _, _, rfl⟩⟩ := watch_cases next <;> constructor <;> rfl
  | watchOver =>
    simp only [step, watchOver] at next
    split at next
    · split at next <;> first
        | cases next; done
        | (obtain rfl := Option.some.inj next; constructor <;> rfl)
    · cases next
  | take _ | execute | executeReplies _ | settle | record | alarm _ | alarmOver | emit _ | finish
  | release => cases other

theorem active_step (next : step cfg s l = some t) : t.active = s.active ∨ t.active = none ∨
      ∃ k, MarksRunning s l k ∧ t.active = some k ∧ t.heap.status? k = some .running := by
  by_cases other : l.ofWorker = false
  · exact .inl (other_sameWorker other next).active
  cases l with
  | take clock =>
    obtain ⟨_, rfl⟩ | ⟨k, drained, popped, rfl⟩ := taken_cases next
    · refine .inl ?_
      rcases nextTicket_cases s with taken | ⟨_, _, _, _, _, taken⟩ | ⟨_, _, _, _, _, taken⟩ <;> rw [taken]
    have kept : drained.active = s.active := by
      rcases popped.source with ⟨_, _, _, rfl⟩ | ⟨_, _, _, rfl⟩ <;> rfl
    rcases dispatch_cases clock k drained with ⟨_, same⟩ | ⟨_, _, _, same⟩ | ⟨b, found, queued, ends⟩
    · exact .inl (by rw [same, kept])
    · exact .inl (by rw [same, kept])
    rw [popped.heap] at found
    generalize drained.dispatch clock k = after at ends
    cases ends with
    | withdrawn => exact .inl kept
    | expired => exact .inr (.inl rfl)
    | begun =>
      refine .inr (.inr ⟨k, ⟨popped.picks clock, ?_⟩, rfl, ?_⟩)
      · simp [Heap.status?, found, queued]
      · simp [Heap.status?, popped.heap, found, CommandTicket.markRunning, queued]
  | alarm c =>
    simp only [step] at next
    split at next
    · split at next <;> cases next
      exact .inl (start_sameWorker cfg c .emergencyStop).active
    · cases next
  | release =>
    simp only [step] at next
    split at next <;> first
      | cases next; done
      | (cases next
         simp only [release]
         split
         · exact .inr (.inl rfl)
         · exact .inl rfl)
  | execute | executeReplies | settle | record | alarmOver | emit =>
    exact .inl (book_frame rfl next).active
  | finish =>
    simp only [step] at next
    split at next <;> cases next
    exact .inl rfl
  | _ => exact absurd rfl other

end EmbodiRun.Arbiter
