/-
# Arbiter.Control -- who may command the robot: the abstract machine the arbiter runs

`Control` is what the arbiter is for: one authority, the work pending under it, the
deadman that arms the manual slot, and a counter of latches.  `Act` lists what can
happen to it and `Control.step` when each may happen; nothing here knows of calls,
ports or threads.

`control_step` connects it to the code: every section of the arbiter performs one act,
and `Cause` says which sections can perform the acts that move authority or hand out
pending work.  Invariants of authority are proved once, over acts.
-/
import EmbodiRun.Arbiter.Heap

namespace EmbodiRun.Arbiter

open Io

structure Control where
  authority : AuthorityState
  deadmanActive : Bool
  manualHeartbeat : Option ℚ
  modelQueue : List TicketId
  manualPending : Option TicketId
  estopGeneration : Nat
  closed : Bool

inductive Act where
  | stay
  | enqueue (t : TicketId)
  | stage (t : TicketId) (clock : ℚ)
  | takeover
  | arm (clock : ℚ)
  | disarm
  | commitModel
  | clear
  | clearQueue
  | latch
  | reset
  | shut
  | drainModel (t : TicketId)
  | drainManual (t : TicketId)

namespace Control

def quiet (k : Control) : Control :=
  { k with deadmanActive := false, manualHeartbeat := none, modelQueue := [], manualPending := none }

inductive Step : Control → Act → Control → Prop
  | stay (k) : Step k .stay k
  | enqueue (k : Control) (t : TicketId) (isModel : k.authority = .model)
      (isOpen : k.closed = false) : Step k (.enqueue t) { k with modelQueue := k.modelQueue ++ [t] }
  | stage (k : Control) (t : TicketId) (clock : ℚ) (isManual : k.authority = .manual)
      (armed : k.deadmanActive = true) (isOpen : k.closed = false) :
      Step k (.stage t clock) { k with manualPending := some t, manualHeartbeat := some clock }
  | takeover (k : Control) (unlatched : k.authority ≠ .estopLatched) :
      Step k .takeover { k.quiet with authority := .manual }
  | arm (k : Control) (clock : ℚ) (isManual : k.authority = .manual) :
      Step k (.arm clock) { k with deadmanActive := true, manualHeartbeat := some clock }
  | disarm (k : Control) (unlatched : k.authority ≠ .estopLatched) : Step k .disarm
        { k with deadmanActive := false, manualHeartbeat := none, manualPending := none }
  | commitModel (k : Control) (unlatched : k.authority ≠ .estopLatched) :
      Step k .commitModel { k with authority := .model }
  | clear (k) : Step k .clear { k with modelQueue := [], manualPending := none }
  | clearQueue (k) : Step k .clearQueue { k with modelQueue := [] }
  | latch (k : Control) : Step k .latch
        { k.quiet with authority := .estopLatched, estopGeneration := k.estopGeneration + 1 }
  | reset (k) : Step k .reset
        { k with authority := .manual, deadmanActive := false, manualHeartbeat := none }
  | shut (k : Control) : Step k .shut { k.quiet with closed := true }
  | drainModel (k : Control) (t : TicketId) (rest) (isModel : k.authority = .model)
      (head : k.modelQueue = t :: rest) : Step k (.drainModel t) { k with modelQueue := rest }
  | drainManual (k : Control) (t : TicketId) (isManual : k.authority = .manual)
      (armed : k.deadmanActive = true) (pending : k.manualPending = some t) :
      Step k (.drainManual t) { k with manualPending := none }

end Control

variable {α : Type}

def State.control (s : State α) : Control where
  authority := s.authority
  deadmanActive := s.deadmanActive
  manualHeartbeat := s.manualHeartbeat
  modelQueue := s.modelQueue
  manualPending := s.manualPending
  estopGeneration := s.estopGeneration
  closed := s.closed

open State

/-- The sections that latch: of `emergency_stop`, and the one that records a failed hold. -/
def Latches (s : State α) (l : Label α) : Prop :=
  ∃ c, l = .start c .emergencyStop ∨ l = .alarm c ∨
    (l = .proceed c ∧ ∃ holder failure, s.calls c = .held holder (some failure))

/-- The section that performs an act, where its origin matters, and what it does to the heap. -/
def Cause (s : State α) (l : Label α) (t : State α) : Act → Prop
  | .enqueue k => ∃ envelope, Admitted envelope s ∧ envelope.source ≠ .manual ∧
      k = s.heap.tickets.length ∧ t.heap = s.heap.push { envelope := envelope } ∧
      ∃ c args clock, l = .start c (.submit args clock)
  | .stage k _ => ∃ envelope, Admitted envelope s ∧ envelope.source = .manual ∧
      k = s.heap.tickets.length ∧
      t.heap = (s.heap.finishAll s.manualPending.toList .replaced).push { envelope := envelope } ∧
      ∃ c args clock, l = .start c (.submit args clock)
  | .takeover => ∃ c, l = .start c .acquireManual
  | .commitModel => ∃ c, l = .proceed c ∧ s.calls c = .held .releaseManual none
  | .reset => ∃ c, l = .proceed c ∧ s.calls c = .resetHeld s.estopGeneration none ∧ s.closed = false
  | .latch => Latches s l ∧ t.active = s.active ∧ t.heap = s.quiesce.heap
  | .drainModel _ | .drainManual _ =>
    ∃ clock, l = .take clock ∧ s.worker = .looping ∧ s.holdInProgress = false
  | .shut => ∃ c hold, l = .start c (.close hold)
  | _ => True

/-- A section performs `act` on the control it sees. -/
def Performs (s : State α) (l : Label α) (t : State α) : Prop :=
  ∃ act, Control.Step s.control act t.control ∧ Cause s l t act

theorem Performs.stay {s t : State α} {l : Label α} (same : t.control = s.control) : Performs s l t := by
  refine ⟨.stay, ?_, trivial⟩
  rw [same]
  exact .stay _

/-! ## Every section performs an act -/

variable {cfg : Config} {s t : State α} {l : Label α}
variable {c : CallId} {clock : ℚ}

theorem requireOpen_performs {body : State α → State α}
    (inside : s.closed = false → Performs s l (body s)) : Performs s l (s.requireOpen c body) := by
  unfold requireOpen
  split
  · exact .stay rfl
  · exact inside (Bool.eq_false_iff.mpr ‹_›)

theorem submit_performs (c : CallId) (args : Submission α) (clock : ℚ) :
    Performs s (.start c (.submit args clock)) (s.submit cfg c args clock) := by
  rcases submit_cases cfg c args clock s with ⟨failure, refused⟩ | ⟨envelope, _, admitted, accepted⟩
  · rw [refused]
    exact .stay rfl
  · generalize s.submit cfg c args clock = after at accepted
    cases accepted with
    | staged isManual granted armed =>
      exact ⟨.stage _ clock, .stage _ _ clock granted armed admitted.isOpen,
        envelope, admitted, isManual, rfl, rfl, c, args, clock, rfl⟩
    | queued isAutomatic granted =>
      exact ⟨.enqueue _, .enqueue _ _ granted admitted.isOpen,
        envelope, admitted, isAutomatic, rfl, rfl, c, args, clock, rfl⟩

theorem start_performs (c : CallId) (op : Operation α) : Performs s (.start c op) (s.start cfg c op) := by
  cases op with
  | beginAutomaticTask =>
    simp only [start, beginAutomaticTask]
    split <;> exact .stay rfl
  | finishAutomaticWork =>
    refine requireOpen_performs fun _ => ?_
    split
    · exact .stay rfl
    split
    · exact .stay rfl
    · exact ⟨.clearQueue, .clearQueue _, trivial⟩
  | submit args clock => exact submit_performs c args clock
  | acquireManual =>
    refine requireOpen_performs fun _ => ?_
    split
    · exact .stay rfl
    dsimp only
    split <;> exact ⟨.takeover, .takeover _ ‹_›, c, rfl⟩
  | releaseManual =>
    refine requireOpen_performs fun _ => ?_
    split
    · exact .stay rfl
    · exact ⟨.disarm, .disarm _ ‹_›, trivial⟩
  | setDeadman active clock =>
    refine requireOpen_performs fun _ => ?_
    split
    · exact .stay rfl
    rename_i isManual
    have isManual : s.authority = .manual := not_not.mp isManual
    cases active with
    | true => exact ⟨.arm clock, .arm _ clock isManual, trivial⟩
    | false =>
      refine ⟨.disarm, .disarm _ ?_, trivial⟩
      simp [State.control, isManual]
  | hold => exact requireOpen_performs fun _ => ⟨.clear, .clear _, trivial⟩
  | cancelAutomaticWork =>
    refine requireOpen_performs fun _ => ?_
    split
    · exact .stay rfl
    dsimp only
    split <;> split <;> exact ⟨.clearQueue, .clearQueue _, trivial⟩
  | emergencyStop =>
    exact requireOpen_performs fun _ => ⟨.latch, .latch _, ⟨c, .inl rfl⟩, rfl, rfl⟩
  | resetEmergencyStop =>
    refine requireOpen_performs fun _ => ?_
    split <;> exact .stay rfl
  | close hold =>
    simp only [start, close]
    split
    · exact .stay rfl
    · exact ⟨.shut, .shut _, c, hold, rfl⟩

theorem commitHold_performs {holder : Holder} (pending : s.calls c = .held holder none) :
    Performs s (.proceed c) (s.commitHold c holder) := by
  by_cases releases : holder = .releaseManual ∧ s.authority ≠ .estopLatched
  · obtain ⟨rfl, unlatched⟩ := releases
    refine ⟨.commitModel, ?_, c, rfl, pending⟩
    have committed : s.authorityAfterHold (Holder.nextAuthority .releaseManual) = .model := by
      simp [authorityAfterHold, Holder.nextAuthority, unlatched]
    have step := Control.Step.commitModel s.control unlatched
    simpa [State.commitHold, State.setCall, State.control, committed] using step
  · refine .stay ?_
    have kept : s.authorityAfterHold holder.nextAuthority = s.authority := by
      cases holder <;> simp_all [authorityAfterHold, Holder.nextAuthority]
    simp [State.commitHold, State.setCall, State.control, kept]

theorem proceed_performs (next : s.proceed c = some t) : Performs s (.proceed c) t := by
  unfold proceed at next
  split at next <;> try (obtain rfl := Option.some.inj next)
  · rename_i token _
    refine requireOpen_performs fun _ => ?_
    split
    · exact .stay rfl
    · cases token <;> exact ⟨.clearQueue, .clearQueue _, trivial⟩
  · split at next <;> cases next
    exact .stay rfl
  · split at next <;> cases next
    unfold joinHold
    split <;> exact .stay rfl
  · exact ⟨.latch, .latch _, ⟨c, .inr (.inr ⟨rfl, _, _, ‹_›⟩)⟩, rfl, rfl⟩
  · exact commitHold_performs ‹_›
  · refine .stay ?_
    unfold detachTask
    dsimp only
    split <;> rfl
  · exact .stay rfl
  · exact .stay rfl
  · exact .stay rfl
  · exact .stay rfl
  · exact .stay rfl
  · rename_i generation pending
    refine requireOpen_performs fun isOpen => ?_
    split
    · exact .stay rfl
    · rename_i same
      obtain rfl := not_not.mp same
      exact ⟨.reset, .reset _, c, rfl, pending, isOpen⟩
  · split at next <;> cases next
    exact .stay rfl
  · cases next

theorem dispatch_control (clock : ℚ) (ticket : TicketId) (s : State α) :
    (s.dispatch clock ticket).control = s.control := by
  unfold dispatch
  split
  · rfl
  split
  · rfl
  dsimp only
  split
  · rfl
  split <;> rfl

theorem take_performs (next : step cfg s (.take clock) = some t) : Performs s (.take clock) t := by
  obtain ⟨idle, taken⟩ := take_cases next
  have drained : t.control = s.nextTicket.2.control := by
    obtain ⟨_, rfl⟩ | ⟨k, _, _, rfl⟩ := taken
    · rfl
    · exact dispatch_control clock k s.nextTicket.2
  rcases nextTicket_cases s with nothing | ⟨k, rest, unheld, isModel, queue, popped⟩ |
    ⟨k, unheld, isManual, armed, pending, popped⟩
  · exact .stay (by rw [drained, nothing])
  · refine ⟨.drainModel k, ?_, clock, rfl, idle, unheld⟩
    rw [drained, popped]
    exact .drainModel s.control k rest isModel queue
  · refine ⟨.drainManual k, ?_, clock, rfl, idle, unheld⟩
    rw [drained, popped]
    exact .drainManual s.control k isManual armed pending

theorem watch_performs (next : step cfg s (.watch c clock) = some t) : Performs s (.watch c clock) t := by
  obtain ⟨_, _, ⟨_, rfl⟩ | ⟨_, isManual, _, rfl⟩⟩ := watch_cases next
  · exact .stay rfl
  · refine ⟨.disarm, .disarm _ ?_, trivial⟩
    simp [State.control, isManual]

theorem alarm_performs (c : CallId) (worker : Worker) :
    Performs s (.alarm c) ({ s with worker := worker }.emergencyStop c) := by
  unfold emergencyStop requireOpen
  split
  · exact .stay rfl
  · exact ⟨.latch, .latch s.control, ⟨c, .inr (.inl rfl)⟩, rfl, rfl⟩

theorem Frame.control (frame : Frame s t) : t.control = s.control := by
  obtain ⟨authority, deadmanActive, manualHeartbeat, modelQueue, manualPending, _, _,
    estopGeneration, _, closed, _⟩ := frame
  simp only [State.control, authority, deadmanActive, manualHeartbeat, modelQueue, manualPending,
    estopGeneration, closed]

/-- **Refinement.** Every move of every thread performs one act on the control. -/
theorem control_step (next : step cfg s l = some t) : Performs s l t := by
  cases l with
  | newEvent | setEvent =>
    cases next
    exact .stay rfl
  | start c op =>
    simp only [step] at next
    split at next <;> cases next
    exact start_performs c op
  | proceed => exact proceed_performs next
  | take => exact take_performs next
  | alarm c =>
    simp only [step] at next
    split at next
    · split at next <;> cases next
      exact alarm_performs c _
    · cases next
  | finish =>
    simp only [step] at next
    split at next <;> cases next
    exact .stay rfl
  | release =>
    simp only [step] at next
    split at next <;> cases next <;> exact .stay rfl
  | watch => exact watch_performs next
  | _ => exact .stay (book_frame rfl next).control

end EmbodiRun.Arbiter
