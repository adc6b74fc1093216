/-
# Arbiter.Heap -- what the heap operations do to one ticket, and that nothing is undone

Every operation on the heap is pointwise: the ticket at an identity after it is a
function of the ticket there before it (`*_ticket`).  `Heap.Later` is the order in which
a heap can grow: accepted tickets keep their envelope and their place, a status only
advances, an ended ticket keeps its outcome, a set event or cancellation stays set.
Every operation respects it, and so does every move of the arbiter (`heap_later`).
-/
import EmbodiRun.Arbiter.Frame

namespace EmbodiRun.Arbiter

open Io List

variable {α : Type}

/-! ## One ticket -/

namespace CommandTicket

open CommandTicket

theorem finish_finish (status : TerminalStatus) (error : Option Failure) (result : Option IOResult)
    (ticket : CommandTicket α) :
    (ticket.finish status error result).finish status error result = ticket.finish status error result := by
  unfold finish
  by_cases ended : ticket.status.terminal = true
  · simp [ended]
  · simp [ended, status.2]

structure Later (before after : CommandTicket α) : Prop where
  envelope : after.envelope = before.envelope
  cancelled : before.cancelEvent = true → after.cancelEvent = true
  queued : after.status = .queued → before.status = .queued
  ended : before.status.terminal = true →
    after.status = before.status ∧ after.error = before.error ∧ after.result = before.result

theorem Later.refl (ticket : CommandTicket α) : Later ticket ticket :=
  ⟨rfl, id, id, fun _ => ⟨rfl, rfl, rfl⟩⟩

theorem Later.trans {a b c : CommandTicket α} (first : Later a b) (second : Later b c) : Later a c where
  envelope := second.envelope.trans first.envelope
  cancelled := second.cancelled ∘ first.cancelled
  queued := first.queued ∘ second.queued
  ended finished := by
    obtain ⟨status, error, result⟩ := first.ended finished
    obtain ⟨status', error', result'⟩ := second.ended (status ▸ finished)
    exact ⟨status'.trans status, error'.trans error, result'.trans result⟩

theorem later_finish (status : TerminalStatus) (error : Option Failure) (result : Option IOResult)
    (ticket : CommandTicket α) : Later ticket (ticket.finish status error result) := by
  unfold finish
  split
  · exact .refl ticket
  · rename_i running
    refine ⟨rfl, id, fun queued => ?_, fun finished => absurd finished running⟩
    have := status.2
    simp only at queued
    simp [queued, CommandStatus.terminal] at this

theorem finish_not_running {status : TerminalStatus} {error : Option Failure}
    {result : Option IOResult} {ticket : CommandTicket α} :
    (ticket.finish status error result).status ≠ .running := by
  unfold finish
  split
  · rename_i finished
    intro running
    simp [running, CommandStatus.terminal] at finished
  · intro running
    have := status.2
    simp only at running
    simp [running, CommandStatus.terminal] at this

theorem later_cancel (ticket : CommandTicket α) : Later ticket ticket.cancel :=
  ⟨rfl, fun _ => rfl, id, fun _ => ⟨rfl, rfl, rfl⟩⟩

theorem later_markRunning (ticket : CommandTicket α) : Later ticket ticket.markRunning.2 := by
  unfold markRunning
  split
  · rename_i queued
    exact ⟨rfl, id, fun _ => queued, fun finished => by
      simp [queued, CommandStatus.terminal] at finished⟩
  · exact .refl ticket

end CommandTicket

/-! ## The operations, one ticket at a time -/

namespace Heap

open Heap

variable (heap : Heap α)

@[simp] theorem setEvent_tickets (token : Option Token) : (heap.setEvent token).tickets = heap.tickets := by
  cases token <;> rfl

@[simp] theorem newEvent_tickets : heap.newEvent.tickets = heap.tickets := rfl

@[simp] theorem update_ticket (t k : TicketId) (f : CommandTicket α → CommandTicket α) :
    (heap.update t f).tickets[k]? = if t = k then heap.tickets[k]?.map f else heap.tickets[k]? := by
  simp only [update, getElem?_modify]
  split <;> cases heap.tickets[k]? <;> rfl

@[simp] theorem update_length (t : TicketId) (f : CommandTicket α → CommandTicket α) :
    (heap.update t f).tickets.length = heap.tickets.length := by
  simp [update]

@[simp] theorem finish_ticket (t k : TicketId) (status : TerminalStatus) (error : Option Failure)
    (result : Option IOResult) :
    (heap.finish t status error result).tickets[k]? =
      if t = k then heap.tickets[k]?.map (CommandTicket.finish status error result)
      else heap.tickets[k]? :=
  update_ticket heap t k _

@[simp] theorem finish_length (t : TicketId) (status : TerminalStatus) (error : Option Failure)
    (result : Option IOResult) :
    (heap.finish t status error result).tickets.length = heap.tickets.length :=
  update_length heap t _

@[simp] theorem finishAll_length (ts : List TicketId) (status : TerminalStatus) :
    (heap.finishAll ts status).tickets.length = heap.tickets.length := by
  induction ts generalizing heap with
  | nil => rfl
  | cons t ts ih => simpa [finishAll] using ih (heap.finish t status none none)

@[simp] theorem finishAll_ticket (ts : List TicketId) (status : TerminalStatus) (k : TicketId) :
    (heap.finishAll ts status).tickets[k]? =
      if k ∈ ts then heap.tickets[k]?.map (CommandTicket.finish status none none)
      else heap.tickets[k]? := by
  induction ts generalizing heap with
  | nil => simp [finishAll]
  | cons t ts ih =>
    have rest := ih (heap.finish t status none none)
    simp only [finishAll, foldl_cons] at rest ⊢
    rw [rest, finish_ticket]
    by_cases here : t = k
    · subst here
      by_cases again : t ∈ ts <;> cases heap.tickets[t]? <;> simp [again, CommandTicket.finish_finish]
    · have there : k ≠ t := Ne.symm here
      simp [here, there]

@[simp] theorem cancelIf_ticket (hit : CommandSource → Bool) (o : Option TicketId) (k : TicketId) :
    (heap.cancelIf hit o).tickets[k]? = heap.tickets[k]?.map fun ticket =>
        if o = some k ∧ hit ticket.envelope.source = true then ticket.cancel else ticket := by
  cases o with
  | none => simp [cancelIf]
  | some =>
    simp only [cancelIf, update_ticket, Option.some.injEq]
    split <;> cases heap.tickets[k]? <;> simp [*]

@[simp] theorem cancelIf_length (hit : CommandSource → Bool) (o : Option TicketId) :
    (heap.cancelIf hit o).tickets.length = heap.tickets.length := by
  cases o <;> simp [cancelIf]

theorem push_ticket (ticket : CommandTicket α) (k : TicketId) : (heap.push ticket).tickets[k]? =
      if k = heap.tickets.length then some ticket else heap.tickets[k]? := by
  simp only [push, getElem?_append]
  split
  · rename_i inside
    rw [if_neg (Nat.ne_of_lt inside)]
  · rename_i beyond
    by_cases last : k = heap.tickets.length
    · simp [last]
    · have past : heap.tickets.length < k := by lia
      rw [if_neg last, getElem?_eq_none past.le]
      exact getElem?_eq_none (by simp only [length_singleton]; lia)

@[simp] theorem push_length (ticket : CommandTicket α) :
    (heap.push ticket).tickets.length = heap.tickets.length + 1 := by
  simp [push]

@[simp] theorem setEvent_events_length (token : Option Token) :
    (heap.setEvent token).events.length = heap.events.length := by
  cases token <;> simp [setEvent]

@[simp] theorem finishAll_events (ts : List TicketId) (status : TerminalStatus) :
    (heap.finishAll ts status).events = heap.events := by
  induction ts generalizing heap with
  | nil => rfl
  | cons t ts ih => exact ih (heap.finish t status none none)

@[simp] theorem cancelIf_events (hit : CommandSource → Bool) (o : Option TicketId) :
    (heap.cancelIf hit o).events = heap.events := by
  cases o <;> rfl

theorem ticket_lt {heap : Heap α} {k : TicketId} {ticket : CommandTicket α}
    (found : heap.tickets[k]? = some ticket) : k < heap.tickets.length :=
  (List.getElem?_eq_some_iff.mp found).1

/-! ## How a heap grows -/

/-- `after` is `heap` some time later, when only `marked` tickets may have begun to run. -/
structure Later (marked : TicketId → Prop) (heap after : Heap α) : Prop where
  tickets : ∀ (k : TicketId) (b : CommandTicket α), heap.tickets[k]? = some b →
    ∃ a, after.tickets[k]? = some a ∧ b.Later a ∧ (a.status = .running → b.status = .running ∨ marked k)
  events : heap.events.length ≤ after.events.length
  isSet : ∀ e, heap.isSet e = true → after.isSet e = true

variable {marked : TicketId → Prop}

theorem Later.refl : heap.Later marked heap :=
  ⟨fun _ b found => ⟨b, found, .refl b, .inl⟩, le_rfl, fun _ => id⟩

variable {heap} {middle after : Heap α}

theorem Later.trans (first : heap.Later marked middle) (second : middle.Later marked after) :
    heap.Later marked after where
  tickets k b found := by
    obtain ⟨m, there, early, began⟩ := first.tickets k b found
    obtain ⟨a, last, late, begins⟩ := second.tickets k m there
    exact ⟨a, last, early.trans late, fun running => (begins running).elim began .inr⟩
  events := first.events.trans second.events
  isSet e := second.isSet e ∘ first.isSet e

variable (heap)

theorem later_setEvent (token : Option Token) : heap.Later marked (heap.setEvent token) := by
  cases token with
  | none => exact .refl heap
  | some e =>
    refine ⟨fun k b found => ⟨b, found, .refl b, .inl⟩, by simp [setEvent], fun d isSet => ?_⟩
    simp only [Heap.isSet, setEvent, getElem?_set] at isSet ⊢
    split
    · rename_i here
      subst here
      cases found : heap.events[e]? with
      | none => simp [found] at isSet
      | some => rw [if_pos (List.getElem?_eq_some_iff.mp found).1]; rfl
    · exact isSet

theorem later_newEvent : heap.Later marked heap.newEvent := by
  refine ⟨fun k b found => ⟨b, found, .refl b, .inl⟩, by simp [newEvent], fun d isSet => ?_⟩
  simp only [Heap.isSet, newEvent] at isSet ⊢
  cases found : heap.events[d]? with
  | none => simp [found] at isSet
  | some =>
    rw [List.getElem?_append_left (List.getElem?_eq_some_iff.mp found).1, found]
    simpa [found] using isSet

theorem later_of_tickets {after : Heap α} (events : after.events = heap.events)
    (pointwise : ∀ (k : TicketId) (b : CommandTicket α), heap.tickets[k]? = some b →
      ∃ a, after.tickets[k]? = some a ∧ b.Later a ∧
        (a.status = .running → b.status = .running ∨ marked k)) : heap.Later marked after :=
  ⟨pointwise, by rw [events], fun e isSet => by rwa [Heap.isSet, events]⟩

theorem later_update (t : TicketId) {f} (legal : ∀ b : CommandTicket α, b.Later (f b))
    (began : ∀ b : CommandTicket α, (f b).status = .running → b.status = .running ∨ marked t) :
    heap.Later marked (heap.update t f) := by
  refine later_of_tickets heap rfl fun k b found => ?_
  rw [update_ticket, found]
  split
  · rename_i here
    subst here
    exact ⟨f b, rfl, legal b, began b⟩
  · exact ⟨b, rfl, .refl b, .inl⟩

theorem later_finish (t : TicketId) (status : TerminalStatus) (error : Option Failure)
    (result : Option IOResult) : heap.Later marked (heap.finish t status error result) :=
  later_update heap t (CommandTicket.later_finish status error result)
    fun _ running => absurd running CommandTicket.finish_not_running

theorem later_finishAll (ts : List TicketId) (status : TerminalStatus) :
    heap.Later marked (heap.finishAll ts status) := by
  induction ts generalizing heap with
  | nil => exact .refl heap
  | cons t ts ih => exact (later_finish heap t status none none).trans (ih _)

theorem later_cancelIf (hit : CommandSource → Bool) (o : Option TicketId) :
    heap.Later marked (heap.cancelIf hit o) := by
  cases o with
  | none => exact .refl heap
  | some t =>
    refine later_update heap t (fun b => ?_) (fun b running => .inl ?_)
    · split
      · exact b.later_cancel
      · exact .refl b
    · split at running <;> exact running

theorem later_push (ticket : CommandTicket α) : heap.Later marked (heap.push ticket) := by
  refine later_of_tickets heap rfl fun k b found => ?_
  rw [push_ticket, if_neg (Nat.ne_of_lt (ticket_lt found))]
  exact ⟨b, found, .refl b, .inl⟩

end Heap

/-! ## Every move respects the order -/

variable {cfg : Config} {s t : State α} {l : Label α} {marked : TicketId → Prop}

theorem cancelActive_later (source : Option CommandSource) (s : State α) :
    s.heap.Later marked (s.cancelActive source).heap := by
  unfold State.cancelActive
  dsimp only
  split
  · exact (Heap.later_setEvent _ _).trans (Heap.later_cancelIf _ _ _)
  · exact Heap.later_cancelIf _ _ _

theorem cancelActiveAutomatic_later (s : State α) : s.heap.Later marked s.cancelActiveAutomatic.heap :=
  (Heap.later_setEvent _ _).trans (Heap.later_cancelIf _ _ _)

theorem cancelActiveAutomaticTicket_later (s : State α) : s.heap.Later marked s.cancelActiveAutomaticTicket.heap :=
  Heap.later_cancelIf _ _ _

theorem clearModelQueue_later (status : TerminalStatus) (s : State α) :
    s.heap.Later marked (s.clearModelQueue status).heap :=
  Heap.later_finishAll _ _ _

theorem clearManual_later (status : TerminalStatus) (s : State α) : s.heap.Later marked (s.clearManual status).heap :=
  Heap.later_finishAll _ _ _

/-- `_cancel_active()`, `_clear_model_queue(CLEARED)`, `_clear_manual(CLEARED)`: the three helpers
that every section taking the robot away from all pending work runs. -/
def State.quiesce (s : State α) : State α :=
  ((s.cancelActive none).clearModelQueue .cleared).clearManual .cleared

open State

theorem quiesce_later (s : State α) : s.heap.Later marked s.quiesce.heap :=
  (cancelActive_later none s).trans ((clearModelQueue_later _ _).trans (clearManual_later _ _))

theorem cancelManual_later (s : State α) :
    s.heap.Later marked ((s.cancelActive (some .manual)).clearManual .cleared).heap :=
  (cancelActive_later _ s).trans (clearManual_later _ _)
variable {c : CallId} {clock : ℚ}

theorem requireOpen_later {body : State α → State α} (inside : s.heap.Later marked (body s).heap) :
    s.heap.Later marked (s.requireOpen c body).heap := by
  unfold requireOpen
  split
  · exact .refl _
  · exact inside

theorem submit_later (c : CallId) (args : Submission α) (clock : ℚ) (s : State α) :
    s.heap.Later marked (s.submit cfg c args clock).heap := by
  rcases submit_cases cfg c args clock s with ⟨failure, refused⟩ | ⟨envelope, _, _, accepted⟩
  · rw [refused]
    exact .refl _
  · generalize s.submit cfg c args clock = after at accepted
    cases accepted with
    | staged => exact (Heap.later_finishAll _ _ _).trans (Heap.later_push _ _)
    | queued => exact Heap.later_push _ _

theorem emergencyStop_later (c : CallId) (s : State α) : s.heap.Later marked (s.emergencyStop c).heap :=
  requireOpen_later (quiesce_later s)

theorem start_later (c : CallId) (op : Operation α) : s.heap.Later marked (s.start cfg c op).heap := by
  cases op with
  | beginAutomaticTask =>
    simp only [start, beginAutomaticTask]
    split <;> exact .refl _
  | finishAutomaticWork =>
    refine requireOpen_later ?_
    split
    · exact .refl _
    split
    · exact .refl _
    · exact (cancelActiveAutomaticTicket_later s).trans (clearModelQueue_later _ _)
  | submit args clock => exact submit_later c args clock s
  | acquireManual =>
    refine requireOpen_later ?_
    split
    · exact .refl _
    dsimp only
    split <;> exact quiesce_later _
  | releaseManual =>
    refine requireOpen_later ?_
    split
    · exact .refl _
    · exact cancelManual_later _
  | setDeadman active =>
    refine requireOpen_later ?_
    split
    · exact .refl _
    · cases active with
      | true => exact .refl _
      | false => exact cancelManual_later _
  | hold => exact requireOpen_later (quiesce_later s)
  | cancelAutomaticWork =>
    refine requireOpen_later ?_
    have cleared : s.heap.Later marked
        ({ s with heap := s.heap.setEvent s.modelTaskCancel }.clearModelQueue .cleared).heap :=
      (Heap.later_setEvent _ _).trans (Heap.later_finishAll _ _ _)
    split
    · exact .refl _
    dsimp only
    split <;> split
    · exact cleared.trans (Heap.later_cancelIf _ _ _)
    · exact cleared.trans (Heap.later_cancelIf _ _ _)
    · exact cleared
    · exact cleared
  | emergencyStop => exact emergencyStop_later c s
  | resetEmergencyStop =>
    refine requireOpen_later ?_
    split <;> exact .refl _
  | close =>
    simp only [start, close]
    split
    · exact .refl _
    · exact quiesce_later s

theorem proceed_later (next : s.proceed c = some t) : s.heap.Later marked t.heap := by
  unfold proceed at next
  split at next <;> try (obtain rfl := Option.some.inj next)
  · rename_i token _
    refine requireOpen_later ?_
    have signalled : s.heap.Later marked (s.heap.setEvent s.modelTaskCancel) :=
      Heap.later_setEvent _ _
    have registered := (signalled.trans
      (cancelActiveAutomatic_later { s with heap := s.heap.setEvent s.modelTaskCancel })).trans
        (clearModelQueue_later .cleared _)
    split
    · exact .refl _
    · cases token with
      | some => exact registered
      | none => exact registered.trans (Heap.later_newEvent _)
  · split at next <;> cases next
    exact .refl _
  · split at next <;> cases next
    unfold joinHold
    split <;> exact .refl _
  · exact quiesce_later s
  · exact .refl _
  · unfold detachTask
    dsimp only
    split <;> exact .refl _
  · exact .refl _
  · exact .refl _
  · exact .refl _
  · exact .refl _
  · exact .refl _
  · refine requireOpen_later ?_
    split <;> exact .refl _
  · split at next <;> cases next
    exact .refl _
  · cases next

theorem dispatch_later (clock : ℚ) {k : TicketId} (picked : marked k) (s : State α) :
    s.heap.Later marked (s.dispatch clock k).heap := by
  have began : s.heap.Later marked (s.heap.update k fun ticket => ticket.markRunning.2) :=
    Heap.later_update _ _ CommandTicket.later_markRunning fun _ _ => .inr picked
  unfold dispatch
  split
  · exact .refl _
  split
  · exact .refl _
  dsimp only
  split
  · exact began.trans (Heap.later_finish _ _ _ _ _)
  split
  · exact began.trans (Heap.later_finish _ _ _ _ _)
  · exact began

/-- The worker's section picks the ticket `k`. -/
def Picks (s : State α) (l : Label α) (k : TicketId) : Prop :=
  ∃ clock, l = .take clock ∧ s.worker = .looping ∧ s.closed = false ∧ s.nextTicket.1 = some k

theorem take_later (next : step cfg s (.take clock) = some t) : s.heap.Later (Picks s (.take clock)) t.heap := by
  have drained : s.nextTicket.2.heap = s.heap := by
    rcases nextTicket_cases s with taken | ⟨_, _, _, _, _, taken⟩ | ⟨_, _, _, _, _, taken⟩ <;> rw [taken]
  obtain ⟨idle, ⟨_, rfl⟩ | ⟨k, isOpen, popped, rfl⟩⟩ := take_cases next <;> rw [← drained]
  · exact .refl _
  · refine dispatch_later clock ?_ s.nextTicket.2
    exact ⟨clock, rfl, idle, isOpen, popped⟩

theorem watch_later (next : step cfg s (.watch c clock) = some t) : s.heap.Later marked t.heap := by
  obtain ⟨_, _, ⟨_, rfl⟩ | ⟨_, _, _, rfl⟩⟩ := watch_cases next
  · exact .refl _
  · exact cancelManual_later _

/-- **No move undoes what happened to a ticket or an event.** -/
theorem heap_later (next : step cfg s l = some t) : s.heap.Later (Picks s l) t.heap := by
  cases l with
  | newEvent =>
    cases next
    exact Heap.later_newEvent s.heap
  | setEvent token =>
    cases next
    exact Heap.later_setEvent s.heap (some token)
  | start c op =>
    simp only [step] at next
    split at next <;> cases next
    exact start_later c op
  | proceed => exact proceed_later next
  | take => exact take_later next
  | alarm c =>
    simp only [step] at next
    split at next
    · rename_i k settlement _
      split at next <;> cases next
      exact emergencyStop_later c { s with worker := .stopping k settlement c }
    · cases next
  | finish =>
    simp only [step] at next
    split at next <;> cases next
    exact Heap.later_finish _ _ _ _ _
  | release =>
    simp only [step] at next
    split at next <;> cases next <;> exact .refl _
  | watch => exact watch_later next
  | _ => exact (book_frame rfl next).heap ▸ .refl _

end EmbodiRun.Arbiter
