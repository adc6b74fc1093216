/-
# Arbiter.Outcomes -- what the worker makes of the ways in which a command ends

The scheduler keeps every `BaseException` of the driver in its result, and `_raise_io_failure` raises
it again in the arbiter's worker, where only an `Exception` is caught.

* `fail_closed`: **the worker stays alive, its tickets end, and none ends FAILED without an emergency
  stop that has latched, or EXECUTED without a completed transaction, as long as what is raised is an
  `Exception`, and the arbiter is open where the worker calls for the stop**.
-/
import EmbodiRun.Arbiter.InPort
import EmbodiRun.Arbiter.Tickets
import EmbodiRun.Transition.History

namespace EmbodiRun.Arbiter

open Io Transition List State

variable {α : Type} {cfg : Config}

/-! ## What the port delivers -/

/-- What is in `IOResult.error`: an `Exception`, one whose `str` raises, or another `BaseException`.
The worker's handler is left early by the second, and not entered by the third. -/
inductive Stored where
  | exception | mute | base
  deriving DecidableEq

/-- `_raise_io_failure`, and the return after it. -/
def raiseIoFailure (result : IOResult) (stored : Stored) : ExecuteReply :=
  match result.status with
  | .unknown => .raised (Failure.ioUnknown result).text (some result)
  | .failed => match result.error with
      | none => .returned (some result)
      | some text => if stored = .exception then .raised text (some result) else .exits
  | .rejected =>
    if result.operation = .stop then .returned (some result)
    else .raised (Failure.ioOperation result).text (some result)
  | .expired => .raised (Failure.ioOperation result).text (some result)
  | .completed | .cancelled => .returned (some result)

/-- What `RobotAdapterCommandPort.execute` does: it has a result of the scheduler, or an `Exception` was
raised before there was one. -/
inductive Delivered : ExecuteReply → Prop
  | mapped (result stored) : Delivered (raiseIoFailure result stored)
  | raised (text) : Delivered (.raised text none)

def ExecuteReply.Completed (reply : ExecuteReply) : Prop :=
  ∃ result : IOResult, reply = .returned (some result) ∧ result.status = .completed

/-! ## What happened to a ticket -/

inductive Mark where
  /-- The worker stops for a ticket that was RUNNING: the authority is latched, and the port's stop begins. -/
  | stopped (k : TicketId)
  /-- The worker has read how the port ended, and the ticket's cancel event. -/
  | settled (k : TicketId) (reply : ExecuteReply) (cancelled : Bool)

def note (s : State α) (l : Label α) (t : State α) (marks : List Mark) : List Mark :=
  match l, s.worker with
  | .alarm c, .alarmed k _ =>
    if t.authority = .estopLatched ∧ t.calls c = .stopping ∧ s.heap.status? k = some .running then
      .stopped k :: marks
    else marks
  | .settle, .replied k reply => .settled k reply (s.heap.cancelled k) :: marks
  | _, _ => marks

def Label.Served : Label α → Prop
  | .executeReplies reply => Delivered reply
  | _ => True

/-- Nothing but an `Exception` is raised where the worker can be hit by it, and the arbiter is open where
the worker calls for an emergency stop. -/
def Survives (s : State α) : Label α → Prop
  | .executeReplies reply => reply ≠ .exits
  | .emit (.escapes _) => s.closed = true ∧ ∃ k status, s.worker = .early k status
  | .stopReplies c reply => reply = .exits → ∀ k settlement, s.worker ≠ .stopping k settlement c
  | .alarm _ => s.closed = false
  | _ => True

/-- A ticket that the port has seen ends or is in the worker's hands; it fails only after an emergency
stop, and is EXECUTED only after its transaction has completed with its cancel event clear. -/
structure Answered (s : State α) (marks : List Mark) (k : TicketId) (b : CommandTicket α) : Prop where
  kept : b.status.terminal = true ∨ s.worker.ticket? = some k
  failed : b.status = .failed → .stopped k ∈ marks
  executed : b.status = .executed → ∃ reply, reply.Completed ∧ .settled k reply false ∈ marks

structure FailClosed (u : State α × List Mark) : Prop where
  alive : (∀ k, u.1.worker ≠ .unwinding k) ∧ (u.1.worker = .ended → u.1.closed = true)
  answered : ∀ k ∈ u.1.portCalls, ∀ b, u.1.heap.tickets[k]? = some b → Answered u.1 u.2 k b

/-! ## The worker's stations -/

section

variable {s t : State α} {l : Label α} {marks : List Mark} {k : TicketId}

def Settlement.Backed (settlement : Settlement) (k : TicketId) (marks : List Mark) : Prop :=
  (settlement.status = .failed → .stopped k ∈ marks) ∧
    (settlement.status = .executed → ∃ reply : ExecuteReply, reply.Completed ∧ .settled k reply false ∈ marks)

def Worker.Backed (marks : List Mark) : Worker → Prop
  | .replied _ reply => Delivered reply ∧ reply ≠ .exits
  | .recording _ settlement _ stop =>
    settlement.status ≠ .executed ∧ (stop = false → settlement.status ≠ .failed)
  | .alarmed _ settlement => settlement.status ≠ .executed
  | .stopping k settlement _ | .emitting k settlement | .finishing k settlement => settlement.Backed k marks
  | .unwinding _ => False
  | _ => True

def Worker.left : Worker → Nat
  | .dispatching _ => 9
  | .executing _ => 8
  | .replied _ _ => 7
  | .recording _ _ _ _ => 6
  | .alarmed _ _ => 5
  | .stopping _ _ _ => 4
  | .emitting _ _ => 3
  | .finishing _ _ => 2
  | .releasing _ => 1
  | .looping | .early _ _ | .unwinding _ | .ended => 0

theorem Settlement.Backed.mono {settlement : Settlement} {more : List Mark} (backed : settlement.Backed k marks)
    (kept : ∀ mark ∈ marks, mark ∈ more) : settlement.Backed k more := by
  refine ⟨fun failed => kept _ (backed.1 failed), fun executed => ?_⟩
  obtain ⟨reply, completed, settled⟩ := backed.2 executed
  exact ⟨reply, completed, kept _ settled⟩

theorem mem_note {mark : Mark} (here : mark ∈ marks) : mark ∈ note s l t marks := by
  unfold note
  split
  · split
    · exact mem_cons_of_mem _ here
    · exact here
  · exact mem_cons_of_mem _ here
  · exact here

theorem mapPortResult_executed {result} {cancelled}
    (executed : (mapPortResult (some result) cancelled).1 = .executed) :
    result.status = .completed ∧ cancelled = false := by
  unfold mapPortResult at executed
  cases status : result.status <;> cases cancelled <;> simp only [status] at executed
  all_goals first
    | exact ⟨rfl, rfl⟩
    | cases executed
    | (split at executed <;> cases executed)

theorem Delivered.result {result : Option IOResult} (delivered : Delivered (.returned result)) :
    ∃ r, result = some r := by
  generalize same : ExecuteReply.returned result = reply at delivered
  cases delivered with
  | mapped r =>
    unfold raiseIoFailure at same
    split at same
    · cases same
    · split at same
      · exact ⟨r, ExecuteReply.returned.inj same⟩
      · split at same <;> cases same
    · split at same
      · exact ⟨r, ExecuteReply.returned.inj same⟩
      · cases same
    · cases same
    · exact ⟨r, ExecuteReply.returned.inj same⟩
    · exact ⟨r, ExecuteReply.returned.inj same⟩
  | raised => cases same

theorem settle_backed {reply} (delivered : Delivered reply) (survived : reply ≠ .exits)
    (cancelled : Bool) : (settle k cancelled reply).Backed (.settled k reply cancelled :: marks) := by
  cases reply with
  | returned result =>
    obtain ⟨r, rfl⟩ := delivered.result
    unfold settle
    dsimp only
    split
    · rename_i failed
      refine ⟨?_, nofun⟩
      show (mapPortResult (some r) cancelled).1 ≠ .executed
      rw [failed]
      decide
    · rename_i other
      refine ⟨fun failed => absurd failed other, fun executed => ?_⟩
      obtain ⟨completed, rfl⟩ := mapPortResult_executed executed
      exact ⟨_, ⟨r, rfl, completed⟩, mem_cons_self⟩
  | raised =>
    cases cancelled with
    | true =>
      refine ⟨?_, fun _ => ?_⟩
      · show TerminalStatus.cancelled ≠ .executed
        decide
      · show TerminalStatus.cancelled ≠ .failed
        decide
    | false =>
      refine ⟨?_, nofun⟩
      show TerminalStatus.failed ≠ .executed
      decide
  | exits => exact absurd rfl survived

end

/-! ## Runs -/

variable {s t : State α} {l : Label α} {marks : List Mark} {k : TicketId} {u v : State α × List Mark}

/-- A call of `emergency_stop` that a `BaseException` has not hit. -/
def Call.ofAlarm : Call → Bool
  | .stopping | .stopFailed _ | .stopEnding _ | .returned _ | .raised _ => true
  | _ => false

theorem Call.Moves.ofAlarm {generation : Nat} {before after : Call} (edge : before.Moves generation after)
    (alarm : before.ofAlarm = true) : after.ofAlarm = true ∨ before = .stopping ∧ after = .stopExiting := by
  cases edge with
  | fails | stopFails | stopSucceeds | stopRecords | stopEnds => exact .inl rfl
  | stopExits => exact .inr ⟨rfl, rfl⟩
  | _ => cases alarm

structure Good (cfg : Config) (u : State α × List Mark) : Prop where
  reached : Reachable (step cfg) init u.1
  backed : u.1.worker.Backed u.2
  ended : u.1.worker = .ended → u.1.closed = true
  stops : ∀ k settlement c, u.1.worker = .stopping k settlement c → (u.1.calls c).ofAlarm = true
  answered : ∀ k ∈ u.1.portCalls, ∀ b, u.1.heap.tickets[k]? = some b → Answered u.1 u.2 k b

theorem good_init : Good cfg ((init : State α), []) :=
  ⟨.refl _, trivial, fun ended => (nomatch ended), fun _ _ _ stopping => (nomatch stopping),
    fun _ ported => absurd ported not_mem_nil⟩

theorem Good.failClosed (good : Good cfg u) : FailClosed u := by
  refine ⟨⟨fun k unwinding => ?_, good.ended⟩, good.answered⟩
  have backed := good.backed
  rw [unwinding] at backed
  exact backed
variable {b : CommandTicket α} {worker : Worker} {c : CallId} {settlement : Settlement}

theorem core_of_ticket {heap : Heap α} (found : heap.tickets[k]? = some b) : heap.core k = some b.core := by
  rw [Heap.core, found]
  rfl

theorem Custody.held_status (custody : Custody cfg s) (found : s.heap.tickets[k]? = some b)
    (held : s.worker.ticket? = some k) :
    (b.status = .running ∧ s.worker ≠ .releasing k) ∨ (s.worker = .releasing k ∧ b.status.terminal = true) := by
  obtain ⟨c, there, status⟩ := custody.held k held
  obtain rfl := Option.some.inj ((core_of_ticket found).symm.trans there)
  exact status

theorem Answered.ended {a b : CommandTicket α} (answered : Answered s marks k b) (later : b.Later a)
    (terminal : b.status.terminal = true) : Answered t (note s l t marks) k a := by
  have same := (later.ended terminal).1
  refine ⟨.inl (by rw [same]; exact terminal), fun failed => ?_, fun executed => ?_⟩
  · exact mem_note (answered.failed (same.symm.trans failed))
  · obtain ⟨reply, completed, settled⟩ := answered.executed (same.symm.trans executed)
    exact ⟨reply, completed, mem_note settled⟩

theorem answered_quiet (good : Good cfg (s, marks)) (quiet : l.handles = false) (next : step cfg s l = some t) :
    ∀ j ∈ t.portCalls, ∀ a, t.heap.tickets[j]? = some a → Answered t (note s l t marks) j a := by
  intro j ported a found
  obtain ⟨worker, same⟩ := worker_quiet quiet next
  rw [same] at ported
  have custody := custody_reachable good.reached
  obtain ⟨c, there, _⟩ := custody.ported j ported
  obtain ⟨b, before, _⟩ := Option.map_eq_some_iff.mp there
  obtain ⟨a', after, later, _⟩ := (heap_later next).tickets j b before
  obtain rfl := Option.some.inj (found.symm.trans after)
  have answered := good.answered j ported b before
  by_cases terminal : b.status.terminal = true
  · exact answered.ended later terminal
  · have held : t.worker.ticket? = some j := worker.ticket.trans (answered.kept.resolve_left terminal)
    rcases (custody_reachable (good.reached.tail next)).held_status found held with ⟨running, _⟩ | ⟨letGo, _⟩
    · refine ⟨.inr held, fun failed => ?_, fun executed => ?_⟩
      · cases running.symm.trans failed
      · cases running.symm.trans executed
    · rcases custody.held_status before (answered.kept.resolve_left terminal) with ⟨_, other⟩ | ⟨_, ended⟩
      · exact absurd ((worker.releasing j).mp letGo) other
      · exact absurd ended terminal

theorem Worker.Backed.mono {more : List Mark} (backed : worker.Backed marks)
    (kept : ∀ mark ∈ marks, mark ∈ more) : worker.Backed more := by
  cases worker with
  | stopping | emitting | finishing =>
    exact Settlement.Backed.mono backed kept
  | _ => exact backed

inductive Worked (s : State α) : Label α → Worker → Prop
  | leaves (clock : ℚ) (looping : s.worker = .looping) (closed : s.closed = true) :
      Worked s (.take clock) .ended
  | takes (clock : ℚ) (looping : s.worker = .looping) (worker : Worker)
      (hands : worker = .looping ∨ (∃ k, worker = .dispatching k) ∨ ∃ k status, worker = .early k status) :
      Worked s (.take clock) worker
  | executes (k : TicketId) (station : s.worker = .dispatching k) : Worked s .execute (.executing k)
  | replies (k : TicketId) (reply) (station : s.worker = .executing k) :
      Worked s (.executeReplies reply) (.replied k reply)
  | settles (k : TicketId) (reply) (station : s.worker = .replied k reply) :
      Worked s .settle (settle k (s.heap.cancelled k) reply)
  | alarmed (k : TicketId) (settlement text)
      (station : s.worker = .recording k settlement text true) :
      Worked s .record (.alarmed k settlement)
  | unalarmed (k : TicketId) (settlement text)
      (station : s.worker = .recording k settlement text false) :
      Worked s .record (.emitting k settlement)
  | alarms (k : TicketId) (settlement) (c : CallId) (station : s.worker = .alarmed k settlement)
      (fresh : s.calls c = .unused) : Worked s (.alarm c) (.stopping k settlement c)
  | stopped (k : TicketId) (settlement c) (station : s.worker = .stopping k settlement c) :
      Worked s .alarmOver (.emitting k settlement)
  | exits (k : TicketId) (settlement) (c : CallId) (station : s.worker = .stopping k settlement c)
      (exited : s.calls c = .exited) : Worked s .alarmOver (.unwinding k)
  | early (emission) (k : TicketId) (status) (station : s.worker = .early k status) :
      Worked s (.emit emission) .looping
  | late (text) (k : TicketId) (status) (station : s.worker = .early k status) :
      Worked s (.emit (.escapes text)) .ended
  | emitted (emission) (k : TicketId) (settlement) (station : s.worker = .emitting k settlement) :
      Worked s (.emit emission) (.finishing k settlement)
  | escapes (text) (k : TicketId) (settlement) (station : s.worker = .emitting k settlement) :
      Worked s (.emit (.escapes text)) (.unwinding k)
  | finishes (k : TicketId) (settlement) (station : s.worker = .finishing k settlement) :
      Worked s .finish (.releasing k)
  | releases (k : TicketId) (station : s.worker = .releasing k) : Worked s .release .looping
  | unwinds (k : TicketId) (station : s.worker = .unwinding k) : Worked s .release .ended

theorem worker_moves (own : l.ofWorker = true) (next : step cfg s l = some t) : Worked s l t.worker := by
  cases l with
  | take clock =>
    have looping := (take_cases next).1
    obtain ⟨closed, rfl⟩ | ⟨j, drained, popped, rfl⟩ := taken_cases next
    · exact .leaves clock looping closed
    have idle : drained.worker = .looping := by
      rcases popped.source with ⟨_, _, _, rfl⟩ | ⟨_, _, _, rfl⟩ <;> exact looping
    refine .takes clock looping _ ?_
    rcases dispatch_cases clock j drained with ⟨_, same⟩ | ⟨_, _, _, same⟩ | ⟨b, _, _, ends⟩
    · rw [same]
      exact .inl idle
    · rw [same]
      exact .inl rfl
    · generalize drained.dispatch clock j = after at ends
      cases ends with
      | withdrawn | expired => exact .inr (.inr ⟨j, _, rfl⟩)
      | begun => exact .inr (.inl ⟨j, rfl⟩)
  | execute =>
    simp only [step] at next
    split at next <;> cases next
    exact .executes _ ‹_›
  | executeReplies reply =>
    simp only [step] at next
    split at next <;> cases next
    exact .replies _ reply ‹_›
  | settle =>
    simp only [step] at next
    split at next <;> cases next
    exact .settles _ _ ‹_›
  | record =>
    simp only [step] at next
    split at next
    · rename_i j settlement text stop station
      cases next
      cases stop with
      | true => exact .alarmed j settlement text station
      | false => exact .unalarmed j settlement text station
    · cases next
  | alarm c =>
    simp only [step] at next
    split at next
    · rename_i j settlement station
      split at next <;> cases next
      have worker : ({ s with worker := .stopping j settlement c }.emergencyStop c).worker =
          .stopping j settlement c :=
        (start_sameWorker cfg c .emergencyStop (s := { s with worker := .stopping j settlement c })).worker
      rw [worker]
      exact .alarms j settlement c station ‹_›
    · cases next
  | alarmOver =>
    simp only [step, alarmOver] at next
    split at next
    · rename_i j settlement c station
      split at next <;> cases next
      · exact .stopped j settlement c station
      · exact .stopped j settlement c station
      · exact .exits j settlement c station ‹_›
    · cases next
  | emit emission =>
    simp only [step, workerEmits] at next
    split at next
    · rename_i j status station
      cases next
      cases emission with
      | quiet => exact .early .quiet j status station
      | callbackFailed text => exact .early (.callbackFailed text) j status station
      | escapes text => exact .late text j status station
    · rename_i j settlement station
      cases next
      cases emission with
      | quiet => exact .emitted .quiet j settlement station
      | callbackFailed text => exact .emitted (.callbackFailed text) j settlement station
      | escapes text => exact .escapes text j settlement station
    · cases next
  | finish =>
    simp only [step] at next
    split at next <;> cases next
    exact .finishes _ _ ‹_›
  | release =>
    simp only [step] at next
    split at next <;> cases next
    · exact .releases _ ‹_›
    · exact .unwinds _ ‹_›
  | _ => cases own

theorem stop_exits (stopping : s.calls c = .stopping) (exiting : t.calls c = .stopExiting)
    (mover : l.call? = some c) (next : step cfg s l = some t) : l = .stopReplies c .exits := by
  cases l with cases mover
  | stopReplies d reply =>
    simp only [step, stopReplies, stopping] at next
    cases next
    rw [setCall_self] at exiting
    split at exiting
    · rename_i exits
      rw [exits]
    · split at exiting <;> cases exiting
  | start | announce | portCloses => simp [step, stopping] at next
  | alarm | watch =>
    simp only [step, stopping] at next
    split at next <;> cases next
  | proceed | timeout => simp [step, proceed, timeout, stopping] at next

theorem note_alarm (marks : List Mark) (station : s.worker = .alarmed k settlement)
    (isOpen : s.closed = false) (running : s.heap.status? k = some .running)
    (next : step cfg s (.alarm c) = some t) :
    .stopped k ∈ note s (.alarm c) t marks ∧ t.worker = .stopping k settlement c ∧ t.calls c = .stopping := by
  simp only [step, station] at next
  split at next <;> cases next
  have latched := emergencyStop_latches c (s := { s with worker := .stopping k settlement c }) isOpen
  have worker := (start_sameWorker cfg c .emergencyStop (s := { s with worker := .stopping k settlement c })).worker
  have stops : ({ s with worker := .stopping k settlement c }.emergencyStop c).calls c = .stopping := by
    simp [emergencyStop, requireOpen, isOpen, setCall]
  refine ⟨?_, worker, stops⟩
  simp only [note, station]
  rw [if_pos ⟨latched, stops, running⟩]
  exact mem_cons_self

theorem Good.running (good : Good cfg (s, marks)) (held : s.worker.ticket? = some k)
    (other : s.worker ≠ .releasing k) : s.heap.status? k = some .running := by
  obtain ⟨c, there, ⟨running, _⟩ | ⟨letGo, _⟩⟩ := (custody_reachable good.reached).held k held
  · obtain ⟨b, found, rfl⟩ := Option.map_eq_some_iff.mp there
    rw [Heap.status?, found]
    exact congrArg some running
  · exact absurd letGo other

theorem backed_step (good : Good cfg (s, marks)) (served : l.Served) (survives : Survives s l)
    (next : step cfg s l = some t) : t.worker.Backed (note s l t marks) := by
  have backed := good.backed
  by_cases other : l.ofWorker = false
  · rw [(other_sameWorker other next).worker]
    exact backed.mono fun _ => mem_note
  have went := worker_moves (Bool.not_eq_false _ ▸ other) next
  generalize now : t.worker = worker at went ⊢
  cases went with
  | replies => exact ⟨served, survives⟩
  | settles j reply station =>
    simp only [station] at backed
    simp only [note, station]
    exact settle_backed backed.1 backed.2 _
  | alarmed j settlement text station =>
    simp only [station] at backed
    exact backed.1
  | unalarmed j settlement text station =>
    simp only [station] at backed
    exact ⟨fun failed => absurd failed (backed.2 rfl), fun executed => absurd executed backed.1⟩
  | alarms j settlement c station =>
    simp only [station] at backed
    have running := good.running (k := j) (by rw [station]; rfl) (by rw [station]; nofun)
    exact ⟨fun _ => (note_alarm marks station survives running next).1, fun executed => absurd executed backed⟩
  | stopped j settlement c station | emitted emission j settlement station =>
    simp only [station] at backed
    exact backed
  | exits j settlement c station exited =>
    have alarm := good.stops j settlement c station
    simp only [exited] at alarm
    cases alarm
  | escapes text j settlement station =>
    obtain ⟨_, k, status, early⟩ := survives
    cases station.symm.trans early
  | takes clock looping worker hands =>
    rcases hands with rfl | ⟨j, rfl⟩ | ⟨j, status, rfl⟩ <;> trivial
  | _ => trivial

theorem ended_step (good : Good cfg (s, marks)) (survives : Survives s l) (next : step cfg s l = some t)
    (ended : t.worker = .ended) : t.closed = true := by
  have backed := good.backed
  refine closed_stays next ?_
  by_cases other : l.ofWorker = false
  · exact good.ended ((other_sameWorker other next).worker.symm.trans ended)
  have went := worker_moves (Bool.not_eq_false _ ▸ other) next
  rw [ended] at went
  generalize now : Worker.ended = worker at went
  cases went with
  | leaves clock looping closed => exact closed
  | takes clock looping worker hands =>
    subst now
    rcases hands with same | ⟨j, same⟩ | ⟨j, status, same⟩ <;> cases same
  | settles j reply =>
    have held := (settle_ticket j (s.heap.cancelled j) reply).1
    rw [← now] at held
    cases held
  | late => exact survives.1
  | unwinds j station =>
    simp only [station] at backed
    exact backed.elim
  | _ => cases now

theorem stops_step (good : Good cfg (s, marks)) (survives : Survives s l)
    (next : step cfg s l = some t) (station : t.worker = .stopping k settlement c) :
    (t.calls c).ofAlarm = true := by
  by_cases other : l.ofWorker = false
  · have before := (other_sameWorker other next).worker.symm.trans station
    have alarm := good.stops k settlement c before
    rcases call_step next c with same | ⟨mover, edge⟩
    · rw [same]
      exact alarm
    · refine (edge.ofAlarm alarm).resolve_right ?_
      rintro ⟨stopping, exiting⟩
      have exits := stop_exits stopping exiting mover next
      subst exits
      exact survives rfl k settlement before
  have went := worker_moves (Bool.not_eq_false _ ▸ other) next
  rw [station] at went
  generalize now : Worker.stopping k settlement c = worker at went
  cases went with
  | alarms j before d from_ =>
    obtain ⟨_, _, rfl⟩ := Worker.stopping.inj now
    have running := good.running (k := j) (by rw [from_]; rfl) (by rw [from_]; nofun)
    rw [(note_alarm marks from_ survives running next).2.2]
    rfl
  | takes clock looping worker hands =>
    subst now
    rcases hands with same | ⟨j, same⟩ | ⟨j, status, same⟩ <;> cases same
  | settles j reply =>
    exfalso
    revert now
    cases reply with
    | returned =>
      unfold settle
      dsimp only
      split <;> nofun
    | raised | exits => nofun
  | _ => cases now

theorem answered_step (good : Good cfg (s, marks)) (next : step cfg s l = some t) :
    ∀ j ∈ t.portCalls, ∀ a, t.heap.tickets[j]? = some a → Answered t (note s l t marks) j a := by
  have custody := custody_reachable good.reached
  by_cases quiet : l.handles = false
  · exact answered_quiet good quiet next
  have backed := good.backed
  cases l with
  | take =>
    intro j ported a found
    obtain ⟨looping, portCalls, _⟩ := take_taken custody (closed_idle good.reached) next
    rw [portCalls] at ported
    obtain ⟨c, there, _⟩ := custody.ported j ported
    obtain ⟨b, before, _⟩ := Option.map_eq_some_iff.mp there
    obtain ⟨a', after, later, _⟩ := (heap_later next).tickets j b before
    obtain rfl := Option.some.inj (found.symm.trans after)
    have answered := good.answered j ported b before
    refine answered.ended later (answered.kept.resolve_right ?_)
    show s.worker.ticket? ≠ some j
    rw [looping]
    rintro ⟨⟩
  | execute =>
    simp only [step] at next
    split at next
    · rename_i k station
      cases next
      intro j ported a found
      have held : s.worker.ticket? = some k := by rw [station]; rfl
      by_cases same : j = k
      · subst same
        rcases custody.held_status found held with ⟨running, _⟩ | ⟨letGo, _⟩
        · exact ⟨.inr rfl, fun failed => (by cases running.symm.trans failed),
            fun executed => (by cases running.symm.trans executed)⟩
        · cases station.symm.trans letGo
      · have before := (List.mem_append.mp ported).resolve_right fun last => same (List.mem_singleton.mp last)
        have answered := good.answered j before a found
        refine ⟨.inl (answered.kept.resolve_right fun hand => same ?_), answered.failed, answered.executed⟩
        exact Option.some.inj (hand.symm.trans held)
    · cases next
  | finish =>
    simp only [step] at next
    split at next
    · rename_i k settlement station
      cases next
      intro j ported a found
      have held : s.worker.ticket? = some k := by rw [station]; rfl
      simp only [station] at backed
      rw [Heap.finish_ticket] at found
      by_cases same : k = j
      · subst same
        rw [if_pos rfl] at found
        obtain ⟨b, before, rfl⟩ := Option.map_eq_some_iff.mp found
        rcases custody.held_status before held with ⟨running, _⟩ | ⟨letGo, _⟩
        · have status : (b.finish settlement.status settlement.error settlement.result).status = settlement.status.1 := by
            simp [CommandTicket.finish, running, CommandStatus.terminal]
          refine ⟨.inr rfl, fun failed => backed.1 ?_, fun executed => backed.2 ?_⟩
          · exact Subtype.ext (status.symm.trans failed)
          · exact Subtype.ext (status.symm.trans executed)
        · cases station.symm.trans letGo
      · rw [if_neg same] at found
        have answered := good.answered j ported a found
        refine ⟨.inl (answered.kept.resolve_right fun hand => same ?_), answered.failed, answered.executed⟩
        exact Option.some.inj (held.symm.trans hand)
    · cases next
  | release =>
    simp only [step] at next
    split at next
    · rename_i k station
      cases next
      intro j ported a found
      have answered := good.answered j ported a found
      refine ⟨.inl (answered.kept.elim id fun hand => ?_), answered.failed, answered.executed⟩
      rcases custody.held_status found hand with ⟨_, other⟩ | ⟨_, terminal⟩
      · have held : s.worker.ticket? = some k := by rw [station]; rfl
        rw [Option.some.inj (hand.symm.trans held)] at other
        exact absurd station other
      · exact terminal
    · rename_i k station
      simp only [station] at backed
      exact backed.elim
    · cases next
  | _ => exact absurd rfl quiet

theorem good_step (served : l.Served) (survives : Survives u.1 l) (good : Good cfg u)
    (next : noted (step cfg) note u l = some v) : Good cfg v := by
  obtain ⟨s, marks⟩ := u
  obtain ⟨t, after⟩ := v
  obtain ⟨moved, record⟩ := noted_eq_some.mp next
  obtain rfl : after = note s l t marks := record
  exact ⟨good.reached.tail moved, backed_step good served survives moved, ended_step good survives moved,
    fun _ _ _ => stops_step good survives moved, answered_step good moved⟩

theorem settle_left (reply : ExecuteReply) (cancelled : Bool) : (settle k cancelled reply).left ≤ 6 := by
  cases reply with
  | returned =>
    unfold settle
    dsimp only
    split
    · exact Nat.le_refl 6
    · exact Nat.le_add_right 3 3
  | raised => exact Nat.le_refl 6
  | exits => exact Nat.zero_le 6

theorem terminal_stays (next : step cfg s l = some t) (terminal : (s.heap.status? k).any (·.terminal) = true) :
    (t.heap.status? k).any (·.terminal) = true := by
  unfold Heap.status? at terminal ⊢
  cases found : s.heap.tickets[k]? with
  | none =>
    rw [found] at terminal
    cases terminal
  | some b =>
    rw [found] at terminal
    obtain ⟨a, after, later, _⟩ := (heap_later next).tickets k b found
    rw [after]
    show a.status.terminal = true
    rw [(later.ended terminal).1]
    exact terminal

theorem left_step (marks : List Mark) (good : Good cfg (s, marks)) (after : Good cfg (t, note s l t marks))
    (next : step cfg s l = some t)
    (held : s.worker.ticket? = some k) :
    (t.heap.status? k).any (·.terminal) = true ∨
      t.worker.ticket? = some k ∧ t.worker.left + (if l.ofWorker then 1 else 0) ≤ s.worker.left := by
  by_cases own : l.ofWorker = true
  · rw [if_pos own]
    have backed := after.backed
    have went := worker_moves own next
    dsimp only at backed
    generalize t.worker = worker at went backed
    cases went with
    | leaves clock looping | takes clock looping =>
      rw [looping] at held
      cases held
    | settles j reply station =>
      rw [station] at held ⊢
      obtain rfl := Option.some.inj held
      exact .inr ⟨(settle_ticket j _ reply).1, Nat.succ_le_succ (settle_left reply _)⟩
    | releases j station =>
      obtain ⟨b, there, ⟨_, other⟩ | ⟨_, terminal⟩⟩ := (custody_reachable good.reached).held k held
      · rw [station] at held other
        cases held
        exact absurd rfl other
      · obtain ⟨ticket, found, rfl⟩ := Option.map_eq_some_iff.mp there
        refine .inl (terminal_stays next ?_)
        rw [Heap.status?, found]
        exact terminal
    | exits => exact backed.elim
    | escapes => exact backed.elim
    | early emission j status station | late text j status station =>
      rw [station] at held
      cases held
    | unwinds j station =>
      have before := good.backed
      simp only [station] at before
      exact before.elim
    | executes j station | replies j reply station | alarmed j settlement text station
    | unalarmed j settlement text station | alarms j settlement c station fresh | stopped j settlement c station
    | emitted emission j settlement station | finishes j settlement station =>
      rw [station] at held ⊢
      exact .inr ⟨held, by simp [Worker.left]⟩
  · have same := (other_sameWorker (Bool.not_eq_true _ ▸ own) next).worker
    rw [same, if_neg own]
    exact .inr ⟨held, Nat.le_refl _⟩

theorem left_run {more} (good : Good cfg u)
    (along : Along (noted (step cfg) note) (fun u l => l.Served ∧ Survives u.1 l) u more)
    (ran : run (noted (step cfg) note) u more = some v) (held : u.1.worker.ticket? = some k) :
    (v.1.heap.status? k).any (·.terminal) = true ∨
      v.1.worker.ticket? = some k ∧ v.1.worker.left + more.countP (·.ofWorker) ≤ u.1.worker.left := by
  induction more generalizing u with
  | nil =>
    cases ran
    exact .inr ⟨held, Nat.le_refl _⟩
  | cons l more ih =>
    obtain ⟨w, first, rest⟩ := run_cons_eq_some.mp ran
    have after := good_step along.1.1 along.1.2 good first
    obtain ⟨moved, record⟩ := noted_eq_some.mp first
    obtain ⟨t, marks⟩ := w
    obtain rfl : marks = note u.1 l t u.2 := record
    rcases left_step u.2 good after moved held with terminal | ⟨still, fewer⟩
    · refine .inl (run_invariant (I := fun w => (w.1.heap.status? k).any (·.terminal) = true) ?_ terminal rest)
      intro s l t terminal next
      exact terminal_stays (noted_eq_some.mp next).1 terminal
    · refine (ih after (along.2 _ first) rest still).imp_right fun ⟨held, count⟩ => ⟨held, ?_⟩
      have count : v.1.worker.left + more.countP (·.ofWorker) ≤ t.worker.left := count
      rw [countP_cons]
      omega

theorem Worker.left_le (worker : Worker) : worker.left ≤ 9 := by
  cases worker <;> simp [Worker.left]

theorem left_pos (backed : worker.Backed marks) (held : worker.ticket? = some k) : 0 < worker.left := by
  cases worker with
  | looping | early | ended => cases held
  | unwinding => exact backed.elim
  | _ => exact Nat.succ_pos _

/-- As long as nothing but an `Exception` hits the worker, and the arbiter is open when it calls for an
emergency stop, its tickets end within nine of its moves, and truly. -/
theorem fail_closed {ls : List (Label α)} (ran : run (noted (step cfg) note) (init, []) ls = some u)
    (served : ∀ l ∈ ls, l.Served) (survives : Along (step cfg) Survives init ls) :
    (∀ before after v, ls = before ++ after → run (noted (step cfg) note) (init, []) before = some v → FailClosed v) ∧
    ∀ before after v k, ls = before ++ after → run (noted (step cfg) note) (init, []) before = some v →
      v.1.worker.ticket? = some k → 9 ≤ after.countP (·.ofWorker) →
      (u.1.heap.status? k).any (·.terminal) = true := by
  have along : Along (noted (step cfg) note) (fun u l => l.Served ∧ Survives u.1 l) (init, []) ls :=
    along_and (along_of_mem served) (along_noted.mpr survives)
  have kept (before after : List (Label α)) (v : State α × List Mark) (split : ls = before ++ after)
      (reached : run (noted (step cfg) note) (init, []) before = some v) :
      Good cfg v ∧ Along (noted (step cfg) note) (fun u l => l.Served ∧ Survives u.1 l) v after ∧
        run (noted (step cfg) note) v after = some u := by
    subst split
    obtain ⟨first, rest⟩ := (along_append reached).mp along
    obtain ⟨w, here, later⟩ := run_append.mp ran
    obtain rfl := Option.some.inj (here.symm.trans reached)
    exact ⟨run_induction (fun _ _ _ met good next => good_step met.1 met.2 good next) first good_init reached,
      rest, later⟩
  refine ⟨fun before after v split reached => (kept before after v split reached).1.failClosed, ?_⟩
  intro before after v k split reached held enough
  obtain ⟨good, rest, later⟩ := kept before after v split reached
  rcases left_run good rest later held with terminal | ⟨still, fewer⟩
  · exact terminal
  · have last := run_induction (fun _ _ _ met good next => good_step met.1 met.2 good next) rest good later
    have some_ := left_pos last.backed still
    have most := v.1.worker.left_le
    omega

def raisedResult (text : String) : IOResult := { operation := .execute, status := .failed, error := some text }

def failing : List (Label Unit) :=
  [.start 0 (.submit { action := (), source := .model, wait := false } 0), .take 0, .execute,
    .executeReplies (raiseIoFailure (raisedResult "bus error") .exception), .settle, .record, .alarm 1,
    .stopReplies 1 (.returned none), .proceed 1, .alarmOver, .emit .quiet, .finish, .release]

/-- A command fails, and the emergency stop comes before its end. -/
theorem fail_closed_at_failure : ∃ u : State Unit × List Mark,
    run (noted (step Config.two) note) (init, []) failing = some u ∧
      u.1.heap.status? 0 = some .failed ∧ u.1.authority = .estopLatched ∧ FailClosed u := by
  obtain ⟨u, ran, failed, latched⟩ : ∃ u : State Unit × List Mark,
      run (noted (step Config.two) note) (init, []) failing = some u ∧
        u.1.heap.status? 0 = some .failed ∧ u.1.authority = .estopLatched := ⟨_, rfl, rfl, rfl⟩
  have served : ∀ l ∈ failing, l.Served := by
    have port : Delivered (raiseIoFailure (raisedResult "bus error") .exception) := .mapped _ _
    simp only [failing, forall_mem_cons, Label.Served, port, not_mem_nil, false_implies, implies_true, and_self]
  have survives : Along (step Config.two) Survives init failing := by
    refine along_cons trivial rfl <| along_cons trivial rfl <| along_cons trivial rfl <|
      along_cons ?_ rfl <| along_cons trivial rfl <| along_cons trivial rfl <| along_cons rfl rfl <|
      along_cons ?_ rfl <| along_cons trivial rfl <| along_cons trivial rfl <| along_cons trivial rfl <|
      along_cons trivial rfl <| along_cons trivial rfl trivial
    · exact fun exits => nomatch exits
    · exact fun exits => nomatch exits
  exact ⟨u, ran, failed, latched, (fail_closed ran served survives).1 failing [] u (append_nil failing).symm ran⟩

/-- The driver raises `SystemExit`: the worker has ended, the command is RUNNING for good, and nothing was
stopped. -/
theorem worker_dies : ∃ u : State Unit × List Mark, run (noted (step Config.two) note) (init, [])
      [.start 0 (.submit { action := (), source := .model } 0), .announce 0 .quiet, .take 0, .execute,
        .executeReplies (raiseIoFailure (raisedResult "1") .base), .settle, .release] = some u ∧
      Delivered (raiseIoFailure (raisedResult "1") .base) ∧
      u.1.worker = .ended ∧ u.1.closed = false ∧ u.1.heap.status? 0 = some .running ∧
      u.1.calls 0 = .waiting 0 false ∧ u.1.authority = .model ∧ ¬ FailClosed u := by
  refine ⟨_, rfl, .mapped _ _, rfl, rfl, rfl, rfl, rfl, fun closed => ?_⟩
  cases closed.alive.2 rfl

end EmbodiRun.Arbiter
