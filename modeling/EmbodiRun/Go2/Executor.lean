/-
# Go2.Executor -- one motion lease at a time, and stops that end it

A request holds `_lifecycle_lock` from its first check to its answer.  A motion starts a worker, which
reads its stop event inside `_command_lock` before each Move; a stop sets the event, joins the worker for
a bounded time, and sends StopMove inside `_command_lock`.

* `no_motion_after_stop`: **one worker is alive; after a stop, a close or a posture there is no Move;
  between the event and StopMove there is at most the Move that was past its check**.
-/
import EmbodiRun.Transition.Lock
import EmbodiRun.Transition.Machine

namespace EmbodiRun.Go2.Executor

open Function (update update_of_ne update_self)
open Transition

inductive Request where
  | motion
  /-- `update_move`. -/
  | update
  | posture
  | stop
  | close
  deriving DecidableEq

/-- Who calls `_cancel_and_stop_locked`. -/
inductive Why where
  | posture
  | stop
  | close
  deriving DecidableEq

inductive Answer where
  | accepted (id : Nat)
  | refused
  /-- `worker_joined`, and whether the SDK's code was zero. -/
  | stopped (joined ok : Bool)
  | posed
  | closed
  /-- An error after the checks. -/
  | failed
  deriving DecidableEq

def Answer.quiets : Answer → Bool
  | .stopped _ _ | .posed | .closed => true
  | _ => false

inductive Stage where
  | idle
  /-- `_lifecycle_lock` is next. -/
  | locking (request : Request)
  /-- `_require_not_closing` is next. -/
  | checking (request : Request)
  /-- `_require_motion_ready` is next. -/
  | readying (update : Bool)
  /-- The operator's interlock is next. -/
  | interlock
  /-- `_start_motion` is next. -/
  | starting
  /-- `_update_move` is next. -/
  | updating
  /-- `close` reads `_closed` next. -/
  | closing
  /-- The stop event is next. -/
  | cancelling (why : Why)
  /-- In `join`. -/
  | joining (why : Why) (worker : Option Nat)
  /-- `_command_lock` is next. -/
  | ordering (why : Why) (joined : Bool)
  /-- In `transport.stop`. -/
  | stopping (why : Why) (joined : Bool)
  /-- A posture needs a fresh state next. -/
  | freshening
  /-- The interlock is revoked next. -/
  | revoking (why : Why) (joined ok : Bool)
  /-- `_command_lock` is next. -/
  | posturing
  /-- In `transport.posture`. -/
  | posing
  /-- In `transport.close`. -/
  | disconnecting
  | finished (answer : Answer)
  deriving DecidableEq

open Stage

namespace Stage

/-- `_lifecycle_lock` is held. -/
def inside : Stage → Bool
  | .idle | .locking _ | .finished _ => false
  | _ => true

/-- `_command_lock` is held. -/
def commands : Stage → Bool
  | .stopping _ _ | .posing => true
  | _ => false

/-- `transport.stop` has begun. -/
def stopped : Stage → Bool
  | .stopping _ _ | .freshening | .revoking _ _ _ | .posturing | .posing | .disconnecting => true
  | _ => false

def cancelled : Stage → Bool
  | .joining _ _ | .ordering _ _ => true
  | stage => stage.stopped

def revoked : Stage → Bool
  | .posturing | .posing | .disconnecting => true
  | _ => false

theorem cancelled_of_stopped {stage : Stage} (stopped : stage.stopped = true) : stage.cancelled = true := by
  cases stage <;> first | rfl | cases stopped

theorem inside_of_cancelled {stage : Stage} (cancelled : stage.cancelled = true) : stage.inside = true := by
  cases stage <;> first | rfl | cases cancelled

end Stage

/-- Where a request stands when it has `_lifecycle_lock`. -/
def Request.entry : Request → Stage
  | .stop => .cancelling .stop
  | .close => .closing
  | request => .checking request

inductive Work where
  | unstarted
  /-- The first `require_ready` is next. -/
  | began
  /-- The loop reads the stop event next. -/
  | looping
  /-- `require_ready` and the action's own ends are next. -/
  | readying
  /-- `_command_lock` is next. -/
  | wanting
  /-- `_command_lock` is held, and the stop event is next. -/
  | deciding
  /-- The event was not set; Move is next. -/
  | passed
  | moving
  /-- In `stop_event.wait`. -/
  | waiting
  /-- The loop is over; `_command_lock` is next. -/
  | leaving
  /-- In the worker's own `transport.stop`. -/
  | stopping
  | recording
  | ended
  deriving DecidableEq

namespace Work

def alive : Work → Bool
  | .unstarted | .ended => false
  | _ => true

/-- `_command_lock` is held. -/
def commands : Work → Bool
  | .deciding | .passed | .moving | .stopping => true
  | _ => false

end Work

inductive Holder where
  | worker (n : Nat)
  | request (c : Nat)
  deriving DecidableEq

structure ActionExecutor where
  operatorMotionReady : Bool
  closing : Bool := false
  closed : Bool := false
  /-- `none` is the event of the constructor. -/
  stopEvent : Option Nat := none
  worker : Option Nat := none
  active : Option Nat := none
  created : Nat := 0
  events : Nat → Bool := fun _ => false
  works : Nat → Work := fun _ => .unstarted
  requests : Nat → Stage := fun _ => .idle
  lifecycleLock : Option Nat := none
  commandLock : Option Holder := none
  /-- The leases of the Moves that were begun, oldest first. -/
  moves : List Nat := []

namespace ActionExecutor

variable (s : ActionExecutor)

def setRequest (c : Nat) (stage : Stage) : ActionExecutor :=
  { s with requests := update s.requests c stage }

def setWork (n : Nat) (work : Work) : ActionExecutor :=
  { s with works := update s.works n work }

/-- The answer; `_lifecycle_lock` is released. -/
def answer (c : Nat) (answer : Answer) : ActionExecutor :=
  { s.setRequest c (.finished answer) with lifecycleLock := none }

def workerAlive : Option Nat → Bool
  | none => false
  | some n => (s.works n).alive

def startMotion (c : Nat) : ActionExecutor :=
  if s.workerAlive s.worker then s.answer c .refused
  else
    { s.setWork s.created .began with
      active := some s.created, stopEvent := some s.created, worker := some s.created
      created := s.created + 1 }.answer c (.accepted s.created)

/-- `_update_move`; `ok` says that the lease accepts the update. -/
def updateMove (c : Nat) (ok : Bool) : ActionExecutor :=
  match s.active with
  | none => s.answer c .refused
  | some n => if (s.works n).alive && ok then s.answer c (.accepted n) else s.answer c .refused

/-- `stop_event.set()`. -/
def setEvent : ActionExecutor :=
  match s.stopEvent with
  | none => s
  | some n => { s with events := update s.events n true }

/-- After `transport.stop`. -/
def afterStop (c : Nat) (joined ok : Bool) : Why → ActionExecutor
  | .posture => if joined && ok then s.setRequest c .freshening else s.answer c .failed
  | why => s.setRequest c (.revoking why joined ok)

def afterRevoke (c : Nat) (joined ok : Bool) : Why → ActionExecutor
  | .stop => s.answer c (.stopped joined ok)
  | .posture => s.setRequest c .posturing
  | .close => s.setRequest c .disconnecting

end ActionExecutor

open ActionExecutor

/-- The next section of request `c`. `ok` says how what it reads or calls outside turns out; an SDK call
that raises is not `ok`. -/
def go (s : ActionExecutor) (c : Nat) (ok : Bool) : Option ActionExecutor :=
  match s.requests c with
  | .locking request =>
    if s.lifecycleLock = none then some { s.setRequest c request.entry with lifecycleLock := some c }
    else none
  | .checking request => some (
      if s.closing || s.closed then s.answer c .refused
      else match request with
        | .posture => s.setRequest c .interlock
        | request => s.setRequest c (.readying (request = .update)))
  | .readying update => some (
      if s.operatorMotionReady && ok then s.setRequest c (if update then .updating else .starting)
      else s.answer c .refused)
  | .interlock => some (
      if s.operatorMotionReady then s.setRequest c (.cancelling .posture) else s.answer c .refused)
  | .starting => some (s.startMotion c)
  | .updating => some (s.updateMove c ok)
  | .closing => some (
      if s.closed then s.answer c .closed
      else { s with closing := true }.setRequest c (.cancelling .close))
  | .cancelling why => some (s.setEvent.setRequest c (.joining why s.worker))
  -- `join` returns when the worker has ended, or when its time is over
  | .joining why worker => some (s.setRequest c (.ordering why (!s.workerAlive worker)))
  | .ordering why joined =>
    if s.commandLock = none then
      some { s.setRequest c (.stopping why joined) with commandLock := some (.request c) }
    else none
  | .stopping why joined => some ({ s with commandLock := none }.afterStop c joined ok why)
  | .freshening => some (if ok then s.setRequest c (.revoking .posture true true) else s.answer c .failed)
  | .revoking why joined ok =>
    some ({ s with operatorMotionReady := false }.afterRevoke c joined ok why)
  | .posturing =>
    if s.commandLock = none then
      some { s.setRequest c .posing with commandLock := some (.request c) }
    else none
  | .posing => some ({ s with commandLock := none }.answer c (if ok then .posed else .failed))
  | .disconnecting => some ({ s with closed := true }.answer c (if ok then .closed else .failed))
  | .idle | .finished _ => none

/-- The next section of worker `n`. -/
def work (s : ActionExecutor) (n : Nat) (ok : Bool) : Option ActionExecutor :=
  match s.works n with
  | .began => some (s.setWork n (if s.operatorMotionReady && ok then .looping else .leaving))
  | .looping => some (s.setWork n (if !s.events n && ok then .readying else .leaving))
  | .readying => some (s.setWork n (if s.operatorMotionReady && ok then .wanting else .leaving))
  | .wanting =>
    if s.commandLock = none then some { s.setWork n .deciding with commandLock := some (.worker n) }
    else none
  | .deciding => some (
      if s.events n then { s.setWork n .leaving with commandLock := none } else s.setWork n .passed)
  | .passed => some { s.setWork n .moving with moves := s.moves ++ [n] }
  | .moving => some { s.setWork n (if ok then .waiting else .leaving) with commandLock := none }
  | .waiting => some (s.setWork n .looping)
  | .leaving =>
    if s.commandLock = none then some { s.setWork n .stopping with commandLock := some (.worker n) }
    else none
  | .stopping => some { s.setWork n .recording with commandLock := none }
  | .recording => some { s.setWork n .ended with active := if s.active = some n then none else s.active }
  | .unstarted | .ended => none

inductive Label where
  | request (c : Nat) (request : Request)
  | go (c : Nat) (ok : Bool)
  | work (n : Nat) (ok : Bool)
  deriving DecidableEq

def step (s : ActionExecutor) : Label → Option ActionExecutor
  | .request c request => if s.requests c = .idle then some (s.setRequest c (.locking request)) else none
  | .go c ok => go s c ok
  | .work n ok => work s n ok

/-! ## The invariant -/

structure Sealed (s : ActionExecutor) : Prop where
  events : ∀ n, (s.works n).alive = true → s.events n = true
  passed : ∀ n, s.works n ≠ .passed

structure Quiet (s : ActionExecutor) : Prop where
  revoked : s.operatorMotionReady = false
  shut : Sealed s
  starting : ∀ c, s.requests c ≠ .starting

namespace ActionExecutor

/-- Who is inside `_command_lock`. -/
def commanding (s : ActionExecutor) : Holder → Bool
  | .worker n => (s.works n).commands
  | .request c => (s.requests c).commands

end ActionExecutor

structure Inv (s : ActionExecutor) : Prop where
  guarded : Guarded inside s.lifecycleLock s.requests
  commands : Guarded id s.commandLock s.commanding
  current : ∀ n, (s.works n).alive = true → s.worker = some n ∧ s.stopEvent = some n
  cancelled : ∀ c, (s.requests c).cancelled = true → ∀ n, (s.works n).alive = true → s.events n = true
  stopped : ∀ c, (s.requests c).stopped = true → ∀ n, s.works n ≠ .passed
  revoked : ∀ c, (s.requests c).revoked = true → s.operatorMotionReady = false
  closed : s.closed = true → Quiet s
  quiet : ∀ c answer, s.requests c = .finished answer → answer.quiets = true → Quiet s

section

variable {s t : ActionExecutor} {c n : Nat} {g : Stage} {ok : Bool}

theorem commanding_work {w} (works : t.works = update s.works n w) (requests : t.requests = s.requests) :
    t.commanding = update s.commanding (.worker n) w.commands := by
  funext holder
  cases holder with
  | worker m =>
    by_cases same : m = n <;> simp [ActionExecutor.commanding, works, same]
  | request => simp [ActionExecutor.commanding, requests]

theorem commanding_request (requests : t.requests = update s.requests c g) (works : t.works = s.works) :
    t.commanding = update s.commanding (.request c) g.commands := by
  funext holder
  cases holder with
  | worker => simp [ActionExecutor.commanding, works]
  | request d =>
    by_cases same : d = c <;> simp [ActionExecutor.commanding, requests, same]

theorem passed_outside (commands : Guarded id s.commandLock s.commanding)
    (free : s.commandLock = none) (n : Nat) : s.works n ≠ .passed := by
  intro passed
  have inside : s.commanding (.worker n) = true := by rw [ActionExecutor.commanding, passed]; rfl
  rw [commands _ inside] at free
  cases free

theorem sealed_work {w} (shut : Sealed s) (works : t.works = update s.works n w)
    (events : t.events = s.events) (alive : (s.works n).alive = true)
    (passed : w = .passed → s.events n = false) : Sealed t := by
  refine ⟨fun m here => ?_, fun m here => ?_⟩ <;> rw [works] at here <;> by_cases same : m = n
  · rw [events, same]
    exact shut.events n alive
  · rw [update_of_ne same] at here
    rw [events]
    exact shut.events m here
  · rw [same, update_self] at here
    have unset := passed here
    rw [shut.events n alive] at unset
    cases unset
  · rw [update_of_ne same] at here
    exact shut.passed m here

theorem Inv.work (inv : Inv s) {w : Work} (alive : (s.works n).alive = true)
    (works : t.works = update s.works n w) (requests : t.requests = s.requests)
    (events : t.events = s.events) (lifecycle : t.lifecycleLock = s.lifecycleLock)
    (ready : t.operatorMotionReady = s.operatorMotionReady) (closed : t.closed = s.closed)
    (worker : t.worker = s.worker) (stopEvent : t.stopEvent = s.stopEvent)
    (commands : Guarded id t.commandLock t.commanding) (passed : w = .passed → s.events n = false) :
    Inv t := by
  have quiet (quiet : Quiet s) : Quiet t :=
    ⟨by rw [ready]; exact quiet.revoked, sealed_work quiet.shut works events alive passed,
      by rw [requests]; exact quiet.starting⟩
  have before (m : Nat) (here : (t.works m).alive = true) : (s.works m).alive = true := by
    rw [works] at here
    by_cases same : m = n
    · rw [same]; exact alive
    · rw [update_of_ne same] at here; exact here
  refine ⟨by rw [lifecycle, requests]; exact inv.guarded, commands, fun m here => ?_, fun c here m there => ?_,
    fun c here m there => ?_, fun c here => ?_, fun here => quiet (inv.closed (closed ▸ here)),
    fun c answer here quiets => quiet (inv.quiet c answer (requests ▸ here) quiets)⟩
  · rw [worker, stopEvent]
    exact inv.current m (before m here)
  · rw [events]
    exact inv.cancelled c (requests ▸ here) m (before m there)
  · rw [requests] at here
    rw [works] at there
    by_cases same : m = n
    · rw [same, update_self] at there
      have unset := passed there
      rw [inv.cancelled c (cancelled_of_stopped here) n alive] at unset
      cases unset
    · rw [update_of_ne same] at there
      exact inv.stopped c here m there
  · rw [ready]
    exact inv.revoked c (requests ▸ here)

theorem commands_keep (inv : Inv s) {w : Work} (works : t.works = update s.works n w)
    (requests : t.requests = s.requests) (lock : t.commandLock = s.commandLock)
    (keep : w.commands = true → (s.works n).commands = true) : Guarded id t.commandLock t.commanding := by
  rw [commanding_work works requests, lock]
  exact guarded_keep inv.commands keep

theorem commands_take (inv : Inv s) {w} (works : t.works = update s.works n w)
    (requests : t.requests = s.requests) (free : s.commandLock = none)
    (lock : t.commandLock = some (.worker n)) : Guarded id t.commandLock t.commanding := by
  rw [commanding_work works requests, lock]
  exact guarded_take (free ▸ inv.commands)

theorem commands_leave (inv : Inv s) {w} (works : t.works = update s.works n w)
    (requests : t.requests = s.requests) (lock : t.commandLock = none)
    (here : (s.works n).commands = true) (out : w.commands = false) :
    Guarded id t.commandLock t.commanding := by
  rw [commanding_work works requests, lock]
  exact guarded_leave inv.commands here out

theorem inv_work (inv : Inv s) (next : work s n ok = some t) : Inv t := by
  have stay {w : Work} (alive : (s.works n).alive = true) (passed : w ≠ .passed)
      (keep : w.commands = true → (s.works n).commands = true) : Inv (s.setWork n w) :=
    inv.work (w := w) alive rfl rfl rfl rfl rfl rfl rfl rfl (commands_keep inv (w := w) rfl rfl rfl keep)
      fun same => absurd same passed
  unfold work at next
  cases here : s.works n <;> simp only [here] at next
  case unstarted | ended => cases next
  case began | looping | readying =>
    cases next
    refine stay (by rw [here]; rfl) ?_ ?_ <;> split <;> nofun
  case wanting | leaving =>
    split at next
    · rename_i free
      cases next
      exact inv.work (by rw [here]; rfl) rfl rfl rfl rfl rfl rfl rfl rfl
        (commands_take inv rfl rfl free rfl) nofun
    · cases next
  case deciding =>
    cases next
    split
    · exact inv.work (by rw [here]; rfl) rfl rfl rfl rfl rfl rfl rfl rfl
        (commands_leave inv rfl rfl rfl (by rw [here]; rfl) rfl) nofun
    · rename_i unset
      exact inv.work (by rw [here]; rfl) rfl rfl rfl rfl rfl rfl rfl rfl
        (commands_keep inv rfl rfl rfl fun _ => by rw [here]; rfl) fun _ => Bool.eq_false_iff.mpr unset
  case passed =>
    cases next
    exact inv.work (by rw [here]; rfl) rfl rfl rfl rfl rfl rfl rfl rfl
      (commands_keep inv rfl rfl rfl fun _ => by rw [here]; rfl) nofun
  case moving =>
    cases next
    refine inv.work (by rw [here]; rfl) rfl rfl rfl rfl rfl rfl rfl rfl
      (commands_leave inv rfl rfl rfl (by rw [here]; rfl) ?_) ?_
    · split <;> rfl
    · split <;> nofun
  case waiting =>
    cases next
    exact stay (by rw [here]; rfl) nofun nofun
  case stopping =>
    cases next
    exact inv.work (by rw [here]; rfl) rfl rfl rfl rfl rfl rfl rfl rfl
      (commands_leave inv rfl rfl rfl (by rw [here]; rfl) rfl) nofun
  case recording =>
    cases next
    exact inv.work (by rw [here]; rfl) rfl rfl rfl rfl rfl rfl rfl rfl
      (commands_keep inv rfl rfl rfl nofun) nofun

theorem request_keeps (commands : Guarded id s.commandLock s.commanding) (requests : t.requests = update s.requests c g)
    (works : t.works = s.works) (lock : t.commandLock = s.commandLock) (outside : g.commands = false) :
    Guarded id t.commandLock t.commanding := by
  rw [commanding_request requests works, lock, outside]
  exact guarded_keep commands nofun

theorem request_takes (commands : Guarded id s.commandLock s.commanding) (requests : t.requests = update s.requests c g)
    (works : t.works = s.works) (free : s.commandLock = none) (lock : t.commandLock = some (.request c)) :
    Guarded id t.commandLock t.commanding := by
  rw [commanding_request requests works, lock]
  exact guarded_take (free ▸ commands)

theorem request_leaves (commands : Guarded id s.commandLock s.commanding) (requests : t.requests = update s.requests c g)
    (works : t.works = s.works) (lock : t.commandLock = none) (here : (s.requests c).commands = true)
    (outside : g.commands = false) : Guarded id t.commandLock t.commanding := by
  rw [commanding_request requests works, lock]
  exact guarded_leave commands here outside

theorem quiet_request (quiet : Quiet s) (requests : t.requests = update s.requests c g)
    (works : t.works = s.works) (events : t.events = s.events) (ready : t.operatorMotionReady = false)
    (starting : g ≠ .starting) : Quiet t := by
  refine ⟨ready, ⟨by rw [works, events]; exact quiet.shut.events,
    by rw [works]; exact quiet.shut.passed⟩, fun d here => ?_⟩
  rw [requests] at here
  by_cases same : d = c
  · rw [same, update_self] at here
    exact starting here
  · rw [update_of_ne same] at here
    exact quiet.starting d here

theorem Inv.request (inv : Inv s) (requests : t.requests = update s.requests c g)
    (works : t.works = s.works) (events : t.events = s.events) (worker : t.worker = s.worker)
    (stopEvent : t.stopEvent = s.stopEvent)
    (ready : s.operatorMotionReady = false → t.operatorMotionReady = false)
    (closed : t.closed = true → s.closed = true ∨ Quiet t)
    (guarded : Guarded inside t.lifecycleLock t.requests)
    (commands : Guarded id t.commandLock t.commanding)
    (cancelled : g.cancelled = true → (s.requests c).cancelled = true)
    (stopped : g.stopped = true → ∀ n, s.works n ≠ .passed)
    (revoked : g.revoked = true → t.operatorMotionReady = false)
    (starting : g = .starting → s.operatorMotionReady = true)
    (quiet : ∀ answer, g = .finished answer → answer.quiets = true → Quiet t) : Inv t := by
  have stable (quiet : Quiet s) : Quiet t :=
    quiet_request quiet requests works events (ready quiet.revoked) fun start => by
      rw [quiet.revoked] at starting
      cases starting start
  refine ⟨guarded, commands, by rw [works, worker, stopEvent]; exact inv.current, fun d here => ?_,
    fun d here => ?_, fun d here => ?_, fun here => (closed here).elim (fun old => stable (inv.closed old)) id,
    fun d answer here quiets => ?_⟩ <;> rw [requests] at here <;> by_cases same : d = c
  · rw [same, update_self] at here
    rw [works, events]
    exact inv.cancelled c (cancelled here)
  · rw [update_of_ne same] at here
    rw [works, events]
    exact inv.cancelled d here
  · rw [same, update_self] at here
    rw [works]
    exact stopped here
  · rw [update_of_ne same] at here
    rw [works]
    exact inv.stopped d here
  · rw [same, update_self] at here
    exact revoked here
  · rw [update_of_ne same] at here
    exact ready (inv.revoked d here)
  · rw [same, update_self] at here
    exact quiet answer here quiets
  · rw [update_of_ne same] at here
    exact stable (inv.quiet d answer here quiets)

theorem Inv.go (inv : Inv s) (held : (s.requests c).inside = true) (inside : g.inside = true)
    (outside : g.commands = false) (cancelled : g.cancelled = true → (s.requests c).cancelled = true)
    (stopped : g.stopped = true → (s.requests c).stopped = true)
    (revoked : g.revoked = true → (s.requests c).revoked = true)
    (starting : g = .starting → s.operatorMotionReady = true) : Inv (s.setRequest c g) := by
  exact inv.request rfl rfl rfl rfl rfl id .inl (guarded_keep inv.guarded fun _ => held)
    (request_keeps inv.commands (g := g) rfl rfl rfl outside) cancelled
    (fun here => inv.stopped c (stopped here)) (fun here => inv.revoked c (revoked here)) starting
    fun answer same => by rw [same] at inside; cases inside

theorem quiet_answer {a : Answer} (inv : Inv s) (stopped : (s.requests c).stopped = true)
    (requests : t.requests = update s.requests c (.finished a))
    (works : t.works = s.works) (events : t.events = s.events)
    (ready : t.operatorMotionReady = false) : Quiet t := by
  have cancelled := cancelled_of_stopped stopped
  refine ⟨ready, ⟨by rw [works, events]; exact inv.cancelled c cancelled,
    by rw [works]; exact inv.stopped c stopped⟩, fun d here => ?_⟩
  rw [requests] at here
  by_cases same : d = c
  · rw [same, update_self] at here
    cases here
  · rw [update_of_ne same] at here
    exact same (inv.guarded.unique (by rw [here]; rfl) (inside_of_cancelled cancelled))

theorem Inv.answer (inv : Inv s) {answer : Answer} (held : (s.requests c).inside = true)
    (closed : answer.quiets = true → s.closed = true) : Inv (s.answer c answer) := by
  have quiet (gone : Quiet s) : Quiet (s.answer c answer) :=
    quiet_request gone (g := .finished answer) rfl rfl rfl gone.revoked nofun
  refine inv.request (g := .finished answer) rfl rfl rfl rfl rfl id .inl
    (guarded_leave inv.guarded held rfl) (request_keeps inv.commands (g := .finished answer) rfl rfl rfl rfl)
    nofun nofun nofun nofun fun other same quiets => ?_
  obtain rfl := Stage.finished.inj same
  exact quiet (inv.closed (closed quiets))

theorem Inv.order (inv : Inv s) (free : s.commandLock = none) (held : (s.requests c).inside = true)
    (inside : g.inside = true) (cancelled : g.cancelled = true → (s.requests c).cancelled = true)
    (revoked : g.revoked = true → (s.requests c).revoked = true) (starting : g ≠ .starting) :
    Inv { s.setRequest c g with commandLock := some (.request c) } :=
  inv.request (g := g) rfl rfl rfl rfl rfl id .inl (guarded_keep inv.guarded fun _ => held)
    (request_takes inv.commands (g := g) rfl rfl free rfl) cancelled
    (fun _ => passed_outside inv.commands free) (fun here => inv.revoked c (revoked here))
    (fun same => absurd same starting) fun answer same => by rw [same] at inside; cases inside

theorem Inv.release (inv : Inv s) {answer} (here : (s.requests c).commands = true)
    (held : (s.requests c).inside = true)
    (quiet : answer.quiets = true → (s.requests c).stopped = true ∧ (s.requests c).revoked = true) :
    Inv ({ s with commandLock := none }.answer c answer) := by
  refine inv.request (g := .finished answer) rfl rfl rfl rfl rfl id .inl (guarded_leave inv.guarded held rfl)
    (request_leaves inv.commands (g := .finished answer) rfl rfl rfl here rfl) nofun nofun nofun nofun
    fun other same quiets => ?_
  obtain rfl := Stage.finished.inj same
  obtain ⟨stopped, revoked⟩ := quiet quiets
  exact quiet_answer inv stopped rfl rfl rfl (inv.revoked c revoked)

theorem inv_afterStop (inv : Inv s) {why} {joined} (here : s.requests c = .stopping why joined) :
    Inv ({ s with commandLock := none }.afterStop c joined ok why) := by
  have held : (s.requests c).inside = true := by rw [here]; rfl
  have commands : (s.requests c).commands = true := by rw [here]; rfl
  have on (g : Stage) (cancelled : (s.requests c).cancelled = true) (stopped : (s.requests c).stopped = true)
      (inside : g.inside = true) (outside : g.commands = false) (revoked : g.revoked = false)
      (starting : g ≠ .starting) :
      Inv ({ s with commandLock := none }.setRequest c g) :=
    inv.request (g := g) rfl rfl rfl rfl rfl id .inl (guarded_keep inv.guarded fun _ => held)
      (request_leaves inv.commands (g := g) rfl rfl rfl commands outside) (fun _ => cancelled)
      (fun _ => inv.stopped c stopped) (fun there => by rw [revoked] at there; cases there)
      (fun same => absurd same starting) fun answer same => by rw [same] at inside; cases inside
  have cancelled : (s.requests c).cancelled = true := by rw [here]; rfl
  have stopped : (s.requests c).stopped = true := by rw [here]; rfl
  cases why with
  | posture =>
    simp only [ActionExecutor.afterStop]
    split
    · exact on .freshening cancelled stopped rfl rfl rfl nofun
    · exact inv.release commands held nofun
  | stop | close => exact on (.revoking _ joined ok) cancelled stopped rfl rfl rfl nofun

theorem inv_afterRevoke (inv : Inv s) {why} {joined zero} (here : s.requests c = .revoking why joined zero) :
    Inv ({ s with operatorMotionReady := false }.afterRevoke c joined zero why) := by
  have held : (s.requests c).inside = true := by rw [here]; rfl
  have cancelled : (s.requests c).cancelled = true := by rw [here]; rfl
  have stopped : (s.requests c).stopped = true := by rw [here]; rfl
  have on (g : Stage) (inside : g.inside = true) (outside : g.commands = false) (starting : g ≠ .starting) :
      Inv ({ s with operatorMotionReady := false }.setRequest c g) :=
    inv.request (g := g) rfl rfl rfl rfl rfl (fun _ => rfl) .inl
      (guarded_keep inv.guarded fun _ => held) (request_keeps inv.commands (g := g) rfl rfl rfl outside)
      (fun _ => cancelled) (fun _ => inv.stopped c stopped) (fun _ => rfl)
      (fun same => absurd same starting) fun answer same => by rw [same] at inside; cases inside
  cases why with
  | posture => exact on .posturing rfl rfl nofun
  | close => exact on .disconnecting rfl rfl nofun
  | stop =>
    exact inv.request (g := .finished (.stopped joined zero)) rfl rfl rfl rfl rfl (fun _ => rfl) .inl
      (guarded_leave inv.guarded held rfl)
      (request_keeps inv.commands (g := .finished (.stopped joined zero)) rfl rfl rfl rfl) nofun nofun nofun nofun
      fun _ _ _ => quiet_answer inv stopped (a := .stopped joined zero) rfl rfl rfl rfl

theorem inv_closed (inv : Inv s) (here : s.requests c = .disconnecting) {answer} :
    Inv ({ s with closed := true }.answer c answer) := by
  have held : (s.requests c).inside = true := by rw [here]; rfl
  have quiet : Quiet ({ s with closed := true }.answer c answer) :=
    quiet_answer inv (by rw [here]; rfl) (a := answer) rfl rfl rfl (inv.revoked c (by rw [here]; rfl))
  exact inv.request (g := .finished answer) rfl rfl rfl rfl rfl id (fun _ => .inr quiet)
    (guarded_leave inv.guarded held rfl) (request_keeps inv.commands (g := .finished answer) rfl rfl rfl rfl)
    nofun nofun nofun nofun fun _ _ _ => quiet

theorem not_alive (inv : Inv s) (gone : s.workerAlive s.worker = false) (n : Nat) :
    (s.works n).alive = false := by
  cases alive : (s.works n).alive with
  | false => rfl
  | true =>
    rw [(inv.current n alive).1, ActionExecutor.workerAlive, alive] at gone
    cases gone

theorem inv_start (inv : Inv s) (here : s.requests c = .starting) : Inv (s.startMotion c) := by
  have held : (s.requests c).inside = true := by rw [here]; rfl
  unfold ActionExecutor.startMotion
  split
  · exact inv.answer held nofun
  rename_i gone
  have dead := not_alive inv (Bool.eq_false_iff.mpr gone)
  have noise {P : Prop} (quiet : Quiet s) : P := absurd here (quiet.starting c)
  have commands : Guarded id s.commandLock (s.setWork s.created .began).commanding :=
    commands_keep inv (n := s.created) (w := .began) rfl rfl rfl nofun
  -- the requests that have set the event or revoked the interlock hold the lock that `c` holds
  have other {d : Nat} (f : Stage → Bool) (off : f (.finished (.accepted s.created)) = false)
      (there : f (update s.requests c (.finished (.accepted s.created)) d) = true) :
      f (s.requests d) = true ∧ d ≠ c := by
    by_cases same : d = c
    · rw [same, update_self, off] at there
      cases there
    · rw [update_of_ne same] at there
      exact ⟨there, same⟩
  have alone {d : Nat} {P : Prop} (cancelled : (s.requests d).cancelled = true) (apart : d ≠ c) : P :=
    absurd (inv.guarded.unique (inside_of_cancelled cancelled) held) apart
  refine ⟨guarded_leave inv.guarded held rfl, ?_, fun m there => ?_, fun d there => ?_, fun d there => ?_,
    fun d there => inv.revoked d (other revoked rfl there).1, fun there => noise (inv.closed there),
    fun d answer there quiets => ?_⟩
  · exact request_keeps (s := s.setWork s.created .began) commands (g := .finished (.accepted s.created))
      rfl rfl rfl rfl
  · by_cases same : m = s.created
    · rw [same]
      exact ⟨rfl, rfl⟩
    · have old : (update s.works s.created .began m).alive = true := there
      rw [update_of_ne same, dead m] at old
      cases old
  · obtain ⟨cancelled, apart⟩ := other cancelled rfl there
    exact alone cancelled apart
  · obtain ⟨stopped, apart⟩ := other stopped rfl there
    exact alone (cancelled_of_stopped stopped) apart
  · have there : update s.requests c (.finished (.accepted s.created)) d = .finished answer := there
    by_cases same : d = c
    · rw [same, update_self] at there
      obtain rfl := Stage.finished.inj there
      cases quiets
    · rw [update_of_ne same] at there
      exact noise (inv.quiet d answer there quiets)

theorem events_setEvent {n : Nat} (set : s.events n = true ∨ s.stopEvent = some n) :
    s.setEvent.events n = true := by
  unfold ActionExecutor.setEvent
  split
  · rename_i none
    rw [none] at set
    exact set.resolve_right nofun
  · rename_i m event
    by_cases same : n = m
    · rw [same]
      exact update_self ..
    · refine (update_of_ne same ..).trans (set.resolve_right fun here => ?_)
      rw [event] at here
      exact same (Option.some.inj here).symm

theorem inv_cancel (inv : Inv s) {why : Why} (here : s.requests c = .cancelling why) :
    Inv (s.setEvent.setRequest c (.joining why s.worker)) := by
  have held : (s.requests c).inside = true := by rw [here]; rfl
  have frame : s.setEvent = { s with events := s.setEvent.events } := by
    unfold ActionExecutor.setEvent
    split <;> rfl
  have all (n : Nat) (alive : (s.works n).alive = true) : s.setEvent.events n = true :=
    events_setEvent (.inr (inv.current n alive).2)
  rw [frame]
  generalize s.setEvent.events = events at all
  have quiet (gone : Quiet s) : Quiet ({ s with events }.setRequest c (.joining why s.worker)) := by
    have start : Quiet { s with events } := ⟨gone.revoked, ⟨all, gone.shut.passed⟩, gone.starting⟩
    exact quiet_request (g := .joining why s.worker) start rfl rfl rfl gone.revoked nofun
  have old {d : Nat} (f : Stage → Bool) (off : f (.joining why s.worker) = false)
      (there : f (update s.requests c (.joining why s.worker) d) = true) :
      f (s.requests d) = true := by
    by_cases same : d = c
    · rw [same, update_self, off] at there
      cases there
    · rwa [update_of_ne same] at there
  refine ⟨guarded_keep inv.guarded fun _ => held, request_keeps inv.commands (g := .joining why s.worker) rfl rfl rfl rfl,
    inv.current, fun _ _ => all, fun d there => inv.stopped d (old stopped rfl there),
    fun d there => inv.revoked d (old revoked rfl there), fun there => quiet (inv.closed there),
    fun d answer there quiets => ?_⟩
  have there : update s.requests c (.joining why s.worker) d = .finished answer := there
  by_cases same : d = c
  · rw [same, update_self] at there
    cases there
  · rw [update_of_ne same] at there
    exact quiet (inv.quiet d answer there quiets)

theorem inv_go (inv : Inv s) (next : go s c ok = some t) : Inv t := by
  unfold go at next
  cases here : s.requests c with
  | idle | finished => simp only [here] at next; cases next
  | locking request =>
    simp only [here] at next
    split at next
    · rename_i free
      cases next
      refine inv.request (g := request.entry) rfl rfl rfl rfl rfl id .inl (guarded_take (free ▸ inv.guarded))
        (request_keeps inv.commands (g := request.entry) rfl rfl rfl ?_) ?_ ?_ ?_ ?_ ?_ <;>
        cases request <;> first | rfl | nofun
    · cases next
  | checking request =>
    simp only [here] at next
    cases next
    have held : (s.requests c).inside = true := by rw [here]; rfl
    split
    · exact inv.answer held nofun
    · cases request <;> exact inv.go held rfl rfl nofun nofun nofun nofun
  | readying update =>
    simp only [here] at next
    cases next
    have held : (s.requests c).inside = true := by rw [here]; rfl
    split
    · rename_i ready
      rw [Bool.and_eq_true] at ready
      cases update <;> exact inv.go held rfl rfl nofun nofun nofun fun _ => ready.1
    · exact inv.answer held nofun
  | interlock =>
    simp only [here] at next
    cases next
    have held : (s.requests c).inside = true := by rw [here]; rfl
    split
    · exact inv.go held rfl rfl nofun nofun nofun nofun
    · exact inv.answer held nofun
  | starting =>
    simp only [here] at next
    cases next
    exact inv_start inv here
  | updating =>
    simp only [here] at next
    cases next
    have held : (s.requests c).inside = true := by rw [here]; rfl
    unfold ActionExecutor.updateMove
    split
    · exact inv.answer held nofun
    · split <;> exact inv.answer held nofun
  | closing =>
    simp only [here] at next
    cases next
    have held : (s.requests c).inside = true := by rw [here]; rfl
    split
    · rename_i closed
      exact inv.answer held fun _ => closed
    · exact inv.request (g := .cancelling .close) rfl rfl rfl rfl rfl id .inl
        (guarded_keep inv.guarded fun _ => held)
        (request_keeps inv.commands (g := .cancelling .close) rfl rfl rfl rfl) nofun nofun nofun nofun nofun
  | cancelling =>
    simp only [here] at next
    cases next
    exact inv_cancel inv here
  | joining =>
    simp only [here] at next
    cases next
    exact inv.go (by rw [here]; rfl) rfl rfl (fun _ => by rw [here]; rfl) nofun nofun nofun
  | ordering why joined =>
    simp only [here] at next
    split at next
    · rename_i free
      cases next
      exact inv.order free (by rw [here]; rfl) rfl (fun _ => by rw [here]; rfl) nofun nofun
    · cases next
  | stopping =>
    simp only [here] at next
    cases next
    exact inv_afterStop inv here
  | freshening =>
    simp only [here] at next
    cases next
    have held : (s.requests c).inside = true := by rw [here]; rfl
    split
    · exact inv.go held rfl rfl (fun _ => by rw [here]; rfl) (fun _ => by rw [here]; rfl) nofun nofun
    · exact inv.answer held nofun
  | revoking =>
    simp only [here] at next
    cases next
    exact inv_afterRevoke inv here
  | posturing =>
    simp only [here] at next
    split at next
    · rename_i free
      cases next
      exact inv.order free (by rw [here]; rfl) rfl (fun _ => by rw [here]; rfl)
        (fun _ => by rw [here]; rfl) nofun
    · cases next
  | posing =>
    simp only [here] at next
    cases next
    exact inv.release (by rw [here]; rfl) (by rw [here]; rfl) fun _ => by rw [here]; exact ⟨rfl, rfl⟩
  | disconnecting =>
    simp only [here] at next
    cases next
    exact inv_closed inv here

theorem inv_step {l : Label} (inv : Inv s) (next : step s l = some t) : Inv t := by
  cases l with
  | work => exact inv_work inv next
  | go => exact inv_go inv next
  | request c request =>
    simp only [step] at next
    split at next <;> cases next
    exact inv.request (g := .locking request) rfl rfl rfl rfl rfl id .inl (guarded_keep inv.guarded nofun)
      (request_keeps inv.commands (g := .locking request) rfl rfl rfl rfl) nofun nofun nofun nofun nofun

end

/-! ## Runs -/

variable {s t u v : ActionExecutor} {c n : Nat} {ok : Bool} {l : Label} {ls : List Label}

theorem requests_work (next : work s n ok = some t) : t.requests = s.requests := by
  unfold work at next
  cases here : s.works n <;> simp only [here] at next
  case unstarted | ended => cases next
  case wanting | leaving =>
    split at next <;> cases next
    rfl
  case deciding =>
    cases next
    split <;> rfl
  all_goals
    cases next
    rfl

theorem go_frame (next : go s c ok = some t) : (∃ g, t.requests = update s.requests c g) ∧
    t.moves = s.moves ∧ (t.works = s.works ∨ t.works = update s.works s.created .began) := by
  unfold go at next
  cases here : s.requests c with
  | idle | finished => simp only [here] at next; cases next
  | locking | ordering | posturing =>
    simp only [here] at next
    split at next <;> cases next
    exact ⟨⟨_, rfl⟩, rfl, .inl rfl⟩
  | checking request =>
    simp only [here] at next
    cases next
    split
    · exact ⟨⟨_, rfl⟩, rfl, .inl rfl⟩
    · cases request <;> exact ⟨⟨_, rfl⟩, rfl, .inl rfl⟩
  | readying | interlock | closing | freshening =>
    simp only [here] at next
    cases next
    split <;> exact ⟨⟨_, rfl⟩, rfl, .inl rfl⟩
  | starting =>
    simp only [here] at next
    cases next
    unfold ActionExecutor.startMotion
    split
    · exact ⟨⟨_, rfl⟩, rfl, .inl rfl⟩
    · exact ⟨⟨_, rfl⟩, rfl, .inr rfl⟩
  | updating =>
    simp only [here] at next
    cases next
    unfold ActionExecutor.updateMove
    split
    · exact ⟨⟨_, rfl⟩, rfl, .inl rfl⟩
    · split <;> exact ⟨⟨_, rfl⟩, rfl, .inl rfl⟩
  | cancelling =>
    simp only [here] at next
    cases next
    unfold ActionExecutor.setEvent
    split <;> exact ⟨⟨_, rfl⟩, rfl, .inl rfl⟩
  | stopping why =>
    simp only [here] at next
    cases next
    cases why with
    | posture => simp only [ActionExecutor.afterStop]; split <;> exact ⟨⟨_, rfl⟩, rfl, .inl rfl⟩
    | stop | close => exact ⟨⟨_, rfl⟩, rfl, .inl rfl⟩
  | revoking why =>
    simp only [here] at next
    cases next
    cases why <;> exact ⟨⟨_, rfl⟩, rfl, .inl rfl⟩
  | joining | posing | disconnecting =>
    simp only [here] at next
    cases next
    exact ⟨⟨_, rfl⟩, rfl, .inl rfl⟩

theorem requests_other (next : step s l = some t) {d} (other : ∀ ok, l ≠ .go d ok)
    (here : s.requests d ≠ .idle) : t.requests d = s.requests d := by
  cases l with
  | work => rw [requests_work next]
  | go c ok =>
    obtain ⟨⟨g, moved⟩, -, -⟩ := go_frame next
    rw [moved, update_of_ne fun same => other ok (by rw [same])]
  | request c request =>
    simp only [step] at next
    split at next
    · rename_i idle
      cases next
      exact update_of_ne (fun same : d = c => here (same ▸ idle)) ..
    · cases next

theorem finished_step {answer : Answer} (here : s.requests c = .finished answer)
    (next : step s l = some t) : t.requests c = .finished answer := by
  rw [requests_other next (fun ok same => ?_) (by rw [here]; nofun), here]
  rw [same, step, go] at next
  simp only [here] at next
  cases next

theorem after_go (next : go s c ok = some t) (cancelled : (s.requests c).cancelled = true) :
    (∃ answer, t.requests c = .finished answer) ∨ ((t.requests c).cancelled = true ∧
      ((s.requests c).stopped = true → (t.requests c).stopped = true)) := by
  have set (s : ActionExecutor) (g : Stage) : (s.setRequest c g).requests c = g := update_self ..
  have answered (s : ActionExecutor) (answer : Answer) :
      (s.answer c answer).requests c = .finished answer := update_self ..
  unfold go at next
  cases here : s.requests c <;> rw [here] at cancelled <;> try cases cancelled
  case joining why worker =>
    simp only [here] at next
    cases next
    exact .inr (by rw [set]; exact ⟨rfl, nofun⟩)
  case ordering | posturing =>
    simp only [here] at next
    split at next <;> cases next
    exact .inr (by simp only [set]; exact ⟨rfl, fun _ => rfl⟩)
  case stopping why joined =>
    simp only [here] at next
    cases next
    cases why with
    | posture =>
      simp only [ActionExecutor.afterStop]
      split
      · exact .inr (by rw [set]; exact ⟨rfl, fun _ => rfl⟩)
      · exact .inl ⟨_, answered ..⟩
    | stop | close => exact .inr (by simp only [ActionExecutor.afterStop, set]; exact ⟨rfl, fun _ => rfl⟩)
  case freshening =>
    simp only [here] at next
    cases next
    split
    · exact .inr (by rw [set]; exact ⟨rfl, fun _ => rfl⟩)
    · exact .inl ⟨_, answered ..⟩
  case revoking why joined zero =>
    simp only [here] at next
    cases next
    cases why with
    | stop => exact .inl ⟨_, answered ..⟩
    | posture | close =>
      exact .inr (by simp only [ActionExecutor.afterRevoke, set]; exact ⟨rfl, fun _ => rfl⟩)
  case posing | disconnecting =>
    simp only [here] at next
    cases next
    exact .inl ⟨_, answered ..⟩

theorem after_step (next : step s l = some t) (cancelled : (s.requests c).cancelled = true) :
    (∃ answer, t.requests c = .finished answer) ∨ ((t.requests c).cancelled = true ∧
      ((s.requests c).stopped = true → (t.requests c).stopped = true)) := by
  by_cases own : ∃ ok, l = .go c ok
  · obtain ⟨ok, rfl⟩ := own
    exact after_go next cancelled
  · have same := requests_other next (fun ok same => own ⟨ok, same⟩) fun idle => by
      rw [idle] at cancelled; cases cancelled
    rw [same]
    exact .inr ⟨cancelled, id⟩

theorem moves_step (inv : Inv s) (next : step s l = some t) :
    t.moves = s.moves ∨ ∃ n, s.works n = .passed ∧ t.moves = s.moves ++ [n] ∧ ∀ m, t.works m ≠ .passed := by
  cases l with
  | go => exact .inl (go_frame next).2.1
  | request =>
    simp only [step] at next
    split at next <;> cases next
    exact .inl rfl
  | work n =>
    simp only [step, work] at next
    cases here : s.works n <;> simp only [here] at next
    case unstarted | ended => cases next
    case wanting | leaving =>
      split at next <;> cases next
      exact .inl rfl
    case deciding =>
      cases next
      split <;> exact .inl rfl
    case passed =>
      cases next
      refine .inr ⟨n, here, rfl, fun m there => ?_⟩
      have there : update s.works n .moving m = .passed := there
      by_cases same : m = n
      · rw [same, update_self] at there
        cases there
      · rw [update_of_ne same] at there
        have both := inv.commands.unique (c := .worker m) (d := .worker n)
          (by rw [ActionExecutor.commanding, there]; rfl) (by rw [ActionExecutor.commanding, here]; rfl)
        exact same (Holder.worker.inj both)
    all_goals
      cases next
      exact .inl rfl

theorem passed_step (inv : Inv s) (cancelled : (s.requests c).cancelled = true) (next : step s l = some t)
    (passed : t.works n = .passed) : s.works n = .passed := by
  cases l with
  | go =>
    rcases (go_frame next).2.2 with same | started
    · rw [← same]
      exact passed
    · rw [started] at passed
      by_cases same : n = s.created
      · rw [same, update_self] at passed
        cases passed
      · rwa [update_of_ne same] at passed
  | request =>
    simp only [step] at next
    split at next <;> cases next
    exact passed
  | work m =>
    have moved {w : Work} (works : t.works = update s.works m w) (other : w ≠ .passed) :
        s.works n = .passed := by
      rw [works] at passed
      by_cases same : n = m
      · rw [same, update_self] at passed
        exact absurd passed other
      · rwa [update_of_ne same] at passed
    simp only [step, work] at next
    cases here : s.works m <;> simp only [here] at next
    case unstarted | ended => cases next
    case began | looping | readying =>
      cases next
      refine moved rfl ?_
      split <;> nofun
    case wanting | leaving =>
      split at next <;> cases next
      exact moved rfl nofun
    case deciding =>
      have set := inv.cancelled c cancelled m (by rw [here]; rfl)
      rw [if_pos set] at next
      cases next
      exact moved rfl nofun
    case moving =>
      cases next
      refine moved rfl ?_
      split <;> nofun
    all_goals
      cases next
      exact moved rfl nofun

theorem inv_init (ready : Bool) : Inv { operatorMotionReady := ready } := by
  refine ⟨fun _ here => ?_, fun holder here => ?_, fun _ here => ?_, fun _ here => ?_, fun _ here => ?_,
    fun _ here => ?_, fun here => ?_, fun _ _ here => ?_⟩
  case refine_2 => cases holder <;> cases here
  all_goals cases here

theorem inv_run (inv : Inv s) (ran : run step s ls = some t) : Inv t :=
  run_invariant (fun _ _ _ inv next => inv_step inv next) inv ran

theorem moves_finished {answer : Answer} (inv : Inv s) (here : s.requests c = .finished answer)
    (quiets : answer.quiets = true) (ran : run step s ls = some t) : t.moves = s.moves := by
  have kept := run_invariant (I := fun u => Inv u ∧ u.requests c = .finished answer ∧ u.moves = s.moves)
    (fun u l v held next => ?_) ⟨inv, here, rfl⟩ ran
  · exact kept.2.2
  obtain ⟨inv, here, moves⟩ := held
  refine ⟨inv_step inv next, finished_step here next, ?_⟩
  rcases moves_step inv next with same | ⟨n, passed, -, -⟩
  · exact same.trans moves
  · exact absurd passed ((inv.quiet c answer here quiets).shut.passed n)

theorem moves_stopped (inv : Inv s) (stopped : (s.requests c).stopped = true)
    (ran : run step s ls = some t) (within : (t.requests c).cancelled = true) : t.moves = s.moves := by
  have kept := run_invariant (I := fun u => Inv u ∧ ((∃ answer, u.requests c = .finished answer) ∨
      (u.requests c).stopped = true ∧ u.moves = s.moves))
    (fun u l v held next => ?_) ⟨inv, .inr ⟨stopped, rfl⟩⟩ ran
  · rcases kept.2 with ⟨answer, gone⟩ | ⟨-, moves⟩
    · rw [gone] at within
      cases within
    · exact moves
  obtain ⟨inv, ⟨answer, gone⟩ | ⟨stopped, moves⟩⟩ := held <;> refine ⟨inv_step inv next, ?_⟩
  · exact .inl ⟨answer, finished_step gone next⟩
  · refine (after_step next (cancelled_of_stopped stopped)).imp id fun after => ⟨after.2 stopped, ?_⟩
    rcases moves_step inv next with same | ⟨n, passed, -, -⟩
    · exact same.trans moves
    · exact absurd passed (inv.stopped c stopped n)

theorem moves_cancelled (inv : Inv s) (cancelled : (s.requests c).cancelled = true)
    (ran : run step s ls = some t) (within : (t.requests c).cancelled = true) :
    t.moves = s.moves ∨ ∃ n, s.works n = .passed ∧ t.moves = s.moves ++ [n] := by
  have kept := run_invariant (I := fun u => Inv u ∧ ((∃ answer, u.requests c = .finished answer) ∨ (u.requests c).cancelled = true ∧
      ((u.moves = s.moves ∧ ∀ n, u.works n = .passed → s.works n = .passed) ∨
        ∃ n, s.works n = .passed ∧ u.moves = s.moves ++ [n] ∧ ∀ m, u.works m ≠ .passed)))
    (fun u l v held next => ?_) ⟨inv, .inr ⟨cancelled, .inl ⟨rfl, fun _ => id⟩⟩⟩ ran
  · rcases kept.2 with ⟨answer, gone⟩ | ⟨-, ⟨moves, -⟩ | ⟨n, passed, moves, -⟩⟩
    · rw [gone] at within
      cases within
    · exact .inl moves
    · exact .inr ⟨n, passed, moves⟩
  obtain ⟨inv, ⟨answer, gone⟩ | ⟨cancelled, budget⟩⟩ := held <;> refine ⟨inv_step inv next, ?_⟩
  · exact .inl ⟨answer, finished_step gone next⟩
  refine (after_step next cancelled).imp id fun after => ⟨after.1, ?_⟩
  rcases budget with ⟨moves, open_⟩ | ⟨n, passed, moves, spent⟩
  · rcases moves_step inv next with same | ⟨n, passed, begun, spent⟩
    · exact .inl ⟨same.trans moves, fun n here => open_ n (passed_step inv cancelled next here)⟩
    · exact .inr ⟨n, open_ n passed, by rw [begun, moves], spent⟩
  · rcases moves_step inv next with same | ⟨m, past, -, -⟩
    · exact .inr ⟨n, passed, same.trans moves, fun m here => spent m (passed_step inv cancelled next here)⟩
    · exact absurd past (spent m)

/-- At most one worker is alive, and no Move is begun after a stop, but the one that had read its event
before. -/
theorem no_motion_after_stop (ready : Bool) (ran : run step { operatorMotionReady := ready } ls = some t) :
    (∀ m n, (t.works m).alive = true → (t.works n).alive = true → m = n) ∧
    (∀ c answer, t.requests c = .finished answer → answer.quiets = true →
      ∀ {more u}, run step t more = some u → u.moves = t.moves) ∧
    ∀ c why ok u, t.requests c = .cancelling why → step t (.go c ok) = some u →
      ∀ {more v}, run step u more = some v → (v.requests c).cancelled = true →
        (v.moves = t.moves ∨ ∃ n, t.works n = .passed ∧ v.moves = t.moves ++ [n]) ∧
        ((v.requests c).stopped = true → ∀ {rest w}, run step v rest = some w →
          (w.requests c).cancelled = true → w.moves = v.moves) := by
  have inv := inv_run (inv_init ready) ran
  refine ⟨fun m n one other => ?_, fun c answer here quiets more u => moves_finished inv here quiets,
    fun c why ok u here next more v later within =>
      ⟨?_, fun stopped rest w => moves_stopped (inv_run (inv_step inv next) later) stopped⟩⟩
  · exact Option.some.inj ((inv.current m one).1.symm.trans (inv.current n other).1)
  · have start := inv_step inv next
    obtain ⟨-, moves, works⟩ := go_frame next
    have set : (u.requests c).cancelled = true := by
      simp only [step, go, here] at next
      cases next
      have stage : (t.setEvent.setRequest c (.joining why t.worker)).requests c = .joining why t.worker :=
        update_self ..
      rw [stage]
      rfl
    have works : u.works = t.works := by
      simp only [step, go, here] at next
      cases next
      unfold ActionExecutor.setEvent
      split <;> rfl
    rw [← moves, ← works]
    exact moves_cancelled start set later within

def upToMove : List Label :=
  [.request 0 .motion, .go 0 true, .go 0 true, .go 0 true, .go 0 true,
    .work 0 true, .work 0 true, .work 0 true, .work 0 true, .work 0 true]

theorem no_motion_after_stop_moving :
    ∃ t u, run step { operatorMotionReady := true } (upToMove ++ [.work 0 true, .work 0 true,
        .request 1 .stop, .go 1 true, .go 1 true, .go 1 true, .go 1 true, .go 1 true, .go 1 true]) = some t ∧
      t.requests 1 = .finished (.stopped false true) ∧
      run step t [.work 0 true, .work 0 true, .work 0 true, .work 0 true, .work 0 true] = some u ∧
      u.works 0 = .ended ∧ u.moves = t.moves := by
  let moves : List Label := [.work 0 true, .work 0 true,
    .request 1 .stop, .go 1 true, .go 1 true, .go 1 true, .go 1 true, .go 1 true, .go 1 true]
  let later : List Label := [.work 0 true, .work 0 true, .work 0 true, .work 0 true, .work 0 true]
  have facts : ((run step { operatorMotionReady := true } (upToMove ++ moves)).bind fun t =>
      (run step t later).map fun u => (t.requests 1, u.works 0)) =
      some (.finished (.stopped false true), .ended) := by decide +kernel
  obtain ⟨t, ran, after⟩ := Option.bind_eq_some_iff.mp facts
  obtain ⟨u, ran', both⟩ := Option.map_eq_some_iff.mp after
  obtain ⟨answered, ended⟩ := Prod.mk.inj both
  exact ⟨t, u, ran, answered, ran', ended, (no_motion_after_stop true ran).2.1 1 _ answered rfl ran'⟩

/-- A worker that was past its check begins its Move after the event and before StopMove. -/
theorem move_after_event :
    ∃ t u v, run step { operatorMotionReady := true } (upToMove ++ [.request 1 .stop, .go 1 true]) = some t ∧
      t.requests 1 = .cancelling .stop ∧ step t (.go 1 true) = some u ∧ u.events 0 = true ∧ u.moves = [] ∧
      step u (.work 0 true) = some v ∧ v.requests 1 = .joining .stop (some 0) ∧ v.moves = [0] :=
  ⟨_, _, _, rfl, rfl, rfl, rfl, rfl, rfl, rfl, rfl⟩

end EmbodiRun.Go2.Executor
