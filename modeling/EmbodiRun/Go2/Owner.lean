/-
# Go2.Owner -- the thread that owns the native SDK objects

Callers put calls into a queue and wait on their futures; one thread takes the calls in order.  A
wait that runs out cancels its call if the owner has not taken it, and marks the transport as faulted
if it has.  A stop is never cancelled by the one that waits for it.

* `sdk_owner_protocol`: **calls are executed once, in order, or never; a fault stops all but stops;
  a closed owner leaves no call open**.
-/
import EmbodiRun.Transition.Machine

namespace EmbodiRun.Go2.Owner

open Function
open Transition List

inductive Future where
  | pending
  | running
  | cancelled
  /-- `set_result`. -/
  | result
  /-- `set_exception`. -/
  | failed
  deriving DecidableEq

def Future.settled : Future → Bool
  | .pending | .running => false
  | _ => true

/-- `safety` of a call that `stop` or `close` has put in. -/
structure SdkCall where
  method : String
  safety : Bool
  future : Future := .pending

def stopMove : String := "StopMove"

inductive Kind where
  | call (method : String)
  | stop
  | close
  deriving DecidableEq

def Kind.method : Kind → String
  | .call method => method
  | .stop | .close => stopMove

/-- `cancel_if_pending` is false. -/
def Kind.safety : Kind → Bool
  | .call _ => false
  | .stop | .close => true

inductive Ending where
  | returned
  /-- The SDK's error, or that of a cancelled or failed future. -/
  | failed
  /-- `enqueue` raised. -/
  | refused
  /-- Timed out before execution; the call is cancelled. -/
  | cancelled (id : Nat)
  /-- Timed out in flight or queued; the transport is faulted. -/
  | faulted (id : Nat)
  deriving DecidableEq

inductive Stage where
  | idle
  /-- `submit_lock` is next. -/
  | locking (kind : Kind)
  /-- `submit_lock` is held, and `lifecycle_lock` is next. -/
  | entering (kind : Kind)
  /-- In `future.result(timeout)`. -/
  | waiting (kind : Kind) (id : Nat)
  /-- The wait ran out, and `future.done()` is next; `cancelled` says that it comes again. -/
  | late (kind : Kind) (id : Nat) (again : Bool)
  /-- `future.cancel()` is next. -/
  | cancelling (kind : Kind) (id : Nat)
  /-- The fault is next. -/
  | faulting (kind : Kind) (id : Nat)
  /-- `close`, after its last stop. -/
  | closing
  /-- In `thread.join`. -/
  | joining
  | finished (ending : Ending)
  deriving DecidableEq

inductive Loop where
  /-- In `queue.get()`. -/
  | getting
  /-- The call is running, and the fault is read next. -/
  | starting (id : Nat)
  /-- No fault was read; the native call is next. -/
  | approved (id : Nat)
  | executing (id : Nat)
  /-- The future is set; `overran` says whether the call was too slow. -/
  | marking (id : Nat) (overran : Bool)
  /-- The loop is over. -/
  | leaving
  | draining
  | exited
  deriving DecidableEq

open Loop

namespace Loop

def taken : Loop → Option Nat
  | .starting id | .approved id => some id
  | _ => none

def current : Loop → Option Nat
  | .starting id | .approved id | .executing id => some id
  | _ => none

def committed : Loop → Option Nat
  | .approved id | .executing id => some id
  | _ => none

end Loop

structure SdkOwner where
  queue : List (Option Nat) := []
  calls : Nat → SdkCall := fun _ => ⟨stopMove, false, .pending⟩
  /-- The calls that were ever put in are those below. -/
  created : Nat := 0
  closing : Bool := false
  closed : Bool := false
  faulted : Bool := false
  submitLock : Option Nat := none
  callers : Nat → Stage := fun _ => .idle
  loop : Loop := .getting
  /-- The native calls, oldest first. -/
  executed : List Nat := []

namespace SdkOwner

variable (s : SdkOwner)

def setCaller (c : Nat) (stage : Stage) : SdkOwner :=
  { s with callers := update s.callers c stage }

def setFuture (id : Nat) (future : Future) : SdkOwner :=
  { s with calls := update s.calls id { s.calls id with future } }

/-- `submit_lock` is released. -/
def finish (c : Nat) (ending : Ending) : SdkOwner :=
  { s.setCaller c (.finished ending) with submitLock := none }

/-- `queue.put(call)`. -/
def put (kind : Kind) : SdkOwner := { s with
  queue := s.queue ++ [some s.created]
  calls := update s.calls s.created ⟨kind.method, kind.safety, .pending⟩
  created := s.created + 1 }

/-- The end of a wait; `close` only prints. -/
def answered (c : Nat) (kind : Kind) (ending : Ending) : SdkOwner :=
  match kind with
  | .close => s.setCaller c .closing
  | _ => s.finish c ending

def ending (id : Nat) : Ending :=
  if (s.calls id).future = .result then .returned else .failed

/-- The thread is alive, and has not set `stopped`. -/
def alive : Bool := s.loop ≠ .exited

/-- The section of `enqueue`, or of `close`. -/
def enter (c : Nat) : Kind → SdkOwner
  | .close =>
    if s.closed then s.setCaller c .joining
    else
      let s := { s with closing := true }
      if s.alive then (s.put .close).setCaller c (.waiting .close s.created)
      else s.setCaller c .closing
  | kind =>
    if s.closed || s.closing || !s.alive || (s.faulted && kind.method ≠ stopMove) then
      s.finish c .refused
    else (s.put kind).setCaller c (.waiting kind s.created)

end SdkOwner

inductive Label where
  | request (c : Nat) (kind : Kind)
  | lock (c : Nat)
  | enter (c : Nat)
  /-- The wait ends with the future. -/
  | answer (c : Nat)
  | timeout (c : Nat)
  | look (c : Nat)
  | cancel (c : Nat)
  | fault (c : Nat)
  | closeUp (c : Nat)
  /-- `join` returns, as the thread ended or its timeout ran out. -/
  | joined (c : Nat)
  | get
  | readFault
  | begin
  | native (raises overran : Bool)
  | mark
  | shut
  | drain

open SdkOwner in
/-- `none` where the label is not enabled. -/
def step (s : SdkOwner) : Label → Option SdkOwner
  | .request c kind => if s.callers c = .idle then some (s.setCaller c (.locking kind)) else none
  | .lock c => match s.callers c, s.submitLock with
      | .locking kind, none => some { s.setCaller c (.entering kind) with submitLock := some c }
      | _, _ => none
  | .enter c => match s.callers c with
      | .entering kind => some (s.enter c kind)
      | _ => none
  | .answer c => match s.callers c with
      | .waiting kind id =>
        if (s.calls id).future.settled then some (s.answered c kind (s.ending id)) else none
      | _ => none
  | .timeout c => match s.callers c with
      | .waiting kind id => some (s.setCaller c (.late kind id false))
      | _ => none
  | .look c => match s.callers c with
      | .late kind id again => some (
          if (s.calls id).future.settled then s.answered c kind (s.ending id)
          else if again then s.setCaller c (.faulting kind id)
          else if kind.safety then s.setCaller c (.late kind id true)
          else s.setCaller c (.cancelling kind id))
      | _ => none
  | .cancel c => match s.callers c with
      | .cancelling kind id => some (
          if (s.calls id).future = .pending then (s.setFuture id .cancelled).finish c (.cancelled id)
          else s.setCaller c (.late kind id true))
      | _ => none
  | .fault c => match s.callers c with
      | .faulting kind id => some (({ s with faulted := true }).answered c kind (.faulted id))
      | _ => none
  | .closeUp c => match s.callers c with
      | .closing => some ({ s with closed := true, queue := s.queue ++ [none] }.setCaller c .joining)
      | _ => none
  | .joined c => if s.callers c = .joining then some (s.finish c .returned) else none
  | .get => match s.loop, s.queue with
      | .getting, none :: rest => some { s with queue := rest, loop := .leaving }
      | .getting, some id :: rest =>
        if (s.calls id).future = .pending then
          some { s.setFuture id .running with queue := rest, loop := .starting id }
        else some { s with queue := rest }
      | _, _ => none
  | .readFault => match s.loop with
      | .starting id => some (
          if s.faulted && (s.calls id).method ≠ stopMove then
            { s.setFuture id .failed with loop := .getting }
          else { s with loop := .approved id })
      | _ => none
  | .begin => match s.loop with
      | .approved id => some { s with loop := .executing id, executed := s.executed ++ [id] }
      | _ => none
  | .native raises overran => match s.loop with
      | .executing id => some { s.setFuture id (if raises then .failed else .result) with
          loop := .marking id overran }
      | _ => none
  | .mark => match s.loop with
      | .marking id overran => some { s with
          loop := .getting
          faulted := s.faulted || (overran && (s.calls id).method ≠ stopMove) }
      | _ => none
  | .shut => match s.loop with
      | .leaving => some { s with closing := true, closed := true, loop := .draining }
      | _ => none
  | .drain => match s.loop, s.queue with
      | .draining, none :: rest => some { s with queue := rest }
      | .draining, some id :: rest => some (
          if (s.calls id).future = .pending then { s.setFuture id .failed with queue := rest }
          else { s with queue := rest })
      | .draining, [] => some { s with loop := .exited }
      | _, _ => none

/-! ## Where a call is -/

namespace SdkOwner

def queued (s : SdkOwner) : List Nat := s.queue.filterMap id

def line (s : SdkOwner) : List Nat := s.executed ++ s.loop.taken.toList ++ s.queued

end SdkOwner

def Stage.awaits : Stage → Option (Kind × Nat)
  | .waiting kind id | .late kind id _ | .cancelling kind id | .faulting kind id => some (kind, id)
  | _ => none

structure Inv (s : SdkOwner) : Prop where
  ordered : s.line.Pairwise (· < ·)
  bounded : ∀ id ∈ s.line, id < s.created
  pending : ∀ id < s.created, (s.calls id).future = .pending → id ∈ s.queued
  running : ∀ id < s.created, (s.calls id).future = .running → s.loop.current = some id
  current : ∀ id, s.loop.current = some id → (s.calls id).future = .running ∧ id < s.created
  executed : ∀ id ∈ s.executed, (s.calls id).future ≠ .pending ∧ (s.calls id).future ≠ .cancelled
  cancelled : ∀ id < s.created, (s.calls id).future = .cancelled → (s.calls id).safety = false
  shut : s.loop = .draining ∨ s.loop = .exited → s.closed = true
  empty : s.loop = .exited → s.queued = []
  awaits : ∀ c kind id, (s.callers c).awaits = some (kind, id) →
    id < s.created ∧ (s.calls id).safety = kind.safety
  cancelling : ∀ c kind id, s.callers c = .cancelling kind id → kind.safety = false

section

variable {s t : SdkOwner} {c : Nat} {l : Label}

/-- What the callers of `t` wait for is as in `s`. -/
structure Waits (s t : SdkOwner) : Prop where
  awaits : ∀ c kind id, (t.callers c).awaits = some (kind, id) →
    id < s.created ∧ (s.calls id).safety = kind.safety
  cancelling : ∀ c kind id, t.callers c = .cancelling kind id → kind.safety = false

theorem waits_set (inv : Inv s) {stage} (moved : t.callers = update s.callers c stage)
    (own : ∀ kind id, stage.awaits = some (kind, id) → id < s.created ∧ (s.calls id).safety = kind.safety)
    (cancelling : ∀ kind id, stage = .cancelling kind id → kind.safety = false) : Waits s t := by
  constructor <;> intro d kind id here <;> rw [moved] at here <;> by_cases same : d = c
  · rw [same, update_self] at here
    exact own kind id here
  · rw [update_of_ne same] at here
    exact inv.awaits d kind id here
  · rw [same, update_self] at here
    exact cancelling kind id here
  · rw [update_of_ne same] at here
    exact inv.cancelling d kind id here

theorem Inv.frame (inv : Inv s) (queued : t.queued = s.queued) (calls : t.calls = s.calls)
    (created : t.created = s.created) (loop : t.loop = s.loop) (executed : t.executed = s.executed)
    (closed : s.closed = true → t.closed = true) (waits : Waits s t) : Inv t := by
  have line : t.line = s.line := by rw [SdkOwner.line, SdkOwner.line, queued, loop, executed]
  exact ⟨line ▸ inv.ordered, by rw [line, created]; exact inv.bounded,
    by rw [created, calls, queued]; exact inv.pending, by rw [created, calls, loop]; exact inv.running,
    by rw [loop, calls, created]; exact inv.current, by rw [executed, calls]; exact inv.executed,
    by rw [created, calls]; exact inv.cancelled, by rw [loop]; exact fun gone => closed (inv.shut gone),
    by rw [loop, queued]; exact inv.empty, by rw [created, calls]; exact waits.awaits, waits.cancelling⟩

theorem queued_put (kind : Kind) : (s.put kind).queued = s.queued ++ [s.created] := by
  simp [SdkOwner.queued, SdkOwner.put]

theorem calls_put (kind : Kind) {id} (old : id < s.created) : (s.put kind).calls id = s.calls id :=
  update_of_ne (Nat.ne_of_lt old) _ _

theorem Inv.put (inv : Inv s) (kind : Kind) (live : s.loop ≠ .exited) : Inv (s.put kind) := by
  have line : (s.put kind).line = s.line ++ [s.created] := by
    rw [SdkOwner.line, SdkOwner.line, queued_put, append_assoc _ _ [s.created]]
    rfl
  have old {id : Nat} (below : id < (s.put kind).created) : id < s.created ∨ id = s.created :=
    Nat.lt_succ_iff_lt_or_eq.mp below
  have new : (s.put kind).calls s.created = ⟨kind.method, kind.safety, .pending⟩ :=
    update_self ..
  refine ⟨?_, fun id member => ?_, fun id below pending => ?_, fun id below running => ?_,
    fun id current => ?_, fun id member => ?_, fun id below cancelled => ?_, inv.shut,
    fun gone => absurd gone live, fun c kind' id here => ?_, inv.cancelling⟩
  · rw [line]
    exact List.pairwise_append.mpr ⟨inv.ordered, pairwise_singleton _ _, fun id member last here => by
      rw [List.mem_singleton.mp here]; exact inv.bounded id member⟩
  · rw [line] at member
    rcases List.mem_append.mp member with before | last
    · exact Nat.lt_succ_of_lt (inv.bounded id before)
    · rw [List.mem_singleton.mp last]; exact Nat.lt_succ_self _
  · rw [queued_put]
    rcases old below with before | rfl
    · rw [calls_put kind before] at pending
      exact mem_append_left _ (inv.pending id before pending)
    · exact mem_append_right _ (mem_singleton_self _)
  · rcases old below with before | rfl
    · rw [calls_put kind before] at running
      exact inv.running id before running
    · rw [new] at running
      cases running
  · obtain ⟨running, before⟩ := inv.current id current
    rw [calls_put kind before]
    exact ⟨running, Nat.lt_succ_of_lt before⟩
  · have before := inv.bounded id (mem_append_left _ (mem_append_left _ member))
    rw [calls_put kind before]
    exact inv.executed id member
  · rcases old below with before | rfl
    · rw [calls_put kind before] at cancelled ⊢
      exact inv.cancelled id before cancelled
    · rw [new] at cancelled
      cases cancelled
  · obtain ⟨before, safety⟩ := inv.awaits c kind' id here
    rw [calls_put kind before]
    exact ⟨Nat.lt_succ_of_lt before, safety⟩

theorem safety_setFuture (id other : Nat) (future : Future) :
    ((s.setFuture id future).calls other).safety = (s.calls other).safety := by
  by_cases same : other = id
  · simp [SdkOwner.setFuture, same]
  · simp [SdkOwner.setFuture, update_of_ne same]

theorem future_setFuture (id other : Nat) (future : Future) :
    ((s.setFuture id future).calls other).future = if other = id then future else (s.calls other).future := by
  by_cases same : other = id <;> simp [SdkOwner.setFuture, same]

theorem Inv.advance (inv : Inv s) (line : t.line.Sublist s.line) (created : t.created = s.created)
    (safety : ∀ id, (t.calls id).safety = (s.calls id).safety) (callers : t.callers = s.callers)
    (pending : ∀ id, (t.calls id).future = .pending →
      (s.calls id).future = .pending ∧ (id ∈ s.queued → id ∈ t.queued))
    (running : ∀ id < s.created, (t.calls id).future = .running → t.loop.current = some id)
    (current : ∀ id, t.loop.current = some id → (t.calls id).future = .running ∧ id < s.created)
    (executed : ∀ id ∈ t.executed, (t.calls id).future ≠ .pending ∧ (t.calls id).future ≠ .cancelled)
    (cancelled : ∀ id, (t.calls id).future = .cancelled → (s.calls id).future = .cancelled)
    (shut : t.loop = .draining ∨ t.loop = .exited → t.closed = true)
    (empty : t.loop = .exited → t.queued = []) : Inv t := by
  refine ⟨inv.ordered.sublist line, fun id member => ?_, fun id below here => ?_, fun id below => ?_,
    fun id here => ?_, executed, fun id below here => ?_, shut, empty, fun c kind id here => ?_, ?_⟩
  · rw [created]
    exact inv.bounded id (line.subset member)
  · rw [created] at below
    exact (pending id here).2 (inv.pending id below (pending id here).1)
  · rw [created] at below
    exact running id below
  · rw [created]
    exact current id here
  · rw [created] at below
    rw [safety]
    exact inv.cancelled id below (cancelled id here)
  · rw [callers] at here
    rw [created, safety]
    exact inv.awaits c kind id here
  · rw [callers]
    exact inv.cancelling

theorem Inv.setCaller (inv : Inv s) {stage}
    (own : ∀ kind id, stage.awaits = some (kind, id) → id < s.created ∧ (s.calls id).safety = kind.safety)
    (cancelling : ∀ kind id, stage = .cancelling kind id → kind.safety = false) :
    Inv (s.setCaller c stage) :=
  inv.frame rfl rfl rfl rfl rfl id (waits_set inv rfl own cancelling)

theorem Inv.rest (inv : Inv s) {stage} (quiet : stage.awaits = none) : Inv (s.setCaller c stage) := by
  refine inv.setCaller (fun kind id here => ?_) fun kind id here => ?_
  · rw [quiet] at here
    cases here
  · rw [here] at quiet
    cases quiet

theorem Inv.finish (inv : Inv s) (ending : Ending) : Inv (s.finish c ending) := by
  have rest : Inv (s.setCaller c (.finished ending)) := inv.rest rfl
  exact rest.frame rfl rfl rfl rfl rfl id ⟨rest.awaits, rest.cancelling⟩

theorem Inv.answered (inv : Inv s) (kind : Kind) (ending : Ending) : Inv (s.answered c kind ending) := by
  cases kind with
  | close => exact inv.rest rfl
  | call | stop => exact inv.finish ending

theorem Inv.waiting (inv : Inv s) (kind : Kind) (live : s.loop ≠ .exited) :
    Inv ((s.put kind).setCaller c (.waiting kind s.created)) := by
  refine (inv.put kind live).setCaller (fun kind' id same => ?_) nofun
  obtain ⟨rfl, rfl⟩ := Prod.mk.inj (Option.some.inj same)
  refine ⟨Nat.lt_succ_self _, ?_⟩
  simp [SdkOwner.put]

theorem inv_enter (inv : Inv s) (kind : Kind) : Inv (s.enter c kind) := by
  have enqueue (kind : Kind) (refuses : Bool) (live : refuses = false → s.loop ≠ .exited) :
      Inv (if refuses then s.finish c .refused else (s.put kind).setCaller c (.waiting kind s.created)) := by
    cases refuses with
    | true => exact inv.finish .refused
    | false => exact inv.waiting kind (live rfl)
  cases kind with
  | close =>
    simp only [SdkOwner.enter]
    split
    · exact inv.rest rfl
    · have closing : Inv { s with closing := true } :=
        inv.frame rfl rfl rfl rfl rfl id ⟨inv.awaits, inv.cancelling⟩
      split
      · rename_i alive
        exact closing.waiting .close (by simpa [SdkOwner.alive] using alive)
      · exact closing.rest rfl
  | call method =>
    refine enqueue (.call method) _ fun accepted => ?_
    simp only [SdkOwner.alive, Bool.or_eq_false_iff] at accepted
    simpa using accepted.1.2
  | stop =>
    refine enqueue .stop _ fun accepted => ?_
    simp only [SdkOwner.alive, Bool.or_eq_false_iff] at accepted
    simpa using accepted.1.2

theorem inv_cancel (inv : Inv s) {id} (safety : (s.calls id).safety = false)
    (pending : (s.calls id).future = .pending) :
    Inv (s.setFuture id .cancelled) := by
  have kept (other : Nat) (future : Future) (here : ((s.setFuture id .cancelled).calls other).future = future)
      (unlike : future ≠ .cancelled) : (s.calls other).future = future := by
    rw [future_setFuture] at here
    split at here
    · exact absurd here.symm unlike
    · exact here
  refine ⟨inv.ordered, inv.bounded, fun other here p => inv.pending other here (kept other _ p nofun),
    fun other here r => inv.running other here (kept other _ r nofun), fun other here => ?_,
    fun other member => ⟨fun p => (inv.executed other member).1 (kept other _ p nofun), fun c => ?_⟩,
    fun other here c => ?_, inv.shut, inv.empty, fun c kind other here => ?_, inv.cancelling⟩
  · obtain ⟨running, here'⟩ := inv.current other here
    refine ⟨?_, here'⟩
    rw [future_setFuture, if_neg fun same => by rw [same, pending] at running; cases running]
    exact running
  · rw [future_setFuture] at c
    split at c
    · rename_i same
      exact (inv.executed other member).1 (same ▸ pending)
    · exact (inv.executed other member).2 c
  · rw [safety_setFuture]
    rw [future_setFuture] at c
    split at c
    · rename_i same
      rw [same]
      exact safety
    · exact inv.cancelled other here c
  · rw [safety_setFuture]
    exact inv.awaits c kind other here

theorem Inv.gone (inv : Inv s) (line : t.line = s.line) (created : t.created = s.created)
    (calls : t.calls = s.calls) (callers : t.callers = s.callers) (idle : s.loop.current = none)
    (idle' : t.loop.current = none) (executed : t.executed = s.executed)
    (shut : t.loop = .draining ∨ t.loop = .exited → t.closed = true) (live : t.loop ≠ .exited)
    (queued : t.queued = s.queued := by rfl) : Inv t := by
  refine inv.advance (line ▸ List.Sublist.refl _) created (fun id => by rw [calls]) callers
    (fun id here => ⟨by rw [← calls]; exact here, fun member => queued ▸ member⟩) (fun id below here => ?_)
    (fun id here => ?_) (by rw [executed, calls]; exact inv.executed) (fun id here => by rw [← calls]; exact here)
    shut fun gone => absurd gone live
  · rw [calls] at here
    have there := inv.running id below here
    rw [idle] at there
    cases there
  · rw [idle'] at here
    cases here

theorem inv_get (inv : Inv s) (next : step s .get = some t) : Inv t := by
  simp only [step] at next
  split at next
  · rename_i rest loop queue
    cases next
    have queued : s.queued = rest.filterMap id := by rw [SdkOwner.queued, queue]; rfl
    exact inv.gone (by simp [SdkOwner.line, loop, queue, taken, SdkOwner.queued]) rfl rfl rfl
      (by rw [loop]; rfl) rfl rfl nofun nofun queued.symm
  · rename_i first rest loop queue
    have queued : s.queued = first :: rest.filterMap id := by rw [SdkOwner.queued, queue]; rfl
    have idle (id : Nat) (below : id < s.created) : (s.calls id).future ≠ .running := fun running => by
      have here := inv.running id below running
      rw [loop] at here
      cases here
    have member : first ∈ s.line := mem_append_right _ (by rw [queued]; exact mem_cons_self)
    split at next
    · rename_i pending
      cases next
      have future (other : Nat) := @future_setFuture s first other .running
      refine inv.advance ?_ rfl (fun id => safety_setFuture ..) rfl (fun id here => ?_) (fun id below here => ?_)
        (fun id here => ?_) (fun id done => ?_) (fun id here => ?_) nofun nofun
      · simp [SdkOwner.line, loop, queue, taken, SdkOwner.queued, SdkOwner.setFuture]
      · rw [future] at here
        split at here
        · cases here
        · rename_i unlike
          refine ⟨here, fun held => ?_⟩
          rw [queued] at held
          exact (List.mem_cons.mp held).resolve_left unlike
      · rw [future] at here
        split at here
        · rename_i same
          rw [same]
          rfl
        · exact absurd here (idle id below)
      · cases here
        rw [future, if_pos rfl]
        exact ⟨rfl, inv.bounded _ member⟩
      · rw [future]
        split
        · exact ⟨nofun, nofun⟩
        · exact inv.executed id done
      · rw [future] at here
        split at here
        · cases here
        · exact here
    · rename_i unlike
      cases next
      refine inv.advance ?_ rfl (fun _ => rfl) rfl (fun id here => ⟨here, fun held => ?_⟩)
        (fun id below here => absurd here (idle id below)) (fun id here => ?_) inv.executed (fun _ => id) ?_ ?_
      · simp [SdkOwner.line, loop, queue, taken, SdkOwner.queued]
      · rw [queued] at held
        refine (List.mem_cons.mp held).resolve_left fun same => ?_
        exact unlike (same ▸ here)
      · rw [show s.loop.current = none by rw [loop]; rfl] at here
        cases here
      · dsimp only
        rw [loop]
        exact nofun
      · dsimp only
        rw [loop]
        exact nofun
  · cases next

theorem inv_readFault (inv : Inv s) (next : step s .readFault = some t) : Inv t := by
  simp only [step] at next
  split at next
  · rename_i first loop
    cases next
    obtain ⟨running, below⟩ := inv.current first (by rw [loop]; rfl)
    have only (id : Nat) (here : id < s.created) (runs : (s.calls id).future = .running) : id = first := by
      have there := inv.running id here runs
      rw [loop] at there
      exact (Option.some.inj there).symm
    split
    · have future (other : Nat) := @future_setFuture s first other .failed
      refine inv.advance ?_ rfl (fun id => safety_setFuture ..) rfl (fun id here => ?_) (fun id below here => ?_)
        nofun (fun id done => ?_) (fun id here => ?_) nofun nofun
      · simp [SdkOwner.line, loop, taken, SdkOwner.queued, SdkOwner.setFuture]
      · rw [future] at here
        split at here
        · cases here
        · exact ⟨here, fun held => held⟩
      · rw [future] at here
        split at here
        · cases here
        · rename_i unlike
          exact absurd (only id below here) unlike
      · rw [future]
        split
        · exact ⟨nofun, nofun⟩
        · exact inv.executed id done
      · rw [future] at here
        split at here
        · cases here
        · exact here
    · refine inv.advance ?_ rfl (fun _ => rfl) rfl (fun id here => ⟨here, fun held => held⟩) (fun id below here => ?_)
        (fun id here => ?_) inv.executed (fun _ => id) nofun nofun
      · simp [SdkOwner.line, loop, taken, SdkOwner.queued]
      · rw [only id below here]
        rfl
      · cases here
        exact ⟨running, below⟩
  · cases next

theorem inv_begin (inv : Inv s) (next : step s .begin = some t) : Inv t := by
  simp only [step] at next
  split at next
  · rename_i first loop
    cases next
    obtain ⟨running, below⟩ := inv.current first (by rw [loop]; rfl)
    refine inv.advance ?_ rfl (fun _ => rfl) rfl (fun id here => ⟨here, fun held => held⟩) (fun id below here => ?_)
      (fun id here => ?_) (fun id done => ?_) (fun _ => id) nofun nofun
    · simp [SdkOwner.line, loop, taken, SdkOwner.queued]
    · have there := inv.running id below here
      rw [loop] at there
      exact there
    · cases here
      exact ⟨running, below⟩
    · rcases List.mem_append.mp done with old | new
      · exact inv.executed id old
      · rw [List.mem_singleton.mp new, running]
        exact ⟨nofun, nofun⟩
  · cases next

theorem inv_native (inv : Inv s) {raises overran} (next : step s (.native raises overran) = some t) :
    Inv t := by
  simp only [step] at next
  split at next
  · rename_i first loop
    cases next
    have only (id : Nat) (here : id < s.created) (runs : (s.calls id).future = .running) : id = first := by
      have there := inv.running id here runs
      rw [loop] at there
      exact (Option.some.inj there).symm
    have future (other : Nat) := @future_setFuture s first other (if raises then .failed else .result)
    refine inv.advance ?_ rfl (fun id => safety_setFuture ..) rfl (fun id here => ?_) (fun id below here => ?_)
      nofun (fun id done => ?_) (fun id here => ?_) nofun nofun
    · simp [SdkOwner.line, loop, taken, SdkOwner.queued, SdkOwner.setFuture]
    · rw [future] at here
      split at here
      · cases raises <;> cases here
      · exact ⟨here, fun held => held⟩
    · rw [future] at here
      split at here
      · cases raises <;> cases here
      · rename_i unlike
        exact absurd (only id below here) unlike
    · rw [future]
      split
      · cases raises <;> exact ⟨nofun, nofun⟩
      · exact inv.executed id done
    · rw [future] at here
      split at here
      · cases raises <;> cases here
      · exact here
  · cases next

theorem inv_drain (inv : Inv s) (next : step s .drain = some t) : Inv t := by
  have idle (draining : s.loop = .draining) (id : Nat) (below : id < s.created) :
      (s.calls id).future ≠ .running := fun running => by
    have here := inv.running id below running
    rw [draining] at here
    cases here
  have none_ (draining : s.loop = .draining) (id : Nat) : s.loop.current ≠ some id := by
    rw [draining]
    exact nofun
  simp only [step] at next
  split at next
  · rename_i rest loop queue
    cases next
    have queued : s.queued = rest.filterMap id := by rw [SdkOwner.queued, queue]; rfl
    refine inv.gone ?_ rfl rfl rfl (by rw [loop]; rfl) (by dsimp only; rw [loop]; rfl) rfl
      (fun _ => inv.shut (.inl loop)) (by dsimp only; rw [loop]; exact nofun) queued.symm
    simp [SdkOwner.line, loop, queue, taken, SdkOwner.queued]
  · rename_i first rest loop queue
    cases next
    have queued : s.queued = first :: rest.filterMap id := by rw [SdkOwner.queued, queue]; rfl
    have future (other : Nat) := @future_setFuture s first other .failed
    split
    · rename_i pending
      refine inv.advance ?_ rfl (fun id => safety_setFuture ..) rfl (fun id here => ?_) (fun id below here => ?_)
        (fun id here => absurd here (none_ loop id)) (fun id done => ?_) (fun id here => ?_)
        (fun _ => inv.shut (.inl loop)) ?_
      · simp [SdkOwner.line, loop, queue, taken, SdkOwner.queued, SdkOwner.setFuture]
      · rw [future] at here
        split at here
        · cases here
        · rename_i unlike
          refine ⟨here, fun held => ?_⟩
          rw [queued] at held
          exact (List.mem_cons.mp held).resolve_left unlike
      · rw [future] at here
        split at here
        · cases here
        · exact absurd here (idle loop id below)
      · rw [future]
        split
        · exact ⟨nofun, nofun⟩
        · exact inv.executed id done
      · rw [future] at here
        split at here
        · cases here
        · exact here
      · intro gone
        exact absurd (loop.symm.trans gone) nofun
    · rename_i unlike
      refine inv.advance ?_ rfl (fun _ => rfl) rfl (fun id here => ⟨here, fun held => ?_⟩)
        (fun id below here => absurd here (idle loop id below)) (fun id here => absurd here (none_ loop id))
        inv.executed (fun _ => id) (fun _ => inv.shut (.inl loop)) fun gone => absurd (loop.symm.trans gone) nofun
      · simp [SdkOwner.line, loop, queue, taken, SdkOwner.queued]
      · rw [queued] at held
        refine (List.mem_cons.mp held).resolve_left fun same => ?_
        exact unlike (same ▸ here)
  · rename_i loop queue
    cases next
    have queued : s.queued = [] := by rw [SdkOwner.queued, queue]; rfl
    refine inv.advance ?_ rfl (fun _ => rfl) rfl (fun id here => ⟨here, fun held => held⟩)
      (fun id below here => absurd here (idle loop id below)) nofun inv.executed (fun _ => id)
      (fun _ => inv.shut (.inl loop)) fun _ => queued
    simp [SdkOwner.line, loop, taken, SdkOwner.queued]
  · cases next

theorem inv_step (inv : Inv s) (next : step s l = some t) : Inv t := by
  cases l with simp only [step] at next
  | request =>
    split at next <;> cases next
    exact inv.rest rfl
  | lock c =>
    split at next <;> cases next
    rename_i kind _ _
    have entered := @Inv.rest _ c inv (.entering kind) rfl
    exact entered.frame rfl rfl rfl rfl rfl id ⟨entered.awaits, entered.cancelling⟩
  | enter =>
    split at next <;> cases next
    exact inv_enter inv _
  | answer =>
    split at next
    · split at next <;> cases next
      exact inv.answered ..
    · cases next
  | timeout c =>
    split at next
    · rename_i kind id here
      cases next
      refine inv.setCaller (fun kind' id' same => ?_) nofun
      exact inv.awaits c kind' id' (by rw [here]; exact same)
    · cases next
  | look c =>
    split at next
    · rename_i kind id again here
      have own (kind' : Kind) (id' : Nat) (same : some (kind, id) = some (kind', id')) :=
        inv.awaits c kind' id' (by rw [here]; exact same)
      cases next
      split
      · exact inv.answered ..
      split
      · exact inv.setCaller own nofun
      split
      · exact inv.setCaller own nofun
      · rename_i unsafe_
        refine inv.setCaller own fun kind' id' same => ?_
        obtain ⟨rfl, rfl⟩ := Stage.cancelling.inj same
        simpa using unsafe_
    · cases next
  | cancel c =>
    split at next
    · rename_i kind id here
      cases next
      obtain ⟨_, safety⟩ := inv.awaits c kind id (by rw [here]; rfl)
      split
      · rename_i pending
        exact (inv_cancel inv (safety.trans (inv.cancelling c kind id here)) pending).finish _
      · refine inv.setCaller (fun kind' id' same => ?_) nofun
        exact inv.awaits c kind' id' (by rw [here]; exact same)
    · cases next
  | fault =>
    split at next <;> cases next
    have faulted : Inv { s with faulted := true } :=
      inv.frame rfl rfl rfl rfl rfl id ⟨inv.awaits, inv.cancelling⟩
    exact faulted.answered ..
  | closeUp c =>
    split at next <;> cases next
    have gone := @Inv.rest _ c inv .joining rfl
    exact gone.frame (by simp [SdkOwner.queued, SdkOwner.setCaller]) rfl rfl rfl rfl (fun _ => rfl)
      ⟨gone.awaits, gone.cancelling⟩
  | joined =>
    split at next <;> cases next
    exact inv.finish _
  | get => exact inv_get inv next
  | readFault => exact inv_readFault inv next
  | begin => exact inv_begin inv next
  | native => exact inv_native inv next
  | mark =>
    split at next
    · rename_i here
      cases next
      exact inv.gone (by simp [SdkOwner.line, SdkOwner.queued, here, taken]) rfl rfl rfl
        (by rw [here]; rfl) rfl rfl nofun nofun
    · cases next
  | shut =>
    split at next
    · rename_i here
      cases next
      exact inv.gone (by simp [SdkOwner.line, SdkOwner.queued, here, taken]) rfl rfl rfl
        (by rw [here]; rfl) rfl rfl (fun _ => rfl) nofun
    · cases next
  | drain => exact inv_drain inv next

end

/-! ## What a run keeps -/

/-- What a later state keeps of `s`. -/
structure Later (s t : SdkOwner) : Prop where
  created : s.created ≤ t.created
  method : ∀ id < s.created, (t.calls id).method = (s.calls id).method
  settled : ∀ id < s.created, (s.calls id).future.settled = true → (t.calls id).future = (s.calls id).future
  /-- What was executed since had not been settled. -/
  unsettled : ∀ id < s.created, id ∈ t.executed → id ∈ s.executed ∨ (s.calls id).future.settled = false
  executed : ∀ id ∈ s.executed, id ∈ t.executed
  fault : s.faulted = true → t.faulted = true
  /-- A faulted transport accepts stops. -/
  accepted : s.faulted = true → ∀ id < t.created, s.created ≤ id → (t.calls id).method = stopMove
  /-- A faulted transport executes stops, and the call it was committed to. -/
  native : s.faulted = true → ∀ id ∈ t.executed, id ∈ s.executed ∨ (t.calls id).method = stopMove ∨
    s.loop.committed = some id
  committed : s.faulted = true → ∀ id, t.loop.committed = some id → (t.calls id).method = stopMove ∨
    s.loop.committed = some id
  exited : s.loop = .exited → t.loop = .exited ∧ t.executed = s.executed ∧ t.created = s.created

variable {s t u : SdkOwner} {l : Label} {ls : List Label}

theorem Later.trans (inv : Inv t) (first : Later s t) (second : Later t u) : Later s u := by
  refine ⟨first.created.trans second.created, fun id below => ?_, fun id below settled => ?_,
    fun id below done => ?_, fun id done => second.executed id (first.executed id done),
    fun fault => second.fault (first.fault fault), fun fault id below above => ?_, fun fault id done => ?_,
    fun fault id committed => ?_, fun gone => ?_⟩
  · rw [second.method id (below.trans_le first.created), first.method id below]
  · have same := first.settled id below settled
    rw [second.settled id (below.trans_le first.created) (same ▸ settled), same]
  · rcases second.unsettled id (below.trans_le first.created) done with old | open_
    · exact first.unsettled id below old
    · refine .inr (Bool.eq_false_iff.mpr fun settled => ?_)
      rw [first.settled id below settled, settled] at open_
      cases open_
  · by_cases old : id < t.created
    · rw [second.method id old]
      exact first.accepted fault id old above
    · exact second.accepted (first.fault fault) id below (Nat.not_lt.mp old)
  · rcases second.native (first.fault fault) id done with old | stop | committed
    · rcases first.native fault id old with older | stop | committed
      · exact .inl older
      · have below := inv.bounded id (mem_append_left _ (mem_append_left _ old))
        exact .inr (.inl ((second.method id below).trans stop))
      · exact .inr (.inr committed)
    · exact .inr (.inl stop)
    · rcases first.committed fault id committed with stop | before
      · have below : id < t.created := by
          refine (inv.current id ?_).2
          cases loop : t.loop <;> rw [loop] at committed <;> first | exact committed | cases committed
        exact .inr (.inl ((second.method id below).trans stop))
      · exact .inr (.inr before)
  · rcases second.committed (first.fault fault) id committed with stop | before
    · exact .inl stop
    · rcases first.committed fault id before with stop | older
      · have below : id < t.created := by
          refine (inv.current id ?_).2
          cases loop : t.loop <;> rw [loop] at before <;> first | exact before | cases before
        exact .inl ((second.method id below).trans stop)
      · exact .inr older
  · obtain ⟨gone', executed, created⟩ := first.exited gone
    obtain ⟨gone'', executed', created'⟩ := second.exited gone'
    exact ⟨gone'', executed'.trans executed, created'.trans created⟩

theorem later_same (calls : t.calls = s.calls) (created : t.created = s.created) (loop : t.loop = s.loop)
    (executed : t.executed = s.executed) (fault : s.faulted = true → t.faulted = true) : Later s t := by
  refine ⟨created.symm.le, fun id _ => by rw [calls], fun id _ _ => by rw [calls],
    fun id _ => by rw [executed]; exact .inl, fun id => by rw [executed]; exact fun done => done, fault,
    fun _ id below above => ?_, fun _ id => by rw [executed]; exact .inl, fun _ id => by rw [loop]; exact .inr,
    fun gone => ⟨loop.trans gone, executed, created⟩⟩
  rw [created] at below
  exact absurd below (Nat.not_lt.mpr above)

theorem later_finish (c : Nat) (ending : Ending) : Later s (s.finish c ending) :=
  later_same rfl rfl rfl rfl id

theorem inv_init : Inv {} := by
  refine ⟨List.Pairwise.nil, nofun, nofun, nofun, nofun, nofun, nofun, fun gone => ?_, nofun, nofun, nofun⟩
  rcases gone with gone | gone <;> cases gone

def Reported (s : SdkOwner) : Prop :=
  ∀ c id, s.callers c = .finished (.cancelled id) → id < s.created ∧ (s.calls id).future = .cancelled

def Moves (s t : SdkOwner) (c : Nat) : Prop :=
  ∃ stage, t.callers = update s.callers c stage ∧ ∀ id, stage ≠ .finished (.cancelled id)

theorem Inv.somewhere (inv : Inv s) {id} (below : id < s.created) :
    (s.calls id).future.settled = true ∨ s.loop.current = some id ∨ id ∈ s.queued := by
  cases future : (s.calls id).future with
  | pending => exact .inr (.inr (inv.pending id below future))
  | running => exact .inr (.inl (inv.running id below future))
  | cancelled | result | failed => exact .inl rfl

end EmbodiRun.Go2.Owner
