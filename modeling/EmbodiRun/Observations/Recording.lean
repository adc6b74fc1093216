/-
# Observations.Recording -- `ObservationRecorder`

A recorder subscribes in `start`, and its worker writes one record for each snapshot it gets and
for each action event, until a stop is requested and the queue is empty.  A label is one section
of the worker, of a caller, or of the store's publisher.

The recorder notices a loss by a gap in the sequence numbers of what it writes.  It reads the
subscription's count of drops only for the record.

`requested`, `due`, `published`, `seen` and `taken` are read by no section: whether a stop was
requested, the snapshots published since `start` until then, all of them, the count of drops
at the last `get`, and the events that `record_action` took.
-/
import EmbodiRun.Observations.Store
import EmbodiRun.Transition.Machine

namespace EmbodiRun.Observations.Recording

open Transition

universe u v

/-! ## Data -/

/-- `flawed` says whether a frame or the state is missing, or the snapshot has errors. -/
structure Settings (β : Type u) where
  queueSize : Nat
  maxRecords : Nat
  flawed : Snapshot β → Bool
  positive : 0 < queueSize

/-- `_state`. -/
inductive Stage where
  | created | running | stopping | stopped | failed
  deriving DecidableEq

inductive Phase (β : Type u) where
  | unstarted
  /-- `_drain_actions` at the top of the loop. -/
  | draining
  | getting
  /-- `get` raised `Empty`. -/
  | checking
  /-- `skipped`: the subscription has dropped snapshots since the last `get`. -/
  | writing (snapshot : Snapshot β) (skipped : Bool)
  | written
  /-- The last `_drain_actions`, with room for as many events. -/
  | finishing (budget : Nat)
  | closing
  | saving
  | over

def Phase.left {β : Type u} : Phase β → Bool
  | .finishing _ | .closing | .saving | .over => true
  | _ => false

def Phase.inFlight {β : Type u} : Phase β → List (Snapshot β)
  | .writing x _ => [x]
  | _ => []

structure State (β : Type u) (α : Type v) where
  store : Store β := {}
  /-- The recorder's subscription. -/
  sub : Subscription β := { maxQueue := 0 }
  /-- What the publisher has still to offer to it. -/
  pending : Option (Snapshot β) := none
  state : Stage := .created
  stopEvent : Bool := false
  incomplete : Bool := false
  lastSequence : Option Nat := none
  drainBudget : Option Nat := none
  actionQueue : List α := []
  phase : Phase β := .unstarted
  observations : List (Snapshot β) := []
  actions : List α := []
  requested : Bool := false
  due : List (Snapshot β) := []
  published : List (Snapshot β) := []
  seen : Nat := 0
  taken : List α := []

inductive Label (β : Type u) (α : Type v) where
  /-- `ok`: directory, files, subscription and manifest raise nothing. -/
  | start (ok : Bool)
  | recordAction (event : α)
  | stop
  /-- `stop` gives up waiting for the worker. -/
  | stopTimeout
  | publish (snapshot : Snapshot β)
  | offer
  | beginGeneration
  | closeStore
  | shut
  /-- `ok`: the storage takes the record. -/
  | drain (ok : Bool)
  | drained
  | get
  | timeout
  | check
  | write (ok : Bool)
  | afterWrite
  | closeSubscription
  | finish (ok : Bool)

/-! ## The sections -/

variable {β : Type u} {α : Type v}

def recorder : SubId := 0

namespace State

/-- `_fail`, and on to this phase. -/
def fail (s : State β α) (phase : Phase β) : State β α :=
  { s with state := .failed, incomplete := true, stopEvent := true, phase }

def start (cfg : Settings β) (s : State β α) (ok : Bool) : State β α :=
  match s.store.register recorder false with
  | .ok (store, _) =>
    if ok then
      { s with store, sub := { maxQueue := cfg.queueSize }, state := .running, phase := .draining }
    else { s with state := .failed, incomplete := true }
  | .error _ => { s with state := .failed, incomplete := true }

def recordAction (cfg : Settings β) (s : State β α) (event : α) : State β α :=
  match s.state with
  | .created | .running =>
    let displaced : Bool := s.actionQueue.length = cfg.queueSize
    { s with
      actionQueue := pushed cfg.queueSize s.actionQueue event
      incomplete := s.incomplete || displaced
      taken := if displaced then s.taken else s.taken ++ [event] }
  | _ => s

def stop (s : State β α) : State β α :=
  match s.state with
  | .created => { s with state := .stopped }
  | .stopped | .failed => s
  | .running | .stopping => { s with state := .stopping, stopEvent := true, requested := true }

/-- The section of `publish`; the subscribers to serve are those of the store then. -/
def publish (cfg : Config) (s : State β α) (x : Snapshot β) : State β α :=
  match s.store.publish cfg x with
  | .error _ => s
  | .ok store =>
    if recorder ∈ store.subscriptions then
      { s with
        store, pending := some x, published := s.published ++ [x]
        due := if s.requested then s.due else s.due ++ [x] }
    else { s with store }

/-- `_write_snapshot`: its first section, and the record unless the storage raises. -/
def write (cfg : Settings β) (s : State β α) (x : Snapshot β) (ok : Bool) : State β α :=
  if cfg.maxRecords ≤ s.observations.length then s.fail (.finishing cfg.queueSize)
  else
    let gap : Bool := s.lastSequence.any fun last => last + 1 < x.sequence
    let s := { s with
      incomplete := s.incomplete || gap || cfg.flawed x, lastSequence := some x.sequence }
    if ok then { s with observations := s.observations ++ [x], phase := .written }
    else s.fail (.finishing cfg.queueSize)

/-- `drain_budget` after one more snapshot was written under a stop request. -/
def budget (cfg : Settings β) (s : State β α) : Nat :=
  match s.drainBudget with
  | none => cfg.queueSize
  | some budget => budget - 1

def afterWrite (cfg : Settings β) (s : State β α) : State β α :=
  if s.stopEvent then
    if s.budget cfg = 0 then
      { s with drainBudget := some (s.budget cfg), incomplete := true, phase := .finishing cfg.queueSize }
    else { s with drainBudget := some (s.budget cfg), phase := .draining }
  else { s with phase := .draining }

/-- The last section; `ok` says whether the manifest is written. -/
def finish (s : State β α) (ok : Bool) : State β α :=
  let s := { s with state := if s.state = .failed then .failed else .stopped, phase := .over }
  if ok then s else { s with state := .failed, incomplete := true }

end State

def step (store : Config) (cfg : Settings β) (s : State β α) : Label β α → Option (State β α)
  | .start ok => if s.state = .created then some (s.start cfg ok) else none
  | .recordAction event => some (s.recordAction cfg event)
  | .stop => some s.stop
  | .stopTimeout => if s.requested then some { s with incomplete := true } else none
  | .publish x => if s.pending.isSome then none else some (s.publish store x)
  | .offer => s.pending.map fun x => { s with sub := s.sub.offer x, pending := none }
  | .beginGeneration => match s.store.beginGeneration store with
      | .error _ => some s
      | .ok store => some { s with store }
  | .closeStore => some { s with store := s.store.close }
  | .shut => match s.phase with
      | .unstarted => none
      | _ => if s.store.closed then some { s with sub := s.sub.shut } else none
  | .drain ok => match s.phase, s.actionQueue with
      | .draining, event :: rest =>
        if ok then some { s with actionQueue := rest, actions := s.actions ++ [event] }
        else some (State.fail { s with actionQueue := rest } (.finishing cfg.queueSize))
      | .finishing (n + 1), event :: rest =>
        if ok then
          some { s with actionQueue := rest, actions := s.actions ++ [event], phase := .finishing n }
        else some (State.fail { s with actionQueue := rest } .closing)
      | _, _ => none
  | .drained => match s.phase, s.actionQueue with
      | .draining, [] => some { s with phase := .getting }
      | .finishing _, [] | .finishing 0, _ => some { s with phase := .closing }
      | _, _ => none
  | .get => match s.phase, s.sub.get with
      | .getting, (some x, sub) =>
        some { s with
          sub, seen := s.sub.droppedCount, phase := .writing x (s.sub.droppedCount ≠ s.seen) }
      | .getting, (none, _) => if s.sub.closed then some (s.fail (.finishing cfg.queueSize)) else none
      | _, _ => none
  | .timeout => match s.phase, s.sub.queue with
      | .getting, [] => if s.sub.closed then none else some { s with phase := .checking }
      | _, _ => none
  | .check => match s.phase with
      | .checking =>
        some { s with phase := if s.stopEvent then .finishing cfg.queueSize else .draining }
      | _ => none
  | .write ok => match s.phase with
      | .writing x _ => some (s.write cfg x ok)
      | _ => none
  | .afterWrite => match s.phase with
      | .written => some (s.afterWrite cfg)
      | _ => none
  | .closeSubscription => match s.phase with
      | .closing => some { s with store := s.store.discard recorder, sub := s.sub.shut, phase := .saving }
      | _ => none
  | .finish ok => match s.phase with
      | .saving => some (s.finish ok)
      | _ => none

end EmbodiRun.Observations.Recording
