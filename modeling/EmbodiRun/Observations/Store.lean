/-
# Observations.Store -- `ObservationStore` and `ObservationSubscription`

One definition for each section under the store's lock or a subscription's condition.  What
a section raises is its error; a section that raises leaves its state as it was.  `body` is
what a snapshot holds beside its identity, and no section reads it.

A subscription also keeps what was ever put into its queue (`accepted`) and what `get`
returned (`delivered`); no section reads these.
-/
import EmbodiRun.Data.Dict
import EmbodiRun.Devices.Identity

namespace EmbodiRun.Observations

open Data Devices List

universe u

abbrev SubId := Nat

/-! ## Data -/

/-- `ObservationSnapshot`. -/
structure Snapshot (β : Type u) where
  observationId : Text
  serviceInstanceId : Text
  generation : Nat
  sequence : Nat
  body : β
  deriving DecidableEq

/-- `max_retained`, which the constructor takes only where it is positive. -/
structure Config where
  serviceInstanceId : Text
  maxRetained : Nat
  positive : 0 < maxRetained

inductive StoreError where
  /-- `ObservationError("observation store is closed")`. -/
  | closed
  /-- `ValueError("snapshot belongs to a different service instance")`. -/
  | differentInstance
  /-- `ObservationUnavailableError(…, "snapshot belongs to an expired reconnect generation")`. -/
  | expiredGeneration (observationId : Text)
  /-- `ValueError("observation_id cannot be published more than once")`. -/
  | publishedTwice
  /-- `ValueError("observation sequence must increase")`. -/
  | sequenceMustIncrease
  /-- `ValueError("max_queue must be positive")`. -/
  | queueNotPositive

/-- The attributes of the store; the `set` of subscriptions holds their identities. -/
structure Store (β : Type u) where
  retained : List (Snapshot β) := []
  byId : Dict Text (Snapshot β) := .empty
  retiredIds : List Text := []
  subscriptions : Finset SubId := ∅
  latest : Option (Snapshot β) := none
  generation : Nat := 0
  nextSequence : Nat := 0
  closed : Bool := false

variable {β : Type u} {cfg : Config}

/-- `deque(maxlen=n)` after one more item on its right. -/
def pushed {α : Type u} (n : Nat) (items : List α) (x : α) : List α :=
  (items ++ [x]).drop (items.length + 1 - n)

/-! ## The sections of the store -/

namespace Store

def decimal (n : Nat) : Text := Nat.toDigits 10 n

/-- The f-string of `next_observation_id`. -/
def observationId (cfg : Config) (generation sequence : Nat) : Text :=
  cfg.serviceInstanceId ++ [':', 'g'] ++ decimal generation ++ [':', 'o'] ++ decimal sequence

def nextObservationId (cfg : Config) (s : Store β) : Except StoreError ((Text × Nat × Nat) × Store β) :=
  if s.closed then .error .closed
  else
    let sequence := s.nextSequence + 1
    .ok ((observationId cfg s.generation sequence, s.generation, sequence), { s with nextSequence := sequence })

/-- The snapshot that is about to leave the full window, as `publish` retires it. -/
def retire (cfg : Config) (s : Store β) : Store β :=
  match s.retained with
  | retired :: _ =>
    if s.retained.length = cfg.maxRetained then
      { s with
        byId := s.byId.erase retired.observationId
        retiredIds := pushed (cfg.maxRetained * 2) s.retiredIds retired.observationId }
    else s
  | [] => s

/-- The section of `publish`; the subscribers to serve are those of the store then. -/
def publish (cfg : Config) (s : Store β) (snapshot : Snapshot β) : Except StoreError (Store β) :=
  if s.closed then .error .closed
  else if snapshot.serviceInstanceId ≠ cfg.serviceInstanceId then .error .differentInstance
  else if snapshot.generation ≠ s.generation then .error (.expiredGeneration snapshot.observationId)
  else if (s.byId.get? snapshot.observationId).isSome ∨ snapshot.observationId ∈ s.retiredIds then
    .error .publishedTwice
  else if s.retained.getLast?.any fun last => snapshot.sequence ≤ last.sequence then
    .error .sequenceMustIncrease
  else
    let s := s.retire cfg
    .ok { s with
      retained := pushed cfg.maxRetained s.retained snapshot
      byId := s.byId.set snapshot.observationId snapshot
      latest := some snapshot }

/-- The section of `subscribe`, and what it reads for the replay. -/
def register (s : Store β) (c : SubId) (replayLatest : Bool) :
    Except StoreError (Store β × Option (Snapshot β)) :=
  if s.closed then .error .closed
  else .ok ({ s with subscriptions := insert c s.subscriptions }, if replayLatest then s.latest else none)

/-- The store's section of `unsubscribe`. -/
def discard (s : Store β) (c : SubId) : Store β :=
  { s with subscriptions := s.subscriptions.erase c }

def beginGeneration (cfg : Config) (s : Store β) : Except StoreError (Store β) :=
  if s.closed then .error .closed
  else .ok { s with
    retiredIds := s.retained.foldl (fun ids x => pushed (cfg.maxRetained * 2) ids x.observationId) s.retiredIds
    retained := []
    byId := .empty
    latest := none
    generation := s.generation + 1 }

/-- The store's section of `close`; the subscriptions to close are those of the store then. -/
def close (s : Store β) : Store β :=
  if s.closed then s
  else { s with
    closed := true
    subscriptions := ∅
    retained := []
    byId := .empty
    latest := none }

structure Published (s : Store β) (x : Snapshot β) (t : Store β) : Prop where
  live : s.closed = false
  current : x.generation = s.generation
  increases : ∀ last, s.retained.getLast? = some last → last.sequence < x.sequence
  last : t.retained.getLast? = some x
  latest : t.latest = some x
  subscriptions : t.subscriptions = s.subscriptions
  generation : t.generation = s.generation
  nextSequence : t.nextSequence = s.nextSequence
  closed : t.closed = s.closed

theorem getLast?_pushed {α : Type u} {n} (positive : 0 < n) (items : List α) (x : α) :
    (pushed n items x).getLast? = some x := by
  have kept : ¬ (items ++ [x]).length ≤ items.length + 1 - n := by
    rw [length_append, length_singleton]
    omega
  rw [pushed, getLast?_drop, if_neg kept, getLast?_concat]

theorem retire_eq (cfg : Config) (s : Store β) :
    ∃ byId retiredIds, s.retire cfg = { s with byId, retiredIds } := by
  unfold retire
  split
  · split <;> exact ⟨_, _, rfl⟩
  · exact ⟨_, _, rfl⟩

theorem published_of_publish {s t : Store β} {x : Snapshot β}
    (accepted : s.publish cfg x = .ok t) : Published s x t := by
  unfold publish at accepted
  split at accepted
  · cases accepted
  rename_i live
  split at accepted
  · cases accepted
  split at accepted
  · cases accepted
  rename_i current
  split at accepted
  · cases accepted
  split at accepted
  · cases accepted
  rename_i increases
  obtain rfl := Except.ok.inj accepted
  obtain ⟨byId, retiredIds, retired⟩ := retire_eq cfg s
  rw [retired]
  refine ⟨Bool.eq_false_iff.mpr live, not_not.mp current, fun last found => ?_,
    getLast?_pushed cfg.positive _ _, rfl, rfl, rfl, rfl, rfl⟩
  rw [found] at increases
  simpa using increases

end Store

/-! ## The sections of a subscription -/

structure Subscription (β : Type u) where
  maxQueue : Int
  queue : List (Snapshot β) := []
  droppedCount : Nat := 0
  closed : Bool := false
  accepted : List (Snapshot β) := []
  delivered : List (Snapshot β) := []

namespace Subscription

def offer (sub : Subscription β) (snapshot : Snapshot β) : Subscription β :=
  if sub.closed then sub
  else
    let full : Bool := sub.maxQueue ≤ sub.queue.length
    { sub with
      queue := (if full then sub.queue.tail else sub.queue) ++ [snapshot]
      droppedCount := sub.droppedCount + full.toNat
      accepted := sub.accepted ++ [snapshot] }

/-- What `get` does with the condition held: it returns a snapshot, or it raises `Empty` or
`ObservationSubscriptionClosed`, or it goes on waiting. -/
def get (sub : Subscription β) : Option (Snapshot β) × Subscription β :=
  match sub.queue with
  | [] => (none, sub)
  | first :: rest => (some first, { sub with queue := rest, delivered := sub.delivered ++ [first] })

/-- The subscription's section of `unsubscribe`, and that of `close` for each subscription. -/
def shut (sub : Subscription β) : Subscription β := { sub with closed := true }

variable {sub : Subscription β} {x : Snapshot β}

theorem offer_closed (shut : sub.closed = true) : sub.offer x = sub := by
  simp [offer, shut]

theorem accepted_offer (live : sub.closed = false) : (sub.offer x).accepted = sub.accepted ++ [x] := by
  simp [offer, live]

@[simp] theorem closed_offer : (sub.offer x).closed = sub.closed := by
  unfold offer
  split <;> rfl

@[simp] theorem maxQueue_offer : (sub.offer x).maxQueue = sub.maxQueue := by
  unfold offer
  split <;> rfl

@[simp] theorem delivered_offer : (sub.offer x).delivered = sub.delivered := by
  unfold offer
  split <;> rfl

@[simp] theorem accepted_get : sub.get.2.accepted = sub.accepted := by
  unfold get
  split <;> rfl

@[simp] theorem closed_get : sub.get.2.closed = sub.closed := by
  unfold get
  split <;> rfl

@[simp] theorem accepted_shut : sub.shut.accepted = sub.accepted := rfl

/-- The queue is bounded, every accepted offer is accounted for, and what was delivered and what
is queued are accepted offers in their order. -/
structure Accounted (sub : Subscription β) : Prop where
  positive : 0 < sub.maxQueue
  bounded : sub.queue.length ≤ sub.maxQueue
  counted : sub.accepted.length = sub.delivered.length + sub.queue.length + sub.droppedCount
  inOrder : List.Sublist (sub.delivered ++ sub.queue) sub.accepted

theorem accounted_new {maxQueue} (positive : 0 < maxQueue) : ({ maxQueue } : Subscription β).Accounted :=
  ⟨positive, by simpa using positive.le, rfl, .slnil⟩

theorem Accounted.offer (accounted : sub.Accounted) : (sub.offer x).Accounted := by
  cases shut : sub.closed with
  | true => rwa [offer_closed shut]
  | false =>
    by_cases full : sub.maxQueue ≤ sub.queue.length
    · have nonempty : 0 < sub.queue.length := by have := accounted.positive; omega
      have counted := accounted.counted
      have bounded := accounted.bounded
      have kept : List.Sublist (sub.delivered ++ sub.queue.tail) sub.accepted :=
        ((List.Sublist.refl _).append (tail_sublist _)).trans accounted.inOrder
      refine ⟨by simpa using accounted.positive, ?_, ?_, ?_⟩ <;>
        simp only [Subscription.offer, shut, full, decide_true, Bool.toNat_true, if_true,
          Bool.false_eq_true, if_false, length_append, length_tail, length_singleton]
      · omega
      · omega
      · rw [← append_assoc]
        exact kept.append (List.Sublist.refl _)
    · have counted := accounted.counted
      refine ⟨by simpa using accounted.positive, ?_, ?_, ?_⟩ <;>
        simp only [Subscription.offer, shut, full, decide_false, Bool.toNat_false,
          Bool.false_eq_true, if_false, length_append, length_singleton]
      · omega
      · omega
      · rw [← append_assoc]
        exact accounted.inOrder.append (List.Sublist.refl _)

theorem Accounted.get (accounted : sub.Accounted) : sub.get.2.Accounted := by
  have ⟨positive, bounded, counted, inOrder⟩ := accounted
  unfold Subscription.get
  split
  · exact accounted
  · rename_i first rest queued
    rw [queued] at bounded counted inOrder
    rw [length_cons] at bounded counted
    refine ⟨positive, ?_, ?_, ?_⟩
    · dsimp only
      omega
    · simp only [length_append, length_singleton]
      omega
    · simpa using inOrder

theorem Accounted.shut (accounted : sub.Accounted) : sub.shut.Accounted :=
  ⟨accounted.positive, accounted.bounded, accounted.counted, accounted.inOrder⟩

end Subscription

end EmbodiRun.Observations
