/-
# Rollout.Zenoh -- the routes of a `ZenohEndpoint`

Samples arrive on transport threads, `recv` and `send` run on the event loop, and a put runs on
the thread of its peer.  The steps are the sections under the lock and what ends a wait; which
exception `wait_for` raises depends on the interpreter: before 3.11 `asyncio.TimeoutError` is
not `TimeoutError`.

* `zenoh_routes`: **queues stay within bounds and messages come out in order; a failed route
  raises exactly where a put past its deadline raises what `send` catches**.
-/
import EmbodiRun.Transition.Machine

namespace EmbodiRun.Rollout.Zenoh

open Function
open Transition List

universe u

abbrev Key := Nat × Nat

structure Limits where
  maxMessageBytes : Nat
  queueSamples : Nat
  queueBytes : Nat

inductive Outcome where
  | returned
  | raised
  deriving DecidableEq

inductive Stage where
  /-- `recv`, before a round of its loop. -/
  | receiving
  /-- `send`, before it has the lock of the peer. -/
  | locking
  /-- `send`, waiting for a live subscriber. -/
  | living
  /-- `send`, while the put runs. -/
  | putting
  | done (outcome : Outcome)
  deriving DecidableEq

structure Call where
  key : Key
  stage : Stage
  /-- The route had failed when the call was made. -/
  late : Bool

structure ZenohEndpoint (ρ : Type u) where
  messages : Key → List ρ := fun _ => []
  sizes : Key → Int := fun _ => 0
  errors : Key → Bool := fun _ => false
  sendLocks : Nat → Option Nat := fun _ => none
  calls : Nat → Option Call := fun _ => none
  /-- What was handed in, what was taken out, and what was returned, oldest first. -/
  samples : Key → List ρ := fun _ => []
  taken : Key → List ρ := fun _ => []
  returned : Key → List ρ := fun _ => []
  /-- An overflow happened, or a put exceeded its deadline. -/
  failed : Key → Bool := fun _ => false

/-- How `send` ends without returning. -/
inductive Failure where
  /-- `TimeoutError` itself, or `CancelledError`. -/
  | interrupted
  /-- The `asyncio.TimeoutError` of a `wait_for`. -/
  | waited
  /-- Anything else. -/
  | other

inductive Label (ρ : Type u) where
  | sample (key : Key) (raw : ρ)
  | recv (c : Nat) (key : Key)
  /-- One round of the loop of `_recv`; `decodes` says whether `decode` returns. -/
  | round (c : Nat) (decodes : Bool)
  | recvTimeout (c : Nat)
  | send (c : Nat) (key : Key)
  /-- `send` gets the lock of its peer and looks at the errors. -/
  | lock (c : Nat)
  | lockTimeout (c : Nat)
  | put (c : Nat)
  /-- `send` ends before its put. -/
  | unsent (c : Nat) (failure : Failure)
  | published (c : Nat)
  | putFails (c : Nat)
  /-- The put exceeds its deadline. -/
  | putDeadline (c : Nat)

section

variable {ρ : Type u} (limits : Limits) (len : ρ → Nat) (aliased : Bool)

inductive Found (ρ : Type u) where
  | raises
  | message (raw : ρ) (rest : List ρ)
  | waits

/-- What `_recv` finds under the lock. -/
def checkRecv (s : ZenohEndpoint ρ) (key : Key) : Found ρ :=
  if s.errors key then .raises
  else match s.messages key with
    | raw :: rest => .message raw rest
    | [] => .waits

/-- Whether `_send` raises under the lock. -/
def checkSend (s : ZenohEndpoint ρ) (key : Key) : Bool := s.errors key

/-- `except (TimeoutError, asyncio.CancelledError)`. -/
def caught : Failure → Bool
  | .interrupted => true
  | .waited => aliased
  | .other => false

namespace ZenohEndpoint

def receiveSample (s : ZenohEndpoint ρ) (key : Key) (raw : ρ) : ZenohEndpoint ρ :=
  let s := { s with samples := update s.samples key (s.samples key ++ [raw]) }
  if s.errors key then s
  else if limits.maxMessageBytes < len raw ∨ limits.queueSamples ≤ (s.messages key).length ∨
      (limits.queueBytes : Int) < s.sizes key + len raw then
    { s with
      errors := update s.errors key true
      messages := update s.messages key []
      sizes := update s.sizes key 0
      failed := update s.failed key true }
  else
    { s with
      messages := update s.messages key (s.messages key ++ [raw])
      sizes := update s.sizes key (s.sizes key + len raw) }

def setStage (s : ZenohEndpoint ρ) (c : Nat) (call : Call) (stage : Stage) : ZenohEndpoint ρ :=
  { s with calls := update s.calls c (some { call with stage }) }

/-- `send` ends: the route is marked where the exception is caught, and the lock released. -/
def endSend (s : ZenohEndpoint ρ) (c : Nat) (call : Call) (outcome : Outcome) (marked : Bool) : ZenohEndpoint ρ :=
  { s with
    calls := update s.calls c (some { call with stage := .done outcome })
    errors := update s.errors call.key (s.errors call.key || marked)
    sendLocks := update s.sendLocks call.key.1 none }

def at? (s : ZenohEndpoint ρ) (c : Nat) (stage : Stage) : Option Call :=
  (s.calls c).filter fun call => call.stage = stage

def step (s : ZenohEndpoint ρ) : Label ρ → Option (ZenohEndpoint ρ)
  | .sample key raw => some (s.receiveSample limits len key raw)
  | .recv c key =>
    if s.calls c = none then
      some { s with calls := update s.calls c (some ⟨key, .receiving, s.failed key⟩) }
    else none
  | .round c decodes => (s.at? c .receiving).bind fun call =>
    match checkRecv s call.key with
    | .raises => some (s.setStage c call (.done .raised))
    | .waits => some s
    | .message raw rest =>
      let t := { s with
        messages := update s.messages call.key rest
        sizes := update s.sizes call.key (s.sizes call.key - len raw)
        taken := update s.taken call.key (s.taken call.key ++ [raw]) }
      if decodes then
        some (({ t with
          returned := update t.returned call.key (t.returned call.key ++ [raw]) }).setStage c call (.done .returned))
      else some (t.setStage c call (.done .raised))
  | .recvTimeout c => (s.at? c .receiving).map fun call => s.setStage c call (.done .raised)
  | .send c key =>
    if s.calls c = none then
      some { s with calls := update s.calls c (some ⟨key, .locking, s.failed key⟩) }
    else none
  | .lock c => (s.at? c .locking).bind fun call =>
    if s.sendLocks call.key.1 = none then
      if checkSend s call.key then some (s.setStage c call (.done .raised))
      else some { s with
        calls := update s.calls c (some { call with stage := .living })
        sendLocks := update s.sendLocks call.key.1 (some c) }
    else none
  | .lockTimeout c => (s.at? c .locking).map fun call => s.setStage c call (.done .raised)
  | .put c => (s.at? c .living).map fun call => s.setStage c call .putting
  | .unsent c failure => (s.at? c .living).map fun call =>
    s.endSend c call .raised (caught aliased failure)
  | .published c => (s.at? c .putting).map fun call => s.endSend c call .returned false
  | .putFails c => (s.at? c .putting).map fun call =>
    s.endSend c call .raised (caught aliased .other)
  | .putDeadline c => (s.at? c .putting).map fun call =>
    let t := s.endSend c call .raised (caught aliased .waited)
    { t with failed := update t.failed call.key true }

end ZenohEndpoint

open ZenohEndpoint

/-! ## Queues and messages -/

def total (queue : List ρ) : Int := (queue.map fun raw => (len raw : Int)).sum

structure Bounded (s : ZenohEndpoint ρ) (key : Key) : Prop where
  samples : (s.messages key).length ≤ limits.queueSamples
  bytes : total len (s.messages key) ≤ limits.queueBytes
  counter : s.sizes key = total len (s.messages key)

structure Held (s : ZenohEndpoint ρ) (key : Key) : Prop extends Bounded limits len s key where
  ordered : s.taken key <+: s.samples key
  /-- Nothing is lost on a route that is not marked. -/
  kept : s.errors key = false → s.taken key ++ s.messages key = s.samples key

/-- A route that failed raises, in both directions, and no call that was made after it failed
returns. -/
structure Loud (s : ZenohEndpoint ρ) : Prop where
  recv : ∀ key, s.failed key → checkRecv s key = .raises
  send : ∀ key, s.failed key → checkSend s key
  late : ∀ c call, s.calls c = some call → call.late →
    call.stage = .receiving ∨ call.stage = .locking ∨ call.stage = .done .raised

/-- A put past its deadline raises what `send` catches, unless the route is marked already. -/
def Noticed (s : ZenohEndpoint ρ) : Label ρ → Prop
  | .putDeadline c => ∀ call, s.at? c .putting = some call → aliased ∨ s.errors call.key
  | _ => True

def Decodes (_ : ZenohEndpoint ρ) : Label ρ → Prop
  | .round _ decodes => decodes
  | _ => True

variable {limits} {len} {aliased} {s t : ZenohEndpoint ρ} {l : Label ρ}
variable {c : Nat} {stage : Stage} {call : Call} {key : Key} {raw : ρ}

theorem at?_eq_some (found : s.at? c stage = some call) : s.calls c = some call ∧ call.stage = stage := by
  obtain ⟨same, at'⟩ := Option.filter_eq_some_iff.mp found
  exact ⟨same, by simpa using at'⟩

theorem total_append (queue : List ρ) (raw : ρ) : total len (queue ++ [raw]) = total len queue + len raw := by
  simp [total]

theorem held_init (key : Key) : Held limits len ({} : ZenohEndpoint ρ) key :=
  ⟨⟨Nat.zero_le _, Int.natCast_nonneg _, rfl⟩, prefix_rfl, fun _ => rfl⟩

theorem held_congr (held : Held limits len s key) (messages : t.messages = s.messages)
    (sizes : t.sizes = s.sizes) (samples : t.samples = s.samples) (taken : t.taken = s.taken)
    (errors : t.errors key = false → s.errors key = false) : Held limits len t key := by
  obtain ⟨⟨few, small, counter⟩, ordered, kept⟩ := held
  refine ⟨⟨by rw [messages]; exact few, by rw [messages]; exact small,
    by rw [sizes, messages]; exact counter⟩, by rw [taken, samples]; exact ordered, fun unmarked => ?_⟩
  rw [taken, messages, samples]
  exact kept (errors unmarked)

theorem held_sample {key k} (held : ∀ key, Held limits len s key) :
    Held limits len (s.receiveSample limits len k raw) key := by
  by_cases same : key = k
  · subst same
    obtain ⟨⟨few, small, counter⟩, ordered, kept⟩ := held key
    have longer : s.taken key <+: s.samples key ++ [raw] := ordered.trans (prefix_append _ _)
    unfold receiveSample
    dsimp only
    split
    · rename_i marked
      refine ⟨⟨few, small, counter⟩, ?_, fun unmarked => ?_⟩
      · dsimp only
        rw [update_self]
        exact longer
      · dsimp only at unmarked
        rw [marked] at unmarked
        cases unmarked
    rename_i unmarked
    split
    · refine ⟨⟨?_, ?_, ?_⟩, ?_, fun free => ?_⟩
      · dsimp only
        rw [update_self]
        exact Nat.zero_le _
      · dsimp only
        rw [update_self]
        exact Int.natCast_nonneg _
      · dsimp only
        rw [update_self, update_self]
        rfl
      · dsimp only
        rw [update_self]
        exact longer
      · dsimp only at free
        rw [update_self] at free
        cases free
    · rename_i fits
      obtain ⟨_, fits⟩ := not_or.mp fits
      obtain ⟨fewer, smaller⟩ := not_or.mp fits
      refine ⟨⟨?_, ?_, ?_⟩, ?_, fun _ => ?_⟩
      · dsimp only
        rw [update_self, length_append, length_singleton]
        omega
      · dsimp only
        rw [update_self, total_append, ← counter]
        omega
      · dsimp only
        rw [update_self, update_self, total_append, counter]
      · dsimp only
        rw [update_self]
        exact longer
      · dsimp only
        rw [update_self, update_self, ← append_assoc, kept (by simpa using unmarked)]
  · obtain ⟨⟨few, small, counter⟩, ordered, kept⟩ := held key
    have other {α : Type u} (f : Key → α) (v : α) : update f k v key = f key :=
      update_of_ne same v f
    have other' {α : Type} (f : Key → α) (v : α) : update f k v key = f key :=
      update_of_ne same v f
    unfold receiveSample
    dsimp only
    split
    · refine ⟨⟨few, small, counter⟩, ?_, ?_⟩ <;> dsimp only <;> rw [other]
      · exact ordered
      · exact kept
    split
    · refine ⟨⟨?_, ?_, ?_⟩, ?_, ?_⟩ <;> dsimp only <;> simp only [other, other']
      · exact few
      · exact small
      · exact counter
      · exact ordered
      · exact kept
    · refine ⟨⟨?_, ?_, ?_⟩, ?_, ?_⟩ <;> dsimp only <;> simp only [other, other']
      · exact few
      · exact small
      · exact counter
      · exact ordered
      · exact kept

variable {rest : List ρ} {outcome : Outcome} {mark : Bool}

theorem held_take (key : Key) {k} (held : ∀ key, Held limits len s key)
    (unmarked : s.errors k = false) (queue : s.messages k = raw :: rest) : Held limits len { s with
      messages := update s.messages k rest
      sizes := update s.sizes k (s.sizes k - len raw)
      taken := update s.taken k (s.taken k ++ [raw]) } key := by
  obtain ⟨⟨few, small, counter⟩, ordered, kept⟩ := held key
  by_cases same : key = k
  · subst same
    rw [queue] at few small counter
    have all := kept unmarked
    rw [queue] at all
    have front : s.taken key ++ [raw] ++ rest = s.samples key := by
      rw [append_assoc]
      exact all
    have head : total len (raw :: rest) = len raw + total len rest := rfl
    refine ⟨⟨?_, ?_, ?_⟩, ?_, fun _ => ?_⟩ <;> dsimp only <;> simp only [update_self]
    · rw [length_cons] at few
      omega
    · omega
    · omega
    · exact ⟨rest, front⟩
    · exact front
  · refine ⟨⟨?_, ?_, ?_⟩, ?_, ?_⟩ <;> dsimp only <;> simp only [update_of_ne same]
    · exact few
    · exact small
    · exact counter
    · exact ordered
    · exact kept

theorem checkRecv_message (found : checkRecv s key = .message raw rest) :
    s.errors key = false ∧ s.messages key = raw :: rest := by
  unfold checkRecv at found
  split at found
  · cases found
  · rename_i unmarked
    split at found
    · rename_i queue
      injection found with same rest
      subst same
      subst rest
      exact ⟨by simpa using unmarked, queue⟩
    · cases found

theorem held_endSend {marked} (held : Held limits len s key) :
    Held limits len (s.endSend c call outcome marked) key := by
  refine held_congr held rfl rfl rfl rfl fun unmarked => ?_
  dsimp only [endSend] at unmarked
  by_cases same : key = call.key
  · rw [same, update_self, Bool.or_eq_false_iff] at unmarked
    rw [same]
    exact unmarked.1
  · rwa [update_of_ne same] at unmarked

theorem held_step (held : ∀ key, Held limits len s key)
    (next : s.step limits len aliased l = some t) (key : Key) : Held limits len t key := by
  cases l with
  | sample =>
    cases next
    exact held_sample held
  | recv | send =>
    simp only [ZenohEndpoint.step] at next
    split at next <;> cases next
    exact held_congr (held key) rfl rfl rfl rfl id
  | round c decodes =>
    obtain ⟨call, found, next⟩ := Option.bind_eq_some_iff.mp next
    split at next
    · cases next
      exact held_congr (held key) rfl rfl rfl rfl id
    · cases next
      exact held key
    · rename_i raw rest message
      obtain ⟨unmarked, queue⟩ := checkRecv_message message
      have took := held_take key held unmarked queue
      split at next <;> cases next <;> exact held_congr took rfl rfl rfl rfl id
  | recvTimeout | lockTimeout | put =>
    obtain ⟨call, found, rfl⟩ := Option.map_eq_some_iff.mp next
    exact held_congr (held key) rfl rfl rfl rfl id
  | lock =>
    obtain ⟨call, found, next⟩ := Option.bind_eq_some_iff.mp next
    split at next
    · split at next <;> cases next <;> exact held_congr (held key) rfl rfl rfl rfl id
    · cases next
  | unsent | published | putFails =>
    obtain ⟨call, found, rfl⟩ := Option.map_eq_some_iff.mp next
    exact held_endSend (held key)
  | putDeadline c =>
    obtain ⟨call, found, rfl⟩ := Option.map_eq_some_iff.mp next
    have ended : Held limits len (s.endSend c call .raised (caught aliased .waited)) key :=
      held_endSend (held key)
    exact held_congr ended rfl rfl rfl rfl id

theorem returned_step (decodes : Decodes s l) (same : s.returned = s.taken)
    (next : s.step limits len aliased l = some t) : t.returned = t.taken := by
  cases l with
  | sample =>
    cases next
    unfold receiveSample
    dsimp only
    split
    · exact same
    split <;> exact same
  | recv | send =>
    simp only [ZenohEndpoint.step] at next
    split at next <;> cases next
    exact same
  | round c decoded =>
    obtain ⟨call, found, next⟩ := Option.bind_eq_some_iff.mp next
    split at next
    · cases next
      exact same
    · cases next
      exact same
    · dsimp only at next
      rw [if_pos (show decoded = true from decodes)] at next
      cases next
      dsimp only [setStage]
      rw [same]
  | recvTimeout c | lockTimeout c | put c | unsent c failure | published c | putFails c
  | putDeadline =>
    obtain ⟨call, found, rfl⟩ := Option.map_eq_some_iff.mp next
    exact same
  | lock =>
    obtain ⟨call, found, next⟩ := Option.bind_eq_some_iff.mp next
    split at next
    · split at next <;> cases next <;> exact same
    · cases next

/-! ## Failed routes -/

def Call.stopped (call : Call) : Prop :=
  call.stage = .receiving ∨ call.stage = .locking ∨ call.stage = .done .raised

structure Marked (s : ZenohEndpoint ρ) : Prop where
  errors : ∀ key, s.failed key → s.errors key
  late : ∀ c call, s.calls c = some call → call.late → s.failed call.key ∧ call.stopped

theorem loud_of_marked (marked : Marked s) : Loud s := by
  refine ⟨fun key failed => ?_, fun key failed => marked.errors key failed,
    fun c call found late => (marked.late c call found late).2⟩
  unfold checkRecv
  exact if_pos (marked.errors key failed)

theorem marked_init : Marked ({} : ZenohEndpoint ρ) := ⟨nofun, nofun⟩

theorem marked_move (marked : Marked s) (found : s.calls c = some call) (failed : t.failed = s.failed)
    (errors : ∀ key, s.errors key → t.errors key)
    (calls : t.calls = update s.calls c (some { call with stage }))
    (ends : call.late → Call.stopped { call with stage }) : Marked t := by
  refine ⟨fun key was => errors key (marked.errors key (by rwa [failed] at was)), fun d other here late => ?_⟩
  rw [calls] at here
  rw [failed]
  by_cases same : d = c
  · subst same
    rw [update_self] at here
    cases here
    exact ⟨(marked.late d call found late).1, ends late⟩
  · rw [update_of_ne same] at here
    exact marked.late d other here late

theorem marked_start (marked : Marked s) (start : Call.stopped ⟨key, stage, s.failed key⟩) :
    Marked { s with calls := update s.calls c (some ⟨key, stage, s.failed key⟩) } := by
  refine ⟨marked.errors, fun d other here late => ?_⟩
  dsimp only at here
  by_cases same : d = c
  · subst same
    rw [update_self] at here
    cases here
    exact ⟨late, start⟩
  · rw [update_of_ne same] at here
    exact marked.late d other here late

theorem not_late (marked : Marked s) (found : s.at? c stage = some call)
    (behind : stage = .living ∨ stage = .putting) : ¬call.late := by
  intro late
  obtain ⟨here, at'⟩ := at?_eq_some found
  have stopped := (marked.late c call here late).2
  unfold Call.stopped at stopped
  rw [at'] at stopped
  rcases behind with rfl | rfl <;> simp at stopped

theorem errors_endSend (was : s.errors key) : (s.endSend c call outcome mark).errors key := by
  dsimp only [endSend]
  by_cases same : key = call.key
  · subst same
    rw [update_self, was]
    rfl
  · rwa [update_of_ne same]

theorem marked_endSend (marked : Marked s) (found : s.at? c stage = some call)
    (behind : stage = .living ∨ stage = .putting) : Marked (s.endSend c call outcome mark) :=
  marked_move marked (at?_eq_some found).1 rfl (fun _ => errors_endSend) rfl
    fun late => absurd late (not_late marked found behind)

theorem marked_sample (marked : Marked s) : Marked (s.receiveSample limits len key raw) := by
  unfold receiveSample
  dsimp only
  split
  · exact ⟨marked.errors, marked.late⟩
  split
  · refine ⟨fun k => ?_, fun d other here late => ?_⟩
    · dsimp only
      by_cases same : k = key
      · subst same
        rw [update_self, update_self]
        exact id
      · rw [update_of_ne same, update_of_ne same]
        exact marked.errors k
    · obtain ⟨failed, stopped⟩ := marked.late d other here late
      refine ⟨?_, stopped⟩
      dsimp only
      by_cases same : other.key = key
      · rw [same, update_self]
      · rwa [update_of_ne same]
  · exact ⟨marked.errors, marked.late⟩

theorem marked_step (noticed : Noticed aliased s l) (marked : Marked s)
    (next : s.step limits len aliased l = some t) : Marked t := by
  cases l with
  | sample =>
    cases next
    exact marked_sample marked
  | recv =>
    simp only [ZenohEndpoint.step] at next
    split at next <;> cases next
    exact marked_start marked (.inl rfl)
  | send =>
    simp only [ZenohEndpoint.step] at next
    split at next <;> cases next
    exact marked_start marked (.inr (.inl rfl))
  | round c decodes =>
    obtain ⟨call, found, next⟩ := Option.bind_eq_some_iff.mp next
    obtain ⟨here, _⟩ := at?_eq_some found
    split at next
    · cases next
      exact marked_move marked here rfl (fun _ => id) rfl fun _ => .inr (.inr rfl)
    · cases next
      exact marked
    · rename_i raw rest message
      -- A late call finds its route marked.
      have early : ¬call.late := by
        intro late
        have failed := (marked.late c call here late).1
        exact absurd (marked.errors call.key failed) (by rw [(checkRecv_message message).1]; decide)
      split at next <;> cases next
      · exact marked_move marked here rfl (fun _ => id) rfl fun late => absurd late early
      · exact marked_move marked here rfl (fun _ => id) rfl fun late => absurd late early
  | recvTimeout | lockTimeout =>
    obtain ⟨call, found, rfl⟩ := Option.map_eq_some_iff.mp next
    exact marked_move marked (at?_eq_some found).1 rfl (fun _ => id) rfl fun _ => .inr (.inr rfl)
  | put =>
    obtain ⟨call, found, rfl⟩ := Option.map_eq_some_iff.mp next
    exact marked_move marked (at?_eq_some found).1 rfl (fun _ => id) rfl
      fun late => absurd late (not_late marked found (.inl rfl))
  | lock c =>
    obtain ⟨call, found, next⟩ := Option.bind_eq_some_iff.mp next
    obtain ⟨here, _⟩ := at?_eq_some found
    split at next
    · split at next
      · cases next
        exact marked_move marked here rfl (fun _ => id) rfl fun _ => .inr (.inr rfl)
      · rename_i unmarked
        cases next
        exact marked_move marked here rfl (fun _ => id) rfl fun late =>
          absurd (marked.errors call.key (marked.late c call here late).1) unmarked
    · cases next
  | unsent =>
    obtain ⟨call, found, rfl⟩ := Option.map_eq_some_iff.mp next
    exact marked_endSend marked found (.inl rfl)
  | published | putFails =>
    obtain ⟨call, found, rfl⟩ := Option.map_eq_some_iff.mp next
    exact marked_endSend marked found (.inr rfl)
  | putDeadline c =>
    obtain ⟨call, found, rfl⟩ := Option.map_eq_some_iff.mp next
    have ended : Marked (s.endSend c call .raised (caught aliased .waited)) :=
      marked_endSend marked found (.inr rfl)
    refine ⟨fun key => ?_, fun d other at' late => ?_⟩
    · dsimp only
      by_cases same : key = call.key
      · subst same
        intro _
        dsimp only [endSend]
        rw [update_self, Bool.or_eq_true]
        exact (noticed call found).symm
      · rw [update_of_ne same]
        exact ended.errors key
    · obtain ⟨failed, stopped⟩ := ended.late d other at' late
      refine ⟨?_, stopped⟩
      dsimp only
      by_cases same : other.key = call.key
      · rw [same, update_self]
      · rwa [update_of_ne same]

theorem noticed_of_loud (next : s.step limits len aliased l = some t) (loud : Loud t) : Noticed aliased s l := by
  cases l with
  | putDeadline =>
    intro call found
    simp only [ZenohEndpoint.step] at next
    rw [found] at next
    cases next
    have raises := loud.send call.key (by dsimp only; rw [update_self])
    dsimp only [checkSend, endSend] at raises
    rw [update_self, Bool.or_eq_true] at raises
    exact raises.symm
  | _ => trivial

/-- **Zenoh routes** are bounded and in order, and a failed one raises exactly where a put that exceeds
its deadline raises what `send` catches, or finds its route marked. -/
theorem zenoh_routes {ls : List (Label ρ)} (ran : run (ZenohEndpoint.step limits len aliased) {} ls = some s) :
    (∀ before after u, ls = before ++ after → run (ZenohEndpoint.step limits len aliased) {} before = some u →
      ∀ key, Bounded limits len u key ∧ u.taken key <+: u.samples key) ∧
    (Along (ZenohEndpoint.step limits len aliased) Decodes {} ls →
      ∀ before after u, ls = before ++ after → run (ZenohEndpoint.step limits len aliased) {} before = some u →
        ∀ key, u.returned key <+: u.samples key) ∧
    ((∀ before after u, ls = before ++ after → run (ZenohEndpoint.step limits len aliased) {} before = some u →
        Loud u) ↔ Along (ZenohEndpoint.step limits len aliased) (Noticed aliased) {} ls) := by
  have held {before : List (Label ρ)} {u : ZenohEndpoint ρ}
      (reached : run (ZenohEndpoint.step limits len aliased) {} before = some u) (key : Key) :
      Held limits len u key :=
    run_invariant (I := fun s => ∀ key, Held limits len s key)
      (fun _ _ _ held next => held_step held next) held_init reached key
  refine ⟨fun before after u _ reached key => ?_, fun decodes before after u split reached key => ?_, ?_⟩
  · exact ⟨(held reached key).toBounded, (held reached key).ordered⟩
  · subst split
    have all : u.returned = u.taken :=
      run_induction (I := fun s : ZenohEndpoint ρ => s.returned = s.taken)
        (fun _ _ _ decodes same next => returned_step decodes same next)
        ((along_append reached).mp decodes).1 rfl reached
    rw [all]
    exact (held reached key).ordered
  · exact along_iff_prefixes_of (fun _ => loud_of_marked)
      (fun _ _ _ noticed marked next => marked_step noticed marked next)
      (fun _ _ _ _ next loud => noticed_of_loud next loud) marked_init ran

end

/-! ## A put past its deadline before 3.11 -/

/-- A put of route `(0, 0)` exceeds its deadline; the next `send` on the route publishes. -/
def expired : List (Label Unit) :=
  [.send 0 (0, 0), .lock 0, .put 0, .putDeadline 0, .send 1 (0, 0), .lock 1, .put 1, .published 1]

abbrev stepOld : ZenohEndpoint Unit → Label Unit → Option (ZenohEndpoint Unit) :=
  ZenohEndpoint.step ⟨8, 8, 8⟩ (fun _ => 1) false

theorem zenoh_routes_expired : ∃ s, run stepOld {} expired = some s ∧
    ((∀ before after u, expired = before ++ after → run stepOld {} before = some u → Loud u) ↔
      Along stepOld (Noticed false) {} expired) := by
  have ran : run stepOld {} expired = some _ := rfl
  exact ⟨_, ran, (zenoh_routes ran).2.2⟩

/-- The call was made after the put exceeded its deadline, and returns. -/
theorem put_expired_unnoticed : ∃ s, run stepOld {} expired = some s ∧ s.failed (0, 0) = true ∧
    s.calls 1 = some ⟨(0, 0), .done .returned, true⟩ ∧ ¬Loud s := by
  refine ⟨_, rfl, rfl, rfl, fun loud => ?_⟩
  have late := loud.late 1 ⟨(0, 0), .done .returned, true⟩ rfl rfl
  simp at late

end EmbodiRun.Rollout.Zenoh
