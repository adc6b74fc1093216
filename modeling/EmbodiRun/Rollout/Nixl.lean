/-
# Rollout.Nixl -- one transfer between two connected `NixlTensorTransport`s

Sender and receiver compute the chunks on their own.  The sender fills its arena with a chunk,
waits for `ready`, writes the chunk into the arena of the receiver, and waits for `copied`; the
receiver grants a chunk, waits for the token of the WRITE, and copies the chunk out.  The
control channels are FIFO, and a WRITE copies its bytes and delivers its token once.

* `transfer_exact`: **no arena is overwritten too early, and what `recv` returns is what was
  sent, byte for byte, with equal sequence numbers when both have returned**.
-/
import EmbodiRun.Rollout.Chunks
import EmbodiRun.Transition.Machine

namespace EmbodiRun.Rollout.Nixl

open Transition List

/-! ## Tensors -/

inductive Dtype where
  | bool | uint8 | int8 | int16 | int32 | int64 | float16 | bfloat16 | float32 | float64

/-- `element_size()`. -/
def Dtype.size : Dtype → Nat
  | bool | uint8 | int8 => 1
  | int16 | float16 | bfloat16 => 2
  | int32 | float32 => 4
  | int64 | float64 => 8

structure Spec where
  shape : List Nat
  dtype : Dtype
  bytes : Nat

structure Tensor where
  shape : List Nat
  dtype : Dtype
  data : List UInt8
  sized : data.length = shape.prod * dtype.size

open Tensor

def Tensor.spec (tensor : Tensor) : Spec := ⟨tensor.shape, tensor.dtype, tensor.data.length⟩

/-- `_validate_specs`: the number of bytes, where the specs are accepted. -/
def validateSpecs (maxPayloadBytes : Nat) (specs : List Spec) : Option Nat :=
  let total := (specs.map Spec.bytes).sum
  if 1 ≤ specs.length ∧ specs.length ≤ 4096 ∧
      (∀ item ∈ specs, item.shape.length ≤ 16 ∧ item.shape.prod * item.dtype.size = item.bytes) ∧
      total ≤ maxPayloadBytes then
    some total
  else none

/-! ## A connected pair -/

structure NixlTensorTransport where
  name : Nat
  chunkBytes : Nat
  maxPayloadBytes : Nat
  positive : 1 ≤ chunkBytes

/-- `self.capacity` after `connect`. -/
def capacity (own peer : NixlTensorTransport) : Nat := min own.chunkBytes peer.chunkBytes

/-- `self.session`, which is a digest of the sorted names. -/
def session (digest : Nat → Nat → Nat) (own peer : NixlTensorTransport) : Nat :=
  digest (min own.name peer.name) (max own.name peer.name)

theorem capacity_comm (a b : NixlTensorTransport) : capacity b a = capacity a b := min_comm ..

theorem session_comm (digest : Nat → Nat → Nat) (a b : NixlTensorTransport) :
    session digest b a = session digest a b := by
  unfold session
  rw [min_comm, max_comm]

inductive Kind where
  | offer
  | ready (chunk : Nat)
  | copied (chunk : Nat)
  | owned
  | chunk (chunk : Nat)
  deriving DecidableEq

structure Stamp where
  kind : Kind
  session : Nat
  sequence : Nat
  deriving DecidableEq

inductive Sender where
  | idle
  /-- At the head of the loop. -/
  | next (k : Nat)
  /-- The chunk is in the arena; waiting for `ready`. -/
  | packed (k : Nat)
  | granted (k : Nat)
  /-- The WRITE is posted. -/
  | writing (k : Nat)
  /-- The WRITE is done; waiting for `copied`. -/
  | written (k : Nat)
  /-- Waiting for `owned`. -/
  | closing
  | returned
  deriving DecidableEq

open Sender

inductive Receiver where
  | idle
  | next (k : Nat)
  /-- `ready` is sent; waiting for the token. -/
  | waiting (k : Nat)
  | notified (k : Nat)
  | copiedOut (k : Nat)
  | returned
  deriving DecidableEq

open Receiver

structure State where
  sender : Sender := .idle
  receiver : Receiver := .idle
  senderFailed : Bool := false
  receiverFailed : Bool := false
  senderArena : List UInt8
  receiverArena : List UInt8
  /-- The control channels, oldest first. -/
  offers : List (Stamp × List Spec) := []
  credits : List Stamp := []
  /-- The chunk of a WRITE that is posted and has not landed. -/
  flight : Option Nat := none
  tokens : List Stamp := []
  specs : List Spec := []
  views : List (List UInt8) := []
  senderSequence : Nat
  receiverSequence : Nat

inductive Label where
  | offer
  | pack
  | leave
  | credit
  | post
  /-- The WRITE copies its bytes and delivers its token. -/
  | land
  | done
  /-- The receiver takes the offer, and `torch.empty` gives it these bytes. -/
  | accept (fresh : List (List UInt8))
  | ready
  | notification
  | copy
  | copied
  | owned
  /-- A timeout or a cancellation. -/
  | abortSender
  | abortReceiver

section

variable (digest : Nat → Nat → Nat) (a b : NixlTensorTransport) (tensors : List Tensor)

def payload : List UInt8 := (tensors.map data).flatten

def total : Nat := (payload tensors).length

/-- `min(capacity, total - offset)`. -/
def sizeOf (capacity total k : Nat) : Nat := min capacity (total - k * capacity)

def State.failSender (s : State) : State := { s with senderFailed := true }

def State.failReceiver (s : State) : State := { s with receiverFailed := true }

def stampOf (own peer : NixlTensorTransport) (sequence : Nat) (kind : Kind) : Stamp :=
  ⟨kind, session digest own peer, sequence⟩

/-- `await self._recv() != self._stamp(…)`. -/
def State.receiveCredit (s : State) (expected : Kind) (then' : State) : Option State :=
  match s.credits with
  | [] => none
  | stamp :: credits =>
    if stamp = stampOf digest a b s.senderSequence expected then some { then' with credits }
    else some { s.failSender with credits }

def senderStep (s : State) : Label → Option State
  | .offer =>
    if s.sender = .idle then
      match validateSpecs a.maxPayloadBytes (tensors.map spec) with
      | some _ => some { s with
          sender := .next 0
          offers := s.offers ++ [(stampOf digest a b s.senderSequence .offer, tensors.map spec)] }
      | none => some s.failSender
    else none
  | .pack => match s.sender with
    | .next k =>
      if k * capacity a b < total tensors then some { s with
        sender := .packed k
        senderArena := copyIn (k * capacity a b) (sizeOf (capacity a b) (total tensors) k) 0
          (tensors.map data) s.senderArena }
      else none
    | _ => none
  | .leave => match s.sender with
    | .next k => if k * capacity a b < total tensors then none else some { s with sender := .closing }
    | _ => none
  | .credit => match s.sender with
    | .packed k => s.receiveCredit digest a b (.ready k) { s with sender := .granted k }
    | .written k => s.receiveCredit digest a b (.copied k) { s with sender := .next (k + 1) }
    | .closing => s.receiveCredit digest a b .owned
        { s with sender := .returned, senderSequence := s.senderSequence + 1 }
    | _ => none
  | .post => match s.sender with
    | .granted k => some { s with sender := .writing k, flight := some k }
    | _ => none
  | .done => match s.sender with
    | .writing k => if s.flight = none then some { s with sender := .written k } else none
    | _ => none
  | .abortSender => some s.failSender
  | _ => none

def announced (specs : List Spec) : Nat := (specs.map Spec.bytes).sum

def receiverStep (s : State) : Label → Option State
  | .accept fresh => match s.receiver, s.offers with
    | .idle, (stamp, specs) :: offers =>
      if stamp ≠ stampOf digest b a s.receiverSequence .offer then
        some { s.failReceiver with offers }
      else match validateSpecs b.maxPayloadBytes specs with
        | some _ =>
          if fresh.map List.length = specs.map Spec.bytes then
            some { s with offers, specs, views := fresh, receiver := .next 0 }
          else none
        | none => some { s.failReceiver with offers }
    | _, _ => none
  | .ready => match s.receiver with
    | .next k =>
      if k * capacity b a < announced s.specs then some { s with
        receiver := .waiting k
        credits := s.credits ++ [stampOf digest b a s.receiverSequence (.ready k)] }
      else none
    | _ => none
  | .notification => match s.receiver with
    | .waiting k =>
      if s.tokens = [] then none
      else if s.tokens = [stampOf digest b a s.receiverSequence (.chunk k)] then
        some { s with receiver := .notified k, tokens := [] }
      else some { s.failReceiver with tokens := [] }
    | _ => none
  | .copy => match s.receiver with
    | .notified k => some { s with
        receiver := .copiedOut k
        views := copyOut (k * capacity b a) (sizeOf (capacity b a) (announced s.specs) k)
          s.receiverArena 0 s.views }
    | _ => none
  | .copied => match s.receiver with
    | .copiedOut k => some { s with
        receiver := .next (k + 1)
        credits := s.credits ++ [stampOf digest b a s.receiverSequence (.copied k)] }
    | _ => none
  | .owned => match s.receiver with
    | .next k =>
      if k * capacity b a < announced s.specs then none
      else some { s with
        receiver := .returned
        credits := s.credits ++ [stampOf digest b a s.receiverSequence .owned]
        receiverSequence := s.receiverSequence + 1 }
    | _ => none
  | .abortReceiver => some s.failReceiver
  | _ => none

def landStep (s : State) : Option State :=
  s.flight.map fun k => { s with
    flight := none
    receiverArena := splice s.receiverArena 0 (slice s.senderArena 0 (sizeOf (capacity a b) (total tensors) k))
    tokens := s.tokens ++ [stampOf digest a b s.senderSequence (.chunk k)] }

def step (s : State) (l : Label) : Option State :=
  match l with
  | .land => landStep digest a b tensors s
  | .accept _ | .ready | .notification | .copy | .copied | .owned | .abortReceiver =>
    if s.receiverFailed then none else receiverStep digest a b s l
  | _ => if s.senderFailed then none else senderStep digest a b tensors s l

def idle (sequence : Nat) (senderArena receiverArena : List UInt8) : State :=
  { senderArena, receiverArena, senderSequence := sequence, receiverSequence := sequence }

/-! ## What is claimed -/

def Receiver.out (chunks : Nat) : Receiver → Nat
  | idle => 0
  | next k | waiting k | notified k => k
  | copiedOut k => k + 1
  | returned => chunks

/-- A chunk lands when all the chunks before it are copied out, and the sender fills its arena when
no WRITE is pending. -/
def Careful (chunks : Nat) (s : State) : Label → Prop
  | .land => ∀ k, s.flight = some k → s.receiver.out chunks = k
  | .pack => ∀ k, s.sender = .next k → s.flight = none
  | _ => True

/-- What `recv` returns is what was sent, and the pair is idle again when both have returned. -/
structure Exact (tensors : List Tensor) (s : State) : Prop where
  tensors : s.receiver = .returned → s.specs = tensors.map spec ∧ s.views = tensors.map data
  sequence : s.receiver = .returned → s.sender = .returned → s.senderSequence = s.receiverSequence
  drained : s.receiver = .returned → s.sender = .returned →
    s.offers = [] ∧ s.credits = [] ∧ s.tokens = [] ∧ s.flight = none

/-! ## The order of a transfer -/

def chunks (capacity total : Nat) : Nat := (total + capacity - 1) / capacity

theorem lt_chunks_iff {capacity total k} (positive : 1 ≤ capacity) :
    k < chunks capacity total ↔ k * capacity < total := by
  unfold chunks
  rw [Nat.lt_div_iff_mul_lt (by omega)]
  have expand : (total + capacity - 1) - (capacity - 1) = total := by omega
  rw [expand, Nat.mul_comm]

def script (chunks i : Nat) : Kind :=
  if i = 2 * chunks then .owned else if i % 2 = 0 then .ready (i / 2) else .copied (i / 2)

def Sender.taken (chunks : Nat) : Sender → Nat
  | idle => 0
  | next k | packed k => 2 * k
  | granted k | writing k | written k => 2 * k + 1
  | closing => 2 * chunks
  | returned => 2 * chunks + 1

def Receiver.sent (chunks : Nat) : Receiver → Nat
  | idle => 0
  | next k => 2 * k
  | waiting k | notified k | copiedOut k => 2 * k + 1
  | returned => 2 * chunks + 1

def Sender.posted (chunks : Nat) : Sender → Nat
  | idle => 0
  | next k | packed k | granted k => k
  | writing k | written k => k + 1
  | closing | returned => chunks

def Receiver.found (chunks : Nat) : Receiver → Nat
  | idle => 0
  | next k | waiting k => k
  | notified k | copiedOut k => k + 1
  | returned => chunks

def landed (chunks : Nat) (sender : Sender) : Option Nat → Nat
  | some k => k
  | none => sender.posted chunks

def Sender.within (chunks : Nat) : Sender → Prop
  | next k => k ≤ chunks
  | packed k | granted k | writing k | written k => k < chunks
  | _ => True

def Receiver.within (chunks : Nat) : Receiver → Prop
  | next k => k ≤ chunks
  | waiting k | notified k | copiedOut k => k < chunks
  | _ => True

def Holds (arena : List UInt8) (capacity : Nat) (bytes : List UInt8) (k : Nat) : Prop :=
  ∀ i, i < sizeOf capacity bytes.length k → arena[i]? = bytes[k * capacity + i]?

def count : Nat := chunks (capacity a b) (total tensors)

structure Paired (sequence : Nat) (s : State) : Prop where
  senderWithin : s.sender.within (count a b tensors)
  receiverWithin : s.receiver.within (count a b tensors)
  awake : s.receiver ≠ .idle → s.sender ≠ .idle
  order : s.sender.taken (count a b tensors) ≤ s.receiver.sent (count a b tensors)
  credits : s.credits = (range' (s.sender.taken (count a b tensors))
    (s.receiver.sent (count a b tensors) - s.sender.taken (count a b tensors))).map fun i =>
      stampOf digest a b sequence (script (count a b tensors) i)
  flight : ∀ k, s.flight = some k → s.sender = .writing k
  offersOnce : s.offers.length ≤ if s.sender = .idle then 0 else 1
  offers : ∀ offer ∈ s.offers, s.receiver = .idle ∧
    offer = (stampOf digest a b sequence .offer, tensors.map spec)
  tokensOrder : s.receiver.found (count a b tensors) ≤ landed (count a b tensors) s.sender s.flight
  tokens : s.tokens = (range' (s.receiver.found (count a b tensors))
    (landed (count a b tensors) s.sender s.flight - s.receiver.found (count a b tensors))).map fun k =>
      stampOf digest a b sequence (.chunk k)
  senderLength : s.senderArena.length = a.chunkBytes
  receiverLength : s.receiverArena.length = b.chunkBytes
  packed : ∀ k, s.sender = .packed k ∨ s.sender = .granted k ∨ s.flight = some k →
    Holds s.senderArena (capacity a b) (payload tensors) k
  arrived : ∀ k, s.receiver = .notified k ∨ stampOf digest a b sequence (.chunk k) ∈ s.tokens →
    Holds s.receiverArena (capacity a b) (payload tensors) k
  specs : s.receiver ≠ .idle → s.specs = tensors.map spec
  lengths : s.receiver ≠ .idle → s.views.map List.length = (tensors.map data).map List.length
  copiedOut : ∀ j, j < s.receiver.out (count a b tensors) * capacity a b →
    s.views.flatten[j]? = (payload tensors)[j]?
  senderSequence : s.senderSequence = if s.sender = .returned then sequence + 1 else sequence
  receiverSequence : s.receiverSequence = if s.receiver = .returned then sequence + 1 else sequence

variable {digest} {a b} {tensors} {sequence : Nat} {s t : State} {l : Label}

theorem one_le_capacity : 1 ≤ capacity a b := le_min a.positive b.positive

theorem lt_count_iff {k} : k < count a b tensors ↔ k * capacity a b < total tensors :=
  lt_chunks_iff one_le_capacity

theorem script_ready {n k} (inside : k < n) : script n (2 * k) = .ready k := by
  unfold script
  rw [if_neg (by omega), if_pos (by omega)]
  congr 1
  omega

theorem script_copied {n k} (_inside : k < n) : script n (2 * k + 1) = .copied k := by
  unfold script
  rw [if_neg (by omega), if_neg (by omega)]
  congr 1
  omega

theorem script_owned {n} : script n (2 * n) = .owned := if_pos rfl

theorem announced_specs : announced (tensors.map spec) = total tensors := by
  unfold announced total payload
  rw [length_flatten, map_map, map_map]
  rfl

theorem stampOf_peer {n} {kind} : stampOf digest b a n kind = stampOf digest a b n kind := by
  unfold stampOf
  rw [session_comm]

theorem stampOf_chunk_injective {n j k}
    (same : stampOf digest a b n (.chunk j) = stampOf digest a b n (.chunk k)) : j = k :=
  Kind.chunk.inj (congrArg Stamp.kind same)

theorem paired_init {senderArena receiverArena} (sent : senderArena.length = a.chunkBytes)
    (received : receiverArena.length = b.chunkBytes) :
    Paired digest a b tensors sequence (idle sequence senderArena receiverArena) where
  senderWithin := trivial
  receiverWithin := trivial
  awake other := absurd rfl other
  order := le_rfl
  credits := rfl
  flight _ none := by cases none
  offersOnce := le_rfl
  offers _ none := by cases none
  tokensOrder := le_rfl
  tokens := rfl
  senderLength := sent
  receiverLength := received
  packed k one := by rcases one with other | other | other <;> cases other
  arrived k one := by rcases one with other | other <;> cases other
  specs other := absurd rfl other
  lengths other := absurd rfl other
  copiedOut j none := by
    simp only [idle, out, Nat.zero_mul] at none
    omega
  senderSequence := rfl
  receiverSequence := rfl

theorem waiting_of_flight {k} (paired : Paired digest a b tensors sequence s)
    (pending : s.flight = some k) : s.receiver = .waiting k ∧ k < count a b tensors := by
  have writing := paired.flight k pending
  have inside := paired.senderWithin
  have order := paired.order
  have tokens := paired.tokensOrder
  rw [writing] at inside order
  simp only [pending, landed] at tokens
  simp only [Sender.within, Sender.taken] at inside order
  refine ⟨?_, inside⟩
  cases receiver : s.receiver with
  | waiting j =>
    rw [receiver] at order tokens
    simp only [sent, found] at order tokens
    rw [show j = k by omega]
  | idle | next | notified | copiedOut | returned =>
    rw [receiver] at order tokens
    simp only [sent, found] at order tokens
    omega

theorem no_flight (paired : Paired digest a b tensors sequence s)
    (other : ∀ k, s.sender ≠ .writing k) : s.flight = none := by
  cases pending : s.flight with
  | none => rfl
  | some k => exact absurd (paired.flight k pending) (other k)

theorem credits_head {stamp} {rest} (paired : Paired digest a b tensors sequence s)
    (found : s.credits = stamp :: rest) :
    s.sender.taken (count a b tensors) < s.receiver.sent (count a b tensors) ∧
    stamp = stampOf digest a b sequence (script (count a b tensors) (s.sender.taken (count a b tensors))) ∧
    rest = (range' (s.sender.taken (count a b tensors) + 1)
      (s.receiver.sent (count a b tensors) - (s.sender.taken (count a b tensors) + 1))).map fun i =>
        stampOf digest a b sequence (script (count a b tensors) i) := by
  have credits := paired.credits
  rw [found] at credits
  generalize s.receiver.sent (count a b tensors) = sent at credits ⊢
  generalize s.sender.taken (count a b tensors) = taken at credits ⊢
  cases left : sent - taken with
  | zero =>
    rw [left] at credits
    cases credits
  | succ m =>
    rw [left, range'_succ, map_cons] at credits
    obtain ⟨head, tail⟩ := List.cons.inj credits
    refine ⟨by omega, head, ?_⟩
    rw [tail, show sent - (taken + 1) = m by omega]

theorem credits_snoc {taken sent : Nat} {f : Nat → Stamp} (order : taken ≤ sent) :
    (range' taken (sent - taken)).map f ++ [f sent] = (range' taken (sent + 1 - taken)).map f := by
  rw [show sent + 1 - taken = (sent - taken) + 1 by omega, range'_concat, map_append,
    Nat.one_mul, show taken + (sent - taken) = sent by omega]
  rfl

/-! ## The sender's steps -/

theorem paired_credit {expected} {stage} {taken} (paired : Paired digest a b tensors sequence s)
    (now : s.senderSequence = sequence)
    (same : script (count a b tensors) (s.sender.taken (count a b tensors)) = expected)
    (advance : stage.taken (count a b tensors) = s.sender.taken (count a b tensors) + 1)
    (settled : s.flight = none) (posted : stage.posted (count a b tensors) = s.sender.posted (count a b tensors))
    (within : stage.within (count a b tensors)) (busy : s.sender ≠ .idle) (toBusy : stage ≠ .idle)
    (loaded : ∀ k, stage = .packed k ∨ stage = .granted k → s.sender = .packed k)
    (shape : taken = { s with sender := stage, senderSequence :=
      if stage = .returned then sequence + 1 else sequence })
    (next : s.receiveCredit digest a b expected taken = some t) : Paired digest a b tensors sequence t := by
  unfold State.receiveCredit at next
  split at next
  · cases next
  · rename_i stamp rest found
    obtain ⟨before, head, tail⟩ := credits_head paired found
    rw [if_pos (by rw [head, same, now])] at next
    cases next
    subst shape
    refine { paired with
      senderWithin := within
      awake := fun _ => toBusy
      order := ?_
      credits := ?_
      flight := fun k pending => ?_
      offersOnce := ?_
      tokensOrder := ?_
      tokens := ?_
      packed := fun k one => ?_
      senderSequence := rfl }
    · rw [advance]
      exact before
    · dsimp only
      rw [tail, advance]
    · rw [settled] at pending
      cases pending
    · have once := paired.offersOnce
      rw [if_neg busy] at once
      rw [if_neg toBusy]
      exact once
    · have order := paired.tokensOrder
      rw [settled] at order
      dsimp only
      rw [settled]
      exact order.trans (le_of_eq posted.symm)
    · have tokens := paired.tokens
      rw [settled] at tokens
      dsimp only [landed] at tokens ⊢
      rw [settled]
      dsimp only [landed]
      rw [posted]
      exact tokens
    · rcases one with at' | at' | pending
      · exact paired.packed k (.inl (loaded k (.inl at')))
      · exact paired.packed k (.inl (loaded k (.inr at')))
      · rw [settled] at pending
        cases pending

theorem senderSequence_of_ne (paired : Paired digest a b tensors sequence s)
    (other : s.sender ≠ .returned) : s.senderSequence = sequence := by
  rw [paired.senderSequence, if_neg other]

theorem sizeOf_le {n k} : sizeOf (capacity a b) n k ≤ capacity a b := Nat.min_le_left ..

theorem paired_sender {stage} (paired : Paired digest a b tensors sequence s)
    (taken : stage.taken (count a b tensors) = s.sender.taken (count a b tensors))
    (posted : stage.posted (count a b tensors) = s.sender.posted (count a b tensors))
    (settled : s.flight = none) (within : stage.within (count a b tensors)) (busy : s.sender ≠ .idle)
    (toBusy : stage ≠ .idle) (open' : s.sender ≠ .returned) (toOpen : stage ≠ .returned)
    (loaded : ∀ k, stage ≠ .packed k ∧ stage ≠ .granted k) :
    Paired digest a b tensors sequence { s with sender := stage } := by
  refine { paired with
    senderWithin := within
    awake := fun _ => toBusy
    order := ?_
    credits := ?_
    flight := fun k pending => ?_
    offersOnce := ?_
    tokensOrder := ?_
    tokens := ?_
    packed := fun k one => ?_
    senderSequence := ?_ }
  · rw [taken]
    exact paired.order
  · dsimp only
    rw [taken]
    exact paired.credits
  · rw [settled] at pending
    cases pending
  · have once := paired.offersOnce
    rw [if_neg busy] at once
    rw [if_neg toBusy]
    exact once
  · have order := paired.tokensOrder
    rw [settled] at order
    dsimp only
    rw [settled]
    exact order.trans (le_of_eq posted.symm)
  · have tokens := paired.tokens
    rw [settled] at tokens
    dsimp only [landed] at tokens ⊢
    rw [settled]
    dsimp only [landed]
    rw [posted]
    exact tokens
  · rcases one with at' | at' | pending
    · exact absurd at' (loaded k).1
    · exact absurd at' (loaded k).2
    · rw [settled] at pending
      cases pending
  · dsimp only
    rw [if_neg toOpen]
    exact senderSequence_of_ne paired open'

theorem paired_failSender (paired : Paired digest a b tensors sequence s) :
    Paired digest a b tensors sequence s.failSender := { paired with }

theorem paired_failReceiver (paired : Paired digest a b tensors sequence s) :
    Paired digest a b tensors sequence s.failReceiver := { paired with }

theorem paired_offer (paired : Paired digest a b tensors sequence s) (start : s.sender = .idle) :
    Paired digest a b tensors sequence { s with
      sender := .next 0
      offers := s.offers ++ [(stampOf digest a b s.senderSequence .offer, tensors.map spec)] } := by
  have asleep : s.receiver = .idle := by
    by_contra other
    exact paired.awake other start
  have empty : s.offers = [] := by
    have once := paired.offersOnce
    rw [if_pos start] at once
    exact List.length_eq_zero_iff.mp (Nat.le_zero.mp once)
  have settled : s.flight = none := no_flight paired (by rw [start]; nofun)
  have now : s.senderSequence = sequence := senderSequence_of_ne paired (by rw [start]; decide)
  refine { paired with
    senderWithin := Nat.zero_le _
    awake := fun _ => nofun
    order := Nat.zero_le _
    credits := ?_
    flight := fun k pending => ?_
    offersOnce := ?_
    offers := fun offer member => ?_
    tokensOrder := ?_
    tokens := ?_
    packed := fun k one => ?_
    senderSequence := ?_ }
  · have credits := paired.credits
    rw [start] at credits
    exact credits
  · rw [settled] at pending
    cases pending
  · rw [if_neg (by nofun)]
    dsimp only
    rw [empty]
    exact le_rfl
  · dsimp only at member
    rw [empty, now] at member
    exact ⟨asleep, List.mem_singleton.mp member⟩
  · have order := paired.tokensOrder
    rw [settled, start] at order
    dsimp only
    rw [settled]
    exact order
  · have tokens := paired.tokens
    rw [settled, start] at tokens
    dsimp only
    rw [settled]
    exact tokens
  · rcases one with at' | at' | pending
    · cases at'
    · cases at'
    · rw [settled] at pending
      cases pending
  · dsimp only
    rw [if_neg (by nofun)]
    exact now

theorem paired_pack {k} (paired : Paired digest a b tensors sequence s)
    (head : s.sender = .next k) (more : k * capacity a b < total tensors) :
    Paired digest a b tensors sequence { s with
      sender := .packed k
      senderArena := copyIn (k * capacity a b) (sizeOf (capacity a b) (total tensors) k) 0
        (tensors.map data) s.senderArena } := by
  have settled : s.flight = none := no_flight paired (by rw [head]; nofun)
  have fits : sizeOf (capacity a b) (total tensors) k ≤ s.senderArena.length := by
    rw [paired.senderLength]
    exact sizeOf_le.trans (min_le_left ..)
  have written := @getElem?_copyIn _ (k * capacity a b) _ 0 (tensors.map data) _ fits
  have inside : k < count a b tensors := lt_count_iff.mpr more
  refine { paired with
    senderWithin := inside
    awake := fun _ => nofun
    order := ?_
    credits := ?_
    flight := fun j pending => ?_
    offersOnce := ?_
    tokensOrder := ?_
    tokens := ?_
    senderLength := ?_
    packed := fun j one => ?_
    senderSequence := ?_ }
  · have order := paired.order
    rw [head] at order
    exact order
  · have credits := paired.credits
    rw [head] at credits
    exact credits
  · rw [settled] at pending
    cases pending
  · have once := paired.offersOnce
    rw [if_neg (by rw [head]; nofun)] at once
    rw [if_neg (by nofun)]
    exact once
  · have order := paired.tokensOrder
    rw [settled, head] at order
    dsimp only
    rw [settled]
    exact order
  · have tokens := paired.tokens
    rw [settled, head] at tokens
    dsimp only
    rw [settled]
    exact tokens
  · dsimp only
    rw [(written 0).1]
    exact paired.senderLength
  · have same : j = k := by
      rcases one with at' | at' | pending
      · exact (Sender.packed.inj at').symm
      · cases at'
      · rw [settled] at pending
        cases pending
    subst same
    intro i small
    change i < sizeOf (capacity a b) (total tensors) j at small
    have upper : sizeOf (capacity a b) (total tensors) j ≤ total tensors - j * capacity a b :=
      Nat.min_le_right ..
    have whole : (tensors.map data).flatten.length = total tensors := rfl
    dsimp only
    rw [(written i).2, if_pos ⟨small, by omega, by rw [whole]; omega⟩, Nat.sub_zero]
    rfl
  · dsimp only
    rw [if_neg (by nofun)]
    exact senderSequence_of_ne paired (by rw [head]; nofun)

theorem paired_post {k} (paired : Paired digest a b tensors sequence s) (granted : s.sender = .granted k) :
    Paired digest a b tensors sequence { s with sender := .writing k, flight := some k } := by
  have settled : s.flight = none := no_flight paired (by rw [granted]; nofun)
  have inside := paired.senderWithin
  rw [granted] at inside
  refine { paired with
    senderWithin := inside
    awake := fun _ => nofun
    order := ?_
    credits := ?_
    flight := fun j pending => ?_
    offersOnce := ?_
    tokensOrder := ?_
    tokens := ?_
    packed := fun j one => ?_
    senderSequence := ?_ }
  · have order := paired.order
    rw [granted] at order
    exact order
  · have credits := paired.credits
    rw [granted] at credits
    exact credits
  · rw [Option.some.inj pending]
  · have once := paired.offersOnce
    rw [if_neg (by rw [granted]; nofun)] at once
    rw [if_neg (by nofun)]
    exact once
  · have order := paired.tokensOrder
    rw [settled, granted] at order
    exact order
  · have tokens := paired.tokens
    rw [settled, granted] at tokens
    exact tokens
  · rcases one with at' | at' | pending
    · cases at'
    · cases at'
    · cases pending
      exact paired.packed k (.inr (.inl granted))
  · dsimp only
    rw [if_neg (by nofun)]
    exact senderSequence_of_ne paired (by rw [granted]; nofun)

theorem paired_land {k} (paired : Paired digest a b tensors sequence s) (pending : s.flight = some k) :
    Paired digest a b tensors sequence { s with
      flight := none
      receiverArena := splice s.receiverArena 0
        (slice s.senderArena 0 (sizeOf (capacity a b) (total tensors) k))
      tokens := s.tokens ++ [stampOf digest a b s.senderSequence (.chunk k)] } := by
  have writing := paired.flight k pending
  obtain ⟨waiting, inside⟩ := waiting_of_flight paired pending
  have now : s.senderSequence = sequence := senderSequence_of_ne paired (by rw [writing]; nofun)
  have sent : sizeOf (capacity a b) (total tensors) k ≤ s.senderArena.length := by
    rw [paired.senderLength]
    exact sizeOf_le.trans (min_le_left ..)
  have length : (slice s.senderArena 0 (sizeOf (capacity a b) (total tensors) k)).length =
      sizeOf (capacity a b) (total tensors) k := by
    rw [length_slice sent, Nat.sub_zero]
  have room : 0 + (slice s.senderArena 0 (sizeOf (capacity a b) (total tensors) k)).length ≤
      s.receiverArena.length := by
    rw [length, paired.receiverLength, Nat.zero_add]
    exact sizeOf_le.trans (min_le_right ..)
  have none : s.tokens = [] := by
    rw [paired.tokens]
    simp only [landed, pending, waiting, found, Nat.sub_self]
    rfl
  refine { paired with
    flight := nofun
    tokensOrder := ?_
    tokens := ?_
    receiverLength := ?_
    packed := fun j one => ?_
    arrived := fun j one => ?_ }
  · simp only [landed, writing, waiting, found, posted]
    omega
  · simp only [landed, writing, waiting, found, posted, none, now]
    rw [show k + 1 - k = 1 by omega]
    rfl
  · dsimp only
    rw [length_splice room]
    exact paired.receiverLength
  · rcases one with at' | at' | other
    · exact paired.packed j (.inl at')
    · exact paired.packed j (.inr (.inl at'))
    · cases other
  · have same : j = k := by
      rcases one with at' | member
      · dsimp only at at'
        rw [waiting] at at'
        cases at'
      · dsimp only at member
        rw [none, now, nil_append, mem_singleton] at member
        exact stampOf_chunk_injective member
    subst same
    intro i small
    dsimp only
    rw [getElem?_splice room, length]
    change i < sizeOf (capacity a b) (total tensors) j at small
    rw [if_pos ⟨Nat.zero_le _, by omega⟩, getElem?_slice, if_pos (by omega), Nat.sub_zero, Nat.zero_add]
    exact paired.packed j (.inr (.inr pending)) i small

theorem paired_senderStep (paired : Paired digest a b tensors sequence s)
    (next : senderStep digest a b tensors s l = some t) : Paired digest a b tensors sequence t := by
  unfold senderStep at next
  split at next
  · split at next
    · rename_i start
      split at next <;> cases next
      · exact paired_offer paired start
      · exact paired_failSender paired
    · cases next
  · split at next
    · rename_i k head
      split at next
      · rename_i more
        cases next
        exact paired_pack paired head more
      · cases next
    · cases next
  · split at next
    · rename_i k head
      split at next
      · cases next
      · rename_i last
        cases next
        have inside := paired.senderWithin
        rw [head] at inside
        have ended : ¬k < count a b tensors := mt lt_count_iff.mp last
        obtain rfl : k = count a b tensors := Nat.le_antisymm inside (Nat.le_of_not_lt ended)
        refine paired_sender paired ?_ ?_ (no_flight paired (by rw [head]; nofun)) trivial
          (by rw [head]; nofun) nofun (by rw [head]; nofun) nofun fun j => ⟨nofun, nofun⟩
        · rw [head]
          rfl
        · rw [head]
          rfl
    · cases next
  · split at next
    · rename_i k at'
      have inside := paired.senderWithin
      rw [at'] at inside
      have now := senderSequence_of_ne paired (by rw [at']; nofun)
      refine @paired_credit digest a b tensors sequence s t _ (.granted k) _ paired now (by rw [at']; exact script_ready inside)
        (by rw [at']; rfl) (no_flight paired (by rw [at']; nofun)) (by rw [at']; rfl) inside
        (by rw [at']; nofun) nofun (fun j one => ?_) (by rw [if_neg (by nofun), ← now]) next
      rcases one with other | same
      · cases other
      · rw [at', Sender.granted.inj same]
    · rename_i k at'
      have inside := paired.senderWithin
      rw [at'] at inside
      have now := senderSequence_of_ne paired (by rw [at']; nofun)
      refine @paired_credit digest a b tensors sequence s t _ (.next (k + 1)) _ paired now (by rw [at']; exact script_copied inside)
        (by rw [at']; rfl) (no_flight paired (by rw [at']; nofun)) (by rw [at']; rfl) inside
        (by rw [at']; nofun) nofun (fun j one => ?_) (by rw [if_neg (by nofun), ← now]) next
      rcases one with other | other <;> cases other
    · rename_i at'
      have now := senderSequence_of_ne paired (by rw [at']; nofun)
      refine @paired_credit digest a b tensors sequence s t _ (.returned) _ paired now (by rw [at']; exact script_owned)
        (by rw [at']; rfl) (no_flight paired (by rw [at']; nofun)) (by rw [at']; rfl) trivial
        (by rw [at']; nofun) nofun (fun j one => ?_) (by rw [if_pos rfl, now]) next
      rcases one with other | other <;> cases other
    · cases next
  · split at next
    · rename_i k at'
      cases next
      exact paired_post paired at'
    · cases next
  · split at next
    · rename_i k at'
      split at next
      · rename_i settled
        cases next
        have inside := paired.senderWithin
        rw [at'] at inside
        exact paired_sender paired (by rw [at']; rfl) (by rw [at']; rfl) settled inside
          (by rw [at']; nofun) nofun (by rw [at']; nofun) nofun fun j => ⟨nofun, nofun⟩
      · cases next
    · cases next
  · cases next
    exact paired_failSender paired
  · cases next

/-! ## The receiver's steps -/

theorem receiverSequence_of_ne (paired : Paired digest a b tensors sequence s)
    (other : s.receiver ≠ .returned) : s.receiverSequence = sequence := by
  rw [paired.receiverSequence, if_neg other]

theorem announced_eq (paired : Paired digest a b tensors sequence s) (awake : s.receiver ≠ .idle) :
    announced s.specs = total tensors := by
  rw [paired.specs awake, announced_specs]

theorem paired_send {kind} {stage} (paired : Paired digest a b tensors sequence s)
    (same : script (count a b tensors) (s.receiver.sent (count a b tensors)) = kind)
    (advance : stage.sent (count a b tensors) = s.receiver.sent (count a b tensors) + 1)
    (found : stage.found (count a b tensors) = s.receiver.found (count a b tensors))
    (out : stage.out (count a b tensors) = s.receiver.out (count a b tensors))
    (within : stage.within (count a b tensors)) (awake : s.receiver ≠ .idle)
    (open' : s.receiver ≠ .returned) (quiet : ∀ k, stage ≠ .notified k) (n : Nat)
    (counted : n = if stage = .returned then sequence + 1 else sequence) :
    Paired digest a b tensors sequence { s with
      receiver := stage
      credits := s.credits ++ [stampOf digest b a s.receiverSequence kind]
      receiverSequence := n } := by
  have now := receiverSequence_of_ne paired open'
  refine { paired with
    receiverWithin := within
    awake := fun _ => paired.awake awake
    order := ?_
    credits := ?_
    offers := fun offer member => absurd (paired.offers offer member).1 awake
    tokensOrder := ?_
    tokens := ?_
    arrived := fun k one => ?_
    specs := fun _ => paired.specs awake
    lengths := fun _ => paired.lengths awake
    copiedOut := ?_
    receiverSequence := counted }
  · rw [advance]
    exact paired.order.trans (Nat.le_succ _)
  · dsimp only
    rw [advance, ← credits_snoc paired.order, ← paired.credits, now, stampOf_peer, same]
  · rw [found]
    exact paired.tokensOrder
  · dsimp only
    rw [found]
    exact paired.tokens
  · rcases one with at' | member
    · exact absurd at' (quiet k)
    · exact paired.arrived k (.inr member)
  · dsimp only
    rw [out]
    exact paired.copiedOut

theorem paired_accept {fresh} {stamp} {specs} {offers} (paired : Paired digest a b tensors sequence s)
    (asleep : s.receiver = .idle) (queue : s.offers = (stamp, specs) :: offers)
    (sizes : fresh.map List.length = specs.map Spec.bytes) :
    Paired digest a b tensors sequence { s with offers, specs, views := fresh, receiver := .next 0 } := by
  have once := paired.offersOnce
  rw [queue, length_cons] at once
  have busy : s.sender ≠ .idle := by
    intro idle
    rw [if_pos idle] at once
    omega
  rw [if_neg busy] at once
  have empty : offers = [] := List.length_eq_zero_iff.mp (by omega)
  have same := (paired.offers (stamp, specs) (by rw [queue]; exact mem_cons_self)).2
  obtain rfl : specs = tensors.map spec := congrArg Prod.snd same
  refine { paired with
    receiverWithin := Nat.zero_le _
    awake := fun _ => busy
    order := ?_
    credits := ?_
    offersOnce := ?_
    offers := fun offer member => ?_
    tokensOrder := ?_
    tokens := ?_
    arrived := fun k one => ?_
    specs := fun _ => rfl
    lengths := fun _ => ?_
    copiedOut := fun j none => ?_
    receiverSequence := ?_ }
  · have order := paired.order
    rw [asleep] at order
    exact order
  · have credits := paired.credits
    rw [asleep] at credits
    exact credits
  · dsimp only
    rw [empty]
    exact Nat.zero_le _
  · dsimp only at member
    rw [empty] at member
    cases member
  · exact Nat.zero_le _
  · have tokens := paired.tokens
    rw [asleep] at tokens
    exact tokens
  · rcases one with at' | member
    · cases at'
    · exact paired.arrived k (.inr member)
  · dsimp only
    rw [sizes, map_map, map_map]
    rfl
  · simp only [out, Nat.zero_mul] at none
    omega
  · dsimp only
    rw [if_neg (by nofun)]
    exact receiverSequence_of_ne paired (by rw [asleep]; nofun)

theorem paired_drop {stamp} {specs} {offers}
    (paired : Paired digest a b tensors sequence s) (queue : s.offers = (stamp, specs) :: offers) :
    Paired digest a b tensors sequence { s.failReceiver with offers } := by
  refine { paired with
    offersOnce := ?_
    offers := fun offer member => paired.offers offer ?_ }
  · have once := paired.offersOnce
    rw [queue, length_cons] at once
    exact (Nat.le_succ _).trans once
  · rw [queue]
    exact mem_cons_of_mem _ member

theorem tokens_waiting {k} (paired : Paired digest a b tensors sequence s) (waiting : s.receiver = .waiting k) :
    s.tokens = [] ∨ s.tokens = [stampOf digest a b sequence (.chunk k)] ∧
      landed (count a b tensors) s.sender s.flight = k + 1 := by
  have inside := paired.receiverWithin
  have order := paired.order
  have found := paired.tokensOrder
  have tokens := paired.tokens
  rw [waiting] at inside order found tokens
  simp only [Receiver.within, Receiver.sent, Receiver.found] at inside order found tokens
  have bound : landed (count a b tensors) s.sender s.flight ≤ k + 1 := by
    cases pending : s.flight with
    | some j =>
      have writing := paired.flight j pending
      rw [writing] at order
      simp only [taken, landed] at order ⊢
      omega
    | none =>
      simp only [landed]
      cases sender : s.sender <;> rw [sender] at order <;> simp only [taken, posted] at order ⊢ <;> omega
  by_cases more : landed (count a b tensors) s.sender s.flight = k + 1
  · right
    rw [tokens, more, show k + 1 - k = 1 by omega]
    exact ⟨rfl, rfl⟩
  · left
    rw [tokens, show landed (count a b tensors) s.sender s.flight - k = 0 by omega]
    rfl

theorem paired_notification {k} (paired : Paired digest a b tensors sequence s)
    (waiting : s.receiver = .waiting k)
    (token : s.tokens = [stampOf digest a b sequence (.chunk k)])
    (arrived : landed (count a b tensors) s.sender s.flight = k + 1) :
    Paired digest a b tensors sequence { s with receiver := .notified k, tokens := [] } := by
  have awake : s.receiver ≠ .idle := by rw [waiting]; nofun
  have inside := paired.receiverWithin
  rw [waiting] at inside
  refine { paired with
    receiverWithin := inside
    awake := fun _ => paired.awake awake
    order := ?_
    credits := ?_
    offers := fun offer member => absurd (paired.offers offer member).1 awake
    tokensOrder := ?_
    tokens := ?_
    arrived := fun j one => ?_
    specs := fun _ => paired.specs awake
    lengths := fun _ => paired.lengths awake
    copiedOut := ?_
    receiverSequence := ?_ }
  · have order := paired.order
    rw [waiting] at order
    exact order
  · have credits := paired.credits
    rw [waiting] at credits
    exact credits
  · dsimp only
    rw [arrived]
    exact le_rfl
  · dsimp only
    rw [arrived]
    simp only [found, Nat.sub_self]
    rfl
  · rcases one with at' | member
    · obtain rfl := Receiver.notified.inj at'
      exact paired.arrived k (.inr (by rw [token]; exact mem_singleton_self _))
    · cases member
  · have copied := paired.copiedOut
    rw [waiting] at copied
    exact copied
  · dsimp only
    rw [if_neg (by nofun)]
    exact receiverSequence_of_ne paired (by rw [waiting]; nofun)

theorem paired_copy {k} (paired : Paired digest a b tensors sequence s) (notified : s.receiver = .notified k) :
    Paired digest a b tensors sequence { s with
      receiver := .copiedOut k
      views := copyOut (k * capacity a b) (sizeOf (capacity a b) (total tensors) k) s.receiverArena 0
        s.views } := by
  have awake : s.receiver ≠ .idle := by rw [notified]; nofun
  have inside := paired.receiverWithin
  rw [notified] at inside
  have fits : sizeOf (capacity a b) (total tensors) k ≤ s.receiverArena.length := by
    rw [paired.receiverLength]
    exact sizeOf_le.trans (min_le_right ..)
  have lengths := paired.lengths awake
  have whole : s.views.flatten.length = total tensors := by
    unfold total payload
    rw [length_flatten, length_flatten, lengths]
  refine { paired with
    receiverWithin := inside
    awake := fun _ => paired.awake awake
    order := ?_
    credits := ?_
    offers := fun offer member => absurd (paired.offers offer member).1 awake
    tokensOrder := ?_
    tokens := ?_
    arrived := fun j one => ?_
    specs := fun _ => paired.specs awake
    lengths := fun _ => ?_
    copiedOut := fun j small => ?_
    receiverSequence := ?_ }
  · have order := paired.order
    rw [notified] at order
    exact order
  · have credits := paired.credits
    rw [notified] at credits
    exact credits
  · have found := paired.tokensOrder
    rw [notified] at found
    exact found
  · have tokens := paired.tokens
    rw [notified] at tokens
    exact tokens
  · rcases one with at' | member
    · cases at'
    · exact paired.arrived j (.inr member)
  · dsimp only
    rw [length_copyOut fits]
    exact lengths
  · dsimp only
    rw [getElem?_copyOut fits, Nat.zero_add, whole]
    have bytes : (payload tensors).length = total tensors := rfl
    have size : sizeOf (capacity a b) (total tensors) k = min (capacity a b) (total tensors - k * capacity a b) :=
      rfl
    have start := lt_count_iff.mp inside
    by_cases here : k * capacity a b ≤ j ∧ j < k * capacity a b +
        sizeOf (capacity a b) (total tensors) k ∧ j < total tensors
    · rw [if_pos here]
      have arrived := paired.arrived k (.inl notified) (j - k * capacity a b) (by
        rw [bytes]
        omega)
      rw [arrived, show k * capacity a b + (j - k * capacity a b) = j by omega]
    · rw [if_neg here]
      by_cases before : j < k * capacity a b
      · refine paired.copiedOut j ?_
        rw [notified]
        exact before
      · -- Past the last chunk there are no bytes on either side.
        have past : total tensors ≤ j := by
          simp only [out] at small
          rw [Nat.add_mul, Nat.one_mul] at small
          omega
        rw [getElem?_eq_none (by omega), getElem?_eq_none (by omega)]
  · dsimp only
    rw [if_neg (by nofun)]
    exact receiverSequence_of_ne paired (by rw [notified]; nofun)

theorem paired_receiverStep (paired : Paired digest a b tensors sequence s)
    (next : receiverStep digest a b s l = some t) : Paired digest a b tensors sequence t := by
  unfold receiverStep at next
  split at next
  · split at next
    · rename_i stamp specs offers asleep queue
      split at next
      · cases next
        exact paired_drop paired queue
      split at next
      · split at next
        · rename_i sizes
          cases next
          exact paired_accept paired asleep queue sizes
        · cases next
      · cases next
        exact paired_drop paired queue
    · cases next
  · split at next
    · rename_i k head
      have awake : s.receiver ≠ .idle := by rw [head]; nofun
      rw [announced_eq paired awake, capacity_comm] at next
      split at next
      · rename_i more
        cases next
        have inside : k < count a b tensors := lt_count_iff.mpr more
        exact @paired_send digest a b tensors sequence s _ (.waiting k) paired (by rw [head]; exact script_ready inside)
          (by rw [head]; rfl) (by rw [head]; rfl) (by rw [head]; rfl) inside awake
          (by rw [head]; nofun) nofun _ (by
            rw [if_neg (by nofun)]
            exact receiverSequence_of_ne paired (by rw [head]; nofun))
      · cases next
    · cases next
  · split at next
    · rename_i k waiting
      have now := receiverSequence_of_ne paired (by rw [waiting]; nofun)
      rcases tokens_waiting paired waiting with none | ⟨token, landed⟩
      · rw [if_pos none] at next
        cases next
      · rw [if_neg (by rw [token]; nofun), if_pos (by rw [token, now, stampOf_peer])] at next
        cases next
        exact paired_notification paired waiting token landed
    · cases next
  · split at next
    · rename_i k notified
      cases next
      have awake : s.receiver ≠ .idle := by rw [notified]; nofun
      rw [announced_eq paired awake, capacity_comm]
      exact paired_copy paired notified
    · cases next
  · split at next
    · rename_i k at'
      cases next
      have inside := paired.receiverWithin
      rw [at'] at inside
      exact @paired_send digest a b tensors sequence s _ (.next (k + 1)) paired (by rw [at']; exact script_copied inside)
        (by rw [at']; rfl) (by rw [at']; rfl) (by rw [at']; rfl) inside (by rw [at']; nofun)
        (by rw [at']; nofun) nofun _ (by
          rw [if_neg (by nofun)]
          exact receiverSequence_of_ne paired (by rw [at']; nofun))
    · cases next
  · split at next
    · rename_i k head
      have awake : s.receiver ≠ .idle := by rw [head]; nofun
      rw [announced_eq paired awake, capacity_comm] at next
      split at next
      · cases next
      · rename_i last
        cases next
        have inside := paired.receiverWithin
        rw [head] at inside
        have ended : ¬k < count a b tensors := mt lt_count_iff.mp last
        obtain rfl : k = count a b tensors := Nat.le_antisymm inside (Nat.le_of_not_lt ended)
        exact @paired_send digest a b tensors sequence s _ (.returned) paired (by rw [head]; exact script_owned)
          (by rw [head]; rfl) (by rw [head]; rfl) (by rw [head]; rfl) trivial awake
          (by rw [head]; nofun) nofun _ (by
            rw [if_pos rfl, receiverSequence_of_ne paired (by rw [head]; nofun)])
    · cases next
  · cases next
    exact paired_failReceiver paired
  · cases next

theorem paired_step (paired : Paired digest a b tensors sequence s)
    (next : step digest a b tensors s l = some t) : Paired digest a b tensors sequence t := by
  unfold step at next
  split at next
  · obtain ⟨k, pending, rfl⟩ := Option.map_eq_some_iff.mp next
    exact paired_land paired pending
  case h_9 =>
    split at next
    · cases next
    · exact paired_senderStep paired next
  all_goals
    split at next
    · cases next
    · exact paired_receiverStep paired next

theorem careful_of_paired (paired : Paired digest a b tensors sequence s) :
    Careful (count a b tensors) s l := by
  cases l with
  | land =>
    intro k pending
    rw [(waiting_of_flight paired pending).1]
    rfl
  | pack =>
    intro k head
    exact no_flight paired (by rw [head]; nofun)
  | _ => trivial

theorem exact_of_paired (paired : Paired digest a b tensors sequence s) : Exact tensors s where
  tensors returned := by
    have awake : s.receiver ≠ .idle := by rw [returned]; nofun
    have lengths := paired.lengths awake
    refine ⟨paired.specs awake, eq_of_flatten lengths fun j => ?_⟩
    by_cases inside : j < total tensors
    · refine paired.copiedOut j ?_
      rw [returned]
      -- The chunks cover every byte.
      have last := mt lt_count_iff.mpr (Nat.lt_irrefl (count a b tensors))
      simp only [out]
      omega
    · have whole : s.views.flatten.length = total tensors := by
        unfold total payload
        rw [length_flatten, length_flatten, lengths]
      have bytes : (tensors.map data).flatten.length = total tensors := rfl
      rw [getElem?_eq_none (by omega), getElem?_eq_none (by omega)]
  sequence received sent := by
    rw [paired.senderSequence, paired.receiverSequence, if_pos sent, if_pos received]
  drained received sent := by
    have settled := no_flight paired (by rw [sent]; nofun)
    refine ⟨List.eq_nil_iff_forall_not_mem.mpr fun offer member => ?_, ?_, ?_, settled⟩
    · have asleep := (paired.offers offer member).1
      rw [received] at asleep
      cases asleep
    · rw [paired.credits, sent, received]
      simp only [Sender.taken, Receiver.sent, Nat.sub_self]
      rfl
    · rw [paired.tokens, settled, sent, received]
      simp only [landed, Sender.posted, Receiver.found, Nat.sub_self]
      rfl

/-- **The transfer is exact** between any two ends, for any tensors and any order of the steps. -/
theorem transfer_exact {senderArena receiverArena : List UInt8} {ls : List Label}
    (sent : senderArena.length = a.chunkBytes) (received : receiverArena.length = b.chunkBytes)
    (ran : run (step digest a b tensors) (idle sequence senderArena receiverArena) ls = some s) :
    Along (step digest a b tensors) (Careful (count a b tensors))
      (idle sequence senderArena receiverArena) ls ∧ Exact tensors s := by
  have paired : ∀ {before : List Label} {u : State},
      run (step digest a b tensors) (idle sequence senderArena receiverArena) before = some u →
      Paired digest a b tensors sequence u :=
    fun reached => run_invariant (fun _ _ _ paired next => paired_step paired next)
      (paired_init sent received) reached
  refine ⟨(along_iff_prefixes_of (P := fun _ => True) (fun _ _ => trivial)
    (fun _ _ _ _ paired next => paired_step paired next)
    (fun _ _ _ paired _ _ => careful_of_paired paired) (paired_init sent received) ran).mp
      fun _ _ _ _ _ => trivial, exact_of_paired (paired ran)⟩

end

/-! ## A transfer in two chunks -/

def pair : Tensor := ⟨[2], .uint8, [7, 8], rfl⟩

def wide : NixlTensorTransport := ⟨0, 4, 16, by decide⟩

def narrow : NixlTensorTransport := ⟨1, 1, 16, by decide⟩

def twoChunks : List Label :=
  [.offer, .pack, .accept [[0, 0]], .ready, .credit, .post, .land, .notification, .done, .copy, .copied,
    .ready, .credit, .pack, .credit, .post, .land, .done, .notification, .copy, .copied, .owned, .credit,
    .leave, .credit]

theorem transfer_exact_pair :
    ∃ s, run (step (fun m n => m + n) wide narrow [pair]) (idle 0 [0, 0, 0, 0] [0]) twoChunks = some s ∧
      s.receiver = .returned ∧ s.sender = .returned ∧
      Along (step (fun m n => m + n) wide narrow [pair]) (Careful (count wide narrow [pair]))
        (idle 0 [0, 0, 0, 0] [0]) twoChunks ∧ Exact [pair] s := by
  have ran : run (step (fun m n => m + n) wide narrow [pair]) (idle 0 [0, 0, 0, 0] [0]) twoChunks =
      some _ := rfl
  exact ⟨_, ran, rfl, rfl, transfer_exact rfl rfl ran⟩

end EmbodiRun.Rollout.Nixl
