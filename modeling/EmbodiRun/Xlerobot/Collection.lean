/-
# Xlerobot.Collection -- the supervisor of a data collection, and what it has armed

One thread connects, serves the operator's requests and the control loop, and cleans up in three
places: for a stop command, in its fault handler, and where it ends.  A clean-up closes the recording,
stops the remote, and drops the connection, and each of the three may raise.

* `supervised`: **in every run of regular steps the supervisor keeps this**.
-/
import EmbodiRun.Http.Routes
import EmbodiRun.Transition.Machine

namespace EmbodiRun.Xlerobot.Collection

open Transition List Bool

/-! ## Requests -/

inductive Kind where
  | begin | finish | abort | stop | other
  deriving DecidableEq, Repr

/-- What the operator gives to `command`. -/
structure Command where
  kind : Kind
  task : Option (List Char) := none
  success : Option Bool := none
  deriving DecidableEq

structure Request extends Command where
  id : Nat
  generation : Nat
  deriving DecidableEq

/-- `status["state"]`. -/
inductive Status where
  | created | waitingHardware | ready | aligning | following | recording | stopped
  deriving DecidableEq

/-! ## Where the thread is -/

inductive Cleanup where
  | command (r : Request)
  | fault
  | final
  deriving DecidableEq

def Cleanup.reason : Cleanup → String
  | .command _ => "operator_stop"
  | .fault => "hardware_disconnect"
  | .final => "supervisor_shutdown"

inductive Station where
  /-- The test of `_shutdown`. -/
  | top
  /-- `_connect_once`. -/
  | connecting
  /-- `_next_request`. -/
  | polling
  | handling (r : Request)
  /-- `_align_and_arm`, up to `remote.arm`. -/
  | reading (r : Request)
  /-- `remote.arm`. -/
  | arming (r : Request)
  /-- The loop of `_align_and_arm`. -/
  | aligning (r : Request)
  /-- `recorder.start`. -/
  | starting (r : Request)
  /-- `recorder.finish`. -/
  | finishing (r : Request)
  /-- `_control_cycle`, or `_idle_health_check`. -/
  | cycling
  /-- `_interrupt_recording`. -/
  | interrupting (w : Cleanup)
  /-- `_safe_stop`. -/
  | stopping (w : Cleanup)
  /-- `_close_connections`, of the fault handler or the last one. -/
  | closing (last : Bool)
  /-- The requests that are left are answered. -/
  | draining
  /-- There is no thread. -/
  | ended
  deriving DecidableEq

open Station

/-- How a call ends: an `Exception` is raised, or something that no handler can deal with, which is any
other `BaseException`, and an `Exception` that has no text for the message. -/
inductive Outcome where
  | returned | exception | escapes
  deriving DecidableEq, Repr

/-- What the thread gets from the calls of one move: how they end, the remote's `armed` after them, and
whether the alignment goes on. -/
structure Answer where
  outcome : Outcome := .returned
  armed : Bool := false
  again : Bool := false

inductive Entry where
  | queued (i : Nat)
  | taken (r : Request)
  /-- `request.done` is set. -/
  | answered (i : Nat)
  /-- `remote.arm` is called, in this generation of the connection. -/
  | arm (generation : Nat)
  /-- `remote.stop` is called. -/
  | stop
  /-- A stop command, a fault or the end of the thread: is the remote armed, or was that attempted? -/
  | cleaning (live : Bool)
  /-- A stop command has been carried out. -/
  | stopped
  /-- The connection is dropped. -/
  | dropped
  | ended
  /-- `recorder.start` has returned. -/
  | recording (n : Nat)
  /-- `recorder.finish` has returned, and its result is published. -/
  | finished (n : Nat) (success : Option Bool)
  /-- `recorder.force_interrupted_close` has returned, and its result is published. -/
  | interrupted (n : Nat) (reason : String)

/-! ## The supervisor -/

/-- `CollectionSupervisor`; `connected` is that `_remote` and `_leader` are there, which are set and
cleared together, and `armed` is the remote's. -/
structure Supervisor where
  station : Station := .ended
  shutdown : Bool := false
  status : Status := .created
  connected : Bool := false
  armed : Bool := false
  armAttempted : Bool := false
  generation : Nat := 0
  /-- The recording of `_recorder`, which is active if it is there. -/
  recorder : Option Nat := none
  recordings : Nat := 0
  requests : List Request := []
  /-- Calls of `command` that are past its checks, and those that have made their request. -/
  checked : List Command := []
  made : List Request := []
  asked : Nat := 0
  /-- What happened, the newest first. -/
  log : List Entry := []

open Supervisor

namespace Supervisor

variable (s : Supervisor) (r : Request) (a : Answer)

def note (e : Entry) : Supervisor := { s with log := e :: s.log }

def live : Bool := s.connected && (s.armed || s.armAttempted)

/-- `_handle_request` is over. -/
def reply : Supervisor := { s.note (.answered r.id) with station := .top }

def clean (w : Cleanup) : Supervisor := { s.note (.cleaning s.live) with station := .interrupting w }

def leave : Supervisor := { s.note .ended with station := .ended }

/-- What is raised in the loop comes to the fault handler, or to the `finally` clause. -/
def raised (o : Outcome) : Supervisor := s.clean (if o = .escapes then .final else .fault)

def escape : Cleanup → Supervisor
  | .command r => (s.reply r).clean .final
  | .fault => s.clean .final
  | .final => s.leave

/-- `_connect_once`, and the handler around it. -/
def connectOnce : Supervisor :=
  match a.outcome with
  | .returned => { s with
      connected := true, armed := a.armed, generation := s.generation + 1, armAttempted := false,
      status := .ready, station := .polling }
  | .exception => { s with status := .waitingHardware, station := .top }
  | .escapes => s.clean .final

def nextRequest : Supervisor :=
  match s.requests with
  | [] => { s with station := .cycling }
  | r :: rest => { s.note (.taken r) with requests := rest, station := .handling r }

/-- `_handle_request`, with the checks of `_begin_episode`: a request that is rejected is no fault. -/
def handleRequest : Supervisor :=
  if r.generation ≠ s.generation then s.reply r
  else match r.kind with
    | .begin =>
      if Http.blank (r.task.getD []) then s.reply r
      else if s.recorder.isSome then s.reply r
      else { s with station := if s.armed then .starting r else .reading r }
    | .finish | .abort => if s.recorder.isSome then { s with station := .finishing r } else s.reply r
    | .stop => s.clean (.command r)
    | .other => s.reply r

/-- `_align_and_arm`: both sides are read. -/
def readOrigins : Supervisor :=
  let s := { s with armed := a.armed }
  match a.outcome with
  | .returned => { s with status := .aligning, station := .arming r }
  | o => (s.reply r).raised o

/-- `_align_and_arm`: the remote is armed, and what it says is looked at. -/
def arm : Supervisor :=
  let s := { s.note (.arm s.generation) with armAttempted := true, armed := a.armed }
  match a.outcome with
  | .returned => { s with station := .aligning r }
  | o => (s.reply r).raised o

/-- `_align_and_arm`: once round its loop. -/
def align : Supervisor :=
  if s.shutdown then (s.reply r).raised .exception
  else
    let s := { s with armed := a.armed }
    match a.outcome with
    | .returned => if a.again then s else { s with status := .following, station := .starting r }
    | o => (s.reply r).raised o

/-- `_begin_episode`: the recorder is made and started. -/
def beginEpisode : Supervisor :=
  match a.outcome with
  | .returned =>
    { s.note (.recording s.recordings) with
      recorder := some s.recordings, recordings := s.recordings + 1, status := .recording }.reply r
  | o => (s.reply r).raised o

def finishEpisode : Supervisor :=
  match s.recorder, a.outcome with
  | some n, .returned =>
    { s.note (.finished n (if r.kind = Kind.finish then r.success else none)) with
      recorder := none, status := if s.connected && s.armed then .following else .ready }.reply r
  | some _, o => (s.reply r).raised o
  | none, _ => (s.reply r).raised .exception

/-- `_control_cycle` and `_idle_health_check`. -/
def controlCycle : Supervisor :=
  let s := { s with armed := a.armed }
  match a.outcome with
  | .returned => { s with station := .top }
  | o => s.raised o

/-- `_interrupt_recording`: whatever comes of it, there is no recorder after it.  Only the fault handler
goes on where an `Exception` is raised. -/
def interruptRecording (w : Cleanup) : Supervisor :=
  match s.recorder, a.outcome with
  | none, _ => { s with station := .stopping w }
  | some n, .returned => { s.note (.interrupted n w.reason) with recorder := none, station := .stopping w }
  | some _, .exception => match w with
      | .command r => ({ s with recorder := none }.reply r).clean .fault
      | .fault => { s with recorder := none, station := .stopping .fault }
      | .final => { s with recorder := none }.leave
  | some _, .escapes => { s with recorder := none }.escape w

/-- What comes after `_safe_stop`. -/
def afterStop : Cleanup → Supervisor
  | .command r => { s.note .stopped with status := .ready }.reply r
  | .fault => { s with station := .closing false }
  | .final => { s with station := .closing true }

def safeStop (w : Cleanup) : Supervisor :=
  if s.live then
    let s := { s.note .stop with armed := a.armed, armAttempted := false }
    if a.outcome = .escapes then s.escape w else s.afterStop w
  else s.afterStop w

/-- What comes after `_close_connections`. -/
def afterClose (last : Bool) : Supervisor :=
  if last then { s with status := .stopped, station := .draining }
  else { s with status := .waitingHardware, station := .top }

/-- `_close_connections`: if `leader.close` raises, the connection is kept. -/
def closeConnections (last : Bool) : Supervisor :=
  if s.connected then
    if a.outcome = .returned then { s.note .dropped with connected := false }.afterClose last
    else s.escape (if last then .final else .fault)
  else s.afterClose last

/-- `get_nowait`, until there is nothing left. -/
def drain : Supervisor :=
  match s.requests with
  | [] => s.leave
  | r :: rest => { s.note (.answered r.id) with requests := rest }

/-- `_run`. -/
def advance : Supervisor :=
  match s.station with
  | .top =>
    if s.shutdown then s.clean .final
    else { s with station := if s.connected then .polling else .connecting }
  | .connecting => s.connectOnce a
  | .polling => s.nextRequest
  | .handling r => s.handleRequest r
  | .reading r => s.readOrigins r a
  | .arming r => s.arm r a
  | .aligning r => s.align r a
  | .starting r => s.beginEpisode r a
  | .finishing r => s.finishEpisode r a
  | .cycling => s.controlCycle a
  | .interrupting w => s.interruptRecording a w
  | .stopping w => s.safeStop a w
  | .closing last => s.closeConnections a last
  | .draining => s.drain
  | .ended => s

end Supervisor

/-! ## Runs -/

inductive Label where
  /-- `start()`. -/
  | start
  /-- `shutdown()`. -/
  | shutdown
  /-- The checks of `command`. -/
  | check (c : Command)
  /-- A request is made, with the generation that the connection has now. -/
  | make (i : Nat)
  /-- It is queued. -/
  | put (i : Nat)
  | thread (a : Answer)

def step (s : Supervisor) : Label → Option Supervisor
  | .start =>
    if s.station = .ended then some { s with shutdown := false, status := .waitingHardware, station := .top }
    else none
  | .shutdown => if s.station = .ended then none else some { s with shutdown := true }
  | .check c =>
    if s.station = .ended then none
    else if c.kind = .begin ∧ ¬ (s.status = .ready ∨ s.status = .following) then none
    else some { s with checked := s.checked ++ [c] }
  | .make i => s.checked[i]?.map fun c =>
    { s with
      checked := s.checked.eraseIdx i
      made := s.made ++ [{ c with id := s.asked, generation := s.generation }]
      asked := s.asked + 1 }
  | .put i => s.made[i]?.map fun r =>
    { s.note (.queued r.id) with made := s.made.eraseIdx i, requests := s.requests ++ [r] }
  | .thread a => if s.station = .ended then none else some (s.advance a)

/-- An arming, or a clean-up that finds something to stop, has seen no `remote.stop` yet. -/
def owed : List Entry → Bool
  | [] => false
  | .arm _ :: _ => true
  | .cleaning true :: _ => true
  | .stop :: _ => false
  | _ :: log => owed log

def handled : List Entry → Option Request
  | [] => none
  | .taken r :: _ => some r
  | .answered _ :: _ => none
  | _ :: log => handled log

def Entry.leaves : Entry → Bool
  | .stopped | .dropped | .ended => true
  | _ => false

def Entry.closes (n : Nat) : Entry → Bool
  | .finished m _ | .interrupted m _ => m = n
  | _ => false

def closings (n : Nat) (log : List Entry) : Nat := log.countP (Entry.closes n)

structure Kept (s : Supervisor) : Prop where
  /-- `remote.arm` is called while a begin request of this generation is handled. -/
  arms : ∀ after g before, s.log = after ++ .arm g :: before →
    ∃ r, handled before = some r ∧ r.kind = .begin ∧ r.generation = g
  stops : ∀ after e before, s.log = after ++ e :: before → e.leaves = true → owed before = false
  answers : s.station = .ended → ∀ i, .queued i ∈ s.log → .answered i ∈ s.log
  /-- A recording is closed once, unless it is the active one. -/
  recordings : ∀ n, .recording n ∈ s.log → closings n s.log = if s.recorder = some n then 0 else 1
  inactive : s.station = .ended → s.recorder = none

/-- The steps that do not reach the defects: no `force_interrupted_close` raises; nothing is queued while
the end of the thread is cut short by `remote.stop` or `leader.close`; and nothing is queued after it. -/
def Regular (s : Supervisor) : Label → Prop
  | .thread a => match s.station with
      | .interrupting _ => s.recorder ≠ none → a.outcome = .returned
      | .stopping .final => s.live = true → a.outcome = .escapes → s.requests = []
      | .closing true => s.connected = true → a.outcome ≠ .returned → s.requests = []
      | _ => True
  | .put _ => s.station ≠ .ended
  | _ => True

/-! ## What the moves keep -/

variable {s t : Supervisor} {l : Label} {log : List Entry} {e : Entry} {recorder : Option Nat} {recordings : Nat}

structure Fits (e : Entry) (log : List Entry) : Prop where
  arm : ∀ g, e = .arm g → ∃ r, handled log = some r ∧ r.kind = .begin ∧ r.generation = g
  leave : e.leaves = true → owed log = false

structure Ledger (log : List Entry) (recorder : Option Nat) (recordings : Nat) : Prop where
  fits : ∀ after e before, log = after ++ e :: before → Fits e before
  known : ∀ n, .recording n ∈ log → n < recordings
  counted : ∀ n, closings n log + (if recorder = some n then 1 else 0) = if n < recordings then 1 else 0

theorem Ledger.cons_fits (ledger : Ledger log recorder recordings) (fits : Fits e log) :
    ∀ after f before, e :: log = after ++ f :: before → Fits f before := by
  intro after f before split
  cases after with
  | nil =>
    obtain ⟨rfl, rfl⟩ := List.cons.inj split
    exact fits
  | cons first after => exact ledger.fits after f before (List.cons.inj split).2

def Entry.quiet : Entry → Bool
  | .recording _ | .finished _ _ | .interrupted _ _ => false
  | _ => true

theorem closings_quiet (quiet : e.quiet = true) (n : Nat) : closings n (e :: log) = closings n log := by
  have none_ : e.closes n = false := by cases e <;> first | rfl | cases quiet
  simp only [closings, countP_cons, none_, false_eq_true, if_false, Nat.add_zero]

theorem Ledger.note (ledger : Ledger log recorder recordings) (fits : Fits e log) (quiet : e.quiet = true) :
    Ledger (e :: log) recorder recordings where
  fits := ledger.cons_fits fits
  known n started := by
    rcases List.mem_cons.mp started with rfl | started
    · cases quiet
    · exact ledger.known n started
  counted n := by
    rw [closings_quiet quiet]
    exact ledger.counted n

theorem Ledger.start (ledger : Ledger log none recordings) :
    Ledger (.recording recordings :: log) (some recordings) (recordings + 1) where
  fits := ledger.cons_fits ⟨nofun, nofun⟩
  known n started := by
    rcases List.mem_cons.mp started with same | started
    · exact Entry.recording.inj same ▸ Nat.lt_succ_self _
    · exact Nat.lt_succ_of_lt (ledger.known n started)
  counted n := by
    have counted := ledger.counted n
    have same : closings n (.recording recordings :: log) = closings n log := by
      simp only [closings, countP_cons, Entry.closes, false_eq_true, if_false, Nat.add_zero]
    rw [same]
    simp only [reduceCtorEq, if_false, Option.some.injEq] at counted ⊢
    split at counted <;> split <;> split <;> omega

variable {n : Nat} {station : Station}

theorem Ledger.close (ledger : Ledger log (some n) recordings) (fits : Fits e log)
    (closes : ∀ m, e.closes m = decide (n = m)) : Ledger (e :: log) none recordings where
  fits := ledger.cons_fits fits
  known m started := by
    rcases List.mem_cons.mp started with rfl | started
    · have none_ := closes n
      simp only [Entry.closes, decide_true, false_eq_true] at none_
    · exact ledger.known m started
  counted m := by
    have counted := ledger.counted m
    simp only [closings, countP_cons, closes, decide_eq_true_eq, Option.some.injEq, reduceCtorEq, if_false,
      Nat.add_zero] at counted ⊢
    exact counted

def Cleanup.request? : Cleanup → Option Request
  | .command r => some r
  | _ => none

def Station.request? : Station → Option Request
  | .handling r | .reading r | .arming r | .aligning r | .starting r | .finishing r => some r
  | .interrupting w | .stopping w => w.request?
  | _ => none

/-- In a clean-up, before its `remote.stop`. -/
def Station.early : Station → Bool
  | .interrupting _ | .stopping _ => true
  | _ => false

def At (s : Supervisor) : Station → Prop
  | .connecting => s.connected = false
  | .handling r => s.connected = true ∧ handled s.log = some r
  | .reading r | .arming r => s.connected = true ∧ s.recorder = none ∧ handled s.log = some r ∧
      r.kind = .begin ∧ r.generation = s.generation
  | .polling => s.connected = true
  | .aligning _ | .starting _ | .stopping _ => s.recorder = none
  | .closing _ | .draining => s.recorder = none ∧ owed s.log = false
  | .ended => s.recorder = none ∧ owed s.log = false ∧ s.requests = []
  | _ => True

structure Inv (s : Supervisor) : Prop where
  ledger : Ledger s.log s.recorder s.recordings
  owing : owed s.log = true → s.connected = true ∧ (s.armAttempted = true ∨ s.armed = true ∧ s.station.early = true)
  station : At s s.station
  pending : ∀ i, .queued i ∈ s.log →
    .answered i ∈ s.log ∨ i ∈ s.requests.map Request.id ∨ ∃ r, s.station.request? = some r ∧ r.id = i

theorem inv_init : Inv {} where
  ledger := by
    refine ⟨fun after e before split => ?_, nofun, fun n => rfl⟩
    cases after <;> cases split
  owing := nofun
  station := ⟨rfl, rfl, rfl⟩
  pending := nofun

theorem Inv.pends (inv : Inv s) (i : Nat) (queued : .queued i ∈ e :: s.log) (other : ∀ i, e ≠ .queued i) :
    .answered i ∈ e :: s.log ∨ i ∈ s.requests.map Request.id ∨ ∃ r, s.station.request? = some r ∧ r.id = i :=
  (inv.pending i ((List.mem_cons.mp queued).resolve_left (other i).symm)).imp_left (mem_cons_of_mem _)

theorem Inv.here (inv : Inv s) (same : s.station = station) : At s station := same ▸ inv.station
variable {r : Request} {w : Cleanup}

theorem only (same : s.station = station) (at_ : station.request? = some r) (q : Request)
    (other : s.station.request? = some q) : q = r := by
  rw [same, at_] at other
  exact (Option.some.inj other).symm

theorem Inv.attempted (inv : Inv s) (late : s.station.early = false) (owes : owed s.log = true) :
    s.armAttempted = true := by
  rcases (inv.owing owes).2 with attempted | ⟨_, early⟩
  · exact attempted
  · cases late.symm.trans early

theorem Inv.goes (inv : Inv s) (armed : Bool) (status : Status)
    (held : ∀ r, s.station.request? = some r → station.request? = some r)
    (owing : owed s.log = true → s.armAttempted = true ∨ armed = true ∧ station.early = true)
    (here : At { s with armed := armed, status := status, station := station } station) :
    Inv { s with armed := armed, status := status, station := station } where
  ledger := inv.ledger
  owing owes := ⟨(inv.owing owes).1, owing owes⟩
  station := here
  pending i queued := by
    rcases inv.pending i queued with answered | waiting | ⟨r, at_, same⟩
    · exact .inl answered
    · exact .inr (.inl waiting)
    · exact .inr (.inr ⟨r, held r at_, same⟩)

theorem Inv.clean (inv : Inv s) (held : ∀ r, s.station.request? = some r → w.request? = some r) :
    Inv (s.clean w) where
  ledger := inv.ledger.note ⟨nofun, nofun⟩ rfl
  owing owes := by
    have live : s.live = true := by
      cases live : s.live with
      | true => rfl
      | false =>
        have owes : owed (.cleaning s.live :: s.log) = true := owes
        rw [live] at owes
        obtain ⟨connected, armed⟩ := inv.owing owes
        simp only [Supervisor.live, connected, Bool.true_and, Bool.or_eq_false_iff] at live
        rcases armed with attempted | ⟨armed, _⟩
        · cases live.2.symm.trans attempted
        · cases live.1.symm.trans armed
    simp only [Supervisor.live, and_eq_true, or_eq_true] at live
    exact ⟨live.1, live.2.symm.imp_right fun armed => ⟨armed, rfl⟩⟩
  station := trivial
  pending i queued := by
    rcases inv.pends i queued nofun with answered | waiting | ⟨r, at_, same⟩
    · exact .inl answered
    · exact .inr (.inl waiting)
    · exact .inr (.inr ⟨r, held r at_, same⟩)

theorem Inv.reply (inv : Inv s) (held : ∀ q, s.station.request? = some q → q = r)
    (owing : owed s.log = true → s.armAttempted = true) : Inv (s.reply r) where
  ledger := inv.ledger.note ⟨nofun, nofun⟩ rfl
  owing owes := ⟨(inv.owing owes).1, .inl (owing owes)⟩
  station := trivial
  pending i queued := by
    rcases inv.pends i queued nofun with answered | waiting | ⟨q, at_, same⟩
    · exact .inl answered
    · exact .inr (.inl waiting)
    · subst same
      rw [held q at_]
      exact .inl mem_cons_self

theorem Inv.raised (inv : Inv s) (o : Outcome) (held : s.station.request? = none) : Inv (s.raised o) :=
  inv.clean fun _ at_ => nomatch held.symm.trans at_

theorem Inv.failed (inv : Inv s) (o : Outcome) (held : ∀ q, s.station.request? = some q → q = r)
    (late : s.station.early = false) : Inv ((s.reply r).raised o) :=
  (inv.reply held (inv.attempted late)).raised o rfl

theorem Inv.leave (inv : Inv s) (paid : owed s.log = false) (inactive : s.recorder = none) (served : s.requests = [])
    (held : s.station.request? = none) : Inv s.leave where
  ledger := inv.ledger.note ⟨nofun, fun _ => paid⟩ rfl
  owing owes := nomatch paid.symm.trans owes
  station := ⟨inactive, paid, served⟩
  pending i queued := by
    rcases inv.pends i queued nofun with answered | waiting | ⟨r, at_, _⟩
    · exact .inl answered
    · exact .inr (.inl waiting)
    · cases held.symm.trans at_

/-! ## The moves of the thread -/

theorem inv_connectOnce (inv : Inv s) (a : Answer) (station : s.station = .connecting) : Inv (s.connectOnce a) := by
  have here : s.connected = false := inv.here station
  have held : s.station.request? = none := by rw [station]; rfl
  have paid : owed s.log = false := by
    cases owes : owed s.log with
    | false => rfl
    | true => cases here.symm.trans (inv.owing owes).1
  unfold connectOnce
  split
  · refine ⟨inv.ledger, fun owes => (nomatch paid.symm.trans owes), rfl, fun i queued => ?_⟩
    rcases inv.pending i queued with answered | waiting | ⟨r, at_, _⟩
    · exact .inl answered
    · exact .inr (.inl waiting)
    · cases held.symm.trans at_
  · exact inv.goes s.armed _ (fun _ at_ => nomatch held.symm.trans at_)
      (fun owes => nomatch paid.symm.trans owes) trivial
  · exact inv.clean fun _ at_ => nomatch held.symm.trans at_

theorem inv_nextRequest (inv : Inv s) (station : s.station = .polling) : Inv s.nextRequest := by
  have here : s.connected = true := inv.here station
  have held : s.station.request? = none := by rw [station]; rfl
  have attempted := inv.attempted (by rw [station]; rfl)
  unfold nextRequest
  split
  · exact inv.goes s.armed s.status (fun _ at_ => nomatch held.symm.trans at_)
      (fun owes => .inl (attempted owes)) trivial
  · rename_i r rest requests
    refine ⟨inv.ledger.note ⟨nofun, nofun⟩ rfl, fun owes => ⟨here, .inl (attempted owes)⟩, ⟨here, rfl⟩,
      fun i queued => ?_⟩
    rcases inv.pends i queued nofun with answered | waiting | ⟨q, at_, _⟩
    · exact .inl answered
    · rw [requests, map_cons, mem_cons] at waiting
      rcases waiting with rfl | waiting
      · exact .inr (.inr ⟨r, rfl, rfl⟩)
      · exact .inr (.inl waiting)
    · cases held.symm.trans at_

theorem inv_handleRequest (inv : Inv s) (station : s.station = .handling r) : Inv (s.handleRequest r) := by
  have here : s.connected = true ∧ handled s.log = some r := inv.here station
  have held := only station rfl
  have attempted := inv.attempted (by rw [station]; rfl)
  have replied : Inv (s.reply r) := inv.reply held attempted
  have goes {next : Station} (keeps : next.request? = some r) (at_ : At { s with station := next } next) :
      Inv { s with station := next } :=
    inv.goes s.armed s.status (fun q at_ => keeps.trans (congrArg some (held q at_).symm))
      (fun owes => .inl (attempted owes)) at_
  unfold handleRequest
  split
  · exact replied
  rename_i current
  have current : r.generation = s.generation := not_not.mp current
  split
  · rename_i begins
    split
    · exact replied
    split
    · exact replied
    rename_i inactive
    have inactive : s.recorder = none := by
      simpa only [not_eq_true, Option.isSome_eq_false_iff, Option.isNone_iff_eq_none] using inactive
    split
    · exact goes rfl inactive
    · exact goes rfl ⟨here.1, inactive, here.2, begins, current⟩
  · split
    · exact goes rfl trivial
    · exact replied
  · split
    · exact goes rfl trivial
    · exact replied
  · exact inv.clean fun q at_ => congrArg some (held q at_).symm
  · exact replied

theorem inv_readOrigins (inv : Inv s) (a : Answer) (station : s.station = .reading r) : Inv (s.readOrigins r a) := by
  have here : s.connected = true ∧ s.recorder = none ∧ handled s.log = some r ∧ r.kind = .begin ∧
      r.generation = s.generation := inv.here station
  have attempted := inv.attempted (by rw [station]; rfl)
  have held := only station rfl
  have read : Inv { s with armed := a.armed } :=
    inv.goes a.armed s.status (fun q at_ => at_) (fun owes => .inl (attempted owes)) inv.station
  unfold readOrigins
  dsimp only
  split
  · exact read.goes a.armed .aligning (fun q at_ => congrArg some (held q at_).symm)
      (fun owes => .inl (attempted owes)) here
  · exact read.failed _ held (congrArg early station)

theorem inv_arm (inv : Inv s) (a : Answer) (station : s.station = .arming r) : Inv (s.arm r a) := by
  have here : s.connected = true ∧ s.recorder = none ∧ handled s.log = some r ∧ r.kind = .begin ∧
      r.generation = s.generation := inv.here station
  have held := only station rfl
  obtain ⟨connected, inactive, handles, begins, current⟩ := here
  have armed : Inv { s.note (.arm s.generation) with armAttempted := true, armed := a.armed } := by
    refine ⟨inv.ledger.note ⟨fun g same => ?_, nofun⟩ rfl, fun _ => ⟨connected, .inl rfl⟩, ?_,
      fun i queued => inv.pends i queued nofun⟩
    · exact ⟨r, handles, begins, current.trans (Entry.arm.inj same)⟩
    · show At _ s.station
      rw [station]
      exact ⟨connected, inactive, handles, begins, current⟩
  unfold arm
  dsimp only
  split
  · exact armed.goes a.armed s.status (fun q at_ => congrArg some (held q at_).symm) (fun _ => .inl rfl) inactive
  · exact armed.failed _ held (congrArg early station)

theorem inv_align (inv : Inv s) (a : Answer) (station : s.station = .aligning r) : Inv (s.align r a) := by
  have inactive : s.recorder = none := inv.here station
  have held := only station rfl
  have attempted := inv.attempted (by rw [station]; rfl)
  have served : Inv { s with armed := a.armed } :=
    inv.goes a.armed s.status (fun q at_ => at_) (fun owes => .inl (attempted owes)) (by rw [station]; exact inactive)
  unfold align
  split
  · exact inv.failed _ held (congrArg early station)
  dsimp only
  split
  · split
    · exact served
    · exact served.goes a.armed .following (fun q at_ => congrArg some (held q at_).symm)
        (fun owes => .inl (attempted owes)) inactive
  · exact served.failed _ held (congrArg early station)

theorem inv_beginEpisode (inv : Inv s) (a : Answer) (station : s.station = .starting r) :
    Inv (s.beginEpisode r a) := by
  have inactive : s.recorder = none := inv.here station
  have held := only station rfl
  have attempted := inv.attempted (by rw [station]; rfl)
  unfold beginEpisode
  split
  · refine ⟨?_, fun owes => ⟨(inv.owing owes).1, .inl (attempted owes)⟩, trivial, fun i queued => ?_⟩
    · have ledger := inv.ledger
      rw [inactive] at ledger
      exact ledger.start.note ⟨nofun, nofun⟩ rfl
    · have queued : .queued i ∈ s.log :=
        (List.mem_cons.mp ((List.mem_cons.mp queued).resolve_left nofun)).resolve_left nofun
      rcases inv.pending i queued with answered | waiting | ⟨q, at_, same⟩
      · exact .inl (mem_cons_of_mem _ (mem_cons_of_mem _ answered))
      · exact .inr (.inl waiting)
      · subst same
        rw [held q at_]
        exact .inl mem_cons_self
  · exact inv.failed _ held (congrArg early station)

theorem Inv.close (inv : Inv s) (active : s.recorder = some n)
    (closes : (∃ success, e = .finished n success) ∨ ∃ reason, e = .interrupted n reason)
    (free : ∀ t, At t s.station) : Inv { s.note e with recorder := none } := by
  have ledger := inv.ledger
  rw [active] at ledger
  rcases closes with ⟨success, rfl⟩ | ⟨reason, rfl⟩
  all_goals
    exact ⟨ledger.close ⟨nofun, nofun⟩ fun m => rfl, inv.owing, free _, fun i queued => inv.pends i queued nofun⟩

theorem inv_finishEpisode (inv : Inv s) (a : Answer) (station : s.station = .finishing r) :
    Inv (s.finishEpisode r a) := by
  have held := only station rfl
  have late : s.station.early = false := congrArg early station
  have attempted := inv.attempted late
  unfold finishEpisode
  split
  · rename_i n active returned
    have closed := inv.close (e := .finished n (if r.kind = Kind.finish then r.success else none)) active
      (.inl ⟨_, rfl⟩) fun t => by rw [station]; trivial
    have told := closed.goes s.armed (if s.connected && s.armed then Status.following else .ready)
      (fun q at_ => at_) (fun owes => .inl (attempted owes)) closed.station
    exact told.reply held attempted
  · exact inv.failed _ held late
  · exact inv.failed _ held late

theorem inv_controlCycle (inv : Inv s) (a : Answer) (station : s.station = .cycling) : Inv (s.controlCycle a) := by
  have held : s.station.request? = none := by rw [station]; rfl
  have attempted := inv.attempted (by rw [station]; rfl)
  have cycled : Inv { s with armed := a.armed } :=
    inv.goes a.armed s.status (fun q at_ => at_) (fun owes => .inl (attempted owes)) (by rw [station]; trivial)
  unfold controlCycle
  dsimp only
  split
  · exact cycled.goes a.armed s.status (fun _ at_ => nomatch held.symm.trans at_)
      (fun owes => .inl (attempted owes)) trivial
  · exact cycled.raised _ held

theorem inv_interruptRecording (inv : Inv s) (a : Answer) (station : s.station = .interrupting w)
    (returns : s.recorder ≠ none → a.outcome = .returned) : Inv (s.interruptRecording a w) := by
  have held (r : Request) (at_ : s.station.request? = some r) : w.request? = some r := by
    rw [station] at at_
    exact at_
  have owing (owes : owed s.log = true) : s.armAttempted = true ∨ s.armed = true ∧ early (.stopping w) = true :=
    (inv.owing owes).2.imp_right fun early => ⟨early.1, rfl⟩
  unfold interruptRecording
  split
  · rename_i inactive
    exact inv.goes s.armed s.status held owing inactive
  · rename_i n active _
    have closed := inv.close (e := .interrupted n w.reason) active (.inr ⟨_, rfl⟩) fun t => by rw [station]; trivial
    exact closed.goes s.armed s.status held owing rfl
  all_goals
    rename_i active raised
    cases raised.symm.trans (returns (by rw [active]; nofun))

theorem inv_afterStop (inv : Inv s) (station : s.station = .stopping w) (paid : owed s.log = false) :
    Inv (s.afterStop w) := by
  have inactive : s.recorder = none := inv.here station
  cases w with
  | command =>
    have stopped : Inv { s.note .stopped with status := .ready } := by
      refine ⟨inv.ledger.note ⟨nofun, fun _ => paid⟩ rfl, fun owes => (nomatch paid.symm.trans owes), ?_,
        fun i queued => inv.pends i queued nofun⟩
      show At _ s.station
      rw [station]
      exact inactive
    exact stopped.reply (only station rfl) fun owes => nomatch paid.symm.trans owes
  | fault | final =>
    have held : s.station.request? = none := by rw [station]; rfl
    exact inv.goes s.armed s.status (fun _ at_ => nomatch held.symm.trans at_)
      (fun owes => nomatch paid.symm.trans owes) ⟨inactive, paid⟩

theorem inv_safeStop (inv : Inv s) (a : Answer) (station : s.station = .stopping w)
    (served : w = .final → s.live = true → a.outcome = .escapes → s.requests = []) :
    Inv (s.safeStop a w) := by
  have inactive : s.recorder = none := inv.here station
  unfold safeStop
  split
  · rename_i live
    have stopped : Inv { s.note .stop with armed := a.armed, armAttempted := false } := by
      refine ⟨inv.ledger.note ⟨nofun, nofun⟩ rfl, nofun, ?_, fun i queued => inv.pends i queued nofun⟩
      show At _ s.station
      rw [station]
      exact inactive
    dsimp only
    split
    · rename_i escapes
      cases w with
      | command => exact (stopped.reply (only station rfl) nofun).clean nofun
      | fault => exact stopped.clean fun _ at_ => nomatch (congrArg request? station).symm.trans at_
      | final => exact stopped.leave rfl inactive (served rfl live escapes) (congrArg request? station)
    · exact inv_afterStop stopped station rfl
  · rename_i dead
    refine inv_afterStop inv station ?_
    cases owes : owed s.log with
    | false => rfl
    | true =>
      obtain ⟨connected, armed⟩ := inv.owing owes
      refine absurd ?_ dead
      rw [live, connected, Bool.true_and, Bool.or_eq_true]
      exact armed.symm.imp_left And.left

theorem inv_closeConnections (inv : Inv s) (a : Answer) {last} (station : s.station = .closing last)
    (served : last = true → s.connected = true → a.outcome ≠ .returned → s.requests = []) :
    Inv (s.closeConnections a last) := by
  obtain ⟨inactive, paid⟩ : s.recorder = none ∧ owed s.log = false := inv.here station
  have held : s.station.request? = none := by rw [station]; rfl
  have closed {s : Supervisor} (inv : Inv s) (held : s.station.request? = none) (inactive : s.recorder = none)
      (paid : owed s.log = false) : Inv (s.afterClose last) := by
    unfold afterClose
    split
    · exact inv.goes s.armed _ (fun _ at_ => nomatch held.symm.trans at_)
        (fun owes => nomatch paid.symm.trans owes) ⟨inactive, paid⟩
    · exact inv.goes s.armed _ (fun _ at_ => nomatch held.symm.trans at_)
        (fun owes => nomatch paid.symm.trans owes) trivial
  unfold closeConnections
  split
  · rename_i connected
    split
    · have dropped : Inv { s.note .dropped with connected := false } := by
        refine ⟨inv.ledger.note ⟨nofun, fun _ => paid⟩ rfl, fun owes => (nomatch paid.symm.trans owes), ?_,
          fun i queued => inv.pends i queued nofun⟩
        show At _ s.station
        rw [station]
        exact ⟨inactive, paid⟩
      exact closed dropped held inactive paid
    · rename_i raises
      cases last with
      | true => exact inv.leave paid inactive (served rfl connected raises) held
      | false => exact inv.clean fun _ at_ => nomatch held.symm.trans at_
  · exact closed inv held inactive paid

theorem inv_drain (inv : Inv s) (station : s.station = .draining) : Inv s.drain := by
  obtain ⟨inactive, paid⟩ : s.recorder = none ∧ owed s.log = false := inv.here station
  have held : s.station.request? = none := by rw [station]; rfl
  unfold drain
  split
  · rename_i served
    exact inv.leave paid inactive served held
  · rename_i r rest requests
    refine ⟨inv.ledger.note ⟨nofun, nofun⟩ rfl, fun owes => (nomatch paid.symm.trans owes), ?_, fun i queued => ?_⟩
    · show At _ s.station
      rw [station]
      exact ⟨inactive, paid⟩
    · rcases inv.pends i queued nofun with answered | waiting | ⟨q, at_, _⟩
      · exact .inl answered
      · rw [requests, map_cons, mem_cons] at waiting
        rcases waiting with rfl | waiting
        · exact .inl mem_cons_self
        · exact .inr (.inl waiting)
      · cases held.symm.trans at_

theorem inv_advance (inv : Inv s) (a : Answer) (regular : Regular s (.thread a)) : Inv (s.advance a) := by
  unfold advance
  cases station : s.station with
  | top =>
    have held : s.station.request? = none := by rw [station]; rfl
    have attempted := inv.attempted (by rw [station]; rfl)
    dsimp only
    split
    · exact inv.clean fun _ at_ => nomatch held.symm.trans at_
    · refine inv.goes s.armed s.status (fun _ at_ => nomatch held.symm.trans at_)
        (fun owes => .inl (attempted owes)) ?_
      split
      · assumption
      · exact Bool.eq_false_iff.mpr ‹_›
  | connecting => exact inv_connectOnce inv a station
  | polling => exact inv_nextRequest inv station
  | handling => exact inv_handleRequest inv station
  | reading => exact inv_readOrigins inv a station
  | arming => exact inv_arm inv a station
  | aligning => exact inv_align inv a station
  | starting => exact inv_beginEpisode inv a station
  | finishing => exact inv_finishEpisode inv a station
  | cycling => exact inv_controlCycle inv a station
  | interrupting =>
    refine inv_interruptRecording inv a station ?_
    simpa only [Regular, station] using regular
  | stopping =>
    refine inv_safeStop inv a station ?_
    rintro rfl
    simpa only [Regular, station] using regular
  | closing =>
    refine inv_closeConnections inv a station ?_
    rintro rfl
    simpa only [Regular, station] using regular
  | draining => exact inv_drain inv station
  | ended => exact inv

theorem inv_put (inv : Inv s) (r : Request) (made : List Request) (alive : s.station ≠ .ended) :
    Inv { s.note (.queued r.id) with made := made, requests := s.requests ++ [r] } := by
  refine ⟨inv.ledger.note ⟨nofun, nofun⟩ rfl, inv.owing, ?_, fun i queued => ?_⟩
  · have here := inv.station
    show At _ s.station
    cases station : s.station with
    | ended => exact absurd station alive
    | _ =>
      rw [station] at here
      exact here
  · rcases List.mem_cons.mp queued with same | queued
    · have last : r ∈ s.requests ++ [r] := mem_append_right _ mem_cons_self
      exact .inr (.inl (List.mem_map.mpr ⟨r, last, (Entry.queued.inj same).symm⟩))
    · rcases inv.pending i queued with answered | waiting | held
      · exact .inl (mem_cons_of_mem _ answered)
      · refine .inr (.inl ?_)
        rw [map_append]
        exact mem_append_left _ waiting
      · exact .inr (.inr held)

theorem inv_step (inv : Inv s) (regular : Regular s l) (next : step s l = some t) : Inv t := by
  cases l with
  | start =>
    obtain ⟨ended, same⟩ := Option.ite_none_right_eq_some.mp next
    cases same
    obtain ⟨_, paid, _⟩ : s.recorder = none ∧ owed s.log = false ∧ s.requests = [] := inv.here ended
    have looping : Inv { s with status := .waitingHardware, station := .top } :=
      inv.goes s.armed .waitingHardware (fun _ at_ => nomatch (congrArg request? ended).symm.trans at_)
        (fun owes => nomatch paid.symm.trans owes) trivial
    exact ⟨looping.ledger, looping.owing, looping.station, looping.pending⟩
  | shutdown =>
    obtain ⟨_, same⟩ := Option.ite_none_left_eq_some.mp next
    cases same
    exact ⟨inv.ledger, inv.owing, inv.station, inv.pending⟩
  | check =>
    obtain ⟨_, checked⟩ := Option.ite_none_left_eq_some.mp next
    obtain ⟨_, same⟩ := Option.ite_none_left_eq_some.mp checked
    cases same
    exact ⟨inv.ledger, inv.owing, inv.station, inv.pending⟩
  | make =>
    obtain ⟨c, _, rfl⟩ := Option.map_eq_some_iff.mp next
    exact ⟨inv.ledger, inv.owing, inv.station, inv.pending⟩
  | put =>
    obtain ⟨r, _, rfl⟩ := Option.map_eq_some_iff.mp next
    exact inv_put inv r _ regular
  | thread a =>
    obtain ⟨_, same⟩ := Option.ite_none_left_eq_some.mp next
    cases same
    exact inv_advance inv a regular

theorem Inv.kept (inv : Inv s) : Kept s where
  arms after g before split := (inv.ledger.fits after _ before split).arm g rfl
  stops after e before split leaves := (inv.ledger.fits after e before split).leave leaves
  answers ended i queued := by
    obtain ⟨_, _, served⟩ : s.recorder = none ∧ owed s.log = false ∧ s.requests = [] := inv.here ended
    rcases inv.pending i queued with answered | waiting | ⟨r, at_, _⟩
    · exact answered
    · rw [served] at waiting
      cases waiting
    · rw [ended] at at_
      cases at_
  recordings n started := by
    have counted := inv.ledger.counted n
    rw [if_pos (inv.ledger.known n started)] at counted
    by_cases active : s.recorder = some n
    · rw [if_pos active] at counted ⊢
      omega
    · rw [if_neg active] at counted ⊢
      omega
  inactive ended := (inv.here ended : s.recorder = none ∧ _).1

/-- In a run of regular steps the remote is armed only on request, whatever ends stops it first, and no
request or recording is left without an end. -/
theorem supervised {labels : List Label} (regular : Along step Regular {} labels) :
    ∀ before after u, labels = before ++ after → run step {} before = some u → Kept u := by
  intro before after u split reached
  subst split
  have first := ((along_append reached).mp regular).1
  exact (run_induction (fun _ _ _ regular inv next => inv_step inv regular next) first inv_init reached).kept

def picking : Command where
  kind := .begin
  task := some "pick the block".toList

def asking : List Label := [.start, .thread {}, .thread {}, .check picking, .make 0, .put 0]

def beginning : List Label :=
  [.thread {}, .thread {}, .thread {}, .thread { armed := true }, .thread { armed := true }, .thread {}]

/-- The thread ends: the recording is interrupted, the remote is stopped, and the connection is dropped. -/
def ending : List Label := [.shutdown, .thread {}, .thread {}, .thread {}, .thread {}, .thread {}]

/-- A recording that the end of the thread interrupts. -/
theorem supervised_shut : ∃ u, run step {} (asking ++ beginning ++ ending) = some u ∧
    u.log.take 5 = [.ended, .dropped, .stop, .interrupted 0 "supervisor_shutdown", .cleaning true] ∧ Kept u := by
  obtain ⟨u, ran, log⟩ : ∃ u, run step {} (asking ++ beginning ++ ending) = some u ∧
      u.log.take 5 = [.ended, .dropped, .stop, .interrupted 0 "supervisor_shutdown", .cleaning true] :=
    ⟨_, rfl, rfl⟩
  have asks : Along step Regular {} asking :=
    along_cons trivial rfl (along_cons trivial rfl (along_cons trivial rfl (along_cons trivial rfl
      (along_cons trivial rfl (along_cons nofun rfl trivial)))))
  have begins : ∀ s, run step {} asking = some s → Along step Regular s beginning := by
    intro s reached
    cases reached
    exact along_cons trivial rfl (along_cons trivial rfl (along_cons trivial rfl (along_cons trivial rfl
      (along_cons trivial rfl (along_cons trivial rfl trivial)))))
  have ends : ∀ s, run step {} (asking ++ beginning) = some s → Along step Regular s ending := by
    intro s reached
    cases reached
    exact along_cons trivial rfl (along_cons trivial rfl (along_cons (fun _ => rfl) rfl (along_cons (fun _ => nofun) rfl
      (along_cons (fun _ raises => absurd rfl raises) rfl (along_cons trivial rfl trivial)))))
  obtain ⟨s, first, _⟩ := run_append.mp ran
  obtain ⟨r, asked, _⟩ := run_append.mp first
  have regular := (along_append first).mpr ⟨(along_append asked).mpr ⟨asks, begins r asked⟩, ends s first⟩
  exact ⟨u, ran, log, supervised regular _ [] u (append_nil _).symm ran⟩

def failing : List Label :=
  [.check { kind := .stop }, .make 0, .put 0, .shutdown, .thread {}, .thread { outcome := .exception }]

/-- The close of the recording raises, and nothing is stopped or answered after it. -/
theorem left_armed : ∃ u, run step {} (asking ++ beginning ++ failing) = some u ∧
    u.log.take 3 = [.ended, .cleaning true, .queued 1] ∧ u.armed = true ∧ u.recorder = none ∧ ¬ Kept u := by
  refine ⟨_, rfl, rfl, rfl, rfl, fun kept => ?_⟩
  cases kept.stops [] .ended _ rfl rfl

end EmbodiRun.Xlerobot.Collection
