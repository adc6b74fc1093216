/-
# Go2.Navigation -- a navigation run, its three tasks, and its threads

`run` gathers a loop that plans, a loop that sends commands, and one that waits for the runtime limit;
it forces a stop when they are over.  The limit forces one, too, and the later one is then left out.
-/
import EmbodiRun.Go2.Motion
import EmbodiRun.Transition.Machine

namespace EmbodiRun.Go2.Navigation

open Transition Motion

inductive Reason where
  | terminal
  | maxRuntime
  deriving DecidableEq

inductive Main where
  | preflight
  /-- In `gather`. -/
  | gathering
  /-- In the `gather` of the tasks that were cancelled. -/
  | cleaning (cancelled : Bool)
  /-- In `_force_stop`; `raising` after an error. -/
  | stopping (raising : Bool)
  /-- `none` where `run` has raised. -/
  | ended (result : Option Reason)
  deriving DecidableEq

/-- `_inference_loop`. -/
inductive Inference where
  | capturing
  | planning
  /-- In `stop_event.wait()`, after a terminal plan. -/
  | waiting
  | finished
  deriving DecidableEq

/-- `_control_loop`. -/
inductive Control where
  /-- In `_wait_until_stopped`, and before the first iteration. -/
  | pausing
  /-- In `base.state()`. -/
  | sensing
  | sending (terminal : Bool)
  | finished
  deriving DecidableEq

/-- `_runtime_limit`. -/
inductive Limit where
  | waiting
  | stopping
  | finished
  deriving DecidableEq

structure State where
  execute : Bool
  main : Main
  authorized : Bool := false
  event : Bool := false
  reason : Option Reason := none
  /-- A task has raised, or the run is cancelled. -/
  failed : Bool := false
  inference : Inference := .finished
  control : Control := .finished
  limit : Limit := .finished
  lease : VelocityLease
  limitStop : Thread := .idle
  mainStop : Thread := .idle

inductive Plan where
  | waypoints
  | terminal
  | raised

structure Sample where
  moving : Bool
  terminal : Bool

inductive Label where
  | preflight (ok : Bool)
  | captured (ok : Bool)
  | planned (plan : Plan)
  /-- A task that waits for the event wakes. -/
  | inferenceWakes
  | controlWakes
  /-- `none` where the state or the follower raised. -/
  | sensed (sample : Option Sample)
  /-- The control loop is told how its send ended. -/
  | sent
  /-- The wait of the runtime limit is over. -/
  | limit
  | limitStopped
  | sendBegins
  | answers (answer : Answer)
  | limitStopBegins
  | limitStopEnds (ok : Bool)
  | mainStopBegins
  | mainStopEnds (ok : Bool)
  /-- `run` is cancelled. -/
  | cancel
  /-- `gather` has raised. -/
  | abort
  | gathered
  | cleaned
  | stopped

namespace State

variable (s : State)

def create : State := { s with
  main := .gathering
  inference := .capturing
  control := .pausing
  limit := .waiting }

def cancelTasks : State := { s with
  inference := if s.inference = .planning then .planning else .finished
  control := .finished
  limit := .finished
  lease := { s.lease with send := s.lease.send.abandon } }

def progress (terminal : Bool) : State :=
  if terminal then { s with control := .finished, reason := some .terminal, event := true }
  else { s with control := .pausing }

/-- `_force_stop` of `run`. -/
def forceStop (raising : Bool) : State :=
  if s.authorized then { s with main := .stopping raising, mainStop := .queued }
  else { s with main := .ended (if raising then none else s.reason) }

end State

def stopBegins (s : State) (thread : Thread) (keep : State → Thread → State) : Option State :=
  if thread = .queued then some (keep { s with lease := s.lease.stopBegins } .running) else none

def stopEnds (s : State) (thread : Thread) (ok : Bool) (keep : State → Thread → State) : Option State :=
  if thread = .running then some (keep { s with lease := s.lease.stopEnds ok } (.finished ok)) else none

/-- `none` where the label is not enabled. -/
def step (s : State) : Label → Option State
  | .preflight ok =>
    if s.main ≠ .preflight then none
    else some ( if ok then { s with
        authorized := true
        lease := { s.lease with log := .authorized :: s.lease.log } }.create
      else { s with main := .ended none })
  | .captured ok =>
    if s.inference ≠ .capturing then none
    else some (
      if ok then { s with inference := .planning } else { s with inference := .finished, failed := true })
  | .planned plan =>
    if s.inference ≠ .planning then none
    else some (match plan with
      | .waypoints => { s with inference := if s.event then .finished else .capturing }
      | .terminal => { s with inference := .waiting }
      | .raised => { s with inference := .finished, failed := true })
  | .inferenceWakes =>
    if s.inference = .waiting && s.event then some { s with inference := .finished } else none
  | .controlWakes =>
    if s.control ≠ .pausing then none
    else some { s with control := if s.event then .finished else .sensing }
  | .sensed sample =>
    if s.control ≠ .sensing then none
    else some (match sample with
      | none => { s with control := .finished, failed := true }
      | some sample =>
        if s.execute then { s with
          control := .sending sample.terminal
          lease := { s.lease with send := .queued sample.moving } }
        else s.progress sample.terminal)
  | .sent => match s.control, s.lease.send with
      | .sending terminal, .finished ok => some (
          if ok then s.progress terminal else { s with control := .finished, failed := true })
      | _, _ => none
  | .limit =>
    if s.limit ≠ .waiting then none
    else some ( if s.event then { s with limit := .finished } else
        let s := { s with reason := some .maxRuntime, event := true }
        if s.authorized then { s with limit := .stopping, limitStop := .queued }
        else { s with limit := .finished })
  | .limitStopped => match s.limit, s.limitStop with
      | .stopping, .finished ok => some (
          if ok then { s with limit := .finished, authorized := false }
          else { s with limit := .finished, failed := true })
      | _, _ => none
  | .sendBegins => s.lease.begin.map fun lease => { s with lease }
  | .answers answer => (s.lease.answer answer).map fun lease => { s with lease }
  | .limitStopBegins => stopBegins s s.limitStop fun s limitStop => { s with limitStop }
  | .limitStopEnds ok => stopEnds s s.limitStop ok fun s limitStop => { s with limitStop }
  | .mainStopBegins => stopBegins s s.mainStop fun s mainStop => { s with mainStop }
  | .mainStopEnds ok => stopEnds s s.mainStop ok fun s mainStop => { s with mainStop }
  | .cancel => match s.main with
      | .preflight | .stopping _ => some { s with main := .ended none }
      -- a gather that has failed does not cancel its tasks again
      | .gathering => some (if s.failed then s else { s.cancelTasks with failed := true })
      | .cleaning _ => some { s.cancelTasks with main := .cleaning true }
      | .ended _ => none
  | .abort =>
    if s.main = .gathering && s.failed then
      some { s.cancelTasks with main := .cleaning false, event := true }
    else none
  | .gathered =>
    if s.main = .gathering && !s.failed && s.inference = .finished && s.control = .finished && s.limit = .finished then
      some (s.forceStop false)
    else none
  | .cleaned => match s.main with
      | .cleaning cancelled =>
        if s.inference = .finished && s.control = .finished && s.limit = .finished then
          some (if cancelled then { s with main := .ended none } else s.forceStop true)
        else none
      | _ => none
  | .stopped => match s.main, s.mainStop with
      | .stopping raising, .finished ok => some { s with
          authorized := s.authorized && !ok
          main := .ended (if raising || !ok then none else s.reason) }
      | _, _ => none

def start (execute : Bool) (leaseId : Option String) : State :=
  let s : State := { execute, main := .preflight, lease := { leaseId } }
  if execute then s else s.create

/-- No task is cancelled while a thread is in `send`, the limit is not reached while the control loop
senses or sends, and no second cancellation comes before the stop has begun. -/
def Orderly (s : State) : Label → Prop
  | .cancel => match s.main with
      | .gathering => s.failed = true ∨ s.lease.send.busy = false
      | .cleaning _ => False
      | .stopping _ => s.mainStop ≠ .queued
      | _ => True
  | .abort => s.lease.send.busy = false
  | .limit => s.event = true ∨ s.control = .pausing ∨ s.control = .finished
  | _ => True

/-! ## Who can send -/

def Still (s : State) : Prop :=
  s.control = .finished ∨ (s.control = .pausing ∧ s.event = true)

/-- What `run` knows where it is. -/
def Fits (s : State) : Prop :=
  match s.main with
  | .preflight => s.limitStop = .idle ∧ s.mainStop = .idle ∧ s.lease.log = [] ∧ s.limit ≠ .waiting
  | .gathering | .cleaning false => s.mainStop = .idle
  | .cleaning true => False
  | .stopping _ => s.mainStop ≠ .idle
  | .ended _ => .authorized ∈ s.lease.log → .stopping ∈ s.lease.log

structure Inv (s : State) : Prop where
  last : StopsLast s.lease.log
  /-- A send that is pending is awaited. -/
  awaited : s.lease.send.pending = true → ∃ terminal, s.control = .sending terminal
  /-- Where a stop is called for, nothing is left to send. -/
  still : (s.limitStop ≠ .idle ∨ s.mainStop ≠ .idle ∨ s.main ≠ .gathering) → Still s
  /-- The stops of the log have begun. -/
  begun : (∃ e ∈ s.lease.log, e.isStop = true) → s.limitStop.begun = true ∨ s.mainStop.begun = true
  stopping : s.limitStop.begun = true ∨ s.mainStop.begun = true → .stopping ∈ s.lease.log
  authorized : .authorized ∈ s.lease.log → s.authorized = true ∨ .stopping ∈ s.lease.log
  fresh : s.limit = .waiting → s.limitStop = .idle
  fits : Fits s

section

variable {s t : State} {l : Label}

theorem Fits.same (fits : Fits s) (log : t.lease.log = s.lease.log) (limitStop : t.limitStop = s.limitStop)
    (mainStop : t.mainStop = s.mainStop) (main : t.main = s.main)
    (fresh : t.limit = .waiting → s.limit = .waiting) : Fits t := by
  unfold Fits at fits ⊢
  rw [main, log, limitStop, mainStop]
  cases here : s.main with rw [here] at fits
  | preflight => exact ⟨fits.1, fits.2.1, fits.2.2.1, fun waiting => fits.2.2.2 (fresh waiting)⟩
  | gathering | stopping | ended => exact fits
  | cleaning cancelled => cases cancelled <;> exact fits

theorem Inv.moves (inv : Inv s) (log : t.lease.log = s.lease.log) (limitStop : t.limitStop = s.limitStop)
    (mainStop : t.mainStop = s.mainStop) (main : t.main = s.main) (authorized : t.authorized = s.authorized)
    (fresh : t.limit = .waiting → s.limit = .waiting)
    (awaited : t.lease.send.pending = true → ∃ terminal, t.control = .sending terminal)
    (still : Still s → Still t) : Inv t where
  last := by rw [log]; exact inv.last
  awaited := awaited
  still := by rw [limitStop, mainStop, main]; exact fun called => still (inv.still called)
  begun := by rw [log, limitStop, mainStop]; exact inv.begun
  stopping := by rw [log, limitStop, mainStop]; exact inv.stopping
  authorized := by rw [log, authorized]; exact inv.authorized
  fresh := by rw [limitStop]; exact fun waiting => inv.fresh (fresh waiting)
  fits := inv.fits.same log limitStop mainStop main fresh

theorem Inv.same (inv : Inv s) (lease : t.lease = s.lease) (limitStop : t.limitStop = s.limitStop)
    (mainStop : t.mainStop = s.mainStop) (main : t.main = s.main) (authorized : t.authorized = s.authorized)
    (fresh : t.limit = .waiting → s.limit = .waiting) (control : t.control = s.control)
    (event : s.event = true → t.event = true) : Inv t := by
  refine inv.moves (by rw [lease]) limitStop mainStop main authorized fresh ?_ fun still => ?_
  · rw [lease, control]
    exact inv.awaited
  · unfold Still at still ⊢
    rw [control]
    exact still.imp_right (And.imp_right event)

theorem Inv.finished (inv : Inv s) (log : t.lease.log = s.lease.log) (limitStop : t.limitStop = s.limitStop)
    (mainStop : t.mainStop = s.mainStop) (authorized : t.authorized = s.authorized)
    (fresh : t.limit ≠ .waiting) (pending : t.lease.send.pending = false) (control : t.control = .finished)
    (main : t.main = s.main ∨ (s.main = .gathering ∧ t.main = .cleaning false)) : Inv t where
  last := by rw [log]; exact inv.last
  awaited := by rw [pending]; exact nofun
  still _ := .inl control
  begun := by rw [log, limitStop, mainStop]; exact inv.begun
  stopping := by rw [log, limitStop, mainStop]; exact inv.stopping
  authorized := by rw [log, authorized]; exact inv.authorized
  fresh waiting := absurd waiting fresh
  fits := by
    have before := inv.fits
    rcases main with same | ⟨gathering, cleaning⟩
    · exact before.same log limitStop mainStop same fun waiting => absurd waiting fresh
    · unfold Fits at before ⊢
      rw [gathering] at before
      rw [cleaning, mainStop]
      exact before

theorem not_still_of_sending {terminal : Bool} (sending : s.control = .sending terminal) : ¬ Still s := by
  rintro (finished | ⟨pausing, _⟩)
  · rw [sending] at finished
    cases finished
  · rw [sending] at pausing
    cases pausing

theorem not_still_of_sensing (sensing : s.control = .sensing) : ¬ Still s := by
  rintro (finished | ⟨pausing, _⟩)
  · rw [sensing] at finished
    cases finished
  · rw [sensing] at pausing
    cases pausing

theorem Inv.open_ (inv : Inv s) {terminal} (sending : s.control = .sending terminal) :
    s.limitStop = .idle ∧ s.mainStop = .idle ∧ s.main = .gathering ∧ ∀ e ∈ s.lease.log, e.isStop = false := by
  have awake := not_still_of_sending sending
  have limitStop : s.limitStop = .idle := by_contra fun other => awake (inv.still (.inl other))
  have mainStop : s.mainStop = .idle := by_contra fun other => awake (inv.still (.inr (.inl other)))
  have main : s.main = .gathering := by_contra fun other => awake (inv.still (.inr (.inr other)))
  refine ⟨limitStop, mainStop, main, fun e here => Bool.eq_false_iff.mpr fun stop => ?_⟩
  rcases inv.begun ⟨e, here, stop⟩ with begun | begun
  · rw [limitStop] at begun
    cases begun
  · rw [mainStop] at begun
    cases begun

theorem Inv.sends {lease : VelocityLease} (inv : Inv s) (sends : Sends s.lease lease) : Inv { s with lease } := by
  obtain ⟨terminal, sending⟩ := inv.awaited sends.was
  obtain ⟨limitStop, mainStop, main, none_⟩ := inv.open_ sending
  obtain ⟨last, quiet⟩ := sends.last inv.last none_
  refine ⟨last, fun _ => ⟨terminal, sending⟩, inv.still, ?_, ?_, ?_, inv.fresh, ?_⟩
  · rintro ⟨e, here, stop⟩
    rw [quiet e here] at stop
    cases stop
  · rintro (begun | begun)
    · rw [show ({ s with lease } : State).limitStop = s.limitStop from rfl, limitStop] at begun
      cases begun
    · rw [show ({ s with lease } : State).mainStop = s.mainStop from rfl, mainStop] at begun
      cases begun
  · intro before
    rcases inv.authorized (sends.authorized.mp before) with held | stopped
    · exact .inl held
    · exact absurd (none_ _ stopped) nofun
  · unfold Fits
    rw [show ({ s with lease } : State).main = s.main from rfl, main]
    exact mainStop

theorem Inv.stops {e : Event} (inv : Inv s) (stop : e.isStop = true) (log : t.lease.log = e :: s.lease.log)
    (send : t.lease.send = s.lease.send) (control : t.control = s.control) (event : t.event = s.event)
    (main : t.main = s.main) (limit : t.limit = s.limit)
    (limitStop : t.limitStop = s.limitStop ∨ (s.limitStop ≠ .idle ∧ t.limitStop ≠ .idle))
    (mainStop : t.mainStop = s.mainStop ∨ (s.mainStop ≠ .idle ∧ t.mainStop ≠ .idle))
    (begun : t.limitStop.begun = true ∨ t.mainStop.begun = true)
    (stopping : e = .stopping ∨ .stopping ∈ s.lease.log) : Inv t := by
  have stopped : Event.stopping ∈ t.lease.log := by
    rw [log]
    exact stopping.elim (fun same => same ▸ List.mem_cons_self) (List.mem_cons_of_mem e)
  refine ⟨log ▸ inv.last.stop stop, ?_, fun called => ?_, fun _ => begun, fun _ => stopped, fun _ => .inr stopped,
    fun waiting => ?_, ?_⟩
  · rw [send, control]
    exact inv.awaited
  · unfold Still
    rw [control, event]
    refine inv.still ?_
    rcases called with called | called | called
    · exact limitStop.elim (fun same => .inl (same ▸ called)) fun was => .inl was.1
    · exact mainStop.elim (fun same => .inr (.inl (same ▸ called))) fun was => .inr (.inl was.1)
    · exact .inr (.inr (main ▸ called))
  · have idle := inv.fresh (limit ▸ waiting)
    exact limitStop.elim (fun same => same.trans idle) fun was => absurd idle was.1
  · have fits := inv.fits
    unfold Fits at fits ⊢
    rw [main]
    have idle (was : s.mainStop = .idle) : t.mainStop = .idle :=
      mainStop.elim (fun same => same.trans was) fun changed => absurd was changed.1
    cases here : s.main with rw [here] at fits
    | ended => exact fun _ => stopped
    | stopping => exact mainStop.elim (fun same => by rw [same]; exact fits) And.right
    | preflight =>
      rcases begun with begun | begun
      · rcases limitStop with same | changed
        · rw [same, fits.1] at begun
          cases begun
        · exact absurd fits.1 changed.1
      · rw [idle fits.2.1] at begun
        cases begun
    | gathering => exact idle fits
    | cleaning cancelled =>
      cases cancelled with
      | true => exact fits
      | false => exact idle fits

theorem Inv.forceStop (inv : Inv s) (finished : s.control = .finished) (idle : s.mainStop = .idle) (raising : Bool) :
    Inv (s.forceStop raising) := by
  have still : Still s := .inl finished
  unfold State.forceStop
  split
  · refine ⟨inv.last, inv.awaited, fun _ => still, fun stopped => ?_, fun begun => ?_, inv.authorized, inv.fresh,
      nofun⟩
    · exact .inl ((inv.begun stopped).resolve_right (by rw [idle]; exact nofun))
    · exact inv.stopping (.inl (begun.resolve_right nofun))
  · rename_i unauthorized
    refine ⟨inv.last, inv.awaited, fun _ => still, inv.begun, inv.stopping, inv.authorized, inv.fresh, ?_⟩
    exact fun before => (inv.authorized before).resolve_left unauthorized

theorem inv_create (last : StopsLast s.lease.log) (pending : s.lease.send.pending = false)
    (limitStop : s.limitStop = .idle) (mainStop : s.mainStop = .idle)
    (none_ : ∀ e ∈ s.lease.log, e.isStop = false) (authorized : .authorized ∈ s.lease.log → s.authorized = true) :
    Inv s.create := by
  refine ⟨last, fun other => ?_, fun called => ?_, fun ⟨e, here, stop⟩ => ?_, fun begun => ?_,
    fun here => .inl (authorized here), fun _ => limitStop, mainStop⟩
  · rw [show s.create.lease = s.lease from rfl, pending] at other
    cases other
  · rcases called with called | called | called
    · exact absurd limitStop called
    · exact absurd mainStop called
    · exact absurd rfl called
  · rw [none_ e here] at stop
    cases stop
  · rw [show s.create.limitStop = s.limitStop from rfl, show s.create.mainStop = s.mainStop from rfl, limitStop,
      mainStop] at begun
    cases begun with
    | inl begun | inr begun => cases begun

theorem Inv.progress (inv : Inv s) (awake : ¬ Still s) (pending : s.lease.send.pending = false) (terminal : Bool) :
    Inv (s.progress terminal) := by
  unfold State.progress
  split
  · exact inv.moves rfl rfl rfl rfl rfl id (fun other => absurd (pending.symm.trans other) nofun)
      fun still => absurd still awake
  · exact inv.moves rfl rfl rfl rfl rfl id (fun other => absurd (pending.symm.trans other) nofun)
      fun still => absurd still awake

theorem begun_of {thread : Thread} (called : thread ≠ .idle) (taken : thread ≠ .queued) : thread.begun = true := by
  cases thread <;> first | rfl | contradiction

theorem abandon_pending {send : Send} (idle : send.busy = false) : send.abandon.pending = false := by
  cases send <;> first | rfl | cases idle

theorem inv_step (inv : Inv s) (orderly : Orderly s l) (next : step s l = some t) : Inv t := by
  cases l with simp only [step] at next
  | preflight ok =>
    split at next
    · cases next
    rename_i main
    have main := not_not.mp main
    have fits := inv.fits
    unfold Fits at fits
    rw [main] at fits
    obtain ⟨limitStop, mainStop, log, waiting⟩ := fits
    have still : Still s := inv.still (.inr (.inr (by rw [main]; exact nofun)))
    cases next
    split
    · refine inv_create ?_ ?_ limitStop mainStop ?_ fun _ => rfl
      · simp [log, StopsLast]
      · refine Bool.eq_false_iff.mpr fun pending => ?_
        obtain ⟨terminal, sending⟩ := inv.awaited pending
        exact not_still_of_sending sending still
      · simp [log, Event.isStop]
    · refine ⟨inv.last, inv.awaited, fun _ => still, inv.begun, inv.stopping, inv.authorized, inv.fresh,
        fun before => ?_⟩
      rw [log] at before
      cases before
  | captured | planned =>
    split at next
    · cases next
    cases next
    split <;> exact inv.same rfl rfl rfl rfl rfl id rfl id
  | inferenceWakes =>
    split at next <;> cases next
    exact inv.same rfl rfl rfl rfl rfl id rfl id
  | controlWakes =>
    split at next
    · cases next
    rename_i pausing
    have pausing := not_not.mp pausing
    cases next
    refine inv.moves rfl rfl rfl rfl rfl id (fun pending => ?_) fun still => ?_
    · obtain ⟨terminal, sending⟩ := inv.awaited pending
      rw [pausing] at sending
      cases sending
    · rcases still with finished | ⟨_, event⟩
      · rw [pausing] at finished
        cases finished
      · exact .inl (if_pos event)
  | sensed sample =>
    split at next
    · cases next
    rename_i sensing
    have sensing := not_not.mp sensing
    have awake := not_still_of_sensing sensing
    have pending : s.lease.send.pending = false := Bool.eq_false_iff.mpr fun pending => by
      obtain ⟨terminal, sending⟩ := inv.awaited pending
      rw [sensing] at sending
      cases sending
    cases next
    cases sample with
    | none =>
      exact inv.moves rfl rfl rfl rfl rfl id (fun other => absurd (pending.symm.trans other) nofun)
        fun still => absurd still awake
    | some sample =>
      simp only
      split
      · exact inv.moves rfl rfl rfl rfl rfl id (fun _ => ⟨sample.terminal, rfl⟩) fun still => absurd still awake
      · exact inv.progress awake pending sample.terminal
  | sent =>
    split at next
    · rename_i terminal ok sending finished
      have awake := not_still_of_sending sending
      have pending : s.lease.send.pending = false := by rw [finished]; rfl
      cases next
      split
      · exact inv.progress awake pending terminal
      · exact inv.moves rfl rfl rfl rfl rfl id (fun other => absurd (pending.symm.trans other) nofun)
          fun still => absurd still awake
    · cases next
  | limit =>
    split at next
    · cases next
    rename_i waiting
    have waiting := not_not.mp waiting
    have idle := inv.fresh waiting
    cases next
    split
    · exact inv.same rfl rfl rfl rfl rfl nofun rfl id
    rename_i unset
    have loop : s.control = .finished ∨ s.control = .pausing :=
      (orderly.resolve_left unset).symm
    split
    · refine ⟨inv.last, inv.awaited, fun _ => loop.imp_right fun pausing => ⟨pausing, rfl⟩, fun stopped => ?_,
        fun begun => ?_, inv.authorized, nofun, ?_⟩
      · refine .inr ((inv.begun stopped).resolve_left ?_)
        rw [idle]
        exact nofun
      · exact inv.stopping (.inr (begun.resolve_left nofun))
      · have fits := inv.fits
        unfold Fits at fits ⊢
        cases here : s.main with rw [here] at fits
        | preflight => exact absurd waiting fits.2.2.2
        | gathering | stopping | ended => simpa only [here] using fits
        | cleaning cancelled =>
          simp only
          cases cancelled <;> exact fits
    · exact inv.same rfl rfl rfl rfl rfl nofun rfl fun _ => rfl
  | limitStopped =>
    split at next
    · rename_i ok stopping finished
      have stopped : Event.stopping ∈ s.lease.log := inv.stopping (.inl (by rw [finished]; rfl))
      cases next
      split
      · exact ⟨inv.last, inv.awaited, inv.still, inv.begun, inv.stopping, fun _ => .inr stopped, nofun,
          inv.fits.same rfl rfl rfl rfl nofun⟩
      · exact inv.same rfl rfl rfl rfl rfl nofun rfl id
    · cases next
  | sendBegins =>
    obtain ⟨lease, begun, rfl⟩ := Option.map_eq_some_iff.mp next
    exact inv.sends (sends_begin begun)
  | answers =>
    obtain ⟨lease, answered, rfl⟩ := Option.map_eq_some_iff.mp next
    exact inv.sends (sends_answer answered)
  | limitStopBegins =>
    simp only [stopBegins] at next
    split at next
    · rename_i queued
      cases next
      exact inv.stops rfl rfl rfl rfl rfl rfl rfl (.inr ⟨by rw [queued]; exact nofun, nofun⟩) (.inl rfl)
        (.inl rfl) (.inl rfl)
    · cases next
  | limitStopEnds ok =>
    simp only [stopEnds] at next
    split at next
    · rename_i running
      cases next
      exact inv.stops (e := .stopped ok) rfl rfl rfl rfl rfl rfl rfl
        (.inr ⟨by rw [running]; exact nofun, nofun⟩) (.inl rfl) (.inl rfl)
        (.inr (inv.stopping (.inl (by rw [running]; rfl))))
    · cases next
  | mainStopBegins =>
    simp only [stopBegins] at next
    split at next
    · rename_i queued
      cases next
      exact inv.stops rfl rfl rfl rfl rfl rfl rfl (.inl rfl) (.inr ⟨by rw [queued]; exact nofun, nofun⟩)
        (.inr rfl) (.inl rfl)
    · cases next
  | mainStopEnds ok =>
    simp only [stopEnds] at next
    split at next
    · rename_i running
      cases next
      exact inv.stops (e := .stopped ok) rfl rfl rfl rfl rfl rfl rfl (.inl rfl)
        (.inr ⟨by rw [running]; exact nofun, nofun⟩) (.inr rfl)
        (.inr (inv.stopping (.inr (by rw [running]; rfl))))
    · cases next
  | cancel =>
    simp only [Orderly] at orderly
    have fits := inv.fits
    unfold Fits at fits
    split at next
    · rename_i main
      rw [main] at fits
      have still := inv.still (.inr (.inr (by rw [main]; exact nofun)))
      cases next
      refine ⟨inv.last, inv.awaited, fun _ => still, inv.begun, inv.stopping, inv.authorized, inv.fresh,
        fun before => ?_⟩
      rw [fits.2.2.1] at before
      cases before
    · rename_i raising main
      rw [main] at fits
      simp only [main] at orderly
      have still := inv.still (.inr (.inr (by rw [main]; exact nofun)))
      have stopped : Event.stopping ∈ s.lease.log := inv.stopping (.inr (begun_of fits orderly))
      cases next
      exact ⟨inv.last, inv.awaited, fun _ => still, inv.begun, inv.stopping, inv.authorized, inv.fresh,
        fun _ => stopped⟩
    · rename_i main
      simp only [main] at orderly
      cases next
      split
      · exact inv
      · rename_i going
        exact inv.finished rfl rfl rfl rfl nofun (abandon_pending (orderly.resolve_left going)) rfl (.inl rfl)
    · rename_i main
      simp only [main] at orderly
    · cases next
  | abort =>
    split at next
    · rename_i failing
      cases next
      rw [Bool.and_eq_true, decide_eq_true_eq] at failing
      exact inv.finished rfl rfl rfl rfl nofun (abandon_pending orderly) rfl (.inr ⟨failing.1, rfl⟩)
    · cases next
  | gathered =>
    split at next
    · rename_i done
      cases next
      simp only [Bool.and_eq_true, decide_eq_true_eq] at done
      have fits := inv.fits
      unfold Fits at fits
      rw [done.1.1.1.1] at fits
      exact inv.forceStop done.1.2 fits false
    · cases next
  | cleaned =>
    have fits := inv.fits
    unfold Fits at fits
    split at next
    · rename_i cancelled main
      split at next
      · rename_i done
        simp only [Bool.and_eq_true, decide_eq_true_eq] at done
        cases next
        rw [main] at fits
        cases cancelled with
        | true => cases fits
        | false => exact inv.forceStop done.1.2 fits true
      · cases next
    · cases next
  | stopped =>
    split at next
    · rename_i raising ok main finished
      have still := inv.still (.inr (.inr (by rw [main]; exact nofun)))
      have stopped : Event.stopping ∈ s.lease.log := inv.stopping (.inr (by rw [finished]; rfl))
      cases next
      exact ⟨inv.last, inv.awaited, fun _ => still, inv.begun, inv.stopping, fun _ => .inr stopped, inv.fresh,
        fun _ => stopped⟩
    · cases next

end

/-! ## Runs -/

variable {t : State} {ls : List Label}

theorem inv_start (execute : Bool) (leaseId : Option String) : Inv (start execute leaseId) := by
  unfold start
  simp only
  split
  · refine ⟨List.Pairwise.nil, nofun, fun _ => .inl rfl, ?_, ?_, nofun, nofun, rfl, rfl, rfl, nofun⟩
    · rintro ⟨e, here, _⟩
      cases here
    · rintro (begun | begun) <;> cases begun
  · exact inv_create List.Pairwise.nil rfl rfl rfl nofun nofun

theorem stop_is_last_of_orderly {execute} {leaseId}
    (along : Along step Orderly (start execute leaseId) ls) (ran : run step (start execute leaseId) ls = some t)
    {result} (ended : t.main = .ended result) :
    StopIsLast t.lease.log t.lease.send.inFlight := by
  have inv : Inv t := run_induction (fun _ _ _ orderly inv next => inv_step inv orderly next) along
    (inv_start execute leaseId) ran
  refine stop_is_last inv.last (fun _ => ?_) ?_
  · refine Bool.eq_false_iff.mpr fun flying => ?_
    have pending : t.lease.send.pending = true := by
      cases here : t.lease.send <;> rw [here] at flying <;> first | rfl | cases flying
    obtain ⟨terminal, sending⟩ := inv.awaited pending
    have main := (inv.open_ sending).2.2.1
    rw [ended] at main
    cases main
  · have fits := inv.fits
    unfold Fits at fits
    rw [ended] at fits
    exact fits

def sensing : List Label := [.preflight true, .captured true, .controlWakes]

def limitWhileSensing : List Label := sensing ++
  [.limit, .limitStopBegins, .limitStopEnds true, .limitStopped, .sensed (some ⟨true, false⟩), .sendBegins,
    .answers (.lease "a"), .sent, .controlWakes, .planned .waypoints, .gathered]

/-- The run has returned, its last stop has succeeded, and the base was started after it. -/
theorem motion_after_limit :
    ∃ t, run step (start true none) limitWhileSensing = some t ∧ t.main = .ended (some .maxRuntime) ∧
      t.lease.log = [.motionOver, .motion, .stopped true, .stopping, .authorized] ∧
      ¬ StopIsLast t.lease.log t.lease.send.inFlight := by
  refine ⟨_, rfl, rfl, rfl, fun last => ?_⟩
  have moved := (last.settled (by decide)).2 .motion (by decide)
  cases moved

end EmbodiRun.Go2.Navigation
