/-
# Go2.Reactive -- a reactive navigation run, and its threads

`_cycle` observes, plans, and pulses, under a `wait_for` with the runtime limit; `run` forces a stop when
it is over, whatever ended it.

* `stop_is_last_command`: **the stop is the last command of an orderly run of either session**.
-/
import EmbodiRun.Go2.Navigation

namespace EmbodiRun.Go2.Reactive

open Transition Motion List
open Navigation (Reason)

/-- The fields of `ReactiveNavigationSessionConfig` that the cycle branches on. -/
structure Config where
  execute : Bool
  maxWaypoints : Nat
  terminalAfterWaypoints : Bool

inductive Stage where
  | preflight
  /-- In `_capture`, or in the policy. -/
  | planning
  /-- In `start_velocity_lease`; `pulses` says of the later waypoints whether they move, and `last` that
  the run is over after them. -/
  | starting (pulses : List Bool) (last : Bool)
  /-- In `asyncio.sleep`, after a waypoint. -/
  | sleeping (pulses : List Bool) (last : Bool)
  /-- In `_force_stop`; `none` after an error. -/
  | stopping (reason : Option Reason)
  /-- `none` where `run` has raised. -/
  | ended (result : Option Reason)
  deriving DecidableEq

structure State where
  stage : Stage
  authorized : Bool := false
  /-- The call of `start_velocity_lease`. -/
  start : Thread := .idle
  stop : Thread := .idle
  log : List Event := []

open State

/-- What a policy gives: its waypoints, each with whether its command moves, or an error. -/
structure Plan where
  waypoints : List Bool
  terminal : Bool

inductive Label where
  | preflight (ok : Bool)
  | planned (plan : Option Plan)
  /-- `_cycle` is told how its start ended. -/
  | started
  | slept
  | startBegins
  | startEnds (ok : Bool)
  | stopBegins
  | stopEnds (ok : Bool)
  /-- The runtime limit. -/
  | timeout
  | cancel
  | stopped

namespace State

variable (s : State)

/-- The cycle is over, and `_force_stop` is next; its call is taken back where no thread has it. -/
def forceStop (reason : Option Reason) : State :=
  let s := { s with start := s.start.abandon }
  if s.authorized then { s with stage := .stopping reason, stop := .queued } else { s with stage := .ended reason }

def pulse (config : Config) : List Bool → Bool → State
  | [], last => if last then s.forceStop (some .terminal) else { s with stage := .planning }
  | moving :: pulses, last =>
    if !config.execute then pulse config pulses last
    else if moving then { s with stage := .starting pulses last, start := .queued }
    else { s with stage := .sleeping pulses last }

/-- In `_cycle`. -/
def cycling : Bool :=
  match s.stage with
  | .planning | .starting _ _ | .sleeping _ _ => true
  | _ => false

end State

/-- `none` where the label is not enabled. -/
def step (config : Config) (s : State) : Label → Option State
  | .preflight ok =>
    if s.stage ≠ .preflight then none
    else some ( if ok then { s with stage := .planning, authorized := true, log := .authorized :: s.log }
      else s.forceStop none)
  | .planned plan =>
    if s.stage ≠ .planning then none
    else some (match plan with
      | none => s.forceStop none
      | some plan =>
        if plan.waypoints = [] then s.forceStop (if plan.terminal then some .terminal else none)
        else s.pulse config (plan.waypoints.take config.maxWaypoints)
          (plan.terminal && config.terminalAfterWaypoints && plan.waypoints.length ≤ config.maxWaypoints))
  | .started => match s.stage, s.start with
      | .starting pulses last, .finished ok => some (
          if ok then { s with stage := .sleeping pulses last } else s.forceStop none)
      | _, _ => none
  | .slept => match s.stage with
      | .sleeping pulses last => some (s.pulse config pulses last)
      | _ => none
  | .startBegins =>
    if s.start = .queued then some { s with start := .running, log := .motion :: s.log } else none
  | .startEnds ok =>
    if s.start = .running then some { s with start := .finished ok, log := .motionOver :: s.log } else none
  | .stopBegins =>
    if s.stop = .queued then some { s with stop := .running, log := .stopping :: s.log } else none
  | .stopEnds ok =>
    if s.stop = .running then some { s with stop := .finished ok, log := .stopped ok :: s.log } else none
  | .timeout => if s.cycling then some (s.forceStop (some .maxRuntime)) else none
  | .cancel => match s.stage with
      | .preflight | .planning | .starting _ _ | .sleeping _ _ => some (s.forceStop none)
      | .stopping _ => some { s with stage := .ended none }
      | .ended _ => none
  | .stopped => match s.stage, s.stop with
      | .stopping reason, .finished ok => some { s with
          authorized := s.authorized && !ok
          stage := .ended (if ok then reason else none) }
      | _, _ => none

def init (config : Config) : State := { stage := if config.execute then .preflight else .planning }

/-- No limit or cancellation comes inside `start_velocity_lease`, and no cancellation before the stop. -/
def Orderly (s : State) : Label → Prop
  | .timeout => s.start ≠ .running
  | .cancel => match s.stage with
      | .stopping _ => s.stop ≠ .queued
      | _ => s.start ≠ .running
  | _ => True

/-! ## A pulse, then a stop -/

structure Inv (s : State) : Prop where
  last : StopsLast s.log
  /-- A pulse that is not over is awaited. -/
  awaited : s.start = .queued ∨ s.start = .running → ∃ pulses last, s.stage = .starting pulses last
  /-- A stop is called for when the cycle is over. -/
  called : s.stop ≠ .idle → s.stage ≠ .preflight ∧ s.cycling = false
  begun : (∃ e ∈ s.log, e.isStop = true) → s.stop.begun = true
  stopping : s.stop.begun = true → .stopping ∈ s.log
  authorized : .authorized ∈ s.log → s.authorized = true ∨ .stopping ∈ s.log
  forced : ∀ reason, s.stage = .stopping reason → s.stop ≠ .idle
  ended : ∀ result, s.stage = .ended result → .authorized ∈ s.log → .stopping ∈ s.log

section

variable {config : Config} {s t : State} {l : Label}

theorem Inv.idle (inv : Inv s) (going : s.stage = .preflight ∨ s.cycling = true) :
    s.stop = .idle ∧ ∀ e ∈ s.log, e.isStop = false := by
  have idle : s.stop = .idle := by_contra fun other => by
    obtain ⟨started, finished⟩ := inv.called other
    rcases going with here | here
    · exact started here
    · rw [finished] at here
      cases here
  refine ⟨idle, fun e here => Bool.eq_false_iff.mpr fun stop => ?_⟩
  have begun := inv.begun ⟨e, here, stop⟩
  rw [idle] at begun
  cases begun

theorem Inv.forceStop (inv : Inv s) (going : s.stage = .preflight ∨ s.cycling = true) (free : s.start ≠ .running)
    (reason : Option Reason) : Inv (s.forceStop reason) := by
  obtain ⟨idle, none_⟩ := inv.idle going
  have abandoned : ¬ (s.start.abandon = .queued ∨ s.start.abandon = .running) := by
    cases here : s.start <;> simp [Thread.abandon, here] at free ⊢
  unfold State.forceStop
  simp only
  split
  · refine ⟨inv.last, fun open_ => absurd open_ abandoned, fun _ => ⟨nofun, rfl⟩, fun ⟨e, here, stop⟩ => ?_, nofun,
      inv.authorized, fun _ _ => nofun, nofun⟩
    rw [none_ e here] at stop
    cases stop
  · rename_i unauthorized
    exact ⟨inv.last, fun open_ => absurd open_ abandoned, fun _ => ⟨nofun, rfl⟩, inv.begun, inv.stopping,
      inv.authorized, nofun, fun _ _ before => (inv.authorized before).resolve_left unauthorized⟩

variable {start : Thread} {e : Event}

theorem Inv.goes (inv : Inv s) (going : s.cycling = true) {stage}
    (cycling : ({ s with stage } : State).cycling = true)
    (awaited : start = .queued ∨ start = .running → ∃ pulses last, stage = .starting pulses last) :
    Inv { s with stage, start } := by
  obtain ⟨idle, none_⟩ := inv.idle (.inr going)
  refine ⟨inv.last, awaited, fun called => absurd idle called, inv.begun, inv.stopping, inv.authorized,
    fun reason here => ?_, fun result here => ?_⟩
  · have here : stage = .stopping reason := here
    rw [here] at cycling
    cases cycling
  · have here : stage = .ended result := here
    rw [here] at cycling
    cases cycling

theorem Inv.pulse (inv : Inv s) (going : s.cycling = true) (free : ¬ (s.start = .queued ∨ s.start = .running))
    (pulses : List Bool) (last : Bool) : Inv (s.pulse config pulses last) := by
  induction pulses with
  | nil =>
    unfold State.pulse
    split
    · exact inv.forceStop (.inr going) (fun running => free (.inr running)) _
    · exact inv.goes going rfl fun open_ => absurd open_ free
  | cons moving pulses ih =>
    unfold State.pulse
    split
    · exact ih
    split
    · exact inv.goes going rfl fun _ => ⟨pulses, last, rfl⟩
    · exact inv.goes going rfl fun open_ => absurd open_ free

theorem Inv.free (inv : Inv s) (other : ∀ pulses last, s.stage ≠ .starting pulses last) :
    ¬ (s.start = .queued ∨ s.start = .running) := fun open_ => by
  obtain ⟨pulses, last, here⟩ := inv.awaited open_
  exact other pulses last here

theorem Inv.pulsed (inv : Inv s) (stop : e.isStop = false) (new : e ≠ .authorized)
    (none_ : ∀ e ∈ s.log, e.isStop = false)
    (awaited : start = .queued ∨ start = .running → ∃ pulses last, s.stage = .starting pulses last) :
    Inv { s with start, log := e :: s.log } := by
  have before (here : .authorized ∈ e :: s.log) : .authorized ∈ s.log :=
    (List.mem_cons.mp here).resolve_left new.symm
  refine ⟨inv.last.other none_, awaited, inv.called, fun ⟨o, inside, other⟩ => ?_, fun begun => ?_,
    fun here => (inv.authorized (before here)).imp_right (mem_cons_of_mem e), inv.forced,
    fun result ended here => mem_cons_of_mem e (inv.ended result ended (before here))⟩
  · rcases List.mem_cons.mp inside with rfl | inside
    · rw [stop] at other
      cases other
    · rw [none_ o inside] at other
      cases other
  · exact mem_cons_of_mem e (inv.stopping begun)

theorem Inv.stops {stop} (inv : Inv s) (stops : e.isStop = true) (called : s.stop ≠ .idle)
    (begun : stop.begun = true) (stopped : .stopping ∈ e :: s.log) :
    Inv { s with stop, log := e :: s.log } := by
  refine ⟨inv.last.stop stops, inv.awaited, fun _ => inv.called called, fun _ => begun, fun _ => stopped,
    fun _ => .inr stopped, fun _ _ idle => ?_, fun _ _ _ => stopped⟩
  have idle : stop = .idle := idle
  rw [idle] at begun
  cases begun

theorem inv_step (inv : Inv s) (orderly : Orderly s l) (next : step config s l = some t) : Inv t := by
  cases l with simp only [step] at next
  | preflight ok =>
    split at next
    · cases next
    rename_i here
    have here := not_not.mp here
    obtain ⟨idle, none_⟩ := inv.idle (.inl here)
    have free := inv.free fun pulses last => by rw [here]; exact nofun
    cases next
    split
    · refine ⟨inv.last.other none_, fun open_ => absurd open_ free, fun called => absurd idle called,
        fun ⟨e, inside, stop⟩ => ?_, fun begun => ?_, fun _ => .inl rfl, nofun, nofun⟩
      · rcases List.mem_cons.mp inside with rfl | inside
        · cases stop
        · rw [none_ e inside] at stop
          cases stop
      · have begun : s.stop.begun = true := begun
        rw [idle] at begun
        cases begun
    · exact inv.forceStop (.inl here) (fun running => free (.inr running)) _
  | planned plan =>
    split at next
    · cases next
    rename_i here
    have here := not_not.mp here
    have going : s.cycling = true := by simp only [cycling, here]
    have free := inv.free fun pulses last => by rw [here]; exact nofun
    have stops := inv.forceStop (.inr going) fun running => free (.inr running)
    cases next
    cases plan with
    | none => exact stops none
    | some =>
      simp only
      split
      · exact stops _
      · exact inv.pulse going free ..
  | started =>
    split at next
    · rename_i pulses last ok here finished
      have going : s.cycling = true := by simp only [cycling, here]
      have free : ¬ (s.start = .queued ∨ s.start = .running) := by
        rw [finished]
        exact nofun
      cases next
      split
      · exact inv.goes going rfl fun open_ => absurd open_ free
      · exact inv.forceStop (.inr going) (fun running => free (.inr running)) _
    · cases next
  | slept =>
    split at next
    · rename_i pulses last here
      have going : s.cycling = true := by simp only [cycling, here]
      cases next
      exact inv.pulse going (inv.free fun _ _ => by rw [here]; exact nofun) pulses last
    · cases next
  | startBegins =>
    split at next
    · rename_i queued
      obtain ⟨pulses, last, here⟩ := inv.awaited (.inl queued)
      obtain ⟨_, none_⟩ := inv.idle (.inr (by simp only [cycling, here]))
      cases next
      exact inv.pulsed rfl nofun none_ fun _ => ⟨pulses, last, here⟩
    · cases next
  | startEnds ok =>
    split at next
    · rename_i running
      obtain ⟨pulses, last, here⟩ := inv.awaited (.inr running)
      obtain ⟨_, none_⟩ := inv.idle (.inr (by simp only [cycling, here]))
      cases next
      exact inv.pulsed rfl nofun none_ fun _ => ⟨pulses, last, here⟩
    · cases next
  | stopBegins =>
    split at next
    · rename_i queued
      cases next
      exact inv.stops rfl (by rw [queued]; exact nofun) rfl mem_cons_self
    · cases next
  | stopEnds ok =>
    split at next
    · rename_i running
      have stopped : Event.stopping ∈ s.log := inv.stopping (by rw [running]; rfl)
      cases next
      exact inv.stops rfl (by rw [running]; exact nofun) rfl (mem_cons_of_mem _ stopped)
    · cases next
  | timeout =>
    split at next
    · rename_i going
      cases next
      exact inv.forceStop (.inr going) orderly _
    · cases next
  | cancel =>
    simp only [Orderly] at orderly
    cases here : s.stage with
    | ended => simp only [here] at next; cases next
    | stopping reason =>
      simp only [here] at next orderly
      have stopped := inv.stopping (Navigation.begun_of (inv.forced reason here) orderly)
      cases next
      exact ⟨inv.last, fun open_ => absurd open_ (inv.free fun _ _ => by rw [here]; exact nofun),
        fun _ => ⟨nofun, rfl⟩, inv.begun, inv.stopping, inv.authorized, nofun, fun _ _ _ => stopped⟩
    | preflight =>
      simp only [here] at next orderly
      cases next
      exact inv.forceStop (.inl here) orderly _
    | planning | starting | sleeping =>
      simp only [here] at next orderly
      cases next
      exact inv.forceStop (.inr (by simp only [cycling, here])) orderly _
  | stopped =>
    split at next
    · rename_i reason ok here finished
      have stopped : Event.stopping ∈ s.log := inv.stopping (by rw [finished]; rfl)
      cases next
      exact ⟨inv.last, fun open_ => absurd open_ (inv.free fun _ _ => by rw [here]; exact nofun),
        fun _ => ⟨nofun, rfl⟩, inv.begun, inv.stopping, fun _ => .inr stopped, nofun, fun _ _ _ => stopped⟩
    · cases next

end

/-! ## Runs -/

variable {config : Config} {t : State} {ls : List Label}

theorem inv_init (config : Config) : Inv (init config) := by
  refine ⟨List.Pairwise.nil, ?_, fun called => absurd rfl called, ?_, nofun, nofun, fun reason here => ?_, nofun⟩
  · rintro (here | here) <;> cases here
  · rintro ⟨e, here, _⟩
    cases here
  · unfold init at here
    simp only at here
    split at here <;> cases here

theorem reactive_stop_is_last (along : Along (step config) Orderly (init config) ls)
    (ran : run (step config) (init config) ls = some t) {result} (ended : t.stage = .ended result) :
    StopIsLast t.log (t.start = .running) := by
  have inv : Inv t := run_induction (fun _ _ _ orderly inv next => inv_step inv orderly next) along
    (inv_init config) ran
  have free := inv.free fun _ _ => by rw [ended]; exact nofun
  exact stop_is_last inv.last (fun _ => decide_eq_false fun running => free (.inr running)) (inv.ended result ended)

/-- The stop is the last command of an orderly run of either session. -/
theorem stop_is_last_command (execute : Bool) (leaseId : Option String) (config : Config) :
    (∀ ls t result, Along Navigation.step Navigation.Orderly (Navigation.start execute leaseId) ls →
      run Navigation.step (Navigation.start execute leaseId) ls = some t → t.main = .ended result →
      StopIsLast t.lease.log t.lease.send.inFlight) ∧
    (∀ ls t result, Along (step config) Orderly (init config) ls →
      run (step config) (init config) ls = some t → t.stage = .ended result →
      StopIsLast t.log (t.start = .running)) :=
  ⟨fun _ _ _ along ran ended => Navigation.stop_is_last_of_orderly along ran ended,
    fun _ _ _ along ran ended => reactive_stop_is_last along ran ended⟩

def oneCommand : List Navigation.Label := Navigation.sensing ++
  [.planned .terminal, .sensed (some ⟨true, true⟩), .sendBegins, .answers (.lease "a"), .sent, .inferenceWakes,
    .limit, .gathered, .mainStopBegins, .mainStopEnds true, .stopped]

def onePulse : List Label :=
  [.preflight true, .planned (some ⟨[true], false⟩), .startBegins, .startEnds true, .started, .timeout, .stopBegins,
    .stopEnds true, .stopped]

def pulsing : Config := { execute := true, maxWaypoints := 1, terminalAfterWaypoints := false }

theorem stop_is_last_command_run : (∃ t, run Navigation.step (Navigation.start true none) oneCommand = some t ∧
      t.main = .ended (some .terminal) ∧ .stopped true ∈ t.lease.log ∧
      StopIsLast t.lease.log t.lease.send.inFlight) ∧
    ∃ t, run (step pulsing) (init pulsing) onePulse = some t ∧ t.stage = .ended (some .maxRuntime) ∧
      .stopped true ∈ t.log ∧ StopIsLast t.log (t.start = .running) := by
  obtain ⟨t, ran, ended, stopped, along⟩ : ∃ t, run Navigation.step (Navigation.start true none) oneCommand = some t ∧
      t.main = .ended (some .terminal) ∧ .stopped true ∈ t.lease.log ∧
      Along Navigation.step Navigation.Orderly (Navigation.start true none) oneCommand := by
    refine ⟨_, rfl, rfl, by decide, ?_⟩
    refine along_cons trivial rfl <| along_cons trivial rfl <| along_cons trivial rfl <| along_cons trivial rfl <|
      along_cons trivial rfl <| along_cons trivial rfl <| along_cons trivial rfl <| along_cons trivial rfl <|
      along_cons trivial rfl <| along_cons (.inl rfl) rfl ?_
    exact along_cons trivial rfl <| along_cons trivial rfl <| along_cons trivial rfl <| along_cons trivial rfl trivial
  obtain ⟨u, ran', ended', stopped', along'⟩ : ∃ t, run (step pulsing) (init pulsing) onePulse = some t ∧
      t.stage = .ended (some .maxRuntime) ∧ .stopped true ∈ t.log ∧
      Along (step pulsing) Orderly (init pulsing) onePulse := by
    refine ⟨_, rfl, rfl, by decide, ?_⟩
    refine along_cons trivial rfl <| along_cons trivial rfl <| along_cons trivial rfl <| along_cons trivial rfl <|
      along_cons trivial rfl <| along_cons nofun rfl ?_
    exact along_cons trivial rfl <| along_cons trivial rfl <| along_cons trivial rfl trivial
  exact ⟨⟨t, ran, ended, stopped, (stop_is_last_command true none pulsing).1 _ _ _ along ran ended⟩, u, ran', ended', stopped',
    (stop_is_last_command true none pulsing).2 _ _ _ along' ran' ended'⟩

end EmbodiRun.Go2.Reactive
