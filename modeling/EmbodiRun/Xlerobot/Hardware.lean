/-
# Xlerobot.Hardware -- stop faults of the motors

A stop that is not confirmed leaves the robot uncertain: no scope stays active, and no scope is armed
until a stop of the whole robot is confirmed.  A fault that was inherited needs `stop_all`.

* `stop_faults_latched`: **a stop fault is latched until a stop of the whole robot is confirmed**.
-/
import EmbodiRun.Transition.Machine

namespace EmbodiRun.Xlerobot.Hardware

open Transition List

instance sixJoints : NeZero 6 := inferInstance

inductive Scope where
  | arms
  | base
  deriving DecidableEq

/-- The argument of `arm` and `stop`. -/
inductive Selection where
  | all
  | arms
  | base
  deriving DecidableEq

inductive Side where
  | left
  | right
  deriving DecidableEq

/-- `gripper` is the last joint of an arm. -/
inductive Motor where
  | joint (side : Side) (index : Fin 6)
  | leftWheel
  | rightWheel
  | headTilt
  deriving DecidableEq

namespace Motor

def isWheel : Motor → Bool
  | .leftWheel | .rightWheel => true
  | _ => false

/-- `_motor_scope`. -/
def scope : Motor → Scope
  | .joint _ _ => .arms
  | _ => .base

/-- `_motor_side`. -/
def side : Motor → Side
  | .joint side _ => side
  | .headTilt => .left
  | _ => .right

end Motor

structure Config where
  enabledArms : List Side
  enableBase : Bool
  enableHeadTilt : Bool
  ports : Side → Bool
  allowMotion : Bool
  motionConfigError : Bool
  /-- `_resume_stop_fault` is given. -/
  resumeStopFault : Bool

def armNames (side : Side) : List Motor := (finRange 6).map (.joint side)

/-- `_motor_names_for_control`. -/
def Config.names (config : Config) (selection : Selection) : List Motor :=
  (if selection = .base then [] else config.enabledArms.flatMap armNames) ++
    (if selection ≠ .arms && config.enableBase then
      [.leftWheel, .rightWheel] ++ (if config.enableHeadTilt then [.headTilt] else [])
    else [])

def Config.scopes (config : Config) (selection : Selection) (scope : Scope) : Bool :=
  (config.names selection).any fun name => name.scope = scope

inductive Reply where
  | value (n : Int)
  /-- `int` raises a `TypeError` or a `ValueError`. -/
  | notNumber
  /-- `int` raises an `OverflowError`. -/
  | tooLarge
  | raised
  deriving DecidableEq

/-- What the bus answers during an operation, at each of its uses, and what else is not the robot's. -/
structure Env where
  reply : Nat → Reply
  /-- Whether a position is held that stands for one that is not read. -/
  held : Nat → Bool
  /-- The samples that a confirmation takes in its time. -/
  rounds : Nat → Nat

/-- The stops of an operation: one is unconfirmed, and no confirmed stop of the whole robot came after
it; a stop of the whole robot was confirmed. -/
structure Tally where
  unresolved : Bool := false
  whole : Bool := false
  deriving DecidableEq

inductive Ending where
  | returned
  | refused
  /-- With an error, after a write that may have had an effect. -/
  | failed
  | stopped (tally : Tally)
  | raised
  deriving DecidableEq

structure Robot where
  connected : Bool := false
  closed : Bool := false
  armed : Bool := false
  active : Scope → Bool := fun _ => false
  stopUncertain : Bool
  inheritedStopFault : Bool
  torqueOwnershipUncertain : Bool := false
  ownedTorqueNames : Motor → Bool := fun _ => false
  buses : Side → Bool := fun _ => false
  /-- `_resume_stop_fault` is still in the configuration. -/
  resume : Bool
  /-- The uses of the bus so far. -/
  cursor : Nat := 0
  last : Ending := .returned

open Robot

def Config.robot (config : Config) : Robot where
  stopUncertain := config.resumeStopFault
  inheritedStopFault := config.resumeStopFault
  resume := config.resumeStopFault

/-! ## Motors in turn -/

structure Io where
  cursor : Nat
  errors : Bool := false
  feedbackAvailable : Bool := true
  /-- The writes, and whether each was accepted. -/
  writes : List Bool := []
  /-- An exception is on its way. -/
  raised : Bool := false

section

variable (env : Env) (buses : Side → Bool)

def Io.write (io : Io) : Io :=
  let accepted := env.reply io.cursor ≠ .raised
  { io with cursor := io.cursor + 1, writes := io.writes ++ [decide accepted], errors := io.errors || !accepted }

def Io.stopMotor (write : Bool) (io : Io) (name : Motor) : Io :=
  if io.raised then io
  else if !buses name.side then { io with errors := true }
  else if !write then io
  else if name.isWheel then io.write env
  else
    let next := { io with cursor := io.cursor + 1 }
    match env.reply io.cursor with
    | .value _ => next.write env
    | .notNumber => { next with errors := true }
    | .tooLarge => { next with raised := true }
    | .raised =>
      let next := { next with feedbackAvailable := false, errors := true }
      if env.held io.cursor then next.write env else next

/-- `_best_effort_hold_locked`, for a motor. -/
def Io.holdMotor (io : Io) (name : Motor) : Io :=
  if io.raised then io
  else if !buses name.side then io
  else if name.isWheel then io.write env
  else
    let next := { io with cursor := io.cursor + 1 }
    match env.reply io.cursor with
    | .value _ => next.write env
    | .notNumber => { next with errors := true }
    | .tooLarge => { next with raised := true }
    | .raised => if env.held io.cursor then next.write env else { next with errors := true }

/-- A motor of a sample: the sample so far, and whether all its motors are stationary. -/
def Io.sampleMotor : Bool × Io → Motor → Bool × Io
  | (stationary, io), name =>
    if io.raised then (stationary, io)
    else if !buses name.side then (stationary, { io with raised := true })
    else
      let next := { io with cursor := io.cursor + 2 }
      match env.reply io.cursor, env.reply (io.cursor + 1) with
      | .raised, _ | _, .raised => (false, { next with feedbackAvailable := false })
      | .tooLarge, _ => (stationary, { next with raised := true })
      | .notNumber, _ => (false, { next with feedbackAvailable := false })
      | .value velocity, moving =>
        -- `int(moving)` is not taken where the velocity is not zero
        if velocity ≠ 0 then (false, next)
        else match moving with
          | .value moving => (stationary && moving = 0, next)
          | .tooLarge => (stationary, { next with raised := true })
          | _ => (false, { next with feedbackAvailable := false })

def confirm (names : List Motor) : Nat → List Bool → Io → List Bool × Io
  | 0, samples, io => (samples, io)
  | rounds + 1, samples, io =>
    let (stationary, io) := names.foldl (Io.sampleMotor env buses) (true, io)
    if io.raised then (samples, io)
    else
      let samples := (stationary && !names.isEmpty) :: samples
      if samples.take 2 = [true, true] then (samples, io) else confirm names rounds samples io

end

/-! ## Operations -/

inductive Reason where
  | operator
  | operatorRetry
  | noControl
  /-- Of a scoped stop, or of the watchdog, that was not confirmed. -/
  | unconfirmed
  | watchdog
  | close
  | heldRestart
  deriving DecidableEq

namespace Robot

variable (config : Config) (env : Env) (s : Robot)

/-- `bool(self._active_scopes)`. -/
def anyActive : Bool := s.active .arms || s.active .base

def release (selection : Selection) : Robot :=
  let s := { s with active := fun k => s.active k && !config.scopes selection k }
  { s with armed := s.anyActive }

def clear : Robot := { s with armed := false, active := fun _ => false }

def stopIo (write : Bool) (selection : Selection) : Io :=
  (config.names selection).foldl (Io.stopMotor env s.buses write) { cursor := s.cursor }

def stopSamples (write : Bool) (selection : Selection) : List Bool × Io :=
  let io := s.stopIo config env write selection
  confirm env s.buses (config.names selection) (env.rounds io.cursor) [] io

/-- The loops of `_stop_locked`, and whether they confirm the stop: `none` where they raise. -/
def tryStop (write : Bool) (selection : Selection) : Option Bool × Nat :=
  let names := config.names selection
  let io := s.stopIo config env write selection
  if io.raised then (none, io.cursor)
  else
    let (samples, io) := s.stopSamples config env write selection
    if io.raised then (none, io.cursor)
    else
      let stationary := samples.take 2 = [true, true]
      let writesSucceeded := if write then !io.writes.isEmpty && io.writes.all id else io.writes.isEmpty
      (some (!names.isEmpty && stationary && io.feedbackAvailable && !io.errors && writesSucceeded), io.cursor)

def settle (reason : Reason) (write : Bool) (selection : Selection) (recover confirmed : Bool) : Robot :=
  let recovered := s.inheritedStopFault && recover && selection = .all && write &&
    (reason = .operator || reason = .operatorRetry) && confirmed
  let inherited := s.inheritedStopFault && !recovered
  { s with
    inheritedStopFault := inherited
    stopUncertain := inherited || (s.stopUncertain && selection ≠ .all) || !confirmed }

/-- `_stop_locked`, and whether the stop is confirmed; `none` where it raises. -/
def stopLocked (reason : Reason) (write : Bool) (selection : Selection) (recover : Bool) : Option Bool × Robot :=
  let s := s.release config selection
  let (result, cursor) := s.tryStop config env write selection
  let s := { s with cursor }
  match result with
  | none => (none, s)
  | some confirmed => (some confirmed, s.settle reason write selection recover confirmed)

def owns (names : List Motor) : Bool := names.any s.ownedTorqueNames

def Tally.add (tally : Tally) (selection : Selection) (confirmed : Bool) : Tally :=
  if selection = .all && confirmed then { unresolved := false, whole := true }
  else { tally with unresolved := tally.unresolved || !confirmed }

/-- A stop, and that of the whole robot if it is not confirmed and a scope is still active. -/
def stopWithFallback (reason : Reason) (write : Bool) (selection : Selection) (recover : Bool) (tally : Tally) :
    Option Tally × Robot :=
  match s.stopLocked config env reason write selection recover with
  | (none, s) => (none, s)
  | (some confirmed, s) =>
    let tally := Tally.add tally selection confirmed
    if !confirmed && s.anyActive then
      match s.stopLocked config env .unconfirmed true .all false with
      | (none, s) => (none, s)
      | (some confirmed, s) => (some (Tally.add tally .all confirmed), s)
    else (some tally, s)

def ending (ending : Ending) : Robot := { s with last := ending }

/-- `stop`; `recover` for `stop_all`. -/
def stop (selection : Selection) (recover : Bool) : Robot :=
  if s.closed || !s.connected then s.ending .refused
  else
    let names := config.names selection
    let owned := s.owns names
    let active := names.any fun name => s.active name.scope
    let reason := if active then .operator else if owned then .operatorRetry else .noControl
    match s.stopWithFallback config env reason owned selection recover {} with
    | (none, s) => s.ending .raised
    | (some tally, s) => s.ending (.stopped tally)

def expire : Tally × Robot → Scope → Tally × Robot
  | (tally, s), scope =>
    let selection := match scope with
      | .arms => .arms
      | .base => .base
    match s.stopWithFallback config env .watchdog true selection false tally with
    | (none, s) => ({ tally with unresolved := true }, { s.clear with stopUncertain := true })
    | (some tally, s) => (tally, s)

def watchdog (expired : List Scope) : Robot :=
  if s.closed then s.ending .returned
  else
    let (tally, s) := (expired.filter s.active).foldl (expire config env) ({}, s)
    s.ending (.stopped tally)

def close : Robot :=
  if s.closed then s.ending .returned
  else
    let shut (s : Robot) : Robot := { s with connected := false, closed := true, armed := false, buses := fun _ => false }
    if s.armed then
      match s.stopLocked config env .close true .all false with
      | (none, s) => (shut { s with stopUncertain := true }).ending (.stopped { unresolved := true })
      | (some confirmed, s) => (shut s).ending (.stopped (Tally.add {} .all confirmed))
    else (shut s).ending .returned

/-- `_best_effort_hold_locked`; whether it raises. -/
def hold : Bool × Robot :=
  let io := (config.names .all).foldl (Io.holdMotor env s.buses) { cursor := s.cursor }
  (io.raised, { s with cursor := io.cursor })

def enable : List Motor → Robot → Bool × Robot
  | [], s => (true, s)
  | name :: names, s =>
    let next := { s with
      ownedTorqueNames := Function.update s.ownedTorqueNames name true
      cursor := s.cursor + 1 }
    if env.reply s.cursor = .raised then (false, next) else enable names next

def readBack : List Motor → Robot → Bool × Robot
  | [], s => (true, s)
  | _ :: names, s =>
    let next := { s with cursor := s.cursor + 1 }
    if env.reply s.cursor ≠ .value 1 then (false, next) else readBack names next

/-- The writes of `arm` have failed. -/
def armFailed (torqueAttempted : Bool) : Robot :=
  match s.hold config env with
  | (true, s) => s.ending .raised
  | (false, s) =>
    { s.clear with
      torqueOwnershipUncertain := torqueAttempted
      stopUncertain := torqueAttempted || s.owns (config.names .all) }.ending
      (if torqueAttempted then .failed else .returned)

def lacks (names : List Motor) : Bool := names.any fun name => !s.buses name.side

/-- `arm`. `preflight` is whether the preflight has no other errors, `written` whether the profiles and goals
were written and confirmed. -/
def arm (selection : Selection) (preflight written : Bool) : Robot :=
  let names := config.names selection
  let requested (k : Scope) : Bool := config.scopes selection k
  let within := (!requested .arms || s.active .arms) && (!requested .base || s.active .base)
  let overlaps := (requested .arms && s.active .arms) || (requested .base && s.active .base)
  if s.closed || !s.connected then s.ending .refused
  else if !names.isEmpty && within then s.ending .returned
  else if overlaps || !config.allowMotion || config.motionConfigError || s.stopUncertain ||
      s.torqueOwnershipUncertain || names.isEmpty || s.lacks names || !preflight then s.ending .refused
  else if !written then s.armFailed config env false
  else match enable env names s with
    | (false, s) => s.armFailed config env true
    | (true, s) => match readBack env names s with
        | (false, s) => s.armFailed config env true
        | (true, s) =>
          let s := { s with active := fun k => s.active k || requested k }
          { s with
            armed := s.anyActive
            stopUncertain := false
            torqueOwnershipUncertain := false }.ending .returned

/-- `command`. `fit` is whether the action passes its checks, `written` whether all its writes are accepted. -/
def command (scopes : Scope → Bool) (fit written : Bool) : Robot :=
  let within := (!scopes .arms || s.active .arms) && (!scopes .base || s.active .base)
  if s.closed || !s.armed || !within || !fit then s.ending .refused
  else if written then s.ending .returned
  else match s.hold config env with
    | (true, s) => s.ending .raised
    | (false, s) => { s.clear with stopUncertain := s.owns (config.names .all) }.ending .failed

/-- `restore_stop_fault`, with the snapshot's `torque_ownership_uncertain`; `valid` is whether the snapshot
and the readback pass otherwise. `none` where it raises. -/
def restoreStopFault (valid torqueOwnershipUncertain : Bool) : Option Robot :=
  if !s.inheritedStopFault || !s.stopUncertain || !s.connected || s.closed || s.armed ||
      s.owns (config.names .all) || s.lacks (config.names .all) || !valid || !config.enableBase then none
  else some { s with
    ownedTorqueNames := fun name => (config.names .all).contains name
    torqueOwnershipUncertain }

/-- `restore_held_state`, with the motors that are held; `valid` is whether the snapshot and the preflight
pass otherwise. -/
def restoreHeldState (valid : Bool) (motors : Motor → Bool) : Robot :=
  if s.armed || s.owns (config.names .all) || !s.connected || s.stopUncertain || s.torqueOwnershipUncertain ||
      s.lacks (config.names .all) || !valid then s.ending .returned
  else match s.stopLocked config env .heldRestart false .all false with
    | (none, s) => s.ending .raised
    | (some confirmed, s) =>
      if !confirmed then s.ending (.stopped { unresolved := true })
      else { s with
        ownedTorqueNames := fun name => s.ownedTorqueNames name || (motors name && (config.names .all).contains name)
        torqueOwnershipUncertain := false }.ending (.stopped { whole := true })

def disconnect : Robot := { s with buses := fun _ => false, connected := false }.ending .raised

/-- `connect`: whether the buses come up, what `restore_stop_fault` is given, `none` where it is not called,
what `restore_held_state` is given, if it is called, and whether the cameras start. -/
def connect (up : Bool) (fault : Option (Bool × Bool)) (held : Option (Bool × (Motor → Bool))) (cameras : Bool) :
    Robot :=
  if s.closed then s.ending .raised
  else if s.connected then s.ending .returned
  else if !up then s.disconnect
  else
    let s := { s with buses := config.ports, connected := true }
    let restored : Option Robot :=
      if !s.inheritedStopFault then some s
      -- the snapshot is taken out of the configuration by the first attempt
      else if !s.resume then none
      else fault.bind fun (valid, torque) => { s with resume := false }.restoreStopFault config valid torque
    match restored with
    | none => { s with resume := s.resume && fault.isNone }.disconnect
    | some s =>
      let s := match held with
        | none => s.ending .returned
        | some (valid, motors) => s.restoreHeldState config env valid motors
      if s.last = .raised || !cameras then s.disconnect else s

end Robot

inductive Label where
  | connect (up : Bool) (fault : Option (Bool × Bool)) (held : Option (Bool × (Motor → Bool))) (cameras : Bool)
  | arm (selection : Selection) (preflight written : Bool)
  | command (scopes : Scope → Bool) (fit written : Bool)
  | stop (selection : Selection)
  | stopAll
  | watchdog (expired : List Scope)
  | restoreStopFault (valid torqueOwnershipUncertain : Bool)
  | restoreHeldState (valid : Bool) (motors : Motor → Bool)
  | close

/-- An operation, under `_io_lock`. -/
def step (config : Config) (s : Robot) : Env × Label → Option Robot
  | (env, .connect up fault held cameras) => some (s.connect config env up fault held cameras)
  | (env, .arm selection preflight written) => some (s.arm config env selection preflight written)
  | (env, .command scopes fit written) => some (s.command config env scopes fit written)
  | (env, .stop selection) => some (s.stop config env selection false)
  | (env, .stopAll) => some (s.stop config env .all true)
  | (env, .watchdog expired) => some (s.watchdog config env expired)
  | (_, .restoreStopFault valid torque) => some <| match s.restoreStopFault config valid torque with
      | none => s.ending .raised
      | some s => s.ending .returned
  | (env, .restoreHeldState valid motors) => some (s.restoreHeldState config env valid motors)
  | (env, .close) => some (s.close config env)

/-! ## Between operations -/

structure Core (config : Config) (s : Robot) : Prop where
  armed : s.armed = s.anyActive
  inherited : s.inheritedStopFault = true → s.stopUncertain = true
  /-- The motors of an active scope are owned. -/
  owned : ∀ name ∈ config.names .all, s.active name.scope = true → s.ownedTorqueNames name = true
  /-- An active scope has motors. -/
  covered : ∀ k, s.active k = true → config.scopes .all k = true
  torque : s.torqueOwnershipUncertain = true → s.owns (config.names .all) = true

structure Inv (config : Config) (s : Robot) : Prop where
  core : Core config s
  idle : s.stopUncertain = true → s.anyActive = false

section

variable {config : Config} {env : Env} {s t : Robot} {selection : Selection} {reason : Reason}
  {write recover : Bool} {tally : Tally}

theorem anyActive_false : s.anyActive = false ↔ ∀ k, s.active k = false := by
  simp only [anyActive, Bool.or_eq_false_iff]
  constructor
  · rintro ⟨arms, base⟩ (_ | _)
    · exact arms
    · exact base
  · exact fun all => ⟨all .arms, all .base⟩

theorem Core.same (core : Core config s) (armed : t.armed = s.armed) (active : t.active = s.active)
    (inherited : t.inheritedStopFault = s.inheritedStopFault) (uncertain : t.stopUncertain = s.stopUncertain)
    (owned : t.ownedTorqueNames = s.ownedTorqueNames)
    (torque : t.torqueOwnershipUncertain = s.torqueOwnershipUncertain) : Core config t where
  armed := by
    rw [armed, core.armed, anyActive, anyActive, active]
  inherited := by rw [inherited, uncertain]; exact core.inherited
  owned := by rw [active, owned]; exact core.owned
  covered := by rw [active]; exact core.covered
  torque := by rw [torque, owns, owned]; exact core.torque

theorem Inv.same (inv : Inv config s) (armed : t.armed = s.armed) (active : t.active = s.active)
    (inherited : t.inheritedStopFault = s.inheritedStopFault) (uncertain : t.stopUncertain = s.stopUncertain)
    (owned : t.ownedTorqueNames = s.ownedTorqueNames)
    (torque : t.torqueOwnershipUncertain = s.torqueOwnershipUncertain) : Inv config t where
  core := inv.core.same armed active inherited uncertain owned torque
  idle := by rw [uncertain, anyActive, active]; exact inv.idle

theorem Inv.ending (inv : Inv config s) (ending : Ending) : Inv config (s.ending ending) :=
  inv.same rfl rfl rfl rfl rfl rfl

theorem Inv.release (inv : Inv config s) (selection : Selection) : Inv config (s.release config selection) where
  core := {
    armed := rfl
    inherited := inv.core.inherited
    owned := fun name here active => inv.core.owned name here (Bool.and_eq_true_iff.mp active).1
    covered := fun k active => inv.core.covered k (Bool.and_eq_true_iff.mp active).1
    torque := inv.core.torque }
  idle := fun uncertain => anyActive_false.mpr fun k => by
    show (s.active k && _) = false
    rw [anyActive_false.mp (inv.idle uncertain) k, Bool.false_and]

theorem Core.release_all (core : Core config s) : Core config (s.release config .all) ∧
    (s.release config .all).anyActive = false := by
  have none_ : (s.release config .all).anyActive = false := anyActive_false.mpr fun k => by
    show (s.active k && !config.scopes .all k) = false
    cases active : s.active k with
    | false => rfl
    | true => rw [core.covered k active]; rfl
  exact ⟨⟨rfl, core.inherited, fun name here active => core.owned name here (Bool.and_eq_true_iff.mp active).1,
    fun k active => core.covered k (Bool.and_eq_true_iff.mp active).1, core.torque⟩, none_⟩

theorem Core.settle (core : Core config s) (confirmed : Bool) :
    Core config (s.settle reason write selection recover confirmed) where
  armed := core.armed
  inherited inherits := by
    simp only [Robot.settle] at inherits ⊢
    rw [inherits]
    rfl
  owned := core.owned
  covered := core.covered
  torque := core.torque
variable {confirmed : Bool} {name : Motor} {k : Scope} {ok : Bool} {call : Env × Label}
  {calls : List (Env × Label)} {io : Io}

theorem settle_uncertain (certain : (s.settle reason write selection recover confirmed).stopUncertain = false) :
    confirmed = true ∧ (s.stopUncertain = true → selection = .all) ∧
      (s.settle reason write selection recover confirmed).inheritedStopFault = false := by
  simp only [settle, Bool.or_eq_false_iff, Bool.not_eq_false'] at certain ⊢
  refine ⟨certain.2, fun uncertain => ?_, certain.1.1⟩
  have scope := certain.1.2
  rw [uncertain, Bool.true_and, decide_eq_false_iff_not, not_not] at scope
  exact scope

theorem settle_inherited (inherited : s.inheritedStopFault = true) (plain : recover = false) :
    (s.settle reason write selection recover confirmed).inheritedStopFault = true := by
  simp only [settle, inherited, plain, Bool.and_false, Bool.false_and, Bool.not_false, Bool.and_self]

theorem stopLocked_raised (stopped : s.stopLocked config env reason write selection recover = (none, t)) :
    ∃ cursor, t = { s.release config selection with cursor } := by
  unfold stopLocked at stopped
  simp only at stopped
  split at stopped
  · obtain ⟨-, rfl⟩ := Prod.mk.inj stopped
    exact ⟨_, rfl⟩
  · obtain ⟨other, -⟩ := Prod.mk.inj stopped
    cases other

theorem stopLocked_ok (stopped : s.stopLocked config env reason write selection recover = (some confirmed, t)) :
    ∃ cursor, t = settle { s.release config selection with cursor } reason write selection recover confirmed := by
  unfold stopLocked at stopped
  simp only at stopped
  split at stopped
  · obtain ⟨other, -⟩ := Prod.mk.inj stopped
    cases other
  · obtain ⟨same, rfl⟩ := Prod.mk.inj stopped
    cases same
    exact ⟨_, rfl⟩

structure Stops (config : Config) (recover : Bool) (s t : Robot) (tally : Tally) : Prop where
  core : Core config t
  unresolved : tally.unresolved = true → t.stopUncertain = true
  latched : s.stopUncertain = true → t.stopUncertain = true ∨ tally.whole = true
  inherited : s.inheritedStopFault = true → recover = false → t.inheritedStopFault = true
  torque : t.torqueOwnershipUncertain = s.torqueOwnershipUncertain

theorem Core.released (core : Core config s) (cursor : Nat) (selection : Selection) :
    Core config { s.release config selection with cursor } :=
  ⟨rfl, core.inherited, fun name here active => core.owned name here (Bool.and_eq_true_iff.mp active).1,
    fun k active => core.covered k (Bool.and_eq_true_iff.mp active).1, core.torque⟩

theorem settle_confirmed (core : Core config s)
    (uncertain : (s.settle reason write selection recover true).stopUncertain = true) : s.stopUncertain = true := by
  simp only [settle, Bool.or_eq_true, Bool.and_eq_true, Bool.not_true, Bool.false_eq_true, or_false] at uncertain
  rcases uncertain with inherits | still
  · exact core.inherited inherits.1
  · exact still.1

theorem settle_unconfirmed : (s.settle reason write selection recover false).stopUncertain = true := by
  simp only [settle, Bool.not_false, Bool.or_true]

variable {u : Robot} {all : Bool} {names : List Motor}

theorem Stops.settle {confirmed own : Bool} (stops : Stops config recover s t tally)
    (only : recover = false → own = false)
    (stopped : t.stopLocked config env reason write selection own = (some confirmed, u)) :
    Stops config recover s u (Robot.Tally.add tally selection confirmed) := by
  obtain ⟨cursor, rfl⟩ := stopLocked_ok stopped
  have released := stops.core.released cursor selection
  refine ⟨released.settle confirmed, fun unresolved => ?_, fun uncertain => ?_, fun inherits plain => ?_, stops.torque⟩
  · by_contra certain
    obtain ⟨ok, whole, -⟩ := settle_uncertain (Bool.eq_false_iff.mpr certain)
    unfold Robot.Tally.add at unresolved
    split at unresolved
    · cases unresolved
    · rename_i part
      rw [ok, Bool.not_true, Bool.or_false] at unresolved
      rw [whole (stops.unresolved unresolved), ok] at part
      exact part rfl
  · by_contra neither
    rw [not_or] at neither
    obtain ⟨ok, whole, -⟩ := settle_uncertain (Bool.eq_false_iff.mpr neither.1)
    have kept := neither.2
    unfold Robot.Tally.add at kept
    split at kept
    · exact kept rfl
    · rename_i part
      rcases stops.latched uncertain with still | before
      · rw [whole still, ok] at part
        exact part rfl
      · exact kept before
  · exact settle_inherited (stops.inherited inherits plain) (only plain)

theorem Stops.fallback {result : Option Tally} (stops : Stops config recover s t tally)
    (idle : t.stopUncertain = true → t.anyActive = false)
    (stopped : t.stopWithFallback config env reason write selection recover tally = (result, u)) :
    Core config u ∧ (u.stopUncertain = true → u.anyActive = false) ∧ (match result with
        | none => (s.inheritedStopFault = true → recover = false → u.inheritedStopFault = true) ∧
            (s.stopUncertain = true → u.stopUncertain = true ∨ tally.whole = true)
        | some tally => Stops config recover s u tally) ∧
      u.torqueOwnershipUncertain = s.torqueOwnershipUncertain := by
  unfold stopWithFallback at stopped
  cases first : t.stopLocked config env reason write selection recover with
  | mk ok v =>
  rw [first] at stopped
  cases ok with
  | none =>
    obtain ⟨rfl, rfl⟩ := Prod.mk.inj stopped
    obtain ⟨cursor, rfl⟩ := stopLocked_raised first
    have inv := (Inv.mk stops.core idle).release selection
    exact ⟨inv.core.same rfl rfl rfl rfl rfl rfl, inv.idle, ⟨stops.inherited, stops.latched⟩, stops.torque⟩
  | some confirmed =>
    have once := stops.settle id first
    simp only at stopped
    split at stopped
    · rename_i unconfirmed
      cases second : v.stopLocked config env .unconfirmed true .all false with
      | mk ok w =>
      rw [second] at stopped
      cases ok with obtain ⟨rfl, rfl⟩ := Prod.mk.inj stopped
      | none =>
        obtain ⟨cursor, rfl⟩ := stopLocked_raised second
        obtain ⟨core, none_⟩ := once.core.release_all
        refine ⟨core.same rfl rfl rfl rfl rfl rfl, fun _ => none_, ⟨once.inherited, fun _ => .inl ?_⟩, once.torque⟩
        rw [Bool.and_eq_true, Bool.not_eq_true'] at unconfirmed
        rw [unconfirmed.1] at first
        obtain ⟨_, rfl⟩ := stopLocked_ok first
        exact settle_unconfirmed
      | some confirmed =>
        have twice : Stops config recover s w (Robot.Tally.add (Robot.Tally.add tally selection _) .all confirmed) :=
          once.settle (fun _ => rfl) second
        obtain ⟨cursor, rfl⟩ := stopLocked_ok second
        exact ⟨twice.core, fun _ => once.core.release_all.2, twice, twice.torque⟩
    · rename_i rest
      obtain ⟨rfl, rfl⟩ := Prod.mk.inj stopped
      refine ⟨once.core, fun uncertain => ?_, once, once.torque⟩
      cases active : v.anyActive with
      | false => rfl
      | true =>
        have ok : confirmed = true := by
          cases confirmed with
          | true => rfl
          | false => rw [active] at rest; exact absurd rfl rest
        subst ok
        obtain ⟨cursor, rfl⟩ := stopLocked_ok first
        have before := settle_confirmed (stops.core.released cursor selection) uncertain
        have none_ := (Inv.mk stops.core idle).release selection |>.idle before
        exact active.symm.trans none_

theorem stops_refl (inv : Inv config s) : Stops config recover s s {} :=
  ⟨inv.core, nofun, .inl, fun inherits _ => inherits, rfl⟩

structure Safe (config : Config) (all : Bool) (s t : Robot) : Prop where
  inv : Inv config t
  failed : t.last = .failed → t.stopUncertain = true
  unresolved : ∀ tally, t.last = .stopped tally → tally.unresolved = true → t.stopUncertain = true
  latched : s.stopUncertain = true →
    t.stopUncertain = true ∨ ∃ tally, t.last = .stopped tally ∧ tally.whole = true
  inherited : s.inheritedStopFault = true → all = false → t.inheritedStopFault = true
  torque : s.torqueOwnershipUncertain = true → t.torqueOwnershipUncertain = true

theorem safe_same (inv : Inv config s) (armed : t.armed = s.armed) (active : t.active = s.active)
    (inherited : t.inheritedStopFault = s.inheritedStopFault)
    (uncertain : t.stopUncertain = s.stopUncertain) (owned : t.ownedTorqueNames = s.ownedTorqueNames)
    (torque : t.torqueOwnershipUncertain = s.torqueOwnershipUncertain)
    (last : t.last = .returned ∨ t.last = .refused ∨ t.last = .raised) : Safe config all s t := by
  refine ⟨inv.same armed active inherited uncertain owned torque, fun failed => ?_, fun tally stopped => ?_,
    fun before => .inl (uncertain.trans before), fun before _ => inherited.trans before,
    fun before => torque.trans before⟩
  · rcases last with last | last | last <;> rw [last] at failed <;> cases failed
  · rcases last with last | last | last <;> rw [last] at stopped <;> cases stopped

theorem Stops.safe (stops : Stops config recover s t tally) (idle : t.stopUncertain = true → t.anyActive = false) :
    Safe config recover s (t.ending (.stopped tally)) where
  inv := (Inv.mk stops.core idle).ending _
  failed := nofun
  unresolved other same unresolved := by
    cases same
    exact stops.unresolved unresolved
  latched before := (stops.latched before).imp_right fun whole => ⟨tally, rfl, whole⟩
  inherited := stops.inherited
  torque before := stops.torque.trans before

theorem safe_stop (inv : Inv config s) : Safe config recover s (s.stop config env selection recover) := by
  unfold stop
  split
  · exact safe_same inv rfl rfl rfl rfl rfl rfl (.inr (.inl rfl))
  simp only
  split
  · rename_i t stopped
    obtain ⟨core, idle, ⟨inherited, latched⟩, torque⟩ := (stops_refl inv).fallback inv.idle stopped
    exact ⟨(Inv.mk core idle).ending _, nofun, nofun, fun before => .inl ((latched before).resolve_right nofun),
      inherited, fun before => torque.trans before⟩
  · rename_i tally t stopped
    obtain ⟨-, idle, stops, -⟩ := (stops_refl inv).fallback inv.idle stopped
    exact stops.safe idle

theorem stops_expire (env : Env) (scope : Scope) (stops : Stops config false s t tally)
    (idle : t.stopUncertain = true → t.anyActive = false) :
    Stops config false s (expire config env (tally, t) scope).2 (expire config env (tally, t) scope).1 ∧
      ((expire config env (tally, t) scope).2.stopUncertain = true →
        (expire config env (tally, t) scope).2.anyActive = false) := by
  unfold expire
  simp only
  split
  · rename_i u stopped
    obtain ⟨core, -, ⟨inherited, -⟩, torque⟩ := stops.fallback idle stopped
    refine ⟨⟨⟨rfl, fun _ => rfl, fun _ _ => nofun, fun _ => nofun, core.torque⟩, fun _ => rfl, fun _ => .inl rfl,
      inherited, torque⟩, fun _ => rfl⟩
  · rename_i next u stopped
    obtain ⟨-, calm, more, -⟩ := stops.fallback idle stopped
    exact ⟨more, calm⟩

theorem safe_watchdog (inv : Inv config s) (expired : List Scope) :
    Safe config false s (s.watchdog config env expired) := by
  unfold watchdog
  split
  · exact safe_same inv rfl rfl rfl rfl rfl rfl (.inl rfl)
  simp only
  have all (ls : List Scope) (tally : Tally) (t : Robot) (stops : Stops config false s t tally)
      (idle : t.stopUncertain = true → t.anyActive = false) :
      Stops config false s (ls.foldl (expire config env) (tally, t)).2
          (ls.foldl (expire config env) (tally, t)).1 ∧
        ((ls.foldl (expire config env) (tally, t)).2.stopUncertain = true →
          (ls.foldl (expire config env) (tally, t)).2.anyActive = false) := by
    induction ls generalizing tally t with
    | nil => exact ⟨stops, idle⟩
    | cons scope ls ih =>
      obtain ⟨more, calm⟩ := stops_expire env scope stops idle
      exact ih _ _ more calm
  obtain ⟨stops, idle⟩ := all (expired.filter s.active) {} s (stops_refl inv) inv.idle
  exact stops.safe idle

theorem safe_close (inv : Inv config s) : Safe config false s (s.close config env) := by
  unfold close
  split
  · exact safe_same inv rfl rfl rfl rfl rfl rfl (.inl rfl)
  simp only
  split
  · cases first : s.stopLocked config env .close true .all false with
    | mk ok t =>
    obtain ⟨core, none_⟩ := inv.core.release_all
    cases ok with
    | none =>
      obtain ⟨cursor, rfl⟩ := stopLocked_raised first
      exact ⟨⟨⟨none_.symm, fun _ => rfl, core.owned, core.covered, core.torque⟩, fun _ => none_⟩, nofun,
        fun _ _ _ => rfl, fun _ => .inl rfl, fun before _ => before, fun before => before⟩
    | some confirmed =>
      have stops := (show Stops config false s s {} from stops_refl inv).settle id first
      have none' : t.anyActive = false := by
        obtain ⟨cursor, rfl⟩ := stopLocked_ok first
        exact none_
      have shut : Stops config false s
          { t with connected := false, closed := true, armed := false, buses := fun _ => false }
          (Robot.Tally.add {} .all confirmed) :=
        ⟨⟨none'.symm, stops.core.inherited, stops.core.owned, stops.core.covered, stops.core.torque⟩,
          stops.unresolved, stops.latched, stops.inherited, stops.torque⟩
      exact shut.safe fun _ => none'
  · rename_i unarmed
    have none_ : s.anyActive = false := by
      rw [← inv.core.armed]
      exact Bool.eq_false_iff.mpr unarmed
    exact ⟨⟨⟨none_.symm, inv.core.inherited, inv.core.owned, inv.core.covered, inv.core.torque⟩, fun _ => none_⟩,
      nofun, nofun, .inl, fun before _ => before, fun before => before⟩

structure Keeps (config : Config) (s t : Robot) : Prop where
  inv : Inv config t
  uncertain : s.stopUncertain = true → t.stopUncertain = true
  inherited : s.inheritedStopFault = true → t.inheritedStopFault = true
  torque : s.torqueOwnershipUncertain = true → t.torqueOwnershipUncertain = true

theorem Keeps.trans (first : Keeps config s t) (second : Keeps config t u) : Keeps config s u :=
  ⟨second.inv, fun before => second.uncertain (first.uncertain before),
    fun before => second.inherited (first.inherited before), fun before => second.torque (first.torque before)⟩

theorem Keeps.same (keeps : Keeps config s t) (armed : u.armed = t.armed)
    (active : u.active = t.active) (inherited : u.inheritedStopFault = t.inheritedStopFault)
    (uncertain : u.stopUncertain = t.stopUncertain) (owned : u.ownedTorqueNames = t.ownedTorqueNames)
    (torque : u.torqueOwnershipUncertain = t.torqueOwnershipUncertain) : Keeps config s u :=
  ⟨keeps.inv.same armed active inherited uncertain owned torque,
    fun before => uncertain.trans (keeps.uncertain before), fun before => inherited.trans (keeps.inherited before),
    fun before => torque.trans (keeps.torque before)⟩

theorem keeps_refl (inv : Inv config s) : Keeps config s s :=
  ⟨inv, id, id, id⟩

theorem keeps_certain (before : Inv config s) (certain : s.stopUncertain = false)
    (sure : s.torqueOwnershipUncertain = false) (inv : Inv config t) : Keeps config s t := by
  refine ⟨inv, fun uncertain => ?_, fun inherited => ?_, fun torque => ?_⟩
  · rw [certain] at uncertain
    cases uncertain
  · rw [before.core.inherited inherited] at certain
    cases certain
  · rw [sure] at torque
    cases torque

theorem Inv.fresh (inv : Inv config s) (certain : s.stopUncertain = false) : s.inheritedStopFault = false := by
  by_contra inherited
  rw [inv.core.inherited (Bool.not_eq_false _ ▸ inherited)] at certain
  cases certain

theorem Keeps.safe (keeps : Keeps config s t) (failed : t.last = .failed → t.stopUncertain = true)
    (unresolved : ∀ tally, t.last = .stopped tally → tally.unresolved = true → t.stopUncertain = true) :
    Safe config all s t :=
  ⟨keeps.inv, failed, unresolved, fun before => .inl (keeps.uncertain before),
    fun before _ => keeps.inherited before, keeps.torque⟩

/-! ## Motors of a selection -/

def Selection.has : Selection → Scope → Bool
  | .all, _ => true
  | .arms, k => k = .arms
  | .base, k => k = .base

theorem mem_names :
    name ∈ config.names selection ↔ name ∈ config.names .all ∧ selection.has name.scope = true := by
  have arms (here : name ∈ config.enabledArms.flatMap armNames) : name.scope = .arms := by
    obtain ⟨side, -, here⟩ := List.mem_flatMap.mp here
    obtain ⟨index, -, rfl⟩ := List.mem_map.mp here
    rfl
  have base (here : name ∈ ([.leftWheel, .rightWheel] ++ (if config.enableHeadTilt then [.headTilt] else []) :
      List Motor)) : name.scope = .base := by
    rcases List.mem_append.mp here with wheel | tilt
    · rcases List.mem_cons.mp wheel with rfl | wheel
      · rfl
      · rw [List.mem_singleton.mp wheel]
        rfl
    · split at tilt
      · rw [List.mem_singleton.mp tilt]
        rfl
      · cases tilt
  cases selection with
  | all => exact ⟨fun here => ⟨here, rfl⟩, fun here => here.1⟩
  | arms =>
    have only : config.names .arms = config.enabledArms.flatMap armNames := append_nil _
    constructor
    · intro here
      rw [only] at here
      exact ⟨mem_append_left _ here, decide_eq_true (arms here)⟩
    · rintro ⟨here, scope⟩
      rcases List.mem_append.mp here with mem | mem
      · exact only ▸ mem
      · split at mem
        · rw [base mem] at scope
          cases scope
        · cases mem
  | base =>
    constructor
    · intro here
      have mem : name ∈ _ := (List.mem_append.mp here).resolve_left nofun
      refine ⟨mem_append_right _ mem, ?_⟩
      split at mem
      · exact decide_eq_true (base mem)
      · cases mem
    · rintro ⟨here, scope⟩
      rcases List.mem_append.mp here with mem | mem
      · rw [show name.scope = .arms from arms mem] at scope
        cases scope
      · exact mem_append_right _ mem

theorem scopes_iff : config.scopes selection k = true ↔ ∃ name ∈ config.names selection, name.scope = k := by
  simp only [Config.scopes, any_eq_true, decide_eq_true_eq]

theorem scopes_all (has : config.scopes selection k = true) : config.scopes .all k = true := by
  obtain ⟨name, here, scope⟩ := scopes_iff.mp has
  exact scopes_iff.mpr ⟨name, (mem_names.mp here).1, scope⟩

theorem mem_of_scopes (here : name ∈ config.names .all)
    (has : config.scopes selection name.scope = true) : name ∈ config.names selection := by
  obtain ⟨other, mem, same⟩ := scopes_iff.mp has
  exact mem_names.mpr ⟨here, same ▸ (mem_names.mp mem).2⟩

theorem owns_iff : s.owns names = true ↔ ∃ name ∈ names, s.ownedTorqueNames name = true := by
  simp only [owns, any_eq_true]

theorem Core.owns (core : Core config s) (active : s.anyActive = true) : s.owns (config.names .all) = true := by
  have some_ : ∃ k, s.active k = true := by
    rcases Bool.or_eq_true_iff.mp active with arms | base
    · exact ⟨_, arms⟩
    · exact ⟨_, base⟩
  obtain ⟨k, here⟩ := some_
  obtain ⟨name, mem, rfl⟩ := scopes_iff.mp (core.covered k here)
  exact owns_iff.mpr ⟨name, mem, core.owned name mem here⟩

theorem no_torque (core : Core config s) (unowned : s.owns (config.names .all) = false) :
    s.torqueOwnershipUncertain = false := by
  by_contra torque
  rw [core.torque (Bool.not_eq_false _ ▸ torque)] at unowned
  cases unowned

/-! ## Arm, command and the restarts -/

theorem hold_spec (held : Bool) (s t : Robot) (done : s.hold config env = (held, t)) : ∃ cursor, t = { s with cursor } :=
  ⟨_, (Prod.mk.inj done).2.symm⟩

theorem enable_spec (done : enable env names s = (ok, t)) :
    ∃ owned cursor, t = { s with ownedTorqueNames := owned, cursor } ∧
      (∀ name, s.ownedTorqueNames name = true → owned name = true) ∧
      (ok = true → ∀ name ∈ names, owned name = true) ∧
      (names ≠ [] → ∃ name ∈ names, owned name = true) := by
  induction names generalizing s with
  | nil =>
    obtain ⟨rfl, rfl⟩ := Prod.mk.inj done
    exact ⟨_, _, rfl, fun _ => id, fun _ _ => nofun, fun none_ => absurd rfl none_⟩
  | cons name names ih =>
    have here : Function.update s.ownedTorqueNames name true name = true := Function.update_self ..
    have more (other : Motor) (owned : s.ownedTorqueNames other = true) :
        Function.update s.ownedTorqueNames name true other = true := by
      by_cases same : other = name
      · rw [same]
        exact here
      · rwa [Function.update_of_ne same]
    unfold enable at done
    simp only at done
    split at done
    · obtain ⟨rfl, rfl⟩ := Prod.mk.inj done
      exact ⟨_, _, rfl, more, nofun, fun _ => ⟨name, mem_cons_self, here⟩⟩
    · obtain ⟨owned, cursor, rfl, grows, all, -⟩ := ih done
      refine ⟨owned, cursor, rfl, fun other before => grows other (more other before), fun ok other mem => ?_,
        fun _ => ⟨name, mem_cons_self, grows name here⟩⟩
      rcases List.mem_cons.mp mem with rfl | mem
      · exact grows other here
      · exact all ok other mem

theorem readBack_spec (done : readBack env names s = (ok, t)) : ∃ cursor, t = { s with cursor } := by
  induction names generalizing s with
  | nil =>
    obtain ⟨-, rfl⟩ := Prod.mk.inj done
    exact ⟨_, rfl⟩
  | cons name names ih =>
    unfold readBack at done
    simp only at done
    split at done
    · obtain ⟨-, rfl⟩ := Prod.mk.inj done
      exact ⟨_, rfl⟩
    · obtain ⟨cursor, rfl⟩ := ih done
      exact ⟨cursor, rfl⟩

theorem keeps_armFailed {owned} {cursor} {attempted} (inv : Inv config s)
    (certain : s.stopUncertain = false) (sure : s.torqueOwnershipUncertain = false)
    (grows : ∀ name, s.ownedTorqueNames name = true → owned name = true)
    (some_ : attempted = true → ∃ name ∈ config.names .all, owned name = true)
    (done : armFailed config env { s with ownedTorqueNames := owned, cursor } attempted = t) :
    Keeps config s t ∧ (t.last = .failed → t.stopUncertain = true) ∧ ∀ tally, t.last ≠ .stopped tally := by
  unfold armFailed at done
  split at done <;> rename_i u held <;> obtain ⟨cursor, rfl⟩ := hold_spec _ _ _ held <;> subst done
  · have core := inv.core
    refine ⟨keeps_certain inv certain sure ⟨⟨core.armed, core.inherited,
      fun name mem active => grows name (core.owned name mem active), core.covered, fun torque => ?_⟩, inv.idle⟩,
      nofun, nofun⟩
    rw [sure] at torque
    cases torque
  · refine ⟨keeps_certain inv certain sure ⟨⟨rfl, fun inherited => ?_, fun _ _ => nofun, fun _ => nofun,
      fun torque => owns_iff.mpr (some_ torque)⟩, fun _ => rfl⟩, fun failed => ?_, fun tally stopped => ?_⟩
    · rw [inv.fresh certain] at inherited
      cases inherited
    · cases attempted with
      | true => rfl
      | false => cases failed
    · simp only [ending] at stopped
      split at stopped <;> cases stopped

theorem safe_arm (inv : Inv config s) (preflight written : Bool) :
    Safe config all s (s.arm config env selection preflight written) := by
  unfold arm
  simp only
  split
  · exact safe_same inv rfl rfl rfl rfl rfl rfl (.inr (.inl rfl))
  split
  · exact safe_same inv rfl rfl rfl rfl rfl rfl (.inl rfl)
  split
  · exact safe_same inv rfl rfl rfl rfl rfl rfl (.inr (.inl rfl))
  rename_i fit
  simp only [Bool.or_eq_true, not_or, Bool.not_eq_true, isEmpty_eq_false_iff] at fit
  obtain ⟨⟨⟨⟨⟨-, certain⟩, sure⟩, some_⟩, -⟩, -⟩ := fit
  have fail {u : Robot} {attempted : Bool} {owned : Motor → Bool} {cursor : Nat}
      (grows : ∀ name, s.ownedTorqueNames name = true → owned name = true)
      (taken : attempted = true → ∃ name ∈ config.names selection, owned name = true)
      (same : u = { s with ownedTorqueNames := owned, cursor }) :
      Safe config all s (u.armFailed config env attempted) := by
    subst same
    obtain ⟨keeps, failed, none_⟩ := keeps_armFailed inv certain sure grows
      (fun attempted => (taken attempted).imp fun _ => .imp_left fun mem => (mem_names.mp mem).1) rfl
    exact keeps.safe failed fun tally stopped => absurd stopped (none_ tally)
  split
  · exact fail (fun _ => id) nofun (Eq.refl s)
  split <;> rename_i t enabled <;> obtain ⟨owned, cursor, rfl, grows, every, taken⟩ := enable_spec enabled
  · exact fail grows (fun _ => taken some_) rfl
  split <;> rename_i u read <;> obtain ⟨cursor', rfl⟩ := readBack_spec read
  · exact fail grows (fun _ => taken some_) rfl
  · refine Keeps.safe (keeps_certain inv certain sure ⟨⟨rfl, fun inherited => ?_, fun name mem active => ?_,
      fun k active => ?_, nofun⟩, nofun⟩) nofun nofun
    · rw [inv.fresh certain] at inherited
      cases inherited
    · rcases Bool.or_eq_true_iff.mp active with already | now
      · exact grows name (inv.core.owned name mem already)
      · exact every rfl name (mem_of_scopes mem now)
    · rcases Bool.or_eq_true_iff.mp active with already | now
      · exact inv.core.covered k already
      · exact scopes_all now

/-- **No scope is armed** while the robot is uncertain. -/
theorem arm_refused (inv : Inv config s) (uncertain : s.stopUncertain = true) (preflight written : Bool) :
    s.arm config env selection preflight written = s.ending .refused := by
  have none_ (k : Scope) : s.active k = false := anyActive_false.mp (inv.idle uncertain) k
  unfold arm
  simp only
  split
  · rfl
  split
  · rename_i within
    simp only [none_, Bool.or_false, Bool.and_eq_true, Bool.not_eq_true', isEmpty_eq_false_iff] at within
    obtain ⟨some_, arms, base⟩ := within
    obtain ⟨name, mem⟩ := exists_mem_of_ne_nil _ some_
    have has : config.scopes selection name.scope = true := scopes_iff.mpr ⟨name, mem, rfl⟩
    cases scope : name.scope with
    | arms =>
      rw [scope, arms] at has
      cases has
    | base =>
      rw [scope, base] at has
      cases has
  · rw [uncertain]
    simp only [Bool.or_true, Bool.true_or, if_true]

theorem safe_command (inv : Inv config s) (scopes : Scope → Bool) (fit written : Bool) :
    Safe config all s (s.command config env scopes fit written) := by
  unfold command
  simp only
  split
  · exact safe_same inv rfl rfl rfl rfl rfl rfl (.inr (.inl rfl))
  rename_i passed
  simp only [Bool.or_eq_true, not_or, Bool.not_eq_true', Bool.not_eq_true, Bool.not_eq_false] at passed
  have active : s.anyActive = true := inv.core.armed.symm.trans passed.1.1.2
  split
  · exact safe_same inv rfl rfl rfl rfl rfl rfl (.inl rfl)
  split <;> rename_i t held <;> obtain ⟨cursor, rfl⟩ := hold_spec _ _ _ held
  · exact safe_same inv rfl rfl rfl rfl rfl rfl (.inr (.inr rfl))
  · have owns : s.owns (config.names .all) = true := inv.core.owns active
    exact Keeps.safe ⟨⟨⟨rfl, fun _ => owns, fun _ _ => nofun, fun _ => nofun, inv.core.torque⟩, fun _ => rfl⟩,
      fun _ => owns, id, id⟩ (fun _ => owns) nofun

theorem keeps_restoreStopFault {valid torque} (inv : Inv config s)
    (restored : s.restoreStopFault config valid torque = some t) : Keeps config s t := by
  unfold restoreStopFault at restored
  split at restored
  · cases restored
  rename_i fit
  cases restored
  simp only [Bool.or_eq_true, not_or, Bool.not_eq_true, Bool.not_eq_false'] at fit
  obtain ⟨⟨⟨⟨⟨-, unarmed⟩, unowned⟩, -⟩, -⟩, base⟩ := fit
  have none_ : s.anyActive = false := inv.core.armed.symm.trans unarmed
  have sure := no_torque inv.core unowned
  refine ⟨⟨⟨inv.core.armed, inv.core.inherited, fun name _ active => ?_, inv.core.covered, fun _ => ?_⟩,
    fun _ => none_⟩, id, id, fun before => ?_⟩
  · rw [show s.active name.scope = false from anyActive_false.mp none_ _] at active
    cases active
  · have wheel : Motor.leftWheel ∈ config.names .all := by
      simp [Config.names, base]
    exact owns_iff.mpr ⟨_, wheel, List.contains_iff_mem.mpr wheel⟩
  · rw [sure] at before
    cases before

theorem keeps_restoreHeldState (env : Env) {valid} {motors} (inv : Inv config s)
    (restored : s.restoreHeldState config env valid motors = t) :
    Keeps config s t ∧ t.last ≠ .failed ∧
      ∀ tally, t.last = .stopped tally → tally.unresolved = true → t.stopUncertain = true := by
  unfold restoreHeldState at restored
  split at restored
  · subst restored
    exact ⟨(keeps_refl inv).same rfl rfl rfl rfl rfl rfl, nofun, nofun⟩
  rename_i fit
  simp only [Bool.or_eq_true, not_or, Bool.not_eq_true, Bool.not_eq_true'] at fit
  obtain ⟨⟨⟨⟨⟨⟨unarmed, unowned⟩, -⟩, certain⟩, sure⟩, -⟩, -⟩ := fit
  have keeps {u : Robot} : Inv config u → Keeps config s u := keeps_certain inv certain sure
  cases stopped : s.stopLocked config env .heldRestart false .all false with
  | mk result u =>
  rw [stopped] at restored
  cases result with
  | none =>
    subst restored
    obtain ⟨cursor, rfl⟩ := stopLocked_raised stopped
    exact ⟨keeps ((inv.release .all).same rfl rfl rfl rfl rfl rfl), nofun, nofun⟩
  | some confirmed =>
    have stops := (show Stops config false s s {} from stops_refl inv).settle id stopped
    obtain ⟨cursor, rfl⟩ := stopLocked_ok stopped
    have calm := inv.core.release_all.2
    cases confirmed with
    | false =>
      subst restored
      exact ⟨keeps ((Inv.mk stops.core fun _ => calm).ending _), nofun, fun _ _ _ => settle_unconfirmed⟩
    | true =>
      subst restored
      refine ⟨keeps ⟨⟨stops.core.armed, stops.core.inherited, fun name mem active => ?_, stops.core.covered,
        nofun⟩, fun _ => calm⟩, nofun, fun tally same unresolved => ?_⟩
      · have idle : (s.release config .all).active name.scope = false := anyActive_false.mp calm _
        exact absurd (idle.symm.trans active) nofun
      · cases same
        cases unresolved

theorem Keeps.disconnect (keeps : Keeps config s t) : Safe config all s t.disconnect :=
  (keeps.same (u := t.disconnect) rfl rfl rfl rfl rfl rfl).safe nofun nofun

theorem safe_connect (inv : Inv config s) (up : Bool) (fault : Option (Bool × Bool))
    (held : Option (Bool × (Motor → Bool))) (cameras : Bool) :
    Safe config all s (s.connect config env up fault held cameras) := by
  unfold connect
  split
  · exact safe_same inv rfl rfl rfl rfl rfl rfl (.inr (.inr rfl))
  split
  · exact safe_same inv rfl rfl rfl rfl rfl rfl (.inl rfl)
  split
  · exact (keeps_refl inv).disconnect
  simp only
  have plugged : Keeps config s { s with buses := config.ports, connected := true } :=
    (keeps_refl inv).same rfl rfl rfl rfl rfl rfl
  split
  · have taken : Keeps config s
        { s with buses := config.ports, connected := true, resume := s.resume && fault.isNone } :=
      plugged.same rfl rfl rfl rfl rfl rfl
    exact taken.disconnect
  rename_i t restored
  have keeps : Keeps config s t := by
    split at restored
    · cases restored
      exact plugged
    split at restored
    · cases restored
    obtain ⟨⟨valid, torque⟩, -, restored⟩ := Option.bind_eq_some_iff.mp restored
    have taken : Keeps config s { s with buses := config.ports, connected := true, resume := false } :=
      plugged.same rfl rfl rfl rfl rfl rfl
    exact taken.trans (keeps_restoreStopFault taken.inv restored)
  cases held with
  | none =>
    simp only
    split
    · exact (keeps.same rfl rfl rfl rfl rfl rfl : Keeps config s (t.ending .returned)).disconnect
    · exact (keeps.same rfl rfl rfl rfl rfl rfl : Keeps config s (t.ending .returned)).safe nofun nofun
  | some held =>
    obtain ⟨valid, motors⟩ := held
    obtain ⟨more, failed, unresolved⟩ := keeps_restoreHeldState env keeps.inv rfl
    simp only
    split
    · exact (keeps.trans more).disconnect
    · exact (keeps.trans more).safe (fun last => absurd last failed) unresolved

/-! ## Steps -/

def Label.stopsAll : Label → Bool
  | .stopAll => true
  | _ => false

theorem safe_step (inv : Inv config s) (stepped : step config s call = some t) :
    Safe config call.2.stopsAll s t := by
  obtain ⟨env, label⟩ := call
  cases label with cases stepped
  | connect up fault held cameras => exact safe_connect inv up fault held cameras
  | arm selection preflight written => exact safe_arm inv preflight written
  | command scopes fit written => exact safe_command inv scopes fit written
  | stop | stopAll => exact safe_stop inv
  | watchdog expired => exact safe_watchdog inv expired
  | restoreStopFault valid torque =>
    split
    · exact safe_same inv rfl rfl rfl rfl rfl rfl (.inr (.inr rfl))
    · rename_i u restored
      have keeps : Keeps config s (u.ending .returned) :=
        (keeps_restoreStopFault inv restored).same rfl rfl rfl rfl rfl rfl
      exact keeps.safe nofun nofun
  | restoreHeldState =>
    obtain ⟨keeps, failed, unresolved⟩ := keeps_restoreHeldState env inv rfl
    exact keeps.safe (fun last => absurd last failed) unresolved
  | close => exact safe_close inv

theorem inv_init (config : Config) : Inv config config.robot where
  core := ⟨rfl, id, fun _ _ => nofun, fun _ => nofun, nofun⟩
  idle := fun _ => rfl

/-- **Between operations** the invariant holds. -/
theorem inv_run (ran : run (step config) config.robot calls = some s) : Inv config s :=
  run_invariant (fun _ _ _ inv stepped => (safe_step inv stepped).inv) (inv_init config) ran

/-! ## Exceptions -/

/-- No value that `int` overflows on is read. -/
def Env.Calm (env : Env) : Prop := ∀ i, env.reply i ≠ .tooLarge

theorem holdMotor_calm (calm : env.Calm) (going : io.raised = false) (name : Motor) :
    (io.holdMotor env s.buses name).raised = false := by
  unfold Io.holdMotor
  rw [if_neg (Bool.eq_false_iff.mp going)]
  split
  · exact going
  split
  · exact going
  split
  · exact going
  · exact going
  · rename_i large
    exact absurd large (calm _)
  · split <;> exact going

theorem stopMotor_calm (calm : env.Calm) (going : io.raised = false) (name : Motor) :
    (io.stopMotor env s.buses write name).raised = false := by
  unfold Io.stopMotor
  rw [if_neg (Bool.eq_false_iff.mp going)]
  split
  · exact going
  split
  · exact going
  split
  · exact going
  split
  · exact going
  · exact going
  · rename_i large
    exact absurd large (calm _)
  · split <;> exact going

theorem sampleMotor_calm (calm : env.Calm) {sample : Bool × Io} (going : sample.2.raised = false)
    (bus : s.buses name.side = true) : (Io.sampleMotor env s.buses sample name).2.raised = false := by
  obtain ⟨stationary, io⟩ := sample
  unfold Io.sampleMotor
  simp only at going ⊢
  rw [if_neg (Bool.eq_false_iff.mp going), if_neg (by rw [bus]; nofun)]
  split
  · exact going
  · exact going
  · rename_i large _
    exact absurd large (calm _)
  · exact going
  · split
    · exact going
    split
    · exact going
    · rename_i large
      exact absurd large (calm _)
    · exact going

theorem foldl_keeps {α : Type} {f : α → Motor → α} {p : α → Prop}
    (keep : ∀ a, ∀ name ∈ names, p a → p (f a name)) {a : α} (holds : p a) : p (names.foldl f a) := by
  induction names generalizing a with
  | nil => exact holds
  | cons name names ih =>
    exact ih (fun a other mem => keep a other (mem_cons_of_mem _ mem)) (keep a name mem_cons_self holds)

theorem hold_calm (config : Config) (s : Robot) (calm : env.Calm) : (s.hold config env).1 = false :=
  foldl_keeps (p := fun io : Io => io.raised = false) (fun _ name _ going => holdMotor_calm calm going name) rfl

theorem confirm_calm (calm : env.Calm) (buses : ∀ name ∈ names, s.buses name.side = true)
    {rounds : Nat} {samples : List Bool} (going : io.raised = false) :
    (confirm env s.buses names rounds samples io).2.raised = false := by
  induction rounds generalizing samples io with
  | zero => exact going
  | succ rounds ih =>
    have sampled : (names.foldl (Io.sampleMotor env s.buses) (true, io)).2.raised = false :=
      foldl_keeps (p := fun sample : Bool × Io => sample.2.raised = false)
        (fun _ name mem going => sampleMotor_calm calm going (buses name mem)) going
    unfold confirm
    simp only [sampled]
    split
    · exact sampled
    · split
      · exact sampled
      · exact ih sampled

theorem lacks_iff : s.lacks names = false ↔ ∀ name ∈ names, s.buses name.side = true := by
  simp only [lacks, any_eq_false, Bool.not_eq_true', Bool.not_eq_false]

theorem stopLocked_calm (calm : env.Calm) (buses : s.lacks (config.names selection) = false) :
    ∃ confirmed, (s.stopLocked config env reason write selection recover).1 = some confirmed := by
  have written : ((s.release config selection).stopIo config env write selection).raised = false :=
    foldl_keeps (p := fun io : Io => io.raised = false) (fun _ name _ going => stopMotor_calm calm going name) rfl
  have sampled : ((s.release config selection).stopSamples config env write selection).2.raised = false :=
    confirm_calm calm (lacks_iff.mp buses) written
  unfold stopLocked tryStop
  simp only [written, sampled]
  exact ⟨_, rfl⟩

theorem fallback_raised (calm : env.Calm) (buses : s.lacks (config.names selection) = false)
    (stopped : s.stopWithFallback config env reason write selection recover tally = (none, t)) :
    t.stopUncertain = true := by
  obtain ⟨confirmed, first⟩ : ∃ confirmed, (s.stopLocked config env reason write selection recover).1 = some confirmed :=
    stopLocked_calm calm buses
  unfold stopWithFallback at stopped
  cases tried : s.stopLocked config env reason write selection recover with
  | mk result u =>
  rw [tried] at first stopped
  subst first
  simp only at stopped
  split at stopped
  · rename_i unconfirmed
    rw [Bool.and_eq_true, Bool.not_eq_true'] at unconfirmed
    cases second : u.stopLocked config env .unconfirmed true .all false with
    | mk result v =>
    rw [second] at stopped
    cases result with
    | some =>
      obtain ⟨other, -⟩ := Prod.mk.inj stopped
      cases other
    | none =>
      obtain ⟨-, rfl⟩ := Prod.mk.inj stopped
      obtain ⟨cursor, rfl⟩ := stopLocked_raised second
      rw [unconfirmed.1] at tried
      obtain ⟨cursor, rfl⟩ := stopLocked_ok tried
      exact settle_unconfirmed
  · obtain ⟨other, -⟩ := Prod.mk.inj stopped
    cases other

theorem stop_raised
    (sound : s.closed = false → s.connected = true → env.Calm ∧ s.lacks (config.names selection) = false)
    (raised : (s.stop config env selection recover).last = .raised) :
    (s.stop config env selection recover).stopUncertain = true := by
  unfold stop at raised ⊢
  split at raised
  · cases raised
  rename_i ready
  rw [if_neg ready]
  rw [Bool.or_eq_true, not_or, Bool.not_eq_true, Bool.not_eq_true', Bool.not_eq_false] at ready
  obtain ⟨calm, buses⟩ := sound ready.1 ready.2
  simp only at raised ⊢
  split at raised
  · rename_i u stopped
    have uncertain : u.stopUncertain = true := fallback_raised calm buses stopped
    exact uncertain
  · cases raised

theorem armFailed_raised (calm : env.Calm) (attempted : Bool) : (s.armFailed config env attempted).last ≠ .raised := by
  intro raised
  unfold armFailed at raised
  split at raised
  · rename_i u held
    have never := hold_calm config s calm
    rw [held] at never
    cases never
  · simp only [ending] at raised
    split at raised <;> cases raised

theorem arm_raised (calm : env.Calm) (preflight written : Bool) :
    (s.arm config env selection preflight written).last ≠ .raised := by
  intro raised
  unfold arm at raised
  simp only at raised
  split at raised
  · cases raised
  split at raised
  · cases raised
  split at raised
  · cases raised
  split at raised
  · exact armFailed_raised calm _ raised
  split at raised
  · exact armFailed_raised calm _ raised
  split at raised
  · exact armFailed_raised calm _ raised
  · cases raised

theorem command_raised (calm : env.Calm) (scopes : Scope → Bool) (fit written : Bool) :
    (s.command config env scopes fit written).last ≠ .raised := by
  intro raised
  unfold command at raised
  simp only at raised
  split at raised
  · cases raised
  split at raised
  · cases raised
  split at raised
  · rename_i u held
    have never := hold_calm config s calm
    rw [held] at never
    cases never
  · cases raised

theorem confirmed_means (confirmed : (s.tryStop config env write selection).1 = some true) :
    ((s.stopSamples config env write selection).1.take 2 = [true, true]) ∧
      ∀ accepted ∈ (s.stopSamples config env write selection).2.writes, accepted = true := by
  unfold tryStop at confirmed
  simp only at confirmed
  split at confirmed
  · cases confirmed
  split at confirmed
  · cases confirmed
  have all := Option.some.inj confirmed
  simp only [Bool.and_eq_true, decide_eq_true_eq] at all
  obtain ⟨⟨⟨⟨-, stationary⟩, -⟩, -⟩, written⟩ := all
  refine ⟨stationary, fun accepted mem => ?_⟩
  split at written
  · rw [Bool.and_eq_true, all_eq_true] at written
    exact written.2 accepted mem
  · rw [List.isEmpty_iff.mp written] at mem
    cases mem

/-! ## Faults -/

/-- A stop that is carried out, of motors that are owned, on a robot that no fault is known of. -/
def Robot.Risks (s : Robot) (names : List Motor) : Prop :=
  s.stopUncertain = false ∧ s.closed = false ∧ s.connected = true ∧ s.owns names = true

/-- The steps that the flags are safe in: no reading that `int` overflows on where motors are moved or
stopped, and no stop of motors that are owned where one of the selection has no bus. -/
def Sound (config : Config) (s : Robot) : Env × Label → Prop
  | (env, .arm _ _ _) | (env, .command _ _ _) => s.stopUncertain = false → env.Calm
  | (env, .stop selection) => s.Risks (config.names selection) → env.Calm ∧ s.lacks (config.names selection) = false
  | (env, .stopAll) => s.Risks (config.names .all) → env.Calm ∧ s.lacks (config.names .all) = false
  | _ => True

def Label.moves (config : Config) (s : Robot) : Label → Bool
  | .arm _ _ _ | .command _ _ _ | .watchdog _ | .close => true
  | .stop selection => s.owns (config.names selection)
  | .stopAll => s.owns (config.names .all)
  | _ => false

/-- A step from `s` to `t` respects the faults. -/
structure Latched (config : Config) (s : Robot) (call : Env × Label) (t : Robot) : Prop where
  armed : t.armed = t.anyActive
  idle : t.stopUncertain = true → t.anyActive = false
  failed : t.last = .failed → t.stopUncertain = true
  unresolved : ∀ tally, t.last = .stopped tally → tally.unresolved = true → t.stopUncertain = true
  raised : call.2.moves config s = true → t.last = .raised → t.stopUncertain = true
  refused : s.stopUncertain = true → ∀ selection preflight written, call.2 = .arm selection preflight written →
    t = s.ending .refused
  latched : s.stopUncertain = true →
    t.stopUncertain = true ∨ ∃ tally, t.last = .stopped tally ∧ tally.whole = true
  inherited : s.inheritedStopFault = true → call.2.stopsAll = false → t.inheritedStopFault = true
  torque : s.torqueOwnershipUncertain = true → t.torqueOwnershipUncertain = true

theorem step_raised (inv : Inv config s) (sound : Sound config s call)
    (stepped : step config s call = some t) (moves : call.2.moves config s = true)
    (raised : t.last = .raised) : t.stopUncertain = true := by
  by_cases uncertain : s.stopUncertain = true
  · refine ((safe_step inv stepped).latched uncertain).resolve_right fun ⟨tally, stopped, _⟩ => ?_
    rw [raised] at stopped
    cases stopped
  have certain := Bool.eq_false_iff.mpr uncertain
  obtain ⟨env, label⟩ := call
  cases label with cases stepped
  | connect | restoreStopFault | restoreHeldState =>
    cases moves
  | arm selection preflight written => exact absurd raised (arm_raised (sound certain) preflight written)
  | command scopes fit written => exact absurd raised (command_raised (sound certain) scopes fit written)
  | stop | stopAll =>
    exact stop_raised (fun isOpen plugged => sound ⟨certain, isOpen, plugged, moves⟩) raised
  | watchdog =>
    unfold watchdog at raised
    split at raised <;> cases raised
  | close =>
    unfold close at raised
    simp only at raised
    split at raised
    · cases raised
    split at raised
    · split at raised <;> cases raised
    · cases raised

theorem latched_step (inv : Inv config s) (sound : Sound config s call)
    (stepped : step config s call = some t) : Latched config s call t := by
  have safe := safe_step inv stepped
  refine ⟨safe.inv.core.armed, safe.inv.idle, safe.failed, safe.unresolved, step_raised inv sound stepped,
    fun uncertain selection preflight written arms => ?_, safe.latched, safe.inherited, safe.torque⟩
  obtain ⟨env, label⟩ := call
  subst arms
  cases stepped
  exact arm_refused inv uncertain preflight written

def WholeStop (config : Config) (s : Robot) (call : Env × Label) : Prop :=
  ∃ t tally, step config s call = some t ∧ t.last = .stopped tally ∧ tally.whole = true

theorem uncertain_run (inv : Inv config s)
    (none_ : Along (step config) (fun s call => ¬WholeStop config s call) s calls)
    (uncertain : s.stopUncertain = true) (ran : run (step config) s calls = some t) :
    t.stopUncertain = true := by
  refine (run_induction (I := fun s => Inv config s ∧ s.stopUncertain = true) (fun s call t plain both stepped => ?_)
    none_ ⟨inv, uncertain⟩ ran).2
  have safe := safe_step both.1 stepped
  refine ⟨safe.inv, (safe.latched both.2).resolve_right fun whole => ?_⟩
  obtain ⟨tally, last, whole⟩ := whole
  exact plain ⟨t, tally, stepped, last, whole⟩

theorem inherited_run (inv : Inv config s)
    (none_ : Along (step config) (fun _ call => call.2.stopsAll = false) s calls)
    (inherited : s.inheritedStopFault = true) (ran : run (step config) s calls = some t) :
    t.stopUncertain = true := by
  have both : Inv config t ∧ t.inheritedStopFault = true :=
    run_induction (I := fun s => Inv config s ∧ s.inheritedStopFault = true) (fun s call t plain both stepped =>
      ⟨(safe_step both.1 stepped).inv, (safe_step both.1 stepped).inherited both.2 plain⟩) none_ ⟨inv, inherited⟩ ran
  exact both.1.core.inherited both.2

end

/-- **Stop faults stay latched** in a run of sound steps, until a stop is confirmed. -/
theorem stop_faults_latched (config : Config) (calls : List (Env × Label))
    (sound : Along (step config) (Sound config) config.robot calls) :
    (∀ before call later s t, calls = before ++ call :: later → run (step config) config.robot before = some s →
      step config s call = some t → Latched config s call t) ∧
    (∀ before between later s t, calls = before ++ between ++ later →
      run (step config) config.robot before = some s → run (step config) s between = some t →
      (s.stopUncertain = true → Along (step config) (fun s call => ¬WholeStop config s call) s between →
        t.stopUncertain = true) ∧
      (s.inheritedStopFault = true → Along (step config) (fun _ call => call.2.stopsAll = false) s between →
        t.stopUncertain = true)) ∧
    (∀ (env : Env) (s : Robot) (write : Bool) (selection : Selection),
      (s.tryStop config env write selection).1 = some true →
        (s.stopSamples config env write selection).1.take 2 = [true, true] ∧
        ∀ accepted ∈ (s.stopSamples config env write selection).2.writes, accepted = true) := by
  refine ⟨fun before call later s t split reached stepped => ?_, fun before between later s t _ reached ran => ?_,
    fun env s write selection => confirmed_means⟩
  · subst split
    exact latched_step (inv_run reached) ((along_append reached).mp sound).2.1 stepped
  · exact ⟨fun uncertain none_ => uncertain_run (inv_run reached) none_ uncertain ran,
      fun inherited none_ => inherited_run (inv_run reached) none_ inherited ran⟩

def leftOnly : Config where
  enabledArms := [.left]
  enableBase := true
  enableHeadTilt := false
  ports side := side = .left
  allowMotion := true
  motionConfigError := false
  resumeStopFault := false

def ones : Env where
  reply _ := .value 1
  held _ := true
  rounds _ := 1

/-- **A missing bus loses the fault**: `stop_all` raises at the wheels, and the robot is certain. -/
theorem raised_stop_certain : ∃ s t, run (step leftOnly) leftOnly.robot
        [(ones, .connect true none none true), (ones, .arm .arms true true)] = some s ∧
      s.active .arms = true ∧ s.owns (leftOnly.names .all) = true ∧
      step leftOnly s (ones, .stopAll) = some t ∧ t.last = .raised ∧ t.stopUncertain = false :=
  ⟨_, _, rfl, rfl, rfl, rfl, rfl, rfl⟩

theorem stop_faults_latched_arm : ∃ s t, run (step leftOnly) leftOnly.robot
        [(ones, .connect true none none true), (ones, .arm .arms true true)] = some s ∧
      step leftOnly s (ones, .stop .arms) = some t ∧ Latched leftOnly s (ones, .stop .arms) t ∧
      t.stopUncertain = true := by
  have calm : ones.Calm := fun _ => nofun
  have sound : Along (step leftOnly) (Sound leftOnly) leftOnly.robot
      [(ones, .connect true none none true), (ones, .arm .arms true true), (ones, .stop .arms)] :=
    along_cons trivial rfl (along_cons (fun _ => calm) rfl (along_cons (fun _ => ⟨calm, rfl⟩) rfl trivial))
  exact ⟨_, _, rfl, rfl, (stop_faults_latched leftOnly _ sound).1 [_, _] _ [] _ _ rfl rfl rfl, rfl⟩

end EmbodiRun.Xlerobot.Hardware
