/-
# Xlerobot.Gateway -- the flag of a stop that was not confirmed

Two paths stop the robot.  `Platform.stop` clears every hold, takes an error of the robot as an
unconfirmed stop, and sets the flag from this stop alone; `stop_scope` drops one hold, adds to the
flag, and lets an error of the robot through.  A robot behind another gateway is only released: it
answers that the hold is not owned once it was dropped.

* `unconfirmed_kept_iff`: **the flag is up while a stop is open, in every state of a run, exactly if
  every step is regular**.
-/
import EmbodiRun.Transition.Machine

namespace EmbodiRun.Xlerobot.Gateway

open Transition

inductive Scope where
  | arms
  | base
  deriving DecidableEq

/-- The robot of the platform: `DemoRobot` or `HardwareRobot`, or a `RemoteRobot` with its scope,
`none` for the whole robot. -/
inductive Robot where
  | local (hasStopAll : Bool)
  | remote (scope : Option Scope)

inductive Outcome where
  | raised
  /-- `stop_confirmed is True`, and `control_owned is False`. -/
  | returned (confirmed unowned : Bool)

def Outcome.confirmed : Outcome → Bool
  | .raised => false
  | .returned confirmed _ => confirmed

structure Platform where
  robot : Robot
  /-- `armed`, with an owner. -/
  armed : Bool := false
  robotOwner : Option String := none
  robotOwners : Scope → Option String := fun _ => none
  stopUnconfirmed : Bool := false
  /-- A stop of the scope, when it was held, was not confirmed, and none after it. -/
  outstanding : Scope → Bool := fun _ => false

open Platform

inductive Label where
  /-- The browser arms; `refusal` is what else refuses, and `enabled` what the robot answers. -/
  | arm (refusal : Option String) (enabled : Bool)
  /-- A request to `/robot/arm`. -/
  | robotArm (scope : Option Scope) (owner : String) (refusal : Option String) (enabled : Bool)
  /-- `Platform.stop`; `uncertain` is the robot's own flag after it. -/
  | stop (allScopes : Bool) (outcome : Outcome) (uncertain : Bool)
  /-- `stop_scope`: a release, a stop, a cancelled arm, or a command that failed. -/
  | stopScope (scope : Scope) (outcome : Outcome)
  /-- `refresh_robot_owners`. -/
  | refresh (active : Scope → Bool) (robotArmed : Bool)
  /-- The robot was connected. -/
  | connected (uncertain : Bool)

namespace Platform

variable (s : Platform)

def browserHolds (scope : Scope) : Bool :=
  s.armed && match s.robot with
    | .local _ | .remote none => true
    | .remote (some own) => scope = own

def holds (scope : Scope) : Bool :=
  s.browserHolds scope || s.robotOwner.isSome || (s.robotOwners scope).isSome

/-- What `_stop` stops: `stop_all`, `stop`, or `release`. -/
def stops (allScopes : Bool) (scope : Scope) : Bool :=
  match s.robot with
  | .local _ | .remote none => true
  | .remote (some own) => allScopes || scope = own

/-- The open stops, after one of the scopes `targets`. -/
def reckon (targets : Scope → Bool) (confirmed : Bool) (scope : Scope) : Bool :=
  if targets scope then !confirmed && (s.outstanding scope || s.holds scope) else s.outstanding scope

def stop (allScopes : Bool) (outcome : Outcome) (uncertain : Bool) : Platform := { s with
  armed := false
  robotOwner := none
  robotOwners := fun _ => none
  stopUnconfirmed := uncertain || match outcome with
    | .raised => true
    | .returned confirmed unowned => !unowned && !confirmed
  outstanding := s.reckon (s.stops allScopes) outcome.confirmed }

def stopScope (scope : Scope) (outcome : Outcome) : Platform := { s with
  robotOwners := Function.update s.robotOwners scope none
  stopUnconfirmed := match outcome with
    | .raised => s.stopUnconfirmed
    | .returned confirmed _ => s.stopUnconfirmed || !confirmed
  outstanding := s.reckon (· = scope) outcome.confirmed }

/-- `validate_observation`; `refusal` is what it finds after the flag. -/
def validateObservation (refusal : Option String) : Except String Unit :=
  if s.stopUnconfirmed then
    .error "previous stop unconfirmed; retry Stop and verify before re-arming"
  else match refusal with
    | some message => .error message
    | none => .ok ()

/-- The `arm` of a browser. -/
def arm (refusal : Option String) (enabled : Bool) : Platform :=
  if s.armed || s.robotOwner.isSome || (s.robotOwners .arms).isSome || (s.robotOwners .base).isSome then s
  else match s.validateObservation refusal with
    | .error _ => s
    | .ok () => if enabled then { s with armed := true } else s

def robotArm (scope : Option Scope) (owner : String) (refusal : Option String) (enabled : Bool) : Platform :=
  let taken := match scope with
    | none => (s.robotOwners .arms).isSome || (s.robotOwners .base).isSome
    | some scope => (s.robotOwners scope).isSome
  if s.armed || s.robotOwner.isSome || taken then s
  else match s.validateObservation refusal with
    | .error _ => s
    | .ok () =>
      if !enabled then s
      else match scope with
        | none => { s with robotOwner := some owner }
        | some scope => { s with robotOwners := Function.update s.robotOwners scope (some owner) }

def refresh (active : Scope → Bool) (robotArmed : Bool) : Platform := { s with
  robotOwners := fun scope => if active scope then s.robotOwners scope else none
  robotOwner := if robotArmed then s.robotOwner else none }

end Platform

/-- The sections under `control_lock`. -/
def step (s : Platform) : Label → Option Platform
  | .arm refusal enabled => some (s.arm refusal enabled)
  | .robotArm scope owner refusal enabled => some (s.robotArm scope owner refusal enabled)
  | .stop allScopes outcome uncertain => some (s.stop allScopes outcome uncertain)
  | .stopScope scope outcome => some (s.stopScope scope outcome)
  | .refresh active robotArmed => some (s.refresh active robotArmed)
  | .connected uncertain => some { s with stopUnconfirmed := s.stopUnconfirmed || uncertain }

/-! ## What the flag says -/

def Remembered (s : Platform) : Prop :=
  ∀ scope, s.outstanding scope = true → s.stopUnconfirmed = true ∧ ∀ refusal, s.validateObservation refusal =
      .error "previous stop unconfirmed; retry Stop and verify before re-arming"

/-- A scoped stop of a held scope does not raise, and one that takes the flag down leaves no stop open. -/
def Regular (s : Platform) : Label → Prop
  | .stop allScopes outcome uncertain => uncertain = true ∨ match outcome with
      | .raised => True
      | .returned true _ => ∀ scope, s.outstanding scope = true → s.stops allScopes scope = true
      | .returned false unowned => unowned = false ∨
          ∀ scope, s.outstanding scope = false ∧ (s.stops allScopes scope = true → s.holds scope = false)
  | .stopScope scope .raised => s.stopUnconfirmed = true ∨ s.holds scope = false
  | _ => True

theorem remembered_iff {s} : Remembered s ↔ ∀ scope, s.outstanding scope = true → s.stopUnconfirmed = true := by
  refine ⟨fun all scope opened => (all scope opened).1, fun all scope opened => ?_⟩
  refine ⟨all scope opened, fun refusal => ?_⟩
  simp [validateObservation, all scope opened]

section

variable {s t : Platform} {l : Label}

theorem remembered_stop (allScopes : Bool) (outcome : Outcome) (uncertain : Bool) :
    Remembered (s.stop allScopes outcome uncertain) ↔ Regular s (.stop allScopes outcome uncertain) := by
  rw [remembered_iff]
  cases uncertain with
  | true => exact iff_of_true (fun _ _ => rfl) (.inl rfl)
  | false =>
  cases outcome with
  | raised => exact iff_of_true (fun _ _ => rfl) (.inr trivial)
  | returned confirmed unowned =>
  cases confirmed with
  | true =>
    have flag : (s.stop allScopes (.returned true unowned) false).stopUnconfirmed = false := by
      simp [stop]
    have opened (scope : Scope) : (s.stop allScopes (.returned true unowned) false).outstanding scope =
        (!s.stops allScopes scope && s.outstanding scope) := by
      cases target : s.stops allScopes scope <;> simp [stop, reckon, Outcome.confirmed, target]
    simp only [flag, opened, Regular, Bool.and_eq_true, Bool.not_eq_true', Bool.false_eq_true, imp_false, false_or]
    refine forall_congr' fun scope => ?_
    cases s.stops allScopes scope <;> cases s.outstanding scope <;> simp
  | false =>
  cases unowned with
  | false => exact iff_of_true (fun _ _ => rfl) (.inr (.inl rfl))
  | true =>
    have flag : (s.stop allScopes (.returned false true) false).stopUnconfirmed = false := rfl
    have opened (scope : Scope) : (s.stop allScopes (.returned false true) false).outstanding scope =
        (s.outstanding scope || (s.stops allScopes scope && s.holds scope)) := by
      cases target : s.stops allScopes scope <;> simp [stop, reckon, Outcome.confirmed, target]
    simp only [flag, opened, Regular, Bool.false_eq_true, imp_false, false_or, reduceCtorEq]
    refine forall_congr' fun scope => ?_
    cases s.stops allScopes scope <;> cases s.outstanding scope <;> cases s.holds scope <;> simp

theorem remembered_stopScope (remembered : Remembered s) (scope : Scope) (outcome : Outcome) :
    Remembered (s.stopScope scope outcome) ↔ Regular s (.stopScope scope outcome) := by
  have before := remembered_iff.mp remembered
  rw [remembered_iff]
  cases outcome with
  | raised =>
    have opened (other : Scope) : (s.stopScope scope .raised).outstanding other =
        (s.outstanding other || (decide (other = scope) && s.holds other)) := by
      by_cases same : other = scope <;> simp [stopScope, reckon, Outcome.confirmed, same]
    have flag : (s.stopScope scope .raised).stopUnconfirmed = s.stopUnconfirmed := rfl
    simp only [flag, opened, Regular]
    constructor
    · intro all
      cases held : s.holds scope with
      | false => exact .inr rfl
      | true => exact .inl (all scope (by simp [held]))
    · rintro (up | free) other opened'
      · exact up
      · rcases Bool.or_eq_true_iff.mp opened' with old | new
        · exact before other old
        · simp only [Bool.and_eq_true, decide_eq_true_eq] at new
          rw [new.1, free] at new
          cases new.2
  | returned confirmed unowned =>
    refine iff_of_true (fun other opened => ?_) trivial
    cases confirmed with
    | false => simp [stopScope]
    | true =>
      have old : s.outstanding other = true := by
        by_cases same : other = scope
        · simp [stopScope, reckon, Outcome.confirmed, same] at opened
        · simpa [stopScope, reckon, same] using opened
      simp [stopScope, before other old]

theorem remembered_same (remembered : Remembered s) (opened : t.outstanding = s.outstanding)
    (flag : s.stopUnconfirmed = true → t.stopUnconfirmed = true) : Remembered t :=
  remembered_iff.mpr fun scope here => flag (remembered_iff.mp remembered scope (opened ▸ here))

theorem remembered_step (remembered : Remembered s) (next : step s l = some t) : Remembered t ↔ Regular s l := by
  cases l with cases next
  | arm refusal enabled =>
    refine iff_of_true (remembered_same remembered ?_ ?_) trivial <;> unfold arm <;> split
    · rfl
    · split
      · rfl
      · split <;> rfl
    · exact id
    · split
      · exact id
      · split <;> exact id
  | robotArm scope owner refusal enabled =>
    refine iff_of_true (remembered_same remembered ?_ ?_) trivial <;> unfold robotArm <;> dsimp only <;> repeat' split
    all_goals first
      | rfl
      | exact id
  | stop allScopes outcome uncertain => exact remembered_stop allScopes outcome uncertain
  | stopScope scope outcome => exact remembered_stopScope remembered scope outcome
  | refresh active robotArmed => exact iff_of_true (remembered_same remembered rfl id) trivial
  | connected uncertain =>
    exact iff_of_true (remembered_same remembered rfl fun up => by simp [up]) trivial

end

/-! ## Runs -/

/-- **An unconfirmed stop is remembered** in every state of a run exactly if every step of it is
regular. -/
theorem unconfirmed_kept_iff {s t : Platform} {ls : List Label}
    (closed : ∀ scope, s.outstanding scope = false) (ran : run step s ls = some t) :
    (∀ before after u, ls = before ++ after → run step s before = some u → Remembered u) ↔
      Along step Regular s ls := by
  have start : Remembered s := fun scope opened => by rw [closed scope] at opened; cases opened
  exact along_iff_prefixes (fun s l t remembered next => remembered_step remembered next) start ran

def localRobot : Platform := { robot := .local true }

def baseHeld : Label := .robotArm (some .base) "a" none true

def released : List Label := [baseHeld, .stopScope .base (.returned false false)]

theorem unconfirmed_kept_released : ∃ s, run step localRobot released = some s ∧ Remembered s := by
  have closed : ∀ scope, localRobot.outstanding scope = false := fun _ => rfl
  have regular : Along step Regular localRobot released := ⟨trivial, fun _ _ => ⟨trivial, fun _ _ => trivial⟩⟩
  exact ⟨_, rfl, (unconfirmed_kept_iff closed rfl).mpr regular released [] _ rfl rfl⟩

/-- **Two ways to forget**: a stop that raises; and a released scope that is answered as not owned. -/
theorem unconfirmed_forgotten : (∃ s, run step localRobot [baseHeld, .stopScope .base .raised] = some s ∧
      s.outstanding .base = true ∧ s.stopUnconfirmed = false) ∧
    ∃ s, run step { robot := .remote (some .arms) } [.arm none true, .stop false (.returned false false) false,
        .stop false (.returned false true) false] = some s ∧
      s.outstanding .arms = true ∧ s.stopUnconfirmed = false :=
  ⟨⟨_, rfl, rfl, rfl⟩, _, rfl, rfl, rfl⟩

end EmbodiRun.Xlerobot.Gateway
