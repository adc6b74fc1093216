/-
# Xlerobot.Ownership -- who controls which scope

The platform keeps a browser that owns everything, a client of the whole robot, and a client of each
scope.  They change inside `control_lock` only; the robot's watchdog takes scopes away at any time, and
a request looks at that once, before it is served.

* `one_controller`: **one holder of each scope; commands come from it alone; a release of another changes
  nothing but what the robot has lost; outside of the lock an active scope is held**.
-/
import EmbodiRun.Xlerobot.Gateway

namespace EmbodiRun.Xlerobot.Ownership

open Function
open Transition Option
open Gateway (Scope)

inductive Holder where
  | browser (ws : Nat)
  | whole (owner : String)
  | scope (owner : String)
  deriving DecidableEq

inductive Endpoint where
  | arm
  | release
  | stop
  | stopAll
  | command
  | observe
  deriving DecidableEq

/-- A request to the robot endpoint; `scope` is `none` for `all`, and `fit` says that
`validate_observation` and what else is checked let it pass. -/
structure Request where
  endpoint : Endpoint
  scope : Option Scope
  owner : String
  fit : Bool := true
  deriving DecidableEq

/-- The section under `control_lock`, at what it awaits. -/
inductive Stage where
  | idle
  /-- The robot's `arm`, for a browser. -/
  | browserArming (ws : Nat)
  /-- `refresh_robot_owners`. -/
  | refreshing (request : Request)
  /-- The robot's `arm`, for a client. -/
  | arming (scope : Option Scope) (owner : String)
  /-- The body of a command. -/
  | reading (scope : Option Scope) (owner : String)
  /-- The command that is forwarded. -/
  | commanding (scope : Option Scope) (holder : Holder)
  /-- The robot's stop. -/
  | stopping (scope : Option Scope)
  deriving DecidableEq

/-- The scopes that are meant; `none` stands for all. -/
def covers : Option Scope → Scope → Bool
  | none, _ => true
  | some own, scope => own = scope

structure Platform where
  /-- The robot has `control_state`. -/
  perScope : Bool
  owner : Option Nat := none
  robotOwner : Option String := none
  robotOwners : Scope → Option String := fun _ => none
  /-- The scopes that the robot has enabled. -/
  active : Scope → Bool := fun _ => false
  stage : Stage := .idle
  /-- The handler of the section is cancelled. -/
  cancelled : Bool := false
  /-- Who armed the scope, and no stop or release of it since. -/
  since : Scope → Option Holder := fun _ => none

inductive Outcome where
  | ok
  /-- It is not armed, or the command is not accepted. -/
  | refused
  | raised
  deriving DecidableEq

namespace Platform

variable (s : Platform)

def armed : Bool := s.active .arms || s.active .base

def leave : Platform := { s with stage := .idle, cancelled := false }

def await (stage : Stage) : Platform := { s with stage }

/-- `_stop`, up to the robot's stop. -/
def stop : Platform := { s with
  owner := none
  robotOwner := none
  robotOwners := fun _ => none
  since := fun _ => none
  stage := .stopping none }

/-- `stop_scope`, up to the robot's stop. -/
def stopScope (scope : Scope) : Platform := { s with
  robotOwners := update s.robotOwners scope none
  since := update s.since scope none
  stage := .stopping (some scope) }

def stopFor : Option Scope → Platform
  | none => s.stop
  | some scope => s.stopScope scope

/-- `refresh_robot_owners`, with the state that the robot returned. -/
def refresh : Platform := { s with
  robotOwners := fun scope => if s.perScope && s.active scope then s.robotOwners scope else none
  robotOwner := if s.armed then s.robotOwner else none }

def anyScope : Bool := (s.robotOwners .arms).isSome || (s.robotOwners .base).isSome

/-- `robot already controlled`. -/
def taken : Option Scope → Bool
  | none => s.owner.isSome || s.robotOwner.isSome || s.anyScope
  | some scope => s.owner.isSome || s.robotOwner.isSome || (s.robotOwners scope).isSome

def lease : Option Scope → Option String
  | none => s.robotOwner
  | some scope => s.robotOwners scope

def serve (request : Request) : Platform :=
  match request.endpoint, request.scope with
  -- a robot without `control_state` takes no scope in `arm`
  | .arm, scope =>
    if s.taken scope || !request.fit || (scope.isSome && !s.perScope) then s.leave
    else s.await (.arming scope request.owner)
  | .release, none => s.leave
  | .release, some scope =>
    if s.robotOwners scope ≠ some request.owner then s.leave else s.stopScope scope
  | .stop, none | .stopAll, _ => s.stop
  | .stop, some scope =>
    if s.robotOwner.isSome || s.owner.isSome then s.leave else s.stopScope scope
  | .command, scope =>
    if s.lease scope ≠ some request.owner || !s.armed then s.leave
    else s.await (.reading scope request.owner)
  | .observe, _ => s.leave

def enable (scope : Option Scope) (changed : Scope → Bool) : Platform :=
  { s with active := fun k => s.active k || (covers scope k && changed k) }

def disable (changed : Scope → Bool) : Platform :=
  { s with active := fun k => s.active k && !changed k }

def grant (scope : Option Scope) (owner : String) : Platform :=
  match scope with
  | none => { s with robotOwner := some owner, since := fun _ => some (.whole owner) }
  | some scope => { s with
      robotOwners := update s.robotOwners scope (some owner)
      since := update s.since scope (some (.scope owner)) }

def finish (outcome : Outcome) (changed : Scope → Bool) : Option Platform :=
  match s.stage with
  | .idle | .reading _ _ => none
  | .browserArming ws => some (match outcome with
      | .ok =>
        let s := s.enable none changed
        if s.cancelled then s.leave
        else { s with owner := some ws, since := fun _ => some (.browser ws) }.leave
      | _ => (s.disable changed).leave)
  | .refreshing request => some (
      if s.cancelled || outcome = .raised then s.leave else s.refresh.serve request)
  | .arming scope owner => some (match outcome with
      | .ok =>
        let s := s.enable scope changed
        if s.cancelled then s.stopFor scope else (s.grant scope owner).leave
      | .refused =>
        let s := s.disable changed
        if s.cancelled then s.stopFor scope else s.leave
      | .raised => (s.disable changed).leave)
  | .commanding scope holder => some (
      let s := s.disable changed
      match outcome, holder with
      | .ok, _ => s.leave
      -- the tick leaves the section, and stops in another
      | _, .browser _ => s.leave
      | .refused, _ => if s.cancelled then s.leave else s.stopFor scope
      | .raised, _ => s.stopFor scope)
  | .stopping scope => some (s.disable fun k => covers scope k || changed k).leave

end Platform

inductive Body where
  | unreadable
  | invalid
  | valid

inductive Label where
  /-- The `arm` of a browser; `fit` is what else it needs. -/
  | browserArm (ws : Nat) (fit : Bool)
  /-- `Platform.stop` of an operator, an input error, a disconnect, a fault, or a shutdown. -/
  | stop
  /-- The tick forwards the browser's input; `fit` is what else it needs. -/
  | tick (fit : Bool)
  | request (request : Request)
  | finish (outcome : Outcome) (changed : Scope → Bool)
  | body (body : Body)
  /-- The handler of the section is cancelled. -/
  | cancel
  | watchdog (lost : Scope → Bool)

open Platform in
/-- `none` where the label is not enabled. -/
def step (s : Platform) : Label → Option Platform
  | .browserArm ws fit =>
    if s.stage ≠ .idle then none
    else some ( if s.owner.isSome || s.robotOwner.isSome || s.anyScope || !fit then s
      else s.await (.browserArming ws))
  | .stop => if s.stage ≠ .idle then none else some s.stop
  | .tick fit =>
    if s.stage ≠ .idle then none
    else some (match s.owner with
      | some ws => if s.armed && fit then s.await (.commanding none (.browser ws)) else s
      | none => s)
  | .request request => if s.stage ≠ .idle then none else some (s.await (.refreshing request))
  | .finish outcome changed => s.finish outcome changed
  | .body body => match s.stage with
      | .reading scope owner => some (
          if s.cancelled then s.leave
          else match body with
            | .unreadable => s.leave
            | .invalid => s.stopFor scope
            | .valid => s.await (.commanding scope
                (if scope.isNone then .whole owner else .scope owner)))
      | _ => none
  | .cancel => if s.stage = .idle then none else some { s with cancelled := true }
  | .watchdog lost => some (s.disable lost)

/-! ## One holder -/

structure Holds (s : Platform) : Prop where
  browser : ∀ ws, s.owner = some ws → s.robotOwner = none ∧ (∀ k, s.robotOwners k = none) ∧
    ∀ k, s.since k = some (.browser ws)
  whole : ∀ owner, s.robotOwner = some owner → (∀ k, s.robotOwners k = none) ∧ ∀ k, s.since k = some (.whole owner)
  each : ∀ k owner, s.robotOwners k = some owner → s.since k = some (.scope owner)
  unscoped : s.perScope = false → ∀ k, s.robotOwners k = none

open Holds

def Fits (s : Platform) : Prop :=
  match s.stage with
  | .browserArming _ => s.robotOwner = none ∧ ∀ k, s.robotOwners k = none
  | .arming scope _ => s.owner = none ∧ s.robotOwner = none ∧
      (scope = none → ∀ k, s.robotOwners k = none) ∧ (scope.isSome = true → s.perScope = true)
  | .reading scope owner => s.lease scope = some owner
  | .commanding scope holder => (∀ k, covers scope k = true → s.since k = some holder) ∧
      (scope.isSome = true → ∃ owner, holder = .scope owner)
  | _ => True

structure Inv (s : Platform) : Prop where
  holds : Holds s
  fits : Fits s

section

variable {s t : Platform} {l : Label} {scope : Option Scope}

theorem Holds.same (holds : Holds s) (perScope : t.perScope = s.perScope) (owner : t.owner = s.owner)
    (robotOwner : t.robotOwner = s.robotOwner) (robotOwners : t.robotOwners = s.robotOwners)
    (since : t.since = s.since) : Holds t :=
  ⟨by rw [owner, robotOwner, robotOwners, since]; exact holds.browser,
    by rw [robotOwner, robotOwners, since]; exact holds.whole,
    by rw [robotOwners, since]; exact holds.each, by rw [perScope, robotOwners]; exact holds.unscoped⟩

theorem Holds.leave (holds : Holds s) : Inv s.leave := ⟨holds.same rfl rfl rfl rfl rfl, trivial⟩

theorem Holds.disable (holds : Holds s) (changed : Scope → Bool) : Holds (s.disable changed) :=
  holds.same rfl rfl rfl rfl rfl

theorem inv_stop (s : Platform) : Inv s.stop := by
  refine ⟨⟨fun _ here => ?_, fun _ here => ?_, fun _ _ here => ?_, fun _ _ => rfl⟩, trivial⟩
  all_goals cases here

theorem Holds.stopScope (holds : Holds s) (k : Scope) (owner : s.owner = none) (robotOwner : s.robotOwner = none) :
    Inv (s.stopScope k) := by
  refine ⟨⟨fun ws here => ?_, fun other here => ?_, fun j other here => ?_, fun unscoped j => ?_⟩, trivial⟩
  · rw [show (s.stopScope k).owner = s.owner from rfl, owner] at here
    cases here
  · rw [show (s.stopScope k).robotOwner = s.robotOwner from rfl, robotOwner] at here
    cases here
  · have here : update s.robotOwners k none j = some other := here
    by_cases same : j = k
    · rw [same, update_self] at here
      cases here
    · rw [update_of_ne same] at here
      exact (update_of_ne same ..).trans (holds.each j other here)
  · by_cases same : j = k
    · rw [same]
      exact update_self ..
    · exact (update_of_ne same ..).trans (holds.unscoped unscoped j)

theorem Holds.refresh (holds : Holds s) : Holds s.refresh := by
  have perScope (k : Scope) (owner : String) (here : s.refresh.robotOwners k = some owner) :
      s.robotOwners k = some owner := by
    simp only [Platform.refresh] at here
    split at here
    · exact here
    · cases here
  have whole (owner : String) (here : s.refresh.robotOwner = some owner) : s.robotOwner = some owner := by
    simp only [Platform.refresh] at here
    split at here
    · exact here
    · cases here
  have gone (k : Scope) (none_ : s.robotOwners k = none) : s.refresh.robotOwners k = none := by
    simp only [Platform.refresh, none_, ite_self]
  refine ⟨fun ws here => ?_, fun owner here => ?_, fun k owner here => holds.each k owner (perScope k owner here),
    fun unscoped k => gone k (holds.unscoped unscoped k)⟩
  · obtain ⟨robotOwner, robotOwners, since⟩ := holds.browser ws here
    exact ⟨by simp only [Platform.refresh, robotOwner, ite_self], fun k => gone k (robotOwners k), since⟩
  · obtain ⟨robotOwners, since⟩ := holds.whole owner (whole owner here)
    exact ⟨fun k => gone k (robotOwners k), since⟩

theorem anyScope_none (none_ : s.anyScope = false) (k : Scope) : s.robotOwners k = none := by
  simp only [Platform.anyScope, Bool.or_eq_false_iff, isSome_eq_false_iff, isNone_iff_eq_none] at none_
  cases k with
  | arms => exact none_.1
  | base => exact none_.2

theorem Holds.serve (holds : Holds s) (request : Request) : Inv (s.serve request) := by
  obtain ⟨endpoint, scope, owner, fit⟩ := request
  cases endpoint with
  | observe => exact holds.leave
  | stopAll => cases scope <;> exact inv_stop s
  | stop =>
    cases scope with
    | none => exact inv_stop s
    | some k =>
      simp only [Platform.serve]
      split
      · exact holds.leave
      · rename_i free
        rw [Bool.or_eq_true, not_or] at free
        exact holds.stopScope k (Option.not_isSome_iff_eq_none.mp free.2) (Option.not_isSome_iff_eq_none.mp free.1)
  | release =>
    cases scope with
    | none => exact holds.leave
    | some k =>
      simp only [Platform.serve]
      split
      · exact holds.leave
      · rename_i own
        have own := not_not.mp own
        refine holds.stopScope k ?_ ?_ <;> by_contra other
        · obtain ⟨ws, is⟩ := ne_none_iff_exists'.mp other
          rw [(holds.browser ws is).2.1 k] at own
          cases own
        · obtain ⟨whole, is⟩ := ne_none_iff_exists'.mp other
          rw [(holds.whole whole is).1 k] at own
          cases own
  | command =>
    simp only [Platform.serve]
    split
    · exact holds.leave
    · rename_i allowed
      rw [Bool.or_eq_true, not_or, decide_eq_true_eq, not_not] at allowed
      exact ⟨holds.same rfl rfl rfl rfl rfl, allowed.1⟩
  | arm =>
    simp only [Platform.serve]
    split
    · exact holds.leave
    · rename_i free
      simp only [Bool.or_eq_true, not_or] at free
      refine ⟨holds.same rfl rfl rfl rfl rfl, ?_⟩
      cases scope with
      | none =>
        have none_ := free.1.1
        simp only [Platform.taken, Bool.or_eq_true, not_or] at none_
        exact ⟨Option.not_isSome_iff_eq_none.mp none_.1.1, Option.not_isSome_iff_eq_none.mp none_.1.2,
          fun _ => anyScope_none (Bool.eq_false_iff.mpr none_.2), nofun⟩
      | some =>
        have none_ := free.1.1
        have perScope : s.perScope = true := by simpa using free.2
        simp only [Platform.taken, Bool.or_eq_true, not_or] at none_
        exact ⟨Option.not_isSome_iff_eq_none.mp none_.1.1, Option.not_isSome_iff_eq_none.mp none_.1.2,
          nofun, fun _ => perScope⟩

theorem Holds.alone (holds : Holds s) {k} {owner} (since : s.since k = some (.scope owner)) :
    s.owner = none ∧ s.robotOwner = none := by
  constructor <;> by_contra other
  · obtain ⟨ws, is⟩ := ne_none_iff_exists'.mp other
    rw [(holds.browser ws is).2.2 k] at since
    cases since
  · obtain ⟨whole, is⟩ := ne_none_iff_exists'.mp other
    rw [(holds.whole whole is).2 k] at since
    cases since

theorem Holds.stopFor (holds : Holds s)
    (alone : scope.isSome = true → s.owner = none ∧ s.robotOwner = none) : Inv (s.stopFor scope) := by
  cases scope with
  | none => exact inv_stop s
  | some k => exact holds.stopScope k (alone rfl).1 (alone rfl).2

theorem Holds.grant (holds : Holds s) (owner : String) (browser : s.owner = none) (robotOwner : s.robotOwner = none)
    (free : scope = none → ∀ k, s.robotOwners k = none) (perScope : scope.isSome = true → s.perScope = true) :
    Holds (s.grant scope owner) := by
  cases scope with
  | none =>
    refine ⟨fun ws here => ?_, fun other here => ?_, fun k other here => ?_, fun _ => free rfl⟩
    · rw [show (s.grant none owner).owner = s.owner from rfl, browser] at here
      cases here
    · cases here
      exact ⟨free rfl, fun _ => rfl⟩
    · rw [show (s.grant none owner).robotOwners k = s.robotOwners k from rfl, free rfl k] at here
      cases here
  | some k =>
    refine ⟨fun ws here => ?_, fun other here => ?_, fun j other here => ?_, fun unscoped => ?_⟩
    · rw [show (s.grant (some k) owner).owner = s.owner from rfl, browser] at here
      cases here
    · rw [show (s.grant (some k) owner).robotOwner = s.robotOwner from rfl, robotOwner] at here
      cases here
    · have here : update s.robotOwners k (some owner) j = some other := here
      by_cases same : j = k
      · rw [same, update_self] at here
        cases here
        rw [same]
        exact update_self ..
      · rw [update_of_ne same] at here
        exact (update_of_ne same ..).trans (holds.each j other here)
    · rw [show (s.grant (some k) owner).perScope = s.perScope from rfl, perScope rfl] at unscoped
      cases unscoped

theorem inv_finish {outcome} {changed} (inv : Inv s) (next : s.finish outcome changed = some t) : Inv t := by
  obtain ⟨holds, fits⟩ := inv
  unfold Platform.finish at next
  cases here : s.stage with
  | idle | reading => simp only [here] at next; cases next
  | browserArming =>
    simp only [here] at next
    simp only [Fits, here] at fits
    cases next
    cases outcome with
    | refused | raised => exact (holds.disable changed).leave
    | ok =>
      simp only
      split
      · exact (holds.same rfl rfl rfl rfl rfl : Holds (s.enable none changed)).leave
      · refine ⟨⟨fun _ same => ?_, fun _ whole => ?_, fun k _ each => ?_, fun _ => fits.2⟩, trivial⟩
        · cases same
          exact ⟨fits.1, fits.2, fun _ => rfl⟩
        · have whole : s.robotOwner = some _ := whole
          rw [fits.1] at whole
          cases whole
        · have each : s.robotOwners k = some _ := each
          rw [fits.2 k] at each
          cases each
  | refreshing request =>
    simp only [here] at next
    cases next
    split
    · exact holds.leave
    · exact holds.refresh.serve request
  | arming scope owner =>
    simp only [here] at next
    simp only [Fits, here] at fits
    obtain ⟨browser, robotOwner, free, perScope⟩ := fits
    cases next
    have enabled : Holds (s.enable scope changed) := holds.same rfl rfl rfl rfl rfl
    cases outcome with
    | raised => exact (holds.disable changed).leave
    | refused =>
      simp only
      split
      · exact (holds.disable changed).stopFor fun _ => ⟨browser, robotOwner⟩
      · exact (holds.disable changed).leave
    | ok =>
      simp only
      split
      · exact enabled.stopFor fun _ => ⟨browser, robotOwner⟩
      · exact (enabled.grant owner browser robotOwner free perScope).leave
  | commanding scope holder =>
    simp only [here] at next
    simp only [Fits, here] at fits
    obtain ⟨since, own⟩ := fits
    cases next
    have stopped : Inv ((s.disable changed).stopFor scope) := by
      refine (holds.disable changed).stopFor fun some_ => ?_
      obtain ⟨owner, rfl⟩ := own some_
      obtain ⟨k, rfl⟩ := Option.isSome_iff_exists.mp some_
      exact holds.alone (since k (decide_eq_true rfl))
    have left : Inv (s.disable changed).leave := (holds.disable changed).leave
    cases outcome <;> cases holder <;> simp only <;> first | exact left | exact stopped | (split <;> assumption)
  | stopping =>
    simp only [here] at next
    cases next
    exact (holds.disable _).leave

theorem inv_step (inv : Inv s) (next : step s l = some t) : Inv t := by
  have holds := inv.holds
  cases l with simp only [step] at next
  | browserArm ws fit =>
    split at next
    · cases next
    cases next
    split
    · exact inv
    · rename_i free
      simp only [Bool.or_eq_true, not_or] at free
      exact ⟨holds.same rfl rfl rfl rfl rfl, Option.not_isSome_iff_eq_none.mp free.1.1.2,
        anyScope_none (Bool.eq_false_iff.mpr free.1.2)⟩
  | stop =>
    split at next
    · cases next
    cases next
    exact inv_stop s
  | tick fit =>
    split at next
    · cases next
    cases next
    split
    · rename_i ws owner
      split
      · exact ⟨holds.same rfl rfl rfl rfl rfl, fun k _ => (holds.browser ws owner).2.2 k, nofun⟩
      · exact inv
    · exact inv
  | request =>
    split at next
    · cases next
    cases next
    exact ⟨holds.same rfl rfl rfl rfl rfl, trivial⟩
  | finish => exact inv_finish inv next
  | body body =>
    split at next
    · rename_i scope owner here
      have lease := inv.fits
      simp only [Fits, here] at lease
      have since : ∀ k, covers scope k = true →
          s.since k = some (if scope.isNone then .whole owner else .scope owner) := by
        intro k covered
        cases scope with
        | none => exact (holds.whole owner lease).2 k
        | some own =>
          obtain rfl : own = k := of_decide_eq_true covered
          exact holds.each own owner lease
      cases next
      split
      · exact holds.leave
      cases body with
      | unreadable => exact holds.leave
      | invalid =>
        refine holds.stopFor fun some_ => ?_
        obtain ⟨k, rfl⟩ := Option.isSome_iff_exists.mp some_
        exact holds.alone (since k (decide_eq_true rfl))
      | valid =>
        refine ⟨holds.same rfl rfl rfl rfl rfl, since, fun some_ => ⟨owner, ?_⟩⟩
        obtain ⟨k, rfl⟩ := Option.isSome_iff_exists.mp some_
        rfl
    · cases next
  | cancel =>
    split at next
    · cases next
    cases next
    exact ⟨holds.same rfl rfl rfl rfl rfl, inv.fits⟩
  | watchdog lost =>
    cases next
    exact ⟨holds.disable lost, inv.fits⟩

end

/-! ## A holder of what is active -/

def Platform.heldBy (s : Platform) (k : Scope) : Bool :=
  s.owner.isSome || s.robotOwner.isSome || (s.robotOwners k).isSome

def Held (s : Platform) : Prop := ∀ k, s.active k = true → s.heldBy k = true

/-- What is active has a holder, or is being stopped; no browser is disturbed as it arms. -/
structure Calm (s : Platform) : Prop where
  held : ∀ k, s.active k = true → s.heldBy k = true ∨ ∃ scope, s.stage = .stopping scope ∧ covers scope k = true
  calm : s.stage = .idle ∨ (∃ ws, s.stage = .browserArming ws) → s.cancelled = false

def Undisturbed (s : Platform) : Label → Prop
  | .cancel => ∀ ws, s.stage ≠ .browserArming ws
  | _ => True

section

variable {s t : Platform} {l : Label} {scope : Option Scope}

theorem Calm.of_stage (calm : Calm s) (other : ∀ scope, s.stage ≠ .stopping scope) : Held s :=
  fun k active => (calm.held k active).resolve_right fun ⟨scope, here, _⟩ => other scope here

theorem Held.leave (held : Held s) : Calm s.leave := ⟨fun k active => .inl (held k active), fun _ => rfl⟩

theorem Held.disable (held : Held s) (changed : Scope → Bool) : Held (s.disable changed) := by
  intro k active
  simp only [Platform.disable, Bool.and_eq_true] at active
  exact held k active.1

theorem calm_stop (s : Platform) : Calm s.stop := ⟨fun _ _ => .inr ⟨none, rfl, rfl⟩, by simp [Platform.stop]⟩

theorem calm_stopScope {k} (held : ∀ j, s.active j = true → s.heldBy j = true ∨ j = k) : Calm (s.stopScope k) := by
  refine ⟨fun j active => ?_, by simp [Platform.stopScope]⟩
  by_cases same : j = k
  · exact .inr ⟨some k, rfl, decide_eq_true same.symm⟩
  · refine .inl ?_
    have before := (held j active).resolve_right same
    simpa [Platform.heldBy, Platform.stopScope, update_of_ne same] using before

theorem calm_stopFor (held : ∀ j, s.active j = true → s.heldBy j = true ∨ covers scope j = true) :
    Calm (s.stopFor scope) := by
  cases scope with
  | none => exact calm_stop s
  | some =>
    refine calm_stopScope fun j active => (held j active).imp_right fun covered => ?_
    exact (of_decide_eq_true covered).symm

theorem Held.refresh (held : Held s) (holds : Holds s) : Held s.refresh := by
  intro k active
  have active : s.active k = true := active
  have armed : s.armed = true := by
    cases k <;> simp [Platform.armed, active]
  have before := held k active
  simp only [Platform.heldBy, Platform.refresh, armed, active, Bool.and_true, if_true] at before ⊢
  cases perScope : s.perScope with
  | true => exact before
  | false =>
    rw [holds.unscoped perScope k] at before
    exact before

theorem Held.serve (held : Held s) (request : Request) : Calm (s.serve request) := by
  obtain ⟨endpoint, scope, owner, fit⟩ := request
  cases endpoint with
  | observe => exact held.leave
  | stopAll => cases scope <;> exact calm_stop s
  | stop =>
    cases scope with
    | none => exact calm_stop s
    | some =>
      simp only [Platform.serve]
      split
      · exact held.leave
      · exact calm_stopScope fun j active => .inl (held j active)
  | release =>
    cases scope with
    | none => exact held.leave
    | some =>
      simp only [Platform.serve]
      split
      · exact held.leave
      · exact calm_stopScope fun j active => .inl (held j active)
  | command | arm =>
    simp only [Platform.serve]
    split
    · exact held.leave
    · exact ⟨fun k active => .inl (held k active), by simp [Platform.await]⟩

theorem Held.enable (held : Held s) (changed : Scope → Bool) (k : Scope)
    (active : (s.enable scope changed).active k = true) : s.heldBy k = true ∨ covers scope k = true := by
  simp only [Platform.enable, Bool.or_eq_true, Bool.and_eq_true] at active
  exact active.imp (held k) And.left

theorem calm_finish {outcome} {changed} (inv : Inv s) (calm : Calm s)
    (next : s.finish outcome changed = some t) : Calm t := by
  obtain ⟨holds, fits⟩ := inv
  unfold Platform.finish at next
  cases here : s.stage with
  | idle | reading => simp only [here] at next; cases next
  | browserArming ws =>
    simp only [here] at next
    have held : Held s := calm.of_stage (by rw [here]; exact nofun)
    have quiet := calm.calm (.inr ⟨ws, here⟩)
    cases next
    cases outcome with
    | refused | raised => exact (held.disable changed).leave
    | ok =>
      simp only
      rw [show (s.enable none changed).cancelled = s.cancelled from rfl, quiet]
      exact ⟨fun _ _ => .inl rfl, fun _ => rfl⟩
  | refreshing request =>
    simp only [here] at next
    have held : Held s := calm.of_stage (by rw [here]; exact nofun)
    cases next
    split
    · exact held.leave
    · exact (held.refresh holds).serve request
  | arming scope =>
    simp only [here] at next
    simp only [Fits, here] at fits
    have held : Held s := calm.of_stage (by rw [here]; exact nofun)
    cases next
    cases outcome with
    | raised => exact (held.disable changed).leave
    | refused =>
      simp only
      split
      · exact calm_stopFor fun j active => .inl (held.disable changed j active)
      · exact (held.disable changed).leave
    | ok =>
      simp only
      split
      · exact calm_stopFor fun j active => held.enable changed j active
      · refine ⟨fun k active => .inl ?_, fun _ => rfl⟩
        cases scope with
        | none => simp [Platform.heldBy, Platform.grant, Platform.leave]
        | some own =>
          by_cases same : k = own
          · simp [Platform.heldBy, Platform.grant, Platform.leave, same]
          · have before := (held.enable changed k active).resolve_right fun covered =>
              same (of_decide_eq_true covered).symm
            simpa [Platform.heldBy, Platform.grant, Platform.leave, Platform.enable, update_of_ne same] using before
  | commanding scope holder =>
    simp only [here] at next
    have held : Held s := calm.of_stage (by rw [here]; exact nofun)
    cases next
    have stopped : Calm ((s.disable changed).stopFor scope) :=
      calm_stopFor fun j active => .inl (held.disable changed j active)
    have left : Calm (s.disable changed).leave := (held.disable changed).leave
    cases outcome <;> cases holder <;> simp only <;> first | exact left | exact stopped | (split <;> assumption)
  | stopping =>
    simp only [here] at next
    cases next
    refine ⟨fun k active => .inl ?_, fun _ => rfl⟩
    simp only [Platform.leave, Platform.disable, Bool.and_eq_true, Bool.not_eq_true', Bool.or_eq_false_iff] at active
    rcases calm.held k active.1 with held | ⟨other, stage, covered⟩
    · exact held
    · rw [here] at stage
      cases stage
      rw [active.2.1] at covered
      cases covered

theorem calm_step (inv : Inv s) (calm : Calm s) (undisturbed : Undisturbed s l) (next : step s l = some t) :
    Calm t := by
  cases l with simp only [step] at next
  | browserArm ws fit =>
    split at next
    · cases next
    rename_i idle
    have idle := not_not.mp idle
    cases next
    split
    · exact calm
    · exact ⟨fun k active => .inl (calm.of_stage (by rw [idle]; exact nofun) k active),
        fun _ => calm.calm (.inl idle)⟩
  | stop =>
    split at next
    · cases next
    cases next
    exact calm_stop s
  | tick fit =>
    split at next
    · cases next
    rename_i idle
    have idle := not_not.mp idle
    cases next
    split
    · split
      · exact ⟨fun k active => .inl (calm.of_stage (by rw [idle]; exact nofun) k active), by simp [Platform.await]⟩
      · exact calm
    · exact calm
  | request request =>
    split at next
    · cases next
    rename_i idle
    have idle := not_not.mp idle
    cases next
    exact ⟨fun k active => .inl (calm.of_stage (by rw [idle]; exact nofun) k active), by simp [Platform.await]⟩
  | finish => exact calm_finish inv calm next
  | body body =>
    split at next
    · rename_i scope owner here
      have held : Held s := calm.of_stage (by rw [here]; exact nofun)
      cases next
      split
      · exact held.leave
      cases body with
      | unreadable => exact held.leave
      | invalid => exact calm_stopFor fun j active => .inl (held j active)
      | valid => exact ⟨fun k active => .inl (held k active), by simp [Platform.await]⟩
    · cases next
  | cancel =>
    split at next
    · cases next
    rename_i busy
    cases next
    refine ⟨calm.held, fun stage => ?_⟩
    rcases stage with idle | ⟨ws, arming⟩
    · exact absurd idle busy
    · exact absurd arming (undisturbed ws)
  | watchdog =>
    cases next
    refine ⟨fun k active => ?_, calm.calm⟩
    simp only [Platform.disable, Bool.and_eq_true] at active
    exact calm.held k active.1

end

/-! ## Runs -/

variable {s t : Platform} {ls : List Label}

theorem inv_init (perScope : Bool) : Inv { perScope } := by
  refine ⟨⟨fun _ here => ?_, fun _ here => ?_, fun _ _ here => ?_, fun _ _ => rfl⟩, trivial⟩
  all_goals cases here

theorem calm_init (perScope : Bool) : Calm { perScope } := by
  refine ⟨fun _ active => ?_, fun _ => rfl⟩
  cases active

theorem inv_run (perScope : Bool) (ran : run step { perScope } ls = some t) : Inv t :=
  run_invariant (fun _ _ _ inv next => inv_step inv next) (inv_init perScope) ran

theorem calm_run (perScope : Bool) (along : Along step Undisturbed { perScope } ls)
    (ran : run step { perScope } ls = some t) : Calm t :=
  have both : Inv t ∧ Calm t := run_induction (I := fun s => Inv s ∧ Calm s) (fun _ _ _ undisturbed both next =>
      ⟨inv_step both.1 next, calm_step both.1 both.2 undisturbed next⟩) along
    ⟨inv_init perScope, calm_init perScope⟩ ran
  both.2

variable {outcome : Outcome} {changed : Scope → Bool} {owner : String}

theorem reading_seen {request} {scope} (here : s.stage = .refreshing request)
    (next : s.finish outcome changed = some t) (reading : t.stage = .reading scope owner) :
    request.scope = scope ∧ request.owner = owner ∧ s.armed = true ∧ ∀ k, scope = some k → s.active k = true := by
  simp only [Platform.finish, here] at next
  cases next
  split at reading
  · cases reading
  obtain ⟨endpoint, own, client, fit⟩ := request
  cases endpoint with simp only [Platform.serve] at reading
  | observe => cases reading
  | stopAll => cases own <;> cases reading
  | stop | release =>
    cases own with
    | none => cases reading
    | some =>
      simp only at reading
      split at reading <;> cases reading
  | arm => split at reading <;> cases reading
  | command =>
    split at reading
    · cases reading
    · rename_i allowed
      rw [Bool.or_eq_true, not_or, decide_eq_true_eq, not_not] at allowed
      cases reading
      have armed : s.refresh.armed = true := by simpa using allowed.2
      refine ⟨rfl, rfl, armed, fun k same => ?_⟩
      have lease := allowed.1
      rw [same] at lease
      simp only [Platform.lease, Platform.refresh] at lease
      split at lease
      · rename_i both
        exact (Bool.and_eq_true_iff.mp both).2
      · cases lease

theorem release_of_other (holds : Holds s) {k} {fit} (here : s.stage = .refreshing ⟨.release, some k, owner, fit⟩)
    (other : s.robotOwners k ≠ some owner) (next : s.finish outcome changed = some t) :
    t.stage = .idle ∧ t.owner = s.owner ∧ t.active = s.active ∧ t.since = s.since ∧
      (s.armed = true → t.robotOwner = s.robotOwner) ∧
      ∀ j, s.active j = true → t.robotOwners j = s.robotOwners j := by
  simp only [Platform.finish, here] at next
  cases next
  split
  · exact ⟨rfl, rfl, rfl, rfl, fun _ => rfl, fun _ _ => rfl⟩
  have unowned : s.refresh.robotOwners k ≠ some owner := by
    simp only [Platform.refresh]
    split
    · exact other
    · exact nofun
  simp only [Platform.serve]
  rw [if_pos unowned]
  refine ⟨rfl, rfl, rfl, rfl, fun armed => ?_, fun j active => ?_⟩
  · simp only [Platform.leave, Platform.refresh, armed, if_true]
  · simp only [Platform.leave, Platform.refresh, active, Bool.and_true]
    cases perScope : s.perScope with
    | true => rfl
    | false => exact (holds.unscoped perScope j).symm

/-- Browser, robot client and scope clients exclude each other; a forwarded command is its owner's; and a
release by another client changes nothing but holds of what the robot has lost. -/
theorem one_controller (perScope : Bool) (ran : run step { perScope } ls = some t) :
    (∀ ws, t.owner = some ws → t.robotOwner = none ∧ ∀ k, t.robotOwners k = none) ∧
    (∀ owner, t.robotOwner = some owner → ∀ k, t.robotOwners k = none) ∧
    (∀ scope holder, t.stage = .commanding scope holder → ∀ k, covers scope k = true → t.since k = some holder) ∧
    (∀ request outcome changed u scope owner, t.stage = .refreshing request →
      step t (.finish outcome changed) = some u → u.stage = .reading scope owner →
      request.scope = scope ∧ request.owner = owner ∧ t.armed = true ∧ ∀ k, scope = some k → t.active k = true) ∧
    (∀ k owner fit outcome changed u, t.stage = .refreshing ⟨.release, some k, owner, fit⟩ →
      t.robotOwners k ≠ some owner → step t (.finish outcome changed) = some u →
      u.stage = .idle ∧ u.owner = t.owner ∧ u.active = t.active ∧ u.since = t.since ∧
        (t.armed = true → u.robotOwner = t.robotOwner) ∧
        ∀ j, t.active j = true → u.robotOwners j = t.robotOwners j) ∧
    (Along step Undisturbed { perScope } ls → t.stage = .idle → ∀ k, t.active k = true → t.heldBy k = true) := by
  obtain ⟨holds, fits⟩ := inv_run perScope ran
  refine ⟨fun ws here => ⟨(holds.browser ws here).1, (holds.browser ws here).2.1⟩,
    fun owner here => (holds.whole owner here).1, fun scope holder here => ?_,
    fun request outcome changed u scope owner here next => reading_seen here next,
    fun k owner fit outcome changed u here other next => release_of_other holds here other next,
    fun along idle => ?_⟩
  · simp only [Fits, here] at fits
    exact fits.1
  · exact (calm_run perScope along ran).of_stage (by rw [idle]; exact nofun)

def baseCommand : List Label :=
  [.request ⟨.arm, some .base, "a", true⟩, .finish .ok fun _ => false, .finish .ok fun _ => true,
    .request ⟨.command, some .base, "a", true⟩, .finish .ok fun _ => false]

theorem one_controller_command : ∃ t, run step { perScope := true } (baseCommand ++ [.body .valid]) = some t ∧
      t.stage = .commanding (some .base) (.scope "a") ∧ t.active .base = true ∧
      t.since .base = some (.scope "a") := by
  obtain ⟨t, ran, here, active⟩ : ∃ t, run step { perScope := true } (baseCommand ++ [.body .valid]) = some t ∧
      t.stage = .commanding (some .base) (.scope "a") ∧ t.active .base = true := ⟨_, rfl, rfl, rfl⟩
  exact ⟨t, ran, here, active, (one_controller true ran).2.2.1 _ _ here .base rfl⟩

/-- The watchdog takes the base after the request has looked, and the command is forwarded. -/
theorem command_after_watchdog :
    ∃ t u, run step { perScope := true } (baseCommand ++ [.watchdog fun _ => true]) = some t ∧
      t.active .base = false ∧ step t (.body .valid) = some u ∧
      u.stage = .commanding (some .base) (.scope "a") :=
  ⟨_, _, rfl, rfl, rfl, rfl⟩

end EmbodiRun.Xlerobot.Ownership
