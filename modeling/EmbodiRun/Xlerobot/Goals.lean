/-
# Xlerobot.Goals -- the goals that the motors are given over a run

* `targets_rate_limited`: **the targets of a joint are as far apart as its speed allows**;
* `goals_calibrated`: **every goal is in its calibrated range where each position that is held
  unclamped is**.
-/
import EmbodiRun.Xlerobot.Commands

namespace EmbodiRun.Xlerobot.Commands

open Transition List Commands
open Hardware (Motor Scope Selection Reply armNames)

/-! ## The goals of a run -/

section

variable {settings : Settings} {env again : Env} {s t : Robot} {m : Motor} {raw : Int}
  {names : List Motor} {fallback : Motor → Option Int} {selection : Selection} {goals : List (Motor × Int)}

variable (settings s) in
/-- All goals, and what may be held next, are in their ranges. -/
structure Calibrated : Prop where
  held : ∀ m raw, s.heldRaw m = some raw → settings.InRange m raw
  gripper : ∀ m raw, s.lastGripperGoalRaw m = some raw → settings.InRange m raw
  goals : ∀ w ∈ s.writes, ∀ raw, w.goal = .position raw → settings.InRange w.motor raw

open Calibrated

theorem Calibrated.write (inv : Calibrated settings s) {goal : Goal} (accepted : Bool)
    (fits : ∀ raw, goal = .position raw → settings.InRange m raw) :
    Calibrated settings (write s m goal accepted) := by
  refine ⟨inv.held, inv.gripper, fun w member raw is => ?_⟩
  rcases List.mem_cons.mp member with rfl | before
  · exact fits raw is
  · exact inv.goals w before raw is

theorem Calibrated.hold (inv : Calibrated settings s) (fits : settings.InRange m raw) :
    Calibrated settings (hold env s m raw) := by
  have kept : Calibrated settings { s with
      heldRaw := Function.update s.heldRaw m (some raw)
      lastGripperGoalRaw := if isGripper m then Function.update s.lastGripperGoalRaw m (some raw)
        else s.lastGripperGoalRaw } := by
    refine ⟨fun n => ?_, fun n => ?_, inv.goals⟩
    · by_cases same : n = m
      · subst same
        simpa using fits
      · simpa [same] using inv.held n
    · by_cases same : n = m
      · subst same
        dsimp only
        split
        · simpa using fits
        · exact inv.gripper n
      · dsimp only
        split
        · simpa [same] using inv.gripper n
        · exact inv.gripper n
  exact @Calibrated.write _ _ _ kept (.position raw) _ fun _ is => by cases is; exact fits

theorem Calibrated.holds (inv : Calibrated settings s) (fits : ∀ g ∈ goals, settings.InRange g.1 g.2) :
    Calibrated settings (goals.foldl (fun s g => Commands.hold env s g.1 g.2) s) := by
  induction goals generalizing s with
  | nil => exact inv
  | cons g rest ih =>
    exact ih (inv.hold (fits g mem_cons_self)) fun g member => fits g (mem_cons_of_mem _ member)

theorem armGoals_fit (controlled : List Motor) : ∀ g ∈ armGoals settings env s controlled,
    settings.InRange g.1 g.2 := by
  intro g member
  obtain ⟨m, -, made⟩ := List.mem_filterMap.mp member
  obtain ⟨c, calibrated, rfl⟩ := Option.map_eq_some_iff.mp made
  intro c' calibrated'
  cases calibrated.symm.trans calibrated'
  exact c.clamp_holds _

/-- A position that is read is in the range of its motor. -/
def Settings.Reads (settings : Settings) (reply : Motor → Reply) (m : Motor) : Prop :=
  ∀ n, reply m = .value n → settings.InRange m n

theorem Calibrated.bestEffortHold (inv : Calibrated settings s)
    (fits : ∀ m raw, fallback m = some raw → settings.InRange m raw)
    (reads : ∀ m ∈ names, env.bus m.side → m.isWheel = false →
      (isGripper m → s.lastGripperGoalRaw m = none) → settings.Reads env.rollback m) :
    Calibrated settings (bestEffortHold env fallback names s).2 := by
  induction names generalizing s with
  | nil => exact inv
  | cons m rest ih =>
    have later (n : Motor) (member : n ∈ rest) := reads n (mem_cons_of_mem _ member)
    rw [bestEffortHold]
    split
    · exact ih inv later
    rename_i bus
    split
    · exact ih (inv.write _ (by simp)) later
    rename_i joint
    split
    · exact inv
    split
    · exact ih inv later
    · rename_i goal held
      refine ih (inv.write _ fun raw is => ?_) later
      obtain rfl := Goal.position.inj is
      obtain ⟨n, read, made⟩ := Option.map_eq_some_iff.mp held
      have here := reads m mem_cons_self (by simpa using bus) (by simpa using joint)
      have plain (unkept : isGripper m → s.lastGripperGoalRaw m = none) : settings.InRange m n := by
        split at read
        · rename_i replied
          cases read
          exact here unkept _ replied
        · exact fits m n read
        · cases read
        · cases read
      split at made
      · cases kept : s.lastGripperGoalRaw m with
        | none =>
          rw [kept] at made
          exact made ▸ plain fun _ => kept
        | some goal =>
          rw [kept] at made
          exact made ▸ inv.gripper m goal kept
      · rename_i other
        exact made ▸ plain fun gripper => absurd gripper other

theorem Calibrated.failClosed (inv : Calibrated settings s)
    (fits : ∀ m raw, fallback m = some raw → settings.InRange m raw)
    (reads : ∀ m ∈ settings.names .all, env.bus m.side → m.isWheel = false →
      (isGripper m → s.lastGripperGoalRaw m = none) → settings.Reads env.rollback m) :
    Calibrated settings (failClosed settings env s fallback).2 := by
  have held := inv.bestEffortHold fits fun m member => reads m (mem_bySide.mp member)
  unfold Commands.failClosed
  split <;> (rename_i raised; rw [raised] at held)
  · exact held
  · exact ⟨held.held, held.gripper, held.goals⟩

/-- A stop reads the grippers in range that it knows no goal of. -/
def StopReads (settings : Settings) (env : Env) (s : Robot) (selection : Selection) : Prop :=
  ∀ m ∈ settings.names selection, env.bus m.side → isGripper m → s.lastGripperGoalRaw m = none →
    settings.Reads env.present m

theorem Calibrated.stopWrites (inv : Calibrated settings s)
    (reads : ∀ m ∈ names, env.bus m.side → isGripper m → s.lastGripperGoalRaw m = none →
      settings.Reads env.present m) :
    Calibrated settings (stopWrites settings env names s).2 := by
  induction names generalizing s with
  | nil => exact inv
  | cons m rest ih =>
    have later (n : Motor) (member : n ∈ rest) := reads n (mem_cons_of_mem _ member)
    rw [stopWrites]
    split
    · exact ih inv later
    rename_i bus
    split
    · exact ih (inv.write _ nofun) later
    split
    · exact inv
    split
    · exact ih inv later
    · rename_i goal held
      have fits : settings.InRange m goal := by
        obtain ⟨n, read, rfl⟩ := Option.map_eq_some_iff.mp held
        split
        · rename_i gripper
          cases kept : s.lastGripperGoalRaw m with
          | none =>
            split at read
            · rename_i replied
              cases read
              exact reads m mem_cons_self (by simpa using bus) gripper kept _ replied
            · exact inv.held m n read
            · cases read
            · cases read
          | some goal => exact inv.gripper m goal kept
        · intro c calibrated
          simp only [calibrated]
          exact c.clamp_holds n
      have written := @Calibrated.write _ _ m inv (.position goal) (env.writable m)
        fun _ is => by cases is; exact fits
      dsimp only
      split
      · refine ih ⟨fun n => ?_, written.gripper, written.goals⟩ later
        by_cases same : n = m
        · subst same
          simpa using fits
        · simpa [same] using written.held n
      · exact ih written later

theorem Calibrated.release (inv : Calibrated settings s) : Calibrated settings (release settings s selection) :=
  ⟨inv.held, inv.gripper, inv.goals⟩

theorem Calibrated.stopLocked (inv : Calibrated settings s) {writes : Bool}
    (reads : writes → StopReads settings env s selection) :
    Calibrated settings (stopLocked settings env s writes selection).2 := by
  unfold Commands.stopLocked
  cases writes with
  | true => exact inv.release.stopWrites fun m member => reads rfl m (mem_bySide.mp member)
  | false => exact inv.release

variable (settings env) in
/-- What a stop and its fallback may read. -/
def FallbackReads (again : Env) (s : Robot) (writes : Bool) (selection : Selection) : Prop :=
  (writes → StopReads settings env s selection) ∧
    (env.confirmed = some false → (release settings s selection).armed → StopReads settings again s .all)

/-- The writes of a stop change the log and the goals that are held. -/
theorem stopWrites_eq : ∃ log held, (stopWrites settings env names s).2 =
    { s with writes := log, heldRaw := held } := by
  induction names generalizing s with
  | nil => exact ⟨_, _, rfl⟩
  | cons m rest ih =>
    rw [stopWrites]
    split
    · exact ih
    split
    · exact ih
    split
    · exact ⟨_, _, rfl⟩
    split
    · exact ih
    · dsimp only
      split <;> exact ih

theorem stopLocked_eq {writes raised} (stopped : stopLocked settings env s writes selection = (raised, t)) :
    (raised = false → env.confirmed ≠ none) ∧
      ∃ log held, t = { release settings s selection with writes := log, heldRaw := held } := by
  unfold stopLocked at stopped
  cases writes with
  | true =>
    obtain ⟨log, held, same⟩ := @stopWrites_eq settings env (release settings s selection)
      (bySide (settings.names selection))
    cases stopped
    exact ⟨by simp, log, held, same⟩
  | false =>
    cases stopped
    exact ⟨by simp, _, _, rfl⟩

theorem Calibrated.stopWithFallback (inv : Calibrated settings s) {writes : Bool}
    (reads : FallbackReads settings env again s writes selection) :
    Calibrated settings (stopWithFallback settings env s again writes selection).2 := by
  have first := inv.stopLocked reads.1
  unfold Commands.stopWithFallback
  rcases stopped : Commands.stopLocked settings env s writes selection with ⟨raised, t⟩
  rw [stopped] at first
  cases raised with
  | true => exact first
  | false =>
    dsimp only
    split
    · exact first
    · rename_i unsure
      obtain ⟨answered, log, held, rfl⟩ := stopLocked_eq stopped
      refine first.stopLocked fun _ => reads.2 ?_ ?_
      · cases confirmed : env.confirmed with
        | none => exact absurd confirmed (answered rfl)
        | some value => cases value <;> simp_all
      · simp_all

variable (settings) in
/-- The positions that a step holds as they are read are in their ranges. -/
def Tame (s : Robot) (l : Operation × Env) : Prop :=
  match l.1 with
  | .command given => ∀ action p, check settings l.2 s given = .ok (action, p) → l.2.failsAt < p.raw.length →
    ∀ m ∈ settings.names .all, l.2.bus m.side → m.isWheel = false →
      (isGripper m → s.lastGripperGoalRaw m = none) → settings.Reads l.2.rollback m
  | .arm selection => armRefused settings l.2 s selection = false → ∀ n, l.2.armRaises = some n →
    ∀ m ∈ settings.names .all, l.2.bus m.side → m.isWheel = false → (isGripper m → s.lastGripperGoalRaw m = none ∧
        ∀ g ∈ (armGoals settings l.2 s (settings.names selection)).take n, g.1 ≠ m) →
      settings.Reads l.2.rollback m
  | .stop again selection => s.closed = false →
    FallbackReads settings l.2 again s ((settings.names selection).any s.ownedTorqueNames) selection
  | .watchdog again scope => s.closed = false → s.activeScopes scope →
    FallbackReads settings l.2 again s true (selectionOf scope)
  | .close => s.closed = false → s.armed → StopReads settings l.2 s .all
  | .restore .. => True

theorem lookup_mem {β : Type} {l : List (Motor × β)} {x : β} (h : l.lookup m = some x) : (m, x) ∈ l := by
  obtain ⟨before, after, rfl, -⟩ := List.lookup_eq_some_iff.mp h
  simp

theorem Calibrated.command (inv : Calibrated settings s) {given : Option Action}
    (tame : Tame settings s (.command given, env)) :
    Calibrated settings (command settings env s given).2 := by
  have cases := @check_cases settings env s given
  unfold Commands.command
  cases checked : check settings env s given with
  | error => exact inv
  | ok r =>
    obtain ⟨action, p⟩ := r
    rw [checked] at cases
    obtain ⟨-, reported⟩ := cases
    have fits (m : Motor) (x : ℚ × Int) (member : (m, x) ∈ p.targets) : settings.InRange m x.2 := by
      obtain ⟨q, present, c, -, -, calibrated, -, -, holds, -⟩ := reported.targets m x.1 x.2 member
      intro c' calibrated'
      cases calibrated.symm.trans calibrated'
      exact holds
    have raw (g : Motor × Goal) (member : g ∈ p.raw) (raw : Int) (is : g.2 = .position raw) :
        settings.InRange g.1 raw := by
      rcases List.mem_append.mp member with target | wheel
      · obtain ⟨x, here, rfl⟩ := List.mem_map.mp target
        cases is
        exact fits x.1 x.2 here
      · split at wheel
        · cases wheel
        · rcases List.mem_cons.mp wheel with rfl | wheel
          · cases is
          · cases List.mem_singleton.mp wheel
            cases is
    have attempted : Calibrated settings (attempt env s p.raw) := by
      refine ⟨inv.held, inv.gripper, fun w member value is => ?_⟩
      rcases List.mem_append.mp member with member | before
      · rcases List.mem_append.mp member with failed | written
        · obtain ⟨g, next, rfl⟩ := Option.map_eq_some_iff.mp (Option.mem_toList.mp failed)
          exact raw g (mem_of_mem_drop (mem_of_mem_head? next)) value is
        · obtain ⟨g, here, rfl⟩ := List.mem_map.mp (List.mem_reverse.mp written)
          exact raw g (mem_of_mem_take here) value is
      · exact inv.goals w before value is
    dsimp only
    split
    · rename_i fails
      have held := attempted.failClosed inv.held (tame action p checked fails)
      split <;> (rename_i ended; rw [ended] at held; exact held)
    · refine ⟨fun m raw is => ?_, fun m raw is => ?_, attempted.goals⟩
      · cases found : p.targets.lookup m with
        | none => exact inv.held m raw (by simpa [accept, attempt, found] using is)
        | some x =>
          obtain rfl : x.2 = raw := by simpa [accept, found] using is
          exact fits m x (lookup_mem found)
      · cases found : p.targets.lookup m with
        | none => exact inv.gripper m raw (by simpa [accept, attempt, found] using is)
        | some x =>
          by_cases gripper : isGripper m
          · obtain rfl : x.2 = raw := by simpa [accept, found, gripper] using is
            exact fits m x (lookup_mem found)
          · exact inv.gripper m raw (by simpa [accept, attempt, found, gripper] using is)

theorem holds_gripper : (goals.foldl (fun s g => hold env s g.1 g.2) s).lastGripperGoalRaw m = none →
    isGripper m → s.lastGripperGoalRaw m = none ∧ ∀ g ∈ goals, g.1 ≠ m := by
  induction goals generalizing s with
  | nil => exact fun unkept _ => ⟨unkept, nofun⟩
  | cons g rest ih =>
    intro unkept gripper
    obtain ⟨before, others⟩ := ih unkept gripper
    have other : g.1 ≠ m := by
      rintro rfl
      simp [hold, write, gripper] at before
    refine ⟨?_, List.forall_mem_cons.mpr ⟨other, others⟩⟩
    have other := other.symm
    unfold hold write at before
    dsimp only at before
    split at before
    · simpa [other] using before
    · exact before

theorem Calibrated.arm (inv : Calibrated settings s) (tame : Tame settings s (.arm selection, env)) :
    Calibrated settings (arm settings env s selection) := by
  unfold Commands.arm
  dsimp only
  split
  · exact inv
  rename_i admitted
  have fits := @armGoals_fit settings env s (settings.names selection)
  split
  · rename_i n raises
    have begun := @Calibrated.holds settings env s ((armGoals settings env s (settings.names selection)).take n)
      inv fun g member => fits g (mem_of_mem_take member)
    refine @Calibrated.failClosed _ _ (own _ _) _ ⟨begun.held, begun.gripper, begun.goals⟩
      (fun m raw is => ?_) fun m controlled bus joint unkept => ?_
    · cases found : (armGoals settings env s (settings.names selection)).lookup m with
      | none => exact begun.held m raw (by simpa [found, own] using is)
      | some goal =>
        obtain rfl : goal = raw := by simpa [found] using is
        exact fits _ (lookup_mem found)
    · exact tame (by simpa using admitted) n raises m controlled bus joint fun gripper =>
        holds_gripper (unkept gripper) gripper
  · have held := @Calibrated.holds settings env s _ inv fits
    exact ⟨held.held, held.gripper, held.goals⟩

theorem Calibrated.restore (inv : Calibrated settings s) (stops adopts : Bool) (goals : List (Motor × Int)) :
    Calibrated settings (restore settings s stops adopts goals) := by
  unfold Commands.restore
  dsimp only
  split
  · exact inv
  rename_i admitted
  have fits (m : Motor) (raw : Int) (found : goals.lookup m = some raw) : settings.InRange m raw := by
    intro c calibrated
    by_contra outside
    have out : goals.any fun g => (settings.calibration g.1).all fun c => !decide (c.Holds g.2) :=
      List.any_eq_true.mpr ⟨_, lookup_mem found, by simpa [calibrated] using outside⟩
    exact admitted (by simp [out])
  split
  · refine ⟨fits, fun m raw is => ?_, ?_⟩
    · by_cases gripper : isGripper m
      · exact fits m raw (by simpa [own, gripper] using is)
      · simp [own, gripper] at is
    · cases stops <;> exact inv.goals
  · cases stops
    · exact inv
    · exact inv.release

theorem Calibrated.perform {l : Operation × Env} (inv : Calibrated settings s) (tame : Tame settings s l) :
    Calibrated settings (perform settings l.2 s l.1) := by
  obtain ⟨operation, env⟩ := l
  cases operation with
  | command => exact inv.command tame
  | arm => exact inv.arm tame
  | stop again selection =>
    unfold Commands.perform stop
    dsimp only
    split
    · exact inv
    · rename_i open'
      exact inv.stopWithFallback (tame (by simpa using open'))
  | watchdog again scope =>
    unfold Commands.perform watchdog
    dsimp only
    split
    · exact inv
    · rename_i runs
      simp only [Bool.or_eq_true, Bool.not_eq_true', not_or, Bool.not_eq_true, Bool.not_eq_false] at runs
      have stopped := inv.stopWithFallback (tame runs.1 runs.2)
      split <;> (rename_i ended; rw [ended] at stopped)
      · exact ⟨stopped.held, stopped.gripper, stopped.goals⟩
      · exact stopped
  | close =>
    unfold Commands.perform close
    dsimp only
    split
    · exact inv
    · rename_i open'
      split
      · rename_i armed
        have stopped := @Calibrated.stopLocked settings env s .all inv true fun _ =>
          tame (by simpa using open') armed
        exact ⟨stopped.held, stopped.gripper, stopped.goals⟩
      · exact ⟨inv.held, inv.gripper, inv.goals⟩
  | restore stops adopts goals => exact inv.restore stops adopts goals

theorem Calibrated.step {l : Operation × Env} (inv : Calibrated settings s) (tame : Tame settings s l)
    (next : step settings s l = some t) : Calibrated settings t := by
  have kept := inv.perform tame
  cases (Option.ite_none_right_eq_some.mp next).2
  exact ⟨kept.held, kept.gripper, kept.goals⟩

end

/-- **Goals** are in the calibrated range, where no position is held as it is read outside of it. -/
theorem goals_calibrated (settings : Settings) {ls : List (Operation × Env)} {s : Robot}
    (ran : run (step settings) {} ls = some s) (tame : Along (step settings) (Tame settings) {} ls)
    {w : Write} (written : w ∈ s.writes) {raw : Int} (position : w.goal = .position raw)
    {c : Calibration} (calibrated : settings.calibration w.motor = some c) :
    c.rangeMin ≤ raw ∧ raw ≤ c.rangeMax := by
  have inv : Calibrated settings s := run_induction (fun s l t tame inv next => Calibrated.step inv tame next)
    tame ⟨nofun, nofun, nofun⟩ ran
  exact inv.goals w written raw position c calibrated

/-! ## The targets of an armed period -/

section

variable {settings : Settings} {env again : Env} {s t : Robot} {m : Motor} {now : ℚ}
  {names : List Motor} {fallback : Motor → Option Int} {selection : Selection}

/-- What `math.isclose` lets a gripper's target differ by. -/
def slack (m : Motor) : ℚ := if isGripper m then 1 / 1000000 else 0

/-- A target and the one before it. -/
def Settings.Near (settings : Settings) (m : Motor) (later earlier : ℚ × ℚ) : Prop :=
  earlier.1 ≤ later.1 ∧ |later.2 - earlier.2| ≤ settings.speed m * (later.1 - earlier.1) + slack m

theorem Settings.speed_pos (settings : Settings) (m : Motor) : 0 < settings.speed m := by
  unfold Settings.speed
  split
  · exact settings.headPositive
  split
  · exact settings.gripperPositive
  · exact settings.jointPositive

theorem slack_nonneg (m : Motor) : 0 ≤ slack m := by
  unfold slack
  split <;> norm_num

theorem rateBound_near (previous target : ℚ) : |rateBound settings s m now previous target - previous| ≤
    settings.speed m * max 0 (now - s.clock m) + slack m := by
  have delta : 0 ≤ settings.speed m * max 0 (now - s.clock m) :=
    mul_nonneg (settings.speed_pos m).le (le_max_left _ _)
  have free := slack_nonneg m
  unfold rateBound
  dsimp only
  split
  · rename_i close
    simp only [slack, close.1, if_true]
    linarith [close.2]
  · rw [abs_le]
    constructor
    · linarith [le_max_left (previous - settings.speed m * max 0 (now - s.clock m))
        (min (previous + settings.speed m * max 0 (now - s.clock m)) target)]
    · linarith [max_le (by linarith : previous - settings.speed m * max 0 (now - s.clock m) ≤
        previous + settings.speed m * max 0 (now - s.clock m)) (min_le_left _ target)]

/-- Targets that are each near the one before are as far apart as their times allow. -/
theorem near_apart {newer between older : List (ℚ × ℚ)} {a b : ℚ × ℚ}
    (near : (newer ++ a :: between ++ b :: older).IsChain (settings.Near m)) :
    b.1 ≤ a.1 ∧ |a.2 - b.2| ≤ settings.speed m * (a.1 - b.1) + slack m * (between.length + 1) := by
  have chain : (a :: (between ++ b :: older)).IsChain (settings.Near m) := by
    rw [append_assoc] at near
    exact near.right_of_append
  clear near
  induction between generalizing a with
  | nil =>
    obtain ⟨order, near⟩ := (List.isChain_cons_cons.mp chain).1
    exact ⟨order, by simpa using near⟩
  | cons c rest ih =>
    obtain ⟨⟨order, near⟩, tail⟩ := List.isChain_cons_cons.mp chain
    obtain ⟨before, apart⟩ := ih tail
    refine ⟨before.trans order, ?_⟩
    calc |a.2 - b.2| ≤ |a.2 - c.2| + |c.2 - b.2| := abs_sub_le _ _ _
      _ ≤ settings.speed m * (a.1 - c.1) + slack m +
          (settings.speed m * (c.1 - b.1) + slack m * (rest.length + 1)) := add_le_add near apart
      _ = settings.speed m * (a.1 - b.1) + slack m * ((c :: rest).length + 1) := by
        push_cast [length_cons]
        ring

variable (settings) in
/-- The targets of each joint are near each other, and the newest is the one a command starts from. -/
structure Paced (now : ℚ) (s : Robot) : Prop where
  near : ∀ m, (s.given m).IsChain (settings.Near m)
  newest : ∀ m x older, m.isWheel = false → s.given m = x :: older →
    s.lastCommandTargets m = some x.2 ∧ x.1 ≤ s.clock m ∧ x.1 ≤ now
  begun : ∀ m ∈ settings.names .all, m.isWheel = false → s.activeScopes m.scope → s.given m ≠ []

open Paced

theorem Paced.later {later : ℚ} (inv : Paced settings now s) (order : now ≤ later) : Paced settings later s :=
  ⟨inv.near, fun m x older joint is =>
    let ⟨target, clock, before⟩ := inv.newest m x older joint is
    ⟨target, clock, before.trans order⟩, inv.begun⟩

theorem Paced.cleared {armed : Bool} : Paced settings now { s with
    armed := armed, activeScopes := fun _ => false, scopeCommandMono := fun _ => none
    given := fun _ => [] } :=
  ⟨fun _ => .nil, by simp, by simp⟩

theorem scope_of_joint (joint : m.isWheel = false) (other : m ≠ .headTilt) : m.scope = .arms := by
  cases m <;> simp_all [Motor.isWheel, Motor.scope]

theorem Paced.release (inv : Paced settings now s) : Paced settings now (release settings s selection) := by
  refine ⟨fun m => ?_, fun m x older joint is => ?_, fun m member joint active => ?_⟩
  · unfold Commands.release
    dsimp only
    split
    · exact .nil
    · exact inv.near m
  · unfold Commands.release at is
    dsimp only at is
    split at is
    · cases is
    · rename_i held
      obtain ⟨target, clock, before⟩ := inv.newest m x older joint is
      refine ⟨target, ?_, before⟩
      unfold Robot.clock at clock ⊢
      by_cases head : m = .headTilt
      · simpa [head, Commands.release] using clock
      · rw [scope_of_joint joint head] at held
        simpa [head, Commands.release, held] using clock
  · simp only [Commands.release, Bool.and_eq_true, Bool.not_eq_true'] at active ⊢
    simpa [active.2] using inv.begun m member joint active.1

theorem Paced.stopLocked (inv : Paced settings now s) (writes : Bool) :
    Paced settings now (stopLocked settings env s writes selection).2 := by
  obtain ⟨-, log, held, same⟩ := @stopLocked_eq settings env s
    (Commands.stopLocked settings env s writes selection).2 selection writes _ rfl
  rw [same]
  exact ⟨inv.release.near, inv.release.newest, inv.release.begun⟩

theorem Paced.stopWithFallback (inv : Paced settings now s) (writes : Bool) :
    Paced settings now (stopWithFallback settings env s again writes selection).2 := by
  have first := @Paced.stopLocked settings env s now selection inv writes
  unfold Commands.stopWithFallback
  split <;> (rename_i stopped; rw [stopped] at first)
  · exact first
  · split
    · exact first
    · exact first.stopLocked true

theorem bestEffortHold_eq : ∃ log, (bestEffortHold env fallback names s).2 = { s with writes := log } := by
  induction names generalizing s with
  | nil => exact ⟨_, rfl⟩
  | cons m rest ih =>
    rw [bestEffortHold]
    split
    · exact ih
    split
    · exact ih
    split
    · exact ⟨_, rfl⟩
    split <;> exact ih

theorem Paced.failClosed (inv : Paced settings now s) :
    Paced settings now (failClosed settings env s fallback).2 := by
  obtain ⟨log, same⟩ := @bestEffortHold_eq env s (bySide (settings.names .all)) fallback
  unfold Commands.failClosed
  split <;> (rename_i held; rw [held] at same)
  · rw [same]
    exact ⟨inv.near, inv.newest, inv.begun⟩
  · exact cleared

theorem joint_of_key {action : Action} (key : m ∈ action.keys settings) : m.isWheel = false := by
  have named := (List.mem_filter.mp key).1
  cases m <;> simp_all [positionNames, armNames, Motor.isWheel]

theorem Paced.command (inv : Paced settings now s) (order : now ≤ env.now) (given : Option Action) :
    Paced settings env.now (command settings env s given).2 := by
  have cases := @check_cases settings env s given
  unfold Commands.command
  cases checked : check settings env s given with
  | error => exact inv.later order
  | ok r =>
    obtain ⟨action, p⟩ := r
    rw [checked] at cases
    obtain ⟨-, reported⟩ := cases
    have attempted : Paced settings env.now (attempt env s p.raw) :=
      ⟨inv.near, (inv.later order).newest, inv.begun⟩
    dsimp only
    split
    · have held := @Paced.failClosed settings env _ _ s.heldRaw attempted
      split <;> (rename_i ended; rw [ended] at held; exact held)
    · have clocks (m : Motor) {x : ℚ × ℚ} (clock : x.1 ≤ s.clock m) (before : x.1 ≤ env.now) :
          x.1 ≤ (accept settings env (attempt env s p.raw) action p).clock m := by
        unfold Robot.clock at clock ⊢
        unfold accept
        dsimp only
        split
        · rename_i head
          rw [if_pos head] at clock
          split <;> assumption
        · rename_i head
          rw [if_neg head] at clock
          split <;> assumption
      refine ⟨fun m => ?_, fun m x older joint is => ?_, fun m member joint active => ?_⟩
      · cases found : p.targets.lookup m with
        | none => simpa [accept, attempt, found] using inv.near m
        | some y =>
          obtain ⟨q, present, c, -, -, -, target, -⟩ := reported.targets m y.1 y.2 (lookup_mem found)
          have joint : m.isWheel = false := by
            have key : m ∈ action.keys settings := reported.keys ▸ mem_map_of_mem (lookup_mem found)
            exact joint_of_key key
          cases before : s.given m with
          | nil => simp [accept, attempt, found, before]
          | cons x older =>
            obtain ⟨last, clock, order'⟩ := inv.newest m x older joint before
            have near := inv.near m
            rw [before] at near
            simp only [accept, attempt, found, before]
            refine List.isChain_cons_cons.mpr ⟨⟨order'.trans order, ?_⟩, near⟩
            rw [last] at target
            have bound := @rateBound_near settings s m env.now x.2 q
            rw [target]
            have elapsed : max 0 (env.now - s.clock m) ≤ env.now - x.1 :=
              max_le (by linarith) (by linarith)
            have := mul_le_mul_of_nonneg_left elapsed (settings.speed_pos m).le
            exact bound.trans (by linarith)
      · cases found : p.targets.lookup m with
        | none =>
          simp only [accept, attempt, found] at is
          obtain ⟨target, clock, before⟩ := inv.newest m x older joint is
          exact ⟨by simpa [accept, attempt, found] using target, clocks m clock (before.trans order),
            before.trans order⟩
        | some y =>
          simp only [accept, attempt, found, List.cons.injEq] at is
          obtain ⟨rfl, -⟩ := is
          refine ⟨by simp [accept, found], ?_, le_rfl⟩
          have member := lookup_mem found
          unfold Robot.clock accept
          dsimp only
          split
          · rename_i head
            rw [if_pos (List.any_eq_true.mpr ⟨_, member, by simpa using head⟩)]
          · rename_i head
            rw [if_pos (List.any_eq_true.mpr ⟨_, member, by simpa using head⟩)]
      · cases found : p.targets.lookup m with
        | none => simpa [accept, attempt, found] using inv.begun m member joint active
        | some => simp [accept, found]

theorem holds_eq (goals : List (Motor × Int)) : ∃ log held gripper, goals.foldl (fun s g => hold env s g.1 g.2) s =
      { s with writes := log, heldRaw := held, lastGripperGoalRaw := gripper } := by
  induction goals generalizing s with
  | nil => exact ⟨_, _, _, rfl⟩
  | cons g rest ih => exact @ih (hold env s g.1 g.2)

theorem Paced.arm (inv : Paced settings now s) (order : now ≤ env.now) :
    Paced settings env.now (arm settings env s selection) := by
  unfold Commands.arm
  dsimp only
  split
  · exact inv.later order
  rename_i admitted
  split
  · rename_i n raises
    obtain ⟨log, held, gripper, same⟩ := @holds_eq env s ((armGoals settings env s (settings.names selection)).take n)
    rw [same]
    refine failClosed ⟨inv.near, (inv.later order).newest, inv.begun⟩
  · obtain ⟨log, held, gripper, same⟩ := @holds_eq env s (armGoals settings env s (settings.names selection))
    rw [same]
    set goals := armGoals settings env s (settings.names selection)
    refine ⟨fun m => ?_, fun m x older joint is => ?_, fun m member joint active => ?_⟩
    · cases found : heldValue settings goals m with
      | none => simpa [found] using inv.near m
      | some => simp [found]
    · cases found : heldValue settings goals m with
      | none =>
        simp only [found] at is
        obtain ⟨target, clock, before⟩ := inv.newest m x older joint is
        refine ⟨by simpa [own, found] using target, ?_, before.trans order⟩
        unfold Robot.clock at clock ⊢
        dsimp only [own]
        split
        · rename_i head
          rw [if_pos head] at clock
          split
          · exact before.trans order
          · exact clock
        · rename_i head
          rw [if_neg head] at clock
          split
          · exact before.trans order
          · exact clock
      | some target =>
        simp only [found, List.cons.injEq] at is
        obtain ⟨rfl, -⟩ := is
        refine ⟨by simp [found], ?_, le_rfl⟩
        obtain ⟨raw, goal, -⟩ := Option.bind_eq_some_iff.mp found
        unfold Robot.clock
        dsimp only
        split
        · rename_i head
          rw [if_pos (List.any_eq_true.mpr ⟨_, lookup_mem goal, by simpa using head⟩)]
        · rename_i head
          rw [if_pos (List.any_eq_true.mpr ⟨_, lookup_mem goal, by simpa using head⟩)]
    · cases found : heldValue settings goals m with
      | some => simp [found]
      | none =>
        rcases Bool.or_eq_true_iff.mp active with before | asked
        · simpa [own, found] using inv.begun m member joint before
        · have listed := Hardware.mem_of_scopes member asked
          -- every joint that is armed is calibrated, and has a goal
          obtain ⟨c, calibrated⟩ : ∃ c, settings.calibration m = some c := by
            cases calibrated : settings.calibration m with
            | some c => exact ⟨c, rfl⟩
            | none =>
              refine absurd ?_ admitted
              have : (settings.names selection).any fun m => (settings.calibration m).isNone :=
                List.any_eq_true.mpr ⟨m, listed, by simp [calibrated]⟩
              simp [armRefused, this]
          have goal : (goals.lookup m).isSome := by
            rw [lookup_isSome_iff]
            refine ⟨_, List.mem_filterMap.mpr ⟨m, List.mem_filter.mpr ⟨listed, by simp [joint]⟩,
              by rw [calibrated]; rfl⟩, by simp⟩
          obtain ⟨raw, goal⟩ := Option.isSome_iff_exists.mp goal
          simp [heldValue, goal, calibrated] at found

theorem Paced.perform {l : Operation × Env} (inv : Paced settings now s) (order : now ≤ l.2.now) :
    Paced settings l.2.now (perform settings l.2 s l.1) := by
  obtain ⟨operation, env⟩ := l
  have inv' := inv.later order
  cases operation with
  | command given => exact inv.command order given
  | arm => exact inv.arm order
  | stop =>
    unfold Commands.perform stop
    dsimp only
    split
    · exact inv'
    · exact inv'.stopWithFallback _
  | watchdog again scope =>
    unfold Commands.perform watchdog
    dsimp only
    split
    · exact inv'
    · split
      · exact cleared
      · rename_i stopped
        have kept := @Paced.stopWithFallback settings env again s _ (selectionOf scope) inv' true
        rwa [stopped] at kept
  | close =>
    unfold Commands.perform close
    dsimp only
    split
    · exact inv'
    · split
      · have stopped := @Paced.stopLocked settings env s _ .all inv' true
        exact ⟨stopped.near, stopped.newest, stopped.begun⟩
      · exact ⟨inv'.near, inv'.newest, inv'.begun⟩
  | restore stops =>
    have released : Paced settings env.now (if stops then Commands.release settings s .all else s) := by
      split
      · exact inv'.release
      · exact inv'
    unfold Commands.perform restore
    dsimp only
    split
    · exact inv'
    split
    · exact ⟨released.near, released.newest, released.begun⟩
    · exact released

theorem Paced.step {l : Operation × Env} (inv : Paced settings s.now s) (next : step settings s l = some t) :
    Paced settings t.now t := by
  obtain ⟨order, same⟩ := Option.ite_none_right_eq_some.mp next
  have kept := inv.perform order
  cases same
  exact ⟨kept.near, kept.newest, kept.begun⟩

end

/-- **Targets** of an armed joint move no faster than its speed, but for the differences of the gripper. -/
theorem targets_rate_limited (settings : Settings) {ls : List (Operation × Env)} {s : Robot}
    (ran : run (step settings) {} ls = some s) :
    (∀ m newer between older t1 x1 t2 x2, s.given m = newer ++ (t2, x2) :: between ++ (t1, x1) :: older →
      t1 ≤ t2 ∧ |x2 - x1| ≤ settings.speed m * (t2 - t1) + slack m * (between.length + 1)) ∧
    ∀ m ∈ settings.names .all, m.isWheel = false → s.activeScopes m.scope → s.given m ≠ [] := by
  have inv : Paced settings s.now s :=
    @reachable_induction _ _ (step settings) (fun s => Paced settings s.now s) _ _ (fun _ _ _ => Paced.step)
      ⟨ls, ran⟩ ⟨fun _ => .nil, by simp, by simp⟩
  refine ⟨fun m newer between older t1 x1 t2 x2 is => ?_, inv.begun⟩
  exact near_apart (is ▸ inv.near m)

/-- Where the first write of an arming raises, a joint just outside its range is held there. -/
theorem rollback_outside : ∃ s, run (step bench) {}
    [(.arm .arms, { still with armRaises := some 0, rollback := fun _ => .value 4010 })] = some s ∧
    ∃ w ∈ s.writes, w.goal = .position 4010 ∧ ∃ c, bench.calibration w.motor = some c ∧ c.rangeMax < 4010 :=
  ⟨_, rfl, ⟨.joint .left 0, .position 4010, true⟩, by decide +kernel, rfl, _, rfl, by decide⟩

/-- An arming that nothing interrupts. -/
theorem armed_calibrated : ∃ s, run (step bench) {} [(.arm .arms, still)] = some s ∧
    ∀ w ∈ s.writes, ∀ raw, w.goal = .position raw → 0 ≤ raw ∧ raw ≤ 4000 :=
  ⟨_, rfl, fun _ written _ position => @goals_calibrated bench [(.arm .arms, still)] _ rfl
    ⟨fun _ _ => nofun, fun _ _ => trivial⟩ _ written _ position _ rfl⟩

/-- The gripper is given two targets at once. -/
def squeezing : List (Operation × Env) :=
  [(.arm .arms, still), (.command (some (leftArm fun index => if index = 5 then 50 + 1 / 1000000 else 0)), still),
    (.command (some (leftArm fun index => if index = 5 then 50 + 2 / 1000000 else 0)), still)]

theorem squeezing_too_far : ∃ s, run (step bench) {} squeezing = some s ∧
    s.given (.joint .left 5) = [(0, 50 + 2 / 1000000), (0, 50 + 1 / 1000000), (0, 50)] ∧
    ¬ |(50 + 2 / 1000000 : ℚ) - 50| ≤ bench.speed (.joint .left 5) * (0 - 0) ∧
    ¬ |(50 + 2 / 1000000 : ℚ) - 50| ≤ 1 / 1000000 := by
  refine ⟨_, rfl, by decide +kernel, ?_, ?_⟩ <;> norm_num

theorem squeezing_limited : ∃ s, run (step bench) {} squeezing = some s ∧
    |(50 + 2 / 1000000 : ℚ) - 50| ≤ bench.speed (.joint .left 5) * (0 - 0) + slack (.joint .left 5) * 2 := by
  refine ⟨_, rfl, ?_⟩
  have := ((@targets_rate_limited bench squeezing _ rfl).1 (.joint .left 5) [] [(0, 50 + 1 / 1000000)] []
    0 50 0 (50 + 2 / 1000000) (by decide +kernel)).2
  norm_num at this ⊢
  exact this

end EmbodiRun.Xlerobot.Commands
