/-
# Devices.Inputs -- operator input, and what the bridge makes of it

`poll_once` takes the events of every source before it applies any of them.  An emergency stop
among them comes before everything else, but a source that fails ends the poll before anything is
applied.  What the sources, the arbiter and the action factory answer is the environment's; it may
look at all that has happened.

* `estop_kept_iff`: **an emergency stop is passed on in every poll of a run, and nothing is moved
  after it, exactly if no poll has one while a source fails**.
-/
import EmbodiRun.Data.Dict

namespace EmbodiRun.Devices.Inputs

open List Prod

open EmbodiRun.Data (Dict)

universe u

/-! ## Events -/

/-- `InputEventKind`. -/
inductive Kind where
  | acquire | release | deadman | axis | estop | resetEstop | quit
  deriving DecidableEq

section

-- The names of the controls, the values of events, floats, and actions.
variable (κ ω φ α : Type u)

/-- `InputEvent`. -/
structure Event where
  kind : Kind
  control : Option κ := none
  value : ω

/-- What a source reports: an exception, or a `str`. -/
inductive Report where
  | exception (shown : List Char)
  | text (message : List Char)

/-- `InputPollResult`. -/
structure PollResult where
  events : List (Event κ ω) := []
  error : Option Report := none
  eof : Bool := false

inductive Authority where
  | manual | estopLatched | other
  deriving DecidableEq

/-- What the bridge reads of `arbiter.snapshot()`; `lastError` is the text of a true value. -/
structure Snapshot where
  authority : Authority
  deadmanActive : Bool
  lastError : Option (List Char)

inductive Answer where
  | given (snapshot : Snapshot)
  | attributeError
  | raised

/-- The calls of the arbiter that change something; `axes` is what the action was built from. -/
inductive Call where
  | emergencyStop
  | hold
  | acquireManual
  | releaseManual
  | resetEmergencyStop
  | setDeadman (active : Bool)
  | submitManual (action : α) (axes : Dict κ φ)

inductive Entry where
  /-- `poll_once` is called. -/
  | began
  /-- A source was polled; it raised, or returned this. -/
  | polled (index : Nat) (result : Option (PollResult κ ω))
  | asked (answer : Answer)
  | handled (event : Event κ ω)
  /-- `_axes.clear()`. -/
  | cleared
  | call (call : Call κ φ α) (returned : Bool)

/-- What the sources, the arbiter and the factory do, after all that has happened; the newest entry
is the first. -/
structure Env where
  poll : List (Entry κ ω φ α) → Nat → Option (PollResult κ ω)
  snapshot : List (Entry κ ω φ α) → Answer
  returns : List (Entry κ ω φ α) → Call κ φ α → Bool
  /-- `float(value)`, which raises on some values. -/
  float : ω → Option φ
  /-- `bool(value)`. -/
  bool : ω → Bool
  /-- `action_factory`, which may raise. -/
  action : List (Entry κ ω φ α) → Dict κ φ → Option α

/-- `InputMonitorError`. -/
structure Failure where
  message : List Char
  sourceError : Report
  holdFailed : Bool

/-- `ControlInputBridge`, and the log of what it did. -/
structure Bridge where
  sources : Nat
  axes : Dict κ φ := .empty
  running : Bool := true
  failure : Option Failure := none
  log : List (Entry κ ω φ α) := []

end

def PollResult.ok {κ ω : Type u} (result : PollResult κ ω) : Bool := result.error.isNone && !result.eof

/-- `str(source_error)`. -/
def Report.shown : Report → List Char
  | .exception shown => shown
  | .text message => message

/-- `result.error or "input EOF"`. -/
def Report.orEof : Option Report → Report
  | none | some (.text []) => .text "input EOF".toList
  | some report => report

namespace Bridge

variable {κ ω φ α : Type u} [DecidableEq κ] (env : Env κ ω φ α) (s : Bridge κ ω φ α)

def note (entry : Entry κ ω φ α) : Bridge κ ω φ α := { s with log := entry :: s.log }

def call (c : Call κ φ α) : Bridge κ ω φ α × Bool :=
  (s.note (.call c (env.returns s.log c)), env.returns s.log c)

/-- `arbiter.snapshot()`. -/
def ask : Bridge κ ω φ α × Answer := (s.note (.asked (env.snapshot s.log)), env.snapshot s.log)

def clear : Bridge κ ω φ α := { s.note .cleared with axes := .empty }

def fail (error : Report) (eof hold : Bool) : Bridge κ ω φ α × PollResult κ ω :=
  let held := if hold then s.call env .hold else (s, true)
  let message := "input ".toList ++ (if eof then "EOF".toList else "failure".toList) ++ ": ".toList ++ error.shown
  ({ held.1 with failure := some ⟨message, error, !held.2⟩, running := false },
    { error := some (.exception message), eof := eof })

/-- `_remote_error`; it raises what `snapshot` raises, but for an `AttributeError`. -/
def remoteError : Bridge κ ω φ α × Option (Option (List Char)) :=
  match s.ask env with
  | (s, .given snapshot) => (s, some snapshot.lastError)
  | (s, .attributeError) => (s, some none)
  | (s, .raised) => (s, none)

/-- `_authority`; none where it raises. -/
def authority : Bridge κ ω φ α × Option Authority :=
  match s.ask env with
  | (s, .given snapshot) => (s, some snapshot.authority)
  | (s, _) => (s, none)

/-- One event of `_apply`, which raises or says whether the deadman has been released. -/
def handle (released : Bool) (event : Event κ ω) : Bridge κ ω φ α × Option Bool :=
  let s := s.note (.handled event)
  match event.kind with
  | .acquire =>
    match s.call env .acquireManual with
    | (s, true) => (s.clear, some released)
    | (s, false) => (s, none)
  | .release =>
    match s.authority env with
    | (s, none) => (s, none)
    | (s, some .manual) =>
      match s.call env .releaseManual with
      | (s, true) => (s.clear, some released)
      | (s, false) => (s, none)
    | (s, some _) => (s.clear, some released)
  | .resetEstop =>
    match s.clear.authority env with
    | (s, none) => (s, none)
    | (s, some .estopLatched) =>
      match s.call env .resetEmergencyStop with
      | (s, true) => (s, some released)
      | (s, false) => (s, none)
    | (s, some _) => (s, some released)
  | .deadman =>
    match s.authority env with
    | (s, none) => (s, none)
    | (s, some .manual) =>
      match s.call env (.setDeadman (env.bool event.value)) with
      | (s, true) => if env.bool event.value then (s, some released) else (s.clear, some true)
      | (s, false) => (s, none)
    | (s, some _) => (s, some released)
  | .axis =>
    if released then (s, some released)
    else match event.control with
      | none => (s, some released)
      | some control =>
        match s.authority env with
        | (s, none) => (s, none)
        | (s, some .manual) =>
          match env.float event.value with
          | some value => ({ s with axes := s.axes.set control value }, some released)
          | none => (s, none)
        | (s, some _) => (s, some released)
  | .estop | .quit => (s, some released)

/-- The loop of `_apply`. -/
def handleAll (s : Bridge κ ω φ α) (released : Bool) : List (Event κ ω) → Bridge κ ω φ α × Option Bool
  | [] => (s, some released)
  | event :: rest =>
    match s.handle env released event with
    | (s, some released) => handleAll s released rest
    | (s, none) => (s, none)

/-- `_ready_for_manual`; none where it raises. -/
def readyForManual : Bridge κ ω φ α × Option Bool :=
  match s.ask env with
  | (s, .given snapshot) => (s, some (snapshot.authority = .manual ∧ snapshot.deadmanActive))
  | (s, _) => (s, none)

/-- The end of `_apply`; none where it raises. -/
def submit (released : Bool) : Bridge κ ω φ α × Option Unit :=
  if released || s.axes.items.isEmpty then (s, some ())
  else match s.readyForManual env with
    | (s, none) => (s, none)
    | (s, some false) => (s, some ())
    | (s, some true) =>
      match env.action s.log s.axes with
      | none => (s, none)
      | some action =>
        match s.call env (.submitManual action s.axes) with
        | (s, true) => (s, some ())
        | (s, false) => (s, none)

/-- `_apply`; none where it raises. -/
def apply (events : List (Event κ ω)) : Bridge κ ω φ α × Option Unit :=
  if events.isEmpty then (s, some ())
  else if events.any (·.kind = .estop) then
    match s.call env .emergencyStop with
    | (s, true) => (s.clear, some ())
    | (s, false) => (s, none)
  else if events.any (·.kind = .quit) then
    match s.call env .hold with
    | (s, true) => ({ s.clear with running := false }, some ())
    | (s, false) => (s, none)
  else match s.handleAll env false events with
    | (s, some released) => s.submit env released
    | (s, none) => (s, none)

inductive Collected (κ ω : Type u) where
  | events (events : List (Event κ ω))
  | failed (error : Report) (eof : Bool)
  | raised

/-- The loop over the sources in `poll_once`; `left` of them are still to be polled. -/
def collect (s : Bridge κ ω φ α) (events : List (Event κ ω)) : Nat → Bridge κ ω φ α × Collected κ ω
  | 0 => (s, .events events)
  | left + 1 =>
    let index := s.sources - (left + 1)
    match env.poll s.log index with
    | none => (s.note (.polled index none), .raised)
    | some result =>
      if result.ok then collect (s.note (.polled index (some result))) (events ++ result.events) left
      else (s.note (.polled index (some result)), .failed (.orEof result.error) result.eof)

/-- `poll_once`; none where it raises. -/
def pollOnce : Bridge κ ω φ α × Option (PollResult κ ω) :=
  match (s.note .began).remoteError env with
  | (s, none) => (s, none)
  | (s, some (some error)) =>
    let failed := s.fail env (.text error) false false
    (failed.1, some failed.2)
  | (s, some none) =>
    match s.collect env [] s.sources with
    | (s, .raised) => (s, none)
    | (s, .failed error eof) =>
      let failed := s.fail env error eof true
      (failed.1, some failed.2)
    | (s, .events events) =>
      match s.apply env events with
      | (s, none) => (s, none)
      | (s, some ()) =>
        match s.remoteError env with
        | (s, none) => (s, none)
        | (s, some (some error)) =>
          let failed := s.fail env (.text error) false false
          (failed.1, some failed.2)
        | (s, some none) => (s, some { events })

def polls : Nat → Bridge κ ω φ α
  | 0 => s
  | n + 1 => ((polls n).pollOnce env).1

end Bridge

/-! ## What the log says -/

section

variable {κ ω φ α : Type u}

def Entry.isBegan : Entry κ ω φ α → Bool
  | .began => true
  | _ => false

def Entry.isCleared : Entry κ ω φ α → Bool
  | .cleared => true
  | _ => false

def batch (log : List (Entry κ ω φ α)) : List (Entry κ ω φ α) := log.takeWhile fun entry => !entry.isBegan

def sinceClear (log : List (Entry κ ω φ α)) : List (Entry κ ω φ α) := log.takeWhile fun entry => !entry.isCleared

def reported : List (Entry κ ω φ α) → Option Answer
  | [] => none
  | .asked answer :: _ => some answer
  | _ :: earlier => reported earlier

def Received (env : Env κ ω φ α) (log : List (Entry κ ω φ α)) (axes : Dict κ φ) : Prop :=
  ∀ item ∈ axes.items, ∃ event, .handled event ∈ sinceClear log ∧ event.kind = .axis ∧
    event.control = some item.1 ∧ env.float event.value = some item.2

def Unreleased (log : List (Entry κ ω φ α)) : Prop := ∀ returned, .call (.setDeadman false) returned ∉ batch log

structure Warranted (env : Env κ ω φ α) (log : List (Entry κ ω φ α)) (axes : Dict κ φ) : Prop where
  received : Received env log axes
  ready : ∃ snapshot, reported log = some (.given snapshot) ∧ snapshot.authority = .manual ∧
    snapshot.deadmanActive = true
  unreleased : Unreleased log

def Sound (env : Env κ ω φ α) : List (Entry κ ω φ α) → Prop
  | [] => True
  | .call (.submitManual _ axes) _ :: earlier => Warranted env earlier axes ∧ Sound env earlier
  | _ :: earlier => Sound env earlier

def Stopping (log : List (Entry κ ω φ α)) : Prop :=
  ∃ index result, .polled index (some result) ∈ log ∧ ∃ event ∈ result.events, event.kind = .estop

def Call.commands : Call κ φ α → Bool
  | .emergencyStop | .hold => false
  | .acquireManual | .releaseManual | .resetEmergencyStop | .setDeadman _ | .submitManual _ _ => true

/-- An emergency stop that a source returned in this poll was passed on, and no command made after it. -/
def StopKept (log : List (Entry κ ω φ α)) : Prop :=
  Stopping (batch log) → ∃ later returned earlier, batch log = later ++ .call .emergencyStop returned :: earlier ∧
    ∀ c answered, .call c answered ∈ later → c.commands = false

/-- If a source returned an emergency stop in this poll, every source that was polled is well. -/
def Well (log : List (Entry κ ω φ α)) : Prop :=
  Stopping (batch log) → ∀ index result, .polled index result ∈ batch log → ∃ r, result = some r ∧ r.ok = true

/-! ## Manual actions -/

/-- The bridge between two entries; where the deadman is not marked released, it was not. -/
structure Good (env : Env κ ω φ α) (released : Bool) (s : Bridge κ ω φ α) : Prop where
  sound : Sound env s.log
  received : Received env s.log s.axes
  unreleased : released = false → Unreleased s.log

theorem Received.cons {env : Env κ ω φ α} {log : List (Entry κ ω φ α)} {axes : Dict κ φ}
    (received : Received env log axes)
    {entry : Entry κ ω φ α} (kept : entry.isCleared = false) : Received env (entry :: log) axes := by
  intro item held
  obtain ⟨event, here, rest⟩ := received item held
  refine ⟨event, ?_, rest⟩
  rw [sinceClear, takeWhile_cons_of_pos (by simp [kept])]
  exact mem_cons_of_mem _ here

theorem Unreleased.cons {log : List (Entry κ ω φ α)} (unreleased : Unreleased log) {entry : Entry κ ω φ α}
    (other : ∀ returned, entry ≠ .call (.setDeadman false) returned) : Unreleased (entry :: log) := by
  intro returned held
  unfold batch at held
  cases began : entry.isBegan with
  | true =>
    rw [takeWhile_cons_of_neg (by simp [began])] at held
    cases held
  | false =>
    rw [takeWhile_cons_of_pos (by simp [began])] at held
    rcases List.mem_cons.mp held with same | later
    · exact other returned same.symm
    · exact unreleased returned later

theorem Good.mark {env : Env κ ω φ α} {s : Bridge κ ω φ α} {released : Bool} (good : Good env released s) :
    Good env true s := ⟨good.sound, good.received, nofun⟩

end

section

variable {κ ω φ α : Type u} {env : Env κ ω φ α} {s t : Bridge κ ω φ α}

theorem Good.note {released : Bool} (good : Good env released s) {entry : Entry κ ω φ α}
    (kept : entry.isCleared = false)
    (other : ∀ returned, entry ≠ .call (.setDeadman false) returned)
    (unsubmitted : ∀ action axes returned, entry ≠ .call (.submitManual action axes) returned) :
    Good env released (s.note entry) where
  sound := by
    cases entry with
    | call c returned =>
      cases c with
      | submitManual action axes => exact absurd rfl (unsubmitted action axes returned)
      | _ => exact good.sound
    | _ => exact good.sound
  received := good.received.cons kept
  unreleased released := (good.unreleased released).cons other

theorem Good.ask {released : Bool} (good : Good env released s) : Good env released (s.ask env).1 :=
  good.note rfl nofun nofun

theorem authority_fst {authority : Option Authority} (asked : s.authority env = (t, authority)) :
    t = (s.ask env).1 := by
  unfold Bridge.authority at asked
  split at asked <;> rename_i u _ answer <;> exact (congrArg fst asked).symm.trans (congrArg fst answer).symm

theorem Good.of_authority {released : Bool} (good : Good env released s) {authority : Option Authority}
    (asked : s.authority env = (t, authority)) : Good env released t := by
  rw [authority_fst asked]
  exact good.ask

theorem Good.of_call {released returned : Bool} (good : Good env released s) {c : Call κ φ α}
    (called : s.call env c = (t, returned)) (other : c ≠ .setDeadman false)
    (unsubmitted : ∀ action axes, c ≠ .submitManual action axes) : Good env released t := by
  have same : s.note (.call c (env.returns s.log c)) = t := congrArg fst called
  refine same ▸ good.note rfl ?_ ?_
  · rintro _ same
    cases same
    exact other rfl
  · rintro action axes _ same
    cases same
    exact unsubmitted action axes rfl

theorem Good.clear {released : Bool} (good : Good env released s) : Good env released s.clear where
  sound := good.sound
  received := nofun
  unreleased released := (good.unreleased released).cons nofun

theorem Good.released {returned : Bool} (good : Good env false s)
    (called : s.call env (.setDeadman false) = (t, returned)) :
    Good env true t := by
  obtain rfl : s.note (.call (.setDeadman false) (env.returns s.log (.setDeadman false))) = t :=
    congrArg fst called
  exact ⟨good.sound, good.received.cons rfl, nofun⟩

theorem ready_cases {answer : Option Bool} (ready : s.readyForManual env = (t, answer)) : t = (s.ask env).1 ∧
    (answer = some true → ∃ snapshot, env.snapshot s.log = .given snapshot ∧ snapshot.authority = .manual ∧
      snapshot.deadmanActive = true) := by
  unfold Bridge.readyForManual at ready
  split at ready
  · rename_i u snapshot asked
    obtain ⟨rfl, rfl⟩ := Prod.mk.inj ready
    have here : env.snapshot s.log = .given snapshot := congrArg snd asked
    refine ⟨(congrArg fst asked).symm, fun both => ⟨snapshot, here, ?_⟩⟩
    simpa using Option.some.inj both
  · rename_i u answer _ asked
    obtain ⟨rfl, rfl⟩ := Prod.mk.inj ready
    exact ⟨(congrArg fst asked).symm, nofun⟩

theorem good_collect {released : Bool} (good : Good env released s) (events : List (Event κ ω)) (left : Nat) :
    Good env released (s.collect env events left).1 := by
  induction left generalizing s events with
  | zero => exact good
  | succ left ih =>
    unfold Bridge.collect
    dsimp only
    split
    · exact good.note rfl nofun nofun
    split
    · rename_i result _ _
      have noted : Good env released (s.note (.polled (s.sources - (left + 1)) (some result))) :=
        good.note rfl nofun nofun
      exact ih noted _
    · exact good.note rfl nofun nofun

theorem Good.fail {released : Bool} (good : Good env released s) (error : Report) (eof hold : Bool) :
    Good env true (s.fail env error eof hold).1 := by
  cases hold with
  | false => exact ⟨good.sound, good.received, nofun⟩
  | true =>
    have held := good.of_call (c := .hold) rfl nofun nofun
    exact ⟨held.sound, held.received, nofun⟩

theorem remoteError_fst {error} (asked : s.remoteError env = (t, error)) : t = (s.ask env).1 := by
  unfold Bridge.remoteError at asked
  split at asked <;> rename_i answer <;> exact (congrArg fst asked).symm.trans (congrArg fst answer).symm

theorem Good.of_remoteError {released : Bool} (good : Good env released s) {error : Option (Option (List Char))}
    (asked : s.remoteError env = (t, error)) : Good env released t := by
  rw [remoteError_fst asked]
  exact good.ask

theorem Good.begin {released : Bool} (good : Good env released s) : Good env false (s.note .began) where
  sound := good.sound
  received := good.received.cons rfl
  unreleased _ := by
    intro returned held
    cases held

theorem good_submit {released : Bool} (good : Good env released s) : Good env true (s.submit env released).1 := by
  unfold Bridge.submit
  split
  · exact good.mark
  rename_i pending
  have unmarked : released = false := by
    cases released with
    | false => rfl
    | true => simp at pending
  have asked : Good env released (s.ask env).1 := good.ask
  split
  case h_1 ready => exact (ready_cases ready).1 ▸ asked.mark
  case h_2 ready => exact (ready_cases ready).1 ▸ asked.mark
  case h_3 u ready =>
    obtain ⟨same, reports⟩ := ready_cases ready
    obtain ⟨snapshot, answered, manual, active⟩ := reports rfl
    rw [← same] at asked
    split
    · exact asked.mark
    rename_i action built
    have reported' : reported u.log = some (.given snapshot) := by
      rw [same]
      exact congrArg some answered
    have warranted : Warranted env u.log u.axes :=
      ⟨asked.received, ⟨snapshot, reported', manual, active⟩, asked.unreleased unmarked⟩
    have submitted (returned : Bool) : Good env true (u.note (.call (.submitManual action u.axes) returned)) :=
      ⟨⟨warranted, asked.sound⟩, asked.received.cons rfl, nofun⟩
    split
    case h_1 called => exact congrArg fst called ▸ submitted _
    case h_2 called => exact congrArg fst called ▸ submitted _

variable [DecidableEq κ]

theorem Good.set {released : Bool} (good : Good env released s) {event : Event κ ω} {control : κ} {value : φ}
    (here : .handled event ∈ sinceClear s.log) (axis : event.kind = .axis)
    (named : event.control = some control)
    (float : env.float event.value = some value) :
    Good env released { s with axes := s.axes.set control value } where
  sound := good.sound
  received item held := by
    rcases Dict.mem_set held with old | rfl
    · exact good.received item old
    · exact ⟨event, here, axis, named, float⟩
  unreleased := good.unreleased

theorem good_handle {released : Bool} (good : Good env released s) (event : Event κ ω) :
    Good env true (s.handle env released event).1 ∧
      ∀ marked, (s.handle env released event).2 = some marked → Good env marked (s.handle env released event).1 := by
  have begun : Good env released (s.note (.handled event)) := good.note rfl nofun nofun
  have whole {u : Bridge κ ω φ α} (good : Good env released u) :
      Good env true u ∧ ∀ marked, some released = some marked → Good env marked u :=
    ⟨good.mark, fun _ same => Option.some.inj same ▸ good⟩
  have raised {u : Bridge κ ω φ α} {released : Bool} (good : Good env released u) :
      Good env true u ∧ ∀ marked, (none : Option Bool) = some marked → Good env marked u := ⟨good.mark, nofun⟩
  unfold Bridge.handle
  dsimp only
  split
  case h_1 =>
    split
    case h_1 called => exact whole (begun.of_call called nofun nofun).clear
    case h_2 called => exact raised (begun.of_call called nofun nofun)
  case h_2 =>
    split
    case h_1 asked => exact raised (begun.of_authority asked)
    case h_2 asked =>
      split
      case h_1 called => exact whole ((begun.of_authority asked).of_call called nofun nofun).clear
      case h_2 called => exact raised ((begun.of_authority asked).of_call called nofun nofun)
    case h_3 asked => exact whole (begun.of_authority asked).clear
  case h_3 =>
    split
    case h_1 asked => exact raised (begun.clear.of_authority asked)
    case h_2 asked =>
      split
      case h_1 called => exact whole ((begun.clear.of_authority asked).of_call called nofun nofun)
      case h_2 called => exact raised ((begun.clear.of_authority asked).of_call called nofun nofun)
    case h_3 asked => exact whole (begun.clear.of_authority asked)
  case h_4 =>
    split
    case h_1 asked => exact raised (begun.of_authority asked)
    case h_2 u asked =>
      have here := begun.of_authority asked
      cases active : env.bool event.value with
      | true =>
        split
        case h_1 called =>
          rw [if_pos rfl]
          exact whole (here.of_call called nofun nofun)
        case h_2 called => exact raised (here.of_call called nofun nofun)
      | false =>
        have gone {v : Bridge κ ω φ α} {returned : Bool} (called : u.call env (.setDeadman false) = (v, returned)) :
            Good env true v := by
          cases released with
          | false => exact here.released called
          | true =>
            obtain rfl : u.note (.call (.setDeadman false) (env.returns u.log (.setDeadman false))) = v :=
              congrArg fst called
            exact ⟨here.sound, here.received.cons rfl, nofun⟩
        split
        case h_1 called =>
          rw [if_neg Bool.false_ne_true]
          exact ⟨(gone called).clear, fun _ same => Option.some.inj same ▸ (gone called).clear⟩
        case h_2 called => exact raised (gone called)
    case h_3 asked => exact whole (begun.of_authority asked)
  case h_5 axis =>
    split
    · exact whole begun
    split
    case h_1 => exact whole begun
    case h_2 control named =>
      split
      case h_1 asked => exact raised (begun.of_authority asked)
      case h_2 u asked =>
        have here := begun.of_authority asked
        split
        case h_1 value float =>
          have listed : .handled event ∈ sinceClear u.log := by
            rw [authority_fst asked]
            exact mem_cons_of_mem _ (mem_cons_self ..)
          exact whole (here.set listed axis named float)
        case h_2 => exact raised here
      case h_3 asked => exact whole (begun.of_authority asked)
  case h_6 => exact whole begun
  case h_7 => exact whole begun

theorem good_handleAll {released : Bool} (good : Good env released s) (events : List (Event κ ω)) :
    Good env true (s.handleAll env released events).1 ∧ ∀ marked, (s.handleAll env released events).2 = some marked →
      Good env marked (s.handleAll env released events).1 := by
  induction events generalizing s released with
  | nil => exact ⟨good.mark, fun _ same => Option.some.inj same ▸ good⟩
  | cons event rest ih =>
    obtain ⟨over_, kept⟩ := good_handle good event
    unfold Bridge.handleAll
    split
    case h_1 t marked handled =>
      rw [handled] at kept
      exact ih (kept marked rfl)
    case h_2 t handled =>
      rw [handled] at over_
      exact ⟨over_, nofun⟩

theorem good_apply (good : Good env false s) (events : List (Event κ ω)) : Good env true (s.apply env events).1 := by
  unfold Bridge.apply
  split
  · exact good.mark
  split
  · split
    case h_1 called => exact (good.of_call called nofun nofun).clear.mark
    case h_2 called => exact (good.of_call called nofun nofun).mark
  split
  · split
    case h_1 called =>
      have here := (good.of_call called nofun nofun).clear.mark
      exact ⟨here.sound, here.received, nofun⟩
    case h_2 called => exact (good.of_call called nofun nofun).mark
  obtain ⟨over_, kept⟩ := good_handleAll good events
  split
  case h_1 t released handled =>
    rw [handled] at kept
    exact good_submit (kept released rfl)
  case h_2 t handled =>
    rw [handled] at over_
    exact over_

theorem good_pollOnce (good : Good env true s) : Good env true (s.pollOnce env).1 := by
  unfold Bridge.pollOnce
  split
  case h_1 asked => exact (good.begin.of_remoteError asked).mark
  case h_2 asked => exact (good.begin.of_remoteError asked).fail ..
  case h_3 u asked =>
    have here := good_collect (good.begin.of_remoteError asked) [] u.sources
    split
    case h_1 collected =>
      rw [collected] at here
      exact here.mark
    case h_2 collected =>
      rw [collected] at here
      exact here.fail ..
    case h_3 events collected =>
      rw [collected] at here
      have applied := good_apply here events
      split
      case h_1 raised =>
        rw [raised] at applied
        exact applied
      case h_2 done =>
        rw [done] at applied
        split
        case h_1 asked => exact applied.of_remoteError asked
        case h_2 asked => exact (applied.of_remoteError asked).fail ..
        case h_3 asked => exact applied.of_remoteError asked

/-- **Every manual action of a run is warranted**, whatever the sources and the arbiter do. -/
theorem sound_run (good : Good env true s) (n : Nat) : Good env true (s.polls env n) := by
  induction n with
  | zero => exact good
  | succ n ih => exact good_pollOnce ih

end

/-! ## Emergency stops -/

section

variable {κ ω φ α : Type u} {env : Env κ ω φ α} {s t : Bridge κ ω φ α}

def Entry.quiet : Entry κ ω φ α → Bool
  | .began | .polled _ _ => false
  | _ => true

def Quiet (s t : Bridge κ ω φ α) : Prop := ∃ later, t.log = later ++ s.log ∧ ∀ entry ∈ later, entry.quiet = true

theorem Quiet.refl (s : Bridge κ ω φ α) : Quiet s s := ⟨[], rfl, nofun⟩

theorem Quiet.trans {u : Bridge κ ω φ α} (first : Quiet s t) (second : Quiet t u) : Quiet s u := by
  obtain ⟨a, one, quietA⟩ := first
  obtain ⟨b, two, quietB⟩ := second
  refine ⟨b ++ a, by rw [two, one, append_assoc], fun entry held => ?_⟩
  exact (List.mem_append.mp held).elim (quietB entry) (quietA entry)

theorem Quiet.note (s : Bridge κ ω φ α) {entry : Entry κ ω φ α} (quiet : entry.quiet = true) :
    Quiet s (s.note entry) :=
  ⟨[entry], rfl, fun _ held => List.mem_singleton.mp held ▸ quiet⟩

theorem Quiet.of_call {c : Call κ φ α} {returned : Bool} (called : s.call env c = (t, returned)) : Quiet s t := by
  obtain rfl : s.note (.call c (env.returns s.log c)) = t := congrArg fst called
  exact .note s rfl

theorem Quiet.of_authority {authority : Option Authority} (asked : s.authority env = (t, authority)) : Quiet s t := by
  rw [authority_fst asked]
  exact .note s rfl

theorem Quiet.clear (s : Bridge κ ω φ α) : Quiet s s.clear := .note s rfl

theorem Quiet.fail (s : Bridge κ ω φ α) (error : Report) (eof hold : Bool) :
    Quiet s (s.fail env error eof hold).1 := by
  cases hold with
  | false => exact ⟨[], rfl, nofun⟩
  | true => exact .note s rfl

theorem quiet_submit (released : Bool) : Quiet s (s.submit env released).1 := by
  unfold Bridge.submit
  split
  · exact .refl s
  have asked : Quiet s (s.ask env).1 := .note s rfl
  split
  case h_1 ready => exact (ready_cases ready).1 ▸ asked
  case h_2 ready => exact (ready_cases ready).1 ▸ asked
  case h_3 u ready =>
    rw [← (ready_cases ready).1] at asked
    split
    · exact asked
    split
    case h_1 called => exact asked.trans (.of_call called)
    case h_2 called => exact asked.trans (.of_call called)

section

variable [DecidableEq κ]

theorem quiet_handle (released : Bool) (event : Event κ ω) : Quiet s (s.handle env released event).1 := by
  have begun : Quiet s (s.note (.handled event)) := .note s rfl
  unfold Bridge.handle
  dsimp only
  split
  case h_1 =>
    split
    case h_1 called => exact (begun.trans (.of_call called)).trans (.clear _)
    case h_2 called => exact begun.trans (.of_call called)
  case h_2 =>
    split
    case h_1 asked => exact begun.trans (.of_authority asked)
    case h_2 asked =>
      split
      case h_1 called => exact ((begun.trans (.of_authority asked)).trans (.of_call called)).trans (.clear _)
      case h_2 called => exact (begun.trans (.of_authority asked)).trans (.of_call called)
    case h_3 asked => exact (begun.trans (.of_authority asked)).trans (.clear _)
  case h_3 =>
    have cleared := begun.trans (.clear _)
    split
    case h_1 asked => exact cleared.trans (.of_authority asked)
    case h_2 asked =>
      split
      case h_1 called => exact (cleared.trans (.of_authority asked)).trans (.of_call called)
      case h_2 called => exact (cleared.trans (.of_authority asked)).trans (.of_call called)
    case h_3 asked => exact cleared.trans (.of_authority asked)
  case h_4 =>
    split
    case h_1 asked => exact begun.trans (.of_authority asked)
    case h_2 asked =>
      split
      case h_1 called =>
        have here := (begun.trans (.of_authority asked)).trans (.of_call called)
        split
        · exact here
        · exact here.trans (.clear _)
      case h_2 called => exact (begun.trans (.of_authority asked)).trans (.of_call called)
    case h_3 asked => exact begun.trans (.of_authority asked)
  case h_5 =>
    split
    · exact begun
    split
    case h_1 => exact begun
    case h_2 =>
      split
      case h_1 asked => exact begun.trans (.of_authority asked)
      case h_2 asked =>
        have here := begun.trans (.of_authority asked)
        split <;> exact here
      case h_3 asked => exact begun.trans (.of_authority asked)
  case h_6 => exact begun
  case h_7 => exact begun

theorem quiet_handleAll (released : Bool) (events : List (Event κ ω)) :
    Quiet s (s.handleAll env released events).1 := by
  induction events generalizing s released with
  | nil => exact .refl s
  | cons event rest ih =>
    have first : Quiet s (s.handle env released event).1 := quiet_handle released event
    unfold Bridge.handleAll
    split
    case h_1 handled =>
      rw [handled] at first
      exact first.trans (ih _)
    case h_2 handled =>
      rw [handled] at first
      exact first

theorem quiet_apply (events : List (Event κ ω)) : Quiet s (s.apply env events).1 := by
  unfold Bridge.apply
  split
  · exact .refl s
  split
  · split
    case h_1 called => exact (Quiet.of_call called).trans (.clear _)
    case h_2 called => exact .of_call called
  split
  · split
    case h_1 called => exact (Quiet.of_call called).trans (.clear _)
    case h_2 called => exact .of_call called
  have handled' : Quiet s (s.handleAll env false events).1 := quiet_handleAll false events
  split
  case h_1 handled =>
    rw [handled] at handled'
    exact handled'.trans (quiet_submit _)
  case h_2 handled =>
    rw [handled] at handled'
    exact handled'

end

theorem batch_append {seen log : List (Entry κ ω φ α)} (within : ∀ entry ∈ seen, entry.isBegan = false) :
    batch (seen ++ log) = seen ++ batch log :=
  takeWhile_append_of_pos fun entry held => by simp [within entry held]

theorem Quiet.batch (quiet : Quiet s t) : ∃ later, batch t.log = later ++ batch s.log ∧
    ∀ entry ∈ later, entry.quiet = true := by
  obtain ⟨later, grows, all⟩ := quiet
  refine ⟨later, ?_, all⟩
  rw [grows, batch_append]
  intro entry held
  cases entry with
  | began => exact nomatch all .began held
  | _ => rfl

theorem Quiet.polled (quiet : Quiet s t) {index : Nat} {result : Option (PollResult κ ω)} :
    .polled index result ∈ Inputs.batch t.log ↔ .polled index result ∈ Inputs.batch s.log := by
  obtain ⟨later, grows, all⟩ := quiet.batch
  rw [grows, mem_append]
  exact or_iff_right fun held => nomatch all _ held

theorem Quiet.stopping (quiet : Quiet s t) : Stopping (Inputs.batch t.log) ↔ Stopping (Inputs.batch s.log) := by
  simp only [Stopping, quiet.polled]

theorem collect_spec (events : List (Event κ ω)) (left : Nat) :
    ∃ seen, (s.collect env events left).1.log = seen ++ s.log ∧
      (∀ entry ∈ seen, ∃ index result, entry = .polled index result) ∧
      match (s.collect env events left).2 with
      | .events all =>
        (∀ index result, .polled index result ∈ seen → ∃ r, result = some r ∧ r.ok = true) ∧
          (Stopping seen → ∃ event ∈ all, event.kind = .estop) ∧ events <+: all
      | .failed .. | .raised =>
        ∃ index result, .polled index result ∈ seen ∧ ¬ ∃ r, result = some r ∧ r.ok = true := by
  induction left generalizing s events with
  | zero =>
    refine ⟨[], rfl, nofun, fun _ _ held => (nomatch held), ?_, prefix_refl _⟩
    rintro ⟨_, _, held, _⟩
    cases held
  | succ left ih =>
    unfold Bridge.collect
    dsimp only
    split
    · exact ⟨[_], rfl, fun _ held => ⟨_, _, List.mem_singleton.mp held⟩, _, none, mem_singleton_self _, nofun⟩
    · rename_i result _
      split
      · rename_i well
        let u := s.note (.polled (s.sources - (left + 1)) (some result))
        obtain ⟨seen, grows, only, rest⟩ := ih (s := u) (events ++ result.events)
        refine ⟨seen ++ [.polled (s.sources - (left + 1)) (some result)], by rw [grows, append_assoc]; rfl, ?_, ?_⟩
        · intro entry held
          rcases List.mem_append.mp held with later | first
          · exact only entry later
          · exact ⟨_, _, List.mem_singleton.mp first⟩
        · change match (u.collect env (events ++ result.events) left).2 with
            | .events all => _
            | .failed .. | .raised => _
          revert rest
          cases (u.collect env (events ++ result.events) left).2 with
          | events =>
            rintro ⟨every, stops, kept⟩
            refine ⟨?_, ?_, (prefix_append ..).trans kept⟩
            · intro index r held
              rcases List.mem_append.mp held with later | first
              · exact every index r later
              · cases List.mem_singleton.mp first
                exact ⟨result, rfl, well⟩
            · rintro ⟨index, r, held, event, here, stop⟩
              rcases List.mem_append.mp held with later | first
              · exact stops ⟨index, r, later, event, here, stop⟩
              · cases List.mem_singleton.mp first
                exact ⟨event, kept.subset (mem_append_right _ here), stop⟩
          | failed | raised =>
            rintro ⟨index, r, held, bad⟩
            exact ⟨index, r, mem_append_left _ held, bad⟩
      · rename_i ill
        refine ⟨[_], rfl, fun _ held => ⟨_, _, List.mem_singleton.mp held⟩, _, some result, mem_singleton_self _, ?_⟩
        rintro ⟨r, same, well⟩
        cases same
        exact ill well

theorem stopKept_iff_of_ill {log : List (Entry κ ω φ α)} {index : Nat} {result : Option (PollResult κ ω)}
    (here : .polled index result ∈ batch log) (ill : ¬ ∃ r, result = some r ∧ r.ok = true)
    (none' : ∀ returned, .call .emergencyStop returned ∉ batch log) : StopKept log ↔ Well log := by
  constructor
  · intro kept stopping
    obtain ⟨later, returned, earlier, split, _⟩ := kept stopping
    exact absurd (split ▸ mem_append_right _ (mem_cons_self ..)) (none' returned)
  · intro well stopping
    exact absurd (well stopping index result here) ill

theorem stopKept_of_quiet {log : List (Entry κ ω φ α)} (calm : ¬ Stopping (batch log)) : StopKept log ↔ Well log :=
  ⟨fun _ stopping => absurd stopping calm, fun _ stopping => absurd stopping calm⟩

variable [DecidableEq κ]

theorem apply_stop {events : List (Event κ ω)} (stop : ∃ event ∈ events, event.kind = .estop) :
    ∃ later returned, (s.apply env events).1.log = later ++ .call .emergencyStop returned :: s.log ∧
      ∀ entry ∈ later, entry = .cleared := by
  obtain ⟨event, here, kind⟩ := stop
  have some' : events.isEmpty = false := by
    cases events with
    | nil => cases here
    | cons => rfl
  have any : events.any (·.kind = .estop) = true := List.any_eq_true.mpr ⟨event, here, by simp [kind]⟩
  unfold Bridge.apply
  rw [if_neg (by simp [some']), if_pos any]
  split
  case h_1 called =>
    obtain rfl : s.note _ = _ := congrArg fst called
    exact ⟨[.cleared], _, rfl, fun _ held => List.mem_singleton.mp held⟩
  case h_2 called =>
    obtain rfl : s.note _ = _ := congrArg fst called
    exact ⟨[], _, rfl, nofun⟩

theorem stopKept_of_well {events : List (Event κ ω)} {asked : List (Entry κ ω φ α)}
    (grows : t.log = asked ++ (s.apply env events).1.log)
    (only : ∀ entry ∈ asked, ∃ answer, entry = .asked answer)
    (every : ∀ index result, .polled index result ∈ batch s.log → ∃ r, result = some r ∧ r.ok = true)
    (stops : Stopping (batch s.log) → ∃ event ∈ events, event.kind = .estop) : StopKept t.log ↔ Well t.log := by
  have quiet : Quiet s t := (quiet_apply events).trans ⟨asked, grows, fun entry held => by
    obtain ⟨_, rfl⟩ := only entry held
    rfl⟩
  have well : Well t.log := fun _ index result held => every index result (quiet.polled.mp held)
  refine iff_of_true (fun stopping => ?_) well
  obtain ⟨later, returned, added, cleared⟩ := apply_stop (stops (quiet.stopping.mp stopping))
  refine ⟨asked ++ later, returned, batch s.log, ?_, ?_⟩
  · rw [grows, added, ← append_assoc, batch_append]
    · rfl
    · intro entry held
      rcases List.mem_append.mp held with first | second
      · obtain ⟨_, rfl⟩ := only entry first
        rfl
      · rw [cleared entry second]
        rfl
  · intro c answered held
    rcases List.mem_append.mp held with first | second
    · obtain ⟨_, same⟩ := only _ first
      cases same
    · cases cleared _ second

/-- **A poll passes on an emergency stop exactly if no source fails beside it.** -/
theorem stopKept_pollOnce : StopKept (s.pollOnce env).1.log ↔ Well (s.pollOnce env).1.log := by
  unfold Bridge.pollOnce
  have begun (error : Option (Option (List Char))) (t : Bridge κ ω φ α) (asked : (s.note .began).remoteError env = (t, error)) :
      batch t.log = [.asked (env.snapshot (s.note .began).log)] := by
    rw [remoteError_fst asked]
    rfl
  have calm {t u : Bridge κ ω φ α} {error : Option (Option (List Char))}
      (asked : (s.note .began).remoteError env = (t, error)) (quiet : Quiet t u) : StopKept u.log ↔ Well u.log := by
    apply stopKept_of_quiet
    rw [quiet.stopping, begun _ _ asked]
    rintro ⟨_, _, held, _⟩
    simp at held
  split
  case h_1 asked => exact calm asked (.refl _)
  case h_2 asked => exact calm asked (.fail ..)
  case h_3 u asked =>
    have first := begun _ _ asked
    obtain ⟨seen, grows, only, rest⟩ := @collect_spec κ ω φ α env u [] u.sources
    have whole : batch (u.collect env [] u.sources).1.log = seen ++ batch u.log := by
      rw [grows, batch_append]
      intro entry held
      obtain ⟨_, _, rfl⟩ := only entry held
      rfl
    have uncalled : ∀ c returned, .call c returned ∉ batch (u.collect env [] u.sources).1.log := by
      intro c returned held
      rw [whole, first] at held
      rcases List.mem_append.mp held with later | earlier
      · obtain ⟨_, _, same⟩ := only _ later
        cases same
      · simp at earlier
    split
    case h_1 v collected =>
      rw [collected] at rest whole uncalled
      obtain ⟨index, result, here, ill⟩ := rest
      exact stopKept_iff_of_ill (whole ▸ mem_append_left _ here) ill fun returned => uncalled _ returned
    case h_2 v error eof collected =>
      rw [collected] at rest whole uncalled
      obtain ⟨index, result, here, ill⟩ := rest
      have listed : .polled index result ∈ batch (v.fail env error eof true).1.log :=
        (Quiet.fail v error eof true).polled.mpr (whole ▸ mem_append_left _ here)
      refine stopKept_iff_of_ill listed ill fun returned held => ?_
      have grown : (v.fail env error eof true).1.log = [.call .hold (env.returns v.log .hold)] ++ v.log := rfl
      rw [grown, batch_append (by simp [Entry.isBegan])] at held
      rcases List.mem_append.mp held with later | earlier
      · simp at later
      · exact uncalled _ returned earlier
    case h_3 v events collected =>
      rw [collected] at rest whole uncalled
      obtain ⟨every, stops, _⟩ := rest
      have well : ∀ index result, .polled index result ∈ batch v.log → ∃ r, result = some r ∧ r.ok = true := by
        intro index result held
        rw [whole, first] at held
        rcases List.mem_append.mp held with later | earlier
        · exact every index result later
        · simp at earlier
      have found : Stopping (batch v.log) → ∃ event ∈ events, event.kind = .estop := by
        rintro ⟨index, result, held, rest⟩
        rw [whole, first] at held
        rcases List.mem_append.mp held with later | earlier
        · exact stops ⟨index, result, later, rest⟩
        · simp at earlier
      split
      case h_1 w raised =>
        have grown : w.log = [] ++ (v.apply env events).1.log := by
          rw [raised]
          rfl
        exact stopKept_of_well grown nofun well found
      case h_2 w done =>
        have after {x : Bridge κ ω φ α} {error : Option (Option (List Char))} (asked : w.remoteError env = (x, error)) :
            x.log = [.asked (env.snapshot w.log)] ++ (v.apply env events).1.log := by
          rw [remoteError_fst asked, done]
          rfl
        have only : ∀ entry ∈ [(.asked (env.snapshot w.log) : Entry κ ω φ α)], ∃ answer, entry = .asked answer :=
          fun _ held => ⟨_, List.mem_singleton.mp held⟩
        split
        case h_1 asked => exact stopKept_of_well (after asked) only well found
        case h_2 asked => exact (stopKept_of_well (after asked) only well found :)
        case h_3 asked => exact stopKept_of_well (after asked) only well found

def Bridge.new (sources : Nat) : Bridge κ ω φ α := { sources }

/-- **No emergency stop is dropped, exactly if no poll has one beside a source that fails.** -/
theorem estop_kept_iff (env : Env κ ω φ α) (sources n : Nat) :
    ((∀ k < n, StopKept ((Bridge.new sources).polls env (k + 1)).log) ∧
        Sound env ((Bridge.new sources).polls env n).log) ↔
      ∀ k < n, Well ((Bridge.new sources).polls env (k + 1)).log := by
  have start : Good env true (Bridge.new sources) := ⟨trivial, nofun, nofun⟩
  have each (k : Nat) : StopKept ((Bridge.new sources).polls env (k + 1)).log ↔
      Well ((Bridge.new sources).polls env (k + 1)).log := stopKept_pollOnce
  constructor
  · rintro ⟨kept, _⟩ k before
    exact (each k).mp (kept k before)
  · intro well
    exact ⟨fun k before => (each k).mpr (well k before), (sound_run start n).sound⟩

end

/-! ## A stop beside a source that fails -/

def unplugged : Env Nat Nat Nat Nat where
  poll _ index := if index = 0 then some { events := [⟨.estop, none, 0⟩] } else some { eof := true }
  snapshot _ := .given ⟨.manual, true, none⟩
  returns _ _ := true
  float value := some value
  bool value := value != 0
  action _ _ := some 0

/-- The arbiter is asked to hold, and not to stop. -/
theorem stop_dropped : ¬ StopKept ((Bridge.new 2).polls unplugged 1).log := by
  intro kept
  have entries : batch ((Bridge.new 2).polls unplugged 1).log =
      [.call .hold true, .polled 1 (some ⟨[], none, true⟩), .polled 0 (some ⟨[⟨.estop, none, 0⟩], none, false⟩),
        .asked (.given ⟨.manual, true, none⟩)] := rfl
  have stopping : Stopping (batch ((Bridge.new 2).polls unplugged 1).log) := by
    refine ⟨0, { events := [⟨.estop, none, 0⟩] }, ?_, ⟨.estop, none, 0⟩, mem_singleton_self _, rfl⟩
    rw [entries]
    simp
  obtain ⟨later, returned, earlier, split, _⟩ := kept stopping
  have called : .call .emergencyStop returned ∈ batch ((Bridge.new 2).polls unplugged 1).log :=
    split ▸ mem_append_right _ (mem_cons_self ..)
  rw [entries] at called
  simp at called

end EmbodiRun.Devices.Inputs
