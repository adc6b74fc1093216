/-
# Go2.Motion -- calls to the mobile base, in threads

`asyncio.to_thread` hands a call to a thread, which goes on when the one that awaits it is cancelled.
What the threads ask of the base, and when it has answered, is a log, newest first.
-/
import Mathlib

namespace EmbodiRun.Go2.Motion

open List

inductive Event where
  /-- `_motion_authorized` is set. -/
  | authorized
  /-- `start_velocity_lease` or `update_velocity_lease` is issued. -/
  | motion
  | motionOver
  | stopping
  | stopped (ok : Bool)
  deriving DecidableEq

namespace Event

def isMotion : Event → Bool
  | .motion | .motionOver => true
  | _ => false

def isStop : Event → Bool
  | .stopping | .stopped _ => true
  | _ => false

def isStopped : Event → Bool
  | .stopped _ => true
  | _ => false

end Event

inductive Thread where
  | idle
  /-- No thread is free yet; a cancelled call is taken back. -/
  | queued
  | running
  | finished (ok : Bool)
  deriving DecidableEq

namespace Thread

def begun : Thread → Bool
  | .running | .finished _ => true
  | _ => false

def abandon : Thread → Thread
  | .queued => .idle
  | t => t

end Thread

/-- Where `VelocityLease.send` is; `moving` is its command's. -/
inductive Send where
  | idle
  | queued (moving : Bool)
  /-- In `start_velocity_lease`. -/
  | starting
  /-- In `update_velocity_lease`. -/
  | updating (moving : Bool)
  /-- In `base.state()`, after an update that failed. -/
  | checking (moving : Bool)
  | finished (ok : Bool)

namespace Send

def busy : Send → Bool
  | .starting | .updating _ | .checking _ => true
  | _ => false

def pending : Send → Bool
  | .idle | .finished _ => false
  | _ => true

def inFlight : Send → Bool
  | .starting | .updating _ => true
  | _ => false

def abandon : Send → Send
  | .queued _ => .idle
  | s => s

end Send

inductive Answer where
  | lease (id : String)
  | accepted
  | state (active : Option String)
  /-- `MobileBaseError`. -/
  | refused
  | raised

structure VelocityLease where
  leaseId : Option String := none
  send : Send := .idle
  log : List Event := []

namespace VelocityLease

variable (v : VelocityLease)

def start : VelocityLease := { v with send := .starting, log := .motion :: v.log }

/-- A thread takes the call of `send`. -/
def begin : Option VelocityLease :=
  match v.send with
  | .queued moving => some (match v.leaseId with
      | none => if moving then v.start else { v with send := .finished true }
      | some _ => { v with send := .updating moving, log := .motion :: v.log })
  | _ => none

/-- The base answers `send`. -/
def answer (answer : Answer) : Option VelocityLease :=
  match v.send with
  | .starting =>
    let w := { v with log := .motionOver :: v.log }
    some (match answer with
      | .lease id => if id = "" then { w with send := .finished false }
          else { w with send := .finished true, leaseId := some id }
      | _ => { w with send := .finished false })
  | .updating moving =>
    let w := { v with log := .motionOver :: v.log }
    some (match answer with
      | .accepted => { w with send := .finished true }
      | .refused => { w with send := .checking moving }
      | _ => { w with send := .finished false })
  | .checking moving => some (match answer with
      | .state active =>
        if active = v.leaseId then { v with send := .finished false }
        else if moving then { v with leaseId := none }.start
        else { v with leaseId := none, send := .finished true }
      | _ => { v with send := .finished false })
  | _ => none

/-- `stop` begins. -/
def stopBegins : VelocityLease := { v with log := .stopping :: v.log }

/-- `base.stop` has ended. -/
def stopEnds (ok : Bool) : VelocityLease :=
  { v with log := .stopped ok :: v.log, leaseId := if ok then none else v.leaseId }

end VelocityLease

/-! ## The last stop -/

/-- When a stop has succeeded nothing moves since the last one; motion that was ever authorized is
followed by a stop. -/
structure StopIsLast (log : List Event) (inFlight : Bool) : Prop where
  settled : .stopped true ∈ log →
    inFlight = false ∧ ∀ e ∈ log.takeWhile (fun e => !e.isStopped), e.isMotion = false
  attempted : .authorized ∈ log →
    ∃ newer older, log = newer ++ .stopping :: older ∧ ∀ e ∈ newer, e.isMotion = false

def StopsLast (log : List Event) : Prop :=
  log.Pairwise fun newer older => older.isStop = true → newer.isStop = true

section

variable {log : List Event} {e : Event} {inFlight : Bool}

theorem StopsLast.stop (last : StopsLast log) (stop : e.isStop = true) : StopsLast (e :: log) :=
  List.pairwise_cons.mpr ⟨fun _ _ _ => stop, last⟩

theorem StopsLast.other (last : StopsLast log) (none_ : ∀ o ∈ log, o.isStop = false) : StopsLast (e :: log) := by
  refine List.pairwise_cons.mpr ⟨fun o before stop => ?_, last⟩
  rw [none_ o before] at stop
  cases stop

theorem isMotion_of_isStop (stop : e.isStop = true) : e.isMotion = false := by
  cases e <;> first | rfl | cases stop

theorem StopsLast.newer {newer older} {o} (last : StopsLast (newer ++ o :: older))
    (stop : o.isStop = true) (here : e ∈ newer) : e.isMotion = false :=
  isMotion_of_isStop ((List.pairwise_append.mp last).2.2 e here o mem_cons_self stop)

theorem stop_is_last (last : StopsLast log) (quiet : .stopped true ∈ log → inFlight = false)
    (attempted : .authorized ∈ log → .stopping ∈ log) : StopIsLast log inFlight := by
  refine ⟨fun stopped => ⟨quiet stopped, fun e here => ?_⟩, fun authorized => ?_⟩
  · obtain ⟨newer, older, rfl⟩ := append_of_mem stopped
    have inside : e ∈ newer := by
      clear quiet attempted last stopped
      induction newer with
      | nil => simp [Event.isStopped] at here
      | cons first newer ih =>
        rw [cons_append, takeWhile_cons] at here
        split at here
        · exact List.mem_cons.mpr ((List.mem_cons.mp here).imp_right ih)
        · cases here
    exact last.newer rfl inside
  · obtain ⟨newer, older, rfl⟩ := append_of_mem (attempted authorized)
    exact ⟨newer, older, rfl, fun e here => last.newer rfl here⟩

end

/-! ## What `send` does to the log -/

variable {v w : VelocityLease} {a : Answer}

/-- A `send` that is pending adds motion to the log, and nothing else. -/
structure Sends (v w : VelocityLease) : Prop where
  was : v.send.pending = true
  added : ∃ news, w.log = news ++ v.log ∧ ∀ e ∈ news, e.isMotion = true

theorem sends_begin (next : v.begin = some w) : Sends v w := by
  unfold VelocityLease.begin at next
  cases sending : v.send with
  | idle | starting | updating | checking | finished => simp only [sending] at next; cases next
  | queued =>
    simp only [sending] at next
    cases next
    have was : v.send.pending = true := by rw [sending]; rfl
    split
    · split
      · exact ⟨was, ⟨[.motion], rfl, by simp [Event.isMotion]⟩⟩
      · exact ⟨was, ⟨[], rfl, nofun⟩⟩
    · exact ⟨was, ⟨[.motion], rfl, by simp [Event.isMotion]⟩⟩

theorem sends_answer (next : v.answer a = some w) : Sends v w := by
  unfold VelocityLease.answer at next
  cases sending : v.send with
  | idle | queued | finished => simp only [sending] at next; cases next
  | starting =>
    simp only [sending] at next
    cases next
    have was : v.send.pending = true := by rw [sending]; rfl
    have added : ∃ news, Event.motionOver :: v.log = news ++ v.log ∧ ∀ e ∈ news, e.isMotion = true :=
      ⟨[.motionOver], rfl, by simp [Event.isMotion]⟩
    split
    · split <;> exact ⟨was, added⟩
    · exact ⟨was, added⟩
  | updating =>
    simp only [sending] at next
    cases next
    have was : v.send.pending = true := by rw [sending]; rfl
    have added : ∃ news, Event.motionOver :: v.log = news ++ v.log ∧ ∀ e ∈ news, e.isMotion = true :=
      ⟨[.motionOver], rfl, by simp [Event.isMotion]⟩
    split <;> exact ⟨was, added⟩
  | checking =>
    simp only [sending] at next
    cases next
    have was : v.send.pending = true := by rw [sending]; rfl
    have same : ∃ news, v.log = news ++ v.log ∧ ∀ e ∈ news, e.isMotion = true := ⟨[], rfl, nofun⟩
    split
    · split
      · exact ⟨was, same⟩
      split
      · exact ⟨was, ⟨[.motion], rfl, by simp [Event.isMotion]⟩⟩
      · exact ⟨was, same⟩
    · exact ⟨was, same⟩

theorem isStop_of_isMotion {e : Event} (motion : e.isMotion = true) : e.isStop = false := by
  cases e <;> first | rfl | cases motion

theorem Sends.last (sends : Sends v w) (last : StopsLast v.log) (none_ : ∀ e ∈ v.log, e.isStop = false) :
    StopsLast w.log ∧ ∀ e ∈ w.log, e.isStop = false := by
  obtain ⟨news, same, motion⟩ := sends.added
  have quiet (e : Event) (here : e ∈ news ++ v.log) : e.isStop = false :=
    (List.mem_append.mp here).elim (fun new => isStop_of_isMotion (motion e new)) (none_ e)
  rw [same]
  refine ⟨List.pairwise_append.mpr ⟨pairwise_of_forall_mem_list fun e _ o older stop => ?_, last,
    fun e _ o before stop => ?_⟩, quiet⟩
  · rw [isStop_of_isMotion (motion o older)] at stop
    cases stop
  · rw [none_ o before] at stop
    cases stop

theorem Sends.authorized (sends : Sends v w) : .authorized ∈ w.log ↔ .authorized ∈ v.log := by
  obtain ⟨news, same, motion⟩ := sends.added
  rw [same, mem_append]
  exact or_iff_right fun new => by cases motion _ new

end EmbodiRun.Go2.Motion
