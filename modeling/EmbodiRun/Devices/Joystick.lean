/-
# Devices.Joystick -- the packets of a joystick, cut anywhere

`poll` takes what one read gives and decodes every packet that is whole; the rest stays in the buffer.

* `decoding_independent`: **the events are those of the whole stream, packet by packet, and each poll
  reports the deadman of the last such packet**.
-/
import EmbodiRun.Devices.Inputs

namespace EmbodiRun.Devices.Joystick

open List

open Inputs (Kind Report)

abbrev Byte := BitVec 8

inductive Control where
  | leftX | leftY | rightX | rightY | lt | rt | dpadX | dpadY
  deriving DecidableEq

/-- The `value` of an event. -/
inductive Value where
  | none
  | flag (b : Bool)
  | axis (q : ℚ)
  deriving DecidableEq

abbrev Event := Inputs.Event Control Value
abbrev PollResult := Inputs.PollResult Control Value

/-- What `struct.unpack` gives, without the time. -/
structure Packet where
  value : Int
  type : Byte
  number : Nat

/-- `_BUTTONS`. -/
def buttons : Nat → Option Kind
  | 0 => some .acquire
  | 1 => some .estop
  | 3 => some .release
  | _ => none

/-- `_AXES`. -/
def axes : Nat → Option Control
  | 0 => some .leftX
  | 1 => some .leftY
  | 3 => some .rightX
  | 4 => some .rightY
  | 2 => some .lt
  | 5 => some .rt
  | 6 => some .dpadX
  | 7 => some .dpadY
  | _ => none

def normalizeAxis (value deadzone : ℚ) : ℚ :=
  let value := if 1 < value then 1 else if value < -1 then -1 else value
  if |value| < deadzone then 0 else value

def deadmanEvent (deadman : Bool) : Event := ⟨.deadman, none, .flag deadman⟩

namespace Packet

variable (deadzone : ℚ) (p : Packet)

def initial : Bool := p.type &&& 0x80 ≠ 0

def base : Byte := p.type &&& ~~~0x80

/-- The deadman that a packet sets. -/
def deadman : Option Bool :=
  if p.initial && p.base = 0x01 then none
  else if p.base = 0x01 ∧ p.number = 4 then some (p.value ≠ 0)
  else none

def events : List Event :=
  if p.initial && p.base = 0x01 then
    -- a snapshot stops the robot and does nothing else
    if p.value ≠ 0 ∧ buttons p.number = some .estop then [⟨.estop, none, .none⟩] else []
  else
    (if p.base = 0x01 ∧ p.value ≠ 0 then (buttons p.number).toList.map (⟨·, none, .none⟩) else []) ++
    (if p.base = 0x01 ∧ p.number = 4 then [deadmanEvent (p.value ≠ 0)]
    else if p.base = 0x02 then
      (axes p.number).toList.map fun control => ⟨.axis, some control, .axis (normalizeAxis (p.value / 32767) deadzone)⟩
    else [])

/-- Nothing is acquired, released or armed. -/
def Quiet : Prop :=
  p.deadman = none ∧ ∀ e ∈ p.events deadzone, e.kind ≠ .acquire ∧ e.kind ≠ .release ∧ e.kind ≠ .deadman

end Packet

/-- What a poll finds at the file descriptor. -/
inductive Read where
  | notReady
  | blocked
  | data (bytes : List Byte)
  | failed (report : Report)

/-- `JoystickInput`; `deadman` is `none` until it has one. -/
structure Input where
  buffer : List Byte := []
  deadman : Option Bool := none

/-- The packets that are whole, and what is left. -/
def packets : List Byte → List Packet × List Byte
  | _ :: _ :: _ :: _ :: low :: high :: type :: number :: rest =>
    ((⟨(high ++ low).toInt, type, number.toNat⟩ :: (packets rest).1), (packets rest).2)
  | buffer => ([], buffer)

def isDeadman (event : Event) : Bool := event.kind = .deadman

def received (deadman : Option Bool) (p : Packet) : Option Bool := p.deadman.or deadman

/-- The deadman is repeated where no event of a poll is one. -/
def heartbeat (deadman : Option Bool) (events : List Event) : List Event :=
  if events.any isDeadman then [] else deadman.toList.map deadmanEvent

variable (deadzone : ℚ)

/-- `poll`. -/
def poll (s : Input) (read : Read) : Input × PollResult :=
  let decode (bytes : List Byte) : Input × PollResult :=
    let (whole, rest) := packets (s.buffer ++ bytes)
    let deadman := whole.foldl received s.deadman
    let events := whole.flatMap (Packet.events deadzone)
    (⟨rest, deadman⟩, { events := events ++ heartbeat deadman events })
  match read with
  | .notReady | .blocked => decode []
  | .data [] => (s, { eof := true })
  | .data bytes => decode bytes
  | .failed report => (s, { error := some report })

def run (s : Input) : List Read → Input × List PollResult
  | [] => (s, [])
  | read :: reads =>
    let (t, out) := poll deadzone s read
    let (u, outs) := run t reads
    (u, out :: outs)

def Read.bytes : Read → List Byte
  | .data bytes => bytes
  | _ => []

/-- A read that gives some bytes, or an empty poll. -/
def Read.Fair : Read → Prop
  | .data bytes => bytes ≠ [] ∧ bytes.length ≤ 256
  | .failed _ => False
  | _ => True

/-- The deadman of the last packet that has one. -/
def lastDeadman (whole : List Packet) : Option Bool := (whole.filterMap Packet.deadman).getLast?

/-- What the polls answer, each to its part of the packets and after those before. -/
def Answers : List Packet → List (List Packet) → List PollResult → Prop
  | _, [], [] => True
  | before, part :: parts, out :: outs =>
    out.ok ∧ (∃ beat, out.events = part.flatMap (Packet.events deadzone) ++ beat ∧
        (beat = [] ∨ ∃ b, lastDeadman (before ++ part) = some b ∧ beat = [deadmanEvent b])) ∧
      ((out.events.filter isDeadman).getLast? = (lastDeadman (before ++ part)).map deadmanEvent) ∧
      Answers (before ++ part) parts outs
  | _, _, _ => False

/-! ## Packets -/

theorem packets_append (first second : List Byte) :
    packets (first ++ second) = ((packets first).1 ++ (packets ((packets first).2 ++ second)).1,
      (packets ((packets first).2 ++ second)).2) := by
  fun_induction packets first with
  | case1 t₀ t₁ t₂ t₃ low high type number rest ih =>
    simp only [cons_append, packets]
    rw [ih]
  | case2 buffer short => rfl

theorem packets_rest (bytes : List Byte) : (packets bytes).2.length ≤ 7 := by
  fun_induction packets bytes with
  | case1 t₀ t₁ t₂ t₃ low high type number rest ih => exact ih
  | case2 buffer short =>
    rcases buffer with _ | ⟨a, _ | ⟨b, _ | ⟨c, _ | ⟨d, _ | ⟨e, _ | ⟨f, _ | ⟨g, _ | ⟨h, rest⟩⟩⟩⟩⟩⟩⟩⟩ <;>
      first | exact (short a b c d e f g h rest rfl).elim | simp

theorem packets_short {bytes : List Byte} (short : bytes.length ≤ 7) : packets bytes = ([], bytes) := by
  fun_induction packets bytes with
  | case1 t₀ t₁ t₂ t₃ low high type number rest ih =>
    simp only [length_cons] at short
    omega
  | case2 buffer _ => rfl

theorem initial_quiet {p : Packet} (initial : p.initial) : p.Quiet deadzone := by
  unfold Packet.Quiet Packet.deadman Packet.events
  rw [initial, Bool.true_and]
  by_cases pressed : p.base = 0x01
  · simp only [pressed, decide_true, if_true, true_and]
    intro e member
    split at member
    · cases List.mem_singleton.mp member
      exact ⟨nofun, nofun, nofun⟩
    · cases member
  · simp only [pressed, decide_false, Bool.false_eq_true, if_false, false_and, nil_append, true_and]
    intro e member
    split at member
    · obtain ⟨control, -, rfl⟩ := List.mem_map.mp member
      exact ⟨nofun, nofun, nofun⟩
    · cases member

theorem filter_events (p : Packet) : (p.events deadzone).filter isDeadman = p.deadman.toList.map deadmanEvent := by
  have pressed : ((buttons p.number).toList.map fun kind => (⟨kind, none, .none⟩ : Event)).filter isDeadman = [] := by
    unfold buttons
    split <;> rfl
  have moved (q : ℚ) : ((axes p.number).toList.map fun control => (⟨.axis, some control, .axis q⟩ : Event)).filter isDeadman = [] := by
    cases axes p.number <;> rfl
  unfold Packet.events Packet.deadman
  split
  · split <;> rfl
  · rw [List.filter_append]
    split <;> simp only [pressed, List.filter_nil, List.nil_append] <;> split
    any_goals rfl
    all_goals
      split
      · exact moved _
      · rfl

theorem filter_flatMap_events (part : List Packet) : (part.flatMap (Packet.events deadzone)).filter isDeadman =
    (part.filterMap Packet.deadman).map deadmanEvent := by
  induction part with
  | nil => rfl
  | cons p part ih =>
    rw [flatMap_cons, filter_append, filter_events, ih, filterMap_cons]
    cases p.deadman <;> rfl

theorem lastDeadman_append (before part : List Packet) :
    lastDeadman (before ++ part) = (lastDeadman part).or (lastDeadman before) := by
  rw [lastDeadman, filterMap_append, getLast?_append]
  rfl

theorem foldl_received (part : List Packet) (deadman : Option Bool) :
    part.foldl received deadman = (lastDeadman part).or deadman := by
  induction part generalizing deadman with
  | nil => rfl
  | cons p part ih =>
    rw [foldl_cons, ih, ← singleton_append, lastDeadman_append, Option.or_assoc]
    cases here : p.deadman <;> simp [received, lastDeadman, here]

/-- A poll reports the deadman after its packets, by one of them or by the heartbeat. -/
theorem heartbeat_reported (part : List Packet) (deadman : Option Bool) :
    ((part.flatMap (Packet.events deadzone) ++ heartbeat ((lastDeadman part).or deadman)
      (part.flatMap (Packet.events deadzone))).filter isDeadman).getLast? =
      ((lastDeadman part).or deadman).map deadmanEvent := by
  have found := filter_flatMap_events deadzone part
  rw [filter_append, found]
  cases here : part.filterMap Packet.deadman with
  | nil =>
    rw [here, map_nil, filter_eq_nil_iff] at found
    have quiet : (part.flatMap (Packet.events deadzone)).any isDeadman = false := List.any_eq_false.mpr found
    rw [heartbeat, quiet, lastDeadman, here]
    cases deadman <;> rfl
  | cons b rest =>
    have loud : (part.flatMap (Packet.events deadzone)).any isDeadman = true := by
      have member : deadmanEvent b ∈ (part.flatMap (Packet.events deadzone)).filter isDeadman := by
        rw [found, here]
        exact mem_cons_self
      obtain ⟨member, is⟩ := List.mem_filter.mp member
      exact List.any_eq_true.mpr ⟨_, member, is⟩
    rw [heartbeat, loud, lastDeadman, here, if_pos rfl, filter_nil, append_nil, getLast?_map, getLast?_cons]
    rfl

/-! ## Any run -/

/-- One poll decodes what it read after what was left. -/
theorem poll_fair {s : Input} {read : Read} (fair : read.Fair) :
    (poll deadzone s read).1 = ⟨(packets (s.buffer ++ read.bytes)).2,
        (lastDeadman (packets (s.buffer ++ read.bytes)).1).or s.deadman⟩ ∧
      (poll deadzone s read).2 = ⟨(packets (s.buffer ++ read.bytes)).1.flatMap (Packet.events deadzone) ++
        heartbeat ((lastDeadman (packets (s.buffer ++ read.bytes)).1).or s.deadman)
          ((packets (s.buffer ++ read.bytes)).1.flatMap (Packet.events deadzone)), none, false⟩ := by
  rw [← foldl_received]
  cases read with
  | notReady | blocked => exact ⟨rfl, rfl⟩
  | data bytes =>
    cases bytes with
    | nil => exact absurd rfl fair.1
    | cons b bytes => exact ⟨rfl, rfl⟩
  | failed report => exact fair.elim

theorem run_answers {reads : List Read} (fair : ∀ read ∈ reads, read.Fair) {s : Input} {before : List Packet}
    (short : s.buffer.length ≤ 7) (known : s.deadman = lastDeadman before) :
    (run deadzone s reads).1.buffer.length ≤ 7 ∧ ∃ parts,
      parts.flatten = (packets (s.buffer ++ reads.flatMap Read.bytes)).1 ∧
        Answers deadzone before parts (run deadzone s reads).2 := by
  induction reads generalizing s before with
  | nil =>
    refine ⟨short, [], ?_, trivial⟩
    simp [packets_short short]
  | cons read reads ih =>
    obtain ⟨now, out⟩ := poll_fair deadzone (s := s) (fair read mem_cons_self)
    rcases polled : poll deadzone s read with ⟨t, result⟩
    rw [polled] at now out
    subst now out
    have after := lastDeadman_append before (packets (s.buffer ++ read.bytes)).1
    rw [← known] at after
    obtain ⟨left, parts, flat, answers⟩ :=
      @ih (fun r member => fair r (mem_cons_of_mem _ member)) ⟨_, _⟩ _ (packets_rest _) after.symm
    simp only [run, polled]
    refine ⟨left, (packets (s.buffer ++ read.bytes)).1 :: parts, ?_, rfl, ⟨_, rfl, ?_⟩, ?_, answers⟩
    · rw [flatten_cons, flat, flatMap_cons, ← append_assoc, packets_append (s.buffer ++ read.bytes)]
    · unfold heartbeat
      split
      · exact .inl rfl
      · rw [lastDeadman_append, known]
        cases (lastDeadman (packets (s.buffer ++ read.bytes)).1).or (lastDeadman before) with
        | none => exact .inl rfl
        | some b => exact .inr ⟨b, rfl, rfl⟩
    · rw [lastDeadman_append, ← known]
      exact heartbeat_reported _ _ _

/-- However a stream is cut, its packets are decoded in turn, and no snapshot acquires, releases or arms. -/
theorem decoding_independent {reads : List Read} (fair : ∀ read ∈ reads, read.Fair) :
    (run deadzone {} reads).1.buffer.length ≤ 7 ∧ (∃ parts, parts.flatten = (packets (reads.flatMap Read.bytes)).1 ∧
        Answers deadzone [] parts (run deadzone {} reads).2) ∧
      ∀ p : Packet, p.initial → p.Quiet deadzone := by
  obtain ⟨left, answers⟩ := @run_answers deadzone reads fair {} [] (Nat.zero_le _) rfl
  exact ⟨left, answers, fun p initial => initial_quiet deadzone initial⟩

/-- A press of the deadman in two reads. -/
def cutReads : List Read := [.data [0, 0, 0, 0, 1], .blocked, .data [0, 1, 4]]

theorem decoding_cut : ∃ parts, parts.flatten = (packets (cutReads.flatMap Read.bytes)).1 ∧
    Answers (1 / 10) [] parts (run (1 / 10) {} cutReads).2 :=
  (decoding_independent (1 / 10) (show ∀ read ∈ cutReads, read.Fair by simp [cutReads, Read.Fair])).2.1

end EmbodiRun.Devices.Joystick
