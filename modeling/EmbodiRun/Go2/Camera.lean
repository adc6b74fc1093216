/-
# Go2.Camera -- the two snapshot stores of the camera agent and the reader of a matched pair

`FrameStore` and `DepthStore` publish under their own locks, and `matched_observation` holds neither:
it reads both slots, builds its metadata from two more reads, and reads both slots again.  A store's
sequence increases, so two of its snapshots are equal only if they are one object.

* `matched_pair`: **what is returned was the latest of both stores at one instant**.
-/
import EmbodiRun.Data.Except
import EmbodiRun.Data.Json
import EmbodiRun.Transition.Passed

namespace EmbodiRun.Go2.Camera

open Data Transition

abbrev Time := ℚ

abbrev Bytes := List UInt8

/-! ## Validation -/

/-- `validate_timestamp`, and `float(value)`. -/
def validateTimestamp (name : String) : Option Double → Except String (Option Time)
  | none => .ok none
  | some (.finite value) =>
    if value < 0 then .error (name ++ " must be a finite non-negative number") else .ok (some value)
  | some .minusZero => .ok (some 0)
  | some _ => .error (name ++ " must be a finite non-negative number")

def validateSourceFrameNumber : Option ℤ → Except String Unit
  | some n => if n < 0 then .error "source_frame_number must be a non-negative integer" else .ok ()
  | none => .ok ()

/-- The check of a distance in `DepthStore.update`. -/
def validateDistance (name : String) : Option Double → Except String (Option ℚ)
  | none => .ok none
  | some (.finite value) =>
    if value ≤ 0 then .error (name ++ " must be a finite positive number") else .ok (some value)
  | some _ => .error (name ++ " must be a finite positive number")

def validateFraction : Double → Except String ℚ
  | .finite value =>
    if 0 ≤ value ∧ value ≤ 1 then .ok value
    else .error "valid_fraction must be between zero and one"
  | .minusZero => .ok 0
  | _ => .error "valid_fraction must be between zero and one"

def pngSignature : Bytes := [0x89, 0x50, 0x4E, 0x47, 0x0D, 0x0A, 0x1A, 0x0A]

def validatePng : Option Bytes → Except String (Option Bytes)
  | none => .ok none
  | some png =>
    if png = [] then .error "depth_png must be non-empty bytes or None"
    else if pngSignature.isPrefixOf png then .ok (some png)
    else .error "depth_png must have a PNG signature"

/-! ## The stores -/

structure VideoProfile where
  width : ℤ
  height : ℤ
  deriving DecidableEq

structure FrameSnapshot where
  jpeg : Bytes
  sequence : ℤ
  capturedAtUnix : Time
  capturedAtMonotonic : Time
  sourceTimestampMs : Option Time
  sourceFrameNumber : Option ℤ
  deriving DecidableEq

open FrameSnapshot

structure DepthSnapshot where
  centerDistanceM : Option ℚ
  minimumDistanceM : Option ℚ
  validFraction : ℚ
  sequence : ℤ
  capturedAtUnix : Time
  capturedAtMonotonic : Time
  depthPng : Option Bytes
  sourceTimestampMs : Option Time
  sourceFrameNumber : Option ℤ
  deriving DecidableEq

open DepthSnapshot

/-- The sequence of what is in the slot, `0` of none. -/
def FrameSnapshot.rank (slot : Option FrameSnapshot) : ℤ := slot.elim 0 sequence

def DepthSnapshot.rank (slot : Option DepthSnapshot) : ℤ := slot.elim 0 sequence

structure FrameStore where
  frame : Option FrameSnapshot := none
  sequence : ℤ := 0
  captureRunning : Bool := false
  lastError : Option String := none
  device : Option String := none
  profile : Option VideoProfile := none
  numbered : rank frame = sequence := by rfl
  deriving DecidableEq

structure DepthStore where
  width : ℤ
  height : ℤ
  snapshot : Option DepthSnapshot := none
  sequence : ℤ := 0
  captureRunning : Bool := false
  lastError : Option String := none
  device : Option String := none
  profile : Option VideoProfile := none
  backend : String := "v4l2"
  registrationVerified : Bool := false
  rgbDepthAligned : Bool := false
  depthScaleM : Option Double := none
  numbered : rank snapshot = sequence := by rfl
  deriving DecidableEq

structure FrameUpdate where
  jpeg : Bytes
  sequence : Option ℤ := none
  capturedAtUnix : Option Double := none
  capturedAtMonotonic : Option Double := none
  sourceTimestampMs : Option Double := none
  sourceFrameNumber : Option ℤ := none

structure DepthUpdate where
  centerDistanceM : Option Double
  minimumDistanceM : Option Double
  validFraction : Double
  error : Option String := none
  sequence : Option ℤ := none
  capturedAtUnix : Option Double := none
  capturedAtMonotonic : Option Double := none
  sourceTimestampMs : Option Double := none
  sourceFrameNumber : Option ℤ := none
  depthPng : Option Bytes := none

namespace FrameStore

/-- The section of `update` under the lock; `wall` and `clock` are what the clocks read. -/
def publish (store : FrameStore) (snapshot : ℤ → FrameSnapshot)
    (given : ∀ n, (snapshot n).sequence = n) (sequence : Option ℤ) : Except String FrameStore :=
  let next := sequence.getD (store.sequence + 1)
  if next ≤ store.sequence then .error "frame sequence must increase"
  else .ok { store with frame := some (snapshot next), sequence := next, lastError := none
                        numbered := given next }

def update (store : FrameStore) (args : FrameUpdate) (wall clock : Time) : Except String FrameStore := do
  if args.jpeg = [] then throw "jpeg must not be empty"
  let unix ← validateTimestamp "captured_at_unix" args.capturedAtUnix
  let monotonic ← validateTimestamp "captured_at_monotonic" args.capturedAtMonotonic
  let source ← validateTimestamp "source_timestamp_ms" args.sourceTimestampMs
  validateSourceFrameNumber args.sourceFrameNumber
  store.publish (fun sequence => ⟨args.jpeg, sequence, unix.getD wall, monotonic.getD clock, source,
    args.sourceFrameNumber⟩) (fun _ => rfl) args.sequence

def setCaptureRunning (store : FrameStore) (running : Bool) : FrameStore :=
  { store with captureRunning := running }

def setError (store : FrameStore) (error : Option String) : FrameStore :=
  { store with lastError := error }

def setSourceProfile (store : FrameStore) (device : String) (profile : VideoProfile) : FrameStore :=
  { store with device := some device, profile := some profile }

end FrameStore

namespace DepthStore

def publish (store : DepthStore) (snapshot : ℤ → DepthSnapshot)
    (given : ∀ n, (snapshot n).sequence = n) (sequence : Option ℤ) (error : Option String) :
    Except String DepthStore :=
  let next := sequence.getD (store.sequence + 1)
  if next ≤ store.sequence then .error "depth sequence must increase"
  else .ok { store with snapshot := some (snapshot next), sequence := next, lastError := error
                        numbered := given next }

def update (store : DepthStore) (args : DepthUpdate) (wall clock : Time) : Except String DepthStore := do
  let center ← validateDistance "center_distance_m" args.centerDistanceM
  let minimum ← validateDistance "minimum_distance_m" args.minimumDistanceM
  let fraction ← validateFraction args.validFraction
  let unix ← validateTimestamp "captured_at_unix" args.capturedAtUnix
  let monotonic ← validateTimestamp "captured_at_monotonic" args.capturedAtMonotonic
  let source ← validateTimestamp "source_timestamp_ms" args.sourceTimestampMs
  validateSourceFrameNumber args.sourceFrameNumber
  let png ← validatePng args.depthPng
  store.publish (fun sequence => ⟨center, minimum, fraction, sequence, unix.getD wall,
    monotonic.getD clock, png, source, args.sourceFrameNumber⟩) (fun _ => rfl) args.sequence args.error

def setCaptureRunning (store : DepthStore) (running : Bool) : DepthStore :=
  { store with captureRunning := running }

def setError (store : DepthStore) (error : Option String) : DepthStore :=
  { store with lastError := error }

def setSourceProfile (store : DepthStore) (device : String) (profile : VideoProfile) : DepthStore :=
  { store with device := some device, profile := some profile }

def setRegistration (store : DepthStore) (verified aligned : Bool) (depthScaleM : Option Double) : DepthStore :=
  { store with registrationVerified := verified, rgbDepthAligned := aligned, depthScaleM }

end DepthStore

/-- `frame_age` and `snapshot_age`. -/
def age (clock captured : Time) : Time := max 0 (clock - captured)

/-! ## Health and status -/

inductive Status where
  | ok
  | starting
  | degraded
  deriving DecidableEq

structure Health where
  status : Status
  captureRunning : Bool
  frameAvailable : Bool
  frameFresh : Bool
  frameSequence : ℤ
  lastError : Option String
  rgbDevice : Option String
  rgbProfile : Option VideoProfile
  sourceTimestampMs : Option Time
  sourceFrameNumber : Option ℤ
  deriving DecidableEq

/-- `health`, after its section; `clock` is what `frame_age` reads. -/
def FrameStore.health (read : FrameStore) (maxFrameAge clock : Time) : Health :=
  let fresh := read.frame.any fun frame => age clock frame.capturedAtMonotonic ≤ maxFrameAge
  { status := if read.captureRunning && fresh then .ok
      else if read.captureRunning && read.frame.isNone && read.lastError.isNone then .starting
      else .degraded
    captureRunning := read.captureRunning
    frameAvailable := read.frame.isSome
    frameFresh := fresh
    frameSequence := rank read.frame
    lastError := read.lastError
    rgbDevice := read.device
    rgbProfile := read.profile
    sourceTimestampMs := read.frame.bind sourceTimestampMs
    sourceFrameNumber := read.frame.bind sourceFrameNumber }

structure Depth where
  available : Bool
  centerDistanceM : Option ℚ
  minimumDistanceM : Option ℚ
  capturedAtUnix : Option Time
  width : ℤ
  height : ℤ
  frameSequence : ℤ
  sequence : ℤ
  validFraction : ℚ
  rawDepthAvailable : Bool
  captureRunning : Bool
  lastError : Option String
  depthDevice : Option String
  depthProfile : Option VideoProfile
  backend : String
  registrationVerified : Bool
  rgbDepthAligned : Bool
  depthScaleM : Option Double
  sourceTimestampMs : Option Time
  sourceFrameNumber : Option ℤ
  deriving DecidableEq

section

-- `round(·, 4)`.
variable (round4 : ℚ → ℚ)

/-- `status`, after its section. -/
def DepthStore.status (read : DepthStore) (maxDepthAge clock : Time) : Depth where
  available := read.captureRunning && read.snapshot.any fun depth =>
    depth.centerDistanceM.isSome && depth.minimumDistanceM.isSome &&
      decide (age clock depth.capturedAtMonotonic ≤ maxDepthAge)
  centerDistanceM := read.snapshot.bind centerDistanceM
  minimumDistanceM := read.snapshot.bind minimumDistanceM
  capturedAtUnix := read.snapshot.map DepthSnapshot.capturedAtUnix
  width := read.width
  height := read.height
  frameSequence := rank read.snapshot
  sequence := rank read.snapshot
  validFraction := read.snapshot.elim 0 fun depth => round4 depth.validFraction
  rawDepthAvailable := read.snapshot.any fun depth => depth.depthPng.isSome
  captureRunning := read.captureRunning
  lastError := read.lastError
  depthDevice := read.device
  depthProfile := read.profile
  backend := read.backend
  registrationVerified := read.registrationVerified
  rgbDepthAligned := read.rgbDepthAligned
  depthScaleM := read.depthScaleM
  sourceTimestampMs := read.snapshot.bind sourceTimestampMs
  sourceFrameNumber := read.snapshot.bind sourceFrameNumber

structure Source where
  maxFrameAge : Time
  maxDepthAge : Time
  calibrationConfirmed : Bool
  rgbDepthAlignmentClaimed : Bool
  depthScaleM : Option Double

/-- What `depth_payload` returns. -/
structure Payload extends Depth where
  calibrationConfirmed : Bool
  rgbDepthAlignmentClaimed : Bool
  rgbDevice : Option String
  rgbProfile : Option VideoProfile
  pairSequenceMatched : Bool
  navigationReady : Bool
  observationReady : Bool
  deriving DecidableEq

/-- `depth_payload`, from its two reads. -/
def depthPayload (source : Source) (health : Health) (depth : Depth) : Payload :=
  let aligned := depth.rgbDepthAligned && depth.backend = "realsense" && depth.registrationVerified
  let matched := decide (0 < depth.frameSequence) && depth.frameSequence = health.frameSequence
  let ready := depth.available && source.calibrationConfirmed && aligned &&
    depth.backend = "realsense" && depth.registrationVerified && matched &&
    health.status = .ok && health.rgbProfile.isSome && depth.depthProfile.isSome
  { depth with
    rgbDepthAligned := aligned
    depthScaleM := depth.depthScaleM <|> source.depthScaleM
    calibrationConfirmed := source.calibrationConfirmed
    rgbDepthAlignmentClaimed := source.rgbDepthAlignmentClaimed
    rgbDevice := health.rgbDevice
    rgbProfile := health.rgbProfile
    pairSequenceMatched := matched
    navigationReady := ready
    observationReady := ready && depth.rawDepthAvailable }

/-! ## `matched_observation` -/

inductive Stage where
  | frame (attempts : Nat)
  | depth (attempts : Nat) (frame : Option FrameSnapshot)
  | health (attempts : Nat) (frame : Option FrameSnapshot) (depth : Option DepthSnapshot)
  /-- The section of `health` is over, and its clock is next. -/
  | healthAge (attempts : Nat) (frame : Option FrameSnapshot) (depth : Option DepthSnapshot)
      (read : FrameStore)
  | status (attempts : Nat) (frame : Option FrameSnapshot) (depth : Option DepthSnapshot)
      (health : Health)
  | statusAge (attempts : Nat) (frame : Option FrameSnapshot) (depth : Option DepthSnapshot)
      (health : Health) (read : DepthStore)
  | frameAgain (attempts : Nat) (frame : Option FrameSnapshot) (depth : Option DepthSnapshot)
      (metadata : Payload)
  | depthAgain (attempts : Nat) (frame : Option FrameSnapshot) (depth : Option DepthSnapshot)
      (metadata : Payload)
  | frameAge (frame : FrameSnapshot) (depth : DepthSnapshot) (metadata : Payload)
  | depthAge (frame : FrameSnapshot) (depth : DepthSnapshot) (metadata : Payload)
  | returned (frame : FrameSnapshot) (depth : DepthSnapshot) (metadata : Payload)
  | raised (message : String)
  deriving DecidableEq

def checkPair (frame : Option FrameSnapshot) (depth : Option DepthSnapshot) (metadata : Payload) :
    Except String (FrameSnapshot × DepthSnapshot) :=
  match frame, depth with
  | some frame, some depth =>
    if !metadata.navigationReady then .error "matched RGB-D observation is not navigation-ready"
    else if depth.depthPng.isNone then .error "raw aligned depth PNG is unavailable"
    else if frame.sequence ≤ 0 ∨ frame.sequence ≠ depth.sequence then
      .error "RGB and depth sequences do not match"
    else if metadata.sequence ≠ frame.sequence then
      .error "RGB-D metadata sequence does not match the snapshot"
    else if frame.capturedAtUnix ≠ depth.capturedAtUnix ∨ frame.capturedAtMonotonic ≠ depth.capturedAtMonotonic then
      .error "RGB and depth capture timestamps do not match"
    else if frame.sourceFrameNumber.all (· < 0) ∨ frame.sourceFrameNumber ≠ depth.sourceFrameNumber then
      .error "RGB and depth source frame numbers do not match"
    else if frame.sourceTimestampMs.isNone ∨ frame.sourceTimestampMs ≠ depth.sourceTimestampMs then
      .error "RGB and depth source timestamps do not match"
    else .ok (frame, depth)
  | _, _ => .error "no matched RGB-D observation is available"

def jpegStart : Bytes := [0xFF, 0xD8]

def jpegEnd : Bytes := [0xFF, 0xD9]

def positiveScale : Option Double → Bool
  | some (.finite value) => 0 < value
  | _ => false

/-- The checks after the ages; `width` and `height` are the store's. -/
def checkPayloads (width height : ℤ) (frame : FrameSnapshot) (depth : DepthSnapshot)
    (metadata : Payload) : Except String Unit :=
  if !(jpegStart.isPrefixOf frame.jpeg && jpegEnd.isSuffixOf frame.jpeg) then
    .error "matched RGB payload is not a complete JPEG"
  else if !depth.depthPng.any pngSignature.isPrefixOf then .error "matched depth payload is not a PNG"
  else if !positiveScale metadata.depthScaleM then .error "matched depth scale is invalid"
  else match metadata.rgbProfile, metadata.depthProfile with
    | some rgb, some depth =>
      if rgb.width ≤ 0 ∨ rgb.height ≤ 0 ∨ depth.width ≤ 0 ∨ depth.height ≤ 0 ∨ rgb ≠ depth ∨
          depth ≠ ⟨width, height⟩ then
        .error "matched RGB-D dimensions do not agree"
      else .ok ()
    | _, _ => .error "matched RGB-D profiles are unavailable"

structure State where
  frames : FrameStore
  depths : DepthStore
  stage : Stage
  deriving DecidableEq

inductive Label where
  | updateFrame (args : FrameUpdate) (wall clock : Time)
  | updateDepth (args : DepthUpdate) (wall clock : Time)
  | frameRunning (running : Bool)
  | depthRunning (running : Bool)
  | frameError (error : Option String)
  | depthError (error : Option String)
  | frameProfile (device : String) (profile : VideoProfile)
  | depthProfile (device : String) (profile : VideoProfile)
  | registration (verified aligned : Bool) (depthScaleM : Option Double)
  /-- The next step of `matched_observation`; `clock` is what a clock reads in it. -/
  | read (clock : Time)

variable (source : Source)

def retry : Nat → Stage
  | 0 => .raised "RGB-D observation changed while it was being read"
  | n + 1 => .frame n

/-- A step of `matched_observation`; `none` once it is over. -/
def matchedStep (s : State) (clock : Time) : Option Stage :=
  match s.stage with
  | .frame n => some (.depth n s.frames.frame)
  | .depth n frame => some (.health n frame s.depths.snapshot)
  | .health n frame depth => some (.healthAge n frame depth s.frames)
  | .healthAge n frame depth read =>
    some (.status n frame depth (read.health source.maxFrameAge clock))
  | .status n frame depth health => some (.statusAge n frame depth health s.depths)
  | .statusAge n frame depth health read => some (.frameAgain n frame depth
      (depthPayload source health (read.status round4 source.maxDepthAge clock)))
  | .frameAgain n frame depth metadata =>
    some (if frame ≠ s.frames.frame then retry n else .depthAgain n frame depth metadata)
  | .depthAgain n frame depth metadata =>
    some (if depth ≠ s.depths.snapshot then retry n else match checkPair frame depth metadata with
        | .ok (frame, depth) => .frameAge frame depth metadata
        | .error message => .raised message)
  | .frameAge frame depth metadata =>
    some (if source.maxFrameAge < age clock frame.capturedAtMonotonic then
        .raised "matched RGB frame is stale"
      else .depthAge frame depth metadata)
  | .depthAge frame depth metadata =>
    some (if source.maxDepthAge < age clock depth.capturedAtMonotonic then
        .raised "matched depth frame is stale"
      else match checkPayloads s.depths.width s.depths.height frame depth metadata with
        | .ok () => .returned frame depth metadata
        | .error message => .raised message)
  | .returned .. | .raised _ => none

def step (s : State) : Label → Option State
  | .updateFrame args wall clock => some { s with
      frames := ((s.frames.update args wall clock).toOption).getD s.frames }
  | .updateDepth args wall clock => some { s with
      depths := ((s.depths.update args wall clock).toOption).getD s.depths }
  | .frameRunning running => some { s with frames := s.frames.setCaptureRunning running }
  | .depthRunning running => some { s with depths := s.depths.setCaptureRunning running }
  | .frameError error => some { s with frames := s.frames.setError error }
  | .depthError error => some { s with depths := s.depths.setError error }
  | .frameProfile device profile => some { s with frames := s.frames.setSourceProfile device profile }
  | .depthProfile device profile => some { s with depths := s.depths.setSourceProfile device profile }
  | .registration verified aligned scale => some { s with
      depths := s.depths.setRegistration verified aligned scale }
  | .read clock => (matchedStep round4 source s clock).map fun stage => { s with stage }

end

/-! ## Slots -/

theorem rank_updateFrame {store store' : FrameStore} {args : FrameUpdate} {wall clock : Time}
    (updated : store.update args wall clock = .ok store') :
    rank store.frame < rank store'.frame := by
  unfold FrameStore.update at updated
  split at updated
  · cases updated
  obtain ⟨_, _, updated⟩ := bind_ok updated
  obtain ⟨_, _, updated⟩ := bind_ok updated
  obtain ⟨_, _, updated⟩ := bind_ok updated
  obtain ⟨_, _, published⟩ := bind_ok updated
  unfold FrameStore.publish at published
  dsimp only at published
  split at published
  · cases published
  · rename_i above
    obtain rfl := Except.ok.inj published
    rw [store.numbered]
    exact Int.not_le.mp above

theorem rank_updateDepth {store store' : DepthStore} {args : DepthUpdate} {wall clock : Time}
    (updated : store.update args wall clock = .ok store') :
    rank store.snapshot < rank store'.snapshot := by
  obtain ⟨_, _, updated⟩ := bind_ok updated
  obtain ⟨_, _, updated⟩ := bind_ok updated
  obtain ⟨_, _, updated⟩ := bind_ok updated
  obtain ⟨_, _, updated⟩ := bind_ok updated
  obtain ⟨_, _, updated⟩ := bind_ok updated
  obtain ⟨_, _, updated⟩ := bind_ok updated
  obtain ⟨_, _, updated⟩ := bind_ok updated
  obtain ⟨_, _, published⟩ := bind_ok updated
  unfold DepthStore.publish at published
  dsimp only at published
  split at published
  · cases published
  · rename_i above
    obtain rfl := Except.ok.inj published
    rw [store.numbered]
    exact Int.not_le.mp above

/-- `held` was read of the slot: it is in it, or the slot has risen above it. -/
def FrameSnapshot.Read (held slot : Option FrameSnapshot) : Prop :=
  slot = held ∨ rank held < rank slot

def DepthSnapshot.Read (held slot : Option DepthSnapshot) : Prop :=
  slot = held ∨ rank held < rank slot

theorem FrameSnapshot.Read.trans {a b c} (first : Read a b) (second : Read b c) : Read a c := by
  rcases first with rfl | rose
  · exact second
  · rcases second with rfl | rose'
    · exact .inr rose
    · exact .inr (Int.lt_trans rose rose')

theorem DepthSnapshot.Read.trans {a b c} (first : Read a b) (second : Read b c) : Read a c := by
  rcases first with rfl | rose
  · exact second
  · rcases second with rfl | rose'
    · exact .inr rose
    · exact .inr (Int.lt_trans rose rose')

section

variable {round4 : ℚ → ℚ} {source : Source} {s t : State} {l : Label}

theorem step_cases (next : step round4 source s l = some t) :
    (t.stage = s.stage ∧ FrameSnapshot.Read s.frames.frame t.frames.frame ∧
        DepthSnapshot.Read s.depths.snapshot t.depths.snapshot) ∨
      ∃ clock stage, l = .read clock ∧ matchedStep round4 source s clock = some stage ∧ t = { s with stage } := by
  cases l with
  | updateFrame =>
    cases next
    refine .inl ⟨rfl, ?_, .inl rfl⟩
    exact toOption_ok (P := fun store => FrameSnapshot.Read s.frames.frame store.frame) (.inl rfl)
      fun store updated => .inr (rank_updateFrame updated)
  | updateDepth =>
    cases next
    refine .inl ⟨rfl, .inl rfl, ?_⟩
    exact toOption_ok (P := fun store => DepthSnapshot.Read s.depths.snapshot store.snapshot) (.inl rfl)
      fun store updated => .inr (rank_updateDepth updated)
  | read clock =>
    obtain ⟨stage, moved, rfl⟩ := Option.map_eq_some_iff.mp next
    exact .inr ⟨clock, stage, rfl, moved, rfl⟩
  | _ =>
    cases next
    exact .inl ⟨rfl, .inl rfl, .inl rfl⟩

end

/-! ## What the reader knows -/

structure Pair (frame : FrameSnapshot) (depth : DepthSnapshot) : Prop where
  sequence : frame.sequence = depth.sequence
  unix : frame.capturedAtUnix = depth.capturedAtUnix
  monotonic : frame.capturedAtMonotonic = depth.capturedAtMonotonic
  timestamp : frame.sourceTimestampMs.isSome ∧ frame.sourceTimestampMs = depth.sourceTimestampMs
  number : frame.sourceFrameNumber.isSome ∧ frame.sourceFrameNumber = depth.sourceFrameNumber

structure Describes (round4 : ℚ → ℚ) (metadata : Payload) (depth : DepthSnapshot) : Prop where
  center : metadata.centerDistanceM = depth.centerDistanceM
  minimum : metadata.minimumDistanceM = depth.minimumDistanceM
  fraction : metadata.validFraction = round4 depth.validFraction
  raw : metadata.rawDepthAvailable = depth.depthPng.isSome
  captured : metadata.capturedAtUnix = some depth.capturedAtUnix
  sequence : metadata.sequence = depth.sequence ∧ metadata.frameSequence = depth.sequence
  timestamp : metadata.sourceTimestampMs = depth.sourceTimestampMs
  number : metadata.sourceFrameNumber = depth.sourceFrameNumber

theorem describes_status {round4 : ℚ → ℚ} {source : Source} {health : Health} {read : DepthStore}
    {depth : DepthSnapshot} {clock : Time} (held : read.snapshot = some depth) :
    Describes round4 (depthPayload source health (read.status round4 source.maxDepthAge clock)) depth := by
  constructor <;> simp [depthPayload, DepthStore.status, held, DepthSnapshot.rank]

theorem checkPair_ok {frame : Option FrameSnapshot} {f : FrameSnapshot}
    {depth : Option DepthSnapshot} {d : DepthSnapshot} {metadata : Payload}
    (accepted : checkPair frame depth metadata = .ok (f, d)) :
    frame = some f ∧ depth = some d ∧ Pair f d := by
  unfold checkPair at accepted
  split at accepted
  · rename_i f' d'
    split at accepted
    · cases accepted
    split at accepted
    · cases accepted
    split at accepted
    · cases accepted
    rename_i sequence
    split at accepted
    · cases accepted
    split at accepted
    · cases accepted
    rename_i captured
    split at accepted
    · cases accepted
    rename_i number
    split at accepted
    · cases accepted
    rename_i timestamp
    obtain ⟨rfl, rfl⟩ := Prod.mk.inj (Except.ok.inj accepted)
    obtain ⟨_, sequence⟩ := not_or.mp sequence
    obtain ⟨unix, monotonic⟩ := not_or.mp captured
    obtain ⟨given, number⟩ := not_or.mp number
    obtain ⟨stamped, timestamp⟩ := not_or.mp timestamp
    refine ⟨rfl, rfl, not_not.mp sequence, not_not.mp unix, not_not.mp monotonic,
      ⟨by simpa [Option.isSome_iff_ne_none] using stamped, not_not.mp timestamp⟩, ⟨?_, not_not.mp number⟩⟩
    cases present : f'.sourceFrameNumber with
    | none => simp [present] at given
    | some => rfl
  · cases accepted

section

variable {round4 : ℚ → ℚ} {source : Source} {s t : State} {ls : List Label}

def Together (round4 : ℚ → ℚ) (source : Source) (s : State) (ls : List Label)
    (frame : Option FrameSnapshot) (depth : Option DepthSnapshot) : Prop :=
  Passed (step round4 source) s ls fun u => u.frames.frame = frame ∧ u.depths.snapshot = depth

structure Knows (round4 : ℚ → ℚ) (source : Source) (s : State) (ls : List Label) (u : State)
    (frame : Option FrameSnapshot) (depth : Option DepthSnapshot) : Prop where
  first : FrameSnapshot.Read frame u.frames.frame
  second : DepthSnapshot.Read depth u.depths.snapshot
  pair : Together round4 source s ls frame depth ∨ rank frame < rank u.frames.frame

def Told (round4 : ℚ → ℚ) (u : State) (depth : Option DepthSnapshot) (metadata : Payload) : Prop :=
  (∀ d, depth = some d → Describes round4 metadata d) ∨ rank depth < rank u.depths.snapshot

def FrameChecked (round4 : ℚ → ℚ) (source : Source) (s : State) (ls : List Label) (frame : FrameSnapshot) : Prop :=
  Took (step round4 source) s ls fun u l => ∃ depth metadata clock,
    u.stage = .frameAge frame depth metadata ∧ l = .read clock ∧
      age clock frame.capturedAtMonotonic ≤ source.maxFrameAge

def DepthChecked (round4 : ℚ → ℚ) (source : Source) (s : State) (ls : List Label) (depth : DepthSnapshot) : Prop :=
  Took (step round4 source) s ls fun u l => ∃ frame metadata clock,
    u.stage = .depthAge frame depth metadata ∧ l = .read clock ∧
      age clock depth.capturedAtMonotonic ≤ source.maxDepthAge

def Inv (round4 : ℚ → ℚ) (source : Source) (s : State) (ls : List Label) (u : State) : Prop :=
  match u.stage with
  | .frame _ | .raised _ => True
  | .depth _ f => FrameSnapshot.Read f u.frames.frame
  | .health _ f d | .healthAge _ f d _ | .status _ f d _ => Knows round4 source s ls u f d
  | .statusAge _ f d _ read => Knows round4 source s ls u f d ∧
      (read.snapshot = d ∨ rank d < rank u.depths.snapshot)
  | .frameAgain _ f d m => Knows round4 source s ls u f d ∧ Told round4 u d m
  | .depthAgain _ f d m => Together round4 source s ls f d ∧ Told round4 u d m
  | .frameAge f d m => Together round4 source s ls (some f) (some d) ∧ Pair f d ∧ Describes round4 m d
  | .depthAge f d m => Together round4 source s ls (some f) (some d) ∧ Pair f d ∧
      Describes round4 m d ∧ FrameChecked round4 source s ls f
  | .returned f d m => Together round4 source s ls (some f) (some d) ∧ Pair f d ∧
      Describes round4 m d ∧ FrameChecked round4 source s ls f ∧ DepthChecked round4 source s ls d

theorem rank_read {a b c} (rose : FrameSnapshot.rank a < FrameSnapshot.rank b)
    (read : FrameSnapshot.Read b c) : FrameSnapshot.rank a < FrameSnapshot.rank c := by
  rcases read with rfl | rose'
  · exact rose
  · exact Int.lt_trans rose rose'

theorem rank_readDepth {a b c}
    (rose : DepthSnapshot.rank a < DepthSnapshot.rank b) (read : DepthSnapshot.Read b c) :
    DepthSnapshot.rank a < DepthSnapshot.rank c := by
  rcases read with rfl | rose'
  · exact rose
  · exact Int.lt_trans rose rose'
variable {u v : State} {depth : Option DepthSnapshot}

theorem Knows.later {frame} (knows : Knows round4 source s ls u frame depth)
    (l : Label) (frames : FrameSnapshot.Read u.frames.frame v.frames.frame)
    (depths : DepthSnapshot.Read u.depths.snapshot v.depths.snapshot) :
    Knows round4 source s (ls ++ [l]) v frame depth :=
  ⟨knows.first.trans frames, knows.second.trans depths,
    knows.pair.imp (fun together => together.later l) fun rose => rank_read rose frames⟩

theorem Told.later {metadata} (told : Told round4 u depth metadata)
    (depths : DepthSnapshot.Read u.depths.snapshot v.depths.snapshot) : Told round4 v depth metadata :=
  told.imp_right fun rose => rank_readDepth rose depths

theorem inv_other {l} (inv : Inv round4 source s ls u) (same : v.stage = u.stage)
    (frames : FrameSnapshot.Read u.frames.frame v.frames.frame)
    (depths : DepthSnapshot.Read u.depths.snapshot v.depths.snapshot) :
    Inv round4 source s (ls ++ [l]) v := by
  unfold Inv at inv ⊢
  rw [same]
  cases stage : u.stage with rw [stage] at inv
  | frame | raised => trivial
  | depth => exact FrameSnapshot.Read.trans inv frames
  | health | healthAge | status => exact Knows.later inv l frames depths
  | statusAge =>
    exact ⟨inv.1.later l frames depths, inv.2.imp_right fun rose => rank_readDepth rose depths⟩
  | frameAgain => exact ⟨inv.1.later l frames depths, inv.2.later depths⟩
  | depthAgain => exact ⟨inv.1.later l, inv.2.later depths⟩
  | frameAge => exact ⟨inv.1.later l, inv.2⟩
  | depthAge => exact ⟨inv.1.later l, inv.2.1, inv.2.2.1, inv.2.2.2.later l⟩
  | returned => exact ⟨inv.1.later l, inv.2.1, inv.2.2.1, inv.2.2.2.1.later l, inv.2.2.2.2.later l⟩

theorem inv_read {u : State} {clock : Time} {stage : Stage}
    (ran : run (step round4 source) s ls = some u) (inv : Inv round4 source s ls u)
    (moved : matchedStep round4 source u clock = some stage) :
    Inv round4 source s (ls ++ [.read clock]) { u with stage } := by
  have later {P : State → Prop} (passed : Passed (step round4 source) s ls P) :
      Passed (step round4 source) s (ls ++ [.read clock]) P := passed.later _
  have again (n : Nat) : Inv round4 source s (ls ++ [.read clock]) { u with stage := retry n } := by
    cases n <;> trivial
  unfold Inv at inv
  unfold matchedStep at moved
  cases here : u.stage with
  | frame =>
    rw [here] at moved
    cases moved
    exact .inl rfl
  | depth =>
    rw [here] at moved inv
    cases moved
    refine ⟨inv, .inl rfl, inv.imp_left fun same => ?_⟩
    exact later (passed_now ran ⟨same, rfl⟩)
  | health | healthAge =>
    rw [here] at moved inv
    cases moved
    exact Knows.later inv _ (.inl rfl) (.inl rfl)
  | status =>
    rw [here] at moved inv
    cases moved
    exact ⟨Knows.later inv _ (.inl rfl) (.inl rfl), inv.second⟩
  | statusAge =>
    rw [here] at moved inv
    cases moved
    refine ⟨inv.1.later _ (.inl rfl) (.inl rfl), inv.2.imp_left fun held e same => ?_⟩
    exact describes_status (held.trans same)
  | frameAgain n f =>
    rw [here] at moved inv
    cases moved
    by_cases changed : f ≠ u.frames.frame
    · rw [if_pos changed]
      exact again n
    · rw [if_neg changed]
      refine ⟨inv.1.pair.elim later fun rose => ?_, inv.2⟩
      rw [not_not.mp changed] at rose
      exact absurd rose (Int.lt_irrefl _)
  | depthAgain n f d m =>
    rw [here] at moved inv
    cases moved
    by_cases changed : d ≠ u.depths.snapshot
    · rw [if_pos changed]
      exact again n
    · rw [if_neg changed]
      have told := inv.2.resolve_right fun rose => by
        rw [not_not.mp changed] at rose
        exact Int.lt_irrefl _ rose
      cases checked : checkPair f d m with
      | error => trivial
      | ok pair =>
        obtain ⟨rfl, rfl, both⟩ := checkPair_ok (f := pair.1) (d := pair.2) checked
        exact ⟨later inv.1, both, told pair.2 rfl⟩
  | frameAge f d m =>
    rw [here] at moved inv
    cases moved
    by_cases stale : source.maxFrameAge < age clock f.capturedAtMonotonic
    · rw [if_pos stale]
      trivial
    · rw [if_neg stale]
      exact ⟨later inv.1, inv.2.1, inv.2.2, took_now ran ⟨d, m, clock, here, rfl, Rat.not_lt.mp stale⟩⟩
  | depthAge f d m =>
    rw [here] at moved inv
    cases moved
    by_cases stale : source.maxDepthAge < age clock d.capturedAtMonotonic
    · rw [if_pos stale]
      trivial
    · rw [if_neg stale]
      cases checkPayloads u.depths.width u.depths.height f d m with
      | error => trivial
      | ok => exact ⟨later inv.1, inv.2.1, inv.2.2.1, inv.2.2.2.later _,
          took_now ran ⟨f, m, clock, here, rfl, Rat.not_lt.mp stale⟩⟩
  | returned | raised =>
    rw [here] at moved
    cases moved

/-- **A matched observation**: two snapshots of one capture, latest at one instant and within their ages. -/
theorem matched_pair {frame : FrameSnapshot} {depth : DepthSnapshot} {metadata : Payload}
    (called : s.stage = .frame 2) (ran : run (step round4 source) s ls = some t)
    (returned : t.stage = .returned frame depth metadata) :
    Passed (step round4 source) s ls (fun u => u.frames.frame = some frame ∧ u.depths.snapshot = some depth) ∧
      Pair frame depth ∧ Describes round4 metadata depth ∧
      FrameChecked round4 source s ls frame ∧ DepthChecked round4 source s ls depth := by
  have inv := run_past (I := Inv round4 source s) (fun ls u l v before inv next => by
    rcases step_cases next with ⟨same, frames, depths⟩ | ⟨clock, stage, rfl, moved, rfl⟩
    · exact inv_other inv same frames depths
    · exact inv_read before inv moved) (by rw [Inv, called]; trivial) ran
  unfold Inv at inv
  rw [returned] at inv
  exact inv

end

/-! ## A call on one pair -/

def shot : FrameSnapshot := ⟨[0xFF, 0xD8, 0xFF, 0xD9], 1, 5, 5, some 7, some 3⟩

def depthShot : DepthSnapshot := ⟨some 2, some 1, 1, 1, 5, 5, some pngSignature, some 7, some 3⟩

def published : State where
  frames := { frame := some shot, sequence := 1, captureRunning := true, profile := some ⟨4, 2⟩ }
  depths := {
    width := 4, height := 2, snapshot := some depthShot, sequence := 1, captureRunning := true
    profile := some ⟨4, 2⟩, backend := "realsense", registrationVerified := true
    rgbDepthAligned := true, depthScaleM := some (.finite 1) }
  stage := .frame 2

def plainSource : Source := ⟨1, 1, true, true, none⟩

def plainPayload : Payload :=
  depthPayload plainSource (published.frames.health 1 5) (published.depths.status id 1 5)

def observed : State := { published with stage := .returned shot depthShot plainPayload }

theorem matched_pair_published : run (step id plainSource) published (List.replicate 10 (.read 5)) = some observed ∧
      Passed (step id plainSource) published (List.replicate 10 (.read 5))
        (fun u => u.frames.frame = some shot ∧ u.depths.snapshot = some depthShot) ∧
      Pair shot depthShot ∧ Describes id plainPayload depthShot ∧
      FrameChecked id plainSource published (List.replicate 10 (.read 5)) shot ∧
      DepthChecked id plainSource published (List.replicate 10 (.read 5)) depthShot := by
  have ran : run (step id plainSource) published (List.replicate 10 (.read 5)) = some observed := by
    decide +kernel
  exact ⟨ran, matched_pair rfl ran rfl⟩

end EmbodiRun.Go2.Camera
