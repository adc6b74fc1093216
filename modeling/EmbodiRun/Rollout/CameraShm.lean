/-
# Rollout.CameraShm -- the shared camera store

One file holds a header, a slot for the latest packet and a slot for each recorded one.  A slot is
the length of a description and of the image bytes, the description as JSON, and the bytes; the
header has the number of recorded packets and the status.  The owner publishes, and readers get, each
under the file lock.  What longer packets left behind a description stays in the slot.

* `gets_follow_log`: **after any calls of the owner a reader gets what the log says, and a call that
  fails changes no byte**.
-/
import EmbodiRun.Application.Identity
import EmbodiRun.Rollout.Chunks

namespace EmbodiRun.Rollout.CameraShm

open Application Data Devices List

abbrev Bytes := List UInt8

/-! ## Packets -/

/-- The `data` of an image. -/
inductive Payload where
  | bytes (bytes : Bytes)
  | other
  deriving DecidableEq

structure Image where
  data : Option Payload := none
  base64 : Option Value := none
  offset : Option Value := none
  length : Option Value := none
  fields : Fields := .empty
  deriving DecidableEq

/-- A packet; `images` is `packet["images"]`. -/
structure Packet where
  images : Option (List (Text × Image))
  fields : Fields
  deriving DecidableEq

structure Status where
  state : Option Value
  fields : Fields
  deriving DecidableEq

structure StoredStatus extends Status where
  recorded : Nat
  recordCountTarget : Nat
  clockIdentity : Value
  deriving DecidableEq

structure ImageEntry where
  fields : Fields
  offset : Int
  length : Int
  deriving DecidableEq

structure Description where
  fields : Fields
  images : List (Text × ImageEntry)
  deriving DecidableEq

/-- `json.dumps(…).encode()`, which raises on what is not JSON, and `json.loads`. -/
structure Codec (α : Type) where
  dumps : α → Option Bytes
  loads : Bytes → Option α
  loads_dumps : ∀ value bytes, dumps value = some bytes → loads bytes = some value
  nonempty : ∀ value bytes, dumps value = some bytes → bytes ≠ []

/-! ## The file -/

/-- The sizes; `SharedCameraStore` refuses others. -/
structure Layout where
  capacity : Nat
  slotBytes : Nat
  positive : 0 < capacity
  bounded : capacity ≤ 4096
  least : 1024 ≤ slotBytes
  most : slotBytes ≤ 67108864

structure Config where
  layout : Layout
  clockIdentity : Value
  status : Codec StoredStatus
  description : Codec Description
  /-- `b64decode(…, validate=True)`. -/
  b64decode : Text → Option Bytes
  /-- What a Unicode decimal digit is worth. -/
  digit : Char → Option Nat

inductive Error where
  /-- "Camera recording capacity exhausted". -/
  | exhausted
  /-- "Camera status exceeds shared-memory header capacity". -/
  | headerCapacity
  /-- "Camera packet exceeds shared-memory slot capacity". -/
  | slotCapacity
  | notJson
  /-- "Camera shared-memory payloads must be bytes". -/
  | notBytes
  | notBase64
  /-- `KeyError`. -/
  | key
  /-- `LookupError`: "Camera publisher is not running", "Camera recording is not ready". -/
  | notRunning
  | notReady
  /-- "Invalid camera status length", "Invalid camera snapshot lengths", "Invalid camera image buffer
  bounds". -/
  | statusLength
  | snapshotLengths
  | imageBounds
  /-- `int` of more than 4300 digits. -/
  | digits
  /-- A write outside of the file. -/
  | outside

def headerSize : Nat := 8192

/-- `struct.pack("<I", n)`. -/
def little (n : Nat) : Bytes :=
  [UInt8.ofNat n, UInt8.ofNat (n / 256), UInt8.ofNat (n / 65536), UInt8.ofNat (n / 16777216)]

/-- `struct.unpack("<I", …)`. -/
def unlittle : Bytes → Nat
  | [a, b, c, d] => a.toNat + 256 * b.toNat + 65536 * c.toNat + 16777216 * d.toNat
  | _ => 0

def magic : Bytes := [82, 76, 67, 65, 77, 48, 49, 0]

/-- `len` bytes from `position`. -/
def read (file : Bytes) (position len : Nat) : Bytes := slice file position (position + len)

def writes : Bytes → List (Nat × Bytes) → Bytes × Option Error
  | file, [] => (file, none)
  | file, (position, bytes) :: rest =>
    if position + bytes.length ≤ file.length then writes (splice file position bytes) rest
    else (file, some .outside)

section

variable (cfg : Config)

def encodeHeader (status : Status) (count : Nat) : Except Error Bytes :=
  match cfg.status.dumps ⟨status, count, cfg.layout.capacity, cfg.clockIdentity⟩ with
  | none => .error .notJson
  | some metadata =>
    if headerSize < metadata.length + 24 then .error .headerCapacity
    else .ok (magic ++ little cfg.layout.capacity ++ little cfg.layout.slotBytes ++ little count ++
      little metadata.length ++ metadata)

def payload (image : Image) : Except Error Bytes :=
  match image.data, image.base64 with
  | some (.bytes bytes), _ => .ok bytes
  | some .other, _ => .error .notBytes
  | none, some (.str text) => match cfg.b64decode text with
      | some bytes => .ok bytes
      | none => .error .notBase64
  | none, some _ => .error .notBytes
  | none, none => .error .key

/-- The entries of the images, which start at `total`, and their bytes. -/
def entries (total : Nat) : List (Text × Image) → Except Error (List (Text × ImageEntry) × List Bytes)
  | [] => .ok ([], [])
  | (name, image) :: rest => match payload cfg image with
      | .error error => .error error
      | .ok value => match entries (total + value.length) rest with
          | .error error => .error error
          | .ok (later, buffers) =>
            .ok ((name, ⟨image.fields, total, value.length⟩) :: later, value :: buffers)

def encodeSlot (packet : Packet) : Except Error (Bytes × List Bytes) :=
  match packet.images with
  | none => .error .key
  | some images => match entries cfg 0 images with
      | .error error => .error error
      | .ok (listed, buffers) => match cfg.description.dumps ⟨packet.fields, listed⟩ with
          | none => .error .notJson
          | some description =>
            if cfg.layout.slotBytes < 8 + description.length + buffers.flatten.length then
              .error .slotCapacity
            else .ok (description, buffers)

def offset (index : Nat) : Nat := headerSize + index * cfg.layout.slotBytes

def bufferWrites (cursor : Nat) : List Bytes → List (Nat × Bytes)
  | [] => []
  | value :: rest => (cursor, value) :: bufferWrites (cursor + value.length) rest

/-- `_write_slot`: the lengths come last. -/
def slotWrites (index : Nat) (encoded : Bytes × List Bytes) : List (Nat × Bytes) :=
  let start := offset cfg index
  (start + 8, encoded.1) :: (bufferWrites (start + 8 + encoded.1.length) encoded.2 ++
    [(start, little encoded.1.length ++ little encoded.2.flatten.length)])

def countOf (file : Bytes) : Nat := unlittle (read file 16 4)

/-- A call of `publish`. -/
structure Publish where
  packet : Packet
  status : Status
  record : Bool := false

/-- `publish`, under the lock. -/
def publish (file : Bytes) (call : Publish) : Bytes × Option Error :=
  let count := countOf file
  if call.record && decide (cfg.layout.capacity ≤ count) then (file, some .exhausted)
  else match encodeHeader cfg call.status (count + if call.record then 1 else 0) with
    | .error error => (file, some error)
    | .ok header => match encodeSlot cfg call.packet with
        | .error error => (file, some error)
        | .ok encoded => writes file (slotWrites cfg 0 encoded ++
            (if call.record then slotWrites cfg (count + 1) encoded else []) ++ [(0, header)])

def starting : Status where
  state := some (.str "starting".toList)
  fields := .field "motor_access".toList (.number (.bool false)) .empty

def create : Except Error Bytes :=
  match encodeHeader cfg starting 0 with
  | .error error => .error error
  | .ok header =>
    .ok (splice (List.replicate (headerSize + (cfg.layout.capacity + 1) * cfg.layout.slotBytes) 0) 0 header)

/-! ## Reading -/

inductive Reply where
  | status (status : StoredStatus)
  | packet (packet : Packet)

/-- `int(text)` of decimal digits; `none` where there is another character. -/
def decimal (text : Text) : Option Nat :=
  if text = [] then none
  else text.foldlM (fun value c => (cfg.digit c).map fun digit => 10 * value + digit) 0

inductive Wanted where
  | health
  | latest
  | frame (k : Nat)
  | frameDigits
  | unknown

def wanted (path : Text) : Wanted :=
  if path = "/health".toList then .health
  else if path = "/latest".toList then .latest
  else if "/frame/".toList.isPrefixOf path then
    match decimal cfg (path.drop 7) with
    | some k => if 4300 < (path.drop 7).length then .frameDigits else .frame k
    | none => .unknown
  else .unknown

/-- An image of a slot, whose bytes start at `start`. -/
def readImage (file : Bytes) (start dataSize : Nat) (entry : Text × ImageEntry) : Except Error (Text × Image) :=
  if entry.2.offset < 0 ∨ entry.2.length < 0 ∨ dataSize < entry.2.offset + entry.2.length then
    .error .imageBounds
  else .ok (entry.1, { fields := entry.2.fields, data := some (.bytes
    (read file (start + entry.2.offset.toNat) entry.2.length.toNat)) })

def readSlot (file : Bytes) (index : Nat) : Except Error Packet :=
  let start := offset cfg index
  let metadataSize := unlittle (read file start 4)
  let dataSize := unlittle (read file (start + 4) 4)
  if metadataSize = 0 ∨ cfg.layout.slotBytes < 8 + metadataSize + dataSize then .error .snapshotLengths
  else match cfg.description.loads (read file (start + 8) metadataSize) with
    | none => .error .notJson
    | some description =>
      match description.images.mapM (readImage file (start + 8 + metadataSize) dataSize) with
      | .error error => .error error
      | .ok images => .ok ⟨some images, description.fields⟩

def packetReply (packet : Except Error Packet) : Except Error Reply := packet.map .packet

/-- `get`, under the lock. -/
def get (file : Bytes) (path : Text) : Except Error Reply :=
  let size := unlittle (read file 20 4)
  if size = 0 ∨ headerSize - 24 < size then .error .statusLength
  else match cfg.status.loads (read file 24 size) with
    | none => .error .notJson
    | some status => match wanted cfg path with
        | .health => .ok (.status status)
        | .latest => match status.state with
            | none => .error .key
            | some state =>
              if state ≠ .str "running".toList then .error .notRunning
              else packetReply (readSlot cfg file 0)
        | .frame k =>
          if countOf file = 0 then .error .notReady
          else packetReply (readSlot cfg file (1 + k % countOf file))
        | .frameDigits => if countOf file = 0 then .error .notReady else .error .digits
        | .unknown => .error .key

/-! ## The log -/

/-- What was published: the status and the latest packet, and the recorded packets in order. -/
structure Log where
  status : Status := starting
  latest : Option Packet := none
  recorded : List Packet := []

/-- An image as it is handed back: its bytes for `data`, and the keys that are not the store's. -/
def shownImage (image : Image) : Image where
  data := match payload cfg image with
    | .ok bytes => some (.bytes bytes)
    | .error _ => none
  fields := image.fields

def shown (packet : Packet) : Packet where
  images := packet.images.map fun images => images.map fun item => (item.1, shownImage cfg item.2)
  fields := packet.fields

/-- The call is valid: there is room, and the status and the packet are JSON and fit. -/
def Log.accepts (log : Log) (call : Publish) : Bool :=
  (!call.record || decide (log.recorded.length < cfg.layout.capacity)) &&
    (encodeHeader cfg call.status (log.recorded.length + if call.record then 1 else 0)).toOption.isSome &&
    (encodeSlot cfg call.packet).toOption.isSome

def Log.publish (log : Log) (call : Publish) : Log where
  status := call.status
  latest := some call.packet
  recorded := if call.record then log.recorded ++ [call.packet] else log.recorded

def Log.step (log : Log) (call : Publish) : Log := if log.accepts cfg call then log.publish call else log

def Log.get (log : Log) (path : Text) : Except Error Reply :=
  match wanted cfg path with
  | .health => .ok (.status ⟨log.status, log.recorded.length, cfg.layout.capacity, cfg.clockIdentity⟩)
  | .latest => match log.status.state, log.latest with
      | none, _ => .error .key
      | some state, latest =>
        if state ≠ .str "running".toList then .error .notRunning
        else match latest with
          | some packet => .ok (.packet (shown cfg packet))
          | none => .error .notRunning
  | .frame k => match log.recorded[k % log.recorded.length]? with
      | some packet => .ok (.packet (shown cfg packet))
      | none => .error .notReady
  | .frameDigits => if log.recorded = [] then .error .notReady else .error .digits
  | .unknown => .error .key

end

/-! ## Bytes at a place -/

def At (file : Bytes) (position : Nat) (bytes : Bytes) : Prop :=
  ∀ i, i < bytes.length → file[position + i]? = bytes[i]?

section

variable {file after : Bytes} {position : Nat} {a b bytes : Bytes}

theorem at_nil : At file position [] := fun _ inside => absurd inside (Nat.not_lt_zero _)

theorem at_append : At file position (a ++ b) ↔ At file position a ∧ At file (position + a.length) b := by
  constructor
  · intro both
    refine ⟨fun i inside => ?_, fun i inside => ?_⟩
    · rw [both i (by rw [length_append]; omega), getElem?_append_left inside]
    · rw [Nat.add_assoc, both (a.length + i) (by rw [length_append]; omega), getElem?_append_right (by omega)]
      congr 1
      omega
  · rintro ⟨first, second⟩ i inside
    rw [length_append] at inside
    by_cases early : i < a.length
    · rw [first i early, getElem?_append_left early]
    · have later := second (i - a.length) (by omega)
      rw [getElem?_append_right (by omega), ← later]
      congr 1
      omega

theorem read_of_at (held : At file position bytes) : read file position bytes.length = bytes := by
  refine ext_getElem? fun i => ?_
  rw [read, getElem?_slice]
  by_cases inside : i < bytes.length
  · rw [if_pos (by omega), held i inside]
  · rw [if_neg (by omega), getElem?_eq_none (by omega)]

structure Wrote (file after : Bytes) (position : Nat) (bytes : Bytes) : Prop where
  length : after.length = file.length
  here : At after position bytes
  outside : ∀ i, i < position ∨ position + bytes.length ≤ i → after[i]? = file[i]?

theorem wrote_splice (fits : position + bytes.length ≤ file.length) :
    Wrote file (splice file position bytes) position bytes where
  length := length_splice fits
  here i inside := by
    rw [getElem?_splice fits, if_pos (by omega)]
    congr 1
    omega
  outside i apart := by rw [getElem?_splice fits, if_neg (by omega)]

theorem Wrote.nil : Wrote file file position [] := ⟨rfl, at_nil, fun _ _ => rfl⟩

theorem Wrote.keeps (wrote : Wrote file after position bytes) {place} (held : At file place a)
    (apart : place + a.length ≤ position ∨ position + bytes.length ≤ place) : At after place a :=
  fun i inside => by rw [wrote.outside _ (by omega), held i inside]

theorem Wrote.append {middle} (first : Wrote file middle position a)
    (second : Wrote middle after (position + a.length) b) : Wrote file after position (a ++ b) where
  length := second.length.trans first.length
  here := at_append.mpr ⟨second.keeps first.here (.inl le_rfl), second.here⟩
  outside i apart := by
    rw [length_append] at apart
    rw [second.outside i (by omega), first.outside i (by omega)]

theorem Wrote.prepend {middle} (first : Wrote file middle (position + a.length) b)
    (second : Wrote middle after position a) : Wrote file after position (a ++ b) where
  length := second.length.trans first.length
  here := at_append.mpr ⟨second.here, second.keeps first.here (.inr le_rfl)⟩
  outside i apart := by
    rw [length_append] at apart
    rw [second.outside i (by omega), first.outside i (by omega)]

theorem writes_append {first second} (done : writes file first = (after, none)) :
    writes file (first ++ second) = writes after second := by
  induction first generalizing file with
  | nil =>
    obtain ⟨rfl, _⟩ := Prod.mk.inj done
    rfl
  | cons one rest ih =>
    unfold writes at done
    rw [cons_append, writes]
    split at done
    · rename_i fits
      rw [if_pos fits, ih done]
    · cases done

theorem writes_single (fits : position + bytes.length ≤ file.length) :
    writes file [(position, bytes)] = (splice file position bytes, none) := by
  unfold writes
  rw [if_pos fits]
  rfl

theorem writes_buffers {cursor} {buffers} (fits : cursor + buffers.flatten.length ≤ file.length) :
    ∃ after, writes file (bufferWrites cursor buffers) = (after, none) ∧ Wrote file after cursor buffers.flatten := by
  induction buffers generalizing file cursor with
  | nil => exact ⟨file, rfl, .nil⟩
  | cons value rest ih =>
    rw [flatten_cons, length_append] at fits
    have first := @wrote_splice file cursor value (by omega)
    obtain ⟨after, done, wrote⟩ := @ih (splice file cursor value) (cursor + value.length)
      (by rw [first.length]; omega)
    refine ⟨after, ?_, by rw [flatten_cons]; exact first.append wrote⟩
    rw [bufferWrites, writes, if_pos (by omega), done]

end

/-! ## Numbers -/

theorem length_little (n : Nat) : (little n).length = 4 := rfl

theorem unlittle_little {n} (small : n < 4294967296) : unlittle (little n) = n := by
  simp only [unlittle, little, UInt8.toNat_ofNat', Nat.reducePow]
  omega

theorem unlittle_at {file} {position n} (small : n < 4294967296)
    (held : At file position (little n)) : unlittle (read file position 4) = n := by
  have bytes := read_of_at held
  rw [length_little] at bytes
  rw [bytes, unlittle_little small]

/-! ## Slots -/

def frame (encoded : Bytes × List Bytes) : Bytes :=
  little encoded.1.length ++ little encoded.2.flatten.length ++ (encoded.1 ++ encoded.2.flatten)

theorem length_frame (encoded : Bytes × List Bytes) :
    (frame encoded).length = 8 + encoded.1.length + encoded.2.flatten.length := by
  simp only [frame, length_append, length_little]
  omega

section

variable {cfg : Config} {file after : Bytes} {index : Nat}
variable {encoded : Bytes × List Bytes} {packet : Packet} {status : Status} {count : Nat} {header : Bytes}

theorem writes_slot (fits : offset cfg index + (frame encoded).length ≤ file.length) :
    ∃ after, writes file (slotWrites cfg index encoded) = (after, none) ∧
      Wrote file after (offset cfg index) (frame encoded) := by
  rw [length_frame] at fits
  have first := @wrote_splice file (offset cfg index + 8) encoded.1 (by omega)
  obtain ⟨middle, done, second⟩ := @writes_buffers
    (splice file (offset cfg index + 8) encoded.1) (offset cfg index + 8 + encoded.1.length) encoded.2
    (by rw [first.length]; omega)
  have lengths : (little encoded.1.length ++ little encoded.2.flatten.length).length = 8 := rfl
  have last := @wrote_splice middle (offset cfg index) (little encoded.1.length ++ little encoded.2.flatten.length)
    (by rw [second.length, first.length, lengths]; omega)
  have body := first.append second
  rw [← lengths] at body
  refine ⟨_, ?_, body.prepend last⟩
  rw [slotWrites, writes, if_pos (by omega), writes_append done,
    writes_single (by rw [second.length, first.length, lengths]; omega)]

def Holds (cfg : Config) (file : Bytes) (index : Nat) (packet : Packet) : Prop :=
  ∃ encoded, encodeSlot cfg packet = .ok encoded ∧ At file (offset cfg index) (frame encoded)

theorem fits_of_encodeSlot (given : encodeSlot cfg packet = .ok encoded) :
    (frame encoded).length ≤ cfg.layout.slotBytes := by
  rw [length_frame]
  unfold encodeSlot at given
  split at given
  · cases given
  split at given
  · cases given
  split at given
  · cases given
  split at given
  · cases given
  · rename_i room
    obtain rfl := Except.ok.inj given
    exact not_lt.mp room

theorem readImages_entries {images} {listed} {buffers before} {start total}
    (given : entries cfg total images = .ok (listed, buffers)) (here : before.flatten.length = total)
    (held : At file start (before ++ buffers).flatten) {dataSize}
    (size : dataSize = (before ++ buffers).flatten.length) :
    listed.mapM (readImage file start dataSize) = .ok (images.map fun item => (item.1, shownImage cfg item.2)) := by
  induction images generalizing total listed buffers before with
  | nil =>
    obtain ⟨rfl, rfl⟩ := Prod.mk.inj (Except.ok.inj given)
    rfl
  | cons item rest ih =>
    obtain ⟨name, image⟩ := item
    unfold entries at given
    split at given
    · cases given
    rename_i value paid
    split at given
    · cases given
    rename_i later tail remaining
    obtain ⟨rfl, rfl⟩ := Prod.mk.inj (Except.ok.inj given)
    have split : before ++ value :: tail = (before ++ [value]) ++ tail := by simp
    have rest := @ih later tail (before ++ [value]) (total + value.length) remaining
      (by simp [here]) (by rw [← split]; exact held) (by rw [← split]; exact size)
    have bytes : read file (start + total) value.length = value := by
      rw [flatten_append, flatten_cons] at held
      have part := (at_append.mp (at_append.mp held).2).1
      rw [here] at part
      exact read_of_at part
    have inside : total + value.length ≤ dataSize := by
      rw [size, flatten_append, flatten_cons, length_append, length_append, here]
      omega
    have image' : readImage file start dataSize (name, ⟨image.fields, total, value.length⟩) =
        .ok (name, shownImage cfg image) := by
      unfold readImage
      rw [if_neg (by simp only [not_or, not_lt]; omega)]
      simp only [shownImage, paid, Int.toNat_natCast, bytes]
    rw [mapM_cons, image', rest]
    rfl

/-- **A slot** is read back as the packet it holds. -/
theorem readSlot_of_holds (holds : Holds cfg file index packet) :
    readSlot cfg file index = .ok (shown cfg packet) := by
  obtain ⟨encoded, given, held⟩ := holds
  have room := fits_of_encodeSlot given
  have most := cfg.layout.most
  have size := length_frame encoded
  obtain ⟨front, body⟩ := at_append.mp held
  obtain ⟨first, second⟩ := at_append.mp front
  obtain ⟨text, data⟩ := at_append.mp body
  have metadataSize := unlittle_at (by omega) first
  have dataSize := unlittle_at (by omega) second
  unfold encodeSlot at given
  split at given
  · cases given
  rename_i images present
  split at given
  · cases given
  rename_i listed buffers given'
  split at given
  · cases given
  rename_i description dumped
  split at given
  · cases given
  obtain rfl := Except.ok.inj given
  have some' : description.length ≠ 0 := fun none =>
    cfg.description.nonempty _ _ dumped (List.length_eq_zero_iff.mp none)
  have loaded := cfg.description.loads_dumps _ _ dumped
  have textRead := read_of_at text
  simp only [length_append, length_little] at textRead data
  have imagesRead := @readImages_entries cfg file images listed buffers [] _ 0 given' rfl data _ rfl
  unfold readSlot
  dsimp only [length_little] at metadataSize dataSize ⊢
  rw [metadataSize, dataSize, if_neg (by simp only [not_or, not_lt]; omega), textRead, loaded]
  dsimp only
  have start : offset cfg index + (4 + 4) + description.length = offset cfg index + 8 + description.length := rfl
  rw [start, nil_append] at imagesRead
  rw [imagesRead]
  simp only [shown, present, Option.map_some]

/-! ## The header -/

theorem encodeHeader_eq (given : encodeHeader cfg status count = .ok header) : ∃ metadata,
      cfg.status.dumps ⟨status, count, cfg.layout.capacity, cfg.clockIdentity⟩ = some metadata ∧
      metadata.length + 24 ≤ headerSize ∧
      header = magic ++ little cfg.layout.capacity ++ little cfg.layout.slotBytes ++ little count ++
        little metadata.length ++ metadata := by
  unfold encodeHeader at given
  split at given
  · cases given
  rename_i metadata dumped
  split at given
  · cases given
  · rename_i room
    exact ⟨metadata, dumped, not_lt.mp room, (Except.ok.inj given).symm⟩

theorem length_header (given : encodeHeader cfg status count = .ok header) : header.length ≤ headerSize := by
  obtain ⟨metadata, _, room, rfl⟩ := encodeHeader_eq given
  simp only [length_append, length_little, magic, length_cons, length_nil]
  omega

structure Tells (cfg : Config) (file : Bytes) (status : Status) (count : Nat) : Prop where
  counted : countOf file = count
  sized : unlittle (read file 20 4) ≠ 0
  fits : unlittle (read file 20 4) ≤ headerSize - 24
  loaded : cfg.status.loads (read file 24 (unlittle (read file 20 4))) =
    some ⟨status, count, cfg.layout.capacity, cfg.clockIdentity⟩

theorem tells_of_header (small : count ≤ 4096) (given : encodeHeader cfg status count = .ok header)
    (held : At file 0 header) : Tells cfg file status count := by
  obtain ⟨metadata, dumped, room, rfl⟩ := encodeHeader_eq given
  obtain ⟨front, text⟩ := at_append.mp held
  obtain ⟨front, size⟩ := at_append.mp front
  obtain ⟨_, counted⟩ := at_append.mp front
  simp only [length_append, length_little, magic, length_cons, length_nil] at counted size text
  have bound : headerSize = 8192 := rfl
  have size := unlittle_at (by omega) size
  have counted := unlittle_at (by omega) counted
  have text := read_of_at text
  have some' : metadata.length ≠ 0 := fun none =>
    cfg.status.nonempty _ _ dumped (List.length_eq_zero_iff.mp none)
  simp only [Nat.zero_add, Nat.reduceAdd] at size counted text
  refine ⟨counted, by rw [size]; exact some', by rw [size]; omega, ?_⟩
  rw [size, text]
  exact cfg.status.loads_dumps _ _ dumped

/-! ## The file and the log -/

structure Stored (cfg : Config) (file : Bytes) (log : Log) : Prop where
  length : file.length = headerSize + (cfg.layout.capacity + 1) * cfg.layout.slotBytes
  header : ∃ header, encodeHeader cfg log.status log.recorded.length = .ok header ∧ At file 0 header
  room : log.recorded.length ≤ cfg.layout.capacity
  recorded : ∀ i packet, log.recorded[i]? = some packet → Holds cfg file (i + 1) packet

structure Kept (cfg : Config) (file : Bytes) (log : Log) : Prop where
  length : file.length = headerSize + (cfg.layout.capacity + 1) * cfg.layout.slotBytes
  header : ∃ header, encodeHeader cfg log.status log.recorded.length = .ok header ∧ At file 0 header
  room : log.recorded.length ≤ cfg.layout.capacity
  latest : ∀ packet, log.latest = some packet → Holds cfg file 0 packet
  recorded : ∀ i packet, log.recorded[i]? = some packet → Holds cfg file (i + 1) packet
  fresh : log.latest = none → log.status = starting
variable {log : Log} {call : Publish}

theorem Kept.stored (kept : Kept cfg file log) : Stored cfg file log :=
  ⟨kept.length, kept.header, kept.room, kept.recorded⟩

theorem Stored.tells (stored : Stored cfg file log) : Tells cfg file log.status log.recorded.length := by
  obtain ⟨header, given, held⟩ := stored.header
  exact tells_of_header (stored.room.trans cfg.layout.bounded) given held

theorem offset_end {i} (inside : i ≤ cfg.layout.capacity) : offset cfg i + cfg.layout.slotBytes ≤
      headerSize + (cfg.layout.capacity + 1) * cfg.layout.slotBytes := by
  have steps : (i + 1) * cfg.layout.slotBytes ≤ (cfg.layout.capacity + 1) * cfg.layout.slotBytes :=
    Nat.mul_le_mul_right _ (Nat.succ_le_succ inside)
  rw [Nat.succ_mul] at steps
  unfold offset
  omega

theorem offset_apart {i j} (other : i ≠ j) : offset cfg i + cfg.layout.slotBytes ≤ offset cfg j ∨
      offset cfg j + cfg.layout.slotBytes ≤ offset cfg i := by
  unfold offset
  rcases Nat.lt_or_gt_of_ne other with before | after
  · have steps := Nat.mul_le_mul_right cfg.layout.slotBytes (Nat.succ_le_of_lt before)
    rw [Nat.succ_mul] at steps
    exact .inl (by omega)
  · have steps := Nat.mul_le_mul_right cfg.layout.slotBytes (Nat.succ_le_of_lt after)
    rw [Nat.succ_mul] at steps
    exact .inr (by omega)

theorem Holds.keeps (holds : Holds cfg file index packet) {position} {bytes} (wrote : Wrote file after position bytes)
    (apart : offset cfg index + cfg.layout.slotBytes ≤ position ∨
      position + bytes.length ≤ offset cfg index) : Holds cfg after index packet := by
  obtain ⟨encoded, given, held⟩ := holds
  have fits := fits_of_encodeSlot given
  exact ⟨encoded, given, wrote.keeps held (by omega)⟩

theorem kept_create (created : create cfg = .ok file) : Kept cfg file {} := by
  unfold create at created
  split at created
  · cases created
  rename_i header given
  obtain rfl := Except.ok.inj created
  have short := length_header given
  have fits : 0 + header.length ≤ (List.replicate
      (headerSize + (cfg.layout.capacity + 1) * cfg.layout.slotBytes) (0 : UInt8)).length := by
    rw [length_replicate]
    omega
  have wrote := wrote_splice fits
  exact ⟨wrote.length.trans length_replicate, ⟨header, given, wrote.here⟩, Nat.zero_le _, nofun,
    (fun i packet found => by cases found), fun _ => rfl⟩

theorem stored_publish (stored : Stored cfg file log) (accepts : log.accepts cfg call = true) :
    ∃ after, publish cfg file call = (after, none) ∧ Kept cfg after (log.publish call) := by
  have counted := stored.tells.counted
  obtain ⟨both, slots⟩ := Bool.and_eq_true_iff.mp accepts
  obtain ⟨space, headers⟩ := Bool.and_eq_true_iff.mp both
  cases encodedHeader : encodeHeader cfg call.status (log.recorded.length + if call.record then 1 else 0) with
  | error error => rw [encodedHeader] at headers; cases headers
  | ok header =>
  cases encodedSlot : encodeSlot cfg call.packet with
  | error error => rw [encodedSlot] at slots; cases slots
  | ok encoded =>
  have fits := fits_of_encodeSlot encodedSlot
  have short := length_header encodedHeader
  have bound : headerSize = 8192 := rfl
  have start : offset cfg 0 = headerSize := by unfold offset; omega
  -- the latest slot
  obtain ⟨first, written, wrote⟩ := @writes_slot cfg file 0 encoded (by
    have ends := @offset_end cfg 0 (Nat.zero_le _)
    rw [stored.length]
    omega)
  -- the slot of the recording, where there is one
  obtain ⟨second, written', sameLength, recorded, others⟩ : ∃ second,
      writes first (if call.record then slotWrites cfg (log.recorded.length + 1) encoded else []) =
        (second, none) ∧ second.length = first.length ∧
      (call.record = true → Holds cfg second (log.recorded.length + 1) call.packet) ∧
      ∀ i packet, (call.record = true → i ≠ log.recorded.length + 1) → Holds cfg first i packet →
        Holds cfg second i packet := by
    cases recording : call.record with
    | false => exact ⟨first, rfl, rfl, nofun, fun _ _ _ holds => holds⟩
    | true =>
      rw [recording] at space
      have inside : log.recorded.length + 1 ≤ cfg.layout.capacity :=
        Nat.succ_le_of_lt (by simpa using space)
      obtain ⟨second, written', wrote'⟩ := @writes_slot cfg first (log.recorded.length + 1) encoded (by
        have ends := offset_end inside
        rw [wrote.length, stored.length]
        omega)
      refine ⟨second, written', wrote'.length, fun _ => ⟨encoded, encodedSlot, wrote'.here⟩,
        fun i packet other holds => holds.keeps wrote' ?_⟩
      have apart := @offset_apart cfg i _ (other rfl)
      omega
  -- the header
  have last := @wrote_splice second 0 header (by rw [sameLength, wrote.length, stored.length]; omega)
  have above (i : Nat) : 0 + header.length ≤ offset cfg i := by
    unfold offset
    omega
  refine ⟨splice second 0 header, ?_, ?_⟩
  · unfold publish
    dsimp only
    rw [counted, if_neg ?_, encodedHeader]
    · dsimp only
      rw [encodedSlot]
      dsimp only
      rw [append_assoc, writes_append written, writes_append written',
        writes_single (by rw [sameLength, wrote.length, stored.length]; omega)]
    · cases recording : call.record with
      | false => simp
      | true =>
        rw [recording] at space
        simpa using space
  · have latest : Holds cfg (splice second 0 header) 0 call.packet := by
      have here : Holds cfg first 0 call.packet := ⟨encoded, encodedSlot, wrote.here⟩
      exact (others 0 _ (fun _ => (Nat.succ_ne_zero _).symm) here).keeps last (.inr (above 0))
    refine ⟨by rw [last.length, sameLength, wrote.length, stored.length], ⟨header, ?_, last.here⟩, ?_, ?_, ?_, nofun⟩
    · cases recording : call.record with
      | false | true => simpa [Log.publish, recording] using encodedHeader
    · cases recording : call.record with
      | false => simpa [Log.publish, recording] using stored.room
      | true =>
        rw [recording] at space
        have inside : log.recorded.length < cfg.layout.capacity := by simpa using space
        simp only [Log.publish, recording, if_true, length_append, length_singleton]
        omega
    · intro packet same
      obtain rfl := Option.some.inj same
      exact latest
    · intro i packet found
      have old (before : log.recorded[i]? = some packet) : Holds cfg (splice second 0 header) (i + 1) packet :=
        by
        have inside := (List.getElem?_eq_some_iff.mp before).1
        have apart := @offset_apart cfg (i + 1) 0 (Nat.succ_ne_zero i)
        have kept' := (stored.recorded i packet before).keeps wrote (by omega)
        exact (others (i + 1) packet (fun _ => by omega) kept').keeps last (.inr (above (i + 1)))
      cases recording : call.record with
      | false => exact old (by simpa [Log.publish, recording] using found)
      | true =>
        simp only [Log.publish, recording, if_true] at found
        by_cases early : i < log.recorded.length
        · exact old (by rwa [getElem?_append_left early] at found)
        · rw [getElem?_append_right (by omega)] at found
          have inside := (List.getElem?_eq_some_iff.mp found).1
          rw [length_singleton] at inside
          have same : i = log.recorded.length := by omega
          subst same
          rw [Nat.sub_self] at found
          obtain rfl := Option.some.inj found
          exact (recorded recording).keeps last (.inr (above _))

theorem kept_publish (kept : Kept cfg file log) (accepts : log.accepts cfg call = true) :
    ∃ after, publish cfg file call = (after, none) ∧ Kept cfg after (log.publish call) :=
  stored_publish kept.stored accepts

theorem stored_refused (stored : Stored cfg file log) (refuses : log.accepts cfg call = false) :
    ∃ error, publish cfg file call = (file, some error) := by
  have counted := stored.tells.counted
  unfold publish
  dsimp only
  rw [counted]
  by_cases full : (call.record && decide (cfg.layout.capacity ≤ log.recorded.length)) = true
  · rw [if_pos full]
    exact ⟨_, rfl⟩
  rw [if_neg full]
  cases encodedHeader : encodeHeader cfg call.status (log.recorded.length + if call.record then 1 else 0) with
  | error error => exact ⟨error, rfl⟩
  | ok header =>
  cases encodedSlot : encodeSlot cfg call.packet with
  | error error => exact ⟨error, rfl⟩
  | ok encoded =>
  exfalso
  have space : (!call.record || decide (log.recorded.length < cfg.layout.capacity)) = true := by
    cases recording : call.record with
    | false => rfl
    | true =>
      rw [recording] at full
      simpa using full
  unfold Log.accepts at refuses
  rw [space, encodedHeader, encodedSlot] at refuses
  cases refuses

theorem publish_refused (kept : Kept cfg file log) (refuses : log.accepts cfg call = false) :
    ∃ error, publish cfg file call = (file, some error) :=
  stored_refused kept.stored refuses

theorem get_opened (stored : Stored cfg file log) (path : Text) : get cfg file path = match wanted cfg path with
      | .health => .ok (.status ⟨log.status, log.recorded.length, cfg.layout.capacity, cfg.clockIdentity⟩)
      | .latest => match log.status.state with
          | none => .error .key
          | some state =>
            if state ≠ .str "running".toList then .error .notRunning
            else packetReply (readSlot cfg file 0)
      | .frame k =>
        if log.recorded.length = 0 then .error .notReady
        else packetReply (readSlot cfg file (1 + k % log.recorded.length))
      | .frameDigits => if log.recorded.length = 0 then .error .notReady else .error .digits
      | .unknown => .error .key := by
  have tells := stored.tells
  unfold get
  dsimp only
  rw [if_neg (by have := tells.sized; have := tells.fits; omega), tells.loaded, tells.counted]

theorem readSlot_recorded (stored : Stored cfg file log) (k : Nat) (some_ : log.recorded.length ≠ 0) :
    ∃ packet, log.recorded[k % log.recorded.length]? = some packet ∧
      packetReply (readSlot cfg file (1 + k % log.recorded.length)) = .ok (.packet (shown cfg packet)) := by
  have inside : k % log.recorded.length < log.recorded.length := Nat.mod_lt _ (by omega)
  have found := getElem?_eq_getElem inside
  refine ⟨_, found, ?_⟩
  rw [Nat.add_comm, readSlot_of_holds (stored.recorded _ _ found)]
  rfl

/-- **A reader** gets what the log says. -/
theorem get_eq (kept : Kept cfg file log) (path : Text) : get cfg file path = log.get cfg path := by
  rw [get_opened kept.stored]
  unfold Log.get
  cases wanted cfg path with
  | health | unknown => rfl
  | latest =>
    dsimp only
    cases state : log.status.state with
    | none => rfl
    | some state' =>
      dsimp only
      by_cases running : state' = .str "running".toList
      · rw [if_neg (not_ne_iff.mpr running), if_neg (not_ne_iff.mpr running)]
        cases latest : log.latest with
        | some packet => rw [readSlot_of_holds (kept.latest packet latest)]; rfl
        | none =>
          rw [kept.fresh latest, running] at state
          cases state
      · rw [if_pos running, if_pos running]
  | frame k =>
    dsimp only
    by_cases empty : log.recorded.length = 0
    · rw [if_pos empty, List.length_eq_zero_iff.mp empty]
      rfl
    · obtain ⟨packet, found, told⟩ := readSlot_recorded kept.stored k empty
      rw [if_neg empty, found, told]
  | frameDigits =>
    dsimp only
    simp only [length_eq_zero_iff]

end

/-! ## Calls of the owner and of readers -/

inductive Operation where
  | publish (call : Publish)
  | get (path : Text)

inductive Answer where
  | published (accepted : Bool)
  | got (reply : Except Error Reply)

def fileAfter (cfg : Config) (file : Bytes) : List Operation → Bytes
  | [] => file
  | .publish call :: rest => fileAfter cfg (publish cfg file call).1 rest
  | .get _ :: rest => fileAfter cfg file rest

def serve (cfg : Config) (file : Bytes) : List Operation → List Answer
  | [] => []
  | .publish call :: rest =>
    .published (publish cfg file call).2.isNone :: serve cfg (publish cfg file call).1 rest
  | .get path :: rest => .got (get cfg file path) :: serve cfg file rest

def Log.serve (cfg : Config) (log : Log) : List Operation → List Answer
  | [] => []
  | .publish call :: rest => .published (log.accepts cfg call) :: Log.serve cfg (log.step cfg call) rest
  | .get path :: rest => .got (log.get cfg path) :: Log.serve cfg log rest

variable {cfg : Config} {file : Bytes} {log : Log}

theorem kept_step (kept : Kept cfg file log) (call : Publish) :
    (publish cfg file call).2.isNone = log.accepts cfg call ∧
      Kept cfg (publish cfg file call).1 (log.step cfg call) := by
  unfold Log.step
  cases accepts : log.accepts cfg call with
  | true =>
    obtain ⟨after, done, kept'⟩ := kept_publish kept accepts
    rw [done]
    exact ⟨rfl, kept'⟩
  | false =>
    obtain ⟨error, done⟩ := publish_refused kept accepts
    rw [done]
    exact ⟨rfl, kept⟩

theorem kept_run (kept : Kept cfg file log) (operations : List Operation) :
    serve cfg file operations = log.serve cfg operations ∧ ∃ log', Kept cfg (fileAfter cfg file operations) log' := by
  induction operations generalizing file log with
  | nil => exact ⟨rfl, log, kept⟩
  | cons operation rest ih =>
    cases operation with
    | publish call =>
      obtain ⟨same, kept'⟩ := kept_step kept call
      obtain ⟨answers, after⟩ := ih kept'
      refine ⟨?_, after⟩
      rw [serve, Log.serve, same, answers]
    | get path =>
      obtain ⟨answers, after⟩ := ih kept
      refine ⟨?_, after⟩
      rw [serve, Log.serve, get_eq kept, answers]

/-- **The store follows the log.** -/
theorem gets_follow_log {cfg : Config} {file : Bytes} (created : create cfg = .ok file)
    (operations : List Operation) :
    serve cfg file operations = Log.serve cfg {} operations ∧
      ∀ call error, (publish cfg (fileAfter cfg file operations) call).2 = some error →
        (publish cfg (fileAfter cfg file operations) call).1 = fileAfter cfg file operations := by
  obtain ⟨answers, log, kept⟩ := kept_run (kept_create created) operations
  refine ⟨answers, fun call error failed => ?_⟩
  cases accepts : log.accepts cfg call with
  | true =>
    obtain ⟨after, done, _⟩ := kept_publish kept accepts
    rw [done] at failed
    cases failed
  | false =>
    obtain ⟨_, done⟩ := publish_refused kept accepts
    rw [done]

/-! ## One packet -/

def Codec.ofTable {α : Type} [DecidableEq α] (table : List (α × Bytes))
    (distinct : (table.map Prod.snd).Nodup) (plain : ∀ entry ∈ table, entry.2 ≠ []) : Codec α where
  dumps value := (table.find? fun entry => entry.1 = value).map Prod.snd
  loads bytes := (table.find? fun entry => entry.2 = bytes).map Prod.fst
  loads_dumps value bytes dumped := by
    obtain ⟨entry, found, rfl⟩ := Option.map_eq_some_iff.mp dumped
    have same : entry.1 = value := by simpa using List.find?_some found
    obtain ⟨other, there⟩ : ∃ other, table.find? (fun e => e.2 = entry.2) = some other :=
      Option.isSome_iff_exists.mp (List.find?_isSome.mpr ⟨entry, mem_of_find?_eq_some found, by simp⟩)
    have bytes : other.2 = entry.2 := by simpa using List.find?_some there
    have equal := inj_on_of_nodup_map distinct (mem_of_find?_eq_some there) (mem_of_find?_eq_some found) bytes
    rw [there, equal, ← same]
    rfl
  nonempty value bytes dumped := by
    obtain ⟨entry, found, rfl⟩ := Option.map_eq_some_iff.mp dumped
    exact plain entry (mem_of_find?_eq_some found)

def ascii (text : String) : Bytes := text.toList.map fun c => UInt8.ofNat c.toNat

def running : Status := ⟨some (.str "running".toList), .empty⟩

/-- A picture of three bytes, with an `offset` of the caller. -/
def picture : Packet where
  images := some [("front".toList, { data := some (.bytes [1, 2, 3]), offset := some (.number (.int 7)) })]
  fields := .empty

def pictureConfig : Config where
  layout := ⟨1, 1024, by decide, by decide, by decide, by decide⟩
  clockIdentity := .dict .empty
  status := .ofTable [(⟨starting, 0, 1, .dict .empty⟩,
        ascii ("\x7b\"state\":\"starting\",\"motor_access\":false,\"recorded\":0," ++
          "\"record_count_target\":1,\"clock_identity\":\x7b\x7d\x7d")),
      (⟨running, 0, 1, .dict .empty⟩, ascii ("\x7b\"state\":\"running\",\"recorded\":0," ++
          "\"record_count_target\":1,\"clock_identity\":\x7b\x7d\x7d"))]
    (by decide +kernel) (by decide +kernel)
  description := .ofTable [(⟨.empty, [("front".toList, ⟨.empty, 0, 3⟩)]⟩,
        ascii "\x7b\"images\":\x7b\"front\":\x7b\"offset\":0,\"length\":3\x7d\x7d\x7d")]
    (by decide +kernel) (by decide +kernel)
  b64decode _ := none
  digit _ := none

/-- The picture is published, and read. -/
theorem gets_follow_log_picture : ∃ file, create pictureConfig = .ok file ∧
    serve pictureConfig file [.publish ⟨picture, running, false⟩, .get "/latest".toList] =
      [.published true, .got (.ok (.packet (shown pictureConfig picture)))] := by
  obtain ⟨file, created⟩ : ∃ file, create pictureConfig = .ok file := ⟨_, rfl⟩
  refine ⟨file, created, ?_⟩
  rw [(gets_follow_log created [.publish ⟨picture, running, false⟩, .get "/latest".toList]).1]
  have accepts : Log.accepts pictureConfig {} ⟨picture, running, false⟩ = true := by decide +kernel
  simp only [Log.serve, Log.step, accepts, if_true]
  rfl

def withBytes (cfg : Config) (packet : Packet) : Packet where
  images := packet.images.map fun images => images.map fun item =>
    (item.1, { item.2 with data := (shownImage cfg item.2).data, base64 := none })
  fields := packet.fields

/-- The caller's `offset` of an image is not there when the packet is read. -/
theorem image_key_dropped : ¬∀ (cfg : Config) (file : Bytes), create cfg = .ok file → ∀ call,
      (publish cfg file call).2 = none → call.status.state = some (.str "running".toList) →
        get cfg (publish cfg file call).1 "/latest".toList = .ok (.packet (withBytes cfg call.packet)) := by
  intro all
  obtain ⟨file, created⟩ : ∃ file, create pictureConfig = .ok file := ⟨_, rfl⟩
  have accepts : Log.accepts pictureConfig {} ⟨picture, running, false⟩ = true := by decide +kernel
  obtain ⟨after, done, kept⟩ := kept_publish (kept_create created) accepts
  have same := all pictureConfig file created ⟨picture, running, false⟩ (by rw [done]) rfl
  rw [done, get_eq kept] at same
  have told : Log.get pictureConfig (Log.publish {} ⟨picture, running, false⟩) "/latest".toList =
      .ok (.packet (shown pictureConfig picture)) := rfl
  have equal := Reply.packet.inj (Except.ok.inj (told.symm.trans same))
  exact absurd equal (by decide +kernel)

end EmbodiRun.Rollout.CameraShm
