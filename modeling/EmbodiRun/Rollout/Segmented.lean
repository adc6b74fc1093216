/-
# Rollout.Segmented -- the frames of `SegmentedCodec`

A frame is a header (magic, size of the manifest, number of segments), the table of the segments'
lengths, the manifest and the segments.  The payload codec that makes the manifest and the
segments is a parameter: its configuration, and what it encodes and decodes.

* `segmented_frames`: **a frame that `encode` made is taken apart into the payload it was made
  from, and whatever bytes come in are refused before the codec sees anything or are the frame of
  the payload it gets**.
-/
import EmbodiRun.Data.Except
import EmbodiRun.Data.Words

namespace EmbodiRun.Rollout.Segmented

open Data List

/-! ## The source -/

/-- `CommConfig`, with the limits that are read here. -/
structure CommConfig where
  maxMessageBytes : Nat
  maxSegments : Nat
  maxManifestBytes : Nat

/-- `EncodedPayload`, with the bytes of each `BufferSegment`. -/
structure EncodedPayload where
  manifest : Bytes
  segments : List Bytes

inductive Fault (ε : Type) where
  | valueError (text : String)
  /-- `struct.error`: a number that does not fit its field, or a buffer that is too short. -/
  | structError
  /-- What the payload codec raises. -/
  | codec (error : ε)

open Fault

structure PayloadCodec (V : Type) (ε : Type) where
  encode : V → Except ε EncodedPayload
  decode : EncodedPayload → Except ε V

/-- `b"RLSEG01\0"`. -/
def magic : Bytes := [82, 76, 83, 69, 71, 48, 49, 0]

/-- The size of `!8sII`. -/
def headerSize : Nat := 16

variable {V ε : Type}

/-- `_HEADER.pack(_MAGIC, manifest_size, count)`. -/
def packHeader (manifestSize count : Nat) : Except (Fault ε) Bytes := do
  ensure (manifestSize < 256 ^ 4) structError
  ensure (count < 256 ^ 4) structError
  return magic ++ (wordBytes 4 manifestSize ++ wordBytes 4 count)

/-- `struct.pack(f"!{len(lengths)}Q", *lengths)`. -/
def packTable (lengths : List Nat) : Except (Fault ε) Bytes := do
  ensure (∀ length ∈ lengths, length < 256 ^ 8) structError
  return wordsBytes 8 lengths

/-- `_HEADER.unpack_from(raw)`. -/
def unpackHeader (raw : Bytes) : Except (Fault ε) (Bytes × Nat × Nat) := do
  ensure (headerSize ≤ raw.length) structError
  return (raw.take 8, wordOf ((raw.drop 8).take 4), wordOf ((raw.drop 12).take 4))

/-- `struct.unpack_from(f"!{count}Q", raw, _HEADER.size)`. -/
def unpackTable (count : Nat) (raw : Bytes) : Except (Fault ε) (List Nat) := do
  ensure (headerSize + count * 8 ≤ raw.length) structError
  return wordsOf 8 count (raw.drop headerSize)

variable (config : CommConfig) (codec : PayloadCodec V ε)

/-- `encode`, after the call of the payload codec. -/
def join (encoded : EncodedPayload) : Except (Fault ε) Bytes := do
  let lengths := encoded.segments.map List.length
  let header ← packHeader encoded.manifest.length lengths.length
  let table ← packTable lengths
  let size := header.length + table.length + encoded.manifest.length + lengths.sum
  ensure (size ≤ config.maxMessageBytes) (valueError "segmented message exceeds configured byte limit")
  return header ++ (table ++ (encoded.manifest ++ encoded.segments.flatten))

def encode (value : V) : Except (Fault ε) Bytes := do
  let encoded ← (codec.encode value).mapError Fault.codec
  join config encoded

/-- `decode`, up to the call of the payload codec. -/
def split (raw : Bytes) : Except (Fault ε) EncodedPayload := do
  ensure (headerSize ≤ raw.length ∧ raw.length ≤ config.maxMessageBytes) (valueError "invalid segmented message size")
  let (found, manifestSize, count) ← unpackHeader raw
  let tableEnd := headerSize + count * 8
  let manifestEnd := tableEnd + manifestSize
  ensure (¬(found ≠ magic ∨ config.maxSegments < count ∨ config.maxManifestBytes < manifestSize ∨
    raw.length < manifestEnd)) (valueError "invalid segmented message header")
  let lengths ← unpackTable count raw
  ensure (manifestEnd + lengths.sum = raw.length) (valueError "invalid segmented message lengths")
  return { manifest := (raw.drop tableEnd).take (manifestEnd - tableEnd)
           segments := cuts raw manifestEnd lengths }

def decode (raw : Bytes) : Except (Fault ε) V := do
  let payload ← split config raw
  (codec.decode payload).mapError Fault.codec

/-! ## Frames -/

def frame (payload : EncodedPayload) : Bytes :=
  magic ++ (wordBytes 4 payload.manifest.length ++ (wordBytes 4 payload.segments.length ++
    (wordsBytes 8 (payload.segments.map List.length) ++ (payload.manifest ++ payload.segments.flatten))))

structure Fits (payload : EncodedPayload) : Prop where
  manifest : payload.manifest.length < 256 ^ 4
  count : payload.segments.length < 256 ^ 4
  lengths : ∀ length ∈ payload.segments.map List.length, length < 256 ^ 8

structure Within (payload : EncodedPayload) : Prop where
  segments : payload.segments.length ≤ config.maxSegments
  manifest : payload.manifest.length ≤ config.maxManifestBytes

theorem length_frame (payload : EncodedPayload) :
    (frame payload).length = headerSize + payload.segments.length * 8 + payload.manifest.length +
      (payload.segments.map List.length).sum := by
  simp only [frame, magic, headerSize, length_append, length_wordBytes, length_wordsBytes,
    length_map, length_flatten, length_cons, length_nil]
  omega

variable {raw : Bytes}

variable {payload : EncodedPayload}

theorem join_ok : join (ε := ε) config payload = .ok raw ↔
      raw = frame payload ∧ Fits payload ∧ (frame payload).length ≤ config.maxMessageBytes := by
  have length := length_frame payload
  have header : (magic ++ (wordBytes 4 payload.manifest.length ++
      wordBytes 4 (payload.segments.map List.length).length)).length = headerSize := by
    simp [magic, headerSize]
  have joined : frame payload = (magic ++ (wordBytes 4 payload.manifest.length ++
      wordBytes 4 (payload.segments.map List.length).length)) ++
      (wordsBytes 8 (payload.segments.map List.length) ++ (payload.manifest ++ payload.segments.flatten)) := by
    simp [frame]
  constructor
  · intro ran
    obtain ⟨head, packed, ran⟩ := bind_ok ran
    obtain ⟨table, tabled, ran⟩ := bind_ok ran
    obtain ⟨manifest, packed⟩ := ensure_bind_ok.mp packed
    obtain ⟨count, packed⟩ := ensure_bind_ok.mp packed
    obtain ⟨lengths, tabled⟩ := ensure_bind_ok.mp tabled
    obtain ⟨size, ran⟩ := ensure_bind_ok.mp ran
    obtain rfl := Except.ok.inj packed
    obtain rfl := Except.ok.inj tabled
    obtain rfl := Except.ok.inj ran
    rw [header, length_wordsBytes, length_map] at size
    rw [length_map] at count
    exact ⟨joined.symm, ⟨manifest, count, lengths⟩, length ▸ size⟩
  · rintro ⟨rfl, fits, within⟩
    have packed : packHeader (ε := ε) payload.manifest.length (payload.segments.map List.length).length = .ok _ :=
      ensure_bind_ok.mpr ⟨fits.manifest, ensure_bind_ok.mpr ⟨by simpa using fits.count, rfl⟩⟩
    have tabled : packTable (ε := ε) (payload.segments.map List.length) = .ok _ :=
      ensure_bind_ok.mpr ⟨fits.lengths, rfl⟩
    rw [join, packed]
    show packTable _ >>= _ = _
    rw [tabled]
    refine ensure_bind_ok.mpr ⟨?_, congrArg Except.ok joined.symm⟩
    rw [header, length_wordsBytes, length_map, ← length]
    exact within

/-! ## Taking a frame apart -/

theorem unpackHeader_ok (room : headerSize ≤ raw.length) : unpackHeader (ε := ε) raw =
      .ok (raw.take 8, wordOf ((raw.drop 8).take 4), wordOf ((raw.drop 12).take 4)) :=
  ensure_bind_ok.mpr ⟨room, rfl⟩

theorem unpackTable_ok {count} (room : headerSize + count * 8 ≤ raw.length) :
    unpackTable (ε := ε) count raw = .ok (wordsOf 8 count (raw.drop headerSize)) :=
  ensure_bind_ok.mpr ⟨room, rfl⟩

theorem header_layout (room : headerSize ≤ raw.length) :
    raw = raw.take 8 ++ (wordBytes 4 (wordOf ((raw.drop 8).take 4)) ++
      (wordBytes 4 (wordOf ((raw.drop 12).take 4)) ++ raw.drop headerSize)) := by
  unfold headerSize at room ⊢
  have word {offset : Nat} (inside : offset + 4 ≤ raw.length) :
      wordBytes 4 (wordOf ((raw.drop offset).take 4)) = (raw.drop offset).take 4 := by
    have full : ((raw.drop offset).take 4).length = 4 :=
      length_take_of_le (by rw [length_drop]; omega)
    rw [← congrArg (wordBytes · _) full]
    exact wordBytes_wordOf _
  have last : (raw.drop 12).take 4 ++ raw.drop 16 = raw.drop 12 := by
    rw [← drop_drop (i := 4) (j := 12)]
    exact take_append_drop 4 _
  have next : (raw.drop 8).take 4 ++ raw.drop 12 = raw.drop 8 := by
    rw [← drop_drop (i := 4) (j := 8)]
    exact take_append_drop 4 _
  rw [word (by omega), word (by omega), last, next, take_append_drop]

theorem split_error {fault : Fault ε} (raised : split config raw = .error fault) :
    ∃ text, fault = .valueError text := by
  rcases ensure_bind_error raised with same | ⟨⟨room, _⟩, raised⟩
  · exact ⟨_, same⟩
  rw [unpackHeader_ok room] at raised
  rcases ensure_bind_error raised with same | ⟨header, raised⟩
  · exact ⟨_, same⟩
  obtain ⟨_, _, _, whole⟩ : _ ∧ _ ∧ _ ∧ _ := by simpa only [not_or, not_lt] using header
  rw [unpackTable_ok (by omega)] at raised
  rcases ensure_bind_error raised with same | ⟨_, raised⟩
  · exact ⟨_, same⟩
  · cases raised

theorem frame_layout {manifestSize} {sizes} (header : raw = magic ++ (wordBytes 4 manifestSize ++
      (wordBytes 4 sizes.length ++ raw.drop headerSize)))
    (table : wordsBytes 8 sizes = (raw.drop headerSize).take (sizes.length * 8))
    (whole : headerSize + sizes.length * 8 + manifestSize + sizes.sum = raw.length) :
    frame { manifest := (raw.drop (headerSize + sizes.length * 8)).take manifestSize
            segments := cuts raw (headerSize + sizes.length * 8 + manifestSize) sizes } = raw := by
  have manifest : ((raw.drop (headerSize + sizes.length * 8)).take manifestSize).length =
      manifestSize := length_take_of_le (by rw [length_drop]; omega)
  have pieces := lengths_cuts (Nat.le_of_eq whole)
  have counted : (cuts raw (headerSize + sizes.length * 8 + manifestSize) sizes).length = sizes.length := by
    have same := congrArg List.length pieces
    rwa [length_map] at same
  have segments : (cuts raw (headerSize + sizes.length * 8 + manifestSize) sizes).flatten =
      raw.drop (headerSize + sizes.length * 8 + manifestSize) := by
    rw [flatten_cuts]
    exact take_of_length_le (by rw [length_drop]; omega)
  have body : (raw.drop (headerSize + sizes.length * 8)).take manifestSize ++
      raw.drop (headerSize + sizes.length * 8 + manifestSize) =
      raw.drop (headerSize + sizes.length * 8) := by
    rw [← drop_drop (i := manifestSize)]
    exact take_append_drop manifestSize _
  have rest : (raw.drop headerSize).take (sizes.length * 8) ++
      raw.drop (headerSize + sizes.length * 8) = raw.drop headerSize := by
    rw [← drop_drop]
    exact take_append_drop (sizes.length * 8) _
  rw [frame]
  dsimp only
  rw [manifest, counted, pieces, segments, body, table, rest]
  exact header.symm

theorem frame_of_split (ran : split (ε := ε) config raw = .ok payload) : frame payload = raw := by
  obtain ⟨⟨room, _⟩, ran⟩ := ensure_bind_ok.mp ran
  rw [unpackHeader_ok room] at ran
  obtain ⟨header, ran⟩ := ensure_bind_ok.mp ran
  obtain ⟨isMagic, _, _, whole⟩ : _ ∧ _ ∧ _ ∧ _ := by
    simpa only [not_or, not_lt, ne_eq, not_not] using header
  rw [unpackTable_ok (by omega)] at ran
  obtain ⟨lengths, ran⟩ := ensure_bind_ok.mp ran
  obtain rfl := Except.ok.inj ran
  have layout := header_layout room
  rw [isMagic] at layout
  have tableRoom : wordOf ((raw.drop 12).take 4) * 8 ≤ (raw.drop headerSize).length := by
    rw [length_drop]
    omega
  have table := wordsBytes_wordsOf tableRoom
  have counted := length_wordsOf 8 (wordOf ((raw.drop 12).take 4)) (raw.drop headerSize)
  generalize wordsOf 8 (wordOf ((raw.drop 12).take 4)) (raw.drop headerSize) = sizes at *
  rw [← counted] at layout lengths table ⊢
  rw [Nat.add_sub_cancel_left]
  exact frame_layout layout table lengths

theorem split_frame (fits : Fits payload) (within : Within config payload)
    (bound : (frame payload).length ≤ config.maxMessageBytes) :
    split (ε := ε) config (frame payload) = .ok payload := by
  have length := length_frame payload
  have room : headerSize ≤ (frame payload).length := by omega
  have magicSize : magic.length = 8 := rfl
  have found : (frame payload).take 8 = magic := take_left' magicSize
  have manifestSize : wordOf (((frame payload).drop 8).take 4) = payload.manifest.length := by
    rw [frame, drop_left' magicSize, take_left' (length_wordBytes ..)]
    exact wordOf_wordBytes fits.manifest
  have count : wordOf (((frame payload).drop 12).take 4) = payload.segments.length := by
    rw [frame, ← append_assoc, drop_left' (by simp [magic]), take_left' (length_wordBytes ..)]
    exact wordOf_wordBytes fits.count
  have rest : (frame payload).drop headerSize = wordsBytes 8 (payload.segments.map List.length) ++
      (payload.manifest ++ payload.segments.flatten) := by
    rw [frame, ← append_assoc, ← append_assoc, drop_left' (by simp [magic, headerSize])]
  have table : wordsOf 8 payload.segments.length ((frame payload).drop headerSize) =
      payload.segments.map List.length := by
    have read := wordsOf_wordsBytes (payload.manifest ++ payload.segments.flatten) fits.lengths
    rwa [length_map, ← rest] at read
  have body : (frame payload).drop (headerSize + payload.segments.length * 8) =
      payload.manifest ++ payload.segments.flatten := by
    rw [← drop_drop, rest, drop_left' (by simp)]
  refine ensure_bind_ok.mpr ⟨⟨room, bound⟩, ?_⟩
  rw [unpackHeader_ok room, found, manifestSize, count]
  have inside : headerSize + payload.segments.length * 8 ≤ (frame payload).length := by omega
  refine ensure_bind_ok.mpr ⟨?_, ?_⟩
  · have counts := within.segments
    have manifests := within.manifest
    simp only [ne_eq, not_true_eq_false, false_or, not_or]
    omega
  rw [unpackTable_ok inside, table]
  refine ensure_bind_ok.mpr ⟨length.symm, congrArg Except.ok ?_⟩
  have manifest : ((frame payload).drop (headerSize + payload.segments.length * 8)).take
      payload.manifest.length = payload.manifest := by
    rw [body, take_left]
  have segments : cuts (frame payload) (headerSize + payload.segments.length * 8 + payload.manifest.length)
      (payload.segments.map List.length) = payload.segments := by
    have pieces := cuts_flatten ((frame payload).take
      (headerSize + payload.segments.length * 8 + payload.manifest.length)) payload.segments []
    have after : (frame payload).drop (headerSize + payload.segments.length * 8 + payload.manifest.length) =
        payload.segments.flatten := by
      rw [← drop_drop, body, drop_left]
    rw [append_nil, ← after, take_append_drop, length_take_of_le (by omega)] at pieces
    exact pieces
  rw [Nat.add_sub_cancel_left, manifest, segments]

/-- **A framed payload comes out as it went in, and nothing else reaches the payload codec.** -/
theorem segmented_frames : (∀ value payload, codec.encode value = .ok payload → Within config payload →
      ((∃ raw, encode config codec value = .ok raw) ↔
        Fits payload ∧ (frame payload).length ≤ config.maxMessageBytes) ∧
      ∀ raw, encode config codec value = .ok raw → split (ε := ε) config raw = .ok payload ∧
        decode config codec raw = (codec.decode payload).mapError Fault.codec) ∧
    ∀ raw, (∃ text, ∀ codec : PayloadCodec V ε, decode config codec raw = .error (.valueError text)) ∨
      ∃ payload, frame payload = raw ∧ ∀ codec : PayloadCodec V ε,
          decode config codec raw = (codec.decode payload).mapError Fault.codec := by
  have through {raw : Bytes} {payload : EncodedPayload}
      (ran : split (ε := ε) config raw = .ok payload) (codec : PayloadCodec V ε) :
      decode config codec raw = (codec.decode payload).mapError Fault.codec := by
    rw [decode, ran]
    rfl
  refine ⟨fun value payload encoded within => ?_, fun raw => ?_⟩
  · have framed : encode config codec value = join config payload := by
      rw [encode, encoded]
      rfl
    rw [framed]
    refine ⟨⟨fun ⟨raw, ran⟩ => ((join_ok config).mp ran).2,
      fun both => ⟨_, (join_ok config).mpr ⟨rfl, both⟩⟩⟩, fun raw ran => ?_⟩
    obtain ⟨rfl, fits, bound⟩ := (join_ok config).mp ran
    have ran := split_frame (ε := ε) config fits within bound
    exact ⟨ran, through ran codec⟩
  · cases ran : split (ε := ε) config raw with
    | ok payload => exact .inr ⟨payload, frame_of_split config ran, through ran⟩
    | error =>
      obtain ⟨text, rfl⟩ := split_error config ran
      refine .inl ⟨text, fun codec => ?_⟩
      rw [decode, ran]
      rfl

def plain : PayloadCodec EncodedPayload Unit where
  encode := .ok
  decode := .ok

def sample : EncodedPayload := { manifest := [7], segments := [[], [1, 2]] }

def small : CommConfig := { maxMessageBytes := 64, maxSegments := 2, maxManifestBytes := 1 }

theorem segmented_frames_sample : decode small plain (frame sample) = .ok sample := by
  have within : Within small sample := { segments := by decide, manifest := by decide }
  have fits : Fits sample := { manifest := by decide, count := by decide, lengths := by decide }
  have framed := (segmented_frames small plain).1 sample sample rfl within
  obtain ⟨raw, ran⟩ := framed.1.mpr ⟨fits, by decide⟩
  have joined : join small sample = .ok raw := ran
  obtain ⟨rfl, _⟩ := (join_ok small).mp joined
  rw [(framed.2 _ ran).2]
  rfl

end EmbodiRun.Rollout.Segmented
