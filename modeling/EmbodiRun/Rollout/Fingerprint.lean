/-
# Rollout.Fingerprint -- what a fingerprint of recorded inputs tells about them

A source of recorded observations hashes the text of its frames, one after the other.  `ReplaySource` reads
its frames in that order; `CameraObservationSource` takes them from its publishers in turn, and hashes nothing
about which publisher has which.

* `Camera.faithful_iff`, `layouts_iff`: **two camera sources with equal fingerprints give equal observations
  exactly if they read that list in one order**.
-/
import EmbodiRun.Data.Dumps
import EmbodiRun.Data.Turns

namespace EmbodiRun.Rollout.Fingerprint

open Data Dumps List
open Reread (Str Settled)

structure Frame where
  state : List Number
  instruction : Tree Name .value
  images : List (Name × ByteArray)

def numbers : List Number → Tree Name .items
  | [] => .nil
  | n :: rest => .cons (.number n) (numbers rest)

namespace Frame

/-- `==`. -/
def eq (a b : Frame) : Bool :=
  (numbers a.state).eq (numbers b.state) && a.instruction.eq b.instruction && a.images = b.images

structure Decoded (stateDim imageSize : Nat) (frame : Frame) : Prop where
  state : frame.state.length = stateDim
  finite : ∀ n ∈ frame.state, n.isFinite
  plain : Plain frame.instruction
  images : frame.images ≠ []
  ordered : (frame.images.map Prod.fst).Pairwise fun a b => a.1 < b.1
  pixels : ∀ image ∈ frame.images, image.2.size = imageSize * imageSize * 3

end Frame

/-! ## The fingerprint -/

/-- `hashlib.sha256(data).hexdigest()`, which tells all data apart, beside how numbers are written. -/
structure Python extends Numerals where
  hexdigest : ByteArray → Name
  collisionless : Function.Injective hexdigest

/-- A `str` of letters. -/
def nameOf (text : String) : Str := text.toList.map fun c => Fin.ofNat _ c.toNat

def imagesKey : Name := ⟨nameOf "images", by decide⟩

def instructionKey : Name := ⟨nameOf "instruction", by decide⟩

def stateKey : Name := ⟨nameOf "state", by decide⟩

section

variable (py : Python)

def digests : List (Name × ByteArray) → Tree Name .fields
  | [] => .empty
  | (name, data) :: rest => .field name (.str (py.hexdigest data)) (digests rest)

def record (frame : Frame) : Tree Name .fields :=
  .field imagesKey (.dict (digests py frame.images)) (.field instructionKey frame.instruction
    (.field stateKey (.list (numbers frame.state)) .empty))

/-- `[self.state_dim, self.image_size]`. -/
def header (stateDim imageSize : Nat) : Tree Name .value := .list (numbers [.int stateDim, .int imageSize])

def preimage (stateDim imageSize : Nat) (frames : List Frame) : List Char :=
  dumps py.toNumerals (header stateDim imageSize) ++
    (frames.map (record py)).flatMap fun record => dumps py.toNumerals (.dict record)

def fingerprint (stateDim imageSize : Nat) (frames : List Frame) : Name :=
  py.hexdigest (String.ofList (preimage py stateDim imageSize frames)).toByteArray

end

/-! ## The sources -/

structure Replay where
  stateDim : Nat
  imageSize : Nat
  positive : 0 < stateDim ∧ 0 < imageSize
  frames : List Frame
  some_ : frames ≠ []
  decoded : ∀ frame ∈ frames, frame.Decoded stateDim imageSize

namespace Replay

def observation (source : Replay) (index : ℤ) : Option Frame :=
  source.frames[(index % source.frames.length).toNat]?

def fingerprint (py : Python) (source : Replay) : Name :=
  Fingerprint.fingerprint py source.stateDim source.imageSize source.frames

end Replay

/-- A `CameraObservationSource` in recorded mode. -/
structure Camera where
  stateDim : Nat
  imageSize : Nat
  positive : 0 < stateDim ∧ 0 < imageSize
  /-- The frames of each publisher. -/
  recorded : List (List Frame)
  publishers : recorded ≠ []
  counted : ∀ recording ∈ recorded, recording ≠ []
  decoded : ∀ recording ∈ recorded, ∀ frame ∈ recording, frame.Decoded stateDim imageSize

namespace Camera

variable (camera : Camera)

/-- `for recording in self.recorded: for frame in recording`. -/
def frames : List Frame := camera.recorded.flatten

def fingerprint (py : Python) : Name :=
  Fingerprint.fingerprint py camera.stateDim camera.imageSize camera.frames

/-- `self.recorded[source][frame % len(self.recorded[source])]`. -/
def expected (index : ℤ) : Option Frame := turn camera.recorded index

/-- `observation`, where `fetched` is what is decoded of a publisher's answer for a frame, and nothing if that
raises. -/
def observation (fetched : Nat → ℤ → Option Frame) (index : ℤ) : Option Frame := do
  let value ← fetched (index % camera.recorded.length).toNat (index / camera.recorded.length)
  let expected ← camera.expected index
  if value.eq expected then some value else none

def layout : Lengths where
  each := camera.recorded.map List.length
  some_ := by simpa using camera.publishers
  positive n held := by
    obtain ⟨recording, there, rfl⟩ := List.mem_map.mp held
    exact List.length_pos_iff.mpr (camera.counted recording there)

end Camera

/-! ## What a fingerprint is to tell -/

def Replay.Faithful (py : Python) (a b : Replay) : Prop :=
  a.fingerprint py = b.fingerprint py → ∀ index, a.observation index = b.observation index

def Camera.Faithful (py : Python) (a b : Camera) : Prop :=
  a.fingerprint py = b.fingerprint py → ∀ index first second v w,
    a.observation first index = some v → b.observation second index = some w → v.eq w

/-! ## Equal frames -/

namespace Frame

variable {a b c : Frame}

theorem eq_iff : a.eq b ↔ (numbers a.state).eq (numbers b.state) ∧ a.instruction.eq b.instruction ∧
    a.images = b.images := by
  simp [eq, and_assoc]

theorem eq_symm (equal : a.eq b) : b.eq a := by
  obtain ⟨state, instruction, images⟩ := eq_iff.mp equal
  exact eq_iff.mpr ⟨Tree.eq_symm state, Tree.eq_symm instruction, images.symm⟩

theorem eq_trans (one : a.eq b) (two : b.eq c) : a.eq c := by
  obtain ⟨state, instruction, images⟩ := eq_iff.mp one
  obtain ⟨others, text, pictures⟩ := eq_iff.mp two
  exact eq_iff.mpr ⟨Tree.eq_trans state others, Tree.eq_trans instruction text, images.trans pictures⟩

end Frame

/-! ## What is hashed -/

section

variable {py : Python}

theorem numbers_injective {xs ys} (same : numbers xs = numbers ys) : xs = ys := by
  induction xs generalizing ys with
  | nil =>
    cases ys with
    | nil => rfl
    | cons => cases same
  | cons x xs ih =>
    cases ys with
    | nil => cases same
    | cons =>
      obtain ⟨here, later⟩ := Tree.cons.inj same
      rw [Tree.number.inj here, ih later]

theorem plain_numbers : (xs : List Number) → Plain (numbers xs)
  | [] => trivial
  | _ :: rest => ⟨trivial, plain_numbers rest⟩

theorem digests_injective {xs ys} (same : digests py xs = digests py ys) : xs = ys := by
  induction xs generalizing ys with
  | nil =>
    cases ys with
    | nil => rfl
    | cons => cases same
  | cons x xs ih =>
    cases ys with
    | nil => cases same
    | cons =>
      obtain ⟨name, digest, later⟩ := Tree.field.inj same
      rw [Prod.ext name (py.collisionless (Tree.str.inj digest)), ih later]

theorem plain_digests : (images : List (Name × ByteArray)) → Plain (digests py images)
  | [] => trivial
  | _ :: rest => ⟨trivial, plain_digests rest⟩

theorem record_injective : Function.Injective (record py) := by
  rintro ⟨state, instruction, images⟩ ⟨state', instruction', images'⟩ same
  obtain ⟨-, pictures, others⟩ := Tree.field.inj same
  obtain ⟨-, text, last⟩ := Tree.field.inj others
  obtain ⟨-, values, -⟩ := Tree.field.inj last
  obtain rfl : state = state' := numbers_injective (Tree.list.inj values)
  obtain rfl : instruction = instruction' := text
  obtain rfl : images = images' := digests_injective (Tree.dict.inj pictures)
  rfl

theorem plain_record {frame} (plain : Plain frame.instruction) : Plain (record py frame) :=
  ⟨plain_digests frame.images, plain, plain_numbers frame.state, trivial⟩

variable {dim dim' size size' : Nat} {frames frames' : List Frame}

theorem preimage_injective (first : ∀ frame ∈ frames, Plain frame.instruction)
    (second : ∀ frame ∈ frames', Plain frame.instruction)
    (same : preimage py dim size frames = preimage py dim' size' frames') :
    (dim = dim' ∧ size = size') ∧ frames = frames' := by
  have plain {frames : List Frame} (each : ∀ frame ∈ frames, Plain frame.instruction) :
      ∀ t ∈ frames.map (record py), Plain t := by
    intro t held
    obtain ⟨frame, there, rfl⟩ := List.mem_map.mp held
    exact plain_record (each frame there)
  obtain ⟨heads, rest⟩ := text_append (header dim size) (plain_numbers [.int dim, .int size])
    (u := header dim' size') (plain_numbers [.int dim', .int size']) (ends_records _) (ends_records _) same
  have dims := numbers_injective (Tree.list.inj heads)
  simp only [List.cons.injEq, Number.int.injEq, Int.natCast_inj, and_true] at dims
  exact ⟨dims, record_injective.list_map (records_injective (plain first) (plain second) rest)⟩

/-- **Fingerprints are equal** exactly for equal dimensions and equal lists of frames. -/
theorem fingerprint_eq_iff (first : ∀ frame ∈ frames, Plain frame.instruction)
    (second : ∀ frame ∈ frames', Plain frame.instruction) :
    fingerprint py dim size frames = fingerprint py dim' size' frames' ↔
      (dim = dim' ∧ size = size') ∧ frames = frames' := by
  constructor
  · intro same
    have text := String.toByteArray_inj.mp (py.collisionless same)
    exact preimage_injective first second (String.ofList_injective text)
  · rintro ⟨⟨rfl, rfl⟩, rfl⟩
    rfl

end

/-! ## The two sources -/

/-- Two frames that can be returned, which a frame with a `nan` cannot, are equal. -/
def Frame.Agree (a b : Frame) : Prop := a.eq a → b.eq b → a.eq b

section

variable {py : Python}

theorem Replay.faithful (a b : Replay) : a.Faithful py b := by
  intro same index
  obtain ⟨-, frames⟩ := (fingerprint_eq_iff (fun frame held => (a.decoded frame held).plain)
    fun frame held => (b.decoded frame held).plain).mp same
  rw [observation, observation, frames]

namespace Camera

variable {camera : Camera} {index : ℤ} {fetched : Nat → ℤ → Option Frame} {v e : Frame}

theorem plain {frame} (held : frame ∈ camera.frames) : Plain frame.instruction := by
  obtain ⟨recording, there, inside⟩ := List.mem_flatten.mp held
  exact (camera.decoded recording there frame inside).plain

theorem expected_eq (index : ℤ) : camera.expected index = camera.frames[walk camera.layout.each index]? :=
  turn_eq camera.publishers camera.counted index

theorem observation_ok (returned : camera.observation fetched index = some v) :
    ∃ e, camera.frames[walk camera.layout.each index]? = some e ∧ v.eq e := by
  obtain ⟨value, -, rest⟩ := Option.bind_eq_some_iff.mp returned
  obtain ⟨e, there, checked⟩ := Option.bind_eq_some_iff.mp rest
  split at checked <;> cases checked
  exact ⟨e, by rw [← expected_eq, there], by assumption⟩

theorem sum_layout : camera.layout.each.sum = camera.frames.length := List.length_flatten.symm

theorem observation_self (there : camera.frames[walk camera.layout.each index]? = some e) (equal : e.eq e) :
    camera.observation (fun _ _ => some e) index = some e := by
  rw [← expected_eq] at there
  simp [observation, there, equal]

/-- Equal fingerprints are of equal observations exactly if what the two walks meet in the list of all frames
is equal. -/
theorem faithful_iff {a b : Camera} : a.Faithful py b ↔
    ((a.stateDim = b.stateDim ∧ a.imageSize = b.imageSize) ∧ a.frames = b.frames →
      ∀ index e e', a.frames[walk a.layout.each index]? = some e →
        a.frames[walk b.layout.each index]? = some e' → e.Agree e') := by
  have told : a.fingerprint py = b.fingerprint py ↔
      (a.stateDim = b.stateDim ∧ a.imageSize = b.imageSize) ∧ a.frames = b.frames :=
    fingerprint_eq_iff (fun _ held => plain held) fun _ held => plain held
  constructor
  · intro faithful same index e e' first second own other
    rw [same.2] at second
    exact faithful (told.mpr same) index _ _ e e' (observation_self first own) (observation_self second other)
  · intro agree same index answers answers' v w first second
    have inputs := told.mp same
    obtain ⟨e, there, equal⟩ := observation_ok first
    obtain ⟨e', there', equal'⟩ := observation_ok second
    rw [← inputs.2] at there'
    have both := agree inputs index e e' there there' (Frame.eq_trans (Frame.eq_symm equal) equal)
      (Frame.eq_trans (Frame.eq_symm equal') equal')
    exact Frame.eq_trans (Frame.eq_trans equal both) (Frame.eq_symm equal')

end Camera

/-! ## Numbered frames -/

def numbered (k : Nat) : Frame where
  state := [.int 0]
  instruction := .number (.int k)
  images := [(⟨nameOf "front", by decide⟩, ⟨#[0, 0, 0]⟩)]

theorem numbered_decoded (k : Nat) : (numbered k).Decoded 1 1 where
  state := rfl
  finite := by simp [numbered, Number.isFinite]
  plain := trivial
  images := by simp [numbered]
  ordered := pairwise_singleton _ _
  pixels := by simp [numbered]; rfl

theorem numbered_eq_iff {m n : Nat} : (numbered m).eq (numbered n) ↔ m = n := by
  simp [Frame.eq, numbered, numbers, Tree.eq, Number.eq, Number.quantity]

def publishing (lengths : Lengths) : Camera where
  stateDim := 1
  imageSize := 1
  positive := by decide
  recorded := lengths.each.splitLengths ((List.range lengths.each.sum).map numbered)
  publishers none_ := by
    have count := congrArg List.length none_
    rw [length_splitLengths] at count
    exact lengths.some_ (List.length_eq_zero_iff.mp count)
  counted recording held none_ := by
    have length : recording.length ∈ lengths.each := by
      rw [← map_splitLengths_length ((List.range lengths.each.sum).map numbered) lengths.each (by simp)]
      exact mem_map_of_mem held
    have some_ := lengths.positive _ length
    rw [none_] at some_
    cases some_
  decoded recording held frame inside := by
    have there : frame ∈ (lengths.each.splitLengths ((List.range lengths.each.sum).map numbered)).flatten :=
      List.mem_flatten.mpr ⟨recording, held, inside⟩
    rw [flatten_splitLengths _ _ (by simp)] at there
    obtain ⟨k, -, rfl⟩ := List.mem_map.mp there
    exact numbered_decoded k

theorem publishing_frames (lengths : Lengths) :
    (publishing lengths).frames = (List.range lengths.each.sum).map numbered :=
  flatten_splitLengths _ _ (by simp)

theorem publishing_layout (lengths : Lengths) : (publishing lengths).layout.each = lengths.each :=
  map_splitLengths_length _ _ (by simp)

/-- Numbers of frames for each publisher guarantee equal observations exactly if their sums differ or they
are walked alike. -/
theorem layouts_iff {c d : Lengths} :
    (∀ a b : Camera, a.layout.each = c.each → b.layout.each = d.each → a.Faithful py b) ↔
      c.each.sum ≠ d.each.sum ∨ c.each = d.each ∨ Lengths.Singles c d ∨ Lengths.Singles d c := by
  constructor
  · intro faithful
    refine or_iff_not_imp_left.mpr fun sum => (walk_eq_iff (not_not.mp sum)).mp fun index => ?_
    have same := not_not.mp sum
    have agree := Camera.faithful_iff.mp (faithful (publishing c) (publishing d) (publishing_layout c)
      (publishing_layout d)) ⟨⟨rfl, rfl⟩, by rw [publishing_frames, publishing_frames, same]⟩ index
    rw [publishing_layout, publishing_layout, publishing_frames] at agree
    have first := walk_lt c index
    have second := walk_lt d index
    have both := agree (numbered (walk c.each index)) (numbered (walk d.each index)) (by simp [first])
      (by simp [same, second])
    exact numbered_eq_iff.mp (both (numbered_eq_iff.mpr rfl) (numbered_eq_iff.mpr rfl))
  · intro alike a b first second
    refine Camera.faithful_iff.mpr fun inputs index e e' there there' own _ => ?_
    have sum : c.each.sum = d.each.sum := by
      rw [← first, ← second, Camera.sum_layout, Camera.sum_layout, inputs.2]
    have walks := (walk_eq_iff sum).mpr (alike.resolve_left (not_not.mpr sum)) index
    rw [first] at there
    rw [second, ← walks, there] at there'
    cases there'
    exact own

/-- What a fingerprint tells: camera sources with equal ones agree exactly where their walks through the one
list of frames do; replay sources always do. -/
theorem identical_iff (py : Python) : (∀ a b : Camera, a.Faithful py b ↔
      ((a.stateDim = b.stateDim ∧ a.imageSize = b.imageSize) ∧ a.frames = b.frames →
        ∀ index e e', a.frames[walk a.layout.each index]? = some e →
          a.frames[walk b.layout.each index]? = some e' → e.Agree e')) ∧
    (∀ c d : Lengths, (∀ a b : Camera, a.layout.each = c.each → b.layout.each = d.each → a.Faithful py b) ↔
        c.each.sum ≠ d.each.sum ∨ c.each = d.each ∨ Lengths.Singles c d ∨ Lengths.Singles d c) ∧
    ∀ a b : Replay, a.Faithful py b :=
  ⟨fun _ _ => Camera.faithful_iff, fun _ _ => layouts_iff, Replay.faithful⟩

end

/-! ## Digests and numerals -/

theorem countable_number : Countable Number := by
  refine Function.Injective.countable (β := Bool ⊕ ℤ ⊕ ℚ ⊕ Option (Option Bool)) (f := fun
    | .bool b => .inl b
    | .int n => .inr (.inl n)
    | .float (.finite x) => .inr (.inr (.inl x))
    | .float .minusZero => .inr (.inr (.inr none))
    | .float .nan => .inr (.inr (.inr (some none)))
    | .float (.infinite negative) => .inr (.inr (.inr (some (some negative))))) fun a b same => ?_
  match a, b with
  | .bool _, .bool _ | .int _, .int _ | .float (.finite _), .float (.finite _) | .float .minusZero, .float .minusZero
  | .float .nan, .float .nan | .float (.infinite _), .float (.infinite _) => simp_all

theorem settled_bytes (bytes : List UInt8) : Settled (bytes.map fun b => Fin.ofNat _ b.toNat) := by
  refine List.Pairwise.isChain (List.pairwise_map.mpr (pairwise_of_forall fun b _ both => ?_))
  have bound := b.toNat_lt
  have high := of_decide_eq_true both.1
  simp only [Fin.val_ofNat] at high
  omega

theorem nonempty_python : Nonempty Python := by
  obtain ⟨code, injective⟩ := countable_number.exists_injective_nat
  refine ⟨{ shown := fun n => List.replicate (code n + 1) '1', injective := fun a b same => ?_
            word := fun n => ⟨by simp, fun c held => ?_⟩, ne_null := fun n same => ?_
            hexdigest := fun data => ⟨_, settled_bytes data.data.toList⟩, collisionless := fun a b same => ?_ }⟩
  · have length := congrArg List.length same
    simp only [length_replicate] at length
    exact injective (Nat.succ.inj length)
  · rw [eq_of_mem_replicate held]
    rfl
  · have first := congrArg List.head? same
    cases first
  · have points : Function.Injective fun b : UInt8 => (Fin.ofNat _ b.toNat : Reread.CodePoint) := by
      intro b c equal
      have value := congrArg Fin.val equal
      have first := b.toNat_lt
      have second := c.toNat_lt
      simp only [Fin.val_ofNat] at value
      exact UInt8.toNat_inj.mp (by omega)
    exact ByteArray.ext (Array.toList_inj.mp (points.list_map (congrArg Subtype.val same)))

/-! ## One publisher for two -/

def onePublisher : Camera := publishing ⟨[4], by decide, by decide⟩

def twoPublishers : Camera := publishing ⟨[2, 2], by decide, by decide⟩

/-- Four frames have one fingerprint, whether one publisher has them or two, and differ at index 1. -/
theorem observations_moved : (∀ py, onePublisher.fingerprint py = twoPublishers.fingerprint py) ∧
    onePublisher.observation (fun _ _ => some (numbered 1)) 1 = some (numbered 1) ∧
    twoPublishers.observation (fun _ _ => some (numbered 2)) 1 = some (numbered 2) ∧
    (numbered 1).eq (numbered 2) = false := by
  have own (k : Nat) : (numbered k).eq (numbered k) = true := numbered_eq_iff.mpr rfl
  refine ⟨fun py => rfl, ?_, ?_, ?_⟩
  · exact Camera.observation_self (by rw [onePublisher, publishing_layout, publishing_frames]; rfl) (own 1)
  · exact Camera.observation_self (by rw [twoPublishers, publishing_layout, publishing_frames]; rfl) (own 2)
  · exact Bool.eq_false_iff.mpr fun equal => absurd (numbered_eq_iff.mp equal) (by decide)

end EmbodiRun.Rollout.Fingerprint
