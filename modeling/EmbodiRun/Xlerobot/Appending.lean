/-
# Xlerobot.Appending -- appends that fail

An append writes its images, each by a replace, and then the frame's line, which commits them.  When
something raises, the images are unlinked; the bytes of the line that are already in the file stay.

* `append_intact_iff`: **an episode stays intact in a run of appends exactly if no line is written in
  part, none is written whole by an append that raises, and no two roles of a frame that is written
  differ in blanks only but not in their images**.
-/
import EmbodiRun.Http.Routes
import EmbodiRun.Transition.Machine
import EmbodiRun.Xlerobot.Recording

namespace EmbodiRun.Xlerobot.Appending

open Function
open EmbodiRun.Transition Recording List

/-! ## What is appended -/

def strip (text : List Char) : List Char :=
  ((text.dropWhile Http.isSpace).reverse.dropWhile Http.isSpace).reverse

inductive Refusal where
  /-- The observation, the action, the input or the feedback is not serialized. -/
  | unserializable
  /-- `image role must be a non-empty string` -/
  | blankRole
  /-- `unsafe image role {role!r}` -/
  | unsafeRole (role : List Char)
  /-- `images[{role!r}] must be bytes` -/
  | notBytes (role : List Char)
  /-- `images[{role!r}] must not be empty` -/
  | emptyImage (role : List Char)
  deriving DecidableEq

/-- `_safe_role`; `none` is not a `str`. -/
def safeRole : Option (List Char) → Except Refusal (List Char)
  | none => .error .blankRole
  | some raw =>
    if strip raw = [] then .error .blankRole
    else if strip raw = ['.'] ∨ strip raw = ['.', '.'] ∨ '/' ∈ strip raw ∨ '\\' ∈ strip raw ∨ '\x00' ∈ strip raw
      then .error (.unsafeRole (strip raw))
    else .ok (strip raw)

abbrev Image := List Char × Bytes

def checkImage : Option (List Char) × Option Bytes → Except Refusal Image
  | (raw, payload) => do
    let role ← safeRole raw
    match payload with
    | none => .error (.notBytes role)
    | some [] => .error (.emptyImage role)
    | some payload => .ok (role, payload)

def checkImages : List (Option (List Char) × Option Bytes) → Except Refusal (List Image)
  | [] => .ok []
  | item :: items => do
    let image ← checkImage item
    let images ← checkImages items
    .ok (image :: images)

/-- What `append` is given: `sample` is what the frame is made of besides its images, `none` if some of
it is not serialized. -/
structure Request where
  sample : Option Sample
  images : List (Option (List Char) × Option Bytes) := []
  valid : ∀ s ∈ sample, s.Valid

/-- The keys of `relative_images`, sorted. -/
def rolesOf (images : List Image) : List (List Char) :=
  (images.map Prod.fst).dedup.mergeSort fun a b => decide (a ≤ b)

def Request.check (request : Request) : Except Refusal (Sample × List Image) :=
  match request.sample with
  | none => .error .unserializable
  | some sample => do
    let images ← checkImages request.images
    .ok ({ sample with roles := rolesOf images }, images)

/-! ## Files -/

/-- What an `_atomic_write_bytes` comes to. -/
inductive ImageWrite where
  | written
  | raised (replaced : Bool)

/-- What becomes of the line: bytes of it are in the file, and `write`, `flush`, `fsync` or `close`
raised, or none of them. -/
inductive LineWrite where
  | notOpened
  | ended (bytes : Nat) (raised : Bool)

structure Outcome where
  image : Nat → ImageWrite := fun _ => .written
  line : LineWrite
  unlink : List Char → Bool := fun _ => true

structure Frame where
  index : Nat
  sample : Sample
  images : List Image

def Frame.text (frame : Frame) : List Char := frameText frame.index frame.sample

abbrev Files := List Char → Option Bytes

/-- A recorder between `start` and `finish`, its episode's `frames.jsonl` and images.  `returned` has
the frames whose appends returned; no code reads it. -/
structure State where
  content : Bytes := []
  files : Files := fun _ => none
  frameCount : Nat := 0
  returned : List Frame := []

def start : State := {}

/-- The loop over `image_payloads`, from the `k`th on: the files, `written_paths`, and whether it raised. -/
def writeImages (image : Nat → ImageWrite) (index : Nat) :
    Nat → List Image → Files → List (List Char) → Files × List (List Char) × Bool
  | _, [], files, written => (files, written, false)
  | k, (role, payload) :: rest, files, written =>
    match image k with
    | .written =>
      writeImages image index (k + 1) rest (update files (imagePath role index) (some payload))
        (written ++ [imagePath role index])
    | .raised true => (update files (imagePath role index) (some payload), written, true)
    | .raised false => (files, written, true)

def unlinkAll (unlink : List Char → Bool) (written : List (List Char)) (files : Files) : Files :=
  written.foldl (fun files path => if unlink path then update files path none else files) files

inductive Raised where
  | refused (refusal : Refusal)
  | system

/-- `append`, and what it raises. -/
def State.append (s : State) (request : Request) (outcome : Outcome) : State × Option Raised :=
  match request.check with
  | .error refusal => (s, some (.refused refusal))
  | .ok (sample, images) =>
    let (files, written, raised) := writeImages outcome.image s.frameCount 0 images s.files []
    let undone := unlinkAll outcome.unlink written files
    if raised then ({ s with files := undone }, some .system)
    else match outcome.line with
      | .notOpened => ({ s with files := undone }, some .system)
      | .ended bytes raised =>
        let content := s.content ++ (frameLine s.frameCount sample).take bytes
        if raised then ({ s with content := content, files := undone }, some .system)
        else ({
          content := content
          files := files
          frameCount := s.frameCount + 1
          returned := s.returned ++ [⟨s.frameCount, sample, images⟩] }, none)

/-- `finish` scans the file. -/
def State.finish (s : State) : Except Error (Episode × Nat) :=
  Recorder.finish ⟨{ content := s.content }, s.frameCount⟩

def fine (sample : Sample) (index : Nat) : Outcome := { line := .ended (frameLine index sample).length false }

def step (s : State) (label : Request × Outcome) : Option State := some (s.append label.1 label.2).1

/-! ## What an append promises -/

def Apart (images : List Image) : Prop := ∀ one ∈ images, ∀ two ∈ images, one.1 = two.1 → one.2 = two.2

structure State.Reads (s : State) : Prop where
  loaded : loadFrames s.content = (s.returned.map Frame.text, none)
  finished : ∃ episode, s.finish = .ok (episode, s.returned.length)

inductive Continues : State → Nat → State → Prop where
  | none (s : State) : Continues s 0 s
  | append {s u : State} {n : Nat} {request : Request} {sample : Sample} {images : List Image}
      (checked : request.check = .ok (sample, images)) (apart : Apart images)
      (rest : Continues (s.append request (fine sample s.frameCount)).1 n u) : Continues s (n + 1) u

/-- The committed frames are those whose appends returned, with the images that they were given. -/
structure State.Intact (s : State) : Prop where
  reads : s.Reads
  images : ∀ frame ∈ s.returned, ∀ image ∈ frame.images, s.files (imagePath image.1 frame.index) = some image.2
  indices : s.returned.Pairwise fun one two => one.index ≠ two.index
  paths : s.returned.Pairwise fun one two => ∀ image ∈ one.images, ∀ other ∈ two.images,
    imagePath image.1 one.index ≠ imagePath other.1 two.index
  further : ∀ n u, Continues s n u → u.Reads ∧ u.returned.length = s.returned.length + n

/-- The line is written whole by an append that returns, and not at all by one that raises. -/
def Whole (s : State) (label : Request × Outcome) : Prop :=
  ∀ sample images bytes raised, label.1.check = .ok (sample, images) →
    (∀ k < images.length, label.2.image k = .written) → label.2.line = .ended bytes raised →
    if raised then bytes = 0 else (frameLine s.frameCount sample).length ≤ bytes ∧ Apart images

/-! ## Paths -/

/-- `int(text)`. -/
def value (text : List Char) : Nat := text.foldl (fun n c => 10 * n + (c.toNat - 48)) 0

theorem value_decimal (n : Nat) : value (decimal n) = n := by
  have digit : ∀ d < 10, (Char.ofNat (48 + d)).toNat - 48 = d := by decide
  unfold decimal
  split
  · rename_i zero
    rw [zero]
    rfl
  · have small : ∀ d ∈ Nat.digits 10 n, d < 10 := fun d here => Nat.digits_lt_base (by omega) here
    conv_rhs => rw [← Nat.ofDigits_digits 10 n]
    unfold value
    rw [map_reverse, foldl_reverse]
    generalize Nat.digits 10 n = ds at small
    induction ds with
    | nil => rfl
    | cons d ds ih =>
      rw [map_cons, foldr_cons, ih fun e here => small e (mem_cons_of_mem d here),
        digit d (small d mem_cons_self), Nat.ofDigits_cons]
      exact Nat.add_comm _ _

theorem value_padded (k : Nat) (text : List Char) : value (List.replicate k '0' ++ text) = value text := by
  induction k with
  | zero => rfl
  | succ k ih =>
    rw [replicate_succ, cons_append]
    exact ih

theorem cut_at_slash {text other rest left} (plain : '/' ∉ text) (plainToo : '/' ∉ other)
    (same : text ++ '/' :: rest = other ++ '/' :: left) : text = other ∧ rest = left := by
  induction text generalizing other with
  | nil =>
    cases other with
    | nil => exact ⟨rfl, (List.cons.inj same).2⟩
    | cons => exact absurd ((List.cons.inj same).1 ▸ mem_cons_self) plainToo
  | cons c cs ih =>
    cases other with
    | nil => exact absurd ((List.cons.inj same).1 ▸ mem_cons_self) plain
    | cons =>
      obtain ⟨rfl, tails⟩ := List.cons.inj same
      obtain ⟨rfl, rest⟩ :=
        ih (not_mem_of_not_mem_cons plain) (not_mem_of_not_mem_cons plainToo) tails
      exact ⟨rfl, rest⟩

theorem imagePath_inj {role other : List Char} {index later : Nat} (plain : '/' ∉ role) (plainToo : '/' ∉ other)
    (same : imagePath role index = imagePath other later) : role = other ∧ index = later := by
  unfold imagePath at same
  generalize "images/".toList = folder, ".jpg".toList = suffix at same
  simp only [append_assoc, append_cancel_left_eq, cons_append, nil_append] at same
  obtain ⟨rfl, rest⟩ := cut_at_slash plain plainToo same
  refine ⟨rfl, ?_⟩
  rw [← append_assoc, ← append_assoc, append_cancel_right_eq] at rest
  have numbers := congrArg value rest
  rw [value_padded, value_padded, value_decimal, value_decimal] at numbers
  exact numbers

/-! ## An append -/

section

variable {s t : State} {request : Request} {outcome : Outcome} {sample : Sample} {images : List Image}

theorem safeRole_plain {raw} {role} (safe : safeRole raw = .ok role) : '/' ∉ role := by
  cases raw with
  | none => cases safe
  | some raw =>
    simp only [safeRole] at safe
    split at safe
    · cases safe
    · split at safe
      · cases safe
      · rename_i _ plain
        obtain rfl := Except.ok.inj safe
        exact fun slash => plain (.inr (.inr (.inl slash)))

theorem checkImage_plain {item} {image} (checked : checkImage item = .ok image) : '/' ∉ image.1 := by
  obtain ⟨raw, payload⟩ := item
  simp only [checkImage] at checked
  cases safe : safeRole raw with
  | error =>
    rw [safe] at checked
    cases checked
  | ok =>
    rw [safe] at checked
    cases payload with
    | none => cases checked
    | some payload =>
      cases payload with
      | nil => cases checked
      | cons =>
        obtain rfl := Except.ok.inj checked
        exact safeRole_plain safe

theorem checkImages_plain {items}
    (checked : checkImages items = .ok images) : ∀ image ∈ images, '/' ∉ image.1 := by
  induction items generalizing images with
  | nil =>
    obtain rfl := Except.ok.inj checked
    exact nofun
  | cons item items ih =>
    simp only [checkImages] at checked
    cases first : checkImage item with
    | error =>
      rw [first] at checked
      cases checked
    | ok =>
      cases others : checkImages items with rw [first, others] at checked
      | error => cases checked
      | ok =>
        obtain rfl := Except.ok.inj checked
        exact List.forall_mem_cons.mpr ⟨checkImage_plain first, ih others⟩

theorem check_ok (checked : request.check = .ok (sample, images)) :
    sample.Valid ∧ ∀ image ∈ images, '/' ∉ image.1 := by
  have valid := request.valid
  unfold Request.check at checked
  cases given : request.sample with
  | none =>
    rw [given] at checked
    cases checked
  | some one =>
    rw [given] at checked
    cases others : checkImages request.images with
    | error =>
      rw [others] at checked
      cases checked
    | ok =>
      rw [others] at checked
      obtain ⟨rfl, rfl⟩ := Prod.mk.inj (Except.ok.inj checked)
      exact ⟨valid one given, checkImages_plain others⟩

variable {image : Nat → ImageWrite} {index k : Nat} {files : Files} {written : List (List Char)}

theorem writeImages_other {path} (other : ∀ i ∈ images, imagePath i.1 index ≠ path) :
    (writeImages image index k images files written).1 path = files path := by
  induction images generalizing k files written with
  | nil => rfl
  | cons i rest ih =>
    obtain ⟨role, payload⟩ := i
    obtain ⟨first, others⟩ := List.forall_mem_cons.mp other
    unfold writeImages
    split
    · rw [ih others]
      exact update_of_ne first.symm _ _
    · exact update_of_ne first.symm _ _
    · rfl

theorem writeImages_written : ∀ path ∈ (writeImages image index k images files written).2.1,
      path ∈ written ∨ ∃ i ∈ images, imagePath i.1 index = path := by
  induction images generalizing k files written with
  | nil => exact fun path here => .inl here
  | cons i rest ih =>
    obtain ⟨role, payload⟩ := i
    unfold writeImages
    split
    · intro path here
      rcases ih path here with before | ⟨i, inside, same⟩
      · rcases List.mem_append.mp before with before | this
        · exact .inl before
        · exact .inr ⟨(role, payload), mem_cons_self, (List.mem_singleton.mp this).symm⟩
      · exact .inr ⟨i, mem_cons_of_mem _ inside, same⟩
    · exact fun path here => .inl here
    · exact fun path here => .inl here

theorem writeImages_raised : (writeImages image index k images files written).2.2 = false ↔
    ∀ j < images.length, image (k + j) = .written := by
  induction images generalizing k files written with
  | nil => exact ⟨fun _ j small => absurd small (Nat.not_lt_zero j), fun _ => rfl⟩
  | cons i rest ih =>
    obtain ⟨role, payload⟩ := i
    have shift (j : Nat) : k + (j + 1) = k + 1 + j := by omega
    unfold writeImages
    split
    · rename_i first
      rw [ih]
      constructor
      · intro later j small
        cases j with
        | zero => exact first
        | succ j => exact shift j ▸ later j (Nat.lt_of_succ_lt_succ small)
      · exact fun all j small => shift j ▸ all (j + 1) (Nat.succ_lt_succ small)
    · rename_i first
      exact ⟨nofun, fun all => nomatch first.symm.trans (all 0 (Nat.succ_pos _))⟩
    · rename_i first
      exact ⟨nofun, fun all => nomatch first.symm.trans (all 0 (Nat.succ_pos _))⟩

theorem writeImages_has {i} (all : ∀ j < images.length, image (k + j) = .written)
    (only : ∀ j ∈ images, imagePath j.1 index = imagePath i.1 index → j.2 = i.2)
    (there : files (imagePath i.1 index) = some i.2 ∨ i ∈ images) :
    (writeImages image index k images files written).1 (imagePath i.1 index) = some i.2 := by
  induction images generalizing k files written with
  | nil => exact there.resolve_right not_mem_nil
  | cons j rest ih =>
    obtain ⟨same, only⟩ := List.forall_mem_cons.mp only
    have first := all 0 (Nat.succ_pos _)
    have later : ∀ m < rest.length, image (k + 1 + m) = .written := fun m small => by
      rw [Nat.add_right_comm]
      exact all (m + 1) (Nat.succ_lt_succ small)
    unfold writeImages
    rw [Nat.add_zero] at first
    rw [first]
    refine ih later only ?_
    by_cases path : imagePath j.1 index = imagePath i.1 index
    · rw [path, update_self, same path]
      exact .inl rfl
    · rw [update_of_ne (Ne.symm path)]
      refine there.imp id fun inside => ?_
      rcases List.mem_cons.mp inside with rfl | inside
      · exact absurd rfl path
      · exact inside

theorem unlinkAll_other {unlink} {path} (other : path ∉ written) :
    unlinkAll unlink written files path = files path := by
  induction written generalizing files with
  | nil => rfl
  | cons first rest ih =>
    rw [mem_cons, not_or] at other
    show unlinkAll unlink rest _ path = _
    rw [ih other.2]
    show (if unlink first = true then update files first none else files) path = files path
    split
    · exact update_of_ne other.1 _ _
    · rfl

def Elsewhere (s : State) (images : List Image) (files : Files) : Prop :=
  ∀ path, (∀ i ∈ images, imagePath i.1 s.frameCount ≠ path) → files path = s.files path

theorem append_cases (s : State) (request : Request) (outcome : Outcome) :
    (∃ refusal, request.check = .error refusal ∧ s.append request outcome = (s, some (.refused refusal))) ∨
    ∃ sample images files, request.check = .ok (sample, images) ∧ Elsewhere s images files ∧
      (((¬ ∀ k < images.length, outcome.image k = .written) ∨ outcome.line = .notOpened) ∧
          s.append request outcome = ({ s with files := files }, some .system) ∨
        (∀ k < images.length, outcome.image k = .written) ∧ ∃ bytes,
          (outcome.line = .ended bytes true ∧ s.append request outcome =
            ({ s with content := s.content ++ (frameLine s.frameCount sample).take bytes, files := files }, some .system) ∨
          outcome.line = .ended bytes false ∧
            (Apart images → ∀ i ∈ images, files (imagePath i.1 s.frameCount) = some i.2) ∧
            s.append request outcome = ({
              content := s.content ++ (frameLine s.frameCount sample).take bytes
              files := files
              frameCount := s.frameCount + 1
              returned := s.returned ++ [⟨s.frameCount, sample, images⟩] }, none))) := by
  cases checked : request.check with
  | error refusal =>
    refine .inl ⟨refusal, rfl, ?_⟩
    simp only [State.append, checked]
  | ok both =>
    obtain ⟨sample, images⟩ := both
    right
    obtain ⟨_, plain⟩ := check_ok checked
    have raised_ : (writeImages outcome.image s.frameCount 0 images s.files []).2.2 = false ↔
        ∀ j < images.length, outcome.image (0 + j) = .written := writeImages_raised
    simp only [Nat.zero_add] at raised_
    have has : (∀ j < images.length, outcome.image j = .written) → Apart images → ∀ i ∈ images,
        (writeImages outcome.image s.frameCount 0 images s.files []).1 (imagePath i.1 s.frameCount) = some i.2 := by
      intro all apart i here
      refine writeImages_has (fun j small => ?_) (fun j inside same => ?_) (.inr here)
      · rw [Nat.zero_add]
        exact all j small
      · exact apart j inside i here (imagePath_inj (plain j inside) (plain i here) same).1
    have kept : Elsewhere s images (writeImages outcome.image s.frameCount 0 images s.files []).1 :=
      fun path other => writeImages_other other
    have inside : ∀ path ∈ (writeImages outcome.image s.frameCount 0 images s.files []).2.1,
        path ∈ [] ∨ ∃ i ∈ images, imagePath i.1 s.frameCount = path := writeImages_written
    simp only [State.append, checked]
    generalize writeImages outcome.image s.frameCount 0 images s.files [] = out at raised_ has kept inside ⊢
    obtain ⟨files, written, raised⟩ := out
    have undone : Elsewhere s images (unlinkAll outcome.unlink written files) := by
      intro path other
      refine (unlinkAll_other fun there => ?_).trans (kept path other)
      rcases inside path there with before | ⟨i, here, same⟩
      · exact not_mem_nil before
      · exact other i here same
    cases raised with
    | true =>
      have fails : ¬ ∀ k < images.length, outcome.image k = .written := fun all => nomatch raised_.mpr all
      exact ⟨sample, images, _, rfl, undone, .inl ⟨.inl fails, rfl⟩⟩
    | false =>
      have all := raised_.mp rfl
      cases line : outcome.line with
      | notOpened => exact ⟨sample, images, _, rfl, undone, .inl ⟨.inr rfl, rfl⟩⟩
      | ended bytes raised =>
        cases raised with
        | true => exact ⟨sample, images, _, rfl, undone, .inr ⟨all, bytes, .inl ⟨rfl, rfl⟩⟩⟩
        | false => exact ⟨sample, images, _, rfl, kept, .inr ⟨all, bytes, .inr ⟨rfl, has all, rfl⟩⟩⟩

end

/-! ## Episodes -/

variable {s t : State} {request : Request} {outcome : Outcome} {sample next : Sample} {images : List Image}

def State.samples (s : State) : List Sample := s.returned.map Frame.sample

/-- The file is the lines of the frames whose appends returned, and their images are there. -/
structure Good (s : State) : Prop where
  content : s.content = contents 0 s.samples
  shown : s.returned.map Frame.text = texts 0 s.samples
  count : s.frameCount = s.returned.length
  valid : ∀ frame ∈ s.returned, frame.sample.Valid
  plain : ∀ frame ∈ s.returned, ∀ image ∈ frame.images, '/' ∉ image.1
  below : ∀ frame ∈ s.returned, frame.index < s.frameCount
  images : ∀ frame ∈ s.returned, ∀ image ∈ frame.images, s.files (imagePath image.1 frame.index) = some image.2
  indices : s.returned.Pairwise fun one two => one.index ≠ two.index

theorem good_start : Good start := ⟨rfl, rfl, rfl, nofun, nofun, nofun, nofun, .nil⟩

theorem Good.samples_length (good : Good s) : s.samples.length = s.frameCount := by
  rw [good.count]
  exact length_map _

theorem Good.valid_samples (good : Good s) : ∀ one ∈ s.samples, one.Valid := by
  intro one here
  obtain ⟨frame, inside, rfl⟩ := List.mem_map.mp here
  exact good.valid frame inside

variable {files : Files} {bytes : Nat} {label : Request × Outcome} {text : List Char} {cut : Bytes}

theorem Good.elsewhere (good : Good s) (plain : ∀ image ∈ images, '/' ∉ image.1)
    (elsewhere : Elsewhere s images files) :
    ∀ frame ∈ s.returned, ∀ image ∈ frame.images, files (imagePath image.1 frame.index) = some image.2 := by
  intro frame here image inside
  rw [elsewhere _ fun i new same => ?_]
  · exact good.images frame here image inside
  · have index := (imagePath_inj (plain i new) (good.plain frame here image inside) same).2
    exact absurd (good.below frame here) (by rw [index]; exact Nat.lt_irrefl _)

theorem Good.of_files (good : Good s) (plain : ∀ image ∈ images, '/' ∉ image.1)
    (elsewhere : Elsewhere s images files) : Good { s with files := files } :=
  ⟨good.content, good.shown, good.count, good.valid, good.plain, good.below, good.elsewhere plain elsewhere,
    good.indices⟩

theorem texts_append (index : Nat) (samples others : List Sample) :
    texts index (samples ++ others) = texts index samples ++ texts (index + samples.length) others := by
  induction samples generalizing index with
  | nil => rfl
  | cons sample samples ih =>
    rw [cons_append, texts, texts, ih, cons_append, length_cons, Nat.add_right_comm, Nat.add_assoc]

theorem Good.add (good : Good s) (checked : request.check = .ok (sample, images))
    (elsewhere : Elsewhere s images files)
    (there : ∀ i ∈ images, files (imagePath i.1 s.frameCount) = some i.2) : Good {
      content := s.content ++ frameLine s.frameCount sample
      files := files
      frameCount := s.frameCount + 1
      returned := s.returned ++ [⟨s.frameCount, sample, images⟩] } := by
  obtain ⟨valid, plain⟩ := check_ok checked
  let new : Frame := ⟨s.frameCount, sample, images⟩
  have samples : (s.returned ++ [new]).map Frame.sample = s.samples ++ [sample] := by
    rw [map_append]
    rfl
  have split {p : Frame → Prop} (old : ∀ frame ∈ s.returned, p frame) (this : p new) :
      ∀ frame ∈ s.returned ++ [new], p frame := by
    intro frame here
    rcases List.mem_append.mp here with here | here
    · exact old frame here
    · exact List.mem_singleton.mp here ▸ this
  refine ⟨?_, ?_, ?_, split good.valid valid, split good.plain plain, ?_, ?_, ?_⟩
  · show s.content ++ _ = contents 0 ((s.returned ++ [new]).map Frame.sample)
    rw [samples, contents_append, ← good.content, Nat.zero_add, good.samples_length]
    simp only [contents, append_nil]
  · show (s.returned ++ [new]).map Frame.text = texts 0 ((s.returned ++ [new]).map Frame.sample)
    rw [samples, texts_append, ← good.shown, Nat.zero_add, good.samples_length, map_append]
    rfl
  · rw [length_append, ← good.count]
    rfl
  · exact split (fun frame here => Nat.lt_succ_of_lt (good.below frame here)) (Nat.lt_succ_self _)
  · exact split (good.elsewhere plain elsewhere) there
  · refine List.pairwise_append.mpr ⟨good.indices, pairwise_singleton _ _, fun one here two last => ?_⟩
    rw [List.mem_singleton.mp last]
    exact Nat.ne_of_lt (good.below one here)

theorem load_contents {samples : List Sample} (valid : ∀ one ∈ samples, one.Valid) :
    loadFrames (contents 0 samples) = (texts 0 samples, none) := by
  have scanned := scanFrames_contents valid true
  obtain ⟨frames, corrupt⟩ := scan_agrees (contents 0 samples)
  refine Prod.ext ?_ ?_
  · rw [← frames true _ scanned]
    rfl
  · rw [← corrupt, scanned]
    rfl

theorem Good.reads (good : Good s) : s.Reads := by
  have length : s.samples.length = s.returned.length := length_map _
  constructor
  · rw [good.content, good.shown, load_contents good.valid_samples]
  · refine ⟨{ content := s.content, recording := false }, ?_⟩
    rw [State.finish, Recorder.finish, good.content, scanFrames_contents good.valid_samples true]
    simp only [FrameScan.extend, texts_length, Nat.zero_add, length]

theorem take_line {line : Bytes} (whole : line.length ≤ bytes) : line.take bytes = line :=
  take_of_length_le whole

theorem Good.append_fine (good : Good s) (checked : request.check = .ok (sample, images))
    (apart : Apart images) :
    Good (s.append request (fine sample s.frameCount)).1 ∧
      (s.append request (fine sample s.frameCount)).1.returned.length = s.returned.length + 1 := by
  rcases append_cases s request (fine sample s.frameCount) with ⟨_, refused, _⟩ | ⟨one, others, files, same, elsewhere, rest⟩
  · cases checked.symm.trans refused
  · obtain ⟨rfl, rfl⟩ := Prod.mk.inj (Except.ok.inj (checked.symm.trans same))
    rcases rest with ⟨fails, _⟩ | ⟨_, bytes, ⟨raised, _⟩ | ⟨ended, there, appended⟩⟩
    · rcases fails with fails | notOpened
      · exact absurd (fun _ _ => rfl) fails
      · cases notOpened
    · cases raised
    · rw [appended]
      injection ended with count _
      rw [take_line (Nat.le_of_eq count)]
      exact ⟨good.add checked elsewhere (there apart), length_append⟩

theorem Good.continues {n : Nat} {u : State} (good : Good s) (continues : Continues s n u) :
    u.Reads ∧ u.returned.length = s.returned.length + n := by
  induction continues with
  | none => exact ⟨good.reads, rfl⟩
  | append checked apart rest ih =>
    obtain ⟨kept, length⟩ := good.append_fine checked apart
    obtain ⟨reads, more⟩ := ih kept
    exact ⟨reads, by omega⟩

theorem Good.intact (good : Good s) : s.Intact where
  reads := good.reads
  images := good.images
  indices := good.indices
  paths := by
    refine good.indices.imp_of_mem fun {one two} first second other image here later there same => other ?_
    exact (imagePath_inj (good.plain one first image here) (good.plain two second later there) same).2
  further n u continues := good.continues continues

theorem Good.step (good : Good s) (whole : Whole s label) (stepped : step s label = some t) : Good t := by
  obtain ⟨request, outcome⟩ := label
  obtain rfl := Option.some.inj stepped
  rcases append_cases s request outcome with ⟨_, _, refused⟩ | ⟨sample, images, files, checked, elsewhere, rest⟩
  · rw [refused]
    exact good
  · obtain ⟨_, plain⟩ := check_ok checked
    rcases rest with ⟨_, raised⟩ | ⟨all, bytes, ⟨ended, raised⟩ | ⟨ended, there, appended⟩⟩
    · rw [raised]
      exact good.of_files plain elsewhere
    · have none_ : bytes = 0 := whole sample images bytes true checked all ended
      rw [raised, none_, take_zero, append_nil]
      exact good.of_files plain elsewhere
    · obtain ⟨long, apart⟩ := whole sample images bytes false checked all ended
      rw [appended, take_line long]
      exact good.add checked elsewhere (there apart)

theorem encode_of_decode {raw : Bytes} (decoded : decode raw = some text) : encode text = raw := by
  obtain ⟨array, some_, rfl⟩ := Option.map_eq_some_iff.mp decoded
  have back := ByteArray.utf8Encode_get_utf8Decode? (h := Option.isSome_of_eq_some some_)
  simp only [some_, Option.get_some, utf8Encode] at back
  have same := congrArg (fun bytes : ByteArray => bytes.data.toList) back
  simp only [toList_data_toByteArray] at same
  exact same

theorem read_joined {object : Bool} (some_ : cut ≠ []) :
    Recording.read (cut ++ encode text) ≠ .ok (text, object) := by
  intro joined
  unfold Recording.read at joined
  split at joined
  · cases joined
  · rename_i one decoded
    split at joined
    · cases joined
    · obtain ⟨rfl, _⟩ := Prod.mk.inj (Except.ok.inj joined)
      have bytes := encode_of_decode decoded
      exact some_ (List.self_eq_append_left.mp bytes)

theorem load_joined (valid : ∀ one ∈ s.samples, one.Valid) (validNext : next.Valid) (index : Nat)
    (none_ : newline ∉ cut) (some_ : cut ≠ []) {more : List (List Char)} :
    loadFrames (contents 0 s.samples ++ (cut ++ frameLine index next)) ≠
      (texts 0 s.samples ++ more ++ [frameText index next], none) := by
  intro loaded
  have line : lines (cut ++ frameLine index next) = [⟨cut ++ encode (frameText index next), true⟩] := by
    rw [frameLine, ← append_assoc]
    refine (lines_line fun here => ?_)
    rcases List.mem_append.mp here with here | here
    · exact none_ here
    · exact newline_not_mem_frame validNext index here
  have scanned := scan_contents true 0 0 0 (cut ++ frameLine index next) {} valid rfl
  obtain ⟨frames, corrupt⟩ := scan_agrees (contents 0 s.samples ++ (cut ++ frameLine index next))
  rw [loaded] at frames corrupt
  rw [line, scanLines] at scanned
  cases joined : Recording.read (cut ++ encode (frameText index next)) with
  | error =>
    simp only [joined, Bool.not_true, Bool.false_and, Bool.false_eq_true, if_false, if_true] at scanned
    rw [scanFrames, scanned] at corrupt
    cases corrupt
  | ok both =>
    obtain ⟨text, object⟩ := both
    cases object with
    | false =>
      simp only [joined, if_true] at scanned
      rw [scanFrames, scanned] at corrupt
      cases corrupt
    | true =>
      simp only [joined, scanLines] at scanned
      have same : texts 0 s.samples ++ [text] = texts 0 s.samples ++ more ++ [frameText index next] :=
        frames true _ scanned
      have last := congrArg getLast? same
      rw [getLast?_concat, getLast?_concat] at last
      rw [Option.some.inj last] at joined
      exact read_joined some_ joined

def blank : Request := { sample := some Recording.sample, valid := fun _ here => Option.mem_some.mp here ▸ sample_valid }

theorem blank_check : blank.check = .ok (Recording.sample, []) := by
  have roles : rolesOf [] = [] := by rw [rolesOf, map_nil, dedup_nil, mergeSort_nil]
  show Except.ok ({ Recording.sample with roles := rolesOf [] }, []) = _
  rw [roles]
  rfl

theorem State.Intact.loaded_next (intact : t.Intact) :
    loadFrames (t.content ++ frameLine t.frameCount Recording.sample) =
      (t.returned.map Frame.text ++ [frameText t.frameCount Recording.sample], none) := by
  have apart : Apart [] := nofun
  have loaded := (intact.further 1 _ (.append blank_check apart (.none _))).1.loaded
  simp only [State.append, blank_check, writeImages, fine, take_length, map_append, Bool.false_eq_true,
    if_false] at loaded
  exact loaded

theorem newline_not_mem_part (valid : sample.Valid) (index : Nat)
    (part : bytes < (frameLine index sample).length) :
    newline ∉ (frameLine index sample).take bytes := by
  have short : bytes ≤ (encode (frameText index sample)).length := by
    simp only [frameLine, length_append, length_singleton] at part
    omega
  rw [frameLine, take_append_of_le_length short]
  exact fun here => newline_not_mem_frame valid index (mem_of_mem_take here)

theorem Good.not_intact (more : List (List Char)) (good : Good s) (valid : sample.Valid)
    (part : bytes < (frameLine s.frameCount sample).length) (some_ : bytes ≠ 0)
    (content : t.content = s.content ++ (frameLine s.frameCount sample).take bytes)
    (returned : t.returned.map Frame.text = texts 0 s.samples ++ more) : ¬ t.Intact := by
  intro intact
  have loaded := intact.loaded_next
  rw [content, returned, good.content, append_assoc] at loaded
  refine load_joined good.valid_samples sample_valid t.frameCount (newline_not_mem_part valid _ part) ?_ loaded
  intro none_
  have length := congrArg List.length none_
  rw [length_take, length_nil] at length
  omega

theorem Good.not_whole (good : Good s) (valid : sample.Valid) :
    loadFrames (s.content ++ frameLine s.frameCount sample) ≠ (s.returned.map Frame.text, none) := by
  intro loaded
  have more : contents 0 (s.samples ++ [sample]) = s.content ++ frameLine s.frameCount sample := by
    rw [contents_append, good.content, Nat.zero_add, good.samples_length]
    simp only [contents, append_nil]
  have validAll : ∀ one ∈ s.samples ++ [sample], one.Valid := by
    intro one here
    rcases List.mem_append.mp here with here | here
    · exact good.valid_samples one here
    · rw [List.mem_singleton.mp here]
      exact valid
  rw [← more, load_contents validAll, good.shown] at loaded
  have length := congrArg List.length (Prod.mk.inj loaded).1
  rw [texts_length, texts_length, length_append, length_singleton] at length
  omega

theorem Good.whole (good : Good s) (stepped : Appending.step s label = some t) (intact : t.Intact) :
    Whole s label := by
  obtain ⟨request, outcome⟩ := label
  obtain rfl := Option.some.inj stepped
  intro sample images bytes raised checked all ended
  obtain ⟨valid, plain⟩ := check_ok checked
  rcases append_cases s request outcome with ⟨_, refused, _⟩ | ⟨one, two, files, same, elsewhere, rest⟩
  · cases checked.symm.trans refused
  obtain ⟨rfl, rfl⟩ := Prod.mk.inj (Except.ok.inj (checked.symm.trans same))
  rcases rest with ⟨fails, _⟩ | ⟨_, count, ⟨line, appended⟩ | ⟨line, _, appended⟩⟩
  · rcases fails with fails | notOpened
    · exact absurd all fails
    · cases ended.symm.trans notOpened
  · obtain ⟨rfl, rfl⟩ := LineWrite.ended.inj (ended.symm.trans line)
    rw [appended] at intact
    show bytes = 0
    by_contra some_
    rcases Nat.lt_or_ge bytes (frameLine s.frameCount sample).length with part | long
    · refine good.not_intact [] valid part some_ ?_ ?_ intact
      · rfl
      · exact good.shown.trans (append_nil _).symm
    · have loaded := intact.reads.loaded
      rw [take_line long] at loaded
      exact good.not_whole valid loaded
  · obtain ⟨rfl, rfl⟩ := LineWrite.ended.inj (ended.symm.trans line)
    rw [appended] at intact
    have shown : List.map Frame.text (s.returned ++ [⟨s.frameCount, sample, images⟩]) =
        texts 0 s.samples ++ [frameText s.frameCount sample] := by
      rw [map_append, good.shown]
      rfl
    refine ⟨?_, ?_⟩
    · by_contra part
      by_cases none_ : bytes = 0
      · have loaded := intact.reads.loaded
        rw [shown, none_, take_zero, append_nil, good.content, load_contents good.valid_samples] at loaded
        have length := congrArg List.length (Prod.mk.inj loaded).1
        rw [length_append, length_singleton] at length
        omega
      · refine good.not_intact [_] valid (Nat.lt_of_not_le part) none_ ?_ shown intact
        rfl
    · intro image here other inside role
      have last : (⟨s.frameCount, sample, images⟩ : Frame) ∈ s.returned ++ [⟨s.frameCount, sample, images⟩] :=
        mem_append_right _ mem_cons_self
      have first := intact.images _ last image here
      have second := intact.images _ last other inside
      rw [role, second] at first
      exact (Option.some.inj first).symm

/-- A run of appends leaves the episode intact exactly if each writes its line whole, or not at all if it
raises, with one image for a role. -/
theorem append_intact_iff {labels : List (Request × Outcome)} (good : Good s)
    (ran : run Appending.step s labels = some t) :
    (∀ before after u, labels = before ++ after → run Appending.step s before = some u → u.Intact) ↔
      Along Appending.step Whole s labels :=
  along_iff_prefixes_of (fun _ good => good.intact) (fun _ _ _ whole good stepped => good.step whole stepped)
    (fun _ _ _ good stepped intact => good.whole stepped intact) good ran

/-- A frame is appended, and nothing fails. -/
theorem append_intact_blank : (start.append blank (fine Recording.sample 0)).1.Intact := by
  have whole : Along Appending.step Whole start [(blank, fine Recording.sample 0)] := by
    refine ⟨fun sample images bytes raised checked _ ended => ?_, fun _ _ => trivial⟩
    obtain ⟨rfl, rfl⟩ := Prod.mk.inj (Except.ok.inj (blank_check.symm.trans checked))
    obtain ⟨rfl, rfl⟩ := LineWrite.ended.inj ended
    exact ⟨Nat.le_refl _, nofun⟩
  exact (append_intact_iff good_start rfl).mpr whole [_] [] _ rfl rfl

def seen : Request where
  sample := some Recording.sample
  images := [(some "cam".toList, some [255])]
  valid := fun _ here => Option.mem_some.mp here ▸ sample_valid

def seenSample : Sample := { Recording.sample with roles := ["cam".toList] }

theorem seen_check : seen.check = .ok (seenSample, [("cam".toList, [255])]) := by
  have roles : rolesOf [("cam".toList, [255])] = ["cam".toList] := by
    rw [rolesOf, map_singleton, dedup_cons_of_notMem not_mem_nil, dedup_nil, mergeSort_singleton]
  have checked : checkImages seen.images = .ok [("cam".toList, [255])] := by decide
  show (do
    let images ← checkImages seen.images
    Except.ok ({ Recording.sample with roles := rolesOf images }, images)) = _
  rw [checked]
  show Except.ok ({ Recording.sample with roles := rolesOf [("cam".toList, [255])] }, _) = _
  rw [roles]
  rfl

/-- The line is written, `fsync` fails, and the frame is in the file without its image. -/
theorem synced_late : let after := start.append seen { line := .ended (frameLine 0 seenSample).length true }
    after.2 = some .system ∧ loadFrames start.content = ([], none) ∧
      loadFrames after.1.content = ([frameText 0 seenSample], none) ∧
      after.1.files (imagePath "cam".toList 0) = none ∧ ¬ after.1.Intact := by
  intro after
  have appended : after = ({
      content := frameLine 0 seenSample
      files := update (update (fun _ => none) (imagePath "cam".toList 0) (some [255]))
        (imagePath "cam".toList 0) none }, some .system) := by
    simp only [after, State.append, seen_check, writeImages, start, take_length, nil_append, unlinkAll,
      foldl_cons, foldl_nil, if_true, Bool.false_eq_true, if_false]
  have valid : ∀ one ∈ [seenSample], one.Valid := fun one here => List.mem_singleton.mp here ▸ sample_valid
  have loaded := load_contents valid
  simp only [contents, append_nil, texts] at loaded
  rw [appended]
  refine ⟨rfl, rfl, loaded, ?_, fun intact => ?_⟩
  · simp only [update_self]
  · have none_ := intact.reads.loaded
    rw [loaded] at none_
    cases none_

end EmbodiRun.Xlerobot.Appending
