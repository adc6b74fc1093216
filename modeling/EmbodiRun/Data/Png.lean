/-
# Data.Png -- the chunks of a PNG file, and its rows of 16-bit samples

A file is a signature and chunks; a chunk has its size in front, and a checksum of its kind and its
data behind it.  How the checksum is computed is a parameter.
-/
import EmbodiRun.Data.Words

namespace EmbodiRun.Data.Png

open List

/-! ## Chunks -/

/-- `\x89PNG\r\n\x1a\n`. -/
def signature : Bytes := [0x89, 0x50, 0x4E, 0x47, 0x0D, 0x0A, 0x1A, 0x0A]

structure Chunk where
  kind : Bytes
  data : Bytes

variable (checksum : Bytes → Bytes → Nat)

def layout (chunk : Chunk) : Bytes :=
  wordBytes 4 chunk.data.length ++ (chunk.kind ++ (chunk.data ++ wordBytes 4 (checksum chunk.kind chunk.data)))

def readChunk (bytes : Bytes) : Option (Chunk × Bytes) :=
  let size := wordOf (bytes.take 4)
  let chunk : Chunk := ⟨(bytes.drop 4).take 4, ((bytes.drop 4).drop 4).take size⟩
  let behind := ((bytes.drop 4).drop 4).drop size
  if 8 + size + 4 ≤ bytes.length ∧ wordOf (behind.take 4) = checksum chunk.kind chunk.data then
    some (chunk, behind.drop 4)
  else none

variable {checksum}
variable {chunk : Chunk} {chunks : List Chunk}

theorem readChunk_shorter {bytes rest} (read : readChunk checksum bytes = some (chunk, rest)) :
    rest.length < bytes.length := by
  simp only [readChunk] at read
  split at read
  · rename_i whole
    obtain ⟨_, rfl⟩ := Prod.mk.inj (Option.some.inj read)
    simp only [length_drop]
    omega
  · cases read

variable (checksum)

def readChunks (bytes : Bytes) : Option (List Chunk) :=
  if bytes = [] then some []
  else match _read : readChunk checksum bytes with
    | some (chunk, rest) => (readChunks rest).map (chunk :: ·)
    | none => none
termination_by bytes.length
decreasing_by exact readChunk_shorter _read

def readFile (file : Bytes) : Option (List Chunk) :=
  if signature.isPrefixOf file then readChunks checksum (file.drop signature.length) else none

structure Fits (chunk : Chunk) : Prop where
  kind : chunk.kind.length = 4
  data : chunk.data.length < 256 ^ 4
  checksum : checksum chunk.kind chunk.data < 256 ^ 4

variable {checksum}

theorem readChunk_layout (fits : Fits checksum chunk) (rest : Bytes) :
    readChunk checksum (layout checksum chunk ++ rest) = some (chunk, rest) := by
  have size : (layout checksum chunk ++ rest).take 4 = wordBytes 4 chunk.data.length := by
    rw [layout, append_assoc, take_left' (length_wordBytes ..)]
  have after : (layout checksum chunk ++ rest).drop 4 = chunk.kind ++
      (chunk.data ++ (wordBytes 4 (checksum chunk.kind chunk.data) ++ rest)) := by
    simp only [layout, append_assoc]
    exact drop_left' (length_wordBytes ..)
  have length : (layout checksum chunk ++ rest).length = 8 + chunk.data.length + 4 + rest.length := by
    simp only [layout, length_append, length_wordBytes, fits.kind]
    omega
  unfold readChunk
  simp only [size, after, wordOf_wordBytes fits.data, take_left' fits.kind,
    drop_left' fits.kind, take_left, drop_left]
  rw [take_left' (length_wordBytes ..), drop_left' (length_wordBytes ..),
    wordOf_wordBytes fits.checksum, length]
  exact if_pos ⟨by omega, rfl⟩

theorem layout_ne_nil (chunk : Chunk) (rest : Bytes) : layout checksum chunk ++ rest ≠ [] := by
  intro empty
  have length := congrArg List.length empty
  simp only [layout, length_append, length_wordBytes, length_nil] at length
  omega

theorem readChunks_layout (fit : ∀ chunk ∈ chunks, Fits checksum chunk) :
    readChunks checksum (chunks.flatMap (layout checksum)) = some chunks := by
  induction chunks with
  | nil =>
    rw [flatMap_nil, readChunks, if_pos rfl]
  | cons chunk chunks ih =>
    have first := readChunk_layout (fit chunk mem_cons_self) (chunks.flatMap (layout checksum))
    have others := ih fun other member => fit other (mem_cons_of_mem _ member)
    rw [flatMap_cons, readChunks, if_neg (layout_ne_nil chunk _)]
    split
    · rename_i read
      obtain ⟨rfl, rfl⟩ := Prod.mk.inj (Option.some.inj (first.symm.trans read))
      rw [others]
      rfl
    · rename_i read
      cases first.symm.trans read

theorem readFile_layout (fit : ∀ chunk ∈ chunks, Fits checksum chunk) :
    readFile checksum (signature ++ chunks.flatMap (layout checksum)) = some chunks := by
  have here : signature.isPrefixOf (signature ++ chunks.flatMap (layout checksum)) = true :=
    List.isPrefixOf_iff_prefix.mpr (prefix_append ..)
  rw [readFile, if_pos here, drop_left]
  exact readChunks_layout fit

/-! ## Rows -/

def readRow (width : Nat) : Bytes → Option (List Nat)
  | 0 :: row => if row.length = 2 * width then some (wordsOf 2 width row) else none
  | _ => none

/-- `height` rows, and nothing else. -/
def readRows (width : Nat) : Nat → Bytes → Option (List (List Nat))
  | 0, bytes => if bytes = [] then some [] else none
  | height + 1, bytes =>
    (readRow width (bytes.take (2 * width + 1))).bind fun row =>
      (readRows width height (bytes.drop (2 * width + 1))).map (row :: ·)

theorem readRows_scanlines {width : Nat} {rows : List Bytes} (sized : ∀ row ∈ rows, row.length = 2 * width) :
    readRows width rows.length (rows.flatMap (0 :: ·)) = some (rows.map (wordsOf 2 width)) := by
  induction rows with
  | nil => rfl
  | cons row rows ih =>
    have size := sized row mem_cons_self
    have others := ih fun other member => sized other (mem_cons_of_mem _ member)
    have line : (0 :: row : Bytes).length = 2 * width + 1 := congrArg (· + 1) size
    rw [flatMap_cons, length_cons, readRows, take_left' line, drop_left' line, others, readRow, if_pos size]
    rfl

theorem getElem?_wordsOf {width count place} (inside : place < count) (bytes : Bytes) :
    (wordsOf width count bytes)[place]? = some (wordOf ((bytes.drop (place * width)).take width)) := by
  induction count generalizing place bytes with
  | zero => cases inside
  | succ count ih =>
    cases place with
    | zero => simp [wordsOf]
    | succ =>
      rw [wordsOf, getElem?_cons_succ, ih (by omega), drop_drop, Nat.succ_mul, Nat.add_comm]

end EmbodiRun.Data.Png
