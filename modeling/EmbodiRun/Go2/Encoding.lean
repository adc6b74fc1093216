/-
# Go2.Encoding -- the PNG of a depth frame

A Z16 frame is tightly packed and little-endian, and a PNG has its 16-bit samples in network byte
order.  `encode_z16_as_png` swaps each row through strided slices, and writes it behind its filter
byte.  What `zlib` computes is a parameter.

* `depth_png_lossless`: **a PNG that was written reads as the samples of its frame**.
-/
import EmbodiRun.Data.Except
import EmbodiRun.Data.Png

namespace EmbodiRun.Go2.Encoding

open Data List

/-! ## Slices -/

/-- `data[start:stop]`. -/
def slice (data : Bytes) (start stop : Nat) : Bytes := (data.take stop).drop start

/-- `data[0::2]`. -/
def everySecond : Bytes → Bytes
  | [] => []
  | [byte] => [byte]
  | byte :: _ :: rest => byte :: everySecond rest

/-- `data[start::2]`. -/
def strided (data : Bytes) (start : Nat) : Bytes := everySecond (data.drop start)

inductive Fault where
  | valueError (text : String)
  | cameraStreamError (text : String)
  | indexError
  /-- `struct.error`: a number that does not fit its field. -/
  | structError

/-- `buffer[0::2] = data`, where the sizes agree. -/
def setEverySecond : Bytes → Bytes → Bytes
  | [_], new :: _ => [new]
  | _ :: kept :: rest, new :: data => new :: kept :: setEverySecond rest data
  | buffer, _ => buffer

/-- `buffer[start::2] = data`. -/
def setStrided (buffer : Bytes) (start : Nat) (data : Bytes) : Except Fault Bytes := do
  let size := (buffer.length - start + 1) / 2
  ensure (data.length = size) (Fault.valueError
    s!"attempt to assign bytes of size {data.length} to extended slice of size {size}")
  return buffer.take start ++ setEverySecond (buffer.drop start) data

/-- `buffer[start:stop] = data`. -/
def setSlice (buffer : Bytes) (start stop : Nat) (data : Bytes) : Bytes :=
  buffer.take start ++ (data ++ buffer.drop stop)

/-- `buffer[place] = byte`. -/
def setItem (buffer : Bytes) (place : Nat) (byte : UInt8) : Except Fault Bytes := do
  ensure (place < buffer.length) Fault.indexError
  return buffer.set place byte

/-! ## The source -/

/-- What is called of `zlib`. -/
structure Zlib where
  /-- `zlib.crc32(data, value)`. -/
  crc32 : Bytes → Nat → Nat
  compress : Bytes → Nat → Bytes

def swapRow (rowBytes : Nat) (sourceRow : Bytes) : Except Fault Bytes := do
  let swapped := List.replicate rowBytes 0
  let swapped ← setStrided swapped 0 (strided sourceRow 1)
  setStrided swapped 1 (strided sourceRow 0)

def scanline (raw : Bytes) (rowBytes scanlineBytes : Nat) (scanlines : Bytes) (rowIndex : Nat) :
    Except Fault Bytes := do
  let sourceStart := rowIndex * rowBytes
  let sourceRow := slice raw sourceStart (sourceStart + rowBytes)
  let swapped ← swapRow rowBytes sourceRow
  let destinationStart := rowIndex * scanlineBytes
  let scanlines ← setItem scanlines destinationStart 0
  return setSlice scanlines (destinationStart + 1) (destinationStart + 1 + rowBytes) swapped

def scanlinesOf (raw : Bytes) (width height : Nat) : Except Fault Bytes :=
  let rowBytes := width * 2
  let scanlineBytes := rowBytes + 1
  (List.range height).foldlM (scanline raw rowBytes scanlineBytes) (List.replicate (scanlineBytes * height) 0)

variable (zlib : Zlib)

def checksum (kind data : Bytes) : Nat := zlib.crc32 data (zlib.crc32 kind 0) % 2 ^ 32

/-- `struct.pack(">I", n)`. -/
def packWord (n : Nat) : Except Fault Bytes := do
  ensure (n < 256 ^ 4) Fault.structError
  return wordBytes 4 n

def chunk (kind data : Bytes) : Except Fault Bytes := do
  let size ← packWord data.length
  let sum ← packWord (checksum zlib kind data)
  return size ++ (kind ++ (data ++ sum))

/-- `struct.pack(">IIBBBBB", width, height, 16, 0, 0, 0, 0)`. -/
def packHeader (width height : Nat) : Except Fault Bytes := do
  let width ← packWord width
  let height ← packWord height
  return width ++ (height ++ [16, 0, 0, 0, 0])

/-- `b"IHDR"`, `b"IDAT"` and `b"IEND"`. -/
def ihdr : Bytes := [0x49, 0x48, 0x44, 0x52]

def idat : Bytes := [0x49, 0x44, 0x41, 0x54]

def iend : Bytes := [0x49, 0x45, 0x4E, 0x44]

def encodeZ16AsPng (raw : Bytes) (width height : ℤ) : Except Fault Bytes := do
  ensure (¬(width ≤ 0 ∨ height ≤ 0)) (Fault.valueError "depth PNG dimensions must be positive integers")
  let expected := width * height * 2
  ensure ((raw.length : ℤ) = expected)
    (Fault.cameraStreamError s!"unexpected Z16 frame size: got {raw.length}, expected {expected}")
  let scanlines ← scanlinesOf raw width.toNat height.toNat
  let header ← packHeader width.toNat height.toNat
  let first ← chunk zlib ihdr header
  let second ← chunk zlib idat (zlib.compress scanlines 3)
  let third ← chunk zlib iend []
  return Png.signature ++ (first ++ (second ++ third))

/-! ## The rows -/

def swapPairs : Bytes → Bytes
  | low :: high :: rest => high :: low :: swapPairs rest
  | rest => rest

theorem everySecond_cons (byte : UInt8) (rest : Bytes) :
    everySecond (byte :: rest) = byte :: everySecond (rest.drop 1) := by
  cases rest with
  | nil => rfl
  | cons => rfl

@[simp] theorem length_everySecond (data : Bytes) : (everySecond data).length = (data.length + 1) / 2 := by
  induction data using everySecond.induct with
  | case1 => rfl
  | case2 => simp [everySecond]
  | case3 byte other rest ih =>
    simp only [everySecond, length_cons, ih]
    omega

@[simp] theorem length_setEverySecond (buffer data : Bytes) :
    (setEverySecond buffer data).length = buffer.length := by
  induction buffer, data using setEverySecond.induct with
  | case1 => rfl
  | case2 _ kept rest new data ih => simp [setEverySecond, ih]
  | case3 buffer data one two => rw [setEverySecond.eq_3 _ _ one two]

theorem setStrided_ok {buffer data} {start} (size : data.length = (buffer.length - start + 1) / 2) :
    setStrided buffer start data = .ok (buffer.take start ++ setEverySecond (buffer.drop start) data) :=
  ensure_bind_ok.mpr ⟨size, rfl⟩

theorem setEverySecond_cons (byte new : UInt8) (buffer data : Bytes) : setEverySecond (byte :: buffer) (new :: data) =
      new :: (buffer.take 1 ++ setEverySecond (buffer.drop 1) data) := by
  cases buffer with
  | nil => cases data <;> rfl
  | cons => rfl

variable {samples : Nat} {width height row : Nat} {n : Nat} {kind data : Bytes}

theorem swaps {row} (size : row.length = samples * 2) :
    let swapped := setEverySecond (List.replicate (samples * 2) 0) (everySecond (row.drop 1))
    swapped.take 1 ++ setEverySecond (swapped.drop 1) (everySecond row) = swapPairs row := by
  induction samples generalizing row with
  | zero =>
    obtain rfl := eq_nil_of_length_eq_zero (by simpa using size)
    rfl
  | succ samples ih =>
    match row, size with
    | low :: high :: rest, size =>
      have shorter : rest.length = samples * 2 := by
        simp only [length_cons] at size
        omega
      have zeros : List.replicate ((samples + 1) * 2) (0 : UInt8) = 0 :: 0 :: List.replicate (samples * 2) 0 := by
        rw [Nat.succ_mul, Nat.add_comm, replicate_add]
        rfl
      have others := ih shorter
      dsimp only at others ⊢
      rw [zeros, drop_succ_cons, drop_zero, everySecond_cons, setEverySecond,
        take_succ_cons, take_zero, drop_succ_cons, drop_zero, everySecond,
        setEverySecond_cons, others]
      rfl
    | [], size | [_], size =>
      simp only [length_cons, length_nil] at size
      omega

theorem swapRow_eq {row} (size : row.length = samples * 2) : swapRow (samples * 2) row = .ok (swapPairs row) := by
  have odd : (strided row 1).length = (List.replicate (samples * 2) (0 : UInt8)).length / 2 := by
    rw [strided, length_everySecond, length_drop, length_replicate, size]
    omega
  have even : (strided row 0).length = samples := by
    rw [strided, length_everySecond, drop_zero, size]
    omega
  rw [swapRow, setStrided_ok (by rw [odd, length_replicate]; omega)]
  refine (setStrided_ok ?_).trans (congrArg Except.ok (swaps size))
  rw [even]
  simp only [take_zero, drop_zero, nil_append, length_setEverySecond, length_replicate]
  omega

@[simp] theorem length_swapPairs (row : Bytes) : (swapPairs row).length = row.length := by
  induction row using swapPairs.induct with
  | case1 low high rest ih => simp [swapPairs, ih]
  | case2 rest short => rw [swapPairs.eq_2 rest short]

theorem drop_swapPairs {row} {place} (inside : place * 2 + 1 < row.length) :
    ((swapPairs row).drop (place * 2)).take 2 = [row[place * 2 + 1], row[place * 2]] := by
  induction place generalizing row with
  | zero =>
    match row, inside with
    | low :: high :: rest, _ => rfl
  | succ place ih =>
    match row, inside with
    | low :: high :: rest, inside =>
      have shorter : place * 2 + 1 < rest.length := by
        simp only [length_cons] at inside
        omega
      have two : (place + 1) * 2 = place * 2 + 2 := by omega
      simp only [two, swapPairs, drop_succ_cons, getElem_cons_succ]
      exact ih shorter

def rowsOf (raw : Bytes) (width height : Nat) : List Bytes :=
  (List.range height).map fun row => slice raw (row * (width * 2)) (row * (width * 2) + width * 2)
variable {raw : Bytes} {width height : Nat}

theorem length_slice {start size} (inside : start + size ≤ raw.length) :
    (slice raw start (start + size)).length = size := by
  rw [slice, length_drop, length_take]
  omega

theorem row_inside (size : raw.length = width * height * 2) (inside : row < height) :
    row * (width * 2) + width * 2 ≤ raw.length := by
  have rows : (row + 1) * (width * 2) ≤ height * (width * 2) := Nat.mul_le_mul_right _ inside
  have whole : height * (width * 2) = raw.length := by
    rw [size]
    ring
  rwa [whole, Nat.succ_mul] at rows

theorem scanline_eq {raw done} (size : raw.length = width * height * 2)
    (inside : row < height) (placed : done.length = row * (width * 2 + 1)) :
    scanline raw (width * 2) (width * 2 + 1) (done ++ List.replicate ((width * 2 + 1) * (height - row)) 0) row =
      .ok (done ++ (0 :: swapPairs (slice raw (row * (width * 2)) (row * (width * 2) + width * 2)) ++
        List.replicate ((width * 2 + 1) * (height - (row + 1))) 0)) := by
  have sliced := length_slice (row_inside size inside)
  have room : (width * 2 + 1) * (height - row) = (width * 2 + 1) * (height - (row + 1)) + (width * 2 + 1) := by
    rw [← Nat.mul_succ]
    congr 1
    omega
  have zeros : List.replicate ((width * 2 + 1) * (height - row)) (0 : UInt8) =
      0 :: (List.replicate (width * 2) 0 ++ List.replicate ((width * 2 + 1) * (height - (row + 1))) 0) := by
    rw [room, Nat.add_comm, replicate_add, replicate_succ, cons_append]
  have item : setItem (done ++ List.replicate ((width * 2 + 1) * (height - row)) 0) (row * (width * 2 + 1)) 0 =
      .ok (done ++ List.replicate ((width * 2 + 1) * (height - row)) 0) := by
    refine ensure_bind_ok.mpr ⟨?_, congrArg Except.ok ?_⟩
    · rw [length_append, length_replicate, placed, room]
      omega
    · rw [zeros, ← placed, set_append_right _ _ (Nat.le_refl _), Nat.sub_self, set_cons_zero]
  rw [scanline]
  dsimp only
  rw [swapRow_eq sliced]
  show (setItem _ _ _ >>= _) = _
  rw [item]
  refine congrArg Except.ok ?_
  have front : (done ++ List.replicate ((width * 2 + 1) * (height - row)) 0).take
      (row * (width * 2 + 1) + 1) = done ++ [0] := by
    rw [zeros, ← placed, take_length_add_append]
    rfl
  have back : (done ++ List.replicate ((width * 2 + 1) * (height - row)) 0).drop
      (row * (width * 2 + 1) + 1 + width * 2) =
      List.replicate ((width * 2 + 1) * (height - (row + 1))) 0 := by
    rw [zeros, ← placed, Nat.add_assoc, drop_length_add_append, Nat.add_comm 1,
      drop_succ_cons, drop_left' (length_replicate ..)]
  rw [setSlice, front, back]
  simp

theorem scanlines_eq (size : raw.length = width * height * 2) : scanlinesOf raw width height =
      .ok ((rowsOf raw width height).flatMap fun row => 0 :: swapPairs row) := by
  have upTo (rows : Nat) (inside : rows ≤ height) :
      (List.range rows).foldlM (scanline raw (width * 2) (width * 2 + 1))
          (List.replicate ((width * 2 + 1) * height) 0) =
        .ok ((rowsOf raw width rows).flatMap (fun row => 0 :: swapPairs row) ++
          List.replicate ((width * 2 + 1) * (height - rows)) 0) := by
    induction rows with
    | zero => rfl
    | succ rows ih =>
      have placed : ((rowsOf raw width rows).flatMap fun row => 0 :: swapPairs row).length =
          rows * (width * 2 + 1) := by
        rw [length_flatMap, rowsOf, map_map]
        have each : (List.range rows).map ((fun row => (0 :: swapPairs row).length) ∘
            fun row => slice raw (row * (width * 2)) (row * (width * 2) + width * 2)) =
            (List.range rows).map fun _ => width * 2 + 1 := by
          refine map_congr_left fun row member => ?_
          have before := List.mem_range.mp member
          have sliced := length_slice (row_inside size (show row < height by omega))
          simp [sliced]
        rw [each]
        simp
      have next := scanline_eq size (show rows < height by omega) placed
      rw [range_succ, foldlM_append, ih (by omega)]
      refine (congrArg (· >>= fun scanlines => foldlM _ scanlines []) next).trans ?_
      refine congrArg Except.ok ?_
      rw [rowsOf, rowsOf, range_succ, map_append, flatMap_append]
      simp
  have all := upTo height (Nat.le_refl _)
  rw [Nat.sub_self, Nat.mul_zero, replicate_zero, append_nil] at all
  exact all

/-! ## The file -/

variable {zlib : Zlib}

theorem packWord_ok (small : n < 256 ^ 4) : packWord n = .ok (wordBytes 4 n) :=
  ensure_bind_ok.mpr ⟨small, rfl⟩

theorem packWord_error (large : ¬ n < 256 ^ 4) : packWord n = .error .structError := by
  rw [packWord, ensure_not large]
  rfl

theorem checksum_small (kind data : Bytes) : checksum zlib kind data < 256 ^ 4 :=
  Nat.mod_lt _ (by decide)

theorem chunk_ok (small : data.length < 256 ^ 4) :
    chunk zlib kind data = .ok (Png.layout (checksum zlib) ⟨kind, data⟩) := by
  rw [chunk, packWord_ok small, packWord_ok (checksum_small kind data)]
  rfl

theorem chunk_error (large : ¬ data.length < 256 ^ 4) : chunk zlib kind data = .error .structError := by
  rw [chunk, packWord_error large]
  rfl

/-- The data of `IHDR`. -/
def header (width height : Nat) : Bytes :=
  wordBytes 4 width ++ (wordBytes 4 height ++ [16, 0, 0, 0, 0])

theorem length_header (width height : Nat) : (header width height).length = 13 := by
  simp [header]

theorem packHeader_ok (wide : width < 256 ^ 4) (high : height < 256 ^ 4) :
    packHeader width height = .ok (header width height) := by
  rw [packHeader, packWord_ok wide, packWord_ok high]
  rfl

theorem packHeader_error (large : ¬ (width < 256 ^ 4 ∧ height < 256 ^ 4)) :
    packHeader width height = .error .structError := by
  by_cases wide : width < 256 ^ 4
  · rw [packHeader, packWord_ok wide, packWord_error fun high => large ⟨wide, high⟩]
    rfl
  · rw [packHeader, packWord_error wide]
    rfl

def scanlinesFor (raw : Bytes) (width height : Nat) : Bytes :=
  (rowsOf raw width height).flatMap fun row => 0 :: swapPairs row

variable (zlib)

def chunksOf (raw : Bytes) (width height : Nat) : List Png.Chunk :=
  [⟨ihdr, header width height⟩, ⟨idat, zlib.compress (scanlinesFor raw width height) 3⟩, ⟨iend, []⟩]

def Carried (raw : Bytes) (width height : Nat) : Prop :=
  width < 256 ^ 4 ∧ height < 256 ^ 4 ∧ ∀ scanlines, scanlinesOf raw width height = .ok scanlines →
      (zlib.compress scanlines 3).length < 256 ^ 4

variable {zlib}

theorem carried_iff (size : raw.length = width * height * 2) :
    Carried zlib raw width height ↔ (width < 256 ^ 4 ∧ height < 256 ^ 4) ∧
      (zlib.compress (scanlinesFor raw width height) 3).length < 256 ^ 4 := by
  rw [Carried, scanlines_eq size, ← scanlinesFor, and_assoc]
  refine and_congr_right fun _ => and_congr_right fun _ => ⟨fun all => all _ rfl, ?_⟩
  rintro small _ same
  obtain rfl := Except.ok.inj same
  exact small

theorem encode_eq {width height} (wide : 0 < width) (high : 0 < height)
    (size : (raw.length : ℤ) = width * height * 2) :
    (Carried zlib raw width.toNat height.toNat → encodeZ16AsPng zlib raw width height = .ok (Png.signature ++
        (chunksOf zlib raw width.toNat height.toNat).flatMap (Png.layout (checksum zlib)))) ∧
    (¬ Carried zlib raw width.toNat height.toNat →
      encodeZ16AsPng zlib raw width height = .error .structError) := by
  obtain ⟨w, rfl⟩ := Int.eq_ofNat_of_zero_le wide.le
  obtain ⟨h, rfl⟩ := Int.eq_ofNat_of_zero_le high.le
  rw [Int.toNat_natCast, Int.toNat_natCast]
  have frame : raw.length = w * h * 2 := by exact_mod_cast size
  have dims : ¬ ((w : ℤ) ≤ 0 ∨ (h : ℤ) ≤ 0) := by omega
  have expected : encodeZ16AsPng zlib raw w h = (do
      let header ← packHeader w h
      let first ← chunk zlib ihdr header
      let second ← chunk zlib idat (zlib.compress (scanlinesFor raw w h) 3)
      let third ← chunk zlib iend []
      return Png.signature ++ (first ++ (second ++ third))) := by
    rw [encodeZ16AsPng, ensure_of dims]
    show (ensure _ _ >>= _) = _
    rw [ensure_of size, Int.toNat_natCast, Int.toNat_natCast]
    show (scanlinesOf raw w h >>= _) = _
    rw [scanlines_eq frame]
    rfl
  have small : (header w h).length < 256 ^ 4 := by
    rw [length_header]
    decide
  rw [expected, carried_iff frame]
  constructor
  · rintro ⟨⟨narrow, low⟩, compressed⟩
    rw [packHeader_ok narrow low]
    show (chunk zlib ihdr (header w h) >>= _) = _
    rw [chunk_ok small, chunk_ok compressed, chunk_ok (by decide)]
    simp only [chunksOf, flatMap_cons, flatMap_nil, append_nil]
    rfl
  · intro large
    by_cases dims : w < 256 ^ 4 ∧ h < 256 ^ 4
    · rw [packHeader_ok dims.1 dims.2]
      show (chunk zlib ihdr (header w h) >>= _) = _
      rw [chunk_ok small, chunk_error fun compressed => large ⟨dims, compressed⟩]
      rfl
    · rw [packHeader_error dims]
      rfl

/-- A file of a header, data and an end: with these dimensions, 16 bits of gray for a sample, and
the samples of the frame in the data once it is decompressed. -/
def Holds (zlib : Zlib) (decompress : Bytes → Option Bytes) (file raw : Bytes) (width height : Nat) : Prop :=
  ∃ head data rows, Png.readFile (checksum zlib) file = some [⟨ihdr, head⟩, ⟨idat, data⟩, ⟨iend, []⟩] ∧
    (wordOf (head.take 4) = width ∧ wordOf ((head.drop 4).take 4) = height ∧ head.drop 8 = [16, 0, 0, 0, 0]) ∧
    (decompress data).bind (Png.readRows width height) = some rows ∧
    rows.length = height ∧ ∀ row < height, ∀ column < width, ∃ low high, raw[2 * (row * width + column)]? = some low ∧
      raw[2 * (row * width + column) + 1]? = some high ∧
      (rows[row]?.bind fun samples => samples[column]?) = some (low.toNat + 256 * high.toNat)

theorem header_read (wide : width < 256 ^ 4) (high : height < 256 ^ 4) :
    wordOf ((header width height).take 4) = width ∧
    wordOf (((header width height).drop 4).take 4) = height ∧
    (header width height).drop 8 = [16, 0, 0, 0, 0] := by
  have both : (wordBytes 4 width ++ wordBytes 4 height).length = 8 := by simp
  refine ⟨?_, ?_, ?_⟩
  · rw [header, take_left' (length_wordBytes ..), wordOf_wordBytes wide]
  · rw [header, drop_left' (length_wordBytes ..), take_left' (length_wordBytes ..), wordOf_wordBytes high]
  · rw [header, ← append_assoc, drop_left' both]

theorem readRows_scanlinesFor (size : raw.length = width * height * 2) :
    Png.readRows width height (scanlinesFor raw width height) =
      some ((rowsOf raw width height).map fun row => wordsOf 2 width (swapPairs row)) := by
  have sized : ∀ row ∈ (rowsOf raw width height).map swapPairs, row.length = 2 * width := by
    intro row member
    obtain ⟨source, held, rfl⟩ := List.mem_map.mp member
    obtain ⟨index, before, rfl⟩ := List.mem_map.mp held
    rw [length_swapPairs, length_slice (row_inside size (List.mem_range.mp before)), Nat.mul_comm]
  have read := Png.readRows_scanlines sized
  rw [length_map, show (rowsOf raw width height).length = height by simp [rowsOf], flatMap_map, map_map] at read
  exact read

theorem sample_eq {width height row column} (size : raw.length = width * height * 2)
    (inside : row < height) (within : column < width) :
    ∃ low high, raw[2 * (row * width + column)]? = some low ∧ raw[2 * (row * width + column) + 1]? = some high ∧
      (((rowsOf raw width height).map fun row => wordsOf 2 width (swapPairs row))[row]?.bind
        fun samples => samples[column]?) = some (low.toNat + 256 * high.toNat) := by
  have before := row_inside size inside
  have place : row * (width * 2) + column * 2 = 2 * (row * width + column) := by ring
  have bound : 2 * (row * width + column) + 1 < raw.length := by
    rw [← place]
    omega
  have sliced := length_slice before
  have here : column * 2 + 1 < (slice raw (row * (width * 2)) (row * (width * 2) + width * 2)).length := by
    rw [sliced]
    omega
  have source (offset : Nat) (small : offset <
      (slice raw (row * (width * 2)) (row * (width * 2) + width * 2)).length) :
      (slice raw (row * (width * 2)) (row * (width * 2) + width * 2))[offset]? =
        raw[row * (width * 2) + offset]? := by
    rw [sliced] at small
    rw [slice, getElem?_drop, getElem?_take_of_lt (by omega)]
  refine ⟨raw[2 * (row * width + column)], raw[2 * (row * width + column) + 1],
    getElem?_eq_getElem _, getElem?_eq_getElem _, ?_⟩
  have low := source (column * 2) (by omega)
  have high := source (column * 2 + 1) here
  rw [place, getElem?_eq_getElem (by omega), getElem?_eq_getElem (by omega)] at low
  rw [← Nat.add_assoc, place, getElem?_eq_getElem here, getElem?_eq_getElem bound] at high
  rw [getElem?_map, rowsOf, getElem?_map, getElem?_range inside]
  show (wordsOf 2 width _)[column]? = _
  rw [Png.getElem?_wordsOf within, drop_swapPairs here, Option.some.inj low, Option.some.inj high]
  simp only [wordOf, foldl_cons, foldl_nil]
  congr 1
  omega

/-- **A depth frame of the wrong size is refused, and one that fits is the samples of its PNG.** -/
theorem depth_png_lossless {decompress : Bytes → Option Bytes}
    (lossless : ∀ data, decompress (zlib.compress data 3) = some data) {width height : ℤ}
    (wide : 0 < width) (high : 0 < height) (raw : Bytes) :
    ((raw.length : ℤ) ≠ width * height * 2 →
      ∃ text, encodeZ16AsPng zlib raw width height = .error (.cameraStreamError text)) ∧
    ((raw.length : ℤ) = width * height * 2 → (Carried zlib raw width.toNat height.toNat →
        ∃ png, encodeZ16AsPng zlib raw width height = .ok png ∧
          Holds zlib decompress png raw width.toNat height.toNat) ∧
      (¬ Carried zlib raw width.toNat height.toNat →
        encodeZ16AsPng zlib raw width height = .error .structError)) := by
  refine ⟨fun other => ?_, fun size => ⟨fun carried => ?_, (encode_eq wide high size).2⟩⟩
  · have dims : ¬ (width ≤ 0 ∨ height ≤ 0) := by omega
    refine ⟨s!"unexpected Z16 frame size: got {raw.length}, expected {width * height * 2}", ?_⟩
    rw [encodeZ16AsPng, ensure_of dims]
    show (ensure _ _ >>= _) = _
    rw [ensure_not other]
    rfl
  · refine ⟨_, (encode_eq wide high size).1 carried, ?_⟩
    have frame : raw.length = width.toNat * height.toNat * 2 := by
      have cast : (raw.length : ℤ) = (width.toNat * height.toNat * 2 : Nat) := by
        rw [size, Nat.cast_mul, Nat.cast_mul, Int.toNat_of_nonneg wide.le, Int.toNat_of_nonneg high.le]
        rfl
      exact_mod_cast cast
    obtain ⟨_, compressed⟩ := (carried_iff frame).mp carried
    have fit : ∀ chunk ∈ chunksOf zlib raw width.toNat height.toNat, Png.Fits (checksum zlib) chunk := by
      intro chunk member
      simp only [chunksOf, mem_cons, not_mem_nil, or_false] at member
      rcases member with rfl | rfl | rfl
      · exact ⟨rfl, by simp [length_header], checksum_small ..⟩
      · exact ⟨rfl, compressed, checksum_small ..⟩
      · exact ⟨rfl, by simp, checksum_small ..⟩
    have read := readRows_scanlinesFor frame
    refine ⟨_, _, _, Png.readFile_layout fit, header_read carried.1 carried.2.1, ?_, ?_,
      fun row inside column within => sample_eq frame inside within⟩
    · rw [lossless]
      exact read
    · simp [rowsOf]

def crcBit (value : Nat) : Nat :=
  if value % 2 = 1 then value / 2 ^^^ 0xEDB88320 else value / 2

def crc32 (data : Bytes) (value : Nat) : Nat :=
  (data.foldl (fun value byte => Nat.repeat crcBit 8 (value ^^^ byte.toNat)) (value ^^^ 0xFFFFFFFF)) ^^^ 0xFFFFFFFF

/-- The scanlines of one sample, and what `zlib` compresses them to; other data is marked and kept. -/
def oneSample : Zlib where
  crc32 := crc32
  compress data _ :=
    if data = [0, 2, 1] then [120, 94, 99, 96, 98, 4, 0, 0, 8, 0, 4] else 0 :: data

def decompressOne : Bytes → Option Bytes
  | 0 :: data => some data
  | data => if data = [120, 94, 99, 96, 98, 4, 0, 0, 8, 0, 4] then some [0, 2, 1] else none

theorem decompressOne_compress (data : Bytes) : decompressOne (oneSample.compress data 3) = some data := by
  by_cases one : data = [0, 2, 1]
  · subst one
    rfl
  · show decompressOne (if _ then _ else _) = _
    rw [if_neg one]
    rfl

theorem depth_png_lossless_sample :
    ∃ png, encodeZ16AsPng oneSample [1, 2] 1 1 = .ok png ∧ Holds oneSample decompressOne png [1, 2] 1 1 := by
  have carried : Carried oneSample [1, 2] (1 : ℤ).toNat (1 : ℤ).toNat :=
    (carried_iff rfl).mpr ⟨⟨by decide, by decide⟩, by decide⟩
  exact ((depth_png_lossless decompressOne_compress (by decide) (by decide) [1, 2]).2 rfl).1 carried

/-- A frame of the right size whose width does not fit: nothing is written. -/
theorem too_wide : ((List.replicate (2 ^ 33) (0 : UInt8)).length : ℤ) = 2 ^ 32 * 1 * 2 ∧
    encodeZ16AsPng oneSample (List.replicate (2 ^ 33) 0) (2 ^ 32) 1 = .error .structError := by
  have size : ((List.replicate (2 ^ 33) (0 : UInt8)).length : ℤ) = 2 ^ 32 * 1 * 2 := by
    rw [length_replicate]
    norm_num
  refine ⟨size, (encode_eq (by norm_num) (by norm_num) size).2 fun carried => ?_⟩
  have wide := carried.1
  norm_num at wide

end EmbodiRun.Go2.Encoding
