import Mathlib.Data.Nat.Bitwise
import Mathlib.Tactic.Linarith
import MarketMind.Publishing.Contract

/-!
Owns the validation of uploaded images: the signatures of the accepted types, and the readers of
the dimensions of JPEG, PNG and WebP files.

Does not own the storage of the files. A read outside the buffer is an error of its own.
-/

namespace MarketMind.Content.ImageSniffing

abbrev Bytes := List UInt8

/-! ### Reading -/

inductive ReadError
  | outOfRange (offset : Nat)
deriving DecidableEq

abbrev Read (α : Type) := Except ReadError α

structure Dimensions where
  width : Nat
  height : Nat
deriving DecidableEq

def byteAt (buf : Bytes) (offset : Nat) : Read Nat :=
  match buf[offset]? with
  | some byte => .ok byte.toNat
  | none => .error (.outOfRange offset)

def readUInt16BE (buf : Bytes) (offset : Nat) : Read Nat := do
  return (← byteAt buf offset) * 256 + (← byteAt buf (offset + 1))

def readUInt16LE (buf : Bytes) (offset : Nat) : Read Nat := do
  return (← byteAt buf offset) + (← byteAt buf (offset + 1)) * 256

def readUInt24LE (buf : Bytes) (offset : Nat) : Read Nat := do
  return (← readUInt16LE buf offset) + (← byteAt buf (offset + 2)) * 65536

def readUInt32BE (buf : Bytes) (offset : Nat) : Read Nat := do
  return (← readUInt16BE buf offset) * 65536 + (← readUInt16BE buf (offset + 2))

/-! ### The types -/

def ascii (text : String) : Bytes := text.toList.map fun char => char.toNat.toUInt8

/-- `subarray(first, last).toString("ascii")` is the text; the decoder drops the highest bit. -/
def spells (buf : Bytes) (first last : Nat) (text : String) : Bool :=
  ((buf.take last).drop first).map (· &&& 0x7f) = ascii text

def pngSignature : Bytes := [0x89, 0x50, 0x4e, 0x47, 0x0d, 0x0a, 0x1a, 0x0a]

/-- `MAGIC_BYTES` -/
def magicBytes : List (String × (Bytes → Bool)) :=
  [("image/jpeg", fun buf =>
      buf.length > 3 && buf[0]? = some 0xff && buf[1]? = some 0xd8 && buf[2]? = some 0xff),
    ("image/png", fun buf => buf.length > 8 && buf.take 8 = pngSignature),
    ("image/webp", fun buf => buf.length > 12 && spells buf 0 4 "RIFF" && spells buf 8 12 "WEBP")]

def sniffMime (buf : Bytes) : Option String :=
  (magicBytes.find? fun candidate => candidate.2 buf).map Prod.fst

/-- Markers that the reader takes to stand alone. -/
def isStandalone (marker : Nat) : Bool :=
  marker = 0xd8 || marker = 0xd9 || (0xd0 ≤ marker && marker ≤ 0xd7)

/-- Markers of frame headers. -/
def isFrameHeader (marker : Nat) : Bool :=
  0xc0 ≤ marker && marker ≤ 0xcf && marker ≠ 0xc4 && marker ≠ 0xc8 && marker ≠ 0xcc

/-- The loop over the segments of a JPEG file. -/
def scanSegments (buf : Bytes) (offset : Nat) : Read (Option Dimensions) :=
  if offset + 9 < buf.length then
    byteAt buf offset >>= fun first =>
      if first ≠ 0xff then scanSegments buf (offset + 1)
      else
        byteAt buf (offset + 1) >>= fun marker =>
          if isStandalone marker then scanSegments buf (offset + 2)
          else
            readUInt16BE buf (offset + 2) >>= fun length =>
              if isFrameHeader marker then
                if offset + 9 ≥ buf.length then .ok none
                else do
                  let height ← readUInt16BE buf (offset + 5)
                  let width ← readUInt16BE buf (offset + 7)
                  return some ⟨width, height⟩
              else scanSegments buf (offset + 2 + length)
  else .ok none
termination_by buf.length - offset

def readWebp (buf : Bytes) : Read (Option Dimensions) :=
  if spells buf 12 16 "VP8X" && buf.length ≥ 30 then do
    return some ⟨1 + (← readUInt24LE buf 24), 1 + (← readUInt24LE buf 27)⟩
  else if (spells buf 12 16 "VP8 " || spells buf 12 16 "VP8L") && buf.length ≥ 30 then
    if spells buf 12 16 "VP8 " then do
      return some ⟨(← readUInt16LE buf 26) &&& 0x3fff, (← readUInt16LE buf 28) &&& 0x3fff⟩
    else do
      let b0 ← byteAt buf 21
      let b1 ← byteAt buf 22
      let b2 ← byteAt buf 23
      let b3 ← byteAt buf 24
      return some ⟨1 + ((b1 &&& 0x3f) <<< 8 ||| b0),
        1 + ((b3 &&& 0x0f) <<< 10 ||| b2 <<< 2 ||| (b1 &&& 0xc0) >>> 6)⟩
  else .ok none

def readDimensions (buf : Bytes) (mime : String) : Read (Option Dimensions) :=
  if mime = "image/png" then
    if buf.length < 24 then .ok none
    else do return some ⟨← readUInt32BE buf 16, ← readUInt32BE buf 20⟩
  else if mime = "image/jpeg" then scanSegments buf 2
  else if mime = "image/webp" then readWebp buf
  else .ok none

/-! ### The upload -/

/-- The only letter outside ASCII whose lower case is an ASCII letter is the Kelvin sign, and no
accepted type has a k. -/
def normalizeDeclaredMime (declaredType : String) : String :=
  let type := declaredType.toLower.toList.takeWhile fun char => char ≠ ';'
  String.ofList ((type.dropWhile Publishing.Contract.isWhiteSpace).reverse.dropWhile
    Publishing.Contract.isWhiteSpace).reverse

def allowedMimeTypes : List String := ["image/jpeg", "image/png", "image/webp"]

def maxBytes : Nat := 10 * 1024 * 1024

inductive FailureCode
  | typeUnsupported
  | tooLarge
  | magicByteMismatch
  | dimensionsInvalid
deriving DecidableEq

inductive MediaValidationResult
  | valid (dimensions : Dimensions)
  | invalid (failureCode : FailureCode) (message : String)

def validateUpload (buffer : Bytes) (declaredType : String) : Read MediaValidationResult :=
  let mime := normalizeDeclaredMime declaredType
  if mime ∉ allowedMimeTypes then
    .ok (.invalid .typeUnsupported ("Unsupported content type \"" ++
      (if mime = "" then "unknown" else mime) ++
      "\". Allowed: image/jpeg, image/png, image/webp."))
  else if buffer.length > maxBytes then
    .ok (.invalid .tooLarge "Upload exceeds the 10 MiB limit.")
  else if sniffMime buffer ≠ some mime then
    .ok (.invalid .magicByteMismatch
      ("File content does not match declared type \"" ++ mime ++ "\"."))
  else
    readDimensions buffer mime >>= fun dimensions =>
      match dimensions with
      | some dimensions =>
          if dimensions.width < 1 ∨ dimensions.height < 1 then
            .ok (.invalid .dimensionsInvalid "Could not read valid image dimensions.")
          else .ok (.valid dimensions)
      | none => .ok (.invalid .dimensionsInvalid "Could not read valid image dimensions.")

/-! ### Reads stay inside -/

/-- The value of a byte, which is 0 outside the buffer. -/
def value (buf : Bytes) (offset : Nat) : Nat := (buf.getD offset 0).toNat

section Inside

variable {buf : Bytes} {offset : Nat}

theorem byteAt_eq (inside : offset < buf.length) : byteAt buf offset = .ok (value buf offset) := by
  simp [byteAt, value, inside]

theorem readUInt16BE_eq (inside : offset + 1 < buf.length) :
    readUInt16BE buf offset = .ok (value buf offset * 256 + value buf (offset + 1)) := by
  unfold readUInt16BE
  rw [byteAt_eq (by omega), byteAt_eq inside]
  rfl

theorem readUInt16LE_eq (inside : offset + 1 < buf.length) :
    readUInt16LE buf offset = .ok (value buf offset + value buf (offset + 1) * 256) := by
  unfold readUInt16LE
  rw [byteAt_eq (by omega), byteAt_eq inside]
  rfl

theorem readUInt24LE_eq (inside : offset + 2 < buf.length) :
    readUInt24LE buf offset = .ok (value buf offset + value buf (offset + 1) * 256 +
      value buf (offset + 2) * 65536) := by
  unfold readUInt24LE
  rw [readUInt16LE_eq (by omega), byteAt_eq inside]
  rfl

theorem readUInt32BE_eq (inside : offset + 3 < buf.length) :
    readUInt32BE buf offset = .ok ((value buf offset * 256 + value buf (offset + 1)) * 65536 +
      (value buf (offset + 2) * 256 + value buf (offset + 3))) := by
  unfold readUInt32BE
  rw [readUInt16BE_eq (by omega), readUInt16BE_eq (by omega)]
  rfl

/-- One turn of the loop. -/
theorem scanSegments_eq (inside : offset + 9 < buf.length) :
    scanSegments buf offset =
      if value buf offset ≠ 0xff then scanSegments buf (offset + 1)
      else if isStandalone (value buf (offset + 1)) then scanSegments buf (offset + 2)
      else if isFrameHeader (value buf (offset + 1)) then
        .ok (some ⟨value buf (offset + 7) * 256 + value buf (offset + 8),
          value buf (offset + 5) * 256 + value buf (offset + 6)⟩)
      else scanSegments buf
        (offset + 2 + (value buf (offset + 2) * 256 + value buf (offset + 3))) := by
  rw [scanSegments, if_pos inside, byteAt_eq (by omega)]
  simp only [Except.bind, bind, byteAt_eq (show offset + 1 < buf.length by omega),
    readUInt16BE_eq (show offset + 2 + 1 < buf.length by omega),
    readUInt16BE_eq (show offset + 5 + 1 < buf.length by omega),
    readUInt16BE_eq (show offset + 7 + 1 < buf.length by omega),
    if_neg (show ¬offset + 9 ≥ buf.length by omega)]
  rfl

/-- The reader ends, and never reads outside the buffer. -/
theorem scanSegments_safe (buf : Bytes) (offset : Nat) :
    ∃ dimensions, scanSegments buf offset = .ok dimensions := by
  induction distance : buf.length - offset using Nat.strong_induction_on generalizing offset with
  | _ distance inductionHypothesis =>
      by_cases inside : offset + 9 < buf.length
      · rw [scanSegments_eq inside]
        split_ifs
        · exact inductionHypothesis _ (by omega) _ rfl
        · exact inductionHypothesis _ (by omega) _ rfl
        · exact ⟨_, rfl⟩
        · exact inductionHypothesis _ (by omega) _ rfl
      · rw [scanSegments, if_neg inside]
        exact ⟨_, rfl⟩

theorem readWebp_eq (inside : 30 ≤ buf.length) :
    readWebp buf =
      .ok (if spells buf 12 16 "VP8X" then
          some ⟨1 + (value buf 24 + value buf 25 * 256 + value buf 26 * 65536),
            1 + (value buf 27 + value buf 28 * 256 + value buf 29 * 65536)⟩
        else if spells buf 12 16 "VP8 " then
          some ⟨(value buf 26 + value buf 27 * 256) &&& 0x3fff,
            (value buf 28 + value buf 29 * 256) &&& 0x3fff⟩
        else if spells buf 12 16 "VP8L" then
          some ⟨1 + ((value buf 22 &&& 0x3f) <<< 8 ||| value buf 21),
            1 + ((value buf 24 &&& 0x0f) <<< 10 ||| value buf 23 <<< 2 |||
              (value buf 22 &&& 0xc0) >>> 6)⟩
        else none) := by
  unfold readWebp
  rw [readUInt24LE_eq (by omega), readUInt24LE_eq (by omega), readUInt16LE_eq (by omega),
    readUInt16LE_eq (by omega), byteAt_eq (by omega), byteAt_eq (by omega), byteAt_eq (by omega),
    byteAt_eq (by omega)]
  have long : decide (buf.length ≥ 30) = true := decide_eq_true inside
  rw [long, Bool.and_true, Bool.and_true]
  cases spells buf 12 16 "VP8X" <;> cases spells buf 12 16 "VP8 " <;>
    cases spells buf 12 16 "VP8L" <;> rfl

theorem readDimensions_safe (buf : Bytes) (mime : String) :
    ∃ dimensions, readDimensions buf mime = .ok dimensions := by
  unfold readDimensions
  split_ifs with isPng short isJpeg isWebp
  · exact ⟨_, rfl⟩
  · rw [readUInt32BE_eq (by omega), readUInt32BE_eq (by omega)]
    exact ⟨_, rfl⟩
  · exact scanSegments_safe buf 2
  · by_cases long : 30 ≤ buf.length
    · exact ⟨_, readWebp_eq long⟩
    · refine ⟨none, ?_⟩
      unfold readWebp
      simp [long]
  · exact ⟨_, rfl⟩

end Inside

/-! ### Files -/

def bigEndian (count value : Nat) : Bytes :=
  (List.range count).reverse.map fun place => (value / 256 ^ place % 256).toUInt8

def littleEndian (count value : Nat) : Bytes :=
  (List.range count).map fun place => (value / 256 ^ place % 256).toUInt8

/-- A marker before the frame header, after some fill bytes. Without a payload it stands alone. -/
structure Segment where
  fill : Nat
  marker : UInt8
  payload : Option Bytes
  legal : match payload with
    | none => marker = 0x01 ∨ (0xd0 ≤ marker.toNat ∧ marker.toNat ≤ 0xd7)
    | some payload => payload.length + 2 < 65536 ∧ 0x02 ≤ marker.toNat ∧ marker ≠ 0xff ∧
        ¬(0xd0 ≤ marker.toNat ∧ marker.toNat ≤ 0xd9) ∧ isFrameHeader marker.toNat = false

def Segment.encode (segment : Segment) : Bytes :=
  List.replicate segment.fill (0xff : UInt8) ++ (0xff : UInt8) :: segment.marker ::
    match segment.payload with
    | none => []
    | some payload => bigEndian 2 (payload.length + 2) ++ payload

/-- The files of the accepted types, with what follows the dimensions as `rest`. -/
inductive Image
  | jpeg (segments : List Segment) (fill : Nat) (marker : UInt8) (length : Nat) (precision : UInt8)
      (width height : Nat) (rest : Bytes)
  | png (width height : Nat) (rest : Bytes)
  | vp8 (size chunk : Nat) (tag : Bytes) (width height horizontal vertical : Nat) (rest : Bytes)
  | vp8l (size chunk : Nat) (width height hint : Nat) (rest : Bytes)
  | vp8x (size : Nat) (flags : Bytes) (width height : Nat) (rest : Bytes)

namespace Image

def riff (size : Nat) (chunkName : String) (chunk : Nat) : Bytes :=
  ascii "RIFF" ++ (littleEndian 4 size ++ (ascii "WEBP" ++
    (ascii chunkName ++ littleEndian 4 chunk)))

def encode : Image → Bytes
  | jpeg segments fill marker length precision width height rest =>
      (0xff : UInt8) :: 0xd8 :: (segments.flatMap Segment.encode ++
        (List.replicate fill (0xff : UInt8) ++ ((0xff : UInt8) :: marker :: (bigEndian 2 length ++
          precision :: (bigEndian 2 height ++ (bigEndian 2 width ++ rest))))))
  | png width height rest =>
      pngSignature ++ (bigEndian 4 13 ++ (ascii "IHDR" ++ (bigEndian 4 width ++
        (bigEndian 4 height ++ rest))))
  | vp8 size chunk tag width height horizontal vertical rest =>
      riff size "VP8 " chunk ++ (tag ++ (([0x9d, 0x01, 0x2a] : Bytes) ++
        (littleEndian 2 (width + 16384 * horizontal) ++
          (littleEndian 2 (height + 16384 * vertical) ++ rest))))
  | vp8l size chunk width height hint rest =>
      riff size "VP8L" chunk ++ ((0x2f : UInt8) ::
        (littleEndian 4 (width - 1 + 16384 * (height - 1) + 268435456 * hint) ++ rest))
  | vp8x size flags width height rest =>
      riff size "VP8X" 10 ++ (flags ++ (littleEndian 3 (width - 1) ++
        (littleEndian 3 (height - 1) ++ rest)))

def mime : Image → String
  | jpeg .. => "image/jpeg"
  | png .. => "image/png"
  | vp8 .. | vp8l .. | vp8x .. => "image/webp"

def dimensions : Image → Dimensions
  | jpeg _ _ _ _ _ width height _ | png width height _ | vp8 _ _ _ width height _ _ _
  | vp8l _ _ width height _ _ | vp8x _ _ width height _ => ⟨width, height⟩

/-- The fields are in their ranges, and the parts that the format fixes have their lengths. -/
def WellFormed : Image → Prop
  | jpeg _ _ marker length _ width height rest =>
      isFrameHeader marker.toNat = true ∧ 11 ≤ length ∧ length < 65536 ∧ length ≤ rest.length + 7 ∧
        0 < width ∧ width < 65536 ∧ height < 65536
  | png width height rest => 0 < width ∧ width < 2 ^ 31 ∧ 0 < height ∧ height < 2 ^ 31 ∧
      5 ≤ rest.length
  | vp8 _ _ tag width height horizontal vertical _ =>
      tag.length = 3 ∧ width < 16384 ∧ height < 16384 ∧ horizontal < 4 ∧ vertical < 4
  | vp8l _ _ width height hint _ =>
      0 < width ∧ width ≤ 16384 ∧ 0 < height ∧ height ≤ 16384 ∧ hint < 16
  | vp8x _ flags width height _ =>
      flags.length = 4 ∧ 0 < width ∧ width ≤ 16777216 ∧ 0 < height ∧ height ≤ 16777216

/-- No fill bytes and no marker 0x01 before the frame header; a lossless WebP file has 30 bytes. -/
def Plain : Image → Prop
  | jpeg segments fill _ _ _ _ _ _ =>
      fill = 0 ∧ ∀ segment ∈ segments, segment.fill = 0 ∧ segment.marker ≠ 0x01
  | vp8l _ _ _ _ _ rest => 5 ≤ rest.length
  | _ => True

/-- The file is taken for what it is. -/
def Reads (image : Image) : Prop :=
  sniffMime image.encode = some image.mime ∧
    readDimensions image.encode image.mime = .ok (some image.dimensions)

end Image

/-! ### Bytes of numbers -/

@[simp]
theorem value_zero (byte : UInt8) (buf : Bytes) : value (byte :: buf) 0 = byte.toNat := by
  simp [value]

@[simp]
theorem value_succ (byte : UInt8) (buf : Bytes) (offset : Nat) :
    value (byte :: buf) (offset + 1) = value buf offset := by
  simp [value]

theorem value_append (before after : Bytes) (offset : Nat) :
    value (before ++ after) (before.length + offset) = value after offset := by
  simp [value, List.getD_eq_getElem?_getD, List.getElem?_append_right]

@[simp]
theorem toNat_byte (number : Nat) : (number % 256).toUInt8.toNat = number % 256 := by
  rw [Nat.toUInt8_eq, UInt8.toNat_ofNat']
  exact Nat.mod_eq_of_lt (Nat.mod_lt _ (by decide))

theorem bigEndian_two (number : Nat) :
    bigEndian 2 number = [(number / 256 % 256).toUInt8, (number % 256).toUInt8] := by
  simp [bigEndian, List.range_succ]

theorem bigEndian_four (number : Nat) :
    bigEndian 4 number = [(number / 16777216 % 256).toUInt8, (number / 65536 % 256).toUInt8,
      (number / 256 % 256).toUInt8, (number % 256).toUInt8] := by
  simp [bigEndian, List.range_succ]

theorem littleEndian_two (number : Nat) :
    littleEndian 2 number = [(number % 256).toUInt8, (number / 256 % 256).toUInt8] := by
  simp [littleEndian, List.range_succ]

theorem littleEndian_three (number : Nat) :
    littleEndian 3 number = [(number % 256).toUInt8, (number / 256 % 256).toUInt8,
      (number / 65536 % 256).toUInt8] := by
  simp [littleEndian, List.range_succ]

theorem littleEndian_four (number : Nat) :
    littleEndian 4 number = [(number % 256).toUInt8, (number / 256 % 256).toUInt8,
      (number / 65536 % 256).toUInt8, (number / 16777216 % 256).toUInt8] := by
  simp [littleEndian, List.range_succ]

theorem bytes_two {number : Nat} (fits : number < 65536) :
    number / 256 % 256 * 256 + number % 256 = number := by
  omega

theorem bytes_four {number : Nat} (fits : number < 4294967296) :
    (number / 16777216 % 256 * 256 + number / 65536 % 256) * 65536 +
      (number / 256 % 256 * 256 + number % 256) = number := by
  omega

/-- The bits of a width in the first two bytes of a lossless header. -/
theorem lossless_width {first second : Nat} (isByte : first < 256) :
    (second &&& 0x3f) <<< 8 ||| first = second % 64 * 256 + first := by
  have low : second &&& 0x3f = second % 64 := Nat.and_two_pow_sub_one_eq_mod second 6
  rw [low, ← Nat.shiftLeft_add_eq_or_of_lt (show first < 2 ^ 8 from isByte), Nat.shiftLeft_eq]

/-- The bits of a height in the last three bytes of a lossless header. -/
theorem lossless_height {second third fourth : Nat} (secondIsByte : second < 256)
    (thirdIsByte : third < 256) :
    (fourth &&& 0x0f) <<< 10 ||| third <<< 2 ||| (second &&& 0xc0) >>> 6 =
      fourth % 16 * 1024 + third * 4 + second / 64 := by
  have low : fourth &&& 0x0f = fourth % 16 := Nat.and_two_pow_sub_one_eq_mod fourth 4
  have high : (second &&& 0xc0) >>> 6 = second / 64 := by
    rw [Nat.shiftRight_and_distrib, Nat.shiftRight_eq_div_pow]
    have mask : second / 2 ^ 6 &&& 0xc0 >>> 6 = second / 2 ^ 6 % 2 ^ 2 :=
      Nat.and_two_pow_sub_one_eq_mod (second / 2 ^ 6) 2
    rw [mask]
    omega
  have third_lt : third <<< 2 < 2 ^ 10 := by
    rw [Nat.shiftLeft_eq]
    omega
  have second_lt : second / 64 < 2 ^ 2 := by omega
  have joined : (fourth % 16) <<< 10 + third <<< 2 = (fourth % 16 * 256 + third) <<< 2 := by
    rw [Nat.shiftLeft_eq, Nat.shiftLeft_eq, Nat.shiftLeft_eq]
    omega
  rw [low, high, ← Nat.shiftLeft_add_eq_or_of_lt third_lt, joined,
    ← Nat.shiftLeft_add_eq_or_of_lt second_lt, Nat.shiftLeft_eq]
  omega

/-! ### JPEG -/

section Jpeg

variable {before after : Bytes} {segment : Segment}

theorem scanSegments_append (long : 9 < after.length) :
    scanSegments (before ++ after) before.length =
      if value after 0 ≠ 0xff then scanSegments (before ++ after) (before.length + 1)
      else if isStandalone (value after 1) then scanSegments (before ++ after) (before.length + 2)
      else if isFrameHeader (value after 1) then
        .ok (some ⟨value after 7 * 256 + value after 8, value after 5 * 256 + value after 6⟩)
      else scanSegments (before ++ after)
        (before.length + 2 + (value after 2 * 256 + value after 3)) := by
  rw [scanSegments_eq (by rw [List.length_append]; omega)]
  have first := value_append before after 0
  rw [Nat.add_zero] at first
  simp only [first, value_append]

/-- A segment without fill bytes is passed as a whole. -/
theorem scanSegments_segment (unfilled : segment.fill = 0) (ordinary : segment.marker ≠ 0x01)
    (long : 9 < after.length) :
    scanSegments (before ++ (segment.encode ++ after)) before.length =
      scanSegments (before ++ (segment.encode ++ after))
        (before ++ segment.encode).length := by
  rw [scanSegments_append (by rw [List.length_append]; omega), List.length_append]
  obtain ⟨fill, marker, payload, legal⟩ := segment
  subst unfilled
  cases payload with
  | none =>
      have restart : 0xd0 ≤ marker.toNat ∧ marker.toNat ≤ 0xd7 := legal.resolve_left ordinary
      have standalone : isStandalone marker.toNat = true := by
        simp [isStandalone, restart]
      simp [Segment.encode, standalone]
  | some payload =>
      obtain ⟨short, least, notFill, notStandalone, notFrame⟩ := legal
      have accompanied : isStandalone marker.toNat = false := by
        simp only [isStandalone, Bool.or_eq_false_iff, Bool.and_eq_false_iff,
          decide_eq_false_iff_not]
        omega
      have length : (payload.length + 2) / 256 % 256 * 256 + (payload.length + 2) % 256 =
          payload.length + 2 := by omega
      simp only [Segment.encode, bigEndian_two, List.replicate_zero, List.nil_append,
        List.cons_append, value_zero, value_succ, toNat_byte, accompanied, notFrame, length,
        List.length_cons]
      simp [Nat.add_comm, Nat.add_left_comm]

/-- The loop comes to the frame header. -/
theorem scanSegments_segments {segments : List Segment} (long : 9 < after.length)
    (plain : ∀ segment ∈ segments, segment.fill = 0 ∧ segment.marker ≠ 0x01) :
    scanSegments (before ++ (segments.flatMap Segment.encode ++ after)) before.length =
      scanSegments (before ++ (segments.flatMap Segment.encode ++ after))
        (before ++ segments.flatMap Segment.encode).length := by
  induction segments generalizing before with
  | nil => rw [List.flatMap_nil, List.append_nil]
  | cons segment segments inductionHypothesis =>
      obtain ⟨unfilled, ordinary⟩ := plain segment List.mem_cons_self
      have rest := @inductionHypothesis (before ++ segment.encode)
        fun other member => plain other (List.mem_cons_of_mem segment member)
      rw [List.flatMap_cons, List.append_assoc,
        scanSegments_segment unfilled ordinary (by rw [List.length_append]; omega)]
      simp only [List.append_assoc] at rest ⊢
      exact rest

end Jpeg

/-! ### Files that are read right -/

namespace Image

theorem jpeg_reads {segments : List Segment} {fill : Nat} {marker precision : UInt8}
    {length width height : Nat} {rest : Bytes}
    (wellFormed : (jpeg segments fill marker length precision width height rest).WellFormed)
    (plain : (jpeg segments fill marker length precision width height rest).Plain) :
    (jpeg segments fill marker length precision width height rest).Reads := by
  obtain ⟨isFrame, least, short, enough, -, narrow, low⟩ := wellFormed
  obtain ⟨rfl, plain⟩ := plain
  have accompanied : isStandalone marker.toNat = false := by
    simp only [isFrameHeader, Bool.and_eq_true, decide_eq_true_eq] at isFrame
    simp only [isStandalone, Bool.or_eq_false_iff, Bool.and_eq_false_iff, decide_eq_false_iff_not]
    omega
  constructor
  · cases segments with
    | nil => simp [sniffMime, magicBytes, encode, mime]
    | cons segment segments =>
        simp [sniffMime, magicBytes, encode, mime, Segment.encode, (plain segment
          List.mem_cons_self).1]
  · have passed := @scanSegments_segments [0xff, 0xd8] ((0xff : UInt8) :: marker ::
      (bigEndian 2 length ++ precision :: (bigEndian 2 height ++ (bigEndian 2 width ++ rest))))
      segments (by simp [bigEndian_two]; omega) plain
    change scanSegments _ 2 = _ at passed
    change scanSegments ([0xff, 0xd8] ++ (segments.flatMap Segment.encode ++ _)) 2 = _
    rw [List.replicate_zero, List.nil_append, passed, ← List.append_assoc,
      scanSegments_append (by simp [bigEndian_two]; omega)]
    simp [bigEndian_two, accompanied, isFrame, bytes_two narrow, bytes_two low, dimensions]

theorem png_reads {width height : Nat} {rest : Bytes}
    (wellFormed : (png width height rest).WellFormed) : (png width height rest).Reads := by
  obtain ⟨-, narrow, -, low, enough⟩ := wellFormed
  have name : ascii "IHDR" = [0x49, 0x48, 0x44, 0x52] := by decide
  constructor
  · simp [sniffMime, magicBytes, encode, mime, pngSignature, bigEndian_four, name]
  · have long : 24 ≤ (png width height rest).encode.length := by
      simp [encode, pngSignature, bigEndian_four, name]
    simp only [readDimensions, mime, if_true, if_neg (Nat.not_lt.mpr long)]
    rw [readUInt32BE_eq (by omega), readUInt32BE_eq (by omega)]
    have widthBytes := bytes_four (narrow.trans (by decide))
    have heightBytes := bytes_four (low.trans (by decide))
    simp [encode, pngSignature, bigEndian_four, name, widthBytes, heightBytes, dimensions]
    rfl

theorem spells_append {before name after : Bytes} (text : String) :
    spells (before ++ (name ++ after)) before.length (before.length + name.length) text =
      decide (name.map (· &&& 0x7f) = ascii text) := by
  unfold spells
  rw [List.take_length_add_append, List.drop_left, List.take_left]

section Riff

variable {size chunk : Nat} {name : String} {rest : Bytes}

theorem length_riff (four : (ascii name).length = 4) : (riff size name chunk).length = 20 := by
  simp [riff, littleEndian_four, four, show (ascii "RIFF").length = 4 from by decide,
    show (ascii "WEBP").length = 4 from by decide]

theorem spells_chunk (four : (ascii name).length = 4)
    (plain : (ascii name).map (· &&& 0x7f) = ascii name) (text : String) :
    spells (riff size name chunk ++ rest) 12 16 text = decide (ascii name = ascii text) := by
  have found := @spells_append (ascii "RIFF" ++ (littleEndian 4 size ++ ascii "WEBP")) (ascii name)
    (littleEndian 4 chunk ++ rest) text
  have twelve : (ascii "RIFF" ++ (littleEndian 4 size ++ ascii "WEBP")).length = 12 := by
    simp [littleEndian_four, ascii]
  rw [twelve, four, plain] at found
  simpa only [riff, List.append_assoc] using found

theorem sniffMime_riff (four : (ascii name).length = 4) :
    sniffMime (riff size name chunk ++ rest) = some "image/webp" := by
  have container : spells (riff size name chunk ++ rest) 0 4 "RIFF" = true := by
    have found := @spells_append [] (ascii "RIFF")
      (littleEndian 4 size ++ (ascii "WEBP" ++ (ascii name ++ (littleEndian 4 chunk ++ rest))))
      "RIFF"
    rw [show (ascii "RIFF").length = 4 from by decide] at found
    simpa only [riff, List.append_assoc, List.nil_append, List.length_nil, Nat.zero_add]
      using found.trans (by decide)
  have form : spells (riff size name chunk ++ rest) 8 12 "WEBP" = true := by
    have found := @spells_append (ascii "RIFF" ++ littleEndian 4 size) (ascii "WEBP")
      (ascii name ++ (littleEndian 4 chunk ++ rest)) "WEBP"
    have eight : (ascii "RIFF" ++ littleEndian 4 size).length = 8 := by
      simp [littleEndian_four, ascii]
    rw [eight, show (ascii "WEBP").length = 4 from by decide] at found
    simpa only [riff, List.append_assoc] using found.trans (by decide)
  have head : (riff size name chunk ++ rest)[0]? = some 0x52 := by
    simp [riff, show ascii "RIFF" = [0x52, 0x49, 0x46, 0x46] from by decide]
  have notPng : (riff size name chunk ++ rest).take 8 ≠ pngSignature := by
    intro same
    have first := congrArg (·[0]?) same
    simp only [List.getElem?_take, head] at first
    exact absurd first (by decide)
  have long : 12 < (riff size name chunk ++ rest).length := by
    rw [List.length_append, length_riff four]
    omega
  generalize riff size name chunk ++ rest = buf at *
  simp [sniffMime, magicBytes, head, notPng, container, form, long]

theorem value_riff {offset : Nat} (four : (ascii name).length = 4) (beyond : 20 ≤ offset) :
    value (riff size name chunk ++ rest) offset = value rest (offset - 20) := by
  rw [← value_append (riff size name chunk) rest, length_riff four, Nat.add_sub_cancel' beyond]

end Riff

theorem readDimensions_webp (buf : Bytes) : readDimensions buf "image/webp" = readWebp buf := by
  simp [readDimensions]

theorem vp8_reads {size chunk width height horizontal vertical : Nat} {tag rest : Bytes}
    (wellFormed : (vp8 size chunk tag width height horizontal vertical rest).WellFormed) :
    (vp8 size chunk tag width height horizontal vertical rest).Reads := by
  obtain ⟨three, narrow, low, scaled, scaled'⟩ := wellFormed
  obtain ⟨first, second, third, rfl⟩ := List.length_eq_three.mp three
  have four : (ascii "VP8 ").length = 4 := by decide
  have plain : (ascii "VP8 ").map (· &&& 0x7f) = ascii "VP8 " := by decide
  have other : ascii "VP8 " ≠ ascii "VP8X" := by decide
  have masked {number high : Nat} (fits : number < 16384) (small : high < 4) :
      ((number + 16384 * high) % 256 + (number + 16384 * high) / 256 % 256 * 256) &&& 0x3fff =
        number := by
    rw [show 0x3fff = 2 ^ 14 - 1 from rfl, Nat.and_two_pow_sub_one_eq_mod]
    omega
  refine ⟨sniffMime_riff four, (readDimensions_webp _).trans ?_⟩
  change readWebp (riff size "VP8 " chunk ++ _) = _
  rw [readWebp_eq (by simp [length_riff four, littleEndian_two]; omega), spells_chunk four plain,
    spells_chunk four plain]
  simp [value_riff four, littleEndian_two, other, masked narrow scaled, masked low scaled',
    dimensions]

theorem high_bits (number : Nat) :
    number / 16777216 % 256 % 16 * 1024 + number / 65536 % 256 * 4 + number / 256 % 256 / 64 =
      number / 16384 % 16384 := by
  have last : number / 256 % 256 / 64 = number / 16384 % 4 := by omega
  rw [show number / 16777216 = number / 16384 / 1024 by rw [Nat.div_div_eq_div_mul],
    show number / 65536 = number / 16384 / 4 by rw [Nat.div_div_eq_div_mul], last]
  generalize number / 16384 = high
  omega

/-- The fields of a lossless header, put together from its bytes. -/
theorem lossless_fields {number first second third : Nat} (narrow : first < 16384)
    (low : second < 16384) (packed : number = first + 16384 * second + 268435456 * third) :
    number / 256 % 256 % 64 * 256 + number % 256 = first ∧
      number / 16777216 % 256 % 16 * 1024 + number / 65536 % 256 * 4 + number / 256 % 256 / 64 =
        second := by
  have width : number / 256 % 256 % 64 * 256 + number % 256 = number % 16384 := by
    clear packed
    omega
  rw [width, high_bits]
  omega

/-- The header of a lossless file ends before the length that the reader asks for. -/
theorem vp8l_reads {size chunk width height hint : Nat} {rest : Bytes}
    (wellFormed : (vp8l size chunk width height hint rest).WellFormed) :
    (vp8l size chunk width height hint rest).Reads ↔
      (vp8l size chunk width height hint rest).Plain := by
  obtain ⟨positive, narrow, positive', low, hinted⟩ := wellFormed
  have four : (ascii "VP8L").length = 4 := by decide
  have plain : (ascii "VP8L").map (· &&& 0x7f) = ascii "VP8L" := by decide
  have notVp8x : ascii "VP8L" ≠ ascii "VP8X" := by decide
  have notVp8 : ascii "VP8L" ≠ ascii "VP8 " := by decide
  have length : (vp8l size chunk width height hint rest).encode.length = 25 + rest.length := by
    simp [encode, length_riff four, littleEndian_four]
    omega
  constructor
  · rintro ⟨-, read⟩
    by_contra short
    have brief : ¬30 ≤ (vp8l size chunk width height hint rest).encode.length := by
      rw [length]
      change ¬5 ≤ rest.length at short
      omega
    change readDimensions _ "image/webp" = _ at read
    rw [readDimensions_webp] at read
    simp [readWebp, brief] at read
  · intro long
    change 5 ≤ rest.length at long
    refine ⟨sniffMime_riff four, (readDimensions_webp _).trans ?_⟩
    rw [readWebp_eq (by omega)]
    change Except.ok (if spells (riff size "VP8L" chunk ++ _) 12 16 "VP8X" then _ else
      if spells (riff size "VP8L" chunk ++ _) 12 16 "VP8 " then _ else
      if spells (riff size "VP8L" chunk ++ _) 12 16 "VP8L" then _ else _) = _
    rw [spells_chunk four plain, spells_chunk four plain, spells_chunk four plain]
    obtain ⟨widthBits, heightBits⟩ := @lossless_fields _ (width - 1) (height - 1) hint
      (by omega) (by omega) rfl
    have isByte (number : Nat) : number % 256 < 256 := Nat.mod_lt _ (by decide)
    simp only [encode, value_riff four, littleEndian_four, notVp8x, notVp8, Nat.reduceLeDiff,
      Nat.reduceSub, List.cons_append, List.nil_append, value_succ, value_zero, toNat_byte,
      lossless_width (isByte _), lossless_height (isByte _) (isByte _), widthBits, heightBits]
    simp [dimensions]
    omega

/-- The canvas of an extended file. -/
theorem vp8x_reads {size width height : Nat} {flags rest : Bytes}
    (wellFormed : (vp8x size flags width height rest).WellFormed) :
    (vp8x size flags width height rest).Reads := by
  obtain ⟨four', positive, narrow, positive', low⟩ := wellFormed
  obtain ⟨first, second, third, fourth, rfl⟩ := List.length_eq_four.mp four'
  have four : (ascii "VP8X").length = 4 := by decide
  have plain : (ascii "VP8X").map (· &&& 0x7f) = ascii "VP8X" := by decide
  have joined {number : Nat} (positive : 0 < number) (fits : number ≤ 16777216) :
      1 + ((number - 1) % 256 + (number - 1) / 256 % 256 * 256 +
        (number - 1) / 65536 % 256 * 65536) = number := by
    omega
  refine ⟨sniffMime_riff four, (readDimensions_webp _).trans ?_⟩
  change readWebp (riff size "VP8X" 10 ++ _) = _
  rw [readWebp_eq (by simp [length_riff four, littleEndian_three]; omega),
    spells_chunk four plain]
  simp [value_riff four, littleEndian_three, joined positive narrow, joined positive' low,
    dimensions]

theorem reads_of_plain {image : Image} (wellFormed : image.WellFormed) (plain : image.Plain) :
    image.Reads := by
  cases image with
  | jpeg => exact jpeg_reads wellFormed plain
  | png => exact png_reads wellFormed
  | vp8 => exact vp8_reads wellFormed
  | vp8l => exact (vp8l_reads wellFormed).mpr plain
  | vp8x => exact vp8x_reads wellFormed

end Image

/-! ### The type of an accepted upload -/

/-- The file begins with the signature of the type. -/
def HasSignature (buf : Bytes) (mime : String) : Prop :=
  (mime = "image/jpeg" → [0xff, 0xd8, 0xff] <+: buf) ∧ (mime = "image/png" → pngSignature <+: buf) ∧
    (mime = "image/webp" → buf.take 4 = ascii "RIFF" ∧ (buf.take 12).drop 8 = ascii "WEBP")

/-- The two names of a RIFF file are ASCII. -/
def HasPlainNames (buf : Bytes) : Prop :=
  ∀ byte ∈ buf.take 4 ++ (buf.take 12).drop 8, byte &&& 0x7f = byte

theorem eq_of_masked {bytes : Bytes} {text : String}
    (plain : ∀ byte ∈ bytes, byte &&& 0x7f = byte) (spelled : bytes.map (· &&& 0x7f) = ascii text) :
    bytes = ascii text := by
  rw [← spelled]
  exact (List.map_congr_left plain |>.trans (List.map_id bytes)).symm

theorem sniffMime_of_valid {buf : Bytes} {declaredType : String} {dimensions : Dimensions}
    (accepted : validateUpload buf declaredType = .ok (.valid dimensions)) :
    sniffMime buf = some (normalizeDeclaredMime declaredType) := by
  by_contra differs
  simp only [validateUpload, ne_eq, differs, not_false_eq_true, if_true] at accepted
  split_ifs at accepted <;> cases accepted

theorem signature_of_sniffMime {buf : Bytes} {mime : String} (sniffed : sniffMime buf = some mime) :
    ∃ sniff, (mime, sniff) ∈ magicBytes ∧ sniff buf = true := by
  obtain ⟨candidate, found, rfl⟩ := Option.map_eq_some_iff.mp sniffed
  have sniffs := List.find?_some found
  exact ⟨candidate.2, List.mem_of_find?_eq_some found, sniffs⟩

/-- The names of a RIFF file are compared without their highest bits. -/
theorem hasSignature_iff {buf : Bytes} {mime : String} (sniffed : sniffMime buf = some mime) :
    HasSignature buf mime ↔ (mime = "image/webp" → HasPlainNames buf) := by
  obtain ⟨sniff, listed, sniffs⟩ := signature_of_sniffMime sniffed
  simp only [magicBytes, List.mem_cons, Prod.mk.injEq, List.not_mem_nil, or_false] at listed
  rcases listed with ⟨rfl, rfl⟩ | ⟨rfl, rfl⟩ | ⟨rfl, rfl⟩
  · simp only [Bool.and_eq_true, decide_eq_true_eq] at sniffs
    obtain ⟨⟨⟨long, first⟩, second⟩, third⟩ := sniffs
    rcases buf with _ | ⟨byte, _ | ⟨byte', _ | ⟨byte'', rest⟩⟩⟩ <;>
      simp_all [HasSignature]
  · simp only [Bool.and_eq_true, decide_eq_true_eq] at sniffs
    simp [HasSignature, ← sniffs.2, List.take_prefix]
  · simp only [Bool.and_eq_true, decide_eq_true_eq, spells, List.drop_zero] at sniffs
    obtain ⟨⟨long, container⟩, form⟩ := sniffs
    constructor
    · rintro ⟨-, -, exact⟩ - byte member
      obtain ⟨first, second⟩ := exact rfl
      rw [first, second] at member
      have every : ((ascii "RIFF" ++ ascii "WEBP").all fun byte => byte &&& 0x7f == byte) = true := by
        decide
      exact eq_of_beq (List.all_eq_true.mp every byte member)
    · intro plain
      refine ⟨fun same => absurd same (by decide), fun same => absurd same (by decide),
        fun same => ⟨?_, ?_⟩⟩
      · exact eq_of_masked (fun byte member => plain rfl byte (List.mem_append_left _ member))
          container
      · exact eq_of_masked (fun byte member => plain rfl byte (List.mem_append_right _ member))
          form

/-- Every read stays inside the file. Files without fill bytes, without the marker 0x01 and, if they
are lossless, with 30 bytes, are read right; the other lossless files are not. An accepted file has
the signature of its type exactly when, for WebP, the two names are ASCII. -/
theorem uploads_read_right (buf : Bytes) (mime declaredType : String) (image : Image) :
    (∃ dimensions, readDimensions buf mime = .ok dimensions) ∧
    (image.WellFormed → image.Plain → image.Reads) ∧
    (image.WellFormed → image.mime ≠ "image/jpeg" → (image.Reads ↔ image.Plain)) ∧
    ∀ dimensions, validateUpload buf declaredType = .ok (.valid dimensions) →
      (HasSignature buf (normalizeDeclaredMime declaredType) ↔
        (normalizeDeclaredMime declaredType = "image/webp" → HasPlainNames buf)) := by
  refine ⟨readDimensions_safe buf mime,
    fun wellFormed plain => Image.reads_of_plain wellFormed plain, fun wellFormed notJpeg => ?_,
    fun dimensions accepted => hasSignature_iff (sniffMime_of_valid accepted)⟩
  refine ⟨fun reads => ?_, Image.reads_of_plain wellFormed⟩
  cases image with
  | jpeg => exact absurd rfl notJpeg
  | png | vp8 | vp8x => trivial
  | vp8l => exact (Image.vp8l_reads wellFormed).mp reads

/-- An extended WebP file of 640 by 480 pixels. -/
theorem extended_file_reads :
    (Image.vp8x 22 [0, 0, 0, 0] 640 480 []).WellFormed ∧
      (Image.vp8x 22 [0, 0, 0, 0] 640 480 []).Reads :=
  have wellFormed : (Image.vp8x 22 [0, 0, 0, 0] 640 480 []).WellFormed := by
    simp [Image.WellFormed]
  ⟨wellFormed, (uploads_read_right [] "" "" _).2.1 wellFormed trivial⟩

/-- One pixel, with a fill byte before the frame header. -/
def filled : Image := .jpeg [] 1 0xc0 11 8 1 1 [1, 1, 17, 0]

/-- The fill byte is taken for a marker, and the two bytes behind it for a length. -/
theorem filled_file_is_not_read : filled.WellFormed ∧ ¬filled.Reads := by
  refine ⟨by simp [filled, Image.WellFormed, isFrameHeader], ?_⟩
  rintro ⟨-, read⟩
  have skipped : scanSegments filled.encode 2 = .ok none := by
    have first : value filled.encode 2 = 0xff := by decide
    have second : value filled.encode (2 + 1) = 0xff := by decide
    rw [scanSegments_eq (by decide), first, second, if_neg (by decide), if_neg (by decide),
      if_neg (by decide), scanSegments, if_neg (by decide)]
  change scanSegments _ 2 = _ at read
  rw [skipped] at read
  cases read

end MarketMind.Content.ImageSniffing
