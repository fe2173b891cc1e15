import Mathlib.Data.List.Basic
import Mathlib.Tactic.Ring

/-!
Owns the `ustar` format: a reader of archives, the header that a writer fills field by field, and
that what is written is read back.

Does not own what the entries of an archive are.
-/

namespace MarketMind.Publishing.Tar

abbrev Bytes := List UInt8

/-! ### Buffers -/

/-- `Buffer.alloc(length, 0)` -/
def alloc (length : Nat) : Bytes := List.replicate length 0

/-- The buffer with other bytes from an offset on. -/
def copyAt (target : Bytes) (offset : Nat) (bytes : Bytes) : Bytes :=
  target.take offset ++ bytes ++ target.drop (offset + bytes.length)

def slice (bytes : Bytes) (offset length : Nat) : Bytes := (bytes.drop offset).take length

section Buffers

variable {target bytes others : Bytes} {offset start length : Nat}

@[simp] theorem length_alloc : (alloc length).length = length := List.length_replicate

theorem getElem?_slice (place : Nat) :
    (slice bytes offset length)[place]? =
      if place < length then bytes[offset + place]? else none := by
  rw [slice, List.getElem?_take, List.getElem?_drop]

theorem getElem?_copyAt (fits : offset + bytes.length ≤ target.length) (place : Nat) :
    (copyAt target offset bytes)[place]? =
      if offset ≤ place ∧ place < offset + bytes.length then bytes[place - offset]?
      else target[place]? := by
  have taken : (target.take offset).length = offset := by
    rw [List.length_take]
    omega
  rw [copyAt, List.append_assoc, List.getElem?_append, taken]
  split
  · rw [if_neg (by omega), List.getElem?_take, if_pos (by assumption)]
  · rw [List.getElem?_append]
    split
    · rw [if_pos (by omega)]
    · rw [if_neg (by omega), List.getElem?_drop]
      congr 1
      omega

theorem length_copyAt (fits : offset + bytes.length ≤ target.length) :
    (copyAt target offset bytes).length = target.length := by
  simp only [copyAt, List.length_append, List.length_take, List.length_drop]
  omega

theorem slice_copyAt (fits : offset + bytes.length ≤ target.length) :
    slice (copyAt target offset bytes) offset bytes.length = bytes := by
  refine List.ext_getElem? fun place => ?_
  rw [getElem?_slice, getElem?_copyAt fits]
  split
  · rw [if_pos (by omega), Nat.add_sub_cancel_left]
  · rw [List.getElem?_eq_none (by omega)]

/-- A field keeps its bytes when another is written. -/
theorem slice_copyAt_of_disjoint (fits : offset + bytes.length ≤ target.length)
    (disjoint : start + length ≤ offset ∨ offset + bytes.length ≤ start) :
    slice (copyAt target offset bytes) start length = slice target start length := by
  refine List.ext_getElem? fun place => ?_
  rw [getElem?_slice, getElem?_slice, getElem?_copyAt fits]
  split
  · rw [if_neg (by omega)]
  · rfl

/-- Two pieces that follow each other are one. -/
theorem copyAt_copyAt (fits : offset + bytes.length + others.length ≤ target.length) :
    copyAt (copyAt target offset bytes) (offset + bytes.length) others =
      copyAt target offset (bytes ++ others) := by
  have first : offset + bytes.length ≤ target.length := by omega
  have second : offset + bytes.length + others.length ≤ (copyAt target offset bytes).length := by
    rwa [length_copyAt first]
  have both : offset + (bytes ++ others).length ≤ target.length := by
    rw [List.length_append]
    omega
  refine List.ext_getElem? fun place => ?_
  rw [getElem?_copyAt second, getElem?_copyAt first, getElem?_copyAt both, List.length_append,
    List.getElem?_append]
  split
  · rw [if_pos (by omega), if_neg (by omega)]
    congr 1
    omega
  · split
    · rw [if_pos (by omega), if_pos (by omega)]
    · rw [if_neg (by omega)]

/-- What is written over is forgotten. -/
theorem copyAt_over (fits : offset + bytes.length ≤ target.length)
    (same : bytes.length = others.length) :
    copyAt (copyAt target offset bytes) offset others = copyAt target offset others := by
  refine List.ext_getElem? fun place => ?_
  rw [getElem?_copyAt (by rw [length_copyAt fits]; omega), getElem?_copyAt fits,
    getElem?_copyAt (by omega)]
  split
  · rfl
  · rw [if_neg (by omega)]

theorem copyAt_slice (fits : offset + bytes.length ≤ target.length)
    (same : slice target offset bytes.length = bytes) : copyAt target offset bytes = target := by
  refine List.ext_getElem? fun place => ?_
  rw [getElem?_copyAt fits]
  split
  · have known := congrArg (fun list => list[place - offset]?) same
    simp only [getElem?_slice] at known
    rw [if_pos (by omega), Nat.add_sub_cancel' (by omega)] at known
    exact known.symm
  · rfl

end Buffers

/-! ### Octal fields -/

/-- `value.toString(8)` -/
def octal (value : Int) : Bytes :=
  (if value < 0 then [45] else []) ++
    (Nat.toDigits 8 value.natAbs).map fun digit => digit.toNat.toUInt8

/-- `text.padStart(length, "0")` -/
def padStart (length : Nat) (text : Bytes) : Bytes :=
  List.replicate (length - text.length) 48 ++ text

def isOctalDigit (byte : UInt8) : Bool := 48 ≤ byte && byte ≤ 55

def octalValue (digits : Bytes) : Nat :=
  digits.foldl (fun value digit => 8 * value + (digit.toNat - 48)) 0

/-- Digits up to a zero byte or a space. -/
def readOctal (field : Bytes) : Option Nat :=
  let digits := field.takeWhile isOctalDigit
  let rest := field.drop digits.length
  if digits ≠ [] ∧ (rest.head? = some 0 ∨ rest.head? = some 32) then some (octalValue digits)
  else none

theorem octalValue_append (left : Bytes) (digit : UInt8) :
    octalValue (left ++ [digit]) = 8 * octalValue left + (digit.toNat - 48) := by
  simp [octalValue]

theorem octalValue_padStart (length : Nat) (text : Bytes) :
    octalValue (padStart length text) = octalValue text := by
  have zeros (count : Nat) : octalValue (List.replicate count 48 ++ text) = octalValue text := by
    induction count with
    | zero => rfl
    | succ count inductionHypothesis =>
        rw [List.replicate_succ, List.cons_append]
        exact inductionHypothesis
  exact zeros _

/-- The digits of a number: they stand for it, and are no more than it needs. -/
theorem octal_digits (value : Nat) :
    (∀ byte ∈ octal value, isOctalDigit byte) ∧ octalValue (octal value) = value ∧
      ∀ length, 0 < length → value < 8 ^ length → (octal value).length ≤ length := by
  have unsigned (value : Nat) : octal value =
      (Nat.toDigits 8 value).map fun digit => digit.toNat.toUInt8 := by
    rw [octal, if_neg (by omega), List.nil_append, Int.natAbs_natCast]
  have single : ∀ digit < 8, isOctalDigit (Nat.digitChar digit).toNat.toUInt8 ∧
      (Nat.digitChar digit).toNat.toUInt8.toNat - 48 = digit := by decide
  induction value using Nat.strong_induction_on with
  | _ value inductionHypothesis =>
      rcases Nat.lt_or_ge value 8 with small | large
      · obtain ⟨isDigit, stands⟩ := single value small
        rw [unsigned, Nat.toDigits_of_lt_base small]
        refine ⟨?_, ?_, fun length positive _ => positive⟩
        · intro byte member
          rw [List.mem_singleton.mp member]
          exact isDigit
        · rw [List.map_singleton, ← List.nil_append [_], octalValue_append, stands]
          exact Nat.zero_add value
      · obtain ⟨digits, stands, short⟩ := inductionHypothesis (value / 8) (by omega)
        obtain ⟨isDigit, standsLast⟩ := single (value % 8) (by omega)
        have split : octal value =
            octal (value / 8 : Nat) ++ [(Nat.digitChar (value % 8)).toNat.toUInt8] := by
          rw [unsigned, unsigned, Nat.toDigits_of_base_le (by decide) large, List.map_append]
          rfl
        rw [split]
        refine ⟨?_, ?_, ?_⟩
        · intro byte member
          rcases List.mem_append.mp member with before | last
          · exact digits byte before
          · rw [List.mem_singleton.mp last]
            exact isDigit
        · rw [octalValue_append, stands, standsLast]
          omega
        · intro length positive bounded
          obtain ⟨less, rfl⟩ := Nat.exists_eq_succ_of_ne_zero (by omega : length ≠ 0)
          rw [Nat.succ_eq_add_one, pow_succ] at bounded
          rcases Nat.eq_zero_or_pos less with rfl | further
          · omega
          · have shorter := short less further (by omega)
            rw [List.length_append, List.length_singleton]
            omega

section Fields

variable {value length : Nat}

theorem length_padStart (positive : 0 < length) (bounded : value < 8 ^ length) :
    (padStart length (octal value)).length = length := by
  have short := (octal_digits value).2.2 length positive bounded
  rw [padStart, List.length_append, List.length_replicate]
  omega

theorem readOctal_padStart (positive : 0 < length) (bounded : value < 8 ^ length) {stop : UInt8}
    (stops : stop = 0 ∨ stop = 32) (rest : Bytes) :
    readOctal (padStart length (octal value) ++ stop :: rest) = some value := by
  have isDigit : ∀ byte ∈ padStart length (octal value), isOctalDigit byte := by
    intro byte member
    rcases List.mem_append.mp member with zero | digit
    · rw [List.eq_of_mem_replicate zero]
      decide
    · exact (octal_digits value).1 byte digit
  have taken : (padStart length (octal value) ++ stop :: rest).takeWhile isOctalDigit =
      padStart length (octal value) := by
    rw [List.takeWhile_append_of_pos isDigit, List.takeWhile_cons_of_neg, List.append_nil]
    rcases stops with rfl | rfl <;> decide
  have filled : padStart length (octal value) ≠ [] := by
    intro empty
    have lengths := length_padStart positive bounded
    rw [empty] at lengths
    exact absurd lengths (by simp; omega)
  have ends : (stop :: rest).head? = some 0 ∨ (stop :: rest).head? = some 32 :=
    stops.imp (congrArg some) (congrArg some)
  rw [readOctal, taken, List.drop_left, if_pos ⟨filled, ends⟩, octalValue_padStart,
    (octal_digits value).2.1]

end Fields

/-! ### Headers -/

def sum (bytes : Bytes) : Nat := (bytes.map UInt8.toNat).sum

/-- What the field of the checksum holds while it is counted. -/
def spaces : Bytes := List.replicate 8 32

theorem length_spaces : spaces.length = 8 := List.length_replicate

theorem sum_le (bytes : Bytes) : sum bytes ≤ 255 * bytes.length := by
  induction bytes with
  | nil => exact le_refl 0
  | cons byte rest inductionHypothesis =>
      have isByte := byte.toNat_lt
      rw [sum, List.map_cons, List.sum_cons, List.length_cons]
      rw [sum] at inductionHypothesis
      omega

/-- What a reader takes from a header. -/
structure Header where
  name : Bytes
  size : Nat
  mtime : Nat
deriving DecidableEq, Repr

/-- The checksum counts its own field as spaces. -/
def readHeader (block : Bytes) : Option Header := do
  let _mode ← readOctal (slice block 100 8)
  let _uid ← readOctal (slice block 108 8)
  let _gid ← readOctal (slice block 116 8)
  let size ← readOctal (slice block 124 12)
  let mtime ← readOctal (slice block 136 12)
  let checksum ← readOctal (slice block 148 8)
  if block.length = 512 ∧ checksum = sum (copyAt block 148 spaces) ∧
      slice block 156 1 = [48] ∧ slice block 257 6 = [117, 115, 116, 97, 114, 0] ∧
      slice block 263 2 = [48, 48] then
    some ⟨(slice block 0 100).takeWhile (· ≠ 0), size, mtime⟩
  else none

/-- The zeros that fill a block. -/
def padding (size : Nat) : Nat := (512 - size % 512) % 512

/-- The files of an archive, up to two zero blocks. -/
def readBlocks (blocks : Nat) (bytes : Bytes) : Option (List (Bytes × Bytes)) :=
  match blocks with
  | 0 => none
  | blocks + 1 =>
      if bytes.take 1024 = alloc 1024 then some []
      else do
        let header ← readHeader (bytes.take 512)
        let contents := slice bytes 512 header.size
        if contents.length = header.size then
          let others ← readBlocks blocks (bytes.drop (512 + header.size + padding header.size))
          some ((header.name, contents) :: others)
        else none

def readTar (bytes : Bytes) : Option (List (Bytes × Bytes)) :=
  readBlocks (bytes.length / 512) bytes

def writeTarOctal (target : Bytes) (offset length : Nat) (value : Int) : Bytes :=
  copyAt (copyAt target offset ((padStart (length - 1) (octal value)).take (length - 1)))
    (offset + length - 1) [0]

/-- A header whose checksum is all spaces. -/
def blankHeader (name : Bytes) (size : Nat) (mtime : Int) : Bytes :=
  let header := copyAt (alloc 512) 0 name
  let header := writeTarOctal header 100 8 0o644
  let header := writeTarOctal header 108 8 0
  let header := writeTarOctal header 116 8 0
  let header := writeTarOctal header 124 12 size
  let header := writeTarOctal header 136 12 mtime
  let header := copyAt header 148 spaces
  let header := copyAt header 156 [48]
  let header := copyAt header 257 [117, 115, 116, 97, 114, 0]
  copyAt header 263 [48, 48]

def header (name : Bytes) (size : Nat) (mtime : Int) : Bytes :=
  let header := blankHeader name size mtime
  let checksum := sum header
  let header := copyAt header 148 ((padStart 6 (octal checksum)).take 6)
  let header := copyAt header 154 [0]
  copyAt header 155 [32]

/-- A field of a number: its digits and a zero byte. -/
def octalField (length value : Nat) : Bytes := padStart (length - 1) (octal value) ++ [0]

section Writing

variable {target : Bytes} {offset length value : Nat}

theorem length_octalField (positive : 1 < length) (bounded : value < 8 ^ (length - 1)) :
    (octalField length value).length = length := by
  rw [octalField, List.length_append, length_padStart (by omega) bounded, List.length_singleton]
  omega

theorem writeTarOctal_eq (positive : 1 < length) (bounded : value < 8 ^ (length - 1))
    (fits : offset + length ≤ target.length) :
    writeTarOctal target offset length value = copyAt target offset (octalField length value) := by
  have digits : (padStart (length - 1) (octal value)).length = length - 1 :=
    length_padStart (by omega) bounded
  have together : copyAt (copyAt target offset (padStart (length - 1) (octal value)))
      (offset + (padStart (length - 1) (octal value)).length) [0] =
        copyAt target offset (octalField length value) :=
    copyAt_copyAt (by rw [digits, List.length_singleton]; omega)
  rw [digits] at together
  rw [writeTarOctal, List.take_of_length_le digits.le, Nat.add_sub_assoc (by omega), together]

theorem readOctal_octalField (positive : 1 < length) (bounded : value < 8 ^ (length - 1)) :
    readOctal (octalField length value) = some value :=
  readOctal_padStart (by omega) bounded (.inl rfl) []

/-! ### Writes that do not overlap -/

/-- The buffer after writes at offsets. -/
def writeAll (target : Bytes) (writes : List (Nat × Bytes)) : Bytes :=
  writes.foldl (fun target write => copyAt target write.1 write.2) target

variable {writes : List (Nat × Bytes)}

theorem length_writeAll (fits : ∀ write ∈ writes, write.1 + write.2.length ≤ target.length) :
    (writeAll target writes).length = target.length := by
  induction writes generalizing target with
  | nil => rfl
  | cons write rest inductionHypothesis =>
      have same := length_copyAt (fits write List.mem_cons_self)
      refine (inductionHypothesis fun other member => ?_).trans same
      rw [same]
      exact fits other (List.mem_cons_of_mem write member)

theorem slice_writeAll_of_disjoint
    (fits : ∀ write ∈ writes, write.1 + write.2.length ≤ target.length)
    (disjoint : ∀ write ∈ writes, offset + length ≤ write.1 ∨ write.1 + write.2.length ≤ offset) :
    slice (writeAll target writes) offset length = slice target offset length := by
  induction writes generalizing target with
  | nil => rfl
  | cons write rest inductionHypothesis =>
      have first := fits write List.mem_cons_self
      refine (inductionHypothesis (fun other member => ?_) fun other member =>
        disjoint other (List.mem_cons_of_mem write member)).trans
        (slice_copyAt_of_disjoint first (disjoint write List.mem_cons_self))
      rw [length_copyAt first]
      exact fits other (List.mem_cons_of_mem write member)

/-- Each of the writes is found in the end. -/
theorem slice_writeAll (fits : ∀ write ∈ writes, write.1 + write.2.length ≤ target.length)
    (ordered : writes.Pairwise fun left right => left.1 + left.2.length ≤ right.1)
    {write : Nat × Bytes} (member : write ∈ writes) :
    slice (writeAll target writes) write.1 write.2.length = write.2 := by
  induction writes generalizing target with
  | nil => cases member
  | cons head rest inductionHypothesis =>
      obtain ⟨before, ordered⟩ := List.pairwise_cons.mp ordered
      have first := fits head List.mem_cons_self
      have further : ∀ other ∈ rest,
          other.1 + other.2.length ≤ (copyAt target head.1 head.2).length := by
        intro other later
        rw [length_copyAt first]
        exact fits other (List.mem_cons_of_mem head later)
      rcases List.mem_cons.mp member with rfl | later
      · exact (slice_writeAll_of_disjoint further fun other later =>
          .inl (before other later)).trans (slice_copyAt first)
      · exact inductionHypothesis further ordered later

end Writing

/-! ### A header is read back -/

section Headers

variable {name : Bytes} {size mtime : Nat}

/-- The name with the zeros that fill its field. -/
def nameField (name : Bytes) : Bytes := name ++ alloc (100 - name.length)

/-- The fields before the checksum. -/
def earlyFields (name : Bytes) (size mtime : Nat) : List (Nat × Bytes) :=
  [(0, nameField name), (100, octalField 8 0o644), (108, octalField 8 0), (116, octalField 8 0),
    (124, octalField 12 size), (136, octalField 12 mtime)]

def lateFields : List (Nat × Bytes) :=
  [(156, [48]), (257, [117, 115, 116, 97, 114, 0]), (263, [48, 48])]

/-- The fields of a header in their order. -/
def fields (name : Bytes) (size mtime : Nat) (checksum : Bytes) : List (Nat × Bytes) :=
  earlyFields name size mtime ++ (148, checksum) :: lateFields

theorem length_nameField (short : name.length ≤ 100) : (nameField name).length = 100 := by
  rw [nameField, List.length_append, length_alloc]
  omega

theorem copyAt_nameField (short : name.length ≤ 100) :
    copyAt (alloc 512) 0 (nameField name) = copyAt (alloc 512) 0 name := by
  have fits : 0 + name.length ≤ (alloc 512).length := by
    rw [length_alloc]
    omega
  have zeros : slice (copyAt (alloc 512) 0 name) (0 + name.length)
      (alloc (100 - name.length)).length = alloc (100 - name.length) := by
    rw [slice_copyAt_of_disjoint fits (.inr (le_refl _)), length_alloc, slice, alloc,
      List.drop_replicate, List.take_replicate, alloc]
    congr 1
    omega
  rw [nameField, ← copyAt_copyAt (by rw [length_alloc, length_alloc]; omega),
    copyAt_slice (by rw [length_copyAt fits, length_alloc, length_alloc]; omega) zeros]

theorem fields_fit (short : name.length ≤ 100) (sized : size < 8 ^ 11) (timed : mtime < 8 ^ 11)
    {checksum : Bytes} (eight : checksum.length = 8) :
    (∀ write ∈ fields name size mtime checksum, write.1 + write.2.length ≤ (alloc 512).length) ∧
    (fields name size mtime checksum).Pairwise fun left right =>
      left.1 + left.2.length ≤ right.1 := by
  have mode : (octalField 8 0o644).length = 8 := by decide
  have zero : (octalField 8 0).length = 8 := by decide
  have sizeLength : (octalField 12 size).length = 12 := length_octalField (by decide) sized
  have timeLength : (octalField 12 mtime).length = 12 := length_octalField (by decide) timed
  constructor
  · simp [fields, earlyFields, lateFields, length_nameField short, mode, zero, sizeLength,
      timeLength, eight]
  · simp [fields, earlyFields, lateFields, length_nameField short, mode, zero, sizeLength,
      timeLength, eight]

theorem blankHeader_eq (short : name.length ≤ 100) (sized : size < 8 ^ 11)
    (timed : mtime < 8 ^ 11) : blankHeader name size mtime =
      writeAll (alloc 512) (fields name size mtime spaces) := by
  have named : (copyAt (alloc 512) 0 name).length = 512 := by
    rw [length_copyAt] <;> rw [length_alloc]
    omega
  have write {target : Bytes} (whole : target.length = 512) (offset : Nat) {length value : Nat}
      (positive : 1 < length) (bounded : value < 8 ^ (length - 1)) (fits : offset + length ≤ 512) :
      writeTarOctal target offset length value = copyAt target offset (octalField length value) ∧
        (copyAt target offset (octalField length value)).length = 512 := by
    refine ⟨writeTarOctal_eq positive bounded (by omega), ?_⟩
    rw [length_copyAt (by rw [length_octalField positive bounded]; omega), whole]
  obtain ⟨mode, modeLength⟩ := write named 100 (show 1 < 8 by decide)
    (show 0o644 < 8 ^ (8 - 1) by decide) (by decide)
  obtain ⟨uid, uidLength⟩ := write modeLength 108 (show 1 < 8 by decide)
    (show 0 < 8 ^ (8 - 1) by decide) (by decide)
  obtain ⟨gid, gidLength⟩ := write uidLength 116 (show 1 < 8 by decide)
    (show 0 < 8 ^ (8 - 1) by decide) (by decide)
  obtain ⟨sized, sizeLength⟩ := write gidLength 124 (show 1 < 12 by decide) sized (by decide)
  obtain ⟨timed, -⟩ := write sizeLength 136 (show 1 < 12 by decide) timed (by decide)
  unfold blankHeader
  dsimp only
  rw [show (0o644 : Int) = ((0o644 : Nat) : Int) from rfl,
    show (0 : Int) = ((0 : Nat) : Int) from rfl, mode, uid, gid, sized, timed, ← copyAt_nameField short]
  rfl

/-- The header is the blank one with its checksum. -/
theorem header_eq (short : name.length ≤ 100) (sized : size < 8 ^ 11) (timed : mtime < 8 ^ 11) :
    ∃ checksum, sum (blankHeader name size mtime) = checksum ∧ checksum < 8 ^ 6 ∧
      header name size mtime = copyAt (blankHeader name size mtime) 148
        (padStart 6 (octal checksum) ++ [0, 32]) := by
  have whole : (blankHeader name size mtime).length = 512 := by
    rw [blankHeader_eq short sized timed,
      length_writeAll (fields_fit short sized timed length_spaces).1, length_alloc]
  have bounded : sum (blankHeader name size mtime) < 8 ^ 6 := by
    have atMost := sum_le (blankHeader name size mtime)
    rw [whole] at atMost
    exact lt_of_le_of_lt atMost (by decide)
  refine ⟨_, rfl, bounded, ?_⟩
  have digits := length_padStart (show 0 < 6 by decide) bounded
  unfold header
  dsimp only
  rw [List.take_of_length_le digits.le]
  generalize padStart 6 (octal (sum (blankHeader name size mtime))) = text at digits
  have first : copyAt (copyAt (blankHeader name size mtime) 148 text) (148 + text.length) [0] =
      copyAt (blankHeader name size mtime) 148 (text ++ [0]) :=
    copyAt_copyAt (by rw [digits, whole]; decide)
  have second : copyAt (copyAt (blankHeader name size mtime) 148 (text ++ [0]))
      (148 + (text ++ [0]).length) [32] =
        copyAt (blankHeader name size mtime) 148 (text ++ [0] ++ [32]) :=
    copyAt_copyAt (by rw [List.length_append, digits, whole]; decide)
  rw [digits] at first
  rw [List.length_append, digits, List.length_singleton] at second
  rw [first, second, List.append_assoc]
  rfl

/-- A header, as a reader finds it. -/
structure IsSealed (header : Bytes) (name : Bytes) (size mtime checksum : Nat) : Prop where
  whole : header.length = 512
  field : ∀ write ∈ earlyFields name size mtime ++ lateFields,
    slice header write.1 write.2.length = write.2
  bounded : checksum < 8 ^ 6
  checksumField : slice header 148 8 = padStart 6 (octal checksum) ++ [0, 32]
  counted : checksum = sum (copyAt header 148 spaces)

theorem header_sealed (short : name.length ≤ 100) (sized : size < 8 ^ 11)
    (timed : mtime < 8 ^ 11) :
    ∃ checksum, IsSealed (header name size mtime) name size mtime checksum := by
  obtain ⟨checksum, counted, bounded, made⟩ := header_eq short sized timed
  have eight : (padStart 6 (octal checksum) ++ [0, 32]).length = 8 := by
    rw [List.length_append, length_padStart (by decide) bounded]
    rfl
  obtain ⟨fits, ordered⟩ := fields_fit short sized timed length_spaces
  have blank := blankHeader_eq short sized timed
  generalize blankHeader name size mtime = before at counted made blank
  generalize header name size mtime = sealed at made
  have whole : before.length = 512 := by
    rw [blank, length_writeAll fits, length_alloc]
  have found : ∀ write ∈ fields name size mtime spaces,
      slice before write.1 write.2.length = write.2 := by
    intro write member
    rw [blank]
    exact slice_writeAll fits ordered member
  have placed : 148 + (padStart 6 (octal checksum) ++ [0, 32]).length ≤ before.length := by omega
  obtain ⟨-, late, apart⟩ := List.pairwise_append.mp ordered
  have blanked : slice before 148 spaces.length = spaces :=
    found (148, spaces) (List.mem_append_right _ List.mem_cons_self)
  have text := slice_copyAt placed
  have erased : copyAt (copyAt before 148 (padStart 6 (octal checksum) ++ [0, 32])) 148 spaces =
      copyAt before 148 spaces := copyAt_over placed (eight.trans length_spaces.symm)
  have kept : copyAt before 148 spaces = before :=
    copyAt_slice (by rw [length_spaces, whole]; omega) blanked
  refine ⟨checksum, ?_, ?_, bounded, ?_, ?_⟩
  · rw [made, length_copyAt placed, whole]
  · intro write member
    have disjoint : write.1 + write.2.length ≤ 148 ∨
        148 + (padStart 6 (octal checksum) ++ [0, 32]).length ≤ write.1 := by
      rw [eight]
      rcases List.mem_append.mp member with early | isLate
      · exact .inl (apart write early (148, spaces) List.mem_cons_self)
      · exact .inr ((List.pairwise_cons.mp late).1 write isLate)
    rw [made, slice_copyAt_of_disjoint placed disjoint]
    refine found write (List.mem_append.mpr ?_)
    exact (List.mem_append.mp member).imp_right (List.mem_cons_of_mem _)
  · rw [eight] at text
    rw [made, text]
  · rw [made, erased, kept, counted]

theorem readHeader_header (short : name.length ≤ 100) (noZero : ∀ byte ∈ name, byte ≠ 0)
    (sized : size < 8 ^ 11) (timed : mtime < 8 ^ 11) :
    (header name size mtime).length = 512 ∧
      readHeader (header name size mtime) = some ⟨name, size, mtime⟩ := by
  obtain ⟨checksum, sealed⟩ := header_sealed short sized timed
  generalize header name size mtime = block at sealed
  have named : (nameField name).takeWhile (· ≠ 0) = name := by
    rw [nameField,
      List.takeWhile_append_of_pos fun byte member => decide_eq_true (noZero byte member)]
    cases 100 - name.length with
    | zero => exact List.append_nil name
    | succ more => exact List.append_nil name
  have field {offset length : Nat} {bytes : Bytes} (eq : bytes.length = length)
      (member : (offset, bytes) ∈ earlyFields name size mtime ++ lateFields) :
      slice block offset length = bytes := eq ▸ sealed.field (offset, bytes) member
  have mode : slice block 100 8 = octalField 8 0o644 := field (by decide) (by simp [earlyFields])
  have uid : slice block 108 8 = octalField 8 0 := field (by decide) (by simp [earlyFields])
  have gid : slice block 116 8 = octalField 8 0 := field (by decide) (by simp [earlyFields])
  have sizes : slice block 124 12 = octalField 12 size :=
    field (length_octalField (by decide) sized) (by simp [earlyFields])
  have times : slice block 136 12 = octalField 12 mtime :=
    field (length_octalField (by decide) timed) (by simp [earlyFields])
  have names : slice block 0 100 = nameField name :=
    field (length_nameField short) (by simp [earlyFields])
  have typeflag : slice block 156 1 = [48] := field rfl (by simp [lateFields])
  have magic : slice block 257 6 = [117, 115, 116, 97, 114, 0] := field rfl (by simp [lateFields])
  have version : slice block 263 2 = [48, 48] := field rfl (by simp [lateFields])
  refine ⟨sealed.whole, ?_⟩
  unfold readHeader
  rw [mode, uid, gid, sizes, times, sealed.checksumField,
    readOctal_octalField (by decide) (by decide), readOctal_octalField (by decide) (by decide),
    readOctal_octalField (by decide) sized, readOctal_octalField (by decide) timed,
    readOctal_padStart (by decide) sealed.bounded (.inl rfl)]
  simp only [Option.bind_eq_bind, Option.bind_some]
  rw [if_pos ⟨sealed.whole, sealed.counted, typeflag, magic, version⟩, names, named]

end Headers

/-! ### An archive is read back -/

section Archives

variable {mtime : Nat}

/-- A file of an archive, with its header and the zeros that fill its last block. -/
def block (mtime : Int) (file : Bytes × Bytes) : Bytes :=
  header file.1 file.2.length mtime ++ file.2 ++ alloc (padding file.2.length)

/-- The name fits into its field and ends with it, and the size fits into its own. -/
structure Fits (file : Bytes × Bytes) : Prop where
  short : file.1.length ≤ 100
  noZero : ∀ byte ∈ file.1, byte ≠ 0
  sized : file.2.length < 8 ^ 11

theorem readBlocks_block (timed : mtime < 8 ^ 11) {file : Bytes × Bytes} (fits : Fits file)
    (blocks : Nat) (rest : Bytes) :
    readBlocks (blocks + 1) (block mtime file ++ rest) =
      (readBlocks blocks rest).map (file :: ·) := by
  obtain ⟨whole, found⟩ := readHeader_header fits.short fits.noZero fits.sized timed
  have first : (block mtime file ++ rest).take 512 = header file.1 file.2.length mtime := by
    rw [block, List.append_assoc, List.append_assoc, List.take_left' whole]
  have filled : (block mtime file ++ rest).take 1024 ≠ alloc 1024 := by
    intro zeros
    have blank := congrArg (List.take 512) zeros
    rw [List.take_take, show min 512 1024 = 512 by decide, first] at blank
    rw [blank, show readHeader ((alloc 1024).take 512) = none by decide +kernel] at found
    cases found
  have contents : slice (block mtime file ++ rest) 512 file.2.length = file.2 := by
    rw [slice, block, List.append_assoc, List.append_assoc, List.drop_left' whole, List.take_left]
  have further : (block mtime file ++ rest).drop (512 + file.2.length + padding file.2.length) =
      rest := by
    refine List.drop_left' ?_
    rw [block, List.length_append, List.length_append, whole, length_alloc]
  rw [readBlocks, if_neg filled, first, found]
  simp only [Option.bind_eq_bind, Option.bind_some]
  rw [contents, if_pos rfl, further]
  cases readBlocks blocks rest <;> rfl

theorem readBlocks_archive (timed : mtime < 8 ^ 11) {files : List (Bytes × Bytes)}
    (fits : ∀ file ∈ files, Fits file) {blocks : Nat} (enough : files.length < blocks) :
    readBlocks blocks (files.flatMap (block mtime) ++ alloc 1024) = some files := by
  induction files generalizing blocks with
  | nil =>
      obtain ⟨less, rfl⟩ := Nat.exists_eq_succ_of_ne_zero (by omega : blocks ≠ 0)
      exact if_pos (List.take_of_length_le length_alloc.le)
  | cons file rest inductionHypothesis =>
      rw [List.length_cons] at enough
      obtain ⟨less, rfl⟩ := Nat.exists_eq_succ_of_ne_zero (by omega : blocks ≠ 0)
      rw [List.flatMap_cons, List.append_assoc, Nat.succ_eq_add_one,
        readBlocks_block timed (fits file List.mem_cons_self),
        inductionHypothesis (fun other member => fits other (List.mem_cons_of_mem file member))
          (by omega)]
      rfl

theorem length_block (timed : mtime < 8 ^ 11) {file : Bytes × Bytes} (fits : Fits file) :
    512 ≤ (block mtime file).length ∧ (block mtime file).length % 512 = 0 := by
  obtain ⟨whole, -⟩ := readHeader_header fits.short fits.noZero fits.sized timed
  rw [block, List.length_append, List.length_append, whole, length_alloc, padding]
  omega

/-- The files are read back as they are, and the archive consists of whole blocks. -/
theorem readTar_archive (timed : mtime < 8 ^ 11) {files : List (Bytes × Bytes)}
    (fits : ∀ file ∈ files, Fits file) :
    readTar (files.flatMap (block mtime) ++ alloc 1024) = some files ∧
      (files.flatMap (block mtime) ++ alloc 1024).length % 512 = 0 := by
  have blocks : 512 * files.length ≤ (files.flatMap (block mtime)).length ∧
      (files.flatMap (block mtime)).length % 512 = 0 := by
    induction files with
    | nil => exact ⟨le_refl 0, rfl⟩
    | cons file rest inductionHypothesis =>
        obtain ⟨enough, even⟩ := inductionHypothesis fun other member =>
          fits other (List.mem_cons_of_mem file member)
        obtain ⟨one, evenOne⟩ := length_block timed (fits file List.mem_cons_self)
        rw [List.flatMap_cons, List.length_append, List.length_cons]
        omega
  refine ⟨readBlocks_archive timed fits ?_, ?_⟩
  · rw [List.length_append, length_alloc]
    omega
  · rw [List.length_append, length_alloc]
    omega

end Archives

end MarketMind.Publishing.Tar
