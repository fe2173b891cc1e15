import Mathlib.Data.List.Basic
import Mathlib.Data.List.TakeWhile
import Mathlib.Tactic.IntervalCases

/-!
Owns the hosts of special URLs: the addresses and names a URL parser reads, how it writes
them back, and what the text it writes shows of them.

Does not own which hosts a provider can fetch from.
-/

namespace MarketMind.Publishing.Hosts

abbrev Text := List Char

/-! ### Addresses of version 6 -/

/-- The eight groups of an address. -/
structure Pieces where
  list : List Nat
  eight : list.length = 8
  below : ∀ piece ∈ list, piece < 65536

/-- The first longest run of zeros: where it starts, and its length. -/
def longestZeros : List Nat → Nat × Nat
  | [] => (0, 0)
  | piece :: pieces =>
      let here := ((piece :: pieces).takeWhile (· == 0)).length
      let later := longestZeros pieces
      if later.2 ≤ here then (0, here) else (later.1 + 1, later.2)

def groups (pieces : List Nat) : Text := [':'].intercalate (pieces.map (Nat.toDigits 16))

/-- The longest run of zeros is compressed when it has more than one. -/
def serializePieces (pieces : List Nat) : Text :=
  let (start, length) := longestZeros pieces
  if 1 < length then
    groups (pieces.take start) ++ ':' :: ':' :: groups (pieces.drop (start + length))
  else groups pieces

/-! ### Names -/

/-- Neither a code point that is forbidden in a domain nor one that its mapping to ASCII leaves
out. -/
def isDomainChar (char : Char) : Bool :=
  0x20 < char.toNat && char.toNat < 0x7f && !char.isUpper && "#%/:<>?@[\\]^|".toList.all (· != char)

def isHexDigit (char : Char) : Bool :=
  char.isDigit || ('a' ≤ char && char ≤ 'f')

/-- Whether the last label, a trailing dot apart, would be read as a number of an address. -/
def endsInNumber (text : Text) : Bool :=
  let labels := text.splitOn '.'
  let labels := if 1 < labels.length && labels.getLast? == some [] then labels.dropLast else labels
  match labels.getLast? with
  | some ('0' :: 'x' :: digits) => digits.all isHexDigit
  | some label => label != [] && label.all Char.isDigit
  | none => false

/-- A name, as the parser leaves it. -/
structure Domain where
  text : Text
  nonempty : text ≠ []
  permitted : ∀ char ∈ text, isDomainChar char = true
  named : endsInNumber text = false

inductive Host where
  | ipv4 (first second third fourth : Fin 256)
  | ipv6 (pieces : Pieces)
  | domain (name : Domain)

/-- The host as the `hostname` of a URL has it. -/
def Host.serialize : Host → Text
  | .ipv4 first second third fourth =>
      ['.'].intercalate
        ([first, second, third, fourth].map fun (octet : Fin 256) => Nat.toDigits 10 octet)
  | .ipv6 pieces => '[' :: (serializePieces pieces.list ++ [']'])
  | .domain name => name.text

/-! ### What the text of an address shows -/

theorem mem_intercalate {separator char : Char} {parts : List Text}
    (member : char ∈ [separator].intercalate parts) :
    char = separator ∨ ∃ part ∈ parts, char ∈ part := by
  induction parts with
  | nil => simp at member
  | cons part parts inductionHypothesis =>
      cases parts with
      | nil =>
          rw [List.intercalate_singleton] at member
          exact Or.inr ⟨part, List.mem_cons_self, member⟩
      | cons next parts =>
          rw [List.intercalate_cons_cons, List.mem_append, List.mem_append] at member
          rcases member with (inside | between) | after
          · exact Or.inr ⟨part, List.mem_cons_self, inside⟩
          · exact Or.inl (List.mem_singleton.mp between)
          · rcases inductionHypothesis after with same | ⟨other, among, inside⟩
            · exact Or.inl same
            · exact Or.inr ⟨other, List.mem_cons_of_mem _ among, inside⟩

theorem isHexDigit_digitChar {digit : Nat} (below : digit < 16) :
    isHexDigit digit.digitChar = true := by
  interval_cases digit <;> decide

theorem isHexDigit_of_mem_toDigits {number : Nat} {char : Char}
    (member : char ∈ Nat.toDigits 16 number) : isHexDigit char = true := by
  induction number using Nat.strongRecOn with
  | ind number inductionHypothesis =>
      rw [Nat.toDigits_eq_if (by decide)] at member
      split at member
      · next small =>
        rw [List.mem_singleton.mp member]
        exact isHexDigit_digitChar small
      · next large =>
        rcases List.mem_append.mp member with higher | last
        · exact inductionHypothesis (number / 16) (by omega) higher
        · rw [List.mem_singleton.mp last]
          exact isHexDigit_digitChar (Nat.mod_lt _ (by decide))

/-- A piece of four digits. -/
theorem toDigits_long {piece : Nat} (long : 4096 ≤ piece) (small : piece < 65536) :
    Nat.toDigits 16 piece =
      [(piece / 4096).digitChar, (piece / 256 % 16).digitChar, (piece / 16 % 16).digitChar,
        (piece % 16).digitChar] := by
  rw [Nat.toDigits_eq_if (by decide), if_neg (by omega), Nat.toDigits_eq_if (by decide),
    if_neg (by omega), Nat.toDigits_eq_if (by decide), if_neg (by omega),
    Nat.toDigits_of_lt_base (by omega)]
  simp only [Nat.div_div_eq_div_mul, Nat.reduceMul]
  rfl

/-- A piece below it has fewer. -/
theorem length_toDigits_short {piece : Nat} (short : piece < 4096) :
    (Nat.toDigits 16 piece).length ≤ 3 :=
  (Nat.length_toDigits_le_iff (by decide) (by decide)).mpr short

theorem groups_cons (piece : Nat) (pieces : List Nat) :
    ∃ tail, groups (piece :: pieces) = Nat.toDigits 16 piece ++ tail ∧
      (tail = [] ∧ pieces = [] ∨ tail.head? = some ':') := by
  cases pieces with
  | nil => exact ⟨[], by simp [groups], Or.inl ⟨rfl, rfl⟩⟩
  | cons next pieces =>
      refine ⟨':' :: groups (next :: pieces), ?_, Or.inr rfl⟩
      simp [groups, List.intercalate_cons_cons]

theorem eq_nil_of_groups {pieces : List Nat} (empty : groups pieces = []) : pieces = [] := by
  cases pieces with
  | nil => rfl
  | cons piece pieces =>
      obtain ⟨tail, text, -⟩ := groups_cons piece pieces
      rw [text] at empty
      exact absurd (List.append_eq_nil_iff.mp empty).1 Nat.toDigits_ne_nil

/-- The text of a piece has no colon. -/
theorem colon_notMem_toDigits (piece : Nat) : ':' ∉ Nat.toDigits 16 piece :=
  fun member => absurd (isHexDigit_of_mem_toDigits member) (by decide)

/-- A piece of one digit. -/
theorem eq_of_toDigits {piece : Nat} {digit : Char} (digits : Nat.toDigits 16 piece = [digit]) :
    piece < 16 ∧ piece.digitChar = digit := by
  have short : piece < 16 := by
    have single := (@Nat.length_toDigits_le_iff 16 piece 1 (by decide) (by decide)).mp
    rw [digits] at single
    exact single le_rfl
  rw [Nat.toDigits_of_lt_base short, List.cons.injEq] at digits
  exact ⟨short, digits.1⟩

theorem eq_one_of_groups {pieces : List Nat} (single : groups pieces = ['1']) : pieces = [1] := by
  cases pieces with
  | nil => exact absurd single (by decide)
  | cons piece pieces =>
      obtain ⟨tail, text, ends⟩ := groups_cons piece pieces
      rw [text] at single
      obtain ⟨head, rest, digits⟩ := List.exists_cons_of_ne_nil (@Nat.toDigits_ne_nil piece 16)
      rw [digits, List.cons_append, List.cons.injEq, List.append_eq_nil_iff] at single
      obtain ⟨rfl, rfl, rfl⟩ := single
      rcases ends with ⟨-, rfl⟩ | colon
      · obtain ⟨short, digit⟩ := eq_of_toDigits digits
        have value : piece = 1 := by
          interval_cases piece <;> first | rfl | exact absurd digit (by decide)
        rw [value]
      · cases colon

theorem longestZeros_spec (pieces : List Nat) :
    pieces = pieces.take (longestZeros pieces).1 ++
      List.replicate (longestZeros pieces).2 0 ++
        pieces.drop ((longestZeros pieces).1 + (longestZeros pieces).2) := by
  induction pieces with
  | nil => rfl
  | cons piece pieces inductionHypothesis =>
      simp only [longestZeros]
      split
      · have zeros : (piece :: pieces).takeWhile (· == 0) =
            List.replicate ((piece :: pieces).takeWhile (· == 0)).length 0 :=
          List.eq_replicate_iff.mpr ⟨rfl, fun other member =>
            eq_of_beq (@List.mem_takeWhile_imp _ (· == 0) _ _ member)⟩
        rw [List.take_zero, List.nil_append, Nat.zero_add, ← zeros]
        exact ((List.prefix_iff_eq_append).mp (List.takeWhile_prefix _)).symm
      · rw [Nat.add_right_comm, List.take_succ_cons, List.drop_succ_cons, List.cons_append,
          List.cons_append]
        exact congrArg _ inductionHypothesis

/-- The text begins with the compressed zeros, or with the digits of the first piece. -/
theorem serializePieces_cons (piece : Nat) (pieces : List Nat) :
    (∃ run rest, piece :: pieces = List.replicate run 0 ++ rest ∧ 1 < run ∧
      serializePieces (piece :: pieces) = ':' :: ':' :: groups rest) ∨
    ∃ tail, serializePieces (piece :: pieces) = Nat.toDigits 16 piece ++ tail ∧
      (tail = [] ∨ tail.head? = some ':') := by
  have spec := longestZeros_spec (piece :: pieces)
  have plain := groups_cons piece pieces
  simp only [serializePieces]
  generalize longestZeros (piece :: pieces) = zeros at spec ⊢
  obtain ⟨start, length⟩ := zeros
  dsimp only at spec ⊢
  split
  · next several =>
    cases start with
    | zero => exact Or.inl ⟨length, _, by simpa using spec, several, by simp [groups]⟩
    | succ start =>
        obtain ⟨tail, text, ends⟩ := groups_cons piece (pieces.take start)
        refine Or.inr ⟨tail ++ ':' :: ':' :: groups ((piece :: pieces).drop (start + 1 + length)),
          ?_, Or.inr ?_⟩
        · rw [List.take_succ_cons, text, List.append_assoc]
        · rcases ends with ⟨rfl, -⟩ | colon
          · rfl
          · rw [List.head?_append, colon]
            rfl
  · obtain ⟨tail, text, ends⟩ := plain
    exact Or.inr ⟨tail, text, ends.imp_left And.left⟩

theorem mem_groups {pieces : List Nat} {char : Char} (member : char ∈ groups pieces) :
    char = ':' ∨ isHexDigit char = true := by
  rcases mem_intercalate member with colon | ⟨digits, among, inside⟩
  · exact Or.inl colon
  · obtain ⟨piece, -, rfl⟩ := List.mem_map.mp among
    exact Or.inr (isHexDigit_of_mem_toDigits inside)

theorem mem_serializePieces {pieces : List Nat} {char : Char}
    (member : char ∈ serializePieces pieces) : char = ':' ∨ isHexDigit char = true := by
  simp only [serializePieces] at member
  split at member
  · rw [List.mem_append, List.mem_cons, List.mem_cons] at member
    rcases member with before | colon | colon | after
    · exact mem_groups before
    · exact Or.inl colon
    · exact Or.inl colon
    · exact mem_groups after
  · exact mem_groups member

theorem Pieces.exists_cons (pieces : Pieces) :
    ∃ piece rest, pieces.list = piece :: rest ∧ rest.length = 7 ∧ piece < 65536 := by
  have eight := pieces.eight
  have below := pieces.below
  cases shape : pieces.list with
  | nil => simp [shape] at eight
  | cons piece rest =>
      rw [shape] at eight below
      exact ⟨piece, rest, rfl, Nat.succ.inj eight, below piece List.mem_cons_self⟩

/-- Digits come before a colon. -/
theorem toDigits_append_ne {piece : Nat} {tail rest : Text} :
    Nat.toDigits 16 piece ++ tail ≠ ':' :: rest := by
  intro same
  obtain ⟨head, digits, text⟩ := List.exists_cons_of_ne_nil (@Nat.toDigits_ne_nil piece 16)
  rw [text, List.cons_append, List.cons.injEq] at same
  apply colon_notMem_toDigits piece
  rw [text, same.1]
  exact List.mem_cons_self

/-- What follows a compression at the start. -/
private theorem eq_of_compressed {pieces : List Nat} {text : Text} {known : List Nat}
    (eight : pieces.length = 8)
    (inverse : ∀ rest : List Nat, groups rest = text → rest = known)
    (same : serializePieces pieces = ':' :: ':' :: text) :
    pieces = List.replicate (8 - known.length) 0 ++ known := by
  cases pieces with
  | nil => simp at eight
  | cons piece pieces =>
      rcases serializePieces_cons piece pieces with ⟨run, rest, split, -, text'⟩ | ⟨tail, text', -⟩
      · rw [text', List.cons.injEq, List.cons.injEq] at same
        obtain rfl := inverse rest same.2.2
        have total := congrArg List.length split
        rw [eight, List.length_append, List.length_replicate] at total
        rw [split]
        congr 2
        omega
      · rw [text'] at same
        exact absurd same toDigits_append_ne

theorem serializePieces_eq_unspecified (pieces : Pieces) :
    serializePieces pieces.list = "::".toList ↔ pieces.list = [0, 0, 0, 0, 0, 0, 0, 0] := by
  constructor
  · exact fun same => eq_of_compressed pieces.eight (fun _ => eq_nil_of_groups) same
  · intro zeros
    rw [zeros]
    decide

theorem serializePieces_eq_loopback (pieces : Pieces) :
    serializePieces pieces.list = "::1".toList ↔ pieces.list = [0, 0, 0, 0, 0, 0, 0, 1] := by
  constructor
  · exact fun same => eq_of_compressed pieces.eight (fun _ => eq_one_of_groups) same
  · intro ones
    rw [ones]
    decide

/-- Zeros written out are read as zeros. -/
theorem zeros_of_serializePieces {pieces : Pieces}
    (same : serializePieces pieces.list = "0:0:0:0:0:0:0:0".toList) :
    pieces.list = [0, 0, 0, 0, 0, 0, 0, 0] := by
  have labels : "0:0:0:0:0:0:0:0".toList.splitOn ':' = List.replicate 8 ['0'] := by decide
  have written : groups pieces.list = "0:0:0:0:0:0:0:0".toList := by
    simp only [serializePieces] at same
    split at same
    · exfalso
      rw [← same, List.splitOn_append_cons_self, List.splitOn_cons_eq_if_modifyHead,
        if_pos (beq_self_eq_true ':')] at labels
      have empty : [] ∈ List.replicate 8 ['0'] := by
        rw [← labels]
        exact List.mem_append_right _ List.mem_cons_self
      exact absurd (List.eq_of_mem_replicate empty) (by decide)
    · exact same
  have split := @List.splitOn_intercalate _ (pieces.list.map (Nat.toDigits 16)) _ _ ':'
    (by
      intro digits member
      obtain ⟨piece, -, rfl⟩ := List.mem_map.mp member
      exact colon_notMem_toDigits piece)
    (by
      intro empty
      have eight := pieces.eight
      rw [List.map_eq_nil_iff.mp empty] at eight
      cases eight)
  have digits : pieces.list.map (Nat.toDigits 16) = List.replicate 8 ['0'] := by
    rw [← split, ← labels, ← written]
    rfl
  refine List.eq_replicate_iff.mpr ⟨pieces.eight, fun piece member => ?_⟩
  have digit : Nat.toDigits 16 piece = ['0'] :=
    List.eq_of_mem_replicate (digits ▸ List.mem_map_of_mem member)
  obtain ⟨short, same⟩ := eq_of_toDigits digit
  interval_cases piece <;> first | rfl | exact absurd same (by decide)

end MarketMind.Publishing.Hosts
