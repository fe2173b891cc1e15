import Mathlib.Data.Int.Log
import MarketMind.Publishing.Hosts
import MarketMind.Strategy.Distribution

/-!
Owns the check of the host that a provider would fetch media from, and for which hosts it tells
the unreachable ones from the others.

Does not own the other parts of the origin, and the signing of the tokens.
-/

namespace MarketMind.Publishing.Media

open MarketMind.Publishing.Hosts MarketMind.Strategy

/-! ### Numbers -/

/-- The digits of a literal as a number, when there are some and all are of this base. -/
def digitsValue (base : Nat) (text : Text) : Option Nat :=
  let digit (char : Char) := if char.isDigit then char.toNat - 48 else char.toNat - 87
  if text != [] && text.all (fun char => isHexDigit char && digit char < base) then
    some (text.foldl (fun value char => value * base + digit char) 0)
  else none

/-- Digits, and an exponent if there is one. -/
def decimalValue (text : Text) : Option ℚ := do
  let mantissa ← digitsValue 10 (text.takeWhile Char.isDigit)
  match text.dropWhile Char.isDigit with
  | [] => return mantissa
  | 'e' :: '-' :: exponent => return mantissa / 10 ^ (← digitsValue 10 exponent)
  | 'e' :: '+' :: exponent => return mantissa * 10 ^ (← digitsValue 10 exponent)
  | 'e' :: exponent => return mantissa * 10 ^ (← digitsValue 10 exponent)
  | _ => none

/-- What a numeric literal without white space, capitals and a decimal point stands for. -/
def literalValue : Text → Option ℚ
  | [] => some 0
  | '0' :: 'x' :: digits => (digitsValue 16 digits).map Nat.cast
  | '0' :: 'o' :: digits => (digitsValue 8 digits).map Nat.cast
  | '0' :: 'b' :: digits => (digitsValue 2 digits).map Nat.cast
  | '+' :: digits => decimalValue digits
  | '-' :: digits => (decimalValue digits).map Neg.neg
  | digits => decimalValue digits

/-- The nearest number of double precision, ties to even, or none past the largest. -/
def toDouble (value : ℚ) : Option ℚ :=
  if value = 0 then some 0
  else
    let ulp : ℚ := 2 ^ max (Int.log 2 |value| - 52) (-1074)
    let rounded := roundHalfEven (value / ulp) * ulp
    if 2 ^ 1024 ≤ |rounded| then none else some rounded

/-- `Number` of such a text, or none for what is not finite. -/
def number (text : Text) : Option ℚ := (literalValue text).bind toDouble

/-! ### The check -/

def isOctet (octet : ℚ) : Bool := octet.isInt && 0 ≤ octet && octet ≤ 255

/-- The ranges of `isLoopbackOrPrivateHost`, by the first two octets. -/
def isPrivateQuad (a b : ℚ) : Bool :=
  a == 127 || a == 10 || (a == 172 && 16 ≤ b && b ≤ 31) || (a == 192 && b == 168) ||
    (a == 169 && b == 254) || a == 0

/-- A group of these digits at the start, before a colon or the end. -/
def startsWithGroup : List (Char → Bool) → Text → Bool
  | [], text => text == [] || text.head? == some ':'
  | digit :: digits, char :: text => digit char && startsWithGroup digits text
  | _ :: _, [] => false

def uniqueLocal : List (Char → Bool) :=
  [(· == 'f'), fun char => char == 'c' || char == 'd', isHexDigit, isHexDigit]

def linkLocal : List (Char → Bool) :=
  [(· == 'f'), (· == 'e'), fun char => char == '8' || char == '9' || char == 'a' || char == 'b',
    isHexDigit]

/-- `replace(/^\[|\]$/g, "")` -/
def withoutBrackets (text : Text) : Text :=
  let text := if text.head? == some '[' then text.tail else text
  if text.getLast? == some ']' then text.dropLast else text

def isLoopbackOrPrivateHost (hostname : Text) : Bool :=
  let host := hostname.map Char.toLower
  if host == "localhost".toList then true
  else
    match (host.splitOn '.').map number with
    | [some a, some b, some c, some d] =>
        if [a, b, c, d].all isOctet then isPrivateQuad a b else isPrivateGroup host
    | _ => isPrivateGroup host
where
  isPrivateGroup (host : Text) : Bool :=
    let v6 := (withoutBrackets host).takeWhile (· != '%')
    v6 == "::1".toList || v6 == "::".toList || v6 == "0:0:0:0:0:0:0:0".toList ||
      startsWithGroup uniqueLocal v6 || startsWithGroup linkLocal v6

/-! ### Who is unreachable -/

/-- The loopback, private and link-local ranges, by the first two octets. -/
def PrivateRange (first second : Nat) : Prop :=
  first = 0 ∨ first = 10 ∨ first = 127 ∨ (first = 169 ∧ second = 254) ∨
    (first = 172 ∧ 16 ≤ second ∧ second ≤ 31) ∨ (first = 192 ∧ second = 168)

/-- An address of version 4, mapped, in one of these ranges. -/
def MappedPrivate (pieces : Pieces) : Prop :=
  ∃ high low, pieces.list = [0, 0, 0, 0, 0, 0xffff, high, low] ∧
    PrivateRange (high / 256) (high % 256)

/-- The first pieces of `fc00::/7` and `fe80::/10`. -/
def LocalPiece (piece : Nat) : Prop :=
  (0xfc00 ≤ piece ∧ piece ≤ 0xfdff) ∨ (0xfe80 ≤ piece ∧ piece ≤ 0xfebf)

/-- The hosts a provider cannot fetch from. -/
def Unreachable : Host → Prop
  | .ipv4 first second _ _ => PrivateRange first second
  | .ipv6 pieces =>
      pieces.list = [0, 0, 0, 0, 0, 0, 0, 0] ∨ pieces.list = [0, 0, 0, 0, 0, 0, 0, 1] ∨
        (∃ piece ∈ pieces.list.head?, LocalPiece piece) ∨ MappedPrivate pieces
  | .domain name => name.text = "localhost".toList ∨ name.text = "localhost.".toList

/-- A text of four labels that are read as octets, the first two of which are these. -/
def ReadsAsQuad (text : Text) (a b : ℚ) : Prop :=
  ∃ c d, (text.splitOn '.').map number = [some a, some b, some c, some d] ∧
    [a, b, c, d].all isOctet

/-- A name that is read as an address in one of the ranges. -/
def ReadsAsPrivateQuad (name : Text) : Prop := ∃ a b, ReadsAsQuad name a b ∧ isPrivateQuad a b

/-- A name of four characters that is read as the first group of a local address. -/
def ReadsAsGroup (name : Text) : Prop :=
  ∃ second third fourth, name = ['f', second, third, fourth] ∧ isHexDigit fourth = true ∧
    ((second ∈ ['c', 'd'] ∧ isHexDigit third = true) ∨ (second = 'e' ∧ third ∈ "89ab".toList))

/-- The hosts that the check does not mistake for others. -/
def ReadRight : Host → Prop
  | .ipv4 .. => True
  | .ipv6 pieces => ¬ MappedPrivate pieces
  | .domain name =>
      name.text ≠ "localhost.".toList ∧ ¬ ReadsAsGroup name.text ∧ ¬ ReadsAsPrivateQuad name.text

/-! ### Octets -/

/-- A whole number over a power of two is none that is rounded. -/
theorem toDouble_natCast (octet : Nat) (small : octet ≤ 255) :
    toDouble (octet : ℚ) = some (octet : ℚ) := by
  unfold toDouble
  split
  · next absent => rw [absent]
  · next present =>
    have exponent : Nat.log 2 octet ≤ 7 :=
      Nat.lt_succ_iff.mp (Nat.log_lt_of_lt_pow (fun zero => present (by rw [zero]; rfl))
        (by omega))
    obtain ⟨places, total⟩ : ∃ places, places + Nat.log 2 octet = 52 :=
      ⟨52 - Nat.log 2 octet, by omega⟩
    have ulp : max ((Nat.log 2 octet : Int) - 52) (-1074) = -(places : Int) := by omega
    have whole : (octet : ℚ) / 2 ^ (-(places : Int)) = ((octet * 2 ^ places : Nat) : Int) := by
      rw [zpow_neg, zpow_natCast, div_inv_eq_mul]
      norm_cast
    have back : ((octet * 2 ^ places : Nat) : ℚ) * 2 ^ (-(places : Int)) = octet := by
      rw [zpow_neg, zpow_natCast, Nat.cast_mul, Nat.cast_pow, Nat.cast_ofNat, mul_assoc,
        mul_inv_cancel₀ (by positivity), mul_one]
    have finite : ¬ (2 : ℚ) ^ 1024 ≤ octet := by
      rw [not_le]
      calc (octet : ℚ) ≤ 255 := by exact_mod_cast small
        _ < 2 ^ 8 := by norm_num
        _ ≤ 2 ^ 1024 := pow_le_pow_right₀ one_le_two (by norm_num)
    dsimp only
    rw [Nat.abs_cast, Int.log_natCast, ulp, whole, roundHalfEven_intCast, Int.cast_natCast, back,
      Nat.abs_cast, if_neg finite]

theorem number_toDigits (octet : Fin 256) :
    number (Nat.toDigits 10 octet) = some ((octet : Nat) : ℚ) := by
  have literal : ∀ octet : Fin 256,
      literalValue (Nat.toDigits 10 octet) = some ((octet : Nat) : ℚ) := by
    decide +kernel
  rw [number, literal, Option.bind_some]
  exact toDouble_natCast octet (by omega)

theorem isOctet_natCast (octet : Fin 256) : isOctet ((octet : Nat) : ℚ) = true := by
  have most : ((octet : Nat) : ℚ) ≤ 255 := by exact_mod_cast (by omega : (octet : Nat) ≤ 255)
  simp [isOctet, Rat.isInt, most]

theorem isPrivateQuad_natCast (first second : Nat) :
    isPrivateQuad first second = true ↔ PrivateRange first second := by
  simp only [isPrivateQuad, PrivateRange, Bool.or_eq_true, Bool.and_eq_true, beq_iff_eq,
    decide_eq_true_eq]
  norm_cast
  tauto

/-! ### The check on each kind of host -/

theorem not_isUpper_of_isHexDigit {char : Char} (hex : isHexDigit char = true) :
    ¬ char.isUpper = true := by
  show ¬ decide (char.val ≥ 'A'.val ∧ char.val ≤ 'Z'.val) = true
  simp only [isHexDigit, Char.isDigit, Bool.or_eq_true, Bool.and_eq_true,
    decide_eq_true_eq, Char.le_def, ge_iff_le, UInt32.le_iff_toNat_le] at hex ⊢
  rintro ⟨above, below⟩
  simp at hex above below
  omega

theorem not_isUpper_serialize (host : Host) : ∀ char ∈ host.serialize, ¬ char.isUpper = true := by
  intro char member
  cases host with
  | ipv4 first second third fourth =>
      rcases mem_intercalate member with rfl | ⟨part, among, inside⟩
      · decide
      · obtain ⟨octet, -, rfl⟩ := List.mem_map.mp among
        have digit := Nat.isDigit_of_mem_toDigits (by decide) (by decide) inside
        exact not_isUpper_of_isHexDigit (by rw [isHexDigit, digit, Bool.true_or])
  | ipv6 pieces =>
      rw [Host.serialize, List.mem_cons, List.mem_append, List.mem_singleton] at member
      rcases member with rfl | inside | rfl
      · decide
      · rcases mem_serializePieces inside with rfl | digit
        · decide
        · exact not_isUpper_of_isHexDigit digit
      · decide
  | domain name =>
      have permitted := name.permitted char member
      simp only [isDomainChar, Bool.and_eq_true, Bool.not_eq_true'] at permitted
      rw [permitted.1.2]
      decide

theorem map_toLower_serialize (host : Host) :
    host.serialize.map Char.toLower = host.serialize := by
  refine (List.map_congr_left fun char member => ?_).trans (List.map_id' host.serialize)
  have lower := not_isUpper_serialize host char member
  exact dif_neg fun upper => lower (decide_eq_true upper)

theorem readsAsQuad_iff {text : Text} {a b c d x y : ℚ}
    (labels : (text.splitOn '.').map number = [some a, some b, some c, some d]) :
    ReadsAsQuad text x y ↔ x = a ∧ y = b ∧ [a, b, c, d].all isOctet = true := by
  constructor
  · rintro ⟨z, w, others, octets⟩
    rw [labels] at others
    simp only [List.cons.injEq, Option.some.injEq, and_true] at others
    obtain ⟨rfl, rfl, rfl, rfl⟩ := others
    exact ⟨rfl, rfl, octets⟩
  · rintro ⟨rfl, rfl, octets⟩
    exact ⟨c, d, labels, octets⟩

/-- The octets are looked at before the groups. -/
theorem isLoopbackOrPrivateHost_iff {host : Text} (lower : host.map Char.toLower = host) :
    isLoopbackOrPrivateHost host = true ↔
      host = "localhost".toList ∨ ReadsAsPrivateQuad host ∨
        ((∀ a b, ¬ ReadsAsQuad host a b) ∧
          isLoopbackOrPrivateHost.isPrivateGroup host = true) := by
  simp only [isLoopbackOrPrivateHost, lower]
  split
  · next same => exact iff_of_true rfl (Or.inl (eq_of_beq same))
  · next other =>
    rw [or_iff_right fun same => other (beq_iff_eq.mpr same)]
    split
    · next a b c d labels =>
      have quad (x y : ℚ) := @readsAsQuad_iff host a b c d x y labels
      by_cases octets : [a, b, c, d].all isOctet = true
      · rw [if_pos octets]
        simp [ReadsAsPrivateQuad, quad, octets]
      · rw [if_neg octets]
        simp [ReadsAsPrivateQuad, quad, octets]
    · next labels =>
      have quad (x y : ℚ) : ¬ ReadsAsQuad host x y := by
        rintro ⟨z, w, four, -⟩
        exact labels x y z w four
      simp [ReadsAsPrivateQuad, quad]

theorem ReadsAsQuad.length_eq {text : Text} {a b : ℚ} (quad : ReadsAsQuad text a b) :
    (text.splitOn '.').length = 4 := by
  obtain ⟨c, d, labels, -⟩ := quad
  simpa using congrArg List.length labels

theorem splitOn_ipv4 (first second third fourth : Fin 256) :
    (Host.ipv4 first second third fourth).serialize.splitOn '.' =
      [first, second, third, fourth].map fun (octet : Fin 256) => Nat.toDigits 10 octet := by
  refine List.splitOn_intercalate '.' ?_ (List.cons_ne_nil _ _)
  intro digits member dot
  obtain ⟨octet, -, rfl⟩ := List.mem_map.mp member
  exact absurd (Nat.isDigit_of_mem_toDigits (by decide) (by decide) dot) (by decide)

theorem isLoopbackOrPrivateHost_ipv4 (first second third fourth : Fin 256) :
    isLoopbackOrPrivateHost (Host.ipv4 first second third fourth).serialize = true ↔
      PrivateRange first second := by
  have split := splitOn_ipv4 first second third fourth
  have labels : ((Host.ipv4 first second third fourth).serialize.splitOn '.').map number =
      [some ((first : Nat) : ℚ), some ((second : Nat) : ℚ), some ((third : Nat) : ℚ),
        some ((fourth : Nat) : ℚ)] := by
    rw [split]
    simp only [List.map_cons, List.map_nil, number_toDigits]
  have named : (Host.ipv4 first second third fourth).serialize ≠ "localhost".toList := by
    intro same
    rw [same] at split
    exact absurd (congrArg List.length split) (of_decide_eq_false rfl)
  have quad : ReadsAsQuad (Host.ipv4 first second third fourth).serialize first second :=
    ⟨_, _, labels, by simp [isOctet_natCast]⟩
  rw [isLoopbackOrPrivateHost_iff (map_toLower_serialize _), ← isPrivateQuad_natCast]
  constructor
  · rintro (same | ⟨a, b, other, inside⟩ | ⟨none, -⟩)
    · exact absurd same named
    · obtain ⟨rfl, rfl, -⟩ := (readsAsQuad_iff labels).mp other
      exact inside
    · exact absurd quad (none _ _)
  · exact fun inside => Or.inr (Or.inl ⟨_, _, quad, inside⟩)

/-! ### Groups -/

section Groups

variable {digits : List (Char → Bool)} {text tail : Text}

theorem startsWithGroup_append (noColon : ∀ digit ∈ digits, digit ':' = false) (plain : ':' ∉ text)
    (ends : tail = [] ∨ tail.head? = some ':') :
    startsWithGroup digits (text ++ tail) = startsWithGroup digits text := by
  induction digits generalizing text with
  | nil =>
      cases text with
      | nil => rcases ends with rfl | colon <;> simp [startsWithGroup, *]
      | cons char text => rfl
  | cons digit digits inductionHypothesis =>
      cases text with
      | nil =>
          rcases ends with rfl | colon
          · rfl
          · cases tail with
            | nil => rfl
            | cons char tail =>
                obtain rfl : char = ':' := Option.some.inj colon
                rw [List.nil_append, startsWithGroup, noColon digit List.mem_cons_self,
                  Bool.false_and, startsWithGroup]
      | cons char text =>
          rw [List.cons_append, startsWithGroup, startsWithGroup,
            inductionHypothesis (fun other among => noColon other (List.mem_cons_of_mem _ among))
              (fun member => plain (List.mem_cons_of_mem _ member))]

theorem startsWithGroup_iff (plain : ':' ∉ text) :
    startsWithGroup digits text = true ↔
      List.Forall₂ (fun digit char => digit char = true) digits text := by
  induction digits generalizing text with
  | nil =>
      cases text with
      | nil => simp [startsWithGroup]
      | cons char text =>
          have other : char ≠ ':' := fun same => plain (same ▸ List.mem_cons_self)
          simp [startsWithGroup, other]
  | cons digit digits inductionHypothesis =>
      cases text with
      | nil => simp [startsWithGroup]
      | cons char text =>
          rw [startsWithGroup, Bool.and_eq_true, List.forall₂_cons,
            inductionHypothesis fun member => plain (List.mem_cons_of_mem _ member)]

end Groups

theorem digitChar_eq_iff {digit known : Nat} (small : digit < 16) (below : known < 16) :
    digit.digitChar = known.digitChar ↔ digit = known := by
  have table : ∀ digit known : Fin 16,
      Nat.digitChar digit = Nat.digitChar known ↔ (digit : Nat) = known := by decide
  exact table ⟨digit, small⟩ ⟨known, below⟩

/-- The patterns find the first pieces of local addresses. -/
theorem startsWithGroup_piece {piece : Nat} (small : piece < 65536) {tail : Text}
    (ends : tail = [] ∨ tail.head? = some ':') :
    (startsWithGroup uniqueLocal (Nat.toDigits 16 piece ++ tail) = true ∨
      startsWithGroup linkLocal (Nat.toDigits 16 piece ++ tail) = true) ↔ LocalPiece piece := by
  have plain := colon_notMem_toDigits piece
  rw [startsWithGroup_append (by decide) plain ends, startsWithGroup_append (by decide) plain ends,
    startsWithGroup_iff plain, startsWithGroup_iff plain]
  rcases Nat.lt_or_ge piece 4096 with short | long
  · have few := length_toDigits_short short
    constructor
    · rintro (matched | matched)
      · exact absurd matched.length_eq (by simp only [uniqueLocal, List.length_cons]; omega)
      · exact absurd matched.length_eq (by simp only [linkLocal, List.length_cons]; omega)
    · intro inside
      unfold LocalPiece at inside
      omega
  · have fourth := isHexDigit_digitChar (Nat.mod_lt piece (by decide : 0 < 16))
    have third := isHexDigit_digitChar (Nat.mod_lt (piece / 16) (by decide : 0 < 16))
    have f : (piece / 4096).digitChar = 'f' ↔ piece / 4096 = 15 :=
      digitChar_eq_iff (by omega) (by decide : 15 < 16)
    have second (known : Nat) (below : known < 16) :
        (piece / 256 % 16).digitChar = known.digitChar ↔ piece / 256 % 16 = known :=
      digitChar_eq_iff (Nat.mod_lt _ (by decide)) below
    have c : _ = 'c' ↔ _ := second 12 (by decide)
    have d : _ = 'd' ↔ _ := second 13 (by decide)
    have e : _ = 'e' ↔ _ := second 14 (by decide)
    have next (known : Nat) (below : known < 16) :
        (piece / 16 % 16).digitChar = known.digitChar ↔ piece / 16 % 16 = known :=
      digitChar_eq_iff (Nat.mod_lt _ (by decide)) below
    have eight : _ = '8' ↔ _ := next 8 (by decide)
    have nine : _ = '9' ↔ _ := next 9 (by decide)
    have a : _ = 'a' ↔ _ := next 10 (by decide)
    have b : _ = 'b' ↔ _ := next 11 (by decide)
    rw [toDigits_long long small]
    simp only [uniqueLocal, linkLocal, List.forall₂_cons, List.forall₂_nil_left_iff, fourth, third,
      and_true, beq_iff_eq, Bool.or_eq_true, f, c, d, e, eight, nine, a, b, LocalPiece]
    omega

theorem isLoopbackOrPrivateHost_ipv6 (pieces : Pieces) :
    isLoopbackOrPrivateHost (Host.ipv6 pieces).serialize = true ↔
      pieces.list = [0, 0, 0, 0, 0, 0, 0, 0] ∨ pieces.list = [0, 0, 0, 0, 0, 0, 0, 1] ∨
        ∃ piece ∈ pieces.list.head?, LocalPiece piece := by
  have noDot : '.' ∉ (Host.ipv6 pieces).serialize := by
    rw [Host.serialize, List.mem_cons, List.mem_append, List.mem_singleton]
    rintro (same | inside | same)
    · exact absurd same (by decide)
    · rcases mem_serializePieces inside with same | digit
      · exact absurd same (by decide)
      · exact absurd digit (by decide)
    · exact absurd same (by decide)
  have named : (Host.ipv6 pieces).serialize ≠ "localhost".toList := by
    intro same
    exact absurd (congrArg List.head? same) (by rw [Host.serialize, List.head?_cons]; decide)
  have noQuad (a b : ℚ) : ¬ ReadsAsQuad (Host.ipv6 pieces).serialize a b := by
    intro quad
    have labels := quad.length_eq
    rw [List.splitOn_eq_singleton noDot] at labels
    cases labels
  have stripped : (withoutBrackets (Host.ipv6 pieces).serialize).takeWhile (· != '%') =
      serializePieces pieces.list := by
    have inner : withoutBrackets (Host.ipv6 pieces).serialize = serializePieces pieces.list := by
      simp [withoutBrackets, Host.serialize]
    rw [inner, List.takeWhile_eq_self_iff]
    intro char member
    rcases mem_serializePieces member with rfl | digit
    · decide
    · exact bne_iff_ne.mpr fun same => absurd (same ▸ digit) (by decide)
  obtain ⟨piece, rest, shape, -, small⟩ := pieces.exists_cons
  have patterns : (startsWithGroup uniqueLocal (serializePieces pieces.list) = true ∨
      startsWithGroup linkLocal (serializePieces pieces.list) = true) ↔ LocalPiece piece := by
    rw [shape]
    rcases serializePieces_cons piece rest with ⟨run, _, split, many, text⟩ | ⟨_, text, ends⟩
    · have zero : piece = 0 := by
        cases run with
        | zero => omega
        | succ run => exact (List.cons.inj split).1
      rw [text, zero]
      simp [startsWithGroup, uniqueLocal, linkLocal, LocalPiece]
    · rw [text]
      exact startsWithGroup_piece small ends
  have group : isLoopbackOrPrivateHost.isPrivateGroup (Host.ipv6 pieces).serialize = true ↔
      pieces.list = [0, 0, 0, 0, 0, 0, 0, 0] ∨ pieces.list = [0, 0, 0, 0, 0, 0, 0, 1] ∨
        LocalPiece piece := by
    simp only [isLoopbackOrPrivateHost.isPrivateGroup, stripped, Bool.or_eq_true, beq_iff_eq,
      or_assoc]
    rw [patterns, serializePieces_eq_loopback, serializePieces_eq_unspecified]
    constructor
    · rintro (loopback | unspecified | zeros | inside)
      · exact Or.inr (Or.inl loopback)
      · exact Or.inl unspecified
      · exact Or.inl (zeros_of_serializePieces zeros)
      · exact Or.inr (Or.inr inside)
    · rintro (unspecified | loopback | inside)
      · exact Or.inr (Or.inl unspecified)
      · exact Or.inl loopback
      · exact Or.inr (Or.inr (Or.inr inside))
  have first : (∃ piece ∈ pieces.list.head?, LocalPiece piece) ↔ LocalPiece piece := by
    simp [shape]
  rw [isLoopbackOrPrivateHost_iff (map_toLower_serialize _), group, first]
  constructor
  · rintro (same | ⟨a, b, quad, -⟩ | ⟨-, inside⟩)
    · exact absurd same named
    · exact absurd quad (noQuad a b)
    · exact inside
  · exact fun inside => Or.inr (Or.inr ⟨noQuad, inside⟩)

theorem notMem_of_forbidden {name : Domain} {char : Char}
    (forbidden : isDomainChar char = false) : char ∉ name.text := by
  intro member
  rw [name.permitted char member] at forbidden
  cases forbidden

theorem readsAsGroup_iff {name : Text} (plain : ':' ∉ name) :
    (startsWithGroup uniqueLocal name = true ∨ startsWithGroup linkLocal name = true) ↔
      ReadsAsGroup name := by
  rw [startsWithGroup_iff plain, startsWithGroup_iff plain]
  constructor
  · rintro (unique | link)
    · simp only [uniqueLocal, List.forall₂_cons_left_iff, List.forall₂_nil_left_iff] at unique
      obtain ⟨f, _, first, ⟨second, _, either, ⟨third, _, hex, ⟨fourth, _, last, rfl, rfl⟩, rfl⟩,
        rfl⟩, rfl⟩ := unique
      rw [eq_of_beq first]
      exact ⟨second, third, fourth, rfl, last, Or.inl ⟨by simpa using either, hex⟩⟩
    · simp only [linkLocal, List.forall₂_cons_left_iff, List.forall₂_nil_left_iff] at link
      obtain ⟨f, _, first, ⟨second, _, e, ⟨third, _, range, ⟨fourth, _, last, rfl, rfl⟩, rfl⟩,
        rfl⟩, rfl⟩ := link
      rw [eq_of_beq first]
      refine ⟨second, third, fourth, rfl, last, Or.inr ⟨eq_of_beq e, ?_⟩⟩
      simpa [or_assoc] using range
  · rintro ⟨second, third, fourth, rfl, last, ⟨either, hex⟩ | ⟨rfl, range⟩⟩
    · exact Or.inl (by simpa [uniqueLocal, last, hex] using either)
    · exact Or.inr (by simpa [linkLocal, last, or_assoc] using range)

theorem isPrivateGroup_domain (name : Domain) :
    isLoopbackOrPrivateHost.isPrivateGroup name.text = true ↔ ReadsAsGroup name.text := by
  have noColon : ':' ∉ name.text := notMem_of_forbidden (by decide)
  have inner : withoutBrackets name.text = name.text := by
    have opening : name.text.head? ≠ some '[' := fun bracket =>
      notMem_of_forbidden (by decide) (List.mem_of_mem_head? bracket)
    have closing : name.text.getLast? ≠ some ']' := fun bracket =>
      notMem_of_forbidden (by decide) (List.mem_of_mem_getLast? bracket)
    simp [withoutBrackets, opening, closing]
  have stripped : (withoutBrackets name.text).takeWhile (· != '%') = name.text := by
    rw [inner, List.takeWhile_eq_self_iff]
    intro char member
    exact bne_iff_ne.mpr fun same => notMem_of_forbidden (by decide) (same ▸ member)
  have spelled (text : Text) (colon : ':' ∈ text) : name.text ≠ text :=
    fun same => noColon (same ▸ colon)
  simp only [isLoopbackOrPrivateHost.isPrivateGroup, stripped, Bool.or_eq_true, beq_iff_eq,
    spelled _ (by decide : ':' ∈ "::1".toList),
    spelled _ (by decide : ':' ∈ "::".toList),
    spelled _ (by decide : ':' ∈ "0:0:0:0:0:0:0:0".toList), false_or]
  exact readsAsGroup_iff noColon

/-- A name of four characters has one label. -/
theorem ReadsAsGroup.noQuad {name : Text} (group : ReadsAsGroup name) (a b : ℚ) :
    ¬ ReadsAsQuad name a b := by
  obtain ⟨second, third, fourth, rfl, last, kind⟩ := group
  intro quad
  have labels := quad.length_eq
  rw [List.splitOn_eq_singleton] at labels
  · cases labels
  · intro dot
    rcases List.mem_cons.mp dot with same | inside
    · exact absurd same (by decide)
    rw [List.mem_cons, List.mem_cons, List.mem_singleton] at inside
    rcases inside with rfl | rfl | rfl
    · rcases kind with ⟨either, -⟩ | ⟨same, -⟩
      · exact absurd either (by decide)
      · exact absurd same (by decide)
    · rcases kind with ⟨-, hex⟩ | ⟨-, range⟩
      · exact absurd hex (by decide)
      · exact absurd range (by decide)
    · exact absurd last (by decide)

theorem isLoopbackOrPrivateHost_domain (name : Domain) :
    isLoopbackOrPrivateHost (Host.domain name).serialize = true ↔
      name.text = "localhost".toList ∨ ReadsAsPrivateQuad name.text ∨ ReadsAsGroup name.text := by
  have lower := map_toLower_serialize (.domain name)
  rw [isLoopbackOrPrivateHost_iff lower]
  rw [Host.serialize, isPrivateGroup_domain]
  constructor
  · rintro (same | quad | ⟨-, group⟩)
    · exact Or.inl same
    · exact Or.inr (Or.inl quad)
    · exact Or.inr (Or.inr group)
  · rintro (same | quad | group)
    · exact Or.inl same
    · exact Or.inr (Or.inl quad)
    · exact Or.inr (Or.inr ⟨group.noQuad, group⟩)

/-! ### Which hosts are told apart -/

theorem ReadsAsPrivateQuad.length_eq {name : Text} (quad : ReadsAsPrivateQuad name) :
    (name.splitOn '.').length = 4 := by
  obtain ⟨a, b, quad, -⟩ := quad
  exact quad.length_eq

theorem ReadsAsGroup.length_eq {name : Text} (group : ReadsAsGroup name) : name.length = 4 := by
  obtain ⟨second, third, fourth, rfl, -⟩ := group
  rfl

/-- A mapped address begins with zeros, and so with none of the other ranges. -/
theorem MappedPrivate.not_local {pieces : Pieces} (mapped : MappedPrivate pieces) :
    ¬ (pieces.list = [0, 0, 0, 0, 0, 0, 0, 0] ∨ pieces.list = [0, 0, 0, 0, 0, 0, 0, 1] ∨
      ∃ piece ∈ pieces.list.head?, LocalPiece piece) := by
  obtain ⟨high, low, shape, -⟩ := mapped
  rw [shape]
  simp [LocalPiece]

/-- The check tells an unreachable host from the others exactly where it reads the host right:
not a mapped private address, `localhost` with a trailing dot, or a name that it takes for an
address. -/
theorem isLoopbackOrPrivateHost_recognises (host : Host) :
    (isLoopbackOrPrivateHost host.serialize = true ↔ Unreachable host) ↔ ReadRight host := by
  cases host with
  | ipv4 first second third fourth =>
      exact iff_of_true (isLoopbackOrPrivateHost_ipv4 first second third fourth) trivial
  | ipv6 pieces =>
      rw [isLoopbackOrPrivateHost_ipv6, Unreachable, ReadRight]
      constructor
      · intro same mapped
        exact mapped.not_local (same.mpr (Or.inr (Or.inr (Or.inr mapped))))
      · intro unmapped
        rw [or_iff_left unmapped]
  | domain name =>
      rw [isLoopbackOrPrivateHost_domain, Unreachable, ReadRight]
      by_cases bare : name.text = "localhost".toList
      · refine iff_of_true (iff_of_true (Or.inl bare) (Or.inl bare)) ⟨?_, ?_, ?_⟩
        · rw [bare]
          decide
        · intro group
          have four := group.length_eq
          rw [bare] at four
          exact absurd four (by decide)
        · intro quad
          have four := quad.length_eq
          rw [bare] at four
          exact absurd four (by decide)
      · by_cases dotted : name.text = "localhost.".toList
        · refine iff_of_false ?_ fun right => right.1 dotted
          intro same
          rcases same.mpr (Or.inr dotted) with local' | quad | group
          · exact bare local'
          · have four := quad.length_eq
            rw [dotted] at four
            exact absurd four (by decide)
          · have four := group.length_eq
            rw [dotted] at four
            exact absurd four (by decide)
        · simp only [bare, dotted, false_or, or_false, iff_false, ne_eq, not_false_eq_true,
            true_and, not_or]
          exact and_comm

def dottedLocalhost : Domain :=
  ⟨"localhost.".toList, by decide, List.all_eq_true.mp (by decide), by decide⟩

/-- The parser leaves a trailing dot, which the check does not look past. -/
theorem isLoopbackOrPrivateHost_misses_dotted :
    ¬ (isLoopbackOrPrivateHost (Host.domain dottedLocalhost).serialize = true ↔
      Unreachable (.domain dottedLocalhost)) := by
  have missed : isLoopbackOrPrivateHost "localhost.".toList = false := by decide
  have text : dottedLocalhost.text = "localhost.".toList := rfl
  have unreachable : Unreachable (.domain dottedLocalhost) := by
    rw [Unreachable]
    exact Or.inr text
  intro same
  have found := same.mpr unreachable
  rw [Host.serialize, text, missed] at found
  cases found

end MarketMind.Publishing.Media
