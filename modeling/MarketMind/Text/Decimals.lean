import Mathlib.Algebra.Order.Field.Rat
import Mathlib.Algebra.Order.Field.Power
import Mathlib.Data.List.TakeWhile
import Mathlib.Data.Nat.Digits.Defs
import Mathlib.Tactic.Positivity

/-!
Owns finite numbers by the decimals that ECMAScript chooses for them, with
`Number::toString`, and that no two numbers have one text.

Does not own the choice of a decimal for a binary64 number. Both zeros have one
text, and are one number here.
-/

namespace MarketMind.Text

/-- A positive number: its digits, and where the point stands among them. The digits are as
few as can be, so the last one is no zero. -/
structure Decimal where
  digits : Nat
  point : Int
  shortest : digits % 10 ≠ 0
deriving DecidableEq

namespace Decimal

/-- The digits as they are written. -/
def chars (decimal : Decimal) : List Char := Nat.toDigits 10 decimal.digits

def value (decimal : Decimal) : ℚ := decimal.digits * 10 ^ (decimal.point - decimal.chars.length)

/-- The digits of a number in scientific notation. -/
def scientific (decimal : Decimal) : List Char :=
  match decimal.chars with
  | first :: second :: rest => first :: '.' :: second :: rest
  | short => short

/-- The digits of a number written out, when the point stands among them or before them. -/
def positional (decimal : Decimal) : List Char :=
  if 0 < decimal.point then
    decimal.chars.take decimal.point.toNat ++ '.' :: decimal.chars.drop decimal.point.toNat
  else '0' :: '.' :: (List.replicate (-decimal.point).toNat '0' ++ decimal.chars)

/-- An integer written out, when the point stands behind the digits. -/
def whole (decimal : Decimal) : List Char :=
  decimal.chars ++ List.replicate (decimal.point.toNat - decimal.chars.length) '0'

/-- Whether the point stands behind the digits. -/
def Whole (decimal : Decimal) : Prop := (decimal.chars.length : Int) ≤ decimal.point

instance (decimal : Decimal) : Decidable decimal.Whole := inferInstanceAs (Decidable (_ ≤ _))

def exponentChars (exponent : Int) : List Char :=
  (if exponent < 0 then '-' else '+') :: Nat.toDigits 10 exponent.natAbs

/-- `Number::toString` -/
def ecmaScript (decimal : Decimal) : List Char :=
  if decimal.point ≤ 21 ∧ decimal.Whole then decimal.whole
  else if -6 < decimal.point ∧ decimal.point ≤ 21 then decimal.positional
  else decimal.scientific ++ 'e' :: exponentChars (decimal.point - 1)

example : (ecmaScript ⟨12, 4, by decide⟩, ecmaScript ⟨125, 0, by decide⟩,
      ecmaScript ⟨125, -7, by decide⟩) =
    ("1200".toList, "0.125".toList, "1.25e-8".toList) := by decide

/-! ## The number that a decimal stands for -/

theorem value_pos (decimal : Decimal) : 0 < decimal.value := by
  have positive : 0 < decimal.digits :=
    Nat.pos_of_ne_zero fun none => decimal.shortest (by rw [none])
  unfold value
  positivity

/-- Of two decimals of one value, the one does not go on behind the other. -/
private theorem digits_eq_of_shift {left right : Decimal} {shift : Nat}
    (same : left.digits = right.digits * 10 ^ shift) : shift = 0 := by
  cases shift with
  | zero => rfl
  | succ shift =>
      rw [Nat.pow_succ, ← Nat.mul_assoc] at same
      exact absurd (same ▸ Nat.mul_mod_left _ _) left.shortest

private theorem eq_of_value_le {left right : Decimal} (same : left.value = right.value)
    (ordered : left.point - left.chars.length ≤ right.point - right.chars.length) :
    left = right := by
  obtain ⟨shift, isShift⟩ := Int.le.dest ordered
  unfold value at same
  rw [← isShift, zpow_add₀ (by norm_num), zpow_natCast, mul_comm ((10 : ℚ) ^ (_ : ℤ)),
    ← mul_assoc] at same
  have scaled : left.digits = right.digits * 10 ^ shift := by
    have cancelled := mul_right_cancel₀ (by positivity) same
    exact_mod_cast cancelled
  obtain rfl := digits_eq_of_shift scaled
  obtain ⟨leftDigits, leftPoint, leftShortest⟩ := left
  obtain ⟨rightDigits, rightPoint, rightShortest⟩ := right
  obtain rfl : leftDigits = rightDigits := by simpa using scaled
  simp only [chars] at isShift
  obtain rfl : leftPoint = rightPoint := by omega
  rfl

theorem value_injective : Function.Injective value := by
  intro left right same
  rcases le_total (left.point - left.chars.length) (right.point - right.chars.length) with
    ordered | ordered
  · exact eq_of_value_le same ordered
  · exact (eq_of_value_le same.symm ordered).symm

/-! ## Reading back -/

def readExponent : List Char → Int
  | '-' :: digits => -(Nat.ofDigitChars 10 digits 0 : Int)
  | '+' :: digits => Nat.ofDigitChars 10 digits 0
  | _ => 0

/-- The value of digits with a point among them. -/
def readMantissa (text : List Char) : ℚ :=
  let whole := text.takeWhile (· ≠ '.')
  let fraction := (text.dropWhile (· ≠ '.')).drop 1
  Nat.ofDigitChars 10 (whole ++ fraction) 0 * 10 ^ (-(fraction.length : Int))

/-- The value of a decimal literal without a sign. -/
def read (text : List Char) : ℚ :=
  readMantissa (text.takeWhile (· ≠ 'e')) *
    10 ^ readExponent ((text.dropWhile (· ≠ 'e')).drop 1)

private theorem takeWhile_of_notMem {text : List Char} {mark : Char} (plain : mark ∉ text) :
    text.takeWhile (· ≠ mark) = text ∧ text.dropWhile (· ≠ mark) = [] := by
  have all : ∀ char ∈ text, decide (char ≠ mark) = true :=
    fun char member => decide_eq_true fun same => plain (same ▸ member)
  exact ⟨List.takeWhile_eq_self_iff.2 all, List.dropWhile_eq_nil_iff.2 all⟩

private theorem takeWhile_mark {text rest : List Char} {mark : Char} (plain : mark ∉ text) :
    (text ++ mark :: rest).takeWhile (· ≠ mark) = text ∧
      (text ++ mark :: rest).dropWhile (· ≠ mark) = mark :: rest := by
  have all : ∀ char ∈ text, decide (char ≠ mark) = true :=
    fun char member => decide_eq_true fun same => plain (same ▸ member)
  constructor
  · rw [List.takeWhile_append_of_pos all, List.takeWhile_cons_of_neg (by simp), List.append_nil]
  · rw [List.dropWhile_append_of_pos all, List.dropWhile_cons_of_neg (by simp)]

private theorem readMantissa_whole {text : List Char} (plain : '.' ∉ text) :
    readMantissa text = Nat.ofDigitChars 10 text 0 := by
  unfold readMantissa
  rw [(takeWhile_of_notMem plain).1, (takeWhile_of_notMem plain).2]
  simp

private theorem readMantissa_point {whole fraction : List Char} (plain : '.' ∉ whole) :
    readMantissa (whole ++ '.' :: fraction) =
      Nat.ofDigitChars 10 (whole ++ fraction) 0 * 10 ^ (-(fraction.length : Int)) := by
  unfold readMantissa
  rw [(takeWhile_mark plain).1, (takeWhile_mark plain).2]
  rfl

private theorem read_plain {text : List Char} (plain : 'e' ∉ text) :
    read text = readMantissa text := by
  unfold read
  rw [(takeWhile_of_notMem plain).1, (takeWhile_of_notMem plain).2]
  simp [readExponent]

private theorem read_exponent {mantissa exponent : List Char} (plain : 'e' ∉ mantissa) :
    read (mantissa ++ 'e' :: exponent) = readMantissa mantissa * 10 ^ readExponent exponent := by
  unfold read
  rw [(takeWhile_mark plain).1, (takeWhile_mark plain).2]
  rfl

theorem isDigit_of_mem {decimal : Decimal} {char : Char} (member : char ∈ decimal.chars) :
    char.isDigit = true :=
  Nat.isDigit_of_mem_toDigits (b := 10) (by decide) (by decide) member

theorem notMem_chars (decimal : Decimal) {mark : Char} (isMark : mark.isDigit = false) :
    mark ∉ decimal.chars := fun member =>
  Bool.noConfusion (isMark.symm.trans (isDigit_of_mem member))

private theorem notMem_zeros (count : Nat) {mark : Char} (isMark : mark.isDigit = false) :
    mark ∉ List.replicate count '0' := fun member => by
  rw [List.eq_of_mem_replicate member] at isMark
  exact absurd isMark (by decide)

theorem notMem_whole (decimal : Decimal) {mark : Char} (isMark : mark.isDigit = false) :
    mark ∉ decimal.whole := fun member =>
  (List.mem_append.1 member).elim (decimal.notMem_chars isMark) (notMem_zeros _ isMark)

private theorem ofDigitChars_chars (decimal : Decimal) :
    Nat.ofDigitChars 10 decimal.chars 0 = decimal.digits := Nat.ofDigitChars_ten_toDigits

private theorem read_whole {decimal : Decimal} (isWhole : decimal.Whole) :
    read decimal.whole = decimal.value := by
  rw [read_plain (decimal.notMem_whole (by decide)),
    readMantissa_whole (decimal.notMem_whole (by decide)), whole, Nat.ofDigitChars_append,
    ofDigitChars_chars, Nat.ofDigitChars_replicate_zero, value, mul_comm]
  push_cast
  rw [← zpow_natCast]
  unfold Whole at isWhole
  congr 2
  omega

private theorem notMem_positional (decimal : Decimal) : 'e' ∉ decimal.positional := by
  have written : 'e' ∉ decimal.chars := decimal.notMem_chars (by decide)
  unfold positional
  split
  · intro member
    rcases List.mem_append.1 member with before | after
    · exact written (List.mem_of_mem_take before)
    · rcases List.mem_cons.1 after with isPoint | after
      · exact absurd isPoint (by decide)
      · exact written (List.mem_of_mem_drop after)
  · simpa using written

private theorem read_positional {decimal : Decimal} (fractional : ¬ decimal.Whole) :
    read decimal.positional = decimal.value := by
  have written : '.' ∉ decimal.chars := decimal.notMem_chars (by decide)
  rw [read_plain decimal.notMem_positional]
  unfold positional value
  unfold Whole at fractional
  split
  · rw [readMantissa_point fun member => written (List.mem_of_mem_take member),
      List.take_append_drop, ofDigitChars_chars, List.length_drop]
    congr 2
    omega
  · rw [show '0' :: '.' :: (List.replicate (-decimal.point).toNat '0' ++ decimal.chars) =
        ['0'] ++ '.' :: (List.replicate (-decimal.point).toNat '0' ++ decimal.chars) from rfl,
      readMantissa_point (by decide), List.length_append, List.length_replicate]
    have zeros : Nat.ofDigitChars 10
        (['0'] ++ (List.replicate (-decimal.point).toNat '0' ++ decimal.chars)) 0 =
          decimal.digits := by
      rw [Nat.ofDigitChars_append, Nat.ofDigitChars_append, Nat.ofDigitChars_replicate_zero]
      simpa [Nat.ofDigitChars] using ofDigitChars_chars decimal
    rw [zeros]
    congr 2
    omega

private theorem readExponent_exponentChars (exponent : Int) :
    readExponent (exponentChars exponent) = exponent := by
  unfold exponentChars
  split
  · rw [readExponent, Nat.ofDigitChars_ten_toDigits]
    omega
  · rw [readExponent, Nat.ofDigitChars_ten_toDigits]
    omega

private theorem readMantissa_scientific (decimal : Decimal) :
    readMantissa decimal.scientific =
      decimal.digits * 10 ^ (1 - (decimal.chars.length : Int)) := by
  have plain : '.' ∉ decimal.chars := decimal.notMem_chars (by decide)
  have digits := ofDigitChars_chars decimal
  have filled : decimal.chars ≠ [] := Nat.toDigits_ne_nil
  unfold scientific
  generalize decimal.chars = chars at plain digits filled ⊢
  match chars, filled with
  | [digit], _ => simp [readMantissa_whole plain, digits]
  | first :: second :: rest, _ =>
      have isFirst : '.' ∉ [first] := fun member => plain (by simp_all)
      have read := @readMantissa_point [first] (second :: rest) isFirst
      rw [List.singleton_append, List.singleton_append, digits] at read
      refine read.trans ?_
      congr 2

private theorem notMem_scientific (decimal : Decimal) : 'e' ∉ decimal.scientific := by
  have plain : 'e' ∉ decimal.chars := decimal.notMem_chars (by decide)
  unfold scientific
  split
  · next written =>
    rw [written] at plain
    simp_all
  · exact plain

/-- A number is read back from its text. -/
theorem read_ecmaScript (decimal : Decimal) : read decimal.ecmaScript = decimal.value := by
  unfold ecmaScript
  split
  · next short => exact read_whole short.2
  split
  · next notWhole inReach => exact read_positional fun isWhole => notWhole ⟨inReach.2, isWhole⟩
  · rw [read_exponent decimal.notMem_scientific, readExponent_exponentChars,
      readMantissa_scientific, mul_assoc, ← zpow_add₀ (by norm_num), value]
    congr 2
    omega

/-! ## The characters of a number -/

/-- Whether a character can stand in a number. -/
def isNumeric (char : Char) : Bool := char.isDigit ∨ char ∈ ['.', 'e', '+', '-']

theorem starts_with_digit (decimal : Decimal) :
    ∃ first rest, decimal.ecmaScript = first :: rest ∧ first.isDigit = true := by
  have starts : ∃ first rest, decimal.chars = first :: rest ∧ first.isDigit = true := by
    obtain ⟨first, rest, written⟩ :=
      List.exists_cons_of_ne_nil (Nat.toDigits_ne_nil (n := decimal.digits))
    exact ⟨first, rest, written, isDigit_of_mem (written ▸ List.mem_cons_self)⟩
  obtain ⟨first, rest, written, isDigit⟩ := starts
  unfold ecmaScript whole positional scientific
  rw [written]
  split
  · exact ⟨first, _, rfl, isDigit⟩
  split
  · split
    · next behind =>
      obtain ⟨count, isCount⟩ := Nat.exists_eq_succ_of_ne_zero (n := decimal.point.toNat) (by omega)
      exact ⟨first, _, by rw [isCount]; rfl, isDigit⟩
    · exact ⟨'0', _, rfl, by decide⟩
  · cases rest with
    | nil => exact ⟨first, _, rfl, isDigit⟩
    | cons second rest => exact ⟨first, _, rfl, isDigit⟩

private theorem numeric_of_digit {char : Char} (digit : char.isDigit = true) :
    isNumeric char = true := decide_eq_true (Or.inl digit)

private theorem numeric_positional (decimal : Decimal) :
    ∀ char ∈ decimal.positional, isNumeric char = true := by
  unfold positional
  intro char member
  split at member
  · rcases List.mem_append.1 member with before | after
    · exact numeric_of_digit (isDigit_of_mem (List.mem_of_mem_take before))
    · rcases List.mem_cons.1 after with rfl | after
      · decide
      · exact numeric_of_digit (isDigit_of_mem (List.mem_of_mem_drop after))
  · rcases List.mem_cons.1 member with rfl | member
    · decide
    rcases List.mem_cons.1 member with rfl | member
    · decide
    rcases List.mem_append.1 member with zero | written
    · rw [List.eq_of_mem_replicate zero]
      decide
    · exact numeric_of_digit (isDigit_of_mem written)

private theorem numeric_scientific (decimal : Decimal) :
    ∀ char ∈ decimal.scientific, isNumeric char = true := by
  intro char member
  unfold scientific at member
  split at member
  · next written =>
    rcases List.mem_cons.1 member with rfl | member
    · exact numeric_of_digit (isDigit_of_mem (written ▸ List.mem_cons_self))
    rcases List.mem_cons.1 member with rfl | member
    · decide
    · exact numeric_of_digit (isDigit_of_mem (written ▸ List.mem_cons_of_mem _ member))
  · exact numeric_of_digit (isDigit_of_mem member)

theorem numeric_ecmaScript (decimal : Decimal) :
    ∀ char ∈ decimal.ecmaScript, isNumeric char = true := by
  unfold ecmaScript
  intro char member
  split at member
  · rcases List.mem_append.1 member with written | zero
    · exact numeric_of_digit (isDigit_of_mem written)
    · rw [List.eq_of_mem_replicate zero]
      decide
  split at member
  · exact numeric_positional decimal char member
  rcases List.mem_append.1 member with mantissa | exponent
  · exact numeric_scientific decimal char mantissa
  rcases List.mem_cons.1 exponent with rfl | exponent
  · decide
  rcases List.mem_cons.1 exponent with rfl | digit
  · split <;> decide
  · exact numeric_of_digit (Nat.isDigit_of_mem_toDigits (b := 10) (by decide) (by decide) digit)

end Decimal

/-- A number that is neither infinite nor not a number. -/
inductive FiniteNumber
  | zero
  | nonzero (negative : Bool) (size : Decimal)
deriving DecidableEq

namespace FiniteNumber

def value : FiniteNumber → ℚ
  | zero => 0
  | nonzero negative size => if negative then -size.value else size.value

/-- `String(value)` -/
def chars : FiniteNumber → List Char
  | zero => ['0']
  | nonzero negative size => if negative then '-' :: size.ecmaScript else size.ecmaScript

/-- `Number(text)` -/
def read : List Char → ℚ
  | '-' :: text => -Decimal.read text
  | text => Decimal.read text

theorem value_injective : Function.Injective value := by
  intro left right same
  have positive := Decimal.value_pos
  match left, right with
  | zero, zero => rfl
  | zero, nonzero negative size | nonzero negative size, zero =>
      have := positive size
      cases negative <;> simp [value] at same <;> linarith
  | nonzero leftNegative left, nonzero rightNegative right =>
      have leftPositive := positive left
      have rightPositive := positive right
      cases leftNegative <;> cases rightNegative <;>
        simp only [value, Bool.false_eq_true, if_true, if_false, neg_inj] at same
      · rw [Decimal.value_injective same]
      · linarith
      · linarith
      · rw [Decimal.value_injective same]

theorem read_chars (number : FiniteNumber) : read number.chars = number.value := by
  match number with
  | zero => decide +kernel
  | nonzero true size => exact congrArg Neg.neg size.read_ecmaScript
  | nonzero false size =>
      obtain ⟨first, rest, written, isDigit⟩ := size.starts_with_digit
      have reads := size.read_ecmaScript
      simp only [chars, value, Bool.false_eq_true, if_false]
      rw [written] at reads ⊢
      rw [read]
      · exact reads
      · intro text same
        rw [(List.cons.inj same).1] at isDigit
        exact absurd isDigit (by decide)

/-- No two numbers have one text. -/
theorem chars_injective : Function.Injective chars := fun left right same =>
  value_injective (by rw [← read_chars, ← read_chars, same])

theorem numeric_chars (number : FiniteNumber) :
    number.chars ≠ [] ∧ ∀ char ∈ number.chars, Decimal.isNumeric char = true := by
  match number with
  | zero => exact ⟨by decide, List.all_eq_true.1 rfl⟩
  | nonzero negative size =>
      obtain ⟨first, rest, written, -⟩ := size.starts_with_digit
      have numeric := size.numeric_ecmaScript
      cases negative with
      | true =>
          refine ⟨List.cons_ne_nil _ _, fun char member => ?_⟩
          rcases List.mem_cons.1 member with rfl | member
          · decide
          · exact numeric char member
      | false => exact ⟨by simp [chars, written], numeric⟩

end FiniteNumber

end MarketMind.Text
