import Mathlib.Data.List.Basic

/-!
Owns strings as JavaScript has them, lists of UTF-16 code units, with the
literals that `JSON.stringify` writes for them, and that a literal is read back
as its string.

Does not own the texts of other values.
-/

namespace MarketMind.Text

namespace CodeUnit

/-! A code unit is a number; nothing here depends on its bound. -/

abbrev quote : Nat := 34
abbrev comma : Nat := 44
abbrev colon : Nat := 58
abbrev openBracket : Nat := 91
abbrev backslash : Nat := 92
abbrev closeBracket : Nat := 93
abbrev openBrace : Nat := 123
abbrev closeBrace : Nat := 125

def isHighSurrogate (unit : Nat) : Bool := 0xd800 ≤ unit ∧ unit ≤ 0xdbff

def isLowSurrogate (unit : Nat) : Bool := 0xdc00 ≤ unit ∧ unit ≤ 0xdfff

def hexDigit (value : Nat) : Nat := if value < 10 then 48 + value else 87 + value

def hexValue (digit : Nat) : Nat := if digit < 58 then digit - 48 else digit - 87

theorem hexValue_hexDigit (value : Nat) (isDigit : value < 16) :
    hexValue (hexDigit value) = value := by
  unfold hexDigit hexValue
  split <;> split <;> omega

/-- `UnicodeEscape`: `\u` and four digits. -/
def unicodeEscape (unit : Nat) : List Nat :=
  [backslash, 117, hexDigit (unit / 4096), hexDigit (unit / 256 % 16), hexDigit (unit / 16 % 16),
    hexDigit (unit % 16)]

/-- A code unit that is no half of a pair, as `QuoteJSONString` writes it. -/
def escape (unit : Nat) : List Nat :=
  if unit = 8 then [backslash, 98]
  else if unit = 9 then [backslash, 116]
  else if unit = 10 then [backslash, 110]
  else if unit = 12 then [backslash, 102]
  else if unit = 13 then [backslash, 114]
  else if unit = quote ∨ unit = backslash then [backslash, unit]
  else if unit < 32 ∨ isHighSurrogate unit ∨ isLowSurrogate unit then unicodeEscape unit
  else [unit]

/-- The code unit behind a backslash, unless that is a `u`. -/
def unescape (unit : Nat) : Nat :=
  if unit = 98 then 8
  else if unit = 116 then 9
  else if unit = 110 then 10
  else if unit = 102 then 12
  else if unit = 114 then 13
  else unit

end CodeUnit

open CodeUnit

/-- The code units of an ASCII text. -/
def ascii (text : List Char) : List Nat := text.map Char.toNat

theorem ascii_injective : Function.Injective ascii :=
  List.map_injective_iff.2 fun left right same => by
    rw [← Char.ofNat_toNat left, same, Char.ofNat_toNat]

/-- A string literal without its first quote. Pairs of surrogates are written as they are. -/
def quoted : List Nat → List Nat
  | [] => [quote]
  | [unit] => escape unit ++ [quote]
  | unit :: next :: rest =>
      if isHighSurrogate unit ∧ isLowSurrogate next then unit :: next :: quoted rest
      else escape unit ++ quoted (next :: rest)

/-- The string that a literal without its first quote stands for, and what follows it. -/
def unquote : List Nat → Option (List Nat × List Nat)
  | [] => none
  | unit :: rest =>
      if unit = quote then some ([], rest)
      else if unit = backslash then
        match rest with
        | 117 :: first :: second :: third :: fourth :: rest =>
            (unquote rest).map fun (value, rest) =>
              ((4096 * hexValue first + 256 * hexValue second + 16 * hexValue third +
                hexValue fourth) :: value, rest)
        | mark :: rest => (unquote rest).map fun (value, rest) => (unescape mark :: value, rest)
        | [] => none
      else (unquote rest).map fun (value, rest) => (unit :: value, rest)

theorem unquote_quote (rest : List Nat) : unquote (quote :: rest) = some ([], rest) := by
  rw [unquote.eq_def]
  exact if_pos rfl

theorem unquote_plain {unit : Nat} {rest : List Nat} (notQuote : unit ≠ quote)
    (notEscape : unit ≠ backslash) :
    unquote (unit :: rest) = (unquote rest).map fun (value, rest) => (unit :: value, rest) := by
  rw [unquote.eq_def]
  dsimp only
  rw [if_neg notQuote, if_neg notEscape]

theorem unquote_mark {mark : Nat} {rest : List Nat} (notHex : mark ≠ 117) :
    unquote (backslash :: mark :: rest) =
      (unquote rest).map fun (value, rest) => (unescape mark :: value, rest) := by
  rw [unquote, if_neg (by decide), if_pos rfl]
  rintro _ _ _ _ _ same
  exact absurd same notHex

theorem unquote_unicodeEscape {unit : Nat} {rest : List Nat} (bound : unit < 65536) :
    unquote (unicodeEscape unit ++ rest) =
      (unquote rest).map fun (value, rest) => (unit :: value, rest) := by
  have spelled : 4096 * (unit / 4096) + 256 * (unit / 256 % 16) + 16 * (unit / 16 % 16) +
      unit % 16 = unit := by omega
  change unquote (backslash :: 117 :: _ :: _ :: _ :: _ :: rest) = _
  rw [unquote, if_neg (by decide), if_pos rfl]
  dsimp only
  rw [hexValue_hexDigit _ (by omega), hexValue_hexDigit _ (by omega),
    hexValue_hexDigit _ (by omega), hexValue_hexDigit _ (by omega), spelled]

theorem unquote_escape (unit : Nat) (rest : List Nat) :
    unquote (escape unit ++ rest) =
      (unquote rest).map fun (value, rest) => (unit :: value, rest) := by
  unfold escape
  split
  · next same => subst same; exact unquote_mark (by decide)
  split
  · next same => subst same; exact unquote_mark (by decide)
  split
  · next same => subst same; exact unquote_mark (by decide)
  split
  · next same => subst same; exact unquote_mark (by decide)
  split
  · next same => subst same; exact unquote_mark (by decide)
  split
  · next same => rcases same with rfl | rfl <;> exact unquote_mark (by decide)
  split
  · next hidden =>
    simp only [isHighSurrogate, isLowSurrogate, decide_eq_true_eq] at hidden
    exact unquote_unicodeEscape (by omega)
  · next plain _ =>
    exact unquote_plain (fun same => plain (Or.inl same)) fun same => plain (Or.inr same)

/-- A literal is read back as its string. -/
theorem unquote_quoted (value rest : List Nat) :
    unquote (quoted value ++ rest) = some (value, rest) := by
  fun_induction quoted value with
  | case1 => exact unquote_quote rest
  | case2 unit =>
      rw [List.append_assoc, unquote_escape, List.singleton_append, unquote_quote]
      rfl
  | case3 unit next others isPair inductionHypothesis =>
      simp only [isHighSurrogate, isLowSurrogate, decide_eq_true_eq] at isPair
      rw [List.cons_append, List.cons_append,
        unquote_plain (by unfold quote; omega) (by unfold backslash; omega),
        unquote_plain (by unfold quote; omega) (by unfold backslash; omega), inductionHypothesis]
      rfl
  | case4 unit next others notPair inductionHypothesis =>
      rw [List.append_assoc, unquote_escape, inductionHypothesis]
      rfl

/-- A literal ends at its own quote. -/
theorem quoted_cancel {left right after behind : List Nat}
    (same : quoted left ++ after = quoted right ++ behind) : left = right ∧ after = behind := by
  have read := congrArg unquote same
  rw [unquote_quoted, unquote_quoted] at read
  exact Prod.mk.inj (Option.some.inj read)

end MarketMind.Text
