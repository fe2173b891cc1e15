import MarketMind.Text.Decimals
import MarketMind.Text.Printed
import Mathlib.Data.List.Forall2
import Mathlib.Data.List.Nodup

/-!
Owns JSON values as JavaScript holds them, with `JSON.stringify`, equality up to
the order of keys, and what an arrangement of the keys of every object comes to.

Does not own any particular arrangement.
-/

namespace MarketMind.Text

/-- A property key, or any other string. -/
abbrev JsString := List Nat

/-- A JSON value, with the properties of an object in the order of their enumeration. -/
inductive CanonicalJson
  | null
  | boolean (value : Bool)
  | number (value : FiniteNumber)
  | string (value : JsString)
  | array (items : List CanonicalJson)
  | object (fields : List (JsString × CanonicalJson))

namespace CanonicalJson

mutual

/-- Whether no object names a property twice. -/
def Distinct : CanonicalJson → Prop
  | .null | .boolean _ | .number _ | .string _ => True
  | .array items => DistinctItems items
  | .object fields => (fields.map (·.1)).Nodup ∧ DistinctFields fields

def DistinctItems : List CanonicalJson → Prop
  | [] => True
  | item :: rest => item.Distinct ∧ DistinctItems rest

def DistinctFields : List (JsString × CanonicalJson) → Prop
  | [] => True
  | (_, value) :: rest => value.Distinct ∧ DistinctFields rest

end

mutual

/-- Equality up to the order of keys, at every depth. -/
inductive SameUpToOrder : CanonicalJson → CanonicalJson → Prop
  | null : SameUpToOrder .null .null
  | boolean (value : Bool) : SameUpToOrder (.boolean value) (.boolean value)
  | number (value : FiniteNumber) : SameUpToOrder (.number value) (.number value)
  | string (value : JsString) : SameUpToOrder (.string value) (.string value)
  | array {items others : List CanonicalJson} (same : SameItems items others) :
      SameUpToOrder (.array items) (.array others)
  | object {fields listed others : List (JsString × CanonicalJson)}
      (same : SameFields fields listed) (permuted : listed.Perm others) :
      SameUpToOrder (.object fields) (.object others)

inductive SameItems : List CanonicalJson → List CanonicalJson → Prop
  | nil : SameItems [] []
  | cons {item other : CanonicalJson} {rest others : List CanonicalJson}
      (same : SameUpToOrder item other) (sameRest : SameItems rest others) :
      SameItems (item :: rest) (other :: others)

inductive SameFields :
    List (JsString × CanonicalJson) → List (JsString × CanonicalJson) → Prop
  | nil : SameFields [] []
  | cons {name : JsString} {value other : CanonicalJson}
      {rest others : List (JsString × CanonicalJson)} (same : SameUpToOrder value other)
      (sameRest : SameFields rest others) :
      SameFields ((name, value) :: rest) ((name, other) :: others)

end
/-! ## Arrangements -/

/-- A way of putting properties into an order that depends on their keys only. -/
structure Arrangement where
  arrange : {α : Type} → List (JsString × α) → List (JsString × α)
  perm : ∀ {α : Type} (fields : List (JsString × α)), (arrange fields).Perm fields
  eq_of_perm : ∀ {α : Type} {left right : List (JsString × α)}, (left.map (·.1)).Nodup →
    left.Perm right → arrange left = arrange right

namespace Arrangement

variable (arrangement : Arrangement)

mutual

/-- A value with the properties of every object arranged. -/
def value : CanonicalJson → CanonicalJson
  | .array items => .array (values items)
  | .object fields => .object (arrangement.arrange (fieldValues fields))
  | json => json

def values : List CanonicalJson → List CanonicalJson
  | [] => []
  | item :: rest => value item :: values rest

def fieldValues : List (JsString × CanonicalJson) → List (JsString × CanonicalJson)
  | [] => []
  | (name, json) :: rest => (name, value json) :: fieldValues rest

end

variable {arrangement}

theorem fieldValues_eq_map (fields : List (JsString × CanonicalJson)) :
    arrangement.fieldValues fields =
      fields.map fun field => (field.1, arrangement.value field.2) := by
  induction fields with
  | nil => rfl
  | cons field rest inductionHypothesis => rw [fieldValues, inductionHypothesis, List.map_cons]

theorem keys_fieldValues (fields : List (JsString × CanonicalJson)) :
    (arrangement.fieldValues fields).map (·.1) = fields.map (·.1) := by
  rw [fieldValues_eq_map, List.map_map]
  rfl

theorem keys_of_sameFields {fields listed : List (JsString × CanonicalJson)}
    (same : SameFields fields listed) : listed.map (·.1) = fields.map (·.1) := by
  induction fields generalizing listed with
  | nil =>
      cases same
      rfl
  | cons field rest inductionHypothesis =>
      obtain _ | ⟨_, sameRest⟩ := same
      rw [List.map_cons, List.map_cons, inductionHypothesis sameRest]

mutual

/-- Values that are equal up to the order of keys are arranged alike. -/
theorem value_of_same : (left : CanonicalJson) → left.Distinct → {right : CanonicalJson} →
    SameUpToOrder left right → arrangement.value left = arrangement.value right
  | .null, _, _, .null | .boolean _, _, _, .boolean _ | .number _, _, _, .number _
  | .string _, _, _, .string _ => rfl
  | .array items, distinct, _, .array same => by
      rw [value, value, values_of_same items distinct same]
  | .object fields, distinct, _, .object same permuted => by
      have alike := fieldValues_of_same fields distinct.2 same
      rw [value, value, alike]
      refine congrArg _ (arrangement.eq_of_perm ?_ ?_)
      · rw [← alike, keys_fieldValues]
        exact distinct.1
      · rw [fieldValues_eq_map, fieldValues_eq_map]
        exact permuted.map _

theorem values_of_same : (items : List CanonicalJson) →
    DistinctItems items → {others : List CanonicalJson} →
    SameItems items others → arrangement.values items = arrangement.values others
  | [], _, _, .nil => rfl
  | item :: rest, distinct, _, .cons same sameRest => by
      rw [values, values, value_of_same item distinct.1 same,
        values_of_same rest distinct.2 sameRest]

theorem fieldValues_of_same : (fields : List (JsString × CanonicalJson)) →
    DistinctFields fields → {listed : List (JsString × CanonicalJson)} →
    SameFields fields listed → arrangement.fieldValues fields = arrangement.fieldValues listed
  | [], _, _, .nil => rfl
  | (_, value) :: rest, distinct, _, .cons same sameRest => by
      rw [fieldValues, fieldValues, value_of_same value distinct.1 same,
        fieldValues_of_same rest distinct.2 sameRest]

end

/-- A permutation of arranged properties comes from one of the properties. -/
private theorem exists_listed {left others : List (JsString × CanonicalJson)}
    (permuted : left.Perm (arrangement.fieldValues others)) :
    ∃ listed, left = arrangement.fieldValues listed ∧ listed.Perm others := by
  rw [fieldValues_eq_map] at permuted
  obtain ⟨listed, isListed, same⟩ := List.perm_comp_forall₂
    (r := fun image field => image = (field.1, arrangement.value field.2)) permuted
    (List.forall₂_map_left_iff.2 (List.forall₂_same.2 fun _ _ => rfl))
  refine ⟨listed, ?_, same⟩
  rw [fieldValues_eq_map, ← List.forall₂_eq_eq_eq, List.forall₂_map_right_iff]
  exact isListed

mutual

/-- Only values that are equal up to the order of keys are arranged alike. -/
theorem same_of_value : (left : CanonicalJson) → {right : CanonicalJson} →
    arrangement.value left = arrangement.value right → SameUpToOrder left right
  | .null, right, alike => by
      cases right <;> cases alike
      exact .null
  | .boolean value, right, alike => by
      cases right <;> cases alike
      exact .boolean value
  | .number value, right, alike => by
      cases right <;> cases alike
      exact .number value
  | .string value, right, alike => by
      cases right <;> cases alike
      exact .string value
  | .array items, right, alike => by
      cases right with
      | array others => exact .array (sameItems_of_values items (CanonicalJson.array.inj alike))
      | null | boolean value | number value | string value | object fields => cases alike
  | .object fields, right, alike => by
      cases right with
      | object others =>
          have permuted := (arrangement.perm (arrangement.fieldValues fields)).symm.trans
            (CanonicalJson.object.inj alike ▸ arrangement.perm (arrangement.fieldValues others))
          obtain ⟨listed, isListed, permuted⟩ := exists_listed permuted
          exact .object (sameFields_of_fieldValues fields isListed) permuted
      | null | boolean value | number value | string value | array items => cases alike

theorem sameItems_of_values : (items : List CanonicalJson) → {others : List CanonicalJson} →
    arrangement.values items = arrangement.values others → SameItems items others
  | [], others, alike => by
      cases others with
      | nil => exact .nil
      | cons other others => cases alike
  | item :: rest, others, alike => by
      cases others with
      | nil => cases alike
      | cons other others =>
          obtain ⟨alike, alikeRest⟩ := List.cons.inj alike
          exact .cons (same_of_value item alike) (sameItems_of_values rest alikeRest)

theorem sameFields_of_fieldValues : (fields : List (JsString × CanonicalJson)) →
    {listed : List (JsString × CanonicalJson)} →
    arrangement.fieldValues fields = arrangement.fieldValues listed → SameFields fields listed
  | [], listed, alike => by
      cases listed with
      | nil => exact .nil
      | cons field listed => cases alike
  | (name, value) :: rest, listed, alike => by
      cases listed with
      | nil => cases alike
      | cons field listed =>
          obtain ⟨other, otherValue⟩ := field
          obtain ⟨alike, alikeRest⟩ := List.cons.inj alike
          obtain ⟨rfl, alikeValue⟩ := Prod.mk.inj alike
          exact .cons (same_of_value value alikeValue) (sameFields_of_fieldValues rest alikeRest)

end

mutual

theorem value_value : (json : CanonicalJson) → json.Distinct →
    arrangement.value (arrangement.value json) = arrangement.value json
  | .null, _ | .boolean _, _ | .number _, _ | .string _, _ => rfl
  | .array items, distinct => by
      rw [value, value, values_values items distinct]
  | .object fields, distinct => by
      have fixed : arrangement.fieldValues (arrangement.arrange (arrangement.fieldValues fields)) =
          arrangement.arrange (arrangement.fieldValues fields) := by
        rw [fieldValues_eq_map]
        refine (List.map_congr_left fun field member => ?_).trans (List.map_id _)
        exact value_of_mem fields distinct.2 field ((arrangement.perm _).mem_iff.1 member)
      have permuted := arrangement.perm (arrangement.fieldValues fields)
      rw [value, value, fixed]
      refine congrArg _ (arrangement.eq_of_perm ?_ permuted)
      rw [(permuted.map _).nodup_iff, keys_fieldValues]
      exact distinct.1

theorem values_values : (items : List CanonicalJson) →
    DistinctItems items → arrangement.values (arrangement.values items) = arrangement.values items
  | [], _ => rfl
  | item :: rest, distinct => by
      rw [values, values, value_value item distinct.1,
        values_values rest distinct.2]

theorem value_of_mem : (fields : List (JsString × CanonicalJson)) →
    DistinctFields fields → ∀ field ∈ arrangement.fieldValues fields,
      (field.1, arrangement.value field.2) = id field
  | [], _ => nofun
  | (name, value) :: rest, distinct => by
      intro field member
      rcases List.mem_cons.1 member with rfl | member
      · exact congrArg (Prod.mk name) (value_value value distinct.1)
      · exact value_of_mem rest distinct.2 field member

end

theorem distinctFields_iff {fields : List (JsString × CanonicalJson)} :
    DistinctFields fields ↔ ∀ field ∈ fields, field.2.Distinct := by
  induction fields with
  | nil => simp [DistinctFields]
  | cons field rest inductionHypothesis => simp [DistinctFields, inductionHypothesis]

mutual

theorem distinct_value : (json : CanonicalJson) → json.Distinct → (arrangement.value json).Distinct
  | .null, _ | .boolean _, _ | .number _, _ | .string _, _ => trivial
  | .array items, distinct => distinct_values items distinct
  | .object fields, distinct => by
      have permuted := arrangement.perm (arrangement.fieldValues fields)
      refine ⟨?_, distinctFields_iff.2 fun field member => ?_⟩
      · rw [(permuted.map _).nodup_iff, keys_fieldValues]
        exact distinct.1
      · exact distinct_of_mem fields distinct.2 field (permuted.mem_iff.1 member)

theorem distinct_values : (items : List CanonicalJson) → DistinctItems items →
    DistinctItems (arrangement.values items)
  | [], _ => trivial
  | item :: rest, distinct => ⟨distinct_value item distinct.1, distinct_values rest distinct.2⟩

theorem distinct_of_mem : (fields : List (JsString × CanonicalJson)) → DistinctFields fields →
    ∀ field ∈ arrangement.fieldValues fields, field.2.Distinct
  | [], _ => nofun
  | (name, value) :: rest, distinct => by
      intro field member
      rcases List.mem_cons.1 member with rfl | member
      · exact distinct_value value distinct.1
      · exact distinct_of_mem rest distinct.2 field member

end

end Arrangement

/-! ## Texts -/

mutual

/-- A value as a tree of texts. -/
def printed : CanonicalJson → Printed
  | .null => .atom (ascii "null".toList)
  | .boolean value => .atom (ascii (if value then "true".toList else "false".toList))
  | .number value => .atom (ascii value.chars)
  | .string value => .string value
  | .array items => .array (printedItems items)
  | .object fields => .object (printedFields fields)

def printedItems : List CanonicalJson → List Printed
  | [] => []
  | item :: rest => printed item :: printedItems rest

def printedFields : List (JsString × CanonicalJson) → List (JsString × Printed)
  | [] => []
  | (name, value) :: rest => (name, printed value) :: printedFields rest

end

/-- `JSON.stringify` -/
def stringify (value : CanonicalJson) : JsString := (printed value).units

private theorem structure_of_numeric {char : Char} (numeric : Decimal.isNumeric char = true) :
    Printed.isStructure char.toNat = false := by
  simp only [Decimal.isNumeric, decide_eq_true_eq] at numeric
  rcases numeric with digit | mark
  · have bounds : 48 ≤ char.toNat ∧ char.toNat ≤ 57 := by
      simpa [Char.isDigit, UInt32.le_iff_toNat_le] using digit
    simp only [Printed.isStructure, CodeUnit.quote, CodeUnit.comma, CodeUnit.colon,
      CodeUnit.openBracket, CodeUnit.closeBracket, CodeUnit.openBrace, CodeUnit.closeBrace,
      decide_eq_false_iff_not, List.mem_cons, List.not_mem_nil, or_false]
    omega
  · simp only [List.mem_cons, List.not_mem_nil, or_false] at mark
    rcases mark with rfl | rfl | rfl | rfl <;> decide

private theorem sound_number (number : FiniteNumber) :
    (Printed.atom (ascii number.chars)).Sound := by
  obtain ⟨filled, numeric⟩ := number.numeric_chars
  refine ⟨fun none => filled (List.map_eq_nil_iff.1 none), fun unit member => ?_⟩
  obtain ⟨char, charIn, rfl⟩ := List.mem_map.1 member
  exact structure_of_numeric (numeric char charIn)

mutual

theorem sound_printed : (json : CanonicalJson) → (printed json).Sound
  | .null => ⟨by decide, Printed.plain_of_all (by decide)⟩
  | .boolean value => by cases value <;> exact ⟨by decide, Printed.plain_of_all (by decide)⟩
  | .number value => sound_number value
  | .string _ => trivial
  | .array items => sound_printedItems items
  | .object fields => sound_printedFields fields

theorem sound_printedItems : (items : List CanonicalJson) → Printed.SoundItems (printedItems items)
  | [] => trivial
  | item :: rest => ⟨sound_printed item, sound_printedItems rest⟩

theorem sound_printedFields : (fields : List (JsString × CanonicalJson)) →
    Printed.SoundFields (printedFields fields)
  | [] => trivial
  | (_, value) :: rest => ⟨sound_printed value, sound_printedFields rest⟩

end

/-- No number is written as a word. -/
private theorem number_ne_word {number : FiniteNumber} {first : Char} {rest : List Char}
    (notNumeric : Decimal.isNumeric first = false) :
    ascii number.chars ≠ ascii (first :: rest) := by
  intro same
  have numeric := number.numeric_chars.2 first (ascii_injective same ▸ List.mem_cons_self)
  rw [notNumeric] at numeric
  cases numeric

mutual

theorem eq_of_printed : (left : CanonicalJson) → {right : CanonicalJson} →
    printed left = printed right → left = right
  | .null, right, same => by
      cases right with
      | null => rfl
      | boolean value => cases value <;> exact absurd (Printed.atom.inj same) (by decide)
      | number value => exact absurd (Printed.atom.inj same).symm (number_ne_word (by decide))
      | string value | array items | object fields => cases same
  | .boolean value, right, same => by
      cases right with
      | null => cases value <;> exact absurd (Printed.atom.inj same) (by decide)
      | boolean other =>
          cases value <;> cases other <;>
            first | rfl | exact absurd (Printed.atom.inj same) (by decide)
      | number other =>
          cases value <;> exact absurd (Printed.atom.inj same).symm (number_ne_word (by decide))
      | string other | array items | object fields => cases same
  | .number value, right, same => by
      cases right with
      | null => exact absurd (Printed.atom.inj same) (number_ne_word (by decide))
      | boolean other =>
          cases other <;> exact absurd (Printed.atom.inj same) (number_ne_word (by decide))
      | number other =>
          rw [FiniteNumber.chars_injective (ascii_injective (Printed.atom.inj same))]
      | string other | array items | object fields => cases same
  | .string value, right, same => by
      cases right <;> cases same
      rfl
  | .array items, right, same => by
      cases right with
      | array others => rw [eq_of_printedItems items (Printed.array.inj same)]
      | null | boolean value | number value | string value | object fields => cases same
  | .object fields, right, same => by
      cases right with
      | object others => rw [eq_of_printedFields fields (Printed.object.inj same)]
      | null | boolean value | number value | string value | array items => cases same

theorem eq_of_printedItems : (items : List CanonicalJson) → {others : List CanonicalJson} →
    printedItems items = printedItems others → items = others
  | [], others, same => by
      cases others with
      | nil => rfl
      | cons other others => cases same
  | item :: rest, others, same => by
      cases others with
      | nil => cases same
      | cons other others =>
          obtain ⟨same, sameRest⟩ := List.cons.inj same
          rw [eq_of_printed item same, eq_of_printedItems rest sameRest]

theorem eq_of_printedFields : (fields : List (JsString × CanonicalJson)) →
    {others : List (JsString × CanonicalJson)} →
    printedFields fields = printedFields others → fields = others
  | [], others, same => by
      cases others with
      | nil => rfl
      | cons other others => cases same
  | (name, value) :: rest, others, same => by
      cases others with
      | nil => cases same
      | cons field others =>
          obtain ⟨other, otherValue⟩ := field
          obtain ⟨same, sameRest⟩ := List.cons.inj same
          obtain ⟨rfl, sameValue⟩ := Prod.mk.inj same
          rw [eq_of_printed value sameValue, eq_of_printedFields rest sameRest]

end

/-- No two values have one text. -/
theorem stringify_injective : Function.Injective stringify := fun left right same =>
  eq_of_printed left (Printed.units_injective (sound_printed left) (sound_printed right) same)

end CanonicalJson

end MarketMind.Text
