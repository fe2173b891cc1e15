import MarketMind.Text.Enumeration

/-!
Owns `canonicalPublishingJson` of any value, and which JSON values have one
canonical text.

Does not own the digests over that text.
-/

namespace MarketMind.Publishing.Canonical

open Text

/-- Any value. `other` stands for those that are no part of JSON: functions, symbols, big
integers, and the numbers that are not finite. -/
inductive Value
  | undefined
  | null
  | boolean (value : Bool)
  | number (value : FiniteNumber)
  | string (value : JsString)
  | array (items : List Value)
  | object (fields : List (JsString × Value))
  | other

mutual

/-- The canonical value, unless a `TypeError` is thrown. Keys are put in order after the values
behind them are canonical, which the order does not look at. -/
def canonicalizePublishingValue : Value → Option CanonicalJson
  | .null => some .null
  | .boolean value => some (.boolean value)
  | .number value => some (.number value)
  | .string value => some (.string value)
  | .array items => (canonicalizeItems items).map .array
  | .object fields => (canonicalizeFields fields).map fun fields =>
      .object (fromEntries (fields.insertionSort fun left right => left.1 ≤ right.1))
  | .undefined | .other => none

def canonicalizeItems : List Value → Option (List CanonicalJson)
  | [] => some []
  | item :: rest => do
      let item ← canonicalizePublishingValue item
      let rest ← canonicalizeItems rest
      return item :: rest

/-- `filter(([, child]) => child !== undefined)` leaves properties out. -/
def canonicalizeFields : List (JsString × Value) → Option (List (JsString × CanonicalJson))
  | [] => some []
  | (_, .undefined) :: rest => canonicalizeFields rest
  | (name, value) :: rest => do
      let value ← canonicalizePublishingValue value
      let rest ← canonicalizeFields rest
      return (name, value) :: rest

end

def canonicalPublishingJson (value : Value) : Option JsString :=
  (canonicalizePublishingValue value).map CanonicalJson.stringify

/-! ## JSON values -/

mutual

/-- A JSON value, as a value. -/
def ofJson : CanonicalJson → Value
  | .null => .null
  | .boolean value => .boolean value
  | .number value => .number value
  | .string value => .string value
  | .array items => .array (ofItems items)
  | .object fields => .object (ofFields fields)

def ofItems : List CanonicalJson → List Value
  | [] => []
  | item :: rest => ofJson item :: ofItems rest

def ofFields : List (JsString × CanonicalJson) → List (JsString × Value)
  | [] => []
  | (name, value) :: rest => (name, ofJson value) :: ofFields rest

end

/-- The arrangement of canonical values. -/
def byKey : CanonicalJson.Arrangement := .byRank id Function.injective_id

mutual

theorem canonicalize_ofJson : (json : CanonicalJson) →
    canonicalizePublishingValue (ofJson json) = some (byKey.value json)
  | .null | .boolean _ | .number _ | .string _ => rfl
  | .array items => by
      rw [ofJson, canonicalizePublishingValue, canonicalizeItems_ofItems items]
      rfl
  | .object fields => by
      rw [ofJson, canonicalizePublishingValue, canonicalizeFields_ofFields fields]
      rfl

theorem canonicalizeItems_ofItems : (items : List CanonicalJson) →
    canonicalizeItems (ofItems items) = some (byKey.values items)
  | [] => rfl
  | item :: rest => by
      rw [ofItems, canonicalizeItems, canonicalize_ofJson item,
        canonicalizeItems_ofItems rest]
      rfl

theorem canonicalizeFields_ofFields : (fields : List (JsString × CanonicalJson)) →
    canonicalizeFields (ofFields fields) = some (byKey.fieldValues fields)
  | [] => rfl
  | (name, value) :: rest => by
      rw [ofFields, canonicalizeFields, canonicalize_ofJson value,
        canonicalizeFields_ofFields rest]
      · rfl
      · cases value <;> nofun

end

theorem canonicalPublishingJson_ofJson (json : CanonicalJson) :
    canonicalPublishingJson (ofJson json) = some (byKey.value json).stringify := by
  rw [canonicalPublishingJson, canonicalize_ofJson]
  rfl

/-- Every JSON value has a canonical text. It is that of another value exactly when the two are
equal up to the order of keys, and canonicalizing a canonical value leaves it as it is. -/
theorem canonical_text_is_faithful {json : CanonicalJson} (distinct : json.Distinct) :
    (canonicalPublishingJson (ofJson json)).isSome = true ∧
      (∀ other : CanonicalJson, canonicalPublishingJson (ofJson json) =
        canonicalPublishingJson (ofJson other) ↔ CanonicalJson.SameUpToOrder json other) ∧
      ∃ canonical, canonicalizePublishingValue (ofJson json) = some canonical ∧
        canonicalizePublishingValue (ofJson canonical) = some canonical := by
  refine ⟨?_, fun other => ?_, byKey.value json, canonicalize_ofJson json, ?_⟩
  · rw [canonicalPublishingJson_ofJson]
    rfl
  · rw [canonicalPublishingJson_ofJson, canonicalPublishingJson_ofJson, Option.some.injEq,
      CanonicalJson.stringify_injective.eq_iff]
    exact ⟨CanonicalJson.Arrangement.same_of_value json,
      CanonicalJson.Arrangement.value_of_same json distinct⟩
  · rw [canonicalize_ofJson, CanonicalJson.Arrangement.value_value json distinct]

/-- `{"2": true, "b": [0]}` -/
def sampleJson : CanonicalJson :=
  .object [(ascii "2".toList, .boolean true), (ascii "b".toList, .array [.number .zero])]

/-- The same properties, listed the other way. -/
theorem sampleJson_is_faithful :
    canonicalPublishingJson (ofJson sampleJson) = canonicalPublishingJson
        (ofJson (.object [(ascii "b".toList, .array [.number .zero]),
          (ascii "2".toList, .boolean true)])) ∧
      (canonicalPublishingJson (ofJson sampleJson)).isSome = true := by
  have faithful := @canonical_text_is_faithful sampleJson
    ⟨by decide, trivial, ⟨trivial, trivial⟩, trivial⟩
  refine ⟨(faithful.2.1 _).2 (.object ?_ (List.Perm.swap _ _ _)), faithful.1⟩
  exact .cons (.boolean true) (.cons (.array (.cons (.number .zero) .nil)) .nil)

end MarketMind.Publishing.Canonical
