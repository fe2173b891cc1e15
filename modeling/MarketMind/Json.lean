import Mathlib.Algebra.Group.Int.Defs
import Mathlib.Data.List.Basic

/-!
Owns JSON values as the API sees them after parsing, with the two ways it turns
a value back into text: `String(value)` and `JSON.stringify(value)`.

Does not own parsing. A string is a string of Unicode scalar values, and an
object lists its properties in the order in which they are enumerated.
-/

namespace MarketMind

/-- A parsed number. `integer` covers the integers that `String` writes without
an exponent; of any other number only that text matters. -/
inductive Number
  | integer (value : Int)
  | other (text : String)
deriving DecidableEq

inductive Json
  | null
  | boolean (value : Bool)
  | number (value : Number)
  | string (value : String)
  | array (items : List Json)
  | object (fields : List (String × Json))

namespace Number

/-- `String(value)`. -/
def text : Number → String
  | integer value => toString value
  | other text => text

/-- `JSON.stringify(value)`, which has no text for an infinity. -/
def json : Number → String
  | integer value => toString value
  | other text => if text = "Infinity" ∨ text = "-Infinity" then "null" else text

/-- `Number.isSafeInteger(value)`. -/
def isSafeInteger : Number → Bool
  | integer value => value.natAbs ≤ 9007199254740991
  | other _ => false

/-- The value of a run of decimal digits. -/
def digits (chars : List Char) : Nat :=
  chars.foldl (fun value digit => 10 * value + (digit.toNat - 48)) 0

/-- The integer that a text with an exponent `e+` stands for. -/
def exponentInteger? (chars : List Char) : Option Int :=
  let body := if chars.head? = some '-' then chars.drop 1 else chars
  let mantissa := body.takeWhile (· ≠ 'e')
  match body.dropWhile (· ≠ 'e') with
  | 'e' :: '+' :: exponent =>
      let fraction := (mantissa.dropWhile (· ≠ '.')).drop 1
      let value : Int := digits (mantissa.takeWhile (· ≠ '.') ++ fraction) *
        10 ^ (digits exponent - fraction.length)
      some (if chars.head? = some '-' then -value else value)
  | _ => none

/-- The number, when `Number.isInteger(value)`. -/
def integer? : Number → Option Int
  | integer value => some value
  | other text => exponentInteger? text.toList

end Number

namespace Json

mutual

/-- Whether two values are the same, with the same properties in the same order. -/
def same : Json → Json → Bool
  | null, null => true
  | boolean left, boolean right => left == right
  | number left, number right => left = right
  | string left, string right => left = right
  | array left, array right => sameItems left right
  | object left, object right => sameFields left right
  | _, _ => false

def sameItems : List Json → List Json → Bool
  | [], [] => true
  | left :: lefts, right :: rights => same left right && sameItems lefts rights
  | _, _ => false

def sameFields : List (String × Json) → List (String × Json) → Bool
  | [], [] => true
  | (leftName, left) :: lefts, (rightName, right) :: rights =>
      leftName = rightName && same left right && sameFields lefts rights
  | _, _ => false

end

mutual

theorem same_iff : (left right : Json) → (same left right = true ↔ left = right)
  | null, right => by cases right <;> simp [same]
  | boolean left, right => by cases right <;> simp [same]
  | number left, right => by cases right <;> simp [same]
  | string left, right => by cases right <;> simp [same]
  | array left, right => by cases right <;> simp [same, sameItems_iff left]
  | object left, right => by cases right <;> simp [same, sameFields_iff left]

theorem sameItems_iff : (left right : List Json) → (sameItems left right = true ↔ left = right)
  | [], right => by cases right <;> simp [sameItems]
  | left :: lefts, right => by
      cases right <;> simp [sameItems, same_iff left, sameItems_iff lefts]

theorem sameFields_iff : (left right : List (String × Json)) →
    (sameFields left right = true ↔ left = right)
  | [], right => by cases right <;> simp [sameFields]
  | (name, left) :: lefts, right => by
      cases right <;> simp [sameFields, same_iff left, sameFields_iff lefts, Prod.ext_iff]

end

instance : DecidableEq Json := fun left right => decidable_of_iff _ (same_iff left right)

/-- `isRecord`: an object that is neither `null` nor an array. -/
def fields? : Json → Option (List (String × Json))
  | object fields => some fields
  | _ => none

/-- `value[name]`, where `none` is `undefined`. -/
def get (fields : List (String × Json)) (name : String) : Option Json :=
  (fields.find? (·.1 == name)).map (·.2)

/-- The object with a property set: in place when it has one of that name. -/
def assign (name : String) (value : Json) : List (String × Json) → List (String × Json)
  | [] => [(name, value)]
  | field :: rest =>
      if field.1 == name then (name, value) :: rest else field :: assign name value rest

theorem get_assign_self (fields : List (String × Json)) (name : String) (value : Json) :
    get (assign name value fields) name = some value := by
  unfold get
  induction fields with
  | nil => simp [assign]
  | cons field rest inductionHypothesis =>
      unfold assign
      by_cases same : (field.1 == name) = true
      · rw [if_pos same, List.find?_cons_of_pos (by simp)]
        rfl
      · rw [if_neg same, List.find?_cons_of_neg (by simpa using same)]
        exact inductionHypothesis

theorem get_assign_of_ne (fields : List (String × Json)) {name other : String} (value : Json)
    (apart : other ≠ name) : get (assign name value fields) other = get fields other := by
  unfold get
  induction fields with
  | nil => simp [assign, apart.symm]
  | cons field rest inductionHypothesis =>
      unfold assign
      by_cases same : (field.1 == name) = true
      · have outside : (field.1 == other) = false := by
          rw [beq_iff_eq] at same
          simpa [same] using apart.symm
        rw [if_pos same, List.find?_cons_of_neg (by simpa using apart.symm),
          List.find?_cons_of_neg (by simp [outside])]
      · rw [if_neg same, List.find?_cons, List.find?_cons]
        cases field.1 == other with
        | true => rfl
        | false => exact inductionHypothesis

/-- Setting a property leaves no other property behind than those there were. -/
theorem mem_assign {fields : List (String × Json)} {name : String} {value : Json}
    {field : String × Json} (member : field ∈ assign name value fields) :
    field = (name, value) ∨ field ∈ fields := by
  induction fields with
  | nil => simpa [assign] using member
  | cons first rest inductionHypothesis =>
      unfold assign at member
      by_cases same : (first.1 == name) = true
      · rw [if_pos same] at member
        rcases List.mem_cons.mp member with isSet | inRest
        · exact Or.inl isSet
        · exact Or.inr (List.mem_cons_of_mem _ inRest)
      · rw [if_neg same] at member
        rcases List.mem_cons.mp member with isFirst | inRest
        · exact Or.inr (isFirst ▸ List.mem_cons_self)
        · rcases inductionHypothesis inRest with isSet | inRest
          · exact Or.inl isSet
          · exact Or.inr (List.mem_cons_of_mem _ inRest)

/-- `left ?? right`. -/
def orElse (left right : Option Json) : Option Json :=
  match left with
  | none | some null => right
  | some value => some value

mutual

/-- `String(value)`. -/
def text : Json → String
  | null => "null"
  | boolean value => if value then "true" else "false"
  | number value => value.text
  | string value => value
  | array items => ",".intercalate (texts items)
  | object _ => "[object Object]"

/-- The texts that `Array.prototype.join` puts together. -/
def texts : List Json → List String
  | [] => []
  | null :: rest => "" :: texts rest
  | item :: rest => item.text :: texts rest

end

/-- One hexadecimal digit of a `\u` escape. -/
def hexDigit (value : Nat) : Char :=
  if value < 10 then Char.ofNat (48 + value) else Char.ofNat (87 + value)

/-- A character as `JSON.stringify` writes it inside a string. -/
def escape (char : Char) : List Char :=
  if char = '"' then ['\\', '"']
  else if char = '\\' then ['\\', '\\']
  else if char.toNat = 8 then ['\\', 'b']
  else if char.toNat = 9 then ['\\', 't']
  else if char.toNat = 10 then ['\\', 'n']
  else if char.toNat = 12 then ['\\', 'f']
  else if char.toNat = 13 then ['\\', 'r']
  else if char.toNat < 32 then
    ['\\', 'u', '0', '0', hexDigit (char.toNat / 16), hexDigit (char.toNat % 16)]
  else [char]

/-- A string literal. -/
def quote (value : String) : String :=
  String.ofList ('"' :: value.toList.flatMap escape ++ ['"'])

mutual

/-- `JSON.stringify(value)`. -/
def stringify : Json → String
  | null => "null"
  | boolean value => if value then "true" else "false"
  | number value => value.json
  | string value => quote value
  | array items => "[" ++ ",".intercalate (stringifyAll items) ++ "]"
  | object fields =>
      String.ofList ['\x7b'] ++ ",".intercalate (stringifyFields fields) ++ String.ofList ['\x7d']

def stringifyAll : List Json → List String
  | [] => []
  | item :: rest => item.stringify :: stringifyAll rest

def stringifyFields : List (String × Json) → List String
  | [] => []
  | (name, value) :: rest => (quote name ++ ":" ++ value.stringify) :: stringifyFields rest

end

end Json

end MarketMind
