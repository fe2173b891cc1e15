import MarketMind.Text.Enumeration
import Mathlib.Data.Prod.Lex

/-!
Owns `createProposal` with the checks of a proposal and what its columns give
back, and which proposals converge when they are generated again.

Does not own the decisions on a proposal. Left out are the issues that a check
reports, of which only whether there are any matters here, and values that a
column refuses.
-/

namespace MarketMind.Performance.Proposals

open Text CanonicalJson

/-! ## Checks -/

abbrev Fields := List (JsString × CanonicalJson)

def word (text : String) : JsString := ascii text.toList

/-- A check of a field, where `none` is a field that is missing. It does not look at the order
of keys. -/
structure Check where
  passes : Option CanonicalJson → Bool
  stable : ∀ {left right : CanonicalJson}, left.Distinct → SameUpToOrder left right →
    passes (some left) = passes (some right)

namespace Check

/-- A text of some form. -/
def text (form : JsString → Bool) : Check where
  passes
    | some (.string value) => form value
    | _ => false
  stable := by
    intro left right _ same
    cases same <;> rfl

/-- A finite number of some kind. -/
def number (kind : FiniteNumber → Bool) : Check where
  passes
    | some (.number value) => kind value
    | _ => false
  stable := by
    intro left right _ same
    cases same <;> rfl

def orNull (check : Check) : Check where
  passes
    | some .null => true
    | field => check.passes field
  stable := by
    intro left right distinct same
    cases same with
    | null => rfl
    | boolean | number | string => rfl
    | array same => exact check.stable distinct (.array same)
    | object same permuted => exact check.stable distinct (.object same permuted)

theorem all_of_sameItems (check : Check) {items others : List CanonicalJson}
    (distinct : DistinctItems items) (same : SameItems items others) :
    items.length = others.length ∧
      (items.all fun item => check.passes (some item)) =
        others.all fun item => check.passes (some item) := by
  induction items generalizing others with
  | nil =>
      cases same
      exact ⟨rfl, rfl⟩
  | cons item rest inductionHypothesis =>
      obtain _ | ⟨same, sameRest⟩ := same
      obtain ⟨sameLength, alike⟩ := inductionHypothesis distinct.2 sameRest
      refine ⟨congrArg (· + 1) sameLength, ?_⟩
      rw [List.all_cons, List.all_cons, alike, check.stable distinct.1 same]

/-- At least so many items that pass. -/
def items (least : Nat) (check : Check) : Check where
  passes
    | some (.array items) => least ≤ items.length && items.all fun item => check.passes (some item)
    | _ => false
  stable := by
    intro left right distinct same
    cases same with
    | array same =>
        obtain ⟨sameLength, alike⟩ := check.all_of_sameItems distinct same
        simp only [sameLength, alike]
    | null | boolean | number | string | object => rfl

/-- Whether there are no fields but those that are checked, and these pass. -/
def passRecord (checks : List (JsString × Check)) (fields : Fields) : Bool :=
  (fields.all fun field => (checks.map (·.1)).contains field.1) &&
    checks.all fun check => check.2.passes (fields.lookup check.1)

theorem distinct_of_lookup {fields : Fields} (distinct : DistinctFields fields) {name : JsString}
    {value : CanonicalJson} (found : fields.lookup name = some value) : value.Distinct := by
  induction fields with
  | nil => cases found
  | cons field rest inductionHypothesis =>
      rw [List.lookup_cons] at found
      split at found
      · obtain rfl := Option.some.inj found
        exact distinct.1
      · exact inductionHypothesis distinct.2 found

/-- The same field of two records that list the same properties, one after the other. -/
inductive SameField : Option CanonicalJson → Option CanonicalJson → Prop
  | none : SameField none none
  | some {left right : CanonicalJson} (same : SameUpToOrder left right) :
      SameField (some left) (some right)

theorem lookup_of_sameFields {fields listed : Fields} (same : SameFields fields listed)
    (name : JsString) : SameField (fields.lookup name) (listed.lookup name) := by
  induction fields generalizing listed with
  | nil =>
      cases same
      exact .none
  | cons field rest inductionHypothesis =>
      obtain _ | ⟨same, sameRest⟩ := same
      rw [List.lookup_cons, List.lookup_cons]
      split
      · exact .some same
      · exact inductionHypothesis sameRest

theorem lookup_of_perm {listed others : Fields} (distinct : (listed.map (·.1)).Nodup)
    (permuted : listed.Perm others) (name : JsString) :
    listed.lookup name = others.lookup name := by
  induction permuted with
  | nil => rfl
  | cons field _ inductionHypothesis =>
      rw [List.lookup_cons, List.lookup_cons, inductionHypothesis (List.nodup_cons.1 distinct).2]
  | swap first second rest =>
      have apart : second.1 ≠ first.1 := fun same => (List.nodup_cons.1 distinct).1 (by simp [same])
      rw [List.lookup_cons, List.lookup_cons, List.lookup_cons, List.lookup_cons]
      by_cases isFirst : (name == first.1) = true
      · have notSecond : (name == second.1) = false := by
          rw [beq_iff_eq] at isFirst
          simpa [isFirst] using apart.symm
        rw [isFirst, notSecond]
      · rw [Bool.not_eq_true] at isFirst
        rw [isFirst]
  | trans first second firstHypothesis secondHypothesis =>
      rw [firstHypothesis distinct, secondHypothesis ((first.map _).nodup_iff.1 distinct)]

theorem lookup_of_same {fields others : Fields} (distinct : (fields.map (·.1)).Nodup)
    (same : SameUpToOrder (.object fields) (.object others)) (name : JsString) :
    SameField (fields.lookup name) (others.lookup name) := by
  obtain _ | _ | _ | _ | _ | ⟨sameFields, permuted⟩ := same
  rw [← lookup_of_perm (by rw [Arrangement.keys_of_sameFields sameFields]; exact distinct) permuted]
  exact lookup_of_sameFields sameFields name

theorem keys_of_same {fields others : Fields}
    (same : SameUpToOrder (.object fields) (.object others)) :
    (fields.map (·.1)).Perm (others.map (·.1)) := by
  obtain _ | _ | _ | _ | _ | ⟨sameFields, permuted⟩ := same
  rw [← Arrangement.keys_of_sameFields sameFields]
  exact permuted.map _

theorem passes_of_sameField (check : Check) {left right : Option CanonicalJson}
    (distinct : ∀ value, left = some value → value.Distinct) (same : SameField left right) :
    check.passes left = check.passes right := by
  cases same with
  | none => rfl
  | some same => exact check.stable (distinct _ rfl) same

theorem passRecord_of_same (checks : List (JsString × Check)) {fields others : Fields}
    (distinct : (CanonicalJson.object fields).Distinct)
    (same : SameUpToOrder (.object fields) (.object others)) :
    passRecord checks fields = passRecord checks others := by
  have names : (fields.all fun field => (checks.map (·.1)).contains field.1) =
      others.all fun field => (checks.map (·.1)).contains field.1 := by
    have alike := (keys_of_same same).all_eq (f := fun name => (checks.map (·.1)).contains name)
    rwa [List.all_map, List.all_map] at alike
  unfold passRecord
  rw [names]
  refine congrArg _ (List.all_congr rfl fun check => ?_)
  exact check.2.passes_of_sameField (fun _ found => distinct_of_lookup distinct.2 found)
    (lookup_of_same distinct.1 same check.1)

/-- An object with the fields that are checked. -/
def record (checks : List (JsString × Check)) : Check where
  passes
    | some (.object fields) => passRecord checks fields
    | _ => false
  stable := by
    intro left right distinct same
    cases same with
    | object sameFields permuted =>
        exact passRecord_of_same checks distinct (.object sameFields permuted)
    | null | boolean | number | string | array => rfl

end Check

/-! ## The proposal -/

def isDigit (unit : Nat) : Bool := 48 ≤ unit ∧ unit ≤ 57

def isHex (unit : Nat) : Bool := isDigit unit ∨ (97 ≤ unit ∧ unit ≤ 102) ∨ (65 ≤ unit ∧ unit ≤ 70)

/-- `[1-5]` -/
def isVersion (unit : Nat) : Bool := 49 ≤ unit ∧ unit ≤ 53

/-- `[89ab]`, in either case. -/
def isVariant (unit : Nat) : Bool := unit ∈ [56, 57, 97, 98, 65, 66]

def isHyphen (unit : Nat) : Bool := unit = 45

def matchesShape : List (Nat → Bool) → JsString → Bool
  | [], [] => true
  | test :: tests, unit :: rest => test unit && matchesShape tests rest
  | _, _ => false

/-- `UUID_PATTERN` -/
def isUuid : JsString → Bool :=
  matchesShape (List.replicate 8 isHex ++ isHyphen :: List.replicate 4 isHex ++ isHyphen ::
    isVersion :: List.replicate 3 isHex ++ isHyphen :: isVariant :: List.replicate 3 isHex ++
    isHyphen :: List.replicate 12 isHex)

/-- `SHA256_PATTERN` -/
def isChecksum (text : JsString) : Bool :=
  text.length = 64 && text.all fun unit => isDigit unit ∨ (97 ≤ unit ∧ unit ≤ 102)

/-- What `String.prototype.trim` takes off. -/
def isSpace (unit : Nat) : Bool :=
  unit ∈ [9, 10, 11, 12, 13, 32, 0xa0, 0x1680, 0x2028, 0x2029, 0x202f, 0x205f, 0x3000, 0xfeff] ∨
    (0x2000 ≤ unit ∧ unit ≤ 0x200a)

def isFilled (text : JsString) : Bool := text.any (!isSpace ·)

def isOneOf (words : List String) (text : JsString) : Bool := (words.map word).contains text

def nonNegative : FiniteNumber → Bool
  | .zero => true
  | .nonzero negative _ => !negative

def positiveInteger : FiniteNumber → Bool
  | .zero => false
  | .nonzero negative size => !negative && decide size.Whole

/-- What the checks use of the language and of the policy for generated texts. -/
structure Host where
  /-- Whether `Date.parse` reads a text. -/
  parsesDate : JsString → Bool
  /-- Whether `validateGeneratedPolicy` has no objection. -/
  allows : JsString → Bool
  /-- What a timestamp column gives back. -/
  timestamp : JsString → JsString
  parses_timestamp : ∀ text, parsesDate text = true → parsesDate (timestamp text) = true

variable (host : Host)

/-- `validateComparison` -/
def comparison : Check := .record
  [(word "metric", .text (isOneOf ["post_media_view", "post_clicks"])),
    (word "baseline_median", .number nonNegative),
    (word "values", .items 1 (.number nonNegative)),
    (word "best_snapshot_id", .text isUuid),
    (word "best_value", .number nonNegative),
    (word "delta_from_median", .number fun _ => true),
    (word "delta_percent", .orNull (.number fun _ => true)),
    (word "direction", .text (isOneOf ["higher_is_better"]))]

def generatedText : Check :=
  .text fun text => isFilled text && text.length ≤ 2000 && host.allows text

/-- How a column gives back what is written into it. -/
inductive Column
  | uuid
  | scalar
  | jsonb

/-- The columns of a proposal in the order of its contract, with the checks of their fields. -/
def columns : List (JsString × Column × Check) :=
  [(word "contract_version", .scalar, .text (isOneOf ["optimization-v1"])),
    (word "business_id", .uuid, .text isUuid),
    (word "strategy_id", .uuid, .text isUuid),
    (word "strategy_version", .scalar, .number positiveInteger),
    (word "content_cycle_id", .uuid, .text isUuid),
    (word "format_cohort", .scalar, .text (isOneOf ["text_post", "static_image_post"])),
    (word "basis_snapshot_ids", .jsonb, .items 3 (.text isUuid)),
    (word "evidence_checksum", .scalar, .text isChecksum),
    (word "deterministic_comparison", .jsonb, .items 1 comparison),
    (word "change_kind", .scalar, .text (isOneOf ["hook_style", "cta_wording_style"])),
    (word "summary", .scalar, generatedText host),
    (word "rationale", .scalar, generatedText host),
    (word "uncertainty", .scalar, generatedText host),
    (word "instruction", .scalar, generatedText host),
    (word "model_version", .scalar, .text isFilled),
    (word "prompt_version", .scalar, .text (isOneOf ["optimization-prompt-v1"])),
    (word "generation_fingerprint", .scalar, .text isChecksum),
    (word "status", .scalar, .text (isOneOf ["PENDING_OWNER_DECISION"]))]

/-- `validateOptimizationProposalV1` -/
def validProposal (fields : Fields) : Bool :=
  Check.passRecord ((word "proposal_id", .text isUuid) ::
    (word "created_at", .text host.parsesDate) ::
    (columns host).map fun column => (column.1, column.2.2)) fields

/-! ## The table -/

/-- The code points of a string. -/
def codePoints : JsString → List Nat
  | [] => []
  | [unit] => [unit]
  | unit :: next :: rest =>
      if CodeUnit.isHighSurrogate unit ∧ CodeUnit.isLowSurrogate next then
        (0x10000 + (unit - 0xd800) * 0x400 + (next - 0xdc00)) :: codePoints rest
      else unit :: codePoints (next :: rest)

def utf8Length (point : Nat) : Nat :=
  if point < 0x80 then 1 else if point < 0x800 then 2 else if point < 0x10000 then 3 else 4

/-- JSONB puts shorter keys first, and orders keys of one length by their bytes, that is by their
code points. -/
def jsonbRank (key : JsString) : Nat ×ₗ (List Nat ×ₗ JsString) :=
  toLex (((codePoints key).map utf8Length).sum, toLex (codePoints key, key))

theorem jsonbRank_injective : Function.Injective jsonbRank := fun left right same => by
  have inner := congrArg (fun rank => (ofLex rank).2) same
  exact congrArg (fun rank => (ofLex rank).2) inner

/-- A JSONB value, as it is read again. -/
def jsonbOrder : Arrangement := .byRank jsonbRank jsonbRank_injective

def lowerCase (unit : Nat) : Nat := if 65 ≤ unit ∧ unit ≤ 90 then unit + 32 else unit

def Column.read : Column → CanonicalJson → CanonicalJson
  | .uuid, .string value => .string (value.map lowerCase)
  | .scalar, .string value => .string value
  | .scalar, .number value => .number value
  | .jsonb, value => jsonbOrder.value value
  | _, _ => .null

/-- A stored proposal: its identity, when it was created, and its other columns. -/
structure Row where
  id : JsString
  createdAt : JsString
  content : Fields

/-- The columns as they are read after these fields are written. -/
def readColumns (fields : Fields) : Fields :=
  (columns host).map fun column =>
    (column.1, column.2.1.read ((fields.lookup column.1).getD .null))

def textOf : Option CanonicalJson → JsString
  | some (.string value) => value
  | _ => []

def rowOf (value : Fields) : Row where
  id := (textOf (value.lookup (word "proposal_id"))).map lowerCase
  createdAt := host.timestamp (textOf (value.lookup (word "created_at")))
  content := readColumns host value

/-- The fields of a proposal in the order in which `toProposalContract` lists them. -/
def Row.contract (row : Row) : Fields :=
  row.content.take 1 ++ (word "proposal_id", .string row.id) :: row.content.drop 1 ++
    [(word "created_at", .string row.createdAt)]

inductive ProposalError
  | invalid
  | conflict
deriving DecidableEq

/-- `toProposalContract` -/
def toProposalContract (row : Row) : Except ProposalError Fields :=
  if validProposal host row.contract then .ok row.contract else .error .invalid

/-- The unique key of the table. -/
def Row.key (row : Row) : JsString × JsString :=
  (textOf (row.content.lookup (word "business_id")),
    textOf (row.content.lookup (word "generation_fingerprint")))

/-! ## `createProposal` -/

/-- The object with a property set, in place when it has one of that name. -/
def assign (name : JsString) (value : CanonicalJson) : Fields → Fields
  | [] => [(name, value)]
  | field :: rest =>
      if field.1 = name then (name, value) :: rest else field :: assign name value rest

/-- `left ?? right` -/
def orElse (left : Option CanonicalJson) (right : CanonicalJson) : CanonicalJson :=
  match left with
  | none | some .null => right
  | some value => value

/-- The input with an identity and a time of creation, unless it has them. -/
def completed (freshId now : JsString) (proposal : Fields) : Fields :=
  assign (word "created_at") (orElse (proposal.lookup (word "created_at")) (.string now))
    (assign (word "proposal_id") (orElse (proposal.lookup (word "proposal_id")) (.string freshId))
      proposal)

/-- What `sameProposalGeneration` compares. -/
def identity (fields : Fields) : Fields :=
  fields.filter fun field => field.1 ≠ word "proposal_id" ∧ field.1 ≠ word "created_at"

def comparable (fields : Fields) : JsString := (CanonicalJson.object (identity fields)).stringify

def sameProposalGeneration (left right : Fields) : Bool := comparable left = comparable right

/-- `createProposal`, with the proposals that are stored before and after it. -/
def createProposal (freshId now : JsString) (rows : List Row) (proposal : Fields) :
    Except ProposalError Fields × List Row :=
  let value := completed freshId now proposal
  if !validProposal host value then (.error .invalid, rows)
  else
    let row := rowOf host value
    if rows.any fun other => other.id = row.id ∨ other.key = row.key then
      match rows.find? (·.key = row.key) with
      | none => (.error .conflict, rows)
      | some existing =>
          match toProposalContract host existing with
          | .error error => (.error error, rows)
          | .ok existing =>
              if sameProposalGeneration existing value then (.ok existing, rows)
              else (.error .conflict, rows)
    else (toProposalContract host row, rows ++ [row])

/-! ## What is stored -/

theorem lookup_of_mem {fields : Fields} (distinct : (fields.map (·.1)).Nodup)
    {field : JsString × CanonicalJson} (member : field ∈ fields) :
    fields.lookup field.1 = some field.2 := by
  induction fields with
  | nil => cases member
  | cons first rest inductionHypothesis =>
      rw [List.map_cons, List.nodup_cons] at distinct
      rw [List.lookup_cons]
      rcases List.mem_cons.1 member with rfl | member
      · rw [beq_self_eq_true]
      · have apart : (field.1 == first.1) = false := by
          rw [beq_eq_false_iff_ne]
          exact fun same => distinct.1 (same ▸ List.mem_map_of_mem member)
        rw [apart]
        exact inductionHypothesis distinct.2 member

theorem lookup_filter {fields : Fields} {keeps : JsString → Bool} {name : JsString}
    (kept : keeps name = true) :
    (fields.filter fun field => keeps field.1).lookup name = fields.lookup name := by
  induction fields with
  | nil => rfl
  | cons field rest inductionHypothesis =>
      rw [List.filter_cons, List.lookup_cons]
      by_cases isName : (name == field.1) = true
      · rw [beq_iff_eq] at isName
        subst isName
        rw [if_pos kept, List.lookup_cons, beq_self_eq_true]
      · rw [Bool.not_eq_true] at isName
        rw [isName]
        split
        · rw [List.lookup_cons, isName]
          exact inductionHypothesis
        · exact inductionHypothesis

/-- The fields of a proposal, its identity and its time of creation aside. -/
def contractNames : List JsString :=
  ["contract_version", "business_id", "strategy_id", "strategy_version", "content_cycle_id",
    "format_cohort", "basis_snapshot_ids", "evidence_checksum", "deterministic_comparison",
    "change_kind", "summary", "rationale", "uncertainty", "instruction", "model_version",
    "prompt_version", "generation_fingerprint", "status"].map word

theorem names_columns : (columns host).map (·.1) = contractNames := rfl

theorem names_distinct : contractNames.Nodup := by decide +kernel

variable {host} {column : JsString × Column × Check}

theorem content_of_mem (member : column ∈ columns host) :
    column.1 ≠ word "proposal_id" ∧ column.1 ≠ word "created_at" := by
  have apart : ∀ name ∈ contractNames, name ≠ word "proposal_id" ∧ name ≠ word "created_at" := by
    decide +kernel
  exact apart _ (names_columns host ▸ List.mem_map_of_mem member)

theorem lookup_identity (member : column ∈ columns host) (fields : Fields) :
    (identity fields).lookup column.1 = fields.lookup column.1 :=
  @lookup_filter fields (fun name => name ≠ word "proposal_id" ∧ name ≠ word "created_at") _
    (decide_eq_true (content_of_mem member))

theorem keys_readColumns (fields : Fields) :
    (readColumns host fields).map (·.1) = contractNames := by
  rw [readColumns, List.map_map]
  rfl

theorem lookup_readColumns (member : column ∈ columns host) (fields : Fields) :
    (readColumns host fields).lookup column.1 =
      some (column.2.1.read ((fields.lookup column.1).getD .null)) :=
  @lookup_of_mem (readColumns host fields)
    (by rw [keys_readColumns]; exact names_distinct) _ (List.mem_map_of_mem member)

theorem lowerCase_lowerCase (unit : Nat) : lowerCase (lowerCase unit) = lowerCase unit := by
  unfold lowerCase
  split
  · exact if_neg (by omega)
  · rfl

/-- What is read from a column and written again is read as it is. -/
theorem read_read (kind : Column) {value : CanonicalJson} (distinct : value.Distinct) :
    kind.read (kind.read value) = kind.read value := by
  cases kind with
  | uuid =>
      cases value with
      | string value =>
          simp only [Column.read, List.map_map]
          exact congrArg _ (List.map_congr_left fun unit _ => lowerCase_lowerCase unit)
      | null | boolean | number | array | object => rfl
  | scalar => cases value <;> rfl
  | jsonb => exact Arrangement.value_value value distinct

theorem read_of_same (kind : Column) {left right : CanonicalJson} (distinct : left.Distinct)
    (same : SameUpToOrder left right) : kind.read left = kind.read right := by
  cases kind with
  | uuid => cases same <;> rfl
  | scalar => cases same <;> rfl
  | jsonb => exact Arrangement.value_of_same left distinct same

theorem matchesShape_lowerCase {tests : List (Nat → Bool)}
    (blind : ∀ test ∈ tests, ∀ unit, test (lowerCase unit) = test unit) (text : JsString) :
    matchesShape tests (text.map lowerCase) = matchesShape tests text := by
  induction tests generalizing text with
  | nil => cases text <;> rfl
  | cons test tests inductionHypothesis =>
      cases text with
      | nil => rfl
      | cons unit rest =>
          rw [List.map_cons, matchesShape, matchesShape, blind test List.mem_cons_self,
            inductionHypothesis fun test member => blind test (List.mem_cons_of_mem _ member)]

/-- The lower-case spelling of a UUID is one. -/
theorem isUuid_lowerCase (text : JsString) : isUuid (text.map lowerCase) = isUuid text := by
  refine matchesShape_lowerCase (fun test member unit => ?_) text
  have oneOf : test = isHex ∨ test = isHyphen ∨ test = isVersion ∨ test = isVariant := by
    simp only [List.mem_append, List.mem_cons, List.mem_replicate] at member
    tauto
  unfold lowerCase
  split
  · rcases oneOf with rfl | rfl | rfl | rfl <;>
      simp only [isHex, isDigit, isHyphen, isVersion, isVariant, List.mem_cons, List.not_mem_nil,
        or_false, decide_eq_decide, decide_eq_true_eq] <;> omega
  · rfl

/-! ## Regenerated proposals -/

/-- Whether a stored proposal has the content of a generated one: equal fields up to the order of
keys, apart from the identity and the time of creation. -/
def SameContent (row : Row) (value : Fields) : Prop :=
  SameUpToOrder (.object row.content) (.object (identity value))

variable (host) in
/-- Proposals come from valid inputs, and their keys are unique. -/
structure Sound (rows : List Row) : Prop where
  written : ∀ row ∈ rows, ∃ value, (CanonicalJson.object value).Distinct ∧
    validProposal host value = true ∧ row = rowOf host value
  unique : (rows.map Row.key).Nodup

variable {rows : List Row} {row : Row} {value : Fields}

theorem distinct_getD {fields : Fields} (distinct : DistinctFields fields) (name : JsString) :
    ((fields.lookup name).getD .null).Distinct := by
  cases found : fields.lookup name with
  | none => trivial
  | some value => exact Check.distinct_of_lookup distinct found

theorem distinct_read (kind : Column) {value : CanonicalJson} (distinct : value.Distinct) :
    (kind.read value).Distinct := by
  cases kind with
  | uuid | scalar => cases value <;> trivial
  | jsonb => exact Arrangement.distinct_value value distinct

theorem distinct_readColumns {fields : Fields} (distinct : DistinctFields fields) :
    (CanonicalJson.object (readColumns host fields)).Distinct := by
  refine ⟨(keys_readColumns fields).symm ▸ names_distinct, ?_⟩
  refine Arrangement.distinctFields_iff.2 fun field member => ?_
  obtain ⟨column, -, rfl⟩ := List.mem_map.1 member
  exact distinct_read column.2.1 (distinct_getD distinct column.1)

/-- The fields of a stored proposal and those of a generated one with its content. -/
theorem sameField_of_sameContent {origin : Fields} (distinct : DistinctFields origin)
    (same : SameContent (rowOf host origin) value) (member : column ∈ columns host) :
    Check.SameField (some (column.2.1.read ((origin.lookup column.1).getD .null)))
      (value.lookup column.1) := by
  have alike := Check.lookup_of_same (distinct_readColumns distinct).1 same column.1
  rw [lookup_identity member] at alike
  rwa [← lookup_readColumns member]

/-- A proposal with the content of a stored one is read back as the stored one. -/
theorem readColumns_of_sameContent {origin : Fields} (distinct : DistinctFields origin)
    (same : SameContent (rowOf host origin) value) :
    readColumns host value = readColumns host origin := by
  refine List.map_congr_left fun column member => congrArg (Prod.mk _) ?_
  have alike := sameField_of_sameContent distinct same member
  have given := distinct_getD distinct column.1
  generalize value.lookup column.1 = field at alike ⊢
  obtain _ | ⟨same⟩ := alike
  rw [Option.getD_some, ← read_of_same column.2.1 (distinct_read column.2.1 given) same,
    read_read column.2.1 given]

theorem identity_contract {origin : Fields} : identity (rowOf host origin).contract =
    readColumns host origin := by
  have kept : ∀ fields : Fields, (∀ field ∈ fields, field.1 ∈ contractNames) →
      identity fields = fields := by
    intro fields named
    refine List.filter_eq_self.2 fun field member => decide_eq_true ?_
    have apart : ∀ name ∈ contractNames, name ≠ word "proposal_id" ∧ name ≠ word "created_at" := by
      decide +kernel
    exact apart _ (named field member)
  have named : ∀ field ∈ readColumns host origin, field.1 ∈ contractNames := fun field member =>
    @keys_readColumns host origin ▸ List.mem_map_of_mem member
  unfold Row.contract
  have first := kept ((rowOf host origin).content.take 1) fun field member =>
    named field (List.mem_of_mem_take member)
  have others := kept ((rowOf host origin).content.drop 1) fun field member =>
    named field (List.mem_of_mem_drop member)
  unfold identity at first others ⊢
  rw [List.filter_append, List.filter_append, first, List.filter_cons_of_neg (by simp), others,
    List.filter_cons_of_neg (by simp), List.filter_nil, List.append_nil, List.take_append_drop]
  rfl

theorem lookup_contract (member : column ∈ columns host) (origin : Fields) :
    (rowOf host origin).contract.lookup column.1 =
      some (column.2.1.read ((origin.lookup column.1).getD .null)) := by
  rw [← lookup_identity member, identity_contract, lookup_readColumns member]

theorem passes_of_valid {fields : Fields} (valid : validProposal host fields = true) :
    (Check.text isUuid).passes (fields.lookup (word "proposal_id")) = true ∧
      (Check.text host.parsesDate).passes (fields.lookup (word "created_at")) = true ∧
      ∀ column ∈ columns host, column.2.2.passes (fields.lookup column.1) = true := by
  have checked := (Bool.and_eq_true_iff.1 valid).2
  rw [List.all_cons, List.all_cons, Bool.and_eq_true, Bool.and_eq_true, List.all_map,
    List.all_eq_true] at checked
  exact checked

theorem text_passes {form : JsString → Bool} {field : Option CanonicalJson}
    (passed : (Check.text form).passes field = true) : form (textOf field) = true := by
  match field, passed with
  | some (.string value), passed => exact passed

/-- The contract of a stored proposal with valid content is valid. -/
theorem valid_contract {origin : Fields} (distinct : DistinctFields origin)
    (originValid : validProposal host origin = true) (valid : validProposal host value = true)
    (same : SameContent (rowOf host origin) value) :
    validProposal host (rowOf host origin).contract = true := by
  obtain ⟨isId, isTime, -⟩ := passes_of_valid originValid
  obtain ⟨-, -, passed⟩ := passes_of_valid valid
  unfold validProposal Check.passRecord
  refine Bool.and_eq_true_iff.2 ⟨rfl, ?_⟩
  rw [List.all_cons, List.all_cons, Bool.and_eq_true, Bool.and_eq_true, List.all_map,
    List.all_eq_true]
  refine ⟨?_, ?_, fun column member => ?_⟩
  · exact (isUuid_lowerCase _).trans (text_passes isId)
  · exact host.parses_timestamp _ (text_passes isTime)
  · have alike := sameField_of_sameContent distinct same member
    rw [← lookup_contract member origin] at alike
    refine (column.2.2.passes_of_sameField (fun found isFound => ?_) alike).trans
      (passed column member)
    rw [lookup_contract member] at isFound
    obtain rfl := Option.some.inj isFound
    exact distinct_read column.2.1 (distinct_getD distinct column.1)

theorem sound_nil : Sound host [] := ⟨nofun, List.nodup_nil⟩

variable {freshId now : JsString} {proposal : Fields}

/-- Every run of `createProposal` leaves sound proposals behind. -/
theorem Sound.createProposal (sound : Sound host rows)
    (distinct : (CanonicalJson.object (completed freshId now proposal)).Distinct) :
    Sound host (createProposal host freshId now rows proposal).2 := by
  unfold Proposals.createProposal
  dsimp only
  split
  · exact sound
  · next valid =>
    split
    · split
      · exact sound
      · split
        · exact sound
        · split <;> exact sound
    · next unused =>
      refine ⟨fun row stored => ?_, ?_⟩
      · rcases List.mem_append.1 stored with old | new
        · exact sound.written row old
        · exact ⟨_, distinct, by simpa using valid, List.mem_singleton.1 new⟩
      · rw [List.map_append, List.nodup_append]
        refine ⟨sound.unique, List.nodup_singleton _, ?_⟩
        intro key old other new same
        obtain ⟨row, stored, rfl⟩ := List.mem_map.1 old
        exact unused (List.any_eq_true.2
          ⟨row, stored, decide_eq_true (Or.inr (same.trans (List.mem_singleton.1 new)))⟩)

/-! ## Convergence -/

theorem find_of_unique (unique : (rows.map Row.key).Nodup) (stored : row ∈ rows) :
    rows.find? (·.key = row.key) = some row := by
  induction rows with
  | nil => cases stored
  | cons first rest inductionHypothesis =>
      rw [List.map_cons, List.nodup_cons] at unique
      rcases List.mem_cons.1 stored with rfl | stored
      · exact List.find?_cons_of_pos (decide_eq_true rfl)
      · have apart : first.key ≠ row.key := fun same =>
          unique.1 (same ▸ List.mem_map_of_mem stored)
        rw [List.find?_cons_of_neg (by simpa using apart)]
        exact inductionHypothesis unique.2 stored

/-- A valid proposal whose content is stored already is compared with the stored one. -/
theorem createProposal_of_sameContent (sound : Sound host rows) (stored : row ∈ rows)
    (valid : validProposal host (completed freshId now proposal) = true)
    (same : SameContent row (completed freshId now proposal)) :
    (createProposal host freshId now rows proposal).1 =
      if sameProposalGeneration row.contract (completed freshId now proposal) then .ok row.contract
      else .error .conflict := by
  obtain ⟨origin, distinct, originValid, rfl⟩ := sound.written row stored
  have read := readColumns_of_sameContent distinct.2 same
  have sameKey : (rowOf host (completed freshId now proposal)).key = (rowOf host origin).key := by
    unfold Row.key rowOf
    rw [read]
  have clashes : (rows.any fun other =>
      other.id = (rowOf host (completed freshId now proposal)).id ∨
        other.key = (rowOf host (completed freshId now proposal)).key) = true :=
    List.any_eq_true.2 ⟨_, stored, decide_eq_true (Or.inr sameKey.symm)⟩
  unfold createProposal
  dsimp only
  rw [valid, if_neg (by simp), if_pos clashes, sameKey, find_of_unique sound.unique stored]
  dsimp only
  rw [toProposalContract, if_pos (valid_contract distinct.2 originValid valid same)]
  dsimp only
  split <;> rfl

/-- The stored one is the same exactly when the generated one is read back as it is. -/
theorem sameProposalGeneration_iff (sound : Sound host rows) (stored : row ∈ rows)
    (same : SameContent row value) :
    sameProposalGeneration row.contract value = true ↔ readColumns host value = identity value := by
  obtain ⟨origin, distinct, -, rfl⟩ := sound.written row stored
  rw [readColumns_of_sameContent distinct.2 same]
  unfold sameProposalGeneration comparable
  rw [decide_eq_true_eq, stringify_injective.eq_iff, CanonicalJson.object.injEq, identity_contract]

variable (host freshId now) in
/-- Whether generating a proposal again leads to the stored one, and a conflict is reported only
for another content. -/
def Converges (rows : List Row) (proposal : Fields) : Prop :=
  (∀ row ∈ rows, SameContent row (completed freshId now proposal) →
    (createProposal host freshId now rows proposal).1 = .ok row.contract) ∧
  ((createProposal host freshId now rows proposal).1 = .error .conflict →
    ∀ row ∈ rows, ¬ SameContent row (completed freshId now proposal))

/-- Generating a proposal converges exactly when no stored one has its content, or it lists its
fields in the order of the contract and every column gives it back as it is, key for key. -/
theorem converges_iff (sound : Sound host rows)
    (valid : validProposal host (completed freshId now proposal) = true) :
    Converges host freshId now rows proposal ↔
      (∀ row ∈ rows, ¬ SameContent row (completed freshId now proposal)) ∨
        readColumns host (completed freshId now proposal) =
          identity (completed freshId now proposal) := by
  constructor
  · rintro ⟨returns, -⟩
    refine or_iff_not_imp_left.2 fun again => ?_
    push Not at again
    obtain ⟨row, stored, same⟩ := again
    have compared := createProposal_of_sameContent sound stored valid same
    rw [returns row stored same] at compared
    refine (sameProposalGeneration_iff sound stored same).1 ?_
    split at compared
    · assumption
    · cases compared
  · rintro (another | ordered)
    · exact ⟨fun row stored same => absurd same (another row stored), fun _ => another⟩
    · have returns : ∀ row ∈ rows, SameContent row (completed freshId now proposal) →
          (createProposal host freshId now rows proposal).1 = .ok row.contract := by
        intro row stored same
        rw [createProposal_of_sameContent sound stored valid same,
          if_pos ((sameProposalGeneration_iff sound stored same).2 ordered)]
      refine ⟨returns, fun conflicts row stored same => ?_⟩
      rw [returns row stored same] at conflicts
      cases conflicts

/-! ## Samples -/

def plainHost : Host where
  parsesDate _ := true
  allows _ := true
  timestamp text := text
  parses_timestamp _ parses := parses

def uuidText (digit : Nat) : JsString :=
  (word "10000000-0000-4000-8000-00000000000").append [48 + digit]

def textField (name text : String) : JsString × CanonicalJson := (word name, .string (word text))

def sampleNumber (digit point : Nat) (kept : digit % 10 ≠ 0) : CanonicalJson :=
  .number (.nonzero false ⟨digit, point, kept⟩)

/-- The fields of a comparison in the order of `comparisonFor`. -/
def sampleComparison : Fields :=
  [textField "metric" "post_clicks",
    (word "baseline_median", sampleNumber 2 1 (by decide)),
    (word "values", .array [sampleNumber 1 1 (by decide), sampleNumber 2 1 (by decide),
      sampleNumber 4 1 (by decide)]),
    (word "best_snapshot_id", .string (uuidText 3)),
    (word "best_value", sampleNumber 4 1 (by decide)),
    (word "delta_from_median", sampleNumber 2 1 (by decide)),
    (word "delta_percent", sampleNumber 1 3 (by decide)),
    textField "direction" "higher_is_better"]

/-- A generated proposal with this comparison. -/
def sampleProposal (compared : Fields) : Fields :=
  [textField "contract_version" "optimization-v1",
    (word "business_id", .string (uuidText 4)),
    (word "strategy_id", .string (uuidText 5)),
    (word "strategy_version", sampleNumber 1 1 (by decide)),
    (word "content_cycle_id", .string (uuidText 6)),
    textField "format_cohort" "text_post",
    (word "basis_snapshot_ids", .array [.string (uuidText 1), .string (uuidText 2),
      .string (uuidText 3)]),
    (word "evidence_checksum", .string (List.replicate 64 97)),
    (word "deterministic_comparison", .array [.object compared]),
    textField "change_kind" "hook_style",
    textField "summary" "Ask first",
    textField "rationale" "Questions drew more clicks",
    textField "uncertainty" "Three posts",
    textField "instruction" "Open with a question",
    textField "model_version" "model-1",
    textField "prompt_version" "optimization-prompt-v1",
    (word "generation_fingerprint", .string (List.replicate 64 98)),
    textField "status" "PENDING_OWNER_DECISION"]

def sampleRows (compared : Fields) : List Row :=
  (createProposal plainHost (uuidText 7) (word "2026-01-01T00:00:00.000Z") []
    (sampleProposal compared)).2

theorem sampleRows_sound (compared : Fields) (distinct : (CanonicalJson.object compared).Distinct) :
    Sound plainHost (sampleRows compared) := by
  have names : (contractNames ++ [word "proposal_id", word "created_at"]).Nodup := by decide +kernel
  exact sound_nil.createProposal ⟨names, trivial, trivial, trivial, trivial, trivial, trivial,
    ⟨trivial, trivial, trivial, trivial⟩, trivial, ⟨distinct, trivial⟩, trivial, trivial, trivial,
    trivial, trivial, trivial, trivial, trivial, trivial, trivial, trivial, trivial⟩

/-- A proposal is generated twice with one and the same content. The second time is a conflict. -/
theorem same_content_conflicts :
    Sound plainHost (sampleRows sampleComparison) ∧
      validProposal plainHost (completed (uuidText 8) (word "2026-01-02T00:00:00.000Z")
        (sampleProposal sampleComparison)) = true ∧
      ¬ Converges plainHost (uuidText 8) (word "2026-01-02T00:00:00.000Z")
        (sampleRows sampleComparison) (sampleProposal sampleComparison) := by
  refine ⟨sampleRows_sound _ ?_, by decide +kernel, fun converges => ?_⟩
  · exact ⟨by decide +kernel, by repeat' constructor⟩
  have fails : (createProposal plainHost (uuidText 8) (word "2026-01-02T00:00:00.000Z")
      (sampleRows sampleComparison) (sampleProposal sampleComparison)).1.isOk = false := by
    decide +kernel
  have stored : rowOf plainHost (completed (uuidText 7) (word "2026-01-01T00:00:00.000Z")
      (sampleProposal sampleComparison)) ∈ sampleRows sampleComparison := List.mem_singleton_self _
  have same := converges.1 _ stored (@Arrangement.same_of_value jsonbOrder _ _
    (stringify_injective (by decide +kernel)))
  rw [same] at fails
  cases fails

/-- The properties of the comparison in the order of JSONB. -/
def orderedComparison : Fields :=
  [textField "metric" "post_clicks",
    (word "values", .array [sampleNumber 1 1 (by decide), sampleNumber 2 1 (by decide),
      sampleNumber 4 1 (by decide)]),
    textField "direction" "higher_is_better",
    (word "best_value", sampleNumber 4 1 (by decide)),
    (word "delta_percent", sampleNumber 1 3 (by decide)),
    (word "baseline_median", sampleNumber 2 1 (by decide)),
    (word "best_snapshot_id", .string (uuidText 3)),
    (word "delta_from_median", sampleNumber 2 1 (by decide))]

theorem ordered_content_converges :
    Converges plainHost (uuidText 8) (word "2026-01-02T00:00:00.000Z")
      (sampleRows orderedComparison) (sampleProposal orderedComparison) := by
  refine (converges_iff (sampleRows_sound _ ?_) (by decide +kernel)).2 (Or.inr ?_)
  · exact ⟨by decide +kernel, by repeat' constructor⟩
  · exact CanonicalJson.object.inj (stringify_injective (by decide +kernel))

end MarketMind.Performance.Proposals
