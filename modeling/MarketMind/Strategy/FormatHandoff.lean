import Mathlib.Data.List.Nodup

/-!
Owns the mapping of the weekly format labels to content formats on both sides, and when a plan's
week means the same content as v1 and through its handoff.

Does not own the lower case of a text: one function gives it on both sides.
-/

namespace MarketMind.Strategy.Formats

abbrev Text := List Char

inductive ContentFormat
  | staticImagePost
  | shortVideoScript
  | carouselBrief
  | textPost
deriving DecidableEq, Repr

/-- What a lookup in an object gives: a format, or what the object inherits under the name. -/
inductive Value
  | format (format : ContentFormat)
  | inherited (name : String)
deriving DecidableEq, Repr

/-- A weekly label; `none` is a value that is no string. -/
abbrev Label := Option Text

structure WeekPlan where
  weekNumber : Int
  formats : List Label
deriving DecidableEq, Repr

/-! ### Normalisation -/

/-- The white space of `trim` and of `\s` in JavaScript. -/
def isJsSpace (char : Char) : Bool :=
  let code := char.toNat
  (9 ≤ code && code ≤ 13) || code = 32 || code = 160 || code = 5760 ||
    (8192 ≤ code && code ≤ 8202) || code = 8232 || code = 8233 || code = 8239 || code = 8287 ||
    code = 12288 || code = 65279

/-- The white space of `strip` and of `\s` in Python. -/
def isPythonSpace (char : Char) : Bool :=
  let code := char.toNat
  (9 ≤ code && code ≤ 13) || (28 ≤ code && code ≤ 32) || code = 133 || code = 160 ||
    code = 5760 || (8192 ≤ code && code ≤ 8202) || code = 8232 || code = 8233 || code = 8239 ||
    code = 8287 || code = 12288

def trim (isSpace : Char → Bool) (text : Text) : Text :=
  ((text.dropWhile isSpace).reverse.dropWhile isSpace).reverse

/-- `[\s-]+` becomes `_`. -/
def replaceRuns (isSpace : Char → Bool) : Text → Text
  | [] => []
  | char :: rest =>
      if isSpace char || char = '-' then
        if rest.head?.any fun next => isSpace next || next = '-' then replaceRuns isSpace rest
        else '_' :: replaceRuns isSpace rest
      else char :: replaceRuns isSpace rest

/-- `normalizeStrategyLabel` and `normalize_strategy_label` -/
def normalizeLabel (isSpace : Char → Bool) (lower : Text → Text) (raw : Text) : Text :=
  replaceRuns isSpace (lower (trim isSpace raw))

/-! ### Lookup -/

/-- `STRATEGY_LABEL_TO_CONTENT_FORMAT`, with the formats themselves. -/
def labelFormats : List (String × ContentFormat) :=
  [("static_image_post", .staticImagePost), ("static_image", .staticImagePost),
    ("photo", .staticImagePost), ("image", .staticImagePost), ("story", .staticImagePost),
    ("short_video_script", .shortVideoScript), ("short_video", .shortVideoScript),
    ("video", .shortVideoScript), ("reel", .shortVideoScript), ("reels", .shortVideoScript),
    ("carousel_brief", .carouselBrief), ("carousel", .carouselBrief), ("text_post", .textPost),
    ("text", .textPost), ("post", .textPost), ("caption", .textPost), ("poll", .textPost),
    ("quiz", .textPost), ("question", .textPost)]

/-- The names under which every object finds something. -/
def inheritedNames : List String :=
  ["constructor", "__proto__", "__defineGetter__", "__defineSetter__", "__lookupGetter__",
    "__lookupSetter__", "hasOwnProperty", "isPrototypeOf", "propertyIsEnumerable",
    "toLocaleString", "toString", "valueOf"]

/-- A property of its own. -/
def ownFormat (name : Text) : Option ContentFormat :=
  (labelFormats.find? fun entry => entry.1.toList = name).map (·.2)

/-- `mapStrategyLabelToContentFormat`: the object's lookup goes on to what it inherits. -/
def mapStrategyLabelToContentFormat (lower : Text → Text) (raw : Text) : Option Value :=
  let normalized := normalizeLabel isJsSpace lower raw
  match ownFormat normalized with
  | some format => some (.format format)
  | none => (inheritedNames.find? fun name => name.toList = normalized).map .inherited

/-- `map_strategy_label_to_content_format` -/
def mapStrategyLabel (lower : Text → Text) (raw : Text) : Option ContentFormat :=
  ownFormat (normalizeLabel isPythonSpace lower raw)

/-- The values of the labels, each where it is first met. -/
def collect {V : Type} [DecidableEq V] (reads : Text → Option V) (labels : List Label) : List V :=
  labels.foldl (fun mapped label =>
    match label.bind reads with
    | some value => if value ∈ mapped then mapped else mapped ++ [value]
    | none => mapped) []

/-! ### The API -/

/-- `schemaFailure` -/
structure SchemaFailure where
  field : String
  detail : Option String
deriving DecidableEq, Repr

def weekField (place : String) (weekNumber : Int) : String :=
  place ++ "[week_number=" ++ toString weekNumber ++ "]"

def adaptV1WeekFormats (lower : Text → Text) (weeks : List WeekPlan) (weekNumber : Int) :
    Except SchemaFailure (List Value) :=
  if weeks.isEmpty then .error ⟨"content_strategy.weeks", none⟩
  else
    match weeks.find? (·.weekNumber = weekNumber) with
    | none => .error ⟨weekField "content_strategy.weeks" weekNumber, none⟩
    | some week =>
        let mapped := collect (mapStrategyLabelToContentFormat lower) week.formats
        if week.formats.isEmpty || mapped.isEmpty then
          .error ⟨weekField "content_strategy.weeks" weekNumber ++ ".formats", none⟩
        else .ok mapped

structure ContentHandoffWeek where
  weekNumber : Int
  formats : List ContentFormat
deriving DecidableEq, Repr

inductive ContentHandoff
  | available (channels : List String) (language : String) (weeks : List ContentHandoffWeek)
  | unavailable (reason message : String)
deriving DecidableEq, Repr

def adaptV2WeekFormats (handoff : ContentHandoff) (weekNumber : Int) :
    Except SchemaFailure (List Value) :=
  match handoff with
  | .unavailable reason _ =>
      .error ⟨"content_handoff", some ("Content handoff is unavailable (" ++ reason ++ ").")⟩
  | .available _ _ weeks =>
      if weeks.isEmpty then .error ⟨"content_handoff.weeks", none⟩
      else
        match weeks.find? (·.weekNumber = weekNumber) with
        | none => .error ⟨weekField "content_handoff.weeks" weekNumber, none⟩
        | some week =>
            let mapped := week.formats.foldl (fun mapped format =>
              if Value.format format ∈ mapped then mapped else mapped ++ [.format format]) []
            if mapped.isEmpty then
              .error ⟨weekField "content_handoff.weeks" weekNumber ++ ".formats", none⟩
            else .ok mapped

/-! ### The AI service -/

def contentSupportedChannels : List String :=
  ["facebook", "instagram", "tiktok", "google_business_profile"]

/-- The loop over the calendar weeks: it stops at the first week without a format. -/
def projectWeeks (lower : Text → Text) (channels : List String) (language : String) :
    List WeekPlan → List ContentHandoffWeek → ContentHandoff
  | [], weeks => .available channels language weeks
  | week :: rest, weeks =>
      let mapped := collect (mapStrategyLabel lower) week.formats
      if mapped.isEmpty then
        .unavailable "incomplete_weekly_formats" ("Week " ++ toString week.weekNumber ++
          " formats do not map to any known content-v1 format. Content cycles cannot start.")
      else projectWeeks lower channels language rest (weeks ++ [⟨week.weekNumber, mapped⟩])

def projectContentHandoff (lower : Text → Text) (calendarWeeks : List WeekPlan)
    (selectedChannels : List String) (language : String) : ContentHandoff :=
  let contentChannels := selectedChannels.filter (contentSupportedChannels.contains ·)
  if contentChannels.isEmpty then
    .unavailable "no_content_supported_channels"
      ("None of the owner-selected channels are supported by content-v1. " ++
        "The plan remains owner-managed; Content cycles cannot start.")
  else projectWeeks lower contentChannels language calendarWeeks []

/-! ### The order of first naming -/

section Order

variable {V : Type}

/-- The first value is met before the second, which may not be met at all. -/
def Before (first second : V) : List V → Prop
  | [] => False
  | value :: rest => value = first ∨ value ≠ second ∧ Before first second rest

/-- A label that is read as the first value comes before all that are read as the second. -/
def NamedBefore (reads : Text → Option V) (first second : V) : List Label → Prop
  | [] => False
  | label :: rest =>
      label.bind reads = some first ∨
        label.bind reads ≠ some second ∧ NamedBefore reads first second rest

variable {first second : V} {list other : List V}

theorem mem_of_before (before : Before first second list) : first ∈ list := by
  induction list with
  | nil => cases before
  | cons value rest inductionHypothesis =>
      rcases before with rfl | ⟨-, later⟩
      · exact List.mem_cons_self
      · exact List.mem_cons_of_mem value (inductionHypothesis later)

theorem before_of_not_mem (absent : second ∉ list) :
    Before first second list ↔ first ∈ list := by
  induction list with
  | nil => simp [Before]
  | cons value rest inductionHypothesis =>
      obtain ⟨isOther, restAbsent⟩ := not_or.mp (List.mem_cons.not.mp absent)
      rw [Before, inductionHypothesis restAbsent, List.mem_cons, eq_comm]
      simp [Ne.symm isOther]

theorem before_append_singleton {value : V} : Before first second (list ++ [value]) ↔
    Before first second list ∨ second ∉ list ∧ value = first := by
  induction list with
  | nil => simp [Before]
  | cons head rest inductionHypothesis =>
      rw [List.cons_append, Before, Before, inductionHypothesis, List.mem_cons]
      by_cases isSecond : head = second
      · simp [isSecond]
      · simp [isSecond, Ne.symm isSecond, or_assoc]

theorem before_self : Before first first list ↔ first ∈ list := by
  induction list with
  | nil => simp [Before]
  | cons value rest inductionHypothesis =>
      rw [Before, inductionHypothesis, List.mem_cons, eq_comm]
      by_cases same : first = value <;> simp [same, eq_comm]

/-- Lists without duplicates are one when they have their values in one order. -/
theorem eq_of_before (nodup : list.Nodup) (otherNodup : other.Nodup)
    (same : ∀ first second, Before first second list ↔ Before first second other) :
    list = other := by
  induction list generalizing other with
  | nil =>
      cases other with
      | nil => rfl
      | cons value rest => exact absurd ((same value value).mpr (.inl rfl)) id
  | cons value rest inductionHypothesis =>
      cases other with
      | nil => exact absurd ((same value value).mp (.inl rfl)) id
      | cons head tail =>
          have isHead : head = value := by
            rcases (same value head).mp (.inl rfl) with isHead | ⟨absurdly, -⟩
            · exact isHead
            · exact absurd rfl absurdly
          subst isHead
          obtain ⟨notInRest, restNodup⟩ := List.nodup_cons.mp nodup
          obtain ⟨notInTail, tailNodup⟩ := List.nodup_cons.mp otherNodup
          have drop {first second : V} (isOther : first ≠ head) (notSecond : second ≠ head) :
              Before first second rest ↔ Before first second tail := by
            have whole := same first second
            simp only [Before, Ne.symm isOther, Ne.symm notSecond, ne_eq, not_false_eq_true,
              true_and, false_or] at whole
            exact whole
          congr 1
          refine inductionHypothesis restNodup tailNodup fun first second => ?_
          by_cases isFirst : first = head
          · subst isFirst
            exact iff_of_false (fun before => notInRest (mem_of_before before))
              fun before => notInTail (mem_of_before before)
          · by_cases isSecond : second = head
            · subst isSecond
              rw [before_of_not_mem notInRest, before_of_not_mem notInTail, ← before_self,
                drop isFirst isFirst, before_self]
            · exact drop isFirst isSecond

section Collecting

variable [DecidableEq V] {reads : Text → Option V}

/-- The loop of `collect`, from a list that it has so far. -/
def collectFrom (reads : Text → Option V) (mapped : List V) (labels : List Label) : List V :=
  labels.foldl (fun mapped label =>
    match label.bind reads with
    | some value => if value ∈ mapped then mapped else mapped ++ [value]
    | none => mapped) mapped

theorem collectFrom_cons (mapped : List V) (label : Label) (labels : List Label) :
    collectFrom reads mapped (label :: labels) =
      collectFrom reads (collectFrom reads mapped [label]) labels := rfl

theorem collectFrom_nodup {mapped : List V} (nodup : mapped.Nodup) (labels : List Label) :
    (collectFrom reads mapped labels).Nodup := by
  induction labels generalizing mapped with
  | nil => exact nodup
  | cons label rest inductionHypothesis =>
      rw [collectFrom_cons]
      apply inductionHypothesis
      simp only [collectFrom, List.foldl_cons, List.foldl_nil]
      split
      · next value _ =>
        split
        · exact nodup
        · next isNew =>
          exact List.nodup_append.mpr ⟨nodup, List.nodup_singleton value, fun _ before _ now same =>
            isNew (List.mem_singleton.mp now ▸ same ▸ before)⟩
      · exact nodup

/-- What is already listed is not listed again; what is new comes after it. -/
theorem before_collectFrom (mapped : List V) (labels : List Label) :
    Before first second (collectFrom reads mapped labels) ↔ Before first second mapped ∨
      second ∉ mapped ∧ NamedBefore reads first second labels := by
  induction labels generalizing mapped with
  | nil => simp [collectFrom, NamedBefore]
  | cons label rest inductionHypothesis =>
      rw [collectFrom_cons, inductionHypothesis, NamedBefore]
      simp only [collectFrom, List.foldl_cons, List.foldl_nil]
      cases read : label.bind reads with
      | none => simp
      | some value =>
          by_cases listed : value ∈ mapped
          · simp only [if_pos listed, Option.some.injEq]
            by_cases absent : second ∈ mapped
            · simp [absent]
            · have isOther : value ≠ second := fun same => absent (same ▸ listed)
              rw [before_of_not_mem absent]
              by_cases isFirst : value = first
              · simp [← isFirst, listed]
              · simp [isFirst, isOther]
          · simp only [if_neg listed, Option.some.injEq, before_append_singleton,
              List.mem_append, List.mem_singleton, not_or]
            by_cases isSecond : value = second
            · simp [isSecond]
            · simp [isSecond, Ne.symm isSecond, and_or_left, or_assoc]

theorem collect_spec (reads : Text → Option V) (labels : List Label) :
    (collect reads labels).Nodup ∧
      ∀ first second, Before first second (collect reads labels) ↔
        NamedBefore reads first second labels := by
  refine ⟨collectFrom_nodup .nil labels, fun first second => ?_⟩
  refine (before_collectFrom [] labels).trans ?_
  simp [Before]

end Collecting

end Order

/-! ### One week on both sides -/

section Weeks

variable {lower : Text → Text} {weekNumber : Int} {labels : List Label}
  {selectedChannels : List String} {language : String}

/-- What the AI service reads of a label, beside what the API reads of it. -/
def readsForHandoff (lower : Text → Text) (raw : Text) : Option Value :=
  (mapStrategyLabel lower raw).map .format

theorem collect_readsForHandoff (labels : List Label) :
    collect (readsForHandoff lower) labels =
      (collect (mapStrategyLabel lower) labels).map .format := by
  have continued (mapped : List ContentFormat) :
      collectFrom (readsForHandoff lower) (mapped.map .format) labels =
        (collectFrom (mapStrategyLabel lower) mapped labels).map .format := by
    induction labels generalizing mapped with
    | nil => rfl
    | cons label rest inductionHypothesis =>
        have read : label.bind (readsForHandoff lower) =
            (label.bind (mapStrategyLabel lower)).map .format := by
          cases label <;> rfl
        have step : collectFrom (readsForHandoff lower) (mapped.map .format) [label] =
            (collectFrom (mapStrategyLabel lower) mapped [label]).map .format := by
          simp only [collectFrom, List.foldl_cons, List.foldl_nil, read]
          cases label.bind (mapStrategyLabel lower) with
          | none => rfl
          | some format => simp [apply_ite (List.map Value.format)]
        rw [collectFrom_cons, step, inductionHypothesis]
        rfl
  exact continued []

/-- Formats that are listed once are listed again as they are. -/
theorem relist {formats : List ContentFormat} (nodup : formats.Nodup) :
    formats.foldl (fun mapped format =>
      if Value.format format ∈ mapped then mapped else mapped ++ [.format format]) [] =
        formats.map Value.format := by
  have continued (mapped : List Value) (isNew : ∀ format ∈ formats, Value.format format ∉ mapped) :
      formats.foldl (fun mapped format =>
        if Value.format format ∈ mapped then mapped else mapped ++ [.format format]) mapped =
          mapped ++ formats.map Value.format := by
    induction formats generalizing mapped with
    | nil => exact (List.append_nil mapped).symm
    | cons format rest inductionHypothesis =>
        obtain ⟨notInRest, restNodup⟩ := List.nodup_cons.mp nodup
        rw [List.foldl_cons, if_neg (isNew format List.mem_cons_self),
          inductionHypothesis restNodup, List.append_assoc]
        · rfl
        · intro other member
          simp only [List.mem_append, List.mem_singleton, Value.format.injEq, not_or]
          exact ⟨isNew other (List.mem_cons_of_mem format member), fun same =>
            notInRest (same ▸ member)⟩
  exact continued [] fun _ _ => List.not_mem_nil

/-- The plan of one week. -/
def planOf (weekNumber : Int) (labels : List Label) : List WeekPlan := [⟨weekNumber, labels⟩]

/-- The week means the same as v1 and through the handoff, and fails closed on both sides. -/
structure MeansTheSame (lower : Text → Text) (weekNumber : Int) (labels : List Label)
    (selectedChannels : List String) (language : String) : Prop where
  same : (adaptV1WeekFormats lower (planOf weekNumber labels) weekNumber).toOption =
    (adaptV2WeekFormats (projectContentHandoff lower (planOf weekNumber labels) selectedChannels
      language) weekNumber).toOption
  failsClosed :
    (∃ failure, adaptV1WeekFormats lower (planOf weekNumber labels) weekNumber =
      .error failure) ↔
    ∃ message, projectContentHandoff lower (planOf weekNumber labels) selectedChannels language =
      .unavailable "incomplete_weekly_formats" message
  listed : ∀ formats, adaptV1WeekFormats lower (planOf weekNumber labels) weekNumber =
      .ok formats → formats.Nodup ∧ (∀ value ∈ formats, ∃ format, value = .format format) ∧
    ∀ first second, Before first second formats ↔
      NamedBefore (mapStrategyLabelToContentFormat lower) first second labels

theorem adaptV1_planOf : adaptV1WeekFormats lower (planOf weekNumber labels) weekNumber =
    if collect (mapStrategyLabelToContentFormat lower) labels = [] then
      .error ⟨weekField "content_strategy.weeks" weekNumber ++ ".formats", none⟩
    else .ok (collect (mapStrategyLabelToContentFormat lower) labels) := by
  have none : labels = [] → collect (mapStrategyLabelToContentFormat lower) labels = [] := by
    rintro rfl
    rfl
  simp only [adaptV1WeekFormats, planOf, List.isEmpty_cons, Bool.false_eq_true, if_false,
    List.find?_cons, decide_true, Bool.or_eq_true, List.isEmpty_iff]
  by_cases empty : collect (mapStrategyLabelToContentFormat lower) labels = []
  · rw [if_pos (.inr empty), if_pos empty]
  · rw [if_neg (not_or.mpr ⟨fun isNone => empty (none isNone), empty⟩), if_neg empty]

theorem handoff_planOf (supported : ∃ channel ∈ selectedChannels,
      channel ∈ contentSupportedChannels) :
    (collect (mapStrategyLabel lower) labels = [] ∧ ∃ message,
      projectContentHandoff lower (planOf weekNumber labels) selectedChannels language =
        .unavailable "incomplete_weekly_formats" message) ∨
    collect (mapStrategyLabel lower) labels ≠ [] ∧ ∃ channels,
      projectContentHandoff lower (planOf weekNumber labels) selectedChannels language =
        .available channels language [⟨weekNumber, collect (mapStrategyLabel lower) labels⟩] := by
  obtain ⟨channel, isSelected, isSupported⟩ := supported
  have some : (selectedChannels.filter (contentSupportedChannels.contains ·)).isEmpty = false := by
    rw [List.isEmpty_eq_false_iff]
    exact List.ne_nil_of_mem (List.mem_filter.mpr ⟨isSelected, by simpa using isSupported⟩)
  simp only [projectContentHandoff, some, Bool.false_eq_true, if_false, planOf, projectWeeks,
    List.isEmpty_iff]
  by_cases empty : collect (mapStrategyLabel lower) labels = []
  · exact .inl ⟨empty, _, if_pos empty⟩
  · exact .inr ⟨empty, _, if_neg empty⟩

/-- Both sides read the label alike: its white space is white space to both, and it is no name
that every object has. -/
structure IsPlain (lower : Text → Text) (raw : Text) : Prop where
  spaces : ∀ char ∈ raw ++ lower (trim isJsSpace raw), isJsSpace char = isPythonSpace char
  notInherited : ∀ name ∈ inheritedNames, name.toList ≠ normalizeLabel isJsSpace lower raw

theorem dropWhile_congr {left right : Char → Bool} {text : Text}
    (same : ∀ char ∈ text, left char = right char) :
    text.dropWhile left = text.dropWhile right := by
  induction text with
  | nil => rfl
  | cons char rest inductionHypothesis =>
      rw [List.dropWhile_cons, List.dropWhile_cons, same char List.mem_cons_self,
        inductionHypothesis fun other member => same other (List.mem_cons_of_mem char member)]

theorem trim_congr {left right : Char → Bool} {text : Text}
    (same : ∀ char ∈ text, left char = right char) : trim left text = trim right text := by
  rw [trim, trim, dropWhile_congr same]
  refine congrArg List.reverse (dropWhile_congr fun char member => same char ?_)
  exact (List.dropWhile_suffix _).subset (List.mem_reverse.mp member)

theorem replaceRuns_congr {left right : Char → Bool} {text : Text}
    (same : ∀ char ∈ text, left char = right char) :
    replaceRuns left text = replaceRuns right text := by
  induction text with
  | nil => rfl
  | cons char rest inductionHypothesis =>
      have restSame : ∀ other ∈ rest, left other = right other :=
        fun other member => same other (List.mem_cons_of_mem char member)
      have sameHead : (rest.head?.any fun next => left next || next = '-') =
          rest.head?.any fun next => right next || next = '-' := by
        cases rest with
        | nil => rfl
        | cons next rest => simp [restSame next List.mem_cons_self]
      rw [replaceRuns, replaceRuns, same char List.mem_cons_self, sameHead,
        inductionHypothesis restSame]

theorem reads_of_plain {raw : Text} (plain : IsPlain lower raw) :
    mapStrategyLabelToContentFormat lower raw = readsForHandoff lower raw := by
  have trimmed : trim isJsSpace raw = trim isPythonSpace raw :=
    trim_congr fun char member => plain.spaces char (List.mem_append_left _ member)
  have normalized :
      normalizeLabel isJsSpace lower raw = normalizeLabel isPythonSpace lower raw := by
    rw [normalizeLabel, normalizeLabel, ← trimmed]
    exact replaceRuns_congr fun char member => plain.spaces char (List.mem_append_right _ member)
  have nothing : inheritedNames.find? (fun name =>
      name.toList = normalizeLabel isJsSpace lower raw) = none :=
    List.find?_eq_none.mpr fun name member isIt =>
      plain.notInherited name member (of_decide_eq_true isIt)
  unfold mapStrategyLabelToContentFormat readsForHandoff mapStrategyLabel
  dsimp only
  rw [nothing, ← normalized]
  cases ownFormat (normalizeLabel isJsSpace lower raw) <;> rfl

theorem namedBefore_congr {V : Type} {left right : Text → Option V}
    (same : ∀ label ∈ labels, label.bind left = label.bind right) (first second : V) :
    NamedBefore left first second labels ↔ NamedBefore right first second labels := by
  induction labels with
  | nil => rfl
  | cons label rest inductionHypothesis =>
      rw [NamedBefore, NamedBefore, same label List.mem_cons_self,
        inductionHypothesis fun other member => same other (List.mem_cons_of_mem label member)]

/-- The handoff of the week and what is read from it, by the list of the AI service. -/
theorem adaptV2_planOf (weekNumber : Int) (labels : List Label) (language : String)
    (supported : ∃ channel ∈ selectedChannels, channel ∈ contentSupportedChannels) :
    (adaptV2WeekFormats (projectContentHandoff lower (planOf weekNumber labels) selectedChannels
      language) weekNumber).toOption =
        (if collect (readsForHandoff lower) labels = [] then none
        else some (collect (readsForHandoff lower) labels)) ∧
    ((∃ message, projectContentHandoff lower (planOf weekNumber labels) selectedChannels language =
      .unavailable "incomplete_weekly_formats" message) ↔
        collect (readsForHandoff lower) labels = []) := by
  rw [collect_readsForHandoff]
  rcases handoff_planOf supported with ⟨empty, message, handoff⟩ | ⟨filled, channels, handoff⟩
  · rw [handoff, empty]
    exact ⟨rfl, iff_of_true ⟨message, rfl⟩ rfl⟩
  · have nodup := (collect_spec (mapStrategyLabel lower) labels).1
    have mapped : (collect (mapStrategyLabel lower) labels).map Value.format ≠ [] :=
      List.map_eq_nil_iff.not.mpr filled
    rw [handoff, if_neg mapped]
    refine ⟨?_, iff_of_false ?_ mapped⟩
    · simp [adaptV2WeekFormats, relist nodup, filled, Except.toOption]
    · rintro ⟨message, absurdly⟩
      cases absurdly

/-- The two lists of the week are one exactly when the week means the same. -/
theorem meansTheSame_iff_lists (supported : ∃ channel ∈ selectedChannels,
      channel ∈ contentSupportedChannels) :
    MeansTheSame lower weekNumber labels selectedChannels language ↔
      collect (mapStrategyLabelToContentFormat lower) labels =
        collect (readsForHandoff lower) labels := by
  obtain ⟨handoff, incomplete⟩ := @adaptV2_planOf lower _ weekNumber labels language supported
  constructor
  · intro means
    have same := means.same
    rw [adaptV1_planOf, handoff] at same
    by_cases empty : collect (mapStrategyLabelToContentFormat lower) labels = []
    · rw [if_pos empty] at same
      by_cases none : collect (readsForHandoff lower) labels = []
      · rw [empty, none]
      · rw [if_neg none] at same
        cases same
    · rw [if_neg empty] at same
      by_cases none : collect (readsForHandoff lower) labels = []
      · rw [if_pos none] at same
        cases same
      · rw [if_neg none] at same
        exact Option.some.inj same
  · intro lists
    refine ⟨?_, ?_, ?_⟩
    · rw [handoff, adaptV1_planOf, lists]
      split <;> rfl
    · rw [incomplete, adaptV1_planOf, lists]
      split
      · next empty => exact iff_of_true ⟨_, rfl⟩ empty
      · next filled =>
        refine iff_of_false ?_ filled
        rintro ⟨failure, absurdly⟩
        cases absurdly
    · intro formats returned
      rw [adaptV1_planOf] at returned
      split at returned
      · cases returned
      · obtain rfl := Except.ok.inj returned
        obtain ⟨nodup, order⟩ := collect_spec (mapStrategyLabelToContentFormat lower) labels
        refine ⟨nodup, ?_, order⟩
        rw [lists, collect_readsForHandoff]
        intro value member
        obtain ⟨format, -, rfl⟩ := List.mem_map.mp member
        exact ⟨format, rfl⟩

end Weeks

/-- The lower case of an ASCII text. -/
def asciiLower (text : Text) : Text := text.map Char.toLower

end MarketMind.Strategy.Formats
