import Mathlib.Data.List.Infix
import MarketMind.Content.Types

/-!
Owns how the AI service generates and rewrites the items of a frozen plan: what it sets from the
card that an item is for, and what an answer of the provider has to meet to be accepted.

Does not own the rules on the texts of an item, which see one item and the request for its card.
-/

namespace MarketMind.Content.Generator

/-! ### Items -/

inductive Locale
  | ar
  | en
deriving DecidableEq, Repr

structure CaptionVariant where
  locale : Locale
  dialect : String
  caption : String
  cta : Option String
  hashtags : List String
deriving DecidableEq, Repr

structure ShortVideoScene where
  order : Nat
  visualDirection : String
  voiceover : Option String
  onScreenText : Option String
deriving DecidableEq, Repr

structure ShortVideoScript where
  hook : String
  scenes : List ShortVideoScene
  closingCta : Option String
deriving DecidableEq, Repr

structure ClaimSource where
  claimType : String
  sourceType : String
  sourcePath : String
  approved : Bool
deriving DecidableEq, Repr

structure StrategyTrace where
  strategyId : Uuid
  strategyVersion : Nat
  weekNumber : Nat
  pillarIds : List Uuid
  objective : String
  channel : String
  funnelStage : String
  contentPurpose : String
deriving DecidableEq, Repr

structure RecommendedWindow where
  startsAt : Instant
  endsAt : Instant
  dayPreference : String
  timeOfDayHint : String
  rationale : String
deriving DecidableEq, Repr

structure GenerationProvenance where
  generationRunId : Uuid
  providerName : String
  providerModel : String
  generatedAt : Instant
  /-- Recorded without the instruction's text. -/
  optimizationGuidance : Option OptimizationGuidance
deriving DecidableEq, Repr

structure ItemVersion where
  id : Uuid
  contentItemId : Uuid
  contentPackId : Uuid
  version : Nat
  channel : String
  format : String
  languageMode : String
  strategyTrace : StrategyTrace
  captionVariants : List CaptionVariant
  cta : Option String
  hashtags : List String
  creativeBrief : String
  altText : String
  shortVideoScript : Option ShortVideoScript
  recommendedPublishWindow : RecommendedWindow
  claimSources : List ClaimSource
  warnings : List String
  blockers : List String
  assetRequired : Bool
  assetIds : List Uuid
  generationProvenance : GenerationProvenance
  versionChecksum : String
  createdAt : Instant
deriving DecidableEq, Repr

/-! ### Requests -/

inductive DestinationType
  | phone
  | whatsapp
  | website
  | address
  | none
deriving DecidableEq, Repr

structure CtaDestination where
  type : DestinationType
  value : Option String
deriving DecidableEq, Repr

structure CtaLibraryEntry where
  id : Uuid
  label : String
  destination : CtaDestination
deriving DecidableEq, Repr

/-- `content_handoff` of a strategy plan; a week with its formats. -/
structure ContentHandoff where
  available : Bool
  channels : List String
  weeks : List (Nat × List String)

structure StrategyPlan where
  strategyId : Uuid
  version : Nat
  profileVersionId : Uuid
  profileVersionNumber : Nat
  primaryObjective : String
  contentHandoff : ContentHandoff

structure BusinessProfile where
  id : Uuid
  businessId : Uuid
  version : Nat
  profile : Json

/-- `AiContentV2GenerateRequest`, with the parts of the frozen input that no table keeps apart. -/
structure GenerateRequest where
  contentPackId : Uuid
  businessId : Uuid
  strategyId : Uuid
  strategyVersion : Nat
  strategyPlan : StrategyPlan
  businessProfile : BusinessProfile
  frozenInput : FrozenInput
  /-- `frozen_input.editorial_profile.language` -/
  editorialLanguage : String
  /-- `frozen_input.cta_entries` -/
  ctaEntries : List CtaLibraryEntry
  /-- Midnight of `frozen_input.week_start_date`, on the clocks of Cairo. -/
  weekStartAt : Int
  languageMode : String

def GenerateRequest.cards (request : GenerateRequest) : List ContentPostPlan :=
  request.frozenInput.postPlans

/-- `AiContentGenerateRequest`, the older shape. Its week context has no promotion and no owner
instructions. -/
structure ItemRequest where
  contentPackId : Uuid
  businessId : Uuid
  strategyId : Uuid
  strategyVersion : Nat
  strategyPlan : StrategyPlan
  /-- `strategy_plan.plan_language` -/
  planLanguage : String
  businessProfile : BusinessProfile
  weekNumber : Nat
  weekStartAt : Int
  approvedAssetIds : List Uuid
  ctaDestination : CtaDestination
  selectedChannels : List String
  allowedFormats : List String
  languageMode : String

structure ValidationIssue where
  code : String
  field : String
  message : String
  retryable : Bool
deriving DecidableEq, Repr

def issue (code field message : String) : ValidationIssue := ⟨code, field, message, false⟩

def issueWhen (condition : Bool) (code field message : String) : List ValidationIssue :=
  if condition then [issue code field message] else []

/-- What the service calls for identities, digests and the rules on texts. -/
structure Service where
  providerName : String
  providerModel : String
  /-- `uuid.uuid5` in the namespace of URLs. -/
  uuid5 : String → Uuid
  /-- `_deterministic_generated_asset_id` -/
  generatedAssetId : Uuid → Uuid
  /-- `derive_strategy_pillar_ids` for one pillar. -/
  pillarIds : Uuid → List Uuid
  /-- `compute_content_item_checksum` -/
  checksum : ItemVersion → String
  /-- `validate_platform_constraints` finds something. -/
  isConstrained : ItemVersion → Bool
  /-- The time on the clocks of Cairo. -/
  cairo : Instant → Int
  /-- `is_claim_source_grounded` -/
  isGrounded : ItemRequest → ClaimSource → Bool
  /-- The rules on languages, hashtags, protected texts and claims. -/
  textIssues : ItemRequest → ItemVersion → List ValidationIssue

/-! ### The request in the older shape -/

/-- `v2_generate_to_v1_request` -/
def v2GenerateToV1Request (request : GenerateRequest) : Except ValidationIssue ItemRequest :=
  if request.editorialLanguage ≠ request.languageMode then
    .error (issue "CONTENT_SCHEMA_FAILURE" "language_mode"
      "generation language must match the frozen editorial profile.")
  else if !request.strategyPlan.contentHandoff.available then
    .error (issue "CONTENT_SCHEMA_FAILURE" "strategy_plan.content_handoff"
      "generation requires a usable content handoff.")
  else
    match request.strategyPlan.contentHandoff.weeks.find? fun week =>
        week.1 = request.frozenInput.weekNumber with
    | none =>
        .error (issue "CONTENT_SCHEMA_FAILURE" "frozen_input.week_number"
          "the week is missing from the approved Strategy handoff.")
    | some week =>
        .ok
          { contentPackId := request.contentPackId
            businessId := request.businessId
            strategyId := request.strategyId
            strategyVersion := request.strategyVersion
            strategyPlan := request.strategyPlan
            planLanguage := request.languageMode
            businessProfile := request.businessProfile
            weekNumber := request.frozenInput.weekNumber
            weekStartAt := request.weekStartAt
            approvedAssetIds := request.cards.flatMap (·.input.selectedMediaIds)
            ctaDestination := ⟨.none, none⟩
            selectedChannels :=
              if request.cards.isEmpty then request.strategyPlan.contentHandoff.channels
              else (request.cards.map (·.input.channel)).dedup
            allowedFormats := week.2
            languageMode := request.languageMode }

/-- `str.isspace` -/
def isSpace (char : Char) : Bool :=
  char.val ∈ [0x09, 0x0a, 0x0b, 0x0c, 0x0d, 0x1c, 0x1d, 0x1e, 0x1f, 0x20, 0x85, 0xa0, 0x1680,
    0x2028, 0x2029, 0x202f, 0x205f, 0x3000] ||
    (0x2000 ≤ char.val && char.val ≤ 0x200a)

/-- `str.strip` -/
def strip (text : String) : String :=
  String.ofList ((text.toList.dropWhile isSpace).reverse.dropWhile isSpace).reverse

def isBlank (text : String) : Bool := text.toList.all isSpace

/-- `validate_content_generation_request`, for a plan of the second contract and the week context
of a frozen plan. -/
def requestIssues (request : ItemRequest) : List ValidationIssue :=
  let plan := request.strategyPlan
  let handoffWeek := plan.contentHandoff.weeks.find? fun week => week.1 = request.weekNumber
  let approvedChannels :=
    if plan.contentHandoff.available then plan.contentHandoff.channels else []
  issueWhen (plan.strategyId ≠ request.strategyId || plan.version ≠ request.strategyVersion)
      "CONTENT_VERSION_CONFLICT" "strategy_plan.version"
      "Generation requires the exact approved Strategy identity and version." ++
    issueWhen (request.businessProfile.businessId ≠ request.businessId ||
        plan.profileVersionId ≠ request.businessProfile.id ||
        plan.profileVersionNumber ≠ request.businessProfile.version)
      "CONTENT_PROFILE_STALE" "business_profile.id"
      "Generation requires the confirmed Business Profile version referenced by Strategy." ++
    issueWhen (request.planLanguage ≠ request.languageMode)
      "CONTENT_SCHEMA_FAILURE" "language_mode"
      "Generation language must match the approved Strategy language." ++
    (if request.selectedChannels.isEmpty ||
        request.selectedChannels.any (· ∉ approvedChannels) then
      [issue "CONTENT_CHANNEL_MISMATCH" "selected_channels"
        "Generation channels must be selected by the approved Strategy."]
    else issueWhen (!decide request.selectedChannels.Nodup)
      "CONTENT_SCHEMA_FAILURE" "selected_channels"
      "Generation channels must not contain duplicates.") ++
    (if request.allowedFormats.isEmpty then
      [issue "CONTENT_SCHEMA_FAILURE" "allowed_formats"
        "Generation requires at least one supported Content format."]
    else issueWhen (!decide request.allowedFormats.Nodup)
      "CONTENT_SCHEMA_FAILURE" "allowed_formats"
      "Generation formats must not contain duplicates.") ++
    issueWhen (plan.contentHandoff.available && 1 ≤ request.weekNumber &&
        request.weekNumber ≤ 12 && handoffWeek.any (·.2 ≠ request.allowedFormats))
      "CONTENT_SCHEMA_FAILURE" "allowed_formats"
      ("Generation formats must exactly match the approved Strategy week's content " ++
        "handoff.") ++
    (if request.weekNumber < 1 || 12 < request.weekNumber then
      [issue "CONTENT_WEEK_OUT_OF_RANGE" "week_context.week_number"
        "Content week must be an integer from 1 through 12."]
    else issueWhen (!(plan.contentHandoff.available && handoffWeek.isSome))
      "CONTENT_WEEK_OUT_OF_RANGE" "week_context.week_number"
      "Generation week must exist in the approved Strategy roadmap.") ++
    issueWhen (!decide request.approvedAssetIds.Nodup)
      "CONTENT_SCHEMA_FAILURE" "week_context.approved_asset_ids"
      "Approved owner asset identities must not contain duplicates." ++
    (if (request.ctaDestination.type = .none) ≠ (request.ctaDestination.value = none) then
      [issue "CONTENT_POLICY_VIOLATION" "week_context.cta_destination"
        "CTA destination value must be null only when destination type is none."]
    else issueWhen (request.ctaDestination.value.any isBlank)
      "CONTENT_POLICY_VIOLATION" "week_context.cta_destination.value"
      "A confirmed CTA destination must contain a non-blank value.")

/-- `cta_by_id.get` -/
def ctaById (entries : List CtaLibraryEntry) (id : Option Uuid) : Option CtaLibraryEntry :=
  id.bind fun id => entries.reverse.find? (·.id = id)

/-- `_v1_request_for_plan` -/
def v1RequestForPlan (request : ItemRequest) (plan : ContentPostPlan)
    (ctaEntry : Option CtaLibraryEntry) : ItemRequest :=
  { request with
    selectedChannels := [plan.input.channel]
    ctaDestination := (ctaEntry.map (·.destination)).getD ⟨.none, none⟩
    approvedAssetIds := plan.input.selectedMediaIds }

/-! ### What is set from a card -/

/-- `_MEDIA_FORMATS` -/
def mediaFormats : List String := ["static_image_post", "carousel_brief"]

def assetRequiredBlocker : String := "CONTENT_ASSET_REQUIRED"

/-- `_ARABIC_LETTER` -/
def isArabicLetter (char : Char) : Bool :=
  [(0x0600, 0x06ff), (0x0750, 0x077f), (0x0870, 0x089f), (0x08a0, 0x08ff), (0xfb50, 0xfdff),
    (0xfe70, 0xfeff)].any fun (first, last) => first ≤ char.toNat && char.toNat ≤ last

/-- `_LATIN_LETTER` -/
def isLatinLetter (char : Char) : Bool :=
  ('a' ≤ char && char ≤ 'z') || ('A' ≤ char && char ≤ 'Z')

/-- `_cta_label_for_locale` -/
def ctaLabelForLocale (label : String) (locale : Locale) : String :=
  let arabicLetters := label.toList.countP isArabicLetter
  let latinLetters := label.toList.countP isLatinLetter
  let totalLetters := arabicLetters + latinLetters
  let expectedLetters := if locale = .ar then arabicLetters else latinLetters
  if totalLetters ≠ 0 ∧ 3 * totalLetters ≤ 5 * expectedLetters then strip label
  else if locale = .ar then "تواصل معنا"
  else "Contact us"

/-- `_normalized_cta` -/
def normalizedCta (ctaEntry : Option CtaLibraryEntry) (locale : Locale) : Option String :=
  match ctaEntry with
  | none => none
  | some entry =>
      if entry.destination.type = .none then none
      else
        match entry.destination.value with
        | none => none
        | some destination =>
            if isBlank destination then none
            else some (ctaLabelForLocale entry.label locale ++ ": " ++ destination)

/-- `_replace_embedded_ctas` -/
def replaceEmbeddedCtas (text : String) (previousCtas : List String)
    (canonicalCta : Option String) : String :=
  match canonicalCta with
  | none => text
  | some canonicalCta =>
      (previousCtas.insertionSort fun left right => right.length ≤ left.length).foldl
        (fun repaired previousCta => repaired.replace previousCta canonicalCta) text

/-- `_HASHTAG_SEPARATOR` -/
def isHashtagSeparator (char : Char) : Bool := isSpace char || char ∈ [',', '،', ';', '؛']

/-- `_normalize_hashtags` -/
def normalizeHashtags (channel : String) (values : List String) : List String :=
  if channel = "google_business_profile" then []
  else
    let tokens := values.flatMap fun value =>
      (value.toList.splitOnP fun char => isHashtagSeparator char || char = '#').filter
        (!·.isEmpty)
    (tokens.map fun token => "#" ++ String.ofList token).reverse.dedup.reverse

/-- The claim sources that every item has. -/
def baselineClaims (request : ItemRequest) : List ClaimSource :=
  ⟨"business_fact", "profile", "business_profile.profile", true⟩ ::
    ⟨"business_fact", "strategy", "strategy_plan.goal.text", true⟩ ::
    if request.ctaDestination.type ≠ .none ∧ request.ctaDestination.value.any (· ≠ "") then
      [⟨"business_fact", "week_context", "week_context.cta_destination", true⟩]
    else []

/-- Keep the first claim of each identity. -/
def distinctClaims : List ClaimSource → List (String × String × String) → List ClaimSource
  | [], _ => []
  | claim :: rest, identities =>
      let identity := (claim.claimType, claim.sourceType, claim.sourcePath)
      if identity ∈ identities then distinctClaims rest identities
      else claim :: distinctClaims rest (identity :: identities)

/-- `_normalized_claim_sources` -/
def normalizedClaimSources (service : Service) (request : ItemRequest) (item : ItemVersion) :
    List ClaimSource :=
  distinctClaims (baselineClaims request ++ item.claimSources.filter (service.isGrounded request))
    []

def primaryLocale (languageMode : String) : Locale := if languageMode = "en" then .en else .ar

/-- The calls to action that the provider wrote. -/
def previousCtas (item : ItemVersion) : List String :=
  ((item.cta :: item.captionVariants.map (·.cta) ++
    [item.shortVideoScript.bind (·.closingCta)]).filterMap fun cta => cta.filter (· ≠ "")).dedup

def normalizeVariant (ctaEntry : Option CtaLibraryEntry) (item : ItemVersion)
    (variant : CaptionVariant) : CaptionVariant :=
  let cta := normalizedCta ctaEntry variant.locale
  { variant with
    caption := replaceEmbeddedCtas variant.caption (previousCtas item) cta
    cta
    hashtags := normalizeHashtags item.channel variant.hashtags }

def normalizeScript (ctaEntry : Option CtaLibraryEntry) (item : ItemVersion) (locale : Locale)
    (script : ShortVideoScript) : ShortVideoScript :=
  let cta := normalizedCta ctaEntry locale
  let repaired text := replaceEmbeddedCtas text (previousCtas item) cta
  { hook := repaired script.hook
    closingCta := cta
    scenes := script.scenes.map fun scene =>
      { scene with
        voiceover := scene.voiceover.map repaired
        onScreenText := scene.onScreenText.map repaired } }

/-- The locale of the first variant, or that of the language. -/
def leadingLocale (item : ItemVersion) : Locale :=
  match item.captionVariants with
  | [] => primaryLocale item.languageMode
  | variant :: _ => variant.locale

/-- Add the blocker of missing media. -/
def mediaBlockers (blockers : List String) (assetRequired : Bool) (assetIds : List Uuid) :
    List String :=
  blockers.filter (· ≠ assetRequiredBlocker) ++
    if assetRequired && assetIds.isEmpty then [assetRequiredBlocker] else []

/-- The guidance that the item of a card of its format was given. -/
def provenanceFor (guidance : Option OptimizationGuidance) (plan : ContentPostPlan)
    (provenance : GenerationProvenance) : GenerationProvenance :=
  match guidance.filter fun guidance => plan.input.format = guidance.formatCohort.text with
  | none => provenance
  | some guidance => { provenance with optimizationGuidance := some guidance }

/-- The body of the loop of `_normalize_v2_generated_items`. -/
def normalizeItem (service : Service) (request : GenerateRequest) (v1Request : ItemRequest)
    (plan : ContentPostPlan) (item : ItemVersion) : ItemVersion :=
  let ctaEntry := ctaById request.ctaEntries plan.input.ctaLibraryEntryId
  let assetRequired := decide (plan.input.format ∈ mediaFormats)
  { item with
    captionVariants := item.captionVariants.map (normalizeVariant ctaEntry item)
    cta := normalizedCta ctaEntry (leadingLocale item)
    hashtags :=
      match item.captionVariants with
      | [] => normalizeHashtags item.channel item.hashtags
      | variant :: _ => normalizeHashtags item.channel variant.hashtags
    shortVideoScript :=
      if plan.input.format = "short_video_script" then
        item.shortVideoScript.map (normalizeScript ctaEntry item (leadingLocale item))
      else none
    assetRequired
    assetIds := plan.input.selectedMediaIds
    blockers := mediaBlockers item.blockers assetRequired plan.input.selectedMediaIds
    claimSources :=
      normalizedClaimSources service (v1RequestForPlan v1Request plan ctaEntry) item
    generationProvenance :=
      provenanceFor request.frozenInput.optimizationGuidance plan item.generationProvenance }

/-- `_normalize_v2_generated_items` -/
def normalizeV2GeneratedItems (service : Service) (request : GenerateRequest)
    (v1Request : ItemRequest) (items : List ItemVersion) : List ItemVersion :=
  if items.length ≠ request.cards.length then items
  else List.zipWith (normalizeItem service request v1Request) request.cards items

/-! ### What the service sets itself -/

/-- `_with_checksum` -/
def withChecksum (service : Service) (item : ItemVersion) : ItemVersion :=
  { item with versionChecksum := service.checksum { item with versionChecksum := "" } }

/-- `_with_platform_constraint_warning` -/
def withPlatformConstraintWarning (service : Service) (item : ItemVersion) : ItemVersion :=
  { item with
    warnings := item.warnings.filter (· ≠ "CONTENT_PLATFORM_CONSTRAINT") ++
      if service.isConstrained item then ["CONTENT_PLATFORM_CONSTRAINT"] else [] }

/-- One answer of the provider, with the prompt and the time that it is recorded under. -/
structure Attempt where
  answer : Except ValidationIssue (List ItemVersion)
  inputSnapshotHash : String
  generatedAt : Instant

/-- `_generation_run_id` -/
def generationRunId (service : Service) (attempt : Attempt) : Uuid :=
  service.uuid5 (":".intercalate ["content-generation-run", service.providerName,
    service.providerModel, attempt.inputSnapshotHash])

/-- The body of the loop of `_finalize_generated_items`; `index` counts from 1. -/
def finalizeItem (service : Service) (request : ItemRequest) (attempt : Attempt) (index : Nat)
    (item : ItemVersion) : ItemVersion :=
  let contentItemId := service.uuid5
    (toString request.contentPackId ++ ":content-item:" ++ toString index)
  let assetIds :=
    if item.assetRequired then item.assetIds.filter (· ∈ request.approvedAssetIds) else []
  withChecksum service (withPlatformConstraintWarning service
    { item with
      id := service.uuid5 (toString contentItemId ++ ":version:1")
      contentItemId
      contentPackId := request.contentPackId
      version := 1
      strategyTrace :=
        { item.strategyTrace with
          strategyId := request.strategyId
          strategyVersion := request.strategyVersion
          weekNumber := request.weekNumber
          objective := request.strategyPlan.primaryObjective
          channel := item.channel }
      assetIds
      blockers :=
        if item.assetRequired && assetIds.isEmpty && assetRequiredBlocker ∉ item.blockers then
          item.blockers ++ [assetRequiredBlocker]
        else item.blockers
      generationProvenance :=
        { item.generationProvenance with
          generationRunId := generationRunId service attempt
          providerName := service.providerName
          providerModel := service.providerModel
          generatedAt := attempt.generatedAt }
      createdAt := attempt.generatedAt })

/-- `_finalize_generated_items` -/
def finalizeGeneratedItems (service : Service) (request : ItemRequest) (attempt : Attempt)
    (items : List ItemVersion) : List ItemVersion :=
  items.mapIdx fun index item => finalizeItem service request attempt (index + 1) item

/-- The body of the loop of `_normalize_v2_finalized_items`. -/
def normalizeFinalizedItem (service : Service) (item : ItemVersion) : ItemVersion :=
  let staged :=
    { item with
      assetIds :=
        if item.assetRequired && item.assetIds.isEmpty then [service.generatedAssetId item.id]
        else item.assetIds
      blockers := item.blockers.filter (· ≠ assetRequiredBlocker) }
  { staged with versionChecksum := service.checksum staged }

/-- `_normalize_v2_finalized_items` -/
def normalizeV2FinalizedItems (service : Service) (items : List ItemVersion) :
    List ItemVersion :=
  items.map (normalizeFinalizedItem service)

/-! ### What an answer has to meet -/

/-- `validate_plan_alignment` -/
def validatePlanAlignment (plans : List ContentPostPlan) (items : List ItemVersion) :
    List ValidationIssue :=
  if items.length ≠ plans.length then
    [⟨"CONTENT_SCHEMA_FAILURE", "item_versions",
      "Generation produced " ++ toString items.length ++ " items for " ++ toString plans.length ++
        " frozen post plans; the counts must match.", true⟩]
  else
    (plans.zip items).zipIdx.flatMap fun ((plan, item), index) =>
      if item.channel ≠ plan.input.channel ∨ item.format ≠ plan.input.format then
        [⟨"CONTENT_CHANNEL_MISMATCH", "item_versions[" ++ toString index ++ "]",
          "Item " ++ toString (index + 1) ++ " uses " ++ item.channel ++ "/" ++ item.format ++
            " but its frozen card requires " ++ plan.input.channel ++ "/" ++ plan.input.format ++
            ".", true⟩]
      else []

/-- `_validate_item_against_generation_request` without asset readiness, where `generated` is
the visual that is planned for the item. -/
def itemIssues (service : Service) (request : ItemRequest) (item : ItemVersion)
    (generated : Option Uuid) (expectedVersion : Option Nat) : List ValidationIssue :=
  let trace := item.strategyTrace
  let expectedLocale := primaryLocale request.languageMode
  let locales := item.captionVariants.map (·.locale)
  let ctas := item.cta :: item.captionVariants.map (·.cta)
  let starts := service.cairo item.recommendedPublishWindow.startsAt
  let ends := service.cairo item.recommendedPublishWindow.endsAt
  issueWhen (expectedVersion.any (item.version ≠ ·))
      "CONTENT_VERSION_CONFLICT" "item.version"
      ("Generation must create item version " ++ toString (expectedVersion.getD 1) ++ ".") ++
    issueWhen (item.contentPackId ≠ request.contentPackId)
      "CONTENT_VERSION_CONFLICT" "item.content_pack_id"
      "Every generated item must belong to the requested Content pack." ++
    issueWhen (item.channel ∉ request.selectedChannels)
      "CONTENT_CHANNEL_MISMATCH" "item.channel"
      "Generated item channel must be selected by the approved Strategy." ++
    issueWhen (item.format ∉ request.allowedFormats)
      "CONTENT_SCHEMA_FAILURE" "item.format"
      "Generated item format must be in the requested supported formats." ++
    issueWhen (item.languageMode ≠ request.languageMode)
      "CONTENT_SCHEMA_FAILURE" "item.language_mode"
      "Generated item language must match the approved Strategy language." ++
    issueWhen (trace.strategyId ≠ request.strategyId ||
        trace.strategyVersion ≠ request.strategyVersion || trace.weekNumber ≠ request.weekNumber)
      "CONTENT_VERSION_CONFLICT" "item.strategy_trace"
      "Every item must trace to the exact requested Strategy version and week." ++
    issueWhen (trace.channel ≠ item.channel)
      "CONTENT_CHANNEL_MISMATCH" "item.strategy_trace.channel"
      "Item channel must match its Strategy trace channel." ++
    issueWhen (trace.pillarIds.isEmpty ||
        trace.pillarIds.any (· ∉ service.pillarIds request.strategyId))
      "CONTENT_VERSION_CONFLICT" "item.strategy_trace.pillar_ids"
      "Every item must trace only to one or more supplied Strategy pillars." ++
    issueWhen (trace.objective ≠ request.strategyPlan.primaryObjective)
      "CONTENT_VERSION_CONFLICT" "item.strategy_trace.objective"
      "Every item must preserve the exact approved Strategy objective." ++
    issueWhen (!decide locales.Nodup)
      "CONTENT_SCHEMA_FAILURE" "item.caption_variants"
      "Caption locales must not contain duplicates." ++
    issueWhen (expectedLocale ∉ locales)
      "CONTENT_SCHEMA_FAILURE" "item.caption_variants"
      "Caption variants must include the approved owner-facing language." ++
    issueWhen (request.languageMode = "mixed" && (Locale.ar ∉ locales || Locale.en ∉ locales))
      "CONTENT_SCHEMA_FAILURE" "item.caption_variants"
      "Mixed-language Content requires Arabic and English caption variants." ++
    issueWhen (item.format = "short_video_script" && item.shortVideoScript.isNone)
      "CONTENT_SCHEMA_FAILURE" "item.short_video_script"
      "Short-video formats require a structured short-video script." ++
    issueWhen (item.format ≠ "short_video_script" && item.shortVideoScript.isSome)
      "CONTENT_SCHEMA_FAILURE" "item.short_video_script"
      "Only short-video formats may contain a short-video script." ++
    issueWhen (item.shortVideoScript.any fun script => script.scenes.isEmpty ||
        script.scenes.map (·.order) ≠ List.range' 1 script.scenes.length)
      "CONTENT_SCHEMA_FAILURE" "item.short_video_script.scenes"
      "Short-video scene order must be contiguous and start at 1." ++
    issueWhen (item.format ∈ mediaFormats && !item.assetRequired)
      "CONTENT_ASSET_REQUIRED" "item.asset_required"
      "Static-image and carousel drafts must declare their media requirement." ++
    issueWhen (item.format ∉ mediaFormats && item.assetRequired)
      "CONTENT_SCHEMA_FAILURE" "item.asset_required"
      "This Content format must not claim a generated static-media requirement." ++
    issueWhen (isBlank item.creativeBrief || isBlank item.altText)
      "CONTENT_SCHEMA_FAILURE" "item.creative_brief"
      "Generated items require a creative brief and alt text." ++
    issueWhen item.claimSources.isEmpty
      "CONTENT_POLICY_VIOLATION" "item.claim_sources"
      "Every generated item requires material claim provenance." ++
    issueWhen (item.captionVariants.head?.any (·.hashtags ≠ item.hashtags))
      "CONTENT_SCHEMA_FAILURE" "item.hashtags"
      "Top-level hashtags must match the primary caption variant." ++
    issueWhen (item.captionVariants.head?.any (·.cta ≠ item.cta))
      "CONTENT_SCHEMA_FAILURE" "item.cta"
      "Top-level CTA must match the primary caption variant CTA." ++
    (if request.ctaDestination.type = .none then
      issueWhen (ctas.any Option.isSome) "CONTENT_POLICY_VIOLATION" "item.cta"
        "A no-destination weekly context cannot emit a CTA destination."
    else
      match request.ctaDestination.value.filter (!isBlank ·) with
      | none =>
          [issue "CONTENT_POLICY_VIOLATION" "week_context.cta_destination.value"
            "The confirmed CTA destination requires a non-empty value."]
      | some destination =>
          issueWhen (!ctas.any (·.any fun cta => destination.toList <:+: cta.toList))
            "CONTENT_POLICY_VIOLATION" "item.cta"
            "Generated CTA copy must preserve the confirmed destination value.") ++
    (if item.recommendedPublishWindow.endsAt ≤ item.recommendedPublishWindow.startsAt then
      [issue "CONTENT_SCHEMA_FAILURE" "item.recommended_publish_window"
        "Recommended publish window must end after it starts."]
    else issueWhen (!(request.weekStartAt ≤ starts && starts < ends &&
        ends ≤ request.weekStartAt + 7 * 24 * 60 * 60 * 1000))
      "CONTENT_VERSION_CONFLICT" "item.recommended_publish_window.starts_at"
      "Recommended publish window must remain inside the requested Strategy week.") ++
    service.textIssues request item ++
    issueWhen (!decide item.assetIds.Nodup)
      "CONTENT_SCHEMA_FAILURE" "item.asset_ids"
      "Asset references must not contain duplicates." ++
    item.assetIds.flatMap fun assetId =>
      issueWhen (assetId ∉ request.approvedAssetIds && generated ≠ some assetId)
        "CONTENT_ASSET_REQUIRED" "item.asset_ids"
        "Drafts may reference only approved owner assets or supplied generated assets."

/-- `validate_generated_content_pack` for the one item of a card. -/
def cardIssues (service : Service) (request : ItemRequest) (item : ItemVersion) :
    List ValidationIssue :=
  let generatedId := service.generatedAssetId item.id
  itemIssues service request item
      (if generatedId ∈ item.assetIds then some generatedId else none) (some 1) ++
    issueWhen (item.contentItemId = item.id)
      "CONTENT_VERSION_CONFLICT" "item_versions[0].content_item_id"
      "The stable item identity must be distinct from and linked to its version identity."

/-- `_validate_v2_generated_items` -/
def validateV2GeneratedItems (service : Service) (request : GenerateRequest)
    (v1Request : ItemRequest) (items : List ItemVersion) : List ValidationIssue :=
  validatePlanAlignment request.cards items ++
    if items.length = request.cards.length then
      (request.cards.zip items).flatMap fun (plan, item) =>
        cardIssues service
          (v1RequestForPlan v1Request plan
            (ctaById request.ctaEntries plan.input.ctaLibraryEntryId)) item
    else []

/-! ### Safe copy -/

mutual

/-- `_profile_business_name` -/
def profileBusinessName : Json → Option String
  | .object fields => profileBusinessNameIn fields
  | .array items => profileBusinessNameAmong items
  | _ => none

def profileBusinessNameIn : List (String × Json) → Option String
  | [] => none
  | (key, child) :: rest =>
      match key.toLower == "business_name", child with
      | true, .string name => if isBlank name then none else some (strip name)
      | _, child => (profileBusinessName child).or (profileBusinessNameIn rest)

def profileBusinessNameAmong : List Json → Option String
  | [] => none
  | child :: rest => (profileBusinessName child).or (profileBusinessNameAmong rest)

end

/-- `_SAFE_FALLBACK_COPY` -/
def safeFallbackCopy : Locale → List String
  | .ar =>
      ["تعرّف على نشاطنا وما نقدمه بطريقة واضحة.", "اكتشف كيف نهتم بالتفاصيل في كل خطوة.",
        "شاهد جانبًا من عملنا وتواصل معنا لمعرفة المزيد.",
        "تعرّف على أسلوب عملنا والخطوات التي نتبعها.", "تابعنا لمعرفة المزيد من التفاصيل عن نشاطنا."]
  | .en =>
      ["Learn more about our business and what we do.", "See how we approach each step with care.",
        "Discover a closer look at our work and contact us for details.",
        "Explore the way we work and the steps we follow.",
        "Follow us to learn more about our business."]

/-- `_safe_fallback_text` -/
def safeFallbackText (locale : Locale) (position : Nat) (businessName : Option String) : String :=
  let copyText := (safeFallbackCopy locale).getD ((position - 1) % 5) ""
  match businessName with
  | none => copyText
  | some businessName => businessName ++ "\n" ++ copyText

/-- `_safe_rewrite_item` -/
def safeRewriteItem (service : Service) (request : GenerateRequest) (plan : ContentPostPlan)
    (item : ItemVersion) (warningCodes : List String) : ItemVersion :=
  let businessName := profileBusinessName request.businessProfile.profile
  let locale := primaryLocale request.languageMode
  let primaryText := safeFallbackText locale plan.input.position businessName
  let inLocale (arabic english : String) : String := if locale = .ar then arabic else english
  let safeHashtags :=
    if item.channel = "google_business_profile" then []
    else [inLocale "#عن_نشاطنا" "#AboutOurBusiness"]
  let staged : ItemVersion :=
    { item with
      captionVariants := item.captionVariants.map fun variant =>
        { variant with
          caption := safeFallbackText variant.locale plan.input.position businessName
          hashtags := safeHashtags }
      hashtags := safeHashtags
      creativeBrief := inLocale "تصميم تعريفي واضح عن النشاط دون معلومات غير مؤكدة."
        "A clear visual introduction without unverified information."
      altText := inLocale "تصميم تعريفي بسيط عن النشاط." "A simple visual introduction to the business."
      shortVideoScript := item.shortVideoScript.map fun script =>
        { script with
          hook := primaryText
          scenes := script.scenes.map fun scene =>
            { scene with
              visualDirection :=
                inLocale "مشهد بسيط يعرّف بالنشاط." "A simple scene introducing the business."
              voiceover := scene.voiceover.map fun _ => primaryText
              onScreenText := scene.onScreenText.map fun _ => inLocale "اعرف المزيد" "Learn more" } }
      recommendedPublishWindow :=
        { item.recommendedPublishWindow with
          rationale := inLocale "داخل الأسبوع المعتمد." "Within the approved week." }
      warnings := (item.warnings ++ warningCodes.insertionSort (· ≤ ·)).reverse.dedup.reverse }
  { staged with versionChecksum := service.checksum staged }

/-- The issues that safe copy resolves. -/
def isRepairable (issue : ValidationIssue) : Bool :=
  (issue.code = "CONTENT_UNSUPPORTED_CLAIM" && issue.field = "item.claim_sources") ||
    (issue.code = "CONTENT_POLICY_VIOLATION" && issue.field = "item.protected_text")

/-- The body of the loop of `_deterministic_safe_repair_v2`. -/
def safeRepairItem (service : Service) (request : GenerateRequest) (v1Request : ItemRequest)
    (plan : ContentPostPlan) (item : ItemVersion) : ItemVersion :=
  let issues := cardIssues service
    (v1RequestForPlan v1Request plan (ctaById request.ctaEntries plan.input.ctaLibraryEntryId)) item
  if !issues.isEmpty && issues.all isRepairable then
    safeRewriteItem service request plan item (issues.map (·.code)).dedup
  else item

/-- `_deterministic_safe_repair_v2` -/
def deterministicSafeRepairV2 (service : Service) (request : GenerateRequest)
    (v1Request : ItemRequest) (items : List ItemVersion) (issues : List ValidationIssue) :
    List ItemVersion :=
  if items.length ≠ request.cards.length ∨ issues.isEmpty ∨ ¬issues.all isRepairable then items
  else List.zipWith (safeRepairItem service request v1Request) request.cards items

/-! ### Generation -/

/-- `_validate_pack_shape` -/
def validatePackShape (items : List ItemVersion) : Except ValidationIssue Unit :=
  if 3 ≤ items.length ∧ items.length ≤ 5 then .ok ()
  else
    .error (issue "CONTENT_SCHEMA_FAILURE" ""
      "Content generation must return between 3 and 5 item versions.")

/-- `_validation_error` -/
def accept (issues : List ValidationIssue) (items : List ItemVersion) :
    Except ValidationIssue (List ItemVersion) :=
  match issues with
  | [] => .ok items
  | first :: _ =>
      .error { first with
        message := "Validation issues: " ++
          " | ".intercalate ((issues.take 5).map fun issue => issue.field ++ ": " ++ issue.message) }

/-- What becomes of the provider's items. -/
def finish (service : Service) (request : GenerateRequest) (v1Request : ItemRequest)
    (attempt : Attempt) (items : List ItemVersion) : List ItemVersion :=
  normalizeV2FinalizedItems service (finalizeGeneratedItems service v1Request attempt
    (normalizeV2GeneratedItems service request v1Request items))

/-- The body of the loop of `generate_content_pack_with_repair`. -/
def tryAttempt (service : Service) (request : GenerateRequest) (v1Request : ItemRequest)
    (isLast : Bool) (attempt : Attempt) : Except ValidationIssue (List ItemVersion) := do
  let generated ← attempt.answer
  validatePackShape generated
  let items := finish service request v1Request attempt generated
  validatePackShape items
  let issues := validateV2GeneratedItems service request v1Request items
  if !issues.isEmpty && isLast then
    let repaired := normalizeV2FinalizedItems service
      (deterministicSafeRepairV2 service request v1Request items issues)
    validatePackShape repaired
    accept (validateV2GeneratedItems service request v1Request repaired) repaired
  else accept issues items

/-- `_REPAIRABLE_OUTPUT_CODES` -/
def repairableOutputCodes : List String :=
  ["CONTENT_SCHEMA_FAILURE", "AI_PROVIDER_INVALID_OUTPUT", "CONTENT_ASSET_REQUIRED",
    "CONTENT_CHANNEL_MISMATCH", "CONTENT_OFFER_UNAPPROVED", "CONTENT_POLICY_VIOLATION",
    "CONTENT_UNSUPPORTED_CLAIM", "CONTENT_VERSION_CONFLICT"]

/-- The loop of `generate_content_pack_with_repair`, with `left` attempts after this one. -/
def generateWithRepair (service : Service) (request : GenerateRequest) (v1Request : ItemRequest) :
    (left : Nat) → Attempt → List Attempt → Except ValidationIssue (List ItemVersion)
  | left, attempt, later =>
      match tryAttempt service request v1Request (left = 0) attempt, left, later with
      | .ok items, _, _ => .ok items
      | .error error, left + 1, next :: later =>
          if error.code ∈ repairableOutputCodes ∨ error.retryable then
            generateWithRepair service request v1Request left next later
          else .error error
      | .error error, _, _ => .error error

/-- `generate_v2_content_pack`: the provider is asked at most twice. -/
def generateV2ContentPack (service : Service) (request : GenerateRequest) (first : Attempt)
    (later : List Attempt) : Except ValidationIssue (List ItemVersion) := do
  let v1Request ← v2GenerateToV1Request request
  let _ ← accept (requestIssues v1Request) []
  let items ← generateWithRepair service request v1Request 1 first later
  accept (validateV2GeneratedItems service request v1Request items) items

/-! ### Rewriting -/

/-- `AiContentV2ReviseRequest`; the other fields are those of a generation. -/
structure ReviseRequest extends GenerateRequest where
  contentItemId : Uuid
  baseItemVersion : ItemVersion
  revisionNotes : String
  idempotencyKey : String

/-- `_frozen_plan_for_item` -/
def frozenPlanForItem (request : ReviseRequest) : Option ContentPostPlan :=
  (request.cards.find? fun plan => plan.contentItemId = some request.contentItemId).or
    (request.cards.find? fun plan =>
      plan.input.channel = request.baseItemVersion.channel &&
        plan.input.format = request.baseItemVersion.format)

/-- What a rewrite is checked against, where the card is found. -/
def revisionContext (request : ReviseRequest) (plan : ContentPostPlan) (v1Request : ItemRequest) :
    ItemRequest :=
  let ctaEntry := plan.input.ctaLibraryEntryId.bind fun id =>
    request.ctaEntries.find? (·.id = id)
  let forPlan := v1RequestForPlan v1Request plan ctaEntry
  { forPlan with
    approvedAssetIds :=
      (forPlan.approvedAssetIds ++ request.baseItemVersion.assetIds).reverse.dedup.reverse }

/-- `assemble_revision_prompt` refuses. -/
def revisionRefusal (request : ReviseRequest) (context : ItemRequest) : List ValidationIssue :=
  let base := request.baseItemVersion
  issueWhen (base.contentPackId ≠ request.contentPackId ||
        base.contentItemId ≠ request.contentItemId)
      "CONTENT_VERSION_CONFLICT" ""
      "item version does not belong to the requested pack and item." ++
    issueWhen (isBlank request.revisionNotes || 4000 < request.revisionNotes.length)
      "CONTENT_SCHEMA_FAILURE" "" "revision_notes must contain 1-4000 characters." ++
    issueWhen (isBlank request.idempotencyKey || 256 < request.idempotencyKey.length)
      "CONTENT_SCHEMA_FAILURE" "" "idempotency_key must contain 1-256 characters." ++
    requestIssues context ++
    issueWhen (context.contentPackId ≠ request.contentPackId ||
        base.strategyTrace.strategyId ≠ context.strategyId ||
        base.strategyTrace.strategyVersion ≠ context.strategyVersion ||
        base.strategyTrace.weekNumber ≠ context.weekNumber ||
        base.channel ∉ context.selectedChannels || base.format ∉ context.allowedFormats ||
        base.languageMode ≠ context.languageMode)
      "CONTENT_VERSION_CONFLICT" "" "revision grounding does not match the supplied item version."

/-- One answer of the provider to a rewrite. -/
structure RevisionAttempt where
  answer : Except ValidationIssue ItemVersion
  inputSnapshotHash : String
  generatedAt : Instant

/-- `_finalize_revised_item` -/
def finalizeRevisedItem (service : Service) (base : ItemVersion) (attempt : RevisionAttempt)
    (item : ItemVersion) : ItemVersion :=
  withChecksum service (withPlatformConstraintWarning service
    { item with
      id := service.uuid5
        (toString base.contentItemId ++ ":version:" ++ toString (base.version + 1))
      version := base.version + 1
      generationProvenance :=
        { item.generationProvenance with
          generationRunId := service.uuid5 (":".intercalate ["content-generation-run",
            service.providerName, service.providerModel, attempt.inputSnapshotHash])
          providerName := service.providerName
          providerModel := service.providerModel
          generatedAt := attempt.generatedAt }
      createdAt := attempt.generatedAt })

/-- A locked field that a rewrite changed. -/
def lockedIssue (changed : Bool) (field : String) : List ValidationIssue :=
  issueWhen changed "CONTENT_VERSION_CONFLICT" ("item_version." ++ field)
    "Revision cannot change Strategy-locked item fields."

/-- `validate_revision_item` -/
def revisionIssues (service : Service) (base item : ItemVersion) (context : ItemRequest) :
    List ValidationIssue :=
  let trace := item.strategyTrace
  issueWhen (item.id = base.id) "CONTENT_VERSION_CONFLICT" "item_version.id"
      "A revision must create a new immutable item-version identity." ++
    issueWhen (item.version ≠ base.version + 1) "CONTENT_VERSION_CONFLICT" "item_version.version"
      "A revision must create the next immutable item-version number." ++
    lockedIssue (item.contentItemId ≠ base.contentItemId) "content_item_id" ++
    lockedIssue (item.contentPackId ≠ base.contentPackId) "content_pack_id" ++
    lockedIssue (item.channel ≠ base.channel) "channel" ++
    lockedIssue (item.format ≠ base.format) "format" ++
    lockedIssue (item.languageMode ≠ base.languageMode) "language_mode" ++
    lockedIssue (trace.strategyId ≠ base.strategyTrace.strategyId) "strategy_trace.strategy_id" ++
    lockedIssue (trace.strategyVersion ≠ base.strategyTrace.strategyVersion)
      "strategy_trace.strategy_version" ++
    lockedIssue (trace.weekNumber ≠ base.strategyTrace.weekNumber) "strategy_trace.week_number" ++
    lockedIssue (trace.pillarIds ≠ base.strategyTrace.pillarIds) "strategy_trace.pillar_ids" ++
    lockedIssue (trace.objective ≠ base.strategyTrace.objective) "strategy_trace.objective" ++
    lockedIssue (trace.channel ≠ base.strategyTrace.channel) "strategy_trace.channel" ++
    lockedIssue (item.assetRequired ≠ base.assetRequired) "asset_required" ++
    issueWhen (item.assetIds.any (· ∉ base.assetIds))
      "CONTENT_VERSION_CONFLICT" "item_version.asset_ids"
      "Revision cannot invent or attach new asset identities." ++
    issueWhen (item.versionChecksum = base.versionChecksum)
      "CONTENT_VERSION_CONFLICT" "item_version.version_checksum"
      "A new revision must have a new version checksum." ++
    issueWhen (item.generationProvenance.generationRunId =
        base.generationProvenance.generationRunId)
      "CONTENT_VERSION_CONFLICT" "item_version.generation_provenance.generation_run_id"
      "A revision must record a new generation run identity." ++
    issueWhen (item.createdAt ≤ base.createdAt)
      "CONTENT_VERSION_CONFLICT" "item_version.created_at"
      "A revision must be created after the previous immutable version." ++
    issueWhen (item.versionChecksum ≠ service.checksum item)
      "CONTENT_VERSION_CONFLICT" "item_version.version_checksum"
      "Revision checksum must cover the exact immutable version bytes." ++
    itemIssues service context item none none

/-- The loop of `revise_content_item_with_repair`, with `left` attempts after this one. -/
def reviseWithRepair (service : Service) (base : ItemVersion) (context : ItemRequest) :
    (left : Nat) → RevisionAttempt → List RevisionAttempt → Except ValidationIssue ItemVersion
  | left, attempt, later =>
      let tried := do
        let item ← attempt.answer
        let item := finalizeRevisedItem service base attempt item
        let _ ← accept (revisionIssues service base item context) []
        return item
      match tried, left, later with
      | .ok item, _, _ => .ok item
      | .error error, left + 1, next :: later =>
          if error.code ∈ repairableOutputCodes ∨ error.retryable then
            reviseWithRepair service base context left next later
          else .error error
      | .error error, _, _ => .error error

/-- `revise_v2_content_item`, with the request that it checks the rewrite against. -/
def reviseV2ContentItem (service : Service) (request : ReviseRequest) (first : RevisionAttempt)
    (later : List RevisionAttempt) : Except ValidationIssue ItemVersion := do
  let v1Request ← v2GenerateToV1Request request.toGenerateRequest
  match frozenPlanForItem request with
  | none =>
      .error (issue "CONTENT_SCHEMA_FAILURE" ""
        "The frozen post plan for this content item is missing.")
  | some plan =>
      let context := revisionContext request plan v1Request
      let base := request.baseItemVersion
      let _ ← accept (revisionRefusal request context) []
      let item ← reviseWithRepair service base context 1 first later
      let _ ← accept (revisionIssues service base item context) []
      let preserved :=
        { item with
          assetIds := base.assetIds
          blockers := item.blockers.filter fun blocker =>
            blocker ≠ assetRequiredBlocker || base.assetIds.isEmpty }
      return { preserved with versionChecksum := service.checksum preserved }

end MarketMind.Content.Generator
