import MarketMind.Performance.Comparison
import MarketMind.Publishing.Contract

/-!
Owns the deterministic analysis of eligible snapshots: the choice of a cohort,
its comparisons, and the generation request that the service builds of it.

Does not own how snapshots are loaded. Metric values are exact rationals.
-/

namespace MarketMind.Performance

open Publishing.Contract (isHexGroups codeUnits)

/-- `UUID_PATTERN`: with a version from 1 to 5 and the variant of RFC 4122. -/
def isUuid (text : String) : Bool :=
  isHexGroups [8, 4, 4, 4, 12] text.toList &&
    (text.toList[14]?.any fun char => '1' ≤ char && char ≤ '5') &&
    (text.toList[19]?.any fun char => ['8', '9', 'a', 'b', 'A', 'B'].contains char)

/-- A UUID of a version from 1 to 5, as PostgreSQL writes it. -/
structure Uuid where
  text : String
  isUuid : isUuid text = true
  isLower : text.toList.all (fun char => !char.isUpper) = true

theorem Uuid.eq_of_text {left right : Uuid} (same : left.text = right.text) : left = right := by
  cases left
  cases right
  cases same
  rfl

instance : DecidableEq Uuid := fun left right =>
  decidable_of_iff (left.text = right.text) ⟨Uuid.eq_of_text, congrArg Uuid.text⟩

inductive OptimizationFormat
  | textPost
  | staticImagePost
deriving DecidableEq

def OptimizationFormat.text : OptimizationFormat → String
  | textPost => "text_post"
  | staticImagePost => "static_image_post"

/-- `OPTIMIZATION_FORMATS` -/
def optimizationFormats : List OptimizationFormat := [.textPost, .staticImagePost]

def requiredSnapshotCount : Nat := 3

/-- `OPTIMIZATION_REQUIRED_METRICS` -/
def requiredMetrics : List String := ["post_media_view", "post_clicks"]

inductive MetricValue
  | available (value : ℚ)
  | unavailable (reason : String)
deriving DecidableEq

def MetricValue.value? : MetricValue → Option ℚ
  | available value => some value
  | unavailable _ => none

def isAvailable (value : MetricValue) : Bool := value.value?.isSome

structure OptimizationMetrics where
  postMediaView : MetricValue
  postClicks : MetricValue
deriving DecidableEq

/-- `metrics[metric]` -/
def OptimizationMetrics.get? (metrics : OptimizationMetrics) (metric : String) :
    Option MetricValue :=
  if metric = "post_media_view" then some metrics.postMediaView
  else if metric = "post_clicks" then some metrics.postClicks
  else none

structure OptimizationSnapshotInput where
  snapshotId : Uuid
  businessId : Uuid
  publishingResultId : Uuid
  candidateId : Uuid
  candidateChecksum : String
  strategyId : Uuid
  strategyVersion : Nat
  contentCycleId : Uuid
  contentFormat : OptimizationFormat
  provider : String
  window : String
  publishedAt : String
  observedAt : Option String
  metrics : OptimizationMetrics
  caption : String
  cta : Option String

/-- An `OptimizationSnapshotInput` that was observed. -/
structure OptimizationEvidence where
  snapshotId : Uuid
  businessId : Uuid
  publishingResultId : Uuid
  candidateId : Uuid
  candidateChecksum : String
  strategyId : Uuid
  strategyVersion : Nat
  contentCycleId : Uuid
  contentFormat : OptimizationFormat
  provider : String
  window : String
  publishedAt : String
  observedAt : String
  metrics : OptimizationMetrics
  caption : String
  cta : Option String

structure OptimizationComparison where
  metric : String
  baselineMedian : ℚ
  values : List ℚ
  bestSnapshotId : String
  bestValue : ℚ
  deltaFromMedian : ℚ
  deltaPercent : Option ℚ
  direction : String

structure GenerationIdentity where
  businessId : String
  strategyId : String
  strategyVersion : Int
  contentCycleId : String
  formatCohort : String

structure GenerationEvidence where
  snapshotId : String
  candidateId : String
  contentFormat : String
  publishedAt : String
  metrics : OptimizationMetrics
  untrustedCaption : String
  untrustedCta : Option String

/-- The generation request, with the fingerprint that is computed of the rest. -/
structure GenerationRequest where
  contractVersion : String
  generationFingerprint : String
  evidenceChecksum : String
  identity : GenerationIdentity
  evidence : List GenerationEvidence
  deterministicComparison : List OptimizationComparison
  allowedChangeKinds : List String
  prohibitedChanges : List String

/-- What the analysis takes from the host: SHA-256 in lower-case hexadecimal,
`Date.parse`, `left.localeCompare(right) <= 0`, and the canonical texts of
evidence and requests, in which numbers are printed as doubles. -/
structure Host where
  sha256 : String → String
  isDate : String → Bool
  localeLe : (left right : String) → Bool
  evidenceText : List OptimizationEvidence → String
  requestText : GenerationRequest → String

/-! ### Readiness -/

inductive ReadinessStatus
  | ready
  | collectingBaseline
  | insufficientEvidence
deriving DecidableEq

inductive ReadinessReason
  | noEligiblePosts
  | fewerThanThreeComparable
  | missingRequiredMetric
  | weakSignal
  | snapshotProvenanceConflict
deriving DecidableEq

structure OptimizationReadiness where
  status : ReadinessStatus
  businessId : Uuid
  formatCohort : Option OptimizationFormat
  eligiblePostCount : Nat
  availableFormats : List OptimizationFormat
  reason : Option ReadinessReason

def readiness (businessId : Uuid) (formatCohort : Option OptimizationFormat)
    (eligiblePostCount : Nat) (availableFormats : List OptimizationFormat)
    (reason : Option ReadinessReason) : OptimizationReadiness :=
  let insufficientEvidence := reason = some .weakSignal ∨ reason = some .missingRequiredMetric ∨
    reason = some .snapshotProvenanceConflict
  { status :=
      if insufficientEvidence then .insufficientEvidence
      else if requiredSnapshotCount ≤ eligiblePostCount then .ready
      else .collectingBaseline
    businessId, formatCohort, eligiblePostCount, availableFormats
    reason :=
      if insufficientEvidence ∨ eligiblePostCount < requiredSnapshotCount then reason else none }

structure OptimizationAnalysis where
  readiness : OptimizationReadiness
  formatCohort : Option OptimizationFormat
  identity : Option GenerationIdentity
  evidence : List OptimizationEvidence
  comparisons : List OptimizationComparison
  evidenceChecksum : Option String

/-- An analysis without evidence. -/
def withoutEvidence (readiness : OptimizationReadiness)
    (formatCohort : Option OptimizationFormat) (identity : Option GenerationIdentity) :
    OptimizationAnalysis :=
  ⟨readiness, formatCohort, identity, [], [], none⟩

/-! ### The cohort -/

structure AnalysisInput where
  businessId : Uuid
  snapshots : List OptimizationSnapshotInput
  requestedFormat : Option OptimizationFormat

def isOptimizationFormat (format : OptimizationFormat) : Bool := optimizationFormats.contains format

def isComparable (input : AnalysisInput) (snapshot : OptimizationSnapshotInput) : Bool :=
  snapshot.businessId = input.businessId && snapshot.provider = "facebook" &&
    snapshot.window = "7d" && isOptimizationFormat snapshot.contentFormat

def availableFormats (input : AnalysisInput) : List OptimizationFormat :=
  ((input.snapshots.filter (isComparable input)).map (·.contentFormat)).eraseDups.insertionSort
    fun left right => codeUnits left.text ≤ codeUnits right.text

def identityKey (snapshot : OptimizationSnapshotInput) : String :=
  snapshot.businessId.text ++ "|" ++ snapshot.strategyId.text ++ "|" ++
    toString snapshot.strategyVersion ++ "|" ++ snapshot.contentCycleId.text ++ "|" ++
    snapshot.contentFormat.text

def candidates (input : AnalysisInput) : List OptimizationSnapshotInput :=
  input.snapshots.filter fun snapshot =>
    isComparable input snapshot && snapshot.observedAt.isSome &&
      input.requestedFormat.all (snapshot.contentFormat = ·)

/-- The values of the map, in the order in which their keys were set first. -/
def groups (snapshots : List OptimizationSnapshotInput) :
    List (List OptimizationSnapshotInput) :=
  (snapshots.map identityKey).eraseDups.map fun key =>
    snapshots.filter (identityKey · = key)

def isComplete (snapshot : OptimizationSnapshotInput) : Bool :=
  isAvailable snapshot.metrics.postMediaView && isAvailable snapshot.metrics.postClicks

def completeCount (group : List OptimizationSnapshotInput) : Nat :=
  (group.filter isComplete).length

/-- Whether a group sorts before another, or as it. -/
def groupBefore (host : Host) (left right : List OptimizationSnapshotInput) : Prop :=
  if completeCount right ≠ completeCount left then completeCount right < completeCount left
  else if right.length ≠ left.length then right.length < left.length
  else host.localeLe (left.head?.elim "" identityKey) (right.head?.elim "" identityKey) = true

instance (host : Host) : DecidableRel (groupBefore host) := fun left right => by
  unfold groupBefore
  infer_instance

def chosenGroup (host : Host) (input : AnalysisInput) : List OptimizationSnapshotInput :=
  ((groups (candidates input)).insertionSort (groupBefore host)).head?.getD []

/-- The snapshots of the chosen group that have both metrics, by their identities. -/
def cohort (host : Host) (input : AnalysisInput) : List OptimizationSnapshotInput :=
  ((chosenGroup host input).filter isComplete).insertionSort fun left right =>
    host.localeLe left.snapshotId.text right.snapshotId.text = true

/-! ### Evidence and comparisons -/

/-- `asEvidence`, which throws for a snapshot that was not observed. -/
def asEvidence (snapshot : OptimizationSnapshotInput) : Except String OptimizationEvidence :=
  match snapshot.observedAt with
  | none | some "" => .error "Optimization evidence requires an observed snapshot"
  | some observedAt => .ok { snapshot with observedAt }

structure Observation where
  snapshotId : Uuid
  value : ℚ

def observations (evidence : List OptimizationEvidence) (metric : String) : List Observation :=
  evidence.filterMap fun item =>
    (item.metrics.get? metric).bind fun value => value.value?.map (⟨item.snapshotId, ·⟩)

/-- The greater value first, then the lower identity. -/
def observationBefore (host : Host) (left right : Observation) : Prop :=
  right.value < left.value ∨
    (right.value = left.value ∧ host.localeLe left.snapshotId.text right.snapshotId.text = true)

instance (host : Host) : DecidableRel (observationBefore host) := fun left right => by
  unfold observationBefore
  infer_instance

def comparisonFor (host : Host) (evidence : List OptimizationEvidence) (metric : String) :
    Except String OptimizationComparison :=
  let observations := observations evidence metric
  let values := observations.map (·.value)
  let baselineMedian := median values
  match (observations.insertionSort (observationBefore host)).head? with
  | none => .error "Cannot read properties of undefined (reading 'snapshot_id')"
  | some best => .ok {
      metric, baselineMedian, values
      bestSnapshotId := best.snapshotId.text
      bestValue := best.value
      deltaFromMedian := best.value - baselineMedian
      deltaPercent :=
        if 0 < baselineMedian then some ((best.value - baselineMedian) / baselineMedian * 100)
        else none
      direction := "higher_is_better" }

def identityOf (snapshot : OptimizationSnapshotInput) : GenerationIdentity where
  businessId := snapshot.businessId.text
  strategyId := snapshot.strategyId.text
  strategyVersion := snapshot.strategyVersion
  contentCycleId := snapshot.contentCycleId.text
  formatCohort := snapshot.contentFormat.text

def identityOfEvidence (evidence : OptimizationEvidence) : GenerationIdentity where
  businessId := evidence.businessId.text
  strategyId := evidence.strategyId.text
  strategyVersion := evidence.strategyVersion
  contentCycleId := evidence.contentCycleId.text
  formatCohort := evidence.contentFormat.text

def computeOptimizationEvidenceChecksum (host : Host) (evidence : List OptimizationEvidence) :
    String :=
  host.sha256 (host.evidenceText evidence)

def analyzeOptimizationSnapshots (host : Host) (input : AnalysisInput) :
    Except String OptimizationAnalysis :=
  let formats := availableFormats input
  if ¬ (input.snapshots.map (·.snapshotId)).Nodup then
    .ok (withoutEvidence
      (readiness input.businessId input.requestedFormat 0 formats
        (some .snapshotProvenanceConflict)) input.requestedFormat none)
  else
    let chosen := chosenGroup host input
    let selectedFormat := (chosen.head?.map (·.contentFormat)).orElse fun _ => input.requestedFormat
    let complete := cohort host input
    if complete.length < requiredSnapshotCount then
      let reason : ReadinessReason :=
        if requiredSnapshotCount ≤ chosen.length then .missingRequiredMetric
        else if chosen.length = 0 then .noEligiblePosts
        else .fewerThanThreeComparable
      .ok (withoutEvidence
        (readiness input.businessId selectedFormat complete.length formats (some reason))
        selectedFormat (chosen.head?.map identityOf))
    else do
      let evidence ← complete.mapM asEvidence
      let comparisons ← requiredMetrics.mapM (comparisonFor host evidence)
      match evidence with
      | [] => .error "Optimization evidence cannot be empty"
      | first :: _ =>
          if ¬ comparisons.any (0 < ·.deltaFromMedian) then
            return withoutEvidence
              (readiness input.businessId (some first.contentFormat) evidence.length formats
                (some .weakSignal)) (some first.contentFormat) none
          else
            return {
              readiness := readiness input.businessId (some first.contentFormat) evidence.length
                formats none
              formatCohort := some first.contentFormat
              identity := some (identityOfEvidence first)
              evidence, comparisons
              evidenceChecksum := some (computeOptimizationEvidenceChecksum host evidence) }

/-! ### The request -/

/-- `OPTIMIZATION_CHANGE_KINDS` -/
def optimizationChangeKinds : List String := ["hook_style", "cta_wording_style"]

/-- `OPTIMIZATION_PROHIBITED_CHANGES` -/
def optimizationProhibitedChanges : List String :=
  ["strategy", "goal", "topic", "purpose", "audience", "channel", "locale", "format", "post_count",
    "media", "publishing_date", "publishing_time", "publishing_window", "offer", "business_facts",
    "already_created_content"]

def generationEvidence (item : OptimizationEvidence) : GenerationEvidence where
  snapshotId := item.snapshotId.text
  candidateId := item.candidateId.text
  contentFormat := item.contentFormat.text
  publishedAt := item.publishedAt
  metrics := item.metrics
  untrustedCaption := item.caption
  untrustedCta := item.cta

/-- The request without its fingerprint, which is computed of it. -/
def withoutFingerprint (analysis : OptimizationAnalysis) (identity : GenerationIdentity)
    (evidenceChecksum : String) : GenerationRequest where
  contractVersion := "optimization-v1"
  generationFingerprint := ""
  evidenceChecksum
  identity
  evidence := analysis.evidence.map generationEvidence
  deterministicComparison := analysis.comparisons
  allowedChangeKinds := optimizationChangeKinds
  prohibitedChanges := optimizationProhibitedChanges

def computeOptimizationGenerationFingerprint (host : Host) (request : GenerationRequest) : String :=
  host.sha256 (host.requestText request)

/-- The request that `generate` sends to the agent, when the analysis is ready. -/
def generationRequest (host : Host) (analysis : OptimizationAnalysis) : Option GenerationRequest :=
  match analysis.readiness.status, analysis.identity, analysis.evidenceChecksum with
  | .ready, some identity, some evidenceChecksum =>
      let request := withoutFingerprint analysis identity evidenceChecksum
      some { request with
        generationFingerprint := computeOptimizationGenerationFingerprint host request }
  | _, _, _ => none

end MarketMind.Performance
