import Mathlib.Algebra.Order.Ring.Rat
import MarketMind.Content.Hashtags

/-!
Owns the evidence of a research run: the sources and observations that are gathered, how they are
consolidated and mapped to a result, and the rows in which the result is saved.

The URL class of the runtime, its lower case and what search, triage and pages answer come from
outside. Does not own the status of the result, its hooks and its gaps.
-/

namespace MarketMind.Discovery.Evidence

open Publishing.Contract (isWhiteSpace utf16Length)

/-! ### URLs -/

/-- The URL class, and the lower case of strings. -/
structure UrlApi where
  Url : Type
  parse : String → Option Url
  withoutHash : Url → Url
  withoutSearch : Url → Url
  hostname : Url → String
  setHostname : Url → String → Url
  pathname : Url → String
  setPathname : Url → String → Url
  href : Url → String
  toLowerCase : String → String

section Keys

variable (api : UrlApi)

def withoutTrailingSlash (url : api.Url) : api.Url :=
  let path := (api.pathname url).toList
  if 1 < path.length ∧ path.getLast? = some '/' then
    api.setPathname url (String.ofList path.dropLast)
  else url

/-- `value.trim().toLowerCase()`, for what is no URL. -/
def plainKey (value : String) : String :=
  api.toLowerCase (String.ofList (Content.Hashtags.trim isWhiteSpace value.toList))

def normalizedHost (hostname : String) : String :=
  let host := api.toLowerCase hostname
  if host ∈ ["www.facebook.com", "m.facebook.com", "mobile.facebook.com"] then "facebook.com"
  else host

/-- `sourceKey` of a source with this URL. -/
def urlKey (value : String) : String :=
  match api.parse value with
  | none => plainKey api value
  | some parsed =>
      let url := api.withoutHash parsed
      let url := api.setHostname url (normalizedHost api (api.hostname url))
      let url := if api.hostname url = "facebook.com" then api.withoutSearch url else url
      api.href (withoutTrailingSlash api url)

/-- `normalizeUrl` of the repository, where an empty text counts as none. -/
def normalizeUrl (value : Option String) : Option String := do
  let value ← value.filter (· ≠ "")
  let normalized :=
    match api.parse value with
    | none => plainKey api value
    | some parsed =>
        let url := api.withoutHash parsed
        let url := api.setHostname url (api.toLowerCase (api.hostname url))
        api.href (withoutTrailingSlash api url)
  if normalized = "" then none else some normalized

end Keys

/-! ### Candidates -/

inductive Status where
  | accepted | discarded
  deriving DecidableEq, Repr

inductive Value where
  | text (value : String)
  | number (value : ℚ)
  | flag (value : Bool)
  | record (entries : List (String × String))
  deriving DecidableEq, Repr

abbrev Metadata := List (String × Value)

/-- `{ ...left, ...right }` -/
def spread (left right : Metadata) : Metadata :=
  right.foldl
    (fun entries entry =>
      if entries.any (·.1 == entry.1) then
        entries.map fun old => if old.1 = entry.1 then entry else old
      else entries ++ [entry])
    left

/-- What a source candidate shares with the reference and the row it becomes. -/
structure SourceData where
  sourceType : String
  platform : Option String
  url : Option String
  title : Option String
  snippet : Option String
  fetchedAt : Option String
  confidence : ℚ
  metadata : Metadata
  deriving DecidableEq, Repr

structure SourceCandidate extends SourceData where
  status : Option Status
  discardReason : Option String
  deriving DecidableEq, Repr

inductive ObservationKind where
  | digitalPresence | competitor | marketContext | socialSignal | metadata | discarded
  deriving DecidableEq, Repr

structure ObservationCandidate where
  kind : ObservationKind
  statement : String
  sourceIndex : Option Nat
  confidence : ℚ
  visibility : Option String
  status : Option Status
  discardReason : Option String
  metadata : Metadata
  deriving DecidableEq, Repr

structure Gathered where
  sources : List SourceCandidate
  observations : List ObservationCandidate
  deriving DecidableEq, Repr

/-! ### Owner links -/

/-- A link of the owner, with the title and description of its page when it could be fetched. -/
structure Link where
  platform : String
  url : String
  page : Option (Option String × Option String)
  fetchedAt : String

def extractLink (link : Link) : SourceCandidate :=
  let submitted : Metadata := [("owner_submitted", .flag true)]
  { sourceType := "owner_link"
    platform := some link.platform
    url := some link.url
    title := link.page.bind (·.1)
    snippet := link.page.bind (·.2)
    fetchedAt := some link.fetchedAt
    confidence :=
      match link.page with
      | some (title, description) =>
          if [title, description].any (·.any (· != "")) then 75 / 100 else 55 / 100
      | none => 45 / 100
    metadata :=
      if link.page.isSome then submitted ++ [("metadata_fetch_status", .text "complete")]
      else submitted ++
        [("metadata_fetch_status", .text "failed"), ("error_code", .text "METADATA_FETCH_FAILED"),
          ("error_message", .text "Metadata fetch failed.")]
    status := none
    discardReason := none }

/-- `MetadataExtractorService.extract` -/
def extract (links : List Link) : Gathered where
  sources := links.map extractLink
  observations := links.zipIdx.map fun (link, sourceIndex) =>
    let source := extractLink link
    { kind := .socialSignal
      statement :=
        (source.snippet <|> source.title).getD ("Owner provided " ++ link.platform ++ " link.")
      sourceIndex := some sourceIndex
      confidence := source.confidence
      visibility := some "internal"
      status := none
      discardReason := none
      metadata := [("platform", .text link.platform), ("owner_submitted", .flag true)] }

/-! ### Triage -/

structure SearchResult where
  provider : String
  title : Option String
  url : Option String
  snippet : Option String
  rank : Nat
  query : String
  metadata : Metadata

inductive Classification where
  | ownBusiness | competitor | marketContext | socialSignal | directory | irrelevant
  deriving DecidableEq, Repr

def Classification.text : Classification → String
  | .ownBusiness => "own_business"
  | .competitor => "competitor"
  | .marketContext => "market_context"
  | .socialSignal => "social_signal"
  | .directory => "directory"
  | .irrelevant => "irrelevant"

inductive Tier where
  | confirmedSignal | needsConfirmation | discarded
  deriving DecidableEq, Repr

def Tier.text : Tier → String
  | .confirmedSignal => "confirmed_signal"
  | .needsConfirmation => "needs_confirmation"
  | .discarded => "discarded"

structure Decision where
  index : Nat
  classification : Classification
  evidenceTier : Tier
  confidence : ℚ
  reason : String
  candidateFacts : List (String × String)
  suggestedOwnerQuestion : Option String
  synthesizedObservation : Option String

def Decision.status (decision : Decision) : Status :=
  if decision.evidenceTier = .discarded then .discarded else .accepted

/-- What both metadata records of a result hold. -/
def triageMetadata (result : SearchResult) (decision : Decision) : Metadata :=
  [("provider", .text result.provider), ("rank", .number result.rank),
    ("query", .text result.query), ("triage_source", .text "llm"),
    ("evidence_tier", .text decision.evidenceTier.text),
    ("classification", .text decision.classification.text)] ++
    (decision.suggestedOwnerQuestion.map fun question =>
      ("suggested_owner_question", Value.text question)).toList ++
    [("candidate_facts", .record decision.candidateFacts)]

def sourceCandidate (result : SearchResult) (decision : Decision) (fetchedAt : String) :
    SourceCandidate where
  sourceType := "search_result"
  platform := some result.provider
  url := result.url
  title := result.title
  snippet := result.snippet
  fetchedAt := some fetchedAt
  confidence := decision.confidence
  status := some decision.status
  discardReason := none
  metadata := spread result.metadata
    (triageMetadata result decision ++ [("triage_reason", .text decision.reason)])

def observationKind : Classification → ObservationKind
  | .ownBusiness | .directory => .digitalPresence
  | .competitor => .competitor
  | .marketContext => .marketContext
  | .socialSignal => .socialSignal
  | .irrelevant => .metadata

def statementText (result : SearchResult) (decision : Decision) : String :=
  match decision.synthesizedObservation.filter (· ≠ ""),
      decision.suggestedOwnerQuestion.filter (· ≠ "") with
  | some synthesized, _ => synthesized
  | none, some question => decision.reason ++ " Suggested confirmation: " ++ question
  | none, none => (result.snippet <|> result.title).getD decision.reason

def observationCandidate (result : SearchResult) (decision : Decision) (sourceIndex : Nat) :
    ObservationCandidate where
  kind := observationKind decision.classification
  statement := statementText result decision
  sourceIndex := some sourceIndex
  confidence := decision.confidence
  visibility := some (if decision.classification = .competitor then "owner_visible" else "internal")
  status := some decision.status
  discardReason := if decision.status = .discarded then some decision.reason else none
  metadata := triageMetadata result decision

inductive ProviderError where
  | search (code : String)
  | triageInvalidOutput (index : Nat)
  deriving DecidableEq, Repr

/-- What a query brings in: its results with the decisions about them, or the error of a
provider. -/
inductive Reply where
  | failed (error : ProviderError)
  | answered (results : List SearchResult) (decisions : List Decision) (fetchedAt : String)

/-- The body of the loop over results. -/
def triageResult (decisions : List Decision) (fetchedAt : String) (sourceStartIndex : Nat)
    (result : SearchResult × Nat) : Except ProviderError (SourceCandidate × ObservationCandidate) :=
  match (decisions.filter (·.index = result.2)).getLast? with
  | none => .error (.triageInvalidOutput result.2)
  | some decision =>
      .ok (sourceCandidate result.1 decision fetchedAt,
        observationCandidate result.1 decision (sourceStartIndex + result.2))

/-- `EvidenceTriageService.triage` -/
def triage (results : List SearchResult) (decisions : List Decision) (fetchedAt : String)
    (sourceStartIndex : Nat) : Except ProviderError Gathered := do
  let pairs ← results.zipIdx.mapM (triageResult decisions fetchedAt sourceStartIndex)
  return ⟨pairs.map (·.1), pairs.map (·.2)⟩

/-- The candidates of a reply behind those that are there. -/
def Gathered.push (gathered : Gathered) : Reply → Except ProviderError Gathered
  | .failed error => .error error
  | .answered results decisions fetchedAt => do
      let filtered ← triage results decisions fetchedAt gathered.sources.length
      return ⟨gathered.sources ++ filtered.sources, gathered.observations ++ filtered.observations⟩

/-! ### Gathering -/

structure Query where
  priority : ℚ
  reply : Reply

structure Run where
  links : List Link
  queries : List Query
  social : Reply

def maxQueriesPerRun : Nat := 8

/-- The loop over replies, which an error ends. -/
def pushAll (gathered : Gathered) : List Reply → Gathered
  | [] => gathered
  | reply :: replies =>
      match gathered.push reply with
      | .error _ => gathered
      | .ok more => pushAll more replies

/-- What `gather` consolidates, whether or not an error came before. -/
def Run.gathered (run : Run) : Gathered :=
  let prioritizedQueries :=
    (run.queries.mergeSort fun left right => right.priority ≤ left.priority).take maxQueriesPerRun
  pushAll (extract run.links) (prioritizedQueries.map (·.reply) ++ [run.social])

/-! ### Consolidation -/

def richerText (left right : Option String) : Option String :=
  if (left.map utf16Length).getD 0 < (right.map utf16Length).getD 0 then right else left

def Accepted (source : SourceCandidate) : Prop := source.status ≠ some .discarded

instance (source : SourceCandidate) : Decidable (Accepted source) :=
  inferInstanceAs (Decidable (_ ≠ _))

def mergeSources (left right : SourceCandidate) : SourceCandidate :=
  let owner :=
    if left.sourceType = "owner_link" then some left
    else if right.sourceType = "owner_link" then some right
    else none
  let accepted := Accepted left ∨ Accepted right
  { sourceType := (owner.map (·.sourceType)).getD left.sourceType
    platform := owner.bind (·.platform) <|> left.platform <|> right.platform
    url := owner.bind (·.url) <|> left.url <|> right.url
    title := richerText left.title right.title
    snippet := richerText left.snippet right.snippet
    fetchedAt := right.fetchedAt <|> left.fetchedAt
    confidence := max left.confidence right.confidence
    metadata := spread left.metadata right.metadata
    status := some (if accepted then .accepted else .discarded)
    discardReason := if accepted then none else right.discardReason <|> left.discardReason }

def sourceKey (api : UrlApi) (source : SourceCandidate) (index : Nat) : String :=
  match source.url.filter (· ≠ "") with
  | none => "source:" ++ toString index
  | some url => urlKey api url

/-- The map from keys to places is the list of keys by place. -/
structure Consolidation where
  keys : List String
  consolidated : List SourceCandidate
  remappedIndex : List Nat

def Consolidation.add (api : UrlApi) (state : Consolidation) (source : SourceCandidate) :
    Consolidation :=
  let key := sourceKey api source state.remappedIndex.length
  match state.keys.idxOf? key with
  | none =>
      ⟨state.keys ++ [key], state.consolidated ++ [source],
        state.remappedIndex ++ [state.consolidated.length]⟩
  | some existingIndex =>
      ⟨state.keys, state.consolidated.modify existingIndex (mergeSources · source),
        state.remappedIndex ++ [existingIndex]⟩

def consolidateSources (api : UrlApi) (sources : List SourceCandidate) : Consolidation :=
  sources.foldl (Consolidation.add api) ⟨[], [], []⟩

def consolidate (api : UrlApi) (gathered : Gathered) : Gathered :=
  let consolidation := consolidateSources api gathered.sources
  { sources := consolidation.consolidated
    observations := gathered.observations.map fun observation =>
      { observation with
        sourceIndex := observation.sourceIndex.bind fun index =>
          consolidation.remappedIndex[index]? } }

/-! ### The result -/

structure SourceRef extends SourceData where
  id : String
  deriving DecidableEq, Repr

structure ResearchObservation where
  sourceRefId : Option String
  kind : ObservationKind
  statement : String
  confidence : ℚ
  visibility : String
  status : Status
  discardReason : Option String
  metadata : Metadata
  deriving DecidableEq, Repr

def contractSourceTypes : List String :=
  ["owner_link", "metadata", "search_result", "manual_owner_answer"]

def refId (index : Nat) : String := "source_ref_" ++ toString (index + 1)

def toSourceRef (source : SourceCandidate) (index : Nat) : SourceRef :=
  let known := source.sourceType ∈ contractSourceTypes
  { source.toSourceData with
    id := refId index
    sourceType := if known then source.sourceType else "search_result"
    metadata :=
      if known then source.metadata
      else spread source.metadata [("provider", .text source.sourceType)] }

def toObservation (sourceRefs : List SourceRef) (observation : ObservationCandidate) :
    ResearchObservation :=
  let discarded := observation.status = some .discarded ∨ observation.kind = .discarded
  { sourceRefId := observation.sourceIndex.bind fun index => (sourceRefs[index]?).map (·.id)
    kind := if observation.kind = .discarded then .metadata else observation.kind
    statement := observation.statement
    confidence := observation.confidence
    visibility := observation.visibility.getD "internal"
    status := if discarded then .discarded else .accepted
    discardReason := if discarded then observation.discardReason else none
    metadata :=
      if observation.kind = .discarded then
        spread observation.metadata [("original_kind", .text "discarded")]
      else observation.metadata }

/-- The sources and observations of `toIntelligenceResult`. -/
def toIntelligenceResult (gathered : Gathered) : List SourceRef × List ResearchObservation :=
  let sourceRefs := gathered.sources.zipIdx.map fun (source, index) => toSourceRef source index
  (sourceRefs, gathered.observations.map (toObservation sourceRefs))

/-! ### The rows -/

/-- Rows carry the identifiers that the database hands out in turn. -/
structure SourceRow extends SourceData where
  rowId : Nat
  deriving DecidableEq, Repr

structure ObservationRow extends ResearchObservation where
  sourceRowId : Option Nat

structure Saving where
  rows : List SourceRow
  byContractId : List (String × Nat)
  byNormalizedUrl : List (String × Nat)

/-- The body of the loop in `createSourceRefs`. -/
def Saving.add (api : UrlApi) (state : Saving) (source : SourceRef) : Saving :=
  let normalizedUrl := normalizeUrl api source.url
  match normalizedUrl.bind fun url => state.byNormalizedUrl.lookup url with
  | some existing => { state with byContractId := (source.id, existing) :: state.byContractId }
  | none =>
      let rowId := state.rows.length
      { rows := state.rows ++ [{ source.toSourceData with rowId }]
        byContractId := (source.id, rowId) :: state.byContractId
        byNormalizedUrl :=
          (normalizedUrl.map fun url => (url, rowId)).toList ++ state.byNormalizedUrl }

def createSourceRefs (api : UrlApi) (sources : List SourceRef) : Saving :=
  sources.foldl (Saving.add api) ⟨[], [], []⟩

def createObservations (observations : List ResearchObservation)
    (sourceIdByContractId : List (String × Nat)) : List ObservationRow :=
  observations.map fun observation =>
    { observation with
      sourceRowId := observation.sourceRefId.bind fun id => sourceIdByContractId.lookup id }

/-- The rows of a run: what is gathered, consolidated, mapped and saved. -/
def Run.save (api : UrlApi) (run : Run) : List SourceRow × List ObservationRow :=
  let (sourceRefs, observations) := toIntelligenceResult (consolidate api run.gathered)
  let saving := createSourceRefs api sourceRefs
  (saving.rows, createObservations observations saving.byContractId)

end MarketMind.Discovery.Evidence
