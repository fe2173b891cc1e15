import Mathlib.Data.List.Sort
import Mathlib.Data.List.Basic
import Mathlib.Order.Defs.LinearOrder
import MarketMind.Transactions.Table

/-!
Owns the selection of what a strategy is grounded on: the subqueries of a context, the regional
preference, the diversification by marginal relevance, and the cap.

Does not own the texts and the filters of the subqueries: any chunks may be found for any of them.
Scores and vectors have some type of numbers.
-/

namespace MarketMind.Rag

abbrev Uuid := Nat

/-! ### Schemas -/

/-- What `build_subqueries` and the selection read of the context. -/
structure RetrievalQueryContext where
  market : String
  activeChannels : List String
  budgetMode : String
deriving DecidableEq, Repr

structure RetrievalSubquery where
  category : String
deriving DecidableEq, Repr

def buildSubqueries (context : RetrievalQueryContext) : List RetrievalSubquery :=
  [⟨"framework_diagnosis"⟩, ⟨"objective_funnel"⟩] ++
    context.activeChannels.map (fun channel => ⟨"channel_" ++ channel⟩) ++
    (if context.budgetMode ≠ "organic_only" then [⟨"budget_method"⟩] else []) ++
    [⟨"measurement_kpi"⟩, ⟨"content_strategy"⟩, ⟨"market_sector_season"⟩]

/-- The markets of a payload. -/
inductive Markets
  | one (market : String)
  | many (markets : List String)
deriving DecidableEq, Repr

structure RetrievalCandidate (F : Type) where
  chunkId : Uuid
  entryId : Uuid
  entryVersion : Nat
  score : F
  markets : Option Markets
  subqueryCategory : String
  vector : Option (List F)
deriving DecidableEq, Repr

inductive MarketTier
  | egypt
  | mena
  | global
deriving DecidableEq, Repr

structure RegionalCandidate (F : Type) where
  candidate : RetrievalCandidate F
  marketTier : MarketTier
  isFallback : Bool
  fallbackLabel : Option String
deriving DecidableEq, Repr

inductive RetrievalError
  /-- A tier that is none of the three. -/
  | validation (tier : String)
  /-- `MMRSelectionError` -/
  | mmrSelection (message : String)
deriving DecidableEq, Repr

/-! ### Regional preference -/

def resolveBestMarketTier (markets : List String) (requestedMarket : String) : String :=
  let lowered := markets.map String.toLower
  let preferred (tiers : List String) : Option String := tiers.find? (· ∈ lowered)
  let fallback := if "global" ∈ lowered then "global" else lowered.headD "global"
  if requestedMarket = "egypt" then (preferred ["egypt", "mena", "global"]).getD fallback
  else if requestedMarket = "mena" then (preferred ["mena", "global"]).getD fallback
  else fallback

/-- The validation of `market_tier`. -/
def MarketTier.parse (tier : String) : Except RetrievalError MarketTier :=
  if tier = "egypt" then .ok .egypt
  else if tier = "mena" then .ok .mena
  else if tier = "global" then .ok .global
  else .error (.validation tier)

def getTierPriority (tier : MarketTier) (requestedMarket : String) : Nat :=
  if requestedMarket = "egypt" then
    match tier with
    | .egypt => 0
    | .mena => 1
    | .global => 2
  else if requestedMarket = "mena" then
    if tier = .mena then 0 else 2
  else 0

def getFallbackLabel (tier : MarketTier) (requestedMarket : String) : Option String :=
  if requestedMarket = "egypt" then
    match tier with
    | .egypt => none
    | .mena => some "Fallback to MENA (Egypt-specific unavailable)"
    | .global => some "Fallback to GLOBAL (Egypt-specific unavailable)"
  else if requestedMarket = "mena" && tier = .global then
    some "Fallback to GLOBAL (MENA-specific unavailable)"
  else none

section Numbers

variable {F : Type} [LinearOrder F]

/-- A candidate with its tier. -/
def toRegional (requestedMarket : String) (candidate : RetrievalCandidate F) :
    Except RetrievalError (RegionalCandidate F) := do
  let markets := match candidate.markets with
    | none => []
    | some (.one market) => [market]
    | some (.many markets) => markets
  let tier ← MarketTier.parse (resolveBestMarketTier markets requestedMarket)
  return {
    candidate
    marketTier := tier
    isFallback := 0 < getTierPriority tier requestedMarket
    fallbackLabel := getFallbackLabel tier requestedMarket }

/-- Tier priority, then score: the order of the sort. -/
def precedes (requestedMarket : String) (left right : RegionalCandidate F) : Prop :=
  let leftPriority := getTierPriority left.marketTier requestedMarket
  let rightPriority := getTierPriority right.marketTier requestedMarket
  leftPriority < rightPriority ∨
    leftPriority = rightPriority ∧ right.candidate.score ≤ left.candidate.score

instance (requestedMarket : String) : DecidableRel (precedes (F := F) requestedMarket) :=
  fun _ _ => inferInstanceAs (Decidable (_ ∨ _ ∧ _))

def applyRegionalPreference (candidates : List (RetrievalCandidate F))
    (requestedMarket : String) : Except RetrievalError (List (RegionalCandidate F)) := do
  let regional ← candidates.mapM (toRegional requestedMarket)
  return regional.insertionSort (precedes requestedMarket)

/-! ### Marginal relevance -/

/-- The arithmetic of the vectors. -/
structure Arithmetic (F : Type) where
  zero : F
  one : F
  add : F → F → F
  sub : F → F → F
  mul : F → F → F
  div : F → F → F
  sqrt : F → F

variable (arithmetic : Arithmetic F)

def Arithmetic.sum (values : List F) : F := values.foldl arithmetic.add arithmetic.zero

def Arithmetic.norm (vector : List F) : F :=
  arithmetic.sqrt (arithmetic.sum (vector.map fun value => arithmetic.mul value value))

def cosineSimilarity (left right : List F) : Except RetrievalError F :=
  if left.length ≠ right.length then
    .error (.mmrSelection ("MMR vector dimensions differ: candidate=" ++
      toString left.length ++ ", comparison=" ++ toString right.length))
  else if left.isEmpty then .error (.mmrSelection "MMR cannot compare empty vectors")
  else
    let leftNorm := arithmetic.norm left
    let rightNorm := arithmetic.norm right
    if leftNorm = arithmetic.zero || rightNorm = arithmetic.zero then .ok arithmetic.zero
    else
      .ok (arithmetic.div (arithmetic.sum (List.zipWith arithmetic.mul left right))
        (arithmetic.mul leftNorm rightNorm))

/-- What the loop of `select_mmr` reads of a candidate: its place, its vector and its similarity
to the query. -/
structure Ranked (F : Type) where
  candidate : RetrievalCandidate F
  vector : List F
  querySimilarity : F
deriving DecidableEq, Repr

/-- The greatest value, `none` for no values. -/
def maximum? (values : List F) : Option F :=
  match values with
  | [] => none
  | first :: rest => some (rest.foldl max first)

/-- The marginal relevance of a candidate beside those that are selected. -/
def marginalRelevance (lambdaMult : F) (selected : List (Ranked F)) (item : Ranked F) :
    Except RetrievalError F := do
  let similarities ← selected.mapM fun other => cosineSimilarity arithmetic item.vector other.vector
  return arithmetic.sub (arithmetic.mul lambdaMult item.querySimilarity)
    (arithmetic.mul (arithmetic.sub arithmetic.one lambdaMult)
      ((maximum? similarities).getD arithmetic.zero))

/-- The first of the most relevant, with what is left without it. -/
def takeBest : List (F × Ranked F) → Option (Ranked F × List (F × Ranked F))
  | [] => none
  | (value, item) :: rest =>
      match takeBest rest, rest.map Prod.fst with
      | some (best, others), values =>
          if values.all (· ≤ value) then some (item, rest) else some (best, (value, item) :: others)
      | none, _ => some (item, [])

/-- The `while` loop of `select_mmr`, which goes round once for each remaining candidate. -/
def mmrLoop (lambdaMult : F) (rounds : Nat) (selected remaining : List (Ranked F)) :
    Except RetrievalError (List (Ranked F)) :=
  match rounds with
  | 0 => .ok selected
  | rounds + 1 => do
      let values ← remaining.mapM (marginalRelevance arithmetic lambdaMult selected)
      match takeBest (values.zip remaining) with
      | none => .ok selected
      | some (best, others) => mmrLoop lambdaMult rounds (selected ++ [best]) (others.map Prod.snd)

def candidateVector (candidate : RetrievalCandidate F) : Except RetrievalError (List F) :=
  match candidate.vector with
  | some vector => .ok vector
  | none =>
      .error (.mmrSelection ("MMR candidate " ++ toString candidate.chunkId ++
        " is missing its vector"))

def selectMmr (candidates : List (RetrievalCandidate F)) (queryVector : List F) (lambdaMult : F) :
    Except RetrievalError (List (RetrievalCandidate F)) :=
  if arithmetic.zero ≤ lambdaMult ∧ lambdaMult ≤ arithmetic.one then do
    let vectors ← candidates.mapM candidateVector
    let similarities ← vectors.mapM (cosineSimilarity arithmetic · queryVector)
    let ranked := List.zipWith (fun (candidate : RetrievalCandidate F) (known : List F × F) =>
      Ranked.mk candidate known.1 known.2) candidates (vectors.zip similarities)
    match ranked with
    | [] => return []
    | first :: rest => do
        let selected ← mmrLoop arithmetic lambdaMult rest.length [first] rest
        return selected.map (·.candidate)
  else .error (.mmrSelection "MMR lambda must be between 0 and 1")

/-- The tier priority and the category of a candidate. -/
def bucketKey (requestedMarket : String) (regional : RegionalCandidate F) : Nat × String :=
  (getTierPriority regional.marketTier requestedMarket, regional.candidate.subqueryCategory)

/-- One bucket in its new order, under the tier of its first candidate. -/
def reorderBucket (queryVectors : List (String × List F)) (lambdaMult : F)
    (category : String) (bucket : List (RegionalCandidate F)) :
    Except RetrievalError (List (RegionalCandidate F)) :=
  match (queryVectors.filter (·.1 = category)).getLast?, bucket with
  | none, _ =>
      .error (.mmrSelection ("MMR query vector missing for category '" ++ category ++ "'"))
  | some _, [] => .ok []
  | some (_, queryVector), first :: rest => do
      let selected ← selectMmr arithmetic ((first :: rest).map (·.candidate)) queryVector lambdaMult
      return selected.map fun candidate => { first with candidate }

def reorderRegionalCandidatesWithMmr (candidates : List (RegionalCandidate F))
    (queryVectors : List (String × List F)) (requestedMarket : String) (lambdaMult : F) :
    Except RetrievalError (List (RegionalCandidate F)) := do
  let buckets ← (candidates.map (bucketKey requestedMarket)).eraseDups.mapM fun key =>
    reorderBucket arithmetic queryVectors lambdaMult key.2
      (candidates.filter (bucketKey requestedMarket · = key))
  return buckets.flatten

/-! ### Limits -/

/-- The state of `deduplicate_and_cap`. -/
structure Picked (F : Type) where
  selected : List (RegionalCandidate F)
  entryCounts : Uuid → Nat
  seenChunks : List Uuid
  coveredCategories : List String

def Picked.none : Picked F := ⟨[], fun _ => 0, [], []⟩

def Picked.add (picked : Picked F) (regional : RegionalCandidate F) : Picked F where
  selected := picked.selected ++ [regional]
  entryCounts entryId :=
    picked.entryCounts entryId + if entryId = regional.candidate.entryId then 1 else 0
  seenChunks := regional.candidate.chunkId :: picked.seenChunks
  coveredCategories := regional.candidate.subqueryCategory :: picked.coveredCategories

def maxPerEntry : Nat := 2

def maxTotal : Nat := 8

/-- The limits of both passes. -/
def Picked.HasRoom (picked : Picked F) (regional : RegionalCandidate F) : Prop :=
  picked.selected.length < maxTotal ∧ regional.candidate.chunkId ∉ picked.seenChunks ∧
    picked.entryCounts regional.candidate.entryId < maxPerEntry

instance (picked : Picked F) (regional : RegionalCandidate F) :
    Decidable (picked.HasRoom regional) := inferInstanceAs (Decidable (_ ∧ _ ∧ _))

/-- The first pass takes a category once. -/
def Picked.HasRoomForCategory (picked : Picked F) (regional : RegionalCandidate F) : Prop :=
  picked.HasRoom regional ∧ regional.candidate.subqueryCategory ∉ picked.coveredCategories

instance (picked : Picked F) (regional : RegionalCandidate F) :
    Decidable (picked.HasRoomForCategory regional) := inferInstanceAs (Decidable (_ ∧ _))

/-- A pass over the candidates. -/
def pass (takes : Picked F → RegionalCandidate F → Prop)
    [∀ picked regional, Decidable (takes picked regional)] :
    List (RegionalCandidate F) → Picked F → Picked F
  | [], picked => picked
  | regional :: rest, picked =>
      if maxTotal ≤ picked.selected.length then picked
      else pass takes rest (if takes picked regional then picked.add regional else picked)

/-- The state after the first pass. -/
def coverCategories (candidates : List (RegionalCandidate F)) (picked : Picked F) : Picked F :=
  pass Picked.HasRoomForCategory candidates picked

def fillTotal (candidates : List (RegionalCandidate F)) (picked : Picked F) : Picked F :=
  pass Picked.HasRoom candidates picked

def deduplicateAndCap (candidates : List (RegionalCandidate F)) : List (RegionalCandidate F) :=
  (fillTotal candidates (coverCategories candidates .none)).selected

/-! ### Selection -/

inductive RagSelectionMode
  | semantic
  | semanticMmr
deriving DecidableEq, Repr

structure Settings (F : Type) where
  arithmetic : Arithmetic F
  ragSelectionMode : RagSelectionMode
  ragMmrLambda : F

/-- The order in which the candidates meet the limits. -/
def orderCandidates (settings : Settings F) (requestedMarket : String)
    (queryVectors : List (String × List F)) (candidates : List (RetrievalCandidate F)) :
    Except RetrievalError (List (RegionalCandidate F)) := do
  let regional ← applyRegionalPreference candidates requestedMarket
  match settings.ragSelectionMode with
  | .semantic => return regional
  | .semanticMmr =>
      reorderRegionalCandidatesWithMmr settings.arithmetic regional queryVectors requestedMarket
        settings.ragMmrLambda

def selectRetrievalCandidates (settings : Settings F) (requestedMarket : String)
    (queryVectors : List (String × List F)) (candidates : List (RetrievalCandidate F)) :
    Except RetrievalError (List (RegionalCandidate F)) := do
  let ordered ← orderCandidates settings requestedMarket queryVectors candidates
  return deduplicateAndCap ordered

end Numbers

end MarketMind.Rag
