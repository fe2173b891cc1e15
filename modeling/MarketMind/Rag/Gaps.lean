import MarketMind.Rag.Selection

/-!
Owns the hydration of the selected chunks, the knowledge gaps of a retrieval, and when a gap is
the truth.

Does not own the search: any chunks may be found.
-/

namespace MarketMind.Rag

open MarketMind.Transactions

/-! ### PostgreSQL -/

inductive ReviewStatus
  | draft
  | approved
  | retired
  | expired
deriving DecidableEq, Repr

structure MarketingKnowledgeSourceRef where
  reference : String
  note : Option String
deriving DecidableEq, Repr

/-- The columns of a version that the hydration reads. -/
structure MarketingKnowledgeEntryVersion where
  entryId : Uuid
  version : Nat
  title : String
  kind : String
  markets : List String
  industries : List String
  businessModels : List String
  objectives : List String
  funnelStages : List String
  channels : List String
  seasons : List String
  budgetModes : List String
  evidenceTier : String
  reviewStatus : ReviewStatus
  effectiveAt : Int
  expiresAt : Option Int
  sourceRefs : List MarketingKnowledgeSourceRef
deriving DecidableEq, Repr

structure MarketingKnowledgeChunk where
  chunkId : Uuid
  text : String
  entryVersion : MarketingKnowledgeEntryVersion
deriving DecidableEq, Repr

instance : Keyed MarketingKnowledgeChunk := ⟨MarketingKnowledgeChunk.chunkId⟩

/-- Approved, effective and not expired. -/
def MarketingKnowledgeEntryVersion.IsEligible (version : MarketingKnowledgeEntryVersion)
    (now : Int) : Prop :=
  version.reviewStatus = .approved ∧ version.effectiveAt ≤ now ∧
    ∀ expiresAt ∈ version.expiresAt, now < expiresAt

instance (version : MarketingKnowledgeEntryVersion) (now : Int) :
    Decidable (version.IsEligible now) :=
  inferInstanceAs (Decidable (_ ∧ _ ∧ ∀ expiresAt ∈ version.expiresAt, now < expiresAt))

/-- The chunk is eligible as PostgreSQL has it. -/
def IsEligible (chunks : Table MarketingKnowledgeChunk) (now : Int) (chunkId : Uuid) : Prop :=
  ∃ chunk, chunks.find chunkId = some chunk ∧ chunk.entryVersion.IsEligible now

instance (chunks : Table MarketingKnowledgeChunk) (now : Int) (chunkId : Uuid) :
    Decidable (IsEligible chunks now chunkId) :=
  decidable_of_iff (∃ chunk ∈ chunks.find chunkId, chunk.entryVersion.IsEligible now) Iff.rfl

/-! ### Hydration -/

structure HydratedItem (F : Type) where
  chunkId : Uuid
  entryId : Uuid
  entryVersion : Nat
  title : String
  excerpt : String
  kind : String
  tags : List (String × List String)
  relevanceScore : F
  evidenceTier : String
  sourceReferences : List String
  effectiveAt : Int
  expiresAt : Option Int
  reviewStatus : ReviewStatus
  marketTier : MarketTier
  isFallback : Bool
  fallbackLabel : Option String
  category : String
deriving DecidableEq, Repr

inductive Severity
  | blocking
  | nonCritical
deriving DecidableEq, Repr

structure KnowledgeGap where
  category : String
  description : String
  severity : Severity
deriving DecidableEq, Repr

def gapSeverity (category : String) : Severity :=
  if category = "framework_diagnosis" then .blocking else .nonCritical

/-- The tags of a version that are not empty. -/
def MarketingKnowledgeEntryVersion.tags (version : MarketingKnowledgeEntryVersion) :
    List (String × List String) :=
  [("markets", version.markets), ("industries", version.industries),
    ("business_models", version.businessModels), ("objectives", version.objectives),
    ("funnel_stages", version.funnelStages), ("channels", version.channels),
    ("seasons", version.seasons), ("budget_modes", version.budgetModes)].filter
      fun tag => !tag.2.isEmpty

def MarketingKnowledgeSourceRef.format (ref : MarketingKnowledgeSourceRef) : String :=
  match ref.note with
  | none => ref.reference
  | some note => if note = "" then ref.reference else ref.reference ++ " (" ++ note ++ ")"

section Numbers

variable {F : Type}

def hydratedItem (regional : RegionalCandidate F) (chunk : MarketingKnowledgeChunk) :
    HydratedItem F where
  chunkId := chunk.chunkId
  entryId := chunk.entryVersion.entryId
  entryVersion := chunk.entryVersion.version
  title := chunk.entryVersion.title
  excerpt := chunk.text
  kind := chunk.entryVersion.kind
  tags := chunk.entryVersion.tags
  relevanceScore := regional.candidate.score
  evidenceTier := chunk.entryVersion.evidenceTier
  sourceReferences := chunk.entryVersion.sourceRefs.map (·.format)
  effectiveAt := chunk.entryVersion.effectiveAt
  expiresAt := chunk.entryVersion.expiresAt
  reviewStatus := chunk.entryVersion.reviewStatus
  marketTier := regional.marketTier
  isFallback := regional.isFallback
  fallbackLabel := regional.fallbackLabel
  category := regional.candidate.subqueryCategory

/-- One round of the loop over the candidates. -/
def hydrateOne (chunks : Table MarketingKnowledgeChunk) (now : Int)
    (regional : RegionalCandidate F) : Option (HydratedItem F) := do
  let chunk ← chunks.find regional.candidate.chunkId
  if chunk.entryVersion.IsEligible now then some (hydratedItem regional chunk) else none

def hydrateCandidates (chunks : Table MarketingKnowledgeChunk)
    (candidates : List (RegionalCandidate F)) (subqueries : List RetrievalSubquery) (now : Int) :
    List (HydratedItem F) × List KnowledgeGap :=
  if candidates.isEmpty then
    ([], subqueries.map fun subquery =>
      { category := subquery.category
        description := "No approved marketing knowledge found for " ++ subquery.category ++ "."
        severity := gapSeverity subquery.category })
  else
    let items := candidates.filterMap (hydrateOne chunks now)
    (items, (subqueries.filter fun subquery => subquery.category ∉ items.map (·.category)).map
      fun subquery =>
        { category := subquery.category
          description := "No eligible marketing knowledge retrieved for " ++ subquery.category ++ "."
          severity := gapSeverity subquery.category })

end Numbers

/-! ### The retrieval -/

/-- A point that the search has found. -/
structure ScoredPoint (F : Type) where
  chunkId : Uuid
  entryId : Uuid
  entryVersion : Nat
  score : F
  markets : Option Markets
  vector : Option (List F)
deriving DecidableEq, Repr

/-- What the embedding provider and the index answer to the subqueries, by their places. -/
structure Search (F : Type) where
  vectors : Nat → List F
  points : Nat → List (ScoredPoint F)

section Retrieval

variable {F : Type} [LinearOrder F]

def ScoredPoint.toCandidate (point : ScoredPoint F) (category : String) : RetrievalCandidate F where
  chunkId := point.chunkId
  entryId := point.entryId
  entryVersion := point.entryVersion
  score := point.score
  markets := point.markets
  subqueryCategory := category
  vector := point.vector

/-- `qdrant_candidates`: what is found for all subqueries. -/
def findCandidates (search : Search F) (subqueries : List RetrievalSubquery) :
    List (RetrievalCandidate F) :=
  (subqueries.zipIdx.map fun (subquery, index) =>
    (search.points index).map (·.toCandidate subquery.category)).flatten

/-- `query_vectors_by_category` -/
def queryVectorsByCategory (search : Search F) (subqueries : List RetrievalSubquery) :
    List (String × List F) :=
  subqueries.zipIdx.map fun (subquery, index) => (subquery.category, search.vectors index)

/-- The candidates of a retrieval in the order in which they meet the limits. -/
def orderedCandidates (settings : Settings F) (context : RetrievalQueryContext)
    (search : Search F) : Except RetrievalError (List (RegionalCandidate F)) :=
  orderCandidates settings context.market
    (queryVectorsByCategory search (buildSubqueries context))
    (findCandidates search (buildSubqueries context))

def retrieveStrategyKnowledge (settings : Settings F) (context : RetrievalQueryContext)
    (search : Search F) (chunks : Table MarketingKnowledgeChunk) (now : Int) :
    Except RetrievalError (List (HydratedItem F) × List KnowledgeGap) := do
  let subqueries := buildSubqueries context
  let selected ← selectRetrievalCandidates settings context.market
    (queryVectorsByCategory search subqueries) (findCandidates search subqueries)
  return hydrateCandidates chunks selected subqueries now

/-! ### Ordering neither adds nor drops -/

section Ordering

variable {settings : Settings F} {requestedMarket : String}
  {queryVectors : List (String × List F)} {found : List (RetrievalCandidate F)}
  {ordered : List (RegionalCandidate F)}

theorem mem_of_mapM {α β : Type} {step : α → Except RetrievalError β} {list : List α}
    {results : List β} (mapped : list.mapM step = .ok results) {result : β}
    (member : result ∈ results) : ∃ item ∈ list, step item = .ok result := by
  induction list generalizing results with
  | nil =>
      cases mapped
      cases member
  | cons head rest inductionHypothesis =>
      rw [List.mapM_cons] at mapped
      cases first : step head with
      | error error =>
          rw [first] at mapped
          cases mapped
      | ok value =>
          cases further : rest.mapM step with
          | error error =>
              rw [first, further] at mapped
              cases mapped
          | ok values =>
              rw [first, further] at mapped
              cases mapped
              rcases List.mem_cons.mp member with rfl | later
              · exact ⟨head, List.mem_cons_self, first⟩
              · obtain ⟨item, among, same⟩ := inductionHypothesis further later
                exact ⟨item, List.mem_cons_of_mem head among, same⟩

/-- The value that a `do` block goes on with. -/
theorem ok_of_bind {α β : Type} {first : Except RetrievalError α}
    {next : α → Except RetrievalError β} {result : β} (bound : (first >>= next) = .ok result) :
    ∃ value, first = .ok value ∧ next value = .ok result := by
  cases first with
  | error error => cases bound
  | ok value => exact ⟨value, rfl, bound⟩

omit [LinearOrder F] in
theorem candidate_of_toRegional {candidate : RetrievalCandidate F}
    {regional : RegionalCandidate F} (given : toRegional requestedMarket candidate = .ok regional) :
    regional.candidate = candidate := by
  obtain ⟨tier, -, made⟩ := ok_of_bind given
  cases made
  rfl

theorem mem_of_applyRegionalPreference
    (applied : applyRegionalPreference found requestedMarket = .ok ordered)
    {regional : RegionalCandidate F} (member : regional ∈ ordered) :
    regional.candidate ∈ found := by
  obtain ⟨unsorted, mapped, sorted⟩ := ok_of_bind applied
  cases sorted
  have among := (List.perm_insertionSort (precedes requestedMarket) unsorted).mem_iff.mp member
  obtain ⟨candidate, isFound, made⟩ := mem_of_mapM mapped among
  rw [candidate_of_toRegional made]
  exact isFound

theorem mem_of_takeBest {items : List (F × Ranked F)} {best : Ranked F}
    {others : List (F × Ranked F)} (taken : takeBest items = some (best, others)) :
    best ∈ items.map Prod.snd ∧ ∀ item ∈ others, item ∈ items := by
  induction items generalizing best others with
  | nil => cases taken
  | cons head rest inductionHypothesis =>
      obtain ⟨value, item⟩ := head
      cases further : takeBest rest with
      | none =>
          simp only [takeBest, further] at taken
          cases taken
          exact ⟨List.mem_cons_self, nofun⟩
      | some found =>
          obtain ⟨later, left⟩ := found
          obtain ⟨among, kept⟩ := inductionHypothesis further
          simp only [takeBest, further] at taken
          split at taken
          · cases taken
            exact ⟨List.mem_cons_self, fun other member => List.mem_cons_of_mem _ member⟩
          · cases taken
            refine ⟨List.mem_cons_of_mem _ among, fun other member => ?_⟩
            rcases List.mem_cons.mp member with rfl | member
            · exact List.mem_cons_self
            · exact List.mem_cons_of_mem _ (kept other member)

/-- The loop returns what it was given. -/
theorem mem_of_mmrLoop {lambdaMult : F} {rounds : Nat} {selected remaining result : List (Ranked F)}
    (looped : mmrLoop settings.arithmetic lambdaMult rounds selected remaining = .ok result)
    {item : Ranked F} (member : item ∈ result) : item ∈ selected ∨ item ∈ remaining := by
  induction rounds generalizing selected remaining with
  | zero =>
      cases looped
      exact .inl member
  | succ rounds inductionHypothesis =>
      obtain ⟨values, -, goesOn⟩ := ok_of_bind looped
      cases taken : takeBest (values.zip remaining) with
      | none =>
          rw [taken] at goesOn
          cases goesOn
          exact .inl member
      | some found =>
          obtain ⟨best, others⟩ := found
          rw [taken] at goesOn
          obtain ⟨among, kept⟩ := mem_of_takeBest taken
          have below : ∀ other ∈ (values.zip remaining).map Prod.snd, other ∈ remaining := by
            intro other inside
            obtain ⟨pair, inZip, rfl⟩ := List.mem_map.mp inside
            exact (List.of_mem_zip inZip).2
          rcases inductionHypothesis goesOn with inSelected | inOthers
          · rcases List.mem_append.mp inSelected with before | now
            · exact .inl before
            · rw [List.mem_singleton.mp now]
              exact .inr (below best among)
          · obtain ⟨pair, inside, rfl⟩ := List.mem_map.mp inOthers
            exact .inr (below _ (List.mem_map_of_mem (kept pair inside)))

omit [LinearOrder F] in
theorem candidate_of_ranked {known : List (List F × F)} {item : Ranked F}
    (member : item ∈ List.zipWith (fun (candidate : RetrievalCandidate F) (known : List F × F) =>
      Ranked.mk candidate known.1 known.2) found known) : item.candidate ∈ found := by
  rw [← List.map_uncurry_zip_eq_zipWith] at member
  obtain ⟨pair, inZip, rfl⟩ := List.mem_map.mp member
  exact (List.of_mem_zip inZip).1

theorem mem_of_selectMmr {queryVector : List F} {lambdaMult : F}
    {result : List (RetrievalCandidate F)}
    (selected : selectMmr settings.arithmetic found queryVector lambdaMult = .ok result)
    {candidate : RetrievalCandidate F} (member : candidate ∈ result) : candidate ∈ found := by
  unfold selectMmr at selected
  split at selected
  · obtain ⟨vectors, -, selected⟩ := ok_of_bind selected
    obtain ⟨similarities, -, selected⟩ := ok_of_bind selected
    dsimp only at selected
    split at selected
    · cases selected
      cases member
    · next first rest isRanked =>
      obtain ⟨looped, loops, made⟩ := ok_of_bind selected
      cases made
      obtain ⟨item, inside, rfl⟩ := List.mem_map.mp member
      refine @candidate_of_ranked _ _ (vectors.zip similarities) _ ?_
      rw [isRanked]
      rcases mem_of_mmrLoop loops inside with isFirst | later
      · rw [List.mem_singleton.mp isFirst]
        exact List.mem_cons_self
      · exact List.mem_cons_of_mem _ later
  · cases selected

theorem mem_of_reorderBucket {lambdaMult : F} {category : String}
    {bucket result : List (RegionalCandidate F)}
    (reordered : reorderBucket settings.arithmetic queryVectors lambdaMult category bucket =
      .ok result)
    {regional : RegionalCandidate F} (member : regional ∈ result) :
    ∃ other ∈ bucket, other.candidate = regional.candidate := by
  unfold reorderBucket at reordered
  split at reordered
  · cases reordered
  · cases reordered
    cases member
  · obtain ⟨selected, selects, made⟩ := ok_of_bind reordered
    cases made
    obtain ⟨candidate, inside, rfl⟩ := List.mem_map.mp member
    exact List.mem_map.mp (mem_of_selectMmr selects inside)

/-- Ordering drops nothing that it does not fail for, and adds nothing. -/
theorem mem_of_orderCandidates
    (isOrdered : orderCandidates settings requestedMarket queryVectors found = .ok ordered)
    {regional : RegionalCandidate F} (member : regional ∈ ordered) :
    regional.candidate ∈ found := by
  obtain ⟨sorted, applied, goesOn⟩ := ok_of_bind isOrdered
  cases mode : settings.ragSelectionMode with
  | semantic =>
      rw [mode] at goesOn
      cases goesOn
      exact mem_of_applyRegionalPreference applied member
  | semanticMmr =>
      rw [mode] at goesOn
      obtain ⟨buckets, mapped, made⟩ := ok_of_bind goesOn
      cases made
      obtain ⟨bucket, isBucket, inside⟩ := List.mem_flatten.mp member
      obtain ⟨key, -, reordered⟩ := mem_of_mapM mapped isBucket
      obtain ⟨other, among, same⟩ := mem_of_reorderBucket reordered inside
      rw [← same]
      exact mem_of_applyRegionalPreference applied (List.mem_of_mem_filter among)

end Ordering

/-! ### What the limits keep -/

section Limits

variable {takes : Picked F → RegionalCandidate F → Prop}
  [∀ picked regional, Decidable (takes picked regional)]
  {candidates before after : List (RegionalCandidate F)} {picked : Picked F}
  {regional : RegionalCandidate F}

omit [LinearOrder F] in
theorem pass_of_full (full : maxTotal ≤ picked.selected.length) :
    pass takes candidates picked = picked := by
  cases candidates with
  | nil => rfl
  | cons head rest => exact if_pos full

omit [LinearOrder F] in
/-- The break at the limit changes nothing: no candidate would be taken. -/
theorem pass_cons (needsRoom : ∀ picked regional, takes picked regional →
      picked.selected.length < maxTotal) (head : RegionalCandidate F)
    (rest : List (RegionalCandidate F)) (picked : Picked F) :
    pass takes (head :: rest) picked =
      pass takes rest (if takes picked head then picked.add head else picked) := by
  rw [pass]
  split
  · next full =>
    rw [if_neg fun taken => absurd (needsRoom picked head taken) (by omega), pass_of_full full]
  · rfl

omit [LinearOrder F] in
/-- A candidate is kept by a pass if it was kept before, or is taken at its turn. -/
theorem mem_pass (needsRoom : ∀ picked regional, takes picked regional →
      picked.selected.length < maxTotal) :
    regional ∈ (pass takes candidates picked).selected ↔ regional ∈ picked.selected ∨
      ∃ before after, candidates = before ++ regional :: after ∧
        takes (pass takes before picked) regional := by
  induction candidates generalizing picked with
  | nil => simp [pass]
  | cons head rest inductionHypothesis =>
      rw [pass_cons needsRoom, inductionHypothesis]
      constructor
      · rintro (member | ⟨before, after, rfl, taken⟩)
        · split at member
          · next taken =>
            rcases List.mem_append.mp member with earlier | now
            · exact .inl earlier
            · rw [List.mem_singleton.mp now]
              exact .inr ⟨[], rest, rfl, taken⟩
          · exact .inl member
        · exact .inr ⟨head :: before, after, rfl, (pass_cons needsRoom head before picked) ▸ taken⟩
      · rintro (member | ⟨before, after, same, taken⟩)
        · left
          split
          · exact List.mem_append_left _ member
          · exact member
        · cases before with
          | nil =>
              cases same
              left
              rw [if_pos (show takes picked regional from taken)]
              exact List.mem_append_right _ (List.mem_singleton_self _)
          | cons first before =>
              cases same
              rw [pass_cons needsRoom] at taken
              exact .inr ⟨before, after, rfl, taken⟩

/-- The candidate meets no limit at its turn, in the first pass or in the second. -/
def IsKept (ordered : List (RegionalCandidate F)) (regional : RegionalCandidate F) : Prop :=
  ∃ before after, ordered = before ++ regional :: after ∧
    ((coverCategories before .none).HasRoomForCategory regional ∨
      (fillTotal before (coverCategories ordered .none)).HasRoom regional)

omit [LinearOrder F] in
theorem mem_deduplicateAndCap :
    regional ∈ deduplicateAndCap candidates ↔ IsKept candidates regional := by
  unfold deduplicateAndCap fillTotal
  rw [mem_pass fun _ _ room => room.1]
  constructor
  · rintro (member | ⟨before, after, same, room⟩)
    · rcases (mem_pass fun _ _ room => room.1.1).mp member with absurdly | covered
      · cases absurdly
      · obtain ⟨before, after, same, room⟩ := covered
        exact ⟨before, after, same, .inl room⟩
    · exact ⟨before, after, same, .inr room⟩
  · rintro ⟨before, after, same, room | room⟩
    · exact .inl ((mem_pass fun _ _ room => room.1.1).mpr (.inr ⟨before, after, same, room⟩))
    · exact .inr ⟨before, after, same, room⟩

end Limits

/-! ### Gaps -/

section Gaps

variable {chunks : Table MarketingKnowledgeChunk} {now : Int}
  {candidates : List (RegionalCandidate F)} {subqueries : List RetrievalSubquery}

omit [LinearOrder F] in
theorem hydrateOne_isSome {regional : RegionalCandidate F} :
    (∃ item, hydrateOne chunks now regional = some item) ↔
      IsEligible chunks now regional.candidate.chunkId := by
  unfold hydrateOne IsEligible
  cases found : chunks.find regional.candidate.chunkId with
  | none => simp
  | some chunk => by_cases eligible : chunk.entryVersion.IsEligible now <;> simp [eligible]

omit [LinearOrder F] in
theorem category_of_hydrateOne {regional : RegionalCandidate F} {item : HydratedItem F}
    (hydrated : hydrateOne chunks now regional = some item) :
    item.category = regional.candidate.subqueryCategory := by
  unfold hydrateOne at hydrated
  obtain ⟨chunk, -, kept⟩ := Option.bind_eq_some_iff.mp hydrated
  split at kept
  · cases kept
    rfl
  · cases kept

omit [LinearOrder F] in
/-- A category is covered by an eligible chunk that was selected for it. -/
theorem mem_categories {category : String} :
    category ∈ (candidates.filterMap (hydrateOne chunks now)).map (·.category) ↔
      ∃ regional ∈ candidates, regional.candidate.subqueryCategory = category ∧
        IsEligible chunks now regional.candidate.chunkId := by
  simp only [List.mem_map, List.mem_filterMap]
  constructor
  · rintro ⟨item, ⟨regional, member, hydrated⟩, rfl⟩
    exact ⟨regional, member, (category_of_hydrateOne hydrated).symm,
      hydrateOne_isSome.mp ⟨item, hydrated⟩⟩
  · rintro ⟨regional, member, rfl, eligible⟩
    obtain ⟨item, hydrated⟩ := hydrateOne_isSome.mpr eligible
    exact ⟨item, ⟨regional, member, hydrated⟩, category_of_hydrateOne hydrated⟩

omit [LinearOrder F] in
/-- A subquery has a gap when no eligible chunk was selected for its category. -/
theorem gap_iff {subquery : RetrievalSubquery} (member : subquery ∈ subqueries) :
    (∃ gap ∈ (hydrateCandidates chunks candidates subqueries now).2,
      gap.category = subquery.category) ↔
    ¬ ∃ regional ∈ candidates, regional.candidate.subqueryCategory = subquery.category ∧
      IsEligible chunks now regional.candidate.chunkId := by
  rw [← mem_categories]
  unfold hydrateCandidates
  split
  · next empty =>
    rw [List.isEmpty_iff.mp empty]
    simp only [List.filterMap_nil, List.map_nil, List.not_mem_nil, not_false_eq_true, iff_true]
    exact ⟨_, List.mem_map_of_mem member, rfl⟩
  · simp only [List.mem_map, List.mem_filter, decide_eq_true_eq]
    constructor
    · rintro ⟨gap, ⟨other, ⟨-, uncovered⟩, rfl⟩, same⟩
      simp only at same
      rwa [← same]
    · intro uncovered
      exact ⟨_, ⟨subquery, ⟨member, uncovered⟩, rfl⟩, rfl⟩

end Gaps

/-! ### Truthful gaps -/

section Truth

variable {settings : Settings F} {context : RetrievalQueryContext} {search : Search F}
  {chunks : Table MarketingKnowledgeChunk} {now : Int} {ordered : List (RegionalCandidate F)}

/-- A gap is reported for a category exactly when no chunk that was found for it is eligible. -/
def Truthful (chunks : Table MarketingKnowledgeChunk) (now : Int)
    (found : List (RetrievalCandidate F)) (subqueries : List RetrievalSubquery)
    (gaps : List KnowledgeGap) : Prop :=
  ∀ subquery ∈ subqueries, (∃ gap ∈ gaps, gap.category = subquery.category) ↔
    ¬ ∃ candidate ∈ found, candidate.subqueryCategory = subquery.category ∧
      IsEligible chunks now candidate.chunkId

omit [LinearOrder F] in
/-- Every candidate was found for a subquery. -/
theorem category_of_found {subqueries : List RetrievalSubquery}
    {candidate : RetrievalCandidate F} (member : candidate ∈ findCandidates search subqueries) :
    ∃ subquery ∈ subqueries, subquery.category = candidate.subqueryCategory := by
  obtain ⟨points, isList, inside⟩ := List.mem_flatten.mp member
  obtain ⟨⟨subquery, index⟩, among, rfl⟩ := List.mem_map.mp isList
  obtain ⟨point, -, rfl⟩ := List.mem_map.mp inside
  exact ⟨subquery, (List.mem_zipIdx' among).2 ▸ List.getElem_mem _, rfl⟩

end Truth

end Retrieval

/-! ### An index that lags behind -/

/-- Selection by score alone. -/
def plainSettings : Settings Int :=
  ⟨⟨0, 1, (· + ·), (· - ·), (· * ·), (· / ·), id⟩, .semantic, 1⟩

def plainContext : RetrievalQueryContext := ⟨"egypt", [], "organic_only"⟩

def plainPoint (chunkId : Uuid) (score : Int) : ScoredPoint Int :=
  ⟨chunkId, chunkId, 1, score, some (.one "egypt"), none⟩

def plainVersion (entryId : Uuid) (reviewStatus : ReviewStatus) : MarketingKnowledgeEntryVersion where
  entryId
  version := 1
  title := "Guide"
  kind := "framework"
  markets := ["egypt"]
  industries := []
  businessModels := []
  objectives := []
  funnelStages := []
  channels := []
  seasons := []
  budgetModes := []
  evidenceTier := "A"
  reviewStatus
  effectiveAt := 0
  expiresAt := none
  sourceRefs := []

/-- Two chunks for each of the five subqueries, those of the first being the best and the worst. -/
def plainSearch : Search Int where
  vectors _ := []
  points index := if index = 0 then [plainPoint 0 100, plainPoint 1 1]
    else [plainPoint (2 * index) 50, plainPoint (2 * index + 1) 40]

/-- All chunks are approved, the best apart. -/
def plainChunks (best : ReviewStatus) : Table MarketingKnowledgeChunk :=
  (List.range 10).foldl (fun chunks chunkId => chunks.insert
    ⟨chunkId, "...", plainVersion chunkId (if chunkId = 0 then best else .approved)⟩) .empty

/-- What a retrieval is seen to return: the chunks and the categories of its gaps. -/
def seen (result : Except RetrievalError (List (HydratedItem Int) × List KnowledgeGap)) :
    Option (List Uuid × List (String × Severity)) :=
  result.toOption.map fun (items, gaps) =>
    (items.map (·.chunkId), gaps.map fun gap => (gap.category, gap.severity))

theorem of_seen {result : Except RetrievalError (List (HydratedItem Int) × List KnowledgeGap)}
    {shown : List Uuid × List (String × Severity)} (isSeen : seen result = some shown) :
    ∃ items gaps, result = .ok (items, gaps) ∧
      gaps.map (fun gap => (gap.category, gap.severity)) = shown.2 := by
  cases result with
  | error error => cases isSeen
  | ok returned =>
      cases isSeen
      exact ⟨returned.1, returned.2, rfl, rfl⟩

end MarketMind.Rag
