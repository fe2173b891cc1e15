import MarketMind.Rag.Guarantees

/-!
Owns what the diversification does at a weight of one: the buckets one after the other, each in the
semantic order.

Does not own the root of a vector's norm: any function may give it.
-/

namespace MarketMind.Rag

open Steps

/-- The similarity of the candidate to the vector of its category is its score. -/
def IsPure (sqrt : ℚ → ℚ) (queryVectors : List (String × List ℚ))
    (candidate : RetrievalCandidate ℚ) : Prop :=
  ∃ vector ∈ candidate.vector, ∃ known,
    (queryVectors.filter (·.1 = candidate.subqueryCategory)).getLast? = some known ∧
    cosineSimilarity (exactArithmetic sqrt) vector known.2 = .ok candidate.score

/-- The buckets one after the other, each at the place of its first candidate. -/
def regroup {F : Type} (requestedMarket : String) (list : List (RegionalCandidate F)) :
    List (RegionalCandidate F) :=
  ((list.map (bucketKey requestedMarket)).eraseDups.map fun key =>
    list.filter (bucketKey requestedMarket · = key)).flatten

/-- No candidate of another bucket stands between two of one. -/
def IsGrouped {F : Type} (requestedMarket : String) (list : List (RegionalCandidate F)) : Prop :=
  regroup requestedMarket list = list

/-! ### A bucket in the order of the scores -/

section Buckets

variable {sqrt : ℚ → ℚ} {dimension : Nat}

theorem cosineSimilarity_lengths {left right : List ℚ} {similarity : ℚ}
    (compared : cosineSimilarity (exactArithmetic sqrt) left right = .ok similarity) :
    left.length = right.length ∧ 0 < right.length := by
  unfold cosineSimilarity at compared
  split at compared
  · cases compared
  · next same =>
    split at compared
    · cases compared
    · next filled =>
      have sameLength := not_ne_iff.mp same
      rw [List.isEmpty_iff_length_eq_zero] at filled
      omega

/-- At a weight of one the similarity to what is selected does not count. -/
theorem marginalRelevance_one {selected : List (Ranked ℚ)} {item : Ranked ℚ}
    (positive : 0 < dimension) (itemLength : item.vector.length = dimension)
    (lengths : ∀ other ∈ selected, other.vector.length = dimension) :
    marginalRelevance (exactArithmetic sqrt) 1 selected item = .ok item.querySimilarity := by
  have similar : ∀ other ∈ selected, ∃ similarity,
      cosineSimilarity (exactArithmetic sqrt) item.vector other.vector = .ok similarity :=
    fun other member => cosineSimilarity_ok positive itemLength (lengths other member)
  obtain ⟨similarities, compared⟩ := mapM_ok similar
  unfold marginalRelevance
  rw [compared, ok_bind]
  refine congrArg Except.ok ?_
  change 1 * item.querySimilarity - (1 - 1) * _ = item.querySimilarity
  rw [sub_self, zero_mul, sub_zero, one_mul]

/-- The first of a list that is sorted is the best. -/
theorem takeBest_sorted {best : Ranked ℚ} {rest : List (Ranked ℚ)}
    (highest : ∀ item ∈ rest, item.querySimilarity ≤ best.querySimilarity) :
    takeBest ((best :: rest).map fun item => (item.querySimilarity, item)) =
      some (best, rest.map fun item => (item.querySimilarity, item)) := by
  rw [List.map_cons, takeBest]
  cases taken : takeBest (rest.map fun item => (item.querySimilarity, item)) with
  | none =>
      cases rest with
      | nil => rfl
      | cons next rest =>
          have filled : (next :: rest).map (fun item => (item.querySimilarity, item)) ≠ [] := by simp
          obtain ⟨other, others, found⟩ := takeBest_isSome filled
          rw [found] at taken
          cases taken
  | some found =>
      obtain ⟨other, others⟩ := found
      refine if_pos (List.all_eq_true.mpr fun value member => ?_)
      obtain ⟨pair, among, rfl⟩ := List.mem_map.mp member
      obtain ⟨item, inside, rfl⟩ := List.mem_map.mp among
      exact decide_eq_true (highest item inside)

theorem mmrLoop_sorted {selected remaining : List (Ranked ℚ)} (positive : 0 < dimension)
    (lengths : ∀ item ∈ selected ++ remaining, item.vector.length = dimension)
    (sorted : remaining.Pairwise fun left right => right.querySimilarity ≤ left.querySimilarity) :
    mmrLoop (exactArithmetic sqrt) 1 remaining.length selected remaining =
      .ok (selected ++ remaining) := by
  induction remaining generalizing selected with
  | nil =>
      rw [List.append_nil]
      rfl
  | cons best rest inductionHypothesis =>
      obtain ⟨highest, sorted⟩ := List.pairwise_cons.mp sorted
      have relevances : (best :: rest).mapM (marginalRelevance (exactArithmetic sqrt) 1 selected) =
          .ok ((best :: rest).map (·.querySimilarity)) := by
        refine mapM_of_forall fun item member => ?_
        exact marginalRelevance_one positive (lengths item (List.mem_append_right _ member))
          fun other isSelected => lengths other (List.mem_append_left _ isSelected)
      have zipped : ((best :: rest).map (·.querySimilarity)).zip (best :: rest) =
          (best :: rest).map fun item => (item.querySimilarity, item) :=
        (congrArg (List.zip _) (List.map_id _).symm).trans List.zip_map'
      rw [List.length_cons, mmrLoop, relevances, ok_bind, zipped, takeBest_sorted highest]
      simp only [List.map_map]
      have kept : rest.map (Prod.snd ∘ fun item => (item.querySimilarity, item)) = rest :=
        List.map_id rest
      rw [kept, inductionHypothesis _ sorted, List.append_assoc]
      · rfl
      · rw [List.append_assoc]
        exact lengths

/-- The candidate with its score for its similarity. -/
def asRanked (candidate : RetrievalCandidate ℚ) : Ranked ℚ :=
  ⟨candidate, candidate.vector.getD [], candidate.score⟩

/-- Candidates in the order of their scores come back as they are. -/
theorem selectMmr_sorted {candidates : List (RetrievalCandidate ℚ)} {queryVector : List ℚ}
    (pure : ∀ candidate ∈ candidates, ∃ vector ∈ candidate.vector,
      cosineSimilarity (exactArithmetic sqrt) vector queryVector = .ok candidate.score)
    (sorted : candidates.Pairwise fun left right => right.score ≤ left.score) :
    selectMmr (exactArithmetic sqrt) candidates queryVector 1 = .ok candidates := by
  have stored : candidates.mapM candidateVector = .ok (candidates.map (·.vector.getD [])) := by
    refine mapM_of_forall fun candidate member => ?_
    obtain ⟨vector, isVector, -⟩ := pure candidate member
    unfold candidateVector
    rw [show candidate.vector = some vector from isVector]
    rfl
  have compared : (candidates.map (·.vector.getD [])).mapM
      (cosineSimilarity (exactArithmetic sqrt) · queryVector) = .ok (candidates.map (·.score)) := by
    rw [List.mapM_map]
    refine mapM_of_forall fun candidate member => ?_
    obtain ⟨vector, isVector, similar⟩ := pure candidate member
    simp only [Function.comp_apply]
    rw [show candidate.vector = some vector from isVector]
    exact similar
  unfold selectMmr
  rw [if_pos ⟨show (0 : ℚ) ≤ 1 from zero_le_one, le_refl _⟩, stored, ok_bind, compared, ok_bind]
  dsimp only
  have ranked : List.zipWith (fun (candidate : RetrievalCandidate ℚ) (known : List ℚ × ℚ) =>
      Ranked.mk candidate known.1 known.2) candidates
        ((candidates.map (·.vector.getD [])).zip (candidates.map (·.score))) =
      candidates.map asRanked := by
    rw [List.zip_map', List.zipWith_map_right, List.zipWith_self]
    rfl
  rw [ranked]
  cases candidates with
  | nil => rfl
  | cons first rest =>
      have lengths : ∀ item ∈ (first :: rest).map asRanked,
          item.vector.length = queryVector.length := by
        intro item member
        obtain ⟨candidate, among, rfl⟩ := List.mem_map.mp member
        obtain ⟨vector, isVector, similar⟩ := pure candidate among
        unfold asRanked
        rw [show candidate.vector = some vector from isVector]
        exact (cosineSimilarity_lengths similar).1
      obtain ⟨vector, -, similar⟩ := pure first List.mem_cons_self
      have restSorted : (rest.map asRanked).Pairwise fun left right =>
          right.querySimilarity ≤ left.querySimilarity :=
        List.pairwise_map.mpr (List.pairwise_cons.mp sorted).2
      rw [List.map_cons] at lengths ⊢
      dsimp only
      rw [mmrLoop_sorted (cosineSimilarity_lengths similar).2 lengths restSorted, ok_bind]
      simp only [List.map_append, List.map_cons, List.map_nil, List.map_map]
      exact congrArg Except.ok (congrArg (first :: ·) (List.map_id rest))

/-- The candidates of a bucket under the tier of its first. -/
def rewrapped : List (RegionalCandidate ℚ) → List (RegionalCandidate ℚ)
  | [] => []
  | first :: rest => (first :: rest).map fun regional =>
      { first with candidate := regional.candidate }

theorem candidates_of_rewrapped (bucket : List (RegionalCandidate ℚ)) :
    (rewrapped bucket).map (·.candidate) = bucket.map (·.candidate) := by
  cases bucket with
  | nil => rfl
  | cons first rest => rw [rewrapped, List.map_map, Function.comp_def]

variable {queryVectors : List (String × List ℚ)} {requestedMarket : String}
  {list : List (RegionalCandidate ℚ)}

theorem reorder_pure (pure : ∀ regional ∈ list, IsPure sqrt queryVectors regional.candidate)
    (sorted : list.Pairwise (precedes requestedMarket)) :
    ∃ reordered, reorderRegionalCandidatesWithMmr (exactArithmetic sqrt) list queryVectors
        requestedMarket 1 = .ok reordered ∧
      reordered.map (·.candidate) = (regroup requestedMarket list).map (·.candidate) := by
  have buckets : ∀ key ∈ (list.map (bucketKey requestedMarket)).eraseDups,
      reorderBucket (exactArithmetic sqrt) queryVectors 1 key.2
          (list.filter (bucketKey requestedMarket · = key)) =
        .ok (rewrapped (list.filter (bucketKey requestedMarket · = key))) := by
    intro key isKey
    obtain ⟨regional, among, rfl⟩ := List.mem_map.mp (List.mem_eraseDups.mp isKey)
    obtain ⟨-, -, known, last, -⟩ := pure regional among
    have keyed : ∀ other ∈ list.filter (bucketKey requestedMarket · =
        bucketKey requestedMarket regional),
        other ∈ list ∧ bucketKey requestedMarket other = bucketKey requestedMarket regional := by
      intro other member
      obtain ⟨inside, same⟩ := List.mem_filter.mp member
      exact ⟨inside, of_decide_eq_true same⟩
    have bucketSorted := sorted.filter (bucketKey requestedMarket · =
      bucketKey requestedMarket regional)
    generalize list.filter (bucketKey requestedMarket · =
      bucketKey requestedMarket regional) = bucket at keyed bucketSorted
    have similar : ∀ candidate ∈ bucket.map (·.candidate), ∃ vector ∈ candidate.vector,
        cosineSimilarity (exactArithmetic sqrt) vector known.2 = .ok candidate.score := by
      intro candidate member
      obtain ⟨other, isOther, rfl⟩ := List.mem_map.mp member
      obtain ⟨vector, isVector, its, isIts, compared⟩ := pure other (keyed other isOther).1
      have sameCategory : other.candidate.subqueryCategory = regional.candidate.subqueryCategory :=
        congrArg Prod.snd (keyed other isOther).2
      rw [sameCategory, last] at isIts
      cases isIts
      exact ⟨vector, isVector, compared⟩
    have byScore : (bucket.map (·.candidate)).Pairwise fun left right =>
        right.score ≤ left.score := by
      refine List.pairwise_map.mpr (bucketSorted.imp_of_mem ?_)
      intro left right isLeft isRight before
      have samePriority : getTierPriority left.marketTier requestedMarket =
          getTierPriority right.marketTier requestedMarket :=
        congrArg Prod.fst ((keyed left isLeft).2.trans (keyed right isRight).2.symm)
      rcases before with less | lower
      · exact absurd samePriority less.ne
      · exact lower.2
    have selected := selectMmr_sorted similar byScore
    obtain ⟨category, queryVector⟩ := known
    unfold reorderBucket
    rw [show (queryVectors.filter (·.1 = (bucketKey requestedMarket regional).2)).getLast? =
      some (category, queryVector) from last]
    cases bucket with
    | nil => rfl
    | cons first rest =>
        dsimp only
        rw [selected, ok_bind, rewrapped, List.map_map]
        rfl
  refine ⟨((list.map (bucketKey requestedMarket)).eraseDups.map fun key =>
    rewrapped (list.filter (bucketKey requestedMarket · = key))).flatten, ?_, ?_⟩
  · unfold reorderRegionalCandidatesWithMmr
    rw [mapM_of_forall buckets]
    rfl
  · rw [regroup, List.map_flatten, List.map_flatten, List.map_map, List.map_map]
    refine congrArg List.flatten (List.map_congr_left fun key _ => ?_)
    exact candidates_of_rewrapped _

end Buckets

/-! ### The limits look at the candidates only -/

section Limits

variable {F : Type}

/-- The states differ at most in the tiers of what they hold. -/
structure Picked.Alike (left right : Picked F) : Prop where
  selected : left.selected.map (·.candidate) = right.selected.map (·.candidate)
  counts : left.entryCounts = right.entryCounts
  seen : left.seenChunks = right.seenChunks
  covered : left.coveredCategories = right.coveredCategories

theorem Picked.Alike.hasRoom {left right : Picked F} (alike : left.Alike right)
    {first second : RegionalCandidate F} (same : first.candidate = second.candidate) :
    left.HasRoom first ↔ right.HasRoom second := by
  have length := congrArg List.length alike.selected
  rw [List.length_map, List.length_map] at length
  unfold Picked.HasRoom
  rw [length, alike.counts, alike.seen, same]

theorem pass_alike {takes : Picked F → RegionalCandidate F → Prop}
    [∀ picked regional, Decidable (takes picked regional)]
    (needsRoom : ∀ picked regional, takes picked regional → picked.selected.length < maxTotal)
    (takesAlike : ∀ left right : Picked F, left.Alike right → ∀ first second,
      first.candidate = second.candidate → (takes left first ↔ takes right second))
    {candidates others : List (RegionalCandidate F)}
    (same : candidates.map (·.candidate) = others.map (·.candidate)) {left right : Picked F}
    (alike : left.Alike right) :
    (pass takes candidates left).Alike (pass takes others right) := by
  induction candidates generalizing others left right with
  | nil =>
      rw [List.map_nil, eq_comm, List.map_eq_nil_iff] at same
      rw [same]
      exact alike
  | cons first rest inductionHypothesis =>
      cases others with
      | nil => cases same
      | cons second others =>
          obtain ⟨sameFirst, sameRest⟩ := List.cons.inj same
          rw [pass_cons needsRoom, pass_cons needsRoom]
          apply inductionHypothesis sameRest
          by_cases taken : takes left first
          · rw [if_pos taken, if_pos ((takesAlike left right alike first second sameFirst).mp taken)]
            refine ⟨?_, ?_, ?_, ?_⟩
            · simp [Picked.add, alike.selected, sameFirst]
            · simp [Picked.add, alike.counts, sameFirst]
            · simp [Picked.add, alike.seen, sameFirst]
            · simp [Picked.add, alike.covered, sameFirst]
          · rw [if_neg taken,
              if_neg ((takesAlike left right alike first second sameFirst).not.mp taken)]
            exact alike

theorem deduplicateAndCap_congr {candidates others : List (RegionalCandidate F)}
    (same : candidates.map (·.candidate) = others.map (·.candidate)) :
    (deduplicateAndCap candidates).map (·.candidate) =
      (deduplicateAndCap others).map (·.candidate) := by
  have covered : (coverCategories candidates .none).Alike (coverCategories others .none) := by
    refine pass_alike (fun _ _ room => room.1.1) ?_ same ⟨rfl, rfl, rfl, rfl⟩
    intro left right alike first second sameCandidate
    unfold Picked.HasRoomForCategory
    rw [alike.hasRoom sameCandidate, alike.covered, sameCandidate]
  exact (pass_alike (fun _ _ room => room.1)
    (fun left right alike first second sameCandidate => alike.hasRoom sameCandidate)
    same covered).selected

end Limits

/-! ### A weight of one -/

/-- A weight of one selects what the limits leave of the semantic list with its buckets put
together: it is the semantic selection where they stand together. -/
theorem pure_relevance_regroups (sqrt : ℚ → ℚ) (requestedMarket : String)
    (queryVectors : List (String × List ℚ)) (candidates : List (RetrievalCandidate ℚ))
    (pure : ∀ candidate ∈ candidates, IsPure sqrt queryVectors candidate)
    (regional : List (RegionalCandidate ℚ))
    (applied : applyRegionalPreference candidates requestedMarket = .ok regional) :
    selectRetrievalCandidates ⟨exactArithmetic sqrt, .semantic, 1⟩ requestedMarket queryVectors
        candidates = .ok (deduplicateAndCap regional) ∧
    ∃ selected, selectRetrievalCandidates ⟨exactArithmetic sqrt, .semanticMmr, 1⟩ requestedMarket
        queryVectors candidates = .ok selected ∧
      selected.map (·.candidate) =
        (deduplicateAndCap (regroup requestedMarket regional)).map (·.candidate) ∧
      (IsGrouped requestedMarket regional →
        selected.map (·.candidate) = (deduplicateAndCap regional).map (·.candidate)) := by
  have sorted : regional.Pairwise (precedes requestedMarket) := by
    obtain ⟨unsorted, -, made⟩ := ok_of_bind applied
    cases made
    exact List.pairwise_insertionSort (precedes requestedMarket) unsorted
  obtain ⟨reordered, returned, same⟩ := reorder_pure (fun item member =>
    pure item.candidate (mem_of_applyRegionalPreference applied member)) sorted
  have limited := deduplicateAndCap_congr same
  refine ⟨?_, deduplicateAndCap reordered, ?_, limited, fun grouped => ?_⟩
  · unfold selectRetrievalCandidates orderCandidates
    rw [applied]
    rfl
  · unfold selectRetrievalCandidates orderCandidates
    rw [applied, ok_bind]
    dsimp only
    rw [returned]
    rfl
  · rw [limited, grouped]

/-- Unit vectors: the similarity to `[1, 0]` is the first component. -/
def unitCandidate (chunkId : Uuid) (score other : ℚ) (category : String) :
    RetrievalCandidate ℚ :=
  ⟨chunkId, chunkId, 1, score, some (.one "egypt"), category, some [score, other]⟩

def channelVectors : List (String × List ℚ) := [("channel_a", [1, 0]), ("channel_b", [1, 0])]

/-- In the order of the scores, one category between two of another. -/
def interleaved : List (RetrievalCandidate ℚ) :=
  [unitCandidate 1 (12 / 13) (5 / 13) "channel_a", unitCandidate 2 (4 / 5) (3 / 5) "channel_b",
    unitCandidate 3 (3 / 5) (4 / 5) "channel_b", unitCandidate 4 (5 / 13) (12 / 13) "channel_a"]

theorem interleaved_pure : ∀ candidate ∈ interleaved, IsPure id channelVectors candidate := by
  intro candidate member
  simp only [interleaved, List.mem_cons, List.not_mem_nil, or_false] at member
  rcases member with rfl | rfl | rfl | rfl
  · exact ⟨_, rfl, ("channel_a", [1, 0]), by decide +kernel, by decide +kernel⟩
  · exact ⟨_, rfl, ("channel_b", [1, 0]), by decide +kernel, by decide +kernel⟩
  · exact ⟨_, rfl, ("channel_b", [1, 0]), by decide +kernel, by decide +kernel⟩
  · exact ⟨_, rfl, ("channel_a", [1, 0]), by decide +kernel, by decide +kernel⟩

/-- The chunks that are selected. -/
def selectedChunks (mode : RagSelectionMode) : Option (List Uuid) :=
  (selectRetrievalCandidates ⟨exactArithmetic id, mode, 1⟩ "egypt" channelVectors
    interleaved).toOption.map fun selected => selected.map (·.candidate.chunkId)

theorem of_selectedChunks {mode : RagSelectionMode} {chunks : List Uuid}
    (shown : selectedChunks mode = some chunks) : ∃ selected,
      selectRetrievalCandidates ⟨exactArithmetic id, mode, 1⟩ "egypt" channelVectors interleaved =
        .ok selected ∧ selected.map (·.candidate.chunkId) = chunks := by
  unfold selectedChunks at shown
  cases returned : selectRetrievalCandidates ⟨exactArithmetic id, mode, 1⟩ "egypt" channelVectors
      interleaved with
  | error error =>
      rw [returned] at shown
      cases shown
  | ok selected =>
      rw [returned] at shown
      exact ⟨selected, rfl, Option.some.inj shown⟩

theorem regional_of_interleaved : ∃ regional,
    applyRegionalPreference interleaved "egypt" = .ok regional := by
  have meets : ∀ candidate ∈ interleaved, MeetsFilter "egypt" candidate := by
    intro candidate member
    simp only [interleaved, List.mem_cons, List.not_mem_nil, or_false] at member
    rcases member with rfl | rfl | rfl | rfl <;>
      exact ⟨_, rfl, "egypt", List.mem_singleton_self _, by decide +kernel⟩
  obtain ⟨regional, applied, -⟩ := applyRegionalPreference_ok meets
  exact ⟨regional, applied⟩

/-- A weight of one puts the two chunks of the first category before the second of the other. -/
theorem interleaved_regrouped : ∃ regional selected,
    applyRegionalPreference interleaved "egypt" = .ok regional ∧
    selectRetrievalCandidates ⟨exactArithmetic id, .semanticMmr, 1⟩ "egypt" channelVectors
      interleaved = .ok selected ∧
    selected.map (·.candidate) =
      (deduplicateAndCap (regroup "egypt" regional)).map (·.candidate) := by
  obtain ⟨regional, applied⟩ := regional_of_interleaved
  obtain ⟨-, selected, returned, same, -⟩ := pure_relevance_regroups id "egypt" channelVectors
    interleaved interleaved_pure regional applied
  exact ⟨regional, selected, applied, returned, same⟩

/-- The order of the two selections differs. -/
theorem interleaved_order_differs :
    ¬ ∀ (sqrt : ℚ → ℚ) (requestedMarket : String) (queryVectors : List (String × List ℚ))
      (candidates : List (RetrievalCandidate ℚ)), (candidates.map (·.score)).Nodup →
      (∀ candidate ∈ candidates, IsPure sqrt queryVectors candidate) →
      ∀ diversified semantic, selectRetrievalCandidates ⟨exactArithmetic sqrt, .semanticMmr, 1⟩
          requestedMarket queryVectors candidates = .ok diversified →
        selectRetrievalCandidates ⟨exactArithmetic sqrt, .semantic, 1⟩ requestedMarket queryVectors
          candidates = .ok semantic →
        diversified.map (·.candidate) = semantic.map (·.candidate) := by
  intro claimed
  obtain ⟨diversified, isDiversified, chunks⟩ :=
    of_selectedChunks (show selectedChunks .semanticMmr = some [1, 2, 4, 3] by decide +kernel)
  obtain ⟨semantic, isSemantic, others⟩ :=
    of_selectedChunks (show selectedChunks .semantic = some [1, 2, 3, 4] by decide +kernel)
  have same := claimed id "egypt" channelVectors interleaved (by decide +kernel) interleaved_pure
    diversified semantic isDiversified isSemantic
  have sameChunks := congrArg (List.map (·.chunkId)) same
  rw [List.map_map, List.map_map] at sameChunks
  have differ : ([1, 2, 4, 3] : List Uuid) = [1, 2, 3, 4] :=
    chunks.symm.trans (sameChunks.trans others)
  exact absurd differ (by decide)

end MarketMind.Rag
