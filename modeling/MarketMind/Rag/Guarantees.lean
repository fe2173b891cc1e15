import Mathlib.Algebra.Order.Ring.Rat
import MarketMind.Rag.Gaps
import MarketMind.Steps

/-!
Owns what the selection guarantees in both modes: the order of the tiers, the winner of a bucket,
and the limits.

Does not own the similarity of two vectors: any arithmetic may give it.
-/

namespace MarketMind.Rag

open Steps

/-! ### The filter of the search -/

def getMarketFilter (market : String) : List String :=
  if market = "egypt" then ["egypt", "mena", "global"]
  else if market = "mena" then ["mena", "global"]
  else ["global"]

def Markets.tags : Markets → List String
  | .one market => [market]
  | .many markets => markets

section Numbers

variable {F : Type}

/-- One of the market tags is one that the search asks for. -/
def MeetsFilter (requestedMarket : String) (candidate : RetrievalCandidate F) : Prop :=
  ∃ markets ∈ candidate.markets, ∃ tag ∈ markets.tags, tag ∈ getMarketFilter requestedMarket

/-- The tiers that the filter leaves. -/
def IsAllowed (requestedMarket : String) (tier : MarketTier) : Prop :=
  if requestedMarket = "egypt" then True
  else if requestedMarket = "mena" then tier ≠ .egypt
  else tier = .global

theorem tier_eq_of_priority {requestedMarket : String} {left right : MarketTier}
    (leftAllowed : IsAllowed requestedMarket left) (rightAllowed : IsAllowed requestedMarket right)
    (same : getTierPriority left requestedMarket = getTierPriority right requestedMarket) :
    left = right := by
  unfold IsAllowed at leftAllowed rightAllowed
  unfold getTierPriority at same
  by_cases isEgypt : requestedMarket = "egypt"
  · simp only [isEgypt, if_true] at same
    cases left <;> cases right <;> simp_all
  · by_cases isMena : requestedMarket = "mena"
    · cases left <;> cases right <;> simp_all
    · rw [if_neg isEgypt, if_neg isMena] at leftAllowed rightAllowed
      rw [leftAllowed, rightAllowed]

/-- A tag that is searched for is found among the lowered tags as it stands. -/
theorem mem_lowered {tags : List String} {tag : String} (member : tag ∈ tags)
    (isLower : tag.toLower = tag) : tag ∈ tags.map String.toLower :=
  List.mem_map.mpr ⟨tag, member, isLower⟩

theorem resolve_allowed {requestedMarket : String} {tags : List String} {tag : String}
    (member : tag ∈ tags) (isAsked : tag ∈ getMarketFilter requestedMarket) :
    ∃ tier, MarketTier.parse (resolveBestMarketTier tags requestedMarket) = .ok tier ∧
      IsAllowed requestedMarket tier := by
  have isLower : tag.toLower = tag := by
    unfold getMarketFilter at isAsked
    have oneOf : tag = "egypt" ∨ tag = "mena" ∨ tag = "global" := by
      split at isAsked
      · simpa using isAsked
      · split at isAsked <;> simp_all
    rcases oneOf with rfl | rfl | rfl <;> decide +kernel
  have among := mem_lowered member isLower
  unfold getMarketFilter at isAsked
  unfold IsAllowed resolveBestMarketTier
  generalize tags.map String.toLower = lowered at among
  by_cases isEgypt : requestedMarket = "egypt"
  · simp only [isEgypt, if_true, List.find?_cons, List.find?_nil]
    by_cases inEgypt : "egypt" ∈ lowered
    · exact ⟨.egypt, by simp [inEgypt, MarketTier.parse], trivial⟩
    · by_cases inMena : "mena" ∈ lowered
      · exact ⟨.mena, by simp [inEgypt, inMena, MarketTier.parse], trivial⟩
      · have inGlobal : "global" ∈ lowered := by
          simp only [isEgypt, if_true, List.mem_cons, List.not_mem_nil, or_false] at isAsked
          rcases isAsked with rfl | rfl | rfl
          · exact absurd among inEgypt
          · exact absurd among inMena
          · exact among
        exact ⟨.global, by simp [inEgypt, inMena, inGlobal, MarketTier.parse], trivial⟩
  · by_cases isMena : requestedMarket = "mena"
    · subst isMena
      simp only [isEgypt, if_true, if_false, List.find?_cons, List.find?_nil]
      by_cases inMena : "mena" ∈ lowered
      · exact ⟨.mena, by simp [inMena, MarketTier.parse], by simp⟩
      · have inGlobal : "global" ∈ lowered := by
          simp only [isEgypt, if_true, if_false, List.mem_cons, List.not_mem_nil,
            or_false] at isAsked
          rcases isAsked with rfl | rfl
          · exact absurd among inMena
          · exact among
        exact ⟨.global, by simp [inMena, inGlobal, MarketTier.parse], by simp⟩
    · rw [if_neg isEgypt, if_neg isMena, List.mem_singleton] at isAsked
      subst isAsked
      exact ⟨.global, by simp [isEgypt, isMena, among, MarketTier.parse],
        by simp [isEgypt, isMena]⟩

/-- A candidate that meets the filter gets a tier that the filter leaves. -/
theorem toRegional_allowed {requestedMarket : String} {candidate : RetrievalCandidate F}
    (meets : MeetsFilter requestedMarket candidate) :
    ∃ regional, toRegional requestedMarket candidate = .ok regional ∧
      IsAllowed requestedMarket regional.marketTier := by
  obtain ⟨markets, isTagged, tag, member, isAsked⟩ := meets
  obtain ⟨tier, parsed, allowed⟩ := resolve_allowed member isAsked
  refine ⟨{ candidate
            marketTier := tier
            isFallback := 0 < getTierPriority tier requestedMarket
            fallbackLabel := getFallbackLabel tier requestedMarket }, ?_, allowed⟩
  unfold toRegional
  rw [show candidate.markets = some markets from isTagged]
  cases markets with
  | one market =>
      change (MarketTier.parse (resolveBestMarketTier [market] requestedMarket) >>= _) = _
      rw [show MarketTier.parse (resolveBestMarketTier [market] requestedMarket) = .ok tier
        from parsed]
      rfl
  | many markets =>
      change (MarketTier.parse (resolveBestMarketTier markets requestedMarket) >>= _) = _
      rw [show MarketTier.parse (resolveBestMarketTier markets requestedMarket) = .ok tier
        from parsed]
      rfl

/-! ### Steps that do not fail -/

theorem ok_bind {α β : Type} (value : α) (next : α → Except RetrievalError β) :
    (.ok value >>= next) = next value := rfl

/-- What undoes each step undoes them all. -/
theorem map_of_mapM {α β : Type} {step : α → Except RetrievalError β} {undo : β → α}
    (undoes : ∀ item result, step item = .ok result → undo result = item) {list : List α}
    {results : List β} (mapped : list.mapM step = .ok results) : results.map undo = list := by
  have stepped := mapM_eq_ok.mp mapped
  clear mapped
  induction stepped with
  | nil => rfl
  | cons first rest inductionHypothesis =>
      rw [List.map_cons, undoes _ _ first, inductionHypothesis]

end Numbers

/-! ### One bucket -/

section Buckets

variable {F : Type} [LinearOrder F] {arithmetic : Arithmetic F} {lambdaMult : F}
  {requestedMarket : String} {queryVectors : List (String × List F)}

theorem takeBest_perm {items : List (F × Ranked F)} {best : Ranked F}
    {others : List (F × Ranked F)} (taken : takeBest items = some (best, others)) :
    (best :: others.map Prod.snd).Perm (items.map Prod.snd) := by
  induction items generalizing best others with
  | nil => cases taken
  | cons head rest inductionHypothesis =>
      obtain ⟨value, item⟩ := head
      cases further : takeBest rest with
      | none =>
          simp only [takeBest, further] at taken
          cases taken
          cases rest with
          | nil => exact .refl _
          | cons next rest =>
              simp only [takeBest] at further
              split at further
              · split at further <;> cases further
              · cases further
      | some found =>
          obtain ⟨later, left⟩ := found
          have permuted := inductionHypothesis further
          simp only [takeBest, further] at taken
          split at taken
          · cases taken
            exact .refl _
          · cases taken
            exact (List.Perm.swap item best _).trans (permuted.cons item)

theorem takeBest_isSome {items : List (F × Ranked F)} (some : items ≠ []) :
    ∃ best others, takeBest items = .some (best, others) := by
  cases items with
  | nil => exact absurd rfl some
  | cons head rest =>
      obtain ⟨value, item⟩ := head
      simp only [takeBest]
      split
      · split <;> exact ⟨_, _, rfl⟩
      · exact ⟨_, _, rfl⟩

/-- The loop keeps what was selected in front and goes through all of the rest. -/
theorem mmrLoop_perm {rounds : Nat} {selected remaining result : List (Ranked F)}
    (enough : rounds = remaining.length)
    (looped : mmrLoop arithmetic lambdaMult rounds selected remaining = .ok result) :
    ∃ later, result = selected ++ later ∧ later.Perm remaining := by
  induction rounds generalizing selected remaining with
  | zero =>
      cases looped
      rw [List.eq_nil_of_length_eq_zero enough.symm]
      exact ⟨[], (List.append_nil _).symm, .refl _⟩
  | succ rounds inductionHypothesis =>
      obtain ⟨values, mapped, goesOn⟩ := ok_of_bind looped
      have sameLength := (mapM_eq_ok.mp mapped).length_eq
      have zipped : (values.zip remaining).map Prod.snd = remaining :=
        List.map_snd_zip (by omega)
      have filled : values.zip remaining ≠ [] := by
        intro empty
        rw [empty] at zipped
        rw [← zipped] at enough
        cases enough
      obtain ⟨best, others, taken⟩ := takeBest_isSome filled
      rw [taken] at goesOn
      have permuted := takeBest_perm taken
      rw [zipped] at permuted
      have fewer : rounds = (others.map Prod.snd).length := by
        have lengths := permuted.length_eq
        simp only [List.length_cons] at lengths
        omega
      obtain ⟨later, same, others⟩ := inductionHypothesis fewer goesOn
      refine ⟨best :: later, ?_, (others.cons best).trans permuted⟩
      rw [same, List.append_assoc]
      rfl

/-- The candidates of a bucket come back in some order, with the first in front. -/
theorem selectMmr_perm {candidates result : List (RetrievalCandidate F)} {queryVector : List F}
    (selected : selectMmr arithmetic candidates queryVector lambdaMult = .ok result) :
    result.Perm candidates ∧ result.head? = candidates.head? := by
  unfold selectMmr at selected
  split at selected
  · obtain ⟨vectors, hasVectors, selected⟩ := ok_of_bind selected
    obtain ⟨similarities, compared, selected⟩ := ok_of_bind selected
    have vectorLength := (mapM_eq_ok.mp hasVectors).length_eq
    have similarityLength := (mapM_eq_ok.mp compared).length_eq
    have ranked : (List.zipWith (fun (candidate : RetrievalCandidate F) (known : List F × F) =>
        Ranked.mk candidate known.1 known.2) candidates (vectors.zip similarities)).map
          (·.candidate) = candidates := by
      rw [List.map_zipWith]
      simp only
      rw [← List.map_uncurry_zip_eq_zipWith]
      refine List.map_fst_zip ?_
      rw [List.length_zip]
      omega
    dsimp only at selected
    split at selected
    · next isEmpty =>
      cases selected
      rw [isEmpty] at ranked
      rw [← ranked]
      exact ⟨.refl _, rfl⟩
    · next first rest isRanked =>
      rw [isRanked] at ranked
      obtain ⟨looped, loops, made⟩ := ok_of_bind selected
      cases made
      obtain ⟨later, rfl, permuted⟩ := mmrLoop_perm rfl loops
      rw [← ranked]
      exact ⟨(permuted.cons first).map _, rfl⟩
  · cases selected

/-- The candidate has the tier and the label that the regional preference gives it. -/
def HasOwnTier (requestedMarket : String) (regional : RegionalCandidate F) : Prop :=
  toRegional requestedMarket regional.candidate = .ok regional ∧
    IsAllowed requestedMarket regional.marketTier

omit [LinearOrder F] in
/-- The wrapper of the first candidate of a bucket fits every other. -/
theorem rewrap {first regional : RegionalCandidate F} (firstOwn : HasOwnTier requestedMarket first)
    (own : HasOwnTier requestedMarket regional)
    (same : getTierPriority first.marketTier requestedMarket =
      getTierPriority regional.marketTier requestedMarket) :
    { first with candidate := regional.candidate } = regional := by
  have sameTier := tier_eq_of_priority firstOwn.2 own.2 same
  obtain ⟨firstTier, -, firstMade⟩ := ok_of_bind firstOwn.1
  obtain ⟨tier, -, made⟩ := ok_of_bind own.1
  obtain ⟨firstCandidate, firstMarketTier, firstFallback, firstLabel⟩ := first
  obtain ⟨candidate, marketTier, isFallback, fallbackLabel⟩ := regional
  cases firstMade
  cases made
  cases sameTier
  rfl

theorem reorderBucket_perm {category : String} {bucket result : List (RegionalCandidate F)}
    {priority : Nat} (own : ∀ regional ∈ bucket, HasOwnTier requestedMarket regional ∧
      getTierPriority regional.marketTier requestedMarket = priority)
    (reordered : reorderBucket arithmetic queryVectors lambdaMult category bucket = .ok result) :
    result.Perm bucket ∧ result.head? = bucket.head? := by
  unfold reorderBucket at reordered
  split at reordered
  · cases reordered
  · cases reordered
    exact ⟨.refl _, rfl⟩
  · next first rest known =>
    obtain ⟨selected, selects, made⟩ := ok_of_bind reordered
    cases made
    obtain ⟨permuted, sameHead⟩ := selectMmr_perm selects
    have unchanged : ((first :: rest).map (·.candidate)).map
        (fun candidate => { first with candidate }) = first :: rest := by
      rw [List.map_map]
      refine (List.map_congr_left ?_).trans (List.map_id (first :: rest))
      intro regional member
      exact rewrap (own first List.mem_cons_self).1 (own regional member).1
        ((own first List.mem_cons_self).2.trans (own regional member).2.symm)
    refine ⟨?_, ?_⟩
    · have wrapped := permuted.map fun candidate => { first with candidate }
      rwa [unchanged] at wrapped
    · rw [List.head?_map, sameHead]
      rfl

/-! ### All buckets -/

theorem sublist_eraseDups {α : Type} [BEq α] [LawfulBEq α] (list : List α) :
    list.eraseDups.Sublist list ∧ list.eraseDups.Nodup := by
  induction length : list.length using Nat.strong_induction_on generalizing list with
  | _ size inductionHypothesis =>
      cases list with
      | nil => exact ⟨.slnil, .nil⟩
      | cons head rest =>
          rw [List.eraseDups_cons]
          have shorter : (rest.filter fun item => !item == head).length < size := by
            have atMost := List.length_filter_le (fun item => !item == head) rest
            rw [← length, List.length_cons]
            omega
          obtain ⟨sub, nodup⟩ := inductionHypothesis _ shorter _ rfl
          refine ⟨(sub.trans List.filter_sublist).cons_cons head, List.nodup_cons.mpr ⟨?_, nodup⟩⟩
          intro member
          have kept := (List.mem_filter.mp (sub.subset member)).2
          simp at kept

/-- The first candidate of a bucket. -/
def winner? (requestedMarket : String) (list : List (RegionalCandidate F)) (key : Nat × String) :
    Option (RegionalCandidate F) :=
  (list.filter (bucketKey requestedMarket · = key)).head?

/-- Each list is one bucket in another order, with its first candidate in front. -/
def AreBuckets (requestedMarket : String) (list : List (RegionalCandidate F))
    (keys : List (Nat × String)) (buckets : List (List (RegionalCandidate F))) : Prop :=
  List.Forall₂ (fun key bucket => bucket.Perm (list.filter (bucketKey requestedMarket · = key)) ∧
    bucket.head? = winner? requestedMarket list key) keys buckets

variable {list : List (RegionalCandidate F)} {keys : List (Nat × String)}
  {buckets : List (List (RegionalCandidate F))}

omit [LinearOrder F] in
theorem key_of_mem {key : Nat × String} {bucket : List (RegionalCandidate F)}
    (permuted : bucket.Perm (list.filter (bucketKey requestedMarket · = key)))
    {regional : RegionalCandidate F} (member : regional ∈ bucket) :
    bucketKey requestedMarket regional = key :=
  of_decide_eq_true (List.mem_filter.mp (permuted.mem_iff.mp member)).2

omit [LinearOrder F] in
/-- The buckets of distinct keys make up what has one of the keys. -/
theorem AreBuckets.perm (areBuckets : AreBuckets requestedMarket list keys buckets)
    (nodup : keys.Nodup) :
    buckets.flatten.Perm (list.filter (bucketKey requestedMarket · ∈ keys)) := by
  induction areBuckets with
  | nil => simp
  | cons first rest inductionHypothesis =>
      next key bucket keys buckets =>
      obtain ⟨notAmong, restNodup⟩ := List.nodup_cons.mp nodup
      rw [List.flatten_cons]
      refine (first.1.append (inductionHypothesis restNodup)).trans ?_
      have parted := List.filter_append_perm (bucketKey requestedMarket · = key)
        (list.filter (bucketKey requestedMarket · ∈ key :: keys))
      rw [List.filter_filter, List.filter_filter] at parted
      refine (List.Perm.of_eq ?_).trans parted
      refine congrArg₂ _ (List.filter_congr ?_) (List.filter_congr ?_)
      · intro regional _
        by_cases same : bucketKey requestedMarket regional = key <;> simp [same]
      · intro regional _
        by_cases same : bucketKey requestedMarket regional = key
        · simp [same, notAmong]
        · simp [same]

omit [LinearOrder F] in
/-- The first candidate of each bucket stays its first. -/
theorem AreBuckets.winner (areBuckets : AreBuckets requestedMarket list keys buckets)
    (nodup : keys.Nodup) {key : Nat × String} (member : key ∈ keys) :
    winner? requestedMarket buckets.flatten key = winner? requestedMarket list key := by
  induction areBuckets with
  | nil => cases member
  | cons first rest inductionHypothesis =>
      next head bucket keys buckets =>
      obtain ⟨notAmong, restNodup⟩ := List.nodup_cons.mp nodup
      unfold winner? at inductionHypothesis ⊢
      rw [List.flatten_cons, List.filter_append]
      by_cases same : key = head
      · subst same
        have whole : bucket.filter (bucketKey requestedMarket · = key) = bucket :=
          List.filter_eq_self.mpr fun regional among =>
            decide_eq_true (key_of_mem first.1 among)
        have others : buckets.flatten.filter (bucketKey requestedMarket · = key) = [] := by
          refine List.filter_eq_nil_iff.mpr ?_
          intro regional among
          have keyed := (List.mem_filter.mp ((AreBuckets.perm rest restNodup).mem_iff.mp among)).2
          intro isKey
          rw [of_decide_eq_true isKey, decide_eq_true_eq] at keyed
          exact notAmong keyed
        rw [whole, others, List.append_nil]
        exact first.2
      · have nothing : bucket.filter (bucketKey requestedMarket · = key) = [] := by
          refine List.filter_eq_nil_iff.mpr ?_
          intro regional among isKey
          exact same ((of_decide_eq_true isKey).symm.trans (key_of_mem first.1 among))
        rw [nothing, List.nil_append]
        exact inductionHypothesis restNodup ((List.mem_cons.mp member).resolve_left same)

/-- Tiers do not get better from left to right. -/
def NeverImproves (requestedMarket : String) (list : List (RegionalCandidate F)) : Prop :=
  list.Pairwise fun left right =>
    getTierPriority left.marketTier requestedMarket ≤
      getTierPriority right.marketTier requestedMarket

omit [LinearOrder F] in
theorem AreBuckets.neverImproves (areBuckets : AreBuckets requestedMarket list keys buckets)
    (ordered : keys.Pairwise fun left right => left.1 ≤ right.1) :
    NeverImproves requestedMarket buckets.flatten := by
  have priority {key : Nat × String} {bucket : List (RegionalCandidate F)}
      (permuted : bucket.Perm (list.filter (bucketKey requestedMarket · = key)))
      {regional : RegionalCandidate F} (member : regional ∈ bucket) :
      getTierPriority regional.marketTier requestedMarket = key.1 :=
    congrArg Prod.fst (key_of_mem permuted member)
  induction areBuckets with
  | nil => exact .nil
  | cons first rest inductionHypothesis =>
      next head bucket keys buckets =>
      obtain ⟨before, ordered⟩ := List.pairwise_cons.mp ordered
      refine List.pairwise_append.mpr ⟨?_, inductionHypothesis ordered, ?_⟩
      · refine List.pairwise_of_forall_mem_list ?_
        intro left leftIn right rightIn
        rw [priority first.1 leftIn, priority first.1 rightIn]
      · intro left leftIn right rightIn
        obtain ⟨other, isBucket, inside⟩ := List.mem_flatten.mp rightIn
        obtain ⟨place, atPlace, rfl⟩ := List.mem_iff_getElem.mp isBucket
        have keyed := (List.forall₂_iff_get.mp rest).2 place
          (by rw [rest.length_eq]; exact atPlace) atPlace
        rw [priority first.1 leftIn, priority keyed.1 inside]
        exact before _ (List.get_mem _ _)

theorem reorder_perm {reordered : List (RegionalCandidate F)}
    (own : ∀ regional ∈ list, HasOwnTier requestedMarket regional)
    (sorted : NeverImproves requestedMarket list)
    (returned : reorderRegionalCandidatesWithMmr arithmetic list queryVectors requestedMarket
      lambdaMult = .ok reordered) :
    reordered.Perm list ∧ NeverImproves requestedMarket reordered ∧
      ∀ key, winner? requestedMarket reordered key = winner? requestedMarket list key := by
  obtain ⟨buckets, mapped, made⟩ := ok_of_bind returned
  cases made
  obtain ⟨sub, nodup⟩ := sublist_eraseDups (list.map (bucketKey requestedMarket))
  have areBuckets : AreBuckets requestedMarket list
      (list.map (bucketKey requestedMarket)).eraseDups buckets := by
    refine (mapM_eq_ok.mp mapped).imp fun key bucket reordered => ?_
    have ownInBucket : ∀ regional ∈ list.filter (bucketKey requestedMarket · = key),
        HasOwnTier requestedMarket regional ∧
          getTierPriority regional.marketTier requestedMarket = key.1 := by
      intro regional member
      obtain ⟨among, isKey⟩ := List.mem_filter.mp member
      exact ⟨own regional among, congrArg Prod.fst (of_decide_eq_true isKey)⟩
    exact reorderBucket_perm ownInBucket reordered
  have isKey : ∀ regional ∈ list,
      bucketKey requestedMarket regional ∈ (list.map (bucketKey requestedMarket)).eraseDups :=
    fun regional member => List.mem_eraseDups.mpr (List.mem_map_of_mem member)
  have permuted := areBuckets.perm nodup
  rw [List.filter_eq_self.mpr fun regional member => decide_eq_true (isKey regional member)]
    at permuted
  have keysSorted : (list.map (bucketKey requestedMarket)).Pairwise
      fun left right => left.1 ≤ right.1 := List.pairwise_map.mpr sorted
  refine ⟨permuted, areBuckets.neverImproves (keysSorted.sublist sub), fun key => ?_⟩
  by_cases member : key ∈ (list.map (bucketKey requestedMarket)).eraseDups
  · exact areBuckets.winner nodup member
  · -- neither list has a candidate in the bucket
    have nothing {other : List (RegionalCandidate F)}
        (within : ∀ regional ∈ other, regional ∈ list) :
        winner? requestedMarket other key = none := by
      unfold winner?
      rw [List.filter_eq_nil_iff.mpr, List.head?_nil]
      intro regional among isIts
      exact member (of_decide_eq_true isIts ▸ isKey regional (within regional among))
    rw [nothing fun regional among => permuted.mem_iff.mp among,
      nothing fun regional among => among]

/-! ### The regional preference -/

instance : Std.Total (precedes (F := F) requestedMarket) where
  total left right := by
    unfold precedes
    rcases Nat.lt_trichotomy (getTierPriority left.marketTier requestedMarket)
      (getTierPriority right.marketTier requestedMarket) with less | same | more
    · exact .inl (.inl less)
    · rcases le_total right.candidate.score left.candidate.score with lower | higher
      · exact .inl (.inr ⟨same, lower⟩)
      · exact .inr (.inr ⟨same.symm, higher⟩)
    · exact .inr (.inl more)

instance : IsTrans (RegionalCandidate F) (precedes requestedMarket) where
  trans left middle right first second := by
    unfold precedes at first second ⊢
    rcases first with less | ⟨same, lower⟩
    · rcases second with further | ⟨same, -⟩
      · exact .inl (less.trans further)
      · exact .inl (same ▸ less)
    · rcases second with further | ⟨again, below⟩
      · exact .inl (same ▸ further)
      · exact .inr ⟨same.trans again, below.trans lower⟩

theorem applyRegionalPreference_ok {candidates : List (RetrievalCandidate F)}
    (meets : ∀ candidate ∈ candidates, MeetsFilter requestedMarket candidate) :
    ∃ regional, applyRegionalPreference candidates requestedMarket = .ok regional ∧
      (regional.map (·.candidate)).Perm candidates ∧
      (∀ item ∈ regional, HasOwnTier requestedMarket item) ∧
      NeverImproves requestedMarket regional := by
  obtain ⟨unsorted, mapped⟩ := mapM_ok fun candidate member =>
    (toRegional_allowed (meets candidate member)).imp fun regional made => made.1
  refine ⟨unsorted.insertionSort (precedes requestedMarket), ?_, ?_, ?_, ?_⟩
  · unfold applyRegionalPreference
    rw [mapped]
    rfl
  · have unwrapped : unsorted.map (·.candidate) = candidates :=
      map_of_mapM (fun candidate regional made => candidate_of_toRegional made) mapped
    rw [← unwrapped]
    exact (List.perm_insertionSort _ _).map _
  · intro item member
    obtain ⟨candidate, isFound, made⟩ :=
      mem_of_mapM mapped ((List.perm_insertionSort _ _).mem_iff.mp member)
    obtain ⟨regional, same, allowed⟩ := toRegional_allowed (meets candidate isFound)
    rw [made] at same
    cases same
    refine ⟨?_, allowed⟩
    rw [candidate_of_toRegional made]
    exact made
  · refine (List.pairwise_insertionSort (precedes requestedMarket) unsorted).imp ?_
    intro left right before
    rcases before with less | same
    · exact less.le
    · exact same.1.le

/-! ### Comparable vectors -/

/-- The candidates and their categories have vectors of one length, and the weight is one. -/
structure Comparable (arithmetic : Arithmetic F) (lambdaMult : F)
    (queryVectors : List (String × List F)) (candidates : List (RetrievalCandidate F)) : Prop where
  weight : arithmetic.zero ≤ lambdaMult ∧ lambdaMult ≤ arithmetic.one
  vectors : ∃ dimension, 0 < dimension ∧
    (∀ candidate ∈ candidates, ∃ vector ∈ candidate.vector, vector.length = dimension) ∧
    (∀ known ∈ queryVectors, known.2.length = dimension)
  queried : ∀ candidate ∈ candidates, ∃ known ∈ queryVectors, known.1 = candidate.subqueryCategory

theorem cosineSimilarity_ok {left right : List F} {dimension : Nat} (positive : 0 < dimension)
    (leftLength : left.length = dimension) (rightLength : right.length = dimension) :
    ∃ similarity, cosineSimilarity arithmetic left right = .ok similarity := by
  unfold cosineSimilarity
  rw [if_neg (by simp [leftLength, rightLength]),
    if_neg (by rw [List.isEmpty_iff_length_eq_zero]; omega)]
  dsimp only
  split <;> exact ⟨_, rfl⟩

theorem mmrLoop_ok {dimension : Nat} (positive : 0 < dimension) {rounds : Nat}
    {selected remaining : List (Ranked F)}
    (selectedLength : ∀ item ∈ selected, item.vector.length = dimension)
    (remainingLength : ∀ item ∈ remaining, item.vector.length = dimension) :
    ∃ result, mmrLoop arithmetic lambdaMult rounds selected remaining = .ok result := by
  induction rounds generalizing selected remaining with
  | zero => exact ⟨selected, rfl⟩
  | succ rounds inductionHypothesis =>
      have relevances : ∃ values,
          remaining.mapM (marginalRelevance arithmetic lambdaMult selected) = .ok values := by
        refine mapM_ok fun item member => ?_
        have similar : ∀ other ∈ selected, ∃ similarity,
            cosineSimilarity arithmetic item.vector other.vector = .ok similarity :=
          fun other isSelected => cosineSimilarity_ok positive (remainingLength item member)
            (selectedLength other isSelected)
        obtain ⟨similarities, compared⟩ := mapM_ok similar
        unfold marginalRelevance
        rw [compared]
        exact ⟨_, rfl⟩
      obtain ⟨values, mapped⟩ := relevances
      unfold mmrLoop
      rw [mapped, ok_bind]
      cases taken : takeBest (values.zip remaining) with
      | none => exact ⟨selected, rfl⟩
      | some found =>
          obtain ⟨best, others⟩ := found
          have permuted := takeBest_perm taken
          have within : ∀ item ∈ best :: others.map Prod.snd, item.vector.length = dimension := by
            intro item member
            obtain ⟨pair, inZip, rfl⟩ := List.mem_map.mp (permuted.mem_iff.mp member)
            exact remainingLength _ (List.of_mem_zip inZip).2
          refine inductionHypothesis ?_ fun item member =>
            within item (List.mem_cons_of_mem best member)
          intro item member
          rcases List.mem_append.mp member with before | now
          · exact selectedLength item before
          · rw [List.mem_singleton.mp now]
            exact within best List.mem_cons_self

theorem selectMmr_ok {dimension : Nat} (positive : 0 < dimension)
    (weight : arithmetic.zero ≤ lambdaMult ∧ lambdaMult ≤ arithmetic.one)
    {candidates : List (RetrievalCandidate F)} {queryVector : List F}
    (lengths : ∀ candidate ∈ candidates, ∃ vector ∈ candidate.vector, vector.length = dimension)
    (queryLength : queryVector.length = dimension) :
    ∃ result, selectMmr arithmetic candidates queryVector lambdaMult = .ok result := by
  have stored : ∀ candidate ∈ candidates, ∃ vector, candidateVector candidate = .ok vector := by
    intro candidate member
    obtain ⟨vector, isVector, -⟩ := lengths candidate member
    refine ⟨vector, ?_⟩
    unfold candidateVector
    rw [show candidate.vector = some vector from isVector]
  obtain ⟨vectors, hasVectors⟩ := mapM_ok stored
  have vectorLength : ∀ vector ∈ vectors, vector.length = dimension := by
    intro vector member
    obtain ⟨candidate, among, isIts⟩ := mem_of_mapM hasVectors member
    obtain ⟨other, isVector, sameLength⟩ := lengths candidate among
    unfold candidateVector at isIts
    rw [show candidate.vector = some other from isVector] at isIts
    cases isIts
    exact sameLength
  have similar : ∀ vector ∈ vectors, ∃ similarity,
      cosineSimilarity arithmetic vector queryVector = .ok similarity := fun vector member =>
    cosineSimilarity_ok positive (vectorLength vector member) queryLength
  obtain ⟨similarities, compared⟩ := mapM_ok similar
  unfold selectMmr
  rw [if_pos weight, hasVectors, ok_bind, compared, ok_bind]
  dsimp only
  split
  · exact ⟨[], rfl⟩
  · next first rest isRanked =>
    have within : ∀ item ∈ first :: rest, item.vector.length = dimension := by
      rw [← isRanked, ← List.map_uncurry_zip_eq_zipWith]
      intro item member
      obtain ⟨pair, inZip, rfl⟩ := List.mem_map.mp member
      exact vectorLength _ (List.of_mem_zip (List.of_mem_zip inZip).2).1
    have loops : ∃ result, mmrLoop arithmetic lambdaMult rest.length [first] rest = .ok result :=
      mmrLoop_ok positive
        (fun item member => List.mem_singleton.mp member ▸ within first List.mem_cons_self)
        fun item member => within item (List.mem_cons_of_mem first member)
    obtain ⟨result, looped⟩ := loops
    rw [looped]
    exact ⟨_, rfl⟩

theorem reorder_ok (comparable : Comparable arithmetic lambdaMult queryVectors
      (list.map (·.candidate))) :
    ∃ reordered, reorderRegionalCandidatesWithMmr arithmetic list queryVectors requestedMarket
      lambdaMult = .ok reordered := by
  obtain ⟨dimension, positive, lengths, queryLengths⟩ := comparable.vectors
  have ofBucket : ∀ key ∈ (list.map (bucketKey requestedMarket)).eraseDups, ∃ bucket,
      reorderBucket arithmetic queryVectors lambdaMult key.2
        (list.filter (bucketKey requestedMarket · = key)) = .ok bucket := by
    intro key member
    obtain ⟨regional, among, rfl⟩ := List.mem_map.mp (List.mem_eraseDups.mp member)
    obtain ⟨known, isKnown, isIts⟩ := comparable.queried _ (List.mem_map_of_mem among)
    have queried : known ∈ queryVectors.filter (·.1 = (bucketKey requestedMarket regional).2) :=
      List.mem_filter.mpr ⟨isKnown, decide_eq_true isIts⟩
    cases last : (queryVectors.filter (·.1 = (bucketKey requestedMarket regional).2)).getLast? with
    | none =>
        rw [List.getLast?_eq_none_iff.mp last] at queried
        cases queried
    | some found =>
        obtain ⟨category, queryVector⟩ := found
        have isMember := List.mem_of_mem_filter (List.mem_of_getLast? last)
        cases bucketed : list.filter (bucketKey requestedMarket · =
            bucketKey requestedMarket regional) with
        | nil =>
            unfold reorderBucket
            rw [last]
            exact ⟨[], rfl⟩
        | cons first rest =>
            have inBucket : ∀ candidate ∈ (first :: rest).map (·.candidate),
                ∃ vector ∈ candidate.vector, vector.length = dimension := by
              rw [← bucketed]
              intro candidate member
              obtain ⟨item, isItem, rfl⟩ := List.mem_map.mp member
              exact lengths _ (List.mem_map_of_mem (List.mem_of_mem_filter isItem))
            obtain ⟨selected, selects⟩ :=
              selectMmr_ok positive comparable.weight inBucket (queryLengths _ isMember)
            unfold reorderBucket
            rw [last]
            dsimp only
            rw [selects]
            exact ⟨_, rfl⟩
  obtain ⟨buckets, mapped⟩ := mapM_ok ofBucket
  unfold reorderRegionalCandidatesWithMmr
  rw [mapped]
  exact ⟨_, rfl⟩

end Buckets

/-! ### Limits -/

section Limits

variable {F : Type} {takes : Picked F → RegionalCandidate F → Prop}
  [∀ picked regional, Decidable (takes picked regional)]
  {candidates : List (RegionalCandidate F)} {picked : Picked F} {regional : RegionalCandidate F}

/-- The candidates of an entry. -/
def ofEntry (selected : List (RegionalCandidate F)) (entryId : Uuid) : Nat :=
  selected.countP fun regional => regional.candidate.entryId = entryId

/-- The counts and the chunks are those of the selection, which is within the limits. -/
structure Picked.IsLimited (picked : Picked F) : Prop where
  total : picked.selected.length ≤ maxTotal
  seen : picked.seenChunks.Perm (picked.selected.map (·.candidate.chunkId))
  distinct : (picked.selected.map (·.candidate.chunkId)).Nodup
  counts : ∀ entryId, picked.entryCounts entryId = ofEntry picked.selected entryId
  perEntry : ∀ entryId, ofEntry picked.selected entryId ≤ maxPerEntry

theorem Picked.IsLimited.none : (Picked.none : Picked F).IsLimited where
  total := Nat.zero_le _
  seen := .refl _
  distinct := .nil
  counts _ := rfl
  perEntry _ := Nat.zero_le _

theorem Picked.IsLimited.add (limited : picked.IsLimited) (room : picked.HasRoom regional) :
    (picked.add regional).IsLimited := by
  obtain ⟨fits, isNew, few⟩ := room
  have counted (entryId : Uuid) : ofEntry (picked.selected ++ [regional]) entryId =
      ofEntry picked.selected entryId + if entryId = regional.candidate.entryId then 1 else 0 := by
    simp [ofEntry, List.countP_append, List.countP_cons, eq_comm]
  refine ⟨?_, ?_, ?_, ?_, ?_⟩
  · simp only [Picked.add, List.length_append, List.length_singleton]
    omega
  · simp only [Picked.add, List.map_append, List.map_singleton]
    exact (limited.seen.cons _).trans (List.perm_append_singleton _ _).symm
  · simp only [Picked.add, List.map_append, List.map_singleton]
    refine List.nodup_append.mpr ⟨limited.distinct, List.nodup_singleton _, ?_⟩
    intro chunkId before other now same
    rw [List.mem_singleton.mp now] at same
    exact isNew (limited.seen.mem_iff.mpr (same ▸ before))
  · intro entryId
    simp only [Picked.add]
    rw [counted, limited.counts]
  · intro entryId
    simp only [Picked.add]
    rw [counted]
    split
    · next same =>
      rw [limited.counts] at few
      rw [same]
      omega
    · exact limited.perEntry entryId

theorem pass_isLimited (needsRoom : ∀ picked regional, takes picked regional →
      picked.HasRoom regional) (limited : picked.IsLimited) :
    (pass takes candidates picked).IsLimited := by
  induction candidates generalizing picked with
  | nil => exact limited
  | cons head rest inductionHypothesis =>
      rw [pass_cons fun picked regional taken => (needsRoom picked regional taken).1]
      apply inductionHypothesis
      split
      · next taken => exact limited.add (needsRoom picked head taken)
      · exact limited

/-- What has room at the end had room all along. -/
theorem hasRoom_of_pass (needsRoom : ∀ picked regional, takes picked regional →
      picked.HasRoom regional) (room : (pass takes candidates picked).HasRoom regional) :
    picked.HasRoom regional := by
  induction candidates generalizing picked with
  | nil => exact room
  | cons head rest inductionHypothesis =>
      rw [pass_cons fun picked regional taken => (needsRoom picked regional taken).1] at room
      have roomAfter := inductionHypothesis room
      split at roomAfter
      · obtain ⟨fits, isNew, few⟩ := roomAfter
        simp only [Picked.add, List.length_append, List.length_singleton, List.mem_cons,
          not_or] at fits isNew few
        exact ⟨by omega, isNew.2, by omega⟩
      · exact roomAfter

/-- The second pass leaves out only what has no room. -/
theorem fillTotal_complete (member : regional ∈ candidates) :
    ¬ (fillTotal candidates picked).HasRoom regional := by
  induction candidates generalizing picked with
  | nil => cases member
  | cons head rest inductionHypothesis =>
      unfold fillTotal
      rw [pass_cons fun picked regional room => room.1]
      rcases List.mem_cons.mp member with rfl | later
      · intro room
        have roomBefore := hasRoom_of_pass (fun picked regional room => room) room
        split at roomBefore
        · exact roomBefore.2.1 List.mem_cons_self
        · next full => exact full roomBefore
      · exact inductionHypothesis later

/-- What `deduplicate_and_cap` promises of its result. -/
structure IsSelection (candidates : List (RetrievalCandidate F))
    (selected : List (RegionalCandidate F)) : Prop where
  among : ∀ regional ∈ selected, regional.candidate ∈ candidates
  total : selected.length ≤ 8
  distinct : (selected.map (·.candidate.chunkId)).Nodup
  perEntry : ∀ entryId, ofEntry selected entryId ≤ 2
  maximal : selected.length < 8 → ∀ candidate ∈ candidates,
    candidate.chunkId ∈ selected.map (·.candidate.chunkId) ∨
      ofEntry selected candidate.entryId = 2

theorem deduplicateAndCap_isSelection :
    IsSelection (candidates.map (·.candidate)) (deduplicateAndCap candidates) := by
  have covered : (coverCategories candidates .none).IsLimited :=
    pass_isLimited (fun picked regional room => room.1) Picked.IsLimited.none
  have limited : (fillTotal candidates (coverCategories candidates .none)).IsLimited :=
    pass_isLimited (fun picked regional room => room) covered
  refine ⟨?_, limited.total, limited.distinct, limited.perEntry, ?_⟩
  · intro regional member
    obtain ⟨before, after, rfl, -⟩ := mem_deduplicateAndCap.mp member
    exact List.mem_map_of_mem (List.mem_append_right before List.mem_cons_self)
  · intro short candidate member
    obtain ⟨regional, among, rfl⟩ := List.mem_map.mp member
    have full : ¬ (fillTotal candidates (coverCategories candidates .none)).HasRoom regional :=
      fillTotal_complete among
    by_contra neither
    obtain ⟨isNew, few⟩ := not_or.mp neither
    refine full ⟨short, fun seen => isNew (limited.seen.mem_iff.mp seen), ?_⟩
    rw [limited.counts]
    have atMost := limited.perEntry regional.candidate.entryId
    unfold maxPerEntry at atMost ⊢
    unfold deduplicateAndCap at few
    omega

theorem IsSelection.of_perm {found others : List (RetrievalCandidate F)}
    {selected : List (RegionalCandidate F)} (permuted : found.Perm others)
    (isSelection : IsSelection found selected) : IsSelection others selected where
  among regional member := permuted.mem_iff.mp (isSelection.among regional member)
  total := isSelection.total
  distinct := isSelection.distinct
  perEntry := isSelection.perEntry
  maximal short candidate member :=
    isSelection.maximal short candidate (permuted.mem_iff.mpr member)

end Limits

/-! ### Both modes -/

section Modes

variable {F : Type} [LinearOrder F]

/-- The semantic list has the candidates under their own tiers in the order of the tiers;
diversification permutes it and keeps the winner of every bucket; what is selected keeps the
limits. Nothing fails where the vectors can be compared. -/
theorem selection_guaranteed (settings : Settings F) (requestedMarket : String)
    (queryVectors : List (String × List F)) (candidates : List (RetrievalCandidate F))
    (meets : ∀ candidate ∈ candidates, MeetsFilter requestedMarket candidate) :
    ∃ regional, applyRegionalPreference candidates requestedMarket = .ok regional ∧
      (regional.map (·.candidate)).Perm candidates ∧
      (∀ item ∈ regional, toRegional requestedMarket item.candidate = .ok item) ∧
      NeverImproves requestedMarket regional ∧
      (∀ reordered, reorderRegionalCandidatesWithMmr settings.arithmetic regional queryVectors
          requestedMarket settings.ragMmrLambda = .ok reordered →
        reordered.Perm regional ∧ NeverImproves requestedMarket reordered ∧
          ∀ key, winner? requestedMarket reordered key = winner? requestedMarket regional key) ∧
      (∀ selected, selectRetrievalCandidates settings requestedMarket queryVectors candidates =
          .ok selected → IsSelection candidates selected) ∧
      (Comparable settings.arithmetic settings.ragMmrLambda queryVectors candidates →
        ∃ reordered, reorderRegionalCandidatesWithMmr settings.arithmetic regional queryVectors
          requestedMarket settings.ragMmrLambda = .ok reordered) ∧
      (settings.ragSelectionMode = .semantic ∨
          Comparable settings.arithmetic settings.ragMmrLambda queryVectors candidates →
        ∃ selected, selectRetrievalCandidates settings requestedMarket queryVectors candidates =
          .ok selected) := by
  obtain ⟨regional, applied, permuted, own, sorted⟩ := applyRegionalPreference_ok meets
  have reorders : Comparable settings.arithmetic settings.ragMmrLambda queryVectors candidates →
      ∃ reordered, reorderRegionalCandidatesWithMmr settings.arithmetic regional queryVectors
        requestedMarket settings.ragMmrLambda = .ok reordered := by
    intro comparable
    obtain ⟨dimension, positive, lengths, queryLengths⟩ := comparable.vectors
    exact reorder_ok ⟨comparable.weight, ⟨dimension, positive,
      fun candidate member => lengths candidate (permuted.mem_iff.mp member), queryLengths⟩,
      fun candidate member => comparable.queried candidate (permuted.mem_iff.mp member)⟩
  refine ⟨regional, applied, permuted, fun item member => (own item member).1, sorted,
    fun reordered returned => reorder_perm own sorted returned, ?_, reorders, ?_⟩
  · intro selected returned
    obtain ⟨ordered, isOrdered, made⟩ := ok_of_bind returned
    cases made
    refine deduplicateAndCap_isSelection.of_perm ?_
    unfold orderCandidates at isOrdered
    rw [applied, ok_bind] at isOrdered
    cases mode : settings.ragSelectionMode with
    | semantic =>
        rw [mode] at isOrdered
        cases isOrdered
        exact permuted
    | semanticMmr =>
        rw [mode] at isOrdered
        exact ((reorder_perm own sorted isOrdered).1.map _).trans permuted
  · intro succeeds
    unfold selectRetrievalCandidates orderCandidates
    rw [applied, ok_bind]
    cases mode : settings.ragSelectionMode with
    | semantic => exact ⟨_, rfl⟩
    | semanticMmr =>
        have comparable := succeeds.resolve_left (by simp [mode])
        obtain ⟨reordered, returned⟩ := reorders comparable
        dsimp only
        rw [returned]
        exact ⟨_, rfl⟩

/-- Exact arithmetic, with some root. -/
def exactArithmetic (sqrt : ℚ → ℚ) : Arithmetic ℚ :=
  ⟨0, 1, (· + ·), (· - ·), (· * ·), (· / ·), sqrt⟩

def methodCandidate (chunkId : Uuid) (score : ℚ) (vector : List ℚ) : RetrievalCandidate ℚ :=
  ⟨chunkId, 1, 1, score, some (.one "egypt"), "budget_method", some vector⟩

/-- Three chunks of one entry, diversified: two of them are selected. -/
theorem diversified_selection_guaranteed : ∃ selected,
    selectRetrievalCandidates ⟨exactArithmetic id, .semanticMmr, 1 / 2⟩ "egypt"
      [("budget_method", [1, 0])] [methodCandidate 1 (9 / 10) [1, 0],
        methodCandidate 2 (1 / 2) [1, 1], methodCandidate 3 (1 / 4) [0, 1]] = .ok selected ∧
    IsSelection [methodCandidate 1 (9 / 10) [1, 0], methodCandidate 2 (1 / 2) [1, 1],
      methodCandidate 3 (1 / 4) [0, 1]] selected := by
  obtain ⟨regional, -, -, -, -, -, isSelection, -, succeeds⟩ := selection_guaranteed
    ⟨exactArithmetic id, .semanticMmr, 1 / 2⟩ "egypt" [("budget_method", [1, 0])]
    [methodCandidate 1 (9 / 10) [1, 0], methodCandidate 2 (1 / 2) [1, 1],
      methodCandidate 3 (1 / 4) [0, 1]] (by
        intro candidate member
        simp only [List.mem_cons, List.not_mem_nil, or_false] at member
        rcases member with rfl | rfl | rfl <;>
          exact ⟨_, rfl, "egypt", List.mem_singleton_self _, by decide +kernel⟩)
  have comparable : Comparable (exactArithmetic id) (1 / 2) [("budget_method", [1, 0])]
      [methodCandidate 1 (9 / 10) [1, 0], methodCandidate 2 (1 / 2) [1, 1],
        methodCandidate 3 (1 / 4) [0, 1]] := by
    refine ⟨⟨by decide +kernel, by decide +kernel⟩, ⟨2, by decide, ?_, ?_⟩, ?_⟩
    · intro candidate member
      simp only [List.mem_cons, List.not_mem_nil, or_false] at member
      rcases member with rfl | rfl | rfl <;> exact ⟨_, rfl, rfl⟩
    · intro known member
      rw [List.mem_singleton.mp member]
      rfl
    · intro candidate member
      simp only [List.mem_cons, List.not_mem_nil, or_false] at member
      rcases member with rfl | rfl | rfl <;> exact ⟨_, List.mem_singleton_self _, rfl⟩
  obtain ⟨selected, returned⟩ := succeeds (.inr comparable)
  exact ⟨selected, returned, isSelection selected returned⟩

end Modes

end MarketMind.Rag
