import Mathlib.Data.List.Nodup
import MarketMind.Discovery.Evidence

/-!
Owns what the consolidation of sources keeps: the sources of each key, merged in order, and which
of them a merged source has its URL from.

Does not own the rows that sources are saved in.
-/

namespace MarketMind.Discovery.Evidence

/-! ### Consolidation -/

variable {api : UrlApi} {sources : List SourceCandidate} {key : String}

/-- The sources of a key, in the order they were gathered. -/
def group (api : UrlApi) (sources : List SourceCandidate) (key : String) : List SourceCandidate :=
  (sources.zipIdx.filter fun (source, index) => sourceKey api source index = key).map (·.1)

def mergeAll : List SourceCandidate → Option SourceCandidate
  | [] => none
  | source :: sources => some (sources.foldl mergeSources source)

theorem mem_group {source : SourceCandidate} : source ∈ group api sources key ↔
    ∃ index, sources[index]? = some source ∧ sourceKey api source index = key := by
  simp only [group, List.mem_map, List.mem_filter, List.mem_zipIdx_iff_getElem?, decide_eq_true_eq]
  constructor
  · rintro ⟨⟨other, index⟩, ⟨found, same⟩, rfl⟩
    exact ⟨index, found, same⟩
  · rintro ⟨index, found, same⟩
    exact ⟨(source, index), ⟨found, same⟩, rfl⟩

theorem group_append (source : SourceCandidate) : group api (sources ++ [source]) key =
    group api sources key ++
      if sourceKey api source sources.length = key then [source] else [] := by
  rw [group, List.zipIdx_append, List.filter_append, List.map_append, group]
  congr 1
  by_cases same : sourceKey api source sources.length = key <;>
    simp [List.zipIdx_cons, same]

theorem mergeAll_append {list : List SourceCandidate} {merged : SourceCandidate}
    (before : mergeAll list = some merged) (source : SourceCandidate) :
    mergeAll (list ++ [source]) = some (mergeSources merged source) := by
  cases list with
  | nil => cases before
  | cons first list =>
      cases before
      rw [List.cons_append, mergeAll, List.foldl_concat]

/-- What the consolidation of these sources has. -/
structure Consolidated (api : UrlApi) (sources : List SourceCandidate) (state : Consolidation) :
    Prop where
  length_eq : state.remappedIndex.length = sources.length
  nodup : state.keys.Nodup
  size : state.consolidated.length = state.keys.length
  remapped : ∀ (index : Nat) (source : SourceCandidate), sources[index]? = some source →
    ∃ place : Nat, state.remappedIndex[index]? = some place ∧
      state.keys[place]? = some (sourceKey api source index)
  merged : ∀ (place : Nat) (key : String), state.keys[place]? = some key →
    state.consolidated[place]? = mergeAll (group api sources key)

theorem getElem?_append_some {α : Type} {list : List α} {place : Nat} {item : α}
    (found : list[place]? = some item) (others : List α) :
    (list ++ others)[place]? = some item := by
  rw [List.getElem?_append_left (List.getElem?_eq_some_iff.mp found).1]
  exact found

/-- The place of an item in a list with one more at its end. -/
theorem getElem?_concat {α : Type} {list : List α} {last item : α} {place : Nat}
    (found : (list ++ [last])[place]? = some item) :
    list[place]? = some item ∨ (place = list.length ∧ item = last) := by
  rw [List.getElem?_append] at found
  split at found
  · exact Or.inl found
  · obtain ⟨inside, rfl⟩ := List.getElem?_eq_some_iff.mp found
    rw [List.length_singleton] at inside
    refine Or.inr ⟨by omega, ?_⟩
    exact List.getElem_singleton _

theorem Consolidated.fresh {state : Consolidation} (held : Consolidated api sources state)
    {source : SourceCandidate} (absent : sourceKey api source sources.length ∉ state.keys) :
    Consolidated api (sources ++ [source])
      ⟨state.keys ++ [sourceKey api source sources.length], state.consolidated ++ [source],
        state.remappedIndex ++ [state.consolidated.length]⟩ where
  length_eq := by simp [held.length_eq]
  nodup := by
    refine List.nodup_append.mpr ⟨held.nodup, List.nodup_singleton _, ?_⟩
    intro key member other last
    rw [List.mem_singleton.mp last]
    exact ne_of_mem_of_not_mem member absent
  size := by simp [held.size]
  remapped index other found := by
    rcases getElem?_concat found with earlier | ⟨rfl, rfl⟩
    · obtain ⟨place, at', key_eq⟩ := held.remapped index other earlier
      exact ⟨place, getElem?_append_some at' _, getElem?_append_some key_eq _⟩
    · refine ⟨state.consolidated.length, ?_, ?_⟩
      · rw [← held.length_eq, List.getElem?_concat_length]
      · rw [held.size, List.getElem?_concat_length]
  merged place key found := by
    rw [group_append]
    rcases getElem?_concat found with earlier | ⟨rfl, rfl⟩
    · have other : sourceKey api source sources.length ≠ key :=
        fun same => absent (same ▸ List.mem_of_getElem? earlier)
      have inside : place < state.consolidated.length := by
        rw [held.size]
        exact (List.getElem?_eq_some_iff.mp earlier).1
      rw [if_neg other, List.append_nil, ← held.merged place key earlier,
        List.getElem?_append_left inside]
    · have alone : group api sources (sourceKey api source sources.length) = [] := by
        refine List.eq_nil_iff_forall_not_mem.mpr fun other member => absent ?_
        obtain ⟨index, found, same⟩ := mem_group.mp member
        obtain ⟨place, -, at'⟩ := held.remapped index other found
        rw [← same]
        exact List.mem_of_getElem? at'
      rw [alone, if_pos rfl, ← held.size, List.getElem?_concat_length]
      rfl

theorem Consolidated.known {state : Consolidation} (held : Consolidated api sources state)
    {source : SourceCandidate} {existingIndex : Nat}
    (known : state.keys[existingIndex]? = some (sourceKey api source sources.length)) :
    Consolidated api (sources ++ [source])
      ⟨state.keys, state.consolidated.modify existingIndex (mergeSources · source),
        state.remappedIndex ++ [existingIndex]⟩ where
  length_eq := by simp [held.length_eq]
  nodup := held.nodup
  size := by rw [List.length_modify, held.size]
  remapped index other found := by
    rcases getElem?_concat found with earlier | ⟨rfl, rfl⟩
    · obtain ⟨place, at', key_eq⟩ := held.remapped index other earlier
      exact ⟨place, getElem?_append_some at' _, key_eq⟩
    · refine ⟨existingIndex, ?_, known⟩
      rw [← held.length_eq, List.getElem?_concat_length]
  merged place key found := by
    have before := held.merged place key found
    have inside : place < state.keys.length := (List.getElem?_eq_some_iff.mp found).1
    rw [group_append, List.getElem?_modify, before]
    by_cases same : existingIndex = place
    · obtain rfl := same
      obtain rfl := Option.some.inj (known.symm.trans found)
      obtain ⟨merged, at'⟩ : ∃ merged, state.consolidated[existingIndex]? = some merged :=
        ⟨_, List.getElem?_eq_getElem (held.size ▸ inside)⟩
      rw [at'] at before
      rw [if_pos rfl, mergeAll_append before.symm, ← before]
      simp
    · have other : sourceKey api source sources.length ≠ key := by
        intro equal
        rw [equal, ← found] at known
        exact same ((List.getElem?_inj (List.getElem?_eq_some_iff.mp
          (known.trans found)).1 held.nodup).mp known)
      rw [if_neg other, List.append_nil]
      simp [same]

theorem Consolidated.add {state : Consolidation} (held : Consolidated api sources state)
    (source : SourceCandidate) :
    Consolidated api (sources ++ [source]) (state.add api source) := by
  unfold Consolidation.add
  rw [held.length_eq]
  dsimp only
  split
  · next absent => exact held.fresh (List.idxOf?_eq_none_iff.mp absent)
  · next existingIndex found =>
    obtain ⟨inside, same, -⟩ := List.idxOf?_eq_some_iff.mp found
    exact held.known (List.getElem?_eq_some_iff.mpr ⟨inside, same⟩)

theorem consolidated_sources (api : UrlApi) (sources : List SourceCandidate) :
    Consolidated api sources (consolidateSources api sources) := by
  induction sources using List.reverseRecOn with
  | nil =>
      exact ⟨rfl, List.nodup_nil, rfl, fun index source found => absurd found (by simp),
        fun place key found => absurd found (by simp [consolidateSources])⟩
  | append_singleton sources source inductionHypothesis =>
      rw [consolidateSources, List.foldl_concat]
      exact inductionHypothesis.add source

/-! ### Merged sources -/

theorem accepted_mergeSources (left right : SourceCandidate) :
    Accepted (mergeSources left right) ↔ Accepted left ∨ Accepted right := by
  have status : (mergeSources left right).status =
      some (if Accepted left ∨ Accepted right then .accepted else .discarded) := rfl
  by_cases either : Accepted left ∨ Accepted right
  · rw [if_pos either] at status
    exact iff_of_true (by rw [Accepted, status]; decide) either
  · rw [if_neg either] at status
    exact iff_of_false (by rw [Accepted, status]; decide) either

theorem accepted_mergeAll {list : List SourceCandidate} {merged : SourceCandidate}
    (made : mergeAll list = some merged) :
    Accepted merged ↔ ∃ source ∈ list, Accepted source := by
  cases list with
  | nil => cases made
  | cons first list =>
      cases made
      induction list generalizing first with
      | nil => simp
      | cons next list inductionHypothesis =>
          rw [List.foldl_cons, inductionHypothesis]
          simp only [List.exists_mem_cons_iff, accepted_mergeSources, or_assoc]

def isOwner (source : SourceCandidate) : Bool := source.sourceType == "owner_link"

/-- The source whose URL the others of its key are merged into: the first link of the owner, or
else the first. -/
def leader (list : List SourceCandidate) : Option SourceCandidate :=
  (list.find? isOwner).or list.head?

/-- A source merged into an owner's link, or into one where neither is. -/
theorem mergeSources_left {left right : SourceCandidate} (url : left.url.isSome = true)
    (owner : isOwner left = true ∨ isOwner right = false) :
    (mergeSources left right).url = left.url ∧
      isOwner (mergeSources left right) = isOwner left := by
  obtain ⟨text, at'⟩ := Option.isSome_iff_exists.mp url
  by_cases first : left.sourceType = "owner_link"
  · simp [mergeSources, isOwner, first, at']
  · have second : right.sourceType ≠ "owner_link" := by simpa [isOwner, first] using owner
    simp [mergeSources, isOwner, first, second, at']

/-- An owner's link merged into another source. -/
theorem mergeSources_right {left right : SourceCandidate} (url : right.url.isSome = true)
    (other : isOwner left = false) (owner : isOwner right = true) :
    (mergeSources left right).url = right.url ∧ isOwner (mergeSources left right) = true := by
  obtain ⟨text, at'⟩ := Option.isSome_iff_exists.mp url
  have first : left.sourceType ≠ "owner_link" := by simpa [isOwner] using other
  have second : right.sourceType = "owner_link" := by simpa [isOwner] using owner
  simp [mergeSources, isOwner, first, second, at']

theorem url_mergeAll {list : List SourceCandidate} {merged lead : SourceCandidate}
    (made : mergeAll list = some merged) (urls : ∀ source ∈ list, source.url.isSome = true)
    (leads : leader list = some lead) : merged.url = lead.url := by
  cases list with
  | nil => cases made
  | cons first list =>
      cases made
      induction list generalizing first lead with
      | nil =>
          have same : first = lead := by
            by_cases owner : isOwner first = true <;> simpa [leader, owner] using leads
          rw [same, List.foldl_nil]
      | cons next list inductionHypothesis =>
          have firstUrl := urls first List.mem_cons_self
          have nextUrl := urls next (List.mem_cons_of_mem _ List.mem_cons_self)
          have later (source : SourceCandidate) (member : source ∈ list) :=
            urls source (List.mem_cons_of_mem _ (List.mem_cons_of_mem _ member))
          -- The merged source leads the rest with the URL of the source that led before.
          have step : ∃ further, leader (mergeSources first next :: list) = some further ∧
              further.url = lead.url ∧ (mergeSources first next).url.isSome = true := by
            cases owner : isOwner first with
            | true =>
                obtain ⟨url, owns⟩ := mergeSources_left firstUrl (Or.inl owner)
                refine ⟨mergeSources first next, by simp [leader, owns, owner], ?_, url ▸ firstUrl⟩
                have same : first = lead := by simpa [leader, owner] using leads
                rw [url, same]
            | false =>
                cases second : isOwner next with
                | true =>
                    obtain ⟨url, owns⟩ := mergeSources_right nextUrl owner second
                    refine ⟨mergeSources first next, by simp [leader, owns], ?_, url ▸ nextUrl⟩
                    have same : next = lead := by simpa [leader, owner, second] using leads
                    rw [url, same]
                | false =>
                    obtain ⟨url, owns⟩ := mergeSources_left firstUrl (Or.inr second)
                    cases found : list.find? isOwner with
                    | some owned =>
                        have same : owned = lead := by
                          simpa [leader, owner, second, found] using leads
                        refine ⟨owned, by simp [leader, owns, owner, found], ?_, url ▸ firstUrl⟩
                        rw [same]
                    | none =>
                        have same : first = lead := by
                          simpa [leader, owner, second, found] using leads
                        refine ⟨mergeSources first next, ?_, ?_, url ▸ firstUrl⟩
                        · simp [leader, owns, owner, found]
                        · rw [url, same]
          obtain ⟨further, leading, url, present⟩ := step
          rw [List.foldl_cons, ← url]
          exact inductionHypothesis _ (List.forall_mem_cons.mpr ⟨present, later⟩) leading

end MarketMind.Discovery.Evidence
