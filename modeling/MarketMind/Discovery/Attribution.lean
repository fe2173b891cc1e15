import MarketMind.Discovery.Consolidation
import MarketMind.Steps

/-!
Owns the attribution of saved evidence: exactly when every observation of a run is linked to a row
of its source.

Does not own what an observation says.
-/

namespace MarketMind.Discovery.Evidence

/-! ### Gathering -/

/-- Each source has an observation at its place, which has the index of that place. -/
structure Aligned (first : Nat) (gathered : Gathered) : Prop where
  length_eq : gathered.observations.length = gathered.sources.length
  index_eq : ∀ (place : Nat) (observation : ObservationCandidate),
    gathered.observations[place]? = some observation →
      observation.sourceIndex = some (first + place)

theorem aligned_extract (links : List Link) : Aligned 0 (extract links) where
  length_eq := by simp [extract]
  index_eq place observation found := by
    simp only [extract, List.getElem?_map, List.getElem?_zipIdx, Option.map_map,
      Option.map_eq_some_iff] at found
    obtain ⟨link, -, rfl⟩ := found
    rfl

theorem aligned_triage {results : List SearchResult} {decisions : List Decision}
    {fetchedAt : String} {sourceStartIndex : Nat} {filtered : Gathered}
    (answered : triage results decisions fetchedAt sourceStartIndex = .ok filtered) :
    Aligned sourceStartIndex filtered := by
  obtain ⟨pairs, mapped, made⟩ := Steps.bind_eq_ok.mp answered
  cases made
  obtain ⟨-, each⟩ := List.forall₂_iff_get.mp (Steps.mapM_eq_ok.mp mapped)
  refine ⟨by simp, fun place observation found => ?_⟩
  rw [List.getElem?_map, Option.map_eq_some_iff] at found
  obtain ⟨pair, at', rfl⟩ := found
  obtain ⟨inside, rfl⟩ := List.getElem?_eq_some_iff.mp at'
  have within : place < results.zipIdx.length := by
    rw [(Steps.mapM_eq_ok.mp mapped).length_eq]
    exact inside
  have made := each place within inside
  rw [List.get_eq_getElem, List.get_eq_getElem, List.getElem_zipIdx, triageResult] at made
  split at made
  · cases made
  · rw [← Except.ok.inj made, Nat.zero_add]
    rfl

theorem Aligned.push {gathered more : Gathered} (aligned : Aligned 0 gathered) {reply : Reply}
    (pushed : gathered.push reply = .ok more) : Aligned 0 more := by
  cases reply with
  | failed error => cases pushed
  | answered results decisions fetchedAt =>
      obtain ⟨filtered, answered, made⟩ := Steps.bind_eq_ok.mp pushed
      cases made
      have further := aligned_triage answered
      constructor
      · rw [List.length_append, List.length_append, aligned.length_eq, further.length_eq]
      · intro place observation found
        rw [List.getElem?_append] at found
        split at found
        · exact aligned.index_eq place observation found
        · next beyond =>
          rw [further.index_eq _ observation found, ← aligned.length_eq]
          congr 1
          omega

theorem Aligned.pushAll {gathered : Gathered} (aligned : Aligned 0 gathered)
    (replies : List Reply) : Aligned 0 (pushAll gathered replies) := by
  induction replies generalizing gathered with
  | nil => exact aligned
  | cons reply replies inductionHypothesis =>
      rw [Evidence.pushAll]
      split
      · exact aligned
      · next more pushed => exact inductionHypothesis (aligned.push pushed)

theorem aligned_gathered (run : Run) : Aligned 0 run.gathered :=
  (aligned_extract run.links).pushAll _

/-! ### Rows -/

section Rows

variable {api : UrlApi} {refs : List SourceRef} {state : Saving}

/-- What the rows of these references have. -/
structure SavedRows (api : UrlApi) (refs : List SourceRef) (state : Saving) : Prop where
  rowId_eq : ∀ (place : Nat) (row : SourceRow), state.rows[place]? = some row → row.rowId = place
  linked : ∀ ref ∈ refs, ∃ row ∈ state.rows, state.byContractId.lookup ref.id = some row.rowId ∧
    (row.url = ref.url ∨ ∃ normalized, normalizeUrl api row.url = some normalized ∧
      normalizeUrl api ref.url = some normalized)
  origin : ∀ row ∈ state.rows, ∃ ref ∈ refs, row.url = ref.url ∧
    state.byContractId.lookup ref.id = some row.rowId
  normalized : ∀ ref ∈ refs, ∀ normalized, normalizeUrl api ref.url = some normalized →
    state.byNormalizedUrl.lookup normalized = state.byContractId.lookup ref.id
  stored : ∀ normalized rowId, state.byNormalizedUrl.lookup normalized = some rowId →
    ∃ row ∈ state.rows, row.rowId = rowId ∧ normalizeUrl api row.url = some normalized

theorem lookup_cons_ne {entries : List (String × Nat)} {key other : String} {value : Nat}
    (different : other ≠ key) : ((key, value) :: entries).lookup other = entries.lookup other := by
  rw [List.lookup_cons, beq_eq_false_iff_ne.mpr different]

theorem SavedRows.again (held : SavedRows api refs state) {ref : SourceRef}
    (fresh : ∀ other ∈ refs, other.id ≠ ref.id) {normalized : String} {existing : Nat}
    (known : normalizeUrl api ref.url = some normalized)
    (found : state.byNormalizedUrl.lookup normalized = some existing) :
    SavedRows api (refs ++ [ref])
      { state with byContractId := (ref.id, existing) :: state.byContractId } where
  rowId_eq := held.rowId_eq
  linked other member := by
    rcases List.mem_append.mp member with earlier | last
    · rw [lookup_cons_ne (fresh other earlier)]
      exact held.linked other earlier
    · rw [List.mem_singleton.mp last, List.lookup_cons_self]
      obtain ⟨row, inside, rfl, same⟩ := held.stored normalized existing found
      exact ⟨row, inside, rfl, Or.inr ⟨normalized, same, known⟩⟩
  origin row member := by
    obtain ⟨other, earlier, url, at'⟩ := held.origin row member
    refine ⟨other, List.mem_append_left _ earlier, url, ?_⟩
    rw [lookup_cons_ne (fresh other earlier)]
    exact at'
  normalized other member text same := by
    rcases List.mem_append.mp member with earlier | last
    · rw [lookup_cons_ne (fresh other earlier)]
      exact held.normalized other earlier text same
    · rw [List.mem_singleton.mp last] at same ⊢
      rw [List.lookup_cons_self, ← Option.some.inj (known.symm.trans same)]
      exact found
  stored := held.stored

theorem SavedRows.create (held : SavedRows api refs state) {ref : SourceRef}
    (fresh : ∀ other ∈ refs, other.id ≠ ref.id)
    (missing : ∀ normalized, normalizeUrl api ref.url = some normalized →
      state.byNormalizedUrl.lookup normalized = none) :
    SavedRows api (refs ++ [ref])
      { rows := state.rows ++ [{ ref.toSourceData with rowId := state.rows.length }]
        byContractId := (ref.id, state.rows.length) :: state.byContractId
        byNormalizedUrl :=
          ((normalizeUrl api ref.url).map fun url => (url, state.rows.length)).toList ++
            state.byNormalizedUrl } := by
  have newest : ({ ref.toSourceData with rowId := state.rows.length } : SourceRow) ∈
      state.rows ++ [{ ref.toSourceData with rowId := state.rows.length }] :=
    List.mem_append_right _ List.mem_cons_self
  have other_lookup (text : String) (different : normalizeUrl api ref.url ≠ some text) :
      (((normalizeUrl api ref.url).map fun url => (url, state.rows.length)).toList ++
        state.byNormalizedUrl).lookup text = state.byNormalizedUrl.lookup text := by
    cases known : normalizeUrl api ref.url with
    | none => rfl
    | some normalized =>
        exact lookup_cons_ne fun same => different (by rw [known, same])
  have own_lookup (text : String) (same : normalizeUrl api ref.url = some text) :
      (((normalizeUrl api ref.url).map fun url => (url, state.rows.length)).toList ++
        state.byNormalizedUrl).lookup text = some state.rows.length := by
    rw [same]
    exact List.lookup_cons_self
  constructor
  · intro place row found
    rcases getElem?_concat found with earlier | ⟨rfl, rfl⟩
    · exact held.rowId_eq place row earlier
    · rfl
  · intro other member
    rcases List.mem_append.mp member with earlier | last
    · rw [lookup_cons_ne (fresh other earlier)]
      obtain ⟨row, inside, rest⟩ := held.linked other earlier
      exact ⟨row, List.mem_append_left _ inside, rest⟩
    · rw [List.mem_singleton.mp last, List.lookup_cons_self]
      exact ⟨_, newest, rfl, Or.inl rfl⟩
  · intro row member
    rcases List.mem_append.mp member with earlier | last
    · obtain ⟨other, inside, url, at'⟩ := held.origin row earlier
      refine ⟨other, List.mem_append_left _ inside, url, ?_⟩
      rw [lookup_cons_ne (fresh other inside)]
      exact at'
    · rw [List.mem_singleton.mp last]
      exact ⟨ref, List.mem_append_right _ List.mem_cons_self, rfl, List.lookup_cons_self⟩
  · intro other member text same
    rcases List.mem_append.mp member with earlier | last
    · rw [lookup_cons_ne (fresh other earlier), ← held.normalized other earlier text same]
      refine other_lookup text fun own => ?_
      obtain ⟨row, -, at', -⟩ := held.linked other earlier
      rw [← held.normalized other earlier text same, missing text own] at at'
      cases at'
    · rw [List.mem_singleton.mp last] at same ⊢
      rw [List.lookup_cons_self, own_lookup text same]
  · intro text rowId found
    by_cases own : normalizeUrl api ref.url = some text
    · rw [own_lookup text own] at found
      exact ⟨_, newest, Option.some.inj found, own⟩
    · rw [other_lookup text own] at found
      obtain ⟨row, inside, rest⟩ := held.stored text rowId found
      exact ⟨row, List.mem_append_left _ inside, rest⟩

theorem SavedRows.add (held : SavedRows api refs state) {ref : SourceRef}
    (fresh : ∀ other ∈ refs, other.id ≠ ref.id) :
    SavedRows api (refs ++ [ref]) (state.add api ref) := by
  unfold Saving.add
  dsimp only
  split
  · next existing found =>
    obtain ⟨normalized, known, at'⟩ := Option.bind_eq_some_iff.mp found
    exact held.again fresh known at'
  · next missing =>
    refine held.create fresh fun normalized known => ?_
    rw [known] at missing
    exact missing

theorem savedRows_createSourceRefs (api : UrlApi) {refs : List SourceRef}
    (distinct : (refs.map (·.id)).Nodup) : SavedRows api refs (createSourceRefs api refs) := by
  induction refs using List.reverseRecOn with
  | nil =>
      constructor <;> simp [createSourceRefs]
  | append_singleton refs ref inductionHypothesis =>
      rw [List.map_append, List.nodup_append] at distinct
      rw [createSourceRefs, List.foldl_concat]
      refine (inductionHypothesis distinct.1).add fun other member => ?_
      exact distinct.2.2 other.id (List.mem_map_of_mem member) ref.id (by simp)

end Rows

/-! ### Attribution -/

section Attribution

variable (api : UrlApi) (run : Run)

/-- The consolidation key of a URL, if there is one. -/
def keyOf (url : Option String) : Option String := (url.filter (· ≠ "")).map (urlKey api)

/-- Evidence stays attributed to its source. -/
structure Attributed : Prop where
  linked : ∀ (place : Nat) (saved : ObservationRow), (run.save api).2[place]? = some saved →
    ∃ source, ∃ row ∈ (run.save api).1, run.gathered.sources[place]? = some source ∧
      saved.sourceRowId = some row.rowId ∧ keyOf api row.url = keyOf api source.url
  distinct : ∀ left ∈ (run.save api).1, ∀ right ∈ (run.save api).1,
    (keyOf api left.url).isSome = true → keyOf api left.url = keyOf api right.url → left = right
  represented : ∀ source ∈ run.gathered.sources, ∃ row ∈ (run.save api).1,
    keyOf api row.url = keyOf api source.url
  accepted : ∀ (place : Nat) (merged : SourceCandidate),
    (consolidateSources api run.gathered.sources).consolidated[place]? = some merged →
      (Accepted merged ↔ ∃ (index : Nat) (source : SourceCandidate),
        run.gathered.sources[index]? = some source ∧
        (consolidateSources api run.gathered.sources).remappedIndex[index]? = some place ∧
          Accepted source)

/-- No URL has the key that stands for a source without one. -/
def NoClash (sources : List SourceCandidate) : Prop :=
  ∀ (index other : Nat) (left right : SourceCandidate), sources[index]? = some left →
    sources[other]? = some right → keyOf api left.url = none →
      keyOf api right.url ≠ some (sourceKey api left index)

/-- The sources can be told apart: their keys do not clash, and of the sources that lead their keys
no two have the same URL for the repository. -/
structure Distinguished (sources : List SourceCandidate) : Prop where
  noClash : NoClash api sources
  apart : ∀ (key other : String) (left right : SourceCandidate) (normalized : String),
    leader (group api sources key) = some left → leader (group api sources other) = some right →
      normalizeUrl api left.url = some normalized →
        normalizeUrl api right.url = some normalized → key = other

variable {api run} {sources : List SourceCandidate}

theorem sourceKey_of_keyOf {source : SourceCandidate} {key : String}
    (known : keyOf api source.url = some key) (index : Nat) : sourceKey api source index = key := by
  obtain ⟨url, nonempty, rfl⟩ := Option.map_eq_some_iff.mp known
  rw [sourceKey, nonempty]

theorem normalizeUrl_none {url : Option String} (none' : keyOf api url = none) :
    normalizeUrl api url = none := by
  rw [normalizeUrl, Option.map_eq_none_iff.mp none']
  rfl

theorem isSome_of_keyOf {url : Option String} {key : String} (known : keyOf api url = some key) :
    url.isSome = true := by
  cases url with
  | none => cases known
  | some text => rfl

theorem refId_injective {left right : Nat} (same : refId left = refId right) : left = right := by
  have digits := congrArg String.toList same
  simp only [refId, String.toList_append, List.append_cancel_left_eq, Nat.toString_eq_repr,
    Nat.toList_repr] at digits
  have next : left + 1 = right + 1 := by
    rw [← @Nat.ofDigitChars_ten_toDigits (left + 1), digits, Nat.ofDigitChars_ten_toDigits]
  exact Nat.succ.inj next

/-- The references of a run. -/
def refsOf (api : UrlApi) (run : Run) : List SourceRef :=
  (toIntelligenceResult (consolidate api run.gathered)).1

def savingOf (api : UrlApi) (run : Run) : Saving := createSourceRefs api (refsOf api run)

theorem refsOf_getElem? (place : Nat) : (refsOf api run)[place]? =
    ((consolidateSources api run.gathered.sources).consolidated[place]?).map
      (toSourceRef · place) := by
  simp [refsOf, toIntelligenceResult, consolidate, List.getElem?_zipIdx, Function.comp_def]

theorem ids_nodup : ((refsOf api run).map (·.id)).Nodup := by
  rw [List.nodup_iff_getElem?_ne_getElem?]
  intro left right before inside same
  rw [List.length_map] at inside
  obtain ⟨first, firstAt⟩ : ∃ ref, (refsOf api run)[left]? = some ref :=
    ⟨_, List.getElem?_eq_getElem (before.trans inside)⟩
  obtain ⟨second, secondAt⟩ : ∃ ref, (refsOf api run)[right]? = some ref :=
    ⟨_, List.getElem?_eq_getElem inside⟩
  rw [List.getElem?_map, List.getElem?_map, firstAt, secondAt] at same
  rw [refsOf_getElem?, Option.map_eq_some_iff] at firstAt secondAt
  obtain ⟨_, -, rfl⟩ := firstAt
  obtain ⟨_, -, rfl⟩ := secondAt
  have equal := refId_injective (Option.some.inj same)
  omega

theorem savedRows (api : UrlApi) (run : Run) :
    SavedRows api (refsOf api run) (savingOf api run) :=
  savedRows_createSourceRefs api ids_nodup

theorem rowId_injective {left right : SourceRow} (first : left ∈ (run.save api).1)
    (second : right ∈ (run.save api).1) (same : left.rowId = right.rowId) : left = right := by
  obtain ⟨place, at'⟩ := List.mem_iff_getElem?.mp first
  obtain ⟨other, there⟩ := List.mem_iff_getElem?.mp second
  rw [(savedRows api run).rowId_eq place left at', (savedRows api run).rowId_eq other right there]
    at same
  rw [same, there] at at'
  exact (Option.some.inj at').symm

/-- The row an observation is linked to is that of the reference its place is mapped to. -/
def rowOf (api : UrlApi) (run : Run) (place : Nat) : Option Nat :=
  ((consolidateSources api run.gathered.sources).remappedIndex[place]?).bind fun index =>
    ((refsOf api run)[index]?).bind fun ref => (savingOf api run).byContractId.lookup ref.id

theorem sourceRowId_saved (place : Nat) :
    ((run.save api).2[place]?).map (·.sourceRowId) =
      (run.gathered.observations[place]?).map fun _ => rowOf api run place := by
  have aligned := (aligned_gathered run).index_eq place
  have saved : (run.save api).2 = createObservations
      ((consolidate api run.gathered).observations.map (toObservation (refsOf api run)))
      (savingOf api run).byContractId := rfl
  rw [saved, createObservations, consolidate]
  simp only [List.getElem?_map, Option.map_map]
  cases found : run.gathered.observations[place]? with
  | none => rfl
  | some observation =>
      have index := aligned observation found
      rw [Nat.zero_add] at index
      simp only [Option.map_some, Function.comp_apply, toObservation, index, Option.bind_some,
        rowOf, Option.bind_assoc, Option.bind_map]

/-- What becomes of the source at a place: the merged source of its key, the row that its
observation is linked to, and the observation. -/
theorem linked_place {place : Nat} {source : SourceCandidate}
    (found : run.gathered.sources[place]? = some source) :
    ∃ (merged : SourceCandidate) (row : SourceRow) (saved : ObservationRow),
      mergeAll (group api run.gathered.sources (sourceKey api source place)) = some merged ∧
        ((run.save api).2[place]? = some saved ∧ saved.sourceRowId = rowOf api run place) ∧
          (row ∈ (run.save api).1 ∧ rowOf api run place = some row.rowId) ∧
            (row.url = merged.url ∨ ∃ normalized, normalizeUrl api row.url = some normalized ∧
              normalizeUrl api merged.url = some normalized) ∧
            ∀ normalized, normalizeUrl api merged.url = some normalized →
              (savingOf api run).byNormalizedUrl.lookup normalized = rowOf api run place := by
  have held := consolidated_sources api run.gathered.sources
  obtain ⟨index, mapped, key⟩ := held.remapped place source found
  have inside : index < (consolidateSources api run.gathered.sources).consolidated.length := by
    rw [held.size]
    exact (List.getElem?_eq_some_iff.mp key).1
  obtain ⟨merged, at'⟩ : ∃ merged,
      (consolidateSources api run.gathered.sources).consolidated[index]? = some merged :=
    ⟨_, List.getElem?_eq_getElem inside⟩
  have ref : (refsOf api run)[index]? = some (toSourceRef merged index) := by
    rw [refsOf_getElem?, at']
    rfl
  obtain ⟨row, member, lookup, url⟩ := (savedRows api run).linked _ (List.mem_of_getElem? ref)
  have rowOf_eq : rowOf api run place =
      (savingOf api run).byContractId.lookup (toSourceRef merged index).id := by
    rw [rowOf, mapped, Option.bind_some, ref, Option.bind_some]
  have beside : place < run.gathered.observations.length := by
    rw [(aligned_gathered run).length_eq]
    exact (List.getElem?_eq_some_iff.mp found).1
  have linked := @sourceRowId_saved api run place
  rw [List.getElem?_eq_getElem beside, Option.map_some, Option.map_eq_some_iff] at linked
  obtain ⟨saved, there, rowId⟩ := linked
  refine ⟨merged, row, saved, (held.merged index _ key).symm.trans at', ⟨there, rowId⟩,
    ⟨member, rowOf_eq.trans lookup⟩, url, fun normalized known => ?_⟩
  rw [rowOf_eq]
  exact (savedRows api run).normalized _ (List.mem_of_getElem? ref) normalized known

/-- Sources of one key are mapped to one row. -/
theorem rowOf_eq_of_key {place other : Nat} {left right : SourceCandidate}
    (first : run.gathered.sources[place]? = some left)
    (second : run.gathered.sources[other]? = some right)
    (same : sourceKey api left place = sourceKey api right other) :
    rowOf api run place = rowOf api run other := by
  have held := consolidated_sources api run.gathered.sources
  obtain ⟨index, mapped, key⟩ := held.remapped place left first
  obtain ⟨further, mappedToo, keyToo⟩ := held.remapped other right second
  rw [same, ← keyToo] at key
  have inside : index < (consolidateSources api run.gathered.sources).keys.length :=
    (List.getElem?_eq_some_iff.mp (key.trans keyToo)).1
  rw [rowOf, rowOf, mapped, mappedToo, (List.getElem?_inj inside held.nodup).mp key]

theorem mem_group_of_leader {key : String} {lead : SourceCandidate}
    (leads : leader (group api sources key) = some lead) : lead ∈ group api sources key := by
  rcases Option.or_eq_some_iff.mp leads with found | ⟨-, first⟩
  · exact List.mem_of_find?_eq_some found
  · exact List.mem_of_mem_head? first

theorem exists_leader {list : List SourceCandidate} {source : SourceCandidate}
    (member : source ∈ list) : ∃ lead, leader list = some lead := by
  cases list with
  | nil => cases member
  | cons first list =>
      cases found : (first :: list).find? isOwner with
      | none => exact ⟨first, by simp [leader, found]⟩
      | some owner => exact ⟨owner, by simp [leader, found]⟩

theorem url_mergeSources (left right : SourceCandidate) :
    (mergeSources left right).url = left.url ∨ (mergeSources left right).url = right.url := by
  by_cases first : left.sourceType = "owner_link" <;>
    by_cases second : right.sourceType = "owner_link" <;>
      cases its : left.url <;> cases other : right.url <;>
        simp [mergeSources, first, second, its, other]

/-- A merged source has the URL of one of them. -/
theorem exists_url_mergeAll {list : List SourceCandidate} {merged : SourceCandidate}
    (made : mergeAll list = some merged) : ∃ source ∈ list, merged.url = source.url := by
  cases list with
  | nil => cases made
  | cons first list =>
      cases made
      induction list generalizing first with
      | nil => exact ⟨first, List.mem_cons_self, rfl⟩
      | cons next list inductionHypothesis =>
          obtain ⟨source, member, url⟩ := inductionHypothesis (mergeSources first next)
          rw [List.foldl_cons, url]
          rcases List.mem_cons.mp member with rfl | later
          · rcases url_mergeSources first next with same | same
            · exact ⟨first, List.mem_cons_self, same⟩
            · exact ⟨next, List.mem_cons_of_mem _ List.mem_cons_self, same⟩
          · exact ⟨source, List.mem_cons_of_mem _ (List.mem_cons_of_mem _ later), rfl⟩

/-- With no clash, a key that one source has by its URL is the key of all their URLs. -/
theorem keyOf_of_group {key known : String} (noClash : NoClash api sources)
    {source other : SourceCandidate} (member : source ∈ group api sources key)
    (url : keyOf api source.url = some known) (among : other ∈ group api sources key) :
    keyOf api other.url = some key := by
  obtain ⟨index, found, rfl⟩ := mem_group.mp member
  obtain ⟨further, there, same⟩ := mem_group.mp among
  rw [sourceKey_of_keyOf url index] at same ⊢
  cases its : keyOf api other.url with
  | none => exact absurd (by rw [url, same]) (noClash further index other source there found its)
  | some text => rw [← sourceKey_of_keyOf its further, same]

/-- With no clash, the merged source of such a key has the URL of its leader. -/
theorem leader_of_merged {key known : String} (noClash : NoClash api sources)
    {merged : SourceCandidate} (made : mergeAll (group api sources key) = some merged)
    (url : keyOf api merged.url = some known) :
    known = key ∧ ∃ lead, leader (group api sources key) = some lead ∧ merged.url = lead.url := by
  obtain ⟨source, member, same⟩ := exists_url_mergeAll made
  rw [same] at url
  have keys (other : SourceCandidate) (among : other ∈ group api sources key) :=
    keyOf_of_group noClash member url among
  obtain ⟨lead, leads⟩ := exists_leader member
  refine ⟨Option.some.inj (url.symm.trans (keys source member)), lead, leads, ?_⟩
  exact url_mergeAll made (fun other among => isSome_of_keyOf (keys other among)) leads

theorem keyOf_of_normalizeUrl {url : Option String} {normalized : String}
    (known : normalizeUrl api url = some normalized) : ∃ key, keyOf api url = some key := by
  cases its : keyOf api url with
  | none => rw [normalizeUrl_none its] at known; cases known
  | some key => exact ⟨key, rfl⟩

/-- A row comes from the merged source of one key. -/
theorem origin_of_row {row : SourceRow} (member : row ∈ (run.save api).1) :
    ∃ (index : Nat) (key : String) (merged : SourceCandidate),
      (consolidateSources api run.gathered.sources).keys[index]? = some key ∧
        mergeAll (group api run.gathered.sources key) = some merged ∧ row.url = merged.url ∧
          (savingOf api run).byContractId.lookup (refId index) = some row.rowId := by
  have held := consolidated_sources api run.gathered.sources
  obtain ⟨ref, among, url, lookup⟩ := (savedRows api run).origin row member
  obtain ⟨index, at'⟩ := List.mem_iff_getElem?.mp among
  rw [refsOf_getElem?, Option.map_eq_some_iff] at at'
  obtain ⟨merged, there, rfl⟩ := at'
  have inside : index < (consolidateSources api run.gathered.sources).keys.length := by
    rw [← held.size]
    exact (List.getElem?_eq_some_iff.mp there).1
  have key := List.getElem?_eq_getElem inside
  exact ⟨index, _, merged, key, (held.merged index _ key).symm.trans there, url, lookup⟩

/-! ### The two directions -/

theorem Attributed.row (attributed : Attributed api run) {place : Nat} {source : SourceCandidate}
    (found : run.gathered.sources[place]? = some source) :
    ∃ row ∈ (run.save api).1, rowOf api run place = some row.rowId ∧
      keyOf api row.url = keyOf api source.url := by
  obtain ⟨-, -, saved, -, ⟨at', linked⟩, -, -⟩ := @linked_place api run place source found
  obtain ⟨other, row, member, there, rowId, key⟩ := attributed.linked place saved at'
  rw [found] at there
  rw [Option.some.inj there]
  exact ⟨row, member, linked.symm.trans rowId, key⟩

/-- Observations that share a row have sources of one key. -/
theorem Attributed.keyOf_eq (attributed : Attributed api run) {place other : Nat}
    {left right : SourceCandidate} (first : run.gathered.sources[place]? = some left)
    (second : run.gathered.sources[other]? = some right)
    (same : rowOf api run place = rowOf api run other) :
    keyOf api left.url = keyOf api right.url := by
  obtain ⟨row, member, rowId, key⟩ := attributed.row first
  obtain ⟨further, among, rowIdToo, keyToo⟩ := attributed.row second
  have equal : row = further :=
    rowId_injective member among (Option.some.inj (rowId.symm.trans (same.trans rowIdToo)))
  rw [← key, equal, keyToo]

theorem Attributed.distinguished (attributed : Attributed api run) :
    Distinguished api run.gathered.sources := by
  have noClash : NoClash api run.gathered.sources := by
    intro index other left right first second none' clash
    have same := rowOf_eq_of_key first second (sourceKey_of_keyOf clash other).symm
    rw [attributed.keyOf_eq first second same, clash] at none'
    cases none'
  refine ⟨noClash, fun key other left right normalized leads leadsToo known knownToo => ?_⟩
  obtain ⟨place, first, rfl⟩ := mem_group.mp (mem_group_of_leader leads)
  obtain ⟨further, second, rfl⟩ := mem_group.mp (mem_group_of_leader leadsToo)
  have lookup (place : Nat) (source : SourceCandidate)
      (found : run.gathered.sources[place]? = some source)
      (leads : leader (group api run.gathered.sources (sourceKey api source place)) = some source)
      (known : normalizeUrl api source.url = some normalized) :
      (savingOf api run).byNormalizedUrl.lookup normalized = rowOf api run place := by
    obtain ⟨merged, -, -, made, -, -, -, looks⟩ := @linked_place api run place source found
    obtain ⟨key, its⟩ := keyOf_of_normalizeUrl known
    have urls (other : SourceCandidate)
        (among : other ∈ group api run.gathered.sources (sourceKey api source place)) :=
      isSome_of_keyOf (keyOf_of_group noClash (mem_group_of_leader leads) its among)
    exact looks normalized (by rw [url_mergeAll made urls leads, known])
  have same := attributed.keyOf_eq first second
    ((lookup place left first leads known).symm.trans
      (lookup further right second leadsToo knownToo))
  obtain ⟨key, its⟩ := keyOf_of_normalizeUrl known
  rw [sourceKey_of_keyOf its, sourceKey_of_keyOf (same ▸ its)]

theorem Distinguished.row (distinguished : Distinguished api run.gathered.sources) {place : Nat}
    {source : SourceCandidate} (found : run.gathered.sources[place]? = some source) :
    ∃ row ∈ (run.save api).1, rowOf api run place = some row.rowId ∧
      keyOf api row.url = keyOf api source.url := by
  obtain ⟨merged, row, -, made, -, ⟨member, rowId⟩, url, -⟩ :=
    @linked_place api run place source found
  refine ⟨row, member, rowId, ?_⟩
  have own : source ∈ group api run.gathered.sources (sourceKey api source place) :=
    mem_group.mpr ⟨place, found, rfl⟩
  have merged_key : keyOf api merged.url = keyOf api source.url := by
    obtain ⟨other, among, same⟩ := exists_url_mergeAll made
    rw [same]
    cases its : keyOf api source.url with
    | some key =>
        rw [keyOf_of_group distinguished.noClash own its among, sourceKey_of_keyOf its]
    | none =>
        obtain ⟨index, there, equal⟩ := mem_group.mp among
        cases theirs : keyOf api other.url with
        | none => rfl
        | some key =>
            refine absurd ?_ (distinguished.noClash place index source other found there its)
            rw [theirs, ← sourceKey_of_keyOf theirs index, equal]
  rcases url with same | ⟨normalized, first, second⟩
  · rw [same, merged_key]
  · obtain ⟨index, key, origin, -, madeToo, same, -⟩ := origin_of_row member
    obtain ⟨known, its⟩ := keyOf_of_normalizeUrl second
    obtain ⟨knownToo, theirs⟩ := keyOf_of_normalizeUrl first
    rw [same] at theirs first
    obtain ⟨rfl, lead, leads, url⟩ := leader_of_merged distinguished.noClash made its
    obtain ⟨rfl, other, leadsToo, urlToo⟩ := leader_of_merged distinguished.noClash madeToo theirs
    rw [url] at second
    rw [urlToo] at first
    rw [same, theirs, ← merged_key, its,
      distinguished.apart _ _ lead other normalized leads leadsToo second first]

theorem accepted_consolidated {place : Nat} {merged : SourceCandidate}
    (found : (consolidateSources api sources).consolidated[place]? = some merged) :
    Accepted merged ↔ ∃ (index : Nat) (source : SourceCandidate), sources[index]? = some source ∧
      (consolidateSources api sources).remappedIndex[index]? = some place ∧ Accepted source := by
  have held := consolidated_sources api sources
  have inside : place < (consolidateSources api sources).keys.length := by
    rw [← held.size]
    exact (List.getElem?_eq_some_iff.mp found).1
  have key := List.getElem?_eq_getElem inside
  rw [accepted_mergeAll ((held.merged place _ key).symm.trans found)]
  constructor
  · rintro ⟨source, member, accepted⟩
    obtain ⟨index, there, same⟩ := mem_group.mp member
    obtain ⟨other, mapped, keyToo⟩ := held.remapped index source there
    rw [same, ← key] at keyToo
    have equal : place = other := (List.getElem?_inj inside held.nodup).mp keyToo.symm
    exact ⟨index, source, there, equal ▸ mapped, accepted⟩
  · rintro ⟨index, source, there, mapped, accepted⟩
    obtain ⟨other, mappedToo, keyToo⟩ := held.remapped index source there
    rw [← Option.some.inj (mapped.symm.trans mappedToo), key] at keyToo
    exact ⟨source, mem_group.mpr ⟨index, there, (Option.some.inj keyToo).symm⟩, accepted⟩

theorem row_eq_of_key {left right : SourceRow} (first : left ∈ (run.save api).1)
    (second : right ∈ (run.save api).1) {key : String} (known : keyOf api left.url = some key)
    (same : keyOf api right.url = some key) : left = right := by
  have held := consolidated_sources api run.gathered.sources
  have key_of_row (row : SourceRow) (member : row ∈ (run.save api).1)
      (url : keyOf api row.url = some key) : ∃ index : Nat,
        (consolidateSources api run.gathered.sources).keys[index]? = some key ∧
          (savingOf api run).byContractId.lookup (refId index) = some row.rowId := by
    obtain ⟨index, its, merged, at', made, equal, lookup⟩ := origin_of_row member
    obtain ⟨source, among, from'⟩ := exists_url_mergeAll made
    obtain ⟨place, -, rfl⟩ := mem_group.mp among
    rw [equal, from'] at url
    rw [sourceKey_of_keyOf url] at at'
    exact ⟨index, at', lookup⟩
  obtain ⟨index, at', lookup⟩ := key_of_row left first known
  obtain ⟨other, there, lookupToo⟩ := key_of_row right second same
  have inside := (List.getElem?_eq_some_iff.mp at').1
  rw [(List.getElem?_inj inside held.nodup).mp (at'.trans there.symm), lookupToo] at lookup
  exact (rowId_injective second first (Option.some.inj lookup)).symm

theorem Distinguished.attributed (distinguished : Distinguished api run.gathered.sources) :
    Attributed api run where
  linked place saved found := by
    have linked := @sourceRowId_saved api run place
    rw [found, Option.map_some, eq_comm, Option.map_eq_some_iff] at linked
    obtain ⟨observation, at', rowId⟩ := linked
    have beside : place < run.gathered.sources.length := by
      rw [← (aligned_gathered run).length_eq]
      exact (List.getElem?_eq_some_iff.mp at').1
    obtain ⟨row, member, its, key⟩ := distinguished.row (List.getElem?_eq_getElem beside)
    exact ⟨_, row, member, List.getElem?_eq_getElem beside, rowId.symm.trans its, key⟩
  distinct left first right second some' same := by
    obtain ⟨key, known⟩ := Option.isSome_iff_exists.mp some'
    exact row_eq_of_key first second known (same ▸ known)
  represented source member := by
    obtain ⟨place, found⟩ := List.mem_iff_getElem?.mp member
    obtain ⟨row, among, -, key⟩ := distinguished.row found
    exact ⟨row, among, key⟩
  accepted _ _ found := accepted_consolidated found

end Attribution

/-! ### A text that is no URL -/

structure PlainUrl where
  hostname : String
  pathname : String
  search : String

/-- The URL class, for the texts of the run below. -/
def plainUrls : UrlApi where
  Url := PlainUrl
  parse value :=
    if value = "https://www.facebook.com/page?ref=1" then
      some ⟨"www.facebook.com", "/page", "?ref=1"⟩
    else none
  withoutHash url := url
  withoutSearch url := { url with search := "" }
  hostname url := url.hostname
  setHostname url hostname := { url with hostname }
  pathname url := url.pathname
  setPathname url pathname := { url with pathname }
  href url := "https://" ++ url.hostname ++ url.pathname ++ url.search
  toLowerCase value := String.ofList (value.toList.map Char.toLower)

def pageResult (rank : Nat) (url : String) : SearchResult :=
  ⟨"duckduckgo", some "Page", some url, none, rank, "page", []⟩

def pageDecision (index : Nat) : Decision :=
  ⟨index, .ownBusiness, .confirmedSignal, 9 / 10, "The page of the business.", [], none, none⟩

/-- The same page twice, the first time behind a no-break space. -/
def pageRun : Run where
  links := []
  queries :=
    [⟨1, .answered
      [pageResult 1 "\u00a0https://www.facebook.com/page?ref=1",
        pageResult 2 "https://www.facebook.com/page?ref=1"]
      [pageDecision 0, pageDecision 1] "2026-01-01T00:00:00.000Z"⟩]
  social := .answered [] [] "2026-01-01T00:00:00.000Z"

def pageSource (rank : Nat) (url : String) (index : Nat) : SourceCandidate :=
  sourceCandidate (pageResult rank url) (pageDecision index) "2026-01-01T00:00:00.000Z"

end MarketMind.Discovery.Evidence
