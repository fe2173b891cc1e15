import MarketMind.Knowledge.OneBadEntry

/-!
Owns what holds of the entries in every state that the knowledge base reaches, whatever fails on the
way: the versions of an entry have numbers of their own, and the stored chunks identifiers of their
own.
-/

namespace MarketMind.Knowledge

variable {settings : Settings} {run : Run} {faults : Faults} {parsed : ParsedKnowledgeEntry}
  {db after : Database} {slug : String} {entry : MarketingKnowledgeEntry}

structure WellFormed (db : Database) : Prop where
  numbered : ∀ slug, ((db.versionsOf slug).map (·.version)).Nodup
  positive : ∀ slug, ∀ version ∈ db.versionsOf slug, 0 < version.version
  unique : ∀ {slug other number position chunk stored}, Stored db slug number chunk →
    Stored db other position stored → chunk.chunkId = stored.chunkId →
      slug = other ∧ number = position ∧ chunk = stored

/-! ### Statements that keep numbers and chunks -/

/-- The number of a version and its chunks. -/
def skeleton (version : MarketingKnowledgeEntryVersion) : Nat × List MarketingKnowledgeChunk :=
  (version.version, version.chunks)

/-- No version is added or removed, and no chunk. -/
def SameSkeletons (db after : Database) : Prop :=
  ∀ slug, (after.versionsOf slug).map skeleton = (db.versionsOf slug).map skeleton

theorem exists_of_skeletons {versions others : List MarketingKnowledgeEntryVersion}
    (same : versions.map skeleton = others.map skeleton)
    {version : MarketingKnowledgeEntryVersion} (member : version ∈ versions) :
    ∃ other ∈ others, other.version = version.version ∧ other.chunks = version.chunks := by
  have among : skeleton version ∈ others.map skeleton := same ▸ List.mem_map_of_mem member
  obtain ⟨other, listed, equal⟩ := List.mem_map.mp among
  exact ⟨other, listed, congrArg Prod.fst equal, congrArg Prod.snd equal⟩

theorem SameSkeletons.stored (same : SameSkeletons db after) {number : Nat}
    {chunk : MarketingKnowledgeChunk} (stands : Stored after slug number chunk) :
    Stored db slug number chunk := by
  obtain ⟨version, member, numbered, among⟩ := stands
  obtain ⟨other, listed, sameNumber, sameChunks⟩ := exists_of_skeletons (same slug) member
  exact ⟨other, listed, sameNumber.trans numbered, sameChunks ▸ among⟩

theorem WellFormed.of_sameSkeletons (wellFormed : WellFormed db) (same : SameSkeletons db after) :
    WellFormed after := by
  refine ⟨fun slug => ?_, fun slug version member => ?_, fun one two equal => ?_⟩
  · have numbers := congrArg (List.map Prod.fst) (same slug)
    rw [List.map_map, List.map_map] at numbers
    change (after.versionsOf slug).map (·.version) = (db.versionsOf slug).map (·.version) at numbers
    rw [numbers]
    exact wellFormed.numbered slug
  · obtain ⟨other, listed, sameNumber, -⟩ := exists_of_skeletons (same slug) member
    exact sameNumber ▸ wellFormed.positive slug other listed
  · exact wellFormed.unique (same.stored one) (same.stored two) equal

theorem sameSkeletons_of_find {change : MarketingKnowledgeEntry → MarketingKnowledgeEntry}
    (found : ∀ other, after.find other =
      if other = slug then (db.find other).map change else db.find other)
    (same : ∀ entry, (change entry).versions.map skeleton = entry.versions.map skeleton) :
    SameSkeletons db after := by
  intro other
  unfold Database.versionsOf
  rw [found]
  split
  · cases db.find other with
    | none => rfl
    | some entry => exact same entry
  · rfl

theorem skeletons_setVersion {number : Nat}
    {change : MarketingKnowledgeEntryVersion → MarketingKnowledgeEntryVersion}
    (same : ∀ version, skeleton (change version) = skeleton version)
    (entry : MarketingKnowledgeEntry) :
    (entry.setVersion number change).versions.map skeleton = entry.versions.map skeleton := by
  unfold MarketingKnowledgeEntry.setVersion
  rw [List.map_map]
  refine List.map_congr_left fun version _ => ?_
  dsimp only [Function.comp_apply]
  split
  · exact same version
  · rfl

/-! ### Statements that add a version or a chunk -/

theorem wellFormed_createEntry (wellFormed : WellFormed db) (slug : String) :
    WellFormed (db.createEntry slug) := by
  refine wellFormed.of_sameSkeletons fun other => ?_
  unfold Database.versionsOf
  rw [db.find_createEntry]
  split
  · next same =>
    rw [same]
    cases db.find slug <;> rfl
  · rfl

theorem numbers_of_skeletons (versions : List MarketingKnowledgeEntryVersion) :
    versions.map (·.version) = (versions.map skeleton).map Prod.fst := by
  rw [List.map_map]
  rfl

/-- A version with a new number and without chunks. -/
theorem WellFormed.of_added (wellFormed : WellFormed db) {number : Nat}
    (here : (after.versionsOf slug).map skeleton =
      (db.versionsOf slug).map skeleton ++ [(number, [])])
    (others : ∀ other ≠ slug,
      (after.versionsOf other).map skeleton = (db.versionsOf other).map skeleton)
    (fresh : number ∉ (db.versionsOf slug).map (·.version)) (positive : 0 < number) :
    WellFormed after := by
  have known : ∀ other, ∀ version ∈ after.versionsOf other,
      (∃ previous ∈ db.versionsOf other,
        previous.version = version.version ∧ previous.chunks = version.chunks) ∨
      version.version = number ∧ version.chunks = [] := by
    intro other version member
    by_cases same : other = slug
    · subst same
      have among : skeleton version ∈ (db.versionsOf other).map skeleton ++ [(number, [])] :=
        here ▸ List.mem_map_of_mem member
      rcases List.mem_append.mp among with kept | added
      · obtain ⟨previous, listed, equal⟩ := List.mem_map.mp kept
        exact Or.inl ⟨previous, listed, congrArg Prod.fst equal, congrArg Prod.snd equal⟩
      · have equal := List.mem_singleton.mp added
        exact Or.inr ⟨congrArg Prod.fst equal, congrArg Prod.snd equal⟩
    · exact Or.inl (exists_of_skeletons (others other same) member)
  have stored : ∀ {other position chunk}, Stored after other position chunk →
      Stored db other position chunk := by
    rintro other position chunk ⟨version, member, numbered, stands⟩
    rcases known other version member with ⟨previous, listed, same, chunks⟩ | ⟨-, empty⟩
    · exact ⟨previous, listed, same.trans numbered, chunks ▸ stands⟩
    · rw [empty] at stands
      cases stands
  refine ⟨fun other => ?_, fun other version member => ?_, fun one two equal =>
    wellFormed.unique (stored one) (stored two) equal⟩
  · rw [numbers_of_skeletons]
    by_cases same : other = slug
    · rw [same, here, List.map_append, ← numbers_of_skeletons]
      exact (wellFormed.numbered slug).append (List.nodup_singleton _) (by simpa using fresh)
    · rw [others other same, ← numbers_of_skeletons]
      exact wellFormed.numbered other
  · rcases known other version member with ⟨previous, listed, same, -⟩ | ⟨same, -⟩
    · exact same ▸ wellFormed.positive other previous listed
    · exact same ▸ positive

/-- The same of a change of one entry. -/
theorem WellFormed.of_changed (wellFormed : WellFormed db) {number : Nat}
    {change : MarketingKnowledgeEntry → MarketingKnowledgeEntry}
    (found : ∀ other, after.find other =
      if other = slug then (db.find other).map change else db.find other)
    (added : ∀ entry, db.find slug = some entry →
      (change entry).versions.map skeleton = entry.versions.map skeleton ++ [(number, [])] ∧
        number ∉ entry.versions.map (·.version))
    (positive : 0 < number) : WellFormed after := by
  have others : ∀ other ≠ slug,
      (after.versionsOf other).map skeleton = (db.versionsOf other).map skeleton := by
    intro other apart
    rw [versionsOf_congr ((found other).trans (if_neg apart))]
  have here := (found slug).trans (if_pos rfl)
  cases present : db.find slug with
  | none =>
      refine wellFormed.of_sameSkeletons fun other => ?_
      by_cases same : other = slug
      · rw [same, Database.versionsOf, here, present, Database.versionsOf, present]
        rfl
      · exact others other same
  | some entry =>
      obtain ⟨appended, fresh⟩ := added entry present
      rw [present, Option.map_some] at here
      refine wellFormed.of_added ?_ others ?_ positive
      · rw [versionsOf_of_find here, versionsOf_of_find present]
        exact appended
      · rwa [versionsOf_of_find present]

theorem numbers_setVersion {number : Nat}
    {change : MarketingKnowledgeEntryVersion → MarketingKnowledgeEntryVersion}
    (same : ∀ version, (change version).version = version.version)
    (entry : MarketingKnowledgeEntry) :
    (entry.setVersion number change).versions.map (·.version) =
      entry.versions.map (·.version) := by
  unfold MarketingKnowledgeEntry.setVersion
  rw [List.map_map]
  refine List.map_congr_left fun version _ => ?_
  dsimp only [Function.comp_apply]
  split
  · exact same version
  · rfl

theorem numbers_addChunk {number : Nat} {chunk : MarketingKnowledgeChunk} (other : String) :
    ((addChunk slug number chunk db).versionsOf other).map (·.version) =
      (db.versionsOf other).map (·.version) := by
  unfold Database.versionsOf
  rw [find_addChunk]
  split
  · cases db.find other with
    | none => rfl
    | some entry =>
        show (entry.setVersion number (·.addChunks [chunk])).versions.map (·.version) =
          entry.versions.map (·.version)
        refine numbers_setVersion ?_ entry
        exact fun _ => rfl
  · rfl

/-- A chunk that the constraints accept. -/
theorem wellFormed_addChunk (wellFormed : WellFormed db) {number : Nat}
    {chunk : MarketingKnowledgeChunk} (accepted : accepts db slug number chunk = true) :
    WellFormed (addChunk slug number chunk db) := by
  have apart : ∀ {other position stored}, Stored db other position stored →
      stored.chunkId ≠ chunk.chunkId := fun stands same =>
    (accepts_iff.mp accepted).1 _ (mem_chunks.mpr ⟨_, _, stands⟩) (Or.inl same)
  refine ⟨fun other => ?_, fun other version member => ?_, fun one two same => ?_⟩
  · rw [numbers_addChunk]
    exact wellFormed.numbered other
  · have listed : version.version ∈ (db.versionsOf other).map (·.version) := by
      rw [← numbers_addChunk]
      exact List.mem_map_of_mem member
    obtain ⟨previous, among, same⟩ := List.mem_map.mp listed
    exact same ▸ wellFormed.positive other previous among
  · rcases of_stored_addChunk one with first | ⟨rfl, rfl, rfl⟩ <;>
      rcases of_stored_addChunk two with second | ⟨rfl, rfl, rfl⟩
    · exact wellFormed.unique first second same
    · exact absurd same (apart first)
    · exact absurd same.symm (apart second)
    · exact ⟨rfl, rfl, rfl⟩

theorem wellFormed_insertChunks {number : Nat} {chunks : List MarketingKnowledgeChunk}
    (inserted : insertChunks slug number chunks db = .ok after) (wellFormed : WellFormed db) :
    WellFormed after := by
  induction chunks generalizing db with
  | nil =>
      cases inserted
      exact wellFormed
  | cons chunk rest inductionHypothesis =>
      rw [insertChunks] at inserted
      split at inserted
      · next accepted =>
        exact inductionHypothesis inserted (wellFormed_addChunk wellFormed accepted)
      · cases inserted

/-! ### Persisting an entry -/

/-- What keeps the entries well formed. -/
def Keeps (db after : Database) : Prop := WellFormed db → WellFormed after

theorem Keeps.refl (db : Database) : Keeps db db := id

theorem Keeps.trans (first second third : Database) (one : Keeps first second)
    (two : Keeps second third) : Keeps first third := two ∘ one

theorem keeps_of_sameSkeletons (same : SameSkeletons db after) : Keeps db after :=
  fun wellFormed => wellFormed.of_sameSkeletons same

theorem skeletons_retirePrevious (number : Nat) (entry : MarketingKnowledgeEntry) :
    (entry.retirePrevious number).versions.map skeleton = entry.versions.map skeleton := by
  unfold MarketingKnowledgeEntry.retirePrevious
  rw [List.map_map]
  refine List.map_congr_left fun version _ => ?_
  dsimp only [Function.comp_apply]
  split <;> rfl

theorem keeps_completeVersion (previous : Option Nat) (number : Nat) :
    Persist.Relates Keeps (completeVersion settings faults parsed previous number) := by
  have retires : Persist.Relates Keeps
      (writing faults .retirePreviousVersions fun db =>
        .ok (retirePreviousVersions parsed.slug number db)) := by
    refine relates_writing Keeps.refl _ fun db after written => ?_
    cases written
    exact keeps_of_sameSkeletons (sameSkeletons_of_find
      (fun other => find_retirePreviousVersions number) (skeletons_retirePrevious number))
  unfold completeVersion
  refine Persist.relates_bind Keeps.trans ?_ fun _ => Persist.relates_bind Keeps.trans ?_ fun _ =>
    Persist.relates_bind Keeps.trans ?_ fun _ => ?_
  · refine relates_writing Keeps.refl _ fun db after written => ?_
    cases written
    exact keeps_of_sameSkeletons (sameSkeletons_of_find
      (fun other => find_createSourceRefs number parsed.sourceReferences)
      (skeletons_setVersion fun _ => rfl))
  · exact relates_writing Keeps.refl _ fun db after written => wellFormed_insertChunks written
  · refine relates_writing Keeps.refl _ fun db after written => ?_
    cases written
    exact keeps_of_sameSkeletons (sameSkeletons_of_find
      (fun other => find_updateEntryLatestVersion number) fun _ => rfl)
  · dsimp only
    split
    · exact Persist.relates_bind Keeps.trans (Persist.relates_pure Keeps.refl _) fun _ =>
        Persist.relates_bind Keeps.trans retires fun _ => Persist.relates_pure Keeps.refl _
    · exact Persist.relates_bind Keeps.trans (relates_reading Keeps.refl _ _) fun _ =>
        Persist.relates_bind Keeps.trans retires fun _ => Persist.relates_pure Keeps.refl _

theorem keeps_previousVersion :
    Persist.Relates Keeps (previousVersion faults slug) := by
  unfold previousVersion
  refine Persist.relates_bind Keeps.trans (relates_reading Keeps.refl _ _) fun entry => ?_
  cases entry with
  | none =>
      refine Persist.relates_bind Keeps.trans ?_ fun _ => Persist.relates_pure Keeps.refl _
      refine relates_writing Keeps.refl _ fun db after written => ?_
      cases written
      exact fun wellFormed => wellFormed_createEntry wellFormed slug
  | some entry =>
      exact Persist.relates_bind Keeps.trans (relates_reading Keeps.refl _ _) fun _ =>
        Persist.relates_pure Keeps.refl _

theorem keeps_persistEntry : Persist.Relates Keeps (persistEntry settings faults parsed) := by
  unfold persistEntry
  refine Persist.relates_bind Keeps.trans keeps_previousVersion fun previous =>
    Persist.relates_bind Keeps.trans ?_ fun _ => keeps_completeVersion previous _
  refine relates_writing Keeps.refl _ fun db after written wellFormed => ?_
  have fresh : previous.getD 0 + 1 ∉ (db.versionsOf parsed.slug).map (·.version) := by
    intro used
    rw [createVersion, if_pos used] at written
    cases written
  refine wellFormed.of_changed (find_createVersion written) (fun entry found => ⟨?_, ?_⟩)
    (Nat.succ_pos (previous.getD 0))
  · exact List.map_append
  · rwa [versionsOf_of_find found] at fresh

/-! ### Steps -/

theorem keeps_persistAll {faults : String → Faults} {entries : List ParsedKnowledgeEntry}
    {progress last : Progress} (ran : persistAll settings faults entries progress = some last) :
    Keeps progress.db last.db := by
  induction entries generalizing progress with
  | nil =>
      cases ran
      exact Keeps.refl _
  | cons parsed rest inductionHypothesis =>
      obtain ⟨next, first, others⟩ := Option.bind_eq_some_iff.mp ran
      refine Keeps.trans _ _ _ ?_ (inductionHypothesis others)
      have kept : Keeps progress.db
          (persistEntry settings (faults parsed.slug) parsed progress.db).2 :=
        keeps_persistEntry progress.db
      unfold persistOne at first
      split at first
      · next outcome after same =>
        cases first
        rwa [same] at kept
      · next after same =>
        cases first
        rwa [same] at kept
      · cases first

theorem skeletons_remove (slugs : List String) (entry : MarketingKnowledgeEntry) :
    (entry.remove slugs).versions.map skeleton = entry.versions.map skeleton := by
  unfold MarketingKnowledgeEntry.remove
  split
  · rfl
  · refine skeletons_setVersion ?_ entry
    exact fun _ => rfl

theorem sameSkeletons_retireRemovedEntries (slugs : List String) :
    SameSkeletons db (retireRemovedEntries slugs db).2 := by
  intro slug
  unfold Database.versionsOf
  rw [find_retireRemovedEntries]
  cases db.find slug with
  | none => rfl
  | some entry =>
      exact skeletons_remove slugs entry

theorem keeps_ingestDatabase {progress : Progress}
    (ran : ingestDatabase settings run db = some progress) : Keeps db progress.db := by
  obtain ⟨persisted, all, rfl⟩ := Option.map_eq_some_iff.mp ran
  refine Keeps.trans _ _ _ (keeps_persistAll all) ?_
  unfold retireRemoved
  split
  · exact Keeps.refl _
  · exact keeps_of_sameSkeletons (sameSkeletons_retireRemovedEntries run.corpus.slugs)

theorem skeletons_supersede (dto : CreateEntryVersionDto) (entry : MarketingKnowledgeEntry) :
    (entry.supersede dto).versions.map skeleton =
      entry.versions.map skeleton ++ [(entry.latestVersion + 1, [])] := by
  unfold MarketingKnowledgeEntry.supersede
  show ((ite _ _ _ : MarketingKnowledgeEntry).versions ++ [_]).map skeleton = _
  rw [List.map_append]
  congr 1
  split
  · unfold MarketingKnowledgeEntry.retireApproved
    rw [List.map_map]
    refine List.map_congr_left fun version _ => ?_
    dsimp only [Function.comp_apply]
    split <;> rfl
  · rfl

theorem keeps_createNewVersion (dto : CreateEntryVersionDto) :
    Keeps db (createNewVersion dto db) := by
  intro wellFormed
  have upserted := wellFormed_createEntry wellFormed dto.slug
  unfold createNewVersion
  dsimp only
  split
  · exact wellFormed
  · next entry found =>
    split
    · exact wellFormed
    · next fresh =>
      have changed := @Database.find_modify (·.supersede dto)
        (fun entry => entry.slug_supersede dto) (db.createEntry dto.slug) dto.slug
      refine upserted.of_changed changed (fun same present => ?_) (Nat.succ_pos entry.latestVersion)
      rw [found] at present
      cases present
      exact ⟨skeletons_supersede dto entry, fresh⟩

/-- The entries are well formed after every step. -/
theorem wellFormed_apply (state : State) (step : Step) (wellFormed : WellFormed state.db) :
    WellFormed (step.apply settings state).db := by
  cases step with
  | ingest run =>
      change WellFormed (ingest settings run state).1.db
      unfold ingest
      split
      · exact wellFormed
      · next progress database => exact keeps_ingestDatabase database wellFormed
  | rebuild faults => exact wellFormed
  | createNewVersion dto => exact keeps_createNewVersion dto wellFormed

theorem wellFormed_empty : WellFormed Database.empty := by
  refine ⟨fun slug => List.nodup_nil, fun slug version member => ?_, ?_⟩
  · cases member
  · rintro slug other number position chunk stored ⟨version, member, -⟩
    cases member

end MarketMind.Knowledge
