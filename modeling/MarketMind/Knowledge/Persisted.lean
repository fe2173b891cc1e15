import MarketMind.Knowledge.Ingestion

/-!
Owns what the statements of the ingestion make of the entries: which entry a statement changes, and
what an entry is after it has been persisted.
-/

namespace MarketMind.Knowledge

open Rag (ReviewStatus)

variable {settings : Settings} {faults : Faults} {parsed : ParsedKnowledgeEntry}
  {db after : Database} {slug other : String} {entry : MarketingKnowledgeEntry}

/-! ### Entries under their slugs -/

namespace Database

theorem slug_of_find (found : db.find slug = some entry) : entry.slug = slug := by
  simpa using List.find?_some found

theorem mem_of_find (found : db.find slug = some entry) : entry ∈ db.entries :=
  List.mem_of_find?_eq_some found

theorem find_of_mem (member : entry ∈ db.entries) : db.find entry.slug = some entry := by
  obtain ⟨entries, distinct⟩ := db
  unfold find
  induction entries with
  | nil => cases member
  | cons head rest inductionHypothesis =>
      rw [List.map_cons, List.nodup_cons] at distinct
      rcases List.mem_cons.mp member with rfl | later
      · exact List.find?_cons_of_pos (by simp)
      · have apart : head.slug ≠ entry.slug := by
          intro same
          exact distinct.1 (same ▸ List.mem_map_of_mem later)
        rw [List.find?_cons_of_neg (by simpa using apart)]
        exact inductionHypothesis distinct.2 later

theorem find_mapEntries {change : MarketingKnowledgeEntry → MarketingKnowledgeEntry}
    {sameSlug : ∀ entry, (change entry).slug = entry.slug} (db : Database) (slug : String) :
    (db.mapEntries change sameSlug).find slug = (db.find slug).map change := by
  unfold find mapEntries
  rw [List.find?_map]
  simp only [Function.comp_def, sameSlug]

theorem find_modify {change : MarketingKnowledgeEntry → MarketingKnowledgeEntry}
    {sameSlug : ∀ entry, (change entry).slug = entry.slug} (db : Database) (slug other : String) :
    (db.modify slug change sameSlug).find other =
      if other = slug then (db.find other).map change else db.find other := by
  rw [modify, find_mapEntries]
  cases found : db.find other with
  | none => simp
  | some entry =>
      have named := slug_of_find found
      split
      · next same => simp [named, same]
      · next apart => simp [named, apart]

theorem find_createEntry (db : Database) (slug other : String) :
    (db.createEntry slug).find other =
      if other = slug then some ((db.find slug).getD ⟨slug, 0, []⟩) else db.find other := by
  by_cases used : slug ∈ db.entries.map (·.slug)
  · obtain ⟨entry, member, rfl⟩ := List.mem_map.mp used
    have found := find_of_mem member
    rw [createEntry, dif_neg (not_not_intro used), found]
    split
    · next same => rw [same, found]; rfl
    · rfl
  · have absent : db.find slug = none := by
      refine List.find?_eq_none.mpr fun entry member same => used ?_
      exact List.mem_map.mpr ⟨entry, member, of_decide_eq_true same⟩
    rw [createEntry, dif_pos used]
    unfold find at absent ⊢
    rw [List.find?_append]
    split
    · next same => rw [same, absent]; simp
    · next apart => simp [Ne.symm apart]

end Database

/-! ### Statements -/

namespace Persist

variable {α β : Type}

/-- What has been written so far, whether the program fails or not. -/
def Relates (R : Database → Database → Prop) (program : Persist α) : Prop :=
  ∀ db, R db (program db).2

variable {R : Database → Database → Prop}

theorem relates_pure (refl : ∀ db, R db db) (value : α) : Relates R (pure value : Persist α) := refl

theorem bind_ok {program : Persist α} {next : α → Persist β} {value : α}
    (ran : program db = (.ok value, after)) : (program >>= next) db = next value after := by
  simp only [bind, ran]

theorem bind_error {program : Persist α} {next : α → Persist β} {failure : Failure}
    (failed : program db = (.error failure, after)) :
    (program >>= next) db = (.error failure, after) := by
  simp only [bind, failed]

theorem relates_bind (trans : ∀ first second third, R first second → R second third → R first third)
    {program : Persist α} {next : α → Persist β} (first : Relates R program)
    (second : ∀ value, Relates R (next value)) : Relates R (program >>= next) := by
  intro db
  have between := first db
  rcases ran : program db with ⟨failure | value, after⟩ <;> rw [ran] at between
  · rw [bind_error ran]
    exact between
  · rw [bind_ok ran]
    exact trans _ _ _ between (second value after)

theorem ok_of_bind {program : Persist α} {next : α → Persist β} {value : β}
    (ran : (program >>= next) db = (.ok value, after)) :
    ∃ first between,
      program db = (.ok first, between) ∧ next first between = (.ok value, after) := by
  rcases same : program db with ⟨failure | first, between⟩
  · rw [bind_error same] at ran
    cases ran
  · rw [bind_ok same] at ran
    exact ⟨first, between, rfl, ran⟩

theorem ok_of_pure {value given : α} (ran : (pure given : Persist α) db = (.ok value, after)) :
    given = value ∧ db = after := by
  cases ran
  exact ⟨rfl, rfl⟩

end Persist

theorem ok_of_reading {α : Type} {which : PersistStatement} {read : Database → α} {value : α}
    (ran : reading faults which read db = (.ok value, after)) : read db = value ∧ db = after := by
  unfold reading statement at ran
  split at ran
  · cases ran
  · cases ran
    exact ⟨rfl, rfl⟩

theorem ok_of_writing {which : PersistStatement} {write : Database → Except Failure Database}
    (ran : writing faults which write db = (.ok (), after)) : write db = .ok after := by
  unfold writing statement at ran
  split at ran
  · cases ran
  · dsimp only at ran
    cases written : write db with
    | error failure =>
        rw [written] at ran
        cases ran
    | ok between =>
        rw [written] at ran
        cases ran
        rfl

theorem relates_reading {α : Type} {R : Database → Database → Prop} (refl : ∀ db, R db db)
    (which : PersistStatement) (read : Database → α) :
    Persist.Relates R (reading faults which read) := by
  intro db
  unfold reading statement
  split <;> exact refl db

theorem relates_writing {R : Database → Database → Prop} (refl : ∀ db, R db db)
    (which : PersistStatement) {write : Database → Except Failure Database}
    (keeps : ∀ db after, write db = .ok after → R db after) :
    Persist.Relates R (writing faults which write) := by
  intro db
  unfold writing statement
  split
  · exact refl db
  · dsimp only
    cases written : write db with
    | error failure => exact refl db
    | ok after => exact keeps db after written

/-! ### Versions of an entry -/

namespace MarketingKnowledgeEntry

theorem latest_eq_none : entry.latest = none ↔ entry.versions = [] := List.argmax_eq_none

theorem mem_of_latest {latest : MarketingKnowledgeEntryVersion}
    (newest : entry.latest = some latest) : latest ∈ entry.versions := List.argmax_mem newest

theorem le_of_latest {latest version : MarketingKnowledgeEntryVersion}
    (newest : entry.latest = some latest) (member : version ∈ entry.versions) :
    version.version ≤ latest.version := List.le_of_mem_argmax member newest

/-- The number of the next version. -/
def nextNumber (entry : MarketingKnowledgeEntry) : Nat :=
  (entry.latest.map (·.version)).getD 0 + 1

theorem lt_nextNumber {version : MarketingKnowledgeEntryVersion}
    (member : version ∈ entry.versions) : version.version < entry.nextNumber := by
  unfold nextNumber
  cases newest : entry.latest with
  | none =>
      rw [latest_eq_none.mp newest] at member
      cases member
  | some latest => exact Nat.lt_succ_of_le (le_of_latest newest member)

theorem setVersion_addVersion {number : Nat} {version : MarketingKnowledgeEntryVersion}
    {change : MarketingKnowledgeEntryVersion → MarketingKnowledgeEntryVersion}
    (older : ∀ version ∈ entry.versions, version.version < number)
    (numbered : version.version = number) :
    (entry.addVersion version).setVersion number change = entry.addVersion (change version) := by
  unfold setVersion addVersion
  rw [List.map_append, List.map_singleton, if_pos numbered]
  congr 2
  refine (List.map_congr_left fun version member => ?_).trans (List.map_id _)
  exact if_neg (Nat.ne_of_lt (older version member))

theorem setVersion_setVersion {number : Nat}
    {first second : MarketingKnowledgeEntryVersion → MarketingKnowledgeEntryVersion}
    (sameNumber : ∀ version, (first version).version = version.version) :
    (entry.setVersion number first).setVersion number second =
      entry.setVersion number (second ∘ first) := by
  unfold setVersion
  rw [List.map_map]
  congr 1
  refine List.map_congr_left fun version _ => ?_
  dsimp only [Function.comp_apply]
  split
  · next same => rw [if_pos ((sameNumber version).trans same)]
  · rfl

theorem setVersion_id {number : Nat} : entry.setVersion number id = entry := by
  unfold setVersion
  simp

end MarketingKnowledgeEntry

theorem mem_previousVersions {number previous : Nat} :
    previous ∈ previousVersions slug number db ↔
      ∃ version ∈ db.versionsOf slug,
        (version.version < number ∧ version.reviewStatus ≠ .retired) ∧
          version.version = previous := by
  unfold previousVersions
  simp [and_assoc]

/-! ### Chunks -/

def MarketingKnowledgeEntryVersion.addChunks (version : MarketingKnowledgeEntryVersion)
    (chunks : List MarketingKnowledgeChunk) : MarketingKnowledgeEntryVersion :=
  { version with chunks := version.chunks ++ chunks }

theorem addChunks_nil : (·.addChunks []) = (id : MarketingKnowledgeEntryVersion → _) := by
  funext version
  simp [MarketingKnowledgeEntryVersion.addChunks]

theorem addChunks_cons (chunk : MarketingKnowledgeChunk) (rest : List MarketingKnowledgeChunk) :
    (·.addChunks rest) ∘ (·.addChunks [chunk]) =
      fun version : MarketingKnowledgeEntryVersion => version.addChunks (chunk :: rest) := by
  funext version
  simp [MarketingKnowledgeEntryVersion.addChunks]

theorem find_addChunk {number : Nat} (chunk : MarketingKnowledgeChunk) :
    (addChunk slug number chunk db).find other =
      if other = slug then (db.find other).map (·.setVersion number (·.addChunks [chunk]))
      else db.find other :=
  db.find_modify slug other

theorem find_insertChunks {number : Nat} {chunks : List MarketingKnowledgeChunk}
    (inserted : insertChunks slug number chunks db = .ok after) (other : String) :
    after.find other =
      if other = slug then (db.find other).map (·.setVersion number (·.addChunks chunks))
      else db.find other := by
  induction chunks generalizing db with
  | nil =>
      cases inserted
      rw [addChunks_nil]
      simp [MarketingKnowledgeEntry.setVersion_id]
  | cons chunk rest inductionHypothesis =>
      rw [insertChunks] at inserted
      split at inserted
      · rw [inductionHypothesis inserted, find_addChunk]
        split
        · rw [Option.map_map]
          congr 1
          funext entry
          have together : (entry.setVersion number (·.addChunks [chunk])).setVersion number
              (·.addChunks rest) = entry.setVersion number
                ((·.addChunks rest) ∘ (·.addChunks [chunk])) :=
            MarketingKnowledgeEntry.setVersion_setVersion fun _ => rfl
          rw [addChunks_cons] at together
          exact together
        · rfl
      · cases inserted

/-! ### A persisted entry -/

theorem find_createVersion {number : Nat} (created : createVersion parsed number db = .ok after)
    (other : String) :
    after.find other =
      if other = parsed.slug then (db.find other).map (·.addVersion (parsed.row number))
      else db.find other := by
  unfold createVersion at created
  split at created
  · cases created
  · cases created
    exact db.find_modify parsed.slug other

theorem find_createSourceRefs (number : Nat) (references : List String) :
    (createSourceRefs slug number references db).find other =
      if other = slug then
        (db.find other).map (·.setVersion number fun version =>
          { version with sourceRefs := version.sourceRefs ++ references })
      else db.find other :=
  db.find_modify slug other

theorem find_updateEntryLatestVersion (number : Nat) :
    (updateEntryLatestVersion slug number db).find other =
      if other = slug then (db.find other).map (·.setLatestVersion number) else db.find other :=
  db.find_modify slug other

theorem find_retirePreviousVersions (number : Nat) :
    (retirePreviousVersions slug number db).find other =
      if other = slug then (db.find other).map (·.retirePrevious number) else db.find other :=
  db.find_modify slug other

/-- The version of a file with its source references and chunks. -/
def ParsedKnowledgeEntry.complete (parsed : ParsedKnowledgeEntry) (settings : Settings)
    (number : Nat) : MarketingKnowledgeEntryVersion :=
  { parsed.row number with
    sourceRefs := parsed.sourceReferences
    chunks := (chunkEntry settings parsed).map (·.row settings.embedding number) }

/-- The entry with the file as its newest version. -/
def MarketingKnowledgeEntry.persist (entry : MarketingKnowledgeEntry) (settings : Settings)
    (parsed : ParsedKnowledgeEntry) : MarketingKnowledgeEntry where
  slug := entry.slug
  latestVersion := entry.nextNumber
  versions := entry.versions.map (·.retire) ++ [parsed.complete settings entry.nextNumber]

/-- The entry with the slug, without versions before it is created. -/
def Database.entryOf (db : Database) (slug : String) : MarketingKnowledgeEntry :=
  (db.find slug).getD ⟨slug, 0, []⟩

theorem retire_of_retired {version : MarketingKnowledgeEntryVersion}
    (retired : version.reviewStatus = .retired) : version.retire = version := by
  cases version
  cases retired
  rfl

theorem retirePrevious_addVersion (version : MarketingKnowledgeEntryVersion) {number : Nat}
    (older : ∀ version ∈ entry.versions, version.version < number)
    (numbered : version.version = number) :
    (entry.addVersion version).retirePrevious number =
      { entry with versions := entry.versions.map (·.retire) ++ [version] } := by
  unfold MarketingKnowledgeEntry.retirePrevious MarketingKnowledgeEntry.addVersion
  rw [List.map_append, List.map_singleton, if_neg (by omega)]
  congr 2
  refine List.map_congr_left fun version member => ?_
  split
  · rfl
  · next kept =>
    have retired : version.reviewStatus = .retired :=
      not_not.mp fun live => kept ⟨older version member, live⟩
    exact (retire_of_retired retired).symm

theorem find_previousVersion {previous : Option Nat}
    (ran : previousVersion faults slug db = (.ok previous, after)) :
    (∀ other, after.find other =
      if other = slug then some (db.entryOf slug) else db.find other) ∧
      previous.getD 0 + 1 = (db.entryOf slug).nextNumber := by
  obtain ⟨found, _, read, ran⟩ := Persist.ok_of_bind ran
  obtain ⟨rfl, rfl⟩ := ok_of_reading read
  unfold Database.entryOf
  cases present : db.find slug with
  | none =>
      rw [present] at ran
      obtain ⟨_, _, written, ran⟩ := Persist.ok_of_bind ran
      cases ok_of_writing written
      obtain ⟨rfl, rfl⟩ := Persist.ok_of_pure ran
      refine ⟨fun other => ?_, rfl⟩
      rw [Database.find_createEntry, present]
  | some entry =>
      rw [present] at ran
      obtain ⟨latest, _, read, ran⟩ := Persist.ok_of_bind ran
      obtain ⟨rfl, rfl⟩ := ok_of_reading read
      obtain ⟨rfl, rfl⟩ := Persist.ok_of_pure ran
      refine ⟨fun other => ?_, rfl⟩
      split
      · next same => rw [same, present]; rfl
      · rfl

/-- What becomes of the database when an entry is persisted. -/
structure Persisted (settings : Settings) (parsed : ParsedKnowledgeEntry) (db after : Database)
    (outcome : EntryOutcome) : Prop where
  find : ∀ other, after.find other =
    if other = parsed.slug then some ((db.entryOf parsed.slug).persist settings parsed)
    else db.find other
  slug : outcome.result.slug = parsed.slug
  version : outcome.version = (db.entryOf parsed.slug).nextNumber
  retired : ∀ number, number ∈ outcome.retiredVersions ↔
    (db.entryOf parsed.slug).nextNumber ≠ 1 ∧
      ∃ version ∈ (db.entryOf parsed.slug).versions,
        version.reviewStatus ≠ .retired ∧ version.version = number

/-- The last statements of `_persist_entry`. -/
theorem ok_of_completeVersion {previous : Option Nat} {number : Nat} {outcome : EntryOutcome}
    (ran : completeVersion settings faults parsed previous number db = (.ok outcome, after)) :
    ∃ chunked,
      createChunks settings parsed.slug number (chunkEntry settings parsed)
        (createSourceRefs parsed.slug number parsed.sourceReferences db) = .ok chunked ∧
      after = retirePreviousVersions parsed.slug number
        (updateEntryLatestVersion parsed.slug number chunked) ∧
      outcome.result.slug = parsed.slug ∧ outcome.version = number ∧
      outcome.retiredVersions = if previous.getD 0 = 0 then [] else
        previousVersions parsed.slug number
          (updateEntryLatestVersion parsed.slug number chunked) := by
  obtain ⟨_, referenced, written, ran⟩ := Persist.ok_of_bind ran
  cases ok_of_writing written
  obtain ⟨_, chunked, inserted, ran⟩ := Persist.ok_of_bind ran
  refine ⟨chunked, ok_of_writing inserted, ?_⟩
  obtain ⟨_, _, written, ran⟩ := Persist.ok_of_bind ran
  cases ok_of_writing written
  dsimp only at ran
  split at ran
  · next first =>
    obtain ⟨retired, _, read, ran⟩ := Persist.ok_of_bind ran
    obtain ⟨rfl, rfl⟩ := Persist.ok_of_pure read
    obtain ⟨_, _, written, ran⟩ := Persist.ok_of_bind ran
    cases ok_of_writing written
    obtain ⟨rfl, rfl⟩ := Persist.ok_of_pure ran
    exact ⟨rfl, rfl, rfl, (if_pos first).symm⟩
  · next later =>
    obtain ⟨retired, _, read, ran⟩ := Persist.ok_of_bind ran
    obtain ⟨rfl, rfl⟩ := ok_of_reading read
    obtain ⟨_, _, written, ran⟩ := Persist.ok_of_bind ran
    cases ok_of_writing written
    obtain ⟨rfl, rfl⟩ := Persist.ok_of_pure ran
    exact ⟨rfl, rfl, rfl, (if_neg later).symm⟩

/-- The entry with the version, once its source references and chunks are written. -/
theorem find_chunked {number : Nat} {chunked : Database}
    (newest : ∀ version ∈ entry.versions, version.version < number)
    (found : db.find parsed.slug = some (entry.addVersion (parsed.row number)))
    (inserted : createChunks settings parsed.slug number (chunkEntry settings parsed)
      (createSourceRefs parsed.slug number parsed.sourceReferences db) = .ok chunked)
    (other : String) :
    chunked.find other =
      if other = parsed.slug then some (entry.addVersion (parsed.complete settings number))
      else db.find other := by
  rw [find_insertChunks inserted, find_createSourceRefs]
  by_cases same : other = parsed.slug
  · rw [if_pos same, if_pos same, if_pos same, same, found]
    simp only [Option.map_some]
    rw [MarketingKnowledgeEntry.setVersion_addVersion newest rfl,
      MarketingKnowledgeEntry.setVersion_addVersion newest rfl]
    rfl
  · rw [if_neg same, if_neg same, if_neg same]

theorem persisted_of_ok {outcome : EntryOutcome}
    (ran : persistEntry settings faults parsed db = (.ok outcome, after)) :
    Persisted settings parsed db after outcome := by
  obtain ⟨previous, prepared, ran₁, ran⟩ := Persist.ok_of_bind ran
  obtain ⟨prepares, numbers⟩ := find_previousVersion ran₁
  obtain ⟨_, created, written, ran⟩ := Persist.ok_of_bind ran
  have creates := find_createVersion (ok_of_writing written)
  rw [numbers] at ran creates
  obtain ⟨chunked, inserted, rfl, slug, version, retired⟩ := ok_of_completeVersion ran
  have newest : ∀ version ∈ (db.entryOf parsed.slug).versions,
      version.version < (db.entryOf parsed.slug).nextNumber :=
    fun version member => MarketingKnowledgeEntry.lt_nextNumber member
  have found : created.find parsed.slug =
      some ((db.entryOf parsed.slug).addVersion
        (parsed.row (db.entryOf parsed.slug).nextNumber)) := by
    rw [creates, if_pos rfl, prepares, if_pos rfl]
    rfl
  have chunks := find_chunked newest found inserted
  refine ⟨fun other => ?_, slug, version, fun number => ?_⟩
  · rw [find_retirePreviousVersions, find_updateEntryLatestVersion, chunks]
    by_cases same : other = parsed.slug
    · rw [if_pos same, if_pos same, if_pos same, if_pos same]
      have retires := retirePrevious_addVersion
        (parsed.complete settings (db.entryOf parsed.slug).nextNumber) newest rfl
      exact congrArg (fun entry => some (MarketingKnowledgeEntry.setLatestVersion entry _)) retires
    · rw [if_neg same, if_neg same, if_neg same, if_neg same, creates, if_neg same, prepares,
        if_neg same]
  · rw [retired]
    have first : previous.getD 0 = 0 ↔ (db.entryOf parsed.slug).nextNumber = 1 := by omega
    split
    · next none => simp [first.mp none]
    · next some =>
      rw [mem_previousVersions]
      have versions : (updateEntryLatestVersion parsed.slug
          (db.entryOf parsed.slug).nextNumber chunked).versionsOf parsed.slug =
          (db.entryOf parsed.slug).versions ++
            [parsed.complete settings (db.entryOf parsed.slug).nextNumber] := by
        unfold Database.versionsOf
        rw [find_updateEntryLatestVersion, if_pos rfl, chunks, if_pos rfl]
        rfl
      rw [versions]
      refine ⟨?_, ?_⟩
      · rintro ⟨version, member, ⟨older, live⟩, numbered⟩
        refine ⟨mt first.mpr some, version, ?_, live, numbered⟩
        rcases List.mem_append.mp member with kept | added
        · exact kept
        · rw [List.mem_singleton.mp added] at older
          exact absurd older (Nat.lt_irrefl _)
      · rintro ⟨-, version, member, live, numbered⟩
        exact ⟨version, List.mem_append_left _ member, ⟨newest version member, live⟩, numbered⟩

end MarketMind.Knowledge
