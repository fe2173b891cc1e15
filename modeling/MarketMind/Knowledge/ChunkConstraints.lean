import MarketMind.Knowledge.CorpusMirror

/-!
Owns the chunks that are stored, what persisting an entry adds to them, and exactly when the new and
changed entries of a corpus are persisted without violating a constraint on chunks.
-/

namespace MarketMind.Knowledge

variable {settings : Settings} {faults : Faults} {parsed : ParsedKnowledgeEntry}
  {db after : Database} {slug other : String} {number : Nat} {chunk : MarketingKnowledgeChunk}

/-! ### Stored chunks -/

/-- The chunk stands in a version of the slug with the number. -/
def Stored (db : Database) (slug : String) (number : Nat) (chunk : MarketingKnowledgeChunk) :
    Prop :=
  ∃ version ∈ db.versionsOf slug, version.version = number ∧ chunk ∈ version.chunks

theorem versionsOf_congr (same : after.find slug = db.find slug) :
    after.versionsOf slug = db.versionsOf slug := by
  rw [Database.versionsOf, same]
  rfl

theorem stored_congr (same : after.find slug = db.find slug) :
    Stored after slug number chunk ↔ Stored db slug number chunk := by
  unfold Stored
  rw [versionsOf_congr same]

theorem mem_chunks : chunk ∈ db.chunks ↔ ∃ slug number, Stored db slug number chunk := by
  unfold Database.chunks Stored
  simp only [List.mem_flatMap]
  constructor
  · rintro ⟨entry, member, version, among, stands⟩
    refine ⟨entry.slug, version.version, version, ?_, rfl, stands⟩
    rwa [versionsOf_of_find (Database.find_of_mem member)]
  · rintro ⟨slug, number, version, among, -, stands⟩
    cases found : db.find slug with
    | none =>
        rw [Database.versionsOf, found] at among
        cases among
    | some entry =>
        rw [versionsOf_of_find found] at among
        exact ⟨entry, Database.mem_of_find found, version, among, stands⟩

/-- Two rows that a constraint of the table keeps apart, whatever their versions. -/
def Clashes (stored chunk : MarketingKnowledgeChunk) : Prop :=
  stored.chunkId = chunk.chunkId ∨
    stored.checksum = chunk.checksum ∧ stored.embedding = chunk.embedding

/-- The orders that the version has in use. -/
def ordersOf (db : Database) (slug : String) (number : Nat) (order : Nat) : Prop :=
  ∃ stored, Stored db slug number stored ∧ stored.chunkOrder = order

theorem accepts_iff :
    accepts db slug number chunk = true ↔
      (∀ stored ∈ db.chunks, ¬Clashes stored chunk) ∧
        ¬ordersOf db slug number chunk.chunkOrder := by
  unfold accepts Clashes ordersOf Stored
  simp only [Bool.and_eq_true, List.all_eq_true, Bool.or_eq_true, decide_eq_true_eq]
  refine and_congr (forall₂_congr fun stored member => not_or.symm) ?_
  constructor
  · rintro free ⟨stored, ⟨version, member, numbered, stands⟩, same⟩
    rcases free version member with apart | free
    · exact absurd numbered apart
    · exact free stored stands same
  · intro free version member
    by_cases numbered : version.version = number
    · exact Or.inr fun stored stands same =>
        free ⟨stored, ⟨version, member, numbered, stands⟩, same⟩
    · exact Or.inl numbered

/-! ### Adding a chunk -/

/-- The slug has a version with the number. -/
def HasVersion (db : Database) (slug : String) (number : Nat) : Prop :=
  ∃ version ∈ db.versionsOf slug, version.version = number

theorem mem_versionsOf_addChunk {version : MarketingKnowledgeEntryVersion} :
    version ∈ (addChunk slug number chunk db).versionsOf slug ↔
      ∃ previous ∈ db.versionsOf slug,
        (if previous.version = number then previous.addChunks [chunk] else previous) =
          version := by
  unfold Database.versionsOf
  rw [find_addChunk, if_pos rfl]
  cases db.find slug with
  | none => simp
  | some entry => simp [MarketingKnowledgeEntry.setVersion]

theorem of_stored_addChunk {stored : MarketingKnowledgeChunk} {place : String} {position : Nat}
    (stands : Stored (addChunk slug number chunk db) place position stored) :
    Stored db place position stored ∨ place = slug ∧ position = number ∧ stored = chunk := by
  by_cases same : place = slug
  · subst same
    obtain ⟨version, member, numbered, stands⟩ := stands
    obtain ⟨previous, among, rfl⟩ := mem_versionsOf_addChunk.mp member
    split at numbered
    · next here =>
      rw [if_pos here] at stands
      rcases List.mem_append.mp stands with kept | added
      · exact Or.inl ⟨previous, among, numbered, kept⟩
      · exact Or.inr ⟨rfl, (here.symm.trans numbered).symm, List.mem_singleton.mp added⟩
    · next elsewhere =>
      rw [if_neg elsewhere] at stands
      exact Or.inl ⟨previous, among, numbered, stands⟩
  · refine Or.inl ((stored_congr ?_).mp stands)
    rw [find_addChunk, if_neg same]

theorem stored_addChunk (listed : HasVersion db slug number) {stored : MarketingKnowledgeChunk}
    {place : String} {position : Nat} :
    Stored (addChunk slug number chunk db) place position stored ↔
      Stored db place position stored ∨ place = slug ∧ position = number ∧ stored = chunk := by
  refine ⟨of_stored_addChunk, ?_⟩
  by_cases same : place = slug
  · subst same
    rintro (⟨version, member, numbered, stands⟩ | ⟨-, rfl, rfl⟩)
    · refine ⟨_, mem_versionsOf_addChunk.mpr ⟨version, member, rfl⟩, ?_, ?_⟩
      · split <;> exact numbered
      · split
        · exact List.mem_append_left _ stands
        · exact stands
    · obtain ⟨version, member, numbered⟩ := listed
      refine ⟨_, mem_versionsOf_addChunk.mpr ⟨version, member, rfl⟩, ?_, ?_⟩
      · rw [if_pos numbered]
        exact numbered
      · rw [if_pos numbered]
        exact List.mem_append_right _ (List.mem_singleton_self _)
  · rintro (stands | clash)
    · refine (stored_congr ?_).mpr stands
      rw [find_addChunk, if_neg same]
    · exact absurd clash.1 same

theorem hasVersion_addChunk (listed : HasVersion db slug number) :
    HasVersion (addChunk slug number chunk db) slug number := by
  obtain ⟨version, member, numbered⟩ := listed
  refine ⟨_, mem_versionsOf_addChunk.mpr ⟨version, member, rfl⟩, ?_⟩
  split <;> exact numbered

theorem mem_chunks_addChunk (listed : HasVersion db slug number)
    {stored : MarketingKnowledgeChunk} :
    stored ∈ (addChunk slug number chunk db).chunks ↔ stored ∈ db.chunks ∨ stored = chunk := by
  simp only [mem_chunks, stored_addChunk listed]
  constructor
  · rintro ⟨place, position, here | ⟨-, -, rfl⟩⟩
    · exact Or.inl ⟨place, position, here⟩
    · exact Or.inr rfl
  · rintro (⟨place, position, here⟩ | rfl)
    · exact ⟨place, position, Or.inl here⟩
    · exact ⟨slug, number, Or.inr ⟨rfl, rfl, rfl⟩⟩

/-! ### Inserting the chunks of a version -/

/-- Rows of a version without chunks are accepted if no constraint keeps two of them, or one of them
and a stored row, apart. -/
theorem insertChunks_iff {chunks : List MarketingKnowledgeChunk}
    (listed : HasVersion db slug number) (orders : (chunks.map (·.chunkOrder)).Nodup)
    (free : ∀ chunk ∈ chunks, ¬ordersOf db slug number chunk.chunkOrder) :
    (∃ after, insertChunks slug number chunks db = .ok after) ↔
      chunks.Pairwise (fun first second => ¬Clashes first second) ∧
        ∀ chunk ∈ chunks, ∀ stored ∈ db.chunks, ¬Clashes stored chunk := by
  induction chunks generalizing db with
  | nil => simp [insertChunks]
  | cons chunk rest inductionHypothesis =>
      rw [List.map_cons, List.nodup_cons] at orders
      rw [List.pairwise_cons, List.forall_mem_cons]
      by_cases accepted : accepts db slug number chunk = true
      · have later : ∀ other ∈ rest,
            ¬ordersOf (addChunk slug number chunk db) slug number other.chunkOrder := by
          rintro other member ⟨stored, stands, same⟩
          rcases (stored_addChunk listed).mp stands with before | ⟨-, -, rfl⟩
          · exact free other (List.mem_cons_of_mem _ member) ⟨stored, before, same⟩
          · exact orders.1 (same ▸ List.mem_map_of_mem member)
        rw [insertChunks, if_pos accepted,
          inductionHypothesis (hasVersion_addChunk listed) orders.2 later]
        simp only [mem_chunks_addChunk listed, or_imp, forall_and, forall_eq]
        have first := (accepts_iff.mp accepted).1
        tauto
      · rw [insertChunks, if_neg accepted]
        constructor
        · rintro ⟨after, ran⟩
          cases ran
        · rintro ⟨-, first, -⟩
          exact absurd (accepts_iff.mpr ⟨first, free chunk List.mem_cons_self⟩) accepted

theorem database_of_insertChunks {chunks : List MarketingKnowledgeChunk} {failure : Failure}
    (refused : insertChunks slug number chunks db = .error failure) : failure = .database := by
  induction chunks generalizing db with
  | nil => cases refused
  | cons chunk rest inductionHypothesis =>
      rw [insertChunks] at refused
      split at refused
      · exact inductionHypothesis refused
      · cases refused
        rfl

/-! ### Persisting an entry without faults -/

theorem reading_of_quiet {α : Type} {which : PersistStatement} (read : Database → α)
    (quiet : faults which = none) (db : Database) :
    reading faults which read db = (.ok (read db), db) := by
  unfold reading statement
  rw [quiet]

theorem writing_of_quiet {which : PersistStatement} {write : Database → Except Failure Database}
    (quiet : faults which = none) (written : write db = .ok after) :
    writing faults which write db = (.ok (), after) := by
  unfold writing statement
  rw [quiet]
  dsimp only
  rw [written]
  rfl

theorem writes_of_quiet {which : PersistStatement} (write : Database → Database)
    (quiet : faults which = none) (db : Database) :
    writing faults which (fun db => .ok (write db)) db = (.ok (), write db) :=
  writing_of_quiet quiet rfl

theorem writing_of_refused {which : PersistStatement}
    {write : Database → Except Failure Database} {failure : Failure} (quiet : faults which = none)
    (refused : write db = .error failure) :
    writing faults which write db = (.error failure, db) := by
  unfold writing statement
  rw [quiet]
  dsimp only
  rw [refused]
  rfl

/-- The statements that persisting the entry of the slug takes. -/
def executed (db : Database) (slug : String) : List PersistStatement :=
  [.getEntryBySlug, if (db.find slug).isNone then .createEntry else .getLatestVersion,
    .createVersion, .createSourceRefs, .createChunks, .updateEntryLatestVersion] ++
    (if (db.entryOf slug).nextNumber = 1 then [] else [.selectPreviousVersions]) ++
    [.retirePreviousVersions]

/-- None of them fails. -/
def Quiet (faults : Faults) (db : Database) (slug : String) : Prop :=
  ∀ which ∈ executed db slug, faults which = none

theorem executed_congr (same : after.find slug = db.find slug) :
    executed after slug = executed db slug := by
  unfold executed Database.entryOf
  rw [same]

theorem previousVersion_of_quiet (quiet : Quiet faults db slug) :
    ∃ previous after, previousVersion faults slug db = (.ok previous, after) := by
  unfold previousVersion
  rw [Persist.bind_ok (reading_of_quiet _ (quiet _ (by simp [executed])) _)]
  cases found : db.find slug with
  | none =>
      have creates := quiet .createEntry (by simp [executed, found])
      exact ⟨_, _, Persist.bind_ok (writes_of_quiet (·.createEntry slug) creates _)⟩
  | some entry =>
      have reads := quiet .getLatestVersion (by simp [executed, found])
      exact ⟨_, _, Persist.bind_ok (reading_of_quiet _ reads _)⟩

/-- The number after the latest one is never taken. -/
theorem exists_createVersion {entry : MarketingKnowledgeEntry}
    (found : db.find parsed.slug = some entry) :
    ∃ created, createVersion parsed entry.nextNumber db = .ok created := by
  refine ⟨_, if_neg fun used => ?_⟩
  rw [versionsOf_of_find found] at used
  obtain ⟨version, member, same⟩ := List.mem_map.mp used
  exact Nat.ne_of_lt (MarketingKnowledgeEntry.lt_nextNumber member) same

theorem completeVersion_of_quiet {previous : Option Nat} {chunked : Database}
    (references : faults .createSourceRefs = none) (chunks : faults .createChunks = none)
    (updates : faults .updateEntryLatestVersion = none)
    (selects : previous.getD 0 ≠ 0 → faults .selectPreviousVersions = none)
    (retires : faults .retirePreviousVersions = none)
    (inserted : createChunks settings parsed.slug number (chunkEntry settings parsed)
      (createSourceRefs parsed.slug number parsed.sourceReferences db) = .ok chunked) :
    ∃ outcome after,
      completeVersion settings faults parsed previous number db = (.ok outcome, after) := by
  have last := writes_of_quiet (retirePreviousVersions parsed.slug number) retires
    (updateEntryLatestVersion parsed.slug number chunked)
  unfold completeVersion
  rw [Persist.bind_ok (writes_of_quiet _ references _),
    Persist.bind_ok (writing_of_quiet chunks inserted),
    Persist.bind_ok (writes_of_quiet _ updates _)]
  dsimp only
  split
  · have skips : (pure [] : Persist (List Nat))
        (updateEntryLatestVersion parsed.slug number chunked) = (.ok [], _) := rfl
    exact ⟨_, _, (Persist.bind_ok skips).trans ((Persist.bind_ok last).trans rfl)⟩
  · next later =>
    have reads := reading_of_quiet (previousVersions parsed.slug number) (selects later)
      (updateEntryLatestVersion parsed.slug number chunked)
    exact ⟨_, _, (Persist.bind_ok reads).trans ((Persist.bind_ok last).trans rfl)⟩

theorem completeVersion_of_refused {previous : Option Nat} {failure : Failure}
    (references : faults .createSourceRefs = none) (chunks : faults .createChunks = none)
    (refused : createChunks settings parsed.slug number (chunkEntry settings parsed)
      (createSourceRefs parsed.slug number parsed.sourceReferences db) = .error failure) :
    completeVersion settings faults parsed previous number db =
      (.error .database, createSourceRefs parsed.slug number parsed.sourceReferences db) := by
  cases database_of_insertChunks refused
  unfold completeVersion
  rw [Persist.bind_ok (writes_of_quiet _ references _)]
  exact Persist.bind_error (writing_of_refused chunks refused)

/-- The version of a file with its source references, before its chunks. -/
def ParsedKnowledgeEntry.referenced (parsed : ParsedKnowledgeEntry) (number : Nat) :
    MarketingKnowledgeEntryVersion :=
  { parsed.row number with sourceRefs := parsed.sourceReferences }

/-- Without faults an entry is persisted, unless its chunks are refused. -/
theorem persistEntry_of_quiet (settings : Settings) (quiet : Quiet faults db parsed.slug) :
    ∃ prepared : Database,
      (∀ other, prepared.find other =
        if other = parsed.slug then
          some ((db.entryOf parsed.slug).addVersion
            (parsed.referenced (db.entryOf parsed.slug).nextNumber))
        else db.find other) ∧
      ((∃ chunked, createChunks settings parsed.slug (db.entryOf parsed.slug).nextNumber
          (chunkEntry settings parsed) prepared = .ok chunked) →
        ∃ outcome after, persistEntry settings faults parsed db = (.ok outcome, after)) ∧
      ((¬∃ chunked, createChunks settings parsed.slug (db.entryOf parsed.slug).nextNumber
          (chunkEntry settings parsed) prepared = .ok chunked) →
        persistEntry settings faults parsed db = (.error .database, prepared)) := by
  obtain ⟨previous, begun, ran⟩ := previousVersion_of_quiet quiet
  obtain ⟨begins, numbers⟩ := find_previousVersion ran
  have newest : ∀ version ∈ (db.entryOf parsed.slug).versions,
      version.version < (db.entryOf parsed.slug).nextNumber :=
    fun version member => MarketingKnowledgeEntry.lt_nextNumber member
  obtain ⟨created, creates⟩ : ∃ created,
      createVersion parsed (previous.getD 0 + 1) begun = .ok created := by
    rw [numbers]
    exact exists_createVersion ((begins parsed.slug).trans (if_pos rfl))
  have found := find_createVersion creates
  rw [numbers] at found
  have writes := writing_of_quiet (quiet .createVersion (by simp [executed])) creates
  have references := quiet .createSourceRefs (by simp [executed])
  have chunks := quiet .createChunks (by simp [executed])
  refine ⟨createSourceRefs parsed.slug (previous.getD 0 + 1) parsed.sourceReferences created,
    fun other => ?_, ?_, ?_⟩
  · rw [find_createSourceRefs, found]
    by_cases same : other = parsed.slug
    · rw [if_pos same, if_pos same, if_pos same, begins, if_pos same]
      simp only [Option.map_some]
      rw [numbers, MarketingKnowledgeEntry.setVersion_addVersion newest rfl]
      rfl
    · rw [if_neg same, if_neg same, if_neg same, begins, if_neg same]
  · rintro ⟨chunked, inserted⟩
    rw [← numbers] at inserted
    unfold persistEntry
    rw [Persist.bind_ok ran, Persist.bind_ok writes]
    refine completeVersion_of_quiet references chunks (quiet _ (by simp [executed]))
      (fun later => quiet _ ?_) (quiet _ (by simp [executed])) inserted
    have notFirst : (db.entryOf parsed.slug).nextNumber ≠ 1 := by omega
    simp [executed, notFirst]
  · intro refuses
    rw [← numbers] at refuses
    unfold persistEntry
    rw [Persist.bind_ok ran, Persist.bind_ok writes]
    cases inserted : createChunks settings parsed.slug (previous.getD 0 + 1)
        (chunkEntry settings parsed)
        (createSourceRefs parsed.slug (previous.getD 0 + 1) parsed.sourceReferences created) with
    | ok chunked => exact absurd ⟨chunked, inserted⟩ refuses
    | error failure =>
        exact completeVersion_of_refused references chunks inserted

/-! ### The texts that fit -/

/-- The chunks to insert. -/
def chunksOf (settings : Settings) (entries : List ParsedKnowledgeEntry) : List KnowledgeChunk :=
  entries.flatMap (chunkEntry settings)

/-- The chunks of the entries have texts with digests of their own, and neither their digest, under
the configured embedding, nor their identifier is stored. -/
structure Fits (settings : Settings) (db : Database) (entries : List ParsedKnowledgeEntry) :
    Prop where
  apart : ((chunksOf settings entries).map (·.checksum)).Nodup
  fresh : ∀ chunk ∈ chunksOf settings entries, ∀ stored ∈ db.chunks,
    stored.chunkId ≠ chunk.chunkId ∧
      ¬(stored.checksum = chunk.checksum ∧ stored.embedding = settings.embedding)

theorem mem_chunkEntry {chunk : KnowledgeChunk} (member : chunk ∈ chunkEntry settings parsed) :
    chunk.chunkId = .chunk parsed.slug parsed.version chunk.chunkOrder chunk.checksum := by
  obtain ⟨order, bound, rfl⟩ := List.mem_mapIdx.mp member
  rfl

theorem clashes_rows (entries : List ParsedKnowledgeEntry) {first second : KnowledgeChunk}
    (left : first ∈ chunksOf settings entries) (right : second ∈ chunksOf settings entries)
    (one two : Nat) :
    Clashes (first.row settings.embedding one) (second.row settings.embedding two) ↔
      first.checksum = second.checksum := by
  obtain ⟨_, -, left⟩ := List.mem_flatMap.mp left
  obtain ⟨_, -, right⟩ := List.mem_flatMap.mp right
  constructor
  · rintro (same | same)
    · change first.chunkId = second.chunkId at same
      rw [mem_chunkEntry left, mem_chunkEntry right] at same
      exact (Uuid.chunk.inj same).2.2.2
    · exact same.1
  · exact fun same => Or.inr ⟨same, rfl⟩

theorem orders_chunkEntry (settings : Settings) (parsed : ParsedKnowledgeEntry) (number : Nat) :
    (((chunkEntry settings parsed).map (·.row settings.embedding number)).map
      (·.chunkOrder)).Nodup := by
  have orders : ((chunkEntry settings parsed).map (·.row settings.embedding number)).map
      (·.chunkOrder) =
        List.range (settings.chunkTexts parsed.content.title parsed.content.body).length := by
    refine List.ext_getElem (by simp [chunkEntry]) fun position left right => ?_
    simp [chunkEntry, makeChunk, KnowledgeChunk.row]
  rw [orders]
  exact List.nodup_range

theorem versions_entryOf (db : Database) (slug : String) :
    (db.entryOf slug).versions = db.versionsOf slug := by
  unfold Database.entryOf Database.versionsOf
  cases db.find slug <;> rfl

theorem stored_prepared {prepared : Database}
    (prepares : ∀ other, prepared.find other =
      if other = parsed.slug then
        some ((db.entryOf parsed.slug).addVersion (parsed.referenced number))
      else db.find other) (place : String) (position : Nat) :
    Stored prepared place position chunk ↔ Stored db place position chunk := by
  by_cases same : place = parsed.slug
  · subst same
    unfold Stored
    rw [versionsOf_of_find ((prepares parsed.slug).trans (if_pos rfl)),
      MarketingKnowledgeEntry.addVersion, versions_entryOf]
    simp [ParsedKnowledgeEntry.referenced, ParsedKnowledgeEntry.row, or_and_right, exists_or]
  · exact stored_congr ((prepares place).trans (if_neg same))

/-- Without faults an entry is persisted exactly if its chunks fit. -/
theorem persistEntry_iff (quiet : Quiet faults db parsed.slug) :
    (∃ outcome after, persistEntry settings faults parsed db = (.ok outcome, after)) ↔
      Fits settings db [parsed] := by
  obtain ⟨prepared, prepares, succeeds, fails⟩ := persistEntry_of_quiet settings quiet
  have inserts : (∃ outcome after,
      persistEntry settings faults parsed db = (.ok outcome, after)) ↔
        ∃ chunked, createChunks settings parsed.slug (db.entryOf parsed.slug).nextNumber
          (chunkEntry settings parsed) prepared = .ok chunked := by
    refine ⟨?_, succeeds⟩
    rintro ⟨outcome, after, ran⟩
    by_contra refused
    rw [fails refused] at ran
    cases ran
  have listed : HasVersion prepared parsed.slug (db.entryOf parsed.slug).nextNumber := by
    refine ⟨parsed.referenced (db.entryOf parsed.slug).nextNumber, ?_, rfl⟩
    rw [versionsOf_of_find ((prepares parsed.slug).trans (if_pos rfl))]
    exact List.mem_append_right _ (List.mem_singleton_self _)
  have free : ∀ order,
      ¬ordersOf prepared parsed.slug (db.entryOf parsed.slug).nextNumber order := by
    rintro order ⟨stored, stands, -⟩
    obtain ⟨version, member, numbered, -⟩ := (stored_prepared prepares _ _).mp stands
    rw [← versions_entryOf] at member
    exact Nat.ne_of_lt (MarketingKnowledgeEntry.lt_nextNumber member) numbered
  have chunks : ∀ stored, stored ∈ prepared.chunks ↔ stored ∈ db.chunks := fun stored => by
    simp only [mem_chunks, stored_prepared prepares]
  have single : chunksOf settings [parsed] = chunkEntry settings parsed := by
    simp [chunksOf]
  rw [inserts, createChunks, insertChunks_iff listed (orders_chunkEntry settings parsed _)
    fun chunk _ => free chunk.chunkOrder, List.pairwise_map]
  have apart : (chunkEntry settings parsed).Pairwise (fun first second =>
      ¬Clashes (first.row settings.embedding (db.entryOf parsed.slug).nextNumber)
        (second.row settings.embedding (db.entryOf parsed.slug).nextNumber)) ↔
      ((chunkEntry settings parsed).map (·.checksum)).Nodup := by
    unfold List.Nodup
    rw [List.pairwise_map]
    refine List.Pairwise.iff_of_mem fun {first second} left right => ?_
    rw [← single] at left right
    exact not_congr (clashes_rows _ left right _ _)
  rw [apart]
  constructor
  · rintro ⟨distinct, fresh⟩
    refine ⟨single ▸ distinct, fun chunk member stored stands => ?_⟩
    rw [single] at member
    exact not_or.mp (fresh _ (List.mem_map_of_mem member) stored ((chunks stored).mpr stands))
  · rintro ⟨distinct, fresh⟩
    rw [single] at distinct fresh
    refine ⟨distinct, fun row member stored stands => ?_⟩
    obtain ⟨chunk, among, rfl⟩ := List.mem_map.mp member
    exact not_or.mpr (fresh chunk among stored ((chunks stored).mp stands))

theorem database_of_quiet (quiet : Quiet faults db parsed.slug)
    (refused : ¬∃ outcome after,
      persistEntry settings faults parsed db = (.ok outcome, after)) :
    ∃ after, persistEntry settings faults parsed db = (.error .database, after) := by
  obtain ⟨prepared, -, succeeds, fails⟩ := persistEntry_of_quiet settings quiet
  exact ⟨prepared, fails (mt succeeds refused)⟩

/-! ### Persisting them all -/

theorem stored_persisted {outcome : EntryOutcome}
    (persisted : Persisted settings parsed db after outcome) (place : String) (position : Nat) :
    Stored after place position chunk ↔
      Stored db place position chunk ∨
        place = parsed.slug ∧ position = (db.entryOf parsed.slug).nextNumber ∧
          chunk ∈ (chunkEntry settings parsed).map
            (·.row settings.embedding (db.entryOf parsed.slug).nextNumber) := by
  by_cases same : place = parsed.slug
  · subst same
    unfold Stored
    rw [versionsOf_of_find ((persisted.find parsed.slug).trans (if_pos rfl)),
      MarketingKnowledgeEntry.persist, versions_entryOf]
    constructor
    · rintro ⟨version, member, numbered, stands⟩
      rcases List.mem_append.mp member with kept | added
      · obtain ⟨previous, among, rfl⟩ := List.mem_map.mp kept
        exact Or.inl ⟨previous, among, numbered, stands⟩
      · cases List.mem_singleton.mp added
        exact Or.inr ⟨rfl, numbered.symm, stands⟩
    · rintro (⟨version, member, numbered, stands⟩ | ⟨-, rfl, stands⟩)
      · exact ⟨version.retire, List.mem_append_left _ (List.mem_map_of_mem member), numbered,
          stands⟩
      · exact ⟨_, List.mem_append_right _ (List.mem_singleton_self _), rfl, stands⟩
  · rw [stored_congr ((persisted.find place).trans (if_neg same))]
    exact (or_iff_left fun clash => same clash.1).symm

theorem mem_chunks_persisted {outcome : EntryOutcome}
    (persisted : Persisted settings parsed db after outcome) :
    chunk ∈ after.chunks ↔ chunk ∈ db.chunks ∨ chunk ∈ (chunkEntry settings parsed).map
      (·.row settings.embedding (db.entryOf parsed.slug).nextNumber) := by
  simp only [mem_chunks, stored_persisted persisted, exists_or]
  refine or_congr_right ⟨?_, fun member => ⟨_, _, rfl, rfl, member⟩⟩
  rintro ⟨place, position, -, -, member⟩
  exact member

theorem fits_cons {rest : List ParsedKnowledgeEntry} {outcome : EntryOutcome}
    (persisted : Persisted settings parsed db after outcome) :
    Fits settings db (parsed :: rest) ↔ Fits settings db [parsed] ∧ Fits settings after rest := by
  have single : chunksOf settings [parsed] = chunkEntry settings parsed := by simp [chunksOf]
  have both : chunksOf settings (parsed :: rest) =
      chunkEntry settings parsed ++ chunksOf settings rest := List.flatMap_cons
  have clash : ∀ first ∈ chunkEntry settings parsed, ∀ second ∈ chunksOf settings rest,
      ∀ number, Clashes (first.row settings.embedding number) (second.row settings.embedding number)
        ↔ first.checksum = second.checksum := by
    intro first left second right number
    refine clashes_rows (parsed :: rest) ?_ ?_ number number
    · rw [both]
      exact List.mem_append_left _ left
    · rw [both]
      exact List.mem_append_right _ right
  constructor
  · rintro ⟨apart, fresh⟩
    rw [both, List.map_append, List.nodup_append] at apart
    rw [both] at fresh
    obtain ⟨one, others, disjoint⟩ := apart
    refine ⟨⟨single ▸ one, fun chunk member => ?_⟩, ⟨others, fun chunk member stored stands => ?_⟩⟩
    · rw [single] at member
      exact fresh chunk (List.mem_append_left _ member)
    · rcases (mem_chunks_persisted persisted).mp stands with before | added
      · exact fresh chunk (List.mem_append_right _ member) stored before
      · obtain ⟨first, among, rfl⟩ := List.mem_map.mp added
        refine not_or.mp fun clashes => ?_
        exact disjoint _ (List.mem_map_of_mem among) _ (List.mem_map_of_mem member)
          ((clash first among chunk member _).mp clashes)
  · rintro ⟨⟨one, firstFresh⟩, others, laterFresh⟩
    rw [single] at one firstFresh
    refine ⟨?_, fun chunk member stored stands => ?_⟩
    · rw [both, List.map_append, List.nodup_append]
      refine ⟨one, others, fun checksum left other right same => ?_⟩
      obtain ⟨first, among, rfl⟩ := List.mem_map.mp left
      obtain ⟨second, member, rfl⟩ := List.mem_map.mp right
      have added := (mem_chunks_persisted persisted).mpr (Or.inr (List.mem_map_of_mem among))
      exact not_or.mpr (laterFresh second member _ added)
        ((clash first among second member _).mpr same)
    · rw [both] at member
      rcases List.mem_append.mp member with first | later
      · exact firstFresh chunk first stored stands
      · exact laterFresh chunk later stored ((mem_chunks_persisted persisted).mpr (Or.inl stands))

theorem Fits.head {rest : List ParsedKnowledgeEntry} (fits : Fits settings db (parsed :: rest)) :
    Fits settings db [parsed] := by
  have both : chunksOf settings (parsed :: rest) =
      chunksOf settings [parsed] ++ chunksOf settings rest := by simp [chunksOf]
  obtain ⟨apart, fresh⟩ := fits
  rw [both] at apart fresh
  rw [List.map_append, List.nodup_append] at apart
  exact ⟨apart.1, fun chunk member => fresh chunk (List.mem_append_left _ member)⟩

/-- Without faults all entries are persisted exactly if their chunks fit. -/
theorem persistAll_iff (settings : Settings) {faults : String → Faults}
    {entries : List ParsedKnowledgeEntry} {progress : Progress}
    (distinct : (entries.map (·.slug)).Nodup)
    (quiet : ∀ parsed ∈ entries, Quiet (faults parsed.slug) progress.db parsed.slug) :
    (persistAll settings faults entries progress).isSome ↔
      Fits settings progress.db entries := by
  induction entries generalizing progress with
  | nil => exact iff_of_true rfl ⟨List.nodup_nil, by simp [chunksOf]⟩
  | cons parsed rest inductionHypothesis =>
      rw [List.map_cons, List.nodup_cons] at distinct
      have first := quiet parsed List.mem_cons_self
      by_cases persists : ∃ outcome after,
          persistEntry settings (faults parsed.slug) parsed progress.db = (.ok outcome, after)
      · obtain ⟨outcome, after, ran⟩ := persists
        have step : persistAll settings faults (parsed :: rest) progress =
            persistAll settings faults rest (progress.persisted after outcome) := by
          unfold persistAll
          rw [List.foldlM_cons, persistOne, ran]
          rfl
        have fits := (persistEntry_iff first).mp ⟨outcome, after, ran⟩
        have later : ∀ other ∈ rest, Quiet (faults other.slug) after other.slug := by
          intro other member
          have apart : other.slug ≠ parsed.slug := fun same =>
            distinct.1 (same ▸ List.mem_map_of_mem member)
          have kept := ((persisted_of_ok ran).find other.slug).trans (if_neg apart)
          unfold Quiet
          rw [executed_congr kept]
          exact quiet other (List.mem_cons_of_mem _ member)
        rw [step, inductionHypothesis distinct.2 later, fits_cons (persisted_of_ok ran)]
        exact (and_iff_right fits).symm
      · obtain ⟨after, ran⟩ := database_of_quiet first persists
        have step : persistAll settings faults (parsed :: rest) progress = none := by
          unfold persistAll
          rw [List.foldlM_cons, persistOne, ran]
          rfl
        rw [step]
        exact iff_of_false (by simp) fun fits =>
          persists ((persistEntry_iff first).mpr fits.head)

/-! ### The constraints -/

/-- The states after runs that all report success. -/
inductive ReachedBySuccess (settings : Settings) : State → Prop
  | empty : ReachedBySuccess settings .empty
  | ingest {state : State} (run : Run) : ReachedBySuccess settings state →
      (Step.ingest run).succeeds settings state →
        ReachedBySuccess settings ((Step.ingest run).apply settings state)

/-- Persisting the new and changed entries of the corpus violates no constraint. -/
def Ingestible (settings : Settings) (db : Database) (corpus : Corpus) (now : Int) : Prop :=
  (persistAll settings (fun _ _ => none) (toPersist db corpus now) (.start db)).isSome

/-- The new and changed entries of a corpus violate no constraint exactly if their chunks have texts
of their own, none of which is stored, for any entry and version, under the configured embedding,
and none of whose identifiers is stored. -/
theorem ingestible_iff (settings : Settings) (db : Database) (corpus : Corpus) (now : Int) :
    Ingestible settings db corpus now ↔ Fits settings db (toPersist db corpus now) :=
  persistAll_iff settings toPersist_nodup fun _ _ _ _ => rfl

/-! ### An edit that keeps a passage -/

namespace Samples

/-- Every line of a body is a chunk under its title, and a digest is the text. -/
def lineChunks : Settings where
  chunkTexts title body :=
    (body.toList.splitOn '\n').map fun line => title ++ "\n\n" ++ String.ofList line
  sha256 text := text
  embedding := ⟨"openai", "text-embedding-3-small", 1536, "v1"⟩

def firstEdition : Corpus :=
  ⟨[file "ramadan" "Ramadan" "Start early.\nPlan the budget."], by decide⟩

def secondEdition : Corpus :=
  ⟨[file "ramadan" "Ramadan" "Start early.\nPlan the budget twice."], by decide⟩

end Samples

/-- A file is published, and one of its two passages is edited: the row of the other is refused. -/
theorem kept_passage_is_refused :
    ¬ ∀ state, ReachedBySuccess Samples.lineChunks state →
      ∀ corpus now, Ingestible Samples.lineChunks state.db corpus now := by
  intro ingestible
  have published := ingestible _
    (.ingest (Samples.faultless Samples.firstEdition) .empty (by decide +kernel))
  exact absurd (published Samples.secondEdition 1) (by unfold Ingestible; decide +kernel)

end MarketMind.Knowledge
