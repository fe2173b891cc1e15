import MarketMind.Knowledge.Store

/-!
Owns a run of the ingestion and a rebuild of the index: what a run makes of every entry of the
corpus, its savepoints, the retirement of removed entries, the points that it upserts and deletes,
and its report.

Does not own the loading of the corpus. A run reads the clock once. The texts of errors, the
embedded vectors and the rows of the runs themselves are left out.
-/

namespace MarketMind.Knowledge

open Rag (ReviewStatus)

/-! ### One entry -/

/-- Statements of `_persist_entry`; what they have written stays when one of them fails. -/
def Persist (α : Type) : Type := Database → Except Failure α × Database

namespace Persist

variable {α β : Type}

instance : Monad Persist where
  pure value := fun db => (.ok value, db)
  bind program next := fun db =>
    match program db with
    | (.ok value, after) => next value after
    | (.error failure, after) => (.error failure, after)

end Persist

inductive PersistStatement
  | getEntryBySlug
  | createEntry
  | getLatestVersion
  | createVersion
  | createSourceRefs
  | createChunks
  | updateEntryLatestVersion
  | selectPreviousVersions
  | retirePreviousVersions
deriving DecidableEq, Repr

/-- Which statements fail, and how. -/
abbrev Faults := PersistStatement → Option Failure

section Statements

variable {α : Type}

/-- A statement that fails has no effect. -/
def statement (faults : Faults) (which : PersistStatement)
    (effect : Database → Except Failure (α × Database)) : Persist α := fun db =>
  match faults which with
  | some failure => (.error failure, db)
  | none =>
      match effect db with
      | .ok (value, after) => (.ok value, after)
      | .error failure => (.error failure, db)

def reading (faults : Faults) (which : PersistStatement) (read : Database → α) : Persist α :=
  statement faults which fun db => .ok (read db, db)

def writing (faults : Faults) (which : PersistStatement)
    (write : Database → Except Failure Database) : Persist Unit :=
  statement faults which fun db => (write db).map fun after => ((), after)

end Statements

inductive EntryStatus
  | new
  | updated
  | retired
deriving DecidableEq, Repr

structure IngestionEntryResult where
  slug : String
  previousVersion : Option Nat
  newVersion : Option Nat
  status : EntryStatus
  chunkCount : Nat
deriving DecidableEq, Repr

structure EntryOutcome where
  result : IngestionEntryResult
  version : Nat
  retiredVersions : List Nat
deriving DecidableEq, Repr

/-- The first statements of `_persist_entry`: the number of the latest version, none for a new
entry, 0 for an entry without versions. -/
def previousVersion (faults : Faults) (slug : String) : Persist (Option Nat) := do
  let entry ← reading faults .getEntryBySlug (·.find slug)
  match entry with
  | none => do
      writing faults .createEntry fun db => .ok (db.createEntry slug)
      return none
  | some entry => do
      let latest ← reading faults .getLatestVersion fun _ => entry.latest
      return some ((latest.map (·.version)).getD 0)

/-- The statements of `_persist_entry` after the new row of its version. -/
def completeVersion (settings : Settings) (faults : Faults) (parsed : ParsedKnowledgeEntry)
    (previous : Option Nat) (number : Nat) : Persist EntryOutcome := do
  let chunks := chunkEntry settings parsed
  writing faults .createSourceRefs fun db =>
    .ok (createSourceRefs parsed.slug number parsed.sourceReferences db)
  writing faults .createChunks (createChunks settings parsed.slug number chunks)
  writing faults .updateEntryLatestVersion fun db =>
    .ok (updateEntryLatestVersion parsed.slug number db)
  let retired ← if previous.getD 0 = 0 then pure [] else
    reading faults .selectPreviousVersions (previousVersions parsed.slug number)
  writing faults .retirePreviousVersions fun db =>
    .ok (retirePreviousVersions parsed.slug number db)
  return {
    result := ⟨parsed.slug, previous, some number, if previous.isNone then .new else .updated,
      chunks.length⟩
    version := number
    retiredVersions := retired }

def persistEntry (settings : Settings) (faults : Faults) (parsed : ParsedKnowledgeEntry) :
    Persist EntryOutcome := do
  let previous ← previousVersion faults parsed.slug
  let number := previous.getD 0 + 1
  writing faults .createVersion (createVersion parsed number)
  completeVersion settings faults parsed previous number

/-! ### The classification -/

inductive Classification
  | new
  | changed
  | unchanged
deriving DecidableEq, Repr

/-- The body is compared with the latest version in any review status. -/
def classify (db : Database) (parsed : ParsedKnowledgeEntry) : Classification :=
  match db.find parsed.slug with
  | none => .new
  | some entry =>
      match entry.latest with
      | none => .new
      | some latest => if latest.checksum = parsed.bodyChecksum then .unchanged else .changed

def isEntryEligible (now : Int) (parsed : ParsedKnowledgeEntry) : Bool :=
  decide (parsed.reviewStatus = .approved) && decide (parsed.content.effectiveAt ≤ now) &&
    parsed.content.expiresAt.all fun expiresAt => now < expiresAt

/-- `eligible_new + eligible_changed` -/
def toPersist (db : Database) (corpus : Corpus) (now : Int) : List ParsedKnowledgeEntry :=
  (corpus.entries.filter fun parsed =>
    classify db parsed = .new && isEntryEligible now parsed) ++
    corpus.entries.filter fun parsed =>
      classify db parsed = .changed && isEntryEligible now parsed

/-- The entries that count as skipped. -/
def skipped (db : Database) (corpus : Corpus) (now : Int) : List ParsedKnowledgeEntry :=
  corpus.entries.filter fun parsed =>
    classify db parsed = .unchanged || !isEntryEligible now parsed

/-! ### The loop over the entries -/

inductive IngestionErrorCode
  | dbWriteFailed
  | embeddingProviderError
  | qdrantUpsertFailed
deriving DecidableEq, Repr

structure IngestionError where
  slug : Option String
  version : Option Nat
  code : IngestionErrorCode
deriving DecidableEq, Repr

/-- What a run has gathered in PostgreSQL; versions go by their slug and number. -/
structure Progress where
  db : Database
  enteredCount : Nat
  updatedCount : Nat
  failedCount : Nat
  errors : List IngestionError
  results : List IngestionEntryResult
  created : List (String × Nat)
  retired : List (String × Nat)

def Progress.start (db : Database) : Progress := ⟨db, 0, 0, 0, [], [], [], []⟩

def Progress.persisted (progress : Progress) (db : Database) (outcome : EntryOutcome) :
    Progress where
  db
  enteredCount := progress.enteredCount + if outcome.result.status = .new then 1 else 0
  updatedCount := progress.updatedCount + if outcome.result.status = .new then 0 else 1
  failedCount := progress.failedCount
  errors := progress.errors
  results := progress.results ++ [outcome.result]
  created := progress.created ++ [(outcome.result.slug, outcome.version)]
  retired := progress.retired ++ outcome.retiredVersions.map fun number =>
    (outcome.result.slug, number)

def Progress.failed (progress : Progress) (db : Database) (error : IngestionError) : Progress :=
  { progress with
    db
    failedCount := progress.failedCount + 1
    errors := progress.errors ++ [error] }

/-- One entry in its savepoint. The exception is caught inside: after a failure of the database the
error cannot be recorded and the run raises; after any other the savepoint is released with what
was written. -/
def persistOne (settings : Settings) (faults : String → Faults) (progress : Progress)
    (parsed : ParsedKnowledgeEntry) : Option Progress :=
  match persistEntry settings (faults parsed.slug) parsed progress.db with
  | (.ok outcome, db) => some (progress.persisted db outcome)
  | (.error .other, db) =>
      some (progress.failed db ⟨some parsed.slug, some parsed.version, .dbWriteFailed⟩)
  | (.error .database, _) => none

def persistAll (settings : Settings) (faults : String → Faults)
    (entries : List ParsedKnowledgeEntry) (progress : Progress) : Option Progress :=
  entries.foldlM (persistOne settings faults) progress

/-- The retirement of removed entries; its savepoint is rolled back when it fails. -/
def retireRemoved (fails : Bool) (corpus : Corpus) (progress : Progress) : Progress :=
  if fails then progress.failed progress.db ⟨none, none, .dbWriteFailed⟩
  else
    let (removed, db) := retireRemovedEntries corpus.slugs progress.db
    { progress with
      db
      results := progress.results ++ removed.map fun (slug, number) =>
        ⟨slug, some number, none, .retired, 0⟩
      retired := progress.retired ++ removed }

/-! ### The index -/

/-- The payload of a point; the entry goes by its slug. -/
structure QdrantKnowledgePoint where
  chunkId : Uuid
  entrySlug : String
  entryVersion : Nat
  checksum : String
  text : String
  content : Content
  reviewStatus : ReviewStatus
deriving DecidableEq, Repr

/-- The points of the collection. -/
abbrev Index := Uuid → Option QdrantKnowledgePoint

def buildQdrantPayload (slug : String) (version : MarketingKnowledgeEntryVersion)
    (chunk : MarketingKnowledgeChunk) : QdrantKnowledgePoint where
  chunkId := chunk.chunkId
  entrySlug := slug
  entryVersion := version.version
  checksum := chunk.checksum
  text := chunk.text
  content := version.content
  reviewStatus := version.reviewStatus

/-- The points of a version's chunks under their identifiers. -/
def versionPoints (slug : String) (version : MarketingKnowledgeEntryVersion) :
    List (Uuid × QdrantKnowledgePoint) :=
  version.chunks.map fun chunk =>
    (generatePointId chunk.chunkId version.version, buildQdrantPayload slug version chunk)

def upsertPoints (points : List (Uuid × QdrantKnowledgePoint)) (index : Index) : Index :=
  points.foldl (fun index point => Function.update index point.1 (some point.2)) index

def deletePoints (ids : List Uuid) (index : Index) : Index :=
  fun id => if id ∈ ids then none else index id

/-- The versions with the slug and the number. -/
def Database.version (db : Database) (slug : String) (number : Nat) :
    Option MarketingKnowledgeEntryVersion :=
  (db.versionsOf slug).find? (·.version = number)

/-! ### A run -/

/-- A run over a corpus with the failures that it meets. An upsert or a deletion that fails may
have gone through for the first so many points. -/
structure Run where
  corpus : Corpus
  now : Int
  persistFaults : String → Faults
  retireFails : Bool
  embeddingFails : Bool
  upsertFails : String → Option Nat
  deleteFails : String → Nat → Option Nat

inductive RunStatus
  | succeeded
  | partialFailure
  | failed
deriving DecidableEq, Repr

structure IngestionReport where
  status : RunStatus
  enteredCount : Nat
  updatedCount : Nat
  skippedCount : Nat
  failedCount : Nat
  errors : List IngestionError
  entries : List IngestionEntryResult
deriving DecidableEq, Repr

structure State where
  db : Database
  index : Index

/-- What a run commits to PostgreSQL, unless it raises. -/
def ingestDatabase (settings : Settings) (run : Run) (db : Database) : Option Progress :=
  (persistAll settings run.persistFaults (toPersist db run.corpus run.now) (.start db)).map
    (retireRemoved run.retireFails run.corpus)

/-- `_upsert_entry_to_qdrant`, with its error -/
def upsertEntry (run : Run) (slug : String) (version : MarketingKnowledgeEntryVersion)
    (index : Index) : Index × List IngestionError :=
  let points := versionPoints slug version
  match run.upsertFails slug with
  | none => (upsertPoints points index, [])
  | some written =>
      (upsertPoints (points.take written) index,
        [⟨some slug, some version.version, .qdrantUpsertFailed⟩])

/-- The versions that the run has created, one after the other; without embeddings, and for a
version without chunks, nothing is upserted. -/
def upsertAll (run : Run) (db : Database) :
    List (String × Nat) → Index → Index × List IngestionError
  | [], index => (index, [])
  | (slug, number) :: rest, index =>
      match db.version slug number with
      | none => upsertAll run db rest index
      | some version =>
          if run.embeddingFails || version.chunks.isEmpty then upsertAll run db rest index
          else
            let (after, errors) := upsertEntry run slug version index
            let (last, further) := upsertAll run db rest after
            (last, errors ++ further)

/-- The identifiers that `_cleanup_retired_qdrant_points` deletes for a version. -/
def deletedIds (run : Run) (db : Database) (slug : String) (number : Nat) : List Uuid :=
  match db.version slug number with
  | none => []
  | some version =>
      let ids := version.chunks.map fun chunk => generatePointId chunk.chunkId number
      match run.deleteFails slug number with
      | none => ids
      | some deleted => ids.take deleted

/-- Failures of the cleanup are logged, but not reported. -/
def cleanupRetired (run : Run) (db : Database) (retired : List (String × Nat)) (index : Index) :
    Index :=
  deletePoints (retired.flatMap fun (slug, number) => deletedIds run db slug number) index

def finalStatus (errors : List IngestionError) (written : Nat) : RunStatus :=
  if errors.isEmpty then .succeeded else if written = 0 then .failed else .partialFailure

/-- A run with its report, or without one when it raises: then PostgreSQL has rolled back. -/
def ingest (settings : Settings) (run : Run) (state : State) : State × Option IngestionReport :=
  match ingestDatabase settings run state.db with
  | none => (state, none)
  | some progress =>
      let embeddingErrors : List IngestionError :=
        if run.embeddingFails && progress.created.any (fun (slug, number) =>
            (progress.db.version slug number).any fun version => !version.chunks.isEmpty)
        then [⟨none, none, .embeddingProviderError⟩] else []
      let (upserted, upsertErrors) := upsertAll run progress.db progress.created state.index
      let index := cleanupRetired run progress.db progress.retired upserted
      let errors := progress.errors ++ embeddingErrors ++ upsertErrors
      (⟨progress.db, index⟩, some {
        status := finalStatus errors (progress.enteredCount + progress.updatedCount)
        enteredCount := progress.enteredCount
        updatedCount := progress.updatedCount
        skippedCount := (skipped state.db run.corpus run.now).length
        failedCount := progress.failedCount + embeddingErrors.length + upsertErrors.length
        errors
        entries := progress.results })

/-! ### A rebuild -/

/-- The latest version of an entry, if it is approved. -/
def liveApproved (entry : MarketingKnowledgeEntry) : List MarketingKnowledgeEntryVersion :=
  entry.versions.filter fun version =>
    version.version = entry.latestVersion && version.reviewStatus = .approved

/-- `get_live_approved_versions`, by the places of the entries -/
def getLiveApprovedVersions (db : Database) :
    List (String × MarketingKnowledgeEntryVersion) :=
  db.entries.flatMap fun entry => (liveApproved entry).map fun version => (entry.slug, version)

/-- The embedding or the upsert of a version fails, with so many points written. -/
abbrev RebuildFaults := String → Option Nat

def rebuildAll (faults : RebuildFaults) :
    List (String × MarketingKnowledgeEntryVersion) → Index → Index × List IngestionError
  | [], index => (index, [])
  | (slug, version) :: rest, index =>
      if version.chunks.isEmpty then rebuildAll faults rest index
      else
        let points := versionPoints slug version
        match faults slug with
        | none => rebuildAll faults rest (upsertPoints points index)
        | some written =>
            let (last, further) := rebuildAll faults rest (upsertPoints (points.take written) index)
            (last, ⟨some slug, some version.version, .qdrantUpsertFailed⟩ :: further)

def rebuildQdrantIndex (faults : RebuildFaults) (state : State) : State × RunStatus :=
  let (index, errors) := rebuildAll faults (getLiveApprovedVersions state.db) state.index
  ({ state with index }, if errors.isEmpty then .succeeded else .partialFailure)

/-! ### Histories -/

/-- What may happen to the knowledge base. -/
inductive Step
  | ingest (run : Run)
  | rebuild (faults : RebuildFaults)
  | createNewVersion (dto : CreateEntryVersionDto)

def Step.apply (settings : Settings) (state : State) : Step → State
  | ingest run => (Knowledge.ingest settings run state).1
  | rebuild faults => (rebuildQdrantIndex faults state).1
  | createNewVersion dto => { state with db := Knowledge.createNewVersion dto state.db }

def State.empty : State := ⟨.empty, fun _ => none⟩

end MarketMind.Knowledge
