import Mathlib.Data.List.MinMax
import MarketMind.Rag.Gaps

/-!
Owns the marketing knowledge of PostgreSQL: entries with their versions, source references and
chunks, the unique constraints of their tables, and the statements of the ingestion and of the
service that write them.

Does not own the runs that issue these statements. Versions stand inside their entry and chunks
inside their version, as their foreign keys have it. Left out are the columns that no statement
reads: primary keys, token counts, collection names, instants of creation and of indexing.
-/

namespace MarketMind.Knowledge

open Rag (ReviewStatus)

/-- A UUID: drawn at random, or the `uuid5` of a chunk's name or of a point's name. Different names
have different identifiers. -/
inductive Uuid
  | random (seed : Nat)
  | chunk (slug : String) (version order : Nat) (checksum : String)
  | point (chunkId : Uuid) (entryVersion : Nat)
deriving DecidableEq, Repr

/-- `generate_point_id` -/
def generatePointId (chunkId : Uuid) (entryVersion : Nat) : Uuid := .point chunkId entryVersion

/-! ### Rows -/

structure EmbeddingConfig where
  provider : String
  model : String
  dimensions : Nat
  version : String
deriving DecidableEq, Repr

/-- What a file says of an entry: its body and its front matter. -/
structure Content where
  kind : String
  title : String
  titleAr : Option String
  summary : String
  body : String
  locale : String
  markets : List String
  industries : List String
  businessModels : List String
  objectives : List String
  funnelStages : List String
  channels : List String
  seasons : List String
  budgetModes : List String
  evidenceTier : String
  effectiveAt : Int
  expiresAt : Option Int
  author : String
  reviewer : Option String
  reviewedAt : Option Int
deriving DecidableEq, Repr

structure MarketingKnowledgeChunk where
  chunkId : Uuid
  chunkOrder : Nat
  text : String
  checksum : String
  embedding : EmbeddingConfig
  qdrantPointId : Uuid
deriving DecidableEq, Repr

structure MarketingKnowledgeEntryVersion where
  version : Nat
  content : Content
  reviewStatus : ReviewStatus
  checksum : String
  sourceRefs : List String
  chunks : List MarketingKnowledgeChunk
deriving DecidableEq, Repr

structure MarketingKnowledgeEntry where
  slug : String
  latestVersion : Nat
  versions : List MarketingKnowledgeEntryVersion
deriving DecidableEq, Repr

/-- The entries, no two with the same slug. -/
structure Database where
  entries : List MarketingKnowledgeEntry
  distinct : (entries.map (·.slug)).Nodup

namespace MarketingKnowledgeEntryVersion

def retire (version : MarketingKnowledgeEntryVersion) : MarketingKnowledgeEntryVersion :=
  { version with reviewStatus := .retired }

end MarketingKnowledgeEntryVersion

namespace MarketingKnowledgeEntry

/-- `get_latest_version` -/
def latest (entry : MarketingKnowledgeEntry) : Option MarketingKnowledgeEntryVersion :=
  entry.versions.argmax (·.version)

/-- Change the versions with the number. -/
def setVersion (entry : MarketingKnowledgeEntry) (number : Nat)
    (change : MarketingKnowledgeEntryVersion → MarketingKnowledgeEntryVersion) :
    MarketingKnowledgeEntry :=
  { entry with
    versions := entry.versions.map fun version =>
      if version.version = number then change version else version }

def addVersion (entry : MarketingKnowledgeEntry) (version : MarketingKnowledgeEntryVersion) :
    MarketingKnowledgeEntry :=
  { entry with versions := entry.versions ++ [version] }

def setLatestVersion (entry : MarketingKnowledgeEntry) (number : Nat) : MarketingKnowledgeEntry :=
  { entry with latestVersion := number }

/-- `UPDATE … SET review_status = 'retired'` of the versions below the number. -/
def retirePrevious (entry : MarketingKnowledgeEntry) (number : Nat) : MarketingKnowledgeEntry :=
  { entry with
    versions := entry.versions.map fun version =>
      if version.version < number ∧ version.reviewStatus ≠ .retired then version.retire
      else version }

/-- `UPDATE … SET review_status = 'retired'` of the approved versions. -/
def retireApproved (entry : MarketingKnowledgeEntry) : MarketingKnowledgeEntry :=
  { entry with
    versions := entry.versions.map fun version =>
      if version.reviewStatus = .approved then version.retire else version }

end MarketingKnowledgeEntry

namespace Database

def empty : Database := ⟨[], List.nodup_nil⟩

/-- `get_entry_by_slug` -/
def find (db : Database) (slug : String) : Option MarketingKnowledgeEntry :=
  db.entries.find? (·.slug = slug)

/-- Add an entry without versions, unless its slug is in use. -/
def createEntry (db : Database) (slug : String) : Database :=
  if fresh : slug ∉ db.entries.map (·.slug) then
    { entries := db.entries ++ [⟨slug, 0, []⟩]
      distinct := by
        rw [List.map_append, List.map_singleton]
        exact db.distinct.append (List.nodup_singleton _) (by simpa using fresh) }
  else db

/-- Change every entry, but for its slug. -/
def mapEntries (db : Database) (change : MarketingKnowledgeEntry → MarketingKnowledgeEntry)
    (sameSlug : ∀ entry, (change entry).slug = entry.slug) : Database where
  entries := db.entries.map change
  distinct := by
    have slugs : (db.entries.map change).map (·.slug) = db.entries.map (·.slug) := by
      rw [List.map_map]
      exact List.map_congr_left fun entry _ => sameSlug entry
    rw [slugs]
    exact db.distinct

/-- Change the entry with the slug. -/
def modify (db : Database) (slug : String)
    (change : MarketingKnowledgeEntry → MarketingKnowledgeEntry)
    (sameSlug : ∀ entry, (change entry).slug = entry.slug) : Database :=
  db.mapEntries (fun entry => if entry.slug = slug then change entry else entry) fun entry => by
    split
    · exact sameSlug entry
    · rfl

/-- All chunks. -/
def chunks (db : Database) : List MarketingKnowledgeChunk :=
  db.entries.flatMap fun entry => entry.versions.flatMap (·.chunks)

/-- The versions of the slug. -/
def versionsOf (db : Database) (slug : String) : List MarketingKnowledgeEntryVersion :=
  ((db.find slug).map (·.versions)).getD []

end Database

/-! ### The corpus -/

/-- `ParsedKnowledgeEntry` -/
structure ParsedKnowledgeEntry where
  slug : String
  version : Nat
  content : Content
  bodyChecksum : String
  reviewStatus : ReviewStatus
  sourceReferences : List String
deriving DecidableEq, Repr

/-- A validated corpus: no two files have the same slug. -/
structure Corpus where
  entries : List ParsedKnowledgeEntry
  distinct : (entries.map (·.slug)).Nodup

def Corpus.slugs (corpus : Corpus) : List String := corpus.entries.map (·.slug)

/-- `KnowledgeChunk` -/
structure KnowledgeChunk where
  chunkOrder : Nat
  text : String
  checksum : String
  chunkId : Uuid
deriving DecidableEq, Repr

/-- The split of a body under its title, the digest of a text, and the configured embedding. -/
structure Settings where
  chunkTexts : (title body : String) → List String
  sha256 : String → String
  embedding : EmbeddingConfig

/-- `_make_chunk` -/
def makeChunk (settings : Settings) (parsed : ParsedKnowledgeEntry) (order : Nat) (text : String) :
    KnowledgeChunk where
  chunkOrder := order
  text
  checksum := settings.sha256 text
  chunkId := .chunk parsed.slug parsed.version order (settings.sha256 text)

def chunkEntry (settings : Settings) (parsed : ParsedKnowledgeEntry) : List KnowledgeChunk :=
  (settings.chunkTexts parsed.content.title parsed.content.body).mapIdx (makeChunk settings parsed)

/-! ### Statements of the ingestion -/

/-- A statement that fails: the database refuses it, or something else is raised. -/
inductive Failure
  | database
  | other
deriving DecidableEq, Repr

/-- The row of a new version, before its source references and chunks. -/
def ParsedKnowledgeEntry.row (parsed : ParsedKnowledgeEntry) (number : Nat) :
    MarketingKnowledgeEntryVersion where
  version := number
  content := parsed.content
  reviewStatus := parsed.reviewStatus
  checksum := parsed.bodyChecksum
  sourceRefs := []
  chunks := []

def createVersion (parsed : ParsedKnowledgeEntry) (number : Nat) (db : Database) :
    Except Failure Database :=
  if number ∈ (db.versionsOf parsed.slug).map (·.version) then .error .database
  else .ok (db.modify parsed.slug (·.addVersion (parsed.row number)) fun _ => rfl)

def createSourceRefs (slug : String) (number : Nat) (references : List String) (db : Database) :
    Database :=
  db.modify slug (fun entry => entry.setVersion number fun version =>
    { version with sourceRefs := version.sourceRefs ++ references }) fun _ => rfl

/-- The row of a chunk. -/
def KnowledgeChunk.row (chunk : KnowledgeChunk) (embedding : EmbeddingConfig) (number : Nat) :
    MarketingKnowledgeChunk where
  chunkId := chunk.chunkId
  chunkOrder := chunk.chunkOrder
  text := chunk.text
  checksum := chunk.checksum
  embedding
  qdrantPointId := generatePointId chunk.chunkId number

/-- The unique constraints of the table: on the chunk id, on the checksum under an embedding
configuration, and on the order in a version. -/
def accepts (db : Database) (slug : String) (number : Nat) (chunk : MarketingKnowledgeChunk) :
    Bool :=
  (db.chunks.all fun stored =>
    decide (stored.chunkId ≠ chunk.chunkId) &&
      decide ¬(stored.checksum = chunk.checksum ∧ stored.embedding = chunk.embedding)) &&
    (db.versionsOf slug).all fun version =>
      decide (version.version ≠ number) ||
        version.chunks.all fun stored => decide (stored.chunkOrder ≠ chunk.chunkOrder)

def addChunk (slug : String) (number : Nat) (chunk : MarketingKnowledgeChunk) (db : Database) :
    Database :=
  db.modify slug (fun entry => entry.setVersion number fun version =>
    { version with chunks := version.chunks ++ [chunk] }) fun _ => rfl

/-- Insert the rows in turn. -/
def insertChunks (slug : String) (number : Nat) :
    List MarketingKnowledgeChunk → Database → Except Failure Database
  | [], db => .ok db
  | chunk :: rest, db =>
      if accepts db slug number chunk then
        insertChunks slug number rest (addChunk slug number chunk db)
      else .error .database

def createChunks (settings : Settings) (slug : String) (number : Nat)
    (chunks : List KnowledgeChunk) (db : Database) : Except Failure Database :=
  insertChunks slug number (chunks.map (·.row settings.embedding number)) db

def updateEntryLatestVersion (slug : String) (number : Nat) (db : Database) : Database :=
  db.modify slug (·.setLatestVersion number) fun _ => rfl

def retirePreviousVersions (slug : String) (number : Nat) (db : Database) : Database :=
  db.modify slug (·.retirePrevious number) fun _ => rfl

/-- The numbers of the versions that `retire_previous_versions` retires. -/
def previousVersions (slug : String) (number : Nat) (db : Database) : List Nat :=
  ((db.versionsOf slug).filter fun version =>
    version.version < number && version.reviewStatus ≠ .retired).map (·.version)

/-- The latest version of an entry that is not in the corpus, unless it is retired. -/
def removedVersion (slugs : List String) (entry : MarketingKnowledgeEntry) : Option Nat :=
  if entry.slug ∈ slugs then none
  else (entry.latest.filter (·.reviewStatus ≠ .retired)).map (·.version)

/-- What is retired, and the database without it. -/
def retireRemovedEntries (slugs : List String) (db : Database) : List (String × Nat) × Database :=
  (db.entries.filterMap fun entry => (removedVersion slugs entry).map fun number =>
      (entry.slug, number),
    db.mapEntries (fun entry =>
      match removedVersion slugs entry with
      | none => entry
      | some number => entry.setVersion number (·.retire)) fun entry => by split <;> rfl)

/-! ### The service -/

/-- `CreateEntryVersionDto`, as it passes the validation -/
structure CreateEntryVersionDto where
  slug : String
  content : Content
  reviewStatus : Option ReviewStatus
  checksum : String
  sources : List String
deriving DecidableEq, Repr

/-- The row of a new version; the service has no Arabic title. -/
def CreateEntryVersionDto.row (dto : CreateEntryVersionDto) (number : Nat) :
    MarketingKnowledgeEntryVersion where
  version := number
  content := { dto.content with titleAr := none }
  reviewStatus := dto.reviewStatus.getD .draft
  checksum := dto.checksum
  sourceRefs := dto.sources
  chunks := []

/-- What `createNewVersion` makes of the entry. -/
def MarketingKnowledgeEntry.supersede (entry : MarketingKnowledgeEntry)
    (dto : CreateEntryVersionDto) : MarketingKnowledgeEntry :=
  let number := entry.latestVersion + 1
  let kept := if dto.reviewStatus = some .approved then entry.retireApproved else entry
  (kept.addVersion (dto.row number)).setLatestVersion number

theorem MarketingKnowledgeEntry.slug_supersede (entry : MarketingKnowledgeEntry)
    (dto : CreateEntryVersionDto) : (entry.supersede dto).slug = entry.slug := by
  unfold supersede
  dsimp only [setLatestVersion, addVersion]
  split <;> rfl

/-- One transaction: nothing is written when the number is taken. -/
def createNewVersion (dto : CreateEntryVersionDto) (db : Database) : Database :=
  let upserted := db.createEntry dto.slug
  match upserted.find dto.slug with
  | none => db
  | some entry =>
      if entry.latestVersion + 1 ∈ entry.versions.map (·.version) then db
      else upserted.modify dto.slug (·.supersede dto) fun entry => entry.slug_supersede dto

end MarketMind.Knowledge
