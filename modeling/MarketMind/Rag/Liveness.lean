import MarketMind.Rag.Gaps

/-!
Owns the definitions of live knowledge: the predicate of the eligibility service, the export of its
chunks, the versions that a rebuild of the index takes, and the check of the hydration.

Does not own how versions and chunks come about.
-/

namespace MarketMind.Rag

open MarketMind.Transactions

/-! ### PostgreSQL -/

structure KnowledgeEntry where
  id : Uuid
  slug : String
  latestVersion : Nat
deriving DecidableEq, Repr

instance : Keyed KnowledgeEntry := ⟨KnowledgeEntry.id⟩

/-- A version, with the columns that only the index reads. -/
structure KnowledgeVersion where
  row : MarketingKnowledgeEntryVersion
  locale : String
  titleAr : Option String
deriving DecidableEq, Repr

/-- The version under its entry and number. -/
def KnowledgeVersion.key (version : KnowledgeVersion) : Uuid × Nat :=
  (version.row.entryId, version.row.version)

/-- A chunk with its version; `id` is the primary key of its row. -/
structure KnowledgeChunk where
  id : Uuid
  chunkId : Uuid
  chunkOrder : Nat
  text : String
  checksum : String
  version : KnowledgeVersion
deriving DecidableEq, Repr

instance : Keyed KnowledgeChunk := ⟨KnowledgeChunk.chunkId⟩

structure KnowledgeBase where
  entries : Table KnowledgeEntry
  versions : List KnowledgeVersion
  chunks : Table KnowledgeChunk
  distinct : (versions.map (·.key)).Nodup
  owned : ∀ chunk ∈ chunks.rows, chunk.version ∈ versions

/-- What the hydration loads of a chunk. -/
def KnowledgeChunk.toRow (chunk : KnowledgeChunk) : MarketingKnowledgeChunk :=
  ⟨chunk.chunkId, chunk.text, chunk.version.row⟩

def KnowledgeBase.hydrationRows (base : KnowledgeBase) : Table MarketingKnowledgeChunk where
  rows := base.chunks.rows.map (·.toRow)
  distinct := by
    rw [List.map_map]
    exact base.chunks.distinct

/-! ### The eligibility service -/

def eligibilityPredicate (now : Int) (version : KnowledgeVersion) : Bool :=
  decide (version.row.reviewStatus = .approved) && decide (version.row.effectiveAt ≤ now) &&
    (version.row.expiresAt.isNone || version.row.expiresAt.any fun expiresAt => now < expiresAt)

/-- `findEligible` without a filter -/
def findEligible (base : KnowledgeBase) (now : Int) : List KnowledgeVersion :=
  (base.versions.filter (eligibilityPredicate now)).insertionSort fun left right =>
    right.row.effectiveAt ≤ left.row.effectiveAt

/-! ### Points of the index -/

structure QdrantKnowledgePoint where
  chunkId : Uuid
  entryId : Uuid
  entryVersion : Nat
  checksum : String
  text : String
  kind : String
  titleAr : Option String
  locale : String
  markets : List String
  industries : List String
  businessModels : List String
  objectives : List String
  funnelStages : List String
  channels : List String
  seasons : List String
  budgetModes : List String
  requiresPaidMedia : Bool
  evidenceTier : String
  reviewStatus : ReviewStatus
  effectiveAt : Int
  expiresAt : Option Int
deriving DecidableEq, Repr

def paidMediaBudgetModes : List String := ["paid_only", "monthly_amount", "three_month_amount"]

def requiresPaidMedia (budgetModes : List String) : Bool :=
  budgetModes.any (· ∈ paidMediaBudgetModes)

/-- The payload of a chunk under the identifier that it is given. -/
def KnowledgeChunk.toPoint (chunk : KnowledgeChunk) (chunkId : Uuid) : QdrantKnowledgePoint where
  chunkId
  entryId := chunk.version.row.entryId
  entryVersion := chunk.version.row.version
  checksum := chunk.checksum
  text := chunk.text
  kind := chunk.version.row.kind
  titleAr := chunk.version.titleAr
  locale := chunk.version.locale
  markets := chunk.version.row.markets
  industries := chunk.version.row.industries
  businessModels := chunk.version.row.businessModels
  objectives := chunk.version.row.objectives
  funnelStages := chunk.version.row.funnelStages
  channels := chunk.version.row.channels
  seasons := chunk.version.row.seasons
  budgetModes := chunk.version.row.budgetModes
  requiresPaidMedia := requiresPaidMedia chunk.version.row.budgetModes
  evidenceTier := chunk.version.row.evidenceTier
  reviewStatus := chunk.version.row.reviewStatus
  effectiveAt := chunk.version.row.effectiveAt
  expiresAt := chunk.version.row.expiresAt

/-! ### The export -/

/-- The chunks whose version is eligible. -/
def eligibleChunks (base : KnowledgeBase) (now : Int) : List KnowledgeChunk :=
  (base.chunks.rows.filter fun chunk => eligibilityPredicate now chunk.version).insertionSort
    fun left right => left.chunkOrder ≤ right.chunkOrder

/-- The export names a chunk by the primary key of its row. -/
def exportPoint (chunk : KnowledgeChunk) : QdrantKnowledgePoint := chunk.toPoint chunk.id

/-! ### The rebuild -/

def getLiveApprovedVersions (base : KnowledgeBase) : List (KnowledgeEntry × KnowledgeVersion) :=
  (base.entries.rows.flatMap fun entry =>
    (base.versions.filter fun version =>
      entry.id = version.row.entryId && entry.latestVersion = version.row.version &&
        version.row.reviewStatus = .approved).map fun version => (entry, version)).insertionSort
    fun left right => left.1.slug ≤ right.1.slug

def getChunksByVersion (base : KnowledgeBase) (version : KnowledgeVersion) : List KnowledgeChunk :=
  (base.chunks.rows.filter fun chunk => chunk.version.key = version.key).insertionSort
    fun left right => left.chunkOrder ≤ right.chunkOrder

/-- The chunks that a rebuild upserts. -/
def rebuiltChunks (base : KnowledgeBase) : List KnowledgeChunk :=
  (getLiveApprovedVersions base).flatMap fun live => getChunksByVersion base live.2

/-- `_build_qdrant_payload` -/
def buildQdrantPayload (chunk : KnowledgeChunk) : QdrantKnowledgePoint :=
  chunk.toPoint chunk.chunkId

/-! ### One definition -/

/-- A candidate with the chunk id, whatever else it carries, is hydrated with that chunk. -/
def Resolves (base : KnowledgeBase) (now : Int) (chunkId : Uuid) (chunk : KnowledgeChunk) : Prop :=
  ∀ (F : Type) (regional : RegionalCandidate F) (subqueries : List RetrievalSubquery),
    regional.candidate.chunkId = chunkId →
      (hydrateCandidates base.hydrationRows [regional] subqueries now).1 =
        [hydratedItem regional chunk.toRow]

/-- The four readers take the same versions for live, and the chunk ids of both kinds of points
lead back to their chunks. -/
structure OneLiveKnowledge (base : KnowledgeBase) (now : Int) : Prop where
  rebuild : ∀ version ∈ base.versions,
    version ∈ (getLiveApprovedVersions base).map Prod.snd ↔ version ∈ findEligible base now
  exported : ∀ chunk ∈ base.chunks.rows,
    chunk ∈ eligibleChunks base now ↔ chunk.version ∈ findEligible base now
  hydrated : ∀ chunk ∈ base.chunks.rows,
    Resolves base now chunk.chunkId chunk ↔ chunk.version ∈ findEligible base now
  exportResolves : ∀ chunk ∈ eligibleChunks base now,
    Resolves base now (exportPoint chunk).chunkId chunk
  rebuildResolves : ∀ chunk ∈ rebuiltChunks base,
    Resolves base now (buildQdrantPayload chunk).chunkId chunk

/-- The entry has the version as its latest. -/
def IsLatest (base : KnowledgeBase) (version : KnowledgeVersion) : Prop :=
  ∃ entry ∈ base.entries.rows,
    entry.id = version.row.entryId ∧ entry.latestVersion = version.row.version

/-- The version is effective and not expired. -/
def InForce (now : Int) (version : KnowledgeVersion) : Prop :=
  version.row.effectiveAt ≤ now ∧ ∀ expiresAt ∈ version.row.expiresAt, now < expiresAt

/-- The approved versions in force are the latest ones, and the chunks of these are named by their
primary keys. -/
structure SameLiveness (base : KnowledgeBase) (now : Int) : Prop where
  latest : ∀ version ∈ base.versions, version.row.reviewStatus = .approved →
    (IsLatest base version ↔ InForce now version)
  named : ∀ chunk ∈ base.chunks.rows, chunk.version.row.reviewStatus = .approved →
    InForce now chunk.version → chunk.id = chunk.chunkId

variable {base : KnowledgeBase} {now : Int} {version : KnowledgeVersion} {chunk : KnowledgeChunk}
  {chunkId : Uuid}

theorem eligibilityPredicate_iff :
    eligibilityPredicate now version = true ↔
      version.row.reviewStatus = .approved ∧ InForce now version := by
  unfold eligibilityPredicate InForce
  cases version.row.expiresAt <;> simp [and_assoc]

theorem isEligible_iff :
    version.row.IsEligible now ↔
      version.row.reviewStatus = .approved ∧ InForce now version := Iff.rfl

theorem mem_findEligible (member : version ∈ base.versions) :
    version ∈ findEligible base now ↔
      version.row.reviewStatus = .approved ∧ InForce now version := by
  rw [findEligible, List.mem_insertionSort, List.mem_filter, eligibilityPredicate_iff]
  exact and_iff_right member

theorem mem_eligibleChunks :
    chunk ∈ eligibleChunks base now ↔ chunk ∈ base.chunks.rows ∧
      chunk.version.row.reviewStatus = .approved ∧ InForce now chunk.version := by
  rw [eligibleChunks, List.mem_insertionSort, List.mem_filter, eligibilityPredicate_iff]

theorem mem_getLiveApprovedVersions :
    version ∈ (getLiveApprovedVersions base).map Prod.snd ↔
      version ∈ base.versions ∧ version.row.reviewStatus = .approved ∧ IsLatest base version := by
  constructor
  · intro member
    obtain ⟨live, isLive, rfl⟩ := List.mem_map.mp member
    rw [getLiveApprovedVersions, List.mem_insertionSort, List.mem_flatMap] at isLive
    obtain ⟨entry, entered, isLive⟩ := isLive
    obtain ⟨row, among, same⟩ := List.mem_map.mp isLive
    cases same
    simp only [List.mem_filter, Bool.and_eq_true, decide_eq_true_eq] at among
    obtain ⟨known, ⟨ofEntry, number⟩, approved⟩ := among
    exact ⟨known, approved, entry, entered, ofEntry, number⟩
  · rintro ⟨known, approved, entry, entered, ofEntry, number⟩
    refine List.mem_map.mpr ⟨(entry, version), ?_, rfl⟩
    rw [getLiveApprovedVersions, List.mem_insertionSort, List.mem_flatMap]
    refine ⟨entry, entered, List.mem_map.mpr ⟨version, ?_, rfl⟩⟩
    simp only [List.mem_filter, Bool.and_eq_true, decide_eq_true_eq]
    exact ⟨known, ⟨ofEntry, number⟩, approved⟩

theorem KnowledgeBase.version_eq {other : KnowledgeVersion} (known : version ∈ base.versions)
    (knownOther : other ∈ base.versions) (same : version.key = other.key) : version = other :=
  List.inj_on_of_nodup_map base.distinct known knownOther same

theorem mem_rebuiltChunks :
    chunk ∈ rebuiltChunks base ↔ chunk ∈ base.chunks.rows ∧
      chunk.version.row.reviewStatus = .approved ∧ IsLatest base chunk.version := by
  constructor
  · intro member
    obtain ⟨live, among, member⟩ := List.mem_flatMap.mp member
    rw [getChunksByVersion, List.mem_insertionSort, List.mem_filter, decide_eq_true_eq] at member
    obtain ⟨known, approved, latest⟩ :=
      mem_getLiveApprovedVersions.mp (List.mem_map_of_mem among)
    rw [base.version_eq (base.owned chunk member.1) known member.2]
    exact ⟨member.1, approved, latest⟩
  · rintro ⟨member, approved, latest⟩
    obtain ⟨live, among, same⟩ := List.mem_map.mp
      (mem_getLiveApprovedVersions.mpr ⟨base.owned chunk member, approved, latest⟩)
    refine List.mem_flatMap.mpr ⟨live, among, ?_⟩
    rw [getChunksByVersion, List.mem_insertionSort, List.mem_filter, decide_eq_true_eq, same]
    exact ⟨member, rfl⟩

/-! ### Hydration -/

theorem find_hydrationRows (base : KnowledgeBase) (chunkId : Uuid) :
    base.hydrationRows.find chunkId = (base.chunks.find chunkId).map (·.toRow) :=
  List.find?_map

/-- A chunk id leads to the chunk that has it, if the version is eligible. -/
theorem resolves_iff (member : chunk ∈ base.chunks.rows) :
    Resolves base now chunkId chunk ↔ chunkId = chunk.chunkId ∧
      chunk.version.row.reviewStatus = .approved ∧ InForce now chunk.version := by
  constructor
  · intro resolves
    let regional : RegionalCandidate Nat :=
      ⟨⟨chunkId, 0, 0, 0, none, "", none⟩, .egypt, false, none⟩
    have item : hydrateOne base.hydrationRows now regional =
        some (hydratedItem regional chunk.toRow) := by
      have items := resolves Nat regional [] rfl
      change [regional].filterMap (hydrateOne base.hydrationRows now) = _ at items
      cases one : hydrateOne base.hydrationRows now regional with
      | none => simp [one] at items
      | some item => simpa [one] using items
    unfold hydrateOne at item
    rw [find_hydrationRows] at item
    change (base.chunks.find chunkId).map _ >>= _ = _ at item
    cases found : base.chunks.find chunkId with
    | none => simp [found] at item
    | some other =>
        have ofId : other.chunkId = chunkId := Table.key_of_find found
        simp only [found, Option.map_some, Option.bind_eq_bind, Option.bind_some] at item
        split at item
        · next eligible =>
          have sameId : other.chunkId = chunk.chunkId :=
            congrArg HydratedItem.chunkId (Option.some.inj item)
          have foundChunk := Table.find_of_mem member
          change base.chunks.find chunk.chunkId = some chunk at foundChunk
          rw [← sameId, ofId, found] at foundChunk
          cases foundChunk
          exact ⟨ofId.symm, isEligible_iff.mp eligible⟩
        · cases item
  · rintro ⟨rfl, eligible⟩ F regional subqueries named
    change [regional].filterMap (hydrateOne base.hydrationRows now) = _
    have found : base.hydrationRows.find regional.candidate.chunkId = some chunk.toRow := by
      rw [named, find_hydrationRows]
      exact congrArg (Option.map _) (Table.find_of_mem member)
    have one : hydrateOne base.hydrationRows now regional =
        some (hydratedItem regional chunk.toRow) := by
      unfold hydrateOne
      rw [found]
      exact if_pos (isEligible_iff.mpr eligible)
    simp [one]

/-- There is one definition of live knowledge exactly if the approved versions in force are the
latest ones and their chunks are named by their primary keys. -/
theorem oneLiveKnowledge_iff (base : KnowledgeBase) (now : Int) :
    OneLiveKnowledge base now ↔ SameLiveness base now := by
  constructor
  · intro one
    constructor
    · intro version known approved
      have same := one.rebuild version known
      rw [mem_getLiveApprovedVersions, mem_findEligible known] at same
      exact ⟨fun latest => (same.mp ⟨known, approved, latest⟩).2,
        fun inForce => (same.mpr ⟨approved, inForce⟩).2.2⟩
    · intro chunk member approved inForce
      have resolves := one.exportResolves chunk (mem_eligibleChunks.mpr ⟨member, approved, inForce⟩)
      exact ((resolves_iff member).mp resolves).1
  · intro same
    constructor
    · intro version known
      rw [mem_getLiveApprovedVersions, mem_findEligible known]
      constructor
      · rintro ⟨-, approved, latest⟩
        exact ⟨approved, (same.latest version known approved).mp latest⟩
      · rintro ⟨approved, inForce⟩
        exact ⟨known, approved, (same.latest version known approved).mpr inForce⟩
    · intro chunk member
      rw [mem_eligibleChunks, mem_findEligible (base.owned chunk member)]
      exact and_iff_right member
    · intro chunk member
      rw [resolves_iff member, mem_findEligible (base.owned chunk member)]
      exact and_iff_right rfl
    · intro chunk member
      obtain ⟨member, approved, inForce⟩ := mem_eligibleChunks.mp member
      exact (resolves_iff member).mpr ⟨same.named chunk member approved inForce, approved, inForce⟩
    · intro chunk member
      obtain ⟨member, approved, latest⟩ := mem_rebuiltChunks.mp member
      have inForce := (same.latest chunk.version (base.owned chunk member) approved).mp latest
      exact (resolves_iff member).mpr ⟨rfl, approved, inForce⟩

/-! ### An exported chunk -/

def ramadanRow : MarketingKnowledgeEntryVersion where
  entryId := 1
  version := 1
  title := "Ramadan opening hours"
  kind := "season"
  markets := ["egypt"]
  industries := []
  businessModels := []
  objectives := []
  funnelStages := []
  channels := []
  seasons := ["ramadan"]
  budgetModes := []
  evidenceTier := "reviewed_guidance"
  reviewStatus := .approved
  effectiveAt := 10
  expiresAt := some 40
  sourceRefs := []

def ramadanVersion : KnowledgeVersion := ⟨ramadanRow, "en", none⟩

/-- A chunk as it was before chunks had ids of their own, or since. -/
def ramadanChunk (chunkId : Uuid) : KnowledgeChunk :=
  ⟨7, chunkId, 0, "Ramadan opening hours", "c1", ramadanVersion⟩

/-- One entry, one version, one chunk. -/
def ramadanBase (chunkId : Uuid) : KnowledgeBase where
  entries := ⟨[⟨1, "ramadan-hours", 1⟩], List.nodup_singleton _⟩
  versions := [ramadanVersion]
  chunks := ⟨[ramadanChunk chunkId], List.nodup_singleton _⟩
  distinct := List.nodup_singleton _
  owned chunk member := by
    rw [List.mem_singleton.mp member]
    exact List.mem_singleton_self _

/-- The point that the export makes of a live chunk leads to no chunk. -/
theorem exported_point_is_lost :
    ¬ ∀ (base : KnowledgeBase) (now : Int), OneLiveKnowledge base now := by
  intro claimed
  have exported : ramadanChunk 8 ∈ eligibleChunks (ramadanBase 8) 20 := by decide
  have resolves := (claimed (ramadanBase 8) 20).exportResolves _ exported
  have named := ((resolves_iff (List.mem_singleton_self _)).mp resolves).1
  exact absurd named (by decide)

end MarketMind.Rag
