import MarketMind.Knowledge.Succeeding

/-!
Owns the law that the approved versions are the eligible files of the corpus: what a run that
reports success does for it, and exactly when such a run leaves it true.
-/

namespace MarketMind.Knowledge

open Rag (ReviewStatus)

variable {settings : Settings} {run : Run} {db : Database} {corpus : Corpus} {now : Int}
  {parsed : ParsedKnowledgeEntry} {slug : String} {entry : MarketingKnowledgeEntry}

/-! ### The mirror -/

/-- What the approved versions of the slug say. -/
def approvedOf (db : Database) (slug : String) : List (Content × List String) :=
  ((db.versionsOf slug).filter (·.reviewStatus = .approved)).map fun version =>
    (version.content, version.sourceRefs)

/-- What the eligible file of the slug says. -/
def eligibleOf (corpus : Corpus) (now : Int) (slug : String) : List (Content × List String) :=
  (corpus.entries.filter fun parsed => parsed.slug = slug && isEntryEligible now parsed).map
    fun parsed => (parsed.content, parsed.sourceReferences)

/-- The database has the approved versions that the corpus has eligible files, and they say the
same. -/
def Mirrors (db : Database) (corpus : Corpus) (now : Int) : Prop :=
  ∀ slug, approvedOf db slug = eligibleOf corpus now slug

/-- The files and entries that a run leaves alone are mirrored already. -/
structure MirroredAside (db : Database) (corpus : Corpus) (now : Int) : Prop where
  /-- A file with the body of the newest version has one approved version, which says the same. -/
  unchanged : ∀ parsed ∈ corpus.entries, classify db parsed = .unchanged →
    isEntryEligible now parsed = true →
      approvedOf db parsed.slug = [(parsed.content, parsed.sourceReferences)]
  /-- A file that is not eligible has no approved version. -/
  ineligible : ∀ parsed ∈ corpus.entries, isEntryEligible now parsed = false →
    approvedOf db parsed.slug = []
  /-- An entry without a file has no approved version but its newest one. -/
  removed : ∀ slug ∉ corpus.slugs, ∀ entry, db.find slug = some entry →
    ∀ version ∈ entry.versions, version.reviewStatus = .approved →
      removedVersion corpus.slugs entry = some version.version

theorem filter_slug {entries : List ParsedKnowledgeEntry}
    (distinct : (entries.map (·.slug)).Nodup) (member : parsed ∈ entries)
    (keep : ParsedKnowledgeEntry → Bool) :
    (entries.filter fun other => other.slug = parsed.slug && keep other) =
      if keep parsed then [parsed] else [] := by
  induction entries with
  | nil => cases member
  | cons head rest inductionHypothesis =>
      rw [List.map_cons, List.nodup_cons] at distinct
      rcases List.mem_cons.mp member with rfl | later
      · have others : (rest.filter fun other => other.slug = parsed.slug && keep other) = [] := by
          refine List.filter_eq_nil_iff.mpr fun other among kept => distinct.1 ?_
          have same : other.slug = parsed.slug := by simp_all
          exact same ▸ List.mem_map_of_mem among
        rw [List.filter_cons, others]
        simp
      · have apart : head.slug ≠ parsed.slug := fun same =>
          distinct.1 (same ▸ List.mem_map_of_mem later)
        rw [List.filter_cons_of_neg (by simp [apart])]
        exact inductionHypothesis distinct.2 later

theorem eligibleOf_of_mem (member : parsed ∈ corpus.entries) :
    eligibleOf corpus now parsed.slug =
      if isEntryEligible now parsed then [(parsed.content, parsed.sourceReferences)] else [] := by
  unfold eligibleOf
  rw [filter_slug corpus.distinct member (isEntryEligible now)]
  split <;> rfl

theorem eligibleOf_of_not_mem (absent : slug ∉ corpus.slugs) : eligibleOf corpus now slug = [] := by
  unfold eligibleOf
  rw [List.map_eq_nil_iff, List.filter_eq_nil_iff]
  intro parsed member
  have apart : parsed.slug ≠ slug := fun same => absent (same ▸ List.mem_map_of_mem member)
  simp [apart]

/-! ### What a run makes of the approved versions -/

theorem approvedOf_congr {before after : Database} (same : after.find slug = before.find slug) :
    approvedOf after slug = approvedOf before slug := by
  unfold approvedOf Database.versionsOf
  rw [same]

/-- A file that is persisted is what the only approved version says. -/
theorem approvedOf_persist (eligible : isEntryEligible now parsed = true)
    (found : db.find slug = some (entry.persist settings parsed)) :
    approvedOf db slug = [(parsed.content, parsed.sourceReferences)] := by
  have approved : parsed.reviewStatus = .approved := by
    unfold isEntryEligible at eligible
    simp_all
  unfold approvedOf Database.versionsOf MarketingKnowledgeEntry.persist at *
  rw [found]
  simp only [Option.map_some, Option.getD_some, List.filter_append, List.map_append]
  have retired : (entry.versions.map (·.retire)).filter (·.reviewStatus = .approved) = [] := by
    refine List.filter_eq_nil_iff.mpr fun version member => ?_
    obtain ⟨previous, -, rfl⟩ := List.mem_map.mp member
    simp [MarketingKnowledgeEntryVersion.retire]
  rw [retired]
  simp [ParsedKnowledgeEntry.complete, ParsedKnowledgeEntry.row, approved]

theorem approvedOf_eq_nil :
    approvedOf db slug = [] ↔ ∀ entry, db.find slug = some entry →
      ∀ version ∈ entry.versions, version.reviewStatus ≠ .approved := by
  unfold approvedOf Database.versionsOf
  rw [List.map_eq_nil_iff, List.filter_eq_nil_iff]
  cases db.find slug <;> simp

/-- The retirement of removed entries leaves no approved version if it retires each of them. -/
theorem remove_unapproved {slugs : List String} :
    (∀ version ∈ (entry.remove slugs).versions, version.reviewStatus ≠ .approved) ↔
      ∀ version ∈ entry.versions, version.reviewStatus = .approved →
        removedVersion slugs entry = some version.version := by
  unfold MarketingKnowledgeEntry.remove
  cases removed : removedVersion slugs entry with
  | none => simp
  | some number =>
      simp only [MarketingKnowledgeEntry.setVersion, List.forall_mem_map, Option.some.injEq]
      refine forall₂_congr fun version member => ?_
      split
      · next same => simp [MarketingKnowledgeEntryVersion.retire, same]
      · next apart => simp [Ne.symm apart]

theorem mirrors_iff {progress : Progress} (done : Succeeded settings run db progress) :
    Mirrors progress.db run.corpus run.now ↔ MirroredAside db run.corpus run.now := by
  have aside : ∀ parsed ∈ run.corpus.entries, parsed ∉ toPersist db run.corpus run.now →
      approvedOf progress.db parsed.slug = approvedOf db parsed.slug :=
    fun parsed member absent => approvedOf_congr (done.kept_of_not_persisted member absent)
  have removed : ∀ slug ∉ run.corpus.slugs, (approvedOf progress.db slug = [] ↔
      ∀ entry, db.find slug = some entry → ∀ version ∈ entry.versions,
        version.reviewStatus = .approved →
          removedVersion run.corpus.slugs entry = some version.version) := by
    intro slug unlisted
    rw [approvedOf_eq_nil, done.removed slug unlisted]
    cases db.find slug with
    | none => simp
    | some entry => simpa using remove_unapproved
  constructor
  · intro mirrors
    refine ⟨fun parsed member unchanged eligible => ?_, fun parsed member ineligible => ?_,
      fun slug unlisted => ?_⟩
    · have absent : parsed ∉ toPersist db run.corpus run.now := fun persists =>
        (mem_toPersist.mp persists).2.1 unchanged
      rw [← aside parsed member absent, mirrors, eligibleOf_of_mem member, if_pos eligible]
    · have absent : parsed ∉ toPersist db run.corpus run.now := fun persists =>
        absurd (mem_toPersist.mp persists).2.2 (by simp [ineligible])
      rw [← aside parsed member absent, mirrors, eligibleOf_of_mem member,
        if_neg (by simp [ineligible])]
    · exact (removed slug unlisted).mp ((mirrors slug).trans (eligibleOf_of_not_mem unlisted))
  · intro mirrored slug
    by_cases listed : slug ∈ run.corpus.slugs
    · obtain ⟨parsed, member, rfl⟩ := List.mem_map.mp listed
      rw [eligibleOf_of_mem member]
      by_cases persists : parsed ∈ toPersist db run.corpus run.now
      · have eligible := (mem_toPersist.mp persists).2.2
        rw [if_pos eligible]
        exact approvedOf_persist eligible (done.persisted parsed persists)
      · rw [aside parsed member persists]
        split
        · next eligible =>
          refine mirrored.unchanged parsed member ?_ eligible
          by_contra changed
          exact persists (mem_toPersist.mpr ⟨member, changed, eligible⟩)
        · next ineligible =>
          exact mirrored.ineligible parsed member (Bool.not_eq_true _ ▸ ineligible)
    · rw [eligibleOf_of_not_mem listed]
      exact (removed slug listed).mpr (mirrored.removed slug listed)

/-! ### The law -/

/-- A law of ingestion runs, read off the state before one and the state after it. -/
def Ingesting (P : State → Run → State → Prop) (before : State) (step : Step) (after : State) :
    Prop :=
  match step with
  | .ingest run => P before run after
  | .rebuild _ => True
  | .createNewVersion _ => True

/-- Whenever a run of the history reports success, the database mirrors its corpus. -/
def MirrorsCorpus (settings : Settings) (steps : List Step) : Prop :=
  Whenever settings (Ingesting fun _ run after => Mirrors after.db run.corpus run.now) .empty steps

/-- What a run publishes and withdraws. -/
structure Publishes (before after : Database) (corpus : Corpus) (now : Int) : Prop where
  /-- A file with a body of its own has one approved version, which says the same. -/
  persisted : ∀ parsed ∈ corpus.entries, isEntryEligible now parsed = true →
    classify before parsed ≠ .unchanged →
      approvedOf after parsed.slug = [(parsed.content, parsed.sourceReferences)]
  /-- A file with the body of the newest version leaves every version as it was. -/
  unchanged : ∀ parsed ∈ corpus.entries, classify before parsed = .unchanged →
    after.versionsOf parsed.slug = before.versionsOf parsed.slug
  /-- Without an eligible file nothing is approved anew. -/
  unpublished : ∀ slug, eligibleOf corpus now slug = [] →
    approvedOf after slug ⊆ approvedOf before slug
  /-- The newest version of an entry without a file is retired. -/
  removed : ∀ slug ∉ corpus.slugs, ∀ entry, before.find slug = some entry →
    ∀ number, removedVersion corpus.slugs entry = some number →
      ∀ version ∈ after.versionsOf slug, version.version = number →
        version.reviewStatus = .retired

theorem approved_of_remove {slugs : List String} {version : MarketingKnowledgeEntryVersion}
    (member : version ∈ (entry.remove slugs).versions)
    (approved : version.reviewStatus = .approved) : version ∈ entry.versions := by
  unfold MarketingKnowledgeEntry.remove at member
  split at member
  · exact member
  · obtain ⟨previous, among, rfl⟩ := List.mem_map.mp member
    split at approved
    · cases approved
    · next other => rwa [if_neg other]

theorem mem_approvedOf {said : Content × List String} :
    said ∈ approvedOf db slug ↔
      ∃ version ∈ db.versionsOf slug,
        version.reviewStatus = .approved ∧ (version.content, version.sourceRefs) = said := by
  unfold approvedOf
  simp [and_assoc]

theorem versionsOf_of_find (found : db.find slug = some entry) :
    db.versionsOf slug = entry.versions := by
  rw [Database.versionsOf, found]
  rfl

theorem publishes {progress : Progress} (done : Succeeded settings run db progress) :
    Publishes db progress.db run.corpus run.now := by
  have aside : ∀ parsed ∈ run.corpus.entries, parsed ∉ toPersist db run.corpus run.now →
      progress.db.find parsed.slug = db.find parsed.slug :=
    fun parsed member absent => done.kept_of_not_persisted member absent
  refine ⟨fun parsed member eligible changed => ?_, fun parsed member unchanged => ?_,
    fun slug ineligible => ?_,
    fun slug unlisted entry found number removed version member numbered => ?_⟩
  · exact approvedOf_persist eligible
      (done.persisted parsed (mem_toPersist.mpr ⟨member, changed, eligible⟩))
  · unfold Database.versionsOf
    rw [aside parsed member fun persists => (mem_toPersist.mp persists).2.1 unchanged]
  · by_cases listed : slug ∈ run.corpus.slugs
    · obtain ⟨parsed, member, rfl⟩ := List.mem_map.mp listed
      rw [approvedOf_congr (aside parsed member fun persists => ?_)]
      · exact List.Subset.refl _
      · rw [eligibleOf_of_mem member, if_pos (mem_toPersist.mp persists).2.2] at ineligible
        cases ineligible
    · intro said approved
      obtain ⟨version, member, isApproved, same⟩ := mem_approvedOf.mp approved
      refine mem_approvedOf.mpr ⟨version, ?_, isApproved, same⟩
      have removed := done.removed slug listed
      unfold Database.versionsOf at member ⊢
      cases found : db.find slug with
      | none =>
          rw [removed, found] at member
          cases member
      | some entry =>
          rw [removed, found] at member
          exact approved_of_remove member isApproved
  · have after := done.removed slug unlisted
    rw [found, Option.map_some] at after
    rw [versionsOf_of_find after, MarketingKnowledgeEntry.remove, removed] at member
    obtain ⟨previous, among, rfl⟩ := List.mem_map.mp member
    split
    · rfl
    · next other =>
      rw [if_neg other] at numbered
      exact absurd numbered other

/-- Whenever a run reports success, it has published every file with a body of its own and withdrawn
the newest version of every removed entry; and the database mirrors the corpus exactly if the run
found what it leaves alone mirrored already. -/
theorem publishes_and_mirrors (settings : Settings) (steps : List Step) :
    Whenever settings
      (Ingesting fun before run after =>
        Publishes before.db after.db run.corpus run.now ∧
          (Mirrors after.db run.corpus run.now ↔ MirroredAside before.db run.corpus run.now))
      .empty steps := by
  refine whenever_of (fun _ => True) (fun _ _ _ => trivial) (fun state step _ succeeds => ?_) steps
    trivial
  cases step with
  | ingest run =>
      obtain ⟨progress, reported⟩ := reported_of_succeeds succeeds
      have done := succeeded_of_ingestDatabase reported.ran reported.clean
      have after : ((Step.ingest run).apply settings state).db = progress.db := by
        rw [reported.after]
      have law := And.intro (publishes done) (mirrors_iff done)
      rw [← after] at law
      exact law
  | rebuild faults => trivial
  | createNewVersion dto => trivial

/-! ### An edit of the front matter -/

namespace Samples

/-- A body is a single chunk under its title, and a digest is the text. -/
def singleChunks : Settings where
  chunkTexts title body := [title ++ "\n\n" ++ body]
  sha256 text := text
  embedding := ⟨"openai", "text-embedding-3-small", 1536, "v1"⟩

def content (title body : String) : Content where
  kind := "playbook"
  title
  titleAr := none
  summary := "Planning for the season"
  body
  locale := "en"
  markets := ["EG"]
  industries := []
  businessModels := []
  objectives := []
  funnelStages := []
  channels := []
  seasons := []
  budgetModes := []
  evidenceTier := "tier_1"
  effectiveAt := 0
  expiresAt := none
  author := "MarketMind"
  reviewer := none
  reviewedAt := none

/-- An approved file. -/
def file (slug title body : String) : ParsedKnowledgeEntry where
  slug
  version := 1
  content := content title body
  bodyChecksum := body
  reviewStatus := .approved
  sourceReferences := ["https://example.com/report"]

/-- A run without failures. -/
def faultless (corpus : Corpus) : Run where
  corpus
  now := 1
  persistFaults _ _ := none
  retireFails := false
  embeddingFails := false
  upsertFails _ := none
  deleteFails _ _ := none

def published : Corpus := ⟨[file "ramadan" "Ramadan" "Start early."], by decide⟩

def retitled : Corpus := ⟨[file "ramadan" "Ramadan planning" "Start early."], by decide⟩

end Samples

/-- A file is published, and its title is edited: both runs report success, but the approved version
keeps the first title. -/
theorem front_matter_edit_is_lost :
    ¬ MirrorsCorpus Samples.singleChunks
      [.ingest (Samples.faultless Samples.published),
        .ingest (Samples.faultless Samples.retitled)] := by
  rintro ⟨-, second, -⟩
  have mirrors := second (by decide +kernel) "ramadan"
  exact absurd mirrors (by decide +kernel)

end MarketMind.Knowledge
