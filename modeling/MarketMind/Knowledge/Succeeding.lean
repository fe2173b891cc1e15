import MarketMind.Knowledge.Persisted

/-!
Owns the histories of the knowledge base with their steps that report success, and what a run that
reports success makes of the entries: every entry to persist is persisted, the latest version of a
removed entry is retired, and every other entry stays.

Does not own the index, nor what a run that reports failures leaves.
-/

namespace MarketMind.Knowledge

open Rag (ReviewStatus)

variable {settings : Settings} {run : Run} {db : Database} {corpus : Corpus} {now : Int}
  {parsed : ParsedKnowledgeEntry} {slug : String}

/-! ### The entries to persist -/

theorem mem_toPersist :
    parsed ∈ toPersist db corpus now ↔
      parsed ∈ corpus.entries ∧ classify db parsed ≠ .unchanged ∧
        isEntryEligible now parsed = true := by
  unfold toPersist
  rw [List.mem_append, List.mem_filter, List.mem_filter]
  cases classify db parsed <;> simp

theorem eq_of_slug {entries : List ParsedKnowledgeEntry} (distinct : (entries.map (·.slug)).Nodup)
    {first second : ParsedKnowledgeEntry} (left : first ∈ entries) (right : second ∈ entries)
    (same : first.slug = second.slug) : first = second :=
  List.inj_on_of_nodup_map distinct left right same

theorem slugs_nodup (entries : List ParsedKnowledgeEntry)
    (distinct : (entries.map (·.slug)).Nodup) (keep : ParsedKnowledgeEntry → Bool) :
    ((entries.filter keep).map (·.slug)).Nodup :=
  distinct.sublist (List.filter_sublist.map _)

theorem toPersist_nodup : ((toPersist db corpus now).map (·.slug)).Nodup := by
  unfold toPersist
  rw [List.map_append]
  refine List.Nodup.append (slugs_nodup _ corpus.distinct _) (slugs_nodup _ corpus.distinct _) ?_
  intro slug left right
  obtain ⟨first, firstKept, firstSlug⟩ := List.mem_map.mp left
  obtain ⟨second, secondKept, secondSlug⟩ := List.mem_map.mp right
  rw [List.mem_filter] at firstKept secondKept
  have same : first = second :=
    eq_of_slug corpus.distinct firstKept.1 secondKept.1 (firstSlug.trans secondSlug.symm)
  rw [same] at firstKept
  simp_all

/-! ### Persisting them all -/

section PersistAll

variable {faults : String → Faults} {entries : List ParsedKnowledgeEntry}
  {progress last : Progress}

theorem errors_of_persistOne (ran : persistOne settings faults progress parsed = some last) :
    ∃ more, last.errors = progress.errors ++ more := by
  unfold persistOne at ran
  split at ran
  · cases ran
    exact ⟨[], (List.append_nil _).symm⟩
  · cases ran
    exact ⟨_, rfl⟩
  · cases ran

theorem errors_of_persistAll (ran : persistAll settings faults entries progress = some last) :
    ∃ more, last.errors = progress.errors ++ more := by
  induction entries generalizing progress with
  | nil =>
      cases ran
      exact ⟨[], (List.append_nil _).symm⟩
  | cons parsed rest inductionHypothesis =>
      obtain ⟨next, first, others⟩ := Option.bind_eq_some_iff.mp ran
      obtain ⟨earlier, begun⟩ := errors_of_persistOne first
      obtain ⟨later, ended⟩ := inductionHypothesis others
      exact ⟨earlier ++ later, by rw [ended, begun, List.append_assoc]⟩

/-- Without an error, the entry has been persisted. -/
theorem persisted_of_persistOne (ran : persistOne settings faults progress parsed = some last)
    (clean : last.errors = []) :
    ∃ outcome, Persisted settings parsed progress.db last.db outcome ∧
      last.created = progress.created ++ [(parsed.slug, outcome.version)] ∧
      last.retired =
        progress.retired ++ outcome.retiredVersions.map fun number => (parsed.slug, number) := by
  unfold persistOne at ran
  split at ran
  · next outcome after same =>
    cases ran
    have persisted := persisted_of_ok same
    exact ⟨outcome, persisted, by rw [← persisted.slug]; rfl, by rw [← persisted.slug]; rfl⟩
  · cases ran
    simp [Progress.failed] at clean
  · cases ran

/-- What is left of a list of entries once it has been persisted without an error. -/
structure AllPersisted (settings : Settings) (entries : List ParsedKnowledgeEntry)
    (progress last : Progress) : Prop where
  persisted : ∀ parsed ∈ entries, last.db.find parsed.slug =
    some ((progress.db.entryOf parsed.slug).persist settings parsed)
  kept : ∀ slug ∉ entries.map (·.slug), last.db.find slug = progress.db.find slug
  created : last.created = progress.created ++ entries.map fun parsed =>
    (parsed.slug, (progress.db.entryOf parsed.slug).nextNumber)
  retired : ∀ slug number, (slug, number) ∈ last.retired ↔ (slug, number) ∈ progress.retired ∨
    ∃ parsed ∈ entries, parsed.slug = slug ∧ (progress.db.entryOf slug).nextNumber ≠ 1 ∧
      ∃ version ∈ (progress.db.entryOf slug).versions,
        version.reviewStatus ≠ .retired ∧ version.version = number

theorem allPersisted (ran : persistAll settings faults entries progress = some last)
    (clean : last.errors = []) (distinct : (entries.map (·.slug)).Nodup) :
    AllPersisted settings entries progress last := by
  induction entries generalizing progress with
  | nil =>
      cases ran
      exact ⟨by simp, by simp, by simp, by simp⟩
  | cons parsed rest inductionHypothesis =>
      obtain ⟨next, first, others⟩ := Option.bind_eq_some_iff.mp ran
      obtain ⟨later, ended⟩ := errors_of_persistAll others
      have cleanNext : next.errors = [] := (List.append_eq_nil_iff.mp (ended ▸ clean)).1
      obtain ⟨outcome, step, created, retired⟩ := persisted_of_persistOne first cleanNext
      rw [List.map_cons, List.nodup_cons] at distinct
      have tail := inductionHypothesis others distinct.2
      have apart : ∀ other ∈ rest, other.slug ≠ parsed.slug := fun other member same =>
        distinct.1 (same ▸ List.mem_map_of_mem member)
      have sameEntry : ∀ other ∈ rest,
          next.db.entryOf other.slug = progress.db.entryOf other.slug := by
        intro other member
        unfold Database.entryOf
        rw [step.find, if_neg (apart other member)]
      refine ⟨fun other member => ?_, fun slug absent => ?_, ?_, fun slug number => ?_⟩
      · rcases List.mem_cons.mp member with rfl | member
        · rw [tail.kept _ distinct.1, step.find, if_pos rfl]
        · rw [tail.persisted other member, sameEntry other member]
      · rw [List.map_cons, List.mem_cons, not_or] at absent
        rw [tail.kept slug absent.2, step.find, if_neg absent.1]
      · rw [tail.created, created, step.version, List.map_cons, List.append_assoc,
          List.singleton_append]
        congr 2
        exact List.map_congr_left fun other member => by rw [sameEntry other member]
      · rw [tail.retired, retired, List.mem_append, or_assoc]
        refine or_congr_right ?_
        rw [List.exists_mem_cons_iff]
        refine or_congr ?_ ?_
        · simp only [List.mem_map, Prod.mk.injEq, step.retired]
          constructor
          · rintro ⟨_, ⟨numbered, found⟩, rfl, rfl⟩
            exact ⟨rfl, numbered, found⟩
          · rintro ⟨rfl, numbered, found⟩
            exact ⟨number, ⟨numbered, found⟩, rfl, rfl⟩
        · refine exists_congr fun other => and_congr_right fun member =>
            and_congr_right fun same => ?_
          rw [← same, sameEntry other member]

end PersistAll

/-! ### Removed entries -/

/-- The entry after the retirement of removed entries. -/
def MarketingKnowledgeEntry.remove (entry : MarketingKnowledgeEntry) (slugs : List String) :
    MarketingKnowledgeEntry :=
  match removedVersion slugs entry with
  | none => entry
  | some number => entry.setVersion number (·.retire)

theorem slug_remove (slugs : List String) (entry : MarketingKnowledgeEntry) :
    (entry.remove slugs).slug = entry.slug := by
  unfold MarketingKnowledgeEntry.remove
  split <;> rfl

theorem find_retireRemovedEntries (db : Database) (slugs : List String) (slug : String) :
    (retireRemovedEntries slugs db).2.find slug = (db.find slug).map (·.remove slugs) :=
  @Database.find_mapEntries _ (slug_remove slugs) db slug

theorem mem_retireRemovedEntries {slugs : List String} {number : Nat} :
    (slug, number) ∈ (retireRemovedEntries slugs db).1 ↔
      ∃ entry, db.find slug = some entry ∧ removedVersion slugs entry = some number := by
  unfold retireRemovedEntries
  simp only [List.mem_filterMap, Option.map_eq_some_iff, Prod.mk.injEq]
  constructor
  · rintro ⟨entry, member, _, removed, rfl, rfl⟩
    exact ⟨entry, Database.find_of_mem member, removed⟩
  · rintro ⟨entry, found, removed⟩
    exact ⟨entry, Database.mem_of_find found, number, removed, Database.slug_of_find found, rfl⟩

theorem remove_of_listed {entry : MarketingKnowledgeEntry} {slugs : List String}
    (listed : entry.slug ∈ slugs) : entry.remove slugs = entry := by
  unfold MarketingKnowledgeEntry.remove removedVersion
  rw [if_pos listed]

theorem unlisted_of_removed {entry : MarketingKnowledgeEntry} {slugs : List String} {number : Nat}
    (removed : removedVersion slugs entry = some number) : entry.slug ∉ slugs := by
  intro listed
  rw [removedVersion, if_pos listed] at removed
  cases removed

/-! ### A run -/

/-- What a run that reports success makes of the entries. -/
structure Succeeded (settings : Settings) (run : Run) (db : Database) (progress : Progress) :
    Prop where
  persisted : ∀ parsed ∈ toPersist db run.corpus run.now, progress.db.find parsed.slug =
    some ((db.entryOf parsed.slug).persist settings parsed)
  kept : ∀ slug ∉ (toPersist db run.corpus run.now).map (·.slug), slug ∈ run.corpus.slugs →
    progress.db.find slug = db.find slug
  removed : ∀ slug ∉ run.corpus.slugs,
    progress.db.find slug = (db.find slug).map (·.remove run.corpus.slugs)
  created : progress.created = (toPersist db run.corpus run.now).map fun parsed =>
    (parsed.slug, (db.entryOf parsed.slug).nextNumber)
  retired : ∀ slug number, (slug, number) ∈ progress.retired ↔
    (∃ parsed ∈ toPersist db run.corpus run.now, parsed.slug = slug ∧
      (db.entryOf slug).nextNumber ≠ 1 ∧ ∃ version ∈ (db.entryOf slug).versions,
        version.reviewStatus ≠ .retired ∧ version.version = number) ∨
    ∃ entry, db.find slug = some entry ∧
      removedVersion run.corpus.slugs entry = some number

theorem slug_mem_of_toPersist (persists : slug ∈ (toPersist db corpus now).map (·.slug)) :
    slug ∈ corpus.slugs := by
  obtain ⟨parsed, member, rfl⟩ := List.mem_map.mp persists
  exact List.mem_map_of_mem (mem_toPersist.mp member).1

theorem succeeded_of_ingestDatabase {progress : Progress}
    (ran : ingestDatabase settings run db = some progress) (clean : progress.errors = []) :
    Succeeded settings run db progress := by
  obtain ⟨persisted, all, rfl⟩ := Option.map_eq_some_iff.mp ran
  unfold retireRemoved at clean ⊢
  split at clean
  · simp [Progress.failed] at clean
  · next retires =>
    rw [if_neg retires]
    have done := allPersisted all clean toPersist_nodup
    have removing := find_retireRemovedEntries persisted.db run.corpus.slugs
    have listedKept : ∀ slug ∈ run.corpus.slugs,
        (retireRemovedEntries run.corpus.slugs persisted.db).2.find slug =
          persisted.db.find slug := by
      intro slug listed
      rw [removing]
      cases found : persisted.db.find slug with
      | none => rfl
      | some entry =>
          have named := Database.slug_of_find found
          rw [Option.map_some, remove_of_listed (named ▸ listed)]
    have unlistedKept : ∀ slug ∉ run.corpus.slugs, persisted.db.find slug = db.find slug :=
      fun slug unlisted => done.kept slug fun persists => unlisted (slug_mem_of_toPersist persists)
    refine ⟨fun parsed member => ?_, fun slug absent listed => ?_, fun slug unlisted => ?_,
      done.created, fun slug number => ?_⟩
    · have listed := slug_mem_of_toPersist (List.mem_map_of_mem member)
      exact (listedKept _ listed).trans (done.persisted parsed member)
    · exact (listedKept _ listed).trans (done.kept slug absent)
    · exact (removing slug).trans (by rw [unlistedKept slug unlisted])
    · refine List.mem_append.trans ?_
      rw [done.retired, mem_retireRemovedEntries]
      refine or_congr ?_ (exists_congr fun entry => and_congr_left fun removed => ?_)
      · exact or_iff_right (List.not_mem_nil)
      · have unlisted := unlisted_of_removed removed
        constructor
        · intro found
          rwa [unlistedKept slug (Database.slug_of_find found ▸ unlisted)] at found
        · intro found
          rwa [unlistedKept slug (Database.slug_of_find found ▸ unlisted)]

/-- The entry of a file that is not persisted stays. -/
theorem Succeeded.kept_of_not_persisted {progress : Progress}
    (done : Succeeded settings run db progress) (member : parsed ∈ run.corpus.entries)
    (absent : parsed ∉ toPersist db run.corpus run.now) :
    progress.db.find parsed.slug = db.find parsed.slug := by
  refine done.kept _ (fun persists => absent ?_) (List.mem_map_of_mem member)
  obtain ⟨other, persists, same⟩ := List.mem_map.mp persists
  rwa [← eq_of_slug run.corpus.distinct (mem_toPersist.mp persists).1 member same]

/-- A run that reports success has met no failure. -/
structure Reported (settings : Settings) (run : Run) (state after : State)
    (progress : Progress) : Prop where
  ran : ingestDatabase settings run state.db = some progress
  clean : progress.errors = []
  embedded : run.embeddingFails = true → ∀ created ∈ progress.created,
    ∀ version, progress.db.version created.1 created.2 = some version → version.chunks = []
  upserted : (upsertAll run progress.db progress.created state.index).2 = []
  after : after = ⟨progress.db, cleanupRetired run progress.db progress.retired
    (upsertAll run progress.db progress.created state.index).1⟩

theorem nil_of_succeeded {errors : List IngestionError} {written : Nat}
    (succeeded : finalStatus errors written = .succeeded) : errors = [] := by
  unfold finalStatus at succeeded
  split at succeeded
  · next empty => exact List.isEmpty_iff.mp empty
  · split at succeeded <;> cases succeeded

theorem reported_of_ingest {state : State} {report : IngestionReport}
    (reports : (ingest settings run state).2 = some report)
    (succeeded : report.status = .succeeded) :
    ∃ progress, Reported settings run state (ingest settings run state).1 progress := by
  unfold ingest at reports ⊢
  split at reports
  · cases reports
  · next progress database =>
    cases reports
    obtain ⟨both, upserted⟩ := List.append_eq_nil_iff.mp (nil_of_succeeded succeeded)
    obtain ⟨errors, embedding⟩ := List.append_eq_nil_iff.mp both
    refine ⟨progress, database, errors, fun fails created member version found => ?_, upserted, rfl⟩
    by_contra filled
    refine absurd embedding ?_
    rw [if_pos]
    · exact List.cons_ne_nil _ _
    · rw [fails, Bool.true_and, List.any_eq_true]
      refine ⟨created, member, ?_⟩
      dsimp only
      rw [found]
      simpa using filled

/-! ### Histories -/

/-- The step reports success. -/
def Step.succeeds (settings : Settings) (state : State) : Step → Bool
  | ingest run => (Knowledge.ingest settings run state).2.any (·.status = .succeeded)
  | rebuild faults => (rebuildQdrantIndex faults state).2 = .succeeded
  | createNewVersion _ => false

theorem reported_of_succeeds {state : State}
    (succeeds : (Step.ingest run).succeeds settings state) :
    ∃ progress, Reported settings run state ((Step.ingest run).apply settings state) progress := by
  change (ingest settings run state).2.any (·.status = .succeeded) = true at succeeds
  cases reports : (ingest settings run state).2 with
  | none =>
      rw [reports] at succeeds
      cases succeeds
  | some report =>
      rw [reports] at succeeds
      exact reported_of_ingest reports (of_decide_eq_true succeeds)

/-- What holds of every step of the history that reports success. -/
def Whenever (settings : Settings) (P : State → Step → State → Prop) : State → List Step → Prop
  | _, [] => True
  | state, step :: rest =>
      (step.succeeds settings state → P state step (step.apply settings state)) ∧
        Whenever settings P (step.apply settings state) rest

/-- What holds of every step from the states of an invariant holds on every history. -/
theorem whenever_of {P : State → Step → State → Prop} (Invariant : State → Prop)
    (kept : ∀ state (step : Step), Invariant state → Invariant (step.apply settings state))
    (holds : ∀ state (step : Step), Invariant state → step.succeeds settings state →
      P state step (step.apply settings state))
    (steps : List Step) {state : State} (initial : Invariant state) :
    Whenever settings P state steps := by
  induction steps generalizing state with
  | nil => trivial
  | cons step rest inductionHypothesis =>
      exact ⟨holds state step initial, inductionHypothesis (kept state step initial)⟩

/-- Properties that agree at every step from the states of an invariant agree on every history. -/
theorem whenever_congr {P Q : State → Step → State → Prop} (Invariant : State → Prop)
    (kept : ∀ state (step : Step), Invariant state → Invariant (step.apply settings state))
    (agree : ∀ state (step : Step), Invariant state → step.succeeds settings state →
      (P state step (step.apply settings state) ↔ Q state step (step.apply settings state)))
    (steps : List Step) {state : State} (initial : Invariant state) :
    Whenever settings P state steps ↔ Whenever settings Q state steps := by
  induction steps generalizing state with
  | nil => exact Iff.rfl
  | cons step rest inductionHypothesis =>
      refine and_congr (forall_congr' fun succeeds => agree state step initial succeeds) ?_
      exact inductionHypothesis (kept state step initial)

end MarketMind.Knowledge
