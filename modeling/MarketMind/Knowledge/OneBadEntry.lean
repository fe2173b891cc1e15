import MarketMind.Knowledge.ChunkConstraints

/-!
Owns the law that one bad entry never spoils a run: what persisting an entry leaves behind when it
fails, and exactly when a run with failing entries is the run without them.
-/

namespace MarketMind.Knowledge

variable {settings : Settings} {run : Run} {faults : Faults} {parsed : ParsedKnowledgeEntry}
  {db after : Database} {slug : String} {failure : Failure}

/-! ### What persisting an entry touches -/

/-- The rows of the slug: one for the entry and one for each version. -/
def rows (db : Database) (slug : String) : Nat :=
  ((db.find slug).map (·.versions.length + 1)).getD 0

/-- Other entries stay, and no row of the slug is removed. -/
structure Touches (slug : String) (db after : Database) : Prop where
  others : ∀ other ≠ slug, after.find other = db.find other
  grows : rows db slug ≤ rows after slug

namespace Touches

theorem refl (db : Database) : Touches slug db db := ⟨fun _ _ => rfl, Nat.le_refl _⟩

theorem trans {first second third : Database} (one : Touches slug first second)
    (two : Touches slug second third) : Touches slug first third :=
  ⟨fun other apart => (two.others other apart).trans (one.others other apart),
    Nat.le_trans one.grows two.grows⟩

/-- A change of the entry that removes no version. -/
theorem of_find {change : MarketingKnowledgeEntry → MarketingKnowledgeEntry}
    (found : ∀ other, after.find other =
      if other = slug then (db.find other).map change else db.find other)
    (longer : ∀ entry, entry.versions.length ≤ (change entry).versions.length) :
    Touches slug db after := by
  refine ⟨fun other apart => (found other).trans (if_neg apart), ?_⟩
  unfold rows
  rw [found, if_pos rfl]
  cases db.find slug with
  | none => exact Nat.le_refl _
  | some entry => exact Nat.succ_le_succ (longer entry)

end Touches

theorem length_setVersion {change : MarketingKnowledgeEntryVersion → MarketingKnowledgeEntryVersion}
    (entry : MarketingKnowledgeEntry) (number : Nat) :
    (entry.setVersion number change).versions.length = entry.versions.length :=
  List.length_map _

/-- The statements after the row of the version. -/
theorem touches_completeVersion (settings : Settings) (faults : Faults)
    (parsed : ParsedKnowledgeEntry) (previous : Option Nat) (number : Nat) :
    Persist.Relates (Touches parsed.slug)
      (completeVersion settings faults parsed previous number) := by
  have trans : ∀ first second third : Database, Touches parsed.slug first second →
      Touches parsed.slug second third → Touches parsed.slug first third :=
    fun _ _ _ one two => one.trans two
  have retires : Persist.Relates (Touches parsed.slug)
      (writing faults .retirePreviousVersions fun db =>
        .ok (retirePreviousVersions parsed.slug number db)) := by
    refine relates_writing Touches.refl _ fun db after written => ?_
    cases written
    exact Touches.of_find (fun other => find_retirePreviousVersions number)
      fun entry => Nat.le_of_eq (List.length_map _).symm
  unfold completeVersion
  refine Persist.relates_bind trans ?_ fun _ => Persist.relates_bind trans ?_ fun _ =>
    Persist.relates_bind trans ?_ fun _ => ?_
  · refine relates_writing Touches.refl _ fun db after written => ?_
    cases written
    exact Touches.of_find (fun other => find_createSourceRefs number parsed.sourceReferences)
      fun entry => Nat.le_of_eq (length_setVersion entry number).symm
  · refine relates_writing Touches.refl _ fun db after written => ?_
    exact Touches.of_find (find_insertChunks written)
      fun entry => Nat.le_of_eq (length_setVersion entry number).symm
  · refine relates_writing Touches.refl _ fun db after written => ?_
    cases written
    exact Touches.of_find (fun other => find_updateEntryLatestVersion number)
      fun entry => Nat.le_refl _
  · dsimp only
    split
    · exact Persist.relates_bind trans (Persist.relates_pure Touches.refl _) fun _ =>
        Persist.relates_bind trans retires fun _ => Persist.relates_pure Touches.refl _
    · exact Persist.relates_bind trans (relates_reading Touches.refl _ _) fun _ =>
        Persist.relates_bind trans retires fun _ => Persist.relates_pure Touches.refl _

/-! ### Failures -/

/-- The fault that an entry meets before its first write. -/
def earlyFault (faults : Faults) (db : Database) (slug : String) : Option Failure :=
  (faults .getEntryBySlug).or
    (match db.find slug with
    | none => faults .createEntry
    | some _ => (faults .getLatestVersion).or (faults .createVersion))

theorem reading_of_fault {α : Type} {which : PersistStatement} (read : Database → α)
    (fault : faults which = some failure) :
    reading faults which read db = (.error failure, db) := by
  unfold reading statement
  rw [fault]

theorem writing_of_fault {which : PersistStatement} (write : Database → Except Failure Database)
    (fault : faults which = some failure) :
    writing faults which write db = (.error failure, db) := by
  unfold writing statement
  rw [fault]

/-- The row of the version is added. -/
theorem rows_createVersion {number : Nat} (found : db.find parsed.slug = some entry)
    (created : createVersion parsed number db = .ok after) :
    rows db parsed.slug < rows after parsed.slug := by
  unfold rows
  rw [find_createVersion created, if_pos rfl, found]
  simp [MarketingKnowledgeEntry.addVersion]

theorem touches_createVersion (number : Nat) :
    Persist.Relates (Touches parsed.slug)
      (writing faults .createVersion (createVersion parsed number)) := by
  refine relates_writing Touches.refl _ fun db after written => ?_
  exact Touches.of_find (find_createVersion written) fun entry => by
    simp [MarketingKnowledgeEntry.addVersion]

section PreviousVersion

variable {entry : MarketingKnowledgeEntry}

theorem previousVersion_of_new (found : db.find slug = none)
    (lookup : faults .getEntryBySlug = none) :
    previousVersion faults slug db =
      (do
        writing faults .createEntry fun db => .ok (db.createEntry slug)
        return none : Persist (Option Nat)) db := by
  refine (Persist.bind_ok (reading_of_quiet (·.find slug) lookup db)).trans ?_
  rw [found]

theorem previousVersion_of_found (found : db.find slug = some entry)
    (lookup : faults .getEntryBySlug = none) :
    previousVersion faults slug db =
      (do
        let latest ← reading faults .getLatestVersion fun _ => entry.latest
        return some ((latest.map (·.version)).getD 0) : Persist (Option Nat)) db := by
  refine (Persist.bind_ok (reading_of_quiet (·.find slug) lookup db)).trans ?_
  rw [found]

end PreviousVersion

/-- The statements after the number of the latest version. -/
theorem touches_newVersion (settings : Settings) (faults : Faults)
    (parsed : ParsedKnowledgeEntry) (previous : Option Nat) :
    Persist.Relates (Touches parsed.slug) (do
      writing faults .createVersion (createVersion parsed (previous.getD 0 + 1))
      completeVersion settings faults parsed previous (previous.getD 0 + 1)) :=
  Persist.relates_bind (fun _ _ _ one two => one.trans two) (touches_createVersion _) fun _ =>
    touches_completeVersion settings faults parsed previous _

theorem touches_createEntry (db : Database) (slug : String) :
    Touches slug db (db.createEntry slug) := by
  refine ⟨fun other apart => (db.find_createEntry slug other).trans (if_neg apart), ?_⟩
  unfold rows
  rw [db.find_createEntry, if_pos rfl]
  cases db.find slug <;> simp

/-- The row of a new entry is its first write. -/
theorem early_or_rows_of_new (settings : Settings) (found : db.find parsed.slug = none)
    (lookup : faults .getEntryBySlug = none) :
    (∃ failure, faults .createEntry = some failure ∧
      persistEntry settings faults parsed db = (.error failure, db)) ∨
    faults .createEntry = none ∧
      Touches parsed.slug db (persistEntry settings faults parsed db).2 ∧
      rows db parsed.slug < rows (persistEntry settings faults parsed db).2 parsed.slug := by
  have begins := previousVersion_of_new found lookup
  cases creating : faults .createEntry with
  | some failure =>
      refine Or.inl ⟨failure, rfl, Persist.bind_error (begins.trans ?_)⟩
      exact Persist.bind_error (writing_of_fault _ creating)
  | none =>
      have creates : (do
          writing faults .createEntry fun db => .ok (db.createEntry parsed.slug)
          return none : Persist (Option Nat)) db = (.ok none, db.createEntry parsed.slug) :=
        Persist.bind_ok (writes_of_quiet (·.createEntry parsed.slug) creating db)
      have ran : persistEntry settings faults parsed db = _ :=
        Persist.bind_ok (begins.trans creates)
      have first := touches_createEntry db parsed.slug
      have added : rows db parsed.slug < rows (db.createEntry parsed.slug) parsed.slug := by
        unfold rows
        rw [db.find_createEntry, if_pos rfl, found]
        exact Nat.one_pos
      have rest := touches_newVersion settings faults parsed none (db.createEntry parsed.slug)
      rw [ran]
      exact Or.inr ⟨rfl, first.trans rest, Nat.lt_of_lt_of_le added rest.grows⟩

/-- The row of the version is the first write for an entry that exists. -/
theorem early_or_rows_of_found {entry : MarketingKnowledgeEntry} (settings : Settings)
    (found : db.find parsed.slug = some entry) (lookup : faults .getEntryBySlug = none) :
    (∃ failure, (faults .getLatestVersion).or (faults .createVersion) = some failure ∧
      persistEntry settings faults parsed db = (.error failure, db)) ∨
    (faults .getLatestVersion).or (faults .createVersion) = none ∧
      Touches parsed.slug db (persistEntry settings faults parsed db).2 ∧
      rows db parsed.slug < rows (persistEntry settings faults parsed db).2 parsed.slug := by
  have begins := previousVersion_of_found found lookup
  cases latest : faults .getLatestVersion with
  | some failure =>
      refine Or.inl ⟨failure, rfl, Persist.bind_error (begins.trans ?_)⟩
      exact Persist.bind_error (reading_of_fault _ latest)
  | none =>
      have reads : (do
          let latest ← reading faults .getLatestVersion fun _ => entry.latest
          return some ((latest.map (·.version)).getD 0) : Persist (Option Nat)) db =
            (.ok (some ((entry.latest.map (·.version)).getD 0)), db) :=
        Persist.bind_ok (reading_of_quiet (fun _ => entry.latest) latest db)
      have ran : persistEntry settings faults parsed db = _ :=
        Persist.bind_ok (begins.trans reads)
      cases creating : faults .createVersion with
      | some failure =>
          refine Or.inl ⟨failure, rfl, ran.trans ?_⟩
          exact Persist.bind_error (writing_of_fault _ creating)
      | none =>
          obtain ⟨created, creates⟩ := exists_createVersion found
          have more := rows_createVersion found creates
          have first : Touches parsed.slug db created :=
            Touches.of_find (find_createVersion creates) fun entry => by
              simp [MarketingKnowledgeEntry.addVersion]
          have rest := touches_completeVersion settings faults parsed
            (some ((entry.latest.map (·.version)).getD 0)) entry.nextNumber created
          have last := ran.trans (Persist.bind_ok (writing_of_quiet creating creates))
          rw [last]
          exact Or.inr ⟨rfl, first.trans rest, Nat.lt_of_lt_of_le more rest.grows⟩

/-- An entry that fails before its first write leaves nothing. Otherwise it leaves a row. -/
theorem early_or_rows (settings : Settings) (faults : Faults) (parsed : ParsedKnowledgeEntry)
    (db : Database) :
    (∃ failure, earlyFault faults db parsed.slug = some failure ∧
      persistEntry settings faults parsed db = (.error failure, db)) ∨
    earlyFault faults db parsed.slug = none ∧
      Touches parsed.slug db (persistEntry settings faults parsed db).2 ∧
      rows db parsed.slug < rows (persistEntry settings faults parsed db).2 parsed.slug := by
  unfold earlyFault
  cases lookup : faults .getEntryBySlug with
  | some failure =>
      exact Or.inl ⟨failure, rfl, Persist.bind_error (Persist.bind_error
        (reading_of_fault _ lookup))⟩
  | none =>
      cases found : db.find parsed.slug with
      | none => exact early_or_rows_of_new settings found lookup
      | some entry => exact early_or_rows_of_found settings found lookup

/-! ### Entries that are persisted meet no fault -/

theorem quiet_of_reading {α : Type} {which : PersistStatement} {read : Database → α} {value : α}
    (ran : reading faults which read db = (.ok value, after)) : faults which = none := by
  unfold reading statement at ran
  split at ran
  · cases ran
  · assumption

theorem quiet_of_writing {which : PersistStatement}
    {write : Database → Except Failure Database}
    (ran : writing faults which write db = (.ok (), after)) : faults which = none := by
  unfold writing statement at ran
  split at ran
  · cases ran
  · assumption

theorem quiet_of_previousVersion {previous : Option Nat}
    (ran : previousVersion faults slug db = (.ok previous, after)) :
    faults .getEntryBySlug = none ∧
      faults (if (db.find slug).isNone then .createEntry else .getLatestVersion) = none := by
  obtain ⟨found, _, read, ran⟩ := Persist.ok_of_bind ran
  refine ⟨quiet_of_reading read, ?_⟩
  obtain ⟨rfl, rfl⟩ := ok_of_reading read
  cases found : db.find slug with
  | none =>
      rw [found] at ran
      obtain ⟨_, _, written, -⟩ := Persist.ok_of_bind ran
      exact quiet_of_writing written
  | some entry =>
      rw [found] at ran
      obtain ⟨_, _, read, -⟩ := Persist.ok_of_bind ran
      exact quiet_of_reading read

theorem quiet_of_completeVersion {previous : Option Nat} {number : Nat} {outcome : EntryOutcome}
    (ran : completeVersion settings faults parsed previous number db = (.ok outcome, after)) :
    faults .createSourceRefs = none ∧ faults .createChunks = none ∧
      faults .updateEntryLatestVersion = none ∧
      (previous.getD 0 ≠ 0 → faults .selectPreviousVersions = none) ∧
      faults .retirePreviousVersions = none := by
  obtain ⟨_, _, references, ran⟩ := Persist.ok_of_bind ran
  obtain ⟨_, _, chunks, ran⟩ := Persist.ok_of_bind ran
  obtain ⟨_, _, updates, ran⟩ := Persist.ok_of_bind ran
  refine ⟨quiet_of_writing references, quiet_of_writing chunks, quiet_of_writing updates, ?_⟩
  dsimp only at ran
  split at ran
  · next first =>
    obtain ⟨_, _, -, ran⟩ := Persist.ok_of_bind ran
    obtain ⟨_, _, retires, -⟩ := Persist.ok_of_bind ran
    exact ⟨fun later => absurd first later, quiet_of_writing retires⟩
  · obtain ⟨_, _, reads, ran⟩ := Persist.ok_of_bind ran
    obtain ⟨_, _, retires, -⟩ := Persist.ok_of_bind ran
    exact ⟨fun _ => quiet_of_reading reads, quiet_of_writing retires⟩

theorem quiet_of_ok {outcome : EntryOutcome}
    (ran : persistEntry settings faults parsed db = (.ok outcome, after)) :
    Quiet faults db parsed.slug := by
  obtain ⟨previous, begun, begins, ran⟩ := Persist.ok_of_bind ran
  obtain ⟨-, numbers⟩ := find_previousVersion begins
  obtain ⟨_, _, creates, ran⟩ := Persist.ok_of_bind ran
  obtain ⟨lookup, first⟩ := quiet_of_previousVersion begins
  obtain ⟨references, chunks, updates, selects, retires⟩ := quiet_of_completeVersion ran
  have creating := quiet_of_writing creates
  unfold Quiet executed
  rw [List.forall_mem_append, List.forall_mem_append]
  refine ⟨⟨?_, ?_⟩, ?_⟩
  · simp only [List.forall_mem_cons]
    exact ⟨lookup, first, creating, references, chunks, updates, List.forall_mem_nil _⟩
  · split
    · exact List.forall_mem_nil _
    · next later => exact List.forall_mem_singleton.mpr (selects (by omega))
  · exact List.forall_mem_singleton.mpr retires

/-! ### The loop -/

section Loop

variable {faults : String → Faults} {entries : List ParsedKnowledgeEntry}
  {progress last without : Progress}

/-- The entry fails at some statement. -/
def Fails (faults : String → Faults) (db : Database) (parsed : ParsedKnowledgeEntry) : Prop :=
  ¬Quiet (faults parsed.slug) db parsed.slug

instance (faults : String → Faults) (db : Database) (parsed : ParsedKnowledgeEntry) :
    Decidable (Fails faults db parsed) :=
  inferInstanceAs (Decidable (¬∀ which ∈ executed db parsed.slug, faults parsed.slug which = none))

/-- The two runs have persisted, retired and counted the same. -/
structure Agree (progress without : Progress) : Prop where
  db : progress.db = without.db
  enteredCount : progress.enteredCount = without.enteredCount
  updatedCount : progress.updatedCount = without.updatedCount
  results : progress.results = without.results
  created : progress.created = without.created
  retired : progress.retired = without.retired

theorem Agree.refl (progress : Progress) : Agree progress progress := ⟨rfl, rfl, rfl, rfl, rfl, rfl⟩

theorem persistOne_others (ran : persistOne settings faults progress parsed = some last)
    {other : String} (apart : other ≠ parsed.slug) :
    last.db.find other = progress.db.find other := by
  have touches : ∀ after,
      (persistEntry settings (faults parsed.slug) parsed progress.db).2 = after →
        after.find other = progress.db.find other := by
    rintro _ rfl
    rcases early_or_rows settings (faults parsed.slug) parsed progress.db with
      ⟨failure, -, stops⟩ | ⟨-, touches, -⟩
    · rw [stops]
    · exact touches.others other apart
  unfold persistOne at ran
  split at ran
  · next outcome after same =>
    cases ran
    exact touches after (by rw [same])
  · next after same =>
    cases ran
    exact touches after (by rw [same])
  · cases ran

/-- Entries of other slugs leave the entry alone. -/
theorem persistAll_others (ran : persistAll settings faults entries progress = some last)
    {slug : String} (apart : slug ∉ entries.map (·.slug)) :
    last.db.find slug = progress.db.find slug := by
  induction entries generalizing progress with
  | nil =>
      cases ran
      rfl
  | cons parsed rest inductionHypothesis =>
      obtain ⟨next, first, others⟩ := Option.bind_eq_some_iff.mp ran
      rw [List.map_cons, List.mem_cons, not_or] at apart
      rw [inductionHypothesis others apart.2, persistOne_others first apart.1]

/-- What a run that reaches its end makes of a failing entry. -/
theorem rows_of_failing (ran : persistAll settings faults entries progress = some last)
    (distinct : (entries.map (·.slug)).Nodup) (member : parsed ∈ entries)
    (fails : Fails faults progress.db parsed) :
    earlyFault (faults parsed.slug) progress.db parsed.slug = some .other ∨
      rows progress.db parsed.slug < rows last.db parsed.slug := by
  induction entries generalizing progress with
  | nil => cases member
  | cons head rest inductionHypothesis =>
      obtain ⟨next, first, others⟩ := Option.bind_eq_some_iff.mp ran
      rw [List.map_cons, List.nodup_cons] at distinct
      rcases List.mem_cons.mp member with rfl | later
      · have kept : rows last.db parsed.slug = rows next.db parsed.slug := by
          unfold rows
          rw [persistAll_others others distinct.1]
        rw [kept]
        unfold persistOne at first
        rcases early_or_rows settings (faults parsed.slug) parsed progress.db with
          ⟨failure, early, stops⟩ | ⟨-, -, more⟩
        · rw [stops] at first
          cases failure with
          | database => cases first
          | other => exact Or.inl early
        · refine Or.inr ?_
          split at first
          · next outcome after same => exact absurd (quiet_of_ok same) fails
          · next after same =>
            rw [same] at more
            cases first
            exact more
          · cases first
      · have apart : parsed.slug ≠ head.slug := fun same =>
          distinct.1 (same ▸ List.mem_map_of_mem later)
        have same := persistOne_others first apart
        have still : Fails faults next.db parsed := by
          unfold Fails Quiet
          rw [executed_congr same]
          exact fails
        have outcome := inductionHypothesis others distinct.2 later still
        unfold earlyFault rows at outcome ⊢
        rwa [same] at outcome

/-- Persisting an entry depends on the database alone. -/
theorem agree_of_persistOne (agree : Agree progress without)
    (ran : persistOne settings faults without parsed = some last) :
    ∃ next, persistOne settings faults progress parsed = some next ∧ Agree next last := by
  obtain ⟨db, entered, updated, results, created, retired⟩ := agree
  unfold persistOne at ran ⊢
  rw [db]
  split at ran
  · cases ran
    exact ⟨_, rfl, rfl, by simp [Progress.persisted, entered],
      by simp [Progress.persisted, updated], by simp [Progress.persisted, results],
      by simp [Progress.persisted, created], by simp [Progress.persisted, retired]⟩
  · cases ran
    exact ⟨_, rfl, rfl, entered, updated, results, created, retired⟩
  · cases ran

/-- Failing entries that leave nothing are passed over. -/
theorem agree_of_harmless (start : Database) (agree : Agree progress without)
    (distinct : (entries.map (·.slug)).Nodup)
    (same : ∀ parsed ∈ entries, progress.db.find parsed.slug = start.find parsed.slug)
    (harmless : ∀ parsed ∈ entries, Fails faults start parsed →
      earlyFault (faults parsed.slug) start parsed.slug = some .other)
    (ran : persistAll settings faults (entries.filter fun parsed => ¬Fails faults start parsed)
      without = some last) :
    ∃ all, persistAll settings faults entries progress = some all ∧ Agree all last := by
  induction entries generalizing progress without with
  | nil =>
      cases ran
      exact ⟨progress, rfl, agree⟩
  | cons parsed rest inductionHypothesis =>
      rw [List.map_cons, List.nodup_cons] at distinct
      have harmlessRest := fun other member => harmless other (List.mem_cons_of_mem _ member)
      have step : ∀ next, persistOne settings faults progress parsed = some next →
          ∀ other ∈ rest, next.db.find other.slug = start.find other.slug := by
        intro next first other member
        have apart : other.slug ≠ parsed.slug := fun clash =>
          distinct.1 (clash ▸ List.mem_map_of_mem member)
        rw [persistOne_others first apart, same other (List.mem_cons_of_mem _ member)]
      by_cases fails : Fails faults start parsed
      · rw [List.filter_cons_of_neg (by simpa using fails)] at ran
        have early := harmless parsed List.mem_cons_self fails
        have sameEntry := same parsed List.mem_cons_self
        have stops : persistEntry settings (faults parsed.slug) parsed progress.db =
            (.error .other, progress.db) := by
          unfold earlyFault at early
          rw [← sameEntry] at early
          rcases early_or_rows settings (faults parsed.slug) parsed progress.db with
            ⟨failure, found, stops⟩ | ⟨none, -, -⟩
          · unfold earlyFault at found
            rw [early] at found
            cases found
            exact stops
          · unfold earlyFault at none
            rw [early] at none
            cases none
        have first : persistOne settings faults progress parsed = some (progress.failed progress.db
            ⟨some parsed.slug, some parsed.version, .dbWriteFailed⟩) := by
          rw [persistOne, stops]
        have passed : Agree (progress.failed progress.db
            ⟨some parsed.slug, some parsed.version, .dbWriteFailed⟩) without :=
          ⟨agree.db, agree.enteredCount, agree.updatedCount, agree.results, agree.created,
            agree.retired⟩
        obtain ⟨all, later, agreed⟩ :=
          inductionHypothesis passed distinct.2 (step _ first) harmlessRest ran
        exact ⟨all, Option.bind_eq_some_iff.mpr ⟨_, first, later⟩, agreed⟩
      · rw [List.filter_cons_of_pos (by simpa using fails)] at ran
        obtain ⟨beyond, second, others⟩ := Option.bind_eq_some_iff.mp ran
        obtain ⟨next, first, kept⟩ := agree_of_persistOne agree second
        obtain ⟨all, later, agreed⟩ :=
          inductionHypothesis kept distinct.2 (step _ first) harmlessRest others
        exact ⟨all, Option.bind_eq_some_iff.mpr ⟨_, first, later⟩, agreed⟩

end Loop

/-! ### The law -/

theorem agree_retireRemoved {progress without : Progress} (fails : Bool) (corpus : Corpus)
    (agree : Agree progress without) :
    Agree (retireRemoved fails corpus progress) (retireRemoved fails corpus without) := by
  obtain ⟨db, entered, updated, results, created, retired⟩ := agree
  unfold retireRemoved
  split
  · exact ⟨db, entered, updated, results, created, retired⟩
  · rw [db]
    exact ⟨rfl, entered, updated, by simp [results], created, by simp [retired]⟩

theorem length_remove (slugs : List String) (entry : MarketingKnowledgeEntry) :
    (entry.remove slugs).versions.length = entry.versions.length := by
  unfold MarketingKnowledgeEntry.remove
  split
  · rfl
  · exact length_setVersion entry _

theorem rows_retireRemoved (fails : Bool) (corpus : Corpus) (progress : Progress) (slug : String) :
    rows (retireRemoved fails corpus progress).db slug = rows progress.db slug := by
  unfold retireRemoved
  split
  · rfl
  · unfold rows
    dsimp only
    rw [find_retireRemovedEntries]
    cases progress.db.find slug with
    | none => rfl
    | some entry => exact congrArg (· + 1) (length_remove corpus.slugs entry)

/-- The entries that do not fail. -/
def unfailing (run : Run) (db : Database) : List ParsedKnowledgeEntry :=
  (toPersist db run.corpus run.now).filter fun parsed => ¬Fails run.persistFaults db parsed

/-- What the run gathers in PostgreSQL as if the failing entries had been absent from the entries to
persist. -/
def ingestUnfailing (settings : Settings) (run : Run) (db : Database) : Option Progress :=
  (persistAll settings run.persistFaults (unfailing run db) (.start db)).map
    (retireRemoved run.retireFails run.corpus)

/-- The run goes on to its end, and has persisted, retired and counted the other entries as if the
failing ones had been absent; no row of these is left. -/
def Unspoiled (settings : Settings) (run : Run) (db : Database) : Prop :=
  ∃ progress without, ingestDatabase settings run db = some progress ∧
    ingestUnfailing settings run db = some without ∧ Agree progress without

/-- Every failing entry fails before its first write, and not by the database. -/
def FailsEarly (run : Run) (db : Database) : Prop :=
  ∀ parsed ∈ toPersist db run.corpus run.now, Fails run.persistFaults db parsed →
    earlyFault (run.persistFaults parsed.slug) db parsed.slug = some .other

/-- Bad entries leave a run unspoiled exactly if each of them fails before its first write, by
another failure than the database's, and the chunks of the others fit. -/
theorem unspoiled_iff (settings : Settings) (run : Run) (db : Database) :
    Unspoiled settings run db ↔ FailsEarly run db ∧ Fits settings db (unfailing run db) := by
  have distinct : ((unfailing run db).map (·.slug)).Nodup :=
    toPersist_nodup.sublist (List.filter_sublist.map _)
  have quiet : ∀ parsed ∈ unfailing run db,
      Quiet (run.persistFaults parsed.slug) (Progress.start db).db parsed.slug := by
    intro parsed member
    have kept : ¬Fails run.persistFaults db parsed :=
      of_decide_eq_true (List.mem_filter.mp member).2
    exact not_not.mp kept
  have persists := persistAll_iff settings distinct quiet
  constructor
  · rintro ⟨progress, without, ran, absent, agree⟩
    obtain ⟨all, allRan, rfl⟩ := Option.map_eq_some_iff.mp ran
    obtain ⟨some, someRan, rfl⟩ := Option.map_eq_some_iff.mp absent
    refine ⟨fun parsed member fails => ?_, persists.mp (Option.isSome_iff_exists.mpr ⟨_, someRan⟩)⟩
    rcases rows_of_failing allRan toPersist_nodup member fails with early | more
    · exact early
    · have unlisted : parsed.slug ∉ (unfailing run db).map (·.slug) := by
        intro listed
        obtain ⟨other, among, same⟩ := List.mem_map.mp listed
        have kept := List.mem_filter.mp among
        rw [eq_of_slug toPersist_nodup kept.1 member same] at kept
        exact of_decide_eq_true kept.2 fails
      have left := persistAll_others someRan unlisted
      have rowsLeft : rows some.db parsed.slug = rows db parsed.slug := by
        unfold rows
        rw [left]
        rfl
      have rowsAll := rows_retireRemoved run.retireFails run.corpus all parsed.slug
      rw [agree.db, rows_retireRemoved, rowsLeft] at rowsAll
      exact absurd more (by
        rw [← rowsAll]
        exact Nat.lt_irrefl _)
  · rintro ⟨early, fits⟩
    obtain ⟨without, ran⟩ := Option.isSome_iff_exists.mp (persists.mpr fits)
    obtain ⟨all, allRan, agree⟩ := agree_of_harmless db (Agree.refl (.start db)) toPersist_nodup
      (fun _ _ => rfl) early ran
    exact ⟨_, _, congrArg _ allRan, congrArg _ ran, agree_retireRemoved _ _ agree⟩

/-! ### A bad entry that stops the run -/

namespace Samples

def twoFiles : Corpus :=
  ⟨[file "eid" "Eid" "Offer bundles.", file "ramadan" "Ramadan" "Start early."], by decide⟩

/-- The database refuses the chunks of one of the two files. -/
def refusedChunks : Run :=
  { faultless twoFiles with
    persistFaults := fun slug which =>
      if slug = "eid" ∧ which = .createChunks then some .database else none }

/-- Something else is raised once the chunks of one of the two files are written. -/
def raisedLate : Run :=
  { faultless twoFiles with
    persistFaults := fun slug which =>
      if slug = "eid" ∧ which = .updateEntryLatestVersion then some .other else none }

end Samples

/-- An entry that the database refuses stops the run, and one that fails otherwise after its chunks
leaves its rows. -/
theorem bad_entry_spoils_run :
    ¬Unspoiled Samples.singleChunks Samples.refusedChunks .empty ∧
      ¬Unspoiled Samples.singleChunks Samples.raisedLate .empty := by
  constructor
  · rintro ⟨progress, -, ran, -⟩
    have stops : (ingestDatabase Samples.singleChunks Samples.refusedChunks .empty).isNone := by
      decide +kernel
    rw [ran] at stops
    cases stops
  · rintro ⟨progress, without, ran, absent, agree⟩
    have left : (ingestDatabase Samples.singleChunks Samples.raisedLate .empty).map
        (rows ·.db "eid") = some 2 := by decide +kernel
    have none : (ingestUnfailing Samples.singleChunks Samples.raisedLate .empty).map
        (rows ·.db "eid") = some 0 := by decide +kernel
    rw [ran, Option.map_some, agree.db] at left
    rw [absent, Option.map_some, left] at none
    cases none

end MarketMind.Knowledge
