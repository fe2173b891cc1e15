import MarketMind.Knowledge.WellFormed

/-!
Owns the law that the index holds exactly the chunks of the approved current versions, and exactly
when a run or a rebuild that reports success leaves it so.
-/

namespace MarketMind.Knowledge

open Rag (ReviewStatus)

variable {settings : Settings} {run : Run} {db after : Database} {index : Index} {slug : String}
  {id : Uuid} {point : QdrantKnowledgePoint} {points : List (Uuid × QdrantKnowledgePoint)}

/-! ### The points of the live versions -/

/-- The points of the approved current versions. -/
def livePoints (db : Database) : List (Uuid × QdrantKnowledgePoint) :=
  (getLiveApprovedVersions db).flatMap fun live => versionPoints live.1 live.2

/-- The collection holds these points and no others. -/
def InSync (index : Index) (db : Database) : Prop :=
  ∀ id point, index id = some point ↔ (id, point) ∈ livePoints db

theorem mem_versionPoints {version : MarketingKnowledgeEntryVersion} :
    (id, point) ∈ versionPoints slug version ↔
      ∃ chunk ∈ version.chunks, generatePointId chunk.chunkId version.version = id ∧
        buildQdrantPayload slug version chunk = point := by
  unfold versionPoints
  simp only [List.mem_map, Prod.mk.injEq]

theorem mem_livePoints :
    (id, point) ∈ livePoints db ↔
      ∃ slug entry, db.find slug = some entry ∧ ∃ version ∈ liveApproved entry,
        (id, point) ∈ versionPoints slug version := by
  unfold livePoints getLiveApprovedVersions
  simp only [List.mem_flatMap, List.mem_map]
  constructor
  · rintro ⟨_, ⟨entry, member, version, live, rfl⟩, stands⟩
    exact ⟨entry.slug, entry, Database.find_of_mem member, version, live, stands⟩
  · rintro ⟨slug, entry, found, version, live, stands⟩
    cases Database.slug_of_find found
    exact ⟨_, ⟨entry, Database.mem_of_find found, version, live, rfl⟩, stands⟩

theorem mem_liveApproved {entry : MarketingKnowledgeEntry}
    {version : MarketingKnowledgeEntryVersion} :
    version ∈ liveApproved entry ↔ version ∈ entry.versions ∧
      version.version = entry.latestVersion ∧ version.reviewStatus = .approved := by
  unfold liveApproved
  simp

/-- A point identifier belongs to a single version, and to a single chunk of it. -/
theorem WellFormed.point_unique (wellFormed : WellFormed db) {other : String}
    {version holder : MarketingKnowledgeEntryVersion} {stored : QdrantKnowledgePoint}
    (member : version ∈ db.versionsOf slug) (listed : holder ∈ db.versionsOf other)
    (one : (id, point) ∈ versionPoints slug version)
    (two : (id, stored) ∈ versionPoints other holder) :
    slug = other ∧ version = holder ∧ point = stored := by
  obtain ⟨chunk, among, identified, rfl⟩ := mem_versionPoints.mp one
  obtain ⟨twin, within, same, rfl⟩ := mem_versionPoints.mp two
  obtain ⟨sameChunk, -⟩ := Uuid.point.inj (identified.trans same.symm)
  obtain ⟨rfl, sameNumber, rfl⟩ := wellFormed.unique ⟨version, member, rfl, among⟩
    ⟨holder, listed, rfl, within⟩ sameChunk
  have sameVersion : version = holder :=
    List.inj_on_of_nodup_map (wellFormed.numbered slug) member listed sameNumber
  exact ⟨rfl, sameVersion, by rw [sameVersion]⟩

theorem livePoints_unique (wellFormed : WellFormed db) {stored : QdrantKnowledgePoint}
    (one : (id, point) ∈ livePoints db) (two : (id, stored) ∈ livePoints db) : point = stored := by
  obtain ⟨slug, entry, found, version, live, stands⟩ := mem_livePoints.mp one
  obtain ⟨other, holderEntry, present, holder, alive, within⟩ := mem_livePoints.mp two
  refine (wellFormed.point_unique ?_ ?_ stands within).2.2
  · rw [versionsOf_of_find found]
    exact (mem_liveApproved.mp live).1
  · rw [versionsOf_of_find present]
    exact (mem_liveApproved.mp alive).1

/-! ### Upserts -/

theorem upsertPoints_of_not_mem (absent : id ∉ points.map Prod.fst) (index : Index) :
    upsertPoints points index id = index id := by
  unfold upsertPoints
  induction points generalizing index with
  | nil => rfl
  | cons head rest inductionHypothesis =>
      rw [List.map_cons, List.mem_cons, not_or] at absent
      rw [List.foldl_cons, inductionHypothesis absent.2, Function.update_of_ne absent.1]

theorem upsertPoints_of_mem (member : (id, point) ∈ points)
    (single : ∀ other, (id, other) ∈ points → other = point) (index : Index) :
    upsertPoints points index id = some point := by
  induction points generalizing index with
  | nil => cases member
  | cons head rest inductionHypothesis =>
      have later := fun other among => single other (List.mem_cons_of_mem head among)
      by_cases again : id ∈ rest.map Prod.fst
      · obtain ⟨⟨_, other⟩, among, rfl⟩ := List.mem_map.mp again
        cases later other among
        exact inductionHypothesis among later _
      · rcases List.mem_cons.mp member with rfl | among
        · refine (upsertPoints_of_not_mem again _).trans ?_
          exact Function.update_self id (some point) index
        · exact absurd (List.mem_map_of_mem among) again

theorem upsertPoints_append (first second : List (Uuid × QdrantKnowledgePoint)) (index : Index) :
    upsertPoints (first ++ second) index = upsertPoints second (upsertPoints first index) :=
  List.foldl_append

/-! ### A rebuild -/

theorem versionPoints_of_empty {version : MarketingKnowledgeEntryVersion}
    (empty : version.chunks = []) : versionPoints slug version = [] := by
  rw [versionPoints, empty]
  rfl

theorem rebuildAll_of_clean {faults : RebuildFaults}
    {live : List (String × MarketingKnowledgeEntryVersion)} (index : Index)
    (clean : (rebuildAll faults live index).2 = []) :
    (rebuildAll faults live index).1 =
      upsertPoints (live.flatMap fun live => versionPoints live.1 live.2) index := by
  induction live generalizing index with
  | nil => rfl
  | cons head rest inductionHypothesis =>
      obtain ⟨slug, version⟩ := head
      rw [List.flatMap_cons, upsertPoints_append]
      unfold rebuildAll at clean ⊢
      split at clean
      · next empty =>
        rw [if_pos empty, inductionHypothesis index clean,
          versionPoints_of_empty (List.isEmpty_iff.mp empty)]
        rfl
      · next filled =>
        rw [if_neg filled]
        dsimp only at clean ⊢
        split at clean
        · exact inductionHypothesis _ clean
        · cases clean

/-- Every point of the collection has the identifier of a live point. -/
def NoStray (index : Index) (db : Database) : Prop :=
  ∀ id point, index id = some point → id ∈ (livePoints db).map Prod.fst

theorem inSync_rebuild (wellFormed : WellFormed db) (index : Index) :
    InSync (upsertPoints (livePoints db) index) db ↔ NoStray index db := by
  constructor
  · intro sync id point stands
    by_contra absent
    have kept := (upsertPoints_of_not_mem absent index).trans stands
    exact absent (List.mem_map_of_mem ((sync id point).mp kept))
  · intro noStray id point
    constructor
    · intro stands
      by_contra absent
      by_cases listed : id ∈ (livePoints db).map Prod.fst
      · obtain ⟨⟨_, other⟩, among, rfl⟩ := List.mem_map.mp listed
        have written := upsertPoints_of_mem among
          (fun twin within => livePoints_unique wellFormed within among) index
        rw [stands] at written
        cases written
        exact absent among
      · exact listed (noStray id point ((upsertPoints_of_not_mem listed index).symm.trans stands))
    · intro live
      exact upsertPoints_of_mem live (fun twin within => livePoints_unique wellFormed within live)
        index

/-! ### The points that a run upserts -/

/-- The points of the versions, by their slugs and numbers. -/
def createdPoints (db : Database) (created : List (String × Nat)) :
    List (Uuid × QdrantKnowledgePoint) :=
  created.flatMap fun place => ((db.version place.1 place.2).map (versionPoints place.1)).getD []

theorem upsertAll_of_clean {created : List (String × Nat)} (index : Index)
    (clean : (upsertAll run db created index).2 = [])
    (embedded : run.embeddingFails = true → ∀ place ∈ created, ∀ version,
      db.version place.1 place.2 = some version → version.chunks = []) :
    (upsertAll run db created index).1 = upsertPoints (createdPoints db created) index := by
  induction created generalizing index with
  | nil => rfl
  | cons head rest inductionHypothesis =>
      obtain ⟨slug, number⟩ := head
      have later := fun fails place member =>
        embedded fails place (List.mem_cons_of_mem (slug, number) member)
      unfold createdPoints
      rw [List.flatMap_cons, upsertPoints_append]
      unfold upsertAll at clean ⊢
      cases found : db.version slug number with
      | none =>
          rw [found] at clean
          exact inductionHypothesis index clean later
      | some version =>
          rw [found] at clean
          dsimp only [Option.map_some, Option.getD_some] at clean ⊢
          split at clean
          · next skipped =>
            rw [if_pos skipped, inductionHypothesis index clean later]
            have empty : version.chunks = [] := by
              rcases Bool.or_eq_true_iff.mp skipped with fails | empty
              · exact embedded fails (slug, number) List.mem_cons_self version found
              · exact List.isEmpty_iff.mp empty
            rw [versionPoints_of_empty empty]
            rfl
          · next upserted =>
            rw [if_neg upserted]
            dsimp only at clean ⊢
            obtain ⟨here, rest'⟩ := List.append_eq_nil_iff.mp clean
            have written : (upsertEntry run slug version index).1 =
                upsertPoints (versionPoints slug version) index := by
              unfold upsertEntry at here ⊢
              dsimp only at here ⊢
              split at here
              · rfl
              · cases here
            rw [inductionHypothesis _ rest' later, written]
            rfl

/-- The points of the versions to create. -/
def writtenPoints (settings : Settings) (db : Database) (corpus : Corpus) (now : Int) :
    List (Uuid × QdrantKnowledgePoint) :=
  (toPersist db corpus now).flatMap fun parsed =>
    versionPoints parsed.slug (parsed.complete settings (db.entryOf parsed.slug).nextNumber)

theorem version_complete {parsed : ParsedKnowledgeEntry} {entry : MarketingKnowledgeEntry}
    (found : db.find parsed.slug = some (entry.persist settings parsed)) :
    db.version parsed.slug entry.nextNumber =
      some (parsed.complete settings entry.nextNumber) := by
  rw [Database.version, versionsOf_of_find found]
  unfold MarketingKnowledgeEntry.persist
  rw [List.find?_append, List.find?_eq_none.mpr]
  · simp [ParsedKnowledgeEntry.complete, ParsedKnowledgeEntry.row]
  · intro version member
    obtain ⟨previous, among, rfl⟩ := List.mem_map.mp member
    have older := MarketingKnowledgeEntry.lt_nextNumber among
    intro same
    exact Nat.ne_of_lt older (of_decide_eq_true same)

theorem createdPoints_of_succeeded {progress : Progress}
    (done : Succeeded settings run db progress) :
    createdPoints progress.db progress.created =
      writtenPoints settings db run.corpus run.now := by
  unfold createdPoints writtenPoints
  rw [done.created, List.flatMap_map]
  refine List.flatMap_congr fun parsed member => ?_
  rw [version_complete (done.persisted parsed member)]
  rfl

/-! ### The points that a run deletes -/

/-- The run retires the version. -/
def Retires (run : Run) (db : Database) (slug : String) (number : Nat) : Prop :=
  (slug ∈ (toPersist db run.corpus run.now).map (·.slug) ∧
    ∃ version ∈ db.versionsOf slug,
      version.reviewStatus ≠ .retired ∧ version.version = number) ∨
  ∃ entry, db.find slug = some entry ∧ removedVersion run.corpus.slugs entry = some number

/-- The run deletes the point. -/
def Deletes (run : Run) (db : Database) (id : Uuid) : Prop :=
  ∃ slug number, Retires run db slug number ∧ id ∈ deletedIds run db slug number

theorem mem_retired {progress : Progress} (wellFormed : WellFormed db)
    (done : Succeeded settings run db progress) (slug : String) (number : Nat) :
    (slug, number) ∈ progress.retired ↔ Retires run db slug number := by
  rw [done.retired]
  refine or_congr_left ?_
  rw [versions_entryOf, List.mem_map]
  constructor
  · rintro ⟨parsed, member, same, -, stands⟩
    exact ⟨⟨parsed, member, same⟩, stands⟩
  · rintro ⟨⟨parsed, member, same⟩, version, listed, live, numbered⟩
    refine ⟨parsed, member, same, ?_, version, listed, live, numbered⟩
    have positive := wellFormed.positive slug version listed
    rw [← versions_entryOf] at listed
    have older := MarketingKnowledgeEntry.lt_nextNumber listed
    omega

theorem version_skeleton (db : Database) (slug : String) (number : Nat) :
    (db.version slug number).map skeleton =
      ((db.versionsOf slug).map skeleton).find? (·.1 = number) := by
  rw [Database.version, List.find?_map]
  rfl

theorem deletedIds_congr {number : Nat}
    (same : (after.version slug number).map skeleton = (db.version slug number).map skeleton) :
    deletedIds run after slug number = deletedIds run db slug number := by
  unfold deletedIds
  cases later : after.version slug number with
  | none =>
      cases earlier : db.version slug number with
      | none => rfl
      | some version =>
          rw [later, earlier] at same
          cases same
  | some holder =>
      cases earlier : db.version slug number with
      | none =>
          rw [later, earlier] at same
          cases same
      | some version =>
          rw [later, earlier] at same
          have chunks : holder.chunks = version.chunks :=
            congrArg Prod.snd (Option.some.inj same)
          dsimp only
          rw [chunks]

/-- The chunks of a version that is listed are found among more versions. -/
theorem deletedIds_of_prefix {number : Nat} {extra : List (Nat × List MarketingKnowledgeChunk)}
    (same : (after.versionsOf slug).map skeleton = (db.versionsOf slug).map skeleton ++ extra)
    (listed : ∃ version ∈ db.versionsOf slug, version.version = number) :
    deletedIds run after slug number = deletedIds run db slug number := by
  refine deletedIds_congr ?_
  rw [version_skeleton, version_skeleton, same, List.find?_append]
  obtain ⟨version, member, numbered⟩ := listed
  have found : (((db.versionsOf slug).map skeleton).find? (·.1 = number)).isSome := by
    exact List.find?_isSome.mpr
      ⟨skeleton version, List.mem_map_of_mem member, decide_eq_true numbered⟩
  obtain ⟨shape, equal⟩ := Option.isSome_iff_exists.mp found
  rw [equal]
  rfl

theorem mem_of_version {number : Nat} {version : MarketingKnowledgeEntryVersion}
    (found : db.version slug number = some version) : version ∈ db.versionsOf slug :=
  List.mem_of_find?_eq_some found

theorem number_of_version {number : Nat} {version : MarketingKnowledgeEntryVersion}
    (found : db.version slug number = some version) : version.version = number := by
  unfold Database.version at found
  simpa using List.find?_some found

/-- A deleted point belongs to the version. -/
theorem version_of_deletedIds {number : Nat} (deleted : id ∈ deletedIds run db slug number) :
    ∃ version, db.version slug number = some version ∧
      ∃ point, (id, point) ∈ versionPoints slug version := by
  unfold deletedIds at deleted
  split at deleted
  · cases deleted
  · next version found =>
    have numbered := number_of_version found
    have among : id ∈ version.chunks.map fun chunk => generatePointId chunk.chunkId number := by
      dsimp only at deleted
      split at deleted
      · exact deleted
      · exact List.mem_of_mem_take deleted
    obtain ⟨chunk, member, rfl⟩ := List.mem_map.mp among
    exact ⟨version, found, _, mem_versionPoints.mpr ⟨chunk, member, by rw [numbered], rfl⟩⟩

theorem listed_of_retires {number : Nat} (retires : Retires run db slug number) :
    ∃ version ∈ db.versionsOf slug, version.version = number := by
  rcases retires with ⟨-, version, member, -, numbered⟩ | ⟨entry, found, removed⟩
  · exact ⟨version, member, numbered⟩
  · unfold removedVersion at removed
    split at removed
    · cases removed
    · obtain ⟨latest, newest, rfl⟩ := Option.map_eq_some_iff.mp removed
      refine ⟨latest, ?_, rfl⟩
      rw [versionsOf_of_find found]
      exact MarketingKnowledgeEntry.mem_of_latest (Option.filter_eq_some_iff.mp newest).1

theorem skeletons_persist (settings : Settings) (parsed : ParsedKnowledgeEntry)
    (entry : MarketingKnowledgeEntry) :
    (entry.persist settings parsed).versions.map skeleton =
      entry.versions.map skeleton ++ [skeleton (parsed.complete settings entry.nextNumber)] := by
  unfold MarketingKnowledgeEntry.persist
  rw [List.map_append, List.map_map]
  rfl

/-! ### The live points after a run -/

/-- A point of a live version that the run leaves alone. -/
def Aside (run : Run) (db : Database) (id : Uuid) (point : QdrantKnowledgePoint) : Prop :=
  ∃ slug entry, db.find slug = some entry ∧
    slug ∉ (toPersist db run.corpus run.now).map (·.slug) ∧
      ∃ version ∈ liveApproved entry,
        removedVersion run.corpus.slugs entry ≠ some version.version ∧
          (id, point) ∈ versionPoints slug version

/-- The retirement of removed entries leaves the other approved versions live. -/
theorem mem_liveApproved_remove {slugs : List String} {entry : MarketingKnowledgeEntry}
    {version : MarketingKnowledgeEntryVersion} :
    version ∈ liveApproved (entry.remove slugs) ↔
      version ∈ liveApproved entry ∧ removedVersion slugs entry ≠ some version.version := by
  rw [mem_liveApproved, mem_liveApproved]
  unfold MarketingKnowledgeEntry.remove
  cases removed : removedVersion slugs entry with
  | none => simp
  | some number =>
      dsimp only [MarketingKnowledgeEntry.setVersion]
      rw [List.mem_map]
      constructor
      · rintro ⟨⟨previous, member, rfl⟩, current, approved⟩
        split at approved
        · cases approved
        · next other =>
          rw [if_neg other] at current ⊢
          exact ⟨⟨member, current, approved⟩, fun same => other (Option.some.inj same).symm⟩
      · rintro ⟨⟨member, current, approved⟩, other⟩
        refine ⟨⟨version, member, if_neg fun same => other (congrArg some same.symm)⟩, current,
          approved⟩

section AfterRun

variable {progress : Progress} (done : Succeeded settings run db progress)

include done

/-- The versions of an entry before the run are among those after it. -/
theorem skeletons_of_retires {number : Nat} (retires : Retires run db slug number) :
    ∃ extra, (progress.db.versionsOf slug).map skeleton =
      (db.versionsOf slug).map skeleton ++ extra := by
  rcases retires with ⟨persists, -⟩ | ⟨entry, found, removed⟩
  · obtain ⟨parsed, member, rfl⟩ := List.mem_map.mp persists
    rw [versionsOf_of_find (done.persisted parsed member), skeletons_persist, versions_entryOf]
    exact ⟨_, rfl⟩
  · have unlisted := Database.slug_of_find found ▸ unlisted_of_removed removed
    have after := done.removed slug unlisted
    rw [found, Option.map_some] at after
    rw [versionsOf_of_find after, versionsOf_of_find found, skeletons_remove]
    exact ⟨[], (List.append_nil _).symm⟩

theorem deletedIds_of_retires {number : Nat} (retires : Retires run db slug number) :
    deletedIds run progress.db slug number = deletedIds run db slug number := by
  obtain ⟨extra, same⟩ := skeletons_of_retires done retires
  exact deletedIds_of_prefix same (listed_of_retires retires)

/-- What the run retires is retired after it. -/
theorem retired_of_retires {number : Nat} (retires : Retires run db slug number)
    {version : MarketingKnowledgeEntryVersion} (member : version ∈ progress.db.versionsOf slug)
    (numbered : version.version = number) : version.reviewStatus = .retired := by
  rcases retires with ⟨persists, older, listed, -, sameNumber⟩ | ⟨entry, found, removed⟩
  · obtain ⟨parsed, among, rfl⟩ := List.mem_map.mp persists
    rw [versionsOf_of_find (done.persisted parsed among)] at member
    rcases List.mem_append.mp member with kept | added
    · obtain ⟨previous, -, rfl⟩ := List.mem_map.mp kept
      rfl
    · rw [← versions_entryOf] at listed
      have below := MarketingKnowledgeEntry.lt_nextNumber listed
      rw [List.mem_singleton.mp added] at numbered
      change (db.entryOf parsed.slug).nextNumber = number at numbered
      omega
  · have unlisted := Database.slug_of_find found ▸ unlisted_of_removed removed
    exact (publishes done).removed slug unlisted entry found number removed version member numbered

/-- The points that the run upserts are those of live versions. -/
theorem live_of_written
    (written : (id, point) ∈ writtenPoints settings db run.corpus run.now) :
    (id, point) ∈ livePoints progress.db := by
  obtain ⟨parsed, member, stands⟩ := List.mem_flatMap.mp written
  refine mem_livePoints.mpr ⟨parsed.slug, _, done.persisted parsed member, _, ?_, stands⟩
  have approved : parsed.reviewStatus = .approved := by
    have eligible := (mem_toPersist.mp member).2.2
    unfold isEntryEligible at eligible
    simp_all
  exact mem_liveApproved.mpr
    ⟨List.mem_append_right _ (List.mem_singleton_self _), rfl, approved⟩

/-- The other live points are those of the versions left alone. -/
theorem live_iff_aside
    (unwritten : id ∉ (writtenPoints settings db run.corpus run.now).map Prod.fst) :
    (id, point) ∈ livePoints progress.db ↔ Aside run db id point := by
  constructor
  · intro live
    obtain ⟨slug, entry, found, version, isLive, stands⟩ := mem_livePoints.mp live
    obtain ⟨member, current, approved⟩ := mem_liveApproved.mp isLive
    by_cases persists : slug ∈ (toPersist db run.corpus run.now).map (·.slug)
    · obtain ⟨parsed, among, rfl⟩ := List.mem_map.mp persists
      rw [done.persisted parsed among] at found
      cases found
      rcases List.mem_append.mp member with kept | added
      · obtain ⟨previous, -, rfl⟩ := List.mem_map.mp kept
        cases approved
      · rw [List.mem_singleton.mp added] at stands
        have written : (id, point) ∈ writtenPoints settings db run.corpus run.now :=
          List.mem_flatMap.mpr ⟨parsed, among, stands⟩
        exact absurd (List.mem_map_of_mem written) unwritten
    · by_cases listed : slug ∈ run.corpus.slugs
      · rw [done.kept slug persists listed] at found
        refine ⟨slug, entry, found, persists, version, isLive, ?_, stands⟩
        intro removed
        exact unlisted_of_removed removed (Database.slug_of_find found ▸ listed)
      · rw [done.removed slug listed] at found
        obtain ⟨before, present, rfl⟩ := Option.map_eq_some_iff.mp found
        obtain ⟨wasLive, unremoved⟩ := mem_liveApproved_remove.mp isLive
        exact ⟨slug, before, present, persists, version, wasLive, unremoved, stands⟩
  · rintro ⟨slug, entry, found, persists, version, isLive, unremoved, stands⟩
    by_cases listed : slug ∈ run.corpus.slugs
    · refine mem_livePoints.mpr ⟨slug, entry, ?_, version, isLive, stands⟩
      rw [done.kept slug persists listed, found]
    · refine mem_livePoints.mpr ⟨slug, entry.remove run.corpus.slugs, ?_, version,
        mem_liveApproved_remove.mpr ⟨isLive, unremoved⟩, stands⟩
      rw [done.removed slug listed, found]
      rfl

/-- A point that the run deletes belongs to no live version. -/
theorem not_live_of_deletes (wellFormed : WellFormed progress.db) (deletes : Deletes run db id)
    (point : QdrantKnowledgePoint) : (id, point) ∉ livePoints progress.db := by
  intro live
  obtain ⟨slug, number, retires, deleted⟩ := deletes
  rw [← deletedIds_of_retires done retires] at deleted
  obtain ⟨holder, found, stored, stands⟩ := version_of_deletedIds deleted
  obtain ⟨other, entry, present, version, isLive, within⟩ := mem_livePoints.mp live
  obtain ⟨member, -, approved⟩ := mem_liveApproved.mp isLive
  rw [← versionsOf_of_find present] at member
  have listed := mem_of_version found
  obtain ⟨-, rfl, -⟩ := wellFormed.point_unique listed member stands within
  have numbered := number_of_version found
  rw [retired_of_retires done retires listed numbered] at approved
  cases approved

end AfterRun

/-! ### The law -/

/-- But for the points that the run upserts and those that it deletes, the collection holds exactly
the points of the versions that the run leaves alone. -/
def IndexedAside (settings : Settings) (run : Run) (state : State) : Prop :=
  ∀ id point, id ∉ (writtenPoints settings state.db run.corpus run.now).map Prod.fst →
    ¬Deletes run state.db id → (state.index id = some point ↔ Aside run state.db id point)

theorem inSync_ingest {state after : State} {progress : Progress}
    (wellFormed : WellFormed state.db) (reported : Reported settings run state after progress) :
    InSync after.index after.db ↔ IndexedAside settings run state := by
  have done := succeeded_of_ingestDatabase reported.ran reported.clean
  have wellFormedAfter : WellFormed progress.db := keeps_ingestDatabase reported.ran wellFormed
  have upserted := upsertAll_of_clean state.index reported.upserted reported.embedded
  rw [createdPoints_of_succeeded done] at upserted
  have deletes : ∀ id, id ∈ progress.retired.flatMap
      (fun place => deletedIds run progress.db place.1 place.2) ↔ Deletes run state.db id := by
    intro id
    rw [List.mem_flatMap]
    constructor
    · rintro ⟨⟨slug, number⟩, member, deleted⟩
      have retires := (mem_retired wellFormed done slug number).mp member
      rw [deletedIds_of_retires done retires] at deleted
      exact ⟨slug, number, retires, deleted⟩
    · rintro ⟨slug, number, retires, deleted⟩
      rw [← deletedIds_of_retires done retires] at deleted
      exact ⟨(slug, number), (mem_retired wellFormed done slug number).mpr retires, deleted⟩
  have gone : ∀ id, Deletes run state.db id → after.index id = none := by
    intro id deleted
    rw [reported.after]
    exact if_pos ((deletes id).mpr deleted)
  have kept : ∀ id, ¬Deletes run state.db id → after.index id =
      upsertPoints (writtenPoints settings state.db run.corpus run.now) state.index id := by
    intro id undeleted
    rw [reported.after, ← upserted]
    exact if_neg fun deleted => undeleted ((deletes id).mp deleted)
  have database : after.db = progress.db := by rw [reported.after]
  rw [database]
  have aside : ∀ id point, id ∉ (writtenPoints settings state.db run.corpus run.now).map Prod.fst →
      ¬Deletes run state.db id →
        ((after.index id = some point ↔ (id, point) ∈ livePoints progress.db) ↔
          (state.index id = some point ↔ Aside run state.db id point)) := by
    intro id point unwritten undeleted
    rw [kept id undeleted, upsertPoints_of_not_mem unwritten, live_iff_aside done unwritten]
  constructor
  · intro sync id point unwritten undeleted
    exact (aside id point unwritten undeleted).mp (sync id point)
  · intro indexed id point
    by_cases deleted : Deletes run state.db id
    · exact iff_of_false (by simp [gone id deleted])
        (not_live_of_deletes done wellFormedAfter deleted point)
    · by_cases written : id ∈ (writtenPoints settings state.db run.corpus run.now).map Prod.fst
      · obtain ⟨⟨_, stored⟩, member, rfl⟩ := List.mem_map.mp written
        have live := live_of_written done member
        have stands := upsertPoints_of_mem member (fun twin within =>
          livePoints_unique wellFormedAfter (live_of_written done within) live) state.index
        rw [kept _ deleted, stands]
        constructor
        · rintro same
          cases same
          exact live
        · intro other
          rw [livePoints_unique wellFormedAfter live other]
      · exact (aside id point written deleted).mpr (indexed id point written deleted)

/-- Whenever a run or a rebuild of the history reports success, the collection holds exactly the
chunks of the approved current versions. -/
def MirrorsDatabase (settings : Settings) (steps : List Step) : Prop :=
  Whenever settings (fun _ _ after => InSync after.index after.db) .empty steps

/-- What a run or a rebuild does not repair is right before it. -/
def Repairable (settings : Settings) (before : State) (step : Step) (_ : State) : Prop :=
  match step with
  | .ingest run => IndexedAside settings run before
  | .rebuild _ => NoStray before.index before.db
  | .createNewVersion _ => True

/-- A history keeps the collection a mirror of the approved current versions exactly if every run
that reports success finds it right but for the points that the run upserts and deletes, and every
rebuild that reports success finds no point but those of live versions. -/
theorem mirrorsDatabase_iff (settings : Settings) (steps : List Step) :
    MirrorsDatabase settings steps ↔ Whenever settings (Repairable settings) .empty steps := by
  refine whenever_congr (fun state => WellFormed state.db) wellFormed_apply
    (fun state step wellFormed succeeds => ?_) steps wellFormed_empty
  cases step with
  | ingest run =>
      obtain ⟨progress, reported⟩ := reported_of_succeeds succeeds
      exact inSync_ingest wellFormed reported
  | rebuild faults =>
      have clean : (rebuildAll faults (getLiveApprovedVersions state.db) state.index).2 = [] := by
        change decide ((rebuildQdrantIndex faults state).2 = .succeeded) = true at succeeds
        unfold rebuildQdrantIndex at succeeds
        by_contra filled
        simp [filled] at succeeds
      have rebuilt : ((Step.rebuild faults).apply settings state).index =
          upsertPoints (livePoints state.db) state.index :=
        rebuildAll_of_clean state.index clean
      have law := inSync_rebuild wellFormed state.index
      rw [← rebuilt] at law
      exact law
  | createNewVersion dto => cases succeeds

/-! ### A run after a failed upsert -/

namespace Samples

/-- The rows are committed, but no point is upserted. -/
def unreachableIndex : Run :=
  { faultless published with upsertFails := fun _ => some 0 }

end Samples

/-- An upsert fails, and the same corpus is ingested again: the second run reports success, but the
point of the only chunk is missing. -/
theorem rerun_leaves_index_empty :
    ¬MirrorsDatabase Samples.singleChunks
      [.ingest Samples.unreachableIndex, .ingest (Samples.faultless Samples.published)] := by
  rintro ⟨-, second, -⟩
  have sync := second (by decide +kernel)
  have live : (livePoints (Step.apply Samples.singleChunks
      (Step.apply Samples.singleChunks .empty (.ingest Samples.unreachableIndex))
      (.ingest (Samples.faultless Samples.published))).db).all fun point =>
        (Step.apply Samples.singleChunks
          (Step.apply Samples.singleChunks .empty (.ingest Samples.unreachableIndex))
          (.ingest (Samples.faultless Samples.published))).index point.1 = some point.2 :=
    List.all_eq_true.mpr fun point member => decide_eq_true ((sync point.1 point.2).mpr member)
  exact absurd live (by decide +kernel)

end MarketMind.Knowledge
