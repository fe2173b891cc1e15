import MarketMind.Strategy.Guards

/-!
Owns when a brief stays as it is once a run has claimed its strategy, and with it the
provenance of retrievals and versions.

Does not own the deletion of a rejected strategy, which takes the brief along.
-/

namespace MarketMind.Strategy.FrozenBrief

open MarketMind.Transactions
open MarketMind.Transactions.Protocol

/-! ### The condition -/

/-- The decision deletes the strategy. -/
def rejects : Call → Bool
  | .handleDecision _ _ dto _ => dto.action = .reject
  | _ => false

/-- The strategy waits for its brief, or is ready for its first run. -/
def Unstarted (world : World) (id : Uuid) : Prop :=
  ∀ row, world.strategies.find id = some row →
    row.status = .needsBrief ∨ (row.status = .ready ∧ id ∉ world.reopened)

/-- A brief is written while its strategy is unstarted, and the retrieval of a request is asked
with the brief as it is. -/
def admits (_ : Pid) (call : Call) (asked : Statement) (world : World) : Prop :=
  match asked with
  | .upsertBrief id _ => Unstarted world id
  | .retrieve brief => (∃ job, call = .process job) ∨
      world.briefs.find brief.strategyId = some brief
  | _ => True

def discipline : Discipline strategy World Call where
  issues call := rejects call = false
  admits := admits
  isolation := .readCommitted

/-! ### The invariant -/

/-- What a claimed strategy keeps for good. -/
structure KeepsBriefs (before after : World) : Prop where
  claimed : ∀ id ∈ before.claimed, id ∈ after.claimed
  briefs : ∀ id ∈ before.claimed, after.briefs.find id = before.briefs.find id

structure BriefsFrozen (world : World) : Prop where
  known : ∀ id ∈ world.claimed, (world.strategies.find id).isSome = true
  started : ∀ id ∈ world.claimed, ∀ row, world.strategies.find id = some row →
    row.status ≠ .needsBrief ∧ (row.status = .ready → id ∈ world.reopened)
  runs : ∀ run ∈ world.runs.rows,
    run.strategyId ∈ world.claimed ∧ world.briefs.find run.strategyId = some run.queryContext
  versions : ∀ version ∈ world.versions.rows,
    version.strategyId ∈ world.claimed ∧ world.briefs.find version.strategyId = some version.brief
  jobs : ∀ job ∈ world.jobs, job.data.strategyId ∈ world.claimed

theorem keepsBriefs_refl (world : World) : KeepsBriefs world world := ⟨fun _ => id, fun _ _ => rfl⟩

theorem keepsBriefs_trans {first second third : World} (left : KeepsBriefs first second)
    (right : KeepsBriefs second third) : KeepsBriefs first third where
  claimed := fun id claimed => right.claimed id (left.claimed id claimed)
  briefs := fun id claimed =>
    (right.briefs id (left.claimed id claimed)).trans (left.briefs id claimed)

/-- The claimed strategies and their rows stay; nothing refers to a brief anew. -/
theorem frozen_aside {before after : World} (frozen : BriefsFrozen before)
    (strategies : after.strategies = before.strategies) (briefs : after.briefs = before.briefs)
    (versions : after.versions = before.versions) (runs : after.runs = before.runs)
    (claimed : after.claimed = before.claimed) (reopened : after.reopened = before.reopened)
    (jobs : ∀ job ∈ after.jobs, job.data.strategyId ∈ before.claimed) :
    BriefsFrozen after ∧ KeepsBriefs before after := by
  constructor
  · constructor
    · rw [claimed, strategies]
      exact frozen.known
    · rw [claimed, strategies, reopened]
      exact frozen.started
    · rw [runs, claimed, briefs]
      exact frozen.runs
    · rw [versions, claimed, briefs]
      exact frozen.versions
    · rw [claimed]
      exact jobs
  · constructor
    · rw [claimed]
      exact fun _ => id
    · rw [briefs]
      exact fun _ _ => rfl

theorem needsBrief_unreachable {current next : StrategyStatus}
    (allowed : canTransitionStrategy current next = true) : next ≠ .needsBrief := by
  rintro rfl
  cases current <;> cases allowed

/-- A move keeps the briefs frozen, whatever the status before. -/
theorem frozen_move {world : World} {id : Uuid} {next : StrategyStatus} {row : StrategyRow}
    (frozen : BriefsFrozen world) (found : world.strategies.find id = some row)
    (onward : next ≠ .needsBrief) :
    BriefsFrozen (world.move id next) ∧ KeepsBriefs world (world.move id next) := by
  have grows : ∀ other ∈ world.claimed, other ∈ (world.move id next).claimed := by
    intro other claimed
    show other ∈ if next = .retrieving then id :: world.claimed else world.claimed
    split
    · exact List.mem_cons_of_mem _ claimed
    · exact claimed
  have only : ∀ other ∈ (world.move id next).claimed,
      other ∈ world.claimed ∨ (other = id ∧ next = .retrieving) := by
    intro other claimed
    have claimed : other ∈ if next = .retrieving then id :: world.claimed else world.claimed :=
      claimed
    split at claimed
    · next retrieving =>
      rcases List.mem_cons.mp claimed with rfl | claimed
      · exact .inr ⟨rfl, retrieving⟩
      · exact .inl claimed
    · exact .inl claimed
  have reopens : ∀ other ∈ world.reopened, other ∈ (world.move id next).reopened := by
    intro other member
    show other ∈ if _ then id :: world.reopened else world.reopened
    split
    · exact List.mem_cons_of_mem _ member
    · exact member
  refine ⟨⟨?_, ?_, ?_, ?_, ?_⟩, ⟨grows, fun _ _ => rfl⟩⟩
  · intro other claimed
    rw [find_move]
    rcases only other claimed with old | ⟨rfl, -⟩
    · split
      · simpa using frozen.known other old
      · exact frozen.known other old
    · simp [found]
  · intro other claimed after foundAfter
    rw [find_move] at foundAfter
    split at foundAfter
    · next same =>
      subst same
      rw [found] at foundAfter
      obtain rfl := Option.some.inj foundAfter
      refine ⟨onward, ?_⟩
      rintro (ready : next = .ready)
      rcases only other claimed with old | ⟨-, retrieving⟩
      · have notFirst := (frozen.started other old row found).1
        show other ∈ if _ then other :: world.reopened else world.reopened
        rw [if_pos]
        · exact List.mem_cons_self
        · simpa [ready, found] using notFirst
      · rw [retrieving] at ready
        cases ready
    · next apart =>
      rcases only other claimed with old | ⟨rfl, -⟩
      · obtain ⟨notFirst, again⟩ := frozen.started other old after foundAfter
        exact ⟨notFirst, fun ready => reopens other (again ready)⟩
      · exact absurd rfl apart
  · exact fun run member => ⟨grows _ (frozen.runs run member).1, (frozen.runs run member).2⟩
  · exact fun version member =>
      ⟨grows _ (frozen.versions version member).1, (frozen.versions version member).2⟩
  · exact fun job member => grows _ (frozen.jobs job member)

/-- An unstarted strategy is not claimed. -/
theorem BriefsFrozen.unclaimed {world : World} (frozen : BriefsFrozen world) {id : Uuid}
    (unstarted : Unstarted world id) : id ∉ world.claimed := by
  intro claimed
  obtain ⟨row, found⟩ := Option.isSome_iff_exists.mp (frozen.known id claimed)
  obtain ⟨notFirst, again⟩ := frozen.started id claimed row found
  rcases unstarted row found with first | ⟨ready, fresh⟩
  · exact notFirst first
  · exact fresh (again ready)

/-- The brief of a strategy that nobody has claimed may be written. -/
theorem frozen_putBrief {world : World} (frozen : BriefsFrozen world) {id strategyId : Uuid}
    {data : BriefData} (unstarted : Unstarted world strategyId) :
    BriefsFrozen (world.putBrief id strategyId data) ∧
      KeepsBriefs world (world.putBrief id strategyId data) := by
  have same : ∀ other ∈ world.claimed,
      (world.putBrief id strategyId data).briefs.find other = world.briefs.find other := by
    intro other claimed
    have apart : other ≠ strategyId := by
      rintro rfl
      exact frozen.unclaimed unstarted claimed
    exact find_putBrief_of_ne apart
  refine ⟨⟨frozen.known, frozen.started, ?_, ?_, frozen.jobs⟩, ⟨fun _ claimed => claimed, same⟩⟩
  · intro run member
    obtain ⟨claimed, brief⟩ := frozen.runs run member
    exact ⟨claimed, (same _ claimed).trans brief⟩
  · intro version member
    obtain ⟨claimed, brief⟩ := frozen.versions version member
    exact ⟨claimed, (same _ claimed).trans brief⟩

/-- A retrieval refers to the brief of its claimed strategy. -/
theorem frozen_storeRun {world : World} (frozen : BriefsFrozen world) {run : StrategyRetrievalRun}
    (claimed : run.strategyId ∈ world.claimed)
    (brief : world.briefs.find run.strategyId = some run.queryContext) :
    BriefsFrozen (world.storeRun run) := by
  refine ⟨frozen.known, frozen.started, ?_, frozen.versions, frozen.jobs⟩
  intro other member
  rcases Table.mem_insert member with old | rfl
  · exact frozen.runs other old
  · exact ⟨claimed, brief⟩

/-- So does a version. -/
theorem frozen_addVersion {world : World} (frozen : BriefsFrozen world) {version : StrategyVersion}
    (claimed : version.strategyId ∈ world.claimed)
    (brief : world.briefs.find version.strategyId = some version.brief) :
    BriefsFrozen (world.addVersion pid version) := by
  refine ⟨frozen.known, frozen.started, frozen.runs, ?_, frozen.jobs⟩
  intro other member
  rcases Table.mem_insert member with old | rfl
  · exact frozen.versions other old
  · exact ⟨claimed, brief⟩

theorem frozen_publishDraft {world : World} (frozen : BriefsFrozen world) {id versionId : Uuid} :
    BriefsFrozen (world.publishDraft id versionId) := by
  refine ⟨?_, ?_, frozen.runs, frozen.versions, frozen.jobs⟩
  · intro other claimed
    rw [find_publishDraft]
    split
    · simpa using frozen.known other claimed
    · exact frozen.known other claimed
  · intro other claimed row found
    rw [find_publishDraft] at found
    split at found
    · obtain ⟨old, -, rfl⟩ := Option.map_eq_some_iff.mp found
      exact ⟨nofun, nofun⟩
    · exact frozen.started other claimed row found

/-! ### The calls -/

/-- Claimed strategies keep their briefs, whoever moves. -/
def protocol (around : Surroundings) : Protocol (system around) where
  discipline := discipline
  invariant := BriefsFrozen
  rely _ := KeepsBriefs
  rely_refl _ := keepsBriefs_refl
  rely_trans _ := keepsBriefs_trans

variable {around : Surroundings} {pid : Pid} {call : Call}

theorem uniform : Uniform (protocol around) := fun _ _ _ _ => id

/-- The strategy has been claimed. -/
def Claimed (id : Uuid) (world : World) : Prop := id ∈ world.claimed

/-- It has been claimed, and this is its brief. -/
def HasBrief (id : Uuid) (brief : StrategyBrief) (world : World) : Prop :=
  id ∈ world.claimed ∧ brief.strategyId = id ∧ world.briefs.find id = some brief

theorem stable_claimed (id : Uuid) : (protocol around).Stable (Claimed id) :=
  fun _ _ _ keeps claimed => keeps.claimed id claimed

theorem stable_hasBrief (id : Uuid) (brief : StrategyBrief) :
    (protocol around).Stable (HasBrief id brief) :=
  fun _ _ _ keeps has => ⟨keeps.claimed id has.1, has.2.1, (keeps.briefs id has.1).trans has.2.2⟩

/-- A statement that leaves strategies, briefs and what refers to them alone. -/
theorem maintains_aside {asked : Statement}
    (aside : ∀ choice world effect, (system around).exec pid choice asked world = .ok effect →
      (effect.write world).strategies = world.strategies ∧
      (effect.write world).briefs = world.briefs ∧
      (effect.write world).versions = world.versions ∧ (effect.write world).runs = world.runs ∧
      (effect.write world).claimed = world.claimed ∧
      (effect.write world).reopened = world.reopened ∧
      ∀ job ∈ (effect.write world).jobs, ∃ old ∈ world.jobs, job.data = old.data) :
    (protocol around).Maintains pid call (@Program.ask strategy asked) := by
  refine maintains_ask fun choice world effect _ executed frozen => ?_
  obtain ⟨strategies, briefs, versions, runs, claimed, reopened, jobs⟩ :=
    aside choice world effect executed
  obtain ⟨kept, keeps⟩ := frozen_aside frozen strategies briefs versions runs claimed reopened
    fun job member => by
      obtain ⟨old, oldMember, same⟩ := jobs job member
      exact same ▸ frozen.jobs old oldMember
  exact ⟨kept, fun _ _ => keeps⟩

theorem maintains_progress {id : Uuid} {stage messageKey : String} {status : ProgressStatus}
    {retryable : Option Bool} :
    (protocol around).Maintains pid call (recordProgress id stage status messageKey retryable) := by
  refine maintains_recordProgress fun base event frozen => ?_
  have aside : BriefsFrozen { base with events := base.events ++ [event] } ∧
      KeepsBriefs base { base with events := base.events ++ [event] } :=
    frozen_aside frozen rfl rfl rfl rfl rfl rfl frozen.jobs
  exact ⟨aside.1, fun _ _ => aside.2⟩

theorem maintains_status {id : Uuid} {next : StrategyStatus} (onward : next ≠ .needsBrief) :
    (protocol around).Maintains pid call (updateStrategyStatus id next) := by
  refine maintains_updateStrategyStatus fun view base row admitted found same frozen => ?_
  obtain ⟨kept, keeps⟩ := frozen_move frozen same onward
  exact ⟨kept, fun _ _ => keeps⟩

theorem claimed_move {world : World} {id : Uuid} : Claimed id (world.move id .retrieving) :=
  List.mem_cons_self

/-- A run claims its strategy. -/
theorem ensures_claim {id : Uuid} {idle : List StrategyStatus} :
    (protocol around).Ensures pid call (fun _ => True) (claimForGeneration id idle .retrieving)
      (returning fun claimed world => claimed = true → Claimed id world) := by
  refine ensures_claimForGeneration fun world row _ found _ allowed frozen => ?_
  obtain ⟨kept, keeps⟩ := frozen_move frozen found (needsBrief_unreachable allowed)
  exact ⟨kept, fun _ _ => keeps, fun later relied => relied.claimed id claimed_move⟩

theorem maintains_claim {id : Uuid} {idle : List StrategyStatus} {next : StrategyStatus} :
    (protocol around).Maintains pid call (claimForGeneration id idle next) := by
  refine maintains_claimForGeneration fun world row _ found _ allowed frozen => ?_
  obtain ⟨kept, keeps⟩ := frozen_move frozen found (needsBrief_unreachable allowed)
  exact ⟨kept, fun _ _ => keeps⟩

theorem maintains_assertAllowed {userId : Uuid} {metric : Billing.BillingMetric} :
    (protocol around).Maintains pid call (assertAllowed userId metric) := by
  refine maintains_bind (maintains_aside ?_) ?_
  · intro choice world effect executed
    cases executed
    exact ⟨rfl, rfl, rfl, rfl, rfl, rfl, fun job member => ⟨job, member, rfl⟩⟩
  · rintro (error | ⟨⟩)
    · exact maintains_throw _
    · exact maintains_pure _

theorem maintains_record {userId : Uuid} {metric : Billing.BillingMetric} {claimKey : String} :
    (protocol around).Maintains pid call (record userId metric claimKey) := by
  refine maintains_bind (maintains_aside ?_) ?_
  · intro choice world effect executed
    cases executed
    exact ⟨rfl, rfl, rfl, rfl, rfl, rfl, fun job member => ⟨job, member, rfl⟩⟩
  · rintro (error | ⟨⟩)
    · exact maintains_throw _
    · exact maintains_pure _

theorem maintains_createDecision {versionId ownerUserId : Uuid} {action : DecisionAction}
    {feedback : Option String} :
    (protocol around).Maintains pid call (Db.createDecision versionId ownerUserId action feedback) := by
  refine maintains_aside fun choice world effect executed => ?_
  obtain ⟨-, rfl⟩ := createDecision_cases executed
  exact ⟨rfl, rfl, rfl, rfl, rfl, rfl, fun job member => ⟨job, member, rfl⟩⟩

theorem maintains_decision {ownerUserId : Uuid} {dto : OwnerDecisionDto} :
    (protocol around).Maintains pid call (recordOwnerDecision ownerUserId dto) := by
  have aside : ∀ base row, BriefsFrozen base →
      BriefsFrozen (base.addDecision row) ∧ KeepsBriefs base (base.addDecision row) :=
    fun base row frozen => frozen_aside frozen rfl rfl rfl rfl rfl rfl frozen.jobs
  refine maintains_recordOwnerDecision ?_ ?_
  · intro base row _ _ frozen
    obtain ⟨kept, keeps⟩ := aside base row frozen
    exact ⟨kept, fun _ _ => keeps⟩
  · rintro base row view id strategyRow next - rfl - - found isDraft frozen
    obtain ⟨kept, keeps⟩ := aside base row frozen
    have onward : (if dto.action = .approve then StrategyStatus.approved else .rejected) ≠
        .needsBrief := by
      split <;> exact nofun
    have foundAside : (base.addDecision row).strategies.find id = some strategyRow := found
    obtain ⟨moved, keepsMore⟩ := frozen_move kept foundAside onward
    exact ⟨moved, fun _ _ => keepsBriefs_trans keeps keepsMore⟩

/-- A job for a claimed strategy is enqueued. -/
theorem ensures_addJob {data : JobData} :
    (protocol around).Ensures pid call (Claimed data.strategyId) (Db.addJob data)
      (returning fun _ _ => True) := by
  refine ensures_ask fun choice world effect _ executed frozen claimed => ?_
  cases executed
  have jobs : ∀ job ∈ world.jobs ++ [⟨world.jobs.length, data, .waiting⟩],
      job.data.strategyId ∈ world.claimed := by
    intro job member
    rcases List.mem_append.mp member with old | new
    · exact frozen.jobs job old
    · rw [List.mem_singleton.mp new]
      exact claimed
  have aside : BriefsFrozen { world with jobs := world.jobs ++ [⟨world.jobs.length, data, .waiting⟩] } ∧
      KeepsBriefs world { world with jobs := world.jobs ++ [⟨world.jobs.length, data, .waiting⟩] } :=
    frozen_aside frozen rfl rfl rfl rfl rfl rfl jobs
  exact ⟨aside.1, fun _ _ => aside.2, fun _ _ _ => trivial⟩

/-- The AI service is asked with the brief of a claimed strategy. -/
theorem ensures_retrieve {brief : StrategyBrief} {fact : World → Prop}
    (has : ∀ world, (protocol around).discipline.admits pid call (.retrieve brief) world →
      fact world → HasBrief brief.strategyId brief world) :
    (protocol around).Ensures pid call fact (Db.retrieve brief) (returning fun _ _ => True) := by
  refine ensures_ask fun choice world effect admitted executed frozen given => ?_
  obtain ⟨claimed, -, current⟩ := has world admitted given
  simp only [system, store, exec] at executed
  split at executed
  · cases executed
    exact ⟨frozen, fun _ _ => keepsBriefs_refl world, fun _ _ _ => trivial⟩
  · split at executed
    · cases executed
      exact ⟨frozen, fun _ _ => keepsBriefs_refl world, fun _ _ _ => trivial⟩
    · cases executed
      refine ⟨frozen_storeRun frozen claimed current, fun _ _ => ?_, fun _ _ _ => trivial⟩
      exact ⟨fun _ => id, fun _ _ => rfl⟩

theorem ensures_findOwnBrief {id : Uuid} :
    (protocol around).Ensures pid call (fun _ => True) (Db.findBrief id)
      (returning fun brief _ => ∀ found, brief = some found → found.strategyId = id) := by
  refine ensures_query (fun _ _ => rfl) ?_
  intro world _ _ later _ found isFound
  exact Table.key_of_find isFound

theorem ensures_readStrategy {id : Uuid} :
    (protocol around).Ensures pid call (fun _ => True) (readStrategy id)
      (returning fun strategy _ => ∀ row brief, strategy = some ⟨row, some brief⟩ →
        brief.strategyId = id) := by
  have first : (protocol around).Ensures pid call (fun _ => True) (Db.findStrategy id)
      fun _ _ => True := (maintains_query fun _ _ => rfl).ensures
  refine ensures_bind first (fun row => ?_) fun _ _ _ => trivial
  cases row with
  | none =>
      refine ensures_pure fun world _ => ?_
      rintro row brief ⟨⟩
  | some row =>
      refine ensures_bind ensures_findOwnBrief (fun brief => ?_) fun _ _ _ => trivial
      refine ensures_pure fun world same => ?_
      rintro row found ⟨rfl, rfl⟩
      exact same found rfl

theorem ensures_findBrief {id : Uuid} :
    (protocol around).Ensures pid call (Claimed id) (Db.findBrief id)
      (returning fun brief world => Claimed id world ∧
        ∀ found, brief = some found → HasBrief id found world) := by
  refine ensures_query (fun _ _ => rfl) ?_
  intro world _ claimed later relied
  refine ⟨relied.claimed id claimed, fun found isFound => ?_⟩
  have has : HasBrief id found world := ⟨claimed, Table.key_of_find isFound, isFound⟩
  exact stable_hasBrief id found pid world later relied has

/-- Of a claimed strategy the brief is read for good. -/
theorem ensures_readBrief {id : Uuid} :
    (protocol around).Ensures pid call (Claimed id) (readStrategy id)
      (returning fun strategy world => Claimed id world ∧
        ∀ row brief, strategy = some ⟨row, some brief⟩ → HasBrief id brief world) := by
  have first : (protocol around).Carries pid call (Claimed id) (Db.findStrategy id) :=
    (maintains_query fun _ _ => rfl).carries uniform (stable_claimed id)
  refine ensures_bind first (fun row => ?_) fun _ _ _ => trivial
  cases row with
  | none =>
      refine ensures_pure fun world claimed => ⟨claimed, ?_⟩
      rintro row brief ⟨⟩
  | some row =>
      refine ensures_bind ensures_findBrief (fun brief => ?_) fun _ _ _ => trivial
      refine ensures_pure fun world has => ⟨has.1, ?_⟩
      rintro row found ⟨rfl, rfl⟩
      exact has.2 found rfl

/-! ### Requests -/

theorem ensures_readOwned {id ownerUserId : Uuid} :
    (protocol around).Ensures pid call (fun _ => True) (getStrategyByIdAndOwner id ownerUserId)
      (returning fun strategy _ => ∀ row brief, strategy = some ⟨row, some brief⟩ →
        brief.strategyId = id) := by
  refine ensures_bind ensures_readStrategy (fun found => ?_) fun _ _ _ => trivial
  cases found with
  | none =>
      refine ensures_pure fun world _ => ?_
      rintro row brief ⟨⟩
  | some strategy =>
      dsimp only
      split
      · refine ensures_pure fun world _ => ?_
        rintro row brief ⟨⟩
      · exact ensures_pure fun world same => same

theorem maintains_readOwned {id ownerUserId : Uuid} :
    (protocol around).Maintains pid call (getStrategyByIdAndOwner id ownerUserId) :=
  ensures_readOwned.maintains

theorem maintains_createStrategy {businessProfileVersionId ownerUserId : Uuid} :
    (protocol around).Maintains pid call (createStrategy businessProfileVersionId ownerUserId) := by
  refine maintains_bind (maintains_query fun _ _ => rfl) fun profile => ?_
  cases profile with
  | none => exact maintains_throw _
  | some profile =>
      refine maintains_ask fun choice world effect _ executed frozen => ?_
      cases executed
      have apart : ∀ id ∈ world.claimed,
          id ≠ world.strategies.freshKey (above world.retiredStrategies + choice) := by
        rintro id claimed rfl
        have known := frozen.known _ claimed
        rw [Table.find_freshKey] at known
        cases known
      refine ⟨⟨?_, ?_, frozen.runs, frozen.versions, frozen.jobs⟩, fun _ _ =>
        ⟨fun _ => id, fun _ _ => rfl⟩⟩
      · intro id claimed
        dsimp only
        rw [Table.find_insert_of_ne (apart id claimed)]
        exact frozen.known id claimed
      · intro id claimed row found
        dsimp only at found
        rw [Table.find_insert_of_ne (apart id claimed)] at found
        exact frozen.started id claimed row found

theorem maintains_putBrief {id : Uuid} {data : BriefData} :
    (protocol around).Maintains pid call (Db.upsertBrief id data) := by
  refine maintains_ask fun choice world effect admitted executed frozen => ?_
  simp only [system, store, exec] at executed
  obtain ⟨-, executed⟩ := ok_of_unless executed
  cases executed
  have put : BriefsFrozen (world.putBrief choice id data) ∧
      KeepsBriefs world (world.putBrief choice id data) := frozen_putBrief frozen admitted
  exact ⟨put.1, fun _ _ => put.2⟩

theorem maintains_findTarget {targetId businessId : Uuid} :
    (protocol around).Maintains pid call (Db.findTarget targetId businessId) := by
  refine maintains_aside fun choice world effect executed => ?_
  cases executed
  exact ⟨rfl, rfl, rfl, rfl, rfl, rfl, fun job member => ⟨job, member, rfl⟩⟩

theorem maintains_targets {businessId : Uuid} {choices : List ChannelChoice} :
    (protocol around).Maintains pid call (assertConnectedTargetBindings businessId choices) := by
  induction choices with
  | nil => exact maintains_pure ()
  | cons choice rest inductionHypothesis =>
      unfold assertConnectedTargetBindings
      split
      · split
        · exact maintains_bind (maintains_throw _) fun _ => inductionHypothesis
        · refine maintains_bind maintains_findTarget fun target => ?_
          exact maintains_bind maintains_check fun _ => inductionHypothesis
      · exact inductionHypothesis

theorem maintains_capacity {isV2 : Bool} {dto : UpsertBriefDto} {businessId : Uuid} :
    (protocol around).Maintains pid call (assertCapacity isV2 dto businessId) := by
  unfold assertCapacity
  split
  · refine maintains_bind maintains_check fun _ => ?_
    exact maintains_bind maintains_targets fun _ => maintains_require
  · exact maintains_require

theorem maintains_upsertBrief {id ownerUserId : Uuid} {dto : UpsertBriefDto} :
    (protocol around).Maintains pid call (upsertBrief id ownerUserId dto) := by
  refine maintains_bind maintains_readOwned fun found => ?_
  cases found with
  | none => exact maintains_throw _
  | some strategy =>
  refine maintains_bind maintains_require fun _ => ?_
  refine maintains_bind (maintains_query fun _ _ => rfl) fun profile => ?_
  refine maintains_bind maintains_require fun _ => ?_
  refine maintains_bind maintains_check fun _ => ?_
  refine maintains_bind maintains_capacity fun _ => ?_
  cases dto.startDate with
  | none => exact maintains_throw _
  | some startDate =>
  refine maintains_bind maintains_putBrief fun brief => ?_
  dsimp only
  split
  · refine maintains_bind (maintains_status nofun) fun _ => ?_
    exact maintains_bind maintains_progress fun _ => maintains_pure brief
  · exact maintains_pure brief

/-- What keeps the protocol runs on a claimed strategy. -/
theorem carried {α : Type} {id : Uuid} {program : Code α}
    (maintains : (protocol around).Maintains pid call program) :
    (protocol around).Carries pid call (Claimed id) program :=
  maintains.carries uniform (stable_claimed id)

theorem carries_addJob {data : JobData} :
    (protocol around).Carries pid call (Claimed data.strategyId) (Db.addJob data) := by
  have added : (protocol around).Ensures pid call (Claimed data.strategyId) (Db.addJob data)
      (returning fun _ _ => True) := ensures_addJob
  have framed := added.frame uniform (stable_claimed data.strategyId)
  exact framed.mono (fun _ claimed => ⟨claimed, claimed⟩) fun _ _ ends => ends.2

section Owner

variable (notJob : ∀ job, call ≠ .process job)
include notJob

/-- A request asks with the brief that it has read when it is still the stored one. -/
theorem carries_retrieveOwn {id : Uuid} {brief : StrategyBrief} (same : brief.strategyId = id) :
    (protocol around).Carries pid call (Claimed id) (Db.retrieve brief) := by
  have asks : (protocol around).Ensures pid call (Claimed id) (Db.retrieve brief)
      (returning fun _ _ => True) := by
    refine ensures_retrieve fun world admitted claimed => ?_
    rcases admitted with ⟨job, isJob⟩ | current
    · exact absurd isJob (notJob job)
    · subst same
      exact ⟨claimed, rfl, current⟩
  have framed := asks.frame uniform (stable_claimed id)
  exact framed.mono (fun _ claimed => ⟨claimed, claimed⟩) fun _ _ ends => ends.2

theorem carries_retrieveAndQueue {id : Uuid} {brief : StrategyBrief} (same : brief.strategyId = id) :
    (protocol around).Carries pid call (Claimed id) (retrieveAndQueue id brief) := by
  refine carries_bind (carries_retrieveOwn notJob same) fun reply => ?_
  rcases reply with error | (_ | retrievalRunId)
  · exact carries_throw _
  · exact carries_throw _
  · refine carries_bind (carried (maintains_query fun _ _ => rfl)) fun retrievalRun => ?_
    refine carries_bind (carried maintains_require) fun _ => ?_
    refine carries_bind (carried maintains_progress) fun _ => ?_
    refine carries_bind (carried (maintains_status nofun)) fun _ => ?_
    have queues := @carries_addJob around pid call (.generate id retrievalRunId)
    exact carries_bind queues fun _ => carried maintains_progress

omit notJob in
theorem maintains_failRetrieval {id : Uuid} {error : StrategyError} :
    (protocol around).Maintains pid call (failRetrieval id error) := by
  refine maintains_bind (maintains_status nofun) fun _ => ?_
  exact maintains_bind maintains_progress fun _ => maintains_throw _

theorem carries_startRetrieval {id : Uuid} {row : StrategyRow} {brief : StrategyBrief}
    (same : brief.strategyId = id) :
    (protocol around).Carries pid call (Claimed id) (startRetrieval id row brief) := by
  refine carries_bind (carried (maintains_query fun _ _ => rfl)) fun latestProfile => ?_
  split
  · refine carries_bind (carried maintains_progress) fun _ => ?_
    exact carries_tryCatch (carries_retrieveAndQueue notJob same)
      fun error => carried maintains_failRetrieval
  · refine carries_bind (carried (maintains_status nofun)) fun _ => ?_
    exact carries_bind (carried maintains_progress) fun _ => carries_throw _

/-- The brief that is read belongs to the strategy that is claimed. -/
theorem maintains_startGeneration {id ownerUserId : Uuid} :
    (protocol around).Maintains pid call (startGeneration id ownerUserId) := by
  have starts : (protocol around).Ensures pid call (fun _ => True) (startGeneration id ownerUserId)
      fun _ _ => True := by
    refine ensures_bind ensures_readOwned (fun found => ?_) fun _ _ _ => trivial
    rcases found with _ | ⟨row, _ | brief⟩
    · exact ensures_throw fun _ _ => trivial
    · exact ensures_throw fun _ _ => trivial
    · refine ensures_knowing fun known => ?_
      refine ensures_bind maintains_assertAllowed.ensures (fun _ => ?_) fun _ _ _ => trivial
      refine ensures_bind ensures_claim (fun claimed => ?_) fun _ _ _ => trivial
      cases claimed with
      | false => exact ensures_throw fun _ _ => trivial
      | true =>
          have continues : (protocol around).Carries pid call (Claimed id)
              (startRetrieval id row brief) := carries_startRetrieval notJob (known row brief rfl)
          exact continues.mono (fun _ claimed => claimed rfl) fun _ _ _ => trivial
  exact starts.maintains

theorem maintains_resume {id ownerUserId : Uuid} :
    (protocol around).Maintains pid call (resume id ownerUserId) := by
  have resumes : ∀ retrievalRunId,
      (protocol around).Maintains pid call (resumeGeneration id retrievalRunId) := by
    intro retrievalRunId
    refine maintains_bind maintains_claim fun readyClaimed => ?_
    refine maintains_bind maintains_require fun _ => ?_
    refine @Ensures.maintains _ _ _ _ _ _ _ _ _ (fun _ _ => True) _ ?_
    refine ensures_bind ensures_claim (fun claimed => ?_) fun _ _ _ => trivial
    cases claimed with
    | false => exact ensures_throw fun _ _ => trivial
    | true =>
        have queues := @carries_addJob around pid call (.generate id retrievalRunId)
        refine @Ensures.mono _ _ _ _ _ _ _ _ _ _ _ _ (Claimed id) (fun _ => Claimed id) ?_
          (fun _ claimed => claimed rfl) fun _ _ _ => trivial
        refine carries_bind (carried maintains_require) fun _ => ?_
        refine carries_bind (carried (maintains_status (by simp))) fun _ => ?_
        exact carries_bind queues fun _ => carried maintains_progress
  have retries : ∀ versionId, (protocol around).Maintains pid call
      (Db.createDecision versionId ownerUserId .retry none) := fun _ => maintains_createDecision
  refine maintains_bind (maintains_query fun _ _ => rfl) fun latestVersion => ?_
  cases latestVersion
  case' some version => refine maintains_bind (retries version.id) fun _ => ?_
  all_goals
    refine maintains_bind (maintains_query fun _ _ => rfl) fun latestRun => ?_
    split
    · exact resumes _
    · refine maintains_bind maintains_claim fun _ => ?_
      exact maintains_bind maintains_require fun _ => maintains_startGeneration notJob

theorem maintains_retryGeneration {id ownerUserId : Uuid} :
    (protocol around).Maintains pid call (retryGeneration id ownerUserId) := by
  refine maintains_bind maintains_readOwned fun found => ?_
  cases found with
  | none => exact maintains_throw _
  | some strategy =>
  refine maintains_bind maintains_require fun _ => ?_
  refine maintains_bind (maintains_query fun _ _ => rfl) fun latestProgress => ?_
  refine maintains_bind maintains_require fun _ => ?_
  refine maintains_bind (maintains_query fun _ _ => rfl) fun retryCount => ?_
  refine maintains_bind maintains_require fun _ => ?_
  refine maintains_bind (maintains_query fun _ _ => rfl) fun latestProfile => ?_
  split
  · exact maintains_bind maintains_require fun _ => maintains_resume notJob
  · exact maintains_throw _

end Owner

theorem maintains_approve {id ownerUserId : Uuid} {dto : OwnerDecisionDto}
    {strategy : StrategyWithBrief} {version : StrategyVersion} {now : Instant} :
    (protocol around).Maintains pid call (do
      assertApprovalReady strategy version now
      approve id ownerUserId dto) := by
  have ready : (protocol around).Maintains pid call (assertApprovalReady strategy version now) := by
    refine maintains_bind (maintains_query fun _ _ => rfl) fun latestProfile => ?_
    refine maintains_bind maintains_require fun _ => ?_
    refine maintains_bind maintains_check fun _ => ?_
    split
    · exact maintains_bind (maintains_pure none) fun _ => maintains_check
    · exact maintains_bind (maintains_query fun _ _ => rfl) fun _ => maintains_check
  refine maintains_bind ready fun _ => ?_
  refine maintains_bind maintains_decision fun next => ?_
  cases next with
  | none => exact maintains_pure ()
  | some next => exact maintains_progress

theorem carries_requestRevision {id ownerUserId : Uuid} {dto : OwnerDecisionDto} :
    (protocol around).Carries pid call (Claimed id) (requestRevision id ownerUserId dto) := by
  have queues := @carries_addJob around pid call (.revise id dto.versionId dto.feedback)
  refine carries_bind (carried maintains_assertAllowed) fun _ => ?_
  refine carries_bind (carried maintains_claim) fun _ => ?_
  refine carries_bind (carried maintains_require) fun _ => ?_
  refine carries_bind (carried maintains_progress) fun _ => ?_
  exact carries_bind (carried maintains_decision) fun _ => queues

/-- A version is one of a claimed strategy. -/
theorem ensures_findVersion {versionId : Uuid} :
    (protocol around).Ensures pid call (fun _ => True) (Db.findVersion versionId)
      (returning fun version world => ∀ found, version = some found →
        Claimed found.strategyId world) := by
  refine ensures_query (fun _ _ => rfl) ?_
  intro world frozen _ later relied found isFound
  exact relied.claimed _ (frozen.versions found (Table.mem_of_find isFound)).1

theorem maintains_handleDecision {id ownerUserId : Uuid} {dto : OwnerDecisionDto} {now : Instant}
    (noRejection : dto.action ≠ .reject) :
    (protocol around).Maintains pid call (handleDecision id ownerUserId dto now) := by
  have decides : (protocol around).Ensures pid call (fun _ => True)
      (handleDecision id ownerUserId dto now) fun _ _ => True := by
    refine ensures_bind maintains_readOwned.ensures (fun found => ?_) fun _ _ _ => trivial
    cases found with
    | none => exact ensures_throw fun _ _ => trivial
    | some strategy =>
    refine ensures_bind maintains_require.ensures (fun _ => ?_) fun _ _ _ => trivial
    refine ensures_bind maintains_require.ensures (fun _ => ?_) fun _ _ _ => trivial
    refine ensures_bind ensures_findVersion (fun version => ?_) fun _ _ _ => trivial
    cases version with
    | none => exact ensures_throw fun _ _ => trivial
    | some version =>
    refine @Ensures.mono _ _ _ _ _ _ _ _ _ _ _ _ (Claimed version.strategyId)
      (fun _ => Claimed version.strategyId) ?_ (fun _ claimed => claimed version rfl)
      fun _ _ _ => trivial
    by_cases same : version.strategyId = id
    · subst same
      refine carries_bind (carried maintains_require) fun _ => ?_
      refine carries_bind (carried maintains_require) fun _ => ?_
      cases action : dto.action with
      | approve => exact carried maintains_approve
      | reject => exact absurd action noRejection
      | revisionRequested => exact carries_requestRevision
    · have refused : require (version.strategyId = id) (.notFound "Strategy version not found") =
          (throw (.notFound "Strategy version not found") : Code Unit) :=
        if_neg (by simpa using same)
      dsimp only
      rw [refused]
      exact carries_throw _
  exact decides.maintains

/-! ### Jobs -/

theorem maintains_safeFail {id : Uuid} {messageKey : String} :
    (protocol around).Maintains pid call (safeFail id messageKey) := by
  refine maintains_tryCatch ?_ fun _ => maintains_pure ()
  exact maintains_bind (maintains_status nofun) fun _ => maintains_progress

/-- A version of the brief as it is, which stays so. -/
theorem ensures_append {new : NewVersion} :
    (protocol around).Ensures pid call (HasBrief new.strategyId new.brief)
      (appendStrategyVersion new) (returning fun _ _ => True) := by
  have added : ∀ start base created, HasBrief new.strategyId new.brief start →
      Appended (protocol around) pid call new start base created → BriefsFrozen base →
        BriefsFrozen (base.addVersion pid created) := by
    intro start base created has appended frozen
    have here := stable_hasBrief new.strategyId new.brief pid start base appended.relied has
    have row := appended.row
    refine frozen_addVersion frozen ?_ ?_
    · rw [row]
      exact here.1
    · rw [row]
      exact here.2.2
  refine ensures_appendStrategyVersion ?_ ?_
  · intro start base created row has appended _ _ frozen
    refine ⟨frozen_publishDraft (added start base created has appended frozen), fun _ _ => ?_,
      fun _ _ => trivial⟩
    exact ⟨fun _ => id, fun _ _ => rfl⟩
  · intro start base created view has appended _ _ frozen
    refine ⟨added start base created has appended frozen, fun _ _ => ?_, fun _ _ => trivial⟩
    exact ⟨fun _ => id, fun _ _ => rfl⟩

/-- What keeps the protocol runs on a claimed strategy with this brief. -/
theorem carriedBrief {α : Type} {id : Uuid} {brief : StrategyBrief} {program : Code α}
    (maintains : (protocol around).Maintains pid call program) :
    (protocol around).Carries pid call (HasBrief id brief) program :=
  maintains.carries uniform (stable_hasBrief id brief)

theorem ensures_deliver {ownerUserId : Uuid} {metric : Billing.BillingMetric}
    {claimKey messageKey : String} {new : NewVersion} {id : Uuid} {brief : StrategyBrief}
    (sameId : new.strategyId = id) (sameBrief : new.brief = brief) :
    (protocol around).Ensures pid call (HasBrief id brief)
      (deliver ownerUserId metric claimKey messageKey new) fun _ _ => True := by
  subst sameId sameBrief
  refine ensures_bind ensures_append (fun _ => ?_) fun _ _ _ => trivial
  refine Maintains.ensures (maintains_bind maintains_record fun _ => ?_)
  exact maintains_bind (maintains_query fun _ _ => rfl) fun _ => maintains_progress

theorem ensures_loadGenerationInputs {id retrievalRunId : Uuid} :
    (protocol around).Ensures pid call (Claimed id) (loadGenerationInputs id retrievalRunId)
      (returning fun inputs world => HasBrief id inputs.brief world) := by
  refine ensures_bind ensures_readBrief (fun found => ?_) fun _ _ _ => trivial
  rcases found with _ | ⟨row, _ | brief⟩
  · exact ensures_throw fun _ _ => trivial
  · exact ensures_throw fun _ _ => trivial
  · refine @Ensures.mono _ _ _ _ _ _ _ _ _ _ _ _ (HasBrief id brief) _ ?_
      (fun _ has => has.2 row brief rfl) fun _ _ ends => ends
    refine ensures_bind (carriedBrief (maintains_query fun _ _ => rfl)) (fun profile => ?_)
      fun _ _ _ => trivial
    refine ensures_bind (carriedBrief maintains_require) (fun _ => ?_) fun _ _ _ => trivial
    refine ensures_bind (carriedBrief (maintains_query fun _ _ => rfl)) (fun run => ?_)
      fun _ _ _ => trivial
    cases run with
    | none => exact ensures_throw fun _ _ => trivial
    | some run =>
        refine ensures_bind (carriedBrief maintains_require) (fun _ => ?_) fun _ _ _ => trivial
        exact ensures_pure fun _ has => has

theorem ensures_generateDraft {id retrievalRunId : Uuid} :
    (protocol around).Ensures pid call (Claimed id) (generateDraft id retrievalRunId)
      fun _ _ => True := by
  refine ensures_bind (carried (maintains_status nofun)) (fun _ => ?_) fun _ _ _ => trivial
  refine ensures_bind (carried maintains_progress) (fun _ => ?_) fun _ _ _ => trivial
  refine ensures_bind ensures_loadGenerationInputs (fun inputs => ?_) fun _ _ _ => trivial
  refine ensures_bind (carriedBrief maintains_assertAllowed) (fun _ => ?_) fun _ _ _ => trivial
  refine ensures_bind (carriedBrief (maintains_answering fun _ _ => rfl)) (fun scored => ?_)
    fun _ _ _ => trivial
  refine ensures_bind (carriedBrief maintains_require) (fun _ => ?_) fun _ _ _ => trivial
  refine ensures_bind (carriedBrief (maintains_answering fun _ _ => rfl)) (fun reply => ?_)
    fun _ _ _ => trivial
  refine ensures_bind (carriedBrief maintains_check) (fun planData => ?_) fun _ _ _ => trivial
  refine ensures_bind (carriedBrief (maintains_status nofun)) (fun _ => ?_) fun _ _ _ => trivial
  refine ensures_bind (carriedBrief maintains_progress) (fun _ => ?_) fun _ _ _ => trivial
  exact ensures_deliver rfl rfl

/-- A job that has failed tells so and throws on. -/
theorem maintains_rethrow {α : Type} {id : Uuid} {messageKey : String} {error : StrategyError} :
    (protocol around).Maintains pid call (do
      safeFail id messageKey
      throw error : Code α) := by
  refine maintains_bind maintains_safeFail fun _ => ?_
  exact maintains_throw error

theorem ensures_handleGenerate {id retrievalRunId : Uuid} :
    (protocol around).Ensures pid call (Claimed id) (handleGenerate id retrievalRunId)
      fun _ _ => True :=
  ensures_tryCatch ensures_generateDraft (fun _ => maintains_rethrow.ensures) fun _ _ _ => trivial

theorem carries_retrieveForRevision {id : Uuid} :
    (protocol around).Carries pid call (Claimed id) (retrieveForRevision id) := by
  refine carries_bind (carried (maintains_status (by simp))) fun _ => ?_
  refine carries_bind (carried maintains_progress) fun _ => ?_
  refine carries_learning uniform (stable_claimed id) ensures_readBrief fun found => ?_
  rcases found with _ | ⟨row, _ | brief⟩
  · exact ensures_throw fun _ has => has.2
  · exact ensures_throw fun _ has => has.2
  · have asks : (protocol around).Ensures pid call (HasBrief id brief) (Db.retrieve brief)
        (returning fun _ _ => True) := by
      refine ensures_retrieve fun world _ has => ?_
      have same := has.2.1
      subst same
      exact has
    have retrieves : (protocol around).Carries pid call (HasBrief id brief) (Db.retrieve brief) := by
      have framed := asks.frame uniform (stable_hasBrief id brief)
      exact framed.mono (fun _ has => ⟨has, has⟩) fun _ _ ends => ends.2
    refine @Ensures.mono _ _ _ _ _ _ _ _ _ _ _ _ (HasBrief id brief)
      (fun _ => HasBrief id brief) ?_ (fun _ has => has.1.2 row brief rfl) fun _ _ has => has.1
    refine carries_bind (carriedBrief (maintains_query fun _ _ => rfl)) fun profile => ?_
    refine carries_bind (carriedBrief maintains_require) fun _ => ?_
    refine carries_bind retrieves fun reply => ?_
    rcases reply with error | (_ | retrievalRunId)
    · exact carries_throw _
    · exact carries_throw _
    · refine carries_bind (carriedBrief (maintains_query fun _ _ => rfl)) fun run => ?_
      refine carries_bind (carriedBrief maintains_require) fun _ => ?_
      refine carries_bind (carriedBrief (maintains_status (by simp))) fun _ => ?_
      exact carries_bind (carriedBrief maintains_progress) fun _ => carries_pure retrievalRunId

theorem ensures_loadRevisionInputs {id priorVersionId retrievalRunId : Uuid} :
    (protocol around).Ensures pid call (Claimed id)
      (loadRevisionInputs id priorVersionId retrievalRunId)
      (returning fun inputs world => HasBrief id inputs.1.brief world) := by
  refine ensures_bind ensures_readBrief (fun found => ?_) fun _ _ _ => trivial
  rcases found with _ | ⟨row, _ | brief⟩
  · exact ensures_throw fun _ _ => trivial
  · exact ensures_throw fun _ _ => trivial
  · refine @Ensures.mono _ _ _ _ _ _ _ _ _ _ _ _ (HasBrief id brief) _ ?_
      (fun _ has => has.2 row brief rfl) fun _ _ ends => ends
    refine ensures_bind (carriedBrief (maintains_query fun _ _ => rfl)) (fun profile => ?_)
      fun _ _ _ => trivial
    refine ensures_bind (carriedBrief maintains_require) (fun _ => ?_) fun _ _ _ => trivial
    refine ensures_bind (carriedBrief (maintains_query fun _ _ => rfl)) (fun run => ?_)
      fun _ _ _ => trivial
    cases run with
    | none => exact ensures_throw fun _ _ => trivial
    | some run =>
        refine ensures_bind (carriedBrief (maintains_query fun _ _ => rfl)) (fun prior => ?_)
          fun _ _ _ => trivial
        cases prior with
        | none => exact ensures_throw fun _ _ => trivial
        | some prior => exact ensures_pure fun _ has => has

theorem ensures_reviseDraft {id priorVersionId retrievalRunId : Uuid} {feedback : Option String} :
    (protocol around).Ensures pid call (Claimed id)
      (reviseDraft id priorVersionId feedback retrievalRunId) fun _ _ => True := by
  refine ensures_bind (carried (maintains_status nofun)) (fun _ => ?_) fun _ _ _ => trivial
  refine ensures_bind (carried maintains_progress) (fun _ => ?_) fun _ _ _ => trivial
  refine ensures_bind ensures_loadRevisionInputs (fun inputs => ?_) fun _ _ _ => trivial
  refine ensures_bind (carriedBrief (maintains_answering fun _ _ => rfl)) (fun scored => ?_)
    fun _ _ _ => trivial
  refine ensures_bind (carriedBrief maintains_require) (fun _ => ?_) fun _ _ _ => trivial
  refine ensures_bind (carriedBrief (maintains_answering fun _ _ => rfl)) (fun reply => ?_)
    fun _ _ _ => trivial
  refine ensures_bind (carriedBrief maintains_check) (fun planData => ?_) fun _ _ _ => trivial
  refine ensures_bind (carriedBrief (maintains_status nofun)) (fun _ => ?_) fun _ _ _ => trivial
  refine ensures_bind (carriedBrief maintains_progress) (fun _ => ?_) fun _ _ _ => trivial
  exact ensures_deliver rfl rfl

theorem ensures_handleRevise {id priorVersionId : Uuid} {feedback : Option String} :
    (protocol around).Ensures pid call (Claimed id) (handleRevise id priorVersionId feedback)
      fun _ _ => True := by
  have retrieves : (protocol around).Carries pid call (Claimed id)
      (tryCatch (retrieveForRevision id) fun error => do
        safeFail id "strategy.revision.retrieval.failed"
        throw error) :=
    carries_tryCatch carries_retrieveForRevision fun _ => carried maintains_rethrow
  have revises : ∀ retrievalRunId, (protocol around).Ensures pid call (Claimed id)
      (tryCatch (reviseDraft id priorVersionId feedback retrievalRunId) fun error => do
        safeFail id "strategy.revision.generating.failed"
        throw error) fun _ _ => True := fun _ =>
    ensures_tryCatch ensures_reviseDraft (fun _ => maintains_rethrow.ensures) fun _ _ _ => trivial
  have rest : (protocol around).Ensures pid call (Claimed id) (do
      let retrievalRunId ← tryCatch (retrieveForRevision id) fun error => do
        safeFail id "strategy.revision.retrieval.failed"
        throw error
      tryCatch (reviseDraft id priorVersionId feedback retrievalRunId) fun error => do
        safeFail id "strategy.revision.generating.failed"
        throw error) fun _ _ => True :=
    ensures_bind retrieves revises fun _ _ _ => trivial
  refine ensures_bind (carried ensures_readStrategy.maintains) (fun found => ?_) fun _ _ _ => trivial
  cases found with
  | none => exact rest
  | some strategy =>
      exact ensures_bind (carried maintains_assertAllowed) (fun _ => rest) fun _ _ _ => trivial

theorem ensures_process {job : JobData} :
    (protocol around).Ensures pid call (Claimed job.strategyId) (process job) fun _ _ => True := by
  cases job with
  | generate strategyId retrievalRunId => exact ensures_handleGenerate
  | revise strategyId priorVersionId feedback => exact ensures_handleRevise

/-! ### Runs -/

/-- What a call starts from. -/
def begins : Call → World → Prop
  | .process job, world => Claimed job.strategyId world
  | _, _ => True

theorem ensures_program (issued : discipline.issues call) :
    (protocol around).Ensures pid call (begins call) call.program fun _ _ => True := by
  cases call with
  | createStrategy => exact (maintains_discard maintains_createStrategy).ensures
  | upsertBrief => exact (maintains_discard maintains_upsertBrief).ensures
  | startGeneration id ownerUserId =>
      have notJob : ∀ job, Call.startGeneration id ownerUserId ≠ .process job := fun _ => nofun
      exact (maintains_startGeneration notJob).ensures
  | handleDecision id ownerUserId dto now =>
      refine (maintains_handleDecision ?_).ensures
      simpa [discipline, rejects] using issued
  | retryGeneration id ownerUserId =>
      have notJob : ∀ job, Call.retryGeneration id ownerUserId ≠ .process job := fun _ => nofun
      exact (maintains_retryGeneration notJob).ensures
  | process job => exact ensures_process
  | turnJob id state =>
      refine (maintains_aside fun choice world effect executed => ?_).ensures
      cases executed
      refine ⟨rfl, rfl, rfl, rfl, rfl, rfl, fun job member => ?_⟩
      obtain ⟨old, oldMember, rfl⟩ := List.mem_map.mp member
      refine ⟨old, oldMember, ?_⟩
      split <;> rfl
  | confirmProfile =>
      refine (maintains_aside fun choice world effect executed => ?_).ensures
      cases executed
      exact ⟨rfl, rfl, rfl, rfl, rfl, rfl, fun job member => ⟨job, member, rfl⟩⟩
  | spendElsewhere =>
      refine (maintains_aside fun choice world effect executed => ?_).ensures
      cases executed
      exact ⟨rfl, rfl, rfl, rfl, rfl, rfl, fun job member => ⟨job, member, rfl⟩⟩
  | topUp =>
      refine (maintains_aside fun choice world effect executed => ?_).ensures
      cases executed
      exact ⟨rfl, rfl, rfl, rfl, rfl, rfl, fun job member => ⟨job, member, rfl⟩⟩

theorem safe : (protocol around).Safe fun _ _ => True := by
  have begun : ∀ (pid : Pid) (call : Call) (world later : World), discipline.issues call →
      call.enabled world = true → BriefsFrozen world → KeepsBriefs world later →
        begins call later := by
    intro pid call world later _ enabled frozen keeps
    cases call with
    | process job =>
        obtain ⟨queued, member, same⟩ := List.any_eq_true.mp enabled
        have sameData : queued.data = job := by
          simpa using And.left (by simpa using same : queued.data = job ∧ queued.state = .active)
        exact keeps.claimed _ (sameData ▸ frozen.jobs queued member)
    | _ => trivial
  exact safe_of_ensures begun fun pid call issued => ensures_program issued

theorem frozen_empty : BriefsFrozen World.empty := by
  constructor <;> intro row member <;> cases member

/-! ### Used briefs -/

/-- A run has claimed the strategy, or it has a version. -/
def Used (world : World) (id : Uuid) : Prop :=
  id ∈ world.claimed ∨ ∃ version ∈ world.versions.rows, version.strategyId = id

/-- Retrievals and versions refer to the brief that is stored. -/
def ReferToBrief (world : World) : Prop :=
  (∀ run ∈ world.runs.rows, world.briefs.find run.strategyId = some run.queryContext) ∧
    ∀ version ∈ world.versions.rows, world.briefs.find version.strategyId = some version.brief

/-- The condition as a check. -/
def passes (_ : Pid) (call : Call) (asked : Statement) (world : World) : Bool :=
  match asked with
  | .upsertBrief id _ => (world.strategies.find id).all fun row =>
      row.status = .needsBrief || (row.status = .ready && id ∉ world.reopened)
  | .retrieve brief =>
      (match call with | .process _ => true | _ => false) ||
        world.briefs.find brief.strategyId = some brief
  | _ => true

theorem admits_of_passes (pid : Pid) (call : Call) (asked : Statement) (world : World)
    (passed : passes pid call asked world = true) : discipline.admits pid call asked world := by
  cases asked <;> try trivial
  case upsertBrief id data =>
    intro row found
    rw [passes, found] at passed
    simpa using passed
  case retrieve brief =>
    rcases (Bool.or_eq_true _ _).mp passed with isJob | current
    · cases call <;> simp at isJob
      exact .inl ⟨_, rfl⟩
    · exact .inr (of_decide_eq_true current)

/-- The owner asks for a revision, and then writes another brief. -/
def rebriefedMoves : List (Move Call) :=
  draftedMoves ++ alone 6 (.handleDecision 0 8 ⟨0, .revisionRequested, some "shorter"⟩ 5) 14 ++
  alone 7 (.upsertBrief 0 8 (plainBrief "reach")) 3

end MarketMind.Strategy.FrozenBrief
