import MarketMind.Billing.Entitlements
import MarketMind.Strategy.Types
import Mathlib.Data.List.MinMax

/-!
Owns the strategy tables with their queue, the statements that the strategy services execute
on them, and which rows each statement holds until its transaction ends.

A child row refers to a parent that its statement sees; the share lock by which a parent
waits for its new children is left out, so more schedules are allowed here than there are.

Does not own what the services do with the statements.
-/

namespace MarketMind.Strategy

open MarketMind.Transactions
open MarketMind.Billing (BillingMetric)

/-! ### Tables -/

instance : Keyed StrategyRetrievalRun := ⟨StrategyRetrievalRun.id⟩

/-- The committed tables, the queue, and the wallets. The last five fields are history: the
strategies that a run has claimed, those that were made ready again after a first run, the
identities of deleted strategies and versions, and what each call has delivered and not yet
been charged for. -/
structure World where
  strategies : Table StrategyRow
  briefs : Table StrategyBrief
  versions : Table StrategyVersion
  decisions : List StrategyDecision
  runs : Table StrategyRetrievalRun
  events : List StrategyProgressEvent
  profiles : List BusinessProfileVersion
  jobs : List QueuedJob
  billing : Billing.World
  claimed : List Uuid
  reopened : List Uuid
  retiredStrategies : List Uuid
  retiredVersions : List Uuid
  unpaid : List (Pid × BillingMetric × String)

namespace World

def empty : World :=
  ⟨.empty, .empty, .empty, [], .empty, [], [], [], .empty, [], [], [], [], []⟩

def versionsOf (world : World) (strategyId : Uuid) : List StrategyVersion :=
  world.versions.rows.filter (·.strategyId = strategyId)

def eventsOf (world : World) (strategyId : Uuid) : List StrategyProgressEvent :=
  world.events.filter (·.strategyId = strategyId)

/-- `findFirst` by descending version. -/
def latestVersion (world : World) (strategyId : Uuid) : Option StrategyVersion :=
  (world.versionsOf strategyId).argmax StrategyVersion.version

/-- `findFirst` by descending sequence number. -/
def latestEvent (world : World) (strategyId : Uuid) : Option StrategyProgressEvent :=
  (world.eventsOf strategyId).argmax StrategyProgressEvent.seq

/-- The run that was stored last. -/
def latestRun (world : World) (strategyId : Uuid) : Option StrategyRetrievalRun :=
  (world.runs.rows.filter (·.strategyId = strategyId)).getLast?

/-- The confirmed profile of a business with the highest version. -/
def activeProfile (world : World) (businessId : Uuid) : Option BusinessProfileVersion :=
  (world.profiles.filter (·.businessId = businessId)).argmax BusinessProfileVersion.version

/-- The version that is current for the strategy of a version. -/
def currentBeside (world : World) (versionId : Uuid) : Option Uuid :=
  (world.versions.find versionId).bind fun version =>
    (world.strategies.find version.strategyId).bind StrategyRow.currentVersionId

end World

/-- A bound that no identity of the list reaches. -/
def above (ids : List Uuid) : Nat := ids.foldr (fun id bound => max (id + 1) bound) 0

/-- The rows that exclude concurrent writers. -/
inductive Key
  | strategy (id : Uuid)
  | brief (strategyId : Uuid)
  | version (id : Uuid)
  | versionNumber (strategyId : Uuid) (version : Nat)
  | eventNumber (strategyId : Uuid) (seq : Nat)
deriving DecidableEq, Repr

def Agree (key : Key) (left right : World) : Prop :=
  match key with
  | .strategy id =>
      left.strategies.find id = right.strategies.find id ∧
        (id ∈ left.retiredStrategies ↔ id ∈ right.retiredStrategies)
  | .brief strategyId => left.briefs.find strategyId = right.briefs.find strategyId
  | .version id =>
      left.versions.find id = right.versions.find id ∧
        (id ∈ left.retiredVersions ↔ id ∈ right.retiredVersions)
  | .versionNumber strategyId version =>
      (left.versionsOf strategyId).filter (·.version = version) =
        (right.versionsOf strategyId).filter (·.version = version)
  | .eventNumber strategyId seq =>
      (left.eventsOf strategyId).filter (·.seq = seq) =
        (right.eventsOf strategyId).filter (·.seq = seq)

/-! ### Statements -/

inductive Statement
  | createStrategy (businessId ownerUserId : Uuid)
  | findStrategy (id : Uuid)
  | findBrief (strategyId : Uuid)
  | findProfileOfOwner (id ownerUserId : Uuid)
  | findActiveProfile (businessId : Uuid)
  | findProfile (id : Uuid)
  | findTarget (targetId businessId : Uuid)
  | upsertBrief (strategyId : Uuid) (data : BriefData)
  | findStatus (id : Uuid)
  | updateStatus (id : Uuid) (status : StrategyStatus)
  | claim (id : Uuid) (idleStatuses : List StrategyStatus) (next : StrategyStatus)
  | findRun (id : Uuid)
  | findLatestRun (strategyId : Uuid)
  | findVersion (id : Uuid)
  | findLatestVersion (strategyId : Uuid)
  | countRetries (strategyId : Uuid)
  | createVersion (row : StrategyVersion)
  | makeDraft (id versionId : Uuid)
  | createDecision (strategyVersionId ownerUserId : Uuid) (action : DecisionAction)
      (feedback : Option String)
  | decideDraft (id : Uuid) (next : StrategyStatus)
  | findVersionIds (strategyId : Uuid)
  | deleteDecisions (versionIds : List Uuid)
  | deleteVersions (strategyId : Uuid)
  | deleteRuns (strategyId : Uuid)
  | deleteBrief (strategyId : Uuid)
  | deleteEvents (strategyId : Uuid)
  | deleteStrategy (id : Uuid)
  | countEvents (strategyId : Uuid)
  | createEvent (event : StrategyProgressEvent)
  | findLatestEvent (strategyId : Uuid)
  | addJob (data : JobData)
  /-- The queue moves a job on. -/
  | turnJob (id : Nat) (state : JobState)
  | assertAllowed (userId : Uuid) (metric : BillingMetric) (requested : Int)
  | spendPoints (userId : Uuid) (metric : BillingMetric) (units : Int) (claimKey : String)
  | recordProviderCost (userId : Uuid) (metric : BillingMetric) (logicalArtifactKey : String)
  /-- Another service of the same owner charges its own work. -/
  | spendElsewhere (userId : Uuid) (metric : BillingMetric) (units : Int) (claimKey : String)
  /-- An operator adds points. -/
  | topUp (account : Uuid) (request : Billing.TopUpRequest)
  | retrieve (brief : StrategyBrief)
  | score (brief : StrategyBrief) (run : StrategyRetrievalRun)
  | generate (brief : StrategyBrief) (run : StrategyRetrievalRun)
  | revise (brief : StrategyBrief) (run : StrategyRetrievalRun) (previousPlan : Json)
      (revisionNotes : String)
  /-- The owner confirms a profile. -/
  | confirmProfile (businessId ownerUserId : Uuid)

abbrev Statement.Reply : Statement → Type
  | createStrategy _ _ => StrategyRow
  | findStrategy _ => Option StrategyRow
  | findBrief _ => Option StrategyBrief
  | findProfileOfOwner _ _ | findActiveProfile _ | findProfile _ => Option BusinessProfileVersion
  | findTarget _ _ => Option TargetProjection
  | upsertBrief _ _ => StrategyBrief
  | findStatus _ => Option StrategyStatus
  | claim _ _ _ | decideDraft _ _ => Bool
  | findRun _ | findLatestRun _ => Option StrategyRetrievalRun
  | findVersion _ | findLatestVersion _ => Option StrategyVersion
  | countRetries _ | countEvents _ => Nat
  | createVersion _ => StrategyVersion
  | findVersionIds _ => List Uuid
  | findLatestEvent _ => Option StrategyProgressEvent
  | assertAllowed _ _ _ | spendPoints _ _ _ _ => Except Billing.BillingError Unit
  | retrieve _ => Except AiError (Option Uuid)
  | score _ _ => Bool
  | generate _ _ | revise _ _ _ _ => PlanReply
  | updateStatus _ _ | makeDraft _ _ | createDecision _ _ _ _ | deleteDecisions _
  | deleteVersions _ | deleteRuns _ | deleteBrief _ | deleteEvents _ | deleteStrategy _
  | createEvent _ | addJob _ | turnJob _ _ | recordProviderCost _ _ _ | spendElsewhere _ _ _ _
  | topUp _ _ | confirmProfile _ _ => Unit

/-- The signature of the strategy services. -/
def strategy : Signature := ⟨Statement, Statement.Reply, StrategyError⟩

/-! ### What a statement does -/

namespace World

/-- The strategy has another status. -/
def move (world : World) (id : Uuid) (next : StrategyStatus) : World :=
  { world with
    strategies := world.strategies.modify id fun row => { row with status := next }
    claimed := if next = .retrieving then id :: world.claimed else world.claimed
    reopened :=
      if next = .ready ∧ (world.strategies.find id).any (·.status ≠ .needsBrief) then
        id :: world.reopened
      else world.reopened }

def putBrief (world : World) (id strategyId : Uuid) (data : BriefData) : World :=
  { world with
    briefs :=
      if (world.briefs.find strategyId).isSome then
        world.briefs.modify strategyId data.update data.sameKey
      else world.briefs.insert (data.create id strategyId) }

def addVersion (world : World) (pid : Pid) (row : StrategyVersion) : World :=
  { world with
    versions := world.versions.insert row
    unpaid := (pid, row.charge) :: world.unpaid }

/-- The version is the draft of its strategy. -/
def publishDraft (world : World) (id versionId : Uuid) : World :=
  { world with
    strategies := world.strategies.modify id fun row =>
      { row with status := .draft, currentVersionId := some versionId } }

def addDecision (world : World) (row : StrategyDecision) : World :=
  { world with decisions := world.decisions ++ [row] }

/-- Delete the versions of these identities and numbers. -/
def dropVersions (world : World) (gone : List (Uuid × Uuid × Nat)) : World :=
  { world with
    versions := world.versions.retain fun row => (row.id, row.strategyId, row.version) ∉ gone
    retiredVersions := gone.map Prod.fst ++ world.retiredVersions }

def dropStrategy (world : World) (id : Uuid) : World :=
  { world with
    strategies := world.strategies.retain (·.id ≠ id)
    retiredStrategies := id :: world.retiredStrategies }

def storeRun (world : World) (run : StrategyRetrievalRun) : World :=
  { world with runs := world.runs.insert run }

def withBilling (world : World) (billing : Billing.World) : World := { world with billing }

/-- The call has been charged, if it was. -/
def settle (world : World) (pid : Pid) (charge : BillingMetric × String)
    (reply : Except Billing.BillingError Unit) : World :=
  { world with
    unpaid :=
      match reply with
      | .ok () => world.unpaid.erase (pid, charge)
      | .error _ => world.unpaid }

end World

/-- Give the strategy another status when it has one of these, and tell whether it had. -/
def updateWhen (world : World) (id : Uuid) (allowed : List StrategyStatus)
    (change : World → World) : Except StrategyError (Effect World Key Bool) :=
  if (world.strategies.find id).any (·.status ∈ allowed) then .ok ⟨true, change, [.strategy id]⟩
  else .ok ⟨false, fun world => world, []⟩

/-- A call of the billing service. -/
def bill {α : Type} (pid : Pid) (choice : Nat) (code : Billing.Code α) (world : World) :
    Effect World Key (Except Billing.BillingError α) :=
  ⟨(Billing.serve pid choice code world.billing).1,
    fun world => world.withBilling (Billing.serve pid choice code world.billing).2, []⟩

/-- A statement that only reads. -/
abbrev reading {α : Type} (reply : α) : Except StrategyError (Effect World Key α) :=
  .ok ⟨reply, fun world => world, []⟩

/-- An answer of the AI service. -/
def answering {α : Type} (answer : Except AiError α) : Except StrategyError (Effect World Key α) :=
  match answer with
  | .ok reply => reading reply
  | .error error => .error (.ai error)

def exec (around : Surroundings) (pid : Pid) (choice : Nat) (asked : Statement) (world : World) :
    Except StrategyError (Effect World Key asked.Reply) :=
  match asked with
  | .createStrategy businessId ownerUserId =>
      let row : StrategyRow :=
        { id := world.strategies.freshKey (above world.retiredStrategies + choice)
          businessId
          ownerUserId
          status := .needsBrief
          contractVersion := "strategy-v2"
          currentVersionId := none }
      .ok ⟨row, fun world => { world with strategies := world.strategies.insert row },
        [.strategy row.id]⟩
  | .findStrategy id => reading (world.strategies.find id)
  | .findBrief strategyId => reading (world.briefs.find strategyId)
  | .findProfileOfOwner id ownerUserId =>
      reading (world.profiles.find? fun row => row.id = id ∧ row.ownerUserId = ownerUserId)
  | .findActiveProfile businessId => reading (world.activeProfile businessId)
  | .findProfile id => reading (world.profiles.find? (·.id = id))
  | .findTarget targetId businessId => reading (around.getTarget choice targetId businessId)
  | .upsertBrief strategyId data =>
      if (world.strategies.find strategyId).isNone then .error .foreignKeyViolation
      else
        .ok ⟨((world.briefs.find strategyId).map data.update).getD (data.create choice strategyId),
          (World.putBrief · choice strategyId data), [.brief strategyId]⟩
  | .findStatus id => reading ((world.strategies.find id).map StrategyRow.status)
  | .updateStatus id status =>
      if (world.strategies.find id).isNone then .error .recordNotFound
      else .ok ⟨(), (World.move · id status), [.strategy id]⟩
  | .claim id idleStatuses next => updateWhen world id idleStatuses (World.move · id next)
  | .findRun id => reading (world.runs.find id)
  | .findLatestRun strategyId => reading (world.latestRun strategyId)
  | .findVersion id => reading (world.versions.find id)
  | .findLatestVersion strategyId => reading (world.latestVersion strategyId)
  | .countRetries strategyId =>
      reading (world.decisions.filter fun row =>
        row.action = .retry ∧
          (world.versions.find row.strategyVersionId).any (·.strategyId = strategyId)).length
  | .createVersion row =>
      if (world.strategies.find row.strategyId).isNone then .error .foreignKeyViolation
      else if (world.versionsOf row.strategyId).any (·.version = row.version) then
        .error .uniqueViolation
      else
        let created :=
          { row with id := world.versions.freshKey (above world.retiredVersions + choice) }
        .ok ⟨created, (World.addVersion · pid created),
          [.version created.id, .versionNumber row.strategyId row.version]⟩
  | .makeDraft id versionId =>
      match updateWhen world id [.validating] (World.publishDraft · id versionId) with
      | .ok effect => .ok ⟨(), effect.write, effect.keys⟩
      | .error error => .error error
  | .createDecision strategyVersionId ownerUserId action feedback =>
      if (world.versions.find strategyVersionId).isNone then .error .foreignKeyViolation
      else
        let row : StrategyDecision :=
          ⟨strategyVersionId, ownerUserId, action, feedback, world.currentBeside strategyVersionId⟩
        .ok ⟨(), (World.addDecision · row), []⟩
  | .decideDraft id next => updateWhen world id [.draft] (World.move · id next)
  | .findVersionIds strategyId => reading ((world.versionsOf strategyId).map StrategyVersion.id)
  | .deleteDecisions versionIds =>
      .ok ⟨(), fun world =>
        { world with
          decisions := world.decisions.filter (·.strategyVersionId ∉ versionIds) }, []⟩
  | .deleteVersions strategyId =>
      let gone := (world.versionsOf strategyId).map fun row => (row.id, row.strategyId, row.version)
      .ok ⟨(), (World.dropVersions · gone),
        gone.map (fun row => .version row.1) ++ gone.map fun row => .versionNumber row.2.1 row.2.2⟩
  | .deleteRuns strategyId =>
      .ok ⟨(), fun world =>
        { world with runs := world.runs.retain (·.strategyId ≠ strategyId) }, []⟩
  | .deleteBrief strategyId =>
      .ok ⟨(), fun world =>
        { world with briefs := world.briefs.retain (·.strategyId ≠ strategyId) },
        [.brief strategyId]⟩
  | .deleteEvents strategyId =>
      let gone := (world.eventsOf strategyId).map StrategyProgressEvent.seq
      .ok ⟨(), fun world =>
        { world with
          events := world.events.filter fun row => ¬(row.strategyId = strategyId ∧ row.seq ∈ gone) },
        gone.map (.eventNumber strategyId)⟩
  | .deleteStrategy id =>
      if (world.strategies.find id).isNone then .error .recordNotFound
      else .ok ⟨(), (World.dropStrategy · id), [.strategy id]⟩
  | .countEvents strategyId => reading (world.eventsOf strategyId).length
  | .createEvent event =>
      if (world.strategies.find event.strategyId).isNone then .error .foreignKeyViolation
      else if (world.eventsOf event.strategyId).any (·.seq = event.seq) then .error .uniqueViolation
      else
        .ok ⟨(), fun world => { world with events := world.events ++ [event] },
          [.eventNumber event.strategyId event.seq]⟩
  | .findLatestEvent strategyId => reading (world.latestEvent strategyId)
  | .addJob data =>
      .ok ⟨(), fun world =>
        { world with jobs := world.jobs ++ [⟨world.jobs.length, data, .waiting⟩] }, []⟩
  | .turnJob id state =>
      .ok ⟨(), fun world =>
        { world with
          jobs := world.jobs.map fun job => if job.id = id then { job with state } else job }, []⟩
  | .assertAllowed userId metric requested =>
      .ok (bill pid choice
        (Billing.assertAllowed (around.circuitOpen choice userId) userId metric requested) world)
  | .spendPoints userId metric units claimKey =>
      let served := bill pid choice (Billing.record userId metric units claimKey) world
      .ok ⟨served.reply, fun world => (served.write world).settle pid (metric, claimKey) served.reply,
        served.keys⟩
  | .recordProviderCost _ _ _ => reading ()
  | .spendElsewhere userId metric units claimKey =>
      let served := bill pid choice (Billing.record userId metric units claimKey) world
      .ok ⟨(), served.write, served.keys⟩
  | .topUp account request =>
      let served := bill pid choice (Billing.topUpWallet account request) world
      .ok ⟨(), served.write, served.keys⟩
  | .retrieve brief =>
      let reply := around.ai.retrieve choice brief
      match reply.stored with
      | none => reading (reply.answer.map fun _ => none)
      | some content =>
          -- The service stores its run under the strategy, which has to be there.
          if (world.strategies.find brief.strategyId).isNone then reading (.error ⟨some 500, none⟩)
          else
            let id := world.runs.freshKey choice
            .ok ⟨reply.answer.map fun _ => some id,
              (World.storeRun · ⟨id, brief.strategyId, brief, content⟩), []⟩
  | .score brief run => answering (around.ai.score choice brief run)
  | .generate brief run => answering (around.ai.generate choice brief run)
  | .revise brief run previousPlan revisionNotes =>
      answering (around.ai.revise choice brief run previousPlan revisionNotes)
  | .confirmProfile businessId ownerUserId =>
      .ok ⟨(), fun world =>
        { world with
          profiles := world.profiles ++
            [⟨world.profiles.length, businessId, ownerUserId,
              (world.profiles.filter (·.businessId = businessId)).length + 1⟩] }, []⟩

/-! ### The store -/

theorem agree_refl (key : Key) (world : World) : Agree key world world := by
  cases key <;> simp [Agree]

theorem agree_trans (key : Key) {first second third : World} (left : Agree key first second)
    (right : Agree key second third) : Agree key first third := by
  cases key with
  | strategy | version => exact ⟨left.1.trans right.1, left.2.trans right.2⟩
  | brief | versionNumber | eventNumber => exact Eq.trans left right

/-- What a guarded update of one strategy does. -/
theorem updateWhen_cases {world : World} {id : Uuid} {allowed : List StrategyStatus}
    {change : World → World} {effect : Effect World Key Bool}
    (executed : updateWhen world id allowed change = .ok effect) :
    (∃ row, world.strategies.find id = some row ∧ row.status ∈ allowed ∧
      effect = ⟨true, change, [.strategy id]⟩) ∨
    effect = ⟨false, fun world => world, []⟩ := by
  unfold updateWhen at executed
  by_cases guarded : (world.strategies.find id).any (·.status ∈ allowed) = true
  · rw [if_pos guarded] at executed
    cases found : world.strategies.find id with
    | none =>
        rw [found] at guarded
        cases guarded
    | some row =>
        rw [found] at guarded
        exact .inl ⟨row, rfl, by simpa using guarded, (Except.ok.inj executed).symm⟩
  · rw [if_neg guarded] at executed
    exact .inr (Except.ok.inj executed).symm

/-- A change of one strategy row and of the history. -/
private theorem agree_strategies {key : Key} {id : Uuid} {change : StrategyRow → StrategyRow}
    {sameId : ∀ row, (change row).id = row.id} (free : key ∉ [Key.strategy id]) (world : World)
    (claimed reopened : List Uuid) :
    Agree key world
      { world with strategies := world.strategies.modify id change sameId, claimed, reopened } := by
  cases key with
  | strategy other =>
      have apart : other ≠ id := by
        rintro rfl
        exact free (List.mem_singleton_self _)
      have same := @Table.find_modify_of_ne _ _ world.strategies id change sameId other apart
      exact ⟨same.symm, Iff.rfl⟩
  | version => exact ⟨rfl, Iff.rfl⟩
  | brief | versionNumber | eventNumber => rfl

private theorem agree_move {key : Key} {id : Uuid} {next : StrategyStatus}
    (free : key ∉ [Key.strategy id]) (world : World) : Agree key world (world.move id next) :=
  agree_strategies free world _ _

private theorem agree_publishDraft {key : Key} {id versionId : Uuid}
    (free : key ∉ [Key.strategy id]) (world : World) :
    Agree key world (world.publishDraft id versionId) :=
  agree_strategies free world _ _

private theorem agree_updateWhen {key : Key} {world : World} {id : Uuid}
    {allowed : List StrategyStatus} {change : World → World} {effect : Effect World Key Bool}
    (executed : updateWhen world id allowed change = .ok effect) (free : key ∉ effect.keys)
    (agrees : key ∉ [Key.strategy id] → ∀ other, Agree key other (change other)) (other : World) :
    Agree key other (effect.write other) := by
  rcases updateWhen_cases executed with ⟨row, -, -, rfl⟩ | rfl
  · exact agrees free other
  · exact agree_refl key other

private theorem agree_createStrategy {key : Key} {row : StrategyRow}
    (free : key ∉ [Key.strategy row.id]) (world : World) :
    Agree key world { world with strategies := world.strategies.insert row } := by
  cases key with
  | strategy other =>
      have apart : other ≠ row.id := by
        rintro rfl
        exact free (List.mem_singleton_self _)
      exact ⟨(Table.find_insert_of_ne apart).symm, Iff.rfl⟩
  | version => exact ⟨rfl, Iff.rfl⟩
  | brief | versionNumber | eventNumber => rfl

private theorem agree_briefs {key : Key} {strategyId : Uuid} {briefs : Table StrategyBrief}
    (free : key ∉ [Key.brief strategyId]) (world : World)
    (same : ∀ other, other ≠ strategyId → world.briefs.find other = briefs.find other) :
    Agree key world { world with briefs } := by
  cases key with
  | brief other =>
      refine same other ?_
      rintro rfl
      exact free (List.mem_singleton_self _)
  | strategy | version => exact ⟨rfl, Iff.rfl⟩
  | versionNumber | eventNumber => rfl

private theorem agree_putBrief {key : Key} {id strategyId : Uuid} {data : BriefData}
    (free : key ∉ [Key.brief strategyId]) (world : World) :
    Agree key world (world.putBrief id strategyId data) := by
  refine agree_briefs free world fun other apart => ?_
  split
  · exact (Table.find_modify_of_ne apart).symm
  · exact (Table.find_insert_of_ne apart).symm

private theorem agree_addVersion {key : Key} {pid : Pid} {row : StrategyVersion}
    (free : key ∉ [Key.version row.id, .versionNumber row.strategyId row.version]) (world : World) :
    Agree key world (world.addVersion pid row) := by
  cases key with
  | version other =>
      have apart : other ≠ row.id := by
        rintro rfl
        exact free List.mem_cons_self
      exact ⟨(Table.find_insert_of_ne apart).symm, Iff.rfl⟩
  | versionNumber strategyId version =>
      show (world.versionsOf strategyId).filter (·.version = version) = _
      unfold World.versionsOf World.addVersion
      cases known : world.versions.find (Keyed.key row) with
      | some old => rw [Table.insert_of_used known]
      | none =>
          rw [Table.rows_insert known, List.filter_append, List.filter_append]
          have outside : ¬(row.strategyId = strategyId ∧ row.version = version) := by
            rintro ⟨rfl, rfl⟩
            simp at free
          by_cases same : row.strategyId = strategyId
          · have other : row.version ≠ version := fun sameVersion => outside ⟨same, sameVersion⟩
            simp [same, other]
          · simp [same]
  | strategy => exact ⟨rfl, Iff.rfl⟩
  | brief | eventNumber => rfl

private theorem agree_dropVersions {key : Key} {gone : List (Uuid × Uuid × Nat)}
    (free : key ∉ gone.map (fun row => Key.version row.1) ++
      gone.map fun row => Key.versionNumber row.2.1 row.2.2) (world : World) :
    Agree key world (world.dropVersions gone) := by
  rw [List.mem_append, not_or] at free
  cases key with
  | version id =>
      have kept : ∀ strategyId version, (id, strategyId, version) ∉ gone := fun _ _ member =>
        free.1 (List.mem_map.mpr ⟨_, member, rfl⟩)
      constructor
      · show _ = (world.versions.retain _).find id
        rw [Table.find_retain]
        cases found : world.versions.find id with
        | none => rfl
        | some row =>
            have same : row.id = id := Table.key_of_find found
            simp [Option.filter, same, kept]
      · show _ ↔ id ∈ gone.map Prod.fst ++ world.retiredVersions
        have absent : id ∉ gone.map Prod.fst := by
          intro member
          obtain ⟨row, inside, rfl⟩ := List.mem_map.mp member
          exact kept row.2.1 row.2.2 inside
        simp [absent]
  | versionNumber strategyId version =>
      show (world.versionsOf strategyId).filter (·.version = version) = _
      unfold World.versionsOf World.dropVersions Table.retain
      rw [List.filter_filter, List.filter_filter, List.filter_filter]
      refine List.filter_congr fun row _ => ?_
      by_cases same : row.version = version ∧ row.strategyId = strategyId
      · have kept : (row.id, row.strategyId, row.version) ∉ gone := by
          rw [same.1, same.2]
          exact fun member => free.2 (List.mem_map.mpr ⟨_, member, rfl⟩)
        simp [kept]
      · have outside : (decide (row.version = version) && decide (row.strategyId = strategyId)) = false := by
          simpa using same
        simp [outside]
  | strategy => exact ⟨rfl, Iff.rfl⟩
  | brief | eventNumber => rfl

private theorem agree_dropStrategy {key : Key} {id : Uuid} (free : key ∉ [Key.strategy id])
    (world : World) : Agree key world (world.dropStrategy id) := by
  cases key with
  | strategy other =>
      have apart : other ≠ id := by
        rintro rfl
        exact free (List.mem_singleton_self _)
      constructor
      · show _ = (world.strategies.retain _).find other
        rw [Table.find_retain]
        cases found : world.strategies.find other with
        | none => rfl
        | some row =>
            have same : row.id = other := Table.key_of_find found
            simp [Option.filter, same, apart]
      · show _ ↔ other ∈ id :: world.retiredStrategies
        simp [apart]
  | version => exact ⟨rfl, Iff.rfl⟩
  | brief | versionNumber | eventNumber => rfl

private theorem agree_createEvent {key : Key} {event : StrategyProgressEvent}
    (free : key ∉ [Key.eventNumber event.strategyId event.seq]) (world : World) :
    Agree key world { world with events := world.events ++ [event] } := by
  cases key with
  | eventNumber strategyId seq =>
      show (world.eventsOf strategyId).filter (·.seq = seq) = _
      unfold World.eventsOf
      rw [List.filter_append, List.filter_append]
      have outside : ¬(event.strategyId = strategyId ∧ event.seq = seq) := by
        rintro ⟨rfl, rfl⟩
        exact free (List.mem_singleton_self _)
      by_cases same : event.strategyId = strategyId
      · have other : event.seq ≠ seq := fun sameSeq => outside ⟨same, sameSeq⟩
        simp [same, other]
      · simp [same]
  | strategy | version => exact ⟨rfl, Iff.rfl⟩
  | brief | versionNumber => rfl

private theorem agree_deleteEvents {key : Key} {strategyId : Uuid} {gone : List Nat}
    (free : key ∉ gone.map (Key.eventNumber strategyId)) (world : World) :
    Agree key world
      { world with
        events := world.events.filter fun row => ¬(row.strategyId = strategyId ∧ row.seq ∈ gone) } := by
  cases key with
  | eventNumber other seq =>
      show (world.eventsOf other).filter (·.seq = seq) = _
      unfold World.eventsOf
      dsimp only
      rw [List.filter_filter, List.filter_filter, List.filter_filter]
      refine List.filter_congr fun row _ => ?_
      by_cases same : row.seq = seq ∧ row.strategyId = other
      · have kept : ¬(row.strategyId = strategyId ∧ row.seq ∈ gone) := by
          rintro ⟨rfl, member⟩
          rw [same.1] at member
          rw [same.2] at free
          exact free (List.mem_map_of_mem member)
        simp [kept]
      · have outside : (decide (row.seq = seq) && decide (row.strategyId = other)) = false := by
          simpa using same
        simp [outside]
  | strategy | version => exact ⟨rfl, Iff.rfl⟩
  | brief | versionNumber => rfl

/-- Decisions, runs, profiles, the queue and the wallets are under no key. -/
private theorem agree_beside {key : Key} {world after : World}
    (strategies : after.strategies = world.strategies) (briefs : after.briefs = world.briefs)
    (versions : after.versions = world.versions) (events : after.events = world.events)
    (retired : after.retiredStrategies = world.retiredStrategies)
    (retiredVersions : after.retiredVersions = world.retiredVersions) : Agree key world after := by
  cases key <;>
    simp [Agree, World.versionsOf, World.eventsOf, strategies, briefs, versions, events, retired,
      retiredVersions]

theorem ok_of_answering {α : Type} {answer : Except AiError α} {effect : Effect World Key α}
    (executed : answering answer = .ok effect) : effect.write = fun world => world := by
  unfold answering at executed
  split at executed
  · cases executed
    rfl
  · cases executed

/-- A statement touches only the rows that it holds. -/
theorem exec_framed {around : Surroundings} {pid : Pid} {choice : Nat} {asked : Statement}
    {world : World} {effect : Effect World Key asked.Reply}
    (executed : exec around pid choice asked world = .ok effect)
    (key : Key) (free : key ∉ effect.keys) (other : World) :
    Agree key other (effect.write other) := by
  cases asked <;> simp only [exec] at executed
  case createStrategy =>
    cases executed
    exact agree_createStrategy free other
  case upsertBrief =>
    obtain ⟨-, executed⟩ := ok_of_unless executed
    cases executed
    exact agree_putBrief free other
  case updateStatus =>
    obtain ⟨-, executed⟩ := ok_of_unless executed
    cases executed
    exact agree_move free other
  case claim => exact agree_updateWhen executed free (fun free => agree_move free) other
  case decideDraft => exact agree_updateWhen executed free (fun free => agree_move free) other
  case makeDraft id versionId =>
    cases updated : updateWhen world id [.validating] (World.publishDraft · id versionId) with
    | error error =>
        rw [updated] at executed
        cases executed
    | ok result =>
        rw [updated] at executed
        cases executed
        exact agree_updateWhen updated free (fun free => agree_publishDraft free) other
  case createVersion row =>
    obtain ⟨-, executed⟩ := ok_of_unless executed
    obtain ⟨-, executed⟩ := ok_of_unless executed
    cases executed
    exact agree_addVersion free other
  case createDecision =>
    obtain ⟨-, executed⟩ := ok_of_unless executed
    cases executed
    exact agree_beside rfl rfl rfl rfl rfl rfl
  case deleteVersions =>
    cases executed
    exact agree_dropVersions free other
  case deleteBrief strategyId =>
    cases executed
    refine agree_briefs free other fun id apart => ?_
    rw [Table.find_retain]
    cases found : other.briefs.find id with
    | none => rfl
    | some row =>
        have same : row.strategyId = id := Table.key_of_find found
        simp [Option.filter, same, apart]
  case deleteEvents =>
    cases executed
    exact agree_deleteEvents free other
  case deleteStrategy =>
    obtain ⟨-, executed⟩ := ok_of_unless executed
    cases executed
    exact agree_dropStrategy free other
  case createEvent =>
    obtain ⟨-, executed⟩ := ok_of_unless executed
    obtain ⟨-, executed⟩ := ok_of_unless executed
    cases executed
    exact agree_createEvent free other
  case score | generate | revise =>
    rw [ok_of_answering executed]
    exact agree_refl key other
  case retrieve =>
    split at executed
    · cases executed
      exact agree_refl key other
    · split at executed
      · cases executed
        exact agree_refl key other
      · cases executed
        exact agree_beside rfl rfl rfl rfl rfl rfl
  all_goals
    cases executed
    exact agree_beside rfl rfl rfl rfl rfl rfl

/-- The database of strategies. -/
def store (around : Surroundings) : Store strategy World Key where
  exec := exec around
  Agree := Agree
  agree_refl := agree_refl
  agree_trans := agree_trans
  framed := exec_framed
  aborted := .transactionAborted
  databaseFailure := .databaseFailure

end MarketMind.Strategy
