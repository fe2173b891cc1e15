import MarketMind.Content.Types
import MarketMind.Transactions.Store

/-!
Owns the content tables with their queue, the statements that the content services execute on
them, and which rows each statement holds until its transaction ends.

A row that is referred to is never deleted, so foreign keys are left out; so are the assets and
the generation runs, which no statement here reads.

Does not own what the services do with the statements.
-/

namespace MarketMind.Content

open MarketMind.Transactions
open MarketMind.Billing (BillingMetric)

/-! ### Tables -/

/-- The committed tables, the queue and the wallets, and as history the identities of the post
plans that were deleted. -/
structure World where
  cycles : Table ContentCycle
  contexts : Table ContentWeekContext
  plans : Table ContentWeekPlan
  postPlans : Table ContentPostPlan
  packs : Table ContentPack
  items : Table ContentItem
  versions : Table ContentItemVersion
  proposals : Table OptimizationProposal
  decisions : Table OptimizationDecision
  instructions : Table ApprovedOptimizationInstruction
  outbox : Table ContentJobOutbox
  jobs : List QueuedJob
  events : List ContentProgressEvent
  billing : Billing.World
  retiredPostPlans : List Uuid

namespace World

def empty : World :=
  ⟨.empty, .empty, .empty, .empty, .empty, .empty, .empty, .empty, .empty, .empty, .empty, [], [],
    .empty, []⟩

def postPlansOf (world : World) (planId : Uuid) : List ContentPostPlan :=
  world.postPlans.rows.filter (·.contentWeekPlanId = planId)

def eventsOf (world : World) (packId : Uuid) : List ContentProgressEvent :=
  world.events.filter (·.contentPackId = packId)

end World

/-! ### Unique indexes -/

/-- `@@unique([contentCycleId, weekNumber])` -/
def ContentWeekContext.ofWeek (cycleId : Uuid) (week : Nat) (row : ContentWeekContext) : Bool :=
  row.contentCycleId = cycleId && row.weekNumber = week

@[simp] theorem ContentWeekContext.ofWeek_iff {cycleId : Uuid} {week : Nat} {row : ContentWeekContext} :
    row.ofWeek cycleId week = true ↔ row.contentCycleId = cycleId ∧ row.weekNumber = week := by
  simp [ContentWeekContext.ofWeek]

/-- The context of the week, not frozen yet. -/
def ContentWeekContext.isOpenIn (cycleId : Uuid) (week : Nat) (row : ContentWeekContext) : Bool :=
  row.ofWeek cycleId week && row.frozenAt.isNone

/-- `@@unique([contentCycleId, weekNumber])` -/
def ContentWeekPlan.ofWeek (cycleId : Uuid) (week : Nat) (row : ContentWeekPlan) : Bool :=
  row.contentCycleId = cycleId && row.weekNumber = week

@[simp] theorem ContentWeekPlan.ofWeek_iff {cycleId : Uuid} {week : Nat} {row : ContentWeekPlan} :
    row.ofWeek cycleId week = true ↔ row.contentCycleId = cycleId ∧ row.weekNumber = week := by
  simp [ContentWeekPlan.ofWeek]

/-- The plan of the week, not frozen yet. -/
def ContentWeekPlan.isDraftOf (cycleId : Uuid) (week : Nat) (row : ContentWeekPlan) : Bool :=
  row.ofWeek cycleId week && row.status = .draft

/-- `@@unique([contentCycleId, weekNumber])` -/
def ContentPack.ofWeek (cycleId : Uuid) (week : Nat) (row : ContentPack) : Bool :=
  row.contentCycleId = cycleId && row.weekNumber = week

@[simp] theorem ContentPack.ofWeek_iff {cycleId : Uuid} {week : Nat} {row : ContentPack} :
    row.ofWeek cycleId week = true ↔ row.contentCycleId = cycleId ∧ row.weekNumber = week := by
  simp [ContentPack.ofWeek]

/-- `@@unique([contentWeekPlanId, position])` -/
def ContentPostPlan.at (planId : Uuid) (position : Nat) (row : ContentPostPlan) : Bool :=
  row.contentWeekPlanId = planId && row.input.position = position

@[simp] theorem ContentPostPlan.at_iff {planId : Uuid} {position : Nat} {row : ContentPostPlan} :
    row.at planId position = true ↔
      row.contentWeekPlanId = planId ∧ row.input.position = position := by
  simp [ContentPostPlan.at]

/-- The same row in the same place. -/
def ContentPostPlan.isAs (row old : ContentPostPlan) : Bool :=
  row.id = old.id && row.at old.contentWeekPlanId old.input.position

/-- `@unique` -/
def OptimizationDecision.ofProposal (proposalId : Uuid) (row : OptimizationDecision) : Bool :=
  row.proposalId = proposalId

/-- `@@unique([ownerUserId, idempotencyKey])` -/
def OptimizationDecision.ofKey (ownerUserId : Uuid) (idempotencyKey : String)
    (row : OptimizationDecision) : Bool :=
  row.ownerUserId = ownerUserId && row.idempotencyKey = idempotencyKey

/-- `@@unique([ownerUserId, requestFingerprint])` -/
def OptimizationDecision.ofFingerprint (ownerUserId : Uuid) (requestFingerprint : String)
    (row : OptimizationDecision) : Bool :=
  row.ownerUserId = ownerUserId && row.requestFingerprint = requestFingerprint

def OptimizationDecision.clashes (row other : OptimizationDecision) : Bool :=
  ofProposal row.proposalId other || ofKey row.ownerUserId row.idempotencyKey other ||
    ofFingerprint row.ownerUserId row.requestFingerprint other

/-- `@unique` -/
def ApprovedOptimizationInstruction.ofProposal (proposalId : Uuid)
    (row : ApprovedOptimizationInstruction) : Bool :=
  row.proposalId = proposalId

/-- The row of the instruction that an approval creates. -/
def OptimizationProposal.instructionRow (proposal : OptimizationProposal)
    (id decisionId : Uuid) : ApprovedOptimizationInstruction where
  id
  proposalId := proposal.id
  approvedDecisionId := decisionId
  businessId := proposal.businessId
  strategyId := proposal.strategyId
  strategyVersion := proposal.strategyVersion
  contentCycleId := proposal.contentCycleId
  formatCohort := proposal.formatCohort
  evidenceChecksum := proposal.evidenceChecksum
  changeKind := proposal.changeKind
  instruction := proposal.instruction
  status := .pendingConsumption
  consumedContentPackId := none
  consumedWeekPlanId := none

/-- The instruction waits for a pack of the cycle. -/
def ApprovedOptimizationInstruction.pendingFor (row : ApprovedOptimizationInstruction)
    (cycle : ContentCycle) : Bool :=
  row.status = .pendingConsumption && row.businessId = cycle.businessId &&
    row.strategyId = cycle.strategyId && row.strategyVersion = cycle.strategyVersion &&
    row.contentCycleId = cycle.id

/-- `@unique` -/
def ContentJobOutbox.ofJob (jobId : JobId) (row : ContentJobOutbox) : Bool := row.jobId = jobId

/-- The lease of a dispatcher. -/
def ContentJobOutbox.leasedBy (leaseOwner : Uuid) (row : ContentJobOutbox) : Bool :=
  row.state = .processing && row.leaseOwner = some leaseOwner

/-- The rows, and the entries of unique indexes, that exclude concurrent writers. -/
inductive Key
  | cycle (id : Uuid)
  | context (id : Uuid)
  | contextOfWeek (cycleId : Uuid) (week : Nat)
  | plan (id : Uuid)
  | planOfWeek (cycleId : Uuid) (week : Nat)
  | postPlan (id : Uuid)
  | position (planId : Uuid) (position : Nat)
  | pack (id : Uuid)
  | packOfWeek (cycleId : Uuid) (week : Nat)
  | item (id : Uuid)
  | version (id : Uuid)
  | proposal (id : Uuid)
  | decision (id : Uuid)
  | decisionOf (proposalId : Uuid)
  | decisionKey (ownerUserId : Uuid) (idempotencyKey : String)
  | decisionFingerprint (ownerUserId : Uuid) (requestFingerprint : String)
  | instruction (id : Uuid)
  | instructionOf (proposalId : Uuid)
  | outbox (id : Uuid)
  | jobId (jobId : JobId)
  | event (packId : Uuid) (seq : Nat)
deriving DecidableEq, Repr

def Agree (key : Key) (left right : World) : Prop :=
  match key with
  | .cycle id => left.cycles.find id = right.cycles.find id
  | .context id => left.contexts.find id = right.contexts.find id
  | .contextOfWeek cycleId week =>
      left.contexts.keysOf (ContentWeekContext.ofWeek cycleId week) =
        right.contexts.keysOf (ContentWeekContext.ofWeek cycleId week)
  | .plan id => left.plans.find id = right.plans.find id
  | .planOfWeek cycleId week =>
      left.plans.keysOf (ContentWeekPlan.ofWeek cycleId week) =
        right.plans.keysOf (ContentWeekPlan.ofWeek cycleId week)
  | .postPlan id =>
      left.postPlans.find id = right.postPlans.find id ∧
        (id ∈ left.retiredPostPlans ↔ id ∈ right.retiredPostPlans)
  | .position planId position =>
      left.postPlans.keysOf (ContentPostPlan.at planId position) =
        right.postPlans.keysOf (ContentPostPlan.at planId position)
  | .pack id => left.packs.find id = right.packs.find id
  | .packOfWeek cycleId week =>
      left.packs.keysOf (ContentPack.ofWeek cycleId week) =
        right.packs.keysOf (ContentPack.ofWeek cycleId week)
  | .item id => left.items.find id = right.items.find id
  | .version id => left.versions.find id = right.versions.find id
  | .proposal id => left.proposals.find id = right.proposals.find id
  | .decision id => left.decisions.find id = right.decisions.find id
  | .decisionOf proposalId =>
      left.decisions.keysOf (OptimizationDecision.ofProposal proposalId) =
        right.decisions.keysOf (OptimizationDecision.ofProposal proposalId)
  | .decisionKey ownerUserId idempotencyKey =>
      left.decisions.keysOf (OptimizationDecision.ofKey ownerUserId idempotencyKey) =
        right.decisions.keysOf (OptimizationDecision.ofKey ownerUserId idempotencyKey)
  | .decisionFingerprint ownerUserId requestFingerprint =>
      left.decisions.keysOf (OptimizationDecision.ofFingerprint ownerUserId requestFingerprint) =
        right.decisions.keysOf (OptimizationDecision.ofFingerprint ownerUserId requestFingerprint)
  | .instruction id => left.instructions.find id = right.instructions.find id
  | .instructionOf proposalId =>
      left.instructions.keysOf (ApprovedOptimizationInstruction.ofProposal proposalId) =
        right.instructions.keysOf (ApprovedOptimizationInstruction.ofProposal proposalId)
  | .outbox id => left.outbox.find id = right.outbox.find id
  | .jobId jobId =>
      left.outbox.keysOf (ContentJobOutbox.ofJob jobId) =
        right.outbox.keysOf (ContentJobOutbox.ofJob jobId)
  | .event packId seq =>
      (left.eventsOf packId).filter (·.seq = seq) = (right.eventsOf packId).filter (·.seq = seq)

/-! ### Statements -/

inductive Statement
  | createCycle (input : CreateContentCycleInput) (ownerUserId : Uuid)
  /-- `SELECT ... FOR UPDATE` -/
  | lockCycle (id : Uuid)
  | findCycle (id : Uuid)
  | pauseCycle (id ownerUserId : Uuid) (reason : String)
  | resumeCycle (id ownerUserId : Uuid)
  /-- Complete the cycle if it is active, and in this week if one is given. -/
  | completeCycle (id : Uuid) (week : Option Nat)
  | advanceCycle (id : Uuid) (week : Nat)
  /-- Write the cycle by its identity, with a new week if one is given. -/
  | updateCycle (id : Uuid) (week : Option Nat)
  | findContext (id : Uuid)
  | findContextOfWeek (cycleId : Uuid) (week : Nat)
  | createContext (cycleId : Uuid) (week : Nat) (source : ContextSource)
      (content : WeekContextContent)
  | updateContext (id : Uuid) (content : WeekContextContent)
  | freezeContext (id cycleId : Uuid) (week : Nat)
  | findPlan (id : Uuid)
  | findPlanOfWeek (cycleId : Uuid) (week : Nat)
  | findPostPlans (planId : Uuid)
  | createPlan (cycleId : Uuid) (week : Nat)
  | reopenPlan (id : Uuid)
  | freezePlan (id cycleId : Uuid) (week : Nat) (frozenInput : FrozenInput)
  | deletePostPlans (planId : Uuid)
  | createPostPlans (planId : Uuid) (inputs : List PostPlanInput)
  | markPlans (planId : Uuid) (current : List PlanState) (next : PlanState)
  | attachGeneratedItem (planId : Uuid) (position : Nat) (itemId : Uuid)
  | findPack (id : Uuid)
  | findPackOfOwner (id ownerUserId : Uuid)
  | findPackOfWeek (cycleId : Uuid) (week : Nat)
  | createPack (row : ContentPack)
  | claimPack (id : Uuid)
  | markPackStatus (id : Uuid) (current next : PackStatus)
  | deliverPack (id : Uuid) (itemIds : List Uuid)
  | failPack (id : Uuid) (retryEligible : Bool)
  | setRetryEligible (id : Uuid) (retryEligible : Bool)
  | createItem (id packId : Uuid)
  | createVersion (packId : Uuid) (draft : ContentItemVersionDraft)
  | setCurrentVersion (itemId versionId : Uuid)
  /-- The optimization service stores a proposal. -/
  | createProposal (row : OptimizationProposal)
  /-- `SELECT ... FOR UPDATE` -/
  | lockProposal (id businessId : Uuid)
  | findProposal (id businessId : Uuid)
  | findDecisionByKey (ownerUserId : Uuid) (idempotencyKey : String)
  | findDecisionByFingerprint (ownerUserId : Uuid) (requestFingerprint : String)
  | findDecisionOf (proposalId : Uuid)
  | createDecision (row : OptimizationDecision)
  | createInstruction (proposal : OptimizationProposal) (decisionId : Uuid)
  | findInstruction (id : Uuid)
  | findPendingInstruction (cycle : ContentCycle) (formatCohorts : List OptimizationFormat)
  | consumeInstruction (id : Uuid) (cycle : ContentCycle) (formatCohort : OptimizationFormat)
      (evidenceChecksum : String) (packId planId : Uuid)
  | createIntent (jobId : JobId) (payload : GenerateJobData)
  | findIntent (jobId : JobId)
  | markDirectDispatched (jobId : JobId)
  | recoverLeases (now : Instant)
  /-- `SELECT ... FOR UPDATE SKIP LOCKED` -/
  | findDueIntents (now : Instant)
  | claimIntent (id leaseOwner : Uuid) (leaseExpiresAt : Instant)
  | findIntents (ids : List Uuid)
  | markDispatched (id leaseOwner : Uuid)
  | findLeased (id leaseOwner : Uuid)
  | releaseIntent (id leaseOwner : Uuid) (attempts : Nat) (retryAt : Option Instant)
  | addJob (jobId : JobId) (data : GenerateJobData)
  /-- The queue moves a job on. -/
  | turnJob (jobId : JobId) (state : JobState)
  | countEvents (packId : Uuid)
  | createEvent (event : ContentProgressEvent)
  | libraries (cycleId : Uuid) (week : Nat)
  | safeDefault (cycleId : Uuid)
  | hasInputs (pack : ContentPack)
  | generate (pack : ContentPack) (frozenInput : Option FrozenInput)
  | assertAllowed (userId : Uuid) (metric : BillingMetric) (requested : Int)
  | spendPoints (userId : Uuid) (metric : BillingMetric) (units : Int) (claimKey : String)
  | recordProviderCost (userId : Uuid) (metric : BillingMetric) (logicalArtifactKey : String)
  /-- Another service of the same owner charges its own work. -/
  | spendElsewhere (userId : Uuid) (metric : BillingMetric) (units : Int) (claimKey : String)
  /-- An operator adds points. -/
  | topUp (account : Uuid) (request : Billing.TopUpRequest)

abbrev Statement.Reply : Statement → Type
  | createCycle _ _ => ContentCycle
  | findCycle _ => Option ContentCycle
  | pauseCycle _ _ _ | resumeCycle _ _ | advanceCycle _ _ | updateContext _ _
  | freezeContext _ _ _ | freezePlan _ _ _ _ | claimPack _ | markPackStatus _ _ _ | deliverPack _ _
  | consumeInstruction _ _ _ _ _ _ | markDirectDispatched _ | claimIntent _ _ _ | markDispatched _ _
  | releaseIntent _ _ _ _ => Bool
  | findContext _ | findContextOfWeek _ _ => Option ContentWeekContext
  | createContext _ _ _ _ => ContentWeekContext
  | findPlan _ | findPlanOfWeek _ _ => Option ContentWeekPlan
  | findPostPlans _ => List ContentPostPlan
  | createPlan _ _ => ContentWeekPlan
  | findPack _ | findPackOfOwner _ _ | findPackOfWeek _ _ => Option ContentPack
  | createPack _ => ContentPack
  | findProposal _ _ => Option OptimizationProposal
  | findDecisionByKey _ _ | findDecisionByFingerprint _ _ | findDecisionOf _ =>
      Option OptimizationDecision
  | createDecision _ => OptimizationDecision
  | findInstruction _ | findPendingInstruction _ _ => Option ApprovedOptimizationInstruction
  | findIntent _ | findLeased _ _ => Option ContentJobOutbox
  | findDueIntents _ | findIntents _ => List ContentJobOutbox
  | countEvents _ => Nat
  | libraries _ _ => WeekLibraries
  | safeDefault _ => WeekContextContent
  | hasInputs _ => Bool
  | generate _ _ => GeneratedReply
  | assertAllowed _ _ _ | spendPoints _ _ _ _ => Except Billing.BillingError Unit
  | lockCycle _ | completeCycle _ _ | updateCycle _ _ | reopenPlan _ | deletePostPlans _
  | createPostPlans _ _ | markPlans _ _ _ | attachGeneratedItem _ _ _ | failPack _ _
  | setRetryEligible _ _ | createItem _ _ | createVersion _ _ | setCurrentVersion _ _
  | createProposal _ | lockProposal _ _ | createInstruction _ _ | createIntent _ _
  | recoverLeases _ | addJob _ _ | turnJob _ _ | createEvent _ | recordProviderCost _ _ _
  | spendElsewhere _ _ _ _ | topUp _ _ => Unit

/-- The signature of the content services. -/
def content : Signature := ⟨Statement, Statement.Reply, ContentError⟩

/-! ### What a statement writes

The condition of an update and the index of an insertion are read again where the write lands;
the rows that the statement holds make this the same. -/

/-- `data` of an update: the columns that it sets. -/
structure CycleData where
  status : Option CycleStatus := none
  week : Option Nat := none
  pauseReason : Option (Option String) := none

def CycleData.apply (data : CycleData) (row : ContentCycle) : ContentCycle :=
  { row with
    status := data.status.getD row.status
    currentWeekNumber := data.week.getD row.currentWeekNumber
    pauseReason := data.pauseReason.getD row.pauseReason }

theorem CycleData.key_apply (data : CycleData) (row : ContentCycle) :
    Keyed.key (data.apply row) = Keyed.key row := rfl

structure PackData where
  status : Option PackStatus := none
  retryEligible : Option Bool := none
  itemIds : Option (List Uuid) := none

def PackData.apply (data : PackData) (row : ContentPack) : ContentPack :=
  { row with
    status := data.status.getD row.status
    retryEligible := data.retryEligible.getD row.retryEligible
    itemIds := data.itemIds.getD row.itemIds }

theorem PackData.key_apply (data : PackData) (row : ContentPack) :
    Keyed.key (data.apply row) = Keyed.key row := rfl

structure IntentData where
  state : OutboxState
  attempts : Option Nat := none
  lease : Option (Option (Uuid × Instant)) := none
  retryAt : Option (Option Instant) := none

def IntentData.apply (data : IntentData) (row : ContentJobOutbox) : ContentJobOutbox :=
  { row with
    state := data.state
    attempts := data.attempts.getD row.attempts
    leaseOwner := (data.lease.map (·.map Prod.fst)).getD row.leaseOwner
    leaseExpiresAt := (data.lease.map (·.map Prod.snd)).getD row.leaseExpiresAt
    nextAttemptAt := data.retryAt.getD row.nextAttemptAt }

theorem IntentData.key_apply (data : IntentData) (row : ContentJobOutbox) :
    Keyed.key (data.apply row) = Keyed.key row := rfl

namespace World

def changeCycle (world : World) (id : Uuid) (allowed : ContentCycle → Bool) (data : CycleData) :
    World :=
  { world with
    cycles := world.cycles.update (fun row => row.id = id && allowed row) data.apply data.key_apply }

def addContext (world : World) (row : ContentWeekContext) : World :=
  { world with
    contexts := world.contexts.insertUnless (ContentWeekContext.ofWeek row.contentCycleId row.weekNumber) row }

def changeContext (world : World) (id : Uuid) (allowed : ContentWeekContext → Bool)
    (change : ContentWeekContext → ContentWeekContext)
    (sameId : ∀ row, (change row).id = row.id := by exact fun _ => rfl) : World :=
  { world with
    contexts := world.contexts.update (fun row => row.id = id && allowed row) change sameId }

def addPlan (world : World) (row : ContentWeekPlan) : World :=
  { world with
    plans := world.plans.insertUnless (ContentWeekPlan.ofWeek row.contentCycleId row.weekNumber) row }

def reopenPlan (world : World) (id : Uuid) : World :=
  { world with
    plans := world.plans.modify id fun row =>
      { row with status := .draft, updates := row.updates + 1 } }

def freezePlan (world : World) (id cycleId : Uuid) (week : Nat) (frozenInput : FrozenInput) :
    World :=
  { world with
    plans := world.plans.update (fun row => row.id = id && row.isDraftOf cycleId week)
      fun row =>
        { row with
          status := .frozen
          frozenInput := some frozenInput
          updates := row.updates + 1 } }

/-- Delete these rows. -/
def dropPostPlans (world : World) (gone : List ContentPostPlan) : World :=
  { world with
    postPlans := world.postPlans.retain fun row => !gone.any row.isAs
    retiredPostPlans := gone.map ContentPostPlan.id ++ world.retiredPostPlans }

def addPostPlans (world : World) : List ContentPostPlan → World
  | [] => world
  | row :: rest =>
      ({ world with
        postPlans :=
          world.postPlans.insertUnless
            (ContentPostPlan.at row.contentWeekPlanId row.input.position) row } :
        World).addPostPlans rest

def changePostPlans (world : World) (ids : List Uuid) (allowed : ContentPostPlan → Bool)
    (next : PlanState) (itemId : Option Uuid) : World :=
  { world with
    postPlans := world.postPlans.update (fun row => row.id ∈ ids && allowed row) fun row =>
      { row with planState := next, contentItemId := itemId.or row.contentItemId } }

def addPack (world : World) (row : ContentPack) : World :=
  { world with
    packs := world.packs.insertUnless (ContentPack.ofWeek row.contentCycleId row.weekNumber) row }

def changePack (world : World) (id : Uuid) (allowed : ContentPack → Bool) (data : PackData) :
    World :=
  { world with
    packs := world.packs.update (fun row => row.id = id && allowed row) data.apply data.key_apply }

def addItem (world : World) (row : ContentItem) : World :=
  { world with items := world.items.insert row }

def addVersion (world : World) (row : ContentItemVersion) : World :=
  { world with versions := world.versions.insert row }

def setCurrentVersion (world : World) (itemId versionId : Uuid) : World :=
  { world with
    items := world.items.modify itemId fun row => { row with currentVersionId := some versionId } }

def addProposal (world : World) (row : OptimizationProposal) : World :=
  { world with proposals := world.proposals.insert row }

def addDecision (world : World) (row : OptimizationDecision) : World :=
  { world with decisions := world.decisions.insertUnless row.clashes row }

def addInstruction (world : World) (row : ApprovedOptimizationInstruction) : World :=
  { world with
    instructions := world.instructions.insertUnless
        (ApprovedOptimizationInstruction.ofProposal row.proposalId) row }

/-- Consume the instruction if it is pending. -/
def consume (world : World) (id packId planId : Uuid) : World :=
  { world with
    instructions := world.instructions.update
      (fun row => row.id = id && row.status = .pendingConsumption)
      fun row =>
        { row with
          status := .consumed
          consumedContentPackId := some packId
          consumedWeekPlanId := some planId } }

def addIntent (world : World) (row : ContentJobOutbox) : World :=
  { world with outbox := world.outbox.insertUnless (ContentJobOutbox.ofJob row.jobId) row }

def changeIntents (world : World) (ids : List Uuid) (allowed : ContentJobOutbox → Bool)
    (data : IntentData) : World :=
  { world with
    outbox := world.outbox.update (fun row => row.id ∈ ids && allowed row) data.apply data.key_apply }

def withBilling (world : World) (billing : Billing.World) : World := { world with billing }

end World

/-- The turns of a job: a stalled one waits again, a finished one stays. -/
def canTurn : JobState → JobState → Bool
  | .waiting, .active => true
  | .delayed, .waiting => true
  | .active, _ => true
  | _, _ => false

/-- A failed attempt is counted. -/
def QueuedJob.turn (job : QueuedJob) (state : JobState) : QueuedJob :=
  { job with
    state
    attemptsMade :=
      match state with
      | .delayed | .failed => job.attemptsMade + 1
      | .waiting | .active | .completed => job.attemptsMade }

/-- Write and answer whether a row was hit. -/
def updateWhen (hit : Bool) (keys : List Key) (write : World → World) :
    Except ContentError (Effect World Key Bool) :=
  if hit then .ok ⟨true, write, keys⟩ else .ok ⟨false, fun world => world, []⟩

/-- Write the row of an identity, which has to be there. -/
def updateRow {Row : Type} (row : Option Row) (key : Key) (write : World → World) :
    Except ContentError (Effect World Key Unit) :=
  if row.isNone then .error .recordNotFound else .ok ⟨(), write, [key]⟩

/-- A call of the billing service. -/
def bill {α : Type} (pid : Pid) (choice : Nat) (code : Billing.Code α) (world : World) :
    Effect World Key (Except Billing.BillingError α) :=
  ⟨(Billing.serve pid choice code world.billing).1,
    fun world => world.withBilling (Billing.serve pid choice code world.billing).2, []⟩

/-- A statement that only reads. -/
abbrev reading {α : Type} (reply : α) : Except ContentError (Effect World Key α) :=
  .ok ⟨reply, fun world => world, []⟩

/-- A bound that no identity of the list reaches. -/
def above (ids : List Uuid) : Nat := ids.foldr (fun id bound => max (id + 1) bound) 0

/-- The rows for the inputs, under consecutive identities. -/
def postPlanRows (planId : Uuid) : (id : Uuid) → List PostPlanInput → List ContentPostPlan
  | _, [] => []
  | id, input :: rest =>
      { id, contentWeekPlanId := planId, input, planState := .planned, contentItemId := none } ::
        postPlanRows planId (id + 1) rest

/-- The rows that are left when locked ones are skipped. -/
def skipLocked (choice : Nat) (rows : List ContentJobOutbox) : List ContentJobOutbox :=
  rows.filter fun row => !choice.testBit row.id

def exec (around : Surroundings) (pid : Pid) (choice : Nat) (asked : Statement) (world : World) :
    Except ContentError (Effect World Key asked.Reply) :=
  match asked with
  | .createCycle input ownerUserId =>
      let row := input.row (world.cycles.freshKey choice) ownerUserId
      .ok ⟨row, fun world => { world with cycles := world.cycles.insert row }, [.cycle row.id]⟩
  | .lockCycle id =>
      -- no generated identity is one that was asked for, so an absent row is held as well
      .ok ⟨(), fun world => world, [.cycle id]⟩
  | .findCycle id => reading (world.cycles.find id)
  | .pauseCycle id ownerUserId reason =>
      let allowed (row : ContentCycle) : Bool :=
        row.ownerUserId = ownerUserId && row.status = .active
      updateWhen ((world.cycles.find id).any allowed) [.cycle id]
        (World.changeCycle · id allowed { status := some .paused, pauseReason := some (some reason) })
  | .resumeCycle id ownerUserId =>
      let allowed (row : ContentCycle) : Bool :=
        row.ownerUserId = ownerUserId && row.status = .paused
      updateWhen ((world.cycles.find id).any allowed) [.cycle id]
        (World.changeCycle · id allowed { status := some .active, pauseReason := some none })
  | .completeCycle id week =>
      let allowed (row : ContentCycle) : Bool :=
        row.status = .active && week.all (row.currentWeekNumber = ·)
      match updateWhen ((world.cycles.find id).any allowed) [.cycle id]
        (World.changeCycle · id allowed { status := some .completed }) with
      | .ok effect => .ok ⟨(), effect.write, effect.keys⟩
      | .error error => .error error
  | .advanceCycle id week =>
      let allowed (row : ContentCycle) : Bool :=
        row.currentWeekNumber = week && row.status = .active
      updateWhen ((world.cycles.find id).any allowed) [.cycle id]
        (World.changeCycle · id allowed { week := some (week + 1) })
  | .updateCycle id week =>
      updateRow (world.cycles.find id) (.cycle id)
        (World.changeCycle · id (fun _ => true) { week })
  | .findContext id => reading (world.contexts.find id)
  | .findContextOfWeek cycleId week =>
      reading (world.contexts.rows.find? (ContentWeekContext.ofWeek cycleId week))
  | .createContext cycleId week source content =>
      if world.contexts.rows.any (ContentWeekContext.ofWeek cycleId week) then
        .error .uniqueViolation
      else
        let row : ContentWeekContext :=
          { id := world.contexts.freshKey choice
            contentCycleId := cycleId
            weekNumber := week
            weeklyClaimId := choice
            contextSource := source
            content
            frozenAt := none }
        .ok ⟨row, (World.addContext · row), [.context row.id, .contextOfWeek cycleId week]⟩
  | .updateContext id content =>
      let allowed (row : ContentWeekContext) : Bool := row.frozenAt.isNone
      updateWhen ((world.contexts.find id).any allowed) [.context id]
        (World.changeContext · id allowed fun row => { row with content })
  | .freezeContext id cycleId week =>
      let allowed := ContentWeekContext.isOpenIn cycleId week
      updateWhen ((world.contexts.find id).any allowed) [.context id]
        (World.changeContext · id allowed fun row => { row with frozenAt := some choice })
  | .findPlan id => reading (world.plans.find id)
  | .findPlanOfWeek cycleId week =>
      reading (world.plans.rows.find? (ContentWeekPlan.ofWeek cycleId week))
  | .findPostPlans planId => reading (world.postPlansOf planId)
  | .createPlan cycleId week =>
      if world.plans.rows.any (ContentWeekPlan.ofWeek cycleId week) then .error .uniqueViolation
      else
        let row : ContentWeekPlan :=
          { id := world.plans.freshKey choice
            contentCycleId := cycleId
            weekNumber := week
            status := .draft
            frozenInput := none
            updates := 0 }
        .ok ⟨row, (World.addPlan · row), [.plan row.id, .planOfWeek cycleId week]⟩
  | .reopenPlan id => updateRow (world.plans.find id) (.plan id) (World.reopenPlan · id)
  | .freezePlan id cycleId week frozenInput =>
      updateWhen ((world.plans.find id).any (ContentWeekPlan.isDraftOf cycleId week)) [.plan id]
        (World.freezePlan · id cycleId week frozenInput)
  | .deletePostPlans planId =>
      let gone := world.postPlansOf planId
      .ok ⟨(), (World.dropPostPlans · gone),
        gone.map (fun row => .postPlan row.id) ++
          gone.map fun row => .position row.contentWeekPlanId row.input.position⟩
  | .createPostPlans planId inputs =>
      if inputs.any fun input =>
          world.postPlans.rows.any (ContentPostPlan.at planId input.position) then
        .error .uniqueViolation
      else
        let rows := postPlanRows planId
          (world.postPlans.freshKey (above world.retiredPostPlans + choice)) inputs
        .ok ⟨(), (World.addPostPlans · rows),
          rows.map (fun row => .postPlan row.id) ++
            rows.map fun row => .position row.contentWeekPlanId row.input.position⟩
  | .markPlans planId current next =>
      let allowed (row : ContentPostPlan) : Bool :=
        row.contentWeekPlanId = planId && row.planState ∈ current
      let hit := world.postPlans.keysOf allowed
      .ok ⟨(), (World.changePostPlans · hit allowed next none), hit.map .postPlan⟩
  | .attachGeneratedItem planId position itemId =>
      let hit := world.postPlans.keysOf (ContentPostPlan.at planId position)
      .ok ⟨(), (World.changePostPlans · hit (ContentPostPlan.at planId position) .ready (some itemId)),
        hit.map .postPlan⟩
  | .findPack id => reading (world.packs.find id)
  | .findPackOfOwner id ownerUserId =>
      reading ((world.packs.find id).filter fun row =>
        (world.cycles.find row.contentCycleId).any (·.ownerUserId = ownerUserId))
  | .findPackOfWeek cycleId week =>
      reading (world.packs.rows.find? (ContentPack.ofWeek cycleId week))
  | .createPack row =>
      if world.packs.rows.any (ContentPack.ofWeek row.contentCycleId row.weekNumber) then
        .error .uniqueViolation
      else
        let created := { row with id := world.packs.freshKey choice }
        .ok ⟨created, (World.addPack · created),
          [.pack created.id, .packOfWeek row.contentCycleId row.weekNumber]⟩
  | .claimPack id =>
      let allowed (row : ContentPack) : Bool :=
        row.status = .queued || row.status = .failed && row.retryEligible
      updateWhen ((world.packs.find id).any allowed) [.pack id]
        (World.changePack · id allowed { status := some .generating })
  | .markPackStatus id current next =>
      let allowed (row : ContentPack) : Bool := row.status = current
      updateWhen ((world.packs.find id).any allowed) [.pack id]
        (World.changePack · id allowed { status := some next })
  | .deliverPack id itemIds =>
      let allowed (row : ContentPack) : Bool := row.status = .validating
      updateWhen ((world.packs.find id).any allowed) [.pack id]
        (World.changePack · id allowed { status := some .draft, itemIds := some itemIds })
  | .failPack id retryEligible =>
      updateRow (world.packs.find id) (.pack id)
        (World.changePack · id (fun _ => true)
          { status := some .failed, retryEligible := some retryEligible })
  | .setRetryEligible id retryEligible =>
      updateRow (world.packs.find id) (.pack id)
        (World.changePack · id (fun _ => true) { retryEligible := some retryEligible })
  | .createItem id packId =>
      if (world.items.find id).isSome then .error .uniqueViolation
      else .ok ⟨(), (World.addItem · ⟨id, packId, none⟩), [.item id]⟩
  | .createVersion packId draft =>
      if (world.versions.find draft.id).isSome then .error .uniqueViolation
      else .ok ⟨(), (World.addVersion · ⟨packId, 1, draft⟩), [.version draft.id]⟩
  | .setCurrentVersion itemId versionId =>
      updateRow (world.items.find itemId) (.item itemId)
        (World.setCurrentVersion · itemId versionId)
  | .createProposal row =>
      let created := { row with id := world.proposals.freshKey choice }
      .ok ⟨(), (World.addProposal · created), [.proposal created.id]⟩
  | .lockProposal id businessId =>
      .ok ⟨(), fun world => world,
        if (world.proposals.find id).any (·.businessId = businessId) then [.proposal id] else []⟩
  | .findProposal id businessId =>
      reading ((world.proposals.find id).filter (·.businessId = businessId))
  | .findDecisionByKey ownerUserId idempotencyKey =>
      reading (world.decisions.rows.find? (OptimizationDecision.ofKey ownerUserId idempotencyKey))
  | .findDecisionByFingerprint ownerUserId requestFingerprint =>
      reading (world.decisions.rows.find?
        (OptimizationDecision.ofFingerprint ownerUserId requestFingerprint))
  | .findDecisionOf proposalId =>
      reading (world.decisions.rows.find? (OptimizationDecision.ofProposal proposalId))
  | .createDecision row =>
      let created := { row with id := world.decisions.freshKey choice }
      if world.decisions.rows.any created.clashes then .error .uniqueViolation
      else
        .ok ⟨created, (World.addDecision · created),
          [.decision created.id, .decisionOf row.proposalId,
            .decisionKey row.ownerUserId row.idempotencyKey,
            .decisionFingerprint row.ownerUserId row.requestFingerprint]⟩
  | .createInstruction proposal decisionId =>
      if world.instructions.rows.any (ApprovedOptimizationInstruction.ofProposal proposal.id) then
        .error .uniqueViolation
      else
        let row := proposal.instructionRow (world.instructions.freshKey choice) decisionId
        .ok ⟨(), (World.addInstruction · row), [.instruction row.id, .instructionOf proposal.id]⟩
  | .findInstruction id => reading (world.instructions.find id)
  | .findPendingInstruction cycle formatCohorts =>
      reading ((world.instructions.rows.filter fun row =>
        row.pendingFor cycle && row.formatCohort ∈ formatCohorts).rotate choice).head?
  | .consumeInstruction id cycle formatCohort evidenceChecksum packId planId =>
      updateWhen
        ((world.instructions.find id).any fun row =>
          row.pendingFor cycle && row.formatCohort = formatCohort &&
            row.evidenceChecksum = evidenceChecksum)
        [.instruction id] (World.consume · id packId planId)
  | .createIntent jobId payload =>
      if world.outbox.rows.any (ContentJobOutbox.ofJob jobId) then .error .uniqueViolation
      else
        let row : ContentJobOutbox :=
          { id := world.outbox.freshKey choice
            jobId
            payload
            state := .pending
            attempts := 0
            leaseOwner := none
            leaseExpiresAt := none
            nextAttemptAt := none }
        .ok ⟨(), (World.addIntent · row), [.outbox row.id, .jobId jobId]⟩
  | .findIntent jobId => reading (world.outbox.rows.find? (ContentJobOutbox.ofJob jobId))
  | .markDirectDispatched jobId =>
      let allowed (row : ContentJobOutbox) : Bool := row.ofJob jobId && row.state = .pending
      let hit := world.outbox.keysOf allowed
      updateWhen (!hit.isEmpty) (hit.map .outbox)
        (World.changeIntents · hit allowed { state := .dispatched })
  | .recoverLeases now =>
      let allowed (row : ContentJobOutbox) : Bool :=
        row.state = .processing && row.leaseExpiresAt.any (· < now)
      let hit := world.outbox.keysOf allowed
      .ok ⟨(), (World.changeIntents · hit allowed
        { state := .pending, lease := some none, retryAt := some (some now) }), hit.map .outbox⟩
  | .findDueIntents now =>
      let due := skipLocked choice (world.outbox.rows.filter fun row =>
        row.state = .pending && row.nextAttemptAt.all (· ≤ now))
      .ok ⟨due, fun world => world, due.map fun row => .outbox row.id⟩
  | .claimIntent id leaseOwner leaseExpiresAt =>
      let allowed (row : ContentJobOutbox) : Bool := row.state = .pending
      updateWhen ((world.outbox.find id).any allowed) [.outbox id]
        (World.changeIntents · [id] allowed
          { state := .processing, lease := some (some (leaseOwner, leaseExpiresAt)) })
  | .findIntents ids => reading (world.outbox.rows.filter (·.id ∈ ids))
  | .markDispatched id leaseOwner =>
      updateWhen ((world.outbox.find id).any (ContentJobOutbox.leasedBy leaseOwner)) [.outbox id]
        (World.changeIntents · [id] (ContentJobOutbox.leasedBy leaseOwner)
          { state := .dispatched, lease := some none })
  | .findLeased id leaseOwner =>
      reading ((world.outbox.find id).filter (ContentJobOutbox.leasedBy leaseOwner))
  | .releaseIntent id leaseOwner attempts retryAt =>
      updateWhen ((world.outbox.find id).any (ContentJobOutbox.leasedBy leaseOwner)) [.outbox id]
        (World.changeIntents · [id] (ContentJobOutbox.leasedBy leaseOwner)
          { state := if retryAt.isNone then .failed else .pending
            attempts := some attempts
            lease := some none
            retryAt := some retryAt })
  | .addJob jobId data =>
      .ok ⟨(), fun world =>
        { world with
          jobs :=
            if world.jobs.any (·.jobId = jobId) then world.jobs
            else world.jobs ++ [⟨jobId, data, 0, .waiting⟩] }, []⟩
  | .turnJob jobId state =>
      .ok ⟨(), fun world =>
        { world with
          jobs := world.jobs.map fun job =>
            if job.jobId = jobId ∧ canTurn job.state state then job.turn state else job }, []⟩
  | .countEvents packId => reading (world.eventsOf packId).length
  | .createEvent event =>
      if (world.eventsOf event.contentPackId).any (·.seq = event.seq) then .error .uniqueViolation
      else
        .ok ⟨(), fun world => { world with events := world.events ++ [event] },
          [.event event.contentPackId event.seq]⟩
  | .libraries cycleId week => reading (around.libraries choice cycleId week)
  | .safeDefault cycleId => reading (around.safeDefault choice cycleId)
  | .hasInputs pack => reading (around.hasInputs choice pack)
  | .generate pack frozenInput =>
      match around.generate choice pack frozenInput with
      | .ok reply => reading reply
      | .error error => .error error
  | .assertAllowed userId metric requested =>
      .ok (bill pid choice
        (Billing.assertAllowed (around.circuitOpen choice userId) userId metric requested) world)
  | .spendPoints userId metric units claimKey =>
      .ok (bill pid choice (Billing.record userId metric units claimKey) world)
  | .recordProviderCost _ _ _ => reading ()
  | .spendElsewhere userId metric units claimKey =>
      let served := bill pid choice (Billing.record userId metric units claimKey) world
      .ok ⟨(), served.write, served.keys⟩
  | .topUp account request =>
      let served := bill pid choice (Billing.topUpWallet account request) world
      .ok ⟨(), served.write, served.keys⟩

/-! ### The store -/

theorem agree_refl (key : Key) (world : World) : Agree key world world := by
  cases key <;> simp [Agree]

theorem agree_trans (key : Key) {first second third : World} (left : Agree key first second)
    (right : Agree key second third) : Agree key first third := by
  cases key with
  | postPlan => exact ⟨left.1.trans right.1, left.2.trans right.2⟩
  | _ => exact Eq.trans left right

theorem updateWhen_cases {hit : Bool} {keys : List Key} {write : World → World}
    {effect : Effect World Key Bool} (executed : updateWhen hit keys write = .ok effect) :
    hit = true ∧ effect = ⟨true, write, keys⟩ ∨
      hit = false ∧ effect = ⟨false, fun world => world, []⟩ := by
  unfold updateWhen at executed
  cases hit with
  | true => exact .inl ⟨rfl, (Except.ok.inj executed).symm⟩
  | false => exact .inr ⟨rfl, (Except.ok.inj executed).symm⟩

theorem ok_of_updateRow {Row : Type} {row : Option Row} {key : Key} {write : World → World}
    {effect : Effect World Key Unit} (executed : updateRow row key write = .ok effect) :
    ∃ found, row = some found ∧ effect = ⟨(), write, [key]⟩ := by
  cases row with
  | none => cases executed
  | some found => exact ⟨found, rfl, (Except.ok.inj executed).symm⟩

section Frames

variable {key : Key} (world : World)

private theorem agree_cycles {cycles : Table ContentCycle}
    (rows : ∀ id, key = .cycle id → world.cycles.find id = cycles.find id) :
    Agree key world { world with cycles } := by
  cases key <;> first | exact rows _ rfl | rfl | exact ⟨rfl, Iff.rfl⟩

private theorem agree_contexts {contexts : Table ContentWeekContext}
    (rows : ∀ id, key = .context id → world.contexts.find id = contexts.find id)
    (weeks : ∀ cycleId week, key = .contextOfWeek cycleId week →
      world.contexts.keysOf (ContentWeekContext.ofWeek cycleId week) =
        contexts.keysOf (ContentWeekContext.ofWeek cycleId week)) :
    Agree key world { world with contexts } := by
  cases key <;> first | exact rows _ rfl | exact weeks _ _ rfl | rfl | exact ⟨rfl, Iff.rfl⟩

private theorem agree_plans {plans : Table ContentWeekPlan}
    (rows : ∀ id, key = .plan id → world.plans.find id = plans.find id)
    (weeks : ∀ cycleId week, key = .planOfWeek cycleId week →
      world.plans.keysOf (ContentWeekPlan.ofWeek cycleId week) =
        plans.keysOf (ContentWeekPlan.ofWeek cycleId week)) :
    Agree key world { world with plans } := by
  cases key <;> first | exact rows _ rfl | exact weeks _ _ rfl | rfl | exact ⟨rfl, Iff.rfl⟩

private theorem agree_postPlans {postPlans : Table ContentPostPlan} {retired : List Uuid}
    (rows : ∀ id, key = .postPlan id → world.postPlans.find id = postPlans.find id ∧
      (id ∈ world.retiredPostPlans ↔ id ∈ retired))
    (positions : ∀ planId position, key = .position planId position →
      world.postPlans.keysOf (ContentPostPlan.at planId position) =
        postPlans.keysOf (ContentPostPlan.at planId position)) :
    Agree key world { world with postPlans, retiredPostPlans := retired } := by
  cases key <;> first | exact rows _ rfl | exact positions _ _ rfl | rfl

private theorem agree_packs {packs : Table ContentPack}
    (rows : ∀ id, key = .pack id → world.packs.find id = packs.find id)
    (weeks : ∀ cycleId week, key = .packOfWeek cycleId week →
      world.packs.keysOf (ContentPack.ofWeek cycleId week) =
        packs.keysOf (ContentPack.ofWeek cycleId week)) :
    Agree key world { world with packs } := by
  cases key <;> first | exact rows _ rfl | exact weeks _ _ rfl | rfl | exact ⟨rfl, Iff.rfl⟩

private theorem agree_items {items : Table ContentItem}
    (rows : ∀ id, key = .item id → world.items.find id = items.find id) :
    Agree key world { world with items } := by
  cases key <;> first | exact rows _ rfl | rfl | exact ⟨rfl, Iff.rfl⟩

private theorem agree_versions {versions : Table ContentItemVersion}
    (rows : ∀ id, key = .version id → world.versions.find id = versions.find id) :
    Agree key world { world with versions } := by
  cases key <;> first | exact rows _ rfl | rfl | exact ⟨rfl, Iff.rfl⟩

private theorem agree_proposals {proposals : Table OptimizationProposal}
    (rows : ∀ id, key = .proposal id → world.proposals.find id = proposals.find id) :
    Agree key world { world with proposals } := by
  cases key <;> first | exact rows _ rfl | rfl | exact ⟨rfl, Iff.rfl⟩

private theorem agree_instructions {instructions : Table ApprovedOptimizationInstruction}
    (rows : ∀ id, key = .instruction id → world.instructions.find id = instructions.find id)
    (proposals : ∀ proposalId, key = .instructionOf proposalId →
      world.instructions.keysOf (ApprovedOptimizationInstruction.ofProposal proposalId) =
        instructions.keysOf (ApprovedOptimizationInstruction.ofProposal proposalId)) :
    Agree key world { world with instructions } := by
  cases key <;> first | exact rows _ rfl | exact proposals _ rfl | rfl | exact ⟨rfl, Iff.rfl⟩

private theorem agree_outbox {outbox : Table ContentJobOutbox}
    (rows : ∀ id, key = .outbox id → world.outbox.find id = outbox.find id)
    (jobs : ∀ jobId, key = .jobId jobId →
      world.outbox.keysOf (ContentJobOutbox.ofJob jobId) =
        outbox.keysOf (ContentJobOutbox.ofJob jobId)) :
    Agree key world { world with outbox } := by
  cases key <;> first | exact rows _ rfl | exact jobs _ rfl | rfl | exact ⟨rfl, Iff.rfl⟩

private theorem agree_changeCycle {id : Uuid} {allowed : ContentCycle → Bool} {data : CycleData}
    (free : key ∉ [Key.cycle id]) : Agree key world (world.changeCycle id allowed data) := by
  refine agree_cycles world fun other same => (Table.find_update_of_ne ?_).symm
  rintro rfl
  exact free (by simp [same])

private theorem agree_addContext {row : ContentWeekContext}
    (free : key ∉ [Key.context row.id, .contextOfWeek row.contentCycleId row.weekNumber]) :
    Agree key world (world.addContext row) := by
  refine agree_contexts world (fun other same => ?_) fun cycleId week same => ?_
  · refine (Table.find_insertUnless_of_ne ?_).symm
    rintro rfl
    exact free (by simp [same, Keyed.key])
  · refine (Table.keysOf_insertUnless (Bool.eq_false_iff.mpr fun picked => ?_)).symm
    obtain ⟨rfl, rfl⟩ := ContentWeekContext.ofWeek_iff.mp picked
    exact free (by simp [same])

private theorem agree_changeContext {id : Uuid} {allowed : ContentWeekContext → Bool}
    {change : ContentWeekContext → ContentWeekContext}
    {sameId : ∀ row, (change row).id = row.id} (free : key ∉ [Key.context id])
    (sameWeek : ∀ cycleId week row, (change row).ofWeek cycleId week = row.ofWeek cycleId week) :
    Agree key world (world.changeContext id allowed change sameId) := by
  refine agree_contexts world (fun other same => ?_) fun cycleId week _ => ?_
  · refine (Table.find_update_of_ne ?_).symm
    rintro rfl
    exact free (by simp [same])
  · exact (Table.keysOf_update fun row _ => sameWeek cycleId week row).symm

private theorem agree_addPlan {row : ContentWeekPlan}
    (free : key ∉ [Key.plan row.id, .planOfWeek row.contentCycleId row.weekNumber]) :
    Agree key world (world.addPlan row) := by
  refine agree_plans world (fun other same => ?_) fun cycleId week same => ?_
  · refine (Table.find_insertUnless_of_ne ?_).symm
    rintro rfl
    exact free (by simp [same, Keyed.key])
  · refine (Table.keysOf_insertUnless (Bool.eq_false_iff.mpr fun picked => ?_)).symm
    obtain ⟨rfl, rfl⟩ := ContentWeekPlan.ofWeek_iff.mp picked
    exact free (by simp [same])

private theorem agree_reopenPlan {id : Uuid} (free : key ∉ [Key.plan id]) :
    Agree key world (world.reopenPlan id) := by
  refine agree_plans world (fun other same => ?_) fun cycleId week _ => ?_
  · refine (Table.find_modify_of_ne ?_).symm
    rintro rfl
    exact free (by simp [same])
  · refine (Table.keysOf_update ?_).symm
    exact fun _ _ => rfl

private theorem agree_freezePlan {id cycleId : Uuid} {week : Nat} {frozenInput : FrozenInput}
    (free : key ∉ [Key.plan id]) :
    Agree key world (world.freezePlan id cycleId week frozenInput) := by
  refine agree_plans world (fun other same => ?_) fun cycleId week _ => ?_
  · refine (Table.find_update_of_ne ?_).symm
    rintro rfl
    exact free (by simp [same])
  · refine (Table.keysOf_update ?_).symm
    exact fun _ _ => rfl

private theorem agree_dropPostPlans {gone : List ContentPostPlan}
    (free : key ∉ gone.map (fun row => Key.postPlan row.id) ++
      gone.map fun row => Key.position row.contentWeekPlanId row.input.position) :
    Agree key world (world.dropPostPlans gone) := by
  rw [List.mem_append, not_or] at free
  refine agree_postPlans world (fun id same => ?_) fun planId position same => ?_
  · have absent : ∀ old ∈ gone, old.id ≠ id := by
      rintro old member rfl
      exact free.1 (List.mem_map.mpr ⟨old, member, same.symm⟩)
    constructor
    · rw [Table.find_retain]
      cases found : world.postPlans.find id with
      | none => rfl
      | some row =>
          have sameId : row.id = id := Table.key_of_find found
          have kept : gone.any row.isAs = false := by
            refine List.any_eq_false.mpr fun old member as => absent old member ?_
            simp only [ContentPostPlan.isAs, Bool.and_eq_true, decide_eq_true_eq] at as
            exact as.1.symm.trans sameId
          simp [Option.filter, kept]
    · refine ⟨fun inside => List.mem_append_right _ inside, fun inside => ?_⟩
      refine (List.mem_append.mp inside).resolve_left fun member => ?_
      obtain ⟨old, isGone, equal⟩ := List.mem_map.mp member
      exact absent old isGone equal
  · refine (Table.keysOf_retain fun row _ picked => ?_).symm
    obtain ⟨rfl, rfl⟩ := ContentPostPlan.at_iff.mp picked
    rw [Bool.not_eq_true', List.any_eq_false]
    intro old member as
    simp only [ContentPostPlan.isAs, Bool.and_eq_true, ContentPostPlan.at_iff] at as
    refine free.2 (List.mem_map.mpr ⟨old, member, ?_⟩)
    rw [same, as.2.1, as.2.2]

private theorem agree_addPostPlans {rows : List ContentPostPlan}
    (free : key ∉ rows.map (fun row => Key.postPlan row.id) ++
      rows.map fun row => Key.position row.contentWeekPlanId row.input.position) :
    Agree key world (world.addPostPlans rows) := by
  induction rows generalizing world with
  | nil => exact agree_refl key world
  | cons row rest inductionHypothesis =>
      rw [List.mem_append, not_or] at free
      refine agree_trans key ?_ (inductionHypothesis _ ?_)
      · refine agree_postPlans world (fun id same => ⟨?_, Iff.rfl⟩) fun planId position same => ?_
        · refine (Table.find_insertUnless_of_ne ?_).symm
          rintro rfl
          exact free.1 (by simp [same, Keyed.key])
        · refine (Table.keysOf_insertUnless (Bool.eq_false_iff.mpr fun picked => ?_)).symm
          obtain ⟨rfl, rfl⟩ := ContentPostPlan.at_iff.mp picked
          exact free.2 (by simp [same])
      · rw [List.mem_append, not_or]
        exact ⟨fun member => free.1 (List.mem_cons_of_mem _ member),
          fun member => free.2 (List.mem_cons_of_mem _ member)⟩

private theorem agree_changePostPlans {ids : List Uuid} {allowed : ContentPostPlan → Bool}
    {next : PlanState} {itemId : Option Uuid} (free : key ∉ ids.map Key.postPlan) :
    Agree key world (world.changePostPlans ids allowed next itemId) := by
  refine agree_postPlans world (fun id same => ⟨?_, Iff.rfl⟩) fun planId position _ => ?_
  · refine (Table.find_update_of_notMem fun member => ?_).symm
    exact free (same ▸ List.mem_map_of_mem member)
  · refine (Table.keysOf_update ?_).symm
    exact fun _ _ => rfl

private theorem agree_addPack {row : ContentPack}
    (free : key ∉ [Key.pack row.id, .packOfWeek row.contentCycleId row.weekNumber]) :
    Agree key world (world.addPack row) := by
  refine agree_packs world (fun other same => ?_) fun cycleId week same => ?_
  · refine (Table.find_insertUnless_of_ne ?_).symm
    rintro rfl
    exact free (by simp [same, Keyed.key])
  · refine (Table.keysOf_insertUnless (Bool.eq_false_iff.mpr fun picked => ?_)).symm
    obtain ⟨rfl, rfl⟩ := ContentPack.ofWeek_iff.mp picked
    exact free (by simp [same])

private theorem agree_changePack {id : Uuid} {allowed : ContentPack → Bool} {data : PackData}
    (free : key ∉ [Key.pack id]) : Agree key world (world.changePack id allowed data) := by
  refine agree_packs world (fun other same => ?_) fun cycleId week _ => ?_
  · refine (Table.find_update_of_ne ?_).symm
    rintro rfl
    exact free (by simp [same])
  · refine (Table.keysOf_update ?_).symm
    exact fun _ _ => rfl

private theorem agree_addItem {row : ContentItem} (free : key ∉ [Key.item row.id]) :
    Agree key world (world.addItem row) := by
  refine agree_items world fun other same => (Table.find_insert_of_ne ?_).symm
  rintro rfl
  exact free (by simp [same, Keyed.key])

private theorem agree_setCurrentVersion {itemId versionId : Uuid} (free : key ∉ [Key.item itemId]) :
    Agree key world (world.setCurrentVersion itemId versionId) := by
  refine agree_items world fun other same => (Table.find_modify_of_ne ?_).symm
  rintro rfl
  exact free (by simp [same])

private theorem agree_addVersion {row : ContentItemVersion}
    (free : key ∉ [Key.version row.draft.id]) : Agree key world (world.addVersion row) := by
  refine agree_versions world fun other same => (Table.find_insert_of_ne ?_).symm
  rintro rfl
  exact free (by simp [same, Keyed.key])

private theorem agree_addProposal {row : OptimizationProposal}
    (free : key ∉ [Key.proposal row.id]) : Agree key world (world.addProposal row) := by
  refine agree_proposals world fun other same => (Table.find_insert_of_ne ?_).symm
  rintro rfl
  exact free (by simp [same, Keyed.key])

private theorem agree_addDecision {row : OptimizationDecision} (free : key ∉
      [Key.decision row.id, .decisionOf row.proposalId,
        .decisionKey row.ownerUserId row.idempotencyKey,
        .decisionFingerprint row.ownerUserId row.requestFingerprint]) :
    Agree key world (world.addDecision row) := by
  have beside : ∀ selected, (selected row = true → False) →
      world.decisions.keysOf selected =
        (world.decisions.insertUnless row.clashes row).keysOf selected := fun selected unpicked =>
    (Table.keysOf_insertUnless (Bool.eq_false_iff.mpr unpicked)).symm
  cases key with
  | decision id =>
      refine (Table.find_insertUnless_of_ne ?_).symm
      rintro rfl
      exact free (by simp [Keyed.key])
  | decisionOf proposalId =>
      refine beside _ fun picked => free ?_
      obtain rfl := of_decide_eq_true picked
      simp
  | decisionKey ownerUserId idempotencyKey =>
      refine beside _ fun picked => free ?_
      simp only [OptimizationDecision.ofKey, Bool.and_eq_true, decide_eq_true_eq] at picked
      obtain ⟨rfl, rfl⟩ := picked
      simp
  | decisionFingerprint ownerUserId requestFingerprint =>
      refine beside _ fun picked => free ?_
      simp only [OptimizationDecision.ofFingerprint, Bool.and_eq_true, decide_eq_true_eq] at picked
      obtain ⟨rfl, rfl⟩ := picked
      simp
  | postPlan => exact ⟨rfl, Iff.rfl⟩
  | _ => rfl

private theorem agree_addInstruction {row : ApprovedOptimizationInstruction}
    (free : key ∉ [Key.instruction row.id, .instructionOf row.proposalId]) :
    Agree key world (world.addInstruction row) := by
  refine agree_instructions world (fun other same => ?_) fun proposalId same => ?_
  · refine (Table.find_insertUnless_of_ne ?_).symm
    rintro rfl
    exact free (by simp [same, Keyed.key])
  · refine (Table.keysOf_insertUnless (Bool.eq_false_iff.mpr fun picked => ?_)).symm
    obtain rfl := of_decide_eq_true picked
    exact free (by simp [same])

private theorem agree_consume {id packId planId : Uuid} (free : key ∉ [Key.instruction id]) :
    Agree key world (world.consume id packId planId) := by
  refine agree_instructions world (fun other same => ?_) fun proposalId _ => ?_
  · refine (Table.find_update_of_ne ?_).symm
    rintro rfl
    exact free (by simp [same])
  · refine (Table.keysOf_update ?_).symm
    exact fun _ _ => rfl

private theorem agree_addIntent {row : ContentJobOutbox}
    (free : key ∉ [Key.outbox row.id, .jobId row.jobId]) :
    Agree key world (world.addIntent row) := by
  refine agree_outbox world (fun other same => ?_) fun jobId same => ?_
  · refine (Table.find_insertUnless_of_ne ?_).symm
    rintro rfl
    exact free (by simp [same, Keyed.key])
  · refine (Table.keysOf_insertUnless (Bool.eq_false_iff.mpr fun picked => ?_)).symm
    obtain rfl := of_decide_eq_true picked
    exact free (by simp [same])

private theorem agree_changeIntents {ids : List Uuid} {allowed : ContentJobOutbox → Bool}
    {data : IntentData} (free : key ∉ ids.map Key.outbox) :
    Agree key world (world.changeIntents ids allowed data) := by
  refine agree_outbox world (fun id same => ?_) fun jobId _ => ?_
  · refine (Table.find_update_of_notMem fun member => ?_).symm
    exact free (same ▸ List.mem_map_of_mem member)
  · refine (Table.keysOf_update ?_).symm
    exact fun _ _ => rfl

private theorem agree_createEvent {event : ContentProgressEvent}
    (free : key ∉ [Key.event event.contentPackId event.seq]) :
    Agree key world { world with events := world.events ++ [event] } := by
  cases key with
  | event packId seq =>
      show (world.eventsOf packId).filter (·.seq = seq) = _
      unfold World.eventsOf
      rw [List.filter_append, List.filter_append]
      have outside : ¬(event.contentPackId = packId ∧ event.seq = seq) := by
        rintro ⟨rfl, rfl⟩
        exact free (List.mem_singleton_self _)
      by_cases same : event.contentPackId = packId
      · have other : event.seq ≠ seq := fun sameSeq => outside ⟨same, sameSeq⟩
        simp [same, other]
      · simp [same]
  | postPlan => exact ⟨rfl, Iff.rfl⟩
  | _ => rfl

/-- The queue and the wallets are under no key. -/
private theorem agree_beside {jobs : List QueuedJob} {billing : Billing.World} :
    Agree key world { world with jobs, billing } := by
  cases key <;> first | rfl | exact ⟨rfl, Iff.rfl⟩

end Frames

/-- A statement that writes when it hits a row touches what that write touches. -/
private theorem agree_updateWhen {hit : Bool} {keys : List Key} {write : World → World}
    {effect : Effect World Key Bool} {key : Key}
    (executed : updateWhen hit keys write = .ok effect) (free : key ∉ effect.keys)
    (agrees : key ∉ keys → ∀ other, Agree key other (write other)) (other : World) :
    Agree key other (effect.write other) := by
  rcases updateWhen_cases executed with ⟨-, rfl⟩ | ⟨-, rfl⟩
  · exact agrees free other
  · exact agree_refl key other

private theorem agree_updateRow {Row : Type} {row : Option Row} {held key : Key}
    {write : World → World} {effect : Effect World Key Unit}
    (executed : updateRow row held write = .ok effect) (free : key ∉ effect.keys)
    (agrees : key ∉ [held] → ∀ other, Agree key other (write other)) (other : World) :
    Agree key other (effect.write other) := by
  obtain ⟨-, -, rfl⟩ := ok_of_updateRow executed
  exact agrees free other

/-- A statement touches only the rows that it holds. -/
theorem exec_framed {around : Surroundings} {pid : Pid} {choice : Nat} {asked : Statement}
    {world : World} {effect : Effect World Key asked.Reply}
    (executed : exec around pid choice asked world = .ok effect)
    (key : Key) (free : key ∉ effect.keys) (other : World) :
    Agree key other (effect.write other) := by
  cases asked <;> simp only [exec] at executed
  case createCycle =>
    cases executed
    refine agree_cycles other fun id same => (Table.find_insert_of_ne ?_).symm
    rintro rfl
    exact free (by simp [same, Keyed.key])
  case pauseCycle | resumeCycle | advanceCycle =>
    exact agree_updateWhen executed free (fun free => (agree_changeCycle · free)) other
  case updateCycle =>
    exact agree_updateRow executed free (fun free => (agree_changeCycle · free)) other
  case completeCycle id week =>
    split at executed
    · next completed =>
      cases executed
      exact agree_updateWhen completed free (fun free => (agree_changeCycle · free)) other
    · cases executed
  case createContext =>
    obtain ⟨-, executed⟩ := ok_of_unless executed
    cases executed
    exact agree_addContext other free
  case updateContext | freezeContext =>
    exact agree_updateWhen executed free
      (fun free => (agree_changeContext · free fun _ _ _ => rfl)) other
  case createPlan =>
    obtain ⟨-, executed⟩ := ok_of_unless executed
    cases executed
    exact agree_addPlan other free
  case reopenPlan =>
    exact agree_updateRow executed free (fun free => (agree_reopenPlan · free)) other
  case freezePlan =>
    exact agree_updateWhen executed free (fun free => (agree_freezePlan · free)) other
  case deletePostPlans =>
    cases executed
    exact agree_dropPostPlans other free
  case createPostPlans =>
    obtain ⟨-, executed⟩ := ok_of_unless executed
    cases executed
    exact agree_addPostPlans other free
  case markPlans | attachGeneratedItem =>
    cases executed
    exact agree_changePostPlans other free
  case createPack =>
    obtain ⟨-, executed⟩ := ok_of_unless executed
    cases executed
    exact agree_addPack other free
  case claimPack | markPackStatus | deliverPack =>
    exact agree_updateWhen executed free (fun free => (agree_changePack · free)) other
  case failPack | setRetryEligible =>
    exact agree_updateRow executed free (fun free => (agree_changePack · free)) other
  case createItem =>
    obtain ⟨-, executed⟩ := ok_of_unless executed
    cases executed
    exact agree_addItem other free
  case createVersion =>
    obtain ⟨-, executed⟩ := ok_of_unless executed
    cases executed
    exact agree_addVersion other free
  case setCurrentVersion =>
    exact agree_updateRow executed free (fun free => (agree_setCurrentVersion · free)) other
  case createProposal =>
    cases executed
    exact agree_addProposal other free
  case createDecision =>
    obtain ⟨-, executed⟩ := ok_of_unless executed
    cases executed
    exact agree_addDecision other free
  case createInstruction =>
    obtain ⟨-, executed⟩ := ok_of_unless executed
    cases executed
    exact agree_addInstruction other free
  case consumeInstruction =>
    exact agree_updateWhen executed free (fun free => (agree_consume · free)) other
  case createIntent =>
    obtain ⟨-, executed⟩ := ok_of_unless executed
    cases executed
    exact agree_addIntent other free
  case markDirectDispatched | claimIntent | markDispatched | releaseIntent =>
    exact agree_updateWhen executed free (fun free => (agree_changeIntents · free)) other
  case recoverLeases =>
    cases executed
    exact agree_changeIntents other free
  case createEvent =>
    obtain ⟨-, executed⟩ := ok_of_unless executed
    cases executed
    exact agree_createEvent other free
  case generate =>
    split at executed
    · cases executed
      exact agree_refl key other
    · cases executed
  case addJob | turnJob | assertAllowed | spendPoints | spendElsewhere | topUp =>
    cases executed
    exact agree_beside other
  all_goals
    cases executed
    exact agree_refl key other

/-- The database of weekly content. -/
def store (around : Surroundings) : Store content World Key where
  exec := exec around
  Agree := Agree
  agree_refl := agree_refl
  agree_trans := agree_trans
  framed := exec_framed
  aborted := .transactionAborted
  databaseFailure := .databaseFailure

end MarketMind.Content
