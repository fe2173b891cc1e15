import MarketMind.Content.Service

/-!
Owns the jobs that generate packs, the dispatcher that delivers their intents to the queue, and
the system of all calls on weekly content.

Does not own the delivery of the images that a pack plans, which fails on its own.
-/

namespace MarketMind.Content

open MarketMind.Transactions
open MarketMind.Billing (BillingMetric)

/-! ### Jobs -/

/-- `error.retryable`: the queue may run the job again. -/
def isRetryable : ContentError → Bool
  | .billing (.domain _ _) => false
  | .provider _ _ retryable => retryable
  | _ => true

/-- A retry is left to the queue while it has attempts. -/
def retryEligibleAfter (error : ContentError) (attemptsMade : Nat) : Bool :=
  isRetryable error && attemptsMade + 1 < maxAttempts

def schemaFailure (message : String) : ContentError :=
  .provider "CONTENT_SCHEMA_FAILURE" message false

/-- Charge for the items that were delivered. -/
def recordItems (ownerUserId packId : Uuid) (count : Nat) : Code Unit := do
  let claimKey := "content-pack:" ++ toString packId
  record ownerUserId count claimKey
  ask (.recordProviderCost ownerUserId .contentItem claimKey)

/-- The `try` block of `handleGenerate`. -/
def generateItems (around : Surroundings) (data : GenerateJobData) (pack : ContentPack) :
    Code Unit := do
  let cycle ← ask (.findCycle data.contentCycleId)
  let hasInputs ← ask (.hasInputs pack)
  match cycle.filter fun _ => hasInputs with
  | none => throw (schemaFailure ("Missing required data for pack " ++ toString pack.id))
  | some cycle =>
      assertAllowed cycle.ownerUserId 3
      let reply ← ask (.generate pack none)
      let _ ← markPackStatus pack.id .generating .validating
      let items ← check (around.normalize pack reply)
      require (!items.isEmpty)
        (schemaFailure ("Generated content pack " ++ toString pack.id ++ " has invalid item IDs."))
      persistGeneratedItems pack.id data.contentCycleId data.weekNumber items
      recordItems cycle.ownerUserId pack.id items.length

/-- Link the items to the posts that planned them. -/
def attachItems : List ContentPostPlan → List ContentItemVersionDraft → Code Unit
  | plan :: plans, item :: items => do
      ask (.attachGeneratedItem plan.contentWeekPlanId plan.input.position item.contentItemId)
      attachItems plans items
  | _, _ => pure ()

/-- The `try` block of `handleGenerateV2`. -/
def generateItemsV2 (data : GenerateJobData) (pack : ContentPack) (weekPlanId : Uuid) :
    Code Unit := do
  ask (.markPlans weekPlanId [.planned, .generating, .failed] .generating)
  let cycle ← ask (.findCycle data.contentCycleId)
  let weekPlan ← ask (.findPlan weekPlanId)
  let hasInputs ← ask (.hasInputs pack)
  match cycle.filter fun _ => hasInputs, weekPlan with
  | none, _ | _, none => throw (schemaFailure ("Missing required data for pack " ++ toString pack.id))
  | some cycle, some weekPlan =>
      match weekPlan.frozenInput with
      | none =>
          throw (schemaFailure ("Pack " ++ toString pack.id ++ " has no frozen input snapshot."))
      | some frozenInput =>
          assertAllowed cycle.ownerUserId 3
          let reply ← ask (.generate pack (some frozenInput))
          let _ ← markPackStatus pack.id .generating .validating
          require (reply.packId = pack.id)
            (schemaFailure "AI content service returned a mismatched v2 pack identity.")
          require (reply.itemVersions.length = frozenInput.postPlans.length &&
              3 ≤ reply.itemVersions.length)
            (schemaFailure "AI content service returned a plan-count mismatch.")
          persistGeneratedItems pack.id data.contentCycleId data.weekNumber reply.itemVersions
          attachItems (byPosition frozenInput.postPlans) reply.itemVersions
          recordItems cycle.ownerUserId pack.id reply.itemVersions.length

/-- Every error fails the pack, whatever it has reached; the queue sees the retryable ones. -/
def failGeneration (packId : Uuid) (attemptsMade : Nat) (error : ContentError)
    (failPlans : Code Unit) : Code Unit := do
  safeFail packId (retryEligibleAfter error attemptsMade)
  failPlans
  if isRetryable error then throw error

def handleGenerate (around : Surroundings) (data : GenerateJobData) (attemptsMade : Nat) :
    Code Unit := do
  match ← ask (.findPack data.contentPackId) with
  | none => pure ()
  | some pack =>
      let claimed ← ask (.claimPack pack.id)
      if claimed then
        appendProgressEvent pack.id "generating" .started eventAttempts
        tryCatch (generateItems around data pack)
          (failGeneration pack.id attemptsMade · (pure ()))

/-- A failure to mark the plans is logged only. -/
def markPlansFailed (weekPlanId : Uuid) : Code Unit :=
  tryCatch (ask (.markPlans weekPlanId [.planned, .generating] .failed)) fun _ => pure ()

/-- The plan of a pack of the second contract. -/
def ContentPack.planV2 (pack : ContentPack) : Option Uuid :=
  if pack.contractVersion = .contentV2 then pack.weekPlanId else none

def handleGenerateV2 (data : GenerateJobData) (attemptsMade : Nat) : Code Unit := do
  match ← ask (.findPack data.contentPackId) with
  | none => pure ()
  | some pack =>
      match pack.planV2 with
      | none =>
          throw (schemaFailure ("Pack " ++ toString pack.id ++
            " is not a content-v2 pack with a frozen plan."))
      | some weekPlanId =>
          let claimed ← ask (.claimPack pack.id)
          if claimed then
            appendProgressEvent pack.id "generating" .started eventAttempts
            tryCatch (generateItemsV2 data pack weekPlanId)
              (failGeneration pack.id attemptsMade · (markPlansFailed weekPlanId))

def process (around : Surroundings) (data : GenerateJobData) (attemptsMade : Nat) : Code Unit :=
  match data.contractVersion with
  | .contentV1 => handleGenerate around data attemptsMade
  | .contentV2 => handleGenerateV2 data attemptsMade

/-! ### The dispatcher -/

/-- Deliver leased intents to the queue. -/
def dispatch (leaseOwner : Uuid) (now : Instant) : List ContentJobOutbox → Code Unit
  | [] => pure ()
  | row :: rest => do
      tryCatch
        (do
          ask (.addJob row.jobId row.payload)
          let _ ← ask (.markDispatched row.id leaseOwner))
        fun _ => releaseForRetry row.id leaseOwner now
      dispatch leaseOwner now rest

/-- `ContentJobOutboxDispatcher.reconcile`; `leaseOwner` is drawn for the pass. -/
def reconcile (leaseOwner : Uuid) (now : Instant) : Code Unit := do
  let claimed ← claimDueJobs leaseOwner now
  dispatch leaseOwner now claimed

/-! ### The system of calls -/

inductive Call
  /-- A cycle of the first contract, from before the second. -/
  | createLegacyCycle (input : CreateContentCycleInput) (ownerUserId : Uuid)
  | createCycle (input : CreateContentCycleInput) (ownerUserId : Uuid)
      (initialWeekContext : WeekContextContent)
  | pauseCycle (id ownerUserId : Uuid) (reason : String)
  | resumeCycle (id ownerUserId : Uuid)
  | advanceToNextWeek (cycleId : Uuid) (expectedCurrentWeekNumber : Nat)
  | upsertOwnerContext (cycleId : Uuid) (week : Nat) (content : WeekContextContent)
  | upsertWeekContext (cycleId : Uuid) (week : Nat) (content : WeekContextContent)
      (ownerUserId : Uuid)
  | createOrReplaceWeekPlan (cycleId : Uuid) (week : Nat) (postPlans : List PostPlanInput)
      (ownerUserId : Uuid)
  | claimQueuedPack (cycleId : Uuid) (week : Nat) (weekContextId : Uuid) (jobIntent : Bool)
  | claimQueuedPackV2 (input : ClaimInput)
  | generateWeek (cycleId : Uuid) (week : Nat) (ownerUserId : Uuid)
  | retryPack (id ownerUserId correlationId : Uuid)
  | regenerateFailedPack (id ownerUserId correlationId : Uuid)
  /-- A worker runs an active job. -/
  | process (data : GenerateJobData) (attemptsMade : Nat)
  | turnJob (jobId : JobId) (state : JobState)
  | reconcile (leaseOwner : Uuid) (now : Instant)
  | createProposal (row : OptimizationProposal)
  | createDecision (input : CreateOptimizationDecisionInput)
  | spendElsewhere (userId : Uuid) (metric : BillingMetric) (units : Int) (claimKey : String)
  | topUp (account : Uuid) (request : Billing.TopUpRequest)
deriving DecidableEq

def Call.program (around : Surroundings) : Call → Code Unit
  | createLegacyCycle input ownerUserId => (ask (.createCycle input ownerUserId)).discard
  | createCycle input ownerUserId initialWeekContext =>
      (createCycleWithWeekOne input ownerUserId initialWeekContext).discard
  | pauseCycle id ownerUserId reason => Content.pauseCycle id ownerUserId reason
  | resumeCycle id ownerUserId => Content.resumeCycle id ownerUserId
  | advanceToNextWeek cycleId expectedCurrentWeekNumber =>
      Content.advanceToNextWeek cycleId expectedCurrentWeekNumber
  | upsertOwnerContext cycleId week content =>
      (Content.upsertOwnerContext cycleId week content).discard
  | upsertWeekContext cycleId week content ownerUserId =>
      (Content.upsertWeekContext cycleId week content ownerUserId).discard
  | createOrReplaceWeekPlan cycleId week postPlans ownerUserId =>
      (Content.createOrReplaceWeekPlan cycleId week postPlans ownerUserId).discard
  | claimQueuedPack cycleId week weekContextId jobIntent =>
      (Content.claimQueuedPack cycleId week weekContextId jobIntent).discard
  | claimQueuedPackV2 input => (Content.claimQueuedPackV2 input).discard
  | generateWeek cycleId week ownerUserId => (Content.generateWeek cycleId week ownerUserId).discard
  | retryPack id ownerUserId correlationId => Content.retryPack id ownerUserId correlationId
  | regenerateFailedPack id ownerUserId correlationId =>
      Content.regenerateFailedPack id ownerUserId correlationId
  | process data attemptsMade => Content.process around data attemptsMade
  | turnJob jobId state => ask (.turnJob jobId state)
  | reconcile leaseOwner now => Content.reconcile leaseOwner now
  | createProposal row => ask (.createProposal row)
  | createDecision input => Content.createDecision input
  | spendElsewhere userId metric units claimKey =>
      ask (.spendElsewhere userId metric units claimKey)
  | topUp account request => ask (.topUp account request)

/-- A worker takes up an active job, and the services a cycle for the contract in force; other
services charge their own metrics; a top-up is validated before the service sees it. -/
def Call.enabled : Call → World → Bool
  | createLegacyCycle input _, _ => input.contractVersion = .contentV1
  | createCycle input _ _, _ => input.contractVersion = .contentV2
  | process data attemptsMade, world =>
      world.jobs.any fun job =>
        job.data = data && job.attemptsMade = attemptsMade && job.state = .active
  | spendElsewhere _ metric _ _, _ => metric ≠ .contentItem
  | topUp _ request, _ => request.valid
  | _, _ => true

/-- The content services over their database. -/
def system (around : Surroundings) : System content World Key Call where
  toStore := store around
  program := Call.program around
  enabled := Call.enabled

/-! ### A week -/

/-- Three drafts for each pack. -/
def plainReply (pack : ContentPack) : GeneratedReply where
  packId := pack.id
  itemVersions := [0, 1, 2].map fun position =>
    { id := 10 * pack.id + position
      contentItemId := 10 * pack.id + position
      channel := "facebook"
      format := "text_post"
      assetRequired := false
      assetIds := []
      versionChecksum := ""
      body := .null }

/-- One channel and one format, and an AI service that answers. -/
def plainSurroundings : Surroundings where
  libraries _ _ _ := ⟨["facebook"], ["text_post"], [], []⟩
  safeDefault _ _ := structuralContent
  hasInputs _ _ := true
  generate _ pack _ := .ok (plainReply pack)
  normalize _ reply := .ok reply.itemVersions
  circuitOpen _ _ := false

def plainCycle (contractVersion : ContractVersion) : CreateContentCycleInput :=
  ⟨contractVersion, 7, 3, 1, 4, 5⟩

/-- Posts for `positions`, planned by their owner. -/
def plainPosts (purpose : String) (positions : List Nat) : List PostPlanInput :=
  positions.map fun position =>
    { position
      purpose
      intendedAudience := none
      channel := "facebook"
      format := "text_post"
      ctaLibraryEntryId := none
      ownerInstructions := none
      visualDirection := none
      selectedMediaIds := []
      source := .owner }

def steps (pid : Pid) (count : Nat) : List (Move Call) := List.replicate count (.step pid 0)

/-- A call that runs by itself. -/
def alone (pid : Pid) (call : Call) (count : Nat) : List (Move Call) :=
  .issue pid call :: steps pid count

/-- The owner 8 of business 7 plans the first week of a cycle. -/
def plannedMoves : List (Move Call) :=
  alone 0 (.createCycle (plainCycle .contentV2) 8 structuralContent) 4 ++
  alone 1 (.createOrReplaceWeekPlan 0 1 (plainPosts "news" [1, 2, 3]) 8) 8

/-- The week is claimed and its job is on the queue. -/
def queuedMoves : List (Move Call) := plannedMoves ++ alone 2 (.generateWeek 0 1 8) 23

/-- The job of the week has delivered its pack. -/
def deliveredMoves : List (Move Call) :=
  queuedMoves ++ alone 3 (.turnJob (.generate .contentV2 0) .active) 1 ++
  alone 4 (.process ⟨.contentV2, 0, 1, 0⟩ 0) 33

end MarketMind.Content
