import MarketMind.Content.Repository

/-!
Owns the requests of an owner about a week of content: its context, its generation, and the
retry of a pack that failed.

Does not own the jobs that the requests enqueue.
-/

namespace MarketMind.Content

open MarketMind.Transactions

/-! ### Guards -/

def assertCycleActive (cycle : ContentCycle) : Code Unit := do
  require (cycle.status ≠ .paused)
    (.conflict "CONTENT_CYCLE_PAUSED"
      "The content cycle is paused; resume it before updating week context.")
  require (cycle.status ≠ .completed)
    (.conflict "CONTENT_CYCLE_COMPLETED"
      "The content cycle is completed; week context cannot be updated.")

def assertWeekNumberInRange (week : Nat) : Code Unit :=
  require (1 ≤ week && week ≤ contentWeekCount)
    (.badRequest (some "CONTENT_WEEK_OUT_OF_RANGE")
      ("Week number must be between 1 and 12 (received " ++ toString week ++ ")."))

def getCycleByIdAndOwner (id ownerUserId : Uuid) : Code ContentCycle := do
  match (← ask (.findCycle id)).filter (·.ownerUserId = ownerUserId) with
  | none => throw (.notFound "Content cycle not found")
  | some cycle => return cycle

def hasPackForWeek (cycleId : Uuid) (week : Nat) : Code Bool := do
  return (← ask (.findPackOfWeek cycleId week)).isSome

/-- `billingEntitlements.assertAllowed` -/
def assertAllowed (userId : Uuid) (requested : Int) : Code Unit := do
  match ← ask (.assertAllowed userId .contentItem requested) with
  | .ok () => pure ()
  | .error error => throw (.billing error)

/-- `billingEntitlements.record` -/
def record (userId : Uuid) (units : Int) (claimKey : String) : Code Unit := do
  match ← ask (.spendPoints userId .contentItem units claimKey) with
  | .ok () => pure ()
  | .error error => throw (.billing error)

/-! ### The context of a week -/

def upsertWeekContext (cycleId : Uuid) (week : Nat) (content : WeekContextContent)
    (ownerUserId : Uuid) : Code ContentWeekContext := do
  let cycle ← getCycleByIdAndOwner cycleId ownerUserId
  assertCycleActive cycle
  assertWeekNumberInRange week
  let existing ← ask (.findContextOfWeek cycleId week)
  require (!existing.any ContentWeekContext.isClosed)
    (.conflict "CONTENT_WEEK_ALREADY_CLAIMED"
      ("Week " ++ toString week ++ " was already claimed by the system safe default."))
  let packExists ← hasPackForWeek cycleId week
  require (!packExists)
    (.conflict "CONTENT_WEEK_ALREADY_CLAIMED"
      ("Week " ++ toString week ++
        " context is frozen; a content pack has already been generated."))
  upsertOwnerContext cycleId week content

def safeDefaultWeekContext (cycleId : Uuid) (week : Nat) : Code ContentWeekContext := do
  match ← ask (.findCycle cycleId) with
  | none => throw (.notFound "Content cycle not found")
  | some cycle =>
      assertWeekNumberInRange week
      let hasPack ← hasPackForWeek cycleId week
      require (hasPack || isNextEligible cycle week)
        (.conflict "CONTENT_WEEK_ALREADY_CLAIMED"
          ("Week " ++ toString week ++ " is not eligible for a safe-default claim."))
      createSafeDefaultContext cycleId week

/-! ### Generation -/

/-- Put the job on the queue and close its intent. -/
def enqueue (jobId : JobId) (data : GenerateJobData) : Code Unit := do
  ask (.addJob jobId data)
  let _ ← ask (.markDirectDispatched jobId)

/-- No worker picked the pack up yet. -/
def ContentPack.isUntouched (pack : ContentPack) : Bool := pack.status = .queued && pack.itemIds = []

/-- The context of the week, or the safe default. -/
def resolveContext (cycleId : Uuid) (week : Nat) : Code Uuid := do
  match ← ask (.findContextOfWeek cycleId week) with
  | some existing => return existing.id
  | none => return (← safeDefaultWeekContext cycleId week).id

/-- `ContentService.generateWeek` for a cycle of the first contract. -/
def generateWeekV1 (cycle : ContentCycle) (cycleId : Uuid) (week : Nat) (ownerUserId : Uuid) :
    Code ContentPack := do
  assertCycleActive cycle
  assertWeekNumberInRange week
  assertAllowed ownerUserId 3
  let existingPack ← hasPackForWeek cycleId week
  require (existingPack || isNextEligible cycle week)
    (.conflict "CONTENT_WEEK_ALREADY_CLAIMED"
      ("Week " ++ toString week ++ " is not the exact next eligible Content week."))
  let weekContextId ← resolveContext cycleId week
  let (pack, created) ← claimQueuedPack cycleId week weekContextId true
  let jobId := JobId.generate .contentV1 pack.id
  let payload : GenerateJobData := ⟨.contentV1, cycleId, week, pack.id⟩
  createIntent jobId payload
  if created then
    enqueue jobId payload
    appendProgressEvent pack.id "queued" .started eventAttempts
  else if pack.isUntouched then enqueue jobId payload
  return pack

/-- The formats of the posts that an instruction may be about. -/
def formatCohortsOf (postPlans : List ContentPostPlan) : List OptimizationFormat :=
  [OptimizationFormat.textPost, .staticImagePost].filter fun format =>
    postPlans.any fun plan => plan.input.format = format.text

/-- The instruction that the pack is to follow. -/
def findInstructionFor (cycle : ContentCycle) (postPlans : List ContentPostPlan) :
    Code (Option ApprovedOptimizationInstruction) :=
  if postPlans.any fun plan => plan.input.source = .owner then
    findPendingInstruction cycle (formatCohortsOf postPlans)
  else pure none

/-- What `generateWeek` freezes of the plan that it has read. -/
def frozenInputOf (cycleId : Uuid) (week : Nat) (weekPlan : WeekPlanWithPosts)
    (context : ContentWeekContext) (instruction : Option ApprovedOptimizationInstruction) :
    FrozenInput where
  weekPlanId := weekPlan.plan.id
  contentCycleId := cycleId
  weekNumber := week
  postPlans := byPosition weekPlan.postPlans
  optimizationGuidance := instruction.map ApprovedOptimizationInstruction.guidance
  weeklyClaimId := context.weeklyClaimId

/-- What `generateWeek` asks of the claim. -/
def claimInputOf (cycleId : Uuid) (week : Nat) (weekPlan : WeekPlanWithPosts)
    (context : ContentWeekContext) (instruction : Option ApprovedOptimizationInstruction) :
    ClaimInput where
  cycleId
  weekNumber := week
  weekContextId := context.id
  weekPlanId := weekPlan.plan.id
  frozenInput := frozenInputOf cycleId week weekPlan context instruction
  optimizationInstructionId := instruction.map ApprovedOptimizationInstruction.id
  jobIntent := true

/-- Claim the week for the plan that was read, and enqueue its job. -/
def claimAndEnqueue (cycleId : Uuid) (week : Nat) (weekPlan : WeekPlanWithPosts)
    (context : ContentWeekContext) (instruction : Option ApprovedOptimizationInstruction) :
    Code ContentPack := do
  let (pack, created) ←
    claimQueuedPackV2 (claimInputOf cycleId week weekPlan context instruction)
  let jobId := JobId.generate .contentV2 pack.id
  let payload : GenerateJobData := ⟨.contentV2, cycleId, week, pack.id⟩
  if created then enqueue jobId payload
  else if pack.isUntouched then ask (.addJob jobId payload)
  return pack

/-- `ContentV2Service.generateWeek` -/
def generateWeekV2 (cycle : ContentCycle) (cycleId : Uuid) (week : Nat) (ownerUserId : Uuid) :
    Code ContentPack := do
  require (cycle.status ≠ .paused)
    (.badRequest (some "CONTENT_CYCLE_PAUSED") "Content cycle is paused; cannot generate.")
  require (cycle.status ≠ .completed)
    (.badRequest (some "CONTENT_CYCLE_COMPLETED") "Content cycle is completed; cannot generate.")
  require (week = cycle.currentWeekNumber)
    (.conflict "CONTENT_WEEK_ALREADY_CLAIMED"
      ("Week " ++ toString week ++ " is not the current actionable Content week."))
  let weekPlan ← getWeekPlan cycleId week ownerUserId
  let libraries ← ask (.libraries cycleId week)
  let weekContext ← ask (.findContextOfWeek cycleId week)
  match weekPlan.filter (·.plan.status = .draft) with
  | none =>
      throw (.badRequest (some "CONTENT_V2_REQUIRED")
        ("Plan week " ++ toString week ++ " before requesting generation."))
  | some weekPlan =>
      require (3 ≤ weekPlan.postPlans.length)
        (.badRequest (some "CONTENT_SCHEMA_FAILURE")
          ("Week " ++ toString week ++ " has fewer than three planned posts."))
      match weekContext with
      | none =>
          throw (.badRequest (some "CONTENT_SCHEMA_FAILURE")
            ("Week " ++ toString week ++ " context is missing."))
      | some context =>
          check (validatePostPlans libraries (weekPlan.postPlans.map ContentPostPlan.input))
          let instruction ← findInstructionFor cycle weekPlan.postPlans
          claimAndEnqueue cycleId week weekPlan context instruction

/-- `generateWeek` reads the cycle again in the service of its contract. -/
def generateWeek (cycleId : Uuid) (week : Nat) (ownerUserId : Uuid) : Code ContentPack := do
  let cycle ← getCycleByIdAndOwner cycleId ownerUserId
  match cycle.contractVersion with
  | .contentV1 => generateWeekV1 cycle cycleId week ownerUserId
  | .contentV2 =>
      let cycle ← getCycleByIdAndOwner cycleId ownerUserId
      generateWeekV2 cycle cycleId week ownerUserId

/-! ### Retries -/

/-- From failed back to queued, together with the intent of the new job. -/
def requeue (packId : Uuid) (retryEligible : Option Bool) (jobId : JobId)
    (payload : GenerateJobData) (conflict : ContentError) : Code Unit :=
  Program.transaction do
    let changed ← markPackStatus packId .failed .queued
    require changed conflict
    match retryEligible with
    | none => pure ()
    | some retryEligible => ask (.setRetryEligible packId retryEligible)
    createIntent jobId payload

/-- `correlationId` is drawn for the request. -/
def retryPack (id ownerUserId correlationId : Uuid) : Code Unit := do
  match ← ask (.findPackOfOwner id ownerUserId) with
  | none => throw (.notFound "Content pack not found")
  | some pack =>
      require (pack.status = .failed)
        (.badRequest (some "CONTENT_PACK_NOT_FAILED") "Only a failed content pack can be retried.")
      require pack.retryEligible
        (.badRequest (some "CONTENT_RETRY_NOT_ALLOWED")
          "This content pack is not eligible for retry.")
      let jobId := JobId.retry pack.id correlationId
      let payload := pack.jobData pack.contractVersion
      requeue pack.id none jobId payload
        (.badRequest (some "CONTENT_PACK_RETRY_CONFLICT")
          "The content pack is no longer failed; a retry is already in progress.")
      enqueue jobId payload
      appendProgressEvent pack.id "queued" .started eventAttempts

/-- The pack of the owner with its cycle, as `include` joins them: two queries. -/
def getPackOrThrow (packId ownerUserId : Uuid) : Code (ContentPack × ContentCycle) := do
  match ← ask (.findPack packId) with
  | none => throw (.notFound "Content pack not found")
  | some pack =>
      match (← ask (.findCycle pack.contentCycleId)).filter (·.ownerUserId = ownerUserId) with
      | none => throw (.notFound "Content pack not found")
      | some cycle =>
          require (pack.contractVersion = .contentV2)
            (.badRequest (some "CONTENT_V2_REQUIRED")
              "This legacy Content v1 pack is quarantined from the active V2 workflow. Start a new content-v2 cycle.")
          return (pack, cycle)

/-- The code of a week that can no longer be generated. -/
def unavailableCode : CycleStatus → String
  | .paused => "CONTENT_CYCLE_PAUSED"
  | .completed => "CONTENT_CYCLE_COMPLETED"
  | .active => "CONTENT_WEEK_ALREADY_CLAIMED"

/-- The plan of a failed pack is still frozen with its input. -/
def assertFrozenPlan (weekPlanId : Option Uuid) : Code Unit := do
  match weekPlanId with
  | none =>
      throw (.badRequest (some "CONTENT_SCHEMA_FAILURE")
        "The failed Content pack has no frozen week plan.")
  | some weekPlanId =>
      let weekPlan ← ask (.findPlan weekPlanId)
      require (weekPlan.any fun row => row.status = .frozen && row.frozenInput.isSome)
        (.badRequest (some "CONTENT_SCHEMA_FAILURE")
          "The failed Content pack no longer has a valid frozen input.")

/-- `correlationId` is drawn for the request. -/
def regenerateFailedPack (packId ownerUserId correlationId : Uuid) : Code Unit := do
  let (pack, cycle) ← getPackOrThrow packId ownerUserId
  require (pack.status = .failed)
    (.badRequest (some "CONTENT_PACK_NOT_FAILED")
      "Only a failed Content pack can start a fresh generation.")
  require (cycle.status = .active && pack.weekNumber = cycle.currentWeekNumber)
    (.badRequest (some (unavailableCode cycle.status))
      "This Content week is no longer available for generation.")
  require (pack.itemIds = [])
    (.badRequest (some "CONTENT_APPROVAL_BLOCKED")
      "A pack containing saved drafts cannot be regenerated.")
  assertFrozenPlan pack.weekPlanId
  let jobId := JobId.regenerate pack.id correlationId
  let payload := pack.jobData .contentV2
  requeue pack.id (some false) jobId payload
    (.conflict "CONTENT_PACK_RETRY_CONFLICT" "A fresh generation is already in progress.")
  enqueue jobId payload
  appendProgressEvent pack.id "queued" .started eventAttempts

end MarketMind.Content
