import Mathlib.Algebra.Group.Int.Defs
import MarketMind.Content.Store

/-!
Owns the content repositories: the claims of a week, its contexts and plans, the persistence of
generated items, the decisions on optimizations, and the outbox of jobs.

Does not own when the services and the worker call them.
-/

namespace MarketMind.Content

open MarketMind.Transactions
open MarketMind.Publishing.Contract (isWhiteSpace)

/-- Code of the content services. -/
abbrev Code (α : Type) := Program content α

/-- Execute one statement. -/
abbrev ask (asked : Statement) : Code asked.Reply := @Program.ask content asked

/-- Throw unless the condition holds. -/
def require (condition : Bool) (error : ContentError) : Code Unit :=
  if condition then pure () else throw error

/-- A check that needs no database. -/
def check {α : Type} (checked : Except ContentError α) : Code α := .done checked

/-- `findUniqueOrThrow` -/
def orThrow {α : Type} : Option α → Code α
  | none => throw .recordNotFound
  | some row => pure row

/-! ### Claims of a week -/

def assertWeekInRange (week : Nat) : Code Unit :=
  require (1 ≤ week && week ≤ contentWeekCount)
    (.badRequest none "Content week must be between 1 and 12.")

/-- The row of a new pack; the database gives it its identity. -/
def packRow (cycle : ContentCycle) (cycleId : Uuid) (week : Nat) (weekContext : ContentWeekContext)
    (weekContextId : Uuid) (contractVersion : ContractVersion) (weekPlanId : Option Uuid) :
    ContentPack where
  id := 0
  contractVersion
  contentCycleId := cycleId
  weeklyClaimId := weekContext.weeklyClaimId
  weekNumber := week
  businessId := cycle.businessId
  strategyId := cycle.strategyId
  strategyVersion := cycle.strategyVersion
  strategyDecisionId := cycle.strategyDecisionId
  profileVersionId := cycle.profileVersionId
  weekContextId
  weekPlanId
  status := .queued
  retryEligible := true
  itemIds := []

/-- What a generate job is told. -/
def ContentPack.jobData (pack : ContentPack) (contractVersion : ContractVersion) :
    GenerateJobData where
  contractVersion
  contentCycleId := pack.contentCycleId
  weekNumber := pack.weekNumber
  contentPackId := pack.id

/-- The claim did not win: the pack of the week, if that is why. -/
def resolveClaim (cycleId : Uuid) (week : Nat) (error : ContentError) :
    Code (ContentPack × Bool) := do
  if isUniqueViolation error then
    match ← ask (.findPackOfWeek cycleId week) with
    | some existing => return (existing, false)
    | none => throw error
  else throw error

/-- Week 1, or the week after the current one. -/
def isNextEligible (cycle : ContentCycle) (week : Nat) : Bool :=
  week = 1 && cycle.currentWeekNumber = 1 || week = cycle.currentWeekNumber + 1

def assertPreviousWeekComplete (cycleId : Uuid) (week : Nat) : Code Unit := do
  if week > 1 then
    let previousPack ← ask (.findPackOfWeek cycleId (week - 1))
    require (previousPack.any fun pack => isCompletedPackStatus pack.status)
      (.badRequest none ("Week " ++ toString (week - 1) ++ " is not complete; cannot claim week " ++
        toString week ++ "."))
  else pure ()

/-- The transaction of `claimQueuedPack`; the flag tells who won the claim. -/
def queuePack (cycleId : Uuid) (week : Nat) (weekContextId : Uuid) (jobIntent : Bool) :
    Code (ContentPack × Bool) := do
  ask (.lockCycle cycleId)
  match ← ask (.findPackOfWeek cycleId week) with
  | some existing => return (existing, false)
  | none =>
      let cycle ← orThrow (← ask (.findCycle cycleId))
      require (cycle.status = .active)
        (.badRequest none ("Content cycle " ++ toString cycleId ++
          " is not active; cannot claim week " ++ toString week ++ "."))
      require (isNextEligible cycle week)
        (.badRequest none ("Week " ++ toString week ++
          " is not the exact next eligible week for cycle " ++ toString cycleId ++ "."))
      assertPreviousWeekComplete cycleId week
      let weekContext ← orThrow (← ask (.findContext weekContextId))
      require (weekContext.ofWeek cycleId week)
        (.badRequest none ("Week context " ++ toString weekContextId ++
          " does not belong to cycle " ++ toString cycleId ++ " week " ++ toString week ++ "."))
      let frozen ← ask (.freezeContext weekContextId cycleId week)
      require (frozen && weekContext.frozenAt.isNone)
        (.badRequest none
          ("Week " ++ toString week ++ " context is already frozen or unavailable."))
      let createdPack ←
        ask (.createPack (packRow cycle cycleId week weekContext weekContextId .contentV1 none))
      if jobIntent then
        ask (.createIntent (.generate .contentV1 createdPack.id) (createdPack.jobData .contentV1))
      ask (.updateCycle cycleId (some week))
      return (createdPack, true)

def claimQueuedPack (cycleId : Uuid) (week : Nat) (weekContextId : Uuid) (jobIntent : Bool) :
    Code (ContentPack × Bool) := do
  assertWeekInRange week
  tryCatch (Program.transaction (queuePack cycleId week weekContextId jobIntent))
    (resolveClaim cycleId week)

structure ClaimInput where
  cycleId : Uuid
  weekNumber : Nat
  weekContextId : Uuid
  weekPlanId : Uuid
  frozenInput : FrozenInput
  optimizationInstructionId : Option Uuid
  jobIntent : Bool
deriving DecidableEq

/-- `readFrozenOptimizationGuidance`: a blank instruction is none. -/
def readFrozenOptimizationGuidance (frozenInput : FrozenInput) : Option OptimizationGuidance :=
  frozenInput.optimizationGuidance.filter fun guidance =>
    !guidance.instruction.toList.all isWhiteSpace

/-- An owner planned one of the posts, and the instruction is about the format of one. -/
def isEligibleFor (guidance : OptimizationGuidance) (plans : List ContentPostPlan) : Bool :=
  plans.any (fun plan => plan.input.source = .owner) &&
    plans.any fun plan => plan.input.format = guidance.formatCohort.text

def instructionConflict (message : String) : ContentError :=
  .conflict "OPTIMIZATION_INSTRUCTION_CONFLICT" message

/-- Mark the instruction as consumed by the new pack. -/
def consumeInstruction (cycle : ContentCycle) (input : ClaimInput) (packId instructionId : Uuid) :
    Code Unit := do
  match readFrozenOptimizationGuidance input.frozenInput with
  | none =>
      throw (instructionConflict
        "The frozen Content V2 input does not carry the requested approved instruction.")
  | some guidance =>
      require (guidance.instructionId = instructionId)
        (instructionConflict
          "The frozen Content V2 input does not carry the requested approved instruction.")
      require (isEligibleFor guidance input.frozenInput.postPlans)
        (.conflict "OPTIMIZATION_INSTRUCTION_NOT_ELIGIBLE"
          "The approved instruction is not eligible for this owner-planned week.")
      let instruction ← ask (.findInstruction instructionId)
      require (instruction.any fun row => row.pendingFor cycle && row.guidance = guidance)
        (instructionConflict
          "The approved instruction identity no longer matches the current Content V2 claim.")
      let consumed ← ask (.consumeInstruction instructionId cycle guidance.formatCohort
        guidance.evidenceChecksum packId input.weekPlanId)
      require consumed
        (instructionConflict "The approved instruction was consumed by another Content V2 claim.")

def consumeIfAsked (cycle : ContentCycle) (input : ClaimInput) (packId : Uuid) : Code Unit :=
  match input.optimizationInstructionId with
  | none => pure ()
  | some instructionId => consumeInstruction cycle input packId instructionId

/-- The code of a claim that the status of the cycle rules out. -/
def inactiveCode : CycleStatus → String
  | .paused => "CONTENT_CYCLE_PAUSED"
  | .completed => "CONTENT_CYCLE_COMPLETED"
  | .active => "CONTENT_SCHEMA_FAILURE"

def alreadyClaimed (message : String) : ContentError :=
  .badRequest (some "CONTENT_WEEK_ALREADY_CLAIMED") message

/-- The transaction of `claimQueuedPackV2`. -/
def queuePackV2 (input : ClaimInput) : Code (ContentPack × Bool) := do
  ask (.lockCycle input.cycleId)
  match ← ask (.findPackOfWeek input.cycleId input.weekNumber) with
  | some existing => return (existing, false)
  | none =>
      let cycle ← orThrow (← ask (.findCycle input.cycleId))
      require (cycle.status = .active)
        (.badRequest (some (inactiveCode cycle.status)) ("Content cycle " ++
          toString input.cycleId ++ " is not active; cannot claim week " ++
          toString input.weekNumber ++ "."))
      require (input.weekNumber = cycle.currentWeekNumber)
        (alreadyClaimed ("Week " ++ toString input.weekNumber ++
          " is not the current actionable week for cycle " ++ toString input.cycleId ++ "."))
      let weekContext ← orThrow (← ask (.findContext input.weekContextId))
      require (weekContext.ofWeek input.cycleId input.weekNumber)
        (.badRequest (some "CONTENT_SCHEMA_FAILURE") ("Week context " ++
          toString input.weekContextId ++ " does not belong to cycle " ++
          toString input.cycleId ++ " week " ++ toString input.weekNumber ++ "."))
      let frozenPlan ←
        ask (.freezePlan input.weekPlanId input.cycleId input.weekNumber input.frozenInput)
      require frozenPlan
        (alreadyClaimed ("Week " ++ toString input.weekNumber ++
          " plan is already frozen or missing; cannot claim."))
      let frozen ← ask (.freezeContext input.weekContextId input.cycleId input.weekNumber)
      require (frozen && weekContext.frozenAt.isNone)
        (alreadyClaimed ("Week " ++ toString input.weekNumber ++
          " context is already frozen or unavailable."))
      let createdPack ← ask (.createPack (packRow cycle input.cycleId input.weekNumber weekContext
        input.weekContextId .contentV2 (some input.weekPlanId)))
      consumeIfAsked cycle input createdPack.id
      if input.jobIntent then
        ask (.createIntent (.generate .contentV2 createdPack.id) (createdPack.jobData .contentV2))
      ask (.updateCycle input.cycleId none)
      return (createdPack, true)

def claimQueuedPackV2 (input : ClaimInput) : Code (ContentPack × Bool) := do
  assertWeekInRange input.weekNumber
  tryCatch (Program.transaction (queuePackV2 input)) (resolveClaim input.cycleId input.weekNumber)

/-! ### Cycles -/

/-- The transaction of `createCycleWithWeekOne`, which leaves the first week to its owner. -/
def createCycleWithWeekOne (input : CreateContentCycleInput) (ownerUserId : Uuid)
    (initialWeekContext : WeekContextContent) : Code ContentCycle :=
  Program.transaction do
    let cycle ← ask (.createCycle input ownerUserId)
    let _ ← ask (.createContext cycle.id 1 .ownerConfirmed initialWeekContext)
    return cycle

def pauseCycle (id ownerUserId : Uuid) (reason : String) : Code Unit :=
  Program.transaction do
    let cycle ← ask (.findCycle id)
    require (cycle.any (·.ownerUserId = ownerUserId)) (.notFound "Content cycle not found")
    let paused ← ask (.pauseCycle id ownerUserId reason)
    require paused (.badRequest none "Content cycle is not active; cannot pause")

def resumeCycle (id ownerUserId : Uuid) : Code Unit :=
  Program.transaction do
    let cycle ← ask (.findCycle id)
    require (cycle.any (·.ownerUserId = ownerUserId)) (.notFound "Content cycle not found")
    let resumed ← ask (.resumeCycle id ownerUserId)
    require resumed (.badRequest none "Content cycle is not paused; cannot resume")

/-- The context of the next week, unless there is one. -/
def prepareNextWeek (cycleId : Uuid) (nextWeek : Nat) : Code Unit := do
  match ← ask (.findContextOfWeek cycleId nextWeek) with
  | some _ => pure ()
  | none =>
      let _ ← ask (.createContext cycleId nextWeek .systemDefaulted structuralContent)

/-- The transaction of `advanceToNextWeek`. -/
def rollOver (cycleId : Uuid) (expectedCurrentWeekNumber : Nat) : Code Unit := do
  ask (.lockCycle cycleId)
  let cycle ← orThrow (← ask (.findCycle cycleId))
  if cycle.status ≠ .active ∨ cycle.contractVersion ≠ .contentV2 then pure ()
  else if cycle.currentWeekNumber ≠ expectedCurrentWeekNumber then pure ()
  else if cycle.currentWeekNumber ≥ contentWeekCount then ask (.completeCycle cycleId none)
  else
    let advanced ← ask (.advanceCycle cycleId cycle.currentWeekNumber)
    if advanced then prepareNextWeek cycleId (cycle.currentWeekNumber + 1)

def advanceToNextWeek (cycleId : Uuid) (expectedCurrentWeekNumber : Nat) : Code Unit :=
  Program.transaction (rollOver cycleId expectedCurrentWeekNumber)

/-! ### Week contexts -/

def contextFrozen (week : Nat) : ContentError :=
  .conflict "CONTENT_WEEK_ALREADY_CLAIMED"
    ("Week " ++ toString week ++ " context is frozen and cannot be changed.")

/-- An owner may no longer change the context. -/
def ContentWeekContext.isClosed (context : ContentWeekContext) : Bool :=
  context.contextSource = .systemDefaulted || context.frozenAt.isSome

/-- Another request created the context first. -/
def takeCreatedContext (cycleId : Uuid) (week : Nat) (error : ContentError) :
    Code ContentWeekContext := do
  require (isUniqueViolation error) error
  let claimed ← orThrow (← ask (.findContextOfWeek cycleId week))
  require (!claimed.isClosed) (contextFrozen week)
  return claimed

/-- The transaction of `upsertOwnerContext`. -/
def putContext (cycleId : Uuid) (week : Nat) (content : WeekContextContent) :
    Code ContentWeekContext := do
  let cycle ← ask (.findCycle cycleId)
  require cycle.isSome (.notFound "Content cycle not found")
  match ← ask (.findContextOfWeek cycleId week) with
  | none =>
      tryCatch (ask (.createContext cycleId week .ownerConfirmed content))
        (takeCreatedContext cycleId week)
  | some existing =>
      require (!existing.isClosed) (contextFrozen week)
      let updated ← ask (.updateContext existing.id content)
      require updated (contextFrozen week)
      orThrow (← ask (.findContext existing.id))

def upsertOwnerContext (cycleId : Uuid) (week : Nat) (content : WeekContextContent) :
    Code ContentWeekContext :=
  Program.transaction (putContext cycleId week content)

/-- One insert has the week; every other finds its row. -/
def claimWeek (cycleId : Uuid) (week : Nat) (content : WeekContextContent) :
    Code ContentWeekContext :=
  tryCatch (ask (.createContext cycleId week .systemDefaulted content)) fun error => do
    require (isUniqueViolation error) error
    match ← ask (.findContextOfWeek cycleId week) with
    | some existing => return existing
    | none => throw error

def createSafeDefaultContext (cycleId : Uuid) (week : Nat) : Code ContentWeekContext := do
  let cycle ← ask (.findCycle cycleId)
  require cycle.isSome (.notFound "Content cycle not found")
  let content ← ask (.safeDefault cycleId)
  claimWeek cycleId week content

/-! ### Week plans -/

/-- A plan with its posts, as `include` joins them: two queries. -/
structure WeekPlanWithPosts where
  plan : ContentWeekPlan
  postPlans : List ContentPostPlan

def includePostPlans : Option ContentWeekPlan → Code (Option WeekPlanWithPosts)
  | none => pure none
  | some plan => do
      let postPlans ← ask (.findPostPlans plan.id)
      return some ⟨plan, postPlans⟩

def assertCycleOwned (cycleId ownerUserId : Uuid) : Code Unit := do
  let cycle ← ask (.findCycle cycleId)
  require (cycle.any (·.ownerUserId = ownerUserId)) (.notFound "Content cycle not found")

def getWeekPlan (cycleId : Uuid) (week : Nat) (ownerUserId : Uuid) :
    Code (Option WeekPlanWithPosts) :=
  Program.transaction do
    assertCycleOwned cycleId ownerUserId
    includePostPlans (← ask (.findPlanOfWeek cycleId week))

def assertOrdered (postPlans : List PostPlanInput) : Code Unit := do
  require (3 ≤ postPlans.length && postPlans.length ≤ 5)
    (.badRequest (some "CONTENT_SCHEMA_FAILURE")
      "A week plan must contain exactly 3–5 post plans.")
  require (postPlans.map PostPlanInput.position = [1, 2, 3, 4, 5].take postPlans.length)
    (.badRequest (some "CONTENT_SCHEMA_FAILURE") "Post plans must be ordered 1..N without gaps.")

/-- The transaction of `createOrReplaceWeekPlan`. -/
def replacePlan (cycleId : Uuid) (week : Nat) (postPlans : List PostPlanInput)
    (ownerUserId : Uuid) : Code (Option WeekPlanWithPosts) := do
  assertCycleOwned cycleId ownerUserId
  match ← includePostPlans (← ask (.findPlanOfWeek cycleId week)) with
  | some ⟨existing, _⟩ =>
      require (existing.status ≠ .frozen)
        (alreadyClaimed ("Week " ++ toString week ++
          " is frozen for generation; the plan cannot be replaced."))
      ask (.deletePostPlans existing.id)
      ask (.reopenPlan existing.id)
      ask (.createPostPlans existing.id postPlans)
      includePostPlans (← ask (.findPlan existing.id))
  | none =>
      let created ← ask (.createPlan cycleId week)
      ask (.createPostPlans created.id postPlans)
      includePostPlans (← ask (.findPlan created.id))

def createOrReplaceWeekPlan (cycleId : Uuid) (week : Nat) (postPlans : List PostPlanInput)
    (ownerUserId : Uuid) : Code (Option WeekPlanWithPosts) := do
  assertOrdered postPlans
  Program.transaction (replacePlan cycleId week postPlans ownerUserId)

/-! ### Packs -/

def appendEvent (packId : Uuid) (stage : String) (status : ProgressStatus) : Code Unit := do
  let seq ← ask (.countEvents packId)
  ask (.createEvent ⟨packId, seq + 1, stage, status⟩)

/-- Another event took the number: count again, as often as `attempts` allows. -/
def appendProgressEvent (packId : Uuid) (stage : String) (status : ProgressStatus) :
    (attempts : Nat) → Code Unit
  | 0 => throw (.thrown "appendProgressEvent retries exhausted")
  | attempts + 1 =>
      tryCatch (Program.transaction (appendEvent packId stage status)) fun error => do
        if attempts = 0 ∨ isUniqueViolation error = false then throw error
        else appendProgressEvent packId stage status attempts

/-- The tries of `appendProgressEvent`. -/
def eventAttempts : Nat := 3

def markPackStatus (packId : Uuid) (current next : PackStatus) : Code Bool := do
  require (canTransitionContentPack current next)
    (.badRequest none
      ("Invalid content pack transition: " ++ current.text ++ " → " ++ next.text))
  ask (.markPackStatus packId current next)

/-- The items of a pack with their first versions. -/
def createItems (packId : Uuid) : List ContentItemVersionDraft → Code Unit
  | [] => pure ()
  | draft :: rest => do
      ask (.createItem draft.contentItemId packId)
      ask (.createVersion packId draft)
      ask (.setCurrentVersion draft.contentItemId draft.id)
      createItems packId rest

/-- The transaction of `persistGeneratedItems` and of `persistGeneratedItemsV2`, which differ in
the columns of a version that tell its contract and its edits. -/
def deliverItems (packId cycleId : Uuid) (week : Nat) (items : List ContentItemVersionDraft) :
    Code Unit := do
  let pack ← orThrow (← ask (.findPack packId))
  require (pack.contentCycleId = cycleId && pack.weekNumber = week)
    (.badRequest none ("Pack " ++ toString packId ++ " does not match the claimed cycle/week."))
  require (pack.status = .validating)
    (.badRequest none ("Cannot persist items: pack " ++ toString packId ++ " is in status " ++
      pack.status.text ++ ", expected validating"))
  createItems packId items
  let updated ← ask (.deliverPack packId (items.map ContentItemVersionDraft.contentItemId))
  require updated
    (.badRequest none ("Pack " ++ toString packId ++ " is no longer in validating status"))
  if week = contentWeekCount then ask (.completeCycle cycleId (some contentWeekCount))
  appendEvent packId "ready" .complete

def persistGeneratedItems (packId cycleId : Uuid) (week : Nat)
    (items : List ContentItemVersionDraft) : Code Unit :=
  Program.transaction (deliverItems packId cycleId week items)

/-- The status is written by the identity of the pack alone. -/
def safeFail (packId : Uuid) (retryEligible : Bool) : Code Unit :=
  Program.transaction do
    ask (.failPack packId retryEligible)
    appendEvent packId "failed" .failed

/-! ### Optimization decisions -/

def decisionConflict (message : String) : ContentError :=
  .conflict "OPTIMIZATION_DECISION_CONFLICT" message

/-- The first decision of a proposal, with its instruction when it approves. -/
def decideProposal (input : CreateOptimizationDecisionInput) (proposal : OptimizationProposal) :
    Code Unit := do
  let decision ← ask (.createDecision
    { id := 0
      proposalId := proposal.id
      action := input.action
      ownerUserId := input.ownerUserId
      idempotencyKey := input.idempotencyKey
      requestFingerprint := input.requestFingerprint })
  if input.action = .approve then ask (.createInstruction proposal decision.id)

/-- The request comes with a new key: the proposal is decided unless it was before. -/
def decideLocked (input : CreateOptimizationDecisionInput) : Code Unit := do
  ask (.lockProposal input.proposalId input.businessId)
  match ← ask (.findProposal input.proposalId input.businessId) with
  | none =>
      throw (decisionConflict "optimization proposal is not owned by this business")
  | some proposal =>
      require (proposal.evidenceChecksum = input.evidenceChecksum)
        (.conflict "OPTIMIZATION_EVIDENCE_CONFLICT"
          "the decision evidence checksum does not match the immutable proposal")
      match ← ask (.findDecisionOf input.proposalId) with
      | some existing =>
          require (existing.ownerUserId = input.ownerUserId &&
              existing.requestFingerprint = input.requestFingerprint)
            (decisionConflict
              "an optimization proposal already has a different terminal decision")
      | none => decideProposal input proposal

/-- The transaction of `createDecision`. -/
def decideOnce (input : CreateOptimizationDecisionInput) : Code Unit := do
  match ← ask (.findDecisionByKey input.ownerUserId input.idempotencyKey) with
  | some existing =>
      require (existing.requestFingerprint = input.requestFingerprint &&
          existing.proposalId = input.proposalId)
        (decisionConflict
          "idempotency key was already used for a different optimization decision")
  | none =>
      match ← ask (.findDecisionByFingerprint input.ownerUserId input.requestFingerprint) with
      | some existing =>
          require (existing.proposalId = input.proposalId)
            (decisionConflict "request fingerprint was already used for a different proposal")
      | none => decideLocked input

def createDecision (input : CreateOptimizationDecisionInput) : Code Unit :=
  tryCatch (Program.transaction (decideOnce input)) fun error =>
    if isUniqueViolation error then
      throw (decisionConflict "the optimization proposal already has a terminal decision")
    else throw error

/-- The first instruction for these formats that waits for a pack of the cycle. -/
def findPendingInstruction (cycle : ContentCycle) (formatCohorts : List OptimizationFormat) :
    Code (Option ApprovedOptimizationInstruction) :=
  if formatCohorts = [] then pure none else ask (.findPendingInstruction cycle formatCohorts)

/-! ### The outbox of jobs -/

/-- The job has an intent already, which has to be the same. -/
def takeIntent (jobId : JobId) (payload : GenerateJobData) (error : ContentError) : Code Unit := do
  require (isUniqueViolation error) error
  match ← ask (.findIntent jobId) with
  | none => throw error
  | some existing =>
      require (existing.payload = payload)
        (.conflict "CONTENT_VERSION_CONFLICT"
          "Content job was reused with different immutable payload bytes.")

def createIntent (jobId : JobId) (payload : GenerateJobData) : Code Unit :=
  tryCatch (ask (.createIntent jobId payload)) (takeIntent jobId payload)

/-- Lease the rows; the identities are those that were still pending. -/
def leaseIntents (leaseOwner : Uuid) (leaseExpiresAt : Instant) :
    List ContentJobOutbox → Code (List Uuid)
  | [] => pure []
  | row :: rest => do
      let claimed ← ask (.claimIntent row.id leaseOwner leaseExpiresAt)
      let claimedIds ← leaseIntents leaseOwner leaseExpiresAt rest
      return if claimed then row.id :: claimedIds else claimedIds

def leaseMs : Int := 60000

def claimDueJobs (leaseOwner : Uuid) (now : Instant) : Code (List ContentJobOutbox) :=
  Program.transaction do
    ask (.recoverLeases now)
    let due ← ask (.findDueIntents now)
    if due.isEmpty then return []
    else
      let claimedIds ← leaseIntents leaseOwner (now + leaseMs) due
      ask (.findIntents claimedIds)

/-- The attempts after which an intent is given up. -/
def maxIntentAttempts : Nat := 5

/-- When the next attempt is due; none after the last one. -/
def retryTime (attempts : Nat) (now : Instant) : Option Instant :=
  if attempts ≥ maxIntentAttempts then none
  else some (now + min 60000 (1000 * 2 ^ (attempts - 1)))

def releaseForRetry (id leaseOwner : Uuid) (now : Instant) : Code Unit := do
  match ← ask (.findLeased id leaseOwner) with
  | none => pure ()
  | some current =>
      let attempts := current.attempts + 1
      let _ ← ask (.releaseIntent id leaseOwner attempts (retryTime attempts now))

end MarketMind.Content
