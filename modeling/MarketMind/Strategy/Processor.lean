import MarketMind.Strategy.Service

/-!
Owns the jobs of the strategy queue, which generate and revise drafts, and the system of all
calls on strategies.

No job is run again by the queue: a failed one leaves the strategy to its owner.
-/

namespace MarketMind.Strategy

open MarketMind.Transactions
open MarketMind.Billing (BillingMetric)

/-- The text without the blanks around it. -/
def trimmed (text : String) : String :=
  String.ofList
    ((text.toList.dropWhile Publishing.Contract.isWhiteSpace).reverse.dropWhile
      Publishing.Contract.isWhiteSpace).reverse

/-- A failure that cannot be recorded is logged only. -/
def safeFail (strategyId : Uuid) (messageKey : String) : Code Unit :=
  tryCatch
    (do
      updateStrategyStatus strategyId .failed
      recordProgress strategyId "failed" .failed messageKey (some true))
    fun _ => pure ()

/-- What a job needs of the tables. -/
structure GenerationInputs where
  row : StrategyRow
  brief : StrategyBrief
  run : StrategyRetrievalRun

def loadGenerationInputs (strategyId retrievalRunId : Uuid) : Code GenerationInputs := do
  match ← readStrategy strategyId with
  | none | some ⟨_, none⟩ => throw (.thrown "Strategy brief missing during generation")
  | some ⟨row, some brief⟩ =>
      let businessProfile ← Db.findProfile brief.businessProfileVersionId
      require businessProfile.isSome (.thrown "Business profile version missing during generation")
      match ← Db.findRun retrievalRunId with
      | none => throw (.thrown "Retrieval run missing during generation")
      | some run =>
          require run.isUsable .knowledgeUnavailable
          return ⟨row, brief, run⟩

/-- Keep the version, charge for it, and tell the owner: the end of both jobs. -/
def deliver (ownerUserId : Uuid) (metric : BillingMetric) (claimKey messageKey : String)
    (new : NewVersion) : Code Unit := do
  let _ ← appendStrategyVersion new
  record ownerUserId metric claimKey
  Db.recordProviderCost ownerUserId metric claimKey
  recordProgress new.strategyId "ready" .complete messageKey none

/-- The `try` block of `handleGenerate`. -/
def generateDraft (strategyId retrievalRunId : Uuid) : Code Unit := do
  updateStrategyStatus strategyId .generating
  recordProgress strategyId "generating" .started "strategy.generating.started" none
  let inputs ← loadGenerationInputs strategyId retrievalRunId
  assertAllowed inputs.row.ownerUserId .strategyCycle
  let scored ← Db.score inputs.brief inputs.run
  require scored (.thrown "AI scoring service returned no deterministic_channel_scores")
  let reply ← Db.generate inputs.brief inputs.run
  let planData ← check (reply.validated "AI generation service returned no plan")
  updateStrategyStatus strategyId .validating
  recordProgress strategyId "validating" .started "strategy.validating" none
  deliver inputs.row.ownerUserId .strategyCycle (strategyCycleKey strategyId retrievalRunId)
    "strategy.draft.ready"
    { strategyId
      retrievalRunId
      planData
      promptConfig := reply.promptConfig.getD (.object [])
      origin := .generated retrievalRunId
      brief := inputs.brief }

def handleGenerate (strategyId retrievalRunId : Uuid) : Code Unit :=
  tryCatch (generateDraft strategyId retrievalRunId) fun error => do
    safeFail strategyId "strategy.generating.failed"
    throw error

/-! ### Revision -/

/-- The retrieval of a revision; the reply is the run. -/
def retrieveForRevision (strategyId : Uuid) : Code Uuid := do
  updateStrategyStatus strategyId .retrieving
  recordProgress strategyId "retrieval" .started "strategy.revision.retrieval.started" none
  match ← readStrategy strategyId with
  | none | some ⟨_, none⟩ => throw (.thrown "Strategy brief missing before revision retrieval")
  | some ⟨_, some brief⟩ =>
      let profileVersion ← Db.findProfile brief.businessProfileVersionId
      require profileVersion.isSome
        (.thrown "Business profile version missing before revision retrieval")
      match ← Db.retrieve brief with
      | .error error => throw (.ai error)
      | .ok none => throw (.thrown "AI retrieval service returned no retrieval_run_id")
      | .ok (some retrievalRunId) =>
          let retrievalRun ← Db.findRun retrievalRunId
          require (strategyRetrievalRunIsUsable retrievalRun) .knowledgeUnavailable
          updateStrategyStatus strategyId .queued
          recordProgress strategyId "retrieval" .complete "strategy.revision.retrieval.complete" none
          return retrievalRunId

/-- What the revision of a draft needs of the tables. -/
def loadRevisionInputs (strategyId priorVersionId retrievalRunId : Uuid) :
    Code (GenerationInputs × StrategyVersion) := do
  match ← readStrategy strategyId with
  | none | some ⟨_, none⟩ => throw (.thrown "Strategy brief missing before revision generation")
  | some ⟨row, some brief⟩ =>
      let profileVersion ← Db.findProfile brief.businessProfileVersionId
      require profileVersion.isSome
        (.thrown "Business profile version missing before revision generation")
      match ← Db.findRun retrievalRunId with
      | none => throw (.thrown "Retrieval run missing before revision generation")
      | some run =>
          match ← Db.findVersion priorVersionId with
          | none => throw (.thrown "Prior strategy version missing before revision generation")
          | some priorVersion => return (⟨row, brief, run⟩, priorVersion)

/-- The second `try` block of `handleRevise`. -/
def reviseDraft (strategyId priorVersionId : Uuid) (feedback : Option String)
    (retrievalRunId : Uuid) : Code Unit := do
  updateStrategyStatus strategyId .generating
  recordProgress strategyId "generating" .started "strategy.revision.generating.started" none
  let (inputs, priorVersion) ← loadRevisionInputs strategyId priorVersionId retrievalRunId
  let scored ← Db.score inputs.brief inputs.run
  require scored (.thrown "AI scoring service returned no deterministic_channel_scores")
  let reply ← Db.revise inputs.brief inputs.run priorVersion.planData
    ((feedback.map trimmed).getD "")
  let planData ← check (reply.validated "AI revision service returned no plan")
  updateStrategyStatus strategyId .validating
  recordProgress strategyId "validating" .started "strategy.revision.validating" none
  deliver inputs.row.ownerUserId .strategyRevision
    (strategyRevisionKey strategyId priorVersionId retrievalRunId) "strategy.revision.draft.ready"
    { strategyId
      retrievalRunId
      planData
      promptConfig := reply.promptConfig.getD (.object [])
      origin := .revised priorVersionId retrievalRunId
      brief := inputs.brief }

/-- The service claimed the strategy before it enqueued the job, which finds it ready. -/
def handleRevise (strategyId priorVersionId : Uuid) (feedback : Option String) : Code Unit := do
  match ← readStrategy strategyId with
  | none => pure ()
  | some strategy => assertAllowed strategy.row.ownerUserId .strategyRevision
  let retrievalRunId ← tryCatch (retrieveForRevision strategyId) fun error => do
    safeFail strategyId "strategy.revision.retrieval.failed"
    throw error
  tryCatch (reviseDraft strategyId priorVersionId feedback retrievalRunId) fun error => do
    safeFail strategyId "strategy.revision.generating.failed"
    throw error

def process : JobData → Code Unit
  | .generate strategyId retrievalRunId => handleGenerate strategyId retrievalRunId
  | .revise strategyId priorVersionId feedback => handleRevise strategyId priorVersionId feedback

/-! ### The system of calls -/

inductive Call
  | createStrategy (businessProfileVersionId ownerUserId : Uuid)
  | upsertBrief (id ownerUserId : Uuid) (dto : UpsertBriefDto)
  | startGeneration (id ownerUserId : Uuid)
  | handleDecision (id ownerUserId : Uuid) (dto : OwnerDecisionDto) (now : Instant)
  | retryGeneration (id ownerUserId : Uuid)
  /-- A worker runs an active job. -/
  | process (job : JobData)
  | turnJob (id : Nat) (state : JobState)
  | confirmProfile (businessId ownerUserId : Uuid)
  | spendElsewhere (userId : Uuid) (metric : BillingMetric) (units : Int) (claimKey : String)
  | topUp (account : Uuid) (request : Billing.TopUpRequest)
deriving DecidableEq

def Call.program : Call → Code Unit
  | createStrategy businessProfileVersionId ownerUserId =>
      (Strategy.createStrategy businessProfileVersionId ownerUserId).discard
  | upsertBrief id ownerUserId dto => (Strategy.upsertBrief id ownerUserId dto).discard
  | startGeneration id ownerUserId => Strategy.startGeneration id ownerUserId
  | handleDecision id ownerUserId dto now => Strategy.handleDecision id ownerUserId dto now
  | retryGeneration id ownerUserId => Strategy.retryGeneration id ownerUserId
  | process job => Strategy.process job
  | turnJob id state => @Program.ask strategy (.turnJob id state)
  | confirmProfile businessId ownerUserId =>
      @Program.ask strategy (.confirmProfile businessId ownerUserId)
  | spendElsewhere userId metric units claimKey =>
      @Program.ask strategy (.spendElsewhere userId metric units claimKey)
  | topUp account request => @Program.ask strategy (.topUp account request)

/-- What is charged for work on strategies. -/
def ofStrategies (metric : BillingMetric) : Bool :=
  metric = .strategyCycle || metric = .strategyRevision

/-- A worker takes up an active job; other services charge their own metrics; a top-up is
validated before the service sees it. -/
def Call.enabled : Call → World → Bool
  | process job, world => world.jobs.any fun queued => queued.data = job ∧ queued.state = .active
  | spendElsewhere _ metric _ _, _ => !ofStrategies metric
  | topUp _ request, _ => request.valid
  | _, _ => true

/-- The strategy services over their database. -/
def system (around : Surroundings) : System strategy World Key Call where
  toStore := store around
  program := Call.program
  enabled := Call.enabled

/-! ### A run to a first draft -/

/-- The call executes its next instructions. -/
def steps (pid : Pid) (count : Nat) : List (Move Call) := List.replicate count (.step pid 0)

/-- A call that runs by itself. -/
def alone (pid : Pid) (call : Call) (count : Nat) : List (Move Call) :=
  .issue pid call :: steps pid count

/-- The owner 8 confirms a profile of business 7 and writes a brief. -/
def briefedMoves : List (Move Call) :=
  alone 0 (.confirmProfile 7 8) 1 ++ alone 1 (.createStrategy 0 8) 2 ++
  alone 2 (.upsertBrief 0 8 (plainBrief "sales")) 12

/-- The first draft is generated. -/
def draftedMoves : List (Move Call) :=
  briefedMoves ++ alone 3 (.startGeneration 0 8) 24 ++ alone 4 (.turnJob 0 .active) 1 ++
  alone 5 (.process (.generate 0 0)) 35

end MarketMind.Strategy
