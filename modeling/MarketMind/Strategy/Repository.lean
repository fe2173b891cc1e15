import MarketMind.Strategy.Store

/-!
Owns the strategy repository: its queries, and its transactions with the guards that they
rest on.

Does not own when the services call them.
-/

namespace MarketMind.Strategy

open MarketMind.Transactions
open MarketMind.Billing (BillingMetric)

/-- Code of the strategy services. -/
abbrev Code (α : Type) := Program strategy α

/-- Throw unless the condition holds. -/
def require (condition : Bool) (error : StrategyError) : Code Unit :=
  if condition then pure () else throw error

/-- A check that needs no database. -/
def check {α : Type} (checked : Except StrategyError α) : Code α := .done checked

/-! ### Statements under the names of the tables -/

namespace Db

def createStrategy (businessId ownerUserId : Uuid) : Code StrategyRow :=
  @Program.ask strategy (.createStrategy businessId ownerUserId)

def findStrategy (id : Uuid) : Code (Option StrategyRow) := @Program.ask strategy (.findStrategy id)

def findBrief (strategyId : Uuid) : Code (Option StrategyBrief) :=
  @Program.ask strategy (.findBrief strategyId)

def findProfileOfOwner (id ownerUserId : Uuid) : Code (Option BusinessProfileVersion) :=
  @Program.ask strategy (.findProfileOfOwner id ownerUserId)

def findActiveProfile (businessId : Uuid) : Code (Option BusinessProfileVersion) :=
  @Program.ask strategy (.findActiveProfile businessId)

def findProfile (id : Uuid) : Code (Option BusinessProfileVersion) :=
  @Program.ask strategy (.findProfile id)

def findTarget (targetId businessId : Uuid) : Code (Option TargetProjection) :=
  @Program.ask strategy (.findTarget targetId businessId)

def upsertBrief (strategyId : Uuid) (data : BriefData) : Code StrategyBrief :=
  @Program.ask strategy (.upsertBrief strategyId data)

def findStatus (id : Uuid) : Code (Option StrategyStatus) := @Program.ask strategy (.findStatus id)

def updateStatus (id : Uuid) (status : StrategyStatus) : Code Unit :=
  @Program.ask strategy (.updateStatus id status)

def claim (id : Uuid) (idleStatuses : List StrategyStatus) (next : StrategyStatus) : Code Bool :=
  @Program.ask strategy (.claim id idleStatuses next)

def findRun (id : Uuid) : Code (Option StrategyRetrievalRun) := @Program.ask strategy (.findRun id)

def findLatestRun (strategyId : Uuid) : Code (Option StrategyRetrievalRun) :=
  @Program.ask strategy (.findLatestRun strategyId)

def findVersion (id : Uuid) : Code (Option StrategyVersion) :=
  @Program.ask strategy (.findVersion id)

def findLatestVersion (strategyId : Uuid) : Code (Option StrategyVersion) :=
  @Program.ask strategy (.findLatestVersion strategyId)

def countRetries (strategyId : Uuid) : Code Nat := @Program.ask strategy (.countRetries strategyId)

def createVersion (row : StrategyVersion) : Code StrategyVersion :=
  @Program.ask strategy (.createVersion row)

def makeDraft (id versionId : Uuid) : Code Unit := @Program.ask strategy (.makeDraft id versionId)

def createDecision (strategyVersionId ownerUserId : Uuid) (action : DecisionAction)
    (feedback : Option String) : Code Unit :=
  @Program.ask strategy (.createDecision strategyVersionId ownerUserId action feedback)

def decideDraft (id : Uuid) (next : StrategyStatus) : Code Bool :=
  @Program.ask strategy (.decideDraft id next)

def findVersionIds (strategyId : Uuid) : Code (List Uuid) :=
  @Program.ask strategy (.findVersionIds strategyId)

def deleteDecisions (versionIds : List Uuid) : Code Unit :=
  @Program.ask strategy (.deleteDecisions versionIds)

def deleteVersions (strategyId : Uuid) : Code Unit :=
  @Program.ask strategy (.deleteVersions strategyId)

def deleteRuns (strategyId : Uuid) : Code Unit := @Program.ask strategy (.deleteRuns strategyId)

def deleteBrief (strategyId : Uuid) : Code Unit := @Program.ask strategy (.deleteBrief strategyId)

def deleteEvents (strategyId : Uuid) : Code Unit := @Program.ask strategy (.deleteEvents strategyId)

def deleteStrategy (id : Uuid) : Code Unit := @Program.ask strategy (.deleteStrategy id)

def countEvents (strategyId : Uuid) : Code Nat := @Program.ask strategy (.countEvents strategyId)

def createEvent (event : StrategyProgressEvent) : Code Unit :=
  @Program.ask strategy (.createEvent event)

def findLatestEvent (strategyId : Uuid) : Code (Option StrategyProgressEvent) :=
  @Program.ask strategy (.findLatestEvent strategyId)

def addJob (data : JobData) : Code Unit := @Program.ask strategy (.addJob data)

def assertAllowed (userId : Uuid) (metric : BillingMetric) (requested : Int) :
    Code (Except Billing.BillingError Unit) :=
  @Program.ask strategy (.assertAllowed userId metric requested)

def spendPoints (userId : Uuid) (metric : BillingMetric) (units : Int) (claimKey : String) :
    Code (Except Billing.BillingError Unit) :=
  @Program.ask strategy (.spendPoints userId metric units claimKey)

def recordProviderCost (userId : Uuid) (metric : BillingMetric) (logicalArtifactKey : String) :
    Code Unit :=
  @Program.ask strategy (.recordProviderCost userId metric logicalArtifactKey)

def retrieve (brief : StrategyBrief) : Code (Except AiError (Option Uuid)) :=
  @Program.ask strategy (.retrieve brief)

def score (brief : StrategyBrief) (run : StrategyRetrievalRun) : Code Bool :=
  @Program.ask strategy (.score brief run)

def generate (brief : StrategyBrief) (run : StrategyRetrievalRun) : Code PlanReply :=
  @Program.ask strategy (.generate brief run)

def revise (brief : StrategyBrief) (run : StrategyRetrievalRun) (previousPlan : Json)
    (revisionNotes : String) : Code PlanReply :=
  @Program.ask strategy (.revise brief run previousPlan revisionNotes)

end Db

/-! ### Strategies -/

/-- A strategy with its brief, as `include` joins them: two queries. -/
structure StrategyWithBrief where
  row : StrategyRow
  brief : Option StrategyBrief
deriving DecidableEq, Repr

def readStrategy (id : Uuid) : Code (Option StrategyWithBrief) := do
  match ← Db.findStrategy id with
  | none => return none
  | some row =>
      let brief ← Db.findBrief id
      return some ⟨row, brief⟩

def getStrategyByIdAndOwner (id ownerUserId : Uuid) : Code (Option StrategyWithBrief) := do
  match ← readStrategy id with
  | none => return none
  | some strategy =>
      if strategy.row.ownerUserId ≠ ownerUserId then return none else return some strategy

/-- The transaction of `updateStrategyStatus`: the row is read first and written by its
identity afterwards. -/
def moveStatus (id : Uuid) (next : StrategyStatus) : Code Unit := do
  match ← Db.findStatus id with
  | none => throw .recordNotFound
  | some current =>
      require (canTransitionStrategy current next)
        (.badRequest none
          ("Invalid strategy lifecycle transition: " ++ current.text ++ " → " ++ next.text))
      Db.updateStatus id next

def updateStrategyStatus (id : Uuid) (next : StrategyStatus) : Code Unit :=
  Program.transaction (moveStatus id next)

/-- One conditional update, so that one of several concurrent requests has it. -/
def claimForGeneration (id : Uuid) (idleStatuses : List StrategyStatus) (next : StrategyStatus) :
    Code Bool :=
  if idleStatuses.all (canTransitionStrategy · next) then Db.claim id idleStatuses next
  else pure false

/-- The transaction of `deleteStrategy`. -/
def eraseStrategy (id : Uuid) : Code Unit := do
  let status ← Db.findStatus id
  require (status = some .draft)
    (.badRequest none "Strategy is no longer in draft state; decision could not be applied")
  let versionIds ← Db.findVersionIds id
  Db.deleteDecisions versionIds
  Db.deleteVersions id
  Db.deleteRuns id
  Db.deleteBrief id
  Db.deleteEvents id
  Db.deleteStrategy id

def deleteStrategy (id : Uuid) : Code Unit := Program.transaction (eraseStrategy id)

/-! ### Versions and decisions -/

/-- What a job hands over to be kept as a version. -/
structure NewVersion where
  strategyId : Uuid
  retrievalRunId : Uuid
  planData : Json
  promptConfig : Json
  origin : Origin
  brief : StrategyBrief

/-- The row of the version under its number; the database gives it its identity. -/
def NewVersion.row (new : NewVersion) (version : Nat) : StrategyVersion where
  id := 0
  strategyId := new.strategyId
  version
  retrievalRunId := some new.retrievalRunId
  planData := canonicalPlanData new.planData new.strategyId version (some new.retrievalRunId)
  promptConfig := new.promptConfig
  origin := new.origin
  brief := new.brief

/-- The transaction of `appendStrategyVersion`. -/
def appendVersion (new : NewVersion) : Code StrategyVersion := do
  match ← Db.findStatus new.strategyId with
  | none => throw .recordNotFound
  | some current =>
      require (canTransitionStrategy current .draft)
        (.badRequest none ("Invalid strategy lifecycle transition: " ++ current.text ++ " → draft"))
      let latest ← Db.findLatestVersion new.strategyId
      let nextVersion := (latest.map (·.version + 1)).getD 1
      let version ← Db.createVersion (new.row nextVersion)
      Db.makeDraft new.strategyId version.id
      return version

def appendStrategyVersion (new : NewVersion) : Code StrategyVersion :=
  Program.transaction (appendVersion new)

inductive OwnerAction
  | approve
  | reject
  | revisionRequested
deriving DecidableEq, Repr

def OwnerAction.decision : OwnerAction → DecisionAction
  | approve => .approve
  | reject => .reject
  | revisionRequested => .revisionRequested

structure OwnerDecisionDto where
  versionId : Uuid
  action : OwnerAction
  feedback : Option String
deriving DecidableEq, Repr

/-- The transaction of `recordOwnerDecision`; the reply is the status that the decision leads to. -/
def decide (ownerUserId : Uuid) (dto : OwnerDecisionDto) : Code (Option StrategyStatus) := do
  Db.createDecision dto.versionId ownerUserId dto.action.decision dto.feedback
  match ← Db.findVersion dto.versionId with
  | none => return none
  | some version =>
      match dto.action with
      | .revisionRequested => return none
      | .approve | .reject =>
          let next := if dto.action = .approve then StrategyStatus.approved else .rejected
          let decided ← Db.decideDraft version.strategyId next
          require decided
            (.badRequest none "Strategy is no longer in draft state; decision could not be applied")
          return some next

def recordOwnerDecision (ownerUserId : Uuid) (dto : OwnerDecisionDto) :
    Code (Option StrategyStatus) :=
  Program.transaction (decide ownerUserId dto)

/-! ### Progress events -/

/-- The transaction of `appendProgressEvent`. -/
def appendEvent (strategyId : Uuid) (event : StrategyProgressInput) : Code Unit := do
  let seq ← Db.countEvents strategyId
  Db.createEvent { event with strategyId, seq := seq + 1 }

/-- Progress persistence never breaks the lifecycle itself. -/
def recordProgress (strategyId : Uuid) (stage : String) (status : ProgressStatus)
    (messageKey : String) (retryable : Option Bool) : Code Unit :=
  tryCatch (Program.transaction (appendEvent strategyId ⟨stage, status, messageKey, retryable⟩))
    fun _ => pure ()

/-! ### Billing -/

def assertAllowed (userId : Uuid) (metric : BillingMetric) : Code Unit := do
  match ← Db.assertAllowed userId metric 1 with
  | .ok () => pure ()
  | .error error => throw (.billing error)

/-- `billingEntitlements.record` -/
def record (userId : Uuid) (metric : BillingMetric) (claimKey : String) : Code Unit := do
  match ← Db.spendPoints userId metric 1 claimKey with
  | .ok () => pure ()
  | .error error => throw (.billing error)

end MarketMind.Strategy
