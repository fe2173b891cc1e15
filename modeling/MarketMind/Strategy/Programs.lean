import MarketMind.Strategy.Guards

/-!
Owns the step from the operations of the repository to whole calls: what composes, and holds
of each operation, holds of every request and every job.

Does not own arguments in which one operation rests on what another has learned.
-/

namespace MarketMind.Strategy

open MarketMind.Transactions
open MarketMind.Transactions.Protocol

/-- The statement writes no row of a strategy, of its brief, versions, decisions and runs. -/
def Statement.beside : Statement → Bool
  | findStrategy _ | findBrief _ | findProfileOfOwner _ _ | findActiveProfile _ | findProfile _
  | findTarget _ _ | findStatus _ | findRun _ | findLatestRun _ | findVersion _
  | findLatestVersion _ | countRetries _ | findLatestEvent _ | assertAllowed _ _ _
  | recordProviderCost _ _ _ | score _ _ | generate _ _
  | revise _ _ _ _ | addJob _ | turnJob _ _ | confirmProfile _ _ | spendElsewhere _ _ _ _
  | topUp _ _ => true
  | _ => false

/-- What a statement beside the strategies leaves as it is. -/
structure Beside (before after : World) : Prop where
  strategies : after.strategies = before.strategies
  briefs : after.briefs = before.briefs
  versions : after.versions = before.versions
  decisions : after.decisions = before.decisions
  runs : after.runs = before.runs
  events : after.events = before.events
  claimed : after.claimed = before.claimed
  reopened : after.reopened = before.reopened
  retiredStrategies : after.retiredStrategies = before.retiredStrategies
  retiredVersions : after.retiredVersions = before.retiredVersions
  unpaid : after.unpaid = before.unpaid

theorem beside_refl (world : World) : Beside world world :=
  ⟨rfl, rfl, rfl, rfl, rfl, rfl, rfl, rfl, rfl, rfl, rfl⟩

theorem exec_beside {around : Surroundings} {pid : Pid} {choice : Nat} {asked : Statement}
    {world : World} {effect : Effect World Key asked.Reply} (beside : asked.beside = true)
    (executed : (system around).exec pid choice asked world = .ok effect) :
    Beside world (effect.write world) := by
  cases asked with
  | score | generate | revise =>
      have same := ok_of_answering executed
      rw [same]
      exact beside_refl world
  | addJob | turnJob | confirmProfile | spendElsewhere | topUp | assertAllowed =>
      cases executed
      exact ⟨rfl, rfl, rfl, rfl, rfl, rfl, rfl, rfl, rfl, rfl, rfl⟩
  | findStrategy | findBrief | findProfileOfOwner | findActiveProfile | findProfile | findTarget
  | findStatus | findRun | findLatestRun | findVersion | findLatestVersion | countRetries
  | findLatestEvent | recordProviderCost =>
      cases executed
      exact beside_refl world
  | _ => cases beside

/-- The statuses that are written by the identity of the strategy alone. -/
def passingStatuses : List StrategyStatus :=
  [.ready, .retrieving, .queued, .generating, .validating, .failed]

/-- What holds of programs and composes. -/
structure Composable (K : (α : Type) → Code α → Prop) : Prop where
  pure : ∀ {α : Type} (value : α), K α (pure value)
  throw : ∀ {α : Type} (error : StrategyError), K α (throw error)
  bind : ∀ {α β : Type} {program : Code α} {next : α → Code β},
    K α program → (∀ value, K β (next value)) → K β (program >>= next)
  tryCatch : ∀ {α : Type} {program : Code α} {handler : StrategyError → Code α},
    K α program → (∀ error, K α (handler error)) → K α (tryCatch program handler)
  discard : ∀ {α : Type} {program : Code α}, K α program → K Unit program.discard

theorem composable_maintains {around : Surroundings} (protocol : Protocol (system around))
    (pid : Pid) (call : Call) :
    Composable fun _ program => protocol.Maintains pid call program where
  pure := maintains_pure
  throw error := @maintains_throw _ _ _ _ _ protocol pid call _ error
  bind := maintains_bind
  tryCatch := maintains_tryCatch
  discard := maintains_discard

/-- The job is one of the two, and its version is charged for as such. -/
def NewVersion.charge (new : NewVersion) : Billing.BillingMetric × String :=
  new.origin.charge new.strategyId

/-- What holds of keeping a version, of its charge and of the report holds of the delivery. -/
theorem Composable.deliver {K : (α : Type) → Code α → Prop} (composable : Composable K)
    {ownerUserId : Uuid} {metric : Billing.BillingMetric} {claimKey messageKey : String}
    {new : NewVersion} (append : K _ (appendStrategyVersion new))
    (spend : K _ (Db.spendPoints ownerUserId metric 1 claimKey))
    (cost : K _ (Db.recordProviderCost ownerUserId metric claimKey))
    (report : K _ (recordProgress new.strategyId "ready" .complete messageKey none)) :
    K _ (deliver ownerUserId metric claimKey messageKey new) := by
  refine composable.bind append fun _ => ?_
  refine composable.bind (composable.bind spend fun reply => ?_) fun _ => ?_
  · rcases reply with error | ⟨⟩
    · exact composable.throw _
    · exact composable.pure ()
  · exact composable.bind cost fun _ => report

/-- What holds of the read and of the row holds of the request for a new strategy. -/
theorem Composable.createRequest {K : (α : Type) → Code α → Prop} (composable : Composable K)
    {businessProfileVersionId ownerUserId : Uuid}
    (read : K _ (Db.findProfileOfOwner businessProfileVersionId ownerUserId))
    (create : ∀ businessId, K _ (Db.createStrategy businessId ownerUserId)) :
    K _ (createStrategy businessProfileVersionId ownerUserId) := by
  refine composable.bind read fun profile => ?_
  cases profile with
  | none => exact composable.throw _
  | some profile => exact create profile.businessId

/-- What holds of the operations of a call. -/
structure Operations (K : (α : Type) → Code α → Prop) (call : Call) : Prop extends Composable K where
  beside : ∀ asked : Statement, asked.beside = true → K _ (@Program.ask strategy asked)
  createRequest : ∀ businessProfileVersionId ownerUserId,
    call = .createStrategy businessProfileVersionId ownerUserId →
      K _ (Strategy.createStrategy businessProfileVersionId ownerUserId)
  upsertBrief : ∀ id data, K _ (Db.upsertBrief id data)
  retrieve : ∀ brief, K _ (Db.retrieve brief)
  progress : ∀ id stage status messageKey retryable,
    K _ (recordProgress id stage status messageKey retryable)
  status : ∀ id, ∀ next ∈ passingStatuses, K _ (updateStrategyStatus id next)
  claim : ∀ id idle, ∀ next ∈ passingStatuses, K _ (claimForGeneration id idle next)
  retryDecision : ∀ versionId ownerUserId, K _ (Db.createDecision versionId ownerUserId .retry none)
  ownerDecision : ∀ id ownerUserId dto now, call = .handleDecision id ownerUserId dto now →
    K _ (recordOwnerDecision ownerUserId dto)
  delete : ∀ id ownerUserId dto now, call = .handleDecision id ownerUserId dto now →
    dto.action = .reject → K _ (deleteStrategy id)
  deliver : ∀ ownerUserId messageKey new,
    K _ (deliver ownerUserId new.charge.1 new.charge.2 messageKey new)

namespace Operations

variable {K : (α : Type) → Code α → Prop} {call : Call} (kept : Operations K call)
include kept

theorem require {condition : Bool} {error : StrategyError} : K _ (require condition error) := by
  unfold Strategy.require
  split
  · exact kept.pure ()
  · exact kept.throw error

theorem check {α : Type} {checked : Except StrategyError α} : K _ (check checked) := by
  cases checked with
  | ok value => exact kept.pure value
  | error error => exact kept.throw error

/-! ### Parts of calls -/

theorem readStrategy (id : Uuid) : K _ (readStrategy id) := by
  refine kept.bind (kept.beside (.findStrategy id) rfl) fun row => ?_
  cases row with
  | none => exact kept.pure none
  | some row => exact kept.bind (kept.beside (.findBrief id) rfl) fun _ => kept.pure _

theorem readOwned (id ownerUserId : Uuid) :
    K _ (getStrategyByIdAndOwner id ownerUserId) := by
  refine kept.bind (kept.readStrategy id) fun found => ?_
  cases found with
  | none => exact kept.pure none
  | some strategy =>
      dsimp only
      split
      · exact kept.pure none
      · exact kept.pure (some strategy)

theorem assertAllowed (userId : Uuid) (metric : Billing.BillingMetric) :
    K _ (assertAllowed userId metric) := by
  refine kept.bind (kept.beside (.assertAllowed userId metric 1) rfl) fun reply => ?_
  rcases reply with error | ⟨⟩
  · exact kept.throw _
  · exact kept.pure ()

theorem safeFail (id : Uuid) (messageKey : String) :
    K _ (safeFail id messageKey) := by
  refine kept.tryCatch ?_ fun _ => kept.pure ()
  exact kept.bind (kept.status id .failed (by decide)) fun _ => kept.progress _ _ _ _ _

/-! ### Requests -/

theorem targetBindings (businessId : Uuid) (choices : List ChannelChoice) :
    K _ (assertConnectedTargetBindings businessId choices) := by
  induction choices with
  | nil => exact kept.pure ()
  | cons choice rest inductionHypothesis =>
      unfold assertConnectedTargetBindings
      split
      · split
        · exact kept.bind (kept.throw _) fun _ => inductionHypothesis
        · refine kept.bind (kept.beside (.findTarget _ _) rfl) fun target => ?_
          exact kept.bind kept.check fun _ => inductionHypothesis
      · exact inductionHypothesis

theorem briefRequest (id ownerUserId : Uuid) (dto : UpsertBriefDto) :
    K _ (Strategy.upsertBrief id ownerUserId dto) := by
  refine kept.bind (kept.readOwned id ownerUserId) fun found => ?_
  cases found with
  | none => exact kept.throw _
  | some strategy =>
  refine kept.bind kept.require fun _ => ?_
  refine kept.bind (kept.beside (.findProfileOfOwner _ _) rfl) fun profile => ?_
  refine kept.bind kept.require fun _ => ?_
  refine kept.bind kept.check fun _ => ?_
  have capacity : ∀ isV2, K _
      (assertCapacity isV2 dto strategy.row.businessId) := by
    intro isV2
    unfold assertCapacity
    split
    · refine kept.bind kept.check fun _ => ?_
      exact kept.bind (kept.targetBindings _ _) fun _ => kept.require
    · exact kept.require
  refine kept.bind (capacity _) fun _ => ?_
  cases dto.startDate with
  | none => exact kept.throw _
  | some startDate =>
  refine kept.bind (kept.upsertBrief _ _) fun brief => ?_
  dsimp only
  split
  · refine kept.bind (kept.status id .ready (by decide)) fun _ => ?_
    exact kept.bind (kept.progress _ _ _ _ _) fun _ => kept.pure brief
  · exact kept.pure brief

theorem retrieveAndQueue (id : Uuid) (brief : StrategyBrief) :
    K _ (retrieveAndQueue id brief) := by
  refine kept.bind (kept.retrieve brief) fun reply => ?_
  rcases reply with error | (_ | retrievalRunId)
  · exact kept.throw _
  · exact kept.throw _
  · refine kept.bind (kept.beside (.findRun _) rfl) fun retrievalRun => ?_
    refine kept.bind kept.require fun _ => ?_
    refine kept.bind (kept.progress _ _ _ _ _) fun _ => ?_
    refine kept.bind (kept.status id .queued (by decide)) fun _ => ?_
    exact kept.bind (kept.beside (.addJob _) rfl) fun _ => kept.progress _ _ _ _ _

theorem startRetrieval (id : Uuid) (row : StrategyRow) (brief : StrategyBrief) :
    K _ (startRetrieval id row brief) := by
  refine kept.bind (kept.beside (.findActiveProfile _) rfl) fun latestProfile => ?_
  split
  · refine kept.bind (kept.progress _ _ _ _ _) fun _ => ?_
    refine kept.tryCatch (kept.retrieveAndQueue id brief) fun error => ?_
    refine kept.bind (kept.status id .failed (by decide)) fun _ => ?_
    exact kept.bind (kept.progress _ _ _ _ _) fun _ => kept.throw _
  · refine kept.bind (kept.status id .failed (by decide)) fun _ => ?_
    exact kept.bind (kept.progress _ _ _ _ _) fun _ => kept.throw _

theorem startGeneration (id ownerUserId : Uuid) :
    K _ (Strategy.startGeneration id ownerUserId) := by
  refine kept.bind (kept.readOwned id ownerUserId) fun found => ?_
  rcases found with _ | ⟨row, _ | brief⟩
  · exact kept.throw _
  · exact kept.throw _
  · refine kept.bind (kept.assertAllowed _ _) fun _ => ?_
    refine kept.bind (kept.claim id _ .retrieving (by decide)) fun claimed => ?_
    exact kept.bind kept.require fun _ => kept.startRetrieval id row brief

theorem approvalReady (strategy : StrategyWithBrief) (version : StrategyVersion) (now : Instant) :
    K _ (assertApprovalReady strategy version now) := by
  refine kept.bind (kept.beside (.findActiveProfile _) rfl) fun latestProfile => ?_
  refine kept.bind kept.require fun _ => ?_
  refine kept.bind kept.check fun _ => ?_
  split
  · exact kept.bind (kept.pure none) fun _ => kept.check
  · exact kept.bind (kept.beside (.findRun _) rfl) fun _ => kept.check

theorem requestRevision {id ownerUserId : Uuid} {dto : OwnerDecisionDto}
    (decides : K _ (recordOwnerDecision ownerUserId dto)) :
    K _ (requestRevision id ownerUserId dto) := by
  refine kept.bind (kept.assertAllowed _ _) fun _ => ?_
  refine kept.bind (kept.claim id _ .ready (by decide)) fun claimed => ?_
  refine kept.bind kept.require fun _ => ?_
  refine kept.bind (kept.progress _ _ _ _ _) fun _ => ?_
  exact kept.bind decides fun _ => kept.beside (.addJob _) rfl

theorem handleDecision {id ownerUserId : Uuid} {dto : OwnerDecisionDto} {now : Instant}
    (isDecision : call = .handleDecision id ownerUserId dto now) :
    K _ (Strategy.handleDecision id ownerUserId dto now) := by
  have decides := kept.ownerDecision id ownerUserId dto now isDecision
  refine kept.bind (kept.readOwned id ownerUserId) fun found => ?_
  cases found with
  | none => exact kept.throw _
  | some strategy =>
  refine kept.bind kept.require fun _ => ?_
  refine kept.bind kept.require fun _ => ?_
  refine kept.bind (kept.beside (.findVersion _) rfl) fun version => ?_
  cases version with
  | none => exact kept.throw _
  | some version =>
  refine kept.bind kept.require fun _ => ?_
  refine kept.bind kept.require fun _ => ?_
  cases action : dto.action with
  | approve =>
      refine kept.bind (kept.approvalReady _ _ _) fun _ => ?_
      refine kept.bind decides fun next => ?_
      cases next with
      | none => exact kept.pure ()
      | some next => exact kept.progress _ _ _ _ _
  | reject => exact kept.delete id ownerUserId dto now isDecision action
  | revisionRequested => exact kept.requestRevision decides

theorem resumeGeneration (id retrievalRunId : Uuid) :
    K _ (resumeGeneration id retrievalRunId) := by
  refine kept.bind (kept.claim id _ .ready (by decide)) fun _ => ?_
  refine kept.bind kept.require fun _ => ?_
  refine kept.bind (kept.claim id _ .retrieving (by decide)) fun _ => ?_
  refine kept.bind kept.require fun _ => ?_
  refine kept.bind (kept.status id .queued (by decide)) fun _ => ?_
  exact kept.bind (kept.beside (.addJob _) rfl) fun _ => kept.progress _ _ _ _ _

theorem resume (id ownerUserId : Uuid) :
    K _ (resume id ownerUserId) := by
  refine kept.bind (kept.beside (.findLatestVersion id) rfl) fun latestVersion => ?_
  cases latestVersion
  case' some version =>
    refine kept.bind (kept.retryDecision version.id ownerUserId) fun _ => ?_
  all_goals
    refine kept.bind (kept.beside (.findLatestRun id) rfl) fun latestRun => ?_
    split
    · exact kept.resumeGeneration id _
    · refine kept.bind (kept.claim id _ .ready (by decide)) fun _ => ?_
      exact kept.bind kept.require fun _ => kept.startGeneration id ownerUserId

theorem retryGeneration (id ownerUserId : Uuid) :
    K _ (Strategy.retryGeneration id ownerUserId) := by
  refine kept.bind (kept.readOwned id ownerUserId) fun found => ?_
  cases found with
  | none => exact kept.throw _
  | some strategy =>
  refine kept.bind kept.require fun _ => ?_
  refine kept.bind (kept.beside (.findLatestEvent id) rfl) fun latestProgress => ?_
  refine kept.bind kept.require fun _ => ?_
  refine kept.bind (kept.beside (.countRetries id) rfl) fun retryCount => ?_
  refine kept.bind kept.require fun _ => ?_
  refine kept.bind (kept.beside (.findActiveProfile _) rfl) fun latestProfile => ?_
  split
  · exact kept.bind kept.require fun _ => kept.resume id ownerUserId
  · exact kept.throw _

/-! ### Jobs -/

theorem loadGenerationInputs (strategyId retrievalRunId : Uuid) :
    K _ (loadGenerationInputs strategyId retrievalRunId) := by
  refine kept.bind (kept.readStrategy strategyId) fun found => ?_
  rcases found with _ | ⟨row, _ | brief⟩
  · exact kept.throw _
  · exact kept.throw _
  · refine kept.bind (kept.beside (.findProfile _) rfl) fun profile => ?_
    refine kept.bind kept.require fun _ => ?_
    refine kept.bind (kept.beside (.findRun _) rfl) fun run => ?_
    cases run with
    | none => exact kept.throw _
    | some run => exact kept.bind kept.require fun _ => kept.pure _

theorem handleGenerate (strategyId retrievalRunId : Uuid) :
    K _ (handleGenerate strategyId retrievalRunId) := by
  refine kept.tryCatch ?_ fun error =>
    kept.bind (kept.safeFail _ _) fun _ => kept.throw error
  refine kept.bind (kept.status _ .generating (by decide)) fun _ => ?_
  refine kept.bind (kept.progress _ _ _ _ _) fun _ => ?_
  refine kept.bind (kept.loadGenerationInputs _ _) fun inputs => ?_
  refine kept.bind (kept.assertAllowed _ _) fun _ => ?_
  refine kept.bind (kept.beside (.score _ _) rfl) fun scored => ?_
  refine kept.bind kept.require fun _ => ?_
  refine kept.bind (kept.beside (.generate _ _) rfl) fun reply => ?_
  refine kept.bind kept.check fun planData => ?_
  refine kept.bind (kept.status _ .validating (by decide)) fun _ => ?_
  exact kept.bind (kept.progress _ _ _ _ _) fun _ => kept.deliver _ _ _

theorem retrieveForRevision (strategyId : Uuid) :
    K _ (retrieveForRevision strategyId) := by
  refine kept.bind (kept.status _ .retrieving (by decide)) fun _ => ?_
  refine kept.bind (kept.progress _ _ _ _ _) fun _ => ?_
  refine kept.bind (kept.readStrategy strategyId) fun found => ?_
  rcases found with _ | ⟨row, _ | brief⟩
  · exact kept.throw _
  · exact kept.throw _
  · refine kept.bind (kept.beside (.findProfile _) rfl) fun profile => ?_
    refine kept.bind kept.require fun _ => ?_
    refine kept.bind (kept.retrieve brief) fun reply => ?_
    rcases reply with error | (_ | retrievalRunId)
    · exact kept.throw _
    · exact kept.throw _
    · refine kept.bind (kept.beside (.findRun _) rfl) fun run => ?_
      refine kept.bind kept.require fun _ => ?_
      refine kept.bind (kept.status _ .queued (by decide)) fun _ => ?_
      exact kept.bind (kept.progress _ _ _ _ _) fun _ => kept.pure retrievalRunId

theorem loadRevisionInputs (strategyId priorVersionId retrievalRunId : Uuid) :
    K _ (loadRevisionInputs strategyId priorVersionId retrievalRunId) := by
  refine kept.bind (kept.readStrategy strategyId) fun found => ?_
  rcases found with _ | ⟨row, _ | brief⟩
  · exact kept.throw _
  · exact kept.throw _
  · refine kept.bind (kept.beside (.findProfile _) rfl) fun profile => ?_
    refine kept.bind kept.require fun _ => ?_
    refine kept.bind (kept.beside (.findRun _) rfl) fun run => ?_
    cases run with
    | none => exact kept.throw _
    | some run =>
        refine kept.bind (kept.beside (.findVersion _) rfl) fun prior => ?_
        cases prior with
        | none => exact kept.throw _
        | some prior => exact kept.pure _

theorem reviseDraft (strategyId priorVersionId : Uuid) (feedback : Option String)
    (retrievalRunId : Uuid) :
    K _ (reviseDraft strategyId priorVersionId feedback retrievalRunId) := by
  refine kept.bind (kept.status _ .generating (by decide)) fun _ => ?_
  refine kept.bind (kept.progress _ _ _ _ _) fun _ => ?_
  refine kept.bind (kept.loadRevisionInputs _ _ _) fun inputs => ?_
  refine kept.bind (kept.beside (.score _ _) rfl) fun scored => ?_
  refine kept.bind kept.require fun _ => ?_
  refine kept.bind (kept.beside (.revise _ _ _ _) rfl) fun reply => ?_
  refine kept.bind kept.check fun planData => ?_
  refine kept.bind (kept.status _ .validating (by decide)) fun _ => ?_
  exact kept.bind (kept.progress _ _ _ _ _) fun _ => kept.deliver _ _ _

theorem handleRevise (strategyId priorVersionId : Uuid) (feedback : Option String) :
    K _ (handleRevise strategyId priorVersionId feedback) := by
  have revises : K _ (do
      let retrievalRunId ← tryCatch (Strategy.retrieveForRevision strategyId) fun error => do
        Strategy.safeFail strategyId "strategy.revision.retrieval.failed"
        throw error
      tryCatch (Strategy.reviseDraft strategyId priorVersionId feedback retrievalRunId)
        fun error => do
          Strategy.safeFail strategyId "strategy.revision.generating.failed"
          throw error) := by
    refine kept.bind ?_ fun retrievalRunId => ?_
    · exact kept.tryCatch (kept.retrieveForRevision _) fun error =>
        kept.bind (kept.safeFail _ _) fun _ => kept.throw error
    · exact kept.tryCatch (kept.reviseDraft _ _ _ _) fun error =>
        kept.bind (kept.safeFail _ _) fun _ => kept.throw error
  refine kept.bind (kept.readStrategy strategyId) fun found => ?_
  cases found with
  | none => exact revises
  | some strategy => exact kept.bind (kept.assertAllowed _ _) fun _ => revises

/-- A protocol that every operation keeps is kept by every call. -/
theorem program : K _ call.program := by
  cases call with
  | createStrategy => exact kept.discard (kept.createRequest _ _ rfl)
  | upsertBrief => exact kept.discard (kept.briefRequest _ _ _)
  | startGeneration => exact kept.startGeneration _ _
  | handleDecision id ownerUserId dto now =>
      exact kept.handleDecision rfl
  | retryGeneration => exact kept.retryGeneration _ _
  | process job =>
      cases job with
      | generate strategyId retrievalRunId => exact kept.handleGenerate strategyId retrievalRunId
      | revise strategyId priorVersionId feedback =>
          exact kept.handleRevise strategyId priorVersionId feedback
  | turnJob id state => exact kept.beside (.turnJob id state) rfl
  | confirmProfile businessId ownerUserId =>
      exact kept.beside (.confirmProfile businessId ownerUserId) rfl
  | spendElsewhere userId metric units claimKey =>
      exact kept.beside (.spendElsewhere userId metric units claimKey) rfl
  | topUp account request => exact kept.beside (.topUp account request) rfl

end Operations

end MarketMind.Strategy
