import MarketMind.Content.Processor
import MarketMind.Transactions.Inside

/-!
Owns the step from the operations of the repositories to whole calls: what composes, and holds
of each operation, holds of every request, of every job and of the dispatcher.

Does not own what a single operation keeps.
-/

namespace MarketMind.Content

open MarketMind.Transactions
open MarketMind.Transactions.Protocol
open MarketMind.Transactions.Store (Asks asks_ask asks_bind asks_pure asks_throw asks_tryCatch)

/-! ### Parts -/

/-- The operation that a statement is a part of. -/
inductive Part
  /-- Of several, or none. -/
  | shared
  | claim
  | advance
  | replace
  | deliver
  | fail
deriving DecidableEq

def Statement.part : Statement → Part
  | freezeContext _ _ _ | freezePlan _ _ _ _ | createPack _ | consumeInstruction _ _ _ _ _ _
  | updateCycle _ _ => .claim
  | advanceCycle _ _ | completeCycle _ none => .advance
  | createPlan _ _ | reopenPlan _ | deletePostPlans _ | createPostPlans _ _ => .replace
  | deliverPack _ _ | createItem _ _ | createVersion _ _ | setCurrentVersion _ _
  | completeCycle _ (some _) => .deliver
  | markPackStatus _ current next =>
      if isCompletedPackStatus current || isCompletedPackStatus next then .deliver else .shared
  | failPack _ _ => .fail
  | _ => .shared

section Bodies

variable {P : Statement → Prop} {α : Type}

theorem asks_require {condition : Bool} {error : ContentError} :
    Asks P (require condition error) := by
  unfold require
  split
  · exact asks_pure ()
  · exact @asks_throw content _ P error

theorem asks_orThrow (row : Option α) : Asks P (orThrow row) := by
  cases row with
  | none => exact @asks_throw content _ P _
  | some row => exact asks_pure row

variable (shared : ∀ asked : Statement, asked.part = .shared → P asked)
include shared

theorem asks_appendEvent (packId : Uuid) (stage : String) (status : ProgressStatus) :
    Asks P (appendEvent packId stage status) :=
  asks_bind (asks_ask (shared _ rfl)) fun _ => asks_ask (shared _ rfl)

theorem asks_createIntent (jobId : JobId) (payload : GenerateJobData) :
    Asks P (createIntent jobId payload) := by
  refine asks_tryCatch (asks_ask (shared _ rfl)) fun error => ?_
  refine asks_bind asks_require fun _ => asks_bind (asks_ask (shared _ rfl)) fun existing => ?_
  cases existing with
  | none => exact @asks_throw content _ P _
  | some existing => exact asks_require

theorem asks_includePostPlans (plan : Option ContentWeekPlan) :
    Asks P (includePostPlans plan) := by
  cases plan with
  | none => exact asks_pure none
  | some plan => exact asks_bind (asks_ask (shared _ rfl)) fun _ => asks_pure _

theorem asks_getWeekPlan (cycleId : Uuid) (week : Nat) (ownerUserId : Uuid) :
    Asks P (do
      assertCycleOwned cycleId ownerUserId
      includePostPlans (← ask (.findPlanOfWeek cycleId week))) := by
  refine asks_bind (asks_bind (asks_ask (shared _ rfl)) fun _ => asks_require) fun _ => ?_
  exact asks_bind (asks_ask (shared _ rfl)) fun plan => asks_includePostPlans shared plan

theorem asks_putContext (cycleId : Uuid) (week : Nat) (content : WeekContextContent) :
    Asks P (putContext cycleId week content) := by
  refine asks_bind (asks_ask (shared _ rfl)) fun cycle => asks_bind asks_require fun _ => ?_
  refine asks_bind (asks_ask (shared _ rfl)) fun existing => ?_
  cases existing with
  | none =>
      refine asks_tryCatch (asks_ask (shared _ rfl)) fun error => asks_bind asks_require fun _ => ?_
      refine asks_bind (asks_ask (shared _ rfl)) fun found => ?_
      refine asks_bind (asks_orThrow found) fun claimed => ?_
      exact asks_bind asks_require fun _ => asks_pure _
  | some existing =>
      refine asks_bind asks_require fun _ => asks_bind (asks_ask (shared _ rfl)) fun updated => ?_
      refine asks_bind asks_require fun _ => asks_bind (asks_ask (shared _ rfl)) fun found => ?_
      exact asks_orThrow found

theorem asks_leaseIntents (leaseOwner : Uuid) (leaseExpiresAt : Instant)
    (due : List ContentJobOutbox) : Asks P (leaseIntents leaseOwner leaseExpiresAt due) := by
  induction due with
  | nil => exact asks_pure []
  | cons row rest inductionHypothesis =>
      refine asks_bind (asks_ask (shared _ rfl)) fun claimed => ?_
      exact asks_bind inductionHypothesis fun _ => asks_pure _

theorem asks_decideOnce (input : CreateOptimizationDecisionInput) : Asks P (decideOnce input) := by
  refine asks_bind (asks_ask (shared _ rfl)) fun byKey => ?_
  cases byKey with
  | some existing => exact asks_require
  | none =>
  refine asks_bind (asks_ask (shared _ rfl)) fun byFingerprint => ?_
  cases byFingerprint with
  | some existing => exact asks_require
  | none =>
  refine asks_bind (asks_ask (shared _ rfl)) fun _ => asks_bind (asks_ask (shared _ rfl)) ?_
  intro proposal
  cases proposal with
  | none => exact @asks_throw content _ P _
  | some proposal =>
  refine asks_bind asks_require fun _ => asks_bind (asks_ask (shared _ rfl)) fun decided => ?_
  cases decided with
  | some existing => exact asks_require
  | none =>
  refine asks_bind (asks_ask (shared _ rfl)) fun decision => ?_
  split
  · exact asks_ask (shared _ rfl)
  · exact asks_pure ()

theorem asks_requeue (packId : Uuid) (retryEligible : Option Bool) (jobId : JobId)
    (payload : GenerateJobData) (conflict : ContentError) :
    Asks P (do
      let changed ← markPackStatus packId .failed .queued
      require changed conflict
      match retryEligible with
      | none => pure ()
      | some retryEligible => ask (.setRetryEligible packId retryEligible)
      createIntent jobId payload) := by
  refine asks_bind (asks_bind asks_require fun _ => asks_ask (shared _ rfl)) fun changed => ?_
  refine asks_bind asks_require fun _ => ?_
  cases retryEligible with
  | none => exact asks_bind (asks_pure ()) fun _ => asks_createIntent shared jobId payload
  | some eligible =>
      exact asks_bind (asks_ask (shared _ rfl)) fun _ => asks_createIntent shared jobId payload

/-! ### The bodies of the operations -/

omit shared in
theorem asks_createItems (delivers : ∀ asked : Statement, asked.part = .deliver → P asked)
    (packId : Uuid) (items : List ContentItemVersionDraft) : Asks P (createItems packId items) := by
  induction items with
  | nil => exact asks_pure ()
  | cons draft rest inductionHypothesis =>
      refine asks_bind (asks_ask (delivers _ rfl)) fun _ => ?_
      refine asks_bind (asks_ask (delivers _ rfl)) fun _ => ?_
      exact asks_bind (asks_ask (delivers _ rfl)) fun _ => inductionHypothesis

theorem asks_deliverItems (delivers : ∀ asked : Statement, asked.part = .deliver → P asked)
    (packId cycleId : Uuid) (week : Nat) (items : List ContentItemVersionDraft) :
    Asks P (deliverItems packId cycleId week items) := by
  refine asks_bind (asks_ask (shared _ rfl)) fun found => asks_bind (asks_orThrow found) ?_
  intro pack
  refine asks_bind asks_require fun _ => asks_bind asks_require fun _ => ?_
  refine asks_bind (asks_createItems delivers packId items) fun _ => ?_
  refine asks_bind (asks_ask (delivers _ rfl)) fun updated => asks_bind asks_require fun _ => ?_
  split
  · exact asks_bind (asks_ask (delivers _ rfl)) fun _ => asks_appendEvent shared _ _ _
  · exact asks_appendEvent shared _ _ _

theorem asks_safeFail (fails : ∀ asked : Statement, asked.part = .fail → P asked) (packId : Uuid)
    (retryEligible : Bool) :
    Asks P (do
      ask (.failPack packId retryEligible)
      appendEvent packId "failed" .failed) :=
  asks_bind (asks_ask (fails _ rfl)) fun _ => asks_appendEvent shared _ _ _

theorem asks_replacePlan (replaces : ∀ asked : Statement, asked.part = .replace → P asked)
    (cycleId : Uuid) (week : Nat) (postPlans : List PostPlanInput) (ownerUserId : Uuid) :
    Asks P (replacePlan cycleId week postPlans ownerUserId) := by
  refine asks_bind (asks_bind (asks_ask (shared _ rfl)) fun _ => asks_require) fun _ => ?_
  refine asks_bind (asks_ask (shared _ rfl)) fun plan => ?_
  refine asks_bind (asks_includePostPlans shared plan) fun existing => ?_
  cases existing with
  | none =>
      refine asks_bind (asks_ask (replaces _ rfl)) fun created => ?_
      refine asks_bind (asks_ask (replaces _ rfl)) fun _ => asks_bind (asks_ask (shared _ rfl)) ?_
      exact fun row => asks_includePostPlans shared row
  | some existing =>
      refine asks_bind asks_require fun _ => asks_bind (asks_ask (replaces _ rfl)) fun _ => ?_
      refine asks_bind (asks_ask (replaces _ rfl)) fun _ => ?_
      refine asks_bind (asks_ask (replaces _ rfl)) fun _ => asks_bind (asks_ask (shared _ rfl)) ?_
      exact fun row => asks_includePostPlans shared row

theorem asks_prepareNextWeek (cycleId : Uuid) (nextWeek : Nat) :
    Asks P (prepareNextWeek cycleId nextWeek) := by
  refine asks_bind (asks_ask (shared _ rfl)) fun existing => ?_
  cases existing with
  | none => exact asks_bind (asks_ask (shared _ rfl)) fun _ => asks_pure _
  | some existing => exact asks_pure _

theorem asks_rollOver {cycleId : Uuid} (completes : P (.completeCycle cycleId none))
    (advances : ∀ week, week < contentWeekCount → P (.advanceCycle cycleId week))
    (expected : Nat) : Asks P (rollOver cycleId expected) := by
  refine asks_bind (asks_ask (shared _ rfl)) fun _ => asks_bind (asks_ask (shared _ rfl)) ?_
  refine fun found => asks_bind (asks_orThrow found) fun cycle => ?_
  split
  · exact asks_pure ()
  split
  · exact asks_pure ()
  split
  · exact asks_ask completes
  next early =>
  refine asks_bind (asks_ask (advances _ (Nat.lt_of_not_le early))) fun advanced => ?_
  split
  · exact asks_prepareNextWeek shared cycleId _
  · exact asks_pure ()

end Bodies

/-! ### Calls -/

/-- What holds of programs and composes. -/
structure Composable (K : (α : Type) → Code α → Prop) : Prop where
  pure : ∀ {α : Type} (value : α), K α (pure value)
  throw : ∀ {α : Type} (error : ContentError), K α (throw error)
  bind : ∀ {α β : Type} {program : Code α} {next : α → Code β},
    K α program → (∀ value, K β (next value)) → K β (program >>= next)
  tryCatch : ∀ {α : Type} {program : Code α} {handler : ContentError → Code α},
    K α program → (∀ error, K α (handler error)) → K α (tryCatch program handler)
  discard : ∀ {α : Type} {program : Code α}, K α program → K Unit program.discard

theorem composable_maintains {around : Surroundings} (protocol : Protocol (system around))
    (pid : Pid) (call : Call) :
    Composable fun _ program => protocol.Maintains pid call program where
  pure := maintains_pure
  throw error := @maintains_throw _ _ _ _ _ protocol pid call _ error
  bind := maintains_bind
  tryCatch := maintains_tryCatch
  discard := maintains_discard

/-- What holds of the operations of a call, whose claims are those of `claims`. -/
structure Operations (K : (α : Type) → Code α → Prop) (claims : ClaimInput → Prop) : Prop
    extends Composable K where
  shared : ∀ asked : Statement, asked.part = .shared → K _ (ask asked)
  asks : ∀ {α : Type} {body : Code α}, Asks (fun asked : Statement => asked.part = .shared) body →
    K _ (Program.transaction body)
  claim : ∀ cycleId week weekContextId jobIntent, 1 ≤ week → week ≤ contentWeekCount →
    K _ (Program.transaction (queuePack cycleId week weekContextId jobIntent))
  claimV2 : ∀ input, claims input → 1 ≤ input.weekNumber → input.weekNumber ≤ contentWeekCount →
    K _ (Program.transaction (queuePackV2 input))
  advance : ∀ cycleId expected, K _ (advanceToNextWeek cycleId expected)
  replace : ∀ cycleId week postPlans ownerUserId,
    K _ (Program.transaction (replacePlan cycleId week postPlans ownerUserId))
  createCycle : ∀ input ownerUserId content, K _ (createCycleWithWeekOne input ownerUserId content)
  deliver : ∀ packId cycleId week items, items ≠ [] →
    K _ (persistGeneratedItems packId cycleId week items)
  fail : ∀ packId retryEligible, K _ (safeFail packId retryEligible)

namespace Operations

variable {K : (α : Type) → Code α → Prop} {claims : ClaimInput → Prop}
  (kept : Operations K claims)
include kept

theorem require {condition : Bool} {error : ContentError} : K _ (require condition error) := by
  unfold Content.require
  split
  · exact kept.pure ()
  · exact kept.throw error

theorem check {α : Type} {checked : Except ContentError α} : K _ (check checked) := by
  cases checked with
  | ok value => exact kept.pure value
  | error error => exact kept.throw error

/-- What meets the requirement. -/
theorem meeting {α : Type} {condition : Bool} {error : ContentError} {next : Unit → Code α}
    (goesOn : condition = true → K _ (next ())) : K _ (Content.require condition error >>= next) := by
  unfold Content.require
  split
  · next met => exact goesOn met
  · exact kept.throw error

/-! ### Parts of calls -/

theorem progress (packId : Uuid) (stage : String) (status : ProgressStatus) (attempts : Nat) :
    K _ (appendProgressEvent packId stage status attempts) := by
  induction attempts with
  | zero => exact kept.throw _
  | succ attempts inductionHypothesis =>
      refine kept.tryCatch (kept.asks (asks_appendEvent (fun _ => id) _ _ _)) fun error => ?_
      split
      · exact kept.throw error
      · exact inductionHypothesis

theorem resolveClaim (cycleId : Uuid) (week : Nat) (error : ContentError) :
    K _ (resolveClaim cycleId week error) := by
  unfold Content.resolveClaim
  split
  · refine kept.bind (kept.shared (.findPackOfWeek _ _) rfl) fun existing => ?_
    cases existing with
    | none => exact kept.throw error
    | some existing => exact kept.pure _
  · exact kept.throw error

theorem inRange {α : Type} {week : Nat} {next : Unit → Code α}
    (goesOn : 1 ≤ week → week ≤ contentWeekCount → K _ (next ())) :
    K _ (assertWeekInRange week >>= next) := by
  refine kept.meeting fun met => ?_
  simp only [Bool.and_eq_true, decide_eq_true_eq] at met
  exact goesOn met.1 met.2

theorem claimQueuedPack (cycleId : Uuid) (week : Nat) (weekContextId : Uuid) (jobIntent : Bool) :
    K _ (claimQueuedPack cycleId week weekContextId jobIntent) :=
  kept.inRange fun positive bounded =>
    kept.tryCatch (kept.claim cycleId week weekContextId jobIntent positive bounded)
      (kept.resolveClaim cycleId week)

theorem claimQueuedPackV2 (input : ClaimInput) (admitted : claims input) :
    K _ (claimQueuedPackV2 input) :=
  kept.inRange fun positive bounded =>
    kept.tryCatch (kept.claimV2 input admitted positive bounded)
      (kept.resolveClaim input.cycleId input.weekNumber)

theorem findOwned (id ownerUserId : Uuid) : K _ (getCycleByIdAndOwner id ownerUserId) := by
  refine kept.bind (kept.shared (.findCycle _) rfl) fun found => ?_
  split
  · exact kept.throw _
  · exact kept.pure _

theorem assertActive (cycle : ContentCycle) : K _ (assertCycleActive cycle) :=
  kept.bind kept.require fun _ => kept.require

theorem assertAllowed (userId : Uuid) (requested : Int) : K _ (assertAllowed userId requested) := by
  refine kept.bind (kept.shared (.assertAllowed _ _ _) rfl) fun reply => ?_
  rcases reply with error | ⟨⟩
  · exact kept.throw _
  · exact kept.pure ()

theorem recordItems (ownerUserId packId : Uuid) (count : Nat) :
    K _ (recordItems ownerUserId packId count) := by
  refine kept.bind ?_ fun _ => kept.shared (.recordProviderCost _ _ _) rfl
  refine kept.bind (kept.shared (.spendPoints _ _ _ _) rfl) fun reply => ?_
  rcases reply with error | ⟨⟩
  · exact kept.throw _
  · exact kept.pure ()

theorem hasPack (cycleId : Uuid) (week : Nat) : K _ (hasPackForWeek cycleId week) :=
  kept.bind (kept.shared (.findPackOfWeek _ _) rfl) fun _ => kept.pure _

theorem enqueue (jobId : JobId) (data : GenerateJobData) : K _ (enqueue jobId data) :=
  kept.bind (kept.shared (.addJob _ _) rfl) fun _ =>
    kept.bind (kept.shared (.markDirectDispatched _) rfl) fun _ => kept.pure _

theorem createIntent (jobId : JobId) (payload : GenerateJobData) :
    K _ (createIntent jobId payload) := by
  refine kept.tryCatch (kept.shared (.createIntent _ _) rfl) fun error => ?_
  refine kept.bind kept.require fun _ => kept.bind (kept.shared (.findIntent _) rfl) ?_
  intro existing
  cases existing with
  | none => exact kept.throw _
  | some existing => exact kept.require

theorem mark (packId : Uuid) : K _ (markPackStatus packId .generating .validating) :=
  kept.bind kept.require fun _ => kept.shared (.markPackStatus _ _ _) rfl

/-! ### Requests -/

theorem upsertWeekContext (cycleId : Uuid) (week : Nat) (content : WeekContextContent)
    (ownerUserId : Uuid) : K _ (upsertWeekContext cycleId week content ownerUserId) := by
  refine kept.bind (kept.findOwned _ _) fun cycle => kept.bind (kept.assertActive cycle) fun _ => ?_
  refine kept.bind kept.require fun _ => ?_
  refine kept.bind (kept.shared (.findContextOfWeek _ _) rfl) fun existing => ?_
  refine kept.bind kept.require fun _ => kept.bind (kept.hasPack _ _) fun packExists => ?_
  exact kept.bind kept.require fun _ => kept.asks (asks_putContext (fun _ => id) _ _ _)

theorem safeDefault (cycleId : Uuid) (week : Nat) : K _ (safeDefaultWeekContext cycleId week) := by
  refine kept.bind (kept.shared (.findCycle _) rfl) fun found => ?_
  cases found with
  | none => exact kept.throw _
  | some cycle =>
  refine kept.bind kept.require fun _ => kept.bind (kept.hasPack _ _) fun hasPack => ?_
  refine kept.bind kept.require fun _ => kept.bind (kept.shared (.findCycle _) rfl) fun cycle => ?_
  refine kept.bind kept.require fun _ => kept.bind (kept.shared (.safeDefault _) rfl) ?_
  refine fun content => kept.tryCatch (kept.shared (.createContext _ _ _ _) rfl) fun error => ?_
  refine kept.bind kept.require fun _ => kept.bind (kept.shared (.findContextOfWeek _ _) rfl) ?_
  intro existing
  cases existing with
  | none => exact kept.throw _
  | some existing => exact kept.pure _

theorem resolveContext (cycleId : Uuid) (week : Nat) : K _ (resolveContext cycleId week) := by
  refine kept.bind (kept.shared (.findContextOfWeek _ _) rfl) fun existing => ?_
  cases existing with
  | none => exact kept.bind (kept.safeDefault _ _) fun _ => kept.pure _
  | some existing => exact kept.pure _

theorem generateWeekV1 (cycle : ContentCycle) (cycleId : Uuid) (week : Nat) (ownerUserId : Uuid) :
    K _ (generateWeekV1 cycle cycleId week ownerUserId) := by
  refine kept.bind (kept.assertActive cycle) fun _ => kept.bind kept.require fun _ => ?_
  refine kept.bind (kept.assertAllowed _ _) fun _ => kept.bind (kept.hasPack _ _) fun existing => ?_
  refine kept.bind kept.require fun _ => ?_
  refine kept.bind (kept.resolveContext _ _) fun weekContextId => ?_
  refine kept.bind (kept.claimQueuedPack _ _ _ _) fun claimed => ?_
  refine kept.bind (kept.createIntent _ _) fun _ => ?_
  dsimp only
  split
  · refine kept.bind (kept.enqueue _ _) fun _ => ?_
    exact kept.bind (kept.progress _ _ _ _) fun _ => kept.pure _
  split
  · exact kept.bind (kept.enqueue _ _) fun _ => kept.pure _
  · exact kept.pure _

theorem instructionFor (cycle : ContentCycle) (postPlans : List ContentPostPlan) :
    K _ (findInstructionFor cycle postPlans) := by
  unfold findInstructionFor findPendingInstruction
  split
  · split
    · exact kept.pure _
    · exact kept.shared (.findPendingInstruction _ _) rfl
  · exact kept.pure _

section Claims

variable (admits : ∀ cycleId week weekPlan context instruction,
  claims (claimInputOf cycleId week weekPlan context instruction))
include admits

theorem claimAndEnqueue (cycleId : Uuid) (week : Nat) (weekPlan : WeekPlanWithPosts)
    (context : ContentWeekContext) (instruction : Option ApprovedOptimizationInstruction) :
    K _ (claimAndEnqueue cycleId week weekPlan context instruction) := by
  refine kept.bind (kept.claimQueuedPackV2 _ (admits _ _ _ _ _)) fun claimed => ?_
  dsimp only
  split
  · exact kept.bind (kept.enqueue _ _) fun _ => kept.pure _
  split
  · exact kept.bind (kept.shared (.addJob _ _) rfl) fun _ => kept.pure _
  · exact kept.pure _

theorem generateWeekV2 (cycle : ContentCycle) (cycleId : Uuid) (week : Nat) (ownerUserId : Uuid) :
    K _ (generateWeekV2 cycle cycleId week ownerUserId) := by
  refine kept.bind kept.require fun _ => kept.bind kept.require fun _ => ?_
  refine kept.bind kept.require fun _ => ?_
  refine kept.bind (kept.asks (asks_getWeekPlan (fun _ => id) _ _ _)) fun weekPlan => ?_
  refine kept.bind (kept.shared (.libraries _ _) rfl) fun libraries => ?_
  refine kept.bind (kept.shared (.findContextOfWeek _ _) rfl) fun weekContext => ?_
  split
  · exact kept.throw _
  refine kept.bind kept.require fun _ => ?_
  cases weekContext with
  | none => exact kept.throw _
  | some context =>
      refine kept.bind kept.check fun _ => kept.bind (kept.instructionFor _ _) fun instruction => ?_
      exact kept.claimAndEnqueue admits _ _ _ _ _

theorem generateWeek (cycleId : Uuid) (week : Nat) (ownerUserId : Uuid) :
    K _ (generateWeek cycleId week ownerUserId) := by
  refine kept.bind (kept.findOwned _ _) fun cycle => ?_
  split
  · exact kept.generateWeekV1 _ _ _ _
  · exact kept.bind (kept.findOwned _ _) fun cycle => kept.generateWeekV2 admits _ _ _ _

end Claims

theorem retryPack (id ownerUserId correlationId : Uuid) :
    K _ (retryPack id ownerUserId correlationId) := by
  refine kept.bind (kept.shared (.findPackOfOwner _ _) rfl) fun found => ?_
  cases found with
  | none => exact kept.throw _
  | some pack =>
      refine kept.bind kept.require fun _ => kept.bind kept.require fun _ => ?_
      refine kept.bind (kept.asks (asks_requeue (fun _ shared => shared) _ none _ _ _)) fun _ => ?_
      exact kept.bind (kept.enqueue _ _) fun _ => kept.progress _ _ _ _

theorem packOrThrow (packId ownerUserId : Uuid) : K _ (getPackOrThrow packId ownerUserId) := by
  refine kept.bind (kept.shared (.findPack _) rfl) fun found => ?_
  cases found with
  | none => exact kept.throw _
  | some pack =>
      refine kept.bind (kept.shared (.findCycle _) rfl) fun cycle => ?_
      split
      · exact kept.throw _
      · exact kept.bind kept.require fun _ => kept.pure _

theorem assertFrozen (weekPlanId : Option Uuid) : K _ (assertFrozenPlan weekPlanId) := by
  cases weekPlanId with
  | none => exact kept.throw _
  | some weekPlanId =>
      exact kept.bind (kept.shared (.findPlan _) rfl) fun weekPlan => kept.require

theorem regenerateFailedPack (packId ownerUserId correlationId : Uuid) :
    K _ (regenerateFailedPack packId ownerUserId correlationId) := by
  refine kept.bind (kept.packOrThrow _ _) fun found => ?_
  refine kept.bind kept.require fun _ => kept.bind kept.require fun _ => ?_
  refine kept.bind kept.require fun _ => kept.bind (kept.assertFrozen _) fun _ => ?_
  refine kept.bind (kept.asks (asks_requeue (fun _ => id) _ (some false) _ _ _)) fun _ => ?_
  exact kept.bind (kept.enqueue _ _) fun _ => kept.progress _ _ _ _

/-! ### Jobs -/

theorem generateItems (around : Surroundings) (data : GenerateJobData) (pack : ContentPack) :
    K _ (generateItems around data pack) := by
  refine kept.bind (kept.shared (.findCycle _) rfl) fun cycle => ?_
  refine kept.bind (kept.shared (.hasInputs _) rfl) fun hasInputs => ?_
  split
  · exact kept.throw _
  · refine kept.bind (kept.assertAllowed _ _) fun _ => ?_
    refine kept.bind (kept.shared (.generate _ _) rfl) fun reply => ?_
    refine kept.bind (kept.mark _) fun _ => kept.bind kept.check fun items => ?_
    refine kept.meeting fun filled => ?_
    have nonempty : items ≠ [] := by simpa using filled
    exact kept.bind (kept.deliver _ _ _ _ nonempty) fun _ => kept.recordItems _ _ _

theorem attach (plans : List ContentPostPlan) (items : List ContentItemVersionDraft) :
    K _ (attachItems plans items) := by
  induction plans generalizing items with
  | nil => exact kept.pure ()
  | cons plan plans inductionHypothesis =>
      cases items with
      | nil => exact kept.pure ()
      | cons item items =>
          exact kept.bind (kept.shared (.attachGeneratedItem _ _ _) rfl) fun _ =>
            inductionHypothesis items

theorem generateItemsV2 (data : GenerateJobData) (pack : ContentPack) (weekPlanId : Uuid) :
    K _ (generateItemsV2 data pack weekPlanId) := by
  refine kept.bind (kept.shared (.markPlans _ _ _) rfl) fun _ => ?_
  refine kept.bind (kept.shared (.findCycle _) rfl) fun cycle => ?_
  refine kept.bind (kept.shared (.findPlan _) rfl) fun weekPlan => ?_
  refine kept.bind (kept.shared (.hasInputs _) rfl) fun hasInputs => ?_
  split
  · exact kept.throw _
  · exact kept.throw _
  · split
    · exact kept.throw _
    · refine kept.bind (kept.assertAllowed _ _) fun _ => ?_
      refine kept.bind (kept.shared (.generate _ _) rfl) fun reply => ?_
      refine kept.bind (kept.mark _) fun _ => kept.bind kept.require fun _ => ?_
      refine kept.meeting fun counted => ?_
      have nonempty : reply.itemVersions ≠ [] := by
        rintro empty
        simp [empty] at counted
      refine kept.bind (kept.deliver _ _ _ _ nonempty) fun _ => ?_
      exact kept.bind (kept.attach _ _) fun _ => kept.recordItems _ _ _

theorem failGeneration (packId : Uuid) (attemptsMade : Nat) (error : ContentError)
    {failPlans : Code Unit} (plans : K _ failPlans) :
    K _ (failGeneration packId attemptsMade error failPlans) := by
  refine kept.bind (kept.fail _ _) fun _ => kept.bind plans fun _ => ?_
  split
  · exact kept.throw _
  · exact kept.pure ()

theorem handleGenerate (around : Surroundings) (data : GenerateJobData) (attemptsMade : Nat) :
    K _ (handleGenerate around data attemptsMade) := by
  refine kept.bind (kept.shared (.findPack _) rfl) fun found => ?_
  cases found with
  | none => exact kept.pure ()
  | some pack =>
      refine kept.bind (kept.shared (.claimPack _) rfl) fun claimed => ?_
      split
      · refine kept.bind (kept.progress _ _ _ _) fun _ => ?_
        exact kept.tryCatch (kept.generateItems _ _ _) fun error =>
          kept.failGeneration _ _ error (kept.pure ())
      · exact kept.pure ()

theorem handleGenerateV2 (data : GenerateJobData) (attemptsMade : Nat) :
    K _ (handleGenerateV2 data attemptsMade) := by
  refine kept.bind (kept.shared (.findPack _) rfl) fun found => ?_
  cases found with
  | none => exact kept.pure ()
  | some pack =>
      dsimp only
      split
      · exact kept.throw _
      · next weekPlanId _ =>
        refine kept.bind (kept.shared (.claimPack _) rfl) fun claimed => ?_
        split
        · refine kept.bind (kept.progress _ _ _ _) fun _ => ?_
          refine kept.tryCatch (kept.generateItemsV2 _ _ _) fun error => ?_
          refine kept.failGeneration _ _ error ?_
          exact kept.tryCatch (kept.shared (.markPlans _ _ _) rfl) fun _ => kept.pure ()
        · exact kept.pure ()

theorem process (around : Surroundings) (data : GenerateJobData) (attemptsMade : Nat) :
    K _ (process around data attemptsMade) := by
  unfold Content.process
  split
  · exact kept.handleGenerate _ _ _
  · exact kept.handleGenerateV2 _ _

theorem dispatch (leaseOwner : Uuid) (now : Instant) (claimed : List ContentJobOutbox) :
    K _ (dispatch leaseOwner now claimed) := by
  induction claimed with
  | nil => exact kept.pure ()
  | cons row rest inductionHypothesis =>
      refine kept.bind (kept.tryCatch ?_ fun _ => ?_) fun _ => inductionHypothesis
      · refine kept.bind (kept.shared (.addJob _ _) rfl) fun _ => ?_
        exact kept.bind (kept.shared (.markDispatched _ _) rfl) fun _ => kept.pure _
      · refine kept.bind (kept.shared (.findLeased _ _) rfl) fun found => ?_
        cases found with
        | none => exact kept.pure ()
        | some current =>
            exact kept.bind (kept.shared (.releaseIntent _ _ _ _) rfl) fun _ => kept.pure _

theorem reconcile (leaseOwner : Uuid) (now : Instant) : K _ (reconcile leaseOwner now) := by
  refine kept.bind (kept.asks ?_) fun claimed => kept.dispatch _ _ _
  refine asks_bind (asks_ask rfl) fun _ => asks_bind (asks_ask rfl) fun due => ?_
  split
  · exact asks_pure _
  · exact asks_bind (asks_leaseIntents (fun _ => id) _ _ _) fun claimedIds => asks_ask rfl

theorem decide (input : CreateOptimizationDecisionInput) : K _ (createDecision input) := by
  refine kept.tryCatch (kept.asks (asks_decideOnce (fun _ => id) _)) fun error => ?_
  split
  · exact kept.throw _
  · exact kept.throw _

/-- What composes and holds of every operation holds of every call. -/
theorem program (around : Surroundings) (call : Call)
    (admits : ∀ cycleId week weekPlan context instruction,
      claims (claimInputOf cycleId week weekPlan context instruction))
    (raw : ∀ input, call = .claimQueuedPackV2 input → claims input) :
    K _ (call.program around) := by
  cases call with
  | createLegacyCycle input ownerUserId =>
      exact kept.discard (kept.shared (.createCycle input ownerUserId) rfl)
  | createCycle input ownerUserId content => exact kept.discard (kept.createCycle _ _ _)
  | pauseCycle id ownerUserId reason =>
      refine kept.asks (asks_bind (asks_ask rfl) fun _ => asks_bind asks_require fun _ => ?_)
      exact asks_bind (asks_ask rfl) fun _ => asks_require
  | resumeCycle id ownerUserId =>
      refine kept.asks (asks_bind (asks_ask rfl) fun _ => asks_bind asks_require fun _ => ?_)
      exact asks_bind (asks_ask rfl) fun _ => asks_require
  | advanceToNextWeek cycleId expected => exact kept.advance _ _
  | upsertOwnerContext cycleId week content =>
      exact kept.discard (kept.asks (asks_putContext (fun _ => id) _ _ _))
  | upsertWeekContext cycleId week content ownerUserId =>
      exact kept.discard (kept.upsertWeekContext _ _ _ _)
  | createOrReplaceWeekPlan cycleId week postPlans ownerUserId =>
      refine kept.discard (kept.bind ?_ fun _ => kept.replace _ _ _ _)
      exact kept.bind kept.require fun _ => kept.require
  | claimQueuedPack cycleId week weekContextId jobIntent =>
      exact kept.discard (kept.claimQueuedPack _ _ _ _)
  | claimQueuedPackV2 input => exact kept.discard (kept.claimQueuedPackV2 input (raw input rfl))
  | generateWeek cycleId week ownerUserId => exact kept.discard (kept.generateWeek admits _ _ _)
  | retryPack id ownerUserId correlationId => exact kept.retryPack _ _ _
  | regenerateFailedPack id ownerUserId correlationId => exact kept.regenerateFailedPack _ _ _
  | process data attemptsMade => exact kept.process around data attemptsMade
  | turnJob jobId state => exact kept.shared (.turnJob jobId state) rfl
  | reconcile leaseOwner now => exact kept.reconcile leaseOwner now
  | createProposal row => exact kept.shared (.createProposal row) rfl
  | createDecision input => exact kept.decide input
  | spendElsewhere userId metric units claimKey =>
      exact kept.shared (.spendElsewhere userId metric units claimKey) rfl
  | topUp account request => exact kept.shared (.topUp account request) rfl

end Operations

end MarketMind.Content
