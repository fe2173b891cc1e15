import MarketMind.Orchestration.Lifecycle
import MarketMind.Orchestration.Phase3

/-!
Owns what holds in every run of the Strategy graph: how far a run is, by the node that comes next,
what its owner has been shown, and which commands it has been resumed with.

Does not own the Content graph.
-/

namespace MarketMind.Orchestration.Phase3

open Graphs StateGraph

def Command.isDecision : Command → Bool
  | receipt _ => false
  | decision _ => true

/-! ### How far a run is -/

/-- The run is that of its start. -/
structure Mine (values : Values) : Prop where
  runId : values.orchestration.runId = values.start.runId
  businessId : values.orchestration.businessId = values.start.businessId
  ownerUserId : values.orchestration.ownerUserId = values.start.ownerUserId
  strategyId : values.orchestration.strategyId = values.start.strategyId

/-- The plan is the draft of the run. -/
structure Drafted (around : Surroundings) (values : Values) (plan : StrategyPlan) : Prop where
  isPlan : values.plan = some plan
  draftId : values.orchestration.strategy.draftId = some plan.id
  version : values.orchestration.strategy.version = some plan.version
  checksum : values.orchestration.strategy.checksum = some (around.planChecksum plan)

/-- The receipt is one of the run, for exactly the plan. -/
structure Receipted (around : Surroundings) (values : Values) (plan : StrategyPlan)
    (receipt : PersistenceReceipt) : Prop where
  runId : receipt.runId = values.start.runId
  businessId : receipt.businessId = values.start.businessId
  strategyId : receipt.strategyId = values.start.strategyId
  draftId : receipt.draftId = plan.id
  version : receipt.strategyVersion = plan.version
  checksum : receipt.strategyChecksum = around.planChecksum plan

/-- The run can still be decided on. -/
structure Open (resumed : List Command) (values : Values) : Prop where
  mine : Mine values
  noError : values.phase3Error = none
  noBinding : values.approvalBinding = none
  undecided : ∀ command ∈ resumed, command.isDecision = false

/-- What the owner is shown: the draft, and later its persisted version. -/
structure Shown (around : Surroundings) (resumed : List Command) (values : Values)
    (plan : StrategyPlan) (payload : ApprovalInterrupt) : Prop where
  drafted : Drafted around values plan
  isPayload : values.approvalInterrupt = some payload
  version : (payload.persistenceRequired = true ∧
      values.orchestration.strategy.versionId = none) ∨
    (payload.persistenceRequired = false ∧ ∃ receipt, .receipt receipt ∈ resumed ∧
      Receipted around values plan receipt ∧
      values.orchestration.strategy.versionId = some receipt.strategyVersionId)

/-- The owner's decision on the persisted version of the draft. -/
structure Decided (around : Surroundings) (resumed : List Command) (values : Values)
    (plan : StrategyPlan) (receipt : PersistenceReceipt) (binding : StrategyDecisionBinding) :
    Prop where
  isBinding : values.approvalBinding = some binding
  given : ∃ earlier, resumed = earlier ++ [.decision binding] ∧ .receipt receipt ∈ earlier
  isPlan : values.plan = some plan
  receipted : Receipted around values plan receipt
  versionId : binding.strategyVersionId = receipt.strategyVersionId
  version : binding.strategyVersion = plan.version
  checksum : binding.strategyChecksum = around.planChecksum plan
  owner : binding.decidedByUserId = values.start.ownerUserId

/-- The run has ended, with an error or with a decision. -/
structure Closed (around : Surroundings) (resumed : List Command) (values : Values) : Prop where
  mine : Mine values
  once : resumed.countP Command.isDecision ≤ 1
  ended : (values.phase3Error.isSome = true ∧ values.approvalBinding = none) ∨
    (values.phase3Error = none ∧ ∃ plan receipt binding,
      Decided around resumed values plan receipt binding)

/-- How far a run is, by the node that comes next. -/
def Sound (around : Surroundings) (resumed : List Command) : Option Node → Values → Prop
  | some .strategy, values => Open resumed values ∧ values.orchestration.status = .running
  | some .review, values =>
      Open resumed values ∧ values.orchestration.status = .running ∧
        ∃ plan, Drafted around values plan
  | some .awaitApproval, values =>
      Open resumed values ∧ values.orchestration.status = .awaitingStrategyApproval ∧
        ∃ plan payload, Shown around resumed values plan payload
  | some .terminal, values => Closed around resumed values
  | none, values => Closed around resumed values

/-- What a node may change: not the start, and the status as the lifecycle allows. -/
structure Follows (before after : Values) : Prop where
  moves : Moves before.orchestration.status after.orchestration.status
  start : after.start = before.start

variable {around : Surroundings} {resumed : List Command} {values : Values}

theorem countP_undecided (undecided : ∀ command ∈ resumed, command.isDecision = false) :
    resumed.countP Command.isDecision = 0 := by
  rw [List.countP_eq_zero]
  intro command member isDecision
  rw [undecided command member] at isDecision
  cases isDecision

/-! ### Nodes -/

theorem open_initial (start : Start) : Sound around [] (some .strategy) (initialState start) :=
  ⟨⟨⟨rfl, rfl, rfl, rfl⟩, rfl, rfl, fun _ member => absurd member List.not_mem_nil⟩, rfl⟩

/-- A failure closes a run. -/
theorem closed_failure {code message : String} {details : Json} (mine : Mine values)
    (once : resumed.countP Command.isDecision ≤ 1) (noBinding : values.approvalBinding = none) :
    Closed around resumed (failureState around values code message details) where
  mine := ⟨mine.runId, mine.businessId, mine.ownerUserId, mine.strategyId⟩
  once := once
  ended := .inl ⟨rfl, noBinding⟩

theorem follows_failure {code message : String} {details : Json}
    (canFail : canTransition values.orchestration.status .failed = true) :
    Follows values (failureState around values code message details) :=
  ⟨.inr canFail, rfl⟩

theorem Open.closed {code message : String} {details : Json} (isOpen : Open resumed values) :
    Closed around resumed (failureState around values code message details) :=
  closed_failure isOpen.mine ((countP_undecided isOpen.undecided).le.trans (Nat.zero_le 1))
    isOpen.noBinding

theorem sound_strategyNode (isOpen : Open resumed values)
    (running : values.orchestration.status = .running)
    (generated : Except GenerationError Generated) :
    Sound around resumed (route .strategy (strategyNode around values generated))
        (strategyNode around values generated) ∧
      Follows values (strategyNode around values generated) := by
  cases generated with
  | error error => exact ⟨isOpen.closed, follows_failure (by rw [running]; rfl)⟩
  | ok generated =>
      have next : route .strategy (strategyNode around values (.ok generated)) = some .review := by
        simp [route, strategyNode, isOpen.noError]
      rw [next]
      obtain ⟨⟨runId, businessId, ownerUserId, strategyId⟩, noError, noBinding, undecided⟩ := isOpen
      refine ⟨⟨⟨⟨runId, businessId, ownerUserId, strategyId⟩, noError, noBinding, undecided⟩,
        running, generated.plan, rfl, rfl, rfl, rfl⟩, .inl rfl, rfl⟩

theorem sound_presented {plan : StrategyPlan} {review : QualityReview} (isOpen : Open resumed values)
    (drafted : Drafted around values plan) :
    Sound around resumed (some .awaitApproval) (presented around values plan review) := by
  obtain ⟨⟨runId, businessId, ownerUserId, strategyId⟩, noError, noBinding, undecided⟩ := isOpen
  exact ⟨⟨⟨runId, businessId, ownerUserId, strategyId⟩, noError, noBinding, undecided⟩, rfl, plan,
    _, ⟨drafted.isPlan, rfl, rfl, rfl⟩, rfl, .inl ⟨rfl, rfl⟩⟩

theorem sound_reviewNode {plan : StrategyPlan} (isOpen : Open resumed values)
    (running : values.orchestration.status = .running) (drafted : Drafted around values plan)
    (reviewed : Except String QualityReview) :
    Sound around resumed (route .review (reviewNode around values reviewed))
        (reviewNode around values reviewed) ∧
      Follows values (reviewNode around values reviewed) := by
  have canFail : canTransition values.orchestration.status .failed = true := by
    rw [running]
    rfl
  have failed : ∀ code message details,
      Sound around resumed (route .review (failureState around values code message details))
          (failureState around values code message details) ∧
        Follows values (failureState around values code message details) :=
    fun _ _ _ => ⟨isOpen.closed, follows_failure canFail⟩
  simp only [reviewNode, drafted.isPlan]
  cases reviewed with
  | error reason => exact failed _ _ _
  | ok review =>
      dsimp only
      split
      · next valid =>
        have next : route .review (presented around values plan review) = some .awaitApproval := by
          simp [route, presented, isOpen.noError, valid]
        rw [next]
        exact ⟨sound_presented isOpen drafted, .inr (by rw [running]; rfl), rfl⟩
      split
      · next invalid repairable =>
        have next : route .review (replanned values review) = some .strategy := by
          simp [route, replanned, isOpen.noError, invalid, (Bool.and_eq_true_iff.mp repairable).1]
        rw [next]
        obtain ⟨⟨runId, businessId, ownerUserId, strategyId⟩, noError, noBinding, undecided⟩ :=
          isOpen
        exact ⟨⟨⟨⟨runId, businessId, ownerUserId, strategyId⟩, noError, noBinding, undecided⟩,
          running⟩, .inl rfl, rfl⟩
      split
      · exact failed _ _ _
      · exact failed _ _ _

/-- A node that nobody resumes keeps how far the run is. -/
theorem sound_execute (node : Node) (values : Values) (answer : Answer)
    (sound : Sound around resumed (some node) values)
    (free : (graph around).interrupt node values = none) :
    Sound around resumed
        ((graph around).route node ((graph around).execute node values none answer))
        ((graph around).execute node values none answer) ∧
      Follows values ((graph around).execute node values none answer) := by
  cases node with
  | strategy => exact sound_strategyNode sound.1 sound.2 answer.generated
  | review =>
      obtain ⟨isOpen, running, plan, drafted⟩ := sound
      exact sound_reviewNode isOpen running drafted answer.reviewed
  | awaitApproval =>
      obtain ⟨-, -, plan, payload, shown⟩ := sound
      cases free.symm.trans shown.isPayload
  | terminal => exact ⟨sound, .inl rfl, rfl⟩

/-! ### Commands -/

theorem isOf_iff {receipt : PersistenceReceipt} {plan : StrategyPlan} (mine : Mine values)
    (drafted : Drafted around values plan) :
    receipt.isOf values.orchestration = true ↔ Receipted around values plan receipt := by
  simp only [PersistenceReceipt.isOf, Bool.and_eq_true, decide_eq_true_eq, mine.runId,
    mine.businessId, mine.strategyId, drafted.draftId, drafted.checksum, drafted.version,
    Option.some.injEq]
  constructor
  · rintro ⟨⟨⟨⟨⟨runId, businessId⟩, strategyId⟩, draftId⟩, checksum⟩, version⟩
    exact ⟨runId, businessId, strategyId, draftId, version, checksum⟩
  · rintro ⟨runId, businessId, strategyId, draftId, version, checksum⟩
    exact ⟨⟨⟨⟨⟨runId, businessId⟩, strategyId⟩, draftId⟩, checksum⟩, version⟩

/-- A receipt that the runner lets through is attached. -/
theorem sound_attachReceipt {plan : StrategyPlan} {payload : ApprovalInterrupt}
    {receipt : PersistenceReceipt} (isOpen : Open resumed values)
    (waits : values.orchestration.status = .awaitingStrategyApproval)
    (shown : Shown around resumed values plan payload) (required : payload.persistenceRequired = true)
    (isOf : receipt.isOf values.orchestration = true) :
    Sound around (resumed ++ [.receipt receipt]) (some .awaitApproval)
        (attachReceipt around values payload receipt) ∧
      route .awaitApproval (attachReceipt around values payload receipt) = some .awaitApproval ∧
      Follows values (attachReceipt around values payload receipt) := by
  have receipted := (isOf_iff isOpen.mine shown.drafted).mp isOf
  obtain ⟨⟨runId, businessId, ownerUserId, strategyId⟩, noError, noBinding, undecided⟩ := isOpen
  unfold attachReceipt
  simp only [required, isOf, Bool.not_true, Bool.false_eq_true, if_false]
  refine ⟨⟨⟨⟨runId, businessId, ownerUserId, strategyId⟩, noError, noBinding, ?_⟩, rfl, plan, _,
    ⟨shown.drafted.isPlan, shown.drafted.draftId, congrArg some receipted.version,
      congrArg some receipted.checksum⟩, rfl,
    .inr ⟨rfl, receipt, List.mem_append_right _ List.mem_cons_self, ?_, rfl⟩⟩, ?_, ?_⟩
  · intro command member
    rcases List.mem_append.mp member with earlier | now
    · exact undecided command earlier
    · rw [List.mem_singleton.mp now]
      rfl
  · obtain ⟨runId, businessId, strategyId, draftId, version, checksum⟩ := receipted
    exact ⟨runId, businessId, strategyId, draftId, version, checksum⟩
  · simp [route, noError, noBinding]
  · exact ⟨.inl waits, rfl⟩

/-- A decision that the runner lets through is recorded. -/
theorem sound_recordDecision {plan : StrategyPlan} {payload : ApprovalInterrupt}
    {binding : StrategyDecisionBinding} (isOpen : Open resumed values)
    (waits : values.orchestration.status = .awaitingStrategyApproval)
    (shown : Shown around resumed values plan payload)
    (isOf : isDecisionOf binding values.orchestration = true) :
    Sound around (resumed ++ [.decision binding]) (some .terminal)
        (recordDecision around values binding) ∧
      route .awaitApproval (recordDecision around values binding) = some .terminal ∧
      Follows values (recordDecision around values binding) := by
  obtain ⟨⟨runId, businessId, ownerUserId, strategyId⟩, noError, noBinding, undecided⟩ := isOpen
  have exact' := isOf
  simp only [isDecisionOf, Bool.and_eq_true, decide_eq_true_eq, shown.drafted.checksum,
    shown.drafted.version, Option.some.injEq] at exact'
  obtain ⟨⟨⟨-, checksum⟩, version⟩, versionId⟩ := exact'.1
  obtain ⟨receipt, attached, receipted, known⟩ : ∃ receipt, .receipt receipt ∈ resumed ∧
      Receipted around values plan receipt ∧
      values.orchestration.strategy.versionId = some receipt.strategyVersionId := by
    rcases shown.version with ⟨-, unknown⟩ | ⟨-, receipted⟩
    · cases versionId.trans unknown
    · exact receipted
  have moves : Follows values (recordDecision around values binding) := by
    unfold recordDecision
    simp only [isOf, Bool.not_true, Bool.false_eq_true, if_false]
    refine ⟨.inr ?_, rfl⟩
    rw [waits]
    dsimp only
    split <;> rfl
  refine ⟨?_, ?_, moves⟩
  · unfold recordDecision
    simp only [isOf, Bool.not_true, Bool.false_eq_true, if_false]
    refine ⟨?_, ?_, .inr ⟨noError, plan, receipt, binding, rfl, ⟨resumed, rfl, attached⟩,
      shown.drafted.isPlan, ?_, ?_, version, checksum, ?_⟩⟩
    · split <;> exact ⟨runId, businessId, ownerUserId, strategyId⟩
    · rw [List.countP_append, countP_undecided undecided]
      rfl
    · obtain ⟨runId, businessId, strategyId, draftId, version, checksum⟩ := receipted
      exact ⟨runId, businessId, strategyId, draftId, version, checksum⟩
    · exact Option.some.inj (versionId.trans known)
    · exact exact'.2.trans ownerUserId
  · unfold recordDecision
    simp only [isOf, Bool.not_true, Bool.false_eq_true, if_false]
    simp [route]

/-! ### Calls -/

variable {thread : Thread} {checkpoint : Checkpoint Node Values ApprovalInterrupt}

/-- What holds of a run between two calls. -/
abbrev Steady (around : Surroundings) (thread : Thread) : Prop :=
  Graphs.Thread.Sound (graph around) (fun _ => True) (Sound around) Follows thread

/-- A paused run waits for its owner. -/
theorem Steady.waits {payload : ApprovalInterrupt} (steady : Steady around thread)
    (paused : thread.paused = some (checkpoint, payload)) :
    thread.checkpoint = some checkpoint ∧ checkpoint.next = some .awaitApproval ∧
      Open thread.resumed checkpoint.values ∧
      checkpoint.values.orchestration.status = .awaitingStrategyApproval ∧
      ∃ plan, Shown around thread.resumed checkpoint.values plan payload := by
  obtain ⟨known, node, next, interrupts, far⟩ := steady.of_paused paused
  cases node with
  | awaitApproval =>
      obtain ⟨isOpen, waits, plan, other, shown⟩ := far
      cases shown.isPayload.symm.trans interrupts
      exact ⟨known, next, isOpen, waits, plan, shown⟩
  | strategy | review | terminal => cases interrupts

theorem checks_of_attach {receipt : PersistenceReceipt} {payload : ApprovalInterrupt}
    (passed : attachChecks receipt values payload = .ok ()) :
    payload.persistenceRequired = true ∧ receipt.isOf values.orchestration = true := by
  obtain ⟨required, passed⟩ := ok_of_orRefuse passed
  exact ⟨required, holds_of_orRefuse passed⟩

theorem checks_of_resume {request : Resume} {binding : StrategyDecisionBinding}
    (passed : validateResumeScope request values = .ok binding) :
    isDecisionOf binding values.orchestration = true := by
  unfold validateResumeScope at passed
  dsimp only at passed
  split at passed
  · cases passed
  · obtain ⟨-, passed⟩ := ok_of_orRefuse passed
    obtain ⟨isOf, passed⟩ := ok_of_orRefuse passed
    cases passed
    exact isOf

/-- A call keeps what holds of a run. One that a check of the runner refuses changes nothing. -/
structure Kept (around : Surroundings) (thread : Thread)
    (after : Thread × Except RunError Outcome) : Prop where
  steady : Steady around after.1
  refused : ∀ code message, after.2 = .error (.refused code message) → after.1 = thread

theorem kept_start (steady : Steady around thread) (input : Start) (answers : List Answer) :
    Kept around thread (start around thread input answers) := by
  unfold start
  split
  · exact ⟨steady, fun _ _ _ => rfl⟩
  · refine ⟨Graphs.Thread.sound_start (fun _ => sound_execute) answers trivial
      (open_initial input), ?_⟩
    intro code message refused
    dsimp only at refused
    split at refused <;> cases refused

theorem kept_attach (steady : Steady around thread) (receipt : PersistenceReceipt)
    (answers : List Answer) :
    Kept around thread (attachPersistedDraft around thread receipt answers) := by
  unfold attachPersistedDraft
  split
  · exact ⟨steady, fun _ _ _ => rfl⟩
  next checkpoint payload paused =>
  split
  · exact ⟨steady, fun _ _ _ => rfl⟩
  next passed =>
  obtain ⟨known, next, isOpen, waits, plan, shown⟩ := steady.waits paused
  obtain ⟨required, isOf⟩ := checks_of_attach passed
  obtain ⟨sound, routes, follows⟩ := sound_attachReceipt isOpen waits shown required isOf
  have executes : ∀ answer, (graph around).execute .awaitApproval checkpoint.values
      (some (.receipt receipt)) answer = attachReceipt around checkpoint.values payload receipt := by
    intro answer
    simp only [graph, awaitApprovalNode, shown.isPayload]
  constructor
  · refine Graphs.Thread.Sound.resume (fun _ => sound_execute) steady known next ?_ answers
    intro answer
    rw [executes answer]
    refine ⟨?_, follows⟩
    show Sound around _ (route .awaitApproval _) _
    rw [routes]
    exact sound
  · intro code message refused
    dsimp only [Graphs.Thread.resume] at refused
    cases answers with
    | nil =>
        rw [invoke_unanswered next] at refused
        cases refused
    | cons answer answers =>
        rw [invoke_resumed next, executes answer] at refused
        obtain ⟨-, -, _, again, shownAgain⟩ := sound
        rw [@invoke_waiting _ _ _ _ _ (graph around)
          ⟨attachReceipt around checkpoint.values payload receipt,
            (graph around).route .awaitApproval
              (attachReceipt around checkpoint.values payload receipt), none⟩
          .awaitApproval again routes shownAgain.isPayload answers] at refused
        cases refused

theorem kept_resume (steady : Steady around thread) (request : Resume) (answers : List Answer) :
    Kept around thread (resume around thread request answers) := by
  unfold resume
  split
  · exact ⟨steady, fun _ _ _ => rfl⟩
  next checkpoint payload paused =>
  split
  · exact ⟨steady, fun _ _ _ => rfl⟩
  next binding passed =>
  obtain ⟨known, next, isOpen, waits, plan, shown⟩ := steady.waits paused
  obtain ⟨sound, routes, follows⟩ := sound_recordDecision isOpen waits shown (checks_of_resume passed)
  have executes : ∀ answer, (graph around).execute .awaitApproval checkpoint.values
      (some (.decision binding)) answer = recordDecision around checkpoint.values binding := by
    intro answer
    simp only [graph, awaitApprovalNode, shown.isPayload]
  have steadyAfter : Steady around (Graphs.Thread.resume (graph around) thread (.decision binding)
      checkpoint answers).1 := by
    refine Graphs.Thread.Sound.resume (fun _ => sound_execute) steady known next ?_ answers
    intro answer
    rw [executes answer]
    refine ⟨?_, follows⟩
    show Sound around _ (route .awaitApproval _) _
    rw [routes]
    exact sound
  refine ⟨steadyAfter, fun code message refused => ?_⟩
  cases answers with
  | nil =>
      dsimp only [Graphs.Thread.resume] at refused
      rw [invoke_unanswered next] at refused
      cases refused
  | cons answer answers =>
      dsimp only at refused
      split at refused
      · cases refused
      split at refused
      · next pausedAgain =>
        -- After a decision nothing waits.
        obtain ⟨shownPayload, isShown⟩ := Option.isSome_iff_exists.mp pausedAgain
        obtain ⟨node, nextAgain, interrupts⟩ := steadyAfter.shows _ rfl shownPayload isShown
        have far := steadyAfter.far _ rfl
        rw [nextAgain] at far
        cases node with
        | awaitApproval =>
            have undecided := far.1.undecided (.decision binding) (by
              simp only [Graphs.Thread.resume, invoke_resumed next, List.isEmpty_cons,
                Bool.false_eq_true, if_false]
              exact List.mem_append_right _ List.mem_cons_self)
            cases undecided
        | strategy | review | terminal => cases interrupts
      · cases refused

/-- What a call does to a run. -/
theorem kept_call (steady : Steady around thread) (given : Call) :
    Kept around thread (call around thread given) := by
  cases given with
  | start input answers => exact kept_start steady input answers
  | attachPersistedDraft receipt answers => exact kept_attach steady receipt answers
  | resume request answers => exact kept_resume steady request answers

/-- Every run is steady after every list of calls. -/
theorem steady_threadAfter (around : Surroundings) (runId : Uuid) (calls : List Call) :
    Steady around (threadAfter around runId calls) := by
  unfold threadAfter
  refine List.foldlRecOn _ _ Graphs.Thread.sound_empty fun thread steady given _ => ?_
  exact (kept_call steady given).steady

end MarketMind.Orchestration.Phase3
