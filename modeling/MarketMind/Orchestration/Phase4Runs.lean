import MarketMind.Orchestration.Lifecycle
import MarketMind.Orchestration.Phase4

/-!
Owns what holds in every run of the Content graph: how far a run is, by the node that comes next,
what its owner has been shown, and which commands it has been resumed with.

Does not own the Strategy graph.
-/

namespace MarketMind.Orchestration.Phase4

open Graphs StateGraph

def Command.isDecision : Command → Bool
  | receipt _ => false
  | decision _ _ => true

/-! ### How far a run is -/

/-- The run is that of its start. -/
structure Mine (values : Values) : Prop where
  runId : values.orchestration.runId = values.start.runId
  businessId : values.orchestration.businessId = values.start.businessId
  ownerUserId : values.orchestration.ownerUserId = values.start.ownerUserId
  strategyId : values.orchestration.strategyId = values.start.strategyId

/-- The item of the pack is the draft of the run. -/
structure Drafted (values : Values) (pack : Pack) (item : ItemVersion) : Prop where
  isDraft : values.contentPack = some (pack, item)
  cycleId : values.orchestration.content.cycleId = some pack.contentCycleId
  packId : values.orchestration.content.packId = some pack.id
  itemId : values.orchestration.content.itemId = some item.contentItemId
  versionId : values.orchestration.content.itemVersionId = some item.id
  version : values.orchestration.content.itemVersion = some item.version
  checksum : values.orchestration.content.checksum = some item.versionChecksum

/-- The receipt is one of the run, for exactly the draft. -/
structure Receipted (values : Values) (pack : Pack) (item : ItemVersion)
    (receipt : PersistenceReceipt) : Prop where
  runId : receipt.runId = values.start.runId
  businessId : receipt.businessId = values.start.businessId
  strategyId : receipt.strategyId = values.start.strategyId
  cycleId : receipt.contentCycleId = pack.contentCycleId
  packId : receipt.contentPackId = pack.id
  itemId : receipt.contentItemId = item.contentItemId
  versionId : receipt.contentItemVersionId = item.id
  version : receipt.contentItemVersion = item.version
  checksum : receipt.contentItemVersionChecksum = item.versionChecksum

/-- The run can still be decided on. -/
structure Open (resumed : List Command) (values : Values) : Prop where
  mine : Mine values
  noError : values.phase4Error = none
  noBinding : values.approvalBinding = none
  undecided : resumed.filter Command.isDecision = []

/-- What the owner is shown: the draft, before and after it is persisted. -/
structure Shown (resumed : List Command) (values : Values) (pack : Pack) (item : ItemVersion)
    (payload : ApprovalInterrupt) : Prop where
  drafted : Drafted values pack item
  isPayload : values.approvalInterrupt = some payload
  attached : payload.persistenceRequired = false →
    ∃ receipt, .receipt receipt ∈ resumed ∧ Receipted values pack item receipt

/-- The owner's decision on the persisted draft. -/
structure Decided (resumed : List Command) (values : Values) (pack : Pack) (item : ItemVersion)
    (receipt : PersistenceReceipt) (binding : ContentDecisionBinding) (idempotencyKey : String) :
    Prop where
  isBinding : values.approvalBinding = some binding
  given : ∃ earlier, resumed = earlier ++ [.decision binding idempotencyKey] ∧
    .receipt receipt ∈ earlier ∧ earlier.filter Command.isDecision = []
  status : values.orchestration.status =
    if binding.decision ≠ .approved then .cancelled else .completed
  isDraft : values.contentPack = some (pack, item)
  receipted : Receipted values pack item receipt
  packId : binding.contentPackId = pack.id
  itemId : binding.contentItemId = item.contentItemId
  versionId : binding.contentItemVersionId = item.id
  version : binding.contentItemVersion = item.version
  checksum : binding.contentItemVersionChecksum = item.versionChecksum
  owner : binding.decidedByUserId = values.start.ownerUserId

/-- The run has failed before any decision. -/
structure Failed (resumed : List Command) (values : Values) : Prop where
  hasError : values.phase4Error.isSome = true
  noBinding : values.approvalBinding = none
  undecided : resumed.filter Command.isDecision = []
  status : values.orchestration.status = .failed

/-- The run has ended. -/
structure Closed (resumed : List Command) (values : Values) : Prop where
  mine : Mine values
  ended : Failed resumed values ∨ (values.phase4Error = none ∧ ∃ pack item receipt binding key,
    Decided resumed values pack item receipt binding key)

/-- How far a run is, by the node that comes next. -/
def Sound (resumed : List Command) : Option Node → Values → Prop
  | some .content, values => Open resumed values ∧ values.orchestration.status = .running
  | some .review, values =>
      Open resumed values ∧ values.orchestration.status = .running ∧
        ∃ pack item, Drafted values pack item
  | some .awaitApproval, values =>
      Open resumed values ∧ values.orchestration.status = .awaitingContentApproval ∧
        ∃ pack item payload, Shown resumed values pack item payload
  | some .terminal, values => Closed resumed values
  | none, values => Closed resumed values

/-- The status stays or changes as the lifecycle allows, but a run is completed from its approval. -/
def Advances (current next : OrchestrationStatus) : Prop :=
  current = next ∨ (canTransition current next = true ∧ next ≠ .completed) ∨
    (current = .awaitingContentApproval ∧ next = .completed)

/-- What a node may change. -/
structure Follows (before after : Values) : Prop where
  advances : Advances before.orchestration.status after.orchestration.status
  start : after.start = before.start

variable {around : Surroundings} {resumed : List Command} {values : Values}

/-! ### Nodes -/

theorem open_initial (start : Start) (handoff : Handoff) :
    Sound [] (some .content) (initialState start handoff) :=
  ⟨⟨⟨rfl, rfl, rfl, rfl⟩, rfl, rfl, rfl⟩, rfl⟩

/-- A failure closes an open run. -/
theorem Open.closed {code message : String} {details : Json} (isOpen : Open resumed values) :
    Closed resumed (failureState around values code message details) where
  mine := ⟨isOpen.mine.runId, isOpen.mine.businessId, isOpen.mine.ownerUserId,
    isOpen.mine.strategyId⟩
  ended := .inl ⟨rfl, isOpen.noBinding, isOpen.undecided, rfl⟩

theorem follows_failure {code message : String} {details : Json}
    (canFail : canTransition values.orchestration.status .failed = true) :
    Follows values (failureState around values code message details) :=
  ⟨.inr (.inl ⟨canFail, nofun⟩), rfl⟩

theorem sound_contentNode (isOpen : Open resumed values)
    (running : values.orchestration.status = .running)
    (generated : Except GenerationError Generated) :
    Sound resumed (route .content (contentNode around values generated))
        (contentNode around values generated) ∧
      Follows values (contentNode around values generated) := by
  cases generated with
  | error error => exact ⟨isOpen.closed, follows_failure (by rw [running]; rfl)⟩
  | ok generated =>
      have next : route .content (contentNode around values (.ok generated)) = some .review := by
        simp [route, contentNode, isOpen.noError]
      rw [next]
      obtain ⟨⟨runId, businessId, ownerUserId, strategyId⟩, noError, noBinding, undecided⟩ := isOpen
      exact ⟨⟨⟨⟨runId, businessId, ownerUserId, strategyId⟩, noError, noBinding, undecided⟩, rfl,
        generated.pack, generated.item, rfl, rfl, rfl, rfl, rfl, rfl, rfl⟩, .inl running, rfl⟩

theorem sound_presented {pack : Pack} {item : ItemVersion} {review : QualityReview}
    (isOpen : Open resumed values) (drafted : Drafted values pack item) :
    Sound resumed (some .awaitApproval) (presented values pack item review) := by
  obtain ⟨⟨runId, businessId, ownerUserId, strategyId⟩, noError, noBinding, undecided⟩ := isOpen
  exact ⟨⟨⟨runId, businessId, ownerUserId, strategyId⟩, noError, noBinding, undecided⟩, rfl, pack,
    item, _, ⟨drafted.isDraft, rfl, rfl, rfl, rfl, rfl, rfl⟩, rfl, nofun⟩

theorem sound_reviewNode {pack : Pack} {item : ItemVersion} (isOpen : Open resumed values)
    (running : values.orchestration.status = .running) (drafted : Drafted values pack item)
    (reviewed : Except String QualityReview) :
    Sound resumed (route .review (reviewNode around values reviewed))
        (reviewNode around values reviewed) ∧
      Follows values (reviewNode around values reviewed) := by
  have canFail : canTransition values.orchestration.status .failed = true := by
    rw [running]
    rfl
  have failed : ∀ code message details,
      Sound resumed (route .review (failureState around values code message details))
          (failureState around values code message details) ∧
        Follows values (failureState around values code message details) :=
    fun _ _ _ => ⟨isOpen.closed, follows_failure canFail⟩
  simp only [reviewNode, drafted.isDraft]
  cases reviewed with
  | error reason => exact failed _ _ _
  | ok review =>
      dsimp only
      split
      · next valid =>
        have next : route .review (presented values pack item review) = some .awaitApproval := by
          simp [route, presented, isOpen.noError, valid]
        rw [next]
        exact ⟨sound_presented isOpen drafted, .inr (.inl ⟨by rw [running]; rfl, nofun⟩), rfl⟩
      split
      · next invalid repairable =>
        have next : route .review (replanned values review) = some .content := by
          simp [route, replanned, isOpen.noError, invalid, (Bool.and_eq_true_iff.mp repairable).1]
        rw [next]
        obtain ⟨⟨runId, businessId, ownerUserId, strategyId⟩, noError, noBinding, undecided⟩ :=
          isOpen
        exact ⟨⟨⟨⟨runId, businessId, ownerUserId, strategyId⟩, noError, noBinding, undecided⟩,
          rfl⟩, .inl running, rfl⟩
      split
      · exact failed _ _ _
      · exact failed _ _ _

/-- A node that nobody resumes keeps how far the run is. -/
theorem sound_execute (node : Node) (values : Values) (answer : Answer)
    (sound : Sound resumed (some node) values)
    (free : (graph around).interrupt node values = none) :
    Sound resumed
        ((graph around).route node ((graph around).execute node values none answer))
        ((graph around).execute node values none answer) ∧
      Follows values ((graph around).execute node values none answer) := by
  cases node with
  | content => exact sound_contentNode sound.1 sound.2 answer.generated
  | review =>
      obtain ⟨isOpen, running, pack, item, drafted⟩ := sound
      exact sound_reviewNode isOpen running drafted answer.reviewed
  | awaitApproval =>
      obtain ⟨-, -, pack, item, payload, shown⟩ := sound
      cases free.symm.trans shown.isPayload
  | terminal => exact ⟨sound, .inl rfl, rfl⟩

/-! ### Commands -/

theorem receiptMatches_iff {receipt : PersistenceReceipt} {pack : Pack} {item : ItemVersion}
    (mine : Mine values) (drafted : Drafted values pack item) :
    receiptMatches receipt values.orchestration = true ↔
      Receipted values pack item receipt := by
  simp only [receiptMatches, Bool.and_eq_true, decide_eq_true_eq, mine.runId, mine.businessId,
    mine.strategyId, drafted.cycleId, drafted.packId, drafted.itemId, drafted.versionId,
    drafted.version, drafted.checksum, Option.some.injEq]
  constructor
  · rintro ⟨⟨⟨⟨⟨⟨⟨⟨runId, businessId⟩, strategyId⟩, cycleId⟩, packId⟩, itemId⟩, versionId⟩, version⟩,
      checksum⟩
    exact ⟨runId, businessId, strategyId, cycleId, packId, itemId, versionId, version, checksum⟩
  · rintro ⟨runId, businessId, strategyId, cycleId, packId, itemId, versionId, version, checksum⟩
    exact ⟨⟨⟨⟨⟨⟨⟨⟨runId, businessId⟩, strategyId⟩, cycleId⟩, packId⟩, itemId⟩, versionId⟩, version⟩,
      checksum⟩

/-- A receipt that the runner lets through is attached. -/
theorem sound_attachReceipt {pack : Pack} {item : ItemVersion} {payload : ApprovalInterrupt}
    {receipt : PersistenceReceipt} (isOpen : Open resumed values)
    (waits : values.orchestration.status = .awaitingContentApproval)
    (shown : Shown resumed values pack item payload) (required : payload.persistenceRequired = true)
    (isOf : receiptMatches receipt values.orchestration = true) :
    Sound (resumed ++ [.receipt receipt]) (some .awaitApproval)
        (attachReceipt around values payload receipt) ∧
      route .awaitApproval (attachReceipt around values payload receipt) = some .awaitApproval ∧
      Follows values (attachReceipt around values payload receipt) := by
  have receipted := (receiptMatches_iff isOpen.mine shown.drafted).mp isOf
  obtain ⟨⟨runId, businessId, ownerUserId, strategyId⟩, noError, noBinding, undecided⟩ := isOpen
  obtain ⟨isDraft, cycleId, packId, itemId, versionId, version, checksum⟩ := shown.drafted
  unfold attachReceipt
  simp only [required, isOf, Bool.not_true, Bool.false_eq_true, if_false]
  refine ⟨⟨⟨⟨runId, businessId, ownerUserId, strategyId⟩, noError, noBinding, ?_⟩, rfl, pack, item,
    _, ⟨isDraft, cycleId, packId, itemId, versionId, version, checksum⟩, rfl,
    fun _ => ⟨receipt, List.mem_append_right _ List.mem_cons_self, ?_⟩⟩, ?_, ?_⟩
  · rw [List.filter_append, undecided]
    rfl
  · obtain ⟨runId, businessId, strategyId, cycleId, packId, itemId, versionId, version, checksum⟩ :=
      receipted
    exact ⟨runId, businessId, strategyId, cycleId, packId, itemId, versionId, version, checksum⟩
  · simp [route, noError, noBinding]
  · exact ⟨.inl waits, rfl⟩

/-- A decision that the runner lets through is recorded. -/
theorem sound_recordDecision {pack : Pack} {item : ItemVersion} {payload : ApprovalInterrupt}
    {binding : ContentDecisionBinding} {key : String} (isOpen : Open resumed values)
    (waits : values.orchestration.status = .awaitingContentApproval)
    (shown : Shown resumed values pack item payload) (given : key ≠ "")
    (persisted : payload.persistenceRequired = false)
    (isOf : decisionMatches binding values.orchestration = true) :
    Sound (resumed ++ [.decision binding key]) (some .terminal)
        (recordDecision around values payload binding key) ∧
      route .awaitApproval (recordDecision around values payload binding key) = some .terminal ∧
      Follows values (recordDecision around values payload binding key) := by
  obtain ⟨⟨runId, businessId, ownerUserId, strategyId⟩, noError, noBinding, undecided⟩ := isOpen
  obtain ⟨receipt, attached, receipted⟩ := shown.attached persisted
  obtain ⟨isDraft, cycleId, packId, itemId, versionId, version, checksum⟩ := shown.drafted
  have exact' := isOf
  simp only [decisionMatches, Bool.and_eq_true, decide_eq_true_eq, cycleId, packId, itemId,
    versionId, version, checksum, Option.some.injEq] at exact'
  obtain ⟨⟨⟨⟨⟨⟨⟨-, owner⟩, -⟩, samePack⟩, sameItem⟩, sameId⟩, sameVersion⟩, sameChecksum⟩ := exact'
  unfold recordDecision
  simp only [given, if_false, persisted, isOf, Bool.not_true, Bool.or_false, Bool.false_eq_true]
  refine ⟨⟨?_, .inr ⟨noError, pack, item, receipt, binding, key, rfl,
    ⟨resumed, rfl, attached, undecided⟩, ?_, isDraft, ?_, samePack, sameItem, sameId, sameVersion, sameChecksum,
    owner.trans ownerUserId⟩⟩, ?_, ?_, rfl⟩
  · split <;> exact ⟨runId, businessId, ownerUserId, strategyId⟩
  · dsimp only
    split <;> rfl
  · obtain ⟨runId, businessId, strategyId, cycleId, packId, itemId, versionId, version, checksum⟩ :=
      receipted
    exact ⟨runId, businessId, strategyId, cycleId, packId, itemId, versionId, version, checksum⟩
  · simp [route]
  · rw [waits]
    dsimp only
    split
    · exact .inr (.inl ⟨rfl, nofun⟩)
    · exact .inr (.inr ⟨rfl, rfl⟩)

/-! ### Calls -/

variable {thread : Thread} {checkpoint : Checkpoint Node Values ApprovalInterrupt}

/-- What holds of a run between two calls. -/
abbrev Steady (around : Surroundings) (thread : Thread) : Prop :=
  Graphs.Thread.Sound (graph around) (fun values => values.orchestration.status = .running) Sound
    Follows thread

/-- A paused run waits for its owner. -/
theorem Steady.waits {payload : ApprovalInterrupt} (steady : Steady around thread)
    (paused : thread.paused = some (checkpoint, payload)) :
    thread.checkpoint = some checkpoint ∧ checkpoint.next = some .awaitApproval ∧
      Open thread.resumed checkpoint.values ∧
      checkpoint.values.orchestration.status = .awaitingContentApproval ∧
      ∃ pack item, Shown thread.resumed checkpoint.values pack item payload := by
  obtain ⟨known, node, next, interrupts, far⟩ := steady.of_paused paused
  cases node with
  | awaitApproval =>
      obtain ⟨isOpen, waits, pack, item, other, shown⟩ := far
      cases shown.isPayload.symm.trans interrupts
      exact ⟨known, next, isOpen, waits, pack, item, shown⟩
  | content | review | terminal => cases interrupts

theorem checks_of_attach {receipt : PersistenceReceipt} {payload : ApprovalInterrupt}
    (passed : attachChecks receipt values payload = .ok ()) :
    payload.persistenceRequired = true ∧ receiptMatches receipt values.orchestration = true := by
  obtain ⟨required, passed⟩ := ok_of_orRefuse passed
  exact ⟨required, holds_of_orRefuse passed⟩

theorem checks_of_resume {request : Resume} {payload : ApprovalInterrupt}
    {binding : ContentDecisionBinding} (shown : values.approvalInterrupt = some payload)
    (passed : validateResumeScope request values = .ok binding) :
    payload.persistenceRequired = false ∧
      decisionMatches binding values.orchestration = true := by
  unfold validateResumeScope at passed
  dsimp only at passed
  split at passed
  · cases passed
  · obtain ⟨-, passed⟩ := ok_of_orRefuse passed
    obtain ⟨isOf, passed⟩ := ok_of_orRefuse passed
    simp only [shown] at passed
    obtain ⟨persisted, passed⟩ := ok_of_orRefuse passed
    cases passed
    exact ⟨by simpa using persisted, isOf⟩

/-- A call keeps what holds of a run. One that a check of the runner refuses changes nothing. -/
structure Kept (around : Surroundings) (thread : Thread)
    (after : Thread × Except RunError Outcome) : Prop where
  steady : Steady around after.1
  refused : ∀ code message, after.2 = .error (.refused code message) → after.1 = thread

theorem kept_start (steady : Steady around thread) (input : Start) (handoff : Handoff)
    (answers : List Answer) : Kept around thread (start around thread input handoff answers) := by
  unfold start
  split
  · exact ⟨steady, fun _ _ _ => rfl⟩
  split
  · exact ⟨steady, fun _ _ _ => rfl⟩
  · refine ⟨Graphs.Thread.sound_start (fun _ => sound_execute) answers rfl
      (open_initial input handoff), ?_⟩
    intro code message refused
    dsimp only at refused
    split at refused <;> cases refused

/-- What an attached receipt leaves behind. -/
theorem steady_attached {payload : ApprovalInterrupt} {receipt : PersistenceReceipt}
    (steady : Steady around thread) (paused : thread.paused = some (checkpoint, payload))
    (passed : attachChecks receipt checkpoint.values payload = .ok ()) :
    (∀ answer, (graph around).execute .awaitApproval checkpoint.values (some (.receipt receipt))
        answer = attachReceipt around checkpoint.values payload receipt) ∧
      Sound (thread.resumed ++ [.receipt receipt]) (some .awaitApproval)
        (attachReceipt around checkpoint.values payload receipt) ∧
      route .awaitApproval (attachReceipt around checkpoint.values payload receipt) =
        some .awaitApproval ∧
      Follows checkpoint.values (attachReceipt around checkpoint.values payload receipt) := by
  obtain ⟨-, -, isOpen, waits, pack, item, shown⟩ := steady.waits paused
  obtain ⟨required, isOf⟩ := checks_of_attach passed
  refine ⟨fun answer => ?_, sound_attachReceipt isOpen waits shown required isOf⟩
  simp only [graph, awaitApprovalNode, shown.isPayload]

theorem kept_attach (steady : Steady around thread) (receipt : PersistenceReceipt)
    (answers : List Answer) :
    Kept around thread (attachPersistedPack around thread receipt answers) := by
  unfold attachPersistedPack
  split
  · exact ⟨steady, fun _ _ _ => rfl⟩
  next checkpoint payload paused =>
  split
  · exact ⟨steady, fun _ _ _ => rfl⟩
  next passed =>
  obtain ⟨known, next, -⟩ := steady.waits paused
  obtain ⟨executes, sound, routes, follows⟩ := steady_attached steady paused passed
  constructor
  · refine Graphs.Thread.Sound.resume (fun _ => sound_execute) steady known next ?_ answers
    intro answer
    rw [executes answer]
    refine ⟨?_, follows⟩
    show Sound _ (route .awaitApproval _) _
    rw [routes]
    exact sound
  · intro code message refused
    dsimp only [Graphs.Thread.resume] at refused
    cases answers with
    | nil =>
        rw [invoke_unanswered next] at refused
        cases refused
    | cons answer answers =>
        rw [invoke_resumed next, executes answer] at refused
        obtain ⟨-, -, _, _, again, shownAgain⟩ := sound
        rw [@invoke_waiting _ _ _ _ _ (graph around)
          ⟨attachReceipt around checkpoint.values payload receipt,
            (graph around).route .awaitApproval
              (attachReceipt around checkpoint.values payload receipt), none⟩
          .awaitApproval again routes shownAgain.isPayload answers] at refused
        cases refused

/-- What a decision that the runner lets through leaves behind. -/
theorem steady_decided {payload : ApprovalInterrupt} {request : Resume}
    {binding : ContentDecisionBinding} (steady : Steady around thread)
    (paused : thread.paused = some (checkpoint, payload))
    (passed : validateResumeScope request checkpoint.values = .ok binding)
    (answers : List Answer) :
    Steady around (Graphs.Thread.resume (graph around) thread
      (.decision binding request.idempotencyKey) checkpoint answers).1 := by
  obtain ⟨known, next, isOpen, waits, pack, item, shown⟩ := steady.waits paused
  obtain ⟨persisted, isOf⟩ := checks_of_resume shown.isPayload passed
  obtain ⟨sound, routes, follows⟩ :=
    sound_recordDecision isOpen waits shown request.keyGiven persisted isOf
  have executes : ∀ answer, (graph around).execute .awaitApproval checkpoint.values
      (some (.decision binding request.idempotencyKey)) answer =
        recordDecision around checkpoint.values payload binding request.idempotencyKey := by
    intro answer
    simp only [graph, awaitApprovalNode, shown.isPayload]
  refine Graphs.Thread.Sound.resume (fun _ => sound_execute) steady known next ?_ answers
  intro answer
  rw [executes answer]
  refine ⟨?_, follows⟩
  show Sound _ (route .awaitApproval _) _
  rw [routes]
  exact sound

theorem kept_resume (steady : Steady around thread) (request : Resume) (answers : List Answer) :
    Kept around thread (resume around thread request answers) := by
  unfold resume
  split
  · exact ⟨steady, fun _ _ _ => rfl⟩
  next checkpoint payload paused =>
  split
  · exact ⟨steady, fun _ _ _ => rfl⟩
  next binding passed =>
  obtain ⟨known, next, -⟩ := steady.waits paused
  have steadyAfter := steady_decided steady paused passed answers
  refine ⟨steadyAfter, fun code message refused => ?_⟩
  cases answers with
  | nil =>
      dsimp only [Graphs.Thread.resume] at refused
      rw [invoke_unanswered next] at refused
      cases refused
  | cons answer answers =>
      dsimp only at refused
      split at refused
      · cases refused
      split at refused
      · next pausedAgain =>
        -- After a decision nothing waits.
        obtain ⟨shownPayload, isShown⟩ := Option.isSome_iff_exists.mp pausedAgain
        obtain ⟨node, nextAgain, interrupts⟩ := steadyAfter.shows _ rfl shownPayload isShown
        have far := steadyAfter.far _ rfl
        rw [nextAgain] at far
        cases node with
        | awaitApproval =>
            have undecided := List.filter_eq_nil_iff.mp far.1.undecided
              (.decision binding request.idempotencyKey) (by
                simp only [Graphs.Thread.resume, invoke_resumed next, List.isEmpty_cons,
                  Bool.false_eq_true, if_false]
                exact List.mem_append_right _ List.mem_cons_self)
            exact absurd rfl undecided
        | content | review | terminal => cases interrupts
      · cases refused

/-- What a call does to a run. -/
theorem kept_call (steady : Steady around thread) (given : Call) :
    Kept around thread (call around thread given) := by
  cases given with
  | start input handoff answers => exact kept_start steady input handoff answers
  | attachPersistedPack receipt answers => exact kept_attach steady receipt answers
  | resume request answers => exact kept_resume steady request answers

/-- Every run is steady after every list of calls. -/
theorem steady_threadAfter (around : Surroundings) (runId : Uuid) (calls : List Call) :
    Steady around (threadAfter around runId calls) := by
  unfold threadAfter
  refine List.foldlRecOn _ _ Graphs.Thread.sound_empty fun thread steady given _ => ?_
  exact (kept_call steady given).steady

end MarketMind.Orchestration.Phase4
