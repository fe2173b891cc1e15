import MarketMind.Orchestration.Approvals

/-!
Owns what follows when a resume request that was accepted is sent again: the Content graph gives
the answer of the first time, and the Strategy graph refuses.

Does not own which requests are accepted.
-/

namespace MarketMind.Orchestration

namespace Phase3

open Graphs StateGraph

variable {around : Surroundings} {runId : Uuid} {thread : Thread} {request : Resume}
  {answers : List Answer} {outcome : Outcome}

/-- A run that has accepted a decision does not wait any more. -/
theorem unpaused_of_accepted (accepted : (resume around thread request answers).2 = .ok outcome) :
    (resume around thread request answers).1.paused = none ∧
      ∃ checkpoint, (resume around thread request answers).1.checkpoint = some checkpoint := by
  unfold resume at accepted ⊢
  cases paused : thread.paused with
  | none =>
      rw [paused] at accepted
      cases accepted
  | some waiting =>
      rw [paused] at accepted
      dsimp only at accepted ⊢
      cases passed : validateResumeScope request waiting.1.values with
      | error error =>
          rw [passed] at accepted
          cases accepted
      | ok binding =>
          rw [passed] at accepted
          dsimp only [Graphs.Thread.resume] at accepted ⊢
          obtain ⟨⟨⟨values, next, shown⟩, written, ended⟩, invoked⟩ :
              ∃ invocation, (graph around).invoke (some (.decision binding)) waiting.1 answers =
                invocation := ⟨_, rfl⟩
          simp only [invoked] at accepted ⊢
          cases ended with
          | false => simp at accepted
          | true =>
              cases shown with
              | some payload => simp at accepted
              | none => exact ⟨by simp [Graphs.Thread.paused], _, rfl⟩

theorem threadAfter_resume (mine : request.runId = runId) (calls : List Call) :
    threadAfter around runId (calls ++ [.resume request answers]) =
      (resume around (threadAfter around runId calls) request answers).1 := by
  have kept : [Call.resume request answers].filter (·.runId = runId) =
      [.resume request answers] := by
    simp [Call.runId, mine]
  rw [threadAfter_append, kept]
  rfl

/-- Whatever is sent after an accepted decision is refused as stale. -/
theorem refused_after_accepted {calls : List Call} (mine : request.runId = runId)
    (accepted : (resume around (threadAfter around runId calls) request answers).2 = .ok outcome)
    (later : List Call) (other : Resume) (answering : List Answer) :
    resume around (threadAfter around runId (calls ++ [.resume request answers] ++ later)) other
        answering =
      (threadAfter around runId (calls ++ [.resume request answers]),
        .error (.refused "ORCHESTRATION_STALE_RESUME"
          "The orchestration is not paused at a resumable Strategy approval.")) := by
  obtain ⟨unpaused, begun⟩ := unpaused_of_accepted accepted
  rw [← threadAfter_resume mine] at unpaused begun
  rw [threadAfter_of_unpaused begun unpaused later, resume, unpaused]

end Phase3

namespace Phase4

open Graphs StateGraph

variable {around : Surroundings} {runId : Uuid} {thread : Thread} {request : Resume}
  {answers : List Answer} {outcome : Outcome} {values : Values}
  {binding : ContentDecisionBinding}

/-- The run has ended with the request's decision, and answers a replay with the outcome. -/
structure Answered (thread : Thread) (request : Resume) (outcome : Outcome) : Prop where
  unpaused : thread.paused = none
  replays : ∃ checkpoint completed, thread.checkpoint = some checkpoint ∧
    checkpoint.values.approvalBinding = some completed ∧
    checkpoint.values.resumeIdempotencyKey = some request.idempotencyKey ∧
    request.decisionBinding = .content completed ∧
    replayed request checkpoint.values = .ok outcome

theorem binding_of_validated (passed : validateResumeScope request values = .ok binding) :
    request.decisionBinding = .content binding := by
  unfold validateResumeScope at passed
  dsimp only at passed
  cases given : request.decisionBinding with
  | strategy other =>
      rw [given] at passed
      cases passed
  | content other =>
      rw [given] at passed
      obtain ⟨-, passed⟩ := ok_of_orRefuse passed
      obtain ⟨-, passed⟩ := ok_of_orRefuse passed
      cases shown : values.approvalInterrupt with
      | none =>
          rw [shown] at passed
          cases passed
      | some payload =>
          rw [shown] at passed
          obtain ⟨-, passed⟩ := ok_of_orRefuse passed
          cases passed
          rfl

variable (around) in
/-- A recorded decision leaves what the scope of a request is compared with. -/
theorem validate_recorded {payload : ApprovalInterrupt}
    (shown : values.approvalInterrupt = some payload)
    (passed : validateResumeScope request values = .ok binding) :
    validateResumeScope request
        (recordDecision around values payload binding request.idempotencyKey) = .ok binding ∧
      (recordDecision around values payload binding request.idempotencyKey).approvalBinding =
        some binding ∧
      (recordDecision around values payload binding request.idempotencyKey).resumeIdempotencyKey =
        some request.idempotencyKey := by
  obtain ⟨persisted, isOf⟩ := checks_of_resume shown passed
  have given := binding_of_validated passed
  unfold recordDecision
  simp only [request.keyGiven, if_false, persisted, isOf, Bool.not_true, Bool.or_false,
    Bool.false_eq_true, and_true]
  rw [← passed]
  unfold validateResumeScope decisionMatches
  rw [given, shown]
  dsimp only
  split <;> rfl

variable (around) in
theorem replayed_recorded {payload : ApprovalInterrupt}
    (shown : values.approvalInterrupt = some payload)
    (passed : validateResumeScope request values = .ok binding) :
    replayed request (recordDecision around values payload binding request.idempotencyKey) =
      .ok (.decided (resultFrom
        (recordDecision around values payload binding request.idempotencyKey))) := by
  obtain ⟨again, isBinding, isKey⟩ := validate_recorded around shown passed
  unfold replayed
  rw [isBinding]
  dsimp only
  rw [if_neg (not_not.mpr isKey), if_neg (not_not.mpr (binding_of_validated passed)), again]
  rfl

/-- A run that comes to an end with a decision has recorded it last. -/
theorem invoke_decided {checkpoint : Checkpoint Node Values ApprovalInterrupt}
    {payload : ApprovalInterrupt} {key : String} (next : checkpoint.next = some .awaitApproval)
    (shown : checkpoint.values.approvalInterrupt = some payload)
    (routes : route .awaitApproval (recordDecision around checkpoint.values payload binding key) =
      some .terminal)
    (ended : ((graph around).invoke (some (.decision binding key)) checkpoint answers).ended =
      true) :
    ((graph around).invoke (some (.decision binding key)) checkpoint answers).checkpoint =
      ⟨recordDecision around checkpoint.values payload binding key, none, none⟩ := by
  have executes (answer : Answer) : (graph around).execute .awaitApproval checkpoint.values
      (some (.decision binding key)) answer =
        recordDecision around checkpoint.values payload binding key := by
    simp only [graph, awaitApprovalNode, shown]
  have routed : (graph around).route .awaitApproval
      (recordDecision around checkpoint.values payload binding key) = some .terminal := routes
  cases answers with
  | nil =>
      rw [invoke_unanswered next] at ended
      cases ended
  | cons answer rest =>
      rw [invoke_resumed next, executes, routed] at ended ⊢
      cases rest with
      | nil => cases ended
      | cons another rest => cases rest <;> rfl

/-- An accepted request has an answer of its own from then on. -/
theorem answered_of_accepted (steady : Steady around thread)
    (accepted : (resume around thread request answers).2 = .ok outcome) :
    Answered (resume around thread request answers).1 request outcome := by
  unfold resume at accepted ⊢
  cases paused : thread.paused with
  | none =>
      rw [paused] at accepted
      dsimp only at accepted ⊢
      cases known : thread.checkpoint with
      | none =>
          rw [known] at accepted
          cases accepted
      | some checkpoint =>
          rw [known] at accepted
          have replays : replayed request checkpoint.values = .ok outcome := accepted
          have given := replays
          unfold replayed at given
          cases recorded : checkpoint.values.approvalBinding with
          | none =>
              rw [recorded] at given
              cases given
          | some completed =>
              rw [recorded] at given
              dsimp only at given
              split_ifs at given with otherKey otherBinding
              exact ⟨paused, checkpoint, completed, known, recorded, not_not.mp otherKey,
                not_not.mp otherBinding, replays⟩
  | some waiting =>
      obtain ⟨checkpoint, payload⟩ := waiting
      rw [paused] at accepted
      dsimp only at accepted ⊢
      cases passed : validateResumeScope request checkpoint.values with
      | error error =>
          rw [passed] at accepted
          cases accepted
      | ok binding =>
          rw [passed] at accepted
          obtain ⟨known, next, isOpen, waits, pack, item, shown⟩ := steady.waits paused
          obtain ⟨persisted, isOf⟩ := checks_of_resume shown.isPayload passed
          obtain ⟨-, routes, -⟩ := @sound_recordDecision around _ _ _ _ _ _ _ isOpen waits
            shown request.keyGiven persisted isOf
          dsimp only [Graphs.Thread.resume] at accepted ⊢
          have ended : ((graph around).invoke (some (.decision binding request.idempotencyKey))
              checkpoint answers).ended = true := by
            by_contra died
            rw [Bool.not_eq_true] at died
            simp [died] at accepted
          have last := invoke_decided next shown.isPayload routes ended
          obtain ⟨-, isBinding, isKey⟩ := validate_recorded around shown.isPayload passed
          refine ⟨by simp [Graphs.Thread.paused, last], _, binding, rfl, ?_, ?_,
            binding_of_validated passed, ?_⟩
          · rw [last]
            exact isBinding
          · rw [last]
            exact isKey
          · simp only [ended, last, Bool.not_true, Bool.false_eq_true, if_false,
              Option.isSome_none] at accepted
            rw [last, ← accepted]
            exact replayed_recorded around shown.isPayload passed

/-- An answered run stays as it is. -/
theorem threadAfter_of_answered {calls : List Call} {answered : Resume}
    (settled : Answered (threadAfter around runId calls) answered outcome) (later : List Call) :
    threadAfter around runId (calls ++ later) = threadAfter around runId calls := by
  obtain ⟨unpaused, checkpoint, -, known, -⟩ := settled
  exact threadAfter_of_unpaused ⟨checkpoint, known⟩ unpaused later

theorem threadAfter_resume (mine : request.runId = runId) (calls : List Call) :
    threadAfter around runId (calls ++ [.resume request answers]) =
      (resume around (threadAfter around runId calls) request answers).1 := by
  have kept : [Call.resume request answers].filter (·.runId = runId) =
      [.resume request answers] := by
    simp [Call.runId, mine]
  rw [threadAfter_append, kept]
  rfl

theorem Answered.again (settled : Answered thread request outcome) (answering : List Answer) :
    resume around thread request answering = (thread, .ok outcome) := by
  obtain ⟨unpaused, checkpoint, completed, known, -, -, -, replays⟩ := settled
  rw [resume, unpaused, known]
  exact Prod.ext rfl replays

/-- The key of an answered request is refused with another decision. -/
theorem Answered.refuses (settled : Answered thread request outcome) {other : Resume}
    (sameKey : other.idempotencyKey = request.idempotencyKey)
    (otherBinding : other.decisionBinding ≠ request.decisionBinding) (answering : List Answer) :
    resume around thread other answering =
      (thread, .error (.refused "ORCHESTRATION_SCOPE_MISMATCH"
        "The resume idempotency key was already used with a different decision.")) := by
  obtain ⟨unpaused, checkpoint, completed, known, recorded, isKey, isBinding, -⟩ := settled
  rw [isBinding] at otherBinding
  rw [← sameKey] at isKey
  rw [resume, unpaused, known]
  dsimp only
  rw [replayed, recorded]
  dsimp only
  rw [if_neg (not_not.mpr isKey), if_pos otherBinding]

/-- What the Content graph answers to the key of an accepted request, whenever it comes again. -/
theorem answers_again {calls : List Call} (mine : request.runId = runId)
    (accepted : (resume around (threadAfter around runId calls) request answers).2 = .ok outcome)
    (later : List Call) :
    Answered (threadAfter around runId (calls ++ [.resume request answers] ++ later)) request
        outcome ∧
      threadAfter around runId (calls ++ [.resume request answers] ++ later) =
        threadAfter around runId (calls ++ [.resume request answers]) := by
  have settled := answered_of_accepted (steady_threadAfter around runId calls) accepted
  rw [← threadAfter_resume mine] at settled
  have same := threadAfter_of_answered settled later
  exact ⟨same ▸ settled, same⟩

end Phase4

/-- A Content run gives an accepted request its answer again and refuses its key with another
decision; a Strategy run refuses every request after an accepted one. Both stay as they are. -/
theorem accepted_resumes_again (strategyAround : Phase3.Surroundings)
    (contentAround : Surroundings) (runId : Uuid) :
    (∀ calls request answers outcome later, request.runId = runId →
      (Phase4.resume contentAround (Phase4.threadAfter contentAround runId calls) request
        answers).2 = .ok outcome →
      (∀ answering,
        Phase4.resume contentAround (Phase4.threadAfter contentAround runId
            (calls ++ [.resume request answers] ++ later)) request answering =
          (Phase4.threadAfter contentAround runId (calls ++ [.resume request answers]),
            .ok outcome)) ∧
      ∀ other answering, other.idempotencyKey = request.idempotencyKey →
        other.decisionBinding ≠ request.decisionBinding →
        Phase4.resume contentAround (Phase4.threadAfter contentAround runId
            (calls ++ [.resume request answers] ++ later)) other answering =
          (Phase4.threadAfter contentAround runId (calls ++ [.resume request answers]),
            .error (.refused "ORCHESTRATION_SCOPE_MISMATCH"
              "The resume idempotency key was already used with a different decision."))) ∧
    ∀ calls request answers outcome later, request.runId = runId →
      (Phase3.resume strategyAround (Phase3.threadAfter strategyAround runId calls) request
        answers).2 = .ok outcome →
      ∀ other answering,
        Phase3.resume strategyAround (Phase3.threadAfter strategyAround runId
            (calls ++ [.resume request answers] ++ later)) other answering =
          (Phase3.threadAfter strategyAround runId (calls ++ [.resume request answers]),
            .error (.refused "ORCHESTRATION_STALE_RESUME"
              "The orchestration is not paused at a resumable Strategy approval.")) := by
  constructor
  · intro calls request answers outcome later mine accepted
    obtain ⟨settled, same⟩ := Phase4.answers_again mine accepted later
    refine ⟨fun answering => ?_, fun other answering sameKey otherBinding => ?_⟩
    · rw [settled.again answering, same]
    · rw [settled.refuses sameKey otherBinding answering, same]
  · intro calls request answers outcome later mine accepted other answering
    exact Phase3.refused_after_accepted mine accepted later other answering

/-! ### One approved draft -/

namespace Phase3

def strategyStart : Start := ⟨1, "correlation", 2, 3, 4, 0, 2⟩

def strategyAnswer : Answer where
  generated := .ok
    { plan := ⟨5, 1, "plan"⟩
      validationValid := true
      providerAttempts := 1
      providerName := "provider"
      promptVersion := "prompt" }
  reviewed := .ok ⟨true, none, none, false, "The draft follows the brief.", "strategy"⟩

def strategyReceipt : PersistenceReceipt := ⟨1, 3, 4, 5, 6, 1, "plan checksum"⟩

def strategyApproval : Resume where
  runId := 1
  checkpointThreadId := 1
  correlationId := "correlation"
  idempotencyKey := "approval"
  ownerUserId := 2
  businessId := 3
  decisionBinding := .strategy
    ⟨1, 3, 4, 6, 1, "plan checksum", 7, .approved, 2, "2026-01-02T00:00:00Z"⟩
  sameThread := rfl
  sameRun := rfl
  sameBusiness := rfl
  keyGiven := by decide

def persisted (around : Surroundings) : Thread :=
  threadAfter around 1 [.start strategyStart [strategyAnswer, strategyAnswer],
    .attachPersistedDraft strategyReceipt [strategyAnswer]]

/-- The approval of a Strategy draft is accepted once; the same request is then refused. -/
theorem approval_is_refused_again :
    let around : Surroundings := ⟨⟨fun _ => false⟩, fun _ => "plan checksum"⟩
    let first := resume around (persisted around) strategyApproval [strategyAnswer, strategyAnswer]
    first.2.isOk = true ∧
      (resume around first.1 strategyApproval [strategyAnswer]).2.isOk = false := by
  decide +kernel

end Phase3

end MarketMind.Orchestration
