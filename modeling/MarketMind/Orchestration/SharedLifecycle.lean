import MarketMind.Orchestration.Approvals

/-!
Owns when the statuses that a run writes are a path that the API can record: always in the
Strategy graph, and in the Content graph until the owner approves.

Does not own what the decision rests on.
-/

namespace MarketMind.Orchestration

open Graphs StateGraph

/-- The statuses that a Strategy run writes. -/
def Phase3.statuses (thread : Phase3.Thread) : List OrchestrationStatus :=
  thread.written.map (·.orchestration.status)

/-- The statuses that a Content run writes. -/
def Phase4.statuses (thread : Phase4.Thread) : List OrchestrationStatus :=
  thread.written.map (·.orchestration.status)

theorem Phase3.onPath_statuses {around : Phase3.Surroundings} {thread : Phase3.Thread}
    (steady : Phase3.Steady around thread) : OnPath (Phase3.statuses thread) := by
  refine onPath_iff.mpr ((List.isChain_map _).mpr ?_)
  exact steady.chain.imp fun _ _ follows => follows.moves

namespace Phase4

variable {around : Surroundings} {runId : Uuid} {thread : Thread}
  {checkpoint : Checkpoint Node Values ApprovalInterrupt}

/-- The paused run is resumed with an approval that the runner lets through, and lives until the
node has run. -/
def Approves (thread : Thread) : Call → Prop
  | .resume request (_ :: _) =>
      ∃ checkpoint payload binding, thread.paused = some (checkpoint, payload) ∧
        validateResumeScope request checkpoint.values = .ok binding ∧
        binding.decision = .approved
  | _ => False

theorem completed_stays {next : OrchestrationStatus} (advances : Advances .completed next) :
    next = .completed := by
  rcases advances with same | ⟨canChange, -⟩ | ⟨waits, -⟩
  · exact same.symm
  · cases canChange
  · cases waits

/-- A run that does not end completed stays on the path. -/
theorem onPath_of_uncompleted (steady : Steady around thread)
    (uncompleted : (statuses thread).getLast? ≠ some .completed) : OnPath (statuses thread) := by
  have chain : (statuses thread).IsChain Advances :=
    (List.isChain_map _).mpr (steady.chain.imp fun _ _ follows => follows.advances)
  refine onPath_iff.mpr (List.IsChain.imp_of_mem_imp ?_ chain)
  rintro before after - member (same | ⟨canChange, -⟩ | ⟨-, completed⟩)
  · exact .inl same
  · exact .inr canChange
  · rw [completed] at member
    exact absurd (getLast?_of_closed (fun _ => completed_stays) chain member) uncompleted

/-- A run that is completed was resumed with an approval. -/
theorem approval_of_completed (steady : Steady around thread)
    (completed : (statuses thread).getLast? = some .completed) :
    ∃ binding key, .decision binding key ∈ thread.resumed ∧ binding.decision = .approved := by
  unfold statuses at completed
  rw [List.getLast?_map, steady.last, Option.map_map] at completed
  obtain ⟨checkpoint, known, isCompleted⟩ := Option.map_eq_some_iff.mp completed
  rcases open_or_closed steady known with ⟨-, uncompleted⟩ | ⟨-, failed | decided⟩
  · exact absurd isCompleted uncompleted
  · cases failed.status.symm.trans isCompleted
  · obtain ⟨-, pack, item, receipt, binding, key, decided⟩ := decided
    obtain ⟨earlier, isLast, -⟩ := decided.given
    refine ⟨binding, key, by rw [isLast]; exact List.mem_append_right _ List.mem_cons_self, ?_⟩
    have status := decided.status.symm.trans isCompleted
    by_contra notApproved
    rw [if_pos notApproved] at status
    cases status

/-- An approval that a call adds is one that it is resumed with. -/
theorem approves_of_resumed {binding : ContentDecisionBinding} {key : String} {given : Call}
    (added : .decision binding key ∈ (call around thread given).1.resumed)
    (before : .decision binding key ∉ thread.resumed)
    (approved : binding.decision = .approved) : Approves thread given := by
  cases given with
  | start input handoff answers =>
      dsimp only [call] at added
      unfold start at added
      split at added
      · exact absurd added before
      split at added
      · exact absurd added before
      · exact absurd added List.not_mem_nil
  | attachPersistedPack receipt answers =>
      dsimp only [call] at added
      unfold attachPersistedPack at added
      split at added
      · exact absurd added before
      split at added
      · exact absurd added before
      · dsimp only [Graphs.Thread.resume] at added
        split at added
        · exact absurd added before
        · rcases List.mem_append.mp added with earlier | now
          · exact absurd earlier before
          · cases List.mem_singleton.mp now
  | resume request answers =>
      dsimp only [call] at added
      unfold resume at added
      split at added
      · exact absurd added before
      next checkpoint payload paused =>
      split at added
      · exact absurd added before
      next accepted passed =>
      dsimp only [Graphs.Thread.resume] at added
      split at added
      · exact absurd added before
      · next ran =>
        rcases List.mem_append.mp added with earlier | now
        · exact absurd earlier before
        · cases List.mem_singleton.mp now
          cases answers with
          | nil =>
              simp only [invoke] at ran
              split at ran <;> exact absurd rfl ran
          | cons answer answers => exact ⟨checkpoint, payload, _, paused, passed, approved⟩

/-- A call approves somewhere among the calls of the run. -/
def ApprovedBy (around : Surroundings) (runId : Uuid) (calls : List Call) : Prop :=
  ∃ earlier given later, calls = earlier ++ given :: later ∧ given.runId = runId ∧
    Approves (threadAfter around runId earlier) given

theorem threadAfter_snoc (calls : List Call) (given : Call) :
    threadAfter around runId (calls ++ [given]) =
      if given.runId = runId then (call around (threadAfter around runId calls) given).1
      else threadAfter around runId calls := by
  rw [threadAfter_append]
  by_cases isOf : given.runId = runId
  · rw [if_pos isOf, List.filter_cons_of_pos (by simpa using isOf)]
    rfl
  · rw [if_neg isOf, List.filter_cons_of_neg (by simpa using isOf)]
    rfl

theorem approvedBy_of_resumed {binding : ContentDecisionBinding} {key : String}
    (approved : binding.decision = .approved) (calls : List Call)
    (resumed : .decision binding key ∈ (threadAfter around runId calls).resumed) :
    ApprovedBy around runId calls := by
  induction calls using List.reverseRecOn with
  | nil => exact absurd resumed List.not_mem_nil
  | append_singleton calls given inductionHypothesis =>
      by_cases before : .decision binding key ∈ (threadAfter around runId calls).resumed
      · obtain ⟨earlier, first, later, split, isOf, approves⟩ := inductionHypothesis before
        exact ⟨earlier, first, later ++ [given], by rw [split]; simp, isOf, approves⟩
      · rw [threadAfter_snoc] at resumed
        split at resumed
        · next isOf =>
          exact ⟨calls, given, [], rfl, isOf, approves_of_resumed resumed before approved⟩
        · exact absurd resumed before

/-- What an approving call writes first. -/
theorem written_of_approves {given : Call} (steady : Steady around thread)
    (approves : Approves thread given) :
    ∃ checkpoint values binding key,
      thread.checkpoint = some checkpoint ∧
      checkpoint.values.orchestration.status = .awaitingContentApproval ∧
      values.orchestration.status = .completed ∧
      (∃ later, (call around thread given).1.written = thread.written ++ values :: later) ∧
      .decision binding key ∈ (call around thread given).1.resumed := by
  match given, approves with
  | .resume request (answer :: answers),
      ⟨checkpoint, payload, binding, paused, passed, approved⟩ =>
      obtain ⟨known, next, -, waits, pack, item, shown⟩ := steady.waits paused
      obtain ⟨persisted, isOf⟩ := checks_of_resume shown.isPayload passed
      have written : (call around thread (.resume request (answer :: answers))).1.written =
          thread.written ++ ((graph around).invoke (some (.decision binding request.idempotencyKey))
            checkpoint (answer :: answers)).written := by
        simp only [call, resume, paused, passed, Graphs.Thread.resume]
      rw [invoke_resumed next] at written
      simp only [graph, awaitApprovalNode, shown.isPayload] at written
      refine ⟨checkpoint, recordDecision around checkpoint.values payload binding
        request.idempotencyKey, binding, request.idempotencyKey, known, waits, ?_, ⟨_, written⟩, ?_⟩
      · simp [recordDecision, request.keyGiven, persisted, isOf, approved, State.noted]
      · simp only [call, resume, paused, passed, Graphs.Thread.resume, invoke_resumed next,
          List.isEmpty_cons, Bool.false_eq_true, if_false]
        exact List.mem_append_right _ List.mem_cons_self

/-- An approval ends a run, off the path. -/
theorem ends_of_approves {given : Call} (steady : Steady around thread)
    (approves : Approves thread given) :
    (∃ checkpoint binding, (call around thread given).1.checkpoint = some checkpoint ∧
        checkpoint.values.approvalBinding = some binding) ∧
      ¬ OnPath (statuses (call around thread given).1) := by
  obtain ⟨checkpoint, values, binding, key, known, waits, completed, ⟨later, written⟩, resumed⟩ :=
    written_of_approves steady approves
  have steadyAfter := (kept_call steady given).steady
  have isDecision : ¬ (call around thread given).1.resumed.filter Command.isDecision = [] :=
    fun undecided => List.filter_eq_nil_iff.mp undecided _ resumed rfl
  constructor
  · cases knownAfter : (call around thread given).1.checkpoint with
    | none =>
        rw [steadyAfter.unstarted knownAfter] at resumed
        exact absurd resumed List.not_mem_nil
    | some after =>
        refine ⟨after, ?_⟩
        rcases open_or_closed steadyAfter knownAfter with ⟨isOpen, -⟩ | ⟨-, failed | decided⟩
        · exact absurd isOpen.undecided isDecision
        · exact absurd failed.undecided isDecision
        · obtain ⟨-, pack, item, receipt, recorded, key, decided⟩ := decided
          exact ⟨recorded, rfl, decided.isBinding⟩
  · intro onPath
    have chain := onPath_iff.mp onPath
    unfold statuses at chain
    rw [written, List.map_append, List.isChain_append] at chain
    have step := chain.2.2 .awaitingContentApproval
      (by rw [List.getLast?_map, steady.last, known]; exact congrArg some waits) .completed
      (congrArg some completed)
    rcases step with same | canChange
    · cases same
    · cases canChange

/-- The statuses of a Content run are on the path exactly until its owner approves. -/
theorem onPath_iff_unapproved (around : Surroundings) (runId : Uuid) (calls : List Call) :
    OnPath (statuses (threadAfter around runId calls)) ↔ ¬ ApprovedBy around runId calls := by
  have steady := steady_threadAfter around runId
  constructor
  · rintro onPath ⟨earlier, given, later, rfl, isOf, approves⟩
    obtain ⟨⟨checkpoint, binding, known, recorded⟩, off⟩ :=
      ends_of_approves (steady earlier) approves
    have after : threadAfter around runId (earlier ++ [given]) =
        (call around (threadAfter around runId earlier) given).1 := by
      rw [threadAfter_snoc, if_pos isOf]
    rw [← after] at known off
    rw [List.append_cons, threadAfter_of_recorded known recorded later] at onPath
    exact off onPath
  · intro unapproved
    refine onPath_of_uncompleted (steady calls) fun completed => unapproved ?_
    obtain ⟨binding, key, resumed, approved⟩ := approval_of_completed (steady calls) completed
    exact approvedBy_of_resumed approved calls resumed

/-! ### One approved item -/

private def sampleStart : Start := ⟨12, "correlation", 2, 13, 4, 0, 2⟩

private def sampleStrategyDecision : StrategyDecisionBinding :=
  ⟨12, 13, 4, 5, 1, "strategy checksum", 6, .approved, 2, "2026-01-01T00:00:00Z"⟩

private def sampleAnswer : Answer where
  generated := .ok
    { pack := ⟨8, 7⟩
      item := ⟨10, 9, 1, "item checksum"⟩
      itemCount := 1
      validationValid := true
      providerName := "provider"
      promptVersion := "prompt" }
  reviewed := .ok ⟨true, none, none, false, "The draft follows the plan."⟩

private def sampleReceipt : PersistenceReceipt := ⟨12, 13, 4, 7, 8, 9, 10, 1, "item checksum"⟩

private def sampleApproval : Resume where
  runId := 12
  checkpointThreadId := 12
  correlationId := "correlation"
  idempotencyKey := "content approval"
  ownerUserId := 2
  businessId := 13
  decisionBinding := .content
    ⟨12, 13, 7, 8, 9, 10, 1, "item checksum", 11, .approved, 2, "2026-01-02T00:00:00Z"⟩
  sameThread := rfl
  sameRun := rfl
  sameBusiness := rfl
  keyGiven := by decide

private def sampleCalls : List Call :=
  [.start sampleStart ⟨sampleStrategyDecision, 7⟩ [sampleAnswer, sampleAnswer],
    .attachPersistedPack sampleReceipt [sampleAnswer],
    .resume sampleApproval [sampleAnswer, sampleAnswer]]

end Phase4

/-- The owner approves an item: the run goes from waiting to completed at once. -/
theorem content_approval_leaves_path :
    ¬ ∀ (around : Surroundings) (runId : Uuid) (calls : List Phase4.Call),
      OnPath (Phase4.statuses (Phase4.threadAfter around runId calls)) := by
  intro always
  have onPath := always ⟨fun _ => false⟩ 12 Phase4.sampleCalls
  revert onPath
  decide +kernel

/-- A Strategy run writes a path of the lifecycle; a Content run does until an approval. -/
theorem statuses_onPath_iff (strategyAround : Phase3.Surroundings) (contentAround : Surroundings)
    (runId : Uuid) (strategyCalls : List Phase3.Call) (contentCalls : List Phase4.Call) :
    OnPath (Phase3.statuses (Phase3.threadAfter strategyAround runId strategyCalls)) ∧
      (OnPath (Phase4.statuses (Phase4.threadAfter contentAround runId contentCalls)) ↔
        ¬ Phase4.ApprovedBy contentAround runId contentCalls) :=
  ⟨Phase3.onPath_statuses (Phase3.steady_threadAfter strategyAround runId strategyCalls),
    Phase4.onPath_iff_unapproved contentAround runId contentCalls⟩

end MarketMind.Orchestration
