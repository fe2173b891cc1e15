import MarketMind.Orchestration.Phase3Runs
import MarketMind.Orchestration.Phase4Runs

/-!
Owns what an owner's decision rests on: the receipt that was attached before it, the version and
the checksum that it names, and that it is the only one of its run.

Does not own how a decision changes the status of a run.
-/

namespace MarketMind.Orchestration

namespace Phase3

open Graphs

variable {around : Surroundings} {runId : Uuid} {thread : Thread}
  {checkpoint : Checkpoint Node Values ApprovalInterrupt}

/-- A run with a recorded decision does not wait any more. -/
theorem unpaused_of_recorded {binding : StrategyDecisionBinding} (steady : Steady around thread)
    (known : thread.checkpoint = some checkpoint)
    (recorded : checkpoint.values.approvalBinding = some binding) : thread.paused = none := by
  cases paused : thread.paused with
  | none => rfl
  | some waiting =>
      obtain ⟨same, -, isOpen, -⟩ := @Steady.waits _ _ waiting.1 _ steady paused
      cases known.symm.trans same
      cases isOpen.noBinding.symm.trans recorded

/-- A run that has begun and does not wait is changed by no call. -/
theorem call_of_unpaused (known : thread.checkpoint = some checkpoint)
    (unpaused : thread.paused = none) (given : Call) : (call around thread given).1 = thread := by
  cases given with
  | start input answers => simp only [call, start, known, Option.isSome_some, if_true]
  | attachPersistedDraft receipt answers => simp only [call, attachPersistedDraft, unpaused]
  | resume request answers => simp only [call, resume, unpaused]

theorem threadAfter_append (calls later : List Call) :
    threadAfter around runId (calls ++ later) =
      (later.filter (·.runId = runId)).foldl (fun thread given => (call around thread given).1)
        (threadAfter around runId calls) := by
  simp only [threadAfter, List.filter_append, List.foldl_append]

theorem threadAfter_of_unpaused {calls : List Call}
    (begun : ∃ checkpoint, (threadAfter around runId calls).checkpoint = some checkpoint)
    (unpaused : (threadAfter around runId calls).paused = none) (later : List Call) :
    threadAfter around runId (calls ++ later) = threadAfter around runId calls := by
  obtain ⟨checkpoint, known⟩ := begun
  rw [threadAfter_append]
  refine List.foldlRecOn (motive := (· = threadAfter around runId calls)) _ _ rfl ?_
  rintro thread rfl given -
  exact call_of_unpaused known unpaused given

theorem threadAfter_of_recorded {binding : StrategyDecisionBinding} {calls : List Call}
    (known : (threadAfter around runId calls).checkpoint = some checkpoint)
    (recorded : checkpoint.values.approvalBinding = some binding) (later : List Call) :
    threadAfter around runId (calls ++ later) = threadAfter around runId calls :=
  threadAfter_of_unpaused ⟨checkpoint, known⟩
    (unpaused_of_recorded (steady_threadAfter around runId calls) known recorded) later

/-- What holds of the decisions of one run, after any calls. -/
structure Guarded (around : Surroundings) (runId : Uuid) (calls : List Call) : Prop where
  /-- A recorded decision follows the receipt of exactly the draft, and names it. -/
  isExact : ∀ checkpoint binding,
    (threadAfter around runId calls).checkpoint = some checkpoint →
    checkpoint.values.approvalBinding = some binding →
      ∃ plan receipt,
        Decided around (threadAfter around runId calls).resumed checkpoint.values plan receipt
          binding
  once : (threadAfter around runId calls).resumed.countP Command.isDecision ≤ 1
  /-- A recorded decision is the last change of its run. -/
  isFinal : ∀ checkpoint binding later,
    (threadAfter around runId calls).checkpoint = some checkpoint →
    checkpoint.values.approvalBinding = some binding →
      threadAfter around runId (calls ++ later) = threadAfter around runId calls
  /-- A call that a check of the runner refuses changes nothing. -/
  refused : ∀ given code message,
    (call around (threadAfter around runId calls) given).2 = .error (.refused code message) →
      (call around (threadAfter around runId calls) given).1 = threadAfter around runId calls

private theorem decided_of_recorded {binding : StrategyDecisionBinding}
    (steady : Steady around thread) (known : thread.checkpoint = some checkpoint)
    (recorded : checkpoint.values.approvalBinding = some binding) :
    ∃ plan receipt, Decided around thread.resumed checkpoint.values plan receipt binding := by
  have closed : Closed around thread.resumed checkpoint.values →
      ∃ plan receipt, Decided around thread.resumed checkpoint.values plan receipt binding := by
    rintro ⟨-, -, ⟨-, noBinding⟩ | ⟨-, plan, receipt, other, decided⟩⟩
    · cases noBinding.symm.trans recorded
    · cases decided.isBinding.symm.trans recorded
      exact ⟨plan, receipt, decided⟩
  have far := steady.far checkpoint known
  cases next : checkpoint.next with
  | none =>
      rw [next] at far
      exact closed far
  | some node =>
      rw [next] at far
      cases node with
      | strategy | review | awaitApproval => cases far.1.noBinding.symm.trans recorded
      | terminal => exact closed far

private theorem once_of_steady (steady : Steady around thread) :
    thread.resumed.countP Command.isDecision ≤ 1 := by
  cases known : thread.checkpoint with
  | none => simp [steady.unstarted known]
  | some checkpoint =>
      have far := steady.far checkpoint known
      cases next : checkpoint.next with
      | none =>
          rw [next] at far
          exact far.once
      | some node =>
          rw [next] at far
          cases node with
          | strategy | review | awaitApproval =>
              exact (countP_undecided far.1.undecided).le.trans (Nat.zero_le 1)
          | terminal => exact far.once

theorem guarded (around : Surroundings) (runId : Uuid) (calls : List Call) :
    Guarded around runId calls where
  isExact _ _ known recorded :=
    decided_of_recorded (steady_threadAfter around runId calls) known recorded
  once := once_of_steady (steady_threadAfter around runId calls)
  isFinal _ _ later known recorded := threadAfter_of_recorded known recorded later
  refused given := (kept_call (steady_threadAfter around runId calls) given).refused

end Phase3

namespace Phase4

open Graphs

variable {around : Surroundings} {runId : Uuid} {thread : Thread}
  {checkpoint : Checkpoint Node Values ApprovalInterrupt}

/-- A run with a recorded decision does not wait any more. -/
theorem unpaused_of_recorded {binding : ContentDecisionBinding} (steady : Steady around thread)
    (known : thread.checkpoint = some checkpoint)
    (recorded : checkpoint.values.approvalBinding = some binding) : thread.paused = none := by
  cases paused : thread.paused with
  | none => rfl
  | some waiting =>
      obtain ⟨same, -, isOpen, -⟩ := @Steady.waits _ _ waiting.1 _ steady paused
      cases known.symm.trans same
      cases isOpen.noBinding.symm.trans recorded

/-- A run that has begun and does not wait is changed by no call. -/
theorem call_of_unpaused (known : thread.checkpoint = some checkpoint)
    (unpaused : thread.paused = none) (given : Call) : (call around thread given).1 = thread := by
  cases given with
  | start input handoff answers => simp only [call, start, known, Option.isSome_some, if_true]
  | attachPersistedPack receipt answers => simp only [call, attachPersistedPack, unpaused]
  | resume request answers => simp only [call, resume, unpaused]

theorem threadAfter_append (calls later : List Call) :
    threadAfter around runId (calls ++ later) =
      (later.filter (·.runId = runId)).foldl (fun thread given => (call around thread given).1)
        (threadAfter around runId calls) := by
  simp only [threadAfter, List.filter_append, List.foldl_append]

theorem threadAfter_of_unpaused {calls : List Call}
    (begun : ∃ checkpoint, (threadAfter around runId calls).checkpoint = some checkpoint)
    (unpaused : (threadAfter around runId calls).paused = none) (later : List Call) :
    threadAfter around runId (calls ++ later) = threadAfter around runId calls := by
  obtain ⟨checkpoint, known⟩ := begun
  rw [threadAfter_append]
  refine List.foldlRecOn (motive := (· = threadAfter around runId calls)) _ _ rfl ?_
  rintro thread rfl given -
  exact call_of_unpaused known unpaused given

theorem threadAfter_of_recorded {binding : ContentDecisionBinding} {calls : List Call}
    (known : (threadAfter around runId calls).checkpoint = some checkpoint)
    (recorded : checkpoint.values.approvalBinding = some binding) (later : List Call) :
    threadAfter around runId (calls ++ later) = threadAfter around runId calls :=
  threadAfter_of_unpaused ⟨checkpoint, known⟩
    (unpaused_of_recorded (steady_threadAfter around runId calls) known recorded) later

/-- What holds of the decisions of one run, after any calls. -/
structure Guarded (around : Surroundings) (runId : Uuid) (calls : List Call) : Prop where
  /-- A recorded decision follows the receipt of exactly the draft, and names it. -/
  isExact : ∀ checkpoint binding,
    (threadAfter around runId calls).checkpoint = some checkpoint →
    checkpoint.values.approvalBinding = some binding →
      ∃ pack item receipt key,
        Decided (threadAfter around runId calls).resumed checkpoint.values pack item receipt
          binding key
  once : (threadAfter around runId calls).resumed.countP Command.isDecision ≤ 1
  /-- A recorded decision is the last change of its run. -/
  isFinal : ∀ checkpoint binding later,
    (threadAfter around runId calls).checkpoint = some checkpoint →
    checkpoint.values.approvalBinding = some binding →
      threadAfter around runId (calls ++ later) = threadAfter around runId calls
  /-- A call that a check of the runner refuses changes nothing. -/
  refused : ∀ given code message,
    (call around (threadAfter around runId calls) given).2 = .error (.refused code message) →
      (call around (threadAfter around runId calls) given).1 = threadAfter around runId calls

/-- A run that has begun is open, without a decision, or closed. -/
theorem open_or_closed (steady : Steady around thread)
    (known : thread.checkpoint = some checkpoint) :
    (Open thread.resumed checkpoint.values ∧
        checkpoint.values.orchestration.status ≠ .completed) ∨
      Closed thread.resumed checkpoint.values := by
  have far := steady.far checkpoint known
  cases next : checkpoint.next with
  | none =>
      rw [next] at far
      exact .inr far
  | some node =>
      rw [next] at far
      cases node with
      | content => exact .inl ⟨far.1, by rw [far.2]; nofun⟩
      | review | awaitApproval => exact .inl ⟨far.1, by rw [far.2.1]; nofun⟩
      | terminal => exact .inr far

private theorem decided_of_recorded {binding : ContentDecisionBinding}
    (steady : Steady around thread) (known : thread.checkpoint = some checkpoint)
    (recorded : checkpoint.values.approvalBinding = some binding) :
    ∃ pack item receipt key,
      Decided thread.resumed checkpoint.values pack item receipt binding key := by
  rcases open_or_closed steady known with ⟨isOpen, -⟩ | ⟨-, failed | decided⟩
  · cases isOpen.noBinding.symm.trans recorded
  · cases failed.noBinding.symm.trans recorded
  · obtain ⟨-, pack, item, receipt, other, key, decided⟩ := decided
    cases decided.isBinding.symm.trans recorded
    exact ⟨pack, item, receipt, key, decided⟩

private theorem once_of_steady (steady : Steady around thread) :
    thread.resumed.countP Command.isDecision ≤ 1 := by
  rw [List.countP_eq_length_filter]
  cases known : thread.checkpoint with
  | none => simp [steady.unstarted known]
  | some checkpoint =>
      rcases open_or_closed steady known with ⟨isOpen, -⟩ | ⟨-, failed | decided⟩
      · simp [isOpen.undecided]
      · simp [failed.undecided]
      · obtain ⟨-, pack, item, receipt, other, key, decided⟩ := decided
        obtain ⟨earlier, isLast, -, undecided⟩ := decided.given
        rw [isLast, List.filter_append, undecided]
        exact Nat.le_refl 1

theorem guarded (around : Surroundings) (runId : Uuid) (calls : List Call) :
    Guarded around runId calls where
  isExact _ _ known recorded :=
    decided_of_recorded (steady_threadAfter around runId calls) known recorded
  once := once_of_steady (steady_threadAfter around runId calls)
  isFinal _ _ later known recorded := threadAfter_of_recorded known recorded later
  refused given := (kept_call (steady_threadAfter around runId calls) given).refused

end Phase4

/-- In both graphs, whatever is called, a decision is recorded only on the exact persisted draft,
by the owner of the run and once, and a refused call changes nothing. -/
theorem decided_only_on_persisted_draft (strategyAround : Phase3.Surroundings)
    (contentAround : Surroundings) (runId : Uuid) (strategyCalls : List Phase3.Call)
    (contentCalls : List Phase4.Call) :
    Phase3.Guarded strategyAround runId strategyCalls ∧
      Phase4.Guarded contentAround runId contentCalls :=
  ⟨Phase3.guarded strategyAround runId strategyCalls,
    Phase4.guarded contentAround runId contentCalls⟩

end MarketMind.Orchestration
