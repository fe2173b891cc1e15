import MarketMind.Orchestration.Contracts

/-!
Owns the paths of the lifecycle: sequences of statuses in which every change is one that the API
can record.

Does not own which statuses the graphs write.
-/

namespace MarketMind.Orchestration

/-- The statuses with repetitions removed. -/
def withoutRepetitions : List OrchestrationStatus → List OrchestrationStatus
  | [] => []
  | [status] => [status]
  | status :: next :: rest =>
      if status = next then withoutRepetitions (next :: rest)
      else status :: withoutRepetitions (next :: rest)

/-- Every change is one of `ORCHESTRATION_ALLOWED_TRANSITIONS`. -/
def OnPath (statuses : List OrchestrationStatus) : Prop :=
  (withoutRepetitions statuses).IsChain fun current next => canTransition current next = true

instance (statuses : List OrchestrationStatus) : Decidable (OnPath statuses) :=
  inferInstanceAs (Decidable (List.IsChain _ _))

/-- The status stays, or changes as it may. -/
def Moves (current next : OrchestrationStatus) : Prop :=
  current = next ∨ canTransition current next = true

theorem head?_withoutRepetitions (status : OrchestrationStatus)
    (statuses : List OrchestrationStatus) :
    (withoutRepetitions (status :: statuses)).head? = some status := by
  induction statuses generalizing status with
  | nil => rfl
  | cons next rest inductionHypothesis =>
      rw [withoutRepetitions]
      split
      · next same =>
        subst same
        exact inductionHypothesis status
      · rfl

theorem onPath_iff {statuses : List OrchestrationStatus} :
    OnPath statuses ↔ statuses.IsChain Moves := by
  unfold OnPath
  match statuses with
  | [] => exact iff_of_true List.IsChain.nil List.IsChain.nil
  | [status] => exact iff_of_true (List.IsChain.singleton _) (List.IsChain.singleton _)
  | status :: next :: rest =>
      have later := @onPath_iff (next :: rest)
      unfold OnPath at later
      rw [withoutRepetitions, List.isChain_cons_cons]
      split
      · next same =>
        rw [later]
        exact ⟨fun chain => ⟨.inl same, chain⟩, And.right⟩
      · next differs =>
        rw [List.isChain_cons, head?_withoutRepetitions, later]
        constructor
        · rintro ⟨change, chain⟩
          exact ⟨.inr (change next rfl), chain⟩
        · rintro ⟨change, chain⟩
          refine ⟨?_, chain⟩
          rintro follows ⟨⟩
          exact change.resolve_left differs
termination_by statuses.length

/-- What never changes again is last once it is reached. -/
theorem getLast?_of_closed {α : Type} {R : α → α → Prop} {reached : α}
    (closed : ∀ next, R reached next → next = reached) {states : List α} (chain : states.IsChain R)
    (member : reached ∈ states) : states.getLast? = some reached := by
  induction chain with
  | nil => exact absurd member List.not_mem_nil
  | singleton state => rw [List.mem_singleton.mp member, List.getLast?_singleton]
  | @cons_cons state next rest related _ inductionHypothesis =>
      rw [List.getLast?_cons_cons]
      refine inductionHypothesis ?_
      rcases List.mem_cons.mp member with rfl | later
      · rw [closed next related]
        exact List.mem_cons_self
      · exact later

end MarketMind.Orchestration
