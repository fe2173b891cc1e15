import MarketMind.Graphs.StateGraph

/-!
Owns what a state graph reaches when it is run and resumed, when its calls come to an end of their
own, and graphs whose nodes are served while a meter is kept.

Does not own what serves the nodes.
-/

namespace MarketMind.Graphs

namespace StateGraph

variable {Node State Payload Resume Answer : Type}
  {graph : StateGraph Node State Payload Resume Answer}
  {checkpoint : Checkpoint Node State Payload}

variable (graph) in
/-- A call stops where no node is left or one waits, and runs the next node otherwise. -/
theorem turn_cases (resume : Option Resume) (checkpoint : Checkpoint Node State Payload) :
    (∃ shown, graph.turn resume checkpoint = .rest { checkpoint with interrupt := shown } ∧
      (checkpoint.next = none ∨ shown.isSome = true)) ∨
    ∃ node, checkpoint.next = some node ∧ graph.turn resume checkpoint = .run node ∧
      (resume = none → graph.interrupt node checkpoint.values = none) := by
  obtain ⟨values, next, interrupt⟩ := checkpoint
  unfold turn
  cases next with
  | none => exact Or.inl ⟨interrupt, rfl, Or.inl rfl⟩
  | some node =>
      cases resume with
      | some given => exact Or.inr ⟨node, rfl, rfl, fun never => absurd never (by simp)⟩
      | none =>
          cases shown : graph.interrupt node values with
          | some payload => exact Or.inl ⟨some payload, by simp [shown], Or.inr rfl⟩
          | none => exact Or.inr ⟨node, rfl, by simp [shown], fun _ => shown⟩

/-! ### What is reached -/

variable (graph) in
/-- The checkpoints of a graph that is run from a state and resumed where it waits. Any call may
die between two nodes. -/
inductive Reached (initial : State) : Checkpoint Node State Payload → Prop
  | started (answers : List Answer) :
      Reached initial (graph.invoke none (graph.begin initial) answers).checkpoint
  | resumed {checkpoint : Checkpoint Node State Payload} (reached : Reached initial checkpoint)
      (waits : checkpoint.interrupt.isSome = true) (given : Resume) (answers : List Answer) :
      Reached initial (graph.invoke (some given) checkpoint answers).checkpoint

section Invariant

variable {I : Option Node → State → Prop}
  (keeps : ∀ node state resume answer, I (some node) state →
    I (graph.route node (graph.execute node state resume answer))
      (graph.execute node state resume answer))

include keeps

/-- What every node keeps, every call keeps. -/
theorem invoke_holds (resume : Option Resume) (answers : List Answer)
    (holds : I checkpoint.next checkpoint.values) :
    I (graph.invoke resume checkpoint answers).checkpoint.next
      (graph.invoke resume checkpoint answers).checkpoint.values := by
  induction answers generalizing resume checkpoint with
  | nil =>
      rcases graph.turn_cases resume checkpoint with ⟨shown, rests, -⟩ | ⟨node, -, runs, -⟩
      · simp only [invoke, rests]
        exact holds
      · simp only [invoke, runs]
        exact holds
  | cons answer answers ih =>
      rcases graph.turn_cases resume checkpoint with ⟨shown, rests, -⟩ | ⟨node, next, runs, -⟩
      · simp only [invoke, rests]
        exact holds
      · simp only [invoke, runs]
        rw [next] at holds
        exact @ih ⟨_, _, none⟩ none (keeps node checkpoint.values resume answer holds)

theorem Reached.holds {initial : State} (reached : graph.Reached initial checkpoint)
    (begins : I (some graph.entry) initial) : I checkpoint.next checkpoint.values := by
  induction reached with
  | started answers => exact invoke_holds keeps none answers begins
  | resumed reached waits given answers ih => exact invoke_holds keeps (some given) answers ih

/-- A call ends of its own when a measure decreases at every node that does not wait, and it stops
at the end or with something to show. -/
theorem invoke_ends {measure : Option Node → State → Nat} {most : Nat}
    (decreases : ∀ node state answer, I (some node) state → graph.interrupt node state = none →
      measure (graph.route node (graph.execute node state none answer))
          (graph.execute node state none answer) < measure (some node) state)
    (bounded : ∀ next state, I next state → measure next state ≤ most)
    (resume : Option Resume) (holds : I checkpoint.next checkpoint.values) (answers : List Answer)
    (enough : most + 1 < answers.length) :
    (graph.invoke resume checkpoint answers).ended = true ∧
      ((graph.invoke resume checkpoint answers).checkpoint.next = none ∨
        (graph.invoke resume checkpoint answers).checkpoint.interrupt.isSome = true) := by
  have unasked : ∀ (answers : List Answer) (checkpoint : Checkpoint Node State Payload),
      I checkpoint.next checkpoint.values →
      measure checkpoint.next checkpoint.values < answers.length →
      (graph.invoke none checkpoint answers).ended = true ∧
        ((graph.invoke none checkpoint answers).checkpoint.next = none ∨
          (graph.invoke none checkpoint answers).checkpoint.interrupt.isSome = true) := by
    intro answers
    induction answers with
    | nil => exact fun _ _ less => absurd less (Nat.not_lt_zero _)
    | cons answer answers ih =>
        intro checkpoint holds less
        rcases graph.turn_cases none checkpoint with
          ⟨shown, rests, stops⟩ | ⟨node, next, runs, free⟩
        · simp only [invoke, rests]
          exact ⟨trivial, stops⟩
        · simp only [invoke, runs]
          rw [next] at holds less
          have fewer := decreases node checkpoint.values answer holds (free rfl)
          have room := Nat.lt_of_lt_of_le fewer (Nat.lt_succ_iff.mp less)
          exact ih ⟨_, _, none⟩ (keeps node checkpoint.values none answer holds) room
  cases answers with
  | nil => simp at enough
  | cons answer answers =>
      rcases graph.turn_cases resume checkpoint with ⟨shown, rests, stops⟩ | ⟨node, next, runs, -⟩
      · simp only [invoke, rests]
        exact ⟨trivial, stops⟩
      · simp only [invoke, runs]
        rw [next] at holds
        have kept := keeps node checkpoint.values resume answer holds
        have room := Nat.lt_of_le_of_lt (bounded _ _ kept) (Nat.lt_of_succ_lt_succ enough)
        exact unasked answers ⟨_, _, none⟩ kept room

end Invariant

/-! ### Meters -/

section Meters

variable {Meter Given : Type} (graph) (serve : Node → State → Meter → Given → Answer × Meter)

/-- The graph whose nodes are served while a meter is kept. -/
def metered : StateGraph Node (State × Meter) Payload Resume Given where
  entry := graph.entry
  interrupt node state := graph.interrupt node state.1
  execute node state resume given :=
    (graph.execute node state.1 resume (serve node state.1 state.2 given).1,
      (serve node state.1 state.2 given).2)
  route node state := graph.route node state.1

end Meters

end StateGraph

/-- The checkpoint without its meter. -/
def Checkpoint.unmetered {Node State Payload Meter : Type}
    (checkpoint : Checkpoint Node (State × Meter) Payload) : Checkpoint Node State Payload :=
  ⟨checkpoint.values.1, checkpoint.next, checkpoint.interrupt⟩

namespace StateGraph

variable {Node State Payload Resume Answer Meter Given : Type}
  {graph : StateGraph Node State Payload Resume Answer}
  {serve : Node → State → Meter → Given → Answer × Meter}

theorem metered_turn (resume : Option Resume)
    (checkpoint : Checkpoint Node (State × Meter) Payload) :
    graph.turn resume checkpoint.unmetered =
      match (graph.metered serve).turn resume checkpoint with
      | .rest stopped => .rest stopped.unmetered
      | .run node => .run node := by
  unfold turn
  cases next : checkpoint.next with
  | none => simp [Checkpoint.unmetered, next]
  | some node =>
      cases resume with
      | some given => simp [Checkpoint.unmetered, next]
      | none =>
          cases shown : graph.interrupt node checkpoint.values.1 with
          | none => simp [Checkpoint.unmetered, next, metered, shown]
          | some payload => simp [Checkpoint.unmetered, next, metered, shown]

/-- A call of a metered graph is one of the graph, on what its nodes are served. -/
theorem metered_invoke (resume : Option Resume)
    (checkpoint : Checkpoint Node (State × Meter) Payload) (given : List Given) :
    ∃ answers, graph.invoke resume checkpoint.unmetered answers =
      { checkpoint := ((graph.metered serve).invoke resume checkpoint given).checkpoint.unmetered
        written := ((graph.metered serve).invoke resume checkpoint given).written.map Prod.fst
        ended := ((graph.metered serve).invoke resume checkpoint given).ended } := by
  have same := @metered_turn _ _ _ _ _ _ _ graph serve
  induction given generalizing resume checkpoint with
  | nil =>
      refine ⟨[], ?_⟩
      rcases (graph.metered serve).turn_cases resume checkpoint with
        ⟨shown, rests, -⟩ | ⟨node, -, runs, -⟩
      · simp only [invoke, same, rests, List.map_nil]
      · simp only [invoke, same, runs, List.map_nil]
  | cons given rest ih =>
      rcases (graph.metered serve).turn_cases resume checkpoint with
        ⟨shown, rests, -⟩ | ⟨node, -, runs, -⟩
      · refine ⟨[], ?_⟩
        simp only [invoke, same, rests, List.map_nil]
      · obtain ⟨answers, later⟩ := ih none
          ⟨(graph.metered serve).execute node checkpoint.values resume given,
            (graph.metered serve).route node
              ((graph.metered serve).execute node checkpoint.values resume given), none⟩
        refine ⟨(serve node checkpoint.values.1 checkpoint.values.2 given).1 :: answers, ?_⟩
        simp only [invoke, same, runs, List.map_cons]
        exact congrArg (fun invocation : Invocation Node State Payload =>
          { invocation with
            written := ((graph.metered serve).execute node checkpoint.values resume given).1 ::
              invocation.written }) later

/-- What a metered graph reaches, the graph reaches. -/
theorem Reached.unmetered {initial : State} {meter : Meter}
    {checkpoint : Checkpoint Node (State × Meter) Payload}
    (reached : (graph.metered serve).Reached (initial, meter) checkpoint) :
    graph.Reached initial checkpoint.unmetered := by
  induction reached with
  | started given =>
      obtain ⟨answers, same⟩ := @metered_invoke _ _ _ _ _ _ _ graph serve none
        ((graph.metered serve).begin (initial, meter)) given
      have reaches := @Reached.started _ _ _ _ _ graph initial answers
      rw [show graph.invoke none (graph.begin initial) answers = _ from same] at reaches
      exact reaches
  | @resumed before reached waits command given ih =>
      obtain ⟨answers, same⟩ := @metered_invoke _ _ _ _ _ _ _ graph serve (some command) before
        given
      have reaches := Reached.resumed ih waits command answers
      rw [same] at reaches
      exact reaches

/-! ### Rations -/

variable (graph) in
/-- Some nodes run only as often as is allowed, and the others lead to the end or to one of them. -/
structure Rationed (rationed : Node → Bool) (I : Option Node → State → Prop)
    (allowed : Option Node → State → Nat) (rank : Option Node → Nat) : Prop where
  keeps : ∀ node state resume answer, I (some node) state →
    I (graph.route node (graph.execute node state resume answer))
      (graph.execute node state resume answer)
  takes : ∀ node state resume answer, I (some node) state →
    allowed (graph.route node (graph.execute node state resume answer))
        (graph.execute node state resume answer) + (if rationed node then 1 else 0) ≤
      allowed (some node) state
  falls : ∀ node state answer, I (some node) state → graph.interrupt node state = none →
    rationed node = false →
      rank (graph.route node (graph.execute node state none answer)) < rank (some node)
  low : ∀ next, rank next ≤ 2

namespace Rationed

variable {rationed : Node → Bool} {I : Option Node → State → Prop}
  {allowed : Option Node → State → Nat} {rank : Option Node → Nat} {initial : State} {meter : Meter}
  {checkpoint : Checkpoint Node (State × Meter) Payload}

/-- What the rationed nodes cost is at most their cost for all that is allowed. -/
theorem cost_le (rations : graph.Rationed rationed I allowed rank) {cost : Meter → Nat}
    {perNode : Nat}
    (costs : ∀ node state meter given,
      cost (serve node state meter given).2 ≤ cost meter + if rationed node then perNode else 0)
    (begins : I (some graph.entry) initial)
    (reached : (graph.metered serve).Reached (initial, meter) checkpoint) :
    cost checkpoint.values.2 + perNode * allowed checkpoint.next checkpoint.values.1 ≤
      cost meter + perNode * allowed (some graph.entry) initial := by
  have both := @Reached.holds _ _ _ _ _ (graph.metered serve) checkpoint
    (fun next state => I next state.1 ∧ cost state.2 + perNode * allowed next state.1 ≤
      cost meter + perNode * allowed (some graph.entry) initial)
    (fun node state resume given holds => by
      obtain ⟨kept, within⟩ := holds
      refine ⟨rations.keeps node state.1 resume _ kept, le_trans ?_ within⟩
      have taken := rations.takes node state.1 resume (serve node state.1 state.2 given).1 kept
      have paid := costs node state.1 state.2 given
      have scaled := Nat.mul_le_mul_left perNode taken
      rw [Nat.mul_add] at scaled
      cases isRationed : rationed node
      · simp only [isRationed, Bool.false_eq_true, if_false, Nat.mul_zero, Nat.add_zero]
          at paid scaled
        exact Nat.add_le_add paid scaled
      · simp only [isRationed, if_true, Nat.mul_one] at paid scaled
        have total := Nat.add_le_add paid scaled
        dsimp only [metered] at total ⊢
        omega)
    (initial, meter) reached ⟨begins, Nat.le_refl _⟩
  exact both.2

/-- A call with enough answers ends of its own, at the end or with something to show. -/
theorem ends (rations : graph.Rationed rationed I allowed rank)
    (begins : I (some graph.entry) initial)
    (reached : (graph.metered serve).Reached (initial, meter) checkpoint)
    (resume : Option Resume) (given : List Given)
    (enough : 3 * allowed (some graph.entry) initial + 3 < given.length) :
    ((graph.metered serve).invoke resume checkpoint given).ended = true ∧
      (((graph.metered serve).invoke resume checkpoint given).checkpoint.next = none ∨
        ((graph.metered serve).invoke resume checkpoint given).checkpoint.interrupt.isSome =
          true) := by
  have keeps : ∀ node (state : State × Meter) (resume : Option Resume) (given : Given),
      (I (some node) state.1 ∧
        allowed (some node) state.1 ≤ allowed (some graph.entry) initial) →
      I ((graph.metered serve).route node ((graph.metered serve).execute node state resume given))
          ((graph.metered serve).execute node state resume given).1 ∧
        allowed
            ((graph.metered serve).route node
              ((graph.metered serve).execute node state resume given))
            ((graph.metered serve).execute node state resume given).1 ≤
          allowed (some graph.entry) initial := fun node state resume given holds => by
    obtain ⟨kept, within⟩ := holds
    have taken := rations.takes node state.1 resume (serve node state.1 state.2 given).1 kept
    exact ⟨rations.keeps node state.1 resume _ kept,
      (Nat.le_add_right _ _).trans (taken.trans within)⟩
  refine @invoke_ends _ _ _ _ _ (graph.metered serve) checkpoint
    (fun next state => I next state.1 ∧
      allowed next state.1 ≤ allowed (some graph.entry) initial) keeps
    (fun next state => 3 * allowed next state.1 + rank next)
    (3 * allowed (some graph.entry) initial + 2) ?_ ?_ resume
    (@Reached.holds _ _ _ _ _ (graph.metered serve) checkpoint
      (fun next state => I next state.1 ∧
        allowed next state.1 ≤ allowed (some graph.entry) initial)
      keeps (initial, meter) reached ⟨begins, Nat.le_refl _⟩) given enough
  · rintro node state given ⟨kept, -⟩ free
    have taken := rations.takes node state.1 none (serve node state.1 state.2 given).1 kept
    have low := rations.low (graph.route node
      (graph.execute node state.1 none (serve node state.1 state.2 given).1))
    dsimp only [metered]
    cases isRationed : rationed node
    · have lower := rations.falls node state.1 (serve node state.1 state.2 given).1 kept free
        isRationed
      simp only [isRationed, Bool.false_eq_true, if_false, Nat.add_zero] at taken
      omega
    · simp only [isRationed, if_true] at taken
      omega
  · rintro next state ⟨-, within⟩
    have low := rations.low next
    omega

end Rationed

end StateGraph

end MarketMind.Graphs
