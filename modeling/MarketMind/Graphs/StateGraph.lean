import Mathlib.Data.List.Chain

/-!
Owns durable state graphs: nodes that turn one state into the next, that may wait for an answer
from outside, and whose states are persisted one by one. A call runs nodes until one waits or the
graph has ended; it may also die between two nodes.

Does not own what the nodes do.
-/

namespace MarketMind.Graphs

/-- A graph of nodes over one state. `Resume` is what a waiting node is resumed with, and `Answer`
what its surroundings answer a node while it runs. -/
structure StateGraph (Node State Payload Resume Answer : Type) where
  entry : Node
  /-- What the node shows while it waits; `none`: it does not wait. -/
  interrupt : Node → State → Option Payload
  execute : Node → State → Option Resume → Answer → State
  /-- The node after this one; `none`: the end. -/
  route : Node → State → Option Node

/-- The last persisted state, the node that comes next, and what it shows if it waits. -/
structure Checkpoint (Node State Payload : Type) where
  values : State
  next : Option Node
  interrupt : Option Payload

/-- What a call leaves behind: the checkpoint, the states it persisted, and whether it has come to
an end of its own. -/
structure Invocation (Node State Payload : Type) where
  checkpoint : Checkpoint Node State Payload
  written : List State
  ended : Bool

namespace StateGraph

variable {Node State Payload Resume Answer : Type}
  (graph : StateGraph Node State Payload Resume Answer)

/-- Whether the call stops here, or which node it runs. -/
inductive Turn (Node State Payload : Type)
  | rest (checkpoint : Checkpoint Node State Payload)
  | run (node : Node)

def turn (resume : Option Resume) (checkpoint : Checkpoint Node State Payload) :
    Turn Node State Payload :=
  match checkpoint.next with
  | none => .rest checkpoint
  | some node =>
      if resume.isSome then .run node
      else
        match graph.interrupt node checkpoint.values with
        | some payload => .rest { checkpoint with interrupt := some payload }
        | none => .run node

/-- Run nodes from the checkpoint, one for each answer. -/
def invoke (resume : Option Resume) (checkpoint : Checkpoint Node State Payload) :
    List Answer → Invocation Node State Payload
  | [] =>
      match graph.turn resume checkpoint with
      | .rest stopped => ⟨stopped, [], true⟩
      | .run _ => ⟨checkpoint, [], false⟩
  | answer :: answers =>
      match graph.turn resume checkpoint with
      | .rest stopped => ⟨stopped, [], true⟩
      | .run node =>
          let after := graph.execute node checkpoint.values resume answer
          let later := invoke none ⟨after, graph.route node after, none⟩ answers
          { later with written := after :: later.written }

/-- The checkpoint before any node has run. -/
def begin (initial : State) : Checkpoint Node State Payload := ⟨initial, some graph.entry, none⟩

variable {graph} {checkpoint : Checkpoint Node State Payload} {node : Node}

theorem turn_resumed {given : Resume} (next : checkpoint.next = some node) :
    graph.turn (some given) checkpoint = .run node := by
  unfold turn
  rw [next]
  rfl

/-- A call that runs a node unasked runs one that does not wait. -/
theorem free_of_run (runs : graph.turn none checkpoint = .run node) :
    checkpoint.next = some node ∧ graph.interrupt node checkpoint.values = none := by
  unfold turn at runs
  split at runs
  · cases runs
  · next known =>
    rw [if_neg nofun] at runs
    split at runs
    · cases runs
    · next free =>
      cases runs
      exact ⟨known, free⟩

/-- A call that stops keeps the state and the node that comes next. It shows what that node shows,
if it waits. -/
theorem same_of_rest {stopped : Checkpoint Node State Payload}
    (rests : graph.turn none checkpoint = .rest stopped) :
    stopped.values = checkpoint.values ∧ stopped.next = checkpoint.next ∧
      (stopped.interrupt = checkpoint.interrupt ∨
        ∃ node, checkpoint.next = some node ∧
          stopped.interrupt = graph.interrupt node checkpoint.values) := by
  unfold turn at rests
  split at rests
  · cases rests
    exact ⟨rfl, rfl, .inl rfl⟩
  · next node known =>
    rw [if_neg nofun] at rests
    split at rests
    · next payload shown =>
      cases rests
      exact ⟨rfl, rfl, .inr ⟨node, known, shown.symm⟩⟩
    · cases rests

/-- A call that resumes a graph runs the waiting node first. -/
theorem invoke_resumed {given : Resume} (next : checkpoint.next = some node) (answer : Answer)
    (answers : List Answer) :
    graph.invoke (some given) checkpoint (answer :: answers) =
      { graph.invoke none
          ⟨graph.execute node checkpoint.values (some given) answer,
            graph.route node (graph.execute node checkpoint.values (some given) answer), none⟩
          answers with
        written := graph.execute node checkpoint.values (some given) answer ::
          (graph.invoke none
            ⟨graph.execute node checkpoint.values (some given) answer,
              graph.route node (graph.execute node checkpoint.values (some given) answer), none⟩
            answers).written } := by
  simp only [invoke, turn_resumed next]

/-- A call that dies before the waiting node has run leaves everything as it was. -/
theorem invoke_unanswered {given : Resume} (next : checkpoint.next = some node) :
    graph.invoke (some given) checkpoint [] = ⟨checkpoint, [], false⟩ := by
  simp only [invoke, turn_resumed next]

/-- A node that waits stops the call, with what it shows. -/
theorem invoke_waiting {payload : Payload} (next : checkpoint.next = some node)
    (waits : graph.interrupt node checkpoint.values = some payload) (answers : List Answer) :
    graph.invoke none checkpoint answers =
      ⟨{ checkpoint with interrupt := some payload }, [], true⟩ := by
  have rests : graph.turn none checkpoint = .rest { checkpoint with interrupt := some payload } := by
    unfold turn
    rw [next]
    dsimp only
    rw [if_neg nofun, waits]
  cases answers <;> simp only [invoke, rests]

variable (graph) in
/-- What a checkpoint shows is what the node that comes next shows. -/
def Shows (checkpoint : Checkpoint Node State Payload) : Prop :=
  ∀ payload, checkpoint.interrupt = some payload →
    ∃ node, checkpoint.next = some node ∧ graph.interrupt node checkpoint.values = some payload

section Invariant

variable {I : Option Node → State → Prop} {R : State → State → Prop}

private theorem stopped_keeps {stopped : Checkpoint Node State Payload}
    (rests : graph.turn none checkpoint = .rest stopped)
    (holds : I checkpoint.next checkpoint.values) (shows : graph.Shows checkpoint) :
    I stopped.next stopped.values ∧ graph.Shows stopped ∧
      List.IsChain R [checkpoint.values] ∧ [checkpoint.values].getLast? = some stopped.values := by
  obtain ⟨values, next, shown⟩ := same_of_rest rests
  refine ⟨?_, ?_, List.IsChain.singleton _, ?_⟩
  · rw [values, next]
    exact holds
  · intro payload isShown
    rw [values, next]
    rcases shown with same | ⟨node, known, same⟩
    · exact shows payload (same.symm.trans isShown)
    · exact ⟨node, known, same.symm.trans isShown⟩
  · rw [values]
    rfl

/-- A fact about the state and the node that comes next, which every node keeps, holds wherever a
call ends or dies, and the states that it persists are related one by one. -/
theorem invoke_keeps
    (keeps : ∀ node state answer, I (some node) state → graph.interrupt node state = none →
      I (graph.route node (graph.execute node state none answer))
          (graph.execute node state none answer) ∧
        R state (graph.execute node state none answer))
    (answers : List Answer) (holds : I checkpoint.next checkpoint.values)
    (shows : graph.Shows checkpoint) :
    I (graph.invoke none checkpoint answers).checkpoint.next
        (graph.invoke none checkpoint answers).checkpoint.values ∧
      graph.Shows (graph.invoke none checkpoint answers).checkpoint ∧
      List.IsChain R (checkpoint.values :: (graph.invoke none checkpoint answers).written) ∧
      (checkpoint.values :: (graph.invoke none checkpoint answers).written).getLast? =
        some (graph.invoke none checkpoint answers).checkpoint.values := by
  induction answers generalizing checkpoint with
  | nil =>
      simp only [invoke]
      split
      · next stopped rests => exact stopped_keeps rests holds shows
      · exact ⟨holds, shows, List.IsChain.singleton _, rfl⟩
  | cons answer answers inductionHypothesis =>
      simp only [invoke]
      split
      · next stopped rests => exact stopped_keeps rests holds shows
      · next node runs =>
        obtain ⟨known, free⟩ := free_of_run runs
        rw [known] at holds
        obtain ⟨kept, related⟩ := keeps node checkpoint.values answer holds free
        obtain ⟨ends, endShows, chain, last⟩ := @inductionHypothesis
          ⟨graph.execute node checkpoint.values none answer, _, none⟩ kept nofun
        refine ⟨ends, endShows, chain.cons_cons related, ?_⟩
        rw [List.getLast?_cons_cons]
        exact last

end Invariant

end StateGraph

/-! ### Threads -/

/-- What is known of one thread: its checkpoint, the states that were persisted, and what the graph
was resumed with. -/
structure Thread (Node State Payload Resume : Type) where
  checkpoint : Option (Checkpoint Node State Payload)
  written : List State
  resumed : List Resume

namespace Thread

variable {Node State Payload Resume Answer : Type}
  {graph : StateGraph Node State Payload Resume Answer}

def empty : Thread Node State Payload Resume := ⟨none, [], []⟩

/-- What the paused thread shows. -/
def paused (thread : Thread Node State Payload Resume) :
    Option (Checkpoint Node State Payload × Payload) :=
  thread.checkpoint.bind fun checkpoint =>
    if checkpoint.next.isSome then checkpoint.interrupt.map fun payload => (checkpoint, payload)
    else none

variable (graph) in
/-- The graph is run from an initial state. -/
def start (initial : State) (answers : List Answer) :
    Thread Node State Payload Resume × Invocation Node State Payload :=
  let invocation := graph.invoke none (graph.begin initial) answers
  (⟨some invocation.checkpoint, initial :: invocation.written, []⟩, invocation)

variable (graph) in
/-- The graph is resumed; the states that it persists are kept. -/
def resume (thread : Thread Node State Payload Resume) (given : Resume)
    (checkpoint : Checkpoint Node State Payload) (answers : List Answer) :
    Thread Node State Payload Resume × Invocation Node State Payload :=
  let invocation := graph.invoke (some given) checkpoint answers
  ({ checkpoint := some invocation.checkpoint
     written := thread.written ++ invocation.written
     resumed :=
      if invocation.written.isEmpty then thread.resumed else thread.resumed ++ [given] },
    invocation)

variable (graph) in
/-- A thread whose checkpoint has the fact about what it was resumed with, the node that comes next
and the state, and whose states are related one by one, from one that a thread may begin in. -/
structure Sound (B : State → Prop) (I : List Resume → Option Node → State → Prop)
    (R : State → State → Prop) (thread : Thread Node State Payload Resume) : Prop where
  unstarted : thread.checkpoint = none → thread.resumed = []
  begins : ∀ state, thread.written.head? = some state → B state
  far : ∀ checkpoint, thread.checkpoint = some checkpoint →
    I thread.resumed checkpoint.next checkpoint.values
  shows : ∀ checkpoint, thread.checkpoint = some checkpoint → graph.Shows checkpoint
  last : thread.written.getLast? = thread.checkpoint.map (·.values)
  chain : thread.written.IsChain R

variable {B : State → Prop} {I : List Resume → Option Node → State → Prop}
  {R : State → State → Prop}
  {thread : Thread Node State Payload Resume} {checkpoint : Checkpoint Node State Payload}

theorem sound_empty : Sound graph B I R empty where
  unstarted _ := rfl
  begins _ isFirst := nomatch isFirst
  far _ known := nomatch known
  shows _ known := nomatch known
  last := rfl
  chain := List.IsChain.nil

/-- A paused thread shows what the node that comes next shows. -/
theorem Sound.of_paused {payload : Payload} (sound : Sound graph B I R thread)
    (paused : thread.paused = some (checkpoint, payload)) :
    thread.checkpoint = some checkpoint ∧ ∃ node, checkpoint.next = some node ∧
      graph.interrupt node checkpoint.values = some payload ∧
      I thread.resumed (some node) checkpoint.values := by
  obtain ⟨found, known, shown⟩ := Option.bind_eq_some_iff.mp paused
  split at shown
  · obtain ⟨same, isShown, equal⟩ := Option.map_eq_some_iff.mp shown
    cases equal
    obtain ⟨node, next, interrupts⟩ := sound.shows checkpoint known payload isShown
    have far := sound.far checkpoint known
    rw [next] at far
    exact ⟨known, node, next, interrupts, far⟩
  · cases shown

section Runs

variable
  (keeps : ∀ resumed node state answer, I resumed (some node) state →
    graph.interrupt node state = none →
      I resumed (graph.route node (graph.execute node state none answer))
          (graph.execute node state none answer) ∧
        R state (graph.execute node state none answer))

include keeps

private theorem sound_extend {resumed : List Resume} {written : List State} {initial : State}
    {node : Option Node} (answers : List Answer)
    (begins : ∀ state, (written ++ [initial]).head? = some state → B state)
    (far : I resumed node initial)
    (chain : (written ++ [initial]).IsChain R) :
    Sound graph B I R
      { checkpoint := some (graph.invoke none ⟨initial, node, none⟩ answers).checkpoint
        written := written ++ initial :: (graph.invoke none ⟨initial, node, none⟩ answers).written
        resumed } := by
  obtain ⟨ends, shows, follows, last⟩ := @StateGraph.invoke_keeps _ _ _ _ _ graph
    ⟨initial, node, none⟩ (I resumed) R (keeps resumed) answers far nofun
  refine ⟨nofun, fun state isFirst => begins state ?_, ?_, ?_, ?_,
    List.isChain_split.mpr ⟨chain, follows⟩⟩
  · cases written <;> exact isFirst
  · rintro checkpoint ⟨⟩
    exact ends
  · rintro checkpoint ⟨⟩
    exact shows
  · rw [List.getLast?_append_of_ne_nil _ (List.cons_ne_nil _ _)]
    exact last

theorem sound_start {initial : State} (answers : List Answer)
    (begins : B initial) (far : I [] (some graph.entry) initial) :
    Sound graph B I R (start graph initial answers).1 := by
  refine @sound_extend _ _ _ _ _ graph B I R keeps [] [] initial (some graph.entry) answers ?_ far
    (List.IsChain.singleton _)
  rintro state ⟨⟩
  exact begins

/-- A thread is resumed where it waits. -/
theorem Sound.resume {given : Resume} {node : Node} (sound : Sound graph B I R thread)
    (known : thread.checkpoint = some checkpoint) (next : checkpoint.next = some node)
    (executes : ∀ answer,
      I (thread.resumed ++ [given])
          (graph.route node (graph.execute node checkpoint.values (some given) answer))
          (graph.execute node checkpoint.values (some given) answer) ∧
        R checkpoint.values (graph.execute node checkpoint.values (some given) answer))
    (answers : List Answer) :
    Sound graph B I R (Thread.resume graph thread given checkpoint answers).1 := by
  cases answers with
  | nil =>
      unfold Thread.resume
      rw [StateGraph.invoke_unanswered next]
      dsimp only [List.isEmpty_nil, if_true]
      rw [List.append_nil, ← known]
      exact sound
  | cons answer answers =>
      obtain ⟨far, related⟩ := executes answer
      unfold Thread.resume
      rw [StateGraph.invoke_resumed next]
      refine sound_extend keeps answers (fun state isFirst => sound.begins state ?_) far ?_
      · have last := sound.last
        rw [known] at last
        cases written : thread.written with
        | nil =>
            rw [written] at last
            cases last
        | cons first rest =>
            rw [written] at isFirst
            exact isFirst
      refine List.IsChain.append sound.chain (List.IsChain.singleton _) fun before isLast => ?_
      rw [sound.last, known] at isLast
      cases isLast
      rintro after ⟨⟩
      exact related

end Runs

end Thread

end MarketMind.Graphs
