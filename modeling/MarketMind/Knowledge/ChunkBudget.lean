import MarketMind.Knowledge.Chunker

/-!
Owns the token budget of chunks: exactly when the assembly keeps it.

Does not own what of an entry its chunks hold.
-/

namespace MarketMind.Knowledge.Chunker

/-- A counter of tokens that never counts less of a longer text, and no more of a text than of its
parts. -/
structure Counter (tokenizer : Text → Nat) : Prop where
  monotone : ∀ before text after, tokenizer text ≤ tokenizer (before ++ text ++ after)
  subadditive : ∀ left right, tokenizer (left ++ right) ≤ tokenizer left + tokenizer right

/-- What a block is not split below: a sentence, a row with its header, or a citation. -/
def units (block : Block) : List Text :=
  match block.kind with
  | .table =>
      match splitlines block.text with
      | header :: separator :: row :: rows =>
          (row :: rows).map fun row => join "\n" [header, separator, row]
      | _ => [block.text]
  | .citation => [block.text]
  | .paragraph | .rule | .list => splitSentences block.text

variable (tokenizer : Text → Nat) (maxTokens overlapTokens : Nat)

/-- Each of them fits together with its heading path. -/
def UnitsFit (classes : Classes) (title body : Text) : Prop :=
  ∀ block ∈ allBlocks classes title body, ∀ unit ∈ units block,
    tokenizer (buildChunkText [{ block with text := unit }] block.headingPath) ≤ maxTokens

def Fits (blocks : List Block) : Prop := chunkTokens tokenizer blocks ≤ maxTokens

/-- A chunk that this block starts fits: with the heading path when it is the first, and with the
overlap of the chunk before when it does not fit in that one. -/
def StartFits (currentBlocks : List Block) (block : Block) : Prop :=
  if currentBlocks = [] then Fits tokenizer maxTokens [block]
  else
    Fits tokenizer maxTokens (currentBlocks ++ [block]) ∨
      Fits tokenizer maxTokens (overlapTail tokenizer overlapTokens currentBlocks ++ [block])

/-- The state of the assembly after these blocks. -/
def assembled (blocks : List Block) : Assembly :=
  blocks.foldl (Assembly.add tokenizer maxTokens overlapTokens) ⟨[], []⟩

variable {tokenizer maxTokens overlapTokens} {state : Assembly} {blocks : List Block}

theorem join_append (separator : String) {parts : List Text} (some' : parts ≠ []) (part : Text) :
    join separator (parts ++ [part]) = join separator parts ++ separator.toList ++ part := by
  induction parts with
  | nil => exact absurd rfl some'
  | cons first parts inductionHypothesis =>
      cases parts with
      | nil => simp [join, List.intercalate_cons_cons]
      | cons next parts =>
          have further := inductionHypothesis (List.cons_ne_nil _ _)
          simp only [join, List.cons_append, List.intercalate_cons_cons] at further ⊢
          rw [further]
          simp only [List.append_assoc]

theorem render_append (some' : blocks ≠ []) (block : Block) :
    render (blocks ++ [block]) = render blocks ++ "\n\n".toList ++ block.text := by
  have header : contextHeader (blocks ++ [block]) = contextHeader blocks := by
    cases blocks with
    | nil => exact absurd rfl some'
    | cons first blocks => rfl
  rw [render, header, buildChunkText, List.map_append, ← List.append_assoc, List.map_singleton,
    join_append]
  · rfl
  · exact List.append_ne_nil_of_right_ne_nil _ (List.map_eq_nil_iff.not.mpr some')

/-- A chunk does not shrink. -/
theorem chunkTokens_le (counter : Counter tokenizer) (some' : blocks ≠ []) (block : Block) :
    chunkTokens tokenizer blocks ≤ chunkTokens tokenizer (blocks ++ [block]) := by
  rw [chunkTokens, chunkTokens, render_append some', List.append_assoc]
  exact counter.monotone [] _ _

/-! ### One step, and a run -/

theorem mem_add {chunk : KnowledgeChunk} (member : chunk ∈ state.chunks) (block : Block) :
    chunk ∈ (state.add tokenizer maxTokens overlapTokens block).chunks := by
  unfold Assembly.add
  dsimp only
  split
  · exact List.mem_append_left _ member
  · exact member

theorem mem_run {chunk : KnowledgeChunk} (member : chunk ∈ state.chunks) (blocks : List Block) :
    chunk ∈ (blocks.foldl (Assembly.add tokenizer maxTokens overlapTokens) state).flush
      tokenizer := by
  induction blocks generalizing state with
  | nil =>
      unfold Assembly.flush
      split
      · exact member
      · exact List.mem_append_left _ member
  | cons block blocks inductionHypothesis => exact inductionHypothesis (mem_add member block)

/-- A chunk that has grown past the budget is made, whatever comes next. -/
theorem exceeds_of_current (counter : Counter tokenizer) (some' : state.currentBlocks ≠ [])
    (tooMany : ¬ Fits tokenizer maxTokens state.currentBlocks) (blocks : List Block) :
    ∃ chunk ∈ (blocks.foldl (Assembly.add tokenizer maxTokens overlapTokens) state).flush tokenizer,
      maxTokens < tokenizer chunk.text := by
  have more : maxTokens < tokenizer (render state.currentBlocks) := Nat.lt_of_not_le tooMany
  refine ⟨makeChunk tokenizer state.chunks state.currentBlocks, ?_, more⟩
  cases blocks with
  | nil =>
      rw [List.foldl_nil, Assembly.flush, if_neg some']
      exact List.mem_append_right _ List.mem_cons_self
  | cons block blocks =>
      rw [List.foldl_cons]
      apply mem_run
      rw [Assembly.add, if_pos ⟨some', lt_of_lt_of_le more (chunkTokens_le counter some' block)⟩]
      exact List.mem_append_right _ List.mem_cons_self

/-- The chunks that are made and the one under way keep the budget. -/
def Within (tokenizer : Text → Nat) (maxTokens : Nat) (state : Assembly) : Prop :=
  (∀ chunk ∈ state.chunks, tokenizer chunk.text ≤ maxTokens) ∧
    (state.currentBlocks ≠ [] → Fits tokenizer maxTokens state.currentBlocks)

theorem Within.flush (within : Within tokenizer maxTokens state) {chunk : KnowledgeChunk}
    (member : chunk ∈ state.flush tokenizer) : tokenizer chunk.text ≤ maxTokens := by
  unfold Assembly.flush at member
  split at member
  · exact within.1 chunk member
  · next some' =>
    rcases List.mem_append.mp member with made | last
    · exact within.1 chunk made
    · rw [List.mem_singleton.mp last]
      exact within.2 some'

theorem Within.add (within : Within tokenizer maxTokens state) {block : Block}
    (start : StartFits tokenizer maxTokens overlapTokens state.currentBlocks block) :
    Within tokenizer maxTokens (state.add tokenizer maxTokens overlapTokens block) := by
  unfold Assembly.add
  dsimp only
  split
  · next closed =>
    rw [StartFits, if_neg closed.1] at start
    refine ⟨fun chunk member => ?_, fun _ => start.resolve_left (not_le_of_gt closed.2)⟩
    rcases List.mem_append.mp member with made | last
    · exact within.1 chunk made
    · rw [List.mem_singleton.mp last]
      exact within.2 closed.1
  · next joined =>
    refine ⟨within.1, fun _ => ?_⟩
    by_cases first : state.currentBlocks = []
    · rw [StartFits, if_pos first] at start
      rw [first]
      exact start
    · exact Nat.le_of_not_lt fun tooMany => joined ⟨first, tooMany⟩

/-- A chunk started over the budget stays so. -/
theorem over_of_start {block : Block}
    (start : ¬ StartFits tokenizer maxTokens overlapTokens state.currentBlocks block) :
    (state.add tokenizer maxTokens overlapTokens block).currentBlocks ≠ [] ∧
      ¬ Fits tokenizer maxTokens
        (state.add tokenizer maxTokens overlapTokens block).currentBlocks := by
  unfold Assembly.add
  dsimp only
  by_cases first : state.currentBlocks = []
  · rw [StartFits, if_pos first] at start
    rw [if_neg fun closed => closed.1 first, first]
    exact ⟨List.cons_ne_nil _ _, start⟩
  · rw [StartFits, if_neg first, not_or] at start
    rw [if_pos ⟨first, Nat.lt_of_not_le start.1⟩]
    exact ⟨List.append_ne_nil_of_right_ne_nil _ (List.cons_ne_nil _ _), start.2⟩

theorem within_assembled
    (starts : ∀ before block after, blocks = before ++ block :: after →
      StartFits tokenizer maxTokens overlapTokens
        (assembled tokenizer maxTokens overlapTokens before).currentBlocks block) :
    Within tokenizer maxTokens (assembled tokenizer maxTokens overlapTokens blocks) := by
  induction blocks using List.reverseRecOn with
  | nil =>
      refine ⟨fun chunk member => absurd member List.not_mem_nil, fun some' => ?_⟩
      exact absurd rfl some'
  | append_singleton blocks block inductionHypothesis =>
      rw [assembled, List.foldl_concat]
      refine Within.add (inductionHypothesis fun before other after split => ?_)
        (starts blocks block [] rfl)
      exact starts before other (after ++ [block]) (by rw [split, List.append_assoc]; rfl)

/-- Marks that are not white space. -/
def marks (text : Text) : Nat := text.countP fun char => !Content.Generator.isSpace char

theorem counter_marks : Counter marks where
  monotone before text after := by
    rw [marks, marks, List.countP_append, List.countP_append]
    omega
  subadditive left right := by
    rw [marks, marks, marks, List.countP_append]

def asciiClasses : Classes := ⟨fun char => char.isAlphanum || char == '_', Char.isDigit⟩

end MarketMind.Knowledge.Chunker
