import MarketMind.Content.Generator
import MarketMind.Orchestration.Contracts

/-!
Owns the research agent: the registry of its tools with their budget, the loop that a selector
drives, and the pack that it hands over.

Does not own the tools, the selector, the clock or the checks of the models: they are parameters
that may answer differently at every call. Confidences are of any type. The readiness flags that
nothing reads are left out.
-/

namespace MarketMind.Orchestration.Research

/-! ### Dictionaries in their order -/

section Dictionaries

variable {κ α : Type} [DecidableEq κ]

/-- `entries.get(key)` -/
def getItem (key : κ) : List (κ × α) → Option α
  | [] => none
  | entry :: rest => if entry.1 = key then some entry.2 else getItem key rest

/-- `entries[key] = value` -/
def setItem (key : κ) (value : α) : List (κ × α) → List (κ × α)
  | [] => [(key, value)]
  | entry :: rest =>
      if entry.1 = key then (key, value) :: rest else entry :: setItem key value rest

/-- `entries.setdefault(key, value)` -/
def setDefault (key : κ) (value : α) (entries : List (κ × α)) : List (κ × α) :=
  if (getItem key entries).isSome then entries else setItem key value entries

theorem mem_of_getItem {key : κ} {value : α} {entries : List (κ × α)}
    (found : getItem key entries = some value) : (key, value) ∈ entries := by
  induction entries with
  | nil => cases found
  | cons entry rest inductionHypothesis =>
      by_cases same : entry.1 = key
      · rw [getItem, if_pos same] at found
        cases found
        exact same ▸ List.mem_cons_self
      · rw [getItem, if_neg same] at found
        exact List.mem_cons_of_mem entry (inductionHypothesis found)

@[simp]
theorem getItem_setItem_self (key : κ) (value : α) (entries : List (κ × α)) :
    getItem key (setItem key value entries) = some value := by
  induction entries with
  | nil => simp [setItem, getItem]
  | cons entry rest inductionHypothesis =>
      by_cases same : entry.1 = key
      · simp [setItem, getItem, same]
      · simp [setItem, getItem, same, inductionHypothesis]

theorem getItem_setItem_of_ne {key other : κ} (differs : key ≠ other) (value : α)
    (entries : List (κ × α)) :
    getItem other (setItem key value entries) = getItem other entries := by
  induction entries with
  | nil => simp [setItem, getItem, differs]
  | cons entry rest inductionHypothesis =>
      by_cases same : entry.1 = key
      · simp [setItem, getItem, same, differs]
      · simp [setItem, getItem, same, inductionHypothesis]

theorem mem_setItem {key : κ} {value : α} {entries : List (κ × α)} {entry : κ × α}
    (member : entry ∈ setItem key value entries) : entry = (key, value) ∨ entry ∈ entries := by
  induction entries with
  | nil => exact .inl (List.mem_singleton.mp member)
  | cons first rest inductionHypothesis =>
      by_cases same : first.1 = key
      · rw [setItem, if_pos same] at member
        rcases List.mem_cons.mp member with isNew | old
        · exact .inl isNew
        · exact .inr (List.mem_cons_of_mem first old)
      · rw [setItem, if_neg same] at member
        rcases List.mem_cons.mp member with isFirst | old
        · exact .inr (isFirst ▸ List.mem_cons_self)
        · exact (inductionHypothesis old).imp_right (List.mem_cons_of_mem first)

theorem nodup_setItem {key : κ} {value : α} {entries : List (κ × α)}
    (distinct : (entries.map Prod.fst).Nodup) :
    ((setItem key value entries).map Prod.fst).Nodup := by
  induction entries with
  | nil => simp [setItem]
  | cons first rest inductionHypothesis =>
      rw [List.map_cons, List.nodup_cons] at distinct
      by_cases same : first.1 = key
      · rw [setItem, if_pos same, List.map_cons, List.nodup_cons, ← same]
        exact distinct
      · rw [setItem, if_neg same, List.map_cons, List.nodup_cons]
        refine ⟨fun member => ?_, inductionHypothesis distinct.2⟩
        obtain ⟨entry, listed, sameKey⟩ := List.mem_map.mp member
        rcases mem_setItem listed with rfl | old
        · exact same sameKey.symm
        · exact distinct.1 (List.mem_map.mpr ⟨entry, old, sameKey⟩)

end Dictionaries

/-! ### The contracts -/

/-- The error codes of the registry and the agent; a tool may raise any other of `ERROR_CODES`. -/
inductive ErrorCode
  | toolNotAllowed
  | budgetExceeded
  | validationFailed
  | providerUnsupported
  | scopeMismatch
  | other (code : String)
deriving DecidableEq, Repr

/-- `ERROR_CODES` spells them. -/
def ErrorCode.text : ErrorCode → String
  | toolNotAllowed => "ORCHESTRATION_TOOL_NOT_ALLOWED"
  | budgetExceeded => "ORCHESTRATION_BUDGET_EXCEEDED"
  | validationFailed => "ORCHESTRATION_VALIDATION_FAILED"
  | providerUnsupported => "ORCHESTRATION_PROVIDER_UNSUPPORTED"
  | scopeMismatch => "ORCHESTRATION_SCOPE_MISMATCH"
  | other code => code

/-- What leaves the run as an exception. -/
inductive Failure
  | invalidBudget
  | unreadableDeadline
  | context
deriving DecidableEq, Repr

/-- `CampaignOrchestrationStartV1` as the agent reads it. The deadline is what `fromisoformat` makes
of its text, which may be nothing. -/
structure ResearchStart where
  runId : Uuid
  businessId : Uuid
  confirmedProfileVersionId : Uuid
  toolCallsUsed : Nat
  toolCallsLimit : Nat
  deadlineAt : Option (Option Int)
deriving DecidableEq, Repr

inductive SourceKind
  | approvedKnowledge
  | discoveryEvidence
  | other (kind : String)
deriving DecidableEq, Repr

structure ResearchFact (Weight : Type) where
  statement : String
  sourceRef : String
  sourceKind : SourceKind
  fetchedAt : String
  confidence : Weight
  relevance : Weight

structure ResearchAssumption where
  statement : String
  sourceRef : Option String
  reason : String

structure KnowledgeGap where
  fieldKey : String
  questionHint : String
  priority : Nat
  blocking : Bool

inductive StopReason
  | sufficientEvidence
  | ownerBlocker
  | budgetExhausted
  | providerFailure
deriving DecidableEq, Repr

structure ResearchPack (Weight : Type) where
  runId : Uuid
  businessId : Uuid
  profileVersionId : Uuid
  facts : List (ResearchFact Weight)
  assumptions : List ResearchAssumption
  knowledgeGaps : List KnowledgeGap
  sourceQualitySummary : String
  stopReason : StopReason

structure TriageCandidate (Weight : Type) where
  index : Nat
  provider : String
  url : Option String
  providerConfidence : Weight
deriving DecidableEq

inductive EvidenceClassification
  | ownBusiness
  | competitor
  | marketContext
  | socialSignal
  | directory
  | irrelevant
deriving DecidableEq, Repr

inductive EvidenceTier
  | confirmedSignal
  | needsConfirmation
  | discarded
deriving DecidableEq, Repr

structure TriageDecision (Weight : Type) where
  index : Nat
  classification : EvidenceClassification
  evidenceTier : EvidenceTier
  confidence : Weight
  suggestedOwnerQuestion : Option String
  synthesizedObservation : Option String

/-- A gap of the strategy decisions is a dictionary: `str` of its entries, as far as they stand. -/
structure DecisionGap where
  category : Option String
  description : Option String
  severity : Option String

inductive ToolResult (Weight : Type)
  | approvedKnowledge (facts : List (ResearchFact Weight)) (knowledgeGaps : List KnowledgeGap)
  | evidenceTriage (decisions : List (TriageDecision Weight))
  | queryPlan (warnings : List String)
  | strategyDecisions (knowledgeGaps : List DecisionGap)
  | other

/-! ### The registry -/

structure ToolBudget where
  limit : Nat
  used : Nat
deriving DecidableEq, Repr

/-- `consume` -/
def ToolBudget.consume (budget : ToolBudget) : Except ErrorCode ToolBudget :=
  if budget.used ≥ budget.limit then .error .budgetExceeded
  else .ok { budget with used := budget.used + 1 }

/-- What a handler raises. -/
inductive Raised
  | timeout
  | tool (code : ErrorCode)
  | exception
deriving DecidableEq, Repr

def Raised.code : Raised → ErrorCode
  | timeout => .providerUnsupported
  | tool code => code
  | exception => .validationFailed

/-- The types of the parameters: arguments before and after their check, what the handlers return,
and what the server puts into the context. -/
structure Types where
  Weight : Type
  Arguments : Type
  Parsed : Type
  Raw : Type
  Intake : Type
  Extra : Type

structure ResearchAgentInput (types : Types) where
  start : ResearchStart
  intake : types.Intake
  discoveryCandidates : List (TriageCandidate types.Weight)
  extra : types.Extra
  minimumFactCount : Nat
  minimumToolCount : Nat

structure ResearchToolContext (types : Types) where
  start : ResearchStart
  intake : types.Intake
  discoveryCandidates : List (TriageCandidate types.Weight)
  extra : types.Extra

/-- A handler is told how many calls were made before. -/
structure ToolDefinition (types : Types) where
  name : String
  inputModel : types.Arguments → Option types.Parsed
  outputModel : types.Raw → Option (ToolResult types.Weight)
  handler : Nat → types.Parsed → ResearchToolContext types → Except Raised types.Raw

structure ToolRegistry (types : Types) where
  definitions : List (ToolDefinition types)
  maxOutputBytes : Nat
  encodedSize : ToolResult types.Weight → Nat

/-- `ToolRegistry.execute`, with the budget as it leaves it. -/
def ToolRegistry.execute {types : Types} (registry : ToolRegistry types) (moment : Nat)
    (name : String) (arguments : types.Arguments) (context : ResearchToolContext types)
    (budget : ToolBudget) : Except ErrorCode (ToolResult types.Weight) × ToolBudget :=
  match registry.definitions.find? fun definition => definition.name = name with
  | none => (.error .toolNotAllowed, budget)
  | some definition =>
      match budget.consume with
      | .error code => (.error code, budget)
      | .ok budget =>
          match definition.inputModel arguments with
          | none => (.error .validationFailed, budget)
          | some parsed =>
              match definition.handler moment parsed context with
              | .error raised => (.error raised.code, budget)
              | .ok raw =>
                  match definition.outputModel raw with
                  | none => (.error .validationFailed, budget)
                  | some result =>
                      if registry.encodedSize result > registry.maxOutputBytes then
                        (.error .budgetExceeded, budget)
                      else (.ok result, budget)

/-! ### The agent -/

/-- `_ResearchState`. `calls` is the record of what the registry was asked for, with what a tool
completed with; the program does not keep it. -/
structure ResearchState (Weight : Type) where
  budget : ToolBudget
  facts : List (String × ResearchFact Weight)
  assumptions : List ResearchAssumption
  gaps : List (String × KnowledgeGap)
  toolsUsed : List String
  actionSummaries : List String
  stableErrors : List ErrorCode
  calls : List (String × Option (ToolResult Weight))

structure ResearchAgentView where
  factCount : Nat
  gapCount : Nat
  availableCandidateIndices : List Nat
  toolsUsed : List String
  remainingToolCalls : Nat
  queryPlanReady : Bool
  evidenceTriageReady : Bool
  knowledgeSearchReady : Bool
  strategyDecisionsReady : Bool

inductive Stop
  | sufficientEvidence
  | ownerBlocker
deriving DecidableEq, Repr

inductive Selection (Arguments : Type)
  | tool (name : String) (arguments : Arguments)
  | stop (reason : Stop)

/-- The agent in its surroundings. `select` answers with a selection or raises an exception of the
named type; it, the clock and the handlers are told how many turns or calls there were before.
`weigh` is the product of two confidences, kept between 0 and 1. -/
structure ResearchAgent (types : Types) where
  registry : ToolRegistry types
  select : Nat → ResearchAgentView → Except String (Selection types.Arguments)
  now : Nat → Int
  isoNow : Nat → String
  contextBuilder : Option (ResearchAgentInput types →
    Except (Option ErrorCode) (ResearchToolContext types))
  sameIntake : types.Intake → types.Intake → Bool
  sameCandidates : List (TriageCandidate types.Weight) → List (TriageCandidate types.Weight) → Bool
  weigh : types.Weight → types.Weight → types.Weight

section Agent

variable {types : Types} (agent : ResearchAgent types) (request : ResearchAgentInput types)

/-- `_build_context`; an error without a code is no `ToolExecutionError`. -/
def buildContext : Except (Option ErrorCode) (ResearchToolContext types) :=
  match agent.contextBuilder with
  | none => .ok ⟨request.start, request.intake, request.discoveryCandidates, request.extra⟩
  | some build => do
      let context ← build request
      if context.start ≠ request.start ∨ agent.sameIntake context.intake request.intake = false ∨
          agent.sameCandidates context.discoveryCandidates request.discoveryCandidates = false then
        .error (some .scopeMismatch)
      else .ok context

/-- `_bounded_text` -/
def boundedText (value : String) (maximum : Nat) : String :=
  let compact := [' '].intercalate ((value.toList.splitOnP Content.Generator.isSpace).filter
    (!·.isEmpty))
  if compact = [] then "No evidence text supplied." else String.ofList (compact.take maximum)

/-- `_view` -/
def view (state : ResearchState types.Weight) : ResearchAgentView where
  factCount := state.facts.length
  gapCount := state.gaps.length
  availableCandidateIndices := request.discoveryCandidates.map (·.index)
  toolsUsed := state.toolsUsed
  remainingToolCalls := state.budget.limit - state.budget.used
  queryPlanReady := state.toolsUsed.contains "plan_trusted_research_queries"
  evidenceTriageReady := state.toolsUsed.contains "triage_research_evidence"
  knowledgeSearchReady := state.toolsUsed.contains "search_approved_marketing_knowledge"
  strategyDecisionsReady := state.toolsUsed.contains "calculate_strategy_decisions"

/-- `_has_blocking_gap` -/
def hasBlockingGap {Weight : Type} (state : ResearchState Weight) : Bool :=
  state.gaps.any (·.2.blocking)

/-- `_is_sufficient` -/
def isSufficient (state : ResearchState types.Weight) : Bool :=
  state.facts.length ≥ request.minimumFactCount &&
    state.toolsUsed.dedup.length ≥ request.minimumToolCount && !hasBlockingGap state

/-- `_deadline_reached` -/
def deadlineReached (moment : Nat) : Except Failure Bool :=
  match request.start.deadlineAt with
  | none => .ok false
  | some none => .error .unreadableDeadline
  | some (some deadline) => .ok (deadline ≤ agent.now moment)

/-- Whether `_record_gap` puts the gap in the place of what stands there. -/
def replaces (gap : KnowledgeGap) : Option KnowledgeGap → Bool
  | none => true
  | some existing =>
      (gap.blocking && !existing.blocking) ||
        (gap.blocking = existing.blocking && gap.priority < existing.priority)

/-- `_record_gap` -/
def recordGap (gaps : List (String × KnowledgeGap)) (gap : KnowledgeGap) :
    List (String × KnowledgeGap) :=
  if replaces gap (getItem gap.fieldKey gaps) then setItem gap.fieldKey gap gaps else gaps

/-- The gap that the agent makes of a gap of the strategy decisions. -/
def DecisionGap.asKnowledgeGap (gap : DecisionGap) : KnowledgeGap where
  fieldKey := "strategy:" ++ gap.category.getD "strategy"
  questionHint := boundedText (gap.description.getD (gap.category.getD "strategy")) 300
  priority := if gap.severity = some "blocking" then 1 else 2
  blocking := gap.severity = some "blocking"

/-- The gaps that a result reports. -/
def ToolResult.gaps {Weight : Type} : ToolResult Weight → List KnowledgeGap
  | approvedKnowledge _ knowledgeGaps => knowledgeGaps
  | strategyDecisions knowledgeGaps => knowledgeGaps.map DecisionGap.asKnowledgeGap
  | evidenceTriage _ | queryPlan _ | other => []

/-- Keep a fact, unless there is one from its source. -/
def keepFact {Weight : Type} (facts : List (String × ResearchFact Weight))
    (fact : ResearchFact Weight) : List (String × ResearchFact Weight) :=
  setDefault fact.sourceRef fact facts

def isFilled (text : Option String) : Bool := text.any (· ≠ "")

/-- What one decision of the triage says, when it is used. -/
def triagedFact (fetchedAt : String) (decision : TriageDecision types.Weight) :
    Option (ResearchFact types.Weight) := do
  -- The dictionary of the candidates keeps the last one of an index.
  let candidate ← request.discoveryCandidates.reverse.find? (·.index = decision.index)
  let statement ← decision.synthesizedObservation
  if decision.evidenceTier = .discarded ∨ decision.classification = .irrelevant ∨
      statement = "" then none
  else
    let sourceRef := if isFilled candidate.url then candidate.url.getD "" else
      "discovery://" ++ candidate.provider ++ "/" ++ toString candidate.index
    let confidence := agent.weigh decision.confidence candidate.providerConfidence
    some ⟨boundedText statement 700, sourceRef, .discoveryEvidence, fetchedAt, confidence,
      confidence⟩

/-- The loop over the decisions of the triage. -/
def ingestDecision (fetchedAt : String) (state : ResearchState types.Weight)
    (decision : TriageDecision types.Weight) : ResearchState types.Weight :=
  match triagedFact agent request fetchedAt decision with
  | none => state
  | some fact =>
      { state with
        facts := keepFact state.facts fact
        assumptions :=
          if isFilled decision.suggestedOwnerQuestion then
            state.assumptions ++ [⟨fact.statement, some fact.sourceRef,
              boundedText (decision.suggestedOwnerQuestion.getD "") 300⟩]
          else state.assumptions }

/-- `_ingest_result` -/
def ingestResult (moment : Nat) (state : ResearchState types.Weight) (toolName : String)
    (result : ToolResult types.Weight) : ResearchState types.Weight :=
  let state := { state with
    actionSummaries := state.actionSummaries ++
      ["Tool " ++ toolName ++ " completed with a typed result."] }
  match result with
  | .approvedKnowledge facts knowledgeGaps =>
      { state with
        facts := facts.foldl keepFact state.facts
        gaps := knowledgeGaps.foldl recordGap state.gaps }
  | .evidenceTriage decisions =>
      decisions.foldl (ingestDecision agent request (agent.isoNow moment)) state
  | .queryPlan warnings =>
      if warnings = [] then state
      else { state with
        actionSummaries := state.actionSummaries ++
          ["Query planning returned " ++ toString warnings.length ++ " visible warning(s)."] }
  | .strategyDecisions knowledgeGaps =>
      { state with
        gaps := (knowledgeGaps.map DecisionGap.asKnowledgeGap).foldl recordGap state.gaps }
  | .other => state

/-- What follows a completed call. -/
def settle (moment : Nat) (state : ResearchState types.Weight) (toolName : String)
    (result : ToolResult types.Weight) : ResearchState types.Weight × Option StopReason :=
  let state := ingestResult agent request moment
    { state with toolsUsed := state.toolsUsed ++ [toolName] } toolName result
  if hasBlockingGap state then
    ({ state with
        actionSummaries := state.actionSummaries ++
          ["Research stopped because a blocking knowledge gap requires an owner decision."] },
      some .ownerBlocker)
  else if isSufficient request state ∧ state.budget.used ≥ request.minimumToolCount then
    ({ state with
        actionSummaries := state.actionSummaries ++
          ["Research evidence gate met after " ++ toString state.budget.used ++ " tool calls."] },
      some .sufficientEvidence)
  else (state, none)

/-- A selected tool is executed. -/
def callTool (context : ResearchToolContext types) (moment : Nat)
    (state : ResearchState types.Weight) (name : String) (arguments : types.Arguments) :
    ResearchState types.Weight × Option StopReason :=
  match agent.registry.execute moment name arguments context state.budget with
  | (.error code, budget) =>
      ({ state with
          budget := budget
          calls := state.calls ++ [(name, none)]
          stableErrors := state.stableErrors ++ [code]
          actionSummaries := state.actionSummaries ++
            ["Tool " ++ name ++ " stopped with " ++ code.text ++ "."] },
        some (if code = .budgetExceeded then .budgetExhausted else .providerFailure))
  | (.ok result, budget) =>
      settle agent request moment
        { state with budget := budget, calls := state.calls ++ [(name, some result)] } name result

/-- A selector's wish to stop. -/
def stopOn (state : ResearchState types.Weight) :
    Stop → ResearchState types.Weight × Option StopReason
  | .ownerBlocker => (state, some .ownerBlocker)
  | .sufficientEvidence =>
      if isSufficient request state then (state, some .sufficientEvidence)
      else
        ({ state with
            actionSummaries := state.actionSummaries ++
              ["Selector requested sufficient evidence before the configured evidence gate was " ++
                "met."] },
          some .ownerBlocker)

def exhaust {Weight : Type} (state : ResearchState Weight) :
    ResearchState Weight × Option StopReason :=
  ({ state with stableErrors := state.stableErrors ++ [.budgetExceeded] }, some .budgetExhausted)

/-- One turn of the loop in `run`, with the reason to stop after it. -/
def turn (context : ResearchToolContext types) (moment : Nat) (state : ResearchState types.Weight) :
    Except Failure (ResearchState types.Weight × Option StopReason) := do
  if ← deadlineReached agent request moment then return exhaust state
  else if state.budget.used ≥ state.budget.limit then return exhaust state
  else
    match agent.select moment (view request state) with
    | .error typeName =>
        return ({ state with
            stableErrors := state.stableErrors ++ [.providerUnsupported]
            actionSummaries := state.actionSummaries ++
              ["Research selector failed visibly: " ++ typeName ++ "."] }, some .providerFailure)
    | .ok (.stop reason) => return stopOn request state reason
    | .ok (.tool name arguments) =>
        return callTool agent request context moment state name arguments

end Agent

/-! ### What a turn does -/

section Turns

variable {types : Types} (agent : ResearchAgent types) (request : ResearchAgentInput types)

/-- A call that completes has taken one from the budget; one that fails took at most one. -/
theorem execute_budget {registry : ToolRegistry types} {moment : Nat} {name : String}
    {arguments : types.Arguments} {context : ResearchToolContext types} {budget after : ToolBudget}
    {outcome : Except ErrorCode (ToolResult types.Weight)}
    (executed : registry.execute moment name arguments context budget = (outcome, after)) :
    after = { budget with used := budget.used + 1 } ∨
      (after = budget ∧ ∃ code, outcome = .error code) := by
  unfold ToolRegistry.execute at executed
  split at executed
  · cases executed
    exact .inr ⟨rfl, _, rfl⟩
  · by_cases spent : budget.used ≥ budget.limit
    · rw [ToolBudget.consume, if_pos spent] at executed
      cases executed
      exact .inr ⟨rfl, _, rfl⟩
    · rw [ToolBudget.consume, if_neg spent] at executed
      refine .inl ?_
      dsimp only at executed
      split at executed
      · exact (congrArg Prod.snd executed).symm
      · split at executed
        · exact (congrArg Prod.snd executed).symm
        · split at executed
          · exact (congrArg Prod.snd executed).symm
          · split_ifs at executed
            · exact (congrArg Prod.snd executed).symm
            · exact (congrArg Prod.snd executed).symm

/-- Nothing but the summaries, the errors and the assumptions differs. -/
structure SameRecord {Weight : Type} (before after : ResearchState Weight) : Prop where
  budget : after.budget = before.budget
  calls : after.calls = before.calls
  toolsUsed : after.toolsUsed = before.toolsUsed
  facts : after.facts = before.facts
  gaps : after.gaps = before.gaps

theorem SameRecord.rfl {Weight : Type} {state : ResearchState Weight} : SameRecord state state :=
  ⟨.refl _, .refl _, .refl _, .refl _, .refl _⟩

/-- Reading a result changes neither the budget nor the records of the calls. -/
structure SameCalls {Weight : Type} (before after : ResearchState Weight) : Prop where
  budget : after.budget = before.budget
  calls : after.calls = before.calls
  toolsUsed : after.toolsUsed = before.toolsUsed

theorem ingestDecisions_calls (fetchedAt : String) (decisions : List (TriageDecision types.Weight))
    (state : ResearchState types.Weight) :
    SameCalls state (decisions.foldl (ingestDecision agent request fetchedAt) state) := by
  induction decisions generalizing state with
  | nil => exact ⟨rfl, rfl, rfl⟩
  | cons decision decisions inductionHypothesis =>
      have first : SameCalls state (ingestDecision agent request fetchedAt state decision) := by
        unfold ingestDecision
        split
        · exact ⟨rfl, rfl, rfl⟩
        · exact ⟨rfl, rfl, rfl⟩
      have rest := inductionHypothesis (ingestDecision agent request fetchedAt state decision)
      exact ⟨rest.budget.trans first.budget, rest.calls.trans first.calls,
        rest.toolsUsed.trans first.toolsUsed⟩

theorem ingestResult_calls (moment : Nat) (state : ResearchState types.Weight) (toolName : String)
    (result : ToolResult types.Weight) :
    SameCalls state (ingestResult agent request moment state toolName result) := by
  cases result with
  | approvedKnowledge | strategyDecisions | other => exact ⟨rfl, rfl, rfl⟩
  | evidenceTriage decisions =>
      have heard := ingestDecisions_calls agent request (agent.isoNow moment) decisions
        { state with
          actionSummaries := state.actionSummaries ++
            ["Tool " ++ toolName ++ " completed with a typed result."] }
      exact ⟨heard.budget, heard.calls, heard.toolsUsed⟩
  | queryPlan warnings =>
      by_cases quiet : warnings = []
      · simp only [ingestResult, if_pos quiet]
        exact ⟨rfl, rfl, rfl⟩
      · simp only [ingestResult, if_neg quiet]
        exact ⟨rfl, rfl, rfl⟩

/-- The state in which the result of a completed call is read. -/
def completed (state : ResearchState types.Weight) (name : String)
    (result : ToolResult types.Weight) : ResearchState types.Weight :=
  { state with
    budget := { state.budget with used := state.budget.used + 1 }
    calls := state.calls ++ [(name, some result)]
    toolsUsed := state.toolsUsed ++ [name] }

/-- What a turn leaves behind, and what it says about stopping. -/
inductive Turned (moment : Nat) (state : ResearchState types.Weight) :
    ResearchState types.Weight → Option StopReason → Prop
  | stopped {after : ResearchState types.Weight} {reason : StopReason}
      (same : SameRecord state after)
      (honest : reason = .sufficientEvidence → isSufficient request after = true) :
      Turned moment state after (some reason)
  | failed {after : ResearchState types.Weight} {reason : StopReason} {name : String}
      {budget : ToolBudget}
      (open_ : state.budget.used < state.budget.limit)
      (spent : budget = { state.budget with used := state.budget.used + 1 } ∨ budget = state.budget)
      (same : SameRecord
        { state with budget := budget, calls := state.calls ++ [(name, none)] } after)
      (dishonest : reason ≠ .sufficientEvidence) :
      Turned moment state after (some reason)
  | called {after : ResearchState types.Weight} {stop : Option StopReason} {name : String}
      {result : ToolResult types.Weight}
      (open_ : state.budget.used < state.budget.limit)
      (same : SameRecord
        (ingestResult agent request moment (completed state name result) name result) after)
      (honest : stop = some .sufficientEvidence → isSufficient request after = true) :
      Turned moment state after stop

theorem settle_turned {moment : Nat} {state : ResearchState types.Weight} {name : String}
    {result : ToolResult types.Weight} (open_ : state.budget.used < state.budget.limit) :
    Turned agent request moment state
      (settle agent request moment
        { state with
          budget := { state.budget with used := state.budget.used + 1 }
          calls := state.calls ++ [(name, some result)] } name result).1
      (settle agent request moment
        { state with
          budget := { state.budget with used := state.budget.used + 1 }
          calls := state.calls ++ [(name, some result)] } name result).2 := by
  unfold settle
  dsimp only
  split_ifs with blocked enough
  · exact .called open_ ⟨rfl, rfl, rfl, rfl, rfl⟩ (fun stops => by cases stops)
  · exact .called open_ ⟨rfl, rfl, rfl, rfl, rfl⟩ (fun _ => enough.1)
  · exact .called open_ ⟨rfl, rfl, rfl, rfl, rfl⟩ (fun stops => by cases stops)

theorem callTool_turned (context : ResearchToolContext types) (moment : Nat)
    {state : ResearchState types.Weight} (name : String) (arguments : types.Arguments)
    (open_ : state.budget.used < state.budget.limit) :
    Turned agent request moment state
      (callTool agent request context moment state name arguments).1
      (callTool agent request context moment state name arguments).2 := by
  unfold callTool
  cases executed : agent.registry.execute moment name arguments context state.budget with
  | mk outcome budget =>
      cases outcome with
      | error code =>
          refine .failed open_ ((execute_budget executed).imp_right And.left)
            ⟨rfl, rfl, rfl, rfl, rfl⟩ ?_
          split_ifs <;> decide
      | ok result =>
          rcases execute_budget executed with rfl | ⟨-, code, isError⟩
          · exact settle_turned agent request open_
          · cases isError

theorem stopOn_turned (moment : Nat) (state : ResearchState types.Weight) (reason : Stop) :
    Turned agent request moment state (stopOn request state reason).1
      (stopOn request state reason).2 := by
  cases reason with
  | ownerBlocker => exact .stopped .rfl (fun stops => by cases stops)
  | sufficientEvidence =>
      unfold stopOn
      split_ifs with enough
      · exact .stopped .rfl fun _ => enough
      · exact .stopped ⟨rfl, rfl, rfl, rfl, rfl⟩ (fun stops => by cases stops)

theorem turn_turned {context : ResearchToolContext types} {moment : Nat}
    {state after : ResearchState types.Weight} {stop : Option StopReason}
    (turned : turn agent request context moment state = .ok (after, stop)) :
    Turned agent request moment state after stop := by
  unfold turn at turned
  cases deadline : deadlineReached agent request moment with
  | error failure =>
      rw [deadline] at turned
      cases turned
  | ok reached =>
      rw [deadline] at turned
      simp only [bind, Except.bind, pure, Except.pure] at turned
      split_ifs at turned with late spent
      · cases turned
        exact .stopped ⟨rfl, rfl, rfl, rfl, rfl⟩ (fun stops => by cases stops)
      · cases turned
        exact .stopped ⟨rfl, rfl, rfl, rfl, rfl⟩ (fun stops => by cases stops)
      · cases selected : agent.select moment (view request state) with
        | error typeName =>
            rw [selected] at turned
            cases turned
            exact .stopped ⟨rfl, rfl, rfl, rfl, rfl⟩ (fun stops => by cases stops)
        | ok selection =>
            cases selection with
            | stop reason =>
                have same := stopOn_turned agent request moment state reason
                rw [selected] at turned
                injection turned with turned
                rw [turned] at same
                exact same
            | tool name arguments =>
                have same := callTool_turned agent request context moment name arguments
                  (Nat.not_le.mp spent)
                rw [selected] at turned
                injection turned with turned
                rw [turned] at same
                exact same

/-- A turn after which the loop goes on has taken one from the budget. -/
theorem Turned.goesOn {moment : Nat} {state after : ResearchState types.Weight}
    (turned : Turned agent request moment state after none) :
    state.budget.used < state.budget.limit ∧
      after.budget = { state.budget with used := state.budget.used + 1 } := by
  cases turned with
  | called open_ same honest =>
      exact ⟨open_, same.budget.trans (ingestResult_calls agent request moment _ _ _).budget⟩

/-- The loop in `run`. -/
def loop (context : ResearchToolContext types) (moment : Nat) (state : ResearchState types.Weight) :
    Except Failure (ResearchState types.Weight × StopReason) :=
  match turned : turn agent request context moment state with
  | .error failure => .error failure
  | .ok (after, some reason) => .ok (after, reason)
  | .ok (after, none) => loop context (moment + 1) after
termination_by state.budget.limit - state.budget.used
decreasing_by
  obtain ⟨open_, budget⟩ := (turn_turned agent request turned).goesOn
  rw [budget]
  exact Nat.sub_lt_sub_left open_ (Nat.lt_succ_self _)

/-- `_build_pack` -/
def buildPack (state : ResearchState types.Weight) (stopReason : StopReason) :
    ResearchPack types.Weight where
  runId := request.start.runId
  businessId := request.start.businessId
  profileVersionId := request.start.confirmedProfileVersionId
  facts := state.facts.map Prod.snd
  assumptions := state.assumptions
  knowledgeGaps := state.gaps.map Prod.snd
  sourceQualitySummary := toString state.facts.length ++ " cited fact(s) from " ++
    toString state.toolsUsed.dedup.length ++ " reviewed tool(s)."
  stopReason := stopReason

structure ResearchAgentResult (Weight : Type) where
  pack : ResearchPack Weight
  toolsUsed : List String
  toolCallsUsed : Nat
  actionSummaries : List String
  stableErrors : List ErrorCode
  calls : List (String × Option (ToolResult Weight))

def finish (state : ResearchState types.Weight) (stopReason : StopReason) :
    ResearchAgentResult types.Weight :=
  ⟨buildPack request state stopReason, state.toolsUsed, state.budget.used, state.actionSummaries,
    state.stableErrors, state.calls⟩

def initial : ResearchState types.Weight where
  budget := ⟨request.start.toolCallsLimit, request.start.toolCallsUsed⟩
  facts := []
  assumptions := []
  gaps := []
  toolsUsed := []
  actionSummaries := []
  stableErrors := []
  calls := []

/-- `ResearchAgent.run` -/
def run : Except Failure (ResearchAgentResult types.Weight) :=
  if request.start.toolCallsUsed > request.start.toolCallsLimit then .error .invalidBudget
  else
    match buildContext agent request with
    | .error none => .error .context
    | .error (some code) =>
        .ok (finish request
          { initial request with
            stableErrors := [code]
            actionSummaries := ["Research context construction failed visibly."] }
          .providerFailure)
    | .ok context => do
        let (state, reason) ← loop agent request context 0 (initial request)
        return finish request state reason

end Turns

/-! ### Gaps are kept -/

section Gaps

variable {gaps : List (String × KnowledgeGap)} {gap : KnowledgeGap}

/-- A blocking gap of the same field stands there, with no lower urgency. -/
def Covers (gaps : List (String × KnowledgeGap)) (gap : KnowledgeGap) : Prop :=
  ∃ kept, getItem gap.fieldKey gaps = some kept ∧ kept.blocking = true ∧
    kept.priority ≤ gap.priority

theorem covers_recordGap_self (blocking : gap.blocking = true) :
    Covers (recordGap gaps gap) gap := by
  unfold recordGap
  cases found : getItem gap.fieldKey gaps with
  | none => exact ⟨gap, by simp [replaces], blocking, Nat.le_refl _⟩
  | some existing =>
      by_cases better : replaces gap (some existing) = true
      · rw [if_pos better]
        exact ⟨gap, getItem_setItem_self _ _ _, blocking, Nat.le_refl _⟩
      · rw [if_neg better]
        simp only [replaces, blocking, Bool.true_and, Bool.or_eq_true, Bool.not_eq_true',
          Bool.and_eq_true, decide_eq_true_eq, not_or, not_and, Nat.not_lt,
          Bool.not_eq_false] at better
        exact ⟨existing, found, better.1, better.2 better.1.symm⟩

/-- A blocking gap gives way only to a more urgent blocking gap of its field. -/
theorem Covers.recordGap (covers : Covers gaps gap) (other : KnowledgeGap) :
    Covers (recordGap gaps other) gap := by
  obtain ⟨kept, found, blocking, urgent⟩ := covers
  unfold Research.recordGap
  split_ifs with better
  · by_cases same : other.fieldKey = gap.fieldKey
    · rw [same, found] at better
      simp only [replaces, blocking, Bool.not_true, Bool.and_false, Bool.false_or,
        Bool.and_eq_true, decide_eq_true_eq] at better
      exact ⟨other, by rw [same, getItem_setItem_self], better.1,
        (Nat.le_of_lt better.2).trans urgent⟩
    · exact ⟨kept, by rw [getItem_setItem_of_ne same, found], blocking, urgent⟩
  · exact ⟨kept, found, blocking, urgent⟩

theorem Covers.foldl (covers : Covers gaps gap) (others : List KnowledgeGap) :
    Covers (others.foldl Research.recordGap gaps) gap := by
  induction others generalizing gaps with
  | nil => exact covers
  | cons other others inductionHypothesis => exact inductionHypothesis (covers.recordGap other)

theorem covers_foldl {reported : List KnowledgeGap} (member : gap ∈ reported)
    (blocking : gap.blocking = true) : Covers (reported.foldl recordGap gaps) gap := by
  induction reported generalizing gaps with
  | nil => cases member
  | cons first rest inductionHypothesis =>
      rcases List.mem_cons.mp member with rfl | later
      · exact (covers_recordGap_self blocking).foldl rest
      · exact inductionHypothesis later

/-- Every entry stands under the key that its value names. -/
def Keyed {α : Type} (key : α → String) (entries : List (String × α)) : Prop :=
  ∀ entry ∈ entries, key entry.2 = entry.1

theorem Keyed.setItem {α : Type} {key : α → String} {entries : List (String × α)}
    (keyed : Keyed key entries) (value : α) : Keyed key (setItem (key value) value entries) := by
  intro entry member
  rcases mem_setItem member with rfl | old
  · rfl
  · exact keyed entry old

theorem keyed_recordGaps (keyed : Keyed KnowledgeGap.fieldKey gaps) (reported : List KnowledgeGap) :
    Keyed KnowledgeGap.fieldKey (reported.foldl recordGap gaps) := by
  induction reported generalizing gaps with
  | nil => exact keyed
  | cons first rest inductionHypothesis =>
      refine inductionHypothesis ?_
      unfold recordGap
      split_ifs
      · exact keyed.setItem first
      · exact keyed

end Gaps

/-! ### Facts have a source of their own -/

section Facts

variable {Weight : Type} {facts : List (String × ResearchFact Weight)}

/-- Every fact stands under its source, and every source once. -/
structure Sourced (facts : List (String × ResearchFact Weight)) : Prop where
  keyed : Keyed ResearchFact.sourceRef facts
  distinct : (facts.map Prod.fst).Nodup

theorem Sourced.keepFact (sourced : Sourced facts) (fact : ResearchFact Weight) :
    Sourced (keepFact facts fact) := by
  unfold Research.keepFact setDefault
  split_ifs
  · exact sourced
  · exact ⟨sourced.keyed.setItem fact, nodup_setItem sourced.distinct⟩

theorem Sourced.keepFacts (sourced : Sourced facts) (more : List (ResearchFact Weight)) :
    Sourced (more.foldl Research.keepFact facts) := by
  induction more generalizing facts with
  | nil => exact sourced
  | cons fact more inductionHypothesis => exact inductionHypothesis (sourced.keepFact fact)

theorem Sourced.nodup (sourced : Sourced facts) :
    ((facts.map Prod.snd).map ResearchFact.sourceRef).Nodup := by
  have same : (facts.map Prod.snd).map ResearchFact.sourceRef = facts.map Prod.fst := by
    rw [List.map_map]
    exact List.map_congr_left fun entry member => sourced.keyed entry member
  rw [same]
  exact sourced.distinct

end Facts

/-! ### Runs -/

section Runs

variable {types : Types} (agent : ResearchAgent types) (request : ResearchAgentInput types)

/-- The gaps that completed calls reported. -/
def reported {Weight : Type} (calls : List (String × Option (ToolResult Weight))) :
    List KnowledgeGap :=
  calls.flatMap fun call => (call.2.map ToolResult.gaps).getD []

/-- The tools that completed. -/
def completedTools {Weight : Type} (calls : List (String × Option (ToolResult Weight))) :
    List String :=
  calls.filterMap fun call => call.2.map fun _ => call.1

/-- What holds of the state of every run. -/
structure Sound (state : ResearchState types.Weight) : Prop where
  limit : state.budget.limit = request.start.toolCallsLimit
  within : state.budget.used ≤ state.budget.limit
  sourced : Sourced state.facts
  keyed : Keyed KnowledgeGap.fieldKey state.gaps
  covered : ∀ gap ∈ reported state.calls, gap.blocking = true → Covers state.gaps gap
  tools : state.toolsUsed = completedTools state.calls

/-- Between two turns every call has been paid for. -/
def Paid (state : ResearchState types.Weight) : Prop :=
  state.budget.used = request.start.toolCallsUsed + state.calls.length

theorem ingestDecisions_found (fetchedAt : String) (decisions : List (TriageDecision types.Weight))
    {state : ResearchState types.Weight} (sourced : Sourced state.facts) :
    Sourced (decisions.foldl (ingestDecision agent request fetchedAt) state).facts ∧
      (decisions.foldl (ingestDecision agent request fetchedAt) state).gaps = state.gaps := by
  induction decisions generalizing state with
  | nil => exact ⟨sourced, rfl⟩
  | cons decision decisions inductionHypothesis =>
      have first : Sourced (ingestDecision agent request fetchedAt state decision).facts ∧
          (ingestDecision agent request fetchedAt state decision).gaps = state.gaps := by
        unfold ingestDecision
        split
        · exact ⟨sourced, rfl⟩
        · exact ⟨sourced.keepFact _, rfl⟩
      obtain ⟨found, gaps⟩ := inductionHypothesis first.1
      exact ⟨found, gaps.trans first.2⟩

/-- What reading a result does to the facts and the gaps. -/
theorem ingestResult_found (moment : Nat) {state : ResearchState types.Weight} (toolName : String)
    (result : ToolResult types.Weight) (sourced : Sourced state.facts) :
    Sourced (ingestResult agent request moment state toolName result).facts ∧
      (ingestResult agent request moment state toolName result).gaps =
        result.gaps.foldl recordGap state.gaps := by
  cases result with
  | approvedKnowledge facts knowledgeGaps => exact ⟨sourced.keepFacts facts, rfl⟩
  | evidenceTriage decisions =>
      exact ingestDecisions_found agent request (agent.isoNow moment) decisions sourced
  | queryPlan warnings =>
      by_cases quiet : warnings = []
      · simp only [ingestResult, if_pos quiet]
        exact ⟨sourced, rfl⟩
      · simp only [ingestResult, if_neg quiet]
        exact ⟨sourced, rfl⟩
  | strategyDecisions knowledgeGaps => exact ⟨sourced, rfl⟩
  | other => exact ⟨sourced, rfl⟩

variable {agent request}

theorem Sound.congr {before after : ResearchState types.Weight} (sound : Sound request before)
    (same : SameRecord before after) : Sound request after where
  limit := by rw [same.budget, sound.limit]
  within := by
    rw [same.budget]
    exact sound.within
  sourced := by
    rw [same.facts]
    exact sound.sourced
  keyed := by
    rw [same.gaps]
    exact sound.keyed
  covered := by
    rw [same.calls, same.gaps]
    exact sound.covered
  tools := by rw [same.toolsUsed, same.calls, sound.tools]

theorem Sound.failed {state : ResearchState types.Weight} (sound : Sound request state)
    (name : String) {budget : ToolBudget} (open_ : state.budget.used < state.budget.limit)
    (spent : budget = { state.budget with used := state.budget.used + 1 } ∨ budget = state.budget) :
    Sound request { state with budget := budget, calls := state.calls ++ [(name, none)] } where
  limit := by rcases spent with rfl | rfl <;> exact sound.limit
  within := by
    rcases spent with rfl | rfl
    · exact open_
    · exact sound.within
  sourced := sound.sourced
  keyed := sound.keyed
  covered := by
    have same : reported (state.calls ++ [(name, none)]) = reported state.calls := by
      simp [reported]
    rw [same]
    exact sound.covered
  tools := by
    rw [sound.tools]
    simp [completedTools]

/-- The result of a completed call is read. -/
theorem Sound.completed {state : ResearchState types.Weight} (sound : Sound request state)
    (moment : Nat) (name : String) (result : ToolResult types.Weight)
    (open_ : state.budget.used < state.budget.limit) :
    Sound request
      (ingestResult agent request moment (completed state name result) name result) := by
  have calls := ingestResult_calls agent request moment (Research.completed state name result) name
    result
  obtain ⟨sourced, gaps⟩ := @ingestResult_found types agent request moment
    (Research.completed state name result) name result sound.sourced
  refine ⟨?_, ?_, sourced, ?_, ?_, ?_⟩
  · rw [calls.budget]
    exact sound.limit
  · rw [calls.budget]
    exact open_
  · rw [gaps]
    exact keyed_recordGaps sound.keyed _
  · intro gap member blocking
    have calls_eq : reported (ingestResult agent request moment
        (Research.completed state name result) name result).calls =
          reported state.calls ++ result.gaps := by
      rw [calls.calls]
      simp [reported, Research.completed]
    rw [calls_eq] at member
    rw [gaps]
    rcases List.mem_append.mp member with old | new
    · exact (sound.covered gap old blocking).foldl _
    · exact covers_foldl new blocking
  · rw [calls.toolsUsed, calls.calls]
    simp [Research.completed, completedTools, sound.tools]

/-- One turn keeps the state sound and within the budget. -/
theorem Turned.keeps {moment : Nat} {state after : ResearchState types.Weight}
    {stop : Option StopReason} (turned : Turned agent request moment state after stop)
    (sound : Sound request state) (paid : Paid request state) :
    Sound request after ∧
      request.start.toolCallsUsed + after.calls.length ≤ request.start.toolCallsLimit ∧
      (stop = none → Paid request after) := by
  have limit := sound.limit
  have within := sound.within
  unfold Paid at paid ⊢
  cases turned with
  | stopped same honest =>
      refine ⟨sound.congr same, ?_, fun goesOn => by cases goesOn⟩
      rw [same.calls]
      omega
  | failed open_ spent same dishonest =>
      refine ⟨(sound.failed _ open_ spent).congr same, ?_, fun goesOn => by cases goesOn⟩
      rw [same.calls, List.length_append, List.length_singleton]
      omega
  | @called _ name result open_ same honest =>
      have calls := ingestResult_calls agent request moment
        (Research.completed state name result) name result
      refine ⟨(sound.completed moment name result open_).congr same, ?_, fun _ => ?_⟩
      · rw [same.calls, calls.calls]
        simp only [Research.completed, List.length_append, List.length_singleton]
        omega
      · rw [same.budget, calls.budget, same.calls, calls.calls]
        simp only [Research.completed, List.length_append, List.length_singleton]
        omega

theorem Turned.honest {moment : Nat} {state after : ResearchState types.Weight}
    (turned : Turned agent request moment state after (some .sufficientEvidence)) :
    isSufficient request after = true := by
  cases turned with
  | stopped same honest => exact honest rfl
  | failed open_ spent same dishonest => exact absurd rfl dishonest
  | called open_ same honest => exact honest rfl

/-- The whole loop. -/
theorem loop_keeps {context : ResearchToolContext types} {moment : Nat}
    {state after : ResearchState types.Weight} {reason : StopReason}
    (looped : loop agent request context moment state = .ok (after, reason))
    (sound : Sound request state) (paid : Paid request state) :
    Sound request after ∧
      request.start.toolCallsUsed + after.calls.length ≤ request.start.toolCallsLimit ∧
      (reason = .sufficientEvidence → isSufficient request after = true) := by
  fun_induction loop agent request context moment state with
  | case1 moment state failure turned => cases looped
  | case2 moment state last stop turned =>
      cases looped
      have turned := turn_turned agent request turned
      obtain ⟨keeps, bounded, -⟩ := turned.keeps sound paid
      refine ⟨keeps, bounded, fun isSufficient => ?_⟩
      subst isSufficient
      exact turned.honest
  | case3 moment state next turned inductionHypothesis =>
      obtain ⟨keeps, -, paid⟩ := (turn_turned agent request turned).keeps sound paid
      exact inductionHypothesis looped keeps (paid rfl)

theorem turn_fails {context : ResearchToolContext types} {moment : Nat}
    {state : ResearchState types.Weight} {failure : Failure}
    (turned : turn agent request context moment state = .error failure) :
    request.start.deadlineAt = some none := by
  by_contra readable
  have reads : ∃ reached, deadlineReached agent request moment = .ok reached := by
    unfold deadlineReached
    split
    · exact ⟨_, rfl⟩
    · exact absurd ‹_› readable
    · exact ⟨_, rfl⟩
  obtain ⟨reached, reads⟩ := reads
  rw [turn, reads] at turned
  simp only [bind, Except.bind, pure, Except.pure] at turned
  split_ifs at turned
  split at turned <;> cases turned

/-- The loop raises an exception only over a deadline that cannot be read. -/
theorem loop_fails {context : ResearchToolContext types} {moment : Nat}
    {state : ResearchState types.Weight} {failure : Failure}
    (looped : loop agent request context moment state = .error failure) :
    request.start.deadlineAt = some none := by
  fun_induction loop agent request context moment state with
  | case1 moment state raised turned => exact turn_fails turned
  | case2 moment state last stop turned => cases looped
  | case3 moment state next turned inductionHypothesis => exact inductionHypothesis looped

theorem sound_initial (fits : request.start.toolCallsUsed ≤ request.start.toolCallsLimit) :
    Sound request (initial request) where
  limit := rfl
  within := fits
  sourced := ⟨fun _ member => (List.not_mem_nil member).elim, List.nodup_nil⟩
  keyed := fun _ member => (List.not_mem_nil member).elim
  covered := fun _ member => (List.not_mem_nil member).elim
  tools := rfl

/-- What a pack says. -/
theorem Sound.finish {state : ResearchState types.Weight} {reason : StopReason}
    (sound : Sound request state)
    (honest : reason = .sufficientEvidence → isSufficient request state = true) :
    (finish request state reason).toolCallsUsed ≤ request.start.toolCallsLimit ∧
    ((finish request state reason).pack.stopReason = .sufficientEvidence →
      request.minimumFactCount ≤ (finish request state reason).pack.facts.length ∧
      request.minimumToolCount ≤
        (completedTools (finish request state reason).calls).dedup.length ∧
      ∀ gap ∈ (finish request state reason).pack.knowledgeGaps, gap.blocking = false) ∧
    (∀ gap ∈ reported (finish request state reason).calls, gap.blocking = true →
      ∃ kept ∈ (finish request state reason).pack.knowledgeGaps,
        kept.fieldKey = gap.fieldKey ∧ kept.blocking = true ∧ kept.priority ≤ gap.priority) ∧
    ((finish request state reason).pack.facts.map ResearchFact.sourceRef).Nodup := by
  refine ⟨?_, fun stops => ?_, fun gap member blocking => ?_, sound.sourced.nodup⟩
  · rw [← sound.limit]
    exact sound.within
  · have sufficient := honest stops
    simp only [isSufficient, hasBlockingGap, Bool.and_eq_true, decide_eq_true_eq,
      Bool.not_eq_true', List.any_eq_false, Bool.not_eq_true] at sufficient
    obtain ⟨⟨facts, tools⟩, free⟩ := sufficient
    refine ⟨?_, ?_, fun gap member => ?_⟩
    · simpa [Research.finish, buildPack] using facts
    · rw [sound.tools] at tools
      exact tools
    · obtain ⟨entry, listed, rfl⟩ := List.mem_map.mp member
      exact free entry listed
  · obtain ⟨kept, found, isBlocking, urgent⟩ := sound.covered gap member blocking
    have listed := mem_of_getItem found
    exact ⟨kept, List.mem_map.mpr ⟨_, listed, rfl⟩, sound.keyed _ listed, isBlocking, urgent⟩

variable (agent request)

/-- Whatever the selector, the tools and the clock do, a run ends. It raises an exception only over
its input; otherwise it stays within its calls, says that the evidence suffices only when it does,
keeps every blocking gap, and cites every source once. -/
theorem research_is_bounded_and_honest :
    (∀ failure, run agent request = .error failure →
      request.start.toolCallsLimit < request.start.toolCallsUsed ∨
      request.start.deadlineAt = some none ∨ buildContext agent request = .error none) ∧
    ∀ result, run agent request = .ok result →
      result.calls.length ≤ request.start.toolCallsLimit - request.start.toolCallsUsed ∧
      result.toolCallsUsed ≤ request.start.toolCallsLimit ∧
      (result.pack.stopReason = .sufficientEvidence →
        request.minimumFactCount ≤ result.pack.facts.length ∧
        request.minimumToolCount ≤ (completedTools result.calls).dedup.length ∧
        ∀ gap ∈ result.pack.knowledgeGaps, gap.blocking = false) ∧
      (∀ gap ∈ reported result.calls, gap.blocking = true →
        ∃ kept ∈ result.pack.knowledgeGaps,
          kept.fieldKey = gap.fieldKey ∧ kept.blocking = true ∧ kept.priority ≤ gap.priority) ∧
      (result.pack.facts.map ResearchFact.sourceRef).Nodup := by
  by_cases over_ : request.start.toolCallsUsed > request.start.toolCallsLimit
  · have refused : run agent request = .error .invalidBudget := by rw [run, if_pos over_]
    rw [refused]
    exact ⟨fun failure raised => .inl over_, fun result returned => by cases returned⟩
  · have fits : request.start.toolCallsUsed ≤ request.start.toolCallsLimit := Nat.not_lt.mp over_
    have begun := sound_initial fits
    rw [run, if_neg over_]
    cases built : buildContext agent request with
    | error code =>
        cases code with
        | none =>
            refine ⟨fun failure raised => .inr (.inr rfl), fun result returned => ?_⟩
            cases returned
        | some code =>
            refine ⟨fun failure raised => (by cases raised), fun result returned => ?_⟩
            cases returned
            have same : SameRecord (initial request)
                { initial request with
                  stableErrors := [code]
                  actionSummaries := ["Research context construction failed visibly."] } :=
              ⟨rfl, rfl, rfl, rfl, rfl⟩
            exact ⟨Nat.zero_le _, (begun.congr same).finish fun stops => by cases stops⟩
    | ok context =>
        dsimp only
        cases looped : loop agent request context 0 (initial request) with
        | error failure =>
            refine ⟨fun _ raised => .inr (.inl (loop_fails looped)), fun result returned => ?_⟩
            cases returned
        | ok last =>
            obtain ⟨state, reason⟩ := last
            refine ⟨fun failure raised => (by cases raised), fun result returned => ?_⟩
            obtain ⟨sound, bounded, honest⟩ := loop_keeps looped begun rfl
            cases returned
            exact ⟨Nat.le_sub_of_add_le' bounded, sound.finish honest⟩

end Runs

end MarketMind.Orchestration.Research
