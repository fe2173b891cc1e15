import MarketMind.Content.Store

/-!
Owns which table each statement writes, and what it leaves of all the others.

Does not own what the write does to that table.
-/

namespace MarketMind.Content

open MarketMind.Transactions

/-- The tables of a world. -/
inductive Area
  | cycles
  | contexts
  | plans
  | postPlans
  | packs
  | items
  | versions
  | proposals
  | decisions
  | instructions
  | outbox
  | jobs
  | events
  | billing
deriving DecidableEq

/-- The table that the statement writes. -/
def Statement.area : Statement → Option Area
  | createCycle _ _ | pauseCycle _ _ _ | resumeCycle _ _ | completeCycle _ _ | advanceCycle _ _
  | updateCycle _ _ => some .cycles
  | createContext _ _ _ _ | updateContext _ _ | freezeContext _ _ _ => some .contexts
  | createPlan _ _ | reopenPlan _ | freezePlan _ _ _ _ => some .plans
  | deletePostPlans _ | createPostPlans _ _ | markPlans _ _ _ | attachGeneratedItem _ _ _ =>
      some .postPlans
  | createPack _ | claimPack _ | markPackStatus _ _ _ | deliverPack _ _ | failPack _ _
  | setRetryEligible _ _ => some .packs
  | createItem _ _ | setCurrentVersion _ _ => some .items
  | createVersion _ _ => some .versions
  | createProposal _ => some .proposals
  | createDecision _ => some .decisions
  | createInstruction _ _ | consumeInstruction _ _ _ _ _ _ => some .instructions
  | createIntent _ _ | markDirectDispatched _ | recoverLeases _ | claimIntent _ _ _
  | markDispatched _ _ | releaseIntent _ _ _ _ => some .outbox
  | addJob _ _ | turnJob _ _ => some .jobs
  | createEvent _ => some .events
  | assertAllowed _ _ _ | spendPoints _ _ _ _ | spendElsewhere _ _ _ _ | topUp _ _ =>
      some .billing
  | lockCycle _ | findCycle _ | findContext _ | findContextOfWeek _ _ | findPlan _
  | findPlanOfWeek _ _ | findPostPlans _ | findPack _ | findPackOfOwner _ _ | findPackOfWeek _ _
  | lockProposal _ _ | findProposal _ _ | findDecisionByKey _ _ | findDecisionByFingerprint _ _
  | findDecisionOf _ | findInstruction _ | findPendingInstruction _ _ | findIntent _
  | findDueIntents _ | findIntents _ | findLeased _ _ | countEvents _ | libraries _ _
  | safeDefault _ | hasInputs _ | generate _ _ | recordProviderCost _ _ _ => none

/-- All tables but one are the same. -/
structure World.SameBut (area : Option Area) (before after : World) : Prop where
  cycles : area ≠ some .cycles → after.cycles = before.cycles
  contexts : area ≠ some .contexts → after.contexts = before.contexts
  plans : area ≠ some .plans → after.plans = before.plans
  postPlans : area ≠ some .postPlans →
    after.postPlans = before.postPlans ∧ after.retiredPostPlans = before.retiredPostPlans
  packs : area ≠ some .packs → after.packs = before.packs
  items : area ≠ some .items → after.items = before.items
  versions : area ≠ some .versions → after.versions = before.versions
  proposals : area ≠ some .proposals → after.proposals = before.proposals
  decisions : area ≠ some .decisions → after.decisions = before.decisions
  instructions : area ≠ some .instructions → after.instructions = before.instructions
  outbox : area ≠ some .outbox → after.outbox = before.outbox
  jobs : area ≠ some .jobs → after.jobs = before.jobs
  events : area ≠ some .events → after.events = before.events
  billing : area ≠ some .billing → after.billing = before.billing

theorem World.sameBut_refl (area : Option Area) (world : World) : world.SameBut area world := by
  constructor
  case postPlans => exact fun _ => ⟨rfl, rfl⟩
  all_goals exact fun _ => rfl

theorem World.addPostPlans_eq (world : World) (rows : List ContentPostPlan) :
    world.addPostPlans rows = { world with postPlans := (world.addPostPlans rows).postPlans } := by
  induction rows generalizing world with
  | nil => rfl
  | cons row rest inductionHypothesis =>
      unfold World.addPostPlans
      rw [inductionHypothesis]

section Cases

variable {area : Option Area} {hit : Bool} {keys : List Key} {write : World → World}

private theorem sameBut_updateWhen {effect : Effect World Key Bool}
    (executed : updateWhen hit keys write = .ok effect)
    (same : ∀ other : World, other.SameBut area (write other)) (other : World) :
    other.SameBut area (effect.write other) := by
  rcases updateWhen_cases executed with ⟨-, rfl⟩ | ⟨-, rfl⟩
  · exact same other
  · exact other.sameBut_refl area

private theorem sameBut_updateRow {Row : Type} {row : Option Row} {key : Key}
    {effect : Effect World Key Unit} (executed : updateRow row key write = .ok effect)
    (same : ∀ other : World, other.SameBut area (write other)) (other : World) :
    other.SameBut area (effect.write other) := by
  obtain ⟨-, -, rfl⟩ := ok_of_updateRow executed
  exact same other

end Cases

/-- A statement leaves every table but its own. -/
theorem sameBut_of_exec {around : Surroundings} {pid : Pid} {choice : Nat} {asked : Statement}
    {world : World} {effect : Effect World Key asked.Reply}
    (executed : exec around pid choice asked world = .ok effect) (other : World) :
    other.SameBut asked.area (effect.write other) := by
  cases asked <;> simp only [exec] at executed
  case createCycle | deletePostPlans | markPlans | attachGeneratedItem | createProposal |
      recoverLeases | addJob | turnJob | assertAllowed | spendPoints | spendElsewhere | topUp =>
    cases executed
    constructor <;> first | exact fun _ => rfl | exact fun _ => ⟨rfl, rfl⟩ | exact (absurd rfl ·)
  case pauseCycle | resumeCycle | advanceCycle | updateContext | freezeContext | freezePlan |
      claimPack | markPackStatus | deliverPack | consumeInstruction | markDirectDispatched |
      claimIntent | markDispatched | releaseIntent =>
    refine sameBut_updateWhen executed (fun other => ?_) other
    constructor <;> first | exact fun _ => rfl | exact fun _ => ⟨rfl, rfl⟩ | exact (absurd rfl ·)
  case updateCycle | reopenPlan | failPack | setRetryEligible | setCurrentVersion =>
    refine sameBut_updateRow executed (fun other => ?_) other
    constructor <;> first | exact fun _ => rfl | exact fun _ => ⟨rfl, rfl⟩ | exact (absurd rfl ·)
  case completeCycle =>
    split at executed
    · next completed =>
      cases executed
      refine sameBut_updateWhen completed (fun other => ?_) other
      constructor <;> first | exact fun _ => rfl | exact fun _ => ⟨rfl, rfl⟩ | exact (absurd rfl ·)
    · cases executed
  case createContext | createPlan | createPack | createItem | createVersion | createDecision |
      createInstruction | createIntent | createEvent =>
    obtain ⟨-, executed⟩ := ok_of_unless executed
    cases executed
    constructor <;> first | exact fun _ => rfl | exact fun _ => ⟨rfl, rfl⟩ | exact (absurd rfl ·)
  case createPostPlans =>
    obtain ⟨-, executed⟩ := ok_of_unless executed
    cases executed
    dsimp only
    rw [World.addPostPlans_eq]
    constructor <;> first | exact fun _ => rfl | exact (absurd rfl ·)
  case generate =>
    split at executed
    · cases executed
      exact other.sameBut_refl _
    · cases executed
  all_goals
    cases executed
    exact other.sameBut_refl _

/-! ### What is found after a write -/

namespace World

variable {world : World} {id other : Uuid}

theorem find_changeCycle {allowed : ContentCycle → Bool} {data : CycleData} {row : ContentCycle}
    (found : world.cycles.find other = some row) :
    (world.changeCycle id allowed data).cycles.find other =
      some (if row.id = id && allowed row then data.apply row else row) := by
  simp only [changeCycle, Table.find_update_of_found found]

theorem find_changeContext {allowed : ContentWeekContext → Bool}
    {change : ContentWeekContext → ContentWeekContext} {sameId : ∀ row, (change row).id = row.id}
    {row : ContentWeekContext} (found : world.contexts.find other = some row) :
    (world.changeContext id allowed change sameId).contexts.find other =
      some (if row.id = id && allowed row then change row else row) := by
  simp only [changeContext, Table.find_update_of_found found]

theorem find_changePack {allowed : ContentPack → Bool} {data : PackData} {row : ContentPack}
    (found : world.packs.find other = some row) :
    (world.changePack id allowed data).packs.find other =
      some (if row.id = id && allowed row then data.apply row else row) := by
  simp only [changePack, Table.find_update_of_found found]

theorem find_reopenPlan {row : ContentWeekPlan} (found : world.plans.find other = some row) :
    (world.reopenPlan id).plans.find other = some (if row.id = id then
      { row with status := .draft, updates := row.updates + 1 } else row) := by
  simp only [reopenPlan, Table.modify, Table.find_update_of_found found, decide_eq_true_eq]
  rfl

theorem find_freezePlan {cycleId : Uuid} {week : Nat} {frozenInput : FrozenInput}
    {row : ContentWeekPlan} (found : world.plans.find other = some row) :
    (world.freezePlan id cycleId week frozenInput).plans.find other =
      some (if row.id = id && row.isDraftOf cycleId week then
        { row with
          status := .frozen
          frozenInput := some frozenInput
          updates := row.updates + 1 } else row) := by
  simp only [freezePlan, Table.find_update_of_found found]

theorem find_consume {packId planId : Uuid} {row : ApprovedOptimizationInstruction}
    (found : world.instructions.find other = some row) :
    (world.consume id packId planId).instructions.find other =
      some (if row.id = id && row.status = .pendingConsumption then
        { row with
          status := .consumed
          consumedContentPackId := some packId
          consumedWeekPlanId := some planId } else row) := by
  simp only [consume, Table.find_update_of_found found]

theorem of_find_changeCycle {allowed : ContentCycle → Bool} {data : CycleData} {row : ContentCycle}
    (found : (world.changeCycle id allowed data).cycles.find other = some row) :
    ∃ old, world.cycles.find other = some old ∧
      row = if old.id = id && allowed old then data.apply old else old := by
  simp only [changeCycle] at found
  exact Table.of_find_update found

theorem of_find_changePack {allowed : ContentPack → Bool} {data : PackData} {row : ContentPack}
    (found : (world.changePack id allowed data).packs.find other = some row) :
    ∃ old, world.packs.find other = some old ∧
      row = if old.id = id && allowed old then data.apply old else old := by
  simp only [changePack] at found
  exact Table.of_find_update found

end World

end MarketMind.Content
