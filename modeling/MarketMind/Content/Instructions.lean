import MarketMind.Content.Guards
import MarketMind.Content.Programs

/-!
Owns the use of approved instructions: an instruction is consumed by the pack whose frozen input
carries it, and by no other.

Does not own which instruction a week is offered.
-/

namespace MarketMind.Content.Instructions

open MarketMind.Transactions
open MarketMind.Transactions.Protocol
open MarketMind.Transactions.Store (asks_ask asks_bind asks_pure)

/-! ### What a pack carries -/

/-- The frozen input of the pack's plan carries the guidance. -/
def Carries (world : World) (pack : ContentPack) (guidance : OptimizationGuidance) : Prop :=
  ∃ planId plan input, pack.weekPlanId = some planId ∧ world.plans.find planId = some plan ∧
    plan.frozenInput = some input ∧ input.optimizationGuidance = some guidance

/-- The instruction is consumed by the pack. -/
def ConsumedBy (instruction : ApprovedOptimizationInstruction) (packId : Uuid) : Prop :=
  instruction.status = .consumed ∧ instruction.consumedContentPackId = some packId

structure UsedOnce (world : World) : Prop where
  /-- The plan of a pack is that of its week. -/
  planned : ∀ packId pack planId, world.packs.find packId = some pack →
    pack.weekPlanId = some planId →
    ∃ plan, world.plans.find planId = some plan ∧
      plan.ofWeek pack.contentCycleId pack.weekNumber = true
  /-- What a pack carries is an instruction that it has consumed. -/
  carried : ∀ packId pack guidance, world.packs.find packId = some pack →
    Carries world pack guidance →
    ∃ instruction, world.instructions.find guidance.instructionId = some instruction ∧
      instruction.guidance = guidance ∧ ConsumedBy instruction packId
  /-- What is consumed is carried. -/
  consumed : ∀ id instruction, world.instructions.find id = some instruction →
    instruction.status = .consumed →
    ∃ packId pack, instruction.consumedContentPackId = some packId ∧
      world.packs.find packId = some pack ∧ Carries world pack instruction.guidance

/-- What an instruction says never changes. -/
def InstructionsKept (before after : World) : Prop :=
  ∀ id instruction, before.instructions.find id = some instruction →
    ∃ later, after.instructions.find id = some later ∧ later.guidance = instruction.guidance

theorem usedOnce_empty : UsedOnce World.empty where
  planned _ _ _ found := by cases found
  carried _ _ _ found := by cases found
  consumed _ _ found := by cases found

theorem instructionsKept_refl (world : World) : InstructionsKept world world :=
  fun _ instruction found => ⟨instruction, found, rfl⟩

theorem instructionsKept_trans {first second third : World}
    (left : InstructionsKept first second) (right : InstructionsKept second third) :
    InstructionsKept first third := by
  intro id instruction found
  obtain ⟨between, foundBetween, near⟩ := left id instruction found
  obtain ⟨later, foundLater, far⟩ := right id between foundBetween
  exact ⟨later, foundLater, far.trans near⟩

/-- A claim that no service has prepared. -/
def Call.isRaw : Call → Bool
  | .claimQueuedPackV2 _ => true
  | _ => false

/-- The calls of the services: `generateWeek` prepares each claim of the second contract. -/
def discipline : Discipline content World Call where
  issues call := Call.isRaw call = false
  admits _ _ _ _ := True
  isolation := .readCommitted

/-- Every call uses instructions once, and relies on what they say. -/
def uses (around : Surroundings) : Protocol (system around) where
  discipline
  invariant := UsedOnce
  rely := fun _ => InstructionsKept
  rely_refl _ := instructionsKept_refl
  rely_trans _ := instructionsKept_trans

/-! ### Changes beside a claim -/

/-- Packs and plans stay where they are, and instructions as they are. -/
structure Still (before after : World) : Prop where
  packs : ∀ id pack, after.packs.find id = some pack →
    ∃ prior, before.packs.find id = some prior ∧ pack.weekPlanId = prior.weekPlanId ∧
      pack.contentCycleId = prior.contentCycleId ∧ pack.weekNumber = prior.weekNumber
  packsKept : ∀ id pack, before.packs.find id = some pack →
    ∃ later, after.packs.find id = some later ∧ later.weekPlanId = pack.weekPlanId
  plans : ∀ id plan, before.plans.find id = some plan →
    ∃ later, after.plans.find id = some later ∧ later.frozenInput = plan.frozenInput ∧
      ∀ cycleId week, later.ofWeek cycleId week = plan.ofWeek cycleId week
  instructions : ∀ id instruction, after.instructions.find id = some instruction →
    before.instructions.find id = some instruction ∨ instruction.status = .pendingConsumption
  instructionsKept : ∀ id instruction, before.instructions.find id = some instruction →
    after.instructions.find id = some instruction

theorem Still.carries {before after : World} (still : Still before after) {pack later : ContentPack}
    {guidance : OptimizationGuidance} (same : later.weekPlanId = pack.weekPlanId)
    (carries : Carries before pack guidance) : Carries after later guidance := by
  obtain ⟨planId, plan, input, planned, found, frozen, guided⟩ := carries
  obtain ⟨plan', foundLater, sameInput, -⟩ := still.plans planId plan found
  exact ⟨planId, plan', input, same.trans planned, foundLater, sameInput.trans frozen, guided⟩

theorem Still.carried {before after : World} (still : Still before after)
    (used : UsedOnce before) {packId : Uuid} {pack later : ContentPack}
    {guidance : OptimizationGuidance} (known : before.packs.find packId = some pack)
    (same : later.weekPlanId = pack.weekPlanId) (carries : Carries after later guidance) :
    Carries before pack guidance := by
  obtain ⟨planId, plan, input, planned, found, frozen, guided⟩ := carries
  obtain ⟨prior, foundPrior, -⟩ := used.planned packId pack planId known (same ▸ planned)
  obtain ⟨plan', foundLater, sameInput, -⟩ := still.plans planId prior foundPrior
  obtain rfl := Option.some.inj (found.symm.trans foundLater)
  exact ⟨planId, prior, input, same ▸ planned, foundPrior, sameInput ▸ frozen, guided⟩

theorem Still.keeps {before after : World} (still : Still before after)
    (used : UsedOnce before) : UsedOnce after where
  planned := by
    intro packId pack planId found planned
    obtain ⟨prior, known, samePlan, sameCycle, sameWeek⟩ := still.packs packId pack found
    obtain ⟨plan, foundPlan, ofWeek⟩ := used.planned packId prior planId known (samePlan ▸ planned)
    obtain ⟨later, foundLater, -, same⟩ := still.plans planId plan foundPlan
    exact ⟨later, foundLater, by rw [same, sameCycle, sameWeek, ofWeek]⟩
  carried := by
    intro packId pack guidance found carries
    obtain ⟨prior, known, samePlan, -⟩ := still.packs packId pack found
    obtain ⟨instruction, foundInstruction, rest⟩ :=
      used.carried packId prior guidance known (still.carried used known samePlan carries)
    exact ⟨instruction, still.instructionsKept _ instruction foundInstruction, rest⟩
  consumed := by
    intro id instruction found isConsumed
    rcases still.instructions id instruction found with known | pending
    · obtain ⟨packId, pack, by', foundPack, carries⟩ := used.consumed id instruction known isConsumed
      obtain ⟨later, foundLater, same⟩ := still.packsKept packId pack foundPack
      exact ⟨packId, later, by', foundLater, still.carries same carries⟩
    · rw [pending] at isConsumed
      cases isConsumed

theorem Still.kept {before after : World} (still : Still before after) :
    InstructionsKept before after :=
  fun id instruction found => ⟨instruction, still.instructionsKept id instruction found, rfl⟩

theorem still_of_same {before after : World} (packs : after.packs = before.packs)
    (plans : after.plans = before.plans) (instructions : after.instructions = before.instructions) :
    Still before after where
  packs _ pack found := ⟨pack, packs ▸ found, rfl, rfl, rfl⟩
  packsKept _ pack found := ⟨pack, packs ▸ found, rfl⟩
  plans _ plan found := ⟨plan, plans ▸ found, rfl, fun _ _ => rfl⟩
  instructions _ _ found := .inl (instructions ▸ found)
  instructionsKept _ _ found := instructions ▸ found

theorem still_changePack (base : World) {id : Uuid} {allowed : ContentPack → Bool}
    {data : PackData} : Still base (base.changePack id allowed data) where
  packs := by
    intro other pack found
    obtain ⟨old, known, rfl⟩ := World.of_find_changePack found
    refine ⟨old, known, ?_⟩
    split <;> exact ⟨rfl, rfl, rfl⟩
  packsKept := by
    intro other pack found
    refine ⟨_, World.find_changePack found, ?_⟩
    split <;> rfl
  plans _ plan found := ⟨plan, found, rfl, fun _ _ => rfl⟩
  instructions _ _ found := .inl found
  instructionsKept _ _ found := found

theorem still_addPlan (base : World) (row : ContentWeekPlan) : Still base (base.addPlan row) where
  packs _ pack found := ⟨pack, found, rfl, rfl, rfl⟩
  packsKept _ pack found := ⟨pack, found, rfl⟩
  plans _ plan found := ⟨plan, Table.find_insertUnless_of_found found, rfl, fun _ _ => rfl⟩
  instructions _ _ found := .inl found
  instructionsKept _ _ found := found

theorem still_reopenPlan (base : World) (id : Uuid) : Still base (base.reopenPlan id) where
  packs _ pack found := ⟨pack, found, rfl, rfl, rfl⟩
  packsKept _ pack found := ⟨pack, found, rfl⟩
  plans := by
    intro other plan found
    refine ⟨_, World.find_reopenPlan found, ?_⟩
    split <;> exact ⟨rfl, fun _ _ => rfl⟩
  instructions _ _ found := .inl found
  instructionsKept _ _ found := found

theorem still_addInstruction (base : World) {row : ApprovedOptimizationInstruction}
    (pending : row.status = .pendingConsumption) : Still base (base.addInstruction row) where
  packs _ pack found := ⟨pack, found, rfl, rfl, rfl⟩
  packsKept _ pack found := ⟨pack, found, rfl⟩
  plans _ plan found := ⟨plan, found, rfl, fun _ _ => rfl⟩
  instructions := by
    intro other instruction found
    rcases Table.of_find_insertUnless found with known | ⟨rfl, -⟩
    · exact .inl known
    · exact .inr pending
  instructionsKept _ _ found := Table.find_insertUnless_of_found found

/-- The statements that a claim executes on what it uses up. -/
def Statement.uses : Statement → Bool
  | .createPack _ | .freezePlan _ _ _ _ | .consumeInstruction _ _ _ _ _ _ => true
  | _ => false

variable {around : Surroundings} {pid : Pid} {call : Call}

private theorem still_updateWhen {hit : Bool} {keys : List Key} {write : World → World}
    {effect : Effect World Key Bool} (executed : updateWhen hit keys write = .ok effect)
    (still : ∀ base, Still base (write base)) (base : World) :
    Still base (effect.write base) := by
  rcases updateWhen_cases executed with ⟨-, rfl⟩ | ⟨-, rfl⟩
  · exact still base
  · exact still_of_same rfl rfl rfl

theorem still_of_exec {choice : Nat} {asked : Statement} {view : World}
    {effect : Effect World Key asked.Reply} (beside : Statement.uses asked = false)
    (executed : exec around pid choice asked view = .ok effect) (base : World) :
    Still base (effect.write base) := by
  have same := sameBut_of_exec executed base
  by_cases concerned : asked.area ∈ [some Area.packs, some .plans, some .instructions]
  swap
  · simp only [List.mem_cons, List.not_mem_nil, or_false, not_or] at concerned
    exact still_of_same (same.packs concerned.1) (same.plans concerned.2.1)
      (same.instructions concerned.2.2)
  cases asked <;> simp [Statement.area] at concerned <;> simp only [exec] at executed
  case createPlan =>
    obtain ⟨-, executed⟩ := ok_of_unless executed
    cases executed
    exact still_addPlan base _
  case reopenPlan =>
    obtain ⟨-, -, rfl⟩ := ok_of_updateRow executed
    exact still_reopenPlan base _
  case claimPack | markPackStatus | deliverPack =>
    exact still_updateWhen executed (still_changePack ·) base
  case failPack | setRetryEligible =>
    obtain ⟨-, -, rfl⟩ := ok_of_updateRow executed
    exact still_changePack base
  case createInstruction =>
    obtain ⟨-, executed⟩ := ok_of_unless executed
    cases executed
    exact still_addInstruction base rfl
  case createPack | freezePlan | consumeInstruction => cases beside

theorem spares_of_beside {asked : Statement} (beside : Statement.uses asked = false) :
    (uses around).Spares pid call asked := by
  intro choice view effect _ executed base used _
  have still := still_of_exec beside executed base
  exact ⟨still.keeps used, fun _ _ => still.kept⟩

/-! ### Claims -/

/-- The claim asks for the instruction that its frozen input carries. -/
def Consistent (input : ClaimInput) : Prop :=
  input.optimizationInstructionId =
    input.frozenInput.optimizationGuidance.map OptimizationGuidance.instructionId

theorem consistent_claimInputOf (cycleId : Uuid) (week : Nat) (weekPlan : WeekPlanWithPosts)
    (context : ContentWeekContext) (instruction : Option ApprovedOptimizationInstruction) :
    Consistent (claimInputOf cycleId week weekPlan context instruction) := by
  cases instruction <;> rfl

/-- The instruction of the claim is the one of its frozen input. -/
def Says (input : ClaimInput) (world : World) : Prop :=
  ∀ id guidance, input.optimizationInstructionId = some id →
    readFrozenOptimizationGuidance input.frozenInput = some guidance →
    ∃ row, world.instructions.find id = some row ∧ row.guidance = guidance

/-- A claim notes its instruction. -/
def notes (input : ClaimInput) : Notes (uses around) pid call input where
  plan := fun _ => True
  instruction := Says input
  plan_held := fun _ _ => held_true
  instruction_held := fun _ => held_of_rely fun before after kept told id guidance asked guided => by
    obtain ⟨row, found, same⟩ := told id guidance asked guided
    obtain ⟨later, foundLater, sameLater⟩ := kept id row found
    exact ⟨later, foundLater, sameLater.trans same⟩
  plan_noted := fun _ _ _ _ _ _ => trivial
  instruction_noted := by
    intro base id row guidance _ asked guided found same other guidance' asked' guided'
    obtain rfl := Option.some.inj (asked.symm.trans asked')
    obtain rfl := Option.some.inj (guided.symm.trans guided')
    exact ⟨row, found, same⟩

theorem guidance_of_read {frozenInput : FrozenInput} {guidance : OptimizationGuidance}
    (guided : readFrozenOptimizationGuidance frozenInput = some guidance) :
    frozenInput.optimizationGuidance = some guidance := by
  unfold readFrozenOptimizationGuidance at guided
  exact (Option.filter_eq_some_iff.mp guided).1

section ClaimV2

variable {base : World} {input : ClaimInput} {cycle : ContentCycle} {pack : ContentPack}

/-- The instruction of a claim, as the claim finds it. -/
theorem asked_of_claimed
    (claimed : ClaimedV2 (notes input : Notes (uses around) pid call input) cycle pack base)
    {id : Uuid} (asked : input.optimizationInstructionId = some id) :
    ∃ row, base.instructions.find id = some row ∧ row.status = .pendingConsumption ∧
      input.frozenInput.optimizationGuidance = some row.guidance := by
  obtain ⟨told, guidance, row, guided, -, -, found, pending, -⟩ := claimed.consumes id asked
  obtain ⟨row', found', same⟩ := told id guidance asked guided
  obtain rfl := Option.some.inj (found.symm.trans found')
  refine ⟨row, found, ?_, same ▸ guidance_of_read guided⟩
  simp only [ApprovedOptimizationInstruction.pendingFor, Bool.and_eq_true,
    decide_eq_true_eq] at pending
  exact pending.1.1.1.1

/-- No pack has the plan of a week that is still to be claimed. -/
theorem unplanned_of_claimed {contractVersion : ContractVersion} {weekPlanId : Option Uuid}
    (used : UsedOnce base)
    (claimed : Claimed input.cycleId input.weekNumber input.weekContextId contractVersion weekPlanId
      cycle pack base)
    (draft : (base.plans.find input.weekPlanId).any
      (ContentWeekPlan.isDraftOf input.cycleId input.weekNumber) = true)
    {packId : Uuid} {other : ContentPack} (found : base.packs.find packId = some other) :
    other.weekPlanId ≠ some input.weekPlanId := by
  intro planned
  obtain ⟨plan, foundPlan, ofWeek⟩ := used.planned packId other _ found planned
  rw [foundPlan] at draft
  have ofClaim := ContentWeekPlan.ofWeek_iff.mp ((Bool.and_eq_true ..).mp draft).1
  have ofOther := ContentWeekPlan.ofWeek_iff.mp ofWeek
  have member : packId ∈ base.packs.keysOf (ContentPack.ofWeek input.cycleId input.weekNumber) :=
    Table.mem_keysOf.mpr ⟨other, found, ContentPack.ofWeek_iff.mpr
      ⟨ofOther.1.symm.trans ofClaim.1, ofOther.2.symm.trans ofClaim.2⟩⟩
  rw [claimed.free] at member
  cases member

/-- An instruction that is consumed, or is not asked for, is left as it is. -/
theorem instruction_kept {id packId : Uuid} {row : ApprovedOptimizationInstruction}
    (found : base.instructions.find id = some row)
    (apart : input.optimizationInstructionId = some id → row.status ≠ .pendingConsumption) :
    (base.consumeIfAsked input packId).instructions.find id = some row := by
  unfold World.consumeIfAsked
  cases asked : input.optimizationInstructionId with
  | none => exact found
  | some other =>
      have sameId : row.id = id := Table.key_of_find found
      refine (World.find_consume found).trans ?_
      by_cases same : id = other
      · subst same
        simp [apart asked]
      · simp [sameId, same]

/-- The claim consumes its instruction for the pack. -/
theorem instruction_consumed {id : Uuid} {row : ApprovedOptimizationInstruction}
    (asked : input.optimizationInstructionId = some id)
    (found : base.instructions.find id = some row) (pending : row.status = .pendingConsumption)
    (packId : Uuid) : (base.consumeIfAsked input packId).instructions.find id = some
      { row with
        status := .consumed
        consumedContentPackId := some packId
        consumedWeekPlanId := some input.weekPlanId } := by
  have sameId : row.id = id := Table.key_of_find found
  unfold World.consumeIfAsked
  rw [asked]
  refine (World.find_consume found).trans ?_
  simp [sameId, pending]

theorem of_find_consumeIfAsked {id packId : Uuid} {row : ApprovedOptimizationInstruction}
    (found : (base.consumeIfAsked input packId).instructions.find id = some row) :
    ∃ old, base.instructions.find id = some old := by
  unfold World.consumeIfAsked at found
  cases asked : input.optimizationInstructionId with
  | none => exact ⟨row, by simpa [asked] using found⟩
  | some other =>
      simp only [asked, World.consume] at found
      obtain ⟨old, known, -⟩ := Table.of_find_update found
      exact ⟨old, known⟩

variable {after : World}

/-- The plans of a claim are those of the week before it, and the one that it freezes. -/
theorem plan_after (plans : after.plans = (base.freezePlan input.weekPlanId input.cycleId
      input.weekNumber input.frozenInput).plans)
    (draft : (base.plans.find input.weekPlanId).any
      (ContentWeekPlan.isDraftOf input.cycleId input.weekNumber) = true) :
    (∀ planId plan, base.plans.find planId = some plan → planId ≠ input.weekPlanId →
      after.plans.find planId = some plan) ∧
    ∃ plan, after.plans.find input.weekPlanId = some plan ∧
      plan.frozenInput = some input.frozenInput ∧
      plan.ofWeek input.cycleId input.weekNumber = true := by
  rw [plans]
  constructor
  · intro planId plan found apart
    have sameId : plan.id = planId := Table.key_of_find found
    refine (World.find_freezePlan found).trans ?_
    simp [sameId, apart]
  · obtain ⟨plan, found, isDraft⟩ := (Option.any_eq_true ..).mp draft
    have sameId : plan.id = input.weekPlanId := Table.key_of_find found
    refine ⟨_, World.find_freezePlan found, ?_⟩
    rw [if_pos (by simp [sameId, isDraft])]
    exact ⟨rfl, ((Bool.and_eq_true ..).mp isDraft).1⟩

/-- What the packs carry after a claim: the old ones what they carried before it, the new one its
frozen input. -/
theorem carries_after (used : UsedOnce base)
    (claimed : ClaimedV2 (notes input : Notes (uses around) pid call input) cycle pack base)
    (plans : after.plans = (base.freezePlan input.weekPlanId input.cycleId input.weekNumber
      input.frozenInput).plans) (guidance : OptimizationGuidance) :
    (∀ packId other, base.packs.find packId = some other →
      (Carries after other guidance ↔ Carries base other guidance)) ∧
    (Carries after pack guidance ↔ input.frozenInput.optimizationGuidance = some guidance) := by
  obtain ⟨weekContext, row⟩ := claimed.row
  have planned : pack.weekPlanId = some input.weekPlanId := by rw [row]; rfl
  obtain ⟨oldPlan, plan, foundNew, frozenNew, -⟩ := plan_after plans claimed.draft
  refine ⟨fun packId other found => ⟨?_, ?_⟩, ?_, ?_⟩
  · rintro ⟨planId, later, input', plannedOther, foundLater, rest⟩
    have apart := unplanned_of_claimed used claimed.toClaimed claimed.draft found
    obtain ⟨prior, known, -⟩ := used.planned packId other planId found plannedOther
    have same := oldPlan planId prior known (fun same => apart (same ▸ plannedOther))
    obtain rfl := Option.some.inj (foundLater.symm.trans same)
    exact ⟨planId, later, input', plannedOther, known, rest⟩
  · rintro ⟨planId, prior, input', plannedOther, known, rest⟩
    have apart := unplanned_of_claimed used claimed.toClaimed claimed.draft found
    exact ⟨planId, prior, input', plannedOther,
      oldPlan planId prior known (fun same => apart (same ▸ plannedOther)), rest⟩
  · rintro ⟨planId, later, input', plannedNew, foundLater, frozen, guided⟩
    obtain rfl := Option.some.inj (planned.symm.trans plannedNew)
    obtain rfl := Option.some.inj (foundNew.symm.trans foundLater)
    obtain rfl := Option.some.inj (frozenNew.symm.trans frozen)
    exact guided
  · exact fun guided => ⟨_, plan, _, planned, foundNew, frozenNew, guided⟩

/-- A claim uses its instruction once. -/
theorem used_claimV2 (used : UsedOnce base) (consistent : Consistent input)
    (claimed : ClaimedV2 (notes input : Notes (uses around) pid call input) cycle pack base)
    (plans : after.plans = (base.freezePlan input.weekPlanId input.cycleId input.weekNumber
      input.frozenInput).plans)
    (packs : after.packs = (base.addPack pack).packs)
    (instructions : after.instructions = (base.consumeIfAsked input pack.id).instructions) :
    UsedOnce after ∧ InstructionsKept base after := by
  have carries := carries_after used claimed plans
  obtain ⟨oldPlan, plan, foundNew, -, ofWeek⟩ := plan_after plans claimed.draft
  obtain ⟨sameCycle, sameWeek, -, planned, -⟩ := claimed.place
  have packCases : ∀ id other, after.packs.find id = some other →
      base.packs.find id = some other ∨ other = pack ∧ id = pack.id := by
    intro id other found
    rw [packs] at found
    exact (Table.of_find_insertUnless found).imp_right fun new => ⟨new.1, new.2.1⟩
  have packOld : ∀ id other, base.packs.find id = some other →
      after.packs.find id = some other := fun id other found =>
    packs ▸ Table.find_insertUnless_of_found found
  have packNew : after.packs.find pack.id = some pack := packs ▸ claimed.find_addPack
  -- the instruction of the claim is consumed, every other one is left as it is
  have consumes : ∀ id, input.optimizationInstructionId = some id →
      ∃ instruction, base.instructions.find id = some instruction ∧
        input.frozenInput.optimizationGuidance = some instruction.guidance ∧
        after.instructions.find id = some
          { instruction with
            status := .consumed
            consumedContentPackId := some pack.id
            consumedWeekPlanId := some input.weekPlanId } := by
    intro id asked
    obtain ⟨instruction, found, pending, guided⟩ := asked_of_claimed claimed asked
    exact ⟨instruction, found, guided, instructions ▸ instruction_consumed asked found pending _⟩
  have spares : ∀ id instruction, base.instructions.find id = some instruction →
      (input.optimizationInstructionId = some id → instruction.status ≠ .pendingConsumption) →
      after.instructions.find id = some instruction := fun id instruction found apart =>
    instructions ▸ instruction_kept found apart
  refine ⟨⟨?_, ?_, ?_⟩, ?_⟩
  · intro packId other planId found plannedOther
    rcases packCases packId other found with known | ⟨rfl, rfl⟩
    · obtain ⟨prior, foundPrior, ofPrior⟩ := used.planned packId other planId known plannedOther
      have apart := unplanned_of_claimed used claimed.toClaimed claimed.draft known
      exact ⟨prior, oldPlan planId prior foundPrior fun same => apart (same ▸ plannedOther), ofPrior⟩
    · obtain rfl := Option.some.inj (planned.symm.trans plannedOther)
      exact ⟨plan, foundNew, by rw [sameCycle, sameWeek]; exact ofWeek⟩
  · intro packId other guidance found carriesNow
    rcases packCases packId other found with known | ⟨rfl, rfl⟩
    · have before := ((carries guidance).1 packId other known).mp carriesNow
      obtain ⟨instruction, foundPrior, same, isConsumed, by'⟩ :=
        used.carried packId other guidance known before
      exact ⟨instruction, spares _ instruction foundPrior (fun _ => by rw [isConsumed]; nofun), same,
        isConsumed, by'⟩
    · have guided := (carries guidance).2.mp carriesNow
      have asked : input.optimizationInstructionId = some guidance.instructionId := by
        rw [consistent, guided]
        rfl
      obtain ⟨instruction, -, same, now⟩ := consumes _ asked
      exact ⟨_, now, Option.some.inj (same.symm.trans guided), rfl, rfl⟩
  · intro id instruction found isConsumed
    have wasThere : ∃ old, base.instructions.find id = some old :=
      of_find_consumeIfAsked (instructions ▸ found)
    obtain ⟨old, known⟩ := wasThere
    by_cases asked : input.optimizationInstructionId = some id
    · obtain ⟨row, -, guided, now⟩ := consumes id asked
      obtain rfl := Option.some.inj (now.symm.trans found)
      exact ⟨pack.id, pack, rfl, packNew, (carries _).2.mpr guided⟩
    · have same := spares id old known fun absurdly => absurd absurdly asked
      obtain rfl := Option.some.inj (same.symm.trans found)
      obtain ⟨packId, other, by', foundPack, carriesNow⟩ := used.consumed id old known isConsumed
      exact ⟨packId, other, by', packOld packId other foundPack,
        ((carries _).1 packId other foundPack).mpr carriesNow⟩
  · intro id instruction found
    by_cases asked : input.optimizationInstructionId = some id
    · obtain ⟨row, known, -, now⟩ := consumes id asked
      obtain rfl := Option.some.inj (known.symm.trans found)
      exact ⟨_, now, rfl⟩
    · exact ⟨instruction, spares id instruction found fun absurdly => absurd absurdly asked, rfl⟩

end ClaimV2

/-- A pack without a plan carries nothing. -/
theorem used_addPack {base after : World} {pack : ContentPack} (used : UsedOnce base)
    (unplanned : pack.weekPlanId = none) (packs : after.packs = (base.addPack pack).packs)
    (plans : after.plans = base.plans) (instructions : after.instructions = base.instructions) :
    UsedOnce after ∧ InstructionsKept base after := by
  have carries : ∀ other guidance, Carries after other guidance ↔ Carries base other guidance := by
    intro other guidance
    unfold Carries
    rw [plans]
  have packCases : ∀ id other, after.packs.find id = some other →
      base.packs.find id = some other ∨ other = pack := by
    intro id other found
    rw [packs] at found
    exact (Table.of_find_insertUnless found).imp_right fun new => new.1
  refine ⟨⟨?_, ?_, ?_⟩, fun id instruction found => ⟨instruction, instructions ▸ found, rfl⟩⟩
  · intro packId other planId found planned
    rcases packCases packId other found with known | rfl
    · exact plans ▸ used.planned packId other planId known planned
    · cases unplanned.symm.trans planned
  · intro packId other guidance found carriesNow
    rcases packCases packId other found with known | rfl
    · exact instructions ▸ used.carried packId other guidance known ((carries _ _).mp carriesNow)
    · obtain ⟨planId, -, -, planned, -⟩ := carriesNow
      cases unplanned.symm.trans planned
  · intro id instruction found isConsumed
    rw [instructions] at found
    obtain ⟨packId, other, by', foundPack, carriesNow⟩ := used.consumed id instruction found isConsumed
    exact ⟨packId, other, by', packs ▸ Table.find_insertUnless_of_found foundPack,
      (carries _ _).mpr carriesNow⟩

/-! ### Every run -/

theorem beside_of_part {asked : Statement} (apart : asked.part ≠ .claim) :
    Statement.uses asked = false := by
  cases asked <;> first | rfl | exact absurd rfl apart

theorem spares_of_part (part : Part) (apart : part ≠ .claim) (asked : Statement)
    (same : asked.part = part) : (uses around).Spares pid call asked :=
  spares_of_beside (beside_of_part (same ▸ apart))

theorem spares_of_shared (asked : Statement) (isShared : asked.part = .shared) :
    (uses around).Spares pid call asked := spares_of_part .shared nofun asked isShared

theorem maintains_claim {cycleId : Uuid} {week : Nat} {weekContextId : Uuid} {jobIntent : Bool} :
    (uses around).Maintains pid call
      (Program.transaction (queuePack cycleId week weekContextId jobIntent)) := by
  refine maintains_queuePack fun base cycle now pack intent used claimed _ => ?_
  have kept : UsedOnce (base.claimV1 cycleId week weekContextId now pack intent) ∧
      InstructionsKept base (base.claimV1 cycleId week weekContextId now pack intent) := by
    refine used_addPack used claimed.place.2.2.2.1 ?_ ?_ ?_
    all_goals simp [World.claimV1, World.changeCycle, World.addPack, World.freezeContext,
      World.changeContext]
  exact ⟨kept.1, fun _ _ => kept.2⟩

theorem maintains_claimV2 {input : ClaimInput} (consistent : Consistent input) :
    (uses around).Maintains pid call (Program.transaction (queuePackV2 input)) := by
  refine maintains_queuePackV2 (notes input) ?_
  intro base cycle now pack intent used claimed
  have kept : UsedOnce (base.claimV2 input now pack intent) ∧
      InstructionsKept base (base.claimV2 input now pack intent) := by
    refine used_claimV2 used consistent claimed ?_ ?_ (World.claimV2_instructions ..)
    all_goals simp [World.claimV2, World.changeCycle, World.addPack, World.freezeContext,
      World.changeContext, World.freezePlan]
  exact ⟨kept.1, fun _ _ => kept.2⟩

theorem operations : Operations
    (fun _ program => (uses around).Maintains pid call program) Consistent where
  toComposable := composable_maintains (uses around) pid call
  shared asked isShared := (spares_of_shared asked isShared).maintains
  asks body := maintains_of_asks (asks_mono body spares_of_shared)
  claim _ _ _ _ _ _ := maintains_claim
  claimV2 _ consistent _ _ := maintains_claimV2 consistent
  advance _ expected := maintains_of_asks (asks_rollOver spares_of_shared
    (spares_of_beside rfl) (fun _ _ => spares_of_beside rfl) expected)
  replace _ _ _ _ := maintains_of_asks
    (asks_replacePlan spares_of_shared (spares_of_part .replace nofun) _ _ _ _)
  createCycle _ _ _ := maintains_of_asks (asks_bind (asks_ask (spares_of_shared _ rfl)) fun _ =>
    asks_bind (asks_ask (spares_of_shared _ rfl)) fun _ => asks_pure _)
  deliver _ _ _ _ _ := maintains_of_asks
    (asks_deliverItems spares_of_shared (spares_of_part .deliver nofun) _ _ _ _)
  fail _ _ := maintains_of_asks (asks_safeFail spares_of_shared (spares_of_part .fail nofun) _ _)

theorem safe : (uses around).Safe fun _ _ => True :=
  safe_of_maintains fun _ call _ issued _ =>
    operations.program around call consistent_claimInputOf fun input same => by
      rw [same] at issued
      cases issued

/-- However requests and jobs interleave, an instruction is consumed by a pack exactly when the
frozen input of the pack carries its guidance; what is consumed is carried by some pack, and no
two packs carry the same instruction. -/
theorem instruction_used_once {machine : Machine content World Key Call}
    (reached : Reaches (system around) discipline World.empty machine) :
    (∀ packId pack id instruction, machine.world.packs.find packId = some pack →
      machine.world.instructions.find id = some instruction →
      (ConsumedBy instruction packId ↔ Carries machine.world pack instruction.guidance)) ∧
    (∀ id instruction, machine.world.instructions.find id = some instruction →
      instruction.status = .consumed → ∃ packId pack, ConsumedBy instruction packId ∧
        machine.world.packs.find packId = some pack) ∧
    ∀ packId pack other rival guidance foreign, machine.world.packs.find packId = some pack →
      machine.world.packs.find other = some rival → Carries machine.world pack guidance →
      Carries machine.world rival foreign → guidance.instructionId = foreign.instructionId →
      packId = other := by
  have used : UsedOnce machine.world := invariant_of_reaches safe usedOnce_empty reached
  refine ⟨?_, ?_, ?_⟩
  · intro packId pack id instruction found foundInstruction
    have sameId : instruction.id = id := Table.key_of_find foundInstruction
    constructor
    · rintro ⟨isConsumed, by'⟩
      obtain ⟨other, rival, byOther, foundOther, carries⟩ :=
        used.consumed id instruction foundInstruction isConsumed
      obtain rfl := Option.some.inj (by'.symm.trans byOther)
      obtain rfl := Option.some.inj (found.symm.trans foundOther)
      exact carries
    · intro carries
      obtain ⟨carried, foundCarried, -, isConsumed⟩ :=
        used.carried packId pack instruction.guidance found carries
      have same : machine.world.instructions.find id = some carried := sameId ▸ foundCarried
      obtain rfl := Option.some.inj (foundInstruction.symm.trans same)
      exact isConsumed
  · intro id instruction found isConsumed
    obtain ⟨packId, pack, by', foundPack, -⟩ := used.consumed id instruction found isConsumed
    exact ⟨packId, pack, ⟨isConsumed, by'⟩, foundPack⟩
  · intro packId pack other rival guidance foreign found foundRival carries carriesRival same
    obtain ⟨first, foundFirst, -, -, byFirst⟩ := used.carried packId pack guidance found carries
    obtain ⟨second, foundSecond, -, -, bySecond⟩ :=
      used.carried other rival foreign foundRival carriesRival
    rw [same, foundSecond] at foundFirst
    obtain rfl := Option.some.inj foundFirst
    exact Option.some.inj (byFirst.symm.trans bySecond)

/-- The owner approves a proposal, plans the week and has it generated. -/
def instructedMoves : List (Move Call) :=
  alone 5 (.createProposal ⟨0, 7, 3, 1, 0, .textPost, "e", .hookStyle, "shorter"⟩) 1 ++
  alone 6 (.createDecision ⟨8, 7, 0, "e", .approve, "k", "f"⟩) 9 ++ plannedMoves ++
  alone 2 (.generateWeek 0 1 8) 25

/-- The pack of that week is told what the owner approved. -/
theorem instruction_used : ∃ machine pack instruction,
    Reaches (system plainSurroundings) discipline World.empty machine ∧
    machine.world.packs.find 0 = some pack ∧
    machine.world.instructions.find 0 = some instruction ∧
    instruction.status = .consumed ∧ (ConsumedBy instruction 0 ↔
      Carries machine.world pack instruction.guidance) := by
  have played : ((system plainSurroundings).playChecked (fun _ _ _ _ => true) (.idle World.empty)
      instructedMoves).map (fun machine => ((machine.world.packs.find 0).isSome,
        (machine.world.instructions.find 0).map ApprovedOptimizationInstruction.status)) =
      some (true, some .consumed) := by
    decide +kernel
  obtain ⟨machine, moved, observed⟩ := Option.map_eq_some_iff.mp played
  obtain ⟨isPack, isConsumed⟩ := Prod.mk.inj observed
  obtain ⟨pack, found⟩ := Option.isSome_iff_exists.mp isPack
  obtain ⟨instruction, foundInstruction, status⟩ := Option.map_eq_some_iff.mp isConsumed
  have issues : ∀ call ∈ instructedMoves.filterMap Move.issued, Call.isRaw call = false := by decide
  have reached : Reaches (system plainSurroundings) discipline World.empty machine :=
    Reaches.playIssued rfl (fun _ _ _ _ _ => trivial) issues Reaches.idle moved
  exact ⟨machine, pack, instruction, reached, found, foundInstruction, status,
    (instruction_used_once reached).1 0 pack 0 instruction found foundInstruction⟩

end MarketMind.Content.Instructions
