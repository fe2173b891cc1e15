import MarketMind.Content.Processor
import MarketMind.Content.Writes
import MarketMind.Transactions.Inside

/-!
Owns what the transactions that claim a week have established when they commit: for any protocol,
each row that the claim was admitted for, and each index entry that it takes, is held from then on.

Does not own what follows from a claim.
-/

namespace MarketMind.Content

open MarketMind.Transactions
open MarketMind.Transactions.Protocol

variable {around : Surroundings} {protocol : Protocol (system around)} {pid : Pid} {call : Call}
  {α : Type}

/-! ### Facts about rows that are held -/

section Held

variable {opened : Session World Key}

theorem held_cycle {id : Uuid} (fact : Option ContentCycle → Prop)
    (member : Key.cycle id ∈ opened.held) :
    protocol.Held pid opened fun world => fact (world.cycles.find id) :=
  held_of_key member fun before after (agree : before.cycles.find id = after.cycles.find id) known =>
    agree ▸ known

theorem held_context {id : Uuid} (fact : Option ContentWeekContext → Prop)
    (member : Key.context id ∈ opened.held) :
    protocol.Held pid opened fun world => fact (world.contexts.find id) :=
  held_of_key member fun before after
    (agree : before.contexts.find id = after.contexts.find id) known => agree ▸ known

theorem held_plan {id : Uuid} (fact : Option ContentWeekPlan → Prop)
    (member : Key.plan id ∈ opened.held) :
    protocol.Held pid opened fun world => fact (world.plans.find id) :=
  held_of_key member fun before after (agree : before.plans.find id = after.plans.find id) known =>
    agree ▸ known

theorem held_pack {id : Uuid} (fact : Option ContentPack → Prop)
    (member : Key.pack id ∈ opened.held) :
    protocol.Held pid opened fun world => fact (world.packs.find id) :=
  held_of_key member fun before after (agree : before.packs.find id = after.packs.find id) known =>
    agree ▸ known

theorem held_packOfWeek {cycleId : Uuid} {week : Nat} (fact : List Uuid → Prop)
    (member : Key.packOfWeek cycleId week ∈ opened.held) :
    protocol.Held pid opened fun world =>
      fact (world.packs.keysOf (ContentPack.ofWeek cycleId week)) :=
  held_of_key member fun before after
    (agree : before.packs.keysOf (ContentPack.ofWeek cycleId week) =
      after.packs.keysOf (ContentPack.ofWeek cycleId week)) known => agree ▸ known

theorem held_item {id : Uuid} (fact : Option ContentItem → Prop)
    (member : Key.item id ∈ opened.held) :
    protocol.Held pid opened fun world => fact (world.items.find id) :=
  held_of_key member fun before after (agree : before.items.find id = after.items.find id) known =>
    agree ▸ known

end Held

/-! ### Guards inside a transaction -/

section Guards

variable {opened : Session World Key} {fact : World → Prop}

theorem closes_require {condition : Bool} {error : ContentError} {next : Unit → Code α}
    (passes : condition = true → protocol.Closes pid call opened fact (next ())) :
    protocol.Closes pid call opened fact (require condition error >>= next) := by
  unfold require
  split
  · next met => exact passes met
  · exact closes_throw

theorem closes_orThrow {Row : Type} {row : Option Row} {next : Row → Code α}
    (found : ∀ value, row = some value → protocol.Closes pid call opened fact (next value)) :
    protocol.Closes pid call opened fact (orThrow row >>= next) := by
  cases row with
  | none => exact closes_throw
  | some value => exact found value rfl

end Guards

/-! ### What a claim has found -/

/-- The cycle of a claim, its open context, and the place of its pack. -/
structure Claimed (cycleId : Uuid) (week : Nat) (weekContextId : Uuid)
    (contractVersion : ContractVersion) (weekPlanId : Option Uuid) (cycle : ContentCycle)
    (pack : ContentPack) (base : World) : Prop where
  found : base.cycles.find cycleId = some cycle
  active : cycle.status = .active
  isOpen : (base.contexts.find weekContextId).any
    (ContentWeekContext.isOpenIn cycleId week) = true
  free : base.packs.keysOf (ContentPack.ofWeek cycleId week) = []
  fresh : base.packs.find pack.id = none
  row : ∃ weekContext : ContentWeekContext, pack = { packRow cycle cycleId week weekContext
    weekContextId contractVersion weekPlanId with id := pack.id }

section Claimed

variable {cycleId weekContextId : Uuid} {week : Nat} {contractVersion : ContractVersion}
  {weekPlanId : Option Uuid} {cycle : ContentCycle} {pack : ContentPack} {base : World}

theorem Claimed.place (claimed : Claimed cycleId week weekContextId contractVersion weekPlanId cycle
    pack base) : pack.contentCycleId = cycleId ∧ pack.weekNumber = week ∧
      pack.weekContextId = weekContextId ∧ pack.weekPlanId = weekPlanId ∧
      pack.contractVersion = contractVersion ∧ pack.status = .queued ∧ pack.itemIds = [] := by
  obtain ⟨weekContext, row⟩ := claimed.row
  rw [row]
  exact ⟨rfl, rfl, rfl, rfl, rfl, rfl, rfl⟩

/-- The pack of a claim gets its place. -/
theorem Claimed.find_addPack (claimed : Claimed cycleId week weekContextId contractVersion
    weekPlanId cycle pack base) : (base.addPack pack).packs.find pack.id = some pack := by
  have free := Table.keysOf_eq_nil.mp claimed.free
  rw [← claimed.place.1, ← claimed.place.2.1] at free
  simp only [World.addPack, Table.insertUnless_of_free free]
  exact Table.find_insert_self claimed.fresh

end Claimed

/-- The context of the week is frozen. -/
def World.freezeContext (world : World) (id cycleId : Uuid) (week : Nat) (now : Instant) : World :=
  world.changeContext id (ContentWeekContext.isOpenIn cycleId week) fun row =>
    { row with frozenAt := some now }

/-- The intent of the job, if it is asked for. -/
def World.addIntents (world : World) : Option ContentJobOutbox → World
  | none => world
  | some row => world.addIntent row

/-- What `claimQueuedPack` commits. -/
def World.claimV1 (base : World) (cycleId : Uuid) (week : Nat) (weekContextId : Uuid)
    (now : Instant) (pack : ContentPack) (intent : Option ContentJobOutbox) : World :=
  (((base.freezeContext weekContextId cycleId week now).addPack pack).addIntents intent).changeCycle
    cycleId (fun _ => true) { week := some week }

/-- The instruction is consumed by the pack, if one is asked for. -/
def World.consumeIfAsked (world : World) (input : ClaimInput) (packId : Uuid) : World :=
  match input.optimizationInstructionId with
  | none => world
  | some id => world.consume id packId input.weekPlanId

/-- What `claimQueuedPackV2` commits. -/
def World.claimV2 (base : World) (input : ClaimInput) (now : Instant) (pack : ContentPack)
    (intent : Option ContentJobOutbox) : World :=
  (((((base.freezePlan input.weekPlanId input.cycleId input.weekNumber
    input.frozenInput).freezeContext input.weekContextId input.cycleId input.weekNumber
    now).addPack pack).consumeIfAsked input pack.id).addIntents intent).changeCycle
    input.cycleId (fun _ => true) {}

namespace World

variable (world : World)

@[simp] theorem addIntents_cycles (intent : Option ContentJobOutbox) :
    (world.addIntents intent).cycles = world.cycles := by
  cases intent <;> rfl

@[simp] theorem addIntents_contexts (intent : Option ContentJobOutbox) :
    (world.addIntents intent).contexts = world.contexts := by
  cases intent <;> rfl

@[simp] theorem addIntents_plans (intent : Option ContentJobOutbox) :
    (world.addIntents intent).plans = world.plans := by
  cases intent <;> rfl

@[simp] theorem addIntents_postPlans (intent : Option ContentJobOutbox) :
    (world.addIntents intent).postPlans = world.postPlans := by
  cases intent <;> rfl

@[simp] theorem addIntents_packs (intent : Option ContentJobOutbox) :
    (world.addIntents intent).packs = world.packs := by
  cases intent <;> rfl

@[simp] theorem addIntents_items (intent : Option ContentJobOutbox) :
    (world.addIntents intent).items = world.items := by
  cases intent <;> rfl

@[simp] theorem consumeIfAsked_items (input : ClaimInput) (packId : Uuid) :
    (world.consumeIfAsked input packId).items = world.items := by
  unfold consumeIfAsked
  split <;> rfl

@[simp] theorem consumeIfAsked_cycles (input : ClaimInput) (packId : Uuid) :
    (world.consumeIfAsked input packId).cycles = world.cycles := by
  unfold consumeIfAsked
  split <;> rfl

@[simp] theorem consumeIfAsked_contexts (input : ClaimInput) (packId : Uuid) :
    (world.consumeIfAsked input packId).contexts = world.contexts := by
  unfold consumeIfAsked
  split <;> rfl

@[simp] theorem consumeIfAsked_plans (input : ClaimInput) (packId : Uuid) :
    (world.consumeIfAsked input packId).plans = world.plans := by
  unfold consumeIfAsked
  split <;> rfl

@[simp] theorem consumeIfAsked_postPlans (input : ClaimInput) (packId : Uuid) :
    (world.consumeIfAsked input packId).postPlans = world.postPlans := by
  unfold consumeIfAsked
  split <;> rfl

@[simp] theorem consumeIfAsked_packs (input : ClaimInput) (packId : Uuid) :
    (world.consumeIfAsked input packId).packs = world.packs := by
  unfold consumeIfAsked
  split <;> rfl

@[simp] theorem addIntents_instructions (intent : Option ContentJobOutbox) :
    (world.addIntents intent).instructions = world.instructions := by
  cases intent <;> rfl

/-- The instructions after a claim. -/
theorem claimV2_instructions (input : ClaimInput) (now : Instant) (pack : ContentPack)
    (intent : Option ContentJobOutbox) :
    (world.claimV2 input now pack intent).instructions =
      (world.consumeIfAsked input pack.id).instructions := by
  simp only [claimV2, changeCycle, addIntents_instructions, consumeIfAsked]
  cases input.optimizationInstructionId with
  | none => rfl
  | some id => rfl

end World

section Claims

variable {opened : Session World Key} {fact : World → Prop}

/-- The cycle, which is locked. -/
theorem closes_findCycle {cycleId : Uuid} {next : ContentCycle → Code α}
    (locked : Key.cycle cycleId ∈ opened.held)
    (unwritten : ∀ world, (opened.pending world).cycles = world.cycles)
    (goesOn : ∀ cycle, protocol.Closes pid call opened
      (fun base => base.cycles.find cycleId = some cycle) (next cycle)) :
    protocol.Closes pid call opened fact
      (ask (.findCycle cycleId) >>= fun row => orThrow row >>= next) := by
  refine closes_read (fun _ _ => rfl) fun world _ _ => ?_
  refine ⟨fun base => base.cycles.find cycleId = world.cycles.find cycleId, rfl,
    held_cycle (· = _) locked, closes_orThrow fun cycle found => ?_⟩
  have known : world.cycles.find cycleId = some cycle := unwritten world ▸ found
  rw [known]
  exact goesOn cycle

/-- The week before is complete, which other calls may change again. -/
theorem closes_assertPrevious {cycleId : Uuid} {week : Nat} {next : Unit → Code α}
    (held : protocol.Held pid opened fact) (goesOn : protocol.Closes pid call opened fact (next ())) :
    protocol.Closes pid call opened fact (assertPreviousWeekComplete cycleId week >>= next) := by
  unfold assertPreviousWeekComplete
  split
  · refine closes_assoc (closes_skim held (fun _ _ => rfl) fun previousPack => ?_)
    exact closes_require fun _ => goesOn
  · exact goesOn

variable (protocol pid call) in
/-- A program that closes from what the transaction holds on to. -/
def ClosesHeld (opened : Session World Key) (fact : World → Prop) (program : Code α) : Prop :=
  protocol.Held pid opened fact → protocol.Closes pid call opened fact program

/-- The context of the claim is frozen. -/
theorem closes_freezeContext {id cycleId : Uuid} {week : Nat} {known : Bool}
    {error : ContentError} {next : Unit → Code α} (held : protocol.Held pid opened fact)
    (unwritten : ∀ world, (opened.pending world).contexts = world.contexts)
    (goesOn : ∀ now, ClosesHeld protocol pid call
      (opened.extend ⟨true, (World.freezeContext · id cycleId week now), [.context id]⟩)
      (fun base => fact base ∧
        (base.contexts.find id).any (ContentWeekContext.isOpenIn cycleId week) = true) (next ())) :
    protocol.Closes pid call opened fact
      (ask (.freezeContext id cycleId week) >>= fun frozen =>
        require (frozen && known) error >>= next) := by
  refine closes_ask fun choice world effect _ executed _ given => ?_
  rcases updateWhen_cases executed with ⟨hit, rfl⟩ | ⟨-, rfl⟩
  · rw [unwritten] at hit
    have isHeld : protocol.Held pid
        (opened.extend ⟨true, (World.freezeContext · id cycleId week choice), [.context id]⟩)
        fun base => fact base ∧
          (base.contexts.find id).any (ContentWeekContext.isOpenIn cycleId week) = true :=
      held.extend.and (held_context (·.any _ = true) (List.mem_cons_self ..))
    exact ⟨_, ⟨given, hit⟩, isHeld, closes_require fun _ => goesOn choice isHeld⟩
  · exact ⟨fact, given, held.extend, closes_require nofun⟩

/-- The pack takes the place of its week. -/
theorem closes_createPack {row : ContentPack} {next : ContentPack → Code α}
    (held : protocol.Held pid opened fact)
    (unwritten : ∀ world, (opened.pending world).packs = world.packs)
    (goesOn : ∀ pack, pack = { row with id := pack.id } → ClosesHeld protocol pid call
      (opened.extend ⟨pack, (World.addPack · pack),
        [.pack pack.id, .packOfWeek row.contentCycleId row.weekNumber]⟩)
      (fun base => fact base ∧
        base.packs.keysOf (ContentPack.ofWeek row.contentCycleId row.weekNumber) = [] ∧
          base.packs.find pack.id = none) (next pack)) :
    protocol.Closes pid call opened fact (ask (.createPack row) >>= next) := by
  refine closes_ask fun choice world effect _ executed _ given => ?_
  obtain ⟨free, executed⟩ := ok_of_unless executed
  cases executed
  have fresh := (opened.pending world).packs.find_freshKey choice
  rw [unwritten] at free fresh
  rw [unwritten]
  set pack : ContentPack := { row with id := world.packs.freshKey choice } with isPack
  have isHeld : protocol.Held pid (opened.extend ⟨pack, (World.addPack · pack),
        [.pack pack.id, .packOfWeek row.contentCycleId row.weekNumber]⟩)
      fun base => fact base ∧
        base.packs.keysOf (ContentPack.ofWeek row.contentCycleId row.weekNumber) = [] ∧
          base.packs.find pack.id = none := by
    refine held.extend.and (Held.and ?_ (held_pack (· = none) (List.mem_cons_self ..)))
    exact held_packOfWeek (· = []) (List.mem_cons_of_mem _ (List.mem_cons_self ..))
  refine ⟨_, ⟨given, ?_, fresh⟩, isHeld, goesOn pack rfl isHeld⟩
  exact Table.keysOf_eq_nil.mpr (Bool.not_eq_true _ ▸ free)

theorem closes_intentIf {jobIntent : Bool} {jobId : JobId} {payload : GenerateJobData}
    {next : Unit → Code α} (held : protocol.Held pid opened fact)
    (goesOn : ∀ intent keys, protocol.Closes pid call
      (opened.extend ⟨(), (World.addIntents · intent), keys⟩) fact (next ())) :
    protocol.Closes pid call opened fact
      (if jobIntent then ask (.createIntent jobId payload) >>= next else next ()) := by
  split
  · refine closes_ask fun choice world effect _ executed _ given => ?_
    obtain ⟨-, executed⟩ := ok_of_unless executed
    cases executed
    exact ⟨fact, given, held.extend, goesOn (some _) _⟩
  · exact goesOn none []

end Claims

/-- The transaction of `claimQueuedPack` keeps what its commit keeps. -/
theorem maintains_queuePack {cycleId : Uuid} {week : Nat} {weekContextId : Uuid} {jobIntent : Bool}
    (lands : ∀ base cycle now pack intent, protocol.invariant base →
      Claimed cycleId week weekContextId .contentV1 none cycle pack base →
      isNextEligible cycle week = true →
        protocol.invariant (base.claimV1 cycleId week weekContextId now pack intent) ∧
          protocol.Guarantees pid base (base.claimV1 cycleId week weekContextId now pack intent)) :
    protocol.Maintains pid call
      (Program.transaction (queuePack cycleId week weekContextId jobIntent)) := by
  refine maintains_of_closes ?_
  unfold queuePack
  refine closes_ask fun choice world effect _ executed _ _ => ⟨fun _ => True, trivial, held_true, ?_⟩
  obtain rfl := Except.ok.inj executed
  refine closes_skim held_true (fun _ _ => rfl) fun existing => ?_
  cases existing with
  | some existing => exact closes_pure lands_id
  | none =>
  refine closes_findCycle (List.mem_cons_self ..) (fun _ => rfl) fun cycle => ?_
  have locked : ∀ opened : Session World Key, Key.cycle cycleId ∈ opened.held →
      protocol.Held pid opened fun base => base.cycles.find cycleId = some cycle :=
    fun opened => held_cycle (· = some cycle)
  refine closes_require fun active => closes_require fun eligible => ?_
  refine closes_assertPrevious (locked _ (List.mem_cons_self ..)) ?_
  refine closes_skim (locked _ (List.mem_cons_self ..)) (fun _ _ => rfl) fun weekContext => ?_
  refine closes_orThrow fun weekContext _ => closes_require fun _ => ?_
  refine closes_freezeContext (locked _ (List.mem_cons_self ..)) (fun _ => rfl) fun now held => ?_
  refine closes_createPack held (fun _ => rfl) fun pack row held => ?_
  refine closes_intentIf held fun intent keys => ?_
  refine closes_ask fun choice world effect _ executed _ given => ?_
  obtain ⟨-, -, rfl⟩ := ok_of_updateRow executed
  refine ⟨_, given, held.extend.extend, closes_pure fun base holds given => ?_⟩
  obtain ⟨⟨found, isOpen⟩, free, fresh⟩ := given
  exact lands base cycle now pack intent holds
    ⟨found, of_decide_eq_true active, isOpen, free, fresh, weekContext, row⟩ eligible

/-! ### Claims of the second contract -/

variable (protocol pid call) in
/-- What a claim notes of its plan while it holds it, and of the instruction that it carries. -/
structure Notes (input : ClaimInput) where
  plan : World → Prop
  instruction : World → Prop
  plan_held : ∀ opened, Key.plan input.weekPlanId ∈ opened.held → protocol.Held pid opened plan
  instruction_held : ∀ opened, protocol.Held pid opened instruction
  plan_noted : ∀ base row, protocol.invariant base →
    base.plans.find input.weekPlanId = some row →
    row.isDraftOf input.cycleId input.weekNumber = true →
    protocol.discipline.admits pid call
      (.freezePlan input.weekPlanId input.cycleId input.weekNumber input.frozenInput) base →
    plan base
  instruction_noted : ∀ base id row guidance, protocol.invariant base →
    input.optimizationInstructionId = some id →
    readFrozenOptimizationGuidance input.frozenInput = some guidance →
    base.instructions.find id = some row → row.guidance = guidance → instruction base

/-- Nothing is noted. -/
def Notes.nothing (input : ClaimInput) : Notes protocol pid call input where
  plan := fun _ => True
  instruction := fun _ => True
  plan_held := fun _ _ => held_true
  instruction_held := fun _ => held_true
  plan_noted := fun _ _ _ _ _ _ => trivial
  instruction_noted := fun _ _ _ _ _ _ _ _ _ => trivial

/-- The instruction that a claim asks for is pending and is the one of its frozen input. -/
def Consumes (input : ClaimInput) (cycle : ContentCycle) (noted : World → Prop) (base : World) :
    Prop :=
  ∀ id, input.optimizationInstructionId = some id → noted base ∧
    ∃ guidance row, readFrozenOptimizationGuidance input.frozenInput = some guidance ∧
      guidance.instructionId = id ∧ isEligibleFor guidance input.frozenInput.postPlans = true ∧
      base.instructions.find id = some row ∧ row.pendingFor cycle = true ∧
      row.formatCohort = guidance.formatCohort ∧ row.evidenceChecksum = guidance.evidenceChecksum

/-- What `claimQueuedPackV2` has found. -/
structure ClaimedV2 {input : ClaimInput} (notes : Notes protocol pid call input)
    (cycle : ContentCycle) (pack : ContentPack) (base : World) : Prop extends
    Claimed input.cycleId input.weekNumber input.weekContextId .contentV2 (some input.weekPlanId)
      cycle pack base where
  current : input.weekNumber = cycle.currentWeekNumber
  draft : (base.plans.find input.weekPlanId).any
    (ContentWeekPlan.isDraftOf input.cycleId input.weekNumber) = true
  noted : notes.plan base
  consumes : Consumes input cycle notes.instruction base

section ClaimsV2

variable {opened : Session World Key} {fact : World → Prop} {input : ClaimInput}
  (notes : Notes protocol pid call input)

theorem closes_freezePlan {error : ContentError} {next : Unit → Code α}
    (held : protocol.Held pid opened fact) (unwritten : ∀ world, opened.pending world = world)
    (goesOn : ClosesHeld protocol pid call
      (opened.extend ⟨true, (World.freezePlan · input.weekPlanId input.cycleId input.weekNumber
        input.frozenInput), [.plan input.weekPlanId]⟩)
      (fun base => fact base ∧ notes.plan base ∧ (base.plans.find input.weekPlanId).any
        (ContentWeekPlan.isDraftOf input.cycleId input.weekNumber) = true) (next ())) :
    protocol.Closes pid call opened fact
      (ask (.freezePlan input.weekPlanId input.cycleId input.weekNumber input.frozenInput) >>=
        fun frozenPlan => require frozenPlan error >>= next) := by
  refine closes_ask fun choice world effect admitted executed holds given => ?_
  rw [unwritten] at admitted executed
  rcases updateWhen_cases executed with ⟨hit, rfl⟩ | ⟨-, rfl⟩
  · obtain ⟨row, found, isDraft⟩ := (Option.any_eq_true ..).mp hit
    have isHeld : protocol.Held pid (opened.extend ⟨true, (World.freezePlan · input.weekPlanId
        input.cycleId input.weekNumber input.frozenInput), [.plan input.weekPlanId]⟩)
        fun base => fact base ∧ notes.plan base ∧ (base.plans.find input.weekPlanId).any
          (ContentWeekPlan.isDraftOf input.cycleId input.weekNumber) = true := by
      refine held.extend.and (Held.and (notes.plan_held _ (List.mem_cons_self ..)) ?_)
      exact held_plan (·.any _ = true) (List.mem_cons_self ..)
    refine ⟨_, ⟨given, ?_, hit⟩, isHeld, closes_require fun _ => goesOn isHeld⟩
    exact notes.plan_noted world row holds found isDraft admitted
  · exact ⟨fact, given, held.extend, closes_require nofun⟩

theorem held_consumes {cycle : ContentCycle}
    (locked : ∀ id, input.optimizationInstructionId = some id → Key.instruction id ∈ opened.held) :
    protocol.Held pid opened (Consumes input cycle notes.instruction) := by
  intro before after calm holds known id asked
  obtain ⟨noted, guidance, row, guided, same, eligible, found, rest⟩ := known id asked
  have agree : before.instructions.find id = after.instructions.find id :=
    calm.agree opened rfl _ (locked id asked)
  exact ⟨notes.instruction_held opened before after calm holds noted, guidance, row, guided, same,
    eligible, agree ▸ found, rest⟩

theorem closes_consumeIfAsked {cycle : ContentCycle} {packId : Uuid} {next : Unit → Code α}
    (held : protocol.Held pid opened fact)
    (unwritten : ∀ world, (opened.pending world).instructions = world.instructions)
    (goesOn : ∀ keys, ClosesHeld protocol pid call
      (opened.extend ⟨(), (World.consumeIfAsked · input packId), keys⟩)
      (fun base => fact base ∧ Consumes input cycle notes.instruction base) (next ())) :
    protocol.Closes pid call opened fact (consumeIfAsked cycle input packId >>= next) := by
  unfold consumeIfAsked
  cases asked : input.optimizationInstructionId with
  | none =>
      have still : (fun world : World => world.consumeIfAsked input packId) = id := by
        funext world
        simp [World.consumeIfAsked, asked]
      have closes := goesOn []
      rw [still] at closes
      intro world holds given
      refine closes (fun before after calm holdsAfter known => ⟨?_, ?_⟩) world holds ⟨given, ?_⟩
      · exact held before after calm holdsAfter known.1
      · exact fun id same => nomatch asked.symm.trans same
      · exact fun id same => nomatch asked.symm.trans same
  | some id =>
      dsimp only
      unfold consumeInstruction
      cases guided : readFrozenOptimizationGuidance input.frozenInput with
      | none => exact closes_throw
      | some guidance =>
      refine closes_assoc (closes_require fun same => ?_)
      refine closes_assoc (closes_require fun eligible => ?_)
      refine closes_assoc (closes_read (fun _ _ => rfl) fun world holds given => ?_)
      by_cases matching : (world.instructions.find id).any
          fun row => row.pendingFor cycle && row.guidance = guidance
      · obtain ⟨row, found, matches'⟩ := (Option.any_eq_true ..).mp matching
        have asGuided : row.guidance = guidance := by simpa using ((Bool.and_eq_true ..).mp matches').2
        have noted := notes.instruction_noted world id row guidance holds asked guided found asGuided
        refine ⟨fun base => fact base ∧ notes.instruction base, ⟨given, noted⟩,
          held.and (notes.instruction_held opened), closes_assoc (closes_require fun _ => ?_)⟩
        refine closes_assoc (closes_ask fun choice world effect _ executed holds given => ?_)
        rcases updateWhen_cases executed with ⟨hit, rfl⟩ | ⟨-, rfl⟩
        · rw [unwritten] at hit
          obtain ⟨pending, isFound, pendingNow⟩ := (Option.any_eq_true ..).mp hit
          simp only [Bool.and_eq_true, decide_eq_true_eq] at pendingNow
          have consumed : (fun world : World => world.consumeIfAsked input packId) =
              fun world => world.consume id packId input.weekPlanId := by
            funext world
            simp [World.consumeIfAsked, asked]
          have known : Consumes input cycle notes.instruction world := by
            intro other sameId
            obtain rfl := Option.some.inj (asked.symm.trans sameId)
            exact ⟨given.2, guidance, pending, guided, of_decide_eq_true same, eligible, isFound,
              pendingNow.1.1, pendingNow.1.2, pendingNow.2⟩
          have isHeld : protocol.Held pid (opened.extend (⟨(), (World.consumeIfAsked · input packId),
                [.instruction id]⟩ : Effect World Key Unit))
              fun base => fact base ∧ Consumes input cycle notes.instruction base := by
            refine held.extend.and (held_consumes notes fun other sameId => ?_)
            obtain rfl := Option.some.inj (asked.symm.trans sameId)
            exact List.mem_cons_self ..
          have closes := goesOn [.instruction id] isHeld
          rw [consumed] at closes isHeld
          exact ⟨_, ⟨given.1, known⟩, isHeld, closes_require fun _ => closes⟩
        · exact ⟨_, given, (held.and (notes.instruction_held opened)).extend, closes_require nofun⟩
      · refine ⟨fact, given, held, closes_assoc (closes_require fun passes => ?_)⟩
        exact absurd (unwritten world ▸ passes) matching

end ClaimsV2

/-- The transaction of `claimQueuedPackV2` keeps what its commit keeps. -/
theorem maintains_queuePackV2 {input : ClaimInput} (notes : Notes protocol pid call input)
    (lands : ∀ base cycle now pack intent, protocol.invariant base →
      ClaimedV2 notes cycle pack base →
        protocol.invariant (base.claimV2 input now pack intent) ∧
          protocol.Guarantees pid base (base.claimV2 input now pack intent)) :
    protocol.Maintains pid call (Program.transaction (queuePackV2 input)) := by
  refine maintains_of_closes ?_
  unfold queuePackV2
  refine closes_ask fun choice world effect _ executed _ _ => ⟨fun _ => True, trivial, held_true, ?_⟩
  obtain rfl := Except.ok.inj executed
  refine closes_skim held_true (fun _ _ => rfl) fun existing => ?_
  cases existing with
  | some existing => exact closes_pure lands_id
  | none =>
  refine closes_findCycle (List.mem_cons_self ..) (fun _ => rfl) fun cycle => ?_
  have locked : ∀ opened : Session World Key, Key.cycle input.cycleId ∈ opened.held →
      protocol.Held pid opened fun base => base.cycles.find input.cycleId = some cycle :=
    fun opened => held_cycle (· = some cycle)
  refine closes_require fun active => closes_require fun current => ?_
  refine closes_skim (locked _ (List.mem_cons_self ..)) (fun _ _ => rfl) fun weekContext => ?_
  refine closes_orThrow fun weekContext _ => closes_require fun _ => ?_
  refine closes_freezePlan notes (locked _ (List.mem_cons_self ..)) (fun _ => rfl) fun held => ?_
  refine closes_freezeContext held (fun _ => rfl) fun now held => ?_
  refine closes_createPack held (fun _ => rfl) fun pack row held => ?_
  refine closes_consumeIfAsked notes held (fun _ => rfl) fun _ held => ?_
  refine closes_intentIf held fun intent keys => ?_
  refine closes_ask fun choice world effect _ executed _ given => ?_
  obtain ⟨-, -, rfl⟩ := ok_of_updateRow executed
  refine ⟨_, given, held.extend.extend, closes_pure fun base holds given => ?_⟩
  obtain ⟨⟨⟨⟨found, noted, isDraft⟩, isOpen⟩, free, fresh⟩, consumes⟩ := given
  exact lands base cycle now pack intent holds
    { found, active := of_decide_eq_true active, isOpen, free, fresh, row := ⟨weekContext, row⟩
      current := of_decide_eq_true current, draft := isDraft, noted, consumes }

end MarketMind.Content
