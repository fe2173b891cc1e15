import MarketMind.Content.Weeks

/-!
Owns the end of a cycle: the delivery of its last week completes it, unless the cycle is paused at
that moment.

Does not own how a delivered pack is reviewed.
-/

namespace MarketMind.Content.Completion

open MarketMind.Transactions
open MarketMind.Transactions.Protocol
open MarketMind.Transactions.Store (Asks asks_ask asks_bind asks_pure)
open MarketMind.Content.Weeks

/-! ### Finished cycles -/

/-- Items of the pack are committed. -/
def Delivered (pack : ContentPack) : Prop :=
  pack.itemIds ≠ [] ∨ isCompletedPackStatus pack.status = true

def Completed (world : World) (cycleId : Uuid) : Prop :=
  ∃ cycle, world.cycles.find cycleId = some cycle ∧ cycle.status = .completed

/-- The cycle of a delivered last week is completed. -/
def Finished (world : World) : Prop :=
  ∀ id pack, world.packs.find id = some pack → pack.weekNumber = contentWeekCount →
    Delivered pack → Completed world pack.contentCycleId

/-- A completed cycle stays completed. -/
def CompletedKept (before after : World) : Prop :=
  ∀ id, Completed before id → Completed after id

/-- What a change owes: every pack that it delivers, unless it is in time, has a completed
cycle. -/
structure Finishing (before after : World) : Prop extends Orderly before after where
  completed : CompletedKept before after
  delivered : ∀ id pack, after.packs.find id = some pack → pack.weekNumber = contentWeekCount →
    Delivered pack → (∃ prior, before.packs.find id = some prior ∧ Delivered prior) ∨
      Completed after pack.contentCycleId

theorem Finishing.keeps {before after : World} (finishing : Finishing before after)
    (finished : Finished before) : Finished after := by
  intro id pack found last delivered
  rcases finishing.delivered id pack found last delivered with ⟨prior, known, was⟩ | now
  · obtain ⟨prior', known', place⟩ := finishing.known id pack found
    obtain rfl := Option.some.inj (known.symm.trans known')
    rw [place.cycle]
    exact finishing.completed _ (finished id prior known (place.week.symm.trans last) was)
  · exact now

theorem finishing_of_same {before after : World} (cycles : after.cycles = before.cycles)
    (contexts : after.contexts = before.contexts) (packs : after.packs = before.packs) :
    Finishing before after where
  toOrderly := orderly_of_same cycles contexts packs
  completed := by
    rintro id ⟨cycle, found, isCompleted⟩
    exact ⟨cycle, cycles ▸ found, isCompleted⟩
  delivered _ pack found _ delivered := .inl ⟨pack, packs ▸ found, delivered⟩

theorem Finishing.trans {first second third : World} (left : Finishing first second)
    (right : Finishing second third) : Finishing first third where
  toWeeksKept := weeksKept_trans left.toWeeksKept right.toWeeksKept
  bounded limits := right.bounded (left.bounded limits)
  known := by
    intro id pack found
    obtain ⟨between, foundBetween, far⟩ := right.known id pack found
    obtain ⟨prior, foundPrior, near⟩ := left.known id between foundBetween
    exact ⟨prior, foundPrior, far.cycle.trans near.cycle, far.week.trans near.week,
      far.context.trans near.context⟩
  completed id isCompleted := right.completed id (left.completed id isCompleted)
  delivered := by
    intro id pack found last delivered
    rcases right.delivered id pack found last delivered with ⟨between, known, was⟩ | now
    · obtain ⟨between', known', place⟩ := right.known id pack found
      obtain rfl := Option.some.inj (known.symm.trans known')
      rcases left.delivered id between known (place.week.symm.trans last) was with prior | now
      · exact .inl prior
      · rw [place.cycle]
        exact .inr (right.completed _ now)
    · exact .inr now

/-! ### What a statement owes -/

/-- A change of a cycle that is completed leaves it completed. -/
theorem completed_changeCycle {base : World} {id : Uuid} {allowed : ContentCycle → Bool}
    {data : CycleData} (stays : ∀ row, allowed row = true → row.status = .completed →
      data.status.getD .completed = .completed) :
    CompletedKept base (base.changeCycle id allowed data) := by
  rintro other ⟨cycle, found, isCompleted⟩
  refine ⟨_, World.find_changeCycle found, ?_⟩
  split
  · next matching =>
    simp only [CycleData.apply, isCompleted]
    exact stays cycle ((Bool.and_eq_true ..).mp matching).2 isCompleted
  · exact isCompleted

theorem finishing_changeCycle {base : World} {id : Uuid} {allowed : ContentCycle → Bool}
    {data : CycleData} (orderly : Orderly base (base.changeCycle id allowed data))
    (stays : ∀ row, allowed row = true → row.status = .completed →
      data.status.getD .completed = .completed) :
    Finishing base (base.changeCycle id allowed data) where
  toOrderly := orderly
  completed := completed_changeCycle stays
  delivered _ pack found _ delivered := .inl ⟨pack, found, delivered⟩

/-- Every pack of the last week that is delivered was delivered before. -/
def NothingDelivered (before after : World) : Prop :=
  ∀ id pack, after.packs.find id = some pack → Delivered pack →
    ∃ prior, before.packs.find id = some prior ∧ Delivered prior

theorem nothingDelivered_of_same {before after : World} (packs : after.packs = before.packs) :
    NothingDelivered before after := fun _ pack found delivered => ⟨pack, packs ▸ found, delivered⟩

/-- A change of a pack that delivers nothing. -/
theorem nothingDelivered_changePack (base : World) {id : Uuid} {allowed : ContentPack → Bool}
    {data : PackData} (idle : data.status.all (!isCompletedPackStatus ·) = true)
    (empty : data.itemIds = none) : NothingDelivered base (base.changePack id allowed data) := by
  intro other pack found delivered
  obtain ⟨old, known, rfl⟩ := World.of_find_changePack found
  refine ⟨old, known, ?_⟩
  split at delivered
  · refine delivered.imp (by simp [PackData.apply, empty]) fun isDelivered => ?_
    cases sets : data.status with
    | none => simpa [PackData.apply, sets] using isDelivered
    | some next => simp [PackData.apply, sets] at isDelivered idle; simp [isDelivered] at idle
  · exact delivered

variable {around : Surroundings} {pid : Pid} {call : Call}

private theorem completed_updateWhen {hit : Bool} {keys : List Key} {write : World → World}
    {effect : Effect World Key Bool} (executed : updateWhen hit keys write = .ok effect)
    (kept : ∀ base, CompletedKept base (write base)) (base : World) :
    CompletedKept base (effect.write base) := by
  rcases updateWhen_cases executed with ⟨-, rfl⟩ | ⟨-, rfl⟩
  · exact kept base
  · exact fun _ isCompleted => isCompleted

/-- No statement takes a completed cycle back. -/
theorem completed_of_exec {choice : Nat} {asked : Statement} {view : World}
    {effect : Effect World Key asked.Reply}
    (executed : exec around pid choice asked view = .ok effect) (base : World) :
    CompletedKept base (effect.write base) := by
  by_cases concerned : asked.area = some .cycles
  swap
  · rintro id ⟨cycle, found, isCompleted⟩
    exact ⟨cycle, (sameBut_of_exec executed base).cycles concerned ▸ found, isCompleted⟩
  cases asked <;> simp [Statement.area] at concerned <;> simp only [exec] at executed
  case createCycle =>
    cases executed
    rintro id ⟨cycle, found, isCompleted⟩
    exact ⟨cycle, Table.find_insert_of_found found, isCompleted⟩
  case pauseCycle | resumeCycle =>
    refine completed_updateWhen executed (fun base => completed_changeCycle ?_) base
    intro row allowed isCompleted
    simp [isCompleted] at allowed
  case completeCycle =>
    split at executed
    · next completed =>
      cases executed
      exact completed_updateWhen completed (fun _ => completed_changeCycle fun _ _ _ => rfl) base
    · cases executed
  case advanceCycle =>
    exact completed_updateWhen executed (fun _ => completed_changeCycle fun _ _ _ => rfl) base
  case updateCycle =>
    obtain ⟨-, -, rfl⟩ := ok_of_updateRow executed
    exact completed_changeCycle fun _ _ _ => rfl

/-- The statements that owe nothing to the end of a cycle wherever they land. -/
def Statement.isFinishing : Statement → Prop
  | .createPack _ | .updateCycle _ (some _) | .deliverPack _ _ => False
  | .advanceCycle _ week => week < contentWeekCount
  | .markPackStatus _ _ next => isCompletedPackStatus next = false
  | _ => True

private theorem nothingDelivered_updateWhen {hit : Bool} {keys : List Key} {write : World → World}
    {effect : Effect World Key Bool} (executed : updateWhen hit keys write = .ok effect)
    (kept : ∀ base, NothingDelivered base (write base)) (base : World) :
    NothingDelivered base (effect.write base) := by
  rcases updateWhen_cases executed with ⟨-, rfl⟩ | ⟨-, rfl⟩
  · exact kept base
  · exact nothingDelivered_of_same rfl

theorem nothingDelivered_of_exec {choice : Nat} {asked : Statement} {view : World}
    {effect : Effect World Key asked.Reply} (isFinishing : Statement.isFinishing asked)
    (executed : exec around pid choice asked view = .ok effect) (base : World) :
    NothingDelivered base (effect.write base) := by
  by_cases concerned : asked.area = some .packs
  swap
  · exact nothingDelivered_of_same ((sameBut_of_exec executed base).packs concerned)
  cases asked <;> simp [Statement.area] at concerned <;> simp only [exec] at executed
  case createPack | deliverPack => exact isFinishing.elim
  case claimPack =>
    exact nothingDelivered_updateWhen executed (nothingDelivered_changePack · rfl rfl) base
  case markPackStatus id current next =>
    have idle : isCompletedPackStatus next = false := isFinishing
    exact nothingDelivered_updateWhen executed
      (nothingDelivered_changePack · (by simp [idle]) rfl) base
  case failPack | setRetryEligible =>
    obtain ⟨-, -, rfl⟩ := ok_of_updateRow executed
    exact nothingDelivered_changePack base rfl rfl

theorem inOrder_of_isFinishing {asked : Statement} (isFinishing : Statement.isFinishing asked) :
    Statement.inOrder asked := by
  cases asked with
  | updateCycle id week => cases week <;> trivial
  | _ => trivial

theorem finishing_of_exec {choice : Nat} {asked : Statement} {view : World}
    {effect : Effect World Key asked.Reply} (isFinishing : Statement.isFinishing asked)
    (executed : exec around pid choice asked view = .ok effect) (base : World) :
    Finishing base (effect.write base) where
  toOrderly := orderly_of_exec (inOrder_of_isFinishing isFinishing) executed base
  completed := completed_of_exec executed base
  delivered id pack found _ delivered :=
    .inl (nothingDelivered_of_exec isFinishing executed base id pack found delivered)

/-! ### The protocol -/

/-- The delivery of a last week finds its cycle not paused. -/
def discipline : Discipline content World Call where
  issues _ := True
  admits _ _ asked world := ∀ id week, asked = .completeCycle id (some week) →
    ∀ cycle, world.cycles.find id = some cycle → cycle.status ≠ .paused
  isolation := .readCommitted

structure Ends (world : World) : Prop where
  ordered : WeeksInOrder world
  finished : Finished world

structure EndsKept (before after : World) : Prop where
  weeks : WeeksKept before after
  completed : CompletedKept before after

theorem Finishing.endsKept {before after : World} (finishing : Finishing before after) :
    EndsKept before after := ⟨finishing.toWeeksKept, finishing.completed⟩

theorem Finishing.ends {before after : World} (finishing : Finishing before after)
    (ends : Ends before) : Ends after :=
  ⟨finishing.toOrderly.keeps ends.ordered, finishing.keeps ends.finished⟩

def completion (around : Surroundings) : Protocol (system around) where
  discipline
  invariant := Ends
  rely := fun _ => EndsKept
  rely_refl _ world := ⟨weeksKept_refl world, fun _ isCompleted => isCompleted⟩
  rely_trans _ _ _ _ left right := ⟨weeksKept_trans left.weeks right.weeks,
    fun id isCompleted => right.completed id (left.completed id isCompleted)⟩

theorem spares_of_isFinishing {asked : Statement} (isFinishing : Statement.isFinishing asked) :
    (completion around).Spares pid call asked := by
  intro choice view effect _ executed base ends _
  have finishing := finishing_of_exec isFinishing executed base
  exact ⟨finishing.ends ends, fun _ _ => finishing.endsKept⟩

/-! ### Claims -/

/-- A new pack is not delivered. -/
theorem ends_claim {base after : World} {cycleId weekContextId : Uuid} {week : Nat}
    {contractVersion : ContractVersion} {weekPlanId : Option Uuid} {cycle : ContentCycle}
    {pack : ContentPack} {next : Option Nat} (ends : Ends base)
    (claimed : Claimed cycleId week weekContextId contractVersion weekPlanId cycle pack base)
    (weeks : WeeksInOrder after ∧ WeeksKept base after)
    (cycles : after.cycles =
      (base.changeCycle cycleId (fun _ => true) { week := next }).cycles)
    (packs : after.packs = (base.addPack pack).packs) : Ends after ∧ EndsKept base after := by
  have kept : CompletedKept base after := by
    have moved : CompletedKept base (base.changeCycle cycleId (fun _ => true) { week := next }) :=
      completed_changeCycle fun _ _ _ => rfl
    intro id isCompleted
    obtain ⟨row, found, now⟩ := moved id isCompleted
    exact ⟨row, cycles ▸ found, now⟩
  refine ⟨⟨weeks.1, fun id other found last delivered => ?_⟩, weeks.2, kept⟩
  rw [packs] at found
  rcases Table.of_find_insertUnless found with known | ⟨rfl, -⟩
  · exact kept _ (ends.finished id other known last delivered)
  · obtain ⟨-, -, -, -, -, queued, empty⟩ := claimed.place
    simp [Delivered, queued, empty, isCompletedPackStatus] at delivered

/-! ### Deliveries -/

/-- The tables that matter here are as they were. -/
def Beside (pending : World → World) : Prop :=
  ∀ world, (pending world).cycles = world.cycles ∧ (pending world).contexts = world.contexts ∧
    (pending world).packs = world.packs

theorem asks_createItems_beside (packId : Uuid) (items : List ContentItemVersionDraft) :
    Asks (fun asked : Statement => ∀ choice view effect,
      exec around pid choice asked view = .ok effect →
      ∀ pending, Beside pending → Beside fun world => effect.write (pending world))
      (createItems packId items) := by
  have outside : ∀ asked : Statement, asked.area = some .items ∨ asked.area = some .versions →
      ∀ choice view effect, exec around pid choice asked view = .ok effect →
        ∀ pending, Beside pending → Beside fun world => effect.write (pending world) := by
    intro asked area choice view effect executed pending beside world
    have same := sameBut_of_exec executed (pending world)
    obtain ⟨cycles, contexts, packs⟩ := beside world
    have notCycles : asked.area ≠ some .cycles := by rcases area with area | area <;> simp [area]
    have notContexts : asked.area ≠ some .contexts := by
      rcases area with area | area <;> simp [area]
    have notPacks : asked.area ≠ some .packs := by rcases area with area | area <;> simp [area]
    exact ⟨(same.cycles notCycles).trans cycles, (same.contexts notContexts).trans contexts,
      (same.packs notPacks).trans packs⟩
  induction items with
  | nil => exact asks_pure ()
  | cons draft rest inductionHypothesis =>
      refine asks_bind (asks_ask (outside _ (.inl rfl))) fun _ => ?_
      refine asks_bind (asks_ask (outside _ (.inr rfl))) fun _ => ?_
      exact asks_bind (asks_ask (outside _ (.inl rfl))) fun _ => inductionHypothesis

/-- The pack is in the week that its delivery is told. -/
def InWeek (packId cycleId : Uuid) (week : Nat) (world : World) : Prop :=
  ∃ pack, world.packs.find packId = some pack ∧ pack.contentCycleId = cycleId ∧
    pack.weekNumber = week

theorem held_inWeek {packId cycleId : Uuid} {week : Nat} {opened : Session World Key} :
    (completion around).Held pid opened (InWeek packId cycleId week) :=
  held_of_rely fun before after kept inWeek => by
    obtain ⟨pack, found, sameCycle, sameWeek⟩ := inWeek
    obtain ⟨later, foundLater, place⟩ := kept.weeks.packs packId pack found
    exact ⟨later, foundLater, place.cycle.trans sameCycle, place.week.trans sameWeek⟩

/-- A delivery whose cycle is completed if the week is the last. -/
theorem finishing_deliverPack {base : World} {packId : Uuid} {allowed : ContentPack → Bool}
    {data : PackData} (done : ∀ pack, base.packs.find packId = some pack →
      pack.weekNumber = contentWeekCount → Completed base pack.contentCycleId) :
    Finishing base (base.changePack packId allowed data) where
  toOrderly := orderly_changePack base
  completed := fun _ isCompleted => isCompleted
  delivered := by
    intro other pack found last delivered
    obtain ⟨old, known, rfl⟩ := World.of_find_changePack found
    split at delivered
    · next matching =>
      simp only [Bool.and_eq_true, decide_eq_true_eq] at matching
      obtain rfl : other = packId := (Table.key_of_find known).symm.trans matching.1
      rw [if_pos (by simpa using matching)] at last ⊢
      exact .inr (done old known last)
    · exact .inl ⟨old, known, delivered⟩

theorem finishing_beside {pending : World → World} (beside : Beside pending) (base : World) :
    Finishing base (pending base) :=
  finishing_of_same (beside base).1 (beside base).2.1 (beside base).2.2

/-- The pack that is delivered is that of the cycle. -/
theorem known_deliver {pending : World → World} (beside : Beside pending) {base : World}
    {packId cycleId : Uuid} {week : Nat} (inWeek : InWeek packId cycleId week base) (pack : ContentPack)
    (found : (pending base).packs.find packId = some pack) : pack.contentCycleId = cycleId := by
  obtain ⟨known, foundKnown, sameCycle, -⟩ := inWeek
  rw [(beside base).2.2] at found
  obtain rfl := Option.some.inj (found.symm.trans foundKnown)
  exact sameCycle

theorem lands_of_finishing {fact : World → Prop} {write : World → World}
    (finishing : ∀ base, Ends base → fact base → Finishing base (write base)) :
    (completion around).Lands pid fact write := fun base ends given =>
  ⟨(finishing base ends given).ends ends, fun _ _ => (finishing base ends given).endsKept⟩

/-- Every statement but those of a claim, of an advance and of a delivery. -/
theorem isFinishing_of_part {asked : Statement}
    (apart : asked.part ∉ [.claim, .advance, .deliver]) : Statement.isFinishing asked := by
  cases asked <;> first | trivial | (simp [Statement.part] at apart; done) | skip
  case markPackStatus id current next =>
    show isCompletedPackStatus next = false
    cases idle : isCompletedPackStatus next with
    | false => rfl
    | true => simp [Statement.part, idle] at apart

theorem spares_of_part (part : Part) (apart : part ∉ [.claim, .advance, .deliver])
    (asked : Statement) (same : asked.part = part) : (completion around).Spares pid call asked := by
  subst same
  exact spares_of_isFinishing (isFinishing_of_part apart)

theorem spares_of_shared (asked : Statement) (isShared : asked.part = .shared) :
    (completion around).Spares pid call asked := spares_of_part .shared (by decide) asked isShared

/-- The cycle is active in its last week. -/
def isEnding (row : ContentCycle) : Bool :=
  row.status = .active && (some contentWeekCount).all (row.currentWeekNumber = ·)

/-- The cycle that is completed in its last week. -/
theorem completed_ending {base pending : World} {cycleId : Uuid}
    (unwritten : pending.cycles = base.cycles)
    (ending : (base.cycles.find cycleId).any isEnding = true) :
    Completed (pending.changeCycle cycleId isEnding { status := some .completed }) cycleId := by
  obtain ⟨cycle, found, isEnding⟩ := (Option.any_eq_true _ _).mp ending
  rw [← unwritten] at found
  have sameId : cycle.id = cycleId := Table.key_of_find found
  refine ⟨_, World.find_changeCycle found, ?_⟩
  simp [sameId, isEnding, CycleData.apply]

theorem completeCycle_cases {choice : Nat} {cycleId : Uuid} {view : World}
    {effect : Effect World Key Unit}
    (executed : exec around pid choice (.completeCycle cycleId (some contentWeekCount)) view =
      .ok effect) :
    (view.cycles.find cycleId).any isEnding = true ∧ effect = ⟨(),
        (World.changeCycle · cycleId isEnding { status := some .completed }), [.cycle cycleId]⟩ ∨
      (view.cycles.find cycleId).any isEnding = false ∧ effect = ⟨(), fun world => world, []⟩ := by
  simp only [exec] at executed
  split at executed
  · next done executedWhen =>
    cases executed
    rcases updateWhen_cases executedWhen with ⟨hit, rfl⟩ | ⟨missed, rfl⟩
    · exact .inl ⟨hit, rfl⟩
    · exact .inr ⟨missed, rfl⟩
  · cases executed

/-- The completion of a cycle in its last week: it is active and stays so until the commit, or
it was completed before. -/
theorem closes_completeCycle {α : Type} {packId cycleId : Uuid} {opened : Session World Key}
    {next : Unit → Code α} (unwritten : ∀ base, (opened.pending base).cycles = base.cycles)
    (completes : ClosesHeld (completion around) pid call
      (opened.extend ⟨(), (World.changeCycle · cycleId isEnding { status := some .completed }),
        [.cycle cycleId]⟩)
      (fun base => InWeek packId cycleId contentWeekCount base ∧
        (base.cycles.find cycleId).any isEnding = true) (next ()))
    (completed : ClosesHeld (completion around) pid call (opened.extend ⟨(), fun world => world, []⟩)
      (fun base => InWeek packId cycleId contentWeekCount base ∧ Completed base cycleId)
      (next ())) :
    (completion around).Closes pid call opened (InWeek packId cycleId contentWeekCount)
      (ask (.completeCycle cycleId (some contentWeekCount)) >>= next) := by
  refine closes_ask fun choice world effect admitted executed ends given => ?_
  have kept : ∀ {γ : Type} (done : Effect World Key γ), (completion around).Held pid
      (opened.extend done) (InWeek packId cycleId contentWeekCount) := fun _ => held_inWeek
  have executed : exec around pid choice (.completeCycle cycleId (some contentWeekCount))
    (opened.pending world) = .ok effect := executed
  obtain ⟨hit, rfl⟩ | ⟨missed, rfl⟩ := completeCycle_cases executed
  · rw [unwritten] at hit
    have held := (kept ⟨(), (World.changeCycle · cycleId isEnding { status := some .completed }),
      [.cycle cycleId]⟩).and (held_cycle (fun row => row.any isEnding = true)
        (List.mem_append_left _ (List.mem_singleton_self _)))
    exact ⟨_, ⟨given, hit⟩, held, completes held⟩
  · rw [unwritten] at missed
    obtain ⟨pack, found, rfl, sameWeek⟩ := id given
    obtain ⟨cycle, foundCycle, -, inTime⟩ := ends.ordered.inTurn packId pack found
    have atEnd : cycle.currentWeekNumber = contentWeekCount :=
      le_antisymm (ends.ordered.bounded _ cycle foundCycle) (sameWeek ▸ inTime)
    have unpaused : cycle.status ≠ .paused :=
      admitted _ _ rfl cycle (by rw [unwritten]; exact foundCycle)
    have inactive : cycle.status ≠ .active := by
      simpa [foundCycle, isEnding, atEnd] using missed
    have isCompleted : Completed world pack.contentCycleId := by
      refine ⟨cycle, foundCycle, ?_⟩
      cases status : cycle.status <;> simp_all
    have held := (kept ⟨(), fun world => world, []⟩).and
      (held_of_rely fun _ _ rely => rely.completed pack.contentCycleId)
    exact ⟨_, ⟨given, isCompleted⟩, held, completed held⟩

/-- The delivery of a pack, which completes the cycle after its last week. -/
theorem maintains_deliver {packId cycleId : Uuid} {week : Nat}
    {items : List ContentItemVersionDraft} : (completion around).Maintains pid call
      (Program.transaction (deliverItems packId cycleId week items)) := by
  refine maintains_of_closes ?_
  unfold deliverItems
  refine closes_read (fun _ _ => rfl) fun world _ _ => ?_
  by_cases inWeek : InWeek packId cycleId week world
  swap
  · refine ⟨fun _ => True, trivial, held_true, closes_orThrow fun pack found => ?_⟩
    refine closes_require fun same => absurd ⟨pack, found, ?_⟩ inWeek
    simpa using same
  refine ⟨InWeek packId cycleId week, inWeek, held_inWeek, closes_orThrow fun pack _ => ?_⟩
  refine closes_require fun _ => closes_require fun _ => ?_
  have started : Beside (id : World → World) := fun _ => ⟨rfl, rfl, rfl⟩
  refine closes_through (asks_createItems_beside packId items) started held_inWeek ?_
  intro opened _ beside _ held
  refine closes_ask fun choice world effect _ executed _ given => ?_
  rcases updateWhen_cases executed with ⟨-, rfl⟩ | ⟨-, rfl⟩
  swap
  · exact ⟨_, given, held.extend, closes_require nofun⟩
  refine ⟨_, given, held.extend, closes_require fun _ => ?_⟩
  have events : Asks ((completion around).Spares pid call) (appendEvent packId "ready" .complete) :=
    asks_appendEvent spares_of_shared _ _ _
  split
  · next last =>
    subst last
    refine closes_completeCycle (fun base => (beside base).1) (fun held => ?_) fun held => ?_
    · refine closes_of_asks events (lands_of_finishing fun base ends given => ?_) held
      have delivered := known_deliver beside given.1
      -- The write of the cycle and that of the pack commute.
      have closed : Finishing base
          ((opened.pending base).changeCycle cycleId isEnding { status := some .completed }) :=
        (finishing_beside beside base).trans (finishing_changeCycle (orderly_sameWeek rfl _)
          fun _ _ _ => rfl)
      refine closed.trans (finishing_deliverPack fun pack found _ => ?_)
      rw [delivered pack found]
      exact completed_ending (beside base).1 given.2
    · refine closes_of_asks events (lands_of_finishing fun base ends given => ?_) held
      have delivered := known_deliver beside given.1
      refine (finishing_beside beside base).trans (finishing_deliverPack fun pack found _ => ?_)
      rw [delivered pack found]
      exact (finishing_beside beside base).completed _ given.2
  · next early =>
    refine closes_of_asks events (lands_of_finishing fun base ends given => ?_) held.extend
    refine (finishing_beside beside base).trans (finishing_deliverPack fun pack found last => ?_)
    obtain ⟨other, known, -, sameWeek⟩ := given
    rw [(beside base).2.2] at found
    obtain rfl := Option.some.inj (found.symm.trans known)
    exact absurd (sameWeek.symm.trans last) early

theorem maintains_claim {cycleId : Uuid} {week : Nat} {weekContextId : Uuid} {jobIntent : Bool}
    (positive : 1 ≤ week) (bounded : week ≤ contentWeekCount) :
    (completion around).Maintains pid call
      (Program.transaction (queuePack cycleId week weekContextId jobIntent)) := by
  refine maintains_queuePack fun base cycle now pack intent ends claimed eligible => ?_
  have kept : Ends (base.claimV1 cycleId week weekContextId now pack intent) ∧
      EndsKept base (base.claimV1 cycleId week weekContextId now pack intent) := by
    refine @ends_claim _ _ _ _ _ _ _ _ _ (some week) ends claimed
      (ordered_claimV1 now intent ends.ordered claimed eligible positive bounded) ?_ ?_
    all_goals simp [World.claimV1, World.changeCycle, World.addPack, World.freezeContext,
      World.changeContext]
  exact ⟨kept.1, fun _ _ => kept.2⟩

theorem maintains_claimV2 {input : ClaimInput} (positive : 1 ≤ input.weekNumber) :
    (completion around).Maintains pid call (Program.transaction (queuePackV2 input)) := by
  refine maintains_queuePackV2 (Notes.nothing input) ?_
  intro base cycle now pack intent ends claimed
  have kept : Ends (base.claimV2 input now pack intent) ∧
      EndsKept base (base.claimV2 input now pack intent) := by
    refine @ends_claim _ _ _ _ _ _ _ _ _ none ends claimed.toClaimed
      (ordered_claimV2 now intent ends.ordered claimed.toClaimed claimed.current positive) ?_ ?_
    all_goals simp [World.claimV2, World.changeCycle, World.addPack, World.freezeContext,
      World.changeContext, World.freezePlan]
  exact ⟨kept.1, fun _ _ => kept.2⟩

/-! ### Every run -/

theorem operations : Operations
    (fun _ program => (completion around).Maintains pid call program) fun _ => True where
  toComposable := composable_maintains (completion around) pid call
  shared asked isShared := (spares_of_shared asked isShared).maintains
  asks body := maintains_of_asks (asks_mono body spares_of_shared)
  claim _ _ _ _ positive bounded := maintains_claim positive bounded
  claimV2 _ _ positive _ := maintains_claimV2 positive
  advance _ expected := maintains_of_asks (asks_rollOver spares_of_shared
    (spares_of_isFinishing trivial) (fun _ early => spares_of_isFinishing early) expected)
  replace _ _ _ _ := maintains_of_asks
    (asks_replacePlan spares_of_shared (spares_of_part .replace (by decide)) _ _ _ _)
  createCycle _ _ _ := maintains_of_asks (asks_bind (asks_ask (spares_of_shared _ rfl)) fun _ =>
    asks_bind (asks_ask (spares_of_shared _ rfl)) fun _ => asks_pure _)
  deliver _ _ _ _ _ := maintains_deliver
  fail _ _ := maintains_of_asks (asks_safeFail spares_of_shared (spares_of_part .fail (by decide)) _ _)

theorem safe : (completion around).Safe fun _ _ => True :=
  safe_of_maintains fun _ call _ _ _ =>
    operations.program around call (fun _ _ _ _ _ => trivial) fun _ _ => trivial

/-- However calls interleave, if every delivery of a last week finds its cycle not paused, then the
cycle of a delivered last week is completed; and a completed cycle always stays completed. -/
theorem finished_cycle_completed (around : Surroundings) :
    (∀ machine, Reaches (system around) discipline World.empty machine →
      ∀ id pack cycle, machine.world.packs.find id = some pack →
        pack.weekNumber = contentWeekCount → Delivered pack →
        machine.world.cycles.find pack.contentCycleId = some cycle → cycle.status = .completed) ∧
    ∀ machine, Reaches (system around) .free World.empty machine →
      ∀ after, Onward (system around) .free machine after →
        CompletedKept machine.world after.world := by
  refine ⟨fun machine reached id pack cycle found last delivered foundCycle => ?_,
    fun machine reached after onward => ?_⟩
  · have ends : Ends machine.world :=
      invariant_of_reaches safe ⟨weeks_empty, nofun⟩ reached
    obtain ⟨completed, known, isCompleted⟩ := ends.finished id pack found last delivered
    obtain rfl := Option.some.inj (foundCycle.symm.trans known)
    exact isCompleted
  · exact related_of_onward (fun _ _ isCompleted => isCompleted)
      (fun _ _ _ left right id isCompleted => right id (left id isCompleted))
      (fun _ _ _ _ _ _ _ _ executed => completed_of_exec executed)
      (fun _ _ => Program.uses_anything _) reached onward

/-- The weeks pass until the last one, which is planned; its job is taken up. -/
def lastWeekMoves : List (Move Call) :=
  alone 0 (.createCycle (plainCycle .contentV2) 8 structuralContent) 4 ++
  ((List.range 11).flatMap fun passed =>
    alone (passed + 1) (.advanceToNextWeek 0 (passed + 1)) 7) ++
  alone 12 (.createOrReplaceWeekPlan 0 12 (plainPosts "news" [1, 2, 3]) 8) 8 ++
  alone 13 (.generateWeek 0 12 8) 23 ++ alone 14 (.turnJob (.generate .contentV2 0) .active) 1

/-- The statement passes if it does not complete a paused cycle. -/
def passes (_ : Pid) (_ : Call) : Statement → World → Bool
  | .completeCycle id (some _), world => (world.cycles.find id).all (·.status ≠ .paused)
  | _, _ => true

theorem admits_of_passes (pid : Pid) (call : Call) (asked : Statement) (world : World)
    (passing : passes pid call asked world = true) : discipline.admits pid call asked world := by
  rintro id week rfl cycle found
  simpa [passes, found] using passing

/-- The last week of an active cycle completes it. -/
theorem last_week_completes : ∃ machine pack cycle,
    Reaches (system plainSurroundings) discipline World.empty machine ∧
    machine.world.packs.find 0 = some pack ∧ machine.world.cycles.find 0 = some cycle ∧
    cycle.status = .completed := by
  have played : ((system plainSurroundings).playChecked passes (.idle World.empty)
      (lastWeekMoves ++ alone 15 (.process ⟨.contentV2, 0, 12, 0⟩ 0) 34)).map (fun machine =>
        ((machine.world.packs.find 0).map fun pack =>
          (pack.weekNumber, pack.itemIds.isEmpty, pack.contentCycleId),
          (machine.world.cycles.find 0).isSome)) = some (some (12, false, 0), true) := by
    decide +kernel
  obtain ⟨machine, moved, observed⟩ := Option.map_eq_some_iff.mp played
  obtain ⟨isPack, isCycle⟩ := Prod.mk.inj observed
  obtain ⟨pack, found, shape⟩ := Option.map_eq_some_iff.mp isPack
  obtain ⟨cycle, foundCycle⟩ := Option.isSome_iff_exists.mp isCycle
  obtain ⟨last, isItem, sameCycle⟩ := by simpa only [Prod.mk.injEq] using shape
  have delivered : Delivered pack := .inl (by simpa using isItem)
  have reached : Reaches (system plainSurroundings) discipline World.empty machine :=
    Reaches.playChecked (fun _ => trivial) rfl admits_of_passes Reaches.idle moved
  exact ⟨machine, pack, cycle, reached, found, foundCycle,
    (finished_cycle_completed plainSurroundings).1 machine reached 0 pack cycle found last delivered
      (sameCycle ▸ foundCycle)⟩

/-- A last week that is delivered while its cycle is paused leaves the cycle active once it is
resumed. -/
theorem paused_cycle_unfinished : ¬∀ around machine,
    Reaches (system around) .free World.empty machine →
      ∀ id pack cycle, machine.world.packs.find id = some pack →
        pack.weekNumber = contentWeekCount → Delivered pack →
        machine.world.cycles.find pack.contentCycleId = some cycle → cycle.status ≠ .paused →
        cycle.status = .completed := by
  intro claimed
  have played : ((system plainSurroundings).play (.idle World.empty)
      (lastWeekMoves ++ alone 15 (.pauseCycle 0 8 "away") 4 ++
        alone 16 (.process ⟨.contentV2, 0, 12, 0⟩ 0) 34 ++ alone 17 (.resumeCycle 0 8) 4)).map
      (fun machine => ((machine.world.packs.find 0).map fun pack =>
          (pack.weekNumber, pack.itemIds.isEmpty, pack.contentCycleId),
          (machine.world.cycles.find 0).map ContentCycle.status)) =
      some (some (12, false, 0), some .active) := by
    decide +kernel
  obtain ⟨machine, reached, observed⟩ := Reaches.of_play played
  obtain ⟨isPack, isCycle⟩ := Prod.mk.inj observed
  obtain ⟨pack, found, shape⟩ := Option.map_eq_some_iff.mp isPack
  obtain ⟨cycle, foundCycle, active⟩ := Option.map_eq_some_iff.mp isCycle
  obtain ⟨last, isItem, sameCycle⟩ := by simpa only [Prod.mk.injEq] using shape
  have delivered : Delivered pack := .inl (by simpa using isItem)
  have completed := claimed plainSurroundings machine reached 0 pack cycle found last delivered
    (sameCycle ▸ foundCycle) (by simp [active])
  simp [active] at completed

end MarketMind.Content.Completion
