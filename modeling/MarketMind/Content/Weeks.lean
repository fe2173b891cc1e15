import MarketMind.Content.Guards
import MarketMind.Content.Programs
import MarketMind.Transactions.Onward

/-!
Owns the order of weekly claims: one pack for each week of a cycle, no week before its turn, and
for each claimed week a context that is frozen for good.

Does not own what becomes of a claimed pack.
-/

namespace MarketMind.Content.Weeks

open MarketMind.Transactions
open MarketMind.Transactions.Protocol
open MarketMind.Transactions.Store (asks_ask asks_bind asks_pure)

/-! ### The order of weeks -/

/-- A pack stays where it was claimed. -/
structure SamePlace (pack later : ContentPack) : Prop where
  cycle : later.contentCycleId = pack.contentCycleId
  week : later.weekNumber = pack.weekNumber
  context : later.weekContextId = pack.weekContextId

structure WeeksInOrder (world : World) : Prop where
  unique : ∀ id other pack rival, world.packs.find id = some pack →
    world.packs.find other = some rival → pack.contentCycleId = rival.contentCycleId →
    pack.weekNumber = rival.weekNumber → id = other
  inTurn : ∀ id pack, world.packs.find id = some pack →
    ∃ cycle, world.cycles.find pack.contentCycleId = some cycle ∧
      1 ≤ pack.weekNumber ∧ pack.weekNumber ≤ cycle.currentWeekNumber
  bounded : ∀ id cycle, world.cycles.find id = some cycle →
    cycle.currentWeekNumber ≤ contentWeekCount
  frozen : ∀ id pack, world.packs.find id = some pack →
    ∃ context, world.contexts.find pack.weekContextId = some context ∧
      context.ofWeek pack.contentCycleId pack.weekNumber = true ∧ context.frozenAt.isSome = true

/-- The current week never decreases, a claim stays, and a frozen context never changes. -/
structure WeeksKept (before after : World) : Prop where
  cycles : ∀ id cycle, before.cycles.find id = some cycle →
    ∃ later, after.cycles.find id = some later ∧
      cycle.currentWeekNumber ≤ later.currentWeekNumber
  packs : ∀ id pack, before.packs.find id = some pack →
    ∃ later, after.packs.find id = some later ∧ SamePlace pack later
  contexts : ∀ id context, before.contexts.find id = some context →
    context.frozenAt.isSome = true → after.contexts.find id = some context

theorem weeks_empty : WeeksInOrder World.empty where
  unique _ _ _ _ found := by cases found
  inTurn _ _ found := by cases found
  bounded _ _ found := by cases found
  frozen _ _ found := by cases found

theorem weeksKept_refl (world : World) : WeeksKept world world where
  cycles _ cycle found := ⟨cycle, found, le_rfl⟩
  packs _ pack found := ⟨pack, found, rfl, rfl, rfl⟩
  contexts _ _ found _ := found

theorem weeksKept_trans {first second third : World} (left : WeeksKept first second)
    (right : WeeksKept second third) : WeeksKept first third where
  cycles := by
    intro id cycle found
    obtain ⟨between, foundBetween, low⟩ := left.cycles id cycle found
    obtain ⟨later, foundLater, high⟩ := right.cycles id between foundBetween
    exact ⟨later, foundLater, low.trans high⟩
  packs := by
    intro id pack found
    obtain ⟨between, foundBetween, near⟩ := left.packs id pack found
    obtain ⟨later, foundLater, far⟩ := right.packs id between foundBetween
    exact ⟨later, foundLater, far.cycle.trans near.cycle, far.week.trans near.week,
      far.context.trans near.context⟩
  contexts id context found isFrozen :=
    right.contexts id context (left.contexts id context found isFrozen) isFrozen

/-- Every call keeps the order, and relies on what it keeps. -/
def weeks (around : Surroundings) : Protocol (system around) where
  discipline := .free
  invariant := WeeksInOrder
  rely := fun _ => WeeksKept
  rely_refl _ := weeksKept_refl
  rely_trans _ := weeksKept_trans

/-! ### Changes that keep the order -/

/-- What a change of the three tables owes. -/
structure Orderly (before after : World) : Prop extends WeeksKept before after where
  bounded : (∀ id cycle, before.cycles.find id = some cycle →
      cycle.currentWeekNumber ≤ contentWeekCount) →
    ∀ id cycle, after.cycles.find id = some cycle → cycle.currentWeekNumber ≤ contentWeekCount
  known : ∀ id pack, after.packs.find id = some pack →
    ∃ prior, before.packs.find id = some prior ∧ SamePlace prior pack

theorem Orderly.keeps {before after : World} (orderly : Orderly before after)
    (ordered : WeeksInOrder before) : WeeksInOrder after where
  unique := by
    intro id other pack rival found foundRival sameCycle sameWeek
    obtain ⟨prior, known, place⟩ := orderly.known id pack found
    obtain ⟨priorRival, knownRival, placeRival⟩ := orderly.known other rival foundRival
    refine ordered.unique id other prior priorRival known knownRival ?_ ?_
    · rw [← place.cycle, ← placeRival.cycle, sameCycle]
    · rw [← place.week, ← placeRival.week, sameWeek]
  inTurn := by
    intro id pack found
    obtain ⟨prior, known, place⟩ := orderly.known id pack found
    obtain ⟨cycle, foundCycle, positive, inTime⟩ := ordered.inTurn id prior known
    obtain ⟨later, foundLater, grows⟩ := orderly.cycles _ cycle foundCycle
    rw [place.cycle, place.week]
    exact ⟨later, foundLater, positive, inTime.trans grows⟩
  bounded := orderly.bounded ordered.bounded
  frozen := by
    intro id pack found
    obtain ⟨prior, known, place⟩ := orderly.known id pack found
    obtain ⟨context, foundContext, ofWeek, isFrozen⟩ := ordered.frozen id prior known
    rw [place.cycle, place.week, place.context]
    exact ⟨context, orderly.contexts _ context foundContext isFrozen, ofWeek, isFrozen⟩

variable {around : Surroundings} {pid : Pid} {call : Call}

theorem lands_of_orderly {fact : World → Prop} {write : World → World}
    (orderly : ∀ base, WeeksInOrder base → fact base → Orderly base (write base)) :
    (weeks around).Lands pid fact write := by
  intro base holds given
  have isOrderly := orderly base holds given
  exact ⟨isOrderly.keeps holds, fun _ _ => isOrderly.toWeeksKept⟩

theorem orderly_refl (world : World) : Orderly world world where
  toWeeksKept := weeksKept_refl world
  bounded := id
  known _ pack found := ⟨pack, found, rfl, rfl, rfl⟩

/-- A change beside the three tables. -/
theorem orderly_of_same {before after : World} (cycles : after.cycles = before.cycles)
    (contexts : after.contexts = before.contexts) (packs : after.packs = before.packs) :
    Orderly before after where
  cycles _ cycle found := ⟨cycle, cycles ▸ found, le_rfl⟩
  packs _ pack found := ⟨pack, packs ▸ found, rfl, rfl, rfl⟩
  contexts _ _ found _ := contexts ▸ found
  bounded limits := cycles ▸ limits
  known _ pack found := ⟨pack, packs ▸ found, rfl, rfl, rfl⟩

theorem orderly_addCycle (base : World) {row : ContentCycle}
    (early : row.currentWeekNumber ≤ contentWeekCount) :
    Orderly base { base with cycles := base.cycles.insert row } where
  cycles _ cycle found := ⟨cycle, Table.find_insert_of_found found, le_rfl⟩
  packs _ pack found := ⟨pack, found, rfl, rfl, rfl⟩
  contexts _ _ found _ := found
  bounded := by
    intro limits id cycle found
    rcases Table.of_find_insert found with known | ⟨rfl, -⟩
    · exact limits id cycle known
    · exact early
  known _ pack found := ⟨pack, found, rfl, rfl, rfl⟩

theorem orderly_changeCycle {base : World} {id : Uuid} {allowed : ContentCycle → Bool}
    {data : CycleData} (advances : ∀ row, base.cycles.find id = some row → allowed row = true →
      ∀ week, data.week = some week → row.currentWeekNumber ≤ week ∧ week ≤ contentWeekCount) :
    Orderly base (base.changeCycle id allowed data) where
  cycles := by
    intro other cycle found
    refine ⟨_, World.find_changeCycle found, ?_⟩
    split
    · next matching =>
      simp only [Bool.and_eq_true, decide_eq_true_eq] at matching
      obtain rfl : other = id := (Table.key_of_find found).symm.trans matching.1
      cases moves : data.week with
      | none => simp [CycleData.apply, moves]
      | some week => simpa [CycleData.apply, moves] using
          (advances cycle found matching.2 week moves).1
    · exact le_rfl
  packs _ pack found := ⟨pack, found, rfl, rfl, rfl⟩
  contexts _ _ found _ := found
  bounded := by
    intro limits other cycle found
    obtain ⟨old, known, rfl⟩ := World.of_find_changeCycle found
    split
    · next matching =>
      simp only [Bool.and_eq_true, decide_eq_true_eq] at matching
      obtain rfl : other = id := (Table.key_of_find known).symm.trans matching.1
      cases moves : data.week with
      | none => simpa [CycleData.apply, moves] using limits other old known
      | some week => simpa [CycleData.apply, moves] using
          (advances old known matching.2 week moves).2
    · exact limits other old known
  known _ pack found := ⟨pack, found, rfl, rfl, rfl⟩

theorem orderly_addContext (base : World) (row : ContentWeekContext) :
    Orderly base (base.addContext row) where
  cycles _ cycle found := ⟨cycle, found, le_rfl⟩
  packs _ pack found := ⟨pack, found, rfl, rfl, rfl⟩
  contexts _ _ found _ := Table.find_insertUnless_of_found found
  bounded limits := limits
  known _ pack found := ⟨pack, found, rfl, rfl, rfl⟩

/-- Only a context that is still open is changed. -/
theorem orderly_changeContext (base : World) {id : Uuid} {allowed : ContentWeekContext → Bool}
    {change : ContentWeekContext → ContentWeekContext} {sameId : ∀ row, (change row).id = row.id}
    (open' : ∀ row, allowed row = true → row.frozenAt = none) :
    Orderly base (base.changeContext id allowed change sameId) where
  cycles _ cycle found := ⟨cycle, found, le_rfl⟩
  packs _ pack found := ⟨pack, found, rfl, rfl, rfl⟩
  contexts := by
    intro other context found isFrozen
    refine (World.find_changeContext found).trans ?_
    split
    · next matching =>
      rw [open' context ((Bool.and_eq_true ..).mp matching).2] at isFrozen
      cases isFrozen
    · rfl
  bounded limits := limits
  known _ pack found := ⟨pack, found, rfl, rfl, rfl⟩

theorem samePlace_apply (data : PackData) (pack : ContentPack) : SamePlace pack (data.apply pack) :=
  ⟨rfl, rfl, rfl⟩

theorem orderly_changePack (base : World) {id : Uuid} {allowed : ContentPack → Bool}
    {data : PackData} : Orderly base (base.changePack id allowed data) where
  cycles _ cycle found := ⟨cycle, found, le_rfl⟩
  packs := by
    intro other pack found
    refine ⟨_, World.find_changePack found, ?_⟩
    split
    · exact samePlace_apply data pack
    · exact ⟨rfl, rfl, rfl⟩
  contexts _ _ found _ := found
  bounded limits := limits
  known := by
    intro other pack found
    obtain ⟨old, known, rfl⟩ := World.of_find_changePack found
    refine ⟨old, known, ?_⟩
    split
    · exact samePlace_apply data old
    · exact ⟨rfl, rfl, rfl⟩

/-! ### Statements that keep the order -/

/-- The statements that keep the order wherever they land: the others are those of a claim. -/
def Statement.inOrder : Statement → Prop
  | .createPack _ | .updateCycle _ (some _) => False
  | .advanceCycle _ week => week < contentWeekCount
  | _ => True

private theorem orderly_updateWhen {hit : Bool} {keys : List Key} {write : World → World}
    {effect : Effect World Key Bool} (executed : updateWhen hit keys write = .ok effect)
    (orderly : ∀ base, Orderly base (write base)) (base : World) :
    Orderly base (effect.write base) := by
  rcases updateWhen_cases executed with ⟨-, rfl⟩ | ⟨-, rfl⟩
  · exact orderly base
  · exact orderly_refl base

/-- A change of a cycle that leaves its week. -/
theorem orderly_sameWeek {id : Uuid} {allowed : ContentCycle → Bool} {data : CycleData}
    (stays : data.week = none) (base : World) : Orderly base (base.changeCycle id allowed data) :=
  orderly_changeCycle fun _ _ _ _ moves => nomatch stays.symm.trans moves

theorem orderly_of_exec {choice : Nat} {asked : Statement} {view : World}
    {effect : Effect World Key asked.Reply} (inOrder : Statement.inOrder asked)
    (executed : exec around pid choice asked view = .ok effect) (base : World) :
    Orderly base (effect.write base) := by
  have same := sameBut_of_exec executed base
  by_cases concerned : asked.area ∈ [some Area.cycles, some .contexts, some .packs]
  swap
  · simp only [List.mem_cons, List.not_mem_nil, or_false, not_or] at concerned
    exact orderly_of_same (same.cycles concerned.1) (same.contexts concerned.2.1)
      (same.packs concerned.2.2)
  cases asked <;> simp [Statement.area] at concerned <;> simp only [exec] at executed
  case createCycle =>
    cases executed
    exact orderly_addCycle base (show 1 ≤ contentWeekCount by decide)
  case pauseCycle | resumeCycle => exact orderly_updateWhen executed (orderly_sameWeek rfl) base
  case completeCycle =>
    split at executed
    · next completed =>
      cases executed
      exact orderly_updateWhen completed (orderly_sameWeek rfl) base
    · cases executed
  case advanceCycle id week =>
    refine orderly_updateWhen executed (fun base => orderly_changeCycle ?_) base
    intro row _ allowed next same
    obtain rfl := Option.some.inj same
    have now : row.currentWeekNumber = week := by
      simpa using ((Bool.and_eq_true ..).mp allowed).1
    exact ⟨now ▸ Nat.le_succ _, inOrder⟩
  case updateCycle id week =>
    obtain ⟨-, -, rfl⟩ := ok_of_updateRow executed
    cases week with
    | none => exact orderly_sameWeek rfl base
    | some week => exact inOrder.elim
  case createContext =>
    obtain ⟨-, executed⟩ := ok_of_unless executed
    cases executed
    exact orderly_addContext base _
  case updateContext =>
    exact orderly_updateWhen executed (orderly_changeContext · (by simp)) base
  case freezeContext =>
    refine orderly_updateWhen executed (orderly_changeContext · ?_) base
    simp [ContentWeekContext.isOpenIn]
  case createPack => exact inOrder.elim
  case claimPack | markPackStatus | deliverPack =>
    exact orderly_updateWhen executed (orderly_changePack ·) base
  case failPack | setRetryEligible =>
    obtain ⟨-, -, rfl⟩ := ok_of_updateRow executed
    exact orderly_changePack base

theorem spares_of_inOrder {asked : Statement} (inOrder : Statement.inOrder asked) :
    (weeks around).Spares pid call asked := fun _ _ _ _ executed =>
  lands_of_orderly fun base _ _ => orderly_of_exec inOrder executed base

/-! ### Claims -/

/-- A pack for a week that is due, whose context is frozen. -/
theorem ordered_addPack {base : World} {pack : ContentPack} {cycle : ContentCycle}
    {context : ContentWeekContext} (ordered : WeeksInOrder base)
    (free : base.packs.keysOf (ContentPack.ofWeek pack.contentCycleId pack.weekNumber) = [])
    (fresh : base.packs.find pack.id = none)
    (found : base.cycles.find pack.contentCycleId = some cycle) (positive : 1 ≤ pack.weekNumber)
    (inTime : pack.weekNumber ≤ cycle.currentWeekNumber)
    (foundContext : base.contexts.find pack.weekContextId = some context)
    (ofWeek : context.ofWeek pack.contentCycleId pack.weekNumber = true)
    (isFrozen : context.frozenAt.isSome = true) :
    WeeksInOrder (base.addPack pack) ∧ WeeksKept base (base.addPack pack) := by
  have alone : ∀ id rival, base.packs.find id = some rival →
      ¬(rival.contentCycleId = pack.contentCycleId ∧ rival.weekNumber = pack.weekNumber) := by
    intro id rival known same
    have member : id ∈ base.packs.keysOf (ContentPack.ofWeek pack.contentCycleId pack.weekNumber) :=
      Table.mem_keysOf.mpr ⟨rival, known, ContentPack.ofWeek_iff.mpr same⟩
    rw [free] at member
    cases member
  have cases' : ∀ id other, (base.addPack pack).packs.find id = some other →
      base.packs.find id = some other ∨ other = pack ∧ id = pack.id := by
    intro id other found
    exact (Table.of_find_insertUnless found).imp_right fun new => ⟨new.1, new.2.1⟩
  refine ⟨⟨?_, ?_, ordered.bounded, ?_⟩, ⟨fun _ cycle found => ⟨cycle, found, le_rfl⟩, ?_,
    fun _ _ found _ => found⟩⟩
  · intro id other first second foundFirst foundSecond sameCycle sameWeek
    rcases cases' id first foundFirst with known | ⟨rfl, rfl⟩
    · rcases cases' other second foundSecond with knownSecond | ⟨rfl, rfl⟩
      · exact ordered.unique id other first second known knownSecond sameCycle sameWeek
      · exact absurd ⟨sameCycle, sameWeek⟩ (alone id first known)
    · rcases cases' other second foundSecond with knownSecond | ⟨-, rfl⟩
      · exact absurd ⟨sameCycle.symm, sameWeek.symm⟩ (alone other second knownSecond)
      · rfl
  · intro id other isFound
    rcases cases' id other isFound with known | ⟨rfl, -⟩
    · exact ordered.inTurn id other known
    · exact ⟨cycle, found, positive, inTime⟩
  · intro id other isFound
    rcases cases' id other isFound with known | ⟨rfl, -⟩
    · exact ordered.frozen id other known
    · exact ⟨context, foundContext, ofWeek, isFrozen⟩
  · exact fun id other known => ⟨other, Table.find_insertUnless_of_found known, rfl, rfl, rfl⟩

/-- A claim moves the cycle to its week, freezes the context and adds the pack. -/
theorem ordered_claim {base after : World} {cycleId weekContextId : Uuid} {week : Nat}
    {contractVersion : ContractVersion} {weekPlanId : Option Uuid} {cycle : ContentCycle}
    {pack : ContentPack} (now : Instant) (next : Option Nat) (ordered : WeeksInOrder base)
    (claimed : Claimed cycleId week weekContextId contractVersion weekPlanId cycle pack base)
    (positive : 1 ≤ week)
    (moves : ∀ number, next = some number →
      cycle.currentWeekNumber ≤ number ∧ number ≤ contentWeekCount)
    (inTime : week ≤ next.getD cycle.currentWeekNumber)
    (cycles : after.cycles =
      (base.changeCycle cycleId (fun _ => true) { week := next }).cycles)
    (contexts : after.contexts = (base.freezeContext weekContextId cycleId week now).contexts)
    (packs : after.packs = (base.addPack pack).packs) :
    WeeksInOrder after ∧ WeeksKept base after := by
  obtain ⟨weekContext, row⟩ := claimed.row
  obtain ⟨context, foundContext, isOpen⟩ := (Option.any_eq_true ..).mp claimed.isOpen
  have moved : Orderly base (base.changeCycle cycleId (fun _ => true) { week := next }) := by
    refine orderly_changeCycle fun other found _ number same => ?_
    obtain rfl := Option.some.inj (claimed.found.symm.trans found)
    exact moves number same
  set middle := (base.changeCycle cycleId (fun _ => true) { week := next }).freezeContext
    weekContextId cycleId week now with isMiddle
  have froze : Orderly (base.changeCycle cycleId (fun _ => true) { week := next }) middle :=
    orderly_changeContext _ (by simp [ContentWeekContext.isOpenIn])
  have foundCycle : middle.cycles.find pack.contentCycleId =
      some (({ week := next } : CycleData).apply cycle) := by
    have sameId : cycle.id = cycleId := Table.key_of_find claimed.found
    rw [row]
    refine (World.find_changeCycle claimed.found).trans ?_
    simp [sameId]
  have foundFrozen : middle.contexts.find pack.weekContextId =
      some { context with frozenAt := some now } := by
    have sameId : context.id = weekContextId := Table.key_of_find foundContext
    rw [row]
    refine (World.find_changeContext foundContext).trans ?_
    simp [sameId, isOpen]
  have ofWeek : context.ofWeek cycleId week = true := ((Bool.and_eq_true ..).mp isOpen).1
  obtain ⟨orderedAfter, kept⟩ := ordered_addPack (froze.keeps (moved.keeps ordered))
    (by rw [row]; exact claimed.free) claimed.fresh foundCycle (by rw [row]; exact positive)
    (by rw [row]; exact inTime) foundFrozen (by rw [row]; exact ofWeek) rfl
  have same : Orderly (middle.addPack pack) after := orderly_of_same cycles contexts packs
  exact ⟨same.keeps orderedAfter, weeksKept_trans (weeksKept_trans moved.toWeeksKept
    froze.toWeeksKept) (weeksKept_trans kept same.toWeeksKept)⟩

theorem ordered_claimV1 {base : World} {cycleId weekContextId : Uuid} {week : Nat}
    {cycle : ContentCycle} {pack : ContentPack} (now : Instant) (intent : Option ContentJobOutbox)
    (ordered : WeeksInOrder base)
    (claimed : Claimed cycleId week weekContextId .contentV1 none cycle pack base)
    (eligible : isNextEligible cycle week = true) (positive : 1 ≤ week)
    (bounded : week ≤ contentWeekCount) :
    WeeksInOrder (base.claimV1 cycleId week weekContextId now pack intent) ∧
      WeeksKept base (base.claimV1 cycleId week weekContextId now pack intent) := by
  have due : cycle.currentWeekNumber ≤ week := by
    simp only [isNextEligible, Bool.or_eq_true, Bool.and_eq_true, decide_eq_true_eq] at eligible
    omega
  refine ordered_claim now (some week) ordered claimed positive ?_ (Nat.le_refl week) ?_ ?_ ?_
  · rintro number ⟨⟩
    exact ⟨due, bounded⟩
  all_goals simp [World.claimV1, World.changeCycle, World.addPack, World.freezeContext,
    World.changeContext]

theorem ordered_claimV2 {base : World} {input : ClaimInput} {cycle : ContentCycle}
    {pack : ContentPack} (now : Instant) (intent : Option ContentJobOutbox)
    (ordered : WeeksInOrder base)
    (claimed : Claimed input.cycleId input.weekNumber input.weekContextId .contentV2
      (some input.weekPlanId) cycle pack base)
    (current : input.weekNumber = cycle.currentWeekNumber) (positive : 1 ≤ input.weekNumber) :
    WeeksInOrder (base.claimV2 input now pack intent) ∧
      WeeksKept base (base.claimV2 input now pack intent) := by
  refine ordered_claim now none ordered claimed positive (fun _ absurdly => nomatch absurdly)
    current.le ?_ ?_ ?_
  all_goals simp [World.claimV2, World.changeCycle, World.addPack, World.freezeContext,
    World.changeContext, World.freezePlan]

/-! ### Every run -/

/-- Every statement but those of a claim and of an advance. -/
theorem inOrder_of_part {asked : Statement} (apart : asked.part ≠ .claim)
    (late : asked.part ≠ .advance) : Statement.inOrder asked := by
  cases asked <;> trivial

theorem spares_of_part (part : Part) (apart : part ≠ .claim) (late : part ≠ .advance)
    (asked : Statement) (same : asked.part = part) : (weeks around).Spares pid call asked :=
  spares_of_inOrder (inOrder_of_part (same ▸ apart) (same ▸ late))

theorem spares_of_shared (asked : Statement) (isShared : asked.part = .shared) :
    (weeks around).Spares pid call asked := spares_of_part .shared nofun nofun asked isShared

theorem maintains_claim {cycleId : Uuid} {week : Nat} {weekContextId : Uuid} {jobIntent : Bool}
    (positive : 1 ≤ week) (bounded : week ≤ contentWeekCount) : (weeks around).Maintains pid call
      (Program.transaction (queuePack cycleId week weekContextId jobIntent)) := by
  refine maintains_queuePack fun base cycle now pack intent ordered claimed eligible => ?_
  have kept := ordered_claimV1 now intent ordered claimed eligible positive bounded
  exact ⟨kept.1, fun _ _ => kept.2⟩

theorem maintains_claimV2 {input : ClaimInput} (positive : 1 ≤ input.weekNumber) :
    (weeks around).Maintains pid call (Program.transaction (queuePackV2 input)) := by
  refine maintains_queuePackV2 (Notes.nothing input) ?_
  intro base cycle now pack intent ordered claimed
  have kept := ordered_claimV2 now intent ordered claimed.toClaimed claimed.current positive
  exact ⟨kept.1, fun _ _ => kept.2⟩

theorem operations : Operations
    (fun _ program => (weeks around).Maintains pid call program) fun _ => True where
  toComposable := composable_maintains (weeks around) pid call
  shared asked isShared := (spares_of_shared asked isShared).maintains
  asks body := maintains_of_asks (asks_mono body spares_of_shared)
  claim _ _ _ _ positive bounded := maintains_claim positive bounded
  claimV2 _ _ positive _ := maintains_claimV2 positive
  advance _ expected := maintains_of_asks (asks_rollOver spares_of_shared
    (spares_of_inOrder trivial) (fun _ early => spares_of_inOrder early) expected)
  replace _ _ _ _ := maintains_of_asks
    (asks_replacePlan spares_of_shared (spares_of_part .replace nofun nofun) _ _ _ _)
  createCycle _ _ _ := maintains_of_asks (asks_bind (asks_ask (spares_of_shared _ rfl)) fun _ =>
    asks_bind (asks_ask (spares_of_shared _ rfl)) fun _ => asks_pure _)
  deliver _ _ _ _ _ := maintains_of_asks
    (asks_deliverItems spares_of_shared (spares_of_part .deliver nofun nofun) _ _ _ _)
  fail _ _ := maintains_of_asks (asks_safeFail spares_of_shared (spares_of_part .fail nofun nofun) _ _)

theorem safe : (weeks around).Safe fun _ _ => True :=
  safe_of_maintains fun _ call _ _ _ =>
    operations.program around call (fun _ _ _ _ _ => trivial) fun _ _ => trivial

/-- However calls interleave, a week of a cycle has at most one pack, in its turn among the twelve
and with a frozen context; from then on the current week never decreases, and neither the claim
nor its context ever changes. -/
theorem weeks_unique_inOrder_final {machine : Machine content World Key Call}
    (reached : Reaches (system around) .free World.empty machine) :
    WeeksInOrder machine.world ∧ ∀ after, Onward (system around) .free machine after →
      WeeksKept machine.world after.world :=
  ⟨invariant_of_reaches safe weeks_empty reached, fun _ onward => relied_of_onward safe
    (fun _ _ _ kept => kept) weeksKept_refl weeksKept_trans weeks_empty reached onward⟩

/-- The first week has its pack for good. -/
theorem queued_week_final : ∃ machine,
    Reaches (system plainSurroundings) .free World.empty machine ∧
    machine.world.packs.rows.map ContentPack.weekNumber = [1] ∧ WeeksInOrder machine.world ∧
    ∀ after, Onward (system plainSurroundings) .free machine after →
      WeeksKept machine.world after.world := by
  have played : ((system plainSurroundings).play (.idle World.empty) queuedMoves).map
      (fun machine => machine.world.packs.rows.map ContentPack.weekNumber) = some [1] := by
    decide +kernel
  obtain ⟨machine, reached, weeks⟩ := Reaches.of_play played
  exact ⟨machine, reached, weeks, weeks_unique_inOrder_final reached⟩

end MarketMind.Content.Weeks
