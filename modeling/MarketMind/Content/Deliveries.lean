import MarketMind.Content.Guards
import MarketMind.Content.Programs
import MarketMind.Transactions.Onward

/-!
Owns what has been delivered: the items of a pack are committed once, and with them its status,
unless a late failure takes a delivered pack for one that has failed.

Does not own how a delivered pack is reviewed.
-/

namespace MarketMind.Content.Deliveries

open MarketMind.Transactions
open MarketMind.Transactions.Protocol
open MarketMind.Transactions.Store (Asks asks_ask asks_bind asks_pure)

/-- The committed items of a pack. -/
def itemsOf (world : World) (packId : Uuid) : List Uuid :=
  world.items.keysOf (·.contentPackId = packId)

structure Committed (world : World) : Prop where
  delivered : ∀ id pack, world.packs.find id = some pack →
    (itemsOf world id ≠ [] ↔ isCompletedPackStatus pack.status = true)
  known : ∀ id, itemsOf world id ≠ [] → ∃ pack, world.packs.find id = some pack

/-- A delivered pack stays delivered, with the items that it has. -/
def DeliveriesKept (before after : World) : Prop :=
  ∀ id pack, before.packs.find id = some pack → ∃ later, after.packs.find id = some later ∧
    (isCompletedPackStatus pack.status = true →
      isCompletedPackStatus later.status = true ∧ itemsOf after id = itemsOf before id)

theorem committed_empty : Committed World.empty where
  delivered := nofun
  known _ items := absurd rfl items

theorem deliveriesKept_refl (world : World) : DeliveriesKept world world :=
  fun _ pack found => ⟨pack, found, fun isDelivered => ⟨isDelivered, rfl⟩⟩

theorem deliveriesKept_trans {first second third : World} (left : DeliveriesKept first second)
    (right : DeliveriesKept second third) : DeliveriesKept first third := by
  intro id pack found
  obtain ⟨between, foundBetween, near⟩ := left id pack found
  obtain ⟨later, foundLater, far⟩ := right id between foundBetween
  refine ⟨later, foundLater, fun isDelivered => ?_⟩
  obtain ⟨isBetween, same⟩ := near isDelivered
  exact ⟨(far isBetween).1, (far isBetween).2.trans same⟩

/-- The failure of a job finds its pack not delivered. -/
def discipline : Discipline content World Call where
  issues _ := True
  admits _ _ asked world := ∀ id retryEligible, asked = .failPack id retryEligible →
    ∀ pack, world.packs.find id = some pack → isCompletedPackStatus pack.status = false
  isolation := .readCommitted

/-- Every call keeps what is delivered, and relies on it. -/
def deliveries (around : Surroundings) : Protocol (system around) where
  discipline
  invariant := Committed
  rely := fun _ => DeliveriesKept
  rely_refl _ := deliveriesKept_refl
  rely_trans _ := deliveriesKept_trans

/-! ### Changes that deliver nothing -/

structure Steady (before after : World) : Prop where
  items : after.items = before.items
  packs : ∀ id pack, after.packs.find id = some pack → ∃ prior, before.packs.find id = some prior ∧
    isCompletedPackStatus pack.status = isCompletedPackStatus prior.status
  kept : ∀ id pack, before.packs.find id = some pack → ∃ later, after.packs.find id = some later ∧
    isCompletedPackStatus later.status = isCompletedPackStatus pack.status

theorem Steady.itemsOf {before after : World} (steady : Steady before after) (id : Uuid) :
    itemsOf after id = itemsOf before id := by
  unfold Deliveries.itemsOf
  rw [steady.items]

theorem Steady.keeps {before after : World} (steady : Steady before after)
    (committed : Committed before) : Committed after where
  delivered := by
    intro id pack found
    obtain ⟨prior, known, same⟩ := steady.packs id pack found
    rw [steady.itemsOf, same]
    exact committed.delivered id prior known
  known := by
    intro id items
    rw [steady.itemsOf] at items
    obtain ⟨pack, found⟩ := committed.known id items
    obtain ⟨later, foundLater, -⟩ := steady.kept id pack found
    exact ⟨later, foundLater⟩

theorem Steady.deliveriesKept {before after : World} (steady : Steady before after) :
    DeliveriesKept before after := by
  intro id pack found
  obtain ⟨later, foundLater, same⟩ := steady.kept id pack found
  exact ⟨later, foundLater, fun isDelivered => ⟨same.trans isDelivered, steady.itemsOf id⟩⟩

theorem steady_of_same {before after : World} (packs : after.packs = before.packs)
    (items : after.items = before.items) : Steady before after where
  items
  packs _ pack found := ⟨pack, packs ▸ found, rfl⟩
  kept _ pack found := ⟨pack, packs ▸ found, rfl⟩

theorem steady_refl (world : World) : Steady world world := steady_of_same rfl rfl

/-- A change of a pack that delivers nothing and fails nothing that is delivered. -/
theorem steady_changePack {base : World} {id : Uuid} {allowed : ContentPack → Bool} {data : PackData}
    (idle : ∀ row, base.packs.find id = some row → allowed row = true →
      ∀ next, data.status = some next →
        isCompletedPackStatus next = isCompletedPackStatus row.status) :
    Steady base (base.changePack id allowed data) := by
  have same : ∀ other row, base.packs.find other = some row →
      isCompletedPackStatus (if row.id = id && allowed row then data.apply row else row).status =
        isCompletedPackStatus row.status := by
    intro other row found
    split
    · next matching =>
      simp only [Bool.and_eq_true, decide_eq_true_eq] at matching
      obtain rfl : other = id := (Table.key_of_find found).symm.trans matching.1
      cases moves : data.status with
      | none => simp [PackData.apply, moves]
      | some next => simpa [PackData.apply, moves] using idle row found matching.2 next moves
    · rfl
  refine ⟨rfl, fun other pack found => ?_, fun other pack found => ?_⟩
  · obtain ⟨old, known, rfl⟩ := World.of_find_changePack found
    exact ⟨old, known, same other old known⟩
  · exact ⟨_, World.find_changePack found, same other pack found⟩

/-! ### Statements that deliver nothing -/

/-- The statements that deliver and fail nothing wherever they land. -/
def Statement.isSteady : Statement → Prop
  | .createPack _ | .deliverPack _ _ | .failPack _ _ | .createItem _ _ | .setCurrentVersion _ _ =>
      False
  | .markPackStatus _ current next =>
      isCompletedPackStatus current = false ∧ isCompletedPackStatus next = false
  | _ => True

variable {around : Surroundings} {pid : Pid} {call : Call}

private theorem steady_updateWhen {hit : Bool} {keys : List Key} {write : World → World}
    {effect : Effect World Key Bool} (executed : updateWhen hit keys write = .ok effect)
    (steady : ∀ base, Steady base (write base)) (base : World) :
    Steady base (effect.write base) := by
  rcases updateWhen_cases executed with ⟨-, rfl⟩ | ⟨-, rfl⟩
  · exact steady base
  · exact steady_refl base

theorem steady_of_exec {choice : Nat} {asked : Statement} {view : World}
    {effect : Effect World Key asked.Reply} (isSteady : Statement.isSteady asked)
    (executed : exec around pid choice asked view = .ok effect) (base : World) :
    Steady base (effect.write base) := by
  have same := sameBut_of_exec executed base
  by_cases concerned : asked.area ∈ [some Area.packs, some .items]
  swap
  · simp only [List.mem_cons, List.not_mem_nil, or_false, not_or] at concerned
    exact steady_of_same (same.packs concerned.1) (same.items concerned.2)
  cases asked <;> simp [Statement.area] at concerned <;> simp only [exec] at executed
  case createPack | deliverPack | failPack | createItem | setCurrentVersion => exact isSteady.elim
  case claimPack =>
    refine steady_updateWhen executed (fun base => steady_changePack ?_) base
    rintro row - allowed next ⟨⟩
    simp only [Bool.or_eq_true, Bool.and_eq_true, decide_eq_true_eq] at allowed
    rcases allowed with queued | ⟨failed, -⟩
    · rw [queued]; rfl
    · rw [failed]; rfl
  case markPackStatus id current next =>
    obtain ⟨idle, stays⟩ : isCompletedPackStatus current = false ∧
      isCompletedPackStatus next = false := isSteady
    refine steady_updateWhen executed (fun base => steady_changePack ?_) base
    rintro row - allowed _ ⟨⟩
    rw [of_decide_eq_true allowed, stays, idle]
  case setRetryEligible =>
    obtain ⟨-, -, rfl⟩ := ok_of_updateRow executed
    exact steady_changePack (by simp)

theorem spares_of_isSteady {asked : Statement} (isSteady : Statement.isSteady asked) :
    (deliveries around).Spares pid call asked := by
  intro choice view effect _ executed base committed _
  have steady := steady_of_exec isSteady executed base
  exact ⟨steady.keeps committed, fun _ _ => steady.deliveriesKept⟩

/-- Every statement but those of a claim, of a delivery and of a failure. -/
theorem isSteady_of_part {asked : Statement} (apart : asked.part ∉ [.claim, .deliver, .fail]) :
    Statement.isSteady asked := by
  cases asked <;> first | trivial | (simp [Statement.part] at apart; done) | skip
  case markPackStatus id current next =>
    show isCompletedPackStatus current = false ∧ isCompletedPackStatus next = false
    simp only [Statement.part] at apart
    split at apart
    · simp at apart
    · next idle => simpa using idle

theorem spares_of_part (part : Part) (apart : part ∉ [.claim, .deliver, .fail]) (asked : Statement)
    (same : asked.part = part) : (deliveries around).Spares pid call asked := by
  subst same
  exact spares_of_isSteady (isSteady_of_part apart)

theorem spares_of_shared (asked : Statement) (isShared : asked.part = .shared) :
    (deliveries around).Spares pid call asked := spares_of_part .shared (by decide) asked isShared

/-! ### Claims and failures -/

theorem committed_claim {base after : World} {pack : ContentPack} (committed : Committed base)
    (fresh : base.packs.find pack.id = none) (queued : pack.status = .queued)
    (packs : after.packs = (base.addPack pack).packs) (items : after.items = base.items) :
    Committed after ∧ DeliveriesKept base after := by
  have sameItems : ∀ id, itemsOf after id = itemsOf base id := by
    intro id
    unfold itemsOf
    rw [items]
  have old : ∀ id row, base.packs.find id = some row → after.packs.find id = some row :=
    fun id row found => packs ▸ Table.find_insertUnless_of_found found
  refine ⟨⟨fun id row found => ?_, fun id isItem => ?_⟩, fun id row found =>
    ⟨row, old id row found, fun isDelivered => ⟨isDelivered, sameItems id⟩⟩⟩
  · rw [sameItems]
    rw [packs] at found
    rcases Table.of_find_insertUnless found with known | ⟨rfl, rfl, -⟩
    · exact committed.delivered id row known
    · have empty : itemsOf base row.id = [] := by
        by_contra isItem
        obtain ⟨known, foundKnown⟩ := committed.known row.id isItem
        exact nomatch fresh.symm.trans foundKnown
      simp [empty, queued, isCompletedPackStatus, Keyed.key]
  · rw [sameItems] at isItem
    obtain ⟨row, found⟩ := committed.known id isItem
    exact ⟨row, old id row found⟩

theorem maintains_claim {cycleId : Uuid} {week : Nat} {weekContextId : Uuid} {jobIntent : Bool} :
    (deliveries around).Maintains pid call
      (Program.transaction (queuePack cycleId week weekContextId jobIntent)) := by
  refine maintains_queuePack fun base cycle now pack intent committed claimed _ => ?_
  obtain ⟨-, -, -, -, -, queued, -⟩ := claimed.place
  have kept : Committed (base.claimV1 cycleId week weekContextId now pack intent) ∧
      DeliveriesKept base (base.claimV1 cycleId week weekContextId now pack intent) := by
    refine committed_claim committed claimed.fresh queued ?_ ?_
    all_goals simp [World.claimV1, World.changeCycle, World.addPack, World.freezeContext,
      World.changeContext]
  exact ⟨kept.1, fun _ _ => kept.2⟩

theorem maintains_claimV2 {input : ClaimInput} : (deliveries around).Maintains pid call
    (Program.transaction (queuePackV2 input)) := by
  refine maintains_queuePackV2 (Notes.nothing input) fun base cycle now pack intent committed
    claimed => ?_
  obtain ⟨-, -, -, -, -, queued, -⟩ := claimed.place
  have kept : Committed (base.claimV2 input now pack intent) ∧
      DeliveriesKept base (base.claimV2 input now pack intent) := by
    refine committed_claim committed claimed.fresh queued ?_ ?_
    all_goals simp [World.claimV2, World.changeCycle, World.addPack, World.freezeContext,
      World.changeContext, World.freezePlan]
  exact ⟨kept.1, fun _ _ => kept.2⟩

theorem lands_of_steady {fact : World → Prop} {write : World → World}
    (steady : ∀ base, fact base → Steady base (write base)) :
    (deliveries around).Lands pid fact write := fun base committed given =>
  ⟨(steady base given).keeps committed, fun _ _ => (steady base given).deliveriesKept⟩

/-- A failure that finds its pack not delivered. -/
theorem maintains_fail {packId : Uuid} {retryEligible : Bool} : (deliveries around).Maintains pid
    call (safeFail packId retryEligible) := by
  refine maintains_of_closes (closes_ask fun choice world effect admitted executed _ _ => ?_)
  obtain ⟨pack, found, rfl⟩ := ok_of_updateRow executed
  have idle := admitted packId retryEligible rfl pack found
  have events : Asks ((deliveries around).Spares pid call)
      (appendEvent packId "failed" .failed) := asks_appendEvent spares_of_shared _ _ _
  refine ⟨fun base => base.packs.find packId = some pack, found, ?_, closes_of_asks events
    (lands_of_steady fun base known => steady_changePack ?_) ?_⟩
  · exact held_pack (· = some pack) (List.mem_append_left _ (List.mem_cons_self ..))
  · rintro row same - next ⟨⟩
    obtain rfl := Option.some.inj (known.symm.trans same)
    rw [idle]
    rfl
  · exact held_pack (· = some pack) (List.mem_append_left _ (List.mem_cons_self ..))

/-! ### Deliveries -/

theorem itemsOf_addItem_of_ne {base : World} {row : ContentItem} {other : Uuid}
    (apart : other ≠ row.contentPackId) : itemsOf (base.addItem row) other = itemsOf base other := by
  have beside : decide (row.contentPackId = other) = false := decide_eq_false apart.symm
  unfold itemsOf World.addItem
  dsimp only
  cases known : base.items.find (Keyed.key row) with
  | some old => rw [Table.insert_of_used known]
  | none =>
      rw [Table.keysOf_insert known]
      simp [beside]

theorem mem_itemsOf_addItem {base : World} {row : ContentItem} {id packId : Uuid}
    (member : id ∈ itemsOf base packId) : id ∈ itemsOf (base.addItem row) packId := by
  obtain ⟨item, found, ofPack⟩ := Table.mem_keysOf.mp member
  exact Table.mem_keysOf.mpr ⟨item, Table.find_insert_of_found found, ofPack⟩

theorem itemsOf_setCurrentVersion {base : World} {itemId versionId : Uuid} (packId : Uuid) :
    itemsOf (base.setCurrentVersion itemId versionId) packId = itemsOf base packId := by
  simp only [itemsOf, World.setCurrentVersion, Table.modify]
  refine Table.keysOf_update ?_
  exact fun _ _ => rfl

/-- The writes of a transaction that fills one pack, starting with its first item. -/
structure Filling (packId first : Uuid) (pending : World → World) : Prop where
  packs : ∀ base, (pending base).packs = base.packs
  others : ∀ base other, other ≠ packId → itemsOf (pending base) other = itemsOf base other
  filled : ∀ base, base.items.find first = none → first ∈ itemsOf (pending base) packId

theorem filling_first (packId first : Uuid) :
    Filling packId first fun base => base.addItem ⟨first, packId, none⟩ where
  packs _ := rfl
  others _ _ apart := itemsOf_addItem_of_ne apart
  filled _ fresh := Table.mem_keysOf.mpr
    ⟨⟨first, packId, none⟩, Table.find_insert_self fresh, decide_eq_true rfl⟩

theorem Filling.createItem {packId first id : Uuid} {pending : World → World}
    (filling : Filling packId first pending) :
    Filling packId first fun base => (pending base).addItem ⟨id, packId, none⟩ where
  packs := filling.packs
  others base other apart := (itemsOf_addItem_of_ne apart).trans (filling.others base other apart)
  filled base fresh := mem_itemsOf_addItem (filling.filled base fresh)

theorem Filling.setCurrentVersion {packId first itemId versionId : Uuid} {pending : World → World}
    (filling : Filling packId first pending) :
    Filling packId first fun base => (pending base).setCurrentVersion itemId versionId where
  packs := filling.packs
  others base other apart :=
    (itemsOf_setCurrentVersion other).trans (filling.others base other apart)
  filled base fresh := by
    rw [itemsOf_setCurrentVersion]
    exact filling.filled base fresh

theorem asks_createItems_filling (packId first : Uuid) (items : List ContentItemVersionDraft) :
    Asks (fun asked : Statement => ∀ choice view effect,
      exec around pid choice asked view = .ok effect → ∀ pending, Filling packId first pending →
        Filling packId first fun base => effect.write (pending base)) (createItems packId items) := by
  induction items with
  | nil => exact asks_pure ()
  | cons draft rest inductionHypothesis =>
      refine asks_bind (asks_ask ?_) fun _ => asks_bind (asks_ask ?_) fun _ =>
        asks_bind (asks_ask ?_) fun _ => inductionHypothesis
      · intro choice view effect executed pending filling
        obtain ⟨-, executed⟩ := ok_of_unless executed
        cases executed
        exact filling.createItem
      · intro choice view effect executed pending filling
        obtain ⟨-, executed⟩ := ok_of_unless executed
        cases executed
        exact ⟨filling.packs, filling.others, filling.filled⟩
      · intro choice view effect executed pending filling
        obtain ⟨-, -, rfl⟩ := ok_of_updateRow executed
        exact filling.setCurrentVersion

/-- The pack may be delivered, and its first item is new. -/
def Deliverable (packId first : Uuid) (base : World) : Prop :=
  (base.packs.find packId).any (·.status = .validating) = true ∧ base.items.find first = none

/-- The delivery of a pack with its items. -/
theorem lands_deliver {packId first : Uuid} {pending : World → World} {itemIds : List Uuid}
    (filling : Filling packId first pending) :
    (deliveries around).Lands pid (Deliverable packId first) fun base =>
      (pending base).changePack packId (·.status = .validating)
        { status := some .draft, itemIds := some itemIds } := by
  rintro base committed ⟨validating, fresh⟩
  obtain ⟨pack, found, isValidating⟩ := (Option.any_eq_true ..).mp validating
  have sameId : pack.id = packId := Table.key_of_find found
  have rows : ∀ other row, base.packs.find other = some row →
      ((pending base).changePack packId (·.status = .validating)
        { status := some .draft, itemIds := some itemIds }).packs.find other =
          some (if row.id = packId && row.status = .validating then
            ({ status := some .draft, itemIds := some itemIds } : PackData).apply row else row) := by
    intro other row known
    exact World.find_changePack ((congrArg (·.find other) (filling.packs base)).trans known)
  have delivered := filling.filled base fresh
  have notDelivered : isCompletedPackStatus pack.status = false := by
    rw [of_decide_eq_true isValidating]
    rfl
  refine ⟨⟨fun other row known => ?_, fun other isItem => ?_⟩, fun _ _ other row known => ?_⟩
  · obtain ⟨old, isOld, rfl⟩ := World.of_find_changePack known
    rw [filling.packs] at isOld
    by_cases same : other = packId
    · subst same
      obtain rfl := Option.some.inj (found.symm.trans isOld)
      rw [if_pos (by simpa [sameId] using isValidating)]
      exact ⟨fun _ => rfl, fun _ => List.ne_nil_of_mem delivered⟩
    · have apart : ¬(old.id = packId) := (Table.key_of_find isOld).trans_ne same
      rw [if_neg (by simp [apart])]
      exact (iff_of_eq (congrArg (· ≠ []) (filling.others base other same))).trans
        (committed.delivered other old isOld)
  · by_cases same : other = packId
    · subst same
      exact ⟨_, rows other pack found⟩
    · have isItem' : itemsOf base other ≠ [] := filling.others base other same ▸ isItem
      obtain ⟨old, isOld⟩ := committed.known other isItem'
      exact ⟨_, rows other old isOld⟩
  · refine ⟨_, rows other row known, fun isDelivered => ?_⟩
    have same : other ≠ packId := by
      rintro rfl
      obtain rfl := Option.some.inj (found.symm.trans known)
      exact absurd (notDelivered.symm.trans isDelivered) nofun
    have apart : ¬(row.id = packId) := (Table.key_of_find known).trans_ne same
    rw [if_neg (by simp [apart])]
    exact ⟨isDelivered, filling.others base other same⟩

theorem maintains_deliver {packId cycleId : Uuid} {week : Nat}
    {items : List ContentItemVersionDraft} (nonempty : items ≠ []) :
    (deliveries around).Maintains pid call
      (persistGeneratedItems packId cycleId week items) := by
  obtain ⟨draft, rest, rfl⟩ := List.exists_cons_of_ne_nil nonempty
  refine maintains_of_closes ?_
  unfold deliverItems
  refine closes_skim held_true (fun _ _ => rfl) fun found => closes_orThrow fun pack _ => ?_
  refine closes_require fun _ => closes_require fun _ => closes_assoc ?_
  refine closes_ask fun choice world effect _ executed _ _ => ?_
  obtain ⟨fresh, executed⟩ := ok_of_unless executed
  cases executed
  have absent : world.items.find draft.contentItemId = none :=
    Option.not_isSome_iff_eq_none.mp fresh
  refine ⟨fun base => base.items.find draft.contentItemId = none, absent, ?_, ?_⟩
  · exact held_item (· = none) (List.mem_append_left _ (List.mem_cons_self ..))
  have others := (@asks_createItems_filling around pid packId draft.contentItemId
    (draft :: rest)).2 (.ok ())
  refine closes_through others (filling_first packId draft.contentItemId) ?_ ?_
  · exact held_item (· = none) (List.mem_append_left _ (List.mem_cons_self ..))
  intro opened _ filling _ held
  refine closes_ask fun choice world effect _ executed _ given => ?_
  rcases updateWhen_cases executed with ⟨hit, rfl⟩ | ⟨-, rfl⟩
  swap
  · exact ⟨_, given, held.extend, closes_require nofun⟩
  rw [filling.packs] at hit
  have isHeld : ∀ {effect : Effect World Key Bool}, Key.pack packId ∈ effect.keys →
      (deliveries around).Held pid (opened.extend effect)
        (Deliverable packId draft.contentItemId) := fun member =>
    Held.and (held_pack (·.any (·.status = .validating) = true) (List.mem_append_left _ member))
      held.extend
  refine ⟨_, ⟨hit, given⟩, isHeld (List.mem_cons_self ..), closes_require fun _ => ?_⟩
  refine closes_of_asks ?_ (lands_deliver filling) (isHeld (List.mem_cons_self ..))
  have events : Asks ((deliveries around).Spares pid call) (appendEvent packId "ready" .complete) :=
    asks_appendEvent spares_of_shared _ _ _
  split
  · exact asks_bind (asks_ask (spares_of_isSteady trivial)) fun _ => events
  · exact events

/-! ### Every run -/

theorem operations : Operations
    (fun _ program => (deliveries around).Maintains pid call program) fun _ => True where
  toComposable := composable_maintains (deliveries around) pid call
  shared asked isShared := (spares_of_shared asked isShared).maintains
  asks body := maintains_of_asks (asks_mono body spares_of_shared)
  claim _ _ _ _ _ _ := maintains_claim
  claimV2 _ _ _ _ := maintains_claimV2
  advance _ expected := maintains_of_asks (asks_rollOver spares_of_shared
    (spares_of_part .advance (by decide) _ rfl)
    (fun _ _ => spares_of_part .advance (by decide) _ rfl) expected)
  replace _ _ _ _ := maintains_of_asks
    (asks_replacePlan spares_of_shared (spares_of_part .replace (by decide)) _ _ _ _)
  createCycle _ _ _ := maintains_of_asks (asks_bind (asks_ask (spares_of_shared _ rfl)) fun _ =>
    asks_bind (asks_ask (spares_of_shared _ rfl)) fun _ => asks_pure _)
  deliver _ _ _ _ nonempty := maintains_deliver nonempty
  fail _ _ := maintains_fail

theorem safe : (deliveries around).Safe fun _ _ => True :=
  safe_of_maintains fun _ call _ _ _ =>
    operations.program around call (fun _ _ _ _ _ => trivial) fun _ _ => trivial

/-- However claims, jobs and retries interleave, if no failure is written over a delivered pack,
then a pack has committed items exactly when it is delivered; from then on it stays delivered with
these items, so it is neither failed nor generated again. -/
theorem delivered_pack_final {machine : Machine content World Key Call}
    (reached : Reaches (system around) discipline World.empty machine) :
    ∀ id pack, machine.world.packs.find id = some pack →
      (itemsOf machine.world id ≠ [] ↔ isCompletedPackStatus pack.status = true) ∧
      (isCompletedPackStatus pack.status = true →
        ∀ after, Onward (system around) discipline machine after →
          ∃ later, after.world.packs.find id = some later ∧
            isCompletedPackStatus later.status = true ∧
            itemsOf after.world id = itemsOf machine.world id) := by
  intro id pack found
  have committed : Committed machine.world :=
    invariant_of_reaches safe committed_empty reached
  refine ⟨committed.delivered id pack found, fun isDelivered after onward => ?_⟩
  have kept : DeliveriesKept machine.world after.world := relied_of_onward safe
    (fun _ _ _ kept => kept) deliveriesKept_refl deliveriesKept_trans committed_empty reached onward
  obtain ⟨later, foundLater, stays⟩ := kept id pack found
  exact ⟨later, foundLater, stays isDelivered⟩

/-- The statement passes if it fails no delivered pack. -/
def passes (_ : Pid) (_ : Call) : Statement → World → Bool
  | .failPack id _, world => (world.packs.find id).all (!isCompletedPackStatus ·.status)
  | _, _ => true

theorem admits_of_passes (pid : Pid) (call : Call) (asked : Statement) (world : World)
    (passing : passes pid call asked world = true) : discipline.admits pid call asked world := by
  rintro id retryEligible rfl pack found
  simpa [passes, found] using passing

/-- The pack of the first week is delivered for good. -/
theorem delivered_week_final : ∃ machine pack,
    Reaches (system plainSurroundings) discipline World.empty machine ∧
    machine.world.packs.find 0 = some pack ∧ itemsOf machine.world 0 ≠ [] ∧
    ∀ after, Onward (system plainSurroundings) discipline machine after →
      ∃ later, after.world.packs.find 0 = some later ∧
        isCompletedPackStatus later.status = true ∧
        itemsOf after.world 0 = itemsOf machine.world 0 := by
  have played : ((system plainSurroundings).playChecked passes (.idle World.empty)
      deliveredMoves).map (fun machine => (machine.world.packs.find 0).map ContentPack.status) =
      some (some .draft) := by
    decide +kernel
  obtain ⟨machine, moved, observed⟩ := Option.map_eq_some_iff.mp played
  obtain ⟨pack, found, isDraft⟩ := Option.map_eq_some_iff.mp observed
  have reached : Reaches (system plainSurroundings) discipline World.empty machine :=
    Reaches.playChecked (fun _ => trivial) rfl admits_of_passes Reaches.idle moved
  obtain ⟨delivered, final⟩ := delivered_pack_final reached 0 pack found
  have isDelivered : isCompletedPackStatus pack.status = true := by rw [isDraft]; rfl
  exact ⟨machine, pack, reached, found, delivered.mpr isDelivered, final isDelivered⟩

/-- A pack whose items are committed fails when the charge for them does. -/
theorem uncharged_pack_failed : ¬∀ around machine,
    Reaches (system around) .free World.empty machine →
      ∀ id pack, machine.world.packs.find id = some pack →
        (itemsOf machine.world id ≠ [] ↔ isCompletedPackStatus pack.status = true) := by
  intro claimed
  have played : ((system plainSurroundings).play (.idle World.empty) (queuedMoves ++
      alone 3 (.turnJob (.generate .contentV2 0) .active) 1 ++
      alone 4 (.process ⟨.contentV2, 0, 1, 0⟩ 0) 31 ++ .fail 4 :: steps 4 6)).map (fun machine =>
        ((machine.world.packs.find 0).map ContentPack.status,
          (itemsOf machine.world 0).length)) = some (some .failed, 3) := by
    decide +kernel
  obtain ⟨machine, reached, observed⟩ := Reaches.of_play played
  obtain ⟨isPack, count⟩ := Prod.mk.inj observed
  obtain ⟨pack, found, isFailed⟩ := Option.map_eq_some_iff.mp isPack
  have same := claimed plainSurroundings machine reached 0 pack found
  have delivered := same.mp (List.ne_nil_of_length_pos (count ▸ by decide))
  rw [isFailed] at delivered
  cases delivered

end MarketMind.Content.Deliveries
