import MarketMind.Content.Guards
import MarketMind.Content.Programs
import MarketMind.Transactions.Onward

/-!
Owns frozen week plans: what a claim has frozen neither the owner nor another claim changes, unless
a plan is replaced or frozen on an outdated read.

Does not own the marks that the worker leaves on the posts of a frozen plan.
-/

namespace MarketMind.Content.Plans

open MarketMind.Transactions
open MarketMind.Transactions.Protocol
open MarketMind.Transactions.Store (Asks asks_ask asks_bind asks_pure)

/-! ### Frozen plans -/

/-- The plan of a claimed pack is frozen, and a frozen plan has its posts in its frozen input. -/
structure Frozen (world : World) : Prop where
  claimed : ∀ id pack planId, world.packs.find id = some pack → pack.weekPlanId = some planId →
    ∃ plan, world.plans.find planId = some plan ∧ plan.status = .frozen
  snapshot : ∀ id plan, world.plans.find id = some plan → plan.status = .frozen →
    ∃ input, plan.frozenInput = some input ∧ input.postPlans = byPosition (world.postPlansOf id)

/-- The plan and its posts are as they were. -/
def SamePlan (before after : World) (id : Uuid) (plan : ContentWeekPlan) : Prop :=
  after.plans.find id = some plan ∧ after.postPlansOf id = before.postPlansOf id

/-- A change of a plan or of its posts updates the plan, and a frozen plan never changes. -/
structure PlansKept (before after : World) : Prop where
  plans : ∀ id plan, before.plans.find id = some plan →
    ∃ later, after.plans.find id = some later ∧ plan.updates ≤ later.updates ∧
      (later.updates = plan.updates → SamePlan before after id plan)
  frozen : ∀ id plan, before.plans.find id = some plan → plan.status = .frozen →
    SamePlan before after id plan

theorem frozen_empty : Frozen World.empty where
  claimed _ _ _ found := by cases found
  snapshot _ _ found := by cases found

theorem SamePlan.trans {first second third : World} {id : Uuid} {plan : ContentWeekPlan}
    (left : SamePlan first second id plan) (right : SamePlan second third id plan) :
    SamePlan first third id plan := ⟨right.1, right.2.trans left.2⟩

theorem plansKept_refl (world : World) : PlansKept world world where
  plans _ plan found := ⟨plan, found, le_rfl, fun _ => ⟨found, rfl⟩⟩
  frozen _ _ found _ := ⟨found, rfl⟩

theorem plansKept_trans {first second third : World} (left : PlansKept first second)
    (right : PlansKept second third) : PlansKept first third where
  plans := by
    intro id plan found
    obtain ⟨between, foundBetween, low, near⟩ := left.plans id plan found
    obtain ⟨later, foundLater, high, far⟩ := right.plans id between foundBetween
    refine ⟨later, foundLater, low.trans high, fun same => ?_⟩
    have sameNear : between.updates = plan.updates := le_antisymm (same ▸ high) low
    obtain ⟨unchanged, posts⟩ := near sameNear
    obtain rfl := Option.some.inj (foundBetween.symm.trans unchanged)
    exact ⟨(far same).1, (far same).2.trans posts⟩
  frozen id plan found isFrozen :=
    have near := left.frozen id plan found isFrozen
    near.trans (right.frozen id plan near.1 isFrozen)

/-- A plan is replaced while it is a draft and frozen with the posts that it has. The worker, who
marks the posts of frozen plans, is not at work. -/
def discipline : Discipline content World Call where
  issues _ := True
  admits _ _ asked world := match asked with
    | .reopenPlan id => ∀ plan, world.plans.find id = some plan → plan.status = .draft
    | .freezePlan id _ _ frozenInput => frozenInput.postPlans = byPosition (world.postPlansOf id)
    | .markPlans _ _ _ | .attachGeneratedItem _ _ _ => False
    | _ => True
  isolation := .readCommitted

/-- Every call keeps frozen plans, and relies on it. -/
def plans (around : Surroundings) : Protocol (system around) where
  discipline
  invariant := Frozen
  rely := fun _ => PlansKept
  rely_refl _ := plansKept_refl
  rely_trans _ := plansKept_trans

/-! ### Changes beside the plans -/

/-- Plans and posts are as they were, and packs keep their plans. -/
structure Beside (before after : World) : Prop where
  plans : after.plans = before.plans
  postPlans : after.postPlans = before.postPlans
  packs : ∀ id pack, after.packs.find id = some pack →
    ∃ prior, before.packs.find id = some prior ∧ prior.weekPlanId = pack.weekPlanId

theorem postPlansOf_of_same {before after : World} (postPlans : after.postPlans = before.postPlans)
    (id : Uuid) : after.postPlansOf id = before.postPlansOf id := by
  simp only [World.postPlansOf, postPlans]

theorem kept_of_same {before after : World} (plans : after.plans = before.plans)
    (postPlans : after.postPlans = before.postPlans) : PlansKept before after := by
  have same : ∀ id plan, before.plans.find id = some plan → SamePlan before after id plan :=
    fun id plan found => ⟨plans ▸ found, postPlansOf_of_same postPlans id⟩
  exact ⟨fun id plan found => ⟨plan, (same id plan found).1, le_rfl, fun _ => same id plan found⟩,
    fun id plan found _ => same id plan found⟩

theorem snapshot_of_same {before after : World} (frozen : Frozen before)
    (plans : after.plans = before.plans) (postPlans : after.postPlans = before.postPlans) :
    ∀ id plan, after.plans.find id = some plan → plan.status = .frozen →
      ∃ input, plan.frozenInput = some input ∧ input.postPlans = byPosition (after.postPlansOf id) := by
  intro id plan found isFrozen
  rw [postPlansOf_of_same postPlans]
  exact frozen.snapshot id plan (plans ▸ found) isFrozen

theorem Beside.keeps {before after : World} (beside : Beside before after)
    (frozen : Frozen before) : Frozen after where
  claimed := by
    intro id pack planId found planned
    obtain ⟨prior, known, same⟩ := beside.packs id pack found
    rw [beside.plans]
    exact frozen.claimed id prior planId known (same.trans planned)
  snapshot := snapshot_of_same frozen beside.plans beside.postPlans

theorem beside_changePack (base : World) {id : Uuid} {allowed : ContentPack → Bool}
    {data : PackData} : Beside base (base.changePack id allowed data) where
  plans := rfl
  postPlans := rfl
  packs := by
    intro other pack found
    obtain ⟨old, known, rfl⟩ := World.of_find_changePack found
    refine ⟨old, known, ?_⟩
    split <;> rfl

theorem beside_refl (world : World) : Beside world world :=
  ⟨rfl, rfl, fun _ pack found => ⟨pack, found, rfl⟩⟩

variable {around : Surroundings} {pid : Pid} {call : Call}

private theorem beside_updateWhen {hit : Bool} {keys : List Key} {write : World → World}
    {effect : Effect World Key Bool} (executed : updateWhen hit keys write = .ok effect)
    (beside : ∀ base, Beside base (write base)) (base : World) :
    Beside base (effect.write base) := by
  rcases updateWhen_cases executed with ⟨-, rfl⟩ | ⟨-, rfl⟩
  · exact beside base
  · exact beside_refl base

/-- Every admitted statement but those of a claim and of a replacement. -/
theorem beside_of_exec {choice : Nat} {asked : Statement} {view : World}
    {effect : Effect World Key asked.Reply} (apart : asked.part ∉ [.claim, .replace])
    (admitted : discipline.admits pid call asked view)
    (executed : exec around pid choice asked view = .ok effect) (base : World) :
    Beside base (effect.write base) := by
  have same := sameBut_of_exec executed base
  by_cases concerned : asked.area ∈ [some Area.plans, some .postPlans, some .packs]
  swap
  · simp only [List.mem_cons, List.not_mem_nil, or_false, not_or] at concerned
    exact ⟨same.plans concerned.1, (same.postPlans concerned.2.1).1, fun _ pack found =>
      ⟨pack, same.packs concerned.2.2 ▸ found, rfl⟩⟩
  cases asked <;> simp [Statement.area] at concerned <;> simp [Statement.part] at apart <;>
    simp only [exec] at executed
  case markPlans | attachGeneratedItem => exact admitted.elim
  case claimPack | markPackStatus | deliverPack =>
    exact beside_updateWhen executed (beside_changePack ·) base
  case failPack | setRetryEligible =>
    obtain ⟨-, -, rfl⟩ := ok_of_updateRow executed
    exact beside_changePack base

theorem spares_of_part (part : Part) (apart : part ∉ [.claim, .replace]) (asked : Statement)
    (same : asked.part = part) : (plans around).Spares pid call asked := by
  subst same
  intro choice view effect admitted executed base frozen _
  have beside := beside_of_exec apart admitted executed base
  exact ⟨beside.keeps frozen, fun _ _ => kept_of_same beside.plans beside.postPlans⟩

theorem spares_of_shared (asked : Statement) (isShared : asked.part = .shared) :
    (plans around).Spares pid call asked := spares_of_part .shared (by decide) asked isShared

/-! ### Replacements -/

/-- Only the plan, and only its posts, are as they may be. -/
structure Apart (base after : World) (id : Uuid) : Prop where
  plans : ∀ other, other ≠ id → after.plans.find other = base.plans.find other
  postPlans : ∀ other, other ≠ id → after.postPlansOf other = base.postPlansOf other

theorem Apart.trans {base between after : World} {id : Uuid} (left : Apart base between id)
    (right : Apart between after id) : Apart base after id where
  plans other apart := (right.plans other apart).trans (left.plans other apart)
  postPlans other apart := (right.postPlans other apart).trans (left.postPlans other apart)

theorem apart_dropPostPlans (base : World) {id : Uuid} {gone : List ContentPostPlan}
    (ofPlan : ∀ row ∈ gone, row.contentWeekPlanId = id) :
    Apart base (base.dropPostPlans gone) id where
  plans _ _ := rfl
  postPlans := by
    intro other apart
    unfold World.postPlansOf World.dropPostPlans Table.retain
    rw [List.filter_filter]
    refine List.filter_congr fun row _ => ?_
    by_cases ofOther : row.contentWeekPlanId = other
    · have stays : gone.any row.isAs = false := by
        refine List.any_eq_false.mpr fun old member isOld => apart ?_
        simp only [ContentPostPlan.isAs, ContentPostPlan.at, Bool.and_eq_true,
          decide_eq_true_eq] at isOld
        exact ofOther.symm.trans (isOld.2.1.trans (ofPlan old member))
      simp [stays]
    · simp [ofOther]

theorem apart_addPostPlan (base : World) (clash : ContentPostPlan → Bool) (row : ContentPostPlan) :
    Apart base { base with postPlans := base.postPlans.insertUnless clash row }
      row.contentWeekPlanId where
  plans _ _ := rfl
  postPlans := by
    intro other apart
    have beside : decide (row.contentWeekPlanId = other) = false := decide_eq_false apart.symm
    unfold World.postPlansOf Table.insertUnless
    dsimp only
    split
    · rfl
    · cases known : base.postPlans.find (Keyed.key row) with
      | some old => rw [Table.insert_of_used known]
      | none =>
          rw [Table.rows_insert known, List.filter_append]
          simp [beside]

theorem apart_addPostPlans (base : World) {id : Uuid} {rows : List ContentPostPlan}
    (ofPlan : ∀ row ∈ rows, row.contentWeekPlanId = id) :
    Apart base (base.addPostPlans rows) id := by
  induction rows generalizing base with
  | nil => exact ⟨fun _ _ => rfl, fun _ _ => rfl⟩
  | cons row rest inductionHypothesis =>
      have added := apart_addPostPlan base
        (ContentPostPlan.at row.contentWeekPlanId row.input.position) row
      rw [ofPlan row List.mem_cons_self] at added
      refine Apart.trans ?_ (inductionHypothesis _ fun later member =>
        ofPlan later (List.mem_cons_of_mem row member))
      rwa [ofPlan row List.mem_cons_self]

/-- The plan that changes was a draft, or is new. -/
theorem frozen_apart {base after : World} {id : Uuid} (frozen : Frozen base)
    (apart : Apart base after id) (packs : after.packs = base.packs)
    (draft : ∀ plan, base.plans.find id = some plan → plan.status = .draft)
    (stays : ∀ plan, after.plans.find id = some plan → plan.status = .draft) : Frozen after where
  claimed := by
    intro packId pack planId found planned
    rw [packs] at found
    obtain ⟨plan, foundPlan, isFrozen⟩ := frozen.claimed packId pack planId found planned
    have other : planId ≠ id := by
      rintro rfl
      exact absurd ((draft plan foundPlan).symm.trans isFrozen) nofun
    exact ⟨plan, (apart.plans planId other).trans foundPlan, isFrozen⟩
  snapshot := by
    intro other plan found isFrozen
    have distinct : other ≠ id := by
      rintro rfl
      exact absurd ((stays plan found).symm.trans isFrozen) nofun
    rw [apart.postPlans other distinct]
    exact frozen.snapshot other plan (apart.plans other distinct ▸ found) isFrozen

theorem kept_apart {base after : World} {id : Uuid} (apart : Apart base after id)
    (draft : ∀ plan, base.plans.find id = some plan → plan.status = .draft)
    (updates : ∀ plan, base.plans.find id = some plan →
      ∃ later, after.plans.find id = some later ∧ plan.updates < later.updates) :
    PlansKept base after where
  plans := by
    intro other plan found
    by_cases same : other = id
    · subst same
      obtain ⟨later, foundLater, more⟩ := updates plan found
      exact ⟨later, foundLater, more.le, fun equal => absurd equal more.ne'⟩
    · have unchanged := (apart.plans other same).trans found
      exact ⟨plan, unchanged, le_rfl, fun _ => ⟨unchanged, apart.postPlans other same⟩⟩
  frozen := by
    intro other plan found isFrozen
    have distinct : other ≠ id := by
      rintro rfl
      exact absurd ((draft plan found).symm.trans isFrozen) nofun
    exact ⟨(apart.plans other distinct).trans found, apart.postPlans other distinct⟩

theorem postPlanRows_ofPlan (planId : Uuid) (id : Uuid) (inputs : List PostPlanInput) :
    ∀ row ∈ postPlanRows planId id inputs, row.contentWeekPlanId = planId := by
  induction inputs generalizing id with
  | nil =>
      intro row member
      cases member
  | cons input rest inductionHypothesis =>
      intro row member
      rcases List.mem_cons.mp member with rfl | later
      · rfl
      · exact inductionHypothesis (id + 1) row later

/-- The posts of a draft are replaced. -/
theorem lands_replace {id : Uuid} {gone rows : List ContentPostPlan} {plan : ContentWeekPlan}
    (goneOf : ∀ row ∈ gone, row.contentWeekPlanId = id)
    (rowsOf : ∀ row ∈ rows, row.contentWeekPlanId = id) (draft : plan.status = .draft) :
    (plans around).Lands pid (fun base => base.plans.find id = some plan) fun base =>
      ((base.dropPostPlans gone).reopenPlan id).addPostPlans rows := by
  intro base frozen found
  have sameId : plan.id = id := Table.key_of_find found
  have reopened : (((base.dropPostPlans gone).reopenPlan id).addPostPlans rows).plans.find id =
      some { plan with status := .draft, updates := plan.updates + 1 } := by
    rw [World.addPostPlans_eq]
    exact (World.find_reopenPlan found).trans (by rw [if_pos sameId])
  have apart : Apart base (((base.dropPostPlans gone).reopenPlan id).addPostPlans rows) id := by
    have opened : Apart (base.dropPostPlans gone) ((base.dropPostPlans gone).reopenPlan id) id :=
      ⟨fun other distinct => by simp only [World.reopenPlan, Table.find_modify_of_ne distinct],
        fun _ _ => rfl⟩
    exact ((apart_dropPostPlans base goneOf).trans opened).trans (apart_addPostPlans _ rowsOf)
  have wasDraft : ∀ row, base.plans.find id = some row → row.status = .draft := by
    intro row known
    obtain rfl := Option.some.inj (known.symm.trans found)
    exact draft
  have packs : (((base.dropPostPlans gone).reopenPlan id).addPostPlans rows).packs = base.packs := by
    rw [World.addPostPlans_eq]
    rfl
  refine ⟨frozen_apart frozen apart packs wasDraft fun row known => ?_, fun _ _ => kept_apart apart
    wasDraft fun row known => ?_⟩
  · obtain rfl := Option.some.inj (known.symm.trans reopened)
    rfl
  · obtain rfl := Option.some.inj (known.symm.trans found)
    exact ⟨_, reopened, Nat.lt_succ_self _⟩

/-- A new plan gets its posts. -/
theorem lands_create {row : ContentWeekPlan} {rows : List ContentPostPlan}
    (rowsOf : ∀ post ∈ rows, post.contentWeekPlanId = row.id) (draft : row.status = .draft) :
    (plans around).Lands pid (fun base => base.plans.find row.id = none) fun base =>
      (base.addPlan row).addPostPlans rows := by
  intro base frozen absent
  have none' : ∀ plan, base.plans.find row.id ≠ some plan := fun plan found =>
    nomatch absent.symm.trans found
  have apart : Apart base ((base.addPlan row).addPostPlans rows) row.id := by
    have added : Apart base (base.addPlan row) row.id :=
      ⟨fun other distinct => Table.find_insertUnless_of_ne distinct, fun _ _ => rfl⟩
    exact added.trans (apart_addPostPlans _ rowsOf)
  have packs : ((base.addPlan row).addPostPlans rows).packs = base.packs := by
    rw [World.addPostPlans_eq]
    rfl
  refine ⟨frozen_apart frozen apart packs (fun plan found => absurd found (none' plan)) ?_,
    fun _ _ => kept_apart apart (fun plan found => absurd found (none' plan))
      fun plan found => absurd found (none' plan)⟩
  intro plan found
  change ((base.addPlan row).addPostPlans rows).plans.find row.id = some plan at found
  rw [World.addPostPlans_eq] at found
  rcases Table.of_find_insertUnless found with known | ⟨rfl, -⟩
  · exact absurd known (none' plan)
  · exact draft

/-- The posts are created and read back. -/
theorem closes_createPostPlans {opened : Session World Key} {fact : World → Prop} {id : Uuid}
    {inputs : List PostPlanInput} (held : (plans around).Held pid opened fact)
    (lands : ∀ rows : List ContentPostPlan, (∀ row ∈ rows, row.contentWeekPlanId = id) →
      (plans around).Lands pid fact fun base => (opened.pending base).addPostPlans rows) :
    (plans around).Closes pid call opened fact (do
      ask (.createPostPlans id inputs)
      includePostPlans (← ask (.findPlan id))) := by
  refine closes_ask fun choice world effect _ executed _ given => ?_
  obtain ⟨-, executed⟩ := ok_of_unless executed
  cases executed
  have reads : Asks ((plans around).Spares pid call)
      (do includePostPlans (← ask (.findPlan id))) :=
    asks_bind (asks_ask (spares_of_shared _ rfl)) (asks_includePostPlans spares_of_shared)
  refine ⟨fact, given, held.extend, closes_of_asks reads ?_ held.extend⟩
  exact lands _ (postPlanRows_ofPlan _ _ _)

theorem maintains_replace {cycleId : Uuid} {week : Nat} {postPlans : List PostPlanInput}
    {ownerUserId : Uuid} : (plans around).Maintains pid call
      (Program.transaction (replacePlan cycleId week postPlans ownerUserId)) := by
  refine maintains_of_closes ?_
  unfold replacePlan assertCycleOwned
  refine closes_assoc (closes_skim held_true (fun _ _ => rfl) fun _ => closes_require fun _ => ?_)
  refine closes_skim held_true (fun _ _ => rfl) fun existing => ?_
  cases existing with
  | none =>
      refine closes_ask fun choice world effect _ executed _ _ => ?_
      obtain ⟨-, executed⟩ := ok_of_unless executed
      cases executed
      refine ⟨fun base => base.plans.find (world.plans.freshKey choice) = none,
        world.plans.find_freshKey choice, ?_,
        closes_createPostPlans ?_ fun rows ofPlan => lands_create ofPlan rfl⟩
      all_goals exact held_plan (· = none) (List.mem_append_left _ (List.mem_cons_self ..))
  | some existing =>
      refine closes_assoc (closes_skim held_true (fun _ _ => rfl) fun posts => ?_)
      refine closes_require fun _ => ?_
      refine closes_ask fun choice world effect _ executed _ _ => ⟨_, trivial, held_true, ?_⟩
      cases executed
      refine closes_ask fun choice now effect admitted executed _ _ => ?_
      obtain ⟨plan, found, rfl⟩ := ok_of_updateRow executed
      refine ⟨fun base => base.plans.find existing.id = some plan, found, ?_,
        closes_createPostPlans ?_ fun rows ofPlan => ?_⟩
      · exact held_plan (· = some plan) (List.mem_append_left _ (List.mem_cons_self ..))
      · exact held_plan (· = some plan) (List.mem_append_left _ (List.mem_cons_self ..))
      refine lands_replace (fun row member => ?_) ofPlan (admitted plan found)
      simpa using (List.mem_filter.mp member).2

/-! ### Claims -/

/-- The posts that the plan has when it is frozen. -/
def notes (input : ClaimInput) : Notes (plans around) pid call input where
  plan := fun base => ∃ row, base.plans.find input.weekPlanId = some row ∧
    input.frozenInput.postPlans = byPosition (base.postPlansOf input.weekPlanId)
  instruction := fun _ => True
  plan_held := by
    rintro opened member before after calm - ⟨row, found, same⟩
    have agree : before.plans.find input.weekPlanId = after.plans.find input.weekPlanId :=
      calm.agree opened rfl _ member
    obtain ⟨later, foundLater, -, unchanged⟩ := calm.rely.plans _ row found
    obtain rfl := Option.some.inj ((agree.symm.trans found).symm.trans foundLater)
    exact ⟨row, foundLater, (unchanged rfl).2 ▸ same⟩
  instruction_held := fun _ => held_true
  plan_noted := fun _ row _ found _ admitted => ⟨row, found, admitted⟩
  instruction_noted := fun _ _ _ _ _ _ _ _ _ => trivial

theorem maintains_claim {cycleId : Uuid} {week : Nat} {weekContextId : Uuid} {jobIntent : Bool} :
    (plans around).Maintains pid call
      (Program.transaction (queuePack cycleId week weekContextId jobIntent)) := by
  refine maintains_queuePack fun base cycle now pack intent frozen claimed _ => ?_
  have samePlans : (base.claimV1 cycleId week weekContextId now pack intent).plans = base.plans := by
    simp [World.claimV1, World.changeCycle, World.addPack, World.freezeContext, World.changeContext]
  have samePosts : (base.claimV1 cycleId week weekContextId now pack intent).postPlans =
      base.postPlans := by
    simp [World.claimV1, World.changeCycle, World.addPack, World.freezeContext, World.changeContext]
  have packs : (base.claimV1 cycleId week weekContextId now pack intent).packs =
      (base.addPack pack).packs := by
    simp [World.claimV1, World.changeCycle, World.addPack, World.freezeContext, World.changeContext]
  refine ⟨⟨fun id other planId found planned => ?_, snapshot_of_same frozen samePlans samePosts⟩,
    fun _ _ => kept_of_same samePlans samePosts⟩
  rw [packs] at found
  rw [samePlans]
  rcases Table.of_find_insertUnless found with known | ⟨rfl, -⟩
  · exact frozen.claimed id other planId known planned
  · cases claimed.place.2.2.2.1.symm.trans planned

/-- The plan of the claim is frozen with its posts. -/
theorem frozen_claimV2 {base after : World} {input : ClaimInput} {cycle : ContentCycle}
    {pack : ContentPack} (frozen : Frozen base)
    (claimed : ClaimedV2 (notes input : Notes (plans around) pid call input) cycle pack base)
    (plans : after.plans = (base.freezePlan input.weekPlanId input.cycleId input.weekNumber
      input.frozenInput).plans)
    (postPlans : after.postPlans = base.postPlans) (packs : after.packs = (base.addPack pack).packs) :
    Frozen after ∧ PlansKept base after := by
  obtain ⟨plan, found, isDraft⟩ := (Option.any_eq_true ..).mp claimed.draft
  obtain ⟨-, -, posts⟩ := claimed.noted
  have sameId : plan.id = input.weekPlanId := Table.key_of_find found
  have draft : ∀ row, base.plans.find input.weekPlanId = some row → row.status = .draft := by
    intro row known
    obtain rfl := Option.some.inj (known.symm.trans found)
    exact of_decide_eq_true ((Bool.and_eq_true ..).mp isDraft).2
  have foundAfter : after.plans.find input.weekPlanId = some
      { plan with
        status := .frozen
        frozenInput := some input.frozenInput
        updates := plan.updates + 1 } := by
    rw [plans, World.find_freezePlan found, if_pos (by simp [sameId, isDraft])]
  have apart : Apart base after input.weekPlanId := by
    refine ⟨fun other distinct => ?_, fun other _ => postPlansOf_of_same postPlans other⟩
    rw [plans]
    simp only [World.freezePlan]
    exact Table.find_update_of_ne distinct
  refine ⟨⟨fun id other planId foundPack planned => ?_, fun other row known isFrozen => ?_⟩,
    kept_apart apart draft fun row known => ?_⟩
  · rw [packs] at foundPack
    rcases Table.of_find_insertUnless foundPack with known | ⟨rfl, -⟩
    · obtain ⟨row, foundRow, isFrozen⟩ := frozen.claimed id other planId known planned
      have distinct : planId ≠ input.weekPlanId := by
        rintro rfl
        exact absurd ((draft row foundRow).symm.trans isFrozen) (by simp)
      exact ⟨row, (apart.plans planId distinct).trans foundRow, isFrozen⟩
    · obtain rfl := Option.some.inj (claimed.place.2.2.2.1.symm.trans planned)
      exact ⟨_, foundAfter, rfl⟩
  · by_cases same : other = input.weekPlanId
    · subst same
      obtain rfl := Option.some.inj (known.symm.trans foundAfter)
      exact ⟨_, rfl, posts.trans (by rw [postPlansOf_of_same postPlans])⟩
    · rw [apart.postPlans other same]
      exact frozen.snapshot other row (apart.plans other same ▸ known) isFrozen
  · obtain rfl := Option.some.inj (known.symm.trans found)
    exact ⟨_, foundAfter, Nat.lt_succ_self _⟩

theorem maintains_claimV2 {input : ClaimInput} : (plans around).Maintains pid call
    (Program.transaction (queuePackV2 input)) := by
  refine maintains_queuePackV2 (notes input) fun base cycle now pack intent frozen claimed => ?_
  have kept : Frozen (base.claimV2 input now pack intent) ∧
      PlansKept base (base.claimV2 input now pack intent) := by
    refine frozen_claimV2 frozen claimed ?_ ?_ ?_
    all_goals simp [World.claimV2, World.changeCycle, World.addPack, World.freezeContext,
      World.changeContext, World.freezePlan]
  exact ⟨kept.1, fun _ _ => kept.2⟩

/-! ### Every run -/

theorem operations : Operations
    (fun _ program => (plans around).Maintains pid call program) fun _ => True where
  toComposable := composable_maintains (plans around) pid call
  shared asked isShared := (spares_of_shared asked isShared).maintains
  asks body := maintains_of_asks (asks_mono body spares_of_shared)
  claim _ _ _ _ _ _ := maintains_claim
  claimV2 _ _ _ _ := maintains_claimV2
  advance _ expected := maintains_of_asks (asks_rollOver spares_of_shared
    (spares_of_part .advance (by decide) _ rfl)
    (fun _ _ => spares_of_part .advance (by decide) _ rfl) expected)
  replace _ _ _ _ := maintains_replace
  createCycle _ _ _ := maintains_of_asks (asks_bind (asks_ask (spares_of_shared _ rfl)) fun _ =>
    asks_bind (asks_ask (spares_of_shared _ rfl)) fun _ => asks_pure _)
  deliver _ _ _ _ _ := maintains_of_asks
    (asks_deliverItems spares_of_shared (spares_of_part .deliver (by decide)) _ _ _ _)
  fail _ _ := maintains_of_asks
    (asks_safeFail spares_of_shared (spares_of_part .fail (by decide)) _ _)

theorem safe : (plans around).Safe fun _ _ => True :=
  safe_of_maintains fun _ call _ _ _ =>
    operations.program around call (fun _ _ _ _ _ => trivial) fun _ _ => trivial

def passes (_ : Pid) (_ : Call) : Statement → World → Bool
  | .reopenPlan id, world => (world.plans.find id).all (·.status = .draft)
  | .freezePlan id _ _ frozenInput, world =>
      frozenInput.postPlans = byPosition (world.postPlansOf id)
  | .markPlans _ _ _, _ | .attachGeneratedItem _ _ _, _ => false
  | _, _ => true

theorem admits_of_passes (pid : Pid) (call : Call) (asked : Statement) (world : World)
    (passing : passes pid call asked world = true) : discipline.admits pid call asked world := by
  cases asked <;> try trivial
  case reopenPlan id =>
    intro plan found
    simpa [passes, found] using passing
  case freezePlan id cycleId week frozenInput =>
    show frozenInput.postPlans = byPosition (world.postPlansOf id)
    simpa [passes] using passing

end MarketMind.Content.Plans
