import MarketMind.Content.Generator
import MarketMind.Content.Processor
import MarketMind.Content.Writes
import MarketMind.Transactions.Returns

/-!
Owns the correspondence between the cards of a frozen plan and the items that are generated for
them: what the AI service hands over, what is stored and attached, and which card a later rewrite
is checked against.

Does not own the texts of the items.
-/

namespace MarketMind.Content

open MarketMind.Transactions

namespace Generator

/-! ### What the service sets from a card -/

/-- The destination that the owner confirmed. -/
def CtaLibraryEntry.confirmed (entry : CtaLibraryEntry) : Option String :=
  if entry.destination.type = .none then none else entry.destination.value.filter (!isBlank ·)

/-- A call to action leads to the destination that is confirmed, if there is one. -/
def LeadsTo (destination cta : Option String) : Prop :=
  match destination with
  | none => cta = none
  | some destination => ∃ label, cta = some (label ++ ": " ++ destination)

/-- So do all calls to action of an item. -/
structure ItemVersion.LeadsTo (item : ItemVersion) (destination : Option String) : Prop where
  top : Generator.LeadsTo destination item.cta
  variants : ∀ variant ∈ item.captionVariants, Generator.LeadsTo destination variant.cta
  script : ∀ script, item.shortVideoScript = some script →
    Generator.LeadsTo destination script.closingCta

def GenerateRequest.destinationOf (request : GenerateRequest) (card : ContentPostPlan) :
    Option String :=
  (ctaById request.ctaEntries card.input.ctaLibraryEntryId).bind CtaLibraryEntry.confirmed

theorem normalizedCta_leadsTo (ctaEntry : Option CtaLibraryEntry) (locale : Locale) :
    LeadsTo (ctaEntry.bind CtaLibraryEntry.confirmed) (normalizedCta ctaEntry locale) := by
  cases ctaEntry with
  | none => rfl
  | some entry =>
      unfold normalizedCta
      dsimp only [Option.bind_some, CtaLibraryEntry.confirmed]
      split
      · rfl
      · cases value : entry.destination.value with
        | none => rfl
        | some destination =>
            cases blank : isBlank destination with
            | true => simp [Option.filter, blank, LeadsTo]
            | false => simp [Option.filter, blank, LeadsTo]

/-- An item as it is between the steps of the service, for a card whose media it may refer to. -/
structure Staged (request : GenerateRequest) (card : ContentPostPlan) (item : ItemVersion) :
    Prop where
  required : item.assetRequired = decide (card.input.format ∈ mediaFormats)
  media : item.assetIds = card.input.selectedMediaIds
  leads : item.LeadsTo (request.destinationOf card)

/-- The visuals that an item gets: for a format that needs media those of its card, or one that is
generated for it, and none for the other formats. -/
def mediaFor (service : Service) (card : ContentPostPlan) (itemId : Uuid) : List Uuid :=
  if card.input.format ∈ mediaFormats then
    if card.input.selectedMediaIds = [] then [service.generatedAssetId itemId]
    else card.input.selectedMediaIds
  else []

/-- An item as the service hands it over. -/
structure FromCard (service : Service) (request : GenerateRequest) (card : ContentPostPlan)
    (item : ItemVersion) : Prop where
  required : item.assetRequired = decide (card.input.format ∈ mediaFormats)
  media : item.assetIds = mediaFor service card item.id
  leads : item.LeadsTo (request.destinationOf card)

variable {service : Service} {request : GenerateRequest} {v1Request : ItemRequest}
  {card : ContentPostPlan} {item : ItemVersion}

theorem staged_normalizeItem : Staged request card (normalizeItem service request v1Request card item) where
  required := rfl
  media := rfl
  leads :=
    { top := normalizedCta_leadsTo _ _
      variants := by
        intro variant member
        obtain ⟨original, -, rfl⟩ := List.mem_map.mp member
        exact normalizedCta_leadsTo _ _
      script := by
        intro script isScript
        dsimp only [normalizeItem] at isScript
        split at isScript
        · obtain ⟨original, -, rfl⟩ := Option.map_eq_some_iff.mp isScript
          exact normalizedCta_leadsTo _ _
        · cases isScript }

/-- The identities that the service sets, and the media of a format that needs none. -/
theorem assetIds_finalizeItem (staged : Staged request card item)
    (approved : ∀ id ∈ card.input.selectedMediaIds, id ∈ v1Request.approvedAssetIds)
    (attempt : Attempt) (index : Nat) :
    (finalizeItem service v1Request attempt index item).assetIds =
      if card.input.format ∈ mediaFormats then card.input.selectedMediaIds else [] := by
  show (if item.assetRequired then item.assetIds.filter (· ∈ v1Request.approvedAssetIds) else []) =
    _
  rw [staged.required, staged.media]
  by_cases needed : card.input.format ∈ mediaFormats
  · rw [if_pos (decide_eq_true needed), if_pos needed, List.filter_eq_self]
    exact fun id member => decide_eq_true (approved id member)
  · rw [if_neg needed, if_neg (by simpa using needed)]

theorem fromCard_finish (staged : Staged request card item)
    (approved : ∀ id ∈ card.input.selectedMediaIds, id ∈ v1Request.approvedAssetIds)
    (attempt : Attempt) (index : Nat) :
    FromCard service request card
      (normalizeFinalizedItem service (finalizeItem service v1Request attempt index item)) where
  required := staged.required
  media := by
    have kept := @assetIds_finalizeItem service _ _ _ _ staged approved attempt index
    have required : (finalizeItem service v1Request attempt index item).assetRequired =
        decide (card.input.format ∈ mediaFormats) := staged.required
    dsimp only [normalizeFinalizedItem, mediaFor]
    rw [kept, required]
    by_cases needed : card.input.format ∈ mediaFormats
    · by_cases none : card.input.selectedMediaIds = [] <;> simp [needed, none]
    · simp [needed]
  leads := ⟨staged.leads.top, staged.leads.variants, staged.leads.script⟩

theorem fromCard_again (fromCard : FromCard service request card item) :
    FromCard service request card (normalizeFinalizedItem service item) where
  required := fromCard.required
  media := by
    dsimp only [normalizeFinalizedItem]
    rw [fromCard.required, fromCard.media]
    unfold mediaFor
    by_cases needed : card.input.format ∈ mediaFormats
    · by_cases none : card.input.selectedMediaIds = [] <;> simp [needed, none]
    · simp [needed]
  leads := ⟨fromCard.leads.top, fromCard.leads.variants, fromCard.leads.script⟩

theorem fromCard_safeRepair (fromCard : FromCard service request card item) :
    FromCard service request card (safeRepairItem service request v1Request card item) := by
  unfold safeRepairItem
  dsimp only
  split
  · refine ⟨fromCard.required, fromCard.media, fromCard.leads.top, ?_, ?_⟩
    · intro variant member
      obtain ⟨original, isOriginal, rfl⟩ := List.mem_map.mp member
      exact fromCard.leads.variants original isOriginal
    · intro script isScript
      obtain ⟨original, isOriginal, rfl⟩ := Option.map_eq_some_iff.mp isScript
      exact fromCard.leads.script original isOriginal
  · exact fromCard

/-! ### Card by card -/

/-- Items in the order of the cards. -/
def InOrder (R : ContentPostPlan → ItemVersion → Prop) (cards : List ContentPostPlan)
    (items : List ItemVersion) : Prop :=
  items.length = cards.length ∧
    ∀ (index : Nat) card item, cards[index]? = some card → items[index]? = some item → R card item

theorem inOrder_zipWith {R : ContentPostPlan → ItemVersion → Prop} {cards : List ContentPostPlan}
    {items : List ItemVersion} {change : ContentPostPlan → ItemVersion → ItemVersion}
    (sameLength : items.length = cards.length)
    (holds : ∀ (index : Nat) card item, cards[index]? = some card → items[index]? = some item →
      R card (change card item)) :
    InOrder R cards (List.zipWith change cards items) := by
  refine ⟨by simp [sameLength], fun index card item isCard isItem => ?_⟩
  rw [List.getElem?_zipWith, isCard] at isItem
  cases original : items[index]? with
  | none =>
      rw [original] at isItem
      cases isItem
  | some before =>
      rw [original] at isItem
      obtain rfl := Option.some.inj isItem
      exact holds index card before isCard original

theorem inOrder_mapIdx {R S : ContentPostPlan → ItemVersion → Prop} {cards : List ContentPostPlan}
    {items : List ItemVersion} {change : Nat → ItemVersion → ItemVersion}
    (inOrder : InOrder R cards items)
    (holds : ∀ index card item, card ∈ cards → R card item → S card (change index item)) :
    InOrder S cards (items.mapIdx change) := by
  refine ⟨by rw [List.length_mapIdx, inOrder.1], fun index card item isCard isItem => ?_⟩
  rw [List.getElem?_mapIdx] at isItem
  obtain ⟨before, isBefore, rfl⟩ := Option.map_eq_some_iff.mp isItem
  exact holds index card before (List.mem_of_getElem? isCard)
    (inOrder.2 index card before isCard isBefore)

theorem inOrder_map {R S : ContentPostPlan → ItemVersion → Prop} {cards : List ContentPostPlan}
    {items : List ItemVersion} {change : ItemVersion → ItemVersion} (inOrder : InOrder R cards items)
    (holds : ∀ card item, R card item → S card (change item)) :
    InOrder S cards (items.map change) := by
  refine ⟨by rw [List.length_map, inOrder.1], fun index card item isCard isItem => ?_⟩
  rw [List.getElem?_map] at isItem
  obtain ⟨before, isBefore, rfl⟩ := Option.map_eq_some_iff.mp isItem
  exact holds card before (inOrder.2 index card before isCard isBefore)

theorem accept_ok {issues : List ValidationIssue} {items accepted : List ItemVersion}
    (isAccepted : accept issues items = .ok accepted) : issues = [] ∧ accepted = items := by
  cases issues with
  | nil => exact ⟨rfl, (Except.ok.inj isAccepted).symm⟩
  | cons first rest => cases isAccepted

theorem approved_of_request (converted : v2GenerateToV1Request request = .ok v1Request)
    (isCard : card ∈ request.cards) :
    ∀ id ∈ card.input.selectedMediaIds, id ∈ v1Request.approvedAssetIds := by
  intro id member
  unfold v2GenerateToV1Request at converted
  split at converted
  · cases converted
  · split at converted
    · cases converted
    · split at converted
      · cases converted
      · obtain rfl := Except.ok.inj converted
        exact List.mem_flatMap.mpr ⟨card, isCard, member⟩

theorem inOrder_finish (converted : v2GenerateToV1Request request = .ok v1Request)
    (attempt : Attempt) {items : List ItemVersion} (sameLength : items.length = request.cards.length) :
    InOrder (FromCard service request) request.cards
      (finish service request v1Request attempt items) := by
  have staged : InOrder (Staged request) request.cards
      (normalizeV2GeneratedItems service request v1Request items) := by
    unfold normalizeV2GeneratedItems
    rw [if_neg (not_not.mpr sameLength)]
    exact inOrder_zipWith sameLength fun _ _ _ _ _ => staged_normalizeItem
  have finalized := inOrder_mapIdx
    (S := fun card item => FromCard service request card (normalizeFinalizedItem service item))
    staged fun index card item isCard isStaged =>
      fromCard_finish isStaged (approved_of_request converted isCard) attempt (index + 1)
  exact inOrder_map finalized fun _ _ fromCard => fromCard

theorem length_finish {attempt : Attempt} {items : List ItemVersion}
    (isCount : (finish service request v1Request attempt items).length = request.cards.length) :
    items.length = request.cards.length := by
  by_contra differs
  refine differs ?_
  have sameItems : normalizeV2GeneratedItems service request v1Request items = items :=
    if_pos differs
  rw [finish, sameItems, normalizeV2FinalizedItems, finalizeGeneratedItems, List.length_map,
    List.length_mapIdx] at isCount
  exact isCount

theorem length_safeRepair {items : List ItemVersion} {issues : List ValidationIssue} :
    (deterministicSafeRepairV2 service request v1Request items issues).length = items.length := by
  unfold deterministicSafeRepairV2
  split
  · rfl
  · next proper =>
    rw [not_or, not_not] at proper
    simp [proper.1]

theorem inOrder_safeRepair {items : List ItemVersion} {issues : List ValidationIssue}
    (inOrder : InOrder (FromCard service request) request.cards items) :
    InOrder (FromCard service request) request.cards
      (deterministicSafeRepairV2 service request v1Request items issues) := by
  unfold deterministicSafeRepairV2
  split
  · exact inOrder
  · refine inOrder_zipWith inOrder.1 fun index card item isCard isItem => ?_
    exact fromCard_safeRepair (inOrder.2 index card item isCard isItem)

/-- Whatever an attempt returns was set from the cards, if it has as many items. -/
theorem inOrder_tryAttempt (converted : v2GenerateToV1Request request = .ok v1Request)
    {isLast : Bool} {attempt : Attempt} {items : List ItemVersion}
    (tried : tryAttempt service request v1Request isLast attempt = .ok items)
    (isCount : items.length = request.cards.length) :
    InOrder (FromCard service request) request.cards items := by
  unfold tryAttempt at tried
  cases answered : attempt.answer with
  | error error =>
      rw [answered] at tried
      cases tried
  | ok generated =>
      rw [answered] at tried
      dsimp only [bind, Except.bind] at tried
      split at tried
      · cases tried
      · split at tried
        · cases tried
        · split at tried
          · split at tried
            · cases tried
            · obtain ⟨-, rfl⟩ := accept_ok tried
              rw [normalizeV2FinalizedItems, List.length_map, length_safeRepair] at isCount
              have inOrder := @inOrder_finish service _ _ converted attempt _ (length_finish isCount)
              exact inOrder_map (inOrder_safeRepair inOrder) fun _ _ => fromCard_again
          · obtain ⟨-, rfl⟩ := accept_ok tried
            exact inOrder_finish converted attempt (length_finish isCount)

theorem inOrder_generateWithRepair (converted : v2GenerateToV1Request request = .ok v1Request)
    {left : Nat} {attempt : Attempt} {later : List Attempt} {items : List ItemVersion}
    (generated : generateWithRepair service request v1Request left attempt later = .ok items)
    (isCount : items.length = request.cards.length) :
    InOrder (FromCard service request) request.cards items := by
  induction later generalizing left attempt with
  | nil =>
      unfold generateWithRepair at generated
      split at generated
      · next tried =>
        obtain rfl := Except.ok.inj generated
        exact inOrder_tryAttempt converted tried isCount
      · next isNext _ => cases isNext
      · cases generated
  | cons next later inductionHypothesis =>
      unfold generateWithRepair at generated
      split at generated
      · next tried =>
        obtain rfl := Except.ok.inj generated
        exact inOrder_tryAttempt converted tried isCount
      · next same _ =>
        obtain ⟨rfl, rfl⟩ := List.cons.inj same
        split at generated
        · exact inductionHypothesis generated
        · cases generated
      · cases generated

theorem aligned_of_valid {cards : List ContentPostPlan} {items : List ItemVersion}
    (valid : validatePlanAlignment cards items = []) :
    InOrder (fun card item => item.channel = card.input.channel ∧ item.format = card.input.format)
      cards items := by
  unfold validatePlanAlignment at valid
  split at valid
  · cases valid
  · next sameLength =>
    refine ⟨not_not.mp sameLength, fun index card item isCard isItem => ?_⟩
    have member : ((card, item), index) ∈ (cards.zip items).zipIdx := by
      rw [List.mem_zipIdx_iff_getElem?, List.getElem?_zip_eq_some]
      exact ⟨isCard, isItem⟩
    have noIssue := List.flatMap_eq_nil_iff.mp valid _ member
    dsimp only at noIssue
    split at noIssue
    · cases noIssue
    · next agree =>
      rw [not_or, not_not, not_not] at agree
      exact agree

/-- What an accepted answer is. -/
theorem generated_inOrder {first : Attempt} {later : List Attempt} {items : List ItemVersion}
    (accepted : generateV2ContentPack service request first later = .ok items) :
    InOrder (fun card item => FromCard service request card item ∧
      item.channel = card.input.channel ∧ item.format = card.input.format) request.cards items := by
  unfold generateV2ContentPack at accepted
  cases converted : v2GenerateToV1Request request with
  | error error =>
      rw [converted] at accepted
      cases accepted
  | ok v1Request =>
      rw [converted] at accepted
      dsimp only [bind, Except.bind] at accepted
      split at accepted
      · cases accepted
      · split at accepted
        · cases accepted
        · next generated =>
          obtain ⟨valid, rfl⟩ := accept_ok accepted
          have aligned := aligned_of_valid (List.append_eq_nil_iff.mp valid).1
          have inOrder := inOrder_generateWithRepair converted generated aligned.1
          exact ⟨aligned.1, fun index card item isCard isItem =>
            ⟨inOrder.2 index card item isCard isItem, aligned.2 index card item isCard isItem⟩⟩

/-! ### Versions -/

def textOrNull : Option String → Json
  | none => .null
  | some text => .string text

def texts (values : List String) : Json := .array (values.map .string)

def number (value : Int) : Json := .number (.integer value)

def identity (id : Uuid) : Json := .string (toString id)

def CaptionVariant.json (variant : CaptionVariant) : Json :=
  .object [("locale", .string (if variant.locale = .ar then "ar" else "en")),
    ("dialect", .string variant.dialect), ("caption", .string variant.caption),
    ("cta", textOrNull variant.cta), ("hashtags", texts variant.hashtags)]

def ShortVideoScript.json (script : ShortVideoScript) : Json :=
  .object [("hook", .string script.hook),
    ("scenes", .array (script.scenes.map fun scene =>
      .object [("order", number scene.order), ("visual_direction", .string scene.visualDirection),
        ("voiceover", textOrNull scene.voiceover),
        ("on_screen_text", textOrNull scene.onScreenText)])),
    ("closing_cta", textOrNull script.closingCta)]

/-- The texts and traces of a version, as `handleGenerateV2` passes them on. -/
def ItemVersion.body (item : ItemVersion) : Json :=
  .object [("language_mode", .string item.languageMode),
    ("strategy_trace", .object [("strategy_id", identity item.strategyTrace.strategyId),
      ("strategy_version", number item.strategyTrace.strategyVersion),
      ("week_number", number item.strategyTrace.weekNumber),
      ("pillar_ids", .array (item.strategyTrace.pillarIds.map identity)),
      ("objective", .string item.strategyTrace.objective),
      ("channel", .string item.strategyTrace.channel)]),
    ("caption_variants", .array (item.captionVariants.map CaptionVariant.json)),
    ("cta", textOrNull item.cta), ("hashtags", texts item.hashtags),
    ("creative_brief", .string item.creativeBrief), ("alt_text", .string item.altText),
    ("short_video_script", (item.shortVideoScript.map ShortVideoScript.json).getD .null),
    ("recommended_publish_window", .object [
      ("starts_at", number item.recommendedPublishWindow.startsAt),
      ("ends_at", number item.recommendedPublishWindow.endsAt),
      ("rationale", .string item.recommendedPublishWindow.rationale)]),
    ("claim_sources", .array (item.claimSources.map fun claim =>
      .object [("claim_type", .string claim.claimType), ("source_type", .string claim.sourceType),
        ("source_path", .string claim.sourcePath), ("approved", .boolean claim.approved)])),
    ("warnings", texts item.warnings), ("blockers", texts item.blockers)]

def ItemVersion.draft (item : ItemVersion) : ContentItemVersionDraft where
  id := item.id
  contentItemId := item.contentItemId
  channel := item.channel
  format := item.format
  assetRequired := item.assetRequired
  assetIds := item.assetIds
  versionChecksum := item.versionChecksum
  body := item.body

end Generator

open Generator (ItemVersion GenerateRequest ReviseRequest Service)

/-- What `rewriteItem` stores of the answer: the media stay those of the base version. -/
def rewritten (base : ContentItemVersionDraft) (id : Uuid) (item : ItemVersion) :
    ContentItemVersionDraft :=
  { item.draft with
    id
    contentItemId := base.contentItemId
    assetRequired := base.assetRequired
    assetIds := base.assetIds }

/-- The versions that an item can come to have. An edit of the owner changes texts, an update of
the media changes these, and both keep the channel and the format; a rewrite is what the AI service
answers. -/
inductive Succeeds (service : Service) (first : ContentItemVersionDraft) :
    ContentItemVersionDraft → Prop
  | generated : Succeeds service first first
  | directEdit {base : ContentItemVersionDraft} (before : Succeeds service first base) (id : Uuid)
      (versionChecksum : String) (body : Json) :
      Succeeds service first { base with id, versionChecksum, body }
  | mediaUpdate {base : ContentItemVersionDraft} (before : Succeeds service first base) (id : Uuid)
      (assetIds : List Uuid) (versionChecksum : String) (body : Json) :
      Succeeds service first { base with id, assetIds, versionChecksum, body }
  | rewrite {base : ContentItemVersionDraft} (before : Succeeds service first base) (id : Uuid)
      {request : ReviseRequest} {attempt : Generator.RevisionAttempt}
      {later : List Generator.RevisionAttempt} {item : ItemVersion}
      (isBase : request.baseItemVersion.draft = base)
      (revised : Generator.reviseV2ContentItem service request attempt later = .ok item) :
      Succeeds service first (rewritten base id item)

theorem Generator.same_of_unlocked {left right field : String}
    (unchanged : Generator.lockedIssue (left ≠ right) field = []) : left = right := by
  by_contra differs
  unfold Generator.lockedIssue Generator.issueWhen at unchanged
  rw [if_pos (decide_eq_true differs)] at unchanged
  cases unchanged

theorem Generator.kept_of_valid {service : Service} {base item : ItemVersion}
    {context : Generator.ItemRequest}
    (valid : Generator.revisionIssues service base item context = []) :
    item.channel = base.channel ∧ item.format = base.format := by
  unfold Generator.revisionIssues at valid
  simp only [List.append_eq_nil_iff] at valid
  have first := valid.1.1.1.1.1.1.1.1.1.1.1.1.1.1
  exact ⟨Generator.same_of_unlocked first.1.2, Generator.same_of_unlocked first.2⟩

theorem Generator.kept_of_revised {service : Service} {request : ReviseRequest}
    {attempt : Generator.RevisionAttempt} {later : List Generator.RevisionAttempt}
    {item : ItemVersion}
    (revised : Generator.reviseV2ContentItem service request attempt later = .ok item) :
    item.channel = request.baseItemVersion.channel ∧
      item.format = request.baseItemVersion.format := by
  unfold Generator.reviseV2ContentItem at revised
  dsimp only [bind, Except.bind] at revised
  split at revised
  · cases revised
  · split at revised
    · cases revised
    · split at revised
      · cases revised
      · split at revised
        · cases revised
        · split at revised
          · cases revised
          · next isValid =>
            obtain rfl := Except.ok.inj revised
            obtain ⟨valid, -⟩ := Generator.accept_ok isValid
            have kept := Generator.kept_of_valid valid
            exact kept

/-- Every version of an item has the channel and the format of the first. -/
theorem Succeeds.kept {service : Service} {first version : ContentItemVersionDraft}
    (succeeds : Succeeds service first version) :
    version.channel = first.channel ∧ version.format = first.format := by
  induction succeeds with
  | generated => exact ⟨rfl, rfl⟩
  | directEdit _ _ _ _ inductionHypothesis => exact inductionHypothesis
  | mediaUpdate _ _ _ _ _ inductionHypothesis => exact inductionHypothesis
  | rewrite _ _ isBase revised inductionHypothesis =>
      obtain ⟨channel, format⟩ := Generator.kept_of_revised revised
      subst isBase
      exact ⟨channel.trans inductionHypothesis.1, format.trans inductionHypothesis.2⟩

/-! ### Storing and attaching -/

section Delivery

open Store

variable {around : Surroundings} {schedule : Schedule} {start : World}

/-- The plan has a post at the position. -/
def Placed (world : World) (planId : Uuid) (position : Nat) : Prop :=
  ∃ row ∈ world.postPlans.rows, row.at planId position = true

/-- The plans are as they were, and their posts in the same places. -/
structure Untouched (start world : World) : Prop where
  plans : world.plans = start.plans
  placed : ∀ planId position, Placed world planId position ↔ Placed start planId position

/-- The item is stored with its first version, which is current. -/
structure StoredItem (packId : Uuid) (world : World) (draft : ContentItemVersionDraft) : Prop where
  item : world.items.find draft.contentItemId = some ⟨draft.contentItemId, packId, some draft.id⟩
  version : world.versions.find draft.id = some ⟨packId, 1, draft⟩

/-- These items are stored, under identities of their own. -/
structure StoredItems (start : World) (packId : Uuid) (drafts : List ContentItemVersionDraft)
    (world : World) : Prop where
  untouched : Untouched start world
  stored : ∀ draft ∈ drafts, StoredItem packId world draft
  distinct : (drafts.map ContentItemVersionDraft.contentItemId).Nodup

/-- The item is attached to the post at the position. -/
structure Attached (world : World) (planId : Uuid) (position : Nat) (itemId : Uuid) : Prop where
  only : ∀ row ∈ world.postPlans.rows, row.at planId position = true → row.contentItemId = some itemId

theorem placed_changePostPlans {world : World} {ids : List Uuid} {allowed : ContentPostPlan → Bool}
    {next : PlanState} {itemId : Option Uuid} {planId : Uuid} {position : Nat} :
    Placed (world.changePostPlans ids allowed next itemId) planId position ↔
      Placed world planId position := by
  have sameAt : ∀ row : ContentPostPlan,
      (if row.id ∈ ids && allowed row then
          { row with planState := next, contentItemId := itemId.or row.contentItemId }
        else row).at planId position = row.at planId position := by
    intro row
    split <;> rfl
  constructor
  · rintro ⟨row, member, isThere⟩
    obtain ⟨old, isOld, rfl⟩ := List.mem_map.mp member
    exact ⟨old, isOld, (sameAt old).symm.trans isThere⟩
  · rintro ⟨row, member, isThere⟩
    exact ⟨_, List.mem_map_of_mem member, (sameAt row).trans isThere⟩

theorem Untouched.changePostPlans {world : World} {ids : List Uuid}
    {allowed : ContentPostPlan → Bool} {next : PlanState} {itemId : Option Uuid}
    (untouched : Untouched start world) :
    Untouched start (world.changePostPlans ids allowed next itemId) where
  plans := untouched.plans
  placed planId position := placed_changePostPlans.trans (untouched.placed planId position)

theorem attached_self {world : World} {planId : Uuid} {position : Nat} {itemId : Uuid} :
    Attached (world.changePostPlans (world.postPlans.keysOf (ContentPostPlan.at planId position))
      (ContentPostPlan.at planId position) .ready (some itemId)) planId position itemId := by
  constructor
  intro row member isThere
  obtain ⟨old, isOld, rfl⟩ := List.mem_map.mp member
  split
  · rfl
  · next unhit =>
    rw [if_neg unhit] at isThere
    refine absurd ?_ unhit
    rw [Bool.and_eq_true, decide_eq_true_eq]
    exact ⟨Table.mem_keysOf.mpr ⟨old, Table.find_of_mem isOld, isThere⟩, isThere⟩

theorem Attached.changePostPlans {world : World} {planId other : Uuid} {position place : Nat}
    {itemId : Uuid} {ids : List Uuid} {next : PlanState} {attached : Option Uuid}
    (isAttached : Attached world planId position itemId) (apart : place ≠ position) :
    Attached (world.changePostPlans ids (ContentPostPlan.at other place) next attached) planId
      position itemId := by
  constructor
  intro row member isThere
  obtain ⟨old, isOld, rfl⟩ := List.mem_map.mp member
  split
  · next hit =>
    rw [if_pos hit] at isThere
    have here : old.input.position = position := (ContentPostPlan.at_iff.mp isThere).2
    have there := (ContentPostPlan.at_iff.mp (Bool.and_eq_true_iff.mp hit).2).2
    exact absurd (there.symm.trans here) apart
  · next unhit =>
    rw [if_neg unhit] at isThere
    exact isAttached.only old isOld isThere

/-- Only the tables of the cards, the items and the packs count here. -/
theorem StoredItems.of_same {packId : Uuid} {drafts : List ContentItemVersionDraft}
    {world after : World} (stored : StoredItems start packId drafts world)
    (plans : after.plans = world.plans) (postPlans : after.postPlans = world.postPlans)
    (items : after.items = world.items) (versions : after.versions = world.versions) :
    StoredItems start packId drafts after where
  untouched :=
    { plans := plans.trans stored.untouched.plans
      placed := by
        unfold Placed
        rw [postPlans]
        exact stored.untouched.placed }
  stored draft member :=
    { item := (congrArg (·.find draft.contentItemId) items).trans (stored.stored draft member).item
      version := (congrArg (·.find draft.id) versions).trans (stored.stored draft member).version }
  distinct := stored.distinct

theorem returns_require {isOpen : Bool} {pre : World → Prop} {condition : Bool}
    {error : ContentError} :
    (store around).Returns schedule isOpen pre (require condition error) fun _ world =>
      pre world ∧ condition = true := by
  unfold require
  cases condition with
  | true => exact returns_pure fun _ before => ⟨before, rfl⟩
  | false => exact returns_throw

/-- A statement on other tables. -/
theorem returns_untouched {isOpen : Bool} {asked : Statement}
    (aside : asked.area ≠ some .plans ∧ asked.area ≠ some .postPlans) :
    (store around).Returns schedule isOpen (Untouched start) (ask asked) fun _ =>
      Untouched start := by
  refine returns_beside fun choice world effect before executed => ?_
  have same := sameBut_of_exec executed world
  refine ⟨(same.plans aside.1).trans before.plans, ?_⟩
  unfold Placed
  rw [(same.postPlans aside.2).1]
  exact before.placed

theorem returns_createItems {packId : Uuid} {done drafts : List ContentItemVersionDraft} :
    (store around).Returns schedule true (StoredItems start packId done)
      (createItems packId drafts) fun _ => StoredItems start packId (done ++ drafts) := by
  induction drafts generalizing done with
  | nil =>
      rw [List.append_nil]
      exact returns_pure fun _ before => before
  | cons draft rest inductionHypothesis =>
      have split : done ++ draft :: rest = (done ++ [draft]) ++ rest := by simp
      rw [split]
      -- the item, then its version, then the link between them
      refine returns_bind (fun _ world => StoredItems start packId done world ∧
        draft.contentItemId ∉ done.map ContentItemVersionDraft.contentItemId ∧
          world.items.find draft.contentItemId = some ⟨draft.contentItemId, packId, none⟩) ?_
        fun _ => ?_
      · refine returns_ask fun choice world effect before executed => ?_
        obtain ⟨fresh, executed⟩ := ok_of_unless executed
        cases executed
        have absent : world.items.find draft.contentItemId = none :=
          Option.not_isSome_iff_eq_none.mp fresh
        refine ⟨⟨⟨before.untouched.plans, before.untouched.placed⟩, fun other member => ⟨?_, ?_⟩,
          before.distinct⟩, ?_, Table.find_insert_self absent⟩
        · exact Table.find_insert_of_found (before.stored other member).item
        · exact (before.stored other member).version
        · intro known
          obtain ⟨other, member, same⟩ := List.mem_map.mp known
          have found := (before.stored other member).item
          rw [same, absent] at found
          cases found
      refine returns_bind (fun _ world => StoredItems start packId done world ∧
        draft.contentItemId ∉ done.map ContentItemVersionDraft.contentItemId ∧
          world.items.find draft.contentItemId = some ⟨draft.contentItemId, packId, none⟩ ∧
            world.versions.find draft.id = some ⟨packId, 1, draft⟩) ?_ fun _ => ?_
      · refine returns_ask fun choice world effect before executed => ?_
        obtain ⟨before, apart, isItem⟩ := before
        obtain ⟨fresh, executed⟩ := ok_of_unless executed
        cases executed
        have absent : world.versions.find draft.id = none :=
          Option.not_isSome_iff_eq_none.mp fresh
        refine ⟨⟨⟨before.untouched.plans, before.untouched.placed⟩, fun other member => ⟨?_, ?_⟩,
          before.distinct⟩, apart, isItem, Table.find_insert_self absent⟩
        · exact (before.stored other member).item
        · exact Table.find_insert_of_found (before.stored other member).version
      refine returns_bind (fun _ => StoredItems start packId (done ++ [draft])) ?_
        fun _ => inductionHypothesis
      refine returns_ask fun choice world effect before executed => ?_
      obtain ⟨before, apart, isItem, isVersion⟩ := before
      obtain ⟨-, -, rfl⟩ := ok_of_updateRow executed
      refine ⟨⟨before.untouched.plans, before.untouched.placed⟩, fun other member => ?_, ?_⟩
      · rcases List.mem_append.mp member with isDone | isNew
        · have differs : other.contentItemId ≠ draft.contentItemId := fun same =>
            apart (same ▸ List.mem_map_of_mem isDone)
          refine ⟨?_, (before.stored other isDone).version⟩
          simp only [World.setCurrentVersion, Table.find_modify_of_ne differs]
          exact (before.stored other isDone).item
        · obtain rfl := List.mem_singleton.mp isNew
          refine ⟨?_, isVersion⟩
          simp only [World.setCurrentVersion, Table.find_modify_self, isItem]
          rfl
      · rw [List.map_append, List.map_singleton]
        refine before.distinct.append (List.nodup_singleton _) ?_
        rw [List.disjoint_singleton]
        exact apart

/-- What a delivered pack is. -/
structure Delivered (start : World) (packId : Uuid) (drafts : List ContentItemVersionDraft)
    (world : World) : Prop extends StoredItems start packId drafts world where
  pack : ∃ row, world.packs.find packId = some row ∧
    row.itemIds = drafts.map ContentItemVersionDraft.contentItemId

theorem Delivered.of_same {packId : Uuid} {drafts : List ContentItemVersionDraft}
    {world after : World} (delivered : Delivered start packId drafts world)
    (plans : after.plans = world.plans) (postPlans : after.postPlans = world.postPlans)
    (items : after.items = world.items) (versions : after.versions = world.versions)
    (packs : after.packs = world.packs) : Delivered start packId drafts after where
  toStoredItems := delivered.toStoredItems.of_same plans postPlans items versions
  pack := by
    rw [packs]
    exact delivered.pack

/-- A statement on other tables. -/
theorem returns_delivered {isOpen : Bool} {packId : Uuid} {drafts : List ContentItemVersionDraft}
    {asked : Statement}
    (aside : asked.area ∉ [some Area.plans, some .postPlans, some .items, some .versions,
      some .packs]) :
    (store around).Returns schedule isOpen (Delivered start packId drafts) (ask asked) fun _ =>
      Delivered start packId drafts := by
  refine returns_beside fun choice world effect before executed => ?_
  have same := sameBut_of_exec executed world
  simp only [List.mem_cons, List.not_mem_nil, or_false, not_or] at aside
  obtain ⟨plans, postPlans, items, versions, packs⟩ := aside
  exact before.of_same (same.plans plans) (same.postPlans postPlans).1 (same.items items)
    (same.versions versions) (same.packs packs)

/-- The write that gives the pack its items. -/
theorem returns_deliverPack {packId : Uuid} {drafts : List ContentItemVersionDraft} :
    (store around).Returns schedule true (StoredItems start packId drafts)
      (ask (.deliverPack packId (drafts.map ContentItemVersionDraft.contentItemId)))
      fun updated world => updated = true → Delivered start packId drafts world := by
  refine returns_ask fun choice world effect before executed => ?_
  rcases updateWhen_cases executed with ⟨hit, rfl⟩ | ⟨-, rfl⟩
  · intro _
    obtain ⟨row, found, allowed⟩ := (Option.any_eq_true ..).mp hit
    have sameId : row.id = packId := Table.key_of_find found
    refine ⟨before.of_same rfl rfl rfl rfl, _, World.find_changePack found, ?_⟩
    rw [if_pos (by simpa [sameId] using allowed)]
    rfl
  · exact nofun

theorem returns_deliverItems {packId cycleId : Uuid} {week : Nat}
    {drafts : List ContentItemVersionDraft} :
    (store around).Returns schedule true (Untouched start)
      (deliverItems packId cycleId week drafts) fun _ => Delivered start packId drafts := by
  unfold deliverItems
  refine returns_bind _ (returns_untouched ⟨nofun, nofun⟩) fun found => ?_
  refine returns_bind (fun _ => Untouched start) ?_ fun pack => ?_
  · cases found with
    | none => exact returns_throw
    | some row => exact returns_pure fun _ before => before
  refine returns_bind _ (Returns.mono returns_require (fun _ before => before)
    fun _ _ after => after.1) fun _ => ?_
  refine returns_bind _ (Returns.mono returns_require (fun _ before => before)
    fun _ _ after => after.1) fun _ => ?_
  refine returns_bind _ (Returns.mono (@returns_createItems _ _ start packId [] drafts)
    (fun world before => ⟨before, fun _ member => absurd member List.not_mem_nil,
      List.nodup_nil⟩) fun _ _ after => after) fun _ => ?_
  refine returns_bind _ returns_deliverPack fun updated => ?_
  refine returns_bind _ (Returns.mono returns_require (fun _ before => before)
    fun _ _ after => after.1 after.2) fun _ => ?_
  have appends : (store around).Returns schedule true (Delivered start packId drafts)
      (appendEvent packId "ready" .complete) fun _ => Delivered start packId drafts :=
    returns_bind _ (returns_delivered (by simp [Statement.area])) fun _ =>
      returns_delivered (by simp [Statement.area])
  dsimp only
  split
  · exact returns_bind _ (returns_delivered (by simp [Statement.area])) fun _ => appends
  · exact appends

/-- The items that a delivered pack has, attached to the first posts of its plan. -/
structure AttachedItems (start : World) (packId : Uuid) (drafts : List ContentItemVersionDraft)
    (plans : List ContentPostPlan) (items : List ContentItemVersionDraft) (world : World) :
    Prop where
  delivered : Delivered start packId drafts world
  attached : ∀ (index : Nat) plan draft, plans[index]? = some plan → items[index]? = some draft →
    Attached world plan.contentWeekPlanId plan.input.position draft.contentItemId

theorem Delivered.changePostPlans {packId : Uuid} {drafts : List ContentItemVersionDraft}
    {world : World} {ids : List Uuid} {allowed : ContentPostPlan → Bool} {next : PlanState}
    {itemId : Option Uuid} (delivered : Delivered start packId drafts world) :
    Delivered start packId drafts (world.changePostPlans ids allowed next itemId) where
  untouched := delivered.untouched.changePostPlans
  stored draft member := ⟨(delivered.stored draft member).item, (delivered.stored draft member).version⟩
  distinct := delivered.distinct
  pack := delivered.pack

/-- Attach the items that are left, after those of `plans`. -/
theorem returns_attachItems {packId : Uuid} {drafts : List ContentItemVersionDraft}
    {plans rest : List ContentPostPlan} {items left : List ContentItemVersionDraft}
    (sameLength : plans.length = items.length) (sameRest : rest.length = left.length)
    (ordered : ((plans ++ rest).map (·.input.position)).Pairwise (· < ·)) :
    (store around).Returns schedule false (AttachedItems start packId drafts plans items)
      (attachItems rest left) fun _ =>
        AttachedItems start packId drafts (plans ++ rest) (items ++ left) := by
  induction rest generalizing plans items left with
  | nil =>
      obtain rfl := List.length_eq_zero_iff.mp sameRest.symm
      rw [List.append_nil, List.append_nil]
      exact returns_pure fun _ before => before
  | cons plan rest inductionHypothesis =>
      cases left with
      | nil => cases sameRest
      | cons draft left =>
          have splitPlans : plans ++ plan :: rest = (plans ++ [plan]) ++ rest := by simp
          have splitItems : items ++ draft :: left = (items ++ [draft]) ++ left := by simp
          rw [splitPlans] at ordered ⊢
          rw [splitItems]
          refine returns_bind
            (fun _ => AttachedItems start packId drafts (plans ++ [plan]) (items ++ [draft]))
            ?_ fun _ => ?_
          · refine returns_ask fun choice world effect before executed => ?_
            cases executed
            refine ⟨before.delivered.changePostPlans, fun index other item isPlan isItem => ?_⟩
            rw [List.getElem?_append] at isPlan isItem
            split at isPlan
            · next inside =>
              rw [if_pos (sameLength ▸ inside)] at isItem
              refine (before.attached index other item isPlan isItem).changePostPlans ?_
              -- positions ascend, so the new one is none of the earlier ones
              rw [List.map_append, List.map_append, List.append_assoc] at ordered
              have above := (List.pairwise_append.mp ordered).2.2 other.input.position
                (List.mem_map_of_mem (List.mem_of_getElem? isPlan)) plan.input.position (by simp)
              exact above.ne'
            · next outside =>
              rw [if_neg (sameLength ▸ outside)] at isItem
              obtain ⟨below, rfl⟩ := List.getElem?_eq_some_iff.mp isPlan
              have first : index - plans.length = 0 := by
                rw [List.length_singleton] at below
                omega
              have firstItem : index - items.length = 0 := sameLength ▸ first
              rw [firstItem] at isItem
              obtain rfl := Option.some.inj isItem
              simp only [first, List.getElem_cons_zero]
              exact attached_self
          · refine inductionHypothesis ?_ (Nat.succ.inj sameRest) ordered
            rw [List.length_append, List.length_append, sameLength]
            rfl

theorem returns_attached {isOpen : Bool} {packId : Uuid} {drafts items : List ContentItemVersionDraft}
    {plans : List ContentPostPlan} {asked : Statement}
    (aside : asked.area ∉ [some Area.plans, some .postPlans, some .items, some .versions,
      some .packs]) :
    (store around).Returns schedule isOpen (AttachedItems start packId drafts plans items)
      (ask asked) fun _ => AttachedItems start packId drafts plans items := by
  refine returns_beside fun choice world effect before executed => ?_
  have same := sameBut_of_exec executed world
  simp only [List.mem_cons, List.not_mem_nil, or_false, not_or] at aside
  obtain ⟨plans, postPlans, items, versions, packs⟩ := aside
  refine ⟨before.delivered.of_same (same.plans plans) (same.postPlans postPlans).1
    (same.items items) (same.versions versions) (same.packs packs), fun index plan draft isPlan isItem => ?_⟩
  constructor
  rw [(same.postPlans postPlans).1]
  exact (before.attached index plan draft isPlan isItem).only

/-- What the `try` block of `handleGenerateV2` leaves behind, if it returns. -/
theorem returns_generateItemsV2 {data : GenerateJobData} {pack : ContentPack} {weekPlanId : Uuid}
    {frozenInput : FrozenInput} {drafts : List ContentItemVersionDraft}
    (isFrozen : (start.plans.find weekPlanId).bind ContentWeekPlan.frozenInput = some frozenInput)
    (ordered : ((byPosition frozenInput.postPlans).map (·.input.position)).Pairwise (· < ·))
    (answers : ∀ choice, around.generate choice pack (some frozenInput) = .ok ⟨pack.id, drafts⟩) :
    (store around).Returns schedule false (Untouched start) (generateItemsV2 data pack weekPlanId)
      fun _ => AttachedItems start pack.id drafts (byPosition frozenInput.postPlans) drafts := by
  unfold generateItemsV2
  refine returns_bind (fun _ => Untouched start) ?_ fun _ => ?_
  · refine returns_beside fun choice world effect before executed => ?_
    cases executed
    exact before.changePostPlans
  refine returns_bind _ (returns_untouched (by simp [Statement.area])) fun cycle => ?_
  refine returns_bind (fun found world => Untouched start world ∧
    found = start.plans.find weekPlanId) ?_ fun weekPlan => ?_
  · refine returns_ask fun choice world effect before executed => ?_
    cases executed
    exact ⟨before, congrArg (·.find weekPlanId) before.plans⟩
  refine returns_bind (fun _ world => Untouched start world ∧
    weekPlan = start.plans.find weekPlanId) ?_ fun hasInputs => ?_
  · refine returns_ask fun choice world effect before executed => ?_
    cases executed
    exact before
  split
  · exact returns_throw
  · exact returns_throw
  · next cycle plan _ =>
    by_cases isPlan : some plan = start.plans.find weekPlanId
    swap
    · exact fun _ _ _ _ before => absurd before.2 isPlan
    rw [← isPlan, Option.bind_some] at isFrozen
    rw [isFrozen]
    dsimp only
    refine Returns.mono ?_ (fun _ before => before.1) fun _ _ after => after
    refine returns_bind (fun _ => Untouched start) ?_ fun _ => ?_
    · refine returns_bind _ (returns_untouched (by simp [Statement.area])) fun allowed => ?_
      cases allowed with
      | error error => exact returns_throw
      | ok value => exact returns_pure fun _ before => before
    refine returns_bind (fun reply world => Untouched start world ∧
      reply = ⟨pack.id, drafts⟩) ?_ fun reply => ?_
    · refine returns_ask fun choice world effect before executed => ?_
      simp only [store, exec, answers] at executed
      cases executed
      exact ⟨before, rfl⟩
    by_cases isReply : reply = ⟨pack.id, drafts⟩
    swap
    · exact fun _ _ _ _ before => absurd before.2 isReply
    subst isReply
    refine Returns.mono ?_ (fun _ before => before.1) fun _ _ after => after
    refine returns_bind (fun _ => Untouched start) ?_ fun _ => ?_
    · exact returns_bind _ (Returns.mono returns_require (fun _ before => before)
        fun _ _ after => after.1) fun _ => returns_untouched (by simp [Statement.area])
    refine returns_bind _ (Returns.mono returns_require (fun _ before => before)
      fun _ _ after => after.1) fun _ => ?_
    refine returns_bind _ returns_require fun _ => ?_
    by_cases counts : drafts.length = frozenInput.postPlans.length
    swap
    · exact fun _ _ _ _ before => absurd before.2 (by simp [counts])
    refine Returns.mono ?_ (fun _ before => before.1) fun _ _ after => after
    refine returns_bind _ (returns_transaction returns_deliverItems) fun _ => ?_
    have attaches := @returns_attachItems around schedule start pack.id drafts []
      (byPosition frozenInput.postPlans) [] drafts rfl
      ((List.length_insertionSort ..).trans counts.symm) ordered
    refine returns_bind _ (Returns.mono attaches (fun world before =>
      ⟨before, fun _ _ _ isPlan _ => absurd isPlan (by simp)⟩) fun _ _ after => after) fun _ => ?_
    refine returns_bind (fun _ => AttachedItems start pack.id drafts
      (byPosition frozenInput.postPlans) drafts) ?_ fun _ => ?_
    · refine returns_bind _ (returns_attached (by simp [Statement.area])) fun recorded => ?_
      cases recorded with
      | error error => exact returns_throw
      | ok value => exact returns_pure fun _ before => before
    · exact returns_attached (by simp [Statement.area])

end Delivery

/-! ### Cards and items -/

/-- The cards of a frozen plan: in the order of their positions, and without items yet. -/
structure Frozen (planId : Uuid) (cards : List ContentPostPlan) : Prop where
  ofPlan : ∀ card ∈ cards, card.contentWeekPlanId = planId
  ordered : (cards.map (·.input.position)).Pairwise (· < ·)
  unattached : ∀ card ∈ cards, card.contentItemId = none

theorem Frozen.byPosition {planId : Uuid} {cards : List ContentPostPlan}
    (frozen : Frozen planId cards) : byPosition cards = cards := by
  refine List.Pairwise.insertionSort_eq ?_
  exact (List.pairwise_map.mp frozen.ordered).imp Nat.le_of_lt

/-- `ContentV2Service.frozenPlanForItem` -/
def frozenPlanForItem (cards : List ContentPostPlan) (itemIds : List Uuid) (itemId : Uuid) :
    Option ContentPostPlan :=
  let ordered := byPosition cards
  ((itemIds.findIdx? (· = itemId)).bind fun itemIndex => ordered[itemIndex]?).or
    (cards.find? fun entry => entry.contentItemId = some itemId)

/-- The media of a card, and the visual that is generated for its item where it has none and its
format needs one. -/
def cardMedia (service : Service) (card : ContentPostPlan) (itemId : Uuid) : List Uuid :=
  if card.input.selectedMediaIds = [] ∧ card.input.format ∈ Generator.mediaFormats then
    [service.generatedAssetId itemId]
  else card.input.selectedMediaIds

/-- The item is that of the card, where it is attached and where it is rewritten. -/
structure MatchesCard (service : Service) (request : GenerateRequest) (packId : Uuid)
    (world : World) (card : ContentPostPlan) (item : ItemVersion) : Prop where
  channel : item.channel = card.input.channel
  format : item.format = card.input.format
  media : item.assetIds = cardMedia service card item.id
  callToAction : item.LeadsTo (request.destinationOf card)
  stored : StoredItem packId world item.draft
  placed : Placed world card.contentWeekPlanId card.input.position
  attached : Attached world card.contentWeekPlanId card.input.position item.contentItemId
  /-- The card that `rewriteItem` looks up. -/
  found : ∀ pack, world.packs.find packId = some pack →
    frozenPlanForItem request.cards pack.itemIds item.contentItemId = some card
  /-- The card that the AI service checks a rewrite of any later version against. -/
  rewritten : ∀ version, Succeeds service item.draft version → ∀ revise : ReviseRequest,
    revise.frozenInput = request.frozenInput → revise.contentItemId = item.contentItemId →
      revise.baseItemVersion.draft = version → Generator.frozenPlanForItem revise = some card

/-- Cards and items correspond one to one. -/
structure Matched (service : Service) (request : GenerateRequest) (packId : Uuid) (world : World)
    (items : List ItemVersion) : Prop where
  count : items.length = request.cards.length
  distinct : (items.map ItemVersion.contentItemId).Nodup
  cards : ∀ (index : Nat) card item, request.cards[index]? = some card →
    items[index]? = some item → MatchesCard service request packId world card item

/-- The posts of the cards are still there, only cards of a format that needs media select some,
and no two cards have the same channel and format. -/
structure CardsApart (world : World) (cards : List ContentPostPlan) : Prop where
  placed : ∀ card ∈ cards, Placed world card.contentWeekPlanId card.input.position
  media : ∀ card ∈ cards, card.input.selectedMediaIds ≠ [] →
    card.input.format ∈ Generator.mediaFormats
  apart : (cards.map fun card => (card.input.channel, card.input.format)).Nodup

theorem cardMedia_eq_iff {service : Service} {card : ContentPostPlan} {itemId : Uuid} :
    Generator.mediaFor service card itemId = cardMedia service card itemId ↔
      (card.input.selectedMediaIds ≠ [] → card.input.format ∈ Generator.mediaFormats) := by
  unfold Generator.mediaFor cardMedia
  by_cases needed : card.input.format ∈ Generator.mediaFormats <;>
    by_cases none : card.input.selectedMediaIds = [] <;> simp [needed, none, eq_comm]

/-- The first card with the channel and format is the one at `index`, if none before it has both. -/
theorem find_of_nodup {cards : List ContentPostPlan}
    (apart : (cards.map fun card => (card.input.channel, card.input.format)).Nodup) {index : Nat}
    {card : ContentPostPlan} (isCard : cards[index]? = some card) :
    cards.find? (fun plan => plan.input.channel = card.input.channel &&
      plan.input.format = card.input.format) = some card := by
  obtain ⟨inside, rfl⟩ := List.getElem?_eq_some_iff.mp isCard
  refine List.find?_eq_some_iff_getElem.mpr ⟨by simp, index, inside, rfl, fun earlier before => ?_⟩
  have insideMap : index < (cards.map fun card => (card.input.channel, card.input.format)).length := by
    rw [List.length_map]
    exact inside
  have differs : ¬(cards.map fun card => (card.input.channel, card.input.format))[earlier] =
      (cards.map fun card => (card.input.channel, card.input.format))[index] :=
    fun same => before.ne (apart.getElem_inj_iff.mp same)
  rw [List.getElem_map, List.getElem_map, Prod.mk.injEq, not_and_or] at differs
  simpa using differs

theorem findIdx?_of_nodup {ids : List Uuid} (distinct : ids.Nodup) {index : Nat} {id : Uuid}
    (isThere : ids[index]? = some id) : ids.findIdx? (· = id) = some index := by
  obtain ⟨inside, rfl⟩ := List.getElem?_eq_some_iff.mp isThere
  refine List.findIdx?_eq_some_iff_getElem.mpr ⟨inside, by simp, fun earlier before => ?_⟩
  have differs : ¬ids[earlier] = ids[index] := fun same =>
    before.ne (distinct.getElem_inj_iff.mp same)
  simpa using differs

theorem nodup_of_find {cards : List ContentPostPlan} {planId : Uuid} (frozen : Frozen planId cards)
    (finds : ∀ (index : Nat) card, cards[index]? = some card →
      cards.find? (fun plan => plan.input.channel = card.input.channel &&
        plan.input.format = card.input.format) = some card) :
    (cards.map fun card => (card.input.channel, card.input.format)).Nodup := by
  rw [List.nodup_iff_injective_getElem]
  rintro ⟨left, insideLeft⟩ ⟨right, insideRight⟩ same
  rw [List.length_map] at insideLeft insideRight
  simp only [List.getElem_map, Prod.mk.injEq] at same
  have findsLeft := finds left cards[left] (List.getElem?_eq_getElem insideLeft)
  have findsRight := finds right cards[right] (List.getElem?_eq_getElem insideRight)
  rw [same.1, same.2, findsRight] at findsLeft
  have sameCard := Option.some.inj findsLeft
  -- one position, so one card
  have positions := frozen.ordered.imp Nat.ne_of_lt
  have leftMap : left < (cards.map (·.input.position)).length := by simpa using insideLeft
  have rightMap : right < (cards.map (·.input.position)).length := by simpa using insideRight
  have samePosition : (cards.map (·.input.position))[left] =
      (cards.map (·.input.position))[right] := by
    rw [List.getElem_map, List.getElem_map, sameCard]
  exact Fin.ext ((List.Nodup.getElem_inj_iff positions).mp samePosition)

/-- Where no card has an item yet, the channel and the format decide. -/
theorem frozenPlanForItem_eq {planId : Uuid} {revise : ReviseRequest}
    (frozen : Frozen planId revise.cards) :
    Generator.frozenPlanForItem revise = revise.cards.find? fun plan =>
      plan.input.channel = revise.baseItemVersion.channel &&
        plan.input.format = revise.baseItemVersion.format := by
  unfold Generator.frozenPlanForItem
  have none : revise.cards.find? (fun plan => plan.contentItemId = some revise.contentItemId) =
      none := by
    rw [List.find?_eq_none]
    intro card member
    rw [frozen.unattached card member]
    simp
  rw [none, Option.none_or]

/-- The revision of an item as it was generated. -/
def firstRevision (request : GenerateRequest) (item : ItemVersion) : ReviseRequest where
  toGenerateRequest := request
  contentItemId := item.contentItemId
  baseItemVersion := item
  revisionNotes := "Shorter, please."
  idempotencyKey := "revision"

section Matching

variable {around : Surroundings} {service : Service} {request : GenerateRequest}
  {first : Generator.Attempt} {later : List Generator.Attempt} {items : List ItemVersion}
  {data : GenerateJobData} {pack : ContentPack} {weekPlanId : Uuid} {schedule : Schedule}
  {world after : World}

/-- The item of a card, among items that correspond to the cards in their order. -/
theorem exists_item {R : ContentPostPlan → ItemVersion → Prop} {cards : List ContentPostPlan}
    (inOrder : Generator.InOrder R cards items) {card : ContentPostPlan} (isCard : card ∈ cards) :
    ∃ (index : Nat) (item : ItemVersion), cards[index]? = some card ∧ items[index]? = some item ∧
      R card item := by
  obtain ⟨index, inside, isThere⟩ := List.getElem_of_mem isCard
  have isCard := List.getElem?_eq_some_iff.mpr ⟨inside, isThere⟩
  have insideItems : index < items.length := inOrder.1 ▸ inside
  have isItem := List.getElem?_eq_getElem insideItems
  exact ⟨index, _, isCard, isItem, inOrder.2 index card _ isCard isItem⟩

theorem cardsApart_of_matched
    (accepted : Generator.generateV2ContentPack service request first later = .ok items)
    (frozen : Frozen weekPlanId request.cards)
    (attached : AttachedItems world pack.id (items.map ItemVersion.draft) request.cards
      (items.map ItemVersion.draft) after)
    (matched : Matched service request pack.id after items) : CardsApart world request.cards := by
  have inOrder := Generator.generated_inOrder accepted
  constructor
  · intro card isCard
    obtain ⟨index, item, isThere, isItem, -⟩ := exists_item inOrder isCard
    exact (attached.delivered.untouched.placed ..).mp (matched.cards index card item isThere isItem).placed
  · intro card isCard
    obtain ⟨index, item, isThere, isItem, fromCard, -⟩ := exists_item inOrder isCard
    exact cardMedia_eq_iff.mp
      (fromCard.media.symm.trans (matched.cards index card item isThere isItem).media)
  · refine nodup_of_find frozen fun index card isThere => ?_
    obtain ⟨item, isItem⟩ : ∃ item, items[index]? = some item :=
      ⟨_, List.getElem?_eq_getElem (inOrder.1 ▸ (List.getElem?_eq_some_iff.mp isThere).1)⟩
    have isMatch := matched.cards index card item isThere isItem
    have finds := isMatch.rewritten item.draft .generated (firstRevision request item) rfl rfl rfl
    rw [@frozenPlanForItem_eq _ (firstRevision request item) frozen] at finds
    have channel : (firstRevision request item).baseItemVersion.channel = card.input.channel :=
      isMatch.channel
    have format : (firstRevision request item).baseItemVersion.format = card.input.format :=
      isMatch.format
    rw [channel, format] at finds
    exact finds

theorem matched_of_cardsApart
    (accepted : Generator.generateV2ContentPack service request first later = .ok items)
    (frozen : Frozen weekPlanId request.cards)
    (attached : AttachedItems world pack.id (items.map ItemVersion.draft) request.cards
      (items.map ItemVersion.draft) after)
    (apart : CardsApart world request.cards) : Matched service request pack.id after items := by
  have inOrder := Generator.generated_inOrder accepted
  have sameIds : (items.map ItemVersion.draft).map ContentItemVersionDraft.contentItemId =
      items.map ItemVersion.contentItemId := by
    rw [List.map_map]
    rfl
  have distinct := attached.delivered.distinct
  rw [sameIds] at distinct
  refine ⟨inOrder.1, distinct, fun index card item isThere isItem => ?_⟩
  obtain ⟨fromCard, channel, format⟩ := inOrder.2 index card item isThere isItem
  have isCard := List.mem_of_getElem? isThere
  have isDraft : (items.map ItemVersion.draft)[index]? = some item.draft := by
    rw [List.getElem?_map, isItem]
    rfl
  refine ⟨channel, format, ?_, fromCard.leads, ?_, ?_, ?_, ?_, ?_⟩
  · exact fromCard.media.trans (cardMedia_eq_iff.mpr (apart.media card isCard))
  · exact attached.delivered.stored item.draft (List.mem_of_getElem? isDraft)
  · exact (attached.delivered.untouched.placed ..).mpr (apart.placed card isCard)
  · exact attached.attached index card item.draft isThere isDraft
  · intro found isFound
    obtain ⟨row, isRow, itemIds⟩ := attached.delivered.pack
    obtain rfl := Option.some.inj (isRow.symm.trans isFound)
    have isId : (items.map ItemVersion.contentItemId)[index]? = some item.contentItemId := by
      rw [List.getElem?_map, isItem]
      rfl
    unfold frozenPlanForItem
    dsimp only
    rw [itemIds, sameIds, findIdx?_of_nodup distinct isId, frozen.byPosition, Option.bind_some,
      isThere]
    rfl
  · intro version succeeds revise sameInput _ isBase
    have sameCards : revise.cards = request.cards := congrArg FrozenInput.postPlans sameInput
    have kept := succeeds.kept
    rw [frozenPlanForItem_eq (sameCards.symm ▸ frozen), sameCards]
    have sameChannel : revise.baseItemVersion.channel = card.input.channel := by
      have ofBase : revise.baseItemVersion.channel = version.channel :=
        congrArg ContentItemVersionDraft.channel isBase
      exact ofBase.trans (kept.1.trans channel)
    have sameFormat : revise.baseItemVersion.format = card.input.format := by
      have ofBase : revise.baseItemVersion.format = version.format :=
        congrArg ContentItemVersionDraft.format isBase
      exact ofBase.trans (kept.2.trans format)
    rw [sameChannel, sameFormat]
    exact find_of_nodup apart.apart isThere

private theorem matched_iff
    (accepted : Generator.generateV2ContentPack service request first later = .ok items)
    (frozen : Frozen weekPlanId request.cards)
    (isFrozen : (world.plans.find weekPlanId).bind ContentWeekPlan.frozenInput =
      some request.frozenInput)
    (answers : ∀ choice, around.generate choice pack (some request.frozenInput) =
      .ok ⟨pack.id, items.map ItemVersion.draft⟩)
    (returned : ((store around).call schedule (generateItemsV2 data pack weekPlanId) world).1 =
      .ok ()) :
    Matched service request pack.id
        ((store around).call schedule (generateItemsV2 data pack weekPlanId) world).2 items ↔
      CardsApart world request.cards := by
  have sorted : byPosition request.frozenInput.postPlans = request.cards := frozen.byPosition
  have generates := @returns_generateItemsV2 around schedule world data pack weekPlanId
    request.frozenInput (items.map ItemVersion.draft) isFrozen (by rw [sorted]; exact frozen.ordered)
    answers
  have attached := generates.call ⟨rfl, fun _ _ => Iff.rfl⟩ returned
  rw [sorted] at attached
  exact ⟨cardsApart_of_matched accepted frozen attached,
    matched_of_cardsApart accepted frozen attached⟩

/-- After the generation of a frozen plan its cards and the accepted items correspond exactly when
every card still has its post, only cards of a format that needs media select some, and no two
cards have the same channel and format. -/
theorem generated_cards_matched_iff
    (accepted : Generator.generateV2ContentPack service request first later = .ok items)
    (frozen : Frozen weekPlanId request.cards)
    (isFrozen : (world.plans.find weekPlanId).bind ContentWeekPlan.frozenInput =
      some request.frozenInput)
    (answers : ∀ choice, around.generate choice pack (some request.frozenInput) =
      .ok ⟨pack.id, items.map ItemVersion.draft⟩)
    (returned : ((store around).call schedule (generateItemsV2 data pack weekPlanId) world).1 =
      .ok ()) :
    Matched service request pack.id
        ((store around).call schedule (generateItemsV2 data pack weekPlanId) world).2 items ↔
      CardsApart world request.cards :=
  matched_iff accepted frozen isFrozen answers returned

end Matching

/-! ### One pack -/

/-- Posts of these channels and formats, with these media. -/
def plannedPosts (cards : List (String × String × List Uuid)) : List PostPlanInput :=
  cards.mapIdx fun index (channel, format, selectedMediaIds) =>
    { position := index + 1
      purpose := "news"
      intendedAudience := none
      channel
      format
      ctaLibraryEntryId := none
      ownerInstructions := none
      visualDirection := none
      selectedMediaIds
      source := .owner }

/-- What the sample weeks may use. -/
def plainLibraries : WeekLibraries where
  channels := ["facebook", "instagram"]
  formats := ["text_post", "static_image_post"]
  activeCtaIds := []
  readyMediaIds := [40]

/-- The owner 8 of business 7 plans the posts for the first week and has it generated; the worker
has claimed the pack. -/
def claimedWorld (posts : List PostPlanInput) : World :=
  let around := { plainSurroundings with libraries := fun _ _ _ => plainLibraries }
  [Call.program around (.createCycle (plainCycle .contentV2) 8 structuralContent),
    Call.program around (.createOrReplaceWeekPlan 0 1 posts 8),
    Call.program around (.generateWeek 0 1 8), (ask (.claimPack 0) : Code Bool).discard].foldl
      (fun world program => ((store around).call (.sound 0 fun _ => 0) program world).2)
      World.empty

namespace Generator

/-- The bytes of a text as a number. -/
def numbered (text : String) : Uuid :=
  text.toUTF8.data.toList.foldl (fun number byte => 256 * number + byte.toNat) 1

def plainService : Service where
  providerName := "gemini"
  providerModel := "flash"
  uuid5 := numbered
  generatedAssetId itemId := 2 * itemId + 1
  pillarIds strategyId := [strategyId + 1]
  checksum item := toString item.id ++ ":" ++ toString item.version
  isConstrained _ := false
  cairo instant := instant
  isGrounded _ _ := true
  textIssues _ _ := []

/-- The request for what the first plan was frozen with. -/
def plainRequest (world : World) : GenerateRequest where
  contentPackId := 0
  businessId := 7
  strategyId := 3
  strategyVersion := 1
  strategyPlan :=
    ⟨3, 1, 5, 1, "awareness", ⟨true, plainLibraries.channels, [(1, plainLibraries.formats)]⟩⟩
  businessProfile := ⟨5, 7, 1, .object []⟩
  frozenInput :=
    ((world.plans.find 0).bind ContentWeekPlan.frozenInput).getD ⟨0, 0, 0, [], none, 0⟩
  editorialLanguage := "en"
  ctaEntries := []
  weekStartAt := 0
  languageMode := "en"

/-- What the provider writes for a card. -/
def plainItem (card : ContentPostPlan) : ItemVersion where
  id := 0
  contentItemId := 0
  contentPackId := 0
  version := 1
  channel := card.input.channel
  format := card.input.format
  languageMode := "en"
  strategyTrace := ⟨3, 1, 1, [4], "awareness", card.input.channel, "top", "news"⟩
  captionVariants := [⟨.en, "plain", "We are open.", none, []⟩]
  cta := none
  hashtags := []
  creativeBrief := "The shop."
  altText := "A shop."
  shortVideoScript := none
  recommendedPublishWindow := ⟨0, 3600000, "monday", "morning", "The first day."⟩
  claimSources := []
  warnings := []
  blockers := []
  assetRequired := false
  assetIds := []
  generationProvenance := ⟨0, "", "", 0, none⟩
  versionChecksum := ""
  createdAt := 0

def plainAttempt (cards : List ContentPostPlan) : Attempt := ⟨.ok (cards.map plainItem), "hash", 0⟩

/-- What the AI service makes of these answers. -/
def plainItems (world : World) : List ItemVersion :=
  let request := plainRequest world
  (generateV2ContentPack plainService request (plainAttempt request.cards) []).toOption.getD []

theorem ok_of_isSome {ε α : Type} {outcome : Except ε α} {fallback : α}
    (isSome : outcome.toOption.isSome) : outcome = .ok (outcome.toOption.getD fallback) := by
  cases outcome with
  | error error => cases isSome
  | ok value => rfl

end Generator

open Generator (plainService plainRequest plainAttempt plainItems)

/-- The AI service hands over these items. -/
def answering (items : List ItemVersion) : Surroundings :=
  { plainSurroundings with
    libraries := fun _ _ _ => plainLibraries
    generate := fun _ pack _ => .ok ⟨pack.id, items.map ItemVersion.draft⟩ }

/-- The pack and the job that the worker has claimed. -/
def claimedPack (world : World) : ContentPack :=
  (world.packs.find 0).getD ⟨0, .contentV2, 0, 0, 0, 0, 0, 0, 0, 0, 0, none, .queued, false, []⟩

/-- The generation of the claimed pack. -/
def generated (world : World) : Except ContentError Unit × World :=
  (store (answering (plainItems world))).call (.sound 0 fun _ => 0)
    (generateItemsV2 ⟨.contentV2, 0, 1, 0⟩ (claimedPack world) 0) world

/-- A text post, a picture of the owner's and a text post elsewhere. -/
def mixedWorld : World :=
  claimedWorld (plannedPosts [("facebook", "text_post", []), ("facebook", "static_image_post", [40]),
    ("instagram", "text_post", [])])

/-- Three text posts of one channel. -/
def alikeWorld : World :=
  claimedWorld (plannedPosts [("facebook", "text_post", []), ("facebook", "text_post", []),
    ("facebook", "text_post", [])])

section Samples

variable {world : World}

theorem accepted_plain
    (isAccepted : (Generator.generateV2ContentPack plainService (plainRequest world)
      (plainAttempt (plainRequest world).cards) []).toOption.isSome) :
    Generator.generateV2ContentPack plainService (plainRequest world)
      (plainAttempt (plainRequest world).cards) [] = .ok (plainItems world) := by
  unfold plainItems
  exact Generator.ok_of_isSome isAccepted

theorem answers_plain (choice : Nat) :
    (answering (plainItems world)).generate choice (claimedPack world)
      (some (plainRequest world).frozenInput) =
        .ok ⟨(claimedPack world).id, (plainItems world).map ItemVersion.draft⟩ := rfl

theorem returned_plain (returns : (generated world).1.toOption.isSome) :
    ((store (answering (plainItems world))).call (.sound 0 fun _ => 0)
      (generateItemsV2 ⟨.contentV2, 0, 1, 0⟩ (claimedPack world) 0) world).1 = .ok () :=
  @Generator.ok_of_isSome _ _ (generated world).1 () returns

end Samples

/-- Cards of three kinds get the items that were generated for them. -/
theorem mixed_cards_matched :
    Matched plainService (plainRequest mixedWorld) (claimedPack mixedWorld).id
      (generated mixedWorld).2 (plainItems mixedWorld) := by
  have placed : ∀ card ∈ (plainRequest mixedWorld).cards,
      Placed mixedWorld card.contentWeekPlanId card.input.position := by
    unfold Placed
    decide +kernel
  have frozen : Frozen 0 (plainRequest mixedWorld).cards :=
    ⟨by decide +kernel, by decide +kernel, by decide +kernel⟩
  have corresponds := generated_cards_matched_iff (accepted_plain (by decide +kernel)) frozen
    (by decide +kernel) (@answers_plain mixedWorld) (returned_plain (by decide +kernel))
  exact corresponds.mpr ⟨placed, by decide +kernel, by decide +kernel⟩

/-- A second text post of the channel is rewritten for the card of the first. -/
theorem alike_cards_confused : ¬∀ (around : Surroundings) (service : Service)
    (request : GenerateRequest) (first : Generator.Attempt) (later : List Generator.Attempt)
    (items : List ItemVersion) (data : GenerateJobData) (pack : ContentPack) (weekPlanId : Uuid)
    (schedule : Schedule) (world : World),
    Generator.generateV2ContentPack service request first later = .ok items →
    Frozen weekPlanId request.cards →
    (world.plans.find weekPlanId).bind ContentWeekPlan.frozenInput = some request.frozenInput →
    (∀ choice, around.generate choice pack (some request.frozenInput) =
      .ok ⟨pack.id, items.map ItemVersion.draft⟩) →
    ((store around).call schedule (generateItemsV2 data pack weekPlanId) world).1 = .ok () →
    Matched service request pack.id
      ((store around).call schedule (generateItemsV2 data pack weekPlanId) world).2 items := by
  intro claimed
  have accepted := @accepted_plain alikeWorld (by decide +kernel)
  have frozen : Frozen 0 (plainRequest alikeWorld).cards :=
    ⟨by decide +kernel, by decide +kernel, by decide +kernel⟩
  have isFrozen : (alikeWorld.plans.find 0).bind ContentWeekPlan.frozenInput =
      some (plainRequest alikeWorld).frozenInput := by decide +kernel
  have returned := @returned_plain alikeWorld (by decide +kernel)
  have answers := @answers_plain alikeWorld
  have matched := claimed _ _ _ _ _ _ _ _ _ _ _ accepted frozen isFrozen answers returned
  have apart := (matched_iff accepted frozen isFrozen answers returned).mp matched
  exact absurd apart.apart (by decide +kernel)

end MarketMind.Content
