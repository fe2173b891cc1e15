import Mathlib.Data.List.Dedup
import MarketMind.Content.Cards

/-!
Owns what an accepted answer looks like item by item, whichever way it was reached: its media, the
warning about the limits of its platform, and its checksum.

Does not own which post of the plan an item is stored for.
-/

namespace MarketMind.Content.Generator

/-! ### The limits of the platforms -/

structure PlatformConstraint where
  channel : String
  format : String
  maxCaptionLength : Option Nat
  maxHashtags : Option Nat
  maxAltTextLength : Option Nat
deriving DecidableEq, Repr

/-- `PLATFORM_CONSTRAINTS`, without the notes. -/
def platformConstraints : List PlatformConstraint :=
  [⟨"facebook", "static_image_post", some 63206, some 30, some 100⟩,
    ⟨"instagram", "static_image_post", some 2200, some 30, some 100⟩,
    ⟨"facebook", "short_video_script", some 63206, some 30, none⟩,
    ⟨"instagram", "short_video_script", some 2200, some 30, none⟩,
    ⟨"facebook", "text_post", some 63206, some 30, none⟩,
    ⟨"instagram", "carousel_brief", some 2200, some 30, none⟩,
    ⟨"tiktok", "short_video_script", some 2200, some 5, none⟩,
    ⟨"tiktok", "static_image_post", some 2200, some 5, some 100⟩,
    ⟨"google_business_profile", "text_post", some 1500, some 0, none⟩,
    ⟨"google_business_profile", "static_image_post", some 1500, some 0, some 100⟩]

structure PlatformConstraintWarning where
  constraint : PlatformConstraint
  field : String
  actual : Nat
  allowed : Nat
  message : String
deriving DecidableEq, Repr

def resolvePlatformConstraint (channel contentFormat : String) : Option PlatformConstraint :=
  platformConstraints.find? fun constraint =>
    constraint.channel = channel && constraint.format = contentFormat

/-- `check`, inside `validate_platform_constraints`. -/
def PlatformConstraint.check (constraint : PlatformConstraint) (field : String) :
    (actual allowed : Option Nat) → List PlatformConstraintWarning
  | some actual, some allowed =>
      if actual ≤ allowed then []
      else
        [⟨constraint, field, actual, allowed,
          constraint.channel ++ "/" ++ constraint.format ++ " " ++ field ++ " is " ++
            toString actual ++ ", over the " ++ toString allowed ++ " limit."⟩]
  | _, _ => []

/-- `validate_platform_constraints` -/
def validatePlatformConstraints (item : ItemVersion) : List PlatformConstraintWarning :=
  if item.channel = "" ∨ item.format = "" then []
  else
    match resolvePlatformConstraint item.channel item.format with
    | none => []
    | some constraint =>
        constraint.check "caption" (item.captionVariants.map (·.caption.length)).max?
            constraint.maxCaptionLength ++
          constraint.check "hashtags" (some item.hashtags.length) constraint.maxHashtags ++
          constraint.check "alt_text" (some item.altText.length) constraint.maxAltTextLength

/-- The service with the limits of the platforms, and a checksum that leaves itself out. -/
def Service.shipped (service : Service) : Service :=
  { service with
    isConstrained := fun item => !(validatePlatformConstraints item).isEmpty
    checksum := fun item => service.checksum { item with versionChecksum := "" } }

/-! ### Items -/

/-- The visuals that the owner is promised: the selected ones, whatever the format. -/
def promisedMedia (service : Service) (card : ContentPostPlan) (itemId : Uuid) : List Uuid :=
  if card.input.selectedMediaIds ≠ [] then card.input.selectedMediaIds
  else if card.input.format ∈ mediaFormats then [service.generatedAssetId itemId]
  else []

/-- The warning stands exactly if a limit is exceeded. -/
def ItemVersion.Warned (item : ItemVersion) : Prop :=
  "CONTENT_PLATFORM_CONSTRAINT" ∈ item.warnings ↔ validatePlatformConstraints item ≠ []

/-- An item as the owner is promised it. -/
structure Faithful (service : Service) (card : ContentPostPlan) (item : ItemVersion) : Prop where
  media : item.assetIds = promisedMedia service card item.id
  warned : item.Warned
  checksum : item.versionChecksum = service.checksum item

variable {service : Service} {request : GenerateRequest} {v1Request : ItemRequest}
  {card : ContentPostPlan} {item : ItemVersion}

/-- The service hands over what is promised, if only the formats that need media select some. -/
theorem promised_iff (fromCard : FromCard service request card item) :
    item.assetIds = promisedMedia service card item.id ↔
      (card.input.selectedMediaIds ≠ [] → card.input.format ∈ mediaFormats) := by
  rw [fromCard.media]
  unfold mediaFor promisedMedia
  by_cases selected : card.input.selectedMediaIds = []
  · simp [selected]
  · by_cases needed : card.input.format ∈ mediaFormats
    · simp [selected, needed]
    · simp only [selected, needed, not_false_eq_true, ne_eq, if_true, if_false, true_implies,
        iff_false]
      exact fun same => selected same.symm

theorem checksum_normalizeFinalizedItem (item : ItemVersion) :
    (normalizeFinalizedItem service.shipped item).versionChecksum =
      service.shipped.checksum (normalizeFinalizedItem service.shipped item) := rfl

theorem warned_normalizeFinalizedItem :
    (normalizeFinalizedItem service.shipped item).Warned ↔ item.Warned := Iff.rfl

theorem warned_withPlatformConstraintWarning (item : ItemVersion) :
    (withPlatformConstraintWarning service.shipped item).Warned := by
  have sameLimits : validatePlatformConstraints (withPlatformConstraintWarning service.shipped item) =
      validatePlatformConstraints item := rfl
  unfold ItemVersion.Warned
  rw [sameLimits, withPlatformConstraintWarning, List.mem_append]
  cases limits : validatePlatformConstraints item <;> simp [Service.shipped, limits]

theorem warned_finalizeItem (attempt : Attempt) (index : Nat) :
    (finalizeItem service.shipped v1Request attempt index item).Warned := by
  unfold finalizeItem
  exact @warned_withPlatformConstraintWarning service _

/-- Whatever an answer is finished to. -/
theorem warned_of_finish {attempt : Attempt} {generated : List ItemVersion}
    (member : item ∈ finish service.shipped request v1Request attempt generated) :
    item.Warned := by
  obtain ⟨finalized, isFinalized, rfl⟩ := List.mem_map.mp member
  obtain ⟨index, bound, rfl⟩ := List.mem_mapIdx.mp isFinalized
  exact warned_finalizeItem attempt (index + 1)

/-- Safe copy leaves the warning as it is, whether it keeps the limits or not. -/
theorem warned_safeRepairItem (warned : item.Warned) :
    (safeRepairItem service.shipped request v1Request card item).Warned ↔
      (validatePlatformConstraints (safeRepairItem service.shipped request v1Request card item) = [] ↔
        validatePlatformConstraints item = []) := by
  have sameWarning : "CONTENT_PLATFORM_CONSTRAINT" ∈
      (safeRepairItem service.shipped request v1Request card item).warnings ↔
        "CONTENT_PLATFORM_CONSTRAINT" ∈ item.warnings := by
    unfold safeRepairItem
    dsimp only
    split
    · next repairable =>
      simp only [safeRewriteItem, List.mem_reverse, List.mem_dedup, List.mem_append,
        List.mem_insertionSort, List.mem_map]
      refine or_iff_left ?_
      rintro ⟨issue, member, isCode⟩
      have resolved := List.all_eq_true.mp (Bool.and_eq_true_iff.mp repairable).2 issue member
      rw [isRepairable, isCode] at resolved
      simp at resolved
    · exact Iff.rfl
  unfold ItemVersion.Warned at warned ⊢
  rw [sameWarning, warned]
  exact ⟨fun same => (not_iff_not.mp same).symm, fun same => not_congr same.symm⟩

/-! ### The fallback -/

/-- The items that the fallback rewrites: those of the second answer, if all that is wrong with
them is what safe copy resolves. -/
def fallbackItems (service : Service) (request : GenerateRequest) (v1Request : ItemRequest)
    (first : Attempt) (later : List Attempt) : Option (List ItemVersion) :=
  match tryAttempt service request v1Request false first, later with
  | .error _, second :: _ =>
      match second.answer with
      | .error _ => none
      | .ok generated =>
          let items := finish service request v1Request second generated
          let issues := validateV2GeneratedItems service request v1Request items
          if issues ≠ [] ∧ issues.all isRepairable then some items else none
  | _, _ => none

/-- Safe copy exceeds the limits of a platform exactly where the rewritten copy did. -/
def SafeCopyKeepsVerdict (service : Service) (request : GenerateRequest) (first : Attempt)
    (later : List Attempt) : Prop :=
  ∀ v1Request items, v2GenerateToV1Request request = .ok v1Request →
    fallbackItems service request v1Request first later = some items →
    ∀ (index : Nat) card item, request.cards[index]? = some card → items[index]? = some item →
      (validatePlatformConstraints (safeRepairItem service request v1Request card item) = [] ↔
        validatePlatformConstraints item = [])

/-- How the items of an accepted answer came to be: finished as they were answered, or rewritten by
the fallback. -/
def CameFrom (service : Service) (request : GenerateRequest) (v1Request : ItemRequest)
    (first : Attempt) (later : List Attempt) (items : List ItemVersion) : Prop :=
  match fallbackItems service request v1Request first later with
  | none => ∃ attempt generated, items = finish service request v1Request attempt generated ∨
      items = normalizeV2FinalizedItems service
        (finish service request v1Request attempt generated)
  | some before => (∃ attempt generated, before = finish service request v1Request attempt generated) ∧
      before.length = request.cards.length ∧
      items = normalizeV2FinalizedItems service
        (List.zipWith (safeRepairItem service request v1Request) request.cards before)

theorem tryAttempt_first {attempt : Attempt} {items : List ItemVersion}
    (tried : tryAttempt service request v1Request false attempt = .ok items) :
    ∃ generated, items = finish service request v1Request attempt generated := by
  unfold tryAttempt at tried
  cases answered : attempt.answer with
  | error error =>
      rw [answered] at tried
      cases tried
  | ok generated =>
      rw [answered] at tried
      dsimp only [bind, Except.bind] at tried
      split at tried
      · cases tried
      split at tried
      · cases tried
      rw [Bool.and_false, if_neg Bool.false_ne_true] at tried
      exact ⟨generated, (accept_ok tried).2⟩

theorem fallbackItems_second {first second : Attempt} {rest : List Attempt}
    {error : ValidationIssue} {generated : List ItemVersion}
    (failed : tryAttempt service request v1Request false first = .error error)
    (answered : second.answer = .ok generated) :
    fallbackItems service request v1Request first (second :: rest) =
      if validateV2GeneratedItems service request v1Request
            (finish service request v1Request second generated) ≠ [] ∧
          (validateV2GeneratedItems service request v1Request
            (finish service request v1Request second generated)).all isRepairable then
        some (finish service request v1Request second generated)
      else none := by
  unfold fallbackItems
  rw [failed]
  simp only [answered]

theorem cameFrom_second {first second : Attempt} {rest : List Attempt} {items : List ItemVersion}
    {error : ValidationIssue}
    (failed : tryAttempt service request v1Request false first = .error error)
    (tried : tryAttempt service request v1Request true second = .ok items)
    (isCount : items.length = request.cards.length) :
    CameFrom service request v1Request first (second :: rest) items := by
  unfold tryAttempt at tried
  cases answered : second.answer with
  | error error =>
      rw [answered] at tried
      cases tried
  | ok generated =>
      unfold CameFrom
      rw [fallbackItems_second failed answered]
      rw [answered] at tried
      dsimp only [bind, Except.bind] at tried
      split at tried
      · cases tried
      split at tried
      · cases tried
      split at tried
      · next invalid =>
        split at tried
        · cases tried
        obtain ⟨-, rfl⟩ := accept_ok tried
        rw [normalizeV2FinalizedItems, List.length_map, length_safeRepair] at isCount
        have anyIssue : validateV2GeneratedItems service request v1Request
            (finish service request v1Request second generated) ≠ [] := by
          simpa using invalid
        unfold deterministicSafeRepairV2
        by_cases repairable : (validateV2GeneratedItems service request v1Request
            (finish service request v1Request second generated)).all isRepairable
        · rw [if_pos ⟨anyIssue, repairable⟩, if_neg (by simp [isCount, anyIssue, repairable])]
          exact ⟨⟨second, generated, rfl⟩, isCount, rfl⟩
        · rw [if_neg fun both => repairable both.2, if_pos (.inr (.inr repairable))]
          exact ⟨second, generated, .inr rfl⟩
      · next valid =>
        obtain ⟨-, rfl⟩ := accept_ok tried
        have noIssue : validateV2GeneratedItems service request v1Request
            (finish service request v1Request second generated) = [] := by
          simpa using valid
        rw [if_neg fun both => both.1 noIssue]
        exact ⟨second, generated, .inl rfl⟩

theorem cameFrom_first {first : Attempt} {later : List Attempt} {items : List ItemVersion}
    (tried : tryAttempt service request v1Request false first = .ok items) :
    CameFrom service request v1Request first later items := by
  obtain ⟨answered, isFinished⟩ := tryAttempt_first tried
  have noFallback : fallbackItems service request v1Request first later = none := by
    unfold fallbackItems
    rw [tried]
  unfold CameFrom
  rw [noFallback]
  exact ⟨first, answered, .inl isFinished⟩

theorem tryAttempt_last {second : Attempt} {rest : List Attempt} {items : List ItemVersion}
    (generated : generateWithRepair service request v1Request 0 second rest = .ok items) :
    tryAttempt service request v1Request true second = .ok items := by
  cases tried : tryAttempt service request v1Request true second with
  | ok accepted =>
      unfold generateWithRepair at generated
      simp only [decide_true, tried] at generated
      exact generated
  | error error =>
      unfold generateWithRepair at generated
      simp only [decide_true, tried] at generated
      cases generated

theorem cameFrom_of_generated {first : Attempt} {later : List Attempt} {items : List ItemVersion}
    (generated : generateWithRepair service request v1Request 1 first later = .ok items)
    (isCount : items.length = request.cards.length) :
    CameFrom service request v1Request first later items := by
  cases tried : tryAttempt service request v1Request false first with
  | ok accepted =>
      unfold generateWithRepair at generated
      simp only [Nat.one_ne_zero, decide_false, tried] at generated
      obtain rfl := Except.ok.inj generated
      exact cameFrom_first tried
  | error error =>
      unfold generateWithRepair at generated
      simp only [Nat.one_ne_zero, decide_false, tried] at generated
      cases later with
      | nil => cases generated
      | cons second rest =>
          dsimp only at generated
          split at generated
          · exact cameFrom_second tried (tryAttempt_last generated) isCount
          · cases generated

/-! ### Accepted answers -/

theorem warned_of_finished {items : List ItemVersion}
    (finished : ∃ attempt generated,
      items = finish service.shipped request v1Request attempt generated ∨
        items = normalizeV2FinalizedItems service.shipped
          (finish service.shipped request v1Request attempt generated))
    (member : item ∈ items) : item.Warned := by
  obtain ⟨attempt, generated, rfl | rfl⟩ := finished
  · exact warned_of_finish member
  · obtain ⟨before, isBefore, rfl⟩ := List.mem_map.mp member
    exact warned_normalizeFinalizedItem.mpr (warned_of_finish isBefore)

/-- The warnings of an accepted answer are right exactly if safe copy keeps the verdict. -/
theorem warned_iff {first : Attempt} {later : List Attempt} {items : List ItemVersion}
    (converted : v2GenerateToV1Request request = .ok v1Request)
    (cameFrom : CameFrom service.shipped request v1Request first later items)
    (isCount : items.length = request.cards.length) :
    (∀ item ∈ items, item.Warned) ↔ SafeCopyKeepsVerdict service.shipped request first later := by
  unfold CameFrom at cameFrom
  cases fallback : fallbackItems service.shipped request v1Request first later with
  | none =>
      rw [fallback] at cameFrom
      refine iff_of_true (fun item => warned_of_finished cameFrom) ?_
      intro other before isOther isFallback
      cases converted.symm.trans isOther
      cases fallback.symm.trans isFallback
  | some before =>
      rw [fallback] at cameFrom
      obtain ⟨⟨attempt, generated, finished⟩, sameLength, rfl⟩ := cameFrom
      have warned : ∀ item ∈ before, item.Warned := fun item member =>
        warned_of_finished ⟨attempt, generated, .inl finished⟩ member
      constructor
      · intro right other others isOther isFallback index card item isCard isItem
        cases converted.symm.trans isOther
        cases fallback.symm.trans isFallback
        refine (warned_safeRepairItem (warned item (List.mem_of_getElem? isItem))).mp ?_
        refine warned_normalizeFinalizedItem.mp (right _ (List.mem_map_of_mem ?_))
        refine List.mem_of_getElem? (i := index) ?_
        rw [List.getElem?_zipWith, isCard, isItem]
      · intro keeps repaired member
        obtain ⟨rewritten, isRewritten, rfl⟩ := List.mem_map.mp member
        obtain ⟨index, isAt⟩ := List.getElem?_of_mem isRewritten
        rw [List.getElem?_zipWith] at isAt
        cases isCard : request.cards[index]? with
        | none => simp [isCard] at isAt
        | some card =>
            cases isItem : before[index]? with
            | none => simp [isCard, isItem] at isAt
            | some item =>
                rw [isCard, isItem] at isAt
                obtain rfl := Option.some.inj isAt
                exact warned_normalizeFinalizedItem.mpr
                  ((warned_safeRepairItem (warned item (List.mem_of_getElem? isItem))).mpr
                    (keeps _ _ converted fallback index card item isCard isItem))

theorem checksum_of_cameFrom {first : Attempt} {later : List Attempt} {items : List ItemVersion}
    (cameFrom : CameFrom service.shipped request v1Request first later items)
    (member : item ∈ items) : item.versionChecksum = service.shipped.checksum item := by
  have ofNormalized : ∀ before, item ∈ normalizeV2FinalizedItems service.shipped before →
      item.versionChecksum = service.shipped.checksum item := by
    intro before isAmong
    obtain ⟨original, -, rfl⟩ := List.mem_map.mp isAmong
    exact checksum_normalizeFinalizedItem original
  unfold CameFrom at cameFrom
  split at cameFrom
  · obtain ⟨attempt, generated, rfl | rfl⟩ := cameFrom
    · exact ofNormalized _ member
    · exact ofNormalized _ member
  · obtain ⟨-, -, rfl⟩ := cameFrom
    exact ofNormalized _ member

/-- The accepted items are as promised exactly if only static images and carousels select media,
and the fallback, where it is used, rewrites no item across a limit of its platform. -/
theorem generated_faithful_iff (service : Service) (request : GenerateRequest) (first : Attempt)
    (later : List Attempt) (items : List ItemVersion)
    (accepted : generateV2ContentPack service.shipped request first later = .ok items) :
    InOrder (Faithful service.shipped) request.cards items ↔
      (∀ card ∈ request.cards, card.input.selectedMediaIds ≠ [] →
        card.input.format ∈ mediaFormats) ∧
      SafeCopyKeepsVerdict service.shipped request first later := by
  obtain ⟨isCount, fromCards⟩ := generated_inOrder accepted
  obtain ⟨v1Request, converted, cameFrom⟩ : ∃ v1Request,
      v2GenerateToV1Request request = .ok v1Request ∧
      CameFrom service.shipped request v1Request first later items := by
    unfold generateV2ContentPack at accepted
    cases converted : v2GenerateToV1Request request with
    | error error =>
        rw [converted] at accepted
        cases accepted
    | ok v1Request =>
        rw [converted] at accepted
        dsimp only [bind, Except.bind] at accepted
        split at accepted
        · cases accepted
        split at accepted
        · cases accepted
        next generated =>
        obtain ⟨-, rfl⟩ := accept_ok accepted
        exact ⟨v1Request, rfl, cameFrom_of_generated generated isCount⟩
  rw [← warned_iff converted cameFrom isCount]
  constructor
  · rintro ⟨-, faithful⟩
    refine ⟨fun card isCard => ?_, fun item isItem => ?_⟩
    · obtain ⟨index, isAt⟩ := List.getElem?_of_mem isCard
      have inside : index < items.length := by
        rw [isCount]
        exact (List.getElem?_eq_some_iff.mp isAt).1
      have isItem := List.getElem?_eq_getElem inside
      exact (promised_iff (fromCards index card _ isAt isItem).1).mp
        (faithful index card _ isAt isItem).media
    · obtain ⟨index, isAt⟩ := List.getElem?_of_mem isItem
      have inside : index < request.cards.length := by
        rw [← isCount]
        exact (List.getElem?_eq_some_iff.mp isAt).1
      exact (faithful index _ item (List.getElem?_eq_getElem inside) isAt).warned
  · rintro ⟨onlyNeeded, warned⟩
    refine ⟨isCount, fun index card item isCard isItem => ⟨?_, ?_, ?_⟩⟩
    · exact (promised_iff (fromCards index card item isCard isItem).1).mpr
        (onlyNeeded card (List.mem_of_getElem? isCard))
    · exact warned item (List.mem_of_getElem? isItem)
    · exact checksum_of_cameFrom cameFrom (List.mem_of_getElem? isItem)

/-- A provider that is asked once leaves nothing to the fallback. -/
theorem safeCopyKeepsVerdict_once (service : Service) (request : GenerateRequest)
    (first : Attempt) : SafeCopyKeepsVerdict service request first [] := by
  rintro v1Request items - isFallback
  have noFallback : fallbackItems service request v1Request first [] = none := by
    unfold fallbackItems
    cases tryAttempt service request v1Request false first <;> rfl
  cases noFallback.symm.trans isFallback

/-! ### One plan -/

/-- What the service makes of plain answers for the plan of a world. -/
private def shippedItems (world : World) : List ItemVersion :=
  (generateV2ContentPack plainService.shipped (plainRequest world)
    (plainAttempt (plainRequest world).cards) []).toOption.getD []

/-- A text post with a picture of the owner's, a static image and a text post elsewhere. -/
private def picturedWorld : World :=
  claimedWorld (plannedPosts [("facebook", "text_post", [40]),
    ("facebook", "static_image_post", []), ("instagram", "text_post", [])])

/-- Cards of three kinds get what is promised. -/
theorem mixed_items_faithful :
    InOrder (Faithful plainService.shipped) (plainRequest mixedWorld).cards
      (shippedItems mixedWorld) :=
  (generated_faithful_iff plainService (plainRequest mixedWorld)
    (plainAttempt (plainRequest mixedWorld).cards) [] (shippedItems mixedWorld)
    (ok_of_isSome (by decide +kernel))).mpr
      ⟨by decide +kernel, safeCopyKeepsVerdict_once _ _ _⟩

/-- The picture of a text post is lost. -/
theorem text_post_loses_picture :
    ¬ ∀ (service : Service) (request : GenerateRequest) (first : Attempt) (later : List Attempt)
      (items : List ItemVersion),
      generateV2ContentPack service.shipped request first later = .ok items →
        InOrder (Faithful service.shipped) request.cards items := by
  intro always
  have accepted : generateV2ContentPack plainService.shipped (plainRequest picturedWorld)
      (plainAttempt (plainRequest picturedWorld).cards) [] = .ok (shippedItems picturedWorld) :=
    ok_of_isSome (by decide +kernel)
  have faithful := always _ _ _ _ _ accepted
  have media : ∀ pair ∈ (plainRequest picturedWorld).cards.zip (shippedItems picturedWorld),
      pair.2.assetIds = promisedMedia plainService.shipped pair.1 pair.2.id := by
    intro pair member
    obtain ⟨index, isAt⟩ := List.getElem?_of_mem member
    rw [List.getElem?_zip_eq_some] at isAt
    exact (faithful.2 index pair.1 pair.2 isAt.1 isAt.2).media
  revert media
  decide +kernel

end MarketMind.Content.Generator
