import MarketMind.Performance.Analyzer
import MarketMind.Steps

/-!
Owns the independence of an analysis of the order in which the snapshots come,
and what the evidence of a ready analysis is: the complete snapshots of one
cohort that has the most of them.

Does not own the collation of texts, which is the host's.
-/

namespace MarketMind.Performance

open Publishing.Contract (isHexGroups isHexDigit codeUnits)

deriving instance DecidableEq for GenerationIdentity

/-! ### Sorted lists -/

section Sorted

variable {α : Type} {before : α → α → Prop} [DecidableRel before] {left right : List α}

/-- Lists of the same items are sorted into the same list. -/
theorem insertionSort_congr
    (total : ∀ left right, before left right ∨ before right left)
    (trans : ∀ {left middle right}, before left middle → before middle right → before left right)
    (antisymm : ∀ first ∈ left, ∀ second ∈ left, before first second → before second first →
      first = second)
    (same : left.Perm right) : left.insertionSort before = right.insertionSort before := by
  have isTotal : Std.Total before := ⟨total⟩
  have isTrans : IsTrans α before := ⟨fun _ _ _ => trans⟩
  have toRight : (right.insertionSort before).Perm left :=
    (List.perm_insertionSort before right).trans same.symm
  apply @List.Perm.eq_of_pairwise _ before
  · intro first second isFirst isSecond
    exact antisymm first ((List.mem_insertionSort before).mp isFirst) second
      (toRight.mem_iff.mp isSecond)
  · exact List.pairwise_insertionSort before left
  · exact List.pairwise_insertionSort before right
  · exact (List.perm_insertionSort before left).trans toRight.symm

theorem nodup_eraseDups [DecidableEq α] (list : List α) : list.eraseDups.Nodup := by
  induction length : list.length using Nat.strong_induction_on generalizing list with
  | _ length inductionHypothesis =>
      cases list with
      | nil => exact List.nodup_nil
      | cons first rest =>
          subst length
          rw [List.eraseDups_cons, List.nodup_cons]
          constructor
          · intro member
            rw [List.mem_eraseDups, List.mem_filter] at member
            simp at member
          · apply inductionHypothesis _ _ _ rfl
            have shorter := List.length_filter_le (fun item => !item == first) rest
            rw [List.length_cons]
            omega

theorem eraseDups_perm [DecidableEq α] (same : left.Perm right) :
    left.eraseDups.Perm right.eraseDups := by
  apply (List.perm_ext_iff_of_nodup (nodup_eraseDups left) (nodup_eraseDups right)).mpr
  intro item
  rw [List.mem_eraseDups, List.mem_eraseDups, same.mem_iff]

end Sorted

theorem median_perm {left right : List ℚ} (same : left.Perm right) : median left = median right := by
  unfold median
  rw [insertionSort_congr le_total le_trans (fun _ _ _ _ => le_antisymm) same]

/-! ### The texts of identities -/

/-- Lower-case letters, digits, and the marks of identities, keys and formats. -/
def isPlain (char : Char) : Bool :=
  char.isLower || char.isDigit || ['-', '|', '_'].contains char

def Plain (text : String) : Prop := ∀ char ∈ text.toList, isPlain char = true

/-- A consistent comparison, which tells plain texts apart. -/
structure Collates (host : Host) : Prop where
  total : ∀ left right, host.localeLe left right = true ∨ host.localeLe right left = true
  trans : ∀ {left middle right}, host.localeLe left middle = true →
    host.localeLe middle right = true → host.localeLe left right = true
  antisymm : ∀ {left right}, Plain left → Plain right → host.localeLe left right = true →
    host.localeLe right left = true → left = right

namespace Uuid

/-- The characters of a UUID are hexadecimal digits and hyphens. -/
private theorem mem_of_hexGroups {lengths : List Nat} {chars : List Char}
    (groups : isHexGroups lengths chars = true) :
    ∀ char ∈ chars, isHexDigit char = true ∨ char = '-' := by
  induction lengths generalizing chars with
  | nil =>
      rw [isHexGroups, List.isEmpty_iff] at groups
      subst groups
      intro char member
      cases member
  | cons length lengths inductionHypothesis =>
      cases lengths with
      | nil =>
          rw [isHexGroups, Bool.and_eq_true, List.all_eq_true] at groups
          exact fun char member => Or.inl (groups.2 char member)
      | cons next lengths =>
          rw [isHexGroups, Bool.and_eq_true, Bool.and_eq_true, List.all_eq_true] at groups
          obtain ⟨⟨-, hex⟩, rest⟩ := groups
          intro char member
          rw [← List.take_append_drop length chars, List.mem_append] at member
          rcases member with inHead | inTail
          · exact Or.inl (hex char inHead)
          · split at rest
            · next tail isTail =>
              rw [isTail] at inTail
              rcases List.mem_cons.mp inTail with rfl | inRest
              · exact Or.inr rfl
              · exact inductionHypothesis rest char inRest
            · cases rest

theorem mem_text (id : Uuid) {char : Char} (member : char ∈ id.text.toList) :
    isHexDigit char = true ∨ char = '-' := by
  have isUuid := id.isUuid
  unfold Performance.isUuid at isUuid
  simp only [Bool.and_eq_true] at isUuid
  exact mem_of_hexGroups isUuid.1.1 char member

theorem plain (id : Uuid) : Plain id.text := by
  intro char member
  have lower := List.all_eq_true.mp id.isLower char member
  rcases id.mem_text member with isHex | rfl
  · unfold isHexDigit at isHex
    unfold isPlain Char.isLower Char.isDigit
    unfold Char.isUpper at lower
    simp only [Bool.or_eq_true, Bool.and_eq_true, decide_eq_true_eq, Char.le_def,
      Bool.not_eq_true', decide_eq_false_iff_not, UInt32.le_iff_toNat_le, ge_iff_le] at *
    have bounds : '9'.val.toNat = 57 ∧ 'f'.val.toNat = 102 ∧ 'F'.val.toNat = 70 ∧
      'a'.val.toNat = 97 ∧ 'z'.val.toNat = 122 ∧ 'A'.val.toNat = 65 ∧ 'Z'.val.toNat = 90 ∧
        '0'.val.toNat = 48 := by decide
    omega
  · decide

theorem notMem_text (id : Uuid) : '|' ∉ id.text.toList := by
  intro member
  rcases id.mem_text member with isHex | isHyphen
  · exact absurd isHex (by decide)
  · exact absurd isHyphen (by decide)

end Uuid

private theorem version_digit (version : Nat) {char : Char}
    (member : char ∈ (toString version).toList) : char.isDigit = true := by
  rw [Nat.toString_eq_repr, Nat.toList_repr] at member
  exact Nat.isDigit_of_mem_toDigits (by decide) (by decide) member

private theorem version_notMem (version : Nat) : '|' ∉ (toString version).toList := by
  intro member
  exact absurd (version_digit version member) (by decide)

/-! ### The keys -/

section Keys

variable {left right : OptimizationSnapshotInput}

theorem identityKey_toList (snapshot : OptimizationSnapshotInput) :
    (identityKey snapshot).toList =
      snapshot.businessId.text.toList ++ '|' :: (snapshot.strategyId.text.toList ++ '|' ::
        ((toString snapshot.strategyVersion).toList ++ '|' ::
          (snapshot.contentCycleId.text.toList ++ '|' :: snapshot.contentFormat.text.toList))) := by
  unfold identityKey
  simp only [String.toList_append, List.append_assoc]
  rfl

theorem plain_key (snapshot : OptimizationSnapshotInput) : Plain (identityKey snapshot) := by
  have version : Plain (toString snapshot.strategyVersion) := by
    intro char member
    unfold isPlain
    rw [version_digit snapshot.strategyVersion member, Bool.or_true, Bool.true_or]
  have format : Plain snapshot.contentFormat.text := by
    cases snapshot.contentFormat <;> exact List.all_eq_true.1 rfl
  have mark : isPlain '|' = true := by decide
  intro char member
  rw [identityKey_toList] at member
  simp only [List.mem_append, List.mem_cons] at member
  rcases member with inText | rfl | inText | rfl | inText | rfl | inText | rfl | inText
  · exact snapshot.businessId.plain char inText
  · exact mark
  · exact snapshot.strategyId.plain char inText
  · exact mark
  · exact version char inText
  · exact mark
  · exact snapshot.contentCycleId.plain char inText
  · exact mark
  · exact format char inText

/-- Texts are told apart up to a mark that neither has before it. -/
private theorem split_at_mark {mark : Char} {first second firstRest secondRest : List Char}
    (notFirst : mark ∉ first) (notSecond : mark ∉ second)
    (same : first ++ mark :: firstRest = second ++ mark :: secondRest) :
    first = second ∧ firstRest = secondRest := by
  induction first generalizing second with
  | nil =>
      cases second with
      | nil => exact ⟨rfl, (List.cons.inj same).2⟩
      | cons char second => exact absurd ((List.cons.inj same).1 ▸ List.mem_cons_self) notSecond
  | cons char first inductionHypothesis =>
      cases second with
      | nil => exact absurd ((List.cons.inj same).1 ▸ List.mem_cons_self) notFirst
      | cons other second =>
          obtain ⟨rfl, rest⟩ := List.cons.inj same
          obtain ⟨rfl, sameRest⟩ := inductionHypothesis
            (fun member => notFirst (List.mem_cons_of_mem _ member))
            (fun member => notSecond (List.mem_cons_of_mem _ member)) rest
          exact ⟨rfl, sameRest⟩

/-- The key determines the identity, since no part of it has the mark between parts. -/
theorem identity_of_key (same : identityKey left = identityKey right) :
    identityOf left = identityOf right := by
  have sameChars := String.toList_inj.mpr same
  rw [identityKey_toList, identityKey_toList] at sameChars
  obtain ⟨business, rest⟩ :=
    split_at_mark left.businessId.notMem_text right.businessId.notMem_text sameChars
  obtain ⟨strategy, rest⟩ :=
    split_at_mark left.strategyId.notMem_text right.strategyId.notMem_text rest
  obtain ⟨version, rest⟩ := split_at_mark (version_notMem _) (version_notMem _) rest
  obtain ⟨cycle, format⟩ :=
    split_at_mark left.contentCycleId.notMem_text right.contentCycleId.notMem_text rest
  have sameVersion : left.strategyVersion = right.strategyVersion := by
    simp only [Nat.toString_eq_repr, Nat.toList_repr] at version
    rw [← @Nat.ofDigitChars_ten_toDigits left.strategyVersion, version,
      Nat.ofDigitChars_ten_toDigits]
  unfold identityOf
  rw [String.toList_inj.mp business, String.toList_inj.mp strategy, sameVersion,
    String.toList_inj.mp cycle, String.toList_inj.mp format]

theorem key_of_identity (same : identityOf left = identityOf right) :
    identityKey left = identityKey right := by
  simp only [identityOf, GenerationIdentity.mk.injEq, Nat.cast_inj] at same
  obtain ⟨business, strategy, version, cycle, format⟩ := same
  unfold identityKey
  rw [business, strategy, version, cycle, format]

theorem format_of_key (same : identityKey left = identityKey right) :
    left.contentFormat = right.contentFormat := by
  have texts : left.contentFormat.text = right.contentFormat.text :=
    congrArg GenerationIdentity.formatCohort (identity_of_key same)
  cases isLeft : left.contentFormat <;> cases isRight : right.contentFormat
  case textPost.textPost => rfl
  case staticImagePost.staticImagePost => rfl
  all_goals
    rw [isLeft, isRight] at texts
    exact absurd texts (by decide)

end Keys

/-! ### The choice of a group -/

/-- The group of a snapshot among all. -/
def groupOf (snapshots : List OptimizationSnapshotInput) (snapshot : OptimizationSnapshotInput) :
    List OptimizationSnapshotInput :=
  snapshots.filter (identityKey · = identityKey snapshot)

/-- The key that the comparison of groups reads. -/
def keyOf (group : List OptimizationSnapshotInput) : String := group.head?.elim "" identityKey

theorem mem_groups {snapshots group : List OptimizationSnapshotInput} :
    group ∈ groups snapshots ↔ ∃ snapshot ∈ snapshots, groupOf snapshots snapshot = group := by
  unfold groups groupOf
  simp only [List.mem_map, List.mem_eraseDups, exists_exists_and_eq_and]

section Choice

variable {host : Host} {snapshots others : List OptimizationSnapshotInput}
  {snapshot other : OptimizationSnapshotInput}

theorem mem_groupOf :
    other ∈ groupOf snapshots snapshot ↔
      other ∈ snapshots ∧ identityKey other = identityKey snapshot := by
  unfold groupOf
  rw [List.mem_filter, decide_eq_true_eq]

theorem self_mem_groupOf (member : snapshot ∈ snapshots) : snapshot ∈ groupOf snapshots snapshot :=
  mem_groupOf.mpr ⟨member, rfl⟩

theorem head_key {group : List OptimizationSnapshotInput} {key : String} (nonempty : group ≠ [])
    (sameKey : ∀ snapshot ∈ group, identityKey snapshot = key) : keyOf group = key := by
  cases group with
  | nil => exact absurd rfl nonempty
  | cons first rest => exact sameKey first List.mem_cons_self

@[simp]
theorem keyOf_groupOf (member : snapshot ∈ snapshots) :
    keyOf (groupOf snapshots snapshot) = identityKey snapshot :=
  head_key (List.ne_nil_of_mem (self_mem_groupOf member)) fun _ inGroup =>
    (mem_groupOf.mp inGroup).2

theorem groupBefore_iff {left right : List OptimizationSnapshotInput} :
    groupBefore host left right ↔
      completeCount right < completeCount left ∨
        completeCount right = completeCount left ∧
          (right.length < left.length ∨
            right.length = left.length ∧ host.localeLe (keyOf left) (keyOf right) = true) := by
  unfold groupBefore
  by_cases sameCount : completeCount right = completeCount left
  · rw [if_neg (not_not.mpr sameCount)]
    by_cases sameLength : right.length = left.length
    · rw [if_neg (not_not.mpr sameLength)]
      simp [sameCount, sameLength, keyOf]
    · rw [if_pos sameLength]
      simp [sameCount, sameLength]
  · rw [if_pos sameCount]
    simp [sameCount]

theorem groupBefore_total (collates : Collates host) (left right : List OptimizationSnapshotInput) :
    groupBefore host left right ∨ groupBefore host right left := by
  rw [groupBefore_iff, groupBefore_iff]
  have keys := collates.total (keyOf left) (keyOf right)
  grind

theorem groupBefore_trans (collates : Collates host)
    {left middle right : List OptimizationSnapshotInput} (below : groupBefore host left middle)
    (above : groupBefore host middle right) : groupBefore host left right := by
  rw [groupBefore_iff] at *
  have keys := @Collates.trans host collates (keyOf left) (keyOf middle) (keyOf right)
  grind

/-- Groups that sort before each other have one key. -/
theorem groupBefore_antisymm (collates : Collates host) (inFirst : snapshot ∈ snapshots)
    (inSecond : other ∈ snapshots)
    (below : groupBefore host (groupOf snapshots snapshot) (groupOf snapshots other))
    (above : groupBefore host (groupOf snapshots other) (groupOf snapshots snapshot)) :
    identityKey snapshot = identityKey other := by
  rw [groupBefore_iff, keyOf_groupOf inFirst, keyOf_groupOf inSecond] at below above
  apply collates.antisymm (plain_key snapshot) (plain_key other)
  · grind
  · grind

theorem completeCount_perm {left right : List OptimizationSnapshotInput} (same : left.Perm right) :
    completeCount left = completeCount right :=
  (same.filter isComplete).length_eq

/-- The comparison of groups does not depend on the order of the snapshots. -/
theorem groupBefore_perm (same : snapshots.Perm others) (inFirst : snapshot ∈ snapshots)
    (inSecond : other ∈ snapshots) :
    groupBefore host (groupOf snapshots snapshot) (groupOf snapshots other) ↔
      groupBefore host (groupOf others snapshot) (groupOf others other) := by
  have perm : ∀ item, (groupOf snapshots item).Perm (groupOf others item) :=
    fun item => same.filter _
  rw [groupBefore_iff, groupBefore_iff, keyOf_groupOf inFirst, keyOf_groupOf inSecond,
    keyOf_groupOf (same.mem_iff.mp inFirst), keyOf_groupOf (same.mem_iff.mp inSecond),
    completeCount_perm (perm snapshot), completeCount_perm (perm other), (perm snapshot).length_eq,
    (perm other).length_eq]

/-- The group that the sort puts first. -/
def firstGroup (host : Host) (snapshots : List OptimizationSnapshotInput) :
    List OptimizationSnapshotInput :=
  ((groups snapshots).insertionSort (groupBefore host)).head?.getD []

/-- The first group is that of a snapshot, and it sorts before every other. -/
theorem firstGroup_spec (collates : Collates host) (nonempty : snapshots ≠ []) :
    ∃ snapshot ∈ snapshots, firstGroup host snapshots = groupOf snapshots snapshot ∧
      ∀ other ∈ snapshots,
        groupBefore host (groupOf snapshots snapshot) (groupOf snapshots other) := by
  obtain ⟨some, inSnapshots⟩ := List.exists_mem_of_ne_nil snapshots nonempty
  have isGroup : groupOf snapshots some ∈ groups snapshots :=
    mem_groups.mpr ⟨some, inSnapshots, rfl⟩
  obtain ⟨first, isFirst⟩ := exists_head_of_sort (groupBefore host) isGroup
  obtain ⟨member, below⟩ :=
    least_of_sort (groupBefore_total collates) (groupBefore_trans collates) isFirst
  obtain ⟨snapshot, inFirst, rfl⟩ := mem_groups.mp member
  refine ⟨snapshot, inFirst, ?_, fun other inOther => ?_⟩
  · unfold firstGroup
    rw [isFirst]
    rfl
  · exact below _ (mem_groups.mpr ⟨other, inOther, rfl⟩)

theorem firstGroup_perm (collates : Collates host) (same : snapshots.Perm others) :
    (firstGroup host snapshots).Perm (firstGroup host others) := by
  by_cases isEmpty : snapshots = []
  · subst isEmpty
    rw [List.nil_perm.mp same]
  · obtain ⟨left, inLeft, isLeft, leftBelow⟩ := firstGroup_spec collates isEmpty
    have othersNonempty : others ≠ [] := by
      rintro rfl
      exact isEmpty (List.perm_nil.mp same)
    obtain ⟨right, inRight, isRight, rightBelow⟩ := firstGroup_spec collates othersNonempty
    have inSnapshots := same.mem_iff.mpr inRight
    have sameKey : identityKey left = identityKey right := by
      apply groupBefore_antisymm collates inLeft inSnapshots (leftBelow right inSnapshots)
      rw [groupBefore_perm same inSnapshots inLeft]
      exact rightBelow left (same.mem_iff.mp inLeft)
    rw [isLeft, isRight]
    unfold groupOf
    rw [sameKey]
    exact same.filter _

end Choice

/-! ### Independence of the order -/

/-- The input with its snapshots in another order. -/
def reordered (input : AnalysisInput) (others : List OptimizationSnapshotInput) : AnalysisInput :=
  { input with snapshots := others }

section Order

variable {host : Host} {input : AnalysisInput} {others : List OptimizationSnapshotInput}

theorem candidates_perm (same : input.snapshots.Perm others) :
    (candidates input).Perm (candidates (reordered input others)) :=
  same.filter _

theorem availableFormats_perm (same : input.snapshots.Perm others) :
    availableFormats (reordered input others) = availableFormats input := by
  have formats : ((input.snapshots.filter (isComparable input)).map (·.contentFormat)).Perm
      ((others.filter (isComparable input)).map (·.contentFormat)) :=
    (same.filter _).map _
  symm
  apply insertionSort_congr
  · exact fun left right => le_total (codeUnits left.text) (codeUnits right.text)
  · exact fun below above => le_trans below above
  · intro first _ second _ below above
    have texts := le_antisymm below above
    cases first <;> cases second
    case textPost.textPost => rfl
    case staticImagePost.staticImagePost => rfl
    all_goals exact absurd texts (by decide)
  · exact eraseDups_perm formats

theorem chosenGroup_perm (collates : Collates host) (same : input.snapshots.Perm others) :
    (chosenGroup host input).Perm (chosenGroup host (reordered input others)) :=
  firstGroup_perm collates (candidates_perm same)

/-- The chosen group is one of one key. -/
theorem chosenGroup_key (collates : Collates host) {left right : OptimizationSnapshotInput}
    (inLeft : left ∈ chosenGroup host input) (inRight : right ∈ chosenGroup host input) :
    identityKey left = identityKey right := by
  have isFirst : chosenGroup host input = firstGroup host (candidates input) := rfl
  rw [isFirst] at inLeft inRight
  by_cases isEmpty : candidates input = []
  · rw [isEmpty] at inLeft
    cases inLeft
  · obtain ⟨snapshot, -, isGroup, -⟩ := firstGroup_spec collates isEmpty
    rw [isGroup] at inLeft inRight
    exact (mem_groupOf.mp inLeft).2.trans (mem_groupOf.mp inRight).2.symm

theorem input_of_chosenGroup (collates : Collates host) {snapshot : OptimizationSnapshotInput}
    (member : snapshot ∈ chosenGroup host input) : snapshot ∈ input.snapshots := by
  have isFirst : chosenGroup host input = firstGroup host (candidates input) := rfl
  rw [isFirst] at member
  by_cases isEmpty : candidates input = []
  · rw [isEmpty] at member
    cases member
  · obtain ⟨first, -, isGroup, -⟩ := firstGroup_spec collates isEmpty
    rw [isGroup] at member
    exact (List.mem_filter.mp (mem_groupOf.mp member).1).1

/-- A property that all items share is that of the first, whichever is first. -/
theorem head_map_perm {α β : Type} {left right : List α} {read : α → β} (same : left.Perm right)
    (shared : ∀ first ∈ left, ∀ second ∈ left, read first = read second) :
    right.head?.map read = left.head?.map read := by
  cases left with
  | nil => rw [List.nil_perm.mp same]
  | cons first rest =>
      cases right with
      | nil => exact absurd (List.perm_nil.mp same) (List.cons_ne_nil _ _)
      | cons second others =>
          have inLeft := same.mem_iff.mpr (List.mem_cons_self (a := second) (l := others))
          exact congrArg some (shared second inLeft first List.mem_cons_self)

theorem cohort_perm (collates : Collates host)
    (distinct : (input.snapshots.map (·.snapshotId)).Nodup) (same : input.snapshots.Perm others) :
    cohort host (reordered input others) = cohort host input := by
  symm
  apply insertionSort_congr
  · exact fun left right => collates.total _ _
  · exact fun below above => collates.trans below above
  · intro first isFirst second isSecond below above
    have inFirst := input_of_chosenGroup collates (List.mem_filter.mp isFirst).1
    have inSecond := input_of_chosenGroup collates (List.mem_filter.mp isSecond).1
    have texts := collates.antisymm first.snapshotId.plain second.snapshotId.plain below above
    exact List.inj_on_of_nodup_map distinct inFirst inSecond (Uuid.eq_of_text texts)
  · exact (chosenGroup_perm collates same).filter _

theorem analyze_reordered (collates : Collates host)
    (distinct : (input.snapshots.map (·.snapshotId)).Nodup) (same : input.snapshots.Perm others) :
    analyzeOptimizationSnapshots host (reordered input others) =
      analyzeOptimizationSnapshots host input := by
  have chosen := chosenGroup_perm collates same
  have format : (chosenGroup host (reordered input others)).head?.map (·.contentFormat) =
      (chosenGroup host input).head?.map (·.contentFormat) :=
    head_map_perm chosen fun _ isFirst _ isSecond =>
      format_of_key (chosenGroup_key collates isFirst isSecond)
  have identity : (chosenGroup host (reordered input others)).head?.map identityOf =
      (chosenGroup host input).head?.map identityOf :=
    head_map_perm chosen fun _ isFirst _ isSecond =>
      identity_of_key (chosenGroup_key collates isFirst isSecond)
  have stillDistinct : ((reordered input others).snapshots.map (·.snapshotId)).Nodup :=
    (same.map _).nodup_iff.mp distinct
  unfold analyzeOptimizationSnapshots
  rw [if_neg (not_not.mpr stillDistinct), if_neg (not_not.mpr distinct)]
  dsimp only
  rw [availableFormats_perm same, cohort_perm collates distinct same, ← chosen.length_eq, format,
    identity]
  rfl

end Order

/-! ### What a ready analysis has found -/

/-- The complete snapshots of one cohort. -/
def completeOf (input : AnalysisInput) (identity : GenerationIdentity) :
    List OptimizationSnapshotInput :=
  (candidates input).filter fun snapshot => isComplete snapshot && identityOf snapshot = identity

/-- The values of a metric that are available. -/
def valuesOf (snapshots : List OptimizationSnapshotInput) (metric : String) : List ℚ :=
  snapshots.filterMap fun snapshot => (snapshot.metrics.get? metric).bind (·.value?)

/-- The comparison of a metric over all of the snapshots: each has a value, and
the median and the best value are those of these values. -/
structure Compares (snapshots : List OptimizationSnapshotInput) (metric : String)
    (comparison : OptimizationComparison) : Prop where
  named : comparison.metric = metric
  every : (valuesOf snapshots metric).length = snapshots.length
  values : comparison.values.Perm (valuesOf snapshots metric)
  middle : comparison.baselineMedian = median (valuesOf snapshots metric)
  best : ∃ snapshot ∈ snapshots, snapshot.snapshotId.text = comparison.bestSnapshotId ∧
    (snapshot.metrics.get? metric).bind (·.value?) = some comparison.bestValue
  greatest : ∀ value ∈ valuesOf snapshots metric, value ≤ comparison.bestValue

/-- The evidence is that of all complete snapshots of one cohort, which has the
most of them and at least three. -/
structure ExactFor (input : AnalysisInput) (analysis : OptimizationAnalysis)
    (identity : GenerationIdentity) : Prop where
  identified : analysis.identity = some identity
  evidence : ∃ evidence, (completeOf input identity).mapM asEvidence = .ok evidence ∧
    analysis.evidence.Perm evidence
  enough : 3 ≤ (completeOf input identity).length
  most : ∀ other, (completeOf input other).length ≤ (completeOf input identity).length
  comparisons : List.Forall₂ (Compares (completeOf input identity)) requiredMetrics
    analysis.comparisons

section Exact

variable {host : Host} {input : AnalysisInput} {analysis : OptimizationAnalysis}

/-- The evidence of a snapshot that was observed. -/
def evidenceOf (snapshot : OptimizationSnapshotInput) : OptimizationEvidence :=
  { snapshot with observedAt := snapshot.observedAt.getD "" }

theorem asEvidence_ok {snapshot : OptimizationSnapshotInput} {evidence : OptimizationEvidence}
    (ok : asEvidence snapshot = .ok evidence) : evidence = evidenceOf snapshot := by
  unfold asEvidence at ok
  split at ok
  · cases ok
  · cases ok
  · next observedAt isObserved =>
    obtain rfl := Except.ok.inj ok
    unfold evidenceOf
    rw [isObserved]
    rfl

/-- What becomes evidence at all becomes it whichever way the list is ordered. -/
theorem asEvidence_of_mapM {snapshots : List OptimizationSnapshotInput}
    {evidence : List OptimizationEvidence} (ok : snapshots.mapM asEvidence = .ok evidence) :
    evidence = snapshots.map evidenceOf ∧
      ∀ snapshot ∈ snapshots, asEvidence snapshot = .ok (evidenceOf snapshot) := by
  have each := Steps.mapM_eq_ok.mp ok
  clear ok
  induction each with
  | nil => exact ⟨rfl, fun _ member => nomatch member⟩
  | @cons snapshot item _ _ isOk _ inductionHypothesis =>
      obtain ⟨rest, others⟩ := inductionHypothesis
      obtain rfl := asEvidence_ok isOk
      rw [List.map_cons, rest]
      exact ⟨rfl, List.forall_mem_cons.mpr ⟨isOk, others⟩⟩

/-- What the branches of the analysis leave of a ready one. -/
theorem ready_of_analysis (analyzed : analyzeOptimizationSnapshots host input = .ok analysis)
    (isReady : analysis.readiness.status = .ready) :
    requiredSnapshotCount ≤ (cohort host input).length ∧
      (cohort host input).mapM asEvidence = .ok analysis.evidence ∧
      requiredMetrics.mapM (comparisonFor host analysis.evidence) = .ok analysis.comparisons ∧
      ∃ first ∈ analysis.evidence, analysis.identity = some (identityOfEvidence first) := by
  unfold analyzeOptimizationSnapshots at analyzed
  dsimp only at analyzed
  split at analyzed
  · obtain rfl := Except.ok.inj analyzed
    simp [withoutEvidence, readiness] at isReady
  · split at analyzed
    · next few =>
      obtain rfl := Except.ok.inj analyzed
      simp only [withoutEvidence, readiness] at isReady
      rw [if_neg (Nat.not_le.mpr few), ite_eq_iff] at isReady
      simp at isReady
    · next enough =>
      cases isEvidence : (cohort host input).mapM asEvidence with
      | error error =>
          rw [isEvidence] at analyzed
          cases analyzed
      | ok evidence =>
          rw [isEvidence] at analyzed
          dsimp only [bind, Except.bind] at analyzed
          cases isComparisons : requiredMetrics.mapM (comparisonFor host evidence) with
          | error error =>
              rw [isComparisons] at analyzed
              cases analyzed
          | ok comparisons =>
              rw [isComparisons] at analyzed
              dsimp only at analyzed
              cases evidence with
              | nil => cases analyzed
              | cons first rest =>
                  dsimp only at analyzed
                  split at analyzed
                  · obtain rfl := Except.ok.inj analyzed
                    simp [withoutEvidence, readiness] at isReady
                  · obtain rfl := Except.ok.inj analyzed
                    exact ⟨Nat.not_lt.mp enough, rfl, isComparisons, first, List.mem_cons_self, rfl⟩

/-! ### The comparisons -/

theorem isSome_of_complete {snapshot : OptimizationSnapshotInput} {metric : String}
    (complete : isComplete snapshot = true) (isMetric : metric ∈ requiredMetrics) :
    ((snapshot.metrics.get? metric).bind (·.value?)).isSome = true := by
  unfold isComplete isAvailable at complete
  rw [Bool.and_eq_true] at complete
  simp only [requiredMetrics, List.mem_cons, List.not_mem_nil, or_false] at isMetric
  rcases isMetric with rfl | rfl
  · exact complete.1
  · exact complete.2

theorem values_observations (snapshots : List OptimizationSnapshotInput) (metric : String) :
    (observations (snapshots.map evidenceOf) metric).map (·.value) = valuesOf snapshots metric := by
  unfold observations valuesOf
  rw [List.filterMap_map, List.map_filterMap]
  apply List.filterMap_congr
  intro snapshot _
  show Option.map _ ((snapshot.metrics.get? metric).bind _) = _
  cases snapshot.metrics.get? metric with
  | none => rfl
  | some value => cases value <;> rfl

theorem observationBefore_total (collates : Collates host) (left right : Observation) :
    observationBefore host left right ∨ observationBefore host right left := by
  unfold observationBefore
  rcases lt_trichotomy left.value right.value with less | same | more
  · exact Or.inr (Or.inl less)
  · rcases collates.total left.snapshotId.text right.snapshotId.text with below | above
    · exact Or.inl (Or.inr ⟨same.symm, below⟩)
    · exact Or.inr (Or.inr ⟨same, above⟩)
  · exact Or.inl (Or.inl more)

theorem observationBefore_trans (collates : Collates host) {left middle right : Observation}
    (first : observationBefore host left middle) (second : observationBefore host middle right) :
    observationBefore host left right := by
  unfold observationBefore at *
  rcases first with more | ⟨same, below⟩
  · rcases second with moreStill | ⟨sameStill, -⟩
    · exact Or.inl (moreStill.trans more)
    · exact Or.inl (sameStill ▸ more)
  · rcases second with moreStill | ⟨sameStill, belowStill⟩
    · exact Or.inl (same ▸ moreStill)
    · exact Or.inr ⟨sameStill.trans same, collates.trans below belowStill⟩

theorem le_of_observationBefore {left right : Observation}
    (before : observationBefore host left right) : right.value ≤ left.value := by
  rcases before with more | ⟨same, -⟩
  · exact more.le
  · exact same.le

/-- The comparison of the evidence is one over the snapshots, in any order. -/
theorem compares_of_comparisonFor (collates : Collates host)
    {sorted snapshots : List OptimizationSnapshotInput} (same : sorted.Perm snapshots)
    (allComplete : ∀ snapshot ∈ snapshots, isComplete snapshot = true) {metric : String}
    (isMetric : metric ∈ requiredMetrics) {comparison : OptimizationComparison}
    (ok : comparisonFor host (sorted.map evidenceOf) metric = .ok comparison) :
    Compares snapshots metric comparison := by
  have valuesPerm : (valuesOf sorted metric).Perm (valuesOf snapshots metric) := same.filterMap _
  unfold comparisonFor at ok
  dsimp only at ok
  split at ok
  · cases ok
  · next best isBest =>
    obtain ⟨inObservations, before⟩ :=
      least_of_sort (observationBefore_total collates) (observationBefore_trans collates) isBest
    obtain rfl := Except.ok.inj ok
    refine ⟨rfl, ?_, ?_, ?_, ?_, ?_⟩
    · apply List.filterMap_length_eq_length.mpr
      exact fun snapshot member => isSome_of_complete (allComplete snapshot member) isMetric
    · rw [values_observations]
      exact valuesPerm
    · rw [values_observations]
      exact median_perm valuesPerm
    · obtain ⟨item, isItem, isObservation⟩ := List.mem_filterMap.mp inObservations
      obtain ⟨snapshot, inSorted, rfl⟩ := List.mem_map.mp isItem
      obtain ⟨value, isValue, isThere⟩ := Option.bind_eq_some_iff.mp isObservation
      obtain ⟨number, isNumber, rfl⟩ := Option.map_eq_some_iff.mp isThere
      exact ⟨snapshot, same.mem_iff.mp inSorted, rfl,
        Option.bind_eq_some_iff.mpr ⟨value, isValue, isNumber⟩⟩
    · intro value isValue
      rw [← valuesPerm.mem_iff, ← values_observations] at isValue
      obtain ⟨other, isOther, rfl⟩ := List.mem_map.mp isValue
      exact le_of_observationBefore (before other isOther)

/-! ### Exactness -/

/-- The cohort is the complete snapshots of one identity, sorted. -/
theorem cohort_completeOf (collates : Collates host) {snapshot : OptimizationSnapshotInput}
    (member : snapshot ∈ cohort host input) :
    (cohort host input).Perm (completeOf input (identityOf snapshot)) ∧
      ∀ other, (completeOf input other).length ≤ (cohort host input).length := by
  have isFirst : chosenGroup host input = firstGroup host (candidates input) := rfl
  unfold cohort at *
  have sorted := List.perm_insertionSort
    (fun left right => host.localeLe left.snapshotId.text right.snapshotId.text = true)
    ((chosenGroup host input).filter isComplete)
  have inGroup := (List.mem_filter.mp (sorted.mem_iff.mp member)).1
  rw [isFirst] at inGroup sorted ⊢
  have nonempty : candidates input ≠ [] := by
    intro isEmpty
    rw [isEmpty] at inGroup
    cases inGroup
  obtain ⟨first, -, isGroup, before⟩ := firstGroup_spec collates nonempty
  -- Among the candidates, one key is one identity.
  have ofKey : ∀ item, (groupOf (candidates input) item).filter isComplete =
      completeOf input (identityOf item) := by
    intro item
    unfold groupOf completeOf
    rw [List.filter_filter]
    apply List.filter_congr
    intro other _
    rw [Bool.eq_iff_iff, Bool.and_eq_true, Bool.and_eq_true, decide_eq_true_eq, decide_eq_true_eq]
    exact and_congr_right fun _ => ⟨identity_of_key, key_of_identity⟩
  rw [isGroup] at inGroup sorted ⊢
  have same := identity_of_key (mem_groupOf.mp inGroup).2
  constructor
  · rw [same, ← ofKey]
    exact sorted
  · intro other
    rw [sorted.length_eq]
    by_cases isEmpty : completeOf input other = []
    · rw [isEmpty]
      exact Nat.zero_le _
    · obtain ⟨item, isItem⟩ := List.exists_mem_of_ne_nil _ isEmpty
      obtain ⟨isCandidate, isOther⟩ := List.mem_filter.mp isItem
      rw [Bool.and_eq_true, decide_eq_true_eq] at isOther
      rw [← isOther.2, ← ofKey]
      have ordered := groupBefore_iff.mp (before item isCandidate)
      show completeCount _ ≤ completeCount _
      omega

theorem exact_of_ready (collates : Collates host)
    (analyzed : analyzeOptimizationSnapshots host input = .ok analysis)
    (isReady : analysis.readiness.status = .ready) : ∃ identity, ExactFor input analysis identity := by
  obtain ⟨enough, isEvidence, isComparisons, first, inEvidence, identified⟩ :=
    ready_of_analysis analyzed isReady
  obtain ⟨evidence, each⟩ := asEvidence_of_mapM isEvidence
  rw [evidence] at inEvidence isComparisons
  obtain ⟨snapshot, inCohort, rfl⟩ := List.mem_map.mp inEvidence
  obtain ⟨same, most⟩ := cohort_completeOf collates inCohort
  refine ⟨identityOf snapshot, identified, ?_, ?_, ?_, ?_⟩
  · refine ⟨(completeOf input (identityOf snapshot)).map evidenceOf, ?_, ?_⟩
    · exact Steps.mapM_of_forall fun item member => each item (same.mem_iff.mpr member)
    · rw [evidence]
      exact same.map evidenceOf
  · rw [← same.length_eq]
    exact enough
  · intro other
    rw [← same.length_eq]
    exact most other
  · have compared := (List.forall₂_and_left _ _).mpr
      ⟨fun metric (isMetric : metric ∈ requiredMetrics) => isMetric, Steps.mapM_eq_ok.mp isComparisons⟩
    apply compared.imp
    rintro metric comparison ⟨isMetric, ok⟩
    apply compares_of_comparisonFor collates same _ isMetric ok
    intro item inCompleteOf
    have isComplete := (List.mem_filter.mp inCompleteOf).2
    exact (Bool.and_eq_true_iff.mp isComplete).1

end Exact

private def sampleHost : Host where
  sha256 _ := "0000000000000000000000000000000000000000000000000000000000000000"
  isDate _ := true
  localeLe left right := left.toList ≤ right.toList
  evidenceText _ := ""
  requestText _ := ""

private def sampleId (digit : Fin 9) : Uuid where
  text := "0b7e0c1a-0000-4000-8000-00000000000" ++ toString digit.val
  isUuid := by
    revert digit
    decide +kernel
  isLower := by
    revert digit
    decide +kernel

private def sampleSnapshot (digit cycle : Fin 9) (views : ℚ) : OptimizationSnapshotInput where
  snapshotId := sampleId digit
  businessId := sampleId 0
  publishingResultId := sampleId digit
  candidateId := sampleId digit
  candidateChecksum := ""
  strategyId := sampleId 0
  strategyVersion := 1
  contentCycleId := sampleId cycle
  contentFormat := .textPost
  provider := "facebook"
  window := "7d"
  publishedAt := "2026-07-01T10:00:00.000Z"
  observedAt := some "2026-07-08T10:00:00.000Z"
  metrics := ⟨.available views, .available 0⟩
  caption := "Hello"
  cta := none

/-- Three posts of one content cycle, and one of another. -/
private def sampleInput : AnalysisInput where
  businessId := sampleId 0
  snapshots := [sampleSnapshot 1 5 10, sampleSnapshot 4 6 50, sampleSnapshot 2 5 20,
    sampleSnapshot 3 5 30]
  requestedFormat := none

private theorem sample_collates : Collates sampleHost where
  total left right := by
    unfold sampleHost
    simpa using le_total left.toList right.toList
  trans := by
    unfold sampleHost
    intro left middle right below above
    simp only [decide_eq_true_eq] at *
    exact le_trans below above
  antisymm := by
    unfold sampleHost
    intro left right _ _ below above
    simp only [decide_eq_true_eq] at *
    exact String.toList_inj.mp (le_antisymm below above)

end MarketMind.Performance
