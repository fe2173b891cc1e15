import MarketMind.Strategy.Programs

/-!
Owns what an approval binds: when approved strategies have one approval, of their current and
newest version, and stay as they are.

Does not own the checks of a plan before it is approved.
-/

namespace MarketMind.Strategy.Approval

open MarketMind.Transactions
open MarketMind.Transactions.Protocol

/-- Whether the decision is an approval of a version of the strategy. -/
def approves (world : World) (id : Uuid) (decision : StrategyDecision) : Bool :=
  decision.action = .approve &&
    (world.versions.find decision.strategyVersionId).any (·.strategyId = id)

theorem approves_congr {left right : World} {id : Uuid} {decision : StrategyDecision}
    (same : left.versions.find decision.strategyVersionId =
      right.versions.find decision.strategyVersionId) :
    approves left id decision = approves right id decision := by
  unfold approves
  rw [same]

/-- The approvals of the versions that a strategy has. -/
def approvalsOf (world : World) (id : Uuid) : List StrategyDecision :=
  world.decisions.filter (approves world id)

/-! ### The condition -/

/-- The version that the request names. -/
def named : Call → Option Uuid
  | .handleDecision _ _ dto _ => some dto.versionId
  | _ => none

/-- An owner's decision is recorded for the version that is current, and decides a draft of
that version; a status written by identity does not go over `approved`, and neither does a
deletion; a version that is stored becomes the draft of its strategy. -/
def admits (_ : Pid) (call : Call) (asked : Statement) (world : World) : Prop :=
  match asked with
  | .createDecision versionId _ action _ =>
      action = .approve ∨ action = .revisionRequested →
        world.currentBeside versionId = some versionId
  | .decideDraft id _ => ∀ row, world.strategies.find id = some row → row.status = .draft →
      row.currentVersionId = named call
  | .updateStatus id _ | .deleteStrategy id =>
      ∀ row, world.strategies.find id = some row → row.status ≠ .approved
  | .makeDraft id _ => ∃ row, world.strategies.find id = some row ∧ row.status = .validating
  | _ => True

def discipline : Discipline strategy World Call where
  issues _ := True
  admits := admits
  isolation := .readCommitted

/-! ### The invariant -/

/-- The version is the newest of its strategy. -/
def Newest (world : World) (id : Uuid) (version : StrategyVersion) : Prop :=
  version.strategyId = id ∧
    ∀ other ∈ world.versions.rows, other.strategyId = id → other.version ≤ version.version

structure Sound (world : World) : Prop where
  retired : ∀ id ∈ world.retiredStrategies, world.strategies.find id = none
  retiredVersions : ∀ id ∈ world.retiredVersions, world.versions.find id = none
  parents : ∀ version ∈ world.versions.rows,
    (world.strategies.find version.strategyId).isSome = true ∨
      version.strategyId ∈ world.retiredStrategies
  gapless : ∀ version ∈ world.versions.rows, version.strategyId ∉ world.retiredStrategies →
    ∀ number, 1 ≤ number → number ≤ version.version →
      ∃ earlier ∈ world.versions.rows,
        earlier.strategyId = version.strategyId ∧ earlier.version = number
  current : ∀ id row versionId, world.strategies.find id = some row →
    row.currentVersionId = some versionId →
      ∃ version, world.versions.find versionId = some version ∧ Newest world id version
  approved : ∀ id row, world.strategies.find id = some row → row.status = .approved →
    ∃ decision, approvalsOf world id = [decision] ∧
      row.currentVersionId = some decision.strategyVersionId
  unapproved : ∀ id row, world.strategies.find id = some row → row.status ≠ .approved →
    approvalsOf world id = []
  references : ∀ decision ∈ world.decisions,
    (world.versions.find decision.strategyVersionId).isSome = true ∨
      decision.strategyVersionId ∈ world.retiredVersions
  decisions : ∀ decision ∈ world.decisions,
    decision.action = .approve ∨ decision.action = .revisionRequested →
      decision.currentThen = some decision.strategyVersionId

/-- Approved strategies stay as they are, and a version goes only with its strategy. -/
structure Keeps (before after : World) : Prop where
  retired : ∀ id ∈ before.retiredStrategies, id ∈ after.retiredStrategies
  retiredVersions : ∀ id ∈ before.retiredVersions, id ∈ after.retiredVersions
  versions : ∀ version ∈ before.versions.rows, after.versions.find version.id = some version ∨
    (version.strategyId ∈ after.retiredStrategies ∧ version.id ∈ after.retiredVersions)
  approved : ∀ id row, before.strategies.find id = some row → row.status = .approved →
    after.strategies.find id = some row ∧ after.versionsOf id = before.versionsOf id ∧
      approvalsOf after id = approvalsOf before id

theorem find_version {world : World} {version : StrategyVersion}
    (member : version ∈ world.versions.rows) : world.versions.find version.id = some version :=
  Table.find_of_mem member

theorem keeps_refl (world : World) : Keeps world world :=
  ⟨fun _ => id, fun _ => id, fun _ member => .inl (find_version member),
    fun _ _ found _ => ⟨found, rfl, rfl⟩⟩

theorem keeps_trans {first second third : World} (left : Keeps first second)
    (right : Keeps second third) : Keeps first third where
  retired := fun id member => right.retired id (left.retired id member)
  retiredVersions := fun id member => right.retiredVersions id (left.retiredVersions id member)
  versions := by
    intro version member
    rcases left.versions version member with found | ⟨retired, gone⟩
    · exact right.versions version (Table.mem_of_find found)
    · exact .inr ⟨right.retired _ retired, right.retiredVersions _ gone⟩
  approved := by
    intro id row found isApproved
    obtain ⟨foundThen, versionsThen, approvalsThen⟩ := left.approved id row found isApproved
    obtain ⟨foundNow, versionsNow, approvalsNow⟩ := right.approved id row foundThen isApproved
    exact ⟨foundNow, versionsNow.trans versionsThen, approvalsNow.trans approvalsThen⟩

/-- A version that is gone does not come back. -/
theorem Sound.gone {world : World} (sound : Sound world) {before : World} {versionId : Uuid}
    (present : (before.versions.find versionId).isSome = true)
    {between : World} (keeps : Keeps before between)
    (absent : between.versions.find versionId = none) (keepsOn : Keeps between world) :
    world.versions.find versionId = none := by
  obtain ⟨version, found⟩ := Option.isSome_iff_exists.mp present
  have same : version.id = versionId := Table.key_of_find found
  rcases keeps.versions version (Table.mem_of_find found) with stays | ⟨-, gone⟩
  · rw [same, absent] at stays
    cases stays
  · rw [same] at gone
    exact sound.retiredVersions versionId (keepsOn.retiredVersions versionId gone)

/-! ### Changes -/

/-- What is counted and compared stays when versions and decisions stay. -/
theorem sound_aside {before after : World} (sound : Sound before)
    (strategies : after.strategies = before.strategies)
    (versions : after.versions = before.versions) (decisions : after.decisions = before.decisions)
    (retired : after.retiredStrategies = before.retiredStrategies)
    (retiredVersions : after.retiredVersions = before.retiredVersions) :
    Sound after ∧ Keeps before after := by
  have approvals : ∀ id, approvalsOf after id = approvalsOf before id := by
    intro id
    unfold approvalsOf
    rw [decisions]
    unfold approves
    rw [versions]
  have newest : ∀ id version, Newest after id version ↔ Newest before id version := by
    intro id version
    unfold Newest
    rw [versions]
  constructor
  · constructor
    · rw [retired, strategies]
      exact sound.retired
    · rw [retiredVersions, versions]
      exact sound.retiredVersions
    · rw [versions, strategies, retired]
      exact sound.parents
    · rw [versions, retired]
      exact sound.gapless
    · simp only [strategies, versions, newest]
      exact sound.current
    · simp only [strategies, approvals]
      exact sound.approved
    · simp only [strategies, approvals]
      exact sound.unapproved
    · rw [decisions, versions, retiredVersions]
      exact sound.references
    · rw [decisions]
      exact sound.decisions
  · constructor
    · rw [retired]
      exact fun _ => id
    · rw [retiredVersions]
      exact fun _ => id
    · intro version member
      rw [versions]
      exact .inl (find_version member)
    · intro id row found _
      rw [strategies, approvals]
      refine ⟨found, ?_, rfl⟩
      unfold World.versionsOf
      rw [versions]

/-- A row that is not approved gets a status that is not `approved`. -/
theorem sound_move {world : World} {id : Uuid} {next : StrategyStatus} {row : StrategyRow}
    (sound : Sound world) (found : world.strategies.find id = some row)
    (open' : row.status ≠ .approved) (stays : next ≠ .approved) :
    Sound (world.move id next) ∧ Keeps world (world.move id next) := by
  have find : ∀ other after, (world.move id next).strategies.find other = some after →
      ∃ before, world.strategies.find other = some before ∧
        after.currentVersionId = before.currentVersionId ∧
        (after.status = .approved ↔ before.status = .approved) := by
    intro other after isAfter
    rw [find_move] at isAfter
    split at isAfter
    · next same =>
      subst same
      rw [found] at isAfter
      cases isAfter
      exact ⟨row, found, rfl, iff_of_false stays open'⟩
    · exact ⟨after, isAfter, rfl, Iff.rfl⟩
  constructor
  · constructor
    · intro other gone
      rw [find_move, sound.retired other gone]
      split <;> rfl
    · exact sound.retiredVersions
    · intro version member
      refine (sound.parents version member).imp_left fun present => ?_
      rw [find_move]
      split
      · simpa using present
      · exact present
    · exact sound.gapless
    · intro other after versionId isAfter isCurrent
      obtain ⟨before, isBefore, sameCurrent, -⟩ := find other after isAfter
      exact sound.current other before versionId isBefore (sameCurrent ▸ isCurrent)
    · intro other after isAfter isApproved
      obtain ⟨before, isBefore, sameCurrent, iff⟩ := find other after isAfter
      rw [sameCurrent]
      exact sound.approved other before isBefore (iff.mp isApproved)
    · intro other after isAfter notApproved
      obtain ⟨before, isBefore, -, iff⟩ := find other after isAfter
      exact sound.unapproved other before isBefore fun was => notApproved (iff.mpr was)
    · exact sound.references
    · exact sound.decisions
  · refine ⟨fun _ gone => gone, fun _ gone => gone, fun _ member => .inl (find_version member), ?_⟩
    intro other before isBefore isApproved
    refine ⟨?_, rfl, rfl⟩
    rw [find_move, if_neg]
    · exact isBefore
    · rintro rfl
      rw [found] at isBefore
      cases isBefore
      exact open' isApproved

theorem approvalsOf_addDecision {world : World} {row : StrategyDecision} {id : Uuid} :
    approvalsOf (world.addDecision row) id =
      approvalsOf world id ++ if approves world id row then [row] else [] := by
  show (world.decisions ++ [row]).filter (approves world id) = _
  rw [List.filter_append, List.filter_singleton]
  cases approves world id row <;> rfl

theorem references_addDecision {world : World} {row : StrategyDecision} (sound : Sound world)
    (refers : (world.versions.find row.strategyVersionId).isSome = true ∨
      row.strategyVersionId ∈ world.retiredVersions) :
    ∀ decision ∈ (world.addDecision row).decisions,
      (world.versions.find decision.strategyVersionId).isSome = true ∨
        decision.strategyVersionId ∈ world.retiredVersions := by
  intro decision member
  rcases List.mem_append.mp member with old | new
  · exact sound.references decision old
  · rw [List.mem_singleton.mp new]
    exact refers

/-- A decision that approves nothing that is there. -/
theorem sound_note {world : World} {row : StrategyDecision} (sound : Sound world)
    (notes : ∀ id, approves world id row = false)
    (refers : (world.versions.find row.strategyVersionId).isSome = true ∨
      row.strategyVersionId ∈ world.retiredVersions)
    (named : row.action = .approve ∨ row.action = .revisionRequested →
      row.currentThen = some row.strategyVersionId) :
    Sound (world.addDecision row) ∧ Keeps world (world.addDecision row) := by
  have approvals : ∀ id, approvalsOf (world.addDecision row) id = approvalsOf world id := by
    intro id
    rw [approvalsOf_addDecision, notes id]
    exact List.append_nil _
  constructor
  · refine ⟨sound.retired, sound.retiredVersions, sound.parents, sound.gapless, sound.current,
      ?_, ?_, ?_, ?_⟩
    · simp only [approvals]
      exact sound.approved
    · simp only [approvals]
      exact sound.unapproved
    · exact references_addDecision sound refers
    · intro decision member
      rcases List.mem_append.mp member with old | new
      · exact sound.decisions decision old
      · rw [List.mem_singleton.mp new]
        exact named
  · exact ⟨fun _ gone => gone, fun _ gone => gone, fun _ member => .inl (find_version member),
      fun id row found _ => ⟨found, rfl, approvals id⟩⟩

/-- An approval is recorded for the current version of a draft, which becomes approved. -/
theorem sound_approve {world : World} {id : Uuid} {row : StrategyRow}
    {decision : StrategyDecision} (sound : Sound world)
    (found : world.strategies.find id = some row) (isDraft : row.status = .draft)
    (current : row.currentVersionId = some decision.strategyVersionId)
    (isApproval : decision.action = .approve)
    (named : decision.currentThen = some decision.strategyVersionId) :
    Sound ((world.addDecision decision).move id .approved) ∧
      Keeps world ((world.addDecision decision).move id .approved) := by
  obtain ⟨version, foundVersion, newest⟩ := sound.current id row _ found current
  have approvesOnly : ∀ other, approves world other decision = true ↔ other = id := by
    intro other
    simp [approves, isApproval, foundVersion, newest.1, eq_comm]
  have notApproved : row.status ≠ .approved := by
    rw [isDraft]
    exact nofun
  have approvals : ∀ other, approvalsOf ((world.addDecision decision).move id .approved) other =
      if other = id then [decision] else approvalsOf world other := by
    intro other
    show approvalsOf (world.addDecision decision) other = _
    rw [approvalsOf_addDecision]
    by_cases same : other = id
    · subst same
      rw [if_pos ((approvesOnly other).mpr rfl), if_pos rfl,
        sound.unapproved other row found notApproved]
      rfl
    · rw [if_neg (fun holds => same ((approvesOnly other).mp holds)), if_neg same]
      exact List.append_nil _
  have find : ∀ other after,
      ((world.addDecision decision).move id .approved).strategies.find other = some after →
      if other = id then after = { row with status := .approved }
      else world.strategies.find other = some after := by
    intro other after isAfter
    rw [find_move] at isAfter
    split at isAfter
    · next same =>
      subst same
      have found : (world.addDecision decision).strategies.find other = some row := found
      rw [found] at isAfter
      rw [if_pos rfl]
      exact (Option.some.inj isAfter).symm
    · next apart =>
      rw [if_neg apart]
      exact isAfter
  constructor
  · constructor
    · intro other gone
      have absent : (world.addDecision decision).strategies.find other = none :=
        sound.retired other gone
      rw [find_move, absent]
      split <;> rfl
    · exact sound.retiredVersions
    · intro version member
      refine (sound.parents version member).imp_left fun present => ?_
      have present : ((world.addDecision decision).strategies.find version.strategyId).isSome =
          true := present
      rw [find_move]
      split
      · simpa using present
      · exact present
    · exact sound.gapless
    · intro other after versionId isAfter isCurrent
      have isBefore := find other after isAfter
      split at isBefore
      · next same =>
        subst same isBefore
        exact sound.current other row versionId found isCurrent
      · exact sound.current other after versionId isBefore isCurrent
    · intro other after isAfter isApproved
      have isBefore := find other after isAfter
      rw [approvals]
      split at isBefore
      · next same =>
        subst same isBefore
        rw [if_pos rfl]
        exact ⟨decision, rfl, current⟩
      · next apart =>
        rw [if_neg apart]
        exact sound.approved other after isBefore isApproved
    · intro other after isAfter isOpen
      have isBefore := find other after isAfter
      rw [approvals]
      split at isBefore
      · subst isBefore
        exact absurd rfl isOpen
      · next apart =>
        rw [if_neg apart]
        exact sound.unapproved other after isBefore isOpen
    · exact references_addDecision sound (.inl (by simp [foundVersion]))
    · intro other member
      rcases List.mem_append.mp member with old | new
      · exact sound.decisions other old
      · rw [List.mem_singleton.mp new]
        exact fun _ => named
  · refine ⟨fun _ gone => gone, fun _ gone => gone, fun _ member => .inl (find_version member), ?_⟩
    intro other before isBefore isApproved
    have apart : other ≠ id := by
      rintro rfl
      rw [found] at isBefore
      cases isBefore
      exact notApproved isApproved
    refine ⟨?_, rfl, ?_⟩
    · rw [find_move, if_neg apart]
      exact isBefore
    · rw [approvals, if_neg apart]

/-! ### New versions -/

/-- A strategy that is there has every version below the number that is next for it. -/
theorem earlier_of_read {read world : World} {id : Uuid} (sound : Sound read)
    (keeps : Keeps read world) (present : id ∉ world.retiredStrategies) {number : Nat}
    (positive : 1 ≤ number)
    (below : number < ((read.latestVersion id).map (·.version + 1)).getD 1) :
    ∃ earlier ∈ world.versions.rows, earlier.strategyId = id ∧ earlier.version = number := by
  cases latest : read.latestVersion id with
  | none =>
      rw [latest] at below
      exact absurd (Nat.lt_of_le_of_lt positive below) (Nat.lt_irrefl 1)
  | some version =>
      rw [latest] at below
      have listed : version ∈ read.versionsOf id := List.argmax_mem latest
      obtain ⟨member, belongs⟩ := List.mem_filter.mp listed
      have belongs : version.strategyId = id := by simpa using belongs
      have wasPresent : version.strategyId ∉ read.retiredStrategies := by
        rw [belongs]
        exact fun gone => present (keeps.retired id gone)
      obtain ⟨earlier, isEarlier, same, numbered⟩ :=
        sound.gapless version member wasPresent number positive (Nat.le_of_lt_succ below)
      rcases keeps.versions earlier isEarlier with stays | ⟨gone, -⟩
      · exact ⟨earlier, Table.mem_of_find stays, same.trans belongs, numbered⟩
      · rw [same, belongs] at gone
        exact absurd gone present

/-- The next version becomes the draft of its strategy. -/
theorem sound_append {pid : Pid} {world : World} {id : Uuid} {row : StrategyRow} {created : StrategyVersion}
    (sound : Sound world) (found : world.strategies.find id = some row)
    (notApproved : row.status ≠ .approved) (belongs : created.strategyId = id)
    (fresh : world.versions.find created.id = none)
    (unretired : created.id ∉ world.retiredVersions)
    (free : (world.versionsOf id).filter (·.version = created.version) = [])
    (positive : 1 ≤ created.version)
    (earlier : ∀ number, 1 ≤ number → number < created.version →
      ∃ version ∈ world.versions.rows, version.strategyId = id ∧ version.version = number) :
    Sound ((world.addVersion pid created).publishDraft id created.id) ∧
      Keeps world ((world.addVersion pid created).publishDraft id created.id) := by
  have present : id ∉ world.retiredStrategies := by
    intro gone
    rw [sound.retired id gone] at found
    cases found
  have findOld : ∀ {versionId version}, world.versions.find versionId = some version →
      (world.addVersion pid created).versions.find versionId = some version := by
    intro versionId version isOld
    exact Table.find_insert_of_found isOld
  have members : ∀ version ∈ (world.addVersion pid created).versions.rows,
      version ∈ world.versions.rows ∨ version = created :=
    fun version member => Table.mem_insert member
  have oldMembers : ∀ version ∈ world.versions.rows,
      version ∈ (world.addVersion pid created).versions.rows :=
    fun version member => Table.mem_of_find (findOld (find_version member))
  have findCreated : (world.addVersion pid created).versions.find created.id = some created :=
    Table.find_insert_self fresh
  have approvals : ∀ other, approvalsOf ((world.addVersion pid created).publishDraft id created.id) other =
      approvalsOf world other := by
    intro other
    refine List.filter_congr fun decision member => ?_
    have apart : decision.strategyVersionId ≠ created.id := by
      intro same
      rcases sound.references decision member with known | gone
      · rw [same, fresh] at known
        cases known
      · exact unretired (same ▸ gone)
    exact approves_congr (Table.find_insert_of_ne apart)
  -- A version above the new one would have one of the same number below it.
  have newest : ∀ other ∈ world.versions.rows, other.strategyId = id →
      other.version ≤ created.version := by
    intro other member same
    by_contra above
    have stays : other.strategyId ∉ world.retiredStrategies := same ▸ present
    obtain ⟨double, isDouble, sameId, sameNumber⟩ :=
      sound.gapless other member stays created.version positive (Nat.le_of_not_le above)
    have listed : double ∈ (world.versionsOf id).filter (·.version = created.version) :=
      List.mem_filter.mpr ⟨List.mem_filter.mpr ⟨isDouble, by simp [sameId, same]⟩, by simp [sameNumber]⟩
    rw [free] at listed
    cases listed
  have find : ∀ other after,
      ((world.addVersion pid created).publishDraft id created.id).strategies.find other = some after →
      if other = id then after = { row with status := .draft, currentVersionId := some created.id }
      else world.strategies.find other = some after := by
    intro other after isAfter
    rw [find_publishDraft] at isAfter
    split at isAfter
    · next same =>
      subst same
      have found : (world.addVersion pid created).strategies.find other = some row := found
      rw [found] at isAfter
      rw [if_pos rfl]
      exact (Option.some.inj isAfter).symm
    · next apart =>
      rw [if_neg apart]
      exact isAfter
  have findAgain : ∀ other, (world.strategies.find other).isSome = true →
      (((world.addVersion pid created).publishDraft id created.id).strategies.find other).isSome =
        true := by
    intro other known
    have known : ((world.addVersion pid created).strategies.find other).isSome = true := known
    rw [find_publishDraft]
    split
    · simpa using known
    · exact known
  constructor
  · constructor
    · intro other gone
      have absent : (world.addVersion pid created).strategies.find other = none :=
        sound.retired other gone
      rw [find_publishDraft, absent]
      split <;> rfl
    · intro versionId gone
      have apart : versionId ≠ created.id := by
        rintro rfl
        exact unretired gone
      have absent := sound.retiredVersions versionId gone
      exact (Table.find_insert_of_ne apart).trans absent
    · intro version member
      rcases members version member with old | rfl
      · exact (sound.parents version old).imp_left (findAgain _)
      · refine .inl (findAgain _ ?_)
        rw [belongs, found]
        rfl
    · intro version member stays number least below
      rcases members version member with old | rfl
      · obtain ⟨before, isBefore, same⟩ := sound.gapless version old stays number least below
        exact ⟨before, oldMembers before isBefore, same⟩
      · rcases Nat.lt_or_eq_of_le below with less | same
        · obtain ⟨before, isBefore, sameId, sameNumber⟩ := earlier number least less
          exact ⟨before, oldMembers before isBefore, sameId.trans belongs.symm, sameNumber⟩
        · exact ⟨version, member, rfl, same.symm⟩
    · intro other after versionId isAfter isCurrent
      have isBefore := find other after isAfter
      split at isBefore
      · next same =>
        subst same isBefore
        obtain rfl := Option.some.inj isCurrent
        refine ⟨created, findCreated, belongs, fun version member sameId => ?_⟩
        rcases members version member with old | rfl
        · exact newest version old sameId
        · exact Nat.le_refl _
      · next apart =>
        obtain ⟨version, foundVersion, sameId, isNewest⟩ :=
          sound.current other after versionId isBefore isCurrent
        refine ⟨version, findOld foundVersion, sameId, fun new member sameNew => ?_⟩
        rcases members new member with old | rfl
        · exact isNewest new old sameNew
        · exact absurd (sameNew.symm.trans belongs) apart
    · intro other after isAfter isApproved
      have isBefore := find other after isAfter
      rw [approvals]
      split at isBefore
      · subst isBefore
        cases isApproved
      · exact sound.approved other after isBefore isApproved
    · intro other after isAfter isOpen
      have isBefore := find other after isAfter
      rw [approvals]
      split at isBefore
      · next same =>
        subst same
        exact sound.unapproved other row found notApproved
      · exact sound.unapproved other after isBefore isOpen
    · intro decision member
      refine (sound.references decision member).imp_left fun known => ?_
      obtain ⟨version, foundVersion⟩ := Option.isSome_iff_exists.mp known
      exact Option.isSome_iff_exists.mpr ⟨version, findOld foundVersion⟩
    · exact sound.decisions
  · refine ⟨fun _ gone => gone, fun _ gone => gone,
      fun _ member => .inl (findOld (find_version member)), ?_⟩
    intro other before isBefore isApproved
    have apart : other ≠ id := by
      rintro rfl
      rw [found] at isBefore
      cases isBefore
      exact notApproved isApproved
    refine ⟨?_, ?_, approvals other⟩
    · rw [find_publishDraft, if_neg apart]
      exact isBefore
    · have rows : (world.addVersion pid created).versions.rows = world.versions.rows ++ [created] :=
        Table.rows_insert fresh
      show (world.addVersion pid created).versions.rows.filter _ = world.versions.rows.filter _
      rw [rows, List.filter_append, List.filter_singleton]
      have outside : (created.strategyId = other) = False :=
        eq_false fun same => apart (same.symm.trans belongs)
      simp [outside]

/-! ### Deletion -/

/-- What is listed of a strategy that is still there is what it still has. -/
theorem listed_stays {listed world : World} {id : Uuid} {version : StrategyVersion}
    (keeps : Keeps listed world) (present : id ∉ world.retiredStrategies)
    (isListed : version ∈ listed.versionsOf id) :
    world.versions.find version.id = some version ∧ version.strategyId = id := by
  obtain ⟨member, belongs⟩ := List.mem_filter.mp isListed
  have belongs : version.strategyId = id := by simpa using belongs
  rcases keeps.versions version member with stays | ⟨gone, -⟩
  · exact ⟨stays, belongs⟩
  · rw [belongs] at gone
    exact absurd gone present

/-- A strategy that is not approved goes, with the children that were listed. -/
theorem sound_erase {world listed dropped : World} {id : Uuid} {row : StrategyRow} {seqs : List Nat}
    (sound : Sound world) (keepsListed : Keeps listed world) (keepsDropped : Keeps dropped world)
    (found : world.strategies.find id = some row) (notApproved : row.status ≠ .approved) :
    let after := world.erase id ((listed.versionsOf id).map StrategyVersion.id)
      ((dropped.versionsOf id).map fun row => (row.id, row.strategyId, row.version)) seqs
    Sound after ∧ Keeps world after := by
  intro after
  have present : id ∉ world.retiredStrategies := by
    intro gone
    rw [sound.retired id gone] at found
    cases found
  have findStrategy : ∀ other, after.strategies.find other =
      (world.strategies.find other).filter (·.id ≠ id) := fun other => Table.find_retain
  have findStrategyOf : ∀ other, other ≠ id →
      after.strategies.find other = world.strategies.find other := by
    intro other apart
    rw [findStrategy]
    cases isThere : world.strategies.find other with
    | none => rfl
    | some otherRow =>
        have same : otherRow.id = other := Table.key_of_find isThere
        simp [Option.filter, same, apart]
  have findGone : after.strategies.find id = none := by
    have same : row.id = id := Table.key_of_find found
    rw [findStrategy, found]
    simp [Option.filter, same]
  -- Only versions of the strategy are dropped.
  have dropsOwn : ∀ version ∈ world.versions.rows, version.strategyId ≠ id →
      version ∈ after.versions.rows := by
    intro version member apart
    refine Table.mem_retain.mpr ⟨member, ?_⟩
    rw [decide_eq_true_iff]
    intro gone
    obtain ⟨other, isListed, same⟩ := List.mem_map.mp gone
    obtain ⟨-, belongs⟩ := listed_stays keepsDropped present isListed
    obtain ⟨-, sameIds⟩ := Prod.mk.inj same
    exact apart ((Prod.mk.inj sameIds).1.symm.trans belongs)
  have keptOf : ∀ version ∈ after.versions.rows, version ∈ world.versions.rows :=
    fun version member => (Table.mem_retain.mp member).1
  have retiresDropped : ∀ version ∈ world.versions.rows, version ∉ after.versions.rows →
      version.strategyId = id ∧ version.id ∈ after.retiredVersions := by
    intro version member out
    have gone : (version.id, version.strategyId, version.version) ∈
        (dropped.versionsOf id).map fun row => (row.id, row.strategyId, row.version) := by
      by_contra remains
      exact out (Table.mem_retain.mpr ⟨member, by simpa using remains⟩)
    constructor
    · by_contra apart
      exact out (dropsOwn version member apart)
    · exact List.mem_append_left _ (List.mem_map.mpr ⟨_, gone, rfl⟩)
  have findVersion : ∀ versionId version, world.versions.find versionId = some version →
      version.strategyId ≠ id → after.versions.find versionId = some version := by
    intro versionId version isThere apart
    have same : version.id = versionId := Table.key_of_find isThere
    rw [← same]
    exact find_version (dropsOwn version (Table.mem_of_find isThere) apart)
  have findVersionOf : ∀ versionId version, after.versions.find versionId = some version →
      world.versions.find versionId = some version := by
    intro versionId version isThere
    have same : version.id = versionId := Table.key_of_find isThere
    rw [← same]
    exact find_version (keptOf version (Table.mem_of_find isThere))
  have approvesSame : ∀ other, other ≠ id → ∀ decision,
      approves after other decision = approves world other decision := by
    intro other apart decision
    unfold approves
    congr 1
    rw [Bool.eq_iff_iff, Option.any_eq_true, Option.any_eq_true]
    constructor
    · rintro ⟨version, isThere, belongs⟩
      exact ⟨version, findVersionOf _ version isThere, belongs⟩
    · rintro ⟨version, isThere, belongs⟩
      refine ⟨version, findVersion _ version isThere ?_, belongs⟩
      rw [of_decide_eq_true belongs]
      exact apart
  have approvals : ∀ other, other ≠ id → approvalsOf after other = approvalsOf world other := by
    intro other apart
    show (world.decisions.filter _).filter _ = world.decisions.filter _
    rw [List.filter_filter]
    refine List.filter_congr fun decision member => ?_
    rw [approvesSame other apart decision]
    cases isApproval : approves world other decision with
    | false => rfl
    | true =>
        rw [Bool.true_and, decide_eq_true_iff]
        intro isListed
        obtain ⟨version, isVersion, same⟩ := List.mem_map.mp isListed
        obtain ⟨stays, belongs⟩ := listed_stays keepsListed present isVersion
        have counted := (Bool.and_eq_true _ _).mp isApproval
        rw [← same, stays] at counted
        exact apart ((of_decide_eq_true counted.2).symm.trans belongs)
  constructor
  · constructor
    · intro other gone
      rcases List.mem_cons.mp gone with rfl | old
      · exact findGone
      · rw [findStrategy, sound.retired other old]
        rfl
    · intro versionId gone
      rcases List.mem_append.mp gone with new | old
      · obtain ⟨fields, isDropped, rfl⟩ := List.mem_map.mp new
        obtain ⟨version, isListed, rfl⟩ := List.mem_map.mp isDropped
        obtain ⟨stays, -⟩ := listed_stays keepsDropped present isListed
        have inList : (version.id, version.strategyId, version.version) ∈
            (dropped.versionsOf id).map fun row => (row.id, row.strategyId, row.version) :=
          isDropped
        show (world.versions.retain _).find version.id = none
        rw [Table.find_retain, stays]
        simp [Option.filter, inList]
      · show (world.versions.retain _).find versionId = none
        rw [Table.find_retain, sound.retiredVersions versionId old]
        rfl
    · intro version member
      by_cases same : version.strategyId = id
      · exact .inr (same ▸ List.mem_cons_self)
      · refine (sound.parents version (keptOf version member)).imp (fun known => ?_) ?_
        · rw [findStrategyOf _ same]
          exact known
        · exact List.mem_cons_of_mem _
    · intro version member stays number least below
      have apart : version.strategyId ≠ id := fun same => stays (same ▸ List.mem_cons_self)
      have stayed : version.strategyId ∉ world.retiredStrategies :=
        fun gone => stays (List.mem_cons_of_mem _ gone)
      obtain ⟨earlier, isEarlier, same, numbered⟩ :=
        sound.gapless version (keptOf version member) stayed number least below
      exact ⟨earlier, dropsOwn earlier isEarlier (same ▸ apart), same, numbered⟩
    · intro other after' versionId isAfter isCurrent
      have apart : other ≠ id := by
        rintro rfl
        rw [findGone] at isAfter
        cases isAfter
      rw [findStrategyOf other apart] at isAfter
      obtain ⟨version, isThere, belongs, newest⟩ := sound.current other after' versionId isAfter isCurrent
      exact ⟨version, findVersion versionId version isThere (belongs ▸ apart), belongs,
        fun new member => newest new (keptOf new member)⟩
    · intro other after' isAfter isApproved
      have apart : other ≠ id := by
        rintro rfl
        rw [findGone] at isAfter
        cases isAfter
      rw [findStrategyOf other apart] at isAfter
      rw [approvals other apart]
      exact sound.approved other after' isAfter isApproved
    · intro other after' isAfter isOpen
      have apart : other ≠ id := by
        rintro rfl
        rw [findGone] at isAfter
        cases isAfter
      rw [findStrategyOf other apart] at isAfter
      rw [approvals other apart]
      exact sound.unapproved other after' isAfter isOpen
    · intro decision member
      rcases sound.references decision (List.mem_filter.mp member).1 with known | gone
      · obtain ⟨version, isThere⟩ := Option.isSome_iff_exists.mp known
        have same : version.id = decision.strategyVersionId := Table.key_of_find isThere
        by_cases kept : version ∈ after.versions.rows
        · left
          rw [← same, find_version kept]
          rfl
        · right
          rw [← same]
          exact (retiresDropped version (Table.mem_of_find isThere) kept).2
      · exact .inr (List.mem_append_right _ gone)
    · exact fun decision member => sound.decisions decision (List.mem_filter.mp member).1
  · refine ⟨fun _ gone => List.mem_cons_of_mem _ gone, fun _ gone => List.mem_append_right _ gone,
      ?_, ?_⟩
    · intro version member
      by_cases kept : version ∈ after.versions.rows
      · exact .inl (find_version kept)
      · obtain ⟨same, gone⟩ := retiresDropped version member kept
        exact .inr ⟨same ▸ List.mem_cons_self, gone⟩
    · intro other before isBefore isApproved
      have apart : other ≠ id := by
        rintro rfl
        rw [found] at isBefore
        cases isBefore
        exact notApproved isApproved
      refine ⟨(findStrategyOf other apart).trans isBefore, ?_, approvals other apart⟩
      show (world.versions.rows.filter _).filter _ = world.versions.rows.filter _
      rw [List.filter_filter]
      refine List.filter_congr fun version member => ?_
      cases belongs : Decidable.decide (version.strategyId = other) with
      | false => rfl
      | true =>
          rw [Bool.true_and]
          have same := of_decide_eq_true belongs
          exact (Table.mem_retain.mp (dropsOwn version member (same ▸ apart))).2

/-- A new strategy has an identity of its own. -/
theorem sound_create {world : World} {row : StrategyRow} (sound : Sound world)
    (fresh : world.strategies.find row.id = none) (unretired : row.id ∉ world.retiredStrategies)
    (isOpen : row.status ≠ .approved) (undrafted : row.currentVersionId = none) :
    Sound { world with strategies := world.strategies.insert row } ∧
      Keeps world { world with strategies := world.strategies.insert row } := by
  have childless : ∀ version ∈ world.versions.rows, version.strategyId ≠ row.id := by
    intro version member same
    rcases sound.parents version member with known | gone
    · rw [same, fresh] at known
      cases known
    · exact unretired (same ▸ gone)
  have unapproved : approvalsOf world row.id = [] := by
    refine List.filter_eq_nil_iff.mpr fun decision _ counted => ?_
    have counted := (Bool.and_eq_true _ _).mp counted
    obtain ⟨version, isThere, belongs⟩ := (Option.any_eq_true _ _).mp counted.2
    exact childless version (Table.mem_of_find isThere) (of_decide_eq_true belongs)
  have findOld : ∀ {other old}, world.strategies.find other = some old →
      (world.strategies.insert row).find other = some old := fun isOld =>
    Table.find_insert_of_found isOld
  have find : ∀ other after, (world.strategies.insert row).find other = some after →
      world.strategies.find other = some after ∨ (other = row.id ∧ after = row) := by
    intro other after isAfter
    by_cases same : other = row.id
    · subst same
      have isNew : (world.strategies.insert row).find row.id = some row :=
        Table.find_insert_self fresh
      rw [isNew] at isAfter
      exact .inr ⟨rfl, (Option.some.inj isAfter).symm⟩
    · rw [Table.find_insert_of_ne same] at isAfter
      exact .inl isAfter
  constructor
  · constructor
    · intro other gone
      have apart : other ≠ row.id := by
        rintro rfl
        exact unretired gone
      exact (Table.find_insert_of_ne apart).trans (sound.retired other gone)
    · exact sound.retiredVersions
    · intro version member
      refine (sound.parents version member).imp_left fun known => ?_
      obtain ⟨old, isOld⟩ := Option.isSome_iff_exists.mp known
      exact Option.isSome_iff_exists.mpr ⟨old, findOld isOld⟩
    · exact sound.gapless
    · intro other after versionId isAfter isCurrent
      rcases find other after isAfter with old | ⟨rfl, rfl⟩
      · exact sound.current other after versionId old isCurrent
      · rw [undrafted] at isCurrent
        cases isCurrent
    · intro other after isAfter isApproved
      rcases find other after isAfter with old | ⟨rfl, rfl⟩
      · exact sound.approved other after old isApproved
      · exact absurd isApproved isOpen
    · intro other after isAfter notApproved
      rcases find other after isAfter with old | ⟨rfl, rfl⟩
      · exact sound.unapproved other after old notApproved
      · exact unapproved
    · exact sound.references
    · exact sound.decisions
  · exact ⟨fun _ gone => gone, fun _ gone => gone, fun _ member => .inl (find_version member),
      fun other old isOld _ => ⟨findOld isOld, rfl, rfl⟩⟩

/-! ### The operations -/

/-- Approved strategies are kept, whoever moves. -/
def protocol (around : Surroundings) : Protocol (system around) where
  discipline := discipline
  invariant := Sound
  rely _ := Keeps
  rely_refl _ := keeps_refl
  rely_trans _ := keeps_trans

variable {around : Surroundings} {pid : Pid} {call : Call}

/-- A change that is sound is one that the others rely on. -/
theorem guaranteed {before after : World} (kept : Sound after ∧ Keeps before after) :
    (protocol around).invariant after ∧ (protocol around).Guarantees pid before after :=
  ⟨kept.1, fun _ _ => kept.2⟩

theorem maintains_beside {asked : Statement} (beside : asked.beside = true) :
    (protocol around).Maintains pid call (@Program.ask strategy asked) := by
  refine maintains_ask fun choice world effect _ executed sound => ?_
  have same := exec_beside beside executed
  exact guaranteed (sound_aside sound same.strategies same.versions same.decisions
    same.retiredStrategies same.retiredVersions)

theorem maintains_create {businessId ownerUserId : Uuid} :
    (protocol around).Maintains pid call (Db.createStrategy businessId ownerUserId) := by
  refine maintains_ask fun choice world effect _ executed sound => ?_
  cases executed
  refine guaranteed (sound_create sound (Table.find_freshKey _) (freshKey_above _ _ choice) ?_ rfl)
  exact nofun

theorem maintains_putBrief {id : Uuid} {data : BriefData} :
    (protocol around).Maintains pid call (Db.upsertBrief id data) := by
  refine maintains_ask fun choice world effect _ executed sound => ?_
  simp only [system, store, exec] at executed
  obtain ⟨-, executed⟩ := ok_of_unless executed
  cases executed
  exact guaranteed (sound_aside sound rfl rfl rfl rfl rfl)

theorem maintains_retrieve {brief : StrategyBrief} :
    (protocol around).Maintains pid call (Db.retrieve brief) := by
  refine maintains_ask fun choice world effect _ executed sound => ?_
  simp only [system, store, exec] at executed
  split at executed
  · cases executed
    exact guaranteed ⟨sound, keeps_refl world⟩
  · split at executed
    · cases executed
      exact guaranteed ⟨sound, keeps_refl world⟩
    · cases executed
      exact guaranteed (sound_aside sound rfl rfl rfl rfl rfl)

theorem passing_open {next : StrategyStatus} (passing : next ∈ passingStatuses) :
    next ≠ .approved := by
  rintro rfl
  revert passing
  decide

theorem maintains_status {id : Uuid} {next : StrategyStatus} (passing : next ∈ passingStatuses) :
    (protocol around).Maintains pid call (updateStrategyStatus id next) := by
  refine maintains_updateStrategyStatus fun view base row admitted found same sound => ?_
  exact guaranteed (sound_move sound same (admitted row found) (passing_open passing))

theorem maintains_claim {id : Uuid} {idle : List StrategyStatus} {next : StrategyStatus}
    (passing : next ∈ passingStatuses) :
    (protocol around).Maintains pid call (claimForGeneration id idle next) := by
  refine maintains_claimForGeneration fun world row _ found _ allowed sound => ?_
  refine guaranteed (sound_move sound found ?_ (passing_open passing))
  intro isApproved
  rw [isApproved] at allowed
  cases next <;> cases allowed

theorem maintains_retryDecision {versionId ownerUserId : Uuid} :
    (protocol around).Maintains pid call (Db.createDecision versionId ownerUserId .retry none) := by
  refine maintains_ask fun choice world effect _ executed sound => ?_
  obtain ⟨present, rfl⟩ := createDecision_cases executed
  refine guaranteed (sound_note sound (fun _ => rfl) (.inl present) ?_)
  rintro (isApproval | isRevision)
  · cases isApproval
  · cases isRevision

theorem maintains_append {new : NewVersion} :
    (protocol around).Maintains pid call (appendStrategyVersion new) := by
  have appends : (protocol around).Ensures pid call (fun _ => True) (appendStrategyVersion new)
      (returning fun _ _ => True) := by
    refine ensures_appendStrategyVersion ?_ ?_
    · intro start base created row _ appended found validating sound
      obtain ⟨read, soundRead, keeps, numbered⟩ := appended.numbered
      have belongs : created.strategyId = new.strategyId := by rw [appended.row]; rfl
      have notApproved : row.status ≠ .approved := by
        rw [validating]
        exact nofun
      have present : new.strategyId ∉ base.retiredStrategies := by
        intro gone
        rw [sound.retired _ gone] at found
        cases found
      have positive : 1 ≤ created.version := by
        rw [numbered]
        cases read.latestVersion new.strategyId with
        | none => exact Nat.le_refl 1
        | some latest => exact Nat.le_add_left 1 latest.version
      have earlier : ∀ number, 1 ≤ number → number < created.version →
          ∃ version ∈ base.versions.rows, version.strategyId = new.strategyId ∧
            version.version = number := by
        intro number least below
        rw [numbered] at below
        exact earlier_of_read soundRead keeps present least below
      have kept := @sound_append pid base new.strategyId row created sound found notApproved belongs
        appended.fresh.1 appended.fresh.2 appended.free positive earlier
      exact ⟨kept.1, fun _ _ => kept.2, fun _ _ => trivial⟩
    · intro start base created view _ _ drafting moved _
      exact absurd drafting moved
  exact appends.maintains

theorem maintains_delete {id : Uuid} :
    (protocol around).Maintains pid call (deleteStrategy id) := by
  refine maintains_deleteStrategy ?_
  intro listed dropped view base row seqs _ keepsListed _ keepsDropped admitted found same sound
  exact guaranteed (sound_erase sound keepsListed keepsDropped same (admitted row found))

/-- What a decision refers to, and that it names the version that was current. -/
theorem decided_row {ownerUserId : Uuid} {dto : OwnerDecisionDto} {base : World}
    {row : StrategyDecision} (decided : Decided (protocol around) pid call ownerUserId dto base row) :
    row.strategyVersionId = dto.versionId ∧ row.action = dto.action.decision ∧
      ((base.versions.find row.strategyVersionId).isSome = true ∨
        row.strategyVersionId ∈ base.retiredVersions) ∧
      (row.action = .approve ∨ row.action = .revisionRequested →
        row.currentThen = some row.strategyVersionId) := by
  obtain ⟨view, admitted, present, keeps, rfl⟩ := decided.recorded
  refine ⟨rfl, rfl, ?_, admitted⟩
  obtain ⟨version, isThere⟩ := Option.isSome_iff_exists.mp present
  have same : version.id = dto.versionId := Table.key_of_find isThere
  rcases keeps.versions version (Table.mem_of_find isThere) with stays | ⟨-, gone⟩
  · left
    rw [← same, stays]
    rfl
  · right
    rw [← same]
    exact gone

theorem maintains_decision {id ownerUserId : Uuid} {dto : OwnerDecisionDto} {now : Instant}
    (isDecision : call = .handleDecision id ownerUserId dto now) :
    (protocol around).Maintains pid call (recordOwnerDecision ownerUserId dto) := by
  refine maintains_recordOwnerDecision ?_ ?_
  · intro base row decided reason sound
    obtain ⟨sameVersion, sameAction, refers, named⟩ := decided_row decided
    refine guaranteed (sound_note sound (fun other => ?_) refers named)
    unfold approves
    rcases reason with isRevision | ⟨view, read, present, keeps, absent, -, keepsOn⟩
    · rw [sameAction, isRevision]
      rfl
    · rw [sameVersion, sound.gone present keeps absent keepsOn]
      exact Bool.and_false _
  · rintro base row view version strategyRow next decided rfl admitted found same isDraft sound
    obtain ⟨sameVersion, sameAction, refers, named⟩ := decided_row decided
    have current : strategyRow.currentVersionId = some dto.versionId := by
      rw [admitted strategyRow found isDraft, isDecision]
      rfl
    cases action : dto.action with
    | approve =>
        rw [action] at sameAction
        refine guaranteed (sound_approve sound same isDraft ?_ sameAction (named (.inl sameAction)))
        rw [sameVersion]
        exact current
    | reject | revisionRequested =>
        have notes : ∀ other, approves base other row = false := by
          intro other
          unfold approves
          rw [sameAction, action]
          rfl
        obtain ⟨noted, keeps⟩ := sound_note sound notes refers named
        have notApproved : strategyRow.status ≠ .approved := by
          rw [isDraft]
          exact nofun
        have rejects : StrategyStatus.rejected ≠ .approved := nofun
        obtain ⟨moved, keepsMore⟩ := sound_move noted same notApproved rejects
        exact guaranteed ⟨moved, keeps_trans keeps keepsMore⟩

theorem maintains_spend {userId : Uuid} {metric : Billing.BillingMetric} {units : Int}
    {claimKey : String} :
    (protocol around).Maintains pid call (Db.spendPoints userId metric units claimKey) := by
  refine maintains_ask fun choice world effect _ executed sound => ?_
  cases executed
  exact guaranteed (sound_aside sound rfl rfl rfl rfl rfl)

theorem maintains_progress {id : Uuid} {stage messageKey : String} {status : ProgressStatus}
    {retryable : Option Bool} :
    (protocol around).Maintains pid call (recordProgress id stage status messageKey retryable) :=
  maintains_recordProgress fun _ _ sound => guaranteed (sound_aside sound rfl rfl rfl rfl rfl)

theorem operations (pid : Pid) (call : Call) :
    Operations (fun _ program => (protocol around).Maintains pid call program) call where
  toComposable := composable_maintains (protocol around) pid call
  beside _ := maintains_beside
  createRequest _ _ _ := (composable_maintains (protocol around) pid call).createRequest
    (maintains_query fun _ _ => rfl) fun _ => maintains_create
  upsertBrief _ _ := maintains_putBrief
  retrieve _ := maintains_retrieve
  progress _ _ _ _ _ := maintains_progress
  status _ _ := maintains_status
  claim _ _ _ := maintains_claim
  retryDecision _ _ := maintains_retryDecision
  ownerDecision _ _ _ _ := maintains_decision
  delete _ _ _ _ _ _ := maintains_delete
  deliver _ _ _ := (composable_maintains (protocol around) pid call).deliver maintains_append
    maintains_spend (maintains_beside rfl) maintains_progress

/-! ### Runs -/

theorem safe : (protocol around).Safe fun _ _ => True :=
  safe_of_maintains fun pid call _ _ _ => (operations pid call).program

theorem sound_empty : Sound World.empty := by
  have absent : ∀ id row, World.empty.strategies.find id ≠ some row := by
    intro id row found
    cases found
  refine ⟨?_, ?_, ?_, ?_, fun id row _ found => absurd found (absent id row),
    fun id row found => absurd found (absent id row),
    fun id row found => absurd found (absent id row), ?_, ?_⟩ <;> intro row member <;> cases member

/-- An approved strategy has one approval, of its current version, which is its newest. -/
def ApprovesCurrent (world : World) : Prop :=
  ∀ id row, world.strategies.find id = some row → row.status = .approved →
    ∃ decision version, approvalsOf world id = [decision] ∧
      row.currentVersionId = some decision.strategyVersionId ∧
      world.versions.find decision.strategyVersionId = some version ∧ Newest world id version

/-- Owners' decisions name the version that was current when they were recorded. -/
def NamesCurrent (world : World) : Prop :=
  ∀ decision ∈ world.decisions, decision.action = .approve ∨ decision.action = .revisionRequested →
    decision.currentThen = some decision.strategyVersionId

/-- An approved strategy keeps its row and its versions. -/
def KeepsApproved (before after : World) : Prop :=
  ∀ id row, before.strategies.find id = some row → row.status = .approved →
    after.strategies.find id = some row ∧ after.versionsOf id = before.versionsOf id

/-- The condition as a check. -/
def passes (_ : Pid) (call : Call) (asked : Statement) (world : World) : Bool :=
  match asked with
  | .createDecision versionId _ _ _ => world.currentBeside versionId = some versionId
  | .decideDraft id _ =>
      (world.strategies.find id).all fun row => row.currentVersionId = named call
  | .updateStatus id _ | .deleteStrategy id =>
      (world.strategies.find id).all (·.status ≠ .approved)
  | .makeDraft id _ => (world.strategies.find id).any (·.status = .validating)
  | _ => true

theorem admits_of_passes (pid : Pid) (call : Call) (asked : Statement) (world : World)
    (passed : passes pid call asked world = true) : discipline.admits pid call asked world := by
  cases asked <;> try trivial
  case createDecision => exact fun _ => of_decide_eq_true passed
  case decideDraft id next =>
    intro row found _
    rw [passes, found] at passed
    exact of_decide_eq_true passed
  case updateStatus id next =>
    intro row found
    rw [passes, found] at passed
    exact of_decide_eq_true passed
  case deleteStrategy id =>
    intro row found
    rw [passes, found] at passed
    exact of_decide_eq_true passed
  case makeDraft id versionId =>
    obtain ⟨row, found, validating⟩ := (Option.any_eq_true _ _).mp passed
    exact ⟨row, found, of_decide_eq_true validating⟩

/-- An approval of the first draft waits between its checks and its decision, while a revision
replaces the draft. -/
def overtakenApproval : List (Move Call) :=
  draftedMoves ++ alone 6 (.handleDecision 0 8 ⟨0, .approve, none⟩ 5) 5 ++
  alone 7 (.handleDecision 0 8 ⟨0, .revisionRequested, some "shorter"⟩ 5) 14 ++
  alone 8 (.turnJob 1 .active) 1 ++ alone 9 (.process (.revise 0 0 (some "shorter"))) 59 ++
  steps 6 9

end MarketMind.Strategy.Approval
