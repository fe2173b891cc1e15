import MarketMind.Strategy.Programs
import MarketMind.Transactions.Guarded
import MarketMind.Transactions.Onward
import MarketMind.Transactions.Resume

/-!
Owns what is never undone among the strategies, whoever moves: a deleted strategy does not come
back, a version keeps its row until it is deleted, and the retries of a strategy stay counted
while it is there.

Does not own who may retry.
-/

namespace MarketMind.Strategy.Lineage

open MarketMind.Transactions
open MarketMind.Transactions.Protocol

/-- How often the owner has retried. -/
def retries (world : World) (strategyId : Uuid) : Nat :=
  (world.decisions.filter fun row =>
    row.action = .retry ∧
      (world.versions.find row.strategyVersionId).any (·.strategyId = strategyId)).length

/-- The identity has been given to a strategy. -/
def Used (id : Uuid) (world : World) : Prop :=
  (world.strategies.find id).isSome = true ∨ id ∈ world.retiredStrategies

/-- Deleted identities are not in the tables. -/
structure Sound (world : World) : Prop where
  strategies : ∀ id ∈ world.retiredStrategies, world.strategies.find id = none
  versions : ∀ id ∈ world.retiredVersions, world.versions.find id = none

/-- What no step undoes. -/
structure Keeps (before after : World) : Prop where
  used : ∀ id, Used id before → Used id after
  gone : ∀ id, Used id before → (after.strategies.find id).isSome = true →
    (before.strategies.find id).isSome = true
  retired : ∀ id ∈ before.retiredVersions, id ∈ after.retiredVersions
  versions : ∀ id row, before.versions.find id = some row →
    after.versions.find id = some row ∨ id ∈ after.retiredVersions
  counted : ∀ id, Used id before → (after.strategies.find id).isSome = true →
    retries before id ≤ retries after id

theorem keeps_refl (world : World) : Keeps world world :=
  ⟨fun _ used => used, fun _ _ there => there, fun _ retired => retired,
    fun _ _ found => .inl found, fun _ _ _ => Nat.le_refl _⟩

theorem keeps_trans {first second third : World} (left : Keeps first second)
    (right : Keeps second third) : Keeps first third where
  used id used := right.used id (left.used id used)
  gone id used there := left.gone id used (right.gone id (left.used id used) there)
  retired id retired := right.retired id (left.retired id retired)
  versions id row found := by
    rcases left.versions id row found with stays | retired
    · exact right.versions id row stays
    · exact .inr (right.retired id retired)
  counted id used there :=
    (left.counted id used (right.gone id (left.used id used) there)).trans
      (right.counted id (left.used id used) there)

theorem sound_empty : Sound World.empty := ⟨fun _ => nofun, fun _ => nofun⟩

/-- What holds a version cannot have been deleted. -/
theorem Sound.kept {before world : World} {id : Uuid} {row : StrategyVersion} (sound : Sound world)
    (keeps : Keeps before world) (found : before.versions.find id = some row)
    {other : StrategyVersion} (there : world.versions.find id = some other) : other = row := by
  rcases keeps.versions id row found with stays | retired
  · exact Option.some.inj (there.symm.trans stays)
  · rw [sound.versions id retired] at there
    cases there

/-! ### Changes -/

/-- Rows of strategies change; versions and decisions are added. -/
theorem kept_grown {before after : World} (sound : Sound before)
    (strategies : ∀ id, (after.strategies.find id).isSome = (before.strategies.find id).isSome)
    (stays : ∀ id row, before.versions.find id = some row → after.versions.find id = some row)
    (absent : ∀ id ∈ before.retiredVersions, after.versions.find id = none)
    (decisions : before.decisions <+: after.decisions)
    (retiredStrategies : after.retiredStrategies = before.retiredStrategies)
    (retiredVersions : after.retiredVersions = before.retiredVersions) :
    Sound after ∧ Keeps before after := by
  refine ⟨⟨fun id retired => ?_, fun id retired => ?_⟩, ⟨fun id used => ?_, fun id _ there => ?_,
    fun id retired => ?_, fun id row found => .inl (stays id row found), fun id _ _ => ?_⟩⟩
  · rw [retiredStrategies] at retired
    have none := strategies id
    rw [sound.strategies id retired] at none
    exact Option.isNone_iff_eq_none.mp (by simpa using none)
  · exact absent id (retiredVersions ▸ retired)
  · unfold Used
    rw [strategies, retiredStrategies]
    exact used
  · rw [← strategies]
    exact there
  · rw [retiredVersions]
    exact retired
  · refine ((List.monotone_filter_right _ fun decision counted => ?_).trans
      (decisions.sublist.filter _)).length_le
    simp only [Bool.decide_and, Bool.and_eq_true, decide_eq_true_eq, Option.any_eq_true]
      at counted ⊢
    obtain ⟨isRetry, row, found, owner⟩ := counted
    exact ⟨isRetry, row, stays _ row found, owner⟩

theorem kept_aside {before after : World} (sound : Sound before)
    (strategies : ∀ id, (after.strategies.find id).isSome = (before.strategies.find id).isSome)
    (versions : after.versions = before.versions)
    (decisions : before.decisions <+: after.decisions)
    (retiredStrategies : after.retiredStrategies = before.retiredStrategies)
    (retiredVersions : after.retiredVersions = before.retiredVersions) :
    Sound after ∧ Keeps before after :=
  kept_grown sound strategies (fun _ _ found => versions ▸ found)
    (fun id retired => versions ▸ sound.versions id retired) decisions retiredStrategies
    retiredVersions

theorem isSome_modify {world : World} {id other : Uuid} {next : StrategyStatus} :
    ((world.move id next).strategies.find other).isSome = (world.strategies.find other).isSome := by
  rw [find_move]
  split
  · exact Option.isSome_map
  · rfl

theorem kept_move {world : World} {id : Uuid} {next : StrategyStatus} (sound : Sound world) :
    Sound (world.move id next) ∧ Keeps world (world.move id next) :=
  kept_aside sound (fun _ => isSome_modify) rfl (List.prefix_refl _) rfl rfl

theorem kept_addDecision {world : World} {row : StrategyDecision} (sound : Sound world) :
    Sound (world.addDecision row) ∧ Keeps world (world.addDecision row) :=
  kept_aside sound (fun _ => rfl) rfl (List.prefix_append _ _) rfl rfl

theorem kept_create {world : World} {row : StrategyRow} (sound : Sound world)
    (fresh : world.strategies.find row.id = none) (unretired : row.id ∉ world.retiredStrategies) :
    Sound { world with strategies := world.strategies.insert row } ∧
      Keeps world { world with strategies := world.strategies.insert row } := by
  have unused : ¬Used row.id world := by
    rintro (there | retired)
    · rw [fresh] at there
      cases there
    · exact unretired retired
  refine ⟨⟨fun id retired => ?_, sound.versions⟩, ⟨fun id used => ?_, fun id used there => ?_,
    fun _ retired => retired, fun _ _ found => .inl found, fun _ _ _ => Nat.le_refl _⟩⟩
  · have apart : id ≠ row.id := fun same => unretired (same ▸ retired)
    exact (Table.find_insert_of_ne apart).trans (sound.strategies id retired)
  · refine used.imp_left fun there => ?_
    obtain ⟨old, found⟩ := Option.isSome_iff_exists.mp there
    exact Option.isSome_iff_exists.mpr ⟨old, Table.find_insert_of_found found⟩
  · have apart : id ≠ row.id := fun same => unused (same ▸ used)
    exact (@Table.find_insert_of_ne _ _ world.strategies _ _ apart) ▸ there

theorem kept_append {world : World} (pid : Pid) {created : StrategyVersion} (sound : Sound world)
    (unretired : created.id ∉ world.retiredVersions) :
    Sound (world.addVersion pid created) ∧ Keeps world (world.addVersion pid created) := by
  refine kept_grown sound (fun _ => rfl) (fun id row found => Table.find_insert_of_found found)
    (fun id retired => ?_) (List.prefix_refl _) rfl rfl
  have apart : id ≠ created.id := fun same => unretired (same ▸ retired)
  exact (Table.find_insert_of_ne apart).trans (sound.versions id retired)

theorem kept_publishDraft {world : World} (id versionId : Uuid) (sound : Sound world) :
    Sound (world.publishDraft id versionId) ∧ Keeps world (world.publishDraft id versionId) := by
  refine kept_aside sound (fun other => ?_) rfl (List.prefix_refl _) rfl rfl
  rw [find_publishDraft]
  split
  · exact Option.isSome_map
  · rfl

/-- Only what belongs to the deleted strategy goes. -/
theorem kept_erase {world listed dropped : World} {id : Uuid} {seqs : List Nat}
    (sound : Sound world) (keepsListed : Keeps listed world) (keepsDropped : Keeps dropped world) :
    let after := world.erase id ((listed.versionsOf id).map StrategyVersion.id)
      ((dropped.versionsOf id).map fun row => (row.id, row.strategyId, row.version)) seqs
    Sound after ∧ Keeps world after := by
  intro after
  have findStrategy : ∀ other, after.strategies.find other =
      (world.strategies.find other).filter (·.id ≠ id) := fun other => Table.find_retain
  have findVersion : ∀ other, after.versions.find other = (world.versions.find other).filter
      fun row => (row.id, row.strategyId, row.version) ∉
        (dropped.versionsOf id).map fun row => (row.id, row.strategyId, row.version) :=
    fun other => Table.find_retain
  -- A listed version is the one that is there, if it still is.
  have own : ∀ {earlier : World} {version row : StrategyVersion}, Keeps earlier world →
      version ∈ earlier.versionsOf id → world.versions.find version.id = some row →
      row = version ∧ version.strategyId = id := by
    intro earlier version row keeps isListed there
    obtain ⟨member, belongs⟩ := List.mem_filter.mp isListed
    exact ⟨sound.kept keeps (Table.find_of_mem member) there, by simpa using belongs⟩
  have others : ∀ other row, world.versions.find other = some row → row.strategyId ≠ id →
      after.versions.find other = some row := by
    intro other row found apart
    rw [findVersion, found, Option.filter_some, if_pos]
    refine decide_eq_true fun isDropped => apart ?_
    obtain ⟨version, isListed, same⟩ := List.mem_map.mp isDropped
    obtain ⟨member, belongs⟩ := List.mem_filter.mp isListed
    rw [← (Prod.mk.inj (Prod.mk.inj same).2).1]
    simpa using belongs
  refine ⟨⟨fun other retired => ?_, fun other retired => ?_⟩, ⟨fun other used => ?_,
    fun other _ there => ?_, fun other retired => List.mem_append_right _ retired,
    fun other row found => ?_, fun other _ there => ?_⟩⟩
  · rw [findStrategy]
    rcases List.mem_cons.mp retired with rfl | old
    · cases found : world.strategies.find other with
      | none => rfl
      | some row => simp [Option.filter, show row.id = other from Table.key_of_find found]
    · rw [sound.strategies other old]
      rfl
  · rw [findVersion]
    rcases List.mem_append.mp retired with new | old
    · cases found : world.versions.find other with
      | none => rfl
      | some row =>
          obtain ⟨fields, isDropped, rfl⟩ := List.mem_map.mp new
          obtain ⟨version, isListed, rfl⟩ := List.mem_map.mp isDropped
          obtain ⟨rfl, -⟩ := own keepsDropped isListed found
          rw [Option.filter_some, if_neg]
          simpa using ⟨row, isListed, rfl, rfl, rfl⟩
    · rw [sound.versions other old]
      rfl
  · by_cases same : other = id
    · exact .inr (same ▸ List.mem_cons_self)
    · refine used.imp (fun there => ?_) (List.mem_cons_of_mem _)
      obtain ⟨row, found⟩ := Option.isSome_iff_exists.mp there
      rw [findStrategy, found]
      simp [Option.filter, show row.id = other from Table.key_of_find found, same]
  · rw [findStrategy] at there
    cases found : world.strategies.find other with
    | none => simp [found] at there
    | some row => rfl
  · by_cases same : row.strategyId = id
    · by_cases stays : after.versions.find other = some row
      · exact .inl stays
      · refine .inr (List.mem_append_left _ ?_)
        rw [findVersion, found, Option.filter_some] at stays
        have isDropped : (row.id, row.strategyId, row.version) ∈ (dropped.versionsOf id).map
            fun row => (row.id, row.strategyId, row.version) := by
          by_contra remains
          exact stays (if_pos (decide_eq_true remains))
        exact List.mem_map.mpr ⟨_, isDropped, Table.key_of_find found⟩
    · exact .inl (others other row found same)
  · have apart : other ≠ id := by
      rintro rfl
      rw [findStrategy] at there
      cases found : world.strategies.find other with
      | none => simp [found] at there
      | some row =>
          have same : row.id = other := Table.key_of_find found
          simp [found, Option.filter, same] at there
    show _ ≤ ((world.decisions.filter _).filter _).length
    rw [List.filter_filter]
    refine (List.monotone_filter_right _ fun decision counted => ?_).length_le
    simp only [Bool.decide_and, Bool.and_eq_true, decide_eq_true_eq, Option.any_eq_true]
      at counted ⊢
    obtain ⟨isRetry, row, found, owner⟩ := counted
    refine ⟨⟨isRetry, row, others _ row found (owner ▸ apart), owner⟩, fun isListed => apart ?_⟩
    obtain ⟨version, isVersion, same⟩ := List.mem_map.mp isListed
    obtain ⟨rfl, belongs⟩ := own keepsListed isVersion (same ▸ found)
    exact owner.symm.trans belongs

/-! ### The operations -/

def protocol (around : Surroundings) : Protocol (system around) where
  discipline := .free
  invariant := Sound
  rely _ := Keeps
  rely_refl _ := keeps_refl
  rely_trans _ _ _ _ := keeps_trans

variable {around : Surroundings} {pid : Pid} {call : Call}

theorem guaranteed {before after : World} (kept : Sound after ∧ Keeps before after) :
    (protocol around).invariant after ∧ (protocol around).Guarantees pid before after :=
  ⟨kept.1, fun _ _ => kept.2⟩

/-- A change beside strategies, versions and decisions. -/
theorem guaranteed_aside {before after : World} (strategies : after.strategies = before.strategies)
    (versions : after.versions = before.versions) (decisions : after.decisions = before.decisions)
    (retiredStrategies : after.retiredStrategies = before.retiredStrategies)
    (retiredVersions : after.retiredVersions = before.retiredVersions) (sound : Sound before) :
    (protocol around).invariant after ∧ (protocol around).Guarantees pid before after := by
  refine guaranteed (kept_aside sound (fun id => ?_) versions ?_ retiredStrategies retiredVersions)
  · rw [strategies]
  · exact decisions ▸ List.prefix_refl _

theorem maintains_create {businessId ownerUserId : Uuid} :
    (protocol around).Maintains pid call (Db.createStrategy businessId ownerUserId) := by
  refine maintains_ask fun choice world effect _ executed sound => ?_
  cases executed
  exact guaranteed (kept_create sound (Table.find_freshKey _) (freshKey_above _ _ choice))

theorem maintains_append {new : NewVersion} :
    (protocol around).Maintains pid call (appendStrategyVersion new) := by
  have appends : (protocol around).Ensures pid call (fun _ => True) (appendStrategyVersion new)
      (returning fun _ _ => True) := by
    refine ensures_appendStrategyVersion ?_ ?_
    · intro start base created row _ appended _ _ sound
      obtain ⟨added, keeps⟩ := kept_append pid sound appended.fresh.2
      obtain ⟨drafted, keepsOn⟩ := kept_publishDraft new.strategyId created.id added
      exact ⟨drafted, fun _ _ => keeps_trans keeps keepsOn, fun _ _ => trivial⟩
    · intro start base created view _ appended _ _ sound
      obtain ⟨added, keeps⟩ := kept_append pid sound appended.fresh.2
      exact ⟨added, fun _ _ => keeps, fun _ _ => trivial⟩
  exact appends.maintains

theorem maintains_progress {id : Uuid} {stage messageKey : String} {status : ProgressStatus}
    {retryable : Option Bool} :
    (protocol around).Maintains pid call (recordProgress id stage status messageKey retryable) :=
  maintains_recordProgress fun _ _ sound => guaranteed_aside rfl rfl rfl rfl rfl sound

theorem maintains_beside {asked : Statement} (beside : asked.beside = true) :
    (protocol around).Maintains pid call (@Program.ask strategy asked) := by
  refine maintains_ask fun choice world effect _ executed sound => ?_
  have same := exec_beside beside executed
  exact guaranteed_aside same.strategies same.versions same.decisions same.retiredStrategies
    same.retiredVersions sound

theorem operations (pid : Pid) (call : Call) :
    Operations (fun _ program => (protocol around).Maintains pid call program) call where
  toComposable := composable_maintains (protocol around) pid call
  beside _ := maintains_beside
  createRequest _ _ _ := (composable_maintains (protocol around) pid call).createRequest
    (maintains_query fun _ _ => rfl) fun _ => maintains_create
  upsertBrief _ _ := maintains_ask fun _ _ _ _ executed sound => by
    obtain ⟨-, executed⟩ := ok_of_unless executed
    cases executed
    exact guaranteed_aside rfl rfl rfl rfl rfl sound
  retrieve _ := maintains_ask fun _ _ _ _ executed sound => by
    rcases retrieve_cases executed with ⟨reply, rfl⟩ | ⟨reply, run, rfl⟩
    · exact guaranteed_aside rfl rfl rfl rfl rfl sound
    · exact guaranteed_aside rfl rfl rfl rfl rfl sound
  progress _ _ _ _ _ := maintains_progress
  status _ _ _ :=
    maintains_updateStrategyStatus fun _ _ _ _ _ _ sound => guaranteed (kept_move sound)
  claim _ _ _ _ :=
    maintains_claimForGeneration fun _ _ _ _ _ _ sound => guaranteed (kept_move sound)
  retryDecision _ _ := maintains_ask fun _ _ _ _ executed sound => by
    obtain ⟨-, rfl⟩ := createDecision_cases executed
    exact guaranteed (kept_addDecision sound)
  ownerDecision _ _ _ _ _ := maintains_recordOwnerDecision
    (fun _ _ _ _ sound => guaranteed (kept_addDecision sound))
    fun _ _ _ _ _ _ _ _ _ _ _ _ sound => by
      obtain ⟨added, keeps⟩ := kept_addDecision sound
      obtain ⟨moved, keepsOn⟩ := kept_move added
      exact guaranteed ⟨moved, keeps_trans keeps keepsOn⟩
  delete _ _ _ _ _ _ := maintains_deleteStrategy
    fun _ _ _ _ _ _ _ keepsListed _ keepsDropped _ _ _ sound =>
      guaranteed (kept_erase sound keepsListed keepsDropped)
  deliver _ _ _ := (composable_maintains (protocol around) pid call).deliver maintains_append
    (maintains_ask fun _ _ _ _ executed sound => by
      cases executed
      exact guaranteed_aside rfl rfl rfl rfl rfl sound)
    (maintains_beside rfl) maintains_progress

theorem safe : (protocol around).Safe fun _ _ => True :=
  safe_of_maintains fun pid call _ _ _ => (operations pid call).program

variable {machine after : Machine strategy World Key Call} {move : Move Call}

theorem sound_of_reaches (reached : Reaches (system around) .free .empty machine) :
    Sound machine.world :=
  invariant_of_reaches (@safe around) sound_empty reached

/-- Every step of every run keeps what was there. -/
theorem keeps_of_step (reached : Reaches (system around) .free .empty machine)
    (stepped : (system around).step machine move = some after) :
    Keeps machine.world after.world := by
  obtain ⟨pid, guarantees⟩ := relied_of_step (@safe around) sound_empty reached
    Discipline.admitsMove_free stepped
  exact guarantees (pid + 1) (Nat.succ_ne_self pid)

end MarketMind.Strategy.Lineage
