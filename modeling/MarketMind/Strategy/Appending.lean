import MarketMind.Strategy.Guards
import MarketMind.Transactions.Guarded

/-!
Owns what a commit of `appendStrategyVersion` leaves behind when it interleaves with the other
writers of the status: a version with the next number that is the draft of its strategy, as long
as the strategy is still being validated when its row is written.

Does not own the services that append versions.
-/

namespace MarketMind.Strategy.Appending

open MarketMind.Transactions
open MarketMind.Transactions.Protocol

/-! ### The repository -/

/-- The operations of the repository that create a strategy or write its status. -/
inductive Operation
  | createStrategy (businessId ownerUserId : Uuid)
  | updateStrategyStatus (id : Uuid) (next : StrategyStatus)
  | claimForGeneration (id : Uuid) (idleStatuses : List StrategyStatus) (next : StrategyStatus)
  | appendStrategyVersion (new : NewVersion)

def Operation.program : Operation → Code Unit
  | createStrategy businessId ownerUserId => (Db.createStrategy businessId ownerUserId).discard
  | updateStrategyStatus id next => Strategy.updateStrategyStatus id next
  | claimForGeneration id idleStatuses next =>
      (Strategy.claimForGeneration id idleStatuses next).discard
  | appendStrategyVersion new => (Strategy.appendStrategyVersion new).discard

/-- The operations of the repository, in any order and number, at the same time. -/
def repository (around : Surroundings) : System strategy World Key Operation :=
  serving around Operation.program fun _ _ => true

/-- A commit adds no version; or it adds one whose number is the next one of its strategy, which
has it as its current version and is a draft. -/
def AllOrNothing (before after : World) : Prop :=
  after.versions.rows = before.versions.rows ∨
    ∃ created, after.versions.rows = before.versions.rows ++ [created] ∧
      created.version = ((before.latestVersion created.strategyId).map (·.version + 1)).getD 1 ∧
      ∃ row, after.strategies.find created.strategyId = some row ∧ row.status = .draft ∧
        row.currentVersionId = some created.id

/-- The update at the end of an append finds the strategy as the append has read it. -/
def discipline : Discipline strategy World Operation where
  issues _ := True
  admits _ _ asked world := ∀ id versionId, asked = .makeDraft id versionId →
    ∃ row, world.strategies.find id = some row ∧ row.status = .validating
  isolation := .readCommitted

/-! ### Numbers -/

/-- The versions of a strategy are numbered from 1 on, and the last one is current. -/
structure Numbered (world : World) (id : Uuid) : Prop where
  numbers : (world.versionsOf id).map (·.version) = List.range' 1 (world.versionsOf id).length
  current : ∀ row, world.strategies.find id = some row →
    row.currentVersionId = (world.versionsOf id).getLast?.map (·.id)
  owned : world.strategies.find id = none → world.versionsOf id = []

theorem numbered_empty (id : Uuid) : Numbered World.empty id :=
  ⟨rfl, fun _ _ => by contradiction, fun _ => rfl⟩

/-- The number after the highest is the count of the versions and one. -/
theorem nextVersion_eq {world : World} {id : Uuid} (numbered : Numbered world id) :
    ((world.latestVersion id).map (·.version + 1)).getD 1 = (world.versionsOf id).length + 1 := by
  have members : ∀ number, number ∈ (world.versionsOf id).map (·.version) ↔
      1 ≤ number ∧ number < 1 + (world.versionsOf id).length := by
    intro number
    rw [numbered.numbers, List.mem_range'_1]
  unfold World.latestVersion
  cases latest : (world.versionsOf id).argmax StrategyVersion.version with
  | none =>
      rw [List.argmax_eq_none.mp latest]
      rfl
  | some version =>
      have isMember := List.argmax_mem latest
      have below := (members version.version).mp (List.mem_map_of_mem isMember)
      have nonempty := List.length_pos_of_mem isMember
      obtain ⟨top, isTop, topNumber⟩ :=
        List.mem_map.mp ((members (world.versionsOf id).length).mpr (by omega))
      have above := List.le_of_mem_argmax isTop latest
      show version.version + 1 = _
      omega

theorem versionsOf_addVersion {world : World} {pid : Pid} {created : StrategyVersion}
    (fresh : world.versions.find created.id = none) (id : Uuid) :
    (world.addVersion pid created).versionsOf id =
      world.versionsOf id ++ if created.strategyId = id then [created] else [] := by
  unfold World.versionsOf World.addVersion
  rw [Table.rows_insert fresh, List.filter_append]
  by_cases same : created.strategyId = id
  · simp [same]
  · simp [same]

/-! ### The protocol -/

/-- Versions are only added at the end. -/
def Grows (before after : World) : Prop :=
  ∀ id : Uuid, before.versionsOf id <+: after.versionsOf id

def protocol (around : Surroundings) : Protocol (repository around) where
  discipline := discipline
  invariant world := ∀ id, Numbered world id
  rely _ := Grows
  rely_refl _ _ _ := List.prefix_refl _
  rely_trans _ _ _ _ first second id := (first id).trans (second id)

variable {around : Surroundings} {pid : Pid} {call : Operation}

/-- A change of the status alone. -/
theorem guaranteed_move {world : World} {id : Uuid} {next : StrategyStatus}
    (numbered : (protocol around).invariant world) :
    (protocol around).invariant (world.move id next) ∧
      (protocol around).Guarantees pid world (world.move id next) := by
  refine ⟨fun other => ?_, fun _ _ other => List.prefix_refl _⟩
  obtain ⟨numbers, current, owned⟩ := numbered other
  refine ⟨numbers, fun row found => ?_, fun absent => ?_⟩
  · rw [find_move] at found
    split at found
    · obtain ⟨old, isOld, rfl⟩ := Option.map_eq_some_iff.mp found
      exact current old isOld
    · exact current row found
  · rw [find_move] at absent
    split at absent
    · exact owned (Option.map_eq_none_iff.mp absent)
    · exact owned absent

/-- The number that an append has read is still the next one when its version is committed. -/
theorem number_of_appended {new : NewVersion} {start base : World} {created : StrategyVersion}
    (appended : Appended (protocol around) pid call new start base created)
    (numbered : Numbered base new.strategyId) :
    created.version = (base.versionsOf new.strategyId).length + 1 := by
  obtain ⟨read, holds, grows, isNumber⟩ := appended.numbered
  rw [nextVersion_eq (holds new.strategyId)] at isNumber
  have shorter := (grows new.strategyId).length_le
  by_contra differs
  have inside : created.version ∈ (base.versionsOf new.strategyId).map (·.version) := by
    rw [numbered.numbers, List.mem_range'_1]
    omega
  obtain ⟨taken, isTaken, sameNumber⟩ := List.mem_map.mp inside
  have listed : taken ∈ (base.versionsOf new.strategyId).filter (·.version = created.version) :=
    List.mem_filter.mpr ⟨isTaken, by simpa using sameNumber⟩
  rw [appended.free] at listed
  cases listed

theorem guaranteed_append {new : NewVersion} {start base : World} {created : StrategyVersion}
    {row : StrategyRow} (appended : Appended (protocol around) pid call new start base created)
    (found : base.strategies.find new.strategyId = some row)
    (numbered : (protocol around).invariant base) :
    (protocol around).invariant
        ((base.addVersion pid created).publishDraft new.strategyId created.id) ∧
      (protocol around).Guarantees pid base
        ((base.addVersion pid created).publishDraft new.strategyId created.id) := by
  have owner : created.strategyId = new.strategyId := by
    rw [appended.row]
    rfl
  have versions : ∀ id,
      ((base.addVersion pid created).publishDraft new.strategyId created.id).versionsOf id =
        base.versionsOf id ++ if created.strategyId = id then [created] else [] :=
    @versionsOf_addVersion _ pid _ appended.fresh.1
  constructor
  · intro id
    obtain ⟨numbers, current, owned⟩ := numbered id
    by_cases same : id = new.strategyId
    · subst same
      have listed := versions new.strategyId
      rw [if_pos owner] at listed
      refine ⟨?_, fun after isAfter => ?_, fun absent => ?_⟩
      · rw [listed, List.map_append, numbers, List.length_append, List.map_singleton,
          number_of_appended appended (numbered new.strategyId), List.length_singleton,
          List.range'_concat, Nat.one_mul, Nat.add_comm 1]
      · rw [find_publishDraft, if_pos rfl] at isAfter
        obtain ⟨old, -, rfl⟩ := Option.map_eq_some_iff.mp isAfter
        rw [listed, List.getLast?_concat]
        rfl
      · rw [find_publishDraft, if_pos rfl] at absent
        have isThere := found.symm.trans (Option.map_eq_none_iff.mp absent)
        cases isThere
    · have listed := versions id
      have apart : created.strategyId ≠ id := fun isOwner => same (isOwner.symm.trans owner)
      rw [if_neg apart, List.append_nil] at listed
      refine ⟨?_, fun after isAfter => ?_, fun absent => ?_⟩
      · rw [listed]
        exact numbers
      · rw [find_publishDraft, if_neg same] at isAfter
        rw [listed]
        exact current after isAfter
      · rw [find_publishDraft, if_neg same] at absent
        rw [listed]
        exact owned absent
  · intro other _ id
    rw [versions]
    exact List.prefix_append _ _

theorem maintains_createStrategy {businessId ownerUserId : Uuid} :
    (protocol around).Maintains pid call (Db.createStrategy businessId ownerUserId) := by
  refine maintains_ask fun choice world effect _ executed numbered => ?_
  cases executed
  refine ⟨fun id => ?_, fun _ _ _ => List.prefix_refl _⟩
  obtain ⟨numbers, current, owned⟩ := numbered id
  have isNew := world.strategies.find_freshKey (above world.retiredStrategies + choice)
  refine ⟨numbers, fun row found => ?_, fun absent => ?_⟩
  · rcases Table.of_find_insert found with old | ⟨rfl, same⟩
    · exact current row old
    · have none : world.versionsOf id = [] := owned (same ▸ isNew)
      show Option.none = (world.versionsOf id).getLast?.map (·.id)
      rw [none]
      rfl
  · by_cases same : id = world.strategies.freshKey (above world.retiredStrategies + choice)
    · subst same
      exact owned isNew
    · exact owned ((Table.find_insert_of_ne same).symm.trans absent)

theorem maintains_program (call : Operation) :
    (protocol around).Maintains pid call call.program := by
  cases call with
  | createStrategy businessId ownerUserId => exact maintains_discard maintains_createStrategy
  | updateStrategyStatus id next =>
      refine maintains_updateStrategyStatus fun view base row _ _ _ numbered => ?_
      exact guaranteed_move numbered
  | claimForGeneration id idleStatuses next =>
      refine maintains_discard (maintains_claimForGeneration ?_)
      intro world row _ _ _ _ numbered
      exact guaranteed_move numbered
  | appendStrategyVersion new =>
      have appends : (protocol around).Ensures pid (.appendStrategyVersion new) (fun _ => True)
          (Strategy.appendStrategyVersion new) (returning fun _ _ => True) := by
        refine ensures_appendStrategyVersion ?_ ?_
        · intro start base created row _ appended found _ numbered
          obtain ⟨kept, guarantees⟩ := guaranteed_append appended found numbered
          exact ⟨kept, guarantees, fun _ _ => trivial⟩
        · intro start base created view _ _ drafting moved _
          exact absurd (drafting _ _ rfl) moved
      exact maintains_discard appends.maintains

theorem safe : (protocol around).Safe fun _ _ => True :=
  safe_of_maintains fun _ call _ _ _ => maintains_program call

variable {machine after : Machine strategy World Key Operation} {move : Move Operation}

theorem numbered_of_reaches (reached : Reaches (repository around) discipline .empty machine)
    (id : Uuid) : Numbered machine.world id :=
  invariant_of_reaches (@safe around) numbered_empty reached id

/-! ### Commits -/

/-- No version is written, or one, with the row of its strategy as it was or with the version as
its draft. -/
def AddsOne (writes : World → World) : Prop :=
  (∀ base, (writes base).versions = base.versions) ∨
    ∃ created : StrategyVersion, ∀ base,
      (writes base).versions = base.versions.insert created ∧
        ((writes base).strategies = base.strategies ∨
          (writes base).strategies =
            (base.publishDraft created.strategyId created.id).strategies)

theorem seals_updateStrategyStatus {id : Uuid} {next : StrategyStatus} :
    (updateStrategyStatus id next).SealsAll (store around) AddsOne := by
  refine Program.sealsAll_transaction ?_
  refine Program.seals_ask_bind fun _ choice view effect executed => ?_
  cases executed
  generalize Option.map StrategyRow.status _ = status
  cases status with
  | none => trivial
  | some current =>
      show Program.Seals _ _ _ (require _ _ >>= _) _
      unfold require
      split
      · refine ⟨fun _ => trivial, fun pid choice view effect executed => ?_⟩
        obtain ⟨row, -, rfl⟩ := updateStatus_cases executed
        exact ⟨_, rfl, .inl fun _ => rfl⟩
      · trivial

theorem seals_appendStrategyVersion {new : NewVersion} :
    (appendStrategyVersion new).SealsAll (store around) AddsOne := by
  refine Program.sealsAll_transaction ?_
  refine Program.seals_ask_bind fun _ choice view effect executed => ?_
  cases executed
  generalize Option.map StrategyRow.status _ = status
  cases status with
  | none => trivial
  | some current =>
      show Program.Seals _ _ _ (require _ _ >>= _) _
      unfold require
      split
      · refine Program.seals_ask_bind fun _ choice view effect executed => ?_
        cases executed
        refine Program.seals_ask_bind fun pid choice view effect executed => ?_
        obtain ⟨id, -, -, -, rfl⟩ := createVersion_cases executed
        refine Program.seals_ask_bind fun _ choice view effect executed => ?_
        rcases makeDraft_cases executed with ⟨row, -, -, rfl⟩ | ⟨-, rfl⟩
        · exact ⟨_, rfl, .inr ⟨_, fun _ => ⟨rfl, .inr rfl⟩⟩⟩
        · exact ⟨_, rfl, .inr ⟨_, fun _ => ⟨rfl, .inl rfl⟩⟩⟩
      · trivial

theorem seals_program (call : Operation) :
    call.program.SealsAll (repository around).toStore AddsOne := by
  cases call with
  | createStrategy businessId ownerUserId =>
      exact Program.sealsAll_discard (Program.sealsAll_ask _)
  | updateStrategyStatus id next => exact seals_updateStrategyStatus
  | claimForGeneration id idleStatuses next =>
      refine Program.sealsAll_discard ?_
      unfold Strategy.claimForGeneration
      split
      · exact Program.sealsAll_ask _
      · exact Program.sealsAll_pure _
  | appendStrategyVersion new => exact Program.sealsAll_discard seals_appendStrategyVersion

/-- The statements that the repository executes outside transactions. -/
def IsPlain : Statement → Prop
  | .createStrategy .. | .claim .. => True
  | _ => False

theorem splits_program (call : Operation) :
    call.program.Splits IsPlain (fun _ => True) false := by
  cases call with
  | createStrategy businessId ownerUserId =>
      exact Program.splits_discard (Program.splits_ask trivial)
  | updateStrategyStatus id next =>
      refine Program.splits_transaction ?_
      refine Store.asks_bind (Store.asks_ask trivial) fun status => ?_
      cases status with
      | none => exact Store.asks_throw _
      | some current =>
          refine Store.asks_bind ?_ fun _ => Store.asks_ask trivial
          unfold require
          split
          · exact Store.asks_pure _
          · exact Store.asks_throw _
  | claimForGeneration id idleStatuses next =>
      refine Program.splits_discard ?_
      unfold Strategy.claimForGeneration
      split
      · exact Program.splits_ask trivial
      · exact Program.splits_pure _
  | appendStrategyVersion new =>
      refine Program.splits_discard (Program.splits_transaction ?_)
      refine Store.asks_bind (Store.asks_ask trivial) fun status => ?_
      cases status with
      | none => exact Store.asks_throw _
      | some current =>
          refine Store.asks_bind ?_ fun _ => ?_
          · unfold require
            split
            · exact Store.asks_pure _
            · exact Store.asks_throw _
          · exact Store.asks_bind (Store.asks_ask trivial) fun _ =>
              Store.asks_bind (Store.asks_ask trivial) fun _ =>
                Store.asks_bind (Store.asks_ask trivial) fun _ => Store.asks_pure _

theorem versions_of_plain {choice : Nat} {asked : Statement} {world : World}
    {effect : Effect World Key asked.Reply} (plain : IsPlain asked)
    (executed : (repository around).exec pid choice asked world = .ok effect) :
    (effect.write world).versions.rows = world.versions.rows := by
  cases asked with
  | createStrategy businessId ownerUserId =>
      cases executed
      rfl
  | claim id idleStatuses next =>
      rcases updateWhen_cases executed with ⟨row, -, -, rfl⟩ | rfl <;> rfl
  | _ => exact plain.elim

/-! ### All or nothing -/

/-- Where the versions are numbered and the last one is current on both sides of a commit, it is
all or nothing. -/
theorem allOrNothing_of_addsOne {before later : World} {writes : World → World}
    (adds : AddsOne writes) (wrote : later = writes before)
    (numbered : ∀ id, Numbered before id) (kept : ∀ id, Numbered later id) :
    AllOrNothing before later := by
  subst wrote
  rcases adds with same | ⟨created, isInsert⟩
  · exact .inl (congrArg Table.rows (same before))
  obtain ⟨inserted, status⟩ := isInsert before
  cases known : before.versions.find created.id with
  | some old =>
      refine .inl ?_
      rw [inserted, Table.insert_of_used known]
  | none =>
      have rows : (writes before).versions.rows = before.versions.rows ++ [created] := by
        rw [inserted, Table.rows_insert known]
      have versions : (writes before).versionsOf created.strategyId =
          before.versionsOf created.strategyId ++ [created] := by
        unfold World.versionsOf
        rw [rows, List.filter_append]
        simp
      obtain ⟨numbers, current, owned⟩ := kept created.strategyId
      refine .inr ⟨created, rows, ?_, ?_⟩
      · rw [nextVersion_eq (numbered created.strategyId)]
        rw [versions, List.map_append, (numbered created.strategyId).numbers, List.length_append,
          List.length_singleton, List.range'_concat, List.map_singleton] at numbers
        have last := List.append_inj_right numbers (by simp)
        rw [Nat.one_mul, Nat.add_comm 1] at last
        exact List.head_eq_of_cons_eq last
      · cases found : (writes before).strategies.find created.strategyId with
        | none =>
            rw [owned found] at versions
            exact absurd versions.symm (by simp)
        | some row =>
            have points := current row found
            rw [versions, List.getLast?_concat] at points
            refine ⟨row, rfl, ?_, points⟩
            rcases status with unchanged | published
            · rw [unchanged] at found
              have pointed := ((numbered created.strategyId).current row found).symm.trans points
              obtain ⟨last, isLast, sameId⟩ := Option.map_eq_some_iff.mp pointed
              have member := (List.mem_filter.mp (List.mem_of_getLast? isLast)).1
              have there := Table.find_of_mem member
              rw [show Keyed.key last = created.id from sameId, known] at there
              cases there
            · rw [published, find_publishDraft, if_pos rfl] at found
              obtain ⟨old, -, rfl⟩ := Option.map_eq_some_iff.mp found
              rfl

/-- Every move of a run in which no append finds that the status has moved on is all or
nothing. -/
theorem append_is_all_or_nothing
    (reached : Reaches (repository around) discipline .empty machine)
    (admitted : discipline.AdmitsMove machine move)
    (stepped : (repository around).step machine move = some after) :
    AllOrNothing machine.world after.world := by
  have numbered := numbered_of_reaches reached
  have kept := numbered_of_reaches (reached.move move admitted stepped)
  rcases related_or_commits (R := fun before later => later.versions.rows = before.versions.rows)
    (fun _ => rfl) (fun _ _ _ _ _ _ plain executed => versions_of_plain plain executed)
    splits_program reached.free stepped with same | ⟨thread, commits⟩
  · exact .inl same
  · obtain ⟨opened, isOpen, adds⟩ := sealed_of_commits seals_program reached.free commits
    have wrote : after.world = opened.pending machine.world := by
      rw [commits.wrote, isOpen]
      rfl
    exact allOrNothing_of_addsOne adds wrote numbered kept

/-! ### Two runs -/

/-- The first version of the first strategy. -/
def firstVersion : NewVersion where
  strategyId := 0
  retrievalRunId := 0
  planData := plainPlan
  promptConfig := .null
  origin := .generated 0
  brief := ⟨0, 0, 0, "sales", 0, "en", false, "none", none, none, none, none, none, none, []⟩

def steps (pid : Pid) (count : Nat) : List (Move Operation) := List.replicate count (.step pid 0)

/-- A call and its first steps. -/
def alone (pid : Pid) (call : Operation) (count : Nat) : List (Move Operation) :=
  .issue pid call :: steps pid count

/-- The first strategy is created and moved on until it is validated. -/
def validatingMoves : List (Move Operation) :=
  alone 0 (.createStrategy 7 8) 1 ++ alone 1 (.updateStrategyStatus 0 .ready) 4 ++
  alone 2 (.claimForGeneration 0 [.ready] .retrieving) 1 ++
  alone 3 (.updateStrategyStatus 0 .queued) 4 ++ alone 4 (.updateStrategyStatus 0 .generating) 4 ++
  alone 5 (.updateStrategyStatus 0 .validating) 4

/-- The condition as a check. -/
def passes (_ : Pid) (_ : Operation) (asked : Statement) (world : World) : Bool :=
  match asked with
  | .makeDraft id _ => (world.strategies.find id).any (·.status = .validating)
  | _ => true

theorem admits_of_passes (pid : Pid) (call : Operation) (asked : Statement) (world : World)
    (passed : passes pid call asked world = true) : discipline.admits pid call asked world := by
  rintro id versionId rfl
  obtain ⟨row, found, validating⟩ := (Option.any_eq_true _ _).mp passed
  exact ⟨row, found, of_decide_eq_true validating⟩

/-- The first append commits its version and the status together. -/
theorem first_append_is_all_or_nothing : ∃ machine after,
    Reaches (repository plainSurroundings) discipline .empty machine ∧
    (repository plainSurroundings).step machine (.step 6 0) = some after ∧
    machine.world.versions.rows.length = 0 ∧ after.world.versions.rows.length = 1 ∧
    AllOrNothing machine.world after.world := by
  have played : ((repository plainSurroundings).playChecked passes (.idle .empty)
      (validatingMoves ++ alone 6 (.appendStrategyVersion firstVersion) 5)).map (fun machine =>
        (machine.world.versions.rows.length, (Move.step 6 0).passes passes machine,
          ((repository plainSurroundings).step machine (.step 6 0)).map
            (·.world.versions.rows.length))) = some (0, true, some 1) := by
    decide +kernel
  obtain ⟨machine, moved, observed⟩ := Option.map_eq_some_iff.mp played
  obtain ⟨before, passed, steps⟩ := by simpa only [Prod.mk.injEq] using observed
  obtain ⟨after, stepped, one⟩ := Option.map_eq_some_iff.mp steps
  have reached : Reaches (repository plainSurroundings) discipline .empty machine :=
    Reaches.playChecked (fun _ => trivial) rfl admits_of_passes Reaches.idle moved
  have admitted : discipline.AdmitsMove machine (.step 6 0) :=
    Discipline.admits_of_passes (fun _ _ => trivial) rfl admits_of_passes passed
  exact ⟨machine, after, reached, stepped, before, one,
    append_is_all_or_nothing reached admitted stepped⟩

/-- An append has read that its strategy is validated, when another call makes the strategy fail:
the update matches no row, and the version is committed by itself. -/
theorem version_of_failed_strategy : ¬∀ around machine after move,
    Reaches (repository around) .free .empty machine →
    (repository around).step machine move = some after →
      AllOrNothing machine.world after.world := by
  intro commits
  have played : ((repository plainSurroundings).play (.idle .empty)
      (validatingMoves ++ alone 6 (.appendStrategyVersion firstVersion) 2 ++
        alone 7 (.updateStrategyStatus 0 .failed) 4 ++ steps 6 3)).map (fun machine =>
        (machine.world.versions.rows.map (·.strategyId),
          ((repository plainSurroundings).step machine (.step 6 0)).map fun after =>
            (after.world.versions.rows.map (·.strategyId),
              (after.world.strategies.find 0).map (·.status)))) =
      some ([], some ([0], some StrategyStatus.failed)) := by
    decide +kernel
  obtain ⟨machine, reached, observed⟩ := Reaches.of_play played
  obtain ⟨before, steps⟩ := Prod.mk.inj observed
  obtain ⟨after, stepped, observed⟩ := Option.map_eq_some_iff.mp steps
  obtain ⟨versions, isFailed⟩ := Prod.mk.inj observed
  rcases commits plainSurroundings machine after (.step 6 0) reached stepped with
    same | ⟨created, rows, -, row, found, isDraft, -⟩
  · rw [same, before] at versions
    cases versions
  · rw [rows, List.map_append, before] at versions
    have owner : created.strategyId = 0 := (List.cons.inj versions).1
    rw [owner] at found
    rw [found, Option.map_some, isDraft] at isFailed
    cases isFailed

end MarketMind.Strategy.Appending
