import MarketMind.Strategy.Lineage
import MarketMind.Transactions.Inside
import Mathlib.Data.Finset.Card

/-!
Owns the retry budget of one strategy along a run: which calls have taken the strategy out of its
failure, what each call has noted, and the condition under which the two agree.

Does not own what a retry starts.
-/

namespace MarketMind.Strategy.Retries

open MarketMind.Transactions
open MarketMind.Strategy.Lineage

/-! ### Tallies -/

/-- What a call has done so far: the retries that it has noted, and whether it has taken the
strategy out of its failure. -/
structure Tally where
  spent : Nat
  moved : Bool
deriving DecidableEq, Repr

def Tally.zero : Tally := ⟨0, false⟩

/-- The strategy was failed, and is not any more. -/
def leaves (id : Uuid) (before after : World) : Bool :=
  (before.strategies.find id).any (·.status = .failed) &&
    (after.strategies.find id).any (·.status ≠ .failed)

def retriesStrategy (id : Uuid) : Call → Bool
  | .retryGeneration other _ => other = id
  | _ => false

/-- The tallies after a move, which counts for a retry of the strategy. -/
def tallied (id : Uuid) (machine after : Machine strategy World Key Call) (move : Move Call)
    (tallies : Pid → Tally) : Pid → Tally :=
  match machine.threads move.pid with
  | none => tallies
  | some thread =>
      if retriesStrategy id thread.call then
        Function.update tallies move.pid
          ⟨(tallies move.pid).spent + (retries after.world id - retries machine.world id),
            (tallies move.pid).moved || leaves id machine.world after.world⟩
      else tallies

/-- A run under a discipline, with its tallies. -/
inductive Runs (around : Surroundings) (discipline : Discipline strategy World Call) (id : Uuid) :
    Machine strategy World Key Call → (Pid → Tally) → Prop
  | idle : Runs around discipline id (.idle .empty) fun _ => .zero
  | move {machine after : Machine strategy World Key Call} {tallies : Pid → Tally}
      (move : Move Call) : Runs around discipline id machine tallies →
      discipline.AdmitsMove machine move → (system around).step machine move = some after →
      Runs around discipline id after (tallied id machine after move tallies)

/-- At most `MAX_OWNER_RETRIES` calls have taken the strategy out of its failure, each of them has
noted one retry, and a call that was refused has noted none. -/
structure Exact (id : Uuid) (machine : Machine strategy World Key Call) (tallies : Pid → Tally) :
    Prop where
  bounded : ∀ pids : Finset Pid, (∀ pid ∈ pids, (tallies pid).moved = true) →
    pids.card ≤ maxOwnerRetries
  charged : ∀ pid, (tallies pid).moved = true → (tallies pid).spent = 1
  refused : ∀ pid thread error, machine.threads pid = some thread →
    retriesStrategy id thread.call = true → thread.rest = .done (.error error) →
    error ≠ .databaseFailure → (tallies pid).moved = false → (tallies pid).spent = 0

/-- The retry finds a version to note itself under, the budget is not used up when it does, and
the strategy is still failed when it is claimed. -/
def accepts (call : Call) (asked : Statement) (world : World) : Bool :=
  match call, asked with
  | .retryGeneration id _, .findLatestVersion _ =>
      (world.strategies.find id).isSome && (world.latestVersion id).isSome
  | .retryGeneration id _, .createDecision _ _ _ _ =>
      Decidable.decide (retries world id < maxOwnerRetries)
  | .retryGeneration id _, .claim _ [.failed] _ =>
      (world.strategies.find id).any (·.status = .failed)
  | _, _ => true

def discipline : Discipline strategy World Call where
  issues _ := True
  admits _ call asked world := accepts call asked world = true
  isolation := .readCommitted

/-! ### Where a retry stands -/

/-- A statement that a retry reads with. -/
def reads : Statement → Bool
  | .findStrategy _ | .findBrief _ | .findLatestEvent _ | .countRetries _ | .findActiveProfile _
  | .findLatestRun _ => true
  | _ => false

/-- A statement that writes neither versions nor decisions. -/
def spares (asked : Statement) : Bool :=
  reads asked ||
    match asked with
    | .findStatus _ | .findRun _ | .countEvents _ | .createEvent _ | .assertAllowed _ _ _
    | .claim _ _ _ | .updateStatus _ _ | .addJob _ | .retrieve _ => true
    | _ => false

inductive Stage
  | reading
  | found (versionId : Uuid)
  | noted
  | moved

def Stage.tally : Stage → Tally
  | reading | found _ => ⟨0, false⟩
  | noted => ⟨1, false⟩
  | moved => ⟨1, true⟩

/-- What is left of a retry: it reads, notes itself under the newest version, reads on, and
claims the strategy; while it has noted itself only, nothing but a failure of the database ends
it. -/
inductive Follows (id : Uuid) : Stage → Code Unit → Prop
  | done (outcome : Except StrategyError Unit) : Follows id .reading (.done outcome)
  | failed : Follows id .noted (.done (.error .databaseFailure))
  | read {asked : Statement} {next : Except StrategyError asked.Reply → Code Unit} :
      reads asked = true → (∀ reply, Follows id .reading (next reply)) →
      Follows id .reading (.statement asked next)
  | look {next : Except StrategyError (Option StrategyVersion) → Code Unit} :
      (∀ error, Follows id .reading (next (.error error))) →
      (∀ version, version.strategyId = id →
        Follows id (.found version.id) (next (.ok (some version)))) →
      Follows id .reading (.statement (.findLatestVersion id) next)
  | note {versionId ownerUserId : Uuid} {next : Except StrategyError Unit → Code Unit} :
      (∀ error, Follows id .reading (next (.error error))) → Follows id .noted (next (.ok ())) →
      Follows id (.found versionId)
        (.statement (.createDecision versionId ownerUserId .retry none) next)
  | readOn {asked : Statement} {next : Except StrategyError asked.Reply → Code Unit} :
      reads asked = true → Follows id .noted (next (.error .databaseFailure)) →
      (∀ reply, Follows id .noted (next (.ok reply))) → Follows id .noted (.statement asked next)
  | claim {next : Except StrategyError Bool → Code Unit} :
      Follows id .noted (next (.error .databaseFailure)) → Follows id .moved (next (.ok true)) →
      Follows id .noted (.statement (.claim id [.failed] .ready) next)
  | goOn {rest : Code Unit} : rest.Uses (fun asked => spares asked = true) →
      Follows id .moved rest

section Programs

variable {id ownerUserId : Uuid}

theorem follows_bind {α : Type} {program : Code α} {next : α → Code Unit}
    (asks : Store.Asks (fun asked => reads asked = true) program)
    (follows : ∀ value, Follows id .reading (next value)) :
    Follows id .reading (program >>= next) := by
  rw [Program.bind_eq]
  induction program with
  | done outcome =>
      cases outcome with
      | error error => exact .done _
      | ok value => exact follows value
  | statement asked rest inductionHypothesis =>
      exact .read asks.1 fun reply => inductionHypothesis reply (asks.2 reply)
  | start => exact asks.elim
  | commit => exact asks.elim
  | rollback => exact asks.elim

theorem asks_require {condition : Bool} {error : StrategyError} :
    Store.Asks (fun asked => reads asked = true) (require condition error) := by
  unfold require
  split
  · exact Store.asks_pure _
  · exact Store.asks_throw _

theorem asks_readOwned :
    Store.Asks (fun asked => reads asked = true) (getStrategyByIdAndOwner id ownerUserId) := by
  refine Store.asks_bind (Store.asks_bind (Store.asks_ask rfl) fun row => ?_) fun found => ?_
  · cases row with
    | none => exact Store.asks_pure _
    | some row => exact Store.asks_bind (Store.asks_ask rfl) fun _ => Store.asks_pure _
  · cases found with
    | none => exact Store.asks_pure _
    | some strategy =>
        dsimp only
        split
        · exact Store.asks_pure _
        · exact Store.asks_pure _

/-- A part of a retry that has claimed its strategy. -/
abbrev Spares {α : Type} (program : Code α) : Prop := program.Uses fun asked => spares asked = true

theorem spares_require {condition : Bool} {error : StrategyError} :
    Spares (require condition error) := by
  unfold require
  split
  · exact Program.uses_pure _
  · exact Program.uses_throw _

theorem spares_claim {idle : List StrategyStatus} {next : StrategyStatus} :
    Spares (claimForGeneration id idle next) := by
  unfold claimForGeneration
  split
  · exact Program.uses_ask rfl
  · exact Program.uses_pure _

theorem spares_status {next : StrategyStatus} : Spares (updateStrategyStatus id next) := by
  refine Program.uses_transaction (Program.uses_bind (Program.uses_ask rfl) fun status => ?_)
  cases status with
  | none => exact Program.uses_throw _
  | some current => exact Program.uses_bind spares_require fun _ => Program.uses_ask rfl

theorem spares_progress {stage messageKey : String} {status : ProgressStatus}
    {retryable : Option Bool} : Spares (recordProgress id stage status messageKey retryable) := by
  refine Program.uses_tryCatch (Program.uses_transaction ?_) fun _ => Program.uses_pure _
  exact Program.uses_bind (Program.uses_ask rfl) fun _ => Program.uses_ask rfl

theorem spares_retrieveAndQueue {brief : StrategyBrief} : Spares (retrieveAndQueue id brief) := by
  refine Program.uses_bind (Program.uses_ask rfl) fun reply => ?_
  rcases reply with error | (_ | retrievalRunId)
  · exact Program.uses_throw _
  · exact Program.uses_throw _
  · refine Program.uses_bind (Program.uses_ask rfl) fun _ => ?_
    refine Program.uses_bind spares_require fun _ => ?_
    refine Program.uses_bind spares_progress fun _ => ?_
    refine Program.uses_bind spares_status fun _ => ?_
    exact Program.uses_bind (Program.uses_ask rfl) fun _ => spares_progress

theorem spares_startRetrieval {row : StrategyRow} {brief : StrategyBrief} :
    Spares (startRetrieval id row brief) := by
  refine Program.uses_bind (Program.uses_ask rfl) fun latestProfile => ?_
  split
  · refine Program.uses_bind spares_progress fun _ => ?_
    refine Program.uses_tryCatch spares_retrieveAndQueue fun error => ?_
    refine Program.uses_bind spares_status fun _ => ?_
    exact Program.uses_bind spares_progress fun _ => Program.uses_throw _
  · refine Program.uses_bind spares_status fun _ => ?_
    exact Program.uses_bind spares_progress fun _ => Program.uses_throw _

theorem spares_startGeneration : Spares (startGeneration id ownerUserId) := by
  refine Program.uses_bind (Program.uses_of_asks (Protocol.asks_mono asks_readOwned ?_))
    fun found => ?_
  · exact fun asked isRead => Bool.or_eq_true_iff.mpr (.inl isRead)
  rcases found with _ | ⟨row, _ | brief⟩
  · exact Program.uses_throw _
  · exact Program.uses_throw _
  · refine Program.uses_bind (Program.uses_bind (Program.uses_ask rfl) fun reply => ?_) fun _ => ?_
    · rcases reply with error | ⟨⟩
      · exact Program.uses_throw _
      · exact Program.uses_pure _
    · refine Program.uses_bind spares_claim fun _ => ?_
      exact Program.uses_bind spares_require fun _ => spares_startRetrieval

theorem follows_resumeGeneration {retrievalRunId : Uuid} :
    Follows id .noted (resumeGeneration id retrievalRunId) := by
  refine .claim .failed (.goOn ?_)
  refine Program.uses_bind (Program.uses_pure true) fun _ => ?_
  refine Program.uses_bind spares_require fun _ => ?_
  refine Program.uses_bind spares_claim fun _ => ?_
  refine Program.uses_bind spares_require fun _ => ?_
  refine Program.uses_bind spares_status fun _ => ?_
  exact Program.uses_bind (Program.uses_ask rfl) fun _ => spares_progress

theorem follows_resume : Follows id .reading (resume id ownerUserId) := by
  refine .look (fun _ => .done _) fun version _ => ?_
  refine .note (fun _ => .done _) ?_
  refine .readOn rfl .failed fun latestRun => ?_
  dsimp only [Program.andThen]
  split
  · exact follows_resumeGeneration
  · refine .claim .failed (.goOn (Program.uses_bind (Program.uses_pure true) fun _ => ?_))
    exact Program.uses_bind spares_require fun _ => spares_startGeneration

theorem follows_retryGeneration : Follows id .reading (retryGeneration id ownerUserId) := by
  refine follows_bind asks_readOwned fun found => ?_
  cases found with
  | none => exact .done _
  | some strategy =>
  refine follows_bind asks_require fun _ => ?_
  refine follows_bind (Store.asks_ask rfl) fun latestProgress => ?_
  refine follows_bind asks_require fun _ => ?_
  refine follows_bind (Store.asks_ask rfl) fun retryCount => ?_
  refine follows_bind asks_require fun _ => ?_
  refine follows_bind (Store.asks_ask rfl) fun latestProfile => ?_
  split
  · exact follows_bind asks_require fun _ => follows_resume
  · exact .done _

end Programs

/-! ### One call -/

/-- What is written keeps versions and decisions. -/
def Sparing (writes : World → World) : Prop :=
  ∀ base, (writes base).versions = base.versions ∧ (writes base).decisions = base.decisions

variable {around : Surroundings} {id : Uuid} {pid : Pid} {choice : Nat} {world : World}

theorem write_of_reads {asked : Statement} {effect : Effect World Key asked.Reply}
    (isRead : reads asked = true)
    (executed : (system around).exec pid choice asked world = .ok effect) :
    effect.write = fun world => world := by
  cases asked with
  | findStrategy | findBrief | findLatestEvent | countRetries | findActiveProfile | findLatestRun =>
      cases executed
      rfl
  | _ => cases isRead

theorem sparing_of_spares {asked : Statement} {effect : Effect World Key asked.Reply}
    (spared : spares asked = true)
    (executed : (system around).exec pid choice asked world = .ok effect) :
    Sparing effect.write := by
  rcases Bool.or_eq_true_iff.mp spared with isRead | spared
  · rw [write_of_reads isRead executed]
    exact fun _ => ⟨rfl, rfl⟩
  cases asked with
  | findStatus | findRun | countEvents | assertAllowed | addJob =>
      cases executed
      exact fun _ => ⟨rfl, rfl⟩
  | createEvent event =>
      obtain rfl := createEvent_cases executed
      exact fun _ => ⟨rfl, rfl⟩
  | claim id idle next =>
      rcases updateWhen_cases executed with ⟨row, -, -, rfl⟩ | rfl <;> exact fun _ => ⟨rfl, rfl⟩
  | updateStatus id next =>
      obtain ⟨row, -, rfl⟩ := updateStatus_cases executed
      exact fun _ => ⟨rfl, rfl⟩
  | retrieve brief =>
      rcases retrieve_cases executed with ⟨reply, rfl⟩ | ⟨reply, run, rfl⟩ <;>
        exact fun _ => ⟨rfl, rfl⟩
  | _ => cases spared

theorem retries_congr {before after : World} (versions : after.versions = before.versions)
    (decisions : after.decisions = before.decisions) : retries after id = retries before id := by
  unfold retries
  rw [versions, decisions]

/-- The version belongs to the strategy, if it is still there. -/
def Belongs (versionId id : Uuid) (world : World) : Prop :=
  Used id world ∧ ((∃ row, world.versions.find versionId = some row ∧ row.strategyId = id) ∨
    versionId ∈ world.retiredVersions)

theorem belongs_of_keeps {versionId : Uuid} {before after : World}
    (belongs : Belongs versionId id before) (keeps : Keeps before after) :
    Belongs versionId id after := by
  obtain ⟨used, ⟨row, found, owner⟩ | retired⟩ := belongs
  · refine ⟨keeps.used id used, (keeps.versions versionId row found).imp_left fun stays => ?_⟩
    exact ⟨row, stays, owner⟩
  · exact ⟨keeps.used id used, .inr (keeps.retired versionId retired)⟩

/-- A retry of the strategy stands there. -/
structure Placed (id : Uuid) (world : World) (thread : Thread strategy World Key Call)
    (stage : Stage) : Prop where
  follows : Follows id stage thread.rest
  outside : stage ≠ .moved → thread.session = none
  spares : ∀ opened, thread.session = some opened → Sparing opened.pending
  known : ∀ versionId, stage = .found versionId → Belongs versionId id world

/-- What a step of a retry changes: nothing that counts, or it notes itself, or it takes the
strategy out of its failure. -/
inductive Change (id : Uuid) (before after : World) : Stage → Stage → Prop
  | still {stage later : Stage} : later.tally = stage.tally → retries after id = retries before id →
      (stage ≠ .moved → leaves id before after = false) → Change id before after stage later
  | note {versionId : Uuid} : Used id after → retries before id < maxOwnerRetries →
      retries after id = retries before id + 1 → leaves id before after = false →
      Change id before after (.found versionId) .noted
  | leave : (before.strategies.find id).isSome = true → retries after id = retries before id →
      leaves id before after = true → Change id before after .noted .moved

theorem leaves_same (id : Uuid) (world : World) : leaves id world world = false := by
  unfold leaves
  cases world.strategies.find id with
  | none => rfl
  | some row => cases isFailed : Decidable.decide (row.status = .failed) <;> simp_all

theorem leaves_congr {before after : World} (same : after.strategies = before.strategies) :
    leaves id before after = false := by
  have still := leaves_same id before
  unfold leaves at still ⊢
  rw [same]
  exact still

variable {machine after : Machine strategy World Key Call} {move : Move Call}
  {thread : Thread strategy World Key Call} {stage : Stage}

/-- The call goes on. -/
def GoesOn (id : Uuid) (machine after : Machine strategy World Key Call) (pid : Pid) (call : Call)
    (stage : Stage) : Prop :=
  ∃ rest later, after.threads pid = some rest ∧ rest.call = call ∧
    Placed id after.world rest later ∧ Change id machine.world after.world stage later

theorem goesOn_set {world : World} {holder : Key → Option Pid} (later : Stage)
    {rest : Thread strategy World Key Call}
    (placed : Placed id world rest later) (change : Change id machine.world world stage later) :
    GoesOn id machine
      (({ machine with world, holder } : Machine strategy World Key Call).set pid rest) pid
      rest.call stage :=
  ⟨rest, later, Function.update_self _ _ _, rfl, placed, change⟩

/-- Outside transactions a retry that has not moved the strategy waits, or its call is over. -/
theorem placed_outside {rest : Code Unit} {call : Call} (follows : Follows id stage rest)
    (known : ∀ versionId, stage = .found versionId → Belongs versionId id world) :
    Placed id world ⟨call, none, rest⟩ stage :=
  ⟨follows, fun _ => rfl, nofun, known⟩

/-- A failure of the database leaves the tally of a retry as it is. -/
theorem follows_fault {asked : Statement} {next : Except StrategyError asked.Reply → Code Unit}
    (follows : Follows id stage (.statement asked next)) (early : stage ≠ .moved) :
    ∃ later, later.tally = stage.tally ∧ (∀ versionId, later ≠ .found versionId) ∧
      Follows id later (next (.error .databaseFailure)) := by
  cases follows with
  | read isRead rest => exact ⟨.reading, rfl, nofun, rest _⟩
  | look onError rest => exact ⟨.reading, rfl, nofun, onError _⟩
  | note onError rest => exact ⟨.reading, rfl, nofun, onError _⟩
  | readOn isRead onError rest => exact ⟨.noted, rfl, nofun, onError⟩
  | claim onError rest => exact ⟨.noted, rfl, nofun, onError⟩
  | goOn uses => exact absurd rfl early

/-- So does a crash. -/
theorem follows_crash (id : Uuid) (early : stage ≠ .moved) :
    ∃ later : Stage, later.tally = stage.tally ∧ (∀ versionId, later ≠ .found versionId) ∧
      Follows id later (.done (.error .databaseFailure)) := by
  cases stage with
  | reading => exact ⟨.reading, rfl, nofun, .done _⟩
  | found versionId => exact ⟨.reading, rfl, nofun, .done _⟩
  | noted => exact ⟨.noted, rfl, nofun, .failed⟩
  | moved => exact absurd rfl early

theorem retries_addDecision {row : StrategyDecision} {version : StrategyVersion}
    (isRetry : row.action = .retry)
    (found : world.versions.find row.strategyVersionId = some version)
    (owner : version.strategyId = id) :
    retries (world.addDecision row) id = retries world id + 1 := by
  show ((world.decisions ++ [row]).filter _).length = _
  rw [List.filter_append, List.length_append]
  congr 1
  show ([row].filter fun row => Decidable.decide (row.action = .retry ∧
    (world.versions.find row.strategyVersionId).any (·.strategyId = id))).length = 1
  rw [List.filter_singleton, found]
  simp [isRetry, owner]

/-- The call goes on in the world as it is. -/
theorem goesOn_still {holder : Key → Option Pid} (later : Stage) {call : Call} {rest : Code Unit}
    (same : later.tally = stage.tally) (unfound : ∀ versionId, later ≠ .found versionId)
    (follows : Follows id later rest) :
    GoesOn id machine (({ machine with holder } : Machine strategy World Key Call).set pid
      ⟨call, none, rest⟩) pid call stage :=
  goesOn_set later
    (placed_outside follows fun versionId isFound => absurd isFound (unfound versionId))
    (.still same rfl fun _ => leaves_same _ _)

/-- A statement of a retry that has not moved the strategy yet. -/
theorem goesOn_statement {ownerUserId : Uuid} {asked : Statement}
    {next : Except StrategyError asked.Reply → Code Unit}
    (follows : Follows id stage (.statement asked next)) (early : stage ≠ .moved)
    (known : ∀ versionId, stage = .found versionId → Belongs versionId id machine.world)
    (sound : Sound machine.world)
    (accepted : accepts (.retryGeneration id ownerUserId) asked machine.world = true)
    (stepped : (system around).stepThread machine pid choice
      ⟨.retryGeneration id ownerUserId, none, .statement asked next⟩ = some after) :
    GoesOn id machine after pid (.retryGeneration id ownerUserId) stage := by
  simp only [System.stepThread, isDoomed, view, Bool.false_eq_true, if_false] at stepped
  cases follows with
  | read isRead rest =>
      split at stepped
      · cases stepped
        exact goesOn_still .reading rfl (by simp) (rest _)
      · next effect executed =>
        split at stepped
        · rw [write_of_reads isRead executed] at stepped
          cases stepped
          exact goesOn_still .reading rfl (by simp) (rest _)
        · cases stepped
  | look onError rest =>
      split at stepped
      · cases stepped
        exact goesOn_still .reading rfl (by simp) (onError _)
      · next effect executed =>
        split at stepped
        · obtain ⟨there, some⟩ := Bool.and_eq_true_iff.mp accepted
          obtain ⟨version, newest⟩ := Option.isSome_iff_exists.mp some
          obtain ⟨member, owner⟩ := List.mem_filter.mp (List.argmax_mem newest)
          have owner : version.strategyId = id := of_decide_eq_true owner
          have answered : reading (machine.world.latestVersion id) = .ok effect := executed
          rw [newest] at answered
          cases answered
          cases stepped
          refine goesOn_set (.found version.id) (placed_outside (rest version owner) ?_)
            (.still rfl rfl fun _ => leaves_same _ _)
          rintro _ ⟨⟩
          exact ⟨.inl there, .inl ⟨version, Table.find_of_mem member, owner⟩⟩
        · cases stepped
  | note onError rest =>
      split at stepped
      · cases stepped
        exact goesOn_still .reading rfl (by simp) (onError _)
      · next effect executed =>
        split at stepped
        · obtain ⟨present, rfl⟩ := createDecision_cases executed
          cases stepped
          obtain ⟨version, there⟩ := Option.isSome_iff_exists.mp present
          obtain ⟨used, ⟨row, found, owner⟩ | retired⟩ := known _ rfl
          · refine goesOn_set .noted (placed_outside rest (by simp)) ?_
            exact .note used (of_decide_eq_true accepted) (retries_addDecision rfl found owner)
              (leaves_congr rfl)
          · rw [sound.versions _ retired] at there
            cases there
        · cases stepped
  | readOn isRead onError rest =>
      split at stepped
      · next error executed =>
        cases asked with
        | findStrategy | findBrief | findLatestEvent | countRetries | findActiveProfile
        | findLatestRun => cases executed
        | _ => cases isRead
      · next effect executed =>
        split at stepped
        · rw [write_of_reads isRead executed] at stepped
          cases stepped
          exact goesOn_still .noted rfl (by simp) (rest _)
        · cases stepped
  | claim onError rest =>
      obtain ⟨row, found, isFailed⟩ := (Option.any_eq_true _ _).mp accepted
      have isFailed : row.status = .failed := of_decide_eq_true isFailed
      split at stepped
      · next error executed =>
        simp only [system, store, exec, updateWhen] at executed
        split at executed <;> cases executed
      · next effect executed =>
        split at stepped
        · have executed : updateWhen machine.world id [.failed] (World.move · id .ready) =
            .ok effect := executed
          rw [updateWhen, if_pos (by simp [found, isFailed])] at executed
          cases executed
          cases stepped
          refine goesOn_set .moved (placed_outside rest (by simp)) (.leave ?_ ?_ ?_)
          · rw [found]
            rfl
          · exact retries_congr rfl rfl
          · simp [leaves, find_move, found, isFailed]
        · cases stepped
  | goOn uses => exact absurd rfl early

/-- A retry that has moved the strategy goes on in a world with the same versions and decisions. -/
theorem goesOn_moved {world : World} {holder : Key → Option Pid} {call : Call}
    {session : Option (Session World Key)} {rest : Code Unit} (uses : Spares rest)
    (spares : ∀ opened, session = some opened → Sparing opened.pending)
    (versions : world.versions = machine.world.versions)
    (decisions : world.decisions = machine.world.decisions) :
    GoesOn id machine (({ machine with world, holder } : Machine strategy World Key Call).set pid
      ⟨call, session, rest⟩) pid call .moved :=
  goesOn_set .moved ⟨.goOn uses, fun early => absurd rfl early, spares, nofun⟩
    (.still rfl (retries_congr versions decisions) fun early => absurd rfl early)

theorem spares_doom {session : Option (Session World Key)}
    (spares : ∀ opened, session = some opened → Sparing opened.pending) :
    ∀ opened, doom session = some opened → Sparing opened.pending := by
  rintro _ isDoomed
  obtain ⟨opened, isOpen, rfl⟩ := Option.map_eq_some_iff.mp isDoomed
  exact spares opened isOpen

theorem goesOn_afterwards {call : Call} {session : Option (Session World Key)} {rest : Code Unit}
    (uses : Spares rest) (spares : ∀ opened, session = some opened → Sparing opened.pending)
    (stepped : (system around).stepThread machine pid choice ⟨call, session, rest⟩ = some after) :
    GoesOn id machine after pid call .moved := by
  cases rest with
  | done outcome => cases stepped
  | statement asked next =>
      obtain ⟨spared, uses⟩ := uses
      simp only [System.stepThread] at stepped
      split at stepped
      · cases stepped
        exact goesOn_moved (uses _) spares rfl rfl
      · split at stepped
        · cases stepped
          exact goesOn_moved (uses _) (spares_doom spares) rfl rfl
        · next effect executed =>
          have sparing := sparing_of_spares spared executed
          split at stepped
          · cases session with
            | none =>
                cases stepped
                exact goesOn_moved (uses _) spares (sparing _).1 (sparing _).2
            | some opened =>
                cases stepped
                refine goesOn_moved (uses _) ?_ rfl rfl
                rintro _ ⟨⟩ base
                have before := spares opened rfl base
                have after := sparing (opened.pending base)
                exact ⟨after.1.trans before.1, after.2.trans before.2⟩
          · cases stepped
  | start next =>
      cases session with
      | some opened => cases stepped
      | none =>
          cases stepped
          refine goesOn_moved uses ?_ rfl rfl
          rintro _ ⟨⟩ base
          exact ⟨rfl, rfl⟩
  | commit next =>
      cases session with
      | none => cases stepped
      | some opened =>
          cases stepped
          refine goesOn_moved uses (by simp) ?_ ?_ <;> dsimp only <;> split
          · rfl
          · exact (spares opened rfl _).1
          · rfl
          · exact (spares opened rfl _).2
  | rollback next =>
      cases session with
      | none => cases stepped
      | some opened =>
          cases stepped
          exact goesOn_moved uses (by simp) rfl rfl

/-- A retry of the strategy goes on whenever it moves. -/
theorem goesOn_step (inFlight : machine.threads move.pid = some thread)
    (own : retriesStrategy id thread.call = true) (placed : Placed id machine.world thread stage)
    (sound : Sound machine.world) (admitted : discipline.AdmitsMove machine move)
    (stepped : (system around).step machine move = some after) :
    GoesOn id machine after move.pid thread.call stage := by
  obtain ⟨call, session, rest⟩ := thread
  obtain ⟨follows, outside, spares, known⟩ := placed
  have early_or : stage ≠ .moved ∨ stage = .moved ∧ Spares rest := by
    cases follows with
    | goOn uses => exact .inr ⟨rfl, uses⟩
    | _ => exact .inl (by simp)
  cases move with
  | issue pid other =>
      simp only [System.step, show machine.threads pid = _ from inFlight] at stepped
      cases stepped
  | step pid choice =>
      have inFlight : machine.threads pid = _ := inFlight
      simp only [System.step, inFlight] at stepped
      rcases early_or with early | ⟨rfl, uses⟩
      · obtain rfl : session = none := outside early
        cases rest with
        | done outcome => cases stepped
        | statement asked next =>
            obtain ⟨ownerUserId, rfl⟩ : ∃ ownerUserId, call = .retryGeneration id ownerUserId := by
              cases call with
              | retryGeneration other ownerUserId =>
                  obtain rfl : other = id := of_decide_eq_true own
                  exact ⟨ownerUserId, rfl⟩
              | _ => cases own
            exact goesOn_statement follows early known sound
              (admitted.2 _ inFlight asked next rfl) stepped
        | _ =>
            cases follows
            exact absurd rfl early
      · exact goesOn_afterwards uses spares stepped
  | fail pid =>
      have inFlight : machine.threads pid = _ := inFlight
      cases rest with
      | statement asked next =>
          simp only [System.step, inFlight] at stepped
          cases stepped
          rcases early_or with early | ⟨rfl, uses⟩
          · obtain rfl : session = none := outside early
            obtain ⟨later, same, unfound, follows⟩ := follows_fault follows early
            exact goesOn_still later same unfound follows
          · exact goesOn_moved (uses.2 _) (spares_doom spares) rfl rfl
      | _ =>
          simp only [System.step, inFlight] at stepped
          cases stepped
  | crash pid =>
      have inFlight : machine.threads pid = _ := inFlight
      simp only [System.step, inFlight] at stepped
      split at stepped
      · cases stepped
      · cases stepped
      · next thread _ isThread =>
        cases isThread
        cases stepped
        rcases early_or with early | ⟨rfl, uses⟩
        · obtain ⟨later, same, unfound, follows⟩ := follows_crash id early
          exact goesOn_still later same unfound follows
        · exact goesOn_moved (Program.uses_throw _) (by simp) rfl rfl

/-! ### All calls -/

/-- Every retry of the strategy stands where its tally tells, and what is spent is counted while
the strategy is there. -/
structure Kept (id : Uuid) (machine : Machine strategy World Key Call) (tallies : Pid → Tally) :
    Prop where
  absent : ∀ pid, machine.threads pid = none → tallies pid = .zero
  others : ∀ pid thread, machine.threads pid = some thread →
    retriesStrategy id thread.call = false → tallies pid = .zero
  placed : ∀ pid thread, machine.threads pid = some thread →
    retriesStrategy id thread.call = true →
      ∃ stage, Placed id machine.world thread stage ∧ tallies pid = stage.tally
  used : ∀ pid, 0 < (tallies pid).spent → Used id machine.world
  counted : (machine.world.strategies.find id).isSome = true →
    ∀ pids : Finset Pid, (∀ pid ∈ pids, 0 < (tallies pid).spent) →
      pids.card ≤ retries machine.world id ∧ pids.card ≤ maxOwnerRetries
  bounded : ∀ pids : Finset Pid, (∀ pid ∈ pids, (tallies pid).moved = true) →
    pids.card ≤ maxOwnerRetries

variable {tallies : Pid → Tally}

/-- Whoever has moved the strategy has noted one retry. -/
theorem Kept.spent_of_moved (kept : Kept id machine tallies) {pid : Pid}
    (moved : (tallies pid).moved = true) : (tallies pid).spent = 1 := by
  cases inFlight : machine.threads pid with
  | none =>
      rw [kept.absent pid inFlight] at moved
      cases moved
  | some thread =>
      cases own : retriesStrategy id thread.call with
      | false =>
          rw [kept.others pid thread inFlight own] at moved
          cases moved
      | true =>
          obtain ⟨stage, -, same⟩ := kept.placed pid thread inFlight own
          rw [same] at moved ⊢
          cases stage <;> first | rfl | cases moved

/-- What is spent is counted in the world before a step, if the strategy is there after it. -/
theorem Kept.counted_before (kept : Kept id machine tallies) {later : World}
    (keeps : Keeps machine.world later) (there : (later.strategies.find id).isSome = true)
    {pids : Finset Pid} (spent : ∀ pid ∈ pids, 0 < (tallies pid).spent) :
    pids.card ≤ retries machine.world id ∧ pids.card ≤ maxOwnerRetries := by
  rcases pids.eq_empty_or_nonempty with rfl | ⟨pid, member⟩
  · exact ⟨Nat.zero_le _, Nat.zero_le _⟩
  · exact kept.counted (keeps.gone id (kept.used pid (spent pid member)) there) pids spent

theorem Kept.counted_after (kept : Kept id machine tallies) {later : World}
    (keeps : Keeps machine.world later) (there : (later.strategies.find id).isSome = true)
    {pids : Finset Pid} (spent : ∀ pid ∈ pids, 0 < (tallies pid).spent) :
    pids.card ≤ retries later id ∧ pids.card ≤ maxOwnerRetries := by
  obtain ⟨counted, bounded⟩ := kept.counted_before keeps there spent
  refine ⟨?_, bounded⟩
  rcases pids.eq_empty_or_nonempty with rfl | ⟨pid, member⟩
  · exact Nat.zero_le _
  · exact counted.trans (keeps.counted id (kept.used pid (spent pid member)) there)

/-- A step, seen from all calls: the others stand where they stood. -/
theorem Kept.of_step (kept : Kept id machine tallies) (keeps : Keeps machine.world after.world)
    (stepped : (system around).step machine move = some after) {later : Pid → Tally}
    (elsewhere : ∀ pid, pid ≠ move.pid → later pid = tallies pid)
    (mover : ∃ rest, after.threads move.pid = some rest ∧
      if retriesStrategy id rest.call then
        ∃ stage, Placed id after.world rest stage ∧ later move.pid = stage.tally
      else later move.pid = .zero)
    (used : 0 < (later move.pid).spent → Used id after.world)
    (counted : (after.world.strategies.find id).isSome = true →
      ∀ pids : Finset Pid, (∀ pid ∈ pids, 0 < (later pid).spent) →
        pids.card ≤ retries after.world id ∧ pids.card ≤ maxOwnerRetries)
    (bounded : ∀ pids : Finset Pid, (∀ pid ∈ pids, (later pid).moved = true) →
      pids.card ≤ maxOwnerRetries) : Kept id after later := by
  have stays : ∀ pid, pid ≠ move.pid → after.threads pid = machine.threads pid :=
    fun pid apart => System.threads_of_step stepped apart
  obtain ⟨own, isOwn, mover⟩ := mover
  refine ⟨fun pid absent => ?_, fun pid rest inFlight other => ?_, fun pid rest inFlight mine => ?_,
    fun pid spent => ?_, counted, bounded⟩
  · have apart : pid ≠ move.pid := by
      rintro rfl
      rw [isOwn] at absent
      cases absent
    rw [elsewhere pid apart]
    exact kept.absent pid (stays pid apart ▸ absent)
  · by_cases same : pid = move.pid
    · subst same
      cases isOwn.symm.trans inFlight
      rwa [other] at mover
    · rw [elsewhere pid same]
      exact kept.others pid rest (stays pid same ▸ inFlight) other
  · by_cases same : pid = move.pid
    · subst same
      cases isOwn.symm.trans inFlight
      rwa [mine] at mover
    · obtain ⟨stage, ⟨follows, outside, spares, known⟩, tally⟩ :=
        kept.placed pid rest (stays pid same ▸ inFlight) mine
      exact ⟨stage, ⟨follows, outside, spares, fun versionId isFound =>
        belongs_of_keeps (known versionId isFound) keeps⟩, (elsewhere pid same).trans tally⟩
  · by_cases same : pid = move.pid
    · exact used (same ▸ spent)
    · exact keeps.used id (kept.used pid (elsewhere pid same ▸ spent))

/-- A step that leaves every tally as it is. -/
theorem Kept.same_tallies (kept : Kept id machine tallies) (keeps : Keeps machine.world after.world)
    (stepped : (system around).step machine move = some after)
    (mover : ∃ rest, after.threads move.pid = some rest ∧
      if retriesStrategy id rest.call then
        ∃ stage, Placed id after.world rest stage ∧ tallies move.pid = stage.tally
      else tallies move.pid = .zero) : Kept id after tallies :=
  kept.of_step keeps stepped (fun _ _ => rfl) mover
    (fun spent => keeps.used id (kept.used _ spent)) (fun there _ => kept.counted_after keeps there)
    kept.bounded

/-- What a tally becomes by a change is what its stage tells. -/
theorem tally_of_change {before after : World} {later : Stage}
    (change : Change id before after stage later) :
    (⟨stage.tally.spent + (retries after id - retries before id),
      stage.tally.moved || leaves id before after⟩ : Tally) = later.tally := by
  cases change with
  | still same counted still =>
      rw [counted, Nat.sub_self, Nat.add_zero, same]
      cases stage with
      | moved => rfl
      | _ => rw [still nofun, Bool.or_false]
  | note used below counted still =>
      rw [counted, still, Nat.add_sub_cancel_left]
      rfl
  | leave there counted leaves =>
      rw [counted, leaves, Nat.sub_self]
      rfl

/-- A retry that has noted itself is counted, and not more often than is allowed. -/
theorem Kept.counted_update (kept : Kept id machine tallies) {world : World} {later : Stage}
    (keeps : Keeps machine.world world) (isTally : tallies pid = stage.tally)
    (change : Change id machine.world world stage later)
    (there : (world.strategies.find id).isSome = true) {pids : Finset Pid}
    (spent : ∀ other ∈ pids, 0 < (Function.update tallies pid later.tally other).spent) :
    pids.card ≤ retries world id ∧ pids.card ≤ maxOwnerRetries := by
  have before : ∀ other ∈ pids, other ≠ pid → 0 < (tallies other).spent := by
    intro other member apart
    have positive := spent other member
    rwa [Function.update_of_ne apart] at positive
  cases change with
  | still same counted still =>
      rw [same, ← isTally, Function.update_eq_self] at spent
      exact kept.counted_after keeps there spent
  | note used below counted still =>
      have others : ∀ other ∈ pids.erase pid, 0 < (tallies other).spent :=
        fun other member =>
          before other (Finset.mem_of_mem_erase member) (Finset.ne_of_mem_erase member)
      obtain ⟨bounded, -⟩ := kept.counted_before keeps there others
      have pred := Finset.pred_card_le_card_erase (s := pids) (a := pid)
      omega
  | leave _ counted leaves =>
      refine kept.counted_after keeps there fun other member => ?_
      by_cases same : other = pid
      · rw [same, isTally]
        exact Nat.one_pos
      · exact before other member same

/-- Whoever moves the strategy has noted itself, so that no more calls do than are counted. -/
theorem Kept.bounded_update (kept : Kept id machine tallies) {world : World} {later : Stage}
    (isTally : tallies pid = stage.tally) (change : Change id machine.world world stage later)
    {pids : Finset Pid}
    (moved : ∀ other ∈ pids, (Function.update tallies pid later.tally other).moved = true) :
    pids.card ≤ maxOwnerRetries := by
  have before : ∀ other ∈ pids, other ≠ pid → (tallies other).moved = true := by
    intro other member apart
    have has := moved other member
    rwa [Function.update_of_ne apart] at has
  cases change with
  | still same counted still =>
      rw [same, ← isTally, Function.update_eq_self] at moved
      exact kept.bounded pids moved
  | note used below counted still =>
      refine kept.bounded pids fun other member => before other member ?_
      rintro rfl
      have has := moved other member
      rw [Function.update_self] at has
      cases has
  | leave there counted leaves =>
      refine (kept.counted there pids fun other member => ?_).2
      by_cases same : other = pid
      · rw [same, isTally]
        exact Nat.one_pos
      · rw [kept.spent_of_moved (before other member same)]
        exact Nat.one_pos

theorem Kept.step (reached : Reaches (system around) .free .empty machine)
    (kept : Kept id machine tallies) (admitted : discipline.AdmitsMove machine move)
    (stepped : (system around).step machine move = some after) :
    Kept id after (tallied id machine after move tallies) := by
  have keeps := keeps_of_step reached stepped
  unfold tallied
  cases inFlight : machine.threads move.pid with
  | none =>
      refine kept.same_tallies keeps stepped ?_
      have zero := kept.absent _ inFlight
      cases move with
      | issue pid call =>
          have inFlight : machine.threads pid = none := inFlight
          simp only [System.step, inFlight] at stepped
          split at stepped
          · cases stepped
            refine ⟨_, Function.update_self _ _ _, ?_⟩
            split
            · next own =>
              cases call with
              | retryGeneration other ownerUserId =>
                  obtain rfl : other = id := of_decide_eq_true own
                  exact ⟨.reading, placed_outside follows_retryGeneration (by simp), zero⟩
              | _ => cases own
            · exact zero
          · cases stepped
      | _ =>
          simp only [Move.pid] at inFlight
          simp only [System.step, inFlight] at stepped
          cases stepped
  | some thread =>
      dsimp only
      cases own : retriesStrategy id thread.call with
      | false =>
          obtain ⟨rest, isRest, sameCall⟩ := System.call_of_step inFlight stepped
          refine kept.same_tallies keeps stepped ⟨rest, isRest, ?_⟩
          rw [sameCall, own]
          exact kept.others _ thread inFlight own
      | true =>
          rw [if_pos rfl]
          obtain ⟨stage, placed, isTally⟩ := kept.placed _ thread inFlight own
          obtain ⟨rest, later, isRest, sameCall, placedLater, change⟩ :=
            goesOn_step inFlight own placed (sound_of_reaches reached) admitted stepped
          rw [isTally, tally_of_change change]
          refine kept.of_step keeps stepped (fun pid apart => Function.update_of_ne apart _ _)
            ⟨rest, isRest, ?_⟩ (fun spent => ?_)
            (fun there _ => kept.counted_update keeps isTally change there)
            fun _ => kept.bounded_update isTally change
          · rw [sameCall, own]
            exact ⟨later, placedLater, Function.update_self _ _ _⟩
          · rw [Function.update_self] at spent
            cases change with
            | still same counted still =>
                rw [same, ← isTally] at spent
                exact keeps.used id (kept.used _ spent)
            | note used below counted still => exact used
            | leave there counted leaves => exact keeps.used id (.inl there)

theorem Runs.reaches {discipline : Discipline strategy World Call}
    (ran : Runs around discipline id machine tallies) :
    Reaches (system around) discipline .empty machine := by
  induction ran with
  | idle => exact .idle
  | move move _ admitted stepped inductionHypothesis =>
      exact inductionHypothesis.move move admitted stepped

theorem kept_of_runs (ran : Runs around discipline id machine tallies) :
    Kept id machine tallies := by
  induction ran with
  | idle =>
      refine ⟨fun _ _ => rfl, fun _ _ inFlight => absurd inFlight.symm (Option.some_ne_none _),
        fun _ _ inFlight => absurd inFlight.symm (Option.some_ne_none _),
        fun pid spent => absurd spent (Nat.lt_irrefl 0),
        fun there => absurd there (by simp [Machine.idle, World.empty]), fun pids moved => ?_⟩
      cases pids.eq_empty_or_nonempty with
      | inl empty =>
          rw [empty]
          exact Nat.zero_le _
      | inr nonempty =>
          obtain ⟨pid, member⟩ := nonempty
          cases moved pid member
  | move move ran admitted stepped inductionHypothesis =>
      exact inductionHypothesis.step ran.reaches.free admitted stepped

/-- The machine and the tallies after a list of moves that all meet the condition. -/
def playTallied (around : Surroundings) (id : Uuid)
    (check : Pid → Call → Statement → World → Bool)
    (start : Machine strategy World Key Call × (Pid → Tally)) (moves : List (Move Call)) :
    Option (Machine strategy World Key Call × (Pid → Tally)) :=
  moves.foldlM (fun (machine, tallies) move =>
    if @Move.passes strategy _ _ _ check machine move then
      ((system around).step machine move).map fun after =>
        (after, tallied id machine after move tallies)
    else none) start

theorem Runs.play {discipline : Discipline strategy World Call}
    {check : Pid → Call → Statement → World → Bool} (anyCall : ∀ call, discipline.issues call)
    (overlapping : discipline.isolation = .readCommitted)
    (sound : ∀ pid call asked world, check pid call asked world = true →
      discipline.admits pid call asked world)
    {later : Pid → Tally} {moves : List (Move Call)}
    (ran : Runs around discipline id machine tallies)
    (played : playTallied around id check (machine, tallies) moves = some (after, later)) :
    Runs around discipline id after later := by
  induction moves generalizing machine tallies with
  | nil =>
      cases played
      exact ran
  | cons move rest inductionHypothesis =>
      simp only [playTallied, List.foldlM_cons, Option.bind_eq_bind,
        Option.bind_eq_some_iff] at played
      obtain ⟨between, stepped, played⟩ := played
      split at stepped
      · next passes =>
        obtain ⟨reached, isStep, rfl⟩ := Option.map_eq_some_iff.mp stepped
        refine inductionHypothesis (ran.move move ?_ isStep) played
        exact Discipline.admits_of_passes (fun call _ => anyCall call) overlapping sound passes
      · cases stepped

/-- The call takes steps while the AI service is down. -/
def stepsDown (pid : Pid) (count : Nat) : List (Move Call) := List.replicate count (.step pid 1)

/-- The revision of a first draft fails, and the owner retries it. -/
def retriedMoves : List (Move Call) :=
  draftedMoves ++ alone 6 (.handleDecision 0 8 ⟨0, .revisionRequested, some "shorter"⟩ 5) 14 ++
  alone 7 (.turnJob 1 .active) 1 ++ [.issue 8 (.process (.revise 0 0 (some "shorter")))] ++
  stepsDown 8 23 ++ alone 9 (.retryGeneration 0 8) 19

/-- The first retrieval fails, and so does each of four retries. -/
def unversionedMoves : List (Move Call) :=
  briefedMoves ++ [.issue 3 (.startGeneration 0 8)] ++ stepsDown 3 18 ++
  [4, 5, 6, 7].flatMap fun pid => .issue pid (.retryGeneration 0 8) :: stepsDown pid 26

end MarketMind.Strategy.Retries
