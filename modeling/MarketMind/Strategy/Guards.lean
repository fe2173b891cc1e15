import MarketMind.Strategy.Processor
import MarketMind.Transactions.Triples

/-!
Owns what the repository's transactions guarantee when they interleave: for any protocol, the
one change that each of them commits, and what its reads and locks tell of the world in which
that change lands.

Does not own a particular invariant.
-/

namespace MarketMind.Strategy

open MarketMind.Transactions
open MarketMind.Transactions.Protocol

/-- Calls of any kind over the tables of the strategies. -/
def serving (around : Surroundings) {Request : Type} (program : Request → Code Unit)
    (enabled : Request → World → Bool) : System strategy World Key Request where
  toStore := store around
  program := program
  enabled := enabled

variable {around : Surroundings} {Request : Type} {program : Request → Code Unit}
  {enabled : Request → World → Bool} {protocol : Protocol (serving around program enabled)}
  {pid : Pid} {call : Request} {α β : Type}

variable (call) in
/-- Nothing is owed for an error inside a transaction, which rolls back. -/
theorem closing_harmless {post : α → World → Prop} :
    Harmless (protocol.closePost pid call fun outcome session after =>
      session = none ∧ protocol.invariant after ∧ returning post outcome after) :=
  fun _ _ _ _ _ holds => ⟨rfl, holds, trivial⟩

theorem wp_require {condition : Bool} {error : StrategyError}
    {Q : Except StrategyError Unit → Option (Session World Key) → World → Prop}
    {session : Option (Session World Key)} {world : World}
    (passes : condition = true → Q (.ok ()) session world) (harmless : @Harmless strategy World Key Unit Q) :
    protocol.wp pid call (require condition error) Q session world := by
  unfold require
  split
  · next holds => exact passes holds
  · exact harmless error session world

/-- A statement outside transactions that only reads. -/
theorem ensures_read {asked : Statement} {pre : World → Prop} {post : asked.Reply → World → Prop}
    (reads : ∀ choice world effect, exec around pid choice asked world = .ok effect →
      effect.write = (fun world => world) ∧
        (protocol.invariant world → pre world → ∀ later, protocol.rely pid world later →
          post effect.reply later)) :
    protocol.Ensures pid call pre (@Program.ask strategy asked) (returning post) := by
  refine ensures_ask fun choice world effect _ executed holds given => ?_
  obtain ⟨same, ends⟩ := reads choice world effect executed
  rw [same]
  exact ⟨holds, guarantees_refl world, fun later relied _ => ends holds given later relied⟩

/-- A statement that reads what the world answers. -/
theorem ensures_query {asked : Statement} {pre : World → Prop} {answer : World → asked.Reply}
    {post : asked.Reply → World → Prop}
    (reads : ∀ choice world, exec around pid choice asked world = reading (answer world))
    (ends : ∀ world, protocol.invariant world → pre world → ∀ later,
      protocol.rely pid world later → post (answer world) later) :
    protocol.Ensures pid call pre (@Program.ask strategy asked) (returning post) := by
  refine ensures_read fun choice world effect executed => ?_
  rw [reads] at executed
  cases executed
  exact ⟨rfl, ends world⟩

/-- A statement that reads, whatever it reads. -/
theorem maintains_query {asked : Statement} {answer : World → asked.Reply}
    (reads : ∀ choice world, exec around pid choice asked world = reading (answer world)) :
    protocol.Maintains pid call (@Program.ask strategy asked) :=
  maintains_of_returning (ensures_query reads fun _ _ _ _ _ => trivial)

/-- A question to the AI service changes nothing. -/
theorem maintains_answering {asked : Statement} {answer : Nat → Except AiError asked.Reply}
    (asks : ∀ choice world, exec around pid choice asked world = answering (answer choice)) :
    protocol.Maintains pid call (@Program.ask strategy asked) := by
  refine maintains_of_returning (ensures_read fun choice world effect executed => ?_)
  rw [asks] at executed
  exact ⟨ok_of_answering executed, fun _ _ _ _ => trivial⟩

theorem maintains_require {condition : Bool} {error : StrategyError} :
    protocol.Maintains pid call (require condition error) := by
  unfold require
  split
  · exact maintains_pure ()
  · exact maintains_throw error

theorem maintains_check {checked : Except StrategyError α} :
    protocol.Maintains pid call (check checked) := fun _ holds => ⟨rfl, holds⟩

/-- The row that a transaction holds is in the world in which it commits. -/
theorem strategy_held {opened : Session World Key} {id : Uuid} {before after : World}
    (calm : protocol.Calm pid (some opened) before after) (held : Key.strategy id ∈ opened.held) :
    after.strategies.find id = before.strategies.find id :=
  (calm.agree opened rfl _ held).1.symm

/-! ### What statements do -/

theorem find_move {world : World} {id other : Uuid} {next : StrategyStatus} :
    (world.move id next).strategies.find other =
      if other = id then (world.strategies.find other).map fun row => { row with status := next }
      else world.strategies.find other := by
  unfold World.move
  rw [Table.find_modify]

theorem find_publishDraft {world : World} {id versionId other : Uuid} :
    (world.publishDraft id versionId).strategies.find other =
      if other = id then
        (world.strategies.find other).map fun row =>
          { row with status := .draft, currentVersionId := some versionId }
      else world.strategies.find other := by
  unfold World.publishDraft
  rw [Table.find_modify]

/-- The briefs beside the one that is written. -/
theorem find_putBrief_of_ne {world : World} {id strategyId other : Uuid} {data : BriefData}
    (apart : other ≠ strategyId) :
    (world.putBrief id strategyId data).briefs.find other = world.briefs.find other := by
  unfold World.putBrief
  dsimp only
  split
  · rw [Table.find_modify_of_ne apart]
  · rw [Table.find_insert_of_ne apart]

theorem updateStatus_cases {choice : Nat} {id : Uuid} {next : StrategyStatus} {world : World}
    {effect : Effect World Key Unit}
    (executed : (store around).exec pid choice (.updateStatus id next) world = .ok effect) :
    ∃ row, world.strategies.find id = some row ∧
      effect = ⟨(), (World.move · id next), [.strategy id]⟩ := by
  simp only [store, exec] at executed
  obtain ⟨present, executed⟩ := ok_of_unless executed
  obtain ⟨row, found⟩ := Option.ne_none_iff_exists'.mp
    fun absent => present (Option.isNone_iff_eq_none.mpr absent)
  exact ⟨row, found, (Except.ok.inj executed).symm⟩

theorem lt_above {ids : List Uuid} {id : Uuid} (member : id ∈ ids) : id < above ids := by
  induction ids with
  | nil => cases member
  | cons head rest inductionHypothesis =>
      rw [above, List.foldr_cons]
      rcases List.mem_cons.mp member with rfl | later
      · exact lt_of_lt_of_le (Nat.lt_succ_self _) (Nat.le_max_left _ _)
      · exact lt_of_lt_of_le (inductionHypothesis later) (Nat.le_max_right _ _)

theorem freshKey_above {Row : Type} [Keyed Row] (table : Table Row) (ids : List Uuid)
    (choice : Nat) : table.freshKey (above ids + choice) ∉ ids := by
  intro member
  have below := lt_above member
  have bound : above ids ≤ table.freshKey (above ids + choice) :=
    (Nat.le_add_right _ _).trans (Nat.le_add_left _ _)
  exact absurd below (Nat.not_lt.mpr bound)

theorem createVersion_cases {choice : Nat} {row : StrategyVersion} {world : World}
    {effect : Effect World Key StrategyVersion}
    (executed : (store around).exec pid choice (.createVersion row) world = .ok effect) :
    ∃ id, world.versions.find id = none ∧ id ∉ world.retiredVersions ∧
      (world.versionsOf row.strategyId).filter (·.version = row.version) = [] ∧
      effect = ⟨{ row with id }, (World.addVersion · pid { row with id }),
        [.version id, .versionNumber row.strategyId row.version]⟩ := by
  simp only [store, exec] at executed
  obtain ⟨-, executed⟩ := ok_of_unless executed
  obtain ⟨unused, executed⟩ := ok_of_unless executed
  refine ⟨_, Table.find_freshKey _, freshKey_above _ _ choice, ?_, (Except.ok.inj executed).symm⟩
  rw [List.filter_eq_nil_iff]
  intro other member same
  exact unused (List.any_eq_true.mpr ⟨other, member, same⟩)

theorem makeDraft_cases {choice : Nat} {id versionId : Uuid} {world : World}
    {effect : Effect World Key Unit}
    (executed : (store around).exec pid choice (.makeDraft id versionId) world = .ok effect) :
    (∃ row, world.strategies.find id = some row ∧ row.status = .validating ∧
      effect = ⟨(), (World.publishDraft · id versionId), [.strategy id]⟩) ∨
    ((¬∃ row, world.strategies.find id = some row ∧ row.status = .validating) ∧
      effect = ⟨(), fun world => world, []⟩) := by
  simp only [store, exec, updateWhen] at executed
  by_cases guarded : (world.strategies.find id).any (·.status ∈ [.validating]) = true
  · rw [if_pos guarded] at executed
    obtain ⟨row, found, picked⟩ := (Option.any_eq_true _ _).mp guarded
    exact .inl ⟨row, found, by simpa using picked, (Except.ok.inj executed).symm⟩
  · rw [if_neg guarded] at executed
    refine .inr ⟨?_, (Except.ok.inj executed).symm⟩
    rintro ⟨row, found, validating⟩
    exact guarded (by simp [found, validating])

/-! ### The status -/

/-- The row that `updateStrategyStatus` writes is the one that it finds when it writes. -/
theorem ensures_updateStrategyStatus {id : Uuid} {next : StrategyStatus} {post : World → Prop}
    (keeps : ∀ view base row, protocol.discipline.admits pid call (.updateStatus id next) view →
      view.strategies.find id = some row → base.strategies.find id = some row →
      protocol.invariant base →
        protocol.invariant (base.move id next) ∧ protocol.Guarantees pid base (base.move id next) ∧
        ∀ later, protocol.rely pid (base.move id next) later → post later) :
    protocol.Ensures pid call (fun _ => True) (updateStrategyStatus id next)
      (returning fun _ => post) := by
  intro world _ _
  unfold updateStrategyStatus
  rw [wp_transaction]
  intro first _ _
  unfold moveStatus
  rw [wp_bind]
  refine wp_read_open (closing_harmless call) (fun _ => rfl) fun read _ _ => ?_
  generalize Option.map StrategyRow.status _ = status
  cases status with
  | none => exact closing_harmless call _ (some .fresh) _
  | some current =>
      show protocol.wp pid call (_ >>= _) _ _ _
      rw [wp_bind]
      refine wp_require (fun _ => ?_) (closing_harmless call)
      refine wp_ask_open (closing_harmless call) fun _ admitted choice effect executed => ?_
      obtain ⟨row, found, rfl⟩ := updateStatus_cases executed
      intro base calm holds
      have same : base.strategies.find id = some row :=
        (strategy_held calm (by simp [Session.extend])).trans found
      obtain ⟨kept, guarantees, ends⟩ := keeps read base row admitted found same holds
      refine closePost_ok rfl ⟨kept, guarantees, fun later calmer holdsLater => ?_⟩
      exact ⟨rfl, holdsLater, ends later calmer.rely⟩

theorem maintains_updateStrategyStatus {id : Uuid} {next : StrategyStatus}
    (keeps : ∀ view base row, protocol.discipline.admits pid call (.updateStatus id next) view →
      view.strategies.find id = some row → base.strategies.find id = some row →
      protocol.invariant base →
        protocol.invariant (base.move id next) ∧
        protocol.Guarantees pid base (base.move id next)) :
    protocol.Maintains pid call (updateStrategyStatus id next) := by
  refine maintains_of_returning (ensures_updateStrategyStatus ?_)
  intro view base row admitted found same holds
  obtain ⟨kept, guarantees⟩ := keeps view base row admitted found same holds
  exact ⟨kept, guarantees, fun _ _ => trivial⟩

/-- One conditional update claims a strategy. -/
theorem ensures_claimForGeneration {id : Uuid} {idle : List StrategyStatus} {next : StrategyStatus}
    {post : World → Prop}
    (keeps : ∀ world row, protocol.discipline.admits pid call (.claim id idle next) world →
      world.strategies.find id = some row → row.status ∈ idle →
      canTransitionStrategy row.status next = true → protocol.invariant world →
        protocol.invariant (world.move id next) ∧
        protocol.Guarantees pid world (world.move id next) ∧
        ∀ later, protocol.rely pid (world.move id next) later → post later) :
    protocol.Ensures pid call (fun _ => True) (claimForGeneration id idle next)
      (returning fun claimed world => claimed = true → post world) := by
  unfold claimForGeneration
  split
  · next legal =>
    refine ensures_ask fun choice world effect admitted executed holds _ => ?_
    rcases updateWhen_cases executed with ⟨row, found, member, rfl⟩ | rfl
    · have allowed := List.all_eq_true.mp legal row.status member
      obtain ⟨kept, guarantees, ends⟩ := keeps world row admitted found member allowed holds
      exact ⟨kept, guarantees, fun later relied _ _ => ends later relied⟩
    · refine ⟨holds, guarantees_refl world, ?_⟩
      rintro later - - ⟨⟩
  · refine ensures_pure fun world _ => ?_
    rintro ⟨⟩

theorem maintains_claimForGeneration {id : Uuid} {idle : List StrategyStatus} {next : StrategyStatus}
    (keeps : ∀ world row, protocol.discipline.admits pid call (.claim id idle next) world →
      world.strategies.find id = some row → row.status ∈ idle →
      canTransitionStrategy row.status next = true → protocol.invariant world →
        protocol.invariant (world.move id next) ∧
        protocol.Guarantees pid world (world.move id next)) :
    protocol.Maintains pid call (claimForGeneration id idle next) := by
  have ensures : protocol.Ensures pid call (fun _ => True) (claimForGeneration id idle next)
      (returning fun claimed _ => claimed = true → True) := by
    refine ensures_claimForGeneration fun world row admitted found member allowed holds => ?_
    obtain ⟨kept, guarantees⟩ := keeps world row admitted found member allowed holds
    exact ⟨kept, guarantees, fun _ _ => trivial⟩
  exact ensures.maintains

/-! ### Versions -/

/-- What is known of a new version and of the world in which it is committed. -/
structure Appended (protocol : Protocol (serving around program enabled)) (pid : Pid)
    (call : Request)
    (new : NewVersion) (start base : World) (created : StrategyVersion) : Prop where
  row : created = { new.row created.version with id := created.id }
  numbered : ∃ read, protocol.invariant read ∧ protocol.rely pid read base ∧
    created.version = ((read.latestVersion new.strategyId).map (·.version + 1)).getD 1
  admitted : ∃ view,
    protocol.discipline.admits pid call (.createVersion (new.row created.version)) view ∧
      protocol.invariant view ∧ protocol.rely pid view base
  fresh : base.versions.find created.id = none ∧ created.id ∉ base.retiredVersions
  free : (base.versionsOf new.strategyId).filter (·.version = created.version) = []
  relied : protocol.rely pid start base

/-- A version and the status of its strategy are committed together. -/
theorem ensures_appendStrategyVersion {new : NewVersion} {pre post : World → Prop}
    (keepsDraft : ∀ start base created row, pre start →
      Appended protocol pid call new start base created →
      base.strategies.find new.strategyId = some row → row.status = .validating →
      protocol.invariant base →
        protocol.invariant ((base.addVersion pid created).publishDraft new.strategyId created.id) ∧
        protocol.Guarantees pid base
          ((base.addVersion pid created).publishDraft new.strategyId created.id) ∧
        ∀ later,
          protocol.rely pid ((base.addVersion pid created).publishDraft new.strategyId created.id)
            later → post later)
    (keepsOrphan : ∀ start base created view, pre start →
      Appended protocol pid call new start base created →
      protocol.discipline.admits pid call (.makeDraft new.strategyId created.id) view →
      (¬∃ row, view.strategies.find new.strategyId = some row ∧ row.status = .validating) →
      protocol.invariant base →
        protocol.invariant (base.addVersion pid created) ∧
        protocol.Guarantees pid base (base.addVersion pid created) ∧
        ∀ later, protocol.rely pid (base.addVersion pid created) later → post later) :
    protocol.Ensures pid call pre (appendStrategyVersion new) (returning fun _ => post) := by
  intro start _ given
  unfold appendStrategyVersion
  rw [wp_transaction]
  intro first calmFirst _
  unfold appendVersion
  rw [wp_bind]
  refine wp_read_open (closing_harmless call) (fun _ => rfl) fun second calmSecond holdsSecond => ?_
  generalize Option.map StrategyRow.status _ = status
  cases status with
  | none => exact closing_harmless call _ (some .fresh) _
  | some current =>
  show protocol.wp pid call (_ >>= _) _ _ _
  rw [wp_bind]
  refine wp_require (fun _ => ?_) (closing_harmless call)
  show protocol.wp pid call (_ >>= _) _ _ _
  rw [wp_bind]
  refine wp_read_open (closing_harmless call) (fun _ => rfl) fun third calmThird holdsThird => ?_
  show protocol.wp pid call (_ >>= _) _ _ _
  generalize numberIs : Option.getD (Option.map _ _) 1 = number
  rw [wp_bind]
  refine wp_ask_open (closing_harmless call) fun _ admitted choice effect executed => ?_
  obtain ⟨id, fresh, unretired, unused, rfl⟩ := createVersion_cases executed
  intro fourth calmFourth _
  show protocol.wp pid call (_ >>= _) _ _ _
  rw [wp_bind]
  refine wp_ask_open (closing_harmless call) fun _ drafting choice effect executed => ?_
  intro base calm holds
  have calmAll := calmFourth.trans calm.ofExtend
  have appended : Appended protocol pid call new start base { new.row number with id } := by
    have agreeId := calmAll.agree _ rfl (.version id) List.mem_cons_self
    have agreeNumber := calmAll.agree _ rfl (.versionNumber new.strategyId number)
      (List.mem_cons_of_mem _ List.mem_cons_self)
    have sinceThird := calmAll.rely
    have sinceSecond := protocol.rely_trans pid calmThird.rely sinceThird
    refine ⟨rfl, ⟨second, holdsSecond, sinceSecond, numberIs.symm⟩,
      ⟨third, admitted, holdsThird, sinceThird⟩,
      ⟨agreeId.1.symm.trans fresh, fun member => unretired (agreeId.2.mpr member)⟩,
      agreeNumber.symm.trans unused, ?_⟩
    exact protocol.rely_trans pid calmFirst.rely
      (protocol.rely_trans pid calmSecond.rely sinceSecond)
  rcases makeDraft_cases executed with ⟨row, found, validating, rfl⟩ | ⟨moved, rfl⟩
  · have same : base.strategies.find new.strategyId = some row :=
      (strategy_held calm List.mem_cons_self).trans found
    obtain ⟨kept, guarantees, ends⟩ :=
      keepsDraft start base _ row given appended same validating holds
    exact closePost_ok rfl ⟨kept, guarantees, fun later calmer holdsLater =>
      ⟨rfl, holdsLater, ends later calmer.rely⟩⟩
  · obtain ⟨kept, guarantees, ends⟩ :=
      keepsOrphan start base _ _ given appended drafting moved holds
    exact closePost_ok rfl ⟨kept, guarantees, fun later calmer holdsLater =>
      ⟨rfl, holdsLater, ends later calmer.rely⟩⟩

/-! ### Decisions -/

/-- What is known of a decision and of the world in which it is committed. -/
structure Decided (protocol : Protocol (serving around program enabled)) (pid : Pid)
    (call : Request)
    (ownerUserId : Uuid) (dto : OwnerDecisionDto) (base : World) (row : StrategyDecision) : Prop where
  recorded : ∃ view,
    protocol.discipline.admits pid call
      (.createDecision dto.versionId ownerUserId dto.action.decision dto.feedback) view ∧
    (view.versions.find dto.versionId).isSome = true ∧ protocol.rely pid view base ∧
    row = ⟨dto.versionId, ownerUserId, dto.action.decision, dto.feedback,
      view.currentBeside dto.versionId⟩

theorem createDecision_cases {choice : Nat} {versionId ownerUserId : Uuid} {action : DecisionAction}
    {feedback : Option String} {world : World} {effect : Effect World Key Unit}
    (executed : (store around).exec pid choice
      (.createDecision versionId ownerUserId action feedback) world = .ok effect) :
    (world.versions.find versionId).isSome = true ∧
      effect = ⟨(), (World.addDecision ·
        ⟨versionId, ownerUserId, action, feedback, world.currentBeside versionId⟩), []⟩ := by
  simp only [store, exec] at executed
  obtain ⟨present, executed⟩ := ok_of_unless executed
  refine ⟨?_, (Except.ok.inj executed).symm⟩
  exact Option.isSome_iff_ne_none.mpr fun absent => present (Option.isNone_iff_eq_none.mpr absent)

/-- A decision is committed with the status that it leads to, if it leads to one. -/
theorem maintains_recordOwnerDecision {ownerUserId : Uuid} {dto : OwnerDecisionDto}
    (keepsDecision : ∀ base row, Decided protocol pid call ownerUserId dto base row →
      (dto.action = .revisionRequested ∨ ∃ view read,
        (view.versions.find dto.versionId).isSome = true ∧ protocol.rely pid view read ∧
        read.versions.find dto.versionId = none ∧ protocol.invariant read ∧
        protocol.rely pid read base) →
      protocol.invariant base →
        protocol.invariant (base.addDecision row) ∧
        protocol.Guarantees pid base (base.addDecision row))
    (keepsMove : ∀ base row view version strategyRow next,
      Decided protocol pid call ownerUserId dto base row →
      next = (if dto.action = .approve then StrategyStatus.approved else .rejected) →
      protocol.discipline.admits pid call (.decideDraft version next) view →
      view.strategies.find version = some strategyRow →
      base.strategies.find version = some strategyRow → strategyRow.status = .draft →
      protocol.invariant base →
        protocol.invariant ((base.addDecision row).move version next) ∧
        protocol.Guarantees pid base ((base.addDecision row).move version next)) :
    protocol.Maintains pid call (recordOwnerDecision ownerUserId dto) := by
  refine maintains_of_returning ?_
  intro start _ _
  unfold recordOwnerDecision
  rw [wp_transaction]
  intro first _ _
  unfold decide
  rw [wp_bind]
  refine wp_ask_open (closing_harmless call) fun _ admitted choice effect executed => ?_
  obtain ⟨present, rfl⟩ := createDecision_cases executed
  intro second calmSecond holdsSecond
  show protocol.wp pid call (_ >>= _) _ _ _
  rw [wp_bind]
  have decided : ∀ base, protocol.rely pid second base →
      Decided protocol pid call ownerUserId dto base
        ⟨dto.versionId, ownerUserId, dto.action.decision, dto.feedback,
          first.currentBeside dto.versionId⟩ := by
    intro base later
    exact ⟨first, admitted, present, protocol.rely_trans pid calmSecond.rely later, rfl⟩
  refine wp_read_open (closing_harmless call) (fun _ => rfl) fun third calmThird holdsThird => ?_
  show protocol.bindPost pid call _ _ (.ok (second.versions.find dto.versionId)) _ _
  cases found : second.versions.find dto.versionId with
  | none =>
      simp only [bindPost]
      obtain ⟨kept, guarantees⟩ := keepsDecision third _ (decided third calmThird.rely)
        (.inr ⟨first, second, present, calmSecond.rely, found, holdsSecond, calmThird.rely⟩) holdsThird
      exact closePost_ok rfl ⟨kept, guarantees, fun later _ holdsLater =>
        ⟨rfl, holdsLater, trivial⟩⟩
  | some version =>
      have moves : ∀ next, next = (if dto.action = .approve then StrategyStatus.approved else .rejected) →
          protocol.wp pid call (do
            let decided ← Db.decideDraft version.strategyId next
            require decided
              (.badRequest none "Strategy is no longer in draft state; decision could not be applied")
            return some next) (protocol.closePost pid call fun outcome session after =>
              session = none ∧ protocol.invariant after ∧ returning (fun _ _ => True) outcome after)
            (some ((Session.fresh : Session World Key).extend
              ⟨(), (World.addDecision · ⟨dto.versionId, ownerUserId, dto.action.decision, dto.feedback,
                first.currentBeside dto.versionId⟩), []⟩)) third := by
        intro next isNext
        rw [wp_bind]
        refine wp_ask_open (closing_harmless call) fun _ moving choice effect executed => ?_
        rcases updateWhen_cases executed with ⟨row, foundRow, member, rfl⟩ | rfl
        · intro base calm holds
          have same : base.strategies.find version.strategyId = some row :=
            (strategy_held calm List.mem_cons_self).trans foundRow
          have isDraft : row.status = .draft := by simpa using member
          obtain ⟨kept, guarantees⟩ := keepsMove base _ _ version.strategyId row next
            (decided base (protocol.rely_trans pid calmThird.rely calm.rely)) isNext moving foundRow
            same isDraft holds
          exact closePost_ok rfl ⟨kept, guarantees, fun later _ holdsLater =>
            ⟨rfl, holdsLater, trivial⟩⟩
        · intro later _ _
          exact closing_harmless call _ (some .fresh) _
      obtain ⟨versionId, action, feedback⟩ := dto
      cases action with
      | approve => exact moves .approved rfl
      | reject => exact moves .rejected rfl
      | revisionRequested =>
          simp only [bindPost]
          obtain ⟨kept, guarantees⟩ := keepsDecision third _ (decided third calmThird.rely)
            (.inl rfl) holdsThird
          exact closePost_ok rfl ⟨kept, guarantees, fun later _ holdsLater =>
            ⟨rfl, holdsLater, trivial⟩⟩

/-! ### Deletion -/

/-- What is left when a strategy goes with the children that its transaction has listed. -/
def World.erase (world : World) (id : Uuid) (versionIds : List Uuid)
    (gone : List (Uuid × Uuid × Nat)) (seqs : List Nat) : World :=
  { world with
    strategies := world.strategies.retain (·.id ≠ id)
    briefs := world.briefs.retain (·.strategyId ≠ id)
    versions := (world.dropVersions gone).versions
    decisions := world.decisions.filter (·.strategyVersionId ∉ versionIds)
    runs := world.runs.retain (·.strategyId ≠ id)
    events := world.events.filter fun row => ¬(row.strategyId = id ∧ row.seq ∈ seqs)
    retiredStrategies := id :: world.retiredStrategies
    retiredVersions := (world.dropVersions gone).retiredVersions }

theorem deleteStrategy_cases {choice : Nat} {id : Uuid} {world : World}
    {effect : Effect World Key Unit}
    (executed : (store around).exec pid choice (.deleteStrategy id) world = .ok effect) :
    ∃ row, world.strategies.find id = some row ∧
      effect = ⟨(), (World.dropStrategy · id), [.strategy id]⟩ := by
  simp only [store, exec] at executed
  obtain ⟨present, executed⟩ := ok_of_unless executed
  obtain ⟨row, found⟩ := Option.ne_none_iff_exists'.mp
    fun absent => present (Option.isNone_iff_eq_none.mpr absent)
  exact ⟨row, found, (Except.ok.inj executed).symm⟩

/-- The row of a deleted strategy is the one that the last statement finds. -/
theorem maintains_deleteStrategy {id : Uuid}
    (keeps : ∀ listed dropped view base row seqs,
      protocol.invariant listed → protocol.rely pid listed base →
      protocol.invariant dropped → protocol.rely pid dropped base →
      protocol.discipline.admits pid call (.deleteStrategy id) view →
      view.strategies.find id = some row → base.strategies.find id = some row →
      protocol.invariant base →
        let after := base.erase id ((listed.versionsOf id).map StrategyVersion.id)
          ((dropped.versionsOf id).map fun row => (row.id, row.strategyId, row.version)) seqs
        protocol.invariant after ∧ protocol.Guarantees pid base after) :
    protocol.Maintains pid call (deleteStrategy id) := by
  refine maintains_of_returning ?_
  intro start _ _
  unfold deleteStrategy
  rw [wp_transaction]
  intro first _ _
  unfold eraseStrategy
  rw [wp_bind]
  refine wp_read_open (closing_harmless call) (fun _ => rfl) fun second _ holdsSecond => ?_
  show protocol.wp pid call (_ >>= _) _ _ _
  rw [wp_bind]
  refine wp_require (fun _ => ?_) (closing_harmless call)
  show protocol.wp pid call (_ >>= _) _ _ _
  rw [wp_bind]
  refine wp_read_open (closing_harmless call) (fun _ => rfl) fun third calmThird _ => ?_
  show protocol.wp pid call (_ >>= _) _ _ _
  rw [wp_bind]
  refine wp_ask_open (closing_harmless call) fun _ _ choice effect executed => ?_
  cases executed
  intro fourth calmFourth holdsFourth
  show protocol.wp pid call (_ >>= _) _ _ _
  rw [wp_bind]
  refine wp_ask_open (closing_harmless call) fun _ _ choice effect executed => ?_
  cases executed
  intro fifth calmFifth _
  show protocol.wp pid call (_ >>= _) _ _ _
  rw [wp_bind]
  refine wp_ask_open (closing_harmless call) fun _ _ choice effect executed => ?_
  cases executed
  intro sixth calmSixth _
  show protocol.wp pid call (_ >>= _) _ _ _
  rw [wp_bind]
  refine wp_ask_open (closing_harmless call) fun _ _ choice effect executed => ?_
  cases executed
  intro seventh calmSeventh _
  show protocol.wp pid call (_ >>= _) _ _ _
  rw [wp_bind]
  refine wp_ask_open (closing_harmless call) fun _ _ choice effect executed => ?_
  cases executed
  intro eighth calmEighth _
  refine wp_ask_open (closing_harmless call) fun _ admitted choice effect executed => ?_
  obtain ⟨row, found, rfl⟩ := deleteStrategy_cases executed
  intro base calm holds
  have same : base.strategies.find id = some row :=
    (strategy_held calm List.mem_cons_self).trans found
  have sinceFourth : protocol.rely pid fourth base :=
    protocol.rely_trans pid calmFifth.rely (protocol.rely_trans pid calmSixth.rely
      (protocol.rely_trans pid calmSeventh.rely (protocol.rely_trans pid calmEighth.rely calm.rely)))
  have sinceSecond : protocol.rely pid second base :=
    protocol.rely_trans pid calmThird.rely (protocol.rely_trans pid calmFourth.rely sinceFourth)
  obtain ⟨kept, guarantees⟩ := keeps second fourth _ base row _ holdsSecond sinceSecond holdsFourth
    sinceFourth admitted found same holds
  exact closePost_ok rfl ⟨kept, guarantees, fun later _ holdsLater => ⟨rfl, holdsLater, trivial⟩⟩

/-! ### Retrievals -/

/-- The AI service stores at most one run. -/
theorem retrieve_cases {choice : Nat} {brief : StrategyBrief} {world : World}
    {effect : Effect World Key (Except AiError (Option Uuid))}
    (executed : (store around).exec pid choice (.retrieve brief) world = .ok effect) :
    (∃ reply, effect = ⟨reply, fun world => world, []⟩) ∨
      ∃ reply run, effect = ⟨reply, (World.storeRun · run), []⟩ := by
  simp only [store, exec] at executed
  split at executed
  · exact .inl ⟨_, (Except.ok.inj executed).symm⟩
  · split at executed
    · exact .inl ⟨_, (Except.ok.inj executed).symm⟩
    · exact .inr ⟨_, _, (Except.ok.inj executed).symm⟩

/-! ### Progress events -/

theorem createEvent_cases {choice : Nat} {event : StrategyProgressEvent} {world : World}
    {effect : Effect World Key Unit}
    (executed : (store around).exec pid choice (.createEvent event) world = .ok effect) :
    effect = ⟨(), fun world => { world with events := world.events ++ [event] },
      [.eventNumber event.strategyId event.seq]⟩ := by
  simp only [store, exec] at executed
  obtain ⟨-, executed⟩ := ok_of_unless executed
  obtain ⟨-, executed⟩ := ok_of_unless executed
  exact (Except.ok.inj executed).symm

theorem maintains_recordProgress {id : Uuid} {stage messageKey : String} {status : ProgressStatus}
    {retryable : Option Bool}
    (keeps : ∀ base event, protocol.invariant base →
      protocol.invariant { base with events := base.events ++ [event] } ∧
      protocol.Guarantees pid base { base with events := base.events ++ [event] }) :
    protocol.Maintains pid call (recordProgress id stage status messageKey retryable) := by
  refine maintains_tryCatch ?_ fun _ => maintains_pure ()
  refine maintains_of_returning ?_
  intro start _ _
  rw [wp_transaction]
  intro first _ _
  unfold appendEvent
  rw [wp_bind]
  refine wp_read_open (closing_harmless call) (fun _ => rfl) fun second _ _ => ?_
  refine wp_ask_open (closing_harmless call) fun _ _ choice effect executed => ?_
  obtain rfl := createEvent_cases executed
  intro base _ holds
  obtain ⟨kept, guarantees⟩ := keeps base _ holds
  exact closePost_ok rfl ⟨kept, guarantees, fun later _ holdsLater => ⟨rfl, holdsLater, trivial⟩⟩

end MarketMind.Strategy
