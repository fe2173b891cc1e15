import MarketMind.Transactions.Store

/-!
Owns runs in which not every call may fail or die at any time: the terms of a family of runs, what
a call owes however it ends, and the proof rules that carry what each call owes alone to every
machine that such a run reaches.

Does not own runs in which faults are admitted everywhere, nor transactions that never overlap.
-/

namespace MarketMind.Transactions

variable {sig : Signature} {World Key Call : Type}

/-- What a family of runs admits: which calls are issued over which committed world, which
statements are executed in which (own) view, and which calls are spared faults. -/
structure Terms (sig : Signature) (World Call : Type) where
  issues : Call → World → Prop
  admits : Pid → Call → (asked : sig.Statement) → World → Prop
  /-- The call neither fails nor dies over this committed world. -/
  spares : Pid → Call → World → Prop

/-- The terms that admit everything. -/
def Terms.free : Terms sig World Call := ⟨fun _ _ => True, fun _ _ _ _ => True, fun _ _ _ => False⟩

def Terms.AdmitsMove (terms : Terms sig World Call) (machine : Machine sig World Key Call) :
    Move Call → Prop
  | .issue _ call => terms.issues call machine.world
  | .step pid _ =>
      ∀ thread, machine.threads pid = some thread →
        ∀ asked next, thread.rest = .statement asked next →
          terms.admits pid thread.call asked (view thread.session machine.world)
  | .fail pid | .crash pid =>
      ∀ thread, machine.threads pid = some thread →
        ¬ terms.spares pid thread.call machine.world

/-- Moves that pass: calls that may be issued, statements that may be executed, and faults where
they may occur. -/
def Move.passesTerms (issues : Call → Bool) (admits : Pid → Call → sig.Statement → World → Bool)
    (faults : Bool) (machine : Machine sig World Key Call) : Move Call → Bool
  | .issue _ call => issues call
  | .step pid _ =>
      match machine.threads pid with
      | some ⟨call, session, .statement asked _⟩ =>
          admits pid call asked (view session machine.world)
      | _ => true
  | .fail _ | .crash _ => faults

theorem Terms.admits_of_passes {terms : Terms sig World Call} {issues : Call → Bool}
    {admits : Pid → Call → sig.Statement → World → Bool} {faults : Bool}
    (mayIssue : ∀ call world, issues call = true → terms.issues call world)
    (mayExecute : ∀ pid call asked world, admits pid call asked world = true →
      terms.admits pid call asked world)
    (mayFail : faults = true → ∀ pid call world, ¬ terms.spares pid call world)
    (machine : Machine sig World Key Call) (move : Move Call)
    (passes : move.passesTerms issues admits faults machine = true) :
    terms.AdmitsMove machine move := by
  cases move with
  | issue pid call => exact mayIssue call _ passes
  | step pid choice =>
      rintro ⟨call, session, rest⟩ inFlight asked next rfl
      simp only [Move.passesTerms, inFlight] at passes
      exact mayExecute pid call asked _ passes
  | fail pid | crash pid => exact fun thread _ => mayFail passes pid thread.call _

/-- The machines that a system reaches from `start` under the terms. -/
inductive ReachesUnder [DecidableEq Key] (sys : System sig World Key Call)
    (terms : Terms sig World Call) (start : World) : Machine sig World Key Call → Prop
  | idle : ReachesUnder sys terms start (.idle start)
  | move {machine after : Machine sig World Key Call} (move : Move Call) :
      ReachesUnder sys terms start machine → terms.AdmitsMove machine move →
      sys.step machine move = some after → ReachesUnder sys terms start after

/-- The machine after a list of moves that all pass the check. -/
def System.playUnder [DecidableEq Key] (sys : System sig World Key Call)
    (check : Machine sig World Key Call → Move Call → Bool) (machine : Machine sig World Key Call)
    (moves : List (Move Call)) : Option (Machine sig World Key Call) :=
  moves.foldlM (fun machine move => if check machine move then sys.step machine move else none)
    machine

theorem ReachesUnder.play [DecidableEq Key] {sys : System sig World Key Call}
    {terms : Terms sig World Call} {start : World}
    {check : Machine sig World Key Call → Move Call → Bool}
    (sound : ∀ machine move, check machine move = true → terms.AdmitsMove machine move)
    {machine after : Machine sig World Key Call} {moves : List (Move Call)}
    (reached : ReachesUnder sys terms start machine)
    (played : sys.playUnder check machine moves = some after) :
    ReachesUnder sys terms start after := by
  induction moves generalizing machine with
  | nil =>
      cases played
      exact reached
  | cons move rest inductionHypothesis =>
      simp only [System.playUnder, List.foldlM_cons, Option.bind_eq_bind,
        Option.bind_eq_some_iff] at played
      obtain ⟨between, stepped, played⟩ := played
      split at stepped
      · next passes => exact inductionHypothesis (reached.move move (sound _ _ passes) stepped) played
      · cases stepped

/-- What is read off the machine after a list of moves that pass the check is read off a machine
that some run reaches. -/
theorem ReachesUnder.of_play [DecidableEq Key] {sys : System sig World Key Call}
    {terms : Terms sig World Call} {start : World}
    {check : Machine sig World Key Call → Move Call → Bool}
    (sound : ∀ machine move, check machine move = true → terms.AdmitsMove machine move)
    {moves : List (Move Call)} {β : Type} {observe : Machine sig World Key Call → β} {seen : β}
    (played : (sys.playUnder check (.idle start) moves).map observe = some seen) :
    ∃ machine, ReachesUnder sys terms start machine ∧ observe machine = seen := by
  obtain ⟨machine, reached, same⟩ := Option.map_eq_some_iff.mp played
  exact ⟨machine, ReachesUnder.idle.play sound reached, same⟩

/-- What a family of runs is held to: the invariant of the committed world, what each call may rely
on the others for, what holds of a call that was never issued, and what a call owes when it has
ended, however it has. -/
structure Contract (sys : System sig World Key Call) where
  terms : Terms sig World Call
  invariant : World → Prop
  rely : Pid → World → World → Prop
  rely_refl : ∀ pid world, rely pid world world
  rely_trans : ∀ pid {first second third},
    rely pid first second → rely pid second third → rely pid first third
  fresh : Pid → World → Prop
  fresh_of_rely : ∀ pid {before after}, rely pid before after → fresh pid before → fresh pid after
  post : Pid → Call → Except sig.Error Unit → World → Prop

namespace Contract

variable {sys : System sig World Key Call} (contract : Contract sys) (pid : Pid) (call : Call)

/-- A change of the world that leaves every other call what it relies on. -/
def Guarantees (before after : World) : Prop :=
  ∀ other, other ≠ pid → contract.rely other before after

/-- What may have happened between two instructions of a call: what the call relies on, with the
rows that its open transaction holds as they were. -/
structure Calm (session : Option (Session World Key)) (before after : World) : Prop where
  rely : contract.rely pid before after
  agree : ∀ opened, session = some opened → ∀ key ∈ opened.held, sys.Agree key before after

/-- `Q` holds whatever the other calls do first. -/
def After (session : Option (Session World Key)) (world : World) (Q : World → Prop) : Prop :=
  ∀ after, contract.Calm pid session world after → contract.invariant after → Q after

/-- The call may die here. -/
def MayDie (world : World) : Prop :=
  ¬ contract.terms.spares pid call world →
    contract.After pid none world (contract.post pid call (.error sys.databaseFailure))

/-- The program keeps the contract from here and ends in `Q`. -/
def wp {α : Type} : Program sig α →
    (Except sig.Error α → Option (Session World Key) → World → Prop) →
    Option (Session World Key) → World → Prop
  | .done outcome, Q, session, world => Q outcome session world
  | .statement asked next, Q, session, world =>
      contract.MayDie pid call world ∧
      (¬ contract.terms.spares pid call world →
        contract.After pid (doom session) world
          (wp (next (.error sys.databaseFailure)) Q (doom session))) ∧
      (isDoomed session = true →
        contract.After pid session world (wp (next (.error sys.aborted)) Q session)) ∧
      (isDoomed session = false →
        contract.terms.admits pid call asked (view session world) →
        ∀ choice,
          (∀ error, sys.exec pid choice asked (view session world) = .error error →
            contract.After pid (doom session) world
              (wp (next (.error error)) Q (doom session))) ∧
          (∀ effect, sys.exec pid choice asked (view session world) = .ok effect →
            match session with
            | none =>
                contract.invariant (effect.write world) ∧
                contract.Guarantees pid world (effect.write world) ∧
                contract.After pid none (effect.write world) (wp (next (.ok effect.reply)) Q none)
            | some opened =>
                contract.After pid (some (opened.extend effect)) world
                  (wp (next (.ok effect.reply)) Q (some (opened.extend effect)))))
  | .start next, Q, session, world =>
      contract.MayDie pid call world ∧ session = none ∧
        contract.After pid (some .fresh) world (wp next Q (some .fresh))
  | .commit next, Q, session, world =>
      contract.MayDie pid call world ∧ ∃ opened, session = some opened ∧
        (opened.doomed = true → contract.After pid none world (wp next Q none)) ∧
        (opened.doomed = false →
          contract.invariant (opened.pending world) ∧
          contract.Guarantees pid world (opened.pending world) ∧
          contract.After pid none (opened.pending world) (wp next Q none))
  | .rollback next, Q, _, world =>
      contract.MayDie pid call world ∧ contract.After pid none world (wp next Q none)

variable {contract} {pid} {call}

/-! ### What a call may rely on -/

theorem Calm.refl (session : Option (Session World Key)) (world : World) :
    contract.Calm pid session world world :=
  ⟨contract.rely_refl pid world, fun _ _ key _ => sys.agree_refl key world⟩

theorem Calm.trans {session : Option (Session World Key)} {first second third : World}
    (left : contract.Calm pid session first second)
    (right : contract.Calm pid session second third) :
    contract.Calm pid session first third where
  rely := contract.rely_trans pid left.rely right.rely
  agree := by
    intro opened isOpen key held
    exact sys.agree_trans key (left.agree opened isOpen key held)
      (right.agree opened isOpen key held)

theorem After.here {session : Option (Session World Key)} {world : World} {Q : World → Prop}
    (after : contract.After pid session world Q) (holds : contract.invariant world) : Q world :=
  after world (.refl session world) holds

theorem After.later {session : Option (Session World Key)} {before world : World}
    {Q : World → Prop} (after : contract.After pid session before Q)
    (calm : contract.Calm pid session before world) : contract.After pid session world Q :=
  fun later calmer holds => after later (calm.trans calmer) holds

theorem After.mono {session : Option (Session World Key)} {world : World} {P Q : World → Prop}
    (after : contract.After pid session world P) (implies : ∀ world, P world → Q world) :
    contract.After pid session world Q :=
  fun later calm holds => implies later (after later calm holds)

/-! ### Rules of the program text -/

variable {α β : Type}

theorem wp_mono (program : Program sig α)
    {P Q : Except sig.Error α → Option (Session World Key) → World → Prop}
    (implies : ∀ outcome session world, P outcome session world → Q outcome session world)
    {session : Option (Session World Key)} {world : World}
    (safe : contract.wp pid call program P session world) :
    contract.wp pid call program Q session world := by
  induction program generalizing session world with
  | done outcome => exact implies _ _ _ safe
  | statement asked next inductionHypothesis =>
      obtain ⟨dies, faults, aborts, executes⟩ := safe
      refine ⟨dies, fun unspared => (faults unspared).mono fun _ => inductionHypothesis _,
        fun doomed => (aborts doomed).mono fun _ => inductionHypothesis _, ?_⟩
      intro sound admitted choice
      obtain ⟨errs, goesOn⟩ := executes sound admitted choice
      refine ⟨fun error executed => (errs error executed).mono fun _ => inductionHypothesis _, ?_⟩
      intro effect executed
      have step := goesOn effect executed
      cases session with
      | none => exact ⟨step.1, step.2.1, step.2.2.mono fun _ => inductionHypothesis _⟩
      | some opened => exact After.mono step fun _ => inductionHypothesis _
  | start next inductionHypothesis =>
      exact ⟨safe.1, safe.2.1, safe.2.2.mono fun _ => inductionHypothesis⟩
  | commit next inductionHypothesis =>
      obtain ⟨dies, opened, isOpen, doomed, sound⟩ := safe
      refine ⟨dies, opened, isOpen,
        fun isDoomed => (doomed isDoomed).mono fun _ => inductionHypothesis, ?_⟩
      intro isSound
      obtain ⟨holds, guarantees, after⟩ := sound isSound
      exact ⟨holds, guarantees, after.mono fun _ => inductionHypothesis⟩
  | rollback next inductionHypothesis =>
      exact ⟨safe.1, safe.2.mono fun _ => inductionHypothesis⟩

/-- A sequence of programs is checked one program at a time. -/
theorem wp_andThen (program : Program sig α) (next : Except sig.Error α → Program sig β)
    (Q : Except sig.Error β → Option (Session World Key) → World → Prop) :
    contract.wp pid call (program.andThen next) Q =
      contract.wp pid call program (fun outcome => contract.wp pid call (next outcome) Q) := by
  induction program with
  | done outcome => rfl
  | statement asked rest inductionHypothesis =>
      funext session world
      simp only [Program.andThen, wp, inductionHypothesis]
  | start rest inductionHypothesis =>
      funext session world
      simp only [Program.andThen, wp, inductionHypothesis]
  | commit rest inductionHypothesis =>
      funext session world
      simp only [Program.andThen, wp, inductionHypothesis]
  | rollback rest inductionHypothesis =>
      funext session world
      simp only [Program.andThen, wp, inductionHypothesis]

variable (contract pid call) in
/-- The continuation of a `do` block: what follows a value, or the thrown error. -/
def bindPost (next : α → Program sig β)
    (Q : Except sig.Error β → Option (Session World Key) → World → Prop) :
    Except sig.Error α → Option (Session World Key) → World → Prop
  | .ok value => contract.wp pid call (next value) Q
  | .error error => Q (.error error)

theorem wp_bind (program : Program sig α) (next : α → Program sig β)
    (Q : Except sig.Error β → Option (Session World Key) → World → Prop) :
    contract.wp pid call (program >>= next) Q =
      contract.wp pid call program (contract.bindPost pid call next Q) := by
  rw [Program.bind_eq, wp_andThen]
  congr 1
  funext outcome
  cases outcome <;> rfl

theorem wp_of_andThen {program : Program sig α} {next : Except sig.Error α → Program sig β}
    {Q : Except sig.Error β → Option (Session World Key) → World → Prop}
    {session : Option (Session World Key)} {world : World}
    (safe : contract.wp pid call program (fun outcome => contract.wp pid call (next outcome) Q)
      session world) : contract.wp pid call (program.andThen next) Q session world := by
  rw [wp_andThen]
  exact safe

theorem wp_of_bind {program : Program sig α} {next : α → Program sig β}
    {Q : Except sig.Error β → Option (Session World Key) → World → Prop}
    {session : Option (Session World Key)} {world : World}
    (safe : contract.wp pid call program (contract.bindPost pid call next Q) session world) :
    contract.wp pid call (program >>= next) Q session world := by
  rw [wp_bind]
  exact safe

variable (contract pid call) in
/-- The continuation of a `try` block: the value stands, an error is handled. -/
def catchPost (handler : sig.Error → Program sig α)
    (Q : Except sig.Error α → Option (Session World Key) → World → Prop) :
    Except sig.Error α → Option (Session World Key) → World → Prop
  | .ok value => Q (.ok value)
  | .error error => contract.wp pid call (handler error) Q

theorem wp_tryCatch (program : Program sig α) (handler : sig.Error → Program sig α)
    (Q : Except sig.Error α → Option (Session World Key) → World → Prop) :
    contract.wp pid call (tryCatch program handler) Q =
      contract.wp pid call program (contract.catchPost pid call handler Q) := by
  rw [Program.tryCatch_eq, wp_andThen]
  congr 1
  funext outcome
  cases outcome <;> rfl

theorem wp_of_tryCatch {program : Program sig α} {handler : sig.Error → Program sig α}
    {Q : Except sig.Error α → Option (Session World Key) → World → Prop}
    {session : Option (Session World Key)} {world : World}
    (safe : contract.wp pid call program (contract.catchPost pid call handler Q) session world) :
    contract.wp pid call (tryCatch program handler) Q session world := by
  rw [wp_tryCatch]
  exact safe

/-! ### Rules of statements -/

variable (contract pid call) in
/-- What lets a call fail with an error: it lasts while the others move, and the error meets the
contract. -/
structure Excuse (P : sig.Error → World → Prop) : Prop where
  lasts : ∀ {error before after}, contract.rely pid before after → P error before → P error after
  meets : ∀ error world, P error world → contract.post pid call (.error error) world

variable {P : sig.Error → World → Prop}

theorem Excuse.mayDie (excuse : contract.Excuse pid call P) {world : World}
    (excused : ¬ contract.terms.spares pid call world → P sys.databaseFailure world) :
    contract.MayDie pid call world :=
  fun unspared _ calm _ => excuse.meets _ _ (excuse.lasts calm.rely (excused unspared))

/-- A statement outside of a transaction. -/
theorem wp_ask {asked : sig.Statement} {world : World}
    {Q : Except sig.Error (sig.Reply asked) → Option (Session World Key) → World → Prop}
    (excuse : contract.Excuse pid call P)
    (errors : ∀ error world, contract.invariant world → P error world →
      Q (.error error) none world)
    (excused : ¬ contract.terms.spares pid call world → P sys.databaseFailure world)
    (refused : contract.terms.admits pid call asked world → ∀ choice error,
      sys.exec pid choice asked world = .error error → P error world)
    (goesOn : contract.terms.admits pid call asked world → ∀ choice effect,
      sys.exec pid choice asked world = .ok effect →
        contract.invariant (effect.write world) ∧
        contract.Guarantees pid world (effect.write world) ∧
        contract.After pid none (effect.write world) (Q (.ok effect.reply) none)) :
    contract.wp pid call (Program.ask asked) Q none world := by
  have fails : ∀ error, P error world → contract.After pid none world (Q (.error error) none) :=
    fun error holds after calm sound => errors error after sound (excuse.lasts calm.rely holds)
  refine ⟨excuse.mayDie excused, fun unspared => fails _ (excused unspared), nofun, ?_⟩
  intro _ admitted choice
  exact ⟨fun error executed => fails error (refused admitted choice error executed),
    goesOn admitted choice⟩

/-- A statement that writes nothing and is never refused. -/
theorem wp_read {asked : sig.Statement} {world : World} {keys : List Key}
    {reply : Nat → sig.Reply asked}
    {Q : Except sig.Error (sig.Reply asked) → Option (Session World Key) → World → Prop}
    (reads : ∀ choice, sys.exec pid choice asked world =
      .ok ⟨reply choice, fun world => world, keys⟩)
    (excuse : contract.Excuse pid call P) (holds : contract.invariant world)
    (errors : ∀ error world, contract.invariant world → P error world →
      Q (.error error) none world)
    (excused : ¬ contract.terms.spares pid call world → P sys.databaseFailure world)
    (goesOn : contract.terms.admits pid call asked world → ∀ choice,
      contract.After pid none world (Q (.ok (reply choice)) none)) :
    contract.wp pid call (Program.ask asked) Q none world := by
  refine wp_ask excuse errors excused ?_ ?_
  · intro _ choice error executed
    rw [reads] at executed
    cases executed
  · intro admitted choice effect executed
    rw [reads] at executed
    cases executed
    exact ⟨holds, fun other _ => contract.rely_refl other world, goesOn admitted choice⟩

/-- A statement inside of a transaction. -/
theorem wp_ask_within {asked : sig.Statement} {world : World} {opened : Session World Key}
    {Q : Except sig.Error (sig.Reply asked) → Option (Session World Key) → World → Prop}
    (excuse : contract.Excuse pid call P) (sound : opened.doomed = false)
    (errors : ∀ error session world, contract.invariant world → P error world →
      Q (.error error) session world)
    (excused : ¬ contract.terms.spares pid call world → P sys.databaseFailure world)
    (refused : contract.terms.admits pid call asked (opened.pending world) → ∀ choice error,
      sys.exec pid choice asked (opened.pending world) = .error error → P error world)
    (goesOn : contract.terms.admits pid call asked (opened.pending world) → ∀ choice effect,
      sys.exec pid choice asked (opened.pending world) = .ok effect →
        contract.After pid (some (opened.extend effect)) world
          (Q (.ok effect.reply) (some (opened.extend effect)))) :
    contract.wp pid call (Program.ask asked) Q (some opened) world := by
  have fails : ∀ error, P error world → contract.After pid (doom (some opened)) world
      (Q (.error error) (doom (some opened))) :=
    fun error holds after calm sound =>
      errors error _ after sound (excuse.lasts calm.rely holds)
  refine ⟨excuse.mayDie excused, fun unspared => fails _ (excused unspared), ?_, ?_⟩
  · intro doomed
    rw [isDoomed, sound] at doomed
    cases doomed
  · intro _ admitted choice
    exact ⟨fun error executed => fails error (refused admitted choice error executed),
      goesOn admitted choice⟩

variable (contract pid call P) in
/-- What the body of a transaction ends in: an error is excused, a value is committed. -/
def commitPost (Q : Except sig.Error α → Option (Session World Key) → World → Prop) :
    Except sig.Error α → Option (Session World Key) → World → Prop
  | .error error, _, world =>
      (¬ contract.terms.spares pid call world → P sys.databaseFailure world) ∧ P error world
  | .ok value, session, world =>
      (¬ contract.terms.spares pid call world → P sys.databaseFailure world) ∧
      ∃ opened, session = some opened ∧ opened.doomed = false ∧
        contract.invariant (opened.pending world) ∧
        contract.Guarantees pid world (opened.pending world) ∧
        contract.After pid none (opened.pending world) (Q (.ok value) none)

theorem wp_transaction {body : Program sig α} {world : World}
    {Q : Except sig.Error α → Option (Session World Key) → World → Prop}
    (excuse : contract.Excuse pid call P)
    (errors : ∀ error world, contract.invariant world → P error world →
      Q (.error error) none world)
    (excused : ¬ contract.terms.spares pid call world → P sys.databaseFailure world)
    (checked : contract.After pid (some .fresh) world
      (contract.wp pid call body (contract.commitPost pid call P Q) (some .fresh))) :
    contract.wp pid call (Program.transaction body) Q none world := by
  refine ⟨excuse.mayDie excused, rfl, checked.mono fun world safe => ?_⟩
  rw [wp_andThen]
  refine wp_mono body ?_ safe
  rintro (error | value) session world ends
  · obtain ⟨excused, fails⟩ := ends
    refine ⟨excuse.mayDie excused, ?_⟩
    exact fun after calm sound => errors error after sound (excuse.lasts calm.rely fails)
  · obtain ⟨excused, opened, isOpen, sound, commits⟩ := ends
    refine ⟨excuse.mayDie excused, opened, isOpen, fun doomed => ?_, fun _ => commits⟩
    rw [sound] at doomed
    cases doomed

end Contract

namespace Program

variable {α β : Type}

/-- Every statement satisfies `P`, and transactions are not nested: the program ends `after`
having begun `inside` of a transaction or outside. -/
def Stays (P : sig.Statement → Prop) (after : Bool) : Bool → Program sig α → Prop
  | inside, .done _ => inside = after
  | inside, .statement asked next => P asked ∧ ∀ reply, (next reply).Stays P after inside
  | inside, .start next => inside = false ∧ next.Stays P after true
  | inside, .commit next | inside, .rollback next => inside = true ∧ next.Stays P after false

variable {P : sig.Statement → Prop} {inside between after : Bool}

theorem stays_ask {asked : sig.Statement} (holds : P asked) :
    (Program.ask asked).Stays P inside inside :=
  ⟨holds, fun _ => rfl⟩

theorem stays_andThen {program : Program sig α} {next : Except sig.Error α → Program sig β}
    (first : program.Stays P between inside) (second : ∀ outcome, (next outcome).Stays P after between) :
    (program.andThen next).Stays P after inside := by
  induction program generalizing inside with
  | done outcome =>
      cases first
      exact second outcome
  | statement asked rest inductionHypothesis =>
      exact ⟨first.1, fun reply => inductionHypothesis reply (first.2 reply)⟩
  | start rest inductionHypothesis => exact ⟨first.1, inductionHypothesis first.2⟩
  | commit rest inductionHypothesis => exact ⟨first.1, inductionHypothesis first.2⟩
  | rollback rest inductionHypothesis => exact ⟨first.1, inductionHypothesis first.2⟩

theorem stays_bind {program : Program sig α} {next : α → Program sig β}
    (first : program.Stays P inside inside) (second : ∀ value, (next value).Stays P inside inside) :
    (program >>= next).Stays P inside inside := by
  rw [Program.bind_eq]
  refine stays_andThen first ?_
  rintro (error | value)
  · rfl
  · exact second value

theorem stays_tryCatch {program : Program sig α} {handler : sig.Error → Program sig α}
    (first : program.Stays P inside inside)
    (second : ∀ error, (handler error).Stays P inside inside) :
    (tryCatch program handler).Stays P inside inside := by
  rw [Program.tryCatch_eq]
  refine stays_andThen first ?_
  rintro (error | value)
  · exact second error
  · rfl

theorem stays_transaction {body : Program sig α} (stays : body.Stays P true true) :
    (Program.transaction body).Stays P false false := by
  refine ⟨rfl, stays_andThen stays ?_⟩
  rintro (error | value) <;> exact ⟨rfl, rfl⟩

end Program

namespace Contract

variable {sys : System sig World Key Call} {contract : Contract sys} {pid : Pid} {call : Call}

variable (contract pid) in
/-- A write that keeps the contract wherever it is applied. -/
def Bears (write : World → World) : Prop :=
  ∀ world, contract.invariant world →
    contract.invariant (write world) ∧ contract.Guarantees pid world (write world)

variable (contract pid) in
/-- What the session's transaction has written keeps the contract. -/
def Borne (inside : Bool) : Option (Session World Key) → Prop
  | none => inside = false
  | some opened => inside = true ∧ contract.Bears pid opened.pending

theorem Borne.doom {inside : Bool} {session : Option (Session World Key)}
    (borne : contract.Borne pid inside session) :
    contract.Borne pid inside (Transactions.doom session) := by
  cases session <;> exact borne

/-- A program whose statements keep the contract wherever their writes are applied keeps it. -/
theorem wp_of_stays {α : Type} {P : sig.Statement → Prop} {inside after : Bool}
    {Q : Except sig.Error α → Option (Session World Key) → World → Prop}
    (fails : ∀ error world, contract.post pid call (.error error) world)
    (bears : ∀ asked, P asked → ∀ choice view effect, contract.terms.admits pid call asked view →
      sys.exec pid choice asked view = .ok effect → contract.Bears pid effect.write)
    (ends : ∀ outcome session world, contract.invariant world →
      contract.Borne pid after session → Q outcome session world)
    {program : Program sig α} (stays : program.Stays P after inside)
    {session : Option (Session World Key)} (borne : contract.Borne pid inside session)
    {world : World} (holds : contract.invariant world) :
    contract.wp pid call program Q session world := by
  have dies : ∀ world, contract.MayDie pid call world := fun _ _ _ _ _ => fails _ _
  induction program generalizing inside session world with
  | done outcome =>
      cases stays
      exact ends outcome session world holds borne
  | statement asked next inductionHypothesis =>
      refine ⟨dies world,
        fun _ _ _ holds => inductionHypothesis _ (stays.2 _) borne.doom holds,
        fun _ _ _ holds => inductionHypothesis _ (stays.2 _) borne holds, ?_⟩
      intro _ admitted choice
      refine ⟨fun _ _ _ _ holds => inductionHypothesis _ (stays.2 _) borne.doom holds, ?_⟩
      intro effect executed
      have writes := bears asked stays.1 choice _ effect admitted executed
      cases session with
      | none =>
          exact ⟨(writes world holds).1, (writes world holds).2,
            fun _ _ holds => inductionHypothesis _ (stays.2 _) borne holds⟩
      | some opened =>
          have extended : contract.Borne pid inside (some (opened.extend effect)) := by
            refine ⟨borne.1, fun world holds => ?_⟩
            obtain ⟨keeps, guarantees⟩ := borne.2 world holds
            refine ⟨(writes _ keeps).1, fun other distinct => ?_⟩
            exact contract.rely_trans other (guarantees other distinct)
              ((writes _ keeps).2 other distinct)
          exact fun _ _ holds => inductionHypothesis _ (stays.2 _) extended holds
  | start next inductionHypothesis =>
      obtain ⟨rfl, stays⟩ := stays
      cases session with
      | some opened => cases borne.1
      | none =>
          have fresh : contract.Borne pid true (some Session.fresh) :=
            ⟨rfl, fun world holds => ⟨holds, fun other _ => contract.rely_refl other world⟩⟩
          exact ⟨dies world, rfl, fun _ _ holds => inductionHypothesis stays fresh holds⟩
  | commit next inductionHypothesis =>
      obtain ⟨rfl, stays⟩ := stays
      have closed : contract.Borne pid false none := rfl
      cases session with
      | none => cases borne
      | some opened =>
          refine ⟨dies world, opened, rfl, fun _ _ _ holds => inductionHypothesis stays closed holds,
            fun _ => ?_⟩
          obtain ⟨keeps, guarantees⟩ := borne.2 world holds
          exact ⟨keeps, guarantees, fun _ _ holds => inductionHypothesis stays closed holds⟩
  | rollback next inductionHypothesis =>
      obtain ⟨rfl, stays⟩ := stays
      have closed : contract.Borne pid false none := rfl
      exact ⟨dies world, fun _ _ holds => inductionHypothesis stays closed holds⟩

/-! ### Soundness -/

variable (contract) in
/-- What a call owes when it has ended. -/
def ends (pid : Pid) (call : Call) (outcome : Except sig.Error Unit)
    (_ : Option (Session World Key)) (world : World) : Prop :=
  contract.post pid call outcome world

variable (contract) in
/-- A call with its remaining program checked from the present world. -/
def Checked (pid : Pid) (thread : Thread sig World Key Call) (world : World) : Prop :=
  contract.After pid thread.session world
    (contract.wp pid thread.call thread.rest (contract.ends pid thread.call) thread.session)

variable (contract) in
/-- A machine that keeps the contract. -/
structure Keeps (machine : Machine sig World Key Call) : Prop where
  holds : contract.invariant machine.world
  fresh : ∀ pid, machine.threads pid = none → contract.fresh pid machine.world
  checked : ∀ pid thread, machine.threads pid = some thread →
    contract.Checked pid thread machine.world
  locked : ∀ pid thread opened, machine.threads pid = some thread →
    thread.session = some opened → ∀ key ∈ opened.held, machine.holder key = some pid
  framed : ∀ pid thread opened, machine.threads pid = some thread →
    thread.session = some opened → ∀ key, key ∉ opened.held →
      ∀ world, sys.Agree key world (opened.pending world)

variable {machine : Machine sig World Key Call}

/-- What is left of the other calls when one call moves on. -/
structure Spares (contract : Contract sys) (pid : Pid) (machine : Machine sig World Key Call)
    (world : World) (holder : Key → Option Pid) : Prop where
  guarantees : contract.Guarantees pid machine.world world
  agrees : ∀ other foreign opened, other ≠ pid → machine.threads other = some foreign →
    foreign.session = some opened → ∀ key ∈ opened.held, sys.Agree key machine.world world
  holds : ∀ other foreign opened, other ≠ pid → machine.threads other = some foreign →
    foreign.session = some opened → ∀ key ∈ opened.held, holder key = some other

/-- One call moves on. The others stay checked when the change of the world is one they rely on and
leaves the rows they hold. -/
private theorem Keeps.set (keeps : contract.Keeps machine) {world : World}
    {holder : Key → Option Pid} {thread : Thread sig World Key Call}
    (holds : contract.invariant world) (spares : contract.Spares pid machine world holder)
    (checked : contract.Checked pid thread world)
    (locked : ∀ opened, thread.session = some opened →
      ∀ key ∈ opened.held, holder key = some pid)
    (framed : ∀ opened, thread.session = some opened → ∀ key, key ∉ opened.held →
      ∀ world, sys.Agree key world (opened.pending world)) :
    contract.Keeps (({ machine with world, holder } : Machine sig World Key Call).set pid
      thread) where
  holds := holds
  fresh := by
    intro other idle
    by_cases same : other = pid
    · subst same
      simp only [Machine.set, Function.update_self, reduceCtorEq] at idle
    · simp only [Machine.set, ne_eq, same, not_false_eq_true, Function.update_of_ne] at idle
      exact contract.fresh_of_rely other (spares.guarantees other same) (keeps.fresh other idle)
  checked := by
    intro other foreign inFlight
    by_cases same : other = pid
    · subst same
      simp only [Machine.set, Function.update_self, Option.some.injEq] at inFlight
      exact inFlight ▸ checked
    · simp only [Machine.set, ne_eq, same, not_false_eq_true, Function.update_of_ne] at inFlight
      refine (keeps.checked other foreign inFlight).later ⟨spares.guarantees other same, ?_⟩
      intro opened isOpen key held
      exact spares.agrees other foreign opened same inFlight isOpen key held
  locked := by
    intro other foreign opened inFlight isOpen key held
    by_cases same : other = pid
    · subst same
      simp only [Machine.set, Function.update_self, Option.some.injEq] at inFlight
      exact locked opened (inFlight ▸ isOpen) key held
    · simp only [Machine.set, ne_eq, same, not_false_eq_true, Function.update_of_ne] at inFlight
      exact spares.holds other foreign opened same inFlight isOpen key held
  framed := by
    intro other foreign opened inFlight isOpen key held
    by_cases same : other = pid
    · subst same
      simp only [Machine.set, Function.update_self, Option.some.injEq] at inFlight
      exact framed opened (inFlight ▸ isOpen) key held
    · simp only [Machine.set, ne_eq, same, not_false_eq_true, Function.update_of_ne] at inFlight
      exact keeps.framed other foreign opened inFlight isOpen key held

/-- Nothing that the others see changes. -/
private theorem Keeps.spares_same (keeps : contract.Keeps machine) :
    contract.Spares pid machine machine.world machine.holder where
  guarantees other _ := contract.rely_refl other machine.world
  agrees _ _ _ _ _ _ key _ := sys.agree_refl key machine.world
  holds other foreign opened _ inFlight isOpen := keeps.locked other foreign opened inFlight isOpen

/-- A row that `pid` let go of was not one that another call holds. -/
private theorem Keeps.spares_release (keeps : contract.Keeps machine) {world : World}
    (guarantees : contract.Guarantees pid machine.world world)
    (agrees : ∀ other foreign opened, other ≠ pid → machine.threads other = some foreign →
      foreign.session = some opened → ∀ key ∈ opened.held, sys.Agree key machine.world world) :
    contract.Spares pid machine world (machine.release pid).holder where
  guarantees := guarantees
  agrees := agrees
  holds := by
    intro other foreign opened distinct inFlight isOpen key held
    have holder := keeps.locked other foreign opened inFlight isOpen key held
    simp [Machine.release, holder, distinct]

private theorem Keeps.spares_released (keeps : contract.Keeps machine) :
    contract.Spares pid machine machine.world (machine.release pid).holder :=
  keeps.spares_release (fun other _ => contract.rely_refl other machine.world)
    fun _ _ _ _ _ _ key _ => sys.agree_refl key machine.world

private theorem Keeps.others_hold [DecidableEq Key] (keeps : contract.Keeps machine)
    {keys : List Key} (free : machine.free pid keys = true) {other : Pid}
    {foreign : Thread sig World Key Call} {opened : Session World Key} (distinct : other ≠ pid)
    (inFlight : machine.threads other = some foreign) (isOpen : foreign.session = some opened)
    {key : Key} (held : key ∈ opened.held) : key ∉ keys := by
  intro member
  have holder := keeps.locked other foreign opened inFlight isOpen key held
  have unheld := List.all_eq_true.mp free key member
  rw [holder] at unheld
  simp [distinct] at unheld

/-- A call that may die does so in the contract. -/
private theorem Keeps.crash (keeps : contract.Keeps machine)
    (dies : contract.MayDie pid call machine.world)
    (unspared : ¬ contract.terms.spares pid call machine.world) :
    contract.Keeps ((machine.release pid).set pid
      ⟨call, none, .done (.error sys.databaseFailure)⟩) :=
  keeps.set keeps.holds keeps.spares_released (dies unspared) nofun nofun

/-- A session that has failed holds the same rows. -/
private theorem held_of_doom {session : Option (Session World Key)} {opened : Session World Key}
    (isOpen : doom session = some opened) :
    ∃ before, session = some before ∧ opened.held = before.held ∧
      opened.pending = before.pending := by
  obtain ⟨before, same, rfl⟩ := Option.map_eq_some_iff.mp isOpen
  exact ⟨before, same, rfl, rfl⟩

/-- A call goes on after an error. -/
private theorem Keeps.errs (keeps : contract.Keeps machine) {session : Option (Session World Key)}
    {rest next : Program sig Unit} (inFlight : machine.threads pid = some ⟨call, session, rest⟩)
    (checked : contract.After pid (doom session) machine.world
      (contract.wp pid call next (contract.ends pid call) (doom session))) :
    contract.Keeps (machine.set pid ⟨call, doom session, next⟩) := by
  refine keeps.set keeps.holds keeps.spares_same checked ?_ ?_
  · intro opened isOpen key held
    obtain ⟨before, same, sameRows, -⟩ := held_of_doom isOpen
    exact keeps.locked pid _ before inFlight same key (sameRows ▸ held)
  · intro opened isOpen key free
    obtain ⟨before, same, sameRows, sameWrites⟩ := held_of_doom isOpen
    rw [sameWrites]
    exact keeps.framed pid _ before inFlight same key (sameRows ▸ free)

section Steps

variable [DecidableEq Key]

/-- The next instruction of a checked call keeps the contract. -/
private theorem Keeps.stepThread (keeps : contract.Keeps machine) {choice : Nat}
    {thread : Thread sig World Key Call} {after : Machine sig World Key Call}
    (inFlight : machine.threads pid = some thread)
    (admitted : ∀ asked next, thread.rest = .statement asked next →
      contract.terms.admits pid thread.call asked (view thread.session machine.world))
    (stepped : sys.stepThread machine pid choice thread = some after) : contract.Keeps after := by
  have checked := (keeps.checked pid thread inFlight).here keeps.holds
  have locked := keeps.locked pid thread
  have framed := keeps.framed pid thread
  obtain ⟨call, session, rest⟩ := thread
  cases rest with
  | done outcome => cases stepped
  | statement asked next =>
      obtain ⟨-, -, aborts, executes⟩ := checked
      simp only [System.stepThread] at stepped
      split at stepped
      · next doomed =>
        cases stepped
        exact keeps.set keeps.holds keeps.spares_same (aborts doomed) (locked · inFlight)
          (framed · inFlight)
      · next sound =>
        obtain ⟨errs, goesOn⟩ := executes (by simpa using sound) (admitted asked next rfl) choice
        split at stepped
        · next error executed =>
          cases stepped
          exact keeps.errs inFlight (errs error executed)
        · next effect executed =>
          split at stepped
          · next free =>
            have step := goesOn effect executed
            cases session with
            | none =>
                cases stepped
                refine keeps.set step.1 ⟨step.2.1, ?_, ?_⟩ step.2.2 nofun nofun
                · intro other foreign opened distinct otherInFlight isOpen key held
                  exact sys.framed executed key
                    (keeps.others_hold free distinct otherInFlight isOpen held) machine.world
                · intro other foreign opened _ otherInFlight isOpen
                  exact keeps.locked other foreign opened otherInFlight isOpen
            | some opened =>
                cases stepped
                refine keeps.set keeps.holds ⟨fun other _ => contract.rely_refl other _, ?_, ?_⟩
                  step ?_ ?_
                · exact fun _ _ _ _ _ _ key _ => sys.agree_refl key machine.world
                · intro other foreign mine distinct otherInFlight isOpen key held
                  have absent := keeps.others_hold free distinct otherInFlight isOpen held
                  simpa [Machine.take, absent] using
                    keeps.locked other foreign mine otherInFlight isOpen key held
                · intro extended same key held
                  cases same
                  rcases List.mem_append.mp held with taken | kept
                  · simp [taken]
                  · simp [locked opened inFlight rfl key kept]
                · intro extended same key free world
                  cases same
                  have apart : key ∉ effect.keys ∧ key ∉ opened.held := by
                    simpa [Session.extend] using free
                  exact sys.agree_trans key (framed opened inFlight rfl key apart.2 world)
                    (sys.framed executed key apart.1 _)
          · cases stepped
  | start next =>
      cases session with
      | some opened => cases stepped
      | none =>
          cases stepped
          refine keeps.set keeps.holds keeps.spares_same checked.2.2 ?_ ?_
          · rintro opened ⟨⟩ key held
            exact absurd held List.not_mem_nil
          · rintro opened ⟨⟩ key _ world
            exact sys.agree_refl key world
  | commit next =>
      cases session with
      | none => cases stepped
      | some opened =>
          obtain ⟨-, same, isOpen, doomedGoesOn, soundGoesOn⟩ := checked
          cases isOpen
          simp only [System.stepThread, Option.some.injEq] at stepped
          subst stepped
          cases doomed : opened.doomed with
          | true =>
              exact keeps.set keeps.holds keeps.spares_released (doomedGoesOn doomed) nofun nofun
          | false =>
              obtain ⟨holds, guarantees, goesOn⟩ := soundGoesOn doomed
              refine keeps.set holds (keeps.spares_release guarantees ?_) goesOn nofun nofun
              intro other foreign mine distinct otherInFlight isOpen key held
              refine framed opened inFlight rfl key ?_ machine.world
              intro heldTwice
              have first := locked opened inFlight rfl key heldTwice
              have second := keeps.locked other foreign mine otherInFlight isOpen key held
              exact distinct (Option.some.inj (second.symm.trans first))
  | rollback next =>
      cases session with
      | none => cases stepped
      | some opened =>
          cases stepped
          exact keeps.set keeps.holds keeps.spares_released checked.2 nofun nofun

variable (contract) in
/-- Every call that runs are allowed to issue keeps the contract. -/
def Safe : Prop :=
  ∀ pid call world, contract.terms.issues call world → sys.enabled call world = true →
    contract.invariant world → contract.fresh pid world →
      contract.After pid none world
        (contract.wp pid call (sys.program call) (contract.ends pid call) none)

private theorem Keeps.step (keeps : contract.Keeps machine) (safe : contract.Safe)
    {move : Move Call} {after : Machine sig World Key Call}
    (admitted : contract.terms.AdmitsMove machine move)
    (stepped : sys.step machine move = some after) : contract.Keeps after := by
  cases move with
  | issue pid call =>
      simp only [System.step] at stepped
      split at stepped
      · next idle =>
        split at stepped
        · next enabled =>
          cases stepped
          exact keeps.set keeps.holds keeps.spares_same
            (safe pid call machine.world admitted enabled keeps.holds (keeps.fresh pid idle))
            nofun nofun
        · cases stepped
      · cases stepped
  | step pid choice =>
      simp only [System.step] at stepped
      split at stepped
      · cases stepped
      · next thread inFlight =>
        exact keeps.stepThread inFlight (admitted thread inFlight) stepped
  | fail pid =>
      simp only [System.step] at stepped
      split at stepped
      · next call session asked next inFlight =>
        cases stepped
        obtain ⟨-, faults, -⟩ := (keeps.checked pid _ inFlight).here keeps.holds
        exact keeps.errs inFlight (faults (admitted _ inFlight))
      · cases stepped
  | crash pid =>
      simp only [System.step] at stepped
      split at stepped
      · cases stepped
      · cases stepped
      · next thread unfinished inFlight =>
        cases stepped
        have checked := (keeps.checked pid _ inFlight).here keeps.holds
        obtain ⟨call, session, rest⟩ := thread
        refine keeps.crash ?_ (admitted _ inFlight)
        cases rest with
        | done outcome => exact absurd rfl (unfinished call session outcome)
        | statement | start | commit | rollback => exact checked.1

/-- Every machine of every run keeps the contract. -/
theorem keeps_of_reaches {start : World} (safe : contract.Safe) (holds : contract.invariant start)
    (fresh : ∀ pid, contract.fresh pid start)
    (reached : ReachesUnder sys contract.terms start machine) : contract.Keeps machine := by
  induction reached with
  | idle => exact ⟨holds, fun pid _ => fresh pid, nofun, nofun, nofun⟩
  | move _ _ admitted stepped inductionHypothesis =>
      exact inductionHypothesis.step safe admitted stepped

omit [DecidableEq Key] in
/-- The call has come to its end. -/
theorem Keeps.ended (keeps : contract.Keeps machine) {outcome : Except sig.Error Unit}
    {session : Option (Session World Key)}
    (returned : machine.threads pid = some ⟨call, session, .done outcome⟩) :
    contract.post pid call outcome machine.world :=
  (keeps.checked pid _ returned).here keeps.holds

end Steps

end Contract

end MarketMind.Transactions
