import MarketMind.Transactions.RelyGuarantee

/-!
Owns the serial meaning of programs: one call runs alone, from its first
statement to its end, while the database may fail any of its statements. What
`wp` checks holds of every such run.

Also owns the rules for what a call leaves alone: `Quiet` calls, and `Clean`
ones, which do when they throw; and the rules for what a call achieves when the
database executes all that it is asked for.
-/

namespace MarketMind.Transactions

variable {sig : Signature} {World Key : Type}

/-- How far a call has come: the number of statements it has asked for, its open
transaction, and the committed world. -/
structure Progress (World Key : Type) where
  count : Nat
  session : Option (Session World Key)
  world : World

/-- What the environment decides during a run: which call it is, what the
source leaves open, and which statements the database fails to execute. -/
structure Schedule where
  pid : Pid
  choices : Nat → Nat
  faults : Nat → Bool

/-- The database executes every statement of the call. -/
def Schedule.sound (pid : Pid) (choices : Nat → Nat) : Schedule := ⟨pid, choices, fun _ => false⟩

namespace Store

variable (store : Store sig World Key) (schedule : Schedule) {α β : Type}

/-- Run a program alone, from any point of a transaction. -/
def run : Program sig α → Progress World Key → Except sig.Error α × Progress World Key
  | .done outcome, progress => (outcome, progress)
  | .statement asked next, progress =>
      let asking := { progress with count := progress.count + 1 }
      let failing := { asking with session := doom progress.session }
      if isDoomed progress.session then run (next (.error store.aborted)) asking
      else if schedule.faults progress.count then
        run (next (.error store.databaseFailure)) failing
      else
        match store.exec schedule.pid (schedule.choices progress.count) asked
            (view progress.session progress.world) with
        | .error error => run (next (.error error)) failing
        | .ok effect =>
            match progress.session with
            | none =>
                run (next (.ok effect.reply))
                  { asking with world := effect.write progress.world }
            | some opened =>
                run (next (.ok effect.reply))
                  { asking with session := some (opened.extend effect) }
  | .start next, progress =>
      match progress.session with
      | none => run next { progress with session := some .fresh }
      | some _ => run next progress
  | .commit next, progress =>
      match progress.session with
      | none => run next progress
      | some opened =>
          run next
            { progress with
              session := none
              world := if opened.doomed then progress.world else opened.pending progress.world }
  | .rollback next, progress => run next { progress with session := none }

/-- One call in a quiet database: what it returns, and the world after it. -/
def call (program : Program sig α) (world : World) : Except sig.Error α × World :=
  let ended := store.run schedule program ⟨0, none, world⟩
  (ended.1, ended.2.world)

variable {store} {schedule}

theorem run_andThen (program : Program sig α) (next : Except sig.Error α → Program sig β)
    (progress : Progress World Key) :
    store.run schedule (program.andThen next) progress =
      store.run schedule (next (store.run schedule program progress).1)
        (store.run schedule program progress).2 := by
  induction program generalizing progress with
  | done outcome => rfl
  | statement asked rest inductionHypothesis =>
      simp only [Program.andThen, run, inductionHypothesis]
      split
      · rfl
      · split
        · rfl
        · split
          · rfl
          · split <;> rfl
  | start rest inductionHypothesis =>
      simp only [Program.andThen, run, inductionHypothesis]
      split <;> rfl
  | commit rest inductionHypothesis =>
      simp only [Program.andThen, run, inductionHypothesis]
      split <;> rfl
  | rollback rest inductionHypothesis =>
      simp only [Program.andThen, run, inductionHypothesis]

theorem run_bind (program : Program sig α) (next : α → Program sig β)
    (progress : Progress World Key) :
    store.run schedule (program >>= next) progress =
      match store.run schedule program progress with
      | (.ok value, reached) => store.run schedule (next value) reached
      | (.error error, reached) => (.error error, reached) := by
  rw [Program.bind_eq, run_andThen]
  rcases store.run schedule program progress with ⟨outcome, reached⟩
  cases outcome <;> rfl

theorem run_tryCatch (program : Program sig α) (handler : sig.Error → Program sig α)
    (progress : Progress World Key) :
    store.run schedule (tryCatch program handler) progress =
      match store.run schedule program progress with
      | (.ok value, reached) => (.ok value, reached)
      | (.error error, reached) => store.run schedule (handler error) reached := by
  rw [Program.tryCatch_eq, run_andThen]
  rcases store.run schedule program progress with ⟨outcome, reached⟩
  cases outcome <;> rfl

/-- A statement is executed, or it fails and leaves everything as it was. -/
theorem run_ask (store : Store sig World Key) (schedule : Schedule) (asked : sig.Statement)
    (progress : Progress World Key) :
    (∃ error session, store.run schedule (Program.ask asked) progress =
      (.error error, ⟨progress.count + 1, session, progress.world⟩) ∧
        (session = progress.session ∨ session = doom progress.session)) ∨
    (∃ choice effect, store.exec schedule.pid choice asked
        (view progress.session progress.world) = .ok effect ∧
      isDoomed progress.session = false ∧
      store.run schedule (Program.ask asked) progress =
        (.ok effect.reply, ⟨progress.count + 1,
          progress.session.map (·.extend effect),
          match progress.session with
          | none => effect.write progress.world
          | some _ => progress.world⟩)) := by
  obtain ⟨count, session, world⟩ := progress
  simp only [Program.ask, run]
  split
  · exact Or.inl ⟨_, session, rfl, Or.inl rfl⟩
  · next sound =>
    split
    · exact Or.inl ⟨_, doom session, rfl, Or.inr rfl⟩
    · split
      · exact Or.inl ⟨_, doom session, rfl, Or.inr rfl⟩
      · next effect executed =>
        refine Or.inr ⟨_, effect, executed, by simpa using sound, ?_⟩
        cases session <;> rfl

/-! ### What `wp` checks holds of serial runs -/

theorem run_of_wp {Call : Type} {sys : System sig World Key Call} {protocol : Protocol sys}
    {schedule : Schedule} {call : Call} {program : Program sig α}
    {Q : Except sig.Error α → Option (Session World Key) → World → Prop}
    (admitted : ∀ asked world, protocol.discipline.admits schedule.pid call asked world)
    {progress : Progress World Key} (holds : protocol.invariant progress.world)
    (safe : protocol.wp schedule.pid call program Q progress.session progress.world) :
    protocol.invariant (sys.run schedule program progress).2.world ∧
      Q (sys.run schedule program progress).1 (sys.run schedule program progress).2.session
        (sys.run schedule program progress).2.world := by
  induction program generalizing progress with
  | done outcome => exact ⟨holds, safe⟩
  | statement asked rest inductionHypothesis =>
      obtain ⟨count, session, world⟩ := progress
      simp only [run]
      split
      · next doomed =>
        have same : doom session = session := by
          cases session with
          | none => rfl
          | some opened =>
              simp only [isDoomed] at doomed
              simp [doom, doomed.symm]
        have goesOn := (safe.1 sys.aborted).here holds
        rw [same] at goesOn
        exact inductionHypothesis _ holds goesOn
      · next sound =>
        split
        · exact inductionHypothesis _ holds ((safe.1 sys.databaseFailure).here holds)
        · split
          · next error _ => exact inductionHypothesis _ holds ((safe.1 error).here holds)
          · next effect executed =>
            have goesOn := safe.2 (by simpa using sound) (admitted asked _) _ effect executed
            cases session with
            | none => exact inductionHypothesis _ goesOn.1 (goesOn.2.2.here goesOn.1)
            | some opened => exact inductionHypothesis _ holds (Protocol.After.here goesOn holds)
  | start rest inductionHypothesis =>
      obtain ⟨count, session, world⟩ := progress
      obtain ⟨closed, safe⟩ := safe
      cases closed
      exact inductionHypothesis holds (safe.here holds)
  | commit rest inductionHypothesis =>
      obtain ⟨count, session, world⟩ := progress
      obtain ⟨opened, isOpen, doomed, sound⟩ := safe
      cases isOpen
      simp only [run]
      cases state : opened.doomed with
      | true => exact inductionHypothesis holds ((doomed state).here holds)
      | false =>
          obtain ⟨holdsAfter, -, after⟩ := sound state
          exact inductionHypothesis holdsAfter (after.here holdsAfter)
  | rollback rest inductionHypothesis =>
      exact inductionHypothesis holds (Protocol.After.here safe holds)

/-- A call that keeps the protocol keeps the invariant when it runs alone. -/
theorem invariant_of_call {Call : Type} {sys : System sig World Key Call} {protocol : Protocol sys}
    {schedule : Schedule} {call : Call} {program : Program sig α}
    {Q : Except sig.Error α → Option (Session World Key) → World → Prop}
    (admitted : ∀ asked world, protocol.discipline.admits schedule.pid call asked world)
    {world : World} (holds : protocol.invariant world)
    (safe : protocol.wp schedule.pid call program Q none world) :
    protocol.invariant (sys.toStore.call schedule program world).2 := by
  let begun : Progress World Key := ⟨0, none, world⟩
  have safeBegun : protocol.wp schedule.pid call program Q begun.session begun.world := safe
  exact (run_of_wp admitted holds safeBegun).1

/-! ### What a call leaves alone -/

variable (store) in
/-- The program ends outside transactions, after changes within `R` only. -/
def Quiet (R : World → World → Prop) (program : Program sig α) : Prop :=
  ∀ schedule progress, progress.session = none →
    (store.run schedule program progress).2.session = none ∧
      R progress.world (store.run schedule program progress).2.world

variable (store) in
/-- The program ends outside transactions and, if it throws, after changes within `R` only. -/
def Clean (R : World → World → Prop) (program : Program sig α) : Prop :=
  ∀ schedule progress, progress.session = none →
    (store.run schedule program progress).2.session = none ∧
      ∀ error, (store.run schedule program progress).1 = .error error →
        R progress.world (store.run schedule program progress).2.world

/-- The program asks for statements only; it opens and ends no transaction. -/
def Flat : Program sig α → Prop
  | .done _ => True
  | .statement _ next => ∀ reply, Flat (next reply)
  | .start _ | .commit _ | .rollback _ => False

theorem flat_ask (asked : sig.Statement) : Flat (Program.ask asked) := fun _ => trivial

theorem flat_pure (value : α) : Flat (pure value : Program sig α) := trivial

theorem flat_throw (error : sig.Error) : Flat (throw error : Program sig α) := trivial

theorem flat_andThen {program : Program sig α} {next : Except sig.Error α → Program sig β}
    (first : Flat program) (second : ∀ outcome, Flat (next outcome)) :
    Flat (program.andThen next) := by
  induction program with
  | done outcome => exact second outcome
  | statement asked rest inductionHypothesis =>
      exact fun reply => inductionHypothesis reply (first reply)
  | start => exact first.elim
  | commit => exact first.elim
  | rollback => exact first.elim

theorem flat_bind {program : Program sig α} {next : α → Program sig β}
    (first : Flat program) (second : ∀ value, Flat (next value)) : Flat (program >>= next) := by
  refine flat_andThen first fun outcome => ?_
  cases outcome with
  | ok value => exact second value
  | error error => trivial

theorem flat_tryCatch {program : Program sig α} {handler : sig.Error → Program sig α}
    (first : Flat program) (second : ∀ error, Flat (handler error)) :
    Flat (tryCatch program handler) := by
  refine flat_andThen first fun outcome => ?_
  cases outcome with
  | ok value => trivial
  | error error => exact second error

/-- Every statement that the program may ask for is one of `P`; the program opens and
ends no transaction. -/
def Asks (P : sig.Statement → Prop) : Program sig α → Prop
  | .done _ => True
  | .statement asked next => P asked ∧ ∀ reply, Asks P (next reply)
  | .start _ | .commit _ | .rollback _ => False

section Asks

variable {P : sig.Statement → Prop}

theorem asks_ask {asked : sig.Statement} (holds : P asked) : Asks P (Program.ask asked) :=
  ⟨holds, fun _ => trivial⟩

theorem asks_pure (value : α) : Asks P (pure value : Program sig α) := trivial

theorem asks_throw (error : sig.Error) : Asks P (throw error : Program sig α) := trivial

theorem asks_andThen {program : Program sig α} {next : Except sig.Error α → Program sig β}
    (first : Asks P program) (second : ∀ outcome, Asks P (next outcome)) :
    Asks P (program.andThen next) := by
  induction program with
  | done outcome => exact second outcome
  | statement asked rest inductionHypothesis =>
      exact ⟨first.1, fun reply => inductionHypothesis reply (first.2 reply)⟩
  | start => exact first.elim
  | commit => exact first.elim
  | rollback => exact first.elim

theorem asks_bind {program : Program sig α} {next : α → Program sig β}
    (first : Asks P program) (second : ∀ value, Asks P (next value)) :
    Asks P (program >>= next) := by
  refine asks_andThen first fun outcome => ?_
  cases outcome with
  | ok value => exact second value
  | error error => trivial

theorem asks_tryCatch {program : Program sig α} {handler : sig.Error → Program sig α}
    (first : Asks P program) (second : ∀ error, Asks P (handler error)) :
    Asks P (tryCatch program handler) := by
  refine asks_andThen first fun outcome => ?_
  cases outcome with
  | ok value => trivial
  | error error => exact second error

end Asks

section Rules

variable {R : World → World → Prop}

/-- A program is quiet when, from any world, it keeps a protocol whose invariant
says that only changes within `R` have been made to that world. -/
theorem quiet_of_wp {Call : Type} {sys : System sig World Key Call} (call : Call)
    (protocol : World → Protocol sys)
    (admitted : ∀ world pid asked seen, (protocol world).discipline.admits pid call asked seen)
    (begins : ∀ world, (protocol world).invariant world)
    (within : ∀ world after, (protocol world).invariant after → R world after)
    {program : Program sig α}
    (safe : ∀ pid world, (protocol world).wp pid call program
      (fun _ session _ => session = none) none world) :
    sys.toStore.Quiet R program := by
  intro schedule progress closed
  obtain ⟨count, session, world⟩ := progress
  cases closed
  let begun : Progress World Key := ⟨count, none, world⟩
  have safeBegun : (protocol world).wp schedule.pid call program
      (fun _ session _ => session = none) begun.session begun.world := safe schedule.pid world
  obtain ⟨holds, ended⟩ := run_of_wp (admitted world schedule.pid) (begins world) safeBegun
  exact ⟨ended, within world _ holds⟩

theorem Quiet.clean {program : Program sig α} (quiet : store.Quiet R program) :
    store.Clean R program :=
  fun schedule progress closed =>
    ⟨(quiet schedule progress closed).1, fun _ _ => (quiet schedule progress closed).2⟩

theorem quiet_done (reflexive : ∀ world, R world world) (outcome : Except sig.Error α) :
    store.Quiet R (.done outcome : Program sig α) :=
  fun _ progress closed => ⟨closed, reflexive progress.world⟩

theorem quiet_ask (reflexive : ∀ world, R world world) {asked : sig.Statement}
    (writes : ∀ pid choice world effect, store.exec pid choice asked world = .ok effect →
      R world (effect.write world)) :
    store.Quiet R (Program.ask asked) := by
  intro schedule progress closed
  rcases run_ask store schedule asked progress with
    ⟨error, session, ran, sameSession⟩ | ⟨choice, effect, executed, -, ran⟩
  · rw [ran]
    refine ⟨?_, reflexive progress.world⟩
    rcases sameSession with rfl | rfl
    · exact closed
    · rw [closed]
      rfl
  · rw [ran]
    simp only [closed, Option.map_none, true_and]
    rw [closed] at executed
    exact writes _ choice progress.world effect executed

theorem quiet_bind (transitive : ∀ first second third, R first second → R second third →
    R first third) {program : Program sig α} {next : α → Program sig β}
    (first : store.Quiet R program) (second : ∀ value, store.Quiet R (next value)) :
    store.Quiet R (program >>= next) := by
  intro schedule progress closed
  obtain ⟨closedAfter, related⟩ := first schedule progress closed
  rw [run_bind]
  rcases ran : store.run schedule program progress with ⟨outcome, reached⟩
  rw [ran] at closedAfter related
  cases outcome with
  | error error => exact ⟨closedAfter, related⟩
  | ok value =>
      obtain ⟨closedLast, relatedLast⟩ := second value schedule reached closedAfter
      exact ⟨closedLast, transitive _ _ _ related relatedLast⟩

theorem quiet_tryCatch (transitive : ∀ first second third, R first second → R second third →
    R first third) {program : Program sig α} {handler : sig.Error → Program sig α}
    (first : store.Quiet R program) (second : ∀ error, store.Quiet R (handler error)) :
    store.Quiet R (tryCatch program handler) := by
  intro schedule progress closed
  obtain ⟨closedAfter, related⟩ := first schedule progress closed
  rw [run_tryCatch]
  rcases ran : store.run schedule program progress with ⟨outcome, reached⟩
  rw [ran] at closedAfter related
  cases outcome with
  | ok value => exact ⟨closedAfter, related⟩
  | error error =>
      obtain ⟨closedLast, relatedLast⟩ := second error schedule reached closedAfter
      exact ⟨closedLast, transitive _ _ _ related relatedLast⟩

theorem quiet_discard {program : Program sig α} (quiet : store.Quiet R program) :
    store.Quiet R program.discard := by
  intro schedule progress closed
  have quietHere := quiet schedule progress closed
  unfold Program.discard
  rw [run_andThen]
  rcases ran : store.run schedule program progress with ⟨outcome, reached⟩
  rw [ran] at quietHere
  cases outcome <;> exact quietHere

/-- What comes before the last effective step of a clean call has to be quiet. -/
theorem clean_bind (transitive : ∀ first second third, R first second → R second third →
    R first third) {program : Program sig α} {next : α → Program sig β}
    (first : store.Quiet R program) (second : ∀ value, store.Clean R (next value)) :
    store.Clean R (program >>= next) := by
  intro schedule progress closed
  obtain ⟨closedAfter, related⟩ := first schedule progress closed
  rw [run_bind]
  rcases ran : store.run schedule program progress with ⟨outcome, reached⟩
  rw [ran] at closedAfter related
  cases outcome with
  | error error => exact ⟨closedAfter, fun _ _ => related⟩
  | ok value =>
      obtain ⟨closedLast, relatedLast⟩ := second value schedule reached closedAfter
      exact ⟨closedLast, fun error thrown => transitive _ _ _ related (relatedLast error thrown)⟩

/-- A flat program inside a transaction leaves the committed world alone. -/
theorem run_flat (store : Store sig World Key) (schedule : Schedule) {program : Program sig α}
    (flat : Flat program) (progress : Progress World Key)
    (isOpen : progress.session ≠ none) :
    (store.run schedule program progress).2.world = progress.world ∧
      (store.run schedule program progress).2.session ≠ none := by
  induction program generalizing progress with
  | done outcome => exact ⟨rfl, isOpen⟩
  | statement asked rest inductionHypothesis =>
      obtain ⟨count, session, world⟩ := progress
      have stillOpen : doom session ≠ none := by
        cases session with
        | none => exact absurd rfl isOpen
        | some opened => exact nofun
      simp only [run]
      split
      · exact inductionHypothesis _ (flat _) _ isOpen
      · split
        · exact inductionHypothesis _ (flat _) _ stillOpen
        · split
          · exact inductionHypothesis _ (flat _) _ stillOpen
          · cases session with
            | none => exact absurd rfl isOpen
            | some opened => exact inductionHypothesis _ (flat _) _ nofun
  | start => exact flat.elim
  | commit => exact flat.elim
  | rollback => exact flat.elim

/-- A transaction that throws has changed nothing. -/
theorem clean_transaction (reflexive : ∀ world, R world world) {body : Program sig α}
    (flat : Flat body) : store.Clean R (Program.transaction body) := by
  intro schedule progress closed
  simp only [Program.transaction, run, closed, run_andThen]
  have untouched := run_flat store schedule flat
    ({ progress with session := some .fresh } : Progress World Key) (by simp)
  rcases ran : store.run schedule body { progress with session := some .fresh } with
    ⟨outcome, reached⟩
  rw [ran] at untouched
  obtain ⟨sameWorld, isOpen⟩ := untouched
  cases outcome with
  | error error =>
      simp only [run]
      exact ⟨trivial, fun _ _ => sameWorld ▸ reflexive _⟩
  | ok value =>
      simp only [run]
      cases session : reached.session with
      | none => exact absurd session isOpen
      | some opened => exact ⟨rfl, fun _ thrown => absurd thrown (by simp)⟩

end Rules

/-! ### Runs without faults -/

section Faultless

variable (store) (schedule) in
/-- Run alone, the program ends in `Q`. -/
structure Completes (program : Program sig α)
    (Q : Except sig.Error α → Option (Session World Key) → World → Prop)
    (session : Option (Session World Key)) (world : World) : Prop where
  ends : ∀ count, Q (store.run schedule program ⟨count, session, world⟩).1
    (store.run schedule program ⟨count, session, world⟩).2.session
    (store.run schedule program ⟨count, session, world⟩).2.world

variable {session : Option (Session World Key)} {world : World}

variable (store) (schedule) in
/-- The continuation of a `do` block. -/
def thenCompletes (next : α → Program sig β)
    (Q : Except sig.Error β → Option (Session World Key) → World → Prop) :
    Except sig.Error α → Option (Session World Key) → World → Prop
  | .ok value => store.Completes schedule (next value) Q
  | .error error => Q (.error error)

variable (store) (schedule) in
/-- The continuation of a `try` block. -/
def orCompletes (handler : sig.Error → Program sig α)
    (Q : Except sig.Error α → Option (Session World Key) → World → Prop) :
    Except sig.Error α → Option (Session World Key) → World → Prop
  | .ok value => Q (.ok value)
  | .error error => store.Completes schedule (handler error) Q

theorem completes_pure {value : α}
    {Q : Except sig.Error α → Option (Session World Key) → World → Prop}
    (holds : Q (.ok value) session world) :
    store.Completes schedule (pure value : Program sig α) Q session world :=
  ⟨fun _ => holds⟩

theorem completes_throw {error : sig.Error}
    {Q : Except sig.Error α → Option (Session World Key) → World → Prop}
    (holds : Q (.error error) session world) :
    store.Completes schedule (throw error : Program sig α) Q session world :=
  ⟨fun _ => holds⟩

theorem completes_bind {program : Program sig α} {next : α → Program sig β}
    {Q : Except sig.Error β → Option (Session World Key) → World → Prop}
    (first : store.Completes schedule program (store.thenCompletes schedule next Q) session world) :
    store.Completes schedule (program >>= next) Q session world := by
  constructor
  intro count
  have reached := first.ends count
  rw [run_bind]
  rcases ran : store.run schedule program ⟨count, session, world⟩ with ⟨outcome, progress⟩
  rw [ran] at reached
  cases outcome with
  | error error => exact reached
  | ok value => exact reached.ends progress.count

theorem completes_tryCatch {program : Program sig α} {handler : sig.Error → Program sig α}
    {Q : Except sig.Error α → Option (Session World Key) → World → Prop}
    (first : store.Completes schedule program (store.orCompletes schedule handler Q) session
      world) :
    store.Completes schedule (tryCatch program handler) Q session world := by
  constructor
  intro count
  have reached := first.ends count
  rw [run_tryCatch]
  rcases ran : store.run schedule program ⟨count, session, world⟩ with ⟨outcome, progress⟩
  rw [ran] at reached
  cases outcome with
  | error error => exact reached.ends progress.count
  | ok value => exact reached

variable (sound : ∀ count, schedule.faults count = false)

include sound

/-- A statement outside a transaction. -/
theorem completes_ask_alone {asked : sig.Statement}
    {Q : Except sig.Error (sig.Reply asked) → Option (Session World Key) → World → Prop}
    (executes : ∀ choice, ∃ effect, store.exec schedule.pid choice asked world = .ok effect ∧
      Q (.ok effect.reply) none (effect.write world)) :
    store.Completes schedule (Program.ask asked) Q none world := by
  constructor
  intro count
  obtain ⟨effect, executed, holds⟩ := executes (schedule.choices count)
  have ran : store.run schedule (Program.ask asked) ⟨count, none, world⟩ =
      (.ok effect.reply, ⟨count + 1, none, effect.write world⟩) := by
    simp [Program.ask, run, isDoomed, sound, view, executed]
  rw [ran]
  exact holds

/-- A statement outside a transaction that only reads. -/
theorem completes_read_alone {asked : sig.Statement}
    {Q : Except sig.Error (sig.Reply asked) → Option (Session World Key) → World → Prop}
    {reply : sig.Reply asked}
    (reads : ∀ choice, store.exec schedule.pid choice asked world = .ok ⟨reply, id, []⟩)
    (goesOn : Q (.ok reply) none world) :
    store.Completes schedule (Program.ask asked) Q none world :=
  completes_ask_alone sound fun choice => ⟨_, reads choice, goesOn⟩

/-- A statement in a transaction. -/
theorem completes_ask_open {asked : sig.Statement} {opened : Session World Key}
    {Q : Except sig.Error (sig.Reply asked) → Option (Session World Key) → World → Prop}
    (healthy : opened.doomed = false)
    (executes : ∀ choice, ∃ effect,
      store.exec schedule.pid choice asked (opened.pending world) = .ok effect ∧
        Q (.ok effect.reply) (some (opened.extend effect)) world) :
    store.Completes schedule (Program.ask asked) Q (some opened) world := by
  constructor
  intro count
  obtain ⟨effect, executed, holds⟩ := executes (schedule.choices count)
  have ran : store.run schedule (Program.ask asked) ⟨count, some opened, world⟩ =
      (.ok effect.reply, ⟨count + 1, some (opened.extend effect), world⟩) := by
    simp [Program.ask, run, isDoomed, healthy, sound, view, executed]
  rw [ran]
  exact holds

/-- A statement in a transaction that only reads. -/
theorem completes_read_open {asked : sig.Statement} {opened : Session World Key}
    {Q : Except sig.Error (sig.Reply asked) → Option (Session World Key) → World → Prop}
    {reply : sig.Reply asked} (healthy : opened.doomed = false)
    (reads : ∀ choice,
      store.exec schedule.pid choice asked (opened.pending world) = .ok ⟨reply, id, []⟩)
    (goesOn : Q (.ok reply) (some opened) world) :
    store.Completes schedule (Program.ask asked) Q (some opened) world :=
  completes_ask_open sound healthy fun choice => ⟨_, reads choice, goesOn⟩

/-- A statement in a transaction that only reads what the schedule lets it find. -/
theorem completes_query_open {asked : sig.Statement} {opened : Session World Key}
    {Q : Except sig.Error (sig.Reply asked) → Option (Session World Key) → World → Prop}
    {reply : Nat → sig.Reply asked} (healthy : opened.doomed = false)
    (reads : ∀ choice,
      store.exec schedule.pid choice asked (opened.pending world) = .ok ⟨reply choice, id, []⟩)
    (goesOn : ∀ count, Q (.ok (reply (schedule.choices count))) (some opened) world) :
    store.Completes schedule (Program.ask asked) Q (some opened) world := by
  constructor
  intro count
  have ran : store.run schedule (Program.ask asked) ⟨count, some opened, world⟩ =
      (.ok (reply (schedule.choices count)), ⟨count + 1, some opened, world⟩) := by
    simp only [Program.ask, run, isDoomed, healthy, sound, view, reads, Bool.false_eq_true,
      if_false]
    rfl
  rw [ran]
  exact goesOn count

/-- A statement in a transaction, which fails the transaction when it fails. -/
theorem completes_statement_open {asked : sig.Statement} {opened : Session World Key}
    {Q : Except sig.Error (sig.Reply asked) → Option (Session World Key) → World → Prop}
    (healthy : opened.doomed = false)
    (goesOn : ∀ count,
      match store.exec schedule.pid (schedule.choices count) asked (opened.pending world) with
      | .ok effect => Q (.ok effect.reply) (some (opened.extend effect)) world
      | .error error => Q (.error error) (some { opened with doomed := true }) world) :
    store.Completes schedule (Program.ask asked) Q (some opened) world := by
  constructor
  intro count
  have reached := goesOn count
  simp only [Program.ask, run, isDoomed, healthy, sound, view, Bool.false_eq_true, if_false]
  cases executed : store.exec schedule.pid (schedule.choices count) asked
      (opened.pending world) with
  | error error =>
      rw [executed] at reached
      exact reached
  | ok effect =>
      rw [executed] at reached
      exact reached

omit sound

/-- What the body of a transaction has to reach for the transaction to reach `Q`. -/
def closeCompletes (Q : Except sig.Error α → Option (Session World Key) → World → Prop) :
    Except sig.Error α → Option (Session World Key) → World → Prop
  | .ok value, session, after => ∃ opened, session = some opened ∧
      Q (.ok value) none (if opened.doomed then after else opened.pending after)
  | .error error, _, after => Q (.error error) none after

/-- A transaction, which commits when its body returns and rolls back when it throws. -/
theorem completes_closing {body : Program sig α}
    {Q : Except sig.Error α → Option (Session World Key) → World → Prop}
    (inside : store.Completes schedule body (closeCompletes Q) (some .fresh) world) :
    store.Completes schedule (Program.transaction body) Q none world := by
  constructor
  intro count
  have reached := inside.ends count
  simp only [Program.transaction, run, run_andThen]
  rcases ran : store.run schedule body ⟨count, some .fresh, world⟩ with
    ⟨outcome, asked, session, after⟩
  rw [ran] at reached
  cases outcome with
  | error error => exact reached
  | ok value =>
      obtain ⟨opened, rfl, holds⟩ := reached
      exact holds

theorem Completes.mono {program : Program sig α}
    {P Q : Except sig.Error α → Option (Session World Key) → World → Prop}
    (completes : store.Completes schedule program P session world)
    (implies : ∀ outcome session world, P outcome session world → Q outcome session world) :
    store.Completes schedule program Q session world :=
  ⟨fun count => implies _ _ _ (completes.ends count)⟩

/-- A transaction whose body returns, and commits. -/
theorem completes_transaction {body : Program sig α}
    {Q : Except sig.Error α → Option (Session World Key) → World → Prop}
    (inside : store.Completes schedule body (fun outcome session after =>
      ∃ value opened, outcome = .ok value ∧ session = some opened ∧ opened.doomed = false ∧
        after = world ∧ Q (.ok value) none (opened.pending world)) (some .fresh) world) :
    store.Completes schedule (Program.transaction body) Q none world := by
  constructor
  intro count
  have reached := inside.ends count
  simp only [Program.transaction, run, run_andThen]
  rcases ran : store.run schedule body ⟨count, some .fresh, world⟩ with
    ⟨outcome, asked, session, after⟩
  rw [ran] at reached
  obtain ⟨value, opened, rfl, rfl, healthy, rfl, holds⟩ := reached
  simpa [run, healthy] using holds

end Faultless

end Store

end MarketMind.Transactions
