import MarketMind.Transactions.Store

/-!
Owns the proof rules for calls that interleave. A protocol states what holds of
every committed world and what each call may rely on the others for; `wp` checks
one call against it, statement by statement, and `Reaches.sound` carries the
checks of all calls to every machine that a run reaches.

Does not own any particular store.
-/

namespace MarketMind.Transactions

variable {sig : Signature} {World Key Call : Type}

/-- What a family of runs is held to: the invariant of the committed world, and
per call the changes it has to expect from the others. -/
structure Protocol (sys : System sig World Key Call) where
  discipline : Discipline sig World Call
  invariant : World → Prop
  rely : Pid → World → World → Prop
  rely_refl : ∀ pid world, rely pid world world
  rely_trans : ∀ pid {first second third},
    rely pid first second → rely pid second third → rely pid first third

namespace Protocol

variable {sys : System sig World Key Call} (protocol : Protocol sys) (pid : Pid) (call : Call)

/-- A change of the world that leaves every other call what it relies on. -/
def Guarantees (before after : World) : Prop :=
  ∀ other, other ≠ pid → protocol.rely other before after

/-- What may have happened between two instructions of a call: what the call
relies on, with the rows that its open transaction holds as they were; and
nothing at all while a transaction is open that overlaps with no other. -/
structure Calm (session : Option (Session World Key)) (before after : World) : Prop where
  rely : protocol.rely pid before after
  agree : ∀ opened, session = some opened → ∀ key ∈ opened.held, sys.Agree key before after
  still : session ≠ none → protocol.discipline.isolation = .oneAtATime → after = before

/-- `Q` holds whatever the other calls do first. -/
def After (session : Option (Session World Key)) (world : World) (Q : World → Prop) : Prop :=
  ∀ after, protocol.Calm pid session world after → protocol.invariant after → Q after

/-- The program keeps the protocol from here and ends in `Q`. -/
def wp {α : Type} : Program sig α →
    (Except sig.Error α → Option (Session World Key) → World → Prop) →
    Option (Session World Key) → World → Prop
  | .done outcome, Q, session, world => Q outcome session world
  | .statement asked next, Q, session, world =>
      (∀ error, protocol.After pid (doom session) world
        (wp (next (.error error)) Q (doom session))) ∧
      (isDoomed session = false →
        protocol.discipline.admits pid call asked (view session world) →
        ∀ choice effect, sys.exec pid choice asked (view session world) = .ok effect →
          match session with
          | none =>
              protocol.invariant (effect.write world) ∧
              protocol.Guarantees pid world (effect.write world) ∧
              protocol.After pid none (effect.write world) (wp (next (.ok effect.reply)) Q none)
          | some opened =>
              protocol.After pid (some (opened.extend effect)) world
                (wp (next (.ok effect.reply)) Q (some (opened.extend effect))))
  | .start next, Q, session, world =>
      session = none ∧ protocol.After pid (some .fresh) world (wp next Q (some .fresh))
  | .commit next, Q, session, world =>
      ∃ opened, session = some opened ∧
        (opened.doomed = true → protocol.After pid none world (wp next Q none)) ∧
        (opened.doomed = false →
          protocol.invariant (opened.pending world) ∧
          protocol.Guarantees pid world (opened.pending world) ∧
          protocol.After pid none (opened.pending world) (wp next Q none))
  | .rollback next, Q, _, world => protocol.After pid none world (wp next Q none)

variable {protocol} {pid} {call}

/-! ### What a call may rely on -/

theorem Calm.refl (session : Option (Session World Key)) (world : World) :
    protocol.Calm pid session world world :=
  ⟨protocol.rely_refl pid world, fun _ _ key _ => sys.agree_refl key world, fun _ _ => rfl⟩

theorem Calm.trans {session : Option (Session World Key)} {first second third : World}
    (left : protocol.Calm pid session first second)
    (right : protocol.Calm pid session second third) :
    protocol.Calm pid session first third where
  rely := protocol.rely_trans pid left.rely right.rely
  agree := by
    intro opened isOpen key held
    exact sys.agree_trans key (left.agree opened isOpen key held) (right.agree opened isOpen key held)
  still := fun isOpen serial => (right.still isOpen serial).trans (left.still isOpen serial)

/-- Holding more rows only makes a call calmer. -/
theorem Calm.ofExtend {β : Type} {opened : Session World Key} {effect : Effect World Key β}
    {before after : World}
    (calm : protocol.Calm pid (some (opened.extend effect)) before after) :
    protocol.Calm pid (some opened) before after where
  rely := calm.rely
  agree := by
    intro same isOpen key held
    cases isOpen
    exact calm.agree _ rfl key (List.mem_append_right _ held)
  still := fun _ serial => calm.still nofun serial

theorem After.here {session : Option (Session World Key)} {world : World} {Q : World → Prop}
    (after : protocol.After pid session world Q) (holds : protocol.invariant world) : Q world :=
  after world (.refl session world) holds

theorem After.later {session : Option (Session World Key)} {before world : World}
    {Q : World → Prop} (after : protocol.After pid session before Q)
    (calm : protocol.Calm pid session before world) : protocol.After pid session world Q :=
  fun later calmer holds => after later (calm.trans calmer) holds

theorem After.mono {session : Option (Session World Key)} {world : World} {P Q : World → Prop}
    (after : protocol.After pid session world P) (implies : ∀ world, P world → Q world) :
    protocol.After pid session world Q :=
  fun later calm holds => implies later (after later calm holds)

/-! ### Rules of the program text -/

variable {α β : Type}

theorem wp_commit {next : Program sig α} {opened : Session World Key} {world : World}
    {Q : Except sig.Error α → Option (Session World Key) → World → Prop}
    (safe : protocol.wp pid call (.commit next) Q (some opened) world) :
    (opened.doomed = true → protocol.After pid none world (protocol.wp pid call next Q none)) ∧
      (opened.doomed = false →
        protocol.invariant (opened.pending world) ∧
        protocol.Guarantees pid world (opened.pending world) ∧
        protocol.After pid none (opened.pending world) (protocol.wp pid call next Q none)) := by
  obtain ⟨same, isOpen, committed⟩ := safe
  cases isOpen
  exact committed

theorem wp_mono (program : Program sig α)
    {P Q : Except sig.Error α → Option (Session World Key) → World → Prop}
    (implies : ∀ outcome session world, P outcome session world → Q outcome session world)
    {session : Option (Session World Key)} {world : World}
    (safe : protocol.wp pid call program P session world) :
    protocol.wp pid call program Q session world := by
  induction program generalizing session world with
  | done outcome => exact implies _ _ _ safe
  | statement asked next inductionHypothesis =>
      refine ⟨fun error => (safe.1 error).mono fun _ => inductionHypothesis _, ?_⟩
      intro sound admitted choice effect executed
      have step := safe.2 sound admitted choice effect executed
      cases session with
      | none => exact ⟨step.1, step.2.1, step.2.2.mono fun _ => inductionHypothesis _⟩
      | some opened => exact After.mono step fun _ => inductionHypothesis _
  | start next inductionHypothesis =>
      exact ⟨safe.1, safe.2.mono fun _ => inductionHypothesis⟩
  | commit next inductionHypothesis =>
      obtain ⟨opened, isOpen, doomed, sound⟩ := safe
      refine ⟨opened, isOpen, fun isDoomed => (doomed isDoomed).mono fun _ => inductionHypothesis, ?_⟩
      intro isSound
      obtain ⟨holds, guarantees, after⟩ := sound isSound
      exact ⟨holds, guarantees, after.mono fun _ => inductionHypothesis⟩
  | rollback next inductionHypothesis => exact After.mono safe fun _ => inductionHypothesis

/-- A sequence of programs is checked one program at a time. -/
theorem wp_andThen (program : Program sig α) (next : Except sig.Error α → Program sig β)
    (Q : Except sig.Error β → Option (Session World Key) → World → Prop) :
    protocol.wp pid call (program.andThen next) Q =
      protocol.wp pid call program (fun outcome => protocol.wp pid call (next outcome) Q) := by
  induction program with
  | done outcome => rfl
  | statement asked rest inductionHypothesis =>
      funext session world
      simp only [Program.andThen, wp, inductionHypothesis]
  | start rest inductionHypothesis =>
      funext session world
      simp only [Program.andThen, wp, inductionHypothesis]
  | commit rest inductionHypothesis =>
      funext session world
      simp only [Program.andThen, wp, inductionHypothesis]
  | rollback rest inductionHypothesis =>
      funext session world
      simp only [Program.andThen, wp, inductionHypothesis]

variable (protocol pid call) in
/-- The continuation of a `do` block: what follows a value, or the thrown error. -/
def bindPost (next : α → Program sig β)
    (Q : Except sig.Error β → Option (Session World Key) → World → Prop) :
    Except sig.Error α → Option (Session World Key) → World → Prop
  | .ok value => protocol.wp pid call (next value) Q
  | .error error => Q (.error error)

theorem wp_bind (program : Program sig α) (next : α → Program sig β)
    (Q : Except sig.Error β → Option (Session World Key) → World → Prop) :
    protocol.wp pid call (program >>= next) Q =
      protocol.wp pid call program (protocol.bindPost pid call next Q) := by
  rw [Program.bind_eq, wp_andThen]
  congr 1
  funext outcome
  cases outcome <;> rfl

variable (protocol pid call) in
/-- The continuation of a `try` block: the value stands, an error is handled. -/
def catchPost (handler : sig.Error → Program sig α)
    (Q : Except sig.Error α → Option (Session World Key) → World → Prop) :
    Except sig.Error α → Option (Session World Key) → World → Prop
  | .ok value => Q (.ok value)
  | .error error => protocol.wp pid call (handler error) Q

theorem wp_tryCatch (program : Program sig α) (handler : sig.Error → Program sig α)
    (Q : Except sig.Error α → Option (Session World Key) → World → Prop) :
    protocol.wp pid call (tryCatch program handler) Q =
      protocol.wp pid call program (protocol.catchPost pid call handler Q) := by
  rw [Program.tryCatch_eq, wp_andThen]
  congr 1
  funext outcome
  cases outcome <;> rfl

variable (protocol pid call) in
/-- What the body of a transaction has to reach for the transaction to reach `Q`. -/
def closePost (Q : Except sig.Error α → Option (Session World Key) → World → Prop) :
    Except sig.Error α → Option (Session World Key) → World → Prop
  | .ok value, session, world =>
      protocol.wp pid call (.commit (.done (.ok value))) Q session world
  | .error error, _, world => protocol.After pid none world (Q (.error error) none)

theorem wp_transaction (body : Program sig α)
    (Q : Except sig.Error α → Option (Session World Key) → World → Prop) (world : World) :
    protocol.wp pid call (Program.transaction body) Q none world ↔
      protocol.After pid (some .fresh) world
        (protocol.wp pid call body (protocol.closePost pid call Q) (some .fresh)) := by
  have same : (fun outcome => protocol.wp pid call (match outcome with
      | .ok value => .commit (.done (.ok value))
      | .error error => .rollback (.done (.error error))) Q) =
        protocol.closePost pid call Q := by
    funext outcome session world
    cases outcome <;> rfl
  simp only [Program.transaction, wp, wp_andThen, true_and]
  exact Iff.of_eq (congrArg (fun post => protocol.After pid (some .fresh) world
    (protocol.wp pid call body post (some .fresh))) same)

/-- Errors leave `Q` nothing to show. -/
def Harmless (Q : Except sig.Error α → Option (Session World Key) → World → Prop) : Prop :=
  ∀ error session world, Q (.error error) session world

theorem Harmless.bindPost {next : α → Program sig β}
    {Q : Except sig.Error β → Option (Session World Key) → World → Prop}
    (harmless : Harmless Q) : Harmless (protocol.bindPost pid call next Q) :=
  harmless

/-- One statement inside a transaction. -/
theorem wp_ask_open {asked : sig.Statement} {opened : Session World Key} {world : World}
    {Q : Except sig.Error (sig.Reply asked) → Option (Session World Key) → World → Prop}
    (harmless : Harmless Q)
    (goesOn : opened.doomed = false →
      protocol.discipline.admits pid call asked (opened.pending world) →
      ∀ choice effect, sys.exec pid choice asked (opened.pending world) = .ok effect →
        protocol.After pid (some (opened.extend effect)) world
          (Q (.ok effect.reply) (some (opened.extend effect)))) :
    protocol.wp pid call (Program.ask asked) Q (some opened) world :=
  ⟨fun error later _ _ => harmless error _ later, goesOn⟩

/-- A statement inside a transaction that only reads. -/
theorem wp_read_open {asked : sig.Statement} {opened : Session World Key} {world : World}
    {Q : Except sig.Error (sig.Reply asked) → Option (Session World Key) → World → Prop}
    {reply : sig.Reply asked} (harmless : Harmless Q)
    (reads : ∀ choice, sys.exec pid choice asked (opened.pending world) = .ok ⟨reply, id, []⟩)
    (goesOn : protocol.After pid (some opened) world (Q (.ok reply) (some opened))) :
    protocol.wp pid call (Program.ask asked) Q (some opened) world := by
  refine wp_ask_open harmless fun _ _ choice effect executed => ?_
  obtain rfl := Except.ok.inj ((reads choice).symm.trans executed)
  exact goesOn

/-- The end of a transaction. -/
theorem closePost_ok {value : α} {opened : Session World Key} {world : World}
    {Q : Except sig.Error α → Option (Session World Key) → World → Prop}
    (sound : opened.doomed = false)
    (commits : protocol.invariant (opened.pending world) ∧
      protocol.Guarantees pid world (opened.pending world) ∧
      protocol.After pid none (opened.pending world) (Q (.ok value) none)) :
    protocol.closePost pid call Q (.ok value) (some opened) world := by
  exact ⟨opened, rfl, fun doomed => absurd (sound.symm.trans doomed) Bool.false_ne_true, fun _ => commits⟩

/-- The end of a transaction that has failed: nothing is committed. -/
theorem closePost_doomed {value : α} {opened : Session World Key} {world : World}
    {Q : Except sig.Error α → Option (Session World Key) → World → Prop}
    (doomed : opened.doomed = true)
    (goesOn : protocol.After pid none world (Q (.ok value) none)) :
    protocol.closePost pid call Q (.ok value) (some opened) world :=
  ⟨opened, rfl, fun _ => goesOn, fun sound => absurd (doomed.symm.trans sound) (by simp)⟩

theorem guarantees_refl (world : World) : protocol.Guarantees pid world world :=
  fun other _ => protocol.rely_refl other world

/-! ### Calls that maintain the invariant -/

/-- Outside transactions, with the invariant in place. -/
def Returned (invariant : World → Prop) (_ : Except sig.Error α)
    (session : Option (Session World Key)) (world : World) : Prop :=
  session = none ∧ invariant world

variable (protocol pid call) in
/-- Started outside transactions, the program keeps the protocol to its end. -/
def Maintains (program : Program sig α) : Prop :=
  ∀ world, protocol.invariant world →
    protocol.wp pid call program (Returned protocol.invariant) none world

variable (call) in
theorem close_harmless : Harmless (protocol.closePost pid call
    (Returned protocol.invariant : Except sig.Error α → _)) :=
  fun _ _ _ _ _ holds => ⟨rfl, holds⟩

theorem maintains_pure (value : α) :
    protocol.Maintains pid call (pure value : Program sig α) :=
  fun _ holds => ⟨rfl, holds⟩

theorem maintains_throw (error : sig.Error) :
    protocol.Maintains pid call (throw error : Program sig α) :=
  fun _ holds => ⟨rfl, holds⟩

theorem maintains_bind {program : Program sig α} {next : α → Program sig β}
    (first : protocol.Maintains pid call program)
    (second : ∀ value, protocol.Maintains pid call (next value)) :
    protocol.Maintains pid call (program >>= next) := by
  intro world holds
  rw [wp_bind]
  apply wp_mono program ?_ (first world holds)
  rintro (error | value) session after ⟨rfl, holdsAfter⟩
  · exact ⟨rfl, holdsAfter⟩
  · exact second value after holdsAfter

theorem maintains_tryCatch {program : Program sig α} {handler : sig.Error → Program sig α}
    (first : protocol.Maintains pid call program)
    (second : ∀ error, protocol.Maintains pid call (handler error)) :
    protocol.Maintains pid call (tryCatch program handler) := by
  intro world holds
  rw [wp_tryCatch]
  apply wp_mono program ?_ (first world holds)
  rintro (error | value) session after ⟨rfl, holdsAfter⟩
  · exact second error after holdsAfter
  · exact ⟨rfl, holdsAfter⟩

theorem maintains_discard {program : Program sig α}
    (maintains : protocol.Maintains pid call program) :
    protocol.Maintains pid call program.discard := by
  intro world holds
  unfold Program.discard
  rw [wp_andThen]
  apply wp_mono program ?_ (maintains world holds)
  rintro (error | value) session after ⟨rfl, holdsAfter⟩
  · exact ⟨rfl, holdsAfter⟩
  · exact ⟨rfl, holdsAfter⟩

/-- One statement outside a transaction. -/
theorem maintains_ask {asked : sig.Statement}
    (keeps : ∀ choice world effect, protocol.discipline.admits pid call asked world →
      sys.exec pid choice asked world = .ok effect → protocol.invariant world →
        protocol.invariant (effect.write world) ∧
          protocol.Guarantees pid world (effect.write world)) :
    protocol.Maintains pid call (Program.ask asked) := by
  intro world holds
  refine ⟨fun _ _ _ holdsAfter => ⟨rfl, holdsAfter⟩, fun _ admitted choice effect executed => ?_⟩
  obtain ⟨kept, guarantees⟩ := keeps choice world effect admitted executed holds
  exact ⟨kept, guarantees, fun _ _ holdsAfter => ⟨rfl, holdsAfter⟩⟩

/-! ### Soundness -/

variable (protocol) in
/-- What a call owes when it has returned. -/
def ends (post : World → Prop) (outcome : Except sig.Error Unit)
    (_ : Option (Session World Key)) (world : World) : Prop :=
  outcome = .ok () → post world

variable (protocol) in
/-- A call with its remaining program checked from the present world. -/
def Checked (post : Call → World → Prop) (pid : Pid) (thread : Thread sig World Key Call)
    (world : World) : Prop :=
  protocol.After pid thread.session world
    (protocol.wp pid thread.call thread.rest (ends (post thread.call)) thread.session)

variable (protocol) in
/-- A machine that keeps the protocol. -/
structure Keeps (post : Call → World → Prop) (machine : Machine sig World Key Call) : Prop where
  holds : protocol.invariant machine.world
  checked : ∀ pid thread, machine.threads pid = some thread →
    protocol.Checked post pid thread machine.world
  locked : ∀ pid thread opened, machine.threads pid = some thread →
    thread.session = some opened → ∀ key ∈ opened.held, machine.holder key = some pid
  framed : ∀ pid thread opened, machine.threads pid = some thread →
    thread.session = some opened → ∀ key, key ∉ opened.held →
      ∀ world, sys.Agree key world (opened.pending world)
  alone : protocol.discipline.isolation = .oneAtATime →
    ∀ pid thread, machine.threads pid = some thread → thread.session ≠ none → machine.Alone pid

variable {post : Call → World → Prop} {machine : Machine sig World Key Call}

/-- One call moves on. The others stay checked when the change of the world is
one they rely on, leaves the rows they hold and, without overlap, finds none of
them in a transaction. -/
private theorem Keeps.update (keeps : protocol.Keeps post machine)
    {world : World} {holder : Key → Option Pid} {thread : Thread sig World Key Call}
    (holds : protocol.invariant world)
    (guarantees : protocol.Guarantees pid machine.world world)
    (spares : ∀ other foreign opened, other ≠ pid → machine.threads other = some foreign →
      foreign.session = some opened →
        (∀ key ∈ opened.held, sys.Agree key machine.world world ∧ holder key = some other) ∧
        (protocol.discipline.isolation = .oneAtATime → world = machine.world))
    (checked : protocol.Checked post pid thread world)
    (locked : ∀ opened, thread.session = some opened →
      ∀ key ∈ opened.held, holder key = some pid)
    (framed : ∀ opened, thread.session = some opened → ∀ key, key ∉ opened.held →
      ∀ world, sys.Agree key world (opened.pending world))
    (alone : protocol.discipline.isolation = .oneAtATime → thread.session ≠ none →
      machine.Alone pid) :
    protocol.Keeps post (({ machine with world, holder } : Machine sig World Key Call).set pid
      thread) where
  holds := holds
  checked := by
    intro other foreign inFlight
    by_cases same : other = pid
    · subst same
      simp only [Machine.set, Function.update_self, Option.some.injEq] at inFlight
      exact inFlight ▸ checked
    · simp only [Machine.set, ne_eq, same, not_false_eq_true, Function.update_of_ne] at inFlight
      refine (keeps.checked other foreign inFlight).later ⟨guarantees other same, ?_, ?_⟩
      · intro opened isOpen key held
        exact ((spares other foreign opened same inFlight isOpen).1 key held).1
      · intro isOpen serial
        obtain ⟨opened, isOpen⟩ := Option.ne_none_iff_exists'.mp isOpen
        exact (spares other foreign opened same inFlight isOpen).2 serial
  locked := by
    intro other foreign opened inFlight isOpen key held
    by_cases same : other = pid
    · subst same
      simp only [Machine.set, Function.update_self, Option.some.injEq] at inFlight
      exact locked opened (inFlight ▸ isOpen) key held
    · simp only [Machine.set, ne_eq, same, not_false_eq_true, Function.update_of_ne] at inFlight
      exact ((spares other foreign opened same inFlight isOpen).1 key held).2
  framed := by
    intro other foreign opened inFlight isOpen key held
    by_cases same : other = pid
    · subst same
      simp only [Machine.set, Function.update_self, Option.some.injEq] at inFlight
      exact framed opened (inFlight ▸ isOpen) key held
    · simp only [Machine.set, ne_eq, same, not_false_eq_true, Function.update_of_ne] at inFlight
      exact keeps.framed other foreign opened inFlight isOpen key held
  alone := by
    intro serial other foreign inFlight isOpen third stranger distinct strangerInFlight
    by_cases same : other = pid
    · subst same
      simp only [Machine.set, Function.update_self, Option.some.injEq] at inFlight
      simp only [Machine.set, ne_eq, distinct, not_false_eq_true, Function.update_of_ne]
        at strangerInFlight
      exact alone serial (inFlight ▸ isOpen) third stranger distinct strangerInFlight
    · simp only [Machine.set, ne_eq, same, not_false_eq_true, Function.update_of_ne] at inFlight
      by_cases self : third = pid
      · subst self
        simp only [Machine.set, Function.update_self, Option.some.injEq] at strangerInFlight
        by_contra strangerOpen
        have closed := alone serial (strangerInFlight ▸ strangerOpen) other foreign same inFlight
        exact isOpen closed
      · simp only [Machine.set, ne_eq, self, not_false_eq_true, Function.update_of_ne]
          at strangerInFlight
        exact keeps.alone serial other foreign inFlight isOpen third stranger distinct
          strangerInFlight

variable (protocol) in
/-- A step to a machine that keeps the protocol, by a change that the others rely on. -/
structure MovesOn (post : Call → World → Prop) (before after : Machine sig World Key Call) :
    Prop where
  keeps : protocol.Keeps post after
  relied : ∃ pid, protocol.Guarantees pid before.world after.world

private theorem Keeps.set (keeps : protocol.Keeps post machine)
    {world : World} {holder : Key → Option Pid} {thread : Thread sig World Key Call}
    (holds : protocol.invariant world)
    (guarantees : protocol.Guarantees pid machine.world world)
    (spares : ∀ other foreign opened, other ≠ pid → machine.threads other = some foreign →
      foreign.session = some opened →
        (∀ key ∈ opened.held, sys.Agree key machine.world world ∧ holder key = some other) ∧
        (protocol.discipline.isolation = .oneAtATime → world = machine.world))
    (checked : protocol.Checked post pid thread world)
    (locked : ∀ opened, thread.session = some opened →
      ∀ key ∈ opened.held, holder key = some pid)
    (framed : ∀ opened, thread.session = some opened → ∀ key, key ∉ opened.held →
      ∀ world, sys.Agree key world (opened.pending world))
    (alone : protocol.discipline.isolation = .oneAtATime → thread.session ≠ none →
      machine.Alone pid) :
    protocol.MovesOn post machine
      (({ machine with world, holder } : Machine sig World Key Call).set pid thread) :=
  ⟨keeps.update holds guarantees spares checked locked framed alone, pid, guarantees⟩

private theorem Keeps.others_hold [DecidableEq Key] (keeps : protocol.Keeps post machine) {keys : List Key}
    (free : machine.free pid keys = true) {other : Pid} {foreign : Thread sig World Key Call}
    {opened : Session World Key} (distinct : other ≠ pid)
    (inFlight : machine.threads other = some foreign) (isOpen : foreign.session = some opened)
    {key : Key} (held : key ∈ opened.held) : key ∉ keys := by
  intro member
  have holder := keeps.locked other foreign opened inFlight isOpen key held
  have unheld := List.all_eq_true.mp free key member
  rw [holder] at unheld
  simp [distinct] at unheld

/-- The obligations of `Keeps.set` for the other calls when nothing they see changes. -/
private theorem Keeps.spares_same (keeps : protocol.Keeps post machine) (other : Pid)
    (foreign : Thread sig World Key Call) (opened : Session World Key) (_ : other ≠ pid)
    (inFlight : machine.threads other = some foreign) (isOpen : foreign.session = some opened) :
    (∀ key ∈ opened.held, sys.Agree key machine.world machine.world ∧
        machine.holder key = some other) ∧
      (protocol.discipline.isolation = .oneAtATime → machine.world = machine.world) :=
  ⟨fun key held => ⟨sys.agree_refl key machine.world,
    keeps.locked other foreign opened inFlight isOpen key held⟩, fun _ => rfl⟩

/-- A row that `pid` let go of was not one that another call holds. -/
private theorem Keeps.spares_release (keeps : protocol.Keeps post machine) {world : World}
    (agrees : ∀ other foreign opened, other ≠ pid → machine.threads other = some foreign →
      foreign.session = some opened → ∀ key ∈ opened.held, sys.Agree key machine.world world)
    (still : ∀ other foreign opened, other ≠ pid → machine.threads other = some foreign →
      foreign.session = some opened →
        protocol.discipline.isolation = .oneAtATime → world = machine.world)
    (other : Pid) (foreign : Thread sig World Key Call) (opened : Session World Key)
    (distinct : other ≠ pid) (inFlight : machine.threads other = some foreign)
    (isOpen : foreign.session = some opened) :
    (∀ key ∈ opened.held, sys.Agree key machine.world world ∧
        (machine.release pid).holder key = some other) ∧
      (protocol.discipline.isolation = .oneAtATime → world = machine.world) := by
  refine ⟨fun key held => ⟨agrees other foreign opened distinct inFlight isOpen key held, ?_⟩,
    still other foreign opened distinct inFlight isOpen⟩
  have holder := keeps.locked other foreign opened inFlight isOpen key held
  simp [Machine.release, holder, distinct]

/-- A call that dies in the middle keeps the protocol. -/
private theorem Keeps.crash (keeps : protocol.Keeps post machine) (call : Call)
    (error : sig.Error) :
    protocol.MovesOn post machine
      ((machine.release pid).set pid ⟨call, none, .done (.error error)⟩) := by
  refine keeps.set keeps.holds (guarantees_refl _) ?_ ?_ nofun nofun
    (fun _ isOpen => absurd rfl isOpen)
  · exact keeps.spares_release
      (fun _ _ _ _ _ _ key _ => sys.agree_refl key machine.world)
      (fun _ _ _ _ _ _ _ => rfl)
  · intro later _ _ ended
    cases ended

section Steps

variable [DecidableEq Key]

/-- The next instruction of a checked call keeps the protocol. -/
private theorem Keeps.stepThread (keeps : protocol.Keeps post machine) {choice : Nat}
    {thread : Thread sig World Key Call} {after : Machine sig World Key Call}
    (inFlight : machine.threads pid = some thread)
    (aloneNow : protocol.discipline.isolation = .oneAtATime → machine.Alone pid)
    (admitted : ∀ asked next, thread.rest = .statement asked next →
      protocol.discipline.admits pid thread.call asked (view thread.session machine.world))
    (stepped : sys.stepThread machine pid choice thread = some after) :
    protocol.MovesOn post machine after := by
  have checked := (keeps.checked pid thread inFlight).here keeps.holds
  have locked := keeps.locked pid thread
  have framed := keeps.framed pid thread
  obtain ⟨call, session, rest⟩ := thread
  cases rest with
  | done outcome => cases stepped
  | statement asked next =>
      simp only [System.stepThread] at stepped
      split at stepped
      · next doomed =>
        cases stepped
        refine keeps.set keeps.holds (guarantees_refl _) keeps.spares_same ?_
          (locked · inFlight) (framed · inFlight) (fun serial _ => aloneNow serial)
        obtain ⟨opened, rfl⟩ : ∃ opened, session = some opened := by
          cases session with
          | none => cases doomed
          | some opened => exact ⟨opened, rfl⟩
        have same : doom (some opened) = some opened := by
          simp only [isDoomed] at doomed
          simp [doom, doomed.symm]
        exact same ▸ checked.1 sys.aborted
      · next sound =>
        split at stepped
        · next error executed =>
          cases stepped
          refine keeps.set keeps.holds (guarantees_refl _) keeps.spares_same
            (checked.1 error) ?_ ?_ (fun serial _ => aloneNow serial)
          · intro opened isOpen
            obtain ⟨before, rfl, rfl⟩ := Option.map_eq_some_iff.mp isOpen
            exact locked before inFlight rfl
          · intro opened isOpen
            obtain ⟨before, rfl, rfl⟩ := Option.map_eq_some_iff.mp isOpen
            exact framed before inFlight rfl
        · next effect executed =>
          split at stepped
          · next free =>
            have goesOn := checked.2 (by simpa using sound) (admitted asked next rfl) choice effect
              executed
            cases session with
            | none =>
                cases stepped
                refine keeps.set goesOn.1 goesOn.2.1 ?_ goesOn.2.2 nofun nofun
                  (fun _ isOpen => absurd rfl isOpen)
                intro other foreign opened distinct otherInFlight isOpen
                refine ⟨fun key held => ⟨?_, keeps.locked other foreign opened otherInFlight isOpen
                  key held⟩, fun serial => ?_⟩
                · exact sys.framed executed key
                    (keeps.others_hold free distinct otherInFlight isOpen held) machine.world
                · have closed := aloneNow serial other foreign distinct otherInFlight
                  rw [isOpen] at closed
                  cases closed
            | some opened =>
                cases stepped
                refine keeps.set keeps.holds (guarantees_refl _) ?_ goesOn ?_ ?_
                  (fun serial _ => aloneNow serial)
                · intro other foreign mine distinct otherInFlight isOpen
                  refine ⟨fun key held => ⟨sys.agree_refl key machine.world, ?_⟩, fun _ => rfl⟩
                  have absent := keeps.others_hold free distinct otherInFlight isOpen held
                  simpa [Machine.take, absent] using
                    keeps.locked other foreign mine otherInFlight isOpen key held
                · intro extended same key held
                  cases same
                  rcases List.mem_append.mp held with taken | kept
                  · simp [taken]
                  · simp [locked opened inFlight rfl key kept]
                · intro extended same key free world
                  cases same
                  have apart : key ∉ effect.keys ∧ key ∉ opened.held := by
                    simpa [Session.extend] using free
                  exact sys.agree_trans key (framed opened inFlight rfl key apart.2 world)
                    (sys.framed executed key apart.1 _)
          · cases stepped
  | start next =>
      cases session with
      | some opened => cases stepped
      | none =>
          cases stepped
          refine keeps.set keeps.holds (guarantees_refl _) keeps.spares_same checked.2 ?_ ?_
            (fun serial _ => aloneNow serial)
          · intro opened same key held
            cases same
            cases held
          · intro opened same key _ world
            cases same
            exact sys.agree_refl key world
  | commit next =>
      cases session with
      | none => cases stepped
      | some opened =>
          have committed := wp_commit checked
          simp only [System.stepThread, Option.some.injEq] at stepped
          subst stepped
          cases doomed : opened.doomed with
          | true =>
              refine keeps.set keeps.holds (guarantees_refl _) ?_ (committed.1 doomed) nofun nofun
                (fun _ isOpen => absurd rfl isOpen)
              exact keeps.spares_release
                (fun _ _ _ _ _ _ key _ => sys.agree_refl key machine.world)
                (fun _ _ _ _ _ _ _ => rfl)
          | false =>
              obtain ⟨holds, guarantees, goesOn⟩ := committed.2 doomed
              refine keeps.set holds guarantees ?_ goesOn nofun nofun
                (fun _ isOpen => absurd rfl isOpen)
              refine keeps.spares_release ?_ ?_
              · intro other foreign mine distinct otherInFlight isOpen key held
                refine framed opened inFlight rfl key ?_ machine.world
                intro heldTwice
                have first := locked opened inFlight rfl key heldTwice
                have second := keeps.locked other foreign mine otherInFlight isOpen key held
                exact distinct (Option.some.inj (second.symm.trans first))
              · intro other foreign mine distinct otherInFlight isOpen serial
                have closed := aloneNow serial other foreign distinct otherInFlight
                rw [isOpen] at closed
                cases closed
  | rollback next =>
      cases session with
      | none => cases stepped
      | some opened =>
          cases stepped
          refine keeps.set keeps.holds (guarantees_refl _) ?_ checked nofun nofun
            (fun _ isOpen => absurd rfl isOpen)
          exact keeps.spares_release
            (fun _ _ _ _ _ _ key _ => sys.agree_refl key machine.world)
            (fun _ _ _ _ _ _ _ => rfl)

variable (protocol) in
/-- Every call that runs are allowed to issue keeps the protocol and ends in `post`. -/
def Safe (post : Call → World → Prop) : Prop :=
  ∀ pid call world, protocol.discipline.issues call → sys.enabled call world = true →
    protocol.invariant world →
      protocol.After pid none world (protocol.wp pid call (sys.program call) (ends (post call)) none)

omit [DecidableEq Key] in
/-- Calls that maintain the invariant, each on its own, are safe together. -/
theorem safe_of_maintains
    (maintains : ∀ pid call world, protocol.discipline.issues call →
      sys.enabled call world = true → protocol.Maintains pid call (sys.program call)) :
    protocol.Safe fun _ _ => True := by
  intro pid call world issued enabled _ after _ holds
  apply wp_mono _ ?_ (maintains pid call world issued enabled after holds)
  intro _ _ _ _ _
  trivial

private theorem Keeps.step (keeps : protocol.Keeps post machine) (safe : protocol.Safe post)
    {move : Move Call} {after : Machine sig World Key Call}
    (admitted : protocol.discipline.AdmitsMove machine move)
    (stepped : sys.step machine move = some after) : protocol.MovesOn post machine after := by
  cases move with
  | issue pid call =>
      simp only [System.step] at stepped
      split at stepped
      · split at stepped
        · next enabled =>
          cases stepped
          exact keeps.set keeps.holds (guarantees_refl _) keeps.spares_same
            (safe pid call machine.world admitted enabled keeps.holds) nofun nofun
            (fun _ isOpen => absurd rfl isOpen)
        · cases stepped
      · cases stepped
  | step pid choice =>
      simp only [System.step] at stepped
      split at stepped
      · cases stepped
      · next thread inFlight =>
        exact keeps.stepThread inFlight admitted.1 (admitted.2 thread inFlight) stepped
  | fail pid =>
      simp only [System.step] at stepped
      split at stepped
      · next call session asked next inFlight =>
        cases stepped
        have checked := (keeps.checked pid _ inFlight).here keeps.holds
        refine keeps.set keeps.holds (guarantees_refl _) keeps.spares_same
          (checked.1 sys.databaseFailure) ?_ ?_ ?_
        · intro opened isOpen
          obtain ⟨before, same, rfl⟩ := Option.map_eq_some_iff.mp isOpen
          exact keeps.locked pid _ before inFlight same
        · intro opened isOpen
          obtain ⟨before, same, rfl⟩ := Option.map_eq_some_iff.mp isOpen
          exact keeps.framed pid _ before inFlight same
        · intro serial isOpen
          refine keeps.alone serial pid _ inFlight ?_
          intro closed
          exact isOpen (Option.map_eq_none_iff.mpr closed)
      · cases stepped
  | crash pid =>
      simp only [System.step] at stepped
      split at stepped
      · cases stepped
      · cases stepped
      · cases stepped
        exact keeps.crash _ _

/-- Every machine of every run keeps the protocol. -/
theorem keeps_of_reaches {post : Call → World → Prop} {start : World}
    {machine : Machine sig World Key Call} (safe : protocol.Safe post)
    (holds : protocol.invariant start)
    (reached : Reaches sys protocol.discipline start machine) :
    protocol.Keeps post machine := by
  induction reached with
  | idle => exact ⟨holds, nofun, nofun, nofun, nofun⟩
  | move _ _ admitted stepped inductionHypothesis =>
      exact (inductionHypothesis.step safe admitted stepped).keeps

/-- The invariant holds in every committed world of every run. -/
theorem invariant_of_reaches {post : Call → World → Prop} {start : World}
    {machine : Machine sig World Key Call} (safe : protocol.Safe post)
    (holds : protocol.invariant start)
    (reached : Reaches sys protocol.discipline start machine) :
    protocol.invariant machine.world :=
  (keeps_of_reaches safe holds reached).holds

/-- Every step of every run is a change that the other calls rely on. -/
theorem relied_of_step {post : Call → World → Prop} {start : World}
    {machine after : Machine sig World Key Call} (safe : protocol.Safe post)
    (holds : protocol.invariant start)
    (reached : Reaches sys protocol.discipline start machine) {move : Move Call}
    (admitted : protocol.discipline.AdmitsMove machine move)
    (stepped : sys.step machine move = some after) :
    ∃ pid, protocol.Guarantees pid machine.world after.world :=
  ((keeps_of_reaches safe holds reached).step safe admitted stepped).relied

end Steps

end Protocol

end MarketMind.Transactions
