import MarketMind.Transactions.Statements

/-!
Owns the runs whose every move meets a condition on the machine that it leaves, and what changes
the world in a run: a statement outside transactions, or the commit of a transaction.

Does not own the conditions.
-/

namespace MarketMind.Transactions

variable {sig : Signature} {World Key Call : Type} {α β : Type}

/-! ### Statements outside and inside transactions -/

namespace Program

/-- Transactions are opened and ended in turn, every statement outside of them satisfies `outside`,
and every other one `inside`; the flag says whether one is open. -/
def Splits (outside inside : sig.Statement → Prop) : Program sig α → Bool → Prop
  | .done _, isOpen => isOpen = false
  | .statement asked next, isOpen =>
      (if isOpen then inside asked else outside asked) ∧
        ∀ reply, (next reply).Splits outside inside isOpen
  | .start next, isOpen => isOpen = false ∧ next.Splits outside inside true
  | .commit next, isOpen | .rollback next, isOpen =>
      isOpen = true ∧ next.Splits outside inside false

variable {outside inside P : sig.Statement → Prop}

theorem splits_ask {asked : sig.Statement} (holds : outside asked) :
    (Program.ask asked).Splits outside inside false := ⟨holds, fun _ => rfl⟩

theorem splits_pure (value : α) : (pure value : Program sig α).Splits outside inside false := rfl

theorem splits_andThen {program : Program sig α} {next : Except sig.Error α → Program sig β}
    {isOpen : Bool} (first : program.Splits outside inside isOpen)
    (second : ∀ outcome, (next outcome).Splits outside inside false) :
    (program.andThen next).Splits outside inside isOpen := by
  induction program generalizing isOpen with
  | done outcome =>
      obtain rfl : isOpen = false := first
      exact second outcome
  | statement asked rest inductionHypothesis =>
      exact ⟨first.1, fun reply => inductionHypothesis reply (first.2 reply)⟩
  | start rest inductionHypothesis => exact ⟨first.1, inductionHypothesis first.2⟩
  | commit rest inductionHypothesis => exact ⟨first.1, inductionHypothesis first.2⟩
  | rollback rest inductionHypothesis => exact ⟨first.1, inductionHypothesis first.2⟩

theorem splits_discard {program : Program sig α} (splits : program.Splits outside inside false) :
    program.discard.Splits outside inside false := by
  refine splits_andThen splits fun outcome => ?_
  cases outcome <;> rfl

theorem splits_transaction {body : Program sig α} (asks : Store.Asks inside body) :
    (Program.transaction body).Splits outside inside false := by
  refine ⟨rfl, ?_⟩
  induction body with
  | done outcome => cases outcome <;> exact ⟨rfl, rfl⟩
  | statement asked next inductionHypothesis =>
      exact ⟨asks.1, fun reply => inductionHypothesis reply (asks.2 reply)⟩
  | start => exact asks.elim
  | commit => exact asks.elim
  | rollback => exact asks.elim

end Program

/-! ### What transactions commit -/

section Seals

variable (store : Store sig World Key) (Q : (World → World) → Prop)

/-- Whatever the statements meet, every transaction that the program commits has written something
with `Q`, and the program ends in `post`; `pending` is what the open transaction has written. -/
def Program.Seals (post : Except sig.Error α → Option (World → World) → Prop) :
    Program sig α → Option (World → World) → Prop
  | .done outcome, pending => post outcome pending
  | .statement asked next, pending =>
      (∀ error, (next (.error error)).Seals post pending) ∧
        ∀ pid choice view effect, store.exec pid choice asked view = .ok effect →
          (next (.ok effect.reply)).Seals post
            (pending.map fun writes base => effect.write (writes base))
  | .start next, pending => pending = none ∧ next.Seals post (some id)
  | .commit next, pending => (∃ writes, pending = some writes ∧ Q writes) ∧ next.Seals post none
  | .rollback next, _ => next.Seals post none

variable {store Q}

namespace Program

theorem Seals.mono {program : Program sig α}
    {P R : Except sig.Error α → Option (World → World) → Prop}
    {pending : Option (World → World)} (seals : program.Seals store Q P pending)
    (implies : ∀ outcome pending, P outcome pending → R outcome pending) :
    program.Seals store Q R pending := by
  induction program generalizing pending with
  | done outcome => exact implies outcome pending seals
  | statement asked next inductionHypothesis =>
      exact ⟨fun error => inductionHypothesis _ (seals.1 error),
        fun pid choice view effect executed =>
          inductionHypothesis _ (seals.2 pid choice view effect executed)⟩
  | start next inductionHypothesis => exact ⟨seals.1, inductionHypothesis seals.2⟩
  | commit next inductionHypothesis => exact ⟨seals.1, inductionHypothesis seals.2⟩
  | rollback next inductionHypothesis => exact inductionHypothesis seals

theorem seals_andThen {program : Program sig α} {next : Except sig.Error α → Program sig β}
    {post : Except sig.Error β → Option (World → World) → Prop} {pending : Option (World → World)}
    (first : program.Seals store Q (fun outcome => (next outcome).Seals store Q post) pending) :
    (program.andThen next).Seals store Q post pending := by
  induction program generalizing pending with
  | done outcome => exact first
  | statement asked rest inductionHypothesis =>
      exact ⟨fun error => inductionHypothesis _ (first.1 error),
        fun pid choice view effect executed =>
          inductionHypothesis _ (first.2 pid choice view effect executed)⟩
  | start rest inductionHypothesis => exact ⟨first.1, inductionHypothesis first.2⟩
  | commit rest inductionHypothesis => exact ⟨first.1, inductionHypothesis first.2⟩
  | rollback rest inductionHypothesis => exact inductionHypothesis first

/-- The program ends outside transactions. -/
abbrev SealsAll (store : Store sig World Key) (Q : (World → World) → Prop)
    (program : Program sig α) : Prop :=
  program.Seals store Q (fun _ pending => pending = none) none

theorem sealsAll_pure (value : α) : (pure value : Program sig α).SealsAll store Q := rfl

theorem sealsAll_ask (asked : sig.Statement) : (Program.ask asked).SealsAll store Q :=
  ⟨fun _ => rfl, fun _ _ _ _ _ => rfl⟩

theorem sealsAll_discard {program : Program sig α} (seals : program.SealsAll store Q) :
    program.discard.SealsAll store Q := by
  refine seals_andThen (seals.mono ?_)
  rintro (error | value) pending rfl <;> rfl

/-- What the body of a transaction has to write. -/
def Sealed (Q : (World → World) → Prop) : Except sig.Error α → Option (World → World) → Prop
  | .ok _, pending => ∃ writes, pending = some writes ∧ Q writes
  | .error _, _ => True

theorem sealsAll_transaction {body : Program sig α}
    (seals : body.Seals store Q (Sealed Q) (some id)) :
    (Program.transaction body).SealsAll store Q := by
  refine ⟨rfl, seals_andThen (seals.mono ?_)⟩
  rintro (error | value) pending holds
  · rfl
  · exact ⟨holds, rfl⟩

/-- A statement at the start of a body. -/
theorem seals_ask_bind {asked : sig.Statement} {next : sig.Reply asked → Program sig α}
    {writes : World → World}
    (goesOn : ∀ pid choice view effect, store.exec pid choice asked view = .ok effect →
      (next effect.reply).Seals store Q (Sealed Q)
        (some fun base => effect.write (writes base))) :
    (Program.ask asked >>= next).Seals store Q (Sealed Q) (some writes) :=
  ⟨fun _ => trivial, goesOn⟩

end Program

end Seals

/-! ### Runs under a condition -/

variable [DecidableEq Key]

variable {sys : System sig World Key Call}
  {allows : Machine sig World Key Call → Move Call → Prop} {start : World}
  {machine after : Machine sig World Key Call} {move : Move Call}

omit [DecidableEq Key] in
theorem Discipline.admitsMove_free : Discipline.free.AdmitsMove machine move := by
  cases move <;> simp [Discipline.AdmitsMove, Discipline.free]

/-- A run under a discipline is a run. -/
theorem Reaches.free {discipline : Discipline sig World Call}
    (reached : Reaches sys discipline start machine) : Reaches sys .free start machine := by
  induction reached with
  | idle => exact .idle
  | move move _ _ stepped inductionHypothesis =>
      exact inductionHypothesis.move move Discipline.admitsMove_free stepped

/-! ### What changes the world -/

/-- The move commits what a transaction has written. -/
structure Commits (machine after : Machine sig World Key Call) (move : Move Call)
    (thread : Thread sig World Key Call) : Prop where
  steps : ∃ choice, move = .step move.pid choice
  inFlight : machine.threads move.pid = some thread
  commits : ∃ next, thread.rest = .commit next
  healthy : isDoomed thread.session = false
  wrote : after.world = view thread.session machine.world

section Changes

variable {outside inside : Call → sig.Statement → Prop}

/-- Every call in flight is left with statements of its own. -/
private def Machine.Splits (machine : Machine sig World Key Call)
    (outside inside : Call → sig.Statement → Prop) : Prop :=
  ∀ pid thread, machine.threads pid = some thread →
    thread.rest.Splits (outside thread.call) (inside thread.call) thread.session.isSome

omit [DecidableEq Key] in
private theorem Machine.Splits.set {world : World} {holder : Key → Option Pid} {pid : Pid}
    {thread : Thread sig World Key Call} (splits : machine.Splits outside inside)
    (own : thread.rest.Splits (outside thread.call) (inside thread.call) thread.session.isSome) :
    (({ machine with world, holder } : Machine sig World Key Call).set pid thread).Splits outside
      inside := by
  intro other foreign inFlight
  by_cases same : other = pid
  · subst same
    simp only [Machine.set, Function.update_self, Option.some.injEq] at inFlight
    exact inFlight ▸ own
  · simp only [Machine.set, ne_eq, same, not_false_eq_true, Function.update_of_ne] at inFlight
    exact splits other foreign inFlight

/-- The world stays, changes by a statement outside transactions, or by a commit. -/
private def Machine.Changes (machine after : Machine sig World Key Call)
    (sys : System sig World Key Call) (outside : Call → sig.Statement → Prop)
    (move : Move Call) : Prop :=
  after.world = machine.world ∨
    (∃ pid call choice asked effect, outside call asked ∧
      sys.exec pid choice asked machine.world = .ok effect ∧
        after.world = effect.write machine.world) ∨
    ∃ thread, Commits machine after move thread

private theorem Machine.Splits.stepThread {pid : Pid} {choice : Nat}
    {thread : Thread sig World Key Call} (splits : machine.Splits outside inside)
    (inFlight : machine.threads pid = some thread)
    (stepped : sys.stepThread machine pid choice thread = some after) :
    after.Splits outside inside ∧ machine.Changes after sys outside (.step pid choice) := by
  have own := splits pid thread inFlight
  obtain ⟨call, session, rest⟩ := thread
  cases rest with
  | done outcome => cases stepped
  | statement asked next =>
      obtain ⟨holds, own⟩ := own
      simp only [System.stepThread] at stepped
      split at stepped
      · cases stepped
        exact ⟨splits.set (own _), .inl rfl⟩
      · split at stepped
        · cases stepped
          refine ⟨splits.set ?_, .inl rfl⟩
          show (next _).Splits (outside call) (inside call) (doom session).isSome
          rw [doom, Option.isSome_map]
          exact own _
        · next effect executed =>
          split at stepped
          · cases session with
            | none =>
                cases stepped
                exact ⟨splits.set (own _),
                  .inr (.inl ⟨pid, call, choice, asked, effect, holds, executed, rfl⟩)⟩
            | some opened =>
                cases stepped
                exact ⟨splits.set (own _), .inl rfl⟩
          · cases stepped
  | start next =>
      cases session with
      | some opened => cases stepped
      | none =>
          cases stepped
          exact ⟨splits.set own.2, .inl rfl⟩
  | commit next =>
      cases session with
      | none => cases stepped
      | some opened =>
          cases stepped
          refine ⟨splits.set own.2, ?_⟩
          cases doomed : opened.doomed with
          | true => exact .inl rfl
          | false => exact .inr (.inr ⟨_, ⟨choice, rfl⟩, inFlight, ⟨next, rfl⟩, doomed, rfl⟩)
  | rollback next =>
      cases session with
      | none => cases stepped
      | some opened =>
          cases stepped
          exact ⟨splits.set own.2, .inl rfl⟩

private theorem Machine.Splits.step (splits : machine.Splits outside inside)
    (programs : ∀ call, (sys.program call).Splits (outside call) (inside call) false)
    (stepped : sys.step machine move = some after) :
    after.Splits outside inside ∧ machine.Changes after sys outside move := by
  cases move with
  | issue pid call =>
      simp only [System.step] at stepped
      split at stepped
      · split at stepped
        · cases stepped
          exact ⟨splits.set (programs call), .inl rfl⟩
        · cases stepped
      · cases stepped
  | step pid choice =>
      simp only [System.step] at stepped
      split at stepped
      · cases stepped
      · next thread inFlight => exact splits.stepThread inFlight stepped
  | fail pid =>
      simp only [System.step] at stepped
      split at stepped
      · next call session asked next inFlight =>
        cases stepped
        refine ⟨splits.set ?_, .inl rfl⟩
        show (next _).Splits (outside call) (inside call) (doom session).isSome
        rw [doom, Option.isSome_map]
        exact (splits pid _ inFlight).2 _
      · cases stepped
  | crash pid =>
      simp only [System.step] at stepped
      split at stepped
      · cases stepped
      · cases stepped
      · cases stepped
        exact ⟨splits.set rfl, .inl rfl⟩

private theorem splits_of_reaches
    (programs : ∀ call, (sys.program call).Splits (outside call) (inside call) false)
    (reached : Reaches sys .free start machine) : machine.Splits outside inside := by
  induction reached with
  | idle => exact nofun
  | move _ _ _ stepped inductionHypothesis => exact (inductionHypothesis.step programs stepped).1

/-- A move relates the worlds before and after it as the statements outside transactions do, or
commits a transaction. -/
theorem related_or_commits {R : World → World → Prop} (refl : ∀ world, R world world)
    (keeps : ∀ pid call choice asked world effect, outside call asked →
      sys.exec pid choice asked world = .ok effect → R world (effect.write world))
    (programs : ∀ call, (sys.program call).Splits (outside call) (inside call) false)
    (reached : Reaches sys .free start machine) (stepped : sys.step machine move = some after) :
    R machine.world after.world ∨ ∃ thread, Commits machine after move thread := by
  obtain ⟨-, same | ⟨pid, call, choice, asked, effect, holds, executed, wrote⟩ | commits⟩ :=
    (splits_of_reaches programs reached).step programs stepped
  · exact .inl (same ▸ refl _)
  · exact .inl (wrote ▸ keeps pid call choice asked _ effect holds executed)
  · exact .inr commits

end Changes

/-! ### What a run commits -/

section Seals

variable {Q : (World → World) → Prop}

/-- Every call in flight has written something that it may commit. -/
private def Machine.Seals (machine : Machine sig World Key Call) (sys : System sig World Key Call)
    (Q : (World → World) → Prop) : Prop :=
  ∀ pid thread, machine.threads pid = some thread →
    thread.rest.Seals sys.toStore Q (fun _ pending => pending = none)
      (thread.session.map (·.pending))

omit [DecidableEq Key] in
private theorem Machine.Seals.set {world : World} {holder : Key → Option Pid} {pid : Pid}
    {thread : Thread sig World Key Call} (seals : machine.Seals sys Q)
    (own : thread.rest.Seals sys.toStore Q (fun _ pending => pending = none)
      (thread.session.map (·.pending))) :
    (({ machine with world, holder } : Machine sig World Key Call).set pid thread).Seals sys Q := by
  intro other foreign inFlight
  by_cases same : other = pid
  · subst same
    simp only [Machine.set, Function.update_self, Option.some.injEq] at inFlight
    exact inFlight ▸ own
  · simp only [Machine.set, ne_eq, same, not_false_eq_true, Function.update_of_ne] at inFlight
    exact seals other foreign inFlight

omit [DecidableEq Key] in
private theorem pending_doom (session : Option (Session World Key)) :
    (doom session).map (·.pending) = session.map (·.pending) := by
  cases session <;> rfl

private theorem Machine.Seals.stepThread {pid : Pid} {choice : Nat}
    {thread : Thread sig World Key Call} (seals : machine.Seals sys Q)
    (inFlight : machine.threads pid = some thread)
    (stepped : sys.stepThread machine pid choice thread = some after) : after.Seals sys Q := by
  have own := seals pid thread inFlight
  obtain ⟨call, session, rest⟩ := thread
  cases rest with
  | done outcome => cases stepped
  | statement asked next =>
      simp only [System.stepThread] at stepped
      split at stepped
      · cases stepped
        exact seals.set (own.1 _)
      · split at stepped
        · cases stepped
          refine seals.set ?_
          show (next _).Seals _ Q _ ((doom session).map (·.pending))
          rw [pending_doom]
          exact own.1 _
        · next effect executed =>
          split at stepped
          · cases session with
            | none =>
                cases stepped
                exact seals.set (own.2 pid choice _ effect executed)
            | some opened =>
                cases stepped
                exact seals.set (own.2 pid choice _ effect executed)
          · cases stepped
  | start next =>
      cases session with
      | some opened => cases stepped
      | none =>
          cases stepped
          exact seals.set own.2
  | commit next =>
      cases session with
      | none => cases stepped
      | some opened =>
          cases stepped
          exact seals.set own.2
  | rollback next =>
      cases session with
      | none => cases stepped
      | some opened =>
          cases stepped
          exact seals.set own

private theorem Machine.Seals.step (seals : machine.Seals sys Q)
    (programs : ∀ call, (sys.program call).SealsAll sys.toStore Q)
    (stepped : sys.step machine move = some after) : after.Seals sys Q := by
  cases move with
  | issue pid call =>
      simp only [System.step] at stepped
      split at stepped
      · split at stepped
        · cases stepped
          exact seals.set (programs call)
        · cases stepped
      · cases stepped
  | step pid choice =>
      simp only [System.step] at stepped
      split at stepped
      · cases stepped
      · next thread inFlight => exact seals.stepThread inFlight stepped
  | fail pid =>
      simp only [System.step] at stepped
      split at stepped
      · next call session asked next inFlight =>
        cases stepped
        refine seals.set ?_
        show (next _).Seals _ Q _ ((doom session).map (·.pending))
        rw [pending_doom]
        exact (seals pid _ inFlight).1 _
      · cases stepped
  | crash pid =>
      simp only [System.step] at stepped
      split at stepped
      · cases stepped
      · cases stepped
      · cases stepped
        exact seals.set rfl

/-- What a transaction commits in a run is what its program may commit. -/
theorem sealed_of_commits (programs : ∀ call, (sys.program call).SealsAll sys.toStore Q)
    (reached : Reaches sys .free start machine) {thread : Thread sig World Key Call}
    (commits : Commits machine after move thread) :
    ∃ opened, thread.session = some opened ∧ Q opened.pending := by
  have seals : machine.Seals sys Q := by
    clear commits
    induction reached with
    | idle => exact nofun
    | move _ _ _ stepped inductionHypothesis => exact inductionHypothesis.step programs stepped
  have own := seals move.pid thread commits.inFlight
  obtain ⟨next, isCommit⟩ := commits.commits
  rw [isCommit] at own
  obtain ⟨⟨writes, isOpen, holds⟩, -⟩ := own
  obtain ⟨opened, same, rfl⟩ := Option.map_eq_some_iff.mp isOpen
  exact ⟨opened, same, holds⟩

end Seals

end MarketMind.Transactions
