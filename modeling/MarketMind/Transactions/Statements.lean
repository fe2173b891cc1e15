import MarketMind.Transactions.Serial

/-!
Owns what holds of every run because every single statement keeps it, whatever world its
write is applied to: the texts of programs as sets of statements, and the rule that carries
a relation between worlds from the statements to the runs.

Does not own arguments that need several statements of one transaction.
-/

namespace MarketMind.Transactions

variable {sig : Signature} {World Key Call : Type} {α β : Type}

namespace Program

/-- Every statement that the program may execute satisfies `P`, transactions included. -/
def Uses (P : sig.Statement → Prop) : Program sig α → Prop
  | .done _ => True
  | .statement asked next => P asked ∧ ∀ reply, (next reply).Uses P
  | .start next | .commit next | .rollback next => next.Uses P

variable {P : sig.Statement → Prop}

theorem uses_ask {asked : sig.Statement} (holds : P asked) : (Program.ask asked).Uses P :=
  ⟨holds, fun _ => trivial⟩

theorem uses_pure (value : α) : (pure value : Program sig α).Uses P := trivial

theorem uses_throw (error : sig.Error) : (throw error : Program sig α).Uses P := trivial

theorem uses_anything (program : Program sig α) : program.Uses fun _ => True := by
  induction program with
  | done outcome => trivial
  | statement asked next inductionHypothesis => exact ⟨trivial, inductionHypothesis⟩
  | start next inductionHypothesis => exact inductionHypothesis
  | commit next inductionHypothesis => exact inductionHypothesis
  | rollback next inductionHypothesis => exact inductionHypothesis

theorem uses_andThen {program : Program sig α} {next : Except sig.Error α → Program sig β}
    (first : program.Uses P) (second : ∀ outcome, (next outcome).Uses P) :
    (program.andThen next).Uses P := by
  induction program with
  | done outcome => exact second outcome
  | statement asked rest inductionHypothesis =>
      exact ⟨first.1, fun reply => inductionHypothesis reply (first.2 reply)⟩
  | start rest inductionHypothesis => exact inductionHypothesis first
  | commit rest inductionHypothesis => exact inductionHypothesis first
  | rollback rest inductionHypothesis => exact inductionHypothesis first

theorem uses_bind {program : Program sig α} {next : α → Program sig β}
    (first : program.Uses P) (second : ∀ value, (next value).Uses P) :
    (program >>= next).Uses P := by
  rw [Program.bind_eq]
  refine uses_andThen first ?_
  rintro (error | value)
  · trivial
  · exact second value

theorem uses_tryCatch {program : Program sig α} {handler : sig.Error → Program sig α}
    (first : program.Uses P) (second : ∀ error, (handler error).Uses P) :
    (tryCatch program handler).Uses P := by
  rw [Program.tryCatch_eq]
  refine uses_andThen first ?_
  rintro (error | value)
  · exact second error
  · trivial

theorem uses_transaction {body : Program sig α} (uses : body.Uses P) :
    (Program.transaction body).Uses P := by
  refine uses_andThen uses ?_
  rintro (error | value) <;> trivial

theorem uses_of_asks {program : Program sig α} (asks : Store.Asks P program) : program.Uses P := by
  induction program with
  | done outcome => trivial
  | statement asked next inductionHypothesis =>
      exact ⟨asks.1, fun reply => inductionHypothesis reply (asks.2 reply)⟩
  | start => exact asks.elim
  | commit => exact asks.elim
  | rollback => exact asks.elim

end Program

/-! ### From statements to runs -/

section Runs

variable [DecidableEq Key] {sys : System sig World Key Call}
  {discipline : Discipline sig World Call} {P : Call → sig.Statement → Prop}

/-- Every call in flight is left with statements of its own, and what its transaction has
written relates every world, as that call may, to the one that a commit makes of it. -/
def Machine.RelatedBy (machine : Machine sig World Key Call) (P : Call → sig.Statement → Prop)
    (R : Call → World → World → Prop) : Prop :=
  ∀ pid thread, machine.threads pid = some thread → thread.rest.Uses (P thread.call) ∧
    ∀ opened, thread.session = some opened → ∀ base, R thread.call base (opened.pending base)

section Calls

variable {R : Call → World → World → Prop}

omit [DecidableEq Key] in
private theorem Machine.RelatedBy.set {machine : Machine sig World Key Call}
    {world : World} {holder : Key → Option Pid} {pid : Pid} {thread : Thread sig World Key Call}
    (related : machine.RelatedBy P R) (uses : thread.rest.Uses (P thread.call))
    (writes : ∀ opened, thread.session = some opened →
      ∀ base, R thread.call base (opened.pending base)) :
    (({ machine with world, holder } : Machine sig World Key Call).set pid thread).RelatedBy
      P R := by
  intro other foreign inFlight
  by_cases same : other = pid
  · subst same
    simp only [Machine.set, Function.update_self, Option.some.injEq] at inFlight
    subst inFlight
    exact ⟨uses, writes⟩
  · simp only [Machine.set, ne_eq, same, not_false_eq_true, Function.update_of_ne] at inFlight
    exact related other foreign inFlight

variable (refl : ∀ call world, R call world world)
  (trans : ∀ call first second third, R call first second → R call second third →
    R call first third)
  (keeps : ∀ pid call choice asked view effect, P call asked →
    discipline.admits pid call asked view → sys.exec pid choice asked view = .ok effect →
      ∀ base, R call base (effect.write base))

include refl trans keeps in
private theorem Machine.RelatedBy.stepThread {machine after : Machine sig World Key Call}
    {pid : Pid} {choice : Nat} {thread : Thread sig World Key Call}
    (related : machine.RelatedBy P R) (inFlight : machine.threads pid = some thread)
    (admitted : ∀ asked next, thread.rest = .statement asked next →
      discipline.admits pid thread.call asked (view thread.session machine.world))
    (stepped : sys.stepThread machine pid choice thread = some after) :
    after.RelatedBy P R ∧ R thread.call machine.world after.world := by
  obtain ⟨uses, writes⟩ := related pid thread inFlight
  obtain ⟨call, session, rest⟩ := thread
  cases rest with
  | done outcome => cases stepped
  | statement asked next =>
      obtain ⟨holds, uses⟩ := uses
      simp only [System.stepThread] at stepped
      split at stepped
      · cases stepped
        exact ⟨related.set (uses _) writes, refl _ _⟩
      · split at stepped
        · cases stepped
          refine ⟨related.set (uses _) ?_, refl _ _⟩
          intro opened isOpen
          obtain ⟨before, same, rfl⟩ := Option.map_eq_some_iff.mp isOpen
          exact writes before same
        · next effect executed =>
          have relates := keeps pid call choice asked _ effect holds (admitted asked next rfl) executed
          split at stepped
          · cases session with
            | none =>
                cases stepped
                exact ⟨related.set (uses _) (by simp), relates _⟩
            | some opened =>
                cases stepped
                refine ⟨related.set (uses _) ?_, refl _ _⟩
                rintro extended ⟨⟩ base
                exact trans _ _ _ _ (writes opened rfl base) (relates _)
          · cases stepped
  | start next =>
      cases session with
      | some opened => cases stepped
      | none =>
          cases stepped
          refine ⟨related.set uses ?_, refl _ _⟩
          rintro opened ⟨⟩ base
          exact refl _ base
  | commit next =>
      cases session with
      | none => cases stepped
      | some opened =>
          cases stepped
          refine ⟨related.set uses (by simp), ?_⟩
          show R call machine.world
            (if opened.doomed then machine.world else opened.pending machine.world)
          split
          · exact refl _ _
          · exact writes opened rfl _
  | rollback next =>
      cases session with
      | none => cases stepped
      | some opened =>
          cases stepped
          exact ⟨related.set uses (by simp), refl _ _⟩

include refl trans keeps in
private theorem Machine.RelatedBy.step {machine after : Machine sig World Key Call}
    {move : Move Call} (related : machine.RelatedBy P R)
    (uses : ∀ call, discipline.issues call → (sys.program call).Uses (P call))
    (admitted : discipline.AdmitsMove machine move) (stepped : sys.step machine move = some after) :
    after.RelatedBy P R ∧ ∃ call, R call machine.world after.world ∧
      ∀ thread, machine.threads move.pid = some thread → thread.call = call := by
  cases move with
  | issue pid call =>
      simp only [System.step] at stepped
      split at stepped
      · next idle =>
        split at stepped
        · cases stepped
          refine ⟨related.set (uses call admitted) (by simp), call, refl _ _, fun thread inFlight => ?_⟩
          cases idle.symm.trans inFlight
        · cases stepped
      · cases stepped
  | step pid choice =>
      simp only [System.step] at stepped
      split at stepped
      · cases stepped
      · next thread inFlight =>
        obtain ⟨relatedAfter, relates⟩ := Machine.RelatedBy.stepThread refl trans keeps related
          inFlight (admitted.2 thread inFlight) stepped
        refine ⟨relatedAfter, thread.call, relates, fun same isSame => ?_⟩
        rw [Option.some.inj (inFlight.symm.trans isSame)]
  | fail pid =>
      simp only [System.step] at stepped
      split at stepped
      · next call session asked next inFlight =>
        cases stepped
        obtain ⟨thisUses, writes⟩ := related pid _ inFlight
        refine ⟨related.set (thisUses.2 _) ?_, call, refl _ _, fun same isSame => ?_⟩
        · intro opened isOpen
          obtain ⟨before, same, rfl⟩ := Option.map_eq_some_iff.mp isOpen
          exact writes before same
        · rw [← Option.some.inj (inFlight.symm.trans isSame)]
      · cases stepped
  | crash pid =>
      simp only [System.step] at stepped
      split at stepped
      · cases stepped
      · cases stepped
      · next thread _ inFlight =>
        cases stepped
        refine ⟨related.set trivial (by simp), thread.call, refl _ _, fun same isSame => ?_⟩
        rw [Option.some.inj (inFlight.symm.trans isSame)]

include refl trans keeps in
private theorem relatedBy_of_reaches {start : World} {machine : Machine sig World Key Call}
    (uses : ∀ call, discipline.issues call → (sys.program call).Uses (P call))
    (reached : Reaches sys discipline start machine) : machine.RelatedBy P R := by
  induction reached with
  | idle => exact nofun
  | move _ _ admitted stepped inductionHypothesis =>
      exact (Machine.RelatedBy.step refl trans keeps inductionHypothesis uses admitted stepped).1

include refl trans keeps in
/-- Every step of every run relates the worlds before and after it as the call that moves may. -/
theorem relatedBy_of_step {start : World} {machine after : Machine sig World Key Call}
    {move : Move Call}
    (uses : ∀ call, discipline.issues call → (sys.program call).Uses (P call))
    (reached : Reaches sys discipline start machine)
    (admitted : discipline.AdmitsMove machine move) (stepped : sys.step machine move = some after) :
    ∃ call, R call machine.world after.world ∧
      ∀ thread, machine.threads move.pid = some thread → thread.call = call :=
  (Machine.RelatedBy.step refl trans keeps (relatedBy_of_reaches refl trans keeps uses reached) uses
    admitted stepped).2

end Calls

variable {R : World → World → Prop} (refl : ∀ world, R world world)
  (trans : ∀ first second third, R first second → R second third → R first third)
  (keeps : ∀ pid call choice asked view effect, P call asked →
    discipline.admits pid call asked view → sys.exec pid choice asked view = .ok effect →
      ∀ base, R base (effect.write base))

include refl trans keeps in
/-- Every step of every run relates the worlds before and after it. -/
theorem related_of_step {start : World} {machine after : Machine sig World Key Call}
    {move : Move Call}
    (uses : ∀ call, discipline.issues call → (sys.program call).Uses (P call))
    (reached : Reaches sys discipline start machine)
    (admitted : discipline.AdmitsMove machine move) (stepped : sys.step machine move = some after) :
    R machine.world after.world := by
  obtain ⟨_, relates, -⟩ := @relatedBy_of_step _ _ _ _ _ sys discipline P (fun _ => R)
    (fun _ => refl) (fun _ => trans) keeps start machine after move uses reached admitted stepped
  exact relates

include refl trans keeps in
private theorem related_of_reaches {start : World} {machine : Machine sig World Key Call}
    (uses : ∀ call, discipline.issues call → (sys.program call).Uses (P call))
    (reached : Reaches sys discipline start machine) : R start machine.world := by
  induction reached with
  | idle => exact refl start
  | move _ reached admitted stepped inductionHypothesis =>
      exact trans _ _ _ inductionHypothesis
        (related_of_step refl trans keeps uses reached admitted stepped)

/-- What every statement keeps holds in every committed world of every run. -/
theorem kept_of_reaches {I : World → Prop} {start : World} {machine : Machine sig World Key Call}
    (keepsInvariant : ∀ pid call choice asked view effect, P call asked →
      discipline.admits pid call asked view → sys.exec pid choice asked view = .ok effect →
        ∀ base, I base → I (effect.write base))
    (uses : ∀ call, discipline.issues call → (sys.program call).Uses (P call))
    (reached : Reaches sys discipline start machine) (holds : I start) : I machine.world :=
  @related_of_reaches _ _ _ _ _ sys discipline P (fun before after => I before → I after)
    (fun _ => id) (fun _ _ _ first second => second ∘ first) keepsInvariant start machine uses
    reached holds

end Runs

end MarketMind.Transactions
