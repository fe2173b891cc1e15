import MarketMind.Transactions.RelyGuarantee
import MarketMind.Transactions.Statements

/-!
Owns the later machines of a run, and what they keep of an earlier one when every call relies on
the same.

Does not own what that is.
-/

namespace MarketMind.Transactions

variable {sig : Signature} {World Key Call : Type} [DecidableEq Key]

/-- The machines that a run reaches further on. -/
inductive Onward (sys : System sig World Key Call) (discipline : Discipline sig World Call)
    (machine : Machine sig World Key Call) : Machine sig World Key Call → Prop
  | here : Onward sys discipline machine machine
  | move {between after : Machine sig World Key Call} (move : Move Call) :
      Onward sys discipline machine between → discipline.AdmitsMove between move →
      sys.step between move = some after → Onward sys discipline machine after

variable {sys : System sig World Key Call} {start : World}
  {machine after : Machine sig World Key Call}

theorem Onward.reaches {discipline : Discipline sig World Call}
    (onward : Onward sys discipline machine after) (reached : Reaches sys discipline start machine) :
    Reaches sys discipline start after := by
  induction onward with
  | here => exact reached
  | move move _ admitted stepped inductionHypothesis =>
      exact inductionHypothesis.move move admitted stepped

/-- What every statement keeps holds from each machine of a run to every later one. -/
theorem related_of_onward {discipline : Discipline sig World Call}
    {P : Call → sig.Statement → Prop} {R : World → World → Prop} (refl : ∀ world, R world world)
    (trans : ∀ first second third, R first second → R second third → R first third)
    (keeps : ∀ pid call choice asked view effect, P call asked →
      discipline.admits pid call asked view → sys.exec pid choice asked view = .ok effect →
        ∀ base, R base (effect.write base))
    (uses : ∀ call, discipline.issues call → (sys.program call).Uses (P call))
    (reached : Reaches sys discipline start machine)
    (onward : Onward sys discipline machine after) : R machine.world after.world := by
  induction onward with
  | here => exact refl machine.world
  | move move onward admitted stepped inductionHypothesis =>
      exact trans _ _ _ inductionHypothesis
        (related_of_step refl trans keeps uses (onward.reaches reached) admitted stepped)

namespace Protocol

variable {protocol : Protocol sys}

/-- What all calls rely on holds from each machine of a run to every later one. -/
theorem relied_of_onward {post : Call → World → Prop} {relied : World → World → Prop}
    (safe : protocol.Safe post) (common : ∀ pid before after, protocol.rely pid before after →
      relied before after)
    (refl : ∀ world, relied world world)
    (trans : ∀ {first second third}, relied first second → relied second third →
      relied first third)
    (holds : protocol.invariant start) (reached : Reaches sys protocol.discipline start machine)
    (onward : Onward sys protocol.discipline machine after) :
    relied machine.world after.world := by
  induction onward with
  | here => exact refl machine.world
  | move move onward admitted stepped inductionHypothesis =>
      obtain ⟨pid, guarantees⟩ :=
        relied_of_step safe holds (onward.reaches reached) admitted stepped
      exact trans inductionHypothesis
        (common (pid + 1) _ _ (guarantees (pid + 1) (Nat.succ_ne_self pid)))

end Protocol

end MarketMind.Transactions
