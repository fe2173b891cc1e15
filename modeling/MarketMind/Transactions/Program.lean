import Mathlib.Logic.Function.Basic

/-!
Owns the syntax of service calls: sequences of statements against a shared
store, grouped into transactions, where every statement may fail and code may
catch what fails. Programs are data, so one text has a serial meaning and an
interleaved one.

Does not own what a statement does to a store.
-/

namespace MarketMind.Transactions

/-- What code may ask of a shared store: its statements, the reply to each, and
the errors that a statement or the code itself may raise. -/
structure Signature where
  Statement : Type
  Reply : Statement → Type
  Error : Type

variable {sig : Signature} {α β : Type}

/-- A call: what it does next and how it goes on from each reply. -/
inductive Program (sig : Signature) (α : Type) : Type
  | done (outcome : Except sig.Error α)
  | statement (asked : sig.Statement)
      (next : Except sig.Error (sig.Reply asked) → Program sig α)
  | start (next : Program sig α)
  | commit (next : Program sig α)
  | rollback (next : Program sig α)

namespace Program

/-- Run `program`, then `next` from whatever it ended in. -/
def andThen (program : Program sig α) (next : Except sig.Error α → Program sig β) :
    Program sig β :=
  match program with
  | .done outcome => next outcome
  | .statement asked rest => .statement asked fun reply => (rest reply).andThen next
  | .start rest => .start (rest.andThen next)
  | .commit rest => .commit (rest.andThen next)
  | .rollback rest => .rollback (rest.andThen next)

instance : Monad (Program sig) where
  pure value := .done (.ok value)
  bind program next := program.andThen fun
    | .ok value => next value
    | .error error => .done (.error error)

instance : MonadExcept sig.Error (Program sig) where
  throw error := .done (.error error)
  tryCatch program handler := program.andThen fun
    | .ok value => .done (.ok value)
    | .error error => handler error

/-- Execute one statement. -/
def ask (asked : sig.Statement) : Program sig (sig.Reply asked) := .statement asked .done

/-- Run `body` in one transaction, which is rolled back when `body` throws. -/
def transaction (body : Program sig α) : Program sig α :=
  .start (body.andThen fun
    | .ok value => .commit (.done (.ok value))
    | .error error => .rollback (.done (.error error)))

/-- Forget the value that a call returns. -/
def discard (program : Program sig α) : Program sig Unit :=
  program.andThen fun
    | .ok _ => .done (.ok ())
    | .error error => .done (.error error)

theorem bind_eq (program : Program sig α) (next : α → Program sig β) :
    program >>= next = program.andThen fun
      | .ok value => next value
      | .error error => .done (.error error) := rfl

theorem pure_eq (value : α) : (pure value : Program sig α) = .done (.ok value) := rfl

theorem throw_eq (error : sig.Error) :
    (throw error : Program sig α) = .done (.error error) := rfl

theorem tryCatch_eq (program : Program sig α) (handler : sig.Error → Program sig α) :
    (tryCatch program handler) = program.andThen fun
      | .ok value => .done (.ok value)
      | .error error => handler error := rfl

@[simp] theorem andThen_done (outcome : Except sig.Error α)
    (next : Except sig.Error α → Program sig β) :
    (Program.done outcome).andThen next = next outcome := rfl

@[simp] theorem andThen_statement (asked : sig.Statement)
    (rest : Except sig.Error (sig.Reply asked) → Program sig α)
    (next : Except sig.Error α → Program sig β) :
    (Program.statement asked rest).andThen next =
      .statement asked fun reply => (rest reply).andThen next := rfl

end Program

end MarketMind.Transactions
