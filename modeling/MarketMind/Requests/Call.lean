import Mathlib.Data.List.Basic

/-!
Owns calls that send requests to another system: computations that may throw and
that keep a record of what they have sent, with `try` and `catch`, and the rules
that follow such a call to its end.

Does not own what is sent or what is thrown.
-/

namespace MarketMind.Requests

/-- A computation that may throw an `ε`, given what has been sent so far. -/
def Call (σ ε α : Type) := List σ → Except ε α × List σ

namespace Call

variable {σ ε α β : Type}

instance : Monad (Call σ ε) where
  pure value := fun sent => (.ok value, sent)
  bind call next := fun sent =>
    match call sent with
    | (.ok value, later) => next value later
    | (.error error, later) => (.error error, later)

def raise (error : ε) : Call σ ε α := fun sent => (.error error, sent)

/-- Sends a request. -/
def send (request : σ) : Call σ ε Unit := fun sent => (.ok (), sent ++ [request])

/-- `try { call } catch (error) { handler }` -/
def catching (call : Call σ ε α) (handler : ε → Call σ ε α) : Call σ ε α := fun sent =>
  match call sent with
  | (.ok value, later) => (.ok value, later)
  | (.error error, later) => handler error later

/-- The answer of something that sends no request. -/
def ofExcept : Except ε α → Call σ ε α
  | .ok value => pure value
  | .error error => raise error

/-! ### Following a call to its end -/

/-- What holds of the outcome of a call and of what it has sent by then. -/
def After (call : Call σ ε α) (sent : List σ) (post : Except ε α → List σ → Prop) : Prop :=
  post (call sent).1 (call sent).2

variable {sent : List σ} {post : Except ε α → List σ → Prop}

@[simp] theorem after_pure (value : α) :
    After (pure value : Call σ ε α) sent post ↔ post (.ok value) sent :=
  Iff.rfl

@[simp] theorem after_raise (error : ε) :
    After (raise error : Call σ ε α) sent post ↔ post (.error error) sent :=
  Iff.rfl

@[simp] theorem after_send (request : σ) {post : Except ε Unit → List σ → Prop} :
    After (send request) sent post ↔ post (.ok ()) (sent ++ [request]) :=
  Iff.rfl

@[simp] theorem after_bind (call : Call σ ε β) (next : β → Call σ ε α) :
    After (call >>= next) sent post ↔
      After call sent fun outcome later =>
        match outcome with
        | .ok value => After (next value) later post
        | .error error => post (.error error) later := by
  change post ((call >>= next) sent).1 ((call >>= next) sent).2 ↔ _
  simp only [bind, After]
  rcases call sent with ⟨error | value, later⟩ <;> rfl

@[simp] theorem after_catching (call : Call σ ε α) (handler : ε → Call σ ε α) :
    After (catching call handler) sent post ↔
      After call sent fun outcome later =>
        match outcome with
        | .ok value => post (.ok value) later
        | .error error => After (handler error) later post := by
  change post (catching call handler sent).1 (catching call handler sent).2 ↔ _
  simp only [catching, After]
  rcases call sent with ⟨error | value, later⟩ <;> rfl

theorem After.mono {call : Call σ ε α} {stronger : Except ε α → List σ → Prop}
    (holds : After call sent stronger)
    (implies : ∀ outcome later, stronger outcome later → post outcome later) :
    After call sent post :=
  implies _ _ holds

/-! ### Calls that send nothing -/

/-- The call sends nothing. -/
def Quiet (call : Call σ ε α) : Prop := ∀ sent, (call sent).2 = sent

theorem quiet_pure (value : α) : Quiet (pure value : Call σ ε α) := fun _ => rfl

theorem quiet_raise (error : ε) : Quiet (raise error : Call σ ε α) := fun _ => rfl

theorem quiet_ofExcept (answer : Except ε α) : Quiet (ofExcept answer : Call σ ε α) := by
  cases answer <;> exact fun _ => rfl

theorem quiet_ite {condition : Prop} [Decidable condition] {first second : Call σ ε α}
    (quietFirst : Quiet first) (quietSecond : Quiet second) :
    Quiet (if condition then first else second) := by
  split
  · exact quietFirst
  · exact quietSecond

theorem Quiet.bind {call : Call σ ε β} {next : β → Call σ ε α} (quiet : Quiet call)
    (quietNext : ∀ value, Quiet (next value)) : Quiet (call >>= next) := by
  intro sent
  have same := quiet sent
  change (match call sent with
    | (.ok value, later) => next value later
    | (.error error, later) => (.error error, later)).2 = sent
  rcases split : call sent with ⟨error | value, later⟩
  · simpa only [split] using same
  · rw [split] at same
    exact (quietNext value later).trans same

theorem Quiet.catching {call : Call σ ε α} {handler : ε → Call σ ε α} (quiet : Quiet call)
    (quietHandler : ∀ error, Quiet (handler error)) : Quiet (catching call handler) := by
  intro sent
  have same := quiet sent
  unfold Call.catching
  rcases split : call sent with ⟨error | value, later⟩
  · rw [split] at same
    exact (quietHandler error later).trans same
  · simpa only [split] using same

/-- A call that sends nothing ends with what had been sent before it. -/
theorem Quiet.after {call : Call σ ε α} (quiet : Quiet call)
    (holds : ∀ outcome, post outcome sent) : After call sent post := by
  unfold After
  rw [quiet sent]
  exact holds _

end Call

end MarketMind.Requests
