import MarketMind.Transactions.Serial

/-!
Owns partial correctness of programs that run alone: from a state in `pre` a program returns in
`post`, if it returns at all, whatever the database fails to execute.

Does not own what other calls do in between.
-/

namespace MarketMind.Transactions

variable {sig : Signature} {World Key : Type} {α β : Type}

namespace Store

variable (store : Store sig World Key) (schedule : Schedule)

/-- Where a program leaves the session that it found, and what holds of the world that it sees. -/
def returned (session : Option (Session World Key)) (post : α → World → Prop) :
    Except sig.Error α → Option (Session World Key) → World → Prop
  | .ok value, later, after =>
      later.isSome = session.isSome ∧ isDoomed later = false ∧ post value (view later after)
  | .error _, later, _ => later.isSome = session.isSome

/-- Run alone, inside a transaction or outside, the program returns in `post`. -/
def Returns (isOpen : Bool) (pre : World → Prop) (program : Program sig α)
    (post : α → World → Prop) : Prop :=
  ∀ session world, session.isSome = isOpen → isDoomed session = false → pre (view session world) →
    store.Completes schedule program (returned session post) session world

variable {store} {schedule} {isOpen : Bool} {pre : World → Prop}

theorem returns_pure {value : α} {post : α → World → Prop}
    (holds : ∀ world, pre world → post value world) :
    store.Returns schedule isOpen pre (pure value) post :=
  fun _ _ _ healthy before => completes_pure ⟨rfl, healthy, holds _ before⟩

theorem returns_throw {error : sig.Error} {post : α → World → Prop} :
    store.Returns schedule isOpen pre (throw error) post :=
  fun _ _ _ _ _ => completes_throw rfl

theorem returns_bind {program : Program sig α} {next : α → Program sig β}
    (mid : α → World → Prop) {post : β → World → Prop}
    (first : store.Returns schedule isOpen pre program mid)
    (second : ∀ value, store.Returns schedule isOpen (mid value) (next value) post) :
    store.Returns schedule isOpen pre (program >>= next) post := by
  intro session world opens healthy before
  refine completes_bind (Completes.mono (first session world opens healthy before) ?_)
  intro outcome later after reached
  cases outcome with
  | error error => exact reached
  | ok value =>
      obtain ⟨sameSession, healthyLater, holds⟩ := reached
      have goesOn := second value later after (sameSession.trans opens) healthyLater holds
      refine Completes.mono goesOn fun outcome last ended reached => ?_
      cases outcome with
      | error error => exact reached.trans sameSession
      | ok value => exact ⟨reached.1.trans sameSession, reached.2⟩

theorem Returns.mono {program : Program sig α} {other : World → Prop}
    {mid post : α → World → Prop} (returns : store.Returns schedule isOpen other program mid)
    (before : ∀ world, pre world → other world)
    (after : ∀ value world, mid value world → post value world) :
    store.Returns schedule isOpen pre program post := by
  intro session world opens healthy holds
  refine Completes.mono (returns session world opens healthy (before _ holds)) ?_
  intro outcome later ended reached
  cases outcome with
  | error error => exact reached
  | ok value => exact ⟨reached.1, reached.2.1, after _ _ reached.2.2⟩

theorem returns_ask {asked : sig.Statement} {post : sig.Reply asked → World → Prop}
    (executes : ∀ choice world effect, pre world →
      store.exec schedule.pid choice asked world = .ok effect →
        post effect.reply (effect.write world)) :
    store.Returns schedule isOpen pre (Program.ask asked) post := by
  intro session world opens healthy before
  constructor
  intro count
  rcases run_ask store schedule asked ⟨count, session, world⟩ with
    ⟨error, later, ran, stays⟩ | ⟨choice, effect, executed, -, ran⟩
  · rw [ran]
    show later.isSome = session.isSome
    rcases stays with rfl | rfl
    · rfl
    · cases session <;> rfl
  · rw [ran]
    have holds := executes choice _ effect before executed
    cases session with
    | none => exact ⟨rfl, rfl, holds⟩
    | some opened => exact ⟨rfl, healthy, holds⟩

/-- A statement whose effect keeps `pre`, and whose reply does not matter. -/
theorem returns_beside {asked : sig.Statement}
    (executes : ∀ choice world effect, pre world →
      store.exec schedule.pid choice asked world = .ok effect → pre (effect.write world)) :
    store.Returns schedule isOpen pre (Program.ask asked) fun _ => pre :=
  returns_ask executes

/-- A transaction, which commits what its body reached. -/
theorem returns_transaction {body : Program sig α} {post : α → World → Prop}
    (inside : store.Returns schedule true pre body post) :
    store.Returns schedule false pre (Program.transaction body) post := by
  intro session world opens _ before
  cases session with
  | some opened => cases opens
  | none =>
      refine completes_closing (Completes.mono (inside (some .fresh) world rfl rfl before) ?_)
      intro outcome later after reached
      cases outcome with
      | error error => exact rfl
      | ok value =>
          obtain ⟨isOpen, healthy, holds⟩ := reached
          cases later with
          | none => cases isOpen
          | some opened =>
              refine ⟨opened, rfl, rfl, rfl, ?_⟩
              have sound : opened.doomed = false := healthy
              rw [if_neg (by simp [sound])]
              exact holds

/-- A call that returns does so in `post`. -/
theorem Returns.call {program : Program sig α} {post : α → World → Prop}
    (returns : store.Returns schedule false pre program post) {world : World} (before : pre world)
    {value : α} (returned : (store.call schedule program world).1 = .ok value) :
    post value (store.call schedule program world).2 := by
  have reached := (returns none world rfl rfl before).ends 0
  unfold Store.call at returned ⊢
  dsimp only at returned ⊢
  rw [returned] at reached
  obtain ⟨closed, -, holds⟩ := reached
  cases ended : (store.run schedule program ⟨0, none, world⟩).2.session with
  | none =>
      rw [ended] at holds
      exact holds
  | some opened =>
      rw [ended] at closed
      cases closed

end Store

end MarketMind.Transactions
