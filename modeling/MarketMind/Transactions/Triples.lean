import MarketMind.Transactions.RelyGuarantee

/-!
Owns triples: what a program ends in when it starts outside transactions, with facts about
the committed world that outlast the other calls.

Does not own the rules of the single statements of a transaction.
-/

namespace MarketMind.Transactions.Protocol

variable {sig : Signature} {World Key Call : Type} {sys : System sig World Key Call}
  {protocol : Protocol sys} {pid : Pid} {call : Call} {α β : Type}

variable (protocol pid call) in
/-- Started outside transactions in a world with `pre`, the program keeps the protocol and
ends outside transactions in `post`. -/
def Ensures (pre : World → Prop) (program : Program sig α)
    (post : Except sig.Error α → World → Prop) : Prop :=
  ∀ world, protocol.invariant world → pre world →
    protocol.wp pid call program
      (fun outcome session after =>
        session = none ∧ protocol.invariant after ∧ post outcome after) none world

/-- What holds when a value is returned. -/
def returning (post : α → World → Prop) : Except sig.Error α → World → Prop
  | .ok value, world => post value world
  | .error _, _ => True

variable {pre fact : World → Prop} {post : Except sig.Error α → World → Prop}

theorem ensures_pure {value : α} (implies : ∀ world, pre world → post (.ok value) world) :
    protocol.Ensures pid call pre (pure value : Program sig α) post :=
  fun world holds given => ⟨rfl, holds, implies world given⟩

theorem ensures_done {outcome : Except sig.Error α}
    (implies : ∀ world, pre world → post outcome world) :
    protocol.Ensures pid call pre (.done outcome : Program sig α) post :=
  fun world holds given => ⟨rfl, holds, implies world given⟩

theorem ensures_throw {error : sig.Error} (implies : ∀ world, pre world → post (.error error) world) :
    protocol.Ensures pid call pre (throw error : Program sig α) post :=
  ensures_done implies

theorem Ensures.mono {program : Program sig α} {before : World → Prop}
    {after : Except sig.Error α → World → Prop}
    (ensures : protocol.Ensures pid call before program after)
    (weaker : ∀ world, pre world → before world)
    (stronger : ∀ outcome world, after outcome world → post outcome world) :
    protocol.Ensures pid call pre program post := by
  intro world holds given
  refine wp_mono program ?_ (ensures world holds (weaker world given))
  rintro outcome session later ⟨closed, holdsLater, ends⟩
  exact ⟨closed, holdsLater, stronger outcome later ends⟩

/-- A fact that does not depend on the world is known from the start. -/
theorem ensures_knowing {known : Prop} {program : Program sig α}
    (ensures : known → protocol.Ensures pid call (fun _ => True) program post) :
    protocol.Ensures pid call (fun _ => known) program post :=
  fun world holds isKnown => ensures isKnown world holds trivial

/-- The two ends of a program together. -/
theorem ensures_bind {program : Program sig α} {next : α → Program sig β}
    {middle : Except sig.Error α → World → Prop} {last : Except sig.Error β → World → Prop}
    (first : protocol.Ensures pid call pre program middle)
    (second : ∀ value, protocol.Ensures pid call (middle (.ok value)) (next value) last)
    (thrown : ∀ error world, middle (.error error) world → last (.error error) world) :
    protocol.Ensures pid call pre (program >>= next) last := by
  intro world holds given
  rw [wp_bind]
  refine wp_mono program ?_ (first world holds given)
  rintro (error | value) session later ⟨rfl, holdsLater, ends⟩
  · exact ⟨rfl, holdsLater, thrown error later ends⟩
  · exact second value later holdsLater ends

theorem ensures_tryCatch {program : Program sig α} {handler : sig.Error → Program sig α}
    {middle : Except sig.Error α → World → Prop}
    (first : protocol.Ensures pid call pre program middle)
    (second : ∀ error, protocol.Ensures pid call (middle (.error error)) (handler error) post)
    (returned : ∀ value world, middle (.ok value) world → post (.ok value) world) :
    protocol.Ensures pid call pre (tryCatch program handler) post := by
  intro world holds given
  rw [wp_tryCatch]
  refine wp_mono program ?_ (first world holds given)
  rintro (error | value) session later ⟨rfl, holdsLater, ends⟩
  · exact second error later holdsLater ends
  · exact ⟨rfl, holdsLater, returned value later ends⟩

theorem Maintains.ensures {program : Program sig α}
    (maintains : protocol.Maintains pid call program) :
    protocol.Ensures pid call pre program fun _ _ => True := by
  intro world holds _
  refine wp_mono program ?_ (maintains world holds)
  rintro outcome session later ⟨closed, holdsLater⟩
  exact ⟨closed, holdsLater, trivial⟩

theorem Ensures.maintains {program : Program sig α}
    (ensures : protocol.Ensures pid call (fun _ => True) program post) :
    protocol.Maintains pid call program := by
  intro world holds
  refine wp_mono program ?_ (ensures world holds trivial)
  rintro outcome session later ⟨closed, holdsLater, -⟩
  exact ⟨closed, holdsLater⟩

/-- A program of which nothing is asked at its return. -/
theorem maintains_of_returning {program : Program sig α}
    (ensures : protocol.Ensures pid call (fun _ => True) program (returning fun _ _ => True)) :
    protocol.Maintains pid call program := ensures.maintains

/-- One statement outside a transaction. -/
theorem ensures_ask {asked : sig.Statement} {post : sig.Reply asked → World → Prop}
    (keeps : ∀ choice world effect, protocol.discipline.admits pid call asked world →
      sys.exec pid choice asked world = .ok effect → protocol.invariant world → pre world →
        protocol.invariant (effect.write world) ∧
        protocol.Guarantees pid world (effect.write world) ∧
        ∀ later, protocol.rely pid (effect.write world) later → protocol.invariant later →
          post effect.reply later) :
    protocol.Ensures pid call pre (Program.ask asked) (returning post) := by
  intro world holds given
  refine ⟨fun _ _ _ holdsLater => ⟨rfl, holdsLater, trivial⟩, ?_⟩
  intro _ admitted choice effect executed
  obtain ⟨kept, guarantees, ends⟩ := keeps choice world effect admitted executed holds given
  exact ⟨kept, guarantees, fun later calm holdsLater =>
    ⟨rfl, holdsLater, ends later calm.rely holdsLater⟩⟩

/-! ### Facts that outlast the other calls -/

section Stable

/-- Every call relies on the same of the others. -/
def Uniform (protocol : Protocol sys) : Prop :=
  ∀ pid other before after, protocol.rely pid before after → protocol.rely other before after

variable (protocol) in
/-- The fact survives what calls rely on. -/
def Stable (fact : World → Prop) : Prop :=
  ∀ pid before after, protocol.rely pid before after → fact before → fact after

theorem Stable.and {other : World → Prop} (left : protocol.Stable fact)
    (right : protocol.Stable other) : protocol.Stable fun world => fact world ∧ other world :=
  fun pid before after relied holds =>
    ⟨left pid before after relied holds.1, right pid before after relied holds.2⟩

variable (uniform : Uniform protocol) (stable : protocol.Stable fact)
include uniform

/-- A change that the other calls rely on is one that this call relies on. -/
theorem Guarantees.rely {before after : World} (guarantees : protocol.Guarantees pid before after)
    (other : Pid) : protocol.rely other before after :=
  uniform (pid + 1) other before after (guarantees (pid + 1) (Nat.succ_ne_self pid))

include stable

omit uniform in
private theorem After.keeps {session : Option (Session World Key)} {world : World}
    {P Q : World → Prop} (after : protocol.After pid session world P) (holds : fact world)
    (implies : ∀ later, P later → fact later → Q later) : protocol.After pid session world Q := by
  intro later calm holdsLater
  exact implies later (after later calm holdsLater) (stable pid world later calm.rely holds)

/-- A program that keeps the protocol keeps every such fact. -/
theorem wp_keeps (program : Program sig α)
    {Q : Except sig.Error α → Option (Session World Key) → World → Prop}
    {session : Option (Session World Key)} {world : World}
    (safe : protocol.wp pid call program Q session world) (holds : fact world) :
    protocol.wp pid call program (fun outcome session after => Q outcome session after ∧ fact after)
      session world := by
  induction program generalizing session world with
  | done outcome => exact ⟨safe, holds⟩
  | statement asked next inductionHypothesis =>
      refine ⟨fun error => After.keeps stable (safe.1 error) holds
        fun _ => inductionHypothesis _, ?_⟩
      intro sound admitted choice effect executed
      have step := safe.2 sound admitted choice effect executed
      cases session with
      | none =>
          refine ⟨step.1, step.2.1, After.keeps stable step.2.2 ?_
            fun _ => inductionHypothesis _⟩
          exact stable pid _ _ (Guarantees.rely uniform step.2.1 pid) holds
      | some opened => exact After.keeps stable step holds fun _ => inductionHypothesis _
  | start next inductionHypothesis =>
      exact ⟨safe.1, After.keeps stable safe.2 holds fun _ => inductionHypothesis⟩
  | commit next inductionHypothesis =>
      obtain ⟨opened, isOpen, doomed, sound⟩ := safe
      refine ⟨opened, isOpen, fun isDoomed =>
        After.keeps stable (doomed isDoomed) holds fun _ => inductionHypothesis, ?_⟩
      intro isSound
      obtain ⟨kept, guarantees, after⟩ := sound isSound
      refine ⟨kept, guarantees, After.keeps stable after ?_ fun _ => inductionHypothesis⟩
      exact stable pid _ _ (Guarantees.rely uniform guarantees pid) holds
  | rollback next inductionHypothesis =>
      exact After.keeps stable safe holds fun _ => inductionHypothesis

/-- The frame rule. -/
theorem Ensures.frame {program : Program sig α}
    (ensures : protocol.Ensures pid call pre program post) :
    protocol.Ensures pid call (fun world => pre world ∧ fact world) program
      fun outcome world => post outcome world ∧ fact world := by
  intro world holds given
  refine wp_mono program ?_
    (wp_keeps uniform stable program (ensures world holds given.1) given.2)
  rintro outcome session later ⟨⟨closed, holdsLater, ends⟩, kept⟩
  exact ⟨closed, holdsLater, ends, kept⟩

/-- The frame rule for a program of which only the fact is asked. -/
theorem Maintains.frame {program : Program sig α}
    (maintains : protocol.Maintains pid call program) :
    protocol.Ensures pid call fact program fun _ world => fact world := by
  have framed := Ensures.frame uniform stable
    (maintains.ensures : protocol.Ensures pid call (fun _ => True) program _)
  exact framed.mono (fun _ holds => ⟨trivial, holds⟩) (fun _ _ ends => ends.2)

end Stable

/-- Calls that start in facts of their own are safe together. -/
theorem safe_of_ensures [DecidableEq Key] {begins : Call → World → Prop}
    (begun : ∀ pid call world later, protocol.discipline.issues call →
      sys.enabled call world = true → protocol.invariant world → protocol.rely pid world later →
        begins call later)
    (ensures : ∀ pid call, protocol.discipline.issues call →
      protocol.Ensures pid call (begins call) (sys.program call) fun _ _ => True) :
    protocol.Safe fun _ _ => True := by
  intro pid call world issued enabled holds later calm holdsLater
  have given := begun pid call world later issued enabled holds calm.rely
  refine wp_mono _ ?_ (ensures pid call issued later holdsLater given)
  intro _ _ _ _ _
  trivial

/-! ### Programs that carry a fact -/

variable (protocol pid call) in
/-- The program may rely on the fact from its start to its end. -/
def Carries (fact : World → Prop) (program : Program sig α) : Prop :=
  protocol.Ensures pid call fact program fun _ world => fact world

theorem carries_pure (value : α) : protocol.Carries pid call fact (pure value : Program sig α) :=
  ensures_pure fun _ => id

theorem carries_throw (error : sig.Error) :
    protocol.Carries pid call fact (throw error : Program sig α) :=
  ensures_throw fun _ => id

theorem carries_bind {program : Program sig α} {next : α → Program sig β}
    (first : protocol.Carries pid call fact program)
    (second : ∀ value, protocol.Carries pid call fact (next value)) :
    protocol.Carries pid call fact (program >>= next) :=
  ensures_bind first second fun _ _ => id

theorem carries_tryCatch {program : Program sig α} {handler : sig.Error → Program sig α}
    (first : protocol.Carries pid call fact program)
    (second : ∀ error, protocol.Carries pid call fact (handler error)) :
    protocol.Carries pid call fact (tryCatch program handler) :=
  ensures_tryCatch first second fun _ _ => id

theorem Maintains.carries {program : Program sig α} (uniform : Uniform protocol)
    (stable : protocol.Stable fact) (maintains : protocol.Maintains pid call program) :
    protocol.Carries pid call fact program := maintains.frame uniform stable

/-- A program that learns something on top of the fact, and a rest that uses both. -/
theorem carries_learning {program : Program sig α} {next : α → Program sig β}
    {learned : α → World → Prop} (uniform : Uniform protocol) (stable : protocol.Stable fact)
    (first : protocol.Ensures pid call fact program (returning learned))
    (second : ∀ value, protocol.Ensures pid call
      (fun world => learned value world ∧ fact world) (next value) fun _ world => fact world) :
    protocol.Carries pid call fact (program >>= next) := by
  have framed : protocol.Ensures pid call fact program fun outcome world =>
      returning learned outcome world ∧ fact world :=
    (Ensures.frame uniform stable first).mono (fun _ holds => ⟨holds, holds⟩) fun _ _ => id
  refine ensures_bind framed second ?_
  rintro error world ⟨-, holds⟩
  exact holds

end MarketMind.Transactions.Protocol
