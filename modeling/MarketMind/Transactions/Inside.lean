import MarketMind.Transactions.Serial
import MarketMind.Transactions.Triples

/-!
Owns the rules of an open transaction. A fact about the committed world is carried from one
statement to the next when it rests on the rows that the transaction holds; a statement that
spares the protocol may be executed anywhere, because its write keeps the protocol wherever it
lands.

Does not own what holds after the transaction has ended.
-/

namespace MarketMind.Transactions.Protocol

open Store (Asks)

variable {sig : Signature} {World Key Call : Type} {sys : System sig World Key Call}
  {protocol : Protocol sys} {pid : Pid} {call : Call} {α β : Type}

theorem asks_mono {P Q : sig.Statement → Prop} {program : Program sig α} (asks : Asks P program)
    (implies : ∀ asked, P asked → Q asked) : Asks Q program := by
  induction program with
  | done outcome => trivial
  | statement asked next inductionHypothesis =>
      exact ⟨implies asked asks.1, fun reply => inductionHypothesis reply (asks.2 reply)⟩
  | start => exact asks.elim
  | commit => exact asks.elim
  | rollback => exact asks.elim

/-! ### Facts that a transaction holds on to -/

variable (protocol pid) in
/-- The fact outlasts the other calls while the transaction is open. -/
def Held (opened : Session World Key) (fact : World → Prop) : Prop :=
  ∀ before after, protocol.Calm pid (some opened) before after → protocol.invariant after →
    fact before → fact after

variable {opened : Session World Key} {fact learned : World → Prop}

theorem held_true : protocol.Held pid opened fun _ => True := fun _ _ _ _ _ => trivial

theorem Held.and (left : protocol.Held pid opened fact) (right : protocol.Held pid opened learned) :
    protocol.Held pid opened fun world => fact world ∧ learned world :=
  fun before after calm holds both =>
    ⟨left before after calm holds both.1, right before after calm holds both.2⟩

/-- A fact about a row that the transaction holds. -/
theorem held_of_key {key : Key} (member : key ∈ opened.held)
    (rests : ∀ before after, sys.Agree key before after → fact before → fact after) :
    protocol.Held pid opened fact :=
  fun before after calm _ => rests before after (calm.agree opened rfl key member)

/-- A fact that every call may rely on. -/
theorem held_of_rely (rests : ∀ before after, protocol.rely pid before after → fact before → fact after) :
    protocol.Held pid opened fact :=
  fun before after calm _ => rests before after calm.rely

theorem Held.extend {γ : Type} {effect : Effect World Key γ} (held : protocol.Held pid opened fact) :
    protocol.Held pid (opened.extend effect) fact :=
  fun before after calm => held before after calm.ofExtend

/-! ### One statement after the other -/

variable (protocol pid call) in
/-- From every world with the fact, the rest of the transaction ends in `Q`. -/
def Within (opened : Session World Key) (fact : World → Prop) (program : Program sig α)
    (Q : Except sig.Error α → Option (Session World Key) → World → Prop) : Prop :=
  ∀ world, protocol.invariant world → fact world →
    protocol.wp pid call program Q (some opened) world

section Rules

variable {Q : Except sig.Error α → Option (Session World Key) → World → Prop}

theorem within_bind {program : Program sig α} {next : α → Program sig β}
    {Q : Except sig.Error β → Option (Session World Key) → World → Prop}
    (within : protocol.Within pid call opened fact program (protocol.bindPost pid call next Q)) :
    protocol.Within pid call opened fact (program >>= next) Q := by
  intro world holds given
  rw [wp_bind]
  exact within world holds given

theorem within_throw {error : sig.Error} (harmless : Harmless Q) :
    protocol.Within pid call opened fact (throw error : Program sig α) Q :=
  fun world _ _ => harmless error _ world

/-- What the statement finds is known from then on, if the transaction holds on to it. -/
theorem within_ask {asked : sig.Statement}
    {Q : Except sig.Error (sig.Reply asked) → Option (Session World Key) → World → Prop}
    (harmless : Harmless Q)
    (goesOn : ∀ choice world effect,
      protocol.discipline.admits pid call asked (opened.pending world) →
      sys.exec pid choice asked (opened.pending world) = .ok effect →
      protocol.invariant world → fact world →
        ∃ learned : World → Prop, learned world ∧
          protocol.Held pid (opened.extend effect) learned ∧
          ∀ later, protocol.invariant later → learned later →
            Q (.ok effect.reply) (some (opened.extend effect)) later) :
    protocol.Within pid call opened fact (Program.ask asked) Q := by
  intro world holds given
  refine wp_ask_open harmless fun _ admitted choice effect executed => ?_
  obtain ⟨learned, now, held, onward⟩ := goesOn choice world effect admitted executed holds given
  intro later calm holdsLater
  exact onward later holdsLater (held world later calm holdsLater now)

/-- A statement that reads what the world answers. -/
theorem within_read {asked : sig.Statement} {answer : World → sig.Reply asked}
    {Q : Except sig.Error (sig.Reply asked) → Option (Session World Key) → World → Prop}
    (harmless : Harmless Q)
    (reads : ∀ choice view, sys.exec pid choice asked view = .ok ⟨answer view, id, []⟩)
    (goesOn : ∀ world, protocol.invariant world → fact world →
      ∃ learned : World → Prop, learned world ∧ protocol.Held pid opened learned ∧
        ∀ later, protocol.invariant later → learned later →
          Q (.ok (answer (opened.pending world))) (some opened) later) :
    protocol.Within pid call opened fact (Program.ask asked) Q := by
  refine within_ask harmless fun choice world effect _ executed holds given => ?_
  obtain rfl := Except.ok.inj ((reads choice _).symm.trans executed)
  exact goesOn world holds given

/-- A statement that reads, whatever it reads. -/
theorem within_skim {asked : sig.Statement} {answer : Nat → World → sig.Reply asked}
    {Q : Except sig.Error (sig.Reply asked) → Option (Session World Key) → World → Prop}
    (harmless : Harmless Q) (held : protocol.Held pid opened fact)
    (reads : ∀ choice view, sys.exec pid choice asked view = .ok ⟨answer choice view, id, []⟩)
    (goesOn : ∀ reply later, protocol.invariant later → fact later →
      Q (.ok reply) (some opened) later) :
    protocol.Within pid call opened fact (Program.ask asked) Q := by
  refine within_ask harmless fun choice world effect _ executed _ given => ?_
  obtain rfl := Except.ok.inj ((reads choice _).symm.trans executed)
  exact ⟨fact, given, held.extend, fun later holdsLater known => goesOn _ later holdsLater known⟩

end Rules

/-! ### Writes that may land anywhere -/

variable (protocol pid) in
/-- The write keeps the protocol in whatever world with the fact it is committed. -/
def Lands (fact : World → Prop) (write : World → World) : Prop :=
  ∀ base, protocol.invariant base → fact base →
    protocol.invariant (write base) ∧ protocol.Guarantees pid base (write base)

variable (protocol pid call) in
/-- The writes of the statement keep the protocol wherever they land. -/
def Spares (asked : sig.Statement) : Prop :=
  ∀ choice view effect, protocol.discipline.admits pid call asked view →
    sys.exec pid choice asked view = .ok effect →
      protocol.Lands pid (fun _ => True) effect.write

theorem lands_id : protocol.Lands pid fact id :=
  fun base holds _ => ⟨holds, guarantees_refl base⟩

theorem Lands.comp {first second : World → World} (lands : protocol.Lands pid fact first)
    (further : protocol.Lands pid (fun _ => True) second) :
    protocol.Lands pid fact fun base => second (first base) := by
  intro base holds given
  obtain ⟨between, guarantees⟩ := lands base holds given
  obtain ⟨after, onward⟩ := further _ between trivial
  exact ⟨after, fun other apart =>
    protocol.rely_trans other (guarantees other apart) (onward other apart)⟩

theorem Spares.maintains {asked : sig.Statement} (spares : protocol.Spares pid call asked) :
    protocol.Maintains pid call (Program.ask asked) :=
  maintains_ask fun choice world effect admitted executed holds =>
    spares choice world effect admitted executed world holds trivial

/-- A program of such statements, outside transactions. -/
theorem maintains_of_sparing {program : Program sig α}
    (asks : Asks (protocol.Spares pid call) program) : protocol.Maintains pid call program := by
  induction program with
  | done outcome => exact fun world holds => ⟨rfl, holds⟩
  | statement asked next inductionHypothesis =>
      intro world holds
      refine ⟨fun error later _ holdsLater =>
        inductionHypothesis _ (asks.2 (.error error)) later holdsLater, ?_⟩
      intro _ admitted choice effect executed
      obtain ⟨kept, guarantees⟩ := asks.1 choice world effect admitted executed world holds trivial
      exact ⟨kept, guarantees, fun later _ holdsLater =>
        inductionHypothesis _ (asks.2 (.ok effect.reply)) later holdsLater⟩
  | start => exact asks.elim
  | commit => exact asks.elim
  | rollback => exact asks.elim

/-- The end of a transaction whose writes may land. -/
theorem closePost_of_lands {value : α} (lands : protocol.Lands pid fact opened.pending)
    {world : World} (holds : protocol.invariant world) (given : fact world) :
    protocol.closePost pid call (Returned protocol.invariant) (.ok value) (some opened) world := by
  cases doomed : opened.doomed with
  | true => exact closePost_doomed doomed fun _ _ holdsLater => ⟨rfl, holdsLater⟩
  | false =>
      obtain ⟨kept, guarantees⟩ := lands world holds given
      exact closePost_ok doomed ⟨kept, guarantees, fun _ _ holdsLater => ⟨rfl, holdsLater⟩⟩

/-- A failed transaction holds its rows until it ends. -/
private theorem calm_of_doomed {before after : World}
    (calm : protocol.Calm pid (some { opened with doomed := true }) before after) :
    protocol.Calm pid (some opened) before after where
  rely := calm.rely
  agree := by
    intro same isOpen key held
    cases isOpen
    exact calm.agree { opened with doomed := true } rfl key held
  still := fun _ => calm.still nofun

variable (protocol pid call) in
/-- From every world with the fact, the rest of the transaction keeps the protocol. -/
def Closes (opened : Session World Key) (fact : World → Prop) (program : Program sig α) : Prop :=
  protocol.Within pid call opened fact program
    (protocol.closePost pid call (Returned protocol.invariant))

theorem closes_throw {error : sig.Error} :
    protocol.Closes pid call opened fact (throw error : Program sig α) :=
  within_throw (close_harmless call)

theorem closes_pure {value : α} (lands : protocol.Lands pid fact opened.pending) :
    protocol.Closes pid call opened fact (pure value : Program sig α) :=
  fun _ holds given => closePost_of_lands lands holds given

theorem closes_assoc {program : Program sig α} {next : α → Program sig β} {γ : Type}
    {last : β → Program sig γ}
    (closes : protocol.Closes pid call opened fact (program >>= fun value => next value >>= last)) :
    protocol.Closes pid call opened fact ((program >>= next) >>= last) := by
  intro world holds given
  have safe := closes world holds given
  rw [wp_bind] at safe ⊢
  rw [wp_bind]
  refine wp_mono program ?_ safe
  rintro (error | value) session after ends
  · exact ends
  · rw [bindPost, wp_bind] at ends
    exact ends

/-- What the statement finds is known from then on, if the transaction holds on to it. -/
theorem closes_ask {asked : sig.Statement} {next : sig.Reply asked → Program sig α}
    (goesOn : ∀ choice world effect,
      protocol.discipline.admits pid call asked (opened.pending world) →
      sys.exec pid choice asked (opened.pending world) = .ok effect →
      protocol.invariant world → fact world →
        ∃ learned : World → Prop, learned world ∧
          protocol.Held pid (opened.extend effect) learned ∧
          protocol.Closes pid call (opened.extend effect) learned (next effect.reply)) :
    protocol.Closes pid call opened fact (Program.ask asked >>= next) := by
  refine within_bind (within_ask (close_harmless call) ?_)
  intro choice world effect admitted executed holds given
  obtain ⟨learned, now, held, closes⟩ := goesOn choice world effect admitted executed holds given
  exact ⟨learned, now, held, closes⟩

/-- A statement that reads, with what its reply tells. -/
theorem closes_read {asked : sig.Statement} {next : sig.Reply asked → Program sig α}
    {answer : World → sig.Reply asked}
    (reads : ∀ choice view, sys.exec pid choice asked view = .ok ⟨answer view, id, []⟩)
    (goesOn : ∀ world, protocol.invariant world → fact world →
      ∃ learned : World → Prop, learned world ∧ protocol.Held pid opened learned ∧
        protocol.Closes pid call opened learned (next (answer (opened.pending world)))) :
    protocol.Closes pid call opened fact (Program.ask asked >>= next) := by
  refine within_bind (within_read (close_harmless call) reads fun world holds given => ?_)
  obtain ⟨learned, now, held, closes⟩ := goesOn world holds given
  exact ⟨learned, now, held, closes⟩

/-- A statement that reads, whatever it reads. -/
theorem closes_skim {asked : sig.Statement} {next : sig.Reply asked → Program sig α}
    {answer : Nat → World → sig.Reply asked} (held : protocol.Held pid opened fact)
    (reads : ∀ choice view, sys.exec pid choice asked view = .ok ⟨answer choice view, id, []⟩)
    (goesOn : ∀ reply, protocol.Closes pid call opened fact (next reply)) :
    protocol.Closes pid call opened fact (Program.ask asked >>= next) :=
  within_bind (within_skim (close_harmless call) held reads fun reply later holds known =>
    goesOn reply later holds known)

/-- What the transaction has written may land, and the rest of it spares the protocol. -/
theorem closes_of_asks {program : Program sig α} (asks : Asks (protocol.Spares pid call) program)
    (lands : protocol.Lands pid fact opened.pending) (held : protocol.Held pid opened fact) :
    protocol.Closes pid call opened fact program := by
  induction program generalizing opened with
  | done outcome =>
      intro world holds given
      cases outcome with
      | error error => exact fun _ _ holdsLater => ⟨rfl, holdsLater⟩
      | ok value => exact closePost_of_lands lands holds given
  | statement asked next inductionHypothesis =>
      intro world _ given
      refine ⟨fun error later calm holdsLater => ?_, fun _ admitted choice effect executed => ?_⟩
      · have known := held world later (calm_of_doomed calm) holdsLater given
        have closes : protocol.Closes pid call { opened with doomed := true } fact
            (next (.error error)) := by
          refine inductionHypothesis (.error error) (asks.2 _) ?_ ?_
          · exact lands
          · exact fun before after further => held before after (calm_of_doomed further)
        exact closes later holdsLater known
      · intro later calm holdsLater
        exact inductionHypothesis _ (asks.2 _) (lands.comp (asks.1 choice _ effect admitted executed))
          held.extend later holdsLater (held.extend world later calm holdsLater given)
  | start => exact asks.elim
  | commit => exact asks.elim
  | rollback => exact asks.elim

/-- A part of the transaction that keeps a property of its pending writes. -/
theorem closes_through {program : Program sig β} {next : β → Program sig α}
    {shape : (World → World) → Prop}
    (asks : Asks (fun asked => ∀ choice view effect, sys.exec pid choice asked view = .ok effect →
      ∀ pending, shape pending → shape fun world => effect.write (pending world)) program)
    (shaped : shape opened.pending) (held : protocol.Held pid opened fact)
    (goesOn : ∀ (later : Session World Key) value, shape later.pending →
      (∀ key ∈ opened.held, key ∈ later.held) → protocol.Held pid later fact →
        protocol.Closes pid call later fact (next value)) :
    protocol.Closes pid call opened fact (program >>= next) := by
  refine within_bind ?_
  induction program generalizing opened with
  | done outcome =>
      intro world holds given
      cases outcome with
      | error error => exact fun _ _ holdsLater => ⟨rfl, holdsLater⟩
      | ok value => exact goesOn opened value shaped (fun _ member => member) held world holds given
  | statement asked rest inductionHypothesis =>
      intro world _ given
      refine ⟨fun error later calm holdsLater => ?_, fun _ _ choice effect executed => ?_⟩
      · have known := held world later (calm_of_doomed calm) holdsLater given
        have within : protocol.Within pid call { opened with doomed := true } fact
            (rest (.error error)) (protocol.bindPost pid call next
              (protocol.closePost pid call (Returned protocol.invariant))) := by
          refine inductionHypothesis (.error error) (asks.2 _) ?_ ?_ ?_
          · exact shaped
          · exact fun before after further => held before after (calm_of_doomed further)
          · exact goesOn
        exact within later holdsLater known
      · intro later calm holdsLater
        refine inductionHypothesis _ (asks.2 _) (asks.1 choice _ effect executed _ shaped)
          held.extend (fun after value shapedAfter kept => ?_) later holdsLater
          (held.extend world later calm holdsLater given)
        exact goesOn after value shapedAfter fun key member =>
          kept key (List.mem_append_right _ member)
  | start => exact asks.elim
  | commit => exact asks.elim
  | rollback => exact asks.elim

/-- A transaction that starts with nothing known. -/
theorem maintains_of_closes {body : Program sig α}
    (closes : protocol.Closes pid call .fresh (fun _ => True) body) :
    protocol.Maintains pid call (Program.transaction body) := by
  intro world _
  rw [wp_transaction]
  exact fun later _ holdsLater => closes later holdsLater trivial

/-- A transaction of such statements, whatever it does with their replies. -/
theorem maintains_of_asks {body : Program sig α} (asks : Asks (protocol.Spares pid call) body) :
    protocol.Maintains pid call (Program.transaction body) :=
  maintains_of_closes (closes_of_asks asks lands_id held_true)

end MarketMind.Transactions.Protocol
