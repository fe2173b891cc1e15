import MarketMind.Transactions.Program

/-!
Owns the READ COMMITTED meaning of programs. Every statement sees the latest
committed world plus the writes of its own open transaction; a statement that
writes or locks rows holds them until the transaction ends, and waits while
another call holds one of them. Outside a transaction a statement commits by
itself. A statement that fails dooms its transaction: every later statement of
it fails, and its commit rolls back.

Does not own the serial meaning, in which one call runs alone.
-/

namespace MarketMind.Transactions

/-- The number under which a call is in flight. -/
abbrev Pid := Nat

/-- What one statement does: its reply, its resolved write, and the rows it
holds from now until its transaction ends. -/
structure Effect (World Key β : Type) where
  reply : β
  write : World → World
  keys : List Key

/-- The meaning of the statements of `sig`. `choice` resolves what the source
leaves open: generated identifiers, and which of several matching rows an
unordered query returns. -/
structure Store (sig : Signature) (World Key : Type) where
  exec : Pid → (choice : Nat) → (asked : sig.Statement) → World →
    Except sig.Error (Effect World Key (sig.Reply asked))
  /-- The two worlds hold the same row under the key. -/
  Agree : Key → World → World → Prop
  agree_refl : ∀ key world, Agree key world world
  agree_trans : ∀ key {first second third},
    Agree key first second → Agree key second third → Agree key first third
  /-- A write touches only the rows that its statement holds. -/
  framed : ∀ {pid choice asked world effect}, exec pid choice asked world = .ok effect →
    ∀ key, key ∉ effect.keys → ∀ other, Agree key other (effect.write other)
  /-- The error of every statement in a doomed transaction. -/
  aborted : sig.Error
  /-- The error of a statement that the database did not execute. -/
  databaseFailure : sig.Error

/-- An open transaction: its uncommitted writes and the rows it holds. -/
structure Session (World Key : Type) where
  pending : World → World
  held : List Key
  doomed : Bool

/-- The world as the statements of a transaction see it. -/
def view {World Key : Type} (session : Option (Session World Key)) (world : World) : World :=
  match session with
  | none => world
  | some opened => opened.pending world

/-- The session after one of its statements failed. -/
def doom {World Key : Type} (session : Option (Session World Key)) :
    Option (Session World Key) :=
  session.map fun opened => { opened with doomed := true }

/-- The session of a transaction that has executed nothing. -/
def Session.fresh {World Key : Type} : Session World Key := ⟨id, [], false⟩

/-- The session after a statement with this effect. -/
def Session.extend {World Key β : Type} (opened : Session World Key)
    (effect : Effect World Key β) : Session World Key :=
  { opened with
    pending := fun world => effect.write (opened.pending world)
    held := effect.keys ++ opened.held }

/-- Whether the open transaction, if any, has failed. -/
def isDoomed {World Key : Type} (session : Option (Session World Key)) : Bool :=
  match session with
  | none => false
  | some opened => opened.doomed

/-- A statement that was executed passed its checks. -/
theorem ok_of_unless {ε α : Type} {condition : Prop} [Decidable condition] {error : ε}
    {next : Except ε α} {result : α}
    (executed : (if condition then .error error else next) = .ok result) :
    ¬condition ∧ next = .ok result := by
  by_cases applies : condition
  · rw [if_pos applies] at executed
    cases executed
  · rw [if_neg applies] at executed
    exact ⟨applies, executed⟩

theorem ok_of_when {ε α : Type} {condition : Prop} [Decidable condition] {error : ε}
    {next : Except ε α} {result : α}
    (executed : (if condition then next else .error error) = .ok result) :
    condition ∧ next = .ok result := by
  by_cases applies : condition
  · rw [if_pos applies] at executed
    exact ⟨applies, executed⟩
  · rw [if_neg applies] at executed
    cases executed

/-! ### Calls in flight -/

/-- A store together with the calls that may run against it. -/
structure System (sig : Signature) (World Key Call : Type) extends Store sig World Key where
  program : Call → Program sig Unit
  /-- Whether the environment may issue the call now. -/
  enabled : Call → World → Bool

/-- A call in flight: what was called, its open transaction, and what is left to do. -/
structure Thread (sig : Signature) (World Key Call : Type) where
  call : Call
  session : Option (Session World Key)
  rest : Program sig Unit

/-- The committed world, the holder of each locked row, and the calls in flight. -/
structure Machine (sig : Signature) (World Key Call : Type) where
  world : World
  holder : Key → Option Pid
  threads : Pid → Option (Thread sig World Key Call)

/-- What happens next: a call is issued, a call executes its next instruction,
the next statement of a call fails, or a call dies with its transaction. -/
inductive Move (Call : Type)
  | issue (pid : Pid) (call : Call)
  | step (pid : Pid) (choice : Nat)
  | fail (pid : Pid)
  | crash (pid : Pid)

/-- The call that moves. -/
def Move.pid {Call : Type} : Move Call → Pid
  | .issue pid _ | .step pid _ | .fail pid | .crash pid => pid

namespace Machine

variable {sig : Signature} {World Key Call : Type}

/-- Nothing in flight over the given world. -/
def idle (world : World) : Machine sig World Key Call := ⟨world, fun _ => none, fun _ => none⟩

/-- The machine with another state of the call `pid`. -/
def set (machine : Machine sig World Key Call) (pid : Pid)
    (thread : Thread sig World Key Call) : Machine sig World Key Call :=
  { machine with threads := Function.update machine.threads pid (some thread) }

/-- The machine after `pid` let go of every row it held. -/
def release (machine : Machine sig World Key Call) (pid : Pid) : Machine sig World Key Call :=
  { machine with holder := fun key =>
      if machine.holder key = some pid then none else machine.holder key }

variable [DecidableEq Key]

/-- No call but `pid` holds one of the rows. -/
def free (machine : Machine sig World Key Call) (pid : Pid) (keys : List Key) : Bool :=
  keys.all fun key => machine.holder key = none || machine.holder key = some pid

/-- The machine after `pid` took the rows. -/
def take (machine : Machine sig World Key Call) (pid : Pid) (keys : List Key) :
    Machine sig World Key Call :=
  { machine with holder := fun key => if key ∈ keys then some pid else machine.holder key }

end Machine

namespace System

variable {sig : Signature} {World Key Call : Type} [DecidableEq Key]

/-- The next instruction of one call. `none`: the call has ended, waits for a
row, or the instruction makes no sense where it stands. -/
def stepThread (sys : System sig World Key Call) (machine : Machine sig World Key Call)
    (pid : Pid) (choice : Nat) (thread : Thread sig World Key Call) :
    Option (Machine sig World Key Call) :=
  match thread.rest with
  | .done _ => none
  | .statement asked next =>
      if isDoomed thread.session then
        some (machine.set pid { thread with rest := next (.error sys.aborted) })
      else
        match sys.exec pid choice asked (view thread.session machine.world) with
        | .error error =>
            some (machine.set pid
              { thread with session := doom thread.session, rest := next (.error error) })
        | .ok effect =>
            if machine.free pid effect.keys then
              match thread.session with
              | none =>
                  some ({ machine with world := effect.write machine.world }.set pid
                    { thread with rest := next (.ok effect.reply) })
              | some opened =>
                  some ((machine.take pid effect.keys).set pid
                    { thread with
                      session := some (opened.extend effect)
                      rest := next (.ok effect.reply) })
            else none
  | .start next =>
      match thread.session with
      | none => some (machine.set pid { thread with session := some .fresh, rest := next })
      | some _ => none
  | .commit next =>
      match thread.session with
      | none => none
      | some opened =>
          let world := if opened.doomed then machine.world else opened.pending machine.world
          some (({ machine with world }.release pid).set pid
            { thread with session := none, rest := next })
  | .rollback next =>
      match thread.session with
      | none => none
      | some _ => some ((machine.release pid).set pid { thread with session := none, rest := next })

/-- One move of the machine. -/
def step (sys : System sig World Key Call) (machine : Machine sig World Key Call) :
    Move Call → Option (Machine sig World Key Call)
  | .issue pid call =>
      match machine.threads pid with
      | none =>
          if sys.enabled call machine.world then
            some (machine.set pid ⟨call, none, sys.program call⟩)
          else none
      | some _ => none
  | .step pid choice =>
      match machine.threads pid with
      | none => none
      | some thread => sys.stepThread machine pid choice thread
  | .fail pid =>
      match machine.threads pid with
      | some ⟨call, session, .statement _ next⟩ =>
          some (machine.set pid ⟨call, doom session, next (.error sys.databaseFailure)⟩)
      | _ => none
  | .crash pid =>
      match machine.threads pid with
      | none | some ⟨_, _, .done _⟩ => none
      | some thread =>
          some ((machine.release pid).set pid
            ⟨thread.call, none, .done (.error sys.databaseFailure)⟩)

/-- The machine after a list of moves, when all of them are possible. -/
def play (sys : System sig World Key Call) (machine : Machine sig World Key Call)
    (moves : List (Move Call)) : Option (Machine sig World Key Call) :=
  moves.foldlM sys.step machine

end System

/-! ### Runs -/

/-- How transactions may overlap. -/
inductive Isolation
  | readCommitted
  | oneAtATime
deriving DecidableEq

/-- What a family of runs admits: which calls are issued, which statements are
executed by which call in which (own) view of the world, and how transactions overlap. -/
structure Discipline (sig : Signature) (World Call : Type) where
  issues : Call → Prop
  admits : Pid → Call → (asked : sig.Statement) → World → Prop
  isolation : Isolation

variable {sig : Signature} {World Key Call : Type} [DecidableEq Key]

/-- No call but `pid` has a transaction open. -/
def Machine.Alone (machine : Machine sig World Key Call) (pid : Pid) : Prop :=
  ∀ other thread, other ≠ pid → machine.threads other = some thread → thread.session = none

/-- The discipline admits the move in the given machine. -/
def Discipline.AdmitsMove (discipline : Discipline sig World Call)
    (machine : Machine sig World Key Call) : Move Call → Prop
  | .issue _ call => discipline.issues call
  | .step pid _ =>
      (discipline.isolation = .oneAtATime → machine.Alone pid) ∧
        ∀ thread, machine.threads pid = some thread →
          ∀ asked next, thread.rest = .statement asked next →
            discipline.admits pid thread.call asked (view thread.session machine.world)
  | .fail _ => True
  | .crash _ => True

/-- The machines that a system reaches from `start` under a discipline. -/
inductive Reaches (sys : System sig World Key Call) (discipline : Discipline sig World Call)
    (start : World) : Machine sig World Key Call → Prop
  | idle : Reaches sys discipline start (.idle start)
  | move {machine after : Machine sig World Key Call} (move : Move Call) :
      Reaches sys discipline start machine → discipline.AdmitsMove machine move →
      sys.step machine move = some after → Reaches sys discipline start after

/-- The discipline that admits everything. -/
def Discipline.free : Discipline sig World Call := ⟨fun _ => True, fun _ _ _ _ => True, .readCommitted⟩

theorem Reaches.play {sys : System sig World Key Call} {start : World}
    {machine after : Machine sig World Key Call} {moves : List (Move Call)}
    (reached : Reaches sys .free start machine)
    (played : sys.play machine moves = some after) : Reaches sys .free start after := by
  induction moves generalizing machine with
  | nil =>
      cases played
      exact reached
  | cons move rest inductionHypothesis =>
      simp only [System.play, List.foldlM_cons, Option.bind_eq_bind,
        Option.bind_eq_some_iff] at played
      obtain ⟨between, stepped, played⟩ := played
      refine inductionHypothesis (reached.move move ?_ stepped) played
      cases move <;> simp [Discipline.AdmitsMove, Discipline.free]

/-- What is read off the machine after a list of moves is read off a machine that
some run reaches. -/
theorem Reaches.of_play {sys : System sig World Key Call} {start : World}
    {moves : List (Move Call)} {β : Type} {observe : Machine sig World Key Call → β} {seen : β}
    (played : (sys.play (.idle start) moves).map observe = some seen) :
    ∃ machine, Reaches sys .free start machine ∧ observe machine = seen := by
  obtain ⟨machine, reached, same⟩ := Option.map_eq_some_iff.mp played
  exact ⟨machine, Reaches.idle.play reached, same⟩

/-! ### Runs under a check -/

/-- Whether the next instruction of the move, when it is a statement, passes the check. -/
def Move.passes (check : Pid → Call → sig.Statement → World → Bool) (machine : Machine sig World Key Call) :
    Move Call → Bool
  | .step pid _ =>
      match machine.threads pid with
      | some ⟨call, session, .statement asked _⟩ =>
          check pid call asked (view session machine.world)
      | _ => true
  | _ => true

/-- The machine after a list of moves that all pass the check. -/
def System.playChecked (sys : System sig World Key Call)
    (check : Pid → Call → sig.Statement → World → Bool) (machine : Machine sig World Key Call)
    (moves : List (Move Call)) : Option (Machine sig World Key Call) :=
  moves.foldlM (fun machine move =>
    if move.passes check machine then sys.step machine move else none) machine

/-- The call that the move issues. -/
def Move.issued {Call : Type} : Move Call → Option Call
  | .issue _ call => some call
  | _ => none

omit [DecidableEq Key] in
/-- A move that passes the check is one that the discipline admits. -/
theorem Discipline.admits_of_passes {discipline : Discipline sig World Call}
    {check : Pid → Call → sig.Statement → World → Bool} {machine : Machine sig World Key Call}
    {move : Move Call} (issues : ∀ call, move.issued = some call → discipline.issues call)
    (overlapping : discipline.isolation = .readCommitted)
    (sound : ∀ pid call asked world, check pid call asked world = true →
      discipline.admits pid call asked world) (passes : move.passes check machine = true) :
    discipline.AdmitsMove machine move := by
  cases move with
  | issue pid call => exact issues call rfl
  | step pid choice =>
      refine ⟨fun serial => ?_, ?_⟩
      · rw [overlapping] at serial
        cases serial
      · intro thread inFlight asked next asks
        obtain ⟨call, session, rest⟩ := thread
        cases asks
        simp only [Move.passes, inFlight] at passes
        exact sound pid call asked _ passes
  | fail pid => trivial
  | crash pid => trivial

theorem Reaches.playIssued {sys : System sig World Key Call}
    {discipline : Discipline sig World Call} {start : World}
    {check : Pid → Call → sig.Statement → World → Bool}
    (overlapping : discipline.isolation = .readCommitted)
    (sound : ∀ pid call asked world, check pid call asked world = true →
      discipline.admits pid call asked world)
    {machine after : Machine sig World Key Call} {moves : List (Move Call)}
    (issues : ∀ call ∈ moves.filterMap Move.issued, discipline.issues call)
    (reached : Reaches sys discipline start machine)
    (played : sys.playChecked check machine moves = some after) :
    Reaches sys discipline start after := by
  induction moves generalizing machine with
  | nil =>
      cases played
      exact reached
  | cons move rest inductionHypothesis =>
      simp only [System.playChecked, List.foldlM_cons, Option.bind_eq_bind,
        Option.bind_eq_some_iff] at played
      obtain ⟨between, stepped, played⟩ := played
      have issuesRest : ∀ call ∈ rest.filterMap Move.issued, discipline.issues call := by
        intro call member
        obtain ⟨later, isLater, same⟩ := List.mem_filterMap.mp member
        exact issues call (List.mem_filterMap.mpr ⟨later, List.mem_cons_of_mem move isLater, same⟩)
      split at stepped
      · next passes =>
        refine inductionHypothesis issuesRest (reached.move move ?_ stepped) played
        refine Discipline.admits_of_passes (fun call issued => ?_) overlapping sound passes
        exact issues call (List.mem_filterMap.mpr ⟨move, List.mem_cons_self, issued⟩)
      · cases stepped

/-- The same where every call is issued. -/
theorem Reaches.playChecked {sys : System sig World Key Call}
    {discipline : Discipline sig World Call} {start : World}
    {check : Pid → Call → sig.Statement → World → Bool} (anyCall : ∀ call, discipline.issues call)
    (overlapping : discipline.isolation = .readCommitted)
    (sound : ∀ pid call asked world, check pid call asked world = true →
      discipline.admits pid call asked world)
    {machine after : Machine sig World Key Call} {moves : List (Move Call)}
    (reached : Reaches sys discipline start machine)
    (played : sys.playChecked check machine moves = some after) :
    Reaches sys discipline start after :=
  Reaches.playIssued overlapping sound (fun call _ => anyCall call) reached played

end MarketMind.Transactions
