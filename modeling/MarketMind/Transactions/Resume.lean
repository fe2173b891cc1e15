import MarketMind.Transactions.Store

/-!
Owns the rule by which runs are put together: a run that has come to rest in a
world can be followed by the moves of any run from that world, since the calls
that have ended neither hold rows nor move.
-/

namespace MarketMind.Transactions

variable {sig : Signature} {World Key Call : Type} [DecidableEq Key]

/-- The machine with calls that have left it behind. -/
def Machine.behind (ended : Pid → Option (Thread sig World Key Call))
    (machine : Machine sig World Key Call) : Machine sig World Key Call :=
  { machine with threads := fun pid => (machine.threads pid).or (ended pid) }

section Behind

variable {sys : System sig World Key Call} {ended : Pid → Option (Thread sig World Key Call)}

omit [DecidableEq Key] in
theorem Machine.behind_set (machine : Machine sig World Key Call) (pid : Pid)
    (thread : Thread sig World Key Call) :
    (machine.set pid thread).behind ended = (machine.behind ended).set pid thread := by
  unfold Machine.behind Machine.set
  congr 1
  funext other
  by_cases same : other = pid
  · subst same
    simp
  · simp [same]

theorem System.stepThread_behind (machine : Machine sig World Key Call) (pid : Pid) (choice : Nat)
    (thread : Thread sig World Key Call) :
    sys.stepThread (machine.behind ended) pid choice thread =
      (sys.stepThread machine pid choice thread).map (Machine.behind ended) := by
  obtain ⟨call, session, rest⟩ := thread
  cases rest with
  | done outcome => rfl
  | statement asked next =>
      simp only [System.stepThread]
      by_cases doomed : isDoomed session = true
      · rw [if_pos doomed, if_pos doomed, Option.map_some, Machine.behind_set]
      · rw [if_neg doomed, if_neg doomed]
        have sameWorld : (machine.behind ended).world = machine.world := rfl
        rw [sameWorld]
        cases sys.exec pid choice asked (view session machine.world) with
        | error error => rw [Option.map_some, Machine.behind_set]
        | ok effect =>
            have sameFree : (machine.behind ended).free pid effect.keys =
                machine.free pid effect.keys := rfl
            dsimp only
            rw [sameFree]
            cases machine.free pid effect.keys with
            | false => rfl
            | true =>
                cases session with
                | none =>
                    exact congrArg some (Machine.behind_set
                      { machine with world := effect.write machine.world } pid _).symm
                | some opened =>
                    exact congrArg some
                      (Machine.behind_set (machine.take pid effect.keys) pid _).symm
  | start next =>
      cases session with
      | none => exact congrArg some (Machine.behind_set machine pid _).symm
      | some opened => rfl
  | commit next =>
      cases session with
      | none => rfl
      | some opened =>
          simp only [System.stepThread, Option.map_some, Machine.behind_set]
          rfl
  | rollback next =>
      cases session with
      | none => rfl
      | some opened => exact congrArg some (Machine.behind_set (machine.release pid) pid _).symm

/-- A move of another call does not notice who has left. -/
theorem System.step_behind (machine : Machine sig World Key Call) {move : Move Call}
    (absent : ended move.pid = none) :
    sys.step (machine.behind ended) move = (sys.step machine move).map (Machine.behind ended) := by
  have sameThread : (machine.behind ended).threads move.pid = machine.threads move.pid := by
    simp [Machine.behind, absent]
  cases move with
  | issue pid call =>
      simp only [Move.pid] at sameThread
      simp only [System.step, sameThread]
      cases machine.threads pid with
      | some thread => rfl
      | none =>
          have sameWorld : (machine.behind ended).world = machine.world := rfl
          simp only [sameWorld]
          split
          · rw [Option.map_some, Machine.behind_set]
          · rfl
  | step pid choice =>
      simp only [Move.pid] at sameThread
      simp only [System.step, sameThread]
      cases machine.threads pid with
      | none => rfl
      | some thread => exact System.stepThread_behind machine pid choice thread
  | fail pid =>
      simp only [Move.pid] at sameThread
      simp only [System.step, sameThread]
      rcases machine.threads pid with _ | ⟨call, session, rest⟩
      · rfl
      · cases rest with
        | statement asked next => exact congrArg some (Machine.behind_set machine pid _).symm
        | done | start | commit | rollback => rfl
  | crash pid =>
      simp only [Move.pid] at sameThread
      simp only [System.step, sameThread]
      rcases machine.threads pid with _ | ⟨call, session, rest⟩
      · rfl
      · cases rest with
        | done => rfl
        | statement | start | commit | rollback =>
            exact congrArg some (Machine.behind_set (machine.release pid) pid _).symm

theorem System.play_behind {moves : List (Move Call)} {machine after : Machine sig World Key Call}
    (absent : ∀ move ∈ moves, ended move.pid = none)
    (played : sys.play machine moves = some after) :
    sys.play (machine.behind ended) moves = some (after.behind ended) := by
  induction moves generalizing machine with
  | nil =>
      cases played
      rfl
  | cons move rest inductionHypothesis =>
      simp only [System.play, List.foldlM_cons, Option.bind_eq_bind,
        Option.bind_eq_some_iff] at played ⊢
      obtain ⟨between, stepped, played⟩ := played
      refine ⟨between.behind ended, ?_, ?_⟩
      · rw [System.step_behind machine (absent move List.mem_cons_self), stepped, Option.map_some]
      · exact inductionHypothesis (fun move member => absent move (List.mem_cons_of_mem _ member))
          played

end Behind

/-- What a move does with the held rows: it leaves them, takes more of them for a
call that has a transaction open, or lets go of all that the call holds. -/
inductive Holds (machine : Machine sig World Key Call) (pid : Pid)
    (thread : Thread sig World Key Call) : (Key → Option Pid) → Prop
  | same : (∀ old, machine.threads pid = some old → old.session ≠ none → thread.session ≠ none) →
      Holds machine pid thread machine.holder
  | take (keys : List Key) : thread.session ≠ none →
      Holds machine pid thread (machine.take pid keys).holder
  | release : Holds machine pid thread (machine.release pid).holder

/-- A move sets the state of the call that moves. -/
theorem System.step_cases {sys : System sig World Key Call} {move : Move Call}
    {machine after : Machine sig World Key Call} (stepped : sys.step machine move = some after) :
    ∃ world holder thread, Holds machine move.pid thread holder ∧
      after = ({ machine with world, holder } : Machine sig World Key Call).set move.pid thread := by
  cases move with
  | issue pid call =>
      simp only [System.step] at stepped
      split at stepped
      · next absent =>
        split at stepped
        · cases stepped
          refine ⟨machine.world, machine.holder, _, .same ?_, rfl⟩
          intro old inFlight
          rw [Move.pid, absent] at inFlight
          cases inFlight
        · cases stepped
      · cases stepped
  | step pid choice =>
      simp only [System.step] at stepped
      split at stepped
      · cases stepped
      · next thread inFlight =>
        have known : ∀ old, machine.threads pid = some old → old = thread := by
          intro old found
          exact Option.some.inj (found.symm.trans inFlight)
        obtain ⟨call, session, rest⟩ := thread
        cases rest with
        | done outcome => cases stepped
        | statement asked next =>
            simp only [System.stepThread] at stepped
            split at stepped
            · cases stepped
              refine ⟨machine.world, machine.holder, _, .same ?_, rfl⟩
              intro old found isOpen
              rw [known old found] at isOpen
              exact isOpen
            · split at stepped
              · cases stepped
                refine ⟨machine.world, machine.holder, _, .same ?_, rfl⟩
                intro old found isOpen
                rw [known old found] at isOpen
                cases session with
                | none => exact absurd rfl isOpen
                | some opened => exact nofun
              · next effect executed =>
                split at stepped
                · cases session with
                  | none =>
                      cases stepped
                      refine ⟨_, machine.holder, _, .same ?_, rfl⟩
                      intro old found isOpen
                      rw [known old found] at isOpen
                      exact isOpen
                  | some opened =>
                      cases stepped
                      exact ⟨machine.world, _, _, .take effect.keys (Option.some_ne_none _), rfl⟩
                · cases stepped
        | start next =>
            cases session with
            | none =>
                cases stepped
                exact ⟨machine.world, machine.holder, _, .same fun _ _ _ => Option.some_ne_none _, rfl⟩
            | some opened => cases stepped
        | commit next =>
            cases session with
            | none => cases stepped
            | some opened =>
                cases stepped
                exact ⟨_, _, _, .release, rfl⟩
        | rollback next =>
            cases session with
            | none => cases stepped
            | some opened =>
                cases stepped
                exact ⟨machine.world, _, _, .release, rfl⟩
  | fail pid =>
      simp only [System.step] at stepped
      split at stepped
      · next call session asked next inFlight =>
        cases stepped
        refine ⟨machine.world, machine.holder, _, .same ?_, rfl⟩
        intro old found isOpen closed
        obtain rfl := Option.some.inj (found.symm.trans inFlight)
        exact isOpen (Option.map_eq_none_iff.mp closed)
      · cases stepped
  | crash pid =>
      simp only [System.step] at stepped
      split at stepped
      · cases stepped
      · cases stepped
      · cases stepped
        exact ⟨machine.world, _, _, .release, rfl⟩

/-- A move leaves the other calls where they are. -/
theorem System.threads_of_step {sys : System sig World Key Call} {move : Move Call}
    {machine after : Machine sig World Key Call} (stepped : sys.step machine move = some after)
    {pid : Pid} (apart : pid ≠ move.pid) : after.threads pid = machine.threads pid := by
  obtain ⟨world, holder, thread, -, rfl⟩ := System.step_cases stepped
  simp [Machine.set, apart]

/-- A move leaves a call that is in flight the call that it is. -/
theorem System.call_of_step {sys : System sig World Key Call} {move : Move Call}
    {machine after : Machine sig World Key Call} {thread : Thread sig World Key Call}
    (inFlight : machine.threads move.pid = some thread) (stepped : sys.step machine move = some after) :
    ∃ rest, after.threads move.pid = some rest ∧ rest.call = thread.call := by
  obtain ⟨call, session, rest⟩ := thread
  have set : ∀ (world : World) (holder : Key → Option Pid) session rest,
      ∃ later : Thread sig World Key Call,
        (({ machine with world, holder } : Machine sig World Key Call).set move.pid
          ⟨call, session, rest⟩).threads move.pid = some later ∧ later.call = call :=
    fun _ _ _ _ => ⟨_, Function.update_self _ _ _, rfl⟩
  cases move with
  | issue pid other =>
      simp only [System.step, show machine.threads pid = _ from inFlight] at stepped
      cases stepped
  | step pid choice =>
      simp only [System.step, show machine.threads pid = _ from inFlight] at stepped
      cases rest with
      | done outcome => cases stepped
      | statement asked next =>
          simp only [System.stepThread] at stepped
          split at stepped
          · cases stepped
            exact set ..
          · split at stepped
            · cases stepped
              exact set ..
            · split at stepped
              · cases session <;> cases stepped <;> exact set ..
              · cases stepped
      | start next | commit next | rollback next =>
          cases session <;> cases stepped <;> exact set ..
  | fail pid =>
      simp only [System.step, show machine.threads pid = _ from inFlight] at stepped
      cases rest <;> cases stepped <;> exact set ..
  | crash pid =>
      simp only [System.step, show machine.threads pid = _ from inFlight] at stepped
      cases rest <;> cases stepped <;> exact set ..

/-- A row is held by a call that has a transaction open. -/
def Machine.HoldersOpen (machine : Machine sig World Key Call) : Prop :=
  ∀ key pid, machine.holder key = some pid →
    ∃ thread, machine.threads pid = some thread ∧ thread.session ≠ none

theorem System.holdersOpen_of_step {sys : System sig World Key Call} {move : Move Call}
    {machine after : Machine sig World Key Call} (before : machine.HoldersOpen)
    (stepped : sys.step machine move = some after) : after.HoldersOpen := by
  obtain ⟨world, holder, thread, holds, rfl⟩ := System.step_cases stepped
  intro key pid held
  by_cases same : pid = move.pid
  · subst same
    refine ⟨thread, by simp [Machine.set], ?_⟩
    cases holds with
    | same keepsOpen =>
        obtain ⟨old, inFlight, isOpen⟩ := before key move.pid held
        exact keepsOpen old inFlight isOpen
    | take keys isOpen => exact isOpen
    | release =>
        simp only [Machine.set, Machine.release] at held
        split at held
        · cases held
        · next apart => exact absurd held apart
  · have heldBefore : machine.holder key = some pid := by
      cases holds with
      | same => exact held
      | take keys =>
          simp only [Machine.set, Machine.take] at held
          split at held
          · exact absurd (Option.some.inj held).symm same
          · exact held
      | release =>
          simp only [Machine.set, Machine.release] at held
          split at held
          · cases held
          · exact held
    obtain ⟨old, inFlight, isOpen⟩ := before key pid heldBefore
    exact ⟨old, by simp [Machine.set, same, inFlight], isOpen⟩

/-- What every move of the list keeps holds after them. -/
theorem System.of_play {sys : System sig World Key Call} {P : Machine sig World Key Call → Prop}
    {moves : List (Move Call)} {machine after : Machine sig World Key Call}
    (step : ∀ {before between}, ∀ move ∈ moves, sys.step before move = some between →
      P before → P between)
    (holds : P machine) (played : sys.play machine moves = some after) : P after := by
  induction moves generalizing machine with
  | nil =>
      cases played
      exact holds
  | cons move rest inductionHypothesis =>
      simp only [System.play, List.foldlM_cons, Option.bind_eq_bind,
        Option.bind_eq_some_iff] at played
      obtain ⟨between, stepped, played⟩ := played
      refine inductionHypothesis ?_ (step move List.mem_cons_self stepped holds) played
      intro _ _ other member
      exact step other (List.mem_cons_of_mem _ member)

/-- Some run ends in this world, with no transaction open and with no call in
flight under `limit` or a later number. -/
structure Rests (sys : System sig World Key Call) (start : World) (limit : Nat) (world : World) :
    Prop where
  reached : ∃ machine, Reaches sys .free start machine ∧ machine.world = world ∧
    (∀ key, machine.holder key = none) ∧ ∀ pid, limit ≤ pid → machine.threads pid = none

/-- Whether the calls numbered below `limit` have no transaction open. -/
def Machine.closedBelow (machine : Machine sig World Key Call) (limit : Nat) : Bool :=
  (List.range limit).all fun pid => (machine.threads pid).all (·.session.isNone)

theorem Rests.of_play {sys : System sig World Key Call} {start world : World} {limit : Nat}
    {moves : List (Move Call)} (below : ∀ move ∈ moves, move.pid < limit)
    (played : (sys.play (.idle start) moves).map
      (fun machine => (machine.world, machine.closedBelow limit)) = some (world, true)) :
    Rests sys start limit world := by
  obtain ⟨machine, played, observed⟩ := Option.map_eq_some_iff.mp played
  obtain ⟨sameWorld, closed⟩ := Prod.mk.inj observed
  have absent : ∀ pid, limit ≤ pid → machine.threads pid = none := by
    intro pid above
    refine System.of_play (P := fun machine => machine.threads pid = none) ?_ rfl played
    intro before between move member stepped unused
    have bound : move.pid < limit := below move member
    rw [System.threads_of_step stepped (Nat.ne_of_gt (Nat.lt_of_lt_of_le bound above))]
    exact unused
  have nobodyHolds : (Machine.idle start : Machine sig World Key Call).HoldersOpen := by
    intro key pid held
    cases held
  have holdersOpen : machine.HoldersOpen := by
    refine System.of_play ?_ nobodyHolds played
    intro _ _ move _ stepped before
    exact System.holdersOpen_of_step before stepped
  refine ⟨machine, Reaches.idle.play played, sameWorld, ?_, absent⟩
  intro key
  by_contra held
  obtain ⟨pid, held⟩ := Option.ne_none_iff_exists'.mp held
  obtain ⟨thread, inFlight, isOpen⟩ := holdersOpen key pid held
  have bound : pid < limit := by
    by_contra above
    rw [absent pid (Nat.le_of_not_lt above)] at inFlight
    cases inFlight
  have closedHere := List.all_eq_true.mp closed pid (List.mem_range.mpr bound)
  rw [inFlight] at closedHere
  exact isOpen (Option.isNone_iff_eq_none.mp closedHere)

/-- A run goes on from where another one rests. -/
theorem Rests.resume {sys : System sig World Key Call} {start world : World} {limit : Nat}
    {moves : List (Move Call)} {β : Type} {observe : Machine sig World Key Call → β} {seen : β}
    (rests : Rests sys start limit world) (above : ∀ move ∈ moves, limit ≤ move.pid)
    (played : (sys.play (.idle world) moves).map observe = some seen) :
    ∃ machine after, Reaches sys .free start machine ∧ observe after = seen ∧
      machine.world = after.world ∧
        ∀ pid, limit ≤ pid → machine.threads pid = after.threads pid := by
  obtain ⟨after, played, observed⟩ := Option.map_eq_some_iff.mp played
  obtain ⟨machine, reached, rfl, unheld, absent⟩ := rests.reached
  have same : (Machine.idle machine.world).behind machine.threads = machine := by
    unfold Machine.idle Machine.behind
    congr 1
    funext key
    exact (unheld key).symm
  have resumed := System.play_behind (fun move member => absent move.pid (above move member)) played
  rw [same] at resumed
  refine ⟨_, after, reached.play resumed, observed, rfl, ?_⟩
  intro pid isAbove
  simp [Machine.behind, absent pid isAbove]

end MarketMind.Transactions
