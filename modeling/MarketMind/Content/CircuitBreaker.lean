import MarketMind.Content.Generator

/-!
Owns the circuit breaker of the content provider, the loop of attempts of the jobs that share it,
and what the breaker should keep from the provider.

Does not own the provider or the checks of its items: the jobs carry them as parameters. Times are
of any ordered type. The finer fields of prompts and errors are left out.
-/

namespace MarketMind.Content.Breaker

open Generator (repairableOutputCodes)

/-! ### The breaker -/

section Breaker

variable {Time : Type} [LinearOrder Time] [Add Time] [Zero Time]

structure Settings (Time : Type) where
  failureThreshold : Nat
  cooldownSeconds : Time

structure CircuitBreaker (Time : Type) where
  failures : Nat
  openUntil : Time

variable (settings : Settings Time) (breaker : CircuitBreaker Time) (now : Time)

def CircuitBreaker.allow : Bool :=
  if breaker.failures < settings.failureThreshold then true else breaker.openUntil ≤ now

def CircuitBreaker.recordFailure : CircuitBreaker Time where
  failures := breaker.failures + 1
  openUntil :=
    if breaker.failures + 1 ≥ settings.failureThreshold then now + settings.cooldownSeconds
    else breaker.openUntil

def CircuitBreaker.recordSuccess (_ : CircuitBreaker Time) : CircuitBreaker Time := ⟨0, 0⟩

end Breaker

/-! ### An attempt -/

structure ProviderError where
  code : String
  retryable : Bool
deriving DecidableEq, Repr

/-- What an attempt raises: a provider error, which the loop catches, or anything else. -/
inductive Raised
  | provider (error : ProviderError)
  | other
deriving DecidableEq, Repr

/-- A validation, with the error that `_validation_error` makes of its issues. -/
structure Validation where
  valid : Bool
  error : ProviderError

/-- The arguments of `generate_content_pack_with_repair` that decide about the items of an answer.
Those of `revise_content_item_with_repair` have no normalizer, no repair and no extra validator. -/
structure Pipeline (Items : Type) where
  validatePackShape : Items → Except Raised Unit
  outputNormalizer : Option (Items → Except Raised Items)
  hasRequest : Bool
  finalizeGeneratedItems : Items → Except Raised Items
  finalOutputNormalizer : Option (Items → Except Raised Items)
  requestValidator : Items → Except Raised Validation
  finalOutputRepair : Option (Items → Validation → Except Raised Items)
  extraValidator : Option (Items → Except Raised Validation)

namespace Pipeline

variable {Items : Type} (pipeline : Pipeline Items)

def normalized (normalizer : Option (Items → Except Raised Items)) (items : Items) :
    Except Raised Items :=
  match normalizer with
  | none => .ok items
  | some normalize => do
      let items ← normalize items
      pipeline.validatePackShape items
      return items

def checkExtra (items : Items) : Except Raised Unit :=
  match pipeline.extraValidator with
  | none => .ok ()
  | some validate => do
      let validation ← validate items
      if validation.valid then return () else throw (.provider validation.error)

/-- The deterministic repair after the last attempt, when it is given and the items are invalid. -/
def repaired (items : Items) (validation : Validation)
    (repair : Items → Validation → Except Raised Items) : Except Raised Items := do
  let items ← repair items validation
  pipeline.validatePackShape items
  let items ← pipeline.normalized pipeline.finalOutputNormalizer items
  let validation ← pipeline.requestValidator items
  if validation.valid then
    pipeline.checkExtra items
    return items
  else throw (.provider validation.error)

/-- The body of the loop after the provider's answer, with whether it comes to `record_success`. -/
def tryAttempt (isLast : Bool) (items : Items) : Except Raised (Items × Bool) := do
  pipeline.validatePackShape items
  let items ← pipeline.normalized pipeline.outputNormalizer items
  if pipeline.hasRequest then
    let items ← pipeline.finalizeGeneratedItems items
    let items ← pipeline.normalized pipeline.finalOutputNormalizer items
    let validation ← pipeline.requestValidator items
    if validation.valid then
      pipeline.checkExtra items
      return (items, true)
    else
      match pipeline.finalOutputRepair with
      | some repair =>
          if isLast then
            let items ← pipeline.repaired items validation repair
            return (items, false)
          else throw (.provider validation.error)
      | none => throw (.provider validation.error)
  else
    pipeline.checkExtra items
    return (items, true)

end Pipeline

/-! ### Jobs that share a breaker -/

abbrev Pid := Nat

structure Job (Items : Type) where
  pipeline : Pipeline Items
  maxAttempts : Nat

/-- A job waits for the provider's answer in an attempt, or sleeps after one. -/
inductive JobState (Items : Type)
  | idle
  | calling (attempt : Nat)
  | sleeping (attempt : Nat)
  | returned (items : Items)
  | failed

def JobState.AtWork {Items : Type} : JobState Items → Prop
  | calling _ | sleeping _ => True
  | idle | returned _ | failed => False

/-- What happened, as the provider and the callers see it. -/
inductive Event (Time : Type)
  | reached (pid : Pid) (now : Time)
  | failure (now : Time)
  | success (pid : Pid)
  | returned (pid : Pid)

/-- The breaker, the clock and the jobs, with what happened, the last first. -/
structure Machine (Time Items : Type) where
  breaker : CircuitBreaker Time
  now : Time
  jobs : Pid → JobState Items
  log : List (Event Time)

inductive Move (Time Items : Type)
  | tick (now : Time)
  | start (pid : Pid)
  | answer (pid : Pid) (answer : Except Raised Items)
  | wake (pid : Pid)

section Steps

variable {Time Items : Type} [LinearOrder Time] [Add Time] [Zero Time]

def Machine.become (machine : Machine Time Items) (pid : Pid) (state : JobState Items) :
    Machine Time Items :=
  { machine with jobs := Function.update machine.jobs pid state }

/-- The provider is called; nothing is awaited between the decision and the call. -/
def Machine.reach (machine : Machine Time Items) (pid : Pid) (attempt : Nat) :
    Machine Time Items :=
  { machine.become pid (.calling attempt) with log := .reached pid machine.now :: machine.log }

omit [LinearOrder Time] [Add Time] [Zero Time] in
theorem Machine.become_jobs (machine : Machine Time Items) (pid : Pid) (state : JobState Items) :
    (machine.become pid state).jobs = Function.update machine.jobs pid state := rfl

omit [LinearOrder Time] [Add Time] [Zero Time] in
theorem Machine.reach_jobs (machine : Machine Time Items) (pid : Pid) (attempt : Nat) :
    (machine.reach pid attempt).jobs = Function.update machine.jobs pid (.calling attempt) := rfl

def Machine.recordFailure (settings : Settings Time) (machine : Machine Time Items) :
    Machine Time Items :=
  { machine with
    breaker := machine.breaker.recordFailure settings machine.now
    log := .failure machine.now :: machine.log }

/-- A job returns its items. -/
def Machine.giveBack (machine : Machine Time Items) (pid : Pid) (items : Items) :
    Machine Time Items :=
  { machine.become pid (.returned items) with log := .returned pid :: machine.log }

def Machine.recordSuccess (machine : Machine Time Items) (pid : Pid) : Machine Time Items :=
  { machine with
    breaker := machine.breaker.recordSuccess
    log := .success pid :: machine.log }

/-- The handler of provider errors, after the breaker was told. -/
def Machine.goOn (machine : Machine Time Items) (job : Job Items) (pid : Pid) (attempt : Nat)
    (error : ProviderError) : Machine Time Items :=
  if attempt = job.maxAttempts then machine.become pid .failed
  else if error.code ∈ repairableOutputCodes then machine.reach pid (attempt + 1)
  else if error.retryable then machine.become pid (.sleeping attempt)
  else machine.become pid .failed

/-- One step of the machine; a move that is not open to it changes nothing. -/
def step (settings : Settings Time) (jobs : Pid → Job Items) (machine : Machine Time Items) :
    Move Time Items → Machine Time Items
  | .tick now => if machine.now ≤ now then { machine with now := now } else machine
  | .start pid =>
      match machine.jobs pid with
      | .idle =>
          if machine.breaker.allow settings machine.now = false then machine.become pid .failed
          else if (jobs pid).maxAttempts = 0 then machine.become pid .failed
          else machine.reach pid 1
      | _ => machine
  | .answer pid answer =>
      match machine.jobs pid with
      | .calling attempt =>
          match answer >>= (jobs pid).pipeline.tryAttempt (attempt = (jobs pid).maxAttempts) with
          | .ok (items, true) => (machine.recordSuccess pid).giveBack pid items
          | .ok (items, false) => machine.giveBack pid items
          | .error .other => machine.become pid .failed
          | .error (.provider error) =>
              (if error.retryable then machine.recordFailure settings else machine).goOn (jobs pid)
                pid attempt error
      | _ => machine
  | .wake pid =>
      match machine.jobs pid with
      | .sleeping attempt => machine.reach pid (attempt + 1)
      | _ => machine

/-- No job has begun. -/
def initial (now : Time) : Machine Time Items := ⟨⟨0, 0⟩, now, fun _ => .idle, []⟩

def run (settings : Settings Time) (jobs : Pid → Job Items) (machine : Machine Time Items)
    (moves : List (Move Time Items)) : Machine Time Items :=
  moves.foldl (step settings jobs) machine

end Steps

/-! ### What the provider should be spared -/

section Records

variable {Time : Type} [LinearOrder Time] [Add Time]

/-- The failures recorded since the last success. -/
def streak : List (Event Time) → Nat
  | [] => 0
  | .failure _ :: earlier => streak earlier + 1
  | .success _ :: _ => 0
  | .reached _ _ :: earlier | .returned _ :: earlier => streak earlier

/-- When the last of them was recorded. -/
def lastFailure : List (Event Time) → Option Time
  | [] => none
  | .failure now :: _ => some now
  | .success _ :: _ => none
  | .reached _ _ :: earlier | .returned _ :: earlier => lastFailure earlier

/-- The jobs that have reached the provider since then. -/
def probers : List (Event Time) → List Pid
  | [] => []
  | .failure _ :: _ | .success _ :: _ => []
  | .reached pid _ :: earlier => pid :: probers earlier
  | .returned _ :: earlier => probers earlier

/-- The job may reach the provider: the breaker has not tripped, or the cooldown is over and no
other job has used it. -/
def MayReach (settings : Settings Time) (log : List (Event Time)) (pid : Pid) (now : Time) : Prop :=
  settings.failureThreshold ≤ streak log →
    ∀ last, lastFailure log = some last →
      last + settings.cooldownSeconds ≤ now ∧ ∀ other ∈ probers log, other = pid

/-- The breaker protects the provider, and every result stands for a recorded success. -/
def Protected (settings : Settings Time) : List (Event Time) → Prop
  | [] => True
  | .reached pid now :: earlier => MayReach settings earlier pid now ∧ Protected settings earlier
  | .returned pid :: earlier => Event.success pid ∈ earlier ∧ Protected settings earlier
  | .failure _ :: earlier | .success _ :: earlier => Protected settings earlier

end Records

/-! ### Orderly runs -/

section Runs

variable {Time Items : Type} [LinearOrder Time] [Add Time] {settings : Settings Time}
  {jobs : Pid → Job Items} {machine : Machine Time Items} {pid : Pid}

def Tripped (settings : Settings Time) (machine : Machine Time Items) : Prop :=
  settings.failureThreshold ≤ machine.breaker.failures

/-- The breaker would allow a call, and once it has tripped no other job is at work. -/
def Unhindered (settings : Settings Time) (machine : Machine Time Items) (pid : Pid) : Prop :=
  machine.breaker.allow settings machine.now = true ∧
    (Tripped settings machine → ∀ other, (machine.jobs other).AtWork → other = pid)

/-- What a job may hear from an attempt: an end that is recorded or comes while the breaker has not
tripped, or a further attempt that the breaker would allow. -/
def Hears (settings : Settings Time) (machine : Machine Time Items) (job : Job Items) (pid : Pid)
    (attempt : Nat) : Except Raised (Items × Bool) → Prop
  | .ok (_, recorded) => recorded = true
  | .error .other => ¬Tripped settings machine
  | .error (.provider error) =>
      if attempt ≠ job.maxAttempts ∧ error.code ∈ repairableOutputCodes then
        Unhindered settings
          (if error.retryable then machine.recordFailure settings else machine) pid
      else error.retryable = true ∨ ¬Tripped settings machine

/-- The moves that the breaker's design answers for. -/
def Orderly (settings : Settings Time) (jobs : Pid → Job Items) (machine : Machine Time Items) :
    Move Time Items → Prop
  | .tick _ => True
  | .start _ => Tripped settings machine → ∀ other, ¬(machine.jobs other).AtWork
  | .answer pid answer =>
      ∀ attempt, machine.jobs pid = .calling attempt →
        Hears settings machine (jobs pid) pid attempt
          (answer >>= (jobs pid).pipeline.tryAttempt (attempt = (jobs pid).maxAttempts))
  | .wake pid => ∀ attempt, machine.jobs pid = .sleeping attempt → Unhindered settings machine pid

/-- The breaker counts what the log shows, its deadline ends the cooldown of the last failure, and
who has used a cooldown is still at work. -/
structure Inv (settings : Settings Time) (machine : Machine Time Items) : Prop where
  counted : machine.breaker.failures = streak machine.log
  deadline : Tripped settings machine → ∀ last, lastFailure machine.log = some last →
    machine.breaker.openUntil = last + settings.cooldownSeconds
  probing : Tripped settings machine → ∀ pid ∈ probers machine.log, (machine.jobs pid).AtWork
  safe : Protected settings machine.log

theorem Inv.mayReach (inv : Inv settings machine) (unhindered : Unhindered settings machine pid) :
    MayReach settings machine.log pid machine.now := by
  obtain ⟨allowed, alone⟩ := unhindered
  intro long last found
  have tripped : Tripped settings machine := by
    rw [Tripped, inv.counted]
    exact long
  refine ⟨?_, fun other member => alone tripped other (inv.probing tripped other member)⟩
  rw [CircuitBreaker.allow, if_neg (Nat.not_lt.mpr tripped), decide_eq_true_eq,
    inv.deadline tripped last found] at allowed
  exact allowed

/-- A job ends or falls asleep; if it has used a cooldown, it stays at work. -/
theorem Inv.become (inv : Inv settings machine) {state : JobState Items}
    (stays : Tripped settings machine → pid ∈ probers machine.log → state.AtWork) :
    Inv settings (machine.become pid state) where
  counted := inv.counted
  deadline := inv.deadline
  probing := fun tripped other member => by
    by_cases same : other = pid
    · subst same
      rw [Machine.become_jobs, Function.update_self]
      exact stays tripped member
    · rw [Machine.become_jobs, Function.update_of_ne same]
      exact inv.probing tripped other member
  safe := inv.safe

theorem Inv.reach (inv : Inv settings machine) (attempt : Nat)
    (may : MayReach settings machine.log pid machine.now) :
    Inv settings (machine.reach pid attempt) where
  counted := inv.counted
  deadline := inv.deadline
  probing := fun tripped other member => by
    by_cases same : other = pid
    · subst same
      rw [Machine.reach_jobs, Function.update_self]
      trivial
    · rw [Machine.reach_jobs, Function.update_of_ne same]
      exact inv.probing tripped other ((List.mem_cons.mp member).resolve_left same)
  safe := ⟨may, inv.safe⟩

theorem Inv.recordFailure (inv : Inv settings machine) :
    Inv settings (machine.recordFailure settings) where
  counted := congrArg (· + 1) inv.counted
  deadline := fun tripped last found => by
    cases found
    exact if_pos tripped
  probing := fun _ _ member => (List.not_mem_nil member).elim
  safe := inv.safe

theorem Inv.goOn (inv : Inv settings machine) {job : Job Items} {attempt : Nat}
    {error : ProviderError}
    (allowed : attempt ≠ job.maxAttempts ∧ error.code ∈ repairableOutputCodes →
      Unhindered settings machine pid)
    (ends : ¬(attempt ≠ job.maxAttempts ∧ error.code ∈ repairableOutputCodes) →
      Tripped settings machine → probers machine.log = []) :
    Inv settings (machine.goOn job pid attempt error) := by
  have quits (state : JobState Items)
      (last : ¬(attempt ≠ job.maxAttempts ∧ error.code ∈ repairableOutputCodes)) :
      Inv settings (machine.become pid state) :=
    inv.become fun tripped member => by
      rw [ends last tripped] at member
      exact (List.not_mem_nil member).elim
  unfold Machine.goOn
  split_ifs with last repairable retryable
  · exact quits _ fun further => further.1 last
  · exact inv.reach _ (inv.mayReach (allowed ⟨last, repairable⟩))
  · exact quits _ fun further => repairable further.2
  · exact quits _ fun further => repairable further.2

variable [Zero Time]

theorem inv_initial (now : Time) : Inv settings (initial now : Machine Time Items) where
  counted := rfl
  deadline := fun _ _ found => by cases found
  probing := fun _ _ member => (List.not_mem_nil member).elim
  safe := trivial

theorem Inv.recordSuccess (inv : Inv settings machine) (pid : Pid) :
    Inv settings (machine.recordSuccess pid) where
  counted := rfl
  deadline := fun _ _ found => by cases found
  probing := fun _ _ member => (List.not_mem_nil member).elim
  safe := inv.safe

theorem Inv.giveBack (inv : Inv settings machine) (pid : Pid) (items : Items) :
    Inv settings ((machine.recordSuccess pid).giveBack pid items) := by
  have recorded := inv.recordSuccess pid
  exact ⟨recorded.counted, recorded.deadline, fun _ _ member => (List.not_mem_nil member).elim,
    List.mem_cons_self, recorded.safe⟩

/-- The answer to a call. -/
theorem Inv.answer (inv : Inv settings machine) {attempt : Nat}
    {answer : Except Raised Items} (calling : machine.jobs pid = .calling attempt)
    (orderly : Orderly settings jobs machine (.answer pid answer)) :
    Inv settings (step settings jobs machine (.answer pid answer)) := by
  have hears := orderly attempt calling
  simp only [step, calling]
  generalize answer >>= (jobs pid).pipeline.tryAttempt (attempt = (jobs pid).maxAttempts) = heard
    at hears ⊢
  cases heard with
  | ok verdict =>
      obtain ⟨items, recorded⟩ := verdict
      cases recorded with
      | true => exact inv.giveBack pid items
      | false => cases hears
  | error raised =>
      cases raised with
      | other => exact inv.become fun tripped => absurd tripped hears
      | provider error =>
          by_cases retryable : error.retryable = true
          · simp only [Hears, retryable, if_true] at hears ⊢
            refine inv.recordFailure.goOn (fun further => ?_) fun last tripped => rfl
            rw [if_pos further] at hears
            exact hears
          · rw [Bool.not_eq_true] at retryable
            simp only [Hears, retryable, Bool.false_eq_true, if_false, false_or] at hears ⊢
            refine inv.goOn (fun further => ?_) fun last tripped => ?_
            · rw [if_pos further] at hears
              exact hears
            · rw [if_neg last] at hears
              exact absurd tripped hears

theorem Inv.step (inv : Inv settings machine) {move : Move Time Items}
    (orderly : Orderly settings jobs machine move) :
    Inv settings (step settings jobs machine move) := by
  cases move with
  | tick now =>
      simp only [Breaker.step]
      split_ifs
      · exact ⟨inv.counted, inv.deadline, inv.probing, inv.safe⟩
      · exact inv
  | start pid =>
      have still (tripped : Tripped settings machine) : probers machine.log = [] :=
        List.eq_nil_iff_forall_not_mem.mpr fun other member =>
          orderly tripped other (inv.probing tripped other member)
      have ends : Inv settings (machine.become pid .failed) := inv.become fun tripped member => by
        rw [still tripped] at member
        exact (List.not_mem_nil member).elim
      cases state : machine.jobs pid with
      | idle =>
          simp only [Breaker.step, state]
          split_ifs with refused none
          · exact ends
          · exact ends
          · have allowed : machine.breaker.allow settings machine.now = true := by
              simpa using refused
            exact inv.reach 1 (inv.mayReach
              ⟨allowed, fun tripped other atWork => absurd atWork (orderly tripped other)⟩)
      | calling | sleeping | returned | failed =>
          simp only [Breaker.step, state]
          exact inv
  | answer pid answer =>
      cases state : machine.jobs pid with
      | calling attempt => exact inv.answer state orderly
      | idle | sleeping | returned | failed =>
          simp only [Breaker.step, state]
          exact inv
  | wake pid =>
      cases state : machine.jobs pid with
      | sleeping attempt =>
          simp only [Breaker.step, state]
          exact inv.reach _ (inv.mayReach (orderly attempt state))
      | idle | calling | returned | failed =>
          simp only [Breaker.step, state]
          exact inv

/-- Every move of the run is orderly where it is made. -/
def OrderlyRun (settings : Settings Time) (jobs : Pid → Job Items) :
    Machine Time Items → List (Move Time Items) → Prop
  | _, [] => True
  | machine, move :: moves =>
      Orderly settings jobs machine move ∧
        OrderlyRun settings jobs (step settings jobs machine move) moves

theorem Inv.run (inv : Inv settings machine) {moves : List (Move Time Items)}
    (orderly : OrderlyRun settings jobs machine moves) :
    Inv settings (run settings jobs machine moves) := by
  induction moves generalizing machine with
  | nil => exact inv
  | cons move moves inductionHypothesis =>
      exact inductionHypothesis (inv.step orderly.1) orderly.2

/-- In every run whose moves are orderly the breaker protects the provider. -/
theorem orderly_runs_are_protected (settings : Settings Time) (jobs : Pid → Job Items) (now : Time)
    (moves : List (Move Time Items)) (orderly : OrderlyRun settings jobs (initial now) moves) :
    Protected settings (run settings jobs (initial now) moves).log :=
  ((inv_initial now).run orderly).safe

end Runs

/-! ### Two attempts -/

/-- Items that every check accepts. -/
def plainPipeline : Pipeline Unit where
  validatePackShape := fun _ => .ok ()
  outputNormalizer := none
  hasRequest := false
  finalizeGeneratedItems := .ok
  finalOutputNormalizer := none
  requestValidator := fun _ => .ok ⟨true, ⟨"", false⟩⟩
  finalOutputRepair := none
  extraValidator := none

def twoAttempts : Pid → Job Unit := fun _ => ⟨plainPipeline, 2⟩

/-- A failure trips the breaker, and the second attempt waits until the cooldown is over. -/
def patient : List (Move Nat Unit) :=
  [.start 0, .answer 0 (.error (.provider ⟨"CONTENT_PROVIDER_FAILURE", true⟩)), .tick 5, .wake 0,
    .answer 0 (.ok ())]

theorem patient_job_is_protected :
    OrderlyRun ⟨1, 5⟩ twoAttempts (initial 0) patient ∧
      Protected ⟨1, 5⟩ (run ⟨1, 5⟩ twoAttempts (initial 0) patient).log := by
  have orderly : OrderlyRun ⟨1, 5⟩ twoAttempts (initial 0) patient := by
    refine ⟨fun tripped => absurd (show 1 ≤ 0 from tripped) (by decide), fun attempt calling => ?_,
      trivial, fun attempt sleeping => ⟨by decide, fun tripped other atWork => ?_⟩,
      fun attempt calling => ?_, trivial⟩
    · cases calling
      exact .inl rfl
    · by_contra differs
      change JobState.AtWork (Function.update (Function.update (fun _ => JobState.idle) 0
        (.calling 1)) 0 (.sleeping 1) other) at atWork
      rw [Function.update_of_ne differs, Function.update_of_ne differs] at atWork
      exact atWork
    · cases calling
      exact rfl
  exact ⟨orderly, orderly_runs_are_protected ⟨1, 5⟩ twoAttempts 0 patient orderly⟩

/-- The loop goes on to its second attempt inside the cooldown that its first one began. -/
theorem retry_inside_cooldown :
    ¬Protected ⟨1, 5⟩ (run ⟨1, 5⟩ twoAttempts (initial (0 : Nat))
      [.start 0, .answer 0 (.error (.provider ⟨"CONTENT_PROVIDER_FAILURE", true⟩)),
        .tick 2, .wake 0]).log := by
  intro isProtected
  have reached := isProtected.1 (by decide) 0 rfl
  exact absurd reached.1 (by decide)

end MarketMind.Content.Breaker
