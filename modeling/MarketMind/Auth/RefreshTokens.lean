import MarketMind.Auth.Service

/-!
Owns when refresh tokens are used once, over every interleaving of the requests of the account
services: no request is let through with a token that was exchanged or ended before it was
presented, and no token is exchanged twice.

Does not own the access tokens. bcrypt tells the tokens of a user apart by nothing, and a request
that exchanges a token does not look whether another has.
-/

namespace MarketMind.Auth.RefreshTokens

open MarketMind.Transactions

variable {around : Surroundings} {world after : World} {pid : Pid}

/-! ### Runs -/

/-- The request has presented a dead token. -/
def presentedDead (pid : Pid) (world : World) : Bool :=
  world.presentations.any fun presentation => presentation.pid = pid && presentation.wasDead

/-- A request with a dead token finds no digest that bcrypt takes for the token's, and no request
exchanges a token that another has exchanged. -/
def admits (pid : Pid) (call : Call) (asked : Statement) (world : World) : Bool :=
  match call, asked with
  | .refresh _ token _, .findUser id =>
      !presentedDead pid world ||
        (world.users.find id).all fun user => !user.refreshToken.any (bcryptCompare token)
  | .refresh _ token _, .findLiveSessions userId now =>
      !presentedDead pid world ||
        (world.sessions.rows.filter (·.isLive userId now)).all fun session =>
          !bcryptCompare token session.tokenHash
  | .refresh payload token _, .setRefreshToken _ _ _ _ _ => !world.isExchanged payload.sub token
  | _, _ => true

/-- The runs in which every statement passes; any request may fail at any time. -/
def terms : Terms accounts World Call where
  issues _ _ := True
  admits pid call asked world := admits pid call asked world = true
  spares _ _ _ := False

/-- A world whose refresh tokens were used once. -/
structure SingleUse (world : World) : Prop where
  once : (world.exchanges.map fun exchange => (exchange.userId, exchange.presented)).Nodup
  neverAgain : ∀ presentation ∈ world.presentations, presentation.wasDead = true →
    ∀ acceptance ∈ world.accepted, acceptance.pid ≠ presentation.pid

/-! ### The contract -/

/-- Others neither present tokens nor are let through in the name of a request. -/
structure Rely (pid : Pid) (before after : World) : Prop where
  presentations : ∀ presentation, presentation.pid = pid →
    (presentation ∈ after.presentations ↔ presentation ∈ before.presentations)
  accepted : ∀ acceptance, acceptance.pid = pid →
    (acceptance ∈ after.accepted ↔ acceptance ∈ before.accepted)

theorem Rely.refl (world : World) : Rely pid world world :=
  ⟨fun _ _ => Iff.rfl, fun _ _ => Iff.rfl⟩

theorem Rely.trans {first second third : World} (left : Rely pid first second)
    (right : Rely pid second third) : Rely pid first third where
  presentations presentation mine :=
    (right.presentations presentation mine).trans (left.presentations presentation mine)
  accepted acceptance mine :=
    (right.accepted acceptance mine).trans (left.accepted acceptance mine)

/-- The request has presented nothing yet. -/
structure Fresh (pid : Pid) (world : World) : Prop where
  presentations : ∀ presentation ∈ world.presentations, presentation.pid ≠ pid
  accepted : ∀ acceptance ∈ world.accepted, acceptance.pid ≠ pid

theorem Fresh.later (fresh : Fresh pid world) (rely : Rely pid world after) : Fresh pid after where
  presentations presentation member mine :=
    fresh.presentations presentation ((rely.presentations presentation mine).mp member) mine
  accepted acceptance member mine :=
    fresh.accepted acceptance ((rely.accepted acceptance mine).mp member) mine

/-- What the account services are held to. -/
def contract (around : Surroundings) : Contract (system around) where
  terms := terms
  invariant := SingleUse
  rely := Rely
  rely_refl _ world := .refl world
  rely_trans _ _ _ _ left right := left.trans right
  fresh := Fresh
  fresh_of_rely _ _ _ rely fresh := fresh.later rely
  post _ _ _ _ := True

/-- A request may fail at any time. -/
theorem excuse {call : Call} : (contract around).Excuse pid call fun _ _ => True where
  lasts _ _ := trivial
  meets _ _ _ := trivial

/-! ### Requests that exchange nothing -/

/-- A statement that leaves the records of presentations and exchanges. -/
def isHarmless : Statement → Prop
  | .verifyJwt _ _ | .letThrough _ => False
  | .setRefreshToken _ _ _ _ exchanged => exchanged = none
  | _ => True

theorem same_of_harmless {asked : Statement} (harmless : isHarmless asked) {choice : Nat}
    {effect : Effect World Key asked.Reply} (executed : exec pid choice asked after = .ok effect)
    (world : World) : (effect.write world).presentations = world.presentations ∧
      (effect.write world).accepted = world.accepted ∧
        (effect.write world).exchanges = world.exchanges := by
  cases asked with
  | verifyJwt | letThrough => exact harmless.elim
  | findUser | findUserByEmail | findLiveSessions | findActionToken | findIdentity | bcrypt
  | randomBytes | clock | revokeSessions | deleteSessions | invalidateActionTokens =>
      cases executed
      exact ⟨rfl, rfl, rfl⟩
  | createUser | changePassword | markEmailVerified | revokeSession =>
      obtain ⟨-, executed⟩ := ok_of_unless executed
      cases executed
      exact ⟨rfl, rfl, rfl⟩
  | createSession | createActionToken | createIdentity =>
      obtain ⟨-, executed⟩ := ok_of_unless executed
      obtain ⟨-, executed⟩ := ok_of_unless executed
      cases executed
      exact ⟨rfl, rfl, rfl⟩
  | setRefreshToken id tokenHash payload token exchanged =>
      cases harmless
      obtain ⟨-, executed⟩ := ok_of_unless executed
      cases executed
      exact ⟨rfl, rfl, List.append_nil _⟩
  | clearRefreshToken | consumeActionToken =>
      simp only [exec] at executed
      split at executed <;> (cases executed; exact ⟨rfl, rfl, rfl⟩)

/-- Where the records stay, everything stays. -/
theorem SingleUse.of_same (holds : SingleUse world)
    (presentations : after.presentations = world.presentations)
    (accepted : after.accepted = world.accepted) (exchanges : after.exchanges = world.exchanges) :
    SingleUse after where
  once := exchanges ▸ holds.once
  neverAgain := presentations ▸ accepted ▸ holds.neverAgain

theorem Rely.of_same (presentations : after.presentations = world.presentations)
    (accepted : after.accepted = world.accepted) : Rely pid world after where
  presentations _ _ := by rw [presentations]
  accepted _ _ := by rw [accepted]

theorem bears_of_harmless {asked : Statement} (harmless : isHarmless asked) (choice : Nat)
    (view : World) (effect : Effect World Key asked.Reply)
    (executed : exec pid choice asked view = .ok effect) :
    (contract around).Bears pid effect.write := by
  intro world holds
  obtain ⟨presentations, accepted, exchanges⟩ := same_of_harmless harmless executed world
  exact ⟨holds.of_same presentations accepted exchanges, fun _ _ => .of_same presentations accepted⟩

/-- A program of harmless statements. -/
abbrev Stays {α : Type} (program : Program accounts α) : Prop :=
  program.Stays isHarmless false false

theorem stays_promiseAll {α β : Type} {leftFirst : Bool} {left : Program accounts α}
    {right : Program accounts β} (leftStays : Stays left) (rightStays : Stays right) :
    Stays (promiseAll leftFirst left right) := by
  unfold promiseAll
  split
  · refine Program.stays_andThen leftStays fun leftOutcome => ?_
    refine Program.stays_andThen rightStays fun rightOutcome => ?_
    cases leftOutcome <;> cases rightOutcome <;> rfl
  · refine Program.stays_andThen rightStays fun rightOutcome => ?_
    refine Program.stays_andThen leftStays fun leftOutcome => ?_
    cases leftOutcome <;> cases rightOutcome <;> rfl

theorem stays_issueTokensForUser (user : User) : Stays (issueTokensForUser around user) := by
  refine Program.stays_bind (Program.stays_bind (Program.stays_ask trivial) fun _ => rfl) ?_
  rintro ⟨payload, token⟩
  refine Program.stays_bind (Program.stays_ask trivial) fun tokenHash => ?_
  refine Program.stays_bind (Program.stays_ask trivial) fun now => ?_
  refine Program.stays_transaction ?_
  refine Program.stays_bind (Program.stays_ask rfl) fun _ => ?_
  exact Program.stays_bind (Program.stays_ask trivial) fun _ => rfl

theorem stays_ask {asked : Statement} (harmless : isHarmless asked) : Stays (ask asked) :=
  Program.stays_ask harmless

theorem stays_login (email : String) (password : Bytes) : Stays (login around email password) := by
  refine Program.stays_bind (stays_ask trivial) fun user => ?_
  cases user with
  | none => rfl
  | some user =>
      dsimp only
      split
      · rfl
      · split
        · rfl
        · split
          · rfl
          · rfl
          · exact stays_issueTokensForUser user

theorem stays_logout (userId : Uuid) (userFirst : Bool) : Stays (logout userId userFirst) := by
  refine Program.stays_bind (stays_ask trivial) fun revokedAt => ?_
  refine Program.stays_bind ?_ fun _ => rfl
  exact stays_promiseAll (stays_ask trivial) (stays_ask trivial)

theorem stays_issue (userId : Uuid) (type : ActionTokenType) : Stays (issue around userId type) := by
  refine Program.stays_bind (stays_ask trivial) fun rawToken => ?_
  refine Program.stays_bind (stays_ask trivial) fun now => ?_
  refine Program.stays_transaction ?_
  refine Program.stays_bind (Program.stays_ask trivial) fun _ => ?_
  refine Program.stays_bind (Program.stays_ask trivial) fun _ => ?_
  exact Program.stays_ask trivial

theorem stays_consumeForClient (rawToken : Nat) (type : ActionTokenType) :
    Stays (consumeForClient around rawToken type) := by
  refine Program.stays_tryCatch ?_ fun _ => rfl
  refine Program.stays_bind (stays_ask trivial) fun now => ?_
  refine Program.stays_bind (stays_ask trivial) fun count => ?_
  split
  · refine Program.stays_bind (stays_ask trivial) fun token => ?_
    cases token <;> rfl
  · refine Program.stays_bind (stays_ask trivial) fun token => ?_
    cases token with
    | none => rfl
    | some token => dsimp only; split_ifs <;> rfl

theorem stays_resetPassword (rawToken : Nat) (newPassword : Bytes) :
    Stays (resetPassword around rawToken newPassword) := by
  refine Program.stays_bind (stays_consumeForClient rawToken _) fun userId => ?_
  refine Program.stays_bind (stays_ask trivial) fun hashedPassword => ?_
  refine Program.stays_transaction ?_
  exact Program.stays_bind (Program.stays_ask trivial) fun _ => Program.stays_ask trivial

theorem stays_verifyEmail (rawToken : Nat) : Stays (verifyEmail around rawToken) :=
  Program.stays_bind (stays_consumeForClient rawToken _) fun _ => stays_ask trivial

theorem stays_issueResult (user : User) : Stays (issueResult around user) := by
  unfold issueResult
  split
  · rfl
  · rfl
  · exact stays_issueTokensForUser user

theorem stays_findOrCreate (userId : Uuid) (provider providerSubject : String) :
    Stays (findOrCreate userId provider providerSubject) := by
  refine Program.stays_bind (stays_ask trivial) fun existing => ?_
  cases existing with
  | some existing => dsimp only; split <;> rfl
  | none =>
      refine Program.stays_tryCatch (stays_ask trivial) fun error => ?_
      cases error <;> rfl

theorem stays_raceResult (profile : GoogleProfile) (error : AuthError) :
    Stays (raceResult around profile error) := by
  unfold raceResult
  split
  · refine Program.stays_bind (stays_ask trivial) fun raceIdentity => ?_
    cases raceIdentity with
    | none => rfl
    | some raceIdentity =>
        refine Program.stays_bind (stays_ask trivial) fun raceUser => ?_
        cases raceUser with
        | none => rfl
        | some raceUser => exact stays_issueResult raceUser
  · rfl

theorem stays_signInWithGoogle (profile : GoogleProfile) :
    Stays (signInWithGoogle around profile) := by
  refine Program.stays_bind (stays_ask trivial) fun existingIdentity => ?_
  cases existingIdentity with
  | some existingIdentity =>
      refine Program.stays_bind (stays_ask trivial) fun user => ?_
      cases user with
      | none => rfl
      | some user => exact stays_issueResult user
  | none =>
      refine Program.stays_bind (stays_ask trivial) fun existingUser => ?_
      split
      · rfl
      · refine Program.stays_bind (stays_ask trivial) fun raw => ?_
        refine Program.stays_bind (stays_ask trivial) fun password => ?_
        refine Program.stays_bind (stays_ask trivial) fun newUser => ?_
        refine Program.stays_bind ?_ fun linked => ?_
        · refine Program.stays_tryCatch ?_ fun _ => rfl
          exact Program.stays_bind (stays_findOrCreate _ _ _) fun _ => rfl
        · cases linked with
          | some error => exact stays_raceResult profile error
          | none => exact stays_issueResult newUser

/-! ### The exchange of a token -/

section Refresh

variable {call : Call} {payload : JwtPayload} {token : Bytes} {dead userFirst : Bool}

/-- A program of harmless statements keeps the contract, and what lasts while others move. -/
theorem wp_of_stays {α : Type} {program : Program accounts α} (stays : Stays program)
    {Q : Except AuthError α → Option (Session World Key) → World → Prop}
    (ends : ∀ outcome world, SingleUse world → Q outcome none world) (holds : SingleUse world) :
    (contract around).wp pid call program Q none world := by
  refine Contract.wp_of_stays (fun _ _ => trivial) (P := isHarmless)
    (fun asked harmless choice view effect _ executed =>
      bears_of_harmless harmless choice view effect executed) ?_ stays
    (show (contract around).Borne pid false none from rfl) holds
  rintro outcome (_ | opened) world holds borne
  · exact ends outcome world holds
  · cases borne.1

/-- The request has presented its token, dead or not, and was not let through yet. -/
structure Presented (pid : Pid) (dead : Bool) (world : World) : Prop where
  isDead : presentedDead pid world = dead
  accepted : ∀ acceptance ∈ world.accepted, acceptance.pid ≠ pid

theorem presentedDead_of_rely (rely : Rely pid world after) :
    presentedDead pid after = presentedDead pid world := by
  rw [Bool.eq_iff_iff]
  simp only [presentedDead, List.any_eq_true, Bool.and_eq_true, decide_eq_true_eq]
  constructor
  · rintro ⟨presentation, member, mine, isDead⟩
    exact ⟨presentation, (rely.presentations presentation mine).mp member, mine, isDead⟩
  · rintro ⟨presentation, member, mine, isDead⟩
    exact ⟨presentation, (rely.presentations presentation mine).mpr member, mine, isDead⟩

theorem Presented.later (presented : Presented pid dead world) (rely : Rely pid world after) :
    Presented pid dead after where
  isDead := (presentedDead_of_rely rely).trans presented.isDead
  accepted acceptance member mine :=
    presented.accepted acceptance ((rely.accepted acceptance mine).mp member) mine

/-- What the row of a user says to a dead token. -/
def Turns (dead : Bool) (payload : JwtPayload) (token : Bytes) (user : Option User) : Prop :=
  ∀ row, user = some row → row.id = payload.sub ∧
    (dead = true → row.refreshToken.any (bcryptCompare token) = false)

/-- What the live sessions say to a dead token. -/
def TurnsAway (dead : Bool) (token : Bytes) (sessions : List RefreshSession) : Prop :=
  dead = true → ∀ session ∈ sessions, bcryptCompare token session.tokenHash = false

theorem admit_of_turns {user : Option User} {sessions : List RefreshSession}
    {authenticated : AuthenticatedUser} (turns : Turns dead payload token user)
    (turnsAway : TurnsAway dead token sessions)
    (admitted : authenticate token user sessions = .ok authenticated) :
    dead = false ∧ authenticated.id = payload.sub := by
  cases user with
  | none => cases admitted
  | some user =>
      obtain ⟨sameId, noLegacy⟩ := turns user rfl
      simp only [authenticate] at admitted
      split at admitted
      · cases admitted
      · split at admitted
        · next session found =>
          cases admitted
          refine ⟨?_, sameId⟩
          cases dead with
          | false => rfl
          | true =>
              have matched := List.find?_some found
              rw [turnsAway rfl session (List.mem_of_find?_eq_some found)] at matched
              cases matched
        · split at admitted
          · next legacy =>
            cases admitted
            refine ⟨?_, sameId⟩
            cases dead with
            | false => rfl
            | true =>
                rw [noLegacy rfl] at legacy
                cases legacy
          · cases admitted

/-- What holds of the request that is being checked: it has presented its token. -/
theorem excusePresented {call : Call} :
    (contract around).Excuse pid call fun _ world => Presented pid dead world where
  lasts rely presented := presented.later rely
  meets _ _ _ := trivial

/-- A statement that writes nothing. -/
theorem wp_reading {asked : Statement} {keys : List Key} {reply : Nat → asked.Reply}
    {Q : Except AuthError asked.Reply → Option (Session World Key) → World → Prop}
    (reads : ∀ choice, exec pid choice asked world = .ok ⟨reply choice, fun world => world, keys⟩)
    (errors : ∀ error world, SingleUse world → Presented pid dead world →
      Q (.error error) none world)
    (holds : SingleUse world) (presented : Presented pid dead world)
    (goesOn : admits pid call asked world = true → ∀ choice after, SingleUse after →
      Presented pid dead after → Q (.ok (reply choice)) none after) :
    (contract around).wp pid call (ask asked) Q none world := by
  refine Contract.wp_read reads excusePresented holds errors (fun _ => presented) ?_
  intro admitted choice after calm holds
  exact goesOn admitted choice after holds (presented.later calm.rely)

theorem findUser_keeps
    {Q : Except AuthError (Option User) → Option (Session World Key) → World → Prop}
    (errors : ∀ error world, SingleUse world → Presented pid dead world →
      Q (.error error) none world)
    (goesOn : ∀ user world, SingleUse world → Presented pid dead world →
      Turns dead payload token user → Q (.ok user) none world)
    (holds : SingleUse world) (presented : Presented pid dead world) :
    (contract around).wp pid (.refresh payload token userFirst) (ask (.findUser payload.sub)) Q none
      world := by
  refine wp_reading (fun _ => rfl) errors holds presented ?_
  intro admitted _ after holdsAfter presentedAfter
  refine goesOn _ after holdsAfter presentedAfter fun row found => ?_
  refine ⟨Table.key_of_find found, ?_⟩
  rintro rfl
  simp only [admits, presented.isDead, Bool.not_true, Bool.false_or] at admitted
  rw [found] at admitted
  simpa using admitted

theorem findLiveSessions_keeps {now : Instant}
    {Q : Except AuthError (List RefreshSession) → Option (Session World Key) → World → Prop}
    (errors : ∀ error world, SingleUse world → Presented pid dead world →
      Q (.error error) none world)
    (goesOn : ∀ sessions world, SingleUse world → Presented pid dead world →
      TurnsAway dead token sessions → Q (.ok sessions) none world)
    (holds : SingleUse world) (presented : Presented pid dead world) :
    (contract around).wp pid (.refresh payload token userFirst)
      (ask (.findLiveSessions payload.sub now)) Q none world := by
  refine wp_reading (fun _ => rfl) errors holds presented ?_
  intro admitted _ after holdsAfter presentedAfter
  refine goesOn _ after holdsAfter presentedAfter ?_
  rintro rfl session member
  simp only [admits, presented.isDead, Bool.not_true, Bool.false_or] at admitted
  simpa using List.all_eq_true.mp admitted session member

/-- The user and the sessions may be read in either order. -/
theorem validate_keeps
    {Q : Except AuthError AuthenticatedUser → Option (Session World Key) → World → Prop}
    (errors : ∀ error world, SingleUse world → Presented pid dead world →
      Q (.error error) none world)
    (goesOn : ∀ user world, SingleUse world → Presented pid false world → user.id = payload.sub →
      Q (.ok user) none world)
    (holds : SingleUse world) (presented : Presented pid dead world) :
    (contract around).wp pid (.refresh payload token userFirst) (validate payload token userFirst) Q
      none world := by
  have admitted : ∀ {user sessions world}, SingleUse world → Presented pid dead world →
      Turns dead payload token user → TurnsAway dead token sessions →
        Q (authenticate token user sessions) none world := by
    intro user sessions world holds presented turns turnsAway
    cases outcome : authenticate token user sessions with
    | error error => exact errors error world holds presented
    | ok authenticated =>
        obtain ⟨rfl, sameUser⟩ := admit_of_turns turns turnsAway outcome
        exact goesOn authenticated world holds presented sameUser
  refine Contract.wp_of_bind (wp_reading (fun _ => rfl) errors holds presented ?_)
  intro _ now world holds presented
  refine Contract.wp_of_bind ?_
  cases userFirst with
  | true =>
      refine Contract.wp_of_andThen (findUser_keeps ?_ ?_ holds presented)
      · intro error world holds presented
        refine Contract.wp_of_andThen (findLiveSessions_keeps ?_ ?_ holds presented)
        · exact fun _ => errors error
        · exact fun _ world holds presented _ => errors error world holds presented
      · intro user world holds presented turns
        refine Contract.wp_of_andThen (findLiveSessions_keeps ?_ ?_ holds presented)
        · exact errors
        · exact fun sessions world holds presented turnsAway =>
            admitted holds presented turns turnsAway
  | false =>
      refine Contract.wp_of_andThen (findLiveSessions_keeps ?_ ?_ holds presented)
      · intro error world holds presented
        refine Contract.wp_of_andThen (findUser_keeps ?_ ?_ holds presented)
        · exact fun _ => errors error
        · exact fun _ world holds presented _ => errors error world holds presented
      · intro sessions world holds presented turnsAway
        refine Contract.wp_of_andThen (findUser_keeps ?_ ?_ holds presented)
        · exact errors
        · exact fun user world holds presented turns =>
            admitted holds presented turns turnsAway

theorem verifyJwt_keeps {Q : Except AuthError Unit → Option (Session World Key) → World → Prop}
    (errors : ∀ error world, Q (.error error) none world)
    (goesOn : ∀ dead world, SingleUse world → Presented pid dead world → Q (.ok ()) none world)
    (holds : SingleUse world) (fresh : Fresh pid world) :
    (contract around).wp pid call (ask (.verifyJwt payload token)) Q none world := by
  refine Contract.wp_ask excuse (fun error world _ _ => errors error world) (fun _ => trivial)
    (fun _ _ _ _ => trivial) ?_
  rintro - choice effect executed
  obtain ⟨-, executed⟩ := ok_of_unless executed
  cases executed
  refine ⟨⟨holds.once, ?_⟩, fun other distinct => ⟨?_, fun _ _ => Iff.rfl⟩, ?_⟩
  · intro presentation member isDead acceptance accepted
    rcases List.mem_append.mp member with old | new
    · exact holds.neverAgain presentation old isDead acceptance accepted
    · rw [List.mem_singleton.mp new]
      exact fresh.accepted acceptance accepted
  · rintro presentation rfl
    refine ⟨fun member => ?_, List.mem_append_left _⟩
    rcases List.mem_append.mp member with old | new
    · exact old
    · rw [List.mem_singleton.mp new] at distinct
      exact absurd rfl distinct
  · intro after calm holdsAfter
    refine goesOn (world.isDead payload.sub token) after holdsAfter (.later ?_ calm.rely)
    refine ⟨?_, fresh.accepted⟩
    have unpresented : presentedDead pid world = false := by
      simp only [presentedDead, List.any_eq_false, Bool.and_eq_true, decide_eq_true_eq]
      exact fun presentation member isMine => fresh.presentations presentation member isMine.1
    refine (List.any_append ..).trans ?_
    rw [show (world.presentations.any fun presentation =>
      presentation.pid = pid && presentation.wasDead) = false from unpresented]
    simp

theorem letThrough_keeps {Q : Except AuthError Unit → Option (Session World Key) → World → Prop}
    (errors : ∀ error world, Q (.error error) none world)
    (goesOn : ∀ world, SingleUse world → Q (.ok ()) none world)
    (holds : SingleUse world) (presented : Presented pid false world) :
    (contract around).wp pid call (ask (.letThrough token)) Q none world := by
  refine Contract.wp_ask excusePresented (fun error world _ _ => errors error world)
    (fun _ => presented) (fun _ _ _ _ => presented) ?_
  rintro - choice effect executed
  cases executed
  refine ⟨⟨holds.once, ?_⟩, fun other distinct => ⟨fun _ _ => Iff.rfl, ?_⟩,
    fun after _ holdsAfter => goesOn after holdsAfter⟩
  · intro presentation member isDead acceptance accepted
    rcases List.mem_append.mp accepted with old | new
    · exact holds.neverAgain presentation member isDead acceptance old
    · rw [List.mem_singleton.mp new]
      rintro rfl
      have none_dead := presented.isDead
      simp only [presentedDead, List.any_eq_false, Bool.and_eq_true, decide_eq_true_eq] at none_dead
      exact none_dead presentation member ⟨rfl, isDead⟩
  · rintro acceptance rfl
    refine ⟨fun member => ?_, List.mem_append_left _⟩
    rcases List.mem_append.mp member with old | new
    · exact old
    · rw [List.mem_singleton.mp new] at distinct
      exact absurd rfl distinct

/-- Who holds the user's row sees all exchanges of the user's tokens. -/
theorem isExchanged_of_agree {userId : Uuid} (agree : Agree (.user userId) world after) :
    after.isExchanged userId token = world.isExchanged userId token := by
  unfold World.isExchanged
  rw [← List.any_filter, ← List.any_filter, agree.2]

/-- A write that exchanges a token of the user. -/
structure Exchanges (pid : Pid) (userId : Uuid) (token : Bytes) (before after : World) : Prop where
  presentations : after.presentations = before.presentations
  accepted : after.accepted = before.accepted
  exchanges : ∃ next, after.exchanges = before.exchanges ++ [⟨pid, userId, token, next⟩]

theorem Exchanges.keeps {userId : Uuid} (exchanged : Exchanges pid userId token world after)
    (unexchanged : world.isExchanged userId token = false) (holds : SingleUse world) :
    SingleUse after ∧ (contract around).Guarantees pid world after := by
  obtain ⟨next, exchanges⟩ := exchanged.exchanges
  refine ⟨⟨?_, ?_⟩, fun _ _ => .of_same exchanged.presentations exchanged.accepted⟩
  · rw [exchanges, List.map_append]
    refine List.nodup_append.mpr ⟨holds.once, List.nodup_singleton _, ?_⟩
    rintro old member new isNew rfl
    obtain ⟨exchange, isExchange, same⟩ := List.mem_map.mp member
    have pair := same.trans (List.mem_singleton.mp isNew)
    simp only [Prod.mk.injEq] at pair
    simp only [World.isExchanged, List.any_eq_false, Bool.and_eq_true,
      decide_eq_true_eq] at unexchanged
    exact unexchanged exchange isExchange pair
  · rw [exchanged.presentations, exchanged.accepted]
    exact holds.neverAgain

/-- What an open exchange has written so far, and that the user's row is held. -/
structure Exchanging (pid : Pid) (userId : Uuid) (token : Bytes) (opened : Session World Key)
    (world : World) : Prop where
  isSound : opened.doomed = false
  held : Key.user userId ∈ opened.held
  writes : ∀ base, Exchanges pid userId token base (opened.pending base)
  unexchanged : world.isExchanged userId token = false

theorem Exchanging.later {userId : Uuid} {opened : Session World Key}
    (exchanging : Exchanging pid userId token opened world)
    (calm : (contract around).Calm pid (some opened) world after) :
    Exchanging pid userId token opened after where
  isSound := exchanging.isSound
  held := exchanging.held
  writes := exchanging.writes
  unexchanged := by
    rw [isExchanged_of_agree (calm.agree opened rfl _ exchanging.held)]
    exact exchanging.unexchanged

/-- A harmless statement beside the exchange. -/
theorem Exchanging.extend {userId : Uuid} {opened : Session World Key}
    (exchanging : Exchanging pid userId token opened world) {asked : Statement}
    (harmless : isHarmless asked) {choice : Nat} {effect : Effect World Key asked.Reply}
    {view : World} (executed : exec pid choice asked view = .ok effect) :
    Exchanging pid userId token (opened.extend effect) world where
  isSound := exchanging.isSound
  held := List.mem_append_right _ exchanging.held
  writes base := by
    obtain ⟨presentations, accepted, exchanges⟩ :=
      same_of_harmless harmless executed (opened.pending base)
    have exchanged := exchanging.writes base
    exact ⟨presentations.trans exchanged.presentations, accepted.trans exchanged.accepted,
      exchanged.exchanges.imp fun _ same => exchanges.trans same⟩
  unexchanged := exchanging.unexchanged

theorem Exchanging.commits {userId : Uuid} {opened : Session World Key}
    (exchanging : Exchanging pid userId token opened world) (holds : SingleUse world) :
    (contract around).commitPost pid call (fun _ _ => True)
      ((contract around).ends pid call) (.ok ()) (some opened) world := by
  obtain ⟨keeps, guarantees⟩ :=
    Exchanges.keeps (exchanging.writes world) exchanging.unexchanged holds
  exact ⟨fun _ => trivial, opened, rfl, exchanging.isSound, keeps, guarantees,
    fun _ _ _ => trivial⟩

/-- A harmless statement of the transaction that exchanges a token. -/
theorem Exchanging.goes_on {userId : Uuid} {opened : Session World Key}
    (exchanging : Exchanging pid userId token opened world) {asked : Statement}
    {Q : Except AuthError asked.Reply → Option (Session World Key) → World → Prop}
    (harmless : isHarmless asked) (errors : ∀ error session world, Q (.error error) session world)
    (goesOn : ∀ reply opened world, Exchanging pid userId token opened world → SingleUse world →
      Q (.ok reply) (some opened) world) :
    (contract around).wp pid call (ask asked) Q (some opened) world := by
  refine Contract.wp_ask_within excuse exchanging.isSound (fun error session world _ _ =>
    errors error session world) (fun _ => trivial) (fun _ _ _ _ => trivial) ?_
  intro _ choice effect executed after calm holds
  exact goesOn effect.reply _ after ((exchanging.extend harmless executed).later calm) holds

/-- The rows of the sessions are written after the exchange. -/
theorem sessions_keep (userId : Uuid) (token : Bytes) {opened : Session World Key}
    (previousSessionId : Option Uuid) {session : Statement} (harmless : isHarmless session)
    (now : Instant) (exchanging : Exchanging pid userId token opened world) :
    (contract around).wp pid call (do
        let _ ← ask session
        match previousSessionId with
        | none => pure ()
        | some previousSessionId => ask (.revokeSession previousSessionId now))
      ((contract around).commitPost pid call (fun _ _ => True) ((contract around).ends pid call))
      (some opened) world := by
  have fails : ∀ error session world, (contract around).commitPost pid call (fun _ _ => True)
      ((contract around).ends pid call) (.error error) session world :=
    fun _ _ _ => ⟨fun _ => trivial, trivial⟩
  refine Contract.wp_of_bind (exchanging.goes_on harmless fails ?_)
  intro _ opened world exchanging holds
  cases previousSessionId with
  | none => exact exchanging.commits holds
  | some previousSessionId =>
      refine exchanging.goes_on trivial fails ?_
      exact fun _ opened world exchanging holds => exchanging.commits holds

theorem persistRefreshSession_keeps (userId : Uuid) (next : JwtPayload) (rawNext : Bytes)
    (previousSessionId : Option Uuid) (sameUser : userId = payload.sub) (holds : SingleUse world) :
    (contract around).wp pid (.refresh payload token userFirst)
      (persistRefreshSession around userId next rawNext previousSessionId (some token))
      ((contract around).ends pid (.refresh payload token userFirst)) none world := by
  have read {asked : Statement} {rest : asked.Reply → Program accounts Unit} {world : World}
      (harmless : isHarmless asked) (holds : SingleUse world)
      (goesOn : ∀ reply world, SingleUse world →
        (contract around).wp pid (.refresh payload token userFirst) (rest reply)
          ((contract around).ends pid (.refresh payload token userFirst)) none world) :
      (contract around).wp pid (.refresh payload token userFirst) (ask asked >>= rest)
        ((contract around).ends pid (.refresh payload token userFirst)) none world := by
    refine Contract.wp_of_bind (wp_of_stays (stays_ask harmless) ?_ holds)
    rintro (error | reply) world holds
    · trivial
    · exact goesOn reply world holds
  refine read trivial holds fun tokenHash world holds => ?_
  refine read trivial holds fun now world holds => ?_
  refine Contract.wp_transaction excuse (fun _ _ _ _ => trivial) (fun _ => trivial) ?_
  intro world _ holds
  refine Contract.wp_of_bind (Contract.wp_ask_within excuse rfl
    (fun _ _ _ _ _ => ⟨fun _ => trivial, trivial⟩) (fun _ => trivial) (fun _ _ _ _ => trivial) ?_)
  intro admitted choice effect executed after calm _
  have unexchanged : (!world.isExchanged payload.sub token) = true := admitted
  obtain ⟨-, executed⟩ := ok_of_unless executed
  cases executed
  refine sessions_keep userId token previousSessionId ?_ now (.later ?_ calm)
  · exact trivial
  refine ⟨rfl, List.mem_append_left _ (List.mem_singleton_self _), fun _ => ⟨rfl, rfl, _, rfl⟩, ?_⟩
  rw [sameUser]
  simpa using unexchanged

theorem refresh_keeps (holds : SingleUse world) (fresh : Fresh pid world) :
    (contract around).wp pid (.refresh payload token userFirst)
      (refresh around payload token userFirst)
      ((contract around).ends pid (.refresh payload token userFirst)) none world := by
  refine Contract.wp_of_bind (verifyJwt_keeps (fun _ _ => trivial) ?_ holds fresh)
  intro dead world holds presented
  refine Contract.wp_of_bind (validate_keeps (fun _ _ _ _ => trivial) ?_ holds presented)
  intro user world holds presented sameUser
  refine Contract.wp_of_bind (letThrough_keeps (fun _ _ => trivial) ?_ holds presented)
  intro world holds
  have stays : Stays (generateTokens around user.id user.email user.roles) :=
    Program.stays_bind (stays_ask trivial) fun _ => rfl
  refine Contract.wp_of_bind (wp_of_stays stays ?_ holds)
  rintro (error | ⟨next, rawNext⟩) world holds
  · trivial
  · exact persistRefreshSession_keeps user.id next rawNext user.refreshSessionId sameUser holds

end Refresh

/-! ### Single use -/

/-- Every request keeps the contract. -/
theorem safe : (contract around).Safe := by
  rintro pid call world - - - fresh after ⟨rely, -⟩ holds
  have others {program : Program accounts Unit} (stays : Stays program) :
      (contract around).wp pid call program ((contract around).ends pid call) none after :=
    wp_of_stays stays (fun _ _ _ => trivial) holds
  cases call with
  | refresh payload token userFirst => exact refresh_keeps holds (fresh.later rely)
  | login email password => exact others (stays_login email password)
  | logout userId userFirst => exact others (stays_logout userId userFirst)
  | issue userId type => exact others (stays_issue userId type)
  | resetPassword rawToken newPassword => exact others (stays_resetPassword rawToken newPassword)
  | verifyEmail rawToken => exact others (stays_verifyEmail rawToken)
  | signInWithGoogle profile => exact others (stays_signInWithGoogle profile)

/-- A world in which no token was presented yet. -/
structure Start (world : World) : Prop where
  presentations : world.presentations = []
  accepted : world.accepted = []
  exchanges : world.exchanges = []

theorem admits_of_passes (machine : Machine accounts World Key Call) (move : Move Call)
    (passes : move.passesTerms (fun _ => true) admits true machine = true) :
    terms.AdmitsMove machine move := by
  refine Terms.admits_of_passes ?_ ?_ ?_ machine move passes
  · exact fun _ _ _ => trivial
  · exact fun _ _ _ _ admitted => admitted
  · exact fun _ _ _ _ => not_false

theorem admits_free (machine : Machine accounts World Key Call) (move : Move Call)
    (passes : move.passesTerms (fun _ => true) (fun _ _ _ _ => true) true machine = true) :
    Terms.free.AdmitsMove machine move := by
  refine Terms.admits_of_passes ?_ ?_ ?_ machine move passes
  · exact fun _ _ _ => trivial
  · exact fun _ _ _ _ _ => trivial
  · exact fun _ _ _ _ => not_false

theorem plainWorld_start : Start plainWorld := ⟨rfl, rfl, rfl⟩

/-- What the first login signs. -/
def plainPayload : JwtPayload := ⟨3, "owner@example.com", [.owner], 1000, 605800⟩

def plainToken : Bytes := refreshToken plainSurroundings plainPayload

def firstLogin : List (Move Call) :=
  [.issue 0 (.login "owner@example.com" []), .step 0 0, .step 0 1000000, .step 0 0,
    .step 0 1000000, .step 0 0, .step 0 0, .step 0 0, .step 0 0]

/-- The token is presented, and the user and the sessions are read. -/
def presenting (pid : Pid) (now : Nat) : List (Move Call) :=
  [.issue pid (.refresh plainPayload plainToken true), .step pid now, .step pid now, .step pid 0,
    .step pid 0]

def firstRefresh : List (Move Call) :=
  presenting 1 2000000 ++ [.step 1 0, .step 1 2000000, .step 1 1, .step 1 2000000, .step 1 0,
    .step 1 0, .step 1 0, .step 1 0, .step 1 0]

end MarketMind.Auth.RefreshTokens
