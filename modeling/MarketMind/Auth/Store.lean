import MarketMind.Auth.Tokens
import MarketMind.Transactions.Faults
import MarketMind.Transactions.Table

/-!
Owns the tables of accounts: users, their refresh sessions, their one-time action tokens and the
identities of providers, and what each statement does to them.

Does not own which statements a request executes. Left out are the columns that no code here reads:
the times of a login, the client of a session and the profile of an identity. Beside the tables the
world records what was created, issued, presented, accepted, exchanged, ended, consumed and
effected.
-/

namespace MarketMind.Auth

open MarketMind.Transactions

/-! ### Rows -/

inductive UserStatus
  | active
  | suspended
  | disabled
deriving DecidableEq, Repr

structure User where
  id : Uuid
  email : String
  password : BcryptHash
  fullName : Option String
  roles : List Role
  isEmailVerified : Bool
  /-- The column from before sessions had rows. -/
  refreshToken : Option BcryptHash
  status : UserStatus
  suspensionReason : Option String
deriving DecidableEq, Repr

instance : Keyed User := ⟨User.id⟩

/-- A session, with the token that it was created for. -/
structure RefreshSession where
  id : Uuid
  userId : Uuid
  tokenHash : BcryptHash
  token : Bytes
  expiresAt : Instant
  revokedAt : Option Instant
deriving DecidableEq, Repr

instance : Keyed RefreshSession := ⟨RefreshSession.id⟩

def RefreshSession.revoked (now : Instant) (session : RefreshSession) : RefreshSession :=
  { session with revokedAt := some now }

theorem RefreshSession.key_revoked (now : Instant) (session : RefreshSession) :
    Keyed.key (session.revoked now) = Keyed.key session :=
  rfl

def RefreshSession.isUnrevoked (userId : Uuid) (session : RefreshSession) : Bool :=
  session.userId = userId && session.revokedAt = none

def RefreshSession.isLive (userId : Uuid) (now : Instant) (session : RefreshSession) : Bool :=
  session.isUnrevoked userId && now < session.expiresAt

inductive ActionTokenType
  | passwordReset
  | emailVerification
deriving DecidableEq, Repr

structure ActionToken where
  tokenHash : Nat
  userId : Uuid
  type : ActionTokenType
  expiresAt : Instant
  consumedAt : Option Instant
deriving DecidableEq, Repr

instance : Keyed ActionToken := ⟨ActionToken.tokenHash⟩

def ActionToken.consumed (now : Instant) (token : ActionToken) : ActionToken :=
  { token with consumedAt := some now }

theorem ActionToken.key_consumed (now : Instant) (token : ActionToken) :
    Keyed.key (token.consumed now) = Keyed.key token :=
  rfl

/-- An unconsumed token of the user. -/
def ActionToken.isOpen (userId : Uuid) (type : ActionTokenType) (token : ActionToken) : Bool :=
  token.userId = userId && token.type = type && token.consumedAt = none

def ActionToken.isUsable (type : ActionTokenType) (now : Instant) (token : ActionToken) : Bool :=
  token.type = type && token.consumedAt = none && now < token.expiresAt

structure FederatedIdentity where
  id : Uuid
  userId : Uuid
  provider : String
  providerSubject : String
deriving DecidableEq, Repr

instance : Keyed FederatedIdentity := ⟨FederatedIdentity.id⟩

def FederatedIdentity.isOf (provider providerSubject : String) (identity : FederatedIdentity) :
    Bool :=
  identity.provider = provider && identity.providerSubject = providerSubject

/-! ### Records -/

/-- A request issues a refresh token. -/
structure Issued where
  pid : Pid
  payload : JwtPayload
  token : Bytes
deriving DecidableEq, Repr

/-- A request creates a user. -/
structure Creation where
  pid : Pid
  userId : Uuid
deriving DecidableEq, Repr

/-- A request presents a refresh token of the user, dead or not. -/
structure Presentation where
  pid : Pid
  userId : Uuid
  token : Bytes
  wasDead : Bool
deriving DecidableEq, Repr

/-- A request is let through with the token that it presented. -/
structure Acceptance where
  pid : Pid
  token : Bytes
deriving DecidableEq, Repr

/-- A request exchanges the token that it presented for another of the user. -/
structure Exchange where
  pid : Pid
  userId : Uuid
  presented : Bytes
  next : Bytes
deriving DecidableEq, Repr

/-- A request consumes an action token. -/
structure Consumption where
  pid : Pid
  tokenHash : Nat
deriving DecidableEq, Repr

structure World where
  users : Table User
  sessions : Table RefreshSession
  actionTokens : Table ActionToken
  identities : Table FederatedIdentity
  creations : List Creation
  issued : List Issued
  presentations : List Presentation
  accepted : List Acceptance
  exchanges : List Exchange
  /-- The tokens, each of its user, whose sessions a logout or a password reset has ended. -/
  ended : List (Uuid × Bytes)
  consumptions : List Consumption
  /-- The action tokens whose effect is committed, each with the request that effected it. -/
  effects : List Consumption
deriving DecidableEq

def World.empty : World :=
  ⟨Table.empty, Table.empty, Table.empty, Table.empty, [], [], [], [], [], [], [], []⟩

/-- The token has been exchanged. -/
def World.isExchanged (world : World) (userId : Uuid) (token : Bytes) : Bool :=
  world.exchanges.any fun exchange => exchange.userId = userId && exchange.presented = token

/-- The token has been exchanged, or its sessions were ended. -/
def World.isDead (world : World) (userId : Uuid) (token : Bytes) : Bool :=
  world.isExchanged userId token || world.ended.contains (userId, token)

/-! ### Statements -/

inductive AuthError
  /-- `UnauthorizedException` -/
  | unauthorized (code : Option String) (message : String) (reason : Option String)
  /-- `UnprocessableEntityException` -/
  | unprocessable (code message : String)
  /-- `OAuthException` -/
  | oauth (code message : String) (reason : Option String)
  /-- `ActionTokenError` -/
  | actionToken (code message : String)
  | federatedIdentityConflict
  | typeError
  /-- P2002 -/
  | uniqueViolation
  /-- P2003 -/
  | foreignKeyViolation
  /-- P2025 -/
  | recordNotFound
  | transactionAborted
  | databaseFailure
deriving DecidableEq, Repr

inductive Statement
  | findUser (id : Uuid)
  | findUserByEmail (email : String)
  | createUser (email : String) (password : BcryptHash) (fullName : Option String)
      (isEmailVerified : Bool)
  /-- The token is issued, in exchange for another or for none. -/
  | setRefreshToken (id : Uuid) (tokenHash : BcryptHash) (payload : JwtPayload) (token : Bytes)
      (exchanged : Option Bytes)
  | clearRefreshToken (id : Uuid)
  | changePassword (id : Uuid) (password : BcryptHash)
  /-- The effect of the action token. -/
  | markEmailVerified (id : Uuid) (actionToken : Nat)
  | findLiveSessions (userId : Uuid) (now : Instant)
  | createSession (userId : Uuid) (tokenHash : BcryptHash) (token : Bytes) (expiresAt : Instant)
  | revokeSession (id : Uuid) (now : Instant)
  | revokeSessions (userId : Uuid) (now : Instant)
  /-- The effect of the action token. -/
  | deleteSessions (userId : Uuid) (actionToken : Nat)
  | invalidateActionTokens (userId : Uuid) (type : ActionTokenType) (now : Instant)
  | createActionToken (token : ActionToken)
  | consumeActionToken (tokenHash : Nat) (type : ActionTokenType) (now : Instant)
  | findActionToken (tokenHash : Nat)
  | findIdentity (provider providerSubject : String)
  | createIdentity (userId : Uuid) (provider providerSubject : String)
  /-- Passport verifies the expiry of a refresh token. -/
  | verifyJwt (payload : JwtPayload) (token : Bytes)
  /-- Passport lets the request through. -/
  | letThrough (token : Bytes)
  | bcrypt (data : Bytes)
  | randomBytes
  | clock
deriving DecidableEq, Repr

abbrev Statement.Reply : Statement → Type
  | findUser _ | findUserByEmail _ => Option User
  | createUser _ _ _ _ => User
  | findLiveSessions _ _ => List RefreshSession
  | findActionToken _ => Option ActionToken
  | findIdentity _ _ => Option FederatedIdentity
  | createIdentity _ _ _ => FederatedIdentity
  | consumeActionToken _ _ _ | randomBytes => Nat
  | bcrypt _ => BcryptHash
  | clock => Instant
  | setRefreshToken _ _ _ _ _ | clearRefreshToken _ | changePassword _ _ | markEmailVerified _ _
  | createSession _ _ _ _ | revokeSession _ _ | revokeSessions _ _ | deleteSessions _ _
  | invalidateActionTokens _ _ _ | createActionToken _ | verifyJwt _ _ | letThrough _ => Unit

/-- The signature of the account services. -/
def accounts : Signature := ⟨Statement, Statement.Reply, AuthError⟩

/-! ### What a statement does -/

/-- The rows that exclude concurrent writers; a serializable transaction also excludes others that
issue tokens of its kind to its user. -/
inductive Key
  | user (id : Uuid)
  | email (email : String)
  | session (id : Uuid)
  | actionToken (tokenHash : Nat)
  | issuing (userId : Uuid) (type : ActionTokenType)
  | identity (provider providerSubject : String)
deriving DecidableEq, Repr

def World.hasOpen (world : World) (userId : Uuid) (type : ActionTokenType) (tokenHash : Nat) :
    Prop :=
  ∃ token, world.actionTokens.find tokenHash = some token ∧ token.isOpen userId type = true

def Agree (key : Key) (left right : World) : Prop :=
  match key with
  | .user id =>
      left.users.find id = right.users.find id ∧
        left.exchanges.filter (·.userId = id) = right.exchanges.filter (·.userId = id)
  | .email email =>
      left.users.keysOf (·.email = email) = right.users.keysOf (·.email = email)
  | .session id => left.sessions.find id = right.sessions.find id
  | .actionToken tokenHash =>
      left.actionTokens.find tokenHash = right.actionTokens.find tokenHash
  -- Tokens may be consumed, but none is issued.
  | .issuing userId type =>
      ∀ tokenHash, right.hasOpen userId type tokenHash → left.hasOpen userId type tokenHash
  | .identity provider providerSubject =>
      left.identities.keysOf (·.isOf provider providerSubject) =
        right.identities.keysOf (·.isOf provider providerSubject)

namespace World

def addUser (world : World) (user : User) : World :=
  { world with users := world.users.insertUnless (·.email = user.email) user }

/-- Change a user, but neither the identifier nor the e-mail. -/
structure UserChange where
  apply : User → User
  sameId : ∀ user, (apply user).id = user.id := by exact fun _ => rfl
  sameEmail : ∀ user, (apply user).email = user.email := by exact fun _ => rfl

def changeUser (world : World) (id : Uuid) (change : UserChange) : World :=
  { world with users := world.users.modify id change.apply change.sameId }

def addSession (world : World) (session : RefreshSession) : World :=
  { world with sessions := world.sessions.insertUnless (·.tokenHash = session.tokenHash) session }

/-- The sessions among `ids` are revoked. -/
def revoke (world : World) (ids : List Uuid) (now : Instant) : World :=
  { world with
    sessions := world.sessions.update (fun row => row.id ∈ ids) (·.revoked now) }

def dropSessions (world : World) (ids : List Uuid) : World :=
  { world with sessions := world.sessions.retain (·.id ∉ ids) }

/-- The tokens of the sessions that `picked` picks. -/
def tokensOf (world : World) (picked : RefreshSession → Bool) : List (Uuid × Bytes) :=
  (world.sessions.rows.filter picked).map fun session => (session.userId, session.token)

/-- The unconsumed tokens among `hashes` are consumed. -/
def consume (world : World) (hashes : List Nat) (now : Instant) : World :=
  { world with
    actionTokens := world.actionTokens.update
      (fun row => row.tokenHash ∈ hashes && row.consumedAt = none) (·.consumed now) }

def addActionToken (world : World) (token : ActionToken) : World :=
  { world with actionTokens := world.actionTokens.insert token }

def addIdentity (world : World) (identity : FederatedIdentity) : World :=
  { world with
    identities := world.identities.insertUnless
      (·.isOf identity.provider identity.providerSubject) identity }

end World

/-- A statement that writes nothing. -/
abbrev reading {α : Type} (reply : α) : Except AuthError (Effect World Key α) :=
  .ok ⟨reply, fun world => world, []⟩

/-- Change a user who must exist. -/
def updateUser (world : World) (id : Uuid) (change : World.UserChange)
    (record : World → World) : Except AuthError (Effect World Key Unit) :=
  if (world.users.find id).isNone then .error .recordNotFound
  else .ok ⟨(), fun later => record (later.changeUser id change), [.user id]⟩

def exec (pid : Pid) (choice : Nat) (asked : Statement) (world : World) :
    Except AuthError (Effect World Key asked.Reply) :=
  match asked with
  | .findUser id => reading (world.users.find id)
  | .findUserByEmail email => reading (world.users.rows.find? (·.email = email))
  | .createUser email password fullName isEmailVerified =>
      if world.users.rows.any (·.email = email) then .error .uniqueViolation
      else
        let user : User :=
          { id := world.users.freshKey choice
            email
            password
            fullName
            roles := [.owner]
            isEmailVerified
            refreshToken := none
            status := .active
            suspensionReason := none }
        .ok ⟨user, fun later =>
          { later.addUser user with creations := later.creations ++ [⟨pid, user.id⟩] },
          [.user user.id, .email email]⟩
  | .setRefreshToken id tokenHash payload token exchanged =>
      updateUser world id { apply := fun user => { user with refreshToken := some tokenHash } }
        fun later =>
          { later with
            issued := later.issued ++ [⟨pid, payload, token⟩]
            exchanges := later.exchanges ++
              exchanged.toList.map fun presented => ⟨pid, id, presented, token⟩ }
  | .clearRefreshToken id =>
      if (world.users.find id).all (·.refreshToken = none) then reading ()
      else
        .ok ⟨(), (·.changeUser id { apply := fun user => { user with refreshToken := none } }),
          [.user id]⟩
  | .changePassword id password =>
      updateUser world id { apply := fun user => { user with password, refreshToken := none } }
        fun later => later
  | .markEmailVerified id actionToken =>
      updateUser world id { apply := fun user => { user with isEmailVerified := true } }
        fun later => { later with effects := later.effects ++ [⟨pid, actionToken⟩] }
  | .findLiveSessions userId now =>
      reading (world.sessions.rows.filter (·.isLive userId now))
  | .createSession userId tokenHash token expiresAt =>
      if (world.users.find userId).isNone then .error .foreignKeyViolation
      else if world.sessions.rows.any (·.tokenHash = tokenHash) then .error .uniqueViolation
      else
        let id := world.sessions.freshKey choice
        .ok ⟨(), (·.addSession ⟨id, userId, tokenHash, token, expiresAt, none⟩), [.session id]⟩
  | .revokeSession id now =>
      if (world.sessions.find id).isNone then .error .recordNotFound
      else .ok ⟨(), (·.revoke [id] now), [.session id]⟩
  | .revokeSessions userId now =>
      let ids := world.sessions.keysOf (·.isUnrevoked userId)
      let tokens := world.tokensOf (·.isUnrevoked userId)
      .ok ⟨(), fun later =>
        { later.revoke ids now with ended := later.ended ++ tokens }, ids.map .session⟩
  | .deleteSessions userId actionToken =>
      let ids := world.sessions.keysOf (·.userId = userId)
      let tokens := world.tokensOf (·.userId = userId)
      .ok ⟨(), fun later =>
        { later.dropSessions ids with
          ended := later.ended ++ tokens
          effects := later.effects ++ [⟨pid, actionToken⟩] }, ids.map .session⟩
  | .invalidateActionTokens userId type now =>
      let hashes := world.actionTokens.keysOf (·.isOpen userId type)
      .ok ⟨(), (·.consume hashes now), .issuing userId type :: hashes.map .actionToken⟩
  | .createActionToken token =>
      if (world.users.find token.userId).isNone then .error .foreignKeyViolation
      else if (world.actionTokens.find token.tokenHash).isSome then .error .uniqueViolation
      else
        .ok ⟨(), (·.addActionToken token),
          [.issuing token.userId token.type, .actionToken token.tokenHash]⟩
  | .consumeActionToken tokenHash type now =>
      if (world.actionTokens.find tokenHash).any (·.isUsable type now) then
        .ok ⟨1, fun later =>
          { later.consume [tokenHash] now with
            consumptions := later.consumptions ++ [⟨pid, tokenHash⟩] }, [.actionToken tokenHash]⟩
      else reading 0
  | .findActionToken tokenHash => reading (world.actionTokens.find tokenHash)
  | .findIdentity provider providerSubject =>
      reading (world.identities.rows.find? (·.isOf provider providerSubject))
  | .createIdentity userId provider providerSubject =>
      if (world.users.find userId).isNone then .error .foreignKeyViolation
      else if world.identities.rows.any (·.isOf provider providerSubject) then
        .error .uniqueViolation
      else
        let identity : FederatedIdentity :=
          ⟨world.identities.freshKey choice, userId, provider, providerSubject⟩
        .ok ⟨identity, (·.addIdentity identity), [.identity provider providerSubject]⟩
  | .verifyJwt payload token =>
      if payload.exp ≤ (choice : Int) / 1000 then
        .error (.unauthorized none "Unauthorized" none)
      else
        .ok ⟨(), fun later =>
          { later with
            presentations := later.presentations ++
              [⟨pid, payload.sub, token, later.isDead payload.sub token⟩] }, []⟩
  | .letThrough token =>
      .ok ⟨(), fun later => { later with accepted := later.accepted ++ [⟨pid, token⟩] }, []⟩
  | .bcrypt data => reading (bcryptHash choice data)
  | .randomBytes => reading choice
  | .clock => reading (choice : Int)

/-! ### What a statement finds -/

section Finds

variable {world : World}

theorem World.find_changeUser {id other : Uuid} {change : World.UserChange} :
    (world.changeUser id change).users.find other = (world.users.find other).map fun user =>
      if user.id = id then change.apply user else user := by
  refine (@Table.find_update _ _ world.users other (fun row => row.id = id) change.apply
    change.sameId).trans ?_
  simp only [decide_eq_true_eq]

theorem isSome_of_changeUser {id other : Uuid} {change : World.UserChange} :
    ((world.changeUser id change).users.find other).isSome = (world.users.find other).isSome := by
  rw [World.find_changeUser, Option.isSome_map]

variable {id : Uuid} {change : World.UserChange} {record : World → World}

/-- Users who exist can be changed. -/
theorem updateUser_of_user (isUser : (world.users.find id).isSome) :
    updateUser world id change record =
      .ok ⟨(), fun later => record (later.changeUser id change), [.user id]⟩ := by
  refine if_neg ?_
  rw [Option.isNone_iff_eq_none]
  exact Option.isSome_iff_ne_none.mp isUser

theorem effect_of_updateUser {effect : Effect World Key Unit}
    (executed : updateUser world id change record = .ok effect)
    (isUser : (world.users.find id).isSome) :
    effect = ⟨(), fun later => record (later.changeUser id change), [.user id]⟩ := by
  rw [updateUser_of_user isUser] at executed
  cases executed
  rfl

theorem not_refused {error : AuthError}
    (executed : updateUser world id change record = .error error) :
    ¬ (world.users.find id).isSome := by
  intro isUser
  rw [updateUser_of_user isUser] at executed
  cases executed

end Finds

/-! ### The store -/

theorem agree_refl (key : Key) (world : World) : Agree key world world := by
  cases key with
  | issuing userId type => exact fun _ isOpen => isOpen
  | user id => exact ⟨rfl, rfl⟩
  | email | session | actionToken | identity => rfl

theorem agree_trans (key : Key) {first second third : World} (left : Agree key first second)
    (right : Agree key second third) : Agree key first third := by
  cases key with
  | issuing userId type => exact fun tokenHash isOpen => left tokenHash (right tokenHash isOpen)
  | user id => exact ⟨left.1.trans right.1, left.2.trans right.2⟩
  | email | session | actionToken | identity => exact Eq.trans left right

section Writes

variable {world after : World} {key : Key}

/-- Nothing under a key changes. -/
theorem agree_of_same (users : after.users = world.users)
    (exchanges : after.exchanges = world.exchanges) (sessions : after.sessions = world.sessions)
    (actionTokens : after.actionTokens = world.actionTokens)
    (identities : after.identities = world.identities) : Agree key world after := by
  cases key with
  | issuing userId type =>
      rintro tokenHash ⟨token, known, isOpen⟩
      rw [actionTokens] at known
      exact ⟨token, known, isOpen⟩
  | user | email | session | actionToken | identity =>
      simp [Agree, users, exchanges, sessions, actionTokens, identities]

theorem agree_users (sessions : after.sessions = world.sessions)
    (actionTokens : after.actionTokens = world.actionTokens)
    (identities : after.identities = world.identities)
    (rows : ∀ id, key = .user id → world.users.find id = after.users.find id ∧
      world.exchanges.filter (·.userId = id) = after.exchanges.filter (·.userId = id))
    (emails : ∀ email, key = .email email →
      world.users.keysOf (·.email = email) = after.users.keysOf (·.email = email)) :
    Agree key world after := by
  cases key with
  | user id => exact rows id rfl
  | email email => exact emails email rfl
  | issuing userId type =>
      rintro tokenHash ⟨token, known, isOpen⟩
      rw [actionTokens] at known
      exact ⟨token, known, isOpen⟩
  | session | actionToken | identity => simp [Agree, sessions, actionTokens, identities]

theorem agree_sessions (users : after.users = world.users)
    (exchanges : after.exchanges = world.exchanges)
    (actionTokens : after.actionTokens = world.actionTokens)
    (identities : after.identities = world.identities)
    (rows : ∀ id, key = .session id → world.sessions.find id = after.sessions.find id) :
    Agree key world after := by
  cases key with
  | session id => exact rows id rfl
  | issuing userId type =>
      rintro tokenHash ⟨token, known, isOpen⟩
      rw [actionTokens] at known
      exact ⟨token, known, isOpen⟩
  | user | email | actionToken | identity =>
      simp [Agree, users, exchanges, actionTokens, identities]

theorem agree_actionTokens (users : after.users = world.users)
    (exchanges : after.exchanges = world.exchanges)
    (sessions : after.sessions = world.sessions) (identities : after.identities = world.identities)
    (rows : ∀ tokenHash, key = .actionToken tokenHash →
      world.actionTokens.find tokenHash = after.actionTokens.find tokenHash)
    (opens : ∀ userId type, key = .issuing userId type → ∀ tokenHash,
      after.hasOpen userId type tokenHash → world.hasOpen userId type tokenHash) :
    Agree key world after := by
  cases key with
  | actionToken tokenHash => exact rows tokenHash rfl
  | issuing userId type => exact opens userId type rfl
  | user | email | session | identity => simp [Agree, users, exchanges, sessions, identities]

theorem agree_changeUser {id : Uuid} {change : World.UserChange} (free : key ∉ [Key.user id])
    (sessions : after.sessions = world.sessions)
    (actionTokens : after.actionTokens = world.actionTokens)
    (identities : after.identities = world.identities)
    (users : after.users = (world.changeUser id change).users)
    (exchanges : ∀ other, other ≠ id →
      world.exchanges.filter (·.userId = other) = after.exchanges.filter (·.userId = other)) :
    Agree key world after := by
  refine agree_users sessions actionTokens identities ?_ ?_
  · rintro other rfl
    have apart : other ≠ id := fun same => free (same ▸ List.mem_singleton_self _)
    refine ⟨?_, exchanges other apart⟩
    rw [users]
    exact (@Table.find_modify_of_ne _ _ _ _ _ change.sameId _ apart).symm
  · rintro email rfl
    rw [users]
    refine (@Table.keysOf_update _ _ _ _ _ change.apply change.sameId fun row _ => ?_).symm
    rw [change.sameEmail]

theorem World.find_consume {hashes : List Nat} {now : Instant} {tokenHash : Nat} :
    (world.consume hashes now).actionTokens.find tokenHash =
      (world.actionTokens.find tokenHash).map fun row =>
        if row.tokenHash ∈ hashes && row.consumedAt = none then row.consumed now else row :=
  @Table.find_update _ _ _ _ _ _ (ActionToken.key_consumed now)

theorem World.find_revoke {ids : List Uuid} {now : Instant} {id : Uuid} :
    (world.revoke ids now).sessions.find id =
      (world.sessions.find id).map fun row => if row.id ∈ ids then row.revoked now else row := by
  refine (@Table.find_update _ _ world.sessions _ _ _ (RefreshSession.key_revoked now)).trans ?_
  simp only [decide_eq_true_eq]

theorem World.find_revoke_of_notMem {ids : List Uuid} {now : Instant} {id : Uuid}
    (apart : id ∉ ids) : (world.revoke ids now).sessions.find id = world.sessions.find id := by
  rw [find_revoke]
  cases found : world.sessions.find id with
  | none => rfl
  | some row =>
      have sameId : row.id = id := Table.key_of_find found
      simp [sameId, apart]

theorem World.find_dropSessions_of_notMem {ids : List Uuid} {id : Uuid} (apart : id ∉ ids) :
    (world.dropSessions ids).sessions.find id = world.sessions.find id := by
  refine Table.find_retain.trans ?_
  cases found : world.sessions.find id with
  | none => rfl
  | some row =>
      have sameId : row.id = id := Table.key_of_find found
      simp [sameId, apart]

/-- Consumption opens no token. -/
theorem hasOpen_of_consume {hashes : List Nat} {now : Instant} {userId : Uuid}
    {type : ActionTokenType} {tokenHash : Nat}
    (isOpen : (world.consume hashes now).hasOpen userId type tokenHash) :
    world.hasOpen userId type tokenHash ∧ tokenHash ∉ hashes := by
  obtain ⟨token, known, isOpen⟩ := isOpen
  rw [World.find_consume] at known
  obtain ⟨old, wasKnown, rfl⟩ := Option.map_eq_some_iff.mp known
  split at isOpen
  · simp [ActionToken.isOpen, ActionToken.consumed] at isOpen
  · next untouched =>
    refine ⟨⟨old, wasKnown, isOpen⟩, fun member => untouched ?_⟩
    have sameHash : old.tokenHash = tokenHash := Table.key_of_find wasKnown
    simp only [ActionToken.isOpen, Bool.and_eq_true, decide_eq_true_eq] at isOpen
    simp [sameHash, member, isOpen.2]

theorem agree_consume {hashes : List Nat} {now : Instant} {later : World}
    (free : key ∉ hashes.map Key.actionToken) (users : later.users = world.users)
    (exchanges : later.exchanges = world.exchanges) (sessions : later.sessions = world.sessions) (identities : later.identities = world.identities)
    (actionTokens : later.actionTokens = (world.consume hashes now).actionTokens) :
    Agree key world later := by
  refine agree_actionTokens users exchanges sessions identities ?_ ?_
  · rintro tokenHash rfl
    have apart : tokenHash ∉ hashes := fun member => free (List.mem_map_of_mem member)
    rw [actionTokens, World.find_consume]
    cases found : world.actionTokens.find tokenHash with
    | none => rfl
    | some row =>
        have sameHash : row.tokenHash = tokenHash := Table.key_of_find found
        simp [sameHash, apart]
  · rintro userId type - tokenHash ⟨token, known, isOpen⟩
    rw [actionTokens] at known
    exact (hasOpen_of_consume ⟨token, known, isOpen⟩).1

theorem agree_addActionToken {token : ActionToken}
    (free : key ∉ [Key.issuing token.userId token.type, .actionToken token.tokenHash]) :
    Agree key world (world.addActionToken token) := by
  refine agree_actionTokens rfl rfl rfl rfl ?_ ?_
  · rintro tokenHash rfl
    have apart : tokenHash ≠ token.tokenHash := by
      rintro rfl
      exact free (by simp)
    exact (Table.find_insert_of_ne apart).symm
  · rintro userId type rfl tokenHash ⟨found, known, isOpen⟩
    rcases Table.of_find_insert known with old | ⟨rfl, -⟩
    · exact ⟨found, old, isOpen⟩
    · refine absurd ?_ free
      simp only [ActionToken.isOpen, Bool.and_eq_true, decide_eq_true_eq] at isOpen
      simp [isOpen.1.1, isOpen.1.2]

theorem agree_addIdentity {identity : FederatedIdentity}
    (free : key ∉ [Key.identity identity.provider identity.providerSubject]) :
    Agree key world (world.addIdentity identity) := by
  cases key with
  | issuing userId type => exact fun _ isOpen => isOpen
  | user id => exact ⟨rfl, rfl⟩
  | email | session | actionToken => rfl
  | identity provider providerSubject =>
      refine (Table.keysOf_insertUnless ?_).symm
      by_contra same
      refine free ?_
      simp only [FederatedIdentity.isOf, Bool.not_eq_false, Bool.and_eq_true,
        decide_eq_true_eq] at same
      simp [same.1, same.2]

end Writes

theorem framed {pid : Pid} {choice : Nat} {asked : Statement} {world : World}
    {effect : Effect World Key asked.Reply} (executed : exec pid choice asked world = .ok effect)
    (key : Key) (free : key ∉ effect.keys) (other : World) : Agree key other (effect.write other) := by
  cases asked with
  | findUser | findUserByEmail | findLiveSessions | findActionToken | findIdentity | bcrypt
  | randomBytes | clock =>
      cases executed
      exact agree_refl _ _
  | createUser email password fullName isEmailVerified =>
      obtain ⟨-, executed⟩ := ok_of_unless executed
      cases executed
      refine agree_users rfl rfl rfl ?_ ?_
      · rintro id rfl
        have apart : id ≠ world.users.freshKey choice := by
          rintro rfl
          exact free (by simp)
        exact ⟨(Table.find_insertUnless_of_ne apart).symm, rfl⟩
      · rintro address rfl
        refine (Table.keysOf_insertUnless ?_).symm
        by_contra same
        refine free ?_
        simp only [decide_eq_false_iff_not, not_not] at same
        simp [same]
  | changePassword | markEmailVerified =>
      obtain ⟨-, executed⟩ := ok_of_unless executed
      cases executed
      exact agree_changeUser free rfl rfl rfl rfl fun _ _ => rfl
  | setRefreshToken id tokenHash payload token exchanged =>
      obtain ⟨-, executed⟩ := ok_of_unless executed
      cases executed
      refine agree_changeUser free rfl rfl rfl rfl fun userId apart => ?_
      cases exchanged with
      | none => simp [World.changeUser]
      | some presented => simp [World.changeUser, apart.symm]
  | clearRefreshToken =>
      simp only [exec] at executed
      split at executed
      · cases executed
        exact agree_refl _ _
      · cases executed
        exact agree_changeUser free rfl rfl rfl rfl fun _ _ => rfl
  | createSession userId tokenHash token expiresAt =>
      obtain ⟨-, executed⟩ := ok_of_unless executed
      obtain ⟨-, executed⟩ := ok_of_unless executed
      cases executed
      refine agree_sessions rfl rfl rfl rfl ?_
      rintro id rfl
      have apart : id ≠ world.sessions.freshKey choice := by
        rintro rfl
        exact free (by simp)
      exact (Table.find_insertUnless_of_ne apart).symm
  | revokeSession id now =>
      obtain ⟨-, executed⟩ := ok_of_unless executed
      cases executed
      refine agree_sessions rfl rfl rfl rfl ?_
      rintro other rfl
      have apart : other ∉ [id] := fun member => free (by simpa using member)
      exact (World.find_revoke_of_notMem apart).symm
  | revokeSessions userId now =>
      cases executed
      refine agree_sessions rfl rfl rfl rfl ?_
      rintro id rfl
      exact (World.find_revoke_of_notMem fun member => free (List.mem_map_of_mem member)).symm
  | deleteSessions userId actionToken =>
      cases executed
      refine agree_sessions rfl rfl rfl rfl ?_
      rintro id rfl
      exact
        (World.find_dropSessions_of_notMem fun member => free (List.mem_map_of_mem member)).symm
  | invalidateActionTokens userId type now =>
      cases executed
      exact agree_consume (fun member => free (List.mem_cons_of_mem _ member)) rfl rfl rfl rfl rfl
  | createActionToken token =>
      obtain ⟨-, executed⟩ := ok_of_unless executed
      obtain ⟨-, executed⟩ := ok_of_unless executed
      cases executed
      exact agree_addActionToken free
  | consumeActionToken tokenHash type now =>
      simp only [exec] at executed
      split at executed
      · cases executed
        exact agree_consume (by simpa using free) rfl rfl rfl rfl rfl
      · cases executed
        exact agree_refl _ _
  | createIdentity userId provider providerSubject =>
      obtain ⟨-, executed⟩ := ok_of_unless executed
      obtain ⟨-, executed⟩ := ok_of_unless executed
      cases executed
      exact agree_addIdentity free
  | verifyJwt payload token =>
      obtain ⟨-, executed⟩ := ok_of_unless executed
      cases executed
      exact agree_of_same rfl rfl rfl rfl rfl
  | letThrough token =>
      cases executed
      exact agree_of_same rfl rfl rfl rfl rfl

/-- The accounts as a store. -/
def store : Store accounts World Key where
  exec := exec
  Agree := Agree
  agree_refl := agree_refl
  agree_trans := agree_trans
  framed := framed
  aborted := .transactionAborted
  databaseFailure := .databaseFailure

end MarketMind.Auth
