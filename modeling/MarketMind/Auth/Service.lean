import MarketMind.Auth.Store

/-!
Owns the requests of the account services: sign-in by password and by Google, the exchange of a
refresh token, logout, and the one-time action tokens.

Does not own what holds of their runs. Left out are the access tokens, the mails and the audit of
a session's client.
-/

namespace MarketMind.Auth

open MarketMind.Transactions

/-- Execute one statement of the account services. -/
abbrev ask (asked : Statement) : Program accounts asked.Reply := @Program.ask accounts asked

/-- `Promise.all` of two, which go on though the other has failed. Which one goes first is not
determined. -/
def promiseAll {α β : Type} (leftFirst : Bool) (left : Program accounts α)
    (right : Program accounts β) : Program accounts (α × β) :=
  let both (leftOutcome : Except AuthError α) (rightOutcome : Except AuthError β) :
      Program accounts (α × β) :=
    match leftOutcome, rightOutcome with
    | .ok first, .ok second => .done (.ok (first, second))
    | .error error, .ok _ | .ok _, .error error => .done (.error error)
    | .error leftError, .error rightError =>
        .done (.error (if leftFirst then leftError else rightError))
  if leftFirst then
    left.andThen fun leftOutcome => right.andThen fun rightOutcome => both leftOutcome rightOutcome
  else
    right.andThen fun rightOutcome => left.andThen fun leftOutcome => both leftOutcome rightOutcome

section

variable (around : Surroundings)

/-! ### AuthService -/

def generateTokens (userId : Uuid) (email : String) (roles : List Role) :
    Program accounts (JwtPayload × Bytes) := do
  let now ← ask .clock
  let iat := now / 1000
  let payload : JwtPayload := ⟨userId, email, roles, iat, iat + around.refreshExpiresInMs / 1000⟩
  return (payload, refreshToken around payload)

def persistRefreshSession (userId : Uuid) (payload : JwtPayload) (rawRefreshToken : Bytes)
    (previousSessionId : Option Uuid) (exchanged : Option Bytes) : Program accounts Unit := do
  let tokenHash ← ask (.bcrypt rawRefreshToken)
  let now ← ask .clock
  Program.transaction do
    ask (.setRefreshToken userId tokenHash payload rawRefreshToken exchanged)
    ask (.createSession userId tokenHash rawRefreshToken (now + around.refreshExpiresInMs))
    match previousSessionId with
    | none => pure ()
    | some previousSessionId => ask (.revokeSession previousSessionId now)

def issueTokensForUser (user : User) : Program accounts Unit := do
  let (payload, rawRefreshToken) ← generateTokens around user.id user.email user.roles
  persistRefreshSession around user.id payload rawRefreshToken none none

def login (email : String) (password : Bytes) : Program accounts Unit := do
  let user ← ask (.findUserByEmail email)
  match user with
  | none => throw (.unauthorized none "Invalid credentials" none)
  | some user =>
      if !bcryptCompare password user.password then
        throw (.unauthorized none "Invalid credentials" none)
      else if !user.isEmailVerified then
        throw (.unauthorized "EMAIL_NOT_VERIFIED" "Please verify your email before logging in" none)
      else
        match user.status with
        | .suspended =>
            throw (.unauthorized "ACCOUNT_SUSPENDED"
              "Your account is suspended. Contact support if you believe this is a mistake"
              user.suspensionReason)
        | .disabled =>
            throw (.unauthorized "ACCOUNT_DISABLED"
              "Your account is disabled. Contact support if you need help" none)
        | .active => issueTokensForUser around user

/-! ### JwtRefreshStrategy -/

/-- `AuthenticatedUser` -/
structure AuthenticatedUser where
  id : Uuid
  email : String
  roles : List Role
  refreshSessionId : Option Uuid
deriving DecidableEq, Repr

def accessDenied : AuthError := .unauthorized none "Access denied" none

/-- The user who is let in with the token, from the user's row and live sessions. -/
def authenticate (rawRefreshToken : Bytes) (user : Option User) (sessions : List RefreshSession) :
    Except AuthError AuthenticatedUser :=
  match user with
  | none => .error accessDenied
  | some user =>
      if user.status ≠ .active then .error accessDenied
      else
        match sessions.find? fun session => bcryptCompare rawRefreshToken session.tokenHash with
        | some session => .ok ⟨user.id, user.email, user.roles, some session.id⟩
        | none =>
            -- Legacy tokens stay valid until the next login creates a session.
            if user.refreshToken.any (bcryptCompare rawRefreshToken) then
              .ok ⟨user.id, user.email, user.roles, none⟩
            else .error accessDenied

/-- `validate` -/
def validate (payload : JwtPayload) (rawRefreshToken : Bytes) (userFirst : Bool) :
    Program accounts AuthenticatedUser := do
  let now ← ask .clock
  let (user, sessions) ← promiseAll userFirst (ask (.findUser payload.sub))
    (ask (.findLiveSessions payload.sub now))
  Program.done (authenticate rawRefreshToken user sessions)

/-- The route of a refresh, behind its guard. -/
def refresh (payload : JwtPayload) (rawRefreshToken : Bytes) (userFirst : Bool) :
    Program accounts Unit := do
  ask (.verifyJwt payload rawRefreshToken)
  let user ← validate payload rawRefreshToken userFirst
  ask (.letThrough rawRefreshToken)
  let (next, rawNext) ← generateTokens around user.id user.email user.roles
  persistRefreshSession around user.id next rawNext user.refreshSessionId rawRefreshToken

def logout (userId : Uuid) (userFirst : Bool) : Program accounts Unit := do
  let revokedAt ← ask .clock
  let _ ← promiseAll userFirst (ask (.clearRefreshToken userId))
    (ask (.revokeSessions userId revokedAt))

/-! ### ActionTokenService -/

/-- `EXPIRY_MS` -/
def expiryMs : ActionTokenType → Int
  | .passwordReset => 30 * 60 * 1000
  | .emailVerification => 12 * 60 * 60 * 1000

def issue (userId : Uuid) (type : ActionTokenType) : Program accounts Unit := do
  let rawToken ← ask .randomBytes
  let now ← ask .clock
  let expiresAt := now + expiryMs type
  Program.transaction do
    let now ← ask .clock
    ask (.invalidateActionTokens userId type now)
    ask (.createActionToken ⟨around.hashToken rawToken, userId, type, expiresAt, none⟩)

def consume (rawToken : Nat) (type : ActionTokenType) : Program accounts Uuid := do
  let tokenHash := around.hashToken rawToken
  let now ← ask .clock
  let count ← ask (.consumeActionToken tokenHash type now)
  if count = 1 then
    let token ← ask (.findActionToken tokenHash)
    match token with
    | none => throw .typeError
    | some token => return token.userId
  else
    let token ← ask (.findActionToken tokenHash)
    match token with
    | none => throw (.actionToken "ACTION_TOKEN_INVALID" "Token not found")
    | some token =>
        if token.type ≠ type then
          throw (.actionToken "ACTION_TOKEN_INVALID" "Token type mismatch")
        else if token.consumedAt.isSome then
          throw (.actionToken "ACTION_TOKEN_CONSUMED" "Token has already been used")
        else if token.expiresAt ≤ now then
          throw (.actionToken "ACTION_TOKEN_EXPIRED" "Token has expired")
        else throw (.actionToken "ACTION_TOKEN_INVALID" "Token not found")

/-- An error of an action token as the client sees it. -/
def AuthError.unprocessed : AuthError → AuthError
  | .actionToken code message => .unprocessable code message
  | other => other

def consumeForClient (rawToken : Nat) (type : ActionTokenType) : Program accounts Uuid :=
  tryCatch (consume around rawToken type) fun error => throw error.unprocessed

def resetPassword (rawToken : Nat) (newPassword : Bytes) : Program accounts Unit := do
  let userId ← consumeForClient around rawToken .passwordReset
  let hashedPassword ← ask (.bcrypt newPassword)
  Program.transaction do
    ask (.changePassword userId hashedPassword)
    ask (.deleteSessions userId (around.hashToken rawToken))

def verifyEmail (rawToken : Nat) : Program accounts Unit := do
  let userId ← consumeForClient around rawToken .emailVerification
  ask (.markEmailVerified userId (around.hashToken rawToken))

/-! ### FederatedIdentityService and OAuthAccountPolicyService -/

/-- `GoogleProfile` -/
structure GoogleProfile where
  providerSubject : String
  email : String
  emailVerified : Bool
  displayName : Option String
deriving DecidableEq, Repr

def findByProvider (provider providerSubject : String) :
    Program accounts (Option FederatedIdentity) :=
  ask (.findIdentity provider providerSubject)

def findOrCreate (userId : Uuid) (provider providerSubject : String) :
    Program accounts FederatedIdentity := do
  let existing ← ask (.findIdentity provider providerSubject)
  match existing with
  | some existing =>
      if existing.userId ≠ userId then throw .federatedIdentityConflict else return existing
  | none =>
      tryCatch (ask (.createIdentity userId provider providerSubject)) fun error =>
        match error with
        | .uniqueViolation => throw .federatedIdentityConflict
        | other => throw other

def issueResult (user : User) : Program accounts Unit :=
  match user.status with
  | .suspended =>
      throw (.oauth "OAUTH_ACCOUNT_SUSPENDED"
        "Your account is suspended. Contact support if you believe this is a mistake"
        user.suspensionReason)
  | .disabled =>
      throw (.oauth "OAUTH_ACCOUNT_DISABLED"
        "Your account is disabled. Contact support if you believe this is a mistake" none)
  | .active => issueTokensForUser around user

/-- The 64 hexadecimal digits of 32 bytes. -/
def hexDigits (raw : Nat) : Bytes :=
  utf8 (String.ofList ((Nat.toDigits 16 raw).leftpad 64 '0'))

def raceResult (profile : GoogleProfile) (error : AuthError) : Program accounts Unit := do
  if error = .federatedIdentityConflict then
    let raceIdentity ← findByProvider "google" profile.providerSubject
    match raceIdentity with
    | none => throw error
    | some raceIdentity =>
        let raceUser ← ask (.findUser raceIdentity.userId)
        match raceUser with
        | none => throw error
        | some raceUser => issueResult around raceUser
  else throw error

/-- What follows the creation of a user. A conflict is handled outside of the `try`, whose value
says whether it came up. -/
def linkNewUser (profile : GoogleProfile) (newUser : User) : Program accounts Unit := do
  let linked ← tryCatch (do
      let _ ← findOrCreate newUser.id "google" profile.providerSubject
      return none)
    fun error => return some error
  match linked with
  | some error => raceResult around profile error
  | none => issueResult around newUser

def signInWithGoogle (profile : GoogleProfile) : Program accounts Unit := do
  let existingIdentity ← findByProvider "google" profile.providerSubject
  match existingIdentity with
  | some existingIdentity =>
      let user ← ask (.findUser existingIdentity.userId)
      match user with
      | none => throw (.oauth "OAUTH_PROVIDER_ERROR" "Linked account not found" none)
      | some user => issueResult around user
  | none =>
      let existingUser ← ask (.findUserByEmail profile.email)
      if existingUser.isSome then
        throw (.oauth "OAUTH_EMAIL_ALREADY_USED_PASSWORD"
          "An account with this email already exists. Please sign in with your password." none)
      else
        let raw ← ask .randomBytes
        let password ← ask (.bcrypt (hexDigits raw))
        let newUser ← ask
          (.createUser profile.email password profile.displayName profile.emailVerified)
        linkNewUser around profile newUser

end

/-! ### Requests -/

inductive Call
  | login (email : String) (password : Bytes)
  | refresh (payload : JwtPayload) (token : Bytes) (userFirst : Bool)
  | logout (userId : Uuid) (userFirst : Bool)
  | issue (userId : Uuid) (type : ActionTokenType)
  | resetPassword (rawToken : Nat) (newPassword : Bytes)
  | verifyEmail (rawToken : Nat)
  | signInWithGoogle (profile : GoogleProfile)
deriving DecidableEq, Repr

def Call.program (around : Surroundings) : Call → Program accounts Unit
  | login email password => Auth.login around email password
  | refresh payload token userFirst => Auth.refresh around payload token userFirst
  | logout userId userFirst => Auth.logout userId userFirst
  | issue userId type => Auth.issue around userId type
  | resetPassword rawToken newPassword => Auth.resetPassword around rawToken newPassword
  | verifyEmail rawToken => Auth.verifyEmail around rawToken
  | signInWithGoogle profile => Auth.signInWithGoogle around profile

/-- Signatures are not forged: who presents a refresh token was issued it. -/
def Call.enabled : Call → World → Bool
  | refresh payload token _, world =>
      world.issued.any fun issued => issued.payload = payload && issued.token = token
  | _, _ => true

/-- The account services over their database. -/
def system (around : Surroundings) : System accounts World Key Call where
  toStore := store
  program := Call.program around
  enabled := Call.enabled

def plainUser : User where
  id := 3
  email := "owner@example.com"
  password := ⟨0, []⟩
  fullName := none
  roles := [.owner]
  isEmailVerified := true
  refreshToken := none
  status := .active
  suspensionReason := none

def plainWorld : World := { World.empty with users := World.empty.users.insert plainUser }

/-- Identifiers without digits of their own, and signatures that are what they sign. -/
def plainSurroundings : Surroundings where
  uuidBytes _ := List.replicate 36 48
  uuidLength _ := rfl
  sign := id
  hashToken := id
  refreshExpiresInMs := 7 * 24 * 60 * 60 * 1000

end MarketMind.Auth
