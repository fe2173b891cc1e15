import MarketMind.Json

/-!
Owns the texts of refresh tokens and what bcrypt sees of them: the tokens of one user differ only
behind the bytes that are compared.

Does not own which tokens are live. Left out are the access tokens, which nothing stores.
-/

namespace MarketMind.Auth

/-- A row identifier. -/
abbrev Uuid := Nat

/-- Milliseconds since the epoch. -/
abbrev Instant := Int

/-- The bytes of a text. -/
abbrev Bytes := List Nat

inductive Role
  | owner
  | admin
  | developerDemo
deriving DecidableEq, Repr

def Role.text : Role → String
  | owner => "OWNER"
  | admin => "ADMIN"
  | developerDemo => "DEVELOPER_DEMO"

/-- What the service calls that is not its own. -/
structure Surroundings where
  /-- An identifier as it is written. -/
  uuidBytes : Uuid → Bytes
  uuidLength : ∀ id, (uuidBytes id).length = 36
  /-- The HMAC under `jwt.refreshSecret`. -/
  sign : Bytes → Bytes
  /-- `hashToken` of a raw action token. -/
  hashToken : Nat → Nat
  /-- `jwt.refreshExpiresIn` -/
  refreshExpiresInMs : Int

/-! ### JSON web tokens -/

def utf8 (text : String) : Bytes := text.toUTF8.data.toList.map UInt8.toNat

/-- A digit of base 64 as it is written in URLs. -/
def base64Digit (digit : Nat) : Nat :=
  if digit < 26 then 65 + digit
  else if digit < 52 then 97 + (digit - 26)
  else if digit < 62 then 48 + (digit - 52)
  else if digit = 62 then 45
  else 95

/-- `base64url`, without padding. -/
def base64url : Bytes → Bytes
  | first :: second :: third :: rest =>
      base64Digit (first / 4) :: base64Digit (first % 4 * 16 + second / 16) ::
        base64Digit (second % 16 * 4 + third / 64) :: base64Digit (third % 64) :: base64url rest
  | [first, second] =>
      [base64Digit (first / 4), base64Digit (first % 4 * 16 + second / 16),
        base64Digit (second % 16 * 4)]
  | [first] => [base64Digit (first / 4), base64Digit (first % 4 * 16)]
  | [] => []

/-- `JwtPayload`, with the times that `signAsync` adds, in seconds. -/
structure JwtPayload where
  sub : Uuid
  email : String
  roles : List Role
  iat : Int
  exp : Int
deriving DecidableEq, Repr

def jwtHeader : Bytes := utf8 "\x7b\"alg\":\"HS256\",\"typ\":\"JWT\"\x7d"

/-- `JSON.stringify` of the payload. -/
def JwtPayload.bytes (around : Surroundings) (payload : JwtPayload) : Bytes :=
  utf8 "\x7b\"sub\":\"" ++ around.uuidBytes payload.sub ++
    utf8 ("\",\"email\":" ++ Json.quote payload.email ++ ",\"roles\":[" ++
      ",".intercalate (payload.roles.map fun role => Json.quote role.text) ++ "],\"iat\":" ++
      toString payload.iat ++ ",\"exp\":" ++ toString payload.exp ++ "\x7d")

/-- The refresh token with this payload. -/
def refreshToken (around : Surroundings) (payload : JwtPayload) : Bytes :=
  let signed := base64url jwtHeader ++ utf8 "." ++ base64url (payload.bytes around)
  signed ++ utf8 "." ++ base64url (around.sign signed)

/-! ### bcrypt -/

/-- How many bytes of its input bcrypt sees. -/
def bcryptLimit : Nat := 72

/-- A digest with its salt; the digest stands for what it was made of. -/
structure BcryptHash where
  salt : Nat
  seen : Bytes
deriving DecidableEq, Repr

/-- `bcrypt.hash` -/
def bcryptHash (salt : Nat) (data : Bytes) : BcryptHash := ⟨salt, data.take bcryptLimit⟩

/-- `bcrypt.compare` -/
def bcryptCompare (data : Bytes) (encrypted : BcryptHash) : Bool :=
  data.take bcryptLimit = encrypted.seen

/-! ### What bcrypt sees of a token -/

theorem length_base64url (groups : Nat) (bytes : Bytes) (whole : bytes.length = 3 * groups) :
    (base64url bytes).length = 4 * groups := by
  induction groups generalizing bytes with
  | zero =>
      rw [List.length_eq_zero_iff.mp whole]
      rfl
  | succ groups inductionHypothesis =>
      match bytes with
      | first :: second :: third :: rest =>
          have shorter : rest.length = 3 * groups := by
            simp only [List.length_cons] at whole
            omega
          simp only [base64url, List.length_cons, inductionHypothesis rest shorter]
          omega
      | [] | [_] | [_, _] =>
          simp only [List.length_nil, List.length_cons] at whole
          omega

/-- Whole groups are written before what follows them. -/
theorem base64url_append (groups : Nat) (bytes rest : Bytes) (whole : bytes.length = 3 * groups) :
    base64url (bytes ++ rest) = base64url bytes ++ base64url rest := by
  induction groups generalizing bytes with
  | zero =>
      rw [List.length_eq_zero_iff.mp whole]
      rfl
  | succ groups inductionHypothesis =>
      match bytes with
      | first :: second :: third :: more =>
          have shorter : more.length = 3 * groups := by
            simp only [List.length_cons] at whole
            omega
          simp only [List.cons_append, base64url, inductionHypothesis more shorter]
      | [] | [_] | [_, _] =>
          simp only [List.length_nil, List.length_cons] at whole
          omega

/-- What bcrypt sees of a refresh token: the header and the first nineteen characters of its
user's identifier. -/
def seenOfUser (around : Surroundings) (sub : Uuid) : Bytes :=
  (base64url jwtHeader ++ utf8 "." ++
    base64url (utf8 "\x7b\"sub\":\"" ++ (around.uuidBytes sub).take 19)).take bcryptLimit

/-- bcrypt sees nothing of a refresh token but whose it is. -/
theorem take_refreshToken (around : Surroundings) (payload : JwtPayload) :
    (refreshToken around payload).take bcryptLimit = seenOfUser around payload.sub := by
  have known : (utf8 "\x7b\"sub\":\"" ++ (around.uuidBytes payload.sub).take 19).length = 3 * 9 := by
    have prefixLength : (utf8 "\x7b\"sub\":\"").length = 8 := by decide +kernel
    rw [List.length_append, prefixLength, List.length_take, around.uuidLength]
    rfl
  have splits : payload.bytes around =
      (utf8 "\x7b\"sub\":\"" ++ (around.uuidBytes payload.sub).take 19) ++
        ((around.uuidBytes payload.sub).drop 19 ++
          utf8 ("\",\"email\":" ++ Json.quote payload.email ++ ",\"roles\":[" ++
            ",".intercalate (payload.roles.map fun role => Json.quote role.text) ++ "],\"iat\":" ++
            toString payload.iat ++ ",\"exp\":" ++ toString payload.exp ++ "\x7d")) := by
    unfold JwtPayload.bytes
    rw [List.append_assoc, List.append_assoc, ← List.append_assoc (List.take 19 _),
      List.take_append_drop]
  have headLength : (base64url jwtHeader ++ utf8 ".").length = 37 := by decide +kernel
  have enough : bcryptLimit ≤ (base64url jwtHeader ++ utf8 "." ++
      base64url (utf8 "\x7b\"sub\":\"" ++ (around.uuidBytes payload.sub).take 19)).length := by
    rw [List.length_append, headLength, length_base64url 9 _ known]
    decide
  obtain ⟨rest, begins⟩ : base64url jwtHeader ++ utf8 "." ++
      base64url (utf8 "\x7b\"sub\":\"" ++ (around.uuidBytes payload.sub).take 19) <+:
        refreshToken around payload := by
    unfold refreshToken
    dsimp only
    rw [splits, base64url_append 9 _ _ known]
    exact ((List.prefix_append_right_inj _).mpr (List.prefix_append _ _)).trans
      ((List.prefix_append _ _).trans (List.prefix_append _ _))
  unfold seenOfUser
  rw [← begins, List.take_append_of_le_length enough]

end MarketMind.Auth
