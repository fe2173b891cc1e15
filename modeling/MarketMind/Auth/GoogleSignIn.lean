import MarketMind.Auth.Service

/-!
Owns what concurrent sign-ins with one Google profile come to: one linked user, in whose name every
completed request signs in.

Does not own sign-ins with other profiles. A user is created before it is linked, under its own
unique e-mail, so a request that has found no identity must not overlap with the one that creates
the user, and that one must not fail before the link.
-/

namespace MarketMind.Auth.GoogleSignIn

open MarketMind.Transactions

variable {around : Surroundings} {profile : GoogleProfile} {world after : World} {pid : Pid}

/-! ### Runs -/

/-- An identity of the profile. -/
abbrev isOf (profile : GoogleProfile) (identity : FederatedIdentity) : Bool :=
  identity.isOf "google" profile.providerSubject

/-- The user is linked to the profile. -/
def Linked (profile : GoogleProfile) (userId : Uuid) (world : World) : Prop :=
  ∃ identity ∈ world.identities.rows, isOf profile identity = true ∧ identity.userId = userId

/-- The users that the request has created are linked. -/
def Settled (profile : GoogleProfile) (pid : Pid) (world : World) : Prop :=
  ∀ creation ∈ world.creations, creation.pid = pid → Linked profile creation.userId world

/-- Who looks for the profile's e-mail, or claims it, finds it free; digests do not collide. -/
def admits (profile : GoogleProfile) (asked : Statement) (world : World) : Bool :=
  match asked with
  | .findUserByEmail _ | .createUser _ _ _ _ => world.users.rows.all (·.email ≠ profile.email)
  | .createSession _ tokenHash _ _ => world.sessions.rows.all (·.tokenHash ≠ tokenHash)
  | _ => true

/-- Sign-ins with the profile that neither overlap before the link nor fail there. -/
def terms (profile : GoogleProfile) : Terms accounts World Call where
  issues call _ := call = .signInWithGoogle profile
  admits _ _ asked world := admits profile asked world = true
  spares pid _ world := ¬ Settled profile pid world

/-- All sign-ins with the profile. -/
def anyTerms (profile : GoogleProfile) : Terms accounts World Call where
  issues call _ := call = .signInWithGoogle profile
  admits _ _ _ _ := True
  spares _ _ _ := False

/-- The failures that the store itself may bring about. -/
def isFault (error : AuthError) : Prop := error = .databaseFailure ∨ error = .transactionAborted

/-- A machine whose sign-ins converge. -/
structure Converged (profile : GoogleProfile) (machine : Machine accounts World Key Call) :
    Prop where
  /-- One local user is linked to the profile. -/
  linkedOnce : ∀ first second, Linked profile first machine.world →
    Linked profile second machine.world → first = second
  isUser : ∀ userId, Linked profile userId machine.world →
    ∃ user, machine.world.users.find userId = some user ∧ user.email = profile.email
  /-- No user is left behind: where nobody is linked, nobody has the e-mail. -/
  noOrphan : ∀ user ∈ machine.world.users.rows, user.email = profile.email →
    Linked profile user.id machine.world ∨
      ∃ pid call session rest, machine.threads pid = some ⟨call, session, rest⟩ ∧
        (∀ outcome, rest ≠ .done outcome) ∧ ⟨pid, user.id⟩ ∈ machine.world.creations
  signsIn : ∀ pid call session, machine.threads pid = some ⟨call, session, .done (.ok ())⟩ →
    ∃ issued ∈ machine.world.issued, issued.pid = pid ∧
      Linked profile issued.payload.sub machine.world
  fails : ∀ pid call session error,
    machine.threads pid = some ⟨call, session, .done (.error error)⟩ → isFault error

/-! ### The invariant -/

structure Sound (profile : GoogleProfile) (world : World) : Prop where
  one : ∀ first ∈ world.creations, ∀ second ∈ world.creations, first = second
  created : ∀ creation ∈ world.creations, ∃ user,
    world.users.find creation.userId = some user ∧ user.email = profile.email ∧
      user.status = .active
  locked : ∀ user ∈ world.users.rows, user.email = profile.email →
    ∃ creation ∈ world.creations, creation.userId = user.id
  linked : ∀ identity ∈ world.identities.rows, isOf profile identity = true →
    ∃ creation ∈ world.creations, creation.userId = identity.userId

/-- Of the steps of the others a request relies on this. -/
structure Rely (pid : Pid) (before after : World) : Prop where
  users : ∀ id user, before.users.find id = some user → ∃ later,
    after.users.find id = some later ∧ later.email = user.email ∧ later.status = user.status
  creations : ∀ id, ⟨pid, id⟩ ∈ after.creations ↔ ⟨pid, id⟩ ∈ before.creations
  identities : before.identities.rows ⊆ after.identities.rows
  /-- Whoever has created the user is the only one to link it. -/
  linking : ∀ id, ⟨pid, id⟩ ∈ before.creations → after.identities = before.identities
  issued : before.issued ⊆ after.issued

theorem Rely.refl (world : World) : Rely pid world world where
  users _ user known := ⟨user, known, rfl, rfl⟩
  creations _ := Iff.rfl
  identities := List.Subset.refl _
  linking _ _ := rfl
  issued := List.Subset.refl _

theorem Rely.trans {first second third : World} (left : Rely pid first second)
    (right : Rely pid second third) : Rely pid first third where
  users id user known := by
    obtain ⟨middle, found, sameEmail, sameStatus⟩ := left.users id user known
    obtain ⟨later, foundLater, sameEmailLater, sameStatusLater⟩ := right.users id middle found
    exact ⟨later, foundLater, sameEmailLater.trans sameEmail, sameStatusLater.trans sameStatus⟩
  creations id := (right.creations id).trans (left.creations id)
  identities := List.Subset.trans left.identities right.identities
  linking id created :=
    (right.linking id ((left.creations id).mpr created)).trans (left.linking id created)
  issued := List.Subset.trans left.issued right.issued

theorem Linked.later {userId : Uuid} (linked : Linked profile userId world)
    (identities : world.identities.rows ⊆ after.identities.rows) :
    Linked profile userId after := by
  obtain ⟨identity, member, isOf, same⟩ := linked
  exact ⟨identity, identities member, isOf, same⟩

theorem Settled.later (settled : Settled profile pid world) (rely : Rely pid world after) :
    Settled profile pid after := by
  rintro ⟨other, userId⟩ member rfl
  exact (settled _ ((rely.creations userId).mp member) rfl).later rely.identities

/-- What a request owes when it has ended. -/
def ends (profile : GoogleProfile) (pid : Pid) (outcome : Except AuthError Unit) (world : World) :
    Prop :=
  Settled profile pid world ∧
    match outcome with
    | .ok _ => ∃ issued ∈ world.issued, issued.pid = pid ∧
        Linked profile issued.payload.sub world
    | .error error => isFault error

/-- What sign-ins with the profile are held to. -/
def contract (around : Surroundings) (profile : GoogleProfile) : Contract (system around) where
  terms := terms profile
  invariant := Sound profile
  rely := Rely
  rely_refl _ world := .refl world
  rely_trans _ _ _ _ left right := left.trans right
  fresh pid world := ∀ creation ∈ world.creations, creation.pid ≠ pid
  fresh_of_rely := by
    rintro pid before after rely fresh ⟨other, userId⟩ member rfl
    exact fresh _ ((rely.creations userId).mp member) rfl
  post pid _ outcome world := ends profile pid outcome world

/-- A request may fail by a fault where what it created is linked. -/
theorem excuse {call : Call} : (contract around profile).Excuse pid call
    fun error world => isFault error ∧ Settled profile pid world where
  lasts rely := fun ⟨isFault, settled⟩ => ⟨isFault, settled.later rely⟩
  meets _ _ := fun ⟨isFault, settled⟩ => ⟨settled, isFault⟩

/-! ### What the writes leave -/

/-- A refresh token is issued. -/
structure SignsIn (pid : Pid) (id : Uuid) (tokenHash : BcryptHash) (payload : JwtPayload)
    (token : Bytes) (before after : World) : Prop where
  users : after.users = (before.changeUser id
    { apply := fun user => { user with refreshToken := some tokenHash } }).users
  identities : after.identities = before.identities
  creations : after.creations = before.creations
  issued : after.issued = before.issued ++ [⟨pid, payload, token⟩]

section SignsIn

variable {id : Uuid} {tokenHash : BcryptHash} {payload : JwtPayload} {token : Bytes}

theorem SignsIn.find (signsIn : SignsIn pid id tokenHash payload token world after) {other : Uuid}
    {user : User} (known : world.users.find other = some user) : ∃ later,
      after.users.find other = some later ∧ later.email = user.email ∧
        later.status = user.status := by
  rw [signsIn.users, World.find_changeUser, known]
  refine ⟨_, rfl, ?_⟩
  dsimp only
  split <;> exact ⟨rfl, rfl⟩

theorem SignsIn.sound (signsIn : SignsIn pid id tokenHash payload token world after)
    (sound : Sound profile world) : Sound profile after where
  one := by
    rw [signsIn.creations]
    exact sound.one
  created := by
    rw [signsIn.creations]
    intro creation member
    obtain ⟨user, known, sameEmail, isActive⟩ := sound.created creation member
    obtain ⟨later, found, sameEmailLater, sameStatus⟩ := signsIn.find known
    exact ⟨later, found, sameEmailLater.trans sameEmail, sameStatus.trans isActive⟩
  locked := by
    intro user member sameEmail
    have found := Table.find_of_mem member
    rw [signsIn.users, World.find_changeUser] at found
    obtain ⟨old, known, rfl⟩ := Option.map_eq_some_iff.mp found
    obtain ⟨creation, isCreation, same⟩ := sound.locked old (Table.mem_of_find known)
      (by split at sameEmail <;> exact sameEmail)
    refine ⟨creation, signsIn.creations ▸ isCreation, same.trans ?_⟩
    split <;> rfl
  linked := by
    rw [signsIn.creations, signsIn.identities]
    exact sound.linked

theorem SignsIn.rely {other : Pid} (signsIn : SignsIn pid id tokenHash payload token world after) :
    Rely other world after where
  users _ _ known := signsIn.find known
  creations id := by rw [signsIn.creations]
  identities := by rw [signsIn.identities]; exact List.Subset.refl _
  linking _ _ := signsIn.identities
  issued := by rw [signsIn.issued]; exact List.subset_append_left _ _

end SignsIn

/-- A user is created. -/
def createdBy (pid : Pid) (user : User) (world : World) : World :=
  { world.addUser user with creations := world.creations ++ [⟨pid, user.id⟩] }

/-- Where the e-mail is free, nobody has been created. -/
theorem Sound.creations_of_free (sound : Sound profile world)
    (free : world.users.rows.all (·.email ≠ profile.email) = true) : world.creations = [] := by
  refine List.eq_nil_iff_forall_not_mem.mpr fun creation member => ?_
  obtain ⟨user, known, sameEmail, -⟩ := sound.created creation member
  have apart := List.all_eq_true.mp free user (Table.mem_of_find known)
  simp [sameEmail] at apart

theorem Sound.not_linked_of_free (sound : Sound profile world)
    (free : world.users.rows.all (·.email ≠ profile.email) = true) (userId : Uuid) :
    ¬ Linked profile userId world := by
  rintro ⟨identity, member, isOf, -⟩
  obtain ⟨creation, isCreation, -⟩ := sound.linked identity member isOf
  rw [sound.creations_of_free free] at isCreation
  exact absurd isCreation List.not_mem_nil

section Created

variable {user : User}

/-- The new user is found, and the others as they were. -/
theorem find_of_createdBy (fresh : world.users.find user.id = none)
    (free : world.users.rows.any (·.email = user.email) = false) :
    (createdBy pid user world).users.find user.id = some user := by
  refine (congrArg (Table.find · user.id) (Table.insertUnless_of_free free)).trans ?_
  exact Table.find_insert_self fresh

theorem Sound.createdBy (sound : Sound profile world)
    (free : world.users.rows.all (·.email ≠ profile.email) = true)
    (fresh : world.users.find user.id = none) (sameEmail : user.email = profile.email)
    (isActive : user.status = .active) : Sound profile (createdBy pid user world) where
  one := by
    intro first isFirst second isSecond
    simp only [GoogleSignIn.createdBy, sound.creations_of_free free, List.nil_append,
      List.mem_singleton] at isFirst isSecond
    exact isFirst.trans isSecond.symm
  created := by
    intro creation member
    simp only [GoogleSignIn.createdBy, sound.creations_of_free free, List.nil_append,
      List.mem_singleton] at member
    subst member
    refine ⟨user, find_of_createdBy fresh ?_, sameEmail, isActive⟩
    rw [sameEmail]
    simpa using free
  locked := by
    intro other member otherEmail
    rcases Table.mem_of_insertUnless member with old | rfl
    · have apart := List.all_eq_true.mp free other old
      simp [otherEmail] at apart
    · exact ⟨_, List.mem_append_right _ (List.mem_singleton_self _), rfl⟩
  linked := by
    intro identity member isOf
    exact absurd ⟨identity, member, isOf, rfl⟩ (sound.not_linked_of_free free identity.userId)

theorem Rely.createdBy {other : Pid} (distinct : other ≠ pid) :
    Rely other world (createdBy pid user world) where
  users _ old known := ⟨old, Table.find_insertUnless_of_found known, rfl, rfl⟩
  creations id := by
    refine ⟨fun member => ?_, List.mem_append_left _⟩
    rcases List.mem_append.mp member with old | new
    · exact old
    · cases List.mem_singleton.mp new
      exact absurd rfl distinct
  identities := List.Subset.refl _
  linking _ _ := rfl
  issued := List.Subset.refl _

end Created

section Linking

variable {identity : FederatedIdentity}

theorem mem_addIdentity (fresh : world.identities.find identity.id = none)
    (free : world.identities.rows.any (·.isOf identity.provider identity.providerSubject) = false) :
    (world.addIdentity identity).identities.rows = world.identities.rows ++ [identity] := by
  refine (congrArg Table.rows (Table.insertUnless_of_free free)).trans ?_
  exact Table.rows_insert fresh

theorem Sound.addIdentity (sound : Sound profile world)
    (isMine : ∃ creation ∈ world.creations, creation.userId = identity.userId) :
    Sound profile (world.addIdentity identity) where
  one := sound.one
  created := sound.created
  locked := sound.locked
  linked := by
    intro other member isOf
    rcases Table.mem_of_insertUnless member with old | rfl
    · exact sound.linked other old isOf
    · exact isMine

/-- Only one request has created the user that is linked. -/
theorem Rely.addIdentity {other : Pid} (sound : Sound profile world) (distinct : other ≠ pid)
    {userId : Uuid} (isMine : ⟨pid, userId⟩ ∈ world.creations)
    (fresh : world.identities.find identity.id = none)
    (free : world.identities.rows.any (·.isOf identity.provider identity.providerSubject) = false) :
    Rely other world (world.addIdentity identity) where
  users _ user known := ⟨user, known, rfl, rfl⟩
  creations _ := Iff.rfl
  identities := by
    rw [mem_addIdentity fresh free]
    exact List.subset_append_left _ _
  linking id isOthers := by
    cases sound.one _ isMine _ isOthers
    exact absurd rfl distinct
  issued := List.Subset.refl _

end Linking

/-! ### Requests keep the contract -/

section Requests

variable {call : Call}

/-- A statement that writes nothing, of a request that owes no link. -/
theorem wp_settled_read {α : Type} {asked : Statement} {keys : List Key}
    {reply : Nat → asked.Reply} {next : asked.Reply → Program accounts α}
    {Q : Except AuthError α → Option (Session World Key) → World → Prop}
    (reads : ∀ choice, exec pid choice asked world = .ok ⟨reply choice, fun world => world, keys⟩)
    (errors : ∀ error world, Sound profile world → isFault error ∧ Settled profile pid world →
      Q (.error error) none world)
    (sound : Sound profile world) (settled : Settled profile pid world)
    (goesOn : admits profile asked world = true → ∀ choice after, Sound profile after →
      Settled profile pid after → Rely pid world after →
        (contract around profile).wp pid call (next (reply choice)) Q none after) :
    (contract around profile).wp pid call (ask asked >>= next) Q none world := by
  refine Contract.wp_of_bind ?_
  refine Contract.wp_read reads excuse sound ?_ (fun _ => ⟨.inl rfl, settled⟩) ?_
  · exact errors
  intro admitted choice after calm soundAfter
  exact goesOn admitted choice after soundAfter (settled.later calm.rely) calm.rely

/-- The request's outcome where it fails by a fault. -/
theorem ends_of_excused (error : AuthError) (world : World) (_ : Sound profile world)
    (excused : isFault error ∧ Settled profile pid world) :
    (contract around profile).ends pid call (.error error) none world :=
  ⟨excused.2, excused.1⟩

section CreateSession

variable {choice : Nat} {userId : Uuid} {tokenHash : BcryptHash} {token : Bytes}
  {expiresAt : Instant}

/-- A session is created for a user who exists, under a digest that is not in use. -/
theorem createSession_of_user (isUser : (world.users.find userId).isSome)
    (isFree : world.sessions.rows.all (·.tokenHash ≠ tokenHash) = true) :
    exec pid choice (.createSession userId tokenHash token expiresAt) world =
      .ok ⟨(), (·.addSession ⟨world.sessions.freshKey choice, userId, tokenHash, token, expiresAt,
        none⟩), [.session (world.sessions.freshKey choice)]⟩ := by
  have unused : ¬ world.sessions.rows.any (·.tokenHash = tokenHash) = true := by
    simpa using isFree
  have known : ¬ (world.users.find userId).isNone = true := by
    rw [Option.isNone_iff_eq_none]
    exact Option.isSome_iff_ne_none.mp isUser
  simp only [exec]
  rw [if_neg known, if_neg unused]

theorem createSession_not_refused (pid : Pid) {error : AuthError}
    (executed : exec pid choice (.createSession userId tokenHash token expiresAt) world =
      .error error)
    (isFree : world.sessions.rows.all (·.tokenHash ≠ tokenHash) = true) :
    ¬ (world.users.find userId).isSome := by
  intro isUser
  rw [createSession_of_user isUser isFree] at executed
  cases executed

theorem effect_of_createSession (pid : Pid) {effect : Effect World Key Unit}
    (executed : exec pid choice (.createSession userId tokenHash token expiresAt) world =
      .ok effect) :
    ∃ session keys, effect = ⟨(), (·.addSession session), keys⟩ := by
  obtain ⟨-, executed⟩ := ok_of_unless executed
  obtain ⟨-, executed⟩ := ok_of_unless executed
  cases executed
  exact ⟨_, _, rfl⟩

end CreateSession

/-- A request that issues a token to the linked user keeps the contract to its end. -/
theorem SignsIn.completes {userId : Uuid} {tokenHash : BcryptHash} {payload : JwtPayload}
    {token : Bytes} (signsIn : SignsIn pid userId tokenHash payload token world after)
    (sameUser : payload.sub = userId) (sound : Sound profile world)
    (settled : Settled profile pid world) (linked : Linked profile userId world) :
    Sound profile after ∧ (contract around profile).Guarantees pid world after ∧
      (contract around profile).After pid none after
        ((contract around profile).ends pid call (.ok ()) none) := by
  refine ⟨signsIn.sound sound, fun _ _ => signsIn.rely, ?_⟩
  rintro last ⟨rely, -⟩ _
  have relied : Rely pid world after := signsIn.rely
  have linked := (linked.later relied.identities).later rely.identities
  refine ⟨(settled.later relied).later rely, ⟨pid, payload, token⟩, ?_, rfl, ?_⟩
  · refine rely.issued ?_
    rw [signsIn.issued]
    exact List.mem_append_right _ (List.mem_singleton_self _)
  · exact sameUser ▸ linked

theorem persistRefreshSession_keeps (userId : Uuid) (payload : JwtPayload) (token : Bytes)
    (sameUser : payload.sub = userId) (sound : Sound profile world)
    (settled : Settled profile pid world) (linked : Linked profile userId world)
    (isUser : ∃ row, world.users.find userId = some row) :
    (contract around profile).wp pid call
      (persistRefreshSession around userId payload token none none)
      ((contract around profile).ends pid call) none world := by
  unfold persistRefreshSession
  refine wp_settled_read (fun _ => rfl) ends_of_excused sound settled ?_
  intro _ salt world sound settled rely
  have linked := linked.later rely.identities
  obtain ⟨row, known⟩ := isUser
  obtain ⟨row, known, -⟩ := rely.users userId row known
  refine wp_settled_read (fun _ => rfl) ends_of_excused sound settled ?_
  intro _ now world sound settled rely
  have linked := linked.later rely.identities
  obtain ⟨row, known, -⟩ := rely.users userId row known
  refine Contract.wp_transaction excuse ends_of_excused (fun _ => ⟨.inl rfl, settled⟩) ?_
  rintro world ⟨rely, -⟩ sound
  have settled := settled.later rely
  have linked := linked.later rely.identities
  obtain ⟨row, known, -⟩ := rely.users userId row known
  have excused : ¬ (contract around profile).terms.spares pid call world →
      isFault .databaseFailure ∧ Settled profile pid world := fun _ => ⟨.inl rfl, settled⟩
  refine Contract.wp_of_bind (Contract.wp_ask_within excuse rfl ?_ excused ?_ ?_)
  · exact fun _ _ _ _ excused => ⟨fun _ => ⟨.inl rfl, excused.2⟩, excused⟩
  · rintro - choice error executed
    simp only [system, store, exec] at executed
    exact absurd (Option.isSome_iff_exists.mpr ⟨row, known⟩) (not_refused executed)
  rintro - choice effect executed world ⟨rely, -⟩ sound
  simp only [system, store, exec] at executed
  cases effect_of_updateUser executed (Option.isSome_iff_exists.mpr ⟨row, known⟩)
  have settled := settled.later rely
  have linked := linked.later rely.identities
  obtain ⟨row, known, -⟩ := rely.users userId row known
  have isUser : (world.users.find userId).isSome := Option.isSome_iff_exists.mpr ⟨row, known⟩
  refine Contract.wp_of_bind (Contract.wp_ask_within excuse rfl ?_
    (fun _ => ⟨.inl rfl, settled⟩) ?_ ?_)
  · exact fun _ _ _ _ excused => ⟨fun _ => ⟨.inl rfl, excused.2⟩, excused⟩
  · intro admitted choice error executed
    exact absurd (isSome_of_changeUser.trans isUser) (createSession_not_refused pid executed admitted)
  · rintro admitted choice effect executed world ⟨rely, -⟩ sound
    obtain ⟨session, keys, rfl⟩ := effect_of_createSession pid executed
    have settled := settled.later rely
    have linked := linked.later rely.identities
    refine ⟨fun _ => ⟨.inl rfl, settled⟩, _, rfl, rfl, ?_⟩
    exact SignsIn.completes ⟨rfl, rfl, rfl, rfl⟩ sameUser sound settled linked

/-- Tokens are issued for the linked user. -/
theorem issueTokensForUser_keeps (user : User) (sound : Sound profile world)
    (settled : Settled profile pid world) (linked : Linked profile user.id world)
    (isUser : ∃ row, world.users.find user.id = some row) :
    (contract around profile).wp pid call (issueTokensForUser around user)
      ((contract around profile).ends pid call) none world := by
  refine Contract.wp_of_bind (wp_settled_read (fun _ => rfl) ends_of_excused sound settled ?_)
  intro _ now world sound settled rely
  obtain ⟨row, known⟩ := isUser
  obtain ⟨row, known, -⟩ := rely.users user.id row known
  exact persistRefreshSession_keeps user.id _ _ rfl sound settled
    (linked.later rely.identities) ⟨row, known⟩

theorem issueResult_keeps (user : User) (isActive : user.status = .active)
    (sound : Sound profile world) (settled : Settled profile pid world)
    (linked : Linked profile user.id world) (isUser : ∃ row, world.users.find user.id = some row) :
    (contract around profile).wp pid call (issueResult around user)
      ((contract around profile).ends pid call) none world := by
  unfold issueResult
  rw [isActive]
  exact issueTokensForUser_keeps user sound settled linked isUser

/-- The request has created a user, who is not linked yet. -/
structure Creating (profile : GoogleProfile) (pid : Pid) (userId : Uuid) (world : World) :
    Prop where
  created : ⟨pid, userId⟩ ∈ world.creations
  unlinked : world.identities.rows.any (isOf profile) = false

theorem Creating.later {userId : Uuid} (creating : Creating profile pid userId world)
    (rely : Rely pid world after) : Creating profile pid userId after where
  created := (rely.creations userId).mpr creating.created
  unlinked := by
    rw [rely.linking userId creating.created]
    exact creating.unlinked

/-- Between the creation and the link requests are spared. -/
theorem Creating.excused {userId : Uuid} (creating : Creating profile pid userId world)
    (unspared : ¬ (contract around profile).terms.spares pid call world) :
    isFault .databaseFailure ∧ Settled profile pid world := by
  refine absurd ?_ unspared
  intro settled
  obtain ⟨identity, member, isOf, -⟩ := settled _ creating.created rfl
  have unlinked := creating.unlinked
  rw [List.any_eq_false] at unlinked
  exact unlinked identity member isOf

/-- No conflict is left to handle where a request fails by a fault. -/
theorem raceResult_keeps {error : AuthError} (sound : Sound profile world)
    (excused : isFault error ∧ Settled profile pid world) :
    (contract around profile).wp pid call (raceResult around profile error)
      ((contract around profile).ends pid call) none world := by
  have notConflict : error ≠ .federatedIdentityConflict := by
    rintro rfl
    rcases excused.1 with isFault | isFault <;> cases isFault
  unfold raceResult
  rw [if_neg notConflict]
  exact ends_of_excused error world sound excused

theorem createIdentity_not_refused (pid : Pid) {choice : Nat} {error : AuthError} {userId : Uuid}
    (executed : exec pid choice (.createIdentity userId "google" profile.providerSubject) world =
      .error error)
    (unlinked : world.identities.rows.any (isOf profile) = false) :
    ¬ (world.users.find userId).isSome := by
  intro isUser
  have known : ¬ (world.users.find userId).isNone = true := by
    rw [Option.isNone_iff_eq_none]
    exact Option.isSome_iff_ne_none.mp isUser
  simp only [exec] at executed
  rw [if_neg known, unlinked] at executed
  cases executed

theorem findOrCreate_keeps (userId : Uuid)
    {Q : Except AuthError FederatedIdentity → Option (Session World Key) → World → Prop}
    (errors : ∀ error world, Sound profile world → isFault error ∧ Settled profile pid world →
      Q (.error error) none world)
    (goesOn : ∀ identity world, Sound profile world → Settled profile pid world →
      Linked profile userId world → (∃ row, world.users.find userId = some row) →
        Q (.ok identity) none world)
    (sound : Sound profile world) (creating : Creating profile pid userId world)
    (isUser : ∃ row, world.users.find userId = some row) :
    (contract around profile).wp pid call
      (findOrCreate userId "google" profile.providerSubject) Q none world := by
  unfold findOrCreate
  refine Contract.wp_of_bind (Contract.wp_read (fun _ => rfl) excuse sound errors
    creating.excused ?_)
  rintro - - later ⟨rely, -⟩ sound
  have noIdentity : world.identities.rows.find? (isOf profile) = none := by
    rw [List.find?_eq_none]
    simpa using creating.unlinked
  rw [noIdentity]
  have creating := creating.later rely
  obtain ⟨row, known⟩ := isUser
  obtain ⟨row, known, -⟩ := rely.users userId row known
  refine Contract.wp_of_tryCatch (Contract.wp_ask excuse ?_ creating.excused ?_ ?_)
  · rintro error world sound excused
    rcases excused.1 with rfl | rfl <;> exact errors _ world sound excused
  · rintro - choice error executed
    exact absurd (Option.isSome_iff_exists.mpr ⟨row, known⟩)
      (createIdentity_not_refused pid executed creating.unlinked)
  · rintro - choice effect executed
    obtain ⟨-, executed⟩ := ok_of_unless executed
    obtain ⟨free, executed⟩ := ok_of_unless executed
    cases executed
    have fresh := later.identities.find_freshKey choice
    have isFree := (Bool.not_eq_true _).mp free
    refine ⟨sound.addIdentity ⟨_, creating.created, rfl⟩, fun other distinct =>
      .addIdentity sound distinct creating.created fresh isFree, ?_⟩
    rintro last ⟨rely, -⟩ soundLast
    have linked : Linked profile userId last := by
      refine ⟨⟨later.identities.freshKey choice, userId, "google", profile.providerSubject⟩,
        rely.identities ?_, ?_, rfl⟩
      · rw [mem_addIdentity fresh isFree]
        exact List.mem_append_right _ (List.mem_singleton_self _)
      · simp [isOf, FederatedIdentity.isOf]
    obtain ⟨row, known, -⟩ := rely.users userId row known
    refine goesOn _ last soundLast ?_ linked ⟨row, known⟩
    rintro ⟨other, id⟩ member rfl
    cases sound.one _ ((rely.creations id).mp member) _ creating.created
    exact linked

theorem linkNewUser_keeps (newUser : User) (isActive : newUser.status = .active)
    (sound : Sound profile world) (creating : Creating profile pid newUser.id world)
    (isUser : ∃ row, world.users.find newUser.id = some row) :
    (contract around profile).wp pid call (linkNewUser around profile newUser)
      ((contract around profile).ends pid call) none world := by
  refine Contract.wp_of_bind (Contract.wp_of_tryCatch (Contract.wp_of_bind
    (findOrCreate_keeps newUser.id ?_ ?_ sound creating isUser)))
  · intro error world sound excused
    exact raceResult_keeps sound excused
  · intro identity world sound settled linked isUser
    exact issueResult_keeps newUser isActive sound settled linked isUser

theorem signInWithGoogle_keeps (sound : Sound profile world)
    (fresh : ∀ creation ∈ world.creations, creation.pid ≠ pid) :
    (contract around profile).wp pid call (signInWithGoogle around profile)
      ((contract around profile).ends pid call) none world := by
  have settled : Settled profile pid world := fun creation member mine =>
    absurd mine (fresh creation member)
  unfold signInWithGoogle
  refine wp_settled_read (fun _ => rfl) ends_of_excused sound settled ?_
  intro _ _ first soundFirst settled rely
  cases found : world.identities.rows.find? (isOf profile) with
  | some identity =>
      dsimp only
      have isIdentity := List.mem_of_find?_eq_some found
      have isOf := List.find?_some found
      obtain ⟨creation, isCreation, same⟩ := sound.linked identity isIdentity isOf
      obtain ⟨user, known, -, isActive⟩ := sound.created creation isCreation
      rw [same] at known
      obtain ⟨user, known, -, sameStatus⟩ := rely.users _ user known
      have linked : Linked profile identity.userId first :=
        ⟨identity, rely.identities isIdentity, isOf, rfl⟩
      refine wp_settled_read (fun _ => rfl) ends_of_excused soundFirst settled ?_
      intro _ _ second soundSecond settled rely
      rw [show first.users.find identity.userId = some user from known]
      have sameId : user.id = identity.userId := Table.key_of_find known
      obtain ⟨row, known, -⟩ := rely.users _ user known
      refine issueResult_keeps user (sameStatus.trans isActive) soundSecond settled ?_ ?_
      · exact sameId ▸ linked.later rely.identities
      · exact ⟨row, sameId ▸ known⟩
  | none =>
      dsimp only
      refine wp_settled_read (fun _ => rfl) ends_of_excused soundFirst settled ?_
      intro free _ second soundSecond settled rely
      have noUser : first.users.rows.find? (·.email = profile.email) = none := by
        rw [List.find?_eq_none]
        simpa [admits] using free
      rw [noUser]
      refine wp_settled_read (fun _ => rfl) ends_of_excused soundSecond settled ?_
      intro _ raw third soundThird settled _
      refine wp_settled_read (fun _ => rfl) ends_of_excused soundThird settled ?_
      intro _ salt fourth soundFourth settled _
      refine Contract.wp_of_bind (Contract.wp_ask excuse ends_of_excused
        (fun _ => ⟨.inl rfl, settled⟩) ?_ ?_)
      · intro admitted choice error executed
        have isFree : fourth.users.rows.all (·.email ≠ profile.email) = true := admitted
        refine absurd executed ?_
        simp only [system, store, exec]
        rw [if_neg (by simpa using isFree)]
        simp
      · intro admitted choice effect executed
        have isFree : fourth.users.rows.all (·.email ≠ profile.email) = true := admitted
        obtain ⟨unused, executed⟩ := ok_of_unless executed
        cases executed
        have fresh := fourth.users.find_freshKey choice
        refine ⟨soundFourth.createdBy isFree fresh rfl rfl, fun other distinct =>
          .createdBy distinct, ?_⟩
        rintro fifth ⟨rely, -⟩ soundFifth
        refine linkNewUser_keeps _ rfl soundFifth ?_ ?_
        · refine Creating.later ⟨?_, ?_⟩ rely
          · exact List.mem_append_right _ (List.mem_singleton_self _)
          · rw [List.any_eq_false]
            intro identity member isOf
            exact soundFourth.not_linked_of_free isFree identity.userId ⟨identity, member, isOf, rfl⟩
        · obtain ⟨row, known, -⟩ := rely.users _ _ (find_of_createdBy fresh (by simpa using isFree))
          exact ⟨row, known⟩

/-- Every sign-in keeps the contract. -/
theorem safe : (contract around profile).Safe := by
  rintro pid call world rfl - - fresh after ⟨rely, -⟩ sound
  refine signInWithGoogle_keeps sound ?_
  rintro ⟨other, userId⟩ member rfl
  exact fresh _ ((rely.creations userId).mp member) rfl

end Requests

/-! ### Convergence -/

/-- A world in which nobody has signed in with the profile, and its e-mail is free. -/
structure Start (profile : GoogleProfile) (world : World) : Prop where
  noUser : world.users.rows.all (·.email ≠ profile.email) = true
  noIdentity : world.identities.rows.any (isOf profile) = false
  creations : world.creations = []

theorem Start.sound (start : Start profile world) : Sound profile world where
  one := by simp [start.creations]
  created := by simp [start.creations]
  locked := by
    intro user member sameEmail
    have apart := List.all_eq_true.mp start.noUser user member
    simp [sameEmail] at apart
  linked := by
    intro identity member isOf
    exact absurd isOf (List.any_eq_false.mp start.noIdentity identity member)

theorem keeps {start : World} {machine : Machine accounts World Key Call}
    (isStart : Start profile start)
    (reached : ReachesUnder (system around) (terms profile) start machine) :
    (contract around profile).Keeps machine := by
  refine Contract.keeps_of_reaches safe isStart.sound ?_ reached
  intro pid creation member
  rw [isStart.creations] at member
  exact absurd member List.not_mem_nil

theorem converged_of_keeps {machine : Machine accounts World Key Call}
    (keeps : (contract around profile).Keeps machine) : Converged profile machine where
  linkedOnce := by
    rintro _ _ ⟨first, isFirst, firstIs, rfl⟩ ⟨second, isSecond, secondIs, rfl⟩
    obtain ⟨left, isLeft, sameLeft⟩ := keeps.holds.linked first isFirst firstIs
    obtain ⟨right, isRight, sameRight⟩ := keeps.holds.linked second isSecond secondIs
    rw [← sameLeft, ← sameRight, keeps.holds.one left isLeft right isRight]
  isUser := by
    rintro _ ⟨identity, isIdentity, isOf, rfl⟩
    obtain ⟨creation, isCreation, same⟩ := keeps.holds.linked identity isIdentity isOf
    obtain ⟨user, known, sameEmail, -⟩ := keeps.holds.created creation isCreation
    exact ⟨user, same ▸ known, sameEmail⟩
  noOrphan := by
    intro user member sameEmail
    obtain ⟨⟨pid, userId⟩, isCreation, rfl⟩ := keeps.holds.locked user member sameEmail
    cases inFlight : machine.threads pid with
    | none => exact absurd rfl (keeps.fresh pid inFlight _ isCreation)
    | some thread =>
        obtain ⟨call, session, rest⟩ := thread
        by_cases ended : ∃ outcome, rest = .done outcome
        · obtain ⟨outcome, rfl⟩ := ended
          exact .inl ((keeps.ended inFlight).1 _ isCreation rfl)
        · exact .inr ⟨pid, call, session, rest, inFlight, fun outcome same => ended ⟨outcome, same⟩,
            isCreation⟩
  signsIn pid call session returned := (keeps.ended returned).2
  fails pid call session error failed := (keeps.ended failed).2

/-- Sign-ins with one profile converge, where none overlaps with the one that creates the user
before it is linked, and that one does not fail there. -/
theorem google_sign_ins_converge {start : World} (isStart : Start profile start)
    {machine : Machine accounts World Key Call}
    (reached : ReachesUnder (system around) (terms profile) start machine) :
    Converged profile machine :=
  converged_of_keeps (keeps isStart reached)

/-! ### An account that locks its owner out -/

/-- Moves of sign-ins with the profile. -/
abbrev passes (profile : GoogleProfile) (admits : Statement → World → Bool) (faults : Bool)
    (machine : Machine accounts World Key Call) (move : Move Call) : Bool :=
  move.passesTerms (fun call => call = .signInWithGoogle profile)
    (fun _ _ asked world => admits asked world) faults machine

theorem admits_of_passes (machine : Machine accounts World Key Call) (move : Move Call)
    (passes : passes profile (admits profile) false machine move = true) :
    (terms profile).AdmitsMove machine move := by
  refine Terms.admits_of_passes ?_ ?_ nofun machine move passes
  · intro call world isCall
    exact (of_decide_eq_true isCall : call = .signInWithGoogle profile)
  · exact fun _ _ _ _ admitted => admitted

theorem admits_of_any (machine : Machine accounts World Key Call) (move : Move Call)
    (passes : passes profile (fun _ _ => true) true machine move = true) :
    (anyTerms profile).AdmitsMove machine move := by
  refine Terms.admits_of_passes ?_ ?_ ?_ machine move passes
  · intro call world isCall
    exact (of_decide_eq_true isCall : call = .signInWithGoogle profile)
  · exact fun _ _ _ _ _ => trivial
  · exact fun _ _ _ _ => not_false

def plainProfile : GoogleProfile := ⟨"110169484474386276334", "owner@example.com", true, none⟩

theorem empty_start : Start plainProfile World.empty where
  noUser := rfl
  noIdentity := rfl
  creations := rfl

/-- A sign-in until its user is created. -/
def untilCreated (pid : Pid) : List (Move Call) :=
  [.issue pid (.signInWithGoogle plainProfile), .step pid 0, .step pid 0, .step pid 0, .step pid 0,
    .step pid 0]

/-- The tokens of a user are issued. -/
def issuing (pid : Pid) : List (Move Call) :=
  [.step pid 0, .step pid pid, .step pid 0, .step pid 0, .step pid 0, .step pid 0, .step pid 0]

/-- The first sign-in creates the user, and the second finds it. -/
theorem two_sign_ins_converge :
    ∃ machine, ReachesUnder (system plainSurroundings) (terms plainProfile) World.empty machine ∧
      machine.world.issued.map (fun issued => (issued.pid, issued.payload.sub)) =
        [(0, 0), (1, 0)] ∧ Converged plainProfile machine := by
  have played : ((system plainSurroundings).playUnder (passes plainProfile (admits plainProfile) false)
      (.idle World.empty) (untilCreated 0 ++ [.step 0 0, .step 0 0] ++ issuing 0 ++
        [.issue 1 (.signInWithGoogle plainProfile), .step 1 0, .step 1 0] ++ issuing 1)).map
          (fun machine => machine.world.issued.map
            (fun issued => (issued.pid, issued.payload.sub))) = some [(0, 0), (1, 0)] := by
    decide +kernel
  obtain ⟨machine, reached, issued⟩ := ReachesUnder.of_play admits_of_passes played
  exact ⟨machine, reached, issued, google_sign_ins_converge empty_start reached⟩

def hasEnded {α : Type} : Program accounts α → Bool
  | .done _ => true
  | _ => false

/-- The process dies after the user was created: the e-mail is taken, by a user whom nobody
is linked to. -/
theorem crash_leaves_orphan :
    ¬ ∀ (around : Surroundings) (profile : GoogleProfile) (start : World), Start profile start →
      ∀ machine, ReachesUnder (system around) (anyTerms profile) start machine →
        Converged profile machine := by
  intro claimed
  have played : ((system plainSurroundings).playUnder (passes plainProfile (fun _ _ => true) true)
      (.idle World.empty) (untilCreated 0 ++ [.crash 0])).map (fun machine =>
        (machine.world.users.rows.map (·.email), machine.world.identities.rows,
          machine.world.creations, (machine.threads 0).map fun thread => hasEnded thread.rest)) =
      some (["owner@example.com"], [], [⟨0, 0⟩], some true) := by
    decide +kernel
  obtain ⟨machine, reached, seen⟩ := ReachesUnder.of_play admits_of_any played
  simp only [Prod.mk.injEq] at seen
  obtain ⟨emails, identities, creations, isDone⟩ := seen
  obtain ⟨user, member, email⟩ : ∃ user ∈ machine.world.users.rows,
      user.email = "owner@example.com" := by
    have listed : "owner@example.com" ∈ machine.world.users.rows.map (·.email) := by
      rw [emails]
      exact List.mem_singleton_self _
    exact List.mem_map.mp listed
  have converged := claimed plainSurroundings plainProfile World.empty empty_start machine reached
  rcases converged.noOrphan user member email with ⟨identity, isIdentity, -⟩ | inFlight
  · rw [identities] at isIdentity
    exact absurd isIdentity List.not_mem_nil
  · obtain ⟨pid, call, session, rest, inFlight, unfinished, isCreation⟩ := inFlight
    rw [creations] at isCreation
    obtain ⟨rfl, -⟩ := Creation.mk.inj (List.mem_singleton.mp isCreation)
    rw [inFlight] at isDone
    cases rest with
    | done outcome => exact unfinished outcome rfl
    | statement | start | commit | rollback => cases isDone

end MarketMind.Auth.GoogleSignIn
