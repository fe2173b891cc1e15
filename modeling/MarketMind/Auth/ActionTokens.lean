import MarketMind.Auth.Service

/-!
Owns what one-time action tokens promise over every run of issues, password resets and
verifications: a token takes effect at most once and is consumed only for its effect.

Does not own who may ask for a token. The consumption and its effect are committed apart, so the
second promise needs that a request does not fail between the two.
-/

namespace MarketMind.Auth.ActionTokens

open MarketMind.Transactions

variable {around : Surroundings} {world after : World} {pid : Pid}

/-! ### Runs -/

/-- A request of the service of action tokens. -/
def isOfTokens : Call → Bool
  | .issue _ _ | .resetPassword _ _ | .verifyEmail _ => true
  | _ => false

/-- The request has consumed a token whose effect is not committed. -/
def Owes (pid : Pid) (world : World) : Prop :=
  ∃ consumption ∈ world.consumptions, consumption.pid = pid ∧ consumption ∉ world.effects

/-- The runs of the service; with `sparing`, no request fails while it owes an effect. -/
def terms (sparing : Prop) : Terms accounts World Call where
  issues call _ := isOfTokens call
  admits _ _ _ _ := True
  spares pid _ world := sparing ∧ Owes pid world

/-- A machine of which the tokens keep their promise. -/
structure OnceOnly (machine : Machine accounts World Key Call) : Prop where
  once : (machine.world.effects.map (·.tokenHash)).Nodup
  single : ∀ userId type first second, machine.world.hasOpen userId type first →
    machine.world.hasOpen userId type second → first = second
  /-- A token is consumed for its effect, or the request is still in flight. -/
  effected : ∀ consumption ∈ machine.world.consumptions, consumption ∈ machine.world.effects ∨
    ∃ call session rest, machine.threads consumption.pid = some ⟨call, session, rest⟩ ∧
      ∀ outcome, rest ≠ .done outcome
  /-- A request that failed has consumed no token. -/
  usable : ∀ pid call session error,
    machine.threads pid = some ⟨call, session, .done (.error error)⟩ →
      ∀ consumption ∈ machine.world.consumptions, consumption.pid ≠ pid

/-! ### The invariant -/

structure Sound (world : World) : Prop where
  owned : ∀ tokenHash token, world.actionTokens.find tokenHash = some token →
    (world.users.find token.userId).isSome
  single : ∀ userId type first second, world.hasOpen userId type first →
    world.hasOpen userId type second → first = second
  consumedOnce : (world.consumptions.map (·.tokenHash)).Nodup
  consumed : ∀ consumption ∈ world.consumptions, ∃ token,
    world.actionTokens.find consumption.tokenHash = some token ∧ token.consumedAt.isSome
  effected : ∀ effect ∈ world.effects, effect ∈ world.consumptions
  once : (world.effects.map (·.tokenHash)).Nodup

/-- Of the steps of the others a request relies on this. -/
structure Rely (pid : Pid) (before after : World) : Prop where
  users : ∀ id, (before.users.find id).isSome → (after.users.find id).isSome
  tokens : ∀ tokenHash token, before.actionTokens.find tokenHash = some token →
    ∃ later, after.actionTokens.find tokenHash = some later ∧ later.userId = token.userId
  consumptions : ∀ tokenHash,
    ⟨pid, tokenHash⟩ ∈ after.consumptions ↔ ⟨pid, tokenHash⟩ ∈ before.consumptions
  effects : ∀ tokenHash, ⟨pid, tokenHash⟩ ∈ after.effects ↔ ⟨pid, tokenHash⟩ ∈ before.effects

theorem Rely.refl (world : World) : Rely pid world world where
  users _ known := known
  tokens _ token known := ⟨token, known, rfl⟩
  consumptions _ := Iff.rfl
  effects _ := Iff.rfl

theorem Rely.trans {first second third : World} (left : Rely pid first second)
    (right : Rely pid second third) : Rely pid first third where
  users id known := right.users id (left.users id known)
  tokens tokenHash token known := by
    obtain ⟨middle, found, same⟩ := left.tokens tokenHash token known
    obtain ⟨later, foundLater, sameLater⟩ := right.tokens tokenHash middle found
    exact ⟨later, foundLater, sameLater.trans same⟩
  consumptions tokenHash := (right.consumptions tokenHash).trans (left.consumptions tokenHash)
  effects tokenHash := (right.effects tokenHash).trans (left.effects tokenHash)

/-- The request has consumed nothing. -/
def Unspent (pid : Pid) (world : World) : Prop :=
  ∀ consumption ∈ world.consumptions, consumption.pid ≠ pid

theorem Unspent.later (unspent : Unspent pid world) (rely : Rely pid world after) :
    Unspent pid after := by
  rintro ⟨other, tokenHash⟩ member rfl
  exact unspent _ ((rely.consumptions tokenHash).mp member) rfl

/-- What a request owes when it has ended. -/
def ends (pid : Pid) (outcome : Except AuthError Unit) (world : World) : Prop :=
  match outcome with
  | .ok _ => ¬ Owes pid world
  | .error _ => Unspent pid world

/-- What runs of the service are held to. -/
def contract (around : Surroundings) (sparing : Prop) : Contract (system around) where
  terms := terms sparing
  invariant := Sound
  rely := Rely
  rely_refl _ world := .refl world
  rely_trans _ _ _ _ left right := left.trans right
  fresh pid world := Unspent pid world
  fresh_of_rely _ _ _ rely unspent := unspent.later rely
  post pid _ outcome world := sparing → ends pid outcome world

theorem Unspent.not_owes (unspent : Unspent pid world) : ¬ Owes pid world :=
  fun ⟨consumption, member, mine, _⟩ => unspent consumption member mine

/-- A request may fail that has consumed nothing. -/
theorem excuse {sparing : Prop} {call : Call} :
    (contract around sparing).Excuse pid call fun _ world => sparing → Unspent pid world where
  lasts rely unspent isSparing := (unspent isSparing).later rely
  meets _ _ unspent := unspent

/-! ### What the writes leave -/

/-- Consumption changes a row only in when it was consumed. -/
theorem find_of_consume {hashes : List Nat} {now : Instant} {tokenHash : Nat} {token : ActionToken}
    (found : world.actionTokens.find tokenHash = some token) :
    ∃ later, (world.consume hashes now).actionTokens.find tokenHash = some later ∧
      later.userId = token.userId ∧ (token.consumedAt.isSome → later.consumedAt.isSome) := by
  rw [World.find_consume, found]
  refine ⟨_, rfl, ?_⟩
  dsimp only
  split
  · exact ⟨rfl, fun _ => rfl⟩
  · exact ⟨rfl, fun isConsumed => isConsumed⟩

theorem found_of_consume {hashes : List Nat} {now : Instant} {tokenHash : Nat} {later : ActionToken}
    (found : (world.consume hashes now).actionTokens.find tokenHash = some later) :
    ∃ token, world.actionTokens.find tokenHash = some token ∧ later.userId = token.userId := by
  rw [World.find_consume] at found
  obtain ⟨token, known, rfl⟩ := Option.map_eq_some_iff.mp found
  refine ⟨token, known, ?_⟩
  split <;> rfl

/-- A usable token is not among the consumed. -/
theorem Sound.notMem_of_usable (sound : Sound world) {tokenHash : Nat} {type : ActionTokenType}
    {now : Instant} {token : ActionToken} (found : world.actionTokens.find tokenHash = some token)
    (isUsable : token.isUsable type now = true) :
    tokenHash ∉ world.consumptions.map (·.tokenHash) := by
  intro member
  obtain ⟨consumption, isConsumption, rfl⟩ := List.mem_map.mp member
  obtain ⟨other, known, isConsumed⟩ := sound.consumed consumption isConsumption
  cases found.symm.trans known
  simp only [ActionToken.isUsable, Bool.and_eq_true, decide_eq_true_eq] at isUsable
  rw [isUsable.1.2] at isConsumed
  cases isConsumed

/-- The world after a token was consumed. -/
def consumedBy (pid : Pid) (tokenHash : Nat) (now : Instant) (world : World) : World :=
  { world.consume [tokenHash] now with
    consumptions := world.consumptions ++ [⟨pid, tokenHash⟩] }

theorem Sound.consumedBy (sound : Sound world) {tokenHash : Nat} {type : ActionTokenType}
    {now : Instant} {token : ActionToken} (found : world.actionTokens.find tokenHash = some token)
    (isUsable : token.isUsable type now = true) :
    Sound (consumedBy pid tokenHash now world) where
  owned := by
    intro other later known
    obtain ⟨token, wasKnown, sameUser⟩ := found_of_consume known
    rw [sameUser]
    exact sound.owned other token wasKnown
  single := by
    intro userId type first second isFirst isSecond
    exact sound.single userId type first second (hasOpen_of_consume isFirst).1
      (hasOpen_of_consume isSecond).1
  consumedOnce := by
    have absent := sound.notMem_of_usable found isUsable
    simp only [ActionTokens.consumedBy, List.map_append, List.map_cons, List.map_nil]
    refine List.nodup_append.mpr ⟨sound.consumedOnce, List.nodup_singleton _, ?_⟩
    rintro old member new isNew rfl
    exact absent (List.mem_singleton.mp isNew ▸ member)
  consumed := by
    intro consumption member
    rcases List.mem_append.mp member with old | new
    · obtain ⟨known, isKnown, isConsumed⟩ := sound.consumed consumption old
      obtain ⟨later, foundLater, -, stays⟩ := @find_of_consume _ [tokenHash] _ _ _ isKnown
      exact ⟨later, foundLater, stays isConsumed⟩
    · cases List.mem_singleton.mp new
      simp only [ActionToken.isUsable, Bool.and_eq_true, decide_eq_true_eq] at isUsable
      have sameHash : token.tokenHash = tokenHash := Table.key_of_find found
      refine ⟨token.consumed now, ?_, rfl⟩
      refine World.find_consume.trans ?_
      simp [found, sameHash, isUsable.1.2]
  effected effect member := List.mem_append_left _ (sound.effected effect member)
  once := sound.once

theorem Rely.consumedBy {other : Pid} (distinct : other ≠ pid) {tokenHash : Nat} {now : Instant} :
    Rely other world (consumedBy pid tokenHash now world) where
  users _ known := known
  tokens tokenHash token known := by
    obtain ⟨later, found, same, -⟩ := find_of_consume known
    exact ⟨later, found, same⟩
  consumptions tokenHash := by
    refine ⟨fun member => ?_, List.mem_append_left _⟩
    rcases List.mem_append.mp member with old | new
    · exact old
    · cases List.mem_singleton.mp new
      exact absurd rfl distinct
  effects _ := Iff.rfl

/-- The request owes the effect of the token. -/
def OwesFor (pid : Pid) (tokenHash : Nat) (world : World) : Prop :=
  ⟨pid, tokenHash⟩ ∈ world.consumptions ∧ ⟨pid, tokenHash⟩ ∉ world.effects

theorem OwesFor.later {tokenHash : Nat} (owes : OwesFor pid tokenHash world)
    (rely : Rely pid world after) : OwesFor pid tokenHash after :=
  ⟨(rely.consumptions tokenHash).mpr owes.1, fun member =>
    owes.2 ((rely.effects tokenHash).mp member)⟩

theorem OwesFor.owes {tokenHash : Nat} (owes : OwesFor pid tokenHash world) : Owes pid world :=
  ⟨_, owes.1, rfl, owes.2⟩

/-- A write that settles the effect of a token and leaves the tokens. -/
structure Settles (pid : Pid) (tokenHash : Nat) (before after : World) : Prop where
  users : ∀ id, (after.users.find id).isSome = (before.users.find id).isSome
  actionTokens : after.actionTokens = before.actionTokens
  consumptions : after.consumptions = before.consumptions
  effects : after.effects = before.effects ++ [⟨pid, tokenHash⟩]

theorem Settles.sound {tokenHash : Nat} (settles : Settles pid tokenHash world after)
    (sound : Sound world) (owes : OwesFor pid tokenHash world) : Sound after where
  owned := by
    rw [settles.actionTokens]
    intro hash token known
    rw [settles.users]
    exact sound.owned hash token known
  single := by
    unfold World.hasOpen
    rw [settles.actionTokens]
    exact sound.single
  consumedOnce := by
    rw [settles.consumptions]
    exact sound.consumedOnce
  consumed := by
    rw [settles.consumptions, settles.actionTokens]
    exact sound.consumed
  effected := by
    rw [settles.consumptions, settles.effects]
    intro effect member
    rcases List.mem_append.mp member with old | new
    · exact sound.effected effect old
    · exact List.mem_singleton.mp new ▸ owes.1
  once := by
    rw [settles.effects, List.map_append]
    refine List.nodup_append.mpr ⟨sound.once, List.nodup_singleton _, ?_⟩
    rintro old member new isNew rfl
    obtain ⟨effect, isEffect, same⟩ := List.mem_map.mp member
    have sameHash : effect.tokenHash = tokenHash := same.trans (List.mem_singleton.mp isNew)
    -- One token has one consumption, so the earlier effect is this request's.
    have isMine : effect = ⟨pid, tokenHash⟩ :=
      List.inj_on_of_nodup_map sound.consumedOnce (sound.effected effect isEffect) owes.1 sameHash
    exact owes.2 (isMine ▸ isEffect)

theorem Settles.rely {other : Pid} (distinct : other ≠ pid) {tokenHash : Nat}
    (settles : Settles pid tokenHash world after) : Rely other world after where
  users id known := by rwa [settles.users]
  tokens hash token known := ⟨token, by rwa [settles.actionTokens], rfl⟩
  consumptions hash := by rw [settles.consumptions]
  effects hash := by
    rw [settles.effects]
    refine ⟨fun member => ?_, List.mem_append_left _⟩
    rcases List.mem_append.mp member with old | new
    · exact old
    · cases List.mem_singleton.mp new
      exact absurd rfl distinct

/-- A request that settles the one token it has consumed owes nothing more. -/
theorem Settles.not_owes {tokenHash : Nat} (settles : Settles pid tokenHash world after)
    (only : ∀ consumption ∈ world.consumptions, consumption.pid = pid →
      consumption.tokenHash = tokenHash) : ¬ Owes pid after := by
  rintro ⟨⟨other, hash⟩, member, rfl, unsettled⟩
  rw [settles.consumptions] at member
  rw [settles.effects] at unsettled
  cases only _ member rfl
  exact unsettled (List.mem_append_right _ (List.mem_singleton_self _))

/-- The world after a token was issued. -/
def issuedBy (hashes : List Nat) (now : Instant) (token : ActionToken) (world : World) : World :=
  (world.consume hashes now).addActionToken token

section Issue

variable {hashes : List Nat} {now : Instant} {token : ActionToken}

theorem find_of_issuedBy {tokenHash : Nat} {old : ActionToken}
    (found : world.actionTokens.find tokenHash = some old) :
    ∃ later, (issuedBy hashes now token world).actionTokens.find tokenHash = some later ∧
      later.userId = old.userId ∧ (old.consumedAt.isSome → later.consumedAt.isSome) := by
  obtain ⟨later, foundLater, stays⟩ := @find_of_consume _ hashes now _ _ found
  exact ⟨later, Table.find_insert_of_found foundLater, stays⟩

theorem Sound.issuedBy (sound : Sound world) (isUser : (world.users.find token.userId).isSome)
    (isOpen : token.consumedAt = none)
    (invalidated : ∀ tokenHash, world.hasOpen token.userId token.type tokenHash →
      tokenHash ∈ hashes) : Sound (issuedBy hashes now token world) where
  owned := by
    intro tokenHash later known
    rcases Table.of_find_insert known with old | ⟨rfl, -⟩
    · obtain ⟨row, wasKnown, sameUser⟩ := found_of_consume old
      rw [sameUser]
      exact sound.owned tokenHash row wasKnown
    · exact isUser
  single := by
    -- Any other token that is open is one of another user or type.
    have splits : ∀ userId type tokenHash,
        (ActionTokens.issuedBy hashes now token world).hasOpen userId type tokenHash →
          tokenHash = token.tokenHash ∧ userId = token.userId ∧ type = token.type ∨
          world.hasOpen userId type tokenHash ∧
            ¬ (userId = token.userId ∧ type = token.type) := by
      rintro userId type tokenHash ⟨later, known, stillOpen⟩
      rcases Table.of_find_insert known with old | ⟨rfl, rfl⟩
      · obtain ⟨wasOpen, kept⟩ := hasOpen_of_consume ⟨later, old, stillOpen⟩
        refine .inr ⟨wasOpen, ?_⟩
        rintro ⟨rfl, rfl⟩
        exact kept (invalidated tokenHash wasOpen)
      · simp only [ActionToken.isOpen, Bool.and_eq_true, decide_eq_true_eq] at stillOpen
        exact .inl ⟨rfl, stillOpen.1.1.symm, stillOpen.1.2.symm⟩
    intro userId type first second isFirst isSecond
    rcases splits _ _ _ isFirst with ⟨same, sameKind⟩ | ⟨wasFirst, apart⟩
    · rcases splits _ _ _ isSecond with ⟨sameToo, -⟩ | ⟨-, apart⟩
      · exact same.trans sameToo.symm
      · exact absurd sameKind apart
    · rcases splits _ _ _ isSecond with ⟨-, sameKind⟩ | ⟨wasSecond, -⟩
      · exact absurd sameKind apart
      · exact sound.single userId type first second wasFirst wasSecond
  consumedOnce := sound.consumedOnce
  consumed := by
    intro consumption member
    obtain ⟨row, known, isConsumed⟩ := sound.consumed consumption member
    obtain ⟨later, foundLater, -, stays⟩ := find_of_issuedBy known
    exact ⟨later, foundLater, stays isConsumed⟩
  effected := sound.effected
  once := sound.once

theorem Rely.issuedBy : Rely pid world (issuedBy hashes now token world) where
  users _ known := known
  tokens tokenHash old known := by
    obtain ⟨later, found, same, -⟩ := find_of_issuedBy known
    exact ⟨later, found, same⟩
  consumptions _ := Iff.rfl
  effects _ := Iff.rfl

end Issue

/-! ### Requests keep the contract -/

section Requests

variable {sparing : Prop} {call : Call}

/-- A statement that writes nothing, of a request that has consumed nothing. -/
theorem wp_unspent_read {α : Type} {asked : Statement} {keys : List Key}
    {reply : Nat → asked.Reply} {next : asked.Reply → Program accounts α}
    {Q : Except AuthError α → Option (Session World Key) → World → Prop}
    (reads : ∀ choice, exec pid choice asked world = .ok ⟨reply choice, fun world => world, keys⟩)
    (errors : ∀ error world, Sound world → (sparing → Unspent pid world) → Q (.error error) none world)
    (sound : Sound world) (unspent : Unspent pid world)
    (goesOn : ∀ choice after, Sound after → Unspent pid after → Rely pid world after →
      (contract around sparing).wp pid call (next (reply choice)) Q none after) :
    (contract around sparing).wp pid call (ask asked >>= next) Q none world := by
  refine Contract.wp_of_bind ?_
  refine Contract.wp_read (P := fun _ world => sparing → Unspent pid world) reads excuse sound errors
    (fun _ _ => unspent) ?_
  intro _ choice after calm soundAfter
  exact goesOn choice after soundAfter (unspent.later calm.rely) calm.rely

/-- A statement of an open transaction, of a request that has consumed nothing. -/
theorem wp_unspent_within {α : Type} {asked : Statement} {opened : Session World Key}
    {next : asked.Reply → Program accounts α}
    {Q : Except AuthError α → Option (Session World Key) → World → Prop}
    (isSound : opened.doomed = false)
    (errors : ∀ error session world, Sound world → (sparing → Unspent pid world) →
      Q (.error error) session world)
    (unspent : Unspent pid world)
    (goesOn : ∀ choice (effect : Effect World Key asked.Reply),
      exec pid choice asked (opened.pending world) = .ok effect →
        ∀ after, Sound after → Unspent pid after →
          (contract around sparing).Calm pid (some (opened.extend effect)) world after →
            (contract around sparing).wp pid call (next effect.reply) Q
              (some (opened.extend effect)) after) :
    (contract around sparing).wp pid call (ask asked >>= next) Q (some opened) world := by
  refine Contract.wp_of_bind ?_
  refine Contract.wp_ask_within (P := fun _ world => sparing → Unspent pid world) excuse isSound
    errors (fun _ _ => unspent) (fun _ _ _ _ _ => unspent) ?_
  intro _ choice effect executed after calm sound
  exact goesOn choice effect executed after sound (unspent.later calm.rely) calm

theorem issue_keeps (userId : Uuid) (type : ActionTokenType) (sound : Sound world)
    (unspent : Unspent pid world) :
    (contract around sparing).wp pid call (issue around userId type)
      ((contract around sparing).ends pid call) none world := by
  unfold issue
  have errors : ∀ error world, Sound world → (sparing → Unspent pid world) →
      (contract around sparing).ends pid call (.error error) none world :=
    fun _ _ _ excused => excused
  refine wp_unspent_read (fun _ => rfl) errors sound unspent ?_
  intro rawToken first sound unspent _
  refine wp_unspent_read (fun _ => rfl) errors sound unspent ?_
  intro issuedAt second sound unspent _
  refine Contract.wp_transaction excuse errors (fun _ _ => unspent) ?_
  rintro world ⟨rely, -⟩ sound
  have unspent := unspent.later rely
  refine wp_unspent_within rfl (fun _ _ _ _ excused => ⟨fun _ => excused, excused⟩) unspent ?_
  rintro now _ ⟨⟩ world sound unspent -
  refine wp_unspent_within rfl (fun _ _ _ _ excused => ⟨fun _ => excused, excused⟩) unspent ?_
  rintro choice _ ⟨⟩ invalidated sound unspent calmInvalidated
  refine Contract.wp_ask_within excuse rfl (fun _ _ _ _ excused => ⟨fun _ => excused, excused⟩) (fun _ _ => unspent)
    (fun _ _ _ _ _ => unspent) ?_
  rintro - choice effect executed committed calm sound
  have unspent := unspent.later calm.rely
  obtain ⟨isUser, executed⟩ := ok_of_unless executed
  obtain ⟨-, executed⟩ := ok_of_unless executed
  cases executed
  -- Since the invalidation no token of this kind was issued by another request.
  have none_since : ∀ tokenHash, committed.hasOpen userId type tokenHash →
      world.hasOpen userId type tokenHash := by
    intro tokenHash isOpen
    have before := calm.agree _ rfl (.issuing userId type) (by simp [Session.extend])
    have beforeThat := calmInvalidated.agree _ rfl (.issuing userId type) (by simp [Session.extend])
    exact beforeThat tokenHash (before tokenHash isOpen)
  have isUser : (committed.users.find userId).isSome :=
    calm.rely.users userId (Option.isSome_iff_ne_none.mpr fun missing =>
      isUser (Option.isNone_iff_eq_none.mpr missing))
  refine ⟨fun _ _ => unspent, _, rfl, rfl, ?_, ?_, ?_⟩
  · refine sound.issuedBy isUser rfl ?_
    intro tokenHash isOpen
    exact Table.mem_keysOf.mpr (none_since tokenHash isOpen)
  · exact fun _ _ => Rely.issuedBy
  · intro ended calm sound isSparing
    exact ((unspent.later (Rely.issuedBy)).later calm.rely).not_owes

/-- The request has consumed one token and owes its effect. -/
structure Spent (pid : Pid) (tokenHash : Nat) (world : World) : Prop where
  owes : OwesFor pid tokenHash world
  only : ∀ consumption ∈ world.consumptions, consumption.pid = pid →
    consumption.tokenHash = tokenHash

theorem Spent.later {tokenHash : Nat} (spent : Spent pid tokenHash world)
    (rely : Rely pid world after) : Spent pid tokenHash after where
  owes := spent.owes.later rely
  only := by
    rintro ⟨other, hash⟩ member rfl
    exact spent.only _ ((rely.consumptions hash).mp member) rfl

/-- Where requests are spared, one that owes an effect does not fail. -/
theorem Spent.excused {tokenHash : Nat} (spent : Spent pid tokenHash world)
    (unspared : ¬ (contract around sparing).terms.spares pid call world) :
    sparing → Unspent pid world :=
  fun isSparing => absurd ⟨isSparing, spent.owes.owes⟩ unspared

theorem Unspent.spent {tokenHash : Nat} {now : Instant} (unspent : Unspent pid world)
    (sound : Sound world) : Spent pid tokenHash (consumedBy pid tokenHash now world) where
  owes := by
    refine ⟨List.mem_append_right _ (List.mem_singleton_self _), fun member => ?_⟩
    exact unspent _ (sound.effected _ member) rfl
  only := by
    rintro consumption member mine
    rcases List.mem_append.mp member with old | new
    · exact absurd mine (unspent consumption old)
    · exact List.mem_singleton.mp new ▸ rfl

/-- A statement that writes nothing, of a request that owes an effect. -/
theorem wp_spent_read {α : Type} {asked : Statement} {keys : List Key} {tokenHash : Nat}
    {reply : Nat → asked.Reply} {next : asked.Reply → Program accounts α}
    {Q : Except AuthError α → Option (Session World Key) → World → Prop}
    (reads : ∀ choice, exec pid choice asked world = .ok ⟨reply choice, fun world => world, keys⟩)
    (errors : ∀ error world, Sound world → (sparing → Unspent pid world) → Q (.error error) none world)
    (sound : Sound world) (spent : Spent pid tokenHash world)
    (goesOn : ∀ choice after, Sound after → Spent pid tokenHash after → Rely pid world after →
      (contract around sparing).wp pid call (next (reply choice)) Q none after) :
    (contract around sparing).wp pid call (ask asked >>= next) Q none world := by
  refine Contract.wp_of_bind ?_
  refine Contract.wp_read (P := fun _ world => sparing → Unspent pid world) reads excuse sound errors
    spent.excused ?_
  intro _ choice after calm soundAfter
  exact goesOn choice after soundAfter (spent.later calm.rely) calm.rely

theorem Rely.owes (rely : Rely pid world after) (owes : Owes pid after) : Owes pid world := by
  obtain ⟨⟨other, tokenHash⟩, member, rfl, unsettled⟩ := owes
  exact ⟨_, (rely.consumptions tokenHash).mp member, rfl, fun settled =>
    unsettled ((rely.effects tokenHash).mpr settled)⟩

/-- A request that settles what it owes keeps the contract to its end. -/
theorem Spent.settles {tokenHash : Nat} (spent : Spent pid tokenHash world) (sound : Sound world)
    (settles : Settles pid tokenHash world after) :
    Sound after ∧ (contract around sparing).Guarantees pid world after ∧
      (contract around sparing).After pid none after
        ((contract around sparing).ends pid call (.ok ()) none) := by
  refine ⟨settles.sound sound spent.owes, fun other distinct => settles.rely distinct, ?_⟩
  intro last calm _ _ owes
  exact settles.not_owes spent.only (calm.rely.owes owes)

theorem consume_keeps (rawToken : Nat) (type : ActionTokenType)
    {Q : Except AuthError Uuid → Option (Session World Key) → World → Prop}
    (errors : ∀ error world, Sound world → (sparing → Unspent pid world) → Q (.error error) none world)
    (goesOn : ∀ userId world, Sound world → Spent pid (around.hashToken rawToken) world →
      (world.users.find userId).isSome → Q (.ok userId) none world)
    (sound : Sound world) (unspent : Unspent pid world) :
    (contract around sparing).wp pid call (consume around rawToken type) Q none world := by
  unfold consume
  refine wp_unspent_read (fun _ => rfl) errors sound unspent ?_
  intro now world sound unspent _
  refine Contract.wp_of_bind ?_
  refine Contract.wp_ask excuse errors (fun _ _ => unspent) (fun _ _ _ _ _ => unspent) ?_
  rintro - choice effect executed
  simp only [system, store, exec] at executed
  split at executed
  · next isUsable =>
    obtain ⟨token, found, isUsable⟩ := (Option.any_eq_true _ _).mp isUsable
    cases executed
    refine ⟨sound.consumedBy found isUsable, fun other distinct => .consumedBy distinct, ?_⟩
    rintro world ⟨rely, -⟩ soundAfter
    have spent := (unspent.spent sound).later rely
    obtain ⟨consumed, isKnown, -⟩ := soundAfter.consumed _ spent.owes.1
    refine wp_spent_read (fun _ => rfl) errors soundAfter spent ?_
    intro _ last sound spent rely
    rw [show world.actionTokens.find (around.hashToken rawToken) = some consumed from isKnown]
    exact goesOn consumed.userId last sound spent
      (rely.users _ (soundAfter.owned _ _ isKnown))
  · cases executed
    refine ⟨sound, fun other _ => Rely.refl world, ?_⟩
    intro world calm sound
    have unspent := unspent.later calm.rely
    show (contract around sparing).wp pid call (ite ((0 : Nat) = 1) _ _) Q none world
    rw [if_neg Nat.zero_ne_one]
    refine wp_unspent_read (fun _ => rfl) errors sound unspent ?_
    intro _ last sound unspent _
    have fails : ∀ error, Q (.error error) none last := fun error => errors error last sound fun _ => unspent
    split
    · exact fails _
    · split
      · exact fails _
      · split
        · exact fails _
        · split
          · exact fails _
          · exact fails _

theorem consumeForClient_keeps (rawToken : Nat) (type : ActionTokenType)
    {Q : Except AuthError Uuid → Option (Session World Key) → World → Prop}
    (errors : ∀ error world, Sound world → (sparing → Unspent pid world) → Q (.error error) none world)
    (goesOn : ∀ userId world, Sound world → Spent pid (around.hashToken rawToken) world →
      (world.users.find userId).isSome → Q (.ok userId) none world)
    (sound : Sound world) (unspent : Unspent pid world) :
    (contract around sparing).wp pid call (consumeForClient around rawToken type) Q none world := by
  refine Contract.wp_of_tryCatch ?_
  refine consume_keeps rawToken type ?_ goesOn sound unspent
  exact fun error world sound excused => errors error.unprocessed world sound excused

theorem resetPassword_keeps (rawToken : Nat) (newPassword : Bytes) (sound : Sound world)
    (unspent : Unspent pid world) :
    (contract around sparing).wp pid call (resetPassword around rawToken newPassword)
      ((contract around sparing).ends pid call) none world := by
  have errors : ∀ error world, Sound world → (sparing → Unspent pid world) →
      (contract around sparing).ends pid call (.error error) none world :=
    fun _ _ _ excused => excused
  refine Contract.wp_of_bind (consumeForClient_keeps rawToken _ errors ?_ sound unspent)
  intro userId world sound spent isUser
  refine wp_spent_read (fun _ => rfl) errors sound spent ?_
  intro salt hashed sound spent rely
  have isUser := rely.users userId isUser
  refine Contract.wp_transaction excuse errors spent.excused ?_
  rintro world ⟨rely, -⟩ sound
  have spent := spent.later rely
  have isUser := rely.users userId isUser
  refine Contract.wp_of_bind (Contract.wp_ask_within excuse rfl (fun _ _ _ _ excused => ⟨fun _ => excused, excused⟩)
    spent.excused ?_ ?_)
  · rintro - choice error executed
    simp only [system, store, exec] at executed
    exact absurd isUser (not_refused executed)
  · rintro - choice effect executed world ⟨rely, -⟩ sound
    simp only [system, store, exec] at executed
    cases effect_of_updateUser executed isUser
    have spent := spent.later rely
    refine Contract.wp_ask_within excuse rfl (fun _ _ _ _ excused => ⟨fun _ => excused, excused⟩)
      spent.excused (by rintro - choice error ⟨⟩) ?_
    rintro - choice effect ⟨⟩ world ⟨rely, -⟩ sound
    have spent := spent.later rely
    refine ⟨spent.excused, _, rfl, rfl, ?_⟩
    exact spent.settles sound ⟨fun _ => isSome_of_changeUser, rfl, rfl, rfl⟩

theorem verifyEmail_keeps (rawToken : Nat) (sound : Sound world) (unspent : Unspent pid world) :
    (contract around sparing).wp pid call (verifyEmail around rawToken)
      ((contract around sparing).ends pid call) none world := by
  have errors : ∀ error world, Sound world → (sparing → Unspent pid world) →
      (contract around sparing).ends pid call (.error error) none world :=
    fun _ _ _ excused => excused
  refine Contract.wp_of_bind (consumeForClient_keeps rawToken _ errors ?_ sound unspent)
  intro userId world sound spent isUser
  refine Contract.wp_ask excuse errors spent.excused ?_ ?_
  · rintro - choice error executed
    simp only [system, store, exec] at executed
    exact absurd isUser (not_refused executed)
  · rintro - choice effect executed
    simp only [system, store, exec] at executed
    cases effect_of_updateUser executed isUser
    exact spent.settles sound ⟨fun _ => isSome_of_changeUser, rfl, rfl, rfl⟩

/-- Every request keeps the contract. -/
theorem safe : (contract around sparing).Safe := by
  intro pid call world issued _ _ unspent after calm sound
  have unspent := unspent.later calm.rely
  cases call with
  | issue userId type => exact issue_keeps userId type sound unspent
  | resetPassword rawToken newPassword =>
      exact resetPassword_keeps rawToken newPassword sound unspent
  | verifyEmail rawToken => exact verifyEmail_keeps rawToken sound unspent
  | login | refresh | logout | signInWithGoogle => cases issued

end Requests

/-! ### The promise -/

/-- A world in which the service starts: tokens belong to users, at most one of a kind is open,
and no request has been served yet. -/
structure Start (world : World) : Prop where
  owned : ∀ tokenHash token, world.actionTokens.find tokenHash = some token →
    (world.users.find token.userId).isSome
  single : ∀ userId type first second, world.hasOpen userId type first →
    world.hasOpen userId type second → first = second
  consumptions : world.consumptions = []
  effects : world.effects = []

theorem Start.sound (start : Start world) : Sound world where
  owned := start.owned
  single := start.single
  consumedOnce := by simp [start.consumptions]
  consumed := by simp [start.consumptions]
  effected := by simp [start.effects]
  once := by simp [start.effects]

theorem keeps {sparing : Prop} {start : World} {machine : Machine accounts World Key Call}
    (isStart : Start start) (reached : ReachesUnder (system around) (terms sparing) start machine) :
    (contract around sparing).Keeps machine := by
  refine Contract.keeps_of_reaches safe isStart.sound ?_ reached
  intro pid consumption member
  rw [isStart.consumptions] at member
  exact absurd member List.not_mem_nil

theorem onceOnly_of_keeps {machine : Machine accounts World Key Call}
    (keeps : (contract around True).Keeps machine) : OnceOnly machine where
  once := keeps.holds.once
  single := keeps.holds.single
  effected := by
    rintro ⟨pid, tokenHash⟩ member
    by_cases settled : ⟨pid, tokenHash⟩ ∈ machine.world.effects
    · exact .inl settled
    · have owes : Owes pid machine.world := ⟨_, member, rfl, settled⟩
      cases inFlight : machine.threads pid with
      | none => exact absurd owes (keeps.fresh pid inFlight).not_owes
      | some thread =>
          obtain ⟨call, session, rest⟩ := thread
          refine .inr ⟨call, session, rest, rfl, ?_⟩
          rintro outcome rfl
          have ended := keeps.ended inFlight trivial
          cases outcome with
          | ok => exact ended owes
          | error => exact ended.not_owes owes
  usable := by
    intro pid call session error failed
    exact keeps.ended failed trivial

/-- Over every run a token takes effect at most once and one token of a kind is open; where no
request fails between a consumption and its effect, tokens are consumed for their effect only. -/
theorem tokens_take_effect_once {start : World} (isStart : Start start) :
    (∀ machine, ReachesUnder (system around) (terms False) start machine →
      (machine.world.effects.map (·.tokenHash)).Nodup ∧
      ∀ userId type first second, machine.world.hasOpen userId type first →
        machine.world.hasOpen userId type second → first = second) ∧
    ∀ machine, ReachesUnder (system around) (terms True) start machine → OnceOnly machine := by
  constructor
  · intro machine reached
    have sound := (keeps isStart reached).holds
    exact ⟨sound.once, sound.single⟩
  · exact fun machine reached => onceOnly_of_keeps (keeps isStart reached)

/-! ### A reset that fails -/

/-- Moves of the service, with faults or without. -/
theorem admits_of_passes {faults : Bool} {sparing : Prop} (agrees : faults = true → ¬ sparing)
    (machine : Machine accounts World Key Call) (move : Move Call)
    (passes : move.passesTerms isOfTokens (fun _ _ _ _ => true) faults machine = true) :
    (terms sparing).AdmitsMove machine move := by
  refine Terms.admits_of_passes ?_ ?_ ?_ machine move passes
  · exact fun _ _ isOf => isOf
  · exact fun _ _ _ _ _ => trivial
  · exact fun mayFail _ _ _ spared => agrees mayFail spared.1

theorem plainWorld_start : Start plainWorld where
  owned := nofun
  single := by
    rintro userId type first second ⟨token, known, -⟩
    cases known
  consumptions := rfl
  effects := rfl

/-- A token is issued, and the password is reset with it. -/
def untilConsumed : List (Move Call) :=
  [.issue 0 (.issue 3 .passwordReset), .step 0 7, .step 0 100, .step 0 0, .step 0 100, .step 0 0,
    .step 0 0, .step 0 0, .issue 1 (.resetPassword 7 []), .step 1 200, .step 1 0]

def untilReset : List (Move Call) :=
  untilConsumed ++ [.step 1 0, .step 1 5, .step 1 0, .step 1 0, .step 1 0, .step 1 0]

theorem plain_reset_takes_effect :
    ∃ machine, ReachesUnder (system plainSurroundings) (terms True) plainWorld machine ∧
      machine.world.effects = [⟨1, 7⟩] ∧ OnceOnly machine := by
  have played : ((system plainSurroundings).playUnder
      (fun machine move => move.passesTerms isOfTokens (fun _ _ _ _ => true) false machine)
      (.idle plainWorld) untilReset).map (·.world.effects) = some [⟨1, 7⟩] := by
    decide +kernel
  obtain ⟨machine, reached, effects⟩ := ReachesUnder.of_play (admits_of_passes nofun) played
  exact ⟨machine, reached, effects, (tokens_take_effect_once plainWorld_start).2 machine reached⟩

/-- The call has ended, because the database failed. -/
def faulted {α : Type} : Program accounts α → Bool
  | .done (.error .databaseFailure) => true
  | _ => false

theorem eq_of_faulted {α : Type} {rest : Program accounts α} (isFault : faulted rest = true) :
    rest = .done (.error .databaseFailure) := by
  unfold faulted at isFault
  split at isFault
  · rfl
  · cases isFault

/-- The password hash fails: the token is spent and the password stays as it was. -/
theorem failed_reset_spends_token :
    ¬ ∀ (around : Surroundings) (start : World), Start start →
      ∀ machine, ReachesUnder (system around) (terms False) start machine → OnceOnly machine := by
  intro claimed
  have played : ((system plainSurroundings).playUnder
      (fun machine move => move.passesTerms isOfTokens (fun _ _ _ _ => true) true machine)
      (.idle plainWorld) (untilConsumed ++ [.step 1 0, .fail 1])).map (fun machine =>
        (machine.world.consumptions, (machine.threads 1).map fun thread =>
          faulted thread.rest)) = some ([⟨1, 7⟩], some true) := by
    decide +kernel
  obtain ⟨machine, reached, seen⟩ :=
    ReachesUnder.of_play (admits_of_passes fun _ => not_false) played
  obtain ⟨consumptions, failed⟩ := Prod.mk.inj seen
  obtain ⟨⟨call, session, rest⟩, inFlight, isError⟩ := Option.map_eq_some_iff.mp failed
  have promise := claimed plainSurroundings plainWorld plainWorld_start machine reached
  have returned : rest = .done (.error .databaseFailure) := eq_of_faulted isError
  subst returned
  exact promise.usable 1 call session _ inFlight ⟨1, 7⟩ (by simp [consumptions]) rfl

end MarketMind.Auth.ActionTokens
