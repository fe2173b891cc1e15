import MarketMind.Billing.Wallet
import MarketMind.Billing.Webhooks

/-!
Owns the check that every wallet operation keeps every wallet in order, however
calls interleave. A call that holds its account row sees its ledger stand still,
and in every committed world the ledger determines the balance; so what it read
is current when it writes.

`topUpWallet` holds no row while it computes the new balance: it keeps the
wallet in order when its update finds the balance that it read.
-/

namespace MarketMind.Billing

open Accounting MarketMind.Transactions MarketMind.Transactions.Protocol

variable (port : PaymentProviderPort)

/-- Wallets are in order in every committed world; calls rely on nothing else. -/
def walletProtocol (discipline : Discipline billing World Call) : Protocol (system port) where
  discipline := discipline
  invariant := WalletInvariant
  rely _ _ _ := True
  rely_refl _ _ := trivial
  rely_trans _ _ _ _ _ _ := trivial

/-! ### What holding a row keeps -/

theorem ledgerOf_of_agree {account : Uuid} {before after : World}
    (agree : Agree (.account account) before after) :
    after.ledgerOf account = before.ledgerOf account :=
  agree.2.symm

theorem findAccount_of_agree {account : Uuid} {before after : World}
    (agree : Agree (.account account) before after) :
    after.findAccount account = before.findAccount account := by
  unfold World.findAccount
  rw [← List.head?_filter, ← List.head?_filter, agree.1]

theorem findBalance_of_agree {account : Uuid} {before after : World}
    (agree : Agree (.balance account) before after) :
    after.findBalance account = before.findBalance account := by
  unfold World.findBalance
  rw [← List.head?_filter, ← List.head?_filter]
  exact congrArg List.head? agree.symm

/-- With its ledger standing still, the balance of a wallet stands still too. -/
theorem balance_of_agree {account : Uuid} {before after : World} {first second : BillingPointBalance}
    (holdsBefore : WalletInvariant before) (holdsAfter : WalletInvariant after)
    (agree : Agree (.account account) before after)
    (foundBefore : before.findBalance account = some first)
    (foundAfter : after.findBalance account = some second) : second.balance = first.balance := by
  rw [(holdsBefore.wallet account first foundBefore).balanced,
    (holdsAfter.wallet account second foundAfter).balanced, ledgerOf_of_agree agree]

theorem unclaimed_of_absent {world : World} {account : Uuid} {claimKey : String}
    (absent : world.findLedger account claimKey = none) :
    ∀ row ∈ world.ledgerOf account, row.claimKey ≠ claimKey := by
  intro row member
  simpa using List.find?_eq_none.mp absent row member

/-! ### Checks of the calls -/

section Calls

variable {port : PaymentProviderPort} {discipline : Discipline billing World Call} {pid : Pid}
  {call : Call}
variable {α β : Type}

/-- A call ends outside transactions, with wallets in order. -/
abbrev Kept : Except billing.Error α → Option (Session World Key) → World → Prop :=
  Returned WalletInvariant

/-! #### Transactions on the way to a posting -/

/-- A transaction that has not touched a wallet so far. -/
structure Aside (opened : Session World Key) : Prop where
  sound : opened.doomed = false
  accounts : ∀ world, (opened.pending world).accounts = world.accounts
  balances : ∀ world, (opened.pending world).balances = world.balances
  ledger : ∀ world, (opened.pending world).ledger = world.ledger

theorem Aside.fresh : Aside (.fresh : Session World Key) :=
  ⟨rfl, fun _ => rfl, fun _ => rfl, fun _ => rfl⟩

theorem Aside.findBalance {opened : Session World Key} (aside : Aside opened) (world : World)
    (account : Uuid) : (opened.pending world).findBalance account = world.findBalance account := by
  simp only [World.findBalance, aside.balances]

theorem Aside.ledgerOf {opened : Session World Key} (aside : Aside opened) (world : World)
    (account : Uuid) : (opened.pending world).ledgerOf account = world.ledgerOf account := by
  simp only [World.ledgerOf, aside.ledger]

theorem Aside.findLedger {opened : Session World Key} (aside : Aside opened) (world : World)
    (account : Uuid) (claimKey : String) :
    (opened.pending world).findLedger account claimKey = world.findLedger account claimKey := by
  simp only [World.findLedger, aside.ledgerOf]

theorem Aside.invariant {opened : Session World Key} (aside : Aside opened) {world : World}
    (holds : WalletInvariant world) : WalletInvariant (opened.pending world) :=
  holds.congr (aside.accounts world) (aside.balances world) (aside.ledger world)

/-- A transaction that has set the balance row of one account, and nothing else of a wallet. -/
structure Updated (opened : Session World Key) (account : Uuid)
    (change : BillingPointBalance → BillingPointBalance) : Prop where
  sound : opened.doomed = false
  accounts : ∀ world, (opened.pending world).accounts = world.accounts
  balances : ∀ world, (opened.pending world).balances =
    updateWhere (·.billingAccountId = account) change world.balances
  ledger : ∀ world, (opened.pending world).ledger = world.ledger
  held : Key.balance account ∈ opened.held

/-- A transaction whose commit would leave every wallet in order. -/
structure Ready (protocol : Protocol (system port)) (pid : Pid) (opened : Session World Key)
    (world : World) : Prop where
  sound : opened.doomed = false
  commits : protocol.After pid (some opened) world fun after =>
    WalletInvariant after → WalletInvariant (opened.pending after)

theorem Aside.ready {opened : Session World Key} (aside : Aside opened) (world : World) :
    Ready (walletProtocol port discipline) pid opened world :=
  ⟨aside.sound, fun _ _ _ holds => aside.invariant holds⟩

theorem Ready.later {opened : Session World Key} {world after : World}
    (ready : Ready (walletProtocol port discipline) pid opened world)
    (calm : (walletProtocol port discipline).Calm pid (some opened) world after) :
    Ready (walletProtocol port discipline) pid opened after :=
  ⟨ready.sound, ready.commits.later calm⟩

theorem Ready.close {value : α} {opened : Session World Key} {world : World}
    (ready : Ready (walletProtocol port discipline) pid opened world)
    (holds : WalletInvariant world) :
    (walletProtocol port discipline).closePost pid call Kept (.ok value) (some opened) world :=
  closePost_ok ready.sound ⟨ready.commits.here holds holds, fun _ _ => trivial,
    fun _ _ holds => ⟨rfl, holds⟩⟩

/-- The statement leaves every wallet alone. -/
def LeavesWallets (asked : Statement) : Prop :=
  ∀ choice world effect, exec choice asked world = .ok effect → ∀ other,
    (effect.write other).accounts = other.accounts ∧
    (effect.write other).balances = other.balances ∧
    (effect.write other).ledger = other.ledger

theorem wp_aside {asked : Statement} {opened : Session World Key} {world : World}
    {Q : Except billing.Error asked.Reply → Option (Session World Key) → World → Prop}
    (harmless : Harmless Q) (aside : Aside opened) (leaves : LeavesWallets asked)
    (goesOn : ∀ choice effect (next : Session World Key), Aside next →
      exec choice asked (opened.pending world) = .ok effect →
      opened.held ⊆ next.held → effect.keys ⊆ next.held →
        (walletProtocol port discipline).After pid (some next) world
          (Q (.ok effect.reply) (some next))) :
    (walletProtocol port discipline).wp pid call (@Program.ask billing asked) Q (some opened) world := by
  refine wp_ask_open harmless fun _ _ choice effect executed => ?_
  refine goesOn choice effect _ ⟨aside.sound, ?_, ?_, ?_⟩ executed
    (List.subset_append_right _ _) (List.subset_append_left _ _)
  · intro world
    exact (leaves choice _ effect executed _).1.trans (aside.accounts world)
  · intro world
    exact (leaves choice _ effect executed _).2.1.trans (aside.balances world)
  · intro world
    exact (leaves choice _ effect executed _).2.2.trans (aside.ledger world)

/-- The same for a transaction that is ready to commit. -/
theorem wp_ready {asked : Statement} {opened : Session World Key} {world : World}
    {Q : Except billing.Error asked.Reply → Option (Session World Key) → World → Prop}
    (harmless : Harmless Q) (ready : Ready (walletProtocol port discipline) pid opened world)
    (leaves : LeavesWallets asked)
    (goesOn : ∀ reply (next : Session World Key),
      Ready (walletProtocol port discipline) pid next world →
        (walletProtocol port discipline).After pid (some next) world (Q (.ok reply) (some next))) :
    (walletProtocol port discipline).wp pid call (@Program.ask billing asked) Q (some opened) world := by
  refine wp_ask_open harmless fun _ _ choice effect executed => ?_
  refine goesOn effect.reply _ ⟨ready.sound, ?_⟩
  intro after calm holds invariant
  obtain ⟨accounts, balances, ledger⟩ := leaves choice _ effect executed (opened.pending after)
  exact (ready.commits after calm.ofExtend holds invariant).congr accounts balances ledger

/-! #### Postings -/

theorem updateBalance_wp {account : Uuid} {data : BalanceUpdate} {opened : Session World Key}
    {world : World}
    {Q : Except billing.Error BillingPointBalance → Option (Session World Key) → World → Prop}
    (harmless : Harmless Q) (aside : Aside opened)
    (goesOn : discipline.admits pid call (.updateBalance account data) (opened.pending world) →
      ∀ balance (next : Session World Key), world.findBalance account = some balance →
      Updated next account (fun row =>
        { row with
          balance := data.balance
          lifetimeGranted := row.lifetimeGranted + data.lifetimeGranted
          lifetimeSpent := row.lifetimeSpent + data.lifetimeSpent }) →
      opened.held ⊆ next.held →
        (walletProtocol port discipline).After pid (some next) world fun after =>
          ∀ reply, Q (.ok reply) (some next) after) :
    (walletProtocol port discipline).wp pid call (Db.updateBalance account data) Q (some opened)
      world := by
  refine wp_ask_open harmless fun _ admitted choice effect executed => ?_
  change exec choice (.updateBalance account data) (opened.pending world) = .ok effect at executed
  simp only [exec, aside.findBalance] at executed
  split at executed
  · cases executed
  · next balance found =>
    refine (goesOn admitted balance (opened.extend effect) found ⟨aside.sound, ?_, ?_, ?_, ?_⟩
      (List.subset_append_right _ _)).mono fun _ all => all _
    all_goals obtain rfl := Except.ok.inj executed
    · exact fun world => aside.accounts world
    · intro world
      exact congrArg (updateWhere _ _) (aside.balances world)
    · exact fun world => aside.ledger world
    · exact List.mem_cons_self

/-- What the rows of a call that updates a balance must satisfy when it posts. -/
theorem post_ready {account : Uuid} {change : BillingPointBalance → BillingPointBalance}
    {opened : Session World Key} {world : World} {row : BillingPointLedger}
    {balance : BillingPointBalance} {effect : Effect World Key Unit} (choice : Nat)
    (updated : Updated opened account change) (owner : row.billingAccountId = account)
    (sameOwner : ∀ balance, (change balance).billingAccountId = balance.billingAccountId)
    (found : world.findBalance account = some balance)
    (changes : change balance = balance.after row)
    (executed : exec choice (.createLedger row) (opened.pending world) = .ok effect)
    (postable : (∀ other ∈ world.ledgerOf account, other.claimKey ≠ row.claimKey) →
      Postable balance (world.ledgerOf account) row) :
    Ready (walletProtocol port discipline) pid (opened.extend effect) world := by
  obtain ⟨unclaimed, executed⟩ := ok_of_unless executed
  obtain rfl := Except.ok.inj executed
  have rowsPending : (opened.pending world).ledgerOf account = world.ledgerOf account := by
    simp only [World.ledgerOf, updated.ledger]
  have absent : (opened.pending world).findLedger account row.claimKey = none := by
    rw [← owner]
    exact Option.not_isSome_iff_eq_none.mp unclaimed
  refine ⟨updated.sound, ?_⟩
  intro after calm _ holds
  have sameBalance := findBalance_of_agree
    (calm.agree _ rfl (.balance account) (List.mem_append_right _ updated.held))
  have sameRows := ledgerOf_of_agree
    (calm.agree _ rfl (.account account) (by simp [Session.extend, owner]))
  refine holds.post ⟨updated.accounts after, updated.balances after, ?_, owner⟩
    (sameBalance.trans found) ?_ sameOwner changes
  · exact congrArg (· ++ [row]) (updated.ledger after)
  · rw [sameRows]
    apply postable
    rw [← rowsPending]
    exact unclaimed_of_absent absent

theorem createLedger_wp {account : Uuid} {change : BillingPointBalance → BillingPointBalance}
    {opened : Session World Key} {world : World} {row : BillingPointLedger}
    {balance : BillingPointBalance}
    {Q : Except billing.Error Unit → Option (Session World Key) → World → Prop}
    (harmless : Harmless Q)
    (updated : Updated opened account change) (owner : row.billingAccountId = account)
    (sameOwner : ∀ balance, (change balance).billingAccountId = balance.billingAccountId)
    (found : world.findBalance account = some balance)
    (changes : change balance = balance.after row)
    (postable : (∀ other ∈ world.ledgerOf account, other.claimKey ≠ row.claimKey) →
      Postable balance (world.ledgerOf account) row)
    (goesOn : ∀ next : Session World Key, Ready (walletProtocol port discipline) pid next world →
      (walletProtocol port discipline).After pid (some next) world (Q (.ok ()) (some next))) :
    (walletProtocol port discipline).wp pid call (Db.createLedger row) Q (some opened) world :=
  wp_ask_open harmless fun _ _ choice _ executed =>
    goesOn _ (post_ready choice updated owner sameOwner found changes executed postable)

/-- A replayed claim key fails the transaction, so that nothing is committed. -/
theorem claimLedger_wp {account : Uuid} {change : BillingPointBalance → BillingPointBalance}
    {opened : Session World Key} {world : World} {row : BillingPointLedger}
    {balance : BillingPointBalance}
    (updated : Updated opened account change) (owner : row.billingAccountId = account)
    (sameOwner : ∀ balance, (change balance).billingAccountId = balance.billingAccountId)
    (found : world.findBalance account = some balance)
    (changes : change balance = balance.after row)
    (postable : (∀ other ∈ world.ledgerOf account, other.claimKey ≠ row.claimKey) →
      Postable balance (world.ledgerOf account) row) :
    (walletProtocol port discipline).wp pid call (claimLedger row)
      ((walletProtocol port discipline).closePost pid call Kept) (some opened) world := by
  unfold claimLedger
  rw [wp_tryCatch]
  refine ⟨?_, ?_⟩
  · intro error after _ _
    change (walletProtocol port discipline).wp pid call
      (if isPrismaUniqueError error then pure () else throw error) _ _ _
    split
    · exact closePost_doomed rfl fun _ _ holds => ⟨rfl, holds⟩
    · exact close_harmless call error none after
  · intro _ _ choice effect executed after calm holds
    have ready : Ready (walletProtocol port discipline) pid (opened.extend effect) world :=
      post_ready choice updated owner sameOwner found changes executed postable
    exact (ready.later calm).close holds

theorem findLedger_wp {account : Uuid} {claimKey : String} {opened : Session World Key}
    {world : World}
    {Q : Except billing.Error (Option BillingPointLedger) → Option (Session World Key) → World → Prop}
    (harmless : Harmless Q) (aside : Aside opened)
    (goesOn : (walletProtocol port discipline).After pid (some opened) world
      (Q (.ok (world.findLedger account claimKey)) (some opened))) :
    (walletProtocol port discipline).wp pid call (Db.findLedger account claimKey) Q (some opened)
      world := by
  rw [← aside.findLedger] at goesOn
  exact wp_read_open harmless (fun _ => rfl) goesOn

theorem findBalance_wp {account : Uuid} {opened : Session World Key} {world : World}
    {Q : Except billing.Error (Option BillingPointBalance) → Option (Session World Key) → World → Prop}
    (harmless : Harmless Q) (aside : Aside opened)
    (goesOn : (walletProtocol port discipline).After pid (some opened) world
      (Q (.ok (world.findBalance account)) (some opened))) :
    (walletProtocol port discipline).wp pid call (Db.findBalance account) Q (some opened) world := by
  rw [← aside.findBalance] at goesOn
  exact wp_read_open harmless (fun _ => rfl) goesOn

theorem lockAccount_wp {account : Uuid} {opened : Session World Key} {world : World}
    {Q : Except billing.Error Unit → Option (Session World Key) → World → Prop}
    (harmless : Harmless Q) (aside : Aside opened)
    (goesOn : ∀ next : Session World Key, Aside next → Key.account account ∈ next.held →
      (walletProtocol port discipline).After pid (some next) world (Q (.ok ()) (some next))) :
    (walletProtocol port discipline).wp pid call (Db.lockAccount account) Q (some opened) world := by
  have leaves : LeavesWallets (.lockAccount account) := by
    intro choice world effect executed other
    obtain rfl := Except.ok.inj executed
    exact ⟨rfl, rfl, rfl⟩
  refine wp_aside harmless aside leaves fun choice effect next asideNext executed _ keys => ?_
  obtain rfl := Except.ok.inj executed
  exact goesOn next asideNext (keys (List.mem_singleton_self _))

theorem spendFromWallet_wp {account : Uuid} {metric : BillingMetric} {points : Int} {claimKey : String}
    (positive : 0 < points) (world : World) :
    (walletProtocol port discipline).wp pid call
      (Program.transaction (spendFromWallet account metric points claimKey)) Kept none world := by
  have harmless : Harmless ((walletProtocol port discipline).closePost pid call
    (Kept : Except billing.Error Unit → _)) := close_harmless call
  rw [wp_transaction]
  intro started _ _
  unfold spendFromWallet
  rw [wp_bind]
  refine lockAccount_wp harmless.bindPost .fresh fun opened aside locked => ?_
  intro looked _ holdsLooked
  change (walletProtocol port discipline).wp pid call (Db.findLedger account claimKey >>= _) _ _ _
  rw [wp_bind]
  refine findLedger_wp harmless.bindPost aside ?_
  intro read calmRead holdsRead
  cases claimed : looked.findLedger account claimKey with
  | some row => exact (aside.ready read).close holdsRead
  | none =>
      change (walletProtocol port discipline).wp pid call (Db.findBalance account >>= _) _ _ _
      rw [wp_bind]
      refine findBalance_wp harmless.bindPost aside ?_
      intro updating calmUpdating holdsUpdating
      cases found : read.findBalance account with
      | none => exact close_harmless call _ none updating
      | some balance =>
          change (walletProtocol port discipline).wp pid call (if balance.balance < points then _ else _) _ _ _
          split
          · exact close_harmless call _ none updating
          · next covered =>
            rw [wp_bind]
            refine updateBalance_wp harmless.bindPost aside fun _ current next foundNow updated kept => ?_
            intro posting calmPosting holdsPosting reply
            have sameRow := findBalance_of_agree
              (calmPosting.agree _ rfl (.balance account) updated.held)
            have sameBalance : current.balance = balance.balance := by
              exact balance_of_agree holdsRead holdsUpdating
                (calmUpdating.agree _ rfl (.account account) locked) found foundNow
            refine claimLedger_wp updated rfl (fun _ => rfl) (sameRow.trans foundNow) ?_ ?_
            · simp [BillingPointBalance.after, granted, spent]
            · intro unclaimed
              exact {
                records := by simp [signed, sameBalance]; omega
                nonneg := by simp; omega
                unclaimed := unclaimed
                positive := positive
                kind := by simp
                refund := by simp }

theorem refundToWallet_wp {account : Uuid} {claimKey : String} (world : World) :
    (walletProtocol port discipline).wp pid call
      (Program.transaction (refundToWallet account claimKey)) Kept none world := by
  have harmless : Harmless ((walletProtocol port discipline).closePost pid call
    (Kept : Except billing.Error Unit → _)) := close_harmless call
  rw [wp_transaction]
  intro started _ _
  unfold refundToWallet
  rw [wp_bind]
  refine lockAccount_wp harmless.bindPost .fresh fun opened aside locked => ?_
  intro looked _ holdsLooked
  change (walletProtocol port discipline).wp pid call
    (Db.findLedger account ("refund:" ++ claimKey) >>= _) _ _ _
  rw [wp_bind]
  refine findLedger_wp harmless.bindPost aside ?_
  intro searched calmSearched holdsSearched
  cases refunded : looked.findLedger account ("refund:" ++ claimKey) with
  | some row => exact (aside.ready searched).close holdsSearched
  | none =>
      change (walletProtocol port discipline).wp pid call (Db.findLedger account claimKey >>= _) _ _ _
      rw [wp_bind]
      refine findLedger_wp harmless.bindPost aside ?_
      intro read calmRead holdsRead
      cases spending : searched.findLedger account claimKey with
      | none => exact (aside.ready read).close holdsRead
      | some spend =>
          change (walletProtocol port discipline).wp pid call
            (if spend.direction ≠ .debit then _ else _) _ _ _
          split
          · exact (aside.ready read).close holdsRead
          · next isDebit =>
            rw [wp_bind]
            refine findBalance_wp harmless.bindPost aside ?_
            intro updating calmUpdating holdsUpdating
            cases found : read.findBalance account with
            | none => exact close_harmless call _ none updating
            | some balance =>
                change (walletProtocol port discipline).wp pid call
                  (Db.updateBalance account ⟨balance.balance + spend.points, 0, 0⟩ >>= _) _ _ _
                rw [wp_bind]
                refine updateBalance_wp harmless.bindPost aside
                  fun _ current next foundNow updated kept => ?_
                intro posting calmPosting holdsPosting reply
                have sameRow := findBalance_of_agree
                  (calmPosting.agree _ rfl (.balance account) updated.held)
                have sameBalance : current.balance = balance.balance :=
                  balance_of_agree holdsRead holdsUpdating
                    (calmUpdating.agree _ rfl (.account account) locked) found foundNow
                -- The debit that was found is still there when its refund is posted.
                have member : spend ∈ posting.ledgerOf account := by
                  rw [ledgerOf_of_agree (calmPosting.agree _ rfl (.account account) (kept locked)),
                    ledgerOf_of_agree (calmUpdating.agree _ rfl (.account account) locked),
                    ledgerOf_of_agree (calmRead.agree _ rfl (.account account) locked)]
                  exact List.mem_of_find?_eq_some spending
                have key : spend.claimKey = claimKey := by
                  simpa using List.find?_some spending
                have foundPosting := sameRow.trans foundNow
                have positive :=
                  (holdsPosting.wallet account current foundPosting).positive spend member
                have nonneg := (holdsPosting.wallet account current foundPosting).nonneg
                refine claimLedger_wp updated rfl (fun _ => rfl) foundPosting ?_ ?_
                · simp [BillingPointBalance.after, granted, spent]
                · intro unclaimed
                  exact {
                    records := by simp [signed, sameBalance]
                    nonneg := by simp; omega
                    unclaimed := unclaimed
                    positive := positive
                    kind := by simp
                    refund := fun _ => ⟨spend, member, not_not.mp isDebit, by simp [key], rfl⟩ }

/-- `topUpWallet` keeps wallets in order when its update finds the balance that it read. -/
theorem topUpBalance_wp {account : Uuid} {request : TopUpRequest} {balanceAfter : Int}
    (valid : request.valid = true)
    (current : ∀ world, discipline.admits pid call
      (.updateBalance account ⟨balanceAfter, request.points, 0⟩) world →
        ∀ balance, world.findBalance account = some balance →
          balance.balance + request.points = balanceAfter) (world : World) :
    (walletProtocol port discipline).wp pid call
      (Program.transaction (topUpBalance account request balanceAfter)) Kept none world := by
  have harmless : Harmless ((walletProtocol port discipline).closePost pid call
    (Kept : Except billing.Error BillingPointBalance → _)) := close_harmless call
  have positive : 0 < request.points := by
    have bounds : 1 ≤ request.points ∧ request.points ≤ 1000000 := by
      simpa [TopUpRequest.valid] using valid
    omega
  rw [wp_transaction]
  intro updating _ holdsUpdating
  unfold topUpBalance
  rw [wp_bind]
  refine updateBalance_wp harmless.bindPost .fresh fun admitted balance next found updated _ => ?_
  have read := current updating admitted balance found
  have nonneg := (holdsUpdating.wallet account balance found).nonneg
  intro posting calmPosting holdsPosting reply
  have foundPosting := (findBalance_of_agree
    (calmPosting.agree _ rfl (.balance account) updated.held)).trans found
  change (walletProtocol port discipline).wp pid call (Db.createLedger _ >>= _) _ _ _
  rw [wp_bind]
  refine createLedger_wp harmless.bindPost updated rfl (fun _ => rfl) foundPosting ?_ ?_ ?_
  · simp [BillingPointBalance.after, granted, spent]
  · intro unclaimed
    exact {
      records := by simp [signed, read]
      nonneg := by simp; omega
      unclaimed := unclaimed
      positive := positive
      kind := by simp
      refund := by simp }
  · intro last ready committing calm holds
    exact (ready.later calm).close holds

theorem lt_fresh {used : List Nat} {id : Nat} (choice : Nat) (member : id ∈ used) :
    id < fresh used choice := by
  unfold fresh
  induction used with
  | nil => cases member
  | cons head tail inductionHypothesis =>
      simp only [List.foldr_cons]
      rcases List.mem_cons.mp member with rfl | inTail
      · omega
      · have below := inductionHypothesis inTail
        omega

/-- A new identifier belongs to no account. -/
theorem findAccount_fresh (world : World) (choice : Nat) :
    world.findAccount (fresh (world.accounts.map (·.id)) choice) = none := by
  apply List.find?_eq_none.mpr
  intro account member
  have listed : account.id ∈ world.accounts.map (·.id) := List.mem_map_of_mem member
  simpa using Nat.ne_of_lt (lt_fresh choice listed)

/-- The transaction that opens an account. -/
theorem openAccount_wp {userId : Uuid} {business : Option Uuid} (world : World) :
    (walletProtocol port discipline).wp pid call
      (Program.transaction do
        let account ← Db.createAccount userId business
        Db.createBalance ⟨account.id, trialGrantPoints, trialGrantPoints, 0⟩
        Db.createLedger {
          billingAccountId := account.id
          direction := .credit
          reason := .trialGrant
          metric := none
          points := trialGrantPoints
          balanceAfter := trialGrantPoints
          claimKey := "trial-grant:" ++ toString account.id
          transactionId := none }
        return account) Kept none world := by
  have harmless : Harmless ((walletProtocol port discipline).closePost pid call
    (Kept : Except billing.Error BillingAccount → _)) := close_harmless call
  rw [wp_transaction]
  intro creating _ _
  rw [wp_bind]
  refine wp_ask_open harmless.bindPost fun _ _ choice effect executed => ?_
  obtain ⟨-, executed⟩ := ok_of_unless executed
  obtain rfl := Except.ok.inj executed
  have isNew := findAccount_fresh creating choice
  intro balancing calmBalancing _
  change (walletProtocol port discipline).wp pid call (Db.createBalance _ >>= _) _ _ _
  rw [wp_bind]
  refine wp_ask_open harmless.bindPost fun _ _ _ effect executed => ?_
  obtain ⟨-, executed⟩ := ok_of_unless executed
  obtain rfl := Except.ok.inj executed
  intro granting calmGranting _
  change (walletProtocol port discipline).wp pid call (Db.createLedger _ >>= _) _ _ _
  rw [wp_bind]
  refine wp_ask_open harmless.bindPost fun _ _ _ effect executed => ?_
  obtain ⟨-, executed⟩ := ok_of_unless executed
  obtain rfl := Except.ok.inj executed
  intro committing calmCommitting holds
  have stillNew : committing.findAccount (fresh (creating.accounts.map (·.id)) choice) = none :=
    ((findAccount_of_agree (calmCommitting.ofExtend.ofExtend.agree _ rfl _ List.mem_cons_self)).trans
      (findAccount_of_agree (calmGranting.ofExtend.agree _ rfl _ List.mem_cons_self))).trans
        ((findAccount_of_agree (calmBalancing.agree _ rfl _ List.mem_cons_self)).trans isNew)
  refine closePost_ok rfl ⟨?_, fun _ _ => trivial, fun _ _ holds => ⟨rfl, holds⟩⟩
  have positive : 0 < trialGrantPoints := by decide
  exact holds.open rfl rfl rfl rfl stillNew rfl positive rfl rfl

/-- Statements on other tables, and reads. -/
def touchesWallets : Statement → Bool
  | .createAccount _ _ | .createBalance _ | .updateBalance _ _ | .createLedger _ => true
  | _ => false

theorem leaves_of_elsewhere {asked : Statement} (elsewhere : touchesWallets asked = false) :
    LeavesWallets asked := by
  intro choice world effect executed other
  cases asked
  case createAccount | createBalance | updateBalance | createLedger => cases elsewhere
  case createTransaction | createEvent | createOutbox =>
    obtain ⟨-, executed⟩ := ok_of_unless executed
    obtain rfl := Except.ok.inj executed
    exact ⟨rfl, rfl, rfl⟩
  case updateAttempt | updateEvent =>
    obtain ⟨-, executed⟩ := ok_of_when executed
    obtain rfl := Except.ok.inj executed
    exact ⟨rfl, rfl, rfl⟩
  all_goals
    obtain rfl := Except.ok.inj executed
    exact ⟨rfl, rfl, rfl⟩

/-- A paid event posts its bundle to the wallet whose account it locks. -/
theorem applyPaidEvent_wp {attempt : BillingCheckoutAttempt} {event : PaymentProviderEvent}
    (world : World) :
    (walletProtocol port discipline).wp pid call
      (Program.transaction (applyPaidEvent attempt event)) Kept none world := by
  have harmless : Harmless ((walletProtocol port discipline).closePost pid call
    (Kept : Except billing.Error Unit → _)) := close_harmless call
  rw [wp_transaction]
  intro started _ _
  unfold applyPaidEvent
  rw [wp_bind]
  refine wp_aside harmless.bindPost .fresh (leaves_of_elsewhere rfl)
    fun _ effect opened aside _ _ _ => ?_
  intro searched _ holdsSearched
  cases effect.reply with
  | some existing => exact (aside.ready searched).close holdsSearched
  | none =>
      dsimp only
      cases bundleFound : getBillingBundle attempt.priceCode with
      | none => exact close_harmless call _ none searched
      | some bundle =>
          change (walletProtocol port discipline).wp pid call
            (Db.lockAccount attempt.billingAccountId >>= _) _ _ _
          rw [wp_bind]
          refine lockAccount_wp harmless.bindPost aside fun holding asideHolding locked => ?_
          intro paying _ _
          change (walletProtocol port discipline).wp pid call (Db.createTransaction _ >>= _) _ _ _
          rw [wp_bind]
          refine wp_aside harmless.bindPost asideHolding (leaves_of_elsewhere rfl)
            fun _ transaction paid asidePaid _ keptPaid _ => ?_
          intro confirming _ _
          change (walletProtocol port discipline).wp pid call (Db.updateAttempt _ _ _ >>= _) _ _ _
          rw [wp_bind]
          refine wp_aside harmless.bindPost asidePaid (leaves_of_elsewhere rfl)
            fun _ _ confirmed asideConfirmed _ keptConfirmed _ => ?_
          have lockedNow := keptConfirmed (keptPaid locked)
          intro read _ holdsRead
          change (walletProtocol port discipline).wp pid call
            (Db.findBalance attempt.billingAccountId >>= _) _ _ _
          rw [wp_bind]
          refine findBalance_wp harmless.bindPost asideConfirmed ?_
          intro updating calmUpdating holdsUpdating
          cases found : read.findBalance attempt.billingAccountId with
          | none => exact close_harmless call _ none updating
          | some balance =>
              change (walletProtocol port discipline).wp pid call (Db.updateBalance _ _ >>= _) _ _ _
              rw [wp_bind]
              refine updateBalance_wp harmless.bindPost asideConfirmed
                fun _ current next foundNow updated _ => ?_
              intro posting calmPosting holdsPosting reply
              have sameBalance : current.balance = balance.balance :=
                balance_of_agree holdsRead holdsUpdating
                  (calmUpdating.agree _ rfl (.account attempt.billingAccountId) lockedNow)
                  found foundNow
              have foundPosting := (findBalance_of_agree (calmPosting.agree _ rfl
                (.balance attempt.billingAccountId) updated.held)).trans foundNow
              have nonneg := (holdsPosting.wallet _ current foundPosting).nonneg
              have positive := points_pos_of_bundle bundleFound
              change (walletProtocol port discipline).wp pid call (Db.createLedger _ >>= _) _ _ _
              rw [wp_bind]
              refine createLedger_wp harmless.bindPost updated rfl (fun _ => rfl) foundPosting
                ?_ ?_ ?_
              · simp [BillingPointBalance.after, granted, spent]
              · intro unclaimed
                exact {
                  records := by simp [signed, sameBalance]
                  nonneg := by simp; omega
                  unclaimed := unclaimed
                  positive := positive
                  kind := by simp
                  refund := by simp }
              · intro last ready noting calmNoting _
                refine wp_ready harmless (ready.later calmNoting) (leaves_of_elsewhere rfl)
                  fun _ final readyFinal => ?_
                intro committing calmCommitting holds
                exact (readyFinal.later calmCommitting).close holds

theorem applyEvent_wp {attempt : BillingCheckoutAttempt} {event : PaymentProviderEvent}
    (world : World) :
    (walletProtocol port discipline).wp pid call
      (Program.transaction (applyEvent attempt event)) Kept none world := by
  unfold applyEvent
  cases event.eventType with
  | checkoutPaid => exact applyPaidEvent_wp world
  | checkoutPending | checkoutFailed =>
      rw [wp_transaction]
      intro started _ _
      refine wp_aside (close_harmless call) .fresh (leaves_of_elsewhere rfl)
        fun _ _ opened aside _ _ _ => ?_
      intro committing _ holds
      exact (aside.ready committing).close holds

/-! #### Whole calls -/

variable (port discipline pid call) in
/-- Alone or among others, the program leaves every wallet in order. -/
abbrev KeepsWallets (program : Code α) : Prop :=
  (walletProtocol port discipline).Maintains pid call program

theorem keeps_ask {asked : Statement} (elsewhere : touchesWallets asked = false) :
    KeepsWallets port discipline pid call (@Program.ask billing asked) := by
  apply maintains_ask
  intro choice world effect _ executed holds
  obtain ⟨accounts, balances, ledger⟩ :=
    leaves_of_elsewhere elsewhere choice world effect executed world
  exact ⟨holds.congr accounts balances ledger, fun _ _ => trivial⟩

theorem keeps_ensureBillingAccount (userId : Uuid) :
    KeepsWallets port discipline pid call (ensureBillingAccount userId) := by
  unfold ensureBillingAccount
  refine maintains_bind (keeps_ask rfl) fun existing => ?_
  cases existing with
  | some existing => exact maintains_pure existing
  | none =>
      refine maintains_bind (keeps_ask rfl) fun business => ?_
      refine maintains_tryCatch (fun world _ => openAccount_wp world) fun error => ?_
      dsimp only
      split
      · refine maintains_bind (keeps_ask rfl) fun replay => ?_
        cases replay with
        | some replay => exact maintains_pure replay
        | none => exact maintains_throw error
      · exact maintains_throw error

theorem keeps_assertAccountActive (account : BillingAccount) :
    KeepsWallets port discipline pid call (assertAccountActive account) := by
  unfold assertAccountActive
  split
  · exact maintains_throw _
  · exact maintains_pure ()

theorem keeps_spendPoints (userId : Uuid) (metric : BillingMetric) (units : Number)
    (claimKey : String) :
    KeepsWallets port discipline pid call (spendPoints userId metric units claimKey) := by
  unfold spendPoints
  cases positiveUnits units with
  | none => exact maintains_throw _
  | some units =>
      dsimp only
      split
      · exact maintains_pure ()
      · next charged =>
        refine maintains_bind (keeps_ensureBillingAccount userId) fun account => ?_
        refine maintains_bind (keeps_assertAccountActive account) fun _ => ?_
        exact fun world _ => spendFromWallet_wp (by omega) world

theorem keeps_refundPoints (userId : Uuid) (claimKey : String) :
    KeepsWallets port discipline pid call (refundPoints userId claimKey) :=
  maintains_bind (keeps_ensureBillingAccount userId) fun _ world _ => refundToWallet_wp world

theorem keeps_releaseStrategyCycle (userId : Uuid) (strategyId : String) :
    KeepsWallets port discipline pid call (releaseStrategyCycle userId strategyId) := by
  unfold releaseStrategyCycle
  refine maintains_bind (keeps_ensureBillingAccount userId) fun account => ?_
  refine maintains_bind (keeps_ask rfl) fun spend => ?_
  cases spend with
  | none => exact maintains_pure ()
  | some spend => exact keeps_refundPoints userId spend.claimKey

theorem keeps_handleWebhook (providerName : String) (input : ProviderWebhookInput) :
    KeepsWallets port discipline pid call (handleWebhook port providerName input) := by
  apply maintains_handleWebhook
  · intro asked handles
    apply keeps_ask
    cases asked <;> first | rfl | cases handles
  · intro attempt event world _
    exact applyEvent_wp world

/-- The balance that a top-up computed is still the wallet's when it is written. -/
def CurrentTopUps (discipline : Discipline billing World Call) : Prop :=
  ∀ pid id request account data world,
    discipline.admits pid (.topUpWallet id request) (.updateBalance account data) world →
    ∀ balance, world.findBalance account = some balance →
      balance.balance + request.points = data.balance

theorem keeps_topUpWallet (current : CurrentTopUps discipline) (id : Uuid)
    {request : TopUpRequest} (valid : request.valid = true) :
    KeepsWallets port discipline pid (.topUpWallet id request) (topUpWallet id request) := by
  unfold topUpWallet
  refine maintains_bind (keeps_ask rfl) fun account => ?_
  cases account with
  | none => exact maintains_throw _
  | some account =>
      refine maintains_bind (keeps_ask rfl) fun found => ?_
      cases found with
      | none => exact maintains_throw _
      | some balance =>
          refine maintains_bind (fun world _ => ?_) fun updated => ?_
          · refine topUpBalance_wp valid (fun world admitted balance found => ?_) world
            exact current pid id request id _ world admitted balance found
          · exact maintains_bind (keeps_ask rfl) fun _ => maintains_pure _

/-- Whether a call is a manual top-up. -/
def Call.isTopUp : Call → Bool
  | topUpWallet _ _ => true
  | _ => false

/-- Every call but `topUpWallet` keeps every wallet in order, whatever runs beside it. -/
theorem keeps_program {call : Call} (valid : call.valid = true)
    (current : call.isTopUp = true → CurrentTopUps discipline) :
    KeepsWallets port discipline pid call (call.program port) := by
  cases call with
  | ensureBillingAccount userId => exact maintains_discard (keeps_ensureBillingAccount userId)
  | spendPoints userId metric units claimKey =>
      exact keeps_spendPoints userId metric units claimKey
  | refundPoints userId claimKey => exact keeps_refundPoints userId claimKey
  | releaseStrategyCycle userId strategyId => exact keeps_releaseStrategyCycle userId strategyId
  | handleWebhook providerName input => exact maintains_discard (keeps_handleWebhook providerName input)
  | topUpWallet id request => exact maintains_discard (keeps_topUpWallet (current rfl) id valid)

end Calls

end MarketMind.Billing
