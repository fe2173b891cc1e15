import Mathlib.Data.List.Nodup
import MarketMind.Accounting.RunningBalance
import MarketMind.Billing.Store

/-!
Owns what it means for the wallets of a world to be in order: the denormalised
balance and counters agree with the append-only ledger, row by row, and no claim
key or refund is used twice. Shows that posting a row that the services may post
keeps this.

Does not own which call posts which row.
-/

namespace MarketMind.Billing

open Accounting

/-! ### One wallet -/

/-- What a ledger row adds to the balance. -/
def signed (row : BillingPointLedger) : Int :=
  match row.direction with
  | .credit => row.points
  | .debit => -row.points

/-- What a ledger row adds to `lifetimeGranted`. -/
def granted (row : BillingPointLedger) : Int :=
  match row.reason with
  | .topup | .trialGrant => row.points
  | .spend | .refund => 0

/-- What a ledger row adds to `lifetimeSpent`. -/
def spent (row : BillingPointLedger) : Int :=
  match row.direction with
  | .credit => 0
  | .debit => row.points

/-- The sum of the rows of one direction. -/
def sumOf (direction : Direction) (rows : List BillingPointLedger) : Int :=
  total (·.points) (rows.filter (·.direction = direction))

/-- The sum of the trial grant and the top-ups. -/
def grants (rows : List BillingPointLedger) : Int :=
  total (·.points) (rows.filter fun row => row.reason = .topup ∨ row.reason = .trialGrant)

theorem total_signed (rows : List BillingPointLedger) :
    total signed rows = sumOf .credit rows - sumOf .debit rows := by
  induction rows with
  | nil => rfl
  | cons row rest inductionHypothesis =>
      simp only [sumOf, total_filter] at inductionHypothesis ⊢
      unfold total at inductionHypothesis ⊢
      simp only [List.map_cons, List.sum_cons, inductionHypothesis]
      cases direction : row.direction <;> simp [signed, direction] <;> omega

theorem total_granted (rows : List BillingPointLedger) : total granted rows = grants rows := by
  unfold grants
  rw [total_filter]
  congr 1
  funext row
  cases reason : row.reason <;> simp [granted, reason]

theorem total_spent (rows : List BillingPointLedger) : total spent rows = sumOf .debit rows := by
  unfold sumOf
  rw [total_filter]
  congr 1
  funext row
  cases direction : row.direction <;> simp [spent, direction]

/-- A balance row and its ledger are in order. -/
structure WalletOk (balance : BillingPointBalance) (rows : List BillingPointLedger) : Prop where
  balanced : balance.balance = total signed rows
  nonneg : 0 ≤ balance.balance
  running : Running signed (·.balanceAfter) rows
  opened : rows ≠ []
  granted : balance.lifetimeGranted = total granted rows
  spent : balance.lifetimeSpent = total spent rows
  keys : (rows.map (·.claimKey)).Nodup
  positive : ∀ row ∈ rows, 0 < row.points
  kinds : ∀ row ∈ rows, row.direction = .debit ↔ row.reason = .spend
  refunds : ∀ row ∈ rows, row.reason = .refund →
    ∃ debit ∈ rows, debit.direction = .debit ∧
      row.claimKey = "refund:" ++ debit.claimKey ∧ row.points = debit.points

/-- A row that may be posted to a wallet. -/
structure Postable (balance : BillingPointBalance) (rows : List BillingPointLedger)
    (row : BillingPointLedger) : Prop where
  records : row.balanceAfter = balance.balance + signed row
  nonneg : 0 ≤ row.balanceAfter
  unclaimed : ∀ other ∈ rows, other.claimKey ≠ row.claimKey
  positive : 0 < row.points
  kind : row.direction = .debit ↔ row.reason = .spend
  refund : row.reason = .refund →
    ∃ debit ∈ rows, debit.direction = .debit ∧
      row.claimKey = "refund:" ++ debit.claimKey ∧ row.points = debit.points

/-- The balance row after a posted ledger row. -/
def BillingPointBalance.after (balance : BillingPointBalance) (row : BillingPointLedger) :
    BillingPointBalance :=
  { balance with
    balance := row.balanceAfter
    lifetimeGranted := balance.lifetimeGranted + Billing.granted row
    lifetimeSpent := balance.lifetimeSpent + Billing.spent row }

theorem WalletOk.post {balance : BillingPointBalance} {rows : List BillingPointLedger}
    {row : BillingPointLedger} (ok : WalletOk balance rows) (postable : Postable balance rows row) :
    WalletOk (balance.after row) (rows ++ [row]) where
  balanced := by
    rw [total_append, total_singleton, ← ok.balanced]
    exact postable.records
  nonneg := postable.nonneg
  running := by
    apply ok.running.append_single
    rw [← ok.balanced]
    exact postable.records
  opened := by simp
  granted := by
    rw [total_append, total_singleton, ← ok.granted]
    rfl
  spent := by
    rw [total_append, total_singleton, ← ok.spent]
    rfl
  keys := by
    rw [List.map_append, List.map_singleton, List.nodup_append]
    refine ⟨ok.keys, List.nodup_singleton _, ?_⟩
    intro key member other single
    obtain ⟨earlier, earlierMember, rfl⟩ := List.mem_map.mp member
    rw [List.mem_singleton.mp single]
    exact postable.unclaimed earlier earlierMember
  positive := by
    intro other member
    rcases List.mem_append.mp member with earlier | last
    · exact ok.positive other earlier
    · rw [List.mem_singleton.mp last]
      exact postable.positive
  kinds := by
    intro other member
    rcases List.mem_append.mp member with earlier | last
    · exact ok.kinds other earlier
    · rw [List.mem_singleton.mp last]
      exact postable.kind
  refunds := by
    intro other member isRefund
    rcases List.mem_append.mp member with earlier | last
    · obtain ⟨debit, debitMember, facts⟩ := ok.refunds other earlier isRefund
      exact ⟨debit, List.mem_append_left _ debitMember, facts⟩
    · rw [List.mem_singleton.mp last] at isRefund ⊢
      obtain ⟨debit, debitMember, facts⟩ := postable.refund isRefund
      exact ⟨debit, List.mem_append_left _ debitMember, facts⟩

/-- A wallet begins with its trial grant. -/
theorem WalletOk.open {account : Uuid} {row : BillingPointLedger}
    (records : row.balanceAfter = row.points) (positive : 0 < row.points)
    (isGrant : row.reason = .trialGrant) (isCredit : row.direction = .credit) :
    WalletOk ⟨account, row.points, row.points, 0⟩ [row] where
  balanced := by simp [signed, isCredit]
  nonneg := Int.le_of_lt positive
  running := by
    apply (running_nil signed (·.balanceAfter)).append_single
    simp [signed, isCredit, records]
  opened := by simp
  granted := by simp [Billing.granted, isGrant]
  spent := by simp [Billing.spent, isCredit]
  keys := by simp
  positive := by simpa using positive
  kinds := by simp [isGrant, isCredit]
  refunds := by simp [isGrant]

/-- The newest row records the present balance. -/
theorem WalletOk.newest {balance : BillingPointBalance} {rows : List BillingPointLedger}
    (ok : WalletOk balance rows) :
    ∃ row, rows.getLast? = some row ∧ row.balanceAfter = balance.balance := by
  refine ⟨rows.getLast ok.opened, List.getLast?_eq_some_getLast ok.opened, ?_⟩
  rw [ok.balanced]
  exact ok.running.getLast (List.getLast?_eq_some_getLast ok.opened)

/-- A claim key identifies a row. -/
theorem WalletOk.row_unique {balance : BillingPointBalance} {rows : List BillingPointLedger}
    (ok : WalletOk balance rows) {first second : BillingPointLedger} (firstMember : first ∈ rows)
    (secondMember : second ∈ rows) (same : first.claimKey = second.claimKey) : first = second :=
  List.inj_on_of_nodup_map ok.keys firstMember secondMember same

/-- A refund gives back exactly what the debit of its key took. -/
theorem WalletOk.refund_points {balance : BillingPointBalance} {rows : List BillingPointLedger}
    (ok : WalletOk balance rows) {debit refund : BillingPointLedger} (debitMember : debit ∈ rows)
    (refundMember : refund ∈ rows) (isRefund : refund.reason = .refund)
    (reverses : refund.claimKey = "refund:" ++ debit.claimKey) : refund.points = debit.points := by
  obtain ⟨source, sourceMember, -, sourceKey, points⟩ := ok.refunds refund refundMember isRefund
  have sameKey : source.claimKey = debit.claimKey := by
    rw [sourceKey] at reverses
    exact (String.append_right_inj _).mp reverses
  rw [points, ok.row_unique sourceMember debitMember sameKey]

/-! ### All wallets -/

/-- Every wallet is in order, and there is no ledger without one. -/
structure WalletInvariant (world : World) : Prop where
  wallet : ∀ account balance, world.findBalance account = some balance →
    WalletOk balance (world.ledgerOf account)
  orphan : ∀ account, world.findBalance account = none → world.ledgerOf account = []
  owned : ∀ account, world.findAccount account = none → world.findBalance account = none

theorem walletInvariant_empty : WalletInvariant World.empty :=
  ⟨nofun, fun _ _ => rfl, fun _ _ => rfl⟩

/-- Only accounts, balances and ledger matter. -/
theorem WalletInvariant.congr {before after : World} (invariant : WalletInvariant before)
    (accounts : after.accounts = before.accounts) (balances : after.balances = before.balances)
    (ledger : after.ledger = before.ledger) : WalletInvariant after where
  wallet := by
    intro account balance found
    have sameRows : after.ledgerOf account = before.ledgerOf account := by
      simp only [World.ledgerOf, ledger]
    rw [sameRows]
    apply invariant.wallet
    simpa only [World.findBalance, balances] using found
  orphan := by
    intro account absent
    have sameRows : after.ledgerOf account = before.ledgerOf account := by
      simp only [World.ledgerOf, ledger]
    rw [sameRows]
    apply invariant.orphan
    simpa only [World.findBalance, balances] using absent
  owned := by
    intro account absent
    simp only [World.findBalance, balances]
    apply invariant.owned
    simpa only [World.findAccount, accounts] using absent

/-- The worlds in which a row has been posted to a wallet. -/
structure Posted (before after : World) (account : Uuid) (row : BillingPointLedger)
    (change : BillingPointBalance → BillingPointBalance) : Prop where
  accounts : after.accounts = before.accounts
  balances : after.balances = updateWhere (·.billingAccountId = account) change before.balances
  ledger : after.ledger = before.ledger ++ [row]
  owner : row.billingAccountId = account

/-- Posting a postable row, with the balance row that goes with it, keeps every wallet in order. -/
theorem WalletInvariant.post {before after : World} {account : Uuid} {row : BillingPointLedger}
    {change : BillingPointBalance → BillingPointBalance} {balance : BillingPointBalance}
    (invariant : WalletInvariant before) (posted : Posted before after account row change)
    (found : before.findBalance account = some balance)
    (postable : Postable balance (before.ledgerOf account) row)
    (sameOwner : ∀ balance, (change balance).billingAccountId = balance.billingAccountId)
    (changes : change balance = balance.after row) : WalletInvariant after := by
  have rowsHere : after.ledgerOf account = before.ledgerOf account ++ [row] := by
    simp [World.ledgerOf, posted.ledger, List.filter_append, posted.owner]
  have rowsElsewhere : ∀ other, other ≠ account →
      after.ledgerOf other = before.ledgerOf other := by
    intro other distinct
    simp [World.ledgerOf, posted.ledger, List.filter_append, posted.owner, distinct.symm]
  have balances : ∀ other, after.findBalance other = (before.findBalance other).map fun balance =>
      if balance.billingAccountId = account then change balance else balance := by
    intro other
    simp only [World.findBalance, posted.balances]
    rw [find?_updateWhere fun balance => by rw [sameOwner]]
    simp
  have owner : ∀ other row, before.findBalance other = some row → row.billingAccountId = other := by
    intro other row found
    simpa using List.find?_some found
  refine ⟨?_, ?_, ?_⟩
  · intro other balanceAfter foundAfter
    rw [balances, Option.map_eq_some_iff] at foundAfter
    obtain ⟨balanceBefore, foundBefore, rfl⟩ := foundAfter
    by_cases same : other = account
    · subst same
      have identical : balanceBefore = balance := Option.some.inj (foundBefore.symm.trans found)
      rw [identical, if_pos (owner other balance found), changes, rowsHere]
      exact (invariant.wallet other balance found).post postable
    · rw [if_neg (by rw [owner other balanceBefore foundBefore]; exact same), rowsElsewhere other same]
      exact invariant.wallet other balanceBefore foundBefore
  · intro other absent
    rw [balances, Option.map_eq_none_iff] at absent
    by_cases same : other = account
    · rw [same, found] at absent
      cases absent
    · rw [rowsElsewhere other same]
      exact invariant.orphan other absent
  · intro other absent
    rw [balances, Option.map_eq_none_iff]
    apply invariant.owned
    simpa only [World.findAccount, posted.accounts] using absent

/-- A new account with its trial grant keeps every wallet in order. -/
theorem WalletInvariant.open {before after : World} {account : BillingAccount}
    {row : BillingPointLedger} (invariant : WalletInvariant before)
    (accounts : after.accounts = before.accounts ++ [account])
    (balances : after.balances =
      before.balances ++ [⟨account.id, row.points, row.points, 0⟩])
    (ledger : after.ledger = before.ledger ++ [row])
    (owner : row.billingAccountId = account.id)
    (isNew : before.findAccount account.id = none)
    (records : row.balanceAfter = row.points) (positive : 0 < row.points)
    (isGrant : row.reason = .trialGrant) (isCredit : row.direction = .credit) :
    WalletInvariant after := by
  have noBalance := invariant.owned account.id isNew
  have noRows := invariant.orphan account.id noBalance
  have rowsHere : after.ledgerOf account.id = [row] := by
    simp only [World.ledgerOf] at noRows
    simp [World.ledgerOf, ledger, List.filter_append, owner, noRows]
  have rowsElsewhere : ∀ other, other ≠ account.id →
      after.ledgerOf other = before.ledgerOf other := by
    intro other distinct
    simp [World.ledgerOf, ledger, List.filter_append, owner, distinct.symm]
  have balanceHere : after.findBalance account.id = some ⟨account.id, row.points, row.points, 0⟩ := by
    simp only [World.findBalance] at noBalance
    simp [World.findBalance, balances, List.find?_append, noBalance]
  have balanceElsewhere : ∀ other, other ≠ account.id →
      after.findBalance other = before.findBalance other := by
    intro other distinct
    simp [World.findBalance, balances, List.find?_append, distinct.symm]
  refine ⟨?_, ?_, ?_⟩
  · intro other balance found
    by_cases same : other = account.id
    · subst same
      rw [balanceHere] at found
      rw [← Option.some.inj found, rowsHere]
      exact WalletOk.open records positive isGrant isCredit
    · rw [balanceElsewhere other same] at found
      rw [rowsElsewhere other same]
      exact invariant.wallet other balance found
  · intro other absent
    by_cases same : other = account.id
    · rw [same, balanceHere] at absent
      cases absent
    · rw [balanceElsewhere other same] at absent
      rw [rowsElsewhere other same]
      exact invariant.orphan other absent
  · intro other absent
    simp only [World.findAccount, accounts, List.find?_append, Option.or_eq_none_iff] at absent
    have distinct : other ≠ account.id := by
      rintro rfl
      simp at absent
    rw [balanceElsewhere other distinct]
    exact invariant.owned other absent.1

end MarketMind.Billing
