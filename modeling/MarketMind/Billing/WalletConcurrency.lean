import MarketMind.Billing.WalletCalls

/-!
Owns wallets under concurrency: when single statements of any number of calls
interleave, no update is lost as long as every top-up finds the balance that it
read; and one order of a top-up and a spend loses the spend.
-/

namespace MarketMind.Billing

open Accounting MarketMind.Transactions MarketMind.Transactions.Protocol

/-- The update of a top-up finds the balance that the top-up read before its
transaction, from which it computed the new one. -/
def findsBalanceRead (_ : Pid) (call : Call) (asked : Statement) (world : World) : Bool :=
  match call, asked with
  | .topUpWallet _ request, .updateBalance account data =>
      (world.findBalance account).all fun balance =>
        balance.balance + request.points = data.balance
  | _, _ => true

/-- Runs of any calls, statement by statement, in which top-ups find what they read. -/
def currentTopUps : Discipline billing World Call where
  issues _ := True
  admits pid call asked world := findsBalanceRead pid call asked world = true
  isolation := .readCommitted

theorem currentTopUps_current : CurrentTopUps currentTopUps := by
  intro pid id request account data world admitted balance found
  simpa [currentTopUps, findsBalanceRead, found] using admitted

theorem wallets_safe (port : PaymentProviderPort) :
    (walletProtocol port currentTopUps).Safe fun _ _ => True := by
  apply safe_of_maintains
  intro pid call _ _ valid
  exact keeps_program valid fun _ => currentTopUps_current

/-- What the wallet of one account shows in a world. -/
structure InOrder (balance : BillingPointBalance) (rows : List BillingPointLedger) : Prop where
  sums : balance.balance = sumOf .credit rows - sumOf .debit rows
  nonneg : 0 ≤ balance.balance
  /-- Each row records the balance right after its own transaction. -/
  records : ∀ before row after, rows = before ++ row :: after →
    row.balanceAfter = sumOf .credit (before ++ [row]) - sumOf .debit (before ++ [row])
  newest : ∃ row, rows.getLast? = some row ∧ row.balanceAfter = balance.balance

theorem WalletOk.inOrder {balance : BillingPointBalance} {rows : List BillingPointLedger}
    (ok : WalletOk balance rows) : InOrder balance rows where
  sums := by rw [ok.balanced, total_signed]
  nonneg := ok.nonneg
  records := by
    intro before row after split
    rw [← total_signed]
    exact ok.running before row after split
  newest := ok.newest

/-- In every run whose top-ups find the balance that they read, every wallet is
in order in every committed world. -/
theorem no_update_lost (port : PaymentProviderPort) {start : World}
    (holds : WalletInvariant start) {machine : Machine billing World Key Call}
    (reached : Reaches (system port) currentTopUps start machine) {account : Uuid}
    {balance : BillingPointBalance} (found : machine.world.findBalance account = some balance) :
    InOrder balance (machine.world.ledgerOf account) := by
  have kept : WalletInvariant machine.world :=
    invariant_of_reaches (wallets_safe port) holds reached
  exact (kept.wallet account balance found).inOrder

/-! ### A lost spend -/

/-- The grant that opened account 1. -/
def trialRow : BillingPointLedger :=
  ⟨1, .credit, .trialGrant, none, 65, 65, "trial-grant:1", none⟩

/-- One account with its trial grant. -/
def openedWorld : World :=
  { World.empty with
    accounts := [⟨1, 7, none, .active⟩]
    balances := [⟨1, 65, 65, 0⟩]
    ledger := [trialRow] }

theorem openedWorld_invariant : WalletInvariant openedWorld := by
  let account : BillingAccount := ⟨1, 7, none, .active⟩
  have accounts : openedWorld.accounts = World.empty.accounts ++ [account] := rfl
  have ledger : openedWorld.ledger = World.empty.ledger ++ [trialRow] := rfl
  exact walletInvariant_empty.open accounts rfl ledger rfl rfl rfl (by decide) rfl rfl

/-- An operator grants 35 points while the owner spends 8. -/
def grant : Call := .topUpWallet 1 ⟨35, "correction", 9, 5⟩

def spending : Call := .spendPoints 7 .staticImage (.integer 1) "image:1"

/-- The spend runs between the issue of the top-up and its first read. -/
def keptSpend : List (Move Call) :=
  [.issue 0 grant, .step 0 0, .issue 1 spending] ++
    List.replicate 8 (.step 1 0) ++ List.replicate 6 (.step 0 0)

/-- The top-up reads its balance; the spend runs; the top-up writes. -/
def lostSpend : List (Move Call) :=
  [.issue 0 grant, .step 0 0, .step 0 0, .issue 1 spending] ++
    List.replicate 8 (.step 1 0) ++ List.replicate 5 (.step 0 0)

/-- What is read off the final machine: whether each call has returned, and the wallet. -/
def outcomes (machine : Machine billing World Key Call) : List Bool × List Int × Int :=
  ([0, 1].map fun pid =>
      match machine.threads pid with
      | some ⟨_, none, .done (.ok ())⟩ => true
      | _ => false,
    machine.world.balances.map (·.balance),
    sumOf .credit (machine.world.ledgerOf 1) - sumOf .debit (machine.world.ledgerOf 1))

/-- Both calls have returned, and the spend is in the ledger but not in the balance. -/
theorem spend_lost :
    WalletInvariant openedWorld ∧
    ∃ machine, Reaches (system .closed) .free openedWorld machine ∧
      outcomes machine = ([true, true], [100], 92) := by
  have played : ((system .closed).play (.idle openedWorld) lostSpend).map outcomes =
      some ([true, true], [100], 92) := by decide +kernel
  exact ⟨openedWorld_invariant, Reaches.of_play played⟩

theorem spend_kept :
    ∃ machine, outcomes machine = ([true, true], [92], 92) ∧
      InOrder ⟨1, 92, 100, 8⟩ (machine.world.ledgerOf 1) := by
  have played : ((system .closed).playChecked findsBalanceRead (.idle openedWorld) keptSpend).map
      (fun machine => (outcomes machine, machine.world.findBalance 1)) =
        some (([true, true], [92], 92), some ⟨1, 92, 100, 8⟩) := by decide +kernel
  obtain ⟨machine, moved, seen⟩ := Option.map_eq_some_iff.mp played
  have reached : Reaches (system .closed) currentTopUps openedWorld machine :=
    Reaches.idle.playChecked (fun _ => trivial) rfl (fun _ _ _ _ passes => passes) moved
  have found := congrArg Prod.snd seen
  exact ⟨machine, congrArg Prod.fst seen,
    no_update_lost .closed openedWorld_invariant reached found⟩

end MarketMind.Billing
