import MarketMind.Billing.Service
import MarketMind.Transactions.Serial

/-!
Owns the entitlement boundary: whether a customer may start work that costs points, and the
charge when the work is delivered.

Does not own the cost ledger behind the monthly circuit breaker, whose answer is given.
-/

namespace MarketMind.Billing

open MarketMind.Transactions

/-- The balance that `getWallet` answers with. -/
def getWallet (userId : Uuid) : Code Int := do
  let account ← ensureBillingAccount userId
  match ← Db.findBalance account.id with
  | none => throw (.internal "Billing wallet could not be created")
  | some balance => return balance.balance

/-- `BillingEntitlementsService.assertAllowed` -/
def assertAllowed (circuitOpen : Bool) (userId : Uuid) (metric : BillingMetric) (requested : Int) :
    Code Unit := do
  let balance ← getWallet userId
  if circuitOpen then
    throw (.domain "BILLING_COST_CIRCUIT_OPEN"
      "Monthly provider cost limit reached. New AI work is paused until the billing period resets.")
  else if balance < pointsForMetric metric requested then
    throw (.domain "BILLING_INSUFFICIENT_POINTS"
      "Not enough points for this action. Top up to continue.")
  else pure ()

/-- `BillingEntitlementsService.record` -/
def record (userId : Uuid) (metric : BillingMetric) (units : Int) (claimKey : String) : Code Unit :=
  spendPoints userId metric (.integer units) claimKey

/-! ### Calls of another service -/

/-- One call that another service makes, in a quiet moment of the billing database. A spend
holds its account from its first read to its commit, so calls on one account take turns. -/
def serve {α : Type} (pid : Pid) (choice : Nat) (code : Code α) (world : World) :
    Except BillingError α × World :=
  store.call (.sound pid fun _ => choice) code world

end MarketMind.Billing
