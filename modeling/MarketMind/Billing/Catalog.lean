import Mathlib.Data.List.Basic

/-!
Owns the published catalog: metrics with their point prices, the trial grant,
and the bundles that a checkout may buy.
-/

namespace MarketMind.Billing

/-- What points are spent on. -/
inductive BillingMetric
  | discovery
  | strategyCycle
  | strategyRevision
  | contentItem
  | contentRevision
  | staticImage
  | publicationTarget
deriving DecidableEq, Repr

/-- `POINT_PRICES` -/
def pointPrices : BillingMetric → Int
  | .contentItem => 2
  | .contentRevision => 1
  | .staticImage => 8
  | .strategyCycle => 50
  | .strategyRevision => 10
  | .discovery => 0
  | .publicationTarget => 0

def pointsForMetric (metric : BillingMetric) (units : Int) : Int :=
  pointPrices metric * max 0 units

/-- `TRIAL_GRANT_POINTS` -/
def trialGrantPoints : Int := 65

structure BillingPointBundle where
  code : String
  points : Int
  amountEgp : Int
  currency : String
  displayNameEn : String
  displayNameAr : String
deriving DecidableEq, Repr

/-- `BILLING_BUNDLES` -/
def billingBundles : List BillingPointBundle :=
  [{ code := "starter_150", points := 150, amountEgp := 100, currency := "EGP",
     displayNameEn := "Starter", displayNameAr := "مبتدئ" },
   { code := "growth_300", points := 300, amountEgp := 200, currency := "EGP",
     displayNameEn := "Growth", displayNameAr := "نمو" },
   { code := "pro_500", points := 500, amountEgp := 300, currency := "EGP",
     displayNameEn := "Pro", displayNameAr := "احترافي" }]

def getBillingBundle (code : String) : Option BillingPointBundle :=
  billingBundles.find? (·.code == code)

/-- Every bundle on sale grants points. -/
theorem points_pos_of_bundle {code : String} {bundle : BillingPointBundle}
    (found : getBillingBundle code = some bundle) : 0 < bundle.points := by
  have listed : bundle ∈ billingBundles := List.mem_of_find?_eq_some found
  have all : ∀ bundle ∈ billingBundles, 0 < bundle.points := by decide
  exact all bundle listed

end MarketMind.Billing
