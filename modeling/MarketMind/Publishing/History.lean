import MarketMind.Publishing.System
import MarketMind.Transactions.Onward

/-!
Owns what no call of the publishing API takes back, however the calls interleave.
-/

namespace MarketMind.Publishing

open MarketMind.Transactions

namespace World

/-! What the rows of the tables were created for. -/

def asked (world : World) := world.intents.rows.map fun row =>
  (row.id, row.businessId, row.candidateId, row.mode, row.createdByUserId, row.idempotencyKey)

def tried (world : World) := world.attempts.rows.map fun row =>
  (row.id, row.intentId, row.intentVersion, row.attemptSequence, row.idempotencyKey, row.createdAt)

def told (world : World) := world.results.rows.map fun row =>
  { row with outcome := .published, remotePublicationId := none }

def received (world : World) := world.candidates.rows.map fun row =>
  (row.id, row.businessId, row.externalContentId, row.candidateChecksum, row.payload)

end World

/-- Rows are only appended, and what they were created for stays. -/
structure HistoryKept (before after : World) : Prop where
  approvals : before.approvals <+: after.approvals
  identities : before.identities <+: after.identities
  exports : before.exports <+: after.exports
  asked : before.asked <+: after.asked
  tried : before.tried <+: after.tried
  told : before.told <+: after.told
  received : before.received <+: after.received

theorem historyKept_refl (world : World) : HistoryKept world world := by
  constructor <;> exact List.prefix_rfl

theorem historyKept_trans (first second third : World) (left : HistoryKept first second)
    (right : HistoryKept second third) : HistoryKept first third :=
  ⟨left.1.trans right.1, left.2.trans right.2, left.3.trans right.3, left.4.trans right.4,
    left.5.trans right.5, left.6.trans right.6, left.7.trans right.7⟩

theorem historyKept_of_exec {pid : Pid} {choice : Nat} {asked : Statement} {view : World}
    {effect : Effect World Key asked.Reply} (executed : exec pid choice asked view = .ok effect)
    (base : World) : HistoryKept base (effect.write base) := by
  have kept := historyKept_refl base
  cases asked <;> simp only [exec] at executed
  case createIntent | createApproval | createAttempt | createResult | createIdentity |
      createCandidate | removeJob =>
    obtain ⟨-, executed⟩ := ok_of_unless executed
    cases executed
    constructor <;> first
      | exact List.prefix_rfl
      | exact List.prefix_append _ _
      | exact Table.prefix_insert
  case bindIntent | rebindIntent | setIntentStatus =>
    obtain ⟨row, -, rfl⟩ := updateIntent_eq executed
    exact { kept with asked := Table.prefix_update fun _ => rfl }
  case moveIntent =>
    split at executed <;> cases executed
    · exact { kept with asked := Table.prefix_update fun _ => rfl }
    · exact kept
  case cancelIntents =>
    cases executed
    exact { kept with asked := Table.prefix_update fun _ => rfl }
  case stampAttempt | updateAttempt =>
    obtain ⟨row, -, rfl⟩ := updateAttempt_eq executed
    exact { kept with tried := Table.prefix_update fun _ => rfl }
  case claimAttempt =>
    split at executed <;> cases executed
    · exact { kept with tried := Table.prefix_update fun _ => rfl }
    · exact kept
  case resolveResult =>
    split at executed
    · cases executed
    · obtain ⟨-, executed⟩ := ok_of_unless executed
      cases executed
      exact { kept with told := Table.prefix_update fun _ => rfl }
  case updateCandidate =>
    split at executed
    · cases executed
    · obtain ⟨-, executed⟩ := ok_of_unless executed
      obtain ⟨-, executed⟩ := ok_of_unless executed
      cases executed
      exact { kept with received := Table.prefix_update fun _ => rfl }
  case addJob =>
    cases executed
    dsimp only [World.enqueue]
    split
    · exact kept
    · exact { kept with }
  all_goals
    cases executed
    constructor <;> first | exact List.prefix_rfl | exact List.prefix_append _ _

end MarketMind.Publishing
