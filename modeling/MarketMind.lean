import MarketMind.Auth.ActionTokens
import MarketMind.Auth.GoogleSignIn
import MarketMind.Auth.RefreshTokens
import MarketMind.Billing.OutboxDelivery
import MarketMind.Billing.PaidEvents
import MarketMind.Billing.WalletAccounting
import MarketMind.Billing.WalletConcurrency
import MarketMind.Content.CandidateAgreement
import MarketMind.Content.CircuitBreaker
import MarketMind.Content.Completion
import MarketMind.Content.Deliveries
import MarketMind.Content.GeneratedItems
import MarketMind.Content.ImageSniffing
import MarketMind.Content.Instructions
import MarketMind.Content.Plans
import MarketMind.Content.Schedule
import MarketMind.Discovery.Attribution
import MarketMind.Knowledge.Checksum
import MarketMind.Knowledge.ChunkBudget
import MarketMind.Knowledge.IndexMirror
import MarketMind.Orchestration.Budgets
import MarketMind.Orchestration.Research
import MarketMind.Orchestration.Resuming
import MarketMind.Orchestration.SharedLifecycle
import MarketMind.Performance.Cohorts
import MarketMind.Performance.Evidence
import MarketMind.Performance.Proposals
import MarketMind.Performance.RetryBudget
import MarketMind.Publishing.CandidateIntakeConverges
import MarketMind.Publishing.Canonical
import MarketMind.Publishing.ExportArchive
import MarketMind.Publishing.History
import MarketMind.Publishing.MediaOrigin
import MarketMind.Publishing.Retries
import MarketMind.Publishing.TruthfulOutcome
import MarketMind.Rag.Liveness
import MarketMind.Rag.PureRelevance
import MarketMind.Strategy.Appending
import MarketMind.Strategy.Apportionment
import MarketMind.Strategy.Approval
import MarketMind.Strategy.Channels
import MarketMind.Strategy.FormatHandoff
import MarketMind.Strategy.FrozenBrief
import MarketMind.Strategy.Retries
