import PactNetwork.Foundation.ByteLayout
import PactNetwork.Foundation.Checked
import PactNetwork.Solana.Account
import PactNetwork.Solana.Token
import PactNetwork.Solana.TokenLedger
import PactNetwork.V1.State
import PactNetwork.V1.Pda
import PactNetwork.V1.SettleBatch
import PactNetwork.V1.Refinement
import PactNetwork.V1.EventEffects
import PactNetwork.V1.Batching
import PactNetwork.V1.Fee
import PactNetwork.V1.Administration
import PactNetwork.V1.Endpoints
import PactNetwork.V1.Books
import PactNetwork.V1.BooksInvariants
import PactNetwork.V1.Program
import PactNetwork.V1.ProgramBooks
import PactNetwork.V1.Guarantees
import PactNetwork.Foundation.Transition
import PactNetwork.Foundation.Tally
import PactNetwork.Settlement.Core
import PactNetwork.Evm.Erc20
import PactNetwork.Evm.FeeValidation
import PactNetwork.Evm.PactRegistry
import PactNetwork.Evm.PactPool
import PactNetwork.Evm.PactSettler
import PactNetwork.Evm.Refinement
import PactNetwork.Evm.Solvency
import PactNetwork.Foundation.Interaction
import PactNetwork.Settler.Submitter
import PactNetwork.Settler.Pipeline
import PactNetwork.Settler.NoLostSettlement
import PactNetwork.Settler.Redelivery
import PactNetwork.Settler.Disposal
import PactNetwork.Settler.RedisStreams
import PactNetwork.Settler.StreamDelivery
import PactNetwork.V2.State
import PactNetwork.V2.Pda
import PactNetwork.V2.Arguments
import PactNetwork.V2.Configuration
import PactNetwork.V2.Pools
import PactNetwork.V2.Policies
import PactNetwork.V2.Books
import PactNetwork.V2.Accounting
import PactNetwork.V2.LedgerBooks
import PactNetwork.V2.Program
import PactNetwork.V2.ProgramBooks
import PactNetwork.V2.Guarantees
import PactNetwork.V2.ClaimCap
import PactNetwork.V2.Parameters
import PactNetwork.V2.OracleAuthority
import PactNetwork.V2.PolicyCounts
import PactNetwork.V2.Underwriting
import PactNetwork.Foundation.Table
import PactNetwork.Indexer.Database
import PactNetwork.Indexer.Ingest
import PactNetwork.Indexer.Effects
import PactNetwork.Indexer.Ledgers
import PactNetwork.Indexer.FeeLedgers
import PactNetwork.Indexer.Duplicates
import PactNetwork.Foundation.Journal
import PactNetwork.Settlement.Exposure
import PactNetwork.V1.CallIds
import PactNetwork.Evm.CallIds
import PactNetwork.CrossChain.CallIds
import PactNetwork.V1.HourlyCap
import PactNetwork.Evm.HourlyCap
import PactNetwork.CrossChain.HourlyCap
import PactNetwork.CrossChain.BreachRefunds
import PactNetwork.Foundation.Agreement
import PactNetwork.CrossChain.FeeValidation
import PactNetwork.Foundation.Buffer
import PactNetwork.V1Client.Instructions
import PactNetwork.V1Client.WireFormat
import PactNetwork.V1Client.State
import PactNetwork.V1Client.StateLayout
import PactNetwork.Settler.MessageData
import PactNetwork.Settler.SettlePaths
import PactNetwork.Settler.PathParity
import PactNetwork.Foundation.RowLocks
import PactNetwork.Indexer.Rollback
import PactNetwork.Indexer.RollbackBalance
import PactNetwork.Indexer.RollbackFees
import PactNetwork.Foundation.Chunks
import PactNetwork.Adapters.EvmAdapter
import PactNetwork.Adapters.SettlementTail
import PactNetwork.Indexer.Reconcile
import PactNetwork.Adapters.EndpointScan
import PactNetwork.Indexer.EndpointSync
import PactNetwork.Foundation.LockOrder
import PactNetwork.Indexer.IngestLocks
import PactNetwork.Solana.Lamports
import PactNetwork.V1.Donations
import PactNetwork.V1.Confinement
import PactNetwork.V1.Registered
import PactNetwork.Indexer.SolanaSync
import PactNetwork.Foundation.ReplayCache
import PactNetwork.Requests.Http
import PactNetwork.Requests.Verifiers
import PactNetwork.Requests.SingleUse
import PactNetwork.Requests.Webhook
import PactNetwork.Requests.WebhookSender
import PactNetwork.Requests.WebhookDelivery
import PactNetwork.Requests.GoldenFetch
import PactNetwork.Requests.SigningContract
import PactNetwork.Coverage.Economics
import PactNetwork.Foundation.LineLog
import PactNetwork.Client.Storage
import PactNetwork.Client.Durability
import PactNetwork.Foundation.CountedMarks
import PactNetwork.Client.MonitorSync
import PactNetwork.Client.SettledEvents
import PactNetwork.Client.SlugResolver
import PactNetwork.Client.GoldenRule
import PactNetwork.Coverage.Register
import PactNetwork.Backend.PremiumSettler
import PactNetwork.Backend.KeyTransactions
import PactNetwork.Backend.Records
import PactNetwork.Backend.AntiFraud
import PactNetwork.Backend.ClaimSettlement
import PactNetwork.Backend.RecordIngest
import PactNetwork.Coverage.CallReports
import PactNetwork.Evm.DefaultTemplate
import PactNetwork.V2.ClaimWindow
import PactNetwork.V2.PremiumSplit
import PactNetwork.V2.ArgumentFormats
import PactNetwork.Settler.Admission
import PactNetwork.Settler.Intake
import PactNetwork.Settler.CallIdText
import PactNetwork.V1Client.ConfigUpdate
import PactNetwork.CrossChain.FeePreflight
import PactNetwork.Coverage.BalanceCheck
import PactNetwork.Coverage.PactHeaders
import PactNetwork.Settler.TransactionSize
import PactNetwork.Coverage.SameAnswer
import PactNetwork.Coverage.UpstreamOrigin
import PactNetwork.Requests.AddressForms
import PactNetwork.Settler.IndexerPusher
import PactNetwork.Indexer.PoolMirror
import PactNetwork.Foundation.DecimalText
import PactNetwork.Cli.Amounts
import PactNetwork.Foundation.NewestRows
import PactNetwork.Client.Reconciliation
import PactNetwork.Foundation.JsonText
import PactNetwork.Backend.RecordSignature
import PactNetwork.Foundation.Pattern
import PactNetwork.Cli.PayClassifier
import PactNetwork.Cli.PayVerdict
import PactNetwork.Solana.Holdings
import PactNetwork.V1.Acceptance
import PactNetwork.V1.Isolation
import PactNetwork.V1.Custody
import PactNetwork.V1.DoubleEntry
import PactNetwork.Evm.Custody
import PactNetwork.Evm.Confinement
import PactNetwork.CrossChain.Port
import PactNetwork.V2.Filing
