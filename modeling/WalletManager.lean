import WalletManager.Interaction.Program
import WalletManager.Interaction.Pool
import WalletManager.Interaction.Reservation
import WalletManager.Ledger.Buckets
import WalletManager.Ledger.FirstDelivery
import WalletManager.Numeric.DecimalText
import WalletManager.Domain
import WalletManager.Lib
import WalletManager.Storage.Memstore
import WalletManager.Storage.Calls
import WalletManager.Storage.Faults
import WalletManager.Storage.Postgres
import WalletManager.Withdrawal.Reserve
import WalletManager.Withdrawal.TxBuilder
import WalletManager.Withdrawal.Service
import WalletManager.Withdrawal.Holdings
import WalletManager.Balance.Service
import WalletManager.Api.AuthToken
import WalletManager.Api.Grpc
import WalletManager.Proofs.Outcomes
import WalletManager.Proofs.Keys
import WalletManager.Proofs.Views
import WalletManager.Proofs.SagaSafety
import WalletManager.Proofs.Reference
import WalletManager.Proofs.NonceSafety
import WalletManager.Proofs.BroadcastSafety
import WalletManager.Proofs.ReorgSafety
import WalletManager.Proofs.Ownership
import WalletManager.Proofs.Interleaving
import WalletManager.Proofs.BalanceOutcomes
import WalletManager.Proofs.BalanceBooks
import WalletManager.Proofs.BalanceLaws
import WalletManager.Proofs.Deposits
import WalletManager.Proofs.Redelivery
import WalletManager.Proofs.AmountRoundTrip
import WalletManager.Proofs.AuthGate
import WalletManager.Proofs.SagaCalls
import WalletManager.Proofs.Whitelisting
import WalletManager.Proofs.ConcurrentSaga
import WalletManager.Codec.Rlp
import WalletManager.Proofs.EvmEncoding
import WalletManager.Proofs.Payload
import WalletManager.Proofs.InFlight
import WalletManager.Proofs.Locks
import WalletManager.Wallet.Service
import WalletManager.Proofs.KeyRotation
import WalletManager.Proofs.KeyResolution
import WalletManager.Proofs.WalletKeys
import WalletManager.Allocation.Counter
import WalletManager.Proofs.NonceAllocation
import WalletManager.Proofs.NonceFloor
import WalletManager.Proofs.Custody
import WalletManager.Proofs.BalanceColumns
import WalletManager.Proofs.ConfirmationDepth
import WalletManager.Deriver.Registry
import WalletManager.Lock.MemLocker
import WalletManager.Wallet.Rotation
import WalletManager.Interaction.Protocol
import WalletManager.Proofs.RotationProtocol
import WalletManager.Proofs.AddressRotation
import WalletManager.Proofs.FirstDerivation
import WalletManager.Proofs.ConcurrentRotation
import WalletManager.Cache.MemCache
import WalletManager.Proofs.IndexAllocation
import WalletManager.Audit.Emitter
import WalletManager.Funding.Service
import WalletManager.Proofs.FundingRequests
import WalletManager.Proofs.FundingConcurrency
import WalletManager.Manager
import WalletManager.Proofs.Retirement
import WalletManager.Proofs.AuditOrder
import WalletManager.Lock.RedisLocker
import WalletManager.Proofs.RedisLocks
import WalletManager.Relational.Agreement
import WalletManager.Proofs.BalanceEventRaces
import WalletManager.Storage.Transactions
import WalletManager.Proofs.Rollback
import WalletManager.Proofs.SameStore
import WalletManager.Proofs.MatchedOperations
import WalletManager.Proofs.MatchedRequests
import WalletManager.Proofs.StoreAgreement
import WalletManager.Withdrawal.Resolver
import WalletManager.Proofs.SigningKeys
import WalletManager.Deriver.Secp
import WalletManager.Proofs.EvmAddress
import WalletManager.Proofs.SigningPreimage
import WalletManager.Proofs.TransferValue
import WalletManager.Proofs.SpentValues
import WalletManager.Codec.SolanaMessage
import WalletManager.Proofs.SolanaTransfer
import WalletManager.Proofs.SigningCleanup
import WalletManager.Proofs.RotationFailure
import WalletManager.Proofs.AuditDelivery
import WalletManager.Ledger.Journal
import WalletManager.Proofs.AuditNotes
import WalletManager.Proofs.AuditCompleteness
import WalletManager.Proofs.OutputUpdates
import WalletManager.Allocation.LargestFirst
import WalletManager.Proofs.CoinSelection
import WalletManager.Proofs.DerivationPaths
import WalletManager.Proofs.DerivedKeys
import WalletManager.Codec.Hex
import WalletManager.Proofs.AddressSpelling
import WalletManager.Codec.Der
import WalletManager.Proofs.OutpointTexts
import WalletManager.Proofs.BitcoinWitness
import WalletManager.Relational.Clients
import WalletManager.Interaction.Translation
import WalletManager.Storage.Sql
import WalletManager.Proofs.SqlClients
import WalletManager.Proofs.ConcurrentReservations
import WalletManager.Proofs.ConcurrentBalances
import WalletManager.Api.Deployment
import WalletManager.Proofs.DeployedCalls
import WalletManager.Proofs.DeployedNonces
