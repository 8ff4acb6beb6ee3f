import AnselmGateway.Foundation.Base64
import AnselmGateway.Foundation.Run
import AnselmGateway.Foundation.Transaction
import AnselmGateway.Foundation.Table
import AnselmGateway.Foundation.Tally
import AnselmGateway.Foundation.Int64
import AnselmGateway.Billing
import AnselmGateway.Quota
import AnselmGateway.QuotaStore
import AnselmGateway.Accounts
import AnselmGateway.QuotaStoreSemantics
import AnselmGateway.LedgerConservation
import AnselmGateway.LedgerTerminal
import AnselmGateway.WalletSafety
import AnselmGateway.AccountingAtomicity
import AnselmGateway.NonceCache
import AnselmGateway.NonceCacheSemantics
import AnselmGateway.DeviceProof
import AnselmGateway.DeviceProofReplay
import AnselmGateway.Foundation.CivilDate
import AnselmGateway.APIError
import AnselmGateway.MediaFiles
import AnselmGateway.MediaStore
import AnselmGateway.Media
import AnselmGateway.MediaStoreSemantics
import AnselmGateway.MediaSemantics
import AnselmGateway.InstallStore
import AnselmGateway.InstallStoreSemantics
import AnselmGateway.Install
import AnselmGateway.FingerprintGate
import AnselmGateway.InstallAccounting
import AnselmGateway.Upstream
import AnselmGateway.Failover
import AnselmGateway.Genrun
import AnselmGateway.GenerationCloseOut
import AnselmGateway.ProofOfWork
import AnselmGateway.ProofOfWorkReplay
import AnselmGateway.MediaInvariants
import AnselmGateway.UploadCursor
import AnselmGateway.LeaseIntegrity
import AnselmGateway.Foundation.Interleaving
import AnselmGateway.MediaLifecycle
import AnselmGateway.Foundation.Index
import AnselmGateway.VoiceStore
import AnselmGateway.Voice
import AnselmGateway.VoiceSemantics
import AnselmGateway.VoiceInventory
import AnselmGateway.VoiceCeiling
import AnselmGateway.Foundation.Json.Scanner
import AnselmGateway.Foundation.Utf8
import AnselmGateway.Foundation.Json.Decoder
import AnselmGateway.Foundation.Json.Locality
import AnselmGateway.Foundation.Json.Object
import AnselmGateway.Foundation.Json.Literal
import AnselmGateway.Foundation.Json.Splice
import AnselmGateway.ResponseModel
import AnselmGateway.ResponseModelSemantics
import AnselmGateway.Foundation.JoinFold
import AnselmGateway.Foundation.LineScanner
import AnselmGateway.ChatUsage
import AnselmGateway.ChatRelay
import AnselmGateway.ChatSaga
import AnselmGateway.RelayTranscript
import AnselmGateway.UsageMerge
import AnselmGateway.Pricing
import AnselmGateway.PlanValidation
import AnselmGateway.ModelSurgery
import AnselmGateway.Foundation.Json.Bounds
import AnselmGateway.UsageSemantics
import AnselmGateway.LineReaders
import AnselmGateway.CutStream
import AnselmGateway.Foundation.Json.Nesting
import AnselmGateway.Foundation.Json.Values
import AnselmGateway.UniqueKeys
import AnselmGateway.UsageAcceptance
import AnselmGateway.MonthlyWindow
import AnselmGateway.Foundation.Resume
import AnselmGateway.Migrations
import AnselmGateway.MigrationConvergence
import AnselmGateway.Foundation.Overlay
import AnselmGateway.RuntimeConfig
import AnselmGateway.ConfigProvider
import AnselmGateway.HotConfiguration
import AnselmGateway.Foundation.PaddedBase64
import AnselmGateway.ChatContent
import AnselmGateway.ChatHandle
import AnselmGateway.ForwardedMedia
import AnselmGateway.ForwardedKinds
import AnselmGateway.Foundation.Json.Tree
import AnselmGateway.ChatWire
import AnselmGateway.ContentGrammar
import AnselmGateway.MessageRoundTrip
import AnselmGateway.Foundation.Meter
import AnselmGateway.MediaMeter
import AnselmGateway.Foundation.Hex
import AnselmGateway.LeaseReferences
import AnselmGateway.Foundation.Arena
import AnselmGateway.InlinedMemory
import AnselmGateway.CanonicalMessages
import AnselmGateway.Foundation.Float64
import AnselmGateway.Speech
import AnselmGateway.SpeechCharge
import AnselmGateway.ReplayContract
import AnselmGateway.Foundation.Recency
import AnselmGateway.Foundation.TokenBucket
import AnselmGateway.RateLimit
import AnselmGateway.RateLimitSemantics
import AnselmGateway.RateOverrides
import AnselmGateway.LeaseSigner
import AnselmGateway.LeaseRows
import AnselmGateway.LeaseAuthorization
import AnselmGateway.VideoHandle
import AnselmGateway.DiskGuard
import AnselmGateway.Foundation.RingWindow
import AnselmGateway.RateSample
import AnselmGateway.SpeechSynthesis
import AnselmGateway.GenerationClients
import AnselmGateway.UnsentCalls
import AnselmGateway.VideoGeneration
import AnselmGateway.Redaction
import AnselmGateway.Foundation.IPAddress
import AnselmGateway.ClientIP
import AnselmGateway.VoiceService
import AnselmGateway.VoiceRenaming
import AnselmGateway.VoiceIsolation
import AnselmGateway.Foundation.Reading
import AnselmGateway.LoadBase
import AnselmGateway.ConfigSemantics
import AnselmGateway.ConfigIntake
import AnselmGateway.ColdSettings
import AnselmGateway.ConfigDump
import AnselmGateway.IntakeDoors
import AnselmGateway.OneIntake
import AnselmGateway.Difficulty
import AnselmGateway.Foundation.CursorScan
import AnselmGateway.KeySelection
import AnselmGateway.Foundation.Dict
import AnselmGateway.LastSeen
import AnselmGateway.TokenThrottle
import AnselmGateway.ThrottlePruning
import AnselmGateway.AuditRing
import AnselmGateway.AuditPaging
import AnselmGateway.ReserveAdmission
import AnselmGateway.QuotaView
import AnselmGateway.Foundation.Postings
import AnselmGateway.PaidRequests
import AnselmGateway.ProviderBills
import AnselmGateway.ChatSlots
import AnselmGateway.OrphanRecovery
import AnselmGateway.FirstByteTimer
import AnselmGateway.KeyIsolation
import AnselmGateway.Shutdown
import AnselmGateway.InstallAccess
import AnselmGateway.Dashboard
import AnselmGateway.AccessTrail
import AnselmGateway.Foundation.OffsetPaging
import AnselmGateway.InstallsList
import AnselmGateway.ProtectedDoor
import AnselmGateway.RequestAuthenticity
import AnselmGateway.Foundation.Routing
import AnselmGateway.Router
import AnselmGateway.PublicSurface
import AnselmGateway.ImageGeneration
import AnselmGateway.ModelCatalog
import AnselmGateway.PublishedCapabilities
import AnselmGateway.MediaHandler
import AnselmGateway.UploadRows
import AnselmGateway.FaithfulUploads
import AnselmGateway.RequestsAlone
import AnselmGateway.ResumedUploads
