import BelLedger.AccessSoundness
import BelLedger.AdminSurvival
import BelLedger.AssetHierarchy
import BelLedger.JobConcurrency
import BelLedger.JobRecovery
import BelLedger.RoleAgreement
import BelLedger.ValidatorPast
import BelLedger.VerifierAvailability
import BelLedger.EffectPrograms
import BelLedger.RepositoryCalls
import BelLedger.AuthService
import BelLedger.AccountRequests
import BelLedger.ChallengeUse
import BelLedger.AuthEffects
import BelLedger.AccountRuns
import BelLedger.AccountWrites
import BelLedger.SessionValidity
import BelLedger.SessionRevocation
import BelLedger.RowLifecycle
import BelLedger.ChainViews
import BelLedger.ResumableSteps
import BelLedger.WalletSubmissions
import BelLedger.WalletAgreement
import BelLedger.WalletReplacement
import BelLedger.ActivationRetries
import BelLedger.ReplacementRetries
import BelLedger.AssetOwnership
import BelLedger.AdministratorCount
import BelLedger.IdentityLifecycle
import BelLedger.AuditRecords
import BelLedger.AuditTrails
import BelLedger.AuditCompleteness
import BelLedger.ValidatorService
import BelLedger.ValidatorProjection
import BelLedger.GrantAgreement
import BelLedger.UniqueRows
import BelLedger.ChainedQueues
import BelLedger.SendQueue
import BelLedger.AssetsService
import BelLedger.AssetGuards
import BelLedger.AssetValidation
import BelLedger.JobRecords
import BelLedger.RoleMonotonicity
import BelLedger.AccountAdditions
import BelLedger.ChainRefusals
import BelLedger.JobNumbers
import BelLedger.AssetCreation
import BelLedger.GrantExpiry
import BelLedger.PermissionMatrix
import BelLedger.TransferPermission
import BelLedger.SignedTransactions
import BelLedger.PreparedCalls
import BelLedger.EvidenceService
import BelLedger.EvidenceIntegrity
import BelLedger.Utf8Texts
import BelLedger.CompactSignatures
import BelLedger.CodeUnits
import BelLedger.FilenameSanitizing
import BelLedger.GraphSearch
import BelLedger.MetadataScan
import BelLedger.AuditPermission
import BelLedger.IdentityLookup
import BelLedger.CanonicalState
import BelLedger.DelimiterSearch
import BelLedger.MultipartParser
import BelLedger.MultipartBodies
import BelLedger.MultipartUpload
import BelLedger.MultipartSoundness
import BelLedger.JobProgress
import BelLedger.ReceiptWaiting
import BelLedger.JobReads
import BelLedger.RelyingPrograms
import BelLedger.RouteGuards
import BelLedger.HonestClients
import BelLedger.AuditReads
import BelLedger.AdmittedRequests
import BelLedger.ValidatorHistory
import BelLedger.AssetCaches
import BelLedger.AssetConcurrency
import BelLedger.SubmissionRefinement
