import SiyadahOrchestrator.Proactive.HealthScan
import SiyadahOrchestrator.Proactive.Suggestions
import SiyadahOrchestrator.Memory.Compression
import SiyadahOrchestrator.OAuth.AuthorizeUrl
import SiyadahOrchestrator.Foundations.TransitionSystem
import SiyadahOrchestrator.Foundations.ProcessPool
import SiyadahOrchestrator.Foundations.ExpiringStore
import SiyadahOrchestrator.Foundations.KeyedTable
import SiyadahOrchestrator.Gate.RequireTenant
import SiyadahOrchestrator.Gate.KeySeeding
import SiyadahOrchestrator.Vault.StatusConstraint
import SiyadahOrchestrator.Vault.AadBinding
import SiyadahOrchestrator.OAuth.Unauthenticated
import SiyadahOrchestrator.OAuth.Initiate
import SiyadahOrchestrator.OAuth.NoGhost
import SiyadahOrchestrator.OAuth.Atomicity
import SiyadahOrchestrator.OAuth.SingleExchange
import SiyadahOrchestrator.OAuth.StateIssue
import SiyadahOrchestrator.Refresh.SingleFlight
import SiyadahOrchestrator.Refresh.Revocation
import SiyadahOrchestrator.Refresh.Alone
import SiyadahOrchestrator.Refresh.ApSync
import SiyadahOrchestrator.Webhooks.ExactlyOnce
import SiyadahOrchestrator.Webhooks.Refinement
import SiyadahOrchestrator.Foundations.Confined
import SiyadahOrchestrator.Flows.Listing
import SiyadahOrchestrator.Flows.BuildOrphans
import SiyadahOrchestrator.Flows.AtMostOneFlow
import SiyadahOrchestrator.Flows.CrossTenant
import SiyadahOrchestrator.Flows.NoShortcut
import SiyadahOrchestrator.Flows.GhostRows
import SiyadahOrchestrator.Flows.Sniper
import SiyadahOrchestrator.Memory.Isolation
import SiyadahOrchestrator.Build.Numbering
import SiyadahOrchestrator.Build.ComplexBuild
import SiyadahOrchestrator.Build.Walkers
import SiyadahOrchestrator.Build.Sufficiency
import SiyadahOrchestrator.Build.ConnectionGate
import SiyadahOrchestrator.Build.DraftOrphans
import SiyadahOrchestrator.Build.Views
import SiyadahOrchestrator.Build.PropertySettings
import SiyadahOrchestrator.Build.NameResolution
import SiyadahOrchestrator.FileRegistry.Consistency
import SiyadahOrchestrator.Connections.Deletion
import SiyadahOrchestrator.PieceVault.Conservation
import SiyadahOrchestrator.PieceVault.Freshness
import SiyadahOrchestrator.PieceVault.ScoreWriteBack
import SiyadahOrchestrator.Logging.Completeness
import SiyadahOrchestrator.Build.OneVerdict
import SiyadahOrchestrator.Build.PendingPrivacy
import SiyadahOrchestrator.Flows.DuplicateCheck
import SiyadahOrchestrator.Build.RegistryGate
import SiyadahOrchestrator.Build.UpdateFlow
import SiyadahOrchestrator.Build.StepConnections
import SiyadahOrchestrator.Build.BuiltAlike
import SiyadahOrchestrator.Build.BuildAgreement
import SiyadahOrchestrator.Build.Vouching
import SiyadahOrchestrator.Build.ConnectLater
import SiyadahOrchestrator.Build.RouterBuild
import SiyadahOrchestrator.Mcp.StreamDelivery
import SiyadahOrchestrator.OAuth.Base64Url
import SiyadahOrchestrator.OAuth.TypedErrors
import SiyadahOrchestrator.PieceVault.ScoreBounds
