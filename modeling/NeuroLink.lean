import NeuroLink.ApprovalDecision
import NeuroLink.ApprovedCommand
import NeuroLink.BootReconciliation
import NeuroLink.BridgeFidelity
import NeuroLink.ChunkFetch
import NeuroLink.CommandAvailability
import NeuroLink.CommandPresence
import NeuroLink.LeaseIdentity
import NeuroLink.LeaseUsability
import NeuroLink.LoadedView
import NeuroLink.PlanGovernance
import NeuroLink.ActivationHealth
import NeuroLink.DeployRuns
import NeuroLink.EventRouting
import NeuroLink.GatewayDelivery
import NeuroLink.RequestDispatch
import NeuroLink.RollbackAfterFailure
import NeuroLink.RuntimeCapacity
import NeuroLink.SeedAtomicity
import NeuroLink.SeedOrder
import NeuroLink.SeedRestoration
import NeuroLink.SlotReclaim
import NeuroLink.SnapshotCapacity
import NeuroLink.StableBytes
import NeuroLink.StageOwnership
import NeuroLink.UpdateTrace
import NeuroLink.VerifiedFile
import NeuroLink.WebhookServer
import NeuroLink.SidecarMemory
import NeuroLink.RollbackAgreement
import NeuroLink.EventStore
import NeuroLink.AcknowledgedState
import NeuroLink.RunningSlot
import NeuroLink.CommandBatch
import NeuroLink.ArtifactDownload
import NeuroLink.RouteKeys
import NeuroLink.Persona
import NeuroLink.PayloadCodec
import NeuroLink.MemoryRetention
import NeuroLink.SessionScope
import NeuroLink.ControlCommands
import NeuroLink.GateHydration
import NeuroLink.StatusQueries
import NeuroLink.BurstErrors
import NeuroLink.StartArgs
import NeuroLink.MemoryLookup
import NeuroLink.StateRegistry
import NeuroLink.JsonSnapshots
import NeuroLink.FederationRouting
import NeuroLink.ArgsJson
import NeuroLink.WireAgreement
import NeuroLink.RetriedWrites
import NeuroLink.EventQueue
import NeuroLink.ConnectMonitor
import NeuroLink.DaemonCycles
import NeuroLink.UnitEvents
import NeuroLink.MemoryTurns
import NeuroLink.PersonaBundle
import NeuroLink.CallbackRequest
import NeuroLink.ProviderProfiles
