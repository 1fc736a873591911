import ClassMesh.Core.ExactHysteresis
import ClassMesh.Core.TierDegradation
import ClassMesh.Core.QualityEvidence
import ClassMesh.Core.CohortIsolation
import ClassMesh.Security.CredentialAcceptance
import ClassMesh.Security.PersistedRoundTrip
import ClassMesh.Security.DurableState
import ClassMesh.Network.SequenceTracker
import ClassMesh.Network.CapacityEviction
import ClassMesh.Network.NackRecovery
import ClassMesh.Network.DatagramDelivery
import ClassMesh.Network.FanoutAccounting
import ClassMesh.Network.FrameFates
import ClassMesh.Video.FanInFairness
import ClassMesh.Video.BackgroundProgress
import ClassMesh.Video.KeyframeSurvival
import ClassMesh.Worker.StreamRecovery
import ClassMesh.Worker.GenuineFrames
import ClassMesh.Worker.ForgedTraffic
import ClassMesh.Control.AuditedEdits
import ClassMesh.Control.Dispatch
import ClassMesh.Control.HandshakeAgreement
import ClassMesh.Control.FilePull
import ClassMesh.Control.SenderActions
import ClassMesh.Win32.ReleasedInput
import ClassMesh.WindowsRuntime.LiveWorkers
import ClassMesh.WindowsRuntime.WorkerWatchdog
import ClassMesh.WindowsRuntime.ClipboardOneShot
import ClassMesh.Control.SendLeases
import ClassMesh.Core.TransportTopology
import ClassMesh.Worker.DeliveryPublisher
import ClassMesh.Worker.MonitoringPipeline
import ClassMesh.Capture.RecoveryBudget
import ClassMesh.Control.ClipboardUtf16
import ClassMesh.Control.RotatedDelivery
import ClassMesh.Control.TelemetryFraming
import ClassMesh.Worker.PresentationSize
