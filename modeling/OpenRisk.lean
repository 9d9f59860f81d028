import OpenRisk.Agreement.Batch
import OpenRisk.Agreement.Payload
import OpenRisk.Core.DurableInspection
import OpenRisk.Core.ExecutionRecorder
import OpenRisk.Core.GateLifecycle
import OpenRisk.Core.GateSafety
import OpenRisk.Core.ObserverChannel
import OpenRisk.Core.PlainDataExact
import OpenRisk.Core.Reconciliation
import OpenRisk.Filecoin.InputOrder
import OpenRisk.Filecoin.Soundness
import OpenRisk.Guard.Allowance
import OpenRisk.Guard.BridgeCandidate
import OpenRisk.Guard.CallbackTransport
import OpenRisk.Guard.Calldata
import OpenRisk.Guard.ControlledHost
import OpenRisk.Guard.DecodedEffect
import OpenRisk.Guard.GatewayReplay
import OpenRisk.Guard.IntentBinding
import OpenRisk.Guard.JsonIngress
import OpenRisk.Guard.PolicyIdentity
import OpenRisk.Guard.PolicyInstall
import OpenRisk.Guard.PolicyOrder
import OpenRisk.Guard.WitnessAuthorization
import OpenRisk.PomRx.ReceiptSize
import OpenRisk.PomRx.WitnessWindow
import OpenRisk.Registry.History
import OpenRisk.Sdk.CanonicalForm
import OpenRisk.Sdk.MerkleSound
import OpenRisk.Strict.ArtifactDigest
import OpenRisk.Strict.ArtifactIdentity
import OpenRisk.Strict.DiagnosticOrder
import OpenRisk.Strict.ExactJson
import OpenRisk.Strict.ImportClosure
import OpenRisk.Strict.ModuleLexemes
import OpenRisk.Strict.ModuleSource
import OpenRisk.Strict.PolicyCapability
import OpenRisk.Strict.Verifier
import OpenRisk.Trust.Capacity
import OpenRisk.Trust.Verification
