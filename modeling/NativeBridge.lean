import NativeBridge.Bridge
import NativeBridge.Derive.Plan
import NativeBridge.Proofs.Arena.Refinement
import NativeBridge.Proofs.Call.ExactCount
import NativeBridge.Proofs.Call.Omission
import NativeBridge.Proofs.Call.Safety
import NativeBridge.Proofs.Derive.KeySequence
import NativeBridge.Proofs.Derive.UnknownKeys
import NativeBridge.Proofs.Fingerprint.Exchange
import NativeBridge.Proofs.Fingerprint.Naming
import NativeBridge.Proofs.Parameter.NativeDefaults
import NativeBridge.Proofs.Registry.CopyMember
import NativeBridge.Proofs.Registry.FieldStore
import NativeBridge.Proofs.Registry.Outcomes
import NativeBridge.Proofs.Registry.Rejection
import NativeBridge.Proofs.Registry.Unwrapping
import NativeBridge.Proofs.Registry.Variables
import NativeBridge.Registry.RecordingHost
import NativeBridge.Sample.Body
import NativeBridge.Sample.Script
import NativeBridge.Session
