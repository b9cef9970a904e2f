import HostBridge.Config.Document
import HostBridge.Config.Filter
import HostBridge.Json.Reader
import HostBridge.Pending.Session
import HostBridge.Pending.Wait
import HostBridge.Proofs.Ads.Agreement
import HostBridge.Proofs.Ads.CallerThread
import HostBridge.Proofs.Ads.Declared
import HostBridge.Proofs.Ads.Faults
import HostBridge.Proofs.Ads.Flattening
import HostBridge.Proofs.Ads.Loading
import HostBridge.Proofs.Ads.Options
import HostBridge.Proofs.Ads.Promises
import HostBridge.Proofs.Ads.RequestIds
import HostBridge.Proofs.Bridge.Gate
import HostBridge.Proofs.Bridge.Outcomes
import HostBridge.Proofs.Bridge.Shaping
import HostBridge.Proofs.Bridge.Shutdown
import HostBridge.Proofs.Bridge.Tables
import HostBridge.Proofs.Config.Overlay
import HostBridge.Proofs.Decode.Codec
import HostBridge.Proofs.Decode.Setting
import HostBridge.Proofs.Hub
import HostBridge.Proofs.Pending.Settling
import HostBridge.Proofs.Pending.Vigil
import HostBridge.Proofs.Pending.Waiting
import HostBridge.Proofs.Pool.Conclusion
import HostBridge.Proofs.Pool.Desertion
import HostBridge.Proofs.Pool.Hooks
import HostBridge.Proofs.Pool.Motion
import HostBridge.Proofs.Pool.Order
import HostBridge.Proofs.Pool.Staff
import HostBridge.Proofs.Run
import HostBridge.Proofs.Signature.Accessors
import HostBridge.Proofs.Signature.Arity
import HostBridge.Proofs.Signature.Binding
import HostBridge.Proofs.Value.Retraction
import HostBridge.Rehearsal.Access
import HostBridge.Rehearsal.AdSession
import HostBridge.Rehearsal.Deed
