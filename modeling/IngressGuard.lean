import IngressGuard.App
import IngressGuard.Auth.Spec
import IngressGuard.Backups
import IngressGuard.Binary64.Basic
import IngressGuard.Binary64.Shortest
import IngressGuard.Bytes
import IngressGuard.Dex.Address
import IngressGuard.Dex.Message
import IngressGuard.Dex.Registry
import IngressGuard.Dex.Wire
import IngressGuard.Digest.Sha256
import IngressGuard.Json.Basic
import IngressGuard.Json.Decode
import IngressGuard.Json.Mismatch
import IngressGuard.Json.Read
import IngressGuard.Json.Render
import IngressGuard.Kube.Ingress
import IngressGuard.Kube.Json
import IngressGuard.Kube.Labels
import IngressGuard.Kube.Marks
import IngressGuard.Kube.Meta
import IngressGuard.Kube.Time
import IngressGuard.Kube.Workload
import IngressGuard.Main
import IngressGuard.Options
import IngressGuard.Proxy
import IngressGuard.Random.ChaCha
import IngressGuard.Reconcile
import IngressGuard.Security
import IngressGuard.Text.Base32Hex
import IngressGuard.Text.Quoted
import IngressGuard.World.Basic
import IngressGuard.World.Calls
import IngressGuard.World.Failure
import IngressGuard.Proofs.Logic
import IngressGuard.Proofs.Calls
import IngressGuard.Proofs.Objects
import IngressGuard.Proofs.BackupText
import IngressGuard.Proofs.Sagas
import IngressGuard.Proofs.Runs
import IngressGuard.Proofs.ProxySafety
import IngressGuard.Proofs.QuietSagas
import IngressGuard.Proofs.RoundTrip
import IngressGuard.Proofs.RollbackProgress
import IngressGuard.Proofs.IngressWrites
import IngressGuard.Proofs.AsciiText
import IngressGuard.Proofs.ClientSecrets
import IngressGuard.Proofs.RollbackCleanup
import IngressGuard.Proofs.Fixpoint
import IngressGuard.Proofs.Restart.Outside
import IngressGuard.Proofs.Restart.Securing
import IngressGuard.Proofs.Restart.RollingBack
import IngressGuard.Proofs.Restart
import IngressGuard.Proofs.BackendSwap
import IngressGuard.Proofs.BackupCell
import IngressGuard.Proofs.Decision
import IngressGuard.Proofs.AppCells
import IngressGuard.Proofs.Lockstep
import IngressGuard.Proofs.LookAlike
import IngressGuard.Proofs.FreshSecrets
import IngressGuard.Proofs.SecretValues
import IngressGuard.Proofs.Commute
import IngressGuard.Proofs.PortText
import IngressGuard.Proofs.Base32HexCodec
import IngressGuard.Proofs.SourceLabel
import IngressGuard.Proofs.DexWire
import IngressGuard.Proofs.Registration
import IngressGuard.Proofs.Repointing
import IngressGuard.Proofs.RegistererPool
import IngressGuard.Proofs.LabelValues
import IngressGuard.Proofs.ProxyDeployment
