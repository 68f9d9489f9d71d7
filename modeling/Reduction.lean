import Reduction.Spec.AcceptedServes
import Reduction.Spec.AccessEmbedding
import Reduction.Spec.AcmeRenewal
import Reduction.Spec.BatchBound
import Reduction.Spec.CacheReload
import Reduction.Spec.CertRotation
import Reduction.Spec.ChallengeCerts
import Reduction.Spec.CircuitInterleaving
import Reduction.Spec.CompressBuffers
import Reduction.Spec.ConnectionCap
import Reduction.Spec.ControlFraming
import Reduction.Spec.CrlReload
import Reduction.Spec.DenylistOrder
import Reduction.Spec.DrainGrace
import Reduction.Spec.EmptyResponses
import Reduction.Spec.EncodingNegotiation
import Reduction.Spec.ForwardedHeaders
import Reduction.Spec.GuardedWait
import Reduction.Spec.HeartbeatDeadline
import Reduction.Spec.IngressAccounting
import Reduction.Spec.IngressReload
import Reduction.Spec.KeyNames
import Reduction.Spec.LiveDenials
import Reduction.Spec.PoolIsolation
import Reduction.Spec.QueueBound
import Reduction.Spec.RawGates
import Reduction.Spec.RegistryRoster
import Reduction.Spec.RelayIdle
import Reduction.Spec.ReportCapture
import Reduction.Spec.RetryDiversity
import Reduction.Spec.RevokedPeers
import Reduction.Spec.Routing
import Reduction.Spec.WakeRefusal
import Reduction.Spec.WriterBackoff
import Reduction.Spec.WriterStreams
