import Bahia.Boltcoord.Agreement
import Bahia.Boltcoord.Interleaving
import Bahia.Controlplane.IntentOnce
import Bahia.Controlplane.IntentOrder
import Bahia.Controlplane.Membership
import Bahia.Delivery.Counting
import Bahia.Dnsagent.SyncOrder
import Bahia.Domain.RouteCanary
import Bahia.Inbound.LoomProof
import Bahia.Inbound.ReplayCursor
import Bahia.Lifecycle.Convergence
import Bahia.Lifecycle.Expiry
import Bahia.LocalStore.Convergence
import Bahia.LocalStore.Versions
import Bahia.Nostrout.HandOver
import Bahia.Nostrout.WireRate
import Bahia.Outbox.DuePages
import Bahia.Outbox.Latest
import Bahia.Projector.CreatedAt
import Bahia.Projector.Fingerprint
import Bahia.Relaysidecar.AdminPolicy
import Bahia.Saga.ConflictRuns
import Bahia.Saga.Resumption
import Bahia.Saga.Retention
import Bahia.Saga.Tombstones
import Bahia.Service.BackupScheduler
import Bahia.Trustepoch.Chain
import Bahia.Trustepoch.NoFallback
import Bahia.Trustepoch.Replays
