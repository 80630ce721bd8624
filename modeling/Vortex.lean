import Vortex.Lib.Endian
import Vortex.Lib.Net
import Vortex.Lib.Outcome
import Vortex.Lib.Text
import Vortex.Lib.Counting
import Vortex.Lib.History
import Vortex.Lib.Peak
import Vortex.Lib.VirtualClock
import Vortex.Lib.ArgMin
import Vortex.Lib.BoundedMap
import Vortex.Lib.Retain
import Vortex.Lib.Transition
import Vortex.Lib.Trace
import Vortex.Lib.Reader
import Vortex.Lib.Dialogue
import Vortex.Lib.Unwinding
import Vortex.Lib.Ownership
import Vortex.Lib.CompareExchange
import Vortex.Core.CircuitBreaker
import Vortex.Core.Backend
import Vortex.Core.Routing
import Vortex.Core.BreakerAtomics
import Vortex.Core.EwmaAtomics
import Vortex.Core.PeakEwma
import Vortex.Core.SelectScan
import Vortex.Core.SortConsistency
import Vortex.Core.Balance
import Vortex.Filters.RedisStore
import Vortex.Filters.Gcra
import Vortex.Filters.GcraExact
import Vortex.Filters.GcraFleet
import Vortex.Filters.GcraReply
import Vortex.Filters.ProxyWasm
import Vortex.Filters.GuestRun
import Vortex.Ebpf.Limiter
import Vortex.Ebpf.Xdp
import Vortex.Ebpf.MockSimulation
import Vortex.Proxy.Admission
import Vortex.Proxy.BanManager
import Vortex.Proxy.BanSafety
import Vortex.Proxy.BanSequence
import Vortex.Proxy.BanDuration
import Vortex.Proxy.Gateway
import Vortex.Proxy.KernelBans
import Vortex.Proxy.KernelGate
import Vortex.Proxy.Clients
import Vortex.Proxy.Forwarding
import Vortex.Proxy.HalfOpen
import Vortex.Proxy.Upstream
import Vortex.Proxy.Pipeline
import Vortex.Proxy.PoolSafety
import Vortex.Proxy.ActiveRequests
import Vortex.Proxy.Sequential
import Vortex.Proxy.Coarsening
import Vortex.Proxy.BackendEvents
import Vortex.Proxy.PoolBound
import Vortex.Proxy.Prober
import Vortex.Proxy.Connections
import Vortex.Proxy.ConcurrentSelection
import Vortex.Proxy.Accesses
import Vortex.Proxy.Undisturbed
import Vortex.Proxy.AccessHistory
import Vortex.Proxy.Outage
import Vortex.Proxy.Sni
import Vortex.Proxy.CertReload
import Vortex.Proxy.SniLookup
import Vortex.Proxy.Telemetry
import Vortex.Admin.Watcher
import Vortex.Admin.Topology
import Vortex.Admin.ControlPlane
import Vortex.Admin.Draining
