import FerroTunnel.Accept.Permits
import FerroTunnel.Accept.Stalls
import FerroTunnel.Dashboard.Replay
import FerroTunnel.Embedded.ClientLifecycle
import FerroTunnel.Embedded.ServerLifecycle
import FerroTunnel.Ingress.BreakerTrips
import FerroTunnel.Ingress.ForwardedRequests
import FerroTunnel.Ingress.HostForms
import FerroTunnel.Ingress.HostRouting
import FerroTunnel.Ingress.Http3Response
import FerroTunnel.Ingress.RequestPipeline
import FerroTunnel.Ingress.StallGuard
import FerroTunnel.Ingress.TcpConnection
import FerroTunnel.Link.Blocking
import FerroTunnel.Link.Fidelity
import FerroTunnel.Plugins.BreakerInterleaving
import FerroTunnel.Plugins.OpenDuration
import FerroTunnel.Plugins.TokenAuth
import FerroTunnel.Proxy.ConnectionReuse
import FerroTunnel.Proxy.IdleOrder
import FerroTunnel.Proxy.SharedConnection
import FerroTunnel.Stream.Bookkeeping
import FerroTunnel.Stream.BytesPool
import FerroTunnel.Stream.FinalEnd
import FerroTunnel.Stream.LocalOpens
import FerroTunnel.Stream.RateLimited
import FerroTunnel.Stream.ShutdownOnce
import FerroTunnel.Stream.StreamIds
import FerroTunnel.Transport.SegmentEncoding
import FerroTunnel.Transport.SenderRuns
import FerroTunnel.Transport.ServerName
import FerroTunnel.Tunnel.Handover
import FerroTunnel.Tunnel.Heartbeats
import FerroTunnel.Tunnel.ProcessMessages
import FerroTunnel.Tunnel.QuicAccept
import FerroTunnel.Tunnel.Replacement
import FerroTunnel.Tunnel.SessionLifetime
import FerroTunnel.Wire.DecodeBudget
import FerroTunnel.Wire.ZeroCopy
