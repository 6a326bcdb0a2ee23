import LiteVpn.Semantics.Machine
import LiteVpn.Strings.Utf8
import LiteVpn.Strings.Lines
import LiteVpn.Strings.Decimal
import LiteVpn.Core.Auth
import LiteVpn.Core.AuthAcceptance
import LiteVpn.Core.AuthAgreement
import LiteVpn.Core.AuthRoundTrip
import LiteVpn.Keygen.Token
import LiteVpn.Client.BenchArgs
import LiteVpn.Client.Acceptance
import LiteVpn.Client.RouteInstall
import LiteVpn.Client.RouteLifetime
import LiteVpn.Server.BenchDeadline
import LiteVpn.Core.Stream
import LiteVpn.Core.StreamDelivery
import LiteVpn.Core.StreamReference
import LiteVpn.Vpn.StreamStartup
import LiteVpn.Server.Exclusive
import LiteVpn.Core.PacerWindow
import LiteVpn.Core.PacerLongRun
import LiteVpn.Core.PacerBand
import LiteVpn.Core.BacklogBound
import LiteVpn.Core.BacklogStall
import LiteVpn.Core.BacklogCache
import LiteVpn.Core.DatagramPump
import LiteVpn.Bench.DatagramSend
import LiteVpn.Bench.SummaryRoundTrip
import LiteVpn.Bench.StreamBench
import LiteVpn.Core.DatagramReceive
import LiteVpn.Core.StreamArrival
import LiteVpn.Core.PacerDelay
import LiteVpn.Core.PacedPump
import LiteVpn.Vpn.DatagramSession
import LiteVpn.Server.RegistrySettling
import LiteVpn.Semantics.Script
import LiteVpn.Bench.Aggregate
import LiteVpn.Client.LifecycleSafety
import LiteVpn.Client.BenchRuns
import LiteVpn.Semantics.Lossy
import LiteVpn.Client.RouteRecovery
import LiteVpn.Client.TunnelRoutes
import LiteVpn.Server.DeviceTraffic
import LiteVpn.Server.Takeover
import LiteVpn.Bench.DatagramExchange
import LiteVpn.Bench.DatagramAgreement
import LiteVpn.Strings.Assignments
import LiteVpn.Vpn.TransportSwitch
import LiteVpn.Semantics.Unwinding
import LiteVpn.Server.Process
import LiteVpn.Server.Outsiders
