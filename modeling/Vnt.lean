import Vnt.Client.MergedList
import Vnt.Client.RouteExpiry
import Vnt.Client.RouteOrder
import Vnt.Client.RpcAnswers
import Vnt.Client.RpcClientList
import Vnt.Client.ServerRtt
import Vnt.Client.TaskGroup
import Vnt.Crypto.HeaderBinding
import Vnt.Fec.Expiry
import Vnt.Fec.Grouping
import Vnt.InternalNat.IcmpNat
import Vnt.InternalNat.UdpNat
import Vnt.Protocol.RawTransmission
import Vnt.Registration.Agreement
import Vnt.Registration.OverTheWire
import Vnt.Server.AddressSearch
import Vnt.Server.AdminAtomicity
import Vnt.Server.Bookkeeping
import Vnt.Server.ClientConnection
import Vnt.Server.Confirmation
import Vnt.Server.EchoReply
import Vnt.Server.GatewayRoundTrip
import Vnt.Server.Isolation
import Vnt.Server.LeaseConsistency
import Vnt.Server.LeaseDurations
import Vnt.Server.LockOrder
import Vnt.Server.OutboundPeers
import Vnt.Server.PeekableStream
import Vnt.Server.PeerLink
import Vnt.Server.PeerRoutes
import Vnt.Server.PreRegistration
import Vnt.Server.RegistrationResult
import Vnt.Server.Removals
import Vnt.Server.ReportedRoutes
import Vnt.Server.RootedSessions
import Vnt.Server.RouteChoice
import Vnt.Server.TrafficTotals
import Vnt.Server.Unicast
import Vnt.Server.UsableAddress
import Vnt.Sync.OverTheWire
import Vnt.Sync.Recreation
import Vnt.Tunnel.CompressedFlag
import Vnt.Tunnel.DatagramFlows
import Vnt.Tunnel.Dispatch
import Vnt.Tunnel.Echo
import Vnt.Tunnel.HopCount
import Vnt.Tunnel.InboundSafety
import Vnt.Tunnel.NonceUniqueness
import Vnt.Tunnel.ProxyFlows
import Vnt.Tunnel.Recipients
import Vnt.Tunnel.RelayProbe
import Vnt.Tunnel.RoundTrip
import Vnt.Tunnel.SubnetRoute
