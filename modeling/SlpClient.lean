import SlpClient.Lib.Machine
import SlpClient.Lib.ByteCodec
import SlpClient.Ldn.Types
import SlpClient.Lib.ZeroRuns
import SlpClient.Ldn.Compression
import SlpClient.Net.Address
import SlpClient.Ldn.Frames
import SlpClient.Ldn.Control
import SlpClient.Ldn.Handlers
import SlpClient.Ldn.FrameRoundTrip
import SlpClient.Ldn.Commands
import SlpClient.Ldn.SyncGate
import SlpClient.Ldn.LocalMode
import SlpClient.Ldn.Tables
import SlpClient.Ldn.Effects
import SlpClient.Ldn.LockOrder
import SlpClient.Ldn.JoinState
import SlpClient.Ldn.ConnectResult
import SlpClient.Ldn.Bounds
import SlpClient.Tunnel.Packets
import SlpClient.Tunnel.Fragments
import SlpClient.Tunnel.Assembly
import SlpClient.Tunnel.Reassembly
import SlpClient.Tunnel.Delivery
import SlpClient.Tunnel.RoundTrip
import SlpClient.Bsd.PortPool
import SlpClient.Bsd.Service
import SlpClient.Bsd.Shapes
import SlpClient.Bsd.Registry
import SlpClient.Lib.Ledger
import SlpClient.Bsd.PortLedger
import SlpClient.Bsd.PortHistory
import SlpClient.Lib.SkipCounter
import SlpClient.Ldn.SeqOrder
import SlpClient.Ldn.Moves
import SlpClient.Ldn.HostTable
import SlpClient.Ldn.StationOrder
import SlpClient.Ldn.Transitions
import SlpClient.Ldn.StationView
import SlpClient.Ldn.NodeReports
import SlpClient.Ldn.Goodbye
import SlpClient.Ldn.FreshJoin
import SlpClient.Lib.Relay
import SlpClient.Ldn.SentSyncs
import SlpClient.Ldn.Membership
import SlpClient.Ldn.RoomSize
import SlpClient.Lib.KeyedTable
import SlpClient.Ldn.ScanTable
import SlpClient.Ldn.ScanResults
import SlpClient.Ldn.Sessions
import SlpClient.Slp.Client
import SlpClient.Slp.Runtime
import SlpClient.Lib.Alignment
import SlpClient.Slp.Servers
import SlpClient.Slp.VirtualId
import SlpClient.Lib.Ring
import SlpClient.Bsd.Receive
import SlpClient.Bsd.Datagrams
import SlpClient.Bsd.Calls
import SlpClient.Bsd.Replies
import SlpClient.Bsd.Frames
import SlpClient.Bsd.Ownership
import SlpClient.Bsd.Bursts
import SlpClient.Bsd.Promotion
import SlpClient.Bsd.ReceiveQueue
import SlpClient.Bsd.LateDelivery
import SlpClient.Bsd.DirectDelivery
import SlpClient.Lib.Bitmap
import SlpClient.Bsd.Readiness
import SlpClient.Lib.Traced
import SlpClient.Console.Traffic
import SlpClient.Console.Members
import SlpClient.Console.Loopback
import SlpClient.Console.ModeOwners
import SlpClient.Console.Identity
import SlpClient.Console.Inbound
import SlpClient.Tunnel.Checksum
import SlpClient.Lib.LeaseTable
import SlpClient.Ldn.Scanners
import SlpClient.Ldn.Unpacking
import SlpClient.Slp.ServerTable
import SlpClient.Slp.Selection
import SlpClient.Slp.Words
import SlpClient.Slp.ServerLines
import SlpClient.Lib.DnsFormat
import SlpClient.Lib.Memory
import SlpClient.Slp.DnsResponse
import SlpClient.Slp.DnsAnswers
import SlpClient.Slp.DnsQuery
import SlpClient.Lib.BlockHash
import SlpClient.Lib.SecureHash
import SlpClient.Slp.Sha1
import SlpClient.Slp.Sha1Stream
import SlpClient.Lib.Liveness
import SlpClient.Ldn.HostLiveness
import SlpClient.Ldn.HostWatch
import SlpClient.Ldn.HostLease
import SlpClient.Ldn.SilenceBounds
import SlpClient.Lib.Cadence
import SlpClient.Slp.RunLoop
import SlpClient.Lib.Handles
import SlpClient.Slp.Sockets
import SlpClient.Ldn.GenuineViews
import SlpClient.Ldn.Handshake
import SlpClient.Console.Exchange
