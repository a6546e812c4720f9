import MiniTor.Theory.Sha256
import MiniTor.Common.Codec
import MiniTor.Common.Ntor
import MiniTor.Discovery.Path
import MiniTor.Discovery.Clock
import MiniTor.Relay.Isolation
import MiniTor.Relay.Readers
import MiniTor.Relay.Lifecycle
import MiniTor.Circuit.Build
import MiniTor.Circuit.Forward
import MiniTor.Circuit.Teardown
import MiniTor.Circuit.Deadlock
import MiniTor.Circuit.SealOrder
import MiniTor.Client.PoolSize
import MiniTor.Client.Orphans
import MiniTor.Client.Usable
import MiniTor.Circuit.ClearFields
import MiniTor.Circuit.Tamper
import MiniTor.Common.Framing
import MiniTor.Proto.Convert
import MiniTor.Discovery.Grpc
import MiniTor.Relay.ExtendFormat
import MiniTor.Discovery.Overflow
import MiniTor.Circuit.Refused
import MiniTor.Client.StreamIds
import MiniTor.Client.Release
import MiniTor.Relay.ExitPolicy
import MiniTor.Relay.Networks
import MiniTor.Relay.Closed
import MiniTor.Common.Hex
import MiniTor.Common.Digest
import MiniTor.Discovery.Liveness
import MiniTor.Client.Reader
import MiniTor.Client.AgeBooks
import MiniTor.Client.Balance
import MiniTor.Relay.Accounting
import MiniTor.Client.Backoff
import MiniTor.Circuit.Authentic
import MiniTor.Circuit.Pinned
import MiniTor.Circuit.Download
import MiniTor.Discovery.Service
import MiniTor.Discovery.Draws
import MiniTor.Discovery.Fleet
import MiniTor.Circuit.Leftover
import MiniTor.Client.Vouched
import MiniTor.Client.LeastLoaded
import MiniTor.Relay.Oblivious
import MiniTor.Circuit.SameShape
