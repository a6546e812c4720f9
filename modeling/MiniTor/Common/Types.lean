import MiniTor.Common.Crypto

/-!
# Network types (`common/src/types.rs`)

`NodeDescriptor` and what it is made of. Addresses are the ones of `std::net`;
only the predicates the services call are defined on them.
-/

namespace MiniTor

/-- Node type in the Tor network. -/
inductive NodeType
  | entry
  | middle
  | exit
  deriving DecidableEq, Repr

/-- X25519 public key for a relay node. -/
structure PublicKey where
  bytes : ByteArr 32
  deriving DecidableEq

/-- `std::net::IpAddr`, by octets. -/
inductive IpAddr
  | v4 (octets : ByteArr 4)
  | v6 (octets : ByteArr 16)
  deriving DecidableEq

/-- `is_loopback`: 127.0.0.0/8, or exactly `::1`. -/
def IpAddr.isLoopback : IpAddr → Bool
  | v4 octets => octets.head == 127
  | v6 octets => octets.toList == List.replicate 15 0 ++ [1]

/-- `std::net::SocketAddr`. -/
inductive SocketAddr
  | v4 (octets : ByteArr 4) (port : UInt16)
  | v6 (octets : ByteArr 16) (port : UInt16) (flowinfo scopeId : UInt32)
  deriving DecidableEq

def SocketAddr.ip : SocketAddr → IpAddr
  | v4 octets _ => .v4 octets
  | v6 octets _ _ _ => .v6 octets

def SocketAddr.port : SocketAddr → UInt16
  | v4 _ port => port
  | v6 _ port _ _ => port

/-- Exit policy for exit nodes. -/
structure ExitPolicy where
  allowedPorts : List UInt16
  blockedPorts : List UInt16
  allowedIps : List IpAddr
  blockedIps : List IpAddr
  deriving DecidableEq

/-- Node descriptor containing all information about a relay node. -/
structure NodeDescriptor where
  nodeId : String
  nodeType : NodeType
  address : SocketAddr
  publicKey : PublicKey
  bandwidth : UInt64
  exitPolicy : Option ExitPolicy
  /-- Optional operator family tag. -/
  operatorId : Option String
  /-- SHA-256 hex fingerprint of the relay's TLS certificate. -/
  tlsCertFingerprint : String
  deriving DecidableEq

/-- Live metrics snapshot sent by a relay node during heartbeat. -/
structure NodeMetrics where
  connectionsAccepted : UInt64
  circuitsActive : UInt64
  circuitsCreated : UInt64
  circuitsDestroyed : UInt64
  bytesForwarded : UInt64
  bytesReceived : UInt64
  streamsOpened : UInt64
  uptimeSecs : UInt64
  eventSnapshot : List String
  deriving DecidableEq

end MiniTor
