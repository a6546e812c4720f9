import MiniTor.Common.Codec
import MiniTor.Common.Text

/-!
# Protobuf conversions (`proto/src/lib.rs`)

The types of `types.proto` as the generated code has them, and the conversions
between them and the types of `common`, written once in each direction. What a
descriptor is converted to converts back to it (`NodeDescriptor.fromProto_toProto`). What a
decoded exit policy converts back to is what was sent only if its ports fit a `u16`
(`ExitPolicy.fromProto_keeps_iff`).
-/

namespace MiniTor

open Theory

/-- The codes of `tonic::Status` the services use. -/
inductive StatusCode
  | invalidArgument
  | notFound
  | unavailable
  | internal
  deriving DecidableEq, Repr

/-- `tonic::Status`. -/
structure Status where
  code : StatusCode
  message : String
  deriving DecidableEq

def Status.invalidArgument (message : String) : Status := ⟨.invalidArgument, message⟩

/-! ## The generated types -/

namespace Proto

inductive NodeType
  | unspecified
  | entry
  | middle
  | exit
  deriving DecidableEq, Repr

/-- `as i32`. -/
def NodeType.toI32 : NodeType → Int32
  | unspecified => 0
  | entry => 1
  | middle => 2
  | exit => 3

/-- `NodeType::try_from(i32)`; the error is the text of an unknown value. -/
def NodeType.ofI32 (value : Int32) : Except String NodeType :=
  if value = 0 then .ok unspecified
  else if value = 1 then .ok entry
  else if value = 2 then .ok middle
  else if value = 3 then .ok exit
  else .error ("unknown enumeration value " ++ toString value.toInt)

structure PublicKey where
  bytes : Bytes
  deriving DecidableEq

structure ExitPolicy where
  allowedPorts : List UInt32
  blockedPorts : List UInt32
  allowedIps : List Bytes
  blockedIps : List Bytes
  deriving DecidableEq

structure NodeDescriptor where
  nodeId : String
  nodeType : Int32
  address : String
  publicKey : Option PublicKey
  bandwidth : UInt64
  exitPolicy : Option ExitPolicy
  operatorId : Option String
  tlsCertFingerprint : String
  deriving DecidableEq

end Proto

/-! ## The conversions -/

def NodeType.toProto : NodeType → Proto.NodeType
  | entry => .entry
  | middle => .middle
  | exit => .exit

def NodeType.fromProto : Proto.NodeType → Except Status NodeType
  | .entry => .ok entry
  | .middle => .ok middle
  | .exit => .ok exit
  | .unspecified => .error (.invalidArgument "NodeType unspecified")

def PublicKey.toProto (pk : PublicKey) : Proto.PublicKey := ⟨pk.bytes.toList⟩

def PublicKey.fromProto (pk : Proto.PublicKey) : Except Status PublicKey := do
  let bytes ← okOr (toArr 32 pk.bytes) (.invalidArgument "PublicKey must be exactly 32 bytes")
  return ⟨bytes⟩

def ipToBytes : IpAddr → Bytes
  | .v4 octets => octets.toList
  | .v6 octets => octets.toList

def ipFromBytes (bytes : Bytes) : Except Status IpAddr :=
  match bytes.length with
  | 4 => do return .v4 (← okOr (toArr 4 bytes) (.invalidArgument "Invalid IPv4 bytes"))
  | 16 => do return .v6 (← okOr (toArr 16 bytes) (.invalidArgument "Invalid IPv6 bytes"))
  | length => .error (.invalidArgument ("Invalid IP byte length: " ++ toString length))

def ExitPolicy.toProto (policy : ExitPolicy) : Proto.ExitPolicy where
  allowedPorts := policy.allowedPorts.map UInt16.toUInt32
  blockedPorts := policy.blockedPorts.map UInt16.toUInt32
  allowedIps := policy.allowedIps.map ipToBytes
  blockedIps := policy.blockedIps.map ipToBytes

def ExitPolicy.fromProto (policy : Proto.ExitPolicy) : Except Status ExitPolicy := do
  let allowedIps ← policy.allowedIps.mapM ipFromBytes
  let blockedIps ← policy.blockedIps.mapM ipFromBytes
  return {
    allowedPorts := policy.allowedPorts.map UInt32.toUInt16
    blockedPorts := policy.blockedPorts.map UInt32.toUInt16
    allowedIps
    blockedIps }

variable (A : AddrSyntax)

def NodeDescriptor.toProto (d : NodeDescriptor) : Proto.NodeDescriptor where
  nodeId := d.nodeId
  nodeType := d.nodeType.toProto.toI32
  address := A.display d.address
  publicKey := some d.publicKey.toProto
  bandwidth := d.bandwidth
  exitPolicy := d.exitPolicy.map ExitPolicy.toProto
  operatorId := d.operatorId
  tlsCertFingerprint := d.tlsCertFingerprint

def NodeDescriptor.fromProto (d : Proto.NodeDescriptor) : Except Status NodeDescriptor := do
  let nodeType ←
    match Proto.NodeType.ofI32 d.nodeType with
    | .ok t => NodeType.fromProto t
    | .error e => .error (.invalidArgument ("Invalid node type: " ++ e))
  let address ← okOr (A.parse d.address)
    (.invalidArgument "Invalid address: invalid socket address syntax")
  let publicKey ←
    match d.publicKey with
    | some pk => PublicKey.fromProto pk
    | none => .error (.invalidArgument "PublicKey is required")
  let exitPolicy ←
    match d.exitPolicy with
    | some ep => some <$> ExitPolicy.fromProto ep
    | none => .ok none
  return {
    nodeId := d.nodeId
    nodeType
    address
    publicKey
    bandwidth := d.bandwidth
    exitPolicy
    operatorId := d.operatorId
    tlsCertFingerprint := d.tlsCertFingerprint }

/-! ## Back and forth -/

@[simp] theorem Proto.NodeType.ofI32_toI32 (t : Proto.NodeType) : ofI32 t.toI32 = .ok t := by
  cases t <;> rfl

@[simp] theorem NodeType.fromProto_toProto (t : NodeType) : fromProto t.toProto = .ok t := by
  cases t <;> rfl

@[simp] theorem PublicKey.fromProto_toProto (pk : PublicKey) : fromProto pk.toProto = .ok pk := by
  rw [fromProto, toProto, toArr_toList]
  rfl

/-- The two families are told apart by their lengths. -/
@[simp] theorem ipFromBytes_ipToBytes (ip : IpAddr) : ipFromBytes (ipToBytes ip) = .ok ip := by
  cases ip with
  | v4 octets =>
    have hlen : (ipToBytes (.v4 octets)).length = 4 := octets.toList_length
    rw [ipFromBytes, hlen, ipToBytes, toArr_toList]
    rfl
  | v6 octets =>
    have hlen : (ipToBytes (.v6 octets)).length = 16 := octets.toList_length
    rw [ipFromBytes, hlen, ipToBytes, toArr_toList]
    rfl

/-- A port survives being widened. -/
theorem map_toUInt16_toUInt32 (ports : List UInt16) :
    (ports.map UInt16.toUInt32).map UInt32.toUInt16 = ports := by
  rw [List.map_map]
  have hid : UInt32.toUInt16 ∘ UInt16.toUInt32 = id := by
    funext port
    exact UInt16.toUInt16_toUInt32 port
  rw [hid, List.map_id]

@[simp] theorem ExitPolicy.fromProto_toProto (policy : ExitPolicy) :
    fromProto policy.toProto = .ok policy := by
  rw [fromProto, toProto]
  dsimp only
  rw [mapM_map_ok ipFromBytes_ipToBytes, mapM_map_ok ipFromBytes_ipToBytes,
    map_toUInt16_toUInt32, map_toUInt16_toUInt32]
  rfl

variable {A}

/-- **A descriptor converts back to itself**, if its address parses from its text. -/
theorem NodeDescriptor.fromProto_toProto {d : NodeDescriptor}
    (haddr : A.parse (A.display d.address) = some d.address) :
    fromProto A (d.toProto A) = .ok d := by
  obtain ⟨nodeId, nodeType, address, publicKey, bandwidth, exitPolicy, operatorId, fingerprint⟩ := d
  rw [fromProto, toProto]
  dsimp only at haddr ⊢
  rw [Proto.NodeType.ofI32_toI32, haddr, PublicKey.fromProto_toProto]
  dsimp only
  rw [NodeType.fromProto_toProto]
  -- the exit policy is the one optional field that converts
  cases exitPolicy with
  | none => rfl
  | some policy =>
    rw [Option.map_some]
    dsimp only
    rw [ExitPolicy.fromProto_toProto]
    rfl

/-! ## What is decoded -/

theorem ipToBytes_of_ipFromBytes {bytes : Bytes} {ip : IpAddr} (h : ipFromBytes bytes = .ok ip) :
    ipToBytes ip = bytes := by
  unfold ipFromBytes at h
  split at h
  · next hlen =>
    rw [toArr, dif_pos hlen] at h
    cases h
    rfl
  · next hlen =>
    rw [toArr, dif_pos hlen] at h
    cases h
    rfl
  · cases h

/-- The length decides. -/
theorem ipFromBytes_ok_iff (bytes : Bytes) :
    (∃ ip, ipFromBytes bytes = .ok ip) ↔ bytes.length = 4 ∨ bytes.length = 16 := by
  constructor
  · rintro ⟨ip, hip⟩
    rw [← ipToBytes_of_ipFromBytes hip]
    cases ip with
    | v4 octets => exact .inl octets.toList_length
    | v6 octets => exact .inr octets.toList_length
  · rintro (hlen | hlen)
    · exact ⟨_, ipFromBytes_ipToBytes (.v4 ⟨bytes, hlen⟩)⟩
    · exact ⟨_, ipFromBytes_ipToBytes (.v6 ⟨bytes, hlen⟩)⟩

/-- `as u16` keeps the ports a `u16` holds and changes every other one. -/
theorem toUInt32_toUInt16_iff (port : UInt32) :
    port.toUInt16.toUInt32 = port ↔ port.toNat ≤ 65535 := by
  rw [← UInt32.toNat_inj, UInt16.toNat_toUInt32, UInt32.toNat_toUInt16]
  omega

theorem map_toUInt32_toUInt16_iff (ports : List UInt32) :
    (ports.map UInt32.toUInt16).map UInt16.toUInt32 = ports ↔ ∀ port ∈ ports, port.toNat ≤ 65535 := by
  induction ports with
  | nil => simp
  | cons port ports ih =>
    rw [List.forall_mem_cons, ← ih, ← toUInt32_toUInt16_iff]
    exact List.cons_eq_cons

namespace ExitPolicy

variable (policy : Proto.ExitPolicy)

/-- Whether a policy is accepted is up to its addresses alone. -/
theorem fromProto_ok_iff :
    (∃ q, fromProto policy = .ok q) ↔
      ∀ ip ∈ policy.allowedIps ++ policy.blockedIps, ip.length = 4 ∨ ip.length = 16 := by
  simp only [List.forall_mem_append, ← ipFromBytes_ok_iff, ← mapM_ok_iff]
  constructor
  · rintro ⟨q, hq⟩
    obtain ⟨allowed, hallowed, htail⟩ := bind_eq_ok.mp hq
    obtain ⟨blocked, hblocked, -⟩ := bind_eq_ok.mp htail
    exact ⟨⟨allowed, hallowed⟩, blocked, hblocked⟩
  · rintro ⟨⟨allowed, hallowed⟩, blocked, hblocked⟩
    rw [fromProto, hallowed, hblocked]
    exact ⟨_, rfl⟩

variable {policy}

/-- An accepted policy converts back to itself if every port is one. -/
theorem toProto_fromProto_iff {q : ExitPolicy} (hq : fromProto policy = .ok q) :
    q.toProto = policy ↔
      ∀ port ∈ policy.allowedPorts ++ policy.blockedPorts, port.toNat ≤ 65535 := by
  obtain ⟨allowed, hallowed, htail⟩ := bind_eq_ok.mp hq
  obtain ⟨blocked, hblocked, heq⟩ := bind_eq_ok.mp htail
  cases heq
  have hips := mapM_ok_map (fun _ _ => ipToBytes_of_ipFromBytes) hallowed
  have hips' := mapM_ok_map (fun _ _ => ipToBytes_of_ipFromBytes) hblocked
  simp only [List.forall_mem_append, ← map_toUInt32_toUInt16_iff]
  obtain ⟨allowedPorts, blockedPorts, allowedIps, blockedIps⟩ := policy
  simp only [toProto, Proto.ExitPolicy.mk.injEq, hips, hips', and_true]

variable (policy)

/-- **A decoded policy says what was sent, unless a port is none**: a policy with a port past
65535 is either refused for one of its addresses, or taken with another port in its place. -/
theorem fromProto_keeps_iff :
    ((∀ q, fromProto policy = .ok q → q.toProto = policy) ∧
      ∀ port ∈ policy.allowedPorts ++ policy.blockedPorts, 65535 < port.toNat →
        ∃ e, fromProto policy = .error e) ↔
    (∀ port ∈ policy.allowedPorts ++ policy.blockedPorts, port.toNat ≤ 65535) ∨
      ∃ ip ∈ policy.allowedIps ++ policy.blockedIps, ip.length ≠ 4 ∧ ip.length ≠ 16 := by
  cases hq : fromProto policy with
  | error e =>
    have hbad : ¬ ∃ q, fromProto policy = .ok q := by
      rintro ⟨q, hq'⟩
      rw [hq] at hq'
      cases hq'
    rw [fromProto_ok_iff] at hbad
    push Not at hbad
    constructor
    · exact fun _ => .inr hbad
    · exact fun _ => ⟨fun q hq' => (nomatch hq'), fun _ _ _ => ⟨e, rfl⟩⟩
  | ok q =>
    have hips := (fromProto_ok_iff policy).mp ⟨q, hq⟩
    have hports := toProto_fromProto_iff hq
    constructor
    · exact fun h => .inl (hports.mp (h.1 q rfl))
    · rintro (hle | ⟨ip, hip, h4, h16⟩)
      · refine ⟨fun q' hq' => ?_, fun port hport hlt => absurd (hle port hport) (by omega)⟩
        cases hq'
        exact hports.mpr hle
      · exact ((hips ip hip).elim h4 h16).elim

/-- Port 65616 is decoded as 80. -/
theorem fromProto_truncates :
    ¬ ∀ (policy : Proto.ExitPolicy) (q : ExitPolicy),
      fromProto policy = .ok q → q.toProto = policy := by
  intro h
  have hport := h ⟨[65616], [], [], []⟩ ⟨[80], [], [], []⟩ rfl
  exact absurd hport (by decide)

end ExitPolicy

end MiniTor
