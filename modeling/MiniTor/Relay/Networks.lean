import MiniTor.Relay.ExitPolicy

/-!
# The default exit policy and private networks (`relay-node/src/core/config.rs`)

`RelayConfig::exit_policy` blocks four IPv4 addresses. They are the loopback address and
the base addresses of the three private networks; `allows` compares whole addresses.

- `Ipv4Network`: a block of IPv4 addresses, by base and length, as an interval
  (`Ipv4Network.contains_iff`).
- `IpAddr.IsPrivate`: 127.0.0.0/8, 10.0.0.0/8, 172.16.0.0/12 and 192.168.0.0/16.
- `RelayConfig.exitPolicy_private_iff`: the policy keeps clients out of these networks except
  at every address that is not one of the four, on the four web ports.
-/

namespace MiniTor

/-! ## Networks -/

/-- `Ipv4Addr::new`. -/
def Ipv4Addr.new (a b c d : UInt8) : ByteArr 4 := .cons a (.cons b (.cons c (.cons d .nil)))

/-- An IPv4 address as a number, first octet highest. -/
def toU32 (octets : ByteArr 4) : Nat := octets.toList.foldl (fun n octet => 256 * n + octet.toNat) 0

/-- `base/bits`. -/
structure Ipv4Network where
  base : ByteArr 4
  bits : Nat
  /-- The base is the lowest address of its network. -/
  aligned : 2 ^ (32 - bits) ∣ toU32 base

namespace Ipv4Network

variable (net : Ipv4Network)

/-- The first `bits` bits are those of the base. -/
def Contains (octets : ByteArr 4) : Prop :=
  toU32 octets / 2 ^ (32 - net.bits) = toU32 net.base / 2 ^ (32 - net.bits)

instance : DecidablePred net.Contains := fun octets =>
  inferInstanceAs (Decidable (toU32 octets / 2 ^ (32 - net.bits) = _))

/-- A network is an interval of addresses. -/
theorem contains_iff (octets : ByteArr 4) :
    net.Contains octets ↔
      toU32 net.base ≤ toU32 octets ∧ toU32 octets < toU32 net.base + 2 ^ (32 - net.bits) := by
  have hpos : 0 < 2 ^ (32 - net.bits) := Nat.two_pow_pos _
  obtain ⟨k, hk⟩ := net.aligned
  rw [Contains, hk, Nat.mul_div_cancel_left k hpos, Nat.div_eq_iff hpos, Nat.mul_comm]
  omega

end Ipv4Network

/-- 127.0.0.0/8. -/
def loopbackNetwork : Ipv4Network := ⟨Ipv4Addr.new 127 0 0 0, 8, by decide⟩

/-- The networks a client has no business in. -/
def privateNetworks : List Ipv4Network :=
  [loopbackNetwork,
    ⟨Ipv4Addr.new 10 0 0 0, 8, by decide⟩,
    ⟨Ipv4Addr.new 172 16 0 0, 12, by decide⟩,
    ⟨Ipv4Addr.new 192 168 0 0, 16, by decide⟩]

/-- An IPv4 address of one of these networks. -/
def IpAddr.IsPrivate : IpAddr → Prop
  | v4 octets => ∃ net ∈ privateNetworks, net.Contains octets
  | v6 _ => False

instance : DecidablePred IpAddr.IsPrivate
  | .v4 octets => inferInstanceAs (Decidable (∃ net ∈ privateNetworks, net.Contains octets))
  | .v6 _ => inferInstanceAs (Decidable False)

/-- `is_loopback` is membership in its network. -/
theorem isLoopback_v4_iff (octets : ByteArr 4) :
    (IpAddr.v4 octets).isLoopback = true ↔ loopbackNetwork.Contains octets := by
  have hinterval := loopbackNetwork.contains_iff octets
  have hhead : (IpAddr.v4 octets).isLoopback = true ↔ octets.head.toNat = 127 :=
    beq_iff_eq.trans UInt8.toNat_inj.symm
  have hbase : toU32 loopbackNetwork.base = 127 * 2 ^ 24 := by decide
  have hbits : loopbackNetwork.bits = 8 := rfl
  rw [hhead, hinterval, hbase, hbits]
  match octets with
  | ⟨[a, b, c, d], hlen⟩ =>
    have hb := b.toNat_lt
    have hc := c.toNat_lt
    have hd := d.toNat_lt
    show a.toNat = 127 ↔
      127 * 2 ^ 24 ≤ 256 * (256 * (256 * (256 * 0 + a.toNat) + b.toNat) + c.toNat) + d.toNat ∧
        256 * (256 * (256 * (256 * 0 + a.toNat) + b.toNat) + c.toNat) + d.toNat <
          127 * 2 ^ 24 + 2 ^ (32 - 8)
    omega

/-! ## The policy -/

namespace RelayConfig

/-- The ports the default policy allows. -/
def webPorts : List UInt16 := [80, 443, 8080, 8443]

/-- The addresses the default policy blocks. -/
def blockedAddresses : List IpAddr :=
  [.v4 (Ipv4Addr.new 127 0 0 1), .v4 (Ipv4Addr.new 10 0 0 0), .v4 (Ipv4Addr.new 172 16 0 0),
    .v4 (Ipv4Addr.new 192 168 0 0)]

/-- Each of the addresses that are blocked is a private one. -/
theorem isPrivate_of_mem_blockedAddresses : ∀ ip ∈ blockedAddresses, ip.IsPrivate := by decide

variable {config : RelayConfig}

/-- What the default policy allows: the blocked ports are no web ports. -/
theorem default_allows_iff (hdefault : config.exitAllowAll = false) {policy : ExitPolicy}
    (hpolicy : config.exitPolicy .exit = some policy) (addr : SocketAddr) :
    policy.allows addr = true ↔ addr.ip ∉ blockedAddresses ∧ addr.port ∈ webPorts := by
  rw [exitPolicy, if_pos rfl, if_neg (by simp [hdefault])] at hpolicy
  cases hpolicy
  rw [ExitPolicy.allows_iff]
  have hdisjoint : webPorts.all fun port => decide (port ∉ ([25, 465, 587] : List UInt16)) := by
    decide
  constructor
  · rintro ⟨hip, -, -, hport⟩
    exact ⟨hip, hport.resolve_left (by decide)⟩
  · rintro ⟨hip, hport⟩
    have hmail := of_decide_eq_true (List.all_eq_true.mp hdisjoint addr.port hport)
    exact ⟨hip, .inl rfl, hmail, .inr hport⟩

/-- **The default policy blocks four addresses, not four networks**: it keeps a client out of
the private networks, and lets it reach the web ports of everything else, exactly at the
destinations other than a web port of a private address that is not on its list. -/
theorem exitPolicy_private_iff (hdefault : config.exitAllowAll = false) (addr : SocketAddr) :
    (∃ policy, config.exitPolicy .exit = some policy ∧
      (addr.ip.IsPrivate → policy.allows addr = false) ∧
      (¬addr.ip.IsPrivate → (policy.allows addr = true ↔ addr.port ∈ webPorts))) ↔
    ¬(addr.ip.IsPrivate ∧ addr.ip ∉ blockedAddresses ∧ addr.port ∈ webPorts) := by
  have hallows := @default_allows_iff config hdefault
  constructor
  · rintro ⟨policy, hpolicy, hprivate, -⟩ ⟨hip, hlisted⟩
    have hallowed := (hallows hpolicy addr).mpr hlisted
    rw [hprivate hip] at hallowed
    cases hallowed
  · intro hok
    obtain ⟨policy, hpolicy⟩ : ∃ policy, config.exitPolicy .exit = some policy := ⟨_, rfl⟩
    refine ⟨policy, hpolicy, fun hip => ?_, fun hip => ?_⟩
    · rw [← Bool.not_eq_true, hallows hpolicy]
      exact fun hlisted => hok ⟨hip, hlisted⟩
    · rw [hallows hpolicy]
      exact and_iff_right fun hlisted => hip (isPrivate_of_mem_blockedAddresses _ hlisted)

/-- The list keeps a client away from port 80 of 10.0.0.0. -/
theorem exitPolicy_private_base :
    ∃ policy, (⟨1048576, false, none⟩ : RelayConfig).exitPolicy .exit = some policy ∧
      policy.allows (.v4 ⟨[10, 0, 0, 0], rfl⟩ 80) = false := by
  obtain ⟨policy, hpolicy, hblocked, -⟩ :=
    (@exitPolicy_private_iff ⟨1048576, false, none⟩ rfl
      (.v4 ⟨[10, 0, 0, 0], rfl⟩ 80)).mpr (by decide)
  exact ⟨policy, hpolicy, hblocked (by decide)⟩

/-- It does not keep one away from port 80 of 10.0.0.1. -/
theorem exitPolicy_not_private :
    ¬∀ (config : RelayConfig) (policy : ExitPolicy) (addr : SocketAddr),
      config.exitAllowAll = false → config.exitPolicy .exit = some policy → addr.ip.IsPrivate →
        policy.allows addr = false := by
  intro h
  have hblocked := h ⟨1048576, false, none⟩ _ (.v4 ⟨[10, 0, 0, 1], rfl⟩ 80) rfl rfl (by decide)
  exact absurd hblocked (by decide)

end RelayConfig

end MiniTor
