import MiniTor.Circuit.Directory
import MiniTor.Common.Tls

/-!
# Pins along a path

The client pins the certificate of the entry, and tells each relay in an EXTEND which
certificate to expect of the next one. The fingerprints come from the directory, which has them
from the relays.

- `relayDial`, `pathDial`: the dial to each hop of a path.
- `dialReaches_iff_connect`: a network of honest relays is reached where the pin lets it be.
- `path_pins_hold`: whoever answers at a hop's address is connected to exactly if its
  certificate has the digest of the relay's.
-/

namespace MiniTor

open Theory Client

variable (P : Primitives) (A : AddrSyntax)

/-- What a relay does with a decrypted EXTEND payload, up to the end of the TLS handshake. -/
def relayDial (role : HopRole) (servers : Servers) (payload : Bytes) : Except Error Bytes := do
  let request ← parseExtend A role payload
  TcpTlsTransport.connect P servers request.addr request.fingerprint

/-- The role of the relay that extends to this hop: the entry to the first middle, a middle to
the others. -/
def extendRole : Nat → HopRole
  | 0 => entryRole
  | _ + 1 => middleRole A

/-- The dial to a hop of a path: by the client to the entry, by the relay before it to any
other, with the payload `handshake_extend` makes for it. -/
def pathDial (servers : Servers) (clientPublic : ByteArr 32) (d : NodeDescriptor) :
    Nat → Except Error Bytes
  | 0 => TcpTlsTransport.connect P servers d.address d.tlsCertFingerprint
  | k + 1 =>
    relayDial P A (extendRole A k) servers
      (extendPayload (A.display d.address) clientPublic d.tlsCertFingerprint)

/-- The relay's certificate is the one it published. -/
def Certified (certs : NodeDescriptor → Bytes) (d : NodeDescriptor) : Prop :=
  d.tlsCertFingerprint = computeCertFingerprint P (certs d)

variable {P A}

/-- The dials of a path all pin what the relay published. -/
theorem pathDial_eq_connect {d : NodeDescriptor}
    (hparse : A.parse (A.display d.address) = some d.address)
    (hnul : (0 : UInt8) ∉ asBytes (A.display d.address)) (servers : Servers)
    (clientPublic : ByteArr 32) (k : Nat) :
    pathDial P A servers clientPublic d k =
      TcpTlsTransport.connect P servers d.address d.tlsCertFingerprint := by
  cases k with
  | zero => rfl
  | succ k => rw [pathDial, relayDial, parseExtend_extendPayload A hparse hnul, ok_bind]

/-- **The network of the model is the pinned one**: with a relay that shows its own certificate
at its own address, a dial that pins what some relay published reaches it exactly if the
connection is made. -/
theorem dialReaches_iff_connect {certs : NodeDescriptor → Bytes} {next : Host} (rest : List Host)
    (hcert : Certified P certs next.descriptor) {d : NodeDescriptor} (hpin : Certified P certs d)
    (addr : SocketAddr) (refused : IoError) :
    dialReaches addr d.tlsCertFingerprint (next :: rest) = true ↔
      ∃ shown, TcpTlsTransport.connect P
        (fun a => if next.descriptor.address = a then .ok (certs next.descriptor) else .error refused)
        addr d.tlsCertFingerprint = .ok shown := by
  have hconnect : ∀ shown, TcpTlsTransport.connect P
      (fun a => if next.descriptor.address = a then .ok (certs next.descriptor) else .error refused)
      addr d.tlsCertFingerprint = .ok shown ↔
        (if next.descriptor.address = addr then .ok (certs next.descriptor)
          else (.error refused : Except IoError Bytes)) = .ok shown ∧
          P.sha256 shown = P.sha256 (certs d) := by
    intro shown
    rw [hpin, connect_eq_ok_iff]
  rw [dialReaches, Bool.and_eq_true, beq_iff_eq, beq_iff_eq]
  constructor
  · rintro ⟨haddr, hfingerprint⟩
    rw [hcert, hpin, computeCertFingerprint_inj] at hfingerprint
    exact ⟨certs next.descriptor, (hconnect _).mpr ⟨if_pos haddr, hfingerprint⟩⟩
  · rintro ⟨shown, hshown⟩
    obtain ⟨hserver, hdigest⟩ := (hconnect shown).mp hshown
    by_cases haddr : next.descriptor.address = addr
    · rw [if_pos haddr] at hserver
      cases hserver
      exact ⟨haddr, by rw [hcert, hpin, computeCertFingerprint_inj, hdigest]⟩
    · rw [if_neg haddr] at hserver
      cases hserver

/-- **The pins of a path hold.** When every relay registers itself, with the fingerprint of its
own certificate, then at every hop of a path the client takes from the directory, whoever
answers at the relay's address and whatever certificate it shows: the dial succeeds exactly if
that certificate has the digest of the relay's. So it is the relay's certificate, or two
certificates with one SHA-256 value are at hand. -/
theorem path_pins_hold {hosts : NodeDescriptor → Host} {certs : NodeDescriptor → Bytes}
    (hcerts : ∀ d, Operated P A hosts d → Certified P certs d) {allowSameIp : Bool}
    {r : NodeRegistry} (hr : ServedRegistry A (Registers P A hosts) allowSameIp r)
    {overflowChecks : Bool} {hopCount : Nat} {rng : Rng} {path : List NodeDescriptor}
    (hpath : DirectoryClient.getRandomPath A overflowChecks r hopCount rng = .ok path)
    (servers : Servers) (clientPublic : ByteArr 32) {k : Nat} {d : NodeDescriptor}
    (hd : path[k]? = some d) :
    (∀ shown, pathDial P A servers clientPublic d k = .ok shown ↔
      servers d.address = .ok shown ∧ P.sha256 shown = P.sha256 (certs d)) ∧
      ∀ shown, pathDial P A servers clientPublic d k = .ok shown →
        shown = certs d ∨ Collides P.sha256 shown (certs d) := by
  have hoperated : Operated P A hosts d := (hr.operated hpath).1 d (List.mem_of_getElem? hd)
  have hextendable := hoperated.extendable
  have hdial := fun shown => by
    have hconnect := @connect_eq_ok_iff P servers d.address (certs d) shown
    rw [← hcerts d hoperated] at hconnect
    exact hconnect
  have hself := hoperated.descriptor
  have hpins : pathDial P A servers clientPublic d k =
      TcpTlsTransport.connect P servers d.address d.tlsCertFingerprint :=
    pathDial_eq_connect (hself ▸ hextendable.parse) (hself ▸ hextendable.noNul) servers
      clientPublic k
  rw [hpins]
  exact ⟨hdial, fun shown hshown => eq_or_collides ((hdial shown).mp hshown).2⟩

/-! ### A sample path -/

/-- The certificate of the relay at an address, which is its last octet. -/
def pinnedCerts (d : NodeDescriptor) : Bytes := [(ipToBytes d.address.ip).getLastD 0]

/-- The relay at 127.0.0.`n`, with its certificate's fingerprint. -/
def pinnedHost (n : UInt8) (nodeType : NodeType) : Host :=
  let host := directoryHost n nodeType
  { host with
    descriptor :=
      { host.descriptor with tlsCertFingerprint := computeCertFingerprint .sample [n] } }

def pinnedHosts (d : NodeDescriptor) : Host :=
  pinnedHost ((ipToBytes d.address.ip).getLastD 0) d.nodeType

theorem pinnedHosts_certified (d : NodeDescriptor)
    (h : Operated .sample .ipv4 pinnedHosts d) : Certified .sample pinnedCerts d := by
  rw [Certified, ← h.descriptor]
  rfl

theorem pinnedHost_operated {n : UInt8} (hn : n ∈ [1, 2, 3]) (nodeType : NodeType) :
    Operated .sample .ipv4 pinnedHosts (pinnedHost n nodeType).descriptor where
  descriptor := rfl
  honest := ⟨⟨sampleSecret n, rfl⟩, rfl, rfl⟩
  extendable := by
    simp only [List.mem_cons, List.not_mem_nil, or_false] at hn
    rcases hn with rfl | rfl | rfl <;> cases nodeType <;>
      exact ⟨ipv4_parse_display _ _, by decide, by decide +kernel⟩

def pinnedDirectory : NodeRegistry :=
  [pinnedHost 1 .entry, pinnedHost 2 .middle, pinnedHost 3 .exit].foldl
    (fun r host => DiscoveryService.step .ipv4 r (.registerNode 0 (host.descriptor.toProto .ipv4)))
    (NodeRegistry.new true)

theorem pinnedDirectory_served :
    ServedRegistry .ipv4 (Registers .sample .ipv4 pinnedHosts) true pinnedDirectory := by
  have hregisters : ∀ {n : UInt8} (nodeType : NodeType), n ∈ [1, 2, 3] →
      ∀ now protoDesc, GrpcCall.registerNode 0 ((pinnedHost n nodeType).descriptor.toProto .ipv4) =
        .registerNode now protoDesc → Registers .sample .ipv4 pinnedHosts protoDesc := by
    intro n nodeType hn now protoDesc hcall
    cases hcall
    exact ⟨_, pinnedHost_operated hn nodeType, rfl⟩
  exact ((ServedRegistry.new.step _ (hregisters .entry (by decide))).step _
    (hregisters .middle (by decide))).step _ (hregisters .exit (by decide))

/-- The middle shows its own certificate and is connected to; a server that shows it in the
exit's place is not. -/
theorem pinnedDirectory_pins_hold :
    pathDial .sample .ipv4 (fun _ => .ok [2]) (sampleSecret 0) (pinnedHost 2 .middle).descriptor 1 =
        .ok [2] ∧
      pathDial .sample .ipv4 (fun _ => .ok [2]) (sampleSecret 0) (pinnedHost 3 .exit).descriptor 2 ≠
        .ok [2] := by
  have hpath : DirectoryClient.getRandomPath .ipv4 true pinnedDirectory 3 ⟨fun _ => 0, 0⟩ =
      .ok [(pinnedHost 1 .entry).descriptor, (pinnedHost 2 .middle).descriptor,
        (pinnedHost 3 .exit).descriptor] := by decide +kernel
  refine ⟨((path_pins_hold pinnedHosts_certified pinnedDirectory_served hpath (fun _ => .ok [2])
    (sampleSecret 0) (k := 1) rfl).1 [2]).mpr ⟨rfl, rfl⟩, fun hdial => ?_⟩
  have hdigest := (((path_pins_hold pinnedHosts_certified pinnedDirectory_served hpath
    (fun _ => .ok [2]) (sampleSecret 0) (k := 2) rfl).1 [2]).mp hdial).2
  exact absurd hdigest (by decide +kernel)

end MiniTor
