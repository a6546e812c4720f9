import MiniTor.Circuit.Forward
import MiniTor.Discovery.Grpc

/-!
# From the directory to a circuit in use

The client asks the discovery service for a path and builds a circuit over it. When every
message that registers a relay is that relay's own, every path the client gets is one of
honest relays: it can be built, and what is built stays in step.

- `Operated`: the relay behind a descriptor.
- `DirectoryClient.getRandomPath_inv`: what an answer the client takes was in the registry.
- `directory_path_works`: the two together, and any run of the circuit built.
-/

namespace MiniTor

open Theory Client

variable {P : Primitives} {A : AddrSyntax} {circuitId : CircuitId}

/-- A relay runs behind this descriptor, as the descriptor says. -/
structure Operated (P : Primitives) (A : AddrSyntax) (hosts : NodeDescriptor → Host)
    (d : NodeDescriptor) : Prop where
  descriptor : (hosts d).descriptor = d
  honest : (hosts d).Honest P
  extendable : (hosts d).Extendable A

theorem Operated.printable {hosts : NodeDescriptor → Host} {d : NodeDescriptor}
    (h : Operated P A hosts d) : d.Printable A := by
  have hparse := h.extendable.parse
  rw [h.descriptor] at hparse
  exact hparse

/-- The message is the registration of a relay that runs. -/
def Registers (P : Primitives) (A : AddrSyntax) (hosts : NodeDescriptor → Host)
    (protoDesc : Proto.NodeDescriptor) : Prop :=
  ∃ d, Operated P A hosts d ∧ d.toProto A = protoDesc

/-- What the client takes from the directory was chosen by the registry and has as many hops as
it asked for. -/
theorem DirectoryClient.getRandomPath_inv {overflowChecks : Bool} {r : NodeRegistry}
    {hopCount : Nat} {rng : Rng} {path : List NodeDescriptor}
    (h : DirectoryClient.getRandomPath A overflowChecks r hopCount rng = .ok path) :
    path.length = hopCount ∧ ∃ count chosen, r.getRandomPath overflowChecks count rng = .ok chosen ∧
      (chosen.map (NodeDescriptor.toProto A)).mapM (NodeDescriptor.fromProto A) = .ok path := by
  unfold DirectoryClient.getRandomPath DiscoveryService.getRandomPath at h
  cases hchosen : r.getRandomPath overflowChecks (max (UInt32.ofNat hopCount).toNat 3) rng with
  | error fault =>
    rw [hchosen] at h
    cases fault with
    | panic => cases h
    | registry e => cases e <;> cases h
  | ok chosen =>
    rw [hchosen] at h
    dsimp only at h
    cases hnodes : (chosen.map (NodeDescriptor.toProto A)).mapM (NodeDescriptor.fromProto A) with
    | error status =>
      rw [hnodes] at h
      cases h
    | ok nodes =>
      rw [hnodes] at h
      dsimp only at h
      by_cases hcount : nodes.length ≠ hopCount
      · rw [if_pos hcount] at h
        cases h
      · rw [if_neg hcount] at h
        cases h
        exact ⟨not_not.mp hcount, _, chosen, hchosen, hnodes⟩

/-- **A path the client takes is of relays that registered themselves**, and is the one the
registry chose. -/
theorem ServedRegistry.chosen {relays : NodeDescriptor → Prop}
    (hprint : ∀ d, relays d → d.Printable A) {allowSameIp : Bool} {r : NodeRegistry}
    (hr : ServedRegistry A (fun protoDesc => ∃ d, relays d ∧ d.toProto A = protoDesc) allowSameIp r)
    {overflowChecks : Bool} {hopCount : Nat} {rng : Rng} {path : List NodeDescriptor}
    (h : DirectoryClient.getRandomPath A overflowChecks r hopCount rng = .ok path) :
    (∀ d ∈ path, relays d) ∧ ∃ count, r.getRandomPath overflowChecks count rng = .ok path := by
  obtain ⟨-, count, chosen, hchosen, hparsed⟩ := DirectoryClient.getRandomPath_inv h
  obtain ⟨-, hregistered, -⟩ := NodeRegistry.getRandomPath_layout hr.reachable hchosen
  have hown : ∀ d ∈ chosen, relays d := by
    intro d hd
    obtain ⟨protoDesc, ⟨d', hd', rfl⟩, hparse⟩ := (hr.admitted d (hregistered d hd)).sent
    rw [NodeDescriptor.fromProto_toProto (hprint d' hd')] at hparse
    cases hparse
    exact hd'
  rw [mapM_fromProto_toProto fun d hd => hprint d (hown d hd)] at hparsed
  cases hparsed
  exact ⟨hown, count, hchosen⟩

/-- **Behind every node of a path the client takes, its relay runs.** -/
theorem ServedRegistry.operated {hosts : NodeDescriptor → Host} {allowSameIp : Bool}
    {r : NodeRegistry} (hr : ServedRegistry A (Registers P A hosts) allowSameIp r)
    {overflowChecks : Bool} {hopCount : Nat} {rng : Rng} {path : List NodeDescriptor}
    (h : DirectoryClient.getRandomPath A overflowChecks r hopCount rng = .ok path) :
    (∀ d ∈ path, Operated P A hosts d) ∧
      ∃ count, r.getRandomPath overflowChecks count rng = .ok path :=
  ServedRegistry.chosen (fun _ hd => hd.printable) hr h

/-- **A path the client takes is one of honest relays.** -/
theorem ServedRegistry.honestPath {hosts : NodeDescriptor → Host} {allowSameIp : Bool}
    {r : NodeRegistry} (hr : ServedRegistry A (Registers P A hosts) allowSameIp r)
    {overflowChecks : Bool} {hopCount : Nat} {rng : Rng} {path : List NodeDescriptor}
    (h : DirectoryClient.getRandomPath A overflowChecks r hopCount rng = .ok path) :
    path.length = hopCount ∧ (path.map hosts).map Host.descriptor = path ∧
      HonestPath P A (path.map hosts) := by
  obtain ⟨hoperated, count, hchosen⟩ := hr.operated h
  obtain ⟨-, -, middles, -, hroles⟩ := NodeRegistry.getRandomPath_layout hr.reachable hchosen
  have hself : (path.map hosts).map Host.descriptor = path := by
    rw [List.map_map]
    exact (List.map_congr_left fun d hd => (hoperated d hd).descriptor).trans (List.map_id path)
  refine ⟨(DirectoryClient.getRandomPath_inv h).1, hself, ⟨middles, ?_⟩, ?_, ?_⟩
  · rw [← hroles, List.map_map]
    exact List.map_congr_left fun d hd => congrArg _ (hoperated d hd).descriptor
  · intro host hhost
    obtain ⟨d, hd, rfl⟩ := List.mem_map.mp hhost
    exact (hoperated d hd).honest
  · intro host hhost
    obtain ⟨d, hd, rfl⟩ := List.mem_map.mp (List.mem_of_mem_tail hhost)
    exact (hoperated d hd).extendable

/-- A key for every relay of the path. -/
theorem HonestPath.build_length {hosts : List Host} (hpath : HonestPath P A hosts)
    (hcomm : ∀ x y, P.x25519 x (P.x25519Public y) = P.x25519 y (P.x25519Public x))
    {padding : Nat → UInt8} {ephemerals : Nat → ByteArr 32} {circuit : Circuit} {net : Network}
    (hbuild : build P A (Network.transport P A ⟨hosts, []⟩ padding) circuitId
      (hosts.map Host.descriptor) ephemerals = .ok (circuit, net)) :
    circuit.onionKeys.sessionKeys.length = hosts.length := by
  obtain ⟨middles, hroles⟩ := hpath.roles
  obtain ⟨net', hops, hbuild', -, hlen, hstatic, -⟩ :=
    @build_joined P A circuitId hosts middles hcomm padding ephemerals hroles hpath.honest
      hpath.extendable
  cases hbuild.symm.trans hbuild'
  have hcount := congrArg List.length hstatic
  rw [List.length_map, List.length_map] at hcount
  exact (List.length_map _).trans (hlen.trans hcount)

/-- A circuit that was built over an honest path stays in step, whatever its streams do. -/
theorem HonestPath.stays_in_step {hosts : List Host} (hpath : HonestPath P A hosts)
    (hcomm : ∀ x y, P.x25519 x (P.x25519Public y) = P.x25519 y (P.x25519Public x))
    {padding : Nat → UInt8} {ephemerals : Nat → ByteArr 32} {s : System}
    (hs : System.BuiltOver P A circuitId hosts padding ephemerals s) {es : List Event}
    (hes : EveryStep (System.step P A circuitId) (fun _ e => e.Allowed) s es) :
    ∃ h state, (run (System.step P A circuitId) s es).Core P circuitId h state := by
  obtain ⟨h, state, hcore, hsession⟩ := hs.core hpath hcomm
  have hok : (s.session h).TasksOk := by
    rw [hsession]
    exact fun _ ht => absurd ht List.not_mem_nil
  obtain ⟨h', state', hcore', -⟩ := @System.Core.run_session P A circuitId s h state
    (fun _ _ => True) (fun _ => True) (fun _ _ _ _ _ _ _ _ => trivial) hcore hok trivial es
    (hes.mono fun s e he => ⟨he, fun _ => trivial⟩)
  exact ⟨h', state', hcore'⟩

/-- **From the directory to a circuit in use.** Whatever the relays' registrations, heartbeats
and removals were, and whatever the draws: a path the client takes from the directory can be
built, the circuit has as many hops as the client asked for, and in every run of it neither
end refuses a cell of the other: the exit accepts what the client sealed, the client what the
exit sealed, each in order, and all of it once nothing is on its way. -/
theorem directory_path_works
    (hcomm : ∀ x y, P.x25519 x (P.x25519Public y) = P.x25519 y (P.x25519Public x))
    {hosts : NodeDescriptor → Host} {allowSameIp : Bool} {r : NodeRegistry}
    (hr : ServedRegistry A (Registers P A hosts) allowSameIp r) {overflowChecks : Bool}
    {hopCount : Nat} {rng : Rng} {path : List NodeDescriptor}
    (hpath : DirectoryClient.getRandomPath A overflowChecks r hopCount rng = .ok path)
    (padding : Nat → UInt8) (ephemerals : Nat → ByteArr 32) :
    ∃ circuit net, build P A (Network.transport P A ⟨path.map hosts, []⟩ padding) circuitId path
        ephemerals = .ok (circuit, net) ∧ circuit.onionKeys.sessionKeys.length = hopCount ∧
      ∃ hops exit, net.hosts = hops ++ [exit] ∧ ∀ es : List Event,
        EveryStep (System.step P A circuitId) (fun _ e => e.Allowed)
          (System.start circuit hops exit padding) es →
        let s := run (System.step P A circuitId) (System.start circuit hops exit padding) es
        s.exit.serving = true ∧ s.reading = true ∧ acceptsOf s.exitLog <+: s.sent ∧
          s.opened <+: sealsOf s.exitLog ∧
          (s.ForwardDrained → acceptsOf s.exitLog = s.sent) ∧
          (s.BackwardDrained → s.opened = sealsOf s.exitLog) := by
  obtain ⟨hlength, hself, honest⟩ := hr.honestPath hpath
  obtain ⟨s, circuit, net, hops, exit, hbuild, hhosts, rfl⟩ :=
    @HonestPath.built P A circuitId (path.map hosts) honest hcomm padding ephemerals
  have hkeys := honest.build_length hcomm hbuild
  rw [List.length_map, hlength] at hkeys
  have hbuilt : System.BuiltOver P A circuitId (path.map hosts) padding ephemerals
      (System.start circuit hops exit padding) := ⟨circuit, net, hops, exit, hbuild, hhosts, rfl⟩
  rw [hself] at hbuild
  refine ⟨circuit, net, hbuild, hkeys, hops, exit, hhosts, fun es hes => ?_⟩
  obtain ⟨h, state, hcore⟩ := honest.stays_in_step hcomm hbuilt hes
  exact ⟨hcore.exit.serving, hcore.reading, hcore.forward.received_prefix,
    hcore.backward.received_prefix, hcore.accepts_eq, hcore.opened_eq⟩

/-! ### A sample directory -/

/-- The relay at 127.0.0.`n`, under an id of its own. -/
def directoryHost (n : UInt8) (nodeType : NodeType) : Host :=
  let host := sampleHost n nodeType
  { host with descriptor := { host.descriptor with nodeId := "relay-" ++ toString n.toNat } }

/-- The relay at an address. -/
def directoryHosts (d : NodeDescriptor) : Host :=
  directoryHost ((ipToBytes d.address.ip).getLastD 0) d.nodeType

theorem directoryHost_operated {n : UInt8} (hn : n ∈ [1, 2, 3]) (nodeType : NodeType) :
    Operated .sample .ipv4 directoryHosts (directoryHost n nodeType).descriptor where
  descriptor := rfl
  honest := ⟨⟨sampleSecret n, rfl⟩, rfl, rfl⟩
  extendable := by
    simp only [List.mem_cons, List.not_mem_nil, or_false] at hn
    rcases hn with rfl | rfl | rfl <;> cases nodeType <;>
      exact ⟨ipv4_parse_display _ _, by decide, by decide⟩

/-- The registration of a relay. -/
def directoryCall (now : Instant) (n : UInt8) (nodeType : NodeType) : GrpcCall :=
  .registerNode now ((directoryHost n nodeType).descriptor.toProto .ipv4)

/-- A directory of three relays. -/
def sampleDirectory : NodeRegistry :=
  [directoryCall 0 1 .entry, directoryCall 1 2 .middle, directoryCall 2 3 .exit].foldl
    (DiscoveryService.step .ipv4) (NodeRegistry.new true)

def sampleDirectoryPath : List NodeDescriptor :=
  [(directoryHost 1 .entry).descriptor, (directoryHost 2 .middle).descriptor,
    (directoryHost 3 .exit).descriptor]

theorem sampleDirectory_path : DirectoryClient.getRandomPath .ipv4 true sampleDirectory 3
    ⟨fun _ => 0, 0⟩ = .ok sampleDirectoryPath := by
  decide +kernel

theorem sampleDirectory_served :
    ServedRegistry .ipv4 (Registers .sample .ipv4 directoryHosts) true sampleDirectory := by
  have hregisters : ∀ {n : UInt8} (t : Instant) (nodeType : NodeType), n ∈ [1, 2, 3] →
      ∀ now protoDesc, directoryCall t n nodeType = .registerNode now protoDesc →
        Registers .sample .ipv4 directoryHosts protoDesc := by
    intro n t nodeType hn now protoDesc hcall
    cases hcall
    exact ⟨_, directoryHost_operated hn nodeType, rfl⟩
  exact ((ServedRegistry.new.step _ (hregisters 0 .entry (by decide))).step _
    (hregisters 1 .middle (by decide))).step _ (hregisters 2 .exit (by decide))

theorem sampleDirectory_path_works :
    ∃ circuit net, build .sample .ipv4
        (Network.transport .sample .ipv4 ⟨sampleDirectoryPath.map directoryHosts, []⟩ fun _ => 0) 1
        sampleDirectoryPath (fun _ => sampleSecret 200) = .ok (circuit, net) ∧
      circuit.onionKeys.sessionKeys.length = 3 ∧
      ∃ hops exit, net.hosts = hops ++ [exit] ∧
        let s := run (System.step .sample .ipv4 1) (System.start circuit hops exit fun _ => 0)
          sampleEvents
        s.exit.serving = true ∧ s.reading = true ∧ acceptsOf s.exitLog <+: s.sent ∧
          s.opened <+: sealsOf s.exitLog ∧
          (s.ForwardDrained → acceptsOf s.exitLog = s.sent) ∧
          (s.BackwardDrained → s.opened = sealsOf s.exitLog) := by
  obtain ⟨circuit, net, hbuild, hlength, hops, exit, hhosts, hrun⟩ := @directory_path_works .sample
    .ipv4 1 sample_x25519_comm directoryHosts true sampleDirectory sampleDirectory_served true 3
    ⟨fun _ => 0, 0⟩ sampleDirectoryPath sampleDirectory_path (fun _ => 0) fun _ => sampleSecret 200
  exact ⟨circuit, net, hbuild, hlength, hops, exit, hhosts,
    hrun sampleEvents ((sampleEvents_allowed rfl).mono fun _ _ he => he.1)⟩

end MiniTor
