import MiniTor.Discovery.Path
import MiniTor.Common.Addr
import MiniTor.Proto.Convert

/-!
# The discovery service and its client (`discovery/src/api/grpc.rs`, `tor-client/src/client/mod.rs`)

The handlers that register and list nodes, over the registry, and the client's path
request. Descriptors cross the wire as protobuf messages.

- `ServedRegistry`: the registries the service can get to when relays send certain messages.
- `ServedRegistry.reachable`: they are registries of `NodeRegistry.Reachable`.
- `ServedRegistry.admitted`: every node in them came in one of those messages and passed the
  handler's two checks.
- `descriptor_transport_lossless`: so a path a client decodes is made of the descriptors
  relays registered, as they registered them.
-/

namespace MiniTor

open Theory

variable (A : AddrSyntax)

/-- `Display` of a registry error. -/
def RegistryError.display : RegistryError → String
  | nodeNotFound nodeId => "Node not found: " ++ nodeId
  | insufficientNodes message => "Insufficient nodes: " ++ message

/-- How a call fails: the handler panics, or answers a status. -/
inductive RpcFault
  | panic
  | status (s : Status)
  deriving DecidableEq

/-! ## The handlers -/

namespace DiscoveryService

def registerNode (r : NodeRegistry) (now : Instant) (protoDesc : Proto.NodeDescriptor) :
    NodeRegistry × Except Status String :=
  match NodeDescriptor.fromProto A protoDesc with
  | .error e => (r, .error e)
  | .ok descriptor =>
    if descriptor.nodeId = "" then (r, .error (.invalidArgument "Node ID cannot be empty"))
    else if descriptor.bandwidth = 0 then
      (r, .error (.invalidArgument "Bandwidth must be greater than 0"))
    else (r.registerNode now descriptor, .ok "Node registered successfully")

/-- The status of a registry error, and the one of any other. -/
def notFoundStatus (e : RegistryError) : Status :=
  match e with
  | .nodeNotFound _ => ⟨.notFound, e.display⟩
  | _ => ⟨.internal, e.display⟩

def removeNode (r : NodeRegistry) (nodeId : String) : NodeRegistry × Except Status Unit :=
  match r.removeNode nodeId with
  | (r, .ok ()) => (r, .ok ())
  | (r, .error e) => (r, .error (notFoundStatus e))

def updateHeartbeat (r : NodeRegistry) (now : Instant) (nodeId : String)
    (metrics : Option NodeMetrics) : NodeRegistry × Except Status Unit :=
  match metrics with
  | none => (r, .error (.invalidArgument "Metrics are required"))
  | some metrics =>
    match r.updateHeartbeatWithMetrics now nodeId metrics with
    | (r, .ok ()) => (r, .ok ())
    | (r, .error e) => (r, .error (notFoundStatus e))

/-- The path in protobuf, of at least three hops. -/
def getRandomPath (overflowChecks : Bool) (r : NodeRegistry) (count : UInt32) (rng : Rng) :
    Except RpcFault (List Proto.NodeDescriptor) :=
  match r.getRandomPath overflowChecks (max count.toNat 3) rng with
  | .ok path => .ok (path.map (NodeDescriptor.toProto A))
  | .error .panic => .error .panic
  | .error (.registry (.insufficientNodes message)) =>
    .error (.status ⟨.unavailable, (RegistryError.insufficientNodes message).display⟩)
  | .error (.registry e) => .error (.status ⟨.internal, e.display⟩)

end DiscoveryService

/-- What a path request of the client fails with. -/
inductive DirectoryError
  /-- "Failed to get random path from discovery service". -/
  | rpc (fault : RpcFault)
  /-- "Failed to parse node descriptors". -/
  | parse (status : Status)
  | text (message : String)
  deriving DecidableEq

/-- `DirectoryClient::get_random_path`, asking the service with this registry. -/
def DirectoryClient.getRandomPath (overflowChecks : Bool) (r : NodeRegistry) (hopCount : Nat)
    (rng : Rng) : Except DirectoryError (List NodeDescriptor) :=
  match DiscoveryService.getRandomPath A overflowChecks r (UInt32.ofNat hopCount) rng with
  | .error fault => .error (.rpc fault)
  | .ok response =>
    match response.mapM (NodeDescriptor.fromProto A) with
    | .error status => .error (.parse status)
    | .ok nodes =>
      if nodes.length ≠ hopCount then
        .error (.text ("Expected " ++ toString hopCount ++ " nodes from directory, got " ++
          toString nodes.length))
      else .ok nodes

/-! ## Runs of the service -/

/-- The calls that change the registry, and the cleanup the service runs by itself. -/
inductive GrpcCall
  | registerNode (now : Instant) (protoDesc : Proto.NodeDescriptor)
  | removeNode (nodeId : String)
  | updateHeartbeat (now : Instant) (nodeId : String) (metrics : Option NodeMetrics)
  | cleanup (now : Instant) (timeout : Nat)

def DiscoveryService.step (r : NodeRegistry) : GrpcCall → NodeRegistry
  | .registerNode now protoDesc => (registerNode A r now protoDesc).1
  | .removeNode nodeId => (removeNode r nodeId).1
  | .updateHeartbeat now nodeId metrics => (updateHeartbeat r now nodeId metrics).1
  | .cleanup now timeout => (r.cleanupStaleNodes now timeout).1

/-- The registries of a service started with `allowSameIp` whose relays send messages
satisfying `sent`; the order in which a map is iterated is unspecified. -/
inductive ServedRegistry (sent : Proto.NodeDescriptor → Prop) (allowSameIp : Bool) :
    NodeRegistry → Prop
  | new : ServedRegistry sent allowSameIp (NodeRegistry.new allowSameIp)
  | step {r : NodeRegistry} (h : ServedRegistry sent allowSameIp r) (call : GrpcCall)
      (hsent : ∀ now protoDesc, call = .registerNode now protoDesc → sent protoDesc) :
      ServedRegistry sent allowSameIp (DiscoveryService.step A r call)
  | reorder {r r' : NodeRegistry} (h : ServedRegistry sent allowSameIp r)
      (hperm : r'.nodes.entries.Perm r.nodes.entries) (hflag : r'.allowSameIp = r.allowSameIp) :
      ServedRegistry sent allowSameIp r'

/-- What the handler lets into the registry: a message it was sent, with an id and a
bandwidth. -/
structure Admitted (sent : Proto.NodeDescriptor → Prop) (d : NodeDescriptor) : Prop where
  sent : ∃ protoDesc, sent protoDesc ∧ NodeDescriptor.fromProto A protoDesc = .ok d
  nodeId : d.nodeId ≠ ""
  bandwidth : d.bandwidth ≠ 0

variable {A}

namespace DiscoveryService

/-- A registration that goes through is one of the registry; any other changes nothing. -/
theorem registerNode_cases (r : NodeRegistry) (now : Instant) (protoDesc : Proto.NodeDescriptor) :
    (∃ d, NodeDescriptor.fromProto A protoDesc = .ok d ∧ d.nodeId ≠ "" ∧ d.bandwidth ≠ 0 ∧
      registerNode A r now protoDesc = (r.registerNode now d, .ok "Node registered successfully")) ∨
    (registerNode A r now protoDesc).1 = r := by
  unfold registerNode
  cases hd : NodeDescriptor.fromProto A protoDesc with
  | error e => exact .inr rfl
  | ok d =>
    dsimp only
    by_cases hid : d.nodeId = ""
    · rw [if_pos hid]
      exact .inr rfl
    · rw [if_neg hid]
      by_cases hbandwidth : d.bandwidth = 0
      · rw [if_pos hbandwidth]
        exact .inr rfl
      · rw [if_neg hbandwidth]
        exact .inl ⟨d, rfl, hid, hbandwidth, rfl⟩

/-- A call changes the registry as one of the registry's own, or not at all. -/
theorem step_cases (r : NodeRegistry) (call : GrpcCall) :
    (∃ op, step A r call = r.step op ∧ ∀ now d, op = .register now d →
      ∃ protoDesc, call = .registerNode now protoDesc ∧
        NodeDescriptor.fromProto A protoDesc = .ok d ∧ d.nodeId ≠ "" ∧ d.bandwidth ≠ 0) ∨
    step A r call = r := by
  cases call with
  | registerNode now protoDesc =>
    rcases @registerNode_cases A r now protoDesc with ⟨d, hd, hid, hbandwidth, heq⟩ | hsame
    · refine .inl ⟨.register now d, ?_, ?_⟩
      · rw [step, heq]
        rfl
      · rintro now' d' ⟨rfl, rfl⟩
        exact ⟨protoDesc, rfl, hd, hid, hbandwidth⟩
    · exact .inr hsame
  | removeNode nodeId =>
    refine .inl ⟨.remove nodeId, ?_, fun _ _ h => by cases h⟩
    rw [step, removeNode, NodeRegistry.step]
    cases r.removeNode nodeId with
    | mk r' result =>
      cases result with
      | ok u => rfl
      | error e => rfl
  | updateHeartbeat now nodeId metrics =>
    cases metrics with
    | none => exact .inr rfl
    | some metrics =>
      refine .inl ⟨.heartbeatWithMetrics now nodeId metrics, ?_, fun _ _ h => by cases h⟩
      rw [step, updateHeartbeat, NodeRegistry.step]
      cases r.updateHeartbeatWithMetrics now nodeId metrics with
      | mk r' result =>
        cases result with
        | ok u => rfl
        | error e => rfl
  | cleanup now timeout => exact .inl ⟨.cleanup now timeout, rfl, fun _ _ h => by cases h⟩

end DiscoveryService

namespace ServedRegistry

variable {sent : Proto.NodeDescriptor → Prop} {allowSameIp : Bool} {r : NodeRegistry}

/-- The service's registries are reachable. -/
theorem reachable (h : ServedRegistry A sent allowSameIp r) : r.Reachable allowSameIp := by
  induction h with
  | new => exact .new
  | @step r hr call hsent ih =>
    rcases @DiscoveryService.step_cases A r call with ⟨op, heq, -⟩ | hsame
    · rw [heq]
      exact ih.step op
    · rw [hsame]
      exact ih
  | reorder hr hperm hflag ih => exact ih.reorder hperm hflag

/-- **The nodes of the registry were admitted.** -/
theorem admitted (h : ServedRegistry A sent allowSameIp r) :
    ∀ n ∈ r.getAllNodes, Admitted A sent n := by
  induction h with
  | new => exact fun n hn => absurd hn List.not_mem_nil
  | @step r hr call hsent ih =>
    rcases @DiscoveryService.step_cases A r call with ⟨op, heq, hregister⟩ | hsame
    · rw [heq]
      intro n hn
      rcases NodeRegistry.mem_getAllNodes_step hn with hold | ⟨now, rfl⟩
      · exact ih n hold
      · obtain ⟨protoDesc, hcall, hd, hid, hbandwidth⟩ := hregister now n rfl
        exact ⟨⟨protoDesc, hsent now protoDesc hcall, hd⟩, hid, hbandwidth⟩
    · rw [hsame]
      exact ih
  | reorder hr hperm hflag ih =>
    intro n hn
    obtain ⟨e, he, rfl⟩ := NodeRegistry.mem_getAllNodes.mp hn
    exact ih _ (NodeRegistry.mem_getAllNodes.mpr ⟨e, hperm.mem_iff.mp he, rfl⟩)

end ServedRegistry

/-! ## Descriptors across the wire -/

/-- Its address parses from its text. -/
def NodeDescriptor.Printable (A : AddrSyntax) (d : NodeDescriptor) : Prop :=
  A.parse (A.display d.address) = some d.address

/-- A list of descriptors converts back to itself. -/
theorem mapM_fromProto_toProto {nodes : List NodeDescriptor}
    (h : ∀ d ∈ nodes, d.Printable A) :
    (nodes.map (NodeDescriptor.toProto A)).mapM (NodeDescriptor.fromProto A) = .ok nodes := by
  induction nodes with
  | nil => rfl
  | cons d nodes ih =>
    rw [List.map_cons, List.mapM_cons, NodeDescriptor.fromProto_toProto (h d List.mem_cons_self),
      ih fun d hd => h d (List.mem_cons_of_mem _ hd)]
    rfl

/-- **Descriptor transport is lossless.** A descriptor whose address prints to a text that
parses to it, which an IPv6 address with a flow label does not, converts back to itself. So in
a service whose relays send their own descriptors, a path the client decodes is the one the
registry chose, and each of its nodes is a descriptor a relay registered. -/
theorem descriptor_transport_lossless (A : AddrSyntax) :
    (∀ d : NodeDescriptor, d.Printable A → NodeDescriptor.fromProto A (d.toProto A) = .ok d) ∧
      ∀ relays : NodeDescriptor → Prop, (∀ d, relays d → d.Printable A) →
        ∀ (allowSameIp : Bool) (r : NodeRegistry),
          ServedRegistry A (fun protoDesc => ∃ d, relays d ∧ d.toProto A = protoDesc) allowSameIp r →
          ∀ (overflowChecks : Bool) (hopCount : Nat) (rng : Rng) (path : List NodeDescriptor),
            DirectoryClient.getRandomPath A overflowChecks r hopCount rng = .ok path →
            r.getRandomPath overflowChecks hopCount rng = .ok path ∧ ∀ d ∈ path, relays d := by
  refine ⟨fun d hd => NodeDescriptor.fromProto_toProto hd, fun relays hprint allowSameIp r hr
    overflowChecks hopCount rng path hpath => ?_⟩
  -- the nodes of the registry are relays' own descriptors
  have hrelays : ∀ d ∈ r.getAllNodes, relays d := by
    intro d hd
    obtain ⟨protoDesc, ⟨d', hd', rfl⟩, heq⟩ := (hr.admitted d hd).sent
    rw [NodeDescriptor.fromProto_toProto (hprint d' hd')] at heq
    cases heq
    exact hd'
  unfold DirectoryClient.getRandomPath DiscoveryService.getRandomPath at hpath
  cases hchosen : r.getRandomPath overflowChecks (max (UInt32.ofNat hopCount).toNat 3) rng with
  | error fault =>
    rw [hchosen] at hpath
    cases fault with
    | panic => cases hpath
    | registry e => cases e <;> cases hpath
  | ok chosen =>
    obtain ⟨hlength, hregistered, -⟩ := NodeRegistry.getRandomPath_layout hr.reachable hchosen
    have hown : ∀ d ∈ chosen, relays d := fun d hd => hrelays d (hregistered d hd)
    rw [hchosen] at hpath
    dsimp only at hpath
    rw [mapM_fromProto_toProto fun d hd => hprint d (hown d hd)] at hpath
    dsimp only at hpath
    by_cases hcount : chosen.length ≠ hopCount
    · rw [if_pos hcount] at hpath
      cases hpath
    · rw [if_neg hcount] at hpath
      cases hpath
      -- the service was asked for as many hops as came back
      have hlen : max (UInt32.ofNat hopCount).toNat 3 = hopCount :=
        hlength.symm.trans (not_not.mp hcount)
      rw [hlen] at hchosen
      exact ⟨hchosen, hown⟩

/-- An exit with a policy and an operator. -/
def policyExit : NodeDescriptor :=
  { NodeRegistry.sampleNode "exit" .exit 3 with
    exitPolicy := some
      { allowedPorts := [80, 443]
        blockedPorts := [25]
        allowedIps := []
        blockedIps := [.v4 ⟨[192, 0, 2, 1], rfl⟩] }
    operatorId := some "family" }

def sampleNodes : List NodeDescriptor :=
  [NodeRegistry.sampleNode "entry" .entry 1, NodeRegistry.sampleNode "middle" .middle 2, policyExit]

/-- The service after these three have registered. -/
def sampleService : NodeRegistry :=
  (sampleNodes.map fun d => .registerNode 0 (d.toProto .ipv4)).foldl (DiscoveryService.step .ipv4)
    (NodeRegistry.new false)

theorem sampleNodes_printable : ∀ d ∈ sampleNodes, d.Printable .ipv4 := by
  intro d hd
  simp only [sampleNodes, List.mem_cons, List.not_mem_nil, or_false] at hd
  rcases hd with rfl | rfl | rfl <;> exact ipv4_parse_display _ _

theorem sampleService_served :
    ServedRegistry .ipv4 (fun protoDesc => ∃ d, d ∈ sampleNodes ∧ d.toProto .ipv4 = protoDesc) false
      sampleService := by
  have hregisters : ∀ d ∈ sampleNodes, ∀ now protoDesc,
      GrpcCall.registerNode 0 (d.toProto .ipv4) = .registerNode now protoDesc →
        ∃ d, d ∈ sampleNodes ∧ d.toProto .ipv4 = protoDesc := by
    intro d hd now protoDesc hcall
    cases hcall
    exact ⟨d, hd, rfl⟩
  exact ((ServedRegistry.new.step _ (hregisters _ (by decide))).step _
    (hregisters _ (by decide))).step _ (hregisters _ (by decide))

/-- The exit's descriptor comes back whole, and the path the client decodes is the service's. -/
theorem sampleNode_transport :
    NodeDescriptor.fromProto .ipv4 (policyExit.toProto .ipv4) = .ok policyExit ∧
      DirectoryClient.getRandomPath .ipv4 true sampleService 3 ⟨fun _ => 0, 0⟩ =
        .ok sampleNodes ∧
      sampleService.getRandomPath true 3 ⟨fun _ => 0, 0⟩ = .ok sampleNodes := by
  have hpath : DirectoryClient.getRandomPath .ipv4 true sampleService 3 ⟨fun _ => 0, 0⟩ =
      .ok sampleNodes := by
    decide +kernel
  obtain ⟨hchosen, -⟩ := (descriptor_transport_lossless .ipv4).2 (fun d => d ∈ sampleNodes)
    sampleNodes_printable false sampleService sampleService_served true 3 _ sampleNodes hpath
  exact ⟨(descriptor_transport_lossless .ipv4).1 _ (sampleNodes_printable _ (by decide)), hpath,
    hchosen⟩

end MiniTor
