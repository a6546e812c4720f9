import MiniTor.Common.Metrics
import MiniTor.Discovery.Grpc
import MiniTor.Theory.Run

/-!
# The books of the discovery service (`discovery/src/api/grpc.rs`, `discovery/src/core/metrics.rs`)

The handlers with the counters and the activity log they keep. A handler first does its work
on the registry, under the registry's lock, and then notes it: each `fetch_add` and each
`push` is atomic by itself, and other handlers run in between. So the service is a registry,
its metrics, and what handlers still have to note.

- `DiscoveryService.serve`: the registry part of a call, and what is to be noted of it.
- `Discovery.books_balance`: what is registered, was removed, went stale and was replaced adds
  up to what was registered; each counter lags by what is still to be noted.
- `Discovery.log_complete`: the log holds the last 200 events noted, and once all is noted a
  counter is what the events say.
-/

namespace MiniTor

open Theory

variable (A : AddrSyntax)

/-! ## Metrics -/

/-- Discovery-specific event types for the activity log. -/
inductive DiscoveryEvent
  | nodeRegistered (nodeId nodeType address : String)
  | nodeRemoved (nodeId : String)
  | heartbeat (nodeId : String)
  | pathRequested
  | staleCleanup (removed : Nat)
  | statsQueried
  | healthCheck (ready : Bool)
  deriving DecidableEq

/-- Aggregate metrics for the discovery service. -/
structure DiscoveryMetrics where
  registrations : UInt64
  removals : UInt64
  heartbeats : UInt64
  pathRequests : UInt64
  staleCleaned : UInt64
  events : EventBuffer DiscoveryEvent

/-- `EVENT_BUFFER_CAPACITY`. -/
def DiscoveryMetrics.EVENT_BUFFER_CAPACITY : Nat := 200

def DiscoveryMetrics.new (startTime : Nat) : DiscoveryMetrics where
  registrations := 0
  removals := 0
  heartbeats := 0
  pathRequests := 0
  staleCleaned := 0
  events := EventBuffer.new EVENT_BUFFER_CAPACITY startTime

/-- The counters. -/
inductive Counter
  | registrations
  | removals
  | heartbeats
  | pathRequests
  | staleCleaned
  deriving DecidableEq

def DiscoveryMetrics.get (m : DiscoveryMetrics) : Counter → UInt64
  | .registrations => m.registrations
  | .removals => m.removals
  | .heartbeats => m.heartbeats
  | .pathRequests => m.pathRequests
  | .staleCleaned => m.staleCleaned

/-- `fetch_add`. -/
def DiscoveryMetrics.fetchAdd (m : DiscoveryMetrics) (n : UInt64) : Counter → DiscoveryMetrics
  | .registrations => { m with registrations := m.registrations + n }
  | .removals => { m with removals := m.removals + n }
  | .heartbeats => { m with heartbeats := m.heartbeats + n }
  | .pathRequests => { m with pathRequests := m.pathRequests + n }
  | .staleCleaned => { m with staleCleaned := m.staleCleaned + n }

/-- One atomic operation on the metrics. -/
inductive Note
  | fetchAdd (c : Counter) (n : Nat)
  | pushEvent (kind : DiscoveryEvent)

def DiscoveryMetrics.note (m : DiscoveryMetrics) (now : Nat) : Note → DiscoveryMetrics
  | .fetchAdd c n => m.fetchAdd (UInt64.ofNat n) c
  | .pushEvent kind => { m with events := m.events.push now kind }

/-! ## The handlers -/

/-- `NodeRegistry::is_ready`. -/
def NodeRegistry.isReady (r : NodeRegistry) : Bool :=
  !(r.getNodesByType .entry).isEmpty && !(r.getNodesByType .middle).isEmpty &&
    !(r.getNodesByType .exit).isEmpty

/-- `Display` of a node type. -/
def NodeType.display : NodeType → String
  | .entry => "entry"
  | .middle => "middle"
  | .exit => "exit"

/-- The calls of the service, and the cleanup it runs by itself. -/
inductive ServiceCall
  | healthCheck
  | readinessCheck
  | registerNode (now : Instant) (protoDesc : Proto.NodeDescriptor)
  | removeNode (nodeId : String)
  | updateHeartbeat (now : Instant) (nodeId : String) (metrics : Option NodeMetrics)
  | getAllNodes
  | getRandomPath (overflowChecks : Bool) (count : UInt32) (rng : Rng)
  | getStats
  | cleanup (now : Instant) (staleTimeout : Nat)

/-- What a call does to the registry, and what it then notes. -/
def DiscoveryService.serve (r : NodeRegistry) : ServiceCall → NodeRegistry × List Note
  | .healthCheck => (r, [.pushEvent (.healthCheck r.isReady)])
  | .readinessCheck => (r, [])
  | .registerNode now protoDesc =>
    match NodeDescriptor.fromProto A protoDesc with
    | .error _ => (r, [])
    | .ok descriptor =>
      if descriptor.nodeId = "" then (r, [])
      else if descriptor.bandwidth = 0 then (r, [])
      else
        (r.registerNode now descriptor,
          [.fetchAdd .registrations 1,
            .pushEvent (.nodeRegistered descriptor.nodeId descriptor.nodeType.display
              (A.display descriptor.address))])
  | .removeNode nodeId =>
    match r.removeNode nodeId with
    | (r, .ok ()) => (r, [.fetchAdd .removals 1, .pushEvent (.nodeRemoved nodeId)])
    | (r, .error _) => (r, [])
  | .updateHeartbeat now nodeId metrics =>
    match metrics with
    | none => (r, [])
    | some metrics =>
      match r.updateHeartbeatWithMetrics now nodeId metrics with
      | (r, .ok ()) => (r, [.fetchAdd .heartbeats 1, .pushEvent (.heartbeat nodeId)])
      | (r, .error _) => (r, [])
  | .getAllNodes => (r, [])
  | .getRandomPath overflowChecks count rng =>
    match r.getRandomPath overflowChecks (max count.toNat 3) rng with
    | .ok _ => (r, [.fetchAdd .pathRequests 1, .pushEvent .pathRequested])
    | .error _ => (r, [])
  | .getStats => (r, [.pushEvent .statsQueried])
  | .cleanup now staleTimeout =>
    let (r, removed) := r.cleanupStaleNodes now staleTimeout
    (r, if removed > 0 then [.fetchAdd .staleCleaned removed, .pushEvent (.staleCleanup removed)]
      else [])

/-- The call as one of those that change the registry. -/
def ServiceCall.grpc : ServiceCall → Option GrpcCall
  | .registerNode now protoDesc => some (.registerNode now protoDesc)
  | .removeNode nodeId => some (.removeNode nodeId)
  | .updateHeartbeat now nodeId metrics => some (.updateHeartbeat now nodeId metrics)
  | .cleanup now staleTimeout => some (.cleanup now staleTimeout)
  | _ => none

/-! ## The service -/

/-- The registry, the metrics, and what the handlers that are not done have still to note. -/
structure Discovery where
  registry : NodeRegistry
  metrics : DiscoveryMetrics
  pending : List (List Note)

inductive DiscoveryStep
  | call (c : ServiceCall)
  /-- The `i`-th handler goes on. -/
  | note (i : Nat) (now : Nat)

namespace Discovery

def new (allowSameIp : Bool) (startTime : Nat) : Discovery where
  registry := NodeRegistry.new allowSameIp
  metrics := DiscoveryMetrics.new startTime
  pending := []

def step (s : Discovery) : DiscoveryStep → Discovery
  | .call c =>
    let (registry, notes) := DiscoveryService.serve A s.registry c
    { s with registry, pending := s.pending ++ [notes] }
  | .note i now =>
    match s.pending[i]? with
    | some (n :: rest) =>
      { s with metrics := s.metrics.note now n, pending := s.pending.set i rest }
    | _ => s

end Discovery

/-! ## What a call notes -/

/-- What a note adds to a counter. -/
def Note.amount (c : Counter) : Note → Nat
  | .fetchAdd c' n => if c' = c then n else 0
  | .pushEvent _ => 0

/-- What an event stands for in a counter. -/
def DiscoveryEvent.amount (c : Counter) : DiscoveryEvent → Nat
  | .nodeRegistered _ _ _ => if c = .registrations then 1 else 0
  | .nodeRemoved _ => if c = .removals then 1 else 0
  | .heartbeat _ => if c = .heartbeats then 1 else 0
  | .pathRequested => if c = .pathRequests then 1 else 0
  | .staleCleanup removed => if c = .staleCleaned then removed else 0
  | .statsQueried => 0
  | .healthCheck _ => 0

/-- What the event of a note stands for. -/
def Note.told (c : Counter) : Note → Nat
  | .fetchAdd _ _ => 0
  | .pushEvent kind => kind.amount c

/-- The notes of a handler come to this much, counted by `f`. -/
def sumOf (f : Note → Nat) (notes : List Note) : Nat := (notes.map f).sum

/-- A call's events tell what it adds to the counters. -/
theorem DiscoveryService.told_eq_amount (r : NodeRegistry) (call : ServiceCall) (c : Counter) :
    sumOf (Note.told c) (serve A r call).2 = sumOf (Note.amount c) (serve A r call).2 := by
  have hpair : ∀ (c' : Counter) (n : Nat) (kind : DiscoveryEvent),
      kind.amount c = (if c' = c then n else 0) →
      sumOf (Note.told c) [.fetchAdd c' n, .pushEvent kind] =
        sumOf (Note.amount c) [.fetchAdd c' n, .pushEvent kind] := by
    intro c' n kind hkind
    simp [sumOf, Note.told, Note.amount, hkind]
  cases call with
  | healthCheck => rfl
  | readinessCheck => rfl
  | registerNode now protoDesc =>
    rw [serve]
    cases NodeDescriptor.fromProto A protoDesc with
    | error e => rfl
    | ok d =>
      dsimp only
      split_ifs
      · rfl
      · rfl
      · exact hpair _ _ _ (by cases c <;> rfl)
  | removeNode nodeId =>
    rw [serve]
    cases r.removeNode nodeId with
    | mk r' result =>
      cases result with
      | ok u => exact hpair _ _ _ (by cases c <;> rfl)
      | error e => rfl
  | updateHeartbeat now nodeId metrics =>
    cases metrics with
    | none => rfl
    | some metrics =>
      rw [serve]
      cases r.updateHeartbeatWithMetrics now nodeId metrics with
      | mk r' result =>
        cases result with
        | ok u => exact hpair _ _ _ (by cases c <;> rfl)
        | error e => rfl
  | getAllNodes => rfl
  | getRandomPath overflowChecks count rng =>
    rw [serve]
    cases r.getRandomPath overflowChecks (max count.toNat 3) rng with
    | ok path => exact hpair _ _ _ (by cases c <;> rfl)
    | error e => rfl
  | getStats => rfl
  | cleanup now staleTimeout =>
    rw [serve]
    dsimp only
    split_ifs
    · exact hpair _ _ _ (by cases c <;> simp [DiscoveryEvent.amount])
    · rfl

/-- The service's registry goes as the calls that change it say. -/
theorem DiscoveryService.serve_registry (r : NodeRegistry) (call : ServiceCall) :
    (serve A r call).1 = (call.grpc.map (DiscoveryService.step A r)).getD r := by
  cases call with
  | healthCheck => rfl
  | readinessCheck => rfl
  | registerNode now protoDesc =>
    show _ = (DiscoveryService.registerNode A r now protoDesc).1
    rw [serve, DiscoveryService.registerNode]
    cases NodeDescriptor.fromProto A protoDesc with
    | error e => rfl
    | ok d =>
      dsimp only
      split_ifs <;> rfl
  | removeNode nodeId =>
    show _ = (DiscoveryService.removeNode r nodeId).1
    rw [serve, DiscoveryService.removeNode]
    cases r.removeNode nodeId with
    | mk r' result => cases result <;> rfl
  | updateHeartbeat now nodeId metrics =>
    show _ = (DiscoveryService.updateHeartbeat r now nodeId metrics).1
    cases metrics with
    | none => rfl
    | some metrics =>
      rw [serve, DiscoveryService.updateHeartbeat]
      cases r.updateHeartbeatWithMetrics now nodeId metrics with
      | mk r' result => cases result <;> rfl
  | getAllNodes => rfl
  | getRandomPath overflowChecks count rng =>
    rw [serve]
    cases r.getRandomPath overflowChecks (max count.toNat 3) rng <;> rfl
  | getStats => rfl
  | cleanup now staleTimeout => rfl

/-! ## What a call does to the number of nodes -/

namespace NodeRegistry

/-- How many nodes are registered. -/
def size (r : NodeRegistry) : Nat := r.nodes.entries.length

/-- The nodes a registration takes the place of: those of other ids at its address, and the
one of its id. -/
def displaced (r : NodeRegistry) (d : NodeDescriptor) : Nat :=
  r.nodes.entries.countP (fun e => !(e.1 == d.nodeId || e.2.descriptor.address != d.address)) +
    (r.nodes.lookup d.nodeId).isSome.toNat

theorem length_erase (nodes : AList fun _ : String => NodeEntry) (nodeId : String) :
    (nodes.erase nodeId).entries.length + (nodes.lookup nodeId).isSome.toNat =
      nodes.entries.length := by
  have hcount := nodes.countP_erase (fun _ _ => true) nodeId
  rw [List.countP_true] at hcount
  rw [← hcount]
  cases nodes.lookup nodeId <;> rfl

/-- **A registration** adds one node, less those it displaces. -/
theorem size_registerNode (r : NodeRegistry) (now : Instant) (d : NodeDescriptor) :
    (r.registerNode now d).size + r.displaced d = r.size + 1 := by
  let keep : String → NodeEntry → Bool := fun id entry =>
    id == d.nodeId || entry.descriptor.address != d.address
  have hkept : (r.nodes.retain keep).entries.length +
      r.nodes.entries.countP (fun e => !keep e.1 e.2) = r.nodes.entries.length := by
    have hsplit := List.length_eq_countP_add_countP (fun e : Sigma fun _ : String => NodeEntry =>
      keep e.1 e.2) (l := r.nodes.entries)
    rw [List.countP_eq_length_filter] at hsplit
    rw [hsplit]
    refine congrArg _ (List.countP_congr fun e _ => ?_)
    cases keep e.1 e.2 <;> simp
  have hlookup : ((r.nodes.retain keep).lookup d.nodeId).isSome =
      (r.nodes.lookup d.nodeId).isSome := by
    rw [AList.lookup_retain]
    cases r.nodes.lookup d.nodeId with
    | none => rfl
    | some entry => simp [Option.filter, keep]
  have hafter : (r.registerNode now d).size + (r.nodes.lookup d.nodeId).isSome.toNat =
      (r.nodes.retain keep).entries.length + 1 := by
    unfold registerNode
    dsimp only
    split
    · rename_i hnone
      rw [← hlookup, show ((r.nodes.retain keep).lookup d.nodeId).isSome = false from hnone]
      have herased := length_erase (r.nodes.retain keep) d.nodeId
      rw [show ((r.nodes.retain keep).lookup d.nodeId).isSome = false from hnone] at herased
      show (⟨d.nodeId, _⟩ :: ((r.nodes.retain keep).erase d.nodeId).entries).length + 0 = _
      rw [List.length_cons, ← herased]
      rfl
    · rename_i hsome
      rw [← hlookup, show ((r.nodes.retain keep).lookup d.nodeId).isSome = true from hsome]
      exact congrArg (· + 1) (List.length_map _)
  show (r.registerNode now d).size + (r.nodes.entries.countP (fun e => !keep e.1 e.2) + _) = _
  rw [Nat.add_comm (r.nodes.entries.countP _), ← Nat.add_assoc, hafter, size, ← hkept]
  omega

end NodeRegistry

/-- How many nodes a call replaces. -/
def ServiceCall.replaced (r : NodeRegistry) : ServiceCall → Nat
  | .registerNode _ protoDesc =>
    match NodeDescriptor.fromProto A protoDesc with
    | .error _ => 0
    | .ok d => if d.nodeId = "" ∨ d.bandwidth = 0 then 0 else r.displaced d
  | _ => 0

/-- **What a call changes in the number of nodes**, as its notes have it. -/
theorem DiscoveryService.size_serve (r : NodeRegistry) (call : ServiceCall) :
    (serve A r call).1.size + sumOf (Note.amount .removals) (serve A r call).2 +
        sumOf (Note.amount .staleCleaned) (serve A r call).2 + call.replaced A r =
      r.size + sumOf (Note.amount .registrations) (serve A r call).2 := by
  cases call with
  | healthCheck => rfl
  | readinessCheck => rfl
  | registerNode now protoDesc =>
    rw [serve, ServiceCall.replaced]
    cases NodeDescriptor.fromProto A protoDesc with
    | error e => rfl
    | ok d =>
      dsimp only
      by_cases hid : d.nodeId = ""
      · rw [if_pos hid, if_pos (.inl hid)]
        rfl
      · by_cases hbandwidth : d.bandwidth = 0
        · rw [if_neg hid, if_pos hbandwidth, if_pos (.inr hbandwidth)]
          rfl
        · rw [if_neg hid, if_neg hbandwidth, if_neg fun h => h.elim hid hbandwidth]
          exact r.size_registerNode now d
  | removeNode nodeId =>
    have herased := NodeRegistry.length_erase r.nodes nodeId
    rw [serve, NodeRegistry.removeNode]
    cases hlookup : r.nodes.lookup nodeId with
    | none => rfl
    | some entry =>
      rw [hlookup] at herased
      exact herased
  | updateHeartbeat now nodeId metrics =>
    cases metrics with
    | none => rfl
    | some metrics =>
      rw [serve, NodeRegistry.updateHeartbeatWithMetrics]
      cases r.nodes.lookup nodeId with
      | none => rfl
      | some entry => exact List.length_map _
  | getAllNodes => rfl
  | getRandomPath overflowChecks count rng =>
    rw [serve]
    cases r.getRandomPath overflowChecks (max count.toNat 3) rng <;> rfl
  | getStats => rfl
  | cleanup now staleTimeout =>
    have hle : (r.cleanupStaleNodes now staleTimeout).1.size ≤ r.size := List.length_filter_le ..
    have hremoved : (r.cleanupStaleNodes now staleTimeout).2 =
        r.size - (r.cleanupStaleNodes now staleTimeout).1.size := rfl
    have hreplaced : (ServiceCall.cleanup now staleTimeout).replaced A r = 0 := rfl
    rw [serve, hreplaced]
    dsimp only
    by_cases hpos : (r.cleanupStaleNodes now staleTimeout).2 > 0
    · rw [if_pos hpos]
      simp only [sumOf, List.map_cons, List.map_nil, List.sum_cons, List.sum_nil, Note.amount,
        if_true, reduceCtorEq, if_false]
      omega
    · rw [if_neg hpos]
      simp only [sumOf, List.map_nil, List.sum_nil]
      omega

/-! ## Runs of the service -/

namespace DiscoveryMetrics

/-- The log a list of timed notes makes. -/
def logOf (notes : List (Nat × Note)) : List (Nat × DiscoveryEvent) :=
  notes.filterMap fun x =>
    match x.2 with
    | .fetchAdd _ _ => none
    | .pushEvent kind => some (x.1, kind)

theorem get_note (m : DiscoveryMetrics) (now : Nat) (n : Note) (c : Counter) :
    (m.note now n).get c = m.get c + UInt64.ofNat (n.amount c) := by
  cases n with
  | fetchAdd c' n => cases c' <;> cases c <;> simp [note, fetchAdd, get, Note.amount]
  | pushEvent kind => cases c <;> simp [note, get, Note.amount]

theorem get_foldl (m : DiscoveryMetrics) (notes : List (Nat × Note)) (c : Counter) :
    (notes.foldl (fun m x => m.note x.1 x.2) m).get c =
      m.get c + UInt64.ofNat (notes.map fun x => x.2.amount c).sum := by
  induction notes generalizing m with
  | nil => exact (UInt64.add_zero _).symm
  | cons x notes ih =>
    rw [List.foldl_cons, ih, get_note, List.map_cons, List.sum_cons, UInt64.ofNat_add,
      UInt64.add_assoc]

theorem events_foldl (m : DiscoveryMetrics) (notes : List (Nat × Note)) :
    (notes.foldl (fun m x => m.note x.1 x.2) m).events = m.events.pushAll (logOf notes) := by
  induction notes generalizing m with
  | nil => rfl
  | cons x notes ih =>
    rw [List.foldl_cons, ih]
    obtain ⟨now, n⟩ := x
    cases n with
    | fetchAdd c n => cases c <;> rfl
    | pushEvent kind => rfl

/-- What the log tells of a counter is what its notes tell. -/
theorem sum_logOf (notes : List (Nat × Note)) (c : Counter) :
    ((logOf notes).map fun x => x.2.amount c).sum = (notes.map fun x => x.2.told c).sum := by
  induction notes with
  | nil => rfl
  | cons x notes ih =>
    obtain ⟨now, n⟩ := x
    cases n with
    | fetchAdd c' n => exact ih.trans (Nat.zero_add _).symm
    | pushEvent kind => exact congrArg (kind.amount c + ·) ih

end DiscoveryMetrics

namespace Discovery

/-- What the `i`-th handler notes next. -/
def next (s : Discovery) (i : Nat) : Option Note := (s.pending[i]?).bind List.head?

/-- What a step notes, and when. -/
def notes (s : Discovery) : DiscoveryStep → List (Nat × Note)
  | .call _ => []
  | .note i now => ((s.next i).map (now, ·)).toList

/-- What the handlers still have to note, counted by `f`. -/
def owed (f : Note → Nat) (s : Discovery) : Nat := (s.pending.map (sumOf f)).sum

/-- What a step's call is to note, counted by `f`. -/
def called (f : Note → Nat) (s : Discovery) : DiscoveryStep → Nat
  | .call c => sumOf f (DiscoveryService.serve A s.registry c).2
  | .note _ _ => 0

/-- How many nodes a step's registration takes the place of. -/
def replaced (s : Discovery) : DiscoveryStep → Nat
  | .call c => c.replaced A s.registry
  | .note _ _ => 0

/-- The metrics are the notes' work alone. -/
theorem step_metrics (s : Discovery) (e : DiscoveryStep) :
    (s.step A e).metrics = (s.notes e).foldl (fun m x => m.note x.1 x.2) s.metrics := by
  cases e with
  | call c => rfl
  | note i now =>
    rw [step, notes, next]
    cases s.pending[i]? with
    | none => rfl
    | some ns => cases ns <;> rfl

/-- A call owes its notes, and a note is one owed less. -/
theorem step_owed (f : Note → Nat) (s : Discovery) (e : DiscoveryStep) :
    (s.step A e).owed f + ((s.notes e).map fun x => f x.2).sum = s.owed f + s.called A f e := by
  cases e with
  | call c =>
    show ((s.pending ++ [_]).map (sumOf f)).sum + 0 = _
    rw [List.map_append, List.sum_append]
    rfl
  | note i now =>
    rw [step, notes, next]
    cases hi : s.pending[i]? with
    | none => rfl
    | some ns =>
      cases ns with
      | nil => rfl
      | cons n rest =>
        have hsum : (s.pending.map (sumOf f))[i]? = some (f n + sumOf f rest) := by
          rw [List.getElem?_map, hi]
          rfl
        have hset := sum_set_add (sumOf f rest) hsum
        show ((s.pending.set i rest).map (sumOf f)).sum + (f n + 0) = _ + 0
        rw [List.map_set]
        unfold owed
        omega

/-- What was to be noted was noted, or is still owed. -/
theorem owed_run (f : Note → Nat) (allowSameIp : Bool) (startTime : Nat)
    (es : List DiscoveryStep) :
    (run (step A) (new allowSameIp startTime) es).owed f +
        ((outputs (step A) notes (new allowSameIp startTime) es).map fun x => f x.2).sum =
      total (step A) (called A f) (new allowSameIp startTime) es := by
  have hbalance := @balance_run _ _ (step A) (fun _ => True) (owed f)
    (fun s e => ((s.notes e).map fun x => f x.2).sum) (called A f) (fun _ _ _ => trivial)
    (fun s e _ => step_owed A f s e) (new allowSameIp startTime) es trivial
  rw [total_outputs] at hbalance
  exact hbalance.trans (Nat.zero_add _)

/-- A counter is the notes made of it. -/
theorem get_run (allowSameIp : Bool) (startTime : Nat) (es : List DiscoveryStep) (c : Counter) :
    (run (step A) (new allowSameIp startTime) es).metrics.get c = UInt64.ofNat
      ((outputs (step A) notes (new allowSameIp startTime) es).map fun x => x.2.amount c).sum := by
  rw [run_outputs metrics notes (fun m x => m.note x.1 x.2) (step_metrics A),
    DiscoveryMetrics.get_foldl]
  cases c <;> exact UInt64.zero_add _

/-- The number of nodes changes by what the call adds and takes away. -/
theorem step_size (s : Discovery) (e : DiscoveryStep) :
    (s.step A e).registry.size + (s.called A (Note.amount .removals) e +
        s.called A (Note.amount .staleCleaned) e + s.replaced A e) =
      s.registry.size + s.called A (Note.amount .registrations) e := by
  cases e with
  | call c =>
    have hsize := DiscoveryService.size_serve A s.registry c
    rw [Nat.add_assoc, Nat.add_assoc] at hsize
    rw [Nat.add_assoc]
    exact hsize
  | note i now =>
    rw [step]
    split <;> rfl

/-- **The books balance**, however the handlers interleave: the nodes registered, removed,
gone stale and replaced add up to the registrations, and each counter lags behind what its
calls came to by what they have still to note. -/
theorem books_balance (allowSameIp : Bool) (startTime : Nat) (es : List DiscoveryStep) :
    (run (step A) (new allowSameIp startTime) es).registry.size +
          total (step A) (called A (Note.amount .removals)) (new allowSameIp startTime) es +
          total (step A) (called A (Note.amount .staleCleaned)) (new allowSameIp startTime) es +
          total (step A) (replaced A) (new allowSameIp startTime) es =
        total (step A) (called A (Note.amount .registrations)) (new allowSameIp startTime) es ∧
      ∀ c, (run (step A) (new allowSameIp startTime) es).metrics.get c +
          UInt64.ofNat ((run (step A) (new allowSameIp startTime) es).owed (Note.amount c)) =
        UInt64.ofNat
          (total (step A) (called A (Note.amount c)) (new allowSameIp startTime) es) := by
  refine ⟨?_, fun c => ?_⟩
  · have hbalance := @balance_run _ _ (step A) (fun _ => True) (fun s => s.registry.size)
      (fun s e => s.called A (Note.amount .removals) e +
        s.called A (Note.amount .staleCleaned) e + s.replaced A e)
      (called A (Note.amount .registrations)) (fun _ _ _ => trivial)
      (fun s e _ => step_size A s e) (new allowSameIp startTime) es trivial
    rw [total_add, total_add, ← Nat.add_assoc, ← Nat.add_assoc] at hbalance
    exact hbalance.trans (Nat.zero_add _)
  · rw [get_run, ← UInt64.ofNat_add, Nat.add_comm, owed_run]

/-- **The log is complete**: it holds the last 200 events noted, and the events ever noted
tell every counter, up to what is still to be noted of either. -/
theorem log_complete (allowSameIp : Bool) (startTime : Nat) (es : List DiscoveryStep) :
    (run (step A) (new allowSameIp startTime) es).metrics.events.events =
        window 200 ((DiscoveryMetrics.logOf
          (outputs (step A) notes (new allowSameIp startTime) es)).map
            (EventBuffer.stamp startTime)) ∧
      ∀ c, (run (step A) (new allowSameIp startTime) es).metrics.get c +
          UInt64.ofNat ((run (step A) (new allowSameIp startTime) es).owed (Note.amount c)) =
        UInt64.ofNat (((DiscoveryMetrics.logOf
            (outputs (step A) notes (new allowSameIp startTime) es)).map
              fun x => x.2.amount c).sum +
          (run (step A) (new allowSameIp startTime) es).owed (Note.told c)) := by
  refine ⟨?_, fun c => ?_⟩
  · rw [run_outputs metrics notes (fun m x => m.note x.1 x.2) (step_metrics A),
      DiscoveryMetrics.events_foldl]
    exact EventBuffer.events_pushAll _ _ _
  · -- the calls' events tell what the calls add
    have htold : called A (Note.told c) = called A (Note.amount c) := by
      funext s e
      cases e with
      | call call => exact DiscoveryService.told_eq_amount A s.registry call c
      | note i now => rfl
    have hamount := owed_run A (Note.amount c) allowSameIp startTime es
    have htotal := owed_run A (Note.told c) allowSameIp startTime es
    rw [htold, ← hamount] at htotal
    rw [get_run, ← UInt64.ofNat_add, DiscoveryMetrics.sum_logOf]
    congr 1
    omega

end Discovery

end MiniTor
