import MiniTor.Circuit.Build
import MiniTor.Circuit.Session

/-!
# From the build to a circuit in use

`System.start` is the circuit a successful build leaves, with nothing in flight:
its relays are the joined ones, so client and exit are in step (`start_core`).
The results on whole runs start from what the build over a path leaves
(`BuiltOver`).
-/

namespace MiniTor

open Theory Client

variable {P : Primitives} {A : AddrSyntax} {circuitId : CircuitId}

/-- A relay with nothing on its way, both its loops running. -/
def Node.idle (host : Host) : Node :=
  { host, fwdIn := [], bwdIn := [], serving := true, reading := true }

/-- A built circuit over the relays `hops` and the exit, before anything is sent. -/
def System.start (circuit : Circuit) (hops : List Host) (exit : Host) (padding : Nat → UInt8) :
    System where
  client := circuit
  tasks := []
  hops := hops.map Node.idle
  exit := Node.idle exit
  clientIn := []
  reading := true
  padding := padding
  sent := []
  opened := []
  exitLog := []

namespace Joined

variable {keys : List (SessionKey × CipherPair)} {hops : List Host} {exit : Host}

/-- The joined relays before the exit pass the circuit on. -/
theorem passes (hjoined : Joined circuitId keys (hops ++ [exit]))
    (hlen : keys.length = (hops ++ [exit]).length)
    (hroles : ∀ h ∈ hops, h.relay.nodeType ≠ .exit) :
    ∀ h ∈ hops, ∃ cipher, h.relay.Passes circuitId cipher := by
  induction hops generalizing keys with
  | nil => exact fun _ h => nomatch h
  | cons h₀ rest ih =>
    cases keys with
    | nil => cases hlen
    | cons key keys =>
      obtain ⟨hlookup, htail⟩ := hjoined
      rw [List.append_eq] at hlookup
      have hrest : keys.length = (rest ++ [exit]).length := Nat.succ.inj hlen
      have hmore : keys ≠ [] := by
        rintro rfl
        simp at hrest
      obtain ⟨next, behind, hbehind⟩ : ∃ next behind, rest ++ [exit] = next :: behind := by
        cases rest with
        | nil => exact ⟨exit, [], rfl⟩
        | cons next rest => exact ⟨next, rest ++ [exit], rfl⟩
      intro h hh
      rcases List.mem_cons.mp hh with rfl | hh
      · have hlink : linkTo (rest ++ [exit]) = some
            { addr := next.descriptor.address
              fingerprint := next.descriptor.tlsCertFingerprint
              read := false } := by
          rw [hbehind]
          rfl
        rw [if_neg hmore, hlink] at hlookup
        exact ⟨key.2, _, _, _, hlookup,
          CircuitHandler.hop?_established (hroles h List.mem_cons_self), rfl, rfl, rfl⟩
      · exact ih htail hrest (fun h hh => hroles h (List.mem_cons_of_mem h₀ hh)) h hh

/-- The last of the joined relays holds the circuit under the last cipher. -/
theorem last (hjoined : Joined circuitId keys (hops ++ [exit]))
    (hlen : keys.length = (hops ++ [exit]).length) :
    ∃ front key, keys = front ++ [key] ∧ exit.relay.registry.getCircuit circuitId =
      some (CircuitHandler.established exit.relay.nodeType exit.relay.keypair circuitId key.1 key.2
        none) := by
  induction hops generalizing keys with
  | nil =>
    obtain ⟨key, rfl⟩ := List.length_eq_one_iff.mp hlen
    obtain ⟨hlookup, -⟩ := hjoined
    rw [if_pos rfl] at hlookup
    exact ⟨[], key, rfl, hlookup⟩
  | cons h₀ rest ih =>
    cases keys with
    | nil => cases hlen
    | cons key keys =>
      obtain ⟨front, key', rfl, hlookup⟩ := ih hjoined.2 (Nat.succ.inj hlen)
      exact ⟨key :: front, key', rfl, hlookup⟩

end Joined

/-! ## Idle relays -/

section Idle

variable {hops : List Host} {ciphers : List CipherPair}

/-- Idle relays as a pipeline, in either direction: one layer each, and nothing queued. -/
theorem stages_idle (hciphers : hops.map (fun h => h.relay.cipher? circuitId) = ciphers.map some)
    (layer : CipherPair → Keyed) :
    hops.map (fun h => ((h.relay.cipher? circuitId).toList.map layer, ([] : List Message))) =
      ciphers.map fun cipher => ([layer cipher], []) := by
  have hmap := congrArg
    (List.map fun c : Option CipherPair => (c.toList.map layer, ([] : List Message))) hciphers
  rw [List.map_map, List.map_map] at hmap
  exact hmap

theorem forwardStages_idle
    (hciphers : hops.map (fun h => h.relay.cipher? circuitId) = ciphers.map some) :
    forwardStages P circuitId (hops.map Node.idle) =
      ciphers.map fun cipher => ([cipher.forward.layer P], []) := by
  rw [← stages_idle hciphers, forwardStages, List.map_map]
  rfl

theorem backwardStages_idle
    (hciphers : hops.map (fun h => h.relay.cipher? circuitId) = ciphers.map some) :
    backwardStages P circuitId (hops.map Node.idle) =
      (ciphers.map fun cipher => ([cipher.backward.layer P], [])).reverse := by
  rw [← stages_idle hciphers, backwardStages, List.map_map]
  rfl

/-- The layers of a pipeline of single layers. -/
theorem flatten_layers (ciphers : List CipherPair) (layer : CipherPair → Keyed) :
    ((ciphers.map fun cipher => ([layer cipher], ([] : List Message))).map Prod.fst).flatten =
      ciphers.map layer := by
  induction ciphers with
  | nil => rfl
  | cons c cs ih =>
    rw [List.map_cons, List.map_cons, List.flatten_cons, ih]
    rfl

end Idle

/-- **Client and exit start in step.** -/
theorem System.start_core {keys : List (SessionKey × CipherPair)} {hops : List Host} {exit : Host}
    (hjoined : Joined circuitId keys (hops ++ [exit]))
    (hlen : keys.length = (hops ++ [exit]).length)
    (hroles : ∀ h ∈ hops, h.relay.nodeType ≠ .exit) (hexit : exit.relay.nodeType = .exit)
    (padding : Nat → UInt8) :
    ∃ h state, (System.start (builtCircuit circuitId keys) hops exit padding).Core P circuitId
        h state ∧ h.streams = ∅ := by
  have hpasses := hjoined.passes hlen hroles
  obtain ⟨-, hciphers⟩ := hjoined.keys hlen
  obtain ⟨front, key, rfl, hlookup⟩ := hjoined.last hlen
  rw [hexit] at hlookup
  have hfront : hops.map (fun h => h.relay.cipher? circuitId) = (front.map Prod.snd).map some := by
    rw [List.map_append, List.map_append, List.map_append] at hciphers
    refine (List.append_inj hciphers ?_).1
    simpa using hlen.symm
  let state : ExitCryptoState :=
    { cipher := key.2, forwardDigest := RunningDigest.new, backwardDigest := RunningDigest.new }
  have hexiting : (Node.idle exit).Exiting circuitId _ state :=
    ⟨hlookup, rfl, rfl, rfl, Carries.nil⟩
  let ciphers := (front ++ [key]).map Prod.snd
  have hsplit : ciphers = front.map Prod.snd ++ [key.2] := List.map_append
  refine ⟨_, state, ⟨?_, hexiting, rfl, rfl, Carries.nil, ?_, ?_, ?_⟩, rfl⟩
  · intro n hn
    obtain ⟨h, hh, rfl⟩ := List.mem_map.mp hn
    exact ⟨hpasses h hh, rfl, rfl, Carries.nil, Carries.nil⟩
  · exact fun p hp => absurd hp List.not_mem_nil
  · -- forward, client and relays hold the same layers
    have hpipeline : (System.start (builtCircuit circuitId (front ++ [key])) hops exit
        padding).forwardPipeline P circuitId =
        ciphers.map fun cipher => ([cipher.forward.layer P], []) := by
      show forwardStages P circuitId (hops.map Node.idle) ++
        [(Node.idle exit).forwardStage P circuitId] = _
      rw [forwardStages_idle hfront, hexiting.forwardStage, hsplit, List.map_append]
      rfl
    rw [hpipeline]
    refine Channel.InSync.start ?_ ⟨forwardLayers P ciphers, ?_⟩ _
    · intro x hx
      obtain ⟨cipher, -, rfl⟩ := List.mem_map.mp hx
      rfl
    · rw [flatten_layers]
      exact List.Perm.refl _
  · -- backward, the exit's layer and then the relays' are the client's in reverse
    have hpipeline : (System.start (builtCircuit circuitId (front ++ [key])) hops exit
        padding).backwardPipeline P circuitId =
        (front.map Prod.snd).reverse.map (fun cipher => ([cipher.backward.layer P], [])) ++
          [(backwardLayers P ciphers, [])] := by
      show backwardStages P circuitId (hops.map Node.idle) ++ [(backwardLayers P ciphers, [])] = _
      rw [backwardStages_idle hfront, List.map_reverse]
    -- the order of the layers does not matter, as the keystreams commute
    rw [hpipeline]
    refine Channel.InSync.start ?_ ⟨backwardLayers P ciphers, ?_⟩ _
    · intro x hx
      rcases List.mem_append.mp hx with hx | hx
      · obtain ⟨cipher, -, rfl⟩ := List.mem_map.mp hx
        rfl
      · rw [List.mem_singleton.mp hx]
    · rw [List.map_append, List.flatten_append, flatten_layers, List.map_singleton,
        List.flatten_singleton, ← List.append_assoc]
      refine List.Perm.append_right _ ?_
      have hreverse : [key.2.backward.layer P] ++ (front.map Prod.snd).reverse.map
          (fun cipher => cipher.backward.layer P) = (backwardLayers P ciphers).reverse := by
        rw [backwardLayers, hsplit, List.map_append, List.reverse_append, List.map_reverse]
        rfl
      exact hreverse ▸ List.reverse_perm _

/-! ## Behind the build -/

/-- A path of an entry, one or more middles and an exit, all honest, that can be built. -/
structure HonestPath (P : Primitives) (A : AddrSyntax) (hosts : List Host) : Prop where
  roles : ∃ middles, hosts.map (fun h => h.descriptor.nodeType) =
    .entry :: List.replicate (middles + 1) .middle ++ [.exit]
  honest : ∀ h ∈ hosts, h.Honest P
  extendable : ∀ h ∈ hosts.tail, h.Extendable A

/-- The circuit that a successful build over the hosts leaves, before anything is sent. -/
def System.BuiltOver (P : Primitives) (A : AddrSyntax) (circuitId : CircuitId)
    (hosts : List Host) (padding : Nat → UInt8) (ephemerals : Nat → ByteArr 32) (s : System) :
    Prop :=
  ∃ circuit net hops exit,
    build P A (Network.transport P A ⟨hosts, []⟩ padding) circuitId (hosts.map Host.descriptor)
      ephemerals = .ok (circuit, net) ∧
    net.hosts = hops ++ [exit] ∧ s = System.start circuit hops exit padding

/-- What the streams of a new circuit see. -/
def Session.empty : Session where
  tasks := []
  senders := ∅
  nextStreamId := 1
  sent := []
  opened := []
  exitLog := []
  streams := ∅

section Built

variable {hosts : List Host} {padding : Nat → UInt8} {ephemerals : Nat → ByteArr 32}

/-- The build over an honest path, split at the exit. -/
theorem HonestPath.build_split (hpath : HonestPath P A hosts)
    (hcomm : ∀ x y, P.x25519 x (P.x25519Public y) = P.x25519 y (P.x25519Public x))
    (padding : Nat → UInt8) (ephemerals : Nat → ByteArr 32) :
    ∃ keys net hops exit,
      build P A (Network.transport P A ⟨hosts, []⟩ padding) circuitId (hosts.map Host.descriptor)
        ephemerals = .ok (builtCircuit circuitId keys, net) ∧
      net.hosts = hops ++ [exit] ∧ Joined circuitId keys (hops ++ [exit]) ∧
      keys.length = (hops ++ [exit]).length ∧ (∀ h ∈ hops, h.relay.nodeType ≠ .exit) ∧
      exit.relay.nodeType = .exit := by
  obtain ⟨middles, hroles⟩ := hpath.roles
  obtain ⟨net, keys, hbuild, hjoined, hlen, hstatic, -⟩ :=
    @build_joined P A circuitId hosts middles hcomm padding ephemerals hroles hpath.honest
      hpath.extendable
  have hnetRoles : net.hosts.map (fun h => h.relay.nodeType) =
      .entry :: List.replicate (middles + 1) .middle ++ [.exit] := by
    have hmap := congrArg (List.map fun s => s.2.1) hstatic
    rw [List.map_map, List.map_map] at hmap
    exact hmap.trans (roles_of_path hroles hpath.honest)
  obtain ⟨hops, last, hhosts, hhops, hlast⟩ := List.map_eq_append_iff.mp hnetRoles
  obtain ⟨exit, rfl, hexit⟩ := List.map_eq_singleton_iff.mp hlast
  rw [hhosts] at hjoined hlen
  refine ⟨keys, net, hops, exit, hbuild, hhosts, hjoined, hlen, ?_, hexit⟩
  intro h hh hrole
  -- a relay in front of the last would be an exit among the entry and the middles
  have hmem : NodeType.exit ∈ NodeType.entry :: List.replicate (middles + 1) .middle := by
    rw [← hhops, ← hrole]
    exact List.mem_map_of_mem hh
  simp [List.mem_replicate] at hmem

/-- An honest path is built. -/
theorem HonestPath.built (hpath : HonestPath P A hosts)
    (hcomm : ∀ x y, P.x25519 x (P.x25519Public y) = P.x25519 y (P.x25519Public x))
    (padding : Nat → UInt8) (ephemerals : Nat → ByteArr 32) :
    ∃ s, System.BuiltOver P A circuitId hosts padding ephemerals s := by
  obtain ⟨keys, net, hops, exit, hbuild, hhosts, -⟩ :=
    @HonestPath.build_split P A circuitId hosts hpath hcomm padding ephemerals
  exact ⟨_, _, net, hops, exit, hbuild, hhosts, rfl⟩

/-- **A built circuit starts with client and exit in step**, and no streams. -/
theorem System.BuiltOver.core (hpath : HonestPath P A hosts)
    (hcomm : ∀ x y, P.x25519 x (P.x25519Public y) = P.x25519 y (P.x25519Public x)) {s : System}
    (hs : System.BuiltOver P A circuitId hosts padding ephemerals s) :
    ∃ h state, s.Core P circuitId h state ∧ s.session h = Session.empty := by
  obtain ⟨circuit, net, hops, exit, hbuild, hhosts, rfl⟩ := hs
  obtain ⟨keys, net', hops', exit', hbuild', hhosts', hjoined, hlen, hroles, hexit⟩ :=
    @HonestPath.build_split P A circuitId hosts hpath hcomm padding ephemerals
  rw [hbuild] at hbuild'
  cases hbuild'
  obtain ⟨rfl, hlast⟩ := List.append_inj' (hhosts'.symm.trans hhosts) rfl
  cases hlast
  obtain ⟨h, state, hcore, hstreams⟩ :=
    System.start_core (P := P) hjoined hlen hroles hexit padding
  refine ⟨h, state, hcore, ?_⟩
  rw [System.session, hstreams]
  rfl

end Built

theorem samplePath_honestPath : HonestPath .sample .ipv4 samplePath where
  roles := ⟨0, rfl⟩
  honest := samplePath_honest
  extendable := samplePath_extendable

end MiniTor
