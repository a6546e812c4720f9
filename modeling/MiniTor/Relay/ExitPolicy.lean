import MiniTor.Common.Addr
import MiniTor.Relay.Exit
import MiniTor.Theory.Run

/-!
# Exit policies (`types.rs`, `relay-node/src/core/config.rs`, `exit.rs`)

An exit publishes an `ExitPolicy` in its descriptor; its handler is built without it and
connects wherever a BEGIN that verifies says.

- `ExitPolicy.allows_iff`: what a policy allows.
- `ExitInput.connects`: a step connects to the destination of an accepted BEGIN, and nowhere
  else.
- `exit_policy_kept_iff`: so a run keeps the policy exactly when every accepted BEGIN whose
  destination can be reached names one the policy allows.
- `exit_policy_ignored`: a BEGIN to a port and an address the default policy blocks.
-/

namespace MiniTor

open Theory

/-- Check if a connection to the destination is allowed. -/
def ExitPolicy.allows (policy : ExitPolicy) (addr : SocketAddr) : Bool :=
  let port := addr.port
  let ip := addr.ip
  if policy.blockedIps.contains ip then false
  else if !policy.allowedIps.isEmpty && !policy.allowedIps.contains ip then false
  else if policy.blockedPorts.contains port then false
  else if policy.allowedPorts.isEmpty then true
  else policy.allowedPorts.contains port

/-- Not blocked, and on the lists of what is allowed where there are such lists. -/
theorem ExitPolicy.allows_iff (policy : ExitPolicy) (addr : SocketAddr) :
    policy.allows addr = true ↔
      addr.ip ∉ policy.blockedIps ∧ (policy.allowedIps = [] ∨ addr.ip ∈ policy.allowedIps) ∧
        addr.port ∉ policy.blockedPorts ∧
          (policy.allowedPorts = [] ∨ addr.port ∈ policy.allowedPorts) := by
  unfold allows
  dsimp only
  by_cases hblocked : addr.ip ∈ policy.blockedIps
  · simp [hblocked]
  · by_cases hip : policy.allowedIps = [] ∨ addr.ip ∈ policy.allowedIps
    · by_cases hport : addr.port ∈ policy.blockedPorts
      · simp [hblocked, hport]
      · rcases hip with hip | hip
        · by_cases hports : policy.allowedPorts = []
          · simp [hblocked, hip, hport, hports]
          · simp [hblocked, hip, hport, hports]
        · by_cases hports : policy.allowedPorts = []
          · simp [hblocked, hip, hport, hports]
          · simp [hblocked, hip, hport, hports]
    · push Not at hip
      simp [hblocked, hip.1, hip.2]

/-! ## What a relay publishes -/

/-- Configuration for a relay node, as far as its descriptor goes. -/
structure RelayConfig where
  bandwidth : UInt64
  exitAllowAll : Bool
  operatorId : Option String

namespace RelayConfig

def exitPolicy (config : RelayConfig) (nodeType : NodeType) : Option ExitPolicy :=
  if nodeType = .exit then
    some (if config.exitAllowAll then
      { allowedPorts := [], blockedPorts := [], allowedIps := [], blockedIps := [] }
    else
      { allowedPorts := [80, 443, 8080, 8443]
        blockedPorts := [25, 465, 587]
        allowedIps := []
        blockedIps := [.v4 ⟨[127, 0, 0, 1], rfl⟩, .v4 ⟨[10, 0, 0, 0], rfl⟩,
          .v4 ⟨[172, 16, 0, 0], rfl⟩, .v4 ⟨[192, 168, 0, 0], rfl⟩] })
  else none

/-- The descriptor `main` registers. -/
def descriptor (config : RelayConfig) (nodeId : String) (nodeType : NodeType)
    (bindAddr : SocketAddr) (publicKey : PublicKey) (fingerprint : String) : NodeDescriptor where
  nodeId := nodeId
  nodeType := nodeType
  address := bindAddr
  publicKey := publicKey
  bandwidth := config.bandwidth
  exitPolicy := config.exitPolicy nodeType
  operatorId := config.operatorId
  tlsCertFingerprint := fingerprint

end RelayConfig

/-! ## A run of the exit's handler -/

/-- What moves an exit's handler: a cell, with the answers it gets and the address a host name
resolves to, or one of its stream tasks, which seals a cell or ends. -/
inductive ExitInput
  | message (env : Env) (resolve : String → SocketAddr) (prevHopWrite : Option Message.Writer)
      (msg : Message)
  | sealStream (writer : Message.Writer) (streamId : StreamId) (command : MessageCommand)
      (data : Bytes)
  | streamEnded (streamId : StreamId)

variable (P : Primitives) (A : AddrSyntax)

namespace ExitInput

def act (h : ExitCircuitHandler) : ExitInput → Outcome ExitCircuitHandler
  | message env _ prevHopWrite msg => h.handleMessage P env prevHopWrite msg
  | sealStream writer streamId command data => h.sealStream P writer streamId command data
  | streamEnded streamId => .ok (h.streamEnded streamId) [] none

/-- The address a connection to `text` is made to, if it is made: a literal address is its
own, a host name is resolved. -/
def reached (text : String) : ExitInput → Option SocketAddr
  | message env resolve _ _ =>
    match env.connect text with
    | .ok () => some ((A.parse text).getD (resolve text))
    | .error _ => none
  | sealStream _ _ _ _ | streamEnded _ => none

end ExitInput

/-- The destination a step calls `TcpStream::connect` with. -/
def Effect.destination? : Effect → Option String
  | connect _ destination => some destination
  | _ => none

namespace ExitCircuitHandler

def step (h : ExitCircuitHandler) (e : ExitInput) : ExitCircuitHandler := (e.act P h).handler

/-- The connections a step opens. -/
def opened (h : ExitCircuitHandler) (e : ExitInput) : List SocketAddr :=
  ((e.act P h).sent.filterMap Effect.destination?).filterMap (e.reached A)

/-- The destination of a BEGIN that verifies. -/
def beginDestination (h : ExitCircuitHandler) (msg : Message) : Option String :=
  match msg.command, h.sharedState with
  | .begin, some state =>
    let (_, decrypted, verified) := state.openForward P msg
    if verified then (fromUtf8 decrypted).map trimEndNul else none
  | _, _ => none

/-- The destination a step is asked for; without the link to the previous hop a BEGIN is not
opened. -/
def asked (h : ExitCircuitHandler) : ExitInput → Option String
  | .message _ _ (some _) msg => h.beginDestination P msg
  | _ => none

/-- A step keeps the policy: a BEGIN for a literal address that is not allowed is answered END
and nothing is opened to it, and whatever is opened is allowed. -/
structure PolicyKept (policy : ExitPolicy) (h : ExitCircuitHandler) (e : ExitInput) : Prop where
  refused : ∀ text addr, h.asked P e = some text → A.parse text = some addr →
    policy.allows addr = false →
      addr ∉ h.opened P A e ∧
        ∃ response, (e.act P h).result = .ok (some response) ∧ response.command = .end
  allowed : ∀ addr ∈ h.opened P A e, policy.allows addr = true

/-- No BEGIN that verifies names a destination that can be reached and is not allowed. -/
def Abides (policy : ExitPolicy) (h : ExitCircuitHandler) (e : ExitInput) : Prop :=
  ∀ text addr, h.asked P e = some text → e.reached A text = some addr →
    policy.allows addr = true

/-! ### What a step connects to -/

variable {P A} {h : ExitCircuitHandler}

/-- A BEGIN that verified connects to its destination, and that is all it connects to. -/
theorem serveBegin_connects (env : Env) (writer : Message.Writer) (state : ExitCryptoState)
    (msg : Message) (decrypted : Bytes) :
    (h.serveBegin P env writer state msg decrypted).sent.filterMap Effect.destination? =
      ((fromUtf8 decrypted).map trimEndNul).toList := by
  unfold serveBegin
  cases fromUtf8 decrypted with
  | none => rfl
  | some text =>
    dsimp only
    cases env.connect (trimEndNul text) with
    | error e => rfl
    | ok _ =>
      dsimp only
      split
      · rfl
      · rfl

theorem serveData_connects (state : ExitCryptoState) (msg : Message) (decrypted : Bytes) :
    (h.serveData P state msg decrypted).sent.filterMap Effect.destination? = [] := by
  unfold serveData
  dsimp only
  split
  · split
    · rfl
    · rfl
  · rfl

/-- Another cell than BEGIN asks for no destination. -/
theorem asked_of_ne {env : Env} {resolve : String → SocketAddr}
    {prevHopWrite : Option Message.Writer} {msg : Message} (hcommand : msg.command ≠ .begin) :
    h.asked P (.message env resolve prevHopWrite msg) = none := by
  cases prevHopWrite with
  | none => rfl
  | some writer =>
    show h.beginDestination P msg = none
    unfold beginDestination
    split
    · exact absurd ‹_› hcommand
    · rfl

/-- What a BEGIN asks for, once there is a crypto state. -/
theorem asked_begin {env : Env} {resolve : String → SocketAddr} {writer : Message.Writer}
    {msg : Message} {state : ExitCryptoState} (hcommand : msg.command = .begin)
    (hstate : h.sharedState = some state) :
    h.asked P (.message env resolve (some writer) msg) =
      if (state.openForward P msg).2.2 then
        (fromUtf8 (state.openForward P msg).2.1).map trimEndNul else none := by
  show h.beginDestination P msg = _
  rw [beginDestination, hcommand, hstate]

theorem asked_begin_none {env : Env} {resolve : String → SocketAddr} {writer : Message.Writer}
    {msg : Message} (hstate : h.sharedState = none) :
    h.asked P (.message env resolve (some writer) msg) = none := by
  show h.beginDestination P msg = none
  rw [beginDestination, hstate]
  cases msg.command <;> rfl

/-- A BEGIN connects to the destination it asks for. -/
theorem handleBegin_connects (env : Env) (resolve : String → SocketAddr)
    (writer : Message.Writer) {msg : Message} (hcommand : msg.command = .begin) :
    (h.handleBegin P env writer msg).sent.filterMap Effect.destination? =
      (h.asked P (.message env resolve (some writer) msg)).toList := by
  cases hstate : h.sharedState with
  | none =>
    rw [asked_begin_none hstate, handleBegin, openCell, hstate]
    rfl
  | some state =>
    rw [asked_begin hcommand hstate, handleBegin]
    -- a cell that does not verify asks for nothing and connects to nothing
    cases hverified : (state.openForward P msg).2.2 with
    | false =>
      rw [openCell_error hstate hverified]
      rfl
    | true =>
      rw [openCell_ok hstate hverified]
      exact serveBegin_connects ..

/-- **A step connects to the destination of an accepted BEGIN, and nowhere else.** -/
theorem connects (e : ExitInput) :
    (e.act P h).sent.filterMap Effect.destination? = (h.asked P e).toList := by
  cases e with
  | sealStream writer streamId command data =>
    show (h.sealStream P writer streamId command data).sent.filterMap _ = []
    unfold sealStream
    split
    · rfl
    · dsimp only
      split
      · rfl
      · rfl
  | streamEnded streamId => rfl
  | message env resolve prevHopWrite msg =>
    show (h.handleMessage P env prevHopWrite msg).sent.filterMap _ = _
    by_cases hbegin : msg.command = .begin
    · unfold handleMessage
      rw [hbegin]
      cases prevHopWrite with
      | none => rfl
      | some writer => exact handleBegin_connects env resolve writer hbegin
    · rw [asked_of_ne hbegin]
      unfold handleMessage
      cases hcommand : msg.command with
      | begin => exact absurd hcommand hbegin
      | create =>
        dsimp only
        unfold handleCreate
        split
        · rfl
        · split
          · rfl
          · rfl
      | data =>
        dsimp only
        unfold handleData
        split
        · rfl
        · exact serveData_connects ..
      | «end» =>
        dsimp only
        unfold handleEnd
        split
        · rfl
        · rfl
      | destroy => rfl
      | padding => rfl
      | created => rfl
      | extend => rfl
      | extended => rfl
      | connected => rfl

/-- An accepted BEGIN that cannot be connected is answered END. -/
theorem refused_end {env : Env} {resolve : String → SocketAddr}
    {prevHopWrite : Option Message.Writer} {msg : Message} {text : String} {e : IoError}
    (hasked : h.asked P (.message env resolve prevHopWrite msg) = some text)
    (hconnect : env.connect text = .error e) :
    ∃ response, (h.handleMessage P env prevHopWrite msg).result = .ok (some response) ∧
      response.command = .end := by
  by_cases hbegin : msg.command = .begin
  · cases prevHopWrite with
    | none => exact nomatch hasked
    | some writer =>
      cases hstate : h.sharedState with
      | none =>
        rw [asked_begin_none hstate] at hasked
        exact nomatch hasked
      | some state =>
        rw [asked_begin hbegin hstate] at hasked
        cases hverified : (state.openForward P msg).2.2 with
        | false =>
          rw [hverified] at hasked
          exact nomatch hasked
        | true =>
          rw [hverified, if_pos rfl] at hasked
          obtain ⟨decoded, hdecoded, rfl⟩ := Option.map_eq_some_iff.mp hasked
          unfold handleMessage
          rw [hbegin]
          show ∃ response, (h.handleBegin P env writer msg).result = _ ∧ _
          rw [handleBegin, openCell_ok hstate hverified]
          dsimp only
          rw [serveBegin, hdecoded]
          dsimp only
          rw [hconnect]
          exact ⟨_, rfl, rfl⟩
  · rw [asked_of_ne hbegin] at hasked
    exact nomatch hasked

/-- **A step keeps the policy exactly when the BEGIN it serves, if any, abides by it.** -/
theorem policyKept_iff {policy : ExitPolicy} {e : ExitInput} :
    h.PolicyKept P A policy e ↔ h.Abides P A policy e := by
  have hopened : ∀ addr, addr ∈ h.opened P A e ↔
      ∃ text, h.asked P e = some text ∧ e.reached A text = some addr := by
    intro addr
    rw [opened, connects, List.mem_filterMap]
    simp only [Option.mem_toList]
  constructor
  · intro hkept text addr hasked hreached
    exact hkept.allowed addr ((hopened addr).mpr ⟨text, hasked, hreached⟩)
  · intro habides
    refine ⟨fun text addr hasked hparse hforbidden => ?_, fun addr hmem => ?_⟩
    · have hclosed : ∀ addr', e.reached A text = some addr' → policy.allows addr' = true :=
        fun addr' hreached => habides text addr' hasked hreached
      refine ⟨fun hmem => ?_, ?_⟩
      · obtain ⟨text', hasked', hreached⟩ := (hopened addr).mp hmem
        rw [habides text' addr hasked' hreached] at hforbidden
        exact nomatch hforbidden
      -- the destination is forbidden, so it cannot have been reached: the exit answers END
      · cases e with
        | sealStream writer streamId command data => exact nomatch hasked
        | streamEnded streamId => exact nomatch hasked
        | message env resolve prevHopWrite msg =>
          cases hconnect : env.connect text with
          | error e => exact refused_end hasked hconnect
          | ok _ =>
            -- a literal address that is reached is the one the policy forbids
            have hreached : ExitInput.reached A text (.message env resolve prevHopWrite msg) =
                some addr := by
              simp only [ExitInput.reached, hconnect, hparse, Option.getD_some]
            rw [hclosed addr hreached] at hforbidden
            exact nomatch hforbidden
    · obtain ⟨text, hasked, hreached⟩ := (hopened addr).mp hmem
      exact habides text addr hasked hreached

/-- **An exit keeps a policy exactly as long as every BEGIN that verifies, and whose destination
can be reached, names one the policy allows**: the handler knows no policy. -/
theorem exit_policy_kept_iff (P : Primitives) (A : AddrSyntax) (policy : ExitPolicy)
    (h : ExitCircuitHandler) (events : List ExitInput) :
    EveryStep (step P) (fun h e => h.PolicyKept P A policy e) h events ↔
      EveryStep (step P) (fun h e => h.Abides P A policy e) h events := by
  induction events generalizing h with
  | nil => exact Iff.rfl
  | cons e events ih => exact and_congr policyKept_iff (ih _)

/-! ### A destination that is blocked -/

/-- The long-term keys of the exit. -/
def sampleExitKeys : KeyPair := KeyPair.fromSecretBytes .sample (List.Vector.replicate 32 7)

/-- A world in which every connection succeeds. -/
def sampleWorld : Env where
  ephemeral := List.Vector.replicate 32 9
  dial _ _ _ := .closed
  nextHop := .working fun _ => 0
  prevHop := .working fun _ => 0
  connect _ := .ok ()

/-- The client's CREATE, and its BEGIN under the key they agree on. -/
def sampleForbidden : List ExitInput :=
  let clientPublic : ByteArr 32 := List.Vector.replicate 32 5
  let key := (sampleExitKeys.ntorAnswer .sample clientPublic sampleWorld.ephemeral).2
  let payload := asBytes ("127.0.0.1:25" ++ nul)
  let sealed : Message :=
    { circuitId := 1
      streamId := 1
      command := .begin
      data := ((CipherPair.new key).applyForward .sample payload).2
      digest := tagOf .sample (cellTranscript 1 MessageCommand.begin.toU8 payload) }
  [.message sampleWorld (fun _ => .v4 (List.Vector.replicate 4 0) 0) none
      (Message.create 1 clientPublic.toList),
    .message sampleWorld (fun _ => .v4 (List.Vector.replicate 4 0) 0) (some (.working fun _ => 0))
      sealed]

/-- A relay with the default configuration publishes a policy that blocks 127.0.0.1 and port
25, and connects there on the first BEGIN that asks for it. -/
theorem exit_policy_ignored :
    ∃ policy : ExitPolicy,
      ((⟨1048576, false, none⟩ : RelayConfig).descriptor "exit" .exit
        (.v4 ⟨[127, 0, 0, 1], rfl⟩ 9001) sampleExitKeys.publicKey "a1b2").exitPolicy = some policy ∧
      ¬EveryStep (step .sample) (fun h e => h.PolicyKept .sample .ipv4 policy e)
        (ExitCircuitHandler.new 1 sampleExitKeys) sampleForbidden := by
  refine ⟨_, rfl, ?_⟩
  rintro ⟨-, hbegin, -⟩
  have hopened := hbegin.allowed (.v4 ⟨[127, 0, 0, 1], rfl⟩ 25) (by decide +kernel)
  exact absurd hopened (by decide)

end ExitCircuitHandler

end MiniTor
