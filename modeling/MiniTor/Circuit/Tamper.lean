import Mathlib
import MiniTor.Circuit.ExitNode
import MiniTor.Circuit.Teardown
import MiniTor.Relay.Isolation
import MiniTor.Theory.Collision

/-!
# What the digest of the forward cells is worth

Whoever stands before the exit may deliver what it likes. The exit takes a BEGIN, DATA or
END under the tag of all it has taken so far and the cell itself. That tag is the first
bytes of a hash no key goes into, so it binds nobody who computes it anew.

- `Relay.acceptedCells`: the cells of a circuit that an exit accepts out of what it is
  delivered, until the connection to its previous hop ends.
- `accepted_prefix_or_collides`: cells that keep the digest and the length of a sealed one
  are accepted in the order of the sealed ones only, or two transcripts share a tag.
- `tampered_unnoticed`: cells rewritten together with their digest or their length, a
  collision of the first four bytes, and a session of one's own.
-/

namespace MiniTor

open Theory Client

variable (P : Primitives) (A : AddrSyntax) (circuitId : CircuitId)

/-- What a cell adds to the running digest. -/
def Plain.encode (p : Plain) : Bytes := cellTranscript p.streamId p.command.toU8 p.data

/-- The commands whose cells the exit verifies. -/
def MessageCommand.verified : MessageCommand → Bool
  | .begin | .data | .end => true
  | _ => false

/-- The cells that sending these plaintexts writes to the entry. -/
def writtenCells (padding : Nat → UInt8) : Circuit → List Plain → List Bytes
  | _, [] => []
  | c, p :: ps =>
    match c.sendMessage P (.working padding) p.streamId p.command p.data with
    | (c, .ok cell) => cell :: writtenCells padding c ps
    | (c, .error _) => writtenCells padding c ps

/-- The plaintexts a relay accepts on a circuit when it is delivered these messages over one
connection: its loop ends with the first one it refuses. -/
def Relay.acceptedCells : Relay → List (Env × Message) → List Plain
  | _, [] => []
  | r, (env, m) :: rest =>
    let served := r.onMessage P A env m
    let accepted := if m.circuitId = circuitId then acceptsOf served.sent else []
    if served.serving then accepted ++ Relay.acceptedCells served.relay rest else accepted

variable {P A circuitId}

/-! ## Encodings -/

theorem Plain.encode_injective : Function.Injective Plain.encode := by
  rintro ⟨streamId, command, data⟩ ⟨streamId', command', data'⟩ h
  obtain ⟨rfl, hcommand, rfl⟩ := cellTranscript_injective h
  obtain rfl : command = command' := MessageCommand.toU8_injective hcommand
  rfl

@[simp] theorem Plain.length_encode (p : Plain) : p.encode.length = 3 + p.data.length :=
  length_cellTranscript ..

theorem Plain.encode_ne_nil (p : Plain) : p.encode ≠ [] := by
  intro h
  have hlength := p.length_encode
  rw [h, List.length_nil] at hlength
  omega

/-! ## What is sealed -/

/-- Each cell written has the length of a plaintext, and the tag of all that was sent up to
it. -/
theorem mem_writtenCells {padding : Nat → UInt8} {c : Circuit} {ps : List Plain} {m : Message}
    (hm : m ∈ messagesIn (writtenCells P padding c ps)) :
    ∃ j, ∃ hj : j < ps.length, m.data.length = ps[j].data.length ∧
      m.digest = tagOf P
        (transcript Plain.encode c.onionKeys.forwardDigest.state (ps.take (j + 1))) := by
  induction ps generalizing c with
  | nil => exact nomatch hm
  | cons p ps ih =>
    have hlater :
        m ∈ messagesIn (writtenCells P padding (c.sealed p.streamId p.command p.data) ps) →
        ∃ j, ∃ hj : j < (p :: ps).length, m.data.length = (p :: ps)[j].data.length ∧
          m.digest = tagOf P (transcript Plain.encode c.onionKeys.forwardDigest.state
            ((p :: ps).take (j + 1))) := by
      intro hm
      obtain ⟨j, hj, hlength, hdigest⟩ := ih hm
      exact ⟨j + 1, Nat.succ_lt_succ hj, hlength, hdigest⟩
    rw [writtenCells] at hm
    by_cases hfits : p.data.length ≤ MAX_PAYLOAD_SIZE
    · rw [Circuit.sendMessage_working _ _ _ hfits] at hm
      dsimp only at hm
      have hsealed : (c.sealedCell P p.streamId p.command p.data).data.length ≤
          MAX_PAYLOAD_SIZE := by
        rw [Circuit.length_sealedCell]
        exact hfits
      rw [← List.singleton_append, messagesIn_append, messagesIn_singleton hsealed] at hm
      rcases List.mem_cons.mp hm with rfl | hm
      · exact ⟨0, Nat.zero_lt_succ _, Circuit.length_sealedCell .., rfl⟩
      · exact hlater hm
    · -- no cell of its own, but it is in the transcript of all later ones
      rw [Circuit.sendMessage_tooLong _ _ _ _ (Nat.not_le.mp hfits)] at hm
      exact hlater hm

/-! ## What the exit takes -/

namespace ExitCircuitHandler

/-- What a cell that is no CREATE does at the exit: it verifies and is accepted, and the digest
has absorbed it; or nothing is accepted, and the handler fails or its digest stays. -/
inductive Takes (h : ExitCircuitHandler) (m : Message) (o : Outcome ExitCircuitHandler) : Prop
  | accepted {state : ExitCryptoState} (hstate : h.sharedState = some state)
      (hcommand : m.command.verified = true)
      (hdigest : m.digest =
        tagOf P (state.forwardDigest.state ++ (state.opens P m).encode))
      (haccepts : acceptsOf o.sent = [state.opens P m])
      (hafter : ∀ state', o.handler.sharedState = some state' →
        state'.forwardDigest.state = state.forwardDigest.state ++ (state.opens P m).encode)
  | passed (haccepts : acceptsOf o.sent = [])
      (hafter : (∃ e, o.result = .error e) ∨ ∀ state', o.handler.sharedState = some state' →
        ∃ state, h.sharedState = some state ∧ state'.forwardDigest = state.forwardDigest)

variable {h : ExitCircuitHandler} {state : ExitCryptoState} {env : Env} {m : Message}

/-- A cell that opens leaves its crypto state with the handler. -/
theorem openCell_state {mismatch : String} {h' : ExitCircuitHandler} {state' : ExitCryptoState}
    {data : Bytes} (hopen : h.openCell P m mismatch = .ok (h', state', data)) :
    h'.sharedState = some state' := by
  unfold openCell at hopen
  split at hopen
  · exact nomatch hopen
  · dsimp only at hopen
    split at hopen
    · cases hopen
      rfl
    · exact nomatch hopen

/-- A cell that opens is accepted, if what serves it says so and leaves the digest alone. -/
theorem openCell_accepted {mismatch : String} {h' : ExitCircuitHandler} {state' : ExitCryptoState}
    {data : Bytes} {o : Outcome ExitCircuitHandler} (hcommand : m.command.verified = true)
    (hopen : h.openCell P m mismatch = .ok (h', state', data))
    (haccepts : acceptsOf o.sent = [⟨m.streamId, m.command, data⟩])
    (hafter : ∀ after, o.handler.sharedState = some after →
      after.forwardDigest = state'.forwardDigest) : Takes (P := P) h m o := by
  cases hstate : h.sharedState with
  | none =>
    rw [openCell, hstate] at hopen
    cases hopen
  | some state =>
    cases hverified : (state.openForward P m).2.2 with
    | false =>
      rw [openCell_error hstate hverified] at hopen
      cases hopen
    | true =>
      rw [openCell_ok hstate hverified] at hopen
      cases hopen
      refine .accepted hstate hcommand ((state.openForward_verified P m).mp hverified) haccepts ?_
      intro after hafter'
      rw [hafter after hafter', ExitCryptoState.openForward_fst]
      rfl

/-- Serving a BEGIN accepts it and leaves the forward digest alone. -/
theorem serveBegin_takes (hstate : h.sharedState = some state) (writer : Message.Writer)
    (data : Bytes) :
    acceptsOf (h.serveBegin P env writer state m data).sent = [⟨m.streamId, .begin, data⟩] ∧
      ∀ after, (h.serveBegin P env writer state m data).handler.sharedState = some after →
        after.forwardDigest = state.forwardDigest := by
  unfold serveBegin
  cases fromUtf8 data with
  | none =>
    refine ⟨rfl, fun after hafter => ?_⟩
    obtain rfl : state = after := Option.some.inj (hstate.symm.trans hafter)
    rfl
  | some text =>
    dsimp only
    cases env.connect (trimEndNul text) with
    | error e =>
      refine ⟨rfl, ?_⟩
      rintro after ⟨⟩
      rfl
    | ok _ =>
      dsimp only
      split
      · refine ⟨rfl, ?_⟩
        rintro after ⟨⟩
        rfl
      · refine ⟨rfl, ?_⟩
        rintro after ⟨⟩
        rfl

theorem serveData_takes (hstate : h.sharedState = some state) (data : Bytes) :
    acceptsOf (h.serveData P state m data).sent = [⟨m.streamId, .data, data⟩] ∧
      ∀ after, (h.serveData P state m data).handler.sharedState = some after →
        after.forwardDigest = state.forwardDigest := by
  unfold serveData
  dsimp only
  split
  · split
    · refine ⟨rfl, fun after hafter => ?_⟩
      obtain rfl : state = after := Option.some.inj (hstate.symm.trans hafter)
      rfl
    · refine ⟨rfl, ?_⟩
      rintro after ⟨⟩
      rfl
  · refine ⟨rfl, ?_⟩
    rintro after ⟨⟩
    rfl

/-- **What a cell that is no CREATE does at the exit.** -/
theorem handleMessage_takes (prev : Option Message.Writer) (hcreate : m.command ≠ .create) :
    Takes (P := P) h m (h.handleMessage P env prev m) := by
  -- a handler that fails at once has accepted nothing
  have hfail : ∀ h' e, Takes (P := P) h m (.fail h' [] e) := fun _ e =>
    .passed rfl (.inl ⟨e, rfl⟩)
  unfold handleMessage
  cases hcommand : m.command with
  | create => exact absurd hcommand hcreate
  | begin =>
    cases prev with
    | none => exact hfail _ _
    | some writer =>
      show Takes h m (h.handleBegin P env writer m)
      rw [handleBegin]
      cases hopen : h.openCell P m "Digest mismatch on BEGIN" with
      | error refused => exact hfail _ _
      | ok opened =>
        obtain ⟨haccepts, hafter⟩ := @serveBegin_takes P opened.1 opened.2.1 env m
          (openCell_state hopen) writer opened.2.2
        rw [← hcommand] at haccepts
        exact openCell_accepted (by rw [hcommand]; rfl) hopen haccepts hafter
  | data =>
    show Takes h m (h.handleData P m)
    rw [handleData]
    cases hopen : h.openCell P m "Digest mismatch on DATA" with
    | error refused => exact hfail _ _
    | ok opened =>
      obtain ⟨haccepts, hafter⟩ := serveData_takes (P := P) (m := m) (openCell_state hopen)
        opened.2.2
      rw [← hcommand] at haccepts
      exact openCell_accepted (by rw [hcommand]; rfl) hopen haccepts hafter
  | «end» =>
    show Takes h m (h.handleEnd P m)
    rw [handleEnd]
    cases hopen : h.openCell P m "Digest mismatch on END" with
    | error refused => exact hfail _ _
    | ok opened =>
      have haccepts : acceptsOf (opened.1.serveEnd P opened.2.1 m opened.2.2).sent =
          [⟨m.streamId, m.command, opened.2.2⟩] := by
        rw [hcommand]
        rfl
      refine openCell_accepted (by rw [hcommand]; rfl) hopen haccepts ?_
      rintro after ⟨⟩
      rfl
  | destroy => exact .passed rfl (.inr fun _ hnone => by cases hnone)
  | padding => exact .passed rfl (.inr fun state' hstate => ⟨state', hstate, rfl⟩)
  | created => exact hfail _ _
  | extend => exact hfail _ _
  | extended => exact hfail _ _
  | connected => exact hfail _ _

end ExitCircuitHandler

/-! ## What the relay around it does -/

namespace Relay

variable {r : Relay} {h : ExitCircuitHandler} {env : Env} {m : Message}

/-- A cell for an exit's circuit goes to its handler; what it accepts is what the relay does,
and an error ends the connection. -/
theorem onMessage_toExit (hfound : r.registry.getCircuit m.circuitId = some (.exit h))
    (hcreate : m.command ≠ .create) :
    acceptsOf (r.onMessage P A env m).sent =
        acceptsOf (h.handleMessage P env (some env.prevHop) m).sent ∧
      (r.onMessage P A env m).relay.registry.getCircuit m.circuitId =
        some (.exit (h.handleMessage P env (some env.prevHop) m).handler) ∧
      ((∃ e, (h.handleMessage P env (some env.prevHop) m).result = .error e) →
        (r.onMessage P A env m).serving = false) := by
  have hcall : r.registry.handleMessage P A env (some env.prevHop) m =
      ⟨r.registry.setCircuit m.circuitId
          (.exit (h.handleMessage P env (some env.prevHop) m).handler),
        (h.handleMessage P env (some env.prevHop) m).sent,
        (h.handleMessage P env (some env.prevHop) m).result⟩ := by
    rw [CircuitRegistry.handleMessage, hfound]
    rfl
  -- an exit has no next-hop reader to start
  have hspawn : ∀ (r' : Relay) (handler : ExitCircuitHandler),
      r'.registry.getCircuit m.circuitId = some (.exit handler) →
        (r'.countDestroyed m.command).spawnReader m.circuitId m.command =
          (r'.countDestroyed m.command, []) := by
    intro r' handler hfound'
    rw [← registry_countDestroyed r' m.command] at hfound'
    unfold spawnReader
    rw [hfound']
    exact ite_self _
  have hset : (r.registry.setCircuit m.circuitId
      (.exit (h.handleMessage P env (some env.prevHop) m).handler)).getCircuit m.circuitId =
        some (.exit (h.handleMessage P env (some env.prevHop) m).handler) :=
    CircuitRegistry.getCircuit_setCircuit_self hfound
  revert hcall hset
  generalize h.handleMessage P env (some env.prevHop) m = o
  intro hcall hset
  rw [onMessage, if_neg hcreate, onCell, hcall]
  dsimp only
  cases o.result with
  | error e => exact ⟨rfl, hset, fun _ => rfl⟩
  | ok response =>
    have hok : ∀ serving, (∃ e, (Except.ok response : Except Error (Option Message)) = .error e) →
        serving = false := by
      rintro serving ⟨e, ⟨⟩⟩
    cases response with
    | none =>
      dsimp only
      rw [hspawn _ o.handler hset]
      dsimp only
      rw [List.append_nil, registry_countDestroyed]
      exact ⟨rfl, hset, hok _⟩
    | some response =>
      dsimp only
      cases response.writeToStream env.prevHop with
      | error e => exact ⟨rfl, hset, hok _⟩
      | ok cell =>
        dsimp only
        split
        · rw [hspawn _ o.handler hset]
          dsimp only
          rw [List.append_nil, registry_countDestroyed, acceptsOf_append]
          exact ⟨List.append_nil _, hset, hok _⟩
        · rw [hspawn _ o.handler hset]
          dsimp only
          rw [List.append_nil, registry_countDestroyed, acceptsOf_append]
          exact ⟨List.append_nil _, hset, hok _⟩

end Relay

/-! ## A run of deliveries -/

variable (P circuitId) in
/-- Each of the plaintexts accepted was delivered in a cell of its length, under the tag of all
that was accepted up to it. -/
def Tagged (d : Bytes) (delivered : List (Env × Message)) (accepted : List Plain) : Prop :=
  ∀ i p, accepted[i]? = some p →
    ∃ x ∈ delivered, x.2.circuitId = circuitId ∧ x.2.command.verified = true ∧
      x.2.data.length = p.data.length ∧
      x.2.digest = tagOf P (transcript Plain.encode d (accepted.take (i + 1)))

namespace Tagged

variable {d : Bytes} {delivered : List (Env × Message)} {accepted : List Plain}
  {x : Env × Message}

theorem nil : Tagged P circuitId d delivered [] := fun _ _ h => nomatch h

/-- A cell that adds nothing. -/
theorem skip (h : Tagged P circuitId d delivered accepted) :
    Tagged P circuitId d (x :: delivered) accepted := by
  intro i p hp
  obtain ⟨y, hy, hall⟩ := h i p hp
  exact ⟨y, List.mem_cons_of_mem _ hy, hall⟩

/-- A cell that is accepted. -/
theorem take {p : Plain} (hcircuit : x.2.circuitId = circuitId)
    (hverified : x.2.command.verified = true) (hlength : x.2.data.length = p.data.length)
    (hdigest : x.2.digest = tagOf P (d ++ p.encode))
    (h : Tagged P circuitId (d ++ p.encode) delivered accepted) :
    Tagged P circuitId d (x :: delivered) (p :: accepted) := by
  intro i q hq
  cases i with
  | zero =>
    obtain rfl : p = q := Option.some.inj hq
    exact ⟨x, List.mem_cons_self, hcircuit, hverified, hlength, hdigest⟩
  | succ i =>
    obtain ⟨y, hy, hall⟩ := h i q hq
    exact ⟨y, List.mem_cons_of_mem _ hy, hall⟩

end Tagged

/-- **What an exit accepts on a circuit is tagged** from where its forward digest stands. -/
theorem Relay.acceptedCells_tagged {r : Relay} {h : ExitCircuitHandler} {d : Bytes}
    {delivered : List (Env × Message)}
    (hfound : r.registry.getCircuit circuitId = some (.exit h))
    (hdigest : ∀ state, h.sharedState = some state → state.forwardDigest.state = d)
    (hcreate : ∀ x ∈ delivered, x.2.circuitId = circuitId → x.2.command ≠ .create) :
    Tagged P circuitId d delivered (r.acceptedCells P A circuitId delivered) := by
  induction delivered generalizing r h d with
  | nil => exact .nil
  | cons x rest ih =>
    obtain ⟨env, m⟩ := x
    have hrest : ∀ x ∈ rest, x.2.circuitId = circuitId → x.2.command ≠ .create := fun x hx =>
      hcreate x (List.mem_cons_of_mem _ hx)
    -- the connection ends with the first cell refused, whatever comes after it
    have hlater : ∀ {h' : ExitCircuitHandler} {d' : Bytes},
        (r.onMessage P A env m).relay.registry.getCircuit circuitId = some (.exit h') →
        ((r.onMessage P A env m).serving = true →
          ∀ state, h'.sharedState = some state → state.forwardDigest.state = d') →
        Tagged P circuitId d' rest (if (r.onMessage P A env m).serving then
          (r.onMessage P A env m).relay.acceptedCells P A circuitId rest else []) := by
      intro h' d' hfound' hdigest'
      split
      · next hserving => exact ih hfound' (hdigest' hserving) hrest
      · exact .nil
    have hsplit : r.acceptedCells P A circuitId ((env, m) :: rest) =
        (if m.circuitId = circuitId then acceptsOf (r.onMessage P A env m).sent else []) ++
          if (r.onMessage P A env m).serving then
            (r.onMessage P A env m).relay.acceptedCells P A circuitId rest else [] := by
      rw [acceptedCells]
      split
      · rfl
      · exact (List.append_nil _).symm
    rw [hsplit]
    by_cases hcircuit : m.circuitId = circuitId
    · subst hcircuit
      have hnew : m.command ≠ .create := hcreate (env, m) List.mem_cons_self rfl
      obtain ⟨hsent, hafter, hends⟩ := @onMessage_toExit P A r h env m hfound hnew
      rw [if_pos rfl, hsent]
      cases @ExitCircuitHandler.handleMessage_takes P h env m (some env.prevHop) hnew with
      | @accepted state hstate hverified htag haccepts hstates =>
        rw [hdigest state hstate] at htag hstates
        have hlength : m.data.length = (state.opens P m).data.length :=
          (Keyed.length_apply (state.cipher.forward.layer P) m.data).symm
        rw [haccepts]
        -- the digest has absorbed the cell, and what follows is tagged from there
        exact .take rfl hverified hlength htag (hlater hafter fun _ => hstates)
      | passed haccepts hstates =>
        rw [haccepts]
        refine (hlater hafter fun hserving => ?_).skip
        rcases hstates with herror | hstates
        · rw [hends herror] at hserving
          exact nomatch hserving
        · intro state' hstate'
          obtain ⟨state, hstate, hsame⟩ := hstates state' hstate'
          rw [hsame]
          exact hdigest state hstate
    · -- a cell of another circuit changes nothing of this one
      rw [if_neg hcircuit]
      refine (hlater ?_ fun _ => hdigest).skip
      rw [getCircuit_onMessage_ne (Ne.symm hcircuit)]
      exact hfound

/-- **Cells that keep the digest and the length of a sealed one** are accepted in the order of
the sealed ones only: what the exit accepts is the first of what the client sent, or the
transcripts of the two show a collision of the first four bytes of the hash. -/
theorem accepted_prefix_or_collides (client : Circuit) (padding : Nat → UInt8) (ps : List Plain)
    {r : Relay} {h : ExitCircuitHandler} {circuitId : CircuitId}
    (hfound : r.registry.getCircuit circuitId = some (.exit h))
    (hsync : ∀ state, h.sharedState = some state →
      state.forwardDigest.state = client.onionKeys.forwardDigest.state)
    {delivered : List (Env × Message)}
    (hcreate : ∀ x ∈ delivered, x.2.circuitId = circuitId → x.2.command ≠ .create)
    (hkept : ∀ x ∈ delivered, x.2.circuitId = circuitId → x.2.command.verified = true →
      ∃ m ∈ messagesIn (writtenCells P padding client ps),
        x.2.digest = m.digest ∧ x.2.data.length = m.data.length) :
    r.acceptedCells P A circuitId delivered <+: ps ∨
      ∃ i j, Collides (tagOf P)
        (transcript Plain.encode client.onionKeys.forwardDigest.state
          ((r.acceptedCells P A circuitId delivered).take i))
        (transcript Plain.encode client.onionKeys.forwardDigest.state (ps.take j)) := by
  refine isPrefix_or_collides Plain.encode_injective Plain.encode_ne_nil ?_
  intro i hi
  obtain ⟨x, hx, hcircuit, hverified, hlength, hdigest⟩ :=
    Relay.acceptedCells_tagged hfound hsync hcreate i _ (List.getElem?_eq_getElem hi)
  obtain ⟨m, hm, hsame, hsameLength⟩ := hkept x hx hcircuit hverified
  obtain ⟨j, hj, hplain, htag⟩ := mem_writtenCells hm
  refine ⟨j, hj, ?_, ?_⟩
  · rw [Plain.length_encode, Plain.length_encode, ← hlength, hsameLength, hplain]
  · rw [← hdigest, hsame, htag]

/-! ### A relay that knows the plaintexts -/

/-- The exit of the sample client's circuit. -/
def sampleExit : Host := TeardownSystem.sampleLinked 2 .exit

/-- What the exit accepts when it is delivered these cells. -/
def takenBySample (delivered : List Message) : List Plain :=
  sampleExit.relay.acceptedCells .sample .ipv4 1
    (delivered.map fun m => (sampleExit.env fun _ _ _ => .closed, m))

/-- Cells with one relay's layers peeled off. -/
def peeledBy : CipherPair → List Message → List Message
  | _, [] => []
  | cipher, m :: ms =>
    m.peel .sample cipher ::
      peeledBy { cipher with forward := cipher.forward.advance m.data.length } ms

/-- The cells of these plaintexts as the relay before the exit has them. -/
def onPath (ps : List Plain) : List Message :=
  peeledBy (CipherPair.new (TeardownSystem.sampleKey 1))
    (messagesIn (writtenCells .sample (fun _ => 0) TeardownSystem.sampleClient ps))

def xorBytes (a b : Bytes) : Bytes := List.zipWith (· ^^^ ·) a b

/-- What is accepted is not the first of what was sent, and their transcripts show no
collision of the hash. -/
def Unnoticed (ps : List Plain) (delivered : List Message) : Prop :=
  ¬takenBySample delivered <+: ps ∧
    ∀ a ∈ (takenBySample delivered).inits, ∀ b ∈ ps.inits,
      ¬Collides Primitives.sample.sha256 (transcript Plain.encode [] a)
        (transcript Plain.encode [] b)

instance (ps : List Plain) (delivered : List Message) : Decidable (Unnoticed ps delivered) :=
  inferInstanceAs (Decidable (_ ∧ _))

def sampleData (data : Bytes) : Plain := ⟨1, .data, data⟩

def sampleEnd : Plain := ⟨1, .end, []⟩

/-- The one cell of a plaintext with another one put into it, under the tag `digest`. -/
def rewritten (known wanted : Bytes) (digest : ByteArr 4) : List Message :=
  (onPath [sampleData known]).map fun m =>
    { m with data := xorBytes m.data (xorBytes known wanted), digest }

/-- What the layer under a cell's payload adds, to one who knows the plaintext. -/
def keystreamOf (ps : List Plain) : Bytes :=
  (List.zipWith (fun m p => xorBytes m.data p.data) (onPath ps) ps).flatten

/-- Three cells delivered as one: the second cell's header is the end of a payload. -/
def merged (first second third : Plain) : List Message :=
  ((onPath [first, second, third])[1]?.map fun m =>
    { m with
      data := xorBytes (keystreamOf [first, second, third]) (first.data ++ second.encode) }).toList

/-- The cell of a plaintext, a CREATE of one's own, and the cell again. -/
def replayed (p : Plain) : List Message :=
  onPath [p] ++ [Message.create 1 (List.replicate 32 9)] ++ onPath [p]

/-- Data and tag rewritten; three cells delivered as one under the second one's tag; data
rewritten to a payload whose tag is the same; an END replayed in a session of one's own. -/
theorem tampered_unnoticed :
    Unnoticed [sampleData [1, 2]]
        (rewritten [1, 2] [7, 8] (tagOf .sample (sampleData [7, 8]).encode)) ∧
      Unnoticed [sampleData [1], sampleData [2], sampleData [3, 4, 5]]
        (merged (sampleData [1]) (sampleData [2]) (sampleData [3, 4, 5])) ∧
      Unnoticed [sampleData [0, 85, 211]] (rewritten [0, 85, 211] [1, 15, 18]
        (tagOf .sample (sampleData [0, 85, 211]).encode)) ∧
      Unnoticed [sampleEnd] (replayed sampleEnd) :=
  ⟨by decide +kernel, by decide +kernel, by decide +kernel, by decide +kernel⟩

/-- The cells of these plaintexts, all but the first with every byte changed. -/
def garbled (ps : List Plain) : List Message :=
  (onPath ps).mapIdx fun i m => if i = 0 then m else { m with data := m.data.map (· ^^^ 1) }

/-- The second of two cells garbled: it is refused, and the first is what was sent first. -/
theorem sample_garbled :
    takenBySample (garbled [sampleData [1], sampleData [2]]) = [sampleData [1]] ∧
      (takenBySample (garbled [sampleData [1], sampleData [2]]) <+:
          [sampleData [1], sampleData [2]] ∨ ∃ i j, Collides (tagOf .sample)
        (transcript Plain.encode []
          ((takenBySample (garbled [sampleData [1], sampleData [2]])).take i))
        (transcript Plain.encode [] ([sampleData [1], sampleData [2]].take j))) := by
  have hcells : ∀ m ∈ garbled [sampleData [1], sampleData [2]], m.command ≠ .create ∧
      ∃ sealed ∈ messagesIn (writtenCells .sample (fun _ => 0) TeardownSystem.sampleClient
        [sampleData [1], sampleData [2]]),
        m.digest = sealed.digest ∧ m.data.length = sealed.data.length := by
    decide +kernel
  have hfound : sampleExit.relay.registry.getCircuit 1 = some (CircuitHandler.established .exit
      (TeardownSystem.sampleLinked 2 .exit).relay.keypair 1 (TeardownSystem.sampleKey 2)
      (CipherPair.new (TeardownSystem.sampleKey 2)) none) := AList.lookup_insert _
  refine ⟨by decide +kernel, ?_⟩
  refine accepted_prefix_or_collides TeardownSystem.sampleClient (fun _ => 0) _ hfound ?_ ?_ ?_
  · rintro state ⟨⟩
    rfl
  · intro x hx _
    obtain ⟨m, hm, rfl⟩ := List.mem_map.mp hx
    exact (hcells m hm).1
  · intro x hx _ _
    obtain ⟨m, hm, rfl⟩ := List.mem_map.mp hx
    exact (hcells m hm).2

end MiniTor
