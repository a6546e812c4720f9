import MiniTor.Client.Circuit
import MiniTor.Relay.Hop
import MiniTor.Relay.Exit

/-!
# A send that is refused (`tor-client/src/core/circuit.rs`, `send_message`)

`send_message` absorbs the plaintext and turns all N ciphers before `write_to_stream` looks at
the length of the payload.

- `Circuit.Aligned.next`: between an exit in step and the client nothing is lost; the next cell
  opens to its plaintext.
- `Circuit.refused_unharmed_iff`: a refused send leaves the circuit as it was only if there was
  nothing to refuse.
- `refused_out_of_step`: a payload of one byte too many, after which the exit refuses the next
  cell.
-/

namespace MiniTor

open Theory Client

variable (P : Primitives)

/-- A forward cell as the exit gets it: every relay peels its layer. -/
def peelAll (relays : List CipherPair) (m : Message) : Message :=
  relays.foldl (fun m cipher => m.peel P cipher) m

theorem peelAll_eq (relays : List CipherPair) (m : Message) :
    peelAll P relays m = { m with data := (applyLayers (forwardLayers P relays) m.data).2 } := by
  induction relays generalizing m with
  | nil => rfl
  | cons cipher relays ih => exact ih (m.peel P cipher)

namespace Client.Circuit

/-- With nothing in flight: the relays, entry first, and the exit hold the forward positions
of the client, and the exit its forward digest. -/
structure Aligned (c : Circuit) (relays : List CipherPair) (exit : ExitCryptoState) : Prop where
  positions : c.onionKeys.ciphers.map CipherPair.forward =
    relays.map CipherPair.forward ++ [exit.cipher.forward]
  digest : c.onionKeys.forwardDigest = exit.forwardDigest

/-- What a refused send should leave behind: nothing written, the forward positions and the
forward digest as before, so that an exit in step takes the next cell. -/
structure Unharmed (c c' : Circuit) (result : Except Error Bytes) : Prop where
  unwritten : ∀ cell, result ≠ .ok cell
  positions : c'.onionKeys.ciphers.map CipherPair.forward =
    c.onionKeys.ciphers.map CipherPair.forward
  digest : c'.onionKeys.forwardDigest = c.onionKeys.forwardDigest
  next : ∀ relays exit, c.Aligned relays exit →
    ∀ streamId command (data : Bytes), data.length ≤ MAX_PAYLOAD_SIZE →
      (exit.openForward P (peelAll P relays (c'.sealedCell P streamId command data))).2 =
        (data, true)

variable {P} {c : Circuit} {relays : List CipherPair} {exit : ExitCryptoState}

/-- **In step, the next cell is decrypted and accepted.** -/
theorem Aligned.next (h : c.Aligned relays exit) (streamId : StreamId) (command : MessageCommand)
    (data : Bytes) :
    (exit.openForward P (peelAll P relays (c.sealedCell P streamId command data))).2 =
      (data, true) := by
  have hlayers : forwardLayers P c.onionKeys.ciphers =
      forwardLayers P relays ++ [exit.cipher.forward.layer P] := by
    have hmap := congrArg (List.map fun cipher => cipher.layer P) h.positions
    rw [List.map_map, List.map_append, List.map_map] at hmap
    exact hmap
  -- what is left after the relays is the exit's layer; it cancels
  have hopened : (exit.openForward P (peelAll P relays (c.sealedCell P streamId command data))).2.1
      = data := by
    rw [ExitCryptoState.openForward_decrypted, peelAll_eq]
    show ((exit.cipher.forward.layer P).apply (applyLayers (forwardLayers P relays)
      (applyLayers (forwardLayers P c.onionKeys.ciphers) data).2).2).2 = data
    have hcancel := applyLayers_cancel (forwardLayers P c.onionKeys.ciphers) data
    rw [hlayers] at hcancel ⊢
    rw [applyLayers_append] at hcancel
    exact hcancel
  have hverified := (exit.openForward_verified P
    (peelAll P relays (c.sealedCell P streamId command data))).mpr (by
      rw [hopened, peelAll_eq, ← h.digest]
      rfl)
  exact Prod.ext hopened hverified

/-- A payload that was sealed is in the digest for good. -/
theorem forwardDigest_sealed_ne (c : Circuit) (streamId : StreamId) (command : MessageCommand)
    (data : Bytes) :
    (c.sealed streamId command data).onionKeys.forwardDigest ≠ c.onionKeys.forwardDigest := by
  intro h
  have hlength := congrArg (fun d => d.state.length) h
  change (c.onionKeys.forwardDigest.state ++ cellTranscript streamId command.toU8 data).length =
    c.onionKeys.forwardDigest.state.length at hlength
  rw [List.length_append, length_cellTranscript] at hlength
  omega

/-- **A send that is refused for its length leaves the circuit usable exactly when the payload
fits**, that is, when there is nothing to refuse. -/
theorem refused_unharmed_iff (P : Primitives) (c : Circuit) (w : Message.Writer)
    (streamId : StreamId) (command : MessageCommand) (data : Bytes) :
    (∀ size max,
      (c.sendMessage P w streamId command data).2 = .error
          (.context "Failed to write to entry node" (.tor (.payloadTooLarge size max))) →
        c.Unharmed P (c.sendMessage P w streamId command data).1
          (c.sendMessage P w streamId command data).2) ↔
      data.length ≤ MAX_PAYLOAD_SIZE := by
  constructor
  · intro hclaim
    by_contra hlen
    have hsend := c.sendMessage_tooLong (P := P) w streamId command (Nat.not_le.mp hlen)
    have hunharmed := hclaim data.length MAX_PAYLOAD_SIZE (by rw [hsend])
    have hdigest := hunharmed.digest
    rw [hsend] at hdigest
    exact forwardDigest_sealed_ne c streamId command data hdigest
  · intro hlen size max herror
    exact absurd herror (c.sendMessage_fits w streamId command hlen size max)

/-- The keys of hop `n`. -/
def sampleHopKey (n : UInt8) : SessionKey :=
  ⟨List.Vector.replicate 16 n, List.Vector.replicate 16 n⟩

/-- A client of two hops, keys 1 and 2. -/
def sampleTwoHop : Circuit where
  circuitId := 1
  state := .ready
  onionKeys := OnionKeys.new [sampleHopKey 1, sampleHopKey 2]
    [CipherPair.new (sampleHopKey 1), CipherPair.new (sampleHopKey 2)]
  streamSenders := ∅
  nextStreamId := 2

/-- Its exit, before any cell. -/
def sampleFreshExit : ExitCryptoState where
  cipher := CipherPair.new (sampleHopKey 2)
  forwardDigest := RunningDigest.new
  backwardDigest := RunningDigest.new

theorem sampleTwoHop_aligned : sampleTwoHop.Aligned [CipherPair.new (sampleHopKey 1)]
    sampleFreshExit := ⟨rfl, rfl⟩

/-- One byte too many: nothing is written, the digest and both ciphers have moved, and the
exit, which was in step, refuses the next cell. -/
theorem refused_out_of_step :
    ¬∀ size max,
      (sampleTwoHop.sendMessage .sample (.working fun _ => 0) 1 .data
          (List.replicate 498 0)).2 = .error
          (.context "Failed to write to entry node" (.tor (.payloadTooLarge size max))) →
        sampleTwoHop.Unharmed .sample
          (sampleTwoHop.sendMessage .sample (.working fun _ => 0) 1 .data
            (List.replicate 498 0)).1
          (sampleTwoHop.sendMessage .sample (.working fun _ => 0) 1 .data
            (List.replicate 498 0)).2 := by
  intro hclaim
  have hlong : MAX_PAYLOAD_SIZE < (List.replicate 498 (0 : UInt8)).length := by
    rw [List.length_replicate]
    decide
  have hsend := sampleTwoHop.sendMessage_tooLong (P := .sample) (.working fun _ => 0) 1 .data hlong
  have hunharmed := hclaim _ _ (congrArg Prod.snd hsend)
  have haccepted := hunharmed.next _ _ sampleTwoHop_aligned 1 .data [1] (by decide)
  rw [hsend] at haccepted
  have hrefused : (sampleFreshExit.openForward .sample
      (peelAll .sample [CipherPair.new (sampleHopKey 1)]
        ((sampleTwoHop.sealed 1 .data (List.replicate 498 0)).sealedCell .sample 1 .data
          [1]))).2.2 = false := by decide +kernel
  rw [haccepted] at hrefused
  exact Bool.noConfusion hrefused

end Client.Circuit

end MiniTor
