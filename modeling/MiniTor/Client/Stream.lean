import MiniTor.Client.Circuit
import MiniTor.Common.Text

/-!
# A client stream (`tor-client/src/core/stream.rs`)

`handle_stream` bridges a SOCKS client to a destination: it registers a stream,
sends BEGIN, waits for CONNECTED, and then sends what the client writes, chunk by
chunk, until either side is done; `cleanup_stream` sends END and unregisters. The
task is modelled as the state machine of its awaits: every `send_message` is one
step, atomic under the circuit mutex, and so is every read and receive.
-/

namespace MiniTor.Client

/-- The chunks of `slice::chunks`, at most `fuel` of them. -/
def chunksOf (n : Nat) : Nat → Bytes → List Bytes
  | 0, _ => []
  | _, [] => []
  | fuel + 1, data => data.take n :: chunksOf n fuel (data.drop n)

/-- `slice::chunks`; a slice has no more chunks than bytes. -/
def chunks (n : Nat) (data : Bytes) : List Bytes := chunksOf n data.length data

theorem length_chunksOf (n fuel : Nat) (data : Bytes) :
    ∀ chunk ∈ chunksOf n fuel data, chunk.length ≤ n := by
  induction fuel generalizing data with
  | zero => exact fun _ hmem => nomatch hmem
  | succ fuel ih =>
    cases data with
    | nil => exact fun _ hmem => nomatch hmem
    | cons b bs =>
      intro chunk hmem
      rcases List.mem_cons.mp hmem with rfl | hmem
      · exact (List.length_take_le ..)
      · exact ih _ chunk hmem

/-- Every chunk fits. -/
theorem length_chunks (n : Nat) (data : Bytes) : ∀ chunk ∈ chunks n data, chunk.length ≤ n :=
  length_chunksOf n _ data

/-- Where `handle_stream` awaits. -/
inductive StreamPhase
  /-- Registered; BEGIN is to be sent. -/
  | opening
  /-- For CONNECTED. -/
  | waiting
  /-- Connected; the SOCKS reply is to be sent. -/
  | replying
  /-- In the loop; chunks of the last read are still to be sent. -/
  | relaying (pending : List Bytes)
  /-- In `cleanup_stream`; END is to be sent. -/
  | closing
  /-- END sent, still registered. -/
  | unregistering
  | closed
  deriving DecidableEq

/-- The task of a stream. `channel` holds what the circuit reader put in and the task has
not received yet; `read`, `written` and `delivered` are the whole history of the SOCKS
client's reads, of the payloads written to it in full, and of the channel, and `since` is how many
backward cells the client had accepted when the stream was registered. -/
structure StreamTask where
  streamId : StreamId
  destination : String
  phase : StreamPhase
  channel : List Message
  read : List Bytes
  written : List Bytes
  delivered : List Message
  since : Nat
  deriving DecidableEq

namespace StreamTask

def new (streamId : StreamId) (destination : String) (since : Nat) : StreamTask :=
  { streamId, destination, phase := .opening, channel := [], read := [], written := []
    delivered := [], since }

/-- The payload of BEGIN: `format!("{destination}\0")`. -/
def beginPayload (t : StreamTask) : Bytes := asBytes (t.destination ++ nul)

/-- The cell the task sends next. -/
def nextSend (t : StreamTask) : Option (MessageCommand × Bytes) :=
  match t.phase with
  | .opening => some (.begin, t.beginPayload)
  | .relaying (chunk :: _) => some (.data, chunk)
  | .closing => some (.end, [])
  | _ => none

/-- The task after `send_message` returned. -/
def afterSend (t : StreamTask) (sent : Bool) : StreamTask :=
  match t.phase with
  -- a BEGIN that cannot be sent ends the task without cleanup
  | .opening => { t with phase := if sent then .waiting else .closed }
  | .relaying (_ :: chunks) => { t with phase := if sent then .relaying chunks else .closing }
  | .closing => { t with phase := .unregistering }
  | _ => t

/-- `rx.recv()`; without a sender an empty channel ends. -/
def receive (t : StreamTask) (registered : Bool) : StreamTask :=
  match t.phase, t.channel with
  | .waiting, m :: rest =>
    { t with channel := rest, phase := if m.command = .connected then .replying else .closing }
  | .relaying [], m :: rest =>
    if m.command = .data then { t with channel := rest, written := t.written ++ [m.data] }
    else if m.command = .end then { t with channel := rest, phase := .closing }
    else { t with channel := rest }
  | .waiting, [] => if registered then t else { t with phase := .closing }
  | .relaying [], [] => if registered then t else { t with phase := .closing }
  | _, _ => t

/-- A message was received and the SOCKS client cannot be written to. -/
def receiveUnwritten (t : StreamTask) : StreamTask :=
  match t.phase, t.channel with
  | .relaying [], m :: rest =>
    if m.command = .data then { t with channel := rest, phase := .closing } else t
  | _, _ => t

/-- `Socks5::send_conn_reply`; a reply that cannot be sent ends the task without cleanup. -/
def reply (t : StreamTask) (sent : Bool) : StreamTask :=
  match t.phase with
  | .replying => { t with phase := if sent then .relaying [] else .closed }
  | _ => t

/-- Waiting for CONNECTED, or for the SOCKS client, takes too long or fails. -/
def giveUp (t : StreamTask) : StreamTask :=
  match t.phase with
  | .waiting => { t with phase := .closing }
  | .relaying [] => { t with phase := .closing }
  | _ => t

/-- `socks_stream.read`; no bytes are the end of the stream. -/
def socksRead (t : StreamTask) (data : Bytes) : StreamTask :=
  match t.phase with
  | .relaying [] =>
    if data = [] then { t with phase := .closing }
    else { t with phase := .relaying (chunks MAX_PAYLOAD_SIZE data), read := t.read ++ [data] }
  | _ => t

/-- The reader puts a message into the channel. -/
def deliver (t : StreamTask) (m : Message) : StreamTask :=
  { t with channel := t.channel ++ [m], delivered := t.delivered ++ [m] }

/-- The chunks of the last read that are still to be sent. -/
def pending (t : StreamTask) : List Bytes :=
  match t.phase with
  | .relaying chunks => chunks
  | _ => []

end StreamTask

/-- Put a message into a channel, if it is to be delivered; the channel of a stream has the
number of its task. -/
def deliverTo (tasks : List StreamTask) (delivered : Option (Nat × Message)) : List StreamTask :=
  match delivered with
  | some (channel, m) => tasks.modify channel fun t => t.deliver m
  | none => tasks

/-! ## Chunks -/

theorem chunksOf_flatten {n fuel : Nat} (hn : 0 < n) {data : Bytes} (hfuel : data.length ≤ fuel) :
    (chunksOf n fuel data).flatten = data := by
  induction fuel generalizing data with
  | zero =>
    have hnil : data = [] := List.length_eq_zero_iff.mp (Nat.le_zero.mp hfuel)
    subst hnil
    rfl
  | succ fuel ih =>
    cases data with
    | nil => rfl
    | cons b bs =>
      have hrest : ((b :: bs).drop n).length ≤ fuel := by
        rw [List.length_drop]
        omega
      rw [chunksOf, List.flatten_cons, ih hrest, List.take_append_drop]
      exact List.cons_ne_nil b bs

/-- **No byte is lost or moved** by cutting a read into chunks. -/
theorem chunks_flatten {n : Nat} (hn : 0 < n) (data : Bytes) : (chunks n data).flatten = data :=
  chunksOf_flatten hn (Nat.le_refl _)

/-! ## Between two sends -/

namespace StreamTask

/-- What a task may do without sending a cell: what it reads it will send, chunk by chunk,
and BEGIN stays to be sent or stays sent. -/
structure Goes (t t' : StreamTask) : Prop where
  streamId : t'.streamId = t.streamId
  destination : t'.destination = t.destination
  since : t'.since = t.since
  delivered : t'.delivered = t.delivered
  opening : t'.phase = .opening ↔ t.phase = .opening
  read : ∃ data, t'.read = t.read ++ data ∧
    t'.pending.flatten = t.pending.flatten ++ data.flatten
  fits : ∀ chunk ∈ t'.pending, chunk ∈ t.pending ∨ chunk.length ≤ MAX_PAYLOAD_SIZE

/-- A task that reads nothing changes phase only, and neither gains nor loses a chunk. -/
theorem Goes.of_phase {t t' : StreamTask}
    (hids : (t'.streamId, t'.destination, t'.since) = (t.streamId, t.destination, t.since))
    (hhistory : (t'.read, t'.delivered) = (t.read, t.delivered))
    (hopening : t'.phase = .opening ↔ t.phase = .opening) (hpending : t'.pending = t.pending) :
    t.Goes t' where
  streamId := congrArg Prod.fst hids
  destination := congrArg (fun x => x.2.1) hids
  since := congrArg (fun x => x.2.2) hids
  delivered := congrArg Prod.snd hhistory
  opening := hopening
  read := ⟨[], by rw [List.append_nil]; exact congrArg Prod.fst hhistory, by simp [hpending]⟩
  fits chunk hchunk := .inl (hpending ▸ hchunk)

theorem Goes.refl (t : StreamTask) : t.Goes t := .of_phase rfl rfl Iff.rfl rfl

variable (t : StreamTask)

theorem receive_goes (registered : Bool) : t.Goes (t.receive registered) := by
  obtain ⟨streamId, destination, phase, channel, read, written, delivered, since⟩ := t
  cases phase with
  | waiting =>
    cases channel with
    | nil =>
      cases registered with
      | true => exact .refl _
      | false => exact .of_phase rfl rfl (by simp [receive]) rfl
    | cons m rest =>
      by_cases hconnected : m.command = .connected
      · exact .of_phase rfl rfl (by simp [receive, hconnected])
          (by simp [receive, hconnected, pending])
      · exact .of_phase rfl rfl (by simp [receive, hconnected])
          (by simp [receive, hconnected, pending])
  | relaying chunks =>
    cases chunks with
    | cons chunk chunks => exact .refl _
    | nil =>
      cases channel with
      | nil =>
        cases registered with
        | true => exact .refl _
        | false => exact .of_phase rfl rfl (by simp [receive]) rfl
      | cons m rest =>
        by_cases hdata : m.command = .data
        · simp only [receive, if_pos hdata]
          exact .of_phase rfl rfl Iff.rfl rfl
        · by_cases hend : m.command = .end
          · simp only [receive, if_neg hdata, if_pos hend]
            exact .of_phase rfl rfl (by simp) rfl
          · simp only [receive, if_neg hdata, if_neg hend]
            exact .of_phase rfl rfl Iff.rfl rfl
  | opening => exact .refl _
  | replying => exact .refl _
  | closing => exact .refl _
  | unregistering => exact .refl _
  | closed => exact .refl _

theorem receiveUnwritten_goes : t.Goes t.receiveUnwritten := by
  unfold receiveUnwritten
  split
  · rename_i m rest hphase hchannel
    by_cases hdata : m.command = .data
    · rw [if_pos hdata]
      exact .of_phase rfl rfl (by simp [hphase]) (by simp [pending, hphase])
    · rw [if_neg hdata]
      exact .refl _
  · exact .refl _

theorem reply_goes (sent : Bool) : t.Goes (t.reply sent) := by
  obtain ⟨streamId, destination, phase, channel, read, written, delivered, since⟩ := t
  cases phase with
  | replying =>
    cases sent with
    | true => exact .of_phase rfl rfl (by simp [reply]) rfl
    | false => exact .of_phase rfl rfl (by simp [reply]) rfl
  | opening => exact .refl _
  | waiting => exact .refl _
  | relaying chunks => exact .refl _
  | closing => exact .refl _
  | unregistering => exact .refl _
  | closed => exact .refl _

theorem giveUp_goes : t.Goes t.giveUp := by
  obtain ⟨streamId, destination, phase, channel, read, written, delivered, since⟩ := t
  cases phase with
  | waiting => exact .of_phase rfl rfl (by simp [giveUp]) rfl
  | relaying chunks =>
    cases chunks with
    | nil => exact .of_phase rfl rfl (by simp [giveUp]) rfl
    | cons chunk chunks => exact .refl _
  | opening => exact .refl _
  | replying => exact .refl _
  | closing => exact .refl _
  | unregistering => exact .refl _
  | closed => exact .refl _

/-- **A read is queued as a whole**, in chunks that fit. -/
theorem socksRead_goes (data : Bytes) : t.Goes (t.socksRead data) := by
  obtain ⟨streamId, destination, phase, channel, read, written, delivered, since⟩ := t
  cases phase with
  | relaying pending =>
    cases pending with
    | cons chunk pending => exact .refl _
    | nil =>
      by_cases hnil : data = []
      · simp only [socksRead, if_pos hnil]
        exact .of_phase rfl rfl (by simp) rfl
      · simp only [socksRead, if_neg hnil]
        refine ⟨rfl, rfl, rfl, rfl, by simp, ⟨[data], rfl, ?_⟩, ?_⟩
        · simp [StreamTask.pending, chunks_flatten (show 0 < MAX_PAYLOAD_SIZE by decide)]
        · intro chunk hchunk
          exact .inr (length_chunks _ _ _ hchunk)
  | opening => exact .refl _
  | waiting => exact .refl _
  | replying => exact .refl _
  | closing => exact .refl _
  | unregistering => exact .refl _
  | closed => exact .refl _

/-- A task that has sent END is done once it is unregistered. -/
theorem closed_goes (h : t.phase = .unregistering) : t.Goes { t with phase := .closed } :=
  .of_phase rfl rfl (by simp [h]) (by simp [pending, h])

/-- How a task sends a cell: BEGIN, the next chunk, or END. -/
inductive Sends (t : StreamTask) : MessageCommand → Bytes → StreamTask → Prop
  | begin (hphase : t.phase = .opening) : Sends t .begin t.beginPayload { t with phase := .waiting }
  | data {chunk : Bytes} {chunks : List Bytes} (hphase : t.phase = .relaying (chunk :: chunks)) :
      Sends t .data chunk { t with phase := .relaying chunks }
  | end (hphase : t.phase = .closing) : Sends t .end [] { t with phase := .unregistering }

theorem sends_of_nextSend {t : StreamTask} {command : MessageCommand} {data : Bytes}
    (h : t.nextSend = some (command, data)) : t.Sends command data (t.afterSend true) := by
  obtain ⟨streamId, destination, phase, channel, read, written, delivered, since⟩ := t
  cases phase with
  | opening =>
    cases h
    exact .begin rfl
  | relaying chunks =>
    cases chunks with
    | nil => cases h
    | cons chunk chunks =>
      cases h
      exact .data rfl
  | closing =>
    cases h
    exact .end rfl
  | waiting => cases h
  | replying => cases h
  | unregistering => cases h
  | closed => cases h

/-- Sending moves the task's phase only. -/
theorem Sends.same {t t' : StreamTask} {command : MessageCommand} {data : Bytes}
    (h : t.Sends command data t') :
    t'.streamId = t.streamId ∧ t'.destination = t.destination ∧ t'.since = t.since ∧
      t'.read = t.read ∧ t'.delivered = t.delivered := by
  cases h with
  | begin hphase => exact ⟨rfl, rfl, rfl, rfl, rfl⟩
  | data hphase => exact ⟨rfl, rfl, rfl, rfl, rfl⟩
  | «end» hphase => exact ⟨rfl, rfl, rfl, rfl, rfl⟩

/-- A task that has sent a cell still runs. -/
theorem Sends.phase_ne_closed {t t' : StreamTask} {command : MessageCommand} {data : Bytes}
    (h : t.Sends command data t') : t'.phase ≠ .closed := by
  cases h with
  | begin hphase => exact fun h => nomatch h
  | data hphase => exact fun h => nomatch h
  | «end» hphase => exact fun h => nomatch h

/-- Destination and pending chunks are such that every cell of the task fits. -/
structure Ok (t : StreamTask) : Prop where
  destination : '\x00' ∉ t.destination.toList
  length : (asBytes t.destination).length ≤ 496
  pending : ∀ chunk ∈ t.pending, chunk.length ≤ MAX_PAYLOAD_SIZE

theorem Ok.goes {t t' : StreamTask} (h : t.Ok) (hgoes : t.Goes t') : t'.Ok where
  destination := by
    rw [hgoes.destination]
    exact h.destination
  length := by
    rw [hgoes.destination]
    exact h.length
  pending chunk hchunk := by
    rcases hgoes.fits chunk hchunk with hold | hfits
    · exact h.pending chunk hold
    · exact hfits

theorem Ok.sends {t t' : StreamTask} {command : MessageCommand} {data : Bytes} (h : t.Ok)
    (hsends : t.Sends command data t') : t'.Ok := by
  cases hsends with
  | begin hphase => exact ⟨h.destination, h.length, fun _ hchunk => nomatch hchunk⟩
  | @data chunk chunks hphase =>
    refine ⟨h.destination, h.length, fun c hc => h.pending c ?_⟩
    rw [StreamTask.pending, hphase]
    exact List.mem_cons_of_mem _ hc
  | «end» hphase => exact ⟨h.destination, h.length, fun _ hchunk => nomatch hchunk⟩

/-- BEGIN carries the destination. -/
theorem Ok.beginPayload {t : StreamTask} (h : t.Ok) :
    t.beginPayload.length ≤ MAX_PAYLOAD_SIZE ∧
      fromUtf8 t.beginPayload = some (t.destination ++ nul) ∧
      trimEndNul (t.destination ++ nul) = t.destination := by
  refine ⟨?_, fromUtf8_asBytes _, trimEndNul_append_nul h.destination⟩
  have hlen := h.length
  rw [StreamTask.beginPayload, asBytes_append, asBytes_nul, List.length_append,
    List.length_singleton]
  have hmax : MAX_PAYLOAD_SIZE = 497 := rfl
  omega

end StreamTask

end MiniTor.Client
