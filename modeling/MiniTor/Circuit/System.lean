import MiniTor.Circuit.ExitNode
import MiniTor.Client.Stream
import MiniTor.Theory.Channel
import MiniTor.Theory.Run

/-!
# A circuit in use

The client's circuit with its streams, the relays of its path and the cells in
flight between them, each part moving at its own pace: a run is a list of events,
and every list of events is a run. An event that is not enabled changes nothing.

- `System.step`: one event.
- `Event.Allowed`, `Event.Unwrapped`: what the statements below assume of an
  event: short destinations without NUL, error texts that fit a cell, and stream
  ids that have not wrapped around.
- The logs `sent`, `opened` and `exitLog` are what the client sealed, what it
  accepted, and all the exit did.
-/

namespace MiniTor

open Theory Client

variable (P : Primitives) (A : AddrSyntax) (circuitId : CircuitId)

structure System where
  client : Circuit
  /-- Every stream opened so far; a stream's channel has the number of its task. -/
  tasks : List StreamTask
  hops : List Node
  exit : Node
  /-- The cells on their way from the entry to the client. -/
  clientIn : List Bytes
  /-- The client's circuit reader runs. -/
  reading : Bool
  /-- The random bytes the client pads with. -/
  padding : Nat → UInt8
  sent : List Plain
  opened : List Plain
  exitLog : List Effect

/-- What can happen next. -/
inductive Event
  /-- A SOCKS client asks for a destination: a stream is allocated and registered. -/
  | openStream (destination : String)
  /-- A stream's task sends its next cell. -/
  | send (task : Nat)
  | receive (task : Nat)
  /-- A stream's task receives DATA and fails to write it to its SOCKS client. -/
  | receiveUnwritten (task : Nat)
  | reply (task : Nat) (sent : Bool)
  | giveUp (task : Nat)
  | socksRead (task : Nat) (data : Bytes)
  | unregister (task : Nat)
  | keepalive (data : Bytes)
  | clientRead
  /-- A hop serves the connection to its previous hop. -/
  | hopServe (index : Nat)
  /-- A hop reads from its next hop. -/
  | hopRead (index : Nat)
  | exitServe (connect : String → Except IoError Unit)
  /-- A stream task of the exit sends a cell back. -/
  | exitStream (p : Plain)
  | exitStreamEnded (streamId : StreamId)

def Message.plain (m : Message) : Plain := ⟨m.streamId, m.command, m.data⟩

/-- What is assumed of an event: destinations are NUL-free and at most 496 bytes long, and
what is not sent in chunks fits a cell. -/
def Event.Allowed : Event → Prop
  | .openStream destination =>
    '\x00' ∉ destination.toList ∧ (asBytes destination).length ≤ 496
  | .keepalive data => data.length ≤ MAX_PAYLOAD_SIZE
  | .exitServe connect => ∀ destination e, connect destination = .error e →
      (connectionFailed e).length ≤ MAX_PAYLOAD_SIZE
  | .exitStream p => p.Sealable
  | _ => True

/-- The stream ids have not wrapped around: one about to be allocated is new. -/
def Event.Unwrapped (tasks : List StreamTask) (nextStreamId : StreamId) : Event → Prop
  | .openStream _ => ∀ t ∈ tasks, t.streamId ≠ nextStreamId
  | _ => True

namespace System

variable (s : System)

/-- Cells written to the entry. -/
def transmit (cells : List Bytes) : System :=
  let (hops, down) := pushFirst cells s.hops
  { s with hops, exit := { s.exit with fwdIn := s.exit.fwdIn ++ down } }

/-- Cells written back by the exit. -/
def respond (cells : List Bytes) : System :=
  let (hops, up) := pushLast cells s.hops
  { s with hops, clientIn := s.clientIn ++ up }

/-- A hop moved: what it passed on has left the line at either end. -/
def afterHop (r : LineActed) : System :=
  { s with
    hops := r.nodes
    exit := { s.exit with fwdIn := s.exit.fwdIn ++ r.down }
    clientIn := s.clientIn ++ r.up }

/-- The exit moved. -/
def afterExit (a : Acted) : System :=
  { s with exit := a.node, exitLog := s.exitLog ++ a.sent }.respond (cellsBackward a.sent)

/-- `Circuit::send_message` over the connection to the entry; whether it succeeded. -/
def sendMessage (streamId : StreamId) (command : MessageCommand) (data : Bytes) :
    System × Bool :=
  match s.client.sendMessage P (.working s.padding) streamId command data with
  | (client, .ok cell) =>
    ({ s with client, sent := s.sent ++ [Plain.mk streamId command data] }.transmit
      [cell], true)
  | (client, .error _) => ({ s with client }, false)

/-- The receiver of a task's channel is dropped. -/
def dropReceiver (task : Nat) (streamId : StreamId) : System :=
  { s with
    client := { s.client with
      streamSenders := s.client.streamSenders.modify streamId fun sender =>
        if sender.channel = task then { sender with receiverAlive := false } else sender } }

/-- A task goes on; one that ends drops its receiver. -/
def updateTask (task : Nat) (f : StreamTask → StreamTask) : System :=
  let s' := { s with tasks := s.tasks.modify task f }
  match s'.tasks[task]? with
  | some t => if t.phase = .closed then s'.dropReceiver task t.streamId else s'
  | none => s'

def openStream (destination : String) : System :=
  let (client, streamId) := s.client.allocateStreamId
  { s with
    client := client.registerStream streamId { channel := s.tasks.length, receiverAlive := true }
    tasks := s.tasks ++ [StreamTask.new streamId destination s.opened.length] }

def sendNext (task : Nat) : System :=
  match s.tasks[task]? with
  | none => s
  | some t =>
    match t.nextSend with
    | none => s
    | some (command, data) =>
      let (s, sent) := s.sendMessage P t.streamId command data
      s.updateTask task fun t => t.afterSend sent

/-- A sender for the task's channel is still registered. -/
def registered (task : Nat) : Bool :=
  match s.tasks[task]? with
  | none => false
  | some t => (s.client.streamSenders.lookup t.streamId).any fun sender => sender.channel = task

def unregister (task : Nat) : System :=
  match s.tasks[task]? with
  | none => s
  | some t =>
    if t.phase = .unregistering then
      { s with client := s.client.unregisterStream t.streamId }.updateTask task
        fun t => { t with phase := .closed }
    else s

def keepalive (data : Bytes) : System :=
  if s.client.state = .ready then
    match s.client.sendPadding (.working s.padding) data with
    | .ok cell => s.transmit [cell]
    | .error _ => s
  else s

def clientRead : System :=
  match s.reading, s.clientIn with
  | true, cell :: cells =>
    let outcome := s.client.readerStep P (Message.fromBytes cell).toOption
    { s with
      client := outcome.circuit
      tasks := deliverTo s.tasks outcome.delivered
      clientIn := cells
      reading := outcome.reading
      opened := s.opened ++ (outcome.accepted.map Message.plain).toList }
  | _, _ => s

def step (s : System) : Event → System
  | .openStream destination => s.openStream destination
  | .send task => s.sendNext P task
  | .receive task => s.updateTask task fun t => t.receive (s.registered task)
  | .receiveUnwritten task => s.updateTask task StreamTask.receiveUnwritten
  | .reply task sent => s.updateTask task fun t => t.reply sent
  | .giveUp task => s.updateTask task StreamTask.giveUp
  | .socksRead task data => s.updateTask task fun t => t.socksRead data
  | .unregister task => s.unregister task
  | .keepalive data => s.keepalive data
  | .clientRead => s.clientRead P
  | .hopServe index => s.afterHop (actAt (Node.serve P A fun _ => .ok ()) index s.hops)
  | .hopRead index => s.afterHop (actAt (Node.readNext P A circuitId) index s.hops)
  | .exitServe connect => s.afterExit (s.exit.serve P A connect)
  | .exitStream p => s.afterExit (s.exit.streamSend P circuitId p)
  | .exitStreamEnded streamId =>
    { s with exit := s.exit.streamEnded circuitId streamId }

end System

end MiniTor
