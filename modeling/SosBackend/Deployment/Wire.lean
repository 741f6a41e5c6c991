import SosBackend.Deployment
import SosBackend.Protocol.Dispatch

/-!
# The deployment on the wire

Every connection of the two servers carries bytes: those that its peer has written, and on the
link between the servers the frames of what the Room Server has announced. A read takes the
next bytes of a connection, as many as have come, and its handler runs some time later; a
session that has been closed in between still runs it. Clients and game servers write what
they like.
-/

namespace SosBackend

open Protocol

/-- What a `ClientSession` does with what it reads. -/
def Room.ClientSession.receiver (env : Room.Env) (s : SessionPtr) :
    Receiver Room.Envelope Room.RoomServer where
  processMessage envelope σ := σ.processMessage env s envelope
  returns σ := (σ.clients s).closed
  close σ := σ.closeClient s

/-- What a `GameServerSession` does with what it reads. -/
def Room.GameServerSession.receiver (env : Room.Env) (store : Room.SessionStore)
    (k : SessionPtr) : Receiver Room.Envelope Room.RoomServer where
  processMessage envelope σ := σ.processInternalMessage env store k envelope
  returns _ := false
  close σ := σ.closeGameServer env k

/-- What a `ChatSession` does with what it reads. -/
def Chat.ChatSession.receiver (env : Chat.Env) (s : SessionPtr) :
    Receiver Chat.ChatEnvelope Chat.ChatServer where
  processMessage envelope σ := σ.processMessage env s envelope
  returns σ := (σ.sessions s).closed
  close σ := σ.closeSession s

/-- What an `InternalSession` does with what it reads. -/
def Chat.InternalSession.receiver (env : Chat.Env) :
    Receiver Chat.ChatEnvelope Chat.ChatServer where
  processMessage envelope σ := σ.processInternalMessage env envelope
  returns _ := false
  close σ := σ

/-- A deployment with the generated message classes of both protocols. -/
structure WireEnv extends DeploymentEnv where
  roomMessages : ProtoMessage Room.Envelope
  chatMessages : ProtoMessage Chat.ChatEnvelope

/-- The connections of the servers: of a client to the Room Server, of a game server, of a
client to the Chat Server, and the one between the servers. -/
inductive Port
  | client (s : SessionPtr)
  | gameServer (k : SessionPtr)
  | chatter (s : SessionPtr)
  | link
deriving DecidableEq, Repr

structure Wire where
  room : Room.RoomServer
  chat : Chat.ChatServer
  received : SessionPtr → ℕ := fun _ => 0
  /-- The bytes that the peer of a connection has written. -/
  written : Port → List UInt8 := fun _ => []
  reader : Port → Reader := fun _ => {}

namespace Wire

inductive Event
  | room (i : Room.Input)
  | chat (i : Chat.Input)
  | receive (c : SessionPtr)
  | write (port : Port) (bytes : List UInt8)
  | complete (port : Port) (n : ℕ)
  | fail (port : Port)
  | run (port : Port)
deriving DecidableEq, Repr

/-- What the Room Server has sent to a client. -/
def outbox (x : Wire) (c : SessionPtr) : List Room.Delivery :=
  x.room.sent.filter fun d => d.session == c

/-- What the Room Server has written to the Chat Server. -/
def announced (x : Wire) : List Chat.ChatEnvelope :=
  x.room.backend.chat.sent

/-- The bytes of a connection. -/
def stream (w : WireEnv) (x : Wire) : Port → List UInt8
  | .link => (x.announced.map (encode w.chatMessages)).flatten
  | port => x.written port

/-- The session of the connection has not been closed. -/
def isOpen (x : Wire) : Port → Bool
  | .client s => (x.room.clients s).isOpen
  | .gameServer k => (x.room.gameServers k).lifetime == .alive && !(x.room.gameServers k).closed
  | .chatter s => (x.chat.sessions s).isOpen
  | .link => true

def setReader (x : Wire) (port : Port) (r : Reader) : Wire :=
  { x with reader := Function.update x.reader port r }

/-- The connection that an input of the Room Server accepts. -/
def roomAccepts : Room.Input → Option Port
  | .connect s _ => some (.client s)
  | .gameServerConnect k => some (.gameServer k)
  | _ => none

/-- The connection that an input of the Chat Server accepts. -/
def chatAccepts : Chat.Input → Option Port
  | .connect s => some (.chatter s)
  | _ => none

/-- The first read on a connection that is accepted. -/
def startRead (x : Wire) : Option Port → Wire
  | none => x
  | some port => x.setReader port (x.reader port).doRead

/-- What happens at the Room Server besides its messages, where the link stays up. No handler
holds a session that is released. -/
def roomLocal (x : Wire) : Room.Input → Bool
  | .clientMessage _ _ => false
  | .gameServerMessage _ _ => false
  | .chatLink _ => false
  | .clientReleased s => (x.reader (.client s)).reading == .over
  | _ => true

/-- What happens at the Chat Server besides its messages. -/
def chatLocal (x : Wire) : Chat.Input → Bool
  | .message _ _ => false
  | .internalMessage _ => false
  | .released s => (x.reader (.chatter s)).reading == .over
  | _ => true

/-- The handler of a read at a connection; a game server has no session without a session
store. -/
def onRead (w : WireEnv) (x : Wire) (port : Port) (data : Option (List UInt8)) : Option Wire :=
  match port with
  | .client s =>
      let result := (x.reader port).onRead w.roomMessages
        (Room.ClientSession.receiver w.room s) data x.room
      some { x.setReader port result.2.1 with room := result.2.2 }
  | .gameServer k => w.room.sessionStore.map fun store =>
      let result := (x.reader port).onRead w.roomMessages
        (Room.GameServerSession.receiver w.room store k) data x.room
      { x.setReader port result.2.1 with room := result.2.2 }
  | .chatter s =>
      let result := (x.reader port).onRead w.chatMessages
        (Chat.ChatSession.receiver w.chat s) data x.chat
      some { x.setReader port result.2.1 with chat := result.2.2 }
  | .link =>
      let result := (x.reader port).onRead w.chatMessages
        (Chat.InternalSession.receiver w.chat) data x.chat
      some { x.setReader port result.2.1 with chat := result.2.2 }

/-- One step, if it is enabled. A read takes at most the 8192 bytes of `read_buffer_`, and
fails at a connection of a client or a game server only. -/
def step (w : WireEnv) (x : Wire) : Event → Option Wire
  | .room i =>
      if roomLocal x i then
        (Room.step w.room x.room i).map fun room =>
          { x.startRead (roomAccepts i) with room := room }
      else none
  | .chat i =>
      if chatLocal x i then
        (Chat.step w.chat x.chat i).map fun chat =>
          { x.startRead (chatAccepts i) with chat := chat }
      else none
  | .receive c =>
      if x.received c < (x.outbox c).length then
        some { x with received := Function.update x.received c (x.received c + 1) }
      else none
  | .write port bytes =>
      if port ≠ .link then
        some { x with written := Function.update x.written port (x.written port ++ bytes) }
      else none
  | .complete port n =>
      if (x.reader port).reading = .waiting ∧ x.isOpen port ∧ 0 < n ∧ n ≤ 8192 ∧
          (x.reader port).arrived + n ≤ (x.stream w port).length then
        some (x.setReader port ((x.reader port).complete (x.stream w port) n))
      else none
  | .fail port =>
      if (x.reader port).reading = .waiting ∧ port ≠ .link then
        some (x.setReader port (x.reader port).fail)
      else none
  | .run port =>
      match (x.reader port).reading with
      | .done data => x.onRead w port data
      | _ => none

/-- The steps as a relation. -/
def Step (w : WireEnv) (x : Wire) (e : Event) (y : Wire) : Prop :=
  step w x e = some y

/-- The servers at their start, the link between them up. -/
def initial (roomStore chatStore : Redis.Keyspace) : Wire where
  room := (Deployment.initial roomStore chatStore).room
  chat := (Deployment.initial roomStore chatStore).chat
  reader port := if port = .link then { reading := .waiting } else {}

end Wire

end SosBackend
