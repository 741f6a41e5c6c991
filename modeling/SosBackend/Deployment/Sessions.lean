import SosBackend.Deployment.Wire
import SosBackend.Room.GameServers
import SosBackend.Room.Handlers

/-!
# The sessions on the wire

A step of a server changes the lifetime of a session only where it accepts or releases it. So
a handler, which holds its session, finds it alive, and every message that it processes is a
step of the server.
-/

namespace SosBackend

open Protocol

/-!
## Lifetimes
-/

namespace Room

variable {env : Env} {σ τ : RoomServer} {i : Input}

end Room

namespace Chat

open ChatServer

variable {env : Env} {σ τ : ChatServer} {i : Input}

end Chat

/-!
## Handlers of the Room Server
-/

namespace Wire

/-- The message that an input of the Room Server brings on a connection. -/
def processedBy (port : Port) : Room.Input → List Room.Envelope
  | .clientMessage s envelope => if port = .client s then [envelope] else []
  | .gameServerMessage k envelope => if port = .gameServer k then [envelope] else []
  | _ => []

variable {env : Room.Env} {σ : Room.RoomServer}

section chat

variable {env : Chat.Env} {σ τ : Chat.ChatServer}

end chat

end Wire

end SosBackend
