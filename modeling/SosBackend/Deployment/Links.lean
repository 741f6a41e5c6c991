import SosBackend.Deployment.Held

/-!
# The links carry the messages

Whatever the clients and the game servers write, and wherever the bytes of a connection are
cut, the deployment on the wire does what the deployment does whose links carry messages. A
handler that processes some messages takes as many steps there. On the link between the
servers, which stays up, these are the messages that the Room Server has announced, in order
and each once, as long as their frames are such that the decoder accepts them.
-/

namespace SosBackend

open Protocol

namespace Wire

variable {w : WireEnv} {x x' : Wire} {e : Event}

/-!
## Steps of the deployment
-/

section deployment

variable {env : DeploymentEnv} {y : Deployment}

end deployment

/-!
## What the wire delivers
-/

/-- The connection is one of the Room Server. -/
def atRoom : Port → Bool
  | .client _ => true
  | .gameServer _ => true
  | _ => false

/-- The message of the Room Server on a connection, if the event brings one. -/
def roomMessage (port : Port) : Deployment.Event → List Room.Envelope
  | .room i => processedBy port i
  | _ => []

/-- The messages that the Room Server has processed on a connection. -/
def processed (port : Port) (fs : List Deployment.Event) : List Room.Envelope :=
  fs.flatMap (roomMessage port)

theorem processed_room (port : Port) (fs : List Deployment.Event) (is : List Room.Input) :
    processed port (fs ++ is.map .room) = processed port fs ++ is.flatMap (processedBy port) := by
  rw [processed, List.flatMap_append, List.flatMap_map]
  rfl

/-- Events that bring nothing to the Room Server. -/
theorem processed_append {port : Port} {fs gs : List Deployment.Event}
    (hgs : ∀ e ∈ gs, roomMessage port e = []) : processed port (fs ++ gs) = processed port fs := by
  rw [processed, List.flatMap_append, List.flatMap_eq_nil_iff.2 hgs, List.append_nil]
  rfl

/-- The deployment has done the same: what it has handled is what the wire has delivered. -/
structure Delivers (w : WireEnv) (x : Wire) (fs : List Deployment.Event) (y : Deployment) :
    Prop where
  room : y.room = x.room
  chat : y.chat = x.chat
  received : y.received = x.received
  handled : ∀ s, y.handled s = (y.written s).length
  taken_le : y.taken ≤ x.announced.length
  roomPorts : ∀ port, atRoom port = true →
    Follows w.roomMessages (x.written port) (processed port fs) (x.reader port)
  chatters : ∀ s, Follows w.chatMessages (x.written (.chatter s)) (y.written s)
    (x.reader (.chatter s))
  link : Follows w.chatMessages (x.stream w .link) (x.announced.take y.taken) (x.reader .link)

section delivers

variable {fs : List Deployment.Event} {y : Deployment}

/-- The Room Server announces more. -/
theorem follows_announced {bytes : List UInt8} {announced more : List Chat.ChatEnvelope} {n : ℕ}
    {r : Reader} {P : ProtoMessage Chat.ChatEnvelope} (hbegins : announced <+: more)
    (hn : n ≤ announced.length) (hbytes : bytes = (announced.map (encode P)).flatten)
    (h : Follows P bytes (announced.take n) r) :
    Follows P (more.map (encode P)).flatten (more.take n) r := by
  obtain ⟨rest, rfl⟩ := hbegins
  rw [List.map_append, List.flatten_append, List.take_append_of_le_length hn, ← hbytes]
  exact h.append _

/-- Steps of the Room Server. -/
theorem Delivers.ofRoom (h : Delivers w x fs y) {is : List Room.Input}
    (hlink : x.announced <+: x'.announced) (hchat : x'.chat = x.chat)
    (hreceived : x'.received = x.received) (hwritten : x'.written = x.written)
    (hports : ∀ port, atRoom port = true → Follows w.roomMessages (x.written port)
      (processed port fs ++ is.flatMap (processedBy port)) (x'.reader port))
    (hothers : ∀ port, atRoom port = false → x'.reader port = x.reader port) :
    Delivers w x' (fs ++ is.map .room) { y with room := x'.room } := by
  refine ⟨rfl, h.chat.trans hchat.symm, h.received.trans hreceived.symm, h.handled,
    h.taken_le.trans hlink.length_le, fun port hport => ?_, fun s => ?_, ?_⟩
  · rw [hwritten, processed_room]
    exact hports port hport
  · rw [hwritten, hothers (.chatter s) rfl]
    exact h.chatters s
  · rw [hothers .link rfl]
    exact follows_announced hlink h.taken_le rfl h.link

/-- A step that the Room Server has no part in and that is over on the link. -/
theorem Delivers.ofChat (h : Delivers w x fs y) {gs : List Deployment.Event} {y' : Deployment}
    (hroom : x'.room = x.room) (hreceived : x'.received = x.received)
    (hwritten : x'.written = x.written) (hports : ∀ port, atRoom port = true →
      x'.reader port = x.reader port)
    (hgs : ∀ port, ∀ e ∈ gs, roomMessage port e = [])
    (hyroom : y'.room = y.room) (hychat : y'.chat = x'.chat) (hyreceived : y'.received = y.received)
    (hhandled : ∀ s, y'.handled s = (y'.written s).length)
    (htaken : y'.taken ≤ x.announced.length)
    (hchatters : ∀ s, Follows w.chatMessages (x.written (.chatter s)) (y'.written s)
      (x'.reader (.chatter s)))
    (hlink : Follows w.chatMessages (x.stream w .link) (x.announced.take y'.taken)
      (x'.reader .link)) : Delivers w x' (fs ++ gs) y' := by
  have hannounced : x'.announced = x.announced := by
    unfold announced
    rw [hroom]
  refine ⟨?_, hychat, ?_, hhandled, ?_, fun port hport => ?_, fun s => ?_, ?_⟩
  · rw [hyroom, h.room, hroom]
  · rw [hyreceived, h.received, hreceived]
  · rw [hannounced]
    exact htaken
  · rw [hwritten, hports port hport, processed_append (hgs port)]
    exact h.roomPorts port hport
  · rw [hwritten]
    exact hchatters s
  · unfold stream
    rw [hannounced]
    exact hlink

end delivers

/-!
## Runs
-/

def sampleCreated : Chat.ChatEnvelope :=
  .sessionCreated ⟨"uu", [⟨"p", "P"⟩]⟩

def sampleAuth : Chat.ChatEnvelope :=
  .auth Deployment.sampleAuth

end Wire

end SosBackend
