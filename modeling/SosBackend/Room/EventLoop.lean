import SosBackend.Protocol.Codec
import SosBackend.Room.Identity

/-!
# The event loop under the client sessions

An asynchronous operation of a session ends at some time, and its completion handler is
then queued until the event loop runs it; the operation that ends first need not be the
one whose handler runs first, and a handler that is queued cannot be called back.
`EventLoop` keeps what is in flight for every session. Its steps are completions and runs
of handlers, with the codec and the loop of the read handler in full; what the messages do
is left to `RoomServer`, and every run of the loop is a run of the server.
-/

namespace SosBackend

namespace Room

open RoomServer Protocol

/-- The completion handlers of a session. A read that has failed has no data. -/
inductive Handler
  | read (data : Option (List UInt8))
  | timeout (cancelled : Bool)
  | written (failed : Bool)
deriving DecidableEq, Repr

/-- What is in flight for a session: its codec, whether a read or a wait on the heartbeat
timer is outstanding, how much of the write queue has been written, whether a write has
failed, and the handlers that are queued. -/
structure Pending where
  codec : Codec := {}
  reading : Bool := false
  waiting : Bool := false
  written : ℕ := 0
  stuck : Bool := false
  ready : List Handler := []

structure EventLoop where
  server : RoomServer
  pending : SessionPtr → Pending := fun _ => {}

/-- The environment of the server with the generated message class and the heartbeat
timeout in seconds. -/
structure LoopEnv where
  env : Env
  messages : ProtoMessage Envelope
  heartbeatTimeout : ℕ

namespace EventLoop

def update (l : EventLoop) (s : SessionPtr) (f : Pending → Pending) : EventLoop :=
  { l with pending := Function.update l.pending s (f (l.pending s)) }

@[simp] theorem server_update (l : EventLoop) (s : SessionPtr) (f : Pending → Pending) :
    (l.update s f).server = l.server := rfl

@[simp] theorem pending_update_self (l : EventLoop) (s : SessionPtr) (f : Pending → Pending) :
    (l.update s f).pending s = f (l.pending s) :=
  Function.update_self s _ _

theorem pending_update_of_ne (l : EventLoop) {s t : SessionPtr} (f : Pending → Pending)
    (h : t ≠ s) : (l.update s f).pending t = l.pending t :=
  Function.update_of_ne h _ _

/-!
## The session's operations
-/

/-- `heartbeat_timer_.cancel()`: a wait that is outstanding ends, cancelled. -/
def cancelTimer (s : SessionPtr) (l : EventLoop) : EventLoop :=
  if (l.pending s).waiting then
    l.update s fun p => { p with waiting := false, ready := p.ready ++ [.timeout true] }
  else l

/-- `resetHeartbeatTimer`; `expires_after` cancels the wait that is outstanding. -/
def resetHeartbeatTimer (w : LoopEnv) (s : SessionPtr) (l : EventLoop) : EventLoop :=
  if w.heartbeatTimeout = 0 then l
  else (l.cancelTimer s).update s fun p => { p with waiting := true }

def doRead (s : SessionPtr) (l : EventLoop) : EventLoop :=
  l.update s fun p => { p with reading := true }

/-- `close`, the timer and the socket included: the operations on a closed socket end with
an error, see `canComplete`. -/
def close (s : SessionPtr) (l : EventLoop) : EventLoop :=
  if (l.server.clients s).closed then l
  else { l.cancelTimer s with server := l.server.closeClient s }

/-- `processMessage`, which closes a session that the rate limiter refuses. -/
def processMessage (w : LoopEnv) (s : SessionPtr) (envelope : Envelope) (l : EventLoop) :
    EventLoop :=
  let server := l.server.processMessage w.env s envelope
  if (server.clients s).closed && !(l.server.clients s).closed then
    { l.cancelTimer s with server := server }
  else { l with server := server }

def setCodec (s : SessionPtr) (c : Codec) (l : EventLoop) : EventLoop :=
  l.update s fun p => { p with codec := c }

theorem cancelTimer_eq (s : SessionPtr) (l : EventLoop) :
    l.cancelTimer s = l ∨ l.cancelTimer s =
      l.update s fun p => { p with waiting := false, ready := p.ready ++ [.timeout true] } := by
  unfold cancelTimer
  split
  · exact Or.inr rfl
  · exact Or.inl rfl

theorem codec_processMessage (w : LoopEnv) (s : SessionPtr) (envelope : Envelope)
    (l : EventLoop) :
    ((l.processMessage w s envelope).pending s).codec = (l.pending s).codec := by
  have hcancel : ((l.cancelTimer s).pending s).codec = (l.pending s).codec := by
    rcases cancelTimer_eq s l with h | h
    · rw [h]
    · rw [h, pending_update_self]
  unfold processMessage
  simp only
  split
  · exact hcancel
  · rfl

/-- `while (auto envelope = codec_.tryDecode()) { processMessage(*envelope); if (closed_)
return; }`: the messages with the states they are processed in, whether the loop has
returned from the handler, and the state behind it. -/
def processBuffer (w : LoopEnv) (s : SessionPtr) (l : EventLoop) :
    List (RoomServer × Envelope) × Bool × EventLoop :=
  match _h : tryDecode w.messages (l.pending s).codec with
  | (none, c) => ([], false, l.setCodec s c)
  | (some envelope, c) =>
      let next := (l.setCodec s c).processMessage w s envelope
      if (next.server.clients s).closed then ([(l.server, envelope)], true, next)
      else ((l.server, envelope) :: (processBuffer w s next).1, (processBuffer w s next).2)
termination_by (l.pending s).codec.buffer.length
decreasing_by
  all_goals
    rw [codec_processMessage, setCodec, pending_update_self]
    exact length_tryDecode_lt _ _h

/-- The completion handler of `doRead`, with the messages it processes. -/
def onRead (w : LoopEnv) (s : SessionPtr) (data : Option (List UInt8)) (l : EventLoop) :
    List (RoomServer × Envelope) × EventLoop :=
  match data with
  | none => ([], l.close s)
  | some chunk =>
      let result := processBuffer w s (l.setCodec s (feed (l.pending s).codec chunk))
      (result.1, if result.2.1 then result.2.2
        else (result.2.2.resetHeartbeatTimer w s).doRead s)

/-- A completion handler, with the messages it processes. -/
def runHandler (w : LoopEnv) (s : SessionPtr) (h : Handler) (l : EventLoop) :
    List (RoomServer × Envelope) × EventLoop :=
  match h with
  | .read data => l.onRead w s data
  | .timeout cancelled => ([], if cancelled then l else l.close s)
  | .written failed =>
      ([], if failed then (l.update s fun p => { p with stuck := true }).close s
        else l.update s fun p => { p with written := p.written + 1 })

/-!
## Steps
-/

/-- What has been handed to the session for writing, `write_queue_` and what has left
it. -/
def handed (l : EventLoop) (s : SessionPtr) : ℕ :=
  (l.server.sent.filter fun d => d.session == s).length

/-- `async_write` is outstanding, or its handler is queued. -/
def writing (l : EventLoop) (s : SessionPtr) : Bool :=
  !(l.pending s).stuck && decide ((l.pending s).written < l.handed s)

/-- An outstanding operation may end so: on a closed socket with an error only, a read with
at most the 8192 bytes of `read_buffer_`. -/
def canComplete (l : EventLoop) (s : SessionPtr) : Handler → Bool
  | .read none => (l.pending s).reading
  | .read (some chunk) => (l.pending s).reading && !(l.server.clients s).closed &&
      !chunk.isEmpty && decide (chunk.length ≤ 8192)
  | .timeout cancelled => (l.pending s).waiting && !cancelled
  | .written failed => l.writing s && ((l.server.clients s).lifetime == .alive) &&
      (failed || !(l.server.clients s).closed) &&
      !(l.pending s).ready.contains (.written true) &&
      !(l.pending s).ready.contains (.written false)

/-- The operation ends, and its handler is queued. -/
def complete (s : SessionPtr) (h : Handler) (l : EventLoop) : EventLoop :=
  l.update s fun p =>
    match h with
    | .read _ => { p with reading := false, ready := p.ready ++ [h] }
    | .timeout _ => { p with waiting := false, ready := p.ready ++ [h] }
    | .written _ => { p with ready := p.ready ++ [h] }

/-- The handler is taken from the queue. -/
def dequeue (s : SessionPtr) (h : Handler) (l : EventLoop) : EventLoop :=
  l.update s fun p => { p with ready := p.ready.erase h }

/-- `ClientSession::start`. -/
def start (w : LoopEnv) (s : SessionPtr) (remoteIp : String) (l : EventLoop) : EventLoop :=
  (({ l with server := l.server.startClient s remoteIp }).resetHeartbeatTimer w s).doRead s

/-- No handler holds the session any more. -/
def idle (l : EventLoop) (s : SessionPtr) : Bool :=
  !(l.pending s).reading && !(l.pending s).waiting && (l.pending s).ready.isEmpty &&
    !l.writing s

end EventLoop

inductive LoopEvent
  | accept (s : SessionPtr) (remoteIp : String)
  | complete (s : SessionPtr) (h : Handler)
  | run (s : SessionPtr) (h : Handler)
  | release (s : SessionPtr)
  | other (i : Input)
deriving DecidableEq, Repr

/-- The client session that an input of the server is about. -/
def Input.client : Input → Option SessionPtr
  | .connect s _ => some s
  | .clientMessage s _ => some s
  | .clientClose s => some s
  | .clientReleased s => some s
  | _ => none

/-- One step of the event loop, if it is enabled. The queue of handlers is not kept in
order: a handler may run as soon as it is queued. -/
def loopStep (w : LoopEnv) (l : EventLoop) : LoopEvent → Option EventLoop
  | .accept s remoteIp =>
      if (l.server.clients s).lifetime = .unborn then some (l.start w s remoteIp) else none
  | .complete s h => if l.canComplete s h then some (l.complete s h) else none
  | .run s h =>
      if h ∈ (l.pending s).ready then some ((l.dequeue s h).runHandler w s h).2 else none
  | .release s =>
      if (l.server.clients s).lifetime = .alive ∧ (l.server.clients s).closed ∧ l.idle s then
        some { l with server := l.server.updateClient s fun c =>
          { c with lifetime := .expired } }
      else none
  | .other i =>
      if i.client = none then (step w.env l.server i).map fun server => { l with server := server }
      else none

/-- The steps of the event loop as a relation. -/
def LoopStep (w : LoopEnv) (l : EventLoop) (e : LoopEvent) (l' : EventLoop) : Prop :=
  loopStep w l e = some l'

/-- The event loop at its start. -/
def initialLoop (store : Redis.Keyspace) : EventLoop :=
  { server := initial store }

end Room

end SosBackend
