import SosBackend.Common.Outbound
import SosBackend.Protocol.Schema
import SosBackend.Room.State

/-!
# The connection to the Chat Server

`ChatServerChannel` keeps one connection to the Chat Server at a time and connects again
when it has lost one. What it is given while it is connected goes through a write queue,
which `close` clears; the write that is outstanding then completes all the same, and its
handler finds the queue as it is by that time. A step is any completion that is outstanding:
completions come in any order and as late as they like, and a result that needs them sooner
says so.
-/

namespace SosBackend

namespace Internal

open Protocol

/-- An outstanding write: its frame, what the socket has not taken of it, and the
connection it was started on. -/
structure Write where
  frame : Frame
  remaining : List UInt8
  connection : ℕ
deriving DecidableEq

/-- A connection: the frames whose writes were started on it, and what it has carried. -/
structure Connection where
  begun : List Frame := []
  wire : List UInt8 := []

structure ChatServerChannel where
  connected : Bool := false
  stopped : Bool := false
  queue : List Frame := []
  /-- The outstanding writes that were started since the queue was cleared. -/
  writes : List Write := []
  /-- The outstanding writes that were started before that. -/
  late : List Write := []
  resolving : ℕ := 0
  connecting : ℕ := 0
  reading : ℕ := 0
  waiting : ℕ := 0
  /-- The socket is the one of the current connection, and open. -/
  linked : Bool := false
  past : List Connection := []
  current : Connection := {}
  /-- The envelopes that `send` has accepted. -/
  accepted : List Chat.ChatEnvelope := []

namespace ChatServerChannel

/-- Start to write a frame; a socket that is not connected takes nothing of it. -/
def asyncWrite (frame : Frame) (c : ChatServerChannel) : ChatServerChannel :=
  { c with
    writes := c.writes ++ [⟨frame, frame.bytes, c.past.length⟩]
    current := if c.linked then { c.current with begun := c.current.begun ++ [frame] }
      else c.current }

def doWrite (c : ChatServerChannel) : ChatServerChannel :=
  match c.queue with
  | [] => c
  | frame :: _ => if c.connected then c.asyncWrite frame else c

def send (P : ProtoMessage Chat.ChatEnvelope) (envelope : Chat.ChatEnvelope)
    (c : ChatServerChannel) : ChatServerChannel :=
  let wasIdle := c.queue.isEmpty
  let c := { c with
    queue := c.queue ++ [⟨c.accepted.length, encode P envelope⟩]
    accepted := c.accepted ++ [envelope] }
  if wasIdle then c.doWrite else c

def sendSessionCreated (P : ProtoMessage Chat.ChatEnvelope) (sessionId : String)
    (players : List Chat.PlayerInfo) (c : ChatServerChannel) : ChatServerChannel :=
  if c.connected then c.send P (.sessionCreated ⟨sessionId, players⟩) else c

def sendSessionEnded (P : ProtoMessage Chat.ChatEnvelope) (sessionId : String)
    (c : ChatServerChannel) : ChatServerChannel :=
  if c.connected then c.send P (.sessionEnded ⟨sessionId⟩) else c

/-- `close`; the reads and writes that are outstanding still complete. -/
def close (c : ChatServerChannel) : ChatServerChannel :=
  if c.connected then
    { c with
      connected := false
      queue := []
      writes := []
      late := c.late ++ c.writes
      linked := false }
  else c

def doResolveAndConnect (c : ChatServerChannel) : ChatServerChannel :=
  if c.stopped then c else { c with resolving := c.resolving + 1 }

def doConnect (c : ChatServerChannel) : ChatServerChannel :=
  if c.stopped then c else { c with connecting := c.connecting + 1 }

/-- `expires_after` cancels the wait that is outstanding, whose handler still runs. -/
def scheduleReconnect (c : ChatServerChannel) : ChatServerChannel :=
  if c.stopped then c else { c with waiting := c.waiting + 1 }

def doRead (c : ChatServerChannel) : ChatServerChannel :=
  { c with reading := c.reading + 1 }

def start (c : ChatServerChannel) : ChatServerChannel :=
  c.doResolveAndConnect

def stop (c : ChatServerChannel) : ChatServerChannel :=
  { c with stopped := true }.close

/-!
## Completion handlers
-/

def onResolved (failed : Bool) (c : ChatServerChannel) : ChatServerChannel :=
  let c := { c with resolving := c.resolving - 1 }
  if failed then c.scheduleReconnect else c.doConnect

def onConnected (failed : Bool) (c : ChatServerChannel) : ChatServerChannel :=
  let c := { c with connecting := c.connecting - 1 }
  if failed then c.scheduleReconnect
  else
    { c with
      connected := true
      linked := true
      past := c.past ++ [c.current]
      current := {} }.doRead

/-- The handler of a wait on the reconnect timer; it puts a new socket in the place of
the old one. -/
def onReconnect (cancelled : Bool) (c : ChatServerChannel) : ChatServerChannel :=
  let c := { c with waiting := c.waiting - 1 }
  if cancelled || c.stopped then c else { c with linked := false }.doResolveAndConnect

def onRead (failed : Bool) (c : ChatServerChannel) : ChatServerChannel :=
  let c := { c with reading := c.reading - 1 }
  if failed then c.close.scheduleReconnect else c.doRead

/-- The handler of a write, which is no longer outstanding; there is nothing to pop off an
empty queue. -/
def onWritten (failed : Bool) (c : ChatServerChannel) : Option ChatServerChannel :=
  if failed then some c.close.scheduleReconnect
  else
    match c.queue with
    | [] => none
    | _ :: queue =>
        let c := { c with queue := queue }
        some (if queue.isEmpty then c else c.doWrite)

/-- The socket takes up to `n` bytes of a write on its connection. -/
def transfer (w : Write) (n : ℕ) (c : ChatServerChannel) : ChatServerChannel :=
  { c with
    writes := { w with remaining := w.remaining.drop n } :: c.writes.erase w
    current := { c.current with wire := c.current.wire ++ w.remaining.take n } }

/-- What may happen to the channel: calls, completions, and the socket taking bytes. -/
inductive Event
  | start
  | stop
  | sessionCreated (sessionId : String) (players : List Chat.PlayerInfo)
  | sessionEnded (sessionId : String)
  | resolved (failed : Bool)
  | connected (failed : Bool)
  | reconnect (cancelled : Bool)
  | read (failed : Bool)
  | transfer (w : Write) (n : ℕ)
  | written (w : Write) (failed : Bool)
  | writtenLate (w : Write) (failed : Bool)

/-- A handler runs for an operation that is outstanding, and a write has succeeded once
the socket has taken all of it. -/
def Enabled (c : ChatServerChannel) : Event → Prop
  | .resolved _ => 0 < c.resolving
  | .connected _ => 0 < c.connecting
  | .reconnect _ => 0 < c.waiting
  | .read _ => 0 < c.reading
  | .transfer w _ => w ∈ c.writes ∧ c.linked = true ∧ w.connection = c.past.length
  | .written w failed => w ∈ c.writes ∧ (failed = true ∨ w.remaining = [])
  | .writtenLate w failed => w ∈ c.late ∧ (failed = true ∨ w.remaining = [])
  | _ => True

instance (c : ChatServerChannel) : (e : Event) → Decidable (c.Enabled e)
  | .start | .stop | .sessionCreated _ _ | .sessionEnded _ =>
      inferInstanceAs (Decidable True)
  | .resolved _ => inferInstanceAs (Decidable (0 < c.resolving))
  | .connected _ => inferInstanceAs (Decidable (0 < c.connecting))
  | .reconnect _ => inferInstanceAs (Decidable (0 < c.waiting))
  | .read _ => inferInstanceAs (Decidable (0 < c.reading))
  | .transfer _ _ | .written _ _ | .writtenLate _ _ =>
      inferInstanceAs (Decidable (_ ∧ _))

def act (P : ProtoMessage Chat.ChatEnvelope) (c : ChatServerChannel) :
    Event → Option ChatServerChannel
  | .start => some c.start
  | .stop => some c.stop
  | .sessionCreated sessionId players => some (c.sendSessionCreated P sessionId players)
  | .sessionEnded sessionId => some (c.sendSessionEnded P sessionId)
  | .resolved failed => some (c.onResolved failed)
  | .connected failed => some (c.onConnected failed)
  | .reconnect cancelled => some (c.onReconnect cancelled)
  | .read failed => some (c.onRead failed)
  | .transfer w n => some (c.transfer w n)
  | .written w failed => { c with writes := c.writes.erase w }.onWritten failed
  | .writtenLate w failed => { c with late := c.late.erase w }.onWritten failed

/-- One handler, or one call from elsewhere. -/
def step (P : ProtoMessage Chat.ChatEnvelope) (c : ChatServerChannel) (e : Event) :
    Option ChatServerChannel :=
  if c.Enabled e then c.act P e else none

/-!
## Order on the channel
-/

/-- The write that has succeeded. -/
def Event.completed : Event → Option Write
  | .written w false => some w
  | .writtenLate w false => some w
  | _ => none

/-- No write succeeds whose frame the queue has lost to `close`. -/
def Event.inTime : Event → Bool
  | .writtenLate _ false => false
  | _ => true

/-- A write that has succeeded takes its own frame off the queue. Whatever has arrived of
each connection, the whole frames in it are among those that have been sent, in order. -/
structure Orderly (P : ProtoMessage Chat.ChatEnvelope) (ok : Event → Bool)
    (c : ChatServerChannel) : Prop where
  pops : ∀ e w, e.completed = some w → c.Enabled e → ok e = true →
    ∃ c', c.act P e = some c' ∧ c.queue = w.frame :: c'.queue
  received : ∀ streams,
    List.Forall₂ (fun x connection => x <+: connection.wire) streams (c.past ++ [c.current]) →
      (streams.flatMap framing.frames).Sublist (c.accepted.map (encode P))

/-- Every run whose steps meet `ok` is orderly. -/
def StaysOrderly (P : ProtoMessage Chat.ChatEnvelope) (ok : Event → Bool) : Prop :=
  ∀ es c, Run (Guarded (fun _ => ok) fun c e c' => step P c e = some c') {} es c →
    Orderly P ok c

/-- The frames whose writes were started, on all connections. -/
def begun (c : ChatServerChannel) : List Frame :=
  c.past.flatMap Connection.begun ++ c.current.begun

/-- What the writes still owe to the current connection. -/
def owed (c : ChatServerChannel) : List UInt8 :=
  c.writes.flatMap fun w => if w.connection = c.past.length then w.remaining else []

/-- The outbox has the queue and the writes of the channel, and has started what was
started since `older`. -/
structure Mirrors (older : List Frame) (o : Outbox Frame) (c : ChatServerChannel) :
    Prop where
  queue : o.queue = c.queue
  inFlight : o.inFlight = c.writes.map Write.frame
  begun : c.begun.Sublist (older ++ o.handed)

/-- The envelopes that have been accepted since the queue was cleared are those of an
outbox. -/
def Framed (P : ProtoMessage Chat.ChatEnvelope) (c : ChatServerChannel) : Prop :=
  ∃ older frames o, Outbox.Accounts o frames ∧ c.Mirrors older o ∧
    (older ++ frames).map Frame.bytes = c.accepted.map (encode P)

/-- Each connection has carried what its frames begin with, and the current one lacks
what the outstanding writes owe to it. -/
structure Wired (c : ChatServerChannel) : Prop where
  known : ∀ w ∈ c.writes, w.connection ≤ c.past.length
  wires : ∀ connection ∈ c.past ++ [c.current],
    connection.wire <+: connection.begun.flatMap Frame.bytes
  carried : c.linked = true → c.current.wire ++ c.owed = c.current.begun.flatMap Frame.bytes

/-- What holds of the channel between two handlers. -/
structure Invariant (P : ProtoMessage Chat.ChatEnvelope) (c : ChatServerChannel) :
    Prop where
  framed : c.Framed P
  connected : c.queue ≠ [] → c.connected = true
  wired : c.Wired

section write

variable {P : ProtoMessage Chat.ChatEnvelope} {c : ChatServerChannel} {older : List Frame}
  {o : Outbox Frame}

theorem queue_doWrite (c : ChatServerChannel) : c.doWrite.queue = c.queue := by
  unfold doWrite
  split
  · rfl
  · split
    · rfl
    · rfl

/-- What the handler of a write that has succeeded does where the queue is not empty. -/
theorem onWritten_of_queue {frame : Frame} {queue : List Frame} (h : c.queue = frame :: queue) :
    c.onWritten false = some (if queue.isEmpty then { c with queue := queue }
      else { c with queue := queue }.doWrite) := by
  unfold onWritten
  rw [if_neg Bool.false_ne_true, h]

theorem begun_asyncWrite (frame : Frame) (c : ChatServerChannel) :
    (c.asyncWrite frame).begun = if c.linked then c.begun ++ [frame] else c.begun := by
  unfold asyncWrite begun
  split
  · exact (List.append_assoc _ _ _).symm
  · rfl

theorem owed_asyncWrite (frame : Frame) (c : ChatServerChannel) :
    (c.asyncWrite frame).owed = c.owed ++ frame.bytes := by
  unfold asyncWrite owed
  rw [List.flatMap_append, List.flatMap_singleton, if_pos rfl]

theorem Mirrors.doWrite (h : c.Mirrors older o) (hconnected : c.queue ≠ [] → c.connected = true) :
    c.doWrite.Mirrors older o.write := by
  have hqueue := h.queue
  unfold ChatServerChannel.doWrite Outbox.write
  cases hc : c.queue with
  | nil =>
      rw [hqueue, hc]
      exact h
  | cons frame queue =>
      rw [hqueue, hc]
      simp only
      rw [if_pos (hconnected (by rw [hc]; exact List.cons_ne_nil _ _))]
      constructor
      · exact hc.symm
      · rw [h.inFlight]
        unfold asyncWrite
        rw [List.map_append]
        rfl
      · rw [begun_asyncWrite, ← List.append_assoc]
        split
        · exact h.begun.append (List.Sublist.refl _)
        · exact h.begun.trans (List.sublist_append_left _ _)

theorem Wired.asyncWrite (h : c.Wired) (frame : Frame) : (c.asyncWrite frame).Wired := by
  constructor
  · intro w hw
    rcases List.mem_append.1 hw with hw | hw
    · exact h.known w hw
    · rw [List.mem_singleton.1 hw]
      exact Nat.le_refl c.past.length
  · intro connection hconnection
    rcases List.mem_append.1 hconnection with hmem | hmem
    · exact h.wires connection (List.mem_append_left _ hmem)
    · have hcurrent := h.wires c.current (List.mem_append_right _ (List.mem_singleton_self _))
      rw [List.mem_singleton.1 hmem]
      unfold ChatServerChannel.asyncWrite
      simp only
      split
      · rw [List.flatMap_append]
        exact hcurrent.trans (List.prefix_append _ _)
      · exact hcurrent
  · intro hlinked
    have hcarried := h.carried hlinked
    rw [owed_asyncWrite, ← List.append_assoc]
    unfold ChatServerChannel.asyncWrite
    have hl : c.linked = true := hlinked
    simp only [hl, if_true]
    rw [hcarried, List.flatMap_append, List.flatMap_singleton]

theorem Wired.doWrite (h : c.Wired) : c.doWrite.Wired := by
  unfold ChatServerChannel.doWrite
  split
  · exact h
  · split
    · exact h.asyncWrite _
    · exact h

theorem connected_doWrite (c : ChatServerChannel) : c.doWrite.connected = c.connected := by
  unfold doWrite
  split
  · rfl
  · split
    · rfl
    · rfl

theorem accepted_doWrite (c : ChatServerChannel) : c.doWrite.accepted = c.accepted := by
  unfold doWrite
  split
  · rfl
  · split
    · rfl
    · rfl

theorem connected_send (envelope : Chat.ChatEnvelope) (c : ChatServerChannel) :
    (c.send P envelope).connected = c.connected := by
  unfold send
  simp only
  split
  · exact connected_doWrite _
  · rfl

theorem accepted_send (envelope : Chat.ChatEnvelope) (c : ChatServerChannel) :
    (c.send P envelope).accepted = c.accepted ++ [envelope] := by
  unfold send
  simp only
  split
  · exact accepted_doWrite _
  · rfl

theorem Mirrors.send (h : c.Mirrors older o) (envelope : Chat.ChatEnvelope)
    (hconnected : c.connected = true) :
    (c.send P envelope).Mirrors older (o.push ⟨c.accepted.length, encode P envelope⟩) := by
  have hpushed : Mirrors older
      { o with queue := o.queue ++ [⟨c.accepted.length, encode P envelope⟩] }
      { c with
        queue := c.queue ++ [⟨c.accepted.length, encode P envelope⟩]
        accepted := c.accepted ++ [envelope] } :=
    ⟨congrArg (· ++ _) h.queue, h.inFlight, h.begun⟩
  have hidle : o.queue.isEmpty = c.queue.isEmpty := congrArg List.isEmpty h.queue
  unfold ChatServerChannel.send Outbox.push
  simp only
  rw [hidle]
  split
  · exact hpushed.doWrite fun _ => hconnected
  · exact hpushed

theorem Wired.send (h : c.Wired) (envelope : Chat.ChatEnvelope) : (c.send P envelope).Wired := by
  have hpushed : Wired { c with
      queue := c.queue ++ [⟨c.accepted.length, encode P envelope⟩]
      accepted := c.accepted ++ [envelope] } :=
    ⟨h.known, h.wires, h.carried⟩
  unfold ChatServerChannel.send
  simp only
  split
  · exact hpushed.doWrite
  · exact hpushed

end write

/-- What has arrived of some connections is cut into frames whose writes were started on
them. -/
theorem frames_sublist {streams : List (List UInt8)} {connections : List Connection}
    (hstreams : List.Forall₂ (fun x connection => x <+: connection.wire) streams connections)
    (hwires : ∀ connection ∈ connections,
      connection.wire <+: connection.begun.flatMap Frame.bytes)
    (hwhole : ∀ f ∈ (connections.flatMap Connection.begun).map Frame.bytes,
      framing.IsFrame f) :
    (streams.flatMap framing.frames).Sublist
      ((connections.flatMap Connection.begun).map Frame.bytes) := by
  induction hstreams with
  | nil => exact List.Sublist.refl _
  | @cons x connection streams connections hx _ ih =>
      rw [List.flatMap_cons, List.map_append] at hwhole
      rw [List.flatMap_cons, List.flatMap_cons, List.map_append]
      have hfirst : framing.frames x <+: connection.begun.map Frame.bytes := by
        apply framing.frames_prefix_of_prefix_flatten
          fun f hf => hwhole f (List.mem_append_left _ hf)
        rw [← List.flatMap_def]
        exact hx.trans (hwires connection List.mem_cons_self)
      have hrest := ih (fun connection hmem => hwires connection (List.mem_cons_of_mem _ hmem))
        fun f hf => hwhole f (List.mem_append_right _ hf)
      exact hfirst.sublist.append hrest

namespace Invariant

variable {P : ProtoMessage Chat.ChatEnvelope} {c c' : ChatServerChannel} {w : Write}

theorem initial : Invariant P {} where
  framed := ⟨[], [], {}, Outbox.Accounts.empty, ⟨rfl, rfl, List.Sublist.refl _⟩, rfl⟩
  connected h := absurd rfl h
  wired := by
    constructor
    · intro w hw
      cases hw
    · intro connection hconnection
      rw [List.mem_singleton.1 hconnection]
      exact List.prefix_refl _
    · intro _
      rfl

/-- At most one write is outstanding since the queue was cleared, and it is the one of the
first frame. -/
theorem writes_eq (h : Invariant P c) (hw : w ∈ c.writes) :
    c.writes = [w] ∧ ∃ queue, c.queue = w.frame :: queue := by
  obtain ⟨older, frames, o, haccounts, hmirrors, -⟩ := h.framed
  have hone := haccounts.length_inFlight_le
  have hframe : w.frame ∈ o.inFlight := by
    rw [hmirrors.inFlight]
    exact List.mem_map_of_mem hw
  rw [hmirrors.inFlight, List.length_map] at hone
  constructor
  · obtain ⟨v, hv⟩ := List.length_eq_one_iff.1 (Nat.le_antisymm hone (List.length_pos_of_mem hw))
    rw [hv] at hw ⊢
    rw [List.mem_singleton.1 hw]
  · rw [← hmirrors.queue]
    exact haccounts.queue_of_mem hframe

theorem send (h : Invariant P c) (hconnected : c.connected = true)
    (envelope : Chat.ChatEnvelope) : Invariant P (c.send P envelope) := by
  obtain ⟨older, frames, o, haccounts, hmirrors, hbytes⟩ := h.framed
  let frame : Frame := ⟨c.accepted.length, encode P envelope⟩
  constructor
  · refine ⟨older, frames ++ [frame], o.push frame, haccounts.push frame,
      hmirrors.send envelope hconnected, ?_⟩
    calc (older ++ (frames ++ [frame])).map Frame.bytes
        = (older ++ frames).map Frame.bytes ++ [frame.bytes] := by
          rw [← List.append_assoc, List.map_append]
          rfl
      _ = (c.send P envelope).accepted.map (encode P) := by
          rw [hbytes, accepted_send, List.map_append]
          rfl
  · intro _
    rw [connected_send]
    exact hconnected
  · exact h.wired.send envelope

/-- A channel whose queue has been cleared, its socket closed with it. -/
theorem cleared (h : Invariant P c) (late : List Write) :
    Invariant P { c with
      connected := false
      queue := []
      writes := []
      late := late
      linked := false } := by
  obtain ⟨older, frames, o, haccounts, hmirrors, hbytes⟩ := h.framed
  constructor
  · refine ⟨older ++ frames, [], {}, Outbox.Accounts.empty, ⟨rfl, rfl, ?_⟩, ?_⟩
    · rw [List.append_nil]
      have hhanded := haccounts.handed_prefix.sublist
      exact hmirrors.begun.trans ((List.Sublist.refl older).append hhanded)
    · rw [List.append_nil]
      exact hbytes
  · exact fun hqueue => absurd rfl hqueue
  · constructor
    · intro w hw
      cases hw
    · exact h.wired.wires
    · intro hlinked
      cases hlinked

theorem close (h : Invariant P c) : Invariant P c.close := by
  unfold ChatServerChannel.close
  split
  · exact h.cleared _
  · exact h

/-- The invariant does not depend on the reads and waits that are outstanding, nor on the
writes that are late. -/
theorem others (h : Invariant P c) (stopped : Bool) (late : List Write)
    (resolving connecting reading waiting : ℕ) :
    Invariant P { c with
      stopped := stopped
      late := late
      resolving := resolving
      connecting := connecting
      reading := reading
      waiting := waiting } := by
  obtain ⟨older, frames, o, haccounts, hmirrors, hbytes⟩ := h.framed
  constructor
  · exact ⟨older, frames, o, haccounts,
      ⟨hmirrors.queue, hmirrors.inFlight, hmirrors.begun⟩, hbytes⟩
  · exact h.connected
  · exact ⟨h.wired.known, h.wired.wires, h.wired.carried⟩

theorem scheduleReconnect (h : Invariant P c) : Invariant P c.scheduleReconnect := by
  unfold ChatServerChannel.scheduleReconnect
  split
  · exact h
  · exact h.others _ _ _ _ _ _

theorem doResolveAndConnect (h : Invariant P c) : Invariant P c.doResolveAndConnect := by
  unfold ChatServerChannel.doResolveAndConnect
  split
  · exact h
  · exact h.others _ _ _ _ _ _

theorem doConnect (h : Invariant P c) : Invariant P c.doConnect := by
  unfold ChatServerChannel.doConnect
  split
  · exact h
  · exact h.others _ _ _ _ _ _

theorem doRead (h : Invariant P c) : Invariant P c.doRead :=
  h.others _ _ _ _ _ _

theorem onResolved (h : Invariant P c) (failed : Bool) : Invariant P (c.onResolved failed) := by
  have hdone : Invariant P { c with resolving := c.resolving - 1 } :=
    h.others _ _ _ _ _ _
  unfold ChatServerChannel.onResolved
  simp only
  split
  · exact hdone.scheduleReconnect
  · exact hdone.doConnect

theorem onRead (h : Invariant P c) (failed : Bool) : Invariant P (c.onRead failed) := by
  have hdone : Invariant P { c with reading := c.reading - 1 } :=
    h.others _ _ _ _ _ _
  unfold ChatServerChannel.onRead
  simp only
  split
  · exact hdone.close.scheduleReconnect
  · exact hdone.doRead

/-- A new connection has carried nothing, and no write is for it. -/
theorem onConnected (h : Invariant P c) (failed : Bool) :
    Invariant P (c.onConnected failed) := by
  have hdone : Invariant P { c with connecting := c.connecting - 1 } :=
    h.others _ _ _ _ _ _
  unfold ChatServerChannel.onConnected
  simp only
  split
  · exact hdone.scheduleReconnect
  · apply doRead
    obtain ⟨older, frames, o, haccounts, hmirrors, hbytes⟩ := h.framed
    constructor
    · refine ⟨older, frames, o, haccounts, ⟨hmirrors.queue, hmirrors.inFlight, ?_⟩, hbytes⟩
      have hbegun := hmirrors.begun
      unfold begun at hbegun ⊢
      rw [List.flatMap_append, List.flatMap_singleton, List.append_nil]
      exact hbegun
    · exact fun _ => rfl
    · constructor
      · intro w hw
        rw [List.length_append]
        exact (h.wired.known w hw).trans (Nat.le_add_right _ _)
      · intro connection hconnection
        rcases List.mem_append.1 hconnection with hmem | hmem
        · exact h.wired.wires connection hmem
        · rw [List.mem_singleton.1 hmem]
          exact List.prefix_refl _
      · intro _
        unfold owed
        rw [List.nil_append, List.flatMap_nil, List.flatMap_eq_nil_iff]
        intro w hw
        apply if_neg
        have hle := h.wired.known w hw
        rw [List.length_append]
        exact (Nat.lt_succ_of_le hle).ne

theorem onReconnect (h : Invariant P c) (cancelled : Bool) :
    Invariant P (c.onReconnect cancelled) := by
  have hdone : Invariant P { c with waiting := c.waiting - 1 } :=
    h.others _ _ _ _ _ _
  unfold ChatServerChannel.onReconnect
  simp only
  split
  · exact hdone
  · apply doResolveAndConnect
    obtain ⟨older, frames, o, haccounts, hmirrors, hbytes⟩ := hdone.framed
    constructor
    · exact ⟨older, frames, o, haccounts,
        ⟨hmirrors.queue, hmirrors.inFlight, hmirrors.begun⟩, hbytes⟩
    · exact h.connected
    · refine ⟨h.wired.known, h.wired.wires, ?_⟩
      intro hlinked
      cases hlinked

theorem transfer (h : Invariant P c) (hw : w ∈ c.writes) (hlinked : c.linked = true)
    (hconnection : w.connection = c.past.length) (n : ℕ) : Invariant P (c.transfer w n) := by
  obtain ⟨older, frames, o, haccounts, hmirrors, hbytes⟩ := h.framed
  have hwrites := (h.writes_eq hw).1
  have hleft : (c.transfer w n).writes = [{ w with remaining := w.remaining.drop n }] := by
    unfold ChatServerChannel.transfer
    rw [hwrites, List.erase_cons_head]
  have hcarried := h.wired.carried hlinked
  have howed : c.owed = w.remaining := by
    unfold owed
    rw [hwrites, List.flatMap_singleton, if_pos hconnection]
  have hafter : (c.transfer w n).current.wire ++ (c.transfer w n).owed =
      c.current.begun.flatMap Frame.bytes := by
    have howed' : (c.transfer w n).owed = w.remaining.drop n := by
      unfold owed
      rw [hleft, List.flatMap_singleton]
      exact if_pos hconnection
    calc (c.transfer w n).current.wire ++ (c.transfer w n).owed
        = c.current.wire ++ (w.remaining.take n ++ w.remaining.drop n) := by
          rw [howed']
          exact List.append_assoc _ _ _
      _ = c.current.begun.flatMap Frame.bytes := by
          rw [List.take_append_drop, ← howed, hcarried]
  constructor
  · refine ⟨older, frames, o, haccounts, ⟨hmirrors.queue, ?_, hmirrors.begun⟩, hbytes⟩
    rw [hmirrors.inFlight, hleft, hwrites]
    rfl
  · exact h.connected
  · constructor
    · intro v hv
      rw [hleft, List.mem_singleton] at hv
      rw [hv]
      exact hconnection.le
    · intro connection hmem
      rcases List.mem_append.1 hmem with hmem | hmem
      · exact h.wired.wires connection (List.mem_append_left _ hmem)
      · rw [List.mem_singleton.1 hmem]
        exact ⟨_, hafter⟩
    · exact fun _ => hafter

theorem stop (h : Invariant P c) : Invariant P c.stop := by
  apply close
  exact h.others _ _ _ _ _ _

/-- A write that fails has its frame still in the queue, which is cleared. -/
theorem onWritten_failed (h : Invariant P c) (hw : w ∈ c.writes) :
    Invariant P ({ c with writes := c.writes.erase w }.close.scheduleReconnect) := by
  obtain ⟨hwrites, queue, hqueue⟩ := h.writes_eq hw
  have hconnected := h.connected (by rw [hqueue]; exact List.cons_ne_nil _ _)
  apply scheduleReconnect
  unfold ChatServerChannel.close
  rw [if_pos hconnected]
  exact h.cleared _

/-- A write that succeeds has carried its frame, which is the first one in the queue. -/
theorem onWritten_succeeded (h : Invariant P c) (hw : w ∈ c.writes) (hall : w.remaining = [])
    (hstep : { c with writes := c.writes.erase w }.onWritten false = some c') :
    Invariant P c' := by
  obtain ⟨older, frames, o, haccounts, hmirrors, hbytes⟩ := h.framed
  obtain ⟨hwrites, queue, hqueue⟩ := h.writes_eq hw
  have hconnected := h.connected (by rw [hqueue]; exact List.cons_ne_nil _ _)
  have hframe : w.frame ∈ o.inFlight := by
    rw [hmirrors.inFlight]
    exact List.mem_map_of_mem hw
  have hidle : (o.settle w.frame).inFlight = [] := haccounts.inFlight_settle hframe
  obtain ⟨o', hpop⟩ := haccounts.exists_pop hframe
  have hpopped := (haccounts.settle hframe).pop hidle hpop
  have hoqueue : (o.settle w.frame).queue = w.frame :: queue := hmirrors.queue.trans hqueue
  rw [hwrites, List.erase_cons_head] at hstep
  unfold Outbox.pop at hpop
  rw [hoqueue] at hpop
  obtain rfl := Option.some.inj
    ((onWritten_of_queue (c := { c with writes := [] }) hqueue).symm.trans hstep)
  obtain rfl := Option.some.inj hpop
  -- without its write and its first frame the channel is one that may go on to write
  have hnext : Mirrors older { o.settle w.frame with queue := queue }
      { c with writes := [], queue := queue } :=
    ⟨rfl, hidle, hmirrors.begun⟩
  have hwired : Wired { c with writes := [], queue := queue } := by
    constructor
    · intro v hv
      cases hv
    · exact h.wired.wires
    · intro hlinked
      have hcarried := h.wired.carried hlinked
      have howed : c.owed = [] := by
        unfold owed
        rw [hwrites, List.flatMap_singleton, hall, ite_self]
      rw [howed] at hcarried
      exact hcarried
  simp only at hpopped ⊢
  split
  · next hempty =>
      rw [if_pos hempty] at hpopped
      exact ⟨⟨older, frames, _, hpopped, hnext, hbytes⟩, fun _ => hconnected, hwired⟩
  · next hmore =>
      rw [if_neg hmore] at hpopped
      constructor
      · refine ⟨older, frames, _, hpopped, hnext.doWrite fun _ => hconnected, ?_⟩
        rw [accepted_doWrite]
        exact hbytes
      · intro _
        rw [connected_doWrite]
        exact hconnected
      · exact hwired.doWrite

/-- Every handler and every call keeps the invariant, as long as no write succeeds late. -/
theorem step {e : Event} (h : Invariant P c) (hstep : ChatServerChannel.step P c e = some c')
    (htime : e.inTime = true) : Invariant P c' := by
  obtain ⟨henabled, hact⟩ := Option.ite_none_right_eq_some.1 hstep
  cases e with
  | start =>
      obtain rfl := Option.some.inj hact
      exact h.doResolveAndConnect
  | stop =>
      obtain rfl := Option.some.inj hact
      exact h.stop
  | sessionCreated sessionId players =>
      obtain rfl := Option.some.inj hact
      unfold sendSessionCreated
      split
      · next hconnected => exact h.send hconnected _
      · exact h
  | sessionEnded sessionId =>
      obtain rfl := Option.some.inj hact
      unfold sendSessionEnded
      split
      · next hconnected => exact h.send hconnected _
      · exact h
  | resolved failed =>
      obtain rfl := Option.some.inj hact
      exact h.onResolved failed
  | connected failed =>
      obtain rfl := Option.some.inj hact
      exact h.onConnected failed
  | reconnect cancelled =>
      obtain rfl := Option.some.inj hact
      exact h.onReconnect cancelled
  | read failed =>
      obtain rfl := Option.some.inj hact
      exact h.onRead failed
  | transfer w n =>
      obtain rfl := Option.some.inj hact
      exact h.transfer henabled.1 henabled.2.1 henabled.2.2 n
  | written w failed =>
      cases failed with
      | true =>
          obtain rfl := Option.some.inj hact
          exact h.onWritten_failed henabled.1
      | false =>
          have hall := henabled.2.resolve_left Bool.false_ne_true
          exact h.onWritten_succeeded henabled.1 hall hact
  | writtenLate w failed =>
      cases failed with
      | true =>
          obtain rfl := Option.some.inj hact
          apply scheduleReconnect
          apply close
          exact h.others _ _ _ _ _ _
      | false => cases htime

/-- The whole frames that have arrived are among those that have been sent. -/
theorem received (h : Invariant P c) {streams : List (List UInt8)}
    (hstreams : List.Forall₂ (fun x connection => x <+: connection.wire) streams
      (c.past ++ [c.current])) :
    (streams.flatMap framing.frames).Sublist (c.accepted.map (encode P)) := by
  obtain ⟨older, frames, o, haccounts, hmirrors, hbytes⟩ := h.framed
  have hbegun : (c.begun.map Frame.bytes).Sublist (c.accepted.map (encode P)) := by
    rw [← hbytes]
    apply List.Sublist.map
    have hhanded := haccounts.handed_prefix.sublist
    exact hmirrors.begun.trans ((List.Sublist.refl older).append hhanded)
  have hall : c.begun = (c.past ++ [c.current]).flatMap Connection.begun := by
    unfold begun
    rw [List.flatMap_append, List.flatMap_singleton]
  refine (frames_sublist hstreams h.wired.wires ?_).trans (hall ▸ hbegun)
  intro f hf
  rw [← hall] at hf
  obtain ⟨m, -, rfl⟩ := List.mem_map.1 (hbegun.subset hf)
  exact encode_isFrame P m

theorem orderly (h : Invariant P c) : Orderly P Event.inTime c := by
  constructor
  · intro e w hcompleted henabled htime
    unfold Event.completed at hcompleted
    split at hcompleted
    · next v =>
        obtain rfl := Option.some.inj hcompleted
        obtain ⟨-, queue, hqueue⟩ := h.writes_eq henabled.1
        refine ⟨_, onWritten_of_queue hqueue, ?_⟩
        rw [hqueue]
        split
        · rfl
        · rw [queue_doWrite]
    · cases htime
    · cases hcompleted
  · exact fun _ hstreams => h.received hstreams

end Invariant

/-- Where no write succeeds after its queue has been cleared, every run is orderly. -/
theorem staysOrderly_inTime (P : ProtoMessage Chat.ChatEnvelope) :
    StaysOrderly P Event.inTime := by
  intro es c hrun
  refine (hrun.invariant (I := Invariant P) ?_ Invariant.initial).orderly
  intro c e c' hstep h
  exact h.step hstep.1 hstep.2

/-- The message class, for the end of a session `s`. -/
def endedClass : ProtoMessage Chat.ChatEnvelope :=
  tableClass Chat.ChatEnvelope.fields [.sessionEnded ⟨"s"⟩]

def endedFrame : Frame :=
  ⟨0, encode endedClass (.sessionEnded ⟨"s"⟩)⟩

/-- The end of a session is written, and the write succeeds. -/
theorem staysOrderly_inTime_written : ∃ c c',
    Run (Guarded (fun _ => Event.inTime) fun c e c' => step endedClass c e = some c') {}
      [.start, .resolved false, .connected false, .sessionEnded "s",
        .transfer ⟨endedFrame, endedFrame.bytes, 1⟩ 10] c ∧
    c.act endedClass (.written ⟨endedFrame, [], 1⟩ false) = some c' ∧
    c.queue = endedFrame :: c'.queue := by
  obtain ⟨c, hrun, hwrites⟩ := exists_run_of_exec (fun _ => Event.inTime) (step endedClass) {}
    [.start, .resolved false, .connected false, .sessionEnded "s",
      .transfer ⟨endedFrame, endedFrame.bytes, 1⟩ 10]
    (fun c => decide (c.writes = [⟨endedFrame, [], 1⟩])) (by decide)
  have henabled : c.Enabled (.written ⟨endedFrame, [], 1⟩ false) := by
    constructor
    · rw [of_decide_eq_true hwrites]
      exact List.mem_singleton_self _
    · exact Or.inr rfl
  obtain ⟨c', hact, hpopped⟩ := (staysOrderly_inTime endedClass _ c hrun).pops _ _ rfl henabled rfl
  exact ⟨c, c', hrun, hact, hpopped⟩

/-- The Chat Server goes while the end of a session is written; the read handler clears the
queue, and the handler of the write finds it empty. -/
theorem not_staysOrderly_lateWrite : ¬ StaysOrderly endedClass fun _ => true := by
  intro h
  obtain ⟨c, hrun, hstate⟩ := exists_run_of_exec (fun _ _ => true) (step endedClass) {}
    [.start, .resolved false, .connected false, .sessionEnded "s",
      .transfer ⟨endedFrame, endedFrame.bytes, 1⟩ 10, .read true]
    (fun c => decide (c.queue = [] ∧ c.late = [⟨endedFrame, [], 1⟩])) (by decide)
  obtain ⟨hqueue, hlate⟩ := of_decide_eq_true hstate
  have henabled : c.Enabled (.writtenLate ⟨endedFrame, [], 1⟩ false) := by
    constructor
    · rw [hlate]
      exact List.mem_singleton_self _
    · exact Or.inr rfl
  obtain ⟨c', -, hpopped⟩ := (h _ c hrun).pops _ _ rfl henabled rfl
  rw [hqueue] at hpopped
  cases hpopped

/-!
## The link of the Room Server
-/

/-- What the rooms see of the channel. -/
def link (c : ChatServerChannel) : Room.ChatServerChannel :=
  ⟨c.connected, c.accepted⟩

theorem link_send {P : ProtoMessage Chat.ChatEnvelope} {b : Room.Backend}
    {c : ChatServerChannel} (h : b.chat = c.link) (envelope : Chat.ChatEnvelope) :
    (b.sendToChat envelope).chat =
      (if c.connected then c.send P envelope else c).link := by
  unfold Room.Backend.sendToChat
  rw [h]
  unfold link
  simp only
  split
  · rw [connected_send, accepted_send]
  · exact h

/-- A session that has been started is announced on the channel as on the link. -/
theorem link_sendSessionCreated {P : ProtoMessage Chat.ChatEnvelope} {b : Room.Backend}
    {c : ChatServerChannel} (h : b.chat = c.link) (sessionId : String)
    (players : List Chat.PlayerInfo) :
    (b.sendSessionCreated sessionId players).chat =
      (c.sendSessionCreated P sessionId players).link :=
  link_send h _

theorem link_sendSessionEnded {P : ProtoMessage Chat.ChatEnvelope} {b : Room.Backend}
    {c : ChatServerChannel} (h : b.chat = c.link) (sessionId : String) :
    (b.sendSessionEnded sessionId).chat = (c.sendSessionEnded P sessionId).link :=
  link_send h _

end ChatServerChannel

end Internal

end SosBackend
