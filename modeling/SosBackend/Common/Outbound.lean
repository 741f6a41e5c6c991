import SosBackend.Library.Outbox
import SosBackend.Library.Transition
import SosBackend.Protocol.Codec

/-!
# The outbound stream of a session

`ClientSession`, `GameServerSession` and `ChatSession` read and write their connection in
the same way, and differ in where they ask whether they are closed. Everything that a
session does happens in handlers that run one after the other: calls of `send` and
`close` by others, and the completions of its own reads, writes and waits. A completion
comes late or early, with success or an error, whatever the session has done in between;
what the processing of a message does to the session is up to the manager behind it.
-/

namespace SosBackend

open Protocol

/-- What tells the sessions apart: whether `send` drops what it is given on a closed
session, whether the read loop stops there, and the heartbeat timeout in seconds, zero for
none. -/
structure SessionKind where
  refusesClosed : Bool
  stopsClosed : Bool
  heartbeatTimeout : ℕ

def clientSession (heartbeatTimeout : ℕ) : SessionKind := ⟨false, true, heartbeatTimeout⟩

def gameServerSession : SessionKind := ⟨false, false, 0⟩

def chatSession (heartbeatTimeout : ℕ) : SessionKind := ⟨true, true, heartbeatTimeout⟩

/-- An encoded envelope, with how many had been accepted before it. -/
structure Frame where
  number : ℕ
  bytes : List UInt8
deriving DecidableEq

/-- A session: its codec, its write queue, and how many reads and waits on the heartbeat
timer are outstanding. -/
structure Endpoint (M : Type*) where
  codec : Codec := {}
  outbox : Outbox Frame := {}
  started : Bool := false
  closed : Bool := false
  reading : ℕ := 0
  waiting : ℕ := 0
  /-- The envelopes that `send` has accepted. -/
  accepted : List M := []

/-- What the processing of a message does to the session that has received it. -/
inductive Reaction (M : Type*)
  | send (envelope : M)
  | close

namespace Endpoint

variable {M : Type*}

def send (P : ProtoMessage M) (k : SessionKind) (envelope : M) (c : Endpoint M) : Endpoint M :=
  if k.refusesClosed && c.closed then c
  else { c with
    outbox := c.outbox.push ⟨c.accepted.length, encode P envelope⟩
    accepted := c.accepted ++ [envelope] }

/-- `close` on the session itself; what is outstanding still completes. -/
def close (c : Endpoint M) : Endpoint M :=
  if c.closed then c else { c with closed := true }

/-- `expires_after` cancels the wait that is outstanding, whose handler still runs. -/
def resetHeartbeatTimer (k : SessionKind) (c : Endpoint M) : Endpoint M :=
  if k.heartbeatTimeout = 0 then c else { c with waiting := c.waiting + 1 }

def doRead (c : Endpoint M) : Endpoint M :=
  { c with reading := c.reading + 1 }

def start (k : SessionKind) (c : Endpoint M) : Endpoint M :=
  ({ c with started := true }.resetHeartbeatTimer k).doRead

def react (P : ProtoMessage M) (k : SessionKind) (c : Endpoint M) : Reaction M → Endpoint M
  | .send envelope => c.send P k envelope
  | .close => c.close

/-- `processMessage`, with what it does to the session. -/
def processMessage (P : ProtoMessage M) (k : SessionKind) (reactions : List (Reaction M))
    (c : Endpoint M) : Endpoint M :=
  reactions.foldl (react P k) c

theorem codec_react (P : ProtoMessage M) (k : SessionKind) (c : Endpoint M)
    (r : Reaction M) : (react P k c r).codec = c.codec := by
  cases r with
  | send envelope =>
      rw [react, send]
      split
      · rfl
      · rfl
  | close =>
      rw [react, close]
      split
      · rfl
      · rfl

theorem codec_processMessage (P : ProtoMessage M) (k : SessionKind)
    (reactions : List (Reaction M)) (c : Endpoint M) :
    (c.processMessage P k reactions).codec = c.codec := by
  induction reactions generalizing c with
  | nil => rfl
  | cons r reactions ih => exact (ih (react P k c r)).trans (codec_react P k c r)

/-- The loop of the read handler, with what each message does to the session: whether the
loop has returned from the handler, and the session behind it. -/
def processBuffer (P : ProtoMessage M) (k : SessionKind)
    (reactions : List (List (Reaction M))) (c : Endpoint M) : Bool × Endpoint M :=
  match _h : tryDecode P c.codec with
  | (none, codec) => (false, { c with codec := codec })
  | (some _, codec) =>
      let next := { c with codec := codec }.processMessage P k (reactions.headD [])
      if k.stopsClosed && next.closed then (true, next)
      else next.processBuffer P k reactions.tail
termination_by c.codec.buffer.length
decreasing_by
  rw [codec_processMessage]
  exact length_tryDecode_lt _ _h

/-- The completion handler of `doRead`; a read that has failed has no data. -/
def onRead (P : ProtoMessage M) (k : SessionKind) (data : Option (List UInt8))
    (reactions : List (List (Reaction M))) (c : Endpoint M) : Endpoint M :=
  let c := { c with reading := c.reading - 1 }
  match data with
  | none => c.close
  | some chunk =>
      match { c with codec := feed c.codec chunk }.processBuffer P k reactions with
      | (true, c) => c
      | (false, c) => (c.resetHeartbeatTimer k).doRead

/-- The completion handler of `doWrite`, for the write of this frame. -/
def onWritten (frame : Frame) (failed : Bool) (c : Endpoint M) : Option (Endpoint M) :=
  let outbox := c.outbox.settle frame
  if failed then some { c with outbox := outbox }.close
  else outbox.pop.map fun outbox => { c with outbox := outbox }

/-- The handler of a wait on the heartbeat timer. -/
def onTimeout (cancelled : Bool) (c : Endpoint M) : Endpoint M :=
  let c := { c with waiting := c.waiting - 1 }
  if cancelled then c else c.close

/-- What may happen to a session. -/
inductive Event (M : Type*)
  | start
  | send (envelope : M)
  | close
  | read (data : Option (List UInt8)) (reactions : List (List (Reaction M)))
  | written (frame : Frame) (failed : Bool)
  | timeout (cancelled : Bool)

/-- One handler, or one call from elsewhere. A handler runs for an operation that is
outstanding. -/
def step (P : ProtoMessage M) (k : SessionKind) (c : Endpoint M) :
    Event M → Option (Endpoint M)
  | .start => if c.started then none else some (c.start k)
  | .send envelope => some (c.send P k envelope)
  | .close => some c.close
  | .read data reactions => if 0 < c.reading then some (c.onRead P k data reactions) else none
  | .written frame failed =>
      if frame ∈ c.outbox.inFlight then c.onWritten frame failed else none
  | .timeout cancelled => if 0 < c.waiting then some (c.onTimeout cancelled) else none

/-!
## Integrity
-/

/-- At most one write and one read are outstanding, and one read between the handlers of a
session that has been started and is open. A write that succeeds pops the frame that it
has written. What the socket has been handed is where the encoded envelopes begin that
`send` has accepted. -/
structure StreamIntegrity (P : ProtoMessage M) (c : Endpoint M) : Prop where
  one_write : c.outbox.inFlight.length ≤ 1
  one_read : c.reading ≤ 1
  reads : c.started = true → c.closed = false → c.reading = 1
  pops : ∀ frame ∈ c.outbox.inFlight, ∃ queue, c.outbox.queue = frame :: queue
  handed_prefix : c.outbox.handed.flatMap Frame.bytes <+: c.accepted.flatMap (encode P)

/-- Every run of a session of this kind keeps its stream in order. -/
def KeepsStream (P : ProtoMessage M) (k : SessionKind) : Prop :=
  ∀ es c, Run (fun c e c' => step P k c e = some c') {} es c → StreamIntegrity P c

/-- The outbox has accepted the frames of the envelopes. -/
def Framed (P : ProtoMessage M) (c : Endpoint M) : Prop :=
  ∃ frames, c.outbox.Accounts frames ∧ frames.map Frame.bytes = c.accepted.map (encode P)

/-- From `c` to `c'` the session may have sent and closed, and nothing else. -/
structure Reacts (P : ProtoMessage M) (c c' : Endpoint M) : Prop where
  reading : c'.reading = c.reading
  started : c'.started = c.started
  framed : c.Framed P → c'.Framed P

namespace Reacts

variable {P : ProtoMessage M} {k : SessionKind} {c c' c'' : Endpoint M}

theorem refl (c : Endpoint M) : Reacts P c c :=
  ⟨rfl, rfl, id⟩

theorem trans (h : Reacts P c c') (h' : Reacts P c' c'') : Reacts P c c'' where
  reading := h'.reading.trans h.reading
  started := h'.started.trans h.started
  framed := fun hc => h'.framed (h.framed hc)

theorem send (k : SessionKind) (envelope : M) (c : Endpoint M) :
    Reacts P c (c.send P k envelope) := by
  unfold Endpoint.send
  split
  · exact refl c
  · constructor
    · rfl
    · rfl
    · rintro ⟨frames, haccounts, hbytes⟩
      refine ⟨_, haccounts.push ⟨c.accepted.length, encode P envelope⟩, ?_⟩
      rw [List.map_append, List.map_append, hbytes]
      rfl

theorem close (c : Endpoint M) : Reacts P c c.close := by
  unfold Endpoint.close
  split
  · exact refl c
  · exact ⟨rfl, rfl, id⟩

theorem resetHeartbeatTimer (c : Endpoint M) : Reacts P c (c.resetHeartbeatTimer k) := by
  unfold Endpoint.resetHeartbeatTimer
  split
  · exact refl c
  · exact ⟨rfl, rfl, id⟩

theorem processMessage (reactions : List (Reaction M)) (c : Endpoint M) :
    Reacts P c (c.processMessage P k reactions) := by
  induction reactions generalizing c with
  | nil => exact refl c
  | cons r reactions ih =>
      refine trans ?_ (ih (react P k c r))
      cases r with
      | send envelope => exact send k envelope c
      | close => exact close c

theorem setCodec (c : Endpoint M) (codec : Codec) : Reacts P c { c with codec := codec } :=
  ⟨rfl, rfl, id⟩

theorem processBuffer (reactions : List (List (Reaction M))) (c : Endpoint M) :
    Reacts P c (c.processBuffer P k reactions).2 := by
  fun_induction Endpoint.processBuffer P k reactions c with
  | case1 reactions c codec _ => exact setCodec c codec
  | case2 reactions c envelope codec _ next hstop =>
      exact (setCodec c codec).trans (processMessage (reactions.headD []) _)
  | case3 reactions c envelope codec _ next hstop ih =>
      exact ((setCodec c codec).trans (processMessage (reactions.headD []) _)).trans ih

end Reacts

theorem closed_close (c : Endpoint M) : c.close.closed = true := by
  unfold close
  split
  · assumption
  · rfl

/-- The read handler returns from its loop only on a closed session. -/
theorem closed_of_processBuffer (P : ProtoMessage M) (k : SessionKind)
    (reactions : List (List (Reaction M))) (c : Endpoint M)
    (h : (c.processBuffer P k reactions).1 = true) :
    (c.processBuffer P k reactions).2.closed = true := by
  fun_induction Endpoint.processBuffer P k reactions c with
  | case1 reactions c codec _ => cases h
  | case2 reactions c envelope codec _ next hstop =>
      rw [Bool.and_eq_true] at hstop
      exact hstop.2
  | case3 reactions c envelope codec _ next hstop ih => exact ih h

/-- What holds of a session between two handlers. -/
structure Invariant (P : ProtoMessage M) (c : Endpoint M) : Prop where
  framed : c.Framed P
  one_read : c.reading ≤ 1
  idle : c.started = false → c.reading = 0
  reads : c.started = true → c.closed = false → c.reading = 1

namespace Invariant

variable {P : ProtoMessage M} {k : SessionKind} {c c' : Endpoint M}

theorem initial : Invariant P ({} : Endpoint M) where
  framed := ⟨[], Outbox.Accounts.empty, rfl⟩
  one_read := Nat.zero_le 1
  idle _ := rfl
  reads hstarted := by cases hstarted

/-- What leaves the reads alone and closes at most keeps the invariant. -/
theorem of_reads (h : Invariant P c) (hframed : c'.Framed P) (hreading : c'.reading = c.reading)
    (hstarted : c'.started = c.started) (hclosed : c.closed = true → c'.closed = true) :
    Invariant P c' := by
  constructor
  · exact hframed
  · rw [hreading]
    exact h.one_read
  · rw [hreading, hstarted]
    exact h.idle
  · rw [hreading, hstarted]
    intro hs hopen
    apply h.reads hs
    rw [← Bool.not_eq_true] at hopen ⊢
    exact fun hc => hopen (hclosed hc)

theorem send (h : Invariant P c) (envelope : M) : Invariant P (c.send P k envelope) := by
  have hreacts := Reacts.send (P := P) k envelope c
  refine h.of_reads (hreacts.framed h.framed) hreacts.reading hreacts.started ?_
  unfold Endpoint.send
  split
  · exact id
  · exact id

theorem close (h : Invariant P c) : Invariant P c.close := by
  have hreacts := Reacts.close (P := P) c
  exact h.of_reads (hreacts.framed h.framed) hreacts.reading hreacts.started
    fun _ => closed_close c

/-- A session without a read that starts one. -/
theorem doRead (hframed : c.Framed P) (hreading : c.reading = 0) (hstarted : c.started = true) :
    Invariant P c.doRead := by
  have hone : c.doRead.reading = 1 := congrArg (· + 1) hreading
  constructor
  · exact hframed
  · exact hone.le
  · intro hidle
    cases hstarted.symm.trans hidle
  · exact fun _ _ => hone

theorem start (h : Invariant P c) (hstarted : c.started = false) :
    Invariant P (c.start k) := by
  have hreacts := Reacts.resetHeartbeatTimer (P := P) (k := k) { c with started := true }
  apply doRead
  · exact hreacts.framed h.framed
  · exact hreacts.reading.trans (h.idle hstarted)
  · exact hreacts.started

theorem onRead (h : Invariant P c) (hreading : 0 < c.reading) (data : Option (List UInt8))
    (reactions : List (List (Reaction M))) : Invariant P (c.onRead P k data reactions) := by
  have hone : c.reading = 1 := Nat.le_antisymm h.one_read hreading
  have hstarted : c.started = true := by
    rw [← Bool.not_eq_false]
    intro hidle
    rw [h.idle hidle] at hone
    cases hone
  -- a session that is closed when the handler returns needs no further read
  have hclosed : ∀ c' : Endpoint M, c'.Framed P → c'.reading = 0 → c'.started = true →
      c'.closed = true → Invariant P c' := by
    intro c' hframed hzero hs hc
    constructor
    · exact hframed
    · rw [hzero]
      exact Nat.zero_le 1
    · exact fun _ => hzero
    · intro _ hopen
      rw [hc] at hopen
      cases hopen
  have hzero : ({ c with reading := c.reading - 1 } : Endpoint M).reading = 0 := by
    rw [hone]
  unfold Endpoint.onRead
  simp only
  cases data with
  | none =>
      have hreacts := Reacts.close (P := P) { c with reading := c.reading - 1 }
      exact hclosed _ (hreacts.framed h.framed) (hreacts.reading.trans hzero)
        (hreacts.started.trans hstarted) (closed_close _)
  | some chunk =>
      have hreacts := Reacts.processBuffer (P := P) (k := k) reactions
        { c with reading := c.reading - 1, codec := feed c.codec chunk }
      have hstop := closed_of_processBuffer P k reactions
        { c with reading := c.reading - 1, codec := feed c.codec chunk }
      simp only
      generalize Endpoint.processBuffer P k reactions
        { c with reading := c.reading - 1, codec := feed c.codec chunk } = result at hreacts hstop ⊢
      obtain ⟨returned, c'⟩ := result
      cases returned with
      | true =>
          exact hclosed c' (hreacts.framed h.framed) (hreacts.reading.trans hzero)
            (hreacts.started.trans hstarted) (hstop rfl)
      | false =>
          have hreset := hreacts.trans (Reacts.resetHeartbeatTimer (P := P) (k := k) c')
          exact doRead (hreset.framed h.framed) (hreset.reading.trans hzero)
            (hreset.started.trans hstarted)

theorem onWritten (h : Invariant P c) {frame : Frame} (hframe : frame ∈ c.outbox.inFlight)
    {failed : Bool} (hstep : c.onWritten frame failed = some c') : Invariant P c' := by
  obtain ⟨frames, haccounts, hbytes⟩ := h.framed
  have hsettled : Framed P { c with outbox := c.outbox.settle frame } :=
    ⟨frames, haccounts.settle hframe, hbytes⟩
  unfold Endpoint.onWritten at hstep
  cases failed with
  | true =>
      obtain rfl := Option.some.inj hstep
      exact (h.of_reads hsettled rfl rfl id).close
  | false =>
      obtain ⟨outbox, hpop, rfl⟩ := Option.map_eq_some_iff.1 hstep
      have hpopped := (haccounts.settle hframe).pop (haccounts.inFlight_settle hframe) hpop
      exact h.of_reads ⟨frames, hpopped, hbytes⟩ rfl rfl id

theorem onTimeout (h : Invariant P c) (cancelled : Bool) :
    Invariant P (c.onTimeout cancelled) := by
  have hwaited : Invariant P { c with waiting := c.waiting - 1 } :=
    h.of_reads h.framed rfl rfl id
  unfold Endpoint.onTimeout
  simp only
  split
  · exact hwaited
  · exact hwaited.close

/-- Every handler, and every call from elsewhere, keeps the invariant. -/
theorem step {e : Event M} (h : Invariant P c) (hstep : Endpoint.step P k c e = some c') :
    Invariant P c' := by
  cases e with
  | start =>
      obtain ⟨hstarted, heq⟩ := Option.ite_none_left_eq_some.1 hstep
      obtain rfl := Option.some.inj heq
      exact h.start (Bool.eq_false_iff.2 hstarted)
  | send envelope =>
      obtain rfl := Option.some.inj hstep
      exact h.send envelope
  | close =>
      obtain rfl := Option.some.inj hstep
      exact h.close
  | read data reactions =>
      obtain ⟨hreading, rfl⟩ := Option.ite_some_none_eq_some.1 hstep
      exact h.onRead hreading data reactions
  | written frame failed =>
      obtain ⟨hframe, heq⟩ := Option.ite_none_right_eq_some.1 hstep
      exact h.onWritten hframe heq
  | timeout cancelled =>
      obtain ⟨-, rfl⟩ := Option.ite_some_none_eq_some.1 hstep
      exact h.onTimeout cancelled

theorem integrity (h : Invariant P c) : StreamIntegrity P c := by
  obtain ⟨frames, haccounts, hbytes⟩ := h.framed
  constructor
  · exact haccounts.length_inFlight_le
  · exact h.one_read
  · exact h.reads
  · exact fun frame hframe => haccounts.queue_of_mem hframe
  · rw [List.flatMap_def, List.flatMap_def, ← hbytes]
    exact (haccounts.handed_prefix.map Frame.bytes).flatten

end Invariant

theorem keepsStream (P : ProtoMessage M) (k : SessionKind) : KeepsStream P k := by
  intro es c hrun
  refine (hrun.invariant (I := Invariant P) ?_ Invariant.initial).integrity
  intro c e c' hstep h
  exact h.step hstep

/-- The streams of all three kinds of sessions are in order. -/
theorem keepsStream_sessions (P : ProtoMessage M) (heartbeatTimeout : ℕ) :
    KeepsStream P (clientSession heartbeatTimeout) ∧ KeepsStream P gameServerSession ∧
      KeepsStream P (chatSession heartbeatTimeout) := by
  constructor
  · exact keepsStream P _
  · constructor
    · exact keepsStream P _
    · exact keepsStream P _

end Endpoint

end SosBackend
