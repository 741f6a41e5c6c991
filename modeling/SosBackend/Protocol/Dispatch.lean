import SosBackend.Protocol.Schema

/-!
# The read handler of a session

The sessions of both servers read their connections in the same way: a read that has completed
is fed to the codec, its messages are processed one after the other, and the next read is
started. What a message does to the server differs, and so does whether the handler returns
where it finds its session closed. `Follows` says how the messages that a session has
processed come from the bytes that its peer has written, wherever these have been cut.
-/

namespace SosBackend

namespace Protocol

variable {M S : Type*}

/-- What a session does to its server: with a message, whether its handler then returns, and
with a read that has failed. -/
structure Receiver (M S : Type*) where
  processMessage : M → S → S
  returns : S → Bool
  close : S → S

/-- What the loop over the buffer leaves. -/
structure Drained (M S : Type*) where
  messages : List M
  returned : Bool
  codec : Codec
  server : S

/-- `while (auto envelope = codec_.tryDecode()) { processMessage(*envelope); .. }`, where the
handler may return behind every message. -/
def processBuffer (P : ProtoMessage M) (session : Receiver M S) (c : Codec) (σ : S) :
    Drained M S :=
  match _h : tryDecode P c with
  | (none, c') => ⟨[], false, c', σ⟩
  | (some m, c') =>
      if session.returns (session.processMessage m σ) then
        ⟨[m], true, c', session.processMessage m σ⟩
      else
        let rest := processBuffer P session c' (session.processMessage m σ)
        { rest with messages := m :: rest.messages }
termination_by c.buffer.length
decreasing_by exact length_tryDecode_lt P _h

/-- The reads of a session: it has not been started, a read is outstanding, its handler is
queued with what has been read, if the read has not failed, or the session reads no more. -/
inductive Reading
  | unstarted
  | waiting
  | done (data : Option (List UInt8))
  | over
deriving DecidableEq, Repr

/-- The receiving end of a connection: its codec, how much has been taken off the socket, and
its read. -/
structure Reader where
  codec : Codec := {}
  arrived : ℕ := 0
  reading : Reading := .unstarted

namespace Reader

/-- `doRead`. -/
def doRead (r : Reader) : Reader :=
  { r with reading := .waiting }

/-- A read ends with the next `n` bytes of the stream. -/
def complete (bytes : List UInt8) (n : ℕ) (r : Reader) : Reader :=
  { r with arrived := r.arrived + n, reading := .done (some ((bytes.drop r.arrived).take n)) }

/-- A read ends with an error. -/
def fail (r : Reader) : Reader :=
  { r with reading := .done none }

/-- The completion handler of `doRead`, with the messages that it processes. -/
def onRead (P : ProtoMessage M) (session : Receiver M S) (data : Option (List UInt8))
    (r : Reader) (σ : S) : List M × Reader × S :=
  match data with
  | none => ([], { r with reading := .over }, session.close σ)
  | some chunk =>
      let drained := processBuffer P session (feed r.codec chunk) σ
      (drained.messages, { r with
        codec := drained.codec
        reading := if drained.returned then .over else .waiting }, drained.server)

/-- What has been taken off the socket and not been fed to the codec. -/
def unread (r : Reader) : List UInt8 :=
  match r.reading with
  | .done (some chunk) => chunk
  | _ => []

end Reader

/-- Of the bytes of a peer these messages have been processed: what the read loop makes of the
chunks that have come, or the first part of it where the session reads no more. -/
structure Follows (P : ProtoMessage M) (bytes : List UInt8) (ms : List M) (r : Reader) :
    Prop where
  arrived_le : r.arrived ≤ bytes.length
  chunks : ∃ chunks, ms <+: (readLoop P chunks).1 ∧
    chunks.flatten <+: bytes.take r.arrived ∧
    (r.reading ≠ .over → readLoop P chunks = (ms, r.codec) ∧
      chunks.flatten ++ r.unread = bytes.take r.arrived)

section loop

variable (P : ProtoMessage M) (session : Receiver M S)

/-- The messages of the loop are the first ones that the buffer holds, all of them where the
handler does not return. -/
theorem processBuffer_spec (c : Codec) (σ : S) :
    (processBuffer P session c σ).messages <+: (drain P c).1 ∧
      (processBuffer P session c σ).server =
        (processBuffer P session c σ).messages.foldl (fun σ m => session.processMessage m σ) σ ∧
      ((processBuffer P session c σ).returned = false →
        drain P c = ((processBuffer P session c σ).messages,
          (processBuffer P session c σ).codec)) := by
  fun_induction processBuffer P session c σ with
  | case1 c σ c' h =>
      rw [drain_of_none P h]
      exact ⟨List.prefix_refl _, rfl, fun _ => rfl⟩
  | case2 c σ m c' h hreturns =>
      rw [drain_of_some P h]
      exact ⟨(List.prefix_append _ _).trans (List.cons_prefix_cons.2 ⟨rfl, List.nil_prefix⟩), rfl,
        fun heq => by cases heq⟩
  | case3 c σ m c' h hgoes rest ih =>
      obtain ⟨hbegins, hserver, hall⟩ := ih
      rw [drain_of_some P h]
      refine ⟨List.cons_prefix_cons.2 ⟨rfl, hbegins⟩, hserver, fun hreturned => ?_⟩
      rw [hall hreturned]

end loop

namespace Follows

variable {P : ProtoMessage M} {bytes : List UInt8} {ms : List M} {r : Reader}

/-- A connection on which nothing has been read. -/
theorem start (P : ProtoMessage M) (bytes : List UInt8) : Follows P bytes [] {} :=
  ⟨Nat.zero_le _, [], List.nil_prefix, List.nil_prefix, fun _ => ⟨rfl, rfl⟩⟩

theorem doRead (h : Follows P bytes ms r) (hreading : r.reading = .unstarted) :
    Follows P bytes ms r.doRead := by
  obtain ⟨hle, chunks, hms, hchunks, hreads⟩ := h
  obtain ⟨hloop, hall⟩ := hreads (by rw [hreading]; exact Reading.noConfusion)
  refine ⟨hle, chunks, hms, hchunks, fun _ => ⟨hloop, ?_⟩⟩
  rw [Reader.unread, hreading] at hall
  exact hall

/-- The peer writes on. -/
theorem append (h : Follows P bytes ms r) (more : List UInt8) : Follows P (bytes ++ more) ms r := by
  obtain ⟨hle, chunks, hms, hchunks, hreads⟩ := h
  have htake : (bytes ++ more).take r.arrived = bytes.take r.arrived :=
    List.take_append_of_le_length hle
  refine ⟨?_, chunks, hms, ?_, ?_⟩
  · rw [List.length_append]
    exact hle.trans (Nat.le_add_right _ _)
  · rw [htake]
    exact hchunks
  · rw [htake]
    exact hreads

theorem complete (h : Follows P bytes ms r) (hreading : r.reading = .waiting) {n : ℕ}
    (hn : r.arrived + n ≤ bytes.length) : Follows P bytes ms (r.complete bytes n) := by
  obtain ⟨-, chunks, hms, hchunks, hreads⟩ := h
  obtain ⟨hloop, hall⟩ := hreads (by rw [hreading]; exact Reading.noConfusion)
  have htake : bytes.take (r.arrived + n) =
      bytes.take r.arrived ++ (bytes.drop r.arrived).take n := List.take_add
  refine ⟨hn, chunks, hms, ?_, fun _ => ⟨hloop, ?_⟩⟩
  · refine hchunks.trans ?_
    change _ <+: bytes.take (r.arrived + n)
    rw [htake]
    exact List.prefix_append _ _
  · change _ ++ (bytes.drop r.arrived).take n = bytes.take (r.arrived + n)
    rw [Reader.unread, hreading, List.append_nil] at hall
    rw [htake, hall]

theorem fail (h : Follows P bytes ms r) (hreading : r.reading = .waiting) :
    Follows P bytes ms r.fail := by
  obtain ⟨hle, chunks, hms, hchunks, hreads⟩ := h
  obtain ⟨hloop, hall⟩ := hreads (by rw [hreading]; exact Reading.noConfusion)
  refine ⟨hle, chunks, hms, hchunks, fun _ => ⟨hloop, ?_⟩⟩
  rw [Reader.unread, hreading] at hall
  exact hall

/-- What a read handler processes comes behind what has been processed. -/
theorem onRead (h : Follows P bytes ms r) {data : Option (List UInt8)}
    (hreading : r.reading = .done data) (session : Receiver M S) (σ : S) :
    Follows P bytes (ms ++ (r.onRead P session data σ).1) (r.onRead P session data σ).2.1 := by
  obtain ⟨hle, chunks, hms, hchunks, hreads⟩ := h
  obtain ⟨hloop, hall⟩ := hreads (by rw [hreading]; exact Reading.noConfusion)
  rw [Reader.unread, hreading] at hall
  cases data with
  | none =>
      rw [Reader.onRead, List.append_nil]
      exact ⟨hle, chunks, hms, hchunks, fun hne => absurd rfl hne⟩
  | some chunk =>
      obtain ⟨hbegins, -, hwhole⟩ := processBuffer_spec P session (feed r.codec chunk) σ
      have hmore : readLoop P (chunks ++ [chunk]) =
          (ms ++ (drain P (feed r.codec chunk)).1, (drain P (feed r.codec chunk)).2) := by
        rw [readLoop_append_singleton, hloop]
        rfl
      have hflatten : (chunks ++ [chunk]).flatten = bytes.take r.arrived := by
        rw [List.flatten_append, List.flatten_singleton]
        exact hall
      refine ⟨hle, chunks ++ [chunk], ?_, ?_, ?_⟩
      · rw [hmore]
        exact List.prefix_append_right_inj ms |>.2 hbegins
      · rw [hflatten]
        exact List.prefix_refl _
      · intro hne
        have hreturned : (processBuffer P session (feed r.codec chunk) σ).returned = false := by
          by_contra hreturned
          rw [Bool.not_eq_false] at hreturned
          refine hne ?_
          rw [Reader.onRead]
          simp only [hreturned, if_true]
        rw [hmore, hwhole hreturned, Reader.onRead]
        refine ⟨rfl, ?_⟩
        rw [Reader.unread]
        simp only [hreturned, Bool.false_eq_true, if_false, List.append_nil]
        exact hflatten

end Follows

end Protocol

end SosBackend
