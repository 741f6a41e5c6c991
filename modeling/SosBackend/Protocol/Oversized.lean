import SosBackend.Protocol.Segmentation

/-!
# Oversized headers and frame boundaries

`readLoopAt` is the read loop with the stream offset of every dispatched message
written next to it. On an oversized header the codec throws away what happens to
be buffered, so decoding resumes at the first byte of a later chunk:
`ResumeBoundary` collects the offsets it can resume at, and every dispatched
message starts at one of them. A stream keeps every segmentation on its own
frame boundaries exactly when the bytes behind its oversized headers contain no
complete frame that parses.
-/

namespace SosBackend

namespace Protocol

section Offsets

variable {M : Type*} (P : ProtoMessage M)

/-- The drain loop when `received` bytes of the stream have been fed: what is
buffered ends there, so the next message starts `c.buffer.length` bytes before. -/
def drainAt (P : ProtoMessage M) (received : ℕ) (c : Codec) :
    List (ℕ × M) × Codec :=
  match _h : tryDecode P c with
  | (none, c') => ([], c')
  | (some m, c') =>
      ((received - c.buffer.length, m) :: (drainAt P received c').1,
        (drainAt P received c').2)
termination_by c.buffer.length
decreasing_by all_goals exact length_tryDecode_lt P _h

/-- `onRead` with offsets; the middle component counts the bytes received. -/
def onReadAt (P : ProtoMessage M) (s : List (ℕ × M) × ℕ × Codec)
    (chunk : List UInt8) : List (ℕ × M) × ℕ × Codec :=
  let r := drainAt P (s.2.1 + chunk.length) (feed s.2.2 chunk)
  (s.1 ++ r.1, s.2.1 + chunk.length, r.2)

/-- `readLoop` with the stream offset at which every dispatched message starts. -/
def readLoopAt (P : ProtoMessage M) (chunks : List (List UInt8)) :
    List (ℕ × M) × ℕ × Codec :=
  chunks.foldl (onReadAt P) ([], 0, {})

theorem drainAt_of_none {received : ℕ} {c c' : Codec}
    (h : tryDecode P c = (none, c')) : drainAt P received c = ([], c') := by
  rw [drainAt]
  split
  · next heq =>
      rw [h] at heq
      cases heq
      rfl
  · next heq =>
      rw [h] at heq
      cases heq

theorem drainAt_of_some {received : ℕ} {c c' : Codec} {m : M}
    (h : tryDecode P c = (some m, c')) :
    drainAt P received c =
      ((received - c.buffer.length, m) :: (drainAt P received c').1,
        (drainAt P received c').2) := by
  rw [drainAt]
  split
  · next heq =>
      rw [h] at heq
      cases heq
  · next heq =>
      rw [h] at heq
      cases heq
      rfl

/-- The offsets are only written next to the messages. -/
theorem drainAt_map_snd (received : ℕ) (c : Codec) :
    (drainAt P received c).1.map Prod.snd = (drain P c).1 ∧
      (drainAt P received c).2 = (drain P c).2 := by
  induction c using drainInduction P with
  | stop c c' h =>
      rw [drainAt_of_none P h, drain_of_none P h]
      exact ⟨rfl, rfl⟩
  | message c m c' h ih =>
      rw [drainAt_of_some P h, drain_of_some P h, List.map_cons, ih.1, ih.2]
      exact ⟨rfl, rfl⟩

theorem readLoopAt_append_singleton (chunks : List (List UInt8))
    (chunk : List UInt8) :
    readLoopAt P (chunks ++ [chunk]) = onReadAt P (readLoopAt P chunks) chunk := by
  rw [readLoopAt, List.foldl_append]
  rfl

theorem readLoopAt_received (chunks : List (List UInt8)) :
    (readLoopAt P chunks).2.1 = chunks.flatten.length := by
  induction chunks using List.reverseRecOn with
  | nil => rfl
  | append_singleton chunks chunk ih =>
      rw [readLoopAt_append_singleton, onReadAt, ih, List.flatten_append,
        List.length_append, List.flatten_singleton]

/-- The loop with offsets dispatches what the loop dispatches. -/
theorem readLoopAt_map_snd (chunks : List (List UInt8)) :
    (readLoopAt P chunks).1.map Prod.snd = (readLoop P chunks).1 ∧
      (readLoopAt P chunks).2.2 = (readLoop P chunks).2 := by
  induction chunks using List.reverseRecOn with
  | nil => exact ⟨rfl, rfl⟩
  | append_singleton chunks chunk ih =>
      obtain ⟨ih₁, ih₂⟩ := ih
      have hdrain := drainAt_map_snd P
        ((readLoopAt P chunks).2.1 + chunk.length) (feed (readLoop P chunks).2 chunk)
      rw [readLoopAt_append_singleton, readLoop_append_singleton, onReadAt, onRead,
        List.map_append, ih₁, ih₂, hdrain.1, hdrain.2]
      exact ⟨rfl, rfl⟩

end Offsets

/-!
## Where a message can start
-/

/-- `e.2` is the message of a frame within the size limit that lies in the
stream `x` at the offset `e.1`. -/
def StartsFrame {M : Type*} (P : ProtoMessage M) (x : List UInt8) (e : ℕ × M) :
    Prop :=
  ¬ Oversized (x.drop e.1) ∧ framing.Complete (x.drop e.1) ∧
    parseFrame P ((x.drop e.1).take (framing.frameSize (x.drop e.1))) = some e.2

/-- The number of bytes in the first `k` chunks. -/
def fedAfter (chunks : List (List UInt8)) (k : ℕ) : ℕ :=
  (chunks.take k).flatten.length

/-- The offsets the loop can resume decoding at: the beginning of the stream,
the end of a preceding frame within the size limit, and behind an oversized
header the end of a chunk received with or after it. -/
inductive ResumeBoundary (chunks : List (List UInt8)) : ℕ → Prop
  | zero : ResumeBoundary chunks 0
  | next {o : ℕ} : ResumeBoundary chunks o →
      ¬ Oversized (chunks.flatten.drop o) →
      framing.Complete (chunks.flatten.drop o) →
      ResumeBoundary chunks (o + framing.frameSize (chunks.flatten.drop o))
  | restart {o k : ℕ} : ResumeBoundary chunks o →
      Oversized (chunks.flatten.drop o) → k ≤ chunks.length →
      o + 4 ≤ fedAfter chunks k → ResumeBoundary chunks (fedAfter chunks k)

/-- Under every segmentation of the stream `x`, the dispatched messages are
bodies of frames at the frame boundaries of `x`, and what is dispatched behind an
oversized frame does not depend on the segmentation. -/
def KeepsBoundaries {M : Type*} (P : ProtoMessage M) (x : List UInt8) : Prop :=
  (∀ chunks, chunks.flatten = x → ∀ e ∈ (readLoopAt P chunks).1,
    framing.Boundary x e.1 ∧ StartsFrame P x e) ∧
  ∀ chunks chunks', chunks.flatten = x → chunks'.flatten = x →
    ∀ b, framing.Boundary x b → Oversized (x.drop b) →
      (readLoopAt P chunks).1.filter (fun e => b < e.1) =
        (readLoopAt P chunks').1.filter (fun e => b < e.1)

/-- Somewhere behind the header at `b` lies a complete frame that parses. -/
def FrameBehind {M : Type*} (P : ProtoMessage M) (x : List UInt8) (b : ℕ) : Prop :=
  ∃ u f v, x.drop (b + 4) = u ++ f ++ v ∧ WellSized f ∧ (parseFrame P f).isSome

section Boundaries

variable {M : Type*} (P : ProtoMessage M)

/-- A buffer that holds the stream `x` from the offset `o` up to what has been
received. -/
def Buffered (x : List UInt8) (o received : ℕ) (c : Codec) : Prop :=
  o ≤ received ∧ c.buffer = (x.take received).drop o

theorem Buffered.isPrefix {x : List UInt8} {o received : ℕ} {c : Codec}
    (h : Buffered x o received c) : c.buffer <+: x.drop o := by
  rw [h.2, List.drop_take]
  exact List.take_prefix _ _

theorem Buffered.length_eq {x : List UInt8} {o received : ℕ} {c : Codec}
    (h : Buffered x o received c) (hle : received ≤ x.length) :
    c.buffer.length = received - o := by
  rw [h.2, List.length_drop, List.length_take_of_le hle]

theorem Buffered.feed {x : List UInt8} {o : ℕ} {c : Codec} {y data z : List UInt8}
    (hx : x = y ++ data ++ z) (h : Buffered x o y.length c) :
    Buffered x o (y.length + data.length) (feed c data) := by
  obtain ⟨hle, hbuffer⟩ := h
  refine ⟨hle.trans (Nat.le_add_right _ _), ?_⟩
  have htake : x.take y.length = y := by
    rw [hx, List.append_assoc, List.take_left]
  have htake' : x.take (y.length + data.length) = y ++ data := by
    rw [hx, ← List.length_append, List.take_left]
  rw [Protocol.feed, hbuffer, htake, htake', List.drop_append_of_le_length hle]

/-- What one `tryDecode` does to a buffer that holds the stream from `o`: it
waits, restarts at the end of what has been received, or cuts off the frame at
`o`. -/
theorem tryDecode_buffered {x : List UInt8} {o received : ℕ} {c : Codec}
    (hle : received ≤ x.length) (h : Buffered x o received c) :
    tryDecode P c = (none, c) ∨
      (Oversized (x.drop o) ∧ o + 4 ≤ received ∧ tryDecode P c = (none, ⟨[]⟩)) ∨
      (¬ Oversized (x.drop o) ∧ framing.Complete (x.drop o) ∧
        ∃ c', tryDecode P c =
            (parseFrame P ((x.drop o).take (framing.frameSize (x.drop o))), c') ∧
          Buffered x (o + framing.frameSize (x.drop o)) received c') := by
  have hlength := h.length_eq hle
  obtain ⟨t, ht⟩ := h.isPrefix
  by_cases hover : Oversized c.buffer
  · refine Or.inr (Or.inl ⟨?_, ?_, tryDecode_of_oversized P hover⟩)
    · rw [← ht]
      exact Oversized.append hover t
    · have hheader := hover.1
      rw [hlength] at hheader
      omega
  · by_cases hcomplete : framing.Complete c.buffer
    · have hdeclared : declaredLength (x.drop o) = declaredLength c.buffer := by
        rw [← ht, declaredLength_append hcomplete.1]
      have hsize : framing.frameSize (x.drop o) = framing.frameSize c.buffer := by
        rw [frameSize_framing, frameSize_framing, hdeclared]
      have htake : (x.drop o).take (framing.frameSize (x.drop o)) =
          c.buffer.take (framing.frameSize c.buffer) := by
        rw [hsize, ← ht, List.take_append_of_le_length hcomplete.2]
      refine Or.inr (Or.inr ⟨?_, ?_, _,
        by rw [htake]; exact tryDecode_of_complete P hover hcomplete, ?_, ?_⟩)
      · rintro ⟨-, hlt⟩
        rw [hdeclared] at hlt
        exact hover ⟨hcomplete.1, hlt⟩
      · rw [← ht]
        exact LengthPrefixed.Complete.append framing hcomplete t
      · have hsize' := hcomplete.2
        rw [hlength] at hsize'
        have hle' := h.1
        rw [hsize]
        omega
      · rw [hsize, ← List.drop_drop, ← h.2]
    · exact Or.inl (tryDecode_of_not_complete P hover hcomplete)

/-- A property of offsets that cutting off a frame and restarting keep holds of
every message the drain loop dispatches, and of where it stops. -/
theorem drainAt_invariant {x : List UInt8} {received : ℕ} (hle : received ≤ x.length)
    {I : ℕ → Prop}
    (cut : ∀ o, I o → ¬ Oversized (x.drop o) → framing.Complete (x.drop o) →
      I (o + framing.frameSize (x.drop o)))
    (restart : ∀ o, I o → Oversized (x.drop o) → o + 4 ≤ received → I received)
    (c : Codec) : ∀ o, I o → Buffered x o received c →
      (∀ e ∈ (drainAt P received c).1, I e.1 ∧ StartsFrame P x e) ∧
        ∃ o', I o' ∧ Buffered x o' received (drainAt P received c).2 := by
  induction c using drainInduction P with
  | stop c c' h =>
      intro o ho hc
      rw [drainAt_of_none P h]
      refine ⟨fun e he => absurd he List.not_mem_nil, ?_⟩
      rcases tryDecode_buffered P hle hc with hsame | ⟨hover, ho4, hreset⟩ |
          ⟨hover, hcomplete, c₁, hcut, hc₁⟩
      · rw [h] at hsame
        cases hsame
        exact ⟨o, ho, hc⟩
      · rw [h] at hreset
        cases hreset
        exact ⟨received, restart o ho hover ho4, le_rfl, by simp⟩
      · rw [h, Prod.mk.injEq] at hcut
        obtain ⟨-, rfl⟩ := hcut
        exact ⟨_, cut o ho hover hcomplete, hc₁⟩
  | message c m c' h ih =>
      intro o ho hc
      have hoffset : received - c.buffer.length = o := by
        have hoh := hc.1
        rw [hc.length_eq hle]
        omega
      rw [drainAt_of_some P h, hoffset]
      rcases tryDecode_buffered P hle hc with hsame | ⟨hover, ho4, hreset⟩ |
          ⟨hover, hcomplete, c₁, hcut, hc₁⟩
      · rw [h] at hsame
        cases hsame
      · rw [h] at hreset
        cases hreset
      · rw [h, Prod.mk.injEq] at hcut
        obtain ⟨hparse, rfl⟩ := hcut
        obtain ⟨hrest, o', ho', hc'⟩ := ih _ (cut o ho hover hcomplete) hc₁
        refine ⟨?_, o', ho', hc'⟩
        intro e he
        rcases List.mem_cons.mp he with rfl | he
        · exact ⟨ho, hover, hcomplete, hparse.symm⟩
        · exact hrest e he

/-- The same for the whole read loop; restarts happen at the ends of chunks. -/
theorem readLoopAt_invariant (chunks : List (List UInt8)) {I : ℕ → Prop}
    (zero : I 0)
    (cut : ∀ o, I o → ¬ Oversized (chunks.flatten.drop o) →
      framing.Complete (chunks.flatten.drop o) →
      I (o + framing.frameSize (chunks.flatten.drop o)))
    (restart : ∀ o k, I o → Oversized (chunks.flatten.drop o) →
      k ≤ chunks.length → o + 4 ≤ fedAfter chunks k → I (fedAfter chunks k)) :
    ∀ e ∈ (readLoopAt P chunks).1, I e.1 ∧ StartsFrame P chunks.flatten e := by
  suffices h : ∀ k ≤ chunks.length,
      (∀ e ∈ (readLoopAt P (chunks.take k)).1,
        I e.1 ∧ StartsFrame P chunks.flatten e) ∧
      ∃ o, I o ∧ Buffered chunks.flatten o (fedAfter chunks k)
        (readLoopAt P (chunks.take k)).2.2 by
    have hall := (h chunks.length le_rfl).1
    rw [List.take_length] at hall
    exact hall
  intro k hk
  induction k with
  | zero => exact ⟨fun e he => absurd he List.not_mem_nil, 0, zero, le_rfl, rfl⟩
  | succ k ih =>
      obtain ⟨hdispatched, o, ho, hbuffered⟩ := ih (Nat.le_of_succ_le hk)
      have hsplit : chunks.flatten =
          (chunks.take k).flatten ++ chunks[k] ++ (chunks.drop (k + 1)).flatten := by
        conv_lhs => rw [← List.take_append_drop (k + 1) chunks,
          List.take_succ_eq_append_getElem hk]
        rw [List.flatten_append, List.flatten_append, List.flatten_singleton]
      have hfed : fedAfter chunks (k + 1) = fedAfter chunks k + chunks[k].length := by
        rw [fedAfter, fedAfter, List.take_succ_eq_append_getElem hk,
          List.flatten_append, List.length_append, List.flatten_singleton]
      have hle : fedAfter chunks (k + 1) ≤ chunks.flatten.length := by
        have hlength := congrArg List.length hsplit
        rw [List.length_append, List.length_append] at hlength
        rw [hfed, fedAfter]
        omega
      have hfeed := Buffered.feed hsplit hbuffered
      rw [← fedAfter, ← hfed] at hfeed
      have hdrain := drainAt_invariant P hle cut
        (fun o ho hover ho4 => restart o (k + 1) ho hover hk ho4) _ o ho hfeed
      have hreceived : (readLoopAt P (chunks.take k)).2.1 + chunks[k].length =
          fedAfter chunks (k + 1) := by
        rw [readLoopAt_received, hfed, fedAfter]
      rw [List.take_succ_eq_append_getElem hk, readLoopAt_append_singleton,
        onReadAt, hreceived]
      refine ⟨?_, hdrain.2⟩
      intro e he
      rcases List.mem_append.mp he with he | he
      · exact hdispatched e he
      · exact hdrain.1 e he

/-!
## Streams that keep their boundaries
-/

/-- A dispatched message behind an oversized header is a frame in its tail. -/
theorem StartsFrame.frameBehind {x : List UInt8} {b : ℕ} {e : ℕ × M}
    (h : StartsFrame P x e) (hb : b + 4 ≤ e.1) : FrameBehind P x b := by
  obtain ⟨hover, hcomplete, hparse⟩ := h
  have hframe := LengthPrefixed.Complete.isFrame_take framing hcomplete
  have hdrop : (x.drop (b + 4)).drop (e.1 - (b + 4)) = x.drop e.1 := by
    rw [List.drop_drop, Nat.add_sub_cancel' hb]
  refine ⟨(x.drop (b + 4)).take (e.1 - (b + 4)), _,
    (x.drop e.1).drop (framing.frameSize (x.drop e.1)), ?_, ⟨hframe, ?_⟩, ?_⟩
  · rw [List.append_assoc, List.take_append_drop, ← hdrop, List.take_append_drop]
  · exact fun h => hover (by
      have happ := Oversized.append h ((x.drop e.1).drop (framing.frameSize (x.drop e.1)))
      rwa [List.take_append_drop] at happ)
  · rw [hparse]
    rfl

theorem frameSize_ge (x : List UInt8) : 4 ≤ framing.frameSize x := by
  rw [frameSize_framing]
  exact Nat.le_add_right _ _

/-- Without a frame behind an oversized header, every dispatched message starts
at a boundary of the stream, and none behind an oversized frame. -/
theorem boundary_of_dispatched {chunks : List (List UInt8)}
    (hno : ∀ b, framing.Boundary chunks.flatten b →
      Oversized (chunks.flatten.drop b) → ¬ FrameBehind P chunks.flatten b)
    {e : ℕ × M} (he : e ∈ (readLoopAt P chunks).1) :
    framing.Boundary chunks.flatten e.1 ∧ StartsFrame P chunks.flatten e ∧
      ∀ b, framing.Boundary chunks.flatten b →
        Oversized (chunks.flatten.drop b) → ¬ b < e.1 := by
  have hinv := readLoopAt_invariant P chunks
    (I := fun o => framing.Boundary chunks.flatten o ∨
      ∃ b, framing.Boundary chunks.flatten b ∧
        Oversized (chunks.flatten.drop b) ∧ b + 4 ≤ o)
    (Or.inl LengthPrefixed.Boundary.zero)
    (by
      rintro o (ho | ⟨b, hb, hover, hle⟩) - hcomplete
      · exact Or.inl (LengthPrefixed.Boundary.next ho hcomplete)
      · exact Or.inr ⟨b, hb, hover, hle.trans (Nat.le_add_right _ _)⟩)
    (by
      rintro o k (ho | ⟨b, hb, hover, hle⟩) hover' - hfed
      · exact Or.inr ⟨o, ho, hover', hfed⟩
      · exact Or.inr ⟨b, hb, hover, by omega⟩)
  obtain ⟨hphase, hstarts⟩ := hinv e he
  have hboundary : framing.Boundary chunks.flatten e.1 := by
    rcases hphase with ho | ⟨b, hb, hover, hle⟩
    · exact ho
    · exact absurd (StartsFrame.frameBehind P hstarts hle) (hno b hb hover)
  refine ⟨hboundary, hstarts, ?_⟩
  intro b hb hover hlt
  have hgap := (LengthPrefixed.Boundary.frame_le framing hboundary hb).1 hlt
  have hsize := frameSize_ge (chunks.flatten.drop b)
  exact hno b hb hover (StartsFrame.frameBehind P hstarts (by omega))

/-- In front of a boundary there are only frames within the size limit, or a
first oversized one. -/
theorem exists_first_oversized {x : List UInt8} {b : ℕ}
    (h : framing.Boundary x b) :
    (∃ gs : List (List UInt8), (∀ g ∈ gs, WellSized g) ∧ x.take b = gs.flatten) ∨
      ∃ b₁, b₁ + 4 ≤ b ∧ framing.Boundary x b₁ ∧ Oversized (x.drop b₁) ∧
        ∃ gs : List (List UInt8), (∀ g ∈ gs, WellSized g) ∧ x.take b₁ = gs.flatten := by
  induction h with
  | zero => exact Or.inl ⟨[], by simp, by simp⟩
  | @next o ho hcomplete ih =>
      have hsize := frameSize_ge (x.drop o)
      rcases ih with ⟨gs, hgs, htake⟩ | ⟨b₁, hle, hb₁, hover, hgs⟩
      · by_cases hover : Oversized (x.drop o)
        · exact Or.inr ⟨o, by omega, ho, hover, gs, hgs, htake⟩
        · have hframe := LengthPrefixed.Complete.isFrame_take framing hcomplete
          have hwell : WellSized ((x.drop o).take (framing.frameSize (x.drop o))) := by
            refine ⟨hframe, fun h => hover ?_⟩
            have happ := Oversized.append h
              ((x.drop o).drop (framing.frameSize (x.drop o)))
            rwa [List.take_append_drop] at happ
          refine Or.inl ⟨gs ++ [(x.drop o).take (framing.frameSize (x.drop o))],
            ?_, ?_⟩
          · intro g hg
            rcases List.mem_append.mp hg with hg | hg
            · exact hgs g hg
            · rw [List.mem_singleton.mp hg]
              exact hwell
          · rw [List.take_add, htake, List.flatten_append, List.flatten_singleton]
      · exact Or.inr ⟨b₁, by omega, hb₁, hover, hgs⟩

/-- Fed one by one, frames within the size limit leave the buffer empty. -/
theorem readLoopAt_frames_codec {gs : List (List UInt8)}
    (hgs : ∀ g ∈ gs, WellSized g) : (readLoopAt P gs).2.2 = {} := by
  rw [(readLoopAt_map_snd P gs).2]
  induction gs using List.reverseRecOn with
  | nil => rfl
  | append_singleton gs g ih =>
      have ih' := ih fun g' hg' => hgs g' (List.mem_append_left _ hg')
      have hg : WellSized g := hgs g (List.mem_append_right _ List.mem_cons_self)
      rw [readLoop_append_singleton, onRead, ih', feed, List.nil_append,
        ← List.append_nil g]
      cases hparse : parseFrame P g with
      | none => rw [drain_unparseable_append P hg hparse]
      | some m =>
          have hstep := tryDecode_frame_append P hg []
          rw [hparse] at hstep
          have hstop := drain_of_not_complete P (x := []) (by decide)
            framing.not_complete_nil
          rw [drain_of_some P hstep, hstop]

theorem readLoopAt_fst_le {chunks : List (List UInt8)} {e : ℕ × M}
    (he : e ∈ (readLoopAt P chunks).1) : e.1 ≤ chunks.flatten.length := by
  have hstarts := (readLoopAt_invariant P chunks (I := fun _ => True)
    trivial (fun _ _ _ _ => trivial) (fun _ _ _ _ _ _ => trivial) e he).2
  have hheader := hstarts.2.1.1
  rw [List.length_drop, headerSize_framing] at hheader
  omega

theorem mem_readLoopAt_append {chunks more : List (List UInt8)} {e : ℕ × M}
    (he : e ∈ (readLoopAt P chunks).1) : e ∈ (readLoopAt P (chunks ++ more)).1 := by
  induction more using List.reverseRecOn with
  | nil =>
      rw [List.append_nil]
      exact he
  | append_singleton more chunk ih =>
      rw [← List.append_assoc, readLoopAt_append_singleton, onReadAt]
      exact List.mem_append_left _ ih

/-- A frame behind an oversized header is dispatched when a chunk ends right
before it, and not when it comes in one chunk with the header. -/
theorem exists_segmentations {x : List UInt8} {b : ℕ} {gs : List (List UInt8)}
    (hgs : ∀ g ∈ gs, WellSized g) (htake : x.take b = gs.flatten) (hb : b ≤ x.length)
    (hover : Oversized (x.drop b)) (hbehind : FrameBehind P x b) :
    ∃ chunks chunks', chunks.flatten = x ∧ chunks'.flatten = x ∧
      (readLoopAt P chunks).1.filter (fun e => b < e.1) ≠
        (readLoopAt P chunks').1.filter (fun e => b < e.1) := by
  obtain ⟨u, f, v, hdrop, hf, hparse⟩ := hbehind
  obtain ⟨m, hm⟩ := Option.isSome_iff_exists.mp hparse
  have hgslen : gs.flatten.length = b := by
    rw [← htake, List.length_take_of_le hb]
  have hheader : ((x.drop b).take 4).length = 4 :=
    List.length_take_of_le hover.1
  have htail : x.drop b = (x.drop b).take 4 ++ (u ++ f ++ v) := by
    rw [← hdrop, ← List.drop_drop, List.take_append_drop]
  have hx : x = gs.flatten ++ ((x.drop b).take 4 ++ (u ++ f ++ v)) := by
    rw [← htail, ← htake, List.take_append_drop]
  generalize (x.drop b).take 4 = header at hheader htail hx
  have hreset : ∀ y, drainAt P (b + (header ++ y).length) ⟨header ++ y⟩ =
      ([], ⟨[]⟩) := by
    intro y
    refine drainAt_of_none P (tryDecode_of_oversized P ⟨?_, ?_⟩)
    · rw [List.length_append, hheader]
      exact Nat.le_add_right _ _
    · have hlt := hover.2
      rw [htail, declaredLength_append hheader.ge] at hlt
      rw [declaredLength_append hheader.ge]
      exact hlt
  have hcodec := readLoopAt_frames_codec P hgs
  have hreceived : (readLoopAt P gs).2.1 = b := by
    rw [readLoopAt_received, hgslen]
  have hchunk : ∀ y, readLoopAt P (gs ++ [header ++ y]) =
      ((readLoopAt P gs).1, b + (header ++ y).length, ⟨[]⟩) := by
    intro y
    rw [readLoopAt_append_singleton, onReadAt, hcodec, hreceived, feed,
      List.nil_append, hreset, List.append_nil]
  refine ⟨gs ++ [header ++ u] ++ [f] ++ [v], gs ++ [header ++ (u ++ f ++ v)],
    ?_, ?_, ?_⟩
  · simp only [List.flatten_append, List.flatten_singleton]
    conv_rhs => rw [hx]
    simp only [List.append_assoc]
  · rw [List.flatten_append, List.flatten_singleton]
    exact hx.symm
  · have hempty : (readLoopAt P (gs ++ [header ++ (u ++ f ++ v)])).1.filter
        (fun e => b < e.1) = [] := by
      rw [hchunk, List.filter_eq_nil_iff]
      intro e he
      have hle := readLoopAt_fst_le P he
      rw [hgslen] at hle
      simpa using hle
    have hmem : (b + (header ++ u).length, m) ∈
        (readLoopAt P (gs ++ [header ++ u] ++ [f] ++ [v])).1 := by
      refine mem_readLoopAt_append P ?_
      have hstep := tryDecode_frame_append P hf []
      rw [List.append_nil, hm] at hstep
      rw [readLoopAt_append_singleton, hchunk, onReadAt, feed, List.nil_append,
        drainAt_of_some P hstep, Nat.add_sub_cancel]
      exact List.mem_append_right _ List.mem_cons_self
    rw [hempty]
    refine List.ne_nil_of_mem (List.mem_filter.mpr ⟨hmem, ?_⟩)
    rw [List.length_append, hheader, decide_eq_true_eq]
    omega

/-- The loop dispatches only frames at the offsets it can resume at, and a
stream keeps every segmentation on its own frame boundaries exactly when no
complete frame that parses lies behind the header of an oversized one. -/
theorem dispatched_resumeBoundary :
    (∀ chunks, ∀ e ∈ (readLoopAt P chunks).1,
      ResumeBoundary chunks e.1 ∧ StartsFrame P chunks.flatten e) ∧
    ∀ x, KeepsBoundaries P x ↔
      ∀ b, framing.Boundary x b → Oversized (x.drop b) → ¬ FrameBehind P x b := by
  refine ⟨fun chunks => readLoopAt_invariant P chunks ResumeBoundary.zero
    (fun o => ResumeBoundary.next) (fun o k => ResumeBoundary.restart), ?_⟩
  intro x
  constructor
  · rintro ⟨-, hsame⟩ b hb hover hbehind
    have hfirst : ∃ b₁, b₁ ≤ b ∧ framing.Boundary x b₁ ∧ Oversized (x.drop b₁) ∧
        ∃ gs : List (List UInt8), (∀ g ∈ gs, WellSized g) ∧ x.take b₁ = gs.flatten := by
      rcases exists_first_oversized hb with hgs | ⟨b₁, hle, hrest⟩
      · exact ⟨b, le_rfl, hb, hover, hgs⟩
      · exact ⟨b₁, by omega, hrest⟩
    obtain ⟨b₁, hle, hb₁, hover₁, gs, hgs, htake⟩ := hfirst
    have hbehind₁ : FrameBehind P x b₁ := by
      obtain ⟨u, f, v, hdrop, hf⟩ := hbehind
      refine ⟨(x.drop (b₁ + 4)).take (b - b₁) ++ u, f, v, ?_, hf⟩
      have hdrop' : (x.drop (b₁ + 4)).drop (b - b₁) = u ++ f ++ v := by
        rw [List.drop_drop, ← hdrop]
        congr 1
        omega
      rw [List.append_assoc, List.append_assoc, ← List.append_assoc u, ← hdrop',
        List.take_append_drop]
    obtain ⟨chunks, chunks', hchunks, hchunks', hne⟩ := exists_segmentations P hgs
      htake hb₁.le_length hover₁ hbehind₁
    exact hne (hsame chunks chunks' hchunks hchunks' b₁ hb₁ hover₁)
  · intro hno
    refine ⟨?_, ?_⟩
    · rintro chunks rfl e he
      have hdispatched := boundary_of_dispatched P hno he
      exact ⟨hdispatched.1, hdispatched.2.1⟩
    · intro chunks chunks' hchunks hchunks' b hb hover
      have hnone : ∀ cs : List (List UInt8), cs.flatten = x →
          (readLoopAt P cs).1.filter (fun e => b < e.1) = [] := by
        rintro cs rfl
        rw [List.filter_eq_nil_iff]
        intro e he
        simpa using (boundary_of_dispatched P hno he).2.2 b hb hover
      rw [hnone chunks hchunks, hnone chunks' hchunks']

end Boundaries

/-- An oversized header and an empty message right behind it: fed in two chunks,
the empty message is decoded out of the body of the oversized frame; fed in one
chunk, it is not. -/
theorem not_keepsBoundaries_oversized_emptyFrame :
    readLoop emptyMessage [[1, 0, 16, 0], [0, 0, 0, 0]] = ([()], {}) ∧
      readLoop emptyMessage [[1, 0, 16, 0, 0, 0, 0, 0]] = ([], {}) ∧
      ¬ KeepsBoundaries emptyMessage [1, 0, 16, 0, 0, 0, 0, 0] := by
  have hover : Oversized [1, 0, 16, 0] := by decide
  have hover' : Oversized [1, 0, 16, 0, 0, 0, 0, 0] := by decide
  have hmessage : drain emptyMessage ⟨[0, 0, 0, 0]⟩ = ([()], ⟨[]⟩) := by
    have hparse : parseFrame emptyMessage [0, 0, 0, 0] = some () := by decide
    have hframe := tryDecode_frame_append emptyMessage wellSized_emptyFrame []
    have hstop := drain_of_not_complete emptyMessage (x := []) (by decide)
      framing.not_complete_nil
    rw [List.append_nil, hparse] at hframe
    rw [drain_of_some emptyMessage hframe, hstop]
  have hfirst : readLoop emptyMessage [[1, 0, 16, 0]] = ([], ⟨[]⟩) :=
    onRead_of_drain emptyMessage
      (drain_of_none emptyMessage (tryDecode_of_oversized emptyMessage hover))
  have htwo : readLoop emptyMessage [[1, 0, 16, 0], [0, 0, 0, 0]] = ([()], {}) := by
    have hsplit := readLoop_append_singleton emptyMessage [[1, 0, 16, 0]] [0, 0, 0, 0]
    rw [hfirst] at hsplit
    exact hsplit.trans (onRead_of_drain emptyMessage hmessage)
  refine ⟨htwo, onRead_of_drain emptyMessage
    (drain_of_none emptyMessage (tryDecode_of_oversized emptyMessage hover')), ?_⟩
  rintro ⟨hkeeps, -⟩
  have honly : ∀ o, framing.Boundary [1, 0, 16, 0, 0, 0, 0, 0] o → o = 0 := by
    intro o ho
    induction ho with
    | zero => rfl
    | next ho hcomplete ih =>
        subst ih
        have hsize := hcomplete.2
        rw [frameSize_framing] at hsize
        exact absurd hsize (by decide)
  have hmap := (readLoopAt_map_snd emptyMessage [[1, 0, 16, 0], [0, 0, 0, 0]]).1
  rw [htwo] at hmap
  obtain ⟨e, he, -⟩ : ∃ e ∈ (readLoopAt emptyMessage
      [[1, 0, 16, 0], [0, 0, 0, 0]]).1, e.2 = () := by
    refine List.mem_map.mp ?_
    rw [hmap]
    exact List.mem_cons_self
  obtain ⟨hboundary, hstarts, -⟩ := hkeeps _ rfl e he
  rw [honly e.1 hboundary] at hstarts
  exact hstarts hover'

end Protocol

end SosBackend
