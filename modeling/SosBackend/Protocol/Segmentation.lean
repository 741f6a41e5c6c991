import SosBackend.Protocol.Codec

/-!
# Segmentation of the stream of a well-behaved peer

The stream is a concatenation of whole frames that respect `MAX_MESSAGE_SIZE`,
cut into chunks anywhere. When every body parses the read loop dispatches
exactly the messages whose last byte has been fed, whatever the chunks are. A
body that does not parse ends the drain loop of its chunk, so the frames
completed behind it in the same chunk stay in the buffer: the loop keeps up with
the stream exactly when such a frame is the last one its chunk completes.
-/

namespace SosBackend

namespace Protocol

variable {M : Type*} (P : ProtoMessage M)

/-- One whole frame within the size limit. -/
def WellSized (f : List UInt8) : Prop :=
  framing.IsFrame f ∧ ¬ Oversized f

/-- The frames that the chunk at index `k` completes. -/
def completedBy (chunks : List (List UInt8)) (k : ℕ) : List (List UInt8) :=
  (framing.frames (chunks.take (k + 1)).flatten).drop
    (framing.frames (chunks.take k).flatten).length

/-- After `k` chunks, the loop has dispatched the parseable bodies of all
complete frames, and the buffer holds a proper prefix of a single frame. -/
def DeliversComplete (P : ProtoMessage M) (chunks : List (List UInt8)) (k : ℕ) :
    Prop :=
  (readLoop P (chunks.take k)).1 =
      (framing.frames (chunks.take k).flatten).filterMap (parseFrame P) ∧
    (∃ f, WellSized f ∧ (readLoop P (chunks.take k)).2.buffer <+: f ∧
      (readLoop P (chunks.take k)).2.buffer ≠ f) ∧
    (readLoop P (chunks.take k)).2.buffer.length < 4 + maxMessageSize.toNat

/-- A frame that does not parse is the last frame its chunk completes. -/
def BadFramesEndChunks (P : ProtoMessage M) (chunks : List (List UInt8)) : Prop :=
  ∀ k < chunks.length, ∀ f ∈ (completedBy chunks k).dropLast,
    (parseFrame P f).isSome

theorem WellSized.length_le {f : List UInt8} (h : WellSized f) :
    f.length ≤ 4 + maxMessageSize.toNat := by
  have hle := toNat_declaredLength_le h.1.1 h.2
  rw [h.1.2, frameSize_framing]
  omega

/-!
## The drain loop on a buffer of whole frames
-/

theorem drain_of_not_complete {x : List UInt8} (hover : ¬ Oversized x)
    (h : ¬ framing.Complete x) : drain P ⟨x⟩ = ([], ⟨x⟩) :=
  drain_of_none P (tryDecode_of_not_complete P hover h)

theorem tryDecode_frame_append {f : List UInt8} (hf : WellSized f)
    (y : List UInt8) : tryDecode P ⟨f ++ y⟩ = (parseFrame P f, ⟨y⟩) := by
  have hsize : framing.frameSize (f ++ y) = f.length := by
    rw [framing.frameSize_append hf.1.1, ← hf.1.2]
  have hover : ¬ Oversized (f ++ y) := by
    rintro ⟨-, hlt⟩
    rw [declaredLength_append hf.1.1] at hlt
    exact hf.2 ⟨hf.1.1, hlt⟩
  have hcomplete := LengthPrefixed.Complete.append framing
    (LengthPrefixed.IsFrame.complete framing hf.1) y
  rw [tryDecode_of_complete P hover hcomplete, hsize, List.take_left,
    List.drop_left]

/-- A frame that does not parse is dropped, and ends the loop. -/
theorem drain_unparseable_append {f : List UInt8} (hf : WellSized f)
    (hparse : parseFrame P f = none) (y : List UInt8) :
    drain P ⟨f ++ y⟩ = ([], ⟨y⟩) := by
  have hstep := tryDecode_frame_append P hf y
  rw [hparse] at hstep
  exact drain_of_none P hstep

/-- Frames that parse are dispatched one after the other. -/
theorem drain_flatten_append {fs : List (List UInt8)}
    (h : ∀ f ∈ fs, WellSized f ∧ (parseFrame P f).isSome) (y : List UInt8) :
    drain P ⟨fs.flatten ++ y⟩ =
      (fs.filterMap (parseFrame P) ++ (drain P ⟨y⟩).1, (drain P ⟨y⟩).2) := by
  induction fs with
  | nil => simp
  | cons f fs ih =>
      obtain ⟨hf, hsome⟩ := h f List.mem_cons_self
      obtain ⟨m, hm⟩ := Option.isSome_iff_exists.mp hsome
      have ih' := ih fun g hg => h g (List.mem_cons_of_mem _ hg)
      have hstep := tryDecode_frame_append P hf (fs.flatten ++ y)
      rw [hm] at hstep
      rw [List.flatten_cons, List.append_assoc, drain_of_some P hstep, ih',
        List.filterMap_cons_some hm, List.cons_append]

/-- Whole frames of which at most the last does not parse are all consumed. -/
theorem drain_eq_of_dropLast {w : List UInt8}
    (hsized : ∀ f ∈ framing.frames w, WellSized f)
    (hrest : ¬ Oversized (framing.rest w))
    (hgood : ∀ f ∈ (framing.frames w).dropLast, (parseFrame P f).isSome) :
    drain P ⟨w⟩ =
      ((framing.frames w).filterMap (parseFrame P), ⟨framing.rest w⟩) := by
  have hpartial := drain_of_not_complete P hrest (framing.not_complete_rest w)
  conv_lhs => rw [← framing.flatten_frames_append_rest w]
  rcases List.eq_nil_or_concat (framing.frames w) with hnil | ⟨gs, b, hconcat⟩
  · rw [hnil]
    exact hpartial
  · rw [List.concat_eq_append] at hconcat
    rw [hconcat] at hsized hgood ⊢
    rw [List.dropLast_concat] at hgood
    have hgs : ∀ f ∈ gs, WellSized f ∧ (parseFrame P f).isSome := fun f hf =>
      ⟨hsized f (List.mem_append_left _ hf), hgood f hf⟩
    have hb : WellSized b := hsized b (List.mem_append_right _ List.mem_cons_self)
    rw [List.flatten_append, List.append_assoc, drain_flatten_append P hgs,
      List.filterMap_append, List.flatten_singleton]
    cases hparse : parseFrame P b with
    | none =>
        rw [drain_unparseable_append P hb hparse]
        simp [hparse]
    | some m =>
        have hone : ∀ f ∈ [b], WellSized f ∧ (parseFrame P f).isSome := by
          intro f hf
          rw [List.mem_singleton.mp hf]
          exact ⟨hb, by rw [hparse]; rfl⟩
        have hdrain := drain_flatten_append P hone (framing.rest w)
        rw [List.flatten_singleton, hpartial, List.append_nil] at hdrain
        rw [hdrain]

/-- A frame that does not parse leaves everything behind it in the buffer. -/
theorem drain_buffer_of_unparseable {gs : List (List UInt8)} {b y : List UInt8}
    (hgs : ∀ f ∈ gs, WellSized f ∧ (parseFrame P f).isSome) (hb : WellSized b)
    (hparse : parseFrame P b = none) :
    (drain P ⟨gs.flatten ++ (b ++ y)⟩).2 = ⟨y⟩ := by
  rw [drain_flatten_append P hgs, drain_unparseable_append P hb hparse]

/-!
## The read loop on a segmented stream of whole frames
-/

section Segmented

variable {fs : List (List UInt8)} {chunks : List (List UInt8)}

/-- What has arrived of the stream after `k` chunks, cut into frames. -/
theorem frames_received (hfs : ∀ f ∈ fs, WellSized f)
    (hchunks : chunks.flatten = fs.flatten) (k : ℕ) :
    fs = framing.frames (chunks.take k).flatten ++
        framing.frames (framing.rest (chunks.take k).flatten ++
          (chunks.drop k).flatten) ∧
      framing.rest (framing.rest (chunks.take k).flatten ++
        (chunks.drop k).flatten) = [] := by
  refine framing.frames_of_append_eq_flatten (fun f hf => (hfs f hf).1) ?_
  rw [← List.flatten_append, List.take_append_drop, hchunks]

theorem wellSized_of_received (hfs : ∀ f ∈ fs, WellSized f)
    (hchunks : chunks.flatten = fs.flatten) {k : ℕ} {f : List UInt8}
    (hf : f ∈ framing.frames (chunks.take k).flatten) : WellSized f := by
  refine hfs f ?_
  rw [(frames_received hfs hchunks k).1]
  exact List.mem_append_left _ hf

/-- The incomplete rest of what has arrived is a proper prefix of the next
frame, as long as there is one. -/
theorem rest_received (hfs : ∀ f ∈ fs, WellSized f)
    (hchunks : chunks.flatten = fs.flatten) (k : ℕ) :
    framing.rest (chunks.take k).flatten = [] ∨
      ∃ f gs, fs = framing.frames (chunks.take k).flatten ++ f :: gs ∧
        framing.rest (chunks.take k).flatten <+: f ∧
        framing.rest (chunks.take k).flatten ≠ f := by
  obtain ⟨hframes, hdone⟩ := frames_received hfs hchunks k
  generalize framing.frames (chunks.take k).flatten = front at hframes ⊢
  have hpartial := framing.not_complete_rest (chunks.take k).flatten
  generalize framing.rest (chunks.take k).flatten = r at hframes hdone hpartial ⊢
  cases hnext : framing.frames (r ++ (chunks.drop k).flatten) with
  | nil =>
      have hall := framing.flatten_frames_append_rest (r ++ (chunks.drop k).flatten)
      rw [hnext, hdone] at hall
      exact Or.inl (List.append_eq_nil_iff.mp hall.symm).1
  | cons f gs =>
      rw [hnext] at hframes
      have hf : WellSized f := by
        refine hfs f ?_
        rw [hframes]
        exact List.mem_append_right _ List.mem_cons_self
      have hpre : f <+: r ++ (chunks.drop k).flatten := by
        rw [← framing.flatten_frames_append_rest (r ++ (chunks.drop k).flatten),
          hnext, List.flatten_cons, List.append_assoc]
        exact List.prefix_append _ _
      exact Or.inr ⟨f, gs, hframes,
        framing.properPrefix_of_not_complete hpartial hf.1 hpre⟩

theorem wellSized_emptyFrame : WellSized [0, 0, 0, 0] := by
  refine ⟨⟨by decide, ?_⟩, by decide⟩
  rw [frameSize_framing]
  decide

theorem exists_wellSized_rest (hfs : ∀ f ∈ fs, WellSized f)
    (hchunks : chunks.flatten = fs.flatten) (k : ℕ) :
    ∃ f, WellSized f ∧ framing.rest (chunks.take k).flatten <+: f ∧
      framing.rest (chunks.take k).flatten ≠ f := by
  rcases rest_received hfs hchunks k with hnil | ⟨f, gs, hfs', hpre, hne⟩
  · rw [hnil]
    exact ⟨[0, 0, 0, 0], wellSized_emptyFrame, List.nil_prefix, by simp⟩
  · refine ⟨f, hfs f ?_, hpre, hne⟩
    rw [hfs']
    exact List.mem_append_right _ List.mem_cons_self

theorem not_oversized_of_prefix {r f : List UInt8} (hf : WellSized f)
    (hpre : r <+: f) : ¬ Oversized r := by
  obtain ⟨t, rfl⟩ := hpre
  exact fun h => hf.2 (Oversized.append h t)

/-- What one more chunk completes, in terms of what the previous ones left. -/
theorem completedBy_eq {k : ℕ} (hk : k < chunks.length) :
    completedBy chunks k =
      framing.frames (framing.rest (chunks.take k).flatten ++ chunks[k]) := by
  rw [completedBy, List.take_succ_eq_append_getElem hk, List.flatten_append,
    List.flatten_singleton, framing.frames_append, List.drop_left]

theorem rest_take_succ {k : ℕ} (hk : k < chunks.length) :
    framing.rest (chunks.take (k + 1)).flatten =
      framing.rest (framing.rest (chunks.take k).flatten ++ chunks[k]) := by
  rw [List.take_succ_eq_append_getElem hk, List.flatten_append,
    List.flatten_singleton, framing.rest_append]

theorem frames_take_succ {k : ℕ} (hk : k < chunks.length) :
    framing.frames (chunks.take (k + 1)).flatten =
      framing.frames (chunks.take k).flatten ++ completedBy chunks k := by
  rw [completedBy_eq hk, List.take_succ_eq_append_getElem hk,
    List.flatten_append, List.flatten_singleton, framing.frames_append]

theorem wellSized_of_completedBy (hfs : ∀ f ∈ fs, WellSized f)
    (hchunks : chunks.flatten = fs.flatten) {k : ℕ} (hk : k < chunks.length)
    {f : List UInt8} (hf : f ∈ completedBy chunks k) : WellSized f := by
  refine wellSized_of_received hfs hchunks (k := k + 1) ?_
  rw [frames_take_succ hk]
  exact List.mem_append_right _ hf

/-- The loop keeps up with the stream over one more chunk when a bad frame is
at most the last one the chunk completes. -/
theorem readLoop_take_succ_eq (hfs : ∀ f ∈ fs, WellSized f)
    (hchunks : chunks.flatten = fs.flatten) {k : ℕ} (hk : k < chunks.length)
    (hgood : ∀ f ∈ (completedBy chunks k).dropLast, (parseFrame P f).isSome)
    (hloop : readLoop P (chunks.take k) =
      ((framing.frames (chunks.take k).flatten).filterMap (parseFrame P),
        ⟨framing.rest (chunks.take k).flatten⟩)) :
    readLoop P (chunks.take (k + 1)) =
      ((framing.frames (chunks.take (k + 1)).flatten).filterMap (parseFrame P),
        ⟨framing.rest (chunks.take (k + 1)).flatten⟩) := by
  have hsized : ∀ f ∈ completedBy chunks k, WellSized f := fun f hf =>
    wellSized_of_completedBy hfs hchunks hk hf
  have hrest : ¬ Oversized (framing.rest (chunks.take (k + 1)).flatten) := by
    obtain ⟨f, hf, hpre, -⟩ := exists_wellSized_rest hfs hchunks (k + 1)
    exact not_oversized_of_prefix hf hpre
  rw [completedBy_eq hk] at hsized hgood
  rw [rest_take_succ hk] at hrest
  have hdrain := drain_eq_of_dropLast P hsized hrest hgood
  rw [readLoop_take_succ P hk, hloop, onRead, feed, hdrain, frames_take_succ hk,
    rest_take_succ hk, completedBy_eq hk, List.filterMap_append]

/-- As long as bad frames end their chunks, the loop has consumed exactly the
complete frames. -/
theorem readLoop_take_eq (hfs : ∀ f ∈ fs, WellSized f)
    (hchunks : chunks.flatten = fs.flatten) {k : ℕ} (hk : k ≤ chunks.length)
    (hgood : ∀ j < k, ∀ f ∈ (completedBy chunks j).dropLast,
      (parseFrame P f).isSome) :
    readLoop P (chunks.take k) =
      ((framing.frames (chunks.take k).flatten).filterMap (parseFrame P),
        ⟨framing.rest (chunks.take k).flatten⟩) := by
  induction k with
  | zero => simp
  | succ k ih =>
      have ih' := ih (Nat.le_of_succ_le hk) fun j hj =>
        hgood j (Nat.lt_succ_of_lt hj)
      exact readLoop_take_succ_eq P hfs hchunks hk
        (hgood k (Nat.lt_succ_self k)) ih'

/-- The first element of a list that fails a test, when it is not the last. -/
theorem exists_first_unparseable {gs : List (List UInt8)}
    (h : ¬ ∀ f ∈ gs.dropLast, (parseFrame P f).isSome) :
    ∃ front b back, gs = front ++ b :: back ∧ back ≠ [] ∧
      (∀ f ∈ front, (parseFrame P f).isSome) ∧ parseFrame P b = none := by
  induction gs with
  | nil => exact absurd (by simp) h
  | cons g gs ih =>
      have hgs : gs ≠ [] := by
        rintro rfl
        exact h (by simp)
      rw [List.dropLast_cons_of_ne_nil hgs] at h
      cases hg : parseFrame P g with
      | none => exact ⟨[], g, gs, rfl, hgs, by simp, hg⟩
      | some m =>
          have hsome : (parseFrame P g).isSome := by rw [hg]; rfl
          have htail : ¬ ∀ f ∈ gs.dropLast, (parseFrame P f).isSome := by
            intro hall
            exact h (List.forall_mem_cons.mpr ⟨hsome, hall⟩)
          obtain ⟨front, b, back, rfl, hback, hfront, hb⟩ := ih htail
          exact ⟨g :: front, b, back, rfl, hback,
            List.forall_mem_cons.mpr ⟨hsome, hfront⟩, hb⟩

/-- When the loop kept up before a chunk and keeps up after it, a bad frame is
at most the last one the chunk completes. -/
theorem good_of_not_complete (hfs : ∀ f ∈ fs, WellSized f)
    (hchunks : chunks.flatten = fs.flatten) {k : ℕ} (hk : k < chunks.length)
    (hloop : (readLoop P (chunks.take k)).2 =
      ⟨framing.rest (chunks.take k).flatten⟩)
    (hnext : ¬ framing.Complete (readLoop P (chunks.take (k + 1))).2.buffer) :
    ∀ f ∈ (completedBy chunks k).dropLast, (parseFrame P f).isSome := by
  by_contra hbad
  obtain ⟨front, b, back, heq, hback, hfront, hb⟩ := exists_first_unparseable P hbad
  have hsized : ∀ f ∈ front ++ b :: back, WellSized f := fun f hf =>
    wellSized_of_completedBy hfs hchunks hk (heq ▸ hf)
  have hgs : ∀ f ∈ front, WellSized f ∧ (parseFrame P f).isSome := fun f hf =>
    ⟨hsized f (List.mem_append_left _ hf), hfront f hf⟩
  have hbsized : WellSized b :=
    hsized b (List.mem_append_right _ List.mem_cons_self)
  have hw := framing.flatten_frames_append_rest
    (framing.rest (chunks.take k).flatten ++ chunks[k])
  rw [← completedBy_eq hk, heq, List.flatten_append, List.flatten_cons,
    List.append_assoc, List.append_assoc] at hw
  have hbuffer := drain_buffer_of_unparseable P
    (y := back.flatten ++ framing.rest
      (framing.rest (chunks.take k).flatten ++ chunks[k])) hgs hbsized hb
  rw [readLoop_take_succ P hk, onRead, feed, hloop, ← hw, hbuffer] at hnext
  -- the frame behind the bad one is still in the buffer, whole
  cases back with
  | nil => exact hback rfl
  | cons g gs =>
      have hg : WellSized g := hsized g (List.mem_append_right _
        (List.mem_cons_of_mem _ List.mem_cons_self))
      rw [List.flatten_cons, List.append_assoc] at hnext
      exact hnext (LengthPrefixed.Complete.append framing
        (LengthPrefixed.IsFrame.complete framing hg.1) _)

theorem DeliversComplete.not_complete {k : ℕ}
    (h : DeliversComplete P chunks k) :
    ¬ framing.Complete (readLoop P (chunks.take k)).2.buffer := by
  obtain ⟨-, ⟨f, hf, hpre, hne⟩, -⟩ := h
  exact framing.not_complete_of_properPrefix hf.1 hpre hne

theorem good_of_deliversComplete (hfs : ∀ f ∈ fs, WellSized f)
    (hchunks : chunks.flatten = fs.flatten)
    (h : ∀ k ≤ chunks.length, DeliversComplete P chunks k) {k : ℕ}
    (hk : k ≤ chunks.length) :
    ∀ j < k, ∀ f ∈ (completedBy chunks j).dropLast, (parseFrame P f).isSome := by
  induction k with
  | zero => simp
  | succ k ih =>
      have ih' := ih (Nat.le_of_succ_le hk)
      have hloop := readLoop_take_eq P hfs hchunks (Nat.le_of_succ_le hk) ih'
      have hlast := good_of_not_complete P hfs hchunks hk
        (congrArg Prod.snd hloop)
        (DeliversComplete.not_complete P (h (k + 1) hk))
      intro j hj
      rcases Nat.lt_succ_iff_lt_or_eq.mp hj with hlt | rfl
      · exact ih' j hlt
      · exact hlast

theorem wellSized_of_mem_map_encode {msgs : List M}
    (hsize : ∀ m ∈ msgs, (P.serializeAsString m).length ≤ maxMessageSize.toNat) :
    ∀ f ∈ msgs.map (encode P), WellSized f := by
  intro f hf
  obtain ⟨m, hm, rfl⟩ := List.mem_map.mp hf
  have hframe := isFrame_encode P (hsize m hm)
  exact ⟨hframe.1, hframe.2.1⟩

theorem parseFrame_encode
    (hround : ∀ m, P.parseFromArray (P.serializeAsString m) = some m) {m : M}
    (hsize : (P.serializeAsString m).length ≤ maxMessageSize.toNat) :
    parseFrame P (encode P m) = some m := by
  rw [parseFrame, (isFrame_encode P hsize).2.2, hround]

/-- Of the encoded messages exactly those whose last byte has been fed are
complete in what has been received. -/
theorem exists_take_received {msgs : List M}
    (hsize : ∀ m ∈ msgs, (P.serializeAsString m).length ≤ maxMessageSize.toNat)
    (hchunks : chunks.flatten = (msgs.map (encode P)).flatten) (k : ℕ) :
    ∃ j ≤ msgs.length,
      framing.frames (chunks.take k).flatten = (msgs.take j).map (encode P) ∧
      ((msgs.take j).map (encode P)).flatten.length ≤
        (chunks.take k).flatten.length ∧
      (j < msgs.length → (chunks.take k).flatten.length <
        ((msgs.take (j + 1)).map (encode P)).flatten.length) := by
  have hfs := wellSized_of_mem_map_encode P hsize
  have hsplit := (frames_received hfs hchunks k).1
  have hrest := rest_received hfs hchunks k
  have hall := framing.flatten_frames_append_rest (chunks.take k).flatten
  generalize framing.frames (chunks.take k).flatten = front at hsplit hrest hall ⊢
  generalize framing.rest (chunks.take k).flatten = r at hsplit hrest hall ⊢
  have hlength := congrArg List.length hsplit
  rw [List.length_map, List.length_append] at hlength
  have hfront : front = (msgs.take front.length).map (encode P) := by
    rw [List.map_take, hsplit, List.take_left]
  refine ⟨front.length, by omega, hfront, ?_, ?_⟩
  · rw [← hfront, ← hall, List.length_append]
    exact Nat.le_add_right _ _
  · intro hj
    cases hnext : framing.frames (r ++ (chunks.drop k).flatten) with
    | nil =>
        rw [hnext, List.length_nil] at hlength
        omega
    | cons f gs =>
        rw [hnext] at hsplit
        have hlt : r.length < f.length := by
          rcases hrest with rfl | ⟨g, gs', hg, hpre, hne⟩
          · have hf : WellSized f := by
              refine hfs f ?_
              rw [hsplit]
              exact List.mem_append_right _ List.mem_cons_self
            exact List.length_pos_iff.mpr (LengthPrefixed.IsFrame.ne_nil framing hf.1)
          · have hcons := List.append_cancel_left (hsplit.symm.trans hg)
            rw [(List.cons.inj hcons).1]
            exact lt_of_le_of_ne hpre.length_le fun hlen => hne (hpre.eq_of_length hlen)
        have hsucc : (msgs.take (front.length + 1)).map (encode P) = front ++ [f] := by
          rw [List.map_take, hsplit, List.take_length_add_append]
          rfl
        rw [hsucc, ← hall, List.flatten_append, List.flatten_singleton,
          List.length_append, List.length_append]
        omega

theorem filterMap_parseFrame_map_encode
    (hround : ∀ m, P.parseFromArray (P.serializeAsString m) = some m)
    {msgs : List M}
    (hsize : ∀ m ∈ msgs, (P.serializeAsString m).length ≤ maxMessageSize.toNat) :
    (msgs.map (encode P)).filterMap (parseFrame P) = msgs := by
  induction msgs with
  | nil => rfl
  | cons m msgs ih =>
      have ih' := ih fun m' hm' => hsize m' (List.mem_cons_of_mem _ hm')
      have hparse := parseFrame_encode P hround (hsize m List.mem_cons_self)
      rw [List.map_cons, List.filterMap_cons_some hparse, ih']

/-- Framing round trip: the encoding of a list of messages is dispatched as
that very list under every segmentation, each message right after the chunk that
brings its last byte. -/
theorem readLoop_encode
    (hround : ∀ m, P.parseFromArray (P.serializeAsString m) = some m)
    {msgs : List M}
    (hsize : ∀ m ∈ msgs, (P.serializeAsString m).length ≤ maxMessageSize.toNat)
    (hchunks : chunks.flatten = (msgs.map (encode P)).flatten) :
    (∀ k ≤ chunks.length, ∃ j ≤ msgs.length,
      (readLoop P (chunks.take k)).1 = msgs.take j ∧
      ((msgs.take j).map (encode P)).flatten.length ≤
        (chunks.take k).flatten.length ∧
      (j < msgs.length → (chunks.take k).flatten.length <
        ((msgs.take (j + 1)).map (encode P)).flatten.length)) ∧
    readLoop P chunks = (msgs, {}) := by
  have hfs := wellSized_of_mem_map_encode P hsize
  have hgood : ∀ k < chunks.length, ∀ f ∈ (completedBy chunks k).dropLast,
      (parseFrame P f).isSome := by
    intro k hk f hf
    have hmem : f ∈ msgs.map (encode P) := by
      rw [(frames_received hfs hchunks (k + 1)).1, frames_take_succ hk]
      exact List.mem_append_left _
        (List.mem_append_right _ (List.mem_of_mem_dropLast hf))
    obtain ⟨m, hm, rfl⟩ := List.mem_map.mp hmem
    rw [parseFrame_encode P hround (hsize m hm)]
    rfl
  refine ⟨?_, ?_⟩
  · intro k hk
    have hloop := readLoop_take_eq P hfs hchunks hk fun j hj =>
      hgood j (Nat.lt_of_lt_of_le hj hk)
    obtain ⟨j, hj, hframes, hle, hlt⟩ := exists_take_received P hsize hchunks k
    have hsize' : ∀ m ∈ msgs.take j,
        (P.serializeAsString m).length ≤ maxMessageSize.toNat := fun m hm =>
      hsize m (List.mem_of_mem_take hm)
    refine ⟨j, hj, ?_, hle, hlt⟩
    rw [hloop, hframes, filterMap_parseFrame_map_encode P hround hsize']
  · have hloop := readLoop_take_eq P hfs hchunks le_rfl hgood
    have hwhole := framing.frames_flatten_append (fun f hf => (hfs f hf).1) []
    have hrest := framing.rest_flatten_append (fun f hf => (hfs f hf).1) []
    rw [List.append_nil] at hwhole hrest
    rw [List.take_length, hchunks, hwhole, hrest, framing.frames_nil,
      List.append_nil, framing.rest_nil,
      filterMap_parseFrame_map_encode P hround hsize] at hloop
    exact hloop

/-- The read loop keeps up with a segmented stream of whole frames, some of
which do not parse, exactly when every frame that does not parse is the last
one its chunk completes. -/
theorem deliversComplete_iff (hfs : ∀ f ∈ fs, WellSized f)
    (hchunks : chunks.flatten = fs.flatten) :
    (∀ k ≤ chunks.length, DeliversComplete P chunks k) ↔
      BadFramesEndChunks P chunks := by
  constructor
  · intro h k hk
    exact good_of_deliversComplete P hfs hchunks h le_rfl k hk
  · intro hgood k hk
    have hloop := readLoop_take_eq P hfs hchunks hk fun j hj =>
      hgood j (Nat.lt_of_lt_of_le hj hk)
    obtain ⟨f, hf, hpre, hne⟩ := exists_wellSized_rest hfs hchunks k
    have hlt : (framing.rest (chunks.take k).flatten).length < f.length :=
      lt_of_le_of_ne hpre.length_le fun hlen => hne (hpre.eq_of_length hlen)
    rw [DeliversComplete, hloop]
    exact ⟨rfl, ⟨f, hf, hpre, hne⟩, hlt.trans_le hf.length_le⟩

end Segmented

/-!
## Small messages

A message class serialises the fields that are set. Every class parses the empty body as the
message with no field set, and refuses a body that ends inside a tag.
-/

/-- A message class with one field, a flag: it is serialised where it is set. -/
def flagMessage : ProtoMessage Bool where
  parseFromArray bytes :=
    if bytes = [] then some false else if bytes = [8, 1] then some true else none
  serializeAsString flag := if flag then [8, 1] else []

/-- A flag that is set and one that is not, cut inside the first header, inside the body
and inside the second header. -/
theorem readLoop_encode_flagMessage :
    (∀ k ≤ 4, ∃ j ≤ 2,
      (readLoop flagMessage ([[2, 0], [0, 0, 8], [1, 0], [0, 0, 0]].take k)).1 =
        [true, false].take j ∧
      (([true, false].take j).map (encode flagMessage)).flatten.length ≤
        ([[2, 0], [0, 0, 8], [1, 0], [0, 0, (0 : UInt8)]].take k).flatten.length ∧
      (j < 2 → ([[2, 0], [0, 0, 8], [1, 0], [0, 0, (0 : UInt8)]].take k).flatten.length <
        (([true, false].take (j + 1)).map (encode flagMessage)).flatten.length)) ∧
    readLoop flagMessage [[2, 0], [0, 0, 8], [1, 0], [0, 0, 0]] = ([true, false], {}) := by
  have hchunks : ([[2, 0], [0, 0, 8], [1, 0], [0, 0, 0]] : List (List UInt8)).flatten =
      ([true, false].map (encode flagMessage)).flatten := by decide
  exact readLoop_encode flagMessage (by decide) (by decide) hchunks

/-- A message class restricted to the message with no field set. -/
def emptyMessage : ProtoMessage Unit where
  parseFromArray bytes := if bytes = [] then some () else none
  serializeAsString _ := []

theorem wellSized_badFrame : WellSized [1, 0, 0, 0, 255] := by
  refine ⟨⟨by decide, ?_⟩, by decide⟩
  rw [frameSize_framing]
  decide

theorem deliversComplete_iff_emptyMessage :
    (∀ k ≤ 2, DeliversComplete emptyMessage [[1, 0, 0, 0, 255], [0, 0, 0, 0]] k) ↔
      BadFramesEndChunks emptyMessage [[1, 0, 0, 0, 255], [0, 0, 0, 0]] :=
  deliversComplete_iff emptyMessage
    (List.forall_mem_cons.mpr ⟨wellSized_badFrame,
      List.forall_mem_singleton.mpr wellSized_emptyFrame⟩) rfl

/-- A frame that does not parse and an empty message behind it, in one chunk:
the empty message is not dispatched. -/
theorem not_deliversComplete_badFrame_emptyFrame :
    WellSized [1, 0, 0, 0, 255] ∧ WellSized [0, 0, 0, 0] ∧
      parseFrame emptyMessage [0, 0, 0, 0] = some () ∧
      readLoop emptyMessage [[1, 0, 0, 0, 255, 0, 0, 0, 0]] =
        ([], ⟨[0, 0, 0, 0]⟩) ∧
      ¬ DeliversComplete emptyMessage [[1, 0, 0, 0, 255, 0, 0, 0, 0]] 1 := by
  have hloop : readLoop emptyMessage [[1, 0, 0, 0, 255, 0, 0, 0, 0]] =
      ([], ⟨[0, 0, 0, 0]⟩) := by
    exact onRead_of_drain emptyMessage (drain_unparseable_append emptyMessage
      wellSized_badFrame (by decide) [0, 0, 0, 0])
  refine ⟨wellSized_badFrame, wellSized_emptyFrame, by decide, hloop, ?_⟩
  intro h
  have hpartial := DeliversComplete.not_complete emptyMessage h
  rw [List.take_of_length_le (by decide), hloop] at hpartial
  exact hpartial (LengthPrefixed.IsFrame.complete framing wellSized_emptyFrame.1)

end Protocol

end SosBackend
