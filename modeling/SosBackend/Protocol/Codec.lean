import SosBackend.Library.LengthPrefixed

/-!
# The codec and the sessions' read loop

A message travels as a four-byte little-endian length followed by its
serialised bytes. `feed` buffers received bytes, `tryDecode` takes at most one
message off the buffer, and the read completion handler of every session runs
`feed(chunk); while (tryDecode()) dispatch`. The generated message class is a
parameter `P`: its `ParseFromArray` and `SerializeAsString` are not part of this
repository.

`framing` is the wire format itself, as an instance of `LengthPrefixed`; the
lemmas on `tryDecode` say which frame of it one call takes off the buffer.
-/

namespace SosBackend

namespace Protocol

/-- What the codec uses of a generated message class. -/
structure ProtoMessage (M : Type*) where
  parseFromArray : List UInt8 → Option M
  serializeAsString : M → List UInt8

/-- `MAX_MESSAGE_SIZE`, one megabyte. -/
def maxMessageSize : UInt32 := 1024 * 1024

theorem toNat_maxMessageSize : maxMessageSize.toNat = 1048576 := by decide

/-- `Codec`, the reassembly buffer of one connection. -/
structure Codec where
  buffer : List UInt8 := []
deriving DecidableEq, Repr

/-- The little-endian length in the first four bytes of the buffer. -/
def declaredLength (buffer : List UInt8) : UInt32 :=
  (buffer.getD 0 0).toUInt32 ||| ((buffer.getD 1 0).toUInt32 <<< 8) |||
    ((buffer.getD 2 0).toUInt32 <<< 16) ||| ((buffer.getD 3 0).toUInt32 <<< 24)

/-- `Codec::feed`. -/
def feed (c : Codec) (data : List UInt8) : Codec :=
  { c with buffer := c.buffer ++ data }

/-- `Codec::tryDecode`. The three reasons to return nothing are told apart only
by what they leave in the buffer. -/
def tryDecode {M : Type*} (P : ProtoMessage M) (c : Codec) : Option M × Codec :=
  if c.buffer.length < 4 then (none, c)
  else if maxMessageSize < declaredLength c.buffer then
    (none, { c with buffer := [] })
  else if c.buffer.length < (4 + declaredLength c.buffer).toNat then (none, c)
  else
    (P.parseFromArray
        ((c.buffer.drop 4).take (declaredLength c.buffer).toNat),
      { c with buffer := c.buffer.drop (4 + declaredLength c.buffer).toNat })

/-- The header `Codec::encode` writes in front of a body. -/
def encodeHeader (length : UInt32) : List UInt8 :=
  [length.toUInt8, (length >>> 8).toUInt8, (length >>> 16).toUInt8,
    (length >>> 24).toUInt8]

/-- `Codec::encode`. The length is truncated to 32 bits, and that many bytes
of the serialisation are copied. -/
def encode {M : Type*} (P : ProtoMessage M) (message : M) : List UInt8 :=
  let serialized := P.serializeAsString message
  let length := UInt32.ofNat serialized.length
  encodeHeader length ++ serialized.take length.toNat

/-!
## The wire format
-/

/-- The wire format: a four-byte header that declares the length of the body. -/
def framing : LengthPrefixed UInt8 where
  headerSize := 4
  headerSize_pos := by decide
  bodyLength header := (declaredLength header).toNat

@[simp] theorem headerSize_framing : framing.headerSize = 4 := rfl

@[simp] theorem bodyLength_framing (header : List UInt8) :
    framing.bodyLength header = (declaredLength header).toNat := rfl

/-- The header that has arrived declares more than `MAX_MESSAGE_SIZE`. -/
def Oversized (x : List UInt8) : Prop :=
  4 ≤ x.length ∧ maxMessageSize < declaredLength x

instance (x : List UInt8) : Decidable (Oversized x) :=
  inferInstanceAs (Decidable (_ ∧ _))

/-- The message a frame carries, if its body parses. -/
def parseFrame {M : Type*} (P : ProtoMessage M) (f : List UInt8) : Option M :=
  P.parseFromArray (framing.body f)

/-- The declared length is read from the header alone. -/
theorem declaredLength_take (x : List UInt8) :
    declaredLength (x.take 4) = declaredLength x := by
  simp [declaredLength, List.getD_eq_getElem?_getD]

theorem frameSize_framing (x : List UInt8) :
    framing.frameSize x = 4 + (declaredLength x).toNat := by
  rw [LengthPrefixed.frameSize, headerSize_framing, bodyLength_framing,
    declaredLength_take]

theorem declaredLength_append {x : List UInt8} (h : 4 ≤ x.length) (y : List UInt8) :
    declaredLength (x ++ y) = declaredLength x := by
  rw [← declaredLength_take (x ++ y), List.take_append_of_le_length h,
    declaredLength_take]

theorem Oversized.append {x : List UInt8} (h : Oversized x) (y : List UInt8) :
    Oversized (x ++ y) := by
  refine ⟨?_, ?_⟩
  · rw [List.length_append]
    exact h.1.trans (Nat.le_add_right _ _)
  · rw [declaredLength_append h.1]
    exact h.2

/-- One byte of a 32-bit word, shifted back to its place. -/
theorem getElem_byte (w : BitVec 32) (k i : ℕ) (hi : i < 32) :
    ((((w >>> k).setWidth 8).setWidth 32) <<< k)[i] =
      (decide (k ≤ i ∧ i < k + 8) && w[i]) := by
  rw [BitVec.getElem_shiftLeft]
  by_cases hk : i < k
  · have h : ¬ (k ≤ i ∧ i < k + 8) := by omega
    simp [hk, h]
  · by_cases h8 : i - k < 8
    · have h : k ≤ i ∧ i < k + 8 := by omega
      have hadd : k + (i - k) = i := by omega
      simp [hk, h8, h, hadd, BitVec.getLsbD_eq_getElem hi]
    · have h : ¬ (k ≤ i ∧ i < k + 8) := by omega
      simp [hk, h8, h]

/-- Reading back the header that `encode` writes. -/
theorem declaredLength_encodeHeader (length : UInt32) (x : List UInt8) :
    declaredLength (encodeHeader length ++ x) = length := by
  simp only [declaredLength, encodeHeader, List.cons_append,
    List.getD_cons_zero, List.getD_cons_succ]
  apply UInt32.eq_of_toBitVec_eq
  simp only [UInt32.toBitVec_or, UInt32.toBitVec_shiftLeft,
    UInt8.toBitVec_toUInt32, UInt32.toBitVec_toUInt8, UInt32.toBitVec_shiftRight]
  ext i hi
  have h₀ := getElem_byte length.toBitVec 0 i hi
  have h₁ := getElem_byte length.toBitVec 8 i hi
  have h₂ := getElem_byte length.toBitVec 16 i hi
  have h₃ := getElem_byte length.toBitVec 24 i hi
  simp only [BitVec.ushiftRight_zero, BitVec.shiftLeft_zero] at h₀
  simp only [BitVec.getElem_or, h₀]
  refine Eq.trans (congrArg₂ _ (congrArg₂ _ (congrArg₂ _ rfl h₁) h₂) h₃) ?_
  -- the four bytes cover the word: every bit lies in exactly one of them
  grind

section encode

variable {M : Type*} (P : ProtoMessage M) (m : M)

theorem declaredLength_encode :
    declaredLength (encode P m) = UInt32.ofNat (P.serializeAsString m).length := by
  rw [encode, declaredLength_encodeHeader]

theorem length_encode :
    (encode P m).length = 4 + (UInt32.ofNat (P.serializeAsString m).length).toNat := by
  have hle : (UInt32.ofNat (P.serializeAsString m).length).toNat ≤
      (P.serializeAsString m).length := by
    rw [UInt32.toNat_ofNat']
    exact Nat.mod_le _ _
  rw [encode, List.length_append, List.length_take_of_le hle]
  rfl

/-- Whatever is encoded is one whole frame. -/
theorem encode_isFrame : framing.IsFrame (encode P m) := by
  constructor
  · rw [length_encode]
    exact Nat.le_add_right _ _
  · rw [length_encode, frameSize_framing, declaredLength_encode]

end encode

/-- A message that fits is encoded as one whole frame with its serialisation as
the body. -/
theorem isFrame_encode {M : Type*} (P : ProtoMessage M) {m : M}
    (h : (P.serializeAsString m).length ≤ maxMessageSize.toNat) :
    framing.IsFrame (encode P m) ∧ ¬ Oversized (encode P m) ∧
      framing.body (encode P m) = P.serializeAsString m := by
  have hsize : (UInt32.ofNat (P.serializeAsString m).length).toNat =
      (P.serializeAsString m).length := by
    rw [toNat_maxMessageSize] at h
    exact UInt32.toNat_ofNat_of_lt' (by simp only [UInt32.size]; omega)
  refine ⟨encode_isFrame P m, ?_, ?_⟩
  · rintro ⟨-, hlt⟩
    rw [declaredLength_encode, UInt32.lt_iff_toNat_lt, hsize] at hlt
    omega
  · rw [LengthPrefixed.body, encode, hsize, List.take_length]
    rfl

/-!
## One call of `tryDecode`
-/

section TryDecode

variable {M : Type*} (P : ProtoMessage M)

theorem toNat_declaredLength_le {x : List UInt8} (hlen : 4 ≤ x.length)
    (h : ¬ Oversized x) : (declaredLength x).toNat ≤ maxMessageSize.toNat := by
  by_contra hlt
  exact h ⟨hlen, UInt32.lt_iff_toNat_lt.mpr (by omega)⟩

/-- The sum `4 + length` does not wrap once the length has been checked. -/
theorem toNat_four_add_declaredLength {x : List UInt8} (hlen : 4 ≤ x.length)
    (h : ¬ Oversized x) :
    (4 + declaredLength x).toNat = framing.frameSize x := by
  have hle := toNat_declaredLength_le hlen h
  rw [toNat_maxMessageSize] at hle
  rw [frameSize_framing, UInt32.toNat_add]
  have hfour : (4 : UInt32).toNat = 4 := by decide
  rw [hfour, Nat.mod_eq_of_lt (by omega)]

theorem tryDecode_of_oversized {x : List UInt8} (h : Oversized x) :
    tryDecode P ⟨x⟩ = (none, ⟨[]⟩) := by
  rw [tryDecode, if_neg (by simpa using h.1), if_pos h.2]

theorem tryDecode_of_not_complete {x : List UInt8} (hover : ¬ Oversized x)
    (h : ¬ framing.Complete x) : tryDecode P ⟨x⟩ = (none, ⟨x⟩) := by
  rw [tryDecode]
  by_cases hlen : x.length < 4
  · rw [if_pos hlen]
  · have hle : 4 ≤ x.length := Nat.le_of_not_lt hlen
    have hshort : x.length < (4 + declaredLength x).toNat := by
      rw [toNat_four_add_declaredLength hle hover]
      by_contra hge
      exact h ⟨hle, Nat.le_of_not_lt hge⟩
    rw [if_neg hlen, if_neg fun hlt => hover ⟨hle, hlt⟩, if_pos hshort]

theorem tryDecode_of_complete {x : List UInt8} (hover : ¬ Oversized x)
    (h : framing.Complete x) :
    tryDecode P ⟨x⟩ =
      (parseFrame P (x.take (framing.frameSize x)),
        ⟨x.drop (framing.frameSize x)⟩) := by
  have hle : 4 ≤ x.length := h.1
  have hsize := toNat_four_add_declaredLength hle hover
  have hlong : ¬ x.length < (4 + declaredLength x).toNat := by
    rw [hsize]
    exact Nat.not_lt.mpr h.2
  have hbody : framing.body (x.take (framing.frameSize x)) =
      (x.drop 4).take (declaredLength x).toNat := by
    rw [LengthPrefixed.body, headerSize_framing, frameSize_framing,
      List.drop_take, Nat.add_sub_cancel_left]
  rw [tryDecode, if_neg (Nat.not_lt.mpr hle), if_neg fun hlt => hover ⟨hle, hlt⟩,
    if_neg hlong]
  simp only [parseFrame, hbody, hsize]

/-- Every decoded message shortens the buffer, so the drain loop ends. -/
theorem length_tryDecode_lt {c c' : Codec} {m : M}
    (h : tryDecode P c = (some m, c')) : c'.buffer.length < c.buffer.length := by
  obtain ⟨x⟩ := c
  by_cases hover : Oversized x
  · rw [tryDecode_of_oversized P hover] at h
    cases h
  · by_cases hcomplete : framing.Complete x
    · rw [tryDecode_of_complete P hover hcomplete, Prod.mk.injEq] at h
      rw [← h.2]
      exact LengthPrefixed.Complete.length_drop_lt framing hcomplete
    · rw [tryDecode_of_not_complete P hover hcomplete] at h
      cases h

end TryDecode

/-!
## The read loop
-/

section ReadLoop

variable {M : Type*} (P : ProtoMessage M)

/-- The drain loop `while (auto envelope = codec_.tryDecode()) dispatch`: the
messages it dispatches and the codec it leaves. -/
def drain (P : ProtoMessage M) (c : Codec) : List M × Codec :=
  match _h : tryDecode P c with
  | (none, c') => ([], c')
  | (some m, c') => (m :: (drain P c').1, (drain P c').2)
termination_by c.buffer.length
decreasing_by all_goals exact length_tryDecode_lt P _h

/-- The read completion handler: feed the chunk, then drain. The first
component collects what has been dispatched so far. -/
def onRead (P : ProtoMessage M) (s : List M × Codec) (chunk : List UInt8) :
    List M × Codec :=
  (s.1 ++ (drain P (feed s.2 chunk)).1, (drain P (feed s.2 chunk)).2)

/-- The read loop of a fresh session over the chunks it receives. -/
def readLoop (P : ProtoMessage M) (chunks : List (List UInt8)) : List M × Codec :=
  chunks.foldl (onRead P) ([], {})

theorem drain_of_none {c c' : Codec} (h : tryDecode P c = (none, c')) :
    drain P c = ([], c') := by
  rw [drain]
  split
  · next heq =>
      rw [h] at heq
      cases heq
      rfl
  · next heq =>
      rw [h] at heq
      cases heq

theorem drain_of_some {c c' : Codec} {m : M} (h : tryDecode P c = (some m, c')) :
    drain P c = (m :: (drain P c').1, (drain P c').2) := by
  rw [drain]
  split
  · next heq =>
      rw [h] at heq
      cases heq
  · next heq =>
      rw [h] at heq
      cases heq
      rfl

/-- Induction along the drain loop. -/
@[elab_as_elim] theorem drainInduction {motive : Codec → Prop}
    (stop : ∀ c c', tryDecode P c = (none, c') → motive c)
    (message : ∀ c m c', tryDecode P c = (some m, c') → motive c' → motive c)
    (c : Codec) : motive c := by
  cases h : tryDecode P c with
  | mk r c' =>
      cases r with
      | none => exact stop c c' h
      | some m => exact message c m c' h (drainInduction stop message c')
termination_by c.buffer.length
decreasing_by exact length_tryDecode_lt P h

theorem onRead_of_drain {s : List M × Codec} {chunk : List UInt8} {ms : List M}
    {c : Codec} (h : drain P ⟨s.2.buffer ++ chunk⟩ = (ms, c)) :
    onRead P s chunk = (s.1 ++ ms, c) := by
  rw [onRead, feed, h]

@[simp] theorem readLoop_nil : readLoop P [] = ([], {}) := rfl

theorem readLoop_append_singleton (chunks : List (List UInt8)) (chunk : List UInt8) :
    readLoop P (chunks ++ [chunk]) = onRead P (readLoop P chunks) chunk := by
  rw [readLoop, List.foldl_append]
  rfl

/-- The read loop after one more chunk of a longer segmentation. -/
theorem readLoop_take_succ {chunks : List (List UInt8)} {k : ℕ}
    (hk : k < chunks.length) :
    readLoop P (chunks.take (k + 1)) =
      onRead P (readLoop P (chunks.take k)) chunks[k] := by
  rw [List.take_succ_eq_append_getElem hk, readLoop_append_singleton]

end ReadLoop

end Protocol

end SosBackend
