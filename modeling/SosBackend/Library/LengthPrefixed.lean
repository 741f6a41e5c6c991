import Mathlib.Data.List.Basic
import Mathlib.Data.List.Infix

/-!
# Length-prefixed framing of a stream

A frame is a header of a fixed size followed by a body whose length the header
declares. `F.frames x` cuts the stream `x` into its complete frames and
`F.rest x` is what is left, a proper prefix of the next frame. Both are stable
under appending: what has been cut off a prefix of a stream is cut off the same
way once more input is there, so cutting never depends on how the stream
arrives. `F.Boundary x o` says that a frame of `x` may start at the offset `o`.
-/

namespace SosBackend

/-- A framing by a header of `headerSize` symbols that declares the length of
the body behind it. -/
structure LengthPrefixed (β : Type*) where
  headerSize : ℕ
  headerSize_pos : 0 < headerSize
  bodyLength : List β → ℕ

namespace LengthPrefixed

variable {β : Type*} (F : LengthPrefixed β)

/-- The length of the first frame of `x`, header included, as its header
declares it. -/
def frameSize (x : List β) : ℕ :=
  F.headerSize + F.bodyLength (x.take F.headerSize)

/-- The first frame of `x` has arrived completely. -/
def Complete (x : List β) : Prop :=
  F.headerSize ≤ x.length ∧ F.frameSize x ≤ x.length

instance (x : List β) : Decidable (F.Complete x) :=
  inferInstanceAs (Decidable (_ ∧ _))

/-- `f` is one whole frame. -/
def IsFrame (f : List β) : Prop :=
  F.headerSize ≤ f.length ∧ f.length = F.frameSize f

instance (f : List β) : Decidable (F.IsFrame f) :=
  inferInstanceAs (Decidable (_ ∧ _))

/-- The body of a frame. -/
def body (f : List β) : List β := f.drop F.headerSize

theorem frameSize_pos (x : List β) : 0 < F.frameSize x :=
  Nat.lt_of_lt_of_le F.headerSize_pos (Nat.le_add_right _ _)

theorem Complete.length_drop_lt {x : List β} (h : F.Complete x) :
    (x.drop (F.frameSize x)).length < x.length := by
  have hpos := F.frameSize_pos x
  have hle := h.2
  rw [List.length_drop]
  omega

/-- The complete frames of `x`, in order. -/
def frames (x : List β) : List (List β) :=
  if _h : F.Complete x then
    x.take (F.frameSize x) :: frames (x.drop (F.frameSize x))
  else []
termination_by x.length
decreasing_by exact Complete.length_drop_lt F _h

/-- What is left of `x` behind its complete frames. -/
def rest (x : List β) : List β :=
  if _h : F.Complete x then rest (x.drop (F.frameSize x)) else x
termination_by x.length
decreasing_by exact Complete.length_drop_lt F _h

theorem frames_of_complete {x : List β} (h : F.Complete x) :
    F.frames x = x.take (F.frameSize x) :: F.frames (x.drop (F.frameSize x)) := by
  rw [frames, dif_pos h]

theorem frames_of_not_complete {x : List β} (h : ¬ F.Complete x) :
    F.frames x = [] := by
  rw [frames, dif_neg h]

theorem rest_of_complete {x : List β} (h : F.Complete x) :
    F.rest x = F.rest (x.drop (F.frameSize x)) := by
  rw [rest, dif_pos h]

theorem rest_of_not_complete {x : List β} (h : ¬ F.Complete x) :
    F.rest x = x := by
  rw [rest, dif_neg h]

theorem not_complete_nil : ¬ F.Complete ([] : List β) := by
  intro h
  have hpos := F.headerSize_pos
  have hlen := h.1
  rw [List.length_nil] at hlen
  omega

@[simp] theorem frames_nil : F.frames ([] : List β) = [] :=
  F.frames_of_not_complete F.not_complete_nil

@[simp] theorem rest_nil : F.rest ([] : List β) = [] :=
  F.rest_of_not_complete F.not_complete_nil

/-- More input does not change what a header that has arrived declares. -/
theorem frameSize_append {x : List β} (h : F.headerSize ≤ x.length) (y : List β) :
    F.frameSize (x ++ y) = F.frameSize x := by
  rw [frameSize, frameSize, List.take_append_of_le_length h]

theorem Complete.append {x : List β} (h : F.Complete x) (y : List β) :
    F.Complete (x ++ y) := by
  refine ⟨?_, ?_⟩
  · rw [List.length_append]
    exact h.1.trans (Nat.le_add_right _ _)
  · rw [F.frameSize_append h.1, List.length_append]
    exact h.2.trans (Nat.le_add_right _ _)

/-- The frame cut off the front of a stream is a whole frame. -/
theorem Complete.isFrame_take {x : List β} (h : F.Complete x) :
    F.IsFrame (x.take (F.frameSize x)) := by
  have hlen : (x.take (F.frameSize x)).length = F.frameSize x :=
    List.length_take_of_le h.2
  have hheader : F.headerSize ≤ F.frameSize x := Nat.le_add_right _ _
  refine ⟨?_, ?_⟩
  · rw [hlen]
    exact hheader
  · rw [hlen]
    conv_rhs => rw [frameSize, List.take_take, min_eq_left hheader]
    rfl

theorem IsFrame.complete {f : List β} (h : F.IsFrame f) : F.Complete f :=
  ⟨h.1, h.2.ge⟩

theorem IsFrame.ne_nil {f : List β} (h : F.IsFrame f) : f ≠ [] := by
  rintro rfl
  exact F.not_complete_nil (IsFrame.complete F h)

/-- A frame in front of a stream is cut off exactly. -/
theorem frames_append_of_isFrame {f : List β} (h : F.IsFrame f) (y : List β) :
    F.frames (f ++ y) = f :: F.frames y := by
  have hsize : F.frameSize (f ++ y) = f.length := by
    rw [F.frameSize_append h.1, ← h.2]
  rw [F.frames_of_complete (Complete.append F (IsFrame.complete F h) y), hsize]
  rw [List.take_left, List.drop_left]

theorem rest_append_of_isFrame {f : List β} (h : F.IsFrame f) (y : List β) :
    F.rest (f ++ y) = F.rest y := by
  have hsize : F.frameSize (f ++ y) = f.length := by
    rw [F.frameSize_append h.1, ← h.2]
  rw [F.rest_of_complete (Complete.append F (IsFrame.complete F h) y), hsize,
    List.drop_left]

theorem frames_flatten_append {fs : List (List β)} (h : ∀ f ∈ fs, F.IsFrame f)
    (y : List β) : F.frames (fs.flatten ++ y) = fs ++ F.frames y := by
  induction fs with
  | nil => simp
  | cons f fs ih =>
      have ih' := ih fun g hg => h g (List.mem_cons_of_mem _ hg)
      rw [List.flatten_cons, List.append_assoc,
        F.frames_append_of_isFrame (h f List.mem_cons_self), ih', List.cons_append]

theorem rest_flatten_append {fs : List (List β)} (h : ∀ f ∈ fs, F.IsFrame f)
    (y : List β) : F.rest (fs.flatten ++ y) = F.rest y := by
  induction fs with
  | nil => simp
  | cons f fs ih =>
      have ih' := ih fun g hg => h g (List.mem_cons_of_mem _ hg)
      rw [List.flatten_cons, List.append_assoc,
        F.rest_append_of_isFrame (h f List.mem_cons_self), ih']

/-- Induction over a stream by cutting off its first frame. -/
@[elab_as_elim] theorem cutInduction {motive : List β → Prop}
    (partialFrame : ∀ x, ¬ F.Complete x → motive x)
    (frame : ∀ x, F.Complete x → motive (x.drop (F.frameSize x)) → motive x)
    (x : List β) : motive x := by
  by_cases h : F.Complete x
  · exact frame x h (cutInduction partialFrame frame _)
  · exact partialFrame x h
termination_by x.length
decreasing_by exact Complete.length_drop_lt F h

/-- Cutting loses nothing. -/
theorem flatten_frames_append_rest (x : List β) :
    (F.frames x).flatten ++ F.rest x = x := by
  induction x using F.cutInduction with
  | partialFrame x h =>
      rw [F.frames_of_not_complete h, F.rest_of_not_complete h]
      rfl
  | frame x h ih =>
      rw [F.frames_of_complete h, F.rest_of_complete h, List.flatten_cons,
        List.append_assoc, ih, List.take_append_drop]

theorem isFrame_of_mem_frames {x f : List β} (hf : f ∈ F.frames x) :
    F.IsFrame f := by
  induction x using F.cutInduction with
  | partialFrame x h =>
      rw [F.frames_of_not_complete h] at hf
      exact absurd hf (List.not_mem_nil)
  | frame x h ih =>
      rw [F.frames_of_complete h, List.mem_cons] at hf
      rcases hf with rfl | hf
      · exact Complete.isFrame_take F h
      · exact ih hf

/-- Behind the complete frames no complete frame is left. -/
theorem not_complete_rest (x : List β) : ¬ F.Complete (F.rest x) := by
  induction x using F.cutInduction with
  | partialFrame x h =>
      rw [F.rest_of_not_complete h]
      exact h
  | frame x h ih =>
      rw [F.rest_of_complete h]
      exact ih

/-- Cutting is independent of how the stream arrives: the frames of `x ++ y`
are those of `x`, followed by those of what `x` left with `y` behind it. -/
theorem frames_append (x y : List β) :
    F.frames (x ++ y) = F.frames x ++ F.frames (F.rest x ++ y) := by
  conv_lhs => rw [← F.flatten_frames_append_rest x, List.append_assoc]
  exact F.frames_flatten_append (fun _ hf => F.isFrame_of_mem_frames hf) _

theorem rest_append (x y : List β) :
    F.rest (x ++ y) = F.rest (F.rest x ++ y) := by
  conv_lhs => rw [← F.flatten_frames_append_rest x, List.append_assoc]
  exact F.rest_flatten_append (fun _ hf => F.isFrame_of_mem_frames hf) _

/-- A stream that ends with a whole frame is cut exactly there, wherever it is
split: the frames complete in `x` come first, and `y` completes the others. -/
theorem frames_of_append_eq_flatten {fs : List (List β)} (h : ∀ f ∈ fs, F.IsFrame f)
    {x y : List β} (hxy : x ++ y = fs.flatten) :
    fs = F.frames x ++ F.frames (F.rest x ++ y) ∧ F.rest (F.rest x ++ y) = [] := by
  have hframes := F.frames_flatten_append h []
  have hrest := F.rest_flatten_append h []
  rw [List.append_nil, ← hxy] at hframes hrest
  rw [frames_nil, List.append_nil, F.frames_append] at hframes
  rw [rest_nil, F.rest_append] at hrest
  exact ⟨hframes.symm, hrest⟩

/-- What has arrived of a stream of whole frames is cut into the first of them. -/
theorem frames_prefix_of_prefix_flatten {fs : List (List β)} (h : ∀ f ∈ fs, F.IsFrame f)
    {x : List β} (hx : x <+: fs.flatten) : F.frames x <+: fs := by
  obtain ⟨y, hy⟩ := hx
  exact ⟨_, (F.frames_of_append_eq_flatten h hy).1.symm⟩

/-- An incomplete stream is a proper prefix of the frame that more input
completes. -/
theorem properPrefix_of_not_complete {r y f : List β} (hr : ¬ F.Complete r)
    (hf : F.IsFrame f) (hpre : f <+: r ++ y) : r <+: f ∧ r ≠ f := by
  have hne : r ≠ f := by
    rintro rfl
    exact hr (IsFrame.complete F hf)
  rcases List.prefix_or_prefix_of_prefix (List.prefix_append r y) hpre with h | h
  · exact ⟨h, hne⟩
  · obtain ⟨t, rfl⟩ := h
    exact absurd (Complete.append F (IsFrame.complete F hf) t) hr

/-- A proper prefix of a frame is not complete. -/
theorem not_complete_of_properPrefix {r f : List β} (hf : F.IsFrame f)
    (hpre : r <+: f) (hne : r ≠ f) : ¬ F.Complete r := by
  rintro ⟨hheader, hsize⟩
  obtain ⟨t, rfl⟩ := hpre
  have hlen := hf.2
  rw [F.frameSize_append hheader, List.length_append] at hlen
  have ht : t = [] := List.length_eq_zero_iff.mp (by omega)
  rw [ht, List.append_nil] at hne
  exact hne rfl

/-- The offsets at which a frame of the stream `x` may start: the beginning,
and the end of a preceding frame as its header declares it. -/
inductive Boundary (x : List β) : ℕ → Prop
  | zero : Boundary x 0
  | next {o : ℕ} : Boundary x o → F.Complete (x.drop o) →
      Boundary x (o + F.frameSize (x.drop o))

theorem Boundary.le_length {x : List β} {o : ℕ} (h : F.Boundary x o) :
    o ≤ x.length := by
  induction h with
  | zero => exact Nat.zero_le _
  | next hb hc ih =>
      have hle := hc.2
      rw [List.length_drop] at hle
      omega

/-- Boundaries do not overlap: the frame at one of them ends before the next. -/
theorem Boundary.frame_le {x : List β} {o b : ℕ} (ho : F.Boundary x o)
    (hb : F.Boundary x b) :
    (b < o → b + F.frameSize (x.drop b) ≤ o) ∧
      (o < b → o + F.frameSize (x.drop o) ≤ b) := by
  induction ho generalizing b with
  | zero =>
      refine ⟨fun h => absurd h (Nat.not_lt_zero b), ?_⟩
      induction hb with
      | zero => exact fun h => absurd h (Nat.lt_irrefl 0)
      | @next b hb hc ih =>
          intro _
          rcases Nat.eq_zero_or_pos b with rfl | hpos
          · exact le_rfl
          · exact (ih hpos).trans (Nat.le_add_right _ _)
  | @next o ho hc ih =>
      have hbefore : ∀ {b : ℕ}, F.Boundary x b → b < o + F.frameSize (x.drop o) →
          b + F.frameSize (x.drop b) ≤ o + F.frameSize (x.drop o) := by
        intro b hb hlt
        rcases Nat.lt_trichotomy b o with h | rfl | h
        · exact ((ih hb).1 h).trans (Nat.le_add_right _ _)
        · exact le_rfl
        · exact absurd ((ih hb).2 h) (Nat.not_le.mpr hlt)
      refine ⟨hbefore hb, ?_⟩
      induction hb with
      | zero => exact fun h => absurd h (Nat.not_lt_zero _)
      | @next b hb hc' ihb =>
          intro hlt
          rcases Nat.lt_trichotomy b (o + F.frameSize (x.drop o)) with h | rfl | h
          · exact absurd (hbefore hb h) (Nat.not_le.mpr hlt)
          · exact le_rfl
          · exact (ihb h).trans (Nat.le_add_right _ _)

end LengthPrefixed

end SosBackend
