import Mathlib.Data.List.Basic

/-!
# A timer with completion handlers

A wait on a timer ends at its deadline or by cancellation, and its handler runs some time
after that, when it can no longer be called back. A timer has at most one wait that is
outstanding: to arm it again cancels the wait before.
-/

namespace SosBackend

/-- The deadline of the wait that is outstanding, when the waits have ended whose handlers
are still to run, and how many handlers of cancelled waits are. -/
structure Timer where
  deadline : Option ℕ := none
  ended : List ℕ := []
  cancelled : ℕ := 0
deriving DecidableEq, Repr

namespace Timer

variable {t t' : Timer} {now slack : ℕ}

def cancel (t : Timer) : Timer :=
  match t.deadline with
  | none => t
  | some _ => { t with deadline := none, cancelled := t.cancelled + 1 }

def arm (deadline : ℕ) (t : Timer) : Timer :=
  { t.cancel with deadline := some deadline }

/-- The wait ends, at its deadline or late. -/
def expire (now : ℕ) (t : Timer) : Option Timer :=
  match t.deadline with
  | none => none
  | some d => if d ≤ now then some { t with deadline := none, ended := now :: t.ended } else none

/-- A handler runs: of a wait that has ended at this time, or of a cancelled one. -/
def handle (ended : Option ℕ) (t : Timer) : Option Timer :=
  match ended with
  | some e => if e ∈ t.ended then some { t with ended := t.ended.erase e } else none
  | none => if 0 < t.cancelled then some { t with cancelled := t.cancelled - 1 } else none

/-- How many handlers are still to run, that of the outstanding wait included. -/
def waits (t : Timer) : ℕ :=
  t.deadline.toList.length + t.ended.length + t.cancelled

/-- Neither does a wait last nor a handler tarry for more than the slack. -/
def Punctual (slack now : ℕ) (t : Timer) : Prop :=
  (∀ d ∈ t.deadline.toList, now ≤ d + slack) ∧ ∀ e ∈ t.ended, now ≤ e + slack

instance : Decidable (t.Punctual slack now) :=
  inferInstanceAs (Decidable (_ ∧ _))

@[simp] theorem ended_cancel (t : Timer) : t.cancel.ended = t.ended := by
  unfold cancel
  split
  · rfl
  · rfl

@[simp] theorem deadline_cancel (t : Timer) : t.cancel.deadline = none := by
  unfold cancel
  split
  · assumption
  · rfl

@[simp] theorem waits_cancel (t : Timer) : t.cancel.waits = t.waits := by
  unfold cancel waits
  split
  · rfl
  · next d hd =>
      simp only [hd, Option.toList_none, Option.toList_some, List.length_nil,
        List.length_singleton]
      omega

@[simp] theorem ended_arm (d : ℕ) (t : Timer) : (t.arm d).ended = t.ended :=
  ended_cancel t

@[simp] theorem waits_arm (d : ℕ) (t : Timer) : (t.arm d).waits = t.waits + 1 := by
  have hwaits := waits_cancel t
  unfold waits at hwaits ⊢
  rw [deadline_cancel, Option.toList_none, List.length_nil] at hwaits
  simp only [arm, Option.toList_some, List.length_singleton]
  omega

/-- Nothing is outstanding, and no handler is still to run. -/
theorem eq_empty_of_waits (h : t.waits = 0) : t = {} := by
  obtain ⟨deadline, ended, cancelled⟩ := t
  simp only [waits, Nat.add_eq_zero_iff, List.length_eq_zero_iff, Option.toList_eq_nil_iff] at h
  obtain ⟨⟨rfl, rfl⟩, rfl⟩ := h
  rfl

theorem expire_eq_some (h : t.expire now = some t') :
    ∃ d, t.deadline = some d ∧ d ≤ now ∧
      t' = { t with deadline := none, ended := now :: t.ended } := by
  unfold expire at h
  split at h
  · cases h
  · next d hd =>
      obtain ⟨hle, rfl⟩ := Option.ite_some_none_eq_some.1 h
      exact ⟨d, hd, hle, rfl⟩

theorem waits_expire (h : t.expire now = some t') : t'.waits = t.waits := by
  obtain ⟨d, hd, -, rfl⟩ := expire_eq_some h
  unfold waits
  simp only [hd, Option.toList_none, Option.toList_some, List.length_nil, List.length_cons]
  omega

theorem waits_handle {ended : Option ℕ} (h : t.handle ended = some t') :
    t.waits = t'.waits + 1 := by
  unfold handle at h
  cases ended with
  | some e =>
      obtain ⟨he, rfl⟩ := Option.ite_some_none_eq_some.1 h
      have hlength := List.length_erase_add_one he
      simp only [waits]
      omega
  | none =>
      obtain ⟨hcancelled, rfl⟩ := Option.ite_some_none_eq_some.1 h
      simp only [waits]
      omega

theorem ended_handle_subset {ended : Option ℕ} (h : t.handle ended = some t') :
    t'.ended ⊆ t.ended := by
  unfold handle at h
  cases ended with
  | some e =>
      obtain ⟨-, rfl⟩ := Option.ite_some_none_eq_some.1 h
      exact List.erase_subset
  | none =>
      obtain ⟨-, rfl⟩ := Option.ite_some_none_eq_some.1 h
      exact List.Subset.refl _

/-- The handler of a cancelled wait leaves the rest alone. -/
theorem handle_none_eq_some (h : t.handle none = some t') :
    t'.deadline = t.deadline ∧ t'.ended = t.ended := by
  obtain ⟨-, rfl⟩ := Option.ite_some_none_eq_some.1 h
  exact ⟨rfl, rfl⟩

namespace Punctual

theorem empty : ({} : Timer).Punctual slack now :=
  ⟨fun _ hd => absurd hd List.not_mem_nil, fun _ he => absurd he List.not_mem_nil⟩

theorem cancel (h : t.Punctual slack now) : t.cancel.Punctual slack now := by
  constructor
  · rw [deadline_cancel]
    exact fun d hd => absurd hd List.not_mem_nil
  · rw [ended_cancel]
    exact h.2

theorem arm (h : t.Punctual slack now) {d : ℕ} (hd : now ≤ d) :
    (t.arm d).Punctual slack now := by
  constructor
  · intro d' hd'
    rw [List.mem_singleton.1 hd']
    exact Nat.le_add_right_of_le hd
  · rw [ended_arm]
    exact h.2

theorem expire (h : t.Punctual slack now) (ht : t.expire now = some t') :
    t'.Punctual slack now := by
  obtain ⟨d, -, -, rfl⟩ := expire_eq_some ht
  constructor
  · exact fun d hd => absurd hd List.not_mem_nil
  · intro e he
    rcases List.mem_cons.1 he with rfl | he
    · exact Nat.le_add_right e slack
    · exact h.2 e he

theorem handle (h : t.Punctual slack now) {ended : Option ℕ} (ht : t.handle ended = some t') :
    t'.Punctual slack now := by
  unfold Timer.handle at ht
  cases ended with
  | some e =>
      obtain ⟨-, rfl⟩ := Option.ite_some_none_eq_some.1 ht
      exact ⟨h.1, fun e he => h.2 e (List.mem_of_mem_erase he)⟩
  | none =>
      obtain ⟨-, rfl⟩ := Option.ite_some_none_eq_some.1 ht
      exact h

end Punctual

/-- One wait, outstanding or ended, for this time or before. -/
structure DueBy (limit slack : ℕ) (t : Timer) : Prop where
  waits : t.deadline.toList.length + t.ended.length = 1
  deadline : ∀ d ∈ t.deadline.toList, d ≤ limit
  ended : ∀ e ∈ t.ended, e ≤ limit + slack

namespace DueBy

variable {limit : ℕ}

/-- The handler of a wait that is due has run in time. -/
theorem le (h : t.DueBy limit slack) (hpunctual : t.Punctual slack now) :
    now ≤ limit + 2 * slack := by
  obtain ⟨hwaits, hdeadline, hended⟩ := h
  obtain ⟨hlast, htarry⟩ := hpunctual
  cases hcase : t.ended with
  | nil =>
      rw [hcase, List.length_nil, Nat.add_zero, List.length_eq_one_iff] at hwaits
      obtain ⟨d, hd⟩ := hwaits
      have hd' : d ∈ t.deadline.toList := by
        rw [hd]
        exact List.mem_singleton_self d
      have hle := hdeadline d hd'
      have hnow := hlast d hd'
      omega
  | cons e es =>
      have he : e ∈ t.ended := by
        rw [hcase]
        exact List.mem_cons_self
      have hle := hended e he
      have hnow := htarry e he
      omega

theorem expire (h : t.DueBy limit slack) (hpunctual : t.Punctual slack now)
    (ht : t.expire now = some t') : t'.DueBy limit slack := by
  obtain ⟨d, hd, -, rfl⟩ := expire_eq_some ht
  have hd' : d ∈ t.deadline.toList := by
    rw [hd]
    exact List.mem_singleton_self d
  have hwaits := h.waits
  rw [hd, Option.toList_some, List.length_singleton] at hwaits
  constructor
  · rw [Option.toList_none, List.length_nil, List.length_cons]
    omega
  · exact fun _ hd => absurd hd List.not_mem_nil
  · intro e he
    rcases List.mem_cons.1 he with rfl | he
    · exact Nat.le_trans (hpunctual.1 d hd') (Nat.add_le_add_right (h.deadline d hd') slack)
    · exact h.ended e he

end DueBy

/-- No wait is over before this time. -/
structure NotBefore (limit : ℕ) (t : Timer) : Prop where
  deadline : ∀ d ∈ t.deadline.toList, limit ≤ d
  ended : ∀ e ∈ t.ended, limit ≤ e

namespace NotBefore

variable {limit : ℕ}

theorem empty : ({} : Timer).NotBefore limit :=
  ⟨fun _ hd => absurd hd List.not_mem_nil, fun _ he => absurd he List.not_mem_nil⟩

theorem arm (h : t.NotBefore limit) {d : ℕ} (hd : limit ≤ d) : (t.arm d).NotBefore limit := by
  constructor
  · intro d' hd'
    rwa [List.mem_singleton.1 hd']
  · rw [ended_arm]
    exact h.ended

theorem expire (h : t.NotBefore limit) (ht : t.expire now = some t') : t'.NotBefore limit := by
  obtain ⟨d, hd, hle, rfl⟩ := expire_eq_some ht
  constructor
  · exact fun _ hd => absurd hd List.not_mem_nil
  · intro e he
    rcases List.mem_cons.1 he with rfl | he
    · refine Nat.le_trans (h.deadline d ?_) hle
      rw [hd]
      exact List.mem_singleton_self d
    · exact h.ended e he

end NotBefore

end Timer

end SosBackend
