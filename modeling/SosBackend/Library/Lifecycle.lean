import Mathlib.Data.Set.Insert
import Mathlib.Data.List.Nodup

/-!
# Logs of openings and closings

A log says of things of one type that they have been opened and closed.
`Balanced S log` says that it is the log of a component which has exactly the
things in `S` open: what was opened and is not in `S` has been closed, once and
after it was opened. Opening something that never was open, and closing something
that is, keep the balance.
-/

namespace SosBackend

namespace Lifecycle

variable {α : Type*}

inductive Event (α : Type*)
  | opened (a : α)
  | closed (a : α)

def openings : List (Event α) → List α
  | [] => []
  | .opened a :: log => a :: openings log
  | .closed _ :: log => openings log

def closings : List (Event α) → List α
  | [] => []
  | .opened _ :: log => closings log
  | .closed a :: log => a :: closings log

theorem openings_append (log log' : List (Event α)) :
    openings (log ++ log') = openings log ++ openings log' := by
  induction log with
  | nil => rfl
  | cons e log ih =>
      cases e with
      | opened a => exact congrArg (List.cons a) ih
      | closed a => exact ih

theorem closings_append (log log' : List (Event α)) :
    closings (log ++ log') = closings log ++ closings log' := by
  induction log with
  | nil => rfl
  | cons e log ih =>
      cases e with
      | opened a => exact ih
      | closed a => exact congrArg (List.cons a) ih

/-- Every closing in the log follows an opening of the same thing. -/
def Ordered (log : List (Event α)) : Prop :=
  ∀ before a after, log = before ++ .closed a :: after → a ∈ openings before

theorem Ordered.opened {log : List (Event α)} (h : Ordered log) (a : α) :
    Ordered (log ++ [.opened a]) := by
  intro before b after heq
  rcases List.eq_nil_or_concat after with rfl | ⟨after, e, rfl⟩
  · have hlast := (List.append_inj' heq rfl).2
    cases hlast
  · rw [List.concat_eq_append, ← List.cons_append, ← List.append_assoc] at heq
    exact h before b after (List.append_inj' heq rfl).1

theorem Ordered.closed {log : List (Event α)} (h : Ordered log) {a : α}
    (ha : a ∈ openings log) : Ordered (log ++ [.closed a]) := by
  intro before b after heq
  rcases List.eq_nil_or_concat after with rfl | ⟨after, e, rfl⟩
  · obtain ⟨rfl, hlast⟩ := List.append_inj' heq rfl
    cases hlast
    exact ha
  · rw [List.concat_eq_append, ← List.cons_append, ← List.append_assoc] at heq
    exact h before b after (List.append_inj' heq rfl).1

/-- The log of a component that has the things in `S` open. -/
structure Balanced (S : Set α) (log : List (Event α)) : Prop where
  mem_closings : ∀ a, a ∈ closings log ↔ a ∈ openings log ∧ a ∉ S
  opened : ∀ a ∈ S, a ∈ openings log
  once : (closings log).Nodup
  ordered : Ordered log

namespace Balanced

variable {S : Set α} {log : List (Event α)}

theorem nil : Balanced (∅ : Set α) [] where
  mem_closings a := by simp [openings, closings]
  opened a ha := ha.elim
  once := List.nodup_nil
  ordered before a after h := by simp at h

/-- Opening what was never open. -/
theorem openFresh (h : Balanced S log) {a : α} (ha : a ∉ openings log) :
    Balanced (insert a S) (log ++ [.opened a]) where
  mem_closings b := by
    rw [closings_append, openings_append, List.mem_append, List.mem_append]
    simp only [closings, openings, List.not_mem_nil, or_false, List.mem_singleton,
      Set.mem_insert_iff, not_or]
    rw [h.mem_closings]
    refine ⟨?_, ?_⟩
    · rintro ⟨hb, hS⟩
      exact ⟨Or.inl hb, fun hba => ha (hba ▸ hb), hS⟩
    · rintro ⟨hb, hba, hS⟩
      exact ⟨hb.resolve_right hba, hS⟩
  opened b hb := by
    rw [openings_append, List.mem_append]
    rcases Set.mem_insert_iff.1 hb with rfl | hb
    · exact Or.inr List.mem_cons_self
    · exact Or.inl (h.opened b hb)
  once := by
    rw [closings_append]
    simpa [closings] using h.once
  ordered := h.ordered.opened a

/-- Closing what is open. -/
theorem close (h : Balanced S log) {a : α} (ha : a ∈ S) :
    Balanced (S \ {a}) (log ++ [.closed a]) where
  mem_closings b := by
    rw [closings_append, openings_append, List.mem_append, List.mem_append]
    simp only [closings, openings, List.not_mem_nil, or_false, List.mem_singleton,
      Set.mem_sdiff, Set.mem_singleton_iff, not_and, not_not]
    rw [h.mem_closings]
    refine ⟨?_, ?_⟩
    · rintro (⟨hb, hS⟩ | rfl)
      · exact ⟨hb, fun hbS => absurd hbS hS⟩
      · exact ⟨h.opened b ha, fun _ => rfl⟩
    · rintro ⟨hb, hba⟩
      by_cases hS : b ∈ S
      · exact Or.inr (hba hS)
      · exact Or.inl ⟨hb, hS⟩
  opened b hb := by
    rw [openings_append, List.mem_append]
    exact Or.inl (h.opened b hb.1)
  once := by
    rw [closings_append]
    refine List.nodup_append.2 ⟨h.once, List.nodup_singleton a, ?_⟩
    rintro b hb b' hb' rfl
    rw [closings, closings, List.mem_singleton] at hb'
    subst hb'
    exact ((h.mem_closings b).1 hb).2 ha
  ordered := h.ordered.closed (h.opened a ha)

end Balanced

end Lifecycle

end SosBackend
