import Mathlib.Logic.Function.Basic
import Mathlib.Data.List.TakeWhile

/-!
# Assignments that an exception cuts short

A block assigns to its variables, one after the other, what is read for each of them. A read
may throw; then the block is left, and what has been assigned before stays.
-/

namespace SosBackend

namespace Assignments

variable {ι γ : Type*} {α : ι → Type*}

section Block

variable [DecidableEq ι]

/-- Runs the block. The result says what the variables are afterwards and whether a read
has thrown. -/
def run (read : (i : ι) → Option (α i)) :
    List ι → ((i : ι) → α i) → ((i : ι) → α i) × Bool
  | [], s => (s, false)
  | i :: is, s =>
      match read i with
      | none => (s, true)
      | some a => run read is (Function.update s i a)

/-- The variables that are assigned to. -/
def assigned (read : (i : ι) → Option (α i)) (is : List ι) : List ι :=
  is.takeWhile fun i => (read i).isSome

variable {read : (i : ι) → Option (α i)} {i j : ι} {is : List ι} {s : (i : ι) → α i}

theorem run_cons_of_none (h : read i = none) : run read (i :: is) s = (s, true) := by
  rw [run, h]

theorem run_cons_of_some {a : α i} (h : read i = some a) :
    run read (i :: is) s = run read is (Function.update s i a) := by
  rw [run, h]

omit [DecidableEq ι] in
theorem assigned_cons_of_none (h : read i = none) : assigned read (i :: is) = [] := by
  rw [assigned, List.takeWhile_cons_of_neg]
  simp [h]

omit [DecidableEq ι] in
theorem assigned_cons_of_some {a : α i} (h : read i = some a) :
    assigned read (i :: is) = i :: assigned read is := by
  rw [assigned, List.takeWhile_cons_of_pos, assigned]
  simp [h]

/-- What is not assigned to stays. -/
theorem run_apply_of_notMem (hj : j ∉ assigned read is) : (run read is s).1 j = s j := by
  induction is generalizing s with
  | nil => rfl
  | cons i is ih =>
      cases h : read i with
      | none => rw [run_cons_of_none h]
      | some a =>
          rw [assigned_cons_of_some h, List.mem_cons, not_or] at hj
          rw [run_cons_of_some h, ih hj.2, Function.update_of_ne hj.1]

/-- What is assigned to becomes what is read for it. -/
theorem run_apply_of_mem (hj : j ∈ assigned read is) :
    read j = some ((run read is s).1 j) := by
  induction is generalizing s with
  | nil => simp [assigned] at hj
  | cons i is ih =>
      cases h : read i with
      | none => simp [assigned_cons_of_none h] at hj
      | some a =>
          rw [assigned_cons_of_some h, List.mem_cons] at hj
          rw [run_cons_of_some h]
          by_cases hmem : j ∈ assigned read is
          · exact ih hmem
          · -- No later assignment is to `j`, so what is read for `i` is still there.
            cases hj.resolve_right hmem
            rw [run_apply_of_notMem hmem, Function.update_self, h]

theorem run_thrown_iff : (run read is s).2 = true ↔ ∃ i ∈ is, read i = none := by
  induction is generalizing s with
  | nil => simp [run]
  | cons i is ih =>
      cases h : read i with
      | none => simp [run_cons_of_none h, h]
      | some a => simp [run_cons_of_some h, ih, h]

omit [DecidableEq ι] in
/-- Where no read throws, everything is assigned to. -/
theorem assigned_eq_self (h : ∀ i ∈ is, read i ≠ none) : assigned read is = is := by
  rw [assigned, List.takeWhile_eq_self_iff]
  intro i hi
  exact Option.isSome_iff_ne_none.mpr (h i hi)

/-- The block changes nothing if and only if it assigns only what was there. -/
theorem run_eq_self_iff :
    (run read is s).1 = s ↔ ∀ i ∈ assigned read is, read i = some (s i) := by
  constructor
  · intro h i hi
    rw [run_apply_of_mem hi, h]
  · intro h
    funext i
    by_cases hi : i ∈ assigned read is
    · exact Option.some.inj ((run_apply_of_mem hi).symm.trans (h i hi))
    · exact run_apply_of_notMem hi

/-!
## What is read from may not be there
-/

/-- The block begins with the construction of what it reads from, which may throw. -/
def load (source : Option γ) (read : γ → (i : ι) → Option (α i)) (is : List ι)
    (s : (i : ι) → α i) : ((i : ι) → α i) × Bool :=
  match source with
  | none => (s, true)
  | some c => run (read c) is s

end Block

/-- The variables are what is read for them, or there was an exception and all of them are
what they were before. -/
def AllOrNothing (source : Option γ) (read : γ → (i : ι) → Option (α i))
    (before after : (i : ι) → α i) : Prop :=
  (∃ c, source = some c ∧ ∀ i, read c i = some (after i)) ∨
    (∀ c, source = some c → ∃ i, read c i = none) ∧ after = before

variable [DecidableEq ι] {source : Option γ} {read : γ → (i : ι) → Option (α i)}
  {is : List ι} {s : (i : ι) → α i}

theorem load_thrown_iff (his : ∀ i, i ∈ is) :
    (load source read is s).2 = true ↔ ∀ c, source = some c → ∃ i, read c i = none := by
  cases source with
  | none => simp [load]
  | some c => simp [load, run_thrown_iff, his]

/-- A block that assigns to every variable is all or nothing if and only if there is nothing
to read from, no read throws, or the reads before the first that throws change nothing. -/
theorem allOrNothing_load_iff (his : ∀ i, i ∈ is) :
    AllOrNothing source read s (load source read is s).1 ↔
      ∀ c, source = some c →
        (∀ i, read c i ≠ none) ∨ ∀ i ∈ assigned (read c) is, read c i = some (s i) := by
  cases source with
  | none => simp [AllOrNothing, load]
  | some c =>
      have hload : (load (some c) read is s).1 = (run (read c) is s).1 := rfl
      rw [hload]
      constructor
      · intro h d hd
        cases hd
        rcases h with ⟨d, hd, hall⟩ | ⟨-, hsame⟩
        · cases hd
          left
          intro i
          rw [hall i]
          exact Option.some_ne_none _
        · right
          exact run_eq_self_iff.mp hsame
      · intro h
        by_cases hall : ∀ i, read c i ≠ none
        · left
          refine ⟨c, rfl, ?_⟩
          intro i
          apply run_apply_of_mem
          rw [assigned_eq_self fun i _ => hall i]
          exact his i
        · right
          constructor
          · intro d hd
            cases hd
            simpa using hall
          · exact run_eq_self_iff.mpr ((h c rfl).resolve_left hall)

end Assignments

end SosBackend
