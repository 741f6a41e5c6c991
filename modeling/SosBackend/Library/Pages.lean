import Mathlib.Data.List.Basic
import Mathlib.Data.Nat.Prime.Basic
import Mathlib.Data.Int.GCD

/-!
# Pages of a list

A list is cut into pages of equal length, of which the last one that is not empty may be
shorter. Where the position a page starts at is computed modulo some number, a page behind
the end can be one that is not.
-/

namespace SosBackend

namespace Pages

variable {α β : Type*}

/-- The entries of a list from one position up to, and without, another. -/
def slice (start stop : ℕ) (l : List α) : List α := (l.take stop).drop start

/-- The page with the number `k`, of pages of length `n`. -/
def page (n k : ℕ) (l : List α) : List α := slice (k * n) ((k + 1) * n) l

theorem slice_eq_nil_iff {start stop : ℕ} {l : List α} (h : start < stop) :
    slice start stop l = [] ↔ l.length ≤ start := by
  rw [slice, List.drop_eq_nil_iff, List.length_take]
  omega

theorem page_eq_nil_iff {n k : ℕ} {l : List α} (hn : n ≠ 0) :
    page n k l = [] ↔ l.length ≤ k * n := by
  apply slice_eq_nil_iff
  rw [Nat.succ_mul]
  omega

/-- What is cut off behind the end is not there. -/
theorem slice_min_length (start stop : ℕ) (l : List α) :
    slice start (min l.length stop) l = slice start stop l := by
  rw [slice, slice, Nat.min_comm, ← List.take_take, List.take_length]

/-- The pages are the list, one after the other. -/
theorem flatMap_page (n m : ℕ) (l : List α) :
    (List.range m).flatMap (fun k => page n k l) = l.take (m * n) := by
  induction m with
  | zero => rw [Nat.zero_mul]; rfl
  | succ m ih =>
      have hcut : l.take (m * n) = (l.take ((m + 1) * n)).take (m * n) := by
        rw [List.take_take, Nat.min_eq_left (Nat.mul_le_mul_right n (Nat.le_succ m))]
      rw [List.range_succ, List.flatMap_append, ih, List.flatMap_singleton, hcut]
      exact List.take_append_drop _ _

/-!
## Positions that wrap around
-/

/-- A page starts where it should, or behind the end. -/
def Starts (M n k : ℕ) (l : List α) : Prop := k * n < M ∨ l.length ≤ k * n % M

/-- What is shown of the pages that start modulo `M` is what there is to show if and only if
they start where they should. -/
theorem map_slice_mod_eq_iff (f : α → β) {M n k : ℕ} {l : List α} (hn : n ≠ 0)
    (hl : l.length ≤ M) : (slice (k * n % M) (k * n % M + n) l).map f = (page n k l).map f ↔
      Starts M n k l := by
  by_cases hk : k * n < M
  · have hpage : slice (k * n % M) (k * n % M + n) l = page n k l := by
      rw [Nat.mod_eq_of_lt hk, page, Nat.succ_mul]
    exact iff_of_true (congrArg (List.map f) hpage) (Or.inl hk)
  · have hnil : page n k l = [] := (page_eq_nil_iff hn).2 (by omega)
    rw [hnil, List.map_nil, List.map_eq_nil_iff, slice_eq_nil_iff (by omega), Starts,
      or_iff_right hk]

/-- All pages start where they should if and only if there is nothing to show, or a page
has one entry, or there is one entry and the length of a page has an inverse. -/
theorem forall_starts_iff {w n : ℕ} {l : List α} (hn : n ≠ 0) (hnM : n < 2 ^ (w + 1)) :
    (∀ k, k < 2 ^ (w + 1) → Starts (2 ^ (w + 1)) n k l) ↔
      l = [] ∨ n = 1 ∨ l.length = 1 ∧ n % 2 = 1 := by
  have hM : 2 ^ (w + 1) = 2 * 2 ^ w := Nat.pow_succ'
  have hpos : 0 < 2 ^ w := Nat.two_pow_pos w
  constructor
  · intro h
    by_contra hnot
    rw [not_or, not_or] at hnot
    obtain ⟨hl, hone, hodd⟩ := hnot
    have hlength : l.length ≠ 0 := fun hzero => hl (List.length_eq_zero_iff.1 hzero)
    rcases Nat.mod_two_eq_zero_or_one n with heven | hn2
    · -- half of the numbers on, the pages begin anew
      obtain ⟨c, rfl⟩ := Nat.dvd_of_mod_eq_zero heven
      have hstart : 2 ^ w * (2 * c) = 2 ^ (w + 1) * c := by
        rw [hM, Nat.mul_left_comm, Nat.mul_assoc]
      rcases h (2 ^ w) (by omega) with hlt | hle
      · rw [hstart] at hlt
        exact absurd hlt (not_lt.2 (Nat.le_mul_of_pos_right _ (by omega)))
      · rw [hstart, Nat.mul_mod_right] at hle
        omega
    · -- the page that starts at the second entry has the inverse as its number
      have hcoprime : Nat.Coprime n (2 ^ (w + 1)) :=
        Nat.Coprime.pow_right _ (Nat.coprime_two_right.2 (Nat.odd_iff.2 hn2))
      obtain ⟨k, hk, hinv⟩ := Nat.exists_mul_mod_eq_one_of_coprime hcoprime (by omega)
      rw [Nat.mul_comm] at hinv
      rcases h k hk with hlt | hle
      · rw [Nat.mod_eq_of_lt hlt] at hinv
        exact hone (Nat.eq_one_of_mul_eq_one_left hinv)
      · rw [hinv] at hle
        exact hodd ⟨by omega, hn2⟩
  · rintro (rfl | rfl | ⟨hl, hn2⟩) k hk
    · exact Or.inr (Nat.zero_le _)
    · exact Or.inl (by omega)
    · rw [Starts, hl, Nat.one_le_iff_ne_zero]
      by_cases hzero : k * n % 2 ^ (w + 1) = 0
      · have hcoprime : Nat.Coprime (2 ^ (w + 1)) n :=
          Nat.Coprime.pow_left _ (Nat.coprime_two_left.2 (Nat.odd_iff.2 hn2))
        have hk0 : k = 0 := Nat.eq_zero_of_dvd_of_lt
          (hcoprime.dvd_of_dvd_mul_right (Nat.dvd_of_mod_eq_zero hzero)) hk
        rw [hk0, Nat.zero_mul]
        exact Or.inl (by omega)
      · exact Or.inr hzero

end Pages

end SosBackend
