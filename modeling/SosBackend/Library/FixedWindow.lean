import Mathlib.Data.List.Basic
import Mathlib.Data.List.TakeWhile
import Mathlib.Data.Nat.Notation

/-!
# Fixed windows

A list of times is split into windows: the first time opens one, which lasts for a fixed
length, and the first time after its end opens the next. A counter that is started by the
time that opens a window and counts up within it tells the first `n` times of each window
from the others.
-/

namespace SosBackend

namespace FixedWindow

/-- The windows of a list of times. -/
def windows (length : ℕ) : List ℕ → List (List ℕ)
  | [] => []
  | t :: ts =>
      (t :: ts.takeWhile fun u => decide (u < t + length)) ::
        windows length (ts.dropWhile fun u => decide (u < t + length))
termination_by ts => ts.length
decreasing_by
  exact Nat.lt_succ_of_le (List.dropWhile_sublist _).length_le

/-- The first `n` times of a window pass. -/
def verdicts (n : ℕ) (window : List ℕ) : List Bool :=
  window.mapIdx fun i _ => decide (i < n)

/-- A window that is open: the time at which it closes, and the times counted in it. -/
structure Counter where
  closes : ℕ
  count : ℕ

/-- The counter after a time: the window goes on, or a new one is opened. -/
def arrive (length t : ℕ) : Option Counter → Counter
  | none => ⟨t + length, 1⟩
  | some c => if t < c.closes then { c with count := c.count + 1 } else ⟨t + length, 1⟩

/-- The times that a counter has counted. -/
def counted : Option Counter → ℕ
  | none => 0
  | some c => c.count

theorem count_arrive_le (length t : ℕ) (c : Option Counter) :
    (arrive length t c).count ≤ counted c + 1 := by
  cases c with
  | none => exact Nat.le_refl 1
  | some c =>
      rw [arrive]
      split
      · exact Nat.le_refl _
      · exact Nat.le_add_left 1 c.count

/-- What a counter says to each of the times that come. -/
def tally (length n : ℕ) : Option Counter → List ℕ → List Bool
  | _, [] => []
  | c, t :: ts =>
      decide ((arrive length t c).count ≤ n) :: tally length n (some (arrive length t c)) ts

variable {length n : ℕ}

/-- The times in an open window, and those after its end. -/
theorem tally_some (c : Counter) (ts : List ℕ) :
    tally length n (some c) ts =
      ((ts.takeWhile fun u => decide (u < c.closes)).mapIdx fun i _ => decide (c.count + i < n)) ++
        tally length n none (ts.dropWhile fun u => decide (u < c.closes)) := by
  induction ts generalizing c with
  | nil => rfl
  | cons t ts ih =>
      by_cases ht : t < c.closes
      · have harrive : arrive length t (some c) = { c with count := c.count + 1 } := if_pos ht
        rw [tally, harrive, ih,
          List.takeWhile_cons_of_pos (p := fun u => decide (u < c.closes)) (decide_eq_true ht),
          List.dropWhile_cons_of_pos (p := fun u => decide (u < c.closes)) (decide_eq_true ht),
          List.mapIdx_cons, List.cons_append]
        simp only [Nat.add_zero, Nat.succ_le_iff, Nat.add_assoc, Nat.add_comm 1]
      · have harrive : arrive length t (some c) = arrive length t none := if_neg ht
        rw [List.takeWhile_cons_of_neg (by simpa using ht),
          List.dropWhile_cons_of_neg (by simpa using ht), List.mapIdx_nil, List.nil_append, tally,
          tally, harrive]

/-- A counter lets the first `n` times of each window pass. -/
theorem tally_none (ts : List ℕ) :
    tally length n none ts = (windows length ts).flatMap (verdicts n) := by
  fun_induction windows length ts with
  | case1 => rfl
  | case2 t ts ih =>
      have hfirst : decide ((arrive length t none).count ≤ n) = decide (0 < n) := rfl
      rw [tally, tally_some, hfirst, List.flatMap_cons, ← ih, verdicts, List.mapIdx_cons,
        List.cons_append]
      simp only [arrive, Nat.add_comm 1]
      rfl

/-!
## Times that come one after the other
-/

/-- The counter after a list of times. -/
def reached (length : ℕ) (c : Option Counter) (ts : List ℕ) : Option Counter :=
  ts.foldl (fun c t => some (arrive length t c)) c

theorem tally_append (c : Option Counter) (ts us : List ℕ) :
    tally length n c (ts ++ us) =
      tally length n c ts ++ tally length n (reached length c ts) us := by
  induction ts generalizing c with
  | nil => rfl
  | cons t ts ih =>
      rw [List.cons_append, tally, tally, ih, List.cons_append]
      rfl

theorem counted_reached_le (length : ℕ) (c : Option Counter) (ts : List ℕ) :
    counted (reached length c ts) ≤ counted c + ts.length := by
  induction ts generalizing c with
  | nil => exact Nat.le_refl _
  | cons t ts ih =>
      have hfirst := count_arrive_le length t c
      have hrest := ih (some (arrive length t c))
      rw [reached, List.foldl_cons, ← reached, List.length_cons]
      rw [counted] at hrest
      omega

/-!
## Any stretch of time
-/

/-- The times that pass. -/
def passing (length n : ℕ) (ts : List ℕ) : List ℕ :=
  (windows length ts).flatMap fun window => window.take n

theorem passing_nil (length n : ℕ) : passing length n [] = [] := by
  rw [passing, windows, List.flatMap_nil]

theorem passing_cons (t : ℕ) (ts : List ℕ) : passing length n (t :: ts) =
    (t :: ts.takeWhile fun u => decide (u < t + length)).take n ++
      passing length n (ts.dropWhile fun u => decide (u < t + length)) := by
  rw [passing, windows, List.flatMap_cons, passing]

theorem mem_of_mem_passing {ts : List ℕ} {u : ℕ} (hu : u ∈ passing length n ts) : u ∈ ts := by
  fun_induction windows length ts with
  | case1 =>
      rw [passing_nil] at hu
      exact hu
  | case2 t ts ih =>
      rw [passing_cons] at hu
      rcases List.mem_append.1 hu with hu | hu
      · rcases List.mem_cons.1 (List.mem_of_mem_take hu) with rfl | hu
        · exact List.mem_cons_self
        · exact List.mem_cons_of_mem t ((List.takeWhile_sublist _).subset hu)
      · exact List.mem_cons_of_mem t ((List.dropWhile_sublist _).subset (ih hu))

/-- What comes after the end of a window comes after all of it. -/
theorem le_of_mem_dropWhile {ts : List ℕ} (hts : ts.Pairwise (· ≤ ·)) {b u : ℕ}
    (hu : u ∈ ts.dropWhile fun v => decide (v < b)) : b ≤ u := by
  induction ts with
  | nil => cases hu
  | cons t ts ih =>
      obtain ⟨ht, hts⟩ := List.pairwise_cons.1 hts
      by_cases hlt : t < b
      · rw [List.dropWhile_cons_of_pos (p := fun v => decide (v < b)) (decide_eq_true hlt)] at hu
        exact ih hts hu
      · rw [List.dropWhile_cons_of_neg (by simpa using hlt)] at hu
        rcases List.mem_cons.1 hu with rfl | hu
        · exact Nat.le_of_not_lt hlt
        · exact Nat.le_trans (Nat.le_of_not_lt hlt) (ht u hu)

/-- The times of a stretch of the length of a window. -/
def within (length t u : ℕ) : Bool :=
  decide (t ≤ u ∧ u < t + length)

theorem countP_within_eq_zero {ts : List ℕ} {t : ℕ} (h : ∀ u ∈ ts, t + length ≤ u ∨ u < t) :
    ts.countP (within length t) = 0 := by
  rw [List.countP_eq_zero]
  intro u hu
  rw [within, decide_eq_true_iff]
  have hu' := h u hu
  omega

/-- From the opening of a window on, a stretch has the times of this window only. -/
theorem countP_passing_of_le {t u : ℕ} {ts : List ℕ} (hts : (u :: ts).Pairwise (· ≤ ·))
    (ht : t ≤ u) : (passing length n (u :: ts)).countP (within length t) ≤ n := by
  have hlater : (passing length n (ts.dropWhile fun v => decide (v < u + length))).countP
      (within length t) = 0 := by
    apply countP_within_eq_zero
    intro v hv
    have hle := le_of_mem_dropWhile (List.pairwise_cons.1 hts).2 (mem_of_mem_passing hv)
    exact Or.inl (Nat.le_trans (Nat.add_le_add_right ht length) hle)
  rw [passing_cons, List.countP_append, hlater]
  exact Nat.le_trans List.countP_le_length (List.length_take_le _ _)

/-- In a stretch as long as a window no more times pass than in two windows. -/
theorem countP_passing_le {ts : List ℕ} (hts : ts.Pairwise (· ≤ ·)) (t : ℕ) :
    (passing length n ts).countP (within length t) ≤ 2 * n := by
  fun_induction windows length ts with
  | case1 =>
      rw [passing_nil]
      exact Nat.zero_le _
  | case2 u ts ih =>
      by_cases ht : t ≤ u
      · have hone : (passing length n (u :: ts)).countP (within length t) ≤ n :=
          countP_passing_of_le hts ht
        omega
      · obtain ⟨hu, hts⟩ := List.pairwise_cons.1 hts
        have hrest := hts.sublist (List.dropWhile_sublist fun v => decide (v < u + length))
        have hfirst : ((u :: ts.takeWhile fun v => decide (v < u + length)).take n).countP
            (within length t) ≤ n :=
          Nat.le_trans List.countP_le_length (List.length_take_le _ _)
        rw [passing_cons, List.countP_append]
        cases hdrop : ts.dropWhile fun v => decide (v < u + length) with
        | nil =>
            rw [passing_nil, List.countP_nil]
            omega
        | cons v vs =>
            rw [hdrop] at hrest ih
            by_cases hv : t ≤ v
            · have hnext : (passing length n (v :: vs)).countP (within length t) ≤ n :=
                countP_passing_of_le hrest hv
              omega
            · -- the first window is over before the stretch begins
              have hbefore : ((u :: ts.takeWhile fun v => decide (v < u + length)).take n).countP
                  (within length t) = 0 := by
                apply countP_within_eq_zero
                intro w hw
                have hle : u + length ≤ v :=
                  le_of_mem_dropWhile hts (by rw [hdrop]; exact List.mem_cons_self)
                rcases List.mem_cons.1 (List.mem_of_mem_take hw) with rfl | hw
                · omega
                · have hlt : decide (w < u + length) = true :=
                    List.mem_takeWhile_imp (p := fun v => decide (v < u + length)) hw
                  have hlt' := of_decide_eq_true hlt
                  omega
              have hlast := ih hrest
              omega

/-!
## Times with their verdicts
-/

theorem flatten_windows (length : ℕ) (ts : List ℕ) : (windows length ts).flatten = ts := by
  fun_induction windows length ts with
  | case1 => rfl
  | case2 t ts ih =>
      rw [List.flatten_cons, ih, List.cons_append, List.takeWhile_append_dropWhile]

theorem verdicts_cons (n t : ℕ) (window : List ℕ) :
    verdicts n (t :: window) = decide (0 < n) :: verdicts (n - 1) window := by
  rw [verdicts, List.mapIdx_cons, verdicts]
  simp only [Nat.lt_sub_iff_add_lt]

/-- The times of a window that its verdicts let pass. -/
theorem filter_zip_verdicts (n : ℕ) (window : List ℕ) :
    ((window.zip (verdicts n window)).filter Prod.snd).map Prod.fst = window.take n := by
  induction window generalizing n with
  | nil => rw [List.zip_nil_left, List.take_nil, List.filter_nil, List.map_nil]
  | cons t window ih =>
      rw [verdicts_cons, List.zip_cons_cons]
      cases n with
      | zero =>
          rw [List.filter_cons_of_neg (by simp), ih, List.take_zero, List.take_zero]
      | succ n =>
          rw [List.filter_cons_of_pos (by simp), List.map_cons, ih, List.take_succ_cons,
            Nat.add_sub_cancel]

theorem filter_zip_flatMap (n : ℕ) (ws : List (List ℕ)) :
    ((ws.flatten.zip (ws.flatMap (verdicts n))).filter Prod.snd).map Prod.fst =
      ws.flatMap fun window => window.take n := by
  induction ws with
  | nil => rfl
  | cons window ws ih =>
      have hlength : window.length = (verdicts n window).length := by
        rw [verdicts, List.length_mapIdx]
      rw [List.flatten_cons, List.flatMap_cons, List.zip_append hlength, List.filter_append,
        List.map_append, filter_zip_verdicts, ih, List.flatMap_cons]

/-- Where times in order have the verdicts of their windows, no stretch as long as a window
has more that pass than two windows. -/
theorem countP_le_of_verdicts {as : List (ℕ × Bool)}
    (hsorted : (as.map Prod.fst).Pairwise (· ≤ ·))
    (hverdicts : as.map Prod.snd =
      (windows length (as.map Prod.fst)).flatMap (verdicts n)) (t : ℕ) :
    as.countP (fun a => within length t a.1 && a.2) ≤ 2 * n := by
  have hpassing : (as.filter Prod.snd).map Prod.fst = passing length n (as.map Prod.fst) := by
    rw [passing, ← filter_zip_flatMap, flatten_windows, ← hverdicts, List.zip_map']
    simp
  have hcount : as.countP (fun a => within length t a.1 && a.2) =
      ((as.filter Prod.snd).map Prod.fst).countP (within length t) := by
    rw [List.countP_map, List.countP_filter]
    rfl
  rw [hcount, hpassing]
  exact countP_passing_le hsorted t

end FixedWindow

end SosBackend
