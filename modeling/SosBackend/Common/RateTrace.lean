import SosBackend.Common.RateWindow
import SosBackend.Library.Transition

/-!
# The rate limiter in a server that runs

A server asks the limiter in the middle of its steps, on a Redis that it uses for other
things too. As long as it leaves the counters alone otherwise, what the limiter answers over
a run is what it answers to the bare list of requests: the fixed windows of each identifier.
-/

namespace SosBackend

namespace RateLimiter

open FixedWindow

variable {outcome : ℕ → Redis.Outcome} {limiter : RateLimiter} {x : String}

/-- Time has not gone back, and the counter of `x` is still what it was. -/
structure Keeps (limiter : RateLimiter) (x : String) (redis redis' : Redis.Client) : Prop where
  now : redis.store.now ≤ redis'.store.now
  counts : ∀ c, Counts redis.store (limiter.key x) c → Counts redis'.store (limiter.key x) c

theorem Keeps.of_same {redis redis' : Redis.Client} (hnow : redis'.store.now = redis.store.now)
    (hlookup : redis'.store.lookup (limiter.key x) = redis.store.lookup (limiter.key x)) :
    Keeps limiter x redis redis' := by
  refine ⟨hnow.ge, fun c hc => ?_⟩
  cases c with
  | none => exact hlookup.trans hc
  | some c =>
      refine ⟨hc.1, ?_⟩
      rw [hlookup, hnow]
      exact hc.2

theorem Keeps.advance (redis : Redis.Client) (seconds : ℕ) :
    Keeps limiter x redis { redis with store := redis.store.advance seconds } :=
  ⟨Nat.le_add_right _ _, fun _ hc => hc.advance seconds⟩

/-- What a step asks the limiter for `x`, with the time and the answer, where a limiter that
throws lets the request pass. -/
inductive Serves (outcome : ℕ → Redis.Outcome) (limiter : RateLimiter) (x : String)
    (redis redis' : Redis.Client) : List (ℕ × Bool) → Prop
  | idle (h : Keeps limiter x redis redis') : Serves outcome limiter x redis redis' []
  | asked (h : Keeps limiter x (limiter.allow outcome x redis).2 redis') :
      Serves outcome limiter x redis redis'
        [(redis.store.now, (limiter.allow outcome x redis).1.getD true)]

/-- What has been asked, with the answers of the counter that Redis has now. -/
structure Tallied (limiter : RateLimiter) (x : String) (as : List (ℕ × Bool))
    (redis : Redis.Client) : Prop where
  answers : as.map Prod.snd =
    tally limiter.window limiter.maxRequests.toNat none (as.map Prod.fst)
  counts : Counts redis.store (limiter.key x) (reached limiter.window none (as.map Prod.fst))
  sorted : (as.map Prod.fst).Pairwise (· ≤ ·)
  past : ∀ t ∈ as.map Prod.fst, t ≤ redis.store.now

theorem Tallied.keep {as : List (ℕ × Bool)} {redis redis' : Redis.Client}
    (h : Tallied limiter x as redis) (hkeeps : Keeps limiter x redis redis') :
    Tallied limiter x as redis' :=
  ⟨h.answers, hkeeps.counts _ h.counts, h.sorted, fun t ht => (h.past t ht).trans hkeeps.now⟩

/-- A request that Redis answers gets the answer of the counter. -/
theorem Tallied.ask {as : List (ℕ × Bool)} {redis : Redis.Client}
    (hanswered : ∀ n, outcome n = .answered) (hwindow : 1 ≤ limiter.window)
    (hmax : 0 ≤ limiter.maxRequests) (hlength : (as.length : ℤ) < Redis.maxInteger)
    (h : Tallied limiter x as redis) :
    Tallied limiter x
      (as ++ [(redis.store.now, (limiter.allow outcome x redis).1.getD true)])
      (limiter.allow outcome x redis).2 := by
  have hcount : (counted (reached limiter.window none (as.map Prod.fst)) : ℤ) <
      Redis.maxInteger := by
    have hle := counted_reached_le limiter.window none (as.map Prod.fst)
    rw [List.length_map, counted] at hle
    omega
  obtain ⟨b, hb⟩ := allow_of_answered hanswered h.counts hcount
  obtain ⟨hverdict, hcounts⟩ := h.counts.allow hwindow hb
  obtain ⟨hnow, -⟩ := store_allow outcome limiter x redis
  have hanswer : b = decide ((arrive limiter.window redis.store.now
      (reached limiter.window none (as.map Prod.fst))).count ≤ limiter.maxRequests.toNat) := by
    rw [hverdict]
    refine decide_eq_decide.2 ?_
    rw [Int.le_toNat hmax]
  rw [hb, Option.getD_some]
  constructor
  · rw [List.map_append, List.map_append, tally_append, h.answers, List.map_singleton,
      List.map_singleton, tally, tally, hanswer]
  · rw [List.map_append, List.map_singleton, reached, List.foldl_append, ← reached]
    exact hcounts
  · rw [List.map_append, List.pairwise_append]
    refine ⟨h.sorted, List.pairwise_singleton _ _, fun t ht u hu => ?_⟩
    rw [List.mem_singleton.1 hu]
    exact h.past t ht
  · intro t ht
    rw [hnow]
    rw [List.map_append, List.mem_append] at ht
    rcases ht with ht | ht
    · exact h.past t ht
    · rw [List.mem_singleton.1 ht]

section trace

variable {σ ι : Type*} {R : σ → ι → σ → Prop} {f : σ → ι → List (ℕ × Bool)} {s t : σ}
  {es : List ι} {as : List (ℕ × Bool)}

theorem tallied_of_trace (redis : σ → Redis.Client) (hserves : ∀ s e t, R s e t →
      Serves outcome limiter x (redis s) (redis t) (f s e))
    (hanswered : ∀ n, outcome n = .answered) (hwindow : 1 ≤ limiter.window)
    (hmax : 0 ≤ limiter.maxRequests)
    (hstart : (redis s).store.lookup (limiter.key x) = none) (h : Trace R f s es as t)
    (hlength : (as.length : ℤ) ≤ Redis.maxInteger) : Tallied limiter x as (redis t) := by
  induction h with
  | nil => exact ⟨rfl, hstart, List.Pairwise.nil, fun t ht => absurd ht List.not_mem_nil⟩
  | @snoc es as t e u htrace hstep ih =>
      rw [List.length_append] at hlength
      have ht := ih (by omega)
      have hserved := hserves t e u hstep
      generalize f t e = bs at hserved hlength
      cases hserved with
      | idle hkeeps =>
          rw [List.append_nil]
          exact ht.keep hkeeps
      | asked hkeeps =>
          rw [List.length_singleton] at hlength
          exact (ht.ask hanswered hwindow hmax (by omega)).keep hkeeps

/-- Over a run of a server, in each window of an identifier exactly the first `max_requests`
requests pass, and in no stretch as long as a window more than twice as many. -/
theorem limited_of_trace (redis : σ → Redis.Client) (hserves : ∀ s e t, R s e t →
      Serves outcome limiter x (redis s) (redis t) (f s e))
    (hanswered : ∀ n, outcome n = .answered) (hwindow : 1 ≤ limiter.window)
    (hmax : 0 ≤ limiter.maxRequests)
    (hstart : (redis s).store.lookup (limiter.key x) = none) (h : Trace R f s es as t)
    (hlength : (as.length : ℤ) ≤ Redis.maxInteger) :
    as.map Prod.snd = (windows limiter.window (as.map Prod.fst)).flatMap
        (verdicts limiter.maxRequests.toNat) ∧
      ∀ t, as.countP (fun a => within limiter.window t a.1 && a.2) ≤
        2 * limiter.maxRequests.toNat := by
  have htallied := tallied_of_trace redis hserves hanswered hwindow hmax hstart h hlength
  have hverdicts := htallied.answers.trans (tally_none _)
  exact ⟨hverdicts, countP_le_of_verdicts htallied.sorted hverdicts⟩

end trace

end RateLimiter

end SosBackend
