import SosBackend.Library.Expiry

/-!
# The rate limiter

One Redis counter for each identifier, counted up by every request and given its
window when the first request creates it. Both servers use it, under different
key prefixes.
-/

namespace SosBackend

/-- `RateLimiter`. -/
structure RateLimiter where
  maxRequests : ℤ
  window : ℕ
  keyPrefix : String := "rate:"

/-- `RateLimiter::allow`; no result means that a command has thrown. -/
def RateLimiter.allow (outcome : ℕ → Redis.Outcome) (limiter : RateLimiter)
    (identifier : String) (redis : Redis.Client) : Option Bool × Redis.Client :=
  match redis.call outcome (Redis.incr (limiter.keyPrefix ++ identifier)) with
  | (none, redis) => (none, redis)
  | (some count, redis) =>
      if count = 1 then
        match redis.call outcome
            (Redis.expire (limiter.keyPrefix ++ identifier) limiter.window) with
        | (none, redis) => (none, redis)
        | (some _, redis) => (some (decide (count ≤ limiter.maxRequests)), redis)
      else (some (decide (count ≤ limiter.maxRequests)), redis)

/-- What counting and setting the window do to the client, the limiter does. -/
theorem RateLimiter.allow_induction {P : Redis.Client → Prop} {outcome : ℕ → Redis.Outcome}
    {limiter : RateLimiter} {identifier : String} {redis : Redis.Client}
    (hincr : ∀ redis : Redis.Client, P redis →
      P (redis.call outcome (Redis.incr (limiter.keyPrefix ++ identifier))).2)
    (hexpire : ∀ redis : Redis.Client, P redis →
      P (redis.call outcome
        (Redis.expire (limiter.keyPrefix ++ identifier) limiter.window)).2)
    (h : P redis) : P (limiter.allow outcome identifier redis).2 := by
  have hcount := hincr redis h
  unfold RateLimiter.allow
  split
  · next heq =>
      rw [heq] at hcount
      exact hcount
  · next redis' heq =>
      rw [heq] at hcount
      split
      · have hwindow := hexpire redis' hcount
        split
        · next heq' =>
            rw [heq'] at hwindow
            exact hwindow
        · next heq' =>
            rw [heq'] at hwindow
            exact hwindow
      · exact hcount

theorem RateLimiter.issued_allow (outcome : ℕ → Redis.Outcome) (limiter : RateLimiter)
    (identifier : String) (redis : Redis.Client) :
    redis.issued ≤ (limiter.allow outcome identifier redis).2.issued := by
  refine allow_induction (P := fun redis' => redis.issued ≤ redis'.issued) ?_ ?_ le_rfl
  · intro redis' h
    rw [Redis.issued_call]
    exact h.trans (Nat.le_succ _)
  · intro redis' h
    rw [Redis.issued_call]
    exact h.trans (Nat.le_succ _)

/-- Where Redis is silent the limiter throws. -/
theorem RateLimiter.allow_of_silent {outcome : ℕ → Redis.Outcome} {redis : Redis.Client}
    (h : redis.Silent outcome) (limiter : RateLimiter) (identifier : String) :
    (limiter.allow outcome identifier redis).1 = none := by
  have hreply := h.reply (Redis.incr (limiter.keyPrefix ++ identifier))
  unfold RateLimiter.allow
  split
  · rfl
  · next heq =>
      rw [heq] at hreply
      cases hreply

/-- Two clients whose keyspaces agree on the key of the identifier get the same answer. -/
theorem RateLimiter.agree_allow {K : Set String} {limiter : RateLimiter} {identifier : String}
    (hkey : limiter.keyPrefix ++ identifier ∈ K) {c d : Redis.Client} (h : c.Agree K d)
    (outcome : ℕ → Redis.Outcome) :
    (limiter.allow outcome identifier d).1 = (limiter.allow outcome identifier c).1 ∧
      (limiter.allow outcome identifier c).2.Agree K (limiter.allow outcome identifier d).2 := by
  have hincr : (Redis.incr (limiter.keyPrefix ++ identifier)).Within K := ⟨_, hkey, _, rfl⟩
  have hexpire : (Redis.expire (limiter.keyPrefix ++ identifier) limiter.window).Within K :=
    ⟨_, hkey, _, rfl⟩
  obtain ⟨hcount, hagree⟩ := h.call hincr outcome
  unfold RateLimiter.allow
  cases hc : c.call outcome (Redis.incr (limiter.keyPrefix ++ identifier)) with
  | mk r c' =>
  cases hd : d.call outcome (Redis.incr (limiter.keyPrefix ++ identifier)) with
  | mk r' d' =>
  rw [hc, hd] at hcount hagree
  obtain rfl : r' = r := hcount
  cases r' with
  | none => exact ⟨rfl, hagree⟩
  | some count =>
  simp only
  split
  · obtain ⟨hset, hagree'⟩ := Redis.Client.Agree.call hagree hexpire outcome
    cases hc' : c'.call outcome (Redis.expire (limiter.keyPrefix ++ identifier)
        limiter.window) with
    | mk r c'' =>
    cases hd' : d'.call outcome (Redis.expire (limiter.keyPrefix ++ identifier)
        limiter.window) with
    | mk r' d'' =>
    rw [hc', hd'] at hset hagree'
    obtain rfl : r' = r := hset
    cases r' with
    | none => exact ⟨rfl, hagree'⟩
    | some r => exact ⟨rfl, hagree'⟩
  · exact ⟨rfl, hagree⟩

/-- Where Redis answers, the count of an identifier is gone when its window is over. -/
theorem RateLimiter.brief_allow {K : Set String} {L : ℕ} {outcome : ℕ → Redis.Outcome}
    (hanswered : ∀ n, outcome n = .answered) {limiter : RateLimiter}
    (hwindow : limiter.window ≤ L) (identifier : String) {redis : Redis.Client}
    (h : redis.store.Brief K L) :
    (limiter.allow outcome identifier redis).2.store.Brief K L := by
  unfold RateLimiter.allow
  rcases Redis.call_of_answered (hanswered redis.issued)
    (Redis.incr (limiter.keyPrefix ++ identifier)) with ⟨hcall, -⟩ | ⟨n, ks, hcall, hincr⟩
  · rw [hcall]
    exact h
  rw [hcall]
  simp only
  split
  · obtain ⟨r, ks', hexpire⟩ :=
      Redis.exists_expire (limiter.keyPrefix ++ identifier) limiter.window ks
    rw [Redis.call_answered (c := ⟨ks, redis.issued + 1⟩) (hanswered _) hexpire]
    have hothers := (h.except _).onKey hincr
    exact hothers.expire hwindow hexpire
  · next hn => exact h.incr hincr hn

/-- The limiter touches no key but that of the identifier. -/
theorem RateLimiter.holdsSet_allow {outcome : ℕ → Redis.Outcome} {limiter : RateLimiter}
    {identifier key : String} {redis : Redis.Client} {S : Set String}
    (h : Redis.HoldsSet redis.store key S) (hkey : key ≠ limiter.keyPrefix ++ identifier) :
    Redis.HoldsSet (limiter.allow outcome identifier redis).2.store key S :=
  allow_induction (P := fun redis' => Redis.HoldsSet redis'.store key S)
    (fun _ h => h.call_onKey hkey rfl) (fun _ h => h.call_onKey hkey rfl) h

/-- The limiter leaves the clock and every other key as they are. -/
theorem RateLimiter.store_allow (outcome : ℕ → Redis.Outcome) (limiter : RateLimiter)
    (identifier : String) (redis : Redis.Client) :
    (limiter.allow outcome identifier redis).2.store.now = redis.store.now ∧
      ∀ key, key ≠ limiter.keyPrefix ++ identifier →
        (limiter.allow outcome identifier redis).2.store.lookup key = redis.store.lookup key := by
  have hcall : ∀ {ρ : Type} (f : ℕ → Option Redis.Entry → Option (ρ × Option Redis.Entry))
      (redis' : Redis.Client), (redis'.store.now = redis.store.now ∧
        ∀ key, key ≠ limiter.keyPrefix ++ identifier →
          redis'.store.lookup key = redis.store.lookup key) →
      ((redis'.call outcome
          (Redis.onKey (limiter.keyPrefix ++ identifier) f)).2.store.now = redis.store.now ∧
        ∀ key, key ≠ limiter.keyPrefix ++ identifier →
          (redis'.call outcome (Redis.onKey (limiter.keyPrefix ++ identifier) f)).2.store.lookup
            key = redis.store.lookup key) := by
    intro ρ f redis' h
    constructor
    · rw [Redis.now_call]
      exact h.1
    · intro key hkey
      rw [Redis.lookup_call_of_ne redis' hkey]
      exact h.2 key hkey
  exact allow_induction (P := fun redis' => redis'.store.now = redis.store.now ∧
    ∀ key, key ≠ limiter.keyPrefix ++ identifier →
      redis'.store.lookup key = redis.store.lookup key)
    (hcall _) (hcall _) ⟨rfl, fun _ _ => rfl⟩

/-- The limiter keeps its counts in no list. -/
theorem RateLimiter.listsOf_allow {outcome : ℕ → Redis.Outcome} {limiter : RateLimiter}
    {identifier : String} {redis : Redis.Client} {P : List UInt8 → Prop}
    (h : Redis.ListsOf P redis.store) :
    Redis.ListsOf P (limiter.allow outcome identifier redis).2.store :=
  allow_induction (P := fun redis' => Redis.ListsOf P redis'.store)
    (fun _ h => h.call (Redis.keeps_incr _)) (fun _ h => h.call (Redis.keeps_expire _ _)) h

end SosBackend
