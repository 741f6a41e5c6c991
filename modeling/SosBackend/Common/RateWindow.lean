import Mathlib.Algebra.Ring.Nat
import Mathlib.Data.List.Induction
import SosBackend.Common.RateLimiter
import SosBackend.Library.FixedWindow

/-!
# The windows of the rate limiter

Requests come to the limiter with delays between them. Where no call throws, the counter
of an identifier in Redis is the counter of its fixed windows, whatever the others do. A
counter is given its expiry by a command of its own, so one that is created without the
second command stays for good.
-/

namespace SosBackend

/-- A request, and the time since the one before it. The unit of time is that of the
window. -/
structure Request where
  delay : ℕ
  identifier : String

namespace RateLimiter

variable {outcome : ℕ → Redis.Outcome} {limiter : RateLimiter}

/-- The key of the counter of an identifier. -/
def key (limiter : RateLimiter) (x : String) : String :=
  limiter.keyPrefix ++ x

theorem key_injective {x y : String} (h : limiter.key x = limiter.key y) : x = y := by
  have hlist := congrArg String.toList h
  rw [key, key, String.toList_append, String.toList_append] at hlist
  exact String.toList_inj.1 (List.append_cancel_left hlist)

/-- Redis when a request comes. -/
def await (redis : Redis.Client) (request : Request) : Redis.Client :=
  { redis with store := redis.store.advance request.delay }

def serve (outcome : ℕ → Redis.Outcome) (limiter : RateLimiter) (redis : Redis.Client)
    (request : Request) : Option Bool × Redis.Client :=
  limiter.allow outcome request.identifier (await redis request)

/-- Redis after a list of requests. -/
def after (outcome : ℕ → Redis.Outcome) (limiter : RateLimiter) (redis : Redis.Client)
    (requests : List Request) : Redis.Client :=
  requests.foldl (fun redis request => (limiter.serve outcome redis request).2) redis

/-- The answers to the requests of an identifier. -/
def answersTo (outcome : ℕ → Redis.Outcome) (limiter : RateLimiter) (x : String) :
    Redis.Client → List Request → List (Option Bool)
  | _, [] => []
  | redis, request :: requests =>
      let (answer, redis') := limiter.serve outcome redis request
      if request.identifier = x then answer :: answersTo outcome limiter x redis' requests
      else answersTo outcome limiter x redis' requests

/-- The times at which the requests of an identifier come. -/
def timesOf (x : String) : ℕ → List Request → List ℕ
  | _, [] => []
  | now, request :: requests =>
      if request.identifier = x then
        (now + request.delay) :: timesOf x (now + request.delay) requests
      else timesOf x (now + request.delay) requests

/-!
## One call
-/

section call

variable {redis : Redis.Client} {x : String}

/-- A counter is created, unless the command is lost. -/
theorem call_incr_of_none (outcome : ℕ → Redis.Outcome)
    (h : redis.store.lookup (limiter.key x) = none) :
    redis.call outcome (Redis.incr (limiter.key x)) =
      match outcome redis.issued with
      | .answered => (some 1, ⟨redis.store.put (limiter.key x) (some ⟨.integer 1, none⟩),
          redis.issued + 1⟩)
      | .unanswered => (none, ⟨redis.store.put (limiter.key x) (some ⟨.integer 1, none⟩),
          redis.issued + 1⟩)
      | .lost => (none, ⟨redis.store, redis.issued + 1⟩) := by
  rw [Redis.Client.call, Redis.incr, Redis.onKey, h]
  cases outcome redis.issued with
  | answered => rfl
  | lost => rfl
  | unanswered => rfl

theorem lookup_created (ks : Redis.Keyspace) (key : String) :
    (ks.put key (some ⟨.integer 1, none⟩)).lookup key = some ⟨.integer 1, none⟩ := by
  rw [Redis.Keyspace.lookup_put_self]
  rfl

/-- The call is the one that creates the counter, and the counter is given its expiry. -/
def Completes (outcome : ℕ → Redis.Outcome) (issued : ℕ) : Prop :=
  outcome issued = .answered ∧ outcome (issued + 1) ≠ .lost

theorem allow_of_lost (h : redis.store.lookup (limiter.key x) = none)
    (hlost : outcome redis.issued = .lost) :
    limiter.allow outcome x redis = (none, ⟨redis.store, redis.issued + 1⟩) := by
  have hincr := call_incr_of_none outcome h
  rw [hlost] at hincr
  rw [allow, ← key, hincr]

/-- Without the second command the counter has no expiry, and the call throws. -/
theorem allow_of_not_completes (h : redis.store.lookup (limiter.key x) = none)
    (hlost : outcome redis.issued ≠ .lost) (hnot : ¬ Completes outcome redis.issued) :
    (limiter.allow outcome x redis).1 = none ∧
      (limiter.allow outcome x redis).2.store.lookup (limiter.key x) =
        some ⟨.integer 1, none⟩ := by
  have hincr := call_incr_of_none outcome h
  rw [allow, ← key, hincr]
  cases houtcome : outcome redis.issued with
  | lost => exact absurd houtcome hlost
  | unanswered => exact ⟨rfl, lookup_created _ _⟩
  | answered =>
      have hexpire : outcome (redis.issued + 1) = .lost := by
        by_contra hne
        exact hnot ⟨houtcome, hne⟩
      simp only [if_true, Redis.Client.call, hexpire]
      exact ⟨trivial, lookup_created _ _⟩

/-- With both commands the counter opens a window. -/
theorem allow_of_completes (h : redis.store.lookup (limiter.key x) = none)
    (hcompletes : Completes outcome redis.issued) :
    (limiter.allow outcome x redis).1 = (if outcome (redis.issued + 1) = .answered then
      some (decide (1 ≤ limiter.maxRequests)) else none) ∧
    (limiter.allow outcome x redis).2.store.lookup (limiter.key x) =
      if limiter.window = 0 then none
      else some ⟨.integer 1, some (redis.store.now + limiter.window)⟩ := by
  have hincr := call_incr_of_none outcome h
  rw [hcompletes.1] at hincr
  have hexpire : Redis.expire (limiter.key x) limiter.window
      (redis.store.put (limiter.key x) (some ⟨.integer 1, none⟩)) = some (true,
        (redis.store.put (limiter.key x) (some ⟨.integer 1, none⟩)).put (limiter.key x)
          (if limiter.window = 0 then none
            else some ⟨.integer 1, some (redis.store.now + limiter.window)⟩)) := by
    rw [Redis.expire, Redis.onKey, lookup_created]
    rfl
  have hlookup : ((redis.store.put (limiter.key x) (some ⟨.integer 1, none⟩)).put
      (limiter.key x) (if limiter.window = 0 then none
        else some ⟨.integer 1, some (redis.store.now + limiter.window)⟩)).lookup
          (limiter.key x) = if limiter.window = 0 then none
            else some ⟨.integer 1, some (redis.store.now + limiter.window)⟩ := by
    rw [Redis.Keyspace.lookup_put_self]
    split
    · rfl
    · next hwindow =>
        rw [Option.filter_some, if_pos]
        simp only [Redis.Entry.live, Option.all_some, decide_eq_true_eq]
        exact Nat.lt_add_of_pos_right (Nat.pos_of_ne_zero hwindow)
  rw [allow, ← key, hincr]
  simp only [if_true, Redis.Client.call, hexpire]
  cases houtcome : outcome (redis.issued + 1) with
  | answered => exact ⟨rfl, hlookup⟩
  | unanswered => exact ⟨rfl, hlookup⟩
  | lost => exact absurd houtcome hcompletes.2

/-- A call on a counter counts up, if it does anything. -/
theorem allow_of_integer (outcome : ℕ → Redis.Outcome) {n : ℤ} {t : Option ℕ} (hn : 1 ≤ n)
    (h : redis.store.lookup (limiter.key x) = some ⟨.integer n, t⟩) :
    (limiter.allow outcome x redis).1 =
        (if outcome redis.issued = .answered ∧ n < Redis.maxInteger then
          some (decide (n + 1 ≤ limiter.maxRequests)) else none) ∧
      (limiter.allow outcome x redis).2.store.lookup (limiter.key x) =
        some ⟨.integer (if outcome redis.issued ≠ .lost ∧ n < Redis.maxInteger then n + 1
          else n), t⟩ := by
  have hlookup : (redis.store.put (limiter.key x) (some ⟨.integer (n + 1), t⟩)).lookup
      (limiter.key x) = some ⟨.integer (n + 1), t⟩ := by
    obtain ⟨-, hlive⟩ := Option.filter_eq_some_iff.1 h
    have hlive' : Redis.Entry.live redis.store.now ⟨.integer (n + 1), t⟩ = true := hlive
    rw [Redis.Keyspace.lookup_put_self, Option.filter_some, hlive', if_pos rfl]
  have hincr : Redis.incr (limiter.key x) redis.store =
      if n < Redis.maxInteger then
        some (n + 1, redis.store.put (limiter.key x) (some ⟨.integer (n + 1), t⟩))
      else none := by
    rw [Redis.incr, Redis.onKey, h]
    simp only [Redis.Value.toInteger]
    split
    · rfl
    · rfl
  rw [allow, ← key]
  simp only [Redis.Client.call, hincr]
  by_cases hmax : n < Redis.maxInteger
  · simp only [hmax, and_true, if_true]
    cases houtcome : outcome redis.issued with
    | answered =>
        have hcount : ¬ n + 1 = 1 := by omega
        simp only [hcount, if_false, if_true]
        exact ⟨trivial, hlookup⟩
    | unanswered => exact ⟨rfl, hlookup⟩
    | lost => exact ⟨rfl, h⟩
  · simp only [hmax, and_false, if_false]
    cases houtcome : outcome redis.issued with
    | answered => exact ⟨rfl, h⟩
    | unanswered => exact ⟨rfl, h⟩
    | lost => exact ⟨rfl, h⟩

end call

/-!
## The counter of an identifier
-/

open FixedWindow

/-- The counter in Redis is that of a window, as long as the window is open. -/
def Counts (ks : Redis.Keyspace) (key : String) : Option Counter → Prop
  | none => ks.lookup key = none
  | some c => 1 ≤ c.count ∧ ks.lookup key =
      if ks.now < c.closes then some ⟨.integer c.count, some c.closes⟩ else none

theorem Counts.advance {ks : Redis.Keyspace} {key : String} {c : Option Counter}
    (h : Counts ks key c) (seconds : ℕ) : Counts (ks.advance seconds) key c := by
  cases c with
  | none => exact Redis.Keyspace.lookup_advance_of_none h seconds
  | some c =>
      obtain ⟨hcount, hlookup⟩ := h
      refine ⟨hcount, ?_⟩
      have hnow : (ks.advance seconds).now = ks.now + seconds := rfl
      by_cases hopen : ks.now < c.closes
      · rw [if_pos hopen] at hlookup
        rw [Redis.Keyspace.lookup_advance hlookup, hnow]
      · rw [if_neg hopen] at hlookup
        rw [Redis.Keyspace.lookup_advance_of_none hlookup, if_neg]
        omega

/-- A call on another identifier leaves the counter alone. -/
theorem Counts.allow_of_ne (outcome : ℕ → Redis.Outcome) {redis : Redis.Client}
    {x y : String} {c : Option Counter} (h : Counts redis.store (limiter.key x) c) (hxy : x ≠ y) :
    Counts (limiter.allow outcome y redis).2.store (limiter.key x) c := by
  obtain ⟨hnow, hlookup⟩ := store_allow outcome limiter y redis
  have hkey := hlookup (limiter.key x) fun heq => hxy (key_injective heq)
  cases c with
  | none => exact hkey.trans h
  | some c => exact ⟨h.1, by rw [hkey, hnow]; exact h.2⟩

/-- A call that creates a counter and does not throw opens a window. -/
theorem allow_opens {redis : Redis.Client} {x : String} {b : Bool}
    (hnone : redis.store.lookup (limiter.key x) = none) (hwindow : 1 ≤ limiter.window)
    (hanswer : (limiter.allow outcome x redis).1 = some b) :
    b = decide (1 ≤ limiter.maxRequests) ∧
      Counts (limiter.allow outcome x redis).2.store (limiter.key x)
        (some ⟨redis.store.now + limiter.window, 1⟩) := by
  obtain ⟨hnow, -⟩ := store_allow outcome limiter x redis
  have hlost : outcome redis.issued ≠ .lost := by
    intro hlost
    rw [allow_of_lost hnone hlost] at hanswer
    cases hanswer
  have hcompletes : Completes outcome redis.issued := by
    by_contra hnot
    rw [(allow_of_not_completes hnone hlost hnot).1] at hanswer
    cases hanswer
  obtain ⟨hfst, hlookup⟩ := allow_of_completes hnone hcompletes
  rw [hanswer] at hfst
  rw [if_neg (by omega)] at hlookup
  refine ⟨?_, le_refl 1, ?_⟩
  · obtain ⟨-, hb⟩ := Option.ite_none_right_eq_some.1 hfst.symm
    exact (Option.some.inj hb).symm
  · rw [hlookup, hnow, if_pos (Nat.lt_add_of_pos_right hwindow)]
    rfl

/-- A call that does not throw answers by the counter. -/
theorem Counts.allow {redis : Redis.Client} {x : String} {c : Option Counter}
    (h : Counts redis.store (limiter.key x) c) (hwindow : 1 ≤ limiter.window) {b : Bool}
    (hanswer : (limiter.allow outcome x redis).1 = some b) :
    b = decide (((arrive limiter.window redis.store.now c).count : ℤ) ≤ limiter.maxRequests) ∧
      Counts (limiter.allow outcome x redis).2.store (limiter.key x)
        (some (arrive limiter.window redis.store.now c)) := by
  cases c with
  | none => exact allow_opens h hwindow hanswer
  | some c =>
      obtain ⟨hcount, hlookup⟩ := h
      by_cases hopen : redis.store.now < c.closes
      · obtain ⟨hnow, -⟩ := store_allow outcome limiter x redis
        rw [if_pos hopen] at hlookup
        have harrive : arrive limiter.window redis.store.now (some c) =
            { c with count := c.count + 1 } := if_pos hopen
        rw [harrive]
        obtain ⟨hfst, hlookup'⟩ := allow_of_integer outcome (by omega) hlookup
        rw [hanswer] at hfst
        obtain ⟨⟨houtcome, hlt⟩, hb⟩ := Option.ite_none_right_eq_some.1 hfst.symm
        refine ⟨(Option.some.inj hb).symm, Nat.le_add_left 1 c.count, ?_⟩
        rw [hlookup', hnow, if_pos hopen, houtcome, if_pos ⟨by decide, hlt⟩]
        rfl
      · rw [if_neg hopen] at hlookup
        have harrive : arrive limiter.window redis.store.now (some c) =
            ⟨redis.store.now + limiter.window, 1⟩ := if_neg hopen
        rw [harrive]
        exact allow_opens hlookup hwindow hanswer

/-- The answers to an identifier are those of its counter. -/
theorem answersTo_eq_tally {x : String} (hwindow : 1 ≤ limiter.window)
    (hmax : 0 ≤ limiter.maxRequests) {redis : Redis.Client} {c : Option Counter}
    (h : Counts redis.store (limiter.key x) c) {requests : List Request}
    (hanswers : none ∉ limiter.answersTo outcome x redis requests) :
    limiter.answersTo outcome x redis requests =
      (tally limiter.window limiter.maxRequests.toNat c
        (timesOf x redis.store.now requests)).map some := by
  induction requests generalizing redis c with
  | nil => rfl
  | cons request requests ih =>
      have hawait : Counts (await redis request).store (limiter.key x) c :=
        h.advance request.delay
      have hnow : (limiter.serve outcome redis request).2.store.now =
          redis.store.now + request.delay :=
        (store_allow outcome limiter request.identifier (await redis request)).1
      rw [answersTo] at hanswers ⊢
      rw [timesOf]
      by_cases hx : request.identifier = x
      · simp only [hx, if_true] at hanswers ⊢
        rw [List.mem_cons, not_or] at hanswers
        obtain ⟨b, hb⟩ := Option.ne_none_iff_exists'.1 (Ne.symm hanswers.1)
        have hallow : (limiter.allow outcome x (await redis request)).1 = some b := by
          rw [← hx]
          exact hb
        obtain ⟨hanswer, hcounts⟩ := hawait.allow hwindow hallow
        have hserve : (limiter.serve outcome redis request).2 =
            (limiter.allow outcome x (await redis request)).2 := by
          rw [serve, hx]
        rw [← hserve] at hcounts
        have hverdict : b = decide ((arrive limiter.window (redis.store.now + request.delay)
            c).count ≤ limiter.maxRequests.toNat) := by
          rw [hanswer]
          refine decide_eq_decide.2 ?_
          rw [Int.le_toNat hmax]
          rfl
        have htail := ih hcounts hanswers.2
        rw [hnow] at htail
        rw [hb, htail, tally, List.map_cons, hverdict]
        rfl
      · simp only [hx, if_false] at hanswers ⊢
        have hcounts := hawait.allow_of_ne outcome (Ne.symm hx)
        rw [← hnow]
        exact ih hcounts hanswers

/-- Within each window of an identifier exactly the first `max_requests` calls are allowed,
and the calls for other identifiers have no influence. -/
theorem answersTo_eq_verdicts {redis : Redis.Client} {x : String}
    (hwindow : 1 ≤ limiter.window) (hmax : 0 ≤ limiter.maxRequests)
    (hstart : redis.store.lookup (limiter.keyPrefix ++ x) = none) {requests : List Request}
    (hanswers : none ∉ limiter.answersTo outcome x redis requests) :
    limiter.answersTo outcome x redis requests =
        ((windows limiter.window (timesOf x redis.store.now requests)).flatMap
          (verdicts limiter.maxRequests.toNat)).map some ∧
      ∀ (outcome' : ℕ → Redis.Outcome) (requests' : List Request),
        timesOf x redis.store.now requests' = timesOf x redis.store.now requests →
        none ∉ limiter.answersTo outcome' x redis requests' →
          limiter.answersTo outcome' x redis requests' =
            limiter.answersTo outcome x redis requests := by
  have hcounts : Counts redis.store (limiter.key x) none := hstart
  have htally := answersTo_eq_tally hwindow hmax hcounts hanswers
  refine ⟨by rw [htally, tally_none], fun outcome' requests' htimes hanswers' => ?_⟩
  rw [answersTo_eq_tally hwindow hmax hcounts hanswers', htimes, htally]

/-- Redis that answers makes no call throw on a counter below the largest integer. -/
theorem allow_of_answered (hanswered : ∀ n, outcome n = .answered) {redis : Redis.Client}
    {x : String} {c : Option Counter} (h : Counts redis.store (limiter.key x) c)
    (hcount : (counted c : ℤ) < Redis.maxInteger) :
    ∃ b, (limiter.allow outcome x redis).1 = some b := by
  have hfirst : redis.store.lookup (limiter.key x) = none →
      ∃ b, (limiter.allow outcome x redis).1 = some b := by
    intro hnone
    have hcompletes : Completes outcome redis.issued := by
      refine ⟨hanswered _, ?_⟩
      rw [hanswered]
      decide
    exact ⟨_, (allow_of_completes hnone hcompletes).1.trans (if_pos (hanswered _))⟩
  cases c with
  | none => exact hfirst h
  | some c =>
      obtain ⟨hone, hlookup⟩ := h
      by_cases hopen : redis.store.now < c.closes
      · rw [if_pos hopen] at hlookup
        exact ⟨_, (allow_of_integer outcome (by omega) hlookup).1.trans
          (if_pos ⟨hanswered _, hcount⟩)⟩
      · rw [if_neg hopen] at hlookup
        exact hfirst hlookup

/-- Redis that answers every command makes no call throw, for as many requests as an integer
can count. -/
theorem answersTo_of_answered (hanswered : ∀ n, outcome n = .answered) {x : String}
    (hwindow : 1 ≤ limiter.window) {redis : Redis.Client} {c : Option Counter}
    (h : Counts redis.store (limiter.key x) c) {requests : List Request}
    (hlength : (counted c + requests.length : ℤ) ≤ Redis.maxInteger) :
    none ∉ limiter.answersTo outcome x redis requests := by
  induction requests generalizing redis c with
  | nil => exact List.not_mem_nil
  | cons request requests ih =>
      rw [List.length_cons] at hlength
      have hawait : Counts (await redis request).store (limiter.key x) c :=
        h.advance request.delay
      rw [answersTo]
      by_cases hx : request.identifier = x
      · obtain ⟨b, hb⟩ := allow_of_answered hanswered hawait (by omega)
        have hcounts := (hawait.allow hwindow hb).2
        have hcount := count_arrive_le limiter.window (await redis request).store.now c
        have hserve : limiter.serve outcome redis request =
            limiter.allow outcome x (await redis request) := by
          rw [serve, hx]
        simp only [hx, if_true, hserve, hb]
        rw [List.mem_cons, not_or]
        refine ⟨(Option.some_ne_none b).symm, ih hcounts ?_⟩
        rw [counted]
        omega
      · simp only [hx, if_false]
        exact ih (hawait.allow_of_ne outcome (Ne.symm hx)) (by omega)

/-- Two requests in ten seconds: the third one of the first window is refused, the request of
somebody else does not count, and the next window starts again. -/
theorem answersTo_eq_verdicts_twoWindows :
    answersTo (fun _ => .answered) { maxRequests := 2, window := 10 } "a" {}
      [⟨0, "a"⟩, ⟨1, "b"⟩, ⟨1, "a"⟩, ⟨1, "a"⟩, ⟨9, "a"⟩] =
        [some true, some true, some false, some true] := by
  have hstart : Counts ({} : Redis.Client).store
      (key { maxRequests := 2, window := 10 } "a") none := rfl
  have hanswers : none ∉ answersTo (fun _ => .answered) { maxRequests := 2, window := 10 } "a" {}
      [⟨0, "a"⟩, ⟨1, "b"⟩, ⟨1, "a"⟩, ⟨1, "a"⟩, ⟨9, "a"⟩] :=
    answersTo_of_answered (fun _ => rfl) (by decide) hstart (by decide)
  rw [(answersTo_eq_verdicts (by decide) (by decide) rfl hanswers).1]
  simp [timesOf, windows, verdicts]

/-!
## Counters that stay
-/

/-- Redis after a request. -/
theorem after_append_singleton (redis : Redis.Client) (requests : List Request)
    (request : Request) : limiter.after outcome redis (requests ++ [request]) =
      (limiter.serve outcome (limiter.after outcome redis requests) request).2 := by
  rw [after, List.foldl_append]
  rfl

theorem after_append (redis : Redis.Client) (earlier later : List Request) :
    limiter.after outcome redis (earlier ++ later) =
      limiter.after outcome (limiter.after outcome redis earlier) later :=
  List.foldl_append

/-- Every counter has an expiry, and an identifier that has made no request for a window is
not refused. -/
structure NeverOutlives (outcome : ℕ → Redis.Outcome) (limiter : RateLimiter)
    (redis : Redis.Client) (requests : List Request) : Prop where
  expires : ∀ earlier later, requests = earlier ++ later → ∀ x e,
    (limiter.after outcome redis earlier).store.lookup (limiter.keyPrefix ++ x) = some e →
      e.expiresAt ≠ none
  allowed : 1 ≤ limiter.maxRequests → ∀ earlier idle request later,
    requests = earlier ++ idle ++ request :: later →
    (∀ r ∈ idle, r.identifier ≠ request.identifier) →
    limiter.window ≤ (idle.map Request.delay).sum + request.delay →
      (limiter.serve outcome (limiter.after outcome redis (earlier ++ idle)) request).1 ≠
        some false

/-- Whenever the first command of a call creates a counter, the second one gives it its
expiry. -/
def CreatesWhole (outcome : ℕ → Redis.Outcome) (limiter : RateLimiter)
    (redis : Redis.Client) (requests : List Request) : Prop :=
  ∀ earlier request later, requests = earlier ++ request :: later →
    (await (limiter.after outcome redis earlier) request).store.lookup
      (limiter.keyPrefix ++ request.identifier) = none →
    outcome (limiter.after outcome redis earlier).issued ≠ .lost →
      Completes outcome (limiter.after outcome redis earlier).issued

/-- Every counter is a positive number that expires within a window. -/
def Timed (limiter : RateLimiter) (ks : Redis.Keyspace) : Prop :=
  ∀ x e, ks.lookup (limiter.key x) = some e →
    ∃ n t, 1 ≤ n ∧ t ≤ ks.now + limiter.window ∧ e = ⟨.integer n, some t⟩

theorem Timed.advance {ks : Redis.Keyspace} (h : Timed limiter ks) (seconds : ℕ) :
    Timed limiter (ks.advance seconds) := by
  intro x e hlookup
  obtain ⟨n, t, hn, ht, he⟩ := h x e (Redis.Keyspace.lookup_of_advance hlookup)
  refine ⟨n, t, hn, ?_, he⟩
  have hnow : (ks.advance seconds).now = ks.now + seconds := rfl
  omega

/-- A call keeps the counters timed where it creates none, or creates it whole. -/
theorem Timed.allow {redis : Redis.Client} {x : String} (h : Timed limiter redis.store)
    (hwhole : redis.store.lookup (limiter.key x) = none → outcome redis.issued ≠ .lost →
      Completes outcome redis.issued) :
    Timed limiter (limiter.allow outcome x redis).2.store := by
  obtain ⟨hnow, hother⟩ := store_allow outcome limiter x redis
  intro y e he
  rw [hnow]
  by_cases hy : limiter.key y = limiter.key x
  · rw [hy] at he
    cases hlookup : redis.store.lookup (limiter.key x) with
    | none =>
        by_cases hlost : outcome redis.issued = .lost
        · rw [allow_of_lost hlookup hlost] at he
          cases hlookup.symm.trans he
        · rw [(allow_of_completes hlookup (hwhole hlookup hlost)).2] at he
          obtain ⟨-, heq⟩ := Option.ite_none_left_eq_some.1 he
          exact ⟨1, _, le_refl 1, le_refl _, (Option.some.inj heq).symm⟩
    | some e' =>
        obtain ⟨n, t, hn, ht, rfl⟩ := h x e' hlookup
        rw [(allow_of_integer outcome hn hlookup).2] at he
        refine ⟨_, t, ?_, ht, (Option.some.inj he).symm⟩
        split
        · omega
        · exact hn
  · exact h y e ((hother _ hy).symm.trans he)

theorem timed_after {redis : Redis.Client} {requests : List Request}
    (hstart : ∀ x, redis.store.lookup (limiter.keyPrefix ++ x) = none)
    (hwhole : CreatesWhole outcome limiter redis requests) :
    ∀ earlier later, requests = earlier ++ later →
      Timed limiter (limiter.after outcome redis earlier).store := by
  intro earlier
  induction earlier using List.reverseRecOn with
  | nil =>
      intro later _ x e he
      cases (hstart x).symm.trans he
  | append_singleton earlier request ih =>
      intro later heq
      rw [List.append_assoc, List.singleton_append] at heq
      rw [after_append_singleton]
      exact ((ih _ heq).advance request.delay).allow (hwhole earlier request later heq)

/-- Requests of others leave the counter of an identifier to expire. -/
theorem after_of_idle (outcome : ℕ → Redis.Outcome) (limiter : RateLimiter) {x : String} {idle : List Request}
    (hidle : ∀ r ∈ idle, r.identifier ≠ x) (redis : Redis.Client) :
    (limiter.after outcome redis idle).store.now =
        redis.store.now + (idle.map Request.delay).sum ∧
      ∀ e, (limiter.after outcome redis idle).store.lookup (limiter.key x) = some e →
        redis.store.lookup (limiter.key x) = some e := by
  induction idle using List.reverseRecOn with
  | nil => exact ⟨rfl, fun e he => he⟩
  | append_singleton idle request ih =>
      obtain ⟨hnow, hlookup⟩ := ih fun r hr => hidle r (List.mem_append_left _ hr)
      have hne := hidle request (List.mem_append_right _ (List.mem_singleton_self _))
      obtain ⟨hnow', hother⟩ := store_allow outcome limiter request.identifier
        (await (limiter.after outcome redis idle) request)
      rw [after_append_singleton]
      constructor
      · rw [serve, hnow', List.map_append, List.sum_append, List.map_singleton,
          List.sum_singleton, ← Nat.add_assoc, ← hnow]
        rfl
      · intro e he
        rw [serve, hother _ fun heq => hne (key_injective heq).symm] at he
        exact hlookup e (Redis.Keyspace.lookup_of_advance he)

/-- A counter never outlives its window if and only if none is created without its expiry. -/
theorem neverOutlives_iff_createsWhole {redis : Redis.Client}
    (hstart : ∀ x, redis.store.lookup (limiter.keyPrefix ++ x) = none)
    (requests : List Request) :
    NeverOutlives outcome limiter redis requests ↔
      CreatesWhole outcome limiter redis requests := by
  constructor
  · intro h earlier request later heq hnone hlost
    by_contra hnot
    have hkey : (await (limiter.after outcome redis earlier) request).store.lookup
        (limiter.key request.identifier) = none := hnone
    have hcreated := (allow_of_not_completes hkey hlost hnot).2
    have hafter : (limiter.after outcome redis (earlier ++ [request])).store.lookup
        (limiter.keyPrefix ++ request.identifier) = some ⟨.integer 1, none⟩ := by
      rw [after_append_singleton]
      exact hcreated
    refine h.expires (earlier ++ [request]) later ?_ request.identifier _ hafter rfl
    rw [heq, List.append_assoc, List.singleton_append]
  · intro h
    have htimed := timed_after hstart h
    refine ⟨?_, ?_⟩
    · intro earlier later heq x e he
      obtain ⟨n, t, -, -, rfl⟩ := htimed earlier later heq x e he
      exact Option.some_ne_none t
    · intro hmax earlier idle request later heq hidle hwindow
      obtain ⟨hnow, hlookup⟩ := after_of_idle outcome limiter hidle
        (limiter.after outcome redis earlier)
      rw [← after_append] at hnow hlookup
      have hnone : (await (limiter.after outcome redis (earlier ++ idle)) request).store.lookup
          (limiter.key request.identifier) = none := by
        refine Option.eq_none_iff_forall_ne_some.2 fun e he => ?_
        have hbefore := hlookup e (Redis.Keyspace.lookup_of_advance he)
        obtain ⟨n, t, -, ht, rfl⟩ := htimed earlier _
          (heq.trans (List.append_assoc _ _ _)) request.identifier e hbefore
        -- the counter has expired before the request
        have hlt := Redis.Keyspace.lt_of_lookup he
        have hawait : (await (limiter.after outcome redis (earlier ++ idle)) request).store.now =
            (limiter.after outcome redis (earlier ++ idle)).store.now + request.delay := rfl
        omega
      rw [serve]
      by_cases hlost : outcome (limiter.after outcome redis (earlier ++ idle)).issued = .lost
      · rw [allow_of_lost hnone hlost]
        exact (Option.some_ne_none false).symm
      · have hcompletes := h (earlier ++ idle) request later heq hnone hlost
        rw [(allow_of_completes hnone hcompletes).1]
        split
        · simpa using hmax
        · exact (Option.some_ne_none false).symm

theorem neverOutlives_iff_createsWhole_answered :
    NeverOutlives (fun _ => .answered) { maxRequests := 1, window := 5 } {}
      [⟨0, "a"⟩, ⟨6, "a"⟩] :=
  (neverOutlives_iff_createsWhole (fun _ => rfl) _).2
    fun _ _ _ _ _ _ => ⟨rfl, Redis.Outcome.noConfusion⟩

/-- The second command of the first request is lost, and the identifier is refused long after
its window. -/
theorem not_neverOutlives_lostExpire :
    ¬ NeverOutlives (fun n => if n = 1 then .lost else .answered)
      { maxRequests := 1, window := 5 } {} [⟨0, "a"⟩, ⟨100, "a"⟩] := by
  intro h
  exact h.allowed (by decide) [⟨0, "a"⟩] [] ⟨100, "a"⟩ [] rfl
    (fun r hr => by cases hr) (by decide) (by decide +kernel)

end RateLimiter

end SosBackend
