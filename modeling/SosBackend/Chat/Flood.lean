import SosBackend.Chat.Keys
import SosBackend.Chat.SharedRedis
import SosBackend.Common.RateTrace

/-!
# How much a player can say

The limiter counts what a player sends on whatever connections it has, and nothing else that
the server does in Redis touches the counters.
-/

namespace SosBackend

namespace Chat

open ChatServer RateLimiter

/-- A message to send on an authenticated session of a player: the time, and whether the
limiter lets it pass. -/
def sends (env : Env) (p : String) (σ : ChatServer) : Input → List (ℕ × Bool)
  | .message s (.send _) =>
      if (σ.sessions s).authenticated && (σ.sessions s).playerId == p then
        [(σ.redis.store.now, (σ.rateLimit env s).1)]
      else []
  | _ => []

variable {env : Env} {limiter : RateLimiter} {p : String} {σ τ : ChatServer} {i : Input}

theorem rateLimit_of_some (hlimiter : env.rateLimiter = some limiter) (s : SessionPtr) :
    σ.rateLimit env s =
      ((limiter.allow env.outcome (σ.sessions s).playerId σ.redis).1.getD true,
        { σ with redis := (limiter.allow env.outcome (σ.sessions s).playerId σ.redis).2 }) := by
  unfold ChatServer.rateLimit
  rw [hlimiter]
  simp only
  cases limiter.allow env.outcome (σ.sessions s).playerId σ.redis with
  | mk answer redis =>
      cases answer with
      | none => rfl
      | some allowed => rfl

/-- The time of Redis passes in a `tick` only. -/
theorem now_step (hlimiter : env.rateLimiter = some limiter)
    (hpre : limiter.keyPrefix = "chat:rate:") (hstep : Step env σ i τ)
    (htick : ∀ seconds, i ≠ .tick seconds) : τ.redis.store.now = σ.redis.store.now := by
  have hapart : env.CountsApart := by
    intro limiter' hlimiter'
    obtain rfl := Option.some.inj (hlimiter.symm.trans hlimiter')
    exact hpre
  have hagrees : Agrees σ σ := ⟨σ.redis, rfl, Redis.Client.Agree.refl _ _⟩
  exact (hagrees.step hapart hstep htick).1.now

/-- The counters have keys of their own. -/
theorem key_ne (hpre : limiter.keyPrefix = "chat:rate:") :
    (∀ sid, ¬ KeyOf sid (limiter.key p)) ∧
      ∀ pre ∈ ["chat:player:", "chat:name:"], ∀ x, limiter.key p ≠ pre ++ x := by
  unfold RateLimiter.key
  rw [hpre]
  constructor
  · intro sid hkey
    exact hkey.ne_append (by decide) p rfl
  · have hne : ∀ pre ∈ ["chat:player:", "chat:name:"], 6 ≤ pre.toList.length ∧
        "chat:rate:".toList.take 6 ≠ pre.toList.take 6 := by
      decide
    intro pre hpre x
    obtain ⟨hlength, htake⟩ := hne pre hpre
    exact append_ne_append 6 (by decide) hlength htake p x

/-- A message to send counts for its player, and then the counters are left alone. -/
theorem serves_processSend (hlimiter : env.rateLimiter = some limiter)
    (hpre : limiter.keyPrefix = "chat:rate:") {s : SessionPtr} {message : ChatSend}
    (hnow : (σ.processSend env s message).redis.store.now = σ.redis.store.now) :
    Serves env.outcome limiter p σ.redis (σ.processSend env s message).redis
      (sends env p σ (.message s (.send message))) := by
  have hkeep : (σ.processSend env s message).entry (limiter.key p) = σ.entry (limiter.key p) →
      Keeps limiter p σ.redis (σ.processSend env s message).redis := Keeps.of_same hnow
  cases hauthenticated : (σ.sessions s).authenticated with
  | false =>
      simp only [sends, hauthenticated, Bool.false_and, Bool.false_eq_true, if_false]
      refine Serves.idle (hkeep ?_)
      unfold ChatServer.processSend
      rw [if_neg (by rw [hauthenticated]; exact Bool.false_ne_true)]
      exact entry_send σ s _
  | true =>
      obtain ⟨hstill, hcounted⟩ :=
        limiter.store_allow env.outcome (σ.sessions s).playerId σ.redis
      -- what follows the limiter leaves the counter as the limiter has left it
      have hafter : (σ.processSend env s message).entry (limiter.key p) =
          (limiter.allow env.outcome (σ.sessions s).playerId σ.redis).2.store.lookup
            (limiter.key p) := by
        unfold ChatServer.processSend
        rw [if_pos hauthenticated, rateLimit_of_some hlimiter]
        split
        · next heq =>
            obtain ⟨-, rfl⟩ := Prod.mk.inj heq
            exact entry_send _ s _
        · next heq =>
            obtain ⟨-, rfl⟩ := Prod.mk.inj heq
            refine entry_handleChatSend fun state _ _ _ hkey => ?_
            exact (key_ne hpre).1 state.sessionId (Or.inr hkey)
      by_cases hp : (σ.sessions s).playerId = p
      · simp only [sends, hauthenticated, hp, beq_self_eq_true, Bool.and_self, if_true,
          rateLimit_of_some hlimiter]
        rw [hp] at hafter hstill
        exact Serves.asked (Keeps.of_same (hnow.trans hstill.symm) hafter)
      · simp only [sends, hauthenticated, Bool.true_and, beq_iff_eq, hp, if_false]
        refine Serves.idle (hkeep (hafter.trans (hcounted _ fun heq => hp ?_)))
        exact (key_injective heq).symm

/-- A step asks the limiter for a player, or leaves its counter alone. -/
theorem serves_sends (hlimiter : env.rateLimiter = some limiter)
    (hpre : limiter.keyPrefix = "chat:rate:") (hstep : Step env σ i τ) :
    Serves env.outcome limiter p σ.redis τ.redis (sends env p σ i) := by
  obtain ⟨hsession, hother⟩ := key_ne (p := p) hpre
  have hidle : (∀ seconds, i ≠ .tick seconds) → ¬ Writes env σ i (limiter.key p) →
      Keeps limiter p σ.redis τ.redis := by
    intro htick hwrites
    refine Keeps.of_same (now_step hlimiter hpre hstep htick) ?_
    refine (entry_step hstep hwrites).resolve_right ?_
    rintro ⟨seconds, heq, -⟩
    exact htick seconds heq
  cases i with
  | message s envelope =>
      cases envelope with
      | send message =>
          have hnow := now_step hlimiter hpre hstep fun _ heq => by cases heq
          obtain ⟨-, rfl⟩ := Option.ite_some_none_eq_some.1 hstep
          exact serves_processSend hlimiter hpre hnow
      | auth auth =>
          refine Serves.idle (hidle (fun _ heq => by cases heq) ?_)
          generalize hkey : limiter.key p = key
          intro hwrites
          cases hwrites with
          | history haccepted => cases haccepted
          | names _ _ => exact hsession auth.sessionId (Or.inl hkey)
          | player => exact hother _ (by decide) _ hkey
          | name => exact hother _ (by decide) _ hkey
      | _ =>
          refine Serves.idle (hidle (fun _ heq => by cases heq) ?_)
          generalize hkey : limiter.key p = key
          intro hwrites
          cases hwrites with
          | history haccepted => cases haccepted
  | internalMessage envelope =>
      refine Serves.idle (hidle (fun _ heq => by cases heq) ?_)
      generalize hkey : limiter.key p = key
      intro hwrites
      cases hwrites with
      | history haccepted => cases haccepted
      | created => exact hsession _ (Or.inl hkey)
      | createdName hplayer => exact hother _ (by decide) _ hkey
      | ended hchannel hkey' => exact hsession _ (by rw [hkey]; exact hkey')
  | tick seconds =>
      obtain rfl := Option.some.inj hstep
      exact Serves.idle (Keeps.advance σ.redis seconds)
  | _ =>
      refine Serves.idle (hidle (fun _ heq => by cases heq) ?_)
      generalize hkey : limiter.key p = key
      intro hwrites
      cases hwrites with
      | history haccepted => cases haccepted

/-- Where Redis answers, on whatever connections a player sends: in each of its windows
exactly the first messages pass, as many as the limiter allows, and never more than twice as
many in the time of a window. -/
theorem limitsSends_of_trace (hlimiter : env.rateLimiter = some limiter)
    (hpre : limiter.keyPrefix = "chat:rate:") (hanswered : ∀ n, env.outcome n = .answered)
    (hwindow : 1 ≤ limiter.window) (hmax : 0 ≤ limiter.maxRequests) {store : Redis.Keyspace}
    (hstart : store.lookup ("chat:rate:" ++ p) = none) {is : List Input} {as : List (ℕ × Bool)}
    (h : Trace (Step env) (sends env p) (initial store) is as τ)
    (hlength : (as.length : ℤ) ≤ Redis.maxInteger) :
    as.map Prod.snd = (FixedWindow.windows limiter.window (as.map Prod.fst)).flatMap
        (FixedWindow.verdicts limiter.maxRequests.toNat) ∧
      ∀ t, as.countP (fun a => FixedWindow.within limiter.window t a.1 && a.2) ≤
        2 * limiter.maxRequests.toNat := by
  refine limited_of_trace ChatServer.redis
    (fun _ _ _ hstep => serves_sends hlimiter hpre hstep) hanswered hwindow hmax ?_ h hlength
  unfold RateLimiter.key
  rw [hpre]
  exact hstart

/-- The default settings with one message in five seconds. -/
def tightEnv : Env :=
  { defaultEnv with
    rateLimiter := some { maxRequests := 1, window := 5, keyPrefix := "chat:rate:" } }

/-- A player comes back on another connection in between. -/
def comesBack : List Input :=
  [.connect 0, .message 0 (.auth ⟨"p", "", "P"⟩), .message 0 (.send ⟨.lobby, "a", ""⟩),
    .connect 1, .message 1 (.auth ⟨"p", "", "P"⟩), .message 1 (.send ⟨.lobby, "b", ""⟩),
    .tick 5, .message 1 (.send ⟨.lobby, "c", ""⟩)]

theorem limitsSends_of_trace_comesBack : ∃ as τ,
    Trace (Step tightEnv) (sends tightEnv "p") (initial {}) comesBack as τ ∧
      as = [(0, true), (0, false), (5, true)] ∧
      as.map Prod.snd = (FixedWindow.windows 5 (as.map Prod.fst)).flatMap
        (FixedWindow.verdicts 1) := by
  have hexec : (execTrace (step tightEnv) (sends tightEnv "p") (initial {}) comesBack).any
      (fun r => decide (r.1 = [(0, true), (0, false), (5, true)])) = true := by
    decide +kernel
  obtain ⟨r, hr, hdecided⟩ := (Option.any_eq_true _ _).1 hexec
  have has := of_decide_eq_true hdecided
  have htrace : Trace (Step tightEnv) (sends tightEnv "p") (initial {}) comesBack r.1 r.2 :=
    trace_of_execTrace hr
  have hlimits := limitsSends_of_trace rfl rfl (fun _ => rfl) (by decide) (by decide) rfl htrace
    (by rw [has]; decide)
  exact ⟨r.1, r.2, htrace, has, hlimits.1⟩

end Chat

end SosBackend
