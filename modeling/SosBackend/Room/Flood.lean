import SosBackend.Common.RateTrace
import SosBackend.Room.Lease

/-!
# How much an address can ask

The limiter counts the messages of all connections from one address, and closes the
connection that brings one too many. Nothing else that the server does in Redis touches the
counters.
-/

namespace SosBackend

namespace Room

open RoomServer RateLimiter

/-- A message on a connection from an address: the time, and whether the limiter lets it
pass. -/
def asks (env : Env) (ip : String) (σ : RoomServer) : Input → List (ℕ × Bool)
  | .clientMessage s _ =>
      if (σ.clients s).remoteIp = ip then [(σ.backend.now, (σ.rateLimit env s).1)] else []
  | _ => []

variable {env : Env} {limiter : RateLimiter} {ip : String} {σ τ : RoomServer} {i : Input}

theorem rateLimit_of_some (hlimiter : env.rateLimiter = some limiter) (s : SessionPtr) :
    σ.rateLimit env s =
      ((limiter.allow env.outcome (σ.clients s).remoteIp σ.backend.redis).1.getD true,
        { σ with backend := { σ.backend with
          redis := (limiter.allow env.outcome (σ.clients s).remoteIp σ.backend.redis).2 } }) := by
  unfold RoomServer.rateLimit
  rw [hlimiter]
  simp only [Backend.allow]
  cases limiter.allow env.outcome (σ.clients s).remoteIp σ.backend.redis with
  | mk answer redis =>
      cases answer with
      | none => rfl
      | some allowed => rfl

/-- What follows the limiter leaves the counters as the limiter has left them. -/
theorem spares_rateLimit (s : SessionPtr) (envelope : Envelope) :
    Spares ("rate:" ++ ip) (σ.rateLimit env s).2 (σ.processMessage env s envelope) := by
  unfold RoomServer.processMessage
  split
  · next heq =>
      rw [heq]
      refine Spares.map (f := fun σ => σ.closeClient s) (fun σ o =>
        closeClient_replaceRedis σ o s) ?_
      exact (Spares.refl _ _).map (f := fun σ => σ.send s none
        (.reject ⟨.rateLimited, "Too many requests"⟩)) fun σ o => rfl
  · next heq =>
      rw [heq]
      refine Spares.dispatch s fun _ => ⟨(activeSessionsKey_ne_rate ip).symm, fun n _ => ?_⟩
      exact (token_ne_rate (env.uuid n) ip).symm

/-- A step asks the limiter for an address, or leaves its counter alone. -/
theorem serves_asks (hlimiter : env.rateLimiter = some limiter) (hstep : Step env σ i τ) :
    RateLimiter.Serves env.outcome limiter ip σ.backend.redis τ.backend.redis
      (asks env ip σ i) := by
  have hkey : limiter.key ip = "rate:" ++ ip := by
    rw [RateLimiter.key, env.keyPrefix_rateLimiter limiter hlimiter]
  have hkeep : ∀ {σ τ : RoomServer}, Spares ("rate:" ++ ip) σ τ →
      RateLimiter.Keeps limiter ip σ.backend.redis τ.backend.redis := by
    intro σ τ hspares
    rw [← hkey] at hspares
    exact RateLimiter.Keeps.of_same hspares.now hspares.entry
  have hidle : (∀ seconds, i ≠ .tick seconds) → ¬ Writes env σ i ("rate:" ++ ip) →
      RateLimiter.Keeps limiter ip σ.backend.redis τ.backend.redis := fun htick hwrites =>
    hkeep (sparesKey_step hstep htick hwrites)
  cases i with
  | clientMessage s envelope =>
      obtain ⟨-, rfl⟩ := Option.ite_some_none_eq_some.1 hstep
      have hafter : Spares ("rate:" ++ ip) (σ.rateLimit env s).2
          (σ.processMessage env s envelope) := spares_rateLimit s envelope
      rw [rateLimit_of_some hlimiter] at hafter
      by_cases hip : (σ.clients s).remoteIp = ip
      · simp only [asks, hip, if_true, rateLimit_of_some hlimiter]
        rw [hip] at hafter
        exact RateLimiter.Serves.asked (hkeep hafter)
      · simp only [asks, hip, if_false]
        obtain ⟨hnow, hcounted⟩ :=
          limiter.store_allow env.outcome (σ.clients s).remoteIp σ.backend.redis
        have hother := hcounted (limiter.key ip) fun heq => hip (key_injective heq).symm
        have hcount : RateLimiter.Keeps limiter ip σ.backend.redis
            (limiter.allow env.outcome (σ.clients s).remoteIp σ.backend.redis).2 :=
          RateLimiter.Keeps.of_same hnow hother
        have hrest := hkeep hafter
        exact RateLimiter.Serves.idle ⟨hcount.now.trans hrest.now, fun c hc =>
          hrest.counts c (hcount.counts c hc)⟩
  | gameServerMessage k envelope =>
      refine RateLimiter.Serves.idle (hidle (fun _ heq => by cases heq) ?_)
      generalize hrate : "rate:" ++ ip = key
      intro hwrites
      cases hwrites with
      | validated => exact token_ne_rate _ ip hrate.symm
      | heartbeat => exact game_server_ne_rate _ ip hrate.symm
      | released => exact activeSessionsKey_ne_rate ip hrate.symm
  | gameServerClose k =>
      refine RateLimiter.Serves.idle (hidle (fun _ heq => by cases heq) ?_)
      generalize hrate : "rate:" ++ ip = key
      intro hwrites
      cases hwrites with
      | lost => exact activeSessionsKey_ne_rate ip hrate.symm
  | tick seconds =>
      obtain rfl := Option.some.inj hstep
      exact RateLimiter.Serves.idle (RateLimiter.Keeps.advance σ.backend.redis seconds)
  | _ =>
      refine RateLimiter.Serves.idle (hidle (fun _ heq => by cases heq) ?_)
      generalize hrate : "rate:" ++ ip = key
      intro hwrites
      cases hwrites

/-- Where Redis answers, on however many connections an address asks: in each of its windows
exactly the first messages pass, as many as the limiter allows, and never more than twice as
many in the time of a window. -/
theorem limitsAsks_of_trace (hlimiter : env.rateLimiter = some limiter) (henv : env.Answers)
    (hwindow : 1 ≤ limiter.window) (hmax : 0 ≤ limiter.maxRequests) {store : Redis.Keyspace}
    (hstart : store.lookup ("rate:" ++ ip) = none) {is : List Input} {as : List (ℕ × Bool)}
    (h : Trace (Step env) (asks env ip) (initial store) is as τ)
    (hlength : (as.length : ℤ) ≤ Redis.maxInteger) :
    as.map Prod.snd = (FixedWindow.windows limiter.window (as.map Prod.fst)).flatMap
        (FixedWindow.verdicts limiter.maxRequests.toNat) ∧
      ∀ t, as.countP (fun a => FixedWindow.within limiter.window t a.1 && a.2) ≤
        2 * limiter.maxRequests.toNat := by
  refine limited_of_trace (fun σ : RoomServer => σ.backend.redis)
    (fun _ _ _ hstep => serves_asks hlimiter hstep) henv hwindow hmax ?_ h hlength
  unfold RateLimiter.key
  rw [env.keyPrefix_rateLimiter limiter hlimiter]
  exact hstart

/-- The default settings with one message in ten seconds. -/
def tightEnv : Env :=
  { defaultEnv with
    rateLimiter := some { maxRequests := 1, window := 10 }
    keyPrefix_rateLimiter := by
      rintro limiter hlimiter
      cases hlimiter
      rfl }

/-- A second connection from the address brings one message too many. -/
def twoConnections : List Input :=
  [.connect 0 "10.0.0.1", .clientMessage 0 (.createRoom ⟨"p", "P", "room", 4⟩),
    .connect 1 "10.0.0.1", .clientMessage 1 (.roomListRequest ⟨0, 0⟩), .tick 10,
    .clientMessage 0 .leaveRoom]

theorem limitsAsks_of_trace_twoConnections : ∃ as τ,
    Trace (Step tightEnv) (asks tightEnv "10.0.0.1") (initial {}) twoConnections as τ ∧
      as = [(0, true), (0, false), (10, true)] ∧
      as.map Prod.snd = (FixedWindow.windows 10 (as.map Prod.fst)).flatMap
        (FixedWindow.verdicts 1) := by
  have hexec : (execTrace (step tightEnv) (asks tightEnv "10.0.0.1") (initial {})
      twoConnections).any (fun r => decide (r.1 = [(0, true), (0, false), (10, true)])) =
        true := by
    decide +kernel
  obtain ⟨r, hr, hdecided⟩ := (Option.any_eq_true _ _).1 hexec
  have has := of_decide_eq_true hdecided
  have htrace : Trace (Step tightEnv) (asks tightEnv "10.0.0.1") (initial {}) twoConnections
      r.1 r.2 := trace_of_execTrace hr
  have hlimits := limitsAsks_of_trace rfl (fun _ => rfl) (by decide) (by decide) rfl htrace
    (by rw [has]; decide)
  exact ⟨r.1, r.2, htrace, has, hlimits.1⟩

end Room

end SosBackend
