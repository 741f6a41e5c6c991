import SosBackend.Room.TokenLife

/-!
# Whether a game server is alive

A heartbeat puts the server id into Redis for the time to live of heartbeats, and
`isGameServerAlive` asks whether it is still there. So a game server is alive as long as the
time since one of its heartbeats is less than that, over whatever connection they came.
-/

namespace SosBackend

namespace Room

open RoomServer

/-- `SessionStore::isGameServerAlive`; no result means that it throws. -/
def Backend.isGameServerAlive (env : Env) (serverId : String) (b : Backend) :
    Option Bool × Backend :=
  b.redisCall env (Redis.existsKey ("game_server:" ++ serverId))

/-- When a step has processed a heartbeat of the server. -/
def heartbeats (serverId : String) (σ : RoomServer) : Input → List ℕ
  | .gameServerMessage _ (.gameServerHeartbeat id _) =>
      if id = serverId then [σ.backend.now] else []
  | _ => []

theorem game_server_injective {id id' : String}
    (h : "game_server:" ++ id = "game_server:" ++ id') : id = id' := by
  have hlist := congrArg String.toList h
  rw [String.toList_append, String.toList_append] at hlist
  exact String.toList_inj.1 (List.append_cancel_left hlist)

/-- A key of a game server begins with none of the other prefixes. -/
theorem game_server_ne_rate (id x : String) : "game_server:" ++ id ≠ "rate:" ++ x := by
  intro h
  have hlist := congrArg String.toList h
  simp [String.toList_append] at hlist

/-- After heartbeats at the times in `ns`: the entry of the server lives as long as a
heartbeat does. -/
structure Leased (serverId : String) (ttl : ℕ) (ns : List ℕ) (σ : RoomServer) : Prop where
  past : ∀ n ∈ ns, n ≤ σ.backend.now
  entry : (σ.entry ("game_server:" ++ serverId) = none ∧
      ∀ n ∈ ns, n + ttl ≤ σ.backend.now) ∨
    ∃ n ∈ ns, (∀ m ∈ ns, m ≤ n) ∧ σ.entry ("game_server:" ++ serverId) =
      some ⟨.string "alive", some (n + ttl)⟩

variable {env : Env} {serverId : String} {ttl : ℕ} {ns : List ℕ} {σ τ : RoomServer}

namespace Leased

theorem of_spares (h : Leased serverId ttl ns σ)
    (hspares : Spares ("game_server:" ++ serverId) σ τ) : Leased serverId ttl ns τ := by
  constructor
  · rw [hspares.now]
    exact h.past
  · rw [hspares.now, hspares.entry]
    exact h.entry

theorem tick (h : Leased serverId ttl ns σ) (seconds : ℕ) :
    Leased serverId ttl ns (σ.withBackend fun b =>
      { b with redis := { b.redis with store := b.redis.store.advance seconds } }) := by
  have hnow : σ.backend.now ≤ σ.backend.now + seconds := Nat.le_add_right _ _
  refine ⟨fun n hn => (h.past n hn).trans hnow, ?_⟩
  rcases h.entry with ⟨hnone, hpast⟩ | ⟨n, hn, hlast, hsome⟩
  · exact Or.inl ⟨Redis.Keyspace.lookup_advance_of_none hnone seconds,
      fun n hn => (hpast n hn).trans hnow⟩
  · have hentry := Redis.Keyspace.lookup_advance hsome seconds
    by_cases hlive : σ.backend.redis.store.now + seconds < n + ttl
    · rw [if_pos hlive] at hentry
      exact Or.inr ⟨n, hn, hlast, hentry⟩
    · rw [if_neg hlive] at hentry
      refine Or.inl ⟨hentry, fun m hm => ?_⟩
      have hmn := hlast m hm
      change m + ttl ≤ σ.backend.redis.store.now + seconds
      omega

/-- A heartbeat renews the entry; without a time to live it is refused. -/
theorem heartbeat (h : Leased serverId ttl ns σ) (henv : env.Answers) {store : SessionStore}
    (httl : store.gameServerHeartbeatTtl = ttl) (k : SessionPtr) :
    Leased serverId ttl (ns ++ [σ.backend.now])
      (σ.handleGameServerHeartbeat env store serverId k) := by
  have hnow : (σ.handleGameServerHeartbeat env store serverId k).backend.now = σ.backend.now :=
    Redis.now_call σ.backend.redis
  have hpast : ∀ n ∈ ns ++ [σ.backend.now], n ≤ σ.backend.now := by
    intro n hn
    rcases List.mem_append.1 hn with hn | hn
    · exact h.past n hn
    · exact (List.mem_singleton.1 hn).le
  refine ⟨hnow ▸ hpast, ?_⟩
  rw [hnow]
  by_cases hzero : ttl = 0
  · have hrefused : Redis.setex ("game_server:" ++ serverId) "alive"
        store.gameServerHeartbeatTtl σ.backend.redis.store = none := by
      simp [Redis.setex, Redis.onKey, httl, hzero]
    have hsame : (σ.handleGameServerHeartbeat env store serverId k).entry
        ("game_server:" ++ serverId) = σ.entry ("game_server:" ++ serverId) := by
      rcases Redis.store_call σ.backend.redis env.outcome (Redis.setex
        ("game_server:" ++ serverId) "alive" store.gameServerHeartbeatTtl) with hstore | ⟨r, hr⟩
      · exact congrArg (fun ks => Redis.Keyspace.lookup ks _) hstore
      · rw [hrefused] at hr
        cases hr
    refine Or.inl ⟨?_, fun n hn => by rw [hzero]; exact hpast n hn⟩
    rw [hsame]
    rcases h.entry with ⟨hnone, -⟩ | ⟨n, hn, -, hsome⟩
    · exact hnone
    · have hlive : σ.backend.now < n + ttl := Redis.Keyspace.lt_of_lookup hsome
      have hle := h.past n hn
      omega
  · obtain ⟨ks, hset⟩ := Redis.exists_setex ("game_server:" ++ serverId) "alive"
      (httl.symm ▸ hzero : store.gameServerHeartbeatTtl ≠ 0) σ.backend.redis.store
    have hentry := Redis.lookup_setex hset
    have hcall : (σ.handleGameServerHeartbeat env store serverId k).backend.redis =
        ⟨ks, σ.backend.redis.issued + 1⟩ :=
      congrArg Prod.snd (Redis.call_answered (henv _) hset)
    refine Or.inr ⟨σ.backend.now, List.mem_append_right _ List.mem_cons_self, hpast, ?_⟩
    rw [RoomServer.entry, hcall, hentry, httl]
    rfl

theorem step (h : Leased serverId ttl ns σ) (henv : env.Answers)
    (httl : ∀ store ∈ env.sessionStore, store.gameServerHeartbeatTtl = ttl) {i : Input}
    (hstep : Step env σ i τ) : Leased serverId ttl (ns ++ heartbeats serverId σ i) τ := by
  by_cases htick : ∃ seconds, i = .tick seconds
  · obtain ⟨seconds, rfl⟩ := htick
    obtain rfl := Option.some.inj hstep
    have hnone : heartbeats serverId σ (.tick seconds) = [] := rfl
    rw [hnone, List.append_nil]
    exact h.tick seconds
  by_cases hbeat : ∃ k sessions, i = .gameServerMessage k (.gameServerHeartbeat serverId sessions)
  · obtain ⟨k, sessions, rfl⟩ := hbeat
    obtain ⟨store, hstore, -, rfl⟩ := hstep.gameServerMessage_inv
    rw [heartbeats, if_pos rfl]
    exact h.heartbeat henv (httl store hstore) k
  · have hnone : heartbeats serverId σ i = [] := by
      unfold heartbeats
      split
      · next k id sessions =>
          exact if_neg fun heq => hbeat ⟨k, sessions, by rw [heq]⟩
      · rfl
    rw [hnone, List.append_nil]
    refine h.of_spares (sparesKey_step hstep (fun seconds heq => htick ⟨seconds, heq⟩) ?_)
    generalize hkey : "game_server:" ++ serverId = key
    intro hwrites
    cases hwrites with
    | rate hlimiter => exact game_server_ne_rate _ _ hkey
    | started => exact activeSessionsKey_ne_game_server _ hkey.symm
    | token hn => exact token_ne_game_server _ _ hkey.symm
    | validated => exact token_ne_game_server _ _ hkey.symm
    | heartbeat =>
        obtain rfl := game_server_injective hkey
        exact hbeat ⟨_, _, rfl⟩
    | released => exact activeSessionsKey_ne_game_server _ hkey.symm
    | lost => exact activeSessionsKey_ne_game_server _ hkey.symm

end Leased

/-- A game server is alive if and only if the server has processed a heartbeat of it, on any
connection, less than the time to live of heartbeats ago, where Redis answers and had no game
servers at the start. -/
theorem isGameServerAlive_iff (henv : env.Answers) {store : Redis.Keyspace}
    (hstore : ∀ id, store.lookup ("game_server:" ++ id) = none) {sessions : SessionStore}
    (hsessions : env.sessionStore = some sessions) {is : List Input}
    (h : Trace (Step env) (heartbeats serverId) (initial store) is ns σ) :
    (σ.backend.isGameServerAlive env serverId).1 =
      some (decide (∃ n ∈ ns, σ.backend.now < n + sessions.gameServerHeartbeatTtl)) := by
  have httl : ∀ s ∈ env.sessionStore,
      s.gameServerHeartbeatTtl = sessions.gameServerHeartbeatTtl := by
    intro s hs
    rw [Option.some.inj (hsessions.symm.trans hs)]
  have hleased : Leased serverId sessions.gameServerHeartbeatTtl ns σ := by
    induction h with
    | nil => exact ⟨fun n hn => absurd hn List.not_mem_nil,
        Or.inl ⟨hstore serverId, fun n hn => absurd hn List.not_mem_nil⟩⟩
    | snoc _ hstep ih => exact ih.step henv httl hstep
  have hasked : (σ.backend.isGameServerAlive env serverId).1 =
      some (σ.entry ("game_server:" ++ serverId)).isSome := by
    rw [Backend.isGameServerAlive, Backend.redisCall, Redis.call_answered (henv _) rfl]
    rfl
  rw [hasked]
  rcases hleased.entry with ⟨hnone, hpast⟩ | ⟨n, hn, -, hsome⟩
  · rw [hnone, decide_eq_false]
    · rfl
    · rintro ⟨n, hn, hlive⟩
      exact absurd hlive (Nat.not_lt.2 (hpast n hn))
  · rw [hsome, decide_eq_true]
    · rfl
    · exact ⟨n, hn, Redis.Keyspace.lt_of_lookup hsome⟩

/-- Two heartbeats of a server on two connections, the second in the last second of the
first. -/
def renewal : List Input :=
  [.gameServerConnect 0, .gameServerMessage 0 (.gameServerHeartbeat "g" 1), .tick 89,
    .gameServerConnect 1, .gameServerMessage 1 (.gameServerHeartbeat "g" 1), .tick 89]

theorem isGameServerAlive_iff_renewal : ∃ ns σ,
    Trace (Step defaultEnv) (heartbeats "g") (initial {}) renewal ns σ ∧ ns = [0, 89] ∧
      (σ.backend.isGameServerAlive defaultEnv "g").1 = some true := by
  have hexec : (execTrace (step defaultEnv) (heartbeats "g") (initial {}) renewal).any (fun r =>
      decide (r.1 = [0, 89] ∧ r.2.backend.now = 178)) = true := by
    decide +kernel
  obtain ⟨r, hr, hdecided⟩ := (Option.any_eq_true _ _).1 hexec
  obtain ⟨hns, hnow⟩ := of_decide_eq_true hdecided
  have htrace : Trace (Step defaultEnv) (heartbeats "g") (initial {}) renewal r.1 r.2 :=
    trace_of_execTrace hr
  have halive := isGameServerAlive_iff (fun _ => rfl) (fun _ => rfl) rfl htrace
  refine ⟨r.1, r.2, htrace, hns, ?_⟩
  rw [halive, hns, hnow]
  rfl

end Room

end SosBackend
