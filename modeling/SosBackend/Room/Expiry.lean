import SosBackend.Room.Lease

/-!
# What the Room Server leaves in Redis

Tokens, heartbeats and counters expire, the set of the active sessions does not. Where Redis
answers, every other key that the server writes under is gone once the longest of its times
to live is over.
-/

namespace SosBackend

namespace Room

open RoomServer

/-- No time to live is longer than `L` seconds. -/
structure Env.Lasts (env : Env) (L : ℕ) : Prop where
  window : ∀ limiter ∈ env.rateLimiter, limiter.window ≤ L
  token : ∀ store ∈ env.sessionStore, store.tokenTtl ≤ L
  heartbeat : ∀ store ∈ env.sessionStore, store.gameServerHeartbeatTtl ≤ L

/-- Under the keys in `K` Redis has nothing for longer than `L` seconds. -/
def RoomServer.Brief (K : Set String) (L : ℕ) (σ : RoomServer) : Prop :=
  σ.backend.redis.store.Brief K L

namespace RoomServer.Brief

variable {env : Env} {K : Set String} {L : ℕ} {σ τ : RoomServer}

theorem of_spares (h : σ.Brief K L) (hspares : ∀ key ∈ K, Spares key σ τ) : τ.Brief K L := by
  intro key hkey e he
  obtain ⟨hnow, hentry⟩ := hspares key hkey
  unfold RoomServer.entry at hentry
  rw [hentry] at he
  have hgone := h key hkey e he
  unfold Backend.now at hnow
  rwa [← hnow] at hgone

/-- What does not ask Redis. -/
theorem map {f : RoomServer → RoomServer}
    (hf : ∀ σ o, f (RoomServer.replaceRedis σ o) = (f σ).replaceRedis o)
    (h : σ.Brief K L) : (f σ).Brief K L :=
  h.of_spares fun key _ => (Spares.refl key σ).map hf

theorem rateLimit (henv : env.Answers) (hL : env.Lasts L) (h : σ.Brief K L) (s : SessionPtr) :
    (σ.rateLimit env s).2.Brief K L := by
  unfold RoomServer.rateLimit
  split
  · exact h
  next limiter hlimiter =>
  have hcounted := RateLimiter.brief_allow henv (hL.window limiter hlimiter)
    (σ.clients s).remoteIp h
  split
  · next heq =>
      obtain ⟨-, rfl⟩ := Prod.mk.inj heq
      exact hcounted
  · next heq =>
      obtain ⟨-, rfl⟩ := Prod.mk.inj heq
      exact hcounted

/-!
## Tokens
-/

theorem issueToken (hL : env.Lasts L) (h : σ.Brief K L) (p sid : String) :
    Brief K L { σ with backend := (issueToken env p sid σ.backend).2 } := by
  unfold RoomServer.issueToken
  cases hsome : env.sessionStore with
  | none => exact h
  | some store =>
      have hcreated : (σ.backend.createToken env store p sid).2.redis.store.Brief K L := by
        rw [createToken_eq]
        refine Redis.Keyspace.Brief.call h env.outcome fun r ks hset => ?_
        exact (Redis.Keyspace.Brief.except h _).setex (hL.token store hsome) hset
      simp only
      split
      · next heq =>
          rw [heq] at hcreated
          exact hcreated
      · next heq =>
          rw [heq] at hcreated
          exact hcreated

theorem sendGameStarts (hL : env.Lasts L) (h : σ.Brief K L) (sid : String) (ids : List String) :
    (ids.foldl (sendGameStart env sid) σ).Brief K L := by
  induction ids generalizing σ with
  | nil => exact h
  | cons p ids ih =>
      apply ih
      exact (h.issueToken hL p sid).map (f := fun σ => σ.sendTo p _) fun σ o =>
        sendTo_replaceRedis σ o p _

theorem handleStartGame (hL : env.Lasts L) (hK : activeSessionsKey ∉ K) (h : σ.Brief K L)
    (p : String) : (σ.handleStartGame env p).Brief K L := by
  have hactive : ∀ key ∈ K, key ≠ activeSessionsKey := by
    rintro key hkey rfl
    exact hK hkey
  unfold RoomServer.handleStartGame
  split
  · exact h
  split
  · exact h
  split
  · exact h.map (f := fun σ => σ.sendTo p _) fun σ o => sendTo_replaceRedis σ o p _
  unfold RoomServer.startRoom
  simp only
  apply map notifyRoomListChanged_replaceRedis
  refine of_spares (sendGameStarts hL (of_spares h fun key hkey => ?_) _ _) fun key _ =>
    (Spares.refl key _).announceSession env _ _
  refine Spares.beginSession ?_ (hactive key hkey) env _
  exact Spares.of_redis rfl

/-!
## Messages
-/

theorem processMessage (henv : env.Answers) (hL : env.Lasts L) (hK : activeSessionsKey ∉ K)
    (h : σ.Brief K L) (s : SessionPtr) (envelope : Envelope) :
    (σ.processMessage env s envelope).Brief K L := by
  have hcounted := h.rateLimit henv hL s
  unfold RoomServer.processMessage
  split
  · next heq =>
      rw [heq] at hcounted
      exact (hcounted.map (f := fun σ => σ.send s none
        (.reject ⟨.rateLimited, "Too many requests"⟩)) fun σ o => rfl).map fun σ o =>
          closeClient_replaceRedis σ o s
  next heq =>
  rw [heq] at hcounted
  by_cases hstart : envelope = .startGame
  · subst hstart
    simp only [RoomServer.dispatch]
    split
    · exact hcounted.handleStartGame hL hK _
    · exact hcounted
  · exact hcounted.of_spares fun key _ => Spares.dispatch s fun heq => absurd heq hstart

/-- A token that is asked for goes. -/
theorem handleTokenValidate (h : σ.Brief K L) (env : Env) (token : String) (k : SessionPtr) :
    (σ.handleTokenValidate env token k).Brief K L := by
  have hread : ((σ.backend.redisCall env (Redis.get ("token:" ++ token))).2).redis.store.Brief
      K L := by
    refine Redis.Keyspace.Brief.call h env.outcome fun r ks hget => ?_
    exact Redis.Keyspace.Brief.of_agree h
      ⟨Redis.now_onKey hget, fun x _ => Redis.lookup_get hget x⟩
  have hvalidated : (σ.backend.validateToken env token).2.redis.store.Brief K L := by
    unfold Backend.validateToken
    split
    · next heq =>
        rw [heq] at hread
        exact hread
    · next heq =>
        rw [heq] at hread
        exact hread
    next b heq =>
    rw [heq] at hread
    have hdeleted : (b.redisCall env (Redis.del ("token:" ++ token))).2.redis.store.Brief
        K L := by
      refine Redis.Keyspace.Brief.call hread env.outcome fun r ks hdel => ?_
      exact (Redis.Keyspace.Brief.except hread _).del hdel
    split
    · next heq =>
        rw [heq] at hdeleted
        exact hdeleted
    · next heq =>
        rw [heq] at hdeleted
        exact hdeleted
  unfold RoomServer.handleTokenValidate
  split
  · next heq =>
      rw [heq] at hvalidated
      exact hvalidated
  · next heq =>
      rw [heq] at hvalidated
      exact hvalidated

/-- A step keeps Redis brief, where it answers. -/
theorem step (henv : env.Answers) (hL : env.Lasts L) (hK : activeSessionsKey ∉ K)
    {i : Input} (h : σ.Brief K L) (hstep : Step env σ i τ) : τ.Brief K L := by
  have hspared : (∀ seconds, i ≠ .tick seconds) →
      (∀ key, Writes env σ i key → key = activeSessionsKey) → τ.Brief K L := by
    intro htick hwrites
    refine h.of_spares fun key hkey => sparesKey_step hstep htick fun hkeys => hK ?_
    rw [← hwrites key hkeys]
    exact hkey
  cases i with
  | clientMessage s envelope =>
      obtain ⟨-, rfl⟩ := Option.ite_some_none_eq_some.1 hstep
      exact h.processMessage henv hL hK s envelope
  | gameServerMessage k envelope =>
      obtain ⟨store, hstore, -, rfl⟩ := hstep.gameServerMessage_inv
      cases envelope with
      | tokenValidateRequest token => exact h.handleTokenValidate env token k
      | gameServerHeartbeat serverId sessions =>
          refine Redis.Keyspace.Brief.call h env.outcome fun r ks hset => ?_
          exact (Redis.Keyspace.Brief.except h _).setex (hL.heartbeat store hstore) hset
      | slotReleased p sid =>
          refine hspared (fun _ heq => by cases heq) fun key hkeys => ?_
          cases hkeys
          rfl
      | _ => exact h
  | tick seconds =>
      obtain rfl := Option.some.inj hstep
      exact Redis.Keyspace.Brief.advance h seconds
  | gameServerClose k =>
      refine hspared (fun _ heq => by cases heq) fun key hkeys => ?_
      cases hkeys
      rfl
  | _ =>
      refine hspared (fun _ heq => by cases heq) fun key hkeys => ?_
      cases hkeys

end RoomServer.Brief

end Room

end SosBackend
