import SosBackend.Room.Replace
import SosBackend.Room.Tokens

/-!
# What a step writes to Redis

The Room Server keeps the entry tokens, the set of the active sessions, the heartbeats of the
game servers and the counters of the rate limiter in Redis, each under keys of its own.
`Writes` lists the keys that an input may write under; a step leaves every other key as it is,
and time passes in a `tick` only.
-/

namespace SosBackend

namespace Room

open RoomServer

/-- The live entry under a key of Redis. -/
def RoomServer.entry (σ : RoomServer) (key : String) : Option Redis.Entry :=
  σ.backend.redis.store.lookup key

/-- Time stands still, and Redis has under the key what it had. -/
structure Spares (key : String) (σ τ : RoomServer) : Prop where
  now : τ.backend.now = σ.backend.now
  entry : τ.entry key = σ.entry key

namespace Spares

variable {env : Env} {key : String} {σ τ υ : RoomServer}

theorem refl (key : String) (σ : RoomServer) : Spares key σ σ :=
  ⟨rfl, rfl⟩

theorem trans (h : Spares key σ τ) (h' : Spares key τ υ) : Spares key σ υ :=
  ⟨h'.now.trans h.now, h'.entry.trans h.entry⟩

theorem of_redis (h : τ.backend.redis = σ.backend.redis) : Spares key σ τ := by
  constructor
  · rw [Backend.now, h, Backend.now]
  · rw [RoomServer.entry, h, RoomServer.entry]

/-- What does not ask Redis. -/
theorem map {f : RoomServer → RoomServer}
    (hf : ∀ σ o, f (RoomServer.replaceRedis σ o) = (f σ).replaceRedis o)
    (h : Spares key σ τ) : Spares key σ (f τ) := by
  have hself := hf τ τ.outside
  rw [replaceRedis_self] at hself
  refine h.trans (of_redis ?_)
  rw [hself]
  rfl

/-- A command on another key. -/
theorem redisCall {ρ : Type*} {x : String} {f : ℕ → Option Redis.Entry →
    Option (ρ × Option Redis.Entry)} (hx : key ≠ x) (h : Spares key σ τ)
    (env : Env) :
    Spares key σ (τ.withBackend fun b => (b.redisCall env (Redis.onKey x f)).2) :=
  h.trans ⟨Redis.now_call τ.backend.redis, Redis.lookup_call_of_ne τ.backend.redis hx⟩

/-!
## Sessions
-/

theorem endSession (h : Spares key σ τ) (hkey : key ≠ activeSessionsKey) (env : Env)
    (sid : String) : Spares key σ (τ.endSession env sid) := by
  have hended : Spares key σ (if env.sessionStore.isSome then
      τ.withBackend (Backend.unregisterGameSession env sid) else τ) := by
    split
    · exact h.redisCall hkey env
    · exact h
  unfold RoomServer.endSession
  simp only
  split
  · exact hended.map (f := fun σ => σ.withBackend (Backend.sendSessionEnded sid)) fun σ o =>
      sendToChat_replaceRedis σ o _
  · exact hended

theorem beginSession (h : Spares key σ τ) (hkey : key ≠ activeSessionsKey) (env : Env)
    (sid : String) : Spares key σ (τ.beginSession env sid) := by
  unfold RoomServer.beginSession
  split
  · exact h.redisCall hkey env
  · exact h

theorem announceSession (h : Spares key σ τ) (env : Env) (sid : String) (room : Room) :
    Spares key σ (τ.announceSession env sid room) := by
  refine h.map (f := fun σ => σ.announceSession env sid room) fun σ o => ?_
  unfold RoomServer.announceSession
  split
  · exact sendToChat_replaceRedis σ o _
  · rfl

theorem issueToken (hkey : ∀ n, σ.backend.uuidsIssued ≤ n → key ≠ "token:" ++ env.uuid n)
    (p sid : String) :
    Spares key σ { σ with backend := (issueToken env p sid σ.backend).2 } := by
  unfold RoomServer.issueToken
  cases env.sessionStore with
  | none => exact of_redis rfl
  | some store =>
      have hcreated : Spares key σ
          { σ with backend := (σ.backend.createToken env store p sid).2 } := by
        rw [createToken_eq]
        exact ⟨Redis.now_call σ.backend.redis,
          Redis.lookup_call_of_ne σ.backend.redis (hkey _ le_rfl)⟩
      simp only
      split
      · next heq =>
          rw [heq] at hcreated
          exact hcreated
      · next heq =>
          rw [heq] at hcreated
          exact hcreated.trans (of_redis rfl)

theorem sendGameStarts (h : Spares key σ τ)
    (hkey : ∀ n, τ.backend.uuidsIssued ≤ n → key ≠ "token:" ++ env.uuid n) (sid : String)
    (ids : List String) : Spares key σ (ids.foldl (RoomServer.sendGameStart env sid) τ) := by
  induction ids generalizing τ with
  | nil => exact h
  | cons p ids ih =>
      have hdraws := Draws.issueToken env p sid τ.backend
      refine ih ?_ fun n hn => hkey n (hdraws.issued.trans ?_)
      · exact (h.trans (issueToken hkey p sid)).map (f := fun σ => σ.sendTo p _) fun σ o =>
          sendTo_replaceRedis σ o p _
      · rw [RoomServer.sendGameStart, backend_sendTo] at hn
        exact hn

theorem startRoom (hsession : key ≠ activeSessionsKey)
    (hkey : ∀ n, σ.backend.uuidsIssued ≤ n → key ≠ "token:" ++ env.uuid n) (r : String)
    (room : Room) : Spares key σ (σ.startRoom env r room) := by
  unfold RoomServer.startRoom
  simp only
  refine Spares.map (f := RoomServer.notifyRoomListChanged) notifyRoomListChanged_replaceRedis
    (announceSession (sendGameStarts (beginSession ?_ hsession env _) ?_ _ _) env _ _)
  · exact of_redis rfl
  · intro n hn
    rw [uuidsIssued_beginSession] at hn
    exact hkey n ((Nat.le_succ _).trans hn)

theorem handleStartGame (hsession : key ≠ activeSessionsKey)
    (hkey : ∀ n, σ.backend.uuidsIssued ≤ n → key ≠ "token:" ++ env.uuid n) (p : String) :
    Spares key σ (σ.handleStartGame env p) := by
  unfold RoomServer.handleStartGame
  split
  · exact refl key σ
  split
  · exact refl key σ
  split
  · exact (refl key σ).map (f := fun σ => σ.sendTo p _) fun σ o => sendTo_replaceRedis σ o p _
  · exact startRoom hsession hkey _ _

theorem handleSlotReleased (hsession : key ≠ activeSessionsKey) (env : Env) (p sid : String)
    (σ : RoomServer) : Spares key σ (σ.handleSlotReleased env p sid) := by
  unfold RoomServer.handleSlotReleased
  split
  · exact refl key σ
  split
  · exact of_redis rfl
  next r _ _ room _ =>
  split
  · exact refl key σ
  simp only
  have hreleased := ((refl key σ).map (f := fun σ => σ.returnToLobby p) fun σ o =>
    returnToLobby_replaceRedis σ o p).map (f := fun σ => ((σ.modifyRoom r fun _ =>
      room.removePlayer p).exitRoom p).unregisterSession p) fun σ o => rfl
  split
  · exact (hreleased.endSession hsession env _).trans (of_redis rfl)
  · exact hreleased

theorem endGame (h : Spares key σ τ) (hsession : key ≠ activeSessionsKey) (env : Env)
    (r : String) : Spares key σ (τ.endGame env r) := by
  unfold RoomServer.endGame
  split
  · exact h
  next room _ =>
  have htold := h.map (f := fun σ => σ.broadcastToRoom room
    (.reject ⟨.roomClosed, "Game server disconnected"⟩)) fun σ o =>
      broadcastToRoom_replaceRedis σ o room _
  exact ((htold.endSession hsession env _).map (f := fun σ => σ.evictPlayers room.playerIds)
    fun σ o => evictPlayers_replaceRedis σ o _).trans (of_redis rfl)

theorem closeGameServer (hsession : key ≠ activeSessionsKey) (env : Env) (k : SessionPtr)
    (σ : RoomServer) : Spares key σ (σ.closeGameServer env k) := by
  have hgames : ∀ (ids : List String) (τ : RoomServer), Spares key σ τ →
      Spares key σ (ids.foldl (RoomServer.endGame env) τ) := by
    intro ids
    induction ids with
    | nil => exact fun τ h => h
    | cons r ids ih => exact fun τ h => ih _ (h.endGame hsession env r)
  unfold RoomServer.closeGameServer
  split
  · exact refl key σ
  simp only
  split
  · exact hgames _ _ (of_redis rfl)
  · exact of_redis rfl

/-!
## Messages
-/

theorem rateLimit (s : SessionPtr) (h : ∀ limiter ∈ env.rateLimiter,
    key ≠ "rate:" ++ (σ.clients s).remoteIp) : Spares key σ (σ.rateLimit env s).2 := by
  unfold RoomServer.rateLimit
  split
  · exact refl key σ
  next limiter hlimiter =>
  have hkey := h limiter hlimiter
  rw [← env.keyPrefix_rateLimiter limiter hlimiter] at hkey
  have hcounted : Spares key σ { σ with backend :=
      (σ.backend.allow env limiter (σ.clients s).remoteIp).2 } := by
    obtain ⟨hnow, hstore⟩ := limiter.store_allow env.outcome (σ.clients s).remoteIp
      σ.backend.redis
    exact ⟨hnow, hstore key hkey⟩
  split
  · next heq =>
      rw [heq] at hcounted
      exact hcounted
  · next heq =>
      rw [heq] at hcounted
      exact hcounted

theorem dispatch (s : SessionPtr) {envelope : Envelope} (hstart : envelope = .startGame →
    key ≠ activeSessionsKey ∧ ∀ n, σ.backend.uuidsIssued ≤ n → key ≠ "token:" ++ env.uuid n) :
    Spares key σ (σ.dispatch env s envelope) := by
  cases envelope with
  | createRoom request => exact (refl key σ).map fun σ o =>
      handleCreateRoom_replaceRedis σ o env request s
  | joinRoom request => exact (refl key σ).map fun σ o =>
      handleJoinRoom_replaceRedis σ o request s
  | leaveRoom =>
      simp only [RoomServer.dispatch]
      split
      · have hleft := (refl key σ).map (f := RoomServer.handleLeaveRoom (σ.clients s).playerId)
          fun σ' o => handleLeaveRoom_replaceRedis σ' o _
        exact (hleft.map (f := fun σ => σ.addLobbySession s) fun σ o => rfl).map
          notifyRoomListChanged_replaceRedis
      · exact refl key σ
  | toggleReady =>
      simp only [RoomServer.dispatch]
      split
      · exact (refl key σ).map fun σ' o => handleToggleReady_replaceRedis σ' o _
      · exact refl key σ
  | startGame =>
      obtain ⟨hsession, htoken⟩ := hstart rfl
      simp only [RoomServer.dispatch]
      split
      · exact handleStartGame hsession htoken _
      · exact refl key σ
  | roomListRequest request => exact (refl key σ).map fun σ o =>
      handleRoomListRequest_replaceRedis σ o request s
  | _ => exact refl key σ

theorem processMessage (s : SessionPtr) {envelope : Envelope}
    (hrate : ∀ limiter ∈ env.rateLimiter, key ≠ "rate:" ++ (σ.clients s).remoteIp)
    (hstart : envelope = .startGame → key ≠ activeSessionsKey ∧
      ∀ n, σ.backend.uuidsIssued ≤ n → key ≠ "token:" ++ env.uuid n) :
    Spares key σ (σ.processMessage env s envelope) := by
  have hcounted := rateLimit s hrate
  obtain ⟨b, hb, hissued, -⟩ := rateLimit_spec env s σ
  unfold RoomServer.processMessage
  split
  · next heq =>
      rw [heq] at hcounted
      exact (hcounted.map (f := fun σ => σ.send s none
        (.reject ⟨.rateLimited, "Too many requests"⟩)) fun σ o => rfl).map fun σ o =>
          closeClient_replaceRedis σ o s
  · next heq =>
      rw [heq] at hcounted hb
      obtain rfl := hb
      refine hcounted.trans (dispatch s fun henvelope => ?_)
      rw [← hissued] at hstart
      exact hstart henvelope

theorem handleTokenValidate {token : String} (hkey : key ≠ "token:" ++ token) (env : Env)
    (k : SessionPtr) (σ : RoomServer) : Spares key σ (σ.handleTokenValidate env token k) := by
  have hvalidated : Spares key σ
      { σ with backend := (σ.backend.validateToken env token).2 } := by
    unfold Backend.validateToken
    split
    · next heq =>
        obtain ⟨-, rfl⟩ := Prod.mk.inj heq
        exact (refl key σ).redisCall hkey env
    · next heq =>
        obtain ⟨-, rfl⟩ := Prod.mk.inj heq
        exact (refl key σ).redisCall hkey env
    next heq =>
    obtain ⟨-, rfl⟩ := Prod.mk.inj heq
    have hread : Spares key σ (σ.withBackend fun b =>
        (b.redisCall env (Redis.get ("token:" ++ token))).2) :=
      (refl key σ).redisCall hkey env
    split
    · next heq =>
        obtain ⟨-, rfl⟩ := Prod.mk.inj heq
        exact hread.redisCall hkey env
    · next heq =>
        obtain ⟨-, rfl⟩ := Prod.mk.inj heq
        exact hread.redisCall hkey env
  unfold RoomServer.handleTokenValidate
  split
  · next heq =>
      rw [heq] at hvalidated
      exact hvalidated.trans (of_redis rfl)
  · next heq =>
      rw [heq] at hvalidated
      exact hvalidated.trans (of_redis rfl)

end Spares

/-!
## Steps
-/

/-- The keys that an input may write under. -/
inductive Writes (env : Env) (σ : RoomServer) : Input → String → Prop
  | rate {s : SessionPtr} {envelope : Envelope} {limiter : RateLimiter}
      (h : limiter ∈ env.rateLimiter) :
      Writes env σ (.clientMessage s envelope) ("rate:" ++ (σ.clients s).remoteIp)
  | started {s : SessionPtr} : Writes env σ (.clientMessage s .startGame) activeSessionsKey
  | token {s : SessionPtr} {n : ℕ} (h : σ.backend.uuidsIssued ≤ n) :
      Writes env σ (.clientMessage s .startGame) ("token:" ++ env.uuid n)
  | validated {k : SessionPtr} {token : String} :
      Writes env σ (.gameServerMessage k (.tokenValidateRequest token)) ("token:" ++ token)
  | heartbeat {k : SessionPtr} {serverId : String} {sessions : UInt32} :
      Writes env σ (.gameServerMessage k (.gameServerHeartbeat serverId sessions))
        ("game_server:" ++ serverId)
  | released {k : SessionPtr} {playerId sessionId : String} :
      Writes env σ (.gameServerMessage k (.slotReleased playerId sessionId)) activeSessionsKey
  | lost {k : SessionPtr} : Writes env σ (.gameServerClose k) activeSessionsKey

/-- A step leaves the keys that its input does not write under, and only a `tick` takes
time. -/
theorem sparesKey_step {env : Env} {key : String} {σ τ : RoomServer} {i : Input}
    (h : Step env σ i τ) (htick : ∀ seconds, i ≠ .tick seconds) (hkey : ¬ Writes env σ i key) :
    Spares key σ τ := by
  cases i with
  | connect s remoteIp =>
      obtain ⟨-, rfl⟩ := Option.ite_some_none_eq_some.1 h
      exact Spares.of_redis rfl
  | clientMessage s envelope =>
      obtain ⟨-, rfl⟩ := Option.ite_some_none_eq_some.1 h
      apply Spares.processMessage
      · rintro limiter hlimiter rfl
        exact hkey (Writes.rate hlimiter)
      · rintro rfl
        constructor
        · rintro rfl
          exact hkey Writes.started
        · rintro n hn rfl
          exact hkey (Writes.token hn)
  | clientClose s =>
      obtain ⟨-, rfl⟩ := Option.ite_some_none_eq_some.1 h
      exact (Spares.refl key σ).map fun σ o => closeClient_replaceRedis σ o s
  | clientReleased s =>
      obtain ⟨-, rfl⟩ := Option.ite_some_none_eq_some.1 h
      exact Spares.of_redis rfl
  | gameServerConnect k =>
      obtain ⟨-, rfl⟩ := Option.ite_some_none_eq_some.1 h
      exact Spares.of_redis rfl
  | gameServerMessage k envelope =>
      obtain ⟨store, -, -, rfl⟩ := h.gameServerMessage_inv
      cases envelope with
      | tokenValidateRequest token =>
          apply Spares.handleTokenValidate
          rintro rfl
          exact hkey Writes.validated
      | slotReleased p sid =>
          apply Spares.handleSlotReleased
          rintro rfl
          exact hkey Writes.released
      | gameServerHeartbeat serverId sessions =>
          have hother : key ≠ "game_server:" ++ serverId := by
            rintro rfl
            exact hkey Writes.heartbeat
          have hnamed : Spares key σ (σ.updateGameServer k fun g =>
              { g with serverId := serverId }) := Spares.of_redis rfl
          exact hnamed.redisCall hother env
      | _ => exact Spares.refl key σ
  | gameServerClose k =>
      obtain ⟨-, rfl⟩ := Option.ite_some_none_eq_some.1 h
      apply Spares.closeGameServer
      rintro rfl
      exact hkey Writes.lost
  | lobbyTimer cancelled =>
      obtain ⟨-, rfl⟩ := Option.ite_some_none_eq_some.1 h
      exact (Spares.refl key σ).map fun σ o => lobbyTimerHandler_replaceRedis σ o cancelled
  | chatLink connected =>
      obtain rfl := Option.some.inj h
      exact Spares.of_redis rfl
  | tick seconds => exact absurd rfl (htick seconds)

theorem now_step {env : Env} {σ τ : RoomServer} {i : Input} (h : Step env σ i τ)
    (htick : ∀ seconds, i ≠ .tick seconds) : τ.backend.now = σ.backend.now := by
  have hspares : ¬ Writes env σ i "" → Spares "" σ τ := sparesKey_step h htick
  refine (hspares ?_).now
  have hempty : ∀ a b : String, a ≠ "" → "" ≠ a ++ b := by
    intro a b ha heq
    exact ha (String.append_eq_empty_iff.1 heq.symm).1
  generalize hkey : "" = key
  intro hwrites
  cases hwrites with
  | rate hlimiter => exact hempty _ _ (by decide) hkey
  | started => exact absurd hkey (by decide)
  | token hn => exact hempty _ _ (by decide) hkey
  | validated => exact hempty _ _ (by decide) hkey
  | heartbeat => exact hempty _ _ (by decide) hkey
  | released => exact absurd hkey (by decide)
  | lost => exact absurd hkey (by decide)

end Room

end SosBackend
