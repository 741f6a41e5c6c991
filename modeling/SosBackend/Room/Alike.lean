import SosBackend.Library.Footprint
import SosBackend.Room.Keys

/-!
# The same server with another Redis

`Alike` relates two servers that differ in Redis and in what the game servers have been
answered, and in nothing else. Two environments are `Mates` if the commands that both servers
issue keep a relation of their Redis. What the server does without asking keeps the servers
alike, and so does what it does without reading the reply: the beginnings and the ends of
sessions and the heartbeats. What reads a reply is left to the relation: the counters of the
rate limiter, the tokens of a start, and the requests for tokens.
-/

namespace SosBackend

namespace Room

open RoomServer

/-- The keys of the Room Server. -/
def redisKeys : Set String := fun key =>
  key = activeSessionsKey ∨ ∃ x, key = "rate:" ++ x ∨ key = "token:" ++ x ∨
    key = "game_server:" ++ x

/-- The servers differ at most in what `Q` relates. -/
def Alike (Q : Outside → Outside → Prop) (σ τ : RoomServer) : Prop :=
  ∃ o, τ = σ.replaceRedis o ∧ Q σ.outside o

/-- The environments differ in Redis and in the rate limiter, and commands to Redis keep
`Q`. -/
structure Mates (Q : Outside → Outside → Prop) (env env' : Env) : Prop where
  eq : ∃ outcome limiter hprefix, env' = { env with
    outcome := outcome, rateLimiter := limiter, keyPrefix_rateLimiter := hprefix }
  call : ∀ {ρ : Type} {cmd : Redis.Command ρ} {o o' : Outside}, cmd.Within redisKeys → Q o o' →
    Q ((o.1.call env.outcome cmd).2, o.2) ((o'.1.call env'.outcome cmd).2, o'.2)

namespace Alike

variable {Q : Outside → Outside → Prop} {env env' : Env} {σ τ : RoomServer}

/-- What does not ask Redis keeps them alike. -/
theorem map {f : RoomServer → RoomServer}
    (hf : ∀ σ o, f (RoomServer.replaceRedis σ o) = (f σ).replaceRedis o) (h : Alike Q σ τ) :
    Alike Q (f σ) (f τ) := by
  obtain ⟨o, rfl, ho⟩ := h
  refine ⟨o, hf σ o, ?_⟩
  have hself := hf σ σ.outside
  rw [replaceRedis_self] at hself
  rw [hself]
  exact ho

theorem manager (h : Alike Q σ τ) : τ.manager = σ.manager := by
  obtain ⟨o, rfl, -⟩ := h
  rfl

theorem clients (h : Alike Q σ τ) : τ.clients = σ.clients := by
  obtain ⟨o, rfl, -⟩ := h
  rfl

theorem gameServers (h : Alike Q σ τ) : τ.gameServers = σ.gameServers := by
  obtain ⟨o, rfl, -⟩ := h
  rfl

/-- A command to Redis whose reply nobody reads. -/
theorem redisCall {ρ : Type} {cmd : Redis.Command ρ} (h : Alike Q σ τ) (hm : Mates Q env env')
    (hcmd : cmd.Within redisKeys) :
    Alike Q (σ.withBackend fun b => (b.redisCall env cmd).2)
      (τ.withBackend fun b => (b.redisCall env' cmd).2) := by
  obtain ⟨o, rfl, ho⟩ := h
  exact ⟨_, rfl, hm.call hcmd ho⟩

/-!
## Sessions
-/

theorem endSession (h : Alike Q σ τ) (hm : Mates Q env env') (sid : String) :
    Alike Q (σ.endSession env sid) (τ.endSession env' sid) := by
  have hsrem : (Redis.srem activeSessionsKey sid).Within redisKeys :=
    ⟨activeSessionsKey, Or.inl rfl, _, rfl⟩
  have hended := h.redisCall hm hsrem
  obtain ⟨outcome, limiter, hprefix, rfl⟩ := hm.eq
  have htold := hended.map (f := fun σ => σ.withBackend (Backend.sendSessionEnded sid))
    fun σ o => sendToChat_replaceRedis σ o _
  have htold' := h.map (f := fun σ => σ.withBackend (Backend.sendSessionEnded sid))
    fun σ o => sendToChat_replaceRedis σ o _
  unfold RoomServer.endSession
  simp only
  cases env.sessionStore.isSome with
  | true =>
      split
      · exact htold
      · exact hended
  | false =>
      split
      · exact htold'
      · exact h

theorem endGame (h : Alike Q σ τ) (hm : Mates Q env env') (r : String) :
    Alike Q (σ.endGame env r) (τ.endGame env' r) := by
  unfold RoomServer.endGame
  rw [h.manager]
  cases σ.manager.rooms.find? r with
  | none => exact h
  | some room =>
      have htold := h.map (f := fun σ => σ.broadcastToRoom room
        (.reject ⟨.roomClosed, "Game server disconnected"⟩)) fun σ o =>
          broadcastToRoom_replaceRedis σ o room _
      have hevicted := (htold.endSession hm room.sessionId).map
        (f := fun σ => σ.evictPlayers room.playerIds) fun σ o =>
          evictPlayers_replaceRedis σ o room.playerIds
      exact hevicted.map (f := fun σ => σ.eraseRoom r) fun σ o => rfl

theorem handleGameServerDisconnect (h : Alike Q σ τ) (hm : Mates Q env env') :
    Alike Q (σ.handleGameServerDisconnect env) (τ.handleGameServerDisconnect env') := by
  have hids : τ.inGameRoomIds = σ.inGameRoomIds := by
    unfold inGameRoomIds
    rw [h.manager]
  unfold RoomServer.handleGameServerDisconnect
  rw [hids]
  clear hids
  induction σ.inGameRoomIds generalizing σ τ with
  | nil => exact h
  | cons r ids ih => exact ih (h.endGame hm r)

theorem handleSlotReleased (h : Alike Q σ τ) (hm : Mates Q env env') (p sid : String) :
    Alike Q (σ.handleSlotReleased env p sid) (τ.handleSlotReleased env' p sid) := by
  unfold RoomServer.handleSlotReleased
  rw [h.manager]
  cases σ.manager.playerToRoom.find? p with
  | none => exact h
  | some r =>
  simp only
  cases σ.manager.rooms.find? r with
  | none => exact h.map (f := fun σ => (σ.exitRoom p).unregisterSession p) fun σ o => rfl
  | some room =>
  simp only
  split
  · exact h
  have hreleased := (h.map (f := fun σ => σ.returnToLobby p) fun σ o =>
    returnToLobby_replaceRedis σ o p).map (f := fun σ => ((σ.modifyRoom r fun _ =>
      room.removePlayer p).exitRoom p).unregisterSession p) fun σ o => rfl
  split
  · exact (hreleased.endSession hm _).map (f := fun σ => σ.eraseRoom r) fun σ o => rfl
  · exact hreleased

theorem beginSession (h : Alike Q σ τ) (hm : Mates Q env env') (sid : String) :
    Alike Q (σ.beginSession env sid) (τ.beginSession env' sid) := by
  have hsadd : (Redis.sadd activeSessionsKey sid).Within redisKeys :=
    ⟨activeSessionsKey, Or.inl rfl, _, rfl⟩
  have hbegun := h.redisCall hm hsadd
  obtain ⟨outcome, limiter, hprefix, rfl⟩ := hm.eq
  unfold RoomServer.beginSession
  cases env.sessionStore.isSome with
  | true => exact hbegun
  | false => exact h

theorem announceSession (h : Alike Q σ τ) (hm : Mates Q env env') (sid : String)
    (room : Room) :
    Alike Q (σ.announceSession env sid room) (τ.announceSession env' sid room) := by
  obtain ⟨outcome, limiter, hprefix, rfl⟩ := hm.eq
  refine h.map (f := fun σ => σ.announceSession env sid room) fun σ o => ?_
  unfold RoomServer.announceSession
  split
  · exact sendToChat_replaceRedis σ o _
  · rfl

/-- A room that starts, up to the loop over its players. -/
theorem startRoom (h : Alike Q σ τ) (hm : Mates Q env env') (r : String) (room : Room)
    (hloop : ∀ σ' τ' : RoomServer, Alike Q σ' τ' →
      (σ.startRoom env r room).backend.uuidsIssued = (((room.setState .inGame).setSessionId
        (env.uuid σ.backend.uuidsIssued)).playerIds.foldl (RoomServer.sendGameStart env
          (env.uuid σ.backend.uuidsIssued)) σ').backend.uuidsIssued →
      σ'.backend.uuidsIssued = σ.backend.uuidsIssued + 1 →
      Alike Q (((room.setState .inGame).setSessionId
          (env.uuid σ.backend.uuidsIssued)).playerIds.foldl (RoomServer.sendGameStart env
            (env.uuid σ.backend.uuidsIssued)) σ')
        (((room.setState .inGame).setSessionId
          (env.uuid σ.backend.uuidsIssued)).playerIds.foldl (RoomServer.sendGameStart env'
            (env.uuid σ.backend.uuidsIssued)) τ')) :
    Alike Q (σ.startRoom env r room) (τ.startRoom env' r room) := by
  have hsid : env'.uuid τ.backend.uuidsIssued = env.uuid σ.backend.uuidsIssued := by
    obtain ⟨outcome, limiter, hprefix, rfl⟩ := hm.eq
    obtain ⟨o, rfl, -⟩ := h
    rfl
  have hmodified := h.map (f := fun σ' => ({ σ' with backend := { σ'.backend with
    uuidsIssued := σ'.backend.uuidsIssued + 1 } } : RoomServer).modifyRoom r fun _ =>
      (room.setState .inGame).setSessionId (env.uuid σ.backend.uuidsIssued)) fun σ o => rfl
  have hbegun := hmodified.beginSession hm (env.uuid σ.backend.uuidsIssued)
  have hsent := hloop _ _ hbegun ?_ (uuidsIssued_beginSession _ _ _)
  · simp only [RoomServer.startRoom, Backend.generateUuid]
    rw [hsid]
    exact (hsent.announceSession hm _ _).map notifyRoomListChanged_replaceRedis
  · simp only [RoomServer.startRoom, Backend.generateUuid]
    rw [backend_notifyRoomListChanged]
    exact congrArg Registry.issued (announceSession_spec env _ _ _).1

theorem handleStartGame (h : Alike Q σ τ) (p : String)
    (hstart : ∀ r room, σ.manager.playerToRoom.find? p = some r →
      σ.manager.rooms.find? r = some room → σ.startRejection room p = none →
        Alike Q (σ.startRoom env r room) (τ.startRoom env' r room)) :
    Alike Q (σ.handleStartGame env p) (τ.handleStartGame env' p) := by
  have hreject : ∀ room, τ.startRejection room p = σ.startRejection room p := by
    obtain ⟨o, rfl, -⟩ := h
    exact fun room => rfl
  unfold RoomServer.handleStartGame
  rw [h.manager]
  cases hp : σ.manager.playerToRoom.find? p with
  | none => exact h
  | some r =>
  simp only
  cases hr : σ.manager.rooms.find? r with
  | none => exact h
  | some room =>
  simp only
  rw [hreject]
  cases hpass : σ.startRejection room p with
  | some reject => exact h.map (f := fun σ => σ.sendTo p (.reject reject)) fun σ o =>
      sendTo_replaceRedis σ o p _
  | none => exact hstart r room hp hr hpass

/-!
## Messages
-/

theorem dispatch (h : Alike Q σ τ) (hm : Mates Q env env') (s : SessionPtr)
    (envelope : Envelope) (hstart : envelope = .startGame → (σ.clients s).playerId != "" →
      Alike Q (σ.handleStartGame env (σ.clients s).playerId)
        (τ.handleStartGame env' (σ.clients s).playerId)) :
    Alike Q (σ.dispatch env s envelope) (τ.dispatch env' s envelope) := by
  obtain ⟨outcome, limiter, hprefix, rfl⟩ := hm.eq
  cases envelope with
  | createRoom request => exact h.map fun σ o => handleCreateRoom_replaceRedis σ o env request s
  | joinRoom request => exact h.map fun σ o => handleJoinRoom_replaceRedis σ o request s
  | leaveRoom =>
      refine h.map (f := fun σ => σ.dispatch env s .leaveRoom) fun σ o => ?_
      change (if (σ.clients s).playerId != "" then ((handleLeaveRoom (σ.clients s).playerId
        (σ.replaceRedis o)).addLobbySession s).notifyRoomListChanged else σ.replaceRedis o) =
          RoomServer.replaceRedis (if (σ.clients s).playerId != "" then ((handleLeaveRoom
            (σ.clients s).playerId σ).addLobbySession s).notifyRoomListChanged else σ) o
      rw [handleLeaveRoom_replaceRedis]
      by_cases hid : ((σ.clients s).playerId != "") = true
      · rw [if_pos hid, if_pos hid]
        exact notifyRoomListChanged_replaceRedis
          ((handleLeaveRoom (σ.clients s).playerId σ).addLobbySession s) o
      · rw [if_neg hid, if_neg hid]
  | toggleReady =>
      refine h.map (f := fun σ => σ.dispatch env s .toggleReady) fun σ o => ?_
      change (if (σ.clients s).playerId != "" then handleToggleReady (σ.clients s).playerId
        (σ.replaceRedis o) else σ.replaceRedis o) = RoomServer.replaceRedis
          (if (σ.clients s).playerId != "" then handleToggleReady (σ.clients s).playerId σ
            else σ) o
      rw [handleToggleReady_replaceRedis]
      by_cases hid : ((σ.clients s).playerId != "") = true
      · rw [if_pos hid, if_pos hid]
      · rw [if_neg hid, if_neg hid]
  | startGame =>
      simp only [RoomServer.dispatch]
      rw [h.clients]
      split
      · next hid => exact hstart rfl hid
      · exact h
  | roomListRequest request =>
      exact h.map fun σ o => handleRoomListRequest_replaceRedis σ o request s
  | _ => exact h

theorem closeGameServer (h : Alike Q σ τ) (hm : Mates Q env env') (k : SessionPtr) :
    Alike Q (σ.closeGameServer env k) (τ.closeGameServer env' k) := by
  have hclosed := h.map (f := fun σ => σ.updateGameServer k fun g => { g with closed := true })
    fun σ o => rfl
  unfold RoomServer.closeGameServer
  rw [h.gameServers]
  split
  · exact h
  simp only
  rw [hclosed.gameServers]
  split
  · exact hclosed.handleGameServerDisconnect hm
  · exact hclosed

theorem processInternalMessage (h : Alike Q σ τ) (hm : Mates Q env env')
    (store : SessionStore) (k : SessionPtr) (envelope : Envelope)
    (hvalidate : ∀ token, envelope = .tokenValidateRequest token →
      Alike Q (σ.handleTokenValidate env token k) (τ.handleTokenValidate env' token k)) :
    Alike Q (σ.processInternalMessage env store k envelope)
      (τ.processInternalMessage env' store k envelope) := by
  cases envelope with
  | tokenValidateRequest token => exact hvalidate token rfl
  | slotReleased p sid => exact h.handleSlotReleased hm p sid
  | gameServerHeartbeat serverId sessions =>
      have hnamed := h.map (f := fun σ => σ.updateGameServer k fun g =>
        { g with serverId := serverId }) fun σ o => rfl
      exact hnamed.redisCall hm
        ⟨"game_server:" ++ serverId, Or.inr ⟨serverId, Or.inr (Or.inr rfl)⟩, _, rfl⟩
  | _ => exact h

/-- One step, up to what reads a reply of Redis and to the time that passes. -/
theorem step (h : Alike Q σ τ) (hm : Mates Q env env') {σ' : RoomServer} {i : Input}
    (hstep : Step env σ i σ')
    (hmessage : ∀ s envelope, i = .clientMessage s envelope →
      Alike Q (σ.processMessage env s envelope) (τ.processMessage env' s envelope))
    (hvalidate : ∀ k token, i = .gameServerMessage k (.tokenValidateRequest token) →
      Alike Q (σ.handleTokenValidate env token k) (τ.handleTokenValidate env' token k))
    (htick : ∀ seconds, i = .tick seconds →
      Alike Q (σ.withBackend fun b =>
          { b with redis := { b.redis with store := b.redis.store.advance seconds } })
        (τ.withBackend fun b =>
          { b with redis := { b.redis with store := b.redis.store.advance seconds } })) :
    ∃ τ', Step env' τ i τ' ∧ Alike Q σ' τ' := by
  have hstore : env'.sessionStore = env.sessionStore := by
    obtain ⟨outcome, limiter, hprefix, rfl⟩ := hm.eq
    rfl
  cases i with
  | connect s remoteIp =>
      obtain ⟨hunborn, rfl⟩ := Option.ite_some_none_eq_some.1 hstep
      rw [← h.clients] at hunborn
      exact ⟨_, if_pos hunborn, h.map fun σ o => rfl⟩
  | clientMessage s envelope =>
      obtain ⟨halive, rfl⟩ := Option.ite_some_none_eq_some.1 hstep
      rw [← h.clients] at halive
      exact ⟨_, if_pos halive, hmessage s envelope rfl⟩
  | clientClose s =>
      obtain ⟨hopen, rfl⟩ := Option.ite_some_none_eq_some.1 hstep
      rw [← h.clients] at hopen
      exact ⟨_, if_pos hopen, h.map fun σ o => closeClient_replaceRedis σ o s⟩
  | clientReleased s =>
      obtain ⟨hclosed, rfl⟩ := Option.ite_some_none_eq_some.1 hstep
      rw [← h.clients] at hclosed
      exact ⟨_, if_pos hclosed, h.map (f := fun σ => σ.updateClient s fun c =>
        { c with lifetime := .expired }) fun σ o => rfl⟩
  | gameServerConnect k =>
      obtain ⟨hunborn, rfl⟩ := Option.ite_some_none_eq_some.1 hstep
      rw [← h.gameServers] at hunborn
      exact ⟨_, if_pos hunborn, h.map (f := fun σ => σ.updateGameServer k fun g =>
        { g with lifetime := .alive }) fun σ o => rfl⟩
  | gameServerMessage k envelope =>
      obtain ⟨store, hsome, halive, rfl⟩ := hstep.gameServerMessage_inv
      rw [← h.gameServers] at halive
      rw [← hstore] at hsome
      refine ⟨_, ?_, h.processInternalMessage hm store k envelope ?_⟩
      · unfold Step Room.step
        rw [hsome]
        exact if_pos halive
      · rintro token rfl
        exact hvalidate k token rfl
  | gameServerClose k =>
      obtain ⟨halive, rfl⟩ := Option.ite_some_none_eq_some.1 hstep
      rw [← h.gameServers] at halive
      exact ⟨_, if_pos halive, h.closeGameServer hm k⟩
  | lobbyTimer cancelled =>
      obtain ⟨hwaits, rfl⟩ := Option.ite_some_none_eq_some.1 hstep
      rw [← h.manager] at hwaits
      exact ⟨_, if_pos hwaits, h.map fun σ o => lobbyTimerHandler_replaceRedis σ o cancelled⟩
  | chatLink connected =>
      obtain rfl := Option.some.inj hstep
      exact ⟨_, rfl, h.map (f := fun σ => σ.withBackend fun b =>
        { b with chat := { b.chat with connected := connected } }) fun σ o => rfl⟩
  | tick seconds =>
      obtain rfl := Option.some.inj hstep
      exact ⟨_, rfl, htick seconds rfl⟩

end Alike

end Room

end SosBackend
