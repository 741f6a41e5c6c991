import SosBackend.Library.Transition
import SosBackend.Room.Manager

/-!
# The sessions and the steps of the Room Server

`dispatch` is the switch of `ClientSession::processMessage`, `closeClient` and
`closeGameServer` are the two `close`. A step of the server is one completion
handler of the event loop, seen message by message: a connection is accepted, a
decoded message is processed, a session closes (an error, an end of stream or a
missed heartbeat), the last handler holding a closed session goes away, the
lobby timer fires, the link to the Chat Server goes up or down, time passes. A
message can still be processed on a session that has been closed, where its read
had completed before.
-/

namespace SosBackend

namespace Room

namespace RoomServer

def updateClient (σ : RoomServer) (s : SessionPtr) (f : ClientSession → ClientSession) :
    RoomServer :=
  { σ with clients := Function.update σ.clients s (f (σ.clients s)) }

def updateGameServer (σ : RoomServer) (k : SessionPtr)
    (f : GameServerSession → GameServerSession) : RoomServer :=
  { σ with gameServers := Function.update σ.gameServers k (f (σ.gameServers k)) }

/-!
## Client sessions
-/

/-- `ClientSession::start`. -/
def startClient (s : SessionPtr) (remoteIp : String) (σ : RoomServer) : RoomServer :=
  (σ.updateClient s fun _ => { remoteIp := remoteIp, lifetime := .alive }).addLobbySession s

/-- `ClientSession::close`. -/
def closeClient (s : SessionPtr) (σ : RoomServer) : RoomServer :=
  if (σ.clients s).closed then σ
  else
    let σ := σ.updateClient s fun c => { c with closed := true }
    let σ := σ.removeLobbySession s
    if (σ.clients s).playerId != "" then
      let σ := σ.handleDisconnect (σ.clients s).playerId
      σ.updateClient s fun c => { c with playerId := "" }
    else σ

/-- The switch of `ClientSession::processMessage`. -/
def dispatch (env : Env) (s : SessionPtr) (envelope : Envelope) (σ : RoomServer) :
    RoomServer :=
  match envelope with
  | .createRoom request => σ.handleCreateRoom env request s
  | .joinRoom request => σ.handleJoinRoom request s
  | .leaveRoom =>
      if (σ.clients s).playerId != "" then
        let σ := σ.handleLeaveRoom (σ.clients s).playerId
        let σ := σ.addLobbySession s
        σ.notifyRoomListChanged
      else σ
  | .toggleReady =>
      if (σ.clients s).playerId != "" then
        σ.handleToggleReady (σ.clients s).playerId
      else σ
  | .startGame =>
      if (σ.clients s).playerId != "" then
        σ.handleStartGame env (σ.clients s).playerId
      else σ
  | .roomListRequest request => σ.handleRoomListRequest request s
  | _ => σ

/-- What the rate limiter says to a message of a session; a limiter that throws
lets it pass. -/
def rateLimit (env : Env) (s : SessionPtr) (σ : RoomServer) : Bool × RoomServer :=
  match env.rateLimiter with
  | none => (true, σ)
  | some limiter =>
      match σ.backend.allow env limiter (σ.clients s).remoteIp with
      | (some allowed, backend) => (allowed, { σ with backend := backend })
      | (none, backend) => (true, { σ with backend := backend })

/-- `ClientSession::processMessage`. -/
def processMessage (env : Env) (s : SessionPtr) (envelope : Envelope) (σ : RoomServer) :
    RoomServer :=
  match σ.rateLimit env s with
  | (false, σ) => (σ.send s none (.reject ⟨.rateLimited, "Too many requests"⟩)).closeClient s
  | (true, σ) => σ.dispatch env s envelope

/-!
## Game-server sessions
-/

def handleTokenValidate (env : Env) (authToken : String) (k : SessionPtr)
    (σ : RoomServer) : RoomServer :=
  match σ.backend.validateToken env authToken with
  | (some (some data), backend) =>
      { σ with
        backend := backend
        replies := σ.replies ++ [(k, .tokenValidateResponse
          { valid := true, playerId := data.playerId, sessionId := data.sessionId })] }
  | (_, backend) =>
      { σ with
        backend := backend
        replies := σ.replies ++ [(k, .tokenValidateResponse { valid := false })] }

def handleGameServerHeartbeat (env : Env) (store : SessionStore) (serverId : String)
    (k : SessionPtr) (σ : RoomServer) : RoomServer :=
  (σ.updateGameServer k fun g => { g with serverId := serverId }).withBackend
    (Backend.updateGameServerHeartbeat env store serverId)

/-- `GameServerSession::processMessage`, which relies on a session store. -/
def processInternalMessage (env : Env) (store : SessionStore) (k : SessionPtr)
    (envelope : Envelope) (σ : RoomServer) : RoomServer :=
  match envelope with
  | .tokenValidateRequest authToken => σ.handleTokenValidate env authToken k
  | .slotReleased playerId sessionId => σ.handleSlotReleased env playerId sessionId
  | .gameServerHeartbeat serverId _ => σ.handleGameServerHeartbeat env store serverId k
  | _ => σ

/-- `GameServerSession::close`: it is the loss of the game server once a
heartbeat has named it. -/
def closeGameServer (env : Env) (k : SessionPtr) (σ : RoomServer) : RoomServer :=
  if (σ.gameServers k).closed then σ
  else
    let σ := σ.updateGameServer k fun g => { g with closed := true }
    if (σ.gameServers k).serverId != "" then σ.handleGameServerDisconnect env
    else σ

end RoomServer

/-!
## Steps
-/

inductive Input
  | connect (s : SessionPtr) (remoteIp : String)
  | clientMessage (s : SessionPtr) (envelope : Envelope)
  | clientClose (s : SessionPtr)
  | clientReleased (s : SessionPtr)
  | gameServerConnect (k : SessionPtr)
  | gameServerMessage (k : SessionPtr) (envelope : Envelope)
  | gameServerClose (k : SessionPtr)
  | lobbyTimer (cancelled : Bool)
  | chatLink (connected : Bool)
  | tick (seconds : ℕ)
deriving DecidableEq, Repr

/-- One step of the server, if it is enabled. -/
def step (env : Env) (σ : RoomServer) : Input → Option RoomServer
  | .connect s remoteIp =>
      if (σ.clients s).lifetime = .unborn then some (σ.startClient s remoteIp) else none
  | .clientMessage s envelope =>
      if (σ.clients s).lifetime = .alive then some (σ.processMessage env s envelope)
      else none
  | .clientClose s =>
      if (σ.clients s).isOpen then some (σ.closeClient s) else none
  | .clientReleased s =>
      if (σ.clients s).lifetime = .alive ∧ (σ.clients s).closed then
        some (σ.updateClient s fun c => { c with lifetime := .expired })
      else none
  | .gameServerConnect k =>
      if (σ.gameServers k).lifetime = .unborn then
        some (σ.updateGameServer k fun g => { g with lifetime := .alive })
      else none
  | .gameServerMessage k envelope =>
      match env.sessionStore with
      | none => none
      | some store =>
          if (σ.gameServers k).lifetime = .alive then
            some (σ.processInternalMessage env store k envelope)
          else none
  | .gameServerClose k =>
      if (σ.gameServers k).lifetime = .alive then some (σ.closeGameServer env k) else none
  | .lobbyTimer cancelled =>
      if 0 < σ.manager.lobbyTimerWaits then some (σ.lobbyTimerHandler cancelled) else none
  | .chatLink connected =>
      some (σ.withBackend fun b => { b with chat := { b.chat with connected := connected } })
  | .tick seconds =>
      some (σ.withBackend fun b =>
        { b with redis := { b.redis with store := b.redis.store.advance seconds } })

/-- The settings `main` falls back to, with a Redis that answers every command
and identifiers `u`, `uu`, and so on. -/
def defaultEnv : Env where
  maxRooms := 100
  maxPlayersPerRoom := 8
  gameServerHost := "127.0.0.1"
  gameServerPort := 7979
  sessionStore := some { tokenTtl := 60, gameServerHeartbeatTtl := 90 }
  chatChannel := true
  rateLimiter := some { maxRequests := 20, window := 10 }
  keyPrefix_rateLimiter limiter h := by
    cases h
    rfl
  outcome _ := .answered
  dumpToken data := "\x7b\"player_id\":\"" ++ data.playerId ++ "\",\"session_id\":\"" ++
    data.sessionId ++ "\"\x7d"
  parseToken value :=
    match value.splitOn "\"" with
    | [_, _, _, playerId, _, _, _, sessionId, _] => some ⟨playerId, sessionId⟩
    | _ => none
  uuid n := String.ofList (List.replicate (n + 1) 'u')
  uuid_injective m n h := by
    have hlength := congrArg List.length (String.ofList_inj.1 h)
    simpa using hlength
  uuid_ne_empty n h := by
    have hlength := congrArg String.length h
    simp at hlength

/-- The rate limiter refuses a message of the session, which closes it. -/
def limited (env : Env) (σ : RoomServer) (s : SessionPtr) : Bool :=
  !(σ.rateLimit env s).1

/-- The session that a step closes. -/
def closing (env : Env) (σ : RoomServer) : Input → Option SessionPtr
  | .clientMessage s _ =>
      if limited env σ s && !(σ.clients s).closed then some s else none
  | .clientClose s => some s
  | _ => none

/-- The session whose player leaves its room in a step: by `LeaveRoom`, or
because the step closes the session. -/
def departing (env : Env) (σ : RoomServer) : Input → Option SessionPtr
  | .clientMessage s .leaveRoom =>
      if limited env σ s then closing env σ (.clientMessage s .leaveRoom) else some s
  | i => closing env σ i

/-- The server at its start, on whatever Redis holds then. -/
def initial (store : Redis.Keyspace) : RoomServer :=
  { backend := { redis := { store := store } } }

/-- The steps of the server as a relation. -/
def Step (env : Env) (σ : RoomServer) (i : Input) (τ : RoomServer) : Prop :=
  step env σ i = some τ

/-- A message on the internal port is processed with the store that there is. -/
theorem Step.gameServerMessage_inv {env : Env} {σ τ : RoomServer} {k : SessionPtr}
    {envelope : Envelope} (h : Step env σ (.gameServerMessage k envelope) τ) :
    ∃ store, env.sessionStore = some store ∧ (σ.gameServers k).lifetime = .alive ∧
      τ = σ.processInternalMessage env store k envelope := by
  unfold Step step at h
  cases hstore : env.sessionStore with
  | none =>
      rw [hstore] at h
      cases h
  | some store =>
      rw [hstore] at h
      obtain ⟨halive, rfl⟩ := Option.ite_some_none_eq_some.1 h
      exact ⟨store, rfl, halive, rfl⟩

end Room

end SosBackend
