import SosBackend.Room.State

/-!
# The handlers of the room manager

Every handler of `RoomManager` takes the server to the server after it, in the
order of the source: what it answers, whom it tells, and in between what it
writes. The checks with which `handleCreateRoom`, `handleJoinRoom` and
`handleStartGame` refuse a request are functions of their own, with the answer
they send.
-/

namespace SosBackend

namespace Room

namespace RoomServer

/-!
## Sending
-/

/-- `ClientSession::send`: it does not ask whether the session is closed. -/
def send (σ : RoomServer) (s : SessionPtr) (addressee : Option String)
    (envelope : Envelope) : RoomServer :=
  { σ with sent := σ.sent ++ [⟨s, addressee, envelope⟩] }

/-- `sessions_.find(player_id)` and `lock()` on what it finds. -/
def lock (σ : RoomServer) (playerId : String) : Option SessionPtr :=
  (σ.manager.sessions.find? playerId).filter fun s => (σ.clients s).lifetime == .alive

def sendTo (σ : RoomServer) (playerId : String) (envelope : Envelope) : RoomServer :=
  match σ.lock playerId with
  | none => σ
  | some s => σ.send s (some playerId) envelope

def sendRejectTo (σ : RoomServer) (s : SessionPtr) (reject : RejectResponse) : RoomServer :=
  σ.send s none (.reject reject)

/-- Both forms of `broadcastToRoom`: to the players of a list, the roster of a
room or the roster without one player. -/
def broadcast (σ : RoomServer) (playerIds : List String) (envelope : Envelope) :
    RoomServer :=
  playerIds.foldl (fun σ playerId => σ.sendTo playerId envelope) σ

def broadcastToRoom (σ : RoomServer) (room : Room) (envelope : Envelope) : RoomServer :=
  σ.broadcast room.playerIds envelope

def broadcastToRoomExcept (σ : RoomServer) (room : Room) (envelope : Envelope)
    (excludePlayerId : String) : RoomServer :=
  σ.broadcast (room.playerIds.filter fun playerId => playerId != excludePlayerId) envelope

/-!
## The lobby
-/

def addLobbySession (σ : RoomServer) (s : SessionPtr) : RoomServer :=
  { σ with manager := { σ.manager with
      lobbySessions := σ.manager.lobbySessions.insert s } }

def removeLobbySession (σ : RoomServer) (s : SessionPtr) : RoomServer :=
  { σ with manager := { σ.manager with
      lobbySessions := σ.manager.lobbySessions.erase s } }

/-- Arm the timer of the lobby broadcast, once. -/
def notifyRoomListChanged (σ : RoomServer) : RoomServer :=
  if σ.manager.lobbySessions.size = 0 then σ
  else if σ.manager.lobbyBroadcastPending then σ
  else { σ with manager := { σ.manager with
      lobbyBroadcastPending := true
      lobbyTimerWaits := σ.manager.lobbyTimerWaits + 1 } }

def waitingRooms (σ : RoomServer) : List Room :=
  σ.manager.rooms.values.filter fun room => room.state == .waiting

/-- `kLobbyBroadcastPageSize`. -/
def lobbyBroadcastPageSize : UInt32 := 20

def broadcastRoomListToLobby (σ : RoomServer) : RoomServer :=
  if σ.manager.lobbySessions.size = 0 then σ
  else
    let total := UInt32.ofNat σ.waitingRooms.length
    let count := min total lobbyBroadcastPageSize
    let envelope := Envelope.roomListResponse
      { rooms := (σ.waitingRooms.take count.toNat).map Room.toRoomSummary
        totalRooms := total }
    let (alive, expired) := σ.manager.lobbySessions.keyList.partition fun s =>
      (σ.clients s).lifetime == .alive
    let σ := alive.foldl (fun σ s => σ.send s none envelope) σ
    expired.foldl removeLobbySession σ

/-- The completion handler of the lobby timer; `cancelled` is its error code. -/
def lobbyTimerHandler (cancelled : Bool) (σ : RoomServer) : RoomServer :=
  let σ := { σ with manager := { σ.manager with
    lobbyBroadcastPending := false
    lobbyTimerWaits := σ.manager.lobbyTimerWaits - 1 } }
  if cancelled then σ else σ.broadcastRoomListToLobby

/-!
## The store of rooms
-/

def setPlayerId (σ : RoomServer) (s : SessionPtr) (playerId : String) : RoomServer :=
  { σ with
    clients := Function.update σ.clients s { σ.clients s with playerId := playerId } }

def registerSession (σ : RoomServer) (playerId : String) (s : SessionPtr) : RoomServer :=
  { σ with manager := { σ.manager with
      sessions := σ.manager.sessions.insert playerId s } }

def unregisterSession (σ : RoomServer) (playerId : String) : RoomServer :=
  { σ with manager := { σ.manager with
      sessions := σ.manager.sessions.erase playerId } }

/-- `rooms_[room_id] = room`. -/
def insertRoom (σ : RoomServer) (roomId : String) (room : Room) : RoomServer :=
  { σ with manager := { σ.manager with
      rooms := σ.manager.rooms.insert roomId room } }

/-- Change the room object stored under a key. -/
def modifyRoom (σ : RoomServer) (roomId : String) (f : Room → Room) : RoomServer :=
  { σ with manager := { σ.manager with
      rooms := σ.manager.rooms.modify roomId f } }

def eraseRoom (σ : RoomServer) (roomId : String) : RoomServer :=
  { σ with manager := { σ.manager with
      rooms := σ.manager.rooms.erase roomId } }

/-- `player_to_room_[player_id] = room_id`. -/
def enterRoom (σ : RoomServer) (playerId roomId : String) : RoomServer :=
  { σ with manager := { σ.manager with
      playerToRoom := σ.manager.playerToRoom.insert playerId roomId } }

/-- `player_to_room_.erase(player_id)`. -/
def exitRoom (σ : RoomServer) (playerId : String) : RoomServer :=
  { σ with manager := { σ.manager with
      playerToRoom := σ.manager.playerToRoom.erase playerId } }

def withBackend (σ : RoomServer) (f : Backend → Backend) : RoomServer :=
  { σ with backend := f σ.backend }

def hasActiveGame (σ : RoomServer) : Bool :=
  σ.manager.rooms.values.any fun room => room.state == .inGame

/-- Add the session registered for a player to the lobby, if it is alive. -/
def returnToLobby (σ : RoomServer) (playerId : String) : RoomServer :=
  match σ.lock playerId with
  | none => σ
  | some s => σ.addLobbySession s

/-- The loop with which `removeRoom` and `handleGameServerDisconnect` take the
players of a room out of it. -/
def evictPlayers (σ : RoomServer) (playerIds : List String) : RoomServer :=
  playerIds.foldl (fun σ playerId => (σ.returnToLobby playerId).exitRoom playerId) σ

def removeRoom (σ : RoomServer) (roomId excludePlayerId : String) : RoomServer :=
  match σ.manager.rooms.find? roomId with
  | none => σ
  | some room =>
      let σ := σ.broadcastToRoomExcept room
        (.reject ⟨.roomClosed, "Room closed by host"⟩) excludePlayerId
      let σ := σ.evictPlayers room.playerIds
      σ.eraseRoom roomId

/-- What the last `SlotReleased` and the loss of the game server do for the
session of a room: it is taken out of Redis, and the Chat Server is told. -/
def endSession (env : Env) (endedSessionId : String) (σ : RoomServer) : RoomServer :=
  let σ := if env.sessionStore.isSome then
      σ.withBackend (Backend.unregisterGameSession env endedSessionId)
    else σ
  if env.chatChannel && endedSessionId != "" then
    σ.withBackend (Backend.sendSessionEnded endedSessionId)
  else σ

/-!
## Create and join
-/

/-- The checks that `handleCreateRoom` and `handleJoinRoom` share. -/
def identityRejection (σ : RoomServer) (playerId : String) (s : SessionPtr) :
    Option RejectResponse :=
  if (σ.lock playerId).any fun existing => existing != s then
    some ⟨.duplicatePlayer, "Player ID already connected"⟩
  else if (σ.clients s).playerId != "" && (σ.clients s).playerId != playerId then
    some ⟨.invalidRequest, "Session already has a different player ID"⟩
  else if σ.manager.playerToRoom.contains playerId then
    some ⟨.alreadyInRoom, "Already in a room"⟩
  else none

def createRejection (env : Env) (σ : RoomServer) (request : CreateRoomRequest)
    (s : SessionPtr) : Option RejectResponse :=
  match σ.identityRejection request.playerId s with
  | some reject => some reject
  | none =>
      if env.maxRooms.toNat ≤ σ.manager.rooms.size then
        some ⟨.invalidRequest, "Maximum room count reached"⟩
      else if request.maxPlayers < 1 ∨ env.maxPlayersPerRoom < request.maxPlayers then
        some ⟨.invalidRequest, "Invalid max_players value (1-" ++
          toString env.maxPlayersPerRoom ++ ")"⟩
      else none

def handleCreateRoom (env : Env) (request : CreateRoomRequest) (s : SessionPtr)
    (σ : RoomServer) : RoomServer :=
  match σ.createRejection env request s with
  | some reject => σ.sendRejectTo s reject
  | none =>
      let (roomId, backend) := σ.backend.generateUuid env
      let σ := { σ with backend := backend }
      let room := Room.create roomId request.roomName request.playerId
        request.playerName request.maxPlayers
      let σ := σ.insertRoom roomId room
      let σ := σ.enterRoom request.playerId roomId
      let σ := σ.setPlayerId s request.playerId
      let σ := σ.registerSession request.playerId s
      let σ := σ.removeLobbySession s
      let σ := σ.send s none
        (.createRoomResponse { success := true, room := room.toRoomInfo })
      σ.notifyRoomListChanged

/-- The checks of `handleJoinRoom`; the room where they pass. -/
def joinableRoom (σ : RoomServer) (request : JoinRoomRequest) (s : SessionPtr) :
    Except RejectResponse Room :=
  match σ.identityRejection request.playerId s with
  | some reject => .error reject
  | none =>
      match σ.manager.rooms.find? request.roomId with
      | none => .error ⟨.roomNotFound, "Room not found"⟩
      | some room =>
          if room.state != .waiting then
            .error ⟨.invalidRequest, "Room is already in game"⟩
          else if room.isFull then .error ⟨.roomFull, "Room is full"⟩
          else .ok room

/-- The result of `addPlayer` is ignored. -/
def handleJoinRoom (request : JoinRoomRequest) (s : SessionPtr) (σ : RoomServer) :
    RoomServer :=
  match σ.joinableRoom request s with
  | .error reject => σ.sendRejectTo s reject
  | .ok room =>
      let room := (room.addPlayer request.playerId request.playerName).2
      let σ := σ.modifyRoom request.roomId fun _ => room
      let σ := σ.enterRoom request.playerId request.roomId
      let σ := σ.setPlayerId s request.playerId
      let σ := σ.registerSession request.playerId s
      let σ := σ.removeLobbySession s
      let σ := σ.send s none
        (.joinRoomResponse { success := true, room := room.toRoomInfo })
      let σ := σ.broadcastToRoomExcept room (.roomUpdate room.toRoomInfo)
        request.playerId
      σ.notifyRoomListChanged

/-!
## Leave, ready and start
-/

def handleLeaveRoom (playerId : String) (σ : RoomServer) : RoomServer :=
  match σ.manager.playerToRoom.find? playerId with
  | none => σ
  | some roomId =>
      match σ.manager.rooms.find? roomId with
      | none => σ.exitRoom playerId
      | some room =>
          let wasHost := room.isHost playerId
          let room := room.removePlayer playerId
          let σ := σ.modifyRoom roomId fun _ => room
          let σ := σ.exitRoom playerId
          let σ := if wasHost then σ.removeRoom roomId playerId
            else if 0 < room.playerCount then
              σ.broadcastToRoom room (.roomUpdate room.toRoomInfo)
            else σ
          σ.notifyRoomListChanged

def handleToggleReady (playerId : String) (σ : RoomServer) : RoomServer :=
  match σ.manager.playerToRoom.find? playerId with
  | none => σ
  | some roomId =>
      match σ.manager.rooms.find? roomId with
      | none => σ
      | some room =>
          if room.isHost playerId then σ
          else
            let room := room.toggleReady playerId
            let σ := σ.modifyRoom roomId fun _ => room
            σ.broadcastToRoom room (.roomUpdate room.toRoomInfo)

/-- The checks of `handleStartGame` on the room of the player. -/
def startRejection (σ : RoomServer) (room : Room) (playerId : String) :
    Option RejectResponse :=
  if !room.isHost playerId then
    some ⟨.notHost, "Only host can start the game"⟩
  else if σ.hasActiveGame then
    some ⟨.gameServerBusy, "Game server is currently in use"⟩
  else if !room.canStart then
    some ⟨.notAllReady, "Not all players are ready"⟩
  else none

/-- The token of one player: a fresh identifier where it cannot be stored. -/
def issueToken (env : Env) (playerId sessionId : String) (b : Backend) :
    String × Backend :=
  match env.sessionStore with
  | none => b.generateUuid env
  | some store =>
      match b.createToken env store playerId sessionId with
      | (some token, b) => (token, b)
      | (none, b) => b.generateUuid env

/-- One round of the loop over the players of a room that starts. -/
def sendGameStart (env : Env) (sessionId : String) (σ : RoomServer) (playerId : String) :
    RoomServer :=
  let (authToken, backend) := issueToken env playerId sessionId σ.backend
  let σ := { σ with backend := backend }
  σ.sendTo playerId (.gameStart
    { sessionId := sessionId
      authToken := authToken
      gameServerHost := env.gameServerHost
      gameServerPort := env.gameServerPort.toUInt32 })

/-- The new session is registered in Redis. -/
def beginSession (env : Env) (sessionId : String) (σ : RoomServer) : RoomServer :=
  if env.sessionStore.isSome then
    σ.withBackend (Backend.registerGameSession env sessionId)
  else σ

/-- The Chat Server is told of the new session and its players. -/
def announceSession (env : Env) (sessionId : String) (room : Room) (σ : RoomServer) :
    RoomServer :=
  if env.chatChannel then
    σ.withBackend (Backend.sendSessionCreated sessionId
      (room.players.map fun player => ⟨player.playerId, player.playerName⟩))
  else σ

/-- `handleStartGame` behind its checks. -/
def startRoom (env : Env) (roomId : String) (room : Room) (σ : RoomServer) :
    RoomServer :=
  let (sessionId, backend) := σ.backend.generateUuid env
  let σ := { σ with backend := backend }
  let room := (room.setState .inGame).setSessionId sessionId
  let σ := σ.modifyRoom roomId fun _ => room
  let σ := σ.beginSession env sessionId
  let σ := room.playerIds.foldl (sendGameStart env sessionId) σ
  let σ := σ.announceSession env sessionId room
  σ.notifyRoomListChanged

def handleStartGame (env : Env) (playerId : String) (σ : RoomServer) : RoomServer :=
  match σ.manager.playerToRoom.find? playerId with
  | none => σ
  | some roomId =>
      match σ.manager.rooms.find? roomId with
      | none => σ
      | some room =>
          match σ.startRejection room playerId with
          | some reject => σ.sendTo playerId (.reject reject)
          | none => σ.startRoom env roomId room

def handleRoomListRequest (request : RoomListRequest) (s : SessionPtr)
    (σ : RoomServer) : RoomServer :=
  let pageSize := if request.pageSize = 0 then 20 else request.pageSize
  let pageSize := if 100 < pageSize then 100 else pageSize
  let total := UInt32.ofNat σ.waitingRooms.length
  let offset := request.page * pageSize
  -- `for (i = offset; i < total && i < offset + page_size; ++i)`, in 32 bits
  let rooms := (σ.waitingRooms.take (min total (offset + pageSize)).toNat).drop
    offset.toNat
  σ.send s none (.roomListResponse
    { rooms := rooms.map Room.toRoomSummary, totalRooms := total })

/-!
## Disconnects and the game server
-/

def handleDisconnect (playerId : String) (σ : RoomServer) : RoomServer :=
  (σ.handleLeaveRoom playerId).unregisterSession playerId

def handleSlotReleased (env : Env) (playerId sessionId : String) (σ : RoomServer) :
    RoomServer :=
  match σ.manager.playerToRoom.find? playerId with
  | none => σ
  | some roomId =>
      match σ.manager.rooms.find? roomId with
      | none => (σ.exitRoom playerId).unregisterSession playerId
      | some room =>
          if sessionId != "" && room.sessionId != sessionId then σ
          else
            let σ := σ.returnToLobby playerId
            let room := room.removePlayer playerId
            let σ := σ.modifyRoom roomId fun _ => room
            let σ := σ.exitRoom playerId
            let σ := σ.unregisterSession playerId
            if room.playerCount = 0 then
              (σ.endSession env room.sessionId).eraseRoom roomId
            else σ

/-- One round of the loop over the rooms in game. -/
def endGame (env : Env) (σ : RoomServer) (roomId : String) : RoomServer :=
  match σ.manager.rooms.find? roomId with
  | none => σ
  | some room =>
      let σ := σ.broadcastToRoom room (.reject ⟨.roomClosed, "Game server disconnected"⟩)
      let σ := σ.endSession env room.sessionId
      let σ := σ.evictPlayers room.playerIds
      σ.eraseRoom roomId

def inGameRoomIds (σ : RoomServer) : List String :=
  (σ.manager.rooms.entries.filter fun entry => entry.2.state == .inGame).map Sigma.fst

def handleGameServerDisconnect (env : Env) (σ : RoomServer) : RoomServer :=
  σ.inGameRoomIds.foldl (endGame env) σ

end RoomServer

end Room

end SosBackend
