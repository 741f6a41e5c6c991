import Mathlib.Data.List.Nodup
import Mathlib.Data.Nat.Notation

/-!
# Rooms and the messages of the Room Server

`Room` is a value here: the source shares one `Room` object between the map of
rooms and its handlers and changes it in place, so the model writes it back
under its key. The lemmas say what each operation does to the roster, the list
of player ids.
-/

namespace SosBackend

namespace Room

inductive RoomState
  | waiting
  | inGame
deriving DecidableEq, Repr

structure PlayerData where
  playerId : String
  playerName : String
  isReady : Bool := false
  isHost : Bool := false
deriving DecidableEq, Repr

/-!
## Messages
-/

structure RoomInfo where
  roomId : String
  roomName : String
  hostId : String
  maxPlayers : UInt32
  state : RoomState
  players : List PlayerData
deriving DecidableEq, Repr

structure RoomSummary where
  roomId : String
  roomName : String
  hostName : String
  currentPlayers : UInt32
  maxPlayers : UInt32
  state : RoomState
deriving DecidableEq, Repr

structure CreateRoomRequest where
  playerId : String
  playerName : String
  roomName : String
  maxPlayers : UInt32
deriving DecidableEq, Repr

structure JoinRoomRequest where
  playerId : String
  playerName : String
  roomId : String
deriving DecidableEq, Repr

structure RoomListRequest where
  page : UInt32
  pageSize : UInt32
deriving DecidableEq, Repr

/-- `CreateRoomResponse` and `JoinRoomResponse` have the same fields. -/
structure RoomResponse where
  success : Bool
  room : RoomInfo
  reason : String := ""
deriving DecidableEq, Repr

structure RoomListResponse where
  rooms : List RoomSummary
  totalRooms : UInt32
deriving DecidableEq, Repr

structure GameStart where
  sessionId : String
  authToken : String
  gameServerHost : String
  gameServerPort : UInt32
deriving DecidableEq, Repr

inductive RejectReason
  | unknown
  | roomFull
  | roomNotFound
  | notHost
  | notAllReady
  | rateLimited
  | duplicatePlayer
  | alreadyInRoom
  | invalidRequest
  | roomClosed
  | gameServerBusy
deriving DecidableEq, Repr

structure RejectResponse where
  reason : RejectReason
  message : String
deriving DecidableEq, Repr

structure TokenValidateResponse where
  valid : Bool
  playerId : String := ""
  sessionId : String := ""
deriving DecidableEq, Repr

/-- `Envelope`, by the case of its payload. -/
inductive Envelope
  | notSet
  | createRoom (request : CreateRoomRequest)
  | joinRoom (request : JoinRoomRequest)
  | leaveRoom
  | toggleReady
  | startGame
  | roomListRequest (request : RoomListRequest)
  | heartbeat
  | createRoomResponse (response : RoomResponse)
  | joinRoomResponse (response : RoomResponse)
  | roomListResponse (response : RoomListResponse)
  | roomUpdate (room : RoomInfo)
  | gameStart (start : GameStart)
  | reject (response : RejectResponse)
  | tokenValidateRequest (authToken : String)
  | tokenValidateResponse (response : TokenValidateResponse)
  | slotReleased (playerId sessionId : String)
  | gameServerHeartbeat (serverId : String) (activeSessions : UInt32)
deriving DecidableEq, Repr

end Room

/-!
## Rooms
-/

open Room in
/-- `Room`. -/
structure Room where
  roomId : String
  roomName : String
  hostId : String
  hostName : String
  maxPlayers : UInt32
  sessionId : String := ""
  state : RoomState := .waiting
  players : List PlayerData
deriving DecidableEq, Repr

namespace Room

/-- The constructor: the host is the first player. -/
def create (roomId roomName hostId hostName : String) (maxPlayers : UInt32) : Room where
  roomId := roomId
  roomName := roomName
  hostId := hostId
  hostName := hostName
  maxPlayers := maxPlayers
  players := [{ playerId := hostId, playerName := hostName, isHost := true }]

def isFull (room : Room) : Bool :=
  decide (room.maxPlayers.toNat ≤ room.players.length)

def hasPlayer (room : Room) (playerId : String) : Bool :=
  room.players.any fun player => player.playerId == playerId

def isHost (room : Room) (playerId : String) : Bool :=
  playerId == room.hostId

def playerCount (room : Room) : UInt32 :=
  UInt32.ofNat room.players.length

def playerIds (room : Room) : List String :=
  room.players.map PlayerData.playerId

/-- `addPlayer`, with its result. -/
def addPlayer (room : Room) (playerId playerName : String) : Bool × Room :=
  if room.isFull || room.hasPlayer playerId || room.state != .waiting then
    (false, room)
  else
    (true, { room with
      players := room.players ++ [{ playerId := playerId, playerName := playerName }] })

/-- `removePlayer`; its result is used nowhere. -/
def removePlayer (room : Room) (playerId : String) : Room :=
  { room with players := room.players.eraseP fun player => player.playerId == playerId }

/-- Flip the ready flag of the first entry of a player. -/
def flipReady (playerId : String) : List PlayerData → List PlayerData
  | [] => []
  | player :: players =>
      if player.playerId == playerId then
        { player with isReady := !player.isReady } :: players
      else player :: flipReady playerId players

def toggleReady (room : Room) (playerId : String) : Room :=
  if playerId == room.hostId then room
  else { room with players := flipReady playerId room.players }

/-- Everybody but the host has to be ready. -/
def canStart (room : Room) : Bool :=
  room.players.all fun player => player.isHost || player.isReady

def setState (room : Room) (state : RoomState) : Room :=
  { room with state := state }

def setSessionId (room : Room) (sessionId : String) : Room :=
  { room with sessionId := sessionId }

def toRoomInfo (room : Room) : RoomInfo where
  roomId := room.roomId
  roomName := room.roomName
  hostId := room.hostId
  maxPlayers := room.maxPlayers
  state := room.state
  players := room.players

def toRoomSummary (room : Room) : RoomSummary where
  roomId := room.roomId
  roomName := room.roomName
  hostName := room.hostName
  currentPlayers := room.playerCount
  maxPlayers := room.maxPlayers
  state := room.state

/-!
## Rosters
-/

theorem hasPlayer_iff {room : Room} {playerId : String} :
    room.hasPlayer playerId = true ↔ playerId ∈ room.playerIds := by
  simp [hasPlayer, playerIds]

theorem canStart_iff {room : Room} : room.canStart = true ↔
    ∀ player ∈ room.players, player.isHost = false → player.isReady = true := by
  rw [canStart, List.all_eq_true]
  constructor
  · intro h player hplayer hhost
    have hready := h player hplayer
    rw [hhost, Bool.false_or] at hready
    exact hready
  · intro h player hplayer
    cases hhost : player.isHost with
    | true => rfl
    | false => exact h player hplayer hhost

theorem length_playerIds (room : Room) : room.playerIds.length = room.players.length :=
  List.length_map _

@[simp] theorem playerIds_create (roomId roomName hostId hostName : String)
    (maxPlayers : UInt32) :
    (create roomId roomName hostId hostName maxPlayers).playerIds = [hostId] := rfl

theorem map_playerId_eraseP (players : List PlayerData) (playerId : String) :
    (players.eraseP fun player => player.playerId == playerId).map PlayerData.playerId =
      (players.map PlayerData.playerId).erase playerId := by
  induction players with
  | nil => rfl
  | cons player players ih =>
      rw [List.map_cons, List.erase_cons, List.eraseP_cons]
      cases h : player.playerId == playerId with
      | true => rfl
      | false => simpa using ih

@[simp] theorem playerIds_removePlayer (room : Room) (playerId : String) :
    (room.removePlayer playerId).playerIds = room.playerIds.erase playerId :=
  map_playerId_eraseP room.players playerId

theorem map_playerId_flipReady (playerId : String) (players : List PlayerData) :
    (flipReady playerId players).map PlayerData.playerId =
      players.map PlayerData.playerId := by
  induction players with
  | nil => rfl
  | cons player players ih =>
      rw [flipReady]
      split
      · rfl
      · rw [List.map_cons, List.map_cons, ih]

@[simp] theorem playerIds_toggleReady (room : Room) (playerId : String) :
    (room.toggleReady playerId).playerIds = room.playerIds := by
  rw [toggleReady]
  split
  · rfl
  · exact map_playerId_flipReady playerId room.players

theorem mem_playerIds_addPlayer {room : Room} {q : String} (playerId playerName : String)
    (hq : q ∈ room.playerIds) : q ∈ (room.addPlayer playerId playerName).2.playerIds := by
  rw [addPlayer]
  split
  · exact hq
  · rw [playerIds, List.map_append]
    exact List.mem_append_left _ hq

@[simp] theorem state_addPlayer (room : Room) (playerId playerName : String) :
    (room.addPlayer playerId playerName).2.state = room.state := by
  rw [addPlayer]
  split
  · rfl
  · rfl

@[simp] theorem sessionId_addPlayer (room : Room) (playerId playerName : String) :
    (room.addPlayer playerId playerName).2.sessionId = room.sessionId := by
  rw [addPlayer]
  split
  · rfl
  · rfl

@[simp] theorem roomId_toggleReady (room : Room) (playerId : String) :
    (room.toggleReady playerId).roomId = room.roomId := by
  rw [toggleReady]
  split
  · rfl
  · rfl

@[simp] theorem maxPlayers_toggleReady (room : Room) (playerId : String) :
    (room.toggleReady playerId).maxPlayers = room.maxPlayers := by
  rw [toggleReady]
  split
  · rfl
  · rfl

@[simp] theorem state_toggleReady (room : Room) (playerId : String) :
    (room.toggleReady playerId).state = room.state := by
  rw [toggleReady]
  split
  · rfl
  · rfl

@[simp] theorem sessionId_toggleReady (room : Room) (playerId : String) :
    (room.toggleReady playerId).sessionId = room.sessionId := by
  rw [toggleReady]
  split
  · rfl
  · rfl

/-- A player is added to a waiting room that has a place and does not hold the
player yet. -/
theorem addPlayer_of_not_mem {room : Room} {playerId : String} (playerName : String)
    (hfull : room.isFull = false) (hmem : playerId ∉ room.playerIds)
    (hstate : room.state = .waiting) :
    room.addPlayer playerId playerName = (true, { room with
      players := room.players ++ [{ playerId := playerId, playerName := playerName }] }) := by
  have hhas : room.hasPlayer playerId = false := by
    rw [Bool.eq_false_iff]
    exact fun h => hmem (hasPlayer_iff.1 h)
  simp [addPlayer, hfull, hhas, hstate]

end Room

end SosBackend
