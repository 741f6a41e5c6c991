import SosBackend.Chat.Messages
import SosBackend.Common.Lifetime
import SosBackend.Common.RateLimiter
import Mathlib.Logic.Function.Basic

/-!
# The channel manager of the Chat Server

`ChannelManager` keeps the players, the members of the lobby and the members of
the session channels; its handlers act on the whole `ChatServer`, which has the
session objects, Redis, the system clock and everything that has been handed to a
session for sending besides. A session that is closed drops what it is handed.
-/

namespace SosBackend

namespace Chat

/-- What a run of the Chat Server never changes: its configuration, the pointers
that may be null, and the code it calls outside. `serialize` and `parse` are
`SerializeAsString` and `ParseFromString` on `ChatReceive`. -/
structure Env where
  maxMessageLength : UInt32
  historySize : UInt32
  sessionTtl : ℕ
  redis : Bool
  rateLimiter : Option RateLimiter
  outcome : ℕ → Redis.Outcome
  serialize : ChatReceive → List UInt8
  parse : List UInt8 → Option ChatReceive
  parse_serialize : ∀ receive, parse (serialize receive) = some receive

/-- `ChatSession`. -/
structure ChatSession where
  playerId : String := ""
  authenticated : Bool := false
  closed : Bool := false
  lifetime : Lifetime := .unborn
deriving DecidableEq, Repr

/-- The session has been accepted and not been closed yet. -/
def ChatSession.isOpen (c : ChatSession) : Bool :=
  c.lifetime == .alive && !c.closed

/-- `ChannelManager::PlayerState`; a player without a session id is in the lobby. -/
structure PlayerState where
  playerName : String
  sessionId : String
  session : SessionPtr
  inLobby : Bool := false
deriving DecidableEq, Repr

/-- `ChannelManager::SessionChannel`. -/
structure SessionChannel where
  members : UnorderedSet String := .empty
  expectedPlayers : UnorderedSet String := .empty

structure ChannelManager where
  players : UnorderedMap String PlayerState := .empty
  lobbyMembers : UnorderedSet String := .empty
  sessionChannels : UnorderedMap String SessionChannel := .empty

/-- An envelope handed to a session. -/
structure Delivery where
  session : SessionPtr
  envelope : ChatEnvelope
deriving DecidableEq, Repr

structure ChatServer where
  manager : ChannelManager := {}
  sessions : SessionPtr → ChatSession := fun _ => {}
  redis : Redis.Client := {}
  clock : ℕ := 0
  sent : List Delivery := []

namespace ChatServer

/-!
## Sending
-/

/-- `ChatSession::send`. -/
def send (σ : ChatServer) (s : SessionPtr) (envelope : ChatEnvelope) : ChatServer :=
  if (σ.sessions s).closed then σ else { σ with sent := σ.sent ++ [⟨s, envelope⟩] }

/-- `weak_ptr::lock`. -/
def lock (σ : ChatServer) (s : SessionPtr) : Option SessionPtr :=
  if (σ.sessions s).lifetime = .alive then some s else none

def sendTo (σ : ChatServer) (playerId : String) (envelope : ChatEnvelope) : ChatServer :=
  match σ.manager.players.find? playerId with
  | none => σ
  | some state =>
      match σ.lock state.session with
      | none => σ
      | some s => σ.send s envelope

def sendError (σ : ChatServer) (playerId : String) (error : ChatError) : ChatServer :=
  σ.sendTo playerId (.error error)

/-- Send to the players of a list, one after the other. -/
def broadcast (σ : ChatServer) (ids : List String) (envelope : ChatEnvelope) : ChatServer :=
  ids.foldl (fun σ playerId => σ.sendTo playerId envelope) σ

def broadcastToLobby (σ : ChatServer) (envelope : ChatEnvelope) : ChatServer :=
  σ.broadcast σ.manager.lobbyMembers.keyList envelope

def broadcastToSession (σ : ChatServer) (sessionId : String) (envelope : ChatEnvelope) :
    ChatServer :=
  match σ.manager.sessionChannels.find? sessionId with
  | none => σ
  | some channel => σ.broadcast channel.members.keyList envelope

/-!
## Redis
-/

/-- The commands of a `try` block, one after the other until one throws. -/
def attempt (env : Env) (cmds : List (Redis.Command Unit)) (σ : ChatServer) : ChatServer :=
  if env.redis then { σ with redis := σ.redis.attempt env.outcome cmds } else σ

def sessionKey (sessionId : String) : String := "chat:session:" ++ sessionId

def historyKey (sessionId : String) : String := "chat:history:" ++ sessionId ++ ":ALL"

def saveToHistory (env : Env) (sessionId : String) (receive : ChatReceive)
    (σ : ChatServer) : ChatServer :=
  σ.attempt env [
    (Redis.lpush (historyKey sessionId) (env.serialize receive)).void,
    (Redis.ltrim (historyKey sessionId) 0 ((env.historySize.toNat : ℤ) - 1)).void,
    (Redis.expire (historyKey sessionId) env.sessionTtl).void]

/-- One entry of the history, if it can be read. -/
def sendHistoryEntry (env : Env) (playerId : String) (σ : ChatServer)
    (entry : List UInt8) : ChatServer :=
  match env.parse entry with
  | none => σ
  | some receive => σ.sendTo playerId (.receive receive)

/-- Redis has the newest entry first. -/
def sendHistory (env : Env) (playerId sessionId : String) (σ : ChatServer) : ChatServer :=
  if env.redis then
    match σ.redis.call env.outcome (Redis.lrange (historyKey sessionId) 0
        ((env.historySize.toNat : ℤ) - 1)) with
    | (none, redis) => { σ with redis := redis }
    | (some entries, redis) =>
        entries.reverse.foldl (sendHistoryEntry env playerId) { σ with redis := redis }
  else σ

/-!
## Players and channels
-/

def updateSession (σ : ChatServer) (s : SessionPtr) (f : ChatSession → ChatSession) :
    ChatServer :=
  { σ with sessions := Function.update σ.sessions s (f (σ.sessions s)) }

def addLobbyMember (σ : ChatServer) (playerId : String) : ChatServer :=
  { σ with manager := { σ.manager with
      lobbyMembers := σ.manager.lobbyMembers.insert playerId } }

def addMember (σ : ChatServer) (sessionId playerId : String) : ChatServer :=
  { σ with manager := { σ.manager with
      sessionChannels := σ.manager.sessionChannels.modify sessionId fun channel =>
        { channel with members := channel.members.insert playerId } } }

def addPlayer (σ : ChatServer) (playerId : String) (state : PlayerState) : ChatServer :=
  { σ with manager := { σ.manager with
      players := σ.manager.players.insert playerId state } }

/-- What `handleAuth` and `handleDisconnect` both do to a player who goes: out of
the lobby, out of its session channel if it has one, and out of the players. -/
def removePlayer (σ : ChatServer) (playerId : String) (state : PlayerState) : ChatServer :=
  { σ with manager := {
      players := σ.manager.players.erase playerId
      lobbyMembers := σ.manager.lobbyMembers.erase playerId
      sessionChannels :=
        if state.sessionId != "" then
          σ.manager.sessionChannels.modify state.sessionId fun channel =>
            { channel with members := channel.members.erase playerId }
        else σ.manager.sessionChannels } }

/-!
## Authentication
-/

/-- The end of the old registration of a player who authenticates again; a session
that is replaced is told so. -/
def takeOver (playerId : String) (s : SessionPtr) (σ : ChatServer) : ChatServer :=
  match σ.manager.players.find? playerId with
  | none => σ
  | some state =>
      let existingSession := σ.lock state.session
      let σ := σ.removePlayer playerId state
      match existingSession with
      | none => σ
      | some t =>
          if t ≠ s then
            (σ.updateSession t fun c =>
              { c with playerId := "", authenticated := false }).send t
                (.error ⟨.notAuthenticated, "Replaced by new connection"⟩)
          else σ

/-- The registration of a player on a session, and the answer. -/
def register (playerId : String) (state : PlayerState) (s : SessionPtr) (σ : ChatServer) :
    ChatServer :=
  let σ := σ.addPlayer playerId state
  let σ := σ.updateSession s fun c => { c with playerId := playerId, authenticated := true }
  σ.send s (.authResult { success := true })

/-- The mapping of the player to its session, in Redis. -/
def saveSessionPlayer (env : Env) (auth : ChatAuth) (σ : ChatServer) : ChatServer :=
  σ.attempt env [
    (Redis.hset (sessionKey auth.sessionId) auth.playerId auth.playerName).void,
    (Redis.setex ("chat:player:" ++ auth.playerId) auth.sessionId env.sessionTtl).void,
    (Redis.setex ("chat:name:" ++ auth.playerId) auth.playerName env.sessionTtl).void,
    (Redis.expire (sessionKey auth.sessionId) env.sessionTtl).void]

def handleAuth (env : Env) (auth : ChatAuth) (s : SessionPtr) (σ : ChatServer) :
    ChatServer :=
  if auth.playerId == "" || auth.playerName == "" then
    σ.send s (.authResult
      { success := false, reason := "player_id and player_name are required" })
  else
    let σ := σ.takeOver auth.playerId s
    let state : PlayerState :=
      { playerName := auth.playerName, sessionId := auth.sessionId, session := s }
    if auth.sessionId == "" then
      (σ.addLobbyMember auth.playerId).register auth.playerId { state with inLobby := true } s
    else if σ.manager.sessionChannels.contains auth.sessionId then
      let σ := σ.addMember auth.sessionId auth.playerId
      let σ := σ.saveSessionPlayer env auth
      (σ.register auth.playerId state s).sendHistory env auth.playerId auth.sessionId
    else
      σ.send s (.authResult { success := false, reason := "Session not found" })

/-!
## Messages
-/

/-- What is wrong with the content of a message, `validateMessage`. -/
def messageError (env : Env) (content : String) : Option ChatError :=
  if content.toList.all fun c => c == ' ' || c == '\t' || c == '\n' || c == '\r' then
    some ⟨.messageTooLong, "Message cannot be empty"⟩
  else if env.maxMessageLength.toNat < content.utf8ByteSize then
    some ⟨.messageTooLong,
      "Message too long (max " ++ toString env.maxMessageLength.toNat ++ " bytes)"⟩
  else none

/-- The message as it goes out. -/
def receiveOf (σ : ChatServer) (playerId : String) (state : PlayerState)
    (message : ChatSend) : ChatReceive where
  channel := message.channel
  senderId := playerId
  senderName := state.playerName
  content := message.content
  timestamp := σ.clock

/-- The switch of `handleChatSend`. -/
def deliver (env : Env) (playerId : String) (state : PlayerState) (message : ChatSend)
    (σ : ChatServer) : ChatServer :=
  let receive := σ.receiveOf playerId state message
  match message.channel with
  | .lobby =>
      if state.inLobby then σ.broadcastToLobby (.receive receive)
      else σ.sendError playerId ⟨.channelNotJoined, "Not in lobby channel"⟩
  | .all =>
      if state.sessionId == "" then
        σ.sendError playerId ⟨.channelNotJoined, "Not in a game session"⟩
      else
        (σ.broadcastToSession state.sessionId (.receive receive)).saveToHistory env
          state.sessionId receive
  | .whisper =>
      if message.whisperTarget == "" then
        σ.sendError playerId ⟨.playerNotFound, "Whisper target not specified"⟩
      else if σ.manager.players.contains message.whisperTarget then
        (σ.sendTo message.whisperTarget (.receive receive)).sendTo playerId (.receive receive)
      else σ.sendError playerId ⟨.playerNotFound, "Player not found"⟩
  | .unknown => σ.sendError playerId ⟨.invalidChannel, "Invalid channel"⟩

def handleChatSend (env : Env) (playerId : String) (message : ChatSend) (σ : ChatServer) :
    ChatServer :=
  match σ.manager.players.find? playerId with
  | none => σ
  | some state =>
      match messageError env message.content with
      | some error => σ.sendError playerId error
      | none => σ.deliver env playerId state message

/-!
## Disconnects and sessions
-/

def handleDisconnect (playerId : String) (σ : ChatServer) : ChatServer :=
  match σ.manager.players.find? playerId with
  | none => σ
  | some state => σ.removePlayer playerId state

/-- The names of the players of a new session, in Redis. -/
def saveSessionNames (env : Env) (message : SessionCreated) (σ : ChatServer) : ChatServer :=
  message.players.foldl (fun σ player => σ.attempt env [
    (Redis.hset (sessionKey message.sessionId) player.playerId player.playerName).void,
    (Redis.setex ("chat:name:" ++ player.playerId) player.playerName
      env.sessionTtl).void]) σ

def addSessionChannel (σ : ChatServer) (message : SessionCreated) : ChatServer :=
  { σ with manager := { σ.manager with
      sessionChannels := σ.manager.sessionChannels.insert message.sessionId
        { expectedPlayers := message.players.foldl
            (fun expected player => expected.insert player.playerId) .empty } } }

def handleSessionCreated (env : Env) (message : SessionCreated) (σ : ChatServer) :
    ChatServer :=
  ((σ.saveSessionNames env message).addSessionChannel message).attempt env
    [(Redis.expire (sessionKey message.sessionId) env.sessionTtl).void]

/-- A member of a session that ends goes back to the lobby. -/
def returnToLobby (σ : ChatServer) (playerId : String) : ChatServer :=
  if σ.manager.players.contains playerId then
    { σ with manager := { σ.manager with
        players := σ.manager.players.modify playerId fun state =>
          { state with sessionId := "", inLobby := true }
        lobbyMembers := σ.manager.lobbyMembers.insert playerId } }
  else σ

def handleSessionEnded (env : Env) (message : SessionEnded) (σ : ChatServer) : ChatServer :=
  match σ.manager.sessionChannels.find? message.sessionId with
  | none => σ
  | some channel =>
      let σ := channel.members.keyList.foldl returnToLobby σ
      let σ := { σ with manager := { σ.manager with
        sessionChannels := σ.manager.sessionChannels.erase message.sessionId } }
      σ.attempt env [
        (Redis.del (sessionKey message.sessionId)).void,
        (Redis.del (historyKey message.sessionId)).void]

end ChatServer

end Chat

end SosBackend
