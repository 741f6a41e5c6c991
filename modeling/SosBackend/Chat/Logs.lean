import SosBackend.Chat.Session
import SosBackend.Logging.Logger

/-!
# What the Chat Server logs

For each handler the calls of the logger that it makes, in their order. Where a `try`
block of Redis commands throws, the call that follows prints the text of the exception:
`what n` is the text that the command with the number `n` throws with, which is one line
as every error reply of Redis is.
-/

namespace SosBackend

namespace Chat

open Logging

def info (message : String) (fields : List (String × String)) : LogCall :=
  ⟨.info, .chat, message, fields⟩

def warn (message : String) (fields : List (String × String)) : LogCall :=
  ⟨.warn, .chat, message, fields⟩

def error (message : String) (fields : List (String × String)) : LogCall :=
  ⟨.err, .chat, message, fields⟩

/-- `std::replace` on the characters of a string. -/
def replace (s : String) (a b : Char) : String :=
  String.ofList (s.toList.map fun c => if c == a then b else c)

def stripNewlines (s : String) : String :=
  replace (replace s '\n' ' ') '\r' ' '

/-- The call of `handleChatSend` for a message that it has delivered. -/
def chatMessageCall (channel playerId : String) (state : PlayerState)
    (targetId content : String) : LogCall where
  level := .info
  category := .message
  message := "channel=" ++ channel
  fields := [("sender_id", playerId),
    ("sender_name", replace (stripNewlines state.playerName) ',' ' '),
    ("session_id", state.sessionId), ("target_id", targetId),
    ("content", stripNewlines content)]

namespace ChatServer

/-!
## Redis
-/

/-- The call after a `try` block. -/
def attemptLogs (env : Env) (cmds : List (Redis.Command Unit)) (call : ℕ → LogCall)
    (σ : ChatServer) : List LogCall :=
  if env.redis then ((σ.redis.failure env.outcome cmds).map call).toList else []

def saveToHistoryCommands (env : Env) (sessionId : String) (receive : ChatReceive) :
    List (Redis.Command Unit) :=
  [(Redis.lpush (historyKey sessionId) (env.serialize receive)).void,
    (Redis.ltrim (historyKey sessionId) 0 ((env.historySize.toNat : ℤ) - 1)).void,
    (Redis.expire (historyKey sessionId) env.sessionTtl).void]

theorem saveToHistory_eq (env : Env) (sessionId : String) (receive : ChatReceive)
    (σ : ChatServer) : σ.saveToHistory env sessionId receive =
      σ.attempt env (saveToHistoryCommands env sessionId receive) := rfl

def saveSessionPlayerCommands (env : Env) (auth : ChatAuth) : List (Redis.Command Unit) :=
  [(Redis.hset (sessionKey auth.sessionId) auth.playerId auth.playerName).void,
    (Redis.setex ("chat:player:" ++ auth.playerId) auth.sessionId env.sessionTtl).void,
    (Redis.setex ("chat:name:" ++ auth.playerId) auth.playerName env.sessionTtl).void,
    (Redis.expire (sessionKey auth.sessionId) env.sessionTtl).void]

theorem saveSessionPlayer_eq (env : Env) (auth : ChatAuth) (σ : ChatServer) :
    σ.saveSessionPlayer env auth = σ.attempt env (saveSessionPlayerCommands env auth) := rfl

def saveSessionNameCommands (env : Env) (sessionId : String) (player : PlayerInfo) :
    List (Redis.Command Unit) :=
  [(Redis.hset (sessionKey sessionId) player.playerId player.playerName).void,
    (Redis.setex ("chat:name:" ++ player.playerId) player.playerName env.sessionTtl).void]

theorem saveSessionNames_eq (env : Env) (message : SessionCreated) (σ : ChatServer) :
    σ.saveSessionNames env message = message.players.foldl (fun σ player =>
      σ.attempt env (saveSessionNameCommands env message.sessionId player)) σ := rfl

variable (what : ℕ → SingleLine)

def saveToHistoryLogs (env : Env) (sessionId : String) (receive : ChatReceive)
    (σ : ChatServer) : List LogCall :=
  σ.attemptLogs env (saveToHistoryCommands env sessionId receive) fun n =>
    error "Failed to save history" [("session_id", sessionId), ("error", (what n).text)]

def sendHistoryLogs (env : Env) (playerId sessionId : String) (σ : ChatServer) :
    List LogCall :=
  if env.redis then
    match σ.redis.call env.outcome (Redis.lrange (historyKey sessionId) 0
        ((env.historySize.toNat : ℤ) - 1)) with
    | (none, _) => [error "Failed to send history"
        [("player_id", playerId), ("error", (what σ.redis.issued).text)]]
    | (some _, _) => []
  else []

/-!
## Authentication
-/

def takeOverLogs (playerId : String) (s : SessionPtr) (σ : ChatServer) : List LogCall :=
  match σ.manager.players.find? playerId with
  | none => []
  | some state =>
      match σ.lock state.session with
      | none => []
      | some t =>
          if t ≠ s then [info "Kicked existing connection" [("player_id", playerId)]] else []

def saveSessionPlayerLogs (env : Env) (auth : ChatAuth) (σ : ChatServer) : List LogCall :=
  σ.attemptLogs env (saveSessionPlayerCommands env auth) fun n =>
    error "Redis error during session auth"
      [("player_id", auth.playerId), ("error", (what n).text)]

def handleAuthLogs (env : Env) (auth : ChatAuth) (s : SessionPtr) (σ : ChatServer) :
    List LogCall :=
  if auth.playerId == "" || auth.playerName == "" then []
  else
    let kick := σ.takeOverLogs auth.playerId s
    let σ := σ.takeOver auth.playerId s
    let state : PlayerState :=
      { playerName := auth.playerName, sessionId := auth.sessionId, session := s }
    if auth.sessionId == "" then
      kick ++ [info "Player authenticated (lobby)"
        [("player_id", auth.playerId), ("player_name", auth.playerName)]]
    else if σ.manager.sessionChannels.contains auth.sessionId then
      let σ := σ.addMember auth.sessionId auth.playerId
      let save := σ.saveSessionPlayerLogs what env auth
      let σ := (σ.saveSessionPlayer env auth).register auth.playerId state s
      kick ++ save ++ [info "Player authenticated (session)"
        [("player_id", auth.playerId), ("session_id", auth.sessionId)]] ++
        σ.sendHistoryLogs what env auth.playerId auth.sessionId
    else kick

/-!
## Messages
-/

def deliverLogs (env : Env) (playerId : String) (state : PlayerState) (message : ChatSend)
    (σ : ChatServer) : List LogCall :=
  let receive := σ.receiveOf playerId state message
  match message.channel with
  | .lobby =>
      if state.inLobby then [chatMessageCall "LOBBY" playerId state "" message.content] else []
  | .all =>
      if state.sessionId == "" then []
      else
        (σ.broadcastToSession state.sessionId (.receive receive)).saveToHistoryLogs what env
          state.sessionId receive ++ [chatMessageCall "ALL" playerId state "" message.content]
  | .whisper =>
      if message.whisperTarget == "" then []
      else if σ.manager.players.contains message.whisperTarget then
        [chatMessageCall "WHISPER" playerId state message.whisperTarget message.content]
      else []
  | .unknown => []

def handleChatSendLogs (env : Env) (playerId : String) (message : ChatSend)
    (σ : ChatServer) : List LogCall :=
  match σ.manager.players.find? playerId with
  | none => []
  | some state =>
      match messageError env message.content with
      | some _ => []
      | none => σ.deliverLogs what env playerId state message

/-!
## Disconnects and sessions
-/

def handleDisconnectLogs (playerId : String) (σ : ChatServer) : List LogCall :=
  match σ.manager.players.find? playerId with
  | none => []
  | some _ => [info "Player disconnected" [("player_id", playerId)]]

def saveSessionNamesLogs (env : Env) (sessionId : String) :
    List PlayerInfo → ChatServer → List LogCall
  | [], _ => []
  | player :: players, σ =>
      σ.attemptLogs env (saveSessionNameCommands env sessionId player) (fun n =>
        error "Redis error saving session player" [("error", (what n).text)]) ++
        saveSessionNamesLogs env sessionId players
          (σ.attempt env (saveSessionNameCommands env sessionId player))

def handleSessionCreatedLogs (env : Env) (message : SessionCreated) (σ : ChatServer) :
    List LogCall :=
  σ.saveSessionNamesLogs what env message.sessionId message.players ++
    ((σ.saveSessionNames env message).addSessionChannel message).attemptLogs env
      [(Redis.expire (sessionKey message.sessionId) env.sessionTtl).void] (fun n =>
        error "Redis error setting session TTL" [("error", (what n).text)]) ++
    [info "Session created"
      [("session_id", message.sessionId), ("players", toString message.players.length)]]

def handleSessionEndedLogs (env : Env) (message : SessionEnded) (σ : ChatServer) :
    List LogCall :=
  match σ.manager.sessionChannels.find? message.sessionId with
  | none => [warn "SessionEnded for unknown session" [("session_id", message.sessionId)]]
  | some channel =>
      let σ := channel.members.keyList.foldl returnToLobby σ
      let σ := { σ with manager := { σ.manager with
        sessionChannels := σ.manager.sessionChannels.erase message.sessionId } }
      σ.attemptLogs env [
        (Redis.del (sessionKey message.sessionId)).void,
        (Redis.del (historyKey message.sessionId)).void] (fun n =>
          error "Redis error cleaning session" [("error", (what n).text)]) ++
        [info "Session ended" [("session_id", message.sessionId)]]

/-!
## Sessions
-/

def closeSessionLogs (s : SessionPtr) (σ : ChatServer) : List LogCall :=
  if (σ.sessions s).closed then []
  else
    let σ := σ.updateSession s fun c => { c with closed := true }
    if (σ.sessions s).playerId != "" then σ.handleDisconnectLogs (σ.sessions s).playerId
    else []

def rateLimitLogs (env : Env) (s : SessionPtr) (σ : ChatServer) : List LogCall :=
  match env.rateLimiter with
  | none => []
  | some limiter =>
      match limiter.allow env.outcome (σ.sessions s).playerId σ.redis with
      | (some _, _) => []
      | (none, redis) => [error "Rate limit check failed"
          [("player_id", (σ.sessions s).playerId), ("error", (what (redis.issued - 1)).text)]]

def processSendLogs (env : Env) (s : SessionPtr) (message : ChatSend) (σ : ChatServer) :
    List LogCall :=
  if (σ.sessions s).authenticated then
    σ.rateLimitLogs what env s ++
      match σ.rateLimit env s with
      | (false, _) => []
      | (true, σ) => σ.handleChatSendLogs what env (σ.sessions s).playerId message
  else []

end ChatServer

/-- The number of the field of the payload. -/
def ChatEnvelope.payloadCase : ChatEnvelope → ℕ
  | .notSet => 0
  | .auth _ => 1
  | .send _ => 2
  | .joinChannel _ => 3
  | .leaveChannel _ => 4
  | .heartbeat => 5
  | .authResult _ => 10
  | .receive _ => 11
  | .systemMessage _ _ _ => 12
  | .error _ => 13
  | .sessionCreated _ => 20
  | .sessionEnded _ => 21

namespace ChatServer

variable (what : ℕ → SingleLine)

/-- `remote` is the address of the session as it is printed. -/
def processMessageLogs (env : Env) (s : SessionPtr) (remote : SingleLine)
    (envelope : ChatEnvelope) (σ : ChatServer) : List LogCall :=
  match envelope with
  | .auth auth => σ.handleAuthLogs what env auth s
  | .send message => σ.processSendLogs what env s message
  | .heartbeat =>
      [⟨.debug, .chat, "Heartbeat received", [("player_id", (σ.sessions s).playerId)]⟩]
  | envelope => [warn "Unknown message"
      [("remote", remote.text), ("payload_case", toString envelope.payloadCase)]]

def processInternalMessageLogs (env : Env) (envelope : ChatEnvelope) (σ : ChatServer) :
    List LogCall :=
  match envelope with
  | .sessionCreated message => σ.handleSessionCreatedLogs what env message
  | .sessionEnded message => σ.handleSessionEndedLogs what env message
  | envelope => [⟨.warn, .internal, "Unknown message",
      [("payload_case", toString envelope.payloadCase)]⟩]

/-- The calls of one step of the server. -/
def stepLogs (env : Env) (remote : SingleLine) (σ : ChatServer) : Input → List LogCall
  | .connect _ => [info "Client connected" [("remote", remote.text)]]
  | .message s envelope => σ.processMessageLogs what env s remote envelope
  | .close s => σ.closeSessionLogs s
  | .internalMessage envelope => σ.processInternalMessageLogs what env envelope
  | .released _ | .clock _ | .tick _ => []

end ChatServer

/-!
## Calls outside the handlers
-/

/-- What is logged where the state of the channels plays no part: by `main`, by the two
acceptors, by failing sockets, by the heartbeat timer and on the Room Server's
connection. -/
inductive Notice
  | configMissing
  | redisConnected (host : SingleLine) (port : UInt16)
  | listening (port : UInt16)
  | internalListening (port : UInt16)
  | started (clientPort internalPort : UInt16) (maxMessageLength historySize : UInt32)
  | signal (number : ℕ)
  | stopped
  | acceptError (error : SingleLine)
  | internalAcceptError (error : SingleLine)
  | heartbeatTimeout (s : SessionPtr) (remote : SingleLine)
  | readError (remote error : SingleLine)
  | writeError (remote error : SingleLine)
  | roomConnected (remote : Option SingleLine)
  | roomReadError (error : SingleLine)
  | roomDisconnected

def Notice.log (σ : ChatServer) : Notice → LogCall
  | configMissing => info "Config file not found, using defaults" []
  | redisConnected host port => info "Connected to Redis"
      [("host", host.text), ("port", toString port.toNat)]
  | listening port => info ("Server listening on port " ++ toString port.toNat) []
  | internalListening port =>
      ⟨.info, .internal, "Internal channel listening on port " ++ toString port.toNat, []⟩
  | started clientPort internalPort maxMessageLength historySize => info "Chat Server started"
      [("client_port", toString clientPort.toNat), ("internal_port", toString internalPort.toNat),
        ("max_message_length", toString maxMessageLength.toNat),
        ("history_size", toString historySize.toNat)]
  | signal number => info ("Signal " ++ toString number ++ " received, shutting down...") []
  | stopped => info "Chat Server stopped" []
  | acceptError e => error "Accept error" [("error", e.text)]
  | internalAcceptError e => ⟨.err, .internal, "Accept error", [("error", e.text)]⟩
  | heartbeatTimeout s remote => warn "Heartbeat timeout"
      [("remote", remote.text), ("player_id", (σ.sessions s).playerId)]
  | readError remote e => warn "Read error" [("remote", remote.text), ("error", e.text)]
  | writeError remote e => warn "Write error" [("remote", remote.text), ("error", e.text)]
  | roomConnected none => ⟨.info, .internal, "Room server connected", []⟩
  | roomConnected (some remote) =>
      ⟨.info, .internal, "Room server connected", [("remote", remote.text)]⟩
  | roomReadError e => ⟨.warn, .internal, "Read error", [("error", e.text)]⟩
  | roomDisconnected => ⟨.info, .internal, "Room server disconnected", []⟩

end Chat

end SosBackend
