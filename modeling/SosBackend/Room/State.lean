import SosBackend.Chat.Messages
import SosBackend.Common.Lifetime
import SosBackend.Common.RateLimiter
import SosBackend.Room.Room
import Mathlib.Logic.Function.Basic

/-!
# The state of the Room Server

One `RoomServer` holds the manager, the session objects of both kinds of
connection, what is behind the server (Redis, the link to the Chat Server, the
source of identifiers) and everything that has been handed to a session for
sending. `Env` is what a run never changes.
-/

namespace SosBackend

namespace Room

/-- `TokenData`. -/
structure TokenData where
  playerId : String
  sessionId : String
deriving DecidableEq, Repr

/-- `SessionStore`, its times to live in seconds. -/
structure SessionStore where
  tokenTtl : ℕ
  gameServerHeartbeatTtl : ℕ

/-- What a run of the Room Server never changes: its configuration, the
pointers that may be null, and the code it calls outside. `generateUuid` is a
sequence of fresh identifiers, `dumpToken` and `parseToken` are the JSON library
on token data, and `outcome` says what becomes of each Redis command. -/
structure Env where
  maxRooms : UInt32
  maxPlayersPerRoom : UInt32
  gameServerHost : String
  gameServerPort : UInt16
  sessionStore : Option SessionStore
  chatChannel : Bool
  rateLimiter : Option RateLimiter
  keyPrefix_rateLimiter : ∀ limiter ∈ rateLimiter, limiter.keyPrefix = "rate:"
  outcome : ℕ → Redis.Outcome
  dumpToken : TokenData → String
  parseToken : String → Option TokenData
  uuid : ℕ → String
  uuid_injective : Function.Injective uuid
  uuid_ne_empty : ∀ n, uuid n ≠ ""

/-!
## Behind the server
-/

/-- `ChatServerChannel`: a message is written while the link is up and dropped
while it is down. -/
structure ChatServerChannel where
  connected : Bool := false
  sent : List Chat.ChatEnvelope := []

structure Backend where
  redis : Redis.Client := {}
  uuidsIssued : ℕ := 0
  chat : ChatServerChannel := {}

namespace Backend

def generateUuid (env : Env) (b : Backend) : String × Backend :=
  (env.uuid b.uuidsIssued, { b with uuidsIssued := b.uuidsIssued + 1 })

/-- A call of `RedisClient`; no reply means that it throws. -/
def redisCall {ρ : Type*} (env : Env) (cmd : Redis.Command ρ) (b : Backend) :
    Option ρ × Backend :=
  ((b.redis.call env.outcome cmd).1, { b with redis := (b.redis.call env.outcome cmd).2 })

/-- `SessionStore::createToken`. -/
def createToken (env : Env) (store : SessionStore) (playerId sessionId : String)
    (b : Backend) : Option String × Backend :=
  let (token, b) := b.generateUuid env
  match b.redisCall env (Redis.setex ("token:" ++ token)
      (env.dumpToken ⟨playerId, sessionId⟩) store.tokenTtl) with
  | (some _, b) => (some token, b)
  | (none, b) => (none, b)

/-- `SessionStore::validateToken`: a token is deleted before its data is read.
The outer option is the exception, the inner one the result. -/
def validateToken (env : Env) (token : String) (b : Backend) :
    Option (Option TokenData) × Backend :=
  match b.redisCall env (Redis.get ("token:" ++ token)) with
  | (none, b) => (none, b)
  | (some none, b) => (some none, b)
  | (some (some value), b) =>
      match b.redisCall env (Redis.del ("token:" ++ token)) with
      | (none, b) => (none, b)
      | (some _, b) => (some (env.parseToken value), b)

/-- `SessionStore::registerGameSession`, its exception swallowed by the caller. -/
def registerGameSession (env : Env) (sessionId : String) (b : Backend) : Backend :=
  (b.redisCall env (Redis.sadd "active_sessions" sessionId)).2

/-- `SessionStore::unregisterGameSession`, its exception swallowed by the
caller. -/
def unregisterGameSession (env : Env) (sessionId : String) (b : Backend) : Backend :=
  (b.redisCall env (Redis.srem "active_sessions" sessionId)).2

/-- `SessionStore::updateGameServerHeartbeat`, its exception swallowed by the
caller. -/
def updateGameServerHeartbeat (env : Env) (store : SessionStore) (serverId : String)
    (b : Backend) : Backend :=
  (b.redisCall env (Redis.setex ("game_server:" ++ serverId) "alive"
    store.gameServerHeartbeatTtl)).2

/-- `RateLimiter::allow`; no result means that it throws. -/
def allow (env : Env) (limiter : RateLimiter) (identifier : String) (b : Backend) :
    Option Bool × Backend :=
  ((limiter.allow env.outcome identifier b.redis).1,
    { b with redis := (limiter.allow env.outcome identifier b.redis).2 })

/-- `ChatServerChannel::sendSessionCreated` and `sendSessionEnded` up to the
message. -/
def sendToChat (message : Chat.ChatEnvelope) (b : Backend) : Backend :=
  if b.chat.connected then
    { b with chat := { b.chat with sent := b.chat.sent ++ [message] } }
  else b

def sendSessionCreated (sessionId : String) (players : List Chat.PlayerInfo)
    (b : Backend) : Backend :=
  b.sendToChat (.sessionCreated ⟨sessionId, players⟩)

def sendSessionEnded (sessionId : String) (b : Backend) : Backend :=
  b.sendToChat (.sessionEnded ⟨sessionId⟩)

end Backend

/-!
## Sessions and the manager
-/

/-- `ClientSession`. -/
structure ClientSession where
  playerId : String := ""
  remoteIp : String := ""
  closed : Bool := false
  lifetime : Lifetime := .unborn
deriving DecidableEq, Repr

/-- The session has been accepted and not been closed yet. -/
def ClientSession.isOpen (c : ClientSession) : Bool :=
  c.lifetime == .alive && !c.closed

/-- `GameServerSession`. -/
structure GameServerSession where
  serverId : String := ""
  closed : Bool := false
  lifetime : Lifetime := .unborn
deriving DecidableEq, Repr

/-- `RoomManager`. `lobbyTimerWaits` counts the waits on the lobby timer whose
handler has not run. -/
structure RoomManager where
  rooms : UnorderedMap String Room := .empty
  playerToRoom : UnorderedMap String String := .empty
  sessions : UnorderedMap String SessionPtr := .empty
  lobbySessions : UnorderedSet SessionPtr := .empty
  lobbyBroadcastPending : Bool := false
  lobbyTimerWaits : ℕ := 0

/-- An envelope handed to a session. `addressee` is the player it was sent to,
where the manager looked the session up by player. -/
structure Delivery where
  session : SessionPtr
  addressee : Option String
  envelope : Envelope
deriving DecidableEq, Repr

structure RoomServer where
  manager : RoomManager := {}
  clients : SessionPtr → ClientSession := fun _ => {}
  gameServers : SessionPtr → GameServerSession := fun _ => {}
  backend : Backend := {}
  sent : List Delivery := []
  replies : List (SessionPtr × Envelope) := []

end Room

end SosBackend
