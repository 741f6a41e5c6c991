import SosBackend.Chat.Channel
import SosBackend.Library.Transition

/-!
# The sessions and the steps of the Chat Server

`processMessage` is the switch of a client session, `processInternalMessage` that
of the Room Server's connection, which has no state that anything depends on. A
step is one completion handler of the event loop, seen message by message. A
message can still be processed on a session that has been closed, where its read
had completed before.
-/

namespace SosBackend

namespace Chat

namespace ChatServer

/-- `ChatSession::close`. -/
def closeSession (s : SessionPtr) (σ : ChatServer) : ChatServer :=
  if (σ.sessions s).closed then σ
  else
    let σ := σ.updateSession s fun c => { c with closed := true }
    if (σ.sessions s).playerId != "" then
      let σ := σ.handleDisconnect (σ.sessions s).playerId
      σ.updateSession s fun c => { c with playerId := "" }
    else σ

/-- What the rate limiter says to a message of a session; a limiter that throws
lets it pass. -/
def rateLimit (env : Env) (s : SessionPtr) (σ : ChatServer) : Bool × ChatServer :=
  match env.rateLimiter with
  | none => (true, σ)
  | some limiter =>
      match limiter.allow env.outcome (σ.sessions s).playerId σ.redis with
      | (some allowed, redis) => (allowed, { σ with redis := redis })
      | (none, redis) => (true, { σ with redis := redis })

/-- The case `kSend` of `ChatSession::processMessage`. -/
def processSend (env : Env) (s : SessionPtr) (message : ChatSend) (σ : ChatServer) :
    ChatServer :=
  if (σ.sessions s).authenticated then
    match σ.rateLimit env s with
    | (false, σ) => σ.send s (.error ⟨.rateLimited, "Too many messages"⟩)
    | (true, σ) => σ.handleChatSend env (σ.sessions s).playerId message
  else σ.send s (.error ⟨.notAuthenticated, "Not authenticated"⟩)

/-- `ChatSession::processMessage`. -/
def processMessage (env : Env) (s : SessionPtr) (envelope : ChatEnvelope)
    (σ : ChatServer) : ChatServer :=
  match envelope with
  | .auth auth => σ.handleAuth env auth s
  | .send message => σ.processSend env s message
  | _ => σ

/-- `InternalSession::processMessage`. -/
def processInternalMessage (env : Env) (envelope : ChatEnvelope) (σ : ChatServer) :
    ChatServer :=
  match envelope with
  | .sessionCreated message => σ.handleSessionCreated env message
  | .sessionEnded message => σ.handleSessionEnded env message
  | _ => σ

end ChatServer

/-!
## Steps
-/

inductive Input
  | connect (s : SessionPtr)
  | message (s : SessionPtr) (envelope : ChatEnvelope)
  | close (s : SessionPtr)
  | released (s : SessionPtr)
  | internalMessage (envelope : ChatEnvelope)
  | clock (now : ℕ)
  | tick (seconds : ℕ)
deriving DecidableEq, Repr

/-- One step of the server, if it is enabled. -/
def step (env : Env) (σ : ChatServer) : Input → Option ChatServer
  | .connect s =>
      if (σ.sessions s).lifetime = .unborn then
        some (σ.updateSession s fun _ => { lifetime := .alive })
      else none
  | .message s envelope =>
      if (σ.sessions s).lifetime = .alive then some (σ.processMessage env s envelope)
      else none
  | .close s => if (σ.sessions s).isOpen then some (σ.closeSession s) else none
  | .released s =>
      if (σ.sessions s).lifetime = .alive ∧ (σ.sessions s).closed then
        some (σ.updateSession s fun c => { c with lifetime := .expired })
      else none
  | .internalMessage envelope => some (σ.processInternalMessage env envelope)
  | .clock now => some { σ with clock := now }
  | .tick seconds =>
      some { σ with redis := { σ.redis with store := σ.redis.store.advance seconds } }

/-- The server at its start, on whatever Redis holds then. -/
def initial (store : Redis.Keyspace) : ChatServer :=
  { redis := { store := store } }

/-- The steps of the server as a relation. -/
def Step (env : Env) (σ : ChatServer) (i : Input) (τ : ChatServer) : Prop :=
  step env σ i = some τ

/-!
## A concrete environment
-/

/-- Numbers in unary, each followed by a zero. -/
def unary (ns : List ℕ) : List UInt8 :=
  ns.flatMap fun n => List.replicate n 1 ++ [0]

/-- Read numbers in unary, `n` ones of the next one having been read. -/
def ofUnary (n : ℕ) : List UInt8 → List ℕ
  | [] => []
  | b :: bytes => if b = 0 then n :: ofUnary 0 bytes else ofUnary (n + 1) bytes

theorem ofUnary_replicate (n m : ℕ) (bytes : List UInt8) :
    ofUnary n (List.replicate m 1 ++ 0 :: bytes) = (n + m) :: ofUnary 0 bytes := by
  induction m generalizing n with
  | zero => rfl
  | succ m ih =>
      rw [List.replicate_succ, List.cons_append, ofUnary, if_neg (by decide), ih]
      congr 1
      omega

theorem ofUnary_unary (ns : List ℕ) : ofUnary 0 (unary ns) = ns := by
  induction ns with
  | nil => rfl
  | cons n ns ih =>
      rw [unary, List.flatMap_cons, List.append_assoc, List.singleton_append,
        ofUnary_replicate, Nat.zero_add, ← unary, ih]

def channelNumber : ChatChannel → ℕ
  | .unknown => 0
  | .lobby => 1
  | .all => 2
  | .whisper => 3

def channelOfNumber : ℕ → ChatChannel
  | 1 => .lobby
  | 2 => .all
  | 3 => .whisper
  | _ => .unknown

/-- A message as numbers: channel, time, the lengths of the first two texts, and the
characters of all three. -/
def receiveNumbers (receive : ChatReceive) : List ℕ :=
  channelNumber receive.channel :: receive.timestamp ::
    receive.senderId.toList.length :: receive.senderName.toList.length ::
      (receive.senderId.toList ++ (receive.senderName.toList ++
        receive.content.toList)).map Char.toNat

def receiveOfNumbers : List ℕ → Option ChatReceive
  | channel :: timestamp :: m :: n :: chars =>
      let chars := chars.map Char.ofNat
      some {
        channel := channelOfNumber channel
        senderId := String.ofList (chars.take m)
        senderName := String.ofList ((chars.drop m).take n)
        content := String.ofList ((chars.drop m).drop n)
        timestamp := timestamp }
  | _ => none

theorem receiveOfNumbers_receiveNumbers (receive : ChatReceive) :
    receiveOfNumbers (receiveNumbers receive) = some receive := by
  obtain ⟨channel, senderId, senderName, content, timestamp⟩ := receive
  have hchars : ∀ chars : List Char, (chars.map Char.toNat).map Char.ofNat = chars := by
    intro chars
    rw [List.map_map]
    exact (List.map_congr_left fun c _ => Char.ofNat_toNat c).trans (List.map_id _)
  have hchannel : channelOfNumber (channelNumber channel) = channel := by
    cases channel <;> rfl
  simp [receiveNumbers, receiveOfNumbers, hchars, hchannel]

/-- The settings `main` falls back to, with a Redis that answers every command and a
serialisation in unary. -/
def defaultEnv : Env where
  maxMessageLength := 200
  historySize := 20
  sessionTtl := 7200
  redis := true
  rateLimiter := some { maxRequests := 10, window := 5, keyPrefix := "chat:rate:" }
  outcome _ := .answered
  serialize receive := unary (receiveNumbers receive)
  parse bytes := receiveOfNumbers (ofUnary 0 bytes)
  parse_serialize receive := by
    rw [ofUnary_unary, receiveOfNumbers_receiveNumbers]

end Chat

end SosBackend
