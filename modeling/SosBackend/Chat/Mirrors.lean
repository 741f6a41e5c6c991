import SosBackend.Chat.Session
import SosBackend.Library.Appends
import SosBackend.Library.Footprint

/-!
# Two servers that mirror each other

`Mirrors` relates two Chat Servers with the same players, sessions and clock, of which one may
have sent more than the other, and whatever Redis they have. What a handler does without Redis
both do alike. Two environments are `Mates` if the commands that both servers send to Redis
keep them so; the history that a player is sent and the messages that the rate limiter refuses
are left to the relation.
-/

namespace SosBackend

namespace Chat

/-- The keys of the Chat Server. -/
def redisKeys : Set String := fun key => ∃ x, key = "chat:" ++ x

/-- The servers differ at most in Redis, where `R` relates them, and in what they have sent:
since the two outboxes were `base` and `base'`, `σ` has sent deliveries with `P` besides. -/
structure Mirrors (P : Delivery → Prop) (R : Redis.Client → Redis.Client → Prop)
    (base base' : List Delivery) (σ τ : ChatServer) : Prop where
  manager : τ.manager = σ.manager
  sessions : τ.sessions = σ.sessions
  clock : τ.clock = σ.clock
  sent : Outgrows P base base' σ.sent τ.sent
  redis : R σ.redis τ.redis

/-- The commands of the manager keep the servers as they are. -/
structure Mates (P : Delivery → Prop) (R : Redis.Client → Redis.Client → Prop)
    (env env' : Env) : Prop where
  maxMessageLength : env'.maxMessageLength = env.maxMessageLength
  sessionTtl : env'.sessionTtl = env.sessionTtl
  historySize : env'.historySize = env.historySize
  serialize : env'.serialize = env.serialize
  attempt : ∀ {base base' : List Delivery} {σ τ : ChatServer} {cmds : List (Redis.Command Unit)},
    (∀ cmd ∈ cmds, cmd.Within redisKeys) → Mirrors P R base base' σ τ →
      Mirrors P R base base' (σ.attempt env cmds) (τ.attempt env' cmds)

/-!
## The keys
-/

theorem mem_redisKeys (pre x : String) : "chat:" ++ pre ++ x ∈ redisKeys :=
  ⟨pre ++ x, String.append_assoc⟩

theorem sessionKey_mem (sid : String) : ChatServer.sessionKey sid ∈ redisKeys :=
  mem_redisKeys "session:" sid

theorem historyKey_mem (sid : String) : ChatServer.historyKey sid ∈ redisKeys := by
  refine ⟨"history:" ++ sid ++ ":ALL", ?_⟩
  rw [ChatServer.historyKey, ← String.append_assoc, ← String.append_assoc]
  rfl

namespace Mirrors

open ChatServer

variable {P : Delivery → Prop} {R : Redis.Client → Redis.Client → Prop}
  {base base' : List Delivery} {env env' : Env} {σ τ : ChatServer}

/-!
## What both servers do
-/

theorem withManager (h : Mirrors P R base base' σ τ) (f : ChannelManager → ChannelManager) :
    Mirrors P R base base' { σ with manager := f σ.manager }
      { τ with manager := f τ.manager } :=
  ⟨congrArg f h.manager, h.sessions, h.clock, h.sent, h.redis⟩

theorem updateSession (h : Mirrors P R base base' σ τ) (s : SessionPtr)
    (f : ChatSession → ChatSession) :
    Mirrors P R base base' (σ.updateSession s f) (τ.updateSession s f) := by
  refine ⟨h.manager, ?_, h.clock, h.sent, h.redis⟩
  unfold ChatServer.updateSession
  rw [h.sessions]

theorem send (h : Mirrors P R base base' σ τ) (s : SessionPtr) (envelope : ChatEnvelope) :
    Mirrors P R base base' (σ.send s envelope) (τ.send s envelope) := by
  unfold ChatServer.send
  rw [h.sessions]
  split
  · exact h
  · exact ⟨h.manager, rfl, h.clock, h.sent.both _, h.redis⟩

theorem lock (h : Mirrors P R base base' σ τ) (s : SessionPtr) : τ.lock s = σ.lock s := by
  unfold ChatServer.lock
  rw [h.sessions]

theorem sendTo (h : Mirrors P R base base' σ τ) (p : String) (envelope : ChatEnvelope) :
    Mirrors P R base base' (σ.sendTo p envelope) (τ.sendTo p envelope) := by
  unfold ChatServer.sendTo
  rw [h.manager]
  split
  · exact h
  next state _ =>
  rw [h.lock]
  split
  · exact h
  · exact h.send _ envelope

theorem broadcast (h : Mirrors P R base base' σ τ) (ids : List String) (envelope : ChatEnvelope) :
    Mirrors P R base base' (σ.broadcast ids envelope) (τ.broadcast ids envelope) := by
  induction ids generalizing σ τ with
  | nil => exact h
  | cons p ids ih => exact ih (h.sendTo p envelope)

theorem broadcastToLobby (h : Mirrors P R base base' σ τ) (envelope : ChatEnvelope) :
    Mirrors P R base base' (σ.broadcastToLobby envelope) (τ.broadcastToLobby envelope) := by
  unfold ChatServer.broadcastToLobby
  rw [h.manager]
  exact h.broadcast _ envelope

theorem broadcastToSession (h : Mirrors P R base base' σ τ) (sid : String)
    (envelope : ChatEnvelope) :
    Mirrors P R base base' (σ.broadcastToSession sid envelope)
      (τ.broadcastToSession sid envelope) := by
  unfold ChatServer.broadcastToSession
  rw [h.manager]
  split
  · exact h
  · exact h.broadcast _ envelope

theorem removePlayer (h : Mirrors P R base base' σ τ) (p : String) (state : PlayerState) :
    Mirrors P R base base' (σ.removePlayer p state) (τ.removePlayer p state) := by
  refine ⟨?_, h.sessions, h.clock, h.sent, h.redis⟩
  unfold ChatServer.removePlayer
  rw [h.manager]

theorem handleDisconnect (h : Mirrors P R base base' σ τ) (p : String) :
    Mirrors P R base base' (σ.handleDisconnect p) (τ.handleDisconnect p) := by
  unfold ChatServer.handleDisconnect
  rw [h.manager]
  split
  · exact h
  · exact h.removePlayer p _

theorem takeOver (h : Mirrors P R base base' σ τ) (p : String) (s : SessionPtr) :
    Mirrors P R base base' (σ.takeOver p s) (τ.takeOver p s) := by
  unfold ChatServer.takeOver
  rw [h.manager]
  split
  · exact h
  next state _ =>
  simp only
  rw [h.lock]
  split
  · exact h.removePlayer p state
  next t _ =>
  split
  · exact ((h.removePlayer p state).updateSession t _).send t _
  · exact h.removePlayer p state

theorem register (h : Mirrors P R base base' σ τ) (p : String) (state : PlayerState)
    (s : SessionPtr) :
    Mirrors P R base base' (σ.register p state s) (τ.register p state s) :=
  ((h.withManager fun m => { m with players := m.players.insert p state }).updateSession s
    _).send s _

theorem returnToLobby (h : Mirrors P R base base' σ τ) (p : String) :
    Mirrors P R base base' (σ.returnToLobby p) (τ.returnToLobby p) := by
  unfold ChatServer.returnToLobby
  rw [h.manager]
  split
  · exact ⟨rfl, h.sessions, h.clock, h.sent, h.redis⟩
  · exact h

/-!
## The handlers
-/

theorem handleAuth (h : Mirrors P R base base' σ τ) (hm : Mates P R env env')
    (hhistory : ∀ {σ τ : ChatServer} (p sid : String), Mirrors P R base base' σ τ →
      Mirrors P R base base' (σ.sendHistory env p sid) (τ.sendHistory env' p sid))
    (auth : ChatAuth) (s : SessionPtr) :
    Mirrors P R base base' (σ.handleAuth env auth s) (τ.handleAuth env' auth s) := by
  have htaken := h.takeOver auth.playerId s
  unfold ChatServer.handleAuth
  split
  · exact h.send s _
  simp only
  split
  · exact (htaken.withManager fun m =>
      { m with lobbyMembers := m.lobbyMembers.insert auth.playerId }).register _ _ s
  rw [htaken.manager]
  split
  · have hmember := htaken.withManager fun m => { m with
      sessionChannels := m.sessionChannels.modify auth.sessionId fun channel =>
        { channel with members := channel.members.insert auth.playerId } }
    have hsaved : Mirrors P R base base'
        (((σ.takeOver auth.playerId s).addMember auth.sessionId auth.playerId).saveSessionPlayer
          env auth)
        (((τ.takeOver auth.playerId s).addMember auth.sessionId auth.playerId).saveSessionPlayer
          env' auth) := by
      unfold ChatServer.saveSessionPlayer
      rw [hm.sessionTtl]
      refine hm.attempt (fun cmd hcmd => ?_) hmember
      simp only [List.mem_cons, List.not_mem_nil, or_false] at hcmd
      rcases hcmd with rfl | rfl | rfl | rfl
      · exact Redis.Command.Within.void ⟨_, sessionKey_mem _, _, rfl⟩
      · exact Redis.Command.Within.void ⟨_, mem_redisKeys "player:" _, _, rfl⟩
      · exact Redis.Command.Within.void ⟨_, mem_redisKeys "name:" _, _, rfl⟩
      · exact Redis.Command.Within.void ⟨_, sessionKey_mem _, _, rfl⟩
    exact hhistory _ _ (hsaved.register _ _ s)
  · exact htaken.send s _

theorem saveToHistory (h : Mirrors P R base base' σ τ) (hm : Mates P R env env')
    (sid : String) (receive : ChatReceive) :
    Mirrors P R base base' (σ.saveToHistory env sid receive)
      (τ.saveToHistory env' sid receive) := by
  unfold ChatServer.saveToHistory
  rw [hm.sessionTtl, hm.historySize, hm.serialize]
  refine hm.attempt (fun cmd hcmd => ?_) h
  simp only [List.mem_cons, List.not_mem_nil, or_false] at hcmd
  rcases hcmd with rfl | rfl | rfl
  · exact Redis.Command.Within.void ⟨_, historyKey_mem _, _, rfl⟩
  · exact Redis.Command.Within.void ⟨_, historyKey_mem _, _, rfl⟩
  · exact Redis.Command.Within.void ⟨_, historyKey_mem _, _, rfl⟩

theorem deliver (h : Mirrors P R base base' σ τ) (hm : Mates P R env env') (p : String)
    (state : PlayerState) (message : ChatSend) :
    Mirrors P R base base' (σ.deliver env p state message)
      (τ.deliver env' p state message) := by
  have hreceive : τ.receiveOf p state message = σ.receiveOf p state message := by
    unfold ChatServer.receiveOf
    rw [h.clock]
  unfold ChatServer.deliver
  simp only
  rw [hreceive]
  cases message.channel with
  | lobby =>
      simp only
      split
      · exact h.broadcastToLobby _
      · exact h.sendTo p _
  | all =>
      simp only
      split
      · exact h.sendTo p _
      · exact (h.broadcastToSession _ _).saveToHistory hm _ _
  | whisper =>
      simp only
      rw [h.manager]
      split
      · exact h.sendTo p _
      split
      · exact (h.sendTo _ _).sendTo p _
      · exact h.sendTo p _
  | unknown => exact h.sendTo p _

theorem handleChatSend (h : Mirrors P R base base' σ τ) (hm : Mates P R env env')
    (p : String) (message : ChatSend) :
    Mirrors P R base base' (σ.handleChatSend env p message)
      (τ.handleChatSend env' p message) := by
  have herror : messageError env' message.content = messageError env message.content := by
    unfold ChatServer.messageError
    rw [hm.maxMessageLength]
  unfold ChatServer.handleChatSend
  rw [h.manager, herror]
  split
  · exact h
  split
  · exact h.sendTo p _
  · exact h.deliver hm p _ message

theorem saveSessionNames (h : Mirrors P R base base' σ τ) (hm : Mates P R env env')
    (message : SessionCreated) :
    Mirrors P R base base' (σ.saveSessionNames env message)
      (τ.saveSessionNames env' message) := by
  unfold ChatServer.saveSessionNames
  rw [hm.sessionTtl]
  induction message.players generalizing σ τ with
  | nil => exact h
  | cons player players ih =>
      refine ih (hm.attempt (fun cmd hcmd => ?_) h)
      simp only [List.mem_cons, List.not_mem_nil, or_false] at hcmd
      rcases hcmd with rfl | rfl
      · exact Redis.Command.Within.void ⟨_, sessionKey_mem _, _, rfl⟩
      · exact Redis.Command.Within.void ⟨_, mem_redisKeys "name:" _, _, rfl⟩

theorem handleSessionCreated (h : Mirrors P R base base' σ τ) (hm : Mates P R env env')
    (message : SessionCreated) :
    Mirrors P R base base' (σ.handleSessionCreated env message)
      (τ.handleSessionCreated env' message) := by
  have hopened := (h.saveSessionNames hm message).withManager fun m => { m with
    sessionChannels := m.sessionChannels.insert message.sessionId
      { expectedPlayers := message.players.foldl
          (fun expected player => expected.insert player.playerId) .empty } }
  unfold ChatServer.handleSessionCreated
  rw [hm.sessionTtl]
  refine hm.attempt (fun cmd hcmd => ?_) hopened
  obtain rfl := List.mem_singleton.1 hcmd
  exact Redis.Command.Within.void ⟨_, sessionKey_mem _, _, rfl⟩

theorem returnToLobbies (h : Mirrors P R base base' σ τ) (ids : List String) :
    Mirrors P R base base' (ids.foldl ChatServer.returnToLobby σ)
      (ids.foldl ChatServer.returnToLobby τ) := by
  induction ids generalizing σ τ with
  | nil => exact h
  | cons p ids ih => exact ih (h.returnToLobby p)

theorem handleSessionEnded (h : Mirrors P R base base' σ τ) (hm : Mates P R env env')
    (message : SessionEnded) :
    Mirrors P R base base' (σ.handleSessionEnded env message)
      (τ.handleSessionEnded env' message) := by
  unfold ChatServer.handleSessionEnded
  rw [h.manager]
  split
  · exact h
  next channel _ =>
  have hended := (h.returnToLobbies channel.members.keyList).withManager fun m => { m with
    sessionChannels := m.sessionChannels.erase message.sessionId }
  refine hm.attempt (fun cmd hcmd => ?_) hended
  simp only [List.mem_cons, List.not_mem_nil, or_false] at hcmd
  rcases hcmd with rfl | rfl
  · exact Redis.Command.Within.void ⟨_, sessionKey_mem _, _, rfl⟩
  · exact Redis.Command.Within.void ⟨_, historyKey_mem _, _, rfl⟩

theorem closeSession (h : Mirrors P R base base' σ τ) (s : SessionPtr) :
    Mirrors P R base base' (σ.closeSession s) (τ.closeSession s) := by
  have hclosed := h.updateSession s fun c => { c with closed := true }
  unfold ChatServer.closeSession
  rw [h.sessions]
  split
  · exact h
  simp only
  rw [hclosed.sessions]
  split
  · exact (hclosed.handleDisconnect _).updateSession s _
  · exact hclosed

/-- One step, up to the history, the rate limiter and the time of Redis. -/
theorem step (h : Mirrors P R base base' σ τ) (hm : Mates P R env env') {i : Input}
    {σ' : ChatServer} (hstep : Step env σ i σ')
    (hauth : ∀ s auth, i = .message s (.auth auth) →
      Mirrors P R base base' (σ.handleAuth env auth s) (τ.handleAuth env' auth s))
    (hsend : ∀ s message, i = .message s (.send message) →
      Mirrors P R base base' (σ.processSend env s message) (τ.processSend env' s message))
    (htick : ∀ seconds, i = .tick seconds →
      R { σ.redis with store := σ.redis.store.advance seconds }
        { τ.redis with store := τ.redis.store.advance seconds }) :
    ∃ τ', Step env' τ i τ' ∧ Mirrors P R base base' σ' τ' := by
  cases i with
  | connect s =>
      obtain ⟨hunborn, rfl⟩ := Option.ite_some_none_eq_some.1 hstep
      rw [← h.sessions] at hunborn
      exact ⟨_, if_pos hunborn, h.updateSession s _⟩
  | message s envelope =>
      obtain ⟨halive, rfl⟩ := Option.ite_some_none_eq_some.1 hstep
      rw [← h.sessions] at halive
      refine ⟨_, if_pos halive, ?_⟩
      cases envelope with
      | auth auth => exact hauth s auth rfl
      | send message => exact hsend s message rfl
      | _ => exact h
  | close s =>
      obtain ⟨hopen, rfl⟩ := Option.ite_some_none_eq_some.1 hstep
      rw [← h.sessions] at hopen
      exact ⟨_, if_pos hopen, h.closeSession s⟩
  | released s =>
      obtain ⟨hclosed, rfl⟩ := Option.ite_some_none_eq_some.1 hstep
      rw [← h.sessions] at hclosed
      exact ⟨_, if_pos hclosed, h.updateSession s _⟩
  | internalMessage envelope =>
      obtain rfl := Option.some.inj hstep
      refine ⟨_, rfl, ?_⟩
      cases envelope with
      | sessionCreated message => exact h.handleSessionCreated hm message
      | sessionEnded message => exact h.handleSessionEnded hm message
      | _ => exact h
  | clock now =>
      obtain rfl := Option.some.inj hstep
      exact ⟨_, rfl, ⟨h.manager, h.sessions, rfl, h.sent, h.redis⟩⟩
  | tick seconds =>
      obtain rfl := Option.some.inj hstep
      exact ⟨_, rfl, ⟨h.manager, h.sessions, h.clock, h.sent, htick seconds rfl⟩⟩

end Mirrors

end Chat

end SosBackend
