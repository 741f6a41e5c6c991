import SosBackend.Chat.Session
import SosBackend.Library.Appends

/-!
# What the handlers do

Three views of the Chat Server carry its claims: the session registered for each
player, the session objects, and what has been sent. `Speaks` is what sending
alone does; the authentication is the one handler that changes registrations and
sessions, and `registered_handleAuth` and `sessions_handleAuth` say how.
-/

namespace SosBackend

namespace Chat

namespace ChatServer

/-- The session of the entry of a player. -/
def registered (σ : ChatServer) (p : String) : Option SessionPtr :=
  (σ.manager.players.find? p).map PlayerState.session

/-- The server has handed out envelopes with `P`, and nothing else. -/
structure Speaks (P : Delivery → Prop) (σ τ : ChatServer) : Prop where
  manager : τ.manager = σ.manager
  sessions : τ.sessions = σ.sessions
  redis : τ.redis = σ.redis
  sent : Appends P σ.sent τ.sent

namespace Speaks

variable {P : Delivery → Prop} {σ τ υ : ChatServer}

theorem refl (σ : ChatServer) : Speaks P σ σ :=
  ⟨rfl, rfl, rfl, Appends.refl _⟩

theorem trans (h : Speaks P σ τ) (h' : Speaks P τ υ) : Speaks P σ υ where
  manager := h'.manager.trans h.manager
  sessions := h'.sessions.trans h.sessions
  redis := h'.redis.trans h.redis
  sent := h.sent.trans h'.sent

theorem registered (h : Speaks P σ τ) : τ.registered = σ.registered := by
  unfold ChatServer.registered
  rw [h.manager]

end Speaks

section sending

variable {P : Delivery → Prop}

theorem speaks_send (σ : ChatServer) {s : SessionPtr} {envelope : ChatEnvelope}
    (hP : (σ.sessions s).closed = false → P ⟨s, envelope⟩) :
    Speaks P σ (σ.send s envelope) := by
  unfold send
  split
  · exact Speaks.refl σ
  · next hopen => exact ⟨rfl, rfl, rfl, Appends.push (hP (Bool.eq_false_iff.2 hopen))⟩

theorem speaks_sendTo (σ : ChatServer) {p : String} {envelope : ChatEnvelope}
    (hP : ∀ s, P ⟨s, envelope⟩) : Speaks P σ (σ.sendTo p envelope) := by
  unfold sendTo
  split
  · exact Speaks.refl σ
  split
  · exact Speaks.refl σ
  · exact speaks_send σ fun _ => hP _

theorem speaks_broadcast (σ : ChatServer) {ids : List String} {envelope : ChatEnvelope}
    (hP : ∀ s, P ⟨s, envelope⟩) : Speaks P σ (σ.broadcast ids envelope) := by
  unfold broadcast
  induction ids generalizing σ with
  | nil => exact Speaks.refl σ
  | cons p ids ih => exact (speaks_sendTo σ hP).trans (ih _)

theorem speaks_sendHistoryEntries (env : Env) (p : String) (entries : List (List UInt8))
    (hP : ∀ entry ∈ entries, ∀ receive, env.parse entry = some receive →
      ∀ s, P ⟨s, .receive receive⟩) (σ : ChatServer) :
    Speaks P σ (entries.foldl (sendHistoryEntry env p) σ) := by
  induction entries generalizing σ with
  | nil => exact Speaks.refl σ
  | cons entry entries ih =>
      rw [List.foldl_cons]
      have hrest := ih (fun entry' hentry' => hP entry' (List.mem_cons_of_mem entry hentry'))
        (σ.sendHistoryEntry env p entry)
      refine Speaks.trans ?_ hrest
      unfold sendHistoryEntry
      split
      · exact Speaks.refl σ
      · next receive hparse =>
          exact speaks_sendTo σ (hP entry List.mem_cons_self receive hparse)

end sending

/-!
## Redis
-/

/-- The server has used Redis, and nothing else. -/
structure Stores (σ τ : ChatServer) : Prop where
  manager : τ.manager = σ.manager
  sessions : τ.sessions = σ.sessions
  sent : τ.sent = σ.sent
  clock : τ.clock = σ.clock

theorem stores_attempt (env : Env) (cmds : List (Redis.Command Unit)) (σ : ChatServer) :
    Stores σ (σ.attempt env cmds) := by
  unfold attempt
  split
  · exact ⟨rfl, rfl, rfl, rfl⟩
  · exact ⟨rfl, rfl, rfl, rfl⟩

theorem stores_saveSessionNames (env : Env) (message : SessionCreated) (σ : ChatServer) :
    Stores σ (σ.saveSessionNames env message) := by
  unfold saveSessionNames
  induction message.players generalizing σ with
  | nil => exact ⟨rfl, rfl, rfl, rfl⟩
  | cons player players ih =>
      rw [List.foldl_cons]
      have hrest := ih (σ.attempt env [
        (Redis.hset (sessionKey message.sessionId) player.playerId player.playerName).void,
        (Redis.setex ("chat:name:" ++ player.playerId) player.playerName
          env.sessionTtl).void])
      have hplayer := stores_attempt env [
        (Redis.hset (sessionKey message.sessionId) player.playerId player.playerName).void,
        (Redis.setex ("chat:name:" ++ player.playerId) player.playerName
          env.sessionTtl).void] σ
      exact ⟨hrest.manager.trans hplayer.manager, hrest.sessions.trans hplayer.sessions,
        hrest.sent.trans hplayer.sent, hrest.clock.trans hplayer.clock⟩

/-- The rate limiter counts in Redis and changes nothing else. -/
theorem stores_rateLimit (env : Env) (s : SessionPtr) (σ : ChatServer) :
    Stores σ (σ.rateLimit env s).2 := by
  unfold rateLimit
  split
  · exact ⟨rfl, rfl, rfl, rfl⟩
  split
  · exact ⟨rfl, rfl, rfl, rfl⟩
  · exact ⟨rfl, rfl, rfl, rfl⟩

/-!
## Registrations and sessions
-/

theorem registered_removePlayer (σ : ChatServer) (p : String) (state : PlayerState) :
    (σ.removePlayer p state).registered = Function.update σ.registered p none := by
  funext q
  rw [registered, removePlayer, UnorderedMap.find?_erase, Function.update_apply]
  split
  · rfl
  · rfl

theorem registered_addPlayer (σ : ChatServer) (p : String) (state : PlayerState) :
    (σ.addPlayer p state).registered =
      Function.update σ.registered p (some state.session) := by
  funext q
  rw [registered, addPlayer, UnorderedMap.find?_insert, Function.update_apply]
  split
  · rfl
  · rfl

theorem registered_returnToLobby (σ : ChatServer) (p : String) :
    (σ.returnToLobby p).registered = σ.registered := by
  funext q
  unfold returnToLobby
  split
  · rw [registered, registered, UnorderedMap.find?_modify]
    split
    · next hq => rw [Option.map_map, hq]; rfl
    · rfl
  · rfl

/-- The session is replaced when another one authenticates as the player. -/
def Replaces (σ : ChatServer) (p : String) (s t : SessionPtr) : Prop :=
  t ≠ s ∧ σ.registered p = some t ∧ (σ.sessions t).lifetime = .alive

instance (σ : ChatServer) (p : String) (s t : SessionPtr) : Decidable (σ.Replaces p s t) :=
  inferInstanceAs (Decidable (_ ∧ _))

theorem not_replaces {σ : ChatServer} {p : String} {s t : SessionPtr} {state : PlayerState}
    (hp : σ.manager.players.find? p = some state) (h : σ.lock state.session ≠ some t) :
    ¬ σ.Replaces p s t := by
  rintro ⟨-, hregistered, halive⟩
  rw [registered, hp, Option.map_some, Option.some.injEq] at hregistered
  subst hregistered
  exact h (if_pos halive)

theorem registered_takeOver (σ : ChatServer) (p : String) (s : SessionPtr) :
    (σ.takeOver p s).registered = Function.update σ.registered p none := by
  unfold takeOver
  split
  · next hnone =>
      have hp : σ.registered p = none := by rw [registered, hnone, Option.map_none]
      rw [← hp, Function.update_eq_self]
  next state _ =>
  rw [← registered_removePlayer σ p state]
  simp only
  split
  · rfl
  split
  · exact (speaks_send (P := fun _ => True) _ fun _ => trivial).registered
  · rfl

/-- Taking a player over takes its entry away. -/
theorem players_takeOver (σ : ChatServer) (p : String) (s : SessionPtr) :
    (σ.takeOver p s).manager.players.find? p = none := by
  have h := congrFun (registered_takeOver σ p s) p
  rw [Function.update_self, registered, Option.map_eq_none_iff] at h
  exact h

theorem sessions_takeOver (σ : ChatServer) (p : String) (s t : SessionPtr) :
    (σ.takeOver p s).sessions t = if σ.Replaces p s t then
      { σ.sessions t with playerId := "", authenticated := false } else σ.sessions t := by
  unfold takeOver
  split
  · next hnone =>
      rw [if_neg]
      rintro ⟨-, hregistered, -⟩
      rw [registered, hnone] at hregistered
      cases hregistered
  next state hp =>
  simp only
  split
  · next hlock => rw [if_neg (not_replaces hp (by simp [hlock]))]; rfl
  next u hlock =>
  obtain ⟨halive, hu⟩ := Option.ite_some_none_eq_some.1 hlock
  split
  · next hus =>
      rw [(speaks_send (P := fun _ => True) _ fun _ => trivial).sessions]
      by_cases htu : t = u
      · subst htu
        rw [if_pos ⟨hus, by rw [registered, hp, Option.map_some, hu], hu ▸ halive⟩]
        exact Function.update_self _ _ _
      · rw [if_neg (not_replaces hp (by rw [hlock]; exact fun h => htu (Option.some.inj h).symm))]
        exact Function.update_of_ne htu _ _
  · next hus =>
      rw [if_neg]
      · rfl
      · rintro ⟨hts, hregistered, -⟩
        rw [registered, hp, Option.map_some, hu, Option.some.injEq] at hregistered
        exact hus (hregistered ▸ hts)

theorem sessions_takeOver_self (σ : ChatServer) (p : String) (s : SessionPtr) :
    (σ.takeOver p s).sessions s = σ.sessions s := by
  rw [sessions_takeOver, if_neg fun hreplaces => hreplaces.1 rfl]

/-- Taking over keeps the session channels, up to their members. -/
theorem contains_takeOver (σ : ChatServer) (p sid : String) (s : SessionPtr) :
    (σ.takeOver p s).manager.sessionChannels.contains sid =
      σ.manager.sessionChannels.contains sid := by
  have hremove : ∀ state, (σ.removePlayer p state).manager.sessionChannels.contains sid =
      σ.manager.sessionChannels.contains sid := by
    intro state
    simp only [removePlayer]
    split
    · rw [UnorderedMap.contains, UnorderedMap.find?_modify]
      split
      · next hsid => rw [Option.isSome_map, ← hsid]; rfl
      · rfl
    · rfl
  unfold takeOver
  split
  · rfl
  next state _ =>
  rw [← hremove state]
  simp only
  split
  · rfl
  split
  · rw [(speaks_send (P := fun _ => True) _ fun _ => trivial).manager]
    rfl
  · rfl

end ChatServer

/-!
## Authentication
-/

/-- The fields that an authentication needs are there. -/
def ChatAuth.isComplete (auth : ChatAuth) : Bool :=
  auth.playerId != "" && auth.playerName != ""

theorem ChatAuth.not_empty_of_isComplete {auth : ChatAuth} (h : auth.isComplete = true) :
    ¬ (auth.playerId == "" || auth.playerName == "") = true := by
  simpa [isComplete] using h

namespace ChatServer

/-- There is a channel for the authentication: the lobby, or that of the session. -/
def admits (σ : ChatServer) (auth : ChatAuth) : Bool :=
  auth.sessionId == "" || σ.manager.sessionChannels.contains auth.sessionId

theorem handleAuth_of_incomplete {auth : ChatAuth} (h : auth.isComplete = false) (env : Env)
    (s : SessionPtr) (σ : ChatServer) :
    σ.handleAuth env auth s = σ.send s (.authResult
      { success := false, reason := "player_id and player_name are required" }) := by
  have hempty : (auth.playerId == "" || auth.playerName == "") = true := by
    simpa [ChatAuth.isComplete, or_iff_not_imp_left] using h
  rw [handleAuth, if_pos hempty]

theorem handleAuth_of_not_admits {auth : ChatAuth} {σ : ChatServer}
    (h : auth.isComplete = true) (hadmits : σ.admits auth = false) (env : Env)
    (s : SessionPtr) :
    σ.handleAuth env auth s = (σ.takeOver auth.playerId s).send s (.authResult
      { success := false, reason := "Session not found" }) := by
  rw [admits, Bool.or_eq_false_iff] at hadmits
  rw [handleAuth, if_neg (ChatAuth.not_empty_of_isComplete h)]
  simp only [contains_takeOver, hadmits.1, hadmits.2, Bool.false_eq_true, if_false]

theorem handleAuth_of_lobby {auth : ChatAuth} (h : auth.isComplete = true)
    (hlobby : auth.sessionId = "") (env : Env) (s : SessionPtr) (σ : ChatServer) :
    σ.handleAuth env auth s =
      ((σ.takeOver auth.playerId s).addLobbyMember auth.playerId).register auth.playerId
        { playerName := auth.playerName, sessionId := auth.sessionId, session := s
          inLobby := true } s := by
  rw [handleAuth, if_neg (ChatAuth.not_empty_of_isComplete h)]
  exact if_pos (beq_iff_eq.2 hlobby)

theorem handleAuth_of_session {auth : ChatAuth} {σ : ChatServer} (h : auth.isComplete = true)
    (hsid : auth.sessionId ≠ "")
    (hchannel : σ.manager.sessionChannels.contains auth.sessionId = true) (env : Env)
    (s : SessionPtr) :
    σ.handleAuth env auth s =
      ((((σ.takeOver auth.playerId s).addMember auth.sessionId
        auth.playerId).saveSessionPlayer env auth).register auth.playerId
          { playerName := auth.playerName, sessionId := auth.sessionId, session := s } s).sendHistory
            env auth.playerId auth.sessionId := by
  rw [handleAuth, if_neg (ChatAuth.not_empty_of_isComplete h)]
  simp only [contains_takeOver]
  rw [if_neg (by simpa using hsid), if_pos hchannel]

theorem admits_cases {auth : ChatAuth} {σ : ChatServer} (h : σ.admits auth = true) :
    auth.sessionId = "" ∨ auth.sessionId ≠ "" ∧
      σ.manager.sessionChannels.contains auth.sessionId = true := by
  by_cases hlobby : auth.sessionId = ""
  · exact Or.inl hlobby
  · exact Or.inr ⟨hlobby, by simpa [admits, hlobby] using h⟩

/-- The history goes out; it changes Redis' count of commands at most. -/
theorem sendHistory_spec (env : Env) (p sid : String) (σ : ChatServer) :
    (σ.sendHistory env p sid).manager = σ.manager ∧
      (σ.sendHistory env p sid).sessions = σ.sessions := by
  unfold sendHistory
  split
  · split
    · exact ⟨rfl, rfl⟩
    · next entries redis _ =>
        have hspeaks := speaks_sendHistoryEntries (P := fun _ => True) env p
          entries.reverse (fun _ _ _ _ _ => trivial) { σ with redis := redis }
        exact ⟨hspeaks.manager, hspeaks.sessions⟩
  · exact ⟨rfl, rfl⟩

theorem register_spec (p : String) (state : PlayerState) (s : SessionPtr) (σ : ChatServer) :
    (σ.register p state s).registered =
        Function.update σ.registered p (some state.session) ∧
      (σ.register p state s).sessions = Function.update σ.sessions s
        { σ.sessions s with playerId := p, authenticated := true } := by
  have hspeaks : Speaks (fun _ => True) _ (σ.register p state s) :=
    speaks_send _ fun _ => trivial
  exact ⟨hspeaks.registered.trans (registered_addPlayer σ p state), hspeaks.sessions⟩

/-- An authentication that is accepted registers the player on the session. -/
theorem handleAuth_of_admits {auth : ChatAuth} {σ : ChatServer}
    (h : auth.isComplete = true) (hadmits : σ.admits auth = true) (env : Env)
    (s : SessionPtr) :
    (σ.handleAuth env auth s).registered =
        Function.update σ.registered auth.playerId (some s) ∧
      (σ.handleAuth env auth s).sessions = Function.update
        (σ.takeOver auth.playerId s).sessions s
        { σ.sessions s with playerId := auth.playerId, authenticated := true } := by
  -- what the registration makes of a server that has taken the player over
  have hregister : ∀ (τ : ChatServer) (state : PlayerState),
      τ.registered = (σ.takeOver auth.playerId s).registered →
      τ.sessions = (σ.takeOver auth.playerId s).sessions → state.session = s →
      (τ.register auth.playerId state s).registered =
          Function.update σ.registered auth.playerId (some s) ∧
        (τ.register auth.playerId state s).sessions = Function.update
          (σ.takeOver auth.playerId s).sessions s
          { σ.sessions s with playerId := auth.playerId, authenticated := true } := by
    intro τ state hregistered hsessions hstate
    have hself := sessions_takeOver_self σ auth.playerId s
    obtain ⟨hreg, hsess⟩ := register_spec auth.playerId state s τ
    rw [hreg, hsess, hregistered, hsessions, registered_takeOver, Function.update_idem,
      hstate, hself]
    exact ⟨rfl, rfl⟩
  rcases admits_cases hadmits with hlobby | ⟨hsid, hchannel⟩
  · rw [handleAuth_of_lobby h hlobby]
    exact hregister _ _ rfl rfl rfl
  · rw [handleAuth_of_session h hsid hchannel]
    have hstores := stores_attempt env [
      (Redis.hset (sessionKey auth.sessionId) auth.playerId auth.playerName).void,
      (Redis.setex ("chat:player:" ++ auth.playerId) auth.sessionId env.sessionTtl).void,
      (Redis.setex ("chat:name:" ++ auth.playerId) auth.playerName env.sessionTtl).void,
      (Redis.expire (sessionKey auth.sessionId) env.sessionTtl).void]
      ((σ.takeOver auth.playerId s).addMember auth.sessionId auth.playerId)
    have hregistered : (((σ.takeOver auth.playerId s).addMember auth.sessionId
        auth.playerId).saveSessionPlayer env auth).registered =
          (σ.takeOver auth.playerId s).registered := by
      unfold registered
      rw [saveSessionPlayer, hstores.manager]
      rfl
    obtain ⟨hmanager, hsessions⟩ := sendHistory_spec env auth.playerId auth.sessionId
      ((((σ.takeOver auth.playerId s).addMember auth.sessionId
        auth.playerId).saveSessionPlayer env auth).register auth.playerId
          { playerName := auth.playerName, sessionId := auth.sessionId, session := s } s)
    obtain ⟨hreg, hsess⟩ := hregister _
      { playerName := auth.playerName, sessionId := auth.sessionId, session := s }
      hregistered hstores.sessions rfl
    refine ⟨?_, hsessions.trans hsess⟩
    rw [← hreg]
    unfold registered
    rw [hmanager]

/-!
## The other handlers
-/

/-- The deliveries of a message from the player: they carry the message as it goes
out. -/
def Carries (σ : ChatServer) (p : String) (message : ChatSend) (d : Delivery) : Prop :=
  ∀ receive, d.envelope = .receive receive →
    ∃ state, σ.manager.players.find? p = some state ∧ receive = σ.receiveOf p state message

/-- A message is sent to others, and that to a session goes into its history. -/
theorem handleChatSend_spec (env : Env) (p : String) (message : ChatSend) (σ : ChatServer) :
    ∃ τ, Speaks (σ.Carries p message) σ τ ∧ (σ.handleChatSend env p message = τ ∨
      ∃ state, σ.manager.players.find? p = some state ∧ σ.handleChatSend env p message =
        τ.saveToHistory env state.sessionId (σ.receiveOf p state message)) := by
  have herror : ∀ error : ChatError,
      Speaks (σ.Carries p message) σ (σ.sendError p error) :=
    fun error => speaks_sendTo σ fun s receive h => by cases h
  unfold handleChatSend
  split
  · exact ⟨σ, Speaks.refl σ, Or.inl rfl⟩
  next state hp =>
  split
  · exact ⟨_, herror _, Or.inl rfl⟩
  have hreceive : ∀ s, σ.Carries p message
      ⟨s, .receive (σ.receiveOf p state message)⟩ := by
    intro s receive h
    cases h
    exact ⟨state, hp, rfl⟩
  unfold deliver
  simp only
  split
  · split
    · exact ⟨_, speaks_broadcast σ hreceive, Or.inl rfl⟩
    · exact ⟨_, herror _, Or.inl rfl⟩
  · split
    · exact ⟨_, herror _, Or.inl rfl⟩
    · refine ⟨σ.broadcastToSession state.sessionId (.receive (σ.receiveOf p state message)),
        ?_, Or.inr ⟨state, hp, rfl⟩⟩
      unfold broadcastToSession
      split
      · exact Speaks.refl σ
      · exact speaks_broadcast σ hreceive
  · split
    · exact ⟨_, herror _, Or.inl rfl⟩
    split
    · exact ⟨_, (speaks_sendTo σ hreceive).trans (speaks_sendTo _ hreceive), Or.inl rfl⟩
    · exact ⟨_, herror _, Or.inl rfl⟩
  · exact ⟨_, herror _, Or.inl rfl⟩

/-- The players and the sessions are as they were. -/
structure Keeps (σ τ : ChatServer) : Prop where
  registered : τ.registered = σ.registered
  sessions : τ.sessions = σ.sessions

theorem Keeps.trans {σ τ υ : ChatServer} (h : Keeps σ τ) (h' : Keeps τ υ) : Keeps σ υ :=
  ⟨h'.registered.trans h.registered, h'.sessions.trans h.sessions⟩

theorem Speaks.keeps {P : Delivery → Prop} {σ τ : ChatServer} (h : Speaks P σ τ) :
    Keeps σ τ :=
  ⟨h.registered, h.sessions⟩

theorem Stores.keeps {σ τ : ChatServer} (h : Stores σ τ) : Keeps σ τ := by
  refine ⟨?_, h.sessions⟩
  unfold registered
  rw [h.manager]

theorem keeps_handleChatSend (env : Env) (p : String) (message : ChatSend)
    (σ : ChatServer) : Keeps σ (σ.handleChatSend env p message) := by
  obtain ⟨τ, hspeaks, heq | ⟨state, -, heq⟩⟩ := handleChatSend_spec env p message σ
  · rw [heq]
    exact hspeaks.keeps
  · rw [heq]
    exact hspeaks.keeps.trans (stores_attempt env _ τ).keeps

theorem keeps_processSend (env : Env) (s : SessionPtr) (message : ChatSend)
    (σ : ChatServer) : Keeps σ (σ.processSend env s message) := by
  have hlimit := (stores_rateLimit env s σ).keeps
  unfold processSend
  split
  · split
    · next heq =>
        rw [heq] at hlimit
        exact hlimit.trans (speaks_send (P := fun _ => True) _ fun _ => trivial).keeps
    · next heq =>
        rw [heq] at hlimit
        exact hlimit.trans (keeps_handleChatSend env _ message _)
  · exact (speaks_send (P := fun _ => True) _ fun _ => trivial).keeps

theorem keeps_handleSessionCreated (env : Env) (message : SessionCreated)
    (σ : ChatServer) : Keeps σ (σ.handleSessionCreated env message) := by
  have hchannel : ∀ τ : ChatServer, Keeps τ (τ.addSessionChannel message) :=
    fun _ => ⟨rfl, rfl⟩
  exact ((stores_saveSessionNames env message σ).keeps.trans (hchannel _)).trans
    (stores_attempt env _ _).keeps

/-- The members of a session that ends go back to the lobby. -/
theorem returnToLobby_members (ids : List String) (σ : ChatServer) :
    Keeps σ (ids.foldl returnToLobby σ) ∧ (ids.foldl returnToLobby σ).sent = σ.sent ∧
      (ids.foldl returnToLobby σ).redis = σ.redis := by
  induction ids generalizing σ with
  | nil => exact ⟨⟨rfl, rfl⟩, rfl, rfl⟩
  | cons p ids ih =>
      obtain ⟨hkeeps, hsent, hredis⟩ := ih (σ.returnToLobby p)
      have hone : Keeps σ (σ.returnToLobby p) ∧ (σ.returnToLobby p).sent = σ.sent ∧
          (σ.returnToLobby p).redis = σ.redis := by
        have hregistered := registered_returnToLobby σ p
        unfold returnToLobby at hregistered ⊢
        split
        · next hp =>
            rw [if_pos hp] at hregistered
            exact ⟨⟨hregistered, rfl⟩, rfl, rfl⟩
        · exact ⟨⟨rfl, rfl⟩, rfl, rfl⟩
      exact ⟨hone.1.trans hkeeps, hsent.trans hone.2.1, hredis.trans hone.2.2⟩

theorem keeps_handleSessionEnded (env : Env) (message : SessionEnded) (σ : ChatServer) :
    Keeps σ (σ.handleSessionEnded env message) := by
  unfold handleSessionEnded
  split
  · exact ⟨rfl, rfl⟩
  next channel _ =>
  have hmembers := (returnToLobby_members channel.members.keyList σ).1
  have herase : Keeps (channel.members.keyList.foldl returnToLobby σ)
      { channel.members.keyList.foldl returnToLobby σ with
        manager := { (channel.members.keyList.foldl returnToLobby σ).manager with
          sessionChannels := (channel.members.keyList.foldl returnToLobby
            σ).manager.sessionChannels.erase message.sessionId } } := ⟨rfl, rfl⟩
  exact (hmembers.trans herase).trans (stores_attempt env _ _).keeps

theorem sent_handleSessionEnded (env : Env) (message : SessionEnded) (σ : ChatServer) :
    (σ.handleSessionEnded env message).sent = σ.sent := by
  unfold handleSessionEnded
  split
  · rfl
  next channel _ =>
  exact (stores_attempt env _ _).sent.trans
    (returnToLobby_members channel.members.keyList σ).2.1

theorem handleDisconnect_spec (σ : ChatServer) (p : String) :
    (∀ q, (σ.handleDisconnect p).manager.players.find? q =
        if q = p then none else σ.manager.players.find? q) ∧
      (σ.handleDisconnect p).sessions = σ.sessions ∧
      (σ.handleDisconnect p).sent = σ.sent ∧ (σ.handleDisconnect p).redis = σ.redis := by
  unfold handleDisconnect
  split
  · next hnone =>
      refine ⟨fun q => ?_, rfl, rfl, rfl⟩
      split
      · next hq => rw [hq, hnone]
      · rfl
  · exact ⟨fun q => UnorderedMap.find?_erase _ _ _, rfl, rfl, rfl⟩

/-- Closing a session takes the entry of its player away, whichever session that entry
is of. -/
theorem closeSession_spec {σ : ChatServer} {s : SessionPtr}
    (hopen : (σ.sessions s).closed = false) :
    (∀ q, (σ.closeSession s).manager.players.find? q =
        if (σ.sessions s).playerId ≠ "" ∧ q = (σ.sessions s).playerId then none
        else σ.manager.players.find? q) ∧
      (σ.closeSession s).sessions = Function.update σ.sessions s
        { σ.sessions s with closed := true, playerId := "" } ∧
      (σ.closeSession s).sent = σ.sent ∧ (σ.closeSession s).redis = σ.redis := by
  have hnot : ¬ (σ.sessions s).closed = true := by simp [hopen]
  have hplayer : ((σ.updateSession s fun c => { c with closed := true }).sessions s).playerId =
      (σ.sessions s).playerId := by
    simp [updateSession]
  simp only [closeSession, if_neg hnot, hplayer]
  by_cases hempty : (σ.sessions s).playerId = ""
  · have hclient : ({ σ.sessions s with closed := true } : ChatSession) =
        { σ.sessions s with closed := true, playerId := "" } := by rw [← hempty]
    simp only [hempty, bne_self_eq_false, Bool.false_eq_true, if_false, ne_eq,
      not_true_eq_false, false_and]
    exact ⟨fun q => rfl, congrArg (Function.update σ.sessions s) hclient, rfl, rfl⟩
  · have hne : ((σ.sessions s).playerId != "") = true := by simpa using hempty
    obtain ⟨hplayers, hsessions, hsent, hredis⟩ := handleDisconnect_spec
      (σ.updateSession s fun c => { c with closed := true }) (σ.sessions s).playerId
    rw [if_pos hne]
    refine ⟨fun q => ?_, ?_, hsent, hredis⟩
    · simp only [ne_eq, hempty, not_false_eq_true, true_and]
      exact hplayers q
    · simp only [updateSession] at hsessions ⊢
      rw [hsessions, Function.update_self, Function.update_idem]

/-!
## Deliveries and history
-/

section history

variable {env : Env} {Q : List UInt8 → Prop}

theorem listsOf_attempt {cmds : List (Redis.Command Unit)} {σ : ChatServer}
    (h : Redis.ListsOf Q σ.redis.store) (hcmds : ∀ cmd ∈ cmds, cmd.Keeps Q) :
    Redis.ListsOf Q (σ.attempt env cmds).redis.store := by
  unfold attempt
  split
  · exact h.attempt hcmds
  · exact h

theorem listsOf_saveSessionPlayer {σ : ChatServer} (auth : ChatAuth)
    (h : Redis.ListsOf Q σ.redis.store) :
    Redis.ListsOf Q (σ.saveSessionPlayer env auth).redis.store := by
  refine listsOf_attempt h ?_
  simp only [List.forall_mem_cons, List.not_mem_nil, false_imp_iff, implies_true, and_true]
  exact ⟨(Redis.keeps_hset _ _ _).void, (Redis.keeps_setex _ _ _).void,
    (Redis.keeps_setex _ _ _).void, (Redis.keeps_expire _ _).void⟩

theorem listsOf_saveToHistory {σ : ChatServer} (sid : String) {receive : ChatReceive}
    (h : Redis.ListsOf Q σ.redis.store) (hreceive : Q (env.serialize receive)) :
    Redis.ListsOf Q (σ.saveToHistory env sid receive).redis.store := by
  refine listsOf_attempt h ?_
  simp only [List.forall_mem_cons, List.not_mem_nil, false_imp_iff, implies_true, and_true]
  exact ⟨(Redis.keeps_lpush _ hreceive).void, (Redis.keeps_ltrim _ _ _).void,
    (Redis.keeps_expire _ _).void⟩

theorem listsOf_saveSessionNames {σ : ChatServer} (message : SessionCreated)
    (h : Redis.ListsOf Q σ.redis.store) :
    Redis.ListsOf Q (σ.saveSessionNames env message).redis.store := by
  unfold saveSessionNames
  induction message.players generalizing σ with
  | nil => exact h
  | cons player players ih =>
      rw [List.foldl_cons]
      refine ih (listsOf_attempt h ?_)
      simp only [List.forall_mem_cons, List.not_mem_nil, false_imp_iff, implies_true,
        and_true]
      exact ⟨(Redis.keeps_hset _ _ _).void, (Redis.keeps_setex _ _ _).void⟩

theorem listsOf_handleSessionCreated {σ : ChatServer} (message : SessionCreated)
    (h : Redis.ListsOf Q σ.redis.store) :
    Redis.ListsOf Q (σ.handleSessionCreated env message).redis.store := by
  refine listsOf_attempt (listsOf_saveSessionNames message h) ?_
  simp only [List.forall_mem_cons, List.not_mem_nil, false_imp_iff, implies_true, and_true]
  exact (Redis.keeps_expire _ _).void

theorem listsOf_handleSessionEnded {σ : ChatServer} (message : SessionEnded)
    (h : Redis.ListsOf Q σ.redis.store) :
    Redis.ListsOf Q (σ.handleSessionEnded env message).redis.store := by
  unfold handleSessionEnded
  split
  · exact h
  next channel _ =>
  refine listsOf_attempt ?_ ?_
  · rw [(returnToLobby_members channel.members.keyList σ).2.2]
    exact h
  · simp only [List.forall_mem_cons, List.not_mem_nil, false_imp_iff, implies_true,
      and_true]
    exact ⟨(Redis.keeps_del _).void, (Redis.keeps_del _).void⟩

theorem listsOf_rateLimit {σ : ChatServer} (s : SessionPtr)
    (h : Redis.ListsOf Q σ.redis.store) :
    Redis.ListsOf Q (σ.rateLimit env s).2.redis.store := by
  unfold rateLimit
  split
  · exact h
  next limiter _ =>
  have hallow : Redis.ListsOf Q (limiter.allow env.outcome (σ.sessions s).playerId
      σ.redis).2.store := limiter.listsOf_allow h
  split
  · next heq =>
      rw [heq] at hallow
      exact hallow
  · next heq =>
      rw [heq] at hallow
      exact hallow

/-- The history that goes out is what the lists in Redis hold. -/
theorem sendHistory_sent {P : Delivery → Prop} {σ : ChatServer} (p sid : String)
    (h : Redis.ListsOf Q σ.redis.store)
    (hP : ∀ entry, Q entry → ∀ receive, env.parse entry = some receive →
      ∀ t, P ⟨t, .receive receive⟩) :
    Appends P σ.sent (σ.sendHistory env p sid).sent ∧
      Redis.ListsOf Q (σ.sendHistory env p sid).redis.store := by
  unfold sendHistory
  split
  · have hcall : Redis.ListsOf Q (σ.redis.call env.outcome (Redis.lrange (historyKey sid) 0
        ((env.historySize.toNat : ℤ) - 1))).2.store := h.call (Redis.keeps_lrange _ _ _)
    split
    · next heq =>
        rw [heq] at hcall
        exact ⟨Appends.refl _, hcall⟩
    · next entries redis heq =>
        rw [heq] at hcall
        obtain ⟨ks, hlrange⟩ := Redis.exists_of_call heq
        have hspeaks := speaks_sendHistoryEntries (P := P) env p entries.reverse
          (fun entry hentry => hP entry (Redis.of_mem_lrange h hlrange entry
            (List.mem_reverse.1 hentry))) { σ with redis := redis }
        refine ⟨hspeaks.sent, ?_⟩
        rw [hspeaks.redis]
        exact hcall
  · exact ⟨Appends.refl _, h⟩

/-- Taking over sends to the session that is replaced, and nothing else. -/
theorem takeOver_sent {P : Delivery → Prop} (σ : ChatServer) (p : String) (s : SessionPtr)
    (hP : ∀ t, P ⟨t, .error ⟨.notAuthenticated, "Replaced by new connection"⟩⟩) :
    Appends P σ.sent (σ.takeOver p s).sent ∧ (σ.takeOver p s).redis = σ.redis := by
  have hkick : ∀ (τ : ChatServer) (t : SessionPtr), τ.sent = σ.sent → τ.redis = σ.redis →
      Appends P σ.sent (τ.send t (.error
        ⟨.notAuthenticated, "Replaced by new connection"⟩)).sent ∧
      (τ.send t (.error ⟨.notAuthenticated, "Replaced by new connection"⟩)).redis =
        σ.redis := by
    intro τ t hsent hredis
    have hspeaks := speaks_send (P := P) τ fun _ => hP t
    exact ⟨hsent ▸ hspeaks.sent, hspeaks.redis.trans hredis⟩
  unfold takeOver
  split
  · exact ⟨Appends.refl _, rfl⟩
  simp only
  split
  · exact ⟨Appends.refl _, rfl⟩
  split
  · exact hkick _ _ rfl rfl
  · exact ⟨Appends.refl _, rfl⟩

/-- The authentication is accepted. -/
def accepts (σ : ChatServer) (auth : ChatAuth) : Bool :=
  auth.isComplete && σ.admits auth

theorem register_sent {P : Delivery → Prop} {σ : ChatServer} (p : String)
    (state : PlayerState) (s : SessionPtr)
    (hP : (σ.sessions s).closed = false → P ⟨s, .authResult { success := true }⟩) :
    Appends P σ.sent (σ.register p state s).sent ∧
      (σ.register p state s).redis = σ.redis := by
  have hspeaks : Speaks P ((σ.addPlayer p state).updateSession s fun c =>
      { c with playerId := p, authenticated := true }) (σ.register p state s) := by
    refine speaks_send _ fun hopen => hP ?_
    simpa [updateSession, addPlayer] using hopen
  exact ⟨hspeaks.sent, hspeaks.redis⟩

/-- An authentication sends its result to the session, while it is open, and tells the
session that it replaces; it sends the history besides. -/
theorem handleAuth_sent (env : Env) {P : Delivery → Prop} {σ : ChatServer} (auth : ChatAuth)
    (s : SessionPtr) (h : Redis.ListsOf Q σ.redis.store)
    (hkick : ∀ t, P ⟨t, .error ⟨.notAuthenticated, "Replaced by new connection"⟩⟩)
    (hresult : ∀ result, (σ.sessions s).closed = false →
      result.success = σ.accepts auth → P ⟨s, .authResult result⟩)
    (hhistory : ∀ entry, Q entry → ∀ receive, env.parse entry = some receive →
      ∀ t, P ⟨t, .receive receive⟩) :
    Appends P σ.sent (σ.handleAuth env auth s).sent ∧
      Redis.ListsOf Q (σ.handleAuth env auth s).redis.store := by
  cases hcomplete : auth.isComplete with
  | false =>
      have haccepts : false = σ.accepts auth := by
        rw [accepts, hcomplete, Bool.false_and]
      rw [handleAuth_of_incomplete hcomplete]
      have hspeaks := speaks_send (P := P) σ (s := s) fun hopen => hresult
        ⟨false, "player_id and player_name are required"⟩ hopen haccepts
      exact ⟨hspeaks.sent, hspeaks.redis ▸ h⟩
  | true =>
  obtain ⟨htaken, hredis⟩ := takeOver_sent (P := P) σ auth.playerId s hkick
  have hself := sessions_takeOver_self σ auth.playerId s
  have hlists : Redis.ListsOf Q (σ.takeOver auth.playerId s).redis.store := hredis ▸ h
  cases hadmits : σ.admits auth with
  | false =>
      have haccepts : false = σ.accepts auth := by
        rw [accepts, hadmits, Bool.and_false]
      rw [handleAuth_of_not_admits hcomplete hadmits]
      have hspeaks := speaks_send (P := P) (σ.takeOver auth.playerId s) (s := s)
        fun hopen => hresult ⟨false, "Session not found"⟩ (hself ▸ hopen) haccepts
      exact ⟨htaken.trans hspeaks.sent, hspeaks.redis ▸ hlists⟩
  | true =>
  have haccepts : true = σ.accepts auth := by
    rw [accepts, hcomplete, hadmits, Bool.and_true]
  have hregister : ∀ (τ : ChatServer) (state : PlayerState),
      τ.sent = (σ.takeOver auth.playerId s).sent →
      τ.sessions = (σ.takeOver auth.playerId s).sessions →
      Redis.ListsOf Q τ.redis.store →
      Appends P σ.sent (τ.register auth.playerId state s).sent ∧
        Redis.ListsOf Q (τ.register auth.playerId state s).redis.store := by
    intro τ state hsent hsessions hτ
    obtain ⟨happends, hredis'⟩ := register_sent (P := P) (σ := τ) auth.playerId state s
      fun hopen => hresult ⟨true, ""⟩ (by rwa [hsessions, hself] at hopen) haccepts
    rw [hsent] at happends
    exact ⟨htaken.trans happends, hredis' ▸ hτ⟩
  rcases admits_cases hadmits with hlobby | ⟨hsid, hchannel⟩
  · rw [handleAuth_of_lobby hcomplete hlobby]
    exact hregister _ _ rfl rfl hlists
  · rw [handleAuth_of_session hcomplete hsid hchannel]
    have hmember : Redis.ListsOf Q ((σ.takeOver auth.playerId s).addMember auth.sessionId
        auth.playerId).redis.store := hlists
    have hstores : Stores ((σ.takeOver auth.playerId s).addMember auth.sessionId
        auth.playerId) (((σ.takeOver auth.playerId s).addMember auth.sessionId
          auth.playerId).saveSessionPlayer env auth) := stores_attempt env _ _
    obtain ⟨happends, hregistered⟩ := hregister _
      { playerName := auth.playerName, sessionId := auth.sessionId, session := s }
      hstores.sent hstores.sessions (listsOf_saveSessionPlayer auth hmember)
    obtain ⟨hsent, hdone⟩ := sendHistory_sent (P := P) auth.playerId auth.sessionId
      hregistered hhistory
    exact ⟨happends.trans hsent, hdone⟩

end history

end ChatServer

end Chat

end SosBackend
