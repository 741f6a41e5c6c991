import SosBackend.Chat.Admission

/-!
# What a step writes to Redis

The Chat Server keeps the names of the players of a session and the messages of the
session under two keys of Redis that carry the session id, and its mappings of players
and its counters under keys of their own. `Writes` lists the keys that an input may
write under; a step leaves every other key as it is, except for what expires.
-/

namespace SosBackend

namespace Chat

/-!
## The keys
-/

theorem sessionKey_injective {sid x : String}
    (h : ChatServer.sessionKey sid = ChatServer.sessionKey x) : sid = x := by
  have hlist := congrArg String.toList h
  rw [ChatServer.sessionKey, ChatServer.sessionKey, String.toList_append,
    String.toList_append] at hlist
  exact String.toList_inj.1 (List.append_cancel_left hlist)

theorem historyKey_injective {sid x : String}
    (h : ChatServer.historyKey sid = ChatServer.historyKey x) : sid = x := by
  have hlist := congrArg String.toList h
  rw [ChatServer.historyKey, ChatServer.historyKey, String.toList_append, String.toList_append,
    String.toList_append, String.toList_append] at hlist
  exact String.toList_inj.1 (List.append_cancel_left (List.append_cancel_right hlist))

/-- Keys differ where the texts that they begin with differ early enough. -/
theorem append_ne_append {a b : String} (n : ℕ) (ha : n ≤ a.toList.length)
    (hb : n ≤ b.toList.length) (h : a.toList.take n ≠ b.toList.take n) (x y : String) :
    a ++ x ≠ b ++ y := by
  intro heq
  have hlist := congrArg (fun s => s.toList.take n) heq
  simp only [String.toList_append, List.take_append_of_le_length ha,
    List.take_append_of_le_length hb] at hlist
  exact h hlist

namespace ChatServer

/-- The keys of a session. -/
def KeyOf (sid key : String) : Prop :=
  key = sessionKey sid ∨ key = historyKey sid

/-- No key of a session has a prefix that the server uses otherwise. -/
theorem KeyOf.ne_append {sid key pre : String} (h : KeyOf sid key)
    (hpre : pre ∈ ["chat:player:", "chat:name:", "chat:rate:"]) (x : String) :
    key ≠ pre ++ x := by
  have hne : ∀ a ∈ ["chat:session:", "chat:history:"], ∀ b ∈
      ["chat:player:", "chat:name:", "chat:rate:"], 6 ≤ a.toList.length ∧
        6 ≤ b.toList.length ∧ a.toList.take 6 ≠ b.toList.take 6 := by
    decide
  rcases h with rfl | rfl
  · obtain ⟨ha, hb, htake⟩ := hne "chat:session:" (by decide) pre hpre
    exact append_ne_append 6 ha hb htake _ _
  · obtain ⟨ha, hb, htake⟩ := hne "chat:history:" (by decide) pre hpre
    rw [historyKey, String.append_assoc]
    exact append_ne_append 6 ha hb htake _ _

theorem sessionKey_ne_historyKey (sid x : String) : sessionKey sid ≠ historyKey x := by
  rw [sessionKey, historyKey, String.append_assoc]
  exact append_ne_append 6 (by decide) (by decide) (by decide) _ _

theorem KeyOf.eq {sid x key : String} (h : KeyOf sid key) (hx : KeyOf x key) : sid = x := by
  rcases h with rfl | rfl
  · rcases hx with hx | hx
    · exact sessionKey_injective hx
    · exact absurd hx (sessionKey_ne_historyKey _ _)
  · rcases hx with hx | hx
    · exact absurd hx.symm (sessionKey_ne_historyKey _ _)
    · exact historyKey_injective hx

/-- The message to a session that an input brings, where it is accepted, with the session
that it is for. -/
def acceptedAll (env : Env) (σ : ChatServer) : Input → Option (String × ChatReceive)
  | .message s (.send message) =>
      (σ.manager.players.find? (σ.sessions s).playerId).bind fun state =>
        if (σ.sessions s).authenticated && (σ.rateLimit env s).1 && message.channel == .all &&
            (refusal env σ state message).isNone then
          some (state.sessionId, σ.receiveOf (σ.sessions s).playerId state message)
        else none
  | _ => none

/-- The keys under which an input may write. -/
inductive Writes (env : Env) (σ : ChatServer) : Input → String → Prop
  | count {s : SessionPtr} {message : ChatSend} {limiter : RateLimiter}
      (hlimiter : env.rateLimiter = some limiter) :
      Writes env σ (.message s (.send message)) (limiter.keyPrefix ++ (σ.sessions s).playerId)
  | history {i : Input} {sid : String} {receive : ChatReceive}
      (haccepted : acceptedAll env σ i = some (sid, receive)) : Writes env σ i (historyKey sid)
  | names {s : SessionPtr} {auth : ChatAuth} (hsid : auth.sessionId ≠ "")
      (haccepts : σ.accepts auth = true) :
      Writes env σ (.message s (.auth auth)) (sessionKey auth.sessionId)
  | player {s : SessionPtr} {auth : ChatAuth} :
      Writes env σ (.message s (.auth auth)) ("chat:player:" ++ auth.playerId)
  | name {s : SessionPtr} {auth : ChatAuth} :
      Writes env σ (.message s (.auth auth)) ("chat:name:" ++ auth.playerId)
  | created {message : SessionCreated} :
      Writes env σ (.internalMessage (.sessionCreated message)) (sessionKey message.sessionId)
  | createdName {message : SessionCreated} {player : PlayerInfo}
      (hplayer : player ∈ message.players) :
      Writes env σ (.internalMessage (.sessionCreated message)) ("chat:name:" ++ player.playerId)
  | ended {message : SessionEnded} {key : String}
      (hchannel : σ.manager.sessionChannels.contains message.sessionId = true)
      (hkey : KeyOf message.sessionId key) :
      Writes env σ (.internalMessage (.sessionEnded message)) key

/-!
## What the handlers leave
-/

section leaves

variable {env : Env} {σ τ : ChatServer} {key : String}

/-- The entry under a key. -/
def entry (σ : ChatServer) (key : String) : Option Redis.Entry :=
  σ.redis.store.lookup key

theorem entry_of_redis (h : τ.redis = σ.redis) : τ.entry key = σ.entry key := by
  rw [entry, h]
  rfl

theorem entry_attempt {cmds : List (Redis.Command Unit)} (h : ∀ cmd ∈ cmds, cmd.Leaves key)
    (σ : ChatServer) : (σ.attempt env cmds).entry key = σ.entry key := by
  unfold attempt
  split
  · exact Redis.lookup_attempt h σ.redis
  · rfl

theorem entry_send (σ : ChatServer) (s : SessionPtr) (envelope : ChatEnvelope) :
    (σ.send s envelope).entry key = σ.entry key :=
  entry_of_redis (speaks_send (P := fun _ => True) σ fun _ => trivial).redis

theorem entry_takeOver (σ : ChatServer) (p : String) (s : SessionPtr) :
    (σ.takeOver p s).entry key = σ.entry key :=
  entry_of_redis (takeOver_sent (P := fun _ => True) σ p s fun _ => trivial).2

theorem entry_register (σ : ChatServer) (p : String) (state : PlayerState) (s : SessionPtr) :
    (σ.register p state s).entry key = σ.entry key :=
  entry_of_redis (register_sent (P := fun _ => True) p state s fun _ => trivial).2

theorem entry_sendHistory (σ : ChatServer) (p sid : String) :
    (σ.sendHistory env p sid).entry key = σ.entry key := by
  have hcall := (Redis.leaves_lrange (x := key) (historyKey sid) 0
    ((env.historySize.toNat : ℤ) - 1)).lookup_call env.outcome σ.redis
  unfold sendHistory
  split
  · split
    · next heq =>
        rw [heq] at hcall
        exact hcall
    · next entries redis heq =>
        rw [heq] at hcall
        have hspeaks := speaks_sendHistoryEntries (P := fun _ => True) env p entries.reverse
          (fun _ _ _ _ _ => trivial) { σ with redis := redis }
        exact (entry_of_redis hspeaks.redis).trans hcall
  · rfl

theorem entry_saveSessionPlayer {auth : ChatAuth} (hkey : key ≠ sessionKey auth.sessionId)
    (hplayer : key ≠ "chat:player:" ++ auth.playerId)
    (hname : key ≠ "chat:name:" ++ auth.playerId) (σ : ChatServer) :
    (σ.saveSessionPlayer env auth).entry key = σ.entry key := by
  apply entry_attempt
  simp only [List.forall_mem_cons, List.not_mem_nil, false_imp_iff, implies_true, and_true]
  exact ⟨(Redis.leaves_onKey hkey).void, (Redis.leaves_onKey hplayer).void,
    (Redis.leaves_onKey hname).void, (Redis.leaves_onKey hkey).void⟩

theorem entry_handleAuth {auth : ChatAuth} {s : SessionPtr}
    (h : ¬ Writes env σ (.message s (.auth auth)) key) :
    (σ.handleAuth env auth s).entry key = σ.entry key := by
  cases hcomplete : auth.isComplete with
  | false =>
      rw [handleAuth_of_incomplete hcomplete]
      exact entry_send σ s _
  | true =>
  cases hadmits : σ.admits auth with
  | false =>
      rw [handleAuth_of_not_admits hcomplete hadmits]
      exact (entry_send _ s _).trans (entry_takeOver σ _ s)
  | true =>
  rcases admits_cases hadmits with hlobby | ⟨hsid, hchannel⟩
  · rw [handleAuth_of_lobby hcomplete hlobby]
    exact (entry_register _ _ _ s).trans (entry_takeOver σ _ s)
  · have haccepts : σ.accepts auth = true := by
      rw [accepts, hcomplete, hadmits]
      rfl
    rw [handleAuth_of_session hcomplete hsid hchannel, entry_sendHistory, entry_register,
      entry_saveSessionPlayer]
    · exact entry_takeOver σ _ s
    · rintro rfl
      exact h (Writes.names hsid haccepts)
    · rintro rfl
      exact h Writes.player
    · rintro rfl
      exact h Writes.name

theorem entry_saveToHistory {sid : String} (hkey : key ≠ historyKey sid)
    (receive : ChatReceive) (σ : ChatServer) :
    (σ.saveToHistory env sid receive).entry key = σ.entry key := by
  apply entry_attempt
  simp only [List.forall_mem_cons, List.not_mem_nil, false_imp_iff, implies_true, and_true]
  exact ⟨(Redis.leaves_onKey hkey).void, (Redis.leaves_onKey hkey).void,
    (Redis.leaves_onKey hkey).void⟩

/-- A message to a session is written to the history of that session. -/
theorem entry_handleChatSend {p : String} {message : ChatSend}
    (h : ∀ state, σ.manager.players.find? p = some state → message.channel = .all →
      refusal env σ state message = none → key ≠ historyKey state.sessionId) :
    (σ.handleChatSend env p message).entry key = σ.entry key := by
  have herror : ∀ error, (σ.sendError p error).entry key = σ.entry key := fun error =>
    entry_of_redis (speaks_sendTo (P := fun _ => True) σ fun _ => trivial).redis
  have hbroadcast : ∀ ids envelope, (σ.broadcast ids envelope).entry key = σ.entry key :=
    fun ids envelope =>
      entry_of_redis (speaks_broadcast (P := fun _ => True) σ fun _ => trivial).redis
  unfold handleChatSend
  split
  · rfl
  next state hp =>
  split
  · exact herror _
  next hcontent =>
  unfold deliver
  simp only
  split
  · split
    · exact hbroadcast _ _
    · exact herror _
  · next hchannel =>
      split
      · exact herror _
      · next hsid =>
          have haccepted : refusal env σ state message = none := by
            simpa [refusal, hcontent, hchannel] using hsid
          rw [entry_saveToHistory (h state hp hchannel haccepted)]
          unfold broadcastToSession
          split
          · rfl
          · exact hbroadcast _ _
  · split
    · exact herror _
    split
    · exact entry_of_redis ((speaks_sendTo (P := fun _ => True) σ fun _ => trivial).trans
        (speaks_sendTo _ fun _ => trivial)).redis
    · exact herror _
  · exact herror _

theorem entry_rateLimit {s : SessionPtr} (h : ∀ limiter, env.rateLimiter = some limiter →
    key ≠ limiter.keyPrefix ++ (σ.sessions s).playerId) :
    (σ.rateLimit env s).2.entry key = σ.entry key := by
  unfold rateLimit
  split
  · rfl
  next limiter hlimiter =>
  have hallow := (limiter.store_allow env.outcome (σ.sessions s).playerId σ.redis).2 key
    (h limiter hlimiter)
  split
  · next heq =>
      rw [heq] at hallow
      exact hallow
  · next heq =>
      rw [heq] at hallow
      exact hallow

theorem entry_processSend {s : SessionPtr} {message : ChatSend}
    (h : ¬ Writes env σ (.message s (.send message)) key) :
    (σ.processSend env s message).entry key = σ.entry key := by
  have hcount : ∀ limiter, env.rateLimiter = some limiter →
      key ≠ limiter.keyPrefix ++ (σ.sessions s).playerId := by
    rintro limiter hlimiter rfl
    exact h (Writes.count hlimiter)
  have hlimit := entry_rateLimit hcount
  have hstores := stores_rateLimit env s σ
  unfold processSend
  split
  · next hauthenticated =>
      split
      · next heq =>
          rw [heq] at hlimit
          exact (entry_send _ s _).trans hlimit
      · next heq =>
          rw [heq] at hlimit hstores
          refine (entry_handleChatSend ?_).trans hlimit
          rw [hstores.manager, hstores.sessions]
          rintro state hp hchannel haccepted rfl
          rw [refusal_of_manager hstores.manager] at haccepted
          have hall : acceptedAll env σ (.message s (.send message)) = some (state.sessionId,
              σ.receiveOf (σ.sessions s).playerId state message) := by
            simp [acceptedAll, hp, hauthenticated, heq, hchannel, haccepted]
          exact h (Writes.history hall)
  · exact entry_send σ s _

theorem entry_handleSessionCreated {message : SessionCreated}
    (h : ¬ Writes env σ (.internalMessage (.sessionCreated message)) key) :
    (σ.handleSessionCreated env message).entry key = σ.entry key := by
  have hkey : key ≠ sessionKey message.sessionId := by
    rintro rfl
    exact h Writes.created
  have hname : ∀ player ∈ message.players, key ≠ "chat:name:" ++ player.playerId := by
    rintro player hplayer rfl
    exact h (Writes.createdName hplayer)
  have hnames : ∀ (players : List PlayerInfo) (τ : ChatServer),
      (∀ player ∈ players, key ≠ "chat:name:" ++ player.playerId) →
      (players.foldl (fun σ player => σ.attempt env [
        (Redis.hset (sessionKey message.sessionId) player.playerId player.playerName).void,
        (Redis.setex ("chat:name:" ++ player.playerId) player.playerName
          env.sessionTtl).void]) τ).entry key = τ.entry key := by
    intro players
    induction players with
    | nil =>
        intro τ _
        rfl
    | cons player players ih =>
        intro τ hplayers
        rw [List.forall_mem_cons] at hplayers
        rw [List.foldl_cons, ih _ hplayers.2]
        apply entry_attempt
        simp only [List.forall_mem_cons, List.not_mem_nil, false_imp_iff, implies_true,
          and_true]
        exact ⟨(Redis.leaves_onKey hkey).void, (Redis.leaves_onKey hplayers.1).void⟩
  rw [handleSessionCreated, entry_attempt]
  · exact hnames message.players σ hname
  · simp only [List.forall_mem_cons, List.not_mem_nil, false_imp_iff, implies_true, and_true]
    exact (Redis.leaves_onKey hkey).void

theorem entry_handleSessionEnded {message : SessionEnded}
    (h : ¬ Writes env σ (.internalMessage (.sessionEnded message)) key) :
    (σ.handleSessionEnded env message).entry key = σ.entry key := by
  unfold handleSessionEnded
  split
  · rfl
  next channel hchannel =>
  have hcontains : σ.manager.sessionChannels.contains message.sessionId = true :=
    UnorderedMap.contains_iff.2 ⟨channel, hchannel⟩
  have hother : ∀ x, KeyOf message.sessionId x → key ≠ x := by
    rintro x hx rfl
    exact h (Writes.ended hcontains hx)
  simp only
  rw [entry_attempt]
  · exact entry_of_redis (returnToLobby_members channel.members.keyList σ).2.2
  · simp only [List.forall_mem_cons, List.not_mem_nil, false_imp_iff, implies_true, and_true]
    exact ⟨(Redis.leaves_onKey (hother _ (Or.inl rfl))).void,
      (Redis.leaves_onKey (hother _ (Or.inr rfl))).void⟩

/-- A step leaves every key that its input does not write, except for what expires. -/
theorem entry_step {i : Input} (hstep : Step env σ i τ) (h : ¬ Writes env σ i key) :
    τ.entry key = σ.entry key ∨
      ∃ seconds, i = .tick seconds ∧ ∀ e, τ.entry key = some e → σ.entry key = some e := by
  cases i with
  | connect s =>
      obtain ⟨-, rfl⟩ := Option.ite_some_none_eq_some.1 hstep
      exact Or.inl rfl
  | message s envelope =>
      obtain ⟨-, rfl⟩ := Option.ite_some_none_eq_some.1 hstep
      cases envelope with
      | auth auth => exact Or.inl (entry_handleAuth h)
      | send message => exact Or.inl (entry_processSend h)
      | _ => exact Or.inl rfl
  | close s =>
      obtain ⟨hopen, rfl⟩ := Option.ite_some_none_eq_some.1 hstep
      exact Or.inl (entry_of_redis (closeSession_spec (ChatSession.isOpen_iff.1 hopen).2).2.2.2)
  | released s =>
      obtain ⟨-, rfl⟩ := Option.ite_some_none_eq_some.1 hstep
      exact Or.inl rfl
  | internalMessage envelope =>
      obtain rfl := Option.some.inj hstep
      cases envelope with
      | sessionCreated message => exact Or.inl (entry_handleSessionCreated h)
      | sessionEnded message => exact Or.inl (entry_handleSessionEnded h)
      | _ => exact Or.inl rfl
  | clock now =>
      obtain rfl := Option.some.inj hstep
      exact Or.inl rfl
  | tick seconds =>
      obtain rfl := Option.some.inj hstep
      exact Or.inr ⟨seconds, rfl, fun e he => Redis.Keyspace.lookup_of_advance he⟩

end leaves

end ChatServer

end Chat

end SosBackend
