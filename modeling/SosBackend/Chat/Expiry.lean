import SosBackend.Chat.Ended

/-!
# What the Chat Server leaves in Redis

The names of the players of a session and the messages of the session are written without an
expiry and given one in the end. Where Redis answers and the time to live of a session is not
zero, they get it: no command between fails, so nothing is left for longer than that time.
-/

namespace SosBackend

namespace Chat

/-- No time to live is longer than `L` seconds. -/
structure Env.Lasts (env : Env) (L : ℕ) : Prop where
  window : ∀ limiter ∈ env.rateLimiter, limiter.window ≤ L
  session : env.sessionTtl ≤ L

/-- Under the keys in `K` Redis has nothing for longer than `L` seconds. -/
def ChatServer.Brief (K : Set String) (L : ℕ) (σ : ChatServer) : Prop :=
  σ.redis.store.Brief K L

namespace ChatServer.Brief

variable {env : Env} {K : Set String} {L : ℕ} {σ τ : ChatServer}

theorem of_redis (h : σ.Brief K L) (hredis : τ.redis = σ.redis) : τ.Brief K L := by
  unfold ChatServer.Brief
  rw [hredis]
  exact h

theorem except (h : σ.Brief K L) (key : String) : σ.Brief (K \ {key}) L :=
  Redis.Keyspace.Brief.except h key

/-- The commands of a `try` block, where there is a Redis. -/
theorem attempt {cmds : List (Redis.Command Unit)} (h : σ.Brief K L)
    (hcmds : (σ.redis.attempt env.outcome cmds).store.Brief K L) :
    (σ.attempt env cmds).Brief K L := by
  unfold ChatServer.attempt
  split
  · exact hcmds
  · exact h

/-!
## Names and messages
-/

/-- A message to a session: either its history holds something else and the push is refused,
or the history is a list and gets its expiry. -/
theorem saveToHistory (hanswered : ∀ n, env.outcome n = .answered) (hL : env.Lasts L)
    (h : σ.Brief K L) (sid : String) (receive : ChatReceive) :
    (σ.saveToHistory env sid receive).Brief K L := by
  apply h.attempt
  cases hpush : Redis.lpush (historyKey sid) (env.serialize receive) σ.redis.store with
  | none =>
      rw [Redis.attempt_cons_of_none (hanswered _) hpush]
      exact h
  | some a =>
      obtain ⟨n, ks⟩ := a
      obtain ⟨l, hl⟩ := Redis.holdsList_of_lpush hpush
      obtain ⟨ks', htrim, -, -⟩ := hl.ltrim 0 ((env.historySize.toNat : ℤ) - 1)
      obtain ⟨r, ks'', hexpire⟩ := Redis.exists_expire (historyKey sid) env.sessionTtl ks'
      rw [Redis.attempt_cons (hanswered _) hpush,
        Redis.attempt_cons (c := ⟨ks, σ.redis.issued + 1⟩) (hanswered _) htrim,
        Redis.attempt_cons (c := ⟨ks', σ.redis.issued + 1 + 1⟩) (hanswered _) hexpire]
      have hothers := (Redis.Keyspace.Brief.except h _).onKey hpush
      exact (hothers.onKey htrim).expire hL.session hexpire

/-- A player of a session. -/
theorem saveSessionPlayer (hanswered : ∀ n, env.outcome n = .answered) (hL : env.Lasts L)
    (httl : env.sessionTtl ≠ 0) (h : σ.Brief K L) (auth : ChatAuth) :
    (σ.saveSessionPlayer env auth).Brief K L := by
  apply h.attempt
  cases hset : Redis.hset (sessionKey auth.sessionId) auth.playerId auth.playerName
      σ.redis.store with
  | none =>
      rw [Redis.attempt_cons_of_none (hanswered _) hset]
      exact h
  | some a =>
      obtain ⟨n, ks⟩ := a
      obtain ⟨ks₁, hplayer⟩ :=
        Redis.exists_setex ("chat:player:" ++ auth.playerId) auth.sessionId httl ks
      obtain ⟨ks₂, hname⟩ :=
        Redis.exists_setex ("chat:name:" ++ auth.playerId) auth.playerName httl ks₁
      obtain ⟨r, ks₃, hexpire⟩ :=
        Redis.exists_expire (sessionKey auth.sessionId) env.sessionTtl ks₂
      rw [Redis.attempt_cons (hanswered _) hset,
        Redis.attempt_cons (c := ⟨ks, σ.redis.issued + 1⟩) (hanswered _) hplayer,
        Redis.attempt_cons (c := ⟨ks₁, σ.redis.issued + 1 + 1⟩) (hanswered _) hname,
        Redis.attempt_cons (c := ⟨ks₂, σ.redis.issued + 1 + 1 + 1⟩) (hanswered _) hexpire]
      have hothers := (Redis.Keyspace.Brief.except h _).onKey hset
      have hplayers := (hothers.except _).setex hL.session hplayer
      have hnames := (hplayers.except _).setex hL.session hname
      exact hnames.expire hL.session hexpire

/-- The names of a new session; the names under the key of the session have no expiry yet. -/
theorem saveSessionNames (hanswered : ∀ n, env.outcome n = .answered) (hL : env.Lasts L)
    (httl : env.sessionTtl ≠ 0) (message : SessionCreated)
    (h : σ.Brief (K \ {sessionKey message.sessionId}) L) :
    (σ.saveSessionNames env message).Brief (K \ {sessionKey message.sessionId}) L := by
  unfold ChatServer.saveSessionNames
  induction message.players generalizing σ with
  | nil => exact h
  | cons player players ih =>
      apply ih
      apply h.attempt
      cases hset : Redis.hset (sessionKey message.sessionId) player.playerId player.playerName
          σ.redis.store with
      | none =>
          rw [Redis.attempt_cons_of_none (hanswered _) hset]
          exact h
      | some a =>
          obtain ⟨n, ks⟩ := a
          obtain ⟨ks', hname⟩ :=
            Redis.exists_setex ("chat:name:" ++ player.playerId) player.playerName httl ks
          rw [Redis.attempt_cons (hanswered _) hset,
            Redis.attempt_cons (c := ⟨ks, σ.redis.issued + 1⟩) (hanswered _) hname]
          have hothers := Redis.Keyspace.Brief.onKey h hset
          exact (hothers.except _).setex hL.session hname

theorem handleSessionCreated (hanswered : ∀ n, env.outcome n = .answered) (hL : env.Lasts L)
    (httl : env.sessionTtl ≠ 0) (h : σ.Brief K L) (message : SessionCreated) :
    (σ.handleSessionCreated env message).Brief K L := by
  cases hredis : env.redis with
  | false =>
      have hsame : ∀ (cmds : List (Redis.Command Unit)) (τ : ChatServer),
          (τ.attempt env cmds).redis = τ.redis := by
        intro cmds τ
        unfold ChatServer.attempt
        rw [if_neg (by rw [hredis]; exact Bool.false_ne_true)]
      refine h.of_redis ((hsame _ _).trans ?_)
      change (σ.saveSessionNames env message).redis = σ.redis
      unfold ChatServer.saveSessionNames
      clear h
      induction message.players generalizing σ with
      | nil => rfl
      | cons player players ih => exact ih.trans (hsame _ σ)
  | true =>
      have hnames := saveSessionNames hanswered hL httl message (h.except _)
      obtain ⟨r, ks, hexpire⟩ := Redis.exists_expire (sessionKey message.sessionId)
        env.sessionTtl (σ.saveSessionNames env message).redis.store
      unfold ChatServer.handleSessionCreated ChatServer.attempt
      rw [if_pos hredis]
      change ((σ.saveSessionNames env message).redis.attempt env.outcome
        [(Redis.expire (sessionKey message.sessionId) env.sessionTtl).void]).store.Brief K L
      rw [Redis.attempt_cons (hanswered _) hexpire]
      exact Redis.Keyspace.Brief.expire hnames hL.session hexpire

theorem handleSessionEnded (hanswered : ∀ n, env.outcome n = .answered) (h : σ.Brief K L)
    (message : SessionEnded) : (σ.handleSessionEnded env message).Brief K L := by
  unfold ChatServer.handleSessionEnded
  split
  · exact h
  next channel _ =>
  simp only
  have hreturned : Brief K L (channel.members.keyList.foldl returnToLobby σ) :=
    h.of_redis (returnToLobby_members channel.members.keyList σ).2.2
  refine attempt (hreturned.of_redis rfl) ?_
  rw [Redis.attempt_cons (hanswered _) rfl, Redis.attempt_cons (hanswered _) rfl,
    Redis.Client.attempt]
  have hsession := (Redis.Keyspace.Brief.except hreturned (sessionKey message.sessionId)).del rfl
  exact (hsession.except (historyKey message.sessionId)).del rfl

/-!
## Clients
-/

theorem sendHistory (h : σ.Brief K L) (env : Env) (p sid : String) :
    (σ.sendHistory env p sid).Brief K L := by
  have hread : (σ.redis.call env.outcome (Redis.lrange (historyKey sid) 0
      ((env.historySize.toNat : ℤ) - 1))).2.store.Brief K L := by
    refine Redis.Keyspace.Brief.call h env.outcome fun r ks hrange => ?_
    exact Redis.Keyspace.Brief.of_agree h ⟨Redis.now_onKey hrange,
      fun x _ => Redis.leaves_lrange (historyKey sid) 0 _ _ _ _ hrange⟩
  unfold ChatServer.sendHistory
  split
  · split
    · next heq =>
        rw [heq] at hread
        exact hread
    · next entries redis heq =>
        rw [heq] at hread
        have hspeaks := speaks_sendHistoryEntries (P := fun _ => True) env p entries.reverse
          (fun _ _ _ _ _ => trivial) { σ with redis := redis }
        have hbrief : Brief K L { σ with redis := redis } := hread
        exact hbrief.of_redis hspeaks.redis
  · exact h

theorem handleAuth (hanswered : ∀ n, env.outcome n = .answered) (hL : env.Lasts L)
    (httl : env.sessionTtl ≠ 0) (h : σ.Brief K L) (auth : ChatAuth) (s : SessionPtr) :
    (σ.handleAuth env auth s).Brief K L := by
  have hsend : ∀ {τ : ChatServer} (envelope : ChatEnvelope), τ.Brief K L →
      (τ.send s envelope).Brief K L := fun envelope hτ =>
    hτ.of_redis (speaks_send (P := fun _ => True) _ fun _ => trivial).redis
  have htaken : (σ.takeOver auth.playerId s).Brief K L :=
    h.of_redis (takeOver_sent (P := fun _ => True) σ _ s fun _ => trivial).2
  have hregister : ∀ {τ : ChatServer} (state : PlayerState), τ.Brief K L →
      (τ.register auth.playerId state s).Brief K L := fun state hτ =>
    hτ.of_redis (register_sent (P := fun _ => True) _ state s fun _ => trivial).2
  cases hcomplete : auth.isComplete with
  | false =>
      rw [handleAuth_of_incomplete hcomplete]
      exact hsend _ h
  | true =>
  cases hadmits : σ.admits auth with
  | false =>
      rw [handleAuth_of_not_admits hcomplete hadmits]
      exact hsend _ htaken
  | true =>
  rcases admits_cases hadmits with hlobby | ⟨hsid, hchannel⟩
  · rw [handleAuth_of_lobby hcomplete hlobby]
    exact hregister _ (htaken.of_redis rfl)
  · rw [handleAuth_of_session hcomplete hsid hchannel]
    refine sendHistory (hregister _ (saveSessionPlayer hanswered hL httl ?_ auth)) env _ _
    exact htaken.of_redis rfl

theorem handleChatSend (hanswered : ∀ n, env.outcome n = .answered) (hL : env.Lasts L)
    (h : σ.Brief K L) (p : String) (message : ChatSend) :
    (σ.handleChatSend env p message).Brief K L := by
  have herror : ∀ error, (σ.sendError p error).Brief K L := fun error =>
    h.of_redis (speaks_sendTo (P := fun _ => True) σ fun _ => trivial).redis
  have hbroadcast : ∀ ids envelope, (σ.broadcast ids envelope).Brief K L :=
    fun ids envelope =>
      h.of_redis (speaks_broadcast (P := fun _ => True) σ fun _ => trivial).redis
  unfold ChatServer.handleChatSend
  split
  · exact h
  split
  · exact herror _
  unfold deliver
  simp only
  split
  · split
    · exact hbroadcast _ _
    · exact herror _
  · split
    · exact herror _
    · refine saveToHistory hanswered hL ?_ _ _
      unfold broadcastToSession
      split
      · exact h
      · exact hbroadcast _ _
  · split
    · exact herror _
    split
    · exact h.of_redis ((speaks_sendTo (P := fun _ => True) σ fun _ => trivial).trans
        (speaks_sendTo _ fun _ => trivial)).redis
    · exact herror _
  · exact herror _

theorem rateLimit (hanswered : ∀ n, env.outcome n = .answered) (hL : env.Lasts L)
    (h : σ.Brief K L) (s : SessionPtr) : (σ.rateLimit env s).2.Brief K L := by
  unfold ChatServer.rateLimit
  split
  · exact h
  next limiter hlimiter =>
  have hcounted := RateLimiter.brief_allow hanswered (hL.window limiter hlimiter)
    (σ.sessions s).playerId h
  split
  · next heq =>
      rw [heq] at hcounted
      exact hcounted
  · next heq =>
      rw [heq] at hcounted
      exact hcounted

theorem processSend (hanswered : ∀ n, env.outcome n = .answered) (hL : env.Lasts L)
    (h : σ.Brief K L) (s : SessionPtr) (message : ChatSend) :
    (σ.processSend env s message).Brief K L := by
  have hcounted := h.rateLimit hanswered hL s
  unfold ChatServer.processSend
  split
  · split
    · next heq =>
        rw [heq] at hcounted
        exact hcounted.of_redis (speaks_send (P := fun _ => True) _ fun _ => trivial).redis
    · next heq =>
        rw [heq] at hcounted
        exact hcounted.handleChatSend hanswered hL _ message
  · exact h.of_redis (speaks_send (P := fun _ => True) _ fun _ => trivial).redis

/-- A step keeps Redis brief, where it answers. -/
theorem step (hanswered : ∀ n, env.outcome n = .answered) (hL : env.Lasts L)
    (httl : env.sessionTtl ≠ 0) (h : σ.Brief K L) {i : Input} (hstep : Step env σ i τ) :
    τ.Brief K L := by
  cases i with
  | connect s =>
      obtain ⟨-, rfl⟩ := Option.ite_some_none_eq_some.1 hstep
      exact h
  | message s envelope =>
      obtain ⟨-, rfl⟩ := Option.ite_some_none_eq_some.1 hstep
      cases envelope with
      | auth auth => exact h.handleAuth hanswered hL httl auth s
      | send message => exact h.processSend hanswered hL s message
      | _ => exact h
  | close s =>
      obtain ⟨hopen, rfl⟩ := Option.ite_some_none_eq_some.1 hstep
      exact h.of_redis (closeSession_spec (ChatSession.isOpen_iff.1 hopen).2).2.2.2
  | released s =>
      obtain ⟨-, rfl⟩ := Option.ite_some_none_eq_some.1 hstep
      exact h
  | internalMessage envelope =>
      obtain rfl := Option.some.inj hstep
      cases envelope with
      | sessionCreated message => exact h.handleSessionCreated hanswered hL httl message
      | sessionEnded message => exact h.handleSessionEnded hanswered message
      | _ => exact h
  | clock now =>
      obtain rfl := Option.some.inj hstep
      exact h
  | tick seconds =>
      obtain rfl := Option.some.inj hstep
      exact Redis.Keyspace.Brief.advance h seconds

end ChatServer.Brief

end Chat

end SosBackend
