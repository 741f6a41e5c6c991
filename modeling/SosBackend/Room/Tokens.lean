import SosBackend.Room.GameStart

/-!
# Entry tokens

A player who is started gets a token, and the game server asks for the player behind a
token once. Behind the server a token is an entry in Redis: it is written when a room
starts, under an identifier that has never been used, and it goes with its first valid
answer or when its time is over. `Issues` says of a step which tokens it hands out and that
every entry after it was there before or belongs to one of them.
-/

namespace SosBackend

namespace Room

open RoomServer

/-!
## Tokens behind the server
-/

/-- The clock of Redis. -/
def Backend.now (b : Backend) : ℕ := b.redis.store.now

/-- The entry of a token in Redis. -/
def Backend.tokenEntry (b : Backend) (token : String) : Option Redis.Entry :=
  b.redis.store.lookup ("token:" ++ token)

theorem token_ne_rate (token x : String) : "token:" ++ token ≠ "rate:" ++ x := by
  intro h
  have hlist := congrArg String.toList h
  simp [String.toList_append] at hlist

theorem token_ne_game_server (token x : String) : "token:" ++ token ≠ "game_server:" ++ x := by
  intro h
  have hlist := congrArg String.toList h
  simp [String.toList_append] at hlist

theorem token_injective {token token' : String} (h : "token:" ++ token = "token:" ++ token') :
    token = token' := by
  have hlist := congrArg String.toList h
  rw [String.toList_append, String.toList_append] at hlist
  exact String.toList_inj.1 (List.append_cancel_left hlist)

/-- No token is written, and the clock stands still. -/
structure KeepsTokens (b b' : Backend) : Prop where
  now : b'.now = b.now
  issued : b.uuidsIssued ≤ b'.uuidsIssued
  entries : ∀ t e, b'.tokenEntry t = some e → b.tokenEntry t = some e

namespace KeepsTokens

theorem refl (b : Backend) : KeepsTokens b b :=
  ⟨rfl, le_rfl, fun _ _ h => h⟩

theorem trans {b b' b'' : Backend} (h : KeepsTokens b b') (h' : KeepsTokens b' b'') :
    KeepsTokens b b'' where
  now := h'.now.trans h.now
  issued := h.issued.trans h'.issued
  entries t e ht := h.entries t e (h'.entries t e ht)

theorem of_redis {b b' : Backend} (hredis : b'.redis = b.redis)
    (hissued : b.uuidsIssued ≤ b'.uuidsIssued) : KeepsTokens b b' := by
  refine ⟨?_, hissued, ?_⟩
  · rw [Backend.now, hredis]
    rfl
  · intro t e ht
    rw [Backend.tokenEntry, hredis] at ht
    exact ht

variable {ρ : Type*} {env : Env} {f : ℕ → Option Redis.Entry → Option (ρ × Option Redis.Entry)}

/-- A command on a key that is not that of a token. -/
theorem redisCall {key : String} (hkey : ∀ t, "token:" ++ t ≠ key) (b : Backend) :
    KeepsTokens b (b.redisCall env (Redis.onKey key f)).2 where
  now := Redis.now_call b.redis
  issued := le_rfl
  entries t e ht := by
    rw [Backend.tokenEntry, Backend.redisCall, Redis.lookup_call_of_ne b.redis (hkey t)] at ht
    exact ht

/-- A command that reads a token or takes it away. -/
theorem redisCall_token {token : String} {b b' : Backend} {r : Option ρ}
    (hcall : b.redisCall env (Redis.onKey ("token:" ++ token) f) = (r, b'))
    (h : ∀ e, b'.tokenEntry token = some e → b.tokenEntry token = some e) :
    KeepsTokens b b' := by
  obtain ⟨-, rfl⟩ := Prod.mk.inj hcall
  refine ⟨Redis.now_call b.redis, le_rfl, fun t e ht => ?_⟩
  by_cases htoken : t = token
  · subst htoken
    exact h e ht
  · rw [Backend.tokenEntry, Redis.lookup_call_of_ne b.redis
      fun heq => htoken (token_injective heq)] at ht
    exact ht

theorem generateUuid (env : Env) (b : Backend) : KeepsTokens b (b.generateUuid env).2 :=
  of_redis rfl (Nat.le_succ _)

theorem sendToChat (message : Chat.ChatEnvelope) (b : Backend) :
    KeepsTokens b (b.sendToChat message) :=
  of_redis (redis_sendToChat message b) (uuidsIssued_sendToChat message b).ge

end KeepsTokens

/-!
## Validation
-/

variable {env : Env}

theorem redisCall_inv {ρ : Type*} {cmd : Redis.Command ρ} {b b' : Backend} {r : Option ρ}
    (hout : ∀ n, env.outcome n ≠ .unanswered) (h : b.redisCall env cmd = (r, b')) :
    (r = none ∧ b'.redis.store = b.redis.store) ∨
      ∃ a, r = some a ∧ cmd b.redis.store = some (a, b'.redis.store) := by
  obtain ⟨hr, rfl⟩ := Prod.mk.inj h
  exact Redis.call_inv (hout _) (Prod.ext hr rfl)

/-- Reading a token. -/
theorem redisCall_get {token : String} {b b' : Backend} {r : Option (Option String)}
    (hout : ∀ n, env.outcome n ≠ .unanswered)
    (h : b.redisCall env (Redis.get ("token:" ++ token)) = (r, b')) :
    KeepsTokens b b' ∧ ∀ t, b'.tokenEntry t = b.tokenEntry t := by
  have hentry : ∀ t, b'.tokenEntry t = b.tokenEntry t := by
    intro t
    rcases redisCall_inv hout h with ⟨-, hstore⟩ | ⟨a, -, hcmd⟩
    · rw [Backend.tokenEntry, hstore]
      rfl
    · exact Redis.lookup_get hcmd _
  refine ⟨KeepsTokens.redisCall_token h fun e he => ?_, hentry⟩
  rw [← hentry token]
  exact he

/-- Deleting a token. -/
theorem redisCall_del {token : String} {b b' : Backend} {r : Option Bool}
    (hout : ∀ n, env.outcome n ≠ .unanswered)
    (h : b.redisCall env (Redis.del ("token:" ++ token)) = (r, b')) :
    KeepsTokens b b' ∧ (r.isSome → b'.tokenEntry token = none) := by
  rcases redisCall_inv hout h with ⟨rfl, hstore⟩ | ⟨a, rfl, hcmd⟩
  · refine ⟨KeepsTokens.redisCall_token h fun e he => ?_, fun hsome => ?_⟩
    · rw [Backend.tokenEntry, hstore] at he
      exact he
    · cases hsome
  · have hnone : b'.tokenEntry token = none := Redis.lookup_del hcmd
    refine ⟨KeepsTokens.redisCall_token h fun e he => ?_, fun _ => hnone⟩
    rw [hnone] at he
    cases he

/-- Validating a token writes none. Where it has a result, the token had an entry whose text
it is, and is gone. -/
theorem validateToken_spec (hout : ∀ n, env.outcome n ≠ .unanswered) (token : String)
    (b : Backend) :
    KeepsTokens b (b.validateToken env token).2 ∧
      ∀ data, (b.validateToken env token).1 = some (some data) →
        (b.validateToken env token).2.tokenEntry token = none ∧
          ∃ e, b.tokenEntry token = some e ∧
            ∀ v t, e = ⟨.string v, t⟩ → env.parseToken v = some data := by
  unfold Backend.validateToken
  split
  · next hget =>
      refine ⟨(redisCall_get hout hget).1, fun data hdata => ?_⟩
      cases hdata
  · next hget =>
      refine ⟨(redisCall_get hout hget).1, fun data hdata => ?_⟩
      cases hdata
  next value b' hget =>
  have hread := (redisCall_get hout hget).1
  split
  · next hdel =>
      refine ⟨hread.trans (redisCall_del hout hdel).1, fun data hdata => ?_⟩
      cases hdata
  · next hdel =>
      obtain ⟨hkeeps, hgone⟩ := redisCall_del hout hdel
      refine ⟨hread.trans hkeeps, fun data hdata => ⟨hgone rfl, ?_⟩⟩
      rcases redisCall_inv hout hget with ⟨hnone, -⟩ | ⟨a, ha, hcmd⟩
      · cases hnone
      · cases ha
        obtain ⟨e, he⟩ := Redis.exists_of_get hcmd
        refine ⟨e, he, fun v t hv => ?_⟩
        rw [hv] at he
        rw [← Redis.string_of_get hcmd he]
        exact Option.some.inj hdata

/-!
## Steps that hand out no token
-/

/-- No token is written, and no game server is answered. -/
structure LeavesTokens (σ τ : RoomServer) : Prop where
  tokens : KeepsTokens σ.backend τ.backend
  replies : τ.replies = σ.replies

namespace LeavesTokens

variable {σ τ υ : RoomServer}

theorem of_eq (hbackend : τ.backend = σ.backend) (hreplies : τ.replies = σ.replies) :
    LeavesTokens σ τ := by
  refine ⟨?_, hreplies⟩
  rw [hbackend]
  exact KeepsTokens.refl _

theorem refl (σ : RoomServer) : LeavesTokens σ σ :=
  of_eq rfl rfl

theorem trans (h : LeavesTokens σ τ) (h' : LeavesTokens τ υ) : LeavesTokens σ υ :=
  ⟨h.tokens.trans h'.tokens, h'.replies.trans h.replies⟩

/-- The store of rooms, the sessions and what has been sent to clients do not matter. -/
theorem after (h : LeavesTokens σ τ) (hbackend : υ.backend = τ.backend)
    (hreplies : υ.replies = τ.replies) : LeavesTokens σ υ :=
  h.trans (of_eq hbackend hreplies)

theorem eraseRoom (h : LeavesTokens σ τ) (r : String) : LeavesTokens σ (τ.eraseRoom r) :=
  h.after rfl rfl

theorem updateClient (h : LeavesTokens σ τ) (s : SessionPtr)
    (f : ClientSession → ClientSession) : LeavesTokens σ (τ.updateClient s f) :=
  h.after rfl rfl

theorem foldl {α : Type*} {f : RoomServer → α → RoomServer} (h : LeavesTokens σ τ)
    (hf : ∀ σ a, LeavesTokens σ (f σ a)) (l : List α) : LeavesTokens σ (l.foldl f τ) := by
  induction l generalizing τ with
  | nil => exact h
  | cons a l ih =>
      rw [List.foldl_cons]
      exact ih (h.trans (hf τ a))

theorem sendTo (h : LeavesTokens σ τ) (p : String) (envelope : Envelope) :
    LeavesTokens σ (τ.sendTo p envelope) := by
  rw [RoomServer.sendTo]
  cases τ.lock p with
  | none => exact h
  | some s => exact h.after rfl rfl

theorem broadcast (h : LeavesTokens σ τ) (ids : List String) (envelope : Envelope) :
    LeavesTokens σ (τ.broadcast ids envelope) :=
  h.foldl (fun υ p => sendTo (refl υ) p envelope) ids

theorem notify (h : LeavesTokens σ τ) : LeavesTokens σ τ.notifyRoomListChanged := by
  rw [notifyRoomListChanged]
  split
  · exact h
  · split
    · exact h
    · exact h.after rfl rfl

theorem returnToLobby (h : LeavesTokens σ τ) (p : String) :
    LeavesTokens σ (τ.returnToLobby p) := by
  rw [RoomServer.returnToLobby]
  cases τ.lock p with
  | none => exact h
  | some s => exact h.after rfl rfl

theorem evictPlayers (h : LeavesTokens σ τ) (ids : List String) :
    LeavesTokens σ (τ.evictPlayers ids) := by
  apply h.foldl
  intro υ p
  exact after (returnToLobby (refl υ) p) rfl rfl

theorem removeRoom (h : LeavesTokens σ τ) (r p : String) :
    LeavesTokens σ (τ.removeRoom r p) := by
  rw [RoomServer.removeRoom]
  cases τ.manager.rooms.find? r with
  | none => exact h
  | some room => exact eraseRoom (evictPlayers (broadcast h _ _) _) r

theorem withBackend (h : LeavesTokens σ τ) {f : Backend → Backend}
    (hf : KeepsTokens τ.backend (f τ.backend)) : LeavesTokens σ (τ.withBackend f) :=
  h.trans ⟨hf, rfl⟩

theorem beginSession (h : LeavesTokens σ τ) (env : Env) (sid : String) :
    LeavesTokens σ (τ.beginSession env sid) := by
  unfold RoomServer.beginSession
  split
  · apply h.withBackend
    exact KeepsTokens.redisCall (fun t => (activeSessionsKey_ne_token t).symm) _
  · exact h

theorem announceSession (h : LeavesTokens σ τ) (env : Env) (sid : String) (room : Room) :
    LeavesTokens σ (τ.announceSession env sid room) := by
  unfold RoomServer.announceSession
  split
  · exact h.withBackend (KeepsTokens.sendToChat _ _)
  · exact h

theorem endSession (h : LeavesTokens σ τ) (env : Env) (sid : String) :
    LeavesTokens σ (τ.endSession env sid) := by
  have hredis : LeavesTokens σ (if env.sessionStore.isSome then
      τ.withBackend (Backend.unregisterGameSession env sid) else τ) := by
    split
    · apply h.withBackend
      exact KeepsTokens.redisCall (fun t => (activeSessionsKey_ne_token t).symm) _
    · exact h
  unfold RoomServer.endSession
  simp only
  split
  · exact hredis.withBackend (KeepsTokens.sendToChat _ _)
  · exact hredis

theorem handleCreateRoom (env : Env) (request : CreateRoomRequest) (s : SessionPtr)
    (σ : RoomServer) : LeavesTokens σ (σ.handleCreateRoom env request s) := by
  unfold RoomServer.handleCreateRoom
  cases σ.createRejection env request s with
  | some reject => exact of_eq rfl rfl
  | none =>
      have hdraw : LeavesTokens σ { σ with backend := (σ.backend.generateUuid env).2 } :=
        ⟨KeepsTokens.generateUuid env _, rfl⟩
      apply notify
      exact hdraw.after rfl rfl

theorem handleJoinRoom (request : JoinRoomRequest) (s : SessionPtr) (σ : RoomServer) :
    LeavesTokens σ (σ.handleJoinRoom request s) := by
  unfold RoomServer.handleJoinRoom
  cases σ.joinableRoom request s with
  | error reject => exact of_eq rfl rfl
  | ok room =>
      apply notify
      apply broadcast
      exact of_eq rfl rfl

theorem handleLeaveRoom (h : LeavesTokens σ τ) (p : String) :
    LeavesTokens σ (τ.handleLeaveRoom p) := by
  unfold RoomServer.handleLeaveRoom
  split
  · exact h
  split
  · exact h.after rfl rfl
  apply notify
  split
  · apply removeRoom
    exact h.after rfl rfl
  · split
    · apply broadcast
      exact h.after rfl rfl
    · exact h.after rfl rfl

theorem handleDisconnect (h : LeavesTokens σ τ) (p : String) :
    LeavesTokens σ (τ.handleDisconnect p) :=
  (handleLeaveRoom h p).after rfl rfl

theorem handleToggleReady (p : String) (σ : RoomServer) :
    LeavesTokens σ (σ.handleToggleReady p) := by
  unfold RoomServer.handleToggleReady
  split
  · exact refl σ
  split
  · exact refl σ
  split
  · exact refl σ
  · apply broadcast
    exact of_eq rfl rfl

theorem handleSlotReleased (env : Env) (p sid : String) (σ : RoomServer) :
    LeavesTokens σ (σ.handleSlotReleased env p sid) := by
  unfold RoomServer.handleSlotReleased
  split
  · exact refl σ
  split
  · exact of_eq rfl rfl
  split
  · exact refl σ
  have hlobby : LeavesTokens σ (σ.returnToLobby p) := returnToLobby (refl σ) p
  simp only
  split
  · apply eraseRoom
    apply endSession
    exact hlobby.after rfl rfl
  · exact hlobby.after rfl rfl

theorem endGame (env : Env) (σ : RoomServer) (r : String) :
    LeavesTokens σ (σ.endGame env r) := by
  unfold RoomServer.endGame
  split
  · exact refl σ
  · exact eraseRoom (evictPlayers (endSession (broadcast (refl σ) _ _) env _) _) r

theorem closeClient (h : LeavesTokens σ τ) (s : SessionPtr) :
    LeavesTokens σ (τ.closeClient s) := by
  unfold RoomServer.closeClient
  split
  · exact h
  simp only
  split
  · apply updateClient
    apply handleDisconnect
    exact h.after rfl rfl
  · exact h.after rfl rfl

theorem closeGameServer (env : Env) (k : SessionPtr) (σ : RoomServer) :
    LeavesTokens σ (σ.closeGameServer env k) := by
  unfold RoomServer.closeGameServer
  split
  · exact refl σ
  simp only
  split
  · have hclose : LeavesTokens σ (σ.updateGameServer k fun g => { g with closed := true }) :=
      of_eq rfl rfl
    exact hclose.foldl (endGame env) _
  · exact of_eq rfl rfl

theorem rateLimit (env : Env) (s : SessionPtr) (σ : RoomServer) :
    LeavesTokens σ (σ.rateLimit env s).2 := by
  unfold RoomServer.rateLimit
  split
  · exact refl σ
  next limiter hlimiter =>
  have hallow : LeavesTokens σ
      { σ with backend := (σ.backend.allow env limiter (σ.clients s).remoteIp).2 } := by
    obtain ⟨hnow, hlookup⟩ := limiter.store_allow env.outcome (σ.clients s).remoteIp
      σ.backend.redis
    refine ⟨⟨hnow, le_rfl, fun t e ht => ?_⟩, rfl⟩
    rw [← ht]
    refine (hlookup _ ?_).symm
    rw [env.keyPrefix_rateLimiter limiter hlimiter]
    exact token_ne_rate t _
  split
  · next heq =>
      rw [heq] at hallow
      exact hallow
  · next heq =>
      rw [heq] at hallow
      exact hallow

theorem lobbyTimerHandler (cancelled : Bool) (σ : RoomServer) :
    LeavesTokens σ (σ.lobbyTimerHandler cancelled) := by
  unfold RoomServer.lobbyTimerHandler
  cases cancelled with
  | true => exact of_eq rfl rfl
  | false =>
      simp only [Bool.false_eq_true, if_false]
      unfold broadcastRoomListToLobby
      split
      · exact of_eq rfl rfl
      · apply foldl
        · apply foldl
          · exact of_eq rfl rfl
          · intro υ s
            exact of_eq rfl rfl
        · intro υ s
          exact of_eq rfl rfl

end LeavesTokens

/-!
## Issuing
-/

/-- From `b` to `b'` the messages in `l` have been made for players, each with a token of
its own that has never been drawn before, and a new token in Redis is that of one of
them. -/
structure Issues (env : Env) (l : List (String × GameStart)) (b b' : Backend) : Prop where
  issued : b.uuidsIssued ≤ b'.uuidsIssued
  drawn : ∀ d ∈ l, ∃ n, b.uuidsIssued ≤ n ∧ n < b'.uuidsIssued ∧ d.2.authToken = env.uuid n
  nodup : (l.map fun d => d.2.authToken).Nodup
  entries : ∀ t e, b'.tokenEntry t = some e → b.tokenEntry t = some e ∨
    ∃ d ∈ l, d.2.authToken = t ∧ ∃ store ∈ env.sessionStore,
      e = ⟨.string (env.dumpToken ⟨d.1, d.2.sessionId⟩), some (b.now + store.tokenTtl)⟩

theorem KeepsTokens.issues (env : Env) {b b' : Backend} (h : KeepsTokens b b') :
    Issues env [] b b' where
  issued := h.issued
  drawn _ hd := absurd hd List.not_mem_nil
  nodup := List.nodup_nil
  entries t e ht := Or.inl (h.entries t e ht)

theorem Issues.append {l l' : List (String × GameStart)} {b b' b'' : Backend}
    (h : Issues env l b b') (hnow : b'.now = b.now) (h' : Issues env l' b' b'') :
    Issues env (l ++ l') b b'' := by
  refine ⟨h.issued.trans h'.issued, ?_, ?_, ?_⟩
  · intro d hd
    rcases List.mem_append.1 hd with hd | hd
    · obtain ⟨n, hn, hlt, htoken⟩ := h.drawn d hd
      exact ⟨n, hn, hlt.trans_le h'.issued, htoken⟩
    · obtain ⟨n, hn, hlt, htoken⟩ := h'.drawn d hd
      exact ⟨n, h.issued.trans hn, hlt, htoken⟩
  · rw [List.map_append]
    apply h.nodup.append h'.nodup
    -- the identifiers of the second part are drawn later
    intro token htoken htoken'
    obtain ⟨d, hd, rfl⟩ := List.mem_map.1 htoken
    obtain ⟨d', hd', heq⟩ := List.mem_map.1 htoken'
    obtain ⟨n, -, hn, hnd⟩ := h.drawn d hd
    obtain ⟨m, hm, -, hmd⟩ := h'.drawn d' hd'
    have huuid : env.uuid m = env.uuid n := by rw [← hmd, ← hnd, heq]
    exact absurd (env.uuid_injective huuid) (hn.trans_le hm).ne'
  · intro t e ht
    rcases h'.entries t e ht with ht | ⟨d, hd, htoken, store, hstore, he⟩
    · rcases h.entries t e ht with ht | ⟨d, hd, hrest⟩
      · exact Or.inl ht
      · exact Or.inr ⟨d, List.mem_append_left _ hd, hrest⟩
    · rw [hnow] at he
      exact Or.inr ⟨d, List.mem_append_right _ hd, htoken, store, hstore, he⟩

/-- A token is stored under a fresh identifier with its time to live, or the call throws and
no token is written. -/
theorem createToken_spec (hout : ∀ n, env.outcome n ≠ .unanswered) (store : SessionStore)
    (p sid : String) (b : Backend) :
    (b.createToken env store p sid).2.now = b.now ∧
      (b.createToken env store p sid).2.uuidsIssued = b.uuidsIssued + 1 ∧
      (((b.createToken env store p sid).1 = none ∧
          KeepsTokens b (b.createToken env store p sid).2) ∨
        (b.createToken env store p sid).1 = some (env.uuid b.uuidsIssued) ∧
          ∀ t e, (b.createToken env store p sid).2.tokenEntry t = some e →
            b.tokenEntry t = some e ∨ t = env.uuid b.uuidsIssued ∧
              e = ⟨.string (env.dumpToken ⟨p, sid⟩), some (b.now + store.tokenTtl)⟩) := by
  simp only [Backend.createToken, Backend.generateUuid]
  generalize hdraw : ({ b with uuidsIssued := b.uuidsIssued + 1 } : Backend) = b₁
  have hkeeps : KeepsTokens b b₁ := by
    rw [← hdraw]
    exact KeepsTokens.generateUuid env b
  have hissued : b₁.uuidsIssued = b.uuidsIssued + 1 := by rw [← hdraw]
  cases hcall : b₁.redisCall env (Redis.setex ("token:" ++ env.uuid b.uuidsIssued)
      (env.dumpToken ⟨p, sid⟩) store.tokenTtl) with
  | mk r b₂ =>
  have hnow : b₂.now = b₁.now := by
    obtain ⟨-, rfl⟩ := Prod.mk.inj hcall
    exact Redis.now_call b₁.redis
  have hissued₂ : b₂.uuidsIssued = b₁.uuidsIssued := uuidsIssued_redisCall hcall
  rcases redisCall_inv hout hcall with ⟨rfl, hstore⟩ | ⟨a, rfl, hcmd⟩
  · refine ⟨hnow.trans hkeeps.now, hissued₂.trans hissued, Or.inl ⟨rfl, hkeeps.trans ?_⟩⟩
    refine ⟨hnow, hissued₂.ge, fun t e ht => ?_⟩
    rw [Backend.tokenEntry, hstore] at ht
    exact ht
  · refine ⟨hnow.trans hkeeps.now, hissued₂.trans hissued, Or.inr ⟨rfl, fun t e ht => ?_⟩⟩
    by_cases htoken : t = env.uuid b.uuidsIssued
    · subst htoken
      have hentry : b₂.tokenEntry (env.uuid b.uuidsIssued) = some
          ⟨.string (env.dumpToken ⟨p, sid⟩), some (b₁.now + store.tokenTtl)⟩ :=
        Redis.lookup_setex hcmd
      rw [hentry, hkeeps.now] at ht
      exact Or.inr ⟨rfl, (Option.some.inj ht).symm⟩
    · apply Or.inl
      apply hkeeps.entries
      rw [← ht]
      exact (Redis.lookup_onKey_of_ne hcmd fun heq => htoken (token_injective heq)).symm

/-- What one round of the loop over the players of a room that starts hands to `sendTo`. -/
def gameStart (env : Env) (sessionId authToken : String) : GameStart where
  sessionId := sessionId
  authToken := authToken
  gameServerHost := env.gameServerHost
  gameServerPort := env.gameServerPort.toUInt32

theorem issues_issueToken (hout : ∀ n, env.outcome n ≠ .unanswered) (p sid : String)
    (b : Backend) :
    (issueToken env p sid b).2.now = b.now ∧
      Issues env [(p, gameStart env sid (issueToken env p sid b).1)] b
        (issueToken env p sid b).2 := by
  have hfresh : ∀ b₁ : Backend, KeepsTokens b b₁ → (b₁.generateUuid env).2.now = b.now ∧
      Issues env [(p, gameStart env sid (b₁.generateUuid env).1)] b
        (b₁.generateUuid env).2 := by
    intro b₁ hkeeps
    have hdraw := hkeeps.trans (KeepsTokens.generateUuid env b₁)
    refine ⟨hdraw.now, hdraw.issued, fun d hd => ?_, List.nodup_singleton _,
      fun t e ht => Or.inl (hdraw.entries t e ht)⟩
    rw [List.mem_singleton.1 hd]
    exact ⟨b₁.uuidsIssued, hkeeps.issued, Nat.lt_succ_self _, rfl⟩
  unfold issueToken
  cases hstore : env.sessionStore with
  | none => exact hfresh b (KeepsTokens.refl b)
  | some store =>
      obtain ⟨hnow, hissued, hcreated⟩ := createToken_spec hout store p sid b
      simp only
      split
      · next token b₁ hcreate =>
          rw [hcreate] at hnow hissued hcreated
          rcases hcreated with ⟨hnone, -⟩ | ⟨htoken, hentries⟩
          · cases hnone
          cases htoken
          refine ⟨hnow, Nat.le_of_lt (hissued ▸ Nat.lt_succ_self _), fun d hd => ?_,
            List.nodup_singleton _, fun t e ht => ?_⟩
          · rw [List.mem_singleton.1 hd]
            exact ⟨b.uuidsIssued, le_rfl, hissued ▸ Nat.lt_succ_self _, rfl⟩
          · rcases hentries t e ht with ht | ⟨rfl, rfl⟩
            · exact Or.inl ht
            · exact Or.inr ⟨_, List.mem_singleton_self _, rfl, store, hstore, rfl⟩
      · next b₁ hcreate =>
          rw [hcreate] at hcreated
          rcases hcreated with ⟨-, hkeeps⟩ | ⟨htoken, -⟩
          · exact hfresh b₁ hkeeps
          · cases htoken

/-- What the loop over the players of a room that starts hands to `sendTo`, with the player
each message is for, and what it leaves behind the server. -/
def gameStarts (env : Env) (sessionId : String) :
    List String → Backend → List (String × GameStart) × Backend
  | [], b => ([], b)
  | p :: ids, b =>
      let (authToken, b) := issueToken env p sessionId b
      let (rest, b) := gameStarts env sessionId ids b
      ((p, gameStart env sessionId authToken) :: rest, b)

theorem issues_gameStarts (hout : ∀ n, env.outcome n ≠ .unanswered) (sid : String)
    (ids : List String) (b : Backend) :
    (gameStarts env sid ids b).2.now = b.now ∧
      Issues env (gameStarts env sid ids b).1 b (gameStarts env sid ids b).2 := by
  induction ids generalizing b with
  | nil => exact ⟨rfl, (KeepsTokens.refl b).issues env⟩
  | cons p ids ih =>
      obtain ⟨hnow, hfirst⟩ := issues_issueToken hout p sid b
      obtain ⟨hnow', hrest⟩ := ih (issueToken env p sid b).2
      exact ⟨hnow'.trans hnow, hfirst.append hnow hrest⟩

theorem mem_gameStarts {sid : String} {ids : List String} {b : Backend}
    {d : String × GameStart} (h : d ∈ (gameStarts env sid ids b).1) :
    d.1 ∈ ids ∧ d.2.sessionId = sid := by
  induction ids generalizing b with
  | nil => exact absurd h List.not_mem_nil
  | cons p ids ih =>
      rcases List.mem_cons.1 h with rfl | h
      · exact ⟨List.mem_cons_self, rfl⟩
      · obtain ⟨hmem, hsid⟩ := ih h
        exact ⟨List.mem_cons_of_mem p hmem, hsid⟩

theorem backend_sendGameStarts (env : Env) (sid : String) (ids : List String)
    (σ : RoomServer) :
    (ids.foldl (sendGameStart env sid) σ).backend = (gameStarts env sid ids σ.backend).2 := by
  induction ids generalizing σ with
  | nil => rfl
  | cons p ids ih =>
      rw [List.foldl_cons, ih]
      simp only [sendGameStart, backend_sendTo, gameStarts]

theorem lock_sendGameStart (env : Env) (sid : String) (σ : RoomServer) (p q : String) :
    (sendGameStart env sid σ p).lock q = σ.lock q := by
  simp only [sendGameStart, sendTo]
  split
  · rfl
  · rfl

theorem replies_sendGameStarts (env : Env) (sid : String) (ids : List String) (σ : RoomServer) :
    (ids.foldl (sendGameStart env sid) σ).replies = σ.replies := by
  induction ids generalizing σ with
  | nil => rfl
  | cons p ids ih =>
      rw [List.foldl_cons, ih]
      exact (LeavesTokens.sendTo (LeavesTokens.refl _) p _).replies

/-- Who has a live session is sent what is made for it. -/
theorem sent_sendGameStarts {sid : String} {ids : List String} {σ : RoomServer}
    {d : String × GameStart} {s : SessionPtr}
    (hd : d ∈ (gameStarts env sid ids σ.backend).1) (hs : σ.lock d.1 = some s) :
    ⟨s, some d.1, .gameStart d.2⟩ ∈ (ids.foldl (sendGameStart env sid) σ).sent := by
  induction ids generalizing σ with
  | nil => exact absurd hd List.not_mem_nil
  | cons p ids ih =>
      rw [List.foldl_cons]
      rcases List.mem_cons.1 hd with rfl | hd
      · have hrest : Emits (fun _ => True) (sendGameStart env sid σ p)
            (ids.foldl (sendGameStart env sid) (sendGameStart env sid σ p)) :=
          emits_sendGameStarts (Emits.refl _) fun _ _ _ _ _ => trivial
        apply hrest.subset
        have hlock : RoomServer.lock { σ with backend := (issueToken env p sid σ.backend).2 } p =
            some s := hs
        simp only [sendGameStart, sendTo, hlock]
        exact List.mem_append_right _ List.mem_cons_self
      · apply ih
        · simp only [sendGameStart, backend_sendTo]
          exact hd
        · rw [lock_sendGameStart]
          exact hs

/-- A game start that is sent to a player is one made for it. -/
def SendsOf (l : List (String × GameStart)) (d : Delivery) : Prop :=
  ∀ game, d.envelope = .gameStart game → ∃ p, d.addressee = some p ∧ (p, game) ∈ l

theorem emits_gameStarts {sid : String} {ids : List String} {l : List (String × GameStart)}
    {σ τ : RoomServer} (h : Emits (SendsOf l) σ τ)
    (hl : ∀ d ∈ (gameStarts env sid ids τ.backend).1, d ∈ l) :
    Emits (SendsOf l) σ (ids.foldl (sendGameStart env sid) τ) := by
  induction ids generalizing τ with
  | nil => exact h
  | cons p ids ih =>
      rw [List.foldl_cons]
      apply ih
      · simp only [sendGameStart]
        have hbackend : Emits (SendsOf l) σ
            { τ with backend := (issueToken env p sid τ.backend).2 } :=
          h.trans (Emits.of_sent_eq rfl)
        apply hbackend.sendTo
        intro s game hgame
        cases hgame
        exact ⟨p, rfl, hl _ List.mem_cons_self⟩
      · intro d hd
        simp only [sendGameStart, backend_sendTo] at hd
        exact hl d (List.mem_cons_of_mem _ hd)

/-!
## Steps
-/

/-- The messages that `handleStartGame` hands to `sendTo`, with the players they are for. -/
def RoomServer.addressed (env : Env) (σ : RoomServer) (playerId : String) :
    List (String × GameStart) :=
  match σ.manager.playerToRoom.find? playerId with
  | none => []
  | some roomId =>
      match σ.manager.rooms.find? roomId with
      | none => []
      | some room =>
          match σ.startRejection room playerId with
          | some _ => []
          | none =>
              let (sessionId, backend) := σ.backend.generateUuid env
              let σ := { σ with backend := backend }
              let room := (room.setState .inGame).setSessionId sessionId
              let σ := σ.modifyRoom roomId fun _ => room
              let σ := σ.beginSession env sessionId
              (gameStarts env sessionId room.playerIds σ.backend).1

/-- The messages that a step hands to `sendTo` in `handleStartGame`. -/
def RoomServer.addressedBy (env : Env) (σ : RoomServer) : Input → List (String × GameStart)
  | .clientMessage s .startGame =>
      match σ.rateLimit env s with
      | (false, _) => []
      | (true, σ) =>
          if (σ.clients s).playerId != "" then σ.addressed env (σ.clients s).playerId else []
  | _ => []

/-- In the step from `σ` to `τ` a message is handed to `sendTo` for a player on the roster of
the room with the session of the message; it is sent where the player has a live session. -/
structure Addresses (env : Env) (p : String) (game : GameStart) (σ : RoomServer) (i : Input)
    (τ : RoomServer) : Prop where
  made : (p, game) ∈ σ.addressedBy env i
  roster : ∃ r room, τ.manager.rooms.find? r = some room ∧ room.state = .inGame ∧
    room.sessionId = game.sessionId ∧ room.hasPlayer p = true
  sent : ∀ s, σ.lock p = some s → ⟨s, some p, .gameStart game⟩ ∈ τ.sent

/-- What a call of `handleStartGame` does with tokens. -/
structure Starts (env : Env) (l : List (String × GameStart)) (σ τ : RoomServer) : Prop where
  issues : Issues env l σ.backend τ.backend
  replies : τ.replies = σ.replies
  roster : ∀ d ∈ l, ∃ r room, τ.manager.rooms.find? r = some room ∧ room.state = .inGame ∧
    room.sessionId = d.2.sessionId ∧ room.hasPlayer d.1 = true
  sent : ∀ d ∈ l, ∀ s, σ.lock d.1 = some s → ⟨s, some d.1, .gameStart d.2⟩ ∈ τ.sent
  emits : Emits (SendsOf l) σ τ

theorem LeavesTokens.starts {σ τ : RoomServer} (h : LeavesTokens σ τ)
    (hsent : Emits (SendsOf []) σ τ) : Starts env [] σ τ where
  issues := h.tokens.issues env
  replies := h.replies
  roster _ hd := absurd hd List.not_mem_nil
  sent _ hd := absurd hd List.not_mem_nil
  emits := hsent

theorem starts_startRoom (hout : ∀ n, env.outcome n ≠ .unanswered) {σ : RoomServer}
    {p r : String} {room : Room} (hp : σ.manager.playerToRoom.find? p = some r)
    (hroom : σ.manager.rooms.find? r = some room) (hpass : σ.startRejection room p = none) :
    Starts env (σ.addressed env p) σ (σ.startRoom env r room) := by
  have hact : Act env σ.registry (.start p r (env.uuid σ.backend.uuidsIssued))
      (σ.startRoom env r room).registry := (effect_startRoom hp hroom hpass).act
  obtain ⟨-, -, -, room', hroom', hstarted⟩ := hact.start_inv
  cases hroom.symm.trans hroom'
  simp only [addressed, hp, hroom, hpass]
  simp only [startRoom, Backend.generateUuid] at hstarted ⊢
  generalize env.uuid σ.backend.uuidsIssued = sid at *
  generalize hids : ((room.setState .inGame).setSessionId sid).playerIds = ids at *
  -- up to the loop no token is drawn
  generalize hσ₂ : RoomServer.beginSession env sid _ = σ₂ at *
  have hbefore : LeavesTokens σ σ₂ := by
    rw [← hσ₂]
    apply LeavesTokens.beginSession
    exact ⟨KeepsTokens.of_redis rfl (Nat.le_succ _), rfl⟩
  have hlock : ∀ q, σ₂.lock q = σ.lock q := by
    intro q
    rw [← hσ₂, beginSession]
    split
    · rfl
    · rfl
  have hsent₂ : σ₂.sent = σ.sent := by
    rw [← hσ₂]
    exact (beginSession_spec env sid _).2.1
  -- the loop
  obtain ⟨hnow, hissues⟩ := issues_gameStarts hout sid ids σ₂.backend
  have hloop := backend_sendGameStarts env sid ids σ₂
  have hreplies := replies_sendGameStarts env sid ids σ₂
  generalize hσ₃ : ids.foldl (sendGameStart env sid) σ₂ = σ₃ at *
  -- and behind it none either
  have hafter : LeavesTokens σ₃ ((σ₃.announceSession env sid
      ((room.setState .inGame).setSessionId sid)).notifyRoomListChanged) :=
    LeavesTokens.notify (LeavesTokens.announceSession (LeavesTokens.refl σ₃) env sid _)
  have hemits : Emits (fun _ => False) σ₃ ((σ₃.announceSession env sid
      ((room.setState .inGame).setSessionId sid)).notifyRoomListChanged) :=
    Emits.notify (Emits.of_sent_eq (announceSession_spec env sid _ σ₃).2.1)
  constructor
  · rw [← hloop] at hnow hissues
    have hstart := (hbefore.tokens.issues env).append hbefore.tokens.now hissues
    have hall := hstart.append (hnow.trans hbefore.tokens.now) (hafter.tokens.issues env)
    rw [List.nil_append, List.append_nil] at hall
    exact hall
  · exact hafter.replies.trans (hreplies.trans hbefore.replies)
  · intro d hd
    obtain ⟨hmem, hsid⟩ := mem_gameStarts hd
    refine ⟨r, _, hstarted, rfl, hsid.symm, ?_⟩
    rw [Room.hasPlayer_iff]
    exact hids ▸ hmem
  · intro d hd s hs
    apply hemits.subset
    rw [← hσ₃]
    apply sent_sendGameStarts hd
    rw [hlock]
    exact hs
  · have hemits₃ : Emits (SendsOf (gameStarts env sid ids σ₂.backend).1) σ σ₃ := by
      rw [← hσ₃]
      exact emits_gameStarts (Emits.of_sent_eq hsent₂) fun d hd => hd
    exact hemits₃.trans (hemits.mono fun d hd => absurd hd id)

theorem starts_handleStartGame (hout : ∀ n, env.outcome n ≠ .unanswered) (p : String)
    (σ : RoomServer) : Starts env (σ.addressed env p) σ (σ.handleStartGame env p) := by
  cases hp : σ.manager.playerToRoom.find? p with
  | none =>
      simp only [handleStartGame, addressed, hp]
      exact (LeavesTokens.refl σ).starts (Emits.refl σ)
  | some r =>
  cases hroom : σ.manager.rooms.find? r with
  | none =>
      simp only [handleStartGame, addressed, hp, hroom]
      exact (LeavesTokens.refl σ).starts (Emits.refl σ)
  | some room =>
  cases hreject : σ.startRejection room p with
  | some reject =>
      simp only [handleStartGame, addressed, hp, hroom, hreject]
      apply (LeavesTokens.sendTo (LeavesTokens.refl σ) p _).starts
      apply (Emits.refl σ).sendTo
      intro s game hgame
      cases hgame
  | none =>
      have hstart := starts_startRoom hout hp hroom hreject
      simp only [handleStartGame, hp, hroom, hreject]
      exact hstart

/-- The rate limiter in front of a handler changes nothing that matters. -/
theorem Starts.before {l : List (String × GameStart)} {σ τ : RoomServer} {b : Backend}
    (hb : LeavesTokens σ { σ with backend := b }) (h : Starts env l { σ with backend := b } τ) :
    Starts env l σ τ where
  issues := (hb.tokens.issues env).append hb.tokens.now h.issues
  replies := h.replies
  roster := h.roster
  sent := h.sent
  emits := h.emits

/-- Only the change that starts a room sends game starts. -/
theorem emits_of_effect {σ τ : RoomServer} {a : Action} (h : Effect env σ a τ)
    (ha : ∀ p r sid, a ≠ .start p r sid) : Emits (SendsOf []) σ τ := by
  apply h.sent.mono
  intro d hd game hgame
  rw [Action.Sends, hgame] at hd
  obtain ⟨p, r, room, q, hstart, -⟩ := hd
  exact absurd hstart (ha p r _)

theorem sends_closeClient (env : Env) (s : SessionPtr) (σ : RoomServer) :
    Emits (SendsOf []) σ (σ.closeClient s) := by
  apply emits_closeClient
  obtain ⟨a, heffect, ha⟩ :=
    effect_handleLeaveRoom env (σ.clients s).playerId (σ.shutClient s)
  apply emits_of_effect heffect
  rintro p r sid rfl
  rcases ha with ⟨heq, -⟩ | heq | ⟨r', heq⟩ | ⟨r', heq⟩
  · cases heq
  · cases heq
  · cases heq
  · cases heq

theorem starts_processMessage (hout : ∀ n, env.outcome n ≠ .unanswered) (s : SessionPtr)
    (σ : RoomServer) : Starts env (σ.addressedBy env (.clientMessage s .startGame)) σ
      (σ.processMessage env s .startGame) := by
  have hlimiter := LeavesTokens.rateLimit env s σ
  obtain ⟨b, hb, -⟩ := rateLimit_spec env s σ
  simp only [processMessage, addressedBy]
  cases hlimit : σ.rateLimit env s with
  | mk allowed x =>
  rw [hlimit] at hlimiter hb
  cases (hb : x = { σ with backend := b })
  cases allowed with
  | false =>
      simp only
      have hleaves : LeavesTokens σ (RoomServer.closeClient s (RoomServer.send
          { σ with backend := b } s none (.reject ⟨.rateLimited, "Too many requests"⟩))) := by
        apply LeavesTokens.closeClient
        exact hlimiter.after rfl rfl
      apply hleaves.starts
      have hreject : Emits (SendsOf []) σ (RoomServer.send { σ with backend := b } s none
          (.reject ⟨.rateLimited, "Too many requests"⟩)) := by
        apply Emits.send (Emits.refl σ)
        intro game hgame
        cases hgame
      exact hreject.trans (sends_closeClient env s _)
  | true =>
      apply Starts.before hlimiter
      simp only [dispatch]
      split
      · exact starts_handleStartGame hout _ _
      · exact (LeavesTokens.refl _).starts (Emits.refl _)

theorem LeavesTokens.processMessage {envelope : Envelope} (hother : envelope ≠ .startGame)
    (env : Env) (s : SessionPtr) (σ : RoomServer) :
    LeavesTokens σ (σ.processMessage env s envelope) := by
  have hlimiter := LeavesTokens.rateLimit env s σ
  unfold RoomServer.processMessage
  split
  · next heq =>
      rw [heq] at hlimiter
      apply closeClient
      exact hlimiter.after rfl rfl
  next x heq =>
  rw [heq] at hlimiter
  apply hlimiter.trans
  cases envelope with
  | createRoom request => exact handleCreateRoom env request s x
  | joinRoom request => exact handleJoinRoom request s x
  | leaveRoom =>
      simp only [dispatch]
      split
      · apply notify
        exact (handleLeaveRoom (refl x) _).after rfl rfl
      · exact refl x
  | toggleReady =>
      simp only [dispatch]
      split
      · exact handleToggleReady _ x
      · exact refl x
  | startGame => exact absurd rfl hother
  | roomListRequest request => exact of_eq rfl rfl
  | _ => exact refl x

/-- A step that is no start sends no game start. -/
theorem emits_of_run {σ x y : RoomServer} {i : Input} {as : List Action}
    (hrun : Run (Change env σ i) x as y) (hi : ∀ s, i ≠ .clientMessage s .startGame) :
    Emits (SendsOf []) x y := by
  refine hrun.relates Emits.refl (fun _ _ _ => Emits.trans) ?_
  intro x a y hchange
  apply emits_of_effect hchange.1
  rintro p r sid rfl
  obtain ⟨s, hs, -⟩ := hchange.2
  exact hi s hs

/-- The answer to a token request. -/
theorem handleTokenValidate_spec (hout : ∀ n, env.outcome n ≠ .unanswered) (token : String)
    (k : SessionPtr) (σ : RoomServer) :
    KeepsTokens σ.backend (σ.handleTokenValidate env token k).backend ∧
      (σ.handleTokenValidate env token k).sent = σ.sent ∧
      ((∃ data, (σ.handleTokenValidate env token k).replies = σ.replies ++
          [(k, .tokenValidateResponse
            { valid := true, playerId := data.playerId, sessionId := data.sessionId })] ∧
          (σ.handleTokenValidate env token k).backend.tokenEntry token = none ∧
          ∃ e, σ.backend.tokenEntry token = some e ∧
            ∀ v t, e = ⟨.string v, t⟩ → env.parseToken v = some data) ∨
        (σ.handleTokenValidate env token k).replies =
          σ.replies ++ [(k, .tokenValidateResponse { valid := false })]) := by
  obtain ⟨hkeeps, hvalid⟩ := validateToken_spec hout token σ.backend
  unfold handleTokenValidate
  split
  · next data b heq =>
      rw [heq] at hkeeps hvalid
      exact ⟨hkeeps, rfl, Or.inl ⟨data, rfl, hvalid data rfl⟩⟩
  · next r b heq =>
      rw [heq] at hkeeps
      exact ⟨hkeeps, rfl, Or.inr rfl⟩

theorem eq_of_tokenValidateRequest {σ τ : RoomServer} {k : SessionPtr} {token : String}
    (h : Step env σ (.gameServerMessage k (.tokenValidateRequest token)) τ) :
    τ = σ.handleTokenValidate env token k := by
  obtain ⟨store, -, -, rfl⟩ := h.gameServerMessage_inv
  rfl

/-- A step that is no token request issues the tokens of the messages it makes. -/
theorem starts_step (hout : ∀ n, env.outcome n ≠ .unanswered) {σ τ : RoomServer} {i : Input}
    (h : Step env σ i τ)
    (hi : ∀ k token, i ≠ .gameServerMessage k (.tokenValidateRequest token)) :
    Starts env (σ.addressedBy env i) σ τ := by
  obtain ⟨as, hrun⟩ := run_step h
  have hnone : (∀ s, i ≠ .clientMessage s .startGame) → LeavesTokens σ τ →
      Starts env [] σ τ :=
    fun hstart hleaves => hleaves.starts (emits_of_run hrun hstart)
  cases i with
  | connect s remoteIp =>
      obtain ⟨-, rfl⟩ := Option.ite_some_none_eq_some.1 h
      exact hnone (fun _ heq => by cases heq) (LeavesTokens.of_eq rfl rfl)
  | clientMessage s envelope =>
      obtain ⟨-, rfl⟩ := Option.ite_some_none_eq_some.1 h
      by_cases hstart : envelope = .startGame
      · subst hstart
        exact starts_processMessage hout s σ
      · have hmade : σ.addressedBy env (.clientMessage s envelope) = [] := by
          cases envelope with
          | startGame => exact absurd rfl hstart
          | _ => rfl
        rw [hmade]
        apply hnone
        · intro s' heq
          cases heq
          exact hstart rfl
        · exact LeavesTokens.processMessage hstart env s σ
  | clientClose s =>
      obtain ⟨-, rfl⟩ := Option.ite_some_none_eq_some.1 h
      exact hnone (fun _ heq => by cases heq)
        (LeavesTokens.closeClient (LeavesTokens.refl σ) s)
  | clientReleased s =>
      obtain ⟨-, rfl⟩ := Option.ite_some_none_eq_some.1 h
      exact hnone (fun _ heq => by cases heq) (LeavesTokens.of_eq rfl rfl)
  | gameServerConnect k =>
      obtain ⟨-, rfl⟩ := Option.ite_some_none_eq_some.1 h
      exact hnone (fun _ heq => by cases heq) (LeavesTokens.of_eq rfl rfl)
  | gameServerMessage k envelope =>
      apply hnone
      · intro s heq
        cases heq
      obtain ⟨store, -, -, rfl⟩ := h.gameServerMessage_inv
      cases envelope with
      | tokenValidateRequest token => exact absurd rfl (hi k token)
      | slotReleased p sid => exact LeavesTokens.handleSlotReleased env p sid σ
      | gameServerHeartbeat serverId activeSessions =>
          have hnamed : LeavesTokens σ
              (σ.updateGameServer k fun g => { g with serverId := serverId }) :=
            LeavesTokens.of_eq rfl rfl
          apply hnamed.withBackend
          exact KeepsTokens.redisCall (fun t => token_ne_game_server t serverId) _
      | _ => exact LeavesTokens.refl σ
  | gameServerClose k =>
      obtain ⟨-, rfl⟩ := Option.ite_some_none_eq_some.1 h
      exact hnone (fun _ heq => by cases heq) (LeavesTokens.closeGameServer env k σ)
  | lobbyTimer cancelled =>
      obtain ⟨-, rfl⟩ := Option.ite_some_none_eq_some.1 h
      exact hnone (fun _ heq => by cases heq) (LeavesTokens.lobbyTimerHandler cancelled σ)
  | chatLink connected =>
      obtain rfl := Option.some.inj h
      exact hnone (fun _ heq => by cases heq) ⟨KeepsTokens.of_redis rfl le_rfl, rfl⟩
  | tick seconds =>
      obtain rfl := Option.some.inj h
      refine ⟨⟨le_rfl, ?_, List.nodup_nil, fun t e ht => Or.inl ?_⟩, rfl, ?_, ?_, ?_⟩
      · exact fun d hd => absurd hd List.not_mem_nil
      · exact Redis.Keyspace.lookup_of_advance ht
      · exact fun d hd => absurd hd List.not_mem_nil
      · exact fun d hd => absurd hd List.not_mem_nil
      · exact Emits.of_sent_eq rfl

variable {σ τ : RoomServer} {i : Input}

theorem issues_step (hout : ∀ n, env.outcome n ≠ .unanswered) (h : Step env σ i τ) :
    Issues env (σ.addressedBy env i) σ.backend τ.backend := by
  by_cases hi : ∃ k token, i = .gameServerMessage k (.tokenValidateRequest token)
  · obtain ⟨k, token, rfl⟩ := hi
    rw [eq_of_tokenValidateRequest h]
    exact (handleTokenValidate_spec hout token k σ).1.issues env
  · exact (starts_step hout h fun k token heq => hi ⟨k, token, heq⟩).issues

theorem addresses_step (hout : ∀ n, env.outcome n ≠ .unanswered) (h : Step env σ i τ)
    {d : String × GameStart} (hd : d ∈ σ.addressedBy env i) : Addresses env d.1 d.2 σ i τ := by
  by_cases hi : ∃ k token, i = .gameServerMessage k (.tokenValidateRequest token)
  · obtain ⟨k, token, rfl⟩ := hi
    exact absurd hd List.not_mem_nil
  · have hstarts := starts_step hout h fun k token heq => hi ⟨k, token, heq⟩
    exact ⟨hd, hstarts.roster d hd, hstarts.sent d hd⟩

theorem emits_step (hout : ∀ n, env.outcome n ≠ .unanswered) (h : Step env σ i τ) :
    Appends (SendsOf (σ.addressedBy env i)) σ.sent τ.sent := by
  by_cases hi : ∃ k token, i = .gameServerMessage k (.tokenValidateRequest token)
  · obtain ⟨k, token, rfl⟩ := hi
    rw [eq_of_tokenValidateRequest h]
    exact Appends.of_eq (handleTokenValidate_spec hout token k σ).2.1
  · exact (starts_step hout h fun k token heq => hi ⟨k, token, heq⟩).emits

/-!
## Runs
-/

/-- The step from `σ` to `τ` is a request for the token, and it is answered once, with the
player and the session behind the token. -/
def AnswersValid (token p sid : String) (σ : RoomServer) (i : Input) (τ : RoomServer) : Prop :=
  ∃ k, i = .gameServerMessage k (.tokenValidateRequest token) ∧
    τ.replies = σ.replies ++ [(k, .tokenValidateResponse
      { valid := true, playerId := p, sessionId := sid })]

/-- After the run to `σ`: a token that has been accepted is not accepted again; who a token
is accepted for has been sent it in an earlier start of the session, not longer ago than it
lives; and no two messages that are sent carry the same token. -/
structure SoundTokens (env : Env) (store : Redis.Keyspace) (is : List Input) (σ : RoomServer) :
    Prop where
  once : ∀ i τ token p sid, Step env σ i τ → AnswersValid token p sid σ i τ →
    ¬ Occurs (Step env) (fun x j y => ∃ q sid', AnswersValid token q sid' x j y)
      (initial store) is σ
  sound : ∀ i τ token p sid, Step env σ i τ → AnswersValid token p sid σ i τ →
    ∃ sessions ∈ env.sessionStore, Occurs (Step env)
      (fun x j y => (∃ game, Addresses env p game x j y ∧ game.authToken = token ∧
        game.sessionId = sid) ∧ σ.backend.now < x.backend.now + sessions.tokenTtl)
      (initial store) is σ
  distinct : ∀ i τ p game, Step env σ i τ → Addresses env p game σ i τ →
    (∀ q game', Addresses env q game' σ i τ → game'.authToken = game.authToken →
      q = p ∧ game' = game) ∧
    ¬ Occurs (Step env) (fun x j y => ∃ q game', Addresses env q game' x j y ∧
      game'.authToken = game.authToken) (initial store) is σ
  sent : ∀ i τ, Step env σ i τ → ∀ d ∈ τ.sent.drop σ.sent.length, ∀ game,
    d.envelope = .gameStart game → ∃ p, d.addressee = some p ∧ Addresses env p game σ i τ
  answered : ∀ i τ, Step env σ i τ → ∀ a ∈ τ.replies.drop σ.replies.length, ∀ response,
    a.2 = .tokenValidateResponse response → response.valid = true →
      ∃ token, AnswersValid token response.playerId response.sessionId σ i τ

variable {store : Redis.Keyspace} {is : List Input}

/-- An entry in Redis has been made for a message of an earlier start. -/
theorem occurs_of_entry (hout : ∀ n, env.outcome n ≠ .unanswered)
    (hstore : ∀ token, store.lookup ("token:" ++ token) = none)
    (h : Run (Step env) (initial store) is σ) {token : String} {e : Redis.Entry}
    (he : σ.backend.tokenEntry token = some e) :
    ∃ p game n, ∃ sessions ∈ env.sessionStore,
      Occurs (Step env) (fun x j y => (Addresses env p game x j y ∧ game.authToken = token) ∧
        x.backend.now = n) (initial store) is σ ∧
      e = ⟨.string (env.dumpToken ⟨p, game.sessionId⟩), some (n + sessions.tokenTtl)⟩ := by
  induction h with
  | nil =>
      have hnone : (initial store).backend.tokenEntry token = none := hstore token
      rw [hnone] at he
      cases he
  | @snoc es x i y hrun hstep ih =>
      rcases (issues_step hout hstep).entries token e he with
        he | ⟨d, hd, htoken, sessions, hsessions, heq⟩
      · obtain ⟨p, game, n, sessions, hsessions, hoccurs, heq⟩ := ih he
        exact ⟨p, game, n, sessions, hsessions, Occurs.later hoccurs hstep, heq⟩
      · exact ⟨d.1, d.2, x.backend.now, sessions, hsessions,
          Occurs.now hrun hstep ⟨⟨addresses_step hout hstep hd, htoken⟩, rfl⟩, heq⟩

/-- The token of a message has been drawn. -/
theorem drawn_of_occurs (hout : ∀ n, env.outcome n ≠ .unanswered) {token : String}
    {s : RoomServer} (h : Occurs (Step env) (fun x j y => ∃ p game, Addresses env p game x j y ∧
      game.authToken = token) s is σ) :
    ∃ n < σ.backend.uuidsIssued, token = env.uuid n := by
  induction h with
  | now hrun hstep hmade =>
      obtain ⟨p, game, haddresses, rfl⟩ := hmade
      obtain ⟨n, -, hn, htoken⟩ := (issues_step hout hstep).drawn _ haddresses.made
      exact ⟨n, hn, htoken⟩
  | later _ hstep ih =>
      obtain ⟨n, hn, htoken⟩ := ih
      exact ⟨n, hn.trans_le (issues_step hout hstep).issued, htoken⟩

theorem AnswersValid.spec (hout : ∀ n, env.outcome n ≠ .unanswered) {token p sid : String}
    (hstep : Step env σ i τ) (h : AnswersValid token p sid σ i τ) :
    τ.backend.tokenEntry token = none ∧ ∃ e, σ.backend.tokenEntry token = some e ∧
      ∀ v t, e = ⟨.string v, t⟩ → env.parseToken v = some ⟨p, sid⟩ := by
  obtain ⟨k, rfl, hreplies⟩ := h
  obtain rfl := eq_of_tokenValidateRequest hstep
  obtain ⟨-, -, ⟨data, hvalid, hgone, hentry⟩ | hinvalid⟩ :=
    handleTokenValidate_spec hout token k σ
  · have hsame := List.append_cancel_left (hreplies.symm.trans hvalid)
    cases hsame
    exact ⟨hgone, hentry⟩
  · have hsame := List.append_cancel_left (hreplies.symm.trans hinvalid)
    cases hsame

/-- A token that has been accepted is gone for good: it is never drawn again. -/
theorem gone_of_occurs (hout : ∀ n, env.outcome n ≠ .unanswered)
    (hstore : ∀ token, store.lookup ("token:" ++ token) = none) {token : String}
    (h : Occurs (Step env) (fun x j y => ∃ p sid, AnswersValid token p sid x j y)
      (initial store) is σ) :
    σ.backend.tokenEntry token = none ∧ ∃ n < σ.backend.uuidsIssued, token = env.uuid n := by
  induction h with
  | now hrun hstep hanswers =>
      obtain ⟨p, sid, hanswers⟩ := hanswers
      obtain ⟨hgone, e, he, -⟩ := hanswers.spec hout hstep
      obtain ⟨q, game, m, sessions, -, hoccurs, -⟩ := occurs_of_entry hout hstore hrun he
      obtain ⟨n, hn, htoken⟩ := drawn_of_occurs hout
        (hoccurs.mono fun x j y hmade => ⟨q, game, hmade.1⟩)
      exact ⟨hgone, n, hn.trans_le (issues_step hout hstep).issued, htoken⟩
  | @later es x i y _ hstep ih =>
      obtain ⟨hgone, n, hn, htoken⟩ := ih
      have hissues := issues_step hout hstep
      refine ⟨?_, n, hn.trans_le hissues.issued, htoken⟩
      cases he : y.backend.tokenEntry token with
      | none => rfl
      | some e =>
          rcases hissues.entries token e he with he | ⟨d, hd, heq, -⟩
          · rw [hgone] at he
            cases he
          · obtain ⟨m, hm, -, hdrawn⟩ := hissues.drawn d hd
            have huuid : env.uuid m = env.uuid n := by rw [← hdrawn, heq, htoken]
            exact absurd (env.uuid_injective huuid) (hn.trans_le hm).ne'

/-- Only an answer to a token request is a valid one. -/
theorem answered_step (hout : ∀ n, env.outcome n ≠ .unanswered) (h : Step env σ i τ)
    {a : SessionPtr × Envelope} (ha : a ∈ τ.replies.drop σ.replies.length)
    {response : TokenValidateResponse} (hresponse : a.2 = .tokenValidateResponse response)
    (hvalid : response.valid = true) :
    ∃ token, AnswersValid token response.playerId response.sessionId σ i τ := by
  by_cases hi : ∃ k token, i = .gameServerMessage k (.tokenValidateRequest token)
  · obtain ⟨k, token, rfl⟩ := hi
    obtain rfl := eq_of_tokenValidateRequest h
    obtain ⟨-, -, ⟨data, heq, -⟩ | heq⟩ := handleTokenValidate_spec hout token k σ
    · rw [heq, List.drop_left, List.mem_singleton] at ha
      subst ha
      cases hresponse
      exact ⟨token, k, rfl, heq⟩
    · rw [heq, List.drop_left, List.mem_singleton] at ha
      subst ha
      cases hresponse
      cases hvalid
  · have hstarts := starts_step hout h fun k token heq => hi ⟨k, token, heq⟩
    rw [hstarts.replies, List.drop_length] at ha
    exact absurd ha List.not_mem_nil

/-- Entry tokens are sound and accepted once, where no answer of Redis is lost on its way
back, the JSON library reads what it writes, and Redis knows no token at the start. -/
theorem soundTokens_of_run (hout : ∀ n, env.outcome n ≠ .unanswered)
    (hjson : ∀ data, env.parseToken (env.dumpToken data) = some data)
    (hstore : ∀ token, store.lookup ("token:" ++ token) = none)
    (h : Run (Step env) (initial store) is σ) : SoundTokens env store is σ := by
  constructor
  · intro i τ token p sid hstep hanswers hoccurs
    obtain ⟨-, e, he, -⟩ := hanswers.spec hout hstep
    rw [(gone_of_occurs hout hstore hoccurs).1] at he
    cases he
  · intro i τ token p sid hstep hanswers
    obtain ⟨-, e, he, hparse⟩ := hanswers.spec hout hstep
    obtain ⟨q, game, n, sessions, hsessions, hoccurs, rfl⟩ := occurs_of_entry hout hstore h he
    -- the entry holds what was issued, and has not expired
    have hdata := hparse _ _ rfl
    rw [hjson] at hdata
    cases hdata
    have hlive : σ.backend.now < n + sessions.tokenTtl := Redis.Keyspace.lt_of_lookup he
    refine ⟨sessions, hsessions, hoccurs.mono ?_⟩
    intro x j y hmade
    obtain ⟨⟨haddresses, htoken⟩, rfl⟩ := hmade
    exact ⟨⟨game, haddresses, htoken, rfl⟩, hlive⟩
  · intro i τ p game hstep haddresses
    have hissues := issues_step hout hstep
    constructor
    · intro q game' haddresses' htoken
      have hsame := List.inj_on_of_nodup_map hissues.nodup haddresses'.made haddresses.made htoken
      cases hsame
      exact ⟨rfl, rfl⟩
    · intro hoccurs
      obtain ⟨n, hn, hold⟩ := drawn_of_occurs hout hoccurs
      obtain ⟨m, hm, -, hnew⟩ := hissues.drawn _ haddresses.made
      have huuid : env.uuid m = env.uuid n := by rw [← hnew, ← hold]
      exact absurd (env.uuid_injective huuid) (hn.trans_le hm).ne'
  · intro i τ hstep d hd game hgame
    obtain ⟨p, hp, hmem⟩ := (emits_step hout hstep).mem_drop hd game hgame
    exact ⟨p, hp, addresses_step hout hstep hmem⟩
  · intro i τ hstep a ha response hresponse hvalid
    exact answered_step hout hstep ha hresponse hvalid

/-!
## Token data as text
-/

def quote : Char := Char.ofNat 34

def backslash : Char := Char.ofNat 92

/-- The characters of a JSON string, up to the control characters. -/
def escape : List Char → List Char
  | [] => []
  | c :: cs =>
      if c = quote ∨ c = backslash then backslash :: c :: escape cs else c :: escape cs

/-- Read a JSON string up to its closing quotation mark. -/
def readString (escaped : Bool) : List Char → Option (List Char × List Char)
  | [] => none
  | c :: cs =>
      if escaped then (readString false cs).map fun r => (c :: r.1, r.2)
      else if c = quote then some ([], cs)
      else if c = backslash then readString true cs
      else (readString false cs).map fun r => (c :: r.1, r.2)

theorem readString_escape (cs rest : List Char) :
    readString false (escape cs ++ quote :: rest) = some (cs, rest) := by
  induction cs with
  | nil => simp [escape, readString]
  | cons c cs ih =>
      have hne : backslash ≠ quote := by decide
      rw [escape]
      split
      · simp [readString, hne, ih]
      · next hplain =>
          rw [not_or] at hplain
          simp [readString, hplain, ih]

/-- Read a text that is given. -/
def readText (text cs : List Char) : Option (List Char) :=
  if cs.take text.length = text then some (cs.drop text.length) else none

theorem readText_append (text cs : List Char) : readText text (text ++ cs) = some cs := by
  rw [readText, List.take_left, if_pos rfl, List.drop_left]

def textBefore : List Char := "\x7b\"player_id\":\"".toList

def textBetween : List Char := ",\"session_id\":\"".toList

def textBehind : List Char := "\x7d".toList

/-- `json::dump` of token data. -/
def dumpTokenText (data : TokenData) : String :=
  String.ofList (textBefore ++ (escape data.playerId.toList ++ quote ::
    (textBetween ++ (escape data.sessionId.toList ++ quote :: textBehind))))

/-- `json::parse` of token data. -/
def parseTokenText (value : String) : Option TokenData :=
  (readText textBefore value.toList).bind fun cs =>
  (readString false cs).bind fun playerId =>
  (readText textBetween playerId.2).bind fun cs =>
  (readString false cs).bind fun sessionId =>
  if sessionId.2 = textBehind then
    some ⟨String.ofList playerId.1, String.ofList sessionId.1⟩
  else none

theorem parseTokenText_dumpTokenText (data : TokenData) :
    parseTokenText (dumpTokenText data) = some data := by
  simp only [parseTokenText, dumpTokenText, String.toList_ofList, readText_append,
    Option.bind_some, readString_escape, if_true, String.ofList_toList]

/-- The default settings with the text of the JSON library. -/
def jsonEnv : Env := { defaultEnv with
  dumpToken := dumpTokenText
  parseToken := parseTokenText }

/-- A player starts a game and the game server asks for its token. -/
theorem soundTokens_of_run_validate :
    ∃ σ, Run (Step jsonEnv) (initial {}) [.connect 0 "10.0.0.1", .gameServerConnect 0,
      .clientMessage 0 (.createRoom ⟨"h", "H", "room", 4⟩), .clientMessage 0 .startGame,
      .gameServerMessage 0 (.tokenValidateRequest "uuu")] σ ∧
      (σ.replies == [(0, .tokenValidateResponse
        { valid := true, playerId := "h", sessionId := "uu" })]) = true ∧
      SoundTokens jsonEnv {} [.connect 0 "10.0.0.1", .gameServerConnect 0,
        .clientMessage 0 (.createRoom ⟨"h", "H", "room", 4⟩), .clientMessage 0 .startGame,
        .gameServerMessage 0 (.tokenValidateRequest "uuu")] σ := by
  obtain ⟨σ, hrun, hσ⟩ := exists_run_of_exec (fun _ _ => true) (step jsonEnv) (initial {})
    [.connect 0 "10.0.0.1", .gameServerConnect 0,
      .clientMessage 0 (.createRoom ⟨"h", "H", "room", 4⟩), .clientMessage 0 .startGame,
      .gameServerMessage 0 (.tokenValidateRequest "uuu")]
    (fun σ => σ.replies == [(0, .tokenValidateResponse
      { valid := true, playerId := "h", sessionId := "uu" })]) (by decide +kernel)
  refine ⟨σ, hrun.of_guarded, hσ, ?_⟩
  apply soundTokens_of_run
  · intro n heq
    cases heq
  · intro data
    simp only [jsonEnv]
    exact parseTokenText_dumpTokenText data
  · intro token
    rfl
  · exact hrun.of_guarded

end Room

end SosBackend
