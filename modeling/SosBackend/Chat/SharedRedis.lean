import SosBackend.Chat.Mirrors

/-!
# The Chat Server on a Redis that others use

All keys of the Chat Server begin alike. So it does the same on two keyspaces that agree on
these keys, and it leaves what others have under other keys.
-/

namespace SosBackend

namespace Chat

/-- The keyspaces agree on the keys of the Chat Server, and the first one has under all
others what `ks` has. -/
def sharing (ks : Redis.Keyspace) (c d : Redis.Client) : Prop :=
  c.Agree redisKeys d ∧ ks.Agree (fun key => key ∉ redisKeys) c.store

/-- The limiter counts under keys of the Chat Server. -/
def Env.CountsApart (env : Env) : Prop :=
  ∀ limiter ∈ env.rateLimiter, limiter.keyPrefix = "chat:rate:"

variable {ks : Redis.Keyspace} {P : Delivery → Prop} {base base' : List Delivery}
  {env : Env} {σ τ : ChatServer}

theorem mates_sharing (env : Env) (P : Delivery → Prop) (ks : Redis.Keyspace) :
    Mates P (sharing ks) env env where
  maxMessageLength := rfl
  sessionTtl := rfl
  historySize := rfl
  serialize := rfl
  attempt {base base' σ τ cmds} hcmds h := by
    unfold ChatServer.attempt
    split
    · exact ⟨h.manager, h.sessions, h.clock, h.sent, h.redis.1.attempt hcmds env.outcome,
        h.redis.2.trans (Redis.agree_attempt hcmds env.outcome σ.redis)⟩
    · exact h

namespace Mirrors

open ChatServer

theorem sendHistoryEntries_sharing (h : Mirrors P (sharing ks) base base' σ τ) (p : String)
    (entries : List (List UInt8)) : Mirrors P (sharing ks) base base'
      (entries.foldl (ChatServer.sendHistoryEntry env p) σ)
      (entries.foldl (ChatServer.sendHistoryEntry env p) τ) := by
  induction entries generalizing σ τ with
  | nil => exact h
  | cons entry entries ih =>
      apply ih
      unfold ChatServer.sendHistoryEntry
      split
      · exact h
      · exact h.sendTo p _

/-- The same history is sent. -/
theorem sendHistory_sharing (h : Mirrors P (sharing ks) base base' σ τ) (p sid : String) :
    Mirrors P (sharing ks) base base' (σ.sendHistory env p sid) (τ.sendHistory env p sid) := by
  have hlrange : (Redis.lrange (historyKey sid) 0
      ((env.historySize.toNat : ℤ) - 1)).Within redisKeys := ⟨_, historyKey_mem sid, _, rfl⟩
  obtain ⟨hreply, hagree⟩ := h.redis.1.call hlrange env.outcome
  have hleft := h.redis.2.trans (hlrange.agree_call env.outcome σ.redis)
  unfold ChatServer.sendHistory
  split
  · cases hσ : σ.redis.call env.outcome (Redis.lrange (historyKey sid) 0
        ((env.historySize.toNat : ℤ) - 1)) with
    | mk r c =>
    cases hτ : τ.redis.call env.outcome (Redis.lrange (historyKey sid) 0
        ((env.historySize.toNat : ℤ) - 1)) with
    | mk r' d =>
    rw [hσ, hτ] at hreply hagree
    rw [hσ] at hleft
    obtain rfl : r' = r := hreply
    have hread : Mirrors P (sharing ks) base base' { σ with redis := c }
        { τ with redis := d } := ⟨h.manager, h.sessions, h.clock, h.sent, hagree, hleft⟩
    cases r' with
    | none => exact hread
    | some entries => exact hread.sendHistoryEntries_sharing p entries.reverse
  · exact h

/-- The same messages are refused. -/
theorem rateLimit_sharing (h : Mirrors P (sharing ks) base base' σ τ)
    (hlimiter : env.CountsApart) (s : SessionPtr) :
    (τ.rateLimit env s).1 = (σ.rateLimit env s).1 ∧
      Mirrors P (sharing ks) base base' (σ.rateLimit env s).2 (τ.rateLimit env s).2 := by
  unfold ChatServer.rateLimit
  rw [h.sessions]
  split
  · exact ⟨rfl, h⟩
  next limiter hsome =>
  have hkey : limiter.keyPrefix ++ (σ.sessions s).playerId ∈ redisKeys := by
    rw [hlimiter limiter hsome]
    exact mem_redisKeys "rate:" _
  obtain ⟨hanswer, hagree⟩ := RateLimiter.agree_allow hkey h.redis.1 env.outcome
  have hleft : σ.redis.store.Agree (fun key => key ∉ redisKeys)
      (limiter.allow env.outcome (σ.sessions s).playerId σ.redis).2.store := by
    obtain ⟨hnow, hlookup⟩ :=
      limiter.store_allow env.outcome (σ.sessions s).playerId σ.redis
    refine ⟨hnow, fun key hnot => hlookup key ?_⟩
    rintro rfl
    exact hnot hkey
  cases hσ : limiter.allow env.outcome (σ.sessions s).playerId σ.redis with
  | mk r c =>
  cases hτ : limiter.allow env.outcome (σ.sessions s).playerId τ.redis with
  | mk r' d =>
  rw [hσ, hτ] at hanswer hagree
  rw [hσ] at hleft
  obtain rfl : r' = r := hanswer
  have hcounted : Mirrors P (sharing ks) base base' { σ with redis := c }
      { τ with sessions := σ.sessions, redis := d } :=
    ⟨h.manager, rfl, h.clock, h.sent, hagree, h.redis.2.trans hleft⟩
  cases r' with
  | none => exact ⟨rfl, hcounted⟩
  | some allowed => exact ⟨rfl, hcounted⟩

theorem processSend_sharing (h : Mirrors P (sharing ks) base base' σ τ)
    (hlimiter : env.CountsApart) (s : SessionPtr) (message : ChatSend) :
    Mirrors P (sharing ks) base base' (σ.processSend env s message)
      (τ.processSend env s message) := by
  obtain ⟨hanswer, hcounted⟩ := h.rateLimit_sharing hlimiter s
  unfold ChatServer.processSend
  rw [h.sessions]
  split
  · cases hσ : σ.rateLimit env s with
    | mk r σ' =>
    cases hτ : τ.rateLimit env s with
    | mk r' τ' =>
    rw [hσ, hτ] at hanswer hcounted
    obtain rfl : r' = r := hanswer
    cases r' with
    | false => exact hcounted.send s _
    | true =>
        simp only
        rw [hcounted.sessions]
        exact hcounted.handleChatSend (mates_sharing env P ks) _ message
  · exact h.send s _

/-- One step besides the passing of time. -/
theorem step_sharing (h : Mirrors P (sharing ks) base base' σ τ) (hlimiter : env.CountsApart)
    {i : Input} {σ' : ChatServer} (hstep : Step env σ i σ')
    (htick : ∀ seconds, i ≠ .tick seconds) :
    ∃ τ', Step env τ i τ' ∧ Mirrors P (sharing ks) base base' σ' τ' := by
  refine h.step (mates_sharing env P ks) hstep ?_ ?_ ?_
  · rintro s auth rfl
    exact h.handleAuth (mates_sharing env P ks) (fun p sid h => h.sendHistory_sharing p sid)
      auth s
  · rintro s message rfl
    exact h.processSend_sharing hlimiter s message
  · exact fun seconds heq => absurd heq (htick seconds)

end Mirrors

/-!
## Servers that agree
-/

/-- The same server, on another keyspace with the same under the keys of the Chat Server. -/
def Agrees (σ τ : ChatServer) : Prop :=
  ∃ redis, τ = { σ with redis := redis } ∧ σ.redis.Agree redisKeys redis

theorem Agrees.mirrors (h : Agrees σ τ) :
    Mirrors (fun _ => False) (sharing σ.redis.store) σ.sent σ.sent σ τ := by
  obtain ⟨redis, rfl, hagree⟩ := h
  exact ⟨rfl, rfl, rfl, Outgrows.start _ _ _, hagree, Redis.Keyspace.Agree.refl _ _⟩

/-- A step leaves what is under other keys, and on a keyspace that agrees the server takes the
same step. -/
theorem Agrees.step (h : Agrees σ τ) (hlimiter : env.CountsApart) {i : Input}
    {σ' : ChatServer} (hstep : Step env σ i σ') (htick : ∀ seconds, i ≠ .tick seconds) :
    σ.redis.store.Agree (fun key => key ∉ redisKeys) σ'.redis.store ∧
      ∃ τ', Step env τ i τ' ∧ Agrees σ' τ' := by
  obtain ⟨τ', hstep', hmirrors⟩ := h.mirrors.step_sharing hlimiter hstep htick
  refine ⟨hmirrors.redis.2, τ', hstep', τ'.redis, ?_, hmirrors.redis.1⟩
  have hsent : σ'.sent = τ'.sent := by
    obtain ⟨out, out', hout, hout', hinserted⟩ := hmirrors.sent
    rw [hout, hout', hinserted.eq_of_forall fun _ => id]
  rw [← hmirrors.manager, ← hmirrors.sessions, ← hmirrors.clock, hsent]

/-- What others do to their keys. -/
theorem Agrees.withStore (h : Agrees σ τ) {store : Redis.Keyspace}
    (hstore : σ.redis.store.Agree redisKeys store) :
    Agrees { σ with redis := { σ.redis with store := store } } τ := by
  obtain ⟨redis, rfl, hagree⟩ := h
  refine ⟨redis, rfl, hagree.issued, ?_⟩
  exact hstore.symm.trans hagree.store

theorem Agrees.tick (h : Agrees σ τ) (seconds : ℕ) :
    Agrees { σ with redis := { σ.redis with store := σ.redis.store.advance seconds } }
      { τ with redis := { τ.redis with store := τ.redis.store.advance seconds } } := by
  obtain ⟨redis, rfl, hagree⟩ := h
  exact ⟨_, rfl, hagree.issued, hagree.store.advance seconds⟩

end Chat

end SosBackend
