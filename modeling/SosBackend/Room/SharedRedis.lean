import SosBackend.Room.Alike

/-!
# The Room Server on a Redis that others use

The Room Server stays within its own keys. So it does the same on two keyspaces that agree on
them, and it leaves what others have under other keys.
-/

namespace SosBackend

namespace Room

open RoomServer

/-- The same under the keys of the Room Server, and the same answers. -/
def agreeing (o o' : Outside) : Prop :=
  o.1.Agree redisKeys o'.1 ∧ o'.2 = o.2

theorem mates_agreeing (env : Env) : Mates agreeing env env :=
  ⟨⟨env.outcome, env.rateLimiter, env.keyPrefix_rateLimiter, rfl⟩,
    fun hcmd ho => ⟨(ho.1.call hcmd _).2, ho.2⟩⟩

/-!
## Replies
-/

variable {env : Env} {b : Backend} {c : Redis.Client}

/-- A token is the same on both. -/
theorem issueToken_agree (h : b.redis.Agree redisKeys c) (env : Env) (p sid : String) :
    ∃ d, issueToken env p sid { b with redis := c } =
        ((issueToken env p sid b).1, { (issueToken env p sid b).2 with redis := d }) ∧
      (issueToken env p sid b).2.redis.Agree redisKeys d := by
  cases hstore : env.sessionStore with
  | none =>
      simp only [issueToken, hstore]
      exact ⟨c, rfl, h⟩
  | some store =>
      have hsetex : (Redis.setex ("token:" ++ env.uuid b.uuidsIssued)
          (env.dumpToken ⟨p, sid⟩) store.tokenTtl).Within redisKeys :=
        ⟨_, Or.inr ⟨_, Or.inr (Or.inl rfl)⟩, _, rfl⟩
      obtain ⟨hreply, hagree⟩ := h.call hsetex env.outcome
      simp only [issueToken, hstore, createToken_eq]
      cases hb : b.redis.call env.outcome (Redis.setex ("token:" ++ env.uuid b.uuidsIssued)
          (env.dumpToken ⟨p, sid⟩) store.tokenTtl) with
      | mk r c' =>
      cases hc : c.call env.outcome (Redis.setex ("token:" ++ env.uuid b.uuidsIssued)
          (env.dumpToken ⟨p, sid⟩) store.tokenTtl) with
      | mk r' d =>
      rw [hb, hc] at hreply hagree
      obtain rfl : r' = r := hreply
      cases r' with
      | none => exact ⟨d, rfl, hagree⟩
      | some r => exact ⟨d, rfl, hagree⟩

/-- A request for a token has the same result on both. -/
theorem validateToken_agree (h : b.redis.Agree redisKeys c) (env : Env) (token : String) :
    ∃ d, ({ b with redis := c } : Backend).validateToken env token =
        ((b.validateToken env token).1, { (b.validateToken env token).2 with redis := d }) ∧
      (b.validateToken env token).2.redis.Agree redisKeys d := by
  have hkey : "token:" ++ token ∈ redisKeys := Or.inr ⟨token, Or.inr (Or.inl rfl)⟩
  have hget : (Redis.get ("token:" ++ token)).Within redisKeys := ⟨_, hkey, _, rfl⟩
  have hdel : (Redis.del ("token:" ++ token)).Within redisKeys := ⟨_, hkey, _, rfl⟩
  obtain ⟨hread, hagree⟩ := h.call hget env.outcome
  unfold Backend.validateToken Backend.redisCall
  cases hb : b.redis.call env.outcome (Redis.get ("token:" ++ token)) with
  | mk r c' =>
  cases hc : c.call env.outcome (Redis.get ("token:" ++ token)) with
  | mk r' d =>
  rw [hb, hc] at hread hagree
  obtain rfl : r' = r := hread
  cases r' with
  | none => exact ⟨d, rfl, hagree⟩
  | some value =>
  cases value with
  | none => exact ⟨d, rfl, hagree⟩
  | some value =>
  obtain ⟨hdeleted, hagree'⟩ := Redis.Client.Agree.call hagree hdel env.outcome
  simp only
  cases hb' : c'.call env.outcome (Redis.del ("token:" ++ token)) with
  | mk r c'' =>
  cases hc' : d.call env.outcome (Redis.del ("token:" ++ token)) with
  | mk r' d' =>
  rw [hb', hc'] at hdeleted hagree'
  obtain rfl : r' = r := hdeleted
  cases r' with
  | none => exact ⟨d', rfl, hagree'⟩
  | some r => exact ⟨d', rfl, hagree'⟩

namespace Alike

variable {σ τ : RoomServer}

theorem sendGameStarts_agree (h : Alike agreeing σ τ) (env : Env) (sid : String)
    (ids : List String) : Alike agreeing (ids.foldl (RoomServer.sendGameStart env sid) σ)
      (ids.foldl (RoomServer.sendGameStart env sid) τ) := by
  induction ids generalizing σ τ with
  | nil => exact h
  | cons p ids ih =>
      apply ih
      obtain ⟨o, rfl, ho, hreplies⟩ := h
      obtain ⟨d, hissue, hagree⟩ := issueToken_agree ho env p sid
      have hissue' : issueToken env p sid (σ.replaceRedis o).backend = _ := hissue
      unfold RoomServer.sendGameStart
      rw [hissue']
      refine map (f := fun σ => σ.sendTo p _) (fun σ o => sendTo_replaceRedis σ o p _) ?_
      exact ⟨(d, o.2), rfl, hagree, hreplies⟩

theorem rateLimit_agree (h : Alike agreeing σ τ) (env : Env) (s : SessionPtr) :
    (τ.rateLimit env s).1 = (σ.rateLimit env s).1 ∧
      Alike agreeing (σ.rateLimit env s).2 (τ.rateLimit env s).2 := by
  obtain ⟨o, rfl, ho, hreplies⟩ := h
  unfold RoomServer.rateLimit
  split
  · exact ⟨rfl, o, rfl, ho, hreplies⟩
  next limiter hlimiter =>
  have hkey : limiter.keyPrefix ++ (σ.clients s).remoteIp ∈ redisKeys := by
    rw [env.keyPrefix_rateLimiter limiter hlimiter]
    exact Or.inr ⟨_, Or.inl rfl⟩
  have hagree₀ : σ.backend.redis.Agree redisKeys o.1 := ho
  obtain ⟨hanswer, hagree⟩ := RateLimiter.agree_allow hkey hagree₀ env.outcome
  simp only [Backend.allow, clients_replaceRedis]
  cases hσ : limiter.allow env.outcome (σ.clients s).remoteIp σ.backend.redis with
  | mk r c =>
  cases hτ : limiter.allow env.outcome (σ.clients s).remoteIp o.1 with
  | mk r' d =>
  rw [hσ, hτ] at hanswer hagree
  obtain rfl : r' = r := hanswer
  have hτ' : limiter.allow env.outcome (σ.clients s).remoteIp
      (σ.replaceRedis o).backend.redis = (r', d) := hτ
  rw [hτ']
  cases r' with
  | none => exact ⟨rfl, (d, o.2), rfl, hagree, hreplies⟩
  | some allowed => exact ⟨rfl, (d, o.2), rfl, hagree, hreplies⟩

theorem processMessage_agree (h : Alike agreeing σ τ) (env : Env) (s : SessionPtr)
    (envelope : Envelope) :
    Alike agreeing (σ.processMessage env s envelope) (τ.processMessage env s envelope) := by
  obtain ⟨hanswer, hcounted⟩ := h.rateLimit_agree env s
  unfold RoomServer.processMessage
  cases hσ : σ.rateLimit env s with
  | mk r σ' =>
  cases hτ : τ.rateLimit env s with
  | mk r' τ' =>
  rw [hσ, hτ] at hanswer hcounted
  obtain rfl : r' = r := hanswer
  cases r' with
  | false =>
      exact (hcounted.map (f := fun σ => σ.send s none
        (.reject ⟨.rateLimited, "Too many requests"⟩)) fun σ o => rfl).map fun σ o =>
          closeClient_replaceRedis σ o s
  | true =>
      refine hcounted.dispatch (mates_agreeing env) s envelope fun _ _ => ?_
      refine hcounted.handleStartGame _ fun r room _ _ _ => ?_
      exact hcounted.startRoom (mates_agreeing env) r room fun σ τ h _ _ =>
        h.sendGameStarts_agree env _ _

theorem handleTokenValidate_agree (h : Alike agreeing σ τ) (env : Env) (token : String)
    (k : SessionPtr) :
    Alike agreeing (σ.handleTokenValidate env token k) (τ.handleTokenValidate env token k) := by
  obtain ⟨o, rfl, ho, hreplies⟩ := h
  obtain ⟨d, hvalidate, hagree⟩ := validateToken_agree ho env token
  have hvalidate' : (σ.replaceRedis o).backend.validateToken env token = _ := hvalidate
  unfold RoomServer.handleTokenValidate
  rw [hvalidate']
  have hanswers : (σ.replaceRedis o).replies = σ.replies := hreplies
  rw [hanswers]
  cases hresult : σ.backend.validateToken env token with
  | mk r b =>
  rw [hresult] at hagree
  cases r with
  | none => exact ⟨(d, _), rfl, hagree, rfl⟩
  | some data =>
      cases data with
      | none => exact ⟨(d, _), rfl, hagree, rfl⟩
      | some data => exact ⟨(d, _), rfl, hagree, rfl⟩

/-- What others do to their keys. -/
theorem withStore (h : Alike agreeing σ τ) {store : Redis.Keyspace}
    (hstore : σ.backend.redis.store.Agree redisKeys store) :
    Alike agreeing (σ.withBackend fun b => { b with redis := { b.redis with store := store } })
      τ := by
  obtain ⟨o, rfl, ho, hreplies⟩ := h
  exact ⟨o, rfl, ⟨ho.issued, hstore.symm.trans ho.store⟩, hreplies⟩

end Alike

/-!
## Steps
-/

/-- On a Redis that agrees on its keys the server takes the same step. -/
theorem step_agreeing {env : Env} {σ σ' τ : RoomServer} {i : Input} (h : Alike agreeing σ τ)
    (hstep : Step env σ i σ') : ∃ τ', Step env τ i τ' ∧ Alike agreeing σ' τ' := by
  refine h.step (mates_agreeing env) hstep ?_ ?_ ?_
  · exact fun s envelope _ => h.processMessage_agree env s envelope
  · exact fun k token _ => h.handleTokenValidate_agree env token k
  · intro seconds _
    obtain ⟨o, rfl, ho, hreplies⟩ := h
    exact ⟨({ o.1 with store := o.1.store.advance seconds }, o.2), rfl,
      ⟨ho.issued, ho.store.advance seconds⟩, hreplies⟩

/-- A step leaves what is under other keys. -/
theorem agree_step {env : Env} {K : Set String} (hK : ∀ key ∈ K, key ∉ redisKeys)
    {σ τ : RoomServer} {i : Input} (h : Step env σ i τ) (htick : ∀ seconds, i ≠ .tick seconds) :
    σ.backend.redis.store.Agree K τ.backend.redis.store := by
  refine ⟨now_step h htick, fun key hkey => ?_⟩
  refine (sparesKey_step h htick fun hwrites => hK key hkey ?_).entry
  cases hwrites with
  | rate hlimiter => exact Or.inr ⟨_, Or.inl rfl⟩
  | started => exact Or.inl rfl
  | token hn => exact Or.inr ⟨_, Or.inr (Or.inl rfl)⟩
  | validated => exact Or.inr ⟨_, Or.inr (Or.inl rfl)⟩
  | heartbeat => exact Or.inr ⟨_, Or.inr (Or.inr rfl)⟩
  | released => exact Or.inl rfl
  | lost => exact Or.inl rfl

end Room

end SosBackend
