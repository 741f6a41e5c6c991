import SosBackend.Room.Alike

/-!
# Failures of Redis

Redis has the entry tokens, the set of the active sessions, the heartbeats of the game servers
and the counters of the rate limiter. The Room Server goes on when a command of it fails. So
a failing Redis shows in the answers to the game servers and in what the limiter lets
through, and in the identifiers that are drawn in the place of tokens that could not be
stored. Where the limiter refuses nothing and every token is stored, the clients and the Chat
Server are told what they would be told with a Redis that never fails.
-/

namespace SosBackend

namespace Room

/-- The same server with a Redis that answers every command and without a rate limiter. -/
def Env.reliable (env : Env) : Env :=
  { env with
    outcome := fun _ => .answered
    rateLimiter := none
    keyPrefix_rateLimiter := fun _ h => by cases h }

open RoomServer

/-- Two servers with whatever behind them. -/
def anyOutside : Outside → Outside → Prop := fun _ _ => True

/-- The players of the room of a player. -/
def RoomServer.roommates (σ : RoomServer) (p : String) : List PlayerData :=
  match (σ.manager.playerToRoom.find? p).bind σ.manager.rooms.find? with
  | none => []
  | some room => room.players

/-- A token that takes one identifier is that identifier, and a Redis that answers stores it
as well. -/
theorem issueToken_replaced {env : Env} {p sid : String} {b : Backend}
    (hdrawn : (issueToken env p sid b).2.uuidsIssued ≤ b.uuidsIssued + 1)
    (redis : Redis.Client) :
    ∃ redis', issueToken env.reliable p sid { b with redis := redis } =
      ((issueToken env p sid b).1, { (issueToken env p sid b).2 with redis := redis' }) := by
  cases hstore : env.sessionStore with
  | none =>
      have hstore' : env.reliable.sessionStore = none := hstore
      simp only [issueToken, hstore, hstore']
      exact ⟨redis, rfl⟩
  | some store =>
      have hstore' : env.reliable.sessionStore = some store := hstore
      simp only [issueToken, hstore, hstore', createToken_eq] at hdrawn ⊢
      cases hcall : b.redis.call env.outcome (Redis.setex ("token:" ++ env.uuid b.uuidsIssued)
          (env.dumpToken ⟨p, sid⟩) store.tokenTtl) with
      | mk reply redis₁ =>
      rw [hcall] at hdrawn
      cases reply with
      | none =>
          -- the identifier that takes the place of the token is a second one
          exact absurd hdrawn (Nat.not_succ_le_self _)
      | some reply =>
          obtain ⟨ks, hks⟩ := Redis.exists_of_call hcall
          have httl : store.tokenTtl ≠ 0 := by
            intro hzero
            simp [Redis.setex, Redis.onKey, hzero] at hks
          obtain ⟨ks', hset⟩ := Redis.exists_setex ("token:" ++ env.uuid b.uuidsIssued)
            (env.dumpToken ⟨p, sid⟩) httl redis.store
          have hanswered : redis.call env.reliable.outcome (Redis.setex
              ("token:" ++ env.reliable.uuid b.uuidsIssued)
              (env.reliable.dumpToken ⟨p, sid⟩) store.tokenTtl) = _ :=
            Redis.call_answered rfl hset
          rw [hanswered]
          exact ⟨_, rfl⟩

/-- Every player takes an identifier at least. -/
theorem uuidsIssued_sendGameStarts (env : Env) (sid : String) (ids : List String)
    (σ : RoomServer) : σ.backend.uuidsIssued + ids.length ≤
      (ids.foldl (sendGameStart env sid) σ).backend.uuidsIssued := by
  have hissue : ∀ (p : String) (b : Backend),
      b.uuidsIssued + 1 ≤ (issueToken env p sid b).2.uuidsIssued := by
    intro p b
    unfold issueToken
    cases env.sessionStore with
    | none => exact le_rfl
    | some store =>
        simp only [createToken_eq]
        split
        · next heq =>
            obtain ⟨-, rfl⟩ := Prod.mk.inj heq
            exact le_rfl
        · next heq =>
            obtain ⟨-, rfl⟩ := Prod.mk.inj heq
            exact Nat.le_succ _
  induction ids generalizing σ with
  | nil => exact le_rfl
  | cons p ids ih =>
      have hp := hissue p σ.backend
      have hrest := ih (sendGameStart env sid σ p)
      have hbackend : (sendGameStart env sid σ p).backend = (issueToken env p sid σ.backend).2 :=
        backend_sendTo _ _ _
      rw [hbackend] at hrest
      rw [List.foldl_cons, List.length_cons]
      omega

/-- A request for a token changes Redis only. -/
theorem redis_validateToken (env : Env) (token : String) (b : Backend) :
    ∃ redis, (b.validateToken env token).2 = { b with redis := redis } := by
  unfold Backend.validateToken Backend.redisCall
  split
  · next heq =>
      obtain ⟨-, rfl⟩ := Prod.mk.inj heq
      exact ⟨_, rfl⟩
  · next heq =>
      obtain ⟨-, rfl⟩ := Prod.mk.inj heq
      exact ⟨_, rfl⟩
  next heq =>
  obtain ⟨-, rfl⟩ := Prod.mk.inj heq
  split
  · next heq =>
      obtain ⟨-, rfl⟩ := Prod.mk.inj heq
      exact ⟨_, rfl⟩
  · next heq =>
      obtain ⟨-, rfl⟩ := Prod.mk.inj heq
      exact ⟨_, rfl⟩

namespace Alike

variable {env : Env} {σ τ : RoomServer}

theorem sendGameStart (h : Alike anyOutside σ τ) (sid p : String)
    (hdrawn : (σ.sendGameStart env sid p).backend.uuidsIssued ≤ σ.backend.uuidsIssued + 1) :
    Alike anyOutside (σ.sendGameStart env sid p) (τ.sendGameStart env.reliable sid p) := by
  obtain ⟨o, rfl, -⟩ := h
  have hissued : (issueToken env p sid σ.backend).2.uuidsIssued ≤ σ.backend.uuidsIssued + 1 := by
    rw [RoomServer.sendGameStart, backend_sendTo] at hdrawn
    exact hdrawn
  obtain ⟨redis, hredis⟩ := issueToken_replaced hissued o.1
  have hissue : issueToken env.reliable p sid (σ.replaceRedis o).backend = _ := hredis
  unfold RoomServer.sendGameStart
  rw [hissue]
  refine map (f := fun σ => σ.sendTo p _) (fun σ o => sendTo_replaceRedis σ o p _) ?_
  exact ⟨(redis, o.2), rfl, trivial⟩

/-- Where the loop draws no more identifiers than there are players, every token is stored. -/
theorem sendGameStarts (h : Alike anyOutside σ τ) (sid : String) (ids : List String)
    (hdrawn : (ids.foldl (RoomServer.sendGameStart env sid) σ).backend.uuidsIssued ≤
      σ.backend.uuidsIssued + ids.length) :
    Alike anyOutside (ids.foldl (RoomServer.sendGameStart env sid) σ)
      (ids.foldl (RoomServer.sendGameStart env.reliable sid) τ) := by
  induction ids generalizing σ τ with
  | nil => exact h
  | cons p ids ih =>
      rw [List.foldl_cons, List.length_cons] at hdrawn
      have hone := uuidsIssued_sendGameStarts env sid [p] σ
      have hrest := uuidsIssued_sendGameStarts env sid ids (RoomServer.sendGameStart env sid σ p)
      rw [List.foldl_cons, List.foldl_nil, List.length_singleton] at hone
      have hp : (RoomServer.sendGameStart env sid σ p).backend.uuidsIssued ≤
          σ.backend.uuidsIssued + 1 := by omega
      exact ih (h.sendGameStart sid p hp) (by omega)

theorem rateLimit (env : Env) (s : SessionPtr) (σ : RoomServer) :
    ∃ o, (σ.rateLimit env s).2 = σ.replaceRedis o := by
  unfold RoomServer.rateLimit
  split
  · exact ⟨σ.outside, rfl⟩
  next limiter _ =>
  split
  · next heq =>
      obtain ⟨-, rfl⟩ := Prod.mk.inj heq
      exact ⟨((σ.backend.allow env limiter (σ.clients s).remoteIp).2.redis, σ.replies), rfl⟩
  · next heq =>
      obtain ⟨-, rfl⟩ := Prod.mk.inj heq
      exact ⟨((σ.backend.allow env limiter (σ.clients s).remoteIp).2.redis, σ.replies), rfl⟩

theorem handleTokenValidate (h : Alike anyOutside σ τ) (token : String) (k : SessionPtr) :
    Alike anyOutside (σ.handleTokenValidate env token k)
      (τ.handleTokenValidate env.reliable token k) := by
  have hanswered : ∀ (env : Env) (σ : RoomServer),
      ∃ o, σ.handleTokenValidate env token k = σ.replaceRedis o := by
    intro env σ
    obtain ⟨redis, hredis⟩ := redis_validateToken env token σ.backend
    unfold RoomServer.handleTokenValidate
    split
    · next heq =>
        rw [heq] at hredis
        obtain rfl := hredis
        exact ⟨(redis, _), rfl⟩
    · next heq =>
        rw [heq] at hredis
        obtain rfl := hredis
        exact ⟨(redis, _), rfl⟩
  obtain ⟨o, ho⟩ := hanswered env σ
  obtain ⟨o', ho'⟩ := hanswered env.reliable τ
  obtain ⟨o'', rfl, -⟩ := h
  rw [ho, ho']
  exact ⟨o', rfl, trivial⟩

end Alike

/-!
## Runs
-/

/-- The limiter does not refuse the message, and every token of a start can be stored:
besides the id of the session, no more identifiers are drawn than the room has players. -/
def granted (env : Env) (σ : RoomServer) : Input → Bool
  | .clientMessage s .startGame => !limited env σ s &&
      decide ((σ.processMessage env s .startGame).backend.uuidsIssued ≤
        σ.backend.uuidsIssued + (1 + (σ.roommates (σ.clients s).playerId).length))
  | .clientMessage s _ => !limited env σ s
  | _ => true

end Room

end SosBackend
