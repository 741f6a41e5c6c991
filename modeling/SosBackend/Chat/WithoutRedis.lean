import SosBackend.Chat.Mirrors

/-!
# The Chat Server without Redis

Redis keeps the history of the sessions and counts the messages of the players. The manager
asks it for nothing else, so what Redis does or fails to do shows in two places only: in the
history that a player is sent, and in the messages that the rate limiter refuses. Where the
limiter refuses nothing, the server does what it would do without Redis, besides the history;
and a server whose Redis has fallen silent refuses nothing and has no history to send.
-/

namespace SosBackend

namespace Chat

/-- The same server with neither a Redis nor a rate limiter. -/
def Env.plain (env : Env) : Env :=
  { env with redis := false, rateLimiter := none }

/-- A message of a player, which may come out of the history. -/
def Delivery.isReceive (d : Delivery) : Bool :=
  match d.envelope with
  | .receive _ => true
  | _ => false

/-- The second Redis is not asked; the first one may have fallen silent. -/
def ignoring (env : Env) (silent : Prop) (c _ : Redis.Client) : Prop :=
  silent → c.Silent env.outcome

namespace Mirrors

open ChatServer

variable {env : Env} {P : Delivery → Prop} {silent : Prop} {base base' : List Delivery}
  {σ τ : ChatServer}

/-- Commands that are sent to Redis. -/
theorem setRedis (h : Mirrors P (ignoring env silent) base base' σ τ) {redis : Redis.Client}
    (hredis : σ.redis.issued ≤ redis.issued) :
    Mirrors P (ignoring env silent) base base' { σ with redis := redis } τ :=
  ⟨h.manager, h.sessions, h.clock, h.sent, fun hsilent => (h.redis hsilent).of_le hredis⟩

/-- One entry of the history. -/
theorem sendHistoryEntry (h : Mirrors P (ignoring env silent) base base' σ τ)
    (hP : ∀ d : Delivery, d.isReceive = true → P d) (p : String) (entry : List UInt8) :
    Mirrors P (ignoring env silent) base base' (σ.sendHistoryEntry env p entry) τ := by
  unfold ChatServer.sendHistoryEntry
  split
  · exact h
  unfold ChatServer.sendTo
  split
  · exact h
  split
  · exact h
  unfold ChatServer.send
  split
  · exact h
  · exact ⟨h.manager, h.sessions, h.clock, h.sent.extra (hP _ rfl), h.redis⟩

theorem sendHistoryEntries (h : Mirrors P (ignoring env silent) base base' σ τ)
    (hP : ∀ d : Delivery, d.isReceive = true → P d) (p : String)
    (entries : List (List UInt8)) :
    Mirrors P (ignoring env silent) base base'
      (entries.foldl (ChatServer.sendHistoryEntry env p) σ) τ := by
  induction entries generalizing σ with
  | nil => exact h
  | cons entry entries ih => exact ih (h.sendHistoryEntry hP p entry)

/-- The history that is sent, or a Redis that has none to send. -/
theorem sendHistory (h : Mirrors P (ignoring env silent) base base' σ τ)
    (hP : (∀ d : Delivery, d.isReceive = true → P d) ∨ silent) (p sid : String) :
    Mirrors P (ignoring env silent) base base' (σ.sendHistory env p sid)
      (τ.sendHistory env.plain p sid) := by
  change Mirrors P _ base base' (σ.sendHistory env p sid) τ
  unfold ChatServer.sendHistory
  split
  · have hcall := Redis.issued_call σ.redis env.outcome
      (Redis.lrange (historyKey sid) 0 ((env.historySize.toNat : ℤ) - 1))
    have hissued := (Nat.le_succ σ.redis.issued).trans hcall.ge
    split
    · next redis heq =>
        rw [heq] at hissued
        exact h.setRedis hissued
    · next entries redis heq =>
        rw [heq] at hissued
        rcases hP with hP | hsilent
        · exact (h.setRedis hissued).sendHistoryEntries hP p entries.reverse
        · -- a Redis that is silent has no entries
          have hreply := (h.redis hsilent).reply
            (Redis.lrange (historyKey sid) 0 ((env.historySize.toNat : ℤ) - 1))
          rw [heq] at hreply
          cases hreply
  · exact h

/-- Where the limiter refuses nothing, only its counting is missing. -/
theorem rateLimit (h : Mirrors P (ignoring env silent) base base' σ τ) (s : SessionPtr) :
    Mirrors P (ignoring env silent) base base' (σ.rateLimit env s).2 τ := by
  unfold ChatServer.rateLimit
  split
  · exact h
  next limiter _ =>
  have hissued := limiter.issued_allow env.outcome (σ.sessions s).playerId σ.redis
  split
  · next heq =>
      rw [heq] at hissued
      exact h.setRedis hissued
  · next heq =>
      rw [heq] at hissued
      exact h.setRedis hissued

end Mirrors

theorem mates_plain (env : Env) (P : Delivery → Prop) (silent : Prop) :
    Mates P (ignoring env silent) env env.plain where
  maxMessageLength := rfl
  sessionTtl := rfl
  historySize := rfl
  serialize := rfl
  attempt {base base' σ τ cmds} _ h := by
    change Mirrors P _ base base' (σ.attempt env cmds) τ
    unfold ChatServer.attempt
    split
    · exact h.setRedis (Redis.issued_attempt _ _ _)
    · exact h

def Input.isAuth : Input → Bool
  | .message _ (.auth _) => true
  | _ => false

/-- The limiter does not refuse the message. -/
def passes (env : Env) (σ : ChatServer) : Input → Bool
  | .message s (.send _) => !(σ.sessions s).authenticated || (σ.rateLimit env s).1
  | _ => true

namespace Mirrors

open ChatServer

variable {env : Env} {P : Delivery → Prop} {silent : Prop} {base base' : List Delivery}
  {σ τ : ChatServer}

theorem processSend (h : Mirrors P (ignoring env silent) base base' σ τ) (s : SessionPtr)
    (message : ChatSend) (hpasses : passes env σ (.message s (.send message)) = true) :
    Mirrors P (ignoring env silent) base base' (σ.processSend env s message)
      (τ.processSend env.plain s message) := by
  have hlimit := h.rateLimit s
  unfold ChatServer.processSend
  rw [h.sessions]
  split
  · next hauthenticated =>
      rw [passes, hauthenticated, Bool.not_true, Bool.false_or] at hpasses
      change Mirrors P _ base base' _
        (τ.handleChatSend env.plain (τ.sessions s).playerId message)
      rw [h.sessions]
      split
      · next heq =>
          rw [heq] at hpasses
          cases hpasses
      · next σ' heq =>
          rw [heq] at hlimit
          have hsessions : σ'.sessions = σ.sessions := by
            rw [← hlimit.sessions, h.sessions]
          rw [hsessions]
          exact hlimit.handleChatSend (mates_plain env P silent) _ message
  · exact h.send s _

/-- One step, with Redis and without. -/
theorem step_plain (h : Mirrors P (ignoring env silent) base base' σ τ) {i : Input}
    {σ' : ChatServer} (hstep : Step env σ i σ') (hpasses : passes env σ i = true)
    (hP : i.isAuth = true → (∀ d : Delivery, d.isReceive = true → P d) ∨ silent) :
    ∃ τ', Step env.plain τ i τ' ∧ Mirrors P (ignoring env silent) base base' σ' τ' := by
  refine h.step (mates_plain env P silent) hstep ?_ ?_ ?_
  · rintro s auth rfl
    exact h.handleAuth (mates_plain env P silent) (fun p sid h => h.sendHistory (hP rfl) p sid)
      auth s
  · rintro s message rfl
    exact h.processSend s message hpasses
  · exact fun seconds _ => h.redis

end Mirrors

/-!
## Runs
-/

/-- What a step sends, with the input it answers. -/
def answers (env : Env) (σ : ChatServer) (i : Input) : List (Input × List Delivery) :=
  match step env σ i with
  | none => []
  | some τ => [(i, τ.sent.drop σ.sent.length)]

/-- The same answers, but for what a `ChatAuth` is sent of the history. -/
def SameAnswers (a a' : Input × List Delivery) : Prop :=
  a.1 = a'.1 ∧ Inserted (fun d => a.1.isAuth = true ∧ d.isReceive = true) a.2 a'.2

variable {env : Env} {σ τ : ChatServer} {is : List Input}

/-- Every input gets the answers that it would get without Redis, as long as the limiter
refuses no message; only a `ChatAuth` may be sent the history besides. Who is registered, in
the lobby and in the channels is the same. -/
theorem sameAnswers_of_passes {as : List (Input × List Delivery)}
    (h : Trace (Guarded (passes env) (Step env)) (answers env) σ is as τ) :
    ∃ as' τ', Trace (Step env.plain) (answers env.plain) σ is as' τ' ∧
      List.Forall₂ SameAnswers as as' ∧ τ'.manager = τ.manager ∧ τ'.sessions = τ.sessions := by
  suffices hclock : ∃ as' τ', Trace (Step env.plain) (answers env.plain) σ is as' τ' ∧
      List.Forall₂ SameAnswers as as' ∧ τ'.manager = τ.manager ∧ τ'.sessions = τ.sessions ∧
        τ'.clock = τ.clock by
    obtain ⟨as', τ', htrace, hsame, hmanager, hsessions, -⟩ := hclock
    exact ⟨as', τ', htrace, hsame, hmanager, hsessions⟩
  induction h with
  | nil => exact ⟨[], σ, Trace.nil, List.Forall₂.nil, rfl, rfl, rfl⟩
  | @snoc is as τ i υ htrace hstep ih =>
      obtain ⟨as', τ', htrace', hsame, hmanager, hsessions, hclock⟩ := ih
      have hmirrors : Mirrors (fun d => i.isAuth = true ∧ d.isReceive = true)
          (ignoring env False) τ.sent τ'.sent τ τ' :=
        ⟨hmanager, hsessions, hclock, Outgrows.start _ _ _, False.elim⟩
      obtain ⟨υ', hstep', hυ⟩ := hmirrors.step_plain hstep.1 hstep.2
        fun hauth => Or.inl fun d hd => ⟨hauth, hd⟩
      have hanswers : answers env τ i = [(i, υ.sent.drop τ.sent.length)] := by
        have hsome : Chat.step env τ i = some υ := hstep.1
        rw [answers, hsome]
      have hanswers' : answers env.plain τ' i = [(i, υ'.sent.drop τ'.sent.length)] := by
        have hsome : Chat.step env.plain τ' i = some υ' := hstep'
        rw [answers, hsome]
      refine ⟨_, υ', Trace.snoc htrace' hstep', ?_, hυ.manager, hυ.sessions, hυ.clock⟩
      rw [hanswers, hanswers']
      refine List.rel_append hsame (List.Forall₂.cons ⟨rfl, hυ.sent.drop⟩ List.Forall₂.nil)

/-- Two players of a session, one of whom comes after the first message. -/
def lateArrival : List Input :=
  [.connect 0, .connect 1, .internalMessage (.sessionCreated ⟨"s", [⟨"p", "P"⟩, ⟨"q", "Q"⟩]⟩),
    .message 0 (.auth ⟨"p", "s", "P"⟩), .message 0 (.send ⟨.all, "hi", ""⟩),
    .message 1 (.auth ⟨"q", "s", "Q"⟩)]

theorem sameAnswers_of_passes_lateArrival : ∃ as as' τ τ',
    Trace (Guarded (passes defaultEnv) (Step defaultEnv)) (answers defaultEnv) (initial {})
      lateArrival as τ ∧
    Trace (Step defaultEnv.plain) (answers defaultEnv.plain) (initial {}) lateArrival as' τ' ∧
      List.Forall₂ SameAnswers as as' ∧ τ'.manager = τ.manager := by
  have hexec : (execTrace (guarded (passes defaultEnv) (step defaultEnv)) (answers defaultEnv)
      (initial {}) lateArrival).isSome = true := by
    decide +kernel
  obtain ⟨r, hr⟩ := Option.isSome_iff_exists.1 hexec
  have htrace : Trace (Guarded (passes defaultEnv) (Step defaultEnv)) (answers defaultEnv)
      (initial {}) lateArrival r.1 r.2 :=
    (trace_of_execTrace hr).mono fun _ _ _ => guarded_eq_some.1
  obtain ⟨as', τ', htrace', hsame, hmanager, -⟩ := sameAnswers_of_passes htrace
  exact ⟨r.1, as', r.2, τ', htrace, htrace', hsame, hmanager⟩

/-- A limiter whose Redis is silent refuses nothing. -/
theorem passes_of_silent (h : σ.redis.Silent env.outcome) (i : Input) :
    passes env σ i = true := by
  have hlimit : ∀ s, (σ.rateLimit env s).1 = true := by
    intro s
    unfold ChatServer.rateLimit
    split
    · rfl
    next limiter _ =>
    have hallow := limiter.allow_of_silent h (σ.sessions s).playerId
    split
    · next heq =>
        rw [heq] at hallow
        cases hallow
    · rfl
  unfold passes
  split
  · rw [hlimit, Bool.or_true]
  · rfl

/-- From the moment on that Redis answers nothing any more, whatever it still carries out,
the server does exactly what it would do without. -/
theorem plain_of_silent (hsilent : σ.redis.Silent env.outcome) (h : Run (Step env) σ is τ) :
    ∃ redis, Run (Step env.plain) σ is { τ with redis := redis } := by
  have hstart : Mirrors (fun _ => False) (ignoring env True) σ.sent σ.sent σ σ :=
    ⟨rfl, rfl, rfl, Outgrows.start _ _ _, fun _ => hsilent⟩
  have hstep : ∀ ρ i ρ' υ, Step env ρ i ρ' →
      Mirrors (fun _ => False) (ignoring env True) σ.sent σ.sent ρ υ →
        ∃ υ', Step env.plain υ i υ' ∧
          Mirrors (fun _ => False) (ignoring env True) σ.sent σ.sent ρ' υ' := by
    intro ρ i ρ' υ hstep hρ
    exact hρ.step_plain hstep (passes_of_silent (hρ.redis trivial) i) fun _ => Or.inr trivial
  obtain ⟨τ', hrun, hτ⟩ := h.simulates hstep hstart
  refine ⟨τ'.redis, ?_⟩
  have hsent : τ.sent = τ'.sent := by
    obtain ⟨out, out', hout, hout', hinserted⟩ := hτ.sent
    rw [hout, hout', hinserted.eq_of_forall fun _ => id]
  have heq : { τ with redis := τ'.redis } = τ' := by
    rw [← hτ.manager, ← hτ.sessions, ← hτ.clock, hsent]
  rw [heq]
  exact hrun

/-- The settings `main` falls back to, with a Redis that is gone. -/
def lostEnv : Env := { defaultEnv with outcome := fun _ => .lost }

theorem plain_of_silent_lost : ∃ τ redis, Run (Step lostEnv) (initial {}) lateArrival τ ∧
    Run (Step lostEnv.plain) (initial {}) lateArrival { τ with redis := redis } := by
  obtain ⟨τ, hrun, -⟩ := exists_run_of_exec (fun _ _ => true) (step lostEnv) (initial {})
    lateArrival (fun _ => true) (by decide +kernel)
  obtain ⟨redis, hplain⟩ := plain_of_silent (σ := initial {})
    (fun _ _ heq => by cases heq) hrun.of_guarded
  exact ⟨τ, redis, hrun.of_guarded, hplain⟩

end Chat

end SosBackend
