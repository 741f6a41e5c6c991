import SosBackend.Room.Keys

/-!
# How long a token is good

A token that has been sent with the start of a game is good for its player and session until
it is asked for or its time is over, whatever else happens, as long as Redis answers. It is
stored under an identifier that nothing else is stored under, so only a request for it and
the clock take it away.
-/

namespace SosBackend

namespace Room

open RoomServer

/-- Every command to Redis is answered. -/
def Env.Answers (env : Env) : Prop :=
  ∀ n, env.outcome n = .answered

theorem Env.Answers.ne_unanswered {env : Env} (h : env.Answers) (n : ℕ) :
    env.outcome n ≠ .unanswered := by
  rw [h n]
  intro heq
  cases heq

variable {env : Env} {σ τ : RoomServer}

/-!
## Storing
-/

/-- A token that can be stored has an entry behind the loop that sends it. -/
theorem isSome_sendGameStarts (henv : env.Answers) {store : SessionStore}
    (hstore : env.sessionStore = some store) (httl : store.tokenTtl ≠ 0) (sid : String)
    (ids : List String) (σ : RoomServer) :
    ∀ d ∈ (gameStarts env sid ids σ.backend).1,
      ((ids.foldl (sendGameStart env sid) σ).backend.tokenEntry d.2.authToken).isSome := by
  induction ids generalizing σ with
  | nil => exact fun d hd => absurd hd List.not_mem_nil
  | cons p ids ih =>
      have hbackend : (sendGameStart env sid σ p).backend =
          (issueToken env p sid σ.backend).2 :=
        backend_sendTo _ _ _
      intro d hd
      rcases List.mem_cons.1 hd with rfl | hd
      · -- the token of the first player
        obtain ⟨ks, hset⟩ := Redis.exists_setex ("token:" ++ env.uuid σ.backend.uuidsIssued)
          (env.dumpToken ⟨p, sid⟩) httl σ.backend.redis.store
        have hissue : issueToken env p sid σ.backend = (env.uuid σ.backend.uuidsIssued,
            { σ.backend with
              uuidsIssued := σ.backend.uuidsIssued + 1
              redis := ⟨ks, σ.backend.redis.issued + 1⟩ }) := by
          simp only [issueToken, hstore, createToken_eq, Redis.call_answered (henv _) hset,
            Option.map_some]
        change ((ids.foldl (sendGameStart env sid) (sendGameStart env sid σ p)).entry
          ("token:" ++ (issueToken env p sid σ.backend).1)).isSome
        rw [hissue] at hbackend ⊢
        -- the rest of the loop stores under later identifiers
        have hlater : ∀ n, (sendGameStart env sid σ p).backend.uuidsIssued ≤ n →
            "token:" ++ env.uuid σ.backend.uuidsIssued ≠ "token:" ++ env.uuid n := by
          intro n hn heq
          have hsame := env.uuid_injective (token_injective heq)
          rw [hbackend] at hn
          exact absurd (hsame ▸ hn) (Nat.not_succ_le_self _)
        have hrest := (Spares.refl ("token:" ++ env.uuid σ.backend.uuidsIssued)
          (sendGameStart env sid σ p)).sendGameStarts hlater sid ids
        rw [hrest.entry, RoomServer.entry, hbackend, Redis.lookup_setex hset]
        rfl
      · have hd' : d ∈ (gameStarts env sid ids (issueToken env p sid σ.backend).2).1 := hd
        rw [← hbackend] at hd'
        exact ih _ d hd'

/-- Behind a start the tokens that have been sent have entries. -/
theorem isSome_of_addressed (henv : env.Answers) {store : SessionStore}
    (hstore : env.sessionStore = some store) (httl : store.tokenTtl ≠ 0) {p : String}
    {d : String × GameStart} (hd : d ∈ σ.addressed env p) :
    ((σ.handleStartGame env p).backend.tokenEntry d.2.authToken).isSome := by
  unfold RoomServer.addressed at hd
  unfold RoomServer.handleStartGame
  cases hp : σ.manager.playerToRoom.find? p with
  | none =>
      rw [hp] at hd
      exact absurd hd List.not_mem_nil
  | some r =>
  rw [hp] at hd
  simp only at hd ⊢
  cases hroom : σ.manager.rooms.find? r with
  | none =>
      rw [hroom] at hd
      exact absurd hd List.not_mem_nil
  | some room =>
  rw [hroom] at hd
  simp only at hd ⊢
  cases hreject : σ.startRejection room p with
  | some reject =>
      rw [hreject] at hd
      exact absurd hd List.not_mem_nil
  | none =>
  rw [hreject] at hd
  have hsent := isSome_sendGameStarts henv hstore httl _ _ _ d hd
  refine Eq.trans (congrArg Option.isSome ?_) hsent
  unfold RoomServer.startRoom
  exact (Spares.map (f := RoomServer.notifyRoomListChanged) notifyRoomListChanged_replaceRedis
    (Spares.announceSession (Spares.refl ("token:" ++ d.2.authToken) _) env _ _)).entry

theorem isSome_step (henv : env.Answers) {store : SessionStore}
    (hstore : env.sessionStore = some store) (httl : store.tokenTtl ≠ 0) {i : Input}
    (h : Step env σ i τ) {d : String × GameStart} (hd : d ∈ σ.addressedBy env i) :
    (τ.backend.tokenEntry d.2.authToken).isSome := by
  unfold RoomServer.addressedBy at hd
  split at hd
  · next s =>
      obtain ⟨-, rfl⟩ := Option.ite_some_none_eq_some.1 h
      split at hd
      · exact absurd hd List.not_mem_nil
      · next σ' heq =>
          have hmessage : σ.processMessage env s .startGame = σ'.dispatch env s .startGame := by
            unfold RoomServer.processMessage
            rw [heq]
          rw [hmessage]
          simp only [RoomServer.dispatch]
          split at hd
          · next hid =>
              rw [if_pos hid]
              exact isSome_of_addressed henv hstore httl hd
          · exact absurd hd List.not_mem_nil
  · exact absurd hd List.not_mem_nil

/-!
## Asking
-/

/-- A token with an entry is accepted. -/
theorem validateToken_of_entry (henv : env.Answers)
    (hjson : ∀ data, env.parseToken (env.dumpToken data) = some data) {token : String}
    {data : TokenData} {b : Backend} {t : Option ℕ}
    (h : b.tokenEntry token = some ⟨.string (env.dumpToken data), t⟩) :
    (b.validateToken env token).1 = some (some data) := by
  obtain ⟨ks, hks⟩ : ∃ ks, Redis.get ("token:" ++ token) b.redis.store =
      some (some (env.dumpToken data), ks) := by
    have hlookup : b.redis.store.lookup ("token:" ++ token) = _ := h
    simp only [Redis.get, Redis.onKey, hlookup, Option.map_some]
    exact ⟨_, rfl⟩
  obtain ⟨r, ks', hks'⟩ : ∃ r ks', Redis.del ("token:" ++ token) ks = some (r, ks') :=
    ⟨_, _, rfl⟩
  have hget : b.redisCall env (Redis.get ("token:" ++ token)) =
      (some (some (env.dumpToken data)), { b with redis := ⟨ks, b.redis.issued + 1⟩ }) := by
    rw [Backend.redisCall, Redis.call_answered (henv _) hks]
  have hdel : ({ b with redis := ⟨ks, b.redis.issued + 1⟩ } : Backend).redisCall env
      (Redis.del ("token:" ++ token)) =
        (some r, { b with redis := ⟨ks', b.redis.issued + 1 + 1⟩ }) := by
    rw [Backend.redisCall, Redis.call_answered (henv _) hks']
  rw [Backend.validateToken, hget]
  simp only
  rw [hdel, hjson]

/-- A request for a token is answered with the player and the session where the token has an
entry, and the entry is gone. -/
theorem answersValid_of_entry (henv : env.Answers)
    (hjson : ∀ data, env.parseToken (env.dumpToken data) = some data) {token p sid : String}
    {k : SessionPtr} {t : Option ℕ}
    (h : Step env σ (.gameServerMessage k (.tokenValidateRequest token)) τ)
    (hentry : σ.backend.tokenEntry token = some ⟨.string (env.dumpToken ⟨p, sid⟩), t⟩) :
    AnswersValid token p sid σ (.gameServerMessage k (.tokenValidateRequest token)) τ := by
  have hvalid := validateToken_of_entry henv hjson hentry
  obtain rfl := eq_of_tokenValidateRequest h
  refine ⟨k, rfl, ?_⟩
  unfold RoomServer.handleTokenValidate
  split
  · next heq =>
      rw [heq] at hvalid
      cases hvalid
      rfl
  · next hnot heq =>
      rw [heq] at hvalid
      exact absurd hvalid (hnot _)

/-!
## Between the start and the request
-/

/-- The entry of a token of `p` and `sid` that nobody has asked for and that lives until `t`. -/
structure Unasked (env : Env) (token p sid : String) (t : ℕ) (σ : RoomServer) : Prop where
  drawn : ∃ n < σ.backend.uuidsIssued, token = env.uuid n
  entry : σ.backend.tokenEntry token = if σ.backend.now < t then
    some ⟨.string (env.dumpToken ⟨p, sid⟩), some t⟩ else none

/-- A token that has been drawn and is not in Redis. -/
structure Gone (env : Env) (token : String) (σ : RoomServer) : Prop where
  drawn : ∃ n < σ.backend.uuidsIssued, token = env.uuid n
  entry : σ.backend.tokenEntry token = none

/-- An input that asks for the token. -/
def Asks (token : String) (i : Input) : Prop :=
  ∃ k, i = .gameServerMessage k (.tokenValidateRequest token)

theorem Gone.step {token : String} (h : Gone env token σ) (henv : env.Answers) {i : Input}
    (hstep : Step env σ i τ) : Gone env token τ := by
  obtain ⟨n, hn, htoken⟩ := h.drawn
  have hissues := issues_step henv.ne_unanswered hstep
  refine ⟨⟨n, hn.trans_le hissues.issued, htoken⟩, ?_⟩
  cases he : τ.backend.tokenEntry token with
  | none => rfl
  | some e =>
      rcases hissues.entries token e he with he | ⟨d, hd, heq, -⟩
      · rw [h.entry] at he
        cases he
      · obtain ⟨m, hm, -, hdrawn⟩ := hissues.drawn d hd
        have huuid : env.uuid m = env.uuid n := by rw [← hdrawn, heq, htoken]
        exact absurd (env.uuid_injective huuid) (hn.trans_le hm).ne'

/-- Nothing but a request for the token writes under its key. -/
theorem Unasked.step {token p sid : String} {t : ℕ} (h : Unasked env token p sid t σ)
    (henv : env.Answers) {i : Input} (hstep : Step env σ i τ) (hi : ¬ Asks token i) :
    Unasked env token p sid t τ := by
  obtain ⟨n, hn, htoken⟩ := h.drawn
  have hissues := issues_step henv.ne_unanswered hstep
  refine ⟨⟨n, hn.trans_le hissues.issued, htoken⟩, ?_⟩
  by_cases htick : ∃ seconds, i = .tick seconds
  · obtain ⟨seconds, rfl⟩ := htick
    obtain rfl := Option.some.inj hstep
    change (σ.backend.redis.store.advance seconds).lookup ("token:" ++ token) =
      if σ.backend.now + seconds < t then some ⟨.string (env.dumpToken ⟨p, sid⟩), some t⟩ else none
    have hentry : σ.backend.redis.store.lookup ("token:" ++ token) = _ := h.entry
    by_cases hlive : σ.backend.now < t
    · rw [if_pos hlive] at hentry
      exact Redis.Keyspace.lookup_advance hentry seconds
    · rw [if_neg hlive] at hentry
      rw [if_neg (by omega)]
      exact Redis.Keyspace.lookup_advance_of_none hentry seconds
  · have hspares : Spares ("token:" ++ token) σ τ := by
      refine sparesKey_step hstep (fun seconds heq => htick ⟨seconds, heq⟩) ?_
      generalize hkey : "token:" ++ token = key
      intro hwrites
      cases hwrites with
      | rate hlimiter => exact token_ne_rate _ _ hkey
      | started => exact activeSessionsKey_ne_token _ hkey.symm
      | token hm =>
          rw [htoken] at hkey
          have hsame := env.uuid_injective (token_injective hkey)
          exact absurd (hsame ▸ hm) (Nat.not_le.2 hn)
      | validated =>
          obtain rfl := token_injective hkey
          exact hi ⟨_, rfl⟩
      | heartbeat => exact token_ne_game_server _ _ hkey
      | released => exact activeSessionsKey_ne_token _ hkey.symm
      | lost => exact activeSessionsKey_ne_token _ hkey.symm
    have hentry : τ.backend.tokenEntry token = σ.backend.tokenEntry token := hspares.entry
    rw [hentry, hspares.now]
    exact h.entry

/-- After a request for it a token is gone. -/
theorem Unasked.asked {token p sid : String} {t : ℕ} (h : Unasked env token p sid t σ)
    (henv : env.Answers) (hjson : ∀ data, env.parseToken (env.dumpToken data) = some data)
    {i : Input} (hstep : Step env σ i τ) (hi : Asks token i) : Gone env token τ := by
  obtain ⟨k, rfl⟩ := hi
  have hentry := h.entry
  by_cases hlive : σ.backend.now < t
  · rw [if_pos hlive] at hentry
    obtain ⟨n, hn, htoken⟩ := h.drawn
    refine ⟨⟨n, hn.trans_le (issues_step henv.ne_unanswered hstep).issued, htoken⟩, ?_⟩
    exact ((answersValid_of_entry henv hjson hstep hentry).spec henv.ne_unanswered hstep).1
  · rw [if_neg hlive] at hentry
    exact Gone.step ⟨h.drawn, hentry⟩ henv hstep

/-- A token that is sent in a step lives from then on. -/
theorem unasked_of_addresses (henv : env.Answers) {store : Redis.Keyspace}
    (hstore : ∀ token, store.lookup ("token:" ++ token) = none) {is : List Input}
    (hrun : Run (Step env) (initial store) is σ) {i : Input} (hstep : Step env σ i τ)
    {p : String} {game : GameStart} (hsent : Addresses env p game σ i τ)
    {sessions : SessionStore} (hsessions : env.sessionStore = some sessions) :
    Unasked env game.authToken p game.sessionId (σ.backend.now + sessions.tokenTtl) τ := by
  have hout := henv.ne_unanswered
  have hissues := issues_step hout hstep
  obtain ⟨m, hm, hm', htoken⟩ := hissues.drawn _ hsent.made
  have hnow : τ.backend.now = σ.backend.now := by
    apply now_step hstep
    rintro seconds rfl
    exact absurd hsent.made List.not_mem_nil
  refine ⟨⟨m, hm', htoken⟩, ?_⟩
  rw [hnow]
  cases he : τ.backend.tokenEntry game.authToken with
  | none =>
      by_cases httl : sessions.tokenTtl = 0
      · rw [httl, if_neg (by omega)]
      · have hsome := isSome_step henv hsessions httl hstep hsent.made
        rw [he] at hsome
        cases hsome
  | some e =>
      rcases hissues.entries _ e he with hold | ⟨d, hd, heq, sessions', hsessions', rfl⟩
      · -- an older entry has another identifier
        obtain ⟨q, game', _, _, -, hoccurs, -⟩ := occurs_of_entry hout hstore hrun hold
        obtain ⟨n, hn, hdrawn⟩ := drawn_of_occurs hout
          (hoccurs.mono fun x j y hmade => ⟨q, game', hmade.1⟩)
        have hsame := env.uuid_injective (htoken.symm.trans hdrawn)
        exact absurd (hsame ▸ hm) (Nat.not_le.2 hn)
      · obtain rfl := List.inj_on_of_nodup_map hissues.nodup hd hsent.made heq
        obtain rfl := Option.some.inj (hsessions.symm.trans hsessions')
        have hlive : τ.backend.now < σ.backend.now + sessions.tokenTtl :=
          Redis.Keyspace.lt_of_lookup he
        rw [hnow] at hlive
        rw [if_pos hlive]

/-- A token that has been sent with the start of a game is accepted, for the player and the
session it has been sent for, if and only if nobody has asked for it before and its time is
not over, where Redis answers and had no tokens at the start and the JSON library reads what
it writes. -/
theorem answersValid_iff (henv : env.Answers)
    (hjson : ∀ data, env.parseToken (env.dumpToken data) = some data) {store : Redis.Keyspace}
    (hstore : ∀ token, store.lookup ("token:" ++ token) = none) {sessions : SessionStore}
    (hsessions : env.sessionStore = some sessions) {is js : List Input} {x y : RoomServer}
    {i : Input} {p : String} {game : GameStart} {k : SessionPtr}
    (hbefore : Run (Step env) (initial store) is x) (hstart : Step env x i y)
    (hsent : Addresses env p game x i y) (hafter : Run (Step env) y js σ)
    (hstep : Step env σ (.gameServerMessage k (.tokenValidateRequest game.authToken)) τ)
    (q sid : String) :
    AnswersValid game.authToken q sid σ
        (.gameServerMessage k (.tokenValidateRequest game.authToken)) τ ↔
      (q = p ∧ sid = game.sessionId) ∧ (∀ j ∈ js, ¬ Asks game.authToken j) ∧
        σ.backend.now < x.backend.now + sessions.tokenTtl := by
  have hrun : ((∀ j ∈ js, ¬ Asks game.authToken j) ∧ Unasked env game.authToken p
      game.sessionId (x.backend.now + sessions.tokenTtl) σ) ∨
        (∃ j ∈ js, Asks game.authToken j) ∧ Gone env game.authToken σ := by
    clear hstep
    induction hafter with
    | nil => exact Or.inl ⟨fun j hj => absurd hj List.not_mem_nil,
        unasked_of_addresses henv hstore hbefore hstart hsent hsessions⟩
    | @snoc js y e z _ hstep ih =>
        rcases ih with ⟨hnone, hunasked⟩ | ⟨⟨j, hj, hasks⟩, hgone⟩
        · by_cases he : Asks game.authToken e
          · exact Or.inr ⟨⟨e, List.mem_append_right _ List.mem_cons_self, he⟩,
              hunasked.asked henv hjson hstep he⟩
          · refine Or.inl ⟨fun j hj => ?_, hunasked.step henv hstep he⟩
            rcases List.mem_append.1 hj with hj | hj
            · exact hnone j hj
            · rw [List.mem_singleton.1 hj]
              exact he
        · exact Or.inr ⟨⟨j, List.mem_append_left _ hj, hasks⟩, hgone.step henv hstep⟩
  rcases hrun with ⟨hnone, hunasked⟩ | ⟨⟨j, hj, hasks⟩, hgone⟩
  · have hentry := hunasked.entry
    constructor
    · intro hvalid
      obtain ⟨-, e, he, hparse⟩ := hvalid.spec henv.ne_unanswered hstep
      rw [he] at hentry
      by_cases hlive : σ.backend.now < x.backend.now + sessions.tokenTtl
      · rw [if_pos hlive] at hentry
        have hdata := hparse _ _ (Option.some.inj hentry)
        rw [hjson] at hdata
        cases hdata
        exact ⟨⟨rfl, rfl⟩, hnone, hlive⟩
      · rw [if_neg hlive] at hentry
        cases hentry
    · rintro ⟨⟨rfl, rfl⟩, -, hlive⟩
      rw [if_pos hlive] at hentry
      exact answersValid_of_entry henv hjson hstep hentry
  · constructor
    · intro hvalid
      obtain ⟨-, e, he, -⟩ := hvalid.spec henv.ne_unanswered hstep
      rw [hgone.entry] at he
      cases he
    · rintro ⟨-, hnone, -⟩
      exact absurd hasks (hnone j hj)

/-- What the host of a room is sent when its game starts. -/
def lateGame : GameStart :=
  ⟨"uu", "uuu", "127.0.0.1", 7979⟩

/-- The game server asks for a token in its last second. -/
theorem answersValid_iff_late : ∃ x y σ τ,
    Run (Step jsonEnv) (initial {}) [.connect 0 "10.0.0.1", .gameServerConnect 0,
      .clientMessage 0 (.createRoom ⟨"h", "H", "room", 4⟩)] x ∧
    Step jsonEnv x (.clientMessage 0 .startGame) y ∧ Run (Step jsonEnv) y [.tick 59] σ ∧
    Step jsonEnv σ (.gameServerMessage 0 (.tokenValidateRequest "uuu")) τ ∧
    AnswersValid "uuu" "h" "uu" σ (.gameServerMessage 0 (.tokenValidateRequest "uuu")) τ := by
  have henv : jsonEnv.Answers := by
    intro n
    rfl
  obtain ⟨x, hrun, hx⟩ := exists_run_of_exec (fun _ _ => true) (step jsonEnv) (initial {})
    [.connect 0 "10.0.0.1", .gameServerConnect 0,
      .clientMessage 0 (.createRoom ⟨"h", "H", "room", 4⟩)]
    (fun x => decide (("h", lateGame) ∈ x.addressedBy jsonEnv (.clientMessage 0 .startGame)) &&
      (step jsonEnv x (.clientMessage 0 .startGame)).any fun y =>
        (step jsonEnv y (.tick 59)).any fun σ =>
          (step jsonEnv σ (.gameServerMessage 0 (.tokenValidateRequest "uuu"))).isSome &&
            decide (σ.backend.now < x.backend.now + 60)) (by decide +kernel)
  obtain ⟨hmade, hy⟩ := Bool.and_eq_true_iff.1 hx
  obtain ⟨y, hstart, hy⟩ := (Option.any_eq_true _ _).1 hy
  obtain ⟨σ, htick, hσ⟩ := (Option.any_eq_true _ _).1 hy
  obtain ⟨hτ, hlive⟩ := Bool.and_eq_true_iff.1 hσ
  obtain ⟨τ, hstep⟩ := Option.isSome_iff_exists.1 hτ
  have hsent : Addresses jsonEnv "h" lateGame x (.clientMessage 0 .startGame) y :=
    addresses_step henv.ne_unanswered hstart (of_decide_eq_true hmade)
  have hafter : Run (Step jsonEnv) y [.tick 59] σ := Run.single htick
  refine ⟨x, y, σ, τ, hrun.of_guarded, hstart, hafter, hstep, ?_⟩
  have hvalid := answersValid_iff (k := 0) henv (fun data => parseTokenText_dumpTokenText data)
    (fun token => rfl) rfl hrun.of_guarded hstart hsent hafter hstep "h" "uu"
  refine hvalid.2 ⟨⟨rfl, rfl⟩, fun j hj => ?_, of_decide_eq_true hlive⟩
  rintro ⟨k, rfl⟩
  cases List.mem_singleton.1 hj

end Room

end SosBackend
