import SosBackend.Chat.Membership

/-!
# Who receives a message

A message is refused, with an error to its sender, or delivered to the connections of
the players of its channel. Who may send follows from the record of the sender, who
receives from the members of the channel; the agreement of the two makes the receivers
of a message to a session exactly the players with the session id of the sender.
-/

namespace SosBackend

namespace Chat

namespace ChatServer

/-- The session that `sendTo` reaches: that of the player, if it is still open. -/
def reached (σ : ChatServer) (p : String) : Option SessionPtr :=
  (σ.registered p).filter fun s => (σ.sessions s).isOpen

/-- The envelope has been handed to the connection of every player with `Q` who can be
reached, once for each of them, and to nobody else. -/
def DeliveredTo (σ τ : ChatServer) (Q : String → Prop) (envelope : ChatEnvelope) : Prop :=
  ∃ ids : List String, ids.Nodup ∧ (∀ q, q ∈ ids ↔ Q q ∧ (σ.reached q).isSome) ∧
    τ.sent = σ.sent ++ (ids.filterMap σ.reached).map fun s => ⟨s, envelope⟩

/-- What is wrong with a message of a player who has this record. -/
def refusal (env : Env) (σ : ChatServer) (state : PlayerState) (message : ChatSend) :
    Option ChatError :=
  match messageError env message.content with
  | some error => some error
  | none =>
      match message.channel with
      | .lobby => if state.inLobby then none else some ⟨.channelNotJoined, "Not in lobby channel"⟩
      | .all =>
          if state.sessionId = "" then some ⟨.channelNotJoined, "Not in a game session"⟩ else none
      | .whisper =>
          if message.whisperTarget = "" then
            some ⟨.playerNotFound, "Whisper target not specified"⟩
          else if σ.manager.players.contains message.whisperTarget then none
          else some ⟨.playerNotFound, "Player not found"⟩
      | .unknown => some ⟨.invalidChannel, "Invalid channel"⟩

/-- The history of a session, newest message first. -/
def history (σ : ChatServer) (sid : String) : List (List UInt8) :=
  match σ.redis.store.lookup (historyKey sid) with
  | some ⟨.list l, _⟩ => l
  | _ => []

/-- A history keeps the newest messages, as many as the server is configured for; it
keeps all of them where that number is zero. -/
def newest (env : Env) (l : List (List UInt8)) : List (List UInt8) :=
  if env.historySize.toNat = 0 then l else l.take env.historySize.toNat

/-- What a message leaves of a history that has become `l`: the newest messages, or nothing
where they expire at once. -/
def kept (env : Env) (l : List (List UInt8)) : List (List UInt8) :=
  if env.sessionTtl = 0 then [] else newest env l

/-- Redis carries out the commands that write to the history of a session: it is there,
it answers the next three commands, and it has no value of another type under the key. -/
structure RedisSucceeds (env : Env) (σ : ChatServer) (sid : String) : Prop where
  connected : env.redis = true
  answered : ∀ n, n < 3 → env.outcome (σ.redis.issued + n) = .answered
  list : ∀ e, σ.redis.store.lookup (historyKey sid) = some e → ∃ l, e.value = .list l

variable {env : Env} {σ τ : ChatServer} {p sid : String}

/-- What is wrong with a message depends on the players only. -/
theorem refusal_of_manager (h : τ.manager = σ.manager) (state : PlayerState)
    (message : ChatSend) : refusal env τ state message = refusal env σ state message := by
  rw [refusal, refusal, h]

/-!
## Sending
-/

theorem send_eq (σ : ChatServer) (s : SessionPtr) (envelope : ChatEnvelope)
    (hopen : (σ.sessions s).closed = false) :
    σ.send s envelope = { σ with sent := σ.sent ++ [⟨s, envelope⟩] } :=
  if_neg (by rw [hopen]; exact Bool.false_ne_true)

theorem sendTo_eq (σ : ChatServer) (p : String) (envelope : ChatEnvelope) :
    σ.sendTo p envelope =
      { σ with sent := σ.sent ++ (σ.reached p).toList.map fun s => ⟨s, envelope⟩ } := by
  unfold sendTo reached registered
  split
  · next hp => simp [hp]
  next state hp =>
  rw [hp, Option.map_some, Option.filter_some]
  unfold lock
  by_cases halive : (σ.sessions state.session).lifetime = .alive
  · rw [if_pos halive]
    simp only
    cases hclosed : (σ.sessions state.session).closed with
    | false =>
        rw [send_eq σ state.session envelope hclosed]
        simp [ChatSession.isOpen, halive, hclosed]
    | true => simp [send, ChatSession.isOpen, hclosed]
  · simp [halive, ChatSession.isOpen]

theorem reached_sendTo (σ : ChatServer) (p : String) (envelope : ChatEnvelope) :
    (σ.sendTo p envelope).reached = σ.reached := by
  rw [sendTo_eq]
  rfl

theorem broadcast_eq (ids : List String) (σ : ChatServer) (envelope : ChatEnvelope) :
    σ.broadcast ids envelope =
      { σ with sent := σ.sent ++ (ids.filterMap σ.reached).map fun s => ⟨s, envelope⟩ } := by
  induction ids generalizing σ with
  | nil => simp [broadcast]
  | cons p ids ih =>
      have hcons : σ.broadcast (p :: ids) envelope =
          (σ.sendTo p envelope).broadcast ids envelope := rfl
      rw [hcons, ih, reached_sendTo, sendTo_eq]
      cases hp : σ.reached p with
      | none => simp [hp]
      | some s => simp [hp]

/-- A broadcast to a list of players delivers to those of them who can be reached. -/
theorem deliveredTo_broadcast {Q : String → Prop} {ids : List String} (hnodup : ids.Nodup)
    (hids : ∀ q, q ∈ ids ↔ Q q) (envelope : ChatEnvelope) :
    DeliveredTo σ (σ.broadcast ids envelope) Q envelope := by
  refine ⟨ids.filter fun q => (σ.reached q).isSome, hnodup.filter _, ?_, ?_⟩
  · intro q
    rw [List.mem_filter, hids]
  · have hreached : ∀ q, (if (σ.reached q).isSome then σ.reached q else none) = σ.reached q := by
      intro q
      cases σ.reached q with
      | none => rfl
      | some s => rfl
    rw [List.filterMap_filter, broadcast_eq]
    simp only [hreached]

/-!
## The history
-/

theorem holdsList_history (h : RedisSucceeds env σ sid) :
    Redis.HoldsList σ.redis.store (historyKey sid) (σ.history sid) := by
  unfold history
  cases hlookup : σ.redis.store.lookup (historyKey sid) with
  | none => exact Or.inl ⟨hlookup, rfl⟩
  | some e =>
      obtain ⟨value, t⟩ := e
      obtain ⟨l, hl⟩ := h.list _ hlookup
      obtain rfl : value = .list l := hl
      exact Or.inr ⟨t, hlookup⟩

theorem history_of_holdsList {l : List (List UInt8)}
    (h : Redis.HoldsList σ.redis.store (historyKey sid) l) : σ.history sid = l := by
  unfold history
  rcases h with ⟨hnone, rfl⟩ | ⟨t, ht⟩
  · rw [hnone]
  · rw [ht]

/-- The history that a message leaves behind is a list, empty where the expiry is one of no
time, and no other key is written. -/
theorem holdsList_saveToHistory_of_answered (hconnected : env.redis = true)
    (hanswered : ∀ n, n < 3 → env.outcome (σ.redis.issued + n) = .answered)
    {l : List (List UInt8)} (hlist : Redis.HoldsList σ.redis.store (historyKey sid) l)
    (receive : ChatReceive) :
    Redis.HoldsList (σ.saveToHistory env sid receive).redis.store (historyKey sid)
        (kept env (env.serialize receive :: l)) ∧
      ∀ key, key ≠ historyKey sid →
        (σ.saveToHistory env sid receive).redis.store.lookup key = σ.redis.store.lookup key := by
  obtain ⟨n, ks, hpush, hlist, hks⟩ := hlist.lpush (env.serialize receive)
  obtain ⟨ks', htrim, hlist', hks'⟩ := hlist.ltrim 0 ((env.historySize.toNat : ℤ) - 1)
  obtain ⟨b, ks'', hexpire, hlist'', hks''⟩ := hlist'.expire env.sessionTtl
  have hstore : (σ.saveToHistory env sid receive).redis.store = ks'' := by
    rw [saveToHistory, attempt, if_pos hconnected]
    simp only
    rw [Redis.attempt_cons (c := σ.redis) (hanswered 0 (by omega)) hpush,
      Redis.attempt_cons (c := ⟨ks, σ.redis.issued + 1⟩) (hanswered 1 (by omega)) htrim,
      Redis.attempt_cons (c := ⟨ks', σ.redis.issued + 1 + 1⟩) (hanswered 2 (by omega)) hexpire]
    rfl
  rw [hstore]
  constructor
  · rw [Redis.slice_zero_pred] at hlist''
    exact hlist''
  · intro key hkey
    rw [hks'' key hkey, hks' key hkey, hks key hkey]

/-- A message is appended to the history of its session, and nothing else is written. -/
theorem saveToHistory_spec (h : RedisSucceeds env σ sid) (receive : ChatReceive) :
    (σ.saveToHistory env sid receive).history sid =
        kept env (env.serialize receive :: σ.history sid) ∧
      ∀ key, key ≠ historyKey sid →
        (σ.saveToHistory env sid receive).redis.store.lookup key = σ.redis.store.lookup key := by
  obtain ⟨hlist, hother⟩ := holdsList_saveToHistory_of_answered h.connected h.answered
    (holdsList_history h) receive
  exact ⟨history_of_holdsList hlist, hother⟩

/-!
## The verdict on a message
-/

section verdict

variable {state : PlayerState} {message : ChatSend}

theorem handleChatSend_of_refused {error : ChatError}
    (hp : σ.manager.players.find? p = some state)
    (h : refusal env σ state message = some error) :
    σ.handleChatSend env p message = σ.sendError p error := by
  unfold refusal at h
  unfold handleChatSend deliver
  rw [hp]
  simp only
  cases hcontent : messageError env message.content with
  | some error' =>
      rw [hcontent] at h
      cases h
      rfl
  | none =>
      rw [hcontent] at h
      simp only at h ⊢
      cases hchannel : message.channel with
      | unknown =>
          rw [hchannel] at h
          cases h
          rfl
      | lobby =>
          rw [hchannel] at h
          obtain ⟨hlobby, heq⟩ := Option.ite_none_left_eq_some.1 h
          cases heq
          exact if_neg hlobby
      | all =>
          rw [hchannel] at h
          obtain ⟨hsid, heq⟩ := Option.ite_none_right_eq_some.1 h
          cases heq
          exact if_pos (beq_iff_eq.2 hsid)
      | whisper =>
          rw [hchannel] at h
          simp only at h ⊢
          by_cases htarget : message.whisperTarget = ""
          · rw [if_pos htarget] at h
            cases h
            exact if_pos (beq_iff_eq.2 htarget)
          · rw [if_neg htarget] at h
            obtain ⟨hcontains, heq⟩ := Option.ite_none_left_eq_some.1 h
            cases heq
            rw [if_neg (by simpa using htarget), if_neg hcontains]

theorem messageError_of_accepted (h : refusal env σ state message = none) :
    messageError env message.content = none := by
  unfold refusal at h
  split at h
  · cases h
  · assumption

/-- A message that is not refused is delivered. -/
theorem handleChatSend_of_accepted (hp : σ.manager.players.find? p = some state)
    (h : refusal env σ state message = none) :
    σ.handleChatSend env p message = σ.deliver env p state message := by
  rw [handleChatSend, hp]
  simp only [messageError_of_accepted h]

/-- What a channel that accepts a message asks for. -/
theorem of_accepted (h : refusal env σ state message = none) :
    (message.channel = .lobby → state.inLobby = true) ∧
      (message.channel = .all → state.sessionId ≠ "") ∧
      (message.channel = .whisper → message.whisperTarget ≠ "" ∧
        σ.manager.players.contains message.whisperTarget = true) ∧
      message.channel ≠ .unknown := by
  unfold refusal at h
  split at h
  · cases h
  split at h
  · next hchannel => simpa [hchannel] using h
  · next hchannel => simpa [hchannel] using h
  · next hchannel =>
      by_cases htarget : message.whisperTarget = ""
      · simp [htarget] at h
      · simpa [hchannel, htarget] using h
  · cases h

end verdict

/-!
## Delivery
-/

/-- From `σ` to `τ` a message of the player `p`, who has this record, has been refused or
delivered. A refusal is all that anybody is sent, and it is sent to the player. A message
to the lobby goes to the players without a session, one to a session to the players of
that session and into its history, which is gone at once where messages expire at once, and
a whisper to its target and back to its sender. Nothing else changes. -/
structure Delivers (env : Env) (σ τ : ChatServer) (p : String) (state : PlayerState)
    (message : ChatSend) : Prop where
  manager : τ.manager = σ.manager
  sessions : τ.sessions = σ.sessions
  refused : ∀ error, refusal env σ state message = some error →
    τ.sent = σ.sent ++ [⟨state.session, .error error⟩] ∧ τ.redis = σ.redis
  lobby : refusal env σ state message = none → message.channel = .lobby →
    DeliveredTo σ τ (fun q => ∃ other, σ.manager.players.find? q = some other ∧
      other.sessionId = "") (.receive (σ.receiveOf p state message)) ∧ τ.redis = σ.redis
  all : refusal env σ state message = none → message.channel = .all →
    DeliveredTo σ τ (fun q => ∃ other, σ.manager.players.find? q = some other ∧
      other.sessionId = state.sessionId) (.receive (σ.receiveOf p state message)) ∧
    (RedisSucceeds env σ state.sessionId →
      τ.history state.sessionId =
          kept env (env.serialize (σ.receiveOf p state message) :: σ.history state.sessionId) ∧
        ∀ key, key ≠ historyKey state.sessionId →
          τ.redis.store.lookup key = σ.redis.store.lookup key)
  whisper : refusal env σ state message = none → message.channel = .whisper →
    τ.sent = σ.sent ++ ([message.whisperTarget, p].filterMap σ.reached).map
      (fun s => ⟨s, .receive (σ.receiveOf p state message)⟩) ∧ τ.redis = σ.redis
  known : refusal env σ state message = none → message.channel ≠ .unknown

section delivery

variable {state : PlayerState} {message : ChatSend}

theorem delivers_of_refused {error : ChatError} (hp : σ.manager.players.find? p = some state)
    (hopen : (σ.sessions state.session).isOpen = true)
    (h : refusal env σ state message = some error) :
    Delivers env σ (σ.handleChatSend env p message) p state message := by
  have hnone : ¬ refusal env σ state message = none := by
    rw [h]
    exact Option.some_ne_none error
  have hreached : σ.reached p = some state.session := by
    rw [reached, registered, hp, Option.map_some, Option.filter_some, hopen, if_pos rfl]
  rw [handleChatSend_of_refused hp h, sendError, sendTo_eq, hreached]
  constructor
  · rfl
  · rfl
  · intro error' h'
    cases h.symm.trans h'
    exact ⟨rfl, rfl⟩
  · intro haccepted
    exact absurd haccepted hnone
  · intro haccepted
    exact absurd haccepted hnone
  · intro haccepted
    exact absurd haccepted hnone
  · intro haccepted
    exact absurd haccepted hnone

/-- The members of a session channel as a list. -/
theorem exists_broadcastToSession (hplaced : σ.directory.Placed)
    (hp : σ.manager.players.find? p = some state) (hsid : state.sessionId ≠ "")
    (envelope : ChatEnvelope) :
    ∃ ids : List String, ids.Nodup ∧
      (∀ q, q ∈ ids ↔ ∃ other, σ.manager.players.find? q = some other ∧
        other.sessionId = state.sessionId) ∧
      σ.broadcastToSession state.sessionId envelope = σ.broadcast ids envelope := by
  obtain ⟨channel, hchannel, -⟩ := mem_members.1
    ((hplaced.member _ p).2 ⟨hsid, state, hp, rfl⟩)
  refine ⟨channel.members.keyList, channel.members.nodup_keyList, ?_, ?_⟩
  · intro q
    have hmember := hplaced.member state.sessionId q
    rw [mem_members, hchannel, and_iff_right hsid] at hmember
    refine Iff.trans ?_ hmember
    rw [UnorderedMap.mem_keyList]
    constructor
    · intro hq
      exact ⟨channel, rfl, hq⟩
    · rintro ⟨channel', heq, hq⟩
      cases heq
      exact hq
  · rw [broadcastToSession, hchannel]

theorem delivers_of_accepted (hplaced : σ.directory.Placed)
    (hp : σ.manager.players.find? p = some state)
    (h : refusal env σ state message = none) :
    Delivers env σ (σ.handleChatSend env p message) p state message := by
  have hrefused : ∀ error, refusal env σ state message ≠ some error := by
    intro error hsome
    rw [h] at hsome
    cases hsome
  obtain ⟨-, hall, hwhisper, hknown⟩ := of_accepted h
  rw [handleChatSend_of_accepted hp h]
  unfold deliver
  cases hchannel : message.channel with
  | unknown => exact absurd hchannel hknown
  | lobby =>
      have hlobby : state.inLobby = true := (of_accepted h).1 hchannel
      have hids : ∀ q, q ∈ σ.manager.lobbyMembers.keyList ↔
          ∃ other, σ.manager.players.find? q = some other ∧ other.sessionId = "" := by
        intro q
        rw [UnorderedMap.mem_keyList]
        exact hplaced.lobby_id q
      have hdelivered := deliveredTo_broadcast (σ := σ)
        σ.manager.lobbyMembers.nodup_keyList hids (.receive (σ.receiveOf p state message))
      have hbroadcast := broadcast_eq σ.manager.lobbyMembers.keyList σ
        (.receive (σ.receiveOf p state message))
      simp only [hlobby, if_true]
      constructor
      · rw [broadcastToLobby, hbroadcast]
      · rw [broadcastToLobby, hbroadcast]
      · intro error hsome
        exact absurd hsome (hrefused error)
      · intro _ _
        refine ⟨hdelivered, ?_⟩
        rw [broadcastToLobby, hbroadcast]
      · intro _ hother
        cases hchannel.symm.trans hother
      · intro _ hother
        cases hchannel.symm.trans hother
      · intro _ hother
        cases hchannel.symm.trans hother
  | all =>
      have hsid := hall hchannel
      obtain ⟨ids, hnodup, hids, hbroadcast⟩ := exists_broadcastToSession hplaced hp hsid
        (.receive (σ.receiveOf p state message))
      have heq := broadcast_eq ids σ (.receive (σ.receiveOf p state message))
      have hdelivered := deliveredTo_broadcast (σ := σ) hnodup hids
        (.receive (σ.receiveOf p state message))
      simp only [beq_iff_eq, hsid, if_false, hbroadcast]
      constructor
      · rw [saveToHistory, (stores_attempt env _ _).manager, heq]
      · rw [saveToHistory, (stores_attempt env _ _).sessions, heq]
      · intro error hsome
        exact absurd hsome (hrefused error)
      · intro _ hother
        cases hchannel.symm.trans hother
      · intro _ _
        constructor
        · rw [DeliveredTo, saveToHistory, (stores_attempt env _ _).sent]
          exact hdelivered
        · intro hredis
          have hredis' : RedisSucceeds env (σ.broadcast ids
              (.receive (σ.receiveOf p state message))) state.sessionId := by
            rw [heq]
            exact ⟨hredis.connected, hredis.answered, hredis.list⟩
          obtain ⟨hhistory, hkeys⟩ := saveToHistory_spec hredis' (σ.receiveOf p state message)
          rw [hhistory]
          constructor
          · rw [heq]
            rfl
          · intro key hkey
            rw [hkeys key hkey, heq]
      · intro _ hother
        cases hchannel.symm.trans hother
      · intro _ hother
        cases hchannel.symm.trans hother
  | whisper =>
      obtain ⟨htarget, hcontains⟩ := hwhisper hchannel
      have hboth : (σ.sendTo message.whisperTarget (.receive (σ.receiveOf p state message))).sendTo
          p (.receive (σ.receiveOf p state message)) =
            σ.broadcast [message.whisperTarget, p] (.receive (σ.receiveOf p state message)) :=
        rfl
      simp only [beq_iff_eq, htarget, if_false, hcontains, if_true, hboth, broadcast_eq]
      constructor
      · rfl
      · rfl
      · intro error hsome
        exact absurd hsome (hrefused error)
      · intro _ hother
        cases hchannel.symm.trans hother
      · intro _ hother
        cases hchannel.symm.trans hother
      · intro _ _
        exact ⟨rfl, rfl⟩
      · intro _ hother
        cases hchannel.symm.trans hother

/-- In every state that calls of the handlers reach, a message of a player with an open
connection is refused, or delivered to exactly the players of its channel. -/
theorem delivers_of_calls {σ₀ : ChatServer} {cs : List HandlerCall}
    (hinitial : σ₀.manager = {}) (hrun : Run (Guarded opensFresh (Called env)) σ₀ cs σ)
    {σ' : ChatServer} (hσ' : σ'.manager = σ.manager)
    (hp : σ'.manager.players.find? p = some state)
    (hopen : (σ'.sessions state.session).isOpen = true) (message : ChatSend) :
    Delivers env σ' (σ'.handleChatSend env p message) p state message := by
  have hplaced := placed_of_calls hinitial hrun
  rw [← directory_of_manager hσ'] at hplaced
  cases hrefusal : refusal env σ' state message with
  | some error => exact delivers_of_refused hp hopen hrefusal
  | none => exact delivers_of_accepted hplaced hp hrefusal

/-- A player has entered a session, and the connections are open. -/
def inSession (env : Env) : ChatServer :=
  { ((initial {}).handleSessionCreated env ⟨"s", []⟩).handleAuth env ⟨"p", "s", "P"⟩ 0 with
    sessions := fun _ => { lifetime := .alive } }

/-- The default settings with messages that expire at once. -/
def zeroTtlEnv : Env :=
  { defaultEnv with sessionTtl := 0 }

theorem redisSucceeds_inSession (hconnected : env.redis = true)
    (hanswered : ∀ n, env.outcome n = .answered)
    (hempty : (inSession env).redis.store.lookup (historyKey "s") = none) :
    RedisSucceeds env (inSession env) "s" := by
  refine ⟨hconnected, fun n _ => hanswered _, fun e he => ?_⟩
  rw [hempty] at he
  cases he

/-- A message that expires at once is not in the history that it has been appended to. -/
theorem not_appends_zeroTtl :
    ¬ ∀ (env : Env) (σ₀ σ σ' : ChatServer) (cs : List HandlerCall), σ₀.manager = {} →
      Run (Guarded opensFresh (Called env)) σ₀ cs σ → σ'.manager = σ.manager →
        ∀ p state message, σ'.manager.players.find? p = some state →
          (σ'.sessions state.session).isOpen = true → refusal env σ' state message = none →
            message.channel = .all → RedisSucceeds env σ' state.sessionId →
              (σ'.handleChatSend env p message).history state.sessionId =
                newest env (env.serialize (σ'.receiveOf p state message) ::
                  σ'.history state.sessionId) := by
  intro hclaim
  have hplaced : (inSession zeroTtlEnv).directory.Placed := by
    have hcalls := placed_of_calls rfl (run_calls_example zeroTtlEnv)
    exact hcalls
  have hp : (inSession zeroTtlEnv).manager.players.find? "p" = some ⟨"P", "s", 0, false⟩ := by
    decide +kernel
  have haccepted : refusal zeroTtlEnv (inSession zeroTtlEnv) ⟨"P", "s", 0, false⟩
      ⟨.all, "hi", ""⟩ = none := by
    decide +kernel
  have hredis : RedisSucceeds zeroTtlEnv (inSession zeroTtlEnv) "s" :=
    redisSucceeds_inSession rfl (fun _ => rfl) (Option.isNone_iff_eq_none.1 (by decide +kernel))
  have hclaimed := hclaim zeroTtlEnv _ _ (inSession zeroTtlEnv) _ rfl
    (run_calls_example zeroTtlEnv) rfl "p" _ ⟨.all, "hi", ""⟩ hp rfl haccepted rfl hredis
  have hgone := (((delivers_of_accepted hplaced hp haccepted).all haccepted rfl).2 hredis).1
  have hexpires : zeroTtlEnv.sessionTtl = 0 := rfl
  have hsize : ¬ zeroTtlEnv.historySize.toNat = 0 := by decide
  rw [hclaimed, kept, if_pos hexpires, newest, if_neg hsize] at hgone
  exact List.cons_ne_nil _ _ hgone

/-- A player enters a session and writes to it. -/
theorem delivers_of_calls_example :
    refusal defaultEnv (inSession defaultEnv) ⟨"P", "s", 0, false⟩ ⟨.all, "hi", ""⟩ = none ∧
      RedisSucceeds defaultEnv (inSession defaultEnv) "s" ∧
      Delivers defaultEnv (inSession defaultEnv)
        ((inSession defaultEnv).handleChatSend defaultEnv "p" ⟨.all, "hi", ""⟩) "p"
        ⟨"P", "s", 0, false⟩ ⟨.all, "hi", ""⟩ := by
  refine ⟨by decide +kernel, ?_, ?_⟩
  · exact redisSucceeds_inSession rfl (fun _ => rfl)
      (Option.isNone_iff_eq_none.1 (by decide +kernel))
  · apply delivers_of_calls rfl (run_calls_example defaultEnv)
    · rfl
    · decide +kernel
    · rfl

end delivery

end ChatServer

end Chat

end SosBackend
