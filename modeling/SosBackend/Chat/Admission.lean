import SosBackend.Chat.Delivery
import SosBackend.Chat.Identity

/-!
# Who is let into a session

The Room Server announces the players of a session, and the channel of the session
keeps them. An authentication for the session does not look at them: it only asks
whether there is a channel. As long as those who authenticate for a session have been
announced for it, its members are among the announced players, and nobody else is
sent a message to the session or its history.
-/

namespace SosBackend

namespace Chat

open ChatServer

/-!
## Placements
-/

namespace Directory

/-- Every member of a channel has been announced for it. -/
def Announced (v : Directory) : Prop :=
  ∀ sid channel, v.channels sid = some channel → channel.members ⊆ channel.expected

variable {v w : Directory} {sid x : String}

/-- Changing the members of a channel leaves those announced. -/
theorem channels_setMembers {f : Set String → Set String} {channel : Channel}
    (h : (v.setMembers sid f).channels x = some channel) :
    ∃ channel', v.channels x = some channel' ∧ channel.expected = channel'.expected ∧
      channel.members = if x = sid then f channel'.members else channel'.members := by
  by_cases hx : x = sid
  · subst hx
    simp only [setMembers, Function.update_self, Option.map_eq_some_iff] at h
    obtain ⟨channel', hchannel, rfl⟩ := h
    exact ⟨channel', hchannel, rfl, (if_pos rfl).symm⟩
  · simp only [setMembers, Function.update_of_ne hx] at h
    exact ⟨channel, h, rfl, (if_neg hx).symm⟩

/-- A placement other than the opening of a session keeps who is announced, and lets in
at most the player that enters. -/
theorem channels_place {a : Placement} {channel : Channel} (h : Place v a w)
    (ha : ∀ message, a ≠ .openSession message) (hx : w.channels x = some channel) :
    ∃ channel', v.channels x = some channel' ∧ channel.expected = channel'.expected ∧
      ∀ p ∈ channel.members, p ∈ channel'.members ∨ a = .enterSession p x := by
  cases h with
  | @drop q state hp =>
      by_cases hsid : state.sessionId = ""
      · simp only [Directory.drop, hsid, if_true] at hx
        exact ⟨channel, hx, rfl, fun p hp => Or.inl hp⟩
      · simp only [Directory.drop, hsid, if_false] at hx
        obtain ⟨channel', hchannel, hexpected, hmembers⟩ := channels_setMembers hx
        refine ⟨channel', hchannel, hexpected, fun p hp => Or.inl ?_⟩
        rw [hmembers] at hp
        split at hp
        · exact hp.1
        · exact hp
  | enterLobby hp hsid hlobby => exact ⟨channel, hx, rfl, fun p hp => Or.inl hp⟩
  | @enterSession q state hp hsid hlobby hchannel =>
      obtain ⟨channel', hchannel, hexpected, hmembers⟩ := channels_setMembers hx
      refine ⟨channel', hchannel, hexpected, fun p hp => ?_⟩
      rw [hmembers] at hp
      split at hp
      · next heq =>
          rcases hp with rfl | hp
          · exact Or.inr (by rw [heq])
          · exact Or.inl hp
      · exact Or.inl hp
  | @openSession message => exact absurd rfl (ha message)
  | @endSession sid hchannel =>
      by_cases hsid : x = sid
      · subst hsid
        simp only [Directory.endSession, Function.update_self] at hx
        cases hx
      · simp only [Directory.endSession, Function.update_of_ne hsid] at hx
        exact ⟨channel, hx, rfl, fun p hp => Or.inl hp⟩

/-- A session that is opened has the announced players and no members. -/
theorem channels_openSession {message : SessionCreated} {channel : Channel}
    (h : Place v (.openSession message) w) (hx : w.channels x = some channel) :
    (x = message.sessionId ∧
        channel = ⟨∅, {p | ∃ player ∈ message.players, player.playerId = p}⟩) ∨
      v.channels x = some channel := by
  cases h
  by_cases hsid : x = message.sessionId
  · subst hsid
    simp only [Function.update_self] at hx
    exact Or.inl ⟨rfl, (Option.some.inj hx).symm⟩
  · simp only [Function.update_of_ne hsid] at hx
    exact Or.inr hx

end Directory

namespace ChatServer

/-- The placements that an input may cause. -/
def Causes (σ : ChatServer) (i : Input) : Placement → Prop
  | .openSession message => i = .internalMessage (.sessionCreated message)
  | .enterSession p sid => ∃ s auth, i = .message s (.auth auth) ∧ auth.playerId = p ∧
      auth.sessionId = sid ∧ sid ≠ "" ∧ σ.accepts auth = true
  | _ => True

theorem causes_of_drop {σ : ChatServer} {i : Input} {p : String} {as : List Placement}
    (h : ∀ a ∈ as, a = .drop p) : ∀ a ∈ as, σ.Causes i a := by
  intro a ha
  rw [h a ha]
  trivial

theorem directory_processSend (env : Env) (s : SessionPtr) (message : ChatSend)
    (σ : ChatServer) : (σ.processSend env s message).directory = σ.directory := by
  unfold processSend
  split
  · have hlimit := directory_of_manager (stores_rateLimit env s σ).manager
    split
    · next heq =>
        rw [heq] at hlimit
        exact (directory_send _ _ _).trans hlimit
    · next heq =>
        rw [heq] at hlimit
        exact (directory_handleChatSend _ _ _ _).trans hlimit
  · exact directory_send _ _ _

/-- A step is a run of the placements that its input causes. -/
theorem run_step {env : Env} {σ τ : ChatServer} {i : Input} (h : Step env σ i τ) :
    ∃ as, Run Place σ.directory as τ.directory ∧ ∀ a ∈ as, σ.Causes i a := by
  have hstays : ∀ τ : ChatServer, τ.directory = σ.directory →
      ∃ as, Run Place σ.directory as τ.directory ∧ ∀ a ∈ as, σ.Causes i a := by
    intro τ hdirectory
    refine ⟨[], ?_, fun a ha => absurd ha List.not_mem_nil⟩
    rw [hdirectory]
    exact Run.nil
  cases i with
  | connect s =>
      obtain ⟨-, rfl⟩ := Option.ite_some_none_eq_some.1 h
      exact hstays _ rfl
  | message s envelope =>
      obtain ⟨-, rfl⟩ := Option.ite_some_none_eq_some.1 h
      cases envelope with
      | auth auth =>
          obtain ⟨as, hrun, has⟩ := run_handleAuth env auth s σ
          refine ⟨as, hrun, fun a ha => ?_⟩
          rcases has a ha with rfl | rfl | ⟨rfl, hsid, haccepts⟩
          · trivial
          · trivial
          · exact ⟨s, auth, rfl, rfl, rfl, hsid, haccepts⟩
      | send message =>
          exact hstays _ (directory_processSend env s message σ)
      | _ => exact hstays _ rfl
  | close s =>
      obtain ⟨-, rfl⟩ := Option.ite_some_none_eq_some.1 h
      obtain ⟨as, hrun, has⟩ := run_closeSession s σ
      exact ⟨as, hrun, causes_of_drop has⟩
  | released s =>
      obtain ⟨-, rfl⟩ := Option.ite_some_none_eq_some.1 h
      exact hstays _ rfl
  | internalMessage envelope =>
      obtain rfl := Option.some.inj h
      cases envelope with
      | sessionCreated message =>
          refine ⟨[.openSession message],
            Run.single (place_handleSessionCreated env message σ), fun a ha => ?_⟩
          rw [List.mem_singleton.1 ha]
          rfl
      | sessionEnded message =>
          rcases run_handleSessionEnded env message σ with ⟨-, heq⟩ | hplace
          · exact hstays _ heq
          · refine ⟨[.endSession message.sessionId], Run.single hplace, fun a ha => ?_⟩
            rw [List.mem_singleton.1 ha]
            trivial
      | _ => exact hstays _ rfl
  | clock now =>
      obtain rfl := Option.some.inj h
      exact hstays _ rfl
  | tick seconds =>
      obtain rfl := Option.some.inj h
      exact hstays _ rfl

/-!
## Deliveries
-/

/-- The input is a message to a session from one of its players, or it asks for the
history of a session by entering it. -/
inductive Tells (σ : ChatServer) : Input → String → Prop
  | message {s : SessionPtr} {message : ChatSend} {state : PlayerState}
      (hchannel : message.channel = .all)
      (hp : σ.manager.players.find? (σ.sessions s).playerId = some state) :
      Tells σ (.message s (.send message)) state.sessionId
  | history {s : SessionPtr} {auth : ChatAuth} (hsid : auth.sessionId ≠ "") :
      Tells σ (.message s (.auth auth)) auth.sessionId

/-- If the envelope carries a message, to a session or from its history, then it goes to a
player who is a member of the session or enters it. -/
def Heard (σ τ : ChatServer) (i : Input) (d : Delivery) : Prop :=
  ∀ receive, d.envelope = .receive receive →
    (receive.channel ≠ .all ∧ ∀ sid, ¬ Tells σ i sid) ∨
      ∃ sid p, Tells σ i sid ∧
        (p ∈ σ.directory.members sid ∨ σ.Causes i (.enterSession p sid)) ∧
        τ.registered p = some d.session

theorem heard_of_not_receive {σ τ : ChatServer} {i : Input} {d : Delivery}
    (h : ∀ receive, d.envelope ≠ .receive receive) : Heard σ τ i d :=
  fun receive henvelope => absurd henvelope (h receive)

/-- The history goes to the session of the player who asks for it. -/
theorem sendHistory_registered (env : Env) (p sid : String) (σ : ChatServer) :
    Appends (fun d => σ.registered p = some d.session) σ.sent (σ.sendHistory env p sid).sent := by
  have hentries : ∀ (entries : List (List UInt8)) (σ : ChatServer),
      Appends (fun d => σ.registered p = some d.session) σ.sent
        (entries.foldl (sendHistoryEntry env p) σ).sent := by
    intro entries
    induction entries with
    | nil => exact fun σ => Appends.refl _
    | cons entry entries ih =>
        intro σ
        rw [List.foldl_cons]
        unfold sendHistoryEntry
        split
        · exact ih σ
        · next receive hparse =>
            have hrest := ih (σ.sendTo p (.receive receive))
            rw [sendTo_eq] at hrest ⊢
            refine Appends.trans ⟨_, rfl, ?_⟩ hrest
            intro d hd
            obtain ⟨s, hs, rfl⟩ := List.mem_map.1 hd
            exact (Option.filter_eq_some_iff.1 (Option.mem_toList.1 hs)).1
  unfold sendHistory
  split
  · split
    · exact Appends.refl _
    · next entries redis _ => exact hentries entries.reverse { σ with redis := redis }
  · exact Appends.refl _

/-- An authentication for a session that has a channel makes the player a member of it, and
is answered with success on an open connection. -/
theorem enters_handleAuth {auth : ChatAuth} {s : SessionPtr} {σ : ChatServer}
    (hcomplete : auth.isComplete = true) (hsid : auth.sessionId ≠ "")
    (hchannel : σ.manager.sessionChannels.contains auth.sessionId = true)
    (hopen : (σ.sessions s).closed = false) (env : Env) :
    (∃ out, (σ.handleAuth env auth s).sent = σ.sent ++ out ∧
        ⟨s, .authResult { success := true }⟩ ∈ out) ∧
      ∃ channel, (σ.handleAuth env auth s).manager.sessionChannels.find? auth.sessionId =
          some channel ∧ channel.members.contains auth.playerId = true := by
  rw [handleAuth_of_session hcomplete hsid hchannel]
  have hstores := stores_attempt env [
    (Redis.hset (sessionKey auth.sessionId) auth.playerId auth.playerName).void,
    (Redis.setex ("chat:player:" ++ auth.playerId) auth.sessionId env.sessionTtl).void,
    (Redis.setex ("chat:name:" ++ auth.playerId) auth.playerName env.sessionTtl).void,
    (Redis.expire (sessionKey auth.sessionId) env.sessionTtl).void]
    ((σ.takeOver auth.playerId s).addMember auth.sessionId auth.playerId)
  rw [saveSessionPlayer]
  generalize ((σ.takeOver auth.playerId s).addMember auth.sessionId auth.playerId).attempt env _
    = υ at hstores ⊢
  constructor
  · obtain ⟨taken, htaken, -⟩ := (takeOver_sent (P := fun _ => True) σ auth.playerId s
      fun _ => trivial).1
    obtain ⟨history, hhistory, -⟩ := sendHistory_registered env auth.playerId auth.sessionId
      (υ.register auth.playerId
        { playerName := auth.playerName, sessionId := auth.sessionId, session := s } s)
    have hυ : (υ.sessions s).closed = false := by
      rw [hstores.sessions]
      exact (congrArg ChatSession.closed (sessions_takeOver_self σ auth.playerId s)).trans hopen
    have hregister : (υ.register auth.playerId
        { playerName := auth.playerName, sessionId := auth.sessionId, session := s } s).sent =
          υ.sent ++ [⟨s, .authResult { success := true }⟩] := by
      unfold register send
      rw [if_neg]
      · rfl
      · simpa [updateSession, addPlayer] using hυ
    refine ⟨taken ++ ([⟨s, .authResult { success := true }⟩] ++ history), ?_, ?_⟩
    · rw [hhistory, hregister, hstores.sent]
      change (σ.takeOver auth.playerId s).sent ++ _ ++ history = _
      rw [htaken, List.append_assoc, List.append_assoc]
    · apply List.mem_append_right
      exact List.mem_append_left _ (List.mem_singleton_self _)
  · rw [(sendHistory_spec env _ _ _).1]
    have hspeaks : Speaks (fun _ => True) _ (υ.register auth.playerId
        { playerName := auth.playerName, sessionId := auth.sessionId, session := s } s) :=
      speaks_send _ fun _ => trivial
    rw [hspeaks.manager]
    change ∃ channel, υ.manager.sessionChannels.find? auth.sessionId = some channel ∧ _
    rw [hstores.manager]
    obtain ⟨channel, hfind⟩ := UnorderedMap.contains_iff.1
      ((contains_takeOver σ auth.playerId auth.sessionId s).trans hchannel)
    refine ⟨{ channel with members := channel.members.insert auth.playerId }, ?_, ?_⟩
    · unfold addMember
      simp only
      rw [UnorderedMap.find?_modify, if_pos rfl, hfind]
      rfl
    · rw [UnorderedSet.contains_insert, decide_eq_true rfl, Bool.true_or]

/-- An authentication sends messages only to the session that enters, and only where it
is accepted for a session. -/
theorem heard_handleAuth (env : Env) (auth : ChatAuth) (s : SessionPtr) (σ : ChatServer) :
    Appends (Heard σ (σ.handleAuth env auth s) (.message s (.auth auth))) σ.sent
      (σ.handleAuth env auth s).sent := by
  have herror : ∀ (τ : ChatServer) t error, Heard σ τ (.message s (.auth auth))
      ⟨t, .error error⟩ :=
    fun τ t error => heard_of_not_receive fun receive heq => by cases heq
  have hresult : ∀ (τ : ChatServer) t result, Heard σ τ (.message s (.auth auth))
      ⟨t, .authResult result⟩ :=
    fun τ t result => heard_of_not_receive fun receive heq => by cases heq
  cases hcomplete : auth.isComplete with
  | false =>
      rw [handleAuth_of_incomplete hcomplete]
      exact (speaks_send σ fun _ => hresult _ _ _).sent
  | true =>
  have htaken := fun τ => (takeOver_sent (P := Heard σ τ (.message s (.auth auth))) σ
    auth.playerId s fun t => herror τ t _).1
  cases hadmits : σ.admits auth with
  | false =>
      rw [handleAuth_of_not_admits hcomplete hadmits]
      exact (htaken _).trans (speaks_send _ fun _ => hresult _ _ _).sent
  | true =>
  obtain ⟨hregistered, -⟩ := handleAuth_of_admits hcomplete hadmits env s
  have hself : (σ.handleAuth env auth s).registered auth.playerId = some s := by
    rw [hregistered, Function.update_self]
  generalize hτ : σ.handleAuth env auth s = τ at hself
  rcases admits_cases hadmits with hlobby | ⟨hsid, hcontains⟩
  · rw [handleAuth_of_lobby hcomplete hlobby] at hτ
    rw [← hτ]
    exact (htaken _).trans (register_sent _ _ s fun _ => hresult _ _ _).1
  · rw [handleAuth_of_session hcomplete hsid hcontains] at hτ
    have hhistory := sendHistory_registered env auth.playerId auth.sessionId
      ((((σ.takeOver auth.playerId s).addMember auth.sessionId
        auth.playerId).saveSessionPlayer env auth).register auth.playerId
          { playerName := auth.playerName, sessionId := auth.sessionId, session := s } s)
    rw [(register_spec _ _ s _).1, Function.update_self, hτ] at hhistory
    have hregister := register_sent (P := Heard σ τ (.message s (.auth auth)))
      (σ := ((σ.takeOver auth.playerId s).addMember auth.sessionId
        auth.playerId).saveSessionPlayer env auth) auth.playerId
      { playerName := auth.playerName, sessionId := auth.sessionId, session := s } s
      fun _ => hresult _ _ _
    have hstores : (((σ.takeOver auth.playerId s).addMember auth.sessionId
        auth.playerId).saveSessionPlayer env auth).sent = (σ.takeOver auth.playerId s).sent :=
      (stores_attempt env _ _).sent
    rw [hstores] at hregister
    refine ((htaken τ).trans hregister.1).trans (hhistory.mono ?_)
    rintro d hd receive -
    refine Or.inr ⟨auth.sessionId, auth.playerId, Tells.history hsid, Or.inr ?_, ?_⟩
    · refine ⟨s, auth, rfl, rfl, rfl, hsid, ?_⟩
      rw [accepts, hcomplete, hadmits]
      rfl
    · rw [hself]
      exact hd

/-- A message to a session goes to its members. -/
theorem heard_handleChatSend (env : Env) (p : String) (message : ChatSend) (σ : ChatServer) :
    Appends (fun d => ∀ receive, d.envelope = .receive receive →
      receive.channel = message.channel ∧ (message.channel = .all → ∃ state,
        σ.manager.players.find? p = some state ∧ ∃ q ∈ σ.directory.members state.sessionId,
          σ.registered q = some d.session)) σ.sent (σ.handleChatSend env p message).sent := by
  have herror : ∀ error : ChatError, Appends (fun d => ∀ receive, d.envelope = .receive receive →
      receive.channel = message.channel ∧ (message.channel = .all → ∃ state,
        σ.manager.players.find? p = some state ∧ ∃ q ∈ σ.directory.members state.sessionId,
          σ.registered q = some d.session)) σ.sent (σ.sendError p error).sent :=
    fun error => (speaks_sendTo σ fun s receive heq => by cases heq).sent
  unfold handleChatSend
  split
  · exact Appends.refl _
  next state hp =>
  split
  · exact herror _
  have hreceive : message.channel ≠ .all → ∀ (s : SessionPtr) receive,
      ChatEnvelope.receive (σ.receiveOf p state message) = .receive receive →
        receive.channel = message.channel ∧ (message.channel = .all → ∃ state,
          σ.manager.players.find? p = some state ∧ ∃ q ∈ σ.directory.members state.sessionId,
            σ.registered q = some s) := by
    intro hchannel s receive heq
    cases heq
    exact ⟨rfl, fun hall => absurd hall hchannel⟩
  unfold deliver
  simp only
  split
  · next hchannel =>
      have hother : message.channel ≠ .all := by
        rw [hchannel]
        decide
      split
      · exact (speaks_broadcast σ (hreceive hother)).sent
      · exact herror _
  · split
    · exact herror _
    · rw [saveToHistory, (stores_attempt env _ _).sent, broadcastToSession]
      split
      · exact Appends.refl _
      · next channel hchannel =>
          rw [broadcast_eq]
          refine ⟨_, rfl, ?_⟩
          rintro d hd receive heq
          obtain ⟨s, hs, rfl⟩ := List.mem_map.1 hd
          cases heq
          obtain ⟨q, hq, hreached⟩ := List.mem_filterMap.1 hs
          refine ⟨rfl, fun _ => ⟨state, hp, q, ?_, ?_⟩⟩
          · exact mem_members.2 ⟨channel, hchannel, UnorderedMap.mem_keyList.1 hq⟩
          · exact (Option.filter_eq_some_iff.1 hreached).1
  · next hchannel =>
      have hother : message.channel ≠ .all := by
        rw [hchannel]
        decide
      split
      · exact herror _
      split
      · exact ((speaks_sendTo σ (hreceive hother)).trans
          (speaks_sendTo _ (hreceive hother))).sent
      · exact herror _
  · exact herror _

theorem heard_processSend (env : Env) (s : SessionPtr) (message : ChatSend) (σ : ChatServer) :
    Appends (Heard σ (σ.processSend env s message) (.message s (.send message))) σ.sent
      (σ.processSend env s message).sent := by
  have herror : ∀ (τ υ : ChatServer) (error : ChatError),
      Appends (Heard σ υ (.message s (.send message))) τ.sent (τ.send s (.error error)).sent :=
    fun τ υ error => (speaks_send τ fun _ =>
      heard_of_not_receive fun receive heq => by cases heq).sent
  have hkeeps := keeps_processSend env s message σ
  generalize hτ : σ.processSend env s message = τ at hkeeps
  unfold processSend at hτ
  split at hτ
  · have hstores := stores_rateLimit env s σ
    split at hτ
    · next σ' hlimit =>
        rw [hlimit] at hstores
        rw [← hτ, ← hstores.sent]
        exact herror _ _ _
    · next σ' hlimit =>
        rw [hlimit] at hstores
        have hsend := heard_handleChatSend env (σ'.sessions s).playerId message σ'
        rw [hτ, hstores.sent] at hsend
        refine hsend.mono fun d hd receive henvelope => ?_
        obtain ⟨hchannel, hall⟩ := hd receive henvelope
        by_cases hto : message.channel = .all
        · obtain ⟨state, hp, q, hq, hregistered⟩ := hall hto
          rw [hstores.manager, hstores.sessions] at hp
          rw [directory_of_manager hstores.manager] at hq
          rw [registered, hstores.manager] at hregistered
          refine Or.inr ⟨state.sessionId, q, Tells.message hto hp, Or.inl hq, ?_⟩
          rw [hkeeps.registered]
          exact hregistered
        · refine Or.inl ⟨by rwa [hchannel], fun sid htells => ?_⟩
          cases htells with
          | message hto' hp => exact hto hto'
  · rw [← hτ]
    exact herror _ _ _

/-- What a step sends, it sends to those who may hear it. -/
theorem heard_step {env : Env} {σ τ : ChatServer} {i : Input} (h : Step env σ i τ) :
    Appends (Heard σ τ i) σ.sent τ.sent := by
  cases i with
  | connect s =>
      obtain ⟨-, rfl⟩ := Option.ite_some_none_eq_some.1 h
      exact Appends.refl _
  | message s envelope =>
      obtain ⟨-, rfl⟩ := Option.ite_some_none_eq_some.1 h
      cases envelope with
      | auth auth => exact heard_handleAuth env auth s σ
      | send message => exact heard_processSend env s message σ
      | _ => exact Appends.refl _
  | close s =>
      obtain ⟨hopen, rfl⟩ := Option.ite_some_none_eq_some.1 h
      exact Appends.of_eq (closeSession_spec (ChatSession.isOpen_iff.1 hopen).2).2.2.1
  | released s =>
      obtain ⟨-, rfl⟩ := Option.ite_some_none_eq_some.1 h
      exact Appends.refl _
  | internalMessage envelope =>
      obtain rfl := Option.some.inj h
      cases envelope with
      | sessionCreated message =>
          exact Appends.of_eq ((stores_attempt env _ _).sent.trans
            (stores_saveSessionNames env message σ).sent)
      | sessionEnded message => exact Appends.of_eq (sent_handleSessionEnded env message σ)
      | _ => exact Appends.refl _
  | clock now =>
      obtain rfl := Option.some.inj h
      exact Appends.refl _
  | tick seconds =>
      obtain rfl := Option.some.inj h
      exact Appends.refl _

end ChatServer

/-!
## Runs
-/

/-- An authentication that is accepted for a session is of a player announced for it. -/
def announced (σ : ChatServer) : Input → Bool
  | .message _ (.auth auth) =>
      auth.sessionId == "" || !σ.accepts auth ||
        (σ.manager.sessionChannels.find? auth.sessionId).any fun channel =>
          channel.expectedPlayers.contains auth.playerId
  | _ => true

/-- In every state that runs of `R` reach, the members of a channel are players that a
`SessionCreated` of the run has announced for it; and what is sent of a session, a message
to it or its history, is sent to players announced for it. -/
structure AnnouncedOnly (R : ChatServer → Input → ChatServer → Prop) : Prop where
  members : ∀ store is σ, Run R (initial store) is σ → ∀ sid channel,
    σ.manager.sessionChannels.find? sid = some channel → ∀ p,
      channel.members.contains p = true → channel.expectedPlayers.contains p = true
  recorded : ∀ store is σ, Run R (initial store) is σ → ∀ sid channel,
    σ.manager.sessionChannels.find? sid = some channel →
      ∃ message, .internalMessage (.sessionCreated message) ∈ is ∧ message.sessionId = sid ∧
        ∀ p, channel.expectedPlayers.contains p = true ↔
          ∃ player ∈ message.players, player.playerId = p
  hears : ∀ store is σ, Run R (initial store) is σ → ∀ i τ, R σ i τ →
    ∀ d ∈ τ.sent.drop σ.sent.length, ∀ receive, d.envelope = .receive receive →
      (receive.channel = .all ∨ ∃ sid, Tells σ i sid) →
        ∃ sid channel p, Tells σ i sid ∧
          σ.manager.sessionChannels.find? sid = some channel ∧
          channel.expectedPlayers.contains p = true ∧ τ.registered p = some d.session

section announced

variable {env : Env} {σ τ : ChatServer} {i : Input}

/-- Who enters a session has been announced for it. -/
theorem expected_of_causes {p sid : String} (hannounced : announced σ i = true)
    (hcauses : σ.Causes i (.enterSession p sid)) :
    ∃ channel, σ.directory.channels sid = some channel ∧ p ∈ channel.expected := by
  obtain ⟨s, auth, rfl, rfl, rfl, hsid, haccepts⟩ := hcauses
  simp only [announced, haccepts, hsid, beq_iff_eq, Bool.not_true, Bool.or_false,
    Bool.or_eq_true, false_or, Option.any_eq_true] at hannounced
  obtain ⟨channel, hchannel, hexpected⟩ := hannounced
  refine ⟨channel.toChannel, ?_, hexpected⟩
  rw [directory]
  simp only [hchannel, Option.map_some]

/-- A run of placements keeps who is announced, where it opens no session. -/
theorem announced_of_run {v w : Directory} {as : List Placement} (h : Run Place v as w)
    (hopens : ∀ a ∈ as, ∀ message, a ≠ .openSession message)
    (henters : ∀ p sid, .enterSession p sid ∈ as →
      ∃ channel, v.channels sid = some channel ∧ p ∈ channel.expected)
    (hv : v.Announced) :
    w.Announced ∧ ∀ x channel, w.channels x = some channel →
      ∃ channel', v.channels x = some channel' ∧ channel.expected = channel'.expected := by
  induction h with
  | nil => exact ⟨hv, fun x channel hx => ⟨channel, hx, rfl⟩⟩
  | @snoc as u a w hrun hplace ih =>
      obtain ⟨hu, hkept⟩ := ih (fun a ha => hopens a (List.mem_append_left _ ha))
        fun p sid hp => henters p sid (List.mem_append_left _ hp)
      have ha := hopens a (List.mem_append_right _ List.mem_cons_self)
      constructor
      · intro x channel hx p hp
        obtain ⟨channel', hx', hexpected, hmembers⟩ := Directory.channels_place hplace ha hx
        rw [hexpected]
        rcases hmembers p hp with hp | rfl
        · exact hu x channel' hx' hp
        · obtain ⟨channel₀, hx₀, hexpected₀⟩ := hkept x channel' hx'
          obtain ⟨channel₁, hx₁, hp₁⟩ := henters p x
            (List.mem_append_right _ List.mem_cons_self)
          cases hx₀.symm.trans hx₁
          rwa [hexpected₀]
      · intro x channel hx
        obtain ⟨channel', hx', hexpected, -⟩ := Directory.channels_place hplace ha hx
        obtain ⟨channel₀, hx₀, hexpected₀⟩ := hkept x channel' hx'
        exact ⟨channel₀, hx₀, hexpected.trans hexpected₀⟩

/-- A step leaves the announced players of a channel as they are, or it opens the
channel. -/
theorem announced_step (hstep : Guarded announced (Step env) σ i τ)
    (hσ : σ.directory.Announced) :
    τ.directory.Announced ∧ ∀ x channel, τ.directory.channels x = some channel →
      (∃ channel', σ.directory.channels x = some channel' ∧
        channel.expected = channel'.expected) ∨
      ∃ message, i = .internalMessage (.sessionCreated message) ∧ message.sessionId = x ∧
        channel.expected = {p | ∃ player ∈ message.players, player.playerId = p} := by
  by_cases hcreated : ∃ message, i = .internalMessage (.sessionCreated message)
  · obtain ⟨message, rfl⟩ := hcreated
    obtain rfl := Option.some.inj hstep.1
    have hplace : Place σ.directory (.openSession message) (σ.processInternalMessage env
        (.sessionCreated message)).directory := place_handleSessionCreated env message σ
    constructor
    · intro x channel hx
      rcases Directory.channels_openSession hplace hx with ⟨-, rfl⟩ | hx
      · exact Set.empty_subset _
      · exact hσ x channel hx
    · intro x channel hx
      rcases Directory.channels_openSession hplace hx with ⟨hsid, rfl⟩ | hx
      · exact Or.inr ⟨message, rfl, hsid.symm, rfl⟩
      · exact Or.inl ⟨channel, hx, rfl⟩
  · obtain ⟨as, hrun, has⟩ := run_step hstep.1
    obtain ⟨hτ, hkept⟩ := announced_of_run hrun
      (fun a ha message heq => hcreated ⟨message, by
        rw [heq] at ha
        exact has _ ha⟩)
      (fun p sid hp => expected_of_causes hstep.2 (has _ hp)) hσ
    exact ⟨hτ, fun x channel hx => Or.inl (hkept x channel hx)⟩

theorem announced_initial (store : Redis.Keyspace) : (initial store).directory.Announced := by
  intro sid channel hchannel
  cases hchannel

theorem announced_run {store : Redis.Keyspace} {is : List Input}
    (h : Run (Guarded announced (Step env)) (initial store) is σ) :
    σ.directory.Announced ∧ ∀ x channel, σ.directory.channels x = some channel →
      ∃ message, .internalMessage (.sessionCreated message) ∈ is ∧ message.sessionId = x ∧
        channel.expected = {p | ∃ player ∈ message.players, player.playerId = p} := by
  induction h with
  | nil =>
      refine ⟨announced_initial store, ?_⟩
      intro x channel hx
      cases hx
  | snoc hrun hstep ih =>
      obtain ⟨hσ, hrecorded⟩ := ih
      obtain ⟨hτ, hkept⟩ := announced_step hstep hσ
      refine ⟨hτ, ?_⟩
      intro x channel hx
      rcases hkept x channel hx with ⟨channel', hx', hexpected⟩ | ⟨message, rfl, hsid, hexpected⟩
      · obtain ⟨message, hmem, hsid, hexpected'⟩ := hrecorded x channel' hx'
        exact ⟨message, List.mem_append_left _ hmem, hsid, hexpected.trans hexpected'⟩
      · exact ⟨message, List.mem_append_right _ List.mem_cons_self, hsid, hexpected⟩

/-- A channel of the server, with its two sets as sets. -/
theorem channels_of_find? {sid : String} {channel : SessionChannel}
    (h : σ.manager.sessionChannels.find? sid = some channel) :
    σ.directory.channels sid = some channel.toChannel := by
  rw [directory]
  simp only [h, Option.map_some]

end announced

/-- As long as only announced players authenticate for a session, only they are in its
channel and hear of it. -/
theorem announcedOnly_of_announced (env : Env) :
    AnnouncedOnly (Guarded announced (Step env)) := by
  constructor
  · intro store is σ hrun sid channel hchannel p hp
    exact (announced_run hrun).1 sid _ (channels_of_find? hchannel) hp
  · intro store is σ hrun sid channel hchannel
    obtain ⟨message, hmem, hsid, hexpected⟩ :=
      (announced_run hrun).2 sid _ (channels_of_find? hchannel)
    refine ⟨message, hmem, hsid, fun p => ?_⟩
    have hp : p ∈ channel.toChannel.expected ↔
        p ∈ {p | ∃ player ∈ message.players, player.playerId = p} := by
      rw [hexpected]
    exact hp
  · intro store is σ hrun i τ hstep d hd receive henvelope htells
    rcases (heard_step hstep.1).mem_drop hd receive henvelope with
      ⟨hchannel, hnone⟩ | ⟨sid, p, hsid, hp, hregistered⟩
    · rcases htells with hall | ⟨sid, hsid⟩
      · exact absurd hall hchannel
      · exact absurd hsid (hnone sid)
    · have hexpected : ∃ channel, σ.directory.channels sid = some channel ∧
          p ∈ channel.expected := by
        rcases hp with ⟨channel, hchannel, hp⟩ | hcauses
        · exact ⟨channel, hchannel, (announced_run hrun).1 sid channel hchannel hp⟩
        · exact expected_of_causes hstep.2 hcauses
      obtain ⟨channel, hchannel, hp⟩ := hexpected
      obtain ⟨channel', hchannel', rfl⟩ := Option.map_eq_some_iff.1 hchannel
      exact ⟨sid, channel', p, hsid, hchannel', hp, hregistered⟩

/-- A player who has been announced enters the session. -/
theorem announcedOnly_of_announced_enters : ∃ σ channel,
    Run (Guarded announced (Step defaultEnv)) (initial {})
      [.internalMessage (.sessionCreated ⟨"s", [⟨"p", "P"⟩]⟩), .connect 0,
        .message 0 (.auth ⟨"p", "s", "P"⟩)] σ ∧
    σ.manager.sessionChannels.find? "s" = some channel ∧ channel.members.contains "p" = true ∧
    channel.expectedPlayers.contains "p" = true := by
  obtain ⟨σ, hrun, hσ⟩ := exists_run_of_exec announced (step defaultEnv) (initial {})
    [.internalMessage (.sessionCreated ⟨"s", [⟨"p", "P"⟩]⟩), .connect 0,
      .message 0 (.auth ⟨"p", "s", "P"⟩)]
    (fun σ => (σ.manager.sessionChannels.find? "s").any fun channel =>
      channel.members.contains "p")
    (by decide +kernel)
  obtain ⟨channel, hchannel, hmember⟩ := (Option.any_eq_true _ _).1 hσ
  exact ⟨σ, channel, hrun, hchannel, hmember,
    (announcedOnly_of_announced defaultEnv).members {} _ σ hrun "s" channel hchannel "p" hmember⟩

/-- A session is announced for one player, and another one enters it. -/
theorem not_announcedOnly_uninvited : ¬ AnnouncedOnly (Step defaultEnv) := by
  intro hclaim
  obtain ⟨σ, hrun, hσ⟩ := exists_run_of_exec (fun _ _ => true) (step defaultEnv) (initial {})
    [.internalMessage (.sessionCreated ⟨"s", [⟨"p", "P"⟩]⟩), .connect 0,
      .message 0 (.auth ⟨"q", "s", "Q"⟩)]
    (fun σ => (σ.manager.sessionChannels.find? "s").any fun channel =>
      channel.members.contains "q" && !channel.expectedPlayers.contains "q")
    (by decide +kernel)
  obtain ⟨channel, hchannel, hmember⟩ := (Option.any_eq_true _ _).1 hσ
  rw [Bool.and_eq_true, Bool.not_eq_true'] at hmember
  have hexpected := hclaim.members {} _ σ hrun.of_guarded "s" channel hchannel "q" hmember.1
  rw [hmember.2] at hexpected
  cases hexpected

end Chat

end SosBackend
