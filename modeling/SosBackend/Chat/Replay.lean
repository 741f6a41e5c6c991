import SosBackend.Chat.Ended

/-!
# What a player sees of its session

A player who enters a session is sent the history of the session, and every message of
the session from then on. The history is the newest of the messages that have been
accepted, so the two together have no gap and nothing twice, for as long as the
connection of the player is its own: it carries no other player, and none authenticates
on it.
-/

namespace SosBackend

namespace Chat

open ChatServer

/-!
## The view of a connection
-/

/-- The message to a session that a delivery brings to a connection. -/
def allTo (s : SessionPtr) (d : Delivery) : Option ChatReceive :=
  match d.envelope with
  | .receive receive => if d.session = s ∧ receive.channel = .all then some receive else none
  | _ => none

/-- The messages to sessions that a connection has been sent. -/
def ChatServer.heard (σ : ChatServer) (s : SessionPtr) : List ChatReceive :=
  σ.sent.filterMap (allTo s)

/-- The message to the session that an input brings, if it is accepted. -/
def acceptedFor (env : Env) (sid : String) (σ : ChatServer) (i : Input) : List ChatReceive :=
  match acceptedAll env σ i with
  | some (x, receive) => if x = sid then [receive] else []
  | none => []

/-- A step of the server in which the history of the session does not expire. -/
def Persists (env : Env) (sid : String) (σ : ChatServer) (i : Input) (τ : ChatServer) : Prop :=
  Step env σ i τ ∧
    ∀ seconds, i = .tick seconds → τ.entry (historyKey sid) = σ.entry (historyKey sid)

/-- The input is no authentication or disconnect of the player, and not the end of the
session. -/
def stays (p sid : String) (σ : ChatServer) : Input → Bool
  | .message _ (.auth auth) => auth.playerId != p
  | .close s => (σ.sessions s).playerId != p
  | .internalMessage (.sessionEnded session) => session.sessionId != sid
  | _ => true

/-- No player authenticates on the connection. -/
def keepsTo (s : SessionPtr) (σ : ChatServer) : Input → Bool
  | .message t (.auth auth) => t != s || !σ.accepts auth
  | _ => true

/-- The connection is open and carries no player but this one. -/
def IsOwn (σ : ChatServer) (s : SessionPtr) (p : String) : Prop :=
  (σ.sessions s).isOpen = true ∧ ∀ q, σ.registered q = some s → q = p

/-- The view of a player who enters a session, where its connection is as `own` says and
the steps that follow meet `ok`: the newest of the messages of the session that had been
accepted, and then those that are accepted, for as long as it stays. -/
def GaplessView (env : Env) (own : ChatServer → SessionPtr → String → Prop)
    (ok : SessionPtr → ChatServer → Input → Bool) : Prop :=
  ∀ store is before σ s auth σ' js after τ,
    store.lookup (historyKey auth.sessionId) = none →
    Trace (Persists env auth.sessionId) (acceptedFor env auth.sessionId) (initial store) is
      before σ →
    auth.sessionId ≠ "" → σ.accepts auth = true → own σ s auth.playerId →
    Step env σ (.message s (.auth auth)) σ' →
    Trace (Guarded (fun σ i => stays auth.playerId auth.sessionId σ i && ok s σ i)
      (Persists env auth.sessionId)) (acceptedFor env auth.sessionId) σ' js after τ →
    CreatedOnce (is ++ js) →
      τ.heard s = σ.heard s ++ (before.drop (before.length - env.historySize.toNat) ++ after)

section view

variable {env : Env} {σ τ : ChatServer} {p sid : String} {s t : SessionPtr}

theorem heard_of_appends (h : Appends (fun d => allTo s d = none) σ.sent τ.sent) :
    τ.heard s = σ.heard s := by
  obtain ⟨out, hout, hnone⟩ := h
  rw [heard, heard, hout, List.filterMap_append, List.filterMap_eq_nil_iff.2 hnone,
    List.append_nil]

theorem heard_of_sent {l : List Delivery} (h : τ.sent = σ.sent ++ l) :
    τ.heard s = σ.heard s ++ l.filterMap (allTo s) := by
  rw [heard, heard, h, List.filterMap_append]

theorem allTo_of_ne {d : Delivery} (h : d.session ≠ s) : allTo s d = none := by
  unfold allTo
  split
  · exact if_neg fun hd => h hd.1
  · rfl

theorem allTo_of_channel {receive : ChatReceive} (h : receive.channel ≠ .all) :
    allTo s ⟨t, .receive receive⟩ = none :=
  if_neg fun hd => h hd.2

/-- Messages to other channels are not messages to a session. -/
theorem filterMap_of_channel {receive : ChatReceive} (h : receive.channel ≠ .all)
    (l : List SessionPtr) :
    (l.map fun s => (⟨s, .receive receive⟩ : Delivery)).filterMap (allTo s) = [] := by
  apply List.filterMap_eq_nil_iff.2
  intro d hd
  obtain ⟨t, -, rfl⟩ := List.mem_map.1 hd
  exact allTo_of_channel h

/-- A connection that one player has is handed what goes to a list of players once, if
that player is on the list. -/
theorem filterMap_reached {ids : List String} (hids : ids.Nodup)
    (hp : σ.reached p = some s) (halone : ∀ q, σ.reached q = some s → q = p)
    {receive : ChatReceive} (hall : receive.channel = .all) :
    ((ids.filterMap σ.reached).map fun s => (⟨s, .receive receive⟩ : Delivery)).filterMap
      (allTo s) = if p ∈ ids then [receive] else [] := by
  induction ids with
  | nil => rfl
  | cons q ids ih =>
      rw [List.nodup_cons] at hids
      have hrest := ih hids.2
      by_cases hq : q = p
      · subst hq
        rw [if_neg hids.1] at hrest
        simp [hp, hrest, allTo, hall]
      · have hmem : p ∈ q :: ids ↔ p ∈ ids := by
          simp [Ne.symm hq]
        simp only [hmem]
        rw [← hrest]
        cases hreached : σ.reached q with
        | none => simp [hreached]
        | some u =>
            have hu : u ≠ s := by
              rintro rfl
              exact hq (halone q hreached)
            have hnone : allTo s ⟨u, .receive receive⟩ = none := allTo_of_ne hu
            simp [hreached, hnone]

end view

/-!
## Authentications elsewhere
-/

/-- The player whose record a placement sets. -/
def Placement.player : Placement → Option String
  | .drop p => some p
  | .enterLobby p => some p
  | .enterSession p _ => some p
  | _ => none

/-- A placement leaves the record of another player, who is in no session that it ends. -/
theorem Directory.records_of_place {v w : Directory} {a : Placement} {p : String}
    (h : Place v a w) (ha : a.player ≠ some p)
    (hends : ∀ sid, a = .endSession sid → p ∉ v.members sid) : w.records p = v.records p := by
  cases h with
  | drop hq => exact Function.update_of_ne (fun heq => ha (congrArg some heq.symm)) _ _
  | enterLobby hq hsid hlobby =>
      exact Function.update_of_ne (fun heq => ha (congrArg some heq.symm)) _ _
  | enterSession hq hsid hlobby hchannel =>
      exact Function.update_of_ne (fun heq => ha (congrArg some heq.symm)) _ _
  | openSession => rfl
  | endSession hchannel => exact Directory.endSession_records_of_not_mem (hends _ rfl)

section elsewhere

variable {env : Env} {σ : ChatServer} {auth : ChatAuth} {p : String} {s t : SessionPtr}

theorem records_handleAuth (hp : auth.playerId ≠ p) :
    (σ.handleAuth env auth t).directory.records p = σ.directory.records p := by
  obtain ⟨as, hrun, has⟩ := run_handleAuth env auth t σ
  have hothers : ∀ a ∈ as, a.player ≠ some p ∧ ∀ sid, a ≠ .endSession sid := by
    intro a ha
    have hne : some auth.playerId ≠ some p := fun heq => hp (Option.some.inj heq)
    rcases has a ha with rfl | rfl | ⟨rfl, -⟩
    · exact ⟨hne, fun sid heq => by cases heq⟩
    · exact ⟨hne, fun sid heq => by cases heq⟩
    · exact ⟨hne, fun sid heq => by cases heq⟩
  refine (hrun.and_of_forall hothers).invariant
    (I := fun v => v.records p = σ.directory.records p) ?_ rfl
  intro v a w hplace hv
  rw [Directory.records_of_place hplace.1 hplace.2.1 fun sid heq =>
    absurd heq (hplace.2.2 sid)]
  exact hv

/-- An authentication leaves a connection that no other player has and that it is not
accepted on. -/
theorem sessions_handleAuth (env : Env) (hown : ∀ q, σ.registered q = some s → q = p)
    (hp : auth.playerId ≠ p) (ht : σ.accepts auth = true → t ≠ s) :
    (σ.handleAuth env auth t).sessions s = σ.sessions s ∧
      ∀ q, (σ.handleAuth env auth t).registered q = some s → σ.registered q = some s := by
  have htaken : (σ.takeOver auth.playerId t).sessions s = σ.sessions s := by
    rw [sessions_takeOver, if_neg]
    rintro ⟨-, hregistered, -⟩
    exact hp (hown _ hregistered)
  cases hcomplete : auth.isComplete with
  | false =>
      have hspeaks : Speaks (fun _ => True) σ (σ.send t (.authResult
          { success := false, reason := "player_id and player_name are required" })) :=
        speaks_send σ fun _ => trivial
      rw [handleAuth_of_incomplete hcomplete, hspeaks.sessions, hspeaks.registered]
      exact ⟨rfl, fun q hq => hq⟩
  | true =>
  cases hadmits : σ.admits auth with
  | false =>
      have hspeaks : Speaks (fun _ => True) (σ.takeOver auth.playerId t)
          ((σ.takeOver auth.playerId t).send t (.authResult
            { success := false, reason := "Session not found" })) :=
        speaks_send _ fun _ => trivial
      rw [handleAuth_of_not_admits hcomplete hadmits, hspeaks.sessions, hspeaks.registered]
      refine ⟨htaken, fun q hq => ?_⟩
      rw [registered_takeOver, Function.update_apply] at hq
      split at hq
      · cases hq
      · exact hq
  | true =>
      have hts : t ≠ s := ht (by rw [accepts, hcomplete, hadmits]; rfl)
      obtain ⟨hregistered, hsessions⟩ := handleAuth_of_admits hcomplete hadmits env t
      rw [hregistered, hsessions, Function.update_of_ne hts.symm]
      refine ⟨htaken, fun q hq => ?_⟩
      rw [Function.update_apply] at hq
      split at hq
      · exact absurd (Option.some.inj hq) hts
      · exact hq

/-- An authentication sends messages to the connection that it is accepted on only. -/
theorem heard_handleAuth_of_ne (ht : σ.accepts auth = true → t ≠ s) :
    (σ.handleAuth env auth t).heard s = σ.heard s := by
  apply heard_of_appends
  have htaken := (takeOver_sent (P := fun d => allTo s d = none) σ auth.playerId t
    fun _ => rfl).1
  cases hcomplete : auth.isComplete with
  | false =>
      rw [handleAuth_of_incomplete hcomplete]
      exact (speaks_send (P := fun d => allTo s d = none) σ fun _ => rfl).sent
  | true =>
  cases hadmits : σ.admits auth with
  | false =>
      rw [handleAuth_of_not_admits hcomplete hadmits]
      exact htaken.trans (speaks_send (P := fun d => allTo s d = none) _ fun _ => rfl).sent
  | true =>
  rcases admits_cases hadmits with hlobby | ⟨hsid, hchannel⟩
  · rw [handleAuth_of_lobby hcomplete hlobby]
    exact htaken.trans (register_sent (P := fun d => allTo s d = none) _ _ t fun _ => rfl).1
  · have hts : t ≠ s := ht (by rw [accepts, hcomplete, hadmits]; rfl)
    rw [handleAuth_of_session hcomplete hsid hchannel]
    generalize hυ : ((σ.takeOver auth.playerId t).addMember auth.sessionId
      auth.playerId).saveSessionPlayer env auth = υ
    have hsent : υ.sent = (σ.takeOver auth.playerId t).sent := by
      rw [← hυ]
      exact (stores_attempt env _ _).sent
    rw [← hsent] at htaken
    refine (htaken.trans (register_sent (P := fun d => allTo s d = none) _ _ t
      fun _ => rfl).1).trans ((sendHistory_registered env _ _ _).mono ?_)
    intro d hd
    rw [(register_spec _ _ t υ).1, Function.update_self] at hd
    apply allTo_of_ne
    rw [← Option.some.inj hd]
    exact hts

end elsewhere

/-!
## A player at its own connection
-/

/-- The player is in the session, on this connection, which is open and its own. -/
structure Attends (σ : ChatServer) (p sid : String) (s : SessionPtr) : Prop where
  record : ∃ state, σ.manager.players.find? p = some state ∧ state.session = s ∧
    state.sessionId = sid
  playerId : (σ.sessions s).playerId = p
  isOwn : IsOwn σ s p

namespace Attends

variable {env : Env} {σ τ : ChatServer} {p sid : String} {s t : SessionPtr}

theorem registered (h : Attends σ p sid s) : σ.registered p = some s := by
  obtain ⟨state, hp, rfl, -⟩ := h.record
  rw [ChatServer.registered, hp, Option.map_some]

theorem reached (h : Attends σ p sid s) : σ.reached p = some s := by
  rw [ChatServer.reached, h.registered, Option.filter_some, h.isOwn.1, if_pos rfl]

theorem alone (h : Attends σ p sid s) {q : String} (hq : σ.reached q = some s) : q = p :=
  h.isOwn.2 q (Option.filter_eq_some_iff.1 hq).1

theorem registered_of_directory (h : τ.directory = σ.directory) :
    τ.registered = σ.registered := by
  funext q
  have hrecord : τ.manager.players.find? q = σ.manager.players.find? q :=
    congrFun (congrArg Directory.records h) q
  rw [ChatServer.registered, ChatServer.registered, hrecord]

/-- The record of the player, the object of the connection and who else is on it are all
that matters. -/
theorem of_frame (h : Attends σ p sid s) (hrecord : τ.directory.records p = σ.directory.records p)
    (hsession : τ.sessions s = σ.sessions s)
    (hothers : ∀ q, τ.registered q = some s → σ.registered q = some s) :
    Attends τ p sid s := by
  obtain ⟨state, hp, hstate⟩ := h.record
  constructor
  · exact ⟨state, hrecord.trans hp, hstate⟩
  · rw [hsession]
    exact h.playerId
  · rw [IsOwn, hsession]
    exact ⟨h.isOwn.1, fun q hq => h.isOwn.2 q (hothers q hq)⟩

theorem of_directory (h : Attends σ p sid s) (hdirectory : τ.directory = σ.directory)
    (hsession : τ.sessions s = σ.sessions s) : Attends τ p sid s := by
  refine h.of_frame (by rw [hdirectory]) hsession fun q hq => ?_
  rwa [registered_of_directory hdirectory] at hq

/-- What is said in answer to a message of a player, or to nobody at this connection. -/
theorem heard_handleChatSend (h : Attends σ p sid s) (hplaced : σ.directory.Placed)
    (q : String) (message : ChatSend) :
    (σ.handleChatSend env q message).heard s = σ.heard s ++
      match σ.manager.players.find? q with
      | none => []
      | some state => if message.channel = .all ∧ refusal env σ state message = none ∧
          state.sessionId = sid then [σ.receiveOf q state message] else [] := by
  obtain ⟨record, hrecord, -, hsid⟩ := h.record
  cases hq : σ.manager.players.find? q with
  | none =>
      rw [handleChatSend, hq]
      simp
  | some state =>
  cases hrefusal : refusal env σ state message with
  | some error =>
      rw [handleChatSend_of_refused hq hrefusal, sendError, sendTo_eq]
      rw [heard_of_sent rfl]
      simp [allTo, hrefusal, List.filterMap_map]
  | none =>
  have hdelivers := delivers_of_accepted hplaced hq hrefusal
  simp only [hrefusal, true_and]
  cases hchannel : message.channel with
  | unknown => exact absurd hchannel (hdelivers.known hrefusal)
  | lobby =>
      have hother : (σ.receiveOf q state message).channel ≠ .all := by
        simp [receiveOf, hchannel]
      obtain ⟨ids, -, -, hsent⟩ := (hdelivers.lobby hrefusal hchannel).1
      rw [heard_of_sent hsent, filterMap_of_channel hother]
      simp
  | whisper =>
      have hother : (σ.receiveOf q state message).channel ≠ .all := by
        simp [receiveOf, hchannel]
      obtain ⟨hsent, -⟩ := hdelivers.whisper hrefusal hchannel
      rw [heard_of_sent hsent, filterMap_of_channel hother]
      simp
  | all =>
      have hall : (σ.receiveOf q state message).channel = .all := hchannel
      obtain ⟨ids, hnodup, hids, hsent⟩ := (hdelivers.all hrefusal hchannel).1
      rw [heard_of_sent hsent, filterMap_reached hnodup h.reached (fun q hq => h.alone hq) hall]
      have hmem : p ∈ ids ↔ state.sessionId = sid := by
        simp only [hids, h.reached, hrecord, Option.some.injEq, exists_eq_left', hsid,
          Option.isSome_some, and_true]
        exact eq_comm
      simp only [hmem, true_and]

/-- A message brings the connection what is accepted for the session. -/
theorem heard_processSend (h : Attends σ p sid s) (hplaced : σ.directory.Placed)
    (t : SessionPtr) (message : ChatSend) :
    (σ.processSend env t message).heard s =
      σ.heard s ++ acceptedFor env sid σ (.message t (.send message)) := by
  have herror : ∀ (τ : ChatServer) error, τ.sent = σ.sent →
      (τ.send t (.error error)).heard s = σ.heard s := by
    intro τ error hsent
    apply heard_of_appends
    rw [← hsent]
    exact (speaks_send (P := fun d => allTo s d = none) τ fun _ => rfl).sent
  have hstores := stores_rateLimit env t σ
  unfold processSend
  split
  · next hauthenticated =>
      split
      · next heq =>
          rw [heq] at hstores
          rw [herror _ _ hstores.sent]
          simp [acceptedFor, acceptedAll, heq]
      · next υ heq =>
          rw [heq] at hstores
          have hdirectory := directory_of_manager hstores.manager
          have hυ : Attends υ p sid s := h.of_directory hdirectory (by rw [hstores.sessions])
          rw [← hdirectory] at hplaced
          have hheard : υ.heard s = σ.heard s := by
            rw [heard, hstores.sent]
            rfl
          rw [hυ.heard_handleChatSend hplaced, hheard, hstores.manager, hstores.sessions]
          congr 1
          rw [acceptedFor, acceptedAll]
          cases σ.manager.players.find? (σ.sessions t).playerId with
          | none => rfl
          | some state =>
              have hreceive : υ.receiveOf (σ.sessions t).playerId state message =
                  σ.receiveOf (σ.sessions t).playerId state message := by
                rw [receiveOf, hstores.clock]
                rfl
              simp only [refusal_of_manager hstores.manager, hreceive, Option.bind_some,
                hauthenticated, heq, Bool.true_and]
              by_cases haccepted : message.channel = .all ∧ refusal env σ state message = none
              · simp [haccepted.1, haccepted.2]
              · rw [if_neg fun hall => haccepted ⟨hall.1, hall.2.1⟩, if_neg]
                simpa using haccepted
  · next hauthenticated =>
      rw [herror σ _ rfl]
      simp [acceptedFor, acceptedAll, hauthenticated]

theorem heard_of_eq (h : τ.sent = σ.sent) : τ.heard s = σ.heard s := by
  rw [heard, h]
  rfl

/-- As long as the player stays and nobody authenticates on its connection, each step
brings the connection what is accepted for the session. -/
theorem step {i : Input} (h : Attends σ p sid s) (hplaced : σ.directory.Placed)
    (hstep : Step env σ i τ) (hstays : stays p sid σ i = true) (hkeeps : keepsTo s σ i = true) :
    Attends τ p sid s ∧ τ.heard s = σ.heard s ++ acceptedFor env sid σ i := by
  have hopen := ChatSession.isOpen_iff.1 h.isOwn.1
  -- most inputs bring no message
  have hquiet : ∀ τ : ChatServer, acceptedFor env sid σ i = [] → Attends τ p sid s →
      τ.heard s = σ.heard s →
        Attends τ p sid s ∧ τ.heard s = σ.heard s ++ acceptedFor env sid σ i := by
    intro τ hnone hτ hheard
    rw [hnone, List.append_nil]
    exact ⟨hτ, hheard⟩
  have hupdate : ∀ t c, t ≠ s → (Function.update σ.sessions t c) s = σ.sessions s :=
    fun t c hts => Function.update_of_ne hts.symm _ _
  cases i with
  | connect t =>
      obtain ⟨hunborn, rfl⟩ := Option.ite_some_none_eq_some.1 hstep
      have hts : t ≠ s := by
        rintro rfl
        rw [hopen.1] at hunborn
        cases hunborn
      exact hquiet _ rfl (h.of_directory rfl (hupdate t _ hts)) rfl
  | message t envelope =>
      obtain ⟨-, rfl⟩ := Option.ite_some_none_eq_some.1 hstep
      cases envelope with
      | auth auth =>
          have hp : auth.playerId ≠ p := by simpa [stays] using hstays
          have ht : σ.accepts auth = true → t ≠ s := by
            intro haccepts
            simpa [keepsTo, haccepts] using hkeeps
          obtain ⟨hsession, hothers⟩ := sessions_handleAuth env h.isOwn.2 hp ht
          exact hquiet _ rfl (h.of_frame (records_handleAuth hp) hsession hothers)
            (heard_handleAuth_of_ne ht)
      | send message =>
          refine ⟨h.of_directory (directory_processSend env t message σ) ?_,
            h.heard_processSend hplaced t message⟩
          rw [processMessage, (keeps_processSend env t message σ).sessions]
      | _ => exact hquiet _ rfl (h.of_directory rfl rfl) rfl
  | close t =>
      obtain ⟨ht, rfl⟩ := Option.ite_some_none_eq_some.1 hstep
      have hp : (σ.sessions t).playerId ≠ p := by simpa [stays] using hstays
      have hts : t ≠ s := by
        rintro rfl
        exact hp h.playerId
      obtain ⟨hplayers, hsessions, hsent, -⟩ := closeSession_spec (ChatSession.isOpen_iff.1 ht).2
      refine hquiet _ rfl (h.of_frame ?_ ?_ ?_) (heard_of_eq hsent)
      · refine (hplayers p).trans (if_neg ?_)
        rintro ⟨-, heq⟩
        exact hp heq.symm
      · rw [hsessions, hupdate t _ hts]
      · intro q hq
        rw [ChatServer.registered, hplayers] at hq
        split at hq
        · cases hq
        · exact hq
  | released t =>
      obtain ⟨hclosed, rfl⟩ := Option.ite_some_none_eq_some.1 hstep
      have hts : t ≠ s := by
        rintro rfl
        rw [hopen.2] at hclosed
        cases hclosed.2
      exact hquiet _ rfl (h.of_directory rfl (hupdate t _ hts)) rfl
  | internalMessage envelope =>
      obtain rfl := Option.some.inj hstep
      cases envelope with
      | sessionCreated message =>
          have hkept := keeps_handleSessionCreated env message σ
          refine hquiet _ rfl (h.of_frame ?_ (by rw [processInternalMessage, hkept.sessions])
            fun q hq => ?_) (heard_of_eq ?_)
          · exact Directory.records_of_place (place_handleSessionCreated env message σ)
              (fun heq => by cases heq) fun sid heq => by cases heq
          · rwa [processInternalMessage, hkept.registered] at hq
          · exact (stores_attempt env _ _).sent.trans (stores_saveSessionNames env message σ).sent
      | sessionEnded message =>
          have hne : message.sessionId ≠ sid := by simpa [stays] using hstays
          have hkept := keeps_handleSessionEnded env message σ
          refine hquiet _ rfl (h.of_frame ?_ (by rw [processInternalMessage, hkept.sessions])
            fun q hq => ?_) (heard_of_eq (sent_handleSessionEnded env message σ))
          · rcases run_handleSessionEnded env message σ with ⟨-, heq⟩ | hplace
            · rw [processInternalMessage, heq]
            · refine Directory.records_of_place hplace (fun heq => by cases heq)
                fun x heq hmem => ?_
              cases heq
              obtain ⟨state, hp, -, hsid⟩ := h.record
              obtain ⟨-, hhas⟩ := (hplaced.member _ _).1 hmem
              exact hne (((Directory.has_of_eq hp).1 hhas).symm.trans hsid)
          · rwa [processInternalMessage, hkept.registered] at hq
      | _ => exact hquiet _ rfl (h.of_directory rfl rfl) rfl
  | clock now =>
      obtain rfl := Option.some.inj hstep
      exact hquiet _ rfl (h.of_directory rfl rfl) rfl
  | tick seconds =>
      obtain rfl := Option.some.inj hstep
      exact hquiet _ rfl (h.of_directory rfl rfl) rfl

end Attends

/-!
## The history of a session
-/

/-- While a session has a channel, its history is the newest of its messages; before it is
created there are none. -/
structure Recorded (env : Env) (sid : String) (σ : ChatServer) (is : List Input)
    (accepted : List ChatReceive) : Prop where
  fresh : sid ∉ is.filterMap Input.created → accepted = [] ∧ σ.entry (historyKey sid) = none
  list : (σ.directory.channels sid).isSome → Redis.HoldsList σ.redis.store (historyKey sid)
    (newest env (accepted.map env.serialize).reverse)

section recorded

variable {env : Env} {σ τ : ChatServer} {sid : String} {i : Input} {is : List Input}
  {accepted : List ChatReceive}

/-- The newest messages after one more are that one and the newest before it. -/
theorem newest_cons (env : Env) (x : List UInt8) (l : List (List UInt8)) :
    newest env (x :: newest env l) = newest env (x :: l) := by
  unfold newest
  split
  · rfl
  · next hsize =>
      obtain ⟨n, hn⟩ := Nat.exists_eq_succ_of_ne_zero hsize
      rw [hn, List.take_succ_cons, List.take_succ_cons, List.take_take, Nat.min_eq_left]
      exact Nat.le_succ n

/-- A message that the rate limiter lets pass is handled. -/
theorem processSend_of_allowed {s : SessionPtr} (message : ChatSend)
    (hauthenticated : (σ.sessions s).authenticated = true)
    (hlimit : (σ.rateLimit env s).1 = true) : σ.processSend env s message =
      ((σ.rateLimit env s).2).handleChatSend env (σ.sessions s).playerId message := by
  have hsessions := (stores_rateLimit env s σ).sessions
  rw [processSend, if_pos hauthenticated]
  generalize σ.rateLimit env s = pair at hlimit hsessions ⊢
  obtain ⟨allowed, υ⟩ := pair
  obtain rfl : allowed = true := hlimit
  exact congrArg (fun f : SessionPtr → ChatSession =>
    υ.handleChatSend env (f s).playerId message) hsessions

theorem redis_broadcastToSession (σ : ChatServer) (sid : String) (envelope : ChatEnvelope) :
    (σ.broadcastToSession sid envelope).redis = σ.redis := by
  unfold broadcastToSession
  split
  · rfl
  · rw [broadcast_eq]

/-- A message that is accepted goes into the history, which an expiry of no time deletes. -/
theorem holdsList_of_saved (henv : env.Answers)
    (hlimiter : ∀ limiter, env.rateLimiter = some limiter → limiter.keyPrefix = "chat:rate:")
    {receive : ChatReceive} (h : acceptedAll env σ i = some (sid, receive))
    (hstep : Step env σ i τ) {l : List (List UInt8)}
    (hlist : Redis.HoldsList σ.redis.store (historyKey sid) l) :
    Redis.HoldsList τ.redis.store (historyKey sid)
      (kept env (env.serialize receive :: l)) := by
  obtain ⟨s, message, state, rfl, hp, rfl, hsid, rfl, hauthenticated, hlimit, hchannel,
    haccepted⟩ := exists_of_acceptedAll h
  obtain ⟨-, rfl⟩ := Option.ite_some_none_eq_some.1 hstep
  have hstores := stores_rateLimit env s σ
  have hentry : (σ.rateLimit env s).2.entry (historyKey state.sessionId) =
      σ.entry (historyKey state.sessionId) := by
    apply entry_rateLimit
    intro limiter hlim
    rw [hlimiter limiter hlim]
    exact KeyOf.ne_append (Or.inr rfl) (by decide) _
  have hprocess := processSend_of_allowed message hauthenticated hlimit
  generalize (σ.rateLimit env s).2 = υ at hstores hentry hprocess
  have hp' : υ.manager.players.find? (σ.sessions s).playerId = some state := by
    rw [hstores.manager]
    exact hp
  rw [← refusal_of_manager hstores.manager] at haccepted
  have hreceive : υ.receiveOf (σ.sessions s).playerId state message =
      σ.receiveOf (σ.sessions s).playerId state message := by
    rw [receiveOf, hstores.clock]
    rfl
  rw [processMessage, hprocess, handleChatSend_of_accepted hp' haccepted, deliver, hchannel]
  simp only [beq_iff_eq, hsid, if_false, hreceive]
  -- the broadcast before leaves Redis as it is
  have hredis := redis_broadcastToSession υ state.sessionId
    (.receive (σ.receiveOf (σ.sessions s).playerId state message))
  generalize υ.broadcastToSession state.sessionId
    (.receive (σ.receiveOf (σ.sessions s).playerId state message)) = φ at hredis ⊢
  have hφ : Redis.HoldsList φ.redis.store (historyKey state.sessionId) l := by
    rw [hredis]
    exact hlist.of_lookup_eq hentry
  exact (holdsList_saveToHistory_of_answered henv.connected (fun n _ => henv.answered _) hφ _).1

/-- A message that is accepted goes into the history. -/
theorem holdsList_of_accepted (henv : env.Answers) (httl : env.sessionTtl ≠ 0)
    (hlimiter : ∀ limiter, env.rateLimiter = some limiter → limiter.keyPrefix = "chat:rate:")
    {receive : ChatReceive} (h : acceptedAll env σ i = some (sid, receive))
    (hstep : Step env σ i τ) {l : List (List UInt8)}
    (hlist : Redis.HoldsList σ.redis.store (historyKey sid) l) :
    Redis.HoldsList τ.redis.store (historyKey sid)
      (newest env (env.serialize receive :: l)) := by
  have hsaved := holdsList_of_saved henv hlimiter h hstep hlist
  rw [kept, if_neg httl] at hsaved
  exact hsaved

/-- The history of a session is written by the messages that are accepted for it, and by the
end of the session. -/
theorem history_of_writes (hlimiter : ∀ limiter, env.rateLimiter = some limiter →
      limiter.keyPrefix = "chat:rate:") (hwrites : Writes env σ i (historyKey sid)) :
    (∃ receive, acceptedAll env σ i = some (sid, receive)) ∨
      ∃ message, i = .internalMessage (.sessionEnded message) ∧ message.sessionId = sid ∧
        σ.manager.sessionChannels.contains sid = true := by
  generalize hkey : historyKey sid = key at hwrites
  have hkeyOf : KeyOf sid key := Or.inr hkey.symm
  cases hwrites with
  | count hlim =>
      rw [hlimiter _ hlim] at hkeyOf
      exact absurd rfl (hkeyOf.ne_append (by decide) _)
  | history haccepted =>
      obtain rfl := historyKey_injective hkey
      exact Or.inl ⟨_, haccepted⟩
  | names hsid haccepts => exact absurd hkey.symm (sessionKey_ne_historyKey _ _)
  | player => exact absurd rfl (hkeyOf.ne_append (by decide) _)
  | name => exact absurd rfl (hkeyOf.ne_append (by decide) _)
  | created => exact absurd hkey.symm (sessionKey_ne_historyKey _ _)
  | createdName hplayer => exact absurd rfl (hkeyOf.ne_append (by decide) _)
  | @ended message key hchannel hkey' =>
      obtain rfl := hkeyOf.eq hkey'
      exact Or.inr ⟨message, rfl, rfl, hchannel⟩

/-- A step without a message for the session leaves its history, as long as the session
keeps its channel. -/
theorem entry_of_not_accepted (hlimiter : ∀ limiter, env.rateLimiter = some limiter →
      limiter.keyPrefix = "chat:rate:") (hstep : Persists env sid σ i τ)
    (hnone : ∀ receive, acceptedAll env σ i ≠ some (sid, receive)) :
    τ.directory.channels sid = none ∧ (σ.directory.channels sid).isSome ∨
      τ.entry (historyKey sid) = σ.entry (historyKey sid) := by
  by_cases hwrites : Writes env σ i (historyKey sid)
  · left
    rcases history_of_writes hlimiter hwrites with ⟨receive, haccepted⟩ |
      ⟨message, rfl, rfl, hchannel⟩
    · exact absurd haccepted (hnone receive)
    · obtain rfl := Option.some.inj hstep.1
      rw [← channels_isSome] at hchannel
      exact ⟨channels_handleSessionEnded message σ, hchannel⟩
  · right
    rcases entry_step hstep.1 hwrites with heq | ⟨seconds, hi, -⟩
    · exact heq
    · exact hstep.2 seconds hi

/-- A message that is not accepted is not read off. -/
theorem acceptedFor_eq_nil (hnone : ∀ receive, acceptedAll env σ i ≠ some (sid, receive)) :
    acceptedFor env sid σ i = [] := by
  unfold acceptedFor
  split
  · next x receive heq =>
      apply if_neg
      rintro rfl
      exact hnone receive heq
  · rfl

theorem acceptedFor_of_accepted {receive : ChatReceive}
    (haccepted : acceptedAll env σ i = some (sid, receive)) :
    acceptedFor env sid σ i = [receive] := by
  rw [acceptedFor, haccepted]
  exact if_pos rfl

theorem recorded_step (henv : env.Answers) (httl : env.sessionTtl ≠ 0)
    (hlimiter : ∀ limiter, env.rateLimiter = some limiter → limiter.keyPrefix = "chat:rate:")
    (hplaced : σ.directory.Placed)
    (hchannels : (σ.directory.channels sid).isSome → sid ∈ is.filterMap Input.created)
    (honce : CreatedOnce (is ++ [i])) (h : Recorded env sid σ is accepted)
    (hstep : Persists env sid σ i τ) :
    Recorded env sid τ (is ++ [i]) (accepted ++ acceptedFor env sid σ i) := by
  by_cases haccepted : ∃ receive, acceptedAll env σ i = some (sid, receive)
  · obtain ⟨receive, haccepted⟩ := haccepted
    have hfor := acceptedFor_of_accepted haccepted
    have hsome := isSome_of_accepted hplaced haccepted
    rw [hfor]
    constructor
    · intro hnot
      rw [List.filterMap_append, List.mem_append, not_or] at hnot
      exact absurd (hchannels hsome) hnot.1
    · intro _
      rw [List.map_append, List.reverse_append]
      have hlist := holdsList_of_accepted henv httl hlimiter haccepted hstep.1 (h.list hsome)
      rw [newest_cons] at hlist
      exact hlist
  · have hnone : ∀ receive, acceptedAll env σ i ≠ some (sid, receive) :=
      fun receive heq => haccepted ⟨receive, heq⟩
    have hfor := acceptedFor_eq_nil hnone
    rw [hfor, List.append_nil]
    constructor
    · intro hnot
      rw [List.filterMap_append, List.mem_append, not_or] at hnot
      obtain ⟨hempty, hentry⟩ := h.fresh hnot.1
      refine ⟨hempty, ?_⟩
      rcases entry_of_not_accepted hlimiter hstep hnone with ⟨-, hsome⟩ | heq
      · exact absurd (hchannels hsome) hnot.1
      · rw [heq, hentry]
    · intro hτ
      rcases entry_of_not_accepted hlimiter hstep hnone with ⟨hgone, -⟩ | heq
      · rw [hgone] at hτ
        cases hτ
      · by_cases hσ : (σ.directory.channels sid).isSome
        · exact (h.list hσ).of_lookup_eq heq
        · -- the session has just been created
          have hcreated : i.created = some sid := by
            by_contra hcreated
            exact hσ (isSome_of_step hstep.1 hcreated hτ)
          rw [CreatedOnce, List.filterMap_append, List.nodup_append] at honce
          obtain ⟨rfl, hentry⟩ := h.fresh fun hmem =>
            honce.2.2 sid hmem sid (by simp [hcreated]) rfl
          refine Or.inl ⟨heq.trans hentry, ?_⟩
          simp [newest]

/-- What is accepted for a session is a message to a session. -/
theorem channel_of_trace {R : ChatServer → Input → ChatServer → Prop} {is : List Input}
    {accepted : List ChatReceive} (h : Trace R (acceptedFor env sid) σ is accepted τ) :
    ∀ receive ∈ accepted, receive.channel = .all := by
  induction h with
  | nil => exact fun receive hreceive => absurd hreceive List.not_mem_nil
  | snoc htrace hstep ih =>
      intro receive hreceive
      rcases List.mem_append.1 hreceive with hreceive | hreceive
      · exact ih receive hreceive
      · unfold acceptedFor at hreceive
        split at hreceive
        · next haccepted =>
            obtain ⟨s, message, state, -, -, -, -, rfl, -, -, hchannel, -⟩ :=
              exists_of_acceptedAll haccepted
            split at hreceive
            · rw [List.mem_singleton.1 hreceive]
              exact hchannel
            · cases hreceive
        · cases hreceive

theorem recorded_of_trace (henv : env.Answers) (httl : env.sessionTtl ≠ 0)
    (hlimiter : ∀ limiter, env.rateLimiter = some limiter → limiter.keyPrefix = "chat:rate:")
    {store : Redis.Keyspace} (hstore : store.lookup (historyKey sid) = none)
    (htrace : Trace (Persists env sid) (acceptedFor env sid) (initial store) is accepted σ)
    (honce : CreatedOnce is) : Recorded env sid σ is accepted := by
  induction htrace with
  | nil =>
      constructor
      · exact fun _ => ⟨rfl, hstore⟩
      · intro hsome
        cases hsome
  | snoc htrace hstep ih =>
      obtain ⟨hplaced, hchannels⟩ :=
        placed_of_run (htrace.run.mono fun _ _ _ => And.left) honce.of_append
      exact recorded_step henv httl hlimiter hplaced (hchannels sid) honce
        (ih honce.of_append) hstep

end recorded

/-!
## The replay
-/

section replay

variable {env : Env} {σ : ChatServer} {p sid : String} {s : SessionPtr}

/-- Entries that can be read go to the player, in their order. -/
theorem sent_sendHistoryEntries (receives : List ChatReceive) (σ : ChatServer)
    (hp : σ.reached p = some s) :
    ((receives.map env.serialize).foldl (sendHistoryEntry env p) σ).sent =
      σ.sent ++ receives.map fun receive => ⟨s, .receive receive⟩ := by
  induction receives generalizing σ with
  | nil => simp
  | cons receive receives ih =>
      rw [List.map_cons, List.foldl_cons, sendHistoryEntry, env.parse_serialize]
      simp only
      rw [ih _ (by rw [reached_sendTo, hp]), sendTo_eq, hp]
      simp

/-- The history is replayed with its oldest message first. -/
theorem sent_sendHistory (henv : env.Answers) (hsize : env.historySize.toNat ≠ 0)
    (hp : σ.reached p = some s) {receives : List ChatReceive}
    (hlist : Redis.HoldsList σ.redis.store (historyKey sid)
      (newest env (receives.map env.serialize).reverse)) :
    (σ.sendHistory env p sid).sent = σ.sent ++
      (receives.drop (receives.length - env.historySize.toNat)).map fun receive =>
        ⟨s, .receive receive⟩ := by
  obtain ⟨ks, hlrange⟩ := hlist.lrange 0 ((env.historySize.toNat : ℤ) - 1)
  have hentries : (Redis.slice (newest env (receives.map env.serialize).reverse) 0
      ((env.historySize.toNat : ℤ) - 1)).reverse =
        (receives.drop (receives.length - env.historySize.toNat)).map env.serialize := by
    rw [Redis.slice_zero_pred, newest, if_neg hsize, if_neg hsize, List.take_take, min_self,
      List.take_reverse, List.reverse_reverse, List.length_map, List.map_drop]
  rw [sendHistory, if_pos henv.connected, Redis.call_answered (henv.answered _) hlrange]
  simp only
  rw [hentries]
  exact sent_sendHistoryEntries _ _ hp

/-- A player who enters a session on a connection of its own is sent the history. -/
theorem enters (henv : env.Answers) (hsize : env.historySize.toNat ≠ 0) {auth : ChatAuth}
    (hsid : auth.sessionId ≠ "") (haccepts : σ.accepts auth = true)
    (hown : IsOwn σ s auth.playerId) {receives : List ChatReceive}
    (hall : ∀ receive ∈ receives, receive.channel = .all)
    (hlist : Redis.HoldsList σ.redis.store (historyKey auth.sessionId)
      (newest env (receives.map env.serialize).reverse)) :
    Attends (σ.handleAuth env auth s) auth.playerId auth.sessionId s ∧
      (σ.handleAuth env auth s).heard s =
        σ.heard s ++ receives.drop (receives.length - env.historySize.toNat) := by
  have hboth := haccepts
  rw [accepts, Bool.and_eq_true] at hboth
  obtain ⟨hcomplete, hadmits⟩ := hboth
  have hchannel : σ.manager.sessionChannels.contains auth.sessionId = true := by
    simpa [admits, hsid] using hadmits
  have hopen := ChatSession.isOpen_iff.1 hown.1
  obtain ⟨hregistered, hsessions⟩ := handleAuth_of_admits hcomplete hadmits env s
  have hself : (σ.handleAuth env auth s).sessions s =
      { σ.sessions s with playerId := auth.playerId, authenticated := true } := by
    rw [hsessions, Function.update_self]
  have hopen' : ((σ.handleAuth env auth s).sessions s).isOpen = true := by
    rw [hself]
    exact ChatSession.isOpen_iff.2 hopen
  rw [handleAuth_of_session hcomplete hsid hchannel] at hregistered hself hopen' ⊢
  generalize hυ : ((σ.takeOver auth.playerId s).addMember auth.sessionId
    auth.playerId).saveSessionPlayer env auth = υ at hregistered hself hopen' ⊢
  generalize hρ : υ.register auth.playerId
    { playerName := auth.playerName, sessionId := auth.sessionId, session := s } s = ρ at *
  obtain ⟨hmanager, hkept⟩ := sendHistory_spec env auth.playerId auth.sessionId ρ
  have hrecord : ρ.directory.records auth.playerId = some
      { playerName := auth.playerName, sessionId := auth.sessionId, session := s } := by
    rw [← hρ, directory_register]
    exact Function.update_self _ _ _
  have hreached : ρ.reached auth.playerId = some s := by
    have hp : ρ.registered auth.playerId = some s := by
      rw [← hρ, (register_spec _ _ s υ).1, Function.update_self]
    rw [hkept] at hopen'
    rw [reached, hp, Option.filter_some, hopen', if_pos rfl]
  have hentry : ρ.entry (historyKey auth.sessionId) = σ.entry (historyKey auth.sessionId) := by
    rw [← hρ, ← hυ, entry_register, entry_saveSessionPlayer]
    · exact entry_takeOver σ _ s
    · exact (sessionKey_ne_historyKey _ _).symm
    · exact KeyOf.ne_append (Or.inr rfl) (by decide) _
    · exact KeyOf.ne_append (Or.inr rfl) (by decide) _
  have hheard : ρ.heard s = σ.heard s := by
    apply heard_of_appends
    have htaken := (takeOver_sent (P := fun d => allTo s d = none) σ auth.playerId s
      fun _ => rfl).1
    have hsent : υ.sent = (σ.takeOver auth.playerId s).sent := by
      rw [← hυ]
      exact (stores_attempt env _ _).sent
    rw [← hsent] at htaken
    rw [← hρ]
    exact htaken.trans (register_sent (P := fun d => allTo s d = none) _ _ s fun _ => rfl).1
  constructor
  · constructor
    · refine ⟨{ playerName := auth.playerName, sessionId := auth.sessionId, session := s },
        ?_, rfl, rfl⟩
      rw [hmanager]
      exact hrecord
    · rw [hself]
    · refine ⟨hopen', fun q hq => ?_⟩
      rw [hregistered, Function.update_apply] at hq
      split at hq
      · assumption
      · exact hown.2 q hq
  · rw [heard_of_sent (sent_sendHistory henv hsize hreached (hlist.of_lookup_eq hentry)), hheard]
    congr 1
    rw [List.filterMap_map]
    refine (List.filterMap_congr fun receive hreceive => ?_).trans List.filterMap_some
    exact if_pos ⟨rfl, hall receive (List.mem_of_mem_drop hreceive)⟩

/-- A player whose connection is its own sees the newest of the messages of its session
and then every message of it, once each and in order. -/
theorem gaplessView_of_own (henv : env.Answers) (httl : env.sessionTtl ≠ 0)
    (hsize : env.historySize.toNat ≠ 0)
    (hlimiter : ∀ limiter, env.rateLimiter = some limiter → limiter.keyPrefix = "chat:rate:") :
    GaplessView env IsOwn keepsTo := by
  intro store is before σ s auth σ' js after τ hstore hbefore hsid haccepts hown hauth hafter
    honce
  have hrun : Run (Step env) (initial store) is σ := hbefore.run.mono fun _ _ _ => And.left
  have hsome := isSome_of_accepts hsid haccepts
  have hrecorded := recorded_of_trace henv httl hlimiter hstore hbefore honce.of_append
  obtain ⟨-, rfl⟩ := Option.ite_some_none_eq_some.1 hauth
  obtain ⟨hattends, hheard⟩ := enters henv hsize hsid haccepts hown
    (channel_of_trace hbefore) (hrecorded.list hsome)
  have hview : Attends τ auth.playerId auth.sessionId s ∧
      τ.heard s = (σ.handleAuth env auth s).heard s ++ after := by
    induction hafter with
    | nil =>
        rw [List.append_nil]
        exact ⟨hattends, rfl⟩
    | @snoc js after υ i τ htrace hstep ih =>
        have honce' : CreatedOnce (is ++ js) := by
          rw [← List.append_assoc] at honce
          exact honce.of_append
        obtain ⟨hυ, hseen⟩ := ih honce'
        obtain ⟨⟨hstep, -⟩, hok⟩ := hstep
        rw [Bool.and_eq_true] at hok
        have hplaced := placed_of_later hrun hauth rfl
          (htrace.run.mono fun _ _ _ hstep => hstep.1.1) honce'
        obtain ⟨hτ, hnext⟩ := hυ.step hplaced hstep hok.1 hok.2
        refine ⟨hτ, ?_⟩
        rw [hnext, hseen, List.append_assoc]
  rw [hview.2, hheard, List.append_assoc]

theorem gaplessView_of_own_default : GaplessView defaultEnv IsOwn keepsTo := by
  apply gaplessView_of_own
  · exact ⟨rfl, fun _ => rfl⟩
  · decide
  · decide
  · intro limiter hlimiter
    cases hlimiter
    rfl

end replay

/-- A second player authenticates on the connection of the first one, which closes then:
the first player is still in its session, and is sent no more of it. -/
theorem not_gaplessView_secondPlayer :
    ¬ GaplessView defaultEnv (fun _ _ _ => True) fun _ _ _ => true := by
  intro hclaim
  have hrun : (execTrace (step defaultEnv) (acceptedFor defaultEnv "s") (initial {})
      [.connect 0, .connect 1, .internalMessage (.sessionCreated ⟨"s", []⟩)]).any (fun r =>
        r.2.accepts ⟨"p", "s", "P"⟩ &&
        (step defaultEnv r.2 (.message 0 (.auth ⟨"p", "s", "P"⟩))).any fun σ' =>
          (execTrace (guarded (fun σ i => stays "p" "s" σ i && true) (step defaultEnv))
            (acceptedFor defaultEnv "s") σ' [.message 0 (.auth ⟨"q", "", "Q"⟩), .close 0,
              .message 1 (.auth ⟨"r", "s", "R"⟩), .message 1 (.send ⟨.all, "hi", ""⟩)]).any
            fun r' => r'.2.heard 0 != r.2.heard 0 ++ (r.1.drop (r.1.length - 20) ++ r'.1)) =
      true := by
    decide +kernel
  obtain ⟨⟨before, σ⟩, hbefore, hσ⟩ := (Option.any_eq_true _ _).1 hrun
  rw [Bool.and_eq_true] at hσ
  obtain ⟨σ', hauth, hσ'⟩ := (Option.any_eq_true _ _).1 hσ.2
  obtain ⟨⟨after, τ⟩, hafter, hne⟩ := (Option.any_eq_true _ _).1 hσ'
  have hnoTick : ∀ {σ τ : ChatServer} {i : Input}, (∀ seconds, i ≠ .tick seconds) →
      Step defaultEnv σ i τ → Persists defaultEnv "s" σ i τ :=
    fun hi hstep => ⟨hstep, fun seconds heq => absurd heq (hi seconds)⟩
  have htrace := ((trace_of_execTrace hbefore).and_of_forall
    (P := fun i => ∀ seconds, i ≠ .tick seconds) (by simp)).mono
      fun _ _ _ hstep => hnoTick hstep.2 hstep.1
  have htrace' := ((trace_of_execTrace hafter).and_of_forall
    (P := fun i => ∀ seconds, i ≠ .tick seconds) (by simp)).mono fun _ _ _ hstep =>
      (⟨hnoTick hstep.2 (guarded_eq_some.1 hstep.1).1, (guarded_eq_some.1 hstep.1).2⟩ :
        Guarded _ (Persists defaultEnv "s") _ _ _)
  have hview := hclaim {} _ before σ 0 ⟨"p", "s", "P"⟩ σ' _ after τ
    (Option.isNone_iff_eq_none.1 (by decide)) htrace (by decide) hσ.1 trivial hauth htrace'
    (by decide)
  exact (bne_iff_ne.1 hne) hview

end Chat

end SosBackend
