import SosBackend.Chat.Effect

/-!
# Who speaks for a player in the chat

The manager has one entry for each player with the session it came from, and each
session remembers its player and whether it is authenticated. An authentication
brings the two together, but not always: a session that authenticates as a second
player leaves the entry of the first one behind, one that is refused on the session
of the player itself leaves that session authenticated without an entry, and one that
is processed on a closed session registers it. As long as no step does that, the
entries are exactly the open authenticated sessions.
-/

namespace SosBackend

namespace Chat

open ChatServer

theorem ChatSession.isOpen_iff {c : ChatSession} :
    c.isOpen = true ↔ c.lifetime = .alive ∧ c.closed = false := by
  simp [isOpen]

namespace ChatServer

/-- The session is open and authenticated as the player. -/
def SpeaksFor (σ : ChatServer) (s : SessionPtr) (p : String) : Prop :=
  (σ.sessions s).isOpen = true ∧ (σ.sessions s).authenticated = true ∧
    (σ.sessions s).playerId = p

/-- The entries are the open authenticated sessions. -/
structure Identified (σ : ChatServer) : Prop where
  registered_iff : ∀ s p, σ.registered p = some s ↔ σ.SpeaksFor s p
  named : σ.registered "" = none
  anonymous : ∀ s, (σ.sessions s).authenticated = false → (σ.sessions s).playerId = ""
  cleared : ∀ s, (σ.sessions s).closed = true → (σ.sessions s).playerId = ""

variable {σ τ : ChatServer}

theorem Keeps.identified (h : Keeps σ τ) (hσ : σ.Identified) : τ.Identified := by
  refine ⟨?_, ?_, ?_, ?_⟩
  · unfold SpeaksFor
    rw [h.registered, h.sessions]
    exact hσ.registered_iff
  · rw [h.registered]
    exact hσ.named
  · rw [h.sessions]
    exact hσ.anonymous
  · rw [h.sessions]
    exact hσ.cleared

namespace Identified

/-- Two players are not registered on one session. -/
theorem eq_of_registered (h : σ.Identified) {s : SessionPtr} {p q : String}
    (hp : σ.registered p = some s) (hq : σ.registered q = some s) : p = q :=
  ((h.registered_iff s p).1 hp).2.2.symm.trans ((h.registered_iff s q).1 hq).2.2

/-- Taking a player over keeps the entries in agreement, up to the session that takes it
over. -/
theorem takeOver_iff (h : σ.Identified) {p q : String} {s t : SessionPtr}
    (hst : t = s → q = p → ¬ σ.SpeaksFor s p) :
    (σ.takeOver p s).registered q = some t ↔ (σ.takeOver p s).SpeaksFor t q := by
  rw [registered_takeOver, SpeaksFor, sessions_takeOver, Function.update_apply]
  by_cases hreplaces : σ.Replaces p s t
  · -- the session that is replaced speaks for nobody
    rw [if_pos hreplaces]
    simp only [Bool.false_eq_true, false_and, and_false, iff_false]
    split
    · intro heq
      cases heq
    · next hq => exact fun hqt => hq (h.eq_of_registered hqt hreplaces.2.1)
  · rw [if_neg hreplaces]
    split
    · next hq =>
        subst hq
        constructor
        · intro heq
          cases heq
        intro hspeaks
        have ht := (h.registered_iff t q).2 hspeaks
        by_cases hts : t = s
        · subst hts
          exact absurd hspeaks (hst rfl rfl)
        · exact absurd ⟨hts, ht, (ChatSession.isOpen_iff.1 hspeaks.1).1⟩ hreplaces
    · exact h.registered_iff t q

theorem takeOver_anonymous (h : σ.Identified) (p : String) (s t : SessionPtr)
    (ht : ((σ.takeOver p s).sessions t).authenticated = false) :
    ((σ.takeOver p s).sessions t).playerId = "" := by
  rw [sessions_takeOver] at ht ⊢
  split
  · rfl
  · next hreplaces =>
      rw [if_neg hreplaces] at ht
      exact h.anonymous t ht

theorem takeOver_cleared (h : σ.Identified) (p : String) (s t : SessionPtr)
    (ht : ((σ.takeOver p s).sessions t).closed = true) :
    ((σ.takeOver p s).sessions t).playerId = "" := by
  rw [sessions_takeOver] at ht ⊢
  split
  · rfl
  · next hreplaces =>
      rw [if_neg hreplaces] at ht
      exact h.cleared t ht

end Identified

end ChatServer

/-!
## Steps
-/

/-- An accepted authentication is on an open session that is not authenticated as
another player, and a refused one is not on the session authenticated as the
player. -/
def keepsIdentity (σ : ChatServer) (i : Input) : Bool :=
  match i with
  | .message s (.auth auth) => !auth.isComplete ||
      if σ.admits auth then
        (σ.sessions s).isOpen &&
          (!(σ.sessions s).authenticated || (σ.sessions s).playerId == auth.playerId)
      else
        !((σ.sessions s).isOpen && (σ.sessions s).authenticated &&
          (σ.sessions s).playerId == auth.playerId)
  | _ => true

theorem identified_handleAuth {env : Env} {σ : ChatServer} {auth : ChatAuth}
    {s : SessionPtr} (h : σ.Identified)
    (hkeeps : keepsIdentity σ (.message s (.auth auth)) = true) :
    (σ.handleAuth env auth s).Identified := by
  cases hcomplete : auth.isComplete with
  | false =>
      rw [handleAuth_of_incomplete hcomplete]
      exact (speaks_send (P := fun _ => True) σ fun _ => trivial).keeps.identified h
  | true =>
  have hne : auth.playerId ≠ "" := by
    simp only [ChatAuth.isComplete, Bool.and_eq_true, bne_iff_ne] at hcomplete
    exact hcomplete.1
  have hnamed : (σ.takeOver auth.playerId s).registered "" = none := by
    rw [registered_takeOver, Function.update_of_ne hne.symm]
    exact h.named
  simp only [keepsIdentity, hcomplete, Bool.not_true, Bool.false_or] at hkeeps
  cases hadmits : σ.admits auth with
  | false =>
      rw [hadmits] at hkeeps
      rw [handleAuth_of_not_admits hcomplete hadmits]
      refine (speaks_send (P := fun _ => True) _ fun _ => trivial).keeps.identified
        ⟨fun t q => h.takeOver_iff ?_, hnamed, h.takeOver_anonymous _ s,
          h.takeOver_cleared _ s⟩
      rintro - - ⟨hopen, hauthenticated, hplayer⟩
      simp [hopen, hauthenticated, hplayer] at hkeeps
  | true =>
      rw [hadmits, if_pos rfl, Bool.and_eq_true] at hkeeps
      obtain ⟨hopen, hplayer⟩ := hkeeps
      obtain ⟨hregistered, hsessions⟩ := handleAuth_of_admits hcomplete hadmits env s
      have hself : (σ.handleAuth env auth s).sessions s =
          { σ.sessions s with playerId := auth.playerId, authenticated := true } := by
        rw [hsessions, Function.update_self]
      have hother : ∀ {t}, t ≠ s → (σ.handleAuth env auth s).sessions t =
          (σ.takeOver auth.playerId s).sessions t := by
        intro t ht
        rw [hsessions, Function.update_of_ne ht]
      refine ⟨?_, ?_, ?_, ?_⟩
      · intro t q
        rw [hregistered, SpeaksFor, Function.update_apply]
        by_cases hts : t = s
        · subst hts
          rw [hself]
          refine ⟨?_, ?_⟩
          · split
            · next hq => exact fun _ => ⟨hopen, rfl, hq.symm⟩
            · -- a second player on the session
              next hq =>
              intro hqt
              obtain ⟨-, hauthenticated, rfl⟩ := (h.registered_iff t q).1 hqt
              simp only [hauthenticated, Bool.not_true, Bool.false_or, beq_iff_eq] at hplayer
              exact absurd hplayer hq
          · rintro ⟨-, -, hq⟩
            rw [if_pos hq.symm]
        · rw [hother hts]
          refine Iff.trans ?_ (h.takeOver_iff (p := auth.playerId) fun heq => absurd heq hts)
          rw [registered_takeOver, Function.update_apply]
          split
          · constructor
            · intro heq
              exact absurd (Option.some.inj heq).symm hts
            · intro heq
              cases heq
          · exact Iff.rfl
      · rw [hregistered, Function.update_of_ne hne.symm]
        exact h.named
      · intro t ht
        by_cases hts : t = s
        · subst hts
          rw [hself] at ht
          cases ht
        · rw [hother hts] at ht ⊢
          exact h.takeOver_anonymous _ s t ht
      · intro t ht
        by_cases hts : t = s
        · subst hts
          rw [hself] at ht
          rw [(ChatSession.isOpen_iff.1 hopen).2] at ht
          cases ht
        · rw [hother hts] at ht ⊢
          exact h.takeOver_cleared _ s t ht

/-- Closing a session takes away exactly its entry. -/
theorem closeSession_players {σ : ChatServer} {s : SessionPtr} (h : σ.Identified)
    (hopen : (σ.sessions s).isOpen = true) (p : String) :
    (σ.closeSession s).manager.players.find? p =
      if σ.registered p = some s then none else σ.manager.players.find? p := by
  rw [(closeSession_spec (ChatSession.isOpen_iff.1 hopen).2).1 p]
  refine if_congr ⟨?_, ?_⟩ rfl rfl
  · rintro ⟨hne, rfl⟩
    refine (h.registered_iff s _).2 ⟨hopen, ?_, rfl⟩
    by_contra hauthenticated
    exact hne (h.anonymous s (Bool.eq_false_iff.2 hauthenticated))
  · intro hp
    obtain ⟨-, -, rfl⟩ := (h.registered_iff s p).1 hp
    refine ⟨fun hempty => ?_, rfl⟩
    rw [hempty, h.named] at hp
    cases hp

theorem identified_closeSession {σ : ChatServer} {s : SessionPtr} (h : σ.Identified)
    (hopen : (σ.sessions s).isOpen = true) : (σ.closeSession s).Identified := by
  have hsessions := (closeSession_spec (ChatSession.isOpen_iff.1 hopen).2).2.1
  have hself : (σ.closeSession s).sessions s =
      { σ.sessions s with closed := true, playerId := "" } := by
    rw [hsessions, Function.update_self]
  have hother : ∀ {t}, t ≠ s → (σ.closeSession s).sessions t = σ.sessions t := by
    intro t ht
    rw [hsessions, Function.update_of_ne ht]
  have hregistered : ∀ p, (σ.closeSession s).registered p =
      if σ.registered p = some s then none else σ.registered p := by
    intro p
    rw [registered, closeSession_players h hopen]
    split
    · rfl
    · rfl
  refine ⟨?_, ?_, ?_, ?_⟩
  · intro t p
    rw [hregistered, SpeaksFor]
    by_cases hts : t = s
    · subst hts
      rw [hself]
      constructor
      · split
        · intro heq
          cases heq
        · next hp => exact fun hpt => absurd hpt hp
      · rintro ⟨hopen', -⟩
        cases (ChatSession.isOpen_iff.1 hopen').2
    · rw [hother hts]
      split
      · next hp =>
          constructor
          · intro heq
            cases heq
          intro hspeaks
          have hpt := (h.registered_iff t p).2 hspeaks
          exact absurd (Option.some.inj (hpt.symm.trans hp)) hts
      · exact h.registered_iff t p
  · rw [hregistered, h.named]
    rfl
  · intro t ht
    by_cases hts : t = s
    · rw [hts, hself]
    · rw [hother hts] at ht ⊢
      exact h.anonymous t ht
  · intro t ht
    by_cases hts : t = s
    · rw [hts, hself]
    · rw [hother hts] at ht ⊢
      exact h.cleared t ht

/-- A session that is open neither before nor after, and has no player, may change. -/
theorem identified_updateSession {σ : ChatServer} {s : SessionPtr}
    {f : ChatSession → ChatSession} (h : σ.Identified)
    (hbefore : (σ.sessions s).isOpen = false)
    (hafter : (f (σ.sessions s)).isOpen = false ∨ (f (σ.sessions s)).authenticated = false)
    (hplayer : (f (σ.sessions s)).playerId = "") : (σ.updateSession s f).Identified := by
  have hself : (σ.updateSession s f).sessions s = f (σ.sessions s) := Function.update_self _ _ _
  have hother : ∀ {t}, t ≠ s → (σ.updateSession s f).sessions t = σ.sessions t :=
    fun ht => Function.update_of_ne ht _ _
  refine ⟨?_, h.named, ?_, ?_⟩
  · intro t p
    refine (h.registered_iff t p).trans ?_
    rw [SpeaksFor, SpeaksFor]
    by_cases hts : t = s
    · subst hts
      rw [hself, hbefore]
      rcases hafter with hafter | hafter
      · simp [hafter]
      · simp [hafter]
    · rw [hother hts]
  · intro t ht
    by_cases hts : t = s
    · rw [hts, hself]
      exact hplayer
    · rw [hother hts] at ht ⊢
      exact h.anonymous t ht
  · intro t ht
    by_cases hts : t = s
    · rw [hts, hself]
      exact hplayer
    · rw [hother hts] at ht ⊢
      exact h.cleared t ht

theorem identified_step {env : Env} {σ τ : ChatServer} {i : Input} (h : Step env σ i τ)
    (hkeeps : keepsIdentity σ i = true) (hσ : σ.Identified) : τ.Identified := by
  cases i with
  | connect s =>
      obtain ⟨hunborn, rfl⟩ := Option.ite_some_none_eq_some.1 h
      refine identified_updateSession hσ ?_ (Or.inr rfl) rfl
      simp [ChatSession.isOpen, hunborn]
  | message s envelope =>
      obtain ⟨-, rfl⟩ := Option.ite_some_none_eq_some.1 h
      cases envelope with
      | auth auth => exact identified_handleAuth hσ hkeeps
      | send message => exact (keeps_processSend env s message σ).identified hσ
      | _ => exact hσ
  | close s =>
      obtain ⟨hopen, rfl⟩ := Option.ite_some_none_eq_some.1 h
      exact identified_closeSession hσ hopen
  | released s =>
      obtain ⟨⟨-, hclosed⟩, rfl⟩ := Option.ite_some_none_eq_some.1 h
      refine identified_updateSession hσ ?_ (Or.inl rfl) (hσ.cleared s hclosed)
      simp [ChatSession.isOpen, hclosed]
  | internalMessage envelope =>
      obtain rfl := Option.some.inj h
      cases envelope with
      | sessionCreated message =>
          exact (keeps_handleSessionCreated env message σ).identified hσ
      | sessionEnded message => exact (keeps_handleSessionEnded env message σ).identified hσ
      | _ => exact hσ
  | clock now =>
      obtain rfl := Option.some.inj h
      exact ⟨hσ.registered_iff, hσ.named, hσ.anonymous, hσ.cleared⟩
  | tick seconds =>
      obtain rfl := Option.some.inj h
      exact ⟨hσ.registered_iff, hσ.named, hσ.anonymous, hσ.cleared⟩

/-!
## Messages
-/

/-- The input is a `ChatSend` on the session registered for the sender, and the message
is what goes out for it. -/
def Sends (receive : ChatReceive) (σ : ChatServer) (i : Input) : Prop :=
  ∃ s message state, i = .message s (.send message) ∧
    σ.manager.players.find? receive.senderId = some state ∧ state.session = s ∧
    receive = σ.receiveOf receive.senderId state message

/-- Every message that has been sent, or is in the history, has a cause. -/
structure Authentic (env : Env) (C : ChatReceive → Prop) (σ : ChatServer) : Prop where
  sent : ∀ d ∈ σ.sent, ∀ receive, d.envelope = .receive receive → C receive
  history : Redis.ListsOf (fun entry => ∃ receive, entry = env.serialize receive ∧ C receive)
    σ.redis.store

section authentic

variable {env : Env} {C : ChatReceive → Prop} {σ τ : ChatServer}

theorem Authentic.mono {C' : ChatReceive → Prop} (h : Authentic env C σ)
    (hC : ∀ receive, C receive → C' receive) : Authentic env C' σ := by
  refine ⟨fun d hd receive henvelope => hC receive (h.sent d hd receive henvelope), ?_⟩
  refine h.history.mono ?_
  rintro entry ⟨receive, rfl, hreceive⟩
  exact ⟨receive, rfl, hC receive hreceive⟩

theorem Authentic.appends (h : Authentic env C σ)
    (hsent : Appends (fun d => ∀ receive, d.envelope = .receive receive → C receive)
      σ.sent τ.sent)
    (hhistory : Redis.ListsOf (fun entry => ∃ receive, entry = env.serialize receive ∧
      C receive) τ.redis.store) : Authentic env C τ := by
  refine ⟨fun d hd receive henvelope => ?_, hhistory⟩
  rcases hsent.mem hd with hd | hd
  · exact h.sent d hd receive henvelope
  · exact hd receive henvelope

theorem Authentic.speaks (h : Authentic env C σ)
    (hspeaks : Speaks (fun d => ∀ receive, d.envelope = .receive receive → C receive) σ τ) :
    Authentic env C τ :=
  h.appends hspeaks.sent (hspeaks.redis ▸ h.history)

/-- A message on a session that is authenticated comes from the session registered for
its player. -/
theorem sends_of_player {s : SessionPtr} {message : ChatSend} {state : PlayerState}
    (hσ : σ.Identified) (halive : (σ.sessions s).lifetime = .alive)
    (hauthenticated : (σ.sessions s).authenticated = true)
    (hstate : σ.manager.players.find? (σ.sessions s).playerId = some state) :
    Sends (σ.receiveOf (σ.sessions s).playerId state message) σ
      (.message s (.send message)) := by
  have hregistered : σ.registered (σ.sessions s).playerId = some state.session := by
    rw [registered, hstate, Option.map_some]
  have hopen : (σ.sessions s).closed = false := by
    rw [← Bool.not_eq_true]
    intro hclosed
    rw [hσ.cleared s hclosed, hσ.named] at hregistered
    cases hregistered
  have hself := (hσ.registered_iff s _).2
    ⟨ChatSession.isOpen_iff.2 ⟨halive, hopen⟩, hauthenticated, rfl⟩
  exact ⟨s, message, state, rfl, hstate, Option.some.inj (hregistered.symm.trans hself), rfl⟩

theorem authentic_handleChatSend {p : String} {message : ChatSend}
    (h : Authentic env C σ)
    (hC : ∀ state, σ.manager.players.find? p = some state →
      C (σ.receiveOf p state message)) :
    Authentic env C (σ.handleChatSend env p message) := by
  obtain ⟨τ, hspeaks, hτ⟩ := handleChatSend_spec env p message σ
  have hauthentic : Authentic env C τ := by
    refine h.appends (hspeaks.sent.mono fun d hd receive henvelope => ?_)
      (hspeaks.redis ▸ h.history)
    obtain ⟨state, hstate, rfl⟩ := hd receive henvelope
    exact hC state hstate
  rcases hτ with heq | ⟨state, hstate, heq⟩
  · rw [heq]
    exact hauthentic
  · rw [heq]
    refine hauthentic.appends (Appends.of_eq (stores_attempt env _ τ).sent) ?_
    exact listsOf_saveToHistory _ hauthentic.history ⟨_, rfl, hC state hstate⟩

theorem authentic_processSend {s : SessionPtr} {message : ChatSend} (hσ : σ.Identified)
    (halive : (σ.sessions s).lifetime = .alive)
    (hC : ∀ receive, Sends receive σ (.message s (.send message)) → C receive)
    (h : Authentic env C σ) : Authentic env C (σ.processSend env s message) := by
  have herror : ∀ (τ : ChatServer) (error : ChatError), Authentic env C τ →
      Authentic env C (τ.send s (.error error)) :=
    fun τ error hτ => hτ.speaks (speaks_send τ fun _ receive henvelope => by cases henvelope)
  unfold processSend
  split
  next hauthenticated =>
    have hstores := stores_rateLimit env s σ
    have hlimited : Authentic env C (σ.rateLimit env s).2 :=
      h.appends (Appends.of_eq hstores.sent) (listsOf_rateLimit s h.history)
    split
    · next heq =>
        rw [heq] at hlimited
        exact herror _ _ hlimited
    · next σ' heq =>
        rw [heq] at hlimited hstores
        refine authentic_handleChatSend hlimited fun state hstate => ?_
        rw [hstores.sessions, hstores.manager] at hstate
        have hreceive : σ'.receiveOf (σ'.sessions s).playerId state message =
            σ.receiveOf (σ.sessions s).playerId state message := by
          rw [receiveOf, receiveOf, hstores.sessions, hstores.clock]
        rw [hreceive]
        exact hC _ (sends_of_player hσ halive hauthenticated hstate)
  · exact herror _ _ h

theorem authentic_handleAuth (auth : ChatAuth) (s : SessionPtr) (h : Authentic env C σ) :
    Authentic env C (σ.handleAuth env auth s) := by
  have hsent := handleAuth_sent env (P := fun d => ∀ receive,
    d.envelope = .receive receive → C receive) auth s h.history ?_ ?_ ?_
  · exact h.appends hsent.1 hsent.2
  · rintro t receive henvelope
    cases henvelope
  · rintro result - - receive henvelope
    cases henvelope
  · -- what is in the history reads back as what was sent
    rintro entry ⟨receive, rfl, hreceive⟩ receive' hparse t receive'' henvelope
    rw [env.parse_serialize, Option.some.injEq] at hparse
    cases henvelope
    exact hparse ▸ hreceive

theorem authentic_step {i : Input} (hstep : Step env σ i τ) (hσ : σ.Identified)
    (hC : ∀ receive, Sends receive σ i → C receive) (h : Authentic env C σ) :
    Authentic env C τ := by
  cases i with
  | connect s =>
      obtain ⟨-, rfl⟩ := Option.ite_some_none_eq_some.1 hstep
      exact ⟨h.sent, h.history⟩
  | message s envelope =>
      obtain ⟨halive, rfl⟩ := Option.ite_some_none_eq_some.1 hstep
      cases envelope with
      | auth auth => exact authentic_handleAuth auth s h
      | send message => exact authentic_processSend hσ halive hC h
      | _ => exact h
  | close s =>
      obtain ⟨hopen, rfl⟩ := Option.ite_some_none_eq_some.1 hstep
      obtain ⟨-, -, hsent, hredis⟩ := closeSession_spec (ChatSession.isOpen_iff.1 hopen).2
      exact h.appends (Appends.of_eq hsent) (hredis ▸ h.history)
  | released s =>
      obtain ⟨-, rfl⟩ := Option.ite_some_none_eq_some.1 hstep
      exact ⟨h.sent, h.history⟩
  | internalMessage envelope =>
      obtain rfl := Option.some.inj hstep
      cases envelope with
      | sessionCreated message =>
          refine h.appends (Appends.of_eq ?_) (listsOf_handleSessionCreated message h.history)
          exact (stores_attempt env _ _).sent.trans (stores_saveSessionNames env message σ).sent
      | sessionEnded message =>
          exact h.appends (Appends.of_eq (sent_handleSessionEnded env message σ))
            (listsOf_handleSessionEnded message h.history)
      | _ => exact h
  | clock now =>
      obtain rfl := Option.some.inj hstep
      exact ⟨h.sent, h.history⟩
  | tick seconds =>
      obtain rfl := Option.some.inj hstep
      exact ⟨h.sent, h.history.advance seconds⟩

end authentic

/-!
## Runs
-/

/-- In every state that runs of `R` reach, the entries are the open authenticated
sessions; a session backs one entry and an entry has one session, a message that is
delivered was sent on the session registered for its sender, and a close takes away
exactly the entry of its session. -/
structure ExclusiveIdentity (R : ChatServer → Input → ChatServer → Prop) : Prop where
  registered : ∀ store is σ, Run R (initial store) is σ → ∀ s p,
    ((σ.sessions s).isOpen = true ∧ (σ.sessions s).authenticated = true ∧
      (σ.sessions s).playerId = p) ↔
    ∃ state, σ.manager.players.find? p = some state ∧ state.session = s
  oneEntry : ∀ store is σ, Run R (initial store) is σ → ∀ p q state state',
    σ.manager.players.find? p = some state → σ.manager.players.find? q = some state' →
    state.session = state'.session → p = q
  oneSession : ∀ store is σ, Run R (initial store) is σ → ∀ p state,
    σ.manager.players.find? p = some state →
    ∃! s, (σ.sessions s).isOpen = true ∧ (σ.sessions s).authenticated = true ∧
      (σ.sessions s).playerId = p
  messages : ∀ store, Redis.ListsOf (fun _ => False) store → ∀ is σ,
    Run R (initial store) is σ → ∀ d ∈ σ.sent, ∀ receive, d.envelope = .receive receive →
    Occurs R (fun x i _ => Sends receive x i) (initial store) is σ
  closes : ∀ store is σ, Run R (initial store) is σ → ∀ s τ, R σ (.close s) τ → ∀ p state,
    τ.manager.players.find? p = some state ↔
      σ.manager.players.find? p = some state ∧ state.session ≠ s

theorem exists_entry_iff {σ : ChatServer} {s : SessionPtr} {p : String} :
    (∃ state, σ.manager.players.find? p = some state ∧ state.session = s) ↔
      σ.registered p = some s := by
  rw [ChatServer.registered, Option.map_eq_some_iff]

theorem identified_of_run {env : Env} {store : Redis.Keyspace} {is : List Input}
    {σ : ChatServer} (h : Run (Guarded keepsIdentity (Step env)) (initial store) is σ) :
    σ.Identified := by
  refine h.invariant (I := Identified) (fun σ i τ hstep => identified_step hstep.1 hstep.2) ?_
  refine ⟨fun s p => ?_, rfl, fun _ _ => rfl, fun _ _ => rfl⟩
  constructor
  · intro hregistered
    cases hregistered
  · rintro ⟨hopen, -⟩
    cases hopen

/-- Every message of a run has its cause in the run. -/
theorem authentic_of_run {env : Env} {store : Redis.Keyspace} {is : List Input}
    {σ : ChatServer} (hstore : Redis.ListsOf (fun _ => False) store)
    (h : Run (Guarded keepsIdentity (Step env)) (initial store) is σ) :
    Authentic env (fun receive => Occurs (Guarded keepsIdentity (Step env))
      (fun x i _ => Sends receive x i) (initial store) is σ) σ := by
  induction h with
  | nil =>
      refine ⟨fun d hd => absurd hd List.not_mem_nil, ?_⟩
      exact hstore.mono fun _ hx => hx.elim
  | @snoc es x i y hrun hstep ih =>
      refine authentic_step hstep.1 (identified_of_run hrun) ?_
        (ih.mono fun receive hoccurs => Occurs.later hoccurs hstep)
      exact fun receive hsends => Occurs.now hrun hstep hsends

/-- As long as every authentication keeps entries and sessions together, connections have
their players for themselves. -/
theorem exclusiveIdentity_of_keepsIdentity (env : Env) :
    ExclusiveIdentity (Guarded keepsIdentity (Step env)) := by
  refine ⟨?_, ?_, ?_, ?_, ?_⟩
  · intro store is σ hrun s p
    rw [exists_entry_iff]
    exact ((identified_of_run hrun).registered_iff s p).symm
  · intro store is σ hrun p q state state' hp hq heq
    refine (identified_of_run hrun).eq_of_registered (s := state.session) ?_ ?_
    · exact exists_entry_iff.1 ⟨state, hp, rfl⟩
    · exact exists_entry_iff.1 ⟨state', hq, heq.symm⟩
  · intro store is σ hrun p state hp
    have hσ := identified_of_run hrun
    have hregistered := exists_entry_iff.1 ⟨state, hp, rfl⟩
    refine ⟨state.session, (hσ.registered_iff _ p).1 hregistered, fun s hs => ?_⟩
    exact Option.some.inj (((hσ.registered_iff s p).2 hs).symm.trans hregistered)
  · intro store hstore is σ hrun d hd receive henvelope
    exact (authentic_of_run hstore hrun).sent d hd receive henvelope
  · intro store is σ hrun s τ hstep p state
    obtain ⟨hopen, rfl⟩ := Option.ite_some_none_eq_some.1 hstep.1
    rw [closeSession_players (identified_of_run hrun) hopen]
    split
    · next hregistered =>
        constructor
        · intro hnone
          cases hnone
        · rintro ⟨hp, hne⟩
          have h := exists_entry_iff.1 ⟨state, hp, rfl⟩
          exact absurd (Option.some.inj (h.symm.trans hregistered)) hne
    · next hregistered =>
        refine ⟨fun hp => ⟨hp, ?_⟩, And.left⟩
        rintro rfl
        exact hregistered (exists_entry_iff.1 ⟨state, hp, rfl⟩)

/-- A player authenticates again on another connection, and the first one closes. -/
theorem exclusiveIdentity_of_keepsIdentity_takenOver : ∃ σ state,
    Run (Guarded keepsIdentity (Step defaultEnv)) (initial {})
      [.connect 0, .connect 1, .message 0 (.auth ⟨"p", "", "P"⟩),
        .message 1 (.auth ⟨"p", "", "P"⟩), .close 0] σ ∧
    σ.manager.players.find? "p" = some state ∧ state.session = 1 ∧
    ∃! s, (σ.sessions s).isOpen = true ∧ (σ.sessions s).authenticated = true ∧
      (σ.sessions s).playerId = "p" := by
  obtain ⟨σ, hrun, hσ⟩ := exists_run_of_exec keepsIdentity (step defaultEnv) (initial {})
    [.connect 0, .connect 1, .message 0 (.auth ⟨"p", "", "P"⟩),
      .message 1 (.auth ⟨"p", "", "P"⟩), .close 0]
    (fun σ => σ.registered "p" == some 1) (by decide +kernel)
  obtain ⟨state, hp, hs⟩ := exists_entry_iff.2 (beq_iff_eq.1 hσ)
  exact ⟨σ, state, hrun, hp, hs,
    (exclusiveIdentity_of_keepsIdentity defaultEnv).oneSession {} _ σ hrun "p" state hp⟩

/-- A connection authenticates as one player and then as another: both entries are
there. -/
theorem not_exclusiveIdentity_secondPlayer : ¬ ExclusiveIdentity (Step defaultEnv) := by
  intro hclaim
  obtain ⟨σ, hrun, hσ⟩ := exists_run_of_exec (fun _ _ => true) (step defaultEnv) (initial {})
    [.connect 0, .message 0 (.auth ⟨"p", "", "P"⟩), .message 0 (.auth ⟨"q", "", "Q"⟩)]
    (fun σ => (σ.registered "p" == some 0) && (σ.registered "q" == some 0))
    (by decide +kernel)
  rw [Bool.and_eq_true, beq_iff_eq, beq_iff_eq] at hσ
  obtain ⟨state, hp, hs⟩ := exists_entry_iff.2 hσ.1
  obtain ⟨state', hq, hs'⟩ := exists_entry_iff.2 hσ.2
  have hrun' := hrun.of_guarded
  have heq := hclaim.oneEntry {} _ σ hrun' "p" "q" state state' hp hq (hs.trans hs'.symm)
  exact absurd heq (by decide)

end Chat

end SosBackend
