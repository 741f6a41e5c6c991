import SosBackend.Chat.Admission

/-!
# Where the records come from

A record comes from an authentication that has been accepted, and so does the player of
a session. What holds of these authentications, whatever becomes of the record when its
session ends, holds of the records and the sessions in every run.
-/

namespace SosBackend

namespace Chat

namespace Directory

/-- Every record satisfies `P`. -/
def Holds (v : Directory) (P : String → PlayerState → Prop) : Prop :=
  ∀ p state, v.records p = some state → P p state

variable {v w : Directory} {P : String → PlayerState → Prop}

theorem Holds.setRecord {p : String} {state : PlayerState} (h : v.Holds P) (hp : P p state) :
    (v.setRecord p (some state)).Holds P := by
  intro q other hq
  simp only [Directory.setRecord, Function.update_apply] at hq
  split at hq
  · next heq =>
      obtain rfl := Option.some.inj hq
      rw [heq]
      exact hp
  · exact h q other hq

/-- No record is made where nobody enters. -/
theorem Holds.place {a : Placement} (h : v.Holds P) (hplace : Place v a w)
    (hhome : ∀ p state, P p state → P p { state with sessionId := "", inLobby := true })
    (hlobby : ∀ p, a ≠ .enterLobby p) (hsession : ∀ p sid, a ≠ .enterSession p sid) :
    w.Holds P := by
  cases hplace with
  | drop hp =>
      intro q state hq
      simp only [Directory.drop, Function.update_apply] at hq
      split at hq
      · cases hq
      · exact h q state hq
  | enterLobby hp hsid hinLobby => exact absurd rfl (hlobby _)
  | enterSession hp hsid hinLobby hchannel => exact absurd rfl (hsession _ _)
  | openSession => exact h
  | @endSession sid hchannel =>
      intro q state hq
      by_cases hmem : q ∈ v.members sid
      · rw [endSession_records_of_mem hmem] at hq
        obtain ⟨other, hother, rfl⟩ := Option.map_eq_some_iff.1 hq
        exact hhome q other (h q other hother)
      · rw [endSession_records_of_not_mem hmem] at hq
        exact h q state hq

theorem Holds.drops {p : String} {as : List Placement} (h : v.Holds P)
    (hhome : ∀ p state, P p state → P p { state with sessionId := "", inLobby := true })
    (hrun : Run Place v as w) (has : ∀ a ∈ as, a = .drop p) : w.Holds P := by
  refine (hrun.and_of_forall has).invariant (I := fun v => v.Holds P) ?_ h
  rintro v a w ⟨hplace, rfl⟩ hv
  refine hv.place hplace hhome (fun q heq => ?_) fun q sid heq => ?_
  · cases heq
  · cases heq

end Directory

namespace ChatServer

/-- Every record satisfies `P`, and the player of every session satisfies `Q`. -/
structure Known (P : String → PlayerState → Prop) (Q : String → Prop) (σ : ChatServer) :
    Prop where
  records : σ.directory.Holds P
  players : ∀ s, Q (σ.sessions s).playerId

/-- What `P` and `Q` have to keep: a session may end, and nobody may be on a session. -/
structure Lasts (P : String → PlayerState → Prop) (Q : String → Prop) : Prop where
  home : ∀ p state, P p state → P p { state with sessionId := "", inLobby := true }
  nobody : Q ""

/-- The record that an authentication makes. -/
def recordOf (auth : ChatAuth) (s : SessionPtr) (inLobby : Bool) : PlayerState where
  playerName := auth.playerName
  sessionId := auth.sessionId
  session := s
  inLobby := inLobby

section known

variable {env : Env} {σ τ : ChatServer} {P : String → PlayerState → Prop} {Q : String → Prop}

theorem Known.of_keeps (h : Known P Q σ) (hdirectory : τ.directory = σ.directory)
    (hsessions : τ.sessions = σ.sessions) : Known P Q τ := by
  constructor
  · rw [hdirectory]
    exact h.records
  · rw [hsessions]
    exact h.players

theorem Known.takeOver (h : Known P Q σ) (hlasts : Lasts P Q) (p : String) (s : SessionPtr) :
    Known P Q (σ.takeOver p s) := by
  obtain ⟨as, hrun, has⟩ := run_takeOver σ p s
  refine ⟨h.records.drops hlasts.home hrun has, fun t => ?_⟩
  rw [sessions_takeOver]
  split
  · exact hlasts.nobody
  · exact h.players t

theorem Known.register (h : Known P Q σ) {p : String} {state : PlayerState}
    (hp : P p state) (hq : Q p) (s : SessionPtr) : Known P Q (σ.register p state s) := by
  constructor
  · rw [directory_register]
    exact h.records.setRecord hp
  · intro t
    rw [(register_spec p state s σ).2, Function.update_apply]
    split
    · exact hq
    · exact h.players t

theorem Known.handleAuth (h : Known P Q σ) (hlasts : Lasts P Q) {auth : ChatAuth}
    {s : SessionPtr} (hp : σ.accepts auth = true →
      ∀ inLobby, P auth.playerId (recordOf auth s inLobby) ∧ Q auth.playerId) :
    Known P Q (σ.handleAuth env auth s) := by
  cases hcomplete : auth.isComplete with
  | false =>
      rw [handleAuth_of_incomplete hcomplete]
      exact h.of_keeps (directory_send _ _ _)
        (speaks_send (P := fun _ => True) σ fun _ => trivial).sessions
  | true =>
  have htakeOver := h.takeOver hlasts auth.playerId s
  cases hadmits : σ.admits auth with
  | false =>
      rw [handleAuth_of_not_admits hcomplete hadmits]
      exact htakeOver.of_keeps (directory_send _ _ _)
        (speaks_send (P := fun _ => True) _ fun _ => trivial).sessions
  | true =>
  have haccepts : σ.accepts auth = true := by
    rw [accepts, hcomplete, hadmits]
    rfl
  by_cases hlobby : auth.sessionId = ""
  · rw [handleAuth_of_lobby hcomplete hlobby]
    obtain ⟨hrecord, hplayer⟩ := hp haccepts true
    refine Known.register ?_ hrecord hplayer s
    exact ⟨htakeOver.records, htakeOver.players⟩
  · have hchannel : σ.manager.sessionChannels.contains auth.sessionId = true := by
      simpa [admits, hlobby] using hadmits
    rw [handleAuth_of_session hcomplete hlobby hchannel]
    obtain ⟨hmanager, hsessions⟩ := sendHistory_spec env auth.playerId auth.sessionId
      ((((σ.takeOver auth.playerId s).addMember auth.sessionId
        auth.playerId).saveSessionPlayer env auth).register auth.playerId
          { playerName := auth.playerName, sessionId := auth.sessionId, session := s } s)
    obtain ⟨hrecord, hplayer⟩ := hp haccepts false
    refine Known.of_keeps ?_ (directory_of_manager hmanager) hsessions
    refine Known.register ?_ hrecord hplayer s
    have hmember : Known P Q ((σ.takeOver auth.playerId s).addMember auth.sessionId
        auth.playerId) := ⟨htakeOver.records, htakeOver.players⟩
    exact hmember.of_keeps (directory_attempt env _ _) (stores_attempt env _ _).sessions

theorem Known.closeSession (h : Known P Q σ) (hlasts : Lasts P Q) {s : SessionPtr}
    (hopen : (σ.sessions s).closed = false) : Known P Q (σ.closeSession s) := by
  obtain ⟨as, hrun, has⟩ := run_closeSession s σ
  refine ⟨h.records.drops hlasts.home hrun has, fun t => ?_⟩
  rw [(closeSession_spec hopen).2.1, Function.update_apply]
  split
  · exact hlasts.nobody
  · exact h.players t

theorem known_step {i : Input} (hstep : Step env σ i τ) (hlasts : Lasts P Q)
    (hauth : ∀ s auth, i = .message s (.auth auth) → σ.accepts auth = true →
      ∀ inLobby, P auth.playerId (recordOf auth s inLobby) ∧ Q auth.playerId)
    (h : Known P Q σ) : Known P Q τ := by
  cases i with
  | connect s =>
      obtain ⟨-, rfl⟩ := Option.ite_some_none_eq_some.1 hstep
      refine ⟨h.records, fun t => ?_⟩
      simp only [updateSession, Function.update_apply]
      split
      · exact hlasts.nobody
      · exact h.players t
  | message s envelope =>
      obtain ⟨-, rfl⟩ := Option.ite_some_none_eq_some.1 hstep
      cases envelope with
      | auth auth => exact h.handleAuth hlasts (hauth s auth rfl)
      | send message =>
          exact h.of_keeps (directory_processSend env s message σ)
            (keeps_processSend env s message σ).sessions
      | _ => exact h
  | close s =>
      obtain ⟨hopen, rfl⟩ := Option.ite_some_none_eq_some.1 hstep
      refine h.closeSession hlasts ?_
      simpa [ChatSession.isOpen] using (ChatSession.isOpen_iff.1 hopen).2
  | released s =>
      obtain ⟨-, rfl⟩ := Option.ite_some_none_eq_some.1 hstep
      refine ⟨h.records, fun t => ?_⟩
      simp only [updateSession, Function.update_apply]
      split
      · exact h.players s
      · exact h.players t
  | internalMessage envelope =>
      obtain rfl := Option.some.inj hstep
      cases envelope with
      | sessionCreated message =>
          refine ⟨?_, ?_⟩
          · refine h.records.place (place_handleSessionCreated env message σ) hlasts.home
              (fun q heq => ?_) fun q sid heq => ?_
            · cases heq
            · cases heq
          · rw [processInternalMessage, (keeps_handleSessionCreated env message σ).sessions]
            exact h.players
      | sessionEnded message =>
          refine ⟨?_, ?_⟩
          · rcases run_handleSessionEnded env message σ with ⟨-, heq⟩ | hplace
            · rw [processInternalMessage, heq]
              exact h.records
            · refine h.records.place hplace hlasts.home (fun q heq => ?_) fun q sid heq => ?_
              · cases heq
              · cases heq
          · rw [processInternalMessage, (keeps_handleSessionEnded env message σ).sessions]
            exact h.players
      | _ => exact h
  | clock now =>
      obtain rfl := Option.some.inj hstep
      exact ⟨h.records, h.players⟩
  | tick seconds =>
      obtain rfl := Option.some.inj hstep
      exact ⟨h.records, h.players⟩

theorem known_initial (hlasts : Lasts P Q) (store : Redis.Keyspace) :
    Known P Q (initial store) := by
  refine ⟨fun p state hp => ?_, fun s => hlasts.nobody⟩
  have hnone : (initial store).directory.records p = none := UnorderedMap.find?_empty p
  rw [hnone] at hp
  cases hp

end known

end ChatServer

end Chat

end SosBackend
