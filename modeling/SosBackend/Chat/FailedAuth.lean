import SosBackend.Chat.Effect

/-!
# Authentications that fail

An authentication with an empty field is refused before anything happens. One for
a session that does not exist is refused after the old registration of the player
has been taken down, on whichever connection it was. So a refusal is without
effect exactly where there is no registration to take down.
-/

namespace SosBackend

namespace Chat

open ChatServer

/-- Players, lobby, session channels and sessions are as they were, and nobody but the
session has been sent anything. -/
structure NoOp (σ : ChatServer) (s : SessionPtr) (τ : ChatServer) : Prop where
  players : ∀ p, τ.manager.players.find? p = σ.manager.players.find? p
  lobby : τ.manager.lobbyMembers.toSet = σ.manager.lobbyMembers.toSet
  members : ∀ sid, (τ.manager.sessionChannels.find? sid).map (·.members.toSet) =
    (σ.manager.sessionChannels.find? sid).map (·.members.toSet)
  sessions : ∀ t, (τ.sessions t).playerId = (σ.sessions t).playerId ∧
    (τ.sessions t).authenticated = (σ.sessions t).authenticated
  sent : ∀ d ∈ τ.sent.drop σ.sent.length, d.session = s

/-- Where the answer to the authentication is a refusal, it is a no-op. -/
def FailsQuietly (env : Env) (σ : ChatServer) (auth : ChatAuth) (s : SessionPtr) : Prop :=
  (∃ result : ChatAuthResult, result.success = false ∧
    ⟨s, .authResult result⟩ ∈ (σ.handleAuth env auth s).sent.drop σ.sent.length) →
  NoOp σ s (σ.handleAuth env auth s)

theorem noOp_send (σ : ChatServer) (s : SessionPtr) (envelope : ChatEnvelope) :
    NoOp σ s (σ.send s envelope) := by
  have hspeaks : Speaks (fun d => d.session = s) σ (σ.send s envelope) :=
    speaks_send σ fun _ => rfl
  refine ⟨?_, ?_, ?_, ?_, fun d hd => hspeaks.sent.mem_drop hd⟩
  · rw [hspeaks.manager]
    exact fun _ => rfl
  · rw [hspeaks.manager]
  · rw [hspeaks.manager]
    exact fun _ => rfl
  · rw [hspeaks.sessions]
    exact fun _ => ⟨rfl, rfl⟩

/-- A result is sent to an open session, and says whether the authentication is
accepted. -/
theorem result_of_handleAuth {env : Env} {σ : ChatServer} {auth : ChatAuth}
    {s t : SessionPtr} {result : ChatAuthResult}
    (h : ⟨t, .authResult result⟩ ∈ (σ.handleAuth env auth s).sent.drop σ.sent.length) :
    (σ.sessions s).closed = false ∧ result.success = σ.accepts auth := by
  have hlists : Redis.ListsOf (fun _ => True) σ.redis.store :=
    fun _ _ _ _ _ _ => trivial
  have hsent := (handleAuth_sent env (P := fun d => ∀ result,
    d.envelope = .authResult result →
      (σ.sessions s).closed = false ∧ result.success = σ.accepts auth)
    auth s hlists ?_ ?_ ?_).1
  · exact hsent.mem_drop h result rfl
  · rintro t result h
    cases h
  · rintro result hopen hsuccess result' h
    cases h
    exact ⟨hopen, hsuccess⟩
  · rintro entry - receive - t result h
    cases h

theorem takeOver_of_unregistered {σ : ChatServer} {p : String}
    (h : σ.manager.players.find? p = none) (s : SessionPtr) : σ.takeOver p s = σ := by
  simp only [takeOver, h]

/-- A refused authentication is a no-op exactly where it lacks a field or the player has
no entry. -/
theorem failsQuietly_iff (env : Env) (σ : ChatServer) (auth : ChatAuth) (s : SessionPtr) :
    FailsQuietly env σ auth s ↔
      (σ.sessions s).closed = true ∨ σ.accepts auth = true ∨ auth.isComplete = false ∨
        σ.manager.players.find? auth.playerId = none := by
  refine ⟨?_, ?_⟩
  · intro hquiet
    by_contra hnot
    simp only [not_or, Bool.not_eq_true, Bool.not_eq_false] at hnot
    obtain ⟨hopen, haccepts, hcomplete, hentry⟩ := hnot
    have hadmits : σ.admits auth = false := by
      rwa [accepts, hcomplete, Bool.true_and] at haccepts
    rw [FailsQuietly, handleAuth_of_not_admits hcomplete hadmits] at hquiet
    have hself : ((σ.takeOver auth.playerId s).sessions s).closed = false := by
      rw [sessions_takeOver_self, hopen]
    have hsend : (σ.takeOver auth.playerId s).send s
        (.authResult ⟨false, "Session not found"⟩) = { σ.takeOver auth.playerId s with
          sent := (σ.takeOver auth.playerId s).sent ++
            [⟨s, .authResult ⟨false, "Session not found"⟩⟩] } := by
      rw [send, if_neg (by rw [hself]; exact Bool.false_ne_true)]
    obtain ⟨⟨out, hout, -⟩, -⟩ := takeOver_sent (P := fun _ => True) σ auth.playerId s
      fun _ => trivial
    -- the refusal goes out, but the entry is gone
    have hnoOp := hquiet ⟨⟨false, "Session not found"⟩, rfl, by
      rw [hsend, hout, List.append_assoc, List.drop_left]
      exact List.mem_append_right _ List.mem_cons_self⟩
    have hgone := hnoOp.players auth.playerId
    rw [hsend] at hgone
    exact hentry (hgone.symm.trans (players_takeOver σ auth.playerId s))
  · rintro hcases ⟨result, hfails, hresult⟩
    obtain ⟨hopen, hsuccess⟩ := result_of_handleAuth hresult
    rw [hfails] at hsuccess
    rcases hcases with hclosed | haccepts | hincomplete | hentry
    · rw [hopen] at hclosed
      cases hclosed
    · rw [haccepts] at hsuccess
      cases hsuccess
    · rw [handleAuth_of_incomplete hincomplete]
      exact noOp_send σ s _
    · cases hcomplete : auth.isComplete with
      | false =>
          rw [handleAuth_of_incomplete hcomplete]
          exact noOp_send σ s _
      | true =>
          have hadmits : σ.admits auth = false := by
            rwa [accepts, hcomplete, Bool.true_and, eq_comm] at hsuccess
          rw [handleAuth_of_not_admits hcomplete hadmits, takeOver_of_unregistered hentry]
          exact noOp_send σ s _

/-- A player in the lobby authenticates for a session that does not exist: it is refused
and no longer in the lobby. -/
theorem not_failsQuietly_unknownSession :
    ¬ ∀ (store : Redis.Keyspace) (is : List Input) (σ : ChatServer) (auth : ChatAuth)
      (s : SessionPtr), Run (Step defaultEnv) (initial store) is σ →
        (σ.sessions s).lifetime = .alive → FailsQuietly defaultEnv σ auth s := by
  intro hclaim
  obtain ⟨σ, hrun, hσ⟩ := exists_run_of_exec (fun _ _ => true) (step defaultEnv) (initial {})
    [.connect 0, .message 0 (.auth ⟨"p", "", "P"⟩)]
    (fun σ => (σ.sessions 0).isOpen && (σ.manager.players.find? "p").isSome &&
      (σ.handleAuth defaultEnv ⟨"p", "x", "P"⟩ 0).sent.drop σ.sent.length ==
        [⟨0, .authResult ⟨false, "Session not found"⟩⟩] &&
      ((σ.handleAuth defaultEnv ⟨"p", "x", "P"⟩ 0).manager.players.find? "p").isNone)
    (by decide +kernel)
  simp only [Bool.and_eq_true, beq_iff_eq, Option.isNone_iff_eq_none] at hσ
  obtain ⟨⟨⟨hopen, hsome⟩, hsent⟩, hnone⟩ := hσ
  have hrun' := hrun.of_guarded
  have halive : (σ.sessions 0).lifetime = .alive := by
    simp only [ChatSession.isOpen, Bool.and_eq_true, beq_iff_eq] at hopen
    exact hopen.1
  have hnoOp := hclaim {} _ σ ⟨"p", "x", "P"⟩ 0 hrun' halive
    ⟨⟨false, "Session not found"⟩, rfl, by rw [hsent]; exact List.mem_cons_self⟩
  rw [← hnoOp.players "p", hnone] at hsome
  cases hsome

end Chat

end SosBackend
