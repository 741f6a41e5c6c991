import SosBackend.Room.Index

/-!
# Who speaks for a player

Three records say which connection speaks for a player: the session registered
under the player's id, the id that each session remembers, and the room the player
is in. A slot release clears the first and the third and leaves the second, so
another connection may take the id while the first one still has it. As long as
an id is only taken that no other open connection has, the three records agree,
and a connection acts only for the player that it put into its room itself.
-/

namespace SosBackend

namespace Room

open RoomServer

theorem ClientSession.isOpen_iff {c : ClientSession} :
    c.isOpen = true ↔ c.lifetime = .alive ∧ c.closed = false := by
  simp [isOpen]

namespace Registry

/-- The connection is open, and no other open connection has the player's id. -/
structure Free (v : Registry) (s : SessionPtr) (p : String) : Prop where
  opened : (v.clients s).isOpen = true
  unclaimed : ∀ t, t ≠ s → (v.clients t).isOpen = true → (v.clients t).playerId ≠ p

/-- The three records agree. -/
structure Identified (v : Registry) : Prop where
  unique : ∀ s t, (v.clients s).playerId ≠ "" → (v.clients s).isOpen = true →
    (v.clients t).isOpen = true → (v.clients s).playerId = (v.clients t).playerId → s = t
  registered : ∀ p r, p ≠ "" → v.playerToRoom p = some r →
    ∃ s, v.sessions p = some s ∧ (v.clients s).isOpen = true ∧ (v.clients s).playerId = p
  cleared : ∀ s, (v.clients s).closed = true → (v.clients s).playerId = ""

namespace Identified

variable {env : Env} {v w : Registry} {a : Action}

/-- Leaving rooms, with or without the registration, keeps the agreement. -/
theorem shrink (h : v.Identified) (hclients : w.clients = v.clients)
    (hmem : ∀ p r, w.playerToRoom p = some r →
      v.playerToRoom p = some r ∧ w.sessions p = v.sessions p) : w.Identified := by
  refine ⟨?_, ?_, ?_⟩
  · rw [hclients]
    exact h.unique
  · intro p r hne hp
    obtain ⟨hp', hsession⟩ := hmem p r hp
    rw [hsession, hclients]
    exact h.registered p r hne hp'
  · rw [hclients]
    exact h.cleared

/-- Taking an id that is free keeps the agreement. -/
theorem enter (h : v.Identified) {p r : String} {s : SessionPtr} (hadmits : v.Admits p s)
    (hfree : p ≠ "" → v.Free s p) : (v.enter p r s).Identified := by
  have hother : ∀ {t}, t ≠ s → (v.enter p r s).clients t = v.clients t :=
    fun ht => Function.update_of_ne ht _ _
  have hself : (v.enter p r s).clients s = { v.clients s with playerId := p } :=
    Function.update_self s _ _
  have hopen : ((v.enter p r s).clients s).isOpen = (v.clients s).isOpen := by
    rw [hself]
    rfl
  refine ⟨?_, ?_, ?_⟩
  · intro t t' hne ht ht' heq
    by_cases hts : t = s
    · by_cases hts' : t' = s
      · rw [hts, hts']
      · -- the id is not free
        subst hts
        rw [hself] at hne heq
        rw [hother hts'] at ht' heq
        exact absurd heq.symm ((hfree hne).unclaimed t' hts' ht')
    · by_cases hts' : t' = s
      · subst hts'
        rw [hself] at heq
        rw [hother hts] at ht hne heq
        have htp : (v.clients t).playerId = p := heq
        exact absurd htp ((hfree (htp ▸ hne)).unclaimed t hts ht)
      · rw [hother hts] at ht hne heq
        rw [hother hts'] at ht' heq
        exact h.unique t t' hne ht ht' heq
  · intro q r' hne hq
    by_cases hqp : q = p
    · subst hqp
      exact ⟨s, Function.update_self _ _ _, hopen.trans (hfree hne).opened, by rw [hself]⟩
    · rw [enter_playerToRoom, Function.update_of_ne hqp] at hq
      obtain ⟨t, hsession, ht, htq⟩ := h.registered q r' hne hq
      have hts : t ≠ s := by
        rintro rfl
        rcases hadmits.same with hempty | hsame
        · exact hne (htq.symm.trans hempty)
        · exact hqp (htq.symm.trans hsame)
      refine ⟨t, ?_, ?_, ?_⟩
      · rw [enter_sessions, Function.update_of_ne hqp]
        exact hsession
      · rw [hother hts]
        exact ht
      · rw [hother hts]
        exact htq
  · intro t ht
    by_cases hts : t = s
    · subst hts
      rw [hself] at ht ⊢
      by_contra hne
      have hopened := (ClientSession.isOpen_iff.1 (hfree hne).opened).2
      rw [hopened] at ht
      cases ht
    · rw [hother hts] at ht ⊢
      exact h.cleared t ht

/-- A connection that is not open, before or after, may change. -/
theorem setClient (h : v.Identified) {s : SessionPtr} {c : ClientSession}
    (hc : c.playerId = "") (hs : (v.clients s).isOpen = false) :
    (v.setClient s c).Identified := by
  have hother : ∀ {t}, t ≠ s → (v.setClient s c).clients t = v.clients t :=
    fun ht => Function.update_of_ne ht _ _
  have hself : (v.setClient s c).clients s = c := Function.update_self s _ _
  refine ⟨?_, ?_, ?_⟩
  · intro t t' hne ht ht' heq
    by_cases hts : t = s
    · subst hts
      rw [hself] at hne
      exact absurd hc hne
    · by_cases hts' : t' = s
      · subst hts'
        rw [heq, hself] at hne
        exact absurd hc hne
      · rw [hother hts] at ht hne heq
        rw [hother hts'] at ht' heq
        exact h.unique t t' hne ht ht' heq
  · intro p r hne hp
    obtain ⟨t, hsession, ht, htp⟩ := h.registered p r hne hp
    have hts : t ≠ s := by
      rintro rfl
      rw [hs] at ht
      cases ht
    refine ⟨t, hsession, ?_, ?_⟩
    · rw [hother hts]
      exact ht
    · rw [hother hts]
      exact htp
  · intro t ht
    by_cases hts : t = s
    · subst hts
      rw [hself]
      exact hc
    · rw [hother hts] at ht ⊢
      exact h.cleared t ht

end Identified

end Registry

/-- The changes that make up the close of a session. -/
def Action.closes : Action → Bool
  | .shut _ => true
  | .unregister _ => true
  | .clear _ => true
  | _ => false

/-- The change puts the player into a room on behalf of the connection. -/
def Action.Enters (a : Action) (s : SessionPtr) (p : String) : Prop :=
  (∃ request r, a = .create request s r ∧ request.playerId = p) ∨
    ∃ request, a = .join request s ∧ request.playerId = p

/-- The changes that put a player into a room. -/
def Action.enters : Action → Bool
  | .create _ _ _ => true
  | .join _ _ => true
  | _ => false

theorem Action.not_enters {a : Action} (h : a.enters = false) (s : SessionPtr) (p : String) :
    ¬ a.Enters s p := by
  intro henters
  rcases henters with ⟨request, r, rfl, -⟩ | ⟨request, rfl, -⟩
  · cases h
  · cases h

/-- Where a player is in a room after a change, it was there before under the same
registration, or has entered it. -/
theorem Act.membership_inv {env : Env} {v w : Registry} {a : Action} {p r : String}
    (h : Act env v a w) (hcloses : a.closes = false) (hp : w.playerToRoom p = some r) :
    (v.playerToRoom p = some r ∧ w.sessions p = v.sessions p) ∨
      ∃ s, a.Enters s p ∧ v.playerToRoom p = none ∧ w.sessions p = some s := by
  cases h with
  | @create request s hadmits hcount hmin hmax =>
      by_cases hq : p = request.playerId
      · subst hq
        exact Or.inr ⟨s, Or.inl ⟨request, _, rfl, rfl⟩, hadmits.outside,
          Function.update_self _ _ _⟩
      · simp only [Registry.enter_playerToRoom, Function.update_of_ne hq] at hp
        exact Or.inl ⟨hp, Function.update_of_ne hq _ _⟩
  | @join request s room hadmits hroom hstate hfull =>
      by_cases hq : p = request.playerId
      · subst hq
        exact Or.inr ⟨s, Or.inr ⟨request, rfl, rfl⟩, hadmits.outside,
          Function.update_self _ _ _⟩
      · simp only [Registry.enter_playerToRoom, Function.update_of_ne hq] at hp
        exact Or.inl ⟨hp, Function.update_of_ne hq _ _⟩
  | @leave q r' room hq hroom hhost =>
      by_cases hpq : p = q
      · simp [hpq] at hp
      · exact Or.inl ⟨by simpa [hpq] using hp, rfl⟩
  | @closeRoom q r' room hq hroom hhost =>
      by_cases hmem : p ∈ q :: room.playerIds
      · rw [Registry.evict_playerToRoom, if_pos hmem] at hp
        cases hp
      · rw [Registry.evict_playerToRoom, if_neg hmem] at hp
        exact Or.inl ⟨hp, rfl⟩
  | toggle hq hroom hhost => exact Or.inl ⟨hp, rfl⟩
  | start hq hroom hhost hidle hready hissued => exact Or.inl ⟨hp, rfl⟩
  | @release q r' room hq hroom hcount =>
      by_cases hpq : p = q
      · simp [hpq] at hp
      · exact Or.inl ⟨by simpa [hpq] using hp, Function.update_of_ne hpq _ _⟩
  | @releaseLast q r' room hq hroom hcount =>
      by_cases hpq : p = q
      · simp [hpq] at hp
      · exact Or.inl ⟨by simpa [hpq] using hp, Function.update_of_ne hpq _ _⟩
  | @endGame r' room hroom hstate =>
      by_cases hmem : p ∈ room.playerIds
      · rw [Registry.evict_playerToRoom, if_pos hmem] at hp
        cases hp
      · rw [Registry.evict_playerToRoom, if_neg hmem] at hp
        exact Or.inl ⟨hp, rfl⟩
  | @forget q r' hq hroom =>
      by_cases hpq : p = q
      · simp [hpq] at hp
      · exact Or.inl ⟨by simpa [hpq] using hp, rfl⟩
  | @forgetSlot q r' hq hroom =>
      by_cases hpq : p = q
      · simp [hpq] at hp
      · exact Or.inl ⟨by simpa [hpq] using hp, Function.update_of_ne hpq _ _⟩
  | accept hunborn => exact Or.inl ⟨hp, rfl⟩
  | expire hclosed => exact Or.inl ⟨hp, rfl⟩
  | link => exact Or.inl ⟨hp, rfl⟩
  | quiet => exact Or.inl ⟨hp, rfl⟩
  | unregister => cases hcloses
  | shut hopen => cases hcloses
  | clear hclosed => cases hcloses

/-- A change that is not part of a close keeps the agreement, where an id that is
taken is free. -/
theorem Registry.Identified.act {env : Env} {v w : Registry} {a : Action}
    (hact : Act env v a w) (h : v.Identified) (hcloses : a.closes = false)
    (hfree : ∀ s p, a.Enters s p → p ≠ "" → v.Free s p) : w.Identified := by
  -- rooms and the count of identifiers do not matter
  have hset : ∀ (issued : ℕ) r room,
      (({ v with issued := issued } : Registry).setRoom r room).Identified :=
    fun _ _ _ => ⟨h.unique, h.registered, h.cleared⟩
  have hshrink : (∀ s p, ¬ a.Enters s p) → w.clients = v.clients → w.Identified := by
    intro hnot hclients
    refine h.shrink hclients fun p r hp => ?_
    refine (hact.membership_inv hcloses hp).resolve_right ?_
    rintro ⟨s, henters, -⟩
    exact hnot s p henters
  cases hact with
  | @create request s hadmits hcount hmin hmax =>
      have hfree := hfree s request.playerId (Or.inl ⟨request, _, rfl, rfl⟩)
      exact (hset _ _ _).enter ⟨hadmits.unshared, hadmits.same, hadmits.outside⟩
        fun hne => ⟨(hfree hne).opened, (hfree hne).unclaimed⟩
  | @join request s room hadmits hroom hstate hfull =>
      have hfree := hfree s request.playerId (Or.inr ⟨request, rfl, rfl⟩)
      exact (hset v.issued _ _).enter ⟨hadmits.unshared, hadmits.same, hadmits.outside⟩
        fun hne => ⟨(hfree hne).opened, (hfree hne).unclaimed⟩
  | @accept s remoteIp hunborn =>
      refine h.setClient rfl ?_
      simp [ClientSession.isOpen, hunborn]
  | @expire s hclosed =>
      refine h.setClient (h.cleared s hclosed) ?_
      simp [ClientSession.isOpen, hclosed]
  | unregister => cases hcloses
  | shut hopen => cases hcloses
  | clear hclosed => cases hcloses
  | _ => exact hshrink (Action.not_enters rfl) rfl

/-!
## Closing a session
-/

/-- The registry after the close of an open session. -/
structure Closed (v : Registry) (s : SessionPtr) (w : Registry) : Prop where
  clients : w.clients = Function.update v.clients s
    { v.clients s with closed := true, playerId := "" }
  membership : ∀ p r, w.playerToRoom p = some r → v.playerToRoom p = some r ∧
    ((v.clients s).playerId ≠ "" → p ≠ (v.clients s).playerId)
  sessions : ∀ p, p ≠ (v.clients s).playerId → w.sessions p = v.sessions p

/-- A player who departs is in no room afterwards, and nobody enters one. -/
theorem membership_of_departure {env : Env} {v w : Registry} {a : Action} {p : String}
    (h : Act env v a w) (ha : a.IsDeparture v p) :
    w.sessions = v.sessions ∧ w.playerToRoom p = none ∧
      ∀ q r, w.playerToRoom q = some r → v.playerToRoom q = some r := by
  have hmem : a.closes = false → (∀ s q, ¬ a.Enters s q) →
      ∀ q r, w.playerToRoom q = some r → v.playerToRoom q = some r := by
    intro hcloses hnot q r hq
    rcases h.membership_inv hcloses hq with ⟨hq', -⟩ | ⟨s, henters, -⟩
    · exact hq'
    · exact absurd henters (hnot s q)
  rcases ha with ⟨rfl, hnone⟩ | rfl | ⟨r, rfl⟩ | ⟨r, rfl⟩
  · refine ⟨?_, ?_, hmem rfl (Action.not_enters rfl)⟩
    · cases h; rfl
    · cases h; exact hnone
  · refine ⟨?_, ?_, hmem rfl (Action.not_enters rfl)⟩
    · cases h; rfl
    · cases h; exact Function.update_self _ _ _
  · refine ⟨?_, ?_, hmem rfl (Action.not_enters rfl)⟩
    · cases h; rfl
    · cases h; exact Function.update_self _ _ _
  · refine ⟨?_, ?_, hmem rfl (Action.not_enters rfl)⟩
    · cases h; rfl
    · cases h; simp

theorem closed_closeClient (env : Env) {s : SessionPtr} {σ : RoomServer}
    (hopen : (σ.clients s).closed = false) :
    Closed σ.registry s (σ.closeClient s).registry := by
  obtain ⟨σ₁, -, hreg₁, hclose⟩ := close_changes env hopen
  have hself : σ₁.registry.clients s = { σ.clients s with closed := true } := by
    rw [hreg₁]
    exact Function.update_self _ _ _
  rcases hclose with ⟨hempty, hquiet⟩ | ⟨hne, a, σ₂, σ₃, ha, hleave, hunregister, hclear⟩
  · have hclient : ({ σ.clients s with closed := true } : ClientSession) =
        { σ.clients s with closed := true, playerId := "" } := by rw [← hempty]
    rw [hquiet.act.quiet_inv, hreg₁, hclient]
    exact ⟨rfl, fun p r hp => ⟨hp, fun hne => absurd hempty hne⟩, fun _ _ => rfl⟩
  · have hclients := clients_of_departure hleave.act ha
    obtain ⟨hsessions, hgone, hmem⟩ := membership_of_departure hleave.act ha
    rw [hclear.act.clear_inv, hunregister.act.unregister_inv]
    have hclients₂ : σ₂.registry.clients =
        Function.update σ.clients s { σ.clients s with closed := true } := by
      rw [hclients, hreg₁]
      rfl
    have hplayers : σ₁.registry.playerToRoom = σ.registry.playerToRoom := by
      rw [hreg₁]
      rfl
    refine ⟨?_, ?_, ?_⟩
    · simp only [Registry.setClient, Registry.setSession, hclients₂, Function.update_self,
        Function.update_idem]
      rfl
    · intro p r hp
      have hp' : σ₂.registry.playerToRoom p = some r := hp
      refine ⟨?_, ?_⟩
      · rw [← hplayers]
        exact hmem p r hp'
      · rintro - rfl
        cases hgone.symm.trans hp'
    · intro p hp
      have hp' : p ≠ (σ.clients s).playerId := hp
      rw [Registry.setClient_sessions, Registry.setSession_sessions,
        Function.update_of_ne hp', hsessions, hreg₁]
      rfl

theorem Registry.Identified.close {v w : Registry} {s : SessionPtr} (h : v.Identified)
    (hclosed : Closed v s w) : w.Identified := by
  have hother : ∀ {t}, t ≠ s → w.clients t = v.clients t := by
    intro t ht
    rw [hclosed.clients, Function.update_of_ne ht]
  have hself : w.clients s = { v.clients s with closed := true, playerId := "" } := by
    rw [hclosed.clients, Function.update_self]
  have hmissing : (w.clients s).isOpen = false := by
    rw [hself]
    exact Bool.and_false _
  refine ⟨?_, ?_, ?_⟩
  · intro t t' hne ht ht' heq
    have hts : t ≠ s := by
      rintro rfl
      rw [hmissing] at ht
      cases ht
    have hts' : t' ≠ s := by
      rintro rfl
      rw [hmissing] at ht'
      cases ht'
    rw [hother hts] at ht hne heq
    rw [hother hts'] at ht' heq
    exact h.unique t t' hne ht ht' heq
  · intro p r hne hp
    obtain ⟨hp', hps⟩ := hclosed.membership p r hp
    obtain ⟨t, hsession, ht, htp⟩ := h.registered p r hne hp'
    have hts : t ≠ s := by
      rintro rfl
      exact hps (htp ▸ hne) htp.symm
    have hpne : p ≠ (v.clients s).playerId := by
      intro heq
      exact hps (heq ▸ hne) heq
    refine ⟨t, ?_, ?_, ?_⟩
    · rw [hclosed.sessions p hpne]
      exact hsession
    · rw [hother hts]
      exact ht
    · rw [hother hts]
      exact htp
  · intro t ht
    by_cases hts : t = s
    · rw [hts, hself]
    · rw [hother hts] at ht ⊢
      exact h.cleared t ht

/-!
## Steps
-/

/-- The input is a `CreateRoom` or `JoinRoom` of the player on the connection that
the server accepts. -/
def Accepts (env : Env) (σ : RoomServer) (i : Input) (s : SessionPtr) (p : String) : Prop :=
  limited env σ s = false ∧
    ((∃ request, i = .clientMessage s (.createRoom request) ∧ request.playerId = p ∧
      σ.createRejection env request s = none) ∨
    ∃ request room, i = .clientMessage s (.joinRoom request) ∧ request.playerId = p ∧
      σ.joinableRoom request s = .ok room)

/-- An input that is no request to enter a room takes no id. -/
theorem not_accepts {env : Env} {σ : RoomServer} {i : Input} {s : SessionPtr} {p : String}
    (hcreate : ∀ request, i ≠ .clientMessage s (.createRoom request))
    (hjoin : ∀ request, i ≠ .clientMessage s (.joinRoom request)) : ¬ Accepts env σ i s p := by
  rintro ⟨-, ⟨request, hi, -⟩ | ⟨request, room, hi, -⟩⟩
  · exact hcreate request hi
  · exact hjoin request hi

/-- No id is taken in the step that another open connection has, and none on a
connection that has been closed. -/
def TakesFreeIds (env : Env) (σ : RoomServer) (i : Input) : Prop :=
  ∀ s p, Accepts env σ i s p → p ≠ "" → σ.registry.Free s p

theorem accepts_of_enters {env : Env} {σ x : RoomServer} {i : Input} {a : Action}
    {s : SessionPtr} {p : String} (hcause : Cause env σ i x a) (ha : a.Enters s p) :
    Accepts env σ i s p ∧ x.registry = σ.registry := by
  rcases ha with ⟨request, r, rfl, rfl⟩ | ⟨request, rfl, rfl⟩
  · obtain ⟨hi, hlimited, hreg, haccept⟩ := hcause
    exact ⟨⟨hlimited, Or.inl ⟨request, hi, rfl, haccept⟩⟩, hreg⟩
  · obtain ⟨hi, hlimited, hreg, room, haccept⟩ := hcause
    exact ⟨⟨hlimited, Or.inr ⟨request, room, hi, rfl, haccept⟩⟩, hreg⟩

theorem closes_eq_false {env : Env} {σ x : RoomServer} {i : Input} {a : Action}
    (hclosing : closing env σ i = none) (hcause : Cause env σ i x a) : a.closes = false := by
  cases a with
  | shut s => cases hclosing.symm.trans hcause
  | clear s => cases hclosing.symm.trans hcause
  | unregister p =>
      obtain ⟨s, hs, -⟩ := hcause
      cases hclosing.symm.trans hs
  | _ => rfl

/-- A step that closes a session does nothing else to the registry. -/
theorem step_of_closing {env : Env} {σ τ : RoomServer} {i : Input} {s : SessionPtr}
    (h : Step env σ i τ) (hclosing : closing env σ i = some s) :
    (σ.clients s).isOpen = true ∧
      ∃ x : RoomServer, x.registry = σ.registry ∧ x.manager = σ.manager ∧
        τ = x.closeClient s := by
  cases i with
  | clientClose s' =>
      obtain rfl := Option.some.inj hclosing
      obtain ⟨hopen, rfl⟩ := Option.ite_some_none_eq_some.1 h
      exact ⟨hopen, σ, rfl, rfl, rfl⟩
  | clientMessage s' envelope =>
      obtain ⟨halive, rfl⟩ := Option.ite_some_none_eq_some.1 h
      rw [closing, Option.ite_some_none_eq_some, Bool.and_eq_true] at hclosing
      obtain ⟨⟨hlimited, hopen⟩, rfl⟩ := hclosing
      refine ⟨?_, processMessage_of_limited hlimited envelope⟩
      rw [ClientSession.isOpen_iff]
      exact ⟨halive, by simpa using hopen⟩
  | _ => cases hclosing

/-- Where a player is in a room after a step, it was there before under the same
registration, or the step has put it there. -/
structure Agrees (env : Env) (σ : RoomServer) (i : Input) (τ : RoomServer) : Prop where
  identified : τ.registry.Identified
  membership : ∀ p r, p ≠ "" → τ.registry.playerToRoom p = some r →
    (σ.registry.playerToRoom p = some r ∧ τ.registry.sessions p = σ.registry.sessions p) ∨
      ∃ s, Accepts env σ i s p ∧ τ.registry.sessions p = some s

theorem closed_of_closing {env : Env} {σ τ : RoomServer} {i : Input} {s : SessionPtr}
    (h : Step env σ i τ) (hclosing : closing env σ i = some s) :
    Closed σ.registry s τ.registry := by
  obtain ⟨hopen, x, hreg, -, rfl⟩ := step_of_closing h hclosing
  have hclients : x.clients = σ.clients := congrArg Registry.clients hreg
  have hclosed := closed_closeClient env (σ := x) (s := s) (by
    rw [hclients]
    exact (ClientSession.isOpen_iff.1 hopen).2)
  rw [hreg] at hclosed
  exact hclosed

theorem membership_step {env : Env} {σ τ : RoomServer} {i : Input} (h : Step env σ i τ)
    {p r : String} (hne : p ≠ "") (hp : τ.registry.playerToRoom p = some r) :
    (σ.registry.playerToRoom p = some r ∧ τ.registry.sessions p = σ.registry.sessions p) ∨
      ∃ s, Accepts env σ i s p ∧ τ.registry.sessions p = some s := by
  cases hclosing : closing env σ i with
  | some s =>
      have hclosed := closed_of_closing h hclosing
      obtain ⟨hp', hps⟩ := hclosed.membership p r hp
      refine Or.inl ⟨hp', hclosed.sessions p ?_⟩
      intro heq
      exact hps (heq ▸ hne) heq
  | none =>
      obtain ⟨as, hrun⟩ := run_step h
      refine hrun.invariant (I := fun x => ∀ r, x.registry.playerToRoom p = some r →
        (σ.registry.playerToRoom p = some r ∧ x.registry.sessions p = σ.registry.sessions p) ∨
          ∃ s, Accepts env σ i s p ∧ x.registry.sessions p = some s) ?_
        (fun r hp => Or.inl ⟨hp, rfl⟩) r hp
      intro x a y hchange hx r hp
      obtain ⟨heffect, hcause⟩ := hchange
      have hcloses := closes_eq_false hclosing hcause
      rcases heffect.act.membership_inv hcloses hp with ⟨hp', hsession⟩ | ⟨s, henters, -, hs⟩
      · rw [hsession]
        exact hx r hp'
      · exact Or.inr ⟨s, (accepts_of_enters hcause henters).1, hs⟩

theorem agrees_step {env : Env} {σ τ : RoomServer} {i : Input} (h : Step env σ i τ)
    (hfree : TakesFreeIds env σ i) (hσ : σ.registry.Identified) : Agrees env σ i τ := by
  refine ⟨?_, fun p r hne hp => membership_step h hne hp⟩
  cases hclosing : closing env σ i with
  | some s => exact hσ.close (closed_of_closing h hclosing)
  | none =>
      obtain ⟨as, hrun⟩ := run_step h
      refine hrun.invariant (I := fun x => x.registry.Identified) ?_ hσ
      intro x a y hchange hx
      obtain ⟨heffect, hcause⟩ := hchange
      apply hx.act heffect.act (closes_eq_false hclosing hcause)
      intro s p henters hne
      obtain ⟨haccepts, hreg⟩ := accepts_of_enters hcause henters
      rw [hreg]
      exact hfree s p haccepts hne

/-!
## Acting for a player
-/

/-- The session for whose player a step acts: by `LeaveRoom`, `ToggleReady` or
`StartGame`, or because the step closes the session. -/
def acting (env : Env) (σ : RoomServer) : Input → Option SessionPtr
  | .clientMessage s .toggleReady => some s
  | .clientMessage s .startGame => some s
  | i => departing env σ i

/-- The session put the player into the room `r`, and the player has been there
since. -/
inductive PutBy (env : Env) (R : RoomServer → Input → RoomServer → Prop) (σ₀ : RoomServer)
    (s : SessionPtr) (p r : String) : List Input → RoomServer → Prop
  | enter {is : List Input} {σ τ : RoomServer} {i : Input} (hrun : Run R σ₀ is σ)
      (hstep : R σ i τ) (haccepts : Accepts env σ i s p)
      (hp : τ.manager.playerToRoom.find? p = some r) : PutBy env R σ₀ s p r (is ++ [i]) τ
  | stay {is : List Input} {σ τ : RoomServer} {i : Input} (h : PutBy env R σ₀ s p r is σ)
      (hstep : R σ i τ) (hp : τ.manager.playerToRoom.find? p = some r) :
      PutBy env R σ₀ s p r (is ++ [i]) τ

/-- A step that acts for the player of the session acts for one that the session
itself put into its room. The step takes nobody else out of a room, but for those
in the room that this player hosts, which goes with its host. -/
structure ActsForOwn (env : Env) (R : RoomServer → Input → RoomServer → Prop)
    (σ₀ : RoomServer) (is : List Input) (σ : RoomServer) (s : SessionPtr)
    (τ : RoomServer) : Prop where
  own : ∀ r, (σ.clients s).playerId ≠ "" →
    σ.manager.playerToRoom.find? (σ.clients s).playerId = some r →
      PutBy env R σ₀ s (σ.clients s).playerId r is σ
  others : ∀ p, τ.manager.playerToRoom.find? p ≠ σ.manager.playerToRoom.find? p →
    (σ.clients s).playerId ≠ "" ∧ (p = (σ.clients s).playerId ∨
      ∃ r room, σ.manager.playerToRoom.find? (σ.clients s).playerId = some r ∧
        σ.manager.rooms.find? r = some room ∧ room.isHost (σ.clients s).playerId = true ∧
        room.hasPlayer p = true ∧ τ.manager.rooms.find? r = none)

/-- In every state that runs of `R` reach, a player has at most one open
connection, which is the one registered for it while it is in a room, and
connections act for their own players. -/
structure ExclusiveIdentity (env : Env) (R : RoomServer → Input → RoomServer → Prop) :
    Prop where
  unique : ∀ store is σ, Run R (initial store) is σ → ∀ p s t, p ≠ "" →
    (σ.clients s).isOpen = true → (σ.clients t).isOpen = true →
    (σ.clients s).playerId = p → (σ.clients t).playerId = p → s = t
  registered : ∀ store is σ, Run R (initial store) is σ → ∀ p r, p ≠ "" →
    σ.manager.playerToRoom.find? p = some r → ∃ s, σ.manager.sessions.find? p = some s ∧
      (σ.clients s).isOpen = true ∧ (σ.clients s).playerId = p
  acts : ∀ store is σ, Run R (initial store) is σ → ∀ i τ s, R σ i τ →
    acting env σ i = some s → ActsForOwn env R (initial store) is σ s τ

/-- Why the room of a player changes. -/
inductive Moves (v : Registry) (w : Registry) (p : String) : Action → Prop
  | enter {a : Action} {s : SessionPtr} (ha : a.Enters s p) : Moves v w p a
  | leave {r : String} : Moves v w p (.leave p r)
  | release {a : Action} {r : String} (ha : a = .release p r ∨ a = .releaseLast p r) :
      Moves v w p a
  | closeRoom {q r : String} {room : Room} (hq : v.playerToRoom q = some r)
      (hroom : v.rooms r = some room) (hhost : room.isHost q = true)
      (hp : p ∈ q :: room.playerIds) (hgone : w.rooms r = none) :
      Moves v w p (.closeRoom q r)
  | endGame {r : String} : Moves v w p (.endGame r)

theorem Act.moves {env : Env} {v w : Registry} {a : Action} {p : String}
    (h : Act env v a w) (hv : v.Indexed env) (hp : w.playerToRoom p ≠ v.playerToRoom p) :
    Moves v w p a := by
  -- a player in a room that is not there would contradict the index
  have hthere : ∀ {q r}, v.playerToRoom q = some r → v.rooms r ≠ none := by
    intro q r hq hnone
    obtain ⟨room, hroom, -⟩ := (hv.index q r).1 hq
    cases hnone.symm.trans hroom
  cases h with
  | @create request s hadmits hcount hmin hmax =>
      by_cases hq : p = request.playerId
      · exact Moves.enter (Or.inl ⟨request, _, rfl, hq.symm⟩)
      · exact absurd (Function.update_of_ne hq _ _) hp
  | @join request s room hadmits hroom hstate hfull =>
      by_cases hq : p = request.playerId
      · exact Moves.enter (Or.inr ⟨request, rfl, hq.symm⟩)
      · exact absurd (Function.update_of_ne hq _ _) hp
  | @leave q r room hq hroom hhost =>
      by_cases hpq : p = q
      · exact hpq ▸ Moves.leave
      · exact absurd (Function.update_of_ne hpq _ _) hp
  | @closeRoom q r room hq hroom hhost =>
      by_cases hmem : p ∈ q :: room.playerIds
      · exact Moves.closeRoom hq hroom hhost hmem (Function.update_self _ _ _)
      · rw [Registry.evict_playerToRoom, if_neg hmem] at hp
        exact absurd rfl hp
  | @release q r room hq hroom hcount =>
      by_cases hpq : p = q
      · subst hpq
        exact Moves.release (Or.inl rfl)
      · exact absurd (Function.update_of_ne hpq _ _) hp
  | @releaseLast q r room hq hroom hcount =>
      by_cases hpq : p = q
      · subst hpq
        exact Moves.release (Or.inr rfl)
      · exact absurd (Function.update_of_ne hpq _ _) hp
  | endGame hroom hstate => exact Moves.endGame
  | forget hq hroom => exact absurd hroom (hthere hq)
  | forgetSlot hq hroom => exact absurd hroom (hthere hq)
  | _ => exact absurd rfl hp

theorem rooms_eq_none {env : Env} {v w : Registry} {a : Action} {r : String}
    (h : Act env v a w) (ha : ∀ s p, ¬ a.Enters s p) (hr : v.rooms r = none) :
    w.rooms r = none := by
  cases hw : w.rooms r with
  | none => rfl
  | some room =>
      rcases h.room_inv hw with hstart | ⟨room', hroom', -⟩
      · cases hstart with
        | @create request s => exact absurd (Or.inl ⟨request, r, rfl, rfl⟩) (ha s _)
      · cases hr.symm.trans hroom'

/-- An accepted `CreateRoom` or `JoinRoom` acts for nobody who has been there. -/
theorem not_accepts_of_acting {env : Env} {σ : RoomServer} {i : Input} {s t : SessionPtr}
    {p : String} (hacting : acting env σ i = some s) : ¬ Accepts env σ i t p := by
  rintro ⟨hlimited, ⟨request, rfl, -⟩ | ⟨request, room, rfl, -⟩⟩
  · simp [acting, departing, closing, hlimited] at hacting
  · simp [acting, departing, closing, hlimited] at hacting

theorem eq_of_departing {env : Env} {σ : RoomServer} {i : Input} {s t : SessionPtr}
    (hacting : acting env σ i = some s) (hdeparting : departing env σ i = some t) :
    t = s := by
  have hmessage : ∀ u envelope, closing env σ (.clientMessage u envelope) = some t →
      t = u := fun _ _ hclosing => (Option.ite_some_none_eq_some.1 hclosing).2.symm
  unfold acting at hacting
  split at hacting
  · exact (hmessage _ .toggleReady hdeparting).trans (Option.some.inj hacting)
  · exact (hmessage _ .startGame hdeparting).trans (Option.some.inj hacting)
  · exact Option.some.inj (hdeparting.symm.trans hacting)

/-- Who leaves a room in a step that acts for the player of the session: that player,
or those in the room it hosts. -/
def LeavesWith (σ : RoomServer) (s : SessionPtr) (p : String) (y : RoomServer) : Prop :=
  (σ.clients s).playerId ≠ "" ∧ (p = (σ.clients s).playerId ∨
    ∃ r room, σ.registry.playerToRoom (σ.clients s).playerId = some r ∧
      σ.registry.rooms r = some room ∧ room.isHost (σ.clients s).playerId = true ∧
      room.hasPlayer p = true ∧ y.registry.rooms r = none)

theorem leavesWith_of_moves {env : Env} {σ x y : RoomServer} {i : Input} {s : SessionPtr}
    {a : Action} {p : String} (hacting : acting env σ i = some s)
    (hcause : Cause env σ i x a) (h : Moves x.registry y.registry p a) :
    LeavesWith σ s p y := by
  cases h with
  | enter ha => exact absurd (accepts_of_enters hcause ha).1 (not_accepts_of_acting hacting)
  | leave =>
      obtain ⟨t, hdeparting, rfl, hne, -⟩ := hcause
      obtain rfl := eq_of_departing hacting hdeparting
      exact ⟨hne, Or.inl rfl⟩
  | release ha =>
      have hi : ∃ k sid, i = .gameServerMessage k (.slotReleased p sid) := by
        rcases ha with rfl | rfl
        · obtain ⟨k, sid, hi, -⟩ := hcause
          exact ⟨k, sid, hi⟩
        · obtain ⟨k, sid, hi, -⟩ := hcause
          exact ⟨k, sid, hi⟩
      obtain ⟨k, sid, rfl⟩ := hi
      cases hacting
  | @closeRoom q r room hq hroom hhost hp hgone =>
      obtain ⟨t, hdeparting, rfl, hne, hrooms, hplayers⟩ := hcause
      obtain rfl := eq_of_departing hacting hdeparting
      refine ⟨hne, (List.mem_cons.1 hp).imp id fun hmem => ?_⟩
      exact ⟨r, room, hplayers ▸ hq, hrooms ▸ hroom, hhost, Room.hasPlayer_iff.2 hmem, hgone⟩
  | endGame =>
      obtain ⟨k, rfl, -⟩ := hcause
      cases hacting

theorem leavesWith_of_step {env : Env} {σ τ : RoomServer} {i : Input} {s : SessionPtr}
    (h : Step env σ i τ) (hσ : σ.registry.Indexed env) (hacting : acting env σ i = some s)
    (p : String) (hp : τ.registry.playerToRoom p ≠ σ.registry.playerToRoom p) :
    LeavesWith σ s p τ := by
  obtain ⟨as, hrun⟩ := run_step h
  have hkeep := hrun.invariant (I := fun y => y.registry.Indexed env ∧
    (y.registry.playerToRoom p ≠ σ.registry.playerToRoom p → LeavesWith σ s p y)) ?_
    ⟨hσ, fun hp => absurd rfl hp⟩
  · exact hkeep.2 hp
  rintro x a y hchange ⟨hx, hleaves⟩
  refine ⟨hx.act hchange.1.act, fun hy => ?_⟩
  by_cases hxy : y.registry.playerToRoom p = x.registry.playerToRoom p
  · obtain ⟨hne, hwho⟩ := hleaves (hxy ▸ hy)
    refine ⟨hne, hwho.imp id ?_⟩
    rintro ⟨r, room, hq, hroom, hhost, hmem, hgone⟩
    refine ⟨r, room, hq, hroom, hhost, hmem, rooms_eq_none hchange.1.act ?_ hgone⟩
    intro t q henters
    exact not_accepts_of_acting hacting (accepts_of_enters hchange.2 henters).1
  · exact leavesWith_of_moves hacting hchange.2 (hchange.1.act.moves hx hxy)

/-!
## Runs
-/

/-- The steps that take no id of another open connection. -/
def FreeStep (env : Env) (σ : RoomServer) (i : Input) (τ : RoomServer) : Prop :=
  Step env σ i τ ∧ TakesFreeIds env σ i

/-- The records agree along a run, and whoever is in a room was put there by the
registered connection. -/
theorem identified_of_run {env : Env} {store : Redis.Keyspace} {is : List Input}
    {σ : RoomServer} (h : Run (FreeStep env) (initial store) is σ) :
    σ.registry.Identified ∧ ∀ p r, p ≠ "" → σ.registry.playerToRoom p = some r →
      ∃ s, σ.registry.sessions p = some s ∧
        PutBy env (FreeStep env) (initial store) s p r is σ := by
  induction h with
  | nil =>
      refine ⟨⟨?_, ?_, ?_⟩, ?_⟩
      · intro s t hne
        exact absurd rfl hne
      · intro p r _ hp
        cases hp
      · intro s hs
        cases hs
      · intro p r _ hp
        cases hp
  | @snoc es x i y hrun hstep ih =>
      obtain ⟨hx, hput⟩ := ih
      have hagrees := agrees_step hstep.1 hstep.2 hx
      refine ⟨hagrees.identified, fun p r hne hp => ?_⟩
      rcases hagrees.membership p r hne hp with ⟨hp', hsession⟩ | ⟨s, haccepts, hs⟩
      · obtain ⟨s, hs, hputBy⟩ := hput p r hne hp'
        exact ⟨s, hsession.trans hs, hputBy.stay hstep hp⟩
      · exact ⟨s, hs, PutBy.enter hrun hstep haccepts hp⟩

theorem lifetime_of_acting {env : Env} {σ τ : RoomServer} {i : Input} {s : SessionPtr}
    (h : Step env σ i τ) (hacting : acting env σ i = some s) :
    (σ.clients s).lifetime = .alive := by
  cases i with
  | clientMessage u envelope =>
      obtain ⟨halive, -⟩ := Option.ite_some_none_eq_some.1 h
      have hu : s = u := by
        cases envelope with
        | toggleReady => exact (Option.some.inj hacting).symm
        | startGame => exact (Option.some.inj hacting).symm
        | leaveRoom =>
            simp only [acting, departing] at hacting
            split at hacting
            · exact (Option.ite_some_none_eq_some.1 hacting).2.symm
            · exact (Option.some.inj hacting).symm
        | _ => exact (Option.ite_some_none_eq_some.1 hacting).2.symm
      rw [hu]
      exact halive
  | clientClose u =>
      obtain ⟨hopen, -⟩ := Option.ite_some_none_eq_some.1 h
      obtain rfl := Option.some.inj hacting
      exact (ClientSession.isOpen_iff.1 hopen).1
  | _ => cases hacting

/-- A session that acts for a player is open. -/
theorem isOpen_of_acting {env : Env} {σ τ : RoomServer} {i : Input} {s : SessionPtr}
    (h : Step env σ i τ) (hσ : σ.registry.Identified) (hacting : acting env σ i = some s)
    (hne : (σ.clients s).playerId ≠ "") : (σ.clients s).isOpen = true := by
  refine ClientSession.isOpen_iff.2 ⟨lifetime_of_acting h hacting, ?_⟩
  rw [← Bool.not_eq_true]
  exact fun hclosed => hne (hσ.cleared s hclosed)

/-- As long as no id is taken that another open connection has, connections have
their players for themselves. -/
theorem exclusiveIdentity_of_freeStep (env : Env) :
    ExclusiveIdentity env (FreeStep env) := by
  refine ⟨?_, ?_, ?_⟩
  · rintro store is σ hrun p s t hne hs ht rfl hp
    exact (identified_of_run hrun).1.unique s t hne hs ht hp.symm
  · intro store is σ hrun p r hne hp
    exact (identified_of_run hrun).1.registered p r hne hp
  · intro store is σ hrun i τ s hstep hacting
    obtain ⟨hσ, hput⟩ := identified_of_run hrun
    refine ⟨?_, ?_⟩
    · intro r hne hp
      obtain ⟨t, ht, hputBy⟩ := hput _ r hne hp
      obtain ⟨t', ht', hopen, hp'⟩ := hσ.registered _ r hne hp
      obtain rfl := Option.some.inj (ht.symm.trans ht')
      -- the registered connection is the only one with the id
      have hs := isOpen_of_acting hstep.1 hσ hacting hne
      obtain rfl := hσ.unique s t hne hs hopen hp'.symm
      exact hputBy
    · intro p hp
      have hindexed : σ.registry.Indexed env := indexed_of_run (fun _ _ _ h => h.1) hrun
      exact leavesWith_of_step hstep.1 hindexed hacting p hp

/-- A player creates a room beside another open connection, and starts the game. -/
theorem exclusiveIdentity_of_freeStep_starts : ∃ σ τ,
    Run (FreeStep defaultEnv) (initial {}) [.connect 0 "10.0.0.1", .connect 1 "10.0.0.2",
      .clientMessage 0 (.createRoom ⟨"p", "P", "room", 4⟩)] σ ∧
    FreeStep defaultEnv σ (.clientMessage 0 .startGame) τ ∧
    PutBy defaultEnv (FreeStep defaultEnv) (initial {}) 0 "p" "u" [.connect 0 "10.0.0.1",
      .connect 1 "10.0.0.2", .clientMessage 0 (.createRoom ⟨"p", "P", "room", 4⟩)] σ := by
  obtain ⟨x, hrun, hx⟩ := exists_run_of_exec (fun _ _ => true) (step defaultEnv) (initial {})
    [.connect 0 "10.0.0.1", .connect 1 "10.0.0.2"]
    (fun x => (x.clients 0).isOpen && (step defaultEnv x (.clientMessage 0
      (.createRoom ⟨"p", "P", "room", 4⟩))).any fun σ => (σ.clients 0).playerId == "p" &&
        σ.manager.playerToRoom.find? "p" == some "u" &&
          (step defaultEnv σ (.clientMessage 0 .startGame)).isSome)
    (by decide +kernel)
  rw [Bool.and_eq_true] at hx
  obtain ⟨hopen, hx⟩ := hx
  obtain ⟨σ, hcreate, hσ⟩ := (Option.any_eq_true _ _).1 hx
  simp only [Bool.and_eq_true, beq_iff_eq] at hσ
  obtain ⟨⟨hid, hroom⟩, hstart⟩ := hσ
  obtain ⟨τ, hstart⟩ := Option.isSome_iff_exists.1 hstart
  have hconnects := hrun.of_guarded.and_of_forall (P := fun i => ∃ s ip, i = .connect s ip)
    (by simp)
  have hfree : Run (FreeStep defaultEnv) (initial {})
      [.connect 0 "10.0.0.1", .connect 1 "10.0.0.2"] x := by
    refine hconnects.mono ?_
    rintro σ i τ ⟨hstep, s, ip, rfl⟩
    exact ⟨hstep, fun t p haccepts => absurd haccepts (not_accepts (by simp) (by simp))⟩
  -- a connection that has only been opened has no id
  have hanonymous : ∀ t, (x.clients t).playerId = "" := by
    refine hconnects.invariant (I := fun σ => ∀ t, (σ.clients t).playerId = "") ?_ (fun _ => rfl)
    rintro σ i τ ⟨hstep, s, ip, rfl⟩ hσ t
    obtain ⟨-, rfl⟩ := Option.ite_some_none_eq_some.1 hstep
    by_cases hts : t = s
    · subst hts
      simp [startClient, updateClient, addLobbySession]
    · simp [startClient, updateClient, addLobbySession, Function.update_of_ne hts, hσ t]
  have hcreates : FreeStep defaultEnv x (.clientMessage 0 (.createRoom ⟨"p", "P", "room", 4⟩)) σ := by
    refine ⟨hcreate, ?_⟩
    rintro s p ⟨-, ⟨request, hi, rfl, -⟩ | ⟨request, room, hi, -⟩⟩ hne
    · cases hi
      exact ⟨hopen, fun t _ _ heq => hne ((hanonymous t).symm.trans heq).symm⟩
    · cases hi
  have hrun' := hfree.snoc hcreates
  have hstep : FreeStep defaultEnv σ (.clientMessage 0 .startGame) τ :=
    ⟨hstart, fun s p haccepts => absurd haccepts (not_accepts (by simp) (by simp))⟩
  have hacts := (exclusiveIdentity_of_freeStep defaultEnv).acts {} _ σ hrun' _ τ 0 hstep rfl
  rw [← hid] at hroom
  have hput := hacts.own "u" (by rw [hid]; decide) hroom
  rw [hid] at hput
  exact ⟨σ, τ, hrun', hstep, hput⟩

/-- A player is released from its game, its id is taken on another connection, and
both connections have it. -/
theorem not_exclusiveIdentity_slotReleased : ¬ ExclusiveIdentity defaultEnv
    (Step defaultEnv) := by
  intro hclaim
  obtain ⟨σ, hrun, hσ⟩ := exists_run_of_exec (fun _ _ => true) (step defaultEnv) (initial {})
    [.connect 0 "10.0.0.1", .connect 1 "10.0.0.2", .gameServerConnect 0,
      .clientMessage 0 (.createRoom ⟨"p", "P", "room", 4⟩), .clientMessage 0 .startGame,
      .gameServerMessage 0 (.slotReleased "p" "uu"),
      .clientMessage 1 (.createRoom ⟨"p", "P", "room", 4⟩)]
    (fun σ => (σ.clients 0).isOpen && (σ.clients 1).isOpen &&
      (σ.clients 0).playerId == "p" && (σ.clients 1).playerId == "p")
    (by decide +kernel)
  simp only [Bool.and_eq_true, beq_iff_eq] at hσ
  obtain ⟨⟨⟨h₀, h₁⟩, hp₀⟩, hp₁⟩ := hσ
  have hrun' := hrun.of_guarded
  exact absurd (hclaim.unique {} _ σ hrun' "p" 0 1 (by decide) h₀ h₁ hp₀ hp₁) (by decide)

end Room

end SosBackend
