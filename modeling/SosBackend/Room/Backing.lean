import SosBackend.Room.Identity

/-!
# What a connection holds

A connection that has entered a room holds the entry registered for its player, the
player's place on the roster, and the room itself where the player is its host. `Backed`
says that every entry and every place is held by an open connection that remembers the
player. A close gives up what is filed under the id that the connection remembers, so it
gives up everything as long as an empty id, which the connection cannot remember, is
never taken, and a connection that has been closed takes none.
-/

namespace SosBackend

namespace Room

open RoomServer

namespace Registry

/-- Who is registered is an open connection that remembers the player, and whoever is in a
room is registered. -/
structure Backed (v : Registry) : Prop where
  entries : ∀ p s, v.sessions p = some s →
    p ≠ "" ∧ (v.clients s).isOpen = true ∧ (v.clients s).playerId = p
  present : ∀ p r, v.playerToRoom p = some r → ∃ s, v.sessions p = some s
  cleared : ∀ s, (v.clients s).closed = true → (v.clients s).playerId = ""

namespace Backed

variable {env : Env} {v w : Registry} {a : Action}

/-- The connection registered for a player in a room. -/
theorem exists_open (h : v.Backed) {p r : String} (hp : v.playerToRoom p = some r) :
    ∃ s, v.sessions p = some s ∧ p ≠ "" ∧ (v.clients s).isOpen = true ∧
      (v.clients s).playerId = p := by
  obtain ⟨s, hs⟩ := h.present p r hp
  exact ⟨s, hs, h.entries p s hs⟩

/-- Leaving rooms, with or without the registration. -/
theorem shrink (h : v.Backed) (hclients : w.clients = v.clients)
    (hsessions : ∀ p s, w.sessions p = some s → v.sessions p = some s)
    (hmem : ∀ p r, w.playerToRoom p = some r →
      v.playerToRoom p = some r ∧ w.sessions p = v.sessions p) : w.Backed := by
  constructor
  · intro p s hs
    rw [hclients]
    exact h.entries p s (hsessions p s hs)
  · intro p r hp
    obtain ⟨hp', hsame⟩ := hmem p r hp
    rw [hsame]
    exact h.present p r hp'
  · rw [hclients]
    exact h.cleared

/-- Entering a room under an id that is not empty, on an open connection. -/
theorem enter (h : v.Backed) {p r : String} {s : SessionPtr} (hadmits : v.Admits p s)
    (hne : p ≠ "") (hopen : (v.clients s).isOpen = true) : (v.enter p r s).Backed := by
  have hother : ∀ {t}, t ≠ s → (v.enter p r s).clients t = v.clients t :=
    fun ht => Function.update_of_ne ht _ _
  have hself : (v.enter p r s).clients s = { v.clients s with playerId := p } :=
    Function.update_self s _ _
  constructor
  · intro q t ht
    by_cases hq : q = p
    · subst hq
      rw [enter_sessions, Function.update_self] at ht
      cases ht
      rw [hself]
      exact ⟨hne, hopen, rfl⟩
    · rw [enter_sessions, Function.update_of_ne hq] at ht
      obtain ⟨hqne, hqopen, hid⟩ := h.entries q t ht
      have hts : t ≠ s := by
        rintro rfl
        rcases hadmits.same with hempty | hsame
        · exact hqne (hid.symm.trans hempty)
        · exact hq (hid.symm.trans hsame)
      rw [hother hts]
      exact ⟨hqne, hqopen, hid⟩
  · intro q r' hq
    by_cases hqp : q = p
    · exact ⟨s, hqp ▸ Function.update_self _ _ _⟩
    · rw [enter_playerToRoom, Function.update_of_ne hqp] at hq
      rw [enter_sessions, Function.update_of_ne hqp]
      exact h.present q r' hq
  · intro t ht
    by_cases hts : t = s
    · subst hts
      rw [hself] at ht
      have hclosed := (ClientSession.isOpen_iff.1 hopen).2
      exact absurd (hclosed.symm.trans ht) Bool.false_ne_true
    · rw [hother hts] at ht ⊢
      exact h.cleared t ht

/-- A connection that is not open may change. -/
theorem setClient (h : v.Backed) {s : SessionPtr} {c : ClientSession} (hc : c.playerId = "")
    (hs : (v.clients s).isOpen = false) : (v.setClient s c).Backed := by
  constructor
  · intro p t ht
    obtain ⟨hne, hopen, hid⟩ := h.entries p t ht
    have hts : t ≠ s := by
      rintro rfl
      rw [hs] at hopen
      cases hopen
    rw [setClient_clients, Function.update_of_ne hts]
    exact ⟨hne, hopen, hid⟩
  · exact h.present
  · intro t ht
    by_cases hts : t = s
    · subst hts
      rw [setClient_clients, Function.update_self]
      exact hc
    · rw [setClient_clients, Function.update_of_ne hts] at ht ⊢
      exact h.cleared t ht

/-- Rooms and the count of identifiers do not matter. -/
theorem setRoom (h : v.Backed) (issued : ℕ) (r : String) (room : Option Room) :
    (({ v with issued := issued } : Registry).setRoom r room).Backed :=
  ⟨h.entries, h.present, h.cleared⟩

/-- A change that is not part of a close. -/
theorem act (hact : Act env v a w) (h : v.Backed) (hcloses : a.closes = false)
    (henters : ∀ s p, a.Enters s p → p ≠ "" ∧ (v.clients s).isOpen = true) : w.Backed := by
  have hmem : (∀ s p, ¬ a.Enters s p) → ∀ p r, w.playerToRoom p = some r →
      v.playerToRoom p = some r ∧ w.sessions p = v.sessions p := by
    intro hnot p r hp
    rcases hact.membership_inv hcloses hp with hold | ⟨s, hnew, -⟩
    · exact hold
    · exact absurd hnew (hnot s p)
  have herased : ∀ {q p : String} {s : SessionPtr},
      Function.update v.sessions q none p = some s → v.sessions p = some s := by
    intro q p s hs
    by_cases hp : p = q
    · rw [hp, Function.update_self] at hs
      cases hs
    · rw [Function.update_of_ne hp] at hs
      exact hs
  cases hact with
  | @create request s hadmits hcount hmin hmax =>
      obtain ⟨hne, hopen⟩ := henters s request.playerId (Or.inl ⟨request, _, rfl, rfl⟩)
      exact (h.setRoom _ _ _).enter ⟨hadmits.unshared, hadmits.same, hadmits.outside⟩ hne hopen
  | @join request s room hadmits hroom hstate hfull =>
      obtain ⟨hne, hopen⟩ := henters s request.playerId (Or.inr ⟨request, rfl, rfl⟩)
      exact (h.setRoom v.issued _ _).enter
        ⟨hadmits.unshared, hadmits.same, hadmits.outside⟩ hne hopen
  | @accept s remoteIp hunborn =>
      apply h.setClient rfl
      rw [ClientSession.isOpen, hunborn]
      rfl
  | @expire s hclosed =>
      refine h.setClient (h.cleared s hclosed) ?_
      rw [ClientSession.isOpen, hclosed]
      exact Bool.and_false _
  | unregister => cases hcloses
  | shut hopen => cases hcloses
  | clear hclosed => cases hcloses
  | release hp hroom hcount =>
      exact h.shrink rfl (fun p s hs => herased hs) (hmem (Action.not_enters rfl))
  | releaseLast hp hroom hcount =>
      exact h.shrink rfl (fun p s hs => herased hs) (hmem (Action.not_enters rfl))
  | forgetSlot hp hroom =>
      exact h.shrink rfl (fun p s hs => herased hs) (hmem (Action.not_enters rfl))
  | _ => exact h.shrink rfl (fun p s hs => hs) (hmem (Action.not_enters rfl))

end Backed

end Registry

/-!
## Closing a session
-/

theorem sessions_closeClient (env : Env) {s : SessionPtr} {σ : RoomServer}
    (hopen : (σ.clients s).closed = false) :
    (σ.closeClient s).registry.sessions = if (σ.clients s).playerId = "" then
      σ.registry.sessions
    else Function.update σ.registry.sessions (σ.clients s).playerId none := by
  obtain ⟨σ₁, -, hreg₁, hclose⟩ := close_changes env hopen
  have hsessions₁ : σ₁.registry.sessions = σ.registry.sessions := by
    rw [hreg₁]
    rfl
  rcases hclose with ⟨hempty, hquiet⟩ | ⟨hne, a, σ₂, σ₃, ha, hleave, hunregister, hclear⟩
  · rw [if_pos hempty, hquiet.act.quiet_inv, hsessions₁]
  · rw [if_neg hne, hclear.act.clear_inv, hunregister.act.unregister_inv]
    change Function.update σ₂.registry.sessions _ none = _
    rw [(membership_of_departure hleave.act ha).1, hsessions₁]

/-- A close gives up the entry and the place of the player that the connection
remembers. -/
theorem Registry.Backed.close {v w : Registry} {s : SessionPtr} (h : v.Backed)
    (hclosed : Closed v s w)
    (hsessions : w.sessions = if (v.clients s).playerId = "" then v.sessions
      else Function.update v.sessions (v.clients s).playerId none) :
    w.Backed ∧ ∀ p, w.sessions p ≠ some s := by
  -- what is still registered belongs to other connections
  have hentry : ∀ p t, w.sessions p = some t → t ≠ s ∧ v.sessions p = some t := by
    intro p t ht
    rw [hsessions] at ht
    split at ht
    · next hempty =>
        refine ⟨?_, ht⟩
        rintro rfl
        obtain ⟨hne, -, hid⟩ := h.entries p t ht
        exact hne (hid.symm.trans hempty)
    · by_cases hp : p = (v.clients s).playerId
      · rw [hp, Function.update_self] at ht
        cases ht
      · rw [Function.update_of_ne hp] at ht
        refine ⟨?_, ht⟩
        rintro rfl
        exact hp (h.entries p t ht).2.2.symm
  refine ⟨⟨?_, ?_, ?_⟩, fun p hp => (hentry p s hp).1 rfl⟩
  · intro p t ht
    obtain ⟨hts, ht⟩ := hentry p t ht
    rw [hclosed.clients, Function.update_of_ne hts]
    exact h.entries p t ht
  · intro p r hp
    obtain ⟨hp', hps⟩ := hclosed.membership p r hp
    obtain ⟨t, ht, hne, -⟩ := h.exists_open hp'
    refine ⟨t, ?_⟩
    rw [hclosed.sessions p, ht]
    intro heq
    exact hps (heq ▸ hne) heq
  · intro t ht
    rw [hclosed.clients] at ht ⊢
    by_cases hts : t = s
    · rw [hts, Function.update_self]
    · rw [Function.update_of_ne hts] at ht ⊢
      exact h.cleared t ht

/-!
## Steps
-/

/-- Every id taken in the step is not empty, and is taken on an open connection. -/
def TakesIds (env : Env) (σ : RoomServer) (i : Input) : Prop :=
  ∀ s p, Accepts env σ i s p → p ≠ "" ∧ (σ.clients s).isOpen = true

theorem backed_step {env : Env} {σ τ : RoomServer} {i : Input} (h : Step env σ i τ)
    (htakes : TakesIds env σ i) (hσ : σ.registry.Backed) :
    τ.registry.Backed ∧ ∀ s, closing env σ i = some s → ∀ p, τ.registry.sessions p ≠ some s := by
  cases hclosing : closing env σ i with
  | some s =>
      have hclosed := closed_of_closing h hclosing
      obtain ⟨hopen, x, hreg, -, rfl⟩ := step_of_closing h hclosing
      have hclients : x.clients = σ.clients := congrArg Registry.clients hreg
      have hsessions := sessions_closeClient env (σ := x) (s := s) (by
        rw [hclients]
        exact (ClientSession.isOpen_iff.1 hopen).2)
      rw [hreg, hclients] at hsessions
      obtain ⟨hbacked, hgone⟩ := hσ.close hclosed hsessions
      refine ⟨hbacked, fun t ht => ?_⟩
      cases ht
      exact hgone
  | none =>
      obtain ⟨as, hrun⟩ := run_step h
      refine ⟨hrun.invariant (I := fun x => x.registry.Backed) ?_ hσ, fun t ht => by cases ht⟩
      intro x a y hchange hx
      obtain ⟨heffect, hcause⟩ := hchange
      apply hx.act heffect.act (closes_eq_false hclosing hcause)
      intro s p henters
      obtain ⟨haccepts, hreg⟩ := accepts_of_enters hcause henters
      rw [hreg]
      exact htakes s p haccepts

end Room

end SosBackend
