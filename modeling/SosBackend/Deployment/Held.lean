import SosBackend.Deployment.Sessions

/-!
# Handlers hold their sessions

A session that reads, or whose read handler is queued, has been accepted and not been released.
Every step on the wire keeps it so, and what a handler does is a run of its server.
-/

namespace SosBackend

open Protocol

/-- A handler holds the session, or will do so. -/
def Protocol.Reading.active : Reading → Bool
  | .waiting => true
  | .done _ => true
  | _ => false

namespace Wire

/-- The lifetime of the session of a connection. -/
def lifetime (x : Wire) : Port → Lifetime
  | .client s => (x.room.clients s).lifetime
  | .gameServer k => (x.room.gameServers k).lifetime
  | .chatter s => (x.chat.sessions s).lifetime
  | .link => .alive

/-- What holds on the wire between two steps: a session that reads has been accepted and has
not been released. -/
structure Sound (w : WireEnv) (x : Wire) : Prop where
  started : ∀ port, (x.reader port).reading ≠ .unstarted → x.lifetime port ≠ .unborn
  held : ∀ port, (x.reader port).reading.active = true → x.lifetime port = .alive
  room : Room.Announced w.room x.room

variable {w : WireEnv} {x x' : Wire} {e : Event}

/-- A step at sessions that are held. -/
theorem Sound.update (h : Sound w x) (hlifetime : ∀ p, x'.lifetime p = x.lifetime p)
    (hreader : ∀ p, x'.reader p = x.reader p ∨ (x.reader p).reading.active = true)
    (hroom : Room.Announced w.room x'.room) : Sound w x' := by
  refine ⟨fun p hp => ?_, fun p hp => ?_, hroom⟩
  · rw [hlifetime]
    rcases hreader p with heq | hactive
    · rw [heq] at hp
      exact h.started p hp
    · rw [h.held p hactive]
      exact Lifetime.noConfusion
  · rw [hlifetime]
    rcases hreader p with heq | hactive
    · rw [heq] at hp
      exact h.held p hp
    · exact h.held p hactive

/-- What the Room Server does without losing the link. -/
theorem announced_run {σ τ : Room.RoomServer} {is : List Room.Input}
    (hrun : Run (Room.Step w.room) σ is τ) (hlink : ∀ i ∈ is, Deployment.keepsLink i = true)
    (hσ : Room.Announced w.room σ) :
    Room.Announced w.room τ ∧ σ.backend.chat.sent <+: τ.backend.chat.sent := by
  have hall := hrun.and_of_forall hlink
  refine hall.invariant (I := fun τ => Room.Announced w.room τ ∧
    σ.backend.chat.sent <+: τ.backend.chat.sent) ?_ ⟨hσ, List.prefix_refl _⟩
  rintro σ' i τ' ⟨hstep, hi⟩ ⟨hσ', hprefix⟩
  have hne : ∀ connected, i ≠ .chatLink connected := by
    rintro connected rfl
    cases hi
  obtain ⟨hτ', -, hmore⟩ := Room.announced_step hstep w.chatChannel hne hσ'
  exact ⟨hτ', hprefix.trans hmore⟩

end Wire

end SosBackend
