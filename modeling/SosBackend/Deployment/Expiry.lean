import SosBackend.Chat.Expiry
import SosBackend.Deployment.SharedRedis
import SosBackend.Room.Expiry

/-!
# What a deployment leaves in Redis

Besides the set of the active sessions nothing stays in Redis. Every key that one of the
servers writes under expires, and nothing that the other one does keeps it alive for longer
than the longest time to live.
-/

namespace SosBackend

namespace SharedDeployment

open Deployment (Event)

/-- Whatever the servers have done on their Redis, when the longest time to live has passed
nothing is left but the set of the active sessions. What else Redis held before they started
is to be gone by then as well. -/
theorem fades_of_run {env : DeploymentEnv} {L : ℕ} (hroom : env.room.Answers)
    (hchat : ∀ n, env.chat.outcome n = .answered) (hroomLasts : env.room.Lasts L)
    (hchatLasts : env.chat.Lasts L) (httl : env.chat.sessionTtl ≠ 0) {store : Redis.Keyspace}
    (hstore : ∀ key, key ≠ Room.activeSessionsKey → (store.advance L).lookup key = none)
    {es : List Event} {x : SharedDeployment} (h : Run (Step env) (initial store) es x) :
    ∀ key, key ≠ Room.activeSessionsKey →
      (x.room.backend.redis.store.advance L).lookup key = none := by
  have hinitial : (initial store).room.Brief {key | key ≠ Room.activeSessionsKey} L :=
    Redis.Keyspace.Brief.iff_lookup_advance.2 hstore
  have hbrief : x.room.Brief {key | key ≠ Room.activeSessionsKey} L := by
    refine h.invariant (I := fun x => x.room.Brief {key | key ≠ Room.activeSessionsKey} L) ?_
      hinitial
    intro x e y hstep hx
    have hx' : x.chat.Brief {key | key ≠ Room.activeSessionsKey} L := by
      unfold Chat.ChatServer.Brief
      rw [x.shared]
      exact hx
    obtain ⟨-, z, hz, rfl⟩ := step_inv hstep
    cases e with
    | room i =>
        obtain ⟨-, room, hroom', rfl⟩ := Deployment.step_room.1 hz
        exact hx.step hroom hroomLasts (fun hne => hne rfl) hroom'
    | receive c =>
        obtain ⟨-, rfl⟩ := Option.ite_some_none_eq_some.1 hz
        exact hx
    | write s envelope =>
        obtain rfl := Option.some.inj hz
        exact hx
    | handle s =>
        obtain ⟨envelope, -, hsome⟩ := Option.bind_eq_some_iff.1 hz
        obtain ⟨chat, hchat', rfl⟩ := Option.map_eq_some_iff.1 hsome
        exact hx'.step hchat hchatLasts httl hchat'
    | internal =>
        obtain ⟨envelope, -, hsome⟩ := Option.bind_eq_some_iff.1 hz
        obtain ⟨chat, hchat', rfl⟩ := Option.map_eq_some_iff.1 hsome
        exact hx'.step hchat hchatLasts httl hchat'
    | chat i =>
        obtain ⟨-, chat, hchat', rfl⟩ := Deployment.step_chat.1 hz
        exact hx'.step hchat hchatLasts httl hchat'
  exact Redis.Keyspace.Brief.iff_lookup_advance.1 hbrief

/-- A game is on and a message has been said; two hours later Redis knows of the game alone. -/
theorem fades_of_run_startThenChat : ∃ x,
    Run (Step Deployment.defaultEnv) (initial {}) startThenChat x ∧
      x.room.hasActiveGame = true ∧ ∀ key, key ≠ Room.activeSessionsKey →
        (x.room.backend.redis.store.advance 7200).lookup key = none := by
  obtain ⟨x, hrun, hactive⟩ := exists_run_of_exec (fun _ _ => true) (step Deployment.defaultEnv)
    (initial {}) startThenChat (fun x => x.room.hasActiveGame) (by decide +kernel)
  have hroomLasts : Deployment.defaultEnv.room.Lasts 7200 := by
    constructor
    · rintro limiter hsome
      cases hsome
      decide
    · rintro store hsome
      cases hsome
      decide
    · rintro store hsome
      cases hsome
      decide
  have hchatLasts : Deployment.defaultEnv.chat.Lasts 7200 := by
    constructor
    · rintro limiter hsome
      cases hsome
      decide
    · decide
  have hfades := fades_of_run (fun _ => rfl) (fun _ => rfl) hroomLasts hchatLasts (by decide)
    (fun _ _ => rfl) hrun.of_guarded
  exact ⟨x, hrun.of_guarded, hactive, hfades⟩

end SharedDeployment

end SosBackend
