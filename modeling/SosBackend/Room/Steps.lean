import SosBackend.Room.Effect

/-!
# A step is a run of changes

`run_step` takes a step of the server apart into changes of the registry, each
with its effect on the server and its `Cause`: which input it came from, and that
the registry it met was still the one before the step. Closing a session is the
one case with several changes that depend on each other; `close_changes` names
the states between them.
-/

namespace SosBackend

namespace Room

open RoomServer

/-- What in the input `i`, met in the state `σ`, makes the change `a` happen in
the state `x` that the step has got to. -/
def Cause (env : Env) (σ : RoomServer) (i : Input) (x : RoomServer) (a : Action) : Prop :=
  match a with
  | .create request s _ => i = .clientMessage s (.createRoom request) ∧
      limited env σ s = false ∧ x.registry = σ.registry ∧
      σ.createRejection env request s = none
  | .join request s => i = .clientMessage s (.joinRoom request) ∧
      limited env σ s = false ∧ x.registry = σ.registry ∧
      ∃ room, σ.joinableRoom request s = .ok room
  | .leave p _ | .closeRoom p _ => ∃ s, departing env σ i = some s ∧
      (σ.clients s).playerId = p ∧ p ≠ "" ∧ x.registry.rooms = σ.registry.rooms ∧
      x.registry.playerToRoom = σ.registry.playerToRoom
  | .toggle p _ => ∃ s, i = .clientMessage s .toggleReady ∧
      (σ.clients s).playerId = p ∧ p ≠ "" ∧ x.registry = σ.registry
  | .start p _ _ => ∃ s, i = .clientMessage s .startGame ∧
      (σ.clients s).playerId = p ∧ p ≠ "" ∧ x.registry = σ.registry
  | .release p r | .releaseLast p r => ∃ k sid, i = .gameServerMessage k (.slotReleased p sid) ∧
      x.registry = σ.registry ∧
      ∃ room, σ.registry.rooms r = some room ∧ (sid = "" ∨ room.sessionId = sid)
  | .endGame _ => ∃ k, i = .gameServerClose k ∧ (σ.gameServers k).closed = false ∧
      (σ.gameServers k).serverId ≠ ""
  | .unregister p => ∃ s, closing env σ i = some s ∧ (σ.clients s).playerId = p ∧ p ≠ ""
  | .accept s remoteIp => i = .connect s remoteIp
  | .shut s | .clear s => closing env σ i = some s
  | .expire s => i = .clientReleased s
  | .link connected => i = .chatLink connected
  | .forget _ | .forgetSlot _ | .quiet => True

/-- A player is released by a slot release that lets its room through. -/
theorem Cause.release_inv {env : Env} {σ x : RoomServer} {i : Input} {a : Action}
    {p r : String} {room : Room} (h : Cause env σ i x a)
    (ha : a = .release p r ∨ a = .releaseLast p r) (hroom : x.registry.rooms r = some room) :
    ∃ k sid, i = .gameServerMessage k (.slotReleased p sid) ∧ x.registry = σ.registry ∧
      (sid = "" ∨ room.sessionId = sid) := by
  have hcause : ∃ k sid, i = .gameServerMessage k (.slotReleased p sid) ∧
      x.registry = σ.registry ∧
      ∃ room, σ.registry.rooms r = some room ∧ (sid = "" ∨ room.sessionId = sid) := by
    rcases ha with rfl | rfl
    · exact h
    · exact h
  obtain ⟨k, sid, hi, hreg, room', hroom', hsid⟩ := hcause
  rw [← hreg] at hroom'
  cases hroom.symm.trans hroom'
  exact ⟨k, sid, hi, hreg, hsid⟩

/-- A change with its effect on the server and its cause in a step. -/
def Change (env : Env) (σ : RoomServer) (i : Input) (x : RoomServer) (a : Action)
    (y : RoomServer) : Prop :=
  Effect env x a y ∧ Cause env σ i x a

/-- A change of nothing that the registry, the clients and the Chat Server
see. -/
theorem effect_quiet {env : Env} {σ τ : RoomServer} (hreg : τ.registry = σ.registry)
    (hsent : Emits (Action.quiet.Sends σ.registry) σ τ)
    (hdraws : Draws σ.backend τ.backend) : Effect env σ .quiet τ where
  act := by
    rw [hreg]
    exact Act.quiet
  sent := hsent
  chat := by rw [Action.chatAfter_of_silent rfl, hdraws.chat]
  active := fun _ S hS => by
    rw [Action.activeAfter_of_silent rfl]
    exact hdraws.active S hS

/-!
## The rate limiter
-/

/-- The rate limiter counts in Redis and changes nothing else. -/
theorem rateLimit_spec (env : Env) (s : SessionPtr) (σ : RoomServer) :
    ∃ b, (σ.rateLimit env s).2 = { σ with backend := b } ∧
      b.uuidsIssued = σ.backend.uuidsIssued ∧ Draws σ.backend b := by
  unfold rateLimit
  split
  · exact ⟨σ.backend, rfl, rfl, Draws.refl _⟩
  next limiter hlimiter =>
    have hkey := env.keyPrefix_rateLimiter limiter hlimiter
    have hdraws : Draws σ.backend (σ.backend.allow env limiter (σ.clients s).remoteIp).2 := by
      refine ⟨le_refl _, rfl, fun S hS => ?_⟩
      exact limiter.holdsSet_allow hS (hkey ▸ activeSessionsKey_ne_rate _)
    have hissued : (σ.backend.allow env limiter (σ.clients s).remoteIp).2.uuidsIssued =
        σ.backend.uuidsIssued := rfl
    split
    · next heq =>
        rw [heq] at hdraws hissued
        exact ⟨_, rfl, hissued, hdraws⟩
    · next heq =>
        rw [heq] at hdraws hissued
        exact ⟨_, rfl, hissued, hdraws⟩

/-!
## Closing a session
-/

/-- A player leaving its room concerns no session object. -/
theorem clients_of_departure {env : Env} {v w : Registry} {a : Action} {p : String}
    (h : Act env v a w) (ha : a.IsDeparture v p) : w.clients = v.clients := by
  rcases ha with ⟨rfl, -⟩ | rfl | ⟨r, rfl⟩ | ⟨r, rfl⟩
  · cases h; rfl
  · cases h; rfl
  · cases h; rfl
  · cases h; rfl

/-- A close up to the player's leaving: the session is marked and out of the
lobby. -/
def RoomServer.shutClient (s : SessionPtr) (σ : RoomServer) : RoomServer :=
  (σ.updateClient s fun c => { c with closed := true }).removeLobbySession s

@[simp] theorem registry_shutClient (s : SessionPtr) (σ : RoomServer) :
    (σ.shutClient s).registry = σ.registry.setClient s { σ.clients s with closed := true } := by
  rw [shutClient, registry_removeLobbySession, registry_updateClient]

theorem clients_shutClient (s : SessionPtr) (σ : RoomServer) :
    (σ.shutClient s).clients s = { σ.clients s with closed := true } :=
  Function.update_self s _ _

theorem closeClient_eq {s : SessionPtr} {σ : RoomServer} (hopen : (σ.clients s).closed = false) :
    σ.closeClient s = if (σ.clients s).playerId = "" then σ.shutClient s
      else (((σ.shutClient s).handleLeaveRoom (σ.clients s).playerId).unregisterSession
        (σ.clients s).playerId).updateClient s fun c => { c with playerId := "" } := by
  have hplayer : ((σ.shutClient s).clients s).playerId = (σ.clients s).playerId := by
    rw [clients_shutClient]
  rw [← hplayer]
  unfold closeClient
  rw [hopen, if_neg Bool.false_ne_true]
  simp only [bne_iff_ne, ne_eq, ite_not]
  rfl

theorem lock_shutClient (s : SessionPtr) (σ : RoomServer) (p : String) :
    (σ.shutClient s).lock p = σ.lock p := by
  apply lock_congr_at
  · rw [registry_shutClient]
    rfl
  · intro t
    have hclients : (σ.shutClient s).clients = (σ.shutClient s).registry.clients := rfl
    rw [hclients, registry_shutClient]
    by_cases ht : t = s
    · simp [ht, registry]
    · simp [ht, registry]

/-- A close sends what the player's leaving sends. -/
theorem emits_closeClient {P : Delivery → Prop} {s : SessionPtr} {σ : RoomServer}
    (h : Emits P (σ.shutClient s)
      ((σ.shutClient s).handleLeaveRoom (σ.clients s).playerId)) :
    Emits P σ (σ.closeClient s) := by
  cases hclosed : (σ.clients s).closed with
  | true =>
      have hstay : σ.closeClient s = σ := if_pos hclosed
      rw [hstay]
      exact Emits.refl σ
  | false =>
      rw [closeClient_eq hclosed]
      split
      · exact Emits.of_sent_eq rfl
      · exact ((Emits.of_sent_eq rfl).trans h).trans (Emits.of_sent_eq rfl)

/-- The changes of a close: the session is marked closed, its player leaves its
room and is unregistered, and the session forgets it. A session without a player
is only marked. -/
theorem close_changes (env : Env) {s : SessionPtr} {σ : RoomServer}
    (hopen : (σ.clients s).closed = false) :
    ∃ σ₁, Effect env σ (.shut s) σ₁ ∧
      σ₁.registry = σ.registry.setClient s { σ.clients s with closed := true } ∧
      (((σ.clients s).playerId = "" ∧ Effect env σ₁ .quiet (σ.closeClient s)) ∨
        ((σ.clients s).playerId ≠ "" ∧ ∃ a σ₂ σ₃,
          a.IsDeparture σ₁.registry (σ.clients s).playerId ∧ Effect env σ₁ a σ₂ ∧
          Effect env σ₂ (.unregister (σ.clients s).playerId) σ₃ ∧ Effect env σ₃ (.clear s) (σ.closeClient s))) := by
  refine ⟨σ.shutClient s, Effect.of_silent rfl ?_ (Emits.of_sent_eq rfl) rfl rfl,
    registry_shutClient s σ, ?_⟩
  · rw [registry_shutClient]
    exact Act.shut hopen
  rw [closeClient_eq hopen]
  by_cases hempty : (σ.clients s).playerId = ""
  · refine Or.inl ⟨hempty, ?_⟩
    rw [if_pos hempty]
    exact effect_quiet rfl (Emits.refl _) (Draws.refl _)
  · refine Or.inr ⟨hempty, ?_⟩
    rw [if_neg hempty]
    obtain ⟨a, heffect, ha⟩ :=
      effect_handleLeaveRoom env (σ.clients s).playerId (σ.shutClient s)
    refine ⟨a, _, ((σ.shutClient s).handleLeaveRoom (σ.clients s).playerId).unregisterSession
      (σ.clients s).playerId, ha, heffect,
      Effect.of_silent rfl ?_ (Emits.of_sent_eq rfl) rfl rfl, ?_⟩
    · rw [registry_unregisterSession]
      exact Act.unregister
    · refine Effect.of_silent rfl ?_ (Emits.of_sent_eq rfl) rfl rfl
      have hclients := clients_of_departure heffect.act ha
      refine Act.clear ?_
      rw [registry_unregisterSession]
      refine (congrArg ClientSession.closed (congrFun hclients s)).trans ?_
      exact congrArg ClientSession.closed (clients_shutClient s σ)

theorem cause_of_departure {env : Env} {σ x : RoomServer} {i : Input} {s : SessionPtr}
    {v : Registry} {p : String} {a : Action} (ha : a.IsDeparture v p)
    (hdeparting : departing env σ i = some s)
    (hp : (σ.clients s).playerId = p) (hne : p ≠ "")
    (hrooms : x.registry.rooms = σ.registry.rooms)
    (hplayers : x.registry.playerToRoom = σ.registry.playerToRoom) : Cause env σ i x a := by
  rcases ha with ⟨rfl, -⟩ | rfl | ⟨r, rfl⟩ | ⟨r, rfl⟩
  · trivial
  · trivial
  · exact ⟨s, hdeparting, hp, hne, hrooms, hplayers⟩
  · exact ⟨s, hdeparting, hp, hne, hrooms, hplayers⟩

theorem run_closeClient {env : Env} {σ x : RoomServer} {i : Input} {s : SessionPtr}
    (hclosing : closing env σ i = some s) (hdeparting : departing env σ i = some s)
    (hreg : x.registry = σ.registry) (hopen : (σ.clients s).closed = false) :
    ∃ as, Run (Change env σ i) x as (x.closeClient s) := by
  have hclients : x.clients = σ.clients := congrArg Registry.clients hreg
  obtain ⟨σ₁, hshut, hreg₁, hclose⟩ := close_changes env (s := s) (σ := x)
    (by rw [hclients]; exact hopen)
  have hfirst : Run (Change env σ i) x [.shut s] σ₁ := Run.single ⟨hshut, hclosing⟩
  rw [hclients] at hclose
  rcases hclose with ⟨-, hquiet⟩ | ⟨hne, a, σ₂, σ₃, ha, hleave, hunregister, hclear⟩
  · exact ⟨_, Run.snoc hfirst ⟨hquiet, trivial⟩⟩
  · have hcause : Cause env σ i σ₁ a := by
      refine cause_of_departure ha hdeparting rfl hne ?_ ?_
      · rw [hreg₁, hreg]
        rfl
      · rw [hreg₁, hreg]
        rfl
    exact ⟨_, Run.snoc (Run.snoc (Run.snoc hfirst ⟨hleave, hcause⟩)
      ⟨hunregister, s, hclosing, rfl, hne⟩) ⟨hclear, hclosing⟩⟩

/-!
## Steps
-/

theorem registry_backend {σ : RoomServer} {b : Backend}
    (hissued : b.uuidsIssued = σ.backend.uuidsIssued) :
    ({ σ with backend := b } : RoomServer).registry = σ.registry := by
  simp only [registry, hissued]

/-- A message is refused and its session closed, or it is dispatched, behind what the rate
limiter does in Redis. -/
theorem processMessage_eq (env : Env) (σ : RoomServer) (s : SessionPtr) :
    ∃ b, b.uuidsIssued = σ.backend.uuidsIssued ∧ Draws σ.backend b ∧ ∀ envelope,
      σ.processMessage env s envelope = if limited env σ s then
        (RoomServer.send { σ with backend := b } s none
          (.reject ⟨.rateLimited, "Too many requests"⟩)).closeClient s
      else RoomServer.dispatch env s envelope { σ with backend := b } := by
  obtain ⟨b, hb, hissued, hdraws⟩ := rateLimit_spec env s σ
  refine ⟨b, hissued, hdraws, ?_⟩
  intro envelope
  cases hx : σ.rateLimit env s with
  | mk allowed x =>
      rw [hx] at hb
      obtain rfl : x = { σ with backend := b } := hb
      cases allowed with
      | false => simp [processMessage, limited, hx]
      | true => simp [processMessage, limited, hx]

theorem processMessage_of_limited {env : Env} {σ : RoomServer} {s : SessionPtr}
    (h : limited env σ s = true) (envelope : Envelope) :
    ∃ x : RoomServer, x.registry = σ.registry ∧ x.manager = σ.manager ∧
      σ.processMessage env s envelope = x.closeClient s := by
  obtain ⟨b, hissued, -, hmessage⟩ := processMessage_eq env σ s
  refine ⟨RoomServer.send { σ with backend := b } s none
    (.reject ⟨.rateLimited, "Too many requests"⟩), registry_backend hissued, rfl, ?_⟩
  rw [hmessage, if_pos h]

/-- A message that the rate limiter lets through is dispatched. -/
theorem processMessage_of_pass {env : Env} {σ : RoomServer} {s : SessionPtr}
    (h : limited env σ s = false) (envelope : Envelope) :
    ∃ b, b.uuidsIssued = σ.backend.uuidsIssued ∧ σ.processMessage env s envelope =
      RoomServer.dispatch env s envelope { σ with backend := b } := by
  obtain ⟨b, hissued, -, hmessage⟩ := processMessage_eq env σ s
  refine ⟨b, hissued, ?_⟩
  rw [hmessage, h, if_neg Bool.false_ne_true]

/-- A message that the rate limiter lets through. `x` is the server behind the
limiter. -/
theorem run_dispatch {env : Env} {σ : RoomServer} {s : SessionPtr} {b : Backend}
    (hissued : b.uuidsIssued = σ.backend.uuidsIssued) (hpass : limited env σ s = false)
    (envelope : Envelope) :
    ∃ as, Run (Change env σ (.clientMessage s envelope)) { σ with backend := b } as
      (RoomServer.dispatch env s envelope { σ with backend := b }) := by
  generalize hx : ({ σ with backend := b } : RoomServer) = x
  have hreg : x.registry = σ.registry := by
    rw [← hx]
    exact registry_backend hissued
  have hplayer : (x.clients s).playerId = (σ.clients s).playerId := by rw [← hx]
  have hnothing : ∀ i, ∃ as, Run (Change env σ i) x as x := fun _ => ⟨[], Run.nil⟩
  cases envelope with
  | createRoom request =>
      obtain ⟨a, heffect, ha⟩ := effect_handleCreateRoom env request s x
      refine ⟨[a], Run.single ⟨heffect, ?_⟩⟩
      rcases ha with rfl | ⟨haccept, rfl⟩
      · trivial
      · rw [← hx] at haccept
        exact ⟨rfl, hpass, hreg, haccept⟩
  | joinRoom request =>
      obtain ⟨a, heffect, ha⟩ := effect_handleJoinRoom env request s x
      refine ⟨[a], Run.single ⟨heffect, ?_⟩⟩
      rcases ha with rfl | ⟨haccept, rfl⟩
      · trivial
      · rw [← hx] at haccept
        exact ⟨rfl, hpass, hreg, haccept⟩
  | leaveRoom =>
      simp only [dispatch, hplayer]
      split
      · next hne =>
          obtain ⟨a, heffect, ha⟩ := effect_handleLeaveRoom env (σ.clients s).playerId x
          have hdeparting : departing env σ (.clientMessage s .leaveRoom) = some s := by
            simp [departing, hpass]
          have hleave : Change env σ (.clientMessage s .leaveRoom) x a
              (x.handleLeaveRoom (σ.clients s).playerId) :=
            ⟨heffect, cause_of_departure ha hdeparting rfl (by simpa using hne)
              (by rw [hreg]) (by rw [hreg])⟩
          have hlobby : Effect env (x.handleLeaveRoom (σ.clients s).playerId) .quiet
              ((x.handleLeaveRoom (σ.clients s).playerId).addLobbySession
                s).notifyRoomListChanged := by
            refine effect_quiet ?_ (Emits.notify (Emits.of_sent_eq rfl)) ?_
            · rw [registry_notifyRoomListChanged, registry_addLobbySession]
            · rw [backend_notifyRoomListChanged]
              exact Draws.refl _
          exact ⟨_, Run.snoc (Run.single hleave) ⟨hlobby, trivial⟩⟩
      · exact hnothing _
  | toggleReady =>
      simp only [dispatch, hplayer]
      split
      · next hne =>
          obtain ⟨a, heffect, ha⟩ := effect_handleToggleReady env (σ.clients s).playerId x
          refine ⟨[a], Run.single ⟨heffect, ?_⟩⟩
          rcases ha with rfl | ⟨r, rfl⟩
          · trivial
          · exact ⟨s, rfl, rfl, by simpa using hne, hreg⟩
      · exact hnothing _
  | startGame =>
      simp only [dispatch, hplayer]
      split
      · next hne =>
          obtain ⟨a, heffect, ha⟩ := effect_handleStartGame env (σ.clients s).playerId x
          refine ⟨[a], Run.single ⟨heffect, ?_⟩⟩
          rcases ha with rfl | ⟨r, rfl⟩
          · trivial
          · exact ⟨s, rfl, rfl, by simpa using hne, hreg⟩
      · exact hnothing _
  | roomListRequest request =>
      refine ⟨[.quiet], Run.single ⟨effect_quiet ?_ ?_ (Draws.refl _), trivial⟩⟩
      · rfl
      · exact (Emits.refl x).send trivial
  | _ => exact hnothing _

theorem run_processMessage (env : Env) (σ : RoomServer) (s : SessionPtr)
    (envelope : Envelope) :
    ∃ as, Run (Change env σ (.clientMessage s envelope)) σ as
      (σ.processMessage env s envelope) := by
  obtain ⟨b, hissued, hdraws, hmessage⟩ := processMessage_eq env σ s
  have hlimiter : Change env σ (.clientMessage s envelope) σ .quiet
      { σ with backend := b } := by
    exact ⟨effect_quiet (registry_backend hissued) (Emits.of_sent_eq rfl) hdraws, trivial⟩
  rw [hmessage]
  cases hlimited : limited env σ s with
  | true =>
      rw [if_pos rfl]
      have hreject : Change env σ (.clientMessage s envelope) { σ with backend := b } .quiet
          (RoomServer.send { σ with backend := b } s none
            (.reject ⟨.rateLimited, "Too many requests"⟩)) := by
        refine ⟨effect_quiet rfl ?_ (Draws.refl _), trivial⟩
        refine (Emits.refl _).send ?_
        intro hbusy
        cases hbusy
      have hrun := Run.cons hlimiter (Run.single hreject)
      have hreg : (RoomServer.send { σ with backend := b } s none
          (.reject ⟨.rateLimited, "Too many requests"⟩)).registry = σ.registry :=
        registry_backend hissued
      cases hclosed : (σ.clients s).closed with
      | true =>
          have hstay : RoomServer.closeClient s (RoomServer.send { σ with backend := b } s
              none (.reject ⟨.rateLimited, "Too many requests"⟩)) = _ := if_pos hclosed
          rw [hstay]
          exact ⟨_, hrun⟩
      | false =>
          have hclosing : closing env σ (.clientMessage s envelope) = some s := by
            simp [closing, hlimited, hclosed]
          have hdeparting : departing env σ (.clientMessage s envelope) = some s := by
            cases envelope <;> simp [departing, hlimited, hclosing]
          obtain ⟨as, has⟩ := run_closeClient hclosing hdeparting hreg hclosed
          exact ⟨_, hrun.append has⟩
  | false =>
      rw [if_neg Bool.false_ne_true]
      obtain ⟨as, has⟩ := run_dispatch hissued hlimited envelope
      exact ⟨_, Run.cons hlimiter has⟩

theorem uuidsIssued_redisCall {ρ : Type*} {env : Env} {cmd : Redis.Command ρ}
    {b b' : Backend} {r : Option ρ} (h : b.redisCall env cmd = (r, b')) :
    b'.uuidsIssued = b.uuidsIssued := by
  obtain ⟨-, rfl⟩ := Prod.mk.inj h
  rfl

theorem draws_validateToken (env : Env) (token : String) (b : Backend) :
    (b.validateToken env token).2.uuidsIssued = b.uuidsIssued ∧
      Draws b (b.validateToken env token).2 := by
  unfold Backend.validateToken
  have hkey := activeSessionsKey_ne_token token
  split
  · next hget => exact ⟨uuidsIssued_redisCall hget, Draws.redisCall hkey hget⟩
  · next hget => exact ⟨uuidsIssued_redisCall hget, Draws.redisCall hkey hget⟩
  next hget =>
  have hissued := uuidsIssued_redisCall hget
  have hdraws := Draws.redisCall hkey hget
  split
  · next hdel =>
      exact ⟨(uuidsIssued_redisCall hdel).trans hissued,
        hdraws.trans (Draws.redisCall hkey hdel)⟩
  · next hdel =>
      exact ⟨(uuidsIssued_redisCall hdel).trans hissued,
        hdraws.trans (Draws.redisCall hkey hdel)⟩

theorem run_processInternalMessage (env : Env) (store : SessionStore) (σ : RoomServer)
    (k : SessionPtr) (envelope : Envelope) :
    ∃ as, Run (Change env σ (.gameServerMessage k envelope)) σ as
      (σ.processInternalMessage env store k envelope) := by
  cases envelope with
  | tokenValidateRequest authToken =>
      refine ⟨[.quiet], Run.single ⟨?_, trivial⟩⟩
      have hdraws := draws_validateToken env authToken σ.backend
      simp only [processInternalMessage, handleTokenValidate]
      split
      · next heq =>
          rw [heq] at hdraws
          refine effect_quiet (registry_backend ?_) (Emits.of_sent_eq rfl) hdraws.2
          exact hdraws.1
      · next heq =>
          rw [heq] at hdraws
          refine effect_quiet (registry_backend ?_) (Emits.of_sent_eq rfl) hdraws.2
          exact hdraws.1
  | slotReleased p sid =>
      obtain ⟨a, heffect, ha⟩ := effect_handleSlotReleased env p sid σ
      refine ⟨[a], Run.single ⟨heffect, ?_⟩⟩
      rcases ha with rfl | rfl | ⟨r, room, hroom, hsid, rfl | rfl⟩
      · trivial
      · trivial
      · exact ⟨k, sid, rfl, rfl, room, hroom, hsid⟩
      · exact ⟨k, sid, rfl, rfl, room, hroom, hsid⟩
  | gameServerHeartbeat serverId activeSessions =>
      refine ⟨[.quiet], Run.single ⟨effect_quiet ?_ (Emits.of_sent_eq rfl) ?_, trivial⟩⟩
      · rfl
      · exact Draws.redisCall (activeSessionsKey_ne_game_server _) rfl
  | _ => exact ⟨[], Run.nil⟩

/-- The game server's messages make no client hear anything. -/
theorem sent_processInternalMessage (env : Env) (store : SessionStore) (k : SessionPtr)
    (envelope : Envelope) (σ : RoomServer) :
    (σ.processInternalMessage env store k envelope).sent = σ.sent := by
  cases envelope with
  | slotReleased p sid => exact sent_handleSlotReleased env p sid σ
  | tokenValidateRequest authToken =>
      simp only [processInternalMessage, handleTokenValidate]
      split
      · rfl
      · rfl
  | _ => rfl

theorem emits_closeGameServer {P : Delivery → Prop} (env : Env) (k : SessionPtr)
    (σ : RoomServer)
    (hreject : ∀ q t, P ⟨t, some q, .reject ⟨.roomClosed, "Game server disconnected"⟩⟩) :
    Emits P σ (σ.closeGameServer env k) := by
  unfold closeGameServer
  split
  · exact Emits.refl σ
  · simp only
    split
    · exact (Emits.of_sent_eq rfl).trans (emits_endGames env hreject _ _)
    · exact Emits.of_sent_eq rfl

theorem run_closeGameServer (env : Env) (σ : RoomServer) (k : SessionPtr) :
    ∃ as, Run (Change env σ (.gameServerClose k)) σ as (σ.closeGameServer env k) := by
  unfold closeGameServer
  split
  · exact ⟨[], Run.nil⟩
  next hopen =>
  have hshut : Change env σ (.gameServerClose k) σ .quiet
      (σ.updateGameServer k fun g => { g with closed := true }) :=
    ⟨effect_quiet rfl (Emits.of_sent_eq rfl) (Draws.refl _), trivial⟩
  simp only
  split
  · next hserver =>
      obtain ⟨as, hrun, has⟩ := run_handleGameServerDisconnect env
        (σ.updateGameServer k fun g => { g with closed := true })
      have hnamed : (σ.gameServers k).serverId ≠ "" := by
        simpa [updateGameServer] using hserver
      refine ⟨_, Run.cons hshut ((hrun.and_of_forall has).mono ?_)⟩
      rintro x a y ⟨heffect, r, rfl⟩
      exact ⟨heffect, k, rfl, by simpa using hopen, hnamed⟩
  · exact ⟨_, Run.single hshut⟩

/-- The room list goes to sessions that are in the lobby, and the dead ones drop
out of it. -/
theorem broadcastRoomListToLobby_spec {P : Delivery → Prop} (σ : RoomServer)
    (hP : ∀ s response, P ⟨s, none, .roomListResponse response⟩) :
    σ.broadcastRoomListToLobby.registry = σ.registry ∧
      σ.broadcastRoomListToLobby.backend = σ.backend ∧
      Emits P σ σ.broadcastRoomListToLobby := by
  have hsends : ∀ (l : List SessionPtr) (response : RoomListResponse) (τ : RoomServer),
      let υ := l.foldl (fun τ s => τ.send s none (.roomListResponse response)) τ
      υ.registry = τ.registry ∧ υ.backend = τ.backend ∧ Emits P τ υ := by
    intro l response
    induction l with
    | nil => exact fun τ => ⟨rfl, rfl, Emits.refl τ⟩
    | cons s l ih =>
        intro τ
        obtain ⟨hreg, hback, hsent⟩ := ih (τ.send s none (.roomListResponse response))
        exact ⟨hreg, hback, ((Emits.refl τ).send (hP s response)).trans hsent⟩
  have hdrops : ∀ (l : List SessionPtr) (τ : RoomServer),
      let υ := l.foldl removeLobbySession τ
      υ.registry = τ.registry ∧ υ.backend = τ.backend ∧ υ.sent = τ.sent := by
    intro l
    induction l with
    | nil => exact fun τ => ⟨rfl, rfl, rfl⟩
    | cons s l ih => exact fun τ => ih (τ.removeLobbySession s)
  unfold broadcastRoomListToLobby
  split
  · exact ⟨rfl, rfl, Emits.refl σ⟩
  · generalize List.partition _ σ.manager.lobbySessions.keyList = parts
    simp only
    generalize hresponse : ({ rooms := _, totalRooms := _ } : RoomListResponse) = response
    obtain ⟨hreg, hback, hsent⟩ := hsends parts.1 response σ
    obtain ⟨hreg', hback', hsent'⟩ := hdrops parts.2
      (parts.1.foldl (fun τ s => τ.send s none (.roomListResponse response)) σ)
    exact ⟨hreg'.trans hreg, hback'.trans hback, hsent.trans (Emits.of_sent_eq hsent')⟩

theorem effect_lobbyTimerHandler (env : Env) (cancelled : Bool) (σ : RoomServer) :
    Effect env σ .quiet (σ.lobbyTimerHandler cancelled) := by
  unfold lobbyTimerHandler
  cases cancelled with
  | true => exact effect_quiet rfl (Emits.of_sent_eq rfl) (Draws.refl _)
  | false =>
      simp only [Bool.false_eq_true, if_false]
      generalize hτ : ({ σ with manager := _ } : RoomServer) = τ
      have hreg : τ.registry = σ.registry := by rw [← hτ]; rfl
      have hback : τ.backend = σ.backend := by rw [← hτ]
      have hsent : τ.sent = σ.sent := by rw [← hτ]
      obtain ⟨hreg', hback', hsent'⟩ := broadcastRoomListToLobby_spec τ
        (P := Action.quiet.Sends σ.registry) fun _ _ => trivial
      refine effect_quiet (hreg'.trans hreg) ((Emits.of_sent_eq hsent).trans hsent') ?_
      rw [hback', hback]
      exact Draws.refl _

/-- A step of the server is a run of changes, each with its cause in the
input. -/
theorem run_step {env : Env} {σ τ : RoomServer} {i : Input} (h : Step env σ i τ) :
    ∃ as, Run (Change env σ i) σ as τ := by
  cases i with
  | connect s remoteIp =>
      obtain ⟨hunborn, rfl⟩ := Option.ite_some_none_eq_some.1 h
      refine ⟨[.accept s remoteIp], Run.single ⟨Effect.of_silent rfl ?_ ?_ rfl rfl, rfl⟩⟩
      · exact Act.accept hunborn
      · exact Emits.of_sent_eq rfl
  | clientMessage s envelope =>
      obtain ⟨-, rfl⟩ := Option.ite_some_none_eq_some.1 h
      exact run_processMessage env σ s envelope
  | clientClose s =>
      obtain ⟨hopen, rfl⟩ := Option.ite_some_none_eq_some.1 h
      refine run_closeClient rfl rfl rfl ?_
      simp only [ClientSession.isOpen, Bool.and_eq_true, Bool.not_eq_true'] at hopen
      exact hopen.2
  | clientReleased s =>
      obtain ⟨hclosed, rfl⟩ := Option.ite_some_none_eq_some.1 h
      refine ⟨[.expire s], Run.single ⟨Effect.of_silent rfl ?_ ?_ rfl rfl, rfl⟩⟩
      · exact Act.expire hclosed.2
      · exact Emits.of_sent_eq rfl
  | gameServerConnect k =>
      obtain ⟨-, rfl⟩ := Option.ite_some_none_eq_some.1 h
      exact ⟨[.quiet], Run.single
        ⟨effect_quiet rfl (Emits.of_sent_eq rfl) (Draws.refl _), trivial⟩⟩
  | gameServerMessage k envelope =>
      obtain ⟨store, -, -, rfl⟩ := h.gameServerMessage_inv
      exact run_processInternalMessage env store σ k envelope
  | gameServerClose k =>
      obtain ⟨-, rfl⟩ := Option.ite_some_none_eq_some.1 h
      exact run_closeGameServer env σ k
  | lobbyTimer cancelled =>
      obtain ⟨-, rfl⟩ := Option.ite_some_none_eq_some.1 h
      exact ⟨[.quiet], Run.single ⟨effect_lobbyTimerHandler env cancelled σ, trivial⟩⟩
  | chatLink connected =>
      obtain rfl := Option.some.inj h
      refine ⟨[.link connected], Run.single ⟨⟨?_, Emits.of_sent_eq rfl, rfl, ?_⟩, rfl⟩⟩
      · exact Act.link
      · intro _ S hS
        simp only [Action.activeAfter, Action.ended, ite_self]
        exact hS
  | tick seconds =>
      obtain rfl := Option.some.inj h
      refine ⟨[.quiet], Run.single ⟨effect_quiet rfl (Emits.of_sent_eq rfl) ?_, trivial⟩⟩
      exact ⟨le_refl _, rfl, fun S hS => hS.advance seconds⟩

/-- The identifiers that have been issued stay issued. -/
theorem issued_step {env : Env} {σ τ : RoomServer} {i : Input} (h : Step env σ i τ) :
    σ.registry.issued ≤ τ.registry.issued := by
  obtain ⟨as, hrun⟩ := run_step h
  exact hrun.invariant (I := fun x => σ.registry.issued ≤ x.registry.issued)
    (fun _ _ _ hchange hle => hle.trans hchange.1.act.issued_le) le_rfl

end Room

end SosBackend
