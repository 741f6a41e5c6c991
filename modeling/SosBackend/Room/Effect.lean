import SosBackend.Library.Appends
import SosBackend.Room.Registry

/-!
# The handlers refine the registry

`Effect env σ a τ` says that the server got from `σ` to `τ` by the change `a` of
its registry, which messages to clients can come with it, what it tells the Chat
Server and what it does to the set of active sessions in Redis. Each handler has
an effect, and a step of the server is a run of effects, each with its `Cause`
in the input.
-/

namespace SosBackend

namespace Room

open RoomServer

/-!
## What comes with a change
-/

/-- The deliveries from one state of the server to a later one all satisfy `P`. -/
def Emits (P : Delivery → Prop) (σ τ : RoomServer) : Prop :=
  Appends P σ.sent τ.sent

theorem sent_returnToLobby (σ : RoomServer) (p : String) :
    (σ.returnToLobby p).sent = σ.sent := by
  rw [returnToLobby]
  cases σ.lock p with
  | none => rfl
  | some s => rfl

theorem sent_notifyRoomListChanged (σ : RoomServer) :
    σ.notifyRoomListChanged.sent = σ.sent := by
  rw [notifyRoomListChanged]
  split
  · rfl
  · split
    · rfl
    · rfl

namespace Emits

variable {P Q : Delivery → Prop} {σ τ υ : RoomServer}

theorem refl (σ : RoomServer) : Emits P σ σ :=
  Appends.refl σ.sent

theorem trans (h : Emits P σ τ) (h' : Emits P τ υ) : Emits P σ υ :=
  Appends.trans h h'

theorem mono (h : Emits P σ τ) (hPQ : ∀ d, P d → Q d) : Emits Q σ τ :=
  Appends.mono h hPQ

theorem of_sent_eq (h : τ.sent = σ.sent) : Emits P σ τ :=
  Appends.of_eq h

theorem subset (h : Emits P σ τ) {d : Delivery} (hd : d ∈ σ.sent) : d ∈ τ.sent :=
  Appends.subset h hd

theorem send (h : Emits P σ τ) {s : SessionPtr} {addressee : Option String}
    {envelope : Envelope} (hP : P ⟨s, addressee, envelope⟩) :
    Emits P σ (τ.send s addressee envelope) :=
  h.trans (Appends.push hP)

theorem sendTo (h : Emits P σ τ) {p : String} {envelope : Envelope}
    (hP : ∀ s, P ⟨s, some p, envelope⟩) : Emits P σ (τ.sendTo p envelope) := by
  rw [RoomServer.sendTo]
  cases τ.lock p with
  | none => exact h
  | some s => exact h.send (hP s)

theorem broadcast (h : Emits P σ τ) {ids : List String} {envelope : Envelope}
    (hP : ∀ p ∈ ids, ∀ s, P ⟨s, some p, envelope⟩) :
    Emits P σ (τ.broadcast ids envelope) := by
  rw [RoomServer.broadcast]
  induction ids generalizing τ with
  | nil => exact h
  | cons p ids ih =>
      rw [List.foldl_cons]
      exact ih (h.sendTo (hP p List.mem_cons_self))
        fun q hq => hP q (List.mem_cons_of_mem p hq)

theorem notify (h : Emits P σ τ) : Emits P σ τ.notifyRoomListChanged :=
  h.trans (of_sent_eq (sent_notifyRoomListChanged τ))

theorem evictPlayers (h : Emits P σ τ) (ids : List String) :
    Emits P σ (τ.evictPlayers ids) := by
  rw [RoomServer.evictPlayers]
  induction ids generalizing τ with
  | nil => exact h
  | cons p ids ih =>
      rw [List.foldl_cons]
      exact ih (h.trans (of_sent_eq (sent_returnToLobby τ p)))

end Emits

namespace Action

/-- The deliveries that say something about the change they come with: a game
start goes to a player of the room that starts, under its session id; an answer
to a join goes to the session that joins; and a player is told that the game
server is busy while it is. -/
def Sends (v : Registry) (a : Action) (d : Delivery) : Prop :=
  match d.envelope with
  | .gameStart game => ∃ p r room q, a = .start p r game.sessionId ∧
      v.rooms r = some room ∧ q ∈ room.playerIds ∧ d.addressee = some q
  | .joinRoomResponse _ => ∃ request, a = .join request d.session
  | .reject reject => reject.reason = .gameServerBusy → v.Busy
  | _ => True

/-- The session id of the room that a change ends. -/
def ended (v : Registry) : Action → Option String
  | .releaseLast _ r => (v.rooms r).map Room.sessionId
  | .endGame r => (v.rooms r).map Room.sessionId
  | _ => none

/-- What a change makes the Room Server tell the Chat Server. -/
def announcement (v : Registry) : Action → List Chat.ChatEnvelope
  | .start _ r sessionId =>
      match v.rooms r with
      | none => []
      | some room => [.sessionCreated ⟨sessionId,
          room.players.map fun player => ⟨player.playerId, player.playerName⟩⟩]
  | a =>
      match a.ended v with
      | none => []
      | some sessionId => if sessionId != "" then [.sessionEnded ⟨sessionId⟩] else []

/-- The link to the Chat Server after a change. -/
def chatAfter (env : Env) (v : Registry) (a : Action) (chat : ChatServerChannel) :
    ChatServerChannel :=
  match a with
  | .link connected => { chat with connected := connected }
  | a =>
      if env.chatChannel && chat.connected then
        { chat with sent := chat.sent ++ a.announcement v }
      else chat

/-- The active sessions in Redis after a change. -/
def activeAfter (env : Env) (v : Registry) (a : Action) (S : Set String) : Set String :=
  if env.sessionStore.isSome then
    match a with
    | .start _ _ sessionId => insert sessionId S
    | a =>
        match a.ended v with
        | none => S
        | some sessionId => S \ {sessionId}
  else S

end Action

/-- The key under which the active sessions are. -/
abbrev activeSessionsKey : String := "active_sessions"

/-- The server got from `σ` to `τ` by the change `a`. -/
structure Effect (env : Env) (σ : RoomServer) (a : Action) (τ : RoomServer) : Prop where
  act : Act env σ.registry a τ.registry
  sent : Emits (a.Sends σ.registry) σ τ
  chat : τ.backend.chat = a.chatAfter env σ.registry σ.backend.chat
  active : (∀ n, env.outcome n = .answered) → ∀ S,
    Redis.HoldsSet σ.backend.redis.store activeSessionsKey S →
    Redis.HoldsSet τ.backend.redis.store activeSessionsKey
      (a.activeAfter env σ.registry S)

namespace Action

/-- The changes that neither start nor end a session nor concern the link. -/
def silent : Action → Bool
  | .start _ _ _ => false
  | .releaseLast _ _ => false
  | .endGame _ => false
  | .link _ => false
  | _ => true

theorem chatAfter_of_silent {a : Action} (h : a.silent = true) (env : Env) (v : Registry)
    (chat : ChatServerChannel) : a.chatAfter env v chat = chat := by
  cases a <;> first
    | exact absurd h Bool.false_ne_true
    | simp only [chatAfter, announcement, ended, List.append_nil, ite_self]

theorem activeAfter_of_silent {a : Action} (h : a.silent = true) (env : Env)
    (v : Registry) (S : Set String) : a.activeAfter env v S = S := by
  cases a <;> first
    | exact absurd h Bool.false_ne_true
    | simp only [activeAfter, ended, ite_self]

end Action

/-- A silent change that leaves everything behind the server as it is, up to the
count of identifiers. -/
theorem Effect.of_silent {env : Env} {σ τ : RoomServer} {a : Action}
    (hsilent : a.silent = true) (hact : Act env σ.registry a τ.registry)
    (hsent : Emits (a.Sends σ.registry) σ τ) (hchat : τ.backend.chat = σ.backend.chat)
    (hredis : τ.backend.redis = σ.backend.redis) : Effect env σ a τ where
  act := hact
  sent := hsent
  chat := by rw [Action.chatAfter_of_silent hsilent, hchat]
  active := fun _ S hS => by
    rw [Action.activeAfter_of_silent hsilent, hredis]
    exact hS

/-!
## What sending leaves alone
-/

@[simp] theorem backend_sendTo (σ : RoomServer) (p : String) (envelope : Envelope) :
    (σ.sendTo p envelope).backend = σ.backend := by
  rw [sendTo]
  cases σ.lock p with
  | none => rfl
  | some s => rfl

@[simp] theorem backend_broadcast (σ : RoomServer) (ids : List String)
    (envelope : Envelope) : (σ.broadcast ids envelope).backend = σ.backend := by
  rw [broadcast]
  induction ids generalizing σ with
  | nil => rfl
  | cons p ids ih => rw [List.foldl_cons, ih, backend_sendTo]

@[simp] theorem backend_notifyRoomListChanged (σ : RoomServer) :
    σ.notifyRoomListChanged.backend = σ.backend := by
  rw [notifyRoomListChanged]
  split
  · rfl
  · split
    · rfl
    · rfl

@[simp] theorem backend_returnToLobby (σ : RoomServer) (p : String) :
    (σ.returnToLobby p).backend = σ.backend := by
  rw [returnToLobby]
  cases σ.lock p with
  | none => rfl
  | some s => rfl

@[simp] theorem backend_evictPlayers (σ : RoomServer) (ids : List String) :
    (σ.evictPlayers ids).backend = σ.backend := by
  rw [evictPlayers]
  induction ids generalizing σ with
  | nil => rfl
  | cons p ids ih =>
      rw [List.foldl_cons, ih]
      exact backend_returnToLobby σ p

@[simp] theorem backend_removeRoom (σ : RoomServer) (r p : String) :
    (σ.removeRoom r p).backend = σ.backend := by
  rw [removeRoom]
  cases σ.manager.rooms.find? r with
  | none => rfl
  | some room =>
      refine (backend_evictPlayers _ _).trans ?_
      exact backend_broadcast _ _ _

theorem emits_removeRoom {P : Delivery → Prop} {σ τ : RoomServer} (h : Emits P σ τ)
    (r p : String)
    (hP : ∀ q s, P ⟨s, some q, .reject ⟨.roomClosed, "Room closed by host"⟩⟩) :
    Emits P σ (τ.removeRoom r p) := by
  rw [removeRoom]
  cases τ.manager.rooms.find? r with
  | none => exact h
  | some room =>
      exact ((h.broadcast fun q _ => hP q).evictPlayers _).trans (Emits.of_sent_eq rfl)

/-!
## Create and join
-/

theorem lock_eq_some {σ : RoomServer} {p : String} {s : SessionPtr} :
    σ.lock p = some s ↔
      σ.registry.sessions p = some s ∧ (σ.registry.clients s).lifetime = .alive := by
  rw [lock, Option.filter_eq_some_iff, beq_iff_eq]
  rfl

/-- A lookup needs the registered session and its lifetime. -/
theorem lock_congr_at {σ τ : RoomServer} {p : String}
    (hsession : τ.registry.sessions p = σ.registry.sessions p)
    (hlifetime : ∀ t, (τ.clients t).lifetime = (σ.clients t).lifetime) :
    τ.lock p = σ.lock p := by
  have hfind : τ.manager.sessions.find? p = σ.manager.sessions.find? p := hsession
  simp only [lock, hfind, hlifetime]

theorem lock_congr {σ τ : RoomServer} (hsessions : τ.registry.sessions = σ.registry.sessions)
    (hlifetime : ∀ t, (τ.clients t).lifetime = (σ.clients t).lifetime) (p : String) :
    τ.lock p = σ.lock p :=
  lock_congr_at (congrFun hsessions p) hlifetime

theorem lock_of_registry {σ τ : RoomServer} (h : τ.registry = σ.registry) (p : String) :
    τ.lock p = σ.lock p := by
  apply lock_congr
  · rw [h]
  · intro t
    exact congrArg (fun v : Registry => (v.clients t).lifetime) h

/-- A broadcast reaches the live sessions that are registered for the players. -/
theorem sent_broadcast (σ : RoomServer) (ids : List String) (envelope : Envelope) :
    (σ.broadcast ids envelope).sent = σ.sent ++ ids.filterMap fun p =>
      (σ.lock p).map fun s => ⟨s, some p, envelope⟩ := by
  induction ids generalizing σ with
  | nil => exact (List.append_nil _).symm
  | cons p ids ih =>
      have hlock := lock_of_registry (registry_sendTo σ p envelope)
      have hcons : σ.broadcast (p :: ids) envelope =
          (σ.sendTo p envelope).broadcast ids envelope := rfl
      rw [hcons, ih]
      simp only [hlock]
      unfold sendTo
      cases hp : σ.lock p with
      | none => rw [List.filterMap_cons_none (by rw [hp]; rfl)]
      | some s =>
          rw [List.filterMap_cons_some (by rw [hp]; rfl)]
          exact List.append_assoc _ _ _

theorem admits_of_identityRejection {σ : RoomServer} {p : String} {s : SessionPtr}
    (h : σ.identityRejection p s = none) : σ.registry.Admits p s := by
  unfold identityRejection at h
  split at h
  · cases h
  next hunshared =>
  split at h
  · cases h
  next hsame =>
  split at h
  · cases h
  next houtside =>
  refine ⟨?_, ?_, ?_⟩
  · intro t ht halive
    have hlock : σ.lock p = some t := lock_eq_some.2 ⟨ht, halive⟩
    simpa [hlock] using hunshared
  · by_cases hempty : (σ.clients s).playerId = ""
    · exact Or.inl hempty
    · exact Or.inr (by simpa [registry, hempty] using hsame)
  · rw [Bool.not_eq_true] at houtside
    exact UnorderedMap.contains_eq_false_iff.1 houtside

theorem atMost_size (σ : RoomServer) : σ.registry.AtMost σ.manager.rooms.size := by
  refine ⟨σ.manager.rooms.keyList, fun r hr => UnorderedMap.mem_keyList.2 hr, ?_⟩
  rw [UnorderedMap.size_eq_length_keyList]

/-- What `createRejection` lets through. -/
theorem of_createRejection_eq_none {env : Env} {σ : RoomServer}
    {request : CreateRoomRequest} {s : SessionPtr}
    (h : σ.createRejection env request s = none) :
    σ.registry.Admits request.playerId s ∧
      σ.manager.rooms.size < env.maxRooms.toNat ∧
      1 ≤ request.maxPlayers ∧ request.maxPlayers ≤ env.maxPlayersPerRoom := by
  unfold createRejection at h
  cases hid : σ.identityRejection request.playerId s with
  | some reject => rw [hid] at h; cases h
  | none =>
      rw [hid] at h
      simp only at h
      split at h
      · cases h
      next hcount =>
      split at h
      · cases h
      next hmax =>
      rw [not_or, UInt32.not_lt, UInt32.not_lt] at hmax
      exact ⟨admits_of_identityRejection hid, Nat.lt_of_not_le hcount, hmax.1, hmax.2⟩

/-- No answer of the identity checks says that the game server is busy. -/
theorem reason_identityRejection {σ : RoomServer} {p : String} {s : SessionPtr}
    {reject : RejectResponse} (h : σ.identityRejection p s = some reject) :
    reject.reason ≠ .gameServerBusy := by
  unfold identityRejection at h
  split at h
  · cases h
    intro hbusy
    cases hbusy
  split at h
  · cases h
    intro hbusy
    cases hbusy
  split at h
  · cases h
    intro hbusy
    cases hbusy
  · cases h

theorem reason_createRejection {env : Env} {σ : RoomServer} {request : CreateRoomRequest}
    {s : SessionPtr} {reject : RejectResponse}
    (h : σ.createRejection env request s = some reject) :
    reject.reason ≠ .gameServerBusy := by
  unfold createRejection at h
  cases hid : σ.identityRejection request.playerId s with
  | some reject' =>
      rw [hid] at h
      cases h
      exact reason_identityRejection hid
  | none =>
      rw [hid] at h
      simp only at h
      split at h
      · cases h
        intro hbusy
        cases hbusy
      split at h
      · cases h
        intro hbusy
        cases hbusy
      · cases h

/-- A refusal changes nothing but what has been sent. -/
theorem effect_sendRejectTo (env : Env) (σ : RoomServer) (s : SessionPtr)
    {reject : RejectResponse} (h : reject.reason ≠ .gameServerBusy) :
    Effect env σ .quiet (σ.sendRejectTo s reject) :=
  Effect.of_silent rfl Act.quiet
    ((Emits.refl σ).send fun hbusy => absurd hbusy h) rfl rfl

/-- The registry after a `CreateRoom` that is accepted. -/
theorem registry_handleCreateRoom {env : Env} {request : CreateRoomRequest} {s : SessionPtr}
    {σ : RoomServer} (h : σ.createRejection env request s = none) :
    (σ.handleCreateRoom env request s).registry =
      (({ σ.registry with issued := σ.backend.uuidsIssued + 1 } : Registry).setRoom
        (env.uuid σ.backend.uuidsIssued) (some (Room.create (env.uuid σ.backend.uuidsIssued)
          request.roomName request.playerId request.playerName request.maxPlayers))).enter
        request.playerId (env.uuid σ.backend.uuidsIssued) s := by
  simp only [handleCreateRoom, h, registry_notifyRoomListChanged, registry_send,
    registry_removeLobbySession, registry_registerSession, registry_setPlayerId,
    registry_enterRoom, registry_insertRoom]
  rfl

theorem sent_handleCreateRoom {env : Env} {request : CreateRoomRequest} {s : SessionPtr}
    {σ : RoomServer}
    (h : σ.createRejection env request s = none) :
    (σ.handleCreateRoom env request s).sent = σ.sent ++ [⟨s, none, .createRoomResponse
      { success := true
        room := (Room.create (env.uuid σ.backend.uuidsIssued) request.roomName
          request.playerId request.playerName request.maxPlayers).toRoomInfo }⟩] := by
  simp only [handleCreateRoom, h, sent_notifyRoomListChanged]
  rfl

theorem effect_handleCreateRoom (env : Env) (request : CreateRoomRequest) (s : SessionPtr)
    (σ : RoomServer) :
    ∃ a, Effect env σ a (σ.handleCreateRoom env request s) ∧
      (a = .quiet ∨ σ.createRejection env request s = none ∧
        a = .create request s (env.uuid σ.backend.uuidsIssued)) := by
  cases hreject : σ.createRejection env request s with
  | some reject =>
      simp only [handleCreateRoom, hreject]
      exact ⟨.quiet, effect_sendRejectTo env σ s (reason_createRejection hreject), Or.inl rfl⟩
  | none =>
      obtain ⟨hadmits, hcount, hmin, hmax⟩ := of_createRejection_eq_none hreject
      refine ⟨_, Effect.of_silent rfl ?_ ?_ ?_ ?_, Or.inr ⟨rfl, rfl⟩⟩
      · rw [registry_handleCreateRoom hreject]
        exact Act.create hadmits ⟨_, hcount, atMost_size σ⟩ hmin hmax
      · simp only [handleCreateRoom, hreject]
        exact ((Emits.of_sent_eq rfl).send trivial).notify
      · simp only [handleCreateRoom, hreject, backend_notifyRoomListChanged]
        rfl
      · simp only [handleCreateRoom, hreject, backend_notifyRoomListChanged]
        rfl

/-- What `joinableRoom` lets through. -/
theorem of_joinableRoom_eq_ok {σ : RoomServer} {request : JoinRoomRequest}
    {s : SessionPtr} {room : Room} (h : σ.joinableRoom request s = .ok room) :
    σ.registry.Admits request.playerId s ∧
      σ.registry.rooms request.roomId = some room ∧
      room.state = .waiting ∧ room.isFull = false := by
  unfold joinableRoom at h
  cases hid : σ.identityRejection request.playerId s with
  | some reject => rw [hid] at h; cases h
  | none =>
      cases hroom : σ.manager.rooms.find? request.roomId with
      | none => rw [hid, hroom] at h; cases h
      | some room' =>
          rw [hid, hroom] at h
          simp only at h
          split at h
          · cases h
          next hstate =>
          split at h
          · cases h
          next hfull =>
          cases h
          exact ⟨admits_of_identityRejection hid, hroom, by simpa using hstate,
            by simpa using hfull⟩

theorem reason_joinableRoom {σ : RoomServer} {request : JoinRoomRequest} {s : SessionPtr}
    {reject : RejectResponse} (h : σ.joinableRoom request s = .error reject) :
    reject.reason ≠ .gameServerBusy := by
  unfold joinableRoom at h
  cases hid : σ.identityRejection request.playerId s with
  | some reject' =>
      rw [hid] at h
      cases h
      exact reason_identityRejection hid
  | none =>
      cases hroom : σ.manager.rooms.find? request.roomId with
      | none =>
          rw [hid, hroom] at h
          cases h
          intro hbusy
          cases hbusy
      | some room =>
          rw [hid, hroom] at h
          simp only at h
          split at h
          · cases h
            intro hbusy
            cases hbusy
          split at h
          · cases h
            intro hbusy
            cases hbusy
          · cases h

/-- The registry after a `JoinRoom` that is accepted. -/
theorem registry_handleJoinRoom {request : JoinRoomRequest} {s : SessionPtr} {σ : RoomServer}
    {room : Room} (h : σ.joinableRoom request s = .ok room) :
    (σ.handleJoinRoom request s).registry = (σ.registry.setRoom request.roomId
      (some (room.addPlayer request.playerId request.playerName).2)).enter
        request.playerId request.roomId s := by
  obtain ⟨-, hroom, -⟩ := of_joinableRoom_eq_ok h
  simp only [handleJoinRoom, h, registry_notifyRoomListChanged, registry_broadcastToRoomExcept,
    registry_send, registry_removeLobbySession, registry_registerSession, registry_setPlayerId,
    registry_enterRoom, registry_modifyRoom hroom]
  rfl

theorem effect_handleJoinRoom (env : Env) (request : JoinRoomRequest) (s : SessionPtr)
    (σ : RoomServer) :
    ∃ a, Effect env σ a (σ.handleJoinRoom request s) ∧
      (a = .quiet ∨ (∃ room, σ.joinableRoom request s = .ok room) ∧
        a = .join request s) := by
  cases hjoin : σ.joinableRoom request s with
  | error reject =>
      simp only [handleJoinRoom, hjoin]
      exact ⟨.quiet, effect_sendRejectTo env σ s (reason_joinableRoom hjoin), Or.inl rfl⟩
  | ok room =>
      obtain ⟨hadmits, hroom, hstate, hfull⟩ := of_joinableRoom_eq_ok hjoin
      refine ⟨_, Effect.of_silent rfl ?_ ?_ ?_ ?_, Or.inr ⟨⟨room, rfl⟩, rfl⟩⟩
      · rw [registry_handleJoinRoom hjoin]
        exact Act.join hadmits hroom hstate hfull
      · simp only [handleJoinRoom, hjoin]
        exact (((Emits.of_sent_eq rfl).send ⟨request, rfl⟩).broadcast
          fun _ _ _ => trivial).notify
      · simp only [handleJoinRoom, hjoin, backend_notifyRoomListChanged, broadcastToRoomExcept,
          backend_broadcast]
        rfl
      · simp only [handleJoinRoom, hjoin, backend_notifyRoomListChanged, broadcastToRoomExcept,
          backend_broadcast]
        rfl

/-!
## Leave and ready
-/

/-- The changes that a player leaving its room can be. -/
def Action.IsDeparture (v : Registry) (p : String) (a : Action) : Prop :=
  (a = .quiet ∧ v.playerToRoom p = none) ∨ a = .forget p ∨ (∃ r, a = .leave p r) ∨
    ∃ r, a = .closeRoom p r

/-- Closing the room of a host that has left it is closing the room with the
host still in it. -/
theorem registry_closeRoom (v : Registry) (p r : String) (room : Room) :
    (((v.setRoom r (some (room.removePlayer p))).setPlayerToRoom p none).setRoom r
      none).evict (room.removePlayer p).playerIds =
      (v.setRoom r none).evict (p :: room.playerIds) := by
  simp only [Registry.evict, Registry.setPlayerToRoom, Registry.setRoom,
    Registry.mk.injEq, Function.update_idem, and_true, true_and]
  funext q
  rw [Function.update_apply, Room.playerIds_removePlayer]
  by_cases hq : q = p
  · simp [hq]
  · simp [hq, List.mem_erase_of_ne hq]

theorem effect_handleLeaveRoom (env : Env) (p : String) (σ : RoomServer) :
    ∃ a, Effect env σ a (σ.handleLeaveRoom p) ∧ a.IsDeparture σ.registry p := by
  cases hp : σ.manager.playerToRoom.find? p with
  | none =>
      simp only [handleLeaveRoom, hp]
      exact ⟨.quiet, Effect.of_silent rfl Act.quiet (Emits.refl σ) rfl rfl,
        Or.inl ⟨rfl, hp⟩⟩
  | some r =>
  cases hroom : σ.manager.rooms.find? r with
  | none =>
      simp only [handleLeaveRoom, hp, hroom]
      refine ⟨.forget p, Effect.of_silent rfl ?_ (Emits.of_sent_eq rfl) rfl rfl,
        Or.inr (Or.inl rfl)⟩
      simp only [registry_exitRoom]
      exact Act.forget hp hroom
  | some room =>
  have hreg : σ.registry.rooms r = some room := hroom
  cases hhost : room.isHost p with
  | true =>
      simp only [handleLeaveRoom, hp, hroom, hhost, if_true]
      have hleft : ((σ.modifyRoom r fun _ => room.removePlayer p).exitRoom
          p).registry.rooms r = some (room.removePlayer p) := by
        rw [registry_exitRoom, registry_modifyRoom hreg]
        exact Function.update_self r _ _
      refine ⟨.closeRoom p r, Effect.of_silent rfl ?_ ?_ ?_ ?_,
        Or.inr (Or.inr (Or.inr ⟨r, rfl⟩))⟩
      · rw [registry_notifyRoomListChanged, registry_removeRoom hleft, registry_exitRoom,
          registry_modifyRoom hreg, registry_closeRoom]
        exact Act.closeRoom hp hreg hhost
      · refine (emits_removeRoom (Emits.of_sent_eq rfl) r p ?_).notify
        intro d _ hstart
        cases hstart
      · rw [backend_notifyRoomListChanged, backend_removeRoom]
        rfl
      · rw [backend_notifyRoomListChanged, backend_removeRoom]
        rfl
  | false =>
      simp only [handleLeaveRoom, hp, hroom, hhost, Bool.false_eq_true, if_false]
      refine ⟨.leave p r, Effect.of_silent rfl ?_ ?_ ?_ ?_,
        Or.inr (Or.inr (Or.inl ⟨r, rfl⟩))⟩
      · have hact : Act env σ.registry (.leave p r)
            ((σ.modifyRoom r fun _ => room.removePlayer p).exitRoom p).registry := by
          rw [registry_exitRoom, registry_modifyRoom hreg]
          exact Act.leave hp hreg hhost
        rw [registry_notifyRoomListChanged]
        split
        · rw [registry_broadcastToRoom]
          exact hact
        · exact hact
      · refine Emits.notify ?_
        split
        · exact (Emits.of_sent_eq rfl).broadcast fun _ _ _ => trivial
        · exact Emits.of_sent_eq rfl
      · rw [backend_notifyRoomListChanged]
        split
        · rw [broadcastToRoom, backend_broadcast]
          rfl
        · rfl
      · rw [backend_notifyRoomListChanged]
        split
        · rw [broadcastToRoom, backend_broadcast]
          rfl
        · rfl

theorem effect_handleToggleReady (env : Env) (p : String) (σ : RoomServer) :
    ∃ a, Effect env σ a (σ.handleToggleReady p) ∧
      (a = .quiet ∨ ∃ r, a = .toggle p r) := by
  have hquiet : Effect env σ .quiet σ :=
    Effect.of_silent rfl Act.quiet (Emits.refl σ) rfl rfl
  cases hp : σ.manager.playerToRoom.find? p with
  | none =>
      simp only [handleToggleReady, hp]
      exact ⟨.quiet, hquiet, Or.inl rfl⟩
  | some r =>
  cases hroom : σ.manager.rooms.find? r with
  | none =>
      simp only [handleToggleReady, hp, hroom]
      exact ⟨.quiet, hquiet, Or.inl rfl⟩
  | some room =>
  cases hhost : room.isHost p with
  | true =>
      simp only [handleToggleReady, hp, hroom, hhost, if_true]
      exact ⟨.quiet, hquiet, Or.inl rfl⟩
  | false =>
      simp only [handleToggleReady, hp, hroom, hhost, Bool.false_eq_true, if_false]
      refine ⟨.toggle p r, Effect.of_silent rfl ?_ ?_ ?_ ?_, Or.inr ⟨r, rfl⟩⟩
      · rw [registry_broadcastToRoom, registry_modifyRoom hroom]
        exact Act.toggle hp hroom hhost
      · exact (Emits.of_sent_eq rfl).broadcast fun _ _ _ => trivial
      · rw [broadcastToRoom, backend_broadcast]
        rfl
      · rw [broadcastToRoom, backend_broadcast]
        rfl

/-!
## Start
-/

theorem activeSessionsKey_ne_token (x : String) : activeSessionsKey ≠ "token:" ++ x := by
  intro h
  have hlist := congrArg String.toList h
  simp [activeSessionsKey, String.toList_append] at hlist

theorem activeSessionsKey_ne_game_server (x : String) :
    activeSessionsKey ≠ "game_server:" ++ x := by
  intro h
  have hlist := congrArg String.toList h
  simp [activeSessionsKey, String.toList_append] at hlist

theorem activeSessionsKey_ne_rate (x : String) : activeSessionsKey ≠ "rate:" ++ x := by
  intro h
  have hlist := congrArg String.toList h
  simp [activeSessionsKey, String.toList_append] at hlist

/-- Identifiers may have been drawn and keys written, but not that of the active
sessions, and nothing has been told to the Chat Server. -/
structure Draws (b b' : Backend) : Prop where
  issued : b.uuidsIssued ≤ b'.uuidsIssued
  chat : b'.chat = b.chat
  active : ∀ S, Redis.HoldsSet b.redis.store activeSessionsKey S →
    Redis.HoldsSet b'.redis.store activeSessionsKey S

namespace Draws

theorem refl (b : Backend) : Draws b b :=
  ⟨le_refl _, rfl, fun _ hS => hS⟩

theorem trans {b b' b'' : Backend} (h : Draws b b') (h' : Draws b' b'') : Draws b b'' :=
  ⟨h.issued.trans h'.issued, h'.chat.trans h.chat, fun S hS => h'.active S (h.active S hS)⟩

theorem generateUuid (env : Env) (b : Backend) : Draws b (b.generateUuid env).2 :=
  ⟨Nat.le_succ _, rfl, fun _ hS => hS⟩

theorem redisCall {ρ : Type*} {env : Env} {key : String}
    {f : ℕ → Option Redis.Entry → Option (ρ × Option Redis.Entry)} {b b' : Backend}
    {r : Option ρ} (hkey : activeSessionsKey ≠ key)
    (hcall : b.redisCall env (Redis.onKey key f) = (r, b')) : Draws b b' := by
  obtain ⟨-, rfl⟩ := Prod.mk.inj hcall
  exact ⟨le_refl _, rfl, fun S hS => hS.call_onKey hkey rfl⟩

theorem createToken {env : Env} {store : SessionStore} {p sid : String} {b b' : Backend}
    {r : Option String} (h : b.createToken env store p sid = (r, b')) : Draws b b' := by
  unfold Backend.createToken at h
  simp only at h
  split at h
  · next heq =>
      obtain ⟨-, rfl⟩ := Prod.mk.inj h
      exact (Draws.generateUuid env b).trans
        (Draws.redisCall (activeSessionsKey_ne_token _) heq)
  · next heq =>
      obtain ⟨-, rfl⟩ := Prod.mk.inj h
      exact (Draws.generateUuid env b).trans
        (Draws.redisCall (activeSessionsKey_ne_token _) heq)

theorem issueToken (env : Env) (p sid : String) (b : Backend) :
    Draws b (issueToken env p sid b).2 := by
  unfold RoomServer.issueToken
  cases env.sessionStore with
  | none => exact Draws.generateUuid env b
  | some store =>
      simp only
      split
      · next heq => exact Draws.createToken heq
      · next heq => exact (Draws.createToken heq).trans (Draws.generateUuid env _)

/-- The loop over the players of a room that starts. -/
theorem sendGameStarts (env : Env) (sid : String) (ids : List String) (σ : RoomServer) :
    Draws σ.backend (ids.foldl (sendGameStart env sid) σ).backend := by
  induction ids generalizing σ with
  | nil => exact Draws.refl _
  | cons p ids ih =>
      rw [List.foldl_cons]
      refine Draws.trans ?_ (ih _)
      simp only [sendGameStart, backend_sendTo]
      exact Draws.issueToken env p sid σ.backend

end Draws

theorem registry_sendGameStarts (env : Env) (sid : String) (ids : List String)
    (σ : RoomServer) :
    (ids.foldl (sendGameStart env sid) σ).registry = { σ.registry with
      issued := (ids.foldl (sendGameStart env sid) σ).backend.uuidsIssued } := by
  induction ids generalizing σ with
  | nil => rfl
  | cons p ids ih =>
      rw [List.foldl_cons, ih, sendGameStart, registry_sendTo]
      rfl

theorem emits_sendGameStarts {P : Delivery → Prop} {env : Env} {sid : String}
    {ids : List String} {σ τ : RoomServer} (h : Emits P σ τ)
    (hP : ∀ p ∈ ids, ∀ s game, game.sessionId = sid → P ⟨s, some p, .gameStart game⟩) :
    Emits P σ (ids.foldl (sendGameStart env sid) τ) := by
  induction ids generalizing τ with
  | nil => exact h
  | cons p ids ih =>
      rw [List.foldl_cons]
      refine ih ?_ fun q hq => hP q (List.mem_cons_of_mem p hq)
      simp only [sendGameStart]
      have hbackend : Emits P σ
          { τ with backend := (RoomServer.issueToken env p sid τ.backend).2 } :=
        h.trans (Emits.of_sent_eq rfl)
      exact hbackend.sendTo fun s => hP p List.mem_cons_self s _ rfl

/-- What reaches the Chat Server. -/
theorem chat_sendToChat (message : Chat.ChatEnvelope) (b : Backend) :
    (b.sendToChat message).chat = if b.chat.connected then
      { b.chat with sent := b.chat.sent ++ [message] } else b.chat := by
  unfold Backend.sendToChat
  split
  · rfl
  · rfl

@[simp] theorem redis_sendToChat (message : Chat.ChatEnvelope) (b : Backend) :
    (b.sendToChat message).redis = b.redis := by
  unfold Backend.sendToChat
  split
  · rfl
  · rfl

@[simp] theorem uuidsIssued_sendToChat (message : Chat.ChatEnvelope) (b : Backend) :
    (b.sendToChat message).uuidsIssued = b.uuidsIssued := by
  unfold Backend.sendToChat
  split
  · rfl
  · rfl

/-- Registering a session adds it to the active ones, where Redis answers. -/
theorem holdsSet_registerGameSession {env : Env} {b : Backend} {S : Set String}
    (hanswered : ∀ n, env.outcome n = .answered)
    (hS : Redis.HoldsSet b.redis.store activeSessionsKey S) (sid : String) :
    Redis.HoldsSet (b.registerGameSession env sid).redis.store activeSessionsKey
      (insert sid S) := by
  obtain ⟨n, ks, hcmd, hks⟩ := hS.sadd sid
  have hcall := Redis.call_answered (hanswered b.redis.issued) hcmd
  simp only [Backend.registerGameSession, Backend.redisCall, hcall]
  exact hks

/-- Unregistering a session takes it from the active ones, where Redis
answers. -/
theorem holdsSet_unregisterGameSession {env : Env} {b : Backend} {S : Set String}
    (hanswered : ∀ n, env.outcome n = .answered)
    (hS : Redis.HoldsSet b.redis.store activeSessionsKey S) (sid : String) :
    Redis.HoldsSet (b.unregisterGameSession env sid).redis.store activeSessionsKey
      (S \ {sid}) := by
  obtain ⟨n, ks, hcmd, hks⟩ := hS.srem sid
  have hcall := Redis.call_answered (hanswered b.redis.issued) hcmd
  simp only [Backend.unregisterGameSession, Backend.redisCall, hcall]
  exact hks

theorem hasActiveGame_iff {σ : RoomServer} :
    σ.hasActiveGame = true ↔ σ.registry.Busy := by
  simp only [hasActiveGame, List.any_eq_true, beq_iff_eq]
  refine ⟨?_, ?_⟩
  · rintro ⟨room, hmem, hstate⟩
    obtain ⟨r, hr⟩ := UnorderedMap.mem_values.1 hmem
    exact ⟨r, room, hr, hstate⟩
  · rintro ⟨r, room, hr, hstate⟩
    exact ⟨room, UnorderedMap.mem_values.2 ⟨r, hr⟩, hstate⟩

/-- What `startRejection` lets through. -/
theorem of_startRejection_eq_none {σ : RoomServer} {room : Room} {p : String}
    (h : σ.startRejection room p = none) :
    room.isHost p = true ∧ ¬ σ.registry.Busy ∧ room.canStart = true := by
  unfold startRejection at h
  split at h
  · cases h
  next hhost =>
  split at h
  · cases h
  next hidle =>
  split at h
  · cases h
  next hready =>
  exact ⟨by simpa using hhost, fun hbusy => hidle (hasActiveGame_iff.2 hbusy),
    by simpa using hready⟩

/-- A start is refused as busy only while a room is in game. -/
theorem busy_of_startRejection {σ : RoomServer} {room : Room} {p : String}
    {reject : RejectResponse} (h : σ.startRejection room p = some reject)
    (hreason : reject.reason = .gameServerBusy) : σ.registry.Busy := by
  unfold startRejection at h
  split at h
  · cases h; cases hreason
  split at h
  · next hactive => exact hasActiveGame_iff.1 hactive
  split at h
  · cases h; cases hreason
  · cases h

/-- The new session in Redis; the rest of the server is as it was. -/
theorem beginSession_spec (env : Env) (sid : String) (σ : RoomServer) :
    (σ.beginSession env sid).registry = σ.registry ∧
      (σ.beginSession env sid).sent = σ.sent ∧
      (σ.beginSession env sid).backend.chat = σ.backend.chat ∧
      ((∀ n, env.outcome n = .answered) → ∀ S,
        Redis.HoldsSet σ.backend.redis.store activeSessionsKey S →
        Redis.HoldsSet (σ.beginSession env sid).backend.redis.store activeSessionsKey
          (if env.sessionStore.isSome then insert sid S else S)) := by
  unfold beginSession
  cases env.sessionStore.isSome with
  | true =>
      refine ⟨registry_withBackend σ _ rfl, rfl, rfl, ?_⟩
      intro hanswered S hS
      exact holdsSet_registerGameSession hanswered hS sid
  | false => exact ⟨rfl, rfl, rfl, fun _ S hS => hS⟩

theorem announceSession_spec (env : Env) (sid : String) (room : Room) (σ : RoomServer) :
    (σ.announceSession env sid room).registry = σ.registry ∧
      (σ.announceSession env sid room).sent = σ.sent ∧
      (σ.announceSession env sid room).backend.redis = σ.backend.redis ∧
      (σ.announceSession env sid room).backend.chat =
        if env.chatChannel && σ.backend.chat.connected then
          { σ.backend.chat with sent := σ.backend.chat.sent ++ [.sessionCreated ⟨sid,
            room.players.map fun player => ⟨player.playerId, player.playerName⟩⟩] }
        else σ.backend.chat := by
  unfold announceSession
  cases env.chatChannel with
  | true =>
      refine ⟨registry_withBackend σ _ (uuidsIssued_sendToChat _ _), rfl,
        redis_sendToChat _ _, ?_⟩
      exact chat_sendToChat _ _
  | false => exact ⟨rfl, rfl, rfl, rfl⟩

theorem effect_startRoom {env : Env} {p r : String} {room : Room} {σ : RoomServer}
    (hp : σ.registry.playerToRoom p = some r) (hroom : σ.registry.rooms r = some room)
    (hpass : σ.startRejection room p = none) :
    Effect env σ (.start p r (env.uuid σ.backend.uuidsIssued))
      (σ.startRoom env r room) := by
  obtain ⟨hhost, hidle, hready⟩ := of_startRejection_eq_none hpass
  simp only [startRoom, Backend.generateUuid]
  generalize hsid : env.uuid σ.backend.uuidsIssued = sid
  -- the room is in game under its session id
  generalize hσ₁ : RoomServer.modifyRoom _ r _ = σ₁
  have hreg₁ : σ₁.registry = ({ σ.registry with
      issued := σ.backend.uuidsIssued + 1 } : Registry).setRoom r
        (some ((room.setState .inGame).setSessionId sid)) := by
    rw [← hσ₁, registry_modifyRoom]
    · rfl
    · exact hroom
  have hsent₁ : σ₁.sent = σ.sent := by rw [← hσ₁]; rfl
  have hchat₁ : σ₁.backend.chat = σ.backend.chat := by rw [← hσ₁]; rfl
  have hredis₁ : σ₁.backend.redis = σ.backend.redis := by rw [← hσ₁]; rfl
  clear hσ₁
  -- it is registered in Redis
  obtain ⟨hreg₂, hsent₂, hchat₂, hactive₂⟩ := beginSession_spec env sid σ₁
  generalize σ₁.beginSession env sid = σ₂ at *
  -- every player is told
  have hdraws₃ := Draws.sendGameStarts env sid
    ((room.setState .inGame).setSessionId sid).playerIds σ₂
  have hreg₃ := registry_sendGameStarts env sid
    ((room.setState .inGame).setSessionId sid).playerIds σ₂
  have hsent₃ : Emits ((Action.start p r sid).Sends σ.registry) σ
      (((room.setState .inGame).setSessionId sid).playerIds.foldl
        (sendGameStart env sid) σ₂) := by
    refine emits_sendGameStarts (Emits.of_sent_eq (hsent₂.trans hsent₁)) ?_
    rintro q hq s game rfl
    exact ⟨p, r, room, q, rfl, hroom, hq, rfl⟩
  generalize List.foldl (sendGameStart env sid) σ₂ _ = σ₃ at *
  -- and the Chat Server
  obtain ⟨hreg₄, hsent₄, hredis₄, hchat₄⟩ := announceSession_spec env sid
    ((room.setState .inGame).setSessionId sid) σ₃
  generalize σ₃.announceSession env sid _ = σ₄ at *
  refine ⟨?_, (hsent₃.trans (Emits.of_sent_eq hsent₄)).notify, ?_, ?_⟩
  · have hissued : σ.backend.uuidsIssued < σ₃.backend.uuidsIssued := by
      have hle := hdraws₃.issued
      have h₂ : σ₂.backend.uuidsIssued = σ.backend.uuidsIssued + 1 := by
        have h := congrArg Registry.issued (hreg₂.trans hreg₁)
        exact h
      omega
    rw [registry_notifyRoomListChanged, hreg₄, hreg₃, hreg₂, hreg₁, ← hsid]
    exact Act.start hp hroom hhost hidle hready hissued
  · rw [backend_notifyRoomListChanged, hchat₄, hdraws₃.chat, hchat₂, hchat₁]
    simp only [Action.chatAfter, Action.announcement, hroom]
    rfl
  · intro hanswered S hS
    rw [backend_notifyRoomListChanged, hredis₄]
    exact hdraws₃.active _ (hactive₂ hanswered S (by rwa [hredis₁]))

theorem effect_handleStartGame (env : Env) (p : String) (σ : RoomServer) :
    ∃ a, Effect env σ a (σ.handleStartGame env p) ∧
      (a = .quiet ∨ ∃ r, a = .start p r (env.uuid σ.backend.uuidsIssued)) := by
  have hquiet : Effect env σ .quiet σ :=
    Effect.of_silent rfl Act.quiet (Emits.refl σ) rfl rfl
  cases hp : σ.manager.playerToRoom.find? p with
  | none =>
      simp only [handleStartGame, hp]
      exact ⟨.quiet, hquiet, Or.inl rfl⟩
  | some r =>
  cases hroom : σ.manager.rooms.find? r with
  | none =>
      simp only [handleStartGame, hp, hroom]
      exact ⟨.quiet, hquiet, Or.inl rfl⟩
  | some room =>
  cases hreject : σ.startRejection room p with
  | some reject =>
      simp only [handleStartGame, hp, hroom, hreject]
      refine ⟨.quiet, Effect.of_silent rfl ?_ ?_ ?_ ?_, Or.inl rfl⟩
      · rw [registry_sendTo]
        exact Act.quiet
      · exact (Emits.refl σ).sendTo fun _ => busy_of_startRejection hreject
      · rw [backend_sendTo]
      · rw [backend_sendTo]
  | none =>
      simp only [handleStartGame, hp, hroom, hreject]
      exact ⟨_, effect_startRoom hp hroom hreject, Or.inr ⟨r, rfl⟩⟩

/-- A start sends refusals and game starts. -/
theorem emits_handleStartGame {P : Delivery → Prop} {env : Env} {p : String} {σ : RoomServer}
    (hreject : ∀ q t reject, P ⟨t, some q, .reject reject⟩)
    (hstart : ∀ q t game, P ⟨t, some q, .gameStart game⟩) :
    Emits P σ (σ.handleStartGame env p) := by
  cases hp : σ.manager.playerToRoom.find? p with
  | none =>
      simp only [handleStartGame, hp]
      exact Emits.refl σ
  | some r =>
  cases hroom : σ.manager.rooms.find? r with
  | none =>
      simp only [handleStartGame, hp, hroom]
      exact Emits.refl σ
  | some room =>
  cases hrefused : σ.startRejection room p with
  | some reject =>
      simp only [handleStartGame, hp, hroom, hrefused]
      apply (Emits.refl σ).sendTo
      intro t
      exact hreject p t reject
  | none =>
      simp only [handleStartGame, hp, hroom, hrefused, startRoom]
      apply Emits.notify
      apply Emits.trans ?_ (Emits.of_sent_eq (announceSession_spec env _ _ _).2.1)
      apply emits_sendGameStarts
      · exact Emits.of_sent_eq ((beginSession_spec env _ _).2.1.trans rfl)
      · intro q _ t game _
        exact hstart q t game

/-!
## The end of a session
-/

/-- The end of a session concerns nothing but what is behind the server. -/
theorem exists_backend_endSession (env : Env) (sid : String) (σ : RoomServer) :
    ∃ b, σ.endSession env sid = { σ with backend := b } := by
  unfold endSession
  simp only
  split
  · split
    · exact ⟨_, rfl⟩
    · exact ⟨_, rfl⟩
  · split
    · exact ⟨_, rfl⟩
    · exact ⟨σ.backend, rfl⟩

/-- What ends a session in Redis and at the Chat Server; the rest of the server
is as it was. -/
theorem endSession_spec (env : Env) (sid : String) (σ : RoomServer) :
    (σ.endSession env sid).registry = σ.registry ∧
      (σ.endSession env sid).sent = σ.sent ∧
      (σ.endSession env sid).backend.chat =
        (if env.chatChannel && σ.backend.chat.connected then
          { σ.backend.chat with sent := σ.backend.chat.sent ++
            if sid != "" then [.sessionEnded ⟨sid⟩] else [] }
        else σ.backend.chat) ∧
      ((∀ n, env.outcome n = .answered) → ∀ S,
        Redis.HoldsSet σ.backend.redis.store activeSessionsKey S →
        Redis.HoldsSet (σ.endSession env sid).backend.redis.store activeSessionsKey
          (if env.sessionStore.isSome then S \ {sid} else S)) := by
  unfold endSession
  -- Redis first
  generalize hτ : (if env.sessionStore.isSome = true then _ else σ) = τ
  have hτspec : τ.registry = σ.registry ∧ τ.sent = σ.sent ∧
      τ.backend.chat = σ.backend.chat ∧ ((∀ n, env.outcome n = .answered) → ∀ S,
        Redis.HoldsSet σ.backend.redis.store activeSessionsKey S →
        Redis.HoldsSet τ.backend.redis.store activeSessionsKey
          (if env.sessionStore.isSome then S \ {sid} else S)) := by
    rw [← hτ]
    cases env.sessionStore.isSome with
    | true =>
        refine ⟨registry_withBackend σ _ rfl, rfl, rfl, ?_⟩
        intro hanswered S hS
        exact holdsSet_unregisterGameSession hanswered hS sid
    | false => exact ⟨rfl, rfl, rfl, fun _ S hS => hS⟩
  obtain ⟨hreg, hsent, hchat, hactive⟩ := hτspec
  rw [← hchat]
  -- then the Chat Server
  simp only
  split
  · next htell =>
      rw [Bool.and_eq_true] at htell
      refine ⟨?_, hsent, ?_, ?_⟩
      · rw [← hreg]
        exact registry_withBackend τ _ (uuidsIssued_sendToChat _ _)
      · simp only [htell.1, htell.2, if_true, Bool.true_and]
        exact chat_sendToChat _ _
      · intro hanswered S hS
        have h := hactive hanswered S hS
        simpa only [withBackend, Backend.sendSessionEnded, redis_sendToChat] using h
  · next htell =>
      refine ⟨hreg, hsent, ?_, hactive⟩
      cases hchannel : env.chatChannel with
      | false => simp
      | true =>
          have hsid : (sid != "") = false := by simpa [hchannel] using htell
          simp only [hsid, Bool.false_eq_true, if_false, List.append_nil, ite_self]

/-- The changes that a slot release of a player for a session can be. -/
def Action.IsRelease (v : Registry) (p sid : String) (a : Action) : Prop :=
  a = .quiet ∨ a = .forgetSlot p ∨ ∃ r room, v.rooms r = some room ∧
    (sid = "" ∨ room.sessionId = sid) ∧ (a = .release p r ∨ a = .releaseLast p r)

theorem effect_handleSlotReleased (env : Env) (p sid : String) (σ : RoomServer) :
    ∃ a, Effect env σ a (σ.handleSlotReleased env p sid) ∧
      a.IsRelease σ.registry p sid := by
  have hquiet : Effect env σ .quiet σ :=
    Effect.of_silent rfl Act.quiet (Emits.refl σ) rfl rfl
  cases hp : σ.manager.playerToRoom.find? p with
  | none =>
      simp only [handleSlotReleased, hp]
      exact ⟨.quiet, hquiet, Or.inl rfl⟩
  | some r =>
  cases hroom : σ.manager.rooms.find? r with
  | none =>
      simp only [handleSlotReleased, hp, hroom]
      refine ⟨.forgetSlot p, Effect.of_silent rfl ?_ (Emits.of_sent_eq rfl) rfl rfl,
        Or.inr (Or.inl rfl)⟩
      simp only [registry_unregisterSession, registry_exitRoom]
      exact Act.forgetSlot hp hroom
  | some room =>
  have hreg : σ.registry.rooms r = some room := hroom
  simp only [handleSlotReleased, hp, hroom]
  split
  · exact ⟨.quiet, hquiet, Or.inl rfl⟩
  next hmatch =>
  have hsid : sid = "" ∨ room.sessionId = sid := by
    by_cases hempty : sid = ""
    · exact Or.inl hempty
    · exact Or.inr (by simpa [hempty] using hmatch)
  -- the player is out of the room and its registration is gone
  generalize hτ : RoomServer.unregisterSession _ p = τ
  have hτreg : τ.registry = ((σ.registry.setRoom r
      (some (room.removePlayer p))).setPlayerToRoom p none).setSession p none := by
    rw [← hτ, registry_unregisterSession, registry_exitRoom, registry_modifyRoom,
      registry_returnToLobby]
    rw [registry_returnToLobby]
    exact hreg
  have hτback : τ.backend = σ.backend := by
    rw [← hτ]
    exact backend_returnToLobby σ p
  have hτsent : τ.sent = σ.sent := by
    rw [← hτ]
    exact sent_returnToLobby σ p
  split
  · next hcount =>
      obtain ⟨hereg, hesent, hechat, heactive⟩ :=
        endSession_spec env (room.removePlayer p).sessionId τ
      refine ⟨.releaseLast p r, ⟨?_, ?_, ?_, ?_⟩,
        Or.inr (Or.inr ⟨r, room, hreg, hsid, Or.inr rfl⟩)⟩
      · have hact : Act env σ.registry (.releaseLast p r) _ :=
          Act.releaseLast hp hreg hcount
        rw [registry_eraseRoom, hereg, hτreg]
        simpa [Registry.setRoom, Registry.setPlayerToRoom, Registry.setSession] using hact
      · exact Emits.of_sent_eq (hesent.trans hτsent)
      · refine hechat.trans ?_
        rw [hτback]
        simp only [Action.chatAfter, Action.announcement, Action.ended, hreg,
          Option.map_some]
        rfl
      · intro hanswered S hS
        simp only [Action.activeAfter, Action.ended, hreg, Option.map_some]
        exact heactive hanswered S (by rwa [hτback])
  · next hcount =>
      refine ⟨.release p r, Effect.of_silent rfl ?_ (Emits.of_sent_eq hτsent) ?_ ?_,
        Or.inr (Or.inr ⟨r, room, hreg, hsid, Or.inl rfl⟩)⟩
      · rw [hτreg]
        exact Act.release hp hreg hcount
      · rw [hτback]
      · rw [hτback]

/-- The players that the game server releases are told nothing. -/
theorem sent_handleSlotReleased (env : Env) (p sid : String) (σ : RoomServer) :
    (σ.handleSlotReleased env p sid).sent = σ.sent := by
  unfold handleSlotReleased
  split
  · rfl
  split
  · rfl
  split
  · rfl
  simp only
  split
  · exact (endSession_spec env _ _).2.1.trans (sent_returnToLobby σ p)
  · exact sent_returnToLobby σ p

/-!
## The loss of the game server
-/

/-- The loss of the game server is told by refusals. -/
theorem emits_endGame {P : Delivery → Prop} (env : Env) (r : String) (σ : RoomServer)
    (hreject : ∀ q t, P ⟨t, some q, .reject ⟨.roomClosed, "Game server disconnected"⟩⟩) :
    Emits P σ (σ.endGame env r) := by
  unfold RoomServer.endGame
  split
  · exact Emits.refl σ
  · next room hroom =>
      apply Emits.trans ?_ (Emits.of_sent_eq rfl)
      apply Emits.evictPlayers
      apply Emits.trans ?_ (Emits.of_sent_eq (endSession_spec env _ _).2.1)
      apply (Emits.refl σ).broadcast
      intro q _ t
      exact hreject q t

theorem effect_endGame {env : Env} {r : String} {room : Room} {σ : RoomServer}
    (hroom : σ.registry.rooms r = some room) (hstate : room.state = .inGame) :
    Effect env σ (.endGame r) (σ.endGame env r) := by
  have hr : σ.manager.rooms.find? r = some room := hroom
  have hsent : Emits ((Action.endGame r).Sends σ.registry) σ (σ.endGame env r) := by
    apply emits_endGame
    intro q t hstart
    cases hstart
  simp only [endGame, hr] at hsent ⊢
  obtain ⟨hereg, -, hechat, heactive⟩ := endSession_spec env room.sessionId
    (σ.broadcastToRoom room (.reject ⟨.roomClosed, "Game server disconnected"⟩))
  rw [registry_broadcastToRoom] at hereg
  rw [broadcastToRoom, backend_broadcast, ← broadcastToRoom] at hechat heactive
  refine ⟨?_, ?_, ?_, ?_⟩
  · rw [registry_eraseRoom, registry_evictPlayers, hereg]
    exact Act.endGame hroom hstate
  · exact hsent
  · refine (congrArg Backend.chat (backend_evictPlayers _ _)).trans (hechat.trans ?_)
    simp only [Action.chatAfter, Action.announcement, Action.ended, hroom,
      Option.map_some]
  · intro hanswered S hS
    simp only [Action.activeAfter, Action.ended, hroom, Option.map_some]
    have h := heactive hanswered S hS
    have hbackend := backend_evictPlayers ((σ.broadcastToRoom room
      (.reject ⟨.roomClosed, "Game server disconnected"⟩)).endSession env
        room.sessionId) room.playerIds
    rw [← hbackend] at h
    exact h

theorem emits_endGames {P : Delivery → Prop} (env : Env)
    (hreject : ∀ q t, P ⟨t, some q, .reject ⟨.roomClosed, "Game server disconnected"⟩⟩)
    (ids : List String) (σ : RoomServer) :
    Emits P σ (ids.foldl (RoomServer.endGame env) σ) := by
  induction ids generalizing σ with
  | nil => exact Emits.refl σ
  | cons r ids ih =>
      rw [List.foldl_cons]
      exact (emits_endGame env r σ hreject).trans (ih (σ.endGame env r))

/-- The end of a game leaves the other rooms as they are. -/
theorem rooms_of_endGame {env : Env} {v w : Registry} {r r' : String} {room : Room}
    (h : Act env v (.endGame r) w) (hroom : w.rooms r' = some room) :
    v.rooms r' = some room := by
  cases h with
  | endGame hr hstate =>
      by_cases hr' : r' = r
      · subst hr'
        simp [Registry.evict, Registry.setRoom] at hroom
      · simpa [Registry.evict, Registry.setRoom, hr'] using hroom

/-- The loop over the rooms in game is a run of ends of games. -/
theorem run_endGames (env : Env) (ids : List String) (σ : RoomServer)
    (hids : ∀ r ∈ ids, ∀ room, σ.registry.rooms r = some room → room.state = .inGame) :
    ∃ as, Run (Effect env) σ as (ids.foldl (RoomServer.endGame env) σ) ∧
      ∀ a ∈ as, ∃ r, a = .endGame r := by
  induction ids generalizing σ with
  | nil => exact ⟨[], Run.nil, fun a ha => absurd ha List.not_mem_nil⟩
  | cons r ids ih =>
      rw [List.foldl_cons]
      cases hroom : σ.manager.rooms.find? r with
      | none =>
          have hskip : σ.endGame env r = σ := by simp only [endGame, hroom]
          rw [hskip]
          exact ih σ fun r' hr' => hids r' (List.mem_cons_of_mem r hr')
      | some room =>
          have heffect : Effect env σ (.endGame r) (σ.endGame env r) :=
            effect_endGame hroom (hids r List.mem_cons_self room hroom)
          -- the rooms that are left are as they were
          have hrest : ∀ r' ∈ ids, ∀ room', (σ.endGame env r).registry.rooms r' = some room' →
              room'.state = .inGame := by
            intro r' hr' room' hroom'
            refine hids r' (List.mem_cons_of_mem r hr') room' ?_
            exact rooms_of_endGame heffect.act hroom'
          obtain ⟨as, hrun, has⟩ := ih (σ.endGame env r) hrest
          refine ⟨.endGame r :: as, Run.cons heffect hrun, ?_⟩
          intro a ha
          rcases List.mem_cons.1 ha with rfl | ha
          · exact ⟨r, rfl⟩
          · exact has a ha

theorem mem_inGameRoomIds {σ : RoomServer} {r : String} :
    r ∈ σ.inGameRoomIds ↔ ∃ room, σ.registry.rooms r = some room ∧ room.state = .inGame := by
  simp only [inGameRoomIds, List.mem_map, List.mem_filter, beq_iff_eq]
  refine ⟨?_, ?_⟩
  · rintro ⟨⟨r, room⟩, ⟨hmem, hstate⟩, rfl⟩
    exact ⟨room, AList.mem_lookup_iff.2 hmem, hstate⟩
  · rintro ⟨room, hroom, hstate⟩
    exact ⟨⟨r, room⟩, ⟨AList.mem_lookup_iff.1 hroom, hstate⟩, rfl⟩

theorem run_handleGameServerDisconnect (env : Env) (σ : RoomServer) :
    ∃ as, Run (Effect env) σ as (σ.handleGameServerDisconnect env) ∧
      ∀ a ∈ as, ∃ r, a = .endGame r := by
  refine run_endGames env σ.inGameRoomIds σ ?_
  intro r hr room hroom
  obtain ⟨room', hroom', hstate⟩ := mem_inGameRoomIds.1 hr
  rw [hroom] at hroom'
  cases hroom'
  exact hstate

end Room

end SosBackend
