import SosBackend.Room.Session
import Mathlib.Tactic.Simps.Basic

/-!
# The registry: who is in which room, and who speaks for whom

What the Room Server is for, without its messages: rooms, the room of each
player, the connection registered for each player, and the connections. An
`Action` is one change of the registry, and `Act` says when it may happen and
what it leaves. `RoomServer.registry` reads the registry off the server; the
simp lemmas say what each building block of the handlers does to it.
-/

namespace SosBackend

namespace Room

structure Registry where
  rooms : String → Option Room
  playerToRoom : String → Option String
  sessions : String → Option SessionPtr
  clients : SessionPtr → ClientSession
  issued : ℕ

inductive Action
  | create (request : CreateRoomRequest) (s : SessionPtr) (roomId : String)
  | join (request : JoinRoomRequest) (s : SessionPtr)
  | leave (playerId roomId : String)
  | closeRoom (playerId roomId : String)
  | toggle (playerId roomId : String)
  | start (playerId roomId sessionId : String)
  | release (playerId roomId : String)
  | releaseLast (playerId roomId : String)
  | endGame (roomId : String)
  | forget (playerId : String)
  | forgetSlot (playerId : String)
  | unregister (playerId : String)
  | accept (s : SessionPtr) (remoteIp : String)
  | shut (s : SessionPtr)
  | clear (s : SessionPtr)
  | expire (s : SessionPtr)
  | link (connected : Bool)
  | quiet

namespace Registry

/-- No other live connection is registered for the player, the connection has
no other player, and the player is in no room. -/
structure Admits (v : Registry) (playerId : String) (s : SessionPtr) : Prop where
  unshared : ∀ t, v.sessions playerId = some t → (v.clients t).lifetime = .alive → t = s
  same : (v.clients s).playerId = "" ∨ (v.clients s).playerId = playerId
  outside : v.playerToRoom playerId = none

/-- There are at most `n` rooms. -/
def AtMost (v : Registry) (n : ℕ) : Prop :=
  ∃ ids : List String, (∀ r, (v.rooms r).isSome → r ∈ ids) ∧ ids.length ≤ n

/-- Some room is in game. -/
def Busy (v : Registry) : Prop :=
  ∃ r room, v.rooms r = some room ∧ room.state = .inGame

@[simps] def setRoom (v : Registry) (r : String) (room : Option Room) : Registry :=
  { v with rooms := Function.update v.rooms r room }

@[simps] def setPlayerToRoom (v : Registry) (p : String) (r : Option String) : Registry :=
  { v with playerToRoom := Function.update v.playerToRoom p r }

@[simps] def setSession (v : Registry) (p : String) (s : Option SessionPtr) : Registry :=
  { v with sessions := Function.update v.sessions p s }

@[simps] def setClient (v : Registry) (s : SessionPtr) (c : ClientSession) : Registry :=
  { v with clients := Function.update v.clients s c }

/-- Take the players of a list out of their rooms. -/
@[simps] def evict (v : Registry) (ids : List String) : Registry :=
  { v with playerToRoom := fun p => if p ∈ ids then none else v.playerToRoom p }

/-- The connection now speaks for the player, who is in the room. -/
@[simps] def enter (v : Registry) (p r : String) (s : SessionPtr) : Registry :=
  { v with
    playerToRoom := Function.update v.playerToRoom p (some r)
    clients := Function.update v.clients s { v.clients s with playerId := p }
    sessions := Function.update v.sessions p (some s) }

end Registry

open Registry in
/-- One change of the registry. -/
inductive Act (env : Env) (v : Registry) : Action → Registry → Prop
  | create {request : CreateRoomRequest} {s : SessionPtr}
      (hadmits : v.Admits request.playerId s)
      (hcount : ∃ n < env.maxRooms.toNat, v.AtMost n)
      (hmin : 1 ≤ request.maxPlayers) (hmax : request.maxPlayers ≤ env.maxPlayersPerRoom) :
      Act env v (.create request s (env.uuid v.issued))
        (({ v with issued := v.issued + 1 }.setRoom (env.uuid v.issued)
          (some (Room.create (env.uuid v.issued) request.roomName request.playerId
            request.playerName request.maxPlayers))).enter
          request.playerId (env.uuid v.issued) s)
  | join {request : JoinRoomRequest} {s : SessionPtr} {room : Room}
      (hadmits : v.Admits request.playerId s)
      (hroom : v.rooms request.roomId = some room)
      (hstate : room.state = .waiting) (hfull : room.isFull = false) :
      Act env v (.join request s)
        ((v.setRoom request.roomId
          (some (room.addPlayer request.playerId request.playerName).2)).enter
          request.playerId request.roomId s)
  | leave {p r : String} {room : Room} (hp : v.playerToRoom p = some r)
      (hroom : v.rooms r = some room) (hhost : room.isHost p = false) :
      Act env v (.leave p r)
        ((v.setRoom r (some (room.removePlayer p))).setPlayerToRoom p none)
  | closeRoom {p r : String} {room : Room} (hp : v.playerToRoom p = some r)
      (hroom : v.rooms r = some room) (hhost : room.isHost p = true) :
      Act env v (.closeRoom p r)
        ((v.setRoom r none).evict (p :: room.playerIds))
  | toggle {p r : String} {room : Room} (hp : v.playerToRoom p = some r)
      (hroom : v.rooms r = some room) (hhost : room.isHost p = false) :
      Act env v (.toggle p r) (v.setRoom r (some (room.toggleReady p)))
  | start {p r : String} {room : Room} {issued : ℕ} (hp : v.playerToRoom p = some r)
      (hroom : v.rooms r = some room) (hhost : room.isHost p = true)
      (hidle : ¬ v.Busy) (hready : room.canStart = true) (hissued : v.issued < issued) :
      Act env v (.start p r (env.uuid v.issued))
        ({ v with issued := issued }.setRoom r
          (some ((room.setState .inGame).setSessionId (env.uuid v.issued))))
  | release {p r : String} {room : Room} (hp : v.playerToRoom p = some r)
      (hroom : v.rooms r = some room) (hcount : (room.removePlayer p).playerCount ≠ 0) :
      Act env v (.release p r)
        (((v.setRoom r (some (room.removePlayer p))).setPlayerToRoom p none).setSession
          p none)
  | releaseLast {p r : String} {room : Room} (hp : v.playerToRoom p = some r)
      (hroom : v.rooms r = some room) (hcount : (room.removePlayer p).playerCount = 0) :
      Act env v (.releaseLast p r)
        (((v.setRoom r none).setPlayerToRoom p none).setSession p none)
  | endGame {r : String} {room : Room} (hroom : v.rooms r = some room)
      (hstate : room.state = .inGame) :
      Act env v (.endGame r) ((v.setRoom r none).evict room.playerIds)
  | forget {p r : String} (hp : v.playerToRoom p = some r) (hroom : v.rooms r = none) :
      Act env v (.forget p) (v.setPlayerToRoom p none)
  | forgetSlot {p r : String} (hp : v.playerToRoom p = some r) (hroom : v.rooms r = none) :
      Act env v (.forgetSlot p) ((v.setPlayerToRoom p none).setSession p none)
  | unregister {p : String} : Act env v (.unregister p) (v.setSession p none)
  | accept {s : SessionPtr} {remoteIp : String}
      (hunborn : (v.clients s).lifetime = .unborn) :
      Act env v (.accept s remoteIp)
        (v.setClient s { remoteIp := remoteIp, lifetime := .alive })
  | shut {s : SessionPtr} (hopen : (v.clients s).closed = false) :
      Act env v (.shut s) (v.setClient s { v.clients s with closed := true })
  | clear {s : SessionPtr} (hclosed : (v.clients s).closed = true) :
      Act env v (.clear s) (v.setClient s { v.clients s with playerId := "" })
  | expire {s : SessionPtr} (hclosed : (v.clients s).closed = true) :
      Act env v (.expire s) (v.setClient s { v.clients s with lifetime := .expired })
  | link {connected : Bool} : Act env v (.link connected) v
  | quiet : Act env v .quiet v

/-!
## What a change does to one room
-/

/-- A change that leaves the room under `r` there makes `room` into another
value. -/
inductive RoomStep (r : String) (room : Room) : Action → Room → Prop
  | keep {a : Action} : RoomStep r room a room
  | join {request : JoinRoomRequest} {s : SessionPtr} (hr : request.roomId = r)
      (hstate : room.state = .waiting) (hfull : room.isFull = false) :
      RoomStep r room (.join request s)
        (room.addPlayer request.playerId request.playerName).2
  | leave {p : String} (hhost : room.isHost p = false) :
      RoomStep r room (.leave p r) (room.removePlayer p)
  | toggle {p : String} (hhost : room.isHost p = false) :
      RoomStep r room (.toggle p r) (room.toggleReady p)
  | start {p sid : String} (hhost : room.isHost p = true) (hready : room.canStart = true) :
      RoomStep r room (.start p r sid) ((room.setState .inGame).setSessionId sid)
  | release {p : String} (hcount : (room.removePlayer p).playerCount ≠ 0) :
      RoomStep r room (.release p r) (room.removePlayer p)

/-- The changes that take the room under `r` away. -/
inductive RoomEnd (r : String) (room : Room) : Action → Prop
  | closeRoom {p : String} (hhost : room.isHost p = true) : RoomEnd r room (.closeRoom p r)
  | releaseLast {p : String} (hcount : (room.removePlayer p).playerCount = 0) :
      RoomEnd r room (.releaseLast p r)
  | endGame (hstate : room.state = .inGame) : RoomEnd r room (.endGame r)

/-- A new room under `r`. -/
inductive RoomStart (r : String) : Action → Room → Prop
  | create {request : CreateRoomRequest} {s : SessionPtr} :
      RoomStart r (.create request s r) (Room.create r request.roomName request.playerId
        request.playerName request.maxPlayers)

namespace Act

variable {env : Env} {v w : Registry} {a : Action} {r : String} {room : Room}

/-- Where a room is after a change, it was there before or is new. -/
theorem room_inv (h : Act env v a w) (hroom : w.rooms r = some room) :
    RoomStart r a room ∨ ∃ room', v.rooms r = some room' ∧ RoomStep r room' a room := by
  have hkeep : ∀ {r' : String} {o : Option Room}, r ≠ r' →
      Function.update v.rooms r' o r = some room → ∃ room', v.rooms r = some room' ∧
        RoomStep r room' a room := by
    intro r' o hr hroom
    rw [Function.update_of_ne hr] at hroom
    exact ⟨room, hroom, RoomStep.keep⟩
  cases h with
  | create hadmits hcount hmin hmax =>
      by_cases hr : r = env.uuid v.issued
      · subst hr
        simp only [Registry.enter_rooms, Registry.setRoom_rooms, Function.update_self,
          Option.some.injEq] at hroom
        subst hroom
        exact Or.inl RoomStart.create
      · exact Or.inr (hkeep hr hroom)
  | @join request s room' hadmits hroom' hstate hfull =>
      refine Or.inr ?_
      by_cases hr : r = request.roomId
      · subst hr
        simp only [Registry.enter_rooms, Registry.setRoom_rooms, Function.update_self,
          Option.some.injEq] at hroom
        subst hroom
        exact ⟨room', hroom', RoomStep.join rfl hstate hfull⟩
      · exact hkeep hr hroom
  | @leave p r' room' hp hroom' hhost =>
      refine Or.inr ?_
      by_cases hr : r = r'
      · subst hr
        simp only [Registry.setPlayerToRoom_rooms, Registry.setRoom_rooms,
          Function.update_self, Option.some.injEq] at hroom
        subst hroom
        exact ⟨room', hroom', RoomStep.leave hhost⟩
      · exact hkeep hr hroom
  | @closeRoom p r' room' hp hroom' hhost =>
      refine Or.inr ?_
      by_cases hr : r = r'
      · subst hr
        simp at hroom
      · exact hkeep hr hroom
  | @toggle p r' room' hp hroom' hhost =>
      refine Or.inr ?_
      by_cases hr : r = r'
      · subst hr
        simp only [Registry.setRoom_rooms, Function.update_self, Option.some.injEq] at hroom
        subst hroom
        exact ⟨room', hroom', RoomStep.toggle hhost⟩
      · exact hkeep hr hroom
  | @start p r' room' issued hp hroom' hhost hidle hready hissued =>
      refine Or.inr ?_
      by_cases hr : r = r'
      · subst hr
        simp only [Registry.setRoom_rooms, Function.update_self, Option.some.injEq] at hroom
        subst hroom
        exact ⟨room', hroom', RoomStep.start hhost hready⟩
      · exact hkeep hr hroom
  | @release p r' room' hp hroom' hcount =>
      refine Or.inr ?_
      by_cases hr : r = r'
      · subst hr
        simp only [Registry.setSession_rooms, Registry.setPlayerToRoom_rooms,
          Registry.setRoom_rooms, Function.update_self, Option.some.injEq] at hroom
        subst hroom
        exact ⟨room', hroom', RoomStep.release hcount⟩
      · exact hkeep hr hroom
  | @releaseLast p r' room' hp hroom' hcount =>
      refine Or.inr ?_
      by_cases hr : r = r'
      · subst hr
        simp at hroom
      · exact hkeep hr hroom
  | @endGame r' room' hroom' hstate =>
      refine Or.inr ?_
      by_cases hr : r = r'
      · subst hr
        simp at hroom
      · exact hkeep hr hroom
  | forget hp hroom' => exact Or.inr ⟨room, hroom, RoomStep.keep⟩
  | forgetSlot hp hroom' => exact Or.inr ⟨room, hroom, RoomStep.keep⟩
  | unregister => exact Or.inr ⟨room, hroom, RoomStep.keep⟩
  | accept hunborn => exact Or.inr ⟨room, hroom, RoomStep.keep⟩
  | shut hopen => exact Or.inr ⟨room, hroom, RoomStep.keep⟩
  | clear hclosed => exact Or.inr ⟨room, hroom, RoomStep.keep⟩
  | expire hclosed => exact Or.inr ⟨room, hroom, RoomStep.keep⟩
  | link => exact Or.inr ⟨room, hroom, RoomStep.keep⟩
  | quiet => exact Or.inr ⟨room, hroom, RoomStep.keep⟩

/-- A room that is there stays, in a new value, or is taken away. -/
theorem room_next (h : Act env v a w) (hroom : v.rooms r = some room)
    (hfresh : v.rooms (env.uuid v.issued) = none) :
    (∃ room', w.rooms r = some room' ∧ RoomStep r room a room') ∨
      w.rooms r = none ∧ RoomEnd r room a := by
  cases hw : w.rooms r with
  | some room' =>
      refine Or.inl ⟨room', rfl, ?_⟩
      rcases h.room_inv hw with hstart | ⟨room'', hroom'', hstep⟩
      · cases hstart
        cases h
        rw [hfresh] at hroom
        cases hroom
      · rw [hroom] at hroom''
        cases hroom''
        exact hstep
  | none =>
      refine Or.inr ⟨rfl, ?_⟩
      have hgone : ∀ {r' : String} {o : Option Room},
          Function.update v.rooms r' o r = none → r = r' ∧ o = none := by
        intro r' o hupdate
        by_cases hr : r = r'
        · subst hr
          rw [Function.update_self] at hupdate
          exact ⟨rfl, hupdate⟩
        · rw [Function.update_of_ne hr, hroom] at hupdate
          cases hupdate
      have hstay : v.rooms r ≠ none := by
        rw [hroom]
        exact Option.some_ne_none room
      cases h with
      | create hadmits hcount hmin hmax => cases (hgone hw).2
      | join hadmits hroom' hstate hfull => cases (hgone hw).2
      | leave hp hroom' hhost => cases (hgone hw).2
      | closeRoom hp hroom' hhost =>
          obtain ⟨rfl, -⟩ := hgone hw
          rw [hroom] at hroom'
          cases hroom'
          exact RoomEnd.closeRoom hhost
      | toggle hp hroom' hhost => cases (hgone hw).2
      | start hp hroom' hhost hidle hready hissued => cases (hgone hw).2
      | release hp hroom' hcount => cases (hgone hw).2
      | releaseLast hp hroom' hcount =>
          obtain ⟨rfl, -⟩ := hgone hw
          rw [hroom] at hroom'
          cases hroom'
          exact RoomEnd.releaseLast hcount
      | endGame hroom' hstate =>
          obtain ⟨rfl, -⟩ := hgone hw
          rw [hroom] at hroom'
          cases hroom'
          exact RoomEnd.endGame hstate
      | forget hp hroom' => exact absurd hw hstay
      | forgetSlot hp hroom' => exact absurd hw hstay
      | unregister => exact absurd hw hstay
      | accept hunborn => exact absurd hw hstay
      | shut hopen => exact absurd hw hstay
      | clear hclosed => exact absurd hw hstay
      | expire hclosed => exact absurd hw hstay
      | link => exact absurd hw hstay
      | quiet => exact absurd hw hstay

/-- Who leaves is in the room, and is not its host. -/
theorem leave_inv {p : String} (h : Act env v (.leave p r) w) (hroom : v.rooms r = some room) :
    v.playerToRoom p = some r ∧ room.isHost p = false := by
  cases h with
  | leave hp hroom' hhost =>
      rw [hroom] at hroom'
      cases hroom'
      exact ⟨hp, hhost⟩

/-- Who is released is in the room. -/
theorem release_inv {p : String} (h : Act env v a w)
    (ha : a = .release p r ∨ a = .releaseLast p r) : v.playerToRoom p = some r := by
  rcases ha with rfl | rfl
  · cases h with
    | release hp hroom hcount => exact hp
  · cases h with
    | releaseLast hp hroom hcount => exact hp

/-- Who closes a room is in it, and is its host. -/
theorem closeRoom_inv {p : String} (h : Act env v (.closeRoom p r) w)
    (hroom : v.rooms r = some room) :
    v.playerToRoom p = some r ∧ room.isHost p = true := by
  cases h with
  | closeRoom hp hroom' hhost =>
      rw [hroom] at hroom'
      cases hroom'
      exact ⟨hp, hhost⟩

theorem unregister_inv {p : String} (h : Act env v (.unregister p) w) :
    w = v.setSession p none := by
  cases h
  rfl

theorem clear_inv {s : SessionPtr} (h : Act env v (.clear s) w) :
    w = v.setClient s { v.clients s with playerId := "" } := by
  cases h
  rfl

theorem quiet_inv (h : Act env v .quiet w) : w = v := by
  cases h
  rfl

theorem issued_le (h : Act env v a w) : v.issued ≤ w.issued := by
  cases h with
  | create hadmits hcount hmin hmax => exact Nat.le_succ _
  | start hp hroom hhost hidle hready hissued => exact hissued.le
  | _ => exact le_rfl

theorem create_inv {request : CreateRoomRequest} {s : SessionPtr}
    (h : Act env v (.create request s r) w) : r = env.uuid v.issued := by
  cases h with
  | create hadmits hcount hmin hmax => rfl

theorem toggle_inv {p : String} (h : Act env v (.toggle p r) w) :
    v.playerToRoom p = some r := by
  cases h with
  | toggle hp hroom hhost => exact hp

/-- A room starts while no room is in game, and is in game afterwards under a
fresh session id. -/
theorem start_inv {p sid : String} (h : Act env v (.start p r sid) w) :
    ¬ v.Busy ∧ sid = env.uuid v.issued ∧ v.issued < w.issued ∧
      ∃ room, v.rooms r = some room ∧
        w.rooms r = some ((room.setState .inGame).setSessionId sid) := by
  cases h with
  | start hp hroom hhost hidle hready hissued =>
      refine ⟨hidle, rfl, hissued, _, hroom, ?_⟩
      simp

end Act

/-!
## The registry of the server
-/

namespace RoomServer

def registry (σ : RoomServer) : Registry where
  rooms := σ.manager.rooms.find?
  playerToRoom := σ.manager.playerToRoom.find?
  sessions := σ.manager.sessions.find?
  clients := σ.clients
  issued := σ.backend.uuidsIssued

@[simp] theorem registry_send (σ : RoomServer) (s : SessionPtr) (addressee : Option String)
    (envelope : Envelope) : (σ.send s addressee envelope).registry = σ.registry := rfl

@[simp] theorem registry_sendTo (σ : RoomServer) (p : String) (envelope : Envelope) :
    (σ.sendTo p envelope).registry = σ.registry := by
  rw [sendTo]
  cases σ.lock p with
  | none => rfl
  | some s => rfl

@[simp] theorem registry_sendRejectTo (σ : RoomServer) (s : SessionPtr)
    (reject : RejectResponse) : (σ.sendRejectTo s reject).registry = σ.registry := rfl

@[simp] theorem registry_broadcast (σ : RoomServer) (ids : List String)
    (envelope : Envelope) : (σ.broadcast ids envelope).registry = σ.registry := by
  rw [broadcast]
  induction ids generalizing σ with
  | nil => rfl
  | cons p ids ih => rw [List.foldl_cons, ih, registry_sendTo]

@[simp] theorem registry_broadcastToRoom (σ : RoomServer) (room : Room)
    (envelope : Envelope) : (σ.broadcastToRoom room envelope).registry = σ.registry :=
  registry_broadcast σ _ envelope

@[simp] theorem registry_broadcastToRoomExcept (σ : RoomServer) (room : Room)
    (envelope : Envelope) (p : String) :
    (σ.broadcastToRoomExcept room envelope p).registry = σ.registry :=
  registry_broadcast σ _ envelope

@[simp] theorem registry_addLobbySession (σ : RoomServer) (s : SessionPtr) :
    (σ.addLobbySession s).registry = σ.registry := rfl

@[simp] theorem registry_removeLobbySession (σ : RoomServer) (s : SessionPtr) :
    (σ.removeLobbySession s).registry = σ.registry := rfl

@[simp] theorem registry_notifyRoomListChanged (σ : RoomServer) :
    σ.notifyRoomListChanged.registry = σ.registry := by
  rw [notifyRoomListChanged]
  split
  · rfl
  · split
    · rfl
    · rfl

@[simp] theorem registry_returnToLobby (σ : RoomServer) (p : String) :
    (σ.returnToLobby p).registry = σ.registry := by
  rw [returnToLobby]
  cases σ.lock p with
  | none => rfl
  | some s => rfl

@[simp] theorem registry_setPlayerId (σ : RoomServer) (s : SessionPtr) (p : String) :
    (σ.setPlayerId s p).registry =
      σ.registry.setClient s { σ.clients s with playerId := p } := rfl

@[simp] theorem registry_updateClient (σ : RoomServer) (s : SessionPtr)
    (f : ClientSession → ClientSession) :
    (σ.updateClient s f).registry = σ.registry.setClient s (f (σ.clients s)) := rfl

@[simp] theorem registry_registerSession (σ : RoomServer) (p : String) (s : SessionPtr) :
    (σ.registerSession p s).registry = σ.registry.setSession p (some s) := by
  have h : (σ.manager.sessions.insert p s).find? =
      Function.update σ.manager.sessions.find? p (some s) := by
    funext x
    rw [UnorderedMap.find?_insert, Function.update_apply]
  simp [registerSession, registry, Registry.setSession, h]

@[simp] theorem registry_unregisterSession (σ : RoomServer) (p : String) :
    (σ.unregisterSession p).registry = σ.registry.setSession p none := by
  have h : (σ.manager.sessions.erase p).find? =
      Function.update σ.manager.sessions.find? p none := by
    funext x
    rw [UnorderedMap.find?_erase, Function.update_apply]
  simp [unregisterSession, registry, Registry.setSession, h]

@[simp] theorem registry_insertRoom (σ : RoomServer) (r : String) (room : Room) :
    (σ.insertRoom r room).registry = σ.registry.setRoom r (some room) := by
  have h : (σ.manager.rooms.insert r room).find? =
      Function.update σ.manager.rooms.find? r (some room) := by
    funext x
    rw [UnorderedMap.find?_insert, Function.update_apply]
  simp [insertRoom, registry, Registry.setRoom, h]

@[simp] theorem registry_eraseRoom (σ : RoomServer) (r : String) :
    (σ.eraseRoom r).registry = σ.registry.setRoom r none := by
  have h : (σ.manager.rooms.erase r).find? =
      Function.update σ.manager.rooms.find? r none := by
    funext x
    rw [UnorderedMap.find?_erase, Function.update_apply]
  simp [eraseRoom, registry, Registry.setRoom, h]

theorem registry_modifyRoom {σ : RoomServer} {r : String} {room : Room}
    (hroom : σ.registry.rooms r = some room) (f : Room → Room) :
    (σ.modifyRoom r f).registry = σ.registry.setRoom r (some (f room)) := by
  have h : (σ.manager.rooms.modify r f).find? =
      Function.update σ.manager.rooms.find? r (some (f room)) := by
    funext x
    have hr : σ.manager.rooms.find? r = some room := hroom
    rw [UnorderedMap.find?_modify, Function.update_apply, hr, Option.map_some]
  simp [modifyRoom, registry, Registry.setRoom, h]

@[simp] theorem registry_enterRoom (σ : RoomServer) (p r : String) :
    (σ.enterRoom p r).registry = σ.registry.setPlayerToRoom p (some r) := by
  have h : (σ.manager.playerToRoom.insert p r).find? =
      Function.update σ.manager.playerToRoom.find? p (some r) := by
    funext x
    rw [UnorderedMap.find?_insert, Function.update_apply]
  simp [enterRoom, registry, Registry.setPlayerToRoom, h]

@[simp] theorem registry_exitRoom (σ : RoomServer) (p : String) :
    (σ.exitRoom p).registry = σ.registry.setPlayerToRoom p none := by
  have h : (σ.manager.playerToRoom.erase p).find? =
      Function.update σ.manager.playerToRoom.find? p none := by
    funext x
    rw [UnorderedMap.find?_erase, Function.update_apply]
  simp [exitRoom, registry, Registry.setPlayerToRoom, h]

theorem registry_withBackend (σ : RoomServer) (f : Backend → Backend)
    (hf : (f σ.backend).uuidsIssued = σ.backend.uuidsIssued) :
    (σ.withBackend f).registry = σ.registry := by
  simp [withBackend, registry, hf]

@[simp] theorem registry_evictPlayers (σ : RoomServer) (ids : List String) :
    (σ.evictPlayers ids).registry = σ.registry.evict ids := by
  rw [evictPlayers]
  induction ids generalizing σ with
  | nil => simp [Registry.evict]
  | cons p ids ih =>
      rw [List.foldl_cons, ih, registry_exitRoom, registry_returnToLobby]
      simp only [Registry.evict, Registry.setPlayerToRoom, Registry.mk.injEq, true_and,
        and_true]
      funext q
      by_cases hids : q ∈ ids
      · simp [hids]
      · by_cases hq : q = p
        · simp [hq]
        · simp [hids, hq]

/-- `removeRoom` on a room that is there. -/
theorem registry_removeRoom {σ : RoomServer} {r : String} {room : Room}
    (hroom : σ.registry.rooms r = some room) (p : String) :
    (σ.removeRoom r p).registry = (σ.registry.setRoom r none).evict room.playerIds := by
  have hr : σ.manager.rooms.find? r = some room := hroom
  simp only [removeRoom, hr, registry_eraseRoom, registry_evictPlayers,
    registry_broadcastToRoomExcept]
  rfl

end RoomServer

end Room

end SosBackend
