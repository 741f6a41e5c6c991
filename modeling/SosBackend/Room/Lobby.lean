import SosBackend.Room.Identity

/-!
# Who is in the lobby

The handlers that take players out of rooms put their registered sessions back into the
lobby. `Empties` is what each of them does to the rooms, the registrations and the lobby:
a player leaving, alone or with the room it hosts, a slot release, and the loss of the
game server.
-/

namespace SosBackend

namespace Room

open RoomServer

namespace RoomServer

/-- The sessions in the lobby. -/
def lobby (σ : RoomServer) : Set SessionPtr := σ.manager.lobbySessions.toSet

theorem lobby_sendTo (σ : RoomServer) (p : String) (envelope : Envelope) :
    (σ.sendTo p envelope).lobby = σ.lobby := by
  unfold sendTo
  split
  · rfl
  · rfl

theorem lobby_broadcast (σ : RoomServer) (ids : List String) (envelope : Envelope) :
    (σ.broadcast ids envelope).lobby = σ.lobby := by
  unfold broadcast
  induction ids generalizing σ with
  | nil => rfl
  | cons p ids ih => rw [List.foldl_cons, ih, lobby_sendTo]

theorem lobby_notifyRoomListChanged (σ : RoomServer) :
    σ.notifyRoomListChanged.lobby = σ.lobby := by
  unfold notifyRoomListChanged
  split
  · rfl
  · split
    · rfl
    · rfl

theorem lobby_addLobbySession (σ : RoomServer) (s : SessionPtr) :
    (σ.addLobbySession s).lobby = insert s σ.lobby :=
  UnorderedSet.toSet_insert _ s

theorem lobby_removeLobbySession (σ : RoomServer) (s : SessionPtr) :
    (σ.removeLobbySession s).lobby = σ.lobby \ {s} :=
  UnorderedSet.toSet_erase _ s

theorem lobby_endSession (env : Env) (sid : String) (σ : RoomServer) :
    (σ.endSession env sid).lobby = σ.lobby := by
  obtain ⟨b, heq⟩ := exists_backend_endSession env sid σ
  rw [heq]
  rfl

theorem lobby_sendGameStarts (env : Env) (sid : String) (ids : List String) (σ : RoomServer) :
    (ids.foldl (sendGameStart env sid) σ).lobby = σ.lobby := by
  induction ids generalizing σ with
  | nil => rfl
  | cons p ids ih =>
      rw [List.foldl_cons, ih]
      exact lobby_sendTo _ p _

theorem mem_lobby_returnToLobby {σ : RoomServer} {p : String} {t : SessionPtr} :
    t ∈ (σ.returnToLobby p).lobby ↔ t ∈ σ.lobby ∨ σ.lock p = some t := by
  unfold returnToLobby
  split
  · next hlock => simp [hlock]
  · next s hlock =>
      rw [lobby_addLobbySession, Set.mem_insert_iff, hlock, Option.some.injEq, or_comm,
        eq_comm (a := s)]

theorem mem_lobby_evictPlayers {σ : RoomServer} {ids : List String} {t : SessionPtr} :
    t ∈ (σ.evictPlayers ids).lobby ↔ t ∈ σ.lobby ∨ ∃ p ∈ ids, σ.lock p = some t := by
  unfold evictPlayers
  induction ids generalizing σ with
  | nil => simp
  | cons p ids ih =>
      have hreg : ((σ.returnToLobby p).exitRoom p).registry =
          σ.registry.setPlayerToRoom p none := by
        rw [registry_exitRoom, registry_returnToLobby]
      have hlock : ∀ q, ((σ.returnToLobby p).exitRoom p).lock q = σ.lock q := by
        intro q
        apply lock_congr
        · rw [hreg]
          rfl
        · intro u
          exact congrArg (fun v : Registry => (v.clients u).lifetime) hreg
      have hfirst : t ∈ ((σ.returnToLobby p).exitRoom p).lobby ↔
          t ∈ σ.lobby ∨ σ.lock p = some t := mem_lobby_returnToLobby
      rw [List.foldl_cons, ih, hfirst]
      simp only [hlock, List.mem_cons, exists_eq_or_imp, or_assoc]

end RoomServer

/-!
## Leaving a room
-/

namespace Registry

/-- Who leaves a room with a player: everybody else in it, if the player is its host. -/
def company (v : Registry) (p : String) : Set String :=
  {q | ∃ r room, v.playerToRoom p = some r ∧ v.rooms r = some room ∧ room.isHost p = true ∧
    q ∈ room.playerIds ∧ q ≠ p}

/-- Who is in a room in game. -/
def playing (v : Registry) : Set String :=
  {q | ∃ r room, v.rooms r = some room ∧ room.state = .inGame ∧ q ∈ room.playerIds}

end Registry

/-- From `σ` to `τ` the players in `E` have left their rooms, those in `S` lost their
registration, and the sessions of those in `B` came back to the lobby. -/
structure Empties (E S B : Set String) (σ τ : RoomServer) : Prop where
  registered : ∀ q, q ∉ S → τ.registry.sessions q = σ.registry.sessions q
  unregistered : ∀ q ∈ S, τ.registry.sessions q = none
  gone : ∀ q ∈ E, τ.registry.playerToRoom q = none
  stay : ∀ q, q ∉ E → τ.registry.playerToRoom q = σ.registry.playerToRoom q
  lobby : ∀ t, t ∈ τ.lobby ↔ t ∈ σ.lobby ∨ ∃ q ∈ B, σ.lock q = some t

variable {env : Env}

theorem Empties.refl {E B : Set String} {σ : RoomServer}
    (hE : ∀ q ∈ E, σ.registry.playerToRoom q = none) (hB : ∀ q, q ∉ B) :
    Empties E ∅ B σ σ where
  registered _ _ := rfl
  unregistered q hq := absurd hq (Set.notMem_empty q)
  gone := hE
  stay _ _ := rfl
  lobby t := by simp [hB]

/-- Two departures one after the other, the second without new registrations. -/
theorem Empties.trans {E E' B B' : Set String} {σ τ υ : RoomServer} (h : Empties E ∅ B σ τ)
    (hclients : τ.clients = σ.clients) (h' : Empties E' ∅ B' τ υ) :
    Empties (E ∪ E') ∅ (B ∪ B') σ υ := by
  have hsessions : ∀ q, τ.registry.sessions q = σ.registry.sessions q :=
    fun q => h.registered q (Set.notMem_empty q)
  have hlock : ∀ q, τ.lock q = σ.lock q := by
    apply lock_congr
    · exact funext hsessions
    · intro t
      rw [hclients]
  constructor
  · intro q hq
    rw [h'.registered q hq, hsessions]
  · intro q hq
    exact absurd hq (Set.notMem_empty q)
  · intro q hq
    by_cases hq' : q ∈ E'
    · exact h'.gone q hq'
    · rw [h'.stay q hq']
      exact h.gone q (hq.resolve_right hq')
  · intro q hq
    rw [Set.mem_union, not_or] at hq
    rw [h'.stay q hq.2, h.stay q hq.1]
  · intro t
    rw [h'.lobby, h.lobby, or_assoc]
    apply or_congr_right
    simp only [hlock, Set.mem_union, or_and_right, exists_or]

theorem registry_leaveRoom {σ : RoomServer} {p r : String} {room : Room}
    (hroom : σ.registry.rooms r = some room) :
    ((σ.modifyRoom r fun _ => room.removePlayer p).exitRoom p).registry =
      (σ.registry.setRoom r (some (room.removePlayer p))).setPlayerToRoom p none := by
  rw [registry_exitRoom, registry_modifyRoom hroom]

theorem company_eq_empty {v : Registry} {p r : String} {room : Room}
    (hp : v.playerToRoom p = some r) (hroom : v.rooms r = some room)
    (hhost : room.isHost p = false) (q : String) : q ∉ v.company p := by
  intro hq
  obtain ⟨r', room', hp', hroom', hhost', -⟩ := hq
  cases hp.symm.trans hp'
  cases hroom.symm.trans hroom'
  exact Bool.false_ne_true (hhost.symm.trans hhost')

/-- The host leaves, and the others with it. -/
theorem empties_hostLeaves {σ : RoomServer} (hσ : σ.registry.Indexed env) {p r : String}
    {room : Room} (hp : σ.registry.playerToRoom p = some r)
    (hroom : σ.registry.rooms r = some room) (hhost : room.isHost p = true) :
    Empties (insert p (σ.registry.company p)) ∅ (σ.registry.company p) σ
      (σ.handleLeaveRoom p) := by
  have hp' : σ.manager.playerToRoom.find? p = some r := hp
  have hroom' : σ.manager.rooms.find? r = some room := hroom
  have hleft := registry_leaveRoom (p := p) hroom
  generalize hτ : (σ.modifyRoom r fun _ => room.removePlayer p).exitRoom p = τ at hleft
  have hτlobby : τ.lobby = σ.lobby := by
    rw [← hτ]
    rfl
  have hτlock : ∀ q, τ.lock q = σ.lock q := by
    intro q
    rw [← hτ]
    rfl
  simp only [handleLeaveRoom, hp', hroom', hτ, hhost, if_true]
  have hτroom : τ.registry.rooms r = some (room.removePlayer p) := by
    rw [hleft]
    exact Function.update_self r _ _
  -- the others are those on the roster that is left
  have hcompany : ∀ q, q ∈ (room.removePlayer p).playerIds ↔ q ∈ σ.registry.company p := by
    intro q
    rw [Room.playerIds_removePlayer, (hσ.nodup r room hroom).mem_erase_iff]
    constructor
    · intro hq
      exact ⟨r, room, hp, hroom, hhost, hq.2, hq.1⟩
    · intro hq
      obtain ⟨r', room', hpr, hroom', -, hq, hne⟩ := hq
      cases hp.symm.trans hpr
      cases hroom.symm.trans hroom'
      exact ⟨hne, hq⟩
  have hresult : (τ.removeRoom r p).notifyRoomListChanged.registry =
      (σ.registry.setRoom r none).evict (p :: room.playerIds) := by
    rw [registry_notifyRoomListChanged, registry_removeRoom hτroom, hleft,
      registry_closeRoom]
  have hevicted : ∀ q, q ∈ p :: room.playerIds ↔ q ∈ insert p (σ.registry.company p) := by
    intro q
    rw [Set.mem_insert_iff, ← hcompany, Room.playerIds_removePlayer,
      (hσ.nodup r room hroom).mem_erase_iff, List.mem_cons]
    tauto
  constructor
  · intro q _
    rw [hresult]
    rfl
  · intro q hq
    exact absurd hq (Set.notMem_empty q)
  · intro q hq
    rw [hresult]
    exact if_pos ((hevicted q).2 hq)
  · intro q hq
    rw [hresult]
    exact if_neg fun h => hq ((hevicted q).1 h)
  · intro t
    have hfind : τ.manager.rooms.find? r = some (room.removePlayer p) := hτroom
    have hmemLobby : t ∈ (τ.removeRoom r p).lobby ↔
        t ∈ τ.lobby ∨ ∃ q ∈ (room.removePlayer p).playerIds, τ.lock q = some t := by
      simp only [removeRoom, hfind]
      apply mem_lobby_evictPlayers.trans
      simp only [broadcastToRoomExcept, lobby_broadcast,
        lock_of_registry (registry_broadcast τ _ _)]
    rw [lobby_notifyRoomListChanged, hmemLobby, hτlobby]
    simp only [hτlock, hcompany]

/-- A player that is not the host leaves alone. -/
theorem empties_memberLeaves {σ : RoomServer} {p r : String} {room : Room}
    (hp : σ.registry.playerToRoom p = some r) (hroom : σ.registry.rooms r = some room)
    (hhost : room.isHost p = false) :
    Empties (insert p (σ.registry.company p)) ∅ (σ.registry.company p) σ
      (σ.handleLeaveRoom p) := by
  have hp' : σ.manager.playerToRoom.find? p = some r := hp
  have hroom' : σ.manager.rooms.find? r = some room := hroom
  have hleft := registry_leaveRoom (p := p) hroom
  generalize hτ : (σ.modifyRoom r fun _ => room.removePlayer p).exitRoom p = τ at hleft
  have hτlobby : τ.lobby = σ.lobby := by
    rw [← hτ]
    rfl
  simp only [handleLeaveRoom, hp', hroom', hτ, hhost, Bool.false_eq_true, if_false]
  have hempty := company_eq_empty hp hroom hhost
  have hresult : ∀ υ : RoomServer, υ.registry = τ.registry → υ.lobby = τ.lobby →
      Empties (insert p (σ.registry.company p)) ∅ (σ.registry.company p) σ υ := by
    intro υ hυ hlobby
    have hreg' : υ.registry =
        (σ.registry.setRoom r (some (room.removePlayer p))).setPlayerToRoom p none :=
      hυ.trans hleft
    constructor
    · intro q _
      rw [hreg']
      rfl
    · intro q hq
      exact absurd hq (Set.notMem_empty q)
    · intro q hq
      rcases Set.mem_insert_iff.1 hq with rfl | hq
      · rw [hreg']
        exact Function.update_self _ _ _
      · exact absurd hq (hempty q)
    · intro q hq
      have hne : q ≠ p := by
        rintro rfl
        exact hq (Set.mem_insert q _)
      rw [hreg']
      exact Function.update_of_ne hne _ _
    · intro t
      rw [hlobby, hτlobby]
      simp [hempty]
  apply hresult
  · rw [registry_notifyRoomListChanged]
    split
    · exact registry_broadcastToRoom τ _ _
    · rfl
  · rw [lobby_notifyRoomListChanged]
    split
    · exact lobby_broadcast τ _ _
    · rfl

/-- A player leaves its room, and the others with it if it is the host. -/
theorem empties_handleLeaveRoom {σ : RoomServer} (hσ : σ.registry.Indexed env) (p : String) :
    Empties (insert p (σ.registry.company p)) ∅ (σ.registry.company p) σ
      (σ.handleLeaveRoom p) := by
  cases hp : σ.manager.playerToRoom.find? p with
  | none =>
      have hnone : σ.registry.playerToRoom p = none := hp
      simp only [handleLeaveRoom, hp]
      have hempty : ∀ q, q ∉ σ.registry.company p := by
        intro q hq
        obtain ⟨r, room, hp', -⟩ := hq
        cases hnone.symm.trans hp'
      apply Empties.refl
      · intro q hq
        rcases Set.mem_insert_iff.1 hq with rfl | hq
        · exact hnone
        · exact absurd hq (hempty q)
      · exact hempty
  | some r =>
      obtain ⟨room, hroom, -⟩ := (hσ.index p r).1 hp
      cases hhost : room.isHost p with
      | true => exact empties_hostLeaves hσ hp hroom hhost
      | false => exact empties_memberLeaves hp hroom hhost

/-!
## Games
-/

/-- A slot release takes its player out of the room and back to the lobby, and its
registration goes; or it does nothing. -/
theorem empties_handleSlotReleased {σ : RoomServer} (hσ : σ.registry.Indexed env)
    (p sid : String) :
    σ.handleSlotReleased env p sid = σ ∨
      Empties {p} {p} {p} σ (σ.handleSlotReleased env p sid) ∧
        ∃ r room, σ.registry.playerToRoom p = some r ∧ σ.registry.rooms r = some room ∧
          (sid = "" ∨ room.sessionId = sid) := by
  cases hp : σ.manager.playerToRoom.find? p with
  | none =>
      left
      simp only [handleSlotReleased, hp]
  | some r =>
  have hp' : σ.registry.playerToRoom p = some r := hp
  obtain ⟨room, hreg, hmem⟩ := (hσ.index p r).1 hp'
  have hroom : σ.manager.rooms.find? r = some room := hreg
  simp only [handleSlotReleased, hp, hroom]
  split
  · exact Or.inl rfl
  next hmatch =>
  have hsid : sid = "" ∨ room.sessionId = sid := by
    by_cases hempty : sid = ""
    · exact Or.inl hempty
    · exact Or.inr (by simpa [hempty] using hmatch)
  refine Or.inr ⟨?_, r, room, hp', hreg, hsid⟩
  generalize hτ : RoomServer.unregisterSession _ p = τ
  have hτreg : τ.registry = ((σ.registry.setRoom r
      (some (room.removePlayer p))).setPlayerToRoom p none).setSession p none := by
    rw [← hτ, registry_unregisterSession, registry_exitRoom, registry_modifyRoom,
      registry_returnToLobby]
    rw [registry_returnToLobby]
    exact hreg
  have hτlobby : τ.lobby = (σ.returnToLobby p).lobby := by
    rw [← hτ]
    rfl
  -- the end of the session and of the room concerns neither players nor the lobby
  have hresult : ∀ υ : RoomServer, υ.registry.sessions = τ.registry.sessions →
      υ.registry.playerToRoom = τ.registry.playerToRoom → υ.lobby = τ.lobby →
      Empties {p} {p} {p} σ υ := by
    intro υ hsessions hplayers hlobby
    constructor
    · intro q hq
      rw [hsessions, hτreg]
      exact Function.update_of_ne hq _ _
    · intro q hq
      rw [hsessions, hτreg, Set.mem_singleton_iff.1 hq]
      exact Function.update_self _ _ _
    · intro q hq
      rw [hplayers, hτreg, Set.mem_singleton_iff.1 hq]
      exact Function.update_self _ _ _
    · intro q hq
      rw [hplayers, hτreg]
      exact Function.update_of_ne hq _ _
    · intro t
      rw [hlobby, hτlobby, mem_lobby_returnToLobby]
      simp only [Set.mem_singleton_iff, exists_eq_left]
  split
  · obtain ⟨hereg, -⟩ := endSession_spec env (room.removePlayer p).sessionId τ
    apply hresult
    · rw [registry_eraseRoom, hereg]
      rfl
    · rw [registry_eraseRoom, hereg]
      rfl
    · exact lobby_endSession env _ τ
  · exact hresult τ rfl rfl rfl

/-- Who is in one of the rooms. -/
def Registry.within (v : Registry) (ids : List String) : Set String :=
  {q | ∃ r ∈ ids, ∃ room, v.rooms r = some room ∧ q ∈ room.playerIds}

theorem registry_endGame (env : Env) {σ : RoomServer} {r : String} {room : Room}
    (hroom : σ.registry.rooms r = some room) :
    (σ.endGame env r).registry = (σ.registry.setRoom r none).evict room.playerIds := by
  have hr : σ.manager.rooms.find? r = some room := hroom
  obtain ⟨hereg, -⟩ := endSession_spec env room.sessionId
    (σ.broadcastToRoom room (.reject ⟨.roomClosed, "Game server disconnected"⟩))
  simp only [endGame, hr]
  rw [registry_eraseRoom, registry_evictPlayers, hereg, registry_broadcastToRoom]
  rfl

/-- The players of a room that ends come back to the lobby. -/
theorem empties_endGame {σ : RoomServer} {r : String} {room : Room}
    (hroom : σ.registry.rooms r = some room) :
    Empties {q | q ∈ room.playerIds} ∅ {q | q ∈ room.playerIds} σ (σ.endGame env r) := by
  have hr : σ.manager.rooms.find? r = some room := hroom
  have hreg := registry_endGame env hroom
  constructor
  · intro q _
    rw [hreg]
    rfl
  · intro q hq
    exact absurd hq (Set.notMem_empty q)
  · intro q hq
    rw [hreg]
    exact if_pos hq
  · intro q hq
    rw [hreg]
    exact if_neg hq
  · intro t
    obtain ⟨hereg, -⟩ := endSession_spec env room.sessionId
      (σ.broadcastToRoom room (.reject ⟨.roomClosed, "Game server disconnected"⟩))
    rw [registry_broadcastToRoom] at hereg
    simp only [endGame, hr]
    apply mem_lobby_evictPlayers.trans
    simp only [lobby_endSession, broadcastToRoom, lobby_broadcast, Set.mem_ofPred_eq]
    simp only [broadcastToRoom] at hereg
    simp only [lock_of_registry hereg]

theorem empties_endGames (ids : List String) (σ : RoomServer) :
    Empties (σ.registry.within ids) ∅ (σ.registry.within ids) σ
        (ids.foldl (RoomServer.endGame env) σ) ∧
      (ids.foldl (RoomServer.endGame env) σ).clients = σ.clients := by
  induction ids generalizing σ with
  | nil =>
      refine ⟨Empties.refl ?_ ?_, rfl⟩
      · intro q hq
        obtain ⟨r, hr, -⟩ := hq
        cases hr
      · intro q hq
        obtain ⟨r, hr, -⟩ := hq
        cases hr
  | cons r ids ih =>
      rw [List.foldl_cons]
      cases hroom : σ.manager.rooms.find? r with
      | none =>
          have hnone : σ.registry.rooms r = none := hroom
          have hskip : σ.endGame env r = σ := by simp only [endGame, hroom]
          have hwithin : σ.registry.within (r :: ids) = σ.registry.within ids := by
            ext q
            simp [Registry.within, hnone]
          rw [hskip, hwithin]
          exact ih σ
      | some room =>
          have hreg : σ.registry.rooms r = some room := hroom
          have hend := registry_endGame env hreg
          have hclients : (σ.endGame env r).clients = σ.clients :=
            congrArg Registry.clients hend
          -- the room that has ended counts only once
          have hwithin : σ.registry.within (r :: ids) =
              {q | q ∈ room.playerIds} ∪ (σ.endGame env r).registry.within ids := by
            ext q
            rw [hend]
            by_cases hq : q ∈ room.playerIds
            · simp [Registry.within, hreg, hq]
            · simp only [Registry.within, Set.mem_ofPred_eq, List.mem_cons, exists_eq_or_imp,
                hreg, Option.some.injEq, exists_eq_left', hq, false_or, Set.mem_union]
              apply exists_congr
              intro r'
              by_cases hr' : r' = r
              · subst hr'
                simp [hreg, hq]
              · simp [Function.update_of_ne hr']
          obtain ⟨hrest, hrestClients⟩ := ih (σ.endGame env r)
          rw [hwithin]
          exact ⟨(empties_endGame hreg).trans hclients hrest, hrestClients.trans hclients⟩

theorem empties_handleGameServerDisconnect (env : Env) (σ : RoomServer) :
    Empties σ.registry.playing ∅ σ.registry.playing σ (σ.handleGameServerDisconnect env) ∧
      (σ.handleGameServerDisconnect env).clients = σ.clients := by
  have hplaying : σ.registry.playing = σ.registry.within σ.inGameRoomIds := by
    ext q
    simp only [Registry.playing, Registry.within, mem_inGameRoomIds, Set.mem_ofPred_eq]
    constructor
    · intro hq
      obtain ⟨r, room, hroom, hstate, hq⟩ := hq
      exact ⟨r, ⟨room, hroom, hstate⟩, room, hroom, hq⟩
    · intro hq
      obtain ⟨r, ⟨room, hroom, hstate⟩, room', hroom', hq⟩ := hq
      cases hroom.symm.trans hroom'
      exact ⟨r, room, hroom, hstate, hq⟩
  rw [hplaying]
  exact empties_endGames σ.inGameRoomIds σ

end Room

end SosBackend
