import SosBackend.Room.GameStart
import SosBackend.Room.Lobby

/-!
# The loss of the game server

The loop over the rooms in game takes one room after the other apart: its players are told,
its session is ended in Redis and for the Chat Server, and its players are let go to the
lobby. A room is found under its key in every round, because the rounds before have taken
other rooms; so the rooms are all there are in game, each once.
-/

namespace SosBackend

namespace Room

namespace RoomServer

/-- The rooms in game, in the order in which they are taken apart. -/
def inGameRooms (σ : RoomServer) : List Room :=
  σ.inGameRoomIds.filterMap σ.manager.rooms.find?

/-- What the players of a room are told. -/
def closings (σ : RoomServer) (room : Room) : List Delivery :=
  room.playerIds.filterMap fun p => (σ.lock p).map fun s =>
    ⟨s, some p, .reject ⟨.roomClosed, "Game server disconnected"⟩⟩

/-- The session of a room is unregistered, if there is a session store. -/
def unregisters (env : Env) (b : Backend) (room : Room) : Backend :=
  if env.sessionStore.isSome then b.unregisterGameSession env room.sessionId else b

/-- The end of a session, seen from outside. -/
def endsBackend (env : Env) (b : Backend) (room : Room) : Backend :=
  if env.chatChannel && room.sessionId != "" then
    (unregisters env b room).sendSessionEnded room.sessionId
  else unregisters env b room

end RoomServer

open RoomServer

/-- The refusal is for another reason than an earlier room or connection. -/
def RejectResponse.Readmits (reject : RejectResponse) : Prop :=
  reject.reason ≠ .alreadyInRoom ∧ reject.reason ≠ .duplicatePlayer

/-- From `σ` to `τ` the games of the rooms in `ended` have been ended, and these were all. -/
structure EndsGames (env : Env) (σ τ : RoomServer) (ended : List Room) : Prop where
  mem_ended : ∀ room, room ∈ ended ↔
    ∃ r, σ.manager.rooms.find? r = some room ∧ room.state = .inGame
  ended_nodup : ended.Nodup
  members_nodup : (ended.flatMap Room.playerIds).Nodup
  idle : ∀ r room, τ.manager.rooms.find? r = some room → room.state = .waiting
  waiting : ∀ r room, room.state = .waiting →
    (τ.manager.rooms.find? r = some room ↔ σ.manager.rooms.find? r = some room)
  redis : τ.backend.redis = (ended.foldl (unregisters env) σ.backend).redis
  chat : env.chatChannel = true → σ.backend.chat.connected = true → τ.backend.chat.sent =
    σ.backend.chat.sent ++ ended.map fun room => .sessionEnded ⟨room.sessionId⟩
  sent : τ.sent = σ.sent ++ ended.flatMap σ.closings
  gone : ∀ room ∈ ended, ∀ p ∈ room.playerIds, τ.manager.playerToRoom.find? p = none
  stay : ∀ p, (∀ room ∈ ended, p ∉ room.playerIds) →
    τ.manager.playerToRoom.find? p = σ.manager.playerToRoom.find? p
  sessions : τ.manager.sessions.find? = σ.manager.sessions.find?
  clients : τ.clients = σ.clients
  lobby : ∀ s, τ.manager.lobbySessions.contains s = true ↔
    σ.manager.lobbySessions.contains s = true ∨
      ∃ room ∈ ended, ∃ p ∈ room.playerIds, σ.lock p = some s
  create : ∀ room ∈ ended, ∀ p ∈ room.playerIds, ∀ s, σ.manager.sessions.find? p = some s →
    ∀ request reject, request.playerId = p →
      τ.createRejection env request s = some reject → reject.Readmits
  join : ∀ room ∈ ended, ∀ p ∈ room.playerIds, ∀ s, σ.manager.sessions.find? p = some s →
    ∀ request reject, request.playerId = p →
      τ.joinableRoom request s = .error reject → reject.Readmits

variable {env : Env} {σ τ : RoomServer}

/-!
## One room
-/

theorem backend_endSession (env : Env) (room : Room) (σ : RoomServer) :
    (σ.endSession env room.sessionId).backend = endsBackend env σ.backend room := by
  unfold endSession endsBackend unregisters
  cases env.sessionStore.isSome <;> cases env.chatChannel && room.sessionId != "" <;> rfl

theorem sent_evictPlayers (σ : RoomServer) (ids : List String) :
    (σ.evictPlayers ids).sent = σ.sent := by
  rw [evictPlayers]
  induction ids generalizing σ with
  | nil => rfl
  | cons p ids ih =>
      rw [List.foldl_cons, ih]
      exact sent_returnToLobby σ p

/-- What one round of the loop sends, and what it does to the outside. -/
theorem endGame_spec (env : Env) {r : String} {room : Room}
    (hroom : σ.manager.rooms.find? r = some room) :
    (σ.endGame env r).sent = σ.sent ++ σ.closings room ∧
      (σ.endGame env r).backend = endsBackend env σ.backend room := by
  simp only [endGame, hroom]
  constructor
  · refine (sent_evictPlayers _ _).trans ?_
    refine (endSession_spec env room.sessionId _).2.1.trans ?_
    exact sent_broadcast σ _ _
  · refine (backend_evictPlayers _ _).trans ?_
    rw [backend_endSession, broadcastToRoom, backend_broadcast]

/-!
## All rooms
-/

/-- What the rounds of the loop do, over different keys. A round leaves the rooms of the
others, and whom they reach, as they are. -/
theorem endGames_spec (env : Env) {ids : List String} (hnodup : ids.Nodup) (σ : RoomServer) :
    (∀ r, (ids.foldl (endGame env) σ).manager.rooms.find? r =
        if r ∈ ids then none else σ.manager.rooms.find? r) ∧
      (ids.foldl (endGame env) σ).sent =
        σ.sent ++ (ids.filterMap σ.manager.rooms.find?).flatMap σ.closings ∧
      (ids.foldl (endGame env) σ).backend =
        (ids.filterMap σ.manager.rooms.find?).foldl (endsBackend env) σ.backend := by
  induction ids generalizing σ with
  | nil => exact ⟨fun r => rfl, (List.append_nil _).symm, rfl⟩
  | cons r ids ih =>
      obtain ⟨hr, hnodup⟩ := List.nodup_cons.1 hnodup
      rw [List.foldl_cons]
      cases hroom : σ.manager.rooms.find? r with
      | none =>
          have hskip : σ.endGame env r = σ := by simp only [endGame, hroom]
          obtain ⟨hrooms, hsent, hbackend⟩ := ih hnodup σ
          rw [hskip, List.filterMap_cons_none hroom]
          refine ⟨fun r' => ?_, hsent, hbackend⟩
          rw [hrooms]
          by_cases hr' : r' = r
          · rw [hr', hroom, ite_self, ite_self]
          · simp only [List.mem_cons, hr', false_or]
      | some room =>
          have hreg := registry_endGame env (show σ.registry.rooms r = some room from hroom)
          have hfind : ∀ r', (σ.endGame env r).manager.rooms.find? r' =
              if r' = r then none else σ.manager.rooms.find? r' := by
            intro r'
            have hupdate := congrFun (congrArg Registry.rooms hreg) r'
            refine hupdate.trans ?_
            rw [Registry.evict_rooms, Registry.setRoom_rooms, Function.update_apply]
            rfl
          have hclosings : (σ.endGame env r).closings = σ.closings := by
            have hlock : (σ.endGame env r).lock = σ.lock := by
              funext p
              apply lock_congr
              · rw [hreg]
                rfl
              · exact fun t => congrArg (fun v : Registry => (v.clients t).lifetime) hreg
            unfold closings
            rw [hlock]
          have hothers : ids.filterMap (σ.endGame env r).manager.rooms.find? =
              ids.filterMap σ.manager.rooms.find? := by
            apply List.filterMap_congr
            intro r' hr'
            have hne : r' ≠ r := by
              intro heq
              rw [heq] at hr'
              exact hr hr'
            rw [hfind, if_neg hne]
          obtain ⟨hsent, hbackend⟩ := endGame_spec env hroom
          obtain ⟨hrooms, hsents, hbackends⟩ := ih hnodup (σ.endGame env r)
          rw [List.filterMap_cons_some hroom, List.flatMap_cons, List.foldl_cons]
          refine ⟨fun r' => ?_, ?_, ?_⟩
          · rw [hrooms, hfind]
            by_cases hr' : r' = r
            · simp only [hr', List.mem_cons, true_or, if_true, ite_self]
            · simp only [hr', List.mem_cons, false_or, if_false]
          · rw [hsents, hothers, hclosings, hsent, List.append_assoc]
          · rw [hbackends, hothers, hbackend]

theorem nodup_inGameRoomIds (σ : RoomServer) : σ.inGameRoomIds.Nodup := by
  unfold inGameRoomIds
  exact List.Nodup.sublist (List.Sublist.map _ List.filter_sublist) σ.manager.rooms.nodupKeys

theorem mem_inGameRooms {room : Room} : room ∈ σ.inGameRooms ↔
    ∃ r, σ.manager.rooms.find? r = some room ∧ room.state = .inGame := by
  unfold inGameRooms
  rw [List.mem_filterMap]
  constructor
  · intro h
    obtain ⟨r, hr, hroom⟩ := h
    obtain ⟨room', hroom', hstate⟩ := mem_inGameRoomIds.1 hr
    cases hroom.symm.trans hroom'
    exact ⟨r, hroom, hstate⟩
  · intro h
    obtain ⟨r, hroom, hstate⟩ := h
    exact ⟨r, mem_inGameRoomIds.2 ⟨room, hroom, hstate⟩, hroom⟩

/-- The rooms are as many as their keys. -/
theorem map_roomId_inGameRooms (hσ : σ.registry.Indexed env) :
    σ.inGameRooms.map Room.roomId = σ.inGameRoomIds := by
  have hids : ∀ r ∈ σ.inGameRoomIds, ∃ room, σ.manager.rooms.find? r = some room :=
    fun r hr => (mem_inGameRoomIds.1 hr).imp fun _ => And.left
  unfold inGameRooms
  generalize σ.inGameRoomIds = ids at hids
  induction ids with
  | nil => rfl
  | cons r ids ih =>
      obtain ⟨room, hroom⟩ := hids r List.mem_cons_self
      rw [List.filterMap_cons_some hroom, List.map_cons, hσ.keyed r room hroom,
        ih fun r' hr' => hids r' (List.mem_cons_of_mem _ hr')]

theorem nodup_inGameRooms (hσ : σ.registry.Indexed env) : σ.inGameRooms.Nodup := by
  have hids := nodup_inGameRoomIds σ
  rw [← map_roomId_inGameRooms hσ] at hids
  exact hids.of_map Room.roomId

/-- Nobody is in two rooms, or twice in one. -/
theorem nodup_members (hσ : σ.registry.Indexed env) :
    (σ.inGameRooms.flatMap Room.playerIds).Nodup := by
  rw [List.nodup_flatMap]
  constructor
  · intro room hroom
    obtain ⟨r, hr, -⟩ := mem_inGameRooms.1 hroom
    exact hσ.nodup r room hr
  · apply (nodup_inGameRooms hσ).pairwise_of_forall_ne
    intro room hroom room' hroom' hne p hp hp'
    obtain ⟨r, hr, -⟩ := mem_inGameRooms.1 hroom
    obtain ⟨r', hr', -⟩ := mem_inGameRooms.1 hroom'
    have hindex := (hσ.index p r).2 ⟨room, hr, hp⟩
    cases hindex.symm.trans ((hσ.index p r').2 ⟨room', hr', hp'⟩)
    exact hne (Option.some.inj (hr.symm.trans hr'))

/-!
## The outside
-/

theorem redis_endsBackend (env : Env) (rooms : List Room) {b b' : Backend}
    (h : b.redis = b'.redis) : (rooms.foldl (endsBackend env) b).redis =
      (rooms.foldl (unregisters env) b').redis := by
  induction rooms generalizing b b' with
  | nil => exact h
  | cons room rooms ih =>
      rw [List.foldl_cons, List.foldl_cons]
      apply ih
      have hchat : (endsBackend env b room).redis = (unregisters env b room).redis := by
        unfold endsBackend
        split
        · unfold Backend.sendSessionEnded Backend.sendToChat
          split <;> rfl
        · rfl
      rw [hchat, unregisters, unregisters]
      split
      · rw [Backend.unregisterGameSession, Backend.unregisterGameSession, Backend.redisCall,
          Backend.redisCall, h]
      · exact h

theorem chat_unregisters (env : Env) (b : Backend) (room : Room) :
    (unregisters env b room).chat = b.chat := by
  unfold unregisters
  split <;> rfl

/-- The Chat Server is told of every session, if it can be reached. -/
theorem chat_endsBackend {rooms : List Room} {b : Backend} (hchannel : env.chatChannel = true)
    (hconnected : b.chat.connected = true) (hsid : ∀ room ∈ rooms, room.sessionId ≠ "") :
    (rooms.foldl (endsBackend env) b).chat.sent =
      b.chat.sent ++ rooms.map fun room => .sessionEnded ⟨room.sessionId⟩ := by
  induction rooms generalizing b with
  | nil => exact (List.append_nil _).symm
  | cons room rooms ih =>
      have hne : room.sessionId != "" := bne_iff_ne.2 (hsid room List.mem_cons_self)
      have hchat : (endsBackend env b room).chat = { b.chat with
          sent := b.chat.sent ++ [.sessionEnded ⟨room.sessionId⟩] } := by
        rw [endsBackend, hchannel, hne, Bool.true_and, if_pos rfl, Backend.sendSessionEnded,
          Backend.sendToChat, chat_unregisters, if_pos hconnected]
      rw [List.foldl_cons, ih (by rw [hchat]; exact hconnected)
        fun room' hroom' => hsid room' (List.mem_cons_of_mem _ hroom'), hchat, List.map_cons,
        List.append_assoc]
      rfl

/-!
## Back in the lobby
-/

/-- A connection that is registered for its player, who is in no room, is not taken for
another one, nor its player for one in a room. -/
theorem readmits_identityRejection {p : String} {s : SessionPtr} {reject : RejectResponse}
    (hs : σ.manager.sessions.find? p = some s) (hp : σ.manager.playerToRoom.find? p = none)
    (h : σ.identityRejection p s = some reject) : reject.Readmits := by
  have hsame : ((σ.lock p).any fun existing => existing != s) = false := by
    rw [lock, hs, Option.filter_some]
    split
    · exact bne_self_eq_false s
    · rfl
  have hout : σ.manager.playerToRoom.contains p = false := by
    rw [UnorderedMap.contains, hp]
    rfl
  rw [identityRejection, hsame, hout, if_neg Bool.false_ne_true] at h
  split at h
  · cases h
    exact ⟨RejectReason.noConfusion, RejectReason.noConfusion⟩
  · cases h

theorem readmits_createRejection {request : CreateRoomRequest} {s : SessionPtr}
    {reject : RejectResponse} (hs : σ.manager.sessions.find? request.playerId = some s)
    (hp : σ.manager.playerToRoom.find? request.playerId = none)
    (h : σ.createRejection env request s = some reject) : reject.Readmits := by
  unfold createRejection at h
  split at h
  · next heq =>
      cases h
      exact readmits_identityRejection hs hp heq
  · split at h
    · cases h
      exact ⟨RejectReason.noConfusion, RejectReason.noConfusion⟩
    · split at h
      · cases h
        exact ⟨RejectReason.noConfusion, RejectReason.noConfusion⟩
      · cases h

theorem readmits_joinableRoom {request : JoinRoomRequest} {s : SessionPtr}
    {reject : RejectResponse} (hs : σ.manager.sessions.find? request.playerId = some s)
    (hp : σ.manager.playerToRoom.find? request.playerId = none)
    (h : σ.joinableRoom request s = .error reject) : reject.Readmits := by
  unfold joinableRoom at h
  split at h
  · next heq =>
      cases h
      exact readmits_identityRejection hs hp heq
  · split at h
    · cases h
      exact ⟨RejectReason.noConfusion, RejectReason.noConfusion⟩
    · split at h
      · cases h
        exact ⟨RejectReason.noConfusion, RejectReason.noConfusion⟩
      · split at h
        · cases h
          exact ⟨RejectReason.noConfusion, RejectReason.noConfusion⟩
        · cases h

/-- The loss of the game server ends the games there are, and touches nothing else. -/
theorem endsGames_handleGameServerDisconnect {store : Redis.Keyspace} {is : List Input}
    (hrun : Run (Step env) (initial store) is σ) :
    EndsGames env σ (σ.handleGameServerDisconnect env) σ.inGameRooms := by
  have hσ : σ.registry.Indexed env := indexed_of_run (fun _ _ _ h => h) hrun
  have hstaged : σ.registry.Staged env := staged_of_run (fun _ _ _ h => h) hrun
  obtain ⟨hrooms, hsent, hbackend⟩ := endGames_spec env (nodup_inGameRoomIds σ) σ
  obtain ⟨hempties, hclients⟩ := empties_handleGameServerDisconnect env σ
  rw [← inGameRooms] at hsent hbackend
  rw [← handleGameServerDisconnect] at hrooms hsent hbackend
  have hplaying : ∀ p, p ∈ σ.registry.playing ↔ ∃ room ∈ σ.inGameRooms, p ∈ room.playerIds := by
    intro p
    simp only [mem_inGameRooms]
    constructor
    · intro h
      obtain ⟨r, room, hroom, hstate, hp⟩ := h
      exact ⟨room, ⟨r, hroom, hstate⟩, hp⟩
    · intro h
      obtain ⟨room, ⟨r, hroom, hstate⟩, hp⟩ := h
      exact ⟨r, room, hroom, hstate, hp⟩
  have hgone : ∀ room ∈ σ.inGameRooms, ∀ p ∈ room.playerIds,
      (σ.handleGameServerDisconnect env).manager.playerToRoom.find? p = none :=
    fun room hroom p hp => hempties.gone p ((hplaying p).2 ⟨room, hroom, hp⟩)
  have hsessions : (σ.handleGameServerDisconnect env).manager.sessions.find? =
      σ.manager.sessions.find? :=
    funext fun p => hempties.registered p (Set.notMem_empty p)
  constructor
  case mem_ended => exact fun room => mem_inGameRooms
  case ended_nodup => exact nodup_inGameRooms hσ
  case members_nodup => exact nodup_members hσ
  case idle =>
    intro r room hroom
    rw [hrooms] at hroom
    split at hroom
    · cases hroom
    · next hr =>
        cases hstate : room.state with
        | waiting => rfl
        | inGame => exact absurd (mem_inGameRoomIds.2 ⟨room, hroom, hstate⟩) hr
  case waiting =>
    intro r room hstate
    rw [hrooms]
    split
    · next hr =>
        obtain ⟨room', hroom', hinGame⟩ := mem_inGameRoomIds.1 hr
        refine iff_of_false (Option.some_ne_none room).symm fun hroom => ?_
        cases hroom.symm.trans hroom'
        rw [hstate] at hinGame
        cases hinGame
    · exact Iff.rfl
  case redis =>
    rw [hbackend]
    exact redis_endsBackend env σ.inGameRooms rfl
  case chat =>
    intro hchannel hconnected
    rw [hbackend]
    apply chat_endsBackend hchannel hconnected
    intro room hroom
    obtain ⟨r, hr, hstate⟩ := mem_inGameRooms.1 hroom
    exact (hstaged.session_iff hr).2 hstate
  case sent => exact hsent
  case gone => exact hgone
  case stay =>
    intro p hp
    apply hempties.stay p
    rw [hplaying]
    exact fun h => h.elim fun room hroom => hp room hroom.1 hroom.2
  case sessions => exact hsessions
  case clients => exact hclients
  case lobby =>
    intro s
    refine (hempties.lobby s).trans (or_congr Iff.rfl ?_)
    simp only [hplaying]
    constructor
    · intro h
      obtain ⟨p, ⟨room, hroom, hp⟩, hs⟩ := h
      exact ⟨room, hroom, p, hp, hs⟩
    · intro h
      obtain ⟨room, hroom, p, hp, hs⟩ := h
      exact ⟨p, ⟨room, hroom, hp⟩, hs⟩
  case create =>
    intro room hroom p hp s hs request reject hrequest
    subst hrequest
    exact readmits_createRejection (by rw [hsessions]; exact hs) (hgone room hroom _ hp)
  case join =>
    intro room hroom p hp s hs request reject hrequest
    subst hrequest
    exact readmits_joinableRoom (by rw [hsessions]; exact hs) (hgone room hroom _ hp)

/-- A game of one player, and a room that waits. -/
theorem endsGames_handleGameServerDisconnect_one : ∃ σ, (σ.inGameRooms.length = 1 ∧
    σ.waitingRooms.length = 1) ∧
      EndsGames defaultEnv σ (σ.handleGameServerDisconnect defaultEnv) σ.inGameRooms := by
  obtain ⟨σ, hrun, hσ⟩ := exists_run_of_exec (fun _ _ => true) (step defaultEnv) (initial {})
    [.connect 0 "10.0.0.1", .connect 1 "10.0.0.2",
      .clientMessage 0 (.createRoom ⟨"p", "P", "room", 4⟩),
      .clientMessage 1 (.createRoom ⟨"q", "Q", "room", 4⟩), .clientMessage 0 .startGame]
    (fun σ => σ.inGameRooms.length == 1 && σ.waitingRooms.length == 1)
    (by decide +kernel)
  rw [Bool.and_eq_true, beq_iff_eq, beq_iff_eq] at hσ
  exact ⟨σ, hσ, endsGames_handleGameServerDisconnect hrun.of_guarded⟩

end Room

end SosBackend
