import SosBackend.Room.Index

/-!
# Requests that are granted or refused

`CreateRoom`, `JoinRoom` and `StartGame` are checked before anything is written. The checks
that `addPlayer` makes are not asked for their result: that a player who is let in is on no
roster yet, and on one afterwards, follows from the index and the rosters saying the same.
-/

namespace SosBackend

namespace Room

open RoomServer

/-!
## When a request is granted, and what it does
-/

/-- No other live connection is registered for the player, the connection has no other
player, and the player is on no roster. -/
structure MayEnter (σ : RoomServer) (p : String) (s : SessionPtr) : Prop where
  unshared : ∀ t, σ.manager.sessions.find? p = some t → (σ.clients t).lifetime = .alive → t = s
  same : (σ.clients s).playerId = "" ∨ (σ.clients s).playerId = p
  outside : ∀ r room, σ.manager.rooms.find? r = some room → p ∉ room.playerIds

/-- A room may be joined that is there, is waiting and has a seat left. -/
def MayJoin (σ : RoomServer) (request : JoinRoomRequest) (s : SessionPtr) : Prop :=
  MayEnter σ request.playerId s ∧ ∃ room, σ.manager.rooms.find? request.roomId = some room ∧
    room.state = .waiting ∧ room.players.length < room.maxPlayers.toNat

def MayCreate (env : Env) (σ : RoomServer) (request : CreateRoomRequest) (s : SessionPtr) :
    Prop :=
  MayEnter σ request.playerId s ∧ σ.manager.rooms.size < env.maxRooms.toNat ∧
    1 ≤ request.maxPlayers ∧ request.maxPlayers ≤ env.maxPlayersPerRoom

/-- The player is the host of the room it is in, no room is in game, and everybody in the
room is ready who is not marked as the host. -/
def MayStart (σ : RoomServer) (p : String) : Prop :=
  (∃ r room, σ.manager.rooms.find? r = some room ∧ p ∈ room.playerIds ∧ room.hostId = p ∧
    ∀ player ∈ room.players, player.isHost = false → player.isReady = true) ∧
  ∀ r room, σ.manager.rooms.find? r = some room → room.state ≠ .inGame

/-- A response that says that the player is in the room. -/
def grants (d : Delivery) : Bool :=
  match d.envelope with
  | .createRoomResponse response => response.success
  | .joinRoomResponse response => response.success
  | _ => false

/-- What has been sent between two states. -/
def newlySent (σ τ : RoomServer) : List Delivery := τ.sent.drop σ.sent.length

/-- A response has been sent that says that the player is in the room. -/
def Granted (σ τ : RoomServer) : Prop := ∃ d ∈ newlySent σ τ, grants d = true

/-- The player is on the roster of the room, once, and on no other; and there is one such
response, to the connection. -/
structure Enters (σ τ : RoomServer) (p r : String) (s : SessionPtr) : Prop where
  seat : ∃ room, τ.manager.rooms.find? r = some room ∧ room.playerIds.count p = 1
  only : ∀ r' room, τ.manager.rooms.find? r' = some room → p ∈ room.playerIds → r' = r
  reply : ∃ d, (newlySent σ τ).filter grants = [d] ∧ d.session = s

/-- A refusal is sent, and nothing else happens. -/
def Refused (σ τ : RoomServer) (s : SessionPtr) (addressee : Option String) : Prop :=
  ∃ reject, τ = σ.send s addressee (.reject reject)

/-- A room that waited is in game. -/
def Started (σ τ : RoomServer) : Prop :=
  ∃ r room room', σ.manager.rooms.find? r = some room ∧ room.state = .waiting ∧
    τ.manager.rooms.find? r = some room' ∧ room'.state = .inGame

/-- The requests are granted under their conditions, and refused without a trace otherwise. -/
structure RequestsAtomic (env : Env) (σ : RoomServer) : Prop where
  join_iff : ∀ request s, Granted σ (σ.handleJoinRoom request s) ↔ MayJoin σ request s
  join_enters : ∀ request s, MayJoin σ request s →
    Enters σ (σ.handleJoinRoom request s) request.playerId request.roomId s
  join_refused : ∀ request s, ¬ MayJoin σ request s →
    Refused σ (σ.handleJoinRoom request s) s none
  create_iff : ∀ request s, Granted σ (σ.handleCreateRoom env request s) ↔
    MayCreate env σ request s
  create_enters : ∀ request s, MayCreate env σ request s →
    Enters σ (σ.handleCreateRoom env request s) request.playerId
      (env.uuid σ.backend.uuidsIssued) s
  create_refused : ∀ request s, ¬ MayCreate env σ request s →
    Refused σ (σ.handleCreateRoom env request s) s none
  start_iff : ∀ p, Started σ (σ.handleStartGame env p) ↔ MayStart σ p
  start_refused : ∀ p s, ¬ MayStart σ p →
    (∃ r room, σ.manager.rooms.find? r = some room ∧ p ∈ room.playerIds) →
      σ.lock p = some s → Refused σ (σ.handleStartGame env p) s (some p)
  start_ignored : ∀ p, ¬ MayStart σ p →
    ((∀ r room, σ.manager.rooms.find? r = some room → p ∉ room.playerIds) ∨
      σ.lock p = none) → σ.handleStartGame env p = σ

variable {env : Env} {σ : RoomServer}

/-!
## The checks
-/

theorem identityRejection_eq_none_iff {p : String} {s : SessionPtr} :
    σ.identityRejection p s = none ↔ σ.registry.Admits p s := by
  constructor
  · exact admits_of_identityRejection
  · intro h
    have hunshared : ((σ.lock p).any fun existing => existing != s) = false := by
      cases hlock : σ.lock p with
      | none => rfl
      | some t =>
          obtain ⟨ht, halive⟩ := lock_eq_some.1 hlock
          obtain rfl := h.unshared t ht halive
          exact bne_self_eq_false t
    have hsame : ((σ.clients s).playerId != "" && (σ.clients s).playerId != p) = false := by
      rcases h.same with hempty | hp
      · have hempty' : (σ.clients s).playerId = "" := hempty
        rw [hempty']
        rfl
      · have hp' : (σ.clients s).playerId = p := hp
        rw [hp', bne_self_eq_false, Bool.and_false]
    have houtside : σ.manager.playerToRoom.contains p = false :=
      UnorderedMap.contains_eq_false_iff.2 h.outside
    rw [identityRejection, hunshared, hsame, houtside]
    rfl

/-- On no roster means in no room of the index. -/
theorem mayEnter_iff (hσ : σ.registry.Indexed env) {p : String} {s : SessionPtr} :
    MayEnter σ p s ↔ σ.registry.Admits p s := by
  constructor
  · intro h
    refine ⟨h.unshared, h.same, ?_⟩
    cases hp : σ.registry.playerToRoom p with
    | none => rfl
    | some r =>
        obtain ⟨room, hroom, hmem⟩ := (hσ.index p r).1 hp
        exact absurd hmem (h.outside r room hroom)
  · intro h
    refine ⟨h.unshared, h.same, fun r room hroom hmem => ?_⟩
    have hp := (hσ.index p r).2 ⟨room, hroom, hmem⟩
    rw [h.outside] at hp
    cases hp

theorem createRejection_eq_none_iff (hσ : σ.registry.Indexed env) {request : CreateRoomRequest}
    {s : SessionPtr} : σ.createRejection env request s = none ↔ MayCreate env σ request s := by
  rw [MayCreate, mayEnter_iff hσ]
  constructor
  · exact of_createRejection_eq_none
  · intro h
    obtain ⟨hadmits, hcount, hmin, hmax⟩ := h
    rw [createRejection, identityRejection_eq_none_iff.2 hadmits]
    simp only
    rw [if_neg (not_le.2 hcount), if_neg]
    rw [not_or, UInt32.not_lt, UInt32.not_lt]
    exact ⟨hmin, hmax⟩

theorem isFull_eq_false_iff {room : Room} :
    room.isFull = false ↔ room.players.length < room.maxPlayers.toNat := by
  rw [Room.isFull, decide_eq_false_iff_not, not_le]

theorem exists_joinableRoom_iff (hσ : σ.registry.Indexed env) {request : JoinRoomRequest}
    {s : SessionPtr} : (∃ room, σ.joinableRoom request s = .ok room) ↔ MayJoin σ request s := by
  rw [MayJoin, mayEnter_iff hσ]
  constructor
  · intro h
    obtain ⟨room, hroom⟩ := h
    obtain ⟨hadmits, hfind, hstate, hfull⟩ := of_joinableRoom_eq_ok hroom
    exact ⟨hadmits, room, hfind, hstate, isFull_eq_false_iff.1 hfull⟩
  · intro h
    obtain ⟨hadmits, room, hfind, hstate, hseat⟩ := h
    refine ⟨room, ?_⟩
    rw [joinableRoom, identityRejection_eq_none_iff.2 hadmits]
    simp only [hfind]
    rw [hstate, isFull_eq_false_iff.2 hseat]
    rfl

/-!
## Refusals
-/

theorem newlySent_send (σ : RoomServer) (s : SessionPtr) (addressee : Option String)
    (envelope : Envelope) :
    newlySent σ (σ.send s addressee envelope) = [⟨s, addressee, envelope⟩] :=
  List.drop_left

/-- A refusal grants nothing. -/
theorem Refused.not_granted {τ : RoomServer} {s : SessionPtr} {addressee : Option String}
    (h : Refused σ τ s addressee) : ¬ Granted σ τ := by
  obtain ⟨reject, rfl⟩ := h
  intro hgranted
  obtain ⟨d, hd, hgrants⟩ := hgranted
  rw [newlySent_send, List.mem_singleton] at hd
  rw [hd] at hgrants
  cases hgrants

theorem Enters.granted {τ : RoomServer} {p r : String} {s : SessionPtr}
    (h : Enters σ τ p r s) : Granted σ τ := by
  obtain ⟨d, hd, -⟩ := h.reply
  have hmem : d ∈ (newlySent σ τ).filter grants := by
    rw [hd]
    exact List.mem_singleton_self d
  exact ⟨d, (List.mem_filter.1 hmem).1, (List.mem_filter.1 hmem).2⟩

theorem refused_of_createRejection {request : CreateRoomRequest} {s : SessionPtr}
    {reject : RejectResponse} (h : σ.createRejection env request s = some reject) :
    Refused σ (σ.handleCreateRoom env request s) s none := by
  refine ⟨reject, ?_⟩
  rw [handleCreateRoom, h]
  rfl

theorem refused_of_joinableRoom {request : JoinRoomRequest} {s : SessionPtr}
    {reject : RejectResponse} (h : σ.joinableRoom request s = .error reject) :
    Refused σ (σ.handleJoinRoom request s) s none := by
  refine ⟨reject, ?_⟩
  rw [handleJoinRoom, h]
  rfl

/-!
## Entering a room
-/

/-- One more player, who was in no room, is in this one. -/
theorem enters_of_rooms {τ : RoomServer} {p r : String} {s : SessionPtr} {room : Room}
    {d : Delivery} {others : List Delivery}
    (hrooms : τ.registry.rooms = Function.update σ.registry.rooms r (some room))
    (hcount : room.playerIds.count p = 1) (hadmits : MayEnter σ p s)
    (hsent : τ.sent = σ.sent ++ d :: others) (hsession : d.session = s)
    (hgrants : grants d = true) (hothers : ∀ d ∈ others, grants d = false) :
    Enters σ τ p r s := by
  have hfind : ∀ r', τ.manager.rooms.find? r' =
      Function.update σ.registry.rooms r (some room) r' := congrFun hrooms
  constructor
  · refine ⟨room, ?_, hcount⟩
    rw [hfind, Function.update_self]
  · intro r' room' hroom' hmem
    by_contra hne
    rw [hfind, Function.update_of_ne hne] at hroom'
    exact hadmits.outside r' room' hroom' hmem
  · refine ⟨d, ?_, hsession⟩
    have hnone : others.filter grants = [] := by
      rw [List.filter_eq_nil_iff]
      intro d' hd'
      rw [hothers d' hd']
      exact Bool.false_ne_true
    rw [newlySent, hsent, List.drop_left, List.filter_cons_of_pos hgrants, hnone]

theorem enters_handleCreateRoom (hσ : σ.registry.Indexed env) {request : CreateRoomRequest}
    {s : SessionPtr} (h : MayCreate env σ request s) :
    Enters σ (σ.handleCreateRoom env request s) request.playerId
      (env.uuid σ.backend.uuidsIssued) s := by
  have hpass := (createRejection_eq_none_iff hσ).2 h
  refine enters_of_rooms (congrArg Registry.rooms (registry_handleCreateRoom hpass)) ?_ h.1
    (sent_handleCreateRoom hpass) rfl rfl ?_
  · rw [Room.playerIds_create]
    exact List.count_singleton_self
  · exact fun d hd => absurd hd List.not_mem_nil

theorem exists_sent_handleJoinRoom {request : JoinRoomRequest} {s : SessionPtr} {room : Room}
    (h : σ.joinableRoom request s = .ok room) : ∃ response others,
      (σ.handleJoinRoom request s).sent =
        σ.sent ++ ⟨s, none, .joinRoomResponse response⟩ :: others ∧
      response.success = true ∧ ∀ d ∈ others, grants d = false := by
  simp only [handleJoinRoom, h]
  rw [sent_notifyRoomListChanged, broadcastToRoomExcept, sent_broadcast, send,
    List.append_assoc]
  refine ⟨_, _, rfl, rfl, fun d hd => ?_⟩
  obtain ⟨q, -, hq⟩ := List.mem_filterMap.1 hd
  obtain ⟨t, -, rfl⟩ := Option.map_eq_some_iff.1 hq
  rfl

theorem enters_handleJoinRoom (hσ : σ.registry.Indexed env) {request : JoinRoomRequest}
    {s : SessionPtr} (h : MayJoin σ request s) :
    Enters σ (σ.handleJoinRoom request s) request.playerId request.roomId s := by
  obtain ⟨room, hpass⟩ := (exists_joinableRoom_iff hσ).2 h
  obtain ⟨-, hroom, -, -⟩ := of_joinableRoom_eq_ok hpass
  obtain ⟨response, others, hsent, hsuccess, hothers⟩ := exists_sent_handleJoinRoom hpass
  refine enters_of_rooms (congrArg Registry.rooms (registry_handleJoinRoom hpass)) ?_ h.1
    hsent rfl hsuccess hothers
  have hids : (room.addPlayer request.playerId request.playerName).2.playerIds =
      room.playerIds ++ [request.playerId] := by
    rw [addPlayer_of_joinableRoom (fun p r room hroom hmem => (hσ.index p r).2
      ⟨room, hroom, hmem⟩) hpass, Room.playerIds, List.map_append]
    rfl
  rw [hids, List.count_append, List.count_eq_zero_of_not_mem (h.1.outside _ room hroom),
    List.count_singleton_self]

/-!
## Starting a game
-/

/-- The checks of `handleStartGame` on the room of the player. -/
theorem startRejection_eq_none_iff {p : String} {room : Room} :
    σ.startRejection room p = none ↔
      room.isHost p = true ∧ ¬ σ.registry.Busy ∧ room.canStart = true := by
  constructor
  · exact of_startRejection_eq_none
  · intro h
    obtain ⟨hhost, hidle, hready⟩ := h
    have hactive : σ.hasActiveGame = false :=
      Bool.eq_false_iff.2 fun hactive => hidle (hasActiveGame_iff.1 hactive)
    rw [startRejection, hhost, hactive, hready]
    rfl

theorem mayStart_iff (hσ : σ.registry.Indexed env) {p : String} : MayStart σ p ↔
    ∃ r room, σ.manager.playerToRoom.find? p = some r ∧
      σ.manager.rooms.find? r = some room ∧ σ.startRejection room p = none := by
  simp only [startRejection_eq_none_iff]
  constructor
  · intro h
    obtain ⟨⟨r, room, hroom, hmem, hhost, hready⟩, hidle⟩ := h
    refine ⟨r, room, (hσ.index p r).2 ⟨room, hroom, hmem⟩, hroom, ?_, ?_, ?_⟩
    · exact beq_iff_eq.2 hhost.symm
    · intro hbusy
      obtain ⟨r', room', hroom', hstate⟩ := hbusy
      exact hidle r' room' hroom' hstate
    · exact Room.canStart_iff.2 hready
  · intro h
    obtain ⟨r, room, hp, hroom, hhost, hidle, hready⟩ := h
    refine ⟨⟨r, room, hroom, hσ.mem_of_index hp hroom, ?_, Room.canStart_iff.1 hready⟩, ?_⟩
    · exact (beq_iff_eq.1 hhost).symm
    · exact fun r' room' hroom' hstate => hidle ⟨r', room', hroom', hstate⟩

theorem handleStartGame_of_outside {p : String}
    (hp : σ.manager.playerToRoom.find? p = none) : σ.handleStartGame env p = σ := by
  rw [handleStartGame, hp]

/-- A player in a room who may not start is sent a refusal. -/
theorem exists_refusal_of_not_mayStart (hσ : σ.registry.Indexed env) {p r : String}
    (h : ¬ MayStart σ p) (hp : σ.manager.playerToRoom.find? p = some r) :
    ∃ reject, σ.handleStartGame env p = σ.sendTo p (.reject reject) := by
  obtain ⟨room, hroom, -⟩ := (hσ.index p r).1 hp
  have hfind : σ.manager.rooms.find? r = some room := hroom
  cases hreject : σ.startRejection room p with
  | none => exact absurd ((mayStart_iff hσ).2 ⟨r, room, hp, hroom, hreject⟩) h
  | some reject =>
      refine ⟨reject, ?_⟩
      simp only [handleStartGame, hp, hfind, hreject]

theorem registry_of_not_mayStart (hσ : σ.registry.Indexed env) {p : String}
    (h : ¬ MayStart σ p) : (σ.handleStartGame env p).registry = σ.registry := by
  cases hp : σ.manager.playerToRoom.find? p with
  | none => rw [handleStartGame_of_outside hp]
  | some r =>
      obtain ⟨reject, heq⟩ := exists_refusal_of_not_mayStart hσ h hp
      rw [heq, registry_sendTo]

theorem started_of_mayStart (hσ : σ.registry.Indexed env) {p : String} (h : MayStart σ p) :
    Started σ (σ.handleStartGame env p) := by
  obtain ⟨r, room, hp, hroom, hpass⟩ := (mayStart_iff hσ).1 h
  have heq : σ.handleStartGame env p = σ.startRoom env r room := by
    simp only [handleStartGame, hp, hroom, hpass]
  have heffect : Effect env σ _ (σ.startRoom env r room) := effect_startRoom hp hroom hpass
  obtain ⟨hidle, -, -, room', hroom', hstart⟩ := heffect.act.start_inv
  cases hroom.symm.trans hroom'
  refine ⟨r, room, _, hroom, ?_, by rw [heq]; exact hstart, rfl⟩
  cases hstate : room.state with
  | waiting => rfl
  | inGame => exact absurd ⟨r, room, hroom, hstate⟩ hidle

theorem not_started_of_registry {τ : RoomServer} (h : τ.registry = σ.registry) :
    ¬ Started σ τ := by
  intro hstarted
  obtain ⟨r, room, room', hroom, hwaiting, hroom', hinGame⟩ := hstarted
  have hτ : σ.registry.rooms r = some room' := by
    rw [← h]
    exact hroom'
  cases (show some room = some room' from hroom.symm.trans hτ)
  rw [hwaiting] at hinGame
  cases hinGame

/-- In every state that a run reaches, requests are granted or refused as a whole. -/
theorem requestsAtomic_of_run {store : Redis.Keyspace} {is : List Input}
    (hrun : Run (Step env) (initial store) is σ) : RequestsAtomic env σ := by
  have hσ : σ.registry.Indexed env := indexed_of_run (fun _ _ _ h => h) hrun
  have hjoin : ∀ request s, ¬ MayJoin σ request s →
      Refused σ (σ.handleJoinRoom request s) s none := by
    intro request s hnot
    cases hpass : σ.joinableRoom request s with
    | error reject => exact refused_of_joinableRoom hpass
    | ok room => exact absurd ((exists_joinableRoom_iff hσ).1 ⟨room, hpass⟩) hnot
  have hcreate : ∀ request s, ¬ MayCreate env σ request s →
      Refused σ (σ.handleCreateRoom env request s) s none := by
    intro request s hnot
    cases hpass : σ.createRejection env request s with
    | some reject => exact refused_of_createRejection hpass
    | none => exact absurd ((createRejection_eq_none_iff hσ).1 hpass) hnot
  constructor
  case join_iff =>
    intro request s
    constructor
    · intro hgranted
      by_contra hnot
      exact (hjoin request s hnot).not_granted hgranted
    · exact fun h => (enters_handleJoinRoom hσ h).granted
  case join_enters => exact fun request s h => enters_handleJoinRoom hσ h
  case join_refused => exact hjoin
  case create_iff =>
    intro request s
    constructor
    · intro hgranted
      by_contra hnot
      exact (hcreate request s hnot).not_granted hgranted
    · exact fun h => (enters_handleCreateRoom hσ h).granted
  case create_enters => exact fun request s h => enters_handleCreateRoom hσ h
  case create_refused => exact hcreate
  case start_iff =>
    intro p
    constructor
    · intro hstarted
      by_contra hnot
      exact not_started_of_registry (registry_of_not_mayStart hσ hnot) hstarted
    · exact started_of_mayStart hσ
  case start_refused =>
    intro p s hnot hroom hlock
    obtain ⟨r, room, hroom, hmem⟩ := hroom
    obtain ⟨reject, heq⟩ := exists_refusal_of_not_mayStart hσ hnot
      ((hσ.index p r).2 ⟨room, hroom, hmem⟩)
    refine ⟨reject, ?_⟩
    rw [heq, sendTo, hlock]
  case start_ignored =>
    intro p hnot hnobody
    cases hp : σ.manager.playerToRoom.find? p with
    | none => exact handleStartGame_of_outside hp
    | some r =>
        obtain ⟨room, hroom, hmem⟩ := (hσ.index p r).1 hp
        obtain ⟨reject, heq⟩ := exists_refusal_of_not_mayStart hσ hnot hp
        rcases hnobody with hout | hlock
        · exact absurd hmem (hout r room hroom)
        · rw [heq, sendTo, hlock]

/-- With one room that waits: its guest is not ready. -/
theorem requestsAtomic_of_run_notReady : ∃ σ, RequestsAtomic defaultEnv σ ∧
    σ.waitingRooms.length = 1 := by
  obtain ⟨σ, hrun, hσ⟩ := exists_run_of_exec (fun _ _ => true) (step defaultEnv) (initial {})
    [.connect 0 "10.0.0.1", .connect 1 "10.0.0.2",
      .clientMessage 0 (.createRoom ⟨"p", "P", "room", 4⟩),
      .clientMessage 1 (.joinRoom ⟨"q", "Q", "u"⟩)]
    (fun σ => σ.waitingRooms.length == 1)
    (by decide +kernel)
  exact ⟨σ, requestsAtomic_of_run hrun.of_guarded, beq_iff_eq.1 hσ⟩

end Room

end SosBackend
