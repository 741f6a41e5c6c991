import SosBackend.Room.Steps

/-!
# The index of the room store

The map from players to rooms and the rosters of the rooms are two views of one
relation. `Indexed` says so of a registry, with what the argument needs besides:
rooms under their own ids, rosters without repetition and within their capacity,
a bounded number of rooms, and room ids that have been issued. Every change
touches one room, so `Indexed.update` is the one induction step all of them go
through.
-/

namespace SosBackend

namespace Room

/-- A room is within its capacity, and its capacity within that of the server. -/
def WithinCapacity (env : Env) (room : Room) : Prop :=
  room.players.length ≤ room.maxPlayers.toNat ∧ 1 ≤ room.maxPlayers ∧
    room.maxPlayers ≤ env.maxPlayersPerRoom

namespace Registry

/-- The index and the rosters agree. -/
structure Indexed (env : Env) (v : Registry) : Prop where
  index : ∀ p r, v.playerToRoom p = some r ↔
    ∃ room, v.rooms r = some room ∧ p ∈ room.playerIds
  keyed : ∀ r room, v.rooms r = some room → room.roomId = r
  nodup : ∀ r room, v.rooms r = some room → room.playerIds.Nodup
  capacity : ∀ r room, v.rooms r = some room → room.WithinCapacity env
  issued : ∀ r room, v.rooms r = some room → ∃ n < v.issued, r = env.uuid n
  atMost : v.AtMost env.maxRooms.toNat

theorem AtMost.mono {v w : Registry} {n : ℕ} (h : v.AtMost n)
    (hw : ∀ r, (w.rooms r).isSome → (v.rooms r).isSome) : w.AtMost n := by
  obtain ⟨ids, hids, hn⟩ := h
  exact ⟨ids, fun r hr => hids r (hw r hr), hn⟩

namespace Indexed

variable {env : Env} {v w : Registry}

/-- A room that the index names is there, with the player in it. -/
theorem mem_of_index (h : v.Indexed env) {p r : String} {room : Room}
    (hp : v.playerToRoom p = some r) (hroom : v.rooms r = some room) :
    p ∈ room.playerIds := by
  obtain ⟨room', hroom', hmem⟩ := (h.index p r).1 hp
  rw [hroom] at hroom'
  cases hroom'
  exact hmem

theorem index_of_mem (h : v.Indexed env) {p r : String} {room : Room}
    (hroom : v.rooms r = some room) (hmem : p ∈ room.playerIds) :
    v.playerToRoom p = some r :=
  (h.index p r).2 ⟨room, hroom, hmem⟩

/-- The next identifier is the id of no room. -/
theorem rooms_uuid_issued (h : v.Indexed env) : v.rooms (env.uuid v.issued) = none := by
  cases hroom : v.rooms (env.uuid v.issued) with
  | none => rfl
  | some room =>
      obtain ⟨n, hn, heq⟩ := h.issued _ room hroom
      exact absurd (env.uuid_injective heq) (Nat.ne_of_gt hn)

/-- A change that concerns one room keeps the index, if it is right for that
room and for the players in it. -/
theorem update (h : v.Indexed env) (r : String) (hrooms : ∀ r', r' ≠ r → w.rooms r' = v.rooms r')
    (hindex : ∀ p, w.playerToRoom p = some r ↔
      ∃ room, w.rooms r = some room ∧ p ∈ room.playerIds)
    (hothers : ∀ p r', r' ≠ r → (w.playerToRoom p = some r' ↔ v.playerToRoom p = some r'))
    (hroom : ∀ room, w.rooms r = some room → room.roomId = r ∧ room.playerIds.Nodup ∧
      room.WithinCapacity env ∧ ∃ n < w.issued, r = env.uuid n)
    (hissued : v.issued ≤ w.issued) (hatMost : w.AtMost env.maxRooms.toNat) :
    w.Indexed env := by
  refine ⟨?_, ?_, ?_, ?_, ?_, hatMost⟩
  · intro p r'
    by_cases hr : r' = r
    · rw [hr]
      exact hindex p
    · rw [hothers p r' hr, hrooms r' hr]
      exact h.index p r'
  · intro r' room hroom'
    by_cases hr : r' = r
    · subst hr
      exact (hroom room hroom').1
    · exact h.keyed r' room (hrooms r' hr ▸ hroom')
  · intro r' room hroom'
    by_cases hr : r' = r
    · subst hr
      exact (hroom room hroom').2.1
    · exact h.nodup r' room (hrooms r' hr ▸ hroom')
  · intro r' room hroom'
    by_cases hr : r' = r
    · subst hr
      exact (hroom room hroom').2.2.1
    · exact h.capacity r' room (hrooms r' hr ▸ hroom')
  · intro r' room hroom'
    by_cases hr : r' = r
    · subst hr
      exact (hroom room hroom').2.2.2
    · obtain ⟨n, hn, heq⟩ := h.issued r' room (hrooms r' hr ▸ hroom')
      exact ⟨n, hn.trans_le hissued, heq⟩

/-- The index is about rooms and their players only. -/
theorem of_eq (h : v.Indexed env) (hrooms : w.rooms = v.rooms)
    (hplayers : w.playerToRoom = v.playerToRoom) (hissued : v.issued ≤ w.issued) :
    w.Indexed env := by
  refine ⟨?_, ?_, ?_, ?_, ?_, ?_⟩
  · rw [hrooms, hplayers]
    exact h.index
  · rw [hrooms]
    exact h.keyed
  · rw [hrooms]
    exact h.nodup
  · rw [hrooms]
    exact h.capacity
  · rw [hrooms]
    intro r room hroom
    obtain ⟨n, hn, heq⟩ := h.issued r room hroom
    exact ⟨n, hn.trans_le hissued, heq⟩
  · exact h.atMost.mono fun r hr => by rwa [hrooms] at hr

/-- Changing a room without changing who is in it. -/
theorem setRoom (h : v.Indexed env) {r : String} {room room' : Room}
    (hroom : v.rooms r = some room) (hid : room'.roomId = room.roomId)
    (hids : room'.playerIds = room.playerIds) (hmax : room'.maxPlayers = room.maxPlayers) :
    (v.setRoom r (some room')).Indexed env := by
  have hself : (v.setRoom r (some room')).rooms r = some room' := Function.update_self _ _ _
  have hlength : room'.players.length = room.players.length := by
    rw [← Room.length_playerIds, hids, Room.length_playerIds]
  refine h.update r (fun r' hr' => Function.update_of_ne hr' _ _) ?_ ?_ ?_ le_rfl ?_
  · intro p
    simp only [hself, Option.some.injEq, exists_eq_left', hids]
    exact ⟨fun hp => h.mem_of_index hp hroom, h.index_of_mem hroom⟩
  · exact fun p r' _ => Iff.rfl
  · intro room'' hroom''
    rw [hself] at hroom''
    cases hroom''
    refine ⟨hid.trans (h.keyed r room hroom), hids ▸ h.nodup r room hroom, ?_,
      h.issued r room hroom⟩
    rw [WithinCapacity, hlength, hmax]
    exact h.capacity r room hroom
  · refine h.atMost.mono fun r' hr' => ?_
    by_cases hr : r' = r
    · rw [hr, hroom, Option.isSome_some]
    · simpa [hr] using hr'

/-- A player who is in no room enters one. -/
theorem enter (h : v.Indexed env) {p r : String} {room' : Room} {s : SessionPtr}
    (houtside : v.playerToRoom p = none) (hid : room'.roomId = r)
    (hmem : ∀ q, q ∈ room'.playerIds ↔ q = p ∨ v.playerToRoom q = some r)
    (hnodup : room'.playerIds.Nodup) (hcapacity : room'.WithinCapacity env)
    (hissued : ∃ n < v.issued, r = env.uuid n)
    (hatMost : (v.setRoom r (some room')).AtMost env.maxRooms.toNat) :
    ((v.setRoom r (some room')).enter p r s).Indexed env := by
  have hself : ((v.setRoom r (some room')).enter p r s).rooms r = some room' :=
    Function.update_self _ _ _
  refine h.update r (fun r' hr' => Function.update_of_ne hr' _ _) ?_ ?_ ?_ le_rfl hatMost
  · intro q
    simp only [hself, Option.some.injEq, exists_eq_left', hmem]
    by_cases hq : q = p
    · simp [hq]
    · simp [hq]
  · intro q r' hr'
    by_cases hq : q = p
    · subst hq
      simp [houtside, Ne.symm hr']
    · simp [hq]
  · intro room'' hroom''
    rw [hself] at hroom''
    cases hroom''
    exact ⟨hid, hnodup, hcapacity, hissued⟩

/-- A player leaves a room that stays. -/
theorem exit (h : v.Indexed env) {p r : String} {room : Room}
    (hp : v.playerToRoom p = some r) (hroom : v.rooms r = some room) :
    ((v.setRoom r (some (room.removePlayer p))).setPlayerToRoom p none).Indexed env := by
  have hself : ((v.setRoom r (some (room.removePlayer p))).setPlayerToRoom p none).rooms r =
      some (room.removePlayer p) := Function.update_self _ _ _
  have hnodup := h.nodup r room hroom
  refine h.update r (fun r' hr' => Function.update_of_ne hr' _ _) ?_ ?_ ?_ le_rfl ?_
  · intro q
    simp only [hself, Option.some.injEq, exists_eq_left', Room.playerIds_removePlayer,
      hnodup.mem_erase_iff]
    by_cases hq : q = p
    · simp [hq]
    · simp only [setPlayerToRoom_playerToRoom, setRoom_playerToRoom,
        Function.update_of_ne hq, ne_eq, hq, not_false_iff, true_and]
      exact ⟨fun hq' => h.mem_of_index hq' hroom, h.index_of_mem hroom⟩
  · intro q r' hr'
    by_cases hq : q = p
    · subst hq
      simp [hp, Ne.symm hr']
    · simp [hq]
  · intro room'' hroom''
    rw [hself] at hroom''
    cases hroom''
    refine ⟨h.keyed r room hroom, ?_, ?_, h.issued r room hroom⟩
    · rw [Room.playerIds_removePlayer]
      exact hnodup.erase p
    · obtain ⟨hlength, hmin, hmax⟩ := h.capacity r room hroom
      refine ⟨?_, hmin, hmax⟩
      exact (List.length_eraseP_le).trans hlength
  · refine h.atMost.mono fun r' hr' => ?_
    by_cases hr : r' = r
    · rw [hr, hroom, Option.isSome_some]
    · simpa [hr] using hr'

/-- A room goes, and everybody in it with it. -/
theorem close (h : v.Indexed env) {r : String} {ids : List String}
    (hids : ∀ p, p ∈ ids ↔ v.playerToRoom p = some r) :
    ((v.setRoom r none).evict ids).Indexed env := by
  have hself : ((v.setRoom r none).evict ids).rooms r = none := Function.update_self _ _ _
  refine h.update r (fun r' hr' => Function.update_of_ne hr' _ _) ?_ ?_ ?_ le_rfl ?_
  · intro p
    simp only [hself, reduceCtorEq, false_and, exists_false, iff_false]
    by_cases hp : p ∈ ids
    · simp [hp]
    · simp only [evict_playerToRoom, hp, if_false]
      exact fun hp' => hp ((hids p).2 hp')
  · intro p r' hr'
    by_cases hp : p ∈ ids
    · have hpr := (hids p).1 hp
      simp [hp, hpr, Ne.symm hr']
    · simp [hp]
  · intro room hroom
    rw [hself] at hroom
    cases hroom
  · refine h.atMost.mono fun r' hr' => ?_
    by_cases hr : r' = r
    · rw [hr, hself] at hr'
      cases hr'
    · simpa [hr] using hr'

/-- The count of players is not cut off by its 32 bits. -/
theorem playerIds_eq_nil (h : v.Indexed env) {p r : String} {room : Room}
    (hroom : v.rooms r = some room) (hcount : (room.removePlayer p).playerCount = 0) :
    (room.removePlayer p).playerIds = [] := by
  have hlength : (room.removePlayer p).players.length < 2 ^ 32 :=
    (List.length_eraseP_le.trans (h.capacity r room hroom).1).trans_lt
      room.maxPlayers.toNat_lt
  have hzero := congrArg UInt32.toNat hcount
  rw [Room.playerCount, UInt32.toNat_ofNat_of_lt' hlength, UInt32.toNat_zero] at hzero
  rw [← List.length_eq_zero_iff, Room.length_playerIds, hzero]

/-- The roster of a room is what the index sends to it. -/
theorem mem_playerIds (h : v.Indexed env) {r : String} {room : Room}
    (hroom : v.rooms r = some room) (p : String) :
    p ∈ room.playerIds ↔ v.playerToRoom p = some r :=
  ⟨h.index_of_mem hroom, fun hp => h.mem_of_index hp hroom⟩

/-- Every change keeps the index. -/
theorem act {a : Action} (hact : Act env v a w) (h : v.Indexed env) : w.Indexed env := by
  cases hact with
  | @create request s hadmits hcount hmin hmax =>
      -- the room is new, so nobody is in it but its host
      have hv : ({ v with issued := v.issued + 1 } : Registry).Indexed env :=
        h.of_eq rfl rfl (Nat.le_succ _)
      have hempty : ∀ q, v.playerToRoom q ≠ some (env.uuid v.issued) := by
        intro q hq
        obtain ⟨room, hroom, -⟩ := (h.index q _).1 hq
        rw [h.rooms_uuid_issued] at hroom
        cases hroom
      refine hv.enter hadmits.outside rfl ?_ (List.nodup_singleton _) ?_
        ⟨v.issued, Nat.lt_succ_self _, rfl⟩ ?_
      · intro q
        rw [Room.playerIds_create, List.mem_singleton]
        exact ⟨Or.inl, fun hq => hq.resolve_right (hempty q)⟩
      · refine ⟨?_, hmin, hmax⟩
        have hpos := UInt32.le_iff_toNat_le.1 hmin
        exact hpos
      · obtain ⟨n, hn, ids, hids, hlength⟩ := hcount
        refine ⟨env.uuid v.issued :: ids, ?_, ?_⟩
        · intro r hr
          by_cases hnew : r = env.uuid v.issued
          · exact hnew ▸ List.mem_cons_self
          · refine List.mem_cons_of_mem _ (hids r ?_)
            simpa [hnew] using hr
        · rw [List.length_cons]
          omega
  | @join request s room hadmits hroom hstate hfull =>
      have hmem : request.playerId ∉ room.playerIds := by
        intro hmem
        have hp := h.index_of_mem hroom hmem
        rw [hadmits.outside] at hp
        cases hp
      have hadd := Room.addPlayer_of_not_mem request.playerName hfull hmem hstate
      have hids : (room.addPlayer request.playerId request.playerName).2.playerIds =
          room.playerIds ++ [request.playerId] := by
        rw [hadd]
        exact List.map_append
      have hcapacity := h.capacity _ room hroom
      refine h.enter hadmits.outside ?_ ?_ ?_ ?_ (h.issued _ room hroom) ?_
      · rw [hadd]
        exact h.keyed _ room hroom
      · intro q
        rw [hids, List.mem_append, List.mem_singleton, h.mem_playerIds hroom, or_comm]
      · rw [hids]
        exact List.nodup_append.2 ⟨h.nodup _ room hroom, List.nodup_singleton _, by
          rintro q hq q' hq' rfl
          exact hmem (List.mem_singleton.1 hq' ▸ hq)⟩
      · rw [hadd]
        refine ⟨?_, hcapacity.2⟩
        have hplace : room.players.length < room.maxPlayers.toNat := by
          simpa [Room.isFull] using hfull
        rw [List.length_append, List.length_singleton]
        exact hplace
      · refine h.atMost.mono fun r hr => ?_
        by_cases hr' : r = request.roomId
        · rw [hr', hroom, Option.isSome_some]
        · simpa [hr'] using hr
  | leave hp hroom hhost => exact h.exit hp hroom
  | @closeRoom p r room hp hroom hhost =>
      refine h.close fun q => ?_
      rw [List.mem_cons, h.mem_playerIds hroom]
      exact ⟨fun hq => hq.elim (fun heq => heq ▸ hp) id, Or.inr⟩
  | toggle hp hroom hhost =>
      refine h.setRoom hroom ?_ (Room.playerIds_toggleReady _ _) ?_
      · exact Room.roomId_toggleReady _ _
      · exact Room.maxPlayers_toggleReady _ _
  | @start p r room issued hp hroom hhost hidle hready hissued =>
      have hv : ({ v with issued := issued } : Registry).Indexed env :=
        h.of_eq rfl rfl hissued.le
      refine hv.setRoom hroom ?_ ?_ ?_
      · rfl
      · rfl
      · rfl
  | release hp hroom hcount => exact (h.exit hp hroom).of_eq rfl rfl le_rfl
  | @releaseLast p r room hp hroom hcount =>
      -- nobody else is on the roster
      have hlast : ∀ q, q ∈ [p] ↔ v.playerToRoom q = some r := by
        intro q
        rw [← h.mem_playerIds hroom, List.mem_singleton]
        refine ⟨fun hq => hq ▸ h.mem_of_index hp hroom, fun hq => ?_⟩
        by_contra hne
        have hrest := (h.nodup r room hroom).mem_erase_iff.2 ⟨hne, hq⟩
        rw [← Room.playerIds_removePlayer, h.playerIds_eq_nil hroom hcount] at hrest
        exact absurd hrest List.not_mem_nil
      have hclose := h.close hlast
      refine hclose.of_eq rfl ?_ le_rfl
      funext q
      simp [Function.update_apply]
  | @endGame r room hroom hstate =>
      exact h.close fun q => h.mem_playerIds hroom q
  | @forget p r hp hroom =>
      obtain ⟨room, hroom', -⟩ := (h.index p r).1 hp
      rw [hroom] at hroom'
      cases hroom'
  | @forgetSlot p r hp hroom =>
      obtain ⟨room, hroom', -⟩ := (h.index p r).1 hp
      rw [hroom] at hroom'
      cases hroom'
  | unregister => exact h.of_eq rfl rfl le_rfl
  | accept hunborn => exact h.of_eq rfl rfl le_rfl
  | shut hopen => exact h.of_eq rfl rfl le_rfl
  | clear hclosed => exact h.of_eq rfl rfl le_rfl
  | expire hclosed => exact h.of_eq rfl rfl le_rfl
  | link => exact h
  | quiet => exact h

end Indexed

end Registry

/-!
## Calls of the handlers
-/

/-- A call of a handler of the room manager, with any arguments. -/
inductive HandlerCall
  | createRoom (request : CreateRoomRequest) (s : SessionPtr)
  | joinRoom (request : JoinRoomRequest) (s : SessionPtr)
  | leaveRoom (playerId : String)
  | toggleReady (playerId : String)
  | startGame (playerId : String)
  | disconnect (playerId : String)
  | slotReleased (playerId sessionId : String)
  | gameServerDisconnect

open RoomServer

def HandlerCall.run (env : Env) (σ : RoomServer) : HandlerCall → RoomServer
  | .createRoom request s => σ.handleCreateRoom env request s
  | .joinRoom request s => σ.handleJoinRoom request s
  | .leaveRoom playerId => σ.handleLeaveRoom playerId
  | .toggleReady playerId => σ.handleToggleReady playerId
  | .startGame playerId => σ.handleStartGame env playerId
  | .disconnect playerId => σ.handleDisconnect playerId
  | .slotReleased playerId sessionId => σ.handleSlotReleased env playerId sessionId
  | .gameServerDisconnect => σ.handleGameServerDisconnect env

/-- A handler is called. Since the last call the session objects, Redis and the
link to the Chat Server may have changed in any way, and identifiers may have
been drawn. -/
def Called (env : Env) (σ : RoomServer) (c : HandlerCall) (τ : RoomServer) : Prop :=
  ∃ σ', σ'.manager = σ.manager ∧ σ'.sent = σ.sent ∧
    σ.backend.uuidsIssued ≤ σ'.backend.uuidsIssued ∧ τ = c.run env σ'

/-- What the store of rooms promises. -/
structure Consistent (env : Env) (m : RoomManager) : Prop where
  index : ∀ p r, m.playerToRoom.find? p = some r ↔
    ∃ room, m.rooms.find? r = some room ∧ room.hasPlayer p = true
  one_roster : ∀ p r r' room room', m.rooms.find? r = some room →
    m.rooms.find? r' = some room' → room.hasPlayer p = true → room'.hasPlayer p = true → r = r'
  once : ∀ r room, m.rooms.find? r = some room → room.playerIds.Nodup
  own_id : ∀ r room, m.rooms.find? r = some room → room.roomId = r
  capacity : ∀ r room, m.rooms.find? r = some room →
    room.players.length ≤ room.maxPlayers.toNat ∧ 1 ≤ room.maxPlayers ∧
      room.maxPlayers ≤ env.maxPlayersPerRoom
  size : m.rooms.size ≤ env.maxRooms.toNat

theorem Registry.Indexed.consistent {env : Env} {σ : RoomServer}
    (h : σ.registry.Indexed env) : Consistent env σ.manager where
  index p r := by
    simp only [Room.hasPlayer_iff]
    exact h.index p r
  one_roster p r r' room room' hroom hroom' hp hp' := by
    have hr := h.index_of_mem hroom (Room.hasPlayer_iff.1 hp)
    rw [h.index_of_mem hroom' (Room.hasPlayer_iff.1 hp')] at hr
    exact (Option.some.inj hr).symm
  once := h.nodup
  own_id := h.keyed
  capacity := h.capacity
  size := by
    obtain ⟨ids, hids, hlength⟩ := h.atMost
    exact (UnorderedMap.size_le_length hids).trans hlength

theorem indexed_initial (env : Env) (σ : RoomServer) (h : σ.manager = {}) :
    σ.registry.Indexed env := by
  have hrooms : ∀ r, σ.registry.rooms r = none := by
    intro r
    simp only [registry, h, UnorderedMap.find?_empty]
  have hplayers : ∀ p, σ.registry.playerToRoom p = none := by
    intro p
    simp only [registry, h, UnorderedMap.find?_empty]
  refine ⟨?_, ?_, ?_, ?_, ?_, ⟨[], ?_, Nat.zero_le _⟩⟩
  all_goals simp [hrooms, hplayers]

/-- The call may make the change. -/
def HandlerCall.Makes (c : HandlerCall) : Action → Prop
  | .create request s _ => c = .createRoom request s
  | .join request s => c = .joinRoom request s
  | .leave p _ | .closeRoom p _ => c = .leaveRoom p ∨ c = .disconnect p
  | .toggle p _ => c = .toggleReady p
  | .start p _ _ => c = .startGame p
  | .release p _ | .releaseLast p _ => ∃ sid, c = .slotReleased p sid
  | .endGame _ => c = .gameServerDisconnect
  | .forget _ | .forgetSlot _ | .unregister _ | .quiet => True
  | .accept _ _ | .shut _ | .clear _ | .expire _ | .link _ => False

theorem makes_of_departure {c : HandlerCall} {v : Registry} {p : String} {a : Action}
    (h : a.IsDeparture v p) (hc : c = .leaveRoom p ∨ c = .disconnect p) : c.Makes a := by
  rcases h with ⟨rfl, -⟩ | rfl | ⟨r, rfl⟩ | ⟨r, rfl⟩
  · trivial
  · trivial
  · exact hc
  · exact hc

/-- The changes of a call. -/
theorem run_call_makes (env : Env) (σ : RoomServer) (c : HandlerCall) :
    ∃ as, Run (Effect env) σ as (c.run env σ) ∧ ∀ a ∈ as, c.Makes a := by
  have hsingle : ∀ {a : Action} {τ : RoomServer}, Effect env σ a τ → c.Makes a →
      ∃ as, Run (Effect env) σ as τ ∧ ∀ a ∈ as, c.Makes a := by
    intro a τ heffect ha
    refine ⟨[a], Run.single heffect, fun b hb => ?_⟩
    rw [List.mem_singleton.1 hb]
    exact ha
  cases c with
  | createRoom request s =>
      obtain ⟨a, heffect, ha⟩ := effect_handleCreateRoom env request s σ
      apply hsingle heffect
      rcases ha with rfl | ⟨-, rfl⟩
      · trivial
      · rfl
  | joinRoom request s =>
      obtain ⟨a, heffect, ha⟩ := effect_handleJoinRoom env request s σ
      apply hsingle heffect
      rcases ha with rfl | ⟨-, rfl⟩
      · trivial
      · rfl
  | leaveRoom p =>
      obtain ⟨a, heffect, ha⟩ := effect_handleLeaveRoom env p σ
      exact hsingle heffect (makes_of_departure ha (Or.inl rfl))
  | toggleReady p =>
      obtain ⟨a, heffect, ha⟩ := effect_handleToggleReady env p σ
      apply hsingle heffect
      rcases ha with rfl | ⟨r, rfl⟩
      · trivial
      · rfl
  | startGame p =>
      obtain ⟨a, heffect, ha⟩ := effect_handleStartGame env p σ
      apply hsingle heffect
      rcases ha with rfl | ⟨r, rfl⟩
      · trivial
      · rfl
  | disconnect p =>
      obtain ⟨a, heffect, ha⟩ := effect_handleLeaveRoom env p σ
      have hunregister : Effect env (σ.handleLeaveRoom p) (.unregister p)
          (σ.handleDisconnect p) := by
        refine Effect.of_silent rfl ?_ (Emits.of_sent_eq rfl) rfl rfl
        rw [handleDisconnect, registry_unregisterSession]
        exact Act.unregister
      refine ⟨_, Run.snoc (Run.single heffect) hunregister, fun b hb => ?_⟩
      rcases List.mem_cons.1 hb with rfl | hb
      · exact makes_of_departure ha (Or.inr rfl)
      · rw [List.mem_singleton.1 hb]
        trivial
  | slotReleased p sid =>
      obtain ⟨a, heffect, ha⟩ := effect_handleSlotReleased env p sid σ
      apply hsingle heffect
      rcases ha with rfl | rfl | ⟨r, room, -, -, rfl | rfl⟩
      · trivial
      · trivial
      · exact ⟨sid, rfl⟩
      · exact ⟨sid, rfl⟩
  | gameServerDisconnect =>
      obtain ⟨as, hrun, has⟩ := run_handleGameServerDisconnect env σ
      refine ⟨as, hrun, fun a ha => ?_⟩
      obtain ⟨r, rfl⟩ := has a ha
      rfl

/-- The changes of a call. A player joins in a call of `handleJoinRoom` only. -/
theorem run_call (env : Env) (σ : RoomServer) (c : HandlerCall) :
    ∃ as, Run (Effect env) σ as (c.run env σ) ∧
      ∀ request s, .join request s ∈ as → c = .joinRoom request s := by
  obtain ⟨as, hrun, has⟩ := run_call_makes env σ c
  exact ⟨as, hrun, fun request s hmem => has _ hmem⟩

theorem indexed_call {env : Env} {σ τ : RoomServer} {c : HandlerCall}
    (h : Called env σ c τ) (hσ : σ.registry.Indexed env) : τ.registry.Indexed env := by
  obtain ⟨σ', hmanager, -, hissued, rfl⟩ := h
  have hσ' : σ'.registry.Indexed env := by
    refine hσ.of_eq ?_ ?_ hissued
    · simp only [registry, hmanager]
    · simp only [registry, hmanager]
  obtain ⟨as, hrun, -⟩ := run_call env σ' c
  exact hrun.invariant (I := fun σ => σ.registry.Indexed env)
    (fun _ _ _ heffect => Registry.Indexed.act heffect.act) hσ'

theorem indexed_changes {env : Env} {σ x y : RoomServer} {i : Input} {as : List Action}
    (hrun : Run (Change env σ i) x as y) (hx : x.registry.Indexed env) :
    y.registry.Indexed env :=
  hrun.invariant (I := fun x => x.registry.Indexed env)
    (fun _ _ _ hchange => Registry.Indexed.act hchange.1.act) hx

theorem indexed_step {env : Env} {σ τ : RoomServer} {i : Input} (hstep : Step env σ i τ)
    (hσ : σ.registry.Indexed env) : τ.registry.Indexed env := by
  obtain ⟨as, hrun⟩ := run_step hstep
  exact indexed_changes hrun hσ

/-- The registry of the server agrees with its rosters in every run. -/
theorem indexed_of_run {env : Env} {store : Redis.Keyspace} {is : List Input}
    {σ : RoomServer} {R : RoomServer → Input → RoomServer → Prop}
    (hR : ∀ σ i τ, R σ i τ → Step env σ i τ) (h : Run R (initial store) is σ) :
    σ.registry.Indexed env :=
  h.invariant (I := fun σ => σ.registry.Indexed env)
    (fun σ i τ hstep => indexed_step (hR σ i τ hstep)) (indexed_initial env _ rfl)

/-- `addPlayer` succeeds wherever the checks of `handleJoinRoom` pass. -/
theorem addPlayer_of_joinableRoom {σ : RoomServer} {request : JoinRoomRequest}
    {s : SessionPtr} {room : Room}
    (hindex : ∀ p r room, σ.registry.rooms r = some room → p ∈ room.playerIds →
      σ.registry.playerToRoom p = some r)
    (h : σ.joinableRoom request s = .ok room) :
    room.addPlayer request.playerId request.playerName = (true, { room with
      players := room.players ++
        [{ playerId := request.playerId, playerName := request.playerName }] }) := by
  obtain ⟨hadmits, hroom, hstate, hfull⟩ := of_joinableRoom_eq_ok h
  refine Room.addPlayer_of_not_mem request.playerName hfull ?_ hstate
  intro hmem
  have hp := hindex _ _ room hroom hmem
  rw [hadmits.outside] at hp
  cases hp

/-- The call from `σ` to `τ` answers no join of a player who is not on the roster
of the room afterwards. -/
def JoinsAnswered (c : HandlerCall) (σ τ : RoomServer) : Prop :=
  Emits (fun d => ∀ response, d.envelope = .joinRoomResponse response →
    ∃ request room, c = .joinRoom request d.session ∧
      τ.manager.rooms.find? request.roomId = some room ∧
      room.hasPlayer request.playerId = true) σ τ

/-- Only a join is answered as one. -/
theorem emits_of_no_join {env : Env} {σ τ : RoomServer} {as : List Action}
    (h : Run (Effect env) σ as τ) (has : ∀ request s, .join request s ∉ as) :
    Emits (fun d => ∀ response, d.envelope ≠ .joinRoomResponse response) σ τ := by
  refine (h.and_of_forall (P := fun a => ∀ request s, a ≠ .join request s) ?_).relates
    Emits.refl (fun _ _ _ => Emits.trans) ?_
  · rintro a ha request s rfl
    exact has request s ha
  · rintro σ a τ ⟨heffect, ha⟩
    refine heffect.sent.mono fun d hd response henvelope => ?_
    rw [Action.Sends, henvelope] at hd
    obtain ⟨request, hrequest⟩ := hd
    exact ha request d.session hrequest

theorem rooms_of_join {env : Env} {v w : Registry} {request : JoinRoomRequest}
    {s : SessionPtr} {room : Room} (h : Act env v (.join request s) w)
    (hroom : v.rooms request.roomId = some room) :
    w.rooms request.roomId =
      some (room.addPlayer request.playerId request.playerName).2 := by
  cases h with
  | join hadmits hroom' hstate hfull =>
      rw [hroom] at hroom'
      cases hroom'
      simp

theorem joinsAnswered_call {env : Env} {σ τ : RoomServer} {c : HandlerCall}
    (h : Called env σ c τ) (hσ : σ.registry.Indexed env) : JoinsAnswered c σ τ := by
  obtain ⟨σ', hmanager, hsent, -, rfl⟩ := h
  have hindex : ∀ p r room, σ'.registry.rooms r = some room → p ∈ room.playerIds →
      σ'.registry.playerToRoom p = some r := by
    intro p r room hroom hmem
    simp only [registry, hmanager] at hroom ⊢
    exact hσ.index_of_mem hroom hmem
  refine (Emits.of_sent_eq hsent).trans ?_
  by_cases hjoin : ∃ request s, c = .joinRoom request s
  · obtain ⟨request, s, rfl⟩ := hjoin
    obtain ⟨a, heffect, ha⟩ := effect_handleJoinRoom env request s σ'
    refine heffect.sent.mono fun d hd response henvelope => ?_
    rw [Action.Sends, henvelope] at hd
    obtain ⟨request', rfl⟩ := hd
    obtain hquiet | ⟨⟨room, hok⟩, hrequest⟩ := ha
    · cases hquiet
    obtain ⟨rfl, hs⟩ := Action.join.inj hrequest
    refine ⟨request', (room.addPlayer request'.playerId request'.playerName).2,
      by rw [hs], ?_, ?_⟩
    · have hact := heffect.act
      have hroom := (of_joinableRoom_eq_ok hok).2.1
      exact rooms_of_join hact hroom
    · rw [addPlayer_of_joinableRoom hindex hok]
      simp [Room.hasPlayer]
  · obtain ⟨as, hrun, has⟩ := run_call env σ' c
    refine (emits_of_no_join hrun fun request s hmem =>
      hjoin ⟨request, s, has request s hmem⟩).mono ?_
    intro d hd response henvelope
    exact absurd henvelope (hd response)

/-- In every state that calls of the handlers reach from the empty manager, the
index and the rosters agree, and a player whose join is accepted is on the roster
of the room. -/
theorem consistent_of_calls {env : Env} {σ₀ σ : RoomServer} {cs : List HandlerCall}
    (h₀ : σ₀.manager = {}) (h : Run (Called env) σ₀ cs σ) :
    Consistent env σ.manager ∧
      (∀ (σ' : RoomServer) (request : JoinRoomRequest) (s : SessionPtr) (room : Room),
        σ'.manager = σ.manager → σ'.joinableRoom request s = .ok room →
        (room.addPlayer request.playerId request.playerName).1 = true) ∧
      ∀ c τ, Called env σ c τ → JoinsAnswered c σ τ := by
  have hσ : σ.registry.Indexed env :=
    h.invariant (I := fun σ => σ.registry.Indexed env)
      (fun _ _ _ => indexed_call) (indexed_initial env σ₀ h₀)
  refine ⟨hσ.consistent, ?_, fun c τ hcall => joinsAnswered_call hcall hσ⟩
  intro σ' request s room hmanager hjoin
  rw [addPlayer_of_joinableRoom ?_ hjoin]
  intro p r room' hroom' hmem
  simp only [registry, hmanager] at hroom' ⊢
  exact hσ.index_of_mem hroom' hmem

/-- A game starts, one player leaves it and the other is released; the next room is open. -/
theorem consistent_of_calls_nextRoom : ∃ σ room,
    Run (Called defaultEnv) (initial {}) [.createRoom ⟨"p", "P", "room", 4⟩ 0,
      .joinRoom ⟨"q", "Q", "u"⟩ 1, .toggleReady "q", .startGame "p", .leaveRoom "q",
      .slotReleased "p" "uu", .createRoom ⟨"r", "R", "next", 4⟩ 2] σ ∧
    Consistent defaultEnv σ.manager ∧
    σ.joinableRoom ⟨"s", "S", "uuuuu"⟩ 3 = .ok room ∧ (room.addPlayer "s" "S").1 = true ∧
    JoinsAnswered (.joinRoom ⟨"s", "S", "uuuuu"⟩ 3) σ
      (σ.handleJoinRoom ⟨"s", "S", "uuuuu"⟩ 3) := by
  obtain ⟨σ, hrun, hσ⟩ := exists_run_of_exec (fun _ _ => true)
    (fun σ c => some (HandlerCall.run defaultEnv σ c)) (initial {})
    [.createRoom ⟨"p", "P", "room", 4⟩ 0, .joinRoom ⟨"q", "Q", "u"⟩ 1, .toggleReady "q",
      .startGame "p", .leaveRoom "q", .slotReleased "p" "uu",
      .createRoom ⟨"r", "R", "next", 4⟩ 2]
    (fun σ => (σ.joinableRoom ⟨"s", "S", "uuuuu"⟩ 3).isOk) (by decide +kernel)
  have hcalls : Run (Called defaultEnv) (initial {}) _ σ :=
    hrun.of_guarded.mono fun σ c τ hstep => ⟨σ, rfl, rfl, le_rfl, (Option.some.inj hstep).symm⟩
  obtain ⟨hconsistent, hadds, hanswered⟩ := consistent_of_calls rfl hcalls
  cases hjoin : σ.joinableRoom ⟨"s", "S", "uuuuu"⟩ 3 with
  | error reject =>
      rw [hjoin] at hσ
      cases hσ
  | ok room =>
      exact ⟨σ, room, hcalls, hconsistent, hjoin, hadds σ _ 3 room rfl hjoin,
        hanswered _ _ ⟨σ, rfl, rfl, le_rfl, rfl⟩⟩

end Room

end SosBackend
