import SosBackend.Room.Index

/-!
# No empty room, and where one is left behind

A room is deleted when its host leaves it and when a slot release empties it. A
guest who leaves as the last player, the host having been released before, does
neither: the room stays in game without anybody in it, and the game server stays
busy. As long as no step lets such a guest leave, no room is ever empty.
-/

namespace SosBackend

namespace Room

open RoomServer

namespace Registry

/-- Every room has a player. -/
def Occupied (v : Registry) : Prop :=
  ∀ r room, v.rooms r = some room → room.playerIds ≠ []

/-- A change keeps every room occupied, where a guest who leaves leaves somebody
behind. -/
theorem Occupied.act {env : Env} {v w : Registry} {a : Action} (hact : Act env v a w)
    (h : v.Occupied) (hleave : ∀ p r room, a = .leave p r → v.rooms r = some room →
      ∃ q ∈ room.playerIds, q ≠ p) : w.Occupied := by
  intro r room hroom
  rcases hact.room_inv hroom with hstart | ⟨room', hroom', hstep⟩
  · cases hstart
    exact List.cons_ne_nil _ _
  have hne := h r room' hroom'
  cases hstep with
  | keep => exact hne
  | join hr hstate hfull =>
      obtain ⟨q, hq⟩ := List.exists_mem_of_ne_nil _ hne
      exact List.ne_nil_of_mem (Room.mem_playerIds_addPlayer _ _ hq)
  | @leave p hhost =>
      obtain ⟨q, hq, hqp⟩ := hleave p r room' rfl hroom'
      rw [Room.playerIds_removePlayer]
      exact List.ne_nil_of_mem ((List.mem_erase_of_ne hqp).2 hq)
  | toggle hhost =>
      rw [Room.playerIds_toggleReady]
      exact hne
  | start hhost hready => exact hne
  | release hcount =>
      intro hnil
      refine hcount ?_
      rw [Room.playerCount, ← Room.length_playerIds, hnil]
      rfl

end Registry

/-!
## Runs
-/

/-- A player who leaves its room in the step is its host or leaves somebody
behind. A connection that acts for no player leaves no room. -/
def leavesSomebody (env : Env) (σ : RoomServer) (i : Input) : Bool :=
  match departing env σ i with
  | none => true
  | some s => (σ.clients s).playerId == "" ||
      match σ.manager.playerToRoom.find? (σ.clients s).playerId with
      | none => true
      | some r => (σ.manager.rooms.find? r).all fun room =>
          room.isHost (σ.clients s).playerId ||
            room.playerIds.any fun q => q != (σ.clients s).playerId

/-- A slot release carries the id of a running session. -/
def carriesSession (σ : RoomServer) : Input → Bool
  | .gameServerMessage _ (.slotReleased _ sid) =>
      σ.manager.rooms.values.any fun room => room.state == .inGame && room.sessionId == sid
  | _ => true

/-- No empty room survives, and an empty game keeps nobody from starting. -/
structure NoEmptyRoom (env : Env) (σ : RoomServer) : Prop where
  occupied : ∀ r room, σ.manager.rooms.find? r = some room → ∃ p, room.hasPlayer p = true
  active : σ.hasActiveGame = true → ∃ r room p, σ.manager.rooms.find? r = some room ∧
    room.state = .inGame ∧ room.hasPlayer p = true
  admitted : (∀ r room p, σ.manager.rooms.find? r = some room → room.state = .inGame →
      room.hasPlayer p = false) →
    ∀ p, Emits (fun d => ∀ reject, d.envelope = .reject reject →
      reject.reason ≠ .gameServerBusy) σ (σ.handleStartGame env p)

theorem exists_of_leavesSomebody {env : Env} {σ x : RoomServer} {i : Input} {p r : String}
    {room : Room} (h : leavesSomebody env σ i = true) (hx : Cause env σ i x (.leave p r))
    (hp : x.registry.playerToRoom p = some r) (hroom : x.registry.rooms r = some room)
    (hhost : room.isHost p = false) : ∃ q ∈ room.playerIds, q ≠ p := by
  obtain ⟨s, hdeparting, rfl, hne, hrooms, hplayers⟩ := hx
  rw [hplayers] at hp
  rw [hrooms] at hroom
  have hp' : σ.manager.playerToRoom.find? (σ.clients s).playerId = some r := hp
  have hroom' : σ.manager.rooms.find? r = some room := hroom
  simp only [leavesSomebody, hdeparting, beq_false_of_ne hne, hp', hroom', Option.all_some,
    hhost, Bool.false_or, List.any_eq_true, bne_iff_ne] at h
  exact h

theorem occupied_step {env : Env} {σ τ : RoomServer} {i : Input}
    (h : Guarded (leavesSomebody env) (Step env) σ i τ) (hσ : σ.registry.Occupied) :
    τ.registry.Occupied := by
  obtain ⟨as, hrun⟩ := run_step h.1
  refine hrun.invariant (I := fun x => x.registry.Occupied) ?_ hσ
  rintro x a y ⟨heffect, hcause⟩ hx
  refine hx.act heffect.act ?_
  rintro p r room rfl hroom
  obtain ⟨hp, hhost⟩ := heffect.act.leave_inv hroom
  exact exists_of_leavesSomebody h.2 hcause hp hroom hhost

/-- As long as no guest leaves as the last player of a room, no room is ever
empty. -/
theorem noEmptyRoom_of_run {env : Env} {store : Redis.Keyspace} {is : List Input}
    {σ : RoomServer}
    (h : Run (Guarded (leavesSomebody env) (Step env)) (initial store) is σ) :
    NoEmptyRoom env σ := by
  have hempty : (initial store).registry.Occupied := by
    intro r room hroom
    cases hroom
  have hσ : σ.registry.Occupied :=
    h.invariant (I := fun σ => σ.registry.Occupied) (fun _ _ _ => occupied_step) hempty
  have hsome : ∀ r room, σ.manager.rooms.find? r = some room →
      ∃ p, room.hasPlayer p = true := by
    intro r room hroom
    obtain ⟨p, hp⟩ := List.exists_mem_of_ne_nil _ (hσ r room hroom)
    exact ⟨p, Room.hasPlayer_iff.2 hp⟩
  refine ⟨hsome, ?_, ?_⟩
  · intro hactive
    obtain ⟨r, room, hroom, hstate⟩ := hasActiveGame_iff.1 hactive
    obtain ⟨p, hp⟩ := hsome r room hroom
    exact ⟨r, room, p, hroom, hstate, hp⟩
  · -- without a player in a game there is no game
    intro hgone p
    have hidle : ¬ σ.registry.Busy := by
      rintro ⟨r, room, hroom, hstate⟩
      obtain ⟨q, hq⟩ := hsome r room hroom
      rw [hgone r room q hroom hstate] at hq
      cases hq
    obtain ⟨a, heffect, -⟩ := effect_handleStartGame env p σ
    refine heffect.sent.mono fun d hd reject henvelope hreason => ?_
    rw [Action.Sends, henvelope] at hd
    exact hidle (hd hreason)

/-- A host who starts a game and leaves it. -/
theorem noEmptyRoom_of_run_hostLeaves :
    ∃ σ, Run (Guarded (leavesSomebody defaultEnv) (Step defaultEnv)) (initial {})
      [.connect 0 "10.0.0.1", .clientMessage 0 (.createRoom ⟨"h", "H", "room", 4⟩),
        .clientMessage 0 .startGame, .clientMessage 0 .leaveRoom] σ ∧
      NoEmptyRoom defaultEnv σ := by
  obtain ⟨σ, hrun, -⟩ := exists_run_of_exec (leavesSomebody defaultEnv) (step defaultEnv)
    (initial {}) [.connect 0 "10.0.0.1",
      .clientMessage 0 (.createRoom ⟨"h", "H", "room", 4⟩),
      .clientMessage 0 .startGame, .clientMessage 0 .leaveRoom]
    (fun _ => true) (by decide +kernel)
  exact ⟨σ, hrun, noEmptyRoom_of_run hrun⟩

/-- The host of a game is released and the guest leaves: the room stays, in game
and empty. -/
theorem not_noEmptyRoom_guestLeavesLast :
    ¬ ∀ (store : Redis.Keyspace) (is : List Input) (σ : RoomServer),
      Run (Guarded carriesSession (Step defaultEnv)) (initial store) is σ →
        NoEmptyRoom defaultEnv σ := by
  intro hclaim
  obtain ⟨σ, hrun, hσ⟩ := exists_run_of_exec carriesSession (step defaultEnv) (initial {})
    [.connect 0 "10.0.0.1", .connect 1 "10.0.0.2", .gameServerConnect 0,
      .clientMessage 0 (.createRoom ⟨"h", "H", "room", 4⟩),
      .clientMessage 1 (.joinRoom ⟨"g", "G", "u"⟩), .clientMessage 1 .toggleReady,
      .clientMessage 0 .startGame, .gameServerMessage 0 (.slotReleased "h" "uu"),
      .clientMessage 1 .leaveRoom]
    (fun σ => σ.manager.rooms.values.any fun room => room.players.isEmpty)
    (by decide +kernel)
  rw [List.any_eq_true] at hσ
  obtain ⟨room, hroom, hempty⟩ := hσ
  obtain ⟨r, hr⟩ := UnorderedMap.mem_values.1 hroom
  obtain ⟨p, hp⟩ := (hclaim {} _ σ hrun).occupied r room hr
  rw [List.isEmpty_iff] at hempty
  simp [Room.hasPlayer, hempty] at hp

end Room

end SosBackend
