import SosBackend.Room.GameStart

/-!
# Waiting rooms

A room that waits has no session yet, and its host in it: whoever leaves as the
host takes the room away. A slot release is meant for rooms in game, and is kept
from waiting rooms by the session id it carries. Without a session id it is let
through, and takes a player out of a waiting room as it does out of a game.
`keepsWaiting_iff` says that this is the one way in which a run can break a
waiting room.
-/

namespace SosBackend

namespace Room

open RoomServer

/-- The room has no session, holds its host exactly once, and nobody else is
marked as the host. -/
structure Intact (room : Room) : Prop where
  idle : room.sessionId = ""
  hosted : room.playerIds.count room.hostId = 1
  flagged : ∀ player ∈ room.players, player.isHost = true ↔ player.playerId = room.hostId

/-- Every waiting room is intact. -/
def WaitingIntact (σ : RoomServer) : Prop :=
  ∀ r room, σ.manager.rooms.find? r = some room → room.state = .waiting → room.Intact

/-- A slot release handled in the step leaves every waiting room there, with the
roster it has. -/
def SparesWaiting (σ : RoomServer) (i : Input) (τ : RoomServer) : Prop :=
  ∀ k p sid, i = .gameServerMessage k (.slotReleased p sid) →
    ∀ r room, σ.manager.rooms.find? r = some room → room.state = .waiting →
      ∃ room', τ.manager.rooms.find? r = some room' ∧ room'.players = room.players

/-- A step between states with intact waiting rooms, out of the game server's
reach. -/
structure KeepsWaiting (env : Env) (σ : RoomServer) (i : Input) (τ : RoomServer) : Prop where
  step : Step env σ i τ
  before : WaitingIntact σ
  after : WaitingIntact τ
  spares : SparesWaiting σ i τ

/-- The player is on the roster of a waiting room. -/
def inWaitingRoom (σ : RoomServer) (p : String) : Bool :=
  match σ.manager.playerToRoom.find? p with
  | none => false
  | some r => (σ.manager.rooms.find? r).any fun room => room.state == .waiting

/-- A slot release that names a player in a waiting room carries a session id. -/
def namesSession (σ : RoomServer) : Input → Bool
  | .gameServerMessage _ (.slotReleased p sid) => sid != "" || !inWaitingRoom σ p
  | _ => true

/-!
## Rooms
-/

namespace Intact

variable {room : Room}

theorem mem_host (h : room.Intact) : room.hostId ∈ room.playerIds := by
  apply List.count_pos_iff.1
  rw [h.hosted]
  exact Nat.one_pos

theorem create (roomId roomName hostId hostName : String) (maxPlayers : UInt32) :
    (Room.create roomId roomName hostId hostName maxPlayers).Intact where
  idle := rfl
  hosted := List.count_singleton_self
  flagged player hmem := by
    rw [List.mem_singleton.1 hmem]
    simp [Room.create]

/-- Who joins is another player, and no host. -/
theorem addPlayer (h : room.Intact) (p name : String) : (room.addPlayer p name).2.Intact := by
  rw [Room.addPlayer]
  split
  · exact h
  · next hrefused =>
      have hnew : p ∉ room.playerIds := by
        intro hmem
        simp [Room.hasPlayer_iff.2 hmem] at hrefused
      have hne : p ≠ room.hostId := by
        intro heq
        exact hnew (heq ▸ h.mem_host)
      refine ⟨h.idle, ?_, ?_⟩
      · have hcount : List.count room.hostId [p] = 0 :=
          List.count_eq_zero.2 fun hmem => hne (List.mem_singleton.1 hmem).symm
        have hids : ∀ player : PlayerData,
            List.map PlayerData.playerId (room.players ++ [player]) =
              room.playerIds ++ [player.playerId] := fun player => List.map_append
        rw [playerIds, hids, List.count_append, h.hosted, hcount]
      · intro player hmem
        rcases List.mem_append.1 hmem with hmem | hmem
        · exact h.flagged player hmem
        · rw [List.mem_singleton.1 hmem]
          simp [hne]

theorem removePlayer (h : room.Intact) {p : String} (hp : room.isHost p = false) :
    (room.removePlayer p).Intact where
  idle := h.idle
  hosted := by
    have hne : room.hostId ≠ p := by
      intro heq
      simp [isHost, heq] at hp
    rw [playerIds_removePlayer]
    exact (List.count_erase_of_ne hne).trans h.hosted
  flagged player hmem := h.flagged player (List.mem_of_mem_eraseP hmem)

theorem toggleReady (h : room.Intact) (p : String) : (room.toggleReady p).Intact := by
  have hhost : (room.toggleReady p).hostId = room.hostId := by
    rw [Room.toggleReady]
    split
    · rfl
    · rfl
  refine ⟨?_, ?_, ?_⟩
  · rw [sessionId_toggleReady]
    exact h.idle
  · rw [playerIds_toggleReady, hhost]
    exact h.hosted
  · rw [hhost, Room.toggleReady]
    split
    · exact h.flagged
    · intro player hmem
      obtain ⟨player', hmem', hid, hflag⟩ := exists_of_mem_flipReady hmem
      rw [← hid, ← hflag]
      exact h.flagged player' hmem'

end Intact

/-!
## Changes
-/

/-- A change keeps waiting rooms intact, unless it releases a player who is in
one. -/
theorem intact_act {env : Env} {v w : Registry} {a : Action} (hact : Act env v a w)
    (hv : ∀ r room, v.rooms r = some room → room.state = .waiting → room.Intact)
    (hrelease : ∀ p r room, a = .release p r → v.rooms r = some room →
      room.state ≠ .waiting) {r : String} {room : Room} (hroom : w.rooms r = some room)
    (hstate : room.state = .waiting) : room.Intact := by
  rcases hact.room_inv hroom with hstart | ⟨room', hroom', hstep⟩
  · cases hstart
    exact Intact.create _ _ _ _ _
  cases hstep with
  | keep => exact hv r room hroom' hstate
  | join hr hwaiting hfull => exact (hv r room' hroom' hwaiting).addPlayer _ _
  | leave hhost => exact (hv r room' hroom' hstate).removePlayer hhost
  | @toggle p hhost =>
      rw [state_toggleReady] at hstate
      exact (hv r room' hroom' hstate).toggleReady p
  | start hhost hready => cases hstate
  | release hcount => exact absurd hstate (hrelease _ r room' rfl hroom')

/-- A slot release that spares the waiting rooms meets none of them. -/
theorem state_of_release {env : Env} {σ x : RoomServer} {i : Input} {p r : String}
    {room : Room} {a : Action} (hnames : namesSession σ i = true)
    (hidle : ∀ r room, σ.registry.rooms r = some room → room.state = .waiting →
      room.sessionId = "")
    (hcause : Cause env σ i x a) (ha : a = .release p r ∨ a = .releaseLast p r)
    (hp : x.registry.playerToRoom p = some r) (hroom : x.registry.rooms r = some room) :
    room.state ≠ .waiting := by
  obtain ⟨k, sid, rfl, hreg, hsid⟩ := hcause.release_inv ha hroom
  rw [hreg] at hp hroom
  intro hstate
  have hempty : sid = "" := by
    rcases hsid with hsid | hsid
    · exact hsid
    · rw [← hsid]
      exact hidle r room hroom hstate
  have hp' : σ.manager.playerToRoom.find? p = some r := hp
  have hroom' : σ.manager.rooms.find? r = some room := hroom
  simp [namesSession, hempty, inWaitingRoom, hp', hroom', hstate] at hnames

/-!
## Steps
-/

theorem intact_step {env : Env} {σ τ : RoomServer} {i : Input}
    (hstep : Guarded namesSession (Step env) σ i τ) (hσ : WaitingIntact σ) :
    WaitingIntact τ := by
  obtain ⟨as, hrun⟩ := run_step hstep.1
  refine hrun.invariant (I := WaitingIntact) ?_ hσ
  intro x a y hchange hx r room hroom hstate
  refine intact_act hchange.1.act hx ?_ hroom hstate
  intro p r room ha hroom
  exact state_of_release hstep.2 (fun r room h hw => (hσ r room h hw).idle) hchange.2
    (Or.inl ha) (hchange.1.act.release_inv (Or.inl ha)) hroom

/-- A slot release leaves waiting rooms as they are. -/
theorem spares_step {env : Env} {σ τ : RoomServer} {i : Input}
    (hstep : Guarded namesSession (Step env) σ i τ) (hindexed : σ.registry.Indexed env)
    (hσ : WaitingIntact σ) : SparesWaiting σ i τ := by
  intro k p sid hi r room hroom hstate
  subst hi
  obtain ⟨as, hrun⟩ := run_step hstep.1
  have hkeep : τ.registry.Indexed env ∧ τ.registry.rooms r = some room := by
    refine hrun.invariant
      (I := fun x => x.registry.Indexed env ∧ x.registry.rooms r = some room) ?_
      ⟨hindexed, hroom⟩
    intro x a y hchange hx
    obtain ⟨hx, hxroom⟩ := hx
    refine ⟨hx.act hchange.1.act, ?_⟩
    have hact := hchange.1.act
    have hcause := hchange.2
    have hreleased : ∀ q, a = .release q r ∨ a = .releaseLast q r → False := by
      intro q ha
      exact state_of_release hstep.2 (fun r room h hw => (hσ r room h hw).idle) hcause ha
        (hact.release_inv ha) hxroom hstate
    rcases hact.room_next hxroom hx.rooms_uuid_issued with ⟨room', hroom', hnext⟩ | ⟨-, hend⟩
    · cases hnext with
      | keep => exact hroom'
      | join => cases hcause.1
      | leave =>
          obtain ⟨s, hdeparting, -⟩ := hcause
          cases hdeparting
      | toggle =>
          obtain ⟨s, hinput, -⟩ := hcause
          cases hinput
      | start =>
          obtain ⟨s, hinput, -⟩ := hcause
          cases hinput
      | release => exact absurd (Or.inl rfl) (hreleased _)
    · cases hend with
      | closeRoom =>
          obtain ⟨s, hdeparting, -⟩ := hcause
          cases hdeparting
      | releaseLast => exact absurd (Or.inr rfl) (hreleased _)
      | endGame hin =>
          rw [hstate] at hin
          cases hin
  exact ⟨room, hkeep.2, rfl⟩

/-- Without a session id every release takes its player out of the index. -/
theorem playerToRoom_handleSlotReleased (env : Env) (p : String) (σ : RoomServer) :
    (σ.handleSlotReleased env p "").registry.playerToRoom p = none := by
  unfold handleSlotReleased
  split
  · next hp => exact hp
  next r hp =>
  split
  · simp
  next room hroom =>
  split
  · next hmatch => simp at hmatch
  · dsimp only
    split
    · rw [registry_eraseRoom, (endSession_spec env _ _).1]
      simp
    · simp

/-- A player who is released without a session id is gone from its waiting
room. -/
theorem namesSession_of_spares {env : Env} {σ τ : RoomServer} {i : Input}
    (hstep : Step env σ i τ) (hindexed : σ.registry.Indexed env)
    (hspares : SparesWaiting σ i τ) : namesSession σ i = true := by
  have hindexed' : τ.registry.Indexed env := indexed_step hstep hindexed
  unfold namesSession
  split
  · next k p sid =>
      by_contra hnames
      rw [Bool.or_eq_true, not_or, bne_iff_ne, not_not, Bool.not_eq_true',
        Bool.not_eq_false] at hnames
      obtain ⟨rfl, hwaiting⟩ := hnames
      unfold inWaitingRoom at hwaiting
      split at hwaiting
      · cases hwaiting
      next r hp =>
      obtain ⟨room, hroom, hstate⟩ := (Option.any_eq_true _ _).1 hwaiting
      obtain ⟨room', hroom', hplayers⟩ :=
        hspares k p "" rfl r room hroom (beq_iff_eq.1 hstate)
      -- the roster still has the player, so the index would have it too
      have hmem : p ∈ room'.playerIds := by
        rw [playerIds, hplayers]
        exact hindexed.mem_of_index hp hroom
      have hgone : τ.registry.playerToRoom p = none := by
        obtain ⟨store, -, -, rfl⟩ := hstep.gameServerMessage_inv
        exact playerToRoom_handleSlotReleased env p σ
      have hp' := hindexed'.index_of_mem hroom' hmem
      rw [hgone] at hp'
      cases hp'
  · rfl

/-!
## Runs
-/

theorem waitingIntact_initial (store : Redis.Keyspace) : WaitingIntact (initial store) := by
  intro r room hroom
  cases hroom

/-- A run keeps its waiting rooms intact and out of the reach of slot releases in
every step exactly if each release of a player who waits names a session. -/
theorem keepsWaiting_iff (env : Env) (store : Redis.Keyspace) (is : List Input)
    (σ : RoomServer) :
    Run (KeepsWaiting env) (initial store) is σ ↔
      Run (Guarded namesSession (Step env)) (initial store) is σ := by
  constructor
  · intro h
    induction h with
    | nil => exact Run.nil
    | snoc hrun hstep ih =>
        have hindexed := indexed_of_run (fun _ _ _ hstep => hstep.step) hrun
        exact Run.snoc ih ⟨hstep.step, namesSession_of_spares hstep.step hindexed hstep.spares⟩
  · intro h
    have hkeep : Run (KeepsWaiting env) (initial store) is σ ∧ WaitingIntact σ := by
      induction h with
      | nil => exact ⟨Run.nil, waitingIntact_initial store⟩
      | snoc hrun hstep ih =>
          obtain ⟨hkeep, hσ⟩ := ih
          have hindexed := indexed_of_run (fun _ _ _ hstep => hstep.1) hrun
          have hτ := intact_step hstep hσ
          exact ⟨Run.snoc hkeep ⟨hstep.1, hσ, hτ, spares_step hstep hindexed hσ⟩, hτ⟩
    exact hkeep.1

/-- The host of a waiting room with a guest is released without a session id: the
room waits on without its host. -/
theorem not_keepsWaiting_emptyId :
    ¬ ∀ (store : Redis.Keyspace) (is : List Input) (σ : RoomServer),
      Run (Step defaultEnv) (initial store) is σ →
        Run (KeepsWaiting defaultEnv) (initial store) is σ := by
  intro hclaim
  obtain ⟨σ, hrun, hσ⟩ := exists_run_of_exec (fun _ _ => true) (step defaultEnv) (initial {})
    [.connect 0 "10.0.0.1", .connect 1 "10.0.0.2", .gameServerConnect 0,
      .clientMessage 0 (.createRoom ⟨"h", "H", "room", 4⟩),
      .clientMessage 1 (.joinRoom ⟨"g", "G", "u"⟩),
      .gameServerMessage 0 (.slotReleased "h" "")]
    (fun σ => σ.manager.rooms.values.any fun room =>
      room.state == .waiting && room.playerIds.count room.hostId == 0)
    (by decide +kernel)
  rw [List.any_eq_true] at hσ
  obtain ⟨room, hroom, hlost⟩ := hσ
  obtain ⟨r, hr⟩ := UnorderedMap.mem_values.1 hroom
  rw [Bool.and_eq_true, beq_iff_eq, beq_iff_eq] at hlost
  have hintact : WaitingIntact σ := (hclaim {} _ σ hrun.of_guarded).invariant
    (fun _ _ _ hstep _ => hstep.after) (waitingIntact_initial {})
  have hhosted := (hintact r room hr hlost.1).hosted
  rw [hlost.2] at hhosted
  cases hhosted

end Room

end SosBackend
