import SosBackend.Room.Index

/-!
# Rooms in game

While a room is in game its record is to stay as it is, except that players leave. The
handler of `ToggleReady` does not ask for the state of the room: a player of a room in game
can take its ready flag back, and that is the only way for the record to change.
-/

namespace SosBackend

namespace Room

open RoomServer

/-- The record is the one before, without at most one entry of the roster. -/
structure Frozen (room room' : Room) : Prop where
  roomId : room'.roomId = room.roomId
  roomName : room'.roomName = room.roomName
  hostId : room'.hostId = room.hostId
  maxPlayers : room'.maxPlayers = room.maxPlayers
  state : room'.state = room.state
  sessionId : room'.sessionId = room.sessionId
  players : ∃ n, room'.players = room.players.eraseIdx n

/-- The rooms that are in game in `σ`, and still there in `τ`. -/
def FreezesGames (σ τ : RoomServer) : Prop :=
  ∀ r room room', σ.manager.rooms.find? r = some room → room.state = .inGame →
    τ.manager.rooms.find? r = some room' → Frozen room room'

/-- In a room in game every player is ready who is not marked as the host. -/
def GamesReady (σ : RoomServer) : Prop :=
  ∀ r room, σ.manager.rooms.find? r = some room → room.state = .inGame →
    ∀ player ∈ room.players, player.isHost = false → player.isReady = true

/-- The input is a `ToggleReady` that is not refused by the rate limiter, of a player of a
room in game who is not its host. -/
def togglesInGame (env : Env) (σ : RoomServer) : Input → Bool
  | .clientMessage s .toggleReady => !limited env σ s && (σ.clients s).playerId != "" &&
      ((σ.manager.playerToRoom.find? (σ.clients s).playerId).bind σ.manager.rooms.find?).any
        fun room => room.state == .inGame && !room.isHost (σ.clients s).playerId
  | _ => false

/-!
## One room
-/

variable {room room' : Room}

theorem Frozen.refl (room : Room) : Frozen room room :=
  ⟨rfl, rfl, rfl, rfl, rfl, rfl, room.players.length,
    (List.eraseIdx_of_length_le (le_refl _)).symm⟩

/-- A player who leaves takes one entry away. -/
theorem frozen_removePlayer (room : Room) (p : String) : Frozen room (room.removePlayer p) := by
  have hplayers : (room.removePlayer p).players =
      room.players.eraseP fun player => player.playerId == p := rfl
  rw [List.eraseP_eq_eraseIdx] at hplayers
  split at hplayers
  · exact ⟨rfl, rfl, rfl, rfl, rfl, rfl, room.players.length,
      hplayers.trans (List.eraseIdx_of_length_le (le_refl _)).symm⟩
  · next n hn => exact ⟨rfl, rfl, rfl, rfl, rfl, rfl, n, hplayers⟩

theorem canStart_of_sublist (h : room.canStart = true)
    (hplayers : room'.players.Sublist room.players) : room'.canStart = true := by
  rw [canStart_iff] at h ⊢
  exact fun player hplayer => h player (hplayers.subset hplayer)

theorem Frozen.canStart (h : Frozen room room') (hready : room.canStart = true) :
    room'.canStart = true := by
  obtain ⟨n, hn⟩ := h.players
  apply canStart_of_sublist hready
  rw [hn]
  exact List.eraseIdx_sublist _ _

/-- A flag that is flipped is another one. -/
theorem flipReady_ne {p : String} {players : List PlayerData}
    (h : p ∈ players.map PlayerData.playerId) : flipReady p players ≠ players := by
  induction players with
  | nil => exact absurd h List.not_mem_nil
  | cons player players ih =>
      rw [flipReady]
      intro heq
      split at heq
      · have hready := congrArg PlayerData.isReady (List.cons.inj heq).1
        cases hflag : player.isReady <;> rw [hflag] at hready <;> cases hready
      · next hne =>
          rcases List.mem_cons.1 h with rfl | hrest
          · exact hne (beq_self_eq_true _)
          · exact ih hrest (List.cons.inj heq).2

/-- A roster with a flag flipped is not what is left of the roster. -/
theorem not_frozen_toggleReady {p : String} (hp : p ∈ room.playerIds)
    (hhost : room.isHost p = false) : ¬ Frozen room (room.toggleReady p) := by
  intro h
  obtain ⟨n, hn⟩ := h.players
  have hplayers : (room.toggleReady p).players = flipReady p room.players := by
    rw [Room.toggleReady, if_neg]
    exact Bool.eq_false_iff.1 hhost
  have hlength := congrArg List.length (Room.playerIds_toggleReady room p)
  rw [Room.length_playerIds, Room.length_playerIds] at hlength
  rw [hn] at hlength
  have hbehind : room.players.length ≤ n := by
    by_contra hlt
    rw [List.length_eraseIdx_of_lt (not_le.1 hlt)] at hlength
    omega
  rw [List.eraseIdx_of_length_le hbehind, hplayers] at hn
  exact flipReady_ne hp hn

/-!
## The changes of a step
-/

/-- What has become of the rooms that were in game, and of the others. -/
def Keeps (σ τ : RoomServer) : Prop :=
  ∀ r room', τ.registry.rooms r = some room' →
    (∃ room, σ.registry.rooms r = some room ∧ room.state = .inGame ∧ Frozen room room') ∨
      (∀ room, σ.registry.rooms r = some room → room.state = .waiting) ∧
        (room'.state = .inGame → room'.canStart = true)

variable {env : Env} {σ τ : RoomServer} {i : Input}

theorem Keeps.refl (σ : RoomServer) : Keeps σ σ := by
  intro r room hroom
  cases hstate : room.state with
  | waiting =>
      refine Or.inr ⟨fun room' hroom' => ?_, fun hinGame => ?_⟩
      · cases hroom.symm.trans hroom'
        exact hstate
      · cases hinGame
  | inGame => exact Or.inl ⟨room, hroom, hstate, Frozen.refl room⟩

/-- No room in game is toggled by the input. -/
def LeavesReady (σ : RoomServer) (i : Input) : Prop :=
  ∀ s r room, i = .clientMessage s .toggleReady → (σ.clients s).playerId ≠ "" →
    σ.registry.playerToRoom (σ.clients s).playerId = some r → σ.registry.rooms r = some room →
    room.isHost (σ.clients s).playerId = false → room.state = .waiting

/-- A change of a room as it was before the step. -/
theorem keeps_room {r : String} {room'' : Room} (hroom : σ.registry.rooms r = some room)
    (hinGame : room.state = .inGame → Frozen room room'')
    (hwaiting : room.state = .waiting → room''.state = .inGame → room''.canStart = true) :
    (∃ room, σ.registry.rooms r = some room ∧ room.state = .inGame ∧ Frozen room room'') ∨
      (∀ room, σ.registry.rooms r = some room → room.state = .waiting) ∧
        (room''.state = .inGame → room''.canStart = true) := by
  cases hstate : room.state with
  | waiting =>
      refine Or.inr ⟨fun room' hroom' => ?_, hwaiting hstate⟩
      cases hroom.symm.trans hroom'
      exact hstate
  | inGame => exact Or.inl ⟨room, hroom, hstate, hinGame hstate⟩

/-- What a change makes of the rooms. Where one is joined, left or toggled, the rooms are
still those before the step. -/
theorem Keeps.change {x y : RoomServer} {a : Action} (h : Keeps σ x)
    (hσ : σ.registry.Indexed env) (hready : LeavesReady σ i) (hchange : Change env σ i x a y) :
    Keeps σ y := by
  obtain ⟨heffect, hcause⟩ := hchange
  intro r room'' hroom''
  rcases heffect.act.room_inv hroom'' with hstart | ⟨room', hroom', hstep⟩
  · cases hstart with
    | create =>
        obtain ⟨-, -, hreg, -⟩ := hcause
        refine Or.inr ⟨fun room hroom => ?_, fun hstate => by cases hstate⟩
        -- the identifier of the room is fresh
        have hr : r = env.uuid σ.registry.issued := by
          rw [← hreg]
          exact heffect.act.create_inv
        rw [hr, hσ.rooms_uuid_issued] at hroom
        cases hroom
  have hstays : ∀ {room'' : Room}, room''.state = room'.state → room'.state = .waiting →
      room''.state = .inGame → room''.canStart = true := by
    intro room'' hsame hwaiting hinGame
    rw [hsame, hwaiting] at hinGame
    cases hinGame
  cases hstep with
  | keep => exact h r room'' hroom'
  | join hr hstate hfull =>
      obtain ⟨-, -, hreg, -⟩ := hcause
      rw [hreg] at hroom'
      refine keeps_room hroom' (fun hinGame => ?_) (hstays ?_)
      · rw [hstate] at hinGame
        cases hinGame
      · unfold Room.addPlayer
        split <;> rfl
  | leave hhost =>
      obtain ⟨s, -, -, -, hrooms, -⟩ := hcause
      rw [hrooms] at hroom'
      exact keeps_room hroom' (fun _ => frozen_removePlayer room' _) (hstays rfl)
  | toggle hhost =>
      obtain ⟨s, hi, hp, hne, hreg⟩ := hcause
      have hindex := heffect.act.toggle_inv
      rw [hreg] at hroom' hindex
      subst hp
      have hwaiting := hready s r room' hi hne hindex hroom' hhost
      refine keeps_room hroom' (fun hinGame => ?_) (hstays (Room.state_toggleReady _ _))
      rw [hwaiting] at hinGame
      cases hinGame
  | start hhost hcanStart =>
      obtain ⟨s, -, -, -, hreg⟩ := hcause
      have hidle := heffect.act.start_inv.1
      have hinGame : room'.state ≠ .inGame := fun hstate => hidle ⟨r, room', hroom', hstate⟩
      rw [hreg] at hroom'
      exact keeps_room hroom' (fun hstate => absurd hstate hinGame) fun _ _ => hcanStart
  | release hcount =>
      obtain ⟨k, sid, -, hreg, -⟩ := hcause
      rw [hreg] at hroom'
      exact keeps_room hroom' (fun _ => frozen_removePlayer room' _) (hstays rfl)

/-- A message that the rate limiter refuses is answered and closes the connection. -/
theorem exists_close_of_limited {s : SessionPtr} {envelope : Envelope}
    (hlimited : limited env σ s = true) (hstep : Step env σ (.clientMessage s envelope) τ) :
    ∃ x, x.registry = σ.registry ∧
      (τ.registry = x.registry ∨ Step env x (.clientClose s) τ) := by
  obtain ⟨halive, rfl⟩ := Option.ite_some_none_eq_some.1 hstep
  obtain ⟨b, hissued, -, hmessage⟩ := processMessage_eq env σ s
  rw [hmessage, if_pos hlimited]
  have hreg : (RoomServer.send { σ with backend := b } s none
      (.reject ⟨.rateLimited, "Too many requests"⟩)).registry = σ.registry :=
    registry_backend hissued
  refine ⟨_, hreg, ?_⟩
  have hclient : (RoomServer.send { σ with backend := b } s none
      (.reject ⟨.rateLimited, "Too many requests"⟩)).clients s = σ.clients s := rfl
  cases hclosed : (σ.clients s).closed with
  | true =>
      left
      rw [closeClient, hclient, hclosed, if_pos rfl]
  | false =>
      right
      apply if_pos
      rw [hclient, ClientSession.isOpen, halive, hclosed]
      rfl

theorem keeps_step_of_leavesReady (hσ : σ.registry.Indexed env) (hready : LeavesReady σ i)
    (hstep : Step env σ i τ) : Keeps σ τ := by
  obtain ⟨as, hrun⟩ := run_step hstep
  exact hrun.invariant (I := Keeps σ)
    (fun x a y hchange hx => hx.change hσ hready hchange) (Keeps.refl σ)

/-- A step keeps the rooms in game, if it does not toggle a flag in one of them. -/
theorem keeps_step (hσ : σ.registry.Indexed env) (htoggles : togglesInGame env σ i = false)
    (hstep : Step env σ i τ) : Keeps σ τ := by
  by_cases hmessage : ∃ s, i = .clientMessage s .toggleReady ∧ limited env σ s = true
  · obtain ⟨s, rfl, hlimited⟩ := hmessage
    obtain ⟨x, hreg, hτ⟩ := exists_close_of_limited hlimited hstep
    have hkeeps : Keeps x τ := by
      rcases hτ with hτ | hclose
      · intro r room hroom
        rw [hτ] at hroom
        exact Keeps.refl x r room hroom
      · rw [← hreg] at hσ
        exact keeps_step_of_leavesReady hσ (fun t r room hi => by cases hi) hclose
    intro r room' hroom'
    have hroom := hkeeps r room' hroom'
    rw [hreg] at hroom
    exact hroom
  · refine keeps_step_of_leavesReady hσ ?_ hstep
    intro s r room hi hne hp hroom hhost
    subst hi
    have hpass : limited env σ s = false :=
      Bool.eq_false_iff.2 fun hlimited => hmessage ⟨s, rfl, hlimited⟩
    have hp' : σ.manager.playerToRoom.find? (σ.clients s).playerId = some r := hp
    have hroom' : σ.manager.rooms.find? r = some room := hroom
    cases hstate : room.state with
    | waiting => rfl
    | inGame => simp [togglesInGame, hpass, hne, hp', hroom', hstate, hhost] at htoggles

/-- A `ToggleReady` in game flips a flag. -/
theorem exists_toggled (htoggles : togglesInGame env σ i = true) (hstep : Step env σ i τ) :
    ∃ p r room, σ.registry.playerToRoom p = some r ∧ σ.registry.rooms r = some room ∧
      room.state = .inGame ∧ room.isHost p = false ∧
      τ.registry.rooms r = some (room.toggleReady p) := by
  unfold togglesInGame at htoggles
  split at htoggles
  · next s =>
      simp only [Bool.and_eq_true, Bool.not_eq_true', bne_iff_ne, ne_eq] at htoggles
      obtain ⟨⟨hpass, hne⟩, hany⟩ := htoggles
      obtain ⟨room, hfind, hroom⟩ := (Option.any_eq_true _ _).1 hany
      obtain ⟨r, hp, hr⟩ := Option.bind_eq_some_iff.1 hfind
      rw [Bool.and_eq_true, beq_iff_eq, Bool.not_eq_true'] at hroom
      obtain ⟨hstate, hhost⟩ := hroom
      refine ⟨(σ.clients s).playerId, r, room, hp, hr, hstate, hhost, ?_⟩
      obtain ⟨-, rfl⟩ := Option.ite_some_none_eq_some.1 hstep
      obtain ⟨b, -, -, hmessage⟩ := processMessage_eq env σ s
      have hprocess : σ.processMessage env s .toggleReady =
          RoomServer.handleToggleReady (σ.clients s).playerId { σ with backend := b } := by
        rw [hmessage, hpass, if_neg Bool.false_ne_true, dispatch]
        exact if_pos (bne_iff_ne.2 hne)
      rw [hprocess]
      simp only [handleToggleReady, hp, hr, hhost, Bool.false_eq_true, if_false]
      rw [registry_broadcastToRoom, registry_modifyRoom (by exact hr), Registry.setRoom_rooms,
        Function.update_self]
  · cases htoggles

/-!
## Every step, and every run
-/

theorem freezesGames_of_keeps (h : Keeps σ τ) : FreezesGames σ τ := by
  intro r room room' hroom hstate hroom'
  rcases h r room' hroom' with ⟨room'', hroom'', -, hfrozen⟩ | ⟨hwaiting, -⟩
  · cases hroom.symm.trans hroom''
    exact hfrozen
  · have hidle := hwaiting room hroom
    rw [hstate] at hidle
    cases hidle

theorem gamesReady_of_keeps (hσ : GamesReady σ) (h : Keeps σ τ) : GamesReady τ := by
  intro r room' hroom' hstate
  rw [← canStart_iff]
  rcases h r room' hroom' with ⟨room, hroom, hinGame, hfrozen⟩ | ⟨-, hready⟩
  · exact hfrozen.canStart (canStart_iff.2 (hσ r room hroom hinGame))
  · exact hready hstate

/-- A step keeps the records of the rooms in game, but for one entry that goes, if and only
if it is not a `ToggleReady` in such a room. As long as there is none, everybody in a game
stays ready. -/
theorem freezesGames_iff (env : Env) :
    (∀ store is σ i τ, Run (Step env) (initial store) is σ → Step env σ i τ →
      (FreezesGames σ τ ↔ togglesInGame env σ i = false)) ∧
    ∀ store is σ, Run (Guarded (fun σ i => !togglesInGame env σ i) (Step env)) (initial store)
      is σ → GamesReady σ := by
  constructor
  · intro store is σ i τ hrun hstep
    have hσ : σ.registry.Indexed env := indexed_of_run (fun _ _ _ h => h) hrun
    constructor
    · intro hfreezes
      by_contra htoggles
      rw [Bool.not_eq_false] at htoggles
      obtain ⟨p, r, room, hp, hroom, hstate, hhost, hτ⟩ := exists_toggled htoggles hstep
      exact not_frozen_toggleReady (hσ.mem_of_index hp hroom) hhost
        (hfreezes r room _ hroom hstate hτ)
    · intro htoggles
      exact freezesGames_of_keeps (keeps_step hσ htoggles hstep)
  · intro store is σ hrun
    have hinv : σ.registry.Indexed env ∧ GamesReady σ := by
      refine hrun.invariant (I := fun σ => σ.registry.Indexed env ∧ GamesReady σ) ?_
        ⟨indexed_initial env _ rfl, fun r room hroom => by cases hroom⟩
      intro x i y hstep hx
      have htoggles : togglesInGame env x i = false := by simpa using hstep.2
      exact ⟨indexed_step hstep.1 hx.1,
        gamesReady_of_keeps hx.2 (keeps_step hx.1 htoggles hstep.1)⟩
    exact hinv.2

/-- A game of two, the second of whom leaves it. -/
theorem freezesGames_iff_guestLeaves : ∃ σ τ, (σ.manager.rooms.find? "u").any
    (fun room => room.state == .inGame) = true ∧ GamesReady σ ∧ FreezesGames σ τ := by
  obtain ⟨σ, hrun, hσ⟩ := exists_run_of_exec (fun σ i => !togglesInGame defaultEnv σ i)
    (step defaultEnv) (initial {}) [.connect 0 "10.0.0.1", .connect 1 "10.0.0.2",
      .clientMessage 0 (.createRoom ⟨"p", "P", "room", 4⟩),
      .clientMessage 1 (.joinRoom ⟨"q", "Q", "u"⟩), .clientMessage 1 .toggleReady,
      .clientMessage 0 .startGame]
    (fun σ => (σ.manager.rooms.find? "u").any (fun room => room.state == .inGame) &&
      (step defaultEnv σ (.clientMessage 1 .leaveRoom)).isSome)
    (by decide +kernel)
  rw [Bool.and_eq_true] at hσ
  obtain ⟨τ, hstep⟩ := Option.isSome_iff_exists.1 hσ.2
  refine ⟨σ, τ, hσ.1, (freezesGames_iff defaultEnv).2 {} _ σ hrun, ?_⟩
  exact ((freezesGames_iff defaultEnv).1 {} _ σ _ τ hrun.of_guarded hstep).2 rfl

/-- A player takes its ready flag back in the middle of the game. -/
theorem not_freezesGames_toggleReady : ¬ ∀ is σ i τ, Run (Step defaultEnv) (initial {}) is σ →
    Step defaultEnv σ i τ → FreezesGames σ τ := by
  intro hclaim
  obtain ⟨σ, hrun, hσ⟩ := exists_run_of_exec (fun _ _ => true) (step defaultEnv) (initial {})
    [.connect 0 "10.0.0.1", .connect 1 "10.0.0.2",
      .clientMessage 0 (.createRoom ⟨"p", "P", "room", 4⟩),
      .clientMessage 1 (.joinRoom ⟨"q", "Q", "u"⟩), .clientMessage 1 .toggleReady,
      .clientMessage 0 .startGame]
    (fun σ => (σ.manager.rooms.find? "u").any fun room =>
      (room.state == .inGame && room.canStart) &&
        (step defaultEnv σ (.clientMessage 1 .toggleReady)).any fun τ =>
          (τ.manager.rooms.find? "u").any fun room' => !room'.canStart)
    (by decide +kernel)
  obtain ⟨room, hroom, hσ⟩ := (Option.any_eq_true _ _).1 hσ
  rw [Bool.and_eq_true, Bool.and_eq_true, beq_iff_eq] at hσ
  obtain ⟨τ, hstep, hτ⟩ := (Option.any_eq_true _ _).1 hσ.2
  obtain ⟨room', hroom', hready⟩ := (Option.any_eq_true _ _).1 hτ
  have hfrozen := hclaim _ σ _ τ hrun.of_guarded hstep "u" room room' hroom hσ.1.1 hroom'
  rw [hfrozen.canStart hσ.1.2] at hready
  cases hready

end Room

end SosBackend
