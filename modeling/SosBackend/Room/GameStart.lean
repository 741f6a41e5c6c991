import SosBackend.Room.Teardown

/-!
# The order of games

A room is waiting until its host starts it, and in game until it is gone. Only one
room is in game at a time. A room has a session id exactly while it is in game; the
id is drawn when the room starts, so no two rooms of a run ever have the same one.
-/

namespace SosBackend

namespace Room

open RoomServer

/-- Only the entry of the host is marked as one. -/
def HostMarked (room : Room) : Prop :=
  ∀ player ∈ room.players, player.isHost = true → player.playerId = room.hostId

/-!
## Changes of one room
-/

theorem exists_of_mem_flipReady {p : String} {players : List PlayerData} {player : PlayerData}
    (h : player ∈ flipReady p players) : ∃ player' ∈ players,
      player'.playerId = player.playerId ∧ player'.isHost = player.isHost := by
  induction players with
  | nil => exact absurd h List.not_mem_nil
  | cons head players ih =>
      rw [flipReady] at h
      split at h
      · rcases List.mem_cons.1 h with rfl | h
        · exact ⟨head, List.mem_cons_self, rfl, rfl⟩
        · exact ⟨player, List.mem_cons_of_mem _ h, rfl, rfl⟩
      · rcases List.mem_cons.1 h with rfl | h
        · exact ⟨player, List.mem_cons_self, rfl, rfl⟩
        · obtain ⟨player', hmem, heq⟩ := ih h
          exact ⟨player', List.mem_cons_of_mem _ hmem, heq⟩

variable {r : String} {room room' : Room} {a : Action}

theorem RoomStart.hostMarked (h : RoomStart r a room) : room.HostMarked := by
  cases h with
  | create =>
      intro player hplayer _
      rw [List.mem_singleton.1 hplayer]
      rfl

/-- A change of a room keeps its host, and nobody else is marked as the host. -/
theorem RoomStep.hostMarked (h : RoomStep r room a room') (hroom : room.HostMarked) :
    room'.HostMarked := by
  cases h with
  | keep => exact hroom
  | join hr hstate hfull =>
      unfold Room.addPlayer
      split
      · exact hroom
      · intro player hplayer hhost
        rcases List.mem_append.1 hplayer with hplayer | hplayer
        · exact hroom player hplayer hhost
        · rw [List.mem_singleton.1 hplayer] at hhost
          cases hhost
  | leave hhost => exact fun player hplayer => hroom player (List.mem_of_mem_eraseP hplayer)
  | @toggle p hhost =>
      unfold Room.toggleReady
      split
      · exact hroom
      · intro player hplayer hmarked
        obtain ⟨player', hmem, hid, hsame⟩ := exists_of_mem_flipReady hplayer
        rw [← hid]
        exact hroom player' hmem (hsame.trans hmarked)
  | start hhost hready => exact hroom
  | release hcount => exact fun player hplayer => hroom player (List.mem_of_mem_eraseP hplayer)

/-- The roster of a room in game only shrinks. -/
theorem RoomStep.shrinks (h : RoomStep r room a room') (hstate : room.state = .inGame) :
    room'.playerIds.Sublist room.playerIds := by
  cases h with
  | keep => exact List.Sublist.refl _
  | join hr hwaiting hfull =>
      rw [hwaiting] at hstate
      cases hstate
  | leave hhost =>
      rw [Room.playerIds_removePlayer]
      exact List.erase_sublist
  | toggle hhost =>
      rw [Room.playerIds_toggleReady]
  | start hhost hready => exact List.Sublist.refl _
  | release hcount =>
      rw [Room.playerIds_removePlayer]
      exact List.erase_sublist

/-!
## The registry
-/

namespace Registry

/-- One room is in game at a time, a room has a session id exactly while it is in game,
and that id has been drawn. -/
structure Staged (env : Env) (v : Registry) : Prop where
  hosts : ∀ r room, v.rooms r = some room → room.HostMarked
  alone : ∀ r r' room room', v.rooms r = some room → v.rooms r' = some room' →
    room.state = .inGame → room'.state = .inGame → r = r'
  idle : ∀ r room, v.rooms r = some room → room.state = .waiting → room.sessionId = ""
  drawn : ∀ r room, v.rooms r = some room → room.state = .inGame →
    ∃ n < v.issued, room.sessionId = env.uuid n

variable {env : Env} {v w u : Registry}

/-- What has become of a room after `n` identifiers had been drawn. A room in game is in
game still, under its session id, without new players; another room has drawn its session
id since, if it has one. -/
structure Continues (env : Env) (n : ℕ) (room room' : Room) : Prop where
  inGame : room.state = .inGame → room'.state = .inGame ∧
    room'.sessionId = room.sessionId ∧ room'.playerIds.Sublist room.playerIds
  waiting : room.state = .waiting →
    room'.state = .waiting ∨ ∃ m, n ≤ m ∧ room'.sessionId = env.uuid m

/-- The rooms of a later registry are rooms of the earlier one, or new. -/
structure Succeeds (env : Env) (v w : Registry) : Prop where
  issued : v.issued ≤ w.issued
  rooms : ∀ r room', w.rooms r = some room' →
    (∃ room, v.rooms r = some room ∧ Continues env v.issued room room') ∨
      (∃ n, v.issued ≤ n ∧ r = env.uuid n) ∧
        (room'.state = .waiting ∨ ∃ m, v.issued ≤ m ∧ room'.sessionId = env.uuid m)

theorem Staged.session_iff (h : v.Staged env) {r : String} {room : Room}
    (hroom : v.rooms r = some room) : room.sessionId ≠ "" ↔ room.state = .inGame := by
  cases hstate : room.state with
  | waiting =>
      rw [h.idle r room hroom hstate]
      constructor
      · intro hne
        exact absurd rfl hne
      · intro hfalse
        cases hfalse
  | inGame =>
      obtain ⟨n, -, hn⟩ := h.drawn r room hroom hstate
      rw [hn]
      exact iff_of_true (env.uuid_ne_empty n) rfl

/-- One change keeps the order of the games. -/
theorem Staged.act (h : v.Staged env) (hact : Act env v a w) : w.Staged env := by
  constructor
  · intro r room hroom
    rcases hact.room_inv hroom with hstart | ⟨room', hroom', hstep⟩
    · exact hstart.hostMarked
    · exact hstep.hostMarked (h.hosts r room' hroom')
  · intro r r' room room' hroom hroom' hstate hstate'
    exact hact.eq_of_inGame h.alone hroom hroom' hstate hstate'
  · intro r room hroom hstate
    rcases hact.room_inv hroom with hstart | ⟨room', hroom', hstep⟩
    · cases hstart
      rfl
    · rcases hstep.session with ⟨hs, hsid⟩ | ⟨p, sid, -, hs, -⟩
      · rw [hsid]
        exact h.idle r room' hroom' (hs.symm.trans hstate)
      · rw [hs] at hstate
        cases hstate
  · intro r room hroom hstate
    rcases hact.inGame_inv hroom hstate with ⟨x, hx, hxstate, hsid⟩ | ⟨p, sid, rfl, hsid⟩
    · obtain ⟨n, hn, heq⟩ := h.drawn r x hx hxstate
      exact ⟨n, hn.trans_le hact.issued_le, hsid.symm.trans heq⟩
    · obtain ⟨-, rfl, hissued, -⟩ := hact.start_inv
      exact ⟨v.issued, hissued, hsid⟩

theorem Succeeds.refl (v : Registry) : Succeeds env v v := by
  refine ⟨le_rfl, fun r room hroom => Or.inl ⟨room, hroom, ?_, Or.inl⟩⟩
  exact fun hstate => ⟨hstate, rfl, List.Sublist.refl _⟩

/-- One more change. -/
theorem Succeeds.act (h : Succeeds env v w) (hact : Act env w a u) : Succeeds env v u := by
  refine ⟨h.issued.trans hact.issued_le, fun r room'' hroom'' => ?_⟩
  rcases hact.room_inv hroom'' with hstart | ⟨room', hroom', hstep⟩
  · -- a new room has drawn its id in this change
    cases hstart
    cases hact
    exact Or.inr ⟨⟨w.issued, h.issued, rfl⟩, Or.inl rfl⟩
  have hsession : room''.state = room'.state ∧ room''.sessionId = room'.sessionId ∨
      room'.state = .waiting ∧ ∃ m, v.issued ≤ m ∧ room''.sessionId = env.uuid m := by
    rcases hstep.session with hsame | ⟨p, sid, rfl, -, hsid⟩
    · exact Or.inl hsame
    · obtain ⟨hidle, rfl, -⟩ := hact.start_inv
      refine Or.inr ⟨?_, w.issued, h.issued, hsid⟩
      cases hstate : room'.state with
      | waiting => rfl
      | inGame => exact absurd ⟨r, room', hroom', hstate⟩ hidle
  rcases h.rooms r room' hroom' with ⟨room, hroom, hcontinues⟩ | ⟨hnew, hlater⟩
  · refine Or.inl ⟨room, hroom, ?_, ?_⟩
    · intro hstate
      obtain ⟨hstate', hsid', hroster⟩ := hcontinues.inGame hstate
      rcases hsession with ⟨hs, hsid⟩ | ⟨hwaiting, -⟩
      · exact ⟨hs.trans hstate', hsid.trans hsid', (hstep.shrinks hstate').trans hroster⟩
      · rw [hstate'] at hwaiting
        cases hwaiting
    · intro hstate
      rcases hsession with ⟨hs, hsid⟩ | ⟨-, hdrawn⟩
      · rw [hs, hsid]
        exact hcontinues.waiting hstate
      · exact Or.inr hdrawn
  · refine Or.inr ⟨hnew, ?_⟩
    rcases hsession with ⟨hs, hsid⟩ | ⟨-, hdrawn⟩
    · rw [hs, hsid]
      exact hlater
    · exact Or.inr hdrawn

/-- A room that is still there has been there all the time. -/
theorem Succeeds.continues (h : Succeeds env v w) (hv : v.Indexed env) {r : String}
    {room room' : Room} (hroom : v.rooms r = some room) (hroom' : w.rooms r = some room') :
    Continues env v.issued room room' := by
  rcases h.rooms r room' hroom' with ⟨room₀, hroom₀, hcontinues⟩ | ⟨⟨n, hn, rfl⟩, -⟩
  · cases hroom.symm.trans hroom₀
    exact hcontinues
  · obtain ⟨m, hm, heq⟩ := hv.issued _ room hroom
    exact absurd (env.uuid_injective heq) (hm.trans_le hn).ne'

/-- A session id belongs to one room for good. -/
theorem Succeeds.eq_of_session (h : Succeeds env v w) (hv : v.Staged env)
    (hw : w.Staged env) {r r' : String} {room room' : Room} (hroom : v.rooms r = some room)
    (hroom' : w.rooms r' = some room') (hne : room.sessionId ≠ "")
    (heq : room'.sessionId = room.sessionId) : r' = r := by
  have hstate := (hv.session_iff hroom).1 hne
  have hstate' := (hw.session_iff hroom').1 (heq ▸ hne)
  obtain ⟨n, hn, hsid⟩ := hv.drawn r room hroom hstate
  have hold : ¬ ∃ m, v.issued ≤ m ∧ room'.sessionId = env.uuid m := by
    rintro ⟨m, hm, hsid'⟩
    have huuid : env.uuid m = env.uuid n := by rw [← hsid', heq, hsid]
    exact absurd (env.uuid_injective huuid) (hn.trans_le hm).ne'
  have hwaiting : room'.state ≠ .waiting := by
    rw [hstate']
    decide
  rcases h.rooms r' room' hroom' with ⟨room₀, hroom₀, hcontinues⟩ | ⟨-, hlater⟩
  · cases hstate₀ : room₀.state with
    | waiting => exact absurd (hcontinues.waiting hstate₀) (not_or.2 ⟨hwaiting, hold⟩)
    | inGame => exact hv.alone r' r room₀ room hroom₀ hroom hstate₀ hstate
  · exact absurd hlater (not_or.2 ⟨hwaiting, hold⟩)

end Registry

/-!
## Calls of the handlers
-/

variable {env : Env} {σ τ : RoomServer} {c : HandlerCall}

/-- Where a call gets to by a run of changes. -/
theorem Called.exists_run (h : Called env σ c τ) :
    ∃ σ' as, σ'.manager = σ.manager ∧ σ.backend.uuidsIssued ≤ σ'.backend.uuidsIssued ∧
      Run (Effect env) σ' as τ ∧ (∀ a ∈ as, c.Makes a) ∧ τ = c.run env σ' := by
  obtain ⟨σ', hmanager, -, hissued, rfl⟩ := h
  obtain ⟨as, hrun, has⟩ := run_call_makes env σ' c
  exact ⟨σ', as, hmanager, hissued, hrun, has, rfl⟩

theorem rooms_of_manager (h : τ.manager = σ.manager) :
    τ.registry.rooms = σ.registry.rooms ∧
      τ.registry.playerToRoom = σ.registry.playerToRoom := by
  constructor
  · simp only [registry, h]
  · simp only [registry, h]

/-- The order of the games is about the rooms and the identifiers drawn. -/
theorem Registry.Staged.of_eq {v w : Registry} (h : v.Staged env) (hrooms : w.rooms = v.rooms)
    (hissued : v.issued ≤ w.issued) : w.Staged env := by
  constructor
  · rw [hrooms]
    exact h.hosts
  · rw [hrooms]
    exact h.alone
  · rw [hrooms]
    exact h.idle
  · intro r room hroom hstate
    rw [hrooms] at hroom
    obtain ⟨n, hn, heq⟩ := h.drawn r room hroom hstate
    exact ⟨n, hn.trans_le hissued, heq⟩

theorem Registry.Succeeds.of_eq {v w u : Registry} (h : Registry.Succeeds env v w)
    (hrooms : u.rooms = w.rooms) (hissued : w.issued ≤ u.issued) :
    Registry.Succeeds env v u := by
  refine ⟨h.issued.trans hissued, ?_⟩
  rw [hrooms]
  exact h.rooms

theorem staged_call (h : Called env σ c τ) (hσ : σ.registry.Staged env) :
    τ.registry.Staged env := by
  obtain ⟨σ', as, hmanager, hissued, hrun, -⟩ := h.exists_run
  refine hrun.invariant (I := fun x => x.registry.Staged env) ?_
    (hσ.of_eq (w := σ'.registry) (rooms_of_manager hmanager).1 hissued)
  intro x a y heffect hx
  exact hx.act heffect.act

theorem succeeds_call {v : Registry} (h : Called env σ c τ)
    (hσ : Registry.Succeeds env v σ.registry) : Registry.Succeeds env v τ.registry := by
  obtain ⟨σ', as, hmanager, hissued, hrun, -⟩ := h.exists_run
  refine hrun.invariant (I := fun x => Registry.Succeeds env v x.registry) ?_
    (hσ.of_eq (u := σ'.registry) (rooms_of_manager hmanager).1 hissued)
  intro x a y heffect hx
  exact hx.act heffect.act

/-- Without a start no room gets in game. -/
theorem inGame_of_run {x y : RoomServer} {as : List Action} (h : Run (Effect env) x as y)
    (hstart : ∀ a ∈ as, ∀ p r sid, a ≠ .start p r sid) {r : String} {room : Room}
    (hroom : y.registry.rooms r = some room) (hstate : room.state = .inGame) :
    ∃ room', x.registry.rooms r = some room' ∧ room'.state = .inGame := by
  induction h generalizing room with
  | nil => exact ⟨room, hroom, hstate⟩
  | snoc hrun heffect ih =>
      rcases heffect.act.inGame_inv hroom hstate with
        ⟨room', hroom', hstate', -⟩ | ⟨p, sid, rfl, -⟩
      · exact ih (fun a ha => hstart a (List.mem_append_left _ ha)) hroom' hstate'
      · exact absurd rfl (hstart _ (List.mem_append_right _ List.mem_cons_self) p r sid)

/-- What a call from `m` to `m'` may do to the state of a room: a new room is waiting,
and a room starts in a call of `handleStartGame` for its host, who is on its roster while
everybody else there is ready. -/
structure StartedByHost (c : HandlerCall) (m m' : RoomManager) : Prop where
  created : ∀ r room', m.rooms.find? r = none → m'.rooms.find? r = some room' →
    room'.state = .waiting
  started : ∀ r room room', m.rooms.find? r = some room → m'.rooms.find? r = some room' →
    room.state = .waiting → room'.state = .inGame →
      c = .startGame room.hostId ∧ room.hasPlayer room.hostId = true ∧
        ∀ player ∈ room.players, player.playerId ≠ room.hostId → player.isReady = true

/-- The start of a room is the only change of its call. -/
theorem Registry.Indexed.of_start {v w : Registry} {p r sid : String} {room : Room}
    (hact : Act env v (.start p r sid) w) (hv : v.Indexed env) (hstaged : v.Staged env)
    (hroom : v.rooms r = some room) :
    p = room.hostId ∧ room.hasPlayer room.hostId = true ∧
      ∀ player ∈ room.players, player.playerId ≠ room.hostId → player.isReady = true := by
  cases hact with
  | @start _ _ room₀ _ hp hroom₀ hhost hidle hready hissued =>
      cases hroom.symm.trans hroom₀
      have hid : p = room.hostId := beq_iff_eq.1 hhost
      subst hid
      refine ⟨rfl, Room.hasPlayer_iff.2 (hv.mem_of_index hp hroom), fun player hmem hne => ?_⟩
      have hplayer := List.all_eq_true.1 hready player hmem
      rcases Bool.or_eq_true_iff.1 hplayer with hmarked | hplayer
      · exact absurd (hstaged.hosts _ room hroom player hmem hmarked) hne
      · exact hplayer

theorem startedByHost_call (h : Called env σ c τ) (hσ : σ.registry.Indexed env)
    (hstaged : σ.registry.Staged env) : StartedByHost c σ.manager τ.manager := by
  obtain ⟨σ', as, hmanager, hissued, hrun, has, hτ⟩ := h.exists_run
  obtain ⟨hrooms, hplayers⟩ := rooms_of_manager hmanager
  have hσ' : σ'.registry.Indexed env := hσ.of_eq hrooms hplayers hissued
  have hstaged' : σ'.registry.Staged env := hstaged.of_eq hrooms hissued
  -- what a room in game was before the call, or how it started
  have hinGame : ∀ r room', τ.registry.rooms r = some room' → room'.state = .inGame →
      (∃ room, σ'.registry.rooms r = some room ∧ room.state = .inGame) ∨
        ∃ p sid, c = .startGame p ∧ Act env σ'.registry (.start p r sid) τ.registry := by
    intro r room' hroom' hstate'
    by_cases hstart : ∃ p, c = .startGame p
    · obtain ⟨p, rfl⟩ := hstart
      obtain ⟨a, heffect, ha⟩ := effect_handleStartGame env p σ'
      have hact : Act env σ'.registry a τ.registry := by
        rw [hτ]
        exact heffect.act
      rcases hact.inGame_inv hroom' hstate' with ⟨room, hroom, hstate, -⟩ | ⟨p', sid, rfl, -⟩
      · exact Or.inl ⟨room, hroom, hstate⟩
      · rcases ha with hquiet | ⟨r', heq⟩
        · cases hquiet
        · cases heq
          exact Or.inr ⟨p, _, rfl, hact⟩
    · refine Or.inl (inGame_of_run hrun ?_ hroom' hstate')
      rintro a ha p r' sid rfl
      exact hstart ⟨p, has _ ha⟩
  constructor
  · intro r room' hnone hroom'
    cases hstate' : room'.state with
    | waiting => rfl
    | inGame =>
        have hnone' : σ'.registry.rooms r = none := by
          rw [hrooms]
          exact hnone
        rcases hinGame r room' hroom' hstate' with ⟨room, hroom, -⟩ | ⟨p, sid, -, hact⟩
        · rw [hnone'] at hroom
          cases hroom
        · obtain ⟨-, -, -, room, hroom, -⟩ := hact.start_inv
          rw [hnone'] at hroom
          cases hroom
  · intro r room room' hroom hroom' hstate hstate'
    have hroom'' : σ'.registry.rooms r = some room := by
      rw [hrooms]
      exact hroom
    rcases hinGame r room' hroom' hstate' with ⟨room₀, hroom₀, hstate₀⟩ | ⟨p, sid, rfl, hact⟩
    · cases hroom''.symm.trans hroom₀
      rw [hstate] at hstate₀
      cases hstate₀
    · obtain ⟨rfl, hhas, hready⟩ := hσ'.of_start hact hstaged' hroom''
      exact ⟨rfl, hhas, hready⟩

/-!
## Runs
-/

/-- The games of the manager of a state, up to the end of every run from there: a room in
game stays in game under its session id and gets no new players as long as it is there,
and its session id is that of no other room. -/
structure GamesInOrder (env : Env) (σ : RoomServer) : Prop where
  alone : ∀ r r' room room', σ.manager.rooms.find? r = some room →
    σ.manager.rooms.find? r' = some room' → room.state = .inGame → room'.state = .inGame →
      r = r'
  session : ∀ r room, σ.manager.rooms.find? r = some room →
    (room.sessionId ≠ "" ↔ room.state = .inGame)
  call : ∀ c τ, Called env σ c τ → StartedByHost c σ.manager τ.manager
  inGame : ∀ cs τ, Run (Called env) σ cs τ → ∀ r room room',
    σ.manager.rooms.find? r = some room → τ.manager.rooms.find? r = some room' →
      room.state = .inGame → room'.state = .inGame ∧ room'.sessionId = room.sessionId ∧
        room'.playerIds.Sublist room.playerIds
  unrepeated : ∀ cs τ, Run (Called env) σ cs τ → ∀ r r' room room',
    σ.manager.rooms.find? r = some room → τ.manager.rooms.find? r' = some room' →
      room.sessionId ≠ "" → room'.sessionId = room.sessionId → r' = r

theorem staged_initial (env : Env) (σ : RoomServer) (h : σ.manager = {}) :
    σ.registry.Staged env := by
  have hrooms : ∀ r, σ.registry.rooms r = none := by
    intro r
    simp only [registry, h, UnorderedMap.find?_empty]
  constructor
  all_goals simp [hrooms]

theorem staged_step {i : Input} (h : Step env σ i τ) (hσ : σ.registry.Staged env) :
    τ.registry.Staged env := by
  obtain ⟨as, hrun⟩ := run_step h
  refine hrun.invariant (I := fun x => x.registry.Staged env) ?_ hσ
  intro x a y hchange hx
  exact hx.act hchange.1.act

/-- The games are in order in every run. -/
theorem staged_of_run {store : Redis.Keyspace} {is : List Input}
    {R : RoomServer → Input → RoomServer → Prop} (hR : ∀ σ i τ, R σ i τ → Step env σ i τ)
    (h : Run R (initial store) is σ) : σ.registry.Staged env :=
  h.invariant (I := fun σ => σ.registry.Staged env)
    (fun σ i τ hstep => staged_step (hR σ i τ hstep)) (staged_initial env _ rfl)

/-- In every state that calls of the handlers reach, the games are in order. -/
theorem gamesInOrder_of_calls {σ₀ : RoomServer} {cs : List HandlerCall}
    (h₀ : σ₀.manager = {}) (h : Run (Called env) σ₀ cs σ) : GamesInOrder env σ := by
  have hindexed : σ.registry.Indexed env :=
    h.invariant (I := fun σ => σ.registry.Indexed env)
      (fun _ _ _ => indexed_call) (indexed_initial env σ₀ h₀)
  have hstaged : σ.registry.Staged env :=
    h.invariant (I := fun σ => σ.registry.Staged env)
      (fun _ _ _ => staged_call) (staged_initial env σ₀ h₀)
  have hlater : ∀ cs τ, Run (Called env) σ cs τ →
      Registry.Succeeds env σ.registry τ.registry ∧ τ.registry.Staged env := by
    intro cs τ hrun
    constructor
    · exact hrun.invariant (I := fun τ => Registry.Succeeds env σ.registry τ.registry)
        (fun _ _ _ => succeeds_call) (Registry.Succeeds.refl _)
    · exact hrun.invariant (I := fun τ => τ.registry.Staged env)
        (fun _ _ _ => staged_call) hstaged
  constructor
  · exact hstaged.alone
  · intro r room hroom
    exact hstaged.session_iff hroom
  · intro c τ hcall
    exact startedByHost_call hcall hindexed hstaged
  · intro cs τ hrun r room room' hroom hroom' hstate
    exact ((hlater cs τ hrun).1.continues hindexed hroom hroom').inGame hstate
  · intro cs τ hrun r r' room room' hroom hroom' hne heq
    obtain ⟨hsucceeds, hτ⟩ := hlater cs τ hrun
    exact hsucceeds.eq_of_session hstaged hτ hroom hroom' hne heq

/-- A player creates a room and starts it. -/
theorem gamesInOrder_of_calls_startGame :
    GamesInOrder defaultEnv ((HandlerCall.startGame "p").run defaultEnv
      ((HandlerCall.createRoom ⟨"p", "P", "room", 4⟩ 0).run defaultEnv (initial {}))) := by
  have hcreate : Called defaultEnv (initial {}) (.createRoom ⟨"p", "P", "room", 4⟩ 0)
      ((HandlerCall.createRoom ⟨"p", "P", "room", 4⟩ 0).run defaultEnv (initial {})) :=
    ⟨initial {}, rfl, rfl, le_rfl, rfl⟩
  exact gamesInOrder_of_calls (rfl : (initial {}).manager = {})
    (Run.snoc (Run.single hcreate) ⟨_, rfl, rfl, le_rfl, rfl⟩)

end Room

end SosBackend
