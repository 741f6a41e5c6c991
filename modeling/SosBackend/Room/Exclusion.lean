import SosBackend.Room.Index

/-!
# One game on the game server at a time

A room that is in game holds the game server for the players on its roster, so a
player who has been sent into a game is `Outstanding` while it is on the roster of
the room with that session. A change keeps an outstanding player outstanding or
frees it, except where the player's own leave, or the host's, takes it off the
roster in the middle of the game; a slot release without a session id does the
same. As long as no step does that, no second game starts before everybody of the
first has been released or the game server has been lost.
-/

namespace SosBackend

namespace Room

open RoomServer

/-!
## What is claimed of a run
-/

/-- The step from `σ` to `τ` has sent the player into the game of the session. -/
def sentGameStart (σ τ : RoomServer) (p sid : String) : Bool :=
  (τ.sent.drop σ.sent.length).any fun d => d.addressee == some p &&
    match d.envelope with
    | .gameStart game => game.sessionId == sid
    | _ => false

/-- The input names the player in a slot release of the session, or is the loss
of the game server. -/
def Frees (p sid : String) (σ : RoomServer) (i : Input) : Prop :=
  (∃ k, i = .gameServerMessage k (.slotReleased p sid)) ∨
    ∃ k, i = .gameServerClose k ∧ (σ.gameServers k).closed = false ∧
      (σ.gameServers k).serverId ≠ ""

/-- In the runs of `R` from the start of the server: where a game start is sent,
every player sent into an earlier game has been freed of it in between. -/
def Exclusive (R : RoomServer → Input → RoomServer → Prop) : Prop :=
  ∀ (store : Redis.Keyspace) (is₁ is₂ : List Input) (i₁ i₂ : Input)
    (σ₁ τ₁ σ₂ τ₂ : RoomServer) (p q sid₁ sid₂ : String),
    Run R (initial store) is₁ σ₁ → R σ₁ i₁ τ₁ → sentGameStart σ₁ τ₁ p sid₁ = true →
    Run R τ₁ is₂ σ₂ → R σ₂ i₂ τ₂ → sentGameStart σ₂ τ₂ q sid₂ = true →
    Occurs R (fun σ i _ => Frees p sid₁ σ i) τ₁ is₂ σ₂

/-- The player is on the roster of a room in game. -/
def inGame (σ : RoomServer) (p : String) : Bool :=
  match σ.manager.playerToRoom.find? p with
  | none => false
  | some r => (σ.manager.rooms.find? r).any fun room => room.state == .inGame

/-- No player leaves a room in game in the step, neither by `LeaveRoom` or a close
nor by a slot release without a session id. -/
def keepsPlayers (env : Env) (σ : RoomServer) (i : Input) : Bool :=
  ((departing env σ i).all fun s =>
    (σ.clients s).playerId == "" || !inGame σ (σ.clients s).playerId) &&
  match i with
  | .gameServerMessage _ (.slotReleased p sid) => sid != "" || !inGame σ p
  | _ => true

/-!
## Outstanding players
-/

/-- The player is on the roster of the room that is in game under the session. -/
def Registry.Outstanding (v : Registry) (p sid : String) : Prop :=
  ∃ r room, v.rooms r = some room ∧ room.state = .inGame ∧ room.sessionId = sid ∧
    p ∈ room.playerIds

theorem Registry.Outstanding.busy {v : Registry} {p sid : String}
    (h : v.Outstanding p sid) : v.Busy := by
  obtain ⟨r, room, hroom, hstate, -, -⟩ := h
  exact ⟨r, room, hroom, hstate⟩

theorem inGame_of_room {σ : RoomServer} {p r : String} {room : Room}
    (hp : σ.registry.playerToRoom p = some r) (hroom : σ.registry.rooms r = some room)
    (hstate : room.state = .inGame) : inGame σ p = true := by
  have hp' : σ.manager.playerToRoom.find? p = some r := hp
  have hroom' : σ.manager.rooms.find? r = some room := hroom
  simp [inGame, hp', hroom', hstate]

/-- A player who departs is in no room in game. -/
theorem not_inGame_of_departing {env : Env} {σ x : RoomServer} {i : Input} {s : SessionPtr}
    {r : String} {room : Room} (hkeeps : keepsPlayers env σ i = true)
    (hdeparting : departing env σ i = some s) (hne : (σ.clients s).playerId ≠ "")
    (hrooms : x.registry.rooms = σ.registry.rooms)
    (hplayers : x.registry.playerToRoom = σ.registry.playerToRoom)
    (hp : x.registry.playerToRoom (σ.clients s).playerId = some r)
    (hroom : x.registry.rooms r = some room) : room.state ≠ .inGame := by
  intro hstate
  rw [hplayers] at hp
  rw [hrooms] at hroom
  have hin := inGame_of_room hp hroom hstate
  unfold keepsPlayers at hkeeps
  rw [Bool.and_eq_true, hdeparting] at hkeeps
  have hleaver := hkeeps.1
  simp [hin, hne] at hleaver

/-- A slot release that meets a room in game names its session. -/
theorem frees_of_release {env : Env} {σ x : RoomServer} {i : Input} {p r : String}
    {room : Room} {a : Action} (ha : a = .release p r ∨ a = .releaseLast p r)
    (hkeeps : keepsPlayers env σ i = true) (hcause : Cause env σ i x a)
    (hp : x.registry.playerToRoom p = some r) (hroom : x.registry.rooms r = some room)
    (hstate : room.state = .inGame) : Frees p room.sessionId σ i := by
  obtain ⟨k, sid, rfl, hreg, hsid⟩ := hcause.release_inv ha hroom
  rw [hreg] at hp hroom
  have hin := inGame_of_room hp hroom hstate
  rcases hsid with rfl | rfl
  · simp [keepsPlayers, hin] at hkeeps
  · exact Or.inl ⟨k, rfl⟩

/-- A change keeps an outstanding player outstanding, or its step frees the
player. -/
theorem outstanding_change {env : Env} {σ x y : RoomServer} {i : Input} {a : Action}
    {p sid : String} (hkeeps : keepsPlayers env σ i = true)
    (hx : x.registry.Indexed env) (hchange : Change env σ i x a y)
    (h : x.registry.Outstanding p sid) :
    y.registry.Outstanding p sid ∨ Frees p sid σ i := by
  obtain ⟨r, room, hroom, hstate, rfl, hp⟩ := h
  obtain ⟨heffect, hcause⟩ := hchange
  have hact := heffect.act
  rcases hact.room_next hroom hx.rooms_uuid_issued with ⟨room', hroom', hstep⟩ | ⟨-, hend⟩
  · cases hstep with
    | keep => exact Or.inl ⟨r, room, hroom', hstate, rfl, hp⟩
    | join hr hwaiting hfull =>
        rw [hwaiting] at hstate
        cases hstate
    | @leave q hhost =>
        obtain ⟨s, hdeparting, rfl, hne, hrooms, hplayers⟩ := hcause
        have hq := (hact.leave_inv hroom).1
        exact absurd hstate
          (not_inGame_of_departing hkeeps hdeparting hne hrooms hplayers hq hroom)
    | toggle hhost =>
        refine Or.inl ⟨r, _, hroom', ?_, Room.sessionId_toggleReady _ _, ?_⟩
        · rw [Room.state_toggleReady]
          exact hstate
        · rw [Room.playerIds_toggleReady]
          exact hp
    | start hhost hready => exact absurd ⟨r, room, hroom, hstate⟩ hact.start_inv.1
    | @release q hcount =>
        have hq := hact.release_inv (Or.inl rfl)
        by_cases hpq : p = q
        · subst hpq
          exact Or.inr (frees_of_release (Or.inl rfl) hkeeps hcause hq hroom hstate)
        · refine Or.inl ⟨r, _, hroom', hstate, rfl, ?_⟩
          rw [Room.playerIds_removePlayer]
          exact (List.mem_erase_of_ne hpq).2 hp
  · cases hend with
    | @closeRoom q hhost =>
        obtain ⟨s, hdeparting, rfl, hne, hrooms, hplayers⟩ := hcause
        have hq := (hact.closeRoom_inv hroom).1
        exact absurd hstate
          (not_inGame_of_departing hkeeps hdeparting hne hrooms hplayers hq hroom)
    | @releaseLast q hcount =>
        have hq := hact.release_inv (Or.inr rfl)
        -- the last player released is the one who is outstanding
        have hpq : p = q := by
          by_contra hne
          have hrest := (List.mem_erase_of_ne hne).2 hp
          rw [← Room.playerIds_removePlayer, hx.playerIds_eq_nil hroom hcount] at hrest
          exact absurd hrest List.not_mem_nil
        subst hpq
        exact Or.inr (frees_of_release (Or.inr rfl) hkeeps hcause hq hroom hstate)
    | endGame _ => exact Or.inr (Or.inr hcause)

/-- What holds along the changes of one step, as long as the step does not free the
player. -/
theorem outstanding_changes {env : Env} {σ x y : RoomServer} {i : Input} {as : List Action}
    {p sid : String} (hkeeps : keepsPlayers env σ i = true)
    (hx : x.registry.Indexed env) (hrun : Run (Change env σ i) x as y)
    (h : x.registry.Outstanding p sid) :
    y.registry.Outstanding p sid ∨ Frees p sid σ i := by
  have hinv : y.registry.Indexed env ∧ (y.registry.Outstanding p sid ∨ Frees p sid σ i) := by
    refine hrun.invariant (I := fun x => x.registry.Indexed env ∧
      (x.registry.Outstanding p sid ∨ Frees p sid σ i)) ?_ ⟨hx, Or.inl h⟩
    rintro x a y hchange ⟨hx, hout⟩
    refine ⟨hx.act hchange.1.act, ?_⟩
    rcases hout with hout | hfrees
    · exact outstanding_change hkeeps hx hchange hout
    · exact Or.inr hfrees
  exact hinv.2

/-!
## Starts
-/

/-- Every delivery of a step comes with one of its changes. -/
theorem exists_change_of_sent {env : Env} {σ x y : RoomServer} {i : Input}
    {as : List Action} {d : Delivery} (hrun : Run (Change env σ i) x as y)
    (hd : d ∈ y.sent.drop x.sent.length) :
    ∃ x' a y' bs cs, Run (Change env σ i) x bs x' ∧ Change env σ i x' a y' ∧
      a.Sends x'.registry d ∧ Run (Change env σ i) y' cs y := by
  induction hrun with
  | nil => simp at hd
  | @snoc es t a u hrun hchange ih =>
      obtain ⟨out, hout, hsends⟩ := hchange.1.sent
      rw [hout, List.drop_append, List.mem_append] at hd
      rcases hd with hd | hd
      · obtain ⟨x', b, y', bs, cs, hbefore, hb, hdb, hafter⟩ := ih hd
        exact ⟨x', b, y', bs, _, hbefore, hb, hdb, Run.snoc hafter hchange⟩
      · exact ⟨t, a, u, es, [], hrun, hchange, hsends d (List.mem_of_mem_drop hd), Run.nil⟩

/-- A game start is sent to the players of the room that starts in the step. -/
theorem exists_start_of_sentGameStart {env : Env} {σ τ : RoomServer} {i : Input}
    {as : List Action} {p sid : String} (hrun : Run (Change env σ i) σ as τ)
    (h : sentGameStart σ τ p sid = true) :
    ∃ x y q r room bs cs, Run (Change env σ i) σ bs x ∧
      Change env σ i x (.start q r sid) y ∧ x.registry.rooms r = some room ∧
      p ∈ room.playerIds ∧ Run (Change env σ i) y cs τ := by
  obtain ⟨d, hd, hp⟩ := List.any_eq_true.1 h
  obtain ⟨x, a, y, bs, cs, hbefore, hchange, hsends, hafter⟩ := exists_change_of_sent hrun hd
  rw [Bool.and_eq_true, beq_iff_eq] at hp
  obtain ⟨hp, hgame⟩ := hp
  split at hgame
  · next game henvelope =>
      rw [Action.Sends, henvelope] at hsends
      obtain ⟨q, r, room, p', rfl, hroom, hp', haddressee⟩ := hsends
      obtain rfl : p' = p := Option.some.inj (haddressee.symm.trans hp)
      obtain rfl := beq_iff_eq.1 hgame
      exact ⟨x, y, q, r, room, bs, cs, hbefore, hchange, hroom, hp', hafter⟩
  · cases hgame

/-- Who has been sent into a game is outstanding. -/
theorem outstanding_of_sentGameStart {env : Env} {σ τ : RoomServer} {i : Input}
    {p sid : String} (hσ : σ.registry.Indexed env)
    (hstep : Guarded (keepsPlayers env) (Step env) σ i τ)
    (h : sentGameStart σ τ p sid = true) : τ.registry.Outstanding p sid := by
  obtain ⟨as, hrun⟩ := run_step hstep.1
  obtain ⟨x, y, q, r, room, bs, cs, hbefore, hchange, hroom, hp, hafter⟩ :=
    exists_start_of_sentGameStart hrun h
  have hx := indexed_changes hbefore hσ
  have hy : y.registry.Outstanding p sid := by
    obtain ⟨-, -, -, room', hroom', hstart⟩ := hchange.1.act.start_inv
    rw [hroom] at hroom'
    cases hroom'
    exact ⟨r, _, hstart, rfl, rfl, hp⟩
  rcases outstanding_changes hstep.2 (hx.act hchange.1.act) hafter hy with hτ | hfrees
  · exact hτ
  · -- the step is a `StartGame`
    obtain ⟨s, rfl, -⟩ := hchange.2
    rcases hfrees with ⟨k, hk⟩ | ⟨k, hk, -⟩
    · cases hk
    · cases hk

theorem not_busy_of_sentGameStart {env : Env} {σ τ : RoomServer} {i : Input} {p sid : String}
    (hstep : Step env σ i τ) (h : sentGameStart σ τ p sid = true) : ¬ σ.registry.Busy := by
  obtain ⟨as, hrun⟩ := run_step hstep
  obtain ⟨x, y, q, r, room, bs, cs, -, hchange, -⟩ := exists_start_of_sentGameStart hrun h
  obtain ⟨s, -, -, -, hreg⟩ := hchange.2
  rw [← hreg]
  exact hchange.1.act.start_inv.1

/-- A step keeps an outstanding player outstanding, or frees the player. -/
theorem outstanding_step {env : Env} {σ τ : RoomServer} {i : Input} {p sid : String}
    (hσ : σ.registry.Indexed env) (hstep : Guarded (keepsPlayers env) (Step env) σ i τ)
    (h : σ.registry.Outstanding p sid) :
    τ.registry.Outstanding p sid ∨ Frees p sid σ i := by
  obtain ⟨as, hrun⟩ := run_step hstep.1
  exact outstanding_changes hstep.2 hσ hrun h

/-- As long as no player leaves a room in game, the server directs one group of
players at the game server at a time. -/
theorem exclusive_of_keepsPlayers (env : Env) :
    Exclusive (Guarded (keepsPlayers env) (Step env)) := by
  intro store is₁ is₂ i₁ i₂ σ₁ τ₁ σ₂ τ₂ p q sid₁ sid₂ hrun₁ hstep₁ hsent₁ hrun₂ hstep₂ hsent₂
  have hσ₁ : σ₁.registry.Indexed env := indexed_of_run (fun _ _ _ h => h.1) hrun₁
  have hτ₁ := outstanding_of_sentGameStart hσ₁ hstep₁ hsent₁
  have hkeep := hrun₂.keeps_or_occurs
    (I := fun σ => σ.registry.Indexed env ∧ σ.registry.Outstanding p sid₁)
    (E := fun σ i _ => Frees p sid₁ σ i) ?_ ⟨indexed_step hstep₁.1 hσ₁, hτ₁⟩
  · rcases hkeep with ⟨-, hout⟩ | hoccurs
    · exact absurd hout.busy (not_busy_of_sentGameStart hstep₂.1 hsent₂)
    · exact hoccurs
  · rintro σ i τ hstep ⟨hσ, hout⟩
    rcases outstanding_step hσ hstep hout with hτ | hfrees
    · exact Or.inl ⟨indexed_step hstep.1 hσ, hτ⟩
    · exact Or.inr hfrees

/-- The player of a game is released before another host starts the next one. -/
theorem exclusive_of_keepsPlayers_released : ∃ σ₁ τ₁ σ₂ τ₂,
    Run (Guarded (keepsPlayers defaultEnv) (Step defaultEnv)) (initial {})
      [.connect 0 "10.0.0.1", .connect 1 "10.0.0.2", .gameServerConnect 0,
        .clientMessage 0 (.createRoom ⟨"p", "P", "room", 4⟩)] σ₁ ∧
    Guarded (keepsPlayers defaultEnv) (Step defaultEnv) σ₁ (.clientMessage 0 .startGame) τ₁ ∧
    Run (Guarded (keepsPlayers defaultEnv) (Step defaultEnv)) τ₁
      [.gameServerMessage 0 (.slotReleased "p" "uu"),
        .clientMessage 1 (.createRoom ⟨"q", "Q", "room", 4⟩)] σ₂ ∧
    Guarded (keepsPlayers defaultEnv) (Step defaultEnv) σ₂ (.clientMessage 1 .startGame) τ₂ ∧
    Occurs (Guarded (keepsPlayers defaultEnv) (Step defaultEnv))
      (fun σ i _ => Frees "p" "uu" σ i) τ₁ [.gameServerMessage 0 (.slotReleased "p" "uu"),
        .clientMessage 1 (.createRoom ⟨"q", "Q", "room", 4⟩)] σ₂ := by
  obtain ⟨σ₁, hrun₁, h₁⟩ := exists_run_of_exec (keepsPlayers defaultEnv) (step defaultEnv)
    (initial {}) [.connect 0 "10.0.0.1", .connect 1 "10.0.0.2", .gameServerConnect 0,
      .clientMessage 0 (.createRoom ⟨"p", "P", "room", 4⟩)]
    (fun σ₁ => keepsPlayers defaultEnv σ₁ (.clientMessage 0 .startGame) &&
      (step defaultEnv σ₁ (.clientMessage 0 .startGame)).any fun τ₁ =>
        sentGameStart σ₁ τ₁ "p" "uu" &&
          (exec (keepsPlayers defaultEnv) (step defaultEnv) τ₁
            [.gameServerMessage 0 (.slotReleased "p" "uu"),
              .clientMessage 1 (.createRoom ⟨"q", "Q", "room", 4⟩)]).any fun σ₂ =>
                keepsPlayers defaultEnv σ₂ (.clientMessage 1 .startGame) &&
                  (step defaultEnv σ₂ (.clientMessage 1 .startGame)).any fun τ₂ =>
                    sentGameStart σ₂ τ₂ "q" "uuuuu")
    (by decide +kernel)
  rw [Bool.and_eq_true] at h₁
  obtain ⟨hkeeps₁, h₁⟩ := h₁
  obtain ⟨τ₁, hstep₁, h₁⟩ := (Option.any_eq_true _ _).1 h₁
  rw [Bool.and_eq_true] at h₁
  obtain ⟨hsent₁, h₁⟩ := h₁
  obtain ⟨σ₂, hrun₂, h₂⟩ := exists_run_of_exec _ _ _ _ _ h₁
  rw [Bool.and_eq_true] at h₂
  obtain ⟨hkeeps₂, h₂⟩ := h₂
  obtain ⟨τ₂, hstep₂, hsent₂⟩ := (Option.any_eq_true _ _).1 h₂
  exact ⟨σ₁, τ₁, σ₂, τ₂, hrun₁, ⟨hstep₁, hkeeps₁⟩, hrun₂, ⟨hstep₂, hkeeps₂⟩,
    exclusive_of_keepsPlayers defaultEnv {} _ _ _ _ _ _ _ _ "p" "q" "uu" "uuuuu" hrun₁
      ⟨hstep₁, hkeeps₁⟩ hsent₁ hrun₂ ⟨hstep₂, hkeeps₂⟩ hsent₂⟩

/-- A host starts a game and leaves it, and another host starts the next one while
the players of the first are still on the game server. -/
theorem not_exclusive_hostLeaves : ¬ Exclusive (Step defaultEnv) := by
  intro hclaim
  have hmono : ∀ {σ τ : RoomServer} {is : List Input},
      Run (Guarded (fun _ _ => true) (Step defaultEnv)) σ is τ →
        Run (Step defaultEnv) σ is τ := fun h => h.mono fun _ _ _ hstep => hstep.1
  obtain ⟨σ₁, hrun₁, h₁⟩ := exists_run_of_exec (fun _ _ => true) (step defaultEnv)
    (initial {}) [.connect 0 "10.0.0.1", .connect 1 "10.0.0.2",
      .clientMessage 0 (.createRoom ⟨"p", "P", "room", 4⟩)]
    (fun σ₁ => (step defaultEnv σ₁ (.clientMessage 0 .startGame)).any fun τ₁ =>
      sentGameStart σ₁ τ₁ "p" "uu" &&
        (exec (fun _ _ => true) (step defaultEnv) τ₁ [.clientMessage 0 .leaveRoom,
          .clientMessage 1 (.createRoom ⟨"q", "Q", "room", 4⟩)]).any fun σ₂ =>
            (step defaultEnv σ₂ (.clientMessage 1 .startGame)).any fun τ₂ =>
              sentGameStart σ₂ τ₂ "q" "uuuuu")
    (by decide +kernel)
  obtain ⟨τ₁, hstep₁, h₁⟩ := (Option.any_eq_true _ _).1 h₁
  rw [Bool.and_eq_true] at h₁
  obtain ⟨hsent₁, h₁⟩ := h₁
  obtain ⟨σ₂, hrun₂, h₂⟩ := exists_run_of_exec _ _ _ _ _ h₁
  obtain ⟨τ₂, hstep₂, hsent₂⟩ := (Option.any_eq_true _ _).1 h₂
  obtain ⟨i, hi, σ, _, hfrees⟩ := (hclaim {} _ _ _ _ _ _ _ _ _ _ _ _ (hmono hrun₁) hstep₁
    hsent₁ (hmono hrun₂) hstep₂ hsent₂).exists_mem
  -- both inputs in between come from clients
  simp only [List.mem_cons, List.not_mem_nil, or_false] at hi
  rcases hfrees with ⟨k, rfl⟩ | ⟨k, rfl, -⟩
  · simp at hi
  · simp at hi

end Room

end SosBackend
