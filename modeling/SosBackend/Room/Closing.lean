import SosBackend.Room.Backing
import SosBackend.Room.GameStart
import SosBackend.Room.Seats

/-!
# What a close releases

A close cleans up after the one id that the session remembers. The three things that a
session can hold go back to that id: it has entered rooms as this player only, the room
it has created has this player for its host, and a waiting room has its host on the
roster. A session that has closed stays closed, so nobody but another session can hold
any of it afterwards.
-/

namespace SosBackend

namespace Room

open RoomServer

/-- The session has created the room. -/
def Creates (env : Env) (s : SessionPtr) (r : String) (σ : RoomServer) (i : Input) : Prop :=
  ∃ request, i = .clientMessage s (.createRoom request) ∧ limited env σ s = false ∧
    σ.createRejection env request s = none ∧ r = env.uuid σ.backend.uuidsIssued

/-- A slot release takes the host out of its waiting room, and leaves the room to the
others. -/
def ReleasesHost (σ : RoomServer) (i : Input) : Prop :=
  ∃ k p sid r room, i = .gameServerMessage k (.slotReleased p sid) ∧
    σ.manager.playerToRoom.find? p = some r ∧ σ.manager.rooms.find? r = some room ∧
    (sid = "" ∨ room.sessionId = sid) ∧ room.state = .waiting ∧ room.isHost p = true ∧
    (room.removePlayer p).playerCount ≠ 0

/-- The steps that take ids in the way a close can clean up after, and leave no waiting
room without its host. -/
def HoldStep (env : Env) (σ : RoomServer) (i : Input) (τ : RoomServer) : Prop :=
  Step env σ i τ ∧ TakesIds env σ i ∧ ¬ ReleasesHost σ i

/-- What holds in `τ` of a session that was closed in the step from `σ` to `τ₁`: its
players are in a room only where another open session has entered as them since, it is
registered for nobody and not in the lobby, and the rooms it had created that were
waiting are gone. -/
structure Released (env : Env) (R : RoomServer → Input → RoomServer → Prop)
    (σ₀ : RoomServer) (is₁ : List Input) (σ τ₁ : RoomServer) (is₂ : List Input)
    (τ : RoomServer) (s : SessionPtr) : Prop where
  players : ∀ p r, Occurs R (fun x j _ => Accepts env x j s p) σ₀ is₁ σ →
    (τ.manager.playerToRoom.find? p = some r ∨
      ∃ room, τ.manager.rooms.find? r = some room ∧ room.hasPlayer p = true) →
    ∃ t, t ≠ s ∧ (τ.clients t).isOpen = true ∧
      Occurs R (fun x j _ => Accepts env x j t p) τ₁ is₂ τ
  registered : ∀ p, τ.manager.sessions.find? p ≠ some s
  lobby : τ.manager.lobbySessions.contains s = false
  rooms : ∀ r room, Occurs R (fun x j _ => Creates env s r x j) σ₀ is₁ σ →
    σ.manager.rooms.find? r = some room → room.state = .waiting →
    τ.manager.rooms.find? r = none

/-- In all runs of `R`, a close releases what its session held, for good, and who is on
the roster of a waiting room is backed by an open session. -/
structure ReleasesAll (env : Env) (R : RoomServer → Input → RoomServer → Prop) : Prop where
  close : ∀ store is₁ σ i τ₁ is₂ τ s, Run R (initial store) is₁ σ → R σ i τ₁ →
    closing env σ i = some s → Run R τ₁ is₂ τ →
    Released env R (initial store) is₁ σ τ₁ is₂ τ s
  backed : ∀ store is σ, Run R (initial store) is σ → ∀ r room p,
    σ.manager.rooms.find? r = some room → room.state = .waiting →
    room.hasPlayer p = true → ∃ s, σ.manager.sessions.find? p = some s ∧
      (σ.clients s).isOpen = true ∧ (σ.clients s).playerId = p

/-!
## Hosts
-/

variable {env : Env}

theorem RoomStep.hostId {r : String} {room room' : Room} {a : Action}
    (h : RoomStep r room a room') : room'.hostId = room.hostId := by
  cases h with
  | join hr hstate hfull =>
      unfold Room.addPlayer
      split
      · rfl
      · rfl
  | toggle hhost =>
      unfold Room.toggleReady
      split
      · rfl
      · rfl
  | _ => rfl

/-- A waiting room has its host on the roster. -/
def Registry.Hosted (v : Registry) : Prop :=
  ∀ r room, v.rooms r = some room → room.state = .waiting → room.hostId ∈ room.playerIds

theorem RoomStep.hosted {r : String} {room room' : Room} {a : Action}
    (h : RoomStep r room a room')
    (hrelease : ∀ p, a = .release p r → room.state = .waiting → room.isHost p = false)
    (hstate : room'.state = .waiting)
    (hroom : room.state = .waiting → room.hostId ∈ room.playerIds) :
    room'.hostId ∈ room'.playerIds := by
  -- the roster without a player who is not the host
  have herase : ∀ p, room.state = .waiting → room.isHost p = false →
      room.hostId ∈ (room.removePlayer p).playerIds := by
    intro p hwaiting hhost
    rw [Room.playerIds_removePlayer, List.mem_erase_of_ne]
    · exact hroom hwaiting
    · intro heq
      rw [Room.isHost, ← heq, beq_self_eq_true] at hhost
      cases hhost
  rw [h.hostId]
  cases h with
  | keep => exact hroom hstate
  | join hr hwaiting hfull =>
      exact Room.mem_playerIds_addPlayer _ _ (hroom hwaiting)
  | leave hhost => exact herase _ hstate hhost
  | toggle hhost =>
      rw [Room.playerIds_toggleReady]
      rw [Room.state_toggleReady] at hstate
      exact hroom hstate
  | start hhost hready => cases hstate
  | @release p hcount => exact herase p hstate (hrelease p rfl hstate)

/-- A release that keeps the room leaves somebody in it. -/
theorem Act.playerCount_of_release {v w : Registry} {p r : String} {room : Room}
    (h : Act env v (.release p r) w) (hroom : v.rooms r = some room) :
    (room.removePlayer p).playerCount ≠ 0 := by
  cases h with
  | release hp hroom' hcount =>
      cases hroom.symm.trans hroom'
      exact hcount

theorem Act.forget_inv {v w : Registry} {p r : String} (h : Act env v (.forget p) w)
    (hp : v.playerToRoom p = some r) : v.rooms r = none := by
  cases h with
  | forget hp' hroom =>
      cases hp.symm.trans hp'
      exact hroom

theorem Act.room_of_departure {v w : Registry} {a : Action} {p r : String}
    (h : Act env v a w) (ha : a = .leave p r ∨ a = .closeRoom p r) :
    v.playerToRoom p = some r := by
  rcases ha with rfl | rfl
  · cases h with
    | leave hp hroom hhost => exact hp
  · cases h with
    | closeRoom hp hroom hhost => exact hp

theorem Act.rooms_of_closeRoom {v w : Registry} {p r : String}
    (h : Act env v (.closeRoom p r) w) : w.rooms r = none := by
  cases h
  exact Function.update_self r _ _

theorem hosted_change {σ x y : RoomServer} {i : Input} {a : Action}
    (h : Change env σ i x a y) (hkeeps : ¬ ReleasesHost σ i) (hx : x.registry.Hosted) :
    y.registry.Hosted := by
  obtain ⟨heffect, hcause⟩ := h
  intro r room hroom hstate
  rcases heffect.act.room_inv hroom with hstart | ⟨room', hroom', hstep⟩
  · cases hstart
    exact List.mem_singleton_self _
  · apply hstep.hosted _ hstate (hx r room' hroom')
    intro p ha hwaiting
    subst ha
    obtain ⟨k, sid, hi, hreg, room'', hroom'', hsid⟩ := hcause
    rw [hreg] at hroom'
    cases hroom'.symm.trans hroom''
    have hact := heffect.act
    rw [hreg] at hact
    have hp := hact.release_inv (Or.inl rfl)
    have hcount := hact.playerCount_of_release hroom'
    rw [Bool.eq_false_iff]
    intro hhost
    exact hkeeps ⟨k, p, sid, r, room', hi, hp, hroom', hsid, hwaiting, hhost, hcount⟩

/-- The host of a waiting room closes it with its session. -/
theorem rooms_of_closing {σ τ : RoomServer} {i : Input} {s : SessionPtr} (h : Step env σ i τ)
    (hclosing : closing env σ i = some s) {r : String} {room : Room}
    (hroom : σ.registry.rooms r = some room)
    (hp : σ.registry.playerToRoom (σ.clients s).playerId = some r)
    (hne : (σ.clients s).playerId ≠ "") (hhost : room.isHost (σ.clients s).playerId = true) :
    τ.registry.rooms r = none := by
  obtain ⟨hopen, x, hreg, -, rfl⟩ := step_of_closing h hclosing
  have hclients : x.clients = σ.clients := congrArg Registry.clients hreg
  obtain ⟨σ₁, -, hreg₁, hclose⟩ := close_changes env (s := s) (σ := x) (by
    rw [hclients]
    exact (ClientSession.isOpen_iff.1 hopen).2)
  rw [hclients] at hclose
  have hroom₁ : σ₁.registry.rooms r = some room := by
    rw [hreg₁, hreg]
    exact hroom
  have hp₁ : σ₁.registry.playerToRoom (σ.clients s).playerId = some r := by
    rw [hreg₁, hreg]
    exact hp
  rcases hclose with ⟨hempty, -⟩ | ⟨-, a, σ₂, σ₃, ha, hleave, hunregister, hclear⟩
  · exact absurd hempty hne
  · rw [hclear.act.clear_inv, hunregister.act.unregister_inv]
    change σ₂.registry.rooms r = none
    have hact := hleave.act
    rcases ha with ⟨-, hnone⟩ | rfl | ⟨r', rfl⟩ | ⟨r', rfl⟩
    · cases hp₁.symm.trans hnone
    · have hgone := hact.forget_inv hp₁
      cases hroom₁.symm.trans hgone
    · have hr := hact.room_of_departure (Or.inl rfl)
      cases hp₁.symm.trans hr
      have hnot := (hact.leave_inv hroom₁).2
      cases hhost.symm.trans hnot
    · have hr := hact.room_of_departure (Or.inr rfl)
      cases hp₁.symm.trans hr
      exact hact.rooms_of_closeRoom

/-!
## Taking ids
-/

variable {σ τ : RoomServer} {i : Input} {s : SessionPtr} {p : String}

/-- The registry after an accepted request: the player has entered a room on the
session. -/
theorem registry_of_accepts (h : Step env σ i τ) (haccepts : Accepts env σ i s p) :
    (σ.clients s).lifetime = .alive ∧ σ.registry.Admits p s ∧
      ∃ (v : Registry) (r : String), v.clients = σ.clients ∧ τ.registry = v.enter p r s := by
  obtain ⟨hlimited, hrequest⟩ := haccepts
  rcases hrequest with ⟨request, rfl, rfl, haccept⟩ | ⟨request, room, rfl, rfl, haccept⟩
  · obtain ⟨halive, rfl⟩ := Option.ite_some_none_eq_some.1 h
    obtain ⟨hadmits, -⟩ := of_createRejection_eq_none haccept
    obtain ⟨b, -, hpass⟩ := processMessage_of_pass hlimited (.createRoom request)
    have haccept' : ({ σ with backend := b } : RoomServer).createRejection env request s =
        none := haccept
    have hresult := registry_handleCreateRoom haccept'
    rw [hpass]
    refine ⟨halive, hadmits, _, _, ?_, hresult⟩
    rfl
  · obtain ⟨halive, rfl⟩ := Option.ite_some_none_eq_some.1 h
    obtain ⟨hadmits, -⟩ := of_joinableRoom_eq_ok haccept
    obtain ⟨b, -, hpass⟩ := processMessage_of_pass hlimited (.joinRoom request)
    have haccept' : ({ σ with backend := b } : RoomServer).joinableRoom request s =
        .ok room := haccept
    have hresult := registry_handleJoinRoom haccept'
    rw [hpass]
    refine ⟨halive, hadmits, _, _, ?_, hresult⟩
    rfl

/-- The room after its creation: a new one, hosted by the player who has entered it. -/
theorem registry_of_creates {r : String} (h : Step env σ i τ) (hcreates : Creates env s r σ i) :
    ∃ p room, Accepts env σ i s p ∧ r = env.uuid σ.registry.issued ∧
      σ.registry.issued < τ.registry.issued ∧ τ.registry.rooms r = some room ∧
      room.hostId = p := by
  obtain ⟨request, rfl, hlimited, haccept, rfl⟩ := hcreates
  obtain ⟨halive, rfl⟩ := Option.ite_some_none_eq_some.1 h
  obtain ⟨b, hissued, hpass⟩ := processMessage_of_pass hlimited (.createRoom request)
  have haccept' : ({ σ with backend := b } : RoomServer).createRejection env request s =
      none := haccept
  have hresult := registry_handleCreateRoom haccept'
  simp only [hissued] at hresult
  refine ⟨request.playerId, Room.create (env.uuid σ.backend.uuidsIssued) request.roomName
    request.playerId request.playerName request.maxPlayers, ?_, rfl, ?_, ?_, rfl⟩
  · exact ⟨hlimited, Or.inl ⟨request, rfl, rfl, haccept⟩⟩
  · rw [hpass]
    refine lt_of_lt_of_eq (Nat.lt_succ_self _) ?_
    exact (congrArg Registry.issued hresult).symm
  · rw [hpass]
    refine (congrFun (congrArg Registry.rooms hresult) _).trans ?_
    exact Function.update_self _ _ _

/-!
## Steps
-/

/-- The lobby holds open connections only. -/
theorem open_of_lobby_step (h : Step env σ i τ) (hindexed : σ.registry.Indexed env)
    (hbacked : σ.registry.Backed) (hσ : ∀ t ∈ σ.lobby, (σ.clients t).isOpen = true) :
    ∀ t ∈ τ.lobby, (τ.clients t).isOpen = true := by
  intro t ht
  have hlock : ∀ {x : RoomServer} {q : String}, x.registry = σ.registry →
      x.lock q = some t → (σ.clients t).isOpen = true ∧ (σ.clients t).playerId = q := by
    intro x q hreg hq
    rw [lock_of_registry hreg] at hq
    exact (hbacked.entries q t (lock_eq_some.1 hq).1).2
  cases reseats_step h hindexed with
  | keep hclients hsessions hplayers hlobby =>
      rw [hclients]
      apply hσ
      rcases hlobby with hlobby | hlobby
      · rw [← hlobby]
        exact ht
      · exact ((hlobby t).1 ht).1
  | @accept s remoteIp hunborn hreg hlobby =>
      rw [hlobby, Set.mem_insert_iff] at ht
      by_cases hts : t = s
      · rw [hts, clients_self hreg]
        rfl
      · rw [clients_of_ne hreg hts]
        exact hσ t (ht.resolve_left hts)
  | @expire s hclosed hreg hlobby =>
      rw [hlobby] at ht
      have hopen := hσ t ht
      have hts : t ≠ s := by
        intro heq
        rw [heq, ClientSession.isOpen_iff] at hopen
        cases hclosed.symm.trans hopen.2
      rw [clients_of_ne hreg hts]
      exact hopen
  | @enter s p r haccepts halive houtside hclients hsessions hplayers hlobby =>
      rw [hlobby] at ht
      rw [hclients, Function.update_of_ne ht.2]
      exact hσ t ht.1
  | @leave s hdeparting hclosing hne halive hclients hempties =>
      rw [hclients]
      rw [hempties.lobby, lobby_addLobbySession, Set.mem_insert_iff, or_assoc] at ht
      rcases ht with rfl | ht | ⟨q, -, hq⟩
      · apply ClientSession.isOpen_iff.2
        refine ⟨halive, ?_⟩
        rw [← Bool.not_eq_true]
        intro hclosed
        exact hne (hbacked.cleared t hclosed)
      · exact hσ t ht
      · exact (hlock (registry_addLobbySession σ s) hq).1
  | @close s hclosing hopen hclients hempties =>
      rw [hclients]
      rw [hempties.lobby, lobby_removeLobbySession] at ht
      have hopen' : t ≠ s ∧ (σ.clients t).isOpen = true := by
        rcases ht with ht | ⟨q, hq, hlocked⟩
        · exact ⟨ht.2, hσ t ht.1⟩
        · obtain ⟨hopen', hid⟩ := hlock (registry_removeLobbySession σ s) hlocked
          refine ⟨?_, hopen'⟩
          intro heq
          -- nobody comes along with itself
          subst heq
          obtain ⟨-, r, room, -, -, -, -, hne⟩ :=
            (evicts_iff (departing_of_closing hclosing)).1 hq
          exact hne hid.symm
      rw [Function.update_of_ne hopen'.1]
      exact hopen'.2
  | evict hS hdeparting hclients hempties =>
      rw [hclients]
      rw [hempties.lobby] at ht
      rcases ht with ht | ⟨q, -, hq⟩
      · exact hσ t ht
      · exact (hlock rfl hq).1

/-- Of a connection that has been there, a step changes little: it stays there, it stays
closed, and it remembers another player only by entering a room as that player. -/
theorem clients_step (h : Step env σ i τ) (hindexed : σ.registry.Indexed env) (s : SessionPtr)
    (hborn : (σ.clients s).lifetime ≠ .unborn) :
    (τ.clients s).lifetime ≠ .unborn ∧
      ((σ.clients s).closed = true → (τ.clients s).closed = true) ∧
      ((τ.clients s).isOpen = true → (σ.clients s).isOpen = true ∧
        ((τ.clients s).playerId = (σ.clients s).playerId ∨
          Accepts env σ i s (τ.clients s).playerId)) := by
  have hsame : ∀ {c : ClientSession}, c = σ.clients s → c.lifetime ≠ .unborn ∧
      ((σ.clients s).closed = true → c.closed = true) ∧
      (c.isOpen = true → (σ.clients s).isOpen = true ∧
        (c.playerId = (σ.clients s).playerId ∨ Accepts env σ i s c.playerId)) := by
    intro c hc
    rw [hc]
    exact ⟨hborn, id, fun hopen => ⟨hopen, Or.inl rfl⟩⟩
  cases reseats_step h hindexed with
  | keep hclients hsessions hplayers hlobby => exact hsame (congrFun hclients s)
  | @accept t remoteIp hunborn hreg hlobby =>
      have hts : s ≠ t := by
        intro heq
        rw [heq] at hborn
        exact hborn hunborn
      exact hsame (clients_of_ne hreg hts)
  | @expire t hclosed hreg hlobby =>
      by_cases hts : s = t
      · subst hts
        rw [clients_self hreg]
        refine ⟨?_, id, ?_⟩
        · intro hlifetime
          cases hlifetime
        · intro hopen
          cases hopen
      · exact hsame (clients_of_ne hreg hts)
  | @enter t p r haccepts halive houtside hclients hsessions hplayers hlobby =>
      by_cases hts : s = t
      · subst hts
        have hself : τ.clients s = { σ.clients s with playerId := p } := by
          rw [hclients, Function.update_self]
        rw [hself]
        exact ⟨hborn, id, fun hopen => ⟨hopen, Or.inr haccepts⟩⟩
      · apply hsame
        rw [hclients, Function.update_of_ne hts]
  | leave hdeparting hclosing hne halive hclients hempties => exact hsame (congrFun hclients s)
  | @close t hclosing hopen hclients hempties =>
      by_cases hts : s = t
      · subst hts
        have hself : τ.clients s = { σ.clients s with closed := true, playerId := "" } := by
          rw [hclients, Function.update_self]
        rw [hself]
        refine ⟨hborn, fun _ => rfl, ?_⟩
        intro hopen
        rw [ClientSession.isOpen_iff] at hopen
        cases hopen.2
      · apply hsame
        rw [hclients, Function.update_of_ne hts]
  | evict hS hdeparting hclients hempties => exact hsame (congrFun hclients s)

/-- After an accepted request the session remembers its player. -/
theorem playerId_of_accepts (h : Step env σ i τ) (haccepts : Accepts env σ i s p) :
    (τ.clients s).lifetime ≠ .unborn ∧ (τ.clients s).playerId = p := by
  obtain ⟨halive, -, v, r, hclients, hreg⟩ := registry_of_accepts h haccepts
  have hself : τ.clients s = { v.clients s with playerId := p } := by
    have henter : τ.clients = (v.enter p r s).clients := congrArg Registry.clients hreg
    rw [henter, Registry.enter_clients, Function.update_self]
  rw [hself, hclients]
  refine ⟨?_, rfl⟩
  intro hunborn
  cases halive.symm.trans hunborn

/-!
## Runs
-/

/-- What runs keep of the registry and the lobby. -/
structure Kept (σ : RoomServer) : Prop where
  backed : σ.registry.Backed
  lobby : ∀ t ∈ σ.lobby, (σ.clients t).isOpen = true
  hosted : σ.registry.Hosted

theorem kept_of_run {store : Redis.Keyspace} {is : List Input}
    (h : Run (HoldStep env) (initial store) is σ) : Kept σ := by
  induction h with
  | nil =>
      refine ⟨⟨?_, ?_, ?_⟩, ?_, ?_⟩
      · intro p s hs
        cases hs
      · intro p r hp
        cases hp
      · intro s hs
        cases hs
      · intro t ht
        cases ht
      · intro r room hroom
        cases hroom
  | @snoc es x i y hrun hstep ih =>
      have hindexed : x.registry.Indexed env := indexed_of_run (fun _ _ _ h => h.1) hrun
      obtain ⟨hbacked, -⟩ := backed_step hstep.1 hstep.2.1 ih.backed
      refine ⟨hbacked, open_of_lobby_step hstep.1 hindexed ih.backed ih.lobby, ?_⟩
      obtain ⟨as, hchanges⟩ := run_step hstep.1
      exact hchanges.invariant (I := fun x => x.registry.Hosted)
        (fun _ _ _ hchange hx => hosted_change hchange hstep.2.2 hx) ih.hosted

/-- A session that has entered a room remembers the player as long as it is open: it has
one player for life. -/
theorem remembers_of_occurs {store : Redis.Keyspace} {is : List Input}
    (h : Occurs (HoldStep env) (fun x j _ => Accepts env x j s p) (initial store) is σ) :
    p ≠ "" ∧ (σ.clients s).lifetime ≠ .unborn ∧
      ((σ.clients s).isOpen = true → (σ.clients s).playerId = p) := by
  induction h with
  | now hrun hstep haccepts =>
      obtain ⟨hborn, hid⟩ := playerId_of_accepts hstep.1 haccepts
      exact ⟨(hstep.2.1 s p haccepts).1, hborn, fun _ => hid⟩
  | later hoccurs hstep ih =>
      obtain ⟨hne, hborn, hid⟩ := ih
      obtain ⟨hborn', -, hopen⟩ := clients_step hstep.1
        (indexed_of_run (fun _ _ _ h => h.1) hoccurs.run) s hborn
      refine ⟨hne, hborn', ?_⟩
      intro hs
      obtain ⟨hs', hsame⟩ := hopen hs
      have hp := hid hs'
      rcases hsame with hsame | haccepts
      · exact hsame.trans hp
      · obtain ⟨-, hadmits, -⟩ := registry_of_accepts hstep.1 haccepts
        rcases hadmits.same with hempty | hsame
        · exact absurd (hp.symm.trans hempty) hne
        · exact hsame.symm.trans hp

/-- The host of a room that is there stays its host. -/
theorem hostId_step (h : Step env σ i τ) {r : String} {n : ℕ} (hr : r = env.uuid n)
    (hn : n < σ.registry.issued) (hhost : ∀ room, σ.registry.rooms r = some room →
      room.hostId = p) :
    n < τ.registry.issued ∧ ∀ room, τ.registry.rooms r = some room → room.hostId = p := by
  obtain ⟨as, hrun⟩ := run_step h
  refine hrun.invariant (I := fun x => n < x.registry.issued ∧
    ∀ room, x.registry.rooms r = some room → room.hostId = p) ?_ ⟨hn, hhost⟩
  intro x a y hchange hx
  have hact := hchange.1.act
  refine ⟨hx.1.trans_le hact.issued_le, ?_⟩
  intro room hroom
  rcases hact.room_inv hroom with hstart | ⟨room', hroom', hstep⟩
  · -- a new room has the next identifier
    cases hstart with
    | @create request t =>
    have hfresh := hact.create_inv
    exact absurd (env.uuid_injective (hr.symm.trans hfresh)) (Nat.ne_of_lt hx.1)
  · rw [hstep.hostId]
    exact hx.2 room' hroom'

/-- The room that a session has created has a player of that session for its host, as
long as it is there. -/
theorem hostId_of_occurs {store : Redis.Keyspace} {is : List Input} {r : String}
    (h : Occurs (HoldStep env) (fun x j _ => Creates env s r x j) (initial store) is σ) :
    (∃ n < σ.registry.issued, r = env.uuid n) ∧
      ∃ p, Occurs (HoldStep env) (fun x j _ => Accepts env x j s p) (initial store) is σ ∧
        ∀ room, σ.registry.rooms r = some room → room.hostId = p := by
  induction h with
  | now hrun hstep hcreates =>
      obtain ⟨p, room, haccepts, hr, hissued, hroom, hhost⟩ :=
        registry_of_creates hstep.1 hcreates
      refine ⟨⟨_, hissued, hr⟩, p, Occurs.now hrun hstep haccepts, ?_⟩
      intro room' hroom'
      cases hroom.symm.trans hroom'
      exact hhost
  | later hoccurs hstep ih =>
      obtain ⟨⟨n, hn, hr⟩, p, hused, hhost⟩ := ih
      obtain ⟨hn', hhost'⟩ := hostId_step hstep.1 hr hn hhost
      exact ⟨⟨n, hn', hr⟩, p, hused.later hstep, hhost'⟩

/-!
## After the close
-/

/-- A session that has been closed stays closed. -/
theorem closed_of_run {is : List Input} (h : Run (HoldStep env) σ is τ)
    (hσ : σ.registry.Indexed env) {s : SessionPtr} (hborn : (σ.clients s).lifetime ≠ .unborn)
    (hclosed : (σ.clients s).closed = true) : (τ.clients s).closed = true := by
  refine (h.invariant (I := fun x => x.registry.Indexed env ∧
    (x.clients s).lifetime ≠ .unborn ∧ (x.clients s).closed = true) ?_
      ⟨hσ, hborn, hclosed⟩).2.2
  intro x i y hstep hx
  obtain ⟨hindexed, hborn, hclosed⟩ := hx
  obtain ⟨hborn', hclosed', -⟩ := clients_step hstep.1 hindexed s hborn
  exact ⟨indexed_step hstep.1 hindexed, hborn', hclosed' hclosed⟩

/-- A room whose id has been issued does not come back. -/
theorem rooms_of_run {is : List Input} (h : Run (HoldStep env) σ is τ) {r : String} {n : ℕ}
    (hr : r = env.uuid n) (hn : n < σ.registry.issued) (hgone : σ.registry.rooms r = none) :
    τ.registry.rooms r = none := by
  have hsucceeds : Registry.Succeeds env σ.registry τ.registry := by
    refine h.invariant (I := fun x => Registry.Succeeds env σ.registry x.registry) ?_
      (Registry.Succeeds.refl _)
    intro x i y hstep hx
    obtain ⟨as, hrun⟩ := run_step hstep.1
    exact hrun.invariant (I := fun x => Registry.Succeeds env σ.registry x.registry)
      (fun _ _ _ hchange hx => hx.act hchange.1.act) hx
  cases hroom : τ.registry.rooms r with
  | none => rfl
  | some room =>
      rcases hsucceeds.rooms r room hroom with ⟨room', hroom', -⟩ | ⟨⟨m, hm, heq⟩, -⟩
      · cases hgone.symm.trans hroom'
      · exact absurd (env.uuid_injective (hr.symm.trans heq)) (Nat.ne_of_lt (hn.trans_le hm))

/-- Who has been in no room and is in one now is registered for a session that has entered
it since. -/
theorem entered_of_run {is : List Input} (h : Run (HoldStep env) σ is τ) (hne : p ≠ "")
    (hout : σ.registry.playerToRoom p = none) {r : String}
    (hp : τ.registry.playerToRoom p = some r) :
    ∃ t, τ.registry.sessions p = some t ∧
      Occurs (HoldStep env) (fun x j _ => Accepts env x j t p) σ is τ := by
  induction h generalizing r with
  | nil => cases hout.symm.trans hp
  | @snoc es x i y hrun hstep ih =>
      rcases membership_step hstep.1 hne hp with ⟨hp', hsession⟩ | ⟨t, haccepts, ht⟩
      · obtain ⟨t, ht, hoccurs⟩ := ih hp'
        exact ⟨t, hsession.trans ht, hoccurs.later hstep⟩
      · exact ⟨t, ht, Occurs.now hrun hstep haccepts⟩

theorem released_of_runs {store : Redis.Keyspace} {is₁ is₂ : List Input} {τ₁ : RoomServer}
    (h₁ : Run (HoldStep env) (initial store) is₁ σ) (hstep : HoldStep env σ i τ₁)
    (hclosing : closing env σ i = some s) (h₂ : Run (HoldStep env) τ₁ is₂ τ) :
    Released env (HoldStep env) (initial store) is₁ σ τ₁ is₂ τ s := by
  have hR : ∀ σ i τ, HoldStep env σ i τ → Step env σ i τ := fun _ _ _ h => h.1
  have hσ : σ.registry.Indexed env := indexed_of_run hR h₁
  have hτ₁ : τ₁.registry.Indexed env := indexed_step hstep.1 hσ
  have hrun : Run (HoldStep env) (initial store) (is₁ ++ [i] ++ is₂) τ :=
    (Run.snoc h₁ hstep).append h₂
  have hτ : τ.registry.Indexed env := indexed_of_run hR hrun
  have hkept := kept_of_run hrun
  obtain ⟨hopen, -⟩ := step_of_closing hstep.1 hclosing
  have hclose := closed_of_closing hstep.1 hclosing
  -- the session is closed for good
  have hself : τ₁.clients s = { σ.clients s with closed := true, playerId := "" } := by
    have hclients : τ₁.clients = Function.update σ.clients s
        { σ.clients s with closed := true, playerId := "" } := hclose.clients
    rw [hclients, Function.update_self]
  have hclosed : (τ.clients s).closed = true := by
    apply closed_of_run h₂ hτ₁
    · rw [hself]
      intro hunborn
      cases hunborn.symm.trans (ClientSession.isOpen_iff.1 hopen).1
    · rw [hself]
  have hshut : (τ.clients s).isOpen ≠ true := by
    intro h
    cases hclosed.symm.trans (ClientSession.isOpen_iff.1 h).2
  constructor
  · intro p r hused hin
    obtain ⟨hne, -, hid⟩ := remembers_of_occurs hused
    have hp : τ.registry.playerToRoom p = some r := by
      rcases hin with hin | ⟨room, hroom, hmem⟩
      · exact hin
      · exact hτ.index_of_mem hroom (Room.hasPlayer_iff.1 hmem)
    -- the close took the player out of its room
    have hout : τ₁.registry.playerToRoom p = none := by
      cases hin₁ : τ₁.registry.playerToRoom p with
      | none => rfl
      | some r₁ =>
          obtain ⟨-, hnot⟩ := hclose.membership p r₁ hin₁
          have hplayer : (σ.registry.clients s).playerId = p := hid hopen
          rw [hplayer] at hnot
          exact absurd rfl (hnot hne)
    obtain ⟨t, ht, hoccurs⟩ := entered_of_run h₂ hne hout hp
    obtain ⟨-, htopen, -⟩ := hkept.backed.entries p t ht
    refine ⟨t, ?_, htopen, hoccurs⟩
    rintro rfl
    exact hshut htopen
  · intro p hp
    exact hshut (hkept.backed.entries p s hp).2.1
  · rw [← Bool.not_eq_true]
    intro hlobby
    exact hshut (hkept.lobby s (UnorderedSet.mem_toSet.2 hlobby))
  · intro r room hcreated hroom hwaiting
    obtain ⟨⟨n, hn, hr⟩, p, hused, hhost⟩ := hostId_of_occurs hcreated
    obtain ⟨hne, -, hid⟩ := remembers_of_occurs hused
    have hplayer := hid hopen
    have hhostId : room.hostId = p := hhost room hroom
    have hmem := (kept_of_run h₁).hosted r room hroom hwaiting
    rw [hhostId] at hmem
    have hp := hσ.index_of_mem hroom hmem
    have hgone : τ₁.registry.rooms r = none := by
      apply rooms_of_closing hstep.1 hclosing hroom
      · rw [hplayer]
        exact hp
      · rw [hplayer]
        exact hne
      · rw [hplayer, Room.isHost, hhostId, beq_self_eq_true]
    exact rooms_of_run h₂ hr (hn.trans_le (issued_step hstep.1)) hgone

/-- As long as every id that is taken can be cleaned up after, and no waiting room loses
its host alone, a close releases all that its session held. -/
theorem releasesAll_of_holdStep (env : Env) : ReleasesAll env (HoldStep env) := by
  constructor
  · intro store is₁ σ i τ₁ is₂ τ s h₁ hstep hclosing h₂
    exact released_of_runs h₁ hstep hclosing h₂
  · intro store is σ hrun r room p hroom _ hp
    have hindexed : σ.registry.Indexed env := indexed_of_run (fun _ _ _ h => h.1) hrun
    have hkept := kept_of_run hrun
    obtain ⟨s, hs, -, hopen, hid⟩ :=
      hkept.backed.exists_open (hindexed.index_of_mem hroom (Room.hasPlayer_iff.1 hp))
    exact ⟨s, hs, hopen, hid⟩

/-- The host of a waiting room closes its connection. -/
theorem releasesAll_of_holdStep_hostCloses : ∃ σ τ,
    Run (HoldStep defaultEnv) (initial {}) [.connect 0 "10.0.0.1",
      .clientMessage 0 (.createRoom ⟨"p", "P", "room", 4⟩)] σ ∧
    HoldStep defaultEnv σ (.clientClose 0) τ ∧
    Released defaultEnv (HoldStep defaultEnv) (initial {}) [.connect 0 "10.0.0.1",
      .clientMessage 0 (.createRoom ⟨"p", "P", "room", 4⟩)] σ τ [] τ 0 := by
  obtain ⟨x, hrun, hx⟩ := exists_run_of_exec (fun _ _ => true) (step defaultEnv) (initial {})
    [.connect 0 "10.0.0.1"]
    (fun x => (x.clients 0).isOpen && (step defaultEnv x (.clientMessage 0
      (.createRoom ⟨"p", "P", "room", 4⟩))).any fun σ =>
        (step defaultEnv σ (.clientClose 0)).isSome)
    (by decide +kernel)
  rw [Bool.and_eq_true] at hx
  obtain ⟨hopen, hx⟩ := hx
  obtain ⟨σ, hcreate, hclose⟩ := (Option.any_eq_true _ _).1 hx
  obtain ⟨τ, hclose⟩ := Option.isSome_iff_exists.1 hclose
  have hholds : ∀ {σ i τ}, Step defaultEnv σ i τ → TakesIds defaultEnv σ i →
      (∀ k p sid, i ≠ .gameServerMessage k (.slotReleased p sid)) → HoldStep defaultEnv σ i τ := by
    rintro σ i τ hstep htakes hrelease
    refine ⟨hstep, htakes, ?_⟩
    rintro ⟨k, p, sid, r, room, hi, -⟩
    exact hrelease k p sid hi
  have hconnect : Run (HoldStep defaultEnv) (initial {}) [.connect 0 "10.0.0.1"] x := by
    have hsingle : Run (Step defaultEnv) (initial {}) ([] ++ [.connect 0 "10.0.0.1"]) x :=
      hrun.of_guarded
    obtain ⟨y, hnil, hstep⟩ := hsingle.snoc_inv
    obtain rfl := hnil.nil_inv
    refine Run.single (hholds hstep ?_ (by simp))
    intro s p haccepts
    exact absurd haccepts (not_accepts (by simp) (by simp))
  have htakes : TakesIds defaultEnv x (.clientMessage 0 (.createRoom ⟨"p", "P", "room", 4⟩)) := by
    rintro s p ⟨-, ⟨request, hi, rfl, -⟩ | ⟨request, room, hi, -⟩⟩
    · cases hi
      exact ⟨by decide, hopen⟩
    · cases hi
  have hrun' := hconnect.snoc (hholds hcreate htakes (by simp))
  have hstep : HoldStep defaultEnv σ (.clientClose 0) τ := by
    refine hholds hclose ?_ (by simp)
    intro s p haccepts
    exact absurd haccepts (not_accepts (by simp) (by simp))
  exact ⟨σ, τ, hrun', hstep,
    (releasesAll_of_holdStep defaultEnv).close {} _ σ _ τ [] τ 0 hrun' hstep rfl Run.nil⟩

/-- A room is created under the empty id. The close of its connection has nobody to clean
up after, and the room stays with a player whom no open connection backs. -/
theorem not_releasesAll_emptyId : ¬ ReleasesAll defaultEnv (Step defaultEnv) := by
  intro hclaim
  obtain ⟨σ, hrun, hσ⟩ := exists_run_of_exec (fun _ _ => true) (step defaultEnv) (initial {})
    [.connect 0 "10.0.0.1", .clientMessage 0 (.createRoom ⟨"", "P", "room", 4⟩),
      .clientClose 0]
    (fun σ => (σ.manager.rooms.find? "u").any (fun room => room.state == .waiting &&
      room.hasPlayer "") && σ.manager.sessions.find? "" == some 0 && !(σ.clients 0).isOpen)
    (by decide +kernel)
  simp only [Bool.and_eq_true, Bool.not_eq_true', beq_iff_eq] at hσ
  obtain ⟨⟨hroom, hsession⟩, hclosed⟩ := hσ
  obtain ⟨room, hroom, hplayer⟩ := (Option.any_eq_true _ _).1 hroom
  simp only [Bool.and_eq_true, beq_iff_eq] at hplayer
  obtain ⟨s, hs, hopen, -⟩ := hclaim.backed {} _ σ hrun.of_guarded "u" room "" hroom
    hplayer.1 hplayer.2
  cases hsession.symm.trans hs
  cases hclosed.symm.trans hopen

end Room

end SosBackend
