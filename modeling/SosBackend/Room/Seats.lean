import SosBackend.Room.Lobby

/-!
# What a step does to seats and lobby

Sessions enter and leave the lobby in eight places: `start`, `close`, the dispatch of
`LeaveRoom`, the two handlers that put a player into a room and the three that take
players out. `Reseats` says what a step can do to the rooms of the players, to their
registered sessions and to the lobby, all at once.
-/

namespace SosBackend

namespace Room

open RoomServer

variable {env : Env}

/-- Who is taken out of a room by a step for another reason than leaving it: the company
of a departing host, a player whose slot is released, a player in game when the game
server is lost. -/
inductive Evicts (env : Env) (σ : RoomServer) (i : Input) : String → Prop
  | company {s : SessionPtr} {q : String} (hdeparting : departing env σ i = some s)
      (hne : (σ.clients s).playerId ≠ "")
      (hq : q ∈ σ.registry.company (σ.clients s).playerId) : Evicts env σ i q
  | released {k : SessionPtr} {q sid r : String} {room : Room}
      (hi : i = .gameServerMessage k (.slotReleased q sid))
      (hq : σ.registry.playerToRoom q = some r) (hroom : σ.registry.rooms r = some room)
      (hsid : sid = "" ∨ room.sessionId = sid) : Evicts env σ i q
  | gameOver {k : SessionPtr} {q : String} (hi : i = .gameServerClose k)
      (hopen : (σ.gameServers k).closed = false) (hnamed : (σ.gameServers k).serverId ≠ "")
      (hq : q ∈ σ.registry.playing) : Evicts env σ i q

/-- The player departs in the step, by `LeaveRoom` or with its session. -/
def Departs (env : Env) (σ : RoomServer) (i : Input) (q : String) : Prop :=
  ∃ s, departing env σ i = some s ∧ (σ.clients s).playerId ≠ "" ∧ (σ.clients s).playerId = q

/-- What a step does to the seats of the players and to the lobby: nothing but to drop
dead sessions; a connection comes or is gone for good; a player enters a room; players
leave their rooms by `LeaveRoom`, with a close, or by the game server. -/
inductive Reseats (env : Env) (σ : RoomServer) (i : Input) (τ : RoomServer) : Prop
  | keep (hclients : τ.clients = σ.clients)
      (hsessions : τ.registry.sessions = σ.registry.sessions)
      (hplayers : τ.registry.playerToRoom = σ.registry.playerToRoom)
      (hlobby : τ.lobby = σ.lobby ∨
        ∀ t, t ∈ τ.lobby ↔ t ∈ σ.lobby ∧ (σ.clients t).lifetime = .alive)
  | accept {s : SessionPtr} {remoteIp : String} (hunborn : (σ.clients s).lifetime = .unborn)
      (hreg : τ.registry = σ.registry.setClient s
        { remoteIp := remoteIp, lifetime := .alive })
      (hlobby : τ.lobby = insert s σ.lobby)
  | expire {s : SessionPtr} (hclosed : (σ.clients s).closed = true)
      (hreg : τ.registry = σ.registry.setClient s
        { σ.clients s with lifetime := .expired })
      (hlobby : τ.lobby = σ.lobby)
  | enter {s : SessionPtr} {p r : String} (haccepts : Accepts env σ i s p)
      (halive : (σ.clients s).lifetime = .alive) (houtside : σ.registry.playerToRoom p = none)
      (hclients : τ.clients = Function.update σ.clients s { σ.clients s with playerId := p })
      (hsessions : τ.registry.sessions = Function.update σ.registry.sessions p (some s))
      (hplayers : τ.registry.playerToRoom =
        Function.update σ.registry.playerToRoom p (some r))
      (hlobby : τ.lobby = σ.lobby \ {s})
  | leave {s : SessionPtr} (hdeparting : departing env σ i = some s)
      (hclosing : closing env σ i = none) (hne : (σ.clients s).playerId ≠ "")
      (halive : (σ.clients s).lifetime = .alive) (hclients : τ.clients = σ.clients)
      (hempties : Empties {q | Departs env σ i q ∨ Evicts env σ i q} ∅
        {q | Evicts env σ i q} (σ.addLobbySession s) τ)
  | close {s : SessionPtr} (hclosing : closing env σ i = some s)
      (hopen : (σ.clients s).isOpen = true)
      (hclients : τ.clients = Function.update σ.clients s
        { σ.clients s with closed := true, playerId := "" })
      (hempties : Empties {q | Departs env σ i q ∨ Evicts env σ i q}
        {q | Departs env σ i q} {q | Evicts env σ i q} (σ.removeLobbySession s) τ)
  | evict {S : Set String} (hS : ∀ q ∈ S, Evicts env σ i q)
      (hdeparting : departing env σ i = none) (hclients : τ.clients = σ.clients)
      (hempties : Empties {q | Departs env σ i q ∨ Evicts env σ i q} S
        {q | Evicts env σ i q} σ τ)

theorem clients_self {σ τ : RoomServer} {s : SessionPtr} {c : ClientSession}
    (h : τ.registry = σ.registry.setClient s c) : τ.clients s = c := by
  have hclients : τ.clients = Function.update σ.clients s c := congrArg Registry.clients h
  rw [hclients, Function.update_self]

theorem clients_of_ne {σ τ : RoomServer} {s t : SessionPtr} {c : ClientSession}
    (h : τ.registry = σ.registry.setClient s c) (hts : t ≠ s) : τ.clients t = σ.clients t := by
  have hclients : τ.clients = Function.update σ.clients s c := congrArg Registry.clients h
  rw [hclients, Function.update_of_ne hts]

theorem Empties.congr {E S B : Set String} {σ x τ : RoomServer} (h : Empties E S B x τ)
    (hreg : x.registry = σ.registry) (hlobby : x.lobby = σ.lobby) : Empties E S B σ τ := by
  constructor
  · intro q hq
    rw [h.registered q hq, hreg]
  · exact h.unregistered
  · exact h.gone
  · intro q hq
    rw [h.stay q hq, hreg]
  · intro t
    rw [h.lobby, hlobby]
    simp only [lock_of_registry hreg]

/-- A `LeaveRoom` puts its session back into the lobby, where the order does not
matter. -/
theorem Empties.addLobbySession {E S B : Set String} {σ τ : RoomServer} {s : SessionPtr}
    (h : Empties E S B σ τ) : Empties E S B (σ.addLobbySession s) (τ.addLobbySession s) := by
  refine ⟨h.registered, h.unregistered, h.gone, h.stay, ?_⟩
  intro t
  rw [lobby_addLobbySession, lobby_addLobbySession, Set.mem_insert_iff, Set.mem_insert_iff,
    h.lobby, or_assoc]
  rfl

theorem clients_handleLeaveRoom (p : String) (σ : RoomServer) :
    (σ.handleLeaveRoom p).clients = σ.clients := by
  obtain ⟨a, heffect, ha⟩ := effect_handleLeaveRoom defaultEnv p σ
  exact clients_of_departure heffect.act ha

/-- The close of a session that speaks for a player. -/
theorem empties_closeClient {x : RoomServer} (hx : x.registry.Indexed env) {s : SessionPtr}
    (hopen : (x.clients s).closed = false) (hne : (x.clients s).playerId ≠ "") :
    Empties (insert (x.clients s).playerId (x.registry.company (x.clients s).playerId))
      {(x.clients s).playerId} (x.registry.company (x.clients s).playerId)
      (x.removeLobbySession s) (x.closeClient s) := by
  have hreg₁ := registry_shutClient s x
  have hlock : ∀ q, (x.shutClient s).lock q = (x.removeLobbySession s).lock q :=
    lock_shutClient s x
  have hlobby₁ : (x.shutClient s).lobby = (x.removeLobbySession s).lobby := rfl
  have hclose := (closeClient_eq hopen).trans (if_neg hne)
  generalize x.shutClient s = x₁ at *
  have hindexed : x₁.registry.Indexed env := by
    rw [hreg₁]
    exact hx.of_eq rfl rfl le_rfl
  have hcompany : x₁.registry.company (x.clients s).playerId =
      x.registry.company (x.clients s).playerId := by
    rw [hreg₁]
    rfl
  have hleave := empties_handleLeaveRoom hindexed (x.clients s).playerId
  rw [hcompany] at hleave
  have hsessions : (x.closeClient s).registry.sessions = Function.update
      (x₁.handleLeaveRoom (x.clients s).playerId).registry.sessions
      (x.clients s).playerId none := by
    rw [hclose, registry_updateClient, registry_unregisterSession]
    rfl
  have hplayers : (x.closeClient s).registry.playerToRoom =
      (x₁.handleLeaveRoom (x.clients s).playerId).registry.playerToRoom := by
    rw [hclose, registry_updateClient, registry_unregisterSession]
    rfl
  constructor
  · intro q hq
    rw [hsessions, Function.update_of_ne hq, hleave.registered q (Set.notMem_empty q), hreg₁]
    rfl
  · intro q hq
    rw [hsessions, Set.mem_singleton_iff.1 hq, Function.update_self]
  · rw [hplayers]
    exact hleave.gone
  · intro q hq
    rw [hplayers, hleave.stay q hq, hreg₁]
    rfl
  · intro t
    have hlobby : (x.closeClient s).lobby =
        (x₁.handleLeaveRoom (x.clients s).playerId).lobby := by
      rw [hclose]
      rfl
    rw [hlobby, hleave.lobby, hlobby₁]
    simp only [hlock]

theorem departing_of_closing {σ : RoomServer} {i : Input} {s : SessionPtr}
    (h : closing env σ i = some s) : departing env σ i = some s := by
  unfold departing
  split
  · next t =>
      rw [closing, Option.ite_some_none_eq_some, Bool.and_eq_true] at h
      obtain ⟨⟨hlimited, hopen⟩, rfl⟩ := h
      simp [hlimited, closing, hopen]
  · exact h

theorem evicted_of_not_departing {σ : RoomServer} {i : Input} (h : departing env σ i = none) :
    {q | Departs env σ i q ∨ Evicts env σ i q} = {q | Evicts env σ i q} := by
  ext q
  apply or_iff_right
  intro hq
  obtain ⟨s, hs, -⟩ := hq
  cases h.symm.trans hs

theorem departs_iff {σ : RoomServer} {i : Input} {s : SessionPtr} {q : String}
    (h : departing env σ i = some s) : Departs env σ i q ↔
      (σ.clients s).playerId ≠ "" ∧ q = (σ.clients s).playerId := by
  constructor
  · intro hq
    obtain ⟨t, ht, hne, hq⟩ := hq
    cases h.symm.trans ht
    exact ⟨hne, hq.symm⟩
  · intro hq
    exact ⟨s, h, hq.1, hq.2.symm⟩

theorem evicts_iff {σ : RoomServer} {i : Input} {s : SessionPtr} {q : String}
    (h : departing env σ i = some s) : Evicts env σ i q ↔
      (σ.clients s).playerId ≠ "" ∧ q ∈ σ.registry.company (σ.clients s).playerId := by
  constructor
  · intro hq
    cases hq with
    | company ht hne hq =>
        cases h.symm.trans ht
        exact ⟨hne, hq⟩
    | released hi => cases hi ▸ h
    | gameOver hi => cases hi ▸ h
  · intro hq
    exact Evicts.company h hq.1 hq.2

/-- The step closes a session. -/
theorem reseats_closing {σ τ : RoomServer} {i : Input} {s : SessionPtr} (h : Step env σ i τ)
    (hσ : σ.registry.Indexed env) (hclosing : closing env σ i = some s) :
    Reseats env σ i τ := by
  have hclosed := closed_of_closing h hclosing
  obtain ⟨hopen, x, hreg, hmanager, rfl⟩ := step_of_closing h hclosing
  have hclients : x.clients = σ.clients := congrArg Registry.clients hreg
  have hlobby : (x.removeLobbySession s).lobby = (σ.removeLobbySession s).lobby := by
    rw [lobby_removeLobbySession, lobby_removeLobbySession, lobby, hmanager]
    rfl
  have hxopen : (x.clients s).closed = false := by
    rw [hclients]
    exact (ClientSession.isOpen_iff.1 hopen).2
  have hdeparts : ∀ q, Departs env σ i q ↔
      (σ.clients s).playerId ≠ "" ∧ q = (σ.clients s).playerId :=
    fun q => departs_iff (departing_of_closing hclosing)
  have hevicts : ∀ q, Evicts env σ i q ↔
      (σ.clients s).playerId ≠ "" ∧ q ∈ σ.registry.company (σ.clients s).playerId :=
    fun q => evicts_iff (departing_of_closing hclosing)
  apply Reseats.close hclosing hopen hclosed.clients
  by_cases hempty : (σ.clients s).playerId = ""
  · simp only [hdeparts, hevicts, hempty, ne_eq, not_true_eq_false, false_and, or_false,
      Set.ofPred_false]
    have hclose := (closeClient_eq hxopen).trans (if_pos (by rw [hclients]; exact hempty))
    have hrefl : Empties ∅ ∅ ∅ (x.removeLobbySession s) (x.closeClient s) := by
      rw [hclose]
      refine ⟨fun _ _ => rfl, fun q hq => absurd hq (Set.notMem_empty q),
        fun q hq => absurd hq (Set.notMem_empty q), fun _ _ => rfl, ?_⟩
      intro t
      simp only [Set.mem_empty_iff_false, false_and, exists_false, or_false]
      rfl
    exact hrefl.congr hreg hlobby
  · simp only [hdeparts, hevicts, hempty, ne_eq, not_false_eq_true, true_and]
    have hindexed : x.registry.Indexed env := by
      rw [hreg]
      exact hσ
    have hempties := empties_closeClient hindexed hxopen (by rw [hclients]; exact hempty)
    rw [hreg, hclients] at hempties
    exact hempties.congr hreg hlobby

theorem lobby_handleToggleReady (p : String) (σ : RoomServer) :
    (σ.handleToggleReady p).lobby = σ.lobby := by
  unfold handleToggleReady
  split
  · rfl
  split
  · rfl
  split
  · rfl
  · exact lobby_broadcast _ _ _

theorem lobby_startRoom (r : String) (room : Room) (σ : RoomServer) :
    (σ.startRoom env r room).lobby = σ.lobby := by
  have hbegin : ∀ sid (x : RoomServer), (x.beginSession env sid).lobby = x.lobby := by
    intro sid x
    unfold beginSession
    split
    · rfl
    · rfl
  have hannounce : ∀ sid started (x : RoomServer),
      (x.announceSession env sid started).lobby = x.lobby := by
    intro sid started x
    unfold announceSession
    split
    · rfl
    · rfl
  simp only [startRoom]
  rw [lobby_notifyRoomListChanged, hannounce, lobby_sendGameStarts, hbegin]
  rfl

theorem lobby_handleStartGame (p : String) (σ : RoomServer) :
    (σ.handleStartGame env p).lobby = σ.lobby := by
  unfold handleStartGame
  split
  · rfl
  split
  · rfl
  split
  · exact lobby_sendTo σ p _
  · exact lobby_startRoom _ _ σ

theorem lobby_sends (l : List SessionPtr) (envelope : Envelope) (σ : RoomServer) :
    (l.foldl (fun σ s => σ.send s none envelope) σ).lobby = σ.lobby := by
  induction l generalizing σ with
  | nil => rfl
  | cons s l ih =>
      rw [List.foldl_cons, ih]
      rfl

theorem mem_lobby_removeLobbySessions {l : List SessionPtr} {σ : RoomServer} {t : SessionPtr} :
    t ∈ (l.foldl removeLobbySession σ).lobby ↔ t ∈ σ.lobby ∧ t ∉ l := by
  induction l generalizing σ with
  | nil => simp
  | cons s l ih =>
      rw [List.foldl_cons, ih, lobby_removeLobbySession, Set.mem_sdiff, Set.mem_singleton_iff,
        List.mem_cons, not_or, and_assoc]

/-- The broadcast drops the dead sessions. -/
theorem mem_lobby_broadcastRoomListToLobby {σ : RoomServer} {t : SessionPtr} :
    t ∈ σ.broadcastRoomListToLobby.lobby ↔
      t ∈ σ.lobby ∧ (σ.clients t).lifetime = .alive := by
  unfold broadcastRoomListToLobby
  split
  · next hsize =>
      have hempty : σ.lobby = ∅ := UnorderedSet.toSet_eq_empty hsize
      simp [hempty]
  · rw [List.partition_eq_filter_filter]
    simp only
    rw [mem_lobby_removeLobbySessions, lobby_sends, List.mem_filter]
    have hmem : t ∈ σ.lobby ↔ t ∈ σ.manager.lobbySessions.keyList := by
      rw [lobby, UnorderedSet.mem_toSet, UnorderedMap.contains, UnorderedMap.mem_keyList]
    rw [hmem]
    apply and_congr_right
    intro ht
    simp [ht]

/-- A change without a player entering or leaving, and without a session. -/
theorem seats_of_idle {v w : Registry} {a : Action} (h : Act env v a w)
    (ha : a = .quiet ∨ (∃ p r, a = .toggle p r) ∨ ∃ p r sid, a = .start p r sid) :
    w.clients = v.clients ∧ w.sessions = v.sessions ∧ w.playerToRoom = v.playerToRoom := by
  rcases ha with rfl | ⟨p, r, rfl⟩ | ⟨p, r, sid, rfl⟩
  · cases h
    exact ⟨rfl, rfl, rfl⟩
  · cases h
    exact ⟨rfl, rfl, rfl⟩
  · cases h
    exact ⟨rfl, rfl, rfl⟩

/-- A handler that neither moves players nor touches the lobby. -/
theorem Reseats.of_idle {σ x τ : RoomServer} {i : Input} {a : Action}
    (hreg : x.registry = σ.registry) (hlobby : x.lobby = σ.lobby) (heffect : Effect env x a τ)
    (ha : a = .quiet ∨ (∃ p r, a = .toggle p r) ∨ ∃ p r sid, a = .start p r sid)
    (hτ : τ.lobby = x.lobby) : Reseats env σ i τ := by
  obtain ⟨hclients, hsessions, hplayers⟩ := seats_of_idle heffect.act ha
  rw [hreg] at hclients hsessions hplayers
  exact Reseats.keep hclients hsessions hplayers (Or.inl (hτ.trans hlobby))

section dispatch

variable {σ x : RoomServer} {s : SessionPtr} {b : Backend}

theorem reseats_handleCreateRoom (hx : ({ σ with backend := b } : RoomServer) = x)
    (hreg : x.registry = σ.registry) (hlobby : x.lobby = σ.lobby)
    (halive : (σ.clients s).lifetime = .alive) (hpass : limited env σ s = false)
    (request : CreateRoomRequest) :
    Reseats env σ (.clientMessage s (.createRoom request))
      (x.handleCreateRoom env request s) := by
  cases haccept : σ.createRejection env request s with
  | some reject =>
      have haccept' : x.createRejection env request s = some reject := by
        rw [← hx]
        exact haccept
      simp only [handleCreateRoom, haccept']
      exact Reseats.of_idle hreg hlobby
        (effect_sendRejectTo env x s (reason_createRejection haccept')) (Or.inl rfl) rfl
  | none =>
      have haccept' : x.createRejection env request s = none := by
        rw [← hx]
        exact haccept
      obtain ⟨hadmits, -⟩ := of_createRejection_eq_none haccept
      have hresult := registry_handleCreateRoom haccept'
      rw [hreg] at hresult
      refine Reseats.enter (s := s) (p := request.playerId)
        (r := env.uuid x.backend.uuidsIssued)
        ⟨hpass, Or.inl ⟨request, rfl, rfl, haccept⟩⟩ halive hadmits.outside
        (congrArg Registry.clients hresult) ?_ ?_ ?_
      · exact congrArg Registry.sessions hresult
      · exact congrArg Registry.playerToRoom hresult
      · simp only [handleCreateRoom, haccept']
        rw [lobby_notifyRoomListChanged, ← hlobby, ← lobby_removeLobbySession]
        rfl

theorem reseats_handleJoinRoom (hx : ({ σ with backend := b } : RoomServer) = x)
    (hreg : x.registry = σ.registry) (hlobby : x.lobby = σ.lobby)
    (halive : (σ.clients s).lifetime = .alive) (hpass : limited env σ s = false)
    (request : JoinRoomRequest) :
    Reseats env σ (.clientMessage s (.joinRoom request)) (x.handleJoinRoom request s) := by
  cases haccept : σ.joinableRoom request s with
  | error reject =>
      have haccept' : x.joinableRoom request s = .error reject := by
        rw [← hx]
        exact haccept
      simp only [handleJoinRoom, haccept']
      exact Reseats.of_idle hreg hlobby
        (effect_sendRejectTo env x s (reason_joinableRoom haccept')) (Or.inl rfl) rfl
  | ok room =>
      have haccept' : x.joinableRoom request s = .ok room := by
        rw [← hx]
        exact haccept
      obtain ⟨hadmits, -⟩ := of_joinableRoom_eq_ok haccept
      have hresult := registry_handleJoinRoom haccept'
      rw [hreg] at hresult
      refine Reseats.enter (s := s) (p := request.playerId) (r := request.roomId)
        ⟨hpass, Or.inr ⟨request, room, rfl, rfl, haccept⟩⟩ halive hadmits.outside
        (congrArg Registry.clients hresult) ?_ ?_ ?_
      · exact congrArg Registry.sessions hresult
      · exact congrArg Registry.playerToRoom hresult
      · simp only [handleJoinRoom, haccept']
        rw [lobby_notifyRoomListChanged, broadcastToRoomExcept, lobby_broadcast, ← hlobby,
          ← lobby_removeLobbySession]
        rfl

/-- The session of a player that leaves is in the lobby, wherever it was before. -/
theorem reseats_handleLeaveRoom (hσ : σ.registry.Indexed env)
    (hreg : x.registry = σ.registry) (hclients : x.clients = σ.clients)
    (hlobby : x.lobby = σ.lobby) (halive : (σ.clients s).lifetime = .alive)
    (hpass : limited env σ s = false) (hne : (σ.clients s).playerId ≠ "") :
    Reseats env σ (.clientMessage s .leaveRoom)
      ((x.handleLeaveRoom (σ.clients s).playerId).addLobbySession s).notifyRoomListChanged := by
  have hdeparting : departing env σ (.clientMessage s .leaveRoom) = some s := by
    simp [departing, hpass]
  have hindexed : x.registry.Indexed env := by
    rw [hreg]
    exact hσ
  have hempties := (empties_handleLeaveRoom hindexed
    (σ.clients s).playerId).addLobbySession (s := s)
  rw [hreg] at hempties
  generalize hτ : (x.handleLeaveRoom (σ.clients s).playerId).addLobbySession s = τ
    at hempties ⊢
  have hτclients : τ.clients = σ.clients := by
    rw [← hτ, ← hclients]
    exact clients_handleLeaveRoom _ x
  have hnotified := registry_notifyRoomListChanged τ
  have hclosing : closing env σ (.clientMessage s .leaveRoom) = none := by
    simp [closing, hpass]
  apply Reseats.leave hdeparting hclosing hne halive
  · exact (congrArg Registry.clients hnotified).trans hτclients
  · have hbase := hempties.congr (σ := σ.addLobbySession s)
      (by rw [registry_addLobbySession, registry_addLobbySession, hreg])
      (by rw [lobby_addLobbySession, lobby_addLobbySession, hlobby])
    simp only [departs_iff hdeparting, evicts_iff hdeparting, ne_eq, hne,
      not_false_eq_true, true_and]
    refine ⟨?_, ?_, ?_, ?_, ?_⟩
    · rw [hnotified]
      exact hbase.registered
    · rw [hnotified]
      exact hbase.unregistered
    · rw [hnotified]
      exact hbase.gone
    · rw [hnotified]
      exact hbase.stay
    · rw [lobby_notifyRoomListChanged]
      exact hbase.lobby

/-- A message that the rate limiter lets through. -/
theorem reseats_dispatch (hσ : σ.registry.Indexed env)
    (hissued : b.uuidsIssued = σ.backend.uuidsIssued)
    (halive : (σ.clients s).lifetime = .alive) (hpass : limited env σ s = false)
    (envelope : Envelope) :
    Reseats env σ (.clientMessage s envelope)
      (RoomServer.dispatch env s envelope { σ with backend := b }) := by
  generalize hx : ({ σ with backend := b } : RoomServer) = x
  have hreg : x.registry = σ.registry := by
    rw [← hx]
    exact registry_backend hissued
  have hclients : x.clients = σ.clients := by rw [← hx]
  have hlobby : x.lobby = σ.lobby := by
    rw [← hx]
    rfl
  have hself : Reseats env σ (.clientMessage s envelope) x :=
    Reseats.of_idle hreg hlobby (effect_quiet rfl (Emits.refl x) (Draws.refl _)) (Or.inl rfl) rfl
  cases envelope with
  | createRoom request => exact reseats_handleCreateRoom hx hreg hlobby halive hpass request
  | joinRoom request => exact reseats_handleJoinRoom hx hreg hlobby halive hpass request
  | leaveRoom =>
      simp only [dispatch]
      split
      · next hne =>
          rw [hclients] at hne ⊢
          exact reseats_handleLeaveRoom hσ hreg hclients hlobby halive hpass
            (by simpa using hne)
      · exact hself
  | toggleReady =>
      simp only [dispatch]
      split
      · obtain ⟨a, heffect, ha⟩ := effect_handleToggleReady env (x.clients s).playerId x
        apply Reseats.of_idle hreg hlobby heffect _ (lobby_handleToggleReady _ x)
        rcases ha with rfl | ⟨r, rfl⟩
        · exact Or.inl rfl
        · exact Or.inr (Or.inl ⟨_, r, rfl⟩)
      · exact hself
  | startGame =>
      simp only [dispatch]
      split
      · obtain ⟨a, heffect, ha⟩ := effect_handleStartGame env (x.clients s).playerId x
        apply Reseats.of_idle hreg hlobby heffect _ (lobby_handleStartGame _ x)
        rcases ha with rfl | ⟨r, rfl⟩
        · exact Or.inl rfl
        · exact Or.inr (Or.inr ⟨_, r, _, rfl⟩)
      · exact hself
  | roomListRequest request =>
      have heffect : Effect env x .quiet (dispatch env s (.roomListRequest request) x) :=
        effect_quiet rfl ((Emits.refl x).send trivial) (Draws.refl _)
      exact Reseats.of_idle hreg hlobby heffect (Or.inl rfl) rfl
  | _ => exact hself

end dispatch

theorem reseats_processMessage {σ : RoomServer} (hσ : σ.registry.Indexed env) {s : SessionPtr}
    (halive : (σ.clients s).lifetime = .alive) {envelope : Envelope}
    (hclosing : closing env σ (.clientMessage s envelope) = none) :
    Reseats env σ (.clientMessage s envelope) (σ.processMessage env s envelope) := by
  cases hlimited : limited env σ s with
  | true =>
      obtain ⟨x, hreg, hmanager, hresult⟩ := processMessage_of_limited hlimited envelope
      have hclients : x.clients = σ.clients := congrArg Registry.clients hreg
      -- the session is closed already
      have hclosed : (x.clients s).closed = true := by
        rw [hclients]
        simpa [closing, hlimited] using hclosing
      rw [hresult, closeClient, if_pos hclosed]
      apply Reseats.keep hclients
      · rw [hreg]
      · rw [hreg]
      · left
        rw [lobby, hmanager]
        rfl
  | false =>
      obtain ⟨b, hissued, hresult⟩ := processMessage_of_pass hlimited envelope
      rw [hresult]
      exact reseats_dispatch hσ hissued halive hlimited envelope

theorem clients_of_release {v w : Registry} {a : Action} {p sid : String} (h : Act env v a w)
    (ha : a.IsRelease v p sid) : w.clients = v.clients := by
  rcases ha with rfl | rfl | ⟨r, room, -, -, rfl | rfl⟩
  · cases h
    rfl
  · cases h
    rfl
  · cases h
    rfl
  · cases h
    rfl

theorem reseats_processInternalMessage {σ : RoomServer} (hσ : σ.registry.Indexed env)
    (store : SessionStore) (k : SessionPtr) (envelope : Envelope) :
    Reseats env σ (.gameServerMessage k envelope)
      (σ.processInternalMessage env store k envelope) := by
  have hself : Reseats env σ (.gameServerMessage k envelope) σ :=
    Reseats.keep rfl rfl rfl (Or.inl rfl)
  cases envelope with
  | tokenValidateRequest authToken =>
      simp only [processInternalMessage, handleTokenValidate]
      split
      · exact Reseats.keep rfl rfl rfl (Or.inl rfl)
      · exact Reseats.keep rfl rfl rfl (Or.inl rfl)
  | slotReleased p sid =>
      obtain ⟨a, heffect, ha⟩ := effect_handleSlotReleased env p sid σ
      rcases empties_handleSlotReleased hσ p sid with hskip | hempties
      · simp only [processInternalMessage, hskip]
        exact hself
      · obtain ⟨hempties, r, room, hp, hroom, hsid⟩ := hempties
        have hevicts : ∀ q, Evicts env σ (.gameServerMessage k (.slotReleased p sid)) q ↔
            q = p := by
          intro q
          constructor
          · intro hq
            cases hq with
            | company hdeparting => cases hdeparting
            | released hi =>
                cases hi
                rfl
            | gameOver hi => cases hi
          · intro hq
            subst hq
            exact Evicts.released rfl hp hroom hsid
        have hset : {q | Evicts env σ (.gameServerMessage k (.slotReleased p sid)) q} = {p} := by
          ext q
          exact hevicts q
        apply Reseats.evict (S := {p}) (fun q hq => (hevicts q).2 hq) rfl
          (clients_of_release heffect.act ha)
        rw [evicted_of_not_departing rfl, hset]
        exact hempties
  | gameServerHeartbeat serverId activeSessions => exact Reseats.keep rfl rfl rfl (Or.inl rfl)
  | _ => exact hself

theorem reseats_closeGameServer (σ : RoomServer) (k : SessionPtr) :
    Reseats env σ (.gameServerClose k) (σ.closeGameServer env k) := by
  unfold closeGameServer
  split
  · exact Reseats.keep rfl rfl rfl (Or.inl rfl)
  simp only
  split
  · next hopen hserver =>
    obtain ⟨hempties, hclients⟩ := empties_handleGameServerDisconnect env
      (σ.updateGameServer k fun g => { g with closed := true })
    have hnamed : (σ.gameServers k).serverId ≠ "" := by
      simpa [updateGameServer] using hserver
    have hset : {q | Evicts env σ (.gameServerClose k) q} = σ.registry.playing := by
      ext q
      constructor
      · intro hq
        cases hq with
        | company hdeparting => cases hdeparting
        | released hi => cases hi
        | gameOver hi hopen hnamed hq => exact hq
      · exact Evicts.gameOver rfl (by simpa using hopen) hnamed
    apply Reseats.evict (S := ∅) (fun q hq => absurd hq (Set.notMem_empty q)) rfl
    · exact hclients
    · rw [evicted_of_not_departing rfl, hset]
      exact hempties.congr rfl rfl
  · exact Reseats.keep rfl rfl rfl (Or.inl rfl)

theorem reseats_step {σ τ : RoomServer} {i : Input} (h : Step env σ i τ)
    (hσ : σ.registry.Indexed env) : Reseats env σ i τ := by
  cases hclosing : closing env σ i with
  | some s => exact reseats_closing h hσ hclosing
  | none =>
  cases i with
  | connect s remoteIp =>
      obtain ⟨hunborn, rfl⟩ := Option.ite_some_none_eq_some.1 h
      exact Reseats.accept hunborn rfl (lobby_addLobbySession _ s)
  | clientMessage s envelope =>
      obtain ⟨halive, rfl⟩ := Option.ite_some_none_eq_some.1 h
      exact reseats_processMessage hσ halive hclosing
  | clientClose s => cases hclosing
  | clientReleased s =>
      obtain ⟨⟨-, hclosed⟩, rfl⟩ := Option.ite_some_none_eq_some.1 h
      exact Reseats.expire hclosed rfl rfl
  | gameServerConnect k =>
      obtain ⟨-, rfl⟩ := Option.ite_some_none_eq_some.1 h
      exact Reseats.keep rfl rfl rfl (Or.inl rfl)
  | gameServerMessage k envelope =>
      obtain ⟨store, -, -, rfl⟩ := h.gameServerMessage_inv
      exact reseats_processInternalMessage hσ store k envelope
  | gameServerClose k =>
      obtain ⟨-, rfl⟩ := Option.ite_some_none_eq_some.1 h
      exact reseats_closeGameServer σ k
  | lobbyTimer cancelled =>
      obtain ⟨-, rfl⟩ := Option.ite_some_none_eq_some.1 h
      have hquiet := (effect_lobbyTimerHandler env cancelled σ).act.quiet_inv
      apply Reseats.keep (congrArg Registry.clients hquiet)
        (congrArg Registry.sessions hquiet) (congrArg Registry.playerToRoom hquiet)
      cases cancelled with
      | true => exact Or.inl rfl
      | false =>
          right
          intro t
          exact mem_lobby_broadcastRoomListToLobby
  | chatLink connected =>
      obtain rfl := Option.some.inj h
      exact Reseats.keep rfl rfl rfl (Or.inl rfl)
  | tick seconds =>
      obtain rfl := Option.some.inj h
      exact Reseats.keep rfl rfl rfl (Or.inl rfl)

end Room

end SosBackend
