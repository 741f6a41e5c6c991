import SosBackend.Room.Disconnect

/-!
# Game servers that reconnect

A connection of a game server tells the id of its server in its heartbeats. When it closes,
the games of all servers are ended: the handler is told neither the connection nor the
server. Where a server connects anew and its old connection is closed later, the close ends
the games that are served over the new one.
-/

namespace SosBackend

namespace Room

/-!
## What the connections of a run have done
-/

/-- The id that a heartbeat on the connection tells. -/
def heartbeat (k : SessionPtr) : Input → Option String
  | .gameServerMessage k' (.gameServerHeartbeat serverId _) =>
      if k' = k then some serverId else none
  | _ => none

/-- The ids that the connection has told. -/
def reported (k : SessionPtr) (is : List Input) : List String :=
  is.filterMap (heartbeat k)

/-- The last of them. -/
def lastReported (k : SessionPtr) (is : List Input) : String :=
  (reported k is).getLast?.getD ""

/-- The connection has been opened and not closed. -/
def IsUp (k : SessionPtr) (is : List Input) : Prop :=
  .gameServerConnect k ∈ is ∧ .gameServerClose k ∉ is

/-- A room in game is gone. -/
def EndsGame (σ τ : RoomServer) : Prop :=
  ∃ r room, σ.manager.rooms.find? r = some room ∧ room.state = .inGame ∧
    τ.manager.rooms.find? r = none

/-- In a run, the close of a connection ends a game only if no other open connection has
told the same server id. -/
def SparesOthers (env : Env) (store : Redis.Keyspace) (is : List Input) : Prop :=
  ∀ js k σ τ, js ++ [.gameServerClose k] <+: is → Run (Step env) (initial store) js σ →
    Step env σ (.gameServerClose k) τ → EndsGame σ τ →
      ∀ k', k' ≠ k → IsUp k' js → lastReported k js ∉ reported k' js

/-- Where an open connection that has told its server id closes while another open one has
told the same id, no room is in game. -/
def ClosesIdle (env : Env) (store : Redis.Keyspace) (is : List Input) : Prop :=
  ∀ js k σ, js ++ [.gameServerClose k] <+: is → Run (Step env) (initial store) js σ →
    IsUp k js → lastReported k js ≠ "" →
      (∃ k', k' ≠ k ∧ IsUp k' js ∧ lastReported k js ∈ reported k' js) →
        σ.hasActiveGame = false

namespace RoomServer

/-!
## Handlers that leave the connections of game servers
-/

/-- The parts of a loop that leave the connections. -/
theorem gameServers_foldl {α : Type*} {f : RoomServer → α → RoomServer}
    (hf : ∀ σ a, (f σ a).gameServers = σ.gameServers) (l : List α) (σ : RoomServer) :
    (l.foldl f σ).gameServers = σ.gameServers := by
  induction l generalizing σ with
  | nil => rfl
  | cons a l ih => rw [List.foldl_cons, ih, hf]

theorem gameServers_sendTo (σ : RoomServer) (p : String) (envelope : Envelope) :
    (σ.sendTo p envelope).gameServers = σ.gameServers := by
  unfold sendTo
  split
  · rfl
  · rfl

theorem gameServers_broadcast (σ : RoomServer) (ids : List String) (envelope : Envelope) :
    (σ.broadcast ids envelope).gameServers = σ.gameServers :=
  gameServers_foldl (fun σ p => gameServers_sendTo σ p envelope) ids σ

theorem gameServers_notifyRoomListChanged (σ : RoomServer) :
    σ.notifyRoomListChanged.gameServers = σ.gameServers := by
  unfold notifyRoomListChanged
  split
  · rfl
  · split
    · rfl
    · rfl

theorem gameServers_returnToLobby (σ : RoomServer) (p : String) :
    (σ.returnToLobby p).gameServers = σ.gameServers := by
  unfold returnToLobby
  split
  · rfl
  · rfl

theorem gameServers_evictPlayers (σ : RoomServer) (ids : List String) :
    (σ.evictPlayers ids).gameServers = σ.gameServers :=
  gameServers_foldl (f := fun σ p => (σ.returnToLobby p).exitRoom p)
    (fun σ p => gameServers_returnToLobby σ p) ids σ

theorem gameServers_endSession (env : Env) (sid : String) (σ : RoomServer) :
    (σ.endSession env sid).gameServers = σ.gameServers := by
  obtain ⟨b, heq⟩ := exists_backend_endSession env sid σ
  rw [heq]

theorem gameServers_removeRoom (σ : RoomServer) (r p : String) :
    (σ.removeRoom r p).gameServers = σ.gameServers := by
  unfold removeRoom
  split
  · rfl
  · next room _ =>
      exact (gameServers_evictPlayers _ room.playerIds).trans (gameServers_broadcast σ _ _)

theorem gameServers_handleCreateRoom (env : Env) (request : CreateRoomRequest)
    (s : SessionPtr) (σ : RoomServer) :
    (σ.handleCreateRoom env request s).gameServers = σ.gameServers := by
  unfold handleCreateRoom
  split
  · rfl
  · exact gameServers_notifyRoomListChanged _

theorem gameServers_handleJoinRoom (request : JoinRoomRequest) (s : SessionPtr)
    (σ : RoomServer) : (σ.handleJoinRoom request s).gameServers = σ.gameServers := by
  unfold handleJoinRoom
  split
  · rfl
  · refine (gameServers_notifyRoomListChanged _).trans ?_
    exact gameServers_broadcast _ _ _

theorem gameServers_handleLeaveRoom (p : String) (σ : RoomServer) :
    (σ.handleLeaveRoom p).gameServers = σ.gameServers := by
  unfold handleLeaveRoom
  split
  · rfl
  · split
    · rfl
    · refine (gameServers_notifyRoomListChanged _).trans ?_
      split
      · exact gameServers_removeRoom _ _ _
      · split
        · exact gameServers_broadcast _ _ _
        · rfl

theorem gameServers_handleToggleReady (p : String) (σ : RoomServer) :
    (σ.handleToggleReady p).gameServers = σ.gameServers := by
  unfold handleToggleReady
  split
  · rfl
  · split
    · rfl
    · split
      · rfl
      · exact gameServers_broadcast _ _ _

theorem gameServers_handleStartGame (env : Env) (p : String) (σ : RoomServer) :
    (σ.handleStartGame env p).gameServers = σ.gameServers := by
  unfold handleStartGame
  split
  · rfl
  · split
    · rfl
    · split
      · exact gameServers_sendTo _ _ _
      · unfold startRoom announceSession beginSession
        refine (gameServers_notifyRoomListChanged _).trans ?_
        have hloop : ∀ (room : Room) (sid : String) (τ : RoomServer),
            (room.playerIds.foldl (sendGameStart env sid) τ).gameServers = τ.gameServers :=
          fun room sid τ => gameServers_foldl (f := sendGameStart env sid)
            (fun υ q => gameServers_sendTo _ q _) room.playerIds τ
        split
        · refine (hloop _ _ _).trans ?_
          split <;> rfl
        · refine (hloop _ _ _).trans ?_
          split <;> rfl

theorem gameServers_handleSlotReleased (env : Env) (p sid : String) (σ : RoomServer) :
    (σ.handleSlotReleased env p sid).gameServers = σ.gameServers := by
  unfold handleSlotReleased
  split
  · rfl
  · split
    · rfl
    · split
      · rfl
      · have hback := gameServers_returnToLobby σ p
        simp only
        split
        · exact (gameServers_endSession env _ _).trans hback
        · exact hback

theorem gameServers_endGame (env : Env) (σ : RoomServer) (r : String) :
    (σ.endGame env r).gameServers = σ.gameServers := by
  unfold endGame
  split
  · rfl
  · refine (gameServers_evictPlayers _ _).trans ?_
    exact (gameServers_endSession env _ _).trans (gameServers_broadcast σ _ _)

theorem gameServers_closeClient (s : SessionPtr) (σ : RoomServer) :
    (σ.closeClient s).gameServers = σ.gameServers := by
  unfold closeClient
  split
  · rfl
  · simp only
    split
    · exact gameServers_handleLeaveRoom _ _
    · rfl

theorem gameServers_dispatch (env : Env) (s : SessionPtr) (envelope : Envelope)
    (σ : RoomServer) : (σ.dispatch env s envelope).gameServers = σ.gameServers := by
  cases envelope with
  | createRoom request => exact gameServers_handleCreateRoom env request s σ
  | joinRoom request => exact gameServers_handleJoinRoom request s σ
  | leaveRoom =>
      simp only [dispatch]
      split
      · refine (gameServers_notifyRoomListChanged _).trans ?_
        exact gameServers_handleLeaveRoom _ σ
      · rfl
  | toggleReady =>
      simp only [dispatch]
      split
      · exact gameServers_handleToggleReady _ σ
      · rfl
  | startGame =>
      simp only [dispatch]
      split
      · exact gameServers_handleStartGame env _ σ
      · rfl
  | _ => rfl

theorem gameServers_processMessage (env : Env) (s : SessionPtr) (envelope : Envelope)
    (σ : RoomServer) : (σ.processMessage env s envelope).gameServers = σ.gameServers := by
  obtain ⟨b, -, -, hmessage⟩ := processMessage_eq env σ s
  rw [hmessage]
  split
  · exact gameServers_closeClient s _
  · exact gameServers_dispatch env s envelope _

/-- A heartbeat is the one message that a connection remembers. -/
theorem gameServers_processInternalMessage (env : Env) (store : SessionStore)
    (k k' : SessionPtr) (envelope : Envelope) (σ : RoomServer) :
    (σ.processInternalMessage env store k envelope).gameServers k' =
      match heartbeat k' (.gameServerMessage k envelope) with
      | none => σ.gameServers k'
      | some serverId => { σ.gameServers k' with serverId := serverId } := by
  cases envelope with
  | gameServerHeartbeat serverId activeSessions =>
      by_cases hk : k = k'
      · subst hk
        simp only [heartbeat, if_true]
        exact Function.update_self _ _ _
      · simp only [heartbeat, hk, if_false]
        exact Function.update_of_ne (Ne.symm hk) _ _
  | tokenValidateRequest authToken =>
      simp only [heartbeat, processInternalMessage, handleTokenValidate]
      split <;> rfl
  | slotReleased playerId sessionId =>
      exact congrFun (gameServers_handleSlotReleased env playerId sessionId σ) k'
  | _ => rfl

/-- The other handlers of a close leave the connections. -/
theorem gameServers_closeGameServer (env : Env) (k : SessionPtr) (σ : RoomServer) :
    (σ.closeGameServer env k).gameServers =
      Function.update σ.gameServers k { σ.gameServers k with closed := true } := by
  unfold closeGameServer
  split
  · next hclosed =>
      have hsame : { σ.gameServers k with closed := true } = σ.gameServers k := by
        rw [← hclosed]
      rw [hsame, Function.update_eq_self]
  · simp only
    split
    · exact gameServers_foldl (fun σ r => gameServers_endGame env σ r) _ _
    · rfl

theorem gameServers_lobbyTimerHandler (cancelled : Bool) (σ : RoomServer) :
    (σ.lobbyTimerHandler cancelled).gameServers = σ.gameServers := by
  unfold lobbyTimerHandler
  simp only
  split
  · rfl
  · unfold broadcastRoomListToLobby
    split
    · rfl
    · exact (gameServers_foldl (f := removeLobbySession) (fun _ _ => rfl) _ _).trans
        (gameServers_foldl (f := fun σ s => σ.send s none _) (fun _ _ => rfl) _ _)

end RoomServer

open RoomServer

/-!
## A connection in a run
-/

/-- What the server knows of a connection, from the inputs. -/
structure Known (k : SessionPtr) (is : List Input) (g : GameServerSession) : Prop where
  alive : g.lifetime = .alive ↔ .gameServerConnect k ∈ is
  closed : g.closed = true ↔ .gameServerClose k ∈ is
  serverId : g.serverId = lastReported k is

variable {env : Env} {σ τ : RoomServer} {i : Input} {k : SessionPtr} {is : List Input}

theorem lastReported_append (k : SessionPtr) (is : List Input) (i : Input) :
    lastReported k (is ++ [i]) = (heartbeat k i).getD (lastReported k is) := by
  unfold lastReported reported
  rw [List.filterMap_append]
  cases hbeat : heartbeat k i with
  | none =>
      rw [List.filterMap_cons_none hbeat, List.filterMap_nil, List.append_nil]
      rfl
  | some serverId =>
      rw [List.filterMap_cons_some hbeat, List.filterMap_nil, List.getLast?_append]
      rfl

/-- An input that does not concern the connection. -/
theorem Known.of_eq {g g' : GameServerSession} (h : Known k is g) (heq : g' = g)
    (hconnect : i ≠ .gameServerConnect k) (hclose : i ≠ .gameServerClose k)
    (hbeat : heartbeat k i = none) : Known k (is ++ [i]) g' := by
  rw [heq]
  constructor
  · rw [h.alive, List.mem_append, List.mem_singleton, or_iff_left hconnect.symm]
  · rw [h.closed, List.mem_append, List.mem_singleton, or_iff_left hclose.symm]
  · rw [h.serverId, lastReported_append, hbeat]
    rfl

/-- The input opens the connection, closes it, or is a message on it. -/
theorem known_step (h : Known k is (σ.gameServers k)) (hstep : Step env σ i τ) :
    Known k (is ++ [i]) (τ.gameServers k) := by
  cases i with
  | connect s remoteIp =>
      obtain ⟨-, rfl⟩ := Option.ite_some_none_eq_some.1 hstep
      exact h.of_eq rfl Input.noConfusion Input.noConfusion rfl
  | clientMessage s envelope =>
      obtain ⟨-, rfl⟩ := Option.ite_some_none_eq_some.1 hstep
      exact h.of_eq (congrFun (gameServers_processMessage env s envelope σ) k)
        Input.noConfusion Input.noConfusion rfl
  | clientClose s =>
      obtain ⟨-, rfl⟩ := Option.ite_some_none_eq_some.1 hstep
      exact h.of_eq (congrFun (gameServers_closeClient s σ) k)
        Input.noConfusion Input.noConfusion rfl
  | clientReleased s =>
      obtain ⟨-, rfl⟩ := Option.ite_some_none_eq_some.1 hstep
      exact h.of_eq rfl Input.noConfusion Input.noConfusion rfl
  | gameServerConnect k' =>
      obtain ⟨hunborn, rfl⟩ := Option.ite_some_none_eq_some.1 hstep
      by_cases hk : k = k'
      · subst hk
        have hself : (σ.updateGameServer k fun g => { g with lifetime := .alive }).gameServers
            k = { σ.gameServers k with lifetime := .alive } := Function.update_self _ _ _
        rw [hself]
        constructor
        · exact iff_of_true rfl (List.mem_append_right _ (List.mem_singleton_self _))
        · rw [List.mem_append, List.mem_singleton, or_iff_left Input.noConfusion]
          exact h.closed
        · rw [lastReported_append]
          exact h.serverId
      · refine h.of_eq (Function.update_of_ne hk _ _) (fun heq => ?_) Input.noConfusion rfl
        exact hk (Input.gameServerConnect.inj heq).symm
  | gameServerMessage k' envelope =>
      obtain ⟨store, -, -, rfl⟩ := hstep.gameServerMessage_inv
      have hmessage := gameServers_processInternalMessage env store k' k envelope σ
      cases hbeat : heartbeat k (.gameServerMessage k' envelope) with
      | none =>
          rw [hbeat] at hmessage
          exact h.of_eq hmessage Input.noConfusion Input.noConfusion hbeat
      | some serverId =>
          rw [hbeat] at hmessage
          rw [hmessage]
          constructor
          · rw [List.mem_append, List.mem_singleton, or_iff_left Input.noConfusion]
            exact h.alive
          · rw [List.mem_append, List.mem_singleton, or_iff_left Input.noConfusion]
            exact h.closed
          · rw [lastReported_append, hbeat]
            rfl
  | gameServerClose k' =>
      obtain ⟨-, rfl⟩ := Option.ite_some_none_eq_some.1 hstep
      rw [gameServers_closeGameServer]
      by_cases hk : k = k'
      · subst hk
        rw [Function.update_self]
        constructor
        · rw [List.mem_append, List.mem_singleton, or_iff_left Input.noConfusion]
          exact h.alive
        · exact iff_of_true rfl (List.mem_append_right _ (List.mem_singleton_self _))
        · rw [lastReported_append]
          exact h.serverId
      · refine h.of_eq (Function.update_of_ne hk _ _) Input.noConfusion (fun heq => ?_) rfl
        exact hk (Input.gameServerClose.inj heq).symm
  | lobbyTimer cancelled =>
      obtain ⟨-, rfl⟩ := Option.ite_some_none_eq_some.1 hstep
      exact h.of_eq (congrFun (gameServers_lobbyTimerHandler cancelled σ) k)
        Input.noConfusion Input.noConfusion rfl
  | chatLink connected =>
      obtain rfl := Option.some.inj hstep
      exact h.of_eq rfl Input.noConfusion Input.noConfusion rfl
  | tick seconds =>
      obtain rfl := Option.some.inj hstep
      exact h.of_eq rfl Input.noConfusion Input.noConfusion rfl

theorem known_of_run {store : Redis.Keyspace} (h : Run (Step env) (initial store) is σ)
    (k : SessionPtr) : Known k is (σ.gameServers k) := by
  induction h with
  | nil =>
      constructor
      · exact iff_of_false Lifetime.noConfusion List.not_mem_nil
      · exact iff_of_false Bool.false_ne_true List.not_mem_nil
      · rfl
  | snoc _ hstep ih => exact known_step ih hstep

/-!
## Closes
-/

/-- A close of an open connection that has told a server id ends the games there are, and
another close ends none. -/
theorem rooms_closeGameServer (env : Env) (k : SessionPtr) (σ : RoomServer) (r : String) :
    (σ.closeGameServer env k).manager.rooms.find? r =
      if (σ.gameServers k).closed = false ∧ (σ.gameServers k).serverId ≠ "" ∧
        r ∈ σ.inGameRoomIds then none else σ.manager.rooms.find? r := by
  unfold closeGameServer
  cases hclosed : (σ.gameServers k).closed with
  | true => simp
  | false =>
      have hself : (σ.updateGameServer k fun g => { g with closed := true }).gameServers k =
          { σ.gameServers k with closed := true } := Function.update_self _ _ _
      have hserver : ((σ.updateGameServer k fun g => { g with closed := true }).gameServers
          k).serverId = (σ.gameServers k).serverId := by rw [hself]
      simp only [hserver, bne_iff_ne, ne_eq, Bool.false_eq_true, if_false, true_and]
      by_cases hnamed : (σ.gameServers k).serverId = ""
      · simp only [hnamed, not_true_eq_false, if_false, false_and]
        rfl
      · simp only [hnamed, not_false_eq_true, if_true, true_and]
        exact (endGames_spec env (nodup_inGameRoomIds _) _).1 r

/-- Which closes end a game. -/
theorem endsGame_iff (hstep : Step env σ (.gameServerClose k) τ) : EndsGame σ τ ↔
    (σ.gameServers k).closed = false ∧ (σ.gameServers k).serverId ≠ "" ∧
      σ.hasActiveGame = true := by
  obtain ⟨-, rfl⟩ := Option.ite_some_none_eq_some.1 hstep
  rw [hasActiveGame_iff]
  constructor
  · intro h
    obtain ⟨r, room, hroom, hstate, hgone⟩ := h
    rw [rooms_closeGameServer] at hgone
    split at hgone
    · next hclose => exact ⟨hclose.1, hclose.2.1, r, room, hroom, hstate⟩
    · cases hroom.symm.trans hgone
  · intro h
    obtain ⟨hopen, hnamed, r, room, hroom, hstate⟩ := h
    refine ⟨r, room, hroom, hstate, ?_⟩
    rw [rooms_closeGameServer,
      if_pos ⟨hopen, hnamed, mem_inGameRoomIds.2 ⟨room, hroom, hstate⟩⟩]

/-- Other games are spared if and only if no room is in game wherever that matters. -/
theorem sparesOthers_iff_closesIdle (env : Env) (store : Redis.Keyspace) (is : List Input) :
    SparesOthers env store is ↔ ClosesIdle env store is := by
  constructor
  · intro h js k σ hjs hrun hup hne hother
    have hknown := known_of_run hrun k
    have hstep : Step env σ (.gameServerClose k) (σ.closeGameServer env k) :=
      if_pos (hknown.alive.2 hup.1)
    by_contra hbusy
    rw [Bool.not_eq_false] at hbusy
    obtain ⟨k', hk', hup', hmem⟩ := hother
    refine h js k σ _ hjs hrun hstep ?_ k' hk' hup' hmem
    rw [endsGame_iff hstep, hknown.serverId]
    exact ⟨Bool.eq_false_iff.2 fun hclosed => hup.2 (hknown.closed.1 hclosed), hne, hbusy⟩
  · intro h js k σ τ hjs hrun hstep hends k' hk' hup' hmem
    have hknown := known_of_run hrun k
    obtain ⟨hopen, hnamed, hbusy⟩ := (endsGame_iff hstep).1 hends
    have hup : IsUp k js := by
      refine ⟨hknown.alive.1 (Option.ite_some_none_eq_some.1 hstep).1, fun hclose => ?_⟩
      rw [hknown.closed.2 hclose] at hopen
      cases hopen
    rw [hknown.serverId] at hnamed
    have hidle := h js k σ hjs hrun hup hnamed ⟨k', hk', hup', hmem⟩
    rw [hbusy] at hidle
    cases hidle

/-- The game server reconnects in the middle of a game, and then its old connection closes. -/
theorem not_sparesOthers_reconnect : ¬ ∀ is, SparesOthers defaultEnv {} is := by
  intro hclaim
  obtain ⟨σ, hrun, hσ⟩ := exists_run_of_exec (fun _ _ => true) (step defaultEnv) (initial {})
    [.connect 0 "10.0.0.1", .clientMessage 0 (.createRoom ⟨"p", "P", "room", 4⟩),
      .gameServerConnect 0, .gameServerMessage 0 (.gameServerHeartbeat "g" 0),
      .clientMessage 0 .startGame, .gameServerConnect 1,
      .gameServerMessage 1 (.gameServerHeartbeat "g" 1)]
    (fun σ => ((σ.manager.rooms.find? "u").any fun room => room.state == .inGame) &&
      (step defaultEnv σ (.gameServerClose 0)).any fun τ =>
        (τ.manager.rooms.find? "u").isNone)
    (by decide +kernel)
  rw [Bool.and_eq_true] at hσ
  obtain ⟨room, hroom, hstate⟩ := (Option.any_eq_true _ _).1 hσ.1
  obtain ⟨τ, hstep, hgone⟩ := (Option.any_eq_true _ _).1 hσ.2
  refine hclaim _ _ 0 σ τ (List.prefix_refl _) hrun.of_guarded hstep
    ⟨"u", room, hroom, beq_iff_eq.1 hstate, Option.isNone_iff_eq_none.1 hgone⟩ 1
    (by decide) ⟨by decide, by decide⟩ (by decide)

end Room

end SosBackend
