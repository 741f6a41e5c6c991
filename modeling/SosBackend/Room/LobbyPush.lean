import SosBackend.Room.GameStart
import Mathlib.Data.Set.Card

/-!
# The pushes to the lobby

A change of the rooms that can be joined arms the timer of the lobby broadcast, unless
nobody is in the lobby or the timer is armed already. When the timer fires, everybody
in the lobby is sent the list of the rooms as they are then, so a change that falls
into the wait of an earlier one is not lost.
-/

namespace SosBackend

namespace Room

/-!
## The rooms that can be joined
-/

/-- What the list of rooms shows of a room. -/
def summaryOf : Option Room → Option RoomSummary
  | none => none
  | some room => if room.state = .waiting then some room.toRoomSummary else none

namespace Registry

/-- The summaries of the rooms that wait. -/
def waiting (v : Registry) : Set RoomSummary :=
  {x | ∃ r room, v.rooms r = some room ∧ room.state = .waiting ∧ room.toRoomSummary = x}

theorem mem_waiting {v : Registry} {x : RoomSummary} :
    x ∈ v.waiting ↔ ∃ r, summaryOf (v.rooms r) = some x := by
  constructor
  · rintro ⟨r, room, hroom, hstate, rfl⟩
    refine ⟨r, ?_⟩
    rw [hroom, summaryOf, if_pos hstate]
  · rintro ⟨r, hr⟩
    cases hroom : v.rooms r with
    | none =>
        rw [hroom] at hr
        cases hr
    | some room =>
        rw [hroom] at hr
        obtain ⟨hstate, heq⟩ := Option.ite_none_right_eq_some.1 hr
        exact ⟨r, room, hroom, hstate, Option.some.inj heq⟩

theorem waiting_congr {v w : Registry} (h : ∀ r, summaryOf (w.rooms r) = summaryOf (v.rooms r)) :
    w.waiting = v.waiting := by
  ext x
  rw [mem_waiting, mem_waiting]
  simp only [h]

/-- A room that looks the same in the list does not change it. -/
theorem summaryOf_update {v : Registry} {r : String} {o : Option Room}
    (h : summaryOf o = summaryOf (v.rooms r)) (x : String) :
    summaryOf (Function.update v.rooms r o x) = summaryOf (v.rooms x) := by
  by_cases hx : x = r
  · subst hx
    rw [Function.update_self, h]
  · rw [Function.update_of_ne hx]

end Registry

theorem length_flipReady (p : String) (players : List PlayerData) :
    (flipReady p players).length = players.length := by
  induction players with
  | nil => rfl
  | cons player players ih =>
      rw [flipReady]
      split
      · rfl
      · rw [List.length_cons, List.length_cons, ih]

/-- The list does not show who is ready. -/
theorem toRoomSummary_toggleReady (room : Room) (p : String) :
    (room.toggleReady p).toRoomSummary = room.toRoomSummary := by
  unfold Room.toggleReady
  split
  · rfl
  · simp only [Room.toRoomSummary, Room.playerCount, length_flipReady]

theorem summaryOf_inGame {room : Room} (h : room.state = .inGame) :
    summaryOf (some room) = none := by
  rw [summaryOf, h]
  rfl

/-- The change concerns no room that waits, as far as the list shows it. -/
def Action.KeepsList (v : Registry) : Action → Prop
  | .create _ _ _ | .join _ _ | .leave _ _ | .closeRoom _ _ | .start _ _ _ => False
  | .release _ r | .releaseLast _ r => ∀ room, v.rooms r = some room → room.state = .inGame
  | _ => True

theorem Act.waiting {env : Env} {v w : Registry} {a : Action} (h : Act env v a w)
    (ha : a.KeepsList v) : w.waiting = v.waiting := by
  cases h with
  | create hadmits hcount hmin hmax => exact absurd ha id
  | join hadmits hroom hstate hfull => exact absurd ha id
  | leave hp hroom hhost => exact absurd ha id
  | closeRoom hp hroom hhost => exact absurd ha id
  | start hp hroom hhost hidle hready hissued => exact absurd ha id
  | @toggle p r room hp hroom hhost =>
      apply Registry.waiting_congr
      apply Registry.summaryOf_update
      rw [hroom, summaryOf, summaryOf, Room.state_toggleReady, toRoomSummary_toggleReady]
  | @release p r room hp hroom hcount =>
      have hstate := ha room hroom
      have hgone : (room.removePlayer p).state = .inGame := hstate
      apply Registry.waiting_congr
      apply Registry.summaryOf_update
      rw [hroom, summaryOf_inGame hstate, summaryOf_inGame hgone]
  | @releaseLast p r room hp hroom hcount =>
      apply Registry.waiting_congr
      apply Registry.summaryOf_update
      rw [hroom, summaryOf_inGame (ha room hroom)]
      rfl
  | @endGame r room hroom hstate =>
      apply Registry.waiting_congr
      apply Registry.summaryOf_update
      rw [hroom, summaryOf_inGame hstate]
      rfl
  | _ => rfl

namespace RoomServer

/-!
## The timer
-/

/-- The flag of a pending broadcast, and the waits on the timer. -/
def timer (σ : RoomServer) : Bool × ℕ :=
  (σ.manager.lobbyBroadcastPending, σ.manager.lobbyTimerWaits)

@[simp] theorem timer_sendTo (σ : RoomServer) (p : String) (envelope : Envelope) :
    (σ.sendTo p envelope).timer = σ.timer := by
  unfold sendTo
  split
  · rfl
  · rfl

@[simp] theorem timer_broadcast (σ : RoomServer) (ids : List String) (envelope : Envelope) :
    (σ.broadcast ids envelope).timer = σ.timer := by
  unfold broadcast
  induction ids generalizing σ with
  | nil => rfl
  | cons p ids ih =>
      rw [List.foldl_cons, ih]
      exact timer_sendTo σ p envelope

@[simp] theorem timer_returnToLobby (σ : RoomServer) (p : String) :
    (σ.returnToLobby p).timer = σ.timer := by
  unfold returnToLobby
  split
  · rfl
  · rfl

@[simp] theorem timer_evictPlayers (σ : RoomServer) (ids : List String) :
    (σ.evictPlayers ids).timer = σ.timer := by
  unfold evictPlayers
  induction ids generalizing σ with
  | nil => rfl
  | cons p ids ih =>
      rw [List.foldl_cons, ih]
      exact timer_returnToLobby σ p

@[simp] theorem timer_removeRoom (σ : RoomServer) (r p : String) :
    (σ.removeRoom r p).timer = σ.timer := by
  unfold removeRoom
  split
  · rfl
  · next room _ =>
      exact (timer_evictPlayers _ room.playerIds).trans (timer_broadcast σ _ _)

@[simp] theorem timer_endSession (env : Env) (sid : String) (σ : RoomServer) :
    (σ.endSession env sid).timer = σ.timer := by
  obtain ⟨b, heq⟩ := exists_backend_endSession env sid σ
  rw [heq]
  rfl

theorem timer_sendGameStarts (env : Env) (sid : String) (ids : List String) (σ : RoomServer) :
    (ids.foldl (sendGameStart env sid) σ).timer = σ.timer := by
  induction ids generalizing σ with
  | nil => rfl
  | cons p ids ih =>
      rw [List.foldl_cons, ih]
      exact timer_sendTo _ p _

/-- There is one wait on the timer while a broadcast is pending, and none otherwise. -/
def Wound (σ : RoomServer) : Prop :=
  σ.manager.lobbyTimerWaits = if σ.manager.lobbyBroadcastPending then 1 else 0

/-- From `σ` to `τ` a pending broadcast stays pending. -/
structure Arms (σ τ : RoomServer) : Prop where
  keeps : σ.manager.lobbyBroadcastPending = true → τ.manager.lobbyBroadcastPending = true
  wound : σ.Wound → τ.Wound

/-- From `σ` to `τ` a change of the list leaves a broadcast pending, if anybody is in the
lobby then. -/
structure Notifies (σ τ : RoomServer) : Prop extends Arms σ τ where
  changes : τ.registry.waiting ≠ σ.registry.waiting → τ.manager.lobbySessions.size ≠ 0 →
    τ.manager.lobbyBroadcastPending = true

variable {σ τ υ : RoomServer}

theorem pending_of_timer (h : τ.timer = σ.timer) :
    τ.manager.lobbyBroadcastPending = σ.manager.lobbyBroadcastPending :=
  congrArg Prod.fst h

theorem Arms.of_timer (h : τ.timer = σ.timer) : Arms σ τ := by
  have hpending := pending_of_timer h
  have hwaits : τ.manager.lobbyTimerWaits = σ.manager.lobbyTimerWaits := congrArg Prod.snd h
  constructor
  · intro hσ
    rwa [hpending]
  · intro hσ
    rw [Wound, hpending, hwaits]
    exact hσ

theorem Arms.trans (h : Arms σ τ) (h' : Arms τ υ) : Arms σ υ :=
  ⟨fun hσ => h'.keeps (h.keeps hσ), fun hσ => h'.wound (h.wound hσ)⟩

/-- The notification arms the timer, if anybody is in the lobby. -/
theorem Arms.notify (h : Arms σ τ) : Notifies σ τ.notifyRoomListChanged := by
  unfold notifyRoomListChanged
  split
  · next hempty => exact ⟨h, fun _ hsize => absurd hempty hsize⟩
  split
  · next hpending => exact ⟨h, fun _ _ => hpending⟩
  · next hidle =>
      refine ⟨⟨fun _ => rfl, fun hσ => ?_⟩, fun _ _ => rfl⟩
      have hwaits : τ.manager.lobbyTimerWaits = 0 := by
        have hτ := h.wound hσ
        rwa [Wound, if_neg hidle] at hτ
      simp [Wound, hwaits]

theorem Notifies.of_idle (htimer : τ.timer = σ.timer)
    (hwaiting : τ.registry.waiting = σ.registry.waiting) : Notifies σ τ :=
  ⟨Arms.of_timer htimer, fun hne => absurd hwaiting hne⟩

/-- Something happens before that does not concern the list. -/
theorem Notifies.after (h : Notifies τ υ) (htimer : τ.timer = σ.timer)
    (hwaiting : τ.registry.waiting = σ.registry.waiting) : Notifies σ υ := by
  refine ⟨(Arms.of_timer htimer).trans h.toArms, ?_⟩
  rw [← hwaiting]
  exact h.changes

/-- Something happens afterwards that concerns neither the list nor the lobby. -/
theorem Notifies.before (h : Notifies σ τ) (htimer : υ.timer = τ.timer)
    (hwaiting : υ.registry.waiting = τ.registry.waiting)
    (hlobby : υ.manager.lobbySessions = τ.manager.lobbySessions) : Notifies σ υ := by
  refine ⟨h.toArms.trans (Arms.of_timer htimer), ?_⟩
  rw [hwaiting, hlobby, pending_of_timer htimer]
  exact h.changes

/-- A change of the registry that the list does not show. -/
theorem Notifies.of_act {env : Env} {a : Action} (hact : Act env σ.registry a τ.registry)
    (ha : a.KeepsList σ.registry) (htimer : τ.timer = σ.timer) : Notifies σ τ :=
  Notifies.of_idle htimer (hact.waiting ha)

/-!
## The handlers
-/

theorem notifies_handleCreateRoom (env : Env) (request : CreateRoomRequest) (s : SessionPtr)
    (σ : RoomServer) : Notifies σ (σ.handleCreateRoom env request s) := by
  unfold handleCreateRoom
  split
  · exact Notifies.of_idle rfl rfl
  · exact Arms.notify (Arms.of_timer rfl)

theorem notifies_handleJoinRoom (request : JoinRoomRequest) (s : SessionPtr)
    (σ : RoomServer) : Notifies σ (σ.handleJoinRoom request s) := by
  unfold handleJoinRoom
  split
  · exact Notifies.of_idle rfl rfl
  · apply Arms.notify
    apply Arms.of_timer
    rw [broadcastToRoomExcept, timer_broadcast]
    rfl

theorem notifies_handleLeaveRoom (p : String) (σ : RoomServer) :
    Notifies σ (σ.handleLeaveRoom p) := by
  unfold handleLeaveRoom
  split
  · exact Notifies.of_idle rfl rfl
  split
  · exact Notifies.of_idle rfl rfl
  · apply Arms.notify
    apply Arms.of_timer
    split
    · rw [timer_removeRoom]
      rfl
    · split
      · rw [broadcastToRoom, timer_broadcast]
        rfl
      · rfl

theorem timer_handleToggleReady (p : String) (σ : RoomServer) :
    (σ.handleToggleReady p).timer = σ.timer := by
  unfold handleToggleReady
  split
  · rfl
  split
  · rfl
  split
  · rfl
  · rw [broadcastToRoom, timer_broadcast]
    rfl

theorem notifies_handleToggleReady (env : Env) (p : String) (σ : RoomServer) :
    Notifies σ (σ.handleToggleReady p) := by
  obtain ⟨a, heffect, ha⟩ := effect_handleToggleReady env p σ
  refine Notifies.of_act heffect.act ?_ (timer_handleToggleReady p σ)
  rcases ha with rfl | ⟨r, rfl⟩
  · trivial
  · trivial

theorem notifies_handleStartGame (env : Env) (p : String) (σ : RoomServer) :
    Notifies σ (σ.handleStartGame env p) := by
  unfold handleStartGame
  split
  · exact Notifies.of_idle rfl rfl
  split
  · exact Notifies.of_idle rfl rfl
  next r _ _ room _ =>
  split
  · refine Notifies.of_idle (timer_sendTo _ _ _) ?_
    rw [registry_sendTo]
  · unfold startRoom
    apply Arms.notify
    apply Arms.of_timer
    have hbegin : ∀ (sid : String) (τ : RoomServer), (τ.beginSession env sid).timer = τ.timer := by
      intro sid τ
      unfold beginSession
      split
      · rfl
      · rfl
    have hannounce : ∀ (sid : String) (room : Room) (τ : RoomServer),
        (τ.announceSession env sid room).timer = τ.timer := by
      intro sid room τ
      unfold announceSession
      split
      · rfl
      · rfl
    rw [hannounce, timer_sendGameStarts, hbegin]
    rfl

theorem timer_handleSlotReleased (env : Env) (p sid : String) (σ : RoomServer) :
    (σ.handleSlotReleased env p sid).timer = σ.timer := by
  unfold handleSlotReleased
  split
  · rfl
  split
  · rfl
  split
  · rfl
  simp only
  split
  · refine (timer_endSession env _ _).trans ?_
    exact timer_returnToLobby σ p
  · exact timer_returnToLobby σ p

/-- A slot release that names a session concerns a room in game. -/
theorem notifies_handleSlotReleased {env : Env} {σ : RoomServer} (hσ : σ.registry.Staged env)
    (p : String) {sid : String} (hsid : sid ≠ "") :
    Notifies σ (σ.handleSlotReleased env p sid) := by
  obtain ⟨a, heffect, ha⟩ := effect_handleSlotReleased env p sid σ
  refine Notifies.of_act heffect.act ?_ (timer_handleSlotReleased env p sid σ)
  have hinGame : ∀ r room, σ.registry.rooms r = some room → sid = "" ∨ room.sessionId = sid →
      ∀ room', σ.registry.rooms r = some room' → room'.state = .inGame := by
    intro r room hroom hnamed room' hroom'
    cases hroom.symm.trans hroom'
    have hne : room.sessionId ≠ "" := by
      rw [hnamed.resolve_left hsid]
      exact hsid
    exact (hσ.session_iff hroom).1 hne
  rcases ha with rfl | rfl | ⟨r, room, hroom, hnamed, rfl | rfl⟩
  · trivial
  · trivial
  · exact hinGame r room hroom hnamed
  · exact hinGame r room hroom hnamed

theorem timer_endGames (env : Env) (ids : List String) (σ : RoomServer) :
    (ids.foldl (endGame env) σ).timer = σ.timer := by
  induction ids generalizing σ with
  | nil => rfl
  | cons r ids ih =>
      rw [List.foldl_cons, ih]
      unfold endGame
      split
      · rfl
      · next room _ =>
          refine (timer_evictPlayers _ room.playerIds).trans ?_
          rw [timer_endSession, broadcastToRoom, timer_broadcast]

theorem notifies_handleGameServerDisconnect (env : Env) (σ : RoomServer) :
    Notifies σ (σ.handleGameServerDisconnect env) := by
  obtain ⟨as, hrun, has⟩ := run_handleGameServerDisconnect env σ
  refine Notifies.of_idle (timer_endGames env σ.inGameRoomIds σ) ?_
  refine (hrun.and_of_forall (P := fun a => ∃ r, a = .endGame r) has).relates
    (Q := fun x y => y.registry.waiting = x.registry.waiting) (fun _ => rfl) ?_ ?_
  · intro x y z hxy hyz
    exact hyz.trans hxy
  · rintro x a y ⟨heffect, r, rfl⟩
    exact heffect.act.waiting trivial

theorem notifies_closeClient (s : SessionPtr) (σ : RoomServer) :
    Notifies σ (σ.closeClient s) := by
  unfold closeClient
  split
  · exact Notifies.of_idle rfl rfl
  simp only
  split
  · refine Notifies.before (τ := RoomServer.handleLeaveRoom _ _) ?_ rfl rfl rfl
    exact (notifies_handleLeaveRoom _ _).after rfl rfl
  · exact Notifies.of_idle rfl rfl

theorem notifies_dispatch (env : Env) (s : SessionPtr) (envelope : Envelope) (σ : RoomServer) :
    Notifies σ (σ.dispatch env s envelope) := by
  cases envelope with
  | createRoom request => exact notifies_handleCreateRoom env request s σ
  | joinRoom request => exact notifies_handleJoinRoom request s σ
  | leaveRoom =>
      simp only [dispatch]
      split
      · -- the session is back in the lobby before the second notification
        apply Arms.notify
        exact (notifies_handleLeaveRoom _ σ).toArms.trans (Arms.of_timer rfl)
      · exact Notifies.of_idle rfl rfl
  | toggleReady =>
      simp only [dispatch]
      split
      · exact notifies_handleToggleReady env _ σ
      · exact Notifies.of_idle rfl rfl
  | startGame =>
      simp only [dispatch]
      split
      · exact notifies_handleStartGame env _ σ
      · exact Notifies.of_idle rfl rfl
  | _ => exact Notifies.of_idle rfl rfl

theorem notifies_processMessage (env : Env) (s : SessionPtr) (envelope : Envelope)
    (σ : RoomServer) : Notifies σ (σ.processMessage env s envelope) := by
  obtain ⟨b, -, -, hmessage⟩ := processMessage_eq env σ s
  rw [hmessage]
  split
  · exact (notifies_closeClient s _).after rfl rfl
  · exact (notifies_dispatch env s envelope _).after rfl rfl

end RoomServer

/-!
## Steps
-/

open RoomServer

/-- The server does not stop, and a slot release names a session. -/
def undisturbed (_ : RoomServer) : Input → Bool
  | .lobbyTimer cancelled => !cancelled
  | .gameServerMessage _ (.slotReleased _ sessionId) => sessionId != ""
  | _ => true

variable {env : Env} {σ τ : RoomServer} {i : Input}

/-- A step in which the timer does not fire. -/
theorem notifies_step (h : Guarded undisturbed (Step env) σ i τ) (hσ : σ.registry.Staged env)
    (hi : ∀ cancelled, i ≠ .lobbyTimer cancelled) : Notifies σ τ := by
  obtain ⟨hstep, hundisturbed⟩ := h
  cases i with
  | connect s remoteIp =>
      obtain ⟨-, rfl⟩ := Option.ite_some_none_eq_some.1 hstep
      exact Notifies.of_idle rfl rfl
  | clientMessage s envelope =>
      obtain ⟨-, rfl⟩ := Option.ite_some_none_eq_some.1 hstep
      exact notifies_processMessage env s envelope σ
  | clientClose s =>
      obtain ⟨-, rfl⟩ := Option.ite_some_none_eq_some.1 hstep
      exact notifies_closeClient s σ
  | clientReleased s =>
      obtain ⟨-, rfl⟩ := Option.ite_some_none_eq_some.1 hstep
      exact Notifies.of_idle rfl rfl
  | gameServerConnect k =>
      obtain ⟨-, rfl⟩ := Option.ite_some_none_eq_some.1 hstep
      exact Notifies.of_idle rfl rfl
  | gameServerMessage k envelope =>
      obtain ⟨store, -, -, rfl⟩ := hstep.gameServerMessage_inv
      cases envelope with
      | tokenValidateRequest authToken =>
          simp only [processInternalMessage, handleTokenValidate]
          split
          · exact Notifies.of_idle rfl rfl
          · exact Notifies.of_idle rfl rfl
      | slotReleased p sid =>
          exact notifies_handleSlotReleased hσ p (by simpa [undisturbed] using hundisturbed)
      | _ => exact Notifies.of_idle rfl rfl
  | gameServerClose k =>
      obtain ⟨-, rfl⟩ := Option.ite_some_none_eq_some.1 hstep
      unfold closeGameServer
      split
      · exact Notifies.of_idle rfl rfl
      simp only
      split
      · exact (notifies_handleGameServerDisconnect env _).after rfl rfl
      · exact Notifies.of_idle rfl rfl
  | lobbyTimer cancelled => exact absurd rfl (hi cancelled)
  | chatLink connected =>
      obtain rfl := Option.some.inj hstep
      exact Notifies.of_idle rfl rfl
  | tick seconds =>
      obtain rfl := Option.some.inj hstep
      exact Notifies.of_idle rfl rfl

/-!
## The timer fires
-/

/-- The session is in the lobby, and its object is still there. -/
def InLobby (σ : RoomServer) (s : SessionPtr) : Prop :=
  σ.manager.lobbySessions.contains s = true ∧ (σ.clients s).lifetime = .alive

/-- The response counts the rooms of the list, and shows twenty of them, or all. -/
structure Shows (response : RoomListResponse) (W : Set RoomSummary) : Prop where
  total : response.totalRooms.toNat = W.ncard
  count : response.rooms.length = min 20 W.ncard
  distinct : response.rooms.Nodup
  mem : ∀ x ∈ response.rooms, x ∈ W

/-- From `σ` to `τ` everybody in the lobby has been sent the response, once, and nobody
else anything. It shows the list, and is what a request for the first page is answered. -/
structure Pushes (σ τ : RoomServer) (response : RoomListResponse) : Prop where
  shows : Shows response σ.registry.waiting
  page : ∀ s, (σ.handleRoomListRequest ⟨0, 20⟩ s).sent =
    σ.sent ++ [⟨s, none, .roomListResponse response⟩]
  sent : ∃ ids : List SessionPtr, ids.Nodup ∧ (∀ s, s ∈ ids ↔ InLobby σ s) ∧
    τ.sent = σ.sent ++ ids.map fun s => ⟨s, none, .roomListResponse response⟩

/-- The first page of the list. -/
def firstPage (σ : RoomServer) : RoomListResponse where
  rooms := (σ.waitingRooms.take
    (min (UInt32.ofNat σ.waitingRooms.length) lobbyBroadcastPageSize).toNat).map
      Room.toRoomSummary
  totalRooms := UInt32.ofNat σ.waitingRooms.length

theorem mem_waitingRooms {room : Room} :
    room ∈ σ.waitingRooms ↔ ∃ r, σ.registry.rooms r = some room ∧ room.state = .waiting := by
  rw [waitingRooms, List.mem_filter, UnorderedMap.mem_values, beq_iff_eq]
  constructor
  · rintro ⟨⟨r, hr⟩, hstate⟩
    exact ⟨r, hr, hstate⟩
  · rintro ⟨r, hr, hstate⟩
    exact ⟨⟨r, hr⟩, hstate⟩

theorem nodup_summaries (hσ : σ.registry.Indexed env) :
    (σ.waitingRooms.map Room.toRoomSummary).Nodup := by
  have hids : (σ.manager.rooms.values.map Room.roomId).Nodup := by
    rw [UnorderedMap.map_values_eq_keyList hσ.keyed]
    exact σ.manager.rooms.nodup_keyList
  have hwaiting : (σ.waitingRooms.map Room.roomId).Nodup := by
    refine List.Nodup.sublist ?_ hids
    exact List.Sublist.map Room.roomId List.filter_sublist
  have hsummaries : ((σ.waitingRooms.map Room.toRoomSummary).map RoomSummary.roomId).Nodup := by
    rw [List.map_map]
    exact hwaiting
  exact hsummaries.of_map RoomSummary.roomId

theorem waiting_eq (σ : RoomServer) :
    σ.registry.waiting = {x | x ∈ σ.waitingRooms.map Room.toRoomSummary} := by
  ext x
  rw [Set.mem_ofPred_eq, List.mem_map]
  constructor
  · rintro ⟨r, room, hroom, hstate, heq⟩
    exact ⟨room, mem_waitingRooms.2 ⟨r, hroom, hstate⟩, heq⟩
  · rintro ⟨room, hmem, heq⟩
    obtain ⟨r, hroom, hstate⟩ := mem_waitingRooms.1 hmem
    exact ⟨r, room, hroom, hstate, heq⟩

theorem ncard_waiting (hσ : σ.registry.Indexed env) :
    σ.registry.waiting.ncard = σ.waitingRooms.length := by
  have hset : σ.registry.waiting =
      ((σ.waitingRooms.map Room.toRoomSummary).toFinset : Set RoomSummary) := by
    rw [waiting_eq, List.coe_toFinset]
  rw [hset, Set.ncard_coe_finset, List.toFinset_card_of_nodup (nodup_summaries hσ),
    List.length_map]

/-- There are no more rooms than fit into the number of the response. -/
theorem toNat_length_waitingRooms (hσ : σ.registry.Indexed env) :
    (UInt32.ofNat σ.waitingRooms.length).toNat = σ.waitingRooms.length := by
  have hsize : σ.manager.rooms.size ≤ env.maxRooms.toNat := hσ.consistent.size
  have hlength : σ.waitingRooms.length ≤ σ.manager.rooms.size := by
    rw [UnorderedMap.size]
    exact (List.length_filter_le _ _).trans (List.length_map _).le
  have hmax := env.maxRooms.toNat_lt
  rw [UInt32.toNat_ofNat']
  exact Nat.mod_eq_of_lt (by omega)

theorem shows_firstPage (hσ : σ.registry.Indexed env) :
    Shows (firstPage σ) σ.registry.waiting := by
  have htotal := toNat_length_waitingRooms hσ
  have hcount : (min (UInt32.ofNat σ.waitingRooms.length) lobbyBroadcastPageSize).toNat =
      min 20 σ.waitingRooms.length := by
    rw [UInt32.toNat_min, htotal, Nat.min_comm]
    rfl
  constructor
  · rw [ncard_waiting hσ]
    exact htotal
  · rw [ncard_waiting hσ, firstPage, hcount, List.length_map, List.length_take]
    omega
  · rw [firstPage, List.map_take]
    exact List.Nodup.sublist (List.take_sublist _ _) (nodup_summaries hσ)
  · intro x hx
    rw [firstPage, List.map_take] at hx
    rw [waiting_eq]
    exact List.mem_of_mem_take hx

theorem page_firstPage (σ : RoomServer) (s : SessionPtr) :
    (σ.handleRoomListRequest ⟨0, 20⟩ s).sent =
      σ.sent ++ [⟨s, none, .roomListResponse (firstPage σ)⟩] := rfl

theorem sent_sends (ids : List SessionPtr) (envelope : Envelope) (σ : RoomServer) :
    (ids.foldl (fun σ s => σ.send s none envelope) σ).sent =
      σ.sent ++ ids.map fun s => ⟨s, none, envelope⟩ := by
  induction ids generalizing σ with
  | nil => exact (List.append_nil _).symm
  | cons s ids ih =>
      rw [List.foldl_cons, ih, List.map_cons]
      exact List.append_assoc _ _ _

theorem sent_removeLobbySessions (ids : List SessionPtr) (σ : RoomServer) :
    (ids.foldl removeLobbySession σ).sent = σ.sent := by
  induction ids generalizing σ with
  | nil => rfl
  | cons s ids ih => exact ih (σ.removeLobbySession s)

/-- The broadcast reaches everybody in the lobby. -/
theorem pushes_broadcast (hσ : σ.registry.Indexed env) :
    Pushes σ σ.broadcastRoomListToLobby (firstPage σ) := by
  refine ⟨shows_firstPage hσ, page_firstPage σ, σ.manager.lobbySessions.keyList.filter
    fun s => (σ.clients s).lifetime == .alive, ?_, ?_, ?_⟩
  · exact σ.manager.lobbySessions.nodup_keyList.filter _
  · intro s
    rw [List.mem_filter, UnorderedMap.mem_keyList, beq_iff_eq]
    exact Iff.rfl
  · unfold broadcastRoomListToLobby
    split
    · next hempty =>
        rw [UnorderedMap.size_eq_length_keyList, List.length_eq_zero_iff] at hempty
        rw [hempty]
        exact (List.append_nil _).symm
    · simp only [List.partition_eq_filter_filter]
      rw [sent_removeLobbySessions, sent_sends]
      rfl

theorem pushes_lobbyTimer (hσ : σ.registry.Indexed env) :
    Pushes σ (σ.lobbyTimerHandler false) (firstPage σ) := by
  have hpush := pushes_broadcast (σ := { σ with manager := { σ.manager with
    lobbyBroadcastPending := false
    lobbyTimerWaits := σ.manager.lobbyTimerWaits - 1 } }) hσ
  constructor
  · exact hpush.shows
  · exact hpush.page
  · exact hpush.sent

/-!
## Runs
-/

theorem timer_broadcastRoomListToLobby (σ : RoomServer) :
    σ.broadcastRoomListToLobby.timer = σ.timer := by
  have hsends : ∀ (ids : List SessionPtr) (envelope : Envelope) (τ : RoomServer),
      (ids.foldl (fun τ s => τ.send s none envelope) τ).timer = τ.timer := by
    intro ids envelope
    induction ids with
    | nil => exact fun τ => rfl
    | cons s ids ih => exact fun τ => ih (τ.send s none envelope)
  have hdrops : ∀ (ids : List SessionPtr) (τ : RoomServer),
      (ids.foldl removeLobbySession τ).timer = τ.timer := by
    intro ids
    induction ids with
    | nil => exact fun τ => rfl
    | cons s ids ih => exact fun τ => ih (τ.removeLobbySession s)
  unfold broadcastRoomListToLobby
  split
  · rfl
  · simp only
    rw [hdrops, hsends]

/-- The one wait ends, and no broadcast is pending any more. -/
theorem wound_lobbyTimer (hσ : σ.Wound) : (σ.lobbyTimerHandler false).Wound := by
  have htimer : (σ.lobbyTimerHandler false).timer = (false, σ.manager.lobbyTimerWaits - 1) :=
    timer_broadcastRoomListToLobby _
  have hpending : (σ.lobbyTimerHandler false).manager.lobbyBroadcastPending = false :=
    congrArg Prod.fst htimer
  have hwaits : (σ.lobbyTimerHandler false).manager.lobbyTimerWaits =
      σ.manager.lobbyTimerWaits - 1 := congrArg Prod.snd htimer
  have hone : σ.manager.lobbyTimerWaits ≤ 1 := by
    rw [Wound] at hσ
    rw [hσ]
    split
    · exact le_rfl
    · exact Nat.zero_le 1
  rw [Wound, hpending, hwaits, if_neg Bool.false_ne_true]
  omega

/-- The list does not change when the timer fires. -/
theorem waiting_lobbyTimer (env : Env) (cancelled : Bool) (σ : RoomServer) :
    (σ.lobbyTimerHandler cancelled).registry.waiting = σ.registry.waiting :=
  (effect_lobbyTimerHandler env cancelled σ).act.waiting trivial

/-- A step under the guard is one in which the timer fires, or it notifies. -/
theorem fires_or_notifies (h : Guarded undisturbed (Step env) σ i τ)
    (hσ : σ.registry.Staged env) :
    (i = .lobbyTimer false ∧ τ = σ.lobbyTimerHandler false) ∨ Notifies σ τ := by
  by_cases hi : ∃ cancelled, i = .lobbyTimer cancelled
  · obtain ⟨cancelled, rfl⟩ := hi
    obtain ⟨hstep, hundisturbed⟩ := h
    obtain ⟨-, rfl⟩ := Option.ite_some_none_eq_some.1 hstep
    obtain rfl : cancelled = false := by simpa [undisturbed] using hundisturbed
    exact Or.inl ⟨rfl, rfl⟩
  · refine Or.inr (notifies_step h hσ ?_)
    intro cancelled heq
    exact hi ⟨cancelled, heq⟩

theorem wound_of_run {store : Redis.Keyspace} {is : List Input}
    (h : Run (Guarded undisturbed (Step env)) (initial store) is σ) : σ.Wound := by
  have hinvariant : σ.registry.Staged env ∧ σ.Wound := by
    refine h.invariant (I := fun σ => σ.registry.Staged env ∧ σ.Wound) ?_ ?_
    · rintro σ i τ hstep ⟨hstaged, hwound⟩
      refine ⟨staged_step hstep.1 hstaged, ?_⟩
      rcases fires_or_notifies hstep hstaged with ⟨-, rfl⟩ | hnotifies
      · exact wound_lobbyTimer hwound
      · exact hnotifies.wound hwound
    · exact ⟨staged_initial env _ rfl, rfl⟩
  exact hinvariant.2

/-- A step of `R` that leaves the session in the lobby, and the list as it was. -/
def Lasts (R : RoomServer → Input → RoomServer → Prop) (s : SessionPtr) (σ : RoomServer)
    (i : Input) (τ : RoomServer) : Prop :=
  R σ i τ ∧ InLobby τ s ∧ τ.registry.waiting = σ.registry.waiting

/-- The timer fires, and the session is sent what shows the list `W`. -/
def PushedTo (s : SessionPtr) (W : Set RoomSummary) (σ : RoomServer) (i : Input)
    (τ : RoomServer) : Prop :=
  i = .lobbyTimer false ∧ InLobby σ s ∧ ∃ response, Pushes σ τ response ∧ Shows response W

/-- In the runs of `R` no change of the list is lost on the lobby: it leaves a broadcast
pending, unless nobody is there to see it; one wait on the timer stands for the broadcast
that is pending; when it is over everybody in the lobby is sent the list as it is then; and
while nothing is pending, everybody who has been in the lobby since the last change has
been sent the list as it is. -/
structure LosesNoUpdate (R : RoomServer → Input → RoomServer → Prop) : Prop where
  pending : ∀ store is σ, Run R (initial store) is σ → ∀ i τ, R σ i τ →
    τ.registry.waiting ≠ σ.registry.waiting → τ.manager.lobbySessions.size ≠ 0 →
      τ.manager.lobbyBroadcastPending = true
  timer : ∀ store is σ, Run R (initial store) is σ →
    σ.manager.lobbyTimerWaits = if σ.manager.lobbyBroadcastPending then 1 else 0
  fires : ∀ store is σ, Run R (initial store) is σ → ∀ τ, R σ (.lobbyTimer false) τ →
    ∃ response, Pushes σ τ response
  seen : ∀ store is σ, Run R (initial store) is σ → ∀ i τ, R σ i τ →
    τ.registry.waiting ≠ σ.registry.waiting → ∀ s, InLobby τ s →
      ∀ is' υ, Run (Lasts R s) τ is' υ → υ.manager.lobbyBroadcastPending = false →
        Occurs (Lasts R s) (PushedTo s υ.registry.waiting) τ is' υ

theorem size_ne_zero_of_inLobby {s : SessionPtr} (h : InLobby σ s) :
    σ.manager.lobbySessions.size ≠ 0 := by
  intro hempty
  have hmem : s ∈ σ.manager.lobbySessions.toSet := h.1
  rw [UnorderedSet.toSet_eq_empty hempty] at hmem
  exact hmem

theorem waiting_of_lasts {R : RoomServer → Input → RoomServer → Prop} {s : SessionPtr}
    {is : List Input} (h : Run (Lasts R s) σ is τ) :
    τ.registry.waiting = σ.registry.waiting := by
  refine h.relates (Q := fun x y => y.registry.waiting = x.registry.waiting)
    (fun _ => rfl) ?_ ?_
  · intro x y z hxy hyz
    exact hyz.trans hxy
  · intro x i y hstep
    exact hstep.2.2

/-- As long as the server is not stopped, and slot releases name a session, no update is
lost. -/
theorem losesNoUpdate_of_undisturbed (env : Env) :
    LosesNoUpdate (Guarded undisturbed (Step env)) := by
  have hpending : ∀ store is σ, Run (Guarded undisturbed (Step env)) (initial store) is σ →
      ∀ i τ, Guarded undisturbed (Step env) σ i τ →
        τ.registry.waiting ≠ σ.registry.waiting → τ.manager.lobbySessions.size ≠ 0 →
          τ.manager.lobbyBroadcastPending = true := by
    intro store is σ hrun i τ hstep hchanged hlobby
    rcases fires_or_notifies hstep (staged_of_run (fun _ _ _ => And.left) hrun) with ⟨-, rfl⟩ | hnotifies
    · exact absurd (waiting_lobbyTimer env false σ) hchanged
    · exact hnotifies.changes hchanged hlobby
  constructor
  · exact hpending
  · intro store is σ hrun
    exact wound_of_run hrun
  · intro store is σ hrun τ hstep
    obtain ⟨-, rfl⟩ := Option.ite_some_none_eq_some.1 hstep.1
    have hindexed := indexed_of_run (fun _ _ _ => And.left) hrun
    exact ⟨firstPage σ, pushes_lobbyTimer hindexed⟩
  · intro store is σ hrun i τ hstep hchanged s hs is' υ hlasts hidle
    have hτ := Run.snoc hrun hstep
    have hstart : τ.manager.lobbyBroadcastPending = true :=
      hpending store is σ hrun i τ hstep hchanged (size_ne_zero_of_inLobby hs)
    have hfinal := waiting_of_lasts hlasts
    -- the broadcast stays pending until the timer fires
    have hkept := hlasts.keeps_or_occurs
      (I := fun x => (x.registry.Staged env ∧ x.registry.Indexed env ∧ InLobby x s ∧
        x.registry.waiting = τ.registry.waiting) ∧ x.manager.lobbyBroadcastPending = true)
      (E := PushedTo s υ.registry.waiting) ?_
      ⟨⟨staged_of_run (fun _ _ _ => And.left) hτ, indexed_of_run (fun _ _ _ => And.left) hτ, hs, rfl⟩, hstart⟩
    · rcases hkept with ⟨-, hpending'⟩ | hoccurs
      · rw [hidle] at hpending'
        cases hpending'
      · exact hoccurs
    · rintro x j y ⟨hxy, hy, hsame⟩ ⟨⟨hstaged, hindexed, hx, hlist⟩, hx'⟩
      rcases fires_or_notifies hxy hstaged with ⟨rfl, rfl⟩ | hnotifies
      · refine Or.inr ⟨rfl, hx, firstPage x, pushes_lobbyTimer hindexed, ?_⟩
        rw [hfinal, ← hlist]
        exact shows_firstPage hindexed
      · refine Or.inl ⟨⟨staged_step hxy.1 hstaged, indexed_step hxy.1 hindexed, hy, ?_⟩, ?_⟩
        · rw [hsame, hlist]
        · exact hnotifies.keeps hx'

/-- A room is created while somebody is in the lobby, who sees it when the wait is over. -/
theorem losesNoUpdate_of_undisturbed_created : ∃ σ τ υ,
    Run (Guarded undisturbed (Step defaultEnv)) (initial {})
      [.connect 0 "10.0.0.1", .connect 1 "10.0.0.2"] σ ∧
    Guarded undisturbed (Step defaultEnv) σ
      (.clientMessage 0 (.createRoom ⟨"p", "P", "room", 4⟩)) τ ∧
    Occurs (Lasts (Guarded undisturbed (Step defaultEnv)) 1) (PushedTo 1 υ.registry.waiting) τ
      [.lobbyTimer false] υ := by
  obtain ⟨σ, hrun, hσ⟩ := exists_run_of_exec undisturbed (step defaultEnv) (initial {})
    [.connect 0 "10.0.0.1", .connect 1 "10.0.0.2"]
    (fun σ => σ.manager.rooms.values.isEmpty &&
      (step defaultEnv σ (.clientMessage 0 (.createRoom ⟨"p", "P", "room", 4⟩))).any fun τ : RoomServer =>
        ((τ.manager.rooms.find? "u").any fun room : Room => room.state == .waiting) &&
          (τ.manager.lobbySessions.contains 1 && decide ((τ.clients 1).lifetime = .alive)) &&
          (step defaultEnv τ (.lobbyTimer false)).any fun υ : RoomServer =>
            (υ.manager.lobbySessions.contains 1 && decide ((υ.clients 1).lifetime = .alive)) &&
              !υ.manager.lobbyBroadcastPending)
    (by decide +kernel)
  rw [Bool.and_eq_true, List.isEmpty_iff] at hσ
  obtain ⟨hempty, hσ⟩ := hσ
  obtain ⟨τ, hcreate, hτ⟩ := (Option.any_eq_true _ _).1 hσ
  simp only [Bool.and_eq_true, decide_eq_true_eq] at hτ
  obtain ⟨⟨hroom, hlobby⟩, hτ⟩ := hτ
  obtain ⟨υ, hfire, hυ⟩ := (Option.any_eq_true _ _).1 hτ
  simp only [Bool.and_eq_true, decide_eq_true_eq, Bool.not_eq_true'] at hυ
  obtain ⟨hlobby', hidle⟩ := hυ
  -- the list was empty, and has the room now
  have hchanged : τ.registry.waiting ≠ σ.registry.waiting := by
    obtain ⟨room, hroom, hstate⟩ := (Option.any_eq_true _ _).1 hroom
    intro heq
    have hmem : room.toRoomSummary ∈ τ.registry.waiting :=
      ⟨"u", room, hroom, beq_iff_eq.1 hstate, rfl⟩
    rw [heq] at hmem
    obtain ⟨r, room', hroom', -⟩ := hmem
    have hvalue := UnorderedMap.mem_values.2 ⟨r, hroom'⟩
    rw [hempty] at hvalue
    cases hvalue
  have hsame : υ.registry.waiting = τ.registry.waiting := by
    obtain ⟨-, rfl⟩ := Option.ite_some_none_eq_some.1 hfire
    exact waiting_lobbyTimer defaultEnv false τ
  exact ⟨σ, τ, υ, hrun, ⟨hcreate, rfl⟩,
    (losesNoUpdate_of_undisturbed defaultEnv).seen {} _ σ hrun _ τ ⟨hcreate, rfl⟩ hchanged 1
      hlobby [.lobbyTimer false] υ (Run.single ⟨⟨hfire, rfl⟩, hlobby', hsame⟩) hidle⟩

end Room

end SosBackend
