import SosBackend.Room.Session

/-!
# Redis behind the Room Server

`replaceRedis` puts another Redis behind the server, and other answers to the game servers,
and leaves everything else. What the server does without asking Redis it does with any of
them: the handlers of the manager commute with the replacement, but for the start and the end
of a session.
-/

namespace SosBackend

namespace Room

/-- A Redis, and what the game servers have been answered. -/
abbrev Outside := Redis.Client × List (SessionPtr × Envelope)

namespace RoomServer

def outside (σ : RoomServer) : Outside :=
  (σ.backend.redis, σ.replies)

def replaceRedis (σ : RoomServer) (o : Outside) : RoomServer :=
  { σ with backend := { σ.backend with redis := o.1 }, replies := o.2 }

variable (σ : RoomServer) (o : Outside)

theorem replaceRedis_self : σ.replaceRedis σ.outside = σ := rfl

@[simp] theorem manager_replaceRedis : (σ.replaceRedis o).manager = σ.manager := rfl

@[simp] theorem clients_replaceRedis : (σ.replaceRedis o).clients = σ.clients := rfl

@[simp] theorem lock_replaceRedis (p : String) : (σ.replaceRedis o).lock p = σ.lock p := rfl

/-!
## Sending and the lobby
-/

theorem sendTo_replaceRedis (p : String) (envelope : Envelope) :
    (σ.replaceRedis o).sendTo p envelope = (σ.sendTo p envelope).replaceRedis o := by
  unfold sendTo
  rw [lock_replaceRedis]
  cases σ.lock p with
  | none => rfl
  | some s => rfl

theorem foldl_replaceRedis {α : Type*} {f : RoomServer → α → RoomServer}
    (hf : ∀ (σ : RoomServer) a, f (σ.replaceRedis o) a = (f σ a).replaceRedis o) (l : List α) :
    l.foldl f (σ.replaceRedis o) = (l.foldl f σ).replaceRedis o := by
  induction l generalizing σ with
  | nil => rfl
  | cons a l ih => rw [List.foldl_cons, List.foldl_cons, hf, ih]

theorem broadcast_replaceRedis (ids : List String) (envelope : Envelope) :
    (σ.replaceRedis o).broadcast ids envelope = (σ.broadcast ids envelope).replaceRedis o :=
  foldl_replaceRedis σ o (fun σ p => sendTo_replaceRedis σ o p envelope) ids

theorem broadcastToRoom_replaceRedis (room : Room) (envelope : Envelope) :
    (σ.replaceRedis o).broadcastToRoom room envelope =
      (σ.broadcastToRoom room envelope).replaceRedis o :=
  broadcast_replaceRedis σ o _ envelope

theorem broadcastToRoomExcept_replaceRedis (room : Room) (envelope : Envelope) (p : String) :
    (σ.replaceRedis o).broadcastToRoomExcept room envelope p =
      (σ.broadcastToRoomExcept room envelope p).replaceRedis o :=
  broadcast_replaceRedis σ o _ envelope

theorem notifyRoomListChanged_replaceRedis :
    (σ.replaceRedis o).notifyRoomListChanged = σ.notifyRoomListChanged.replaceRedis o := by
  unfold notifyRoomListChanged
  rw [manager_replaceRedis]
  split
  · rfl
  split
  · rfl
  · rfl

theorem returnToLobby_replaceRedis (p : String) :
    (σ.replaceRedis o).returnToLobby p = (σ.returnToLobby p).replaceRedis o := by
  unfold returnToLobby
  rw [lock_replaceRedis]
  cases σ.lock p with
  | none => rfl
  | some s => rfl

theorem evictPlayers_replaceRedis (ids : List String) :
    (σ.replaceRedis o).evictPlayers ids = (σ.evictPlayers ids).replaceRedis o := by
  refine foldl_replaceRedis σ o (fun σ p => ?_) ids
  rw [returnToLobby_replaceRedis]
  rfl

theorem removeRoom_replaceRedis (r p : String) :
    (σ.replaceRedis o).removeRoom r p = (σ.removeRoom r p).replaceRedis o := by
  unfold removeRoom
  rw [manager_replaceRedis]
  cases σ.manager.rooms.find? r with
  | none => rfl
  | some room =>
      simp only
      rw [broadcastToRoomExcept_replaceRedis, evictPlayers_replaceRedis]
      rfl

theorem broadcastRoomListToLobby_replaceRedis :
    (σ.replaceRedis o).broadcastRoomListToLobby =
      σ.broadcastRoomListToLobby.replaceRedis o := by
  unfold broadcastRoomListToLobby
  rw [manager_replaceRedis]
  split
  · rfl
  · have hwaiting : (σ.replaceRedis o).waitingRooms = σ.waitingRooms := rfl
    simp only [hwaiting, clients_replaceRedis]
    rw [foldl_replaceRedis, foldl_replaceRedis]
    · exact fun σ s => rfl
    · exact fun σ s => rfl

theorem lobbyTimerHandler_replaceRedis (cancelled : Bool) :
    (σ.replaceRedis o).lobbyTimerHandler cancelled =
      (σ.lobbyTimerHandler cancelled).replaceRedis o := by
  unfold lobbyTimerHandler
  simp only
  split
  · rfl
  · exact broadcastRoomListToLobby_replaceRedis
      { σ with manager := { σ.manager with
        lobbyBroadcastPending := false
        lobbyTimerWaits := σ.manager.lobbyTimerWaits - 1 } } o

/-!
## The link to the Chat Server
-/

theorem sendToChat_replaceRedis (message : Chat.ChatEnvelope) :
    (σ.replaceRedis o).withBackend (Backend.sendToChat message) =
      (σ.withBackend (Backend.sendToChat message)).replaceRedis o := by
  have hsend : ∀ b : Backend, ({ b with redis := o.1 } : Backend).sendToChat message =
      { b.sendToChat message with redis := o.1 } := by
    intro b
    unfold Backend.sendToChat
    simp only
    split
    · rfl
    · rfl
  unfold withBackend replaceRedis
  rw [hsend]

/-!
## Rooms
-/

theorem handleCreateRoom_replaceRedis (env : Env) (request : CreateRoomRequest)
    (s : SessionPtr) :
    (σ.replaceRedis o).handleCreateRoom env request s =
      (σ.handleCreateRoom env request s).replaceRedis o := by
  have hreject : (σ.replaceRedis o).createRejection env request s =
      σ.createRejection env request s := rfl
  unfold handleCreateRoom
  rw [hreject]
  cases σ.createRejection env request s with
  | some reject => rfl
  | none =>
      simp only
      rw [← notifyRoomListChanged_replaceRedis]
      rfl

theorem handleJoinRoom_replaceRedis (request : JoinRoomRequest) (s : SessionPtr) :
    (σ.replaceRedis o).handleJoinRoom request s =
      (σ.handleJoinRoom request s).replaceRedis o := by
  have hjoin : (σ.replaceRedis o).joinableRoom request s = σ.joinableRoom request s := rfl
  unfold handleJoinRoom
  rw [hjoin]
  cases σ.joinableRoom request s with
  | error reject => rfl
  | ok room =>
      simp only
      rw [← notifyRoomListChanged_replaceRedis, ← broadcastToRoomExcept_replaceRedis]
      rfl

theorem handleLeaveRoom_replaceRedis (p : String) :
    (σ.replaceRedis o).handleLeaveRoom p = (σ.handleLeaveRoom p).replaceRedis o := by
  unfold handleLeaveRoom
  rw [manager_replaceRedis]
  split
  · rfl
  split
  · rfl
  simp only
  rw [← notifyRoomListChanged_replaceRedis]
  split
  · rw [← removeRoom_replaceRedis]
    rfl
  split
  · rw [← broadcastToRoom_replaceRedis]
    rfl
  · rfl

theorem handleToggleReady_replaceRedis (p : String) :
    (σ.replaceRedis o).handleToggleReady p = (σ.handleToggleReady p).replaceRedis o := by
  unfold handleToggleReady
  rw [manager_replaceRedis]
  split
  · rfl
  split
  · rfl
  split
  · rfl
  · simp only
    rw [← broadcastToRoom_replaceRedis]
    rfl

theorem handleRoomListRequest_replaceRedis (request : RoomListRequest) (s : SessionPtr) :
    (σ.replaceRedis o).handleRoomListRequest request s =
      (σ.handleRoomListRequest request s).replaceRedis o := rfl

theorem handleDisconnect_replaceRedis (p : String) :
    (σ.replaceRedis o).handleDisconnect p = (σ.handleDisconnect p).replaceRedis o := by
  unfold handleDisconnect
  rw [handleLeaveRoom_replaceRedis]
  rfl

theorem closeClient_replaceRedis (s : SessionPtr) :
    (σ.replaceRedis o).closeClient s = (σ.closeClient s).replaceRedis o := by
  have hlobby : ((σ.replaceRedis o).updateClient s fun c =>
      { c with closed := true }).removeLobbySession s =
        ((σ.updateClient s fun c => { c with closed := true }).removeLobbySession
          s).replaceRedis o := rfl
  unfold closeClient
  rw [clients_replaceRedis]
  split
  · rfl
  simp only
  rw [hlobby, clients_replaceRedis]
  split
  · rw [handleDisconnect_replaceRedis]
    rfl
  · rfl

end RoomServer

/-!
## Tokens
-/

theorem uuidsIssued_beginSession (env : Env) (sid : String) (σ : RoomServer) :
    (σ.beginSession env sid).backend.uuidsIssued = σ.backend.uuidsIssued := by
  unfold RoomServer.beginSession
  split
  · rfl
  · rfl

/-- A token is stored under the next identifier, or the call throws. -/
theorem createToken_eq (env : Env) (store : SessionStore) (p sid : String) (b : Backend) :
    b.createToken env store p sid =
      ((b.redis.call env.outcome (Redis.setex ("token:" ++ env.uuid b.uuidsIssued)
          (env.dumpToken ⟨p, sid⟩) store.tokenTtl)).1.map fun _ => env.uuid b.uuidsIssued,
        { b with
          uuidsIssued := b.uuidsIssued + 1
          redis := (b.redis.call env.outcome (Redis.setex ("token:" ++ env.uuid b.uuidsIssued)
            (env.dumpToken ⟨p, sid⟩) store.tokenTtl)).2 }) := by
  simp only [Backend.createToken, Backend.generateUuid, Backend.redisCall]
  cases b.redis.call env.outcome (Redis.setex ("token:" ++ env.uuid b.uuidsIssued)
      (env.dumpToken ⟨p, sid⟩) store.tokenTtl) with
  | mk reply redis =>
      cases reply with
      | none => rfl
      | some reply => rfl

end Room

end SosBackend
