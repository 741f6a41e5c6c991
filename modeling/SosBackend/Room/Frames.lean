import SosBackend.Chat.Directory
import SosBackend.Room.Closing
import SosBackend.Room.FrameSize
import SosBackend.Room.LobbyPush

/-!
# Frames that the receiver refuses

A codec takes no frame of more than `MAX_MESSAGE_SIZE`, and none keeps what it encodes
below that. What carries rooms fits as long as no request makes it too long: a room that
is created, joined or made ready, and the list of a page. The rest follows, for a room that
has been sent once has fitted then: the updates that tell of a departure fit, and what the
Chat Server is told of a session does.
-/

namespace SosBackend

namespace Room

open RoomServer Protocol
open Proto3 (stringSize uintSize varintSize size_string size_uint size_message)

/-- `RoomListResponse`, `RoomUpdate` and the answers to `CreateRoom` and `JoinRoom`. -/
def Envelope.carriesRooms : Envelope → Bool
  | .createRoomResponse _ => true
  | .joinRoomResponse _ => true
  | .roomListResponse _ => true
  | .roomUpdate _ => true
  | _ => false

/-- All that has been written so far arrives, and a session that is created has its channel
once the Chat Server has taken the message off the link. -/
structure FramesArrive (P : ProtoMessage Envelope) (Q : ProtoMessage Chat.ChatEnvelope)
    (σ : RoomServer) : Prop where
  clients : ∀ d ∈ σ.sent, d.envelope.carriesRooms = true → Arrives P d.envelope
  chat : ∀ m ∈ σ.backend.chat.sent, Arrives Q m
  opens : ∀ created, .sessionCreated created ∈ σ.backend.chat.sent →
    ∀ (env : Chat.Env) (χ : Chat.ChatServer) (rest : List UInt8), ∃ m,
      tryDecode Q ⟨encode Q (.sessionCreated created) ++ rest⟩ = (some m, ⟨rest⟩) ∧
      (χ.processInternalMessage env m).directory.channels created.sessionId =
        some ⟨∅, {p | ∃ player ∈ created.players, player.playerId = p}⟩

/-- The identifiers that have been drawn are those of `generateUuid`, and the generated
classes do what is documented with the messages that have been written. -/
structure OnTheWire (env : Env) (P : ProtoMessage Envelope)
    (Q : ProtoMessage Chat.ChatEnvelope) (σ : RoomServer) : Prop where
  drawn : ∀ n < σ.backend.uuidsIssued, ∃ data₀ data₁ data₂ data₃,
    env.uuid n = generateUuid data₀ data₁ data₂ data₃
  clients : ∀ d ∈ σ.sent, d.envelope.carriesRooms = true →
    Conforms P Envelope.fields d.envelope
  chat : ∀ m ∈ σ.backend.chat.sent, Conforms Q Chat.ChatEnvelope.fields m

/-- The messages of clients came in frames that the codec takes. -/
def Received (P : ProtoMessage Envelope) (is : List Input) : Prop :=
  ∀ s envelope, .clientMessage s envelope ∈ is →
    ∃ body, body.length ≤ maxMessageSize.toNat ∧ P.parseFromArray body = some envelope

/-- Whatever clients send, all that is written arrives. -/
def AlwaysArrives (env : Env) (P : ProtoMessage Envelope)
    (Q : ProtoMessage Chat.ChatEnvelope) : Prop :=
  ∀ store is σ, Run (Step env) (initial store) is σ → Received P is → OnTheWire env P Q σ →
    FramesArrive P Q σ

/-!
## The requests that make a message too long
-/

/-- The rooms on the page that a client asks for. -/
def requestedRooms (σ : RoomServer) (request : RoomListRequest) : List Room :=
  let pageSize := if request.pageSize = 0 then 20 else request.pageSize
  let pageSize := if 100 < pageSize then 100 else pageSize
  let offset := request.page * pageSize
  (σ.waitingRooms.take
    (min (UInt32.ofNat σ.waitingRooms.length) (offset + pageSize)).toNat).drop offset.toNat

/-- The rooms that are pushed to the lobby. -/
def pushedRooms (σ : RoomServer) : List Room :=
  σ.waitingRooms.take
    (min (UInt32.ofNat σ.waitingRooms.length) lobbyBroadcastPageSize).toNat

/-- The request is accepted, and the strings of the room or the rooms that it makes the
server write take up too many bytes. -/
def overflows (env : Env) (σ : RoomServer) : Input → Bool
  | .clientMessage s envelope => !limited env σ s &&
      match envelope with
      | .createRoom request => (σ.createRejection env request s).isNone &&
          decide (responseLimit < (Room.create (env.uuid σ.backend.uuidsIssued)
            request.roomName request.playerId request.playerName request.maxPlayers).bytes)
      | .joinRoom request =>
          match σ.joinableRoom request s with
          | .error _ => false
          | .ok room => decide
              (responseLimit < (room.addPlayer request.playerId request.playerName).2.bytes)
      | .toggleReady => (σ.clients s).playerId != "" &&
          match (σ.manager.playerToRoom.find? (σ.clients s).playerId).bind
            σ.manager.rooms.find? with
          | none => false
          | some room => !room.isHost (σ.clients s).playerId &&
              decide (updateLimit < (room.toggleReady (σ.clients s).playerId).bytes)
      | .roomListRequest request => decide (listLimit <
          pageBytes (requestedRooms σ request) (UInt32.ofNat σ.waitingRooms.length))
      | _ => false
  | .lobbyTimer cancelled => !cancelled &&
      (σ.manager.lobbySessions.keyList.any fun s => (σ.clients s).lifetime == .alive) &&
      decide (listLimit < pageBytes (pushedRooms σ) (UInt32.ofNat σ.waitingRooms.length))
  | _ => false

/-- A step that makes no message too long. -/
def FittingStep (env : Env) (σ : RoomServer) (i : Input) (τ : RoomServer) : Prop :=
  Step env σ i τ ∧ overflows env σ i = false

/-!
## What the handlers send
-/

/-- The message is no longer than the receiver takes, if it carries rooms. -/
def Fits (d : Delivery) : Prop :=
  d.envelope.carriesRooms = true →
    Proto3.size d.envelope.fields ≤ maxMessageSize.toNat

variable {env : Env} {σ τ : RoomServer} {s : SessionPtr} {p : String}

theorem fits_of_not_carriesRooms {addressee : Option String} {envelope : Envelope}
    (h : envelope.carriesRooms = false) : Fits ⟨s, addressee, envelope⟩ := by
  intro hcarries
  cases h.symm.trans hcarries

theorem fits_roomUpdate {addressee : Option String} {room : Room}
    (h : room.bytes ≤ updateLimit) : Fits ⟨s, addressee, .roomUpdate room.toRoomInfo⟩ :=
  fun _ => (size_roomUpdate_le_iff room).2 h

theorem fits_handleCreateRoom {request : CreateRoomRequest}
    (h : σ.createRejection env request s = none →
      (Room.create (env.uuid σ.backend.uuidsIssued) request.roomName request.playerId
        request.playerName request.maxPlayers).bytes ≤ responseLimit) :
    Emits Fits σ (σ.handleCreateRoom env request s) := by
  cases hreject : σ.createRejection env request s with
  | some reject =>
      simp only [handleCreateRoom, hreject]
      exact (Emits.refl σ).send (fits_of_not_carriesRooms rfl)
  | none =>
      simp only [handleCreateRoom, hreject]
      apply Emits.notify
      apply (Emits.of_sent_eq rfl).send
      intro _
      exact (size_roomResponse_le_iff (by decide) _).2 (h hreject)

theorem fits_handleJoinRoom {request : JoinRoomRequest}
    (h : ∀ room, σ.joinableRoom request s = .ok room →
      (room.addPlayer request.playerId request.playerName).2.bytes ≤ responseLimit) :
    Emits Fits σ (σ.handleJoinRoom request s) := by
  cases hjoin : σ.joinableRoom request s with
  | error reject =>
      simp only [handleJoinRoom, hjoin]
      exact (Emits.refl σ).send (fits_of_not_carriesRooms rfl)
  | ok room =>
      have hbytes := h room hjoin
      have hupdate : (room.addPlayer request.playerId request.playerName).2.bytes ≤
          updateLimit := hbytes.trans (by decide)
      simp only [handleJoinRoom, hjoin]
      apply Emits.notify
      apply Emits.broadcast
      · apply (Emits.of_sent_eq rfl).send
        intro _
        exact (size_roomResponse_le_iff (by decide) _).2 hbytes
      · intro q _ t
        exact fits_roomUpdate hupdate

theorem fits_handleLeaveRoom
    (h : ∀ r room, σ.manager.playerToRoom.find? p = some r →
      σ.manager.rooms.find? r = some room → (room.removePlayer p).bytes ≤ updateLimit) :
    Emits Fits σ (σ.handleLeaveRoom p) := by
  cases hp : σ.manager.playerToRoom.find? p with
  | none =>
      simp only [handleLeaveRoom, hp]
      exact Emits.refl σ
  | some r =>
  cases hroom : σ.manager.rooms.find? r with
  | none =>
      simp only [handleLeaveRoom, hp, hroom]
      exact Emits.of_sent_eq rfl
  | some room =>
      have hbytes := h r room hp hroom
      simp only [handleLeaveRoom, hp, hroom]
      apply Emits.notify
      split
      · apply emits_removeRoom (Emits.of_sent_eq rfl)
        intro q t
        exact fits_of_not_carriesRooms rfl
      · split
        · apply (Emits.of_sent_eq rfl).broadcast
          intro q _ t
          exact fits_roomUpdate hbytes
        · exact Emits.of_sent_eq rfl

theorem fits_handleToggleReady
    (h : ∀ r room, σ.manager.playerToRoom.find? p = some r →
      σ.manager.rooms.find? r = some room → room.isHost p = false →
      (room.toggleReady p).bytes ≤ updateLimit) :
    Emits Fits σ (σ.handleToggleReady p) := by
  cases hp : σ.manager.playerToRoom.find? p with
  | none =>
      simp only [handleToggleReady, hp]
      exact Emits.refl σ
  | some r =>
  cases hroom : σ.manager.rooms.find? r with
  | none =>
      simp only [handleToggleReady, hp, hroom]
      exact Emits.refl σ
  | some room =>
  cases hhost : room.isHost p with
  | true =>
      simp only [handleToggleReady, hp, hroom, hhost, if_true]
      exact Emits.refl σ
  | false =>
      simp only [handleToggleReady, hp, hroom, hhost, Bool.false_eq_true, if_false]
      apply (Emits.of_sent_eq rfl).broadcast
      intro q _ t
      exact fits_roomUpdate (h r room hp hroom hhost)

/-- A start sends no rooms. -/
theorem fits_handleStartGame : Emits Fits σ (σ.handleStartGame env p) := by
  apply emits_handleStartGame
  · intro q t reject
    exact fits_of_not_carriesRooms rfl
  · intro q t game
    exact fits_of_not_carriesRooms rfl

theorem fits_handleRoomListRequest {request : RoomListRequest}
    (h : pageBytes (requestedRooms σ request) (UInt32.ofNat σ.waitingRooms.length) ≤
      listLimit) : Emits Fits σ (σ.handleRoomListRequest request s) := by
  apply (Emits.refl σ).send
  intro _
  exact (size_roomListResponse_le_iff _ _).2 h

/-- Closing a session is leaving the room of its player. -/
theorem fits_closeClient
    (h : ∀ r room, σ.manager.playerToRoom.find? (σ.clients s).playerId = some r →
      σ.manager.rooms.find? r = some room →
      (room.removePlayer (σ.clients s).playerId).bytes ≤ updateLimit) :
    Emits Fits σ (σ.closeClient s) := by
  apply emits_closeClient
  apply fits_handleLeaveRoom
  exact h

theorem fits_lobbyTimerHandler {cancelled : Bool} (hindexed : σ.registry.Indexed env)
    (h : overflows env σ (.lobbyTimer cancelled) = false) :
    Emits Fits σ (σ.lobbyTimerHandler cancelled) := by
  cases cancelled with
  | true => exact Emits.of_sent_eq rfl
  | false =>
      obtain ⟨ids, -, hids, hsent⟩ := (pushes_lobbyTimer hindexed).sent
      refine ⟨_, hsent, ?_⟩
      intro d hd
      obtain ⟨t, ht, rfl⟩ := List.mem_map.1 hd
      -- somebody is in the lobby, so the list is short enough
      obtain ⟨hlobby, halive⟩ := (hids t).1 ht
      have hreceiver : (σ.manager.lobbySessions.keyList.any fun s =>
          (σ.clients s).lifetime == .alive) = true := by
        rw [List.any_eq_true]
        exact ⟨t, UnorderedMap.mem_keyList.2 hlobby, beq_iff_eq.2 halive⟩
      intro _
      apply (size_roomListResponse_le_iff (pushedRooms σ) _).2
      simpa [overflows, hreceiver] using h

/-!
## The rooms
-/

/-- A room fits into an update before its game, and the session id it may have has been
drawn for it. -/
structure Registry.Sized (env : Env) (v : Registry) : Prop where
  fits : ∀ r room, v.rooms r = some room → room.waitingBytes ≤ updateLimit
  session : ∀ r room, v.rooms r = some room → room.sessionId = "" ∨
    ∃ n < v.issued, room.sessionId = env.uuid n

/-- A room that a change makes or alters has not become too long. -/
theorem waitingBytes_change {i : Input} {x y : RoomServer} {a : Action} {r : String}
    {room : Room} (h : Change env σ i x a y) (hfits : overflows env σ i = false)
    (hpass : ∀ t envelope, i = .clientMessage t envelope → limited env σ t = false)
    (hx : x.registry.Sized env) (hroom : y.registry.rooms r = some room) :
    room.waitingBytes ≤ updateLimit := by
  have hact := h.1.act
  have hcause := h.2
  have hlimits : responseLimit ≤ updateLimit := by decide
  rcases hact.room_inv hroom with hstart | ⟨room', hroom', hstep⟩
  · cases hstart with
    | @create request t =>
        obtain ⟨hi, hlimited, hreg, haccept⟩ := hcause
        have hr : r = env.uuid σ.backend.uuidsIssued := by
          rw [hact.create_inv, hreg]
          rfl
        have hbytes := (Room.create r request.roomName request.playerId request.playerName
          request.maxPlayers).waitingBytes_le
        simp [hi, overflows, hlimited, haccept, ← hr] at hfits
        omega
  · have hfits' := hx.fits r room' hroom'
    cases hstep with
    | keep => exact hfits'
    | @join request t hr hstate hfull =>
        obtain ⟨hi, hlimited, hreg, room'', hjoin⟩ := hcause
        have hsame : room'' = room' := by
          have hfound := (of_joinableRoom_eq_ok hjoin).2.1
          rw [hr, ← hreg, hroom'] at hfound
          exact (Option.some.inj hfound).symm
        cases hsame
        have hbytes := (room'.addPlayer request.playerId request.playerName).2.waitingBytes_le
        simp [hi, overflows, hlimited, hjoin] at hfits
        omega
    | leave hhost => exact (room'.waitingBytes_removePlayer_le _).trans hfits'
    | @toggle q hhost =>
        obtain ⟨t, hi, hplayer, hne, hreg⟩ := hcause
        have hlimited := hpass t _ hi
        have hindex : σ.manager.playerToRoom.find? q = some r := by
          have hp := hact.toggle_inv
          rw [hreg] at hp
          exact hp
        have hfound : σ.manager.rooms.find? r = some room' := by
          rw [hreg] at hroom'
          exact hroom'
        have hbytes := (room'.toggleReady q).waitingBytes_le
        simp [hi, overflows, hlimited, hplayer, hne, hindex, hfound, hhost] at hfits
        omega
    | start hhost hready => exact hfits'
    | release hcount => exact (room'.waitingBytes_removePlayer_le _).trans hfits'

theorem sized_change {i : Input} {x y : RoomServer} {a : Action}
    (h : Change env σ i x a y) (hfits : overflows env σ i = false)
    (hpass : ∀ t envelope, i = .clientMessage t envelope → limited env σ t = false)
    (hx : x.registry.Sized env) : y.registry.Sized env := by
  have hact := h.1.act
  constructor
  · intro r room hroom
    exact waitingBytes_change h hfits hpass hx hroom
  · intro r room hroom
    have hkeep : ∀ room', x.registry.rooms r = some room' → room.sessionId = room'.sessionId →
        room.sessionId = "" ∨ ∃ n < y.registry.issued, room.sessionId = env.uuid n := by
      intro room' hroom' hsame
      rw [hsame]
      rcases hx.session r room' hroom' with hempty | ⟨n, hn, hsid⟩
      · exact Or.inl hempty
      · exact Or.inr ⟨n, hn.trans_le hact.issued_le, hsid⟩
    rcases hact.room_inv hroom with hstart | ⟨room', hroom', hstep⟩
    · cases hstart
      exact Or.inl rfl
    · cases hstep with
      | keep => exact hkeep room hroom' rfl
      | join hr hstate hfull => exact hkeep room' hroom' (Room.sessionId_addPlayer _ _ _)
      | leave hhost => exact hkeep room' hroom' rfl
      | toggle hhost => exact hkeep room' hroom' (Room.sessionId_toggleReady _ _)
      | start hhost hready =>
          obtain ⟨-, hsid, hissued, -⟩ := hact.start_inv
          exact Or.inr ⟨_, hissued, hsid⟩
      | release hcount => exact hkeep room' hroom' rfl

/-!
## What the Chat Server is told
-/

/-- What the Chat Server has been told fits. -/
def ChatFits (σ : RoomServer) : Prop :=
  ∀ m ∈ σ.backend.chat.sent, Proto3.size m.fields ≤ maxMessageSize.toNat

/-- A session that starts has the roster of a room that fits, and its identifier is as long
as that of the room. -/
theorem fits_announcement {v w : Registry} {a : Action} (hact : Act env v a w)
    (hindexed : v.Indexed env) (hsized : v.Sized env)
    (hdrawn : ∀ n < w.issued, (env.uuid n).utf8ByteSize = 36) :
    ∀ m ∈ a.announcement v, Proto3.size m.fields ≤ maxMessageSize.toNat := by
  intro m hm
  have hended : ∀ sid, a.ended v = some sid → ∀ m ∈ (if sid != "" then
      [Chat.ChatEnvelope.sessionEnded ⟨sid⟩] else []),
        Proto3.size m.fields ≤ maxMessageSize.toNat := by
    intro sid hsid m hm
    have hroom : ∃ r room, v.rooms r = some room ∧ room.sessionId = sid := by
      cases a with
      | releaseLast p r =>
          obtain ⟨room, hroom, hid⟩ := Option.map_eq_some_iff.1 hsid
          exact ⟨r, room, hroom, hid⟩
      | endGame r =>
          obtain ⟨room, hroom, hid⟩ := Option.map_eq_some_iff.1 hsid
          exact ⟨r, room, hroom, hid⟩
      | _ => cases hsid
    obtain ⟨r, room, hroom, hid⟩ := hroom
    split at hm
    · next hne =>
        cases List.mem_singleton.1 hm
        rcases hsized.session r room hroom with hempty | ⟨n, hn, huuid⟩
        · simp [← hid, hempty] at hne
        · apply size_sessionEnded_le
          rw [← hid, huuid]
          exact hdrawn n (hn.trans_le hact.issued_le)
    · cases hm
  cases a with
  | start p r sid =>
      obtain ⟨-, hsid, hissued, room, hroom, -⟩ := hact.start_inv
      simp only [Action.announcement, hroom, List.mem_singleton] at hm
      rw [hm]
      apply size_sessionCreated_le ?_ (hsized.fits r room hroom)
      obtain ⟨n, hn, hr⟩ := hindexed.issued r room hroom
      rw [hindexed.keyed r room hroom, hr, hsid,
        stringSize_of_utf8ByteSize (hdrawn _ hissued),
        stringSize_of_utf8ByteSize (hdrawn n (hn.trans hissued))]
  | releaseLast p r =>
      simp only [Action.announcement] at hm
      split at hm
      · cases hm
      · next sid hsid => exact hended sid hsid m hm
  | endGame r =>
      simp only [Action.announcement] at hm
      split at hm
      · cases hm
      · next sid hsid => exact hended sid hsid m hm
  | _ => cases hm

theorem mem_chatAfter {v : Registry} {a : Action} {chat : ChatServerChannel}
    {m : Chat.ChatEnvelope} (hm : m ∈ (a.chatAfter env v chat).sent) :
    m ∈ chat.sent ∨ m ∈ a.announcement v := by
  cases a
  case link connected => exact Or.inl hm
  all_goals
    simp only [Action.chatAfter] at hm
    split at hm
    · exact List.mem_append.1 hm
    · exact Or.inl hm

theorem chatFits_effect {x y : RoomServer} {a : Action} (h : Effect env x a y)
    (hindexed : x.registry.Indexed env) (hsized : x.registry.Sized env) (hx : ChatFits x)
    (hdrawn : ∀ n < y.registry.issued, (env.uuid n).utf8ByteSize = 36) : ChatFits y := by
  intro m hm
  rw [h.chat] at hm
  rcases mem_chatAfter hm with hold | hnew
  · exact hx m hold
  · exact fits_announcement h.act hindexed hsized hdrawn m hnew

/-!
## Steps
-/

/-- What has been written fits, and what will be written of the rooms as they are. -/
structure Fitting (env : Env) (σ : RoomServer) : Prop where
  indexed : σ.registry.Indexed env
  sized : σ.registry.Sized env
  chat : ChatFits σ

theorem fitting_changes {i : Input} {x y : RoomServer} {as : List Action}
    (hrun : Run (Change env σ i) x as y) (hfits : overflows env σ i = false)
    (hpass : ∀ t envelope, i = .clientMessage t envelope → limited env σ t = false)
    (hx : Fitting env x) (hdrawn : ∀ n < y.registry.issued, (env.uuid n).utf8ByteSize = 36) :
    Fitting env y := by
  induction hrun with
  | nil => exact hx
  | snoc hrun hchange ih =>
      have hle := hchange.1.act.issued_le
      have hfitting := ih fun n hn => hdrawn n (hn.trans_le hle)
      constructor
      · exact hfitting.indexed.act hchange.1.act
      · exact sized_change hchange hfits hpass hfitting.sized
      · exact chatFits_effect hchange.1 hfitting.indexed hfitting.sized hfitting.chat hdrawn

/-- A player that leaves its room leaves it with less. -/
theorem Fitting.bytes_removePlayer (h : Fitting env σ) {r : String} {room : Room}
    (hp : σ.registry.playerToRoom p = some r) (hroom : σ.registry.rooms r = some room) :
    (room.removePlayer p).bytes ≤ updateLimit :=
  (Room.bytes_removePlayer_le (h.indexed.mem_of_index hp hroom)).trans (h.sized.fits r room hroom)

theorem fitting_closeClient {x : RoomServer} (h : Fitting env x) (s : SessionPtr)
    (hdrawn : ∀ n < (x.closeClient s).registry.issued, (env.uuid n).utf8ByteSize = 36) :
    Fitting env (x.closeClient s) ∧ Emits Fits x (x.closeClient s) := by
  constructor
  · cases hclosed : (x.clients s).closed with
    | true =>
        have hstay : x.closeClient s = x := if_pos hclosed
        rw [hstay]
        exact h
    | false =>
        have hclose : ∃ as, Run (Change env x (.clientClose s)) x as (x.closeClient s) :=
          run_closeClient rfl rfl rfl hclosed
        obtain ⟨as, hrun⟩ := hclose
        apply fitting_changes hrun rfl ?_ h hdrawn
        intro t envelope hi
        cases hi
  · apply fits_closeClient
    intro r room hp hroom
    exact h.bytes_removePlayer hp hroom

/-- A message that the rate limiter lets through, behind the limiter. -/
theorem fits_dispatch {b : Backend} {envelope : Envelope}
    (hissued : b.uuidsIssued = σ.backend.uuidsIssued) (hpass : limited env σ s = false)
    (h : overflows env σ (.clientMessage s envelope) = false) (hσ : Fitting env σ) :
    Emits Fits σ (RoomServer.dispatch env s envelope { σ with backend := b }) := by
  have hx : Emits Fits σ ({ σ with backend := b } : RoomServer) := Emits.of_sent_eq rfl
  cases envelope with
  | createRoom request =>
      apply hx.trans
      apply fits_handleCreateRoom
      intro haccept
      have haccept' : σ.createRejection env request s = none := haccept
      simpa [overflows, hpass, haccept', hissued] using h
  | joinRoom request =>
      apply hx.trans
      apply fits_handleJoinRoom
      intro room hjoin
      have hjoin' : σ.joinableRoom request s = .ok room := hjoin
      simpa [overflows, hpass, hjoin'] using h
  | leaveRoom =>
      simp only [dispatch]
      split
      · apply Emits.notify
        apply Emits.trans ?_ (Emits.of_sent_eq rfl)
        apply hx.trans
        apply fits_handleLeaveRoom
        intro r room hp hroom
        exact hσ.bytes_removePlayer hp hroom
      · exact hx
  | toggleReady =>
      simp only [dispatch]
      split
      · next hne =>
          apply hx.trans
          apply fits_handleToggleReady
          intro r room hp hroom hhost
          have hp' : σ.manager.playerToRoom.find? (σ.clients s).playerId = some r := hp
          have hroom' : σ.manager.rooms.find? r = some room := hroom
          have hhost' : room.isHost (σ.clients s).playerId = false := hhost
          have hne' : (σ.clients s).playerId ≠ "" := by simpa using hne
          simpa [overflows, hpass, hp', hroom', hhost', hne'] using h
      · exact hx
  | startGame =>
      simp only [dispatch]
      split
      · exact hx.trans fits_handleStartGame
      · exact hx
  | roomListRequest request =>
      have hpage : pageBytes (requestedRooms σ request) (UInt32.ofNat σ.waitingRooms.length) ≤
          listLimit := by
        simpa [overflows, hpass] using h
      apply hx.trans
      apply fits_handleRoomListRequest
      exact hpage
  | _ => exact hx

theorem fitting_step {i : Input} (h : FittingStep env σ i τ) (hσ : Fitting env σ)
    (hdrawn : ∀ n < τ.registry.issued, (env.uuid n).utf8ByteSize = 36) :
    Fitting env τ ∧ Emits Fits σ τ := by
  obtain ⟨hstep, hfits⟩ := h
  -- unless the rate limiter refuses a message, the step is a run of changes that fit
  have hpassed : (∀ t envelope, i = .clientMessage t envelope → limited env σ t = false) →
      Fitting env τ := by
    intro hpass
    obtain ⟨as, hrun⟩ := run_step hstep
    exact fitting_changes hrun hfits hpass hσ hdrawn
  cases i with
  | clientMessage s envelope =>
      obtain ⟨-, rfl⟩ := Option.ite_some_none_eq_some.1 hstep
      obtain ⟨b, hissued, hdraws, hmessage⟩ := processMessage_eq env σ s
      cases hlimited : limited env σ s with
      | true =>
          rw [hmessage, if_pos hlimited] at hdrawn ⊢
          generalize hx : RoomServer.send { σ with backend := b } s none
            (.reject ⟨.rateLimited, "Too many requests"⟩) = x at hdrawn ⊢
          have hreg : x.registry = σ.registry := by
            rw [← hx]
            exact registry_backend hissued
          have hfitting : Fitting env x := by
            constructor
            · rw [hreg]
              exact hσ.indexed
            · rw [hreg]
              exact hσ.sized
            · rw [← hx]
              intro m hm
              apply hσ.chat m
              rw [← hdraws.chat]
              exact hm
          have hsent : Emits Fits σ x := by
            rw [← hx]
            exact (Emits.of_sent_eq rfl).send (fits_of_not_carriesRooms rfl)
          obtain ⟨hclosed, hemits⟩ := fitting_closeClient hfitting s hdrawn
          exact ⟨hclosed, hsent.trans hemits⟩
      | false =>
          constructor
          · apply hpassed
            intro t envelope' hi
            cases hi
            exact hlimited
          · rw [hmessage, hlimited, if_neg Bool.false_ne_true]
            exact fits_dispatch hissued hlimited hfits hσ
  | clientClose s =>
      obtain ⟨-, rfl⟩ := Option.ite_some_none_eq_some.1 hstep
      exact fitting_closeClient hσ s hdrawn
  | gameServerMessage k envelope =>
      refine ⟨hpassed (by intro t envelope hi; cases hi), ?_⟩
      obtain ⟨store, -, -, rfl⟩ := hstep.gameServerMessage_inv
      apply Emits.of_sent_eq
      exact sent_processInternalMessage env store k envelope σ
  | gameServerClose k =>
      refine ⟨hpassed (by intro t envelope hi; cases hi), ?_⟩
      obtain ⟨-, rfl⟩ := Option.ite_some_none_eq_some.1 hstep
      apply emits_closeGameServer
      intro q t
      exact fits_of_not_carriesRooms rfl
  | lobbyTimer cancelled =>
      refine ⟨hpassed (by intro t envelope hi; cases hi), ?_⟩
      obtain ⟨-, rfl⟩ := Option.ite_some_none_eq_some.1 hstep
      exact fits_lobbyTimerHandler hσ.indexed hfits
  | chatLink connected =>
      refine ⟨hpassed (by intro t envelope hi; cases hi), ?_⟩
      obtain rfl := Option.some.inj hstep
      exact Emits.of_sent_eq rfl
  | tick seconds =>
      refine ⟨hpassed (by intro t envelope hi; cases hi), ?_⟩
      obtain rfl := Option.some.inj hstep
      exact Emits.of_sent_eq rfl
  | _ =>
      refine ⟨hpassed (by intro t envelope hi; cases hi), ?_⟩
      obtain ⟨-, rfl⟩ := Option.ite_some_none_eq_some.1 hstep
      exact Emits.of_sent_eq rfl

/-!
## Nothing else makes a message too long
-/

theorem backend_handleCreateRoom {request : CreateRoomRequest}
    (h : σ.createRejection env request s = none) :
    (σ.handleCreateRoom env request s).backend =
      { σ.backend with uuidsIssued := σ.backend.uuidsIssued + 1 } := by
  simp only [handleCreateRoom, h, backend_notifyRoomListChanged]
  rfl

/-- A broadcast reaches whoever on the list has a live session. -/
theorem mem_sent_broadcast {ids : List String} {q : String} {t : SessionPtr}
    (hq : q ∈ ids) (hlock : σ.lock q = some t) (envelope : Envelope) :
    ⟨t, some q, envelope⟩ ∈ (σ.broadcast ids envelope).sent := by
  rw [sent_broadcast]
  apply List.mem_append_right
  rw [List.mem_filterMap]
  refine ⟨q, hq, ?_⟩
  rw [hlock, Option.map_some]

/-- A request that makes a message too long has it sent: the list of exceptions has no
entry that is not needed. The update of a room that nobody is connected to reaches
nobody. -/
theorem exists_refused_of_overflows {i : Input} (hindexed : σ.registry.Indexed env)
    (hstep : Step env σ i τ) (h : overflows env σ i = true)
    (hreach : ∀ t, i = .clientMessage t .toggleReady → ∀ r room,
      σ.manager.playerToRoom.find? (σ.clients t).playerId = some r →
      σ.manager.rooms.find? r = some room → ∃ q ∈ room.playerIds, (σ.lock q).isSome) :
    ∃ d ∈ τ.sent, ¬ Fits d := by
  cases i with
  | clientMessage t envelope =>
      obtain ⟨-, rfl⟩ := Option.ite_some_none_eq_some.1 hstep
      simp only [overflows, Bool.and_eq_true, Bool.not_eq_true'] at h
      obtain ⟨hpass, hlong⟩ := h
      obtain ⟨b, hissued, -, hmessage⟩ := processMessage_eq env σ t
      rw [hmessage, hpass, if_neg Bool.false_ne_true]
      cases envelope with
      | createRoom request =>
          simp only [Bool.and_eq_true, Option.isNone_iff_eq_none, decide_eq_true_eq] at hlong
          obtain ⟨haccept, hbytes⟩ := hlong
          have haccept' : ({ σ with backend := b } : RoomServer).createRejection env request t =
              none := haccept
          rw [dispatch, sent_handleCreateRoom haccept']
          refine ⟨_, List.mem_append_right _ (List.mem_singleton_self _), ?_⟩
          intro hfits
          have hle := (size_roomResponse_le_iff (by decide) _).1 (hfits rfl)
          simp only [hissued] at hle
          omega
      | joinRoom request =>
          cases hjoin : σ.joinableRoom request t with
          | error reject =>
              simp only [hjoin] at hlong
              cases hlong
          | ok room =>
              simp only [hjoin] at hlong
              have hbytes := of_decide_eq_true hlong
              have hjoin' : ({ σ with backend := b } : RoomServer).joinableRoom request t =
                  .ok room := hjoin
              simp only [dispatch, handleJoinRoom, hjoin', sent_notifyRoomListChanged]
              refine ⟨⟨t, none, .joinRoomResponse { success := true, room :=
                (room.addPlayer request.playerId request.playerName).2.toRoomInfo }⟩, ?_, ?_⟩
              · have hrest : ∀ x : RoomServer, Emits (fun _ => True) x
                    (x.broadcastToRoomExcept (room.addPlayer request.playerId
                      request.playerName).2 (.roomUpdate (room.addPlayer request.playerId
                        request.playerName).2.toRoomInfo) request.playerId) := by
                  intro x
                  exact (Emits.refl x).broadcast fun _ _ _ => trivial
                apply (hrest _).subset
                exact List.mem_append_right _ (List.mem_singleton_self _)
              · intro hfits
                have hle := (size_roomResponse_le_iff (by decide) _).1 (hfits rfl)
                omega
      | toggleReady =>
          simp only [Bool.and_eq_true, bne_iff_ne] at hlong
          obtain ⟨hne, hlong⟩ := hlong
          split at hlong
          · cases hlong
          · next room hfound =>
              obtain ⟨r, hp, hroom⟩ := Option.bind_eq_some_iff.1 hfound
              simp only [Bool.and_eq_true, Bool.not_eq_true', decide_eq_true_eq] at hlong
              obtain ⟨hhost, hbytes⟩ := hlong
              obtain ⟨q, hq, hlive⟩ := hreach t rfl r room hp hroom
              obtain ⟨t', hlock⟩ := Option.isSome_iff_exists.1 hlive
              have hp' : ({ σ with backend := b } : RoomServer).manager.playerToRoom.find?
                  (σ.clients t).playerId = some r := hp
              have hroom' : ({ σ with backend := b } : RoomServer).manager.rooms.find? r =
                  some room := hroom
              simp only [dispatch, bne_iff_ne, ne_eq, hne, not_false_eq_true, if_true,
                handleToggleReady, hp', hroom', hhost, Bool.false_eq_true, if_false]
              refine ⟨⟨t', some q, .roomUpdate
                (room.toggleReady (σ.clients t).playerId).toRoomInfo⟩, ?_, ?_⟩
              · apply mem_sent_broadcast
                · rw [Room.playerIds_toggleReady]
                  exact hq
                · exact hlock
              · intro hfits
                have hle := (size_roomUpdate_le_iff _).1 (hfits rfl)
                omega
      | roomListRequest request =>
          have hbytes := of_decide_eq_true hlong
          refine ⟨_, List.mem_append_right _ (List.mem_singleton_self _), ?_⟩
          intro hfits
          have hle := (size_roomListResponse_le_iff (requestedRooms σ request) _).1 (hfits rfl)
          exact absurd hle (Nat.not_le.2 hbytes)
      | _ => cases hlong
  | lobbyTimer cancelled =>
      obtain ⟨-, rfl⟩ := Option.ite_some_none_eq_some.1 hstep
      simp only [overflows, Bool.and_eq_true, Bool.not_eq_true', List.any_eq_true, beq_iff_eq,
        decide_eq_true_eq] at h
      obtain ⟨⟨hfires, t, hlobby, halive⟩, hbytes⟩ := h
      rw [hfires]
      obtain ⟨ids, -, hids, hsent⟩ := (pushes_lobbyTimer hindexed).sent
      have ht : t ∈ ids := (hids t).2 ⟨UnorderedMap.mem_keyList.1 hlobby, halive⟩
      rw [hsent]
      refine ⟨_, List.mem_append_right _ (List.mem_map_of_mem ht), ?_⟩
      intro hfits
      have hle := (size_roomListResponse_le_iff (pushedRooms σ) _).1 (hfits rfl)
      exact absurd hle (Nat.not_le.2 hbytes)
  | _ => cases h

/-!
## Runs
-/

theorem fitting_of_run {store : Redis.Keyspace} {is : List Input}
    (h : Run (FittingStep env) (initial store) is σ)
    (hdrawn : ∀ n < σ.registry.issued, (env.uuid n).utf8ByteSize = 36) :
    Fitting env σ ∧ ∀ d ∈ σ.sent, Fits d := by
  induction h with
  | nil =>
      refine ⟨⟨indexed_initial env _ rfl, ⟨?_, ?_⟩, ?_⟩, ?_⟩
      · intro r room hroom
        cases hroom
      · intro r room hroom
        cases hroom
      · intro m hm
        cases hm
      · intro d hd
        cases hd
  | snoc hrun hstep ih =>
      have hle := issued_step hstep.1
      obtain ⟨hfitting, hsent⟩ := ih fun n hn => hdrawn n (hn.trans_le hle)
      obtain ⟨hfitting', out, hout, hfits⟩ := fitting_step hstep hfitting hdrawn
      refine ⟨hfitting', ?_⟩
      intro d hd
      rw [hout] at hd
      rcases List.mem_append.1 hd with hold | hnew
      · exact hsent d hold
      · exact hfits d hnew

/-- As long as no request makes a room or a list too long, all that is written arrives. -/
theorem framesArrive_of_fittingStep {P : ProtoMessage Envelope}
    {Q : ProtoMessage Chat.ChatEnvelope} {store : Redis.Keyspace} {is : List Input}
    (hrun : Run (FittingStep env) (initial store) is σ) (hwire : OnTheWire env P Q σ) :
    FramesArrive P Q σ := by
  have hdrawn : ∀ n < σ.registry.issued, (env.uuid n).utf8ByteSize = 36 := by
    intro n hn
    obtain ⟨data₀, data₁, data₂, data₃, huuid⟩ := hwire.drawn n hn
    rw [huuid]
    exact utf8ByteSize_generateUuid data₀ data₁ data₂ data₃
  obtain ⟨hfitting, hsent⟩ := fitting_of_run hrun hdrawn
  have hchat : ∀ m ∈ σ.backend.chat.sent, Arrives Q m := by
    intro m hm
    exact (hwire.chat m hm).arrives (hfitting.chat m hm)
  constructor
  · intro d hd hcarries
    exact (hwire.clients d hd hcarries).arrives (hsent d hd hcarries)
  · exact hchat
  · intro created hcreated env χ rest
    refine ⟨.sessionCreated created, (hchat _ hcreated).decodes rest, ?_⟩
    exact Chat.ChatServer.channels_sessionCreated env created χ

/-!
## Samples
-/

/-- So many letters. -/
def letters (n : ℕ) : String := String.ofList (List.replicate n 'a')

theorem utf8ByteSize_letters (n : ℕ) : (letters n).utf8ByteSize = n := by
  have hletter : 'a'.utf8Size = 1 := by decide
  rw [letters, String.utf8ByteSize_ofList, utf8Len_replicate, hletter, Nat.mul_one]

/-- Identifiers of `generateUuid`, and longer ones behind them. -/
def sampleUuid (n : ℕ) : String :=
  if n < 4 then generateUuid 0 0 0 (UInt32.ofNat n) else generateUuid 0 0 0 0 ++ letters n

theorem utf8ByteSize_sampleUuid (n : ℕ) :
    (sampleUuid n).utf8ByteSize = 36 + if n < 4 then 0 else n := by
  rw [sampleUuid]
  split
  · exact utf8ByteSize_generateUuid _ _ _ _
  · rw [String.utf8ByteSize_append, utf8ByteSize_generateUuid, utf8ByteSize_letters]

theorem sampleUuid_injective : Function.Injective sampleUuid := by
  intro m n h
  have hfirst : ∀ m < 4, ∀ n < 4, sampleUuid m = sampleUuid n → m = n := by
    decide +kernel
  have hsize := congrArg String.utf8ByteSize h
  rw [utf8ByteSize_sampleUuid, utf8ByteSize_sampleUuid] at hsize
  by_cases hm : m < 4
  · by_cases hn : n < 4
    · exact hfirst m hm n hn h
    · rw [if_pos hm, if_neg hn] at hsize
      omega
  · by_cases hn : n < 4
    · rw [if_neg hm, if_pos hn] at hsize
      omega
    · rw [if_neg hm, if_neg hn] at hsize
      omega

theorem sampleUuid_ne_empty (n : ℕ) : sampleUuid n ≠ "" := by
  intro h
  have hsize := utf8ByteSize_sampleUuid n
  rw [h] at hsize
  have hempty : "".utf8ByteSize = 0 := rfl
  omega

/-- The default settings with identifiers of `generateUuid`. -/
def sampleEnv : Env := { defaultEnv with
  uuid := sampleUuid
  uuid_injective := sampleUuid_injective
  uuid_ne_empty := sampleUuid_ne_empty }

theorem drawn_sampleEnv : ∀ n < 4, ∃ data₀ data₁ data₂ data₃,
    sampleEnv.uuid n = generateUuid data₀ data₁ data₂ data₃ := by
  intro n hn
  exact ⟨0, 0, 0, UInt32.ofNat n, if_pos hn⟩

def sampleRequest (playerId : String) : Envelope :=
  .createRoom ⟨playerId, "P", "room", 4⟩

def sampleResponse (playerId : String) : Envelope :=
  .createRoomResponse
    { success := true
      room := (Room.create (sampleUuid 0) "room" playerId "P" 4).toRoomInfo }

def sampleCreated : Chat.ChatEnvelope := .sessionCreated ⟨sampleUuid 1, [⟨"p", "P"⟩]⟩

/-- A player creates a room and starts a game. -/
theorem framesArrive_of_fittingStep_startGame :
    ∃ σ, Run (FittingStep sampleEnv) (initial {}) [.chatLink true, .connect 0 "10.0.0.1",
      .clientMessage 0 (sampleRequest "p"), .clientMessage 0 .startGame] σ ∧
      sampleCreated ∈ σ.backend.chat.sent ∧
      FramesArrive (tableClass Envelope.fields [sampleResponse "p"])
        (tableClass Chat.ChatEnvelope.fields [sampleCreated]) σ := by
  obtain ⟨σ, hrun, hσ⟩ := exists_run_of_exec (fun σ i => !overflows sampleEnv σ i)
    (step sampleEnv) (initial {})
    [.chatLink true, .connect 0 "10.0.0.1",
      .clientMessage 0 (sampleRequest "p"), .clientMessage 0 .startGame]
    (fun σ => (σ.sent.all fun d =>
        !d.envelope.carriesRooms || d.envelope == sampleResponse "p") &&
      σ.backend.chat.sent == [sampleCreated] && decide (σ.backend.uuidsIssued = 3))
    (by decide +kernel)
  simp only [Bool.and_eq_true, List.all_eq_true, Bool.or_eq_true, Bool.not_eq_true',
    beq_iff_eq, decide_eq_true_eq] at hσ
  obtain ⟨⟨hsent, hchat⟩, hissued⟩ := hσ
  have hfitting : Run (FittingStep sampleEnv) (initial {}) [.chatLink true,
      .connect 0 "10.0.0.1", .clientMessage 0 (sampleRequest "p"),
      .clientMessage 0 .startGame] σ := by
    apply hrun.mono
    intro x i y hstep
    exact ⟨hstep.1, by simpa using hstep.2⟩
  refine ⟨σ, hfitting, ?_, framesArrive_of_fittingStep hfitting ?_⟩
  · rw [hchat]
    exact List.mem_singleton_self _
  constructor
  · intro n hn
    rw [hissued] at hn
    exact drawn_sampleEnv n (by omega)
  · intro d hd hcarries
    rcases hsent d hd with hnot | heq
    · cases hnot.symm.trans hcarries
    · rw [heq]
      apply conforms_tableClass (List.mem_singleton_self _)
      intro m hm _
      exact List.mem_singleton.1 hm
  · intro m hm
    rw [hchat] at hm
    cases List.mem_singleton.1 hm
    apply conforms_tableClass (List.mem_singleton_self _)
    intro m hm _
    exact List.mem_singleton.1 hm

/-- A player id that takes up 600004 bytes fits into a request. -/
theorem size_sampleRequest_le {id : String} (h : stringSize id = 600004) :
    Proto3.size (sampleRequest id).fields ≤ maxMessageSize.toNat := by
  have hname : stringSize "P" = 3 := by decide
  have hroom : stringSize "room" = 6 := by decide
  have hmax : uintSize (4 : UInt32).toNat = 2 := by decide
  have hfields : Proto3.size (CreateRoomRequest.fields ⟨id, "P", "room", 4⟩) = 600015 := by
    simp only [CreateRoomRequest.fields, Proto3.size_append, size_string (by decide : 1 < 16),
      size_string (by decide : 2 < 16), size_string (by decide : 3 < 16),
      size_uint (by decide : 4 < 16), h, hname, hroom, hmax]
  have htag : varintSize (8 * 1 + 2) = 1 := by decide
  have hvarint : varintSize 600015 = 3 := by decide
  rw [sampleRequest, Envelope.fields, size_message, hfields, htag, hvarint, toNat_maxMessageSize]
  omega

/-- The room has the id twice, as its host and in its player list. -/
theorem responseLimit_lt_bytes {id : String} (h : stringSize id = 600004) (r : String) :
    responseLimit < (Room.create r "room" id "P" 4).bytes := by
  simp only [Room.create, bytes, PlayerData.bytes, PlayerData.fieldBytes, List.map_cons,
    List.map_nil, List.sum_cons, List.sum_nil, responseLimit, h]
  omega

/-- Where nothing has been done yet, a room is created under any id. -/
theorem createRejection_startClient (id : String) (b : Backend) :
    ({ (initial {}).startClient 0 "10.0.0.1" with backend := b } : RoomServer).createRejection
      sampleEnv ⟨id, "P", "room", 4⟩ 0 = none := by
  have hidentity : ({ (initial {}).startClient 0 "10.0.0.1" with backend := b } :
      RoomServer).identityRejection id 0 = none := by
    simp [identityRejection, lock, initial, startClient, addLobbySession, updateClient,
      UnorderedMap.contains]
  have hmax : ¬ ((4 : UInt32) < 1 ∨ sampleEnv.maxPlayersPerRoom < 4) := by decide
  have hrooms : ¬ sampleEnv.maxRooms.toNat ≤
      ((initial {}).startClient 0 "10.0.0.1").manager.rooms.size := by decide
  simp only [createRejection, hidentity]
  rw [if_neg hrooms, if_neg hmax]

/-- A player creates a room under the id. -/
theorem sent_sampleRequest (id : String) : ∃ τ,
    Run (Step sampleEnv) (initial {}) [.connect 0 "10.0.0.1", .clientMessage 0
      (sampleRequest id)] τ ∧ τ.sent = [⟨0, none, sampleResponse id⟩] ∧
    τ.backend.uuidsIssued = 1 ∧ τ.backend.chat.sent = [] := by
  obtain ⟨b, hissued, hdraws, hmessage⟩ := processMessage_eq sampleEnv
    ((initial {}).startClient 0 "10.0.0.1") 0
  have hpass : limited sampleEnv ((initial {}).startClient 0 "10.0.0.1") 0 = false := by
    decide +kernel
  have haccept := createRejection_startClient id b
  have hconnect : Step sampleEnv (initial {}) (.connect 0 "10.0.0.1")
      ((initial {}).startClient 0 "10.0.0.1") := rfl
  have hcreate : Step sampleEnv ((initial {}).startClient 0 "10.0.0.1")
      (.clientMessage 0 (sampleRequest id))
      (((initial {}).startClient 0 "10.0.0.1").processMessage sampleEnv 0
        (sampleRequest id)) := rfl
  have hissue := backend_handleCreateRoom haccept
  refine ⟨_, (Run.nil.snoc hconnect).snoc hcreate, ?_⟩
  rw [hmessage, hpass, if_neg Bool.false_ne_true, sampleRequest, dispatch,
    sent_handleCreateRoom haccept, hissue, hissued]
  refine ⟨rfl, rfl, ?_⟩
  exact congrArg ChatServerChannel.sent hdraws.chat

/-- The class of the messages of the run. -/
def sampleClass (id : String) : ProtoMessage Envelope :=
  tableClass Envelope.fields [sampleRequest id, sampleResponse id]

theorem parseFromArray_sampleRequest (id : String) :
    (sampleClass id).parseFromArray (Proto3.encode (sampleRequest id).fields) =
      some (sampleRequest id) := by
  simp [sampleClass, tableClass]

/-- The tags of the two messages differ. -/
theorem conforms_sampleResponse (id : String) :
    Conforms (sampleClass id) Envelope.fields (sampleResponse id) := by
  apply conforms_tableClass (List.mem_cons_of_mem _ (List.mem_singleton_self _))
  intro m hm hencode
  rcases List.mem_cons.1 hm with heq | hrest
  · simp [heq, sampleRequest, sampleResponse, Envelope.fields, Proto3.message, Proto3.encode,
      Proto3.Field.encode, Proto3.varint, Proto3.varintBytes] at hencode
  · exact List.mem_singleton.1 hrest

theorem not_alwaysArrives_of_stringSize {id : String} (h : stringSize id = 600004)
    (Q : ProtoMessage Chat.ChatEnvelope) :
    ¬ AlwaysArrives sampleEnv (sampleClass id) Q := by
  intro hclaim
  obtain ⟨τ, hrun, hsent, hissued, hchat⟩ := sent_sampleRequest id
  have hresponse : ⟨0, none, sampleResponse id⟩ ∈ τ.sent := by
    rw [hsent]
    exact List.mem_singleton_self _
  have hreceived : Received (sampleClass id) [.connect 0 "10.0.0.1", .clientMessage 0
      (sampleRequest id)] := by
    intro s envelope hmem
    rcases List.mem_cons.1 hmem with heq | hrest
    · cases heq
    · cases List.mem_singleton.1 hrest
      exact ⟨_, size_sampleRequest_le h, parseFromArray_sampleRequest id⟩
  have hwire : OnTheWire sampleEnv (sampleClass id) Q τ := by
    constructor
    · intro n hn
      rw [hissued] at hn
      exact drawn_sampleEnv n (by omega)
    · intro d hd _
      rw [hsent] at hd
      cases List.mem_singleton.1 hd
      exact conforms_sampleResponse id
    · intro m hm
      rw [hchat] at hm
      cases hm
  have hfits := ((hclaim {} _ τ hrun hreceived hwire).clients _ hresponse rfl).fits
  have hbytes := (size_roomResponse_le_iff (by decide) _).1 hfits
  exact absurd hbytes (Nat.not_le.2 (responseLimit_lt_bytes h _))

theorem stringSize_letters : stringSize (letters 600000) = 600004 := by
  have hsize := utf8ByteSize_letters 600000
  have hvarint : varintSize 600000 = 3 := by decide
  have hne : letters 600000 ≠ "" := by
    intro hempty
    have hzero : "".utf8ByteSize = 0 := rfl
    rw [hempty, hzero] at hsize
    omega
  rw [stringSize, if_neg hne, hsize, hvarint]

/-- A player creates a room under an id of 600000 letters. The request is one that the codec
takes, and the answer has the id twice. -/
theorem not_alwaysArrives_longPlayerId : ¬ AlwaysArrives sampleEnv
    (sampleClass (letters 600000)) (tableClass Chat.ChatEnvelope.fields []) :=
  not_alwaysArrives_of_stringSize stringSize_letters _

end Room

end SosBackend
