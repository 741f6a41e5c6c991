import SosBackend.Common.Uuid
import SosBackend.Protocol.Schema
import SosBackend.Room.Registry
import Mathlib.Algebra.Order.BigOperators.Group.List

/-!
# The size of what carries rooms

The strings of a room are as long as its players made them. `Room.bytes` counts what they
take up in a `RoomInfo` and `Room.summaryBytes` in a room list; each kind of message that
carries rooms fits into a frame up to a bound on these. A player that leaves frees more
than the state of a room in game costs, and what a start announces is no more than the
room itself.
-/

namespace SosBackend

open Proto3 Protocol

/-!
## Rooms
-/

namespace Room

/-- The bytes of the fields of a player. -/
def PlayerData.fieldBytes (player : PlayerData) : ℕ :=
  stringSize player.playerId + stringSize player.playerName + uintSize player.isReady.toNat +
    uintSize player.isHost.toNat

/-- The bytes of an entry of the player list. -/
def PlayerData.bytes (player : PlayerData) : ℕ :=
  1 + (varintSize player.fieldBytes + player.fieldBytes)

/-- The bytes of a room's information. -/
def bytes (room : Room) : ℕ :=
  stringSize room.roomId + stringSize room.roomName + stringSize room.hostId +
    uintSize room.maxPlayers.toNat + uintSize room.state.number +
    (room.players.map PlayerData.bytes).sum

/-- The bytes of the information of the room before its game starts. -/
def waitingBytes (room : Room) : ℕ :=
  (room.setState .waiting).bytes

def summaryFieldBytes (room : Room) : ℕ :=
  stringSize room.roomId + stringSize room.roomName + stringSize room.hostName +
    uintSize room.playerCount.toNat + uintSize room.maxPlayers.toNat +
    uintSize room.state.number

/-- The bytes of a room in a room list. -/
def summaryBytes (room : Room) : ℕ :=
  1 + (varintSize room.summaryFieldBytes + room.summaryFieldBytes)

theorem size_fields (player : PlayerData) :
    Proto3.size player.fields = player.fieldBytes := by
  simp [PlayerData.fields, PlayerData.fieldBytes, size_string, flag, size_uint, Nat.add_assoc]

theorem size_toRoomInfo (room : Room) : Proto3.size room.toRoomInfo.fields = room.bytes := by
  have htag : varintSize (8 * 6 + 2) = 1 := varintSize_of_lt (by decide)
  have hplayer : ∀ player : PlayerData,
      Proto3.size (message 6 player.fields) = player.bytes := by
    intro player
    rw [size_message, size_fields, htag]
    rfl
  simp [toRoomInfo, RoomInfo.fields, bytes, size_string, size_uint, size_repeated,
    Function.comp_def, hplayer, Nat.add_assoc]

theorem size_toRoomSummary (room : Room) :
    Proto3.size (message 1 room.toRoomSummary.fields) = room.summaryBytes := by
  have htag : varintSize (8 * 1 + 2) = 1 := varintSize_of_lt (by decide)
  have hfields : Proto3.size room.toRoomSummary.fields = room.summaryFieldBytes := by
    simp [toRoomSummary, RoomSummary.fields, summaryFieldBytes, size_string, size_uint,
      Nat.add_assoc]
  rw [size_message, hfields, htag]
  rfl

theorem bytes_eq (room : Room) :
    room.bytes = room.waitingBytes + uintSize room.state.number := by
  have hwaiting : uintSize RoomState.waiting.number = 0 := rfl
  simp only [bytes, waitingBytes, setState, hwaiting]
  omega

theorem waitingBytes_le (room : Room) : room.waitingBytes ≤ room.bytes := by
  rw [bytes_eq]
  exact Nat.le_add_right _ _

theorem two_le_bytes (player : PlayerData) : 2 ≤ player.bytes := by
  have hpos := varintSize_pos player.fieldBytes
  rw [PlayerData.bytes]
  omega

theorem sum_bytes_eraseP {players : List PlayerData} {p : String}
    (h : p ∈ players.map PlayerData.playerId) :
    ((players.eraseP fun player => player.playerId == p).map PlayerData.bytes).sum + 2 ≤
      (players.map PlayerData.bytes).sum := by
  induction players with
  | nil => cases h
  | cons player players ih =>
      have hbytes := two_le_bytes player
      rw [List.eraseP_cons, List.map_cons, List.sum_cons]
      cases hid : player.playerId == p with
      | true =>
          rw [cond_true]
          omega
      | false =>
          rw [cond_false, List.map_cons, List.sum_cons]
          have hrest : p ∈ players.map PlayerData.playerId := by
            rw [List.map_cons, List.mem_cons] at h
            rcases h with heq | hrest
            · simp [heq] at hid
            · exact hrest
          have ih' := ih hrest
          omega

/-- A player that leaves frees two bytes at least. -/
theorem waitingBytes_removePlayer {room : Room} {p : String} (h : p ∈ room.playerIds) :
    (room.removePlayer p).waitingBytes + 2 ≤ room.waitingBytes := by
  have hsum := sum_bytes_eraseP h
  simp only [waitingBytes, bytes, setState, removePlayer]
  omega

theorem waitingBytes_removePlayer_le (room : Room) (p : String) :
    (room.removePlayer p).waitingBytes ≤ room.waitingBytes := by
  by_cases h : p ∈ room.playerIds
  · have hremove := waitingBytes_removePlayer h
    omega
  · have hnone : ∀ player ∈ room.players, ¬ (player.playerId == p) = true := by
      intro player hplayer hid
      apply h
      rw [← beq_iff_eq.1 hid]
      exact List.mem_map_of_mem hplayer
    rw [removePlayer, List.eraseP_of_forall_not hnone]

/-- The state of a room in game costs no more than the player that leaves it frees. -/
theorem bytes_removePlayer_le {room : Room} {p : String} (h : p ∈ room.playerIds) :
    (room.removePlayer p).bytes ≤ room.waitingBytes := by
  have hremove := waitingBytes_removePlayer h
  have hstate : uintSize (room.removePlayer p).state.number ≤ 2 := by
    cases (room.removePlayer p).state with
    | waiting => exact Nat.zero_le 2
    | inGame => exact le_of_eq rfl
  rw [bytes_eq]
  omega

end Room

/-!
## Messages
-/

namespace Room

/-- The bytes of a room list. -/
def pageBytes (rooms : List Room) (total : UInt32) : ℕ :=
  (rooms.map summaryBytes).sum + uintSize total.toNat

/-- The most bytes of a room in the answer to a `CreateRoom` or `JoinRoom`. -/
def responseLimit : ℕ := 1048566

/-- The most bytes of a room in a `RoomUpdate`. -/
def updateLimit : ℕ := 1048568

/-- The most bytes of a room list. -/
def listLimit : ℕ := 1048572

/-- An answer to a `CreateRoom` or `JoinRoom` that has been accepted. -/
theorem size_roomResponse_le_iff {number : ℕ} (hnumber : number < 16) (room : Room) :
    Proto3.size (message number
        { success := true, room := room.toRoomInfo : RoomResponse }.fields) ≤
      maxMessageSize.toNat ↔ room.bytes ≤ responseLimit := by
  have htag : varintSize (8 * number + 2) = 1 := varintSize_of_lt (by omega)
  have htag₂ : varintSize (8 * 2 + 2) = 1 := varintSize_of_lt (by decide)
  have hfields : Proto3.size { success := true, room := room.toRoomInfo : RoomResponse }.fields =
      2 + Proto3.size (message 2 room.toRoomInfo.fields) := by
    have hflag : uintSize 1 = 2 := rfl
    have hreason : stringSize "" = 0 := rfl
    simp [RoomResponse.fields, size_string, flag, size_uint, hflag, hreason]
  have houter := size_message_le_iff number
    { success := true, room := room.toRoomInfo : RoomResponse }.fields (b := 1048572)
    (by decide) (by decide)
  have hinner := size_message_le_iff 2 room.toRoomInfo.fields (b := 1048566)
    (by decide) (by decide)
  rw [htag, hfields] at houter
  rw [htag₂, size_toRoomInfo] at hinner
  rw [toNat_maxMessageSize, responseLimit, ← hinner]
  omega

theorem size_roomUpdate_le_iff (room : Room) :
    Proto3.size (Envelope.roomUpdate room.toRoomInfo).fields ≤ maxMessageSize.toNat ↔
      room.bytes ≤ updateLimit := by
  have htag : varintSize (8 * 13 + 2) = 1 := varintSize_of_lt (by decide)
  have htag₁ : varintSize (8 * 1 + 2) = 1 := varintSize_of_lt (by decide)
  have houter := size_message_le_iff 13 (message 1 room.toRoomInfo.fields) (b := 1048572)
    (by decide) (by decide)
  have hinner := size_message_le_iff 1 room.toRoomInfo.fields (b := 1048568)
    (by decide) (by decide)
  rw [htag] at houter
  rw [htag₁, size_toRoomInfo] at hinner
  rw [toNat_maxMessageSize, updateLimit, ← hinner, Envelope.fields]
  omega

theorem size_roomListResponse_le_iff (rooms : List Room) (total : UInt32) :
    Proto3.size (Envelope.roomListResponse
        { rooms := rooms.map toRoomSummary, totalRooms := total }).fields ≤
      maxMessageSize.toNat ↔ pageBytes rooms total ≤ listLimit := by
  have htag : varintSize (8 * 12 + 2) = 1 := varintSize_of_lt (by decide)
  have hfields : Proto3.size
      { rooms := rooms.map toRoomSummary, totalRooms := total : RoomListResponse }.fields =
        pageBytes rooms total := by
    simp [RoomListResponse.fields, size_uint, size_repeated, pageBytes, Function.comp_def,
      size_toRoomSummary]
  have houter := size_message_le_iff 12
    { rooms := rooms.map toRoomSummary, totalRooms := total : RoomListResponse }.fields
    (b := 1048572) (by decide) (by decide)
  rw [htag, hfields] at houter
  rw [toNat_maxMessageSize, listLimit, ← houter, Envelope.fields]

/-- What a start announces to the Chat Server is no more than a room in an update. -/
theorem size_sessionCreated_le {room : Room} {sid : String}
    (hsid : stringSize sid ≤ stringSize room.roomId) (h : room.waitingBytes ≤ updateLimit) :
    Proto3.size (Chat.ChatEnvelope.sessionCreated ⟨sid, room.players.map fun player =>
      ⟨player.playerId, player.playerName⟩⟩).fields ≤ maxMessageSize.toNat := by
  have htag : varintSize (8 * 20 + 2) = 2 := by decide
  have htag₂ : varintSize (8 * 2 + 2) = 1 := varintSize_of_lt (by decide)
  have hplayer : ∀ player : PlayerData, Proto3.size (message 2
      (Chat.PlayerInfo.fields ⟨player.playerId, player.playerName⟩)) ≤ player.bytes := by
    intro player
    have hfields : Proto3.size (Chat.PlayerInfo.fields
        ⟨player.playerId, player.playerName⟩) ≤ player.fieldBytes := by
      simp only [Chat.PlayerInfo.fields, size_append, size_string (by decide : 1 < 16),
        size_string (by decide : 2 < 16), PlayerData.fieldBytes]
      omega
    have hvarint := varintSize_mono hfields
    rw [size_message, htag₂, PlayerData.bytes]
    omega
  have hplayers : (room.players.map fun player => Proto3.size (message 2
      (Chat.PlayerInfo.fields ⟨player.playerId, player.playerName⟩))).sum ≤
        (room.players.map PlayerData.bytes).sum :=
    List.sum_le_sum fun player _ => hplayer player
  have hfields : Proto3.size (Chat.SessionCreated.fields ⟨sid, room.players.map fun player =>
      ⟨player.playerId, player.playerName⟩⟩) ≤ 1048571 := by
    simp only [Chat.SessionCreated.fields, size_append, size_string (by decide : 1 < 16),
      size_repeated, List.map_map, Function.comp_def]
    simp only [waitingBytes, bytes, setState, updateLimit] at h
    omega
  have houter := (size_message_le_iff 20 (Chat.SessionCreated.fields
    ⟨sid, room.players.map fun player => ⟨player.playerId, player.playerName⟩⟩)
    (b := 1048571) (by decide) (by decide)).2 hfields
  rw [htag] at houter
  rw [toNat_maxMessageSize]
  exact houter

theorem stringSize_of_utf8ByteSize {s : String} (h : s.utf8ByteSize = 36) :
    stringSize s = 38 := by
  have hne : s ≠ "" := by
    intro hempty
    rw [hempty] at h
    cases h
  rw [stringSize, if_neg hne, h]
  rfl

theorem size_sessionEnded_le {sid : String} (h : sid.utf8ByteSize = 36) :
    Proto3.size (Chat.ChatEnvelope.sessionEnded ⟨sid⟩).fields ≤ maxMessageSize.toNat := by
  have hfields : Proto3.size (string 1 sid) = 38 := by
    rw [size_string (by decide), stringSize_of_utf8ByteSize h]
  have hsize : varintSize 38 = 1 := varintSize_of_lt (by decide)
  have htag : varintSize (8 * 21 + 2) = 2 := by decide
  rw [Chat.ChatEnvelope.fields, size_message, hfields, hsize, htag, toNat_maxMessageSize]
  decide

end Room

end SosBackend
