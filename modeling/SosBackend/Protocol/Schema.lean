import SosBackend.Chat.Messages
import SosBackend.Library.Proto3
import SosBackend.Protocol.Segmentation
import SosBackend.Room.Room

/-!
# The messages on the wire

`room.proto` and `chat.proto` give each field of a message its number. The generated
classes stay a parameter; `Conforms` is what is documented of them, for one message.
A message that conforms and does not exceed `MAX_MESSAGE_SIZE` is taken off the wire as it
was.
-/

namespace SosBackend

/-!
## `room.proto`
-/

namespace Room

open Proto3

def RoomState.number : RoomState → ℕ
  | .waiting => 0
  | .inGame => 1

def PlayerData.fields (player : PlayerData) : List Field :=
  string 1 player.playerId ++ string 2 player.playerName ++ flag 3 player.isReady ++
    flag 4 player.isHost

def RoomInfo.fields (info : RoomInfo) : List Field :=
  string 1 info.roomId ++ string 2 info.roomName ++ string 3 info.hostId ++
    uint 4 info.maxPlayers.toNat ++ uint 5 info.state.number ++
    repeated 6 (info.players.map PlayerData.fields)

def RoomSummary.fields (summary : RoomSummary) : List Field :=
  string 1 summary.roomId ++ string 2 summary.roomName ++ string 3 summary.hostName ++
    uint 4 summary.currentPlayers.toNat ++ uint 5 summary.maxPlayers.toNat ++
    uint 6 summary.state.number

def CreateRoomRequest.fields (request : CreateRoomRequest) : List Field :=
  string 1 request.playerId ++ string 2 request.playerName ++ string 3 request.roomName ++
    uint 4 request.maxPlayers.toNat

def JoinRoomRequest.fields (request : JoinRoomRequest) : List Field :=
  string 1 request.playerId ++ string 2 request.playerName ++ string 3 request.roomId

def RoomListRequest.fields (request : RoomListRequest) : List Field :=
  uint 1 request.page.toNat ++ uint 2 request.pageSize.toNat

def RoomResponse.fields (response : RoomResponse) : List Field :=
  flag 1 response.success ++ message 2 response.room.fields ++ string 3 response.reason

def RoomListResponse.fields (response : RoomListResponse) : List Field :=
  repeated 1 (response.rooms.map RoomSummary.fields) ++ uint 2 response.totalRooms.toNat

def GameStart.fields (start : GameStart) : List Field :=
  string 1 start.sessionId ++ string 2 start.authToken ++ string 3 start.gameServerHost ++
    uint 4 start.gameServerPort.toNat

def RejectReason.number : RejectReason → ℕ
  | .unknown => 0
  | .roomFull => 1
  | .roomNotFound => 2
  | .notHost => 3
  | .notAllReady => 4
  | .rateLimited => 5
  | .duplicatePlayer => 6
  | .alreadyInRoom => 7
  | .invalidRequest => 8
  | .roomClosed => 9
  | .gameServerBusy => 10

def RejectResponse.fields (response : RejectResponse) : List Field :=
  uint 1 response.reason.number ++ string 2 response.message

def TokenValidateResponse.fields (response : TokenValidateResponse) : List Field :=
  flag 1 response.valid ++ string 2 response.playerId ++ string 3 response.sessionId

/-- The payload is a `oneof`: the field of the message that is set. -/
def Envelope.fields : Envelope → List Field
  | .notSet => []
  | .createRoom request => message 1 request.fields
  | .joinRoom request => message 2 request.fields
  | .leaveRoom => message 3 []
  | .toggleReady => message 4 []
  | .startGame => message 5 []
  | .roomListRequest request => message 6 request.fields
  | .heartbeat => message 7 []
  | .createRoomResponse response => message 10 response.fields
  | .joinRoomResponse response => message 11 response.fields
  | .roomListResponse response => message 12 response.fields
  | .roomUpdate room => message 13 (message 1 room.fields)
  | .gameStart start => message 14 start.fields
  | .reject response => message 15 response.fields
  | .tokenValidateRequest authToken => message 20 (string 1 authToken)
  | .tokenValidateResponse response => message 21 response.fields
  | .slotReleased playerId sessionId => message 22 (string 1 playerId ++ string 2 sessionId)
  | .gameServerHeartbeat serverId activeSessions =>
      message 23 (string 1 serverId ++ uint 2 activeSessions.toNat)

end Room

/-!
## `chat.proto`
-/

namespace Chat

open Proto3

def ChatChannel.number : ChatChannel → ℕ
  | .unknown => 0
  | .lobby => 1
  | .all => 2
  | .whisper => 3

def ChatErrorCode.number : ChatErrorCode → ℕ
  | .unknown => 0
  | .notAuthenticated => 1
  | .rateLimited => 2
  | .invalidChannel => 3
  | .messageTooLong => 4
  | .playerNotFound => 5
  | .channelNotJoined => 6

def PlayerInfo.fields (player : PlayerInfo) : List Field :=
  string 1 player.playerId ++ string 2 player.playerName

def SessionCreated.fields (created : SessionCreated) : List Field :=
  string 1 created.sessionId ++ repeated 2 (created.players.map PlayerInfo.fields)

/-- The payload is a `oneof`, as in `room.proto`. -/
def ChatEnvelope.fields : ChatEnvelope → List Field
  | .notSet => []
  | .auth request => message 1 (string 1 request.playerId ++ string 2 request.sessionId ++
      string 3 request.playerName)
  | .send request => message 2 (uint 1 request.channel.number ++ string 2 request.content ++
      string 3 request.whisperTarget)
  | .joinChannel channel => message 3 (uint 1 channel.number)
  | .leaveChannel channel => message 4 (uint 1 channel.number)
  | .heartbeat => message 5 []
  | .authResult result => message 10 (flag 1 result.success ++ string 2 result.reason)
  | .receive received => message 11 (uint 1 received.channel.number ++
      string 2 received.senderId ++ string 3 received.senderName ++
      string 4 received.content ++ uint 5 received.timestamp)
  | .systemMessage channel content timestamp =>
      message 12 (uint 1 channel.number ++ string 2 content ++ uint 3 timestamp)
  | .error failure => message 13 (uint 1 failure.code.number ++ string 2 failure.message)
  | .sessionCreated created => message 20 created.fields
  | .sessionEnded ended => message 21 (string 1 ended.sessionId)

end Chat

/-!
## Arriving
-/

namespace Protocol

variable {M : Type*} {P : ProtoMessage M} {fields : M → List Proto3.Field} {m : M}

/-- The generated class serialises the message as the format says, as long as that does not
exceed two gigabytes, and parses it back. -/
structure Conforms (P : ProtoMessage M) (fields : M → List Proto3.Field) (m : M) :
    Prop where
  serialize : Proto3.size (fields m) < 2 ^ 31 →
    P.serializeAsString m = Proto3.encode (fields m)
  parse : Proto3.size (fields m) < 2 ^ 31 →
    P.parseFromArray (Proto3.encode (fields m)) = some m

/-- The frame of the message is one that the decoder accepts, and at the front of any
buffer the decoder takes that very message off it. -/
structure Arrives (P : ProtoMessage M) (m : M) : Prop where
  fits : (P.serializeAsString m).length ≤ maxMessageSize.toNat
  decodes : ∀ rest, tryDecode P ⟨encode P m ++ rest⟩ = (some m, ⟨rest⟩)

theorem Conforms.arrives (h : Conforms P fields m)
    (hsize : Proto3.size (fields m) ≤ maxMessageSize.toNat) : Arrives P m := by
  have hlimit : Proto3.size (fields m) < 2 ^ 31 := by
    rw [toNat_maxMessageSize] at hsize
    omega
  have hserialize := h.serialize hlimit
  have hfits : (P.serializeAsString m).length ≤ maxMessageSize.toNat := by
    rw [hserialize]
    exact hsize
  constructor
  · exact hfits
  · intro rest
    obtain ⟨hframe, hover, hbody⟩ := isFrame_encode P hfits
    rw [tryDecode_frame_append P ⟨hframe, hover⟩, parseFrame, hbody, hserialize,
      h.parse hlimit]

/-- A class that serialises as the format says, and parses the messages of a table. -/
def tableClass (fields : M → List Proto3.Field) (table : List M) : ProtoMessage M where
  parseFromArray data := table.find? fun m => Proto3.encode (fields m) == data
  serializeAsString m := Proto3.encode (fields m)

/-- A message of the table conforms where no other one is serialised alike. -/
theorem conforms_tableClass {table : List M} (hm : m ∈ table)
    (h : ∀ m' ∈ table, Proto3.encode (fields m') = Proto3.encode (fields m) → m' = m) :
    Conforms (tableClass fields table) fields m := by
  constructor
  · intro _
    rfl
  · intro _
    cases hfind : table.find? fun m' => Proto3.encode (fields m') == Proto3.encode (fields m) with
    | none =>
        have hnone := List.find?_eq_none.1 hfind m hm
        exact absurd (beq_self_eq_true _) hnone
    | some m' =>
        have hencode := List.find?_some hfind
        have hsame := h m' (List.mem_of_find?_eq_some hfind) (beq_iff_eq.1 hencode)
        exact hfind.trans (congrArg some hsame)

end Protocol

end SosBackend
