import Mathlib.Data.Nat.Notation

/-!
# The messages of the Chat Server

`ChatEnvelope` by the case of its payload. The two internal messages are also
what the Room Server writes on its link to the Chat Server.
-/

namespace SosBackend

namespace Chat

inductive ChatChannel
  | unknown
  | lobby
  | all
  | whisper
deriving DecidableEq, Repr

structure ChatAuth where
  playerId : String
  sessionId : String
  playerName : String
deriving DecidableEq, Repr

structure ChatSend where
  channel : ChatChannel
  content : String
  whisperTarget : String
deriving DecidableEq, Repr

structure ChatAuthResult where
  success : Bool
  reason : String := ""
deriving DecidableEq, Repr

structure ChatReceive where
  channel : ChatChannel
  senderId : String
  senderName : String
  content : String
  timestamp : ℕ
deriving DecidableEq, Repr

inductive ChatErrorCode
  | unknown
  | notAuthenticated
  | rateLimited
  | invalidChannel
  | messageTooLong
  | playerNotFound
  | channelNotJoined
deriving DecidableEq, Repr

structure ChatError where
  code : ChatErrorCode
  message : String
deriving DecidableEq, Repr

/-- `SessionCreated.PlayerInfo`. -/
structure PlayerInfo where
  playerId : String
  playerName : String
deriving DecidableEq, Repr

structure SessionCreated where
  sessionId : String
  players : List PlayerInfo
deriving DecidableEq, Repr

structure SessionEnded where
  sessionId : String
deriving DecidableEq, Repr

/-- `ChatEnvelope`; the join and leave messages carry a channel that nothing
reads. -/
inductive ChatEnvelope
  | notSet
  | auth (auth : ChatAuth)
  | send (message : ChatSend)
  | joinChannel (channel : ChatChannel)
  | leaveChannel (channel : ChatChannel)
  | heartbeat
  | authResult (result : ChatAuthResult)
  | receive (receive : ChatReceive)
  | systemMessage (channel : ChatChannel) (content : String) (timestamp : ℕ)
  | error (error : ChatError)
  | sessionCreated (message : SessionCreated)
  | sessionEnded (message : SessionEnded)
deriving DecidableEq, Repr

end Chat

end SosBackend
