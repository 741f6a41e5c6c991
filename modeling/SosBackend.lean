import SosBackend.Library.Appends
import SosBackend.Library.LengthPrefixed
import SosBackend.Library.Lifecycle
import SosBackend.Protocol.Codec
import SosBackend.Protocol.Segmentation
import SosBackend.Protocol.Oversized
import SosBackend.Chat.Admission
import SosBackend.Chat.FailedAuth
import SosBackend.Chat.Identity
import SosBackend.Chat.LogLines
import SosBackend.Chat.Replay
import SosBackend.Common.Outbound
import SosBackend.Deployment
import SosBackend.Room.AfterClose
import SosBackend.Room.ChatServerChannel
import SosBackend.Room.Closing
import SosBackend.Room.Exclusion
import SosBackend.Room.Frames
import SosBackend.Room.Identity
import SosBackend.Room.LobbyPush
import SosBackend.Room.Occupancy
import SosBackend.Room.Partition
import SosBackend.Room.Releases
import SosBackend.Room.Tokens
import SosBackend.Room.View
import SosBackend.Common.UuidFormat
import SosBackend.Common.RateWindow
import SosBackend.Chat.History
import SosBackend.Room.Pages
import SosBackend.Room.Frozen
import SosBackend.Room.GameServers
import SosBackend.Room.Requests
import SosBackend.Startup
import SosBackend.Chat.SharedRedis
import SosBackend.Chat.Table
import SosBackend.Chat.WithoutRedis
import SosBackend.Deployment.Games
import SosBackend.Deployment.Links
import SosBackend.Deployment.SharedRedis
import SosBackend.Room.Lease
import SosBackend.Room.RedisFailure
import SosBackend.Room.SharedRedis
import SosBackend.Room.Reconnect
import SosBackend.Deployment.Expiry
import SosBackend.Chat.Flood
import SosBackend.Room.Flood
import SosBackend.Common.Heartbeat
import SosBackend.Room.Debounce
