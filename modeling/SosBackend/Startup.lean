import SosBackend.Common.Config
import SosBackend.Library.Assignments

/-!
# The settings the servers start with

Each `main` has a variable for every setting, with a built-in value. One `try` block constructs
the `Config` and assigns what its accessors return to the variables, in order; on an exception
it is left for a `catch` that logs that the defaults are used.
-/

namespace SosBackend

/-- The variables of the Room Server's `main`. -/
inductive RoomSetting
  | roomPort
  | internalPort
  | maxRooms
  | maxPlayersPerRoom
  | redisHost
  | redisPort
  | redisPassword
  | tokenTtlSeconds
  | heartbeatTimeoutSeconds
  | gameServerHeartbeatTtlSeconds
  | rateLimitMax
  | rateLimitWindowSeconds
  | gameServerHost
  | gameServerPort
  | chatServerHost
  | chatServerPort
deriving DecidableEq, Repr

namespace RoomSetting

abbrev Value : RoomSetting → Type
  | roomPort | internalPort | redisPort | gameServerPort | chatServerPort => UInt16
  | redisHost | redisPassword | gameServerHost | chatServerHost => String
  | maxRooms | maxPlayersPerRoom | tokenTtlSeconds | heartbeatTimeoutSeconds
  | gameServerHeartbeatTtlSeconds | rateLimitMax | rateLimitWindowSeconds => UInt32

def default : (setting : RoomSetting) → setting.Value
  | roomPort => (8080 : UInt16)
  | internalPort => (8081 : UInt16)
  | maxRooms => (100 : UInt32)
  | maxPlayersPerRoom => (8 : UInt32)
  | redisHost => "127.0.0.1"
  | redisPort => (6379 : UInt16)
  | redisPassword => ""
  | tokenTtlSeconds => (60 : UInt32)
  | heartbeatTimeoutSeconds => (30 : UInt32)
  | gameServerHeartbeatTtlSeconds => (90 : UInt32)
  | rateLimitMax => (20 : UInt32)
  | rateLimitWindowSeconds => (10 : UInt32)
  | gameServerHost => "127.0.0.1"
  | gameServerPort => (7979 : UInt16)
  | chatServerHost => "127.0.0.1"
  | chatServerPort => (8083 : UInt16)

/-- The accessor whose result is assigned to the variable. -/
def read {lib : JsonLibrary} (config : Config lib) :
    (setting : RoomSetting) → Option setting.Value
  | roomPort => config.roomPort
  | internalPort => config.internalPort
  | maxRooms => config.maxRooms
  | maxPlayersPerRoom => config.maxPlayersPerRoom
  | redisHost => config.redisHost
  | redisPort => config.redisPort
  | redisPassword => config.redisPassword
  | tokenTtlSeconds => config.tokenTtlSeconds
  | heartbeatTimeoutSeconds => config.heartbeatTimeoutSeconds
  | gameServerHeartbeatTtlSeconds => config.gameServerHeartbeatTtlSeconds
  | rateLimitMax => config.rateLimitMax
  | rateLimitWindowSeconds => config.rateLimitWindowSeconds
  | gameServerHost => config.gameServerHost
  | gameServerPort => config.gameServerPort
  | chatServerHost => config.chatServerHost
  | chatServerPort => config.chatServerPort

/-- The order of the assignments. -/
def assignments : List RoomSetting :=
  [roomPort, internalPort, maxRooms, maxPlayersPerRoom, redisHost, redisPort, redisPassword,
    tokenTtlSeconds, heartbeatTimeoutSeconds, gameServerHeartbeatTtlSeconds, rateLimitMax,
    rateLimitWindowSeconds, gameServerHost, gameServerPort, chatServerHost, chatServerPort]

theorem mem_assignments (setting : RoomSetting) : setting ∈ assignments := by
  cases setting <;> decide

/-- The built-in value is the default of the accessor. -/
theorem read_of_none {lib : JsonLibrary} {config : Config lib}
    (h : ∀ key, config.data.find? key = none) (setting : RoomSetting) :
    setting.read config = some setting.default := by
  cases setting <;> exact Config.get_of_none (h _)

end RoomSetting

/-- The variables of the Chat Server's `main`. -/
inductive ChatSetting
  | chatPort
  | internalPort
  | redisHost
  | redisPort
  | redisPassword
  | heartbeatTimeoutSeconds
  | rateLimitMax
  | rateLimitWindowSeconds
  | maxMessageLength
  | historySize
  | sessionTtlSeconds
deriving DecidableEq, Repr

namespace ChatSetting

abbrev Value : ChatSetting → Type
  | chatPort | internalPort | redisPort => UInt16
  | redisHost | redisPassword => String
  | heartbeatTimeoutSeconds | rateLimitMax | rateLimitWindowSeconds | maxMessageLength
  | historySize | sessionTtlSeconds => UInt32

def default : (setting : ChatSetting) → setting.Value
  | chatPort => (8082 : UInt16)
  | internalPort => (8083 : UInt16)
  | redisHost => "127.0.0.1"
  | redisPort => (6379 : UInt16)
  | redisPassword => ""
  | heartbeatTimeoutSeconds => (90 : UInt32)
  | rateLimitMax => (10 : UInt32)
  | rateLimitWindowSeconds => (5 : UInt32)
  | maxMessageLength => (200 : UInt32)
  | historySize => (20 : UInt32)
  | sessionTtlSeconds => (7200 : UInt32)

def read {lib : JsonLibrary} (config : Config lib) :
    (setting : ChatSetting) → Option setting.Value
  | chatPort => config.chatPort
  | internalPort => config.chatInternalPort
  | redisHost => config.redisHost
  | redisPort => config.redisPort
  | redisPassword => config.redisPassword
  | heartbeatTimeoutSeconds => config.chatHeartbeatTimeoutSeconds
  | rateLimitMax => config.chatRateLimitMax
  | rateLimitWindowSeconds => config.chatRateLimitWindowSeconds
  | maxMessageLength => config.chatMaxMessageLength
  | historySize => config.chatHistorySize
  | sessionTtlSeconds => config.chatSessionTtlSeconds

def assignments : List ChatSetting :=
  [chatPort, internalPort, redisHost, redisPort, redisPassword, heartbeatTimeoutSeconds,
    rateLimitMax, rateLimitWindowSeconds, maxMessageLength, historySize, sessionTtlSeconds]

theorem mem_assignments (setting : ChatSetting) : setting ∈ assignments := by
  cases setting <;> decide

theorem read_of_none {lib : JsonLibrary} {config : Config lib}
    (h : ∀ key, config.data.find? key = none) (setting : ChatSetting) :
    setting.read config = some setting.default := by
  cases setting <;> exact Config.get_of_none (h _)

end ChatSetting

/-!
## The two mains
-/

/-- What is known of a server after the `catch`. -/
structure Startup {κ : Type} (α : κ → Type) where
  settings : (k : κ) → α k
  log : List String

open Assignments

section Startup

variable {κ : Type} [DecidableEq κ] {α : κ → Type} {lib : JsonLibrary}

/-- The block and its `catch`, which logs a line. -/
def startup (config : Option (Config lib)) (read : Config lib → (k : κ) → Option (α k))
    (assignments : List κ) (default : (k : κ) → α k) (line : String) : Startup α :=
  let (settings, thrown) := load config read assignments default
  { settings, log := if thrown then [line] else [] }

variable {config : Option (Config lib)} {read : Config lib → (k : κ) → Option (α k)}
  {assignments : List κ} {default : (k : κ) → α k} {line : String}

/-- The line is written whenever there has been an exception, whatever has been assigned
before it. -/
theorem mem_log_startup_iff (hall : ∀ k, k ∈ assignments) :
    line ∈ (startup config read assignments default line).log ↔
      ∀ c, config = some c → ∃ k, read c k = none := by
  rw [← load_thrown_iff (s := default) hall]
  simp [startup]

/-- The settings are all the values that the accessors return, or there is an exception and
they are all built in, if and only if every accessor that is called before the first that
throws returns what is built in. -/
theorem allOrNothing_startup_iff (hall : ∀ k, k ∈ assignments) :
    AllOrNothing config read default (startup config read assignments default line).settings ↔
      ∀ c, config = some c →
        (∀ k, read c k ≠ none) ∨
          ∀ k ∈ assigned (read c) assignments, read c k = some (default k) :=
  allOrNothing_load_iff hall

end Startup

section Main

variable (lib : JsonLibrary) (getenv : String → Option String) (file : Option (List UInt8))

/-- `main` of the Room Server, up to the connection to Redis. -/
def roomMain : Startup RoomSetting.Value :=
  startup (Config.construct lib getenv file) RoomSetting.read RoomSetting.assignments
    RoomSetting.default "[Room] Config file not found, using defaults"

/-- `main` of the Chat Server, up to the connection to Redis. -/
def chatMain : Startup ChatSetting.Value :=
  startup (Config.construct lib getenv file) ChatSetting.read ChatSetting.assignments
    ChatSetting.default "[Chat] Config file not found, using defaults"

/-- The Room Server starts with what is in the file, or with what is built in. -/
def RoomAllOrNothing : Prop :=
  AllOrNothing (Config.construct lib getenv file) RoomSetting.read RoomSetting.default
    (roomMain lib getenv file).settings

/-- The Chat Server starts with what is in the file, or with what is built in. -/
def ChatAllOrNothing : Prop :=
  AllOrNothing (Config.construct lib getenv file) ChatSetting.read ChatSetting.default
    (chatMain lib getenv file).settings

/-- Loading is all or nothing if and only if there is no `Config`, no accessor throws, or all
that are called before the first that throws return what is built in. -/
theorem allOrNothing_iff :
    (RoomAllOrNothing lib getenv file ↔
      ∀ config, Config.construct lib getenv file = some config →
        (∀ setting : RoomSetting, setting.read config ≠ none) ∨
          ∀ setting ∈ assigned (RoomSetting.read config) RoomSetting.assignments,
            setting.read config = some setting.default) ∧
    (ChatAllOrNothing lib getenv file ↔
      ∀ config, Config.construct lib getenv file = some config →
        (∀ setting : ChatSetting, setting.read config ≠ none) ∨
          ∀ setting ∈ assigned (ChatSetting.read config) ChatSetting.assignments,
            setting.read config = some setting.default) :=
  ⟨allOrNothing_startup_iff RoomSetting.mem_assignments,
    allOrNothing_startup_iff ChatSetting.mem_assignments⟩

end Main

/-!
## A password that is a number
-/

/-- A configuration file that a server with its own ports might have. -/
def portsContent : List UInt8 :=
  ("\x7b\"room_port\": 9090, \"chat_port\": 9091, \"redis_password\": 5\x7d".toList.map
    fun c => c.toNat.toUInt8)

def portsData : Json Empty :=
  .object [("room_port", .unsigned 9090), ("chat_port", .unsigned 9091),
    ("redis_password", .unsigned 5)]

/-- The JSON library on that file alone. -/
def portsLibrary : JsonLibrary where
  Double := Empty
  toUInt16 := Empty.elim
  toUInt32 := Empty.elim
  parse content := if content = portsContent then some portsData else none

theorem construct_ports :
    Config.construct portsLibrary (fun _ => none) (some portsContent) = some ⟨portsData⟩ := by
  have hparse : portsLibrary.parse portsContent = some portsData := by
    simp [portsLibrary]
  rw [Config.construct, Option.bind_eq_bind, Option.bind_some, Option.bind_eq_bind, hparse]
  rfl

/-- The ports are those of the file, the password and what comes after it are not. -/
theorem not_allOrNothing_password :
    ¬ RoomAllOrNothing portsLibrary (fun _ => none) (some portsContent) ∧
      ¬ ChatAllOrNothing portsLibrary (fun _ => none) (some portsContent) := by
  constructor
  · intro h
    rcases (allOrNothing_startup_iff RoomSetting.mem_assignments).mp h _ construct_ports with
      hall | hsame
    · exact hall .redisPassword rfl
    · have hport := hsame .roomPort (by decide)
      exact absurd (Option.some.inj hport) (by decide)
  · intro h
    rcases (allOrNothing_startup_iff ChatSetting.mem_assignments).mp h _ construct_ports with
      hall | hsame
    · exact hall .redisPassword rfl
    · have hport := hsame .chatPort (by decide)
      exact absurd (Option.some.inj hport) (by decide)

end SosBackend
