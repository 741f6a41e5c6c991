import SosBackend.Library.Json
import Mathlib.Data.Int.Notation

/-!
# The configuration file

`Config` holds the document of the configuration file, with the members that environment
variables override, and has one accessor for each member the servers read. An accessor
returns its default where there is no member, and throws where the member is of another
type.
-/

namespace SosBackend

/-- The JSON library, and the conversions of the floating-point numbers that it reads, which
C++ leaves open out of range. -/
structure JsonLibrary where
  Double : Type
  toUInt16 : Double → UInt16
  toUInt32 : Double → UInt32
  parse : List UInt8 → Option (Json Double)

/-!
## Numbers and strings from a document
-/

section Get

variable (lib : JsonLibrary)

/-- `get<uint16_t>`: every number is converted, as is a truth value. -/
def getUInt16 : Json lib.Double → Option UInt16
  | .unsigned n => some n.toUInt16
  | .integer n => some n.toUInt64.toUInt16
  | .float x => some (lib.toUInt16 x)
  | .boolean b => some (if b then 1 else 0)
  | _ => none

/-- `get<uint32_t>`. -/
def getUInt32 : Json lib.Double → Option UInt32
  | .unsigned n => some n.toUInt32
  | .integer n => some n.toUInt64.toUInt32
  | .float x => some (lib.toUInt32 x)
  | .boolean b => some (if b then 1 else 0)
  | _ => none

/-- `get<std::string>`. -/
def getString : Json lib.Double → Option String
  | .string s => some s
  | _ => none

end Get

/-- The decimal number that a list of digits shows. -/
def digitsValue (digits : List Char) : ℕ :=
  digits.foldl (fun n c => 10 * n + (c.toNat - '0'.toNat)) 0

def isspace (c : Char) : Bool :=
  c = ' ' ∨ '\t' ≤ c ∧ c ≤ '\r'

/-- `std::stoi`: white space and one sign, then digits up to the first other character. It
throws where there are no digits, and where an `int` does not hold the number. -/
def stoi (str : String) : Option ℤ :=
  let text := str.toList.dropWhile isspace
  let negative := text.head? = some '-'
  let signed := negative ∨ text.head? = some '+'
  let digits := (if signed then text.tail else text).takeWhile Char.isDigit
  let n : ℤ := if negative then -digitsValue digits else digitsValue digits
  if digits = [] then none
  else if -2147483648 ≤ n ∧ n ≤ 2147483647 then some n
  else none

example : stoi " -42px" = some (-42) := by decide

/-!
## Loading the file
-/

structure Config (lib : JsonLibrary) where
  data : Json lib.Double

namespace Config

variable {lib : JsonLibrary}

/-- `if (auto* val = std::getenv(name)) data_[key] = val;` -/
def overrideText (getenv : String → Option String) (name key : String)
    (data : Json lib.Double) : Option (Json lib.Double) :=
  match getenv name with
  | some val => data.assign key (.string val)
  | none => some data

/-- The same for a port, where every exception is caught and leaves the member as it is. -/
def overridePort (getenv : String → Option String) (name key : String)
    (data : Json lib.Double) : Json lib.Double :=
  match getenv name with
  | some val => ((stoi val).bind fun n => data.assign key (.integer (Int64.ofInt n))).getD data
  | none => data

variable (lib) in
/-- The constructor. There is no file, or it has a content. -/
def construct (getenv : String → Option String) (file : Option (List UInt8)) :
    Option (Config lib) := do
  let data ← lib.parse (← file)
  let data ← overrideText getenv "REDIS_HOST" "redis_host" data
  let data := overridePort getenv "REDIS_PORT" "redis_port" data
  let data ← overrideText getenv "REDIS_PASSWORD" "redis_password" data
  let data ← overrideText getenv "CHAT_SERVER_HOST" "chat_server_host" data
  let data := overridePort getenv "CHAT_SERVER_PORT" "chat_server_port" data
  return ⟨data⟩

/-- `get`, with the conversion to the type that is asked for. -/
def get {α : Type} (config : Config lib) (convert : Json lib.Double → Option α) (key : String)
    (default_value : α) : Option α :=
  match config.data.find? key with
  | some value => convert value
  | none => some default_value

theorem get_of_none {α : Type} {config : Config lib} {convert : Json lib.Double → Option α}
    {key : String} {default_value : α} (h : config.data.find? key = none) :
    config.get convert key default_value = some default_value := by
  rw [get, h]

/-!
### The accessors
-/

section Accessors

variable (config : Config lib)

def roomPort : Option UInt16 := config.get (getUInt16 lib) "room_port" 8080
def internalPort : Option UInt16 := config.get (getUInt16 lib) "internal_port" 8081
def redisHost : Option String := config.get (getString lib) "redis_host" "127.0.0.1"
def redisPort : Option UInt16 := config.get (getUInt16 lib) "redis_port" 6379
def redisPassword : Option String := config.get (getString lib) "redis_password" ""
def maxRooms : Option UInt32 := config.get (getUInt32 lib) "max_rooms" 100
def maxPlayersPerRoom : Option UInt32 := config.get (getUInt32 lib) "max_players_per_room" 8
def tokenTtlSeconds : Option UInt32 := config.get (getUInt32 lib) "token_ttl_seconds" 60
def heartbeatTimeoutSeconds : Option UInt32 :=
  config.get (getUInt32 lib) "heartbeat_timeout_seconds" 30
def gameServerHeartbeatTtlSeconds : Option UInt32 :=
  config.get (getUInt32 lib) "game_server_heartbeat_ttl_seconds" 90
def rateLimitMax : Option UInt32 := config.get (getUInt32 lib) "rate_limit_max" 20
def rateLimitWindowSeconds : Option UInt32 :=
  config.get (getUInt32 lib) "rate_limit_window_seconds" 10
def gameServerHost : Option String := config.get (getString lib) "game_server_host" "127.0.0.1"
def gameServerPort : Option UInt16 := config.get (getUInt16 lib) "game_server_port" 7979

def chatPort : Option UInt16 := config.get (getUInt16 lib) "chat_port" 8082
def chatInternalPort : Option UInt16 := config.get (getUInt16 lib) "chat_internal_port" 8083
def chatHeartbeatTimeoutSeconds : Option UInt32 :=
  config.get (getUInt32 lib) "chat_heartbeat_timeout_seconds" 90
def chatRateLimitMax : Option UInt32 := config.get (getUInt32 lib) "chat_rate_limit_max" 10
def chatRateLimitWindowSeconds : Option UInt32 :=
  config.get (getUInt32 lib) "chat_rate_limit_window_seconds" 5
def chatMaxMessageLength : Option UInt32 :=
  config.get (getUInt32 lib) "chat_max_message_length" 200
def chatHistorySize : Option UInt32 := config.get (getUInt32 lib) "chat_history_size" 20
def chatSessionTtlSeconds : Option UInt32 :=
  config.get (getUInt32 lib) "chat_session_ttl_seconds" 7200
def chatServerHost : Option String := config.get (getString lib) "chat_server_host" "127.0.0.1"
def chatServerPort : Option UInt16 := config.get (getUInt16 lib) "chat_server_port" 8083

end Accessors

/-!
### What the environment overrides
-/

variable {getenv : String → Option String} {file : Option (List UInt8)} {name key k : String}
  {data data' : Json lib.Double} {val : String}

theorem find?_overrideText_of_ne (hk : k ≠ key)
    (h : overrideText getenv name key data = some data') : data'.find? k = data.find? k := by
  rw [overrideText] at h
  split at h
  · exact Json.find?_assign_of_ne hk h
  · cases h
    rfl

theorem find?_overrideText_self (hname : getenv name = some val)
    (h : overrideText getenv name key data = some data') :
    data'.find? key = some (.string val) := by
  rw [overrideText, hname] at h
  exact Json.find?_assign_self h

theorem find?_overridePort_of_ne (hk : k ≠ key) :
    (overridePort getenv name key data).find? k = data.find? k := by
  rw [overridePort]
  split
  · next val _ =>
      cases h : (stoi val).bind fun n => data.assign key (.integer (Int64.ofInt n)) with
      | none => rfl
      | some data' =>
          obtain ⟨n, -, hassign⟩ := Option.bind_eq_some_iff.mp h
          exact Json.find?_assign_of_ne hk hassign
  · rfl

/-- The members that an environment variable overrides with its text. -/
def textOverrides : List (String × String) :=
  [("REDIS_HOST", "redis_host"), ("REDIS_PASSWORD", "redis_password"),
    ("CHAT_SERVER_HOST", "chat_server_host")]

/-- Those that one overrides with the number it shows. -/
def portOverrides : List (String × String) :=
  [("REDIS_PORT", "redis_port"), ("CHAT_SERVER_PORT", "chat_server_port")]

/-- The constructor, override by override. -/
theorem construct_cases {config : Config lib} (h : construct lib getenv file = some config) :
    ∃ content data₀ data₁ data₂ data₃, file = some content ∧ lib.parse content = some data₀ ∧
      overrideText getenv "REDIS_HOST" "redis_host" data₀ = some data₁ ∧
      overrideText getenv "REDIS_PASSWORD" "redis_password"
        (overridePort getenv "REDIS_PORT" "redis_port" data₁) = some data₂ ∧
      overrideText getenv "CHAT_SERVER_HOST" "chat_server_host" data₂ = some data₃ ∧
      config.data = overridePort getenv "CHAT_SERVER_PORT" "chat_server_port" data₃ := by
  obtain ⟨content, hfile, h⟩ := Option.bind_eq_some_iff.mp h
  obtain ⟨data₀, hparse, h⟩ := Option.bind_eq_some_iff.mp h
  obtain ⟨data₁, h₁, h⟩ := Option.bind_eq_some_iff.mp h
  obtain ⟨data₂, h₂, h⟩ := Option.bind_eq_some_iff.mp h
  obtain ⟨data₃, h₃, h⟩ := Option.bind_eq_some_iff.mp h
  cases h
  exact ⟨content, data₀, data₁, data₂, data₃, hfile, hparse, h₁, h₂, h₃, rfl⟩

/-- The other members are those of the file. -/
theorem find?_construct {config : Config lib} {content : List UInt8}
    (hk : ∀ o ∈ textOverrides ++ portOverrides, k ≠ o.2)
    (h : construct lib getenv (some content) = some config) :
    ∃ data, lib.parse content = some data ∧ config.data.find? k = data.find? k := by
  obtain ⟨content', data₀, data₁, data₂, data₃, hfile, hparse, h₁, h₂, h₃, hdata⟩ :=
    construct_cases h
  cases hfile
  refine ⟨data₀, hparse, ?_⟩
  rw [hdata, find?_overridePort_of_ne (hk ("CHAT_SERVER_PORT", "chat_server_port") (by decide)),
    find?_overrideText_of_ne (hk ("CHAT_SERVER_HOST", "chat_server_host") (by decide)) h₃,
    find?_overrideText_of_ne (hk ("REDIS_PASSWORD", "redis_password") (by decide)) h₂,
    find?_overridePort_of_ne (hk ("REDIS_PORT", "redis_port") (by decide)),
    find?_overrideText_of_ne (hk ("REDIS_HOST", "redis_host") (by decide)) h₁]

/-- A text from the environment takes the place of what is in the file. -/
theorem find?_construct_text {config : Config lib} (hkey : (name, key) ∈ textOverrides)
    (hname : getenv name = some val) (h : construct lib getenv file = some config) :
    config.data.find? key = some (.string val) := by
  obtain ⟨content, data₀, data₁, data₂, data₃, -, -, h₁, h₂, h₃, hdata⟩ := construct_cases h
  simp only [textOverrides, List.mem_cons, Prod.mk.injEq, List.not_mem_nil, or_false] at hkey
  rcases hkey with ⟨rfl, rfl⟩ | ⟨rfl, rfl⟩ | ⟨rfl, rfl⟩
  · rw [hdata, find?_overridePort_of_ne (by decide), find?_overrideText_of_ne (by decide) h₃,
      find?_overrideText_of_ne (by decide) h₂, find?_overridePort_of_ne (by decide),
      find?_overrideText_self hname h₁]
  · rw [hdata, find?_overridePort_of_ne (by decide), find?_overrideText_of_ne (by decide) h₃,
      find?_overrideText_self hname h₂]
  · rw [hdata, find?_overridePort_of_ne (by decide), find?_overrideText_self hname h₃]

end Config

end SosBackend
