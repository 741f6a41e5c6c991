import Mathlib.Algebra.Group.Nat.Defs
import SosBackend.Library.Regex
import SosBackend.Logging.Logger

/-!
# Vector's transforms of the log lines

`parse_cpp` takes a line of the servers apart, `route_cpp` picks the lines under
`Chat:Message`, and `extract_chat_fields` makes a row of `chat_messages` of each. The
header of a line can be read in one way only and has no comma, which is what the
results about chat lines rest on.
-/

namespace SosBackend

namespace Logging

open Regex

/-- What the transforms use of VRL: the Unicode classes of its regular expressions,
which are the usual ones on ASCII, `upcase` and the environment variables. -/
structure Vrl where
  digit : Char → Bool
  word : Char → Bool
  space : Char → Bool
  upcase : String → String
  getEnvVar : String → Option String
  digit_ascii : ∀ c : Char, c.toNat < 128 → digit c = c.isDigit
  word_ascii : ∀ c : Char, c.toNat < 128 → word c = (c.isAlphanum || c == '_')
  space_ascii : ∀ c : Char, c.toNat < 128 →
    space c = (c.isWhitespace || c == '\x0b' || c == '\x0c')
  space_of_word : ∀ c : Char, word c = true → space c = false

/-- VRL on ASCII texts, without environment variables. -/
def asciiVrl : Vrl where
  digit := Char.isDigit
  word c := c.isAlphanum || c == '_'
  space c := c.isWhitespace || c == '\x0b' || c == '\x0c'
  upcase := String.toUpper
  getEnvVar _ := none
  digit_ascii _ _ := rfl
  word_ascii _ _ := rfl
  space_ascii _ _ := rfl
  space_of_word c h := by
    rw [Bool.eq_false_iff]
    intro hspace
    simp only [Char.isWhitespace, Bool.or_eq_true, decide_eq_true_eq, beq_iff_eq] at hspace
    rcases hspace with ((((rfl | rfl) | rfl) | rfl) | rfl) | rfl
    all_goals exact absurd h (by decide)

/-!
## `parse_timestamp!`
-/

/-- A number of so many digits at the beginning of a text. -/
def readNumber (w : ℕ) (cs : List Char) : Option (ℕ × List Char) :=
  if (cs.take w).length = w ∧ (cs.take w).all Char.isDigit then
    some ((cs.take w).foldl (fun n c => 10 * n + (c.toNat - 48)) 0, cs.drop w)
  else none

def readChar (c : Char) : List Char → Option (List Char)
  | [] => none
  | d :: cs => if d = c then some cs else none

theorem readChar_cons (c : Char) (cs : List Char) : readChar c (c :: cs) = some cs :=
  if_pos rfl

/-- `parse_timestamp!` with the format `%Y-%m-%d %H:%M:%S%.3f`. -/
def parseTimestamp (cs : List Char) : Option Timestamp := do
  let (year, cs) ← readNumber 4 cs
  let cs ← readChar '-' cs
  let (month, cs) ← readNumber 2 cs
  let cs ← readChar '-' cs
  let (day, cs) ← readNumber 2 cs
  let cs ← readChar ' ' cs
  let (hour, cs) ← readNumber 2 cs
  let cs ← readChar ':' cs
  let (minute, cs) ← readNumber 2 cs
  let cs ← readChar ':' cs
  let (second, cs) ← readNumber 2 cs
  let cs ← readChar '.' cs
  let (milli, cs) ← readNumber 3 cs
  if h : (year < 10000 ∧ 1 ≤ month ∧ month ≤ 12 ∧ 1 ≤ day ∧ day ≤ daysOfMonth year month) ∧
      (hour < 24 ∧ minute < 60 ∧ second ≤ 60 ∧ milli < 1000) ∧ cs = [] then
    some ⟨year, month, day, hour, minute, second, milli, h.1, h.2.1⟩
  else none

theorem readNumber_padded {w n : ℕ} (h : n < 10 ^ w) (cs : List Char) :
    readNumber w (padded w n ++ cs) = some (n, cs) := by
  have hvalue : ∀ w n, n < 10 ^ w →
      (padded w n).foldl (fun n c => 10 * n + (c.toNat - 48)) 0 = n := by
    intro w
    induction w with
    | zero =>
        intro n hn
        exact (Nat.lt_one_iff.1 hn).symm
    | succ w ih =>
        intro n hn
        have hdigit : ∀ d < 10, (Nat.digitChar d).toNat - 48 = d := by decide
        rw [padded, List.foldl_append, ih (n / 10) (Nat.div_lt_of_lt_mul (by omega)),
          List.foldl_cons, List.foldl_nil, hdigit _ (Nat.mod_lt n (by decide))]
        omega
  have htake : (padded w n ++ cs).take w = padded w n :=
    List.take_left' (length_padded w n)
  have hdrop : (padded w n ++ cs).drop w = cs := List.drop_left' (length_padded w n)
  have hall : (padded w n).all Char.isDigit = true :=
    List.all_eq_true.2 fun c hc => (isDigit_padded hc).1
  rw [readNumber, htake, hdrop, if_pos ⟨length_padded w n, hall⟩, hvalue w n h]

theorem daysOfMonth_le (year month : ℕ) : daysOfMonth year month ≤ 31 := by
  unfold daysOfMonth
  split
  · split <;> omega
  · split <;> omega

/-- A time is read as it has been printed. -/
theorem parseTimestamp_format (t : Timestamp) : parseTimestamp t.format = some t := by
  obtain ⟨year, month, day, hour, minute, second, milli, hdate, htime⟩ := t
  have hdays := daysOfMonth_le year month
  have hmilli := readNumber_padded (w := 3) (n := milli) (by omega) []
  rw [List.append_nil] at hmilli
  have h4 : ∀ cs, readNumber 4 (padded 4 year ++ cs) = some (year, cs) :=
    readNumber_padded (by omega)
  have h2 : ∀ n, n < 100 → ∀ cs, readNumber 2 (padded 2 n ++ cs) = some (n, cs) :=
    fun n hn => readNumber_padded (by omega)
  rw [parseTimestamp, Timestamp.format, h4]
  simp only [Option.bind_eq_bind, Option.bind_some, readChar_cons]
  rw [h2 month (by omega)]
  simp only [Option.bind_some, readChar_cons]
  rw [h2 day (by omega)]
  simp only [Option.bind_some, readChar_cons]
  rw [h2 hour (by omega)]
  simp only [Option.bind_some, readChar_cons]
  rw [h2 minute (by omega)]
  simp only [Option.bind_some, readChar_cons]
  rw [h2 second (by omega)]
  simp only [Option.bind_some, readChar_cons, hmilli]
  exact dif_pos ⟨hdate, htime, trivial⟩

/-!
## The transforms
-/

/-- An event of the source `docker_logs`: a line, and the label `vector.service` of its
container. -/
structure DockerEvent where
  message : List Char
  service : Option String

/-- What `parse_cpp` makes of an event. -/
structure CppEvent where
  service : String
  timestamp : Timestamp
  level : String
  category : String
  message : String
  buildVersion : String
  sessionId : String := ""
  serverId : String
  recordType : String := "log"
  world : String := ""
  violationType : String := ""
  entityType : String := ""
  ghostId : ℕ := 0
  teamId : ℕ := 0
  networkId : ℕ := 0
  context : String := "{}"

/-- The fields of a chat message in its line. -/
structure ChatFields where
  channel : String
  senderId : String
  senderName : String
  sessionId : String
  targetId : String
  content : String
deriving DecidableEq, Repr

/-- A row of `chat_messages`. -/
structure ChatRow extends ChatFields where
  timestamp : Timestamp
deriving DecidableEq

def notNewline (c : Char) : Bool :=
  c != '\n'

def notComma (c : Char) : Bool :=
  c != ','

namespace Vrl

variable (v : Vrl)

def digits (n : ℕ) : Regex Char :=
  concat (List.replicate n (one v.digit))

def timestampRegex : Regex Char :=
  concat [v.digits 4, lit ['-'], v.digits 2, lit ['-'], v.digits 2, lit [' '], v.digits 2,
    lit [':'], v.digits 2, lit [':'], v.digits 2, lit ['.'], v.digits 3]

/-- The regular expression of `parse_cpp` up to the group `msg`. -/
def headerRegex : Regex Char :=
  concat [group "ts" v.timestampRegex, lit " | ".toList, group "level" (plus v.word),
    plus v.space, lit "| [".toList,
    group "category" (plus fun c => v.word c || c == ':'), lit "] ".toList]

def cppRegex : Regex Char :=
  seq v.headerRegex (group "msg" (many notNewline))

/-- The assignments of `parse_cpp`. -/
def cppEvent (service : Option String) (timestamp : Timestamp)
    (level category msg : List Char) : CppEvent where
  service := service.getD ""
  timestamp := timestamp
  level := v.upcase (String.ofList level)
  category := String.ofList category
  message := String.ofList msg
  buildVersion := (v.getEnvVar "BUILD_VERSION").getD "dev"
  serverId := (v.getEnvVar "SERVER_ID").getD "dev-1"

/-- There is no result where the program aborts, which drops the event, and where it
fails, which passes the event on as it came: with no category, so `route_cpp` does not
take it for a chat message. -/
def parseCpp (event : DockerEvent) : Option CppEvent := do
  let parsed ← v.cppRegex.first event.message
  let timestamp ← parseTimestamp (parsed.capture "ts")
  some (v.cppEvent event.service timestamp (parsed.capture "level")
    (parsed.capture "category") (parsed.capture "msg"))

end Vrl

/-- The route `chat_message` of `route_cpp`. -/
def CppEvent.isChatMessage (event : CppEvent) : Bool :=
  event.category == "Chat:Message"

def chatRegex : Regex Char :=
  concat [lit "channel=".toList, group "channel" (plus notComma),
    lit ", sender_id=".toList, group "sender_id" (plus notComma),
    lit ", sender_name=".toList, group "sender_name" (plus notComma),
    lit ", session_id=".toList, group "session_id" (many notComma),
    lit ", target_id=".toList, group "target_id" (many notComma),
    lit ", content=".toList, group "content" (many notNewline)]

/-- `extract_chat_fields` deletes the other fields of the event. -/
def extractChatFields (event : CppEvent) : Option ChatRow := do
  let parsed ← chatRegex.first event.message.toList
  some {
    channel := String.ofList (parsed.capture "channel")
    senderId := String.ofList (parsed.capture "sender_id")
    senderName := String.ofList (parsed.capture "sender_name")
    sessionId := String.ofList (parsed.capture "session_id")
    targetId := String.ofList (parsed.capture "target_id")
    content := String.ofList (parsed.capture "content")
    timestamp := event.timestamp }

namespace Vrl

variable (v : Vrl)

/-- The line is accepted under `Chat:Message`. -/
def isChatMessage (event : DockerEvent) : Bool :=
  (v.parseCpp event).any CppEvent.isChatMessage

/-- The row of `chat_messages` that comes of a line. -/
def chatRow (event : DockerEvent) : Option ChatRow :=
  ((v.parseCpp event).filter CppEvent.isChatMessage).bind extractChatFields

end Vrl

/-!
## The header of a line
-/

/-- What the expression of `parse_cpp` reads before the message of a line. -/
structure Header (v : Vrl) where
  ts : List Char
  level : List Char
  pad : List Char
  category : List Char
  reads_ts : Reads v.timestampRegex ts []
  level_ne : level ≠ []
  word_level : ∀ c ∈ level, v.word c = true
  pad_ne : pad ≠ []
  space_pad : ∀ c ∈ pad, v.space c = true
  category_ne : category ≠ []
  word_category : ∀ c ∈ category, (v.word c || c == ':') = true

namespace Header

variable {v : Vrl}

def text (h : Header v) : List Char :=
  h.ts ++ (" | ".toList ++ (h.level ++ (h.pad ++ ("| [".toList ++ (h.category ++
    "] ".toList)))))

def captures (h : Header v) : List (String × List Char) :=
  [("ts", h.ts), ("level", h.level), ("category", h.category)]

theorem rigid_timestampRegex (v : Vrl) : v.timestampRegex.Rigid := by
  have hdigits : ∀ n, (v.digits n).Rigid := by
    intro n
    refine rigid_concat fun r hr => ?_
    rw [List.eq_of_mem_replicate hr]
    trivial
  refine rigid_concat ?_
  simp only [List.forall_mem_cons, List.not_mem_nil, false_imp_iff, implies_true, and_true]
  exact ⟨hdigits 4, rigid_lit _, hdigits 2, rigid_lit _, hdigits 2, rigid_lit _, hdigits 2,
    rigid_lit _, hdigits 2, rigid_lit _, hdigits 2, rigid_lit _, hdigits 3⟩

theorem of_reads {text : List Char} {c : List (String × List Char)}
    (h : Reads v.headerRegex text c) : ∃ header : Header v, text = header.text ∧
      c = header.captures := by
  obtain ⟨ts, _, _, _, htsGroup, h₁, rfl, rfl⟩ := h.concat_cons
  obtain ⟨_, hts, rfl⟩ := htsGroup.of_group
  obtain ⟨rfl, -⟩ := hts.first_of_rigid (rigid_timestampRegex v)
  obtain ⟨_, _, _, _, hbar, h₂, rfl, rfl⟩ := h₁.concat_cons
  obtain ⟨rfl, rfl⟩ := hbar.of_lit
  obtain ⟨level, _, _, _, hlevelGroup, h₃, rfl, rfl⟩ := h₂.concat_cons
  obtain ⟨_, hlevelPlus, rfl⟩ := hlevelGroup.of_group
  obtain ⟨hword, hlevel, rfl⟩ := hlevelPlus.of_plus
  obtain ⟨pad, _, _, _, hpadPlus, h₄, rfl, rfl⟩ := h₃.concat_cons
  obtain ⟨hspace, hpad, rfl⟩ := hpadPlus.of_plus
  obtain ⟨_, _, _, _, hopen, h₅, rfl, rfl⟩ := h₄.concat_cons
  obtain ⟨rfl, rfl⟩ := hopen.of_lit
  obtain ⟨category, _, _, _, hcategoryGroup, h₆, rfl, rfl⟩ := h₅.concat_cons
  obtain ⟨_, hcategoryPlus, rfl⟩ := hcategoryGroup.of_group
  obtain ⟨hcolon, hcategory, rfl⟩ := hcategoryPlus.of_plus
  obtain ⟨_, _, _, _, hclose, h₇, rfl, rfl⟩ := h₆.concat_cons
  obtain ⟨rfl, rfl⟩ := hclose.of_lit
  obtain ⟨rfl, rfl⟩ := h₇.concat_nil
  refine ⟨⟨ts, level, pad, category, hts, hlevel, hword, hpad, hspace, hcategory, hcolon⟩,
    ?_, rfl⟩
  rw [List.append_nil]
  rfl

/-- A header is read in one way, whatever comes after it. -/
theorem first (h : Header v) (rest : List Char) :
    First v.headerRegex h.text rest h.captures := by
  obtain ⟨ts, level, pad, category, hts, hlevel, hword, hpad, hspace, hcategory, hcolon⟩ := h
  obtain ⟨-, hts⟩ := hts.first_of_rigid (rigid_timestampRegex v)
  have hclose : (v.word ']' || ']' == ':') = false := by
    rw [v.word_ascii ']' (by decide)]
    decide
  have hbar : v.space '|' = false := by
    rw [v.space_ascii '|' (by decide)]
    decide
  -- the level ends where the spaces begin
  have hlevelEnd : ∀ cs ds, ∀ c ∈ (pad ++ cs ++ ds).head?, v.word c = false := by
    intro cs ds c hc
    cases pad with
    | nil => exact absurd rfl hpad
    | cons d pad =>
        obtain rfl := Option.some.inj hc
        have hd := hspace d List.mem_cons_self
        rw [Bool.eq_false_iff]
        intro hword
        rw [v.space_of_word d hword] at hd
        exact Bool.false_ne_true hd
  have hpadEnd : ∀ cs ds, ∀ c ∈ ("| [".toList ++ cs ++ ds).head?, v.space c = false := by
    intro cs ds c hc
    obtain rfl := Option.some.inj hc
    exact hbar
  have hcategoryEnd : ∀ cs ds, ∀ c ∈ ("] ".toList ++ cs ++ ds).head?,
      (v.word c || c == ':') = false := by
    intro cs ds c hc
    obtain rfl := Option.some.inj hc
    exact hclose
  have h₁ := First.cons (First.lit "] ".toList rest) (First.nil rest)
  have h₂ := First.cons
    (First.group "category" (First.plus hcategory hcolon (hcategoryEnd _ rest))) h₁
  have h₃ := First.cons (First.lit "| [".toList _) h₂
  have h₄ := First.cons (First.plus hpad hspace (hpadEnd _ rest)) h₃
  have h₅ := First.cons
    (First.group "level" (First.plus hlevel hword (hlevelEnd _ rest))) h₄
  have h₆ := First.cons (First.lit " | ".toList _) h₅
  have h₇ := First.cons (First.group "ts" (hts _)) h₆
  rw [List.append_nil] at h₇
  exact h₇

theorem comma_not_mem (h : Header v) : ',' ∉ h.text := by
  intro hcomma
  have hdigit : v.digit ',' = false := (v.digit_ascii ',' (by decide)).trans (by decide)
  have hword : v.word ',' = false := (v.word_ascii ',' (by decide)).trans (by decide)
  have hspace : v.space ',' = false := (v.space_ascii ',' (by decide)).trans (by decide)
  have hsymbol := (reads_of_first (h.first [])).2.symbols ',' hcomma
  have hnone : v.headerRegex.symbols ',' = false := by
    simp [Vrl.headerRegex, Vrl.timestampRegex, Vrl.digits, concat, lit, plus, symbols,
      List.replicate_succ, hdigit, hword, hspace]
  rw [hnone] at hsymbol
  exact Bool.false_ne_true hsymbol

end Header

/-- After a header, the rest of the line is the message. -/
theorem first_cppRegex {v : Vrl} (h : Header v) (cs : List Char) :
    v.cppRegex.first (h.text ++ cs) = some ⟨h.text ++ cs.takeWhile notNewline,
      cs.dropWhile notNewline, h.captures ++ [("msg", cs.takeWhile notNewline)]⟩ := by
  have hall := First.seq (h.first _) (First.group "msg" (First.many_takeWhile notNewline cs))
  rw [First, List.append_assoc, List.takeWhile_append_dropWhile] at hall
  exact hall

theorem header_of_first {v : Vrl} {cs : List Char} {m : Match Char}
    (h : v.cppRegex.first cs = some m) : ∃ header : Header v, header.text <+: cs := by
  obtain ⟨heq, hreads⟩ := reads_of_first h
  generalize hc : m.captures = c at hreads
  generalize ht : m.text = text at hreads
  cases hreads with
  | seq hheader _ =>
      obtain ⟨header, rfl, -⟩ := Header.of_reads hheader
      refine ⟨header, ?_⟩
      rw [heq, ht, List.append_assoc]
      exact List.prefix_append _ _

theorem parseCpp_header {v : Vrl} (h : Header v) (cs : List Char) (service : Option String) :
    v.parseCpp ⟨h.text ++ cs, service⟩ = (parseTimestamp h.ts).map fun timestamp =>
      v.cppEvent service timestamp h.level h.category (cs.takeWhile notNewline) := by
  rw [Vrl.parseCpp, first_cppRegex h cs]
  have hlevel : ("level" == "ts") = false := by decide
  have hcategory : ("category" == "ts") = false ∧ ("category" == "level") = false := by decide
  have hmsg : ("msg" == "ts") = false ∧ ("msg" == "level") = false ∧
      ("msg" == "category") = false := by decide
  simp only [Match.capture, Header.captures, List.cons_append, List.nil_append,
    List.lookup_cons, beq_self_eq_true, hlevel, hcategory, hmsg, Option.getD_some,
    Option.bind_eq_bind, Option.bind_some]
  cases parseTimestamp h.ts with
  | none => rfl
  | some timestamp => rfl

/-- A header under which `route_cpp` takes a line for a chat message. -/
def Header.IsChat {v : Vrl} (h : Header v) : Prop :=
  (parseTimestamp h.ts).isSome = true ∧ String.ofList h.category = "Chat:Message"

theorem isChatMessage_header {v : Vrl} (h : Header v) (cs : List Char)
    (service : Option String) : v.isChatMessage ⟨h.text ++ cs, service⟩ = true ↔ h.IsChat := by
  rw [Vrl.isChatMessage, parseCpp_header, Header.IsChat]
  cases parseTimestamp h.ts with
  | none => simp
  | some timestamp =>
      rw [Option.map_some, Option.any_some, CppEvent.isChatMessage, beq_iff_eq]
      exact (and_iff_right rfl).symm

/-- A line is a chat line by its header alone. -/
theorem isChatMessage_iff {v : Vrl} {event : DockerEvent} :
    v.isChatMessage event = true ↔ ∃ h : Header v, h.IsChat ∧ h.text <+: event.message := by
  obtain ⟨cs, service⟩ := event
  constructor
  · intro hchat
    obtain ⟨e, he, -⟩ := (Option.any_eq_true _ _).1 hchat
    obtain ⟨m, hm, -⟩ := Option.bind_eq_some_iff.1 he
    obtain ⟨h, rest, rfl⟩ := header_of_first hm
    exact ⟨h, (isChatMessage_header h rest service).1 hchat, List.prefix_append _ _⟩
  · rintro ⟨h, hh, rest, rfl⟩
    exact (isChatMessage_header h rest service).2 hh

/-!
## The lines of the logger
-/

theorem reads_format (v : Vrl) (t : Timestamp) : Reads v.timestampRegex t.format [] := by
  have hdigits : ∀ w n, Reads (v.digits w) (padded w n) [] := by
    intro w n
    have hreads := reads_replicate fun c hc =>
      (v.digit_ascii c (isDigit_padded hc).2).trans (isDigit_padded (w := w) (n := n) hc).1
    rwa [length_padded] at hreads
  have hall := Reads.cons (hdigits 4 t.year) <| Reads.cons (reads_lit ['-']) <|
    Reads.cons (hdigits 2 t.month) <| Reads.cons (reads_lit ['-']) <|
    Reads.cons (hdigits 2 t.day) <| Reads.cons (reads_lit [' ']) <|
    Reads.cons (hdigits 2 t.hour) <| Reads.cons (reads_lit [':']) <|
    Reads.cons (hdigits 2 t.minute) <| Reads.cons (reads_lit [':']) <|
    Reads.cons (hdigits 2 t.second) <| Reads.cons (reads_lit ['.']) <|
    Reads.cons (hdigits 3 t.milli) Reads.nil
  rw [List.append_nil] at hall
  exact hall

/-- The header of what a call prints. -/
def LogCall.header (v : Vrl) (t : SystemTime) (call : LogCall) : Header v where
  ts := t.format
  level := call.level.name.toList.takeWhile (· != ' ')
  pad := call.level.name.toList.dropWhile (· != ' ') ++ [' ']
  category := call.category.name.toList
  reads_ts := reads_format v t.toTimestamp
  level_ne := by cases call.level <;> decide
  word_level := by
    have hascii : (call.level.name.toList.takeWhile (· != ' ')).all
        (fun c => c.toNat < 128 ∧ c.isAlphanum = true) = true := by
      cases call.level <;> decide
    intro c hc
    obtain ⟨hlt, halnum⟩ := of_decide_eq_true (List.all_eq_true.1 hascii c hc)
    rw [v.word_ascii c hlt, halnum, Bool.true_or]
  pad_ne := List.append_ne_nil_of_right_ne_nil _ (List.cons_ne_nil _ _)
  space_pad := by
    have hspace : (call.level.name.toList.dropWhile (· != ' ') ++ [' ']).all (· == ' ') = true := by
      cases call.level <;> decide
    intro c hc
    rw [eq_of_beq (List.all_eq_true.1 hspace c hc)]
    exact v.space_ascii ' ' (by decide)
  category_ne := by cases call.category <;> decide
  word_category := by
    have hascii : call.category.name.toList.all
        (fun c => c.toNat < 128 ∧ (c.isAlphanum = true ∨ c = ':')) = true := by
      cases call.category <;> decide
    intro c hc
    obtain ⟨hlt, halnum | rfl⟩ := of_decide_eq_true (List.all_eq_true.1 hascii c hc)
    · rw [v.word_ascii c hlt, halnum]
      rfl
    · rw [beq_self_eq_true, Bool.or_true]

theorem LogCall.header_text (v : Vrl) (t : SystemTime) (call : LogCall) :
    (call.header v t).text = call.start t := by
  simp only [LogCall.header, Header.text, LogCall.start, List.append_assoc]
  rw [← List.append_assoc (List.takeWhile _ _), List.takeWhile_append_dropWhile]
  rfl

/-- A line that a call prints without a line break is taken apart again. -/
theorem parseCpp_print (v : Vrl) (t : SystemTime) {call : LogCall}
    (hbody : '\n' ∉ call.body) (service : Option String) :
    v.parseCpp ⟨call.print t, service⟩ = some (v.cppEvent service t.toTimestamp
      (call.level.name.toList.takeWhile (· != ' ')) call.category.name.toList call.body) := by
  have hmsg : call.body.takeWhile notNewline = call.body := by
    refine List.takeWhile_eq_self_iff.2 fun c hc => ?_
    have hne : c ≠ '\n' := fun heq => hbody (heq ▸ hc)
    simpa [notNewline] using hne
  rw [call.print_eq_start, ← call.header_text v t, parseCpp_header, hmsg]
  simp only [LogCall.header]
  rw [parseTimestamp_format]
  rfl

/-!
## The fields of a chat line
-/

namespace ChatFields

/-- The call that prints the fields. -/
def call (f : ChatFields) : LogCall where
  level := .info
  category := .message
  message := "channel=" ++ f.channel
  fields := [("sender_id", f.senderId), ("sender_name", f.senderName),
    ("session_id", f.sessionId), ("target_id", f.targetId), ("content", f.content)]

def captures (f : ChatFields) : List (String × List Char) :=
  [("channel", f.channel.toList), ("sender_id", f.senderId.toList),
    ("sender_name", f.senderName.toList), ("session_id", f.sessionId.toList),
    ("target_id", f.targetId.toList), ("content", f.content.toList)]

/-- No field but the last has a comma. -/
structure Separated (f : ChatFields) : Prop where
  channel : ',' ∉ f.channel.toList
  senderId : ',' ∉ f.senderId.toList
  senderName : ',' ∉ f.senderName.toList
  sessionId : ',' ∉ f.sessionId.toList
  targetId : ',' ∉ f.targetId.toList

/-- The fields that the expression asks for are there. -/
structure Complete (f : ChatFields) : Prop where
  channel : f.channel ≠ ""
  senderId : f.senderId ≠ ""
  senderName : f.senderName ≠ ""

end ChatFields

theorem notComma_iff {s : String} : (∀ c ∈ s.toList, notComma c = true) ↔ ',' ∉ s.toList := by
  simp only [notComma, bne_iff_ne, ne_eq]
  exact ⟨fun h hc => h ',' hc rfl, fun h c hc heq => h (heq ▸ hc)⟩

theorem captures_of_first {cs : List Char} {m : Match Char} (h : chatRegex.first cs = some m) :
    ∃ f : ChatFields, m.captures = f.captures ∧ f.Separated := by
  obtain ⟨-, hreads⟩ := reads_of_first h
  obtain ⟨channel, _, _, _, hchannelPlus, h₁, hc₁⟩ := hreads.labelled
  obtain ⟨hchannel, -, rfl⟩ := hchannelPlus.of_plus
  obtain ⟨senderId, _, _, _, hsenderIdPlus, h₂, rfl⟩ := h₁.labelled
  obtain ⟨hsenderId, -, rfl⟩ := hsenderIdPlus.of_plus
  obtain ⟨senderName, _, _, _, hsenderNamePlus, h₃, rfl⟩ := h₂.labelled
  obtain ⟨hsenderName, -, rfl⟩ := hsenderNamePlus.of_plus
  obtain ⟨sessionId, _, _, _, hsessionIdMany, h₄, rfl⟩ := h₃.labelled
  obtain ⟨hsessionId, rfl⟩ := hsessionIdMany.of_many
  obtain ⟨targetId, _, _, _, htargetIdMany, h₅, rfl⟩ := h₄.labelled
  obtain ⟨htargetId, rfl⟩ := htargetIdMany.of_many
  obtain ⟨content, _, _, _, hcontentMany, h₆, rfl⟩ := h₅.labelled
  obtain ⟨-, rfl⟩ := hcontentMany.of_many
  obtain ⟨-, rfl⟩ := h₆.concat_nil
  have hfield : ∀ {cs : List Char}, (∀ c ∈ cs, notComma c = true) →
      ',' ∉ (String.ofList cs).toList := by
    intro cs hcs
    rw [← notComma_iff, String.toList_ofList]
    exact hcs
  refine ⟨⟨String.ofList channel, String.ofList senderId, String.ofList senderName,
    String.ofList sessionId, String.ofList targetId, String.ofList content⟩, ?_, ?_⟩
  · rw [hc₁]
    simp [ChatFields.captures]
  · exact ⟨hfield hchannel, hfield hsenderId, hfield hsenderName, hfield hsessionId,
      hfield htargetId⟩

theorem ChatFields.body_eq (f : ChatFields) : f.call.body =
    "channel=".toList ++ (f.channel.toList ++
      (", sender_id=".toList ++ (f.senderId.toList ++
        (", sender_name=".toList ++ (f.senderName.toList ++
          (", session_id=".toList ++ (f.sessionId.toList ++
            (", target_id=".toList ++ (f.targetId.toList ++
              (", content=".toList ++ (f.content.toList ++ []))))))))))) := by
  simp [ChatFields.call, LogCall.body, field]

theorem ChatFields.newline_not_mem_body_iff {f : ChatFields} : '\n' ∉ f.call.body ↔
    '\n' ∉ f.channel.toList ∧ '\n' ∉ f.senderId.toList ∧ '\n' ∉ f.senderName.toList ∧
      '\n' ∉ f.sessionId.toList ∧ '\n' ∉ f.targetId.toList ∧ '\n' ∉ f.content.toList := by
  rw [f.body_eq]
  simp [not_or]

theorem first_chatRegex {f : ChatFields} (hcomplete : f.Complete) (hseparated : f.Separated)
    (hline : '\n' ∉ f.content.toList) :
    First chatRegex f.call.body [] f.captures := by
  have hne : ∀ {s : String}, s ≠ "" → s.toList ≠ [] := fun h => by simpa using h
  -- a field ends where the label of the next one begins
  have hcomma : ∀ label cs : List Char, ∀ c ∈ ((',' :: label) ++ cs ++ []).head?,
      notComma c = false := by
    intro label cs c hc
    obtain rfl := Option.some.inj hc
    rfl
  have hcontent : ∀ c ∈ f.content.toList, notNewline c = true := by
    intro c hc
    have hne : c ≠ '\n' := fun heq => hline (heq ▸ hc)
    simpa [notNewline] using hne
  have hend : ∀ c ∈ ([] ++ [] : List Char).head?, notNewline c = false := by
    intro c hc
    cases hc
  have h₁ := First.labelled ", content=".toList "content" (First.many hcontent hend)
    (First.nil [])
  have h₂ := First.labelled ", target_id=".toList "target_id"
    (First.many (notComma_iff.2 hseparated.targetId) (hcomma _ _)) h₁
  have h₃ := First.labelled ", session_id=".toList "session_id"
    (First.many (notComma_iff.2 hseparated.sessionId) (hcomma _ _)) h₂
  have h₄ := First.labelled ", sender_name=".toList "sender_name"
    (First.plus (hne hcomplete.senderName) (notComma_iff.2 hseparated.senderName)
      (hcomma _ _)) h₃
  have h₅ := First.labelled ", sender_id=".toList "sender_id"
    (First.plus (hne hcomplete.senderId) (notComma_iff.2 hseparated.senderId)
      (hcomma _ _)) h₄
  have h₆ := First.labelled "channel=".toList "channel"
    (First.plus (hne hcomplete.channel) (notComma_iff.2 hseparated.channel) (hcomma _ _)) h₅
  rw [f.body_eq]
  exact h₆

theorem extractChatFields_eq {event : CppEvent} {m : Match Char} {f : ChatFields}
    (hm : chatRegex.first event.message.toList = some m) (hf : m.captures = f.captures) :
    extractChatFields event = some ⟨f, event.timestamp⟩ := by
  rw [extractChatFields, hm]
  simp [Match.capture, hf, ChatFields.captures, List.lookup_cons]

theorem separated_of_extractChatFields {event : CppEvent} {row : ChatRow}
    (h : extractChatFields event = some row) : row.toChatFields.Separated := by
  cases hm : chatRegex.first event.message.toList with
  | none =>
      rw [extractChatFields, hm] at h
      cases h
  | some m =>
      obtain ⟨f, hf, hseparated⟩ := captures_of_first hm
      rw [extractChatFields_eq hm hf] at h
      obtain rfl := Option.some.inj h
      exact hseparated

/-- What is printed for the fields of a chat message is one line, and they are the row
that comes of it. -/
def ChatFields.Recovered (v : Vrl) (f : ChatFields) : Prop :=
  ∀ t : SystemTime, lines (f.call.print t) = [f.call.print t] ∧
    ∀ service, v.chatRow ⟨f.call.print t, service⟩ = some ⟨f, t.toTimestamp⟩

theorem ChatFields.recovered_iff (v : Vrl) {f : ChatFields} (hcomplete : f.Complete) :
    f.Recovered v ↔ f.Separated ∧ '\n' ∉ f.call.body := by
  -- the row of a single line is that of its body
  have hrow : ∀ (t : SystemTime) (service : Option String), '\n' ∉ f.call.body →
      v.chatRow ⟨f.call.print t, service⟩ = extractChatFields (v.cppEvent service t.toTimestamp
        (f.call.level.name.toList.takeWhile (· != ' ')) f.call.category.name.toList
        f.call.body) := by
    intro t service hbody
    have hroute : (v.cppEvent service t.toTimestamp
        (f.call.level.name.toList.takeWhile (· != ' ')) f.call.category.name.toList
        f.call.body).isChatMessage = true :=
      beq_iff_eq.2 String.ofList_toList
    rw [Vrl.chatRow, parseCpp_print v t hbody, Option.filter_some_pos hroute, Option.bind_some]
  constructor
  · intro h
    obtain ⟨hline, hfields⟩ := h default
    have hbody := (f.call.lines_print_iff default).1 hline
    have hextract := hfields none
    rw [hrow default none hbody] at hextract
    exact ⟨separated_of_extractChatFields hextract, hbody⟩
  · rintro ⟨hseparated, hbody⟩ t
    refine ⟨(f.call.lines_print_iff t).2 hbody, fun service => ?_⟩
    obtain ⟨-, -, -, -, -, hcontent⟩ := newline_not_mem_body_iff.1 hbody
    have hfirst := first_chatRegex hcomplete hseparated hcontent
    rw [First, List.append_nil] at hfirst
    rw [hrow t service hbody]
    refine extractChatFields_eq (m := ⟨f.call.body, [], f.captures⟩) ?_ rfl
    rw [Vrl.cppEvent, String.toList_ofList]
    exact hfirst

end Logging

end SosBackend
