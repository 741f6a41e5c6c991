import SosBackend.Chat.ChatLine
import SosBackend.Logging.Forgery

/-!
# The chat lines of the Chat Server

The output of the server is what its steps and the notices log. Vector takes a line of it
for a chat message in the first line of the call that logs a message as accepted, and
wherever a text from outside brings a line of its own along. No such text gets into the
output where the ids of authentications and sessions, and the names that are logged as
they are, are free of them.
-/

namespace SosBackend

namespace Chat

open Logging

/-- A step of the server, with the address of its session as it is printed, or a notice. -/
inductive LogEvent
  | input (i : Input) (remote : SingleLine)
  | notice (n : Notice)

/-- A call, with the event that it comes from and the state before that. -/
structure LogEntry where
  state : ChatServer
  event : LogEvent
  call : LogCall

namespace ChatServer

/-- A step of the server, if it is enabled, or a notice, which changes nothing. -/
def happen (env : Env) (σ : ChatServer) : LogEvent → Option ChatServer
  | .input i _ => step env σ i
  | .notice _ => some σ

def Happens (env : Env) (σ : ChatServer) (e : LogEvent) (τ : ChatServer) : Prop :=
  happen env σ e = some τ

def eventLogs (what : ℕ → SingleLine) (env : Env) (σ : ChatServer) : LogEvent → List LogCall
  | .input i remote => σ.stepLogs what env remote i
  | .notice n => [n.log σ]

def entries (what : ℕ → SingleLine) (env : Env) (σ : ChatServer) (e : LogEvent) :
    List LogEntry :=
  (eventLogs what env σ e).map fun call => ⟨σ, e, call⟩

/-- The entry is that of a message which is accepted from the player of its session. -/
def IsAccepted (env : Env) (entry : LogEntry) (f : ChatFields) : Prop :=
  ∃ s remote message state, entry.event = .input (.message s (.send message)) remote ∧
    (entry.state.sessions s).authenticated = true ∧ (entry.state.rateLimit env s).1 = true ∧
    entry.state.manager.players.find? (entry.state.sessions s).playerId = some state ∧
    refusal env entry.state state message = none ∧
    f = chatFields (entry.state.sessions s).playerId state message ∧ entry.call = f.call

/-- What is printed as it is forges no chat line: the ids of an authentication that is
accepted, its name if it is for the lobby, and the ids of sessions. -/
def printsHonestly (v : Vrl) (σ : ChatServer) : LogEvent → Bool
  | .input (.message _ (.auth auth)) _ => !σ.accepts auth ||
      !(forges v auth.playerId.toList || forges v auth.sessionId.toList ||
        auth.sessionId == "" && forges v auth.playerName.toList)
  | .input (.internalMessage (.sessionCreated message)) _ => !forges v message.sessionId.toList
  | .input (.internalMessage (.sessionEnded message)) _ => !forges v message.sessionId.toList
  | _ => true

/-!
## Harmless calls
-/

/-- A call that prints no chat line. -/
structure Harmless (v : Vrl) (call : LogCall) : Prop where
  category : call.category ≠ .message
  plain : call.Plain
  fields : ∀ x ∈ call.fields, forges v x.2.toList = false

theorem harmless_mk (v : Vrl) (level : Level) {category : Category} {message : String}
    {fields : List (String × String)} (hcategory : category ≠ .message)
    (hmessage : '\n' ∉ message.toList)
    (hfields : ∀ x ∈ fields, '\n' ∉ x.1.toList ∧ forges v x.2.toList = false) :
    Harmless v ⟨level, category, message, fields⟩ :=
  ⟨hcategory, ⟨hmessage, fun x hx => (hfields x hx).1⟩, fun x hx => (hfields x hx).2⟩

section harmless

variable {v : Vrl} {what : ℕ → SingleLine} {env : Env} {σ : ChatServer}

@[simp] theorem forges_text (x : SingleLine) : forges v x.text.toList = false :=
  forges_of_newline_not_mem x.newline_not_mem

theorem newline_not_mem_toDigits (n : ℕ) : '\n' ∉ Nat.toDigits 10 n := by
  intro h
  exact absurd (Nat.isDigit_of_mem_toDigits (by decide) (by decide) h) (by decide)

@[simp] theorem forges_toDigits (n : ℕ) : forges v (Nat.toDigits 10 n) = false :=
  forges_of_newline_not_mem (newline_not_mem_toDigits n)

theorem harmless_attemptLogs {cmds : List (Redis.Command Unit)} {call : ℕ → LogCall}
    (h : ∀ n, Harmless v (call n)) : ∀ c ∈ σ.attemptLogs env cmds call, Harmless v c := by
  intro c hc
  unfold attemptLogs at hc
  split at hc
  · obtain ⟨n, -, rfl⟩ := Option.map_eq_some_iff.1 (Option.mem_toList.1 hc)
    exact h n
  · exact absurd hc List.not_mem_nil

theorem harmless_takeOverLogs {p : String} {s : SessionPtr}
    (hp : ∀ state, σ.manager.players.find? p = some state → forges v p.toList = false) :
    ∀ c ∈ σ.takeOverLogs p s, Harmless v c := by
  intro c hc
  unfold takeOverLogs at hc
  split at hc
  · exact absurd hc List.not_mem_nil
  next state hstate =>
  split at hc
  · exact absurd hc List.not_mem_nil
  split at hc
  · obtain rfl := List.mem_singleton.1 hc
    exact harmless_mk v .info (by decide) (by decide) (by simp [hp state hstate])
  · exact absurd hc List.not_mem_nil

/-- A player has an id and a name, and no id forges a line. -/
def CleanRecord (v : Vrl) (p : String) (state : PlayerState) : Prop :=
  (p ≠ "" ∧ state.playerName ≠ "") ∧ forges v p.toList = false ∧
    forges v state.sessionId.toList = false

def CleanPlayer (v : Vrl) (p : String) : Prop :=
  forges v p.toList = false

theorem lasts_clean (v : Vrl) : Lasts (CleanRecord v) (CleanPlayer v) :=
  ⟨fun _ _ h => ⟨h.1, h.2.1, forges_nil⟩, forges_nil⟩

theorem harmless_sendHistoryLogs {p sid : String} (hp : forges v p.toList = false) :
    ∀ c ∈ σ.sendHistoryLogs what env p sid, Harmless v c := by
  intro c hc
  unfold sendHistoryLogs at hc
  split at hc
  · split at hc
    · obtain rfl := List.mem_singleton.1 hc
      exact harmless_mk v .err (by decide) (by decide) (by simp [hp])
    · exact absurd hc List.not_mem_nil
  · exact absurd hc List.not_mem_nil

theorem harmless_handleAuthLogs {auth : ChatAuth} {s : SessionPtr}
    (h : Known (CleanRecord v) (CleanPlayer v) σ) {remote : SingleLine}
    (hhonest : printsHonestly v σ (.input (.message s (.auth auth)) remote) = true) :
    ∀ c ∈ σ.handleAuthLogs what env auth s, Harmless v c := by
  intro c hc
  unfold handleAuthLogs at hc
  split at hc
  · exact absurd hc List.not_mem_nil
  next hfull =>
  have hcomplete : auth.isComplete = true := by
    simpa [ChatAuth.isComplete] using hfull
  have hkick : ∀ c ∈ σ.takeOverLogs auth.playerId s, Harmless v c :=
    harmless_takeOverLogs fun state hstate => (h.records _ state hstate).2.1
  simp only [contains_takeOver] at hc
  split at hc
  · next hlobby =>
      have haccepts : σ.accepts auth = true := by simp [accepts, hcomplete, admits, hlobby]
      simp only [printsHonestly, haccepts, hlobby] at hhonest
      simp only [Bool.not_true, Bool.false_or, Bool.true_and, Bool.not_eq_true',
        Bool.or_eq_false_iff] at hhonest
      rcases List.mem_append.1 hc with hc | hc
      · exact hkick c hc
      · obtain rfl := List.mem_singleton.1 hc
        exact harmless_mk v .info (by decide) (by decide) (by simp [hhonest])
  · next hlobby =>
      split at hc
      · next hcontains =>
          have haccepts : σ.accepts auth = true := by
            simp [accepts, hcomplete, admits, hcontains]
          rw [Bool.not_eq_true] at hlobby
          simp only [printsHonestly, haccepts, hlobby] at hhonest
          simp only [Bool.not_true, Bool.false_or, Bool.false_and, Bool.or_false,
            Bool.not_eq_true', Bool.or_eq_false_iff] at hhonest
          rcases List.mem_append.1 hc with hc | hc
          · rcases List.mem_append.1 hc with hc | hc
            · rcases List.mem_append.1 hc with hc | hc
              · exact hkick c hc
              · exact harmless_attemptLogs (fun n => harmless_mk v .err (by decide) (by decide)
                  (by simp [hhonest])) c hc
            · obtain rfl := List.mem_singleton.1 hc
              exact harmless_mk v .info (by decide) (by decide) (by simp [hhonest])
          · exact harmless_sendHistoryLogs hhonest.1 c hc
      · exact hkick c hc

theorem harmless_handleDisconnectLogs {p : String} (hp : forges v p.toList = false) :
    ∀ c ∈ σ.handleDisconnectLogs p, Harmless v c := by
  intro c hc
  unfold handleDisconnectLogs at hc
  split at hc
  · exact absurd hc List.not_mem_nil
  · obtain rfl := List.mem_singleton.1 hc
    exact harmless_mk v .info (by decide) (by decide) (by simp [hp])

theorem harmless_closeSessionLogs (h : Known (CleanRecord v) (CleanPlayer v) σ)
    (s : SessionPtr) : ∀ c ∈ σ.closeSessionLogs s, Harmless v c := by
  intro c hc
  have hplayer : ((σ.updateSession s fun c => { c with closed := true }).sessions s).playerId =
      (σ.sessions s).playerId := by
    simp [updateSession]
  unfold closeSessionLogs at hc
  split at hc
  · exact absurd hc List.not_mem_nil
  simp only [hplayer] at hc
  split at hc
  · exact harmless_handleDisconnectLogs (h.players s) c hc
  · exact absurd hc List.not_mem_nil

theorem harmless_saveSessionNamesLogs (sid : String) (players : List PlayerInfo)
    (σ : ChatServer) : ∀ c ∈ σ.saveSessionNamesLogs what env sid players, Harmless v c := by
  induction players generalizing σ with
  | nil => exact fun c hc => absurd hc List.not_mem_nil
  | cons player players ih =>
      intro c hc
      rcases List.mem_append.1 hc with hc | hc
      · exact harmless_attemptLogs
          (fun n => harmless_mk v .err (by decide) (by decide) (by simp)) c hc
      · exact ih _ c hc

theorem harmless_processInternalMessageLogs {envelope : ChatEnvelope} {remote : SingleLine}
    (hhonest : printsHonestly v σ (.input (.internalMessage envelope) remote) = true) :
    ∀ c ∈ σ.processInternalMessageLogs what env envelope, Harmless v c := by
  intro c hc
  unfold processInternalMessageLogs at hc
  split at hc
  · next message =>
      have hsid : forges v message.sessionId.toList = false := by
        simpa [printsHonestly] using hhonest
      rcases List.mem_append.1 hc with hc | hc
      · rcases List.mem_append.1 hc with hc | hc
        · exact harmless_saveSessionNamesLogs _ _ σ c hc
        · exact harmless_attemptLogs
            (fun n => harmless_mk v .err (by decide) (by decide) (by simp)) c hc
      · obtain rfl := List.mem_singleton.1 hc
        exact harmless_mk v .info (by decide) (by decide) (by simp [hsid])
  · next message =>
      have hsid : forges v message.sessionId.toList = false := by
        simpa [printsHonestly] using hhonest
      unfold handleSessionEndedLogs at hc
      split at hc
      · obtain rfl := List.mem_singleton.1 hc
        exact harmless_mk v .warn (by decide) (by decide) (by simp [hsid])
      · rcases List.mem_append.1 hc with hc | hc
        · exact harmless_attemptLogs
            (fun n => harmless_mk v .err (by decide) (by decide) (by simp)) c hc
        · obtain rfl := List.mem_singleton.1 hc
          exact harmless_mk v .info (by decide) (by decide) (by simp [hsid])
  · obtain rfl := List.mem_singleton.1 hc
    exact harmless_mk v .warn (by decide) (by decide) (by simp)

theorem harmless_notice (h : Known (CleanRecord v) (CleanPlayer v) σ) (n : Notice) :
    Harmless v (n.log σ) := by
  have hplayer : ∀ s, forges v (σ.sessions s).playerId.toList = false := h.players
  cases n with
  | listening port =>
      refine harmless_mk v .info (by decide) ?_ (by simp)
      simpa using newline_not_mem_toDigits port.toNat
  | internalListening port =>
      refine harmless_mk v .info (by decide) ?_ (by simp)
      simpa using newline_not_mem_toDigits port.toNat
  | signal number =>
      refine harmless_mk v .info (by decide) ?_ (by simp)
      simpa using newline_not_mem_toDigits number
  | roomConnected remote =>
      cases remote with
      | none => exact harmless_mk v .info (by decide) (by decide) (by simp)
      | some remote => exact harmless_mk v .info (by decide) (by decide) (by simp)
  | heartbeatTimeout s remote =>
      exact harmless_mk v .warn (by decide) (by decide) (by simp [hplayer s])
  | _ => exact harmless_mk v _ (by decide) (by decide) (by simp)

theorem harmless_rateLimitLogs (h : Known (CleanRecord v) (CleanPlayer v) σ)
    (s : SessionPtr) : ∀ c ∈ σ.rateLimitLogs what env s, Harmless v c := by
  have hplayer : forges v (σ.sessions s).playerId.toList = false := h.players s
  intro c hc
  unfold rateLimitLogs at hc
  split at hc
  · exact absurd hc List.not_mem_nil
  split at hc
  · exact absurd hc List.not_mem_nil
  · obtain rfl := List.mem_singleton.1 hc
    exact harmless_mk v .err (by decide) (by decide) (by simp [hplayer])

/-- A message logs what is harmless, and its line if it is accepted. -/
theorem of_mem_processSendLogs (h : Known (CleanRecord v) (CleanPlayer v) σ) {s : SessionPtr}
    {message : ChatSend} {remote : SingleLine} {c : LogCall}
    (hc : c ∈ σ.processSendLogs what env s message) :
    Harmless v c ∨ ∃ f, IsAccepted env ⟨σ, .input (.message s (.send message)) remote, c⟩ f := by
  unfold processSendLogs at hc
  split at hc
  · next hauthenticated =>
      rcases List.mem_append.1 hc with hc | hc
      · exact Or.inl (harmless_rateLimitLogs h s c hc)
      have hstores := stores_rateLimit env s σ
      split at hc
      · exact absurd hc List.not_mem_nil
      · next τ hlimit =>
          rw [hlimit] at hstores
          rw [hstores.sessions] at hc
          cases hp : σ.manager.players.find? (σ.sessions s).playerId with
          | none =>
              rw [handleChatSendLogs, hstores.manager, hp] at hc
              exact absurd hc List.not_mem_nil
          | some state =>
              have hp' := hp
              rw [← hstores.manager] at hp'
              have hrefusal : refusal env τ state message = refusal env σ state message :=
                refusal_of_manager hstores.manager state message
              cases hverdict : refusal env τ state message with
              | some e =>
                  rw [handleChatSendLogs_of_refused what hp' hverdict] at hc
                  exact absurd hc List.not_mem_nil
              | none =>
                  obtain ⟨before, hbefore, heq⟩ := handleChatSendLogs_of_accepted what hp' hverdict
                  rw [heq] at hc
                  rcases List.mem_append.1 hc with hc | hc
                  · obtain ⟨n, rfl⟩ := hbefore c hc
                    have hsid := (h.records _ state hp).2.2
                    exact Or.inl (harmless_mk v .err (by decide) (by decide) (by simp [hsid]))
                  · refine Or.inr ⟨_, s, remote, message, state, rfl, hauthenticated, ?_, hp, ?_,
                      rfl, List.mem_singleton.1 hc⟩
                    · rw [hlimit]
                    · rw [← hrefusal, hverdict]
  · exact absurd hc List.not_mem_nil

/-- An event that prints honestly logs what is harmless, and the line of a message that it
accepts. -/
theorem of_mem_eventLogs (h : Known (CleanRecord v) (CleanPlayer v) σ) {e : LogEvent}
    (hhonest : printsHonestly v σ e = true) {c : LogCall} (hc : c ∈ eventLogs what env σ e) :
    Harmless v c ∨ ∃ f, IsAccepted env ⟨σ, e, c⟩ f := by
  cases e with
  | notice n =>
      obtain rfl := List.mem_singleton.1 hc
      exact Or.inl (harmless_notice h n)
  | input i remote =>
  cases i with
  | connect s =>
      obtain rfl := List.mem_singleton.1 hc
      exact Or.inl (harmless_mk v .info (by decide) (by decide) (by simp))
  | message s envelope =>
      cases envelope with
      | auth auth => exact Or.inl (harmless_handleAuthLogs h hhonest c hc)
      | send message => exact of_mem_processSendLogs h hc
      | heartbeat =>
          have hplayer : forges v (σ.sessions s).playerId.toList = false := h.players s
          obtain rfl := List.mem_singleton.1 hc
          exact Or.inl (harmless_mk v .debug (by decide) (by decide) (by simp [hplayer]))
      | _ =>
          obtain rfl := List.mem_singleton.1 hc
          exact Or.inl (harmless_mk v .warn (by decide) (by decide) (by simp))
  | close s => exact Or.inl (harmless_closeSessionLogs h s c hc)
  | internalMessage envelope =>
      exact Or.inl (harmless_processInternalMessageLogs hhonest c hc)
  | _ => exact absurd hc List.not_mem_nil

end harmless

/-!
## The chat lines of a run
-/

/-- If Vector takes the line for a chat message, it is the first line of the call that logs
a message as accepted from its player. If the ids of the message are plain, the row that
comes of it is the message. -/
def IsGenuine (v : Vrl) (env : Env) (x : SystemTime × LogEntry) (line : List Char) : Prop :=
  ∀ service, v.isChatMessage ⟨line, service⟩ = true → ∃ f, IsAccepted env x.2 f ∧
    (lines (x.2.call.print x.1)).head? = some line ∧
    (IsPlain f.senderId ∧ IsPlain f.sessionId ∧ IsPlain f.targetId →
      v.chatRow ⟨line, service⟩ = some ⟨f, x.1.toTimestamp⟩)

/-- The lines of the output are those of the calls, and every chat line among them is that
of a message which has been accepted. -/
def GenuineOutput (v : Vrl) (env : Env) (out : List (SystemTime × LogEntry)) : Prop :=
  lines (stdout (out.map fun x => (x.1, x.2.call))) =
      (out.flatMap fun x => lines (x.2.call.print x.1)) ++ [[]] ∧
    ∀ x ∈ out, ∀ line ∈ lines (x.2.call.print x.1), IsGenuine v env x line

/-- The output of every run is genuine. -/
def ChatLinesGenuine (v : Vrl) (what : ℕ → SingleLine) (env : Env) : Prop :=
  ∀ (store : Redis.Keyspace) (es : List LogEvent) (out : List (SystemTime × LogEntry))
    (σ : ChatServer), Trace (Happens env) (entries what env) (initial store) es
      (out.map Prod.snd) σ → GenuineOutput v env out

section run

variable {v : Vrl} {what : ℕ → SingleLine} {env : Env} {σ τ : ChatServer}

theorem known_happens {e : LogEvent} (hstep : Guarded (printsHonestly v) (Happens env) σ e τ)
    (h : Known (CleanRecord v) (CleanPlayer v) σ) : Known (CleanRecord v) (CleanPlayer v) τ := by
  obtain ⟨hstep, hhonest⟩ := hstep
  cases e with
  | notice n =>
      obtain rfl := Option.some.inj hstep
      exact h
  | input i remote =>
      refine known_step hstep (lasts_clean v) ?_ h
      rintro s auth rfl haccepts inLobby
      have hnamed : auth.playerId ≠ "" ∧ auth.playerName ≠ "" := by
        rw [accepts, Bool.and_eq_true, ChatAuth.isComplete, Bool.and_eq_true, bne_iff_ne,
          bne_iff_ne] at haccepts
        exact haccepts.1
      simp only [printsHonestly, haccepts, Bool.not_true, Bool.false_or, Bool.not_eq_true',
        Bool.or_eq_false_iff] at hhonest
      exact ⟨⟨hnamed, hhonest.1.1, hhonest.1.2⟩, hhonest.1.1⟩

/-- Each entry is harmless or the line of a message that is accepted. -/
theorem known_of_trace {store : Redis.Keyspace} {es : List LogEvent} {out : List LogEntry}
    (h : Trace (Guarded (printsHonestly v) (Happens env)) (entries what env) (initial store)
      es out σ) :
    Known (CleanRecord v) (CleanPlayer v) σ ∧ ∀ entry ∈ out,
      Known (CleanRecord v) (CleanPlayer v) entry.state ∧
        (Harmless v entry.call ∨ ∃ f, IsAccepted env entry f) := by
  induction h with
  | nil =>
      exact ⟨known_initial (lasts_clean v) store,
        fun entry hentry => absurd hentry List.not_mem_nil⟩
  | snoc _ hstep ih =>
      refine ⟨known_happens hstep ih.1, fun entry hentry => ?_⟩
      rcases List.mem_append.1 hentry with hentry | hentry
      · exact ih.2 entry hentry
      · obtain ⟨c, hc, rfl⟩ := List.mem_map.1 hentry
        exact ⟨ih.1, of_mem_eventLogs ih.1 hstep.2 hc⟩

/-- The line of a message that is accepted is the only chat line of its call. -/
theorem isGenuine_of_isAccepted {t : SystemTime} {entry : LogEntry} {f : ChatFields}
    (h : Known (CleanRecord v) (CleanPlayer v) entry.state) (hf : IsAccepted env entry f)
    {line : List Char} (hline : line ∈ lines (entry.call.print t)) :
    IsGenuine v env (t, entry) line := by
  intro service hchat
  refine ⟨f, hf, ?_⟩
  obtain ⟨s, remote, message, state, -, -, -, hp, haccepted, rfl, hcall⟩ := hf
  obtain ⟨hlobby, hall, hwhisper, hknown⟩ := of_accepted haccepted
  obtain ⟨⟨hid, hname⟩, hsender, hsid⟩ := h.records _ state hp
  rw [hcall] at hline
  simp only [hcall]
  have hchannel : '\n' ∉ message.channel.logName.toList := by
    cases message.channel <;> decide
  have htarget : forges v (if message.channel = .whisper then message.whisperTarget
      else "").toList = false := by
    split
    · next hc =>
        obtain ⟨other, hother⟩ := Option.isSome_iff_exists.1 (hwhisper hc).2
        exact (h.records _ other hother).2.1
    · exact forges_nil
  have hplain : (chatFields (entry.state.sessions s).playerId state message).call.Plain := by
    refine ⟨?_, ?_⟩
    · simpa [ChatFields.call, chatFields] using hchannel
    · simp [ChatFields.call]
  have hfields : ∀ x ∈ (chatFields (entry.state.sessions s).playerId state message).call.fields,
      forges v x.2.toList = false := by
    simp only [ChatFields.call, chatFields, List.forall_mem_cons, List.not_mem_nil,
      false_imp_iff, implies_true, and_true]
    exact ⟨hsender, forges_of_newline_not_mem (isPlain_safeName _).2, hsid, htarget,
      forges_of_newline_not_mem (newline_not_mem_stripNewlines _)⟩
  obtain ⟨-, hfirst⟩ := LogCall.of_isChatMessage hplain hfields hline hchat
  refine ⟨hfirst, fun hplainFields => ?_⟩
  obtain ⟨hsenderPlain, hsidPlain, htargetPlain⟩ := hplainFields
  have hrecovered := (recovered_iff v hid hname hknown).2 ⟨hsenderPlain, hsidPlain, fun hc => by
    simpa [chatFields, hc] using htargetPlain⟩
  obtain ⟨hone, hrow⟩ := hrecovered t
  rw [hone] at hfirst
  obtain rfl := Option.some.inj hfirst
  exact hrow service

theorem genuineOutput_of_honest {store : Redis.Keyspace} {es : List LogEvent}
    {out : List (SystemTime × LogEntry)}
    (h : Trace (Guarded (printsHonestly v) (Happens env)) (entries what env) (initial store)
      es (out.map Prod.snd) σ) : GenuineOutput v env out := by
  refine ⟨?_, fun x hx line hline => ?_⟩
  · rw [lines_stdout, List.flatMap_map]
  · obtain ⟨hknown, hharmless | ⟨f, hf⟩⟩ :=
      (known_of_trace h).2 x.2 (List.mem_map_of_mem hx)
    · intro service hchat
      have hcategory := (LogCall.of_isChatMessage hharmless.plain hharmless.fields hline hchat).1
      exact absurd hcategory hharmless.category
    · exact isGenuine_of_isAccepted hknown hf hline

/-!
## Forged lines
-/

/-- An event that does not print honestly logs a field that forges a line. -/
theorem exists_forging {e : LogEvent} (h : printsHonestly v σ e = false) :
    (∀ s message remote, e ≠ .input (.message s (.send message)) remote) ∧
      ∃ c ∈ eventLogs what env σ e, c.Plain ∧ ∃ x ∈ c.fields, forges v x.2.toList = true := by
  have hplain : ∀ (level : Level) (message : String) (fields : List (String × String)),
      '\n' ∉ message.toList → (∀ x ∈ fields, '\n' ∉ x.1.toList) →
        (⟨level, .chat, message, fields⟩ : LogCall).Plain :=
    fun _ _ _ hmessage hnames => ⟨hmessage, hnames⟩
  cases e with
  | notice n => cases h
  | input i remote =>
  cases i with
  | message s envelope =>
      cases envelope with
      | auth auth =>
          refine ⟨fun _ _ _ heq => (by cases heq), ?_⟩
          simp only [printsHonestly, Bool.or_eq_false_iff, Bool.not_eq_false'] at h
          obtain ⟨haccepts, hforges⟩ := h
          rw [accepts, Bool.and_eq_true] at haccepts
          obtain ⟨hcomplete, hadmits⟩ := haccepts
          have hlogs : eventLogs what env σ (.input (.message s (.auth auth)) remote) =
              σ.handleAuthLogs what env auth s := rfl
          rw [hlogs, handleAuthLogs, if_neg (ChatAuth.not_empty_of_isComplete hcomplete)]
          simp only [contains_takeOver]
          rcases admits_cases hadmits with hlobby | ⟨hsid, hcontains⟩
          · rw [if_pos (beq_iff_eq.2 hlobby)]
            refine ⟨_, List.mem_append_right _ List.mem_cons_self,
              hplain _ _ _ (by decide) (by simp), ?_⟩
            simpa [hlobby, forges_nil, info] using hforges
          · rw [if_neg (by simpa using hsid), if_pos hcontains]
            refine ⟨_, List.mem_append_left _ (List.mem_append_right _ List.mem_cons_self),
              hplain _ _ _ (by decide) (by simp), ?_⟩
            simpa [hsid, info] using hforges
      | _ => cases h
  | internalMessage envelope =>
      cases envelope with
      | sessionCreated message =>
          refine ⟨fun _ _ _ heq => (by cases heq), ?_⟩
          have hforges : forges v message.sessionId.toList = true := by
            simpa [printsHonestly] using h
          exact ⟨_, List.mem_append_right _ List.mem_cons_self,
            hplain _ _ _ (by decide) (by simp), _, List.mem_cons_self, hforges⟩
      | sessionEnded message =>
          refine ⟨fun _ _ _ heq => (by cases heq), ?_⟩
          have hforges : forges v message.sessionId.toList = true := by
            simpa [printsHonestly] using h
          have hlogs : eventLogs what env σ
              (.input (.internalMessage (.sessionEnded message)) remote) =
                σ.handleSessionEndedLogs what env message := rfl
          rw [hlogs, handleSessionEndedLogs]
          split
          · exact ⟨_, List.mem_cons_self, hplain _ _ _ (by decide) (by simp), _,
              List.mem_cons_self, hforges⟩
          · exact ⟨_, List.mem_append_right _ List.mem_cons_self,
              hplain _ _ _ (by decide) (by simp), _, List.mem_cons_self, hforges⟩
      | _ => cases h
  | _ => cases h

/-- A field that forges a line makes a chat line behind the first line of its call. -/
theorem exists_chat_line {c : LogCall} (hplain : c.Plain) {x : String × String}
    (hx : x ∈ c.fields) (hforges : forges v x.2.toList = true) (t : SystemTime) :
    ∃ line ∈ lines (c.print t), v.isChatMessage ⟨line, none⟩ = true := by
  have hbody : forges v c.body = true := by
    rw [LogCall.forges_body hplain]
    exact List.any_eq_true.2 ⟨x, hx, hforges⟩
  obtain ⟨line, hline, hchat⟩ := List.any_eq_true.1 hbody
  refine ⟨line, ?_, hchat⟩
  obtain ⟨first, rest, hlines⟩ := exists_lines c.body
  rw [hlines, List.tail_cons] at hline
  rw [LogCall.print_eq_start, lines_append (c.newline_not_mem_start t), hlines,
    List.modifyHead_cons]
  exact List.mem_cons_of_mem _ hline

theorem honest_of_genuine {e : LogEvent} {out : List (SystemTime × LogEntry)}
    (hout : out.map Prod.snd = entries what env σ e)
    (h : ∀ x ∈ out, ∀ line ∈ lines (x.2.call.print x.1), IsGenuine v env x line) :
    printsHonestly v σ e = true := by
  by_contra hnot
  obtain ⟨hsend, c, hc, hplain, x, hx, hforges⟩ :=
    @exists_forging v what env σ e (Bool.eq_false_iff.2 hnot)
  have hentry : (⟨σ, e, c⟩ : LogEntry) ∈ out.map Prod.snd := by
    rw [hout]
    exact List.mem_map_of_mem hc
  obtain ⟨⟨t, entry⟩, hmem, rfl⟩ := List.mem_map.1 hentry
  obtain ⟨line, hline, hchat⟩ := exists_chat_line hplain hx hforges t
  obtain ⟨f, ⟨s, remote, message, state, hevent, -⟩, -⟩ := h _ hmem line hline none hchat
  exact hsend s message remote hevent

theorem honest_of_genuineOutput {store : Redis.Keyspace} {es : List LogEvent}
    {out : List (SystemTime × LogEntry)}
    (h : Trace (Happens env) (entries what env) (initial store) es (out.map Prod.snd) σ)
    (hgenuine : GenuineOutput v env out) :
    Trace (Guarded (printsHonestly v) (Happens env)) (entries what env) (initial store) es
      (out.map Prod.snd) σ := by
  obtain ⟨-, hlines⟩ := hgenuine
  generalize hall : out.map Prod.snd = all at h ⊢
  induction h generalizing out with
  | nil => exact Trace.nil
  | snoc _ hstep ih =>
      obtain ⟨before, after, rfl, hbefore, hafter⟩ := List.map_eq_append_iff.1 hall
      have hhonest := honest_of_genuine hafter fun x hx =>
        hlines x (List.mem_append_right _ hx)
      have hrest := ih (fun x hx => hlines x (List.mem_append_left _ hx)) hbefore
      exact Trace.snoc hrest ⟨hstep, hhonest⟩

/-- The output of a run is genuine exactly where each event prints honestly. -/
theorem genuineOutput_iff_honest {store : Redis.Keyspace} {es : List LogEvent}
    {out : List (SystemTime × LogEntry)}
    (h : Trace (Happens env) (entries what env) (initial store) es (out.map Prod.snd) σ) :
    GenuineOutput v env out ↔ Trace (Guarded (printsHonestly v) (Happens env))
      (entries what env) (initial store) es (out.map Prod.snd) σ :=
  ⟨honest_of_genuineOutput h, genuineOutput_of_honest⟩

end run

/-- A player writes to the lobby. -/
theorem genuineOutput_iff_honest_lobby : ∃ es out σ, es.length = 3 ∧
    Trace (Happens defaultEnv) (entries default defaultEnv) (initial {}) es
      (out.map Prod.snd) σ ∧ GenuineOutput asciiVrl defaultEnv out := by
  obtain ⟨σ, hrun, -⟩ := exists_run_of_exec (printsHonestly asciiVrl) (happen defaultEnv)
    (initial {}) [.input (.connect 0) default,
      .input (.message 0 (.auth ⟨"p", "", "P"⟩)) default,
      .input (.message 0 (.send ⟨.lobby, "hi", ""⟩)) default]
    (fun _ => true) (by decide +kernel)
  obtain ⟨entries, htrace⟩ := hrun.exists_trace (entries default defaultEnv)
  have hout : (entries.map fun entry => ((default : SystemTime), entry)).map Prod.snd =
      entries := List.map_map.trans (List.map_id _)
  rw [← hout] at htrace
  have hhappens := htrace.mono fun _ _ _ => And.left
  exact ⟨_, _, σ, rfl, hhappens, (genuineOutput_iff_honest hhappens).2 htrace⟩

/-- A name that brings a chat line of another player along. -/
def forgedName : String :=
  "P\n2026-01-01 00:00:00.000 | INFO    | [Chat:Message] channel=LOBBY, sender_id=v, sender_name=V, session_id=, target_id=, content=x"

theorem not_chatLinesGenuine_forgedName : ¬ ChatLinesGenuine asciiVrl default defaultEnv := by
  intro hclaim
  obtain ⟨σ, hrun, -⟩ := exists_run_of_exec (fun _ _ => true) (happen defaultEnv) (initial {})
    ([.input (.connect 0) default] ++
      [.input (.message 0 (.auth ⟨"p", "", forgedName⟩)) default])
    (fun _ => true) (by decide +kernel)
  obtain ⟨entries, htrace⟩ :=
    hrun.of_guarded.exists_trace (entries default defaultEnv)
  have hout : (entries.map fun entry => ((default : SystemTime), entry)).map Prod.snd =
      entries := List.map_map.trans (List.map_id _)
  rw [← hout] at htrace
  have hhonest := honest_of_genuineOutput htrace (hclaim _ _ _ _ htrace)
  obtain ⟨τ, -, -, hlast⟩ := hhonest.run.snoc_inv
  have haccepts : τ.accepts ⟨"p", "", forgedName⟩ = true := by
    simp [accepts, ChatAuth.isComplete, admits, forgedName]
  have hforges : forges asciiVrl forgedName.toList = true := by decide +kernel
  simp [printsHonestly, haccepts, hforges] at hlast

end ChatServer

end Chat

end SosBackend
