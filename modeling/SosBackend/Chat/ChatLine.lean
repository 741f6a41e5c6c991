import SosBackend.Chat.Delivery
import SosBackend.Chat.Logs
import SosBackend.Chat.Records
import SosBackend.Logging.Vector

/-!
# The chat line and its extraction

A message that is accepted is logged on a line of its own, from which Vector gets the
row of `chat_messages` back. Of what a client chooses, the name and the content are
cleaned for that line; the ids are printed as they are. The row is the message exactly
where they have no comma and no line break.
-/

namespace SosBackend

namespace Chat

open Logging

def ChatChannel.logName : ChatChannel → String
  | .unknown => ""
  | .lobby => "LOBBY"
  | .all => "ALL"
  | .whisper => "WHISPER"

/-- The fields of a message in `chat_messages`. -/
def chatFields (p : String) (state : PlayerState) (message : ChatSend) : ChatFields where
  channel := message.channel.logName
  senderId := p
  senderName := replace (stripNewlines state.playerName) ',' ' '
  sessionId := state.sessionId
  targetId := if message.channel = .whisper then message.whisperTarget else ""
  content := stripNewlines message.content

/-- A text that neither ends a field nor a line. -/
def IsPlain (s : String) : Prop :=
  ',' ∉ s.toList ∧ '\n' ∉ s.toList

instance (s : String) : Decidable (IsPlain s) :=
  inferInstanceAs (Decidable (_ ∧ _))

namespace ChatServer

variable {env : Env} {σ : ChatServer} {p : String} {state : PlayerState} {message : ChatSend}

/-- From the line of the message, which is one line, Vector gets the message back. -/
def LineInverse (v : Vrl) (what : ℕ → SingleLine) (env : Env) (σ : ChatServer) (p : String)
    (state : PlayerState) (message : ChatSend) : Prop :=
  ∃ call, (σ.handleChatSendLogs what env p message).filter (·.category = .message) = [call] ∧
    ∀ t : SystemTime, lines (call.print t) = [call.print t] ∧ ∀ service,
      v.chatRow ⟨call.print t, service⟩ = some ⟨chatFields p state message, t.toTimestamp⟩

/-!
## Cleaning
-/

theorem mem_replace {s : String} {a b c : Char} (h : c ∈ (replace s a b).toList) :
    c = b ∨ c ∈ s.toList ∧ c ≠ a := by
  rw [replace, String.toList_ofList] at h
  obtain ⟨d, hd, hc⟩ := List.mem_map.1 h
  split at hc
  · exact Or.inl hc.symm
  · next hda =>
      subst hc
      exact Or.inr ⟨hd, by simpa using hda⟩

theorem replace_ne_empty {s : String} (h : s ≠ "") (a b : Char) : replace s a b ≠ "" := by
  intro heq
  have hlist := congrArg String.toList heq
  rw [replace, String.toList_ofList] at hlist
  simp only [String.toList_empty, List.map_eq_nil_iff, String.toList_eq_nil_iff] at hlist
  exact h hlist

theorem newline_not_mem_stripNewlines (s : String) : '\n' ∉ (stripNewlines s).toList := by
  intro h
  rcases mem_replace h with h | ⟨h, -⟩
  · exact absurd h (by decide)
  · rcases mem_replace h with h | ⟨-, h⟩
    · exact absurd h (by decide)
    · exact h rfl

/-- The name is cleaned of what would end its field or the line. -/
theorem isPlain_safeName (s : String) : IsPlain (replace (stripNewlines s) ',' ' ') := by
  constructor
  · intro h
    rcases mem_replace h with h | ⟨-, h⟩
    · exact absurd h (by decide)
    · exact h rfl
  · intro h
    rcases mem_replace h with h | ⟨h, -⟩
    · exact absurd h (by decide)
    · exact newline_not_mem_stripNewlines s h

/-!
## The line of a message
-/

/-- A message that is refused is not logged. -/
theorem handleChatSendLogs_of_refused (what : ℕ → SingleLine) {e : ChatError}
    (hp : σ.manager.players.find? p = some state) (h : refusal env σ state message = some e) :
    σ.handleChatSendLogs what env p message = [] := by
  unfold refusal at h
  rw [handleChatSendLogs, hp]
  simp only
  cases hcontent : messageError env message.content with
  | some e => rfl
  | none =>
      rw [hcontent] at h
      simp only [deliverLogs] at h ⊢
      cases hchannel : message.channel with
      | unknown => rfl
      | lobby =>
          rw [hchannel] at h
          obtain ⟨hlobby, -⟩ := Option.ite_none_left_eq_some.1 h
          exact if_neg hlobby
      | all =>
          rw [hchannel] at h
          obtain ⟨hsid, -⟩ := Option.ite_none_right_eq_some.1 h
          exact if_pos (beq_iff_eq.2 hsid)
      | whisper =>
          rw [hchannel] at h
          simp only at h ⊢
          by_cases htarget : message.whisperTarget = ""
          · exact if_pos (beq_iff_eq.2 htarget)
          · rw [if_neg htarget] at h
            obtain ⟨hcontains, -⟩ := Option.ite_none_left_eq_some.1 h
            rw [if_neg (by simpa using htarget), if_neg hcontains]

/-- The call after a history that could not be saved. -/
def IsHistoryError (what : ℕ → SingleLine) (sid : String) (call : LogCall) : Prop :=
  ∃ n, call = error "Failed to save history" [("session_id", sid), ("error", (what n).text)]

theorem saveToHistoryLogs_spec (what : ℕ → SingleLine) (env : Env) (sid : String)
    (receive : ChatReceive) (σ : ChatServer) :
    ∀ c ∈ σ.saveToHistoryLogs what env sid receive, IsHistoryError what sid c := by
  intro c hc
  unfold saveToHistoryLogs attemptLogs at hc
  split at hc
  · obtain ⟨n, -, rfl⟩ := Option.map_eq_some_iff.1 (Option.mem_toList.1 hc)
    exact ⟨n, rfl⟩
  · exact absurd hc List.not_mem_nil

/-- A message that is accepted is logged, at most after an error of its history. -/
theorem handleChatSendLogs_of_accepted (what : ℕ → SingleLine)
    (hp : σ.manager.players.find? p = some state) (h : refusal env σ state message = none) :
    ∃ before, (∀ c ∈ before, IsHistoryError what state.sessionId c) ∧
      σ.handleChatSendLogs what env p message =
        before ++ [(chatFields p state message).call] := by
  obtain ⟨hlobby, hall, hwhisper, hknown⟩ := of_accepted h
  have hnothing : ∀ c ∈ ([] : List LogCall), IsHistoryError what state.sessionId c :=
    fun c hc => absurd hc List.not_mem_nil
  rw [handleChatSendLogs, hp]
  simp only [messageError_of_accepted h, deliverLogs]
  cases hchannel : message.channel with
  | unknown => exact absurd hchannel hknown
  | lobby =>
      have hfields : (chatFields p state message).call =
          chatMessageCall "LOBBY" p state "" message.content := by
        rw [chatFields, hchannel]
        rfl
      simp only [hlobby hchannel, if_true]
      exact ⟨[], hnothing, by rw [hfields, List.nil_append]⟩
  | all =>
      have hfields : (chatFields p state message).call =
          chatMessageCall "ALL" p state "" message.content := by
        rw [chatFields, hchannel]
        rfl
      have hsid : (state.sessionId == "") = false := by simpa using hall hchannel
      simp only [hsid, Bool.false_eq_true, if_false]
      exact ⟨_, saveToHistoryLogs_spec what env _ _ _, by rw [hfields]⟩
  | whisper =>
      obtain ⟨htarget, hcontains⟩ := hwhisper hchannel
      have hfields : (chatFields p state message).call =
          chatMessageCall "WHISPER" p state message.whisperTarget message.content := by
        rw [chatFields, hchannel]
        rfl
      have hne : (message.whisperTarget == "") = false := by simpa using htarget
      simp only [hne, hcontains, Bool.false_eq_true, if_false, if_true]
      exact ⟨[], hnothing, by rw [hfields, List.nil_append]⟩

/-- A message that is accepted is logged once under `Chat:Message`. -/
theorem chatLogs_of_accepted (what : ℕ → SingleLine)
    (hp : σ.manager.players.find? p = some state) (h : refusal env σ state message = none) :
    (σ.handleChatSendLogs what env p message).filter (·.category = .message) =
      [(chatFields p state message).call] := by
  obtain ⟨before, hbefore, heq⟩ := handleChatSendLogs_of_accepted what hp h
  have hnone : before.filter (·.category = .message) = [] := by
    rw [List.filter_eq_nil_iff]
    intro c hc
    obtain ⟨n, rfl⟩ := hbefore c hc
    simp [error]
  rw [heq, List.filter_append, hnone, List.nil_append]
  rfl

theorem lineInverse_iff_recovered (v : Vrl) (what : ℕ → SingleLine)
    (hp : σ.manager.players.find? p = some state) (h : refusal env σ state message = none) :
    LineInverse v what env σ p state message ↔ (chatFields p state message).Recovered v := by
  rw [LineInverse, chatLogs_of_accepted what hp h]
  constructor
  · rintro ⟨call, hcall, hlines⟩
    obtain rfl := List.singleton_inj.1 hcall
    exact hlines
  · exact fun hlines => ⟨_, rfl, hlines⟩

/-- The fields that a client may choose freely are the ids. -/
theorem recovered_iff (v : Vrl) (hid : p ≠ "") (hname : state.playerName ≠ "")
    (hchannel : message.channel ≠ .unknown) :
    (chatFields p state message).Recovered v ↔ IsPlain p ∧ IsPlain state.sessionId ∧
      (message.channel = .whisper → IsPlain message.whisperTarget) := by
  have hlog : message.channel.logName ≠ "" ∧ IsPlain message.channel.logName := by
    cases hc : message.channel with
    | unknown => exact absurd hc hchannel
    | _ => decide
  have hcomplete : (chatFields p state message).Complete :=
    ⟨hlog.1, hid, replace_ne_empty (replace_ne_empty (replace_ne_empty hname _ _) _ _) _ _⟩
  have hsafe := isPlain_safeName state.playerName
  have htarget : IsPlain (chatFields p state message).targetId ↔
      (message.channel = .whisper → IsPlain message.whisperTarget) := by
    simp only [chatFields]
    split
    · next hwhisper => exact ⟨fun h _ => h, fun h => h hwhisper⟩
    · next hwhisper => exact ⟨fun _ h => absurd h hwhisper, fun _ => by decide⟩
  rw [ChatFields.recovered_iff v hcomplete, ChatFields.newline_not_mem_body_iff, ← htarget]
  constructor
  · rintro ⟨hseparated, -, hsender, -, hsession, htarget, -⟩
    exact ⟨⟨hseparated.senderId, hsender⟩, ⟨hseparated.sessionId, hsession⟩,
      ⟨hseparated.targetId, htarget⟩⟩
  · rintro ⟨hsender, hsession, htarget⟩
    exact ⟨⟨hlog.2.1, hsender.1, hsafe.1, hsession.1, htarget.1⟩, hlog.2.2, hsender.2, hsafe.2,
      hsession.2, htarget.2, newline_not_mem_stripNewlines _⟩

/-- A player has an id and a name. -/
theorem named_of_run {store : Redis.Keyspace} {is : List Input}
    (hrun : Run (Step env) (initial store) is σ) (hp : σ.manager.players.find? p = some state) :
    p ≠ "" ∧ state.playerName ≠ "" := by
  have hlasts : Lasts (fun p state => p ≠ "" ∧ state.playerName ≠ "") fun _ => True :=
    ⟨fun _ _ h => h, trivial⟩
  have hknown := hrun.invariant (fun σ i τ hstep => known_step hstep hlasts ?_)
    (known_initial hlasts store)
  · exact hknown.records p state hp
  · intro s auth hi haccepts inLobby
    rw [accepts, Bool.and_eq_true, ChatAuth.isComplete, Bool.and_eq_true, bne_iff_ne,
      bne_iff_ne] at haccepts
    exact ⟨haccepts.1, trivial⟩

/-- Vector gets an accepted message back from its line exactly where the ids in it, that of
the sender, of its session and of the target, have no comma and no line break. -/
theorem lineInverse_iff_plain (v : Vrl) (what : ℕ → SingleLine) {store : Redis.Keyspace}
    {is : List Input} (hrun : Run (Step env) (initial store) is σ)
    (hp : σ.manager.players.find? p = some state) (h : refusal env σ state message = none) :
    LineInverse v what env σ p state message ↔ IsPlain p ∧ IsPlain state.sessionId ∧
      (message.channel = .whisper → IsPlain message.whisperTarget) := by
  obtain ⟨hid, hname⟩ := named_of_run hrun hp
  rw [lineInverse_iff_recovered v what hp h]
  exact recovered_iff v hid hname (of_accepted h).2.2.2

/-- Every message that is accepted in a run is got back from its line. -/
def LinesInverse (v : Vrl) (what : ℕ → SingleLine) (env : Env) : Prop :=
  ∀ (store : Redis.Keyspace) (is : List Input) (σ : ChatServer),
    Run (Step env) (initial store) is σ → ∀ (p : String) (state : PlayerState)
      (message : ChatSend), σ.manager.players.find? p = some state →
        refusal env σ state message = none → LineInverse v what env σ p state message

/-- A player writes to the lobby. -/
theorem lineInverse_iff_plain_lobby : ∃ σ : ChatServer,
    refusal defaultEnv σ ⟨"P", "", 0, true⟩ ⟨.lobby, "hi", ""⟩ = none ∧
      LineInverse asciiVrl default defaultEnv σ "p" ⟨"P", "", 0, true⟩
        ⟨.lobby, "hi", ""⟩ := by
  obtain ⟨σ, hrun, hσ⟩ := exists_run_of_exec (fun _ _ => true) (step defaultEnv) (initial {})
    [.connect 0, .message 0 (.auth ⟨"p", "", "P"⟩)]
    (fun σ => (σ.manager.players.find? "p" == some ⟨"P", "", 0, true⟩) &&
      (refusal defaultEnv σ ⟨"P", "", 0, true⟩ ⟨.lobby, "hi", ""⟩ == none))
    (by decide +kernel)
  rw [Bool.and_eq_true, beq_iff_eq, beq_iff_eq] at hσ
  obtain ⟨hp, haccepted⟩ := hσ
  exact ⟨σ, haccepted, (lineInverse_iff_plain asciiVrl _ hrun.of_guarded hp haccepted).2
    ⟨by decide, by decide, fun h => by cases h⟩⟩

/-- The id of the sender has a comma. -/
theorem not_linesInverse_commaId :
    ¬ LinesInverse asciiVrl default defaultEnv := by
  intro hclaim
  obtain ⟨σ, hrun, hσ⟩ := exists_run_of_exec (fun _ _ => true) (step defaultEnv) (initial {})
    [.connect 0, .message 0 (.auth ⟨"a,b", "", "P"⟩)]
    (fun σ => (σ.manager.players.find? "a,b" == some ⟨"P", "", 0, true⟩) &&
      (refusal defaultEnv σ ⟨"P", "", 0, true⟩ ⟨.lobby, "hi", ""⟩ == none))
    (by decide +kernel)
  rw [Bool.and_eq_true, beq_iff_eq, beq_iff_eq] at hσ
  obtain ⟨hp, haccepted⟩ := hσ
  have hinverse := hclaim {} _ σ hrun.of_guarded "a,b" _ _ hp haccepted
  rw [lineInverse_iff_recovered asciiVrl _ hp haccepted,
    recovered_iff asciiVrl (by decide) (by decide) (by decide)] at hinverse
  exact absurd hinverse.1.1 (by decide)

end ChatServer

end Chat

end SosBackend
