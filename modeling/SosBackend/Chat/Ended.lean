import SosBackend.Chat.Keys

/-!
# Sessions that have ended

The end of a session takes its channel and sends its members to the lobby. From then on
no record mentions the session, so no message is written to its history, and nobody can
enter it. Its keys in Redis go with the channel, and nothing writes them afterwards. All
of this rests on the agreement of the records and the members of the channels, which
asks that no session is created twice.
-/

namespace SosBackend

namespace Chat

/-- The session that an input creates. -/
def Input.created : Input → Option String
  | .internalMessage (.sessionCreated session) => some session.sessionId
  | _ => none

/-- No session is created twice. -/
def CreatedOnce (is : List Input) : Prop :=
  (is.filterMap Input.created).Nodup

instance (is : List Input) : Decidable (CreatedOnce is) :=
  inferInstanceAs (Decidable (List.Nodup _))

namespace Directory

variable {v w : Directory} {x : String}

/-- Only the opening of a session makes a channel. -/
theorem isSome_of_place {a : Placement} (h : Place v a w)
    (ha : ∀ message, a = .openSession message → message.sessionId ≠ x)
    (hw : (w.channels x).isSome) : (v.channels x).isSome := by
  obtain ⟨channel, hchannel⟩ := Option.isSome_iff_exists.1 hw
  by_cases hopens : ∃ message, a = .openSession message
  · obtain ⟨message, rfl⟩ := hopens
    rcases channels_openSession h hchannel with ⟨hsid, -⟩ | hx
    · exact absurd hsid.symm (ha message rfl)
    · exact Option.isSome_iff_exists.2 ⟨channel, hx⟩
  · obtain ⟨channel', hx, -⟩ := channels_place h (fun message heq => hopens ⟨message, heq⟩)
      hchannel
    exact Option.isSome_iff_exists.2 ⟨channel', hx⟩

/-- Only the end of a session takes its channel. -/
theorem isSome_place {a : Placement} (h : Place v a w) (ha : a ≠ .endSession x)
    (hv : (v.channels x).isSome) : (w.channels x).isSome := by
  have hset : ∀ (sid : String) (f : Set String → Set String),
      ((v.setMembers sid f).channels x).isSome := by
    intro sid f
    by_cases hx : x = sid
    · subst hx
      simpa [setMembers] using hv
    · simpa [setMembers, hx] using hv
  cases h with
  | @drop p state hp =>
      simp only [Directory.drop]
      split
      · exact hv
      · exact hset _ _
  | enterLobby hp hsid hlobby => exact hv
  | enterSession hp hsid hlobby hchannel => exact hset _ _
  | @openSession message =>
      by_cases hx : x = message.sessionId
      · simp [hx]
      · simpa [hx] using hv
  | @endSession sid hchannel =>
      have hx : x ≠ sid := by
        rintro rfl
        exact ha rfl
      simpa [Directory.endSession, hx] using hv

end Directory

open ChatServer

section steps

variable {env : Env} {σ τ : ChatServer} {i : Input} {sid : String}

/-- A step makes no channel but that of the session that it creates. -/
theorem isSome_of_step (hstep : Step env σ i τ) (hcreated : i.created ≠ some sid)
    (hτ : (τ.directory.channels sid).isSome) : (σ.directory.channels sid).isSome := by
  obtain ⟨as, hrun, has⟩ := run_step hstep
  have hopens : ∀ a ∈ as, ∀ message, a = .openSession message → message.sessionId ≠ sid := by
    rintro a ha message rfl rfl
    have hi : i = .internalMessage (.sessionCreated message) := has _ ha
    exact hcreated (by rw [hi, Input.created])
  by_contra hnone
  refine (hrun.and_of_forall hopens).invariant (I := fun v => ¬ (v.channels sid).isSome)
    ?_ hnone hτ
  intro v a w hplace hv hw
  exact hv (Directory.isSome_of_place hplace.1 hplace.2 hw)

/-- A step keeps every channel but that of the session that it ends. -/
theorem isSome_step (hstep : Step env σ i τ)
    (hended : ∀ message, i = .internalMessage (.sessionEnded message) → message.sessionId ≠ sid)
    (hσ : (σ.directory.channels sid).isSome) : (τ.directory.channels sid).isSome := by
  have hruns : ∀ {as : List Placement} {w : Directory}, Run Place σ.directory as w →
      (∀ a ∈ as, a ≠ .endSession sid) → (w.channels sid).isSome := by
    intro as w hrun has
    refine (hrun.and_of_forall has).invariant (I := fun v => (v.channels sid).isSome) ?_ hσ
    intro v a w hplace hv
    exact Directory.isSome_place hplace.1 hplace.2 hv
  cases i with
  | connect s =>
      obtain ⟨-, rfl⟩ := Option.ite_some_none_eq_some.1 hstep
      exact hσ
  | message s envelope =>
      obtain ⟨-, rfl⟩ := Option.ite_some_none_eq_some.1 hstep
      cases envelope with
      | auth auth =>
          obtain ⟨as, hrun, has⟩ := run_handleAuth env auth s σ
          refine hruns hrun fun a ha heq => ?_
          rw [heq] at ha
          rcases has _ ha with h | h | ⟨h, -⟩
          · cases h
          · cases h
          · cases h
      | send message =>
          rw [processMessage, directory_processSend]
          exact hσ
      | _ => exact hσ
  | close s =>
      obtain ⟨-, rfl⟩ := Option.ite_some_none_eq_some.1 hstep
      obtain ⟨as, hrun, has⟩ := run_closeSession s σ
      refine hruns hrun fun a ha heq => ?_
      rw [heq] at ha
      cases has _ ha
  | released s =>
      obtain ⟨-, rfl⟩ := Option.ite_some_none_eq_some.1 hstep
      exact hσ
  | internalMessage envelope =>
      obtain rfl := Option.some.inj hstep
      cases envelope with
      | sessionCreated message =>
          exact Directory.isSome_place (place_handleSessionCreated env message σ)
            (fun heq => by cases heq) hσ
      | sessionEnded message =>
          rcases run_handleSessionEnded env message σ with ⟨-, heq⟩ | hplace
          · rw [processInternalMessage, heq]
            exact hσ
          · refine Directory.isSome_place hplace (fun heq => ?_) hσ
            cases heq
            exact hended message rfl rfl
      | _ => exact hσ
  | clock now =>
      obtain rfl := Option.some.inj hstep
      exact hσ
  | tick seconds =>
      obtain rfl := Option.some.inj hstep
      exact hσ

/-- A step keeps the agreement, where it creates no session that has a channel. -/
theorem placed_step (hstep : Step env σ i τ)
    (hfresh : ∀ sid, i.created = some sid → σ.directory.channels sid = none)
    (hσ : σ.directory.Placed) : τ.directory.Placed := by
  by_cases hcreated : ∃ message, i = .internalMessage (.sessionCreated message)
  · obtain ⟨message, rfl⟩ := hcreated
    obtain rfl := Option.some.inj hstep
    refine hσ.place (place_handleSessionCreated env message σ) fun message' heq => ?_
    cases heq
    exact hfresh _ rfl
  · obtain ⟨as, hrun, has⟩ := run_step hstep
    refine (hrun.and_of_forall (P := fun a => ∀ message, a ≠ .openSession message) ?_).invariant
      (I := Directory.Placed) ?_ hσ
    · rintro a ha message rfl
      exact hcreated ⟨message, has _ ha⟩
    · intro v a w hplace hv
      exact hv.place hplace.1 fun message heq => absurd heq (hplace.2 message)

end steps

/-!
## Runs
-/

section runs

variable {env : Env} {store : Redis.Keyspace} {σ τ υ : ChatServer} {is js : List Input}
  {i : Input} {sid key : String}

/-- Where no session is created twice the records, the lobby and the channels agree, and
a channel is that of a session that has been created. -/
theorem placed_of_run (hrun : Run (Step env) (initial store) is σ) (honce : CreatedOnce is) :
    σ.directory.Placed ∧ ∀ sid, (σ.directory.channels sid).isSome →
      sid ∈ is.filterMap Input.created := by
  induction hrun with
  | nil =>
      refine ⟨placed_of_empty rfl, ?_⟩
      intro sid hsid
      cases hsid
  | @snoc is σ i τ hrun hstep ih =>
      rw [CreatedOnce, List.filterMap_append, List.nodup_append] at honce
      obtain ⟨hplaced, hchannels⟩ := ih honce.1
      constructor
      · refine placed_step hstep (fun sid hcreated => ?_) hplaced
        rw [← Option.not_isSome_iff_eq_none]
        intro hsome
        exact honce.2.2 sid (hchannels sid hsome) sid (by simp [hcreated]) rfl
      · intro sid hsid
        rw [List.filterMap_append, List.mem_append]
        by_cases hcreated : i.created = some sid
        · exact Or.inr (by simp [hcreated])
        · exact Or.inl (hchannels sid (isSome_of_step hstep hcreated hsid))

theorem CreatedOnce.of_append (h : CreatedOnce (is ++ js)) : CreatedOnce is := by
  rw [CreatedOnce, List.filterMap_append] at h
  exact h.of_append_left

/-- The agreement after a step that creates no session, and the steps that follow. -/
theorem placed_of_later (hbefore : Run (Step env) (initial store) is σ)
    (hstep : Step env σ i τ) (hi : i.created = none) (hafter : Run (Step env) τ js υ)
    (honce : CreatedOnce (is ++ js)) : υ.directory.Placed := by
  refine (placed_of_run ((hbefore.snoc hstep).append hafter) ?_).1
  rw [List.append_assoc, List.singleton_append]
  rw [CreatedOnce, List.filterMap_append] at honce ⊢
  rw [List.filterMap_cons, hi]
  exact honce

/-- A session without a channel gets none from steps that do not create it. -/
theorem none_of_run (hrun : Run (Step env) σ js τ) (hnone : σ.directory.channels sid = none)
    (hcreated : ∀ i ∈ js, i.created ≠ some sid) : τ.directory.channels sid = none := by
  refine (hrun.and_of_forall hcreated).invariant
    (I := fun σ => σ.directory.channels sid = none) ?_ hnone
  intro σ i τ hstep hσ
  rw [← Option.not_isSome_iff_eq_none] at hσ ⊢
  exact fun hτ => hσ (isSome_of_step hstep.1 hstep.2 hτ)

end runs

/-!
## Keys
-/

section keys

variable {env : Env} {σ τ : ChatServer} {i : Input} {sid key : String}

/-- A record that mentions a session is that of a member of its channel. -/
theorem isSome_of_record (hplaced : σ.directory.Placed) {p : String} {state : PlayerState}
    (hp : σ.manager.players.find? p = some state) (hsid : state.sessionId ≠ "") :
    (σ.directory.channels state.sessionId).isSome := by
  obtain ⟨channel, hchannel, -⟩ := (hplaced.member _ p).2 ⟨hsid, state, hp, rfl⟩
  rw [hchannel]
  rfl

/-- A message to a session comes from a player with a record that mentions it. -/
theorem exists_of_acceptedAll {receive : ChatReceive}
    (h : acceptedAll env σ i = some (sid, receive)) :
    ∃ s message state, i = .message s (.send message) ∧
      σ.manager.players.find? (σ.sessions s).playerId = some state ∧ state.sessionId = sid ∧
        sid ≠ "" ∧ receive = σ.receiveOf (σ.sessions s).playerId state message ∧
          (σ.sessions s).authenticated = true ∧ (σ.rateLimit env s).1 = true ∧
            message.channel = .all ∧ refusal env σ state message = none := by
  unfold acceptedAll at h
  split at h
  · next s message =>
      obtain ⟨state, hp, hsome⟩ := Option.bind_eq_some_iff.1 h
      obtain ⟨hall, heq⟩ := Option.ite_some_none_eq_some.1 hsome
      simp only [Bool.and_eq_true, beq_iff_eq, Option.isNone_iff_eq_none] at hall
      obtain ⟨⟨⟨hauthenticated, hlimit⟩, hchannel⟩, haccepted⟩ := hall
      cases heq
      exact ⟨s, message, state, rfl, hp, rfl, (of_accepted haccepted).2.1 hchannel, rfl,
        hauthenticated, hlimit, hchannel, haccepted⟩
  · cases h

theorem isSome_of_accepted (hplaced : σ.directory.Placed) {receive : ChatReceive}
    (h : acceptedAll env σ i = some (sid, receive)) :
    (σ.directory.channels sid).isSome := by
  obtain ⟨s, message, state, -, hp, rfl, hsid, -⟩ := exists_of_acceptedAll h
  exact isSome_of_record hplaced hp hsid

/-- An authentication for a session is accepted where the session has a channel. -/
theorem isSome_of_accepts {auth : ChatAuth} (hsid : auth.sessionId ≠ "")
    (haccepts : σ.accepts auth = true) : (σ.directory.channels auth.sessionId).isSome := by
  rw [channels_isSome]
  rw [accepts, Bool.and_eq_true, admits, Bool.or_eq_true, beq_iff_eq] at haccepts
  exact haccepts.2.resolve_left hsid

/-- What writes a key of a session: it is created, or has a channel. -/
theorem isSome_of_writes (hlimiter : ∀ limiter, env.rateLimiter = some limiter →
    limiter.keyPrefix = "chat:rate:") (hplaced : σ.directory.Placed) (hkey : KeyOf sid key)
    (h : Writes env σ i key) :
    i.created = some sid ∧ key = sessionKey sid ∨ (σ.directory.channels sid).isSome := by
  cases h with
  | count hlim =>
      rw [hlimiter _ hlim] at hkey
      exact absurd rfl (hkey.ne_append (by decide) _)
  | history haccepted =>
      obtain rfl := hkey.eq (Or.inr rfl)
      exact Or.inr (isSome_of_accepted hplaced haccepted)
  | names hsid haccepts =>
      obtain rfl := hkey.eq (Or.inl rfl)
      exact Or.inr (isSome_of_accepts hsid haccepts)
  | player => exact absurd rfl (hkey.ne_append (by decide) _)
  | name => exact absurd rfl (hkey.ne_append (by decide) _)
  | created =>
      obtain rfl := hkey.eq (Or.inl rfl)
      exact Or.inl ⟨rfl, rfl⟩
  | createdName hplayer => exact absurd rfl (hkey.ne_append (by decide) _)
  | ended hchannel hkey' =>
      obtain rfl := hkey.eq hkey'
      rw [← channels_isSome] at hchannel
      exact Or.inr hchannel

/-- Redis is there and answers every command. -/
structure Env.Answers (env : Env) : Prop where
  connected : env.redis = true
  answered : ∀ n, env.outcome n = .answered

/-- The end of a session that has a channel deletes its keys. -/
theorem entry_of_ended (henv : env.Answers) {message : SessionEnded}
    (hchannel : σ.manager.sessionChannels.contains message.sessionId = true)
    (hkey : KeyOf message.sessionId key) :
    (σ.handleSessionEnded env message).entry key = none := by
  obtain ⟨channel, hfind⟩ := UnorderedMap.contains_iff.1 hchannel
  rw [handleSessionEnded, hfind]
  simp only
  rw [attempt, if_pos henv.connected, entry]
  simp only
  rw [Redis.attempt_cons (henv.answered _) rfl, Redis.attempt_cons (henv.answered _) rfl,
    Redis.Client.attempt]
  rcases hkey with rfl | rfl
  · rw [Redis.Keyspace.lookup_put_of_ne _ _ _ (sessionKey_ne_historyKey _ _)]
    exact Redis.Keyspace.lookup_put_self _ _ none
  · exact Redis.Keyspace.lookup_put_self _ _ none

/-- A step leaves the keys of a session that has no channel, or they expire. -/
theorem entry_of_closed (hlimiter : ∀ limiter, env.rateLimiter = some limiter →
    limiter.keyPrefix = "chat:rate:") (hplaced : σ.directory.Placed)
    (hnone : σ.directory.channels sid = none) (hstep : Step env σ i τ)
    (hcreated : i.created ≠ some sid) (hkey : KeyOf sid key) {e : Redis.Entry}
    (he : τ.entry key = some e) : σ.entry key = some e := by
  have hwrites : ¬ Writes env σ i key := by
    intro h
    rcases isSome_of_writes hlimiter hplaced hkey h with ⟨hi, -⟩ | hsome
    · exact hcreated hi
    · rw [hnone] at hsome
      cases hsome
  rcases entry_step hstep hwrites with heq | ⟨-, -, hold⟩
  · rw [← heq]
    exact he
  · exact hold e he

/-- A history that is there is that of a session with a channel, or was there before. -/
theorem history_step (henv : env.Answers) (hlimiter : ∀ limiter,
    env.rateLimiter = some limiter → limiter.keyPrefix = "chat:rate:")
    (hplaced : σ.directory.Placed) (hstep : Step env σ i τ)
    (hτ : (τ.entry (historyKey sid)).isSome) :
    (τ.directory.channels sid).isSome ∨ (σ.directory.channels sid).isSome = false ∧
      (σ.entry (historyKey sid)).isSome := by
  by_cases hsome : (σ.directory.channels sid).isSome
  · refine Or.inl ?_
    by_cases hended : ∃ message, i = .internalMessage (.sessionEnded message) ∧
        message.sessionId = sid
    · obtain ⟨message, rfl, rfl⟩ := hended
      obtain rfl := Option.some.inj hstep
      rw [channels_isSome] at hsome
      rw [processInternalMessage, entry_of_ended henv hsome (Or.inr rfl)] at hτ
      cases hτ
    · refine isSome_step hstep (fun message hi hsid => ?_) hsome
      exact hended ⟨message, hi, hsid⟩
  · rw [Bool.not_eq_true] at hsome
    refine Or.inr ⟨hsome, ?_⟩
    have hwrites : ¬ Writes env σ i (historyKey sid) := by
      intro h
      rcases isSome_of_writes hlimiter hplaced (Or.inr rfl) h with ⟨-, hkey⟩ | hchannel
      · exact sessionKey_ne_historyKey _ _ hkey.symm
      · rw [hsome] at hchannel
        cases hchannel
    obtain ⟨e, he⟩ := Option.isSome_iff_exists.1 hτ
    rcases entry_step hstep hwrites with heq | ⟨-, -, hold⟩
    · rw [← heq]
      exact hτ
    · exact Option.isSome_iff_exists.2 ⟨e, hold e he⟩

end keys

/-!
## Sessions that are over
-/

/-- The session ended in `σ`, and `υ` is a later state. No record mentions the session. A
session that had a channel has left no key behind. As long as the session is not created
again, the next step sends messages of other sessions only, and makes no key of the
session. -/
structure Over (env : Env) (sid : String) (σ υ : ChatServer) : Prop where
  nobody : ∀ p state, υ.manager.players.find? p = some state → state.sessionId ≠ sid
  deleted : σ.manager.sessionChannels.contains sid = true →
    ∀ key, KeyOf sid key → υ.entry key = none
  silent : ∀ i υ', Step env υ i υ' → i.created ≠ some sid →
    ∀ d ∈ υ'.sent.drop υ.sent.length, ∀ receive, d.envelope = .receive receive →
      receive.channel = .all → ∃ x, x ≠ sid ∧ Tells υ i x
  kept : ∀ i υ', Step env υ i υ' → i.created ≠ some sid →
    ∀ key, KeyOf sid key → ∀ e, υ'.entry key = some e → υ.entry key = some e

/-- On runs in which no session is created twice, the session is over once it has ended,
and its history is there only while it has a channel, if it was not there from the
start. -/
structure StaysEnded (env : Env) (sid : String) : Prop where
  isOver : ∀ store is σ message τ js υ, Run (Step env) (initial store) is σ →
    message.sessionId = sid → Step env σ (.internalMessage (.sessionEnded message)) τ →
    Run (Step env) τ js υ → CreatedOnce (is ++ js) → (∀ i ∈ js, i.created ≠ some sid) →
      Over env sid σ υ
  history : ∀ store is σ, Run (Step env) (initial store) is σ → CreatedOnce is →
    (σ.entry (historyKey sid)).isSome → σ.manager.sessionChannels.contains sid = true ∨
      ((initial store).entry (historyKey sid)).isSome

section closed

variable {env : Env} {store : Redis.Keyspace} {σ τ υ : ChatServer} {is js : List Input}
  {sid : String}

theorem nobody_of_closed (hplaced : σ.directory.Placed) (hsid : sid ≠ "")
    (hnone : σ.directory.channels sid = none) {p : String} {state : PlayerState}
    (hp : σ.manager.players.find? p = some state) : state.sessionId ≠ sid := by
  rintro rfl
  have hsome := isSome_of_record hplaced hp hsid
  rw [hnone] at hsome
  cases hsome

/-- Nothing is heard of a session without a channel. -/
theorem silent_of_closed {i : Input} (hnone : σ.directory.channels sid = none)
    (hstep : Step env σ i τ) {d : Delivery} (hd : d ∈ τ.sent.drop σ.sent.length)
    {receive : ChatReceive} (henvelope : d.envelope = .receive receive)
    (hall : receive.channel = .all) : ∃ x, x ≠ sid ∧ Tells σ i x := by
  rcases (heard_step hstep).mem_drop hd receive henvelope with ⟨hother, -⟩ | ⟨x, p, hx, hp, -⟩
  · exact absurd hall hother
  · refine ⟨x, ?_, hx⟩
    rintro rfl
    rcases hp with hp | hcauses
    · rw [Directory.members_eq_empty hnone] at hp
      exact hp
    · obtain ⟨s, auth, -, -, rfl, hsid, haccepts⟩ := hcauses
      have hsome := isSome_of_accepts hsid haccepts
      rw [hnone] at hsome
      cases hsome

theorem channels_handleSessionEnded (message : SessionEnded) (σ : ChatServer) :
    (σ.handleSessionEnded env message).directory.channels message.sessionId = none := by
  rcases run_handleSessionEnded env message σ with ⟨hnone, heq⟩ | hplace
  · rw [heq]
    exact hnone
  · rw [hplace.eq_endSession]
    exact Function.update_self _ _ _

/-- A session with an id of its own that has ended stays ended. -/
theorem staysEnded_of_ne (henv : env.Answers) (hlimiter : ∀ limiter,
    env.rateLimiter = some limiter → limiter.keyPrefix = "chat:rate:") (hsid : sid ≠ "") :
    StaysEnded env sid := by
  constructor
  · rintro store is σ message τ js υ hbefore rfl hend hafter honce hcreated
    have hτ : τ.directory.channels message.sessionId = none := by
      obtain rfl := Option.some.inj hend
      exact channels_handleSessionEnded message σ
    have hplaced : ∀ ys ρ, Run (Step env) τ ys ρ → CreatedOnce (is ++ ys) →
        ρ.directory.Placed :=
      fun ys ρ hrun hys => placed_of_later hbefore hend rfl hrun hys
    have hυ := none_of_run hafter hτ hcreated
    constructor
    · intro p state hp
      exact nobody_of_closed (hplaced js υ hafter honce) hsid hυ hp
    · intro hchannel key hkey
      -- a key that is there now was there when the session had just ended
      have hkept : ∀ e, υ.entry key = some e → τ.entry key = some e := by
        clear hυ
        induction hafter with
        | nil => exact fun e he => he
        | @snoc js υ i υ' hrun hstep ih =>
            intro e he
            have honce' : CreatedOnce (is ++ js) := by
              rw [← List.append_assoc] at honce
              exact honce.of_append
            have hcreated' : ∀ i ∈ js, i.created ≠ some message.sessionId :=
              fun i hi => hcreated i (List.mem_append_left _ hi)
            apply ih honce' hcreated'
            exact entry_of_closed hlimiter (hplaced js υ hrun honce')
              (none_of_run hrun hτ hcreated') hstep (hcreated i (by simp)) hkey he
      rw [Option.eq_none_iff_forall_ne_some]
      intro e he
      have hgone := hkept e he
      obtain rfl := Option.some.inj hend
      rw [processInternalMessage, entry_of_ended henv hchannel hkey] at hgone
      cases hgone
    · intro i υ' hstep _ d hd receive henvelope hall
      exact silent_of_closed hυ hstep hd henvelope hall
    · intro i υ' hstep hi key hkey e he
      exact entry_of_closed hlimiter (hplaced js υ hafter honce) hυ hstep hi hkey he
  · intro store is σ hrun honce hσ
    rw [← channels_isSome]
    induction hrun with
    | nil => exact Or.inr hσ
    | snoc hrun hstep ih =>
        have hplaced := (placed_of_run hrun honce.of_append).1
        rcases history_step henv hlimiter hplaced hstep hσ with hsome | ⟨hnone, hold⟩
        · exact Or.inl hsome
        · rcases ih honce.of_append hold with hsome | hstore
          · rw [hnone] at hsome
            cases hsome
          · exact Or.inr hstore

theorem staysEnded_of_ne_default : StaysEnded defaultEnv "s" := by
  apply staysEnded_of_ne
  · exact ⟨rfl, fun _ => rfl⟩
  · rintro limiter hlimiter
    cases hlimiter
    rfl
  · decide

/-- The empty session id stands for the lobby, so players have it after a session of that
name has ended; and Redis may hold a history when the server starts. -/
theorem not_staysEnded_emptyId : ¬ StaysEnded defaultEnv "" ∧
    ∃ store, ((initial store).entry (historyKey "s")).isSome = true ∧
      (initial store).manager.sessionChannels.contains "s" = false := by
  constructor
  · intro hclaim
    have hbefore : Run (Step defaultEnv) (initial {})
        [.connect 0, .internalMessage (.sessionCreated ⟨"", []⟩)]
        (((initial {}).updateSession 0 fun _ => { lifetime := .alive }).handleSessionCreated
          defaultEnv ⟨"", []⟩) :=
      Run.snoc (Run.single rfl) rfl
    have hover := hclaim.isOver {} _ _ ⟨""⟩ _ [.message 0 (.auth ⟨"p", "", "P"⟩)] _ hbefore rfl
      rfl (Run.single rfl) (by decide) (by decide)
    exact hover.nobody "p" ⟨"P", "", 0, true⟩ (by decide) rfl
  · exact ⟨{ entries := UnorderedMap.insert .empty (historyKey "s") ⟨.list [[]], none⟩ },
      by decide +kernel, rfl⟩

end closed

end Chat

end SosBackend
