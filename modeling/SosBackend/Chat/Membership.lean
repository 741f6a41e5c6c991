import SosBackend.Chat.Directory

/-!
# The members of the channels

Where a player is, is kept twice over: in the record of the player, by a flag and by
a session id, and in the lobby and the channels, by their members. `Placed` says that
these agree. Every placement keeps it, provided that a session is opened under an id
that has no channel at that moment. The empty session id stands for the lobby, so a
channel under it has no members.
-/

namespace SosBackend

namespace Chat

namespace Directory

/-- The player has a record with `P`. -/
def Has (v : Directory) (p : String) (P : PlayerState → Prop) : Prop :=
  ∃ state, v.records p = some state ∧ P state

/-- The records, the lobby and the channels agree. -/
structure Placed (v : Directory) : Prop where
  lobby_flag : ∀ p, p ∈ v.lobby ↔ v.Has p fun state => state.inLobby = true
  lobby_id : ∀ p, p ∈ v.lobby ↔ v.Has p fun state => state.sessionId = ""
  member : ∀ sid p, p ∈ v.members sid ↔ sid ≠ "" ∧ v.Has p fun state => state.sessionId = sid

variable {v w : Directory} {p q sid x : String} {state : PlayerState}
  {P : PlayerState → Prop}

/-!
## Records and members
-/

theorem has_of_eq (hp : v.records p = some state) : v.Has p P ↔ P state := by
  simp [Has, hp]

theorem not_has (hp : v.records p = none) : ¬ v.Has p P := by
  simp [Has, hp]

theorem has_drop : (v.drop p state).Has q P ↔ q ≠ p ∧ v.Has q P := by
  by_cases hq : q = p
  · simp [Has, drop, hq]
  · simp [Has, drop, hq]

theorem has_setRecord_of_ne (hq : q ≠ p) :
    (v.setRecord p (some state)).Has q P ↔ v.Has q P := by
  simp [Has, setRecord, hq]

theorem has_setRecord_self : (v.setRecord p (some state)).Has p P ↔ P state := by
  simp [Has, setRecord]

/-- Members of a session that ends are in the lobby afterwards. -/
theorem has_endSession_of_mem (hp : p ∈ v.members sid) :
    (v.endSession sid).Has p P ↔
      v.Has p fun state => P { state with sessionId := "", inLobby := true } := by
  rw [Has, endSession_records_of_mem hp]
  simp [Has]

theorem has_endSession_of_not_mem (hp : p ∉ v.members sid) :
    (v.endSession sid).Has p P ↔ v.Has p P := by
  rw [Has, endSession_records_of_not_mem hp]
  rfl

theorem members_setMembers_of_ne (f : Set String → Set String) (hx : x ≠ sid) :
    (v.setMembers sid f).members x = v.members x := by
  ext q
  simp [members, setMembers, hx]

theorem members_setMembers_self (f : Set String → Set String)
    (hsid : (v.channels sid).isSome) : (v.setMembers sid f).members sid = f (v.members sid) := by
  obtain ⟨channel, hchannel⟩ := Option.isSome_iff_exists.1 hsid
  have hmembers : v.members sid = channel.members := by
    ext q
    simp [members, hchannel]
  ext q
  rw [hmembers]
  simp [members, setMembers, hchannel]

theorem members_eq_empty (hsid : v.channels sid = none) : v.members sid = ∅ := by
  ext q
  simp [members, hsid]

/-- Dropping a player takes it out of the channel of its session and out of no other. -/
theorem mem_members_drop : q ∈ (v.drop p state).members x ↔
    q ∈ v.members x ∧ ¬ (q = p ∧ x = state.sessionId ∧ x ≠ "") := by
  have hdrop : (v.drop p state).members x = (if state.sessionId = "" then v.members x
      else (v.setMembers state.sessionId fun members => members \ {p}).members x) := by
    by_cases hsid : state.sessionId = ""
    · simp [members, drop, hsid]
    · simp [members, drop, hsid]
  rw [hdrop]
  split
  · next hsid =>
      constructor
      · intro hq
        refine ⟨hq, ?_⟩
        rintro ⟨-, rfl, hne⟩
        exact hne hsid
      · exact And.left
  next hsid =>
  by_cases hx : x = state.sessionId
  · subst hx
    by_cases hsome : (v.channels state.sessionId).isSome
    · rw [members_setMembers_self _ hsome]
      simp [hsid]
    · rw [Option.not_isSome_iff_eq_none] at hsome
      have hnone : (v.setMembers state.sessionId fun members =>
          members \ {p}).channels state.sessionId = none := by
        simp [setMembers, hsome]
      rw [members_eq_empty hnone, members_eq_empty hsome]
      simp
  · rw [members_setMembers_of_ne _ hx]
    simp [hx]

/-!
## Placements
-/

namespace Placed

/-- A member of a channel has a record. -/
theorem has_of_mem (h : v.Placed) (hp : p ∈ v.members sid) :
    v.Has p fun state => state.sessionId = sid :=
  ((h.member sid p).1 hp).2

theorem drop (h : v.Placed) (hp : v.records p = some state) : (v.drop p state).Placed where
  lobby_flag q := by
    rw [has_drop, ← h.lobby_flag q]
    exact and_comm
  lobby_id q := by
    rw [has_drop, ← h.lobby_id q]
    exact and_comm
  member x q := by
    rw [has_drop, mem_members_drop, h.member x q]
    constructor
    · rintro ⟨⟨hx, hq⟩, hnot⟩
      refine ⟨hx, ?_, hq⟩
      -- the channel of the player is that of its record
      rintro rfl
      exact hnot ⟨rfl, ((has_of_eq hp).1 hq).symm, hx⟩
    · rintro ⟨hx, hqp, hq⟩
      exact ⟨⟨hx, hq⟩, fun hdropped => hqp hdropped.1⟩

theorem enterLobby (h : v.Placed) (hp : v.records p = none) (hsid : state.sessionId = "")
    (hlobby : state.inLobby = true) :
    (({ v with lobby := insert p v.lobby } : Directory).setRecord p (some state)).Placed := by
  have hmember : ∀ x q, q ∈ (({ v with lobby := insert p v.lobby } : Directory).setRecord p
      (some state)).members x ↔ x ≠ "" ∧ v.Has q fun state => state.sessionId = x := h.member
  constructor
  · intro q
    by_cases hq : q = p
    · subst hq
      exact ⟨fun _ => has_setRecord_self.2 hlobby, fun _ => Set.mem_insert _ _⟩
    · rw [has_setRecord_of_ne hq]
      exact (Set.mem_insert_iff.trans (or_iff_right hq)).trans (h.lobby_flag q)
  · intro q
    by_cases hq : q = p
    · subst hq
      exact ⟨fun _ => has_setRecord_self.2 hsid, fun _ => Set.mem_insert _ _⟩
    · rw [has_setRecord_of_ne hq]
      exact (Set.mem_insert_iff.trans (or_iff_right hq)).trans (h.lobby_id q)
  · intro x q
    rw [hmember]
    by_cases hq : q = p
    · subst hq
      rw [has_setRecord_self, hsid]
      constructor
      · rintro ⟨-, hq⟩
        exact absurd hq (not_has hp)
      · rintro ⟨hx, rfl⟩
        exact absurd rfl hx
    · rw [has_setRecord_of_ne hq]
      exact Iff.rfl

theorem enterSession (h : v.Placed) (hp : v.records p = none) (hsid : state.sessionId ≠ "")
    (hlobby : state.inLobby = false) (hchannel : (v.channels state.sessionId).isSome) :
    ((v.setMembers state.sessionId (insert p)).setRecord p (some state)).Placed := by
  have hmember : ∀ x, ((v.setMembers state.sessionId (insert p)).setRecord p
      (some state)).members x = (v.setMembers state.sessionId (insert p)).members x :=
    fun _ => rfl
  constructor
  · intro q
    by_cases hq : q = p
    · subst hq
      rw [has_setRecord_self, hlobby]
      constructor
      · intro hmem
        exact absurd ((h.lobby_flag q).1 hmem) (not_has hp)
      · intro hfalse
        cases hfalse
    · rw [has_setRecord_of_ne hq]
      exact h.lobby_flag q
  · intro q
    by_cases hq : q = p
    · subst hq
      rw [has_setRecord_self]
      constructor
      · intro hmem
        exact absurd ((h.lobby_id q).1 hmem) (not_has hp)
      · intro hempty
        exact absurd hempty hsid
    · rw [has_setRecord_of_ne hq]
      exact h.lobby_id q
  · intro x q
    rw [hmember]
    by_cases hx : x = state.sessionId
    · subst hx
      rw [members_setMembers_self _ hchannel, Set.mem_insert_iff, h.member]
      by_cases hq : q = p
      · subst hq
        rw [has_setRecord_self]
        exact ⟨fun _ => ⟨hsid, rfl⟩, fun _ => Or.inl rfl⟩
      · rw [has_setRecord_of_ne hq]
        exact or_iff_right hq
    · rw [members_setMembers_of_ne _ hx, h.member]
      by_cases hq : q = p
      · subst hq
        rw [has_setRecord_self]
        constructor
        · rintro ⟨-, hq⟩
          exact absurd hq (not_has hp)
        · rintro ⟨-, hstate⟩
          exact absurd hstate.symm hx
      · rw [has_setRecord_of_ne hq]
        exact Iff.rfl

/-- A new channel is empty, and no record mentions it yet. -/
theorem openSession (h : v.Placed) (expected : Set String) (hnone : v.channels sid = none) :
    ({ v with
      channels := Function.update v.channels sid (some ⟨∅, expected⟩) } : Directory).Placed := by
  refine ⟨h.lobby_flag, h.lobby_id, fun x q => ?_⟩
  have hmembers : ({ v with
      channels := Function.update v.channels sid (some ⟨∅, expected⟩) } : Directory).members x =
        v.members x := by
    by_cases hx : x = sid
    · subst hx
      rw [members_eq_empty hnone]
      ext q
      simp [members]
    · ext q
      simp [members, hx]
  rw [hmembers]
  exact h.member x q

/-- After the end of a session its members are in the lobby, and no record mentions the
session. -/
theorem endSession (h : v.Placed) (sid : String) : (v.endSession sid).Placed := by
  have hlobby : ∀ q, q ∈ (v.endSession sid).lobby ↔ q ∈ v.lobby ∨ q ∈ v.members sid := by
    intro q
    refine or_congr_right ?_
    rw [Set.mem_ofPred_eq, and_iff_left_iff_imp]
    intro hq
    obtain ⟨state, hstate, -⟩ := h.has_of_mem hq
    rw [hstate]
    rfl
  have hmembers : ∀ x q, q ∈ (v.endSession sid).members x ↔ x ≠ sid ∧ q ∈ v.members x := by
    intro x q
    by_cases hx : x = sid
    · simp [members, Directory.endSession, hx]
    · simp [members, Directory.endSession, hx]
  constructor
  · intro q
    rw [hlobby]
    by_cases hq : q ∈ v.members sid
    · obtain ⟨state, hstate, -⟩ := h.has_of_mem hq
      rw [has_endSession_of_mem hq]
      exact ⟨fun _ => ⟨state, hstate, rfl⟩, fun _ => Or.inr hq⟩
    · rw [has_endSession_of_not_mem hq, or_iff_left hq]
      exact h.lobby_flag q
  · intro q
    rw [hlobby]
    by_cases hq : q ∈ v.members sid
    · obtain ⟨state, hstate, -⟩ := h.has_of_mem hq
      rw [has_endSession_of_mem hq]
      exact ⟨fun _ => ⟨state, hstate, rfl⟩, fun _ => Or.inr hq⟩
    · rw [has_endSession_of_not_mem hq, or_iff_left hq]
      exact h.lobby_id q
  · intro x q
    rw [hmembers, h.member]
    by_cases hq : q ∈ v.members sid
    · obtain ⟨hsid, hhas⟩ := (h.member sid q).1 hq
      obtain ⟨state, hstate, rfl⟩ := hhas
      rw [has_endSession_of_mem hq, has_of_eq hstate, has_of_eq hstate]
      constructor
      · rintro ⟨hx, -, heq⟩
        exact absurd heq.symm hx
      · rintro ⟨hx, heq⟩
        exact absurd heq.symm hx
    · rw [has_endSession_of_not_mem hq]
      constructor
      · exact And.right
      · rintro ⟨hx, hhas⟩
        refine ⟨?_, hx, hhas⟩
        rintro rfl
        exact hq ((h.member x q).2 ⟨hx, hhas⟩)

/-- Every placement keeps the agreement, where a session is opened only under an id
without a channel. -/
theorem place {a : Placement} (hplace : Place v a w) (h : v.Placed)
    (hfresh : ∀ message, a = .openSession message → v.channels message.sessionId = none) :
    w.Placed := by
  cases hplace with
  | drop hp => exact h.drop hp
  | enterLobby hp hsid hlobby => exact h.enterLobby hp hsid hlobby
  | enterSession hp hsid hlobby hchannel => exact h.enterSession hp hsid hlobby hchannel
  | @openSession message => exact h.openSession _ (hfresh message rfl)
  | endSession hchannel => exact h.endSession _

end Placed

end Directory

/-!
## Calls of the handlers
-/

/-- A call of a handler of the channel manager, with any arguments. -/
inductive HandlerCall
  | auth (auth : ChatAuth) (s : SessionPtr)
  | chatSend (playerId : String) (message : ChatSend)
  | disconnect (playerId : String)
  | sessionCreated (message : SessionCreated)
  | sessionEnded (message : SessionEnded)

open ChatServer

def HandlerCall.run (env : Env) (σ : ChatServer) : HandlerCall → ChatServer
  | .auth request s => σ.handleAuth env request s
  | .chatSend playerId message => σ.handleChatSend env playerId message
  | .disconnect playerId => σ.handleDisconnect playerId
  | .sessionCreated message => σ.handleSessionCreated env message
  | .sessionEnded message => σ.handleSessionEnded env message

/-- A handler is called. Since the last call the session objects, Redis and the clock may
have changed in any way, and anything may have been sent. -/
def Called (env : Env) (σ : ChatServer) (c : HandlerCall) (τ : ChatServer) : Prop :=
  ∃ σ', σ'.manager = σ.manager ∧ τ = c.run env σ'

/-- A session is created under an id that has no channel at that moment. -/
def opensFresh (σ : ChatServer) : HandlerCall → Bool
  | .sessionCreated message => !σ.manager.sessionChannels.contains message.sessionId
  | _ => true

/-- The records of the players, the lobby and the channels agree. -/
structure Membership (m : ChannelManager) : Prop where
  in_lobby : ∀ p, m.lobbyMembers.contains p = true ↔
    ∃ state, m.players.find? p = some state ∧ state.inLobby = true
  no_session : ∀ p, m.lobbyMembers.contains p = true ↔
    ∃ state, m.players.find? p = some state ∧ state.sessionId = ""
  member : ∀ sid, sid ≠ "" → ∀ p,
    (∃ channel, m.sessionChannels.find? sid = some channel ∧ channel.members.contains p = true) ↔
      ∃ state, m.players.find? p = some state ∧ state.sessionId = sid
  one_channel : ∀ p state, m.players.find? p = some state →
    (m.lobbyMembers.contains p = true ∧ ∀ sid channel,
        m.sessionChannels.find? sid = some channel → channel.members.contains p = false) ∨
      (m.lobbyMembers.contains p = false ∧ ∃! sid, ∃ channel,
        m.sessionChannels.find? sid = some channel ∧ channel.members.contains p = true)
  named : ∀ p state, m.players.find? p = some state → state.sessionId ≠ "" →
    m.sessionChannels.contains state.sessionId = true

/-- From `m` to `m'` the members of the session have been added to the lobby, nobody
else has, and no record mentions the session. -/
structure SentHome (sid : String) (m m' : ChannelManager) : Prop where
  lobby : ∀ p, m'.lobbyMembers.contains p = true ↔ m.lobbyMembers.contains p = true ∨
    ∃ channel, m.sessionChannels.find? sid = some channel ∧ channel.members.contains p = true
  forgotten : sid ≠ "" → ∀ p state, m'.players.find? p = some state → state.sessionId ≠ sid

theorem Directory.Placed.membership {σ : ChatServer} (h : σ.directory.Placed) :
    Membership σ.manager := by
  have hmember : ∀ sid p, (∃ channel, σ.manager.sessionChannels.find? sid = some channel ∧
      channel.members.contains p = true) ↔
        sid ≠ "" ∧ ∃ state, σ.manager.players.find? p = some state ∧ state.sessionId = sid := by
    intro sid p
    rw [← mem_members]
    exact h.member sid p
  refine ⟨h.lobby_flag, h.lobby_id, ?_, ?_, ?_⟩
  · intro sid hsid p
    rw [hmember]
    exact and_iff_right hsid
  · intro p state hp
    by_cases hsid : state.sessionId = ""
    · refine Or.inl ⟨(h.lobby_id p).2 ⟨state, hp, hsid⟩, fun sid channel hchannel => ?_⟩
      rw [← Bool.not_eq_true]
      intro hmem
      obtain ⟨hne, state', hp', rfl⟩ := (hmember sid p).1 ⟨channel, hchannel, hmem⟩
      obtain rfl := Option.some.inj (hp.symm.trans hp')
      exact hne hsid
    · refine Or.inr ⟨?_, state.sessionId, (hmember _ p).2 ⟨hsid, state, hp, rfl⟩, ?_⟩
      · rw [← Bool.not_eq_true]
        intro hlobby
        obtain ⟨state', hp', hsid'⟩ := (h.lobby_id p).1 hlobby
        obtain rfl := Option.some.inj (hp.symm.trans hp')
        exact hsid hsid'
      · intro sid hmem
        obtain ⟨-, state', hp', rfl⟩ := (hmember sid p).1 hmem
        obtain rfl := Option.some.inj (hp.symm.trans hp')
        rfl
  · intro p state hp hsid
    obtain ⟨channel, hchannel, -⟩ := (hmember _ p).2 ⟨hsid, state, hp, rfl⟩
    exact UnorderedMap.contains_iff.2 ⟨channel, hchannel⟩

/-- A call is a run of placements; it opens the session that it creates, and no other. -/
theorem run_call (env : Env) (σ : ChatServer) (c : HandlerCall) :
    ∃ as, Run Place σ.directory as (c.run env σ).directory ∧
      ∀ message, .openSession message ∈ as →
        c = .sessionCreated message ∧ as = [.openSession message] := by
  cases c with
  | auth auth s =>
      obtain ⟨as, hrun, has⟩ := run_handleAuth env auth s σ
      refine ⟨as, hrun, fun message hmem => ?_⟩
      rcases has _ hmem with h | h | ⟨h, -⟩
      · cases h
      · cases h
      · cases h
  | chatSend p message =>
      refine ⟨[], ?_, fun _ hmem => absurd hmem List.not_mem_nil⟩
      rw [HandlerCall.run, directory_handleChatSend]
      exact Run.nil
  | disconnect p =>
      obtain ⟨as, hrun, has⟩ := run_handleDisconnect p σ
      exact ⟨as, hrun, fun message hmem => by cases has _ hmem⟩
  | sessionCreated message =>
      refine ⟨[.openSession message], Run.single (place_handleSessionCreated env message σ), ?_⟩
      intro message' hmem
      cases List.mem_singleton.1 hmem
      exact ⟨rfl, rfl⟩
  | sessionEnded message =>
      rcases run_handleSessionEnded env message σ with ⟨-, heq⟩ | hplace
      · refine ⟨[], ?_, fun _ hmem => absurd hmem List.not_mem_nil⟩
        rw [HandlerCall.run, heq]
        exact Run.nil
      · exact ⟨[.endSession message.sessionId], Run.single hplace, fun _ hmem => by
          cases List.mem_singleton.1 hmem⟩

/-- A call keeps the agreement, where it opens a session under a fresh id. -/
theorem placed_of_called {env : Env} {σ τ : ChatServer} {c : HandlerCall}
    (h : Guarded opensFresh (Called env) σ c τ) (hσ : σ.directory.Placed) :
    τ.directory.Placed := by
  obtain ⟨⟨σ', hmanager, rfl⟩, hfresh⟩ := h
  obtain ⟨as, hrun, hopens⟩ := run_call env σ' c
  rw [← directory_of_manager hmanager] at hσ
  -- the only placement that needs the guard is a call of its own
  by_cases hopen : ∃ message, .openSession message ∈ as
  · obtain ⟨message, hmem⟩ := hopen
    obtain ⟨rfl, has⟩ := hopens message hmem
    have hnone : σ'.directory.channels message.sessionId = none := by
      rw [← Option.not_isSome_iff_eq_none, channels_isSome, hmanager]
      simpa [opensFresh] using hfresh
    have hplace : Place σ'.directory (.openSession message)
        (σ'.handleSessionCreated env message).directory :=
      place_handleSessionCreated env message σ'
    refine hσ.place hplace ?_
    intro message' heq
    cases heq
    exact hnone
  · refine (hrun.and_of_forall (P := fun a => ∀ message, a ≠ .openSession message) ?_).invariant
      ?_ hσ
    · rintro a ha message rfl
      exact hopen ⟨message, ha⟩
    · intro v a w hplace hv
      exact hv.place hplace.1 fun message heq => absurd heq (hplace.2 message)

theorem placed_of_empty {σ : ChatServer} (h : σ.manager = {}) : σ.directory.Placed := by
  have hempty : σ.directory = ⟨fun _ => none, ∅, fun _ => none⟩ := by
    rw [directory, h]
    ext1
    · rfl
    · exact UnorderedSet.toSet_empty
    · rfl
  rw [hempty]
  constructor
  · simp [Directory.Has]
  · simp [Directory.Has]
  · simp [Directory.Has, Directory.members]

theorem placed_of_calls {env : Env} {σ₀ σ : ChatServer} {cs : List HandlerCall}
    (hinitial : σ₀.manager = {}) (hrun : Run (Guarded opensFresh (Called env)) σ₀ cs σ) :
    σ.directory.Placed := by
  refine hrun.invariant (I := fun σ => σ.directory.Placed) ?_ ?_
  · intro σ c τ hcall hσ
    exact placed_of_called hcall hσ
  · exact placed_of_empty hinitial

theorem Place.eq_endSession {v w : Directory} {sid : String}
    (h : Place v (.endSession sid) w) : w = v.endSession sid := by
  cases h
  rfl

/-- The end of a session that has a channel. -/
theorem Directory.Placed.sentHome {σ τ : ChatServer} {sid : String} (h : σ.directory.Placed)
    (hend : Place σ.directory (.endSession sid) τ.directory) :
    SentHome sid σ.manager τ.manager := by
  have hplaced : τ.directory.Placed := h.place hend fun message heq => by cases heq
  have hdirectory := hend.eq_endSession
  constructor
  · intro p
    have hlobby : p ∈ τ.directory.lobby ↔ p ∈ σ.directory.lobby ∨
        p ∈ σ.directory.members sid ∧ (σ.directory.records p).isSome := by
      rw [hdirectory]
      exact Iff.rfl
    refine hlobby.trans (or_congr Iff.rfl ?_)
    rw [← mem_members, and_iff_left_iff_imp]
    intro hp
    obtain ⟨state, hstate, -⟩ := h.has_of_mem hp
    rw [hstate]
    rfl
  · rintro hsid p state hp rfl
    -- its channel is gone, and a record names a channel with its player in it
    obtain ⟨channel, hchannel, -⟩ := (hplaced.member _ p).2 ⟨hsid, state, hp, rfl⟩
    have hnone : τ.directory.channels state.sessionId = none := by
      rw [hdirectory]
      exact Function.update_self _ _ _
    rw [hnone] at hchannel
    cases hchannel

/-- The end of a session that has no channel. -/
theorem Directory.Placed.sentHome_of_none {σ τ : ChatServer} {sid : String}
    (h : σ.directory.Placed) (hnone : σ.directory.channels sid = none)
    (heq : τ.directory = σ.directory) : SentHome sid σ.manager τ.manager := by
  have hmember : ∀ p, p ∉ σ.directory.members sid := by
    intro p
    rw [Directory.members_eq_empty hnone]
    exact Set.notMem_empty p
  constructor
  · intro p
    have hlobby : p ∈ τ.directory.lobby ↔ p ∈ σ.directory.lobby := by
      rw [heq]
    refine hlobby.trans ?_
    rw [← mem_members, or_iff_left (hmember p)]
    exact Iff.rfl
  · rintro hsid p state hp rfl
    have hrecord : σ.directory.records p = some state := by
      rw [← heq]
      exact hp
    exact hmember p ((h.member _ p).2 ⟨hsid, state, hrecord, rfl⟩)

/-- A session opens and a player enters it. -/
theorem run_calls_example (env : Env) : Run (Guarded opensFresh (Called env)) (initial {})
    [.sessionCreated ⟨"s", []⟩, .auth ⟨"p", "s", "P"⟩ 0]
    (((initial {}).handleSessionCreated env ⟨"s", []⟩).handleAuth env ⟨"p", "s", "P"⟩ 0) := by
  refine Run.snoc (Run.single (e := HandlerCall.sessionCreated ⟨"s", []⟩) ?_)
    ⟨⟨_, rfl, rfl⟩, rfl⟩
  exact ⟨⟨_, rfl, rfl⟩, by decide⟩

/-- After any sequence of calls of the handlers the records, the lobby and the channels
agree, and a session that ends then sends its members home. -/
theorem membership_of_calls {env : Env} {σ₀ σ : ChatServer} {cs : List HandlerCall}
    (hinitial : σ₀.manager = {}) (hrun : Run (Guarded opensFresh (Called env)) σ₀ cs σ) :
    Membership σ.manager ∧ ∀ message τ, Called env σ (.sessionEnded message) τ →
      SentHome message.sessionId σ.manager τ.manager := by
  have hplaced := placed_of_calls hinitial hrun
  refine ⟨hplaced.membership, ?_⟩
  rintro message τ ⟨σ', hmanager, rfl⟩
  have hdirectory := directory_of_manager hmanager
  rw [← hdirectory] at hplaced
  have hhome : SentHome message.sessionId σ'.manager
      (HandlerCall.run env σ' (.sessionEnded message)).manager := by
    rcases run_handleSessionEnded env message σ' with ⟨hnone, heq⟩ | hend
    · exact hplaced.sentHome_of_none hnone heq
    · exact hplaced.sentHome hend
  rwa [hmanager] at hhome

/-- A player enters a session, and the session ends. -/
theorem membership_of_calls_example : ∃ σ τ, Membership σ.manager ∧
    Called defaultEnv σ (.sessionEnded ⟨"s"⟩) τ ∧ SentHome "s" σ.manager τ.manager := by
  obtain ⟨hmembership, hhome⟩ := membership_of_calls (rfl : (initial {}).manager = {})
    (run_calls_example defaultEnv)
  exact ⟨_, _, hmembership, ⟨_, rfl, rfl⟩, hhome ⟨"s"⟩ _ ⟨_, rfl, rfl⟩⟩

/-- The empty session id stands for the lobby: its players have it in their records, but
there is no channel under it. -/
theorem not_membership_emptyId :
    ¬ ∀ (env : Env) (σ₀ σ : ChatServer) (cs : List HandlerCall), σ₀.manager = {} →
      Run (Guarded opensFresh (Called env)) σ₀ cs σ →
        ∀ sid p, (∃ channel, σ.manager.sessionChannels.find? sid = some channel ∧
          channel.members.contains p = true) ↔
            ∃ state, σ.manager.players.find? p = some state ∧ state.sessionId = sid := by
  intro hclaim
  have hrun : Run (Guarded opensFresh (Called defaultEnv)) (initial {})
      [.auth ⟨"p", "", "P"⟩ 0] ((initial {}).handleAuth defaultEnv ⟨"p", "", "P"⟩ 0) :=
    Run.single ⟨⟨_, rfl, rfl⟩, rfl⟩
  obtain ⟨channel, hchannel, -⟩ := (hclaim defaultEnv _ _ _ rfl hrun "" "p").2
    ⟨⟨"P", "", 0, true⟩, by decide, rfl⟩
  have hnone : ((initial {}).handleAuth defaultEnv
      ⟨"p", "", "P"⟩ 0).manager.sessionChannels.contains "" = false := by
    decide
  rw [UnorderedMap.contains_eq_false_iff.1 hnone] at hchannel
  cases hchannel

end Chat

end SosBackend
