import SosBackend.Chat.Effect
import Mathlib.Data.Set.Insert

/-!
# The directory: who is in which channel

What the channel manager keeps about its players, without messages: the record of
each player, the lobby, and the channels of the sessions with their members and
the players announced for them. A `Placement` is one change of the directory, and
`Place` says when it may happen and what it leaves. Every handler is a run of
placements.
-/

namespace SosBackend

namespace Chat

/-- A session channel, its two sets as sets. -/
@[ext] structure Channel where
  members : Set String
  expected : Set String

@[ext] structure Directory where
  records : String → Option PlayerState
  lobby : Set String
  channels : String → Option Channel

inductive Placement
  | drop (playerId : String)
  | enterLobby (playerId : String)
  | enterSession (playerId sessionId : String)
  | openSession (message : SessionCreated)
  | endSession (sessionId : String)

namespace Directory

/-- The members of the channel of a session; nobody where there is no channel. -/
def members (v : Directory) (sid : String) : Set String :=
  {p | ∃ channel, v.channels sid = some channel ∧ p ∈ channel.members}

def setRecord (v : Directory) (p : String) (state : Option PlayerState) : Directory :=
  { v with records := Function.update v.records p state }

/-- Change the members of the channel of a session, if there is one. -/
def setMembers (v : Directory) (sid : String) (f : Set String → Set String) : Directory :=
  { v with
    channels := Function.update v.channels sid
      ((v.channels sid).map fun channel => { channel with members := f channel.members }) }

/-- A player goes: out of the lobby, out of its session channel, out of the records. -/
def drop (v : Directory) (p : String) (state : PlayerState) : Directory where
  records := Function.update v.records p none
  lobby := v.lobby \ {p}
  channels := if state.sessionId = "" then v.channels
    else (v.setMembers state.sessionId fun members => members \ {p}).channels

open scoped Classical in
/-- The members of a channel go to the lobby, and the channel goes. -/
noncomputable def endSession (v : Directory) (sid : String) : Directory where
  records p := if p ∈ v.members sid then
      (v.records p).map fun state => { state with sessionId := "", inLobby := true }
    else v.records p
  lobby := v.lobby ∪ {p | p ∈ v.members sid ∧ (v.records p).isSome}
  channels := Function.update v.channels sid none

theorem endSession_records_of_mem {v : Directory} {sid p : String} (h : p ∈ v.members sid) :
    (v.endSession sid).records p =
      (v.records p).map fun state => { state with sessionId := "", inLobby := true } :=
  if_pos h

theorem endSession_records_of_not_mem {v : Directory} {sid p : String}
    (h : p ∉ v.members sid) : (v.endSession sid).records p = v.records p :=
  if_neg h

end Directory

open Directory in
/-- One change of the directory. -/
inductive Place (v : Directory) : Placement → Directory → Prop
  | drop {p : String} {state : PlayerState} (hp : v.records p = some state) :
      Place v (.drop p) (v.drop p state)
  | enterLobby {p : String} {state : PlayerState} (hp : v.records p = none)
      (hsid : state.sessionId = "") (hlobby : state.inLobby = true) :
      Place v (.enterLobby p)
        ({ v with lobby := insert p v.lobby }.setRecord p (some state))
  | enterSession {p : String} {state : PlayerState} (hp : v.records p = none)
      (hsid : state.sessionId ≠ "") (hlobby : state.inLobby = false)
      (hchannel : (v.channels state.sessionId).isSome) :
      Place v (.enterSession p state.sessionId)
        ((v.setMembers state.sessionId (insert p)).setRecord p (some state))
  | openSession {message : SessionCreated} :
      Place v (.openSession message) { v with
        channels := Function.update v.channels message.sessionId
          (some ⟨∅, {p | ∃ player ∈ message.players, player.playerId = p}⟩) }
  | endSession {sid : String} (hchannel : (v.channels sid).isSome) :
      Place v (.endSession sid) (v.endSession sid)

/-!
## The directory of the server
-/

def SessionChannel.toChannel (channel : SessionChannel) : Channel where
  members := channel.members.toSet
  expected := channel.expectedPlayers.toSet

namespace ChatServer

def directory (σ : ChatServer) : Directory where
  records := σ.manager.players.find?
  lobby := σ.manager.lobbyMembers.toSet
  channels sid := (σ.manager.sessionChannels.find? sid).map SessionChannel.toChannel

/-- The directory is about the manager only. -/
theorem directory_of_manager {σ τ : ChatServer} (h : τ.manager = σ.manager) :
    τ.directory = σ.directory := by
  rw [directory, directory, h]

theorem mem_members {σ : ChatServer} {sid p : String} :
    p ∈ σ.directory.members sid ↔ ∃ channel,
      σ.manager.sessionChannels.find? sid = some channel ∧ channel.members.contains p = true := by
  simp only [Directory.members, directory, Option.map_eq_some_iff, Set.mem_ofPred_eq]
  constructor
  · rintro ⟨-, ⟨channel, hchannel, rfl⟩, hp⟩
    exact ⟨channel, hchannel, hp⟩
  · rintro ⟨channel, hchannel, hp⟩
    exact ⟨_, ⟨channel, hchannel, rfl⟩, hp⟩

theorem channels_isSome {σ : ChatServer} {sid : String} :
    (σ.directory.channels sid).isSome = σ.manager.sessionChannels.contains sid := by
  rw [directory, Option.isSome_map]
  rfl

theorem directory_send (σ : ChatServer) (s : SessionPtr) (envelope : ChatEnvelope) :
    (σ.send s envelope).directory = σ.directory :=
  directory_of_manager (speaks_send (P := fun _ => True) σ fun _ => trivial).manager

theorem directory_attempt (env : Env) (cmds : List (Redis.Command Unit)) (σ : ChatServer) :
    (σ.attempt env cmds).directory = σ.directory :=
  directory_of_manager (stores_attempt env cmds σ).manager

theorem directory_addPlayer (σ : ChatServer) (p : String) (state : PlayerState) :
    (σ.addPlayer p state).directory = σ.directory.setRecord p (some state) := by
  ext1
  · funext q
    simp only [directory, addPlayer, Directory.setRecord, UnorderedMap.find?_insert,
      Function.update_apply]
  · rfl
  · rfl

theorem directory_addLobbyMember (σ : ChatServer) (p : String) :
    (σ.addLobbyMember p).directory =
      { σ.directory with lobby := insert p σ.directory.lobby } := by
  ext1
  · rfl
  · exact UnorderedSet.toSet_insert _ _
  · rfl

/-- Changing a channel in its place. -/
theorem find?_modify_channel (m : UnorderedMap String SessionChannel) (sid x : String)
    (f : SessionChannel → SessionChannel) (g : Set String → Set String)
    (hf : ∀ channel, (f channel).toChannel =
      { channel.toChannel with members := g channel.toChannel.members }) :
    ((m.modify sid f).find? x).map SessionChannel.toChannel =
      Function.update (fun x => (m.find? x).map SessionChannel.toChannel) sid
        (((m.find? sid).map SessionChannel.toChannel).map fun channel =>
          { channel with members := g channel.members }) x := by
  rw [UnorderedMap.find?_modify, Function.update_apply]
  split
  · cases m.find? sid with
    | none => rfl
    | some channel => exact congrArg some (hf channel)
  · rfl

theorem directory_addMember (σ : ChatServer) (sid p : String) :
    (σ.addMember sid p).directory = σ.directory.setMembers sid (insert p) := by
  ext1
  · rfl
  · rfl
  · funext x
    refine find?_modify_channel σ.manager.sessionChannels sid x
      (fun channel => { channel with members := channel.members.insert p }) (insert p)
      fun channel => ?_
    ext1
    · exact UnorderedSet.toSet_insert _ _
    · rfl

theorem directory_removePlayer (σ : ChatServer) (p : String) (state : PlayerState) :
    (σ.removePlayer p state).directory = σ.directory.drop p state := by
  have hchannel : ∀ channel : SessionChannel,
      SessionChannel.toChannel { channel with members := channel.members.erase p } =
        { channel.toChannel with members := channel.toChannel.members \ {p} } := by
    intro channel
    ext1
    · exact UnorderedSet.toSet_erase _ _
    · rfl
  ext1
  · funext q
    simp only [directory, removePlayer, Directory.drop, UnorderedMap.find?_erase,
      Function.update_apply]
  · exact UnorderedSet.toSet_erase _ _
  · funext x
    by_cases hsid : state.sessionId = ""
    · simp [directory, removePlayer, Directory.drop, hsid]
    · simp only [directory, removePlayer, Directory.drop, bne_iff_ne, ne_eq, hsid,
        not_false_eq_true, if_true, if_false]
      exact find?_modify_channel σ.manager.sessionChannels state.sessionId x
        (fun channel => { channel with members := channel.members.erase p })
        (fun members => members \ {p}) hchannel

theorem directory_addSessionChannel (σ : ChatServer) (message : SessionCreated) :
    (σ.addSessionChannel message).directory = { σ.directory with
      channels := Function.update σ.directory.channels message.sessionId
        (some ⟨∅, {p | ∃ player ∈ message.players, player.playerId = p}⟩) } := by
  have hexpected : ∀ (players : List PlayerInfo) (s : UnorderedSet String),
      (players.foldl (fun expected player => expected.insert player.playerId) s).toSet =
        s.toSet ∪ {p | ∃ player ∈ players, player.playerId = p} := by
    intro players
    induction players with
    | nil =>
        intro s
        ext p
        simp
    | cons player players ih =>
        intro s
        rw [List.foldl_cons, ih, UnorderedSet.toSet_insert]
        ext p
        simp only [Set.mem_union, Set.mem_insert_iff, Set.mem_ofPred_eq,
          List.exists_mem_cons_iff]
        constructor
        · rintro ((rfl | hp) | hp)
          · exact Or.inr (Or.inl rfl)
          · exact Or.inl hp
          · exact Or.inr (Or.inr hp)
        · rintro (hp | rfl | hp)
          · exact Or.inl (Or.inr hp)
          · exact Or.inl (Or.inl rfl)
          · exact Or.inr hp
  ext1
  · rfl
  · rfl
  · funext x
    simp only [directory, addSessionChannel, UnorderedMap.find?_insert, Function.update_apply]
    split
    · refine congrArg some ?_
      ext1
      · exact UnorderedSet.toSet_empty
      · refine (hexpected message.players _).trans ?_
        rw [UnorderedSet.toSet_empty, Set.empty_union]
    · rfl

/-!
## The handlers
-/

/-- A player who is taken over is dropped, if it has a record. -/
theorem run_takeOver (σ : ChatServer) (p : String) (s : SessionPtr) :
    ∃ as, Run Place σ.directory as (σ.takeOver p s).directory ∧ ∀ a ∈ as, a = .drop p := by
  unfold takeOver
  split
  · exact ⟨[], Run.nil, fun a ha => absurd ha List.not_mem_nil⟩
  next state hp =>
  have hdrop : Run Place σ.directory [.drop p] (σ.removePlayer p state).directory := by
    rw [directory_removePlayer]
    exact Run.single (Place.drop hp)
  have hkick : ∀ (t : SessionPtr) (f : ChatSession → ChatSession) (envelope : ChatEnvelope),
      (((σ.removePlayer p state).updateSession t f).send t envelope).directory =
        (σ.removePlayer p state).directory :=
    fun t f envelope => (directory_send _ t envelope).trans rfl
  refine ⟨[.drop p], ?_, fun a ha => List.mem_singleton.1 ha⟩
  simp only
  split
  · exact hdrop
  split
  · rw [hkick]
    exact hdrop
  · exact hdrop

/-- The registration of a player sets its record. -/
theorem directory_register (σ : ChatServer) (p : String) (state : PlayerState)
    (s : SessionPtr) :
    (σ.register p state s).directory = σ.directory.setRecord p (some state) := by
  rw [register, directory_send, ← directory_addPlayer]
  rfl

/-- An authentication is a run of placements; it lets the player into the channel of
the session that it names, if there is one. -/
theorem run_handleAuth (env : Env) (auth : ChatAuth) (s : SessionPtr) (σ : ChatServer) :
    ∃ as, Run Place σ.directory as (σ.handleAuth env auth s).directory ∧
      ∀ a ∈ as, a = .drop auth.playerId ∨ a = .enterLobby auth.playerId ∨
        a = .enterSession auth.playerId auth.sessionId ∧ auth.sessionId ≠ "" ∧
          σ.accepts auth = true := by
  cases hcomplete : auth.isComplete with
  | false =>
      refine ⟨[], ?_, fun a ha => absurd ha List.not_mem_nil⟩
      rw [handleAuth_of_incomplete hcomplete, directory_send]
      exact Run.nil
  | true =>
  obtain ⟨as, hrun, has⟩ := run_takeOver σ auth.playerId s
  have hnone := players_takeOver σ auth.playerId s
  cases hadmits : σ.admits auth with
  | false =>
      refine ⟨as, ?_, fun a ha => Or.inl (has a ha)⟩
      rw [handleAuth_of_not_admits hcomplete hadmits, directory_send]
      exact hrun
  | true =>
  rcases admits_cases hadmits with hlobby | ⟨hsid, hchannel⟩
  · refine ⟨as ++ [.enterLobby auth.playerId], ?_, ?_⟩
    · rw [handleAuth_of_lobby hcomplete hlobby, directory_register, directory_addLobbyMember]
      exact Run.snoc hrun (Place.enterLobby hnone hlobby rfl)
    · intro a ha
      rcases List.mem_append.1 ha with ha | ha
      · exact Or.inl (has a ha)
      · exact Or.inr (Or.inl (List.mem_singleton.1 ha))
  · refine ⟨as ++ [.enterSession auth.playerId auth.sessionId], ?_, ?_⟩
    · rw [handleAuth_of_session hcomplete hsid hchannel,
        directory_of_manager (sendHistory_spec env _ _ _).1, directory_register,
        saveSessionPlayer, directory_attempt, directory_addMember]
      refine Run.snoc hrun (@Place.enterSession _ _
        { playerName := auth.playerName, sessionId := auth.sessionId, session := s }
        hnone hsid rfl ?_)
      rw [channels_isSome, contains_takeOver]
      exact hchannel
    · intro a ha
      rcases List.mem_append.1 ha with ha | ha
      · exact Or.inl (has a ha)
      · refine Or.inr (Or.inr ⟨List.mem_singleton.1 ha, hsid, ?_⟩)
        rw [accepts, hcomplete, hadmits]
        rfl

theorem directory_handleChatSend (env : Env) (p : String) (message : ChatSend)
    (σ : ChatServer) : (σ.handleChatSend env p message).directory = σ.directory := by
  obtain ⟨τ, hspeaks, heq | ⟨state, -, heq⟩⟩ := handleChatSend_spec env p message σ
  · rw [heq, directory_of_manager hspeaks.manager]
  · rw [heq, saveToHistory, directory_attempt, directory_of_manager hspeaks.manager]

/-- A player who disconnects is dropped, if it has a record. -/
theorem run_handleDisconnect (p : String) (σ : ChatServer) :
    ∃ as, Run Place σ.directory as (σ.handleDisconnect p).directory ∧
      ∀ a ∈ as, a = .drop p := by
  unfold handleDisconnect
  split
  · exact ⟨[], Run.nil, fun a ha => absurd ha List.not_mem_nil⟩
  · next state hp =>
      refine ⟨[.drop p], ?_, fun a ha => List.mem_singleton.1 ha⟩
      rw [directory_removePlayer]
      exact Run.single (Place.drop hp)

theorem place_handleSessionCreated (env : Env) (message : SessionCreated) (σ : ChatServer) :
    Place σ.directory (.openSession message) (σ.handleSessionCreated env message).directory := by
  rw [handleSessionCreated, directory_attempt, directory_addSessionChannel,
    directory_of_manager (stores_saveSessionNames env message σ).manager]
  exact Place.openSession

/-- The session that is created has a channel, with the players it is created for. -/
theorem channels_sessionCreated (env : Env) (message : SessionCreated) (σ : ChatServer) :
    (σ.processInternalMessage env (.sessionCreated message)).directory.channels
        message.sessionId =
      some ⟨∅, {p | ∃ player ∈ message.players, player.playerId = p}⟩ := by
  have hplace : Place σ.directory (.openSession message)
      (σ.processInternalMessage env (.sessionCreated message)).directory :=
    place_handleSessionCreated env message σ
  generalize (σ.processInternalMessage env (.sessionCreated message)).directory = v at hplace ⊢
  cases hplace
  exact Function.update_self _ _ _

/-- One player goes to the lobby. -/
theorem records_returnToLobby (σ : ChatServer) (q p : String) :
    (σ.returnToLobby q).directory.records p = if p = q then
      (σ.directory.records p).map fun state => { state with sessionId := "", inLobby := true }
    else σ.directory.records p := by
  unfold returnToLobby
  split
  · simp only [directory, UnorderedMap.find?_modify]
    split
    · next hp => rw [hp]
    · rfl
  · next hq =>
      rw [Bool.not_eq_true, UnorderedMap.contains_eq_false_iff] at hq
      split
      · next hp =>
          rw [hp]
          simp only [directory, hq, Option.map_none]
      · rfl

theorem lobby_returnToLobby (σ : ChatServer) (q : String) :
    (σ.returnToLobby q).directory.lobby =
      σ.directory.lobby ∪ {p | p = q ∧ (σ.directory.records p).isSome} := by
  unfold returnToLobby
  split
  · next hq =>
      refine (UnorderedSet.toSet_insert _ _).trans ?_
      ext p
      simp only [directory, Set.mem_insert_iff, Set.mem_union, Set.mem_ofPred_eq]
      constructor
      · rintro (rfl | hp)
        · exact Or.inr ⟨rfl, hq⟩
        · exact Or.inl hp
      · rintro (hp | ⟨hp, -⟩)
        · exact Or.inr hp
        · exact Or.inl hp
  · next hq =>
      ext p
      simp only [Set.mem_union, Set.mem_ofPred_eq]
      constructor
      · exact Or.inl
      · rintro (hp | ⟨rfl, hp⟩)
        · exact hp
        · exact absurd hp hq

/-- The players of a list go to the lobby. -/
theorem directory_returnToLobby (ids : List String) (σ : ChatServer) :
    (∀ p, (ids.foldl returnToLobby σ).directory.records p = if p ∈ ids then
        (σ.directory.records p).map fun state => { state with sessionId := "", inLobby := true }
      else σ.directory.records p) ∧
    (ids.foldl returnToLobby σ).directory.lobby =
      σ.directory.lobby ∪ {p | p ∈ ids ∧ (σ.directory.records p).isSome} ∧
    (ids.foldl returnToLobby σ).directory.channels = σ.directory.channels := by
  induction ids generalizing σ with
  | nil =>
      refine ⟨fun p => ?_, ?_, rfl⟩
      · rw [if_neg List.not_mem_nil]
        rfl
      · simp
  | cons q ids ih =>
      obtain ⟨hrecords, hlobby, hchannels⟩ := ih (σ.returnToLobby q)
      have hsome : ∀ p, ((σ.returnToLobby q).directory.records p).isSome =
          (σ.directory.records p).isSome := by
        intro p
        rw [records_returnToLobby]
        split
        · rw [Option.isSome_map]
        · rfl
      refine ⟨fun p => ?_, ?_, ?_⟩
      · rw [List.foldl_cons, hrecords, records_returnToLobby]
        by_cases hp : p = q
        · subst hp
          by_cases hids : p ∈ ids
          · simp only [hids, if_true, List.mem_cons, true_or, Option.map_map]
            rfl
          · simp [hids]
        · simp [hp]
      · rw [List.foldl_cons, hlobby, lobby_returnToLobby]
        ext p
        simp only [hsome, Set.mem_union, Set.mem_ofPred_eq, List.mem_cons]
        tauto
      · rw [List.foldl_cons, hchannels]
        unfold returnToLobby
        split
        · rfl
        · rfl

/-- A session that ends takes its channel with it, if it has one. -/
theorem run_handleSessionEnded (env : Env) (message : SessionEnded) (σ : ChatServer) :
    (σ.directory.channels message.sessionId = none ∧
        (σ.handleSessionEnded env message).directory = σ.directory) ∨
      Place σ.directory (.endSession message.sessionId)
        (σ.handleSessionEnded env message).directory := by
  unfold handleSessionEnded
  split
  · next hnone =>
      refine Or.inl ⟨?_, rfl⟩
      simp only [directory, hnone, Option.map_none]
  next channel hchannel =>
  refine Or.inr ?_
  have hmem : ∀ p, p ∈ channel.members.keyList ↔ p ∈ σ.directory.members message.sessionId := by
    intro p
    rw [mem_members, hchannel, UnorderedMap.mem_keyList]
    simp [UnorderedMap.contains]
  obtain ⟨hrecords, hlobby, hchannels⟩ := directory_returnToLobby channel.members.keyList σ
  simp only [directory_attempt]
  have hend : (channel.members.keyList.foldl returnToLobby σ).directory.channels =
      σ.directory.channels := hchannels
  have hresult : ({ channel.members.keyList.foldl returnToLobby σ with
      manager := { (channel.members.keyList.foldl returnToLobby σ).manager with
        sessionChannels := (channel.members.keyList.foldl returnToLobby
          σ).manager.sessionChannels.erase message.sessionId } } : ChatServer).directory =
      σ.directory.endSession message.sessionId := by
    ext1
    · funext p
      refine (hrecords p).trans ?_
      by_cases hp : p ∈ σ.directory.members message.sessionId
      · rw [if_pos ((hmem p).2 hp), Directory.endSession_records_of_mem hp]
      · rw [if_neg (mt (hmem p).1 hp), Directory.endSession_records_of_not_mem hp]
    · refine hlobby.trans ?_
      rw [Directory.endSession]
      simp only [hmem]
    · funext x
      refine Eq.trans ?_ (congrArg (fun channels => Function.update channels
        message.sessionId none x) hend)
      simp only [directory, UnorderedMap.find?_erase, Function.update_apply]
      split
      · rfl
      · rfl
  rw [hresult]
  refine Place.endSession ?_
  rw [channels_isSome, UnorderedMap.contains, hchannel]
  rfl

/-- Closing a session drops the record of its player, if it has one. -/
theorem run_closeSession (s : SessionPtr) (σ : ChatServer) :
    ∃ as, Run Place σ.directory as (σ.closeSession s).directory ∧
      ∀ a ∈ as, a = .drop (σ.sessions s).playerId := by
  unfold closeSession
  split
  · exact ⟨[], Run.nil, fun a ha => absurd ha List.not_mem_nil⟩
  have hplayer : ((σ.updateSession s fun c => { c with closed := true }).sessions s).playerId =
      (σ.sessions s).playerId := by
    simp [updateSession]
  simp only [hplayer]
  split
  · exact run_handleDisconnect (σ.sessions s).playerId
      (σ.updateSession s fun c => { c with closed := true })
  · exact ⟨[], Run.nil, fun a ha => absurd ha List.not_mem_nil⟩

end ChatServer

end Chat

end SosBackend
