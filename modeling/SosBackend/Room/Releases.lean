import SosBackend.Room.GameStart
import SosBackend.Room.Lobby
import Mathlib.Data.Finset.Insert

/-!
# The end of a game by slot releases

The game server releases the players of a game one by one, in messages that may
come in any order, more than once, and late. `Partway D` is the state in which
the players in `D` have been released: it depends on who has been released and on
nothing else about the messages, and a message that releases nobody else leaves
it as it is. The last release ends the session.
-/

namespace SosBackend

namespace Room

open RoomServer

/-- A `SlotReleased` with the connection it comes over. -/
structure SlotRelease where
  connection : SessionPtr
  playerId : String
  sessionId : String

def SlotRelease.input (m : SlotRelease) : Input :=
  .gameServerMessage m.connection (.slotReleased m.playerId m.sessionId)

/-- Every message names a session, and every player of the room is released from
its session at least once. -/
structure Covers (room : Room) (ms : List SlotRelease) : Prop where
  named : ∀ m ∈ ms, m.sessionId ≠ ""
  complete : ∀ p, room.hasPlayer p = true →
    ∃ m ∈ ms, m.playerId = p ∧ m.sessionId = room.sessionId

/-- What the end of a session does behind the server: it is unregistered in
Redis, and the Chat Server is told. -/
def Backend.endSession (env : Env) (sid : String) (b : Backend) : Backend :=
  if env.chatChannel then (b.unregisterGameSession env sid).sendSessionEnded sid
  else b.unregisterGameSession env sid

/-- What releasing players does not touch. -/
structure Untouched (σ τ : RoomServer) : Prop where
  pending : τ.manager.lobbyBroadcastPending = σ.manager.lobbyBroadcastPending
  timerWaits : τ.manager.lobbyTimerWaits = σ.manager.lobbyTimerWaits
  clients : τ.clients = σ.clients
  gameServers : τ.gameServers = σ.gameServers
  sent : τ.sent = σ.sent
  replies : τ.replies = σ.replies

theorem Untouched.refl (σ : RoomServer) : Untouched σ σ :=
  ⟨rfl, rfl, rfl, rfl, rfl, rfl⟩

theorem Untouched.trans {σ τ υ : RoomServer} (h : Untouched σ τ) (h' : Untouched τ υ) :
    Untouched σ υ where
  pending := h'.pending.trans h.pending
  timerWaits := h'.timerWaits.trans h.timerWaits
  clients := h'.clients.trans h.clients
  gameServers := h'.gameServers.trans h.gameServers
  sent := h'.sent.trans h.sent
  replies := h'.replies.trans h.replies

/-- Two states that are the same up to the order in which their containers are
iterated. -/
structure SameState (σ τ : RoomServer) : Prop where
  rooms : τ.manager.rooms.find? = σ.manager.rooms.find?
  playerToRoom : τ.manager.playerToRoom.find? = σ.manager.playerToRoom.find?
  sessions : τ.manager.sessions.find? = σ.manager.sessions.find?
  lobby : τ.lobby = σ.lobby
  backend : τ.backend = σ.backend
  rest : Untouched σ τ

/-- The game of the room under `r` is over, and its players are back in the
lobby. -/
structure GameOver (env : Env) (σ : RoomServer) (r : String) (room : Room)
    (τ : RoomServer) : Prop where
  rooms : ∀ r', τ.manager.rooms.find? r' = if r' = r then none else σ.manager.rooms.find? r'
  playerToRoom : ∀ p, τ.manager.playerToRoom.find? p =
    if room.hasPlayer p then none else σ.manager.playerToRoom.find? p
  sessions : ∀ p, τ.manager.sessions.find? p =
    if room.hasPlayer p then none else σ.manager.sessions.find? p
  lobby : τ.lobby = σ.lobby ∪ {t | ∃ p, room.hasPlayer p = true ∧ σ.lock p = some t}
  backend : τ.backend = σ.backend.endSession env room.sessionId
  rest : Untouched σ τ

/-- One message of the sequence, the one that releases the last player of the
room, ends the session; the others do nothing behind the server. -/
def EndsOnce (env : Env) (σ : RoomServer) (r : String) (room : Room)
    (ms : List SlotRelease) (τ : RoomServer) : Prop :=
  ∃ (before after : List SlotRelease) (m : SlotRelease) (x y : RoomServer) (room' : Room),
    ms = before ++ m :: after ∧
    Run (Step env) σ (before.map SlotRelease.input) x ∧ x.backend = σ.backend ∧
    x.manager.rooms.find? r = some room' ∧ room'.playerIds = [m.playerId] ∧
    Step env x m.input y ∧ y.backend = x.backend.endSession env room.sessionId ∧
    y.manager.rooms.find? r = none ∧
    Run (Step env) y (after.map SlotRelease.input) τ ∧ τ.backend = y.backend

/-!
## Players taken off a roster
-/

/-- The room without the players in `D`. -/
def without (room : Room) (D : Finset String) : Room :=
  { room with players := room.players.filter fun player => decide (player.playerId ∉ D) }

theorem mem_playerIds_without {room : Room} {D : Finset String} {p : String} :
    p ∈ (room.without D).playerIds ↔ p ∈ room.playerIds ∧ p ∉ D := by
  simp only [playerIds, without, List.mem_map, List.mem_filter, decide_eq_true_eq]
  constructor
  · intro h
    obtain ⟨player, ⟨hmem, hout⟩, rfl⟩ := h
    exact ⟨⟨player, hmem, rfl⟩, hout⟩
  · intro h
    obtain ⟨⟨player, hmem, rfl⟩, hout⟩ := h
    exact ⟨player, ⟨hmem, hout⟩, rfl⟩

theorem without_empty (room : Room) : room.without ∅ = room := by
  simp [without]

theorem eraseP_eq_filter {players : List PlayerData} {p : String}
    (hnodup : (players.map PlayerData.playerId).Nodup) :
    (players.eraseP fun player => player.playerId == p) =
      players.filter fun player => decide (player.playerId ≠ p) := by
  induction players with
  | nil => rfl
  | cons player players ih =>
      rw [List.map_cons, List.nodup_cons] at hnodup
      by_cases hp : player.playerId = p
      · have hrest : ∀ player' ∈ players, player'.playerId ≠ p := by
          intro player' hmem heq
          exact hnodup.1 (List.mem_map.2 ⟨player', hmem, heq.trans hp.symm⟩)
        have hkeep : players.filter (fun player => decide (player.playerId ≠ p)) = players :=
          List.filter_eq_self.2 fun player' hmem => decide_eq_true (hrest player' hmem)
        rw [List.filter_cons_of_neg (by simp [hp]), hkeep, List.eraseP_cons_of_pos (by simp [hp])]
      · rw [List.filter_cons_of_pos (by simp [hp]), List.eraseP_cons_of_neg (by simp [hp]),
          ih hnodup.2]

theorem removePlayer_without {room : Room} (hnodup : room.playerIds.Nodup)
    (D : Finset String) (p : String) :
    (room.without D).removePlayer p = room.without (insert p D) := by
  have hsub : ((room.without D).players.map PlayerData.playerId).Nodup :=
    hnodup.sublist (List.filter_sublist.map _)
  have hplayers : (room.without D).players.eraseP (fun player => player.playerId == p) =
      (room.without (insert p D)).players := by
    rw [eraseP_eq_filter hsub]
    simp only [without, List.filter_filter, Finset.mem_insert, not_or]
    apply List.filter_congr
    intro player _
    simp
  simp only [removePlayer, hplayers]
  rfl

/-!
## One message
-/

variable {env : Env} {σ τ : RoomServer} {r : String} {room : Room} {D : Finset String}

theorem handleSlotReleased_of_none {p : String} (hp : σ.registry.playerToRoom p = none)
    (sid : String) : σ.handleSlotReleased env p sid = σ := by
  have hp' : σ.manager.playerToRoom.find? p = none := hp
  simp only [handleSlotReleased, hp']

theorem handleSlotReleased_of_mismatch {p sid : String} (hp : σ.registry.playerToRoom p = some r)
    (hroom : σ.registry.rooms r = some room) (hsid : sid ≠ "") (hne : room.sessionId ≠ sid) :
    σ.handleSlotReleased env p sid = σ := by
  have hp' : σ.manager.playerToRoom.find? p = some r := hp
  have hroom' : σ.manager.rooms.find? r = some room := hroom
  simp [handleSlotReleased, hp', hroom', hsid, hne]

theorem endSession_eq (hstore : env.sessionStore.isSome = true) {sid : String}
    (hsid : sid ≠ "") (σ : RoomServer) :
    σ.endSession env sid = { σ with backend := σ.backend.endSession env sid } := by
  cases hchat : env.chatChannel with
  | true => simp [RoomServer.endSession, Backend.endSession, hstore, hchat, hsid, withBackend]
  | false => simp [RoomServer.endSession, Backend.endSession, hstore, hchat, withBackend]

/-- A release that takes effect: the player is out, and back in the lobby, and the
session ends with its last player. -/
theorem released_spec (hstore : env.sessionStore.isSome = true) {p : String}
    (hp : σ.registry.playerToRoom p = some r) (hroom : σ.registry.rooms r = some room)
    (hsid : room.sessionId ≠ "") :
    let last := (room.removePlayer p).playerCount = 0
    let τ := σ.handleSlotReleased env p room.sessionId
    τ.registry.rooms = Function.update σ.registry.rooms r
        (if last then none else some (room.removePlayer p)) ∧
      τ.registry.playerToRoom = Function.update σ.registry.playerToRoom p none ∧
      τ.registry.sessions = Function.update σ.registry.sessions p none ∧
      τ.lobby = σ.lobby ∪ {t | σ.lock p = some t} ∧
      τ.backend = (if last then σ.backend.endSession env room.sessionId else σ.backend) ∧
      Untouched σ τ := by
  have hp' : σ.manager.playerToRoom.find? p = some r := hp
  have hroom' : σ.manager.rooms.find? r = some room := hroom
  have hpass : (room.sessionId != "" && room.sessionId != room.sessionId) = false := by simp
  simp only [handleSlotReleased, hp', hroom', hpass, Bool.false_eq_true, if_false]
  generalize hτ : RoomServer.unregisterSession _ p = τ
  have hreg : τ.registry = ((σ.registry.setRoom r
      (some (room.removePlayer p))).setPlayerToRoom p none).setSession p none := by
    rw [← hτ, registry_unregisterSession, registry_exitRoom, registry_modifyRoom,
      registry_returnToLobby]
    rw [registry_returnToLobby]
    exact hroom
  have hlobby : τ.lobby = σ.lobby ∪ {t | σ.lock p = some t} := by
    ext t
    rw [← hτ]
    exact mem_lobby_returnToLobby
  have hbackend : τ.backend = σ.backend := by
    rw [← hτ]
    exact backend_returnToLobby σ p
  have hrest : Untouched σ τ := by
    rw [← hτ]
    unfold returnToLobby
    split
    · exact ⟨rfl, rfl, rfl, rfl, rfl, rfl⟩
    · exact ⟨rfl, rfl, rfl, rfl, rfl, rfl⟩
  split
  · next hlast =>
      have hend : (room.removePlayer p).sessionId = room.sessionId := rfl
      have hendreg := (endSession_spec env room.sessionId τ).1
      have heq := endSession_eq hstore hsid τ
      have hfinal : ((τ.endSession env room.sessionId).eraseRoom r).registry =
          τ.registry.setRoom r none := by
        rw [registry_eraseRoom, hendreg]
      rw [hend, hfinal, hreg]
      refine ⟨Function.update_idem _ _ _, rfl, rfl, ?_, ?_, ?_⟩
      · rw [← hlobby, heq]
        rfl
      · rw [heq, ← hbackend]
        rfl
      · rw [heq]
        exact ⟨hrest.pending, hrest.timerWaits, hrest.clients, hrest.gameServers, hrest.sent,
          hrest.replies⟩
  · next hlast =>
      rw [hreg]
      exact ⟨rfl, rfl, rfl, hlobby, hbackend, hrest⟩

/-- Starting from `σ`, the players in `D` have been released from the room under
`r`. -/
structure Partway (env : Env) (σ : RoomServer) (r : String) (room : Room) (D : Finset String)
    (τ : RoomServer) : Prop where
  inside : ∀ p ∈ D, p ∈ room.playerIds
  rooms : τ.registry.rooms = Function.update σ.registry.rooms r
    (if ∀ p ∈ room.playerIds, p ∈ D then none else some (room.without D))
  playerToRoom : ∀ p, τ.registry.playerToRoom p =
    if p ∈ D then none else σ.registry.playerToRoom p
  sessions : ∀ p, τ.registry.sessions p = if p ∈ D then none else σ.registry.sessions p
  lobby : τ.lobby = σ.lobby ∪ {t | ∃ p ∈ D, σ.lock p = some t}
  backend : τ.backend = if ∀ p ∈ room.playerIds, p ∈ D then
    σ.backend.endSession env room.sessionId else σ.backend
  rest : Untouched σ τ

/-- Where a game has got to, as seen by those who are not released yet. -/
theorem Partway.lock (h : Partway env σ r room D τ) {p : String} (hp : p ∉ D) :
    τ.lock p = σ.lock p := by
  apply lock_congr_at
  · rw [h.sessions, if_neg hp]
  · intro t
    rw [h.rest.clients]

/-- A release of a player who is on the roster. -/
theorem Partway.release (hstore : env.sessionStore.isSome = true)
    (hσ : σ.registry.Indexed env) (hτ : τ.registry.Indexed env)
    (hroom : σ.registry.rooms r = some room) (hsid : room.sessionId ≠ "")
    (h : Partway env σ r room D τ) {p : String} (hp : p ∈ room.playerIds) (hD : p ∉ D) :
    Partway env σ r room (insert p D) (τ.handleSlotReleased env p room.sessionId) := by
  have hnodup := hσ.nodup r room hroom
  have hmore : ¬ ∀ q ∈ room.playerIds, q ∈ D := fun hall => hD (hall p hp)
  have hpτ : τ.registry.playerToRoom p = some r := by
    rw [h.playerToRoom, if_neg hD]
    exact hσ.index_of_mem hroom hp
  have hroomτ : τ.registry.rooms r = some (room.without D) := by
    rw [h.rooms, if_neg hmore]
    exact Function.update_self _ _ _
  have hspec := released_spec hstore hpτ hroomτ hsid
  have hsame : (room.without D).sessionId = room.sessionId := rfl
  rw [hsame, removePlayer_without hnodup D p] at hspec
  obtain ⟨hrooms, hplayers, hsessions, hlobby, hbackend, hrest⟩ := hspec
  generalize τ.handleSlotReleased env p room.sessionId = υ at *
  -- the roster is empty once everybody has been released
  have hlast : (room.without (insert p D)).playerCount = 0 ↔
      ∀ q ∈ room.playerIds, q ∈ insert p D := by
    constructor
    · intro hcount q hq
      rw [← removePlayer_without hnodup D p] at hcount
      have hnil := hτ.playerIds_eq_nil hroomτ hcount
      rw [removePlayer_without hnodup D p] at hnil
      by_contra hout
      have hmem := mem_playerIds_without.2 ⟨hq, hout⟩
      rw [hnil] at hmem
      cases hmem
    · intro hall
      have hnil : (room.without (insert p D)).playerIds = [] := by
        rw [List.eq_nil_iff_forall_not_mem]
        intro q hq
        obtain ⟨hq, hout⟩ := mem_playerIds_without.1 hq
        exact hout (hall q hq)
      rw [playerCount, ← length_playerIds, hnil]
      rfl
  simp only [hlast] at hrooms hbackend
  constructor
  · intro q hq
    rcases Finset.mem_insert.1 hq with rfl | hq
    · exact hp
    · exact h.inside q hq
  · rw [hrooms, h.rooms, Function.update_idem]
  · intro q
    rw [hplayers, Function.update_apply, h.playerToRoom]
    by_cases hq : q = p
    · simp [hq]
    · simp [hq]
  · intro q
    rw [hsessions, Function.update_apply, h.sessions]
    by_cases hq : q = p
    · simp [hq]
    · simp [hq]
  · rw [hlobby, h.lobby, h.lock hD, Set.union_assoc]
    congr 1
    ext t
    simp [or_comm]
  · rw [hbackend, h.backend, if_neg hmore]
  · exact h.rest.trans hrest

/-- A message that meets somebody else's room, or nobody's, changes nothing. -/
theorem Partway.ignores (hσ : σ.registry.Indexed env) (hstaged : σ.registry.Staged env)
    (hroom : σ.registry.rooms r = some room) (hstate : room.state = .inGame)
    (h : Partway env σ r room D τ) {p sid : String} (hsid : sid ≠ "")
    (hout : p ∈ D ∨ p ∉ room.playerIds ∨ sid ≠ room.sessionId) :
    τ.handleSlotReleased env p sid = τ := by
  by_cases hD : p ∈ D
  · apply handleSlotReleased_of_none
    rw [h.playerToRoom, if_pos hD]
  have hplayer : τ.registry.playerToRoom p = σ.registry.playerToRoom p := by
    rw [h.playerToRoom, if_neg hD]
  cases hp : σ.registry.playerToRoom p with
  | none => exact handleSlotReleased_of_none (hplayer.trans hp) sid
  | some r' =>
  obtain ⟨room', hroom', hmem⟩ := (hσ.index p r').1 hp
  by_cases hr : r' = r
  · -- a message for another session
    subst hr
    rw [hroom] at hroom'
    cases hroom'
    have hne : sid ≠ room.sessionId := (hout.resolve_left hD).resolve_left (not_not.2 hmem)
    have hmore : ¬ ∀ q ∈ room.playerIds, q ∈ D := fun hall => hD (hall p hmem)
    have hroomτ : τ.registry.rooms r' = some (room.without D) := by
      rw [h.rooms, if_neg hmore]
      exact Function.update_self _ _ _
    exact handleSlotReleased_of_mismatch (hplayer.trans hp) hroomτ hsid hne.symm
  · -- no other room is in game, so no other room has a session
    have hwaiting : room'.state = .waiting := by
      cases hstate' : room'.state with
      | waiting => rfl
      | inGame => exact absurd (hstaged.alone r' r room' room hroom' hroom hstate' hstate) hr
    have hroomτ : τ.registry.rooms r' = some room' := by
      rw [h.rooms, Function.update_of_ne hr]
      exact hroom'
    apply handleSlotReleased_of_mismatch (hplayer.trans hp) hroomτ hsid
    rw [hstaged.idle r' room' hroom' hwaiting]
    exact hsid.symm

/-!
## Runs
-/

/-- A step that handles a slot release. -/
theorem step_release {m : SlotRelease} (h : Step env σ m.input τ) :
    env.sessionStore.isSome = true ∧
      τ = σ.handleSlotReleased env m.playerId m.sessionId := by
  simp only [Step, step, SlotRelease.input] at h
  split at h
  · cases h
  · next store hstore =>
      obtain ⟨-, rfl⟩ := Option.ite_some_none_eq_some.1 h
      exact ⟨by rw [hstore, Option.isSome_some], rfl⟩

theorem partway_start (hne : room.playerIds ≠ []) (hroom : σ.registry.rooms r = some room) :
    Partway env σ r room ∅ σ := by
  have hmore : ¬ ∀ p ∈ room.playerIds, p ∈ (∅ : Finset String) := by
    intro hall
    obtain ⟨p, hp⟩ := List.exists_mem_of_ne_nil _ hne
    cases hall p hp
  constructor
  · intro p hp
    cases hp
  · rw [if_neg hmore, without_empty, ← hroom, Function.update_eq_self]
  · intro p
    rfl
  · intro p
    rfl
  · simp
  · rw [if_neg hmore]
  · exact Untouched.refl σ

/-- How far a sequence of messages has got: whoever it has named is out, and the
session has ended once if everybody is. -/
structure Progress (env : Env) (σ : RoomServer) (r : String) (room : Room)
    (ms : List SlotRelease) (D : Finset String) (τ : RoomServer) : Prop where
  partway : Partway env σ r room D τ
  named : ∀ m ∈ ms, m.sessionId = room.sessionId → m.playerId ∈ room.playerIds →
    m.playerId ∈ D
  ends : (∀ p ∈ room.playerIds, p ∈ D) → EndsOnce env σ r room ms τ

/-- One more message. -/
theorem Progress.step (hσ : σ.registry.Indexed env) (hstaged : σ.registry.Staged env)
    (hroom : σ.registry.rooms r = some room) (hstate : room.state = .inGame)
    {ms : List SlotRelease} {m : SlotRelease} {υ : RoomServer}
    (hrun : Run (Step env) σ (ms.map SlotRelease.input) τ) (hτ : τ.registry.Indexed env)
    (h : Progress env σ r room ms D τ) (hsid : m.sessionId ≠ "")
    (hstep : Step env τ m.input υ) : ∃ D', Progress env σ r room (ms ++ [m]) D' υ := by
  obtain ⟨hstore, hυ⟩ := step_release hstep
  by_cases hout : m.playerId ∈ D ∨ m.playerId ∉ room.playerIds ∨ m.sessionId ≠ room.sessionId
  · -- nothing happens
    have hsame : υ = τ := hυ.trans (h.partway.ignores hσ hstaged hroom hstate hsid hout)
    refine ⟨D, ?_, ?_, ?_⟩
    · rw [hsame]
      exact h.partway
    · intro m' hm' hmatch hmem
      rcases List.mem_append.1 hm' with hm' | hm'
      · exact h.named m' hm' hmatch hmem
      · rw [List.mem_singleton.1 hm'] at hmatch hmem ⊢
        rcases hout with hD | hmem' | hne
        · exact hD
        · exact absurd hmem hmem'
        · exact absurd hmatch hne
    · intro hall
      obtain ⟨before, after, m', x, y, room', rfl, hbefore, hx, hroom', hlast, hstep', hy,
        hgone, hafter, hback⟩ := h.ends hall
      refine ⟨before, after ++ [m], m', x, y, room', ?_, hbefore, hx, hroom', hlast, hstep',
        hy, hgone, ?_, ?_⟩
      · rw [List.append_assoc, List.cons_append]
      · rw [List.map_append]
        exact Run.snoc hafter hstep
      · rw [hsame]
        exact hback
  · rw [not_or, not_or, not_not, not_not] at hout
    obtain ⟨hD, hp, hmatch⟩ := hout
    have hnonempty : room.sessionId ≠ "" := hmatch ▸ hsid
    rw [hmatch] at hυ
    have hnext := h.partway.release hstore hσ hτ hroom hnonempty hp hD
    rw [← hυ] at hnext
    refine ⟨insert m.playerId D, hnext, ?_, ?_⟩
    · intro m' hm' hmatch' hmem
      rcases List.mem_append.1 hm' with hm' | hm'
      · exact Finset.mem_insert_of_mem (h.named m' hm' hmatch' hmem)
      · rw [List.mem_singleton.1 hm']
        exact Finset.mem_insert_self _ _
    · intro hall
      -- this is the message that releases the last player
      have hmore : ¬ ∀ q ∈ room.playerIds, q ∈ D := fun hall => hD (hall _ hp)
      have hback : τ.backend = σ.backend := by rw [h.partway.backend, if_neg hmore]
      have hroomτ : τ.registry.rooms r = some (room.without D) := by
        rw [h.partway.rooms, if_neg hmore]
        exact Function.update_self _ _ _
      have hgone : υ.registry.rooms r = none := by
        rw [hnext.rooms, if_pos hall]
        exact Function.update_self _ _ _
      refine ⟨ms, [], m, τ, υ, room.without D, rfl, hrun, hback, hroomτ, ?_, hstep, ?_, hgone,
        Run.nil, rfl⟩
      · have hnodup : (room.without D).playerIds.Nodup := hτ.nodup r _ hroomτ
        apply List.perm_singleton.1
        apply (List.perm_ext_iff_of_nodup hnodup (List.nodup_singleton _)).2
        intro q
        rw [mem_playerIds_without, List.mem_singleton]
        constructor
        · intro hq
          exact (Finset.mem_insert.1 (hall q hq.1)).resolve_right hq.2
        · intro hq
          exact hq ▸ ⟨hp, hD⟩
      · rw [hnext.backend, if_pos hall, hback]

theorem exists_progress (hσ : σ.registry.Indexed env) (hstaged : σ.registry.Staged env)
    (hroom : σ.registry.rooms r = some room) (hstate : room.state = .inGame)
    (hne : room.playerIds ≠ []) {ms : List SlotRelease} (hnamed : ∀ m ∈ ms, m.sessionId ≠ "")
    (h : Run (Step env) σ (ms.map SlotRelease.input) τ) :
    ∃ D, Progress env σ r room ms D τ := by
  induction ms using List.reverseRecOn generalizing τ with
  | nil =>
      obtain rfl := h.nil_inv
      refine ⟨∅, partway_start hne hroom, fun m hm => absurd hm List.not_mem_nil, ?_⟩
      intro hall
      obtain ⟨p, hp⟩ := List.exists_mem_of_ne_nil _ hne
      cases hall p hp
  | append_singleton ms m ih =>
      rw [List.map_append] at h
      obtain ⟨x, hrun, hstep⟩ := h.snoc_inv
      obtain ⟨D, hx⟩ := ih (fun m' hm' => hnamed m' (List.mem_append_left _ hm')) hrun
      have hindexed : x.registry.Indexed env :=
        hrun.invariant (I := fun x => x.registry.Indexed env) (fun _ _ _ => indexed_step) hσ
      exact hx.step hσ hstaged hroom hstate hrun hindexed
        (hnamed m (List.mem_append_right _ (List.mem_singleton_self m))) hstep

/-- Once everybody has been released, the game is over. -/
theorem Partway.gameOver (h : Partway env σ r room D τ)
    (hall : ∀ p ∈ room.playerIds, p ∈ D) : GameOver env σ r room τ := by
  have hD : ∀ p, p ∈ D ↔ room.hasPlayer p = true := by
    intro p
    rw [hasPlayer_iff]
    exact ⟨h.inside p, hall p⟩
  constructor
  · intro r'
    refine (congrFun h.rooms r').trans ?_
    rw [if_pos hall, Function.update_apply]
    rfl
  · intro p
    refine (h.playerToRoom p).trans ?_
    simp only [hD]
    rfl
  · intro p
    refine (h.sessions p).trans ?_
    simp only [hD]
    rfl
  · rw [h.lobby]
    simp only [hD]
  · rw [h.backend, if_pos hall]
  · exact h.rest

theorem GameOver.sameState {υ : RoomServer} (hτ : GameOver env σ r room τ)
    (hυ : GameOver env σ r room υ) : SameState τ υ where
  rooms := by
    funext r'
    rw [hτ.rooms, hυ.rooms]
  playerToRoom := by
    funext p
    rw [hτ.playerToRoom, hυ.playerToRoom]
  sessions := by
    funext p
    rw [hτ.sessions, hυ.sessions]
  lobby := by rw [hτ.lobby, hυ.lobby]
  backend := by rw [hτ.backend, hυ.backend]
  rest :=
    { pending := hυ.rest.pending.trans hτ.rest.pending.symm
      timerWaits := hυ.rest.timerWaits.trans hτ.rest.timerWaits.symm
      clients := hυ.rest.clients.trans hτ.rest.clients.symm
      gameServers := hυ.rest.gameServers.trans hτ.rest.gameServers.symm
      sent := hυ.rest.sent.trans hτ.rest.sent.symm
      replies := hυ.rest.replies.trans hτ.rest.replies.symm }

theorem GameOver.told (h : GameOver env σ r room τ) (hchat : env.chatChannel = true)
    (hup : σ.backend.chat.connected = true) :
    τ.backend.chat.sent = σ.backend.chat.sent ++ [.sessionEnded ⟨room.sessionId⟩] := by
  have hlink : (σ.backend.unregisterGameSession env room.sessionId).chat = σ.backend.chat :=
    rfl
  rw [h.backend, Backend.endSession, if_pos hchat, Backend.sendSessionEnded, chat_sendToChat,
    hlink, if_pos hup]

/-- A sequence of slot releases that covers a game ends it, whatever the order, the
repetitions and the other messages: the session ends once, with the last of its
players, and the state in the end is the same for all such sequences. -/
theorem gameOver_of_covers {store : Redis.Keyspace} {is : List Input}
    (hσ : Run (Step env) (initial store) is σ)
    (hroom : σ.manager.rooms.find? r = some room) (hstate : room.state = .inGame)
    (hne : room.players ≠ []) {ms : List SlotRelease} (hms : Covers room ms)
    (h : Run (Step env) σ (ms.map SlotRelease.input) τ) :
    GameOver env σ r room τ ∧ EndsOnce env σ r room ms τ ∧
      (env.chatChannel = true → σ.backend.chat.connected = true →
        τ.backend.chat.sent = σ.backend.chat.sent ++ [.sessionEnded ⟨room.sessionId⟩]) ∧
      ∀ (ms' : List SlotRelease) (τ' : RoomServer), Covers room ms' →
        Run (Step env) σ (ms'.map SlotRelease.input) τ' → SameState τ τ' := by
  have hindexed : σ.registry.Indexed env := indexed_of_run (fun _ _ _ => id) hσ
  have hstaged : σ.registry.Staged env := staged_of_run (fun _ _ _ => id) hσ
  have hroster : room.playerIds ≠ [] := by simpa [playerIds] using hne
  have hover : ∀ (ms : List SlotRelease) (τ : RoomServer), Covers room ms →
      Run (Step env) σ (ms.map SlotRelease.input) τ →
        GameOver env σ r room τ ∧ EndsOnce env σ r room ms τ := by
    intro ms τ hms h
    obtain ⟨D, hprogress⟩ := exists_progress hindexed hstaged hroom hstate hroster hms.named h
    have hall : ∀ p ∈ room.playerIds, p ∈ D := by
      intro p hp
      obtain ⟨m, hm, rfl, hmatch⟩ := hms.complete p (hasPlayer_iff.2 hp)
      exact hprogress.named m hm hmatch hp
    exact ⟨hprogress.partway.gameOver hall, hprogress.ends hall⟩
  obtain ⟨hτ, hends⟩ := hover ms τ hms h
  refine ⟨hτ, hends, hτ.told, ?_⟩
  intro ms' τ' hms' h'
  exact hτ.sameState (hover ms' τ' hms' h').1

/-- Two players are released, the guest twice, with a stale message in between. -/
theorem gameOver_of_covers_twoPlayers :
    ∃ σ τ room, Run (Step defaultEnv) (initial {}) [.connect 0 "10.0.0.1",
        .connect 1 "10.0.0.2", .gameServerConnect 0, .chatLink true,
        .clientMessage 0 (.createRoom ⟨"h", "H", "room", 4⟩),
        .clientMessage 1 (.joinRoom ⟨"g", "G", "u"⟩), .clientMessage 1 .toggleReady,
        .clientMessage 0 .startGame] σ ∧
      σ.manager.rooms.find? "u" = some room ∧
      Run (Step defaultEnv) σ (List.map SlotRelease.input
        [⟨0, "g", "uu"⟩, ⟨0, "h", "stale"⟩, ⟨0, "g", "uu"⟩, ⟨0, "h", "uu"⟩]) τ ∧
      GameOver defaultEnv σ "u" room τ := by
  obtain ⟨σ, hrun, hσ⟩ := exists_run_of_exec (fun _ _ => true) (step defaultEnv) (initial {})
    [.connect 0 "10.0.0.1", .connect 1 "10.0.0.2", .gameServerConnect 0, .chatLink true,
      .clientMessage 0 (.createRoom ⟨"h", "H", "room", 4⟩),
      .clientMessage 1 (.joinRoom ⟨"g", "G", "u"⟩), .clientMessage 1 .toggleReady,
      .clientMessage 0 .startGame]
    (fun σ => (σ.manager.rooms.find? "u").any (fun room => room.state == .inGame &&
        room.sessionId == "uu" && room.playerIds == ["h", "g"]) &&
      (exec (fun _ _ => true) (step defaultEnv) σ (List.map SlotRelease.input
        [⟨0, "g", "uu"⟩, ⟨0, "h", "stale"⟩, ⟨0, "g", "uu"⟩, ⟨0, "h", "uu"⟩])).any
          fun _ => true)
    (by decide +kernel)
  rw [Bool.and_eq_true] at hσ
  obtain ⟨room, hroom, hgame⟩ := (Option.any_eq_true _ _).1 hσ.1
  obtain ⟨τ, hreleases, -⟩ := exists_run_of_exec _ _ _ _ _ hσ.2
  rw [Bool.and_eq_true, Bool.and_eq_true, beq_iff_eq, beq_iff_eq, beq_iff_eq] at hgame
  obtain ⟨⟨hstate, hsid⟩, hids⟩ := hgame
  have hne : room.players ≠ [] := by
    intro hnil
    rw [playerIds, hnil] at hids
    cases hids
  refine ⟨σ, τ, room, hrun.of_guarded, hroom, hreleases.of_guarded, ?_⟩
  refine (gameOver_of_covers hrun.of_guarded hroom hstate hne ⟨?_, ?_⟩
    hreleases.of_guarded).1
  · simp
  · intro p hp
    rw [hasPlayer_iff, hids] at hp
    rw [hsid]
    rcases List.mem_cons.1 hp with rfl | hp
    · exact ⟨⟨0, "h", "uu"⟩, by simp, rfl, rfl⟩
    · rw [List.mem_singleton.1 hp]
      exact ⟨⟨0, "g", "uu"⟩, by simp, rfl, rfl⟩

end Room

end SosBackend
