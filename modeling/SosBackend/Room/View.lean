import SosBackend.Room.Lobby
import SosBackend.Room.Waiting

/-!
# What the players of a waiting room see

A session learns what its room looks like from the answer to its own request and
from the updates that follow. `view` is the last room info with the id of the
room that a session has been handed. Every handler that changes a waiting room
tells all who are in it, in the same step and after the change (`Informs`), so
that each of them always holds the current one.
-/

namespace SosBackend

namespace Room

open RoomServer

/-- The room that an envelope shows to its receiver. -/
def Envelope.roomInfo : Envelope → Option RoomInfo
  | .createRoomResponse response => some response.room
  | .joinRoomResponse response => some response.room
  | .roomUpdate room => some room
  | _ => none

/-- What a delivery shows the session of the room under `r`. -/
def Delivery.shows (s : SessionPtr) (r : String) (d : Delivery) : Option RoomInfo :=
  if d.session = s then d.envelope.roomInfo.filter fun info => info.roomId == r else none

/-- The last room info of the room under `r` that the session has been handed. -/
def RoomServer.view (σ : RoomServer) (s : SessionPtr) (r : String) : Option RoomInfo :=
  lastOf (Delivery.shows s r) σ.sent

/-- Everybody in a waiting room holds its current view. -/
def ViewsCurrent (σ : RoomServer) : Prop :=
  ∀ r room, σ.manager.rooms.find? r = some room → room.state = .waiting →
    ∀ p, room.hasPlayer p = true → ∀ s, σ.lock p = some s →
      σ.view s r = some room.toRoomInfo

/-- A slot release carries a session id. -/
def releasesNamed (_ : RoomServer) : Input → Bool
  | .gameServerMessage _ (.slotReleased _ sid) => sid != ""
  | _ => true

/-!
## Telling a room
-/

variable {env : Env} {σ τ υ : RoomServer}

/-- A delivery shows no room at all. -/
def Delivery.Blank (d : Delivery) : Prop :=
  d.envelope.roomInfo = none

/-- A delivery shows a room under `r`, if any. -/
def Delivery.Only (r : String) (d : Delivery) : Prop :=
  ∀ info, d.envelope.roomInfo = some info → info.roomId = r

theorem view_of_only {r r' : String} (h : Emits (Delivery.Only r) σ τ) (hr : r' ≠ r)
    (s : SessionPtr) : τ.view s r' = σ.view s r' := by
  apply Appends.lastOf_eq
  apply Appends.mono h
  intro d hd
  unfold Delivery.shows
  split
  · rw [Option.filter_eq_none_iff]
    intro info hinfo hid
    exact hr ((beq_iff_eq.1 hid).symm.trans (hd info hinfo))
  · rfl

theorem view_of_blank (h : Emits Delivery.Blank σ τ) (s : SessionPtr) (r : String) :
    τ.view s r = σ.view s r := by
  apply Appends.lastOf_eq
  apply Appends.mono h
  intro d hd
  have hblank : d.envelope.roomInfo = none := hd
  simp [Delivery.shows, hblank]

theorem view_send {s : SessionPtr} {r : String} {addressee : Option String}
    {envelope : Envelope} {info : RoomInfo} (h : envelope.roomInfo = some info)
    (hr : info.roomId = r) : (σ.send s addressee envelope).view s r = some info := by
  have hshows : Delivery.shows s r ⟨s, addressee, envelope⟩ = some info := by
    simp [Delivery.shows, h, hr]
  rw [view, send, lastOf_append_singleton, hshows, Option.some_or]

/-- What has been seen stays, as long as only the same is sent. -/
theorem view_of_update {s : SessionPtr} {r : String} {info : RoomInfo}
    (h : Emits (fun d => d.envelope = .roomUpdate info) σ τ)
    (hview : σ.view s r = some info) : τ.view s r = some info := by
  have hsays : Appends (fun d => ∀ info', Delivery.shows s r d = some info' →
      info' = info) σ.sent τ.sent := by
    apply Appends.mono h
    intro d hd info' hshows
    simp only [Delivery.shows, hd, Envelope.roomInfo, Option.ite_none_right_eq_some,
      Option.filter_eq_some_iff, Option.some.injEq] at hshows
    exact hshows.2.1.symm
  rcases hsays.lastOf_eq_or with heq | heq
  · exact heq.trans hview
  · exact heq

theorem emits_broadcast (ids : List String) (info : RoomInfo) :
    Emits (fun d => d.envelope = .roomUpdate info) σ
      (σ.broadcast ids (.roomUpdate info)) := by
  apply (Emits.refl σ).broadcast
  intro q _ t
  rfl

/-- Who is on the list of a broadcast holds what it shows. -/
theorem view_broadcast {ids : List String} {q r : String} {t : SessionPtr} {info : RoomInfo}
    (hq : q ∈ ids) (hlock : σ.lock q = some t) (hr : info.roomId = r) :
    (σ.broadcast ids (.roomUpdate info)).view t r = some info := by
  induction ids generalizing σ with
  | nil => cases hq
  | cons p ids ih =>
      rw [broadcast, List.foldl_cons, ← broadcast]
      rcases List.mem_cons.1 hq with heq | hrest
      · subst heq
        apply view_of_update (emits_broadcast ids info)
        rw [sendTo, hlock]
        exact view_send rfl hr
      · apply ih hrest
        rw [lock_of_registry (registry_sendTo σ p _)]
        exact hlock

theorem only_broadcast {room : Room} {r : String} (hr : room.roomId = r) (ids : List String) :
    Emits (Delivery.Only r) σ (σ.broadcast ids (.roomUpdate room.toRoomInfo)) := by
  apply (emits_broadcast ids room.toRoomInfo).mono
  intro d hd info hinfo
  rw [hd] at hinfo
  cases hinfo
  exact hr

/-!
## What a handler owes to waiting rooms
-/

/-- Who is in a waiting room afterwards has been shown the room, or nothing has
happened to the room, to the player's session and to what that has seen. -/
def Informs (σ τ : RoomServer) : Prop :=
  ∀ r room, τ.registry.rooms r = some room → room.state = .waiting →
    ∀ p ∈ room.playerIds, ∀ s, τ.lock p = some s →
      τ.view s r = some room.toRoomInfo ∨
        σ.registry.rooms r = some room ∧ σ.lock p = some s ∧ τ.view s r = σ.view s r

theorem ViewsCurrent.of_informs (h : ViewsCurrent σ) (hinforms : Informs σ τ) :
    ViewsCurrent τ := by
  intro r room hroom hstate p hp s hlock
  rcases hinforms r room hroom hstate p (hasPlayer_iff.1 hp) s hlock with hview | hsame
  · exact hview
  · obtain ⟨hroom', hlock', hview⟩ := hsame
    rw [hview]
    exact h r room hroom' hstate p hp s hlock'

/-- A handler that shows no room, and leaves waiting rooms and the sessions of
players as they are or takes them away. -/
theorem Informs.of_blank
    (hrooms : ∀ r room, τ.registry.rooms r = some room → room.state = .waiting →
      σ.registry.rooms r = some room)
    (hlocks : ∀ p s, τ.lock p = some s → σ.lock p = some s)
    (hsent : Emits Delivery.Blank σ τ) : Informs σ τ := by
  intro r room hroom hstate p hp s hlock
  exact Or.inr ⟨hrooms r room hroom hstate, hlocks p s hlock, view_of_blank hsent s r⟩

theorem Informs.of_registry (hreg : τ.registry = σ.registry)
    (hsent : Emits Delivery.Blank σ τ) : Informs σ τ := by
  apply Informs.of_blank ?_ ?_ hsent
  · intro r room hroom _
    rwa [hreg] at hroom
  · intro p s hlock
    rwa [lock_of_registry hreg] at hlock

/-- A handler that shows one room, to all who are in it afterwards, and leaves the
other rooms and the sessions of the players in them as they are. -/
theorem Informs.of_told {r : String} {room : Room}
    (hindexed : τ.registry.Indexed env) (hroom : τ.registry.rooms r = some room)
    (hrooms : ∀ r', r' ≠ r → τ.registry.rooms r' = σ.registry.rooms r')
    (hlocks : ∀ p, p ∉ room.playerIds → τ.lock p = σ.lock p)
    (hsent : Emits (Delivery.Only r) σ τ)
    (htold : ∀ p ∈ room.playerIds, ∀ s, τ.lock p = some s →
      τ.view s r = some room.toRoomInfo) : Informs σ τ := by
  intro r' room' hroom' hstate p hp s hlock
  by_cases hr : r' = r
  · subst hr
    rw [hroom] at hroom'
    cases hroom'
    exact Or.inl (htold p hp s hlock)
  · have hout : p ∉ room.playerIds := by
      intro hin
      have heq := hindexed.index_of_mem hroom hin
      rw [hindexed.index_of_mem hroom' hp] at heq
      exact hr (Option.some.inj heq)
    rw [hlocks p hout] at hlock
    rw [hrooms r' hr] at hroom'
    exact Or.inr ⟨hroom', hlock, view_of_only hsent hr s⟩

/-- A room that has changed, with its update sent to the whole roster. -/
theorem Informs.of_update {r : String} {room : Room} (hindexed : τ.registry.Indexed env)
    (hroom : τ.registry.rooms r = some room)
    (hrooms : ∀ r', r' ≠ r → τ.registry.rooms r' = σ.registry.rooms r')
    (hlocks : ∀ p, τ.lock p = σ.lock p) (hsent : τ.sent = σ.sent) :
    Informs σ (τ.broadcastToRoom room (.roomUpdate room.toRoomInfo)) := by
  have hreg := registry_broadcastToRoom τ room (.roomUpdate room.toRoomInfo)
  have hid : room.roomId = r := hindexed.keyed r room hroom
  rw [← hreg] at hindexed hroom hrooms
  apply Informs.of_told hindexed hroom hrooms
  · intro p _
    rw [lock_of_registry hreg]
    exact hlocks p
  · exact (Emits.of_sent_eq hsent).trans (only_broadcast hid _)
  · intro p hp t hlock
    rw [lock_of_registry hreg] at hlock
    exact view_broadcast hp hlock hid

theorem Informs.notify (h : Informs σ τ) : Informs σ τ.notifyRoomListChanged := by
  intro r room hroom hstate p hp s hlock
  rw [registry_notifyRoomListChanged] at hroom
  rw [lock_of_registry (registry_notifyRoomListChanged τ)] at hlock
  rw [view, sent_notifyRoomListChanged, ← view]
  exact h r room hroom hstate p hp s hlock

/-!
## Create, join, leave and ready
-/

theorem lifetime_enter {v : Registry} {p r : String} {s : SessionPtr} (t : SessionPtr) :
    ((v.enter p r s).clients t).lifetime = (v.clients t).lifetime := by
  by_cases ht : t = s
  · simp [ht]
  · simp [ht]

theorem informs_handleCreateRoom (hσ : σ.registry.Indexed env) (request : CreateRoomRequest)
    (s : SessionPtr) : Informs σ (σ.handleCreateRoom env request s) := by
  cases hreject : σ.createRejection env request s with
  | some reject =>
      simp only [handleCreateRoom, hreject]
      apply Informs.of_registry
      · rfl
      · exact (Emits.refl σ).send rfl
  | none =>
      obtain ⟨a, heffect, -⟩ := effect_handleCreateRoom env request s σ
      have hindexed := hσ.act heffect.act
      have hreg := registry_handleCreateRoom hreject
      have hsent := sent_handleCreateRoom hreject
      generalize σ.handleCreateRoom env request s = τ at *
      generalize hroom : Room.create (env.uuid σ.backend.uuidsIssued) request.roomName
        request.playerId request.playerName request.maxPlayers = room at *
      have hid : room.roomId = env.uuid σ.backend.uuidsIssued := by
        rw [← hroom]
        rfl
      have hids : room.playerIds = [request.playerId] := by
        rw [← hroom]
        rfl
      have hcreated : τ.registry.rooms (env.uuid σ.backend.uuidsIssued) = some room := by
        rw [hreg]
        exact Function.update_self _ _ _
      apply Informs.of_told hindexed hcreated
      · intro r hr
        rw [hreg]
        exact Function.update_of_ne hr _ _
      · intro p hp
        rw [hids, List.mem_singleton] at hp
        apply lock_congr_at
        · rw [hreg]
          exact Function.update_of_ne hp _ _
        · intro t
          have hclients : τ.clients = τ.registry.clients := rfl
          rw [hclients, hreg]
          exact lifetime_enter t
      · refine ⟨_, hsent, ?_⟩
        intro d hd info hinfo
        rw [List.mem_singleton.1 hd] at hinfo
        cases hinfo
        exact hid
      · intro p hp t hlock
        rw [hids, List.mem_singleton] at hp
        subst hp
        have ht := (lock_eq_some.1 hlock).1
        rw [hreg] at ht
        have hs : t = s := by simpa using ht.symm
        subst hs
        have hview : (σ.send t none (.createRoomResponse ⟨true, room.toRoomInfo, ""⟩)).view t
            (env.uuid σ.backend.uuidsIssued) = some room.toRoomInfo := view_send rfl hid
        rw [view, hsent]
        exact hview

/-- Who joins is answered, and everybody else in the room is sent the update. -/
theorem informs_handleJoinRoom (hσ : σ.registry.Indexed env) (request : JoinRoomRequest)
    (s : SessionPtr) : Informs σ (σ.handleJoinRoom request s) := by
  cases hjoin : σ.joinableRoom request s with
  | error reject =>
      simp only [handleJoinRoom, hjoin]
      apply Informs.of_registry
      · rfl
      · exact (Emits.refl σ).send rfl
  | ok room' =>
      obtain ⟨a, heffect, -⟩ := effect_handleJoinRoom env request s σ
      have hindexed := hσ.act heffect.act
      have hreg := registry_handleJoinRoom hjoin
      have hadd := addPlayer_of_joinableRoom (fun p r room => hσ.index_of_mem) hjoin
      have hentered : request.playerId ∈
          (room'.addPlayer request.playerId request.playerName).2.playerIds := by
        simp [hadd, playerIds]
      simp only [handleJoinRoom, hjoin] at hindexed hreg ⊢
      generalize (room'.addPlayer request.playerId request.playerName).2 = room at *
      generalize hx : RoomServer.send _ s none _ = x at *
      rw [registry_notifyRoomListChanged, registry_broadcastToRoomExcept] at hindexed hreg
      have hroom : x.registry.rooms request.roomId = some room := by
        rw [hreg]
        exact Function.update_self _ _ _
      have hid : room.roomId = request.roomId := hindexed.keyed _ room hroom
      have hsent : Emits (Delivery.Only request.roomId) σ x := by
        rw [← hx]
        apply (Emits.of_sent_eq rfl).send
        intro info hinfo
        cases hinfo
        exact hid
      have hbroadcast : (x.broadcastToRoomExcept room (.roomUpdate room.toRoomInfo)
          request.playerId).notifyRoomListChanged.registry = x.registry := by
        rw [registry_notifyRoomListChanged, registry_broadcastToRoomExcept]
      rw [← hbroadcast] at hindexed hroom
      apply Informs.of_told hindexed hroom
      · intro r hr
        rw [hbroadcast, hreg]
        exact Function.update_of_ne hr _ _
      · intro p hp
        have hp' : p ≠ request.playerId := fun heq => hp (heq ▸ hentered)
        rw [lock_of_registry hbroadcast]
        apply lock_congr_at
        · rw [hreg]
          exact Function.update_of_ne hp' _ _
        · intro t
          have hclients : x.clients = x.registry.clients := rfl
          rw [hclients, hreg]
          exact lifetime_enter t
      · apply Emits.notify
        exact hsent.trans (only_broadcast hid _)
      · intro p hp t hlock
        rw [lock_of_registry hbroadcast] at hlock
        rw [view, sent_notifyRoomListChanged, ← view]
        by_cases heq : p = request.playerId
        · -- the others are sent what the answer has shown
          have ht := (lock_eq_some.1 hlock).1
          rw [hreg, heq] at ht
          have hs : t = s := by simpa using ht.symm
          apply view_of_update (emits_broadcast _ _)
          rw [← hx, hs]
          exact view_send rfl hid
        · apply view_broadcast ?_ hlock hid
          simp [hp, heq]

theorem informs_handleToggleReady (hσ : σ.registry.Indexed env) (p : String) :
    Informs σ (σ.handleToggleReady p) := by
  have hnothing : Informs σ σ := Informs.of_registry rfl (Emits.refl σ)
  obtain ⟨a, heffect, -⟩ := effect_handleToggleReady env p σ
  have hindexed := hσ.act heffect.act
  cases hp : σ.manager.playerToRoom.find? p with
  | none =>
      simp only [handleToggleReady, hp]
      exact hnothing
  | some r =>
  cases hroom : σ.manager.rooms.find? r with
  | none =>
      simp only [handleToggleReady, hp, hroom]
      exact hnothing
  | some room =>
  cases hhost : room.isHost p with
  | true =>
      simp only [handleToggleReady, hp, hroom, hhost, if_true]
      exact hnothing
  | false =>
      simp only [handleToggleReady, hp, hroom, hhost, Bool.false_eq_true, if_false]
        at hindexed ⊢
      rw [registry_broadcastToRoom] at hindexed
      have hreg : (σ.modifyRoom r fun _ => room.toggleReady p).registry =
          σ.registry.setRoom r (some (room.toggleReady p)) := registry_modifyRoom hroom _
      apply Informs.of_update hindexed
      · rw [hreg]
        exact Function.update_self _ _ _
      · intro r' hr
        rw [hreg]
        exact Function.update_of_ne hr _ _
      · intro q
        rfl
      · rfl

/-- A host who leaves takes the room away; the others are shown the room without
the player. -/
theorem informs_handleLeaveRoom (hσ : σ.registry.Indexed env) (p : String) :
    Informs σ (σ.handleLeaveRoom p) := by
  cases hp : σ.manager.playerToRoom.find? p with
  | none =>
      simp only [handleLeaveRoom, hp]
      exact Informs.of_registry rfl (Emits.refl σ)
  | some r =>
  cases hroom : σ.manager.rooms.find? r with
  | none =>
      simp only [handleLeaveRoom, hp, hroom]
      apply Informs.of_blank
      · intro r room hroom _
        rwa [registry_exitRoom] at hroom
      · intro q s hlock
        exact hlock
      · exact Emits.of_sent_eq rfl
  | some room =>
  have hreg : ((σ.modifyRoom r fun _ => room.removePlayer p).exitRoom p).registry =
      (σ.registry.setRoom r (some (room.removePlayer p))).setPlayerToRoom p none := by
    rw [registry_exitRoom, registry_modifyRoom hroom]
  simp only [handleLeaveRoom, hp, hroom]
  generalize hx : RoomServer.exitRoom _ p = x at *
  have hlocks : ∀ q, x.lock q = σ.lock q := by
    intro q
    rw [← hx]
    rfl
  have hsent : x.sent = σ.sent := by
    rw [← hx]
    rfl
  have hleft : x.registry.rooms r = some (room.removePlayer p) := by
    rw [hreg]
    exact Function.update_self _ _ _
  have hrooms : ∀ r', r' ≠ r → x.registry.rooms r' = σ.registry.rooms r' := by
    intro r' hr
    rw [hreg]
    exact Function.update_of_ne hr _ _
  have hindexed : x.registry.Indexed env := by
    rw [hreg]
    exact hσ.exit hp hroom
  apply Informs.notify
  split
  · have hremoved := registry_removeRoom hleft p
    apply Informs.of_blank
    · intro r' room' hroom' _
      rw [hremoved] at hroom'
      by_cases hr : r' = r
      · subst hr
        simp at hroom'
      · rw [← hrooms r' hr]
        simpa [hr] using hroom'
    · intro q s hlock
      rw [← hlocks q]
      rwa [lock_congr_at] at hlock
      · rw [hremoved]
        rfl
      · intro t
        exact congrArg (fun v : Registry => (v.clients t).lifetime) hremoved
    · apply emits_removeRoom (Emits.of_sent_eq hsent)
      intro q s
      rfl
  · split
    · exact Informs.of_update hindexed hleft hrooms hlocks hsent
    · next hcount =>
        -- nobody is left to be told
        have hnobody : (room.removePlayer p).playerIds = [] := by
          apply hσ.playerIds_eq_nil hroom
          exact UInt32.le_zero_iff.1 (UInt32.not_lt.1 hcount)
        apply Informs.of_told hindexed hleft hrooms
        · intro q _
          exact hlocks q
        · exact Emits.of_sent_eq hsent
        · intro q hq
          rw [hnobody] at hq
          cases hq

/-!
## Changes that show nothing
-/

/-- The changes whose handlers show a room. -/
def Action.shows : Action → Bool
  | .create _ _ _ => true
  | .join _ _ => true
  | .leave _ _ => true
  | .toggle _ _ => true
  | _ => false

namespace Registry

/-- A session is registered only once it has been accepted. -/
def Born (v : Registry) : Prop :=
  ∀ p s, v.sessions p = some s → (v.clients s).lifetime ≠ .unborn

/-- Waiting rooms and live sessions of players are as they were, or gone. -/
structure Sheds (v w : Registry) : Prop where
  rooms : ∀ r room, w.rooms r = some room → room.state = .waiting → v.rooms r = some room
  sessions : ∀ p s, w.sessions p = some s → (w.clients s).lifetime = .alive →
    v.sessions p = some s ∧ (v.clients s).lifetime = .alive

variable {v w : Registry}

theorem Sheds.refl (v : Registry) : v.Sheds v :=
  ⟨fun _ _ hroom _ => hroom, fun _ _ hs halive => ⟨hs, halive⟩⟩

theorem Sheds.trans {u : Registry} (h : v.Sheds w) (h' : w.Sheds u) : v.Sheds u where
  rooms r room hroom hstate := h.rooms r room (h'.rooms r room hroom hstate) hstate
  sessions p s hs halive := by
    obtain ⟨hs', halive'⟩ := h'.sessions p s hs halive
    exact h.sessions p s hs' halive'

theorem Sheds.lock (h : σ.registry.Sheds τ.registry) (p : String) (s : SessionPtr)
    (hlock : τ.lock p = some s) : σ.lock p = some s := by
  obtain ⟨hs, halive⟩ := lock_eq_some.1 hlock
  exact lock_eq_some.2 (h.sessions p s hs halive)

end Registry

/-- Where sessions stay or go, and lifetimes stay. -/
theorem sessions_of_update {v w : Registry}
    (hsessions : ∀ p s, w.sessions p = some s → v.sessions p = some s)
    (hlifetime : ∀ s, (w.clients s).lifetime = .alive → (v.clients s).lifetime = .alive)
    (p : String) (s : SessionPtr) (hs : w.sessions p = some s)
    (halive : (w.clients s).lifetime = .alive) :
    v.sessions p = some s ∧ (v.clients s).lifetime = .alive :=
  ⟨hsessions p s hs, hlifetime s halive⟩

theorem sessions_of_erase {v : Registry} {q : String} (p : String) (s : SessionPtr)
    (h : Function.update v.sessions q none p = some s) : v.sessions p = some s := by
  by_cases hp : p = q
  · subst hp
    rw [Function.update_self] at h
    cases h
  · rwa [Function.update_of_ne hp] at h

theorem lifetime_of_update {v : Registry} {s : SessionPtr} {c : ClientSession}
    (hc : c.lifetime = .alive → (v.clients s).lifetime = .alive) (t : SessionPtr)
    (h : (Function.update v.clients s c t).lifetime = .alive) :
    (v.clients t).lifetime = .alive := by
  by_cases ht : t = s
  · subst ht
    rw [Function.update_self] at h
    exact hc h
  · rwa [Function.update_of_ne ht] at h

/-- A change that shows no room, and releases nobody from a waiting one. -/
theorem Act.sheds {v w : Registry} {a : Action} (h : Act env v a w) (hborn : v.Born)
    (hshows : a.shows = false)
    (hrelease : ∀ p r room, a = .release p r → v.rooms r = some room →
      room.state ≠ .waiting) : v.Sheds w := by
  refine ⟨?_, ?_⟩
  · intro r room hroom hstate
    rcases h.room_inv hroom with hstart | ⟨room', hroom', hstep⟩
    · cases hstart
      cases hshows
    cases hstep with
    | keep => exact hroom'
    | start hhost hready => cases hstate
    | release hcount => exact absurd hstate (hrelease _ r room' rfl hroom')
    | _ => cases hshows
  · cases h with
    | create | join | leave | toggle => cases hshows
    | release | releaseLast | forgetSlot | unregister =>
        exact sessions_of_update sessions_of_erase fun _ halive => halive
    | @accept s remoteIp hunborn =>
        intro p t hs halive
        have ht : t ≠ s := by
          intro heq
          exact hborn p t hs (heq ▸ hunborn)
        rw [Registry.setClient_clients, Function.update_of_ne ht] at halive
        exact ⟨hs, halive⟩
    | shut | clear =>
        exact sessions_of_update (fun _ _ hs => hs) (lifetime_of_update fun halive => halive)
    | expire =>
        exact sessions_of_update (fun _ _ hs => hs)
          (lifetime_of_update fun halive => by cases halive)
    | _ => exact (Registry.Sheds.refl _).sessions

/-!
## Steps
-/

/-- A session that has been accepted stays so. -/
theorem Act.born {v w : Registry} {a : Action} (h : Act env v a w) (s : SessionPtr)
    (hs : (v.clients s).lifetime ≠ .unborn) : (w.clients s).lifetime ≠ .unborn := by
  have hset : ∀ {t : SessionPtr} {c : ClientSession}, c.lifetime ≠ .unborn ∨
      c.lifetime = (v.clients t).lifetime →
      (Function.update v.clients t c s).lifetime ≠ .unborn := by
    intro t c hc
    by_cases ht : s = t
    · subst ht
      rw [Function.update_self]
      rcases hc with hc | hc
      · exact hc
      · rwa [hc]
    · rwa [Function.update_of_ne ht]
  cases h with
  | create | join => rwa [lifetime_enter]
  | accept hunborn => exact hset (Or.inl (by simp))
  | shut | clear => exact hset (Or.inr rfl)
  | expire => exact hset (Or.inl (by simp))
  | _ => exact hs

/-- Who creates or joins a room does so on a session that has been accepted. -/
theorem born_of_enter {i : Input} {x : RoomServer} {a : Action} {s : SessionPtr}
    (hstep : Step env σ i υ) (h : Cause env σ i x a)
    (ha : (∃ request r, a = .create request s r) ∨ ∃ request, a = .join request s) :
    (x.registry.clients s).lifetime ≠ .unborn := by
  have hmessage : ∃ envelope, i = .clientMessage s envelope ∧ x.registry = σ.registry := by
    rcases ha with ⟨request, r, rfl⟩ | ⟨request, rfl⟩
    · exact ⟨_, h.1, h.2.2.1⟩
    · exact ⟨_, h.1, h.2.2.1⟩
  obtain ⟨envelope, rfl, hreg⟩ := hmessage
  obtain ⟨halive, -⟩ := Option.ite_some_none_eq_some.1 hstep
  intro hunborn
  rw [hreg] at hunborn
  cases halive.symm.trans hunborn

theorem born_change {i : Input} {x y : RoomServer} {a : Action} (hstep : Step env σ i υ)
    (h : Change env σ i x a y) (hx : x.registry.Born) : y.registry.Born := by
  have hact := h.1.act
  have henter := fun s => born_of_enter (s := s) hstep h.2
  intro p s hs
  apply hact.born s
  generalize x.registry = v at *
  generalize y.registry = w at *
  by_cases hold : v.sessions p = some s
  · exact hx p s hold
  · -- the step has registered the session
    cases hact with
    | @create request t hadmits hcount hmin hmax =>
        by_cases hp : p = request.playerId
        · have hst : t = s := by simpa [hp] using hs
          exact hst ▸ henter t (Or.inl ⟨request, _, rfl⟩)
        · exact absurd (by simpa [hp] using hs) hold
    | @join request t room hadmits hroom hstate hfull =>
        by_cases hp : p = request.playerId
        · have hst : t = s := by simpa [hp] using hs
          exact hst ▸ henter t (Or.inr ⟨request, rfl⟩)
        · exact absurd (by simpa [hp] using hs) hold
    | release | releaseLast | forgetSlot | unregister =>
        exact absurd (sessions_of_erase p s hs) hold
    | _ => exact absurd hs hold

/-- All that the argument keeps along a run. -/
structure Shown (env : Env) (σ : RoomServer) : Prop where
  indexed : σ.registry.Indexed env
  born : σ.registry.Born
  intact : WaitingIntact σ
  views : ViewsCurrent σ

theorem views_closeClient (hindexed : σ.registry.Indexed env) (hσ : ViewsCurrent σ)
    (s : SessionPtr) : ViewsCurrent (σ.closeClient s) := by
  cases hclosed : (σ.clients s).closed with
  | true =>
      have hstay : σ.closeClient s = σ := if_pos hclosed
      rwa [hstay]
  | false =>
      have hshut : ViewsCurrent (σ.shutClient s) := by
        apply hσ.of_informs
        apply Informs.of_blank
        · intro r room hroom _
          rwa [registry_shutClient] at hroom
        · intro p t hlock
          rwa [lock_shutClient] at hlock
        · exact Emits.of_sent_eq rfl
      have hshutIndexed : (σ.shutClient s).registry.Indexed env := by
        rw [registry_shutClient]
        exact hindexed.of_eq rfl rfl le_rfl
      rw [closeClient_eq hclosed]
      split
      · exact hshut
      · have hleft := hshut.of_informs
          (informs_handleLeaveRoom hshutIndexed (σ.clients s).playerId)
        apply hleft.of_informs
        generalize (σ.shutClient s).handleLeaveRoom (σ.clients s).playerId = x
        have hreg : ((x.unregisterSession (σ.clients s).playerId).updateClient s
            fun c => { c with playerId := "" }).registry = (x.registry.setSession
              (σ.clients s).playerId none).setClient s
                { x.clients s with playerId := "" } := by
          rw [registry_updateClient, registry_unregisterSession]
          rfl
        apply Informs.of_blank
        · intro r room hroom _
          rwa [hreg] at hroom
        · apply Registry.Sheds.lock
          rw [hreg]
          refine ⟨fun _ _ hroom _ => hroom, ?_⟩
          exact sessions_of_update sessions_of_erase (lifetime_of_update fun halive => halive)
        · exact Emits.of_sent_eq rfl

/-- A message that the rate limiter lets through. -/
theorem views_dispatch (hindexed : σ.registry.Indexed env) (hborn : σ.registry.Born)
    (hσ : ViewsCurrent σ) (s : SessionPtr) (envelope : Envelope) :
    ViewsCurrent (σ.dispatch env s envelope) := by
  cases envelope with
  | createRoom request => exact hσ.of_informs (informs_handleCreateRoom hindexed request s)
  | joinRoom request => exact hσ.of_informs (informs_handleJoinRoom hindexed request s)
  | leaveRoom =>
      simp only [dispatch]
      split
      · have hleft := hσ.of_informs (informs_handleLeaveRoom hindexed (σ.clients s).playerId)
        apply hleft.of_informs
        apply Informs.notify
        exact Informs.of_registry rfl (Emits.of_sent_eq rfl)
      · exact hσ
  | toggleReady =>
      simp only [dispatch]
      split
      · exact hσ.of_informs (informs_handleToggleReady hindexed (σ.clients s).playerId)
      · exact hσ
  | startGame =>
      simp only [dispatch]
      split
      · obtain ⟨a, heffect, ha⟩ := effect_handleStartGame env (σ.clients s).playerId σ
        have hsheds : σ.registry.Sheds (σ.handleStartGame env (σ.clients s).playerId).registry := by
          apply heffect.act.sheds hborn
          · rcases ha with rfl | ⟨r, rfl⟩
            · rfl
            · rfl
          · intro p r room heq
            rcases ha with rfl | ⟨r', rfl⟩
            · cases heq
            · cases heq
        apply hσ.of_informs
        apply Informs.of_blank hsheds.rooms hsheds.lock
        apply emits_handleStartGame
        · intro q t reject
          rfl
        · intro q t game
          rfl
      · exact hσ
  | roomListRequest request =>
      apply hσ.of_informs
      apply Informs.of_registry
      · rfl
      · exact (Emits.refl σ).send rfl
  | _ => exact hσ

theorem views_processMessage (hindexed : σ.registry.Indexed env) (hborn : σ.registry.Born)
    (hσ : ViewsCurrent σ) (s : SessionPtr) (envelope : Envelope) :
    ViewsCurrent (σ.processMessage env s envelope) := by
  obtain ⟨b, hissued, -, hmessage⟩ := processMessage_eq env σ s
  have hreg : ({ σ with backend := b } : RoomServer).registry = σ.registry :=
    registry_backend hissued
  have hx : ViewsCurrent ({ σ with backend := b } : RoomServer) :=
    hσ.of_informs (Informs.of_registry hreg (Emits.of_sent_eq rfl))
  rw [hmessage]
  split
  · have hindexed' : ({ σ with backend := b } : RoomServer).registry.Indexed env := by
      rwa [hreg]
    apply views_closeClient
    · exact hindexed'
    · apply hx.of_informs
      apply Informs.of_registry
      · rfl
      · exact (Emits.refl _).send rfl
  · apply views_dispatch
    · rwa [hreg]
    · rwa [hreg]
    · exact hx

/-- A step that handles no client shows no room. -/
theorem blank_step {i : Input} (hstep : Step env σ i τ)
    (hmessage : ∀ s envelope, i ≠ .clientMessage s envelope)
    (hclose : ∀ s, i ≠ .clientClose s) : Emits Delivery.Blank σ τ := by
  cases i with
  | clientMessage s envelope => exact absurd rfl (hmessage s envelope)
  | clientClose s => exact absurd rfl (hclose s)
  | gameServerMessage k envelope =>
      obtain ⟨store, -, -, rfl⟩ := hstep.gameServerMessage_inv
      apply Emits.of_sent_eq
      exact sent_processInternalMessage env store k envelope σ
  | gameServerClose k =>
      obtain ⟨-, rfl⟩ := Option.ite_some_none_eq_some.1 hstep
      apply emits_closeGameServer
      intro q t
      rfl
  | lobbyTimer cancelled =>
      obtain ⟨-, rfl⟩ := Option.ite_some_none_eq_some.1 hstep
      unfold lobbyTimerHandler
      simp only
      split
      · exact Emits.of_sent_eq rfl
      · exact (Emits.of_sent_eq rfl).trans (broadcastRoomListToLobby_spec _ fun _ _ => rfl).2.2
  | chatLink connected =>
      obtain rfl := Option.some.inj hstep
      exact Emits.of_sent_eq rfl
  | tick seconds =>
      obtain rfl := Option.some.inj hstep
      exact Emits.of_sent_eq rfl
  | _ =>
      obtain ⟨-, rfl⟩ := Option.ite_some_none_eq_some.1 hstep
      exact Emits.of_sent_eq rfl

theorem namesSession_of_releasesNamed {i : Input} (h : releasesNamed σ i = true) :
    namesSession σ i = true := by
  unfold namesSession
  split
  · have hsid := h
    simp only [releasesNamed] at hsid
    rw [hsid, Bool.true_or]
  · rfl

/-- Only the messages and the close of a client show a room. -/
theorem shows_of_cause {i : Input} {x : RoomServer} {a : Action} (h : Cause env σ i x a)
    (hmessage : ∀ s envelope, i ≠ .clientMessage s envelope)
    (hclose : ∀ s, i ≠ .clientClose s) : a.shows = false := by
  cases a with
  | create request s r => exact absurd h.1 (hmessage s _)
  | join request s => exact absurd h.1 (hmessage s _)
  | toggle p r =>
      obtain ⟨s, hi, -⟩ := h
      exact absurd hi (hmessage s _)
  | leave p r =>
      obtain ⟨s, hdeparting, -⟩ := h
      cases i with
      | clientMessage t envelope => exact absurd rfl (hmessage t envelope)
      | clientClose t => exact absurd rfl (hclose t)
      | _ => cases hdeparting
  | _ => rfl

theorem sheds_step {i : Input} (hstep : Guarded releasesNamed (Step env) σ i τ)
    (hborn : σ.registry.Born) (hintact : WaitingIntact σ)
    (hmessage : ∀ s envelope, i ≠ .clientMessage s envelope)
    (hclose : ∀ s, i ≠ .clientClose s) : σ.registry.Sheds τ.registry := by
  obtain ⟨as, hrun⟩ := run_step hstep.1
  have hsheds : τ.registry.Born ∧ σ.registry.Sheds τ.registry := by
    refine hrun.invariant
      (I := fun x => x.registry.Born ∧ σ.registry.Sheds x.registry) ?_
      ⟨hborn, Registry.Sheds.refl _⟩
    intro x a y hchange hx
    refine ⟨born_change hstep.1 hchange hx.1, hx.2.trans ?_⟩
    have hact := hchange.1.act
    apply hact.sheds hx.1 (shows_of_cause hchange.2 hmessage hclose)
    · intro p r room ha hroom
      exact state_of_release (namesSession_of_releasesNamed hstep.2)
        (fun r room h hw => (hintact r room h hw).idle) hchange.2 (Or.inl ha)
        (hact.release_inv (Or.inl ha)) hroom
  exact hsheds.2

theorem shown_step {i : Input} (hstep : Guarded releasesNamed (Step env) σ i τ)
    (hσ : Shown env σ) : Shown env τ := by
  have hnames : Guarded namesSession (Step env) σ i τ :=
    ⟨hstep.1, namesSession_of_releasesNamed hstep.2⟩
  refine ⟨indexed_step hstep.1 hσ.indexed, ?_, intact_step hnames hσ.intact, ?_⟩
  · obtain ⟨as, hrun⟩ := run_step hstep.1
    exact hrun.invariant (I := fun x => x.registry.Born)
      (fun _ _ _ hchange => born_change hstep.1 hchange) hσ.born
  · by_cases hmessage : ∃ s envelope, i = .clientMessage s envelope
    · obtain ⟨s, envelope, rfl⟩ := hmessage
      obtain ⟨-, rfl⟩ := Option.ite_some_none_eq_some.1 hstep.1
      exact views_processMessage hσ.indexed hσ.born hσ.views s envelope
    · by_cases hclose : ∃ s, i = .clientClose s
      · obtain ⟨s, rfl⟩ := hclose
        obtain ⟨-, rfl⟩ := Option.ite_some_none_eq_some.1 hstep.1
        exact views_closeClient hσ.indexed hσ.views s
      · have hmessage' : ∀ s envelope, i ≠ .clientMessage s envelope :=
          fun s envelope hi => hmessage ⟨s, envelope, hi⟩
        have hclose' : ∀ s, i ≠ .clientClose s := fun s hi => hclose ⟨s, hi⟩
        have hsheds := sheds_step hstep hσ.born hσ.intact hmessage' hclose'
        apply hσ.views.of_informs
        exact Informs.of_blank hsheds.rooms hsheds.lock (blank_step hstep.1 hmessage' hclose')

/-- As long as every slot release carries a session id, the last room info that
the session of a player in a waiting room has been handed is what the room is. -/
theorem viewsCurrent_of_run {store : Redis.Keyspace} {is : List Input}
    (h : Run (Guarded releasesNamed (Step env)) (initial store) is σ) : ViewsCurrent σ := by
  have hshown : Shown env σ := by
    refine h.invariant (I := Shown env) (fun _ _ _ => shown_step) ⟨?_, ?_, ?_, ?_⟩
    · exact indexed_initial env _ rfl
    · intro p s hs
      cases hs
    · exact waitingIntact_initial store
    · intro r room hroom
      cases hroom
  exact hshown.views

/-- A guest joins and gets ready. -/
theorem viewsCurrent_of_run_toggleReady :
    ∃ σ, Run (Guarded releasesNamed (Step defaultEnv)) (initial {})
      [.connect 0 "10.0.0.1", .connect 1 "10.0.0.2",
        .clientMessage 0 (.createRoom ⟨"h", "H", "room", 4⟩),
        .clientMessage 1 (.joinRoom ⟨"g", "G", "u"⟩), .clientMessage 1 .toggleReady] σ ∧
      ViewsCurrent σ := by
  obtain ⟨σ, hrun, -⟩ := exists_run_of_exec releasesNamed (step defaultEnv) (initial {})
    [.connect 0 "10.0.0.1", .connect 1 "10.0.0.2",
      .clientMessage 0 (.createRoom ⟨"h", "H", "room", 4⟩),
      .clientMessage 1 (.joinRoom ⟨"g", "G", "u"⟩), .clientMessage 1 .toggleReady]
    (fun _ => true) (by decide +kernel)
  exact ⟨σ, hrun, viewsCurrent_of_run hrun⟩

end Room

end SosBackend
